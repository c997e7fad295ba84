/-
Permission grants from the calls in the traced process to the atoms about them.
Two programs, the ring buffer, the handler and what the bridge service knows of
packages stand in between; here is what there is to know of each call, and that
the two sinks of the handler get exactly this.
-/
import UprobeStats.AccessibilitySinks
import UprobeStats.Attribution
import UprobeStats.DisabledLaunchers

namespace UprobeStats.Accessibility

open Bytes Grouping Memory Traced

/-- What the bridge service knows while a record is handled. -/
structure Device where
  packageManager : DisruptiveApp.PackageManager
  /-- The packages of the enabled accessibility services, and nothing when
  there is no accessibility manager. -/
  getEnabledAccessibilityServiceList : Option (List String)

namespace Device

variable (device : Device)

/-- `packageHasEnabledAccessibilityService` of the bridge service. -/
def packageHasEnabledAccessibilityService (packageName : String) : Bool :=
  match device.getEnabledAccessibilityServiceList with
  | none => false
  | some services => services.any fun name => name == packageName

def bridgeService : BridgeService where
  onGet := .ok ()
  onPackageHasEnabledAccessibilityService packageName :=
    .ok (device.packageHasEnabledAccessibilityService packageName)
  onGetUidForPackage packageName := .ok (device.packageManager.getUidForPackage packageName)
  onEnqueueEvent _ _ := .ok ()

end Device

/-- A call of one of the two methods that are traced. -/
inductive Method where
  | grantRuntimePermission (packageName permissionName : String)
  | execTransactInternal (interfaceDescriptor : String) (code callingUid : Int32)
deriving DecidableEq, Repr

/-- What the arrays have room for.  A descriptor is only compared. -/
def Method.cut : Method → Method
  | .grantRuntimePermission packageName permissionName =>
      .grantRuntimePermission (takeChars 127 packageName) (takeChars 127 permissionName)
  | .execTransactInternal interfaceDescriptor code callingUid =>
      .execTransactInternal interfaceDescriptor code callingUid

def accessibilityServiceConnection : String :=
  "android.accessibilityservice.IAccessibilityServiceConnection"

/-- What there is to know of a call: the grant of a system permission to an app
with an enabled accessibility service, and a transaction on the connection of
such a service. -/
def Device.known (device : Device) : Method → Option (Int32 × EventType)
  | .grantRuntimePermission packageName permissionName =>
      if startsWith permissionName "android.permission" ∧
          device.packageHasEnabledAccessibilityService packageName then
        some (device.packageManager.getUidForPackage packageName,
          .runtimePermissionGrant permissionName)
      else none
  | .execTransactInternal interfaceDescriptor code callingUid =>
      if interfaceDescriptor = accessibilityServiceConnection then some (callingUid, .a11y code)
      else none

/-- A call while its program is attached: the machine at that moment, the
record that the ring buffer has for it, if it has room, and the device when the
record is handled. -/
structure Call where
  method : Method
  ktimeGetNs : UInt64
  ctx : PtRegs
  mem : Image
  reserved : Option AccessibilityEvent
  device : Device

namespace Call

variable (call : Call)

/-- The machine is at this call, and the strings of the call can be read. -/
def Regular : Prop :=
  match call.method with
  | .grantRuntimePermission packageName permissionName =>
      DisruptiveApp.Gets call.mem (some (call.ctx.regs 2)) packageName ∧ packageName ≠ "" ∧
        DisruptiveApp.Gets call.mem (some (call.ctx.regs 3)) permissionName ∧ permissionName ≠ ""
  | .execTransactInternal interfaceDescriptor code callingUid =>
      DisruptiveApp.Gets call.mem
          (some (readPointer call.mem 4 (call.ctx.regs 1 + kBinderDescriptorOffset)))
          interfaceDescriptor ∧
        (call.ctx.regs 2).toUInt32.toInt32 = code ∧
        (call.ctx.regs 6).toUInt32.toInt32 = callingUid

/-- The record that the program submits. -/
def record : Option AccessibilityEvent :=
  match call.method with
  | .grantRuntimePermission _ _ =>
      (grantRuntimePermission call.ctx call.mem call.ktimeGetNs call.reserved).2
  | .execTransactInternal _ _ _ =>
      (dispatchGesture call.ctx call.mem call.ktimeGetNs call.reserved).2

/-- The item that the handler gets. -/
def arrival : Option Arrival :=
  call.record.map fun record => ⟨record, call.device.bridgeService⟩

/-- The event of a call. -/
def event : Option Event :=
  if call.reserved.isSome then
    (call.device.known call.method.cut).map fun event => .new event.1 call.ktimeGetNs event.2
  else none

end Call

/-- The events that the bridge service gets while the items are handled. -/
def sentEvents (arrivals : List Arrival) : List BridgeEvent :=
  arrivals.flatMap fun arrival => enqueued (handleItem arrival.service arrival.data).trace

/-! The programs. -/

/-- The record tells of this call. -/
structure Tells (data : AccessibilityEvent) (ktimeGetNs : UInt64) (method : Method) : Prop where
  errorCode : 0 ≤ data.errorCode
  timestampNs : data.timestampNs = ktimeGetNs
  conveys : match method with
    | .grantRuntimePermission packageName permissionName =>
        data.variant = 1 ∧ bytesAsNonemptyStr data.packageName = .ok packageName ∧
          bytesAsNonemptyStr data.permissionName = .ok permissionName
    | .execTransactInternal interfaceDescriptor code callingUid =>
        interfaceDescriptor = accessibilityServiceConnection ∧
          data.variant = 2 ∧ data.uid = callingUid ∧ data.code = code

section Programs

variable {mem : Image} {jstring : UInt64} {s : String}

/-- A string that can be read is recorded without an error. -/
theorem recordString_fst (hgets : DisruptiveApp.Gets mem (some jstring) s) (dest : List UInt8) :
    0 ≤ (recordString mem jstring maxStringLength dest).1 ∧
      (recordString mem jstring maxStringLength dest).1 ≤ maxStringLength := by
  obtain ⟨other, hother, hrefers, hascii⟩ := hgets
  obtain rfl : jstring = other := Option.some.inj hother
  rw [recordString_eq_copiedString]
  exact hrefers.copiedString_fst hascii (by decide)

theorem errorCode_nonneg (hgets : DisruptiveApp.Gets mem (some jstring) s) (dest : List UInt8) :
    0 ≤ Int32.ofInt (recordString mem jstring maxStringLength dest).1 := by
  obtain ⟨hlower, hupper⟩ := recordString_fst hgets dest
  rw [Int32.le_iff_toInt_le, Int32.toInt_zero,
    Int32.toInt_ofInt_of_le (le_trans (by decide) hlower) (lt_of_le_of_lt hupper (by decide))]
  exact hlower

theorem bytesAsStr_recordString (hgets : DisruptiveApp.Gets mem (some jstring) s)
    (dest : List UInt8) :
    bytesAsStr (recordString mem jstring maxStringLength dest).2 = .ok (takeChars 127 s) := by
  obtain ⟨other, hother, hrefers, hascii⟩ := hgets
  obtain rfl : jstring = other := Option.some.inj hother
  exact hrefers.bytesAsStr_eq hascii (by decide) dest

theorem bytesAsNonemptyStr_recordString (hgets : DisruptiveApp.Gets mem (some jstring) s)
    (hne : s ≠ "") (dest : List UInt8) :
    bytesAsNonemptyStr (recordString mem jstring maxStringLength dest).2 =
      .ok (takeChars 127 s) := by
  rw [bytesAsNonemptyStr, bytesAsStr_recordString hgets dest]
  exact if_neg (mt String.isEmpty_iff.1 (takeChars_ne_empty (by decide) hne))

theorem grantRuntimePermission_submits {ctx : PtRegs} {packageName permissionName : String}
    (hpackage : DisruptiveApp.Gets mem (some (ctx.regs 2)) packageName)
    (hpackageName : packageName ≠ "")
    (hpermission : DisruptiveApp.Gets mem (some (ctx.regs 3)) permissionName)
    (hpermissionName : permissionName ≠ "") (ktimeGetNs : UInt64) (reserved : AccessibilityEvent) :
    ∃ data, (grantRuntimePermission ctx mem ktimeGetNs (some reserved)).2 = some data ∧
      Tells data ktimeGetNs (Method.grantRuntimePermission packageName permissionName).cut := by
  have hcopied : 0 ≤ (recordStringArg mem ctx maxStringLength 0 reserved.packageName).1 :=
    (recordString_fst hpackage reserved.packageName).1
  rw [grantRuntimePermission]
  simp only [if_neg (not_lt.2 hcopied)]
  refine ⟨_, rfl, errorCode_nonneg hpermission reserved.permissionName, rfl, rfl, ?_, ?_⟩
  · exact bytesAsNonemptyStr_recordString hpackage hpackageName _
  · exact bytesAsNonemptyStr_recordString hpermission hpermissionName _

/-- The descriptor is compared as far as it is recorded, which is far enough. -/
theorem text_recorded_eq_iff (hgets : DisruptiveApp.Gets mem (some jstring) s) :
    text (recordString mem jstring maxStringLength (List.replicate maxStringLength 0)).2 =
      text kTargetInterfaceDescriptor ↔ s = accessibilityServiceConnection := by
  obtain ⟨other, hother, hrefers, hascii⟩ := hgets
  obtain rfl : jstring = other := Option.some.inj hother
  have hrecorded : text (recordString mem jstring maxStringLength
      (List.replicate maxStringLength 0)).2 = asBytes (takeChars 127 s) := by
    rw [hrefers.copied hascii (by decide), overwrite, List.append_assoc, List.singleton_append,
      text_append_nul (hascii.take _).nul_notMem]
    rfl
  have htarget : text kTargetInterfaceDescriptor = asBytes accessibilityServiceConnection :=
    text_fill (by decide +kernel) (by decide +kernel)
  have hlength : accessibilityServiceConnection.length < 127 := by decide
  rw [hrecorded, htarget, ← takeChars_eq_iff_of_length_lt hlength]
  constructor
  · intro hbytes
    have hdecoded := congrArg fromUtf8 hbytes
    rw [fromUtf8_asBytes, fromUtf8_asBytes] at hdecoded
    exact Option.some.inj hdecoded
  · intro heq
    rw [heq]

end Programs

/-- A regular call leaves a record that tells of it, if the ring buffer has
room and the call is one that matters. -/
theorem Call.Regular.record_cases {call : Call} (hregular : call.Regular) :
    call.record = none ∧ call.event = none ∨
      ∃ data, call.record = some data ∧ call.reserved.isSome = true ∧
        Tells data call.ktimeGetNs call.method.cut := by
  obtain ⟨method, ktimeGetNs, ctx, mem, reserved, device⟩ := call
  cases reserved with
  | none =>
      left
      refine ⟨?_, rfl⟩
      cases method with
      | grantRuntimePermission packageName permissionName => rfl
      | execTransactInternal interfaceDescriptor code callingUid =>
          simp only [Call.record, dispatchGesture]
          split <;> rfl
  | some output =>
      cases method with
      | grantRuntimePermission packageName permissionName =>
          obtain ⟨hpackage, hpackageName, hpermission, hpermissionName⟩ := hregular
          obtain ⟨data, hdata, htells⟩ := grantRuntimePermission_submits hpackage hpackageName
            hpermission hpermissionName ktimeGetNs output
          exact .inr ⟨data, hdata, rfl, htells⟩
      | execTransactInternal interfaceDescriptor code callingUid =>
          obtain ⟨hdescriptor, hcode, hcallingUid⟩ := hregular
          have hcompared := text_recorded_eq_iff hdescriptor
          simp only [Call.record, dispatchGesture, ne_eq, hcompared]
          by_cases htarget : interfaceDescriptor = accessibilityServiceConnection
          · right
            rw [if_neg (not_not.2 htarget)]
            exact ⟨_, rfl, rfl, Int32.le_refl 0, rfl, htarget, rfl, hcallingUid, hcode⟩
          · left
            rw [if_pos htarget]
            refine ⟨rfl, ?_⟩
            simp only [Call.event, Method.cut, Device.known, if_neg htarget, Option.map_none,
              ite_self]

/-! The handler. -/

section Handler

variable {device : Device} {data : AccessibilityEvent} {timestampNs : UInt64} {method : Method}

/-- The item is handled, and what is stored of it is sent to the bridge
service. -/
structure Takes (service : BridgeService) (data : AccessibilityEvent) (event : Option Event) :
    Prop where
  outcome : (handleItem service data).outcome = .ok event
  sent : (enqueued (handleItem service data).trace).map Outcome.ok =
    event.toList.map Event.toBridgeEvent

theorem call_bind_of_ok {α β : Type} {request : BridgeCall} {answer : Except String α} {value : α}
    (hanswer : answer = .ok value) (next : α → Run BridgeCall AnyError β) :
    BridgeService.call request answer >>= next =
      ⟨request :: (next value).trace, (next value).outcome⟩ := by
  subst hanswer
  rfl

theorem Takes.of_run {service : BridgeService} {event : Option Event} {calls : List BridgeCall}
    (hrun : handleItem service data = ⟨calls, .ok event⟩)
    (hsent : (enqueued calls).map Outcome.ok = event.toList.map Event.toBridgeEvent) :
    Takes service data event := by
  refine ⟨?_, ?_⟩ <;> rw [hrun]
  exact hsent

/-- What is left to do once there is an event. -/
theorem send_eq (device : Device) (event : Event) :
    ∃ sent, event.toBridgeEvent = .ok sent ∧
      (do
        let sent ← Run.silent event.toBridgeEvent
        device.bridgeService.enqueueEvent sent false
        return some event : Run BridgeCall AnyError (Option Event)) =
          ⟨[.enqueueEvent sent false], .ok (some event)⟩ := by
  obtain ⟨sent, hsent⟩ := toBridgeEvent_ne_panic event
  refine ⟨sent, hsent, ?_⟩
  rw [hsent]
  rfl

/-- The handler takes from the record what there is to know of the call. -/
theorem Tells.takes (htells : Tells data timestampNs method) (device : Device) :
    Takes device.bridgeService data
      ((device.known method).map fun event => .new event.1 timestampNs event.2) := by
  obtain ⟨herror, rfl, hconveys⟩ := htells
  cases method with
  | grantRuntimePermission packageName permissionName =>
      obtain ⟨hvariant, hpackage, hpermission⟩ := hconveys
      have hget : device.bridgeService.onGet = .ok () := rfl
      have hservices : device.bridgeService.onPackageHasEnabledAccessibilityService packageName =
        .ok (device.packageHasEnabledAccessibilityService packageName) := rfl
      have huid : device.bridgeService.onGetUidForPackage packageName =
        .ok (device.packageManager.getUidForPackage packageName) := rfl
      have hitem : handleItem device.bridgeService data =
          handlePermissionGrantEvent device.bridgeService data data.timestampNs := by
        rw [handleItem, if_neg (Int32.not_lt.2 herror), if_pos hvariant]
      rw [handlePermissionGrantEvent, hpackage, hpermission, Run.bind_ofExcept_ok,
        Run.bind_ofExcept_ok] at hitem
      rw [Device.known]
      cases hsystem : startsWith permissionName "android.permission" with
      | false =>
          rw [hsystem] at hitem
          exact Takes.of_run hitem rfl
      | true =>
          simp only [hsystem, Bool.not_true, Bool.false_eq_true, ↓reduceIte, BridgeService.get,
            BridgeService.packageHasEnabledAccessibilityService, call_bind_of_ok hget,
            call_bind_of_ok hservices] at hitem
          cases henabled : device.packageHasEnabledAccessibilityService packageName with
          | false =>
              rw [henabled] at hitem
              exact Takes.of_run hitem rfl
          | true =>
              obtain ⟨sent, hsent, hsend⟩ := send_eq device (.new
                (device.packageManager.getUidForPackage packageName) data.timestampNs
                (.runtimePermissionGrant permissionName))
              simp only [henabled, Bool.not_true, Bool.false_eq_true, ↓reduceIte,
                BridgeService.getUidForPackage, call_bind_of_ok huid, hsend] at hitem
              refine Takes.of_run hitem ?_
              exact congrArg ([·]) hsent.symm
  | execTransactInternal interfaceDescriptor code callingUid =>
      obtain ⟨htarget, hvariant, rfl, rfl⟩ := hconveys
      have hget : device.bridgeService.onGet = .ok () := rfl
      have hitem : handleItem device.bridgeService data =
          handleA11yEvent device.bridgeService data data.timestampNs := by
        rw [handleItem, if_neg (Int32.not_lt.2 herror), if_neg (by rw [hvariant]; decide),
          if_pos hvariant]
      obtain ⟨sent, hsent, hsend⟩ := send_eq device (.new data.uid data.timestampNs
        (.a11y data.code))
      simp only [handleA11yEvent, BridgeService.get, call_bind_of_ok hget, hsend] at hitem
      rw [Device.known, if_pos htarget]
      refine Takes.of_run hitem ?_
      exact congrArg ([·]) hsent.symm

end Handler

/-! From the calls to the atoms. -/

theorem Call.Regular.arrival_cases {call : Call} (hregular : call.Regular) :
    call.arrival = none ∧ call.event = none ∨
      ∃ arrival, call.arrival = some arrival ∧
        Takes arrival.service arrival.data call.event := by
  rcases hregular.record_cases with ⟨hrecord, hevent⟩ | ⟨data, hrecord, hroom, htells⟩
  · left
    rw [Call.arrival, hrecord]
    exact ⟨rfl, hevent⟩
  · right
    refine ⟨⟨data, call.device.bridgeService⟩, ?_, ?_⟩
    · rw [Call.arrival, hrecord]
      rfl
    · rw [Call.event, if_pos hroom]
      exact htells.takes call.device

theorem Takes.event_eq {arrival : Arrival} {event : Option Event}
    (htakes : Takes arrival.service arrival.data event) : arrival.event = event := by
  rw [Arrival.event, htakes.outcome]
  rfl

section Calls

variable {calls : List Call} (hcalls : ∀ call ∈ calls, call.Regular)

include hcalls

/-- All items are handled. -/
theorem takes_of_mem_arrivals {arrival : Arrival}
    (hmem : arrival ∈ calls.filterMap Call.arrival) :
    Takes arrival.service arrival.data arrival.event := by
  obtain ⟨call, hcall, harrival⟩ := List.mem_filterMap.1 hmem
  rcases (hcalls call hcall).arrival_cases with ⟨hnone, _⟩ | ⟨other, hother, htakes⟩
  · rw [hnone] at harrival
    cases harrival
  · rw [hother, Option.some.injEq] at harrival
    subst harrival
    rw [htakes.event_eq]
    exact htakes

/-- What the items add to the handler are the events of the calls. -/
theorem filterMap_event_arrivals :
    (calls.filterMap Call.arrival).filterMap Arrival.event = calls.filterMap Call.event := by
  rw [List.filterMap_filterMap]
  apply List.filterMap_congr
  intro call hcall
  rcases (hcalls call hcall).arrival_cases with ⟨hnone, hevent⟩ | ⟨arrival, harrival, htakes⟩
  · rw [hnone, hevent]
    rfl
  · rw [harrival, Option.bind_some, htakes.event_eq]

end Calls

theorem map_sentEvents {arrivals : List Arrival}
    (htakes : ∀ arrival ∈ arrivals, Takes arrival.service arrival.data arrival.event) :
    (sentEvents arrivals).map Outcome.ok =
      (arrivals.filterMap Arrival.event).map Event.toBridgeEvent := by
  induction arrivals with
  | nil => rfl
  | cons arrival rest ih =>
      have hrest := ih fun other hmem => htakes other (List.mem_cons_of_mem arrival hmem)
      have hsent := (htakes arrival List.mem_cons_self).sent
      rw [sentEvents] at hrest ⊢
      rw [List.flatMap_cons, List.map_append, hrest, hsent, List.filterMap_cons]
      cases arrival.event <;> rfl

theorem attributed_iff_of_perm {stored stored' : List Event} (hperm : stored.Perm stored')
    {g a : Event} : Attributed stored g a ↔ Attributed stored' g a := by
  simp only [Attributed, hperm.mem_iff]

def cameraDevice : Device where
  packageManager := {
    queryIntentActivities := fun _ _ => []
    getPackageUid := fun packageName => if packageName = "com.app" then some 10001 else none }
  getEnabledAccessibilityServiceList := some ["com.app"]

def gestureCall : Call where
  method := .execTransactInternal accessibilityServiceConnection 9 10001
  ktimeGetNs := 4000000000
  ctx := ⟨fun register =>
    if register = 1 then 0x1000 else if register = 2 then 9 else if register = 6 then 10001 else 0⟩
  mem := ofObjects [
    (0x1000, List.replicate 8 0 ++ toLittleEndian 4 0x2000),
    (0x2000, javaObject (asBytes accessibilityServiceConnection))]
  reserved := some StaleBytes.zeros.accessibilityEvent
  device := cameraDevice

def cameraCall : Call where
  method := .grantRuntimePermission "com.app" "android.permission.CAMERA"
  ktimeGetNs := 5000000000
  ctx := ⟨fun register => if register = 2 then 0x2000 else if register = 3 then 0x3000 else 0⟩
  mem := ofObjects [
    (0x2000, javaObject (asBytes "com.app")),
    (0x3000, javaObject (asBytes "android.permission.CAMERA"))]
  reserved := some StaleBytes.zeros.accessibilityEvent
  device := cameraDevice

def gestureEvent : Event := .new 10001 4000000000 (.a11y 9)

def cameraEvent : Event :=
  .new 10001 5000000000 (.runtimePermissionGrant "android.permission.CAMERA")

theorem regular_gestureCall : gestureCall.Regular :=
  ⟨⟨0x2000, by decide +kernel, ⟨by decide +kernel, by decide +kernel, by decide +kernel⟩,
    by decide +kernel⟩, by decide +kernel, by decide +kernel⟩

theorem regular_cameraCall : cameraCall.Regular :=
  ⟨⟨0x2000, rfl, ⟨by decide +kernel, by decide +kernel, by decide +kernel⟩, by decide +kernel⟩,
    by decide, ⟨0x3000, rfl, ⟨by decide +kernel, by decide +kernel, by decide +kernel⟩,
    by decide +kernel⟩, by decide⟩

theorem events_cameraCalls :
    [gestureCall, cameraCall].filterMap Call.event = [gestureEvent, cameraEvent] := by
  decide +kernel

end UprobeStats.Accessibility
