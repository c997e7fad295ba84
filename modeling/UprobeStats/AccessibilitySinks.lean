/-
The two sinks of the accessibility handler: the bridge service, which is given
an event while the item is handled, and the map of stored events, from which
the atoms are written at the end.  They get the same event or neither does.
-/
import UprobeStats.Clocks

namespace UprobeStats.Accessibility

open Traced

/-- The event of a call, if the call enqueues one. -/
def enqueuedBy : BridgeCall → Option BridgeEvent
  | .enqueueEvent event _ => some event
  | _ => none

/-- The events that the bridge service was given, in order. -/
def enqueued (trace : List BridgeCall) : List BridgeEvent := trace.filterMap enqueuedBy

/-- The value under a key of a payload. -/
def payloadValue (payload : List BridgeEntry) (key : String) : Option BridgeValue :=
  (payload.find? fun entry => entry.key = key).map BridgeEntry.value

/-- The payload says what the variant says. -/
def Conveys (payload : List BridgeEntry) : EventType → Prop
  | .a11y code => payloadValue payload "CODE" = some (.intValue code)
  | .runtimePermissionGrant permissionName =>
      payloadValue payload "PERMISSION_NAME" = some (.stringValue permissionName)

/-- What the bridge service is given and what is stored are the same event, at
the time of the record. -/
structure SameEvent (data : AccessibilityEvent) (event : Event) (sent : BridgeEvent) : Prop where
  uid_eq : sent.uid = event.uid
  nanos_eq : event.timestamp.nanos = data.timestampNs.toNat
  timestampMs_eq : sent.timestampMs.toInt = (event.timestamp.nanos / 1000000 : Nat)
  conveys : Conveys sent.payload event.variant

/-- One event more, in the bucket of its uid. -/
structure Appends (before after : AccessibilityHandler) (event : Event) : Prop where
  bucket : after.events.lookup event.uid =
    some ((before.events.lookup event.uid).getD [] ++ [event])
  others : ∀ uid, uid ≠ event.uid → after.events.lookup uid = before.events.lookup uid

theorem appends_push (handler : AccessibilityHandler) (event : Event) :
    Appends handler (handler.push event) event where
  bucket := AList.lookup_insert _
  others _ hne := AList.lookup_insert_ne hne

/-- The conversion gives an event with the same content. -/
theorem sameEvent_of_toBridgeEvent {data : AccessibilityEvent} {uid : Int32} {variant : EventType}
    {sent : BridgeEvent}
    (hsent : (Event.new uid data.timestampNs variant).toBridgeEvent = .ok sent) :
    SameEvent data (Event.new uid data.timestampNs variant) sent := by
  obtain ⟨other, hother, hmillis⟩ := toBridgeEvent_timestampMs (.new uid data.timestampNs variant)
  rw [hsent, Outcome.ok.injEq] at hother
  subst hother
  rw [Event.toBridgeEvent, tryIntoI64_asMillis, Outcome.ok.injEq] at hsent
  subst hsent
  refine ⟨rfl, rfl, hmillis, ?_⟩
  cases variant <;> rfl

section Calls

variable {α β : Type} (request : BridgeCall) (answer : Except String α)

/-- A call either fails, and with it all that comes after it, or goes on with
the answer. -/
theorem call_bind_cases (next : α → Run BridgeCall AnyError β) :
    (∃ e, (BridgeService.call request answer >>= next).outcome = .error e) ∨
      ∃ value, answer = .ok value ∧ BridgeService.call request answer >>= next =
        ⟨request :: (next value).trace, (next value).outcome⟩ := by
  cases answer with
  | error e => exact .inl ⟨_, rfl⟩
  | ok value => exact .inr ⟨value, rfl, rfl⟩

end Calls

/-- How the handling of an item can end, and what it has called by then. -/
inductive Handled (service : BridgeService) (data : AccessibilityEvent)
    (run : Run BridgeCall AnyError (Option Event)) : Prop
  | failed (e : AnyError) (houtcome : run.outcome = .error e)
  | passed (houtcome : run.outcome = .ok none) (hnone : enqueued run.trace = [])
  | granted (packageName permissionName : String) (uid : Int32) (sent : BridgeEvent)
      (hvariant : data.variant = 1)
      (hgrant : GrantSends service data packageName permissionName uid)
      (hsent : (Event.new uid data.timestampNs
        (.runtimePermissionGrant permissionName)).toBridgeEvent = .ok sent)
      (haccepted : service.onEnqueueEvent sent false = .ok ())
      (hrun : run = ⟨[.get, .packageHasEnabledAccessibilityService packageName,
          .getUidForPackage packageName, .enqueueEvent sent false],
        .ok (some (Event.new uid data.timestampNs (.runtimePermissionGrant permissionName)))⟩)
  | called (sent : BridgeEvent) (hvariant : data.variant = 2)
      (hsent : (Event.new data.uid data.timestampNs (.a11y data.code)).toBridgeEvent = .ok sent)
      (haccepted : service.onEnqueueEvent sent false = .ok ())
      (hrun : run = ⟨[.get, .enqueueEvent sent false],
        .ok (some (Event.new data.uid data.timestampNs (.a11y data.code)))⟩)

section HandleItem

variable (service : BridgeService) (data : AccessibilityEvent)

/-- Making the event and sending it: the conversion does not panic, so only the
service can fail. -/
theorem send_cases (made stored : Event) :
    (∃ e, (do
        let sent ← Run.silent made.toBridgeEvent
        service.enqueueEvent sent false
        return some stored : Run BridgeCall AnyError (Option Event)).outcome = .error e) ∨
      ∃ sent, made.toBridgeEvent = .ok sent ∧ service.onEnqueueEvent sent false = .ok () ∧
        (do
          let sent ← Run.silent made.toBridgeEvent
          service.enqueueEvent sent false
          return some stored : Run BridgeCall AnyError (Option Event)) =
            ⟨[.enqueueEvent sent false], .ok (some stored)⟩ := by
  obtain ⟨sent, hsent, _⟩ := toBridgeEvent_timestampMs made
  rw [hsent, Run.bind_of_ok (Run.outcome_silent _), BridgeService.enqueueEvent]
  rcases call_bind_cases (.enqueueEvent sent false) (service.onEnqueueEvent sent false) _ with
    hfailed | ⟨_, haccepted, hrun⟩
  · exact .inl hfailed
  · exact .inr ⟨sent, rfl, haccepted, hrun⟩

theorem handled_grant (hvariant : data.variant = 1) :
    Handled service data (handlePermissionGrantEvent service data data.timestampNs) := by
  rw [handlePermissionGrantEvent]
  rcases hpackage : bytesAsNonemptyStr data.packageName with e | packageName
  · exact .failed e rfl
  rcases hpermission : bytesAsNonemptyStr data.permissionName with e | permissionName
  · exact .failed e rfl
  rw [Run.bind_ofExcept_ok, Run.bind_ofExcept_ok]
  by_cases hsystem : startsWith permissionName "android.permission" = true
  case neg =>
    rw [if_pos (by simpa using hsystem)]
    exact .passed rfl rfl
  rw [if_neg (by simpa using hsystem), BridgeService.get]
  rcases call_bind_cases .get service.onGet _ with ⟨e, houtcome⟩ | ⟨_, hget, hrun⟩
  · exact .failed e houtcome
  rw [hrun, BridgeService.packageHasEnabledAccessibilityService]
  rcases call_bind_cases (.packageHasEnabledAccessibilityService packageName)
    (service.onPackageHasEnabledAccessibilityService packageName) _ with
    ⟨e, houtcome⟩ | ⟨enabled, henabled, hrun⟩
  · exact .failed e houtcome
  rw [hrun]
  cases enabled with
  | false => exact .passed rfl rfl
  | true =>
      rw [if_neg (by decide), BridgeService.getUidForPackage]
      rcases call_bind_cases (.getUidForPackage packageName)
        (service.onGetUidForPackage packageName) _ with ⟨e, houtcome⟩ | ⟨uid, huid, hrun⟩
      · exact .failed e houtcome
      rw [hrun]
      rcases send_cases service (.new uid data.timestampNs (.runtimePermissionGrant permissionName))
        (.new uid data.timestampNs (.runtimePermissionGrant permissionName)) with
        ⟨e, houtcome⟩ | ⟨sent, hsent, haccepted, hrun⟩
      · exact .failed e houtcome
      · refine .granted packageName permissionName uid sent hvariant
          ⟨hpackage, hpermission, hsystem, hget, henabled, huid⟩ hsent haccepted ?_
        rw [hrun]

theorem handled_a11y (hvariant : data.variant = 2) :
    Handled service data (handleA11yEvent service data data.timestampNs) := by
  rw [handleA11yEvent, BridgeService.get]
  rcases call_bind_cases .get service.onGet _ with ⟨e, houtcome⟩ | ⟨_, hget, hrun⟩
  · exact .failed e houtcome
  rw [hrun]
  rcases send_cases service (.new data.uid data.timestampNs (.a11y data.code))
    (.new data.uid data.timestampNs (.a11y data.code)) with
    ⟨e, houtcome⟩ | ⟨sent, hsent, haccepted, hrun⟩
  · exact .failed e houtcome
  · refine .called sent hvariant hsent haccepted ?_
    rw [hrun]

theorem handled_item : Handled service data (handleItem service data) := by
  rw [handleItem]
  split
  · exact .failed _ rfl
  split
  · exact handled_grant service data ‹_›
  split
  · exact handled_a11y service data ‹_›
  · exact .failed _ rfl

end HandleItem

/-- The handler is as it was, and either the item failed or the bridge service
was given nothing. -/
structure LeftAlone (before : AccessibilityHandler)
    (result : Run BridgeCall AnyError Unit × AccessibilityHandler) : Prop where
  handler_eq : result.2 = before
  failed_or_silent : (∃ e, result.1.outcome = .error e) ∨
    result.1.outcome = .ok () ∧ enqueued result.1.trace = []

/-- Both sinks have the event: the bridge service took it in the only call that
gave it one, and it is stored under its uid. -/
structure Recorded (before : AccessibilityHandler) (service : BridgeService)
    (data : AccessibilityEvent) (event : Event) (sent : BridgeEvent)
    (result : Run BridgeCall AnyError Unit × AccessibilityHandler) : Prop where
  outcome_eq : result.1.outcome = .ok ()
  enqueued_eq : enqueued result.1.trace = [sent]
  accepted : ∃ flush, .enqueueEvent sent flush ∈ result.1.trace ∧
    service.onEnqueueEvent sent flush = .ok ()
  appends : Appends before result.2 event
  same : SameEvent data event sent
  grant : data.variant = 1 → ∃ packageName permissionName,
    bytesAsNonemptyStr data.packageName = .ok packageName ∧
      bytesAsNonemptyStr data.permissionName = .ok permissionName ∧
      event.variant = .runtimePermissionGrant permissionName ∧
      startsWith permissionName "android.permission" = true ∧
      .packageHasEnabledAccessibilityService packageName ∈ result.1.trace ∧
      service.onPackageHasEnabledAccessibilityService packageName = .ok true

/-- The handler's two sinks agree, a failure leaves the handler as it was, and
nothing panics. -/
theorem onItem_sinks (handler : AccessibilityHandler) (service : BridgeService)
    (data : AccessibilityEvent) :
    (handler.onItem service data).1.outcome ≠ .panic ∧
      (LeftAlone handler (handler.onItem service data) ∨
        ∃ event sent, Recorded handler service data event sent (handler.onItem service data)) := by
  rw [AccessibilityHandler.onItem]
  rcases handled_item service data with ⟨e, houtcome⟩ | ⟨houtcome, hnone⟩ |
    ⟨packageName, permissionName, uid, sent, hvariant, hgrant, hsent, haccepted, hrun⟩ |
    ⟨sent, hvariant, hsent, haccepted, hrun⟩
  · simp only [houtcome]
    exact ⟨by simp, .inl ⟨rfl, .inl ⟨e, rfl⟩⟩⟩
  · simp only [houtcome]
    exact ⟨by simp, .inl ⟨rfl, .inr ⟨rfl, hnone⟩⟩⟩
  · simp only [hrun]
    refine ⟨by simp, .inr ⟨_, sent, rfl, rfl, ⟨false, by simp, haccepted⟩, appends_push _ _,
      sameEvent_of_toBridgeEvent hsent, fun _ => ⟨packageName, permissionName, ?_⟩⟩⟩
    exact ⟨hgrant.package_eq, hgrant.permission_eq, rfl, hgrant.system, by simp, hgrant.enabled⟩
  · simp only [hrun]
    refine ⟨by simp, .inr ⟨_, sent, rfl, rfl, ⟨false, by simp, haccepted⟩, appends_push _ _,
      sameEvent_of_toBridgeEvent hsent, fun hother => ?_⟩⟩
    rw [hvariant] at hother
    exact absurd hother (by decide)

end UprobeStats.Accessibility
