/-
The accessibility handler: it collects runtime permission grants and calls of
accessibility services by uid while its map is polled, and at the end writes
one atom for each grant with the calls that came shortly before it.
-/
import UprobeStats.Guardrail
import UprobeStats.Lib.Grouping
import UprobeStats.Sinks
import UprobeStats.Strings

namespace UprobeStats.Accessibility

open Bytes Grouping Traced

/-- `struct AccessibilityEvent`. -/
structure AccessibilityEvent where
  errorCode : Int32
  timestampNs : UInt64
  variant : Int32
  packageName : List UInt8
  permissionName : List UInt8
  uid : Int32
  code : Int32
  packageName_length : packageName.length = maxStringLength
  permissionName_length : permissionName.length = maxStringLength

inductive EventType where
  | runtimePermissionGrant (permissionName : String)
  | a11y (code : Int32)
deriving DecidableEq, Repr

/-- An event of the handler.  `Event::new` makes the timestamp from a `u64` of
nanoseconds. -/
structure Event where
  uid : Int32
  timestamp : Duration
  variant : EventType
  nanos_lt : timestamp.nanos < 2 ^ 64
deriving DecidableEq

def Event.new (uid : Int32) (timestampNs : UInt64) (variant : EventType) : Event where
  uid := uid
  timestamp := Duration.fromNanos timestampNs
  variant := variant
  nanos_lt := timestampNs.toNat_lt

/-- `From<Event>` for the bridge service's event, which unwraps the conversion
of the timestamp. -/
def Event.toBridgeEvent (event : Event) : Outcome AnyError BridgeEvent :=
  match tryIntoI64 event.timestamp.asMillis with
  | .error _ => .panic
  | .ok timestampMs => .ok {
      uid := event.uid
      timestampMs := timestampMs
      payloadId := match event.variant with
        | .a11y _ => DynamicInstrumentationPayloadIds.binderTransaction.toInt32
        | .runtimePermissionGrant _ =>
            DynamicInstrumentationPayloadIds.runtimePermissionGrant.toInt32
      payload := match event.variant with
        | .a11y code => [
            ⟨"CODE", .intValue code⟩,
            ⟨"INTERFACE_NAME", .stringValue
              "android.accessibilityservice.IAccessibilityServiceConnection"⟩]
        | .runtimePermissionGrant permissionName =>
            [⟨"PERMISSION_NAME", .stringValue permissionName⟩] }

theorem Event.asMillis_lt (event : Event) : event.timestamp.asMillis < 2 ^ 63 := by
  have hnanos := event.nanos_lt
  rw [Duration.asMillis]
  omega

/-- The conversion to `i64` never fails, because the nanoseconds are a `u64`. -/
theorem tryIntoI64_asMillis (event : Event) :
    tryIntoI64 event.timestamp.asMillis = .ok (Int64.ofNat event.timestamp.asMillis) :=
  if_pos event.asMillis_lt

section OnItem

variable (service : BridgeService) (data : AccessibilityEvent)

/-- Only system permissions, and only packages that have an enabled
accessibility service. -/
def handlePermissionGrantEvent (timestampNs : UInt64) :
    Run BridgeCall AnyError (Option Event) := do
  let packageName ← Run.ofExcept (bytesAsNonemptyStr data.packageName)
  let permissionName ← Run.ofExcept (bytesAsNonemptyStr data.permissionName)
  if !startsWith permissionName "android.permission" then
    return none
  service.get
  let hasEnabledA11yService ← service.packageHasEnabledAccessibilityService packageName
  if !hasEnabledA11yService then
    return none
  let uid ← service.getUidForPackage packageName
  let event := Event.new uid timestampNs (.runtimePermissionGrant permissionName)
  let sent ← Run.silent event.toBridgeEvent
  service.enqueueEvent sent false
  return some event

def handleA11yEvent (timestampNs : UInt64) : Run BridgeCall AnyError (Option Event) := do
  let event := Event.new data.uid timestampNs (.a11y data.code)
  service.get
  let sent ← Run.silent event.toBridgeEvent
  service.enqueueEvent sent false
  return some (Event.new data.uid timestampNs (.a11y data.code))

/-- `on_item` up to the point where it has the event to store. -/
def handleItem : Run BridgeCall AnyError (Option Event) :=
  if data.errorCode < 0 then
    Run.fail (.message ("Accessibility BPF error: " ++ toString data.errorCode))
  else if data.variant = 1 then
    handlePermissionGrantEvent service data data.timestampNs
  else if data.variant = 2 then
    handleA11yEvent service data data.timestampNs
  else
    Run.fail (.message ("Invalid variant: " ++ toString data.variant))

end OnItem

/-- The state of the handler: the events stored under each uid. -/
structure AccessibilityHandler where
  events : AList fun _ : Int32 => List Event
deriving DecidableEq

namespace AccessibilityHandler

/-- The handler before the first item. -/
def default : AccessibilityHandler := ⟨∅⟩

/-- `self.events.entry(event.uid).or_default().push(event)`. -/
def push (handler : AccessibilityHandler) (event : Event) : AccessibilityHandler :=
  ⟨pushAt handler.events event.uid event⟩

/-- `on_item`: what it does and the handler it leaves. -/
def onItem (handler : AccessibilityHandler) (service : BridgeService)
    (data : AccessibilityEvent) : Run BridgeCall AnyError Unit × AccessibilityHandler :=
  let handled := handleItem service data
  match handled.outcome with
  | .panic => (⟨handled.trace, .panic⟩, handler)
  | .error e => (⟨handled.trace, .error e⟩, handler)
  | .ok none => (⟨handled.trace, .ok ()⟩, handler)
  | .ok (some event) => (⟨handled.trace, .ok ()⟩, handler.push event)

/-- The stored events of all uids. -/
def storedEvents (handler : AccessibilityHandler) : List Event :=
  handler.events.entries.flatMap Sigma.snd

end AccessibilityHandler

/-- An item of the ring buffer and what the bridge service answers while it is
handled. -/
structure Arrival where
  data : AccessibilityEvent
  service : BridgeService

/-- The handler after a sequence of items. -/
def afterItems (handler : AccessibilityHandler) (arrivals : List Arrival) :
    AccessibilityHandler :=
  arrivals.foldl (fun handler arrival => (handler.onItem arrival.service arrival.data).2) handler

/-- Every call of `on_item` in the sequence returns `Ok`. -/
def ItemsOk (handler : AccessibilityHandler) : List Arrival → Prop
  | [] => True
  | arrival :: rest =>
      (handler.onItem arrival.service arrival.data).1.outcome = .ok () ∧
        ItemsOk (handler.onItem arrival.service arrival.data).2 rest

/-- `A11Y_EVENT_WINDOW`. -/
def a11yEventWindow : Duration := Duration.fromSecs 10

/-- `ATOM_ID_ACCESSIBILITY_RUNTIME_PERMISSION_GRANT`. -/
def atomIdAccessibilityRuntimePermissionGrant : UInt32 := 1217

structure AccessibilityRuntimePermissionGrant where
  uid : Int32
  timestamp : Duration
  permissionName : String
  precedingA11yCalls : List (Int32 × Duration)
deriving DecidableEq, Repr

def AccessibilityRuntimePermissionGrant.new (uid : Int32) (timestamp : Duration)
    (permissionName : String) : AccessibilityRuntimePermissionGrant :=
  ⟨uid, timestamp, permissionName, []⟩

/-- The loop body of `associate_events`, on the finished grants and the one
that still takes calls. -/
def associateEvent :
    List AccessibilityRuntimePermissionGrant × Option AccessibilityRuntimePermissionGrant →
      Event → List AccessibilityRuntimePermissionGrant × Option AccessibilityRuntimePermissionGrant
  | (grants, pending), event =>
      match event.variant with
      | .runtimePermissionGrant permissionName =>
          (grants ++ pending.toList, some (.new event.uid event.timestamp permissionName))
      | .a11y code =>
          match pending with
          | none => (grants, none)
          | some grant =>
              if (grant.timestamp.saturatingSub event.timestamp).nanos < a11yEventWindow.nanos then
                (grants, some { grant with
                  precedingA11yCalls := grant.precedingA11yCalls ++ [(code, event.timestamp)] })
              else (grants, some grant)

def associateEvents (events : List Event) : List AccessibilityRuntimePermissionGrant :=
  let last := events.foldl associateEvent ([], none)
  last.1 ++ last.2.toList

/-- The nanoseconds that events are ordered by. -/
def Event.time (event : Event) : Nat := event.timestamp.nanos

/-- `events.sort_by(|a, b| b.timestamp.cmp(&a.timestamp))`. -/
def sortEvents (events : List Event) : List Event := descending Event.time events

/-- The atom of a grant. -/
def grantAtom (grant : AccessibilityRuntimePermissionGrant) :
    Except AnyError UnstructuredAtom := do
  let timestampMs ← tryIntoI64 grant.timestamp.asMillis
  let callsMs ← grant.precedingA11yCalls.mapM fun call => tryIntoI64 call.2.asMillis
  return {
    atomId := atomIdAccessibilityRuntimePermissionGrant
    fields := [
      Field.newWithAnnotation (.int32 grant.uid) (.isUid true),
      .new (.string grant.permissionName),
      .new (.int64 timestampMs),
      .new (.int32Vec (grant.precedingA11yCalls.map Prod.fst)),
      .new (.int64Vec callsMs)] }

/-- The loop of `on_finished` that writes the atoms, from the given call of
the writer on. -/
def writeGrants (writer : AtomWriter) :
    Nat → List AccessibilityRuntimePermissionGrant → Run UnstructuredAtom AnyError Unit
  | _, [] => return ()
  | n, grant :: rest => do
      let atom ← Run.ofExcept (grantAtom grant)
      writer.write n atom
      writeGrants writer (n + 1) rest

/-- `on_finished`.  The map is a hash map, so its values come in any order. -/
def AccessibilityHandler.onFinished (order : Iteration Int32 (List Event)) (writer : AtomWriter)
    (handler : AccessibilityHandler) : Run UnstructuredAtom AnyError Unit :=
  writeGrants writer 0
    ((order.values handler.events).flatMap fun events => associateEvents (sortEvents events))

/-! What a sequence of items leaves in the handler. -/

/-- The event there is to store, if there is one. -/
def eventToStore : Outcome AnyError (Option Event) → Option Event
  | .ok event => event
  | _ => none

/-- The event that an item adds, if it adds one. -/
def Arrival.event (arrival : Arrival) : Option Event :=
  eventToStore (handleItem arrival.service arrival.data).outcome

/-- The call ends well whatever the handler has stored so far. -/
theorem onItem_eq_ok_iff (handler : AccessibilityHandler) (arrival : Arrival) :
    (handler.onItem arrival.service arrival.data).1.outcome = .ok () ↔
      ∃ event, (handleItem arrival.service arrival.data).outcome = .ok event := by
  unfold AccessibilityHandler.onItem
  cases houtcome : (handleItem arrival.service arrival.data).outcome with
  | panic => simp [houtcome]
  | error e => simp [houtcome]
  | ok event => cases event <;> simp [houtcome]

theorem onItem_handler (handler : AccessibilityHandler) (arrival : Arrival) :
    (handler.onItem arrival.service arrival.data).2 = arrival.event.elim handler handler.push := by
  unfold AccessibilityHandler.onItem Arrival.event
  cases houtcome : (handleItem arrival.service arrival.data).outcome with
  | panic => simp [houtcome, eventToStore]
  | error e => simp [houtcome, eventToStore]
  | ok event => cases event <;> simp [houtcome, eventToStore]

theorem itemsOk_iff (handler : AccessibilityHandler) (arrivals : List Arrival) :
    ItemsOk handler arrivals ↔
      ∀ arrival ∈ arrivals, ∃ event,
        (handleItem arrival.service arrival.data).outcome = .ok event := by
  induction arrivals generalizing handler with
  | nil => simp [ItemsOk]
  | cons arrival rest ih => rw [ItemsOk, onItem_eq_ok_iff, ih, List.forall_mem_cons]

/-- The map groups the added events by uid. -/
theorem events_afterItems (arrivals : List Arrival) :
    (afterItems .default arrivals).events =
      groupBy Event.uid (arrivals.filterMap Arrival.event) := by
  induction arrivals using List.reverseRecOn with
  | nil => rfl
  | append_singleton arrivals arrival ih =>
      have hlast : afterItems .default (arrivals ++ [arrival]) =
          arrival.event.elim (afterItems .default arrivals) (afterItems .default arrivals).push := by
        rw [← onItem_handler]
        simp [afterItems]
      rw [hlast, List.filterMap_append]
      cases hevent : arrival.event with
      | none => simp [hevent, ih]
      | some event =>
          rw [Option.elim_some, AccessibilityHandler.push, ih, List.filterMap_cons_some hevent,
            List.filterMap_nil, groupBy_append_singleton]

theorem storedEvents_afterItems (arrivals : List Arrival) :
    (afterItems .default arrivals).storedEvents.Perm (arrivals.filterMap Arrival.event) := by
  have hvalues := Iteration.asStored.values_groupBy (f := Event.uid)
    (arrivals.filterMap Arrival.event)
  rw [AccessibilityHandler.storedEvents, events_afterItems, List.flatMap_def]
  change (Iteration.asStored.values _).flatten.Perm _
  rw [hvalues, ← List.flatMap_def]
  apply flatMap_filter_perm (Iteration.asStored.nodup_keys _)
  intro event hevent
  exact Iteration.asStored.mem_keys_groupBy.2 (List.mem_map_of_mem hevent)

end UprobeStats.Accessibility
