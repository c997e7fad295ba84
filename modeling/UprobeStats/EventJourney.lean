/-
Events from those who send them through the bridge service to the consumers.
The main thread of the system server runs one `onServiceConnected` at a time.
The call of `onEvent` is a oneway call: it waits for the listener it was made
to, and a listener takes its calls in the order in which they were made.
-/
import UprobeStats.Lib.Postbox
import UprobeStats.BridgeHistory
import UprobeStats.EventTrip
import UprobeStats.Sinks

namespace UprobeStats.Framework

open FiniteMap Traced

/-! The events of the daemon, as the service of the consumer gets them. -/

/-- The UTF-16 code units of a character. -/
def utf16 (c : Char) : List UInt16 :=
  if c.val < 0x10000 then [c.val.toUInt16]
  else [(0xD800 + (c.val - 0x10000) / 0x400).toUInt16,
    (0xDC00 + (c.val - 0x10000) % 0x400).toUInt16]

/-- A string of the daemon as a Java string. -/
def javaText (text : String) : JavaText := text.toList.flatMap utf16

def ofBridgeValue : BridgeValue → Value
  | .stringValue value => .stringValue (some (javaText value))
  | .intValue value => .intValue value

def ofBridgeEntry (entry : BridgeEntry) : Option Entry :=
  some ⟨some (javaText entry.key), some (ofBridgeValue entry.value)⟩

def ofBridgeEvent (event : BridgeEvent) : Event :=
  ⟨event.uid, event.timestampMs, event.payloadId, some (event.payload.map ofBridgeEntry)⟩

def shownValue : BridgeValue → BundleValue
  | .stringValue value => .string (javaText value)
  | .intValue value => .integer value

/-- What an event of the daemon says.  Of two entries with one key the first
counts. -/
def shown (event : BridgeEvent) : DynamicInstrumentationEvent where
  uid := event.uid
  timestamp := .ofEpochMilli event.timestampMs
  payloadId := event.payloadId
  payload := insertAll ∅
    (event.payload.map fun entry => (some (javaText entry.key), shownValue entry.value)).reverse

theorem putEntries_ofBridgeEntry (payload : List BridgeEntry) :
    putEntries (payload.map ofBridgeEntry) = .ok (insertAll ∅ (payload.map fun entry =>
      (some (javaText entry.key), shownValue entry.value)).reverse) := by
  induction payload with
  | nil => rfl
  | cons entry rest ih =>
      rw [List.map_cons, putEntries, ih, List.map_cons, List.reverse_cons, insertAll_append]
      obtain ⟨key, value⟩ := entry
      cases value <;> rfl

theorem encodes_ofBridgeEvent (event : BridgeEvent) :
    Encodes (ofBridgeEvent event) (shown event) := by
  refine ⟨shown event, ?_, ?_⟩
  · rw [convertEvent, ofBridgeEvent, Option.getD_some, putEntries_ofBridgeEntry]
    rfl
  · refine ⟨rfl, rfl, rfl, ?_, fun _ => rfl⟩
    simp only [shown, Instant.ofEpochMilli]
    omega

/-- Each call of the service that the sender makes carries its event. -/
theorem encodes_of_mem_sendEvent {P : Type} {generated : Generated P}
    (hgenerated : generated.Documented) {order : KeyOrder}
    {service : Event → Bool → Except Thrown Unit} {diEvent : DynamicInstrumentationEvent}
    {flush : Bool} {call : Event × Bool}
    (hmem : call ∈ (sendEvent generated.newValue order service (some diEvent) flush).trace) :
    Encodes call.1 diEvent := by
  by_cases hfits : diEvent.timestamp.FitsLong
  · by_cases hcarried : Carried diEvent.payload
    · obtain ⟨event, hsend, hencodes⟩ :=
        sendEvent_of_carried order service hgenerated hcarried hfits flush
      rw [hsend, enqueueEvent, Run.trace_bind_emit, Run.trace_ofExcept,
        List.mem_singleton] at hmem
      rwa [hmem]
    · rw [Carried] at hcarried
      push Not at hcarried
      obtain ⟨key, value, hlookup, hother⟩ := hcarried
      obtain ⟨e, hsend⟩ := sendEvent_of_not_carried order service generated.newValue hlookup
        (Bool.eq_false_iff.2 hother) flush
      rw [hsend] at hmem
      cases hmem
  · have htimestamp : diEvent.timestamp.toEpochMilli =
        .error (.arithmeticException "long overflow") := if_neg hfits
    simp only [sendEvent, requireNonNull, Run.bind_ofExcept_ok, htimestamp] at hmem
    cases hmem

end UprobeStats.Framework

namespace UprobeStats

open Transition Framework

/-- The events a connection is about to hand to its listener. -/
def Connection.batch {E : Type} : Connection E → List E
  | .sending batch => batch
  | _ => []

/-- The connection is inside `onServiceConnected`. -/
def Connection.isBusy {E : Type} : Connection E → Bool
  | .draining => true
  | .sending _ => true
  | _ => false

/-- The steps that are neither taken for a producer nor inside
`onServiceConnected`. -/
def Bridge.isElsewhere {E : Type} : Bridge.Action E → Bool
  | .runPosted _ => true
  | .runDelayed _ _ => true
  | .onNullBinding _ => true
  | .enableTestMode _ => true
  | .disableTestMode => true
  | _ => false

/-- The bridge service with those around it.  The answer of a listener is what
its consumer is called with, or nothing when the call is refused before. -/
structure EventJourney where
  bridge : Bridge Framework.Event
  /-- The connection whose `onServiceConnected` runs, and its component. -/
  connected : Option (Nat × ComponentName)
  listeners : Postbox ComponentName (List Framework.Event)
    (Option (List DynamicInstrumentationEvent))
  /-- What the accepted events say, which is history. -/
  sent : List DynamicInstrumentationEvent

namespace EventJourney

/-- What can happen next. -/
inductive Action where
  /-- An application sends an event. -/
  | sendEvent (order : KeyOrder) (diEvent : DynamicInstrumentationEvent) (flush : Bool)
  /-- A handler of the daemon enqueues an event. -/
  | enqueueEvent (event : BridgeEvent) (flush : Bool)
  | service (action : Bridge.Action Framework.Event)
  | onServiceConnected (i : Nat) (name : ComponentName)
  | getNextBatch
  | onEventReturned
  | onEventThrew
  /-- A listener takes its next call. -/
  | onEvent (name : ComponentName) (permission : Except Thrown Unit)
      (consumer : List DynamicInstrumentationEvent → Except Thrown Unit)
  /-- The process of a consumer dies. -/
  | died (name : ComponentName)

section Step

variable {P : Type} (generated : Generated P)

/-- A call of the service that carries what is said. -/
def enqueue (diEvent : DynamicInstrumentationEvent) (s : EventJourney)
    (call : Framework.Event × Bool) : EventJourney :=
  { s with
    bridge := s.bridge.enqueueEvent (generated.transfer call.1) call.2
    sent := if s.bridge.consumer.isSome then s.sent ++ [diEvent] else s.sent }

/-- `onEvent` of the listener: what the consumer is called with. -/
def heard (permission : Except Thrown Unit)
    (consumer : List DynamicInstrumentationEvent → Except Thrown Unit)
    (events : List Framework.Event) : Option (List DynamicInstrumentationEvent) :=
  (onEvent permission consumer events).trace.head?

/-- The call of `onEvent` by the connection that is sending, and whether it
throws. -/
def callListener (s : EventJourney) (arrives : Bool) : Option EventJourney :=
  match s.connected with
  | none => none
  | some (i, name) =>
      match s.bridge.connections[i]? with
      | some (.sending batch) =>
          (s.bridge.step (if arrives then .onEventReturned i else .onEventThrew i)).map
            fun bridge => { s with
              bridge := bridge
              connected := if arrives then s.connected else none
              listeners := s.listeners.post name (batch.map generated.transfer) arrives }
      | _ => none

def step (s : EventJourney) : Action → Option EventJourney
  | .sendEvent order diEvent flush =>
      some ((Framework.sendEvent generated.newValue order (fun _ _ => .ok ()) (some diEvent)
        flush).trace.foldl (enqueue generated diEvent) s)
  | .enqueueEvent event flush =>
      some (enqueue generated (shown event) s (ofBridgeEvent event, flush))
  | .service action =>
      if Bridge.isElsewhere action then
        (s.bridge.step action).map fun bridge => { s with bridge := bridge }
      else none
  | .onServiceConnected i name =>
      if s.connected.isSome then none
      else (s.bridge.step (.onServiceConnected i)).map fun bridge =>
        { s with bridge := bridge, connected := some (i, name) }
  | .getNextBatch =>
      match s.connected with
      | none => none
      | some (i, name) =>
          (s.bridge.step (.getNextBatch i)).map fun bridge => { s with
            bridge := bridge
            connected := if s.bridge.eventBuffer.isEmpty then none else some (i, name) }
  | .onEventReturned => s.callListener generated true
  | .onEventThrew => s.callListener generated false
  | .onEvent name permission consumer =>
      some { s with listeners := s.listeners.answer name (heard permission consumer) }
  | .died name => some { s with listeners := s.listeners.lose name }

def machine (consumer : Option ComponentName) : Machine EventJourney Action where
  init := {
    bridge := (Bridge.machine consumer).init
    connected := none
    listeners := .nil
    sent := [] }
  step := step generated

end Step

/-- The events that a connection has taken and not yet handed on. -/
def sending (s : EventJourney) : List Framework.Event :=
  match s.connected with
  | none => []
  | some (i, _) => (s.bridge.connections[i]?).elim [] Connection.batch

/-- The calls that a consumer has got, in the order in which it got them. -/
def given (s : EventJourney) (name : ComponentName) : List (List DynamicInstrumentationEvent) :=
  (Postbox.givenBy name s.listeners.answers).filterMap id

end EventJourney

/-! What a step leaves as it is. -/

namespace Bridge

variable {E : Type} {s s' : Bridge E}

/-- Enqueueing appends the event where there is a consumer, and touches no
connection. -/
theorem enqueueEvent_frame (s : Bridge E) (event : E) (flush : Bool) :
    (s.enqueueEvent event flush).connections = s.connections ∧
      (s.enqueueEvent event flush).batches = s.batches ∧
      (s.enqueueEvent event flush).accepted =
        if s.consumer.isSome then s.accepted ++ [event] else s.accepted := by
  unfold Bridge.enqueueEvent
  cases s.consumer with
  | none => exact ⟨rfl, rfl, rfl⟩
  | some component =>
      dsimp only
      split
      · exact ⟨rfl, rfl, rfl⟩
      · split <;> exact ⟨rfl, rfl, rfl⟩

/-- The connections that are inside `onServiceConnected` are the same. -/
def SameBusy (s s' : Bridge E) : Prop :=
  ∀ (i : Nat) (connection : Connection E), connection.isBusy = true →
    (s'.connections[i]? = some connection ↔ s.connections[i]? = some connection)

theorem SameBusy.of_eq (hconnections : s'.connections = s.connections) : SameBusy s s' := by
  intro i connection _
  rw [hconnections]

theorem SameBusy.bind {t : Bridge E} (hconnections : t.connections = s.connections)
    (success : Bool) : SameBusy s (t.bindConsumerIfNeeded success) := by
  rcases bindConsumerIfNeeded_cases t success with ⟨_, _, _, hbind⟩ | ⟨_, hbind⟩
  · intro i connection hbusy
    rw [hbind, hconnections]
    rcases Nat.lt_or_ge i s.connections.length with hlt | hge
    · rw [List.getElem?_append_left hlt]
    · rw [List.getElem?_append_right hge, List.getElem?_eq_none hge]
      constructor
      · intro hnew
        rw [List.mem_singleton.1 (List.mem_of_getElem? hnew)] at hbusy
        cases hbusy
      · exact nofun
  · rw [hbind]
    exact .of_eq hconnections

/-- A connection that goes from one place outside the callback to another. -/
theorem SameBusy.set {i : Nat} {connection next : Connection E}
    (hconnection : s.connections[i]? = some connection) (hold : connection.isBusy = false)
    (hnext : next.isBusy = false) :
    SameBusy s { s with connections := s.connections.set i next } := by
  intro j other hbusy
  by_cases hij : i = j
  · subst hij
    rw [getElem?_set_self hconnection, hconnection, Option.some.injEq, Option.some.injEq]
    constructor
    · rintro rfl
      exact absurd hbusy (by rw [hnext]; exact Bool.false_ne_true)
    · rintro rfl
      exact absurd hbusy (by rw [hold]; exact Bool.false_ne_true)
  · rw [List.getElem?_set_ne hij]

/-- What happens elsewhere touches neither what was accepted nor what was
taken nor the running callback. -/
theorem step_elsewhere {action : Action E} (helsewhere : isElsewhere action = true)
    (hstep : s.step action = some s') :
    s'.accepted = s.accepted ∧ s'.batches = s.batches ∧ SameBusy s s' := by
  have hflush : ∀ {t : Bridge E} (success : Bool), TakesRunnable s t →
      (t.bindConsumerIfNeeded success).accepted = s.accepted ∧
        (t.bindConsumerIfNeeded success).batches = s.batches ∧
        SameBusy s (t.bindConsumerIfNeeded success) := by
    intro t success htakes
    refine ⟨?_, ?_, .bind htakes.connections success⟩
    · rw [← htakes.accepted]
      rcases bindConsumerIfNeeded_cases t success with ⟨_, _, _, hbind⟩ | ⟨_, hbind⟩ <;> rw [hbind]
    · rw [← htakes.batches]
      rcases bindConsumerIfNeeded_cases t success with ⟨_, _, _, hbind⟩ | ⟨_, hbind⟩ <;> rw [hbind]
  cases action with
  | runPosted success =>
      simp only [step] at hstep
      split at hstep
      · rename_i hposted
        rw [← Option.some.inj hstep]
        exact hflush success (takesRunnable_posted hposted)
      · cases hstep
  | runDelayed i success =>
      simp only [step] at hstep
      split at hstep
      · rename_i hi
        rw [← Option.some.inj hstep]
        exact hflush success (takesRunnable_delayed hi)
      · cases hstep
  | onNullBinding i =>
      obtain ⟨connection, hconnection, hbinding, rfl⟩ := moveConnection_eq_some hstep
      refine ⟨rfl, rfl, .set hconnection ?_ rfl⟩
      cases connection <;> first | rfl | cases hbinding
  | enableTestMode component =>
      rw [step, Option.some.injEq] at hstep
      rw [← hstep]
      exact ⟨rfl, rfl, .of_eq rfl⟩
  | disableTestMode =>
      rw [step, Option.some.injEq] at hstep
      rw [← hstep]
      exact ⟨rfl, rfl, .of_eq rfl⟩
  | _ => cases helsewhere

/-- The batches look the same from outside. -/
theorem SameBusy.batch_eq (hsame : SameBusy s s') (i : Nat) :
    (s'.connections[i]?).elim [] Connection.batch =
      (s.connections[i]?).elim [] Connection.batch := by
  have hbatch : ∀ {connection : Connection E}, connection.isBusy = false →
      connection.batch = [] := by
    intro connection hidle
    cases connection <;> first | rfl | cases hidle
  cases hnew : s'.connections[i]? with
  | none =>
      cases hold : s.connections[i]? with
      | none => rfl
      | some connection =>
          cases hbusy : connection.isBusy with
          | false => exact (hbatch hbusy).symm
          | true => rw [(hsame i connection hbusy).2 hold] at hnew; cases hnew
  | some connection =>
      cases hbusy : connection.isBusy with
      | true => rw [(hsame i connection hbusy).1 hnew]
      | false =>
          cases hold : s.connections[i]? with
          | none => exact hbatch hbusy
          | some other =>
              cases hother : other.isBusy with
              | false => exact (hbatch hbusy).trans (hbatch hother).symm
              | true =>
                  rw [(hsame i other hother).2 hold, Option.some.injEq] at hnew
                  rw [← hnew, hother] at hbusy
                  cases hbusy

end Bridge

namespace EventJourney

variable {P : Type} {generated : Generated P} {s s' : EventJourney}

/-- What was accepted is, in its order, what the listeners were called with,
what a connection is about to call its listener with, and what is buffered. -/
structure Accounted (s : EventJourney) : Prop where
  conserves : s.bridge.Conserves
  said : List.Forall₂ Encodes s.bridge.accepted s.sent
  handed : (s.bridge.batches.map Batch.events).flatten =
    s.listeners.messages.flatten ++ s.sending
  alone : ∀ (i : Nat) (connection : Connection Framework.Event),
    s.bridge.connections[i]? = some connection → connection.isBusy = true →
      ∃ name, s.connected = some (i, name)
  sized : ∀ events ∈ s.listeners.messages,
    events ≠ [] ∧ events.length ≤ eventBufferCapacity
  sendingSized : ∀ (i : Nat) (batch : List Framework.Event),
    s.bridge.connections[i]? = some (.sending batch) →
      batch ≠ [] ∧ batch.length ≤ eventBufferCapacity
  fits : s.listeners.Fits fun events answer =>
    ∃ permission consumer, answer = heard permission consumer events

theorem Accounted.init (consumer : Option ComponentName) :
    (machine generated consumer).init.Accounted := by
  refine ⟨.init consumer, .nil, rfl, ?_, ?_, ?_, .nil⟩
  · exact nofun
  · exact nofun
  · exact nofun

/-- A step of the service that leaves the running callback alone. -/
theorem Accounted.frame (hs : s.Accounted) {bridge : Bridge Framework.Event}
    {sent : List DynamicInstrumentationEvent} (hconserves : bridge.Conserves)
    (hsaid : List.Forall₂ Encodes bridge.accepted sent)
    (hbatches : bridge.batches = s.bridge.batches) (hsame : Bridge.SameBusy s.bridge bridge) :
    ({ s with bridge := bridge, sent := sent } : EventJourney).Accounted := by
  refine ⟨hconserves, hsaid, ?_, ?_, hs.sized, ?_, hs.fits⟩
  · have hsending : ({ s with bridge := bridge, sent := sent } : EventJourney).sending =
        s.sending := by
      simp only [sending]
      split
      · rfl
      · exact hsame.batch_eq _
    rw [hsending]
    simpa only [hbatches] using hs.handed
  · intro i connection hconnection hbusy
    exact hs.alone i connection ((hsame i connection hbusy).1 hconnection) hbusy
  · intro i batch hconnection
    exact hs.sendingSized i batch ((hsame i (.sending batch) rfl).1 hconnection)

/-- An accepted event says what was sent. -/
theorem Accounted.enqueue (hs : s.Accounted) (hgenerated : generated.Documented)
    {diEvent : DynamicInstrumentationEvent} {call : Framework.Event × Bool}
    (hencodes : Encodes call.1 diEvent) : (enqueue generated diEvent s call).Accounted := by
  obtain ⟨hconnections, hbatches, haccepted⟩ :=
    Bridge.enqueueEvent_frame s.bridge (generated.transfer call.1) call.2
  refine hs.frame (hs.conserves.enqueueEvent _ _) ?_ hbatches (.of_eq hconnections)
  rw [haccepted, Generated.transfer, hgenerated.read_write]
  split
  · exact List.rel_append hs.said (.cons hencodes .nil)
  · exact hs.said

/-- Nothing is being handed on unless the callback of a connection runs. -/
theorem sending_of_connection {i : Nat} {name : ComponentName}
    (hconnected : s.connected = some (i, name)) {connection : Connection Framework.Event}
    (hconnection : s.bridge.connections[i]? = some connection) :
    s.sending = connection.batch := by
  rw [sending, hconnected]
  simp only [hconnection, Option.elim_some]

theorem sending_set {t : EventJourney} {i : Nat} {name : ComponentName}
    {connection : Connection Framework.Event} (next : Connection Framework.Event)
    (hconnection : s.bridge.connections[i]? = some connection)
    (hconnected : t.connected = some (i, name))
    (hset : t.bridge.connections = s.bridge.connections.set i next) : t.sending = next.batch :=
  sending_of_connection hconnected (hset ▸ Bridge.getElem?_set_self hconnection next)

/-- When the connection of the running callback moves, or one moves while no
callback runs, no other connection is inside a callback. -/
theorem Accounted.of_set (hs : s.Accounted) {i : Nat}
    (hrunning : ∀ j name, s.connected = some (j, name) → j = i)
    {connection next : Connection Framework.Event}
    (hconnection : s.bridge.connections[i]? = some connection) {j : Nat}
    {other : Connection Framework.Event}
    (hother : (s.bridge.connections.set i next)[j]? = some other) (hbusy : other.isBusy = true) :
    j = i ∧ other = next := by
  by_cases hij : i = j
  · subst hij
    rw [Bridge.getElem?_set_self hconnection, Option.some.injEq] at hother
    exact ⟨rfl, hother.symm⟩
  · rw [List.getElem?_set_ne hij] at hother
    obtain ⟨name, hconnected⟩ := hs.alone j other hother hbusy
    exact absurd (hrunning j name hconnected).symm hij

theorem running_of_eq {i : Nat} {name : ComponentName} (hconnected : s.connected = some (i, name)) :
    ∀ j name, s.connected = some (j, name) → j = i := by
  intro j other hsome
  rw [hconnected] at hsome
  cases hsome
  rfl

theorem Accounted.onServiceConnected (hs : s.Accounted) (hidle : s.connected = none) {i : Nat}
    {bridge : Bridge Framework.Event}
    (hstep : s.bridge.step (.onServiceConnected i) = some bridge) (name : ComponentName) :
    ({ s with bridge := bridge, connected := some (i, name) } : EventJourney).Accounted := by
  have hconserves := hs.conserves.step hstep
  obtain ⟨connection, hconnection, _, rfl⟩ := Bridge.moveConnection_eq_some hstep
  have hrunning : ∀ j name, s.connected = some (j, name) → j = i := by
    rw [hidle]
    exact nofun
  refine ⟨hconserves, hs.said, ?_, ?_, hs.sized, ?_, hs.fits⟩
  · have hbefore : s.sending = [] := by rw [sending, hidle]
    have hself := hs.handed
    rw [hbefore] at hself
    have hafter : EventJourney.sending { s with
        bridge := { s.bridge with connections := s.bridge.connections.set i .draining }
        connected := some (i, name) } = [] := sending_set .draining hconnection rfl rfl
    rw [hafter]
    exact hself
  · intro j other hother hbusy
    obtain ⟨rfl, _⟩ := hs.of_set hrunning hconnection hother hbusy
    exact ⟨name, rfl⟩
  · intro j batch hother
    cases (hs.of_set hrunning hconnection hother rfl).2

/-- The callback finds nothing and ends. -/
theorem Accounted.takeNothing (hs : s.Accounted) {i : Nat} {name : ComponentName}
    (hconnected : s.connected = some (i, name))
    (hdraining : s.bridge.connections[i]? = some .draining) (hnil : s.bridge.eventBuffer = []) :
    ({ s with bridge := s.bridge.takeBatch i, connected := none } : EventJourney).Accounted := by
  have hbatch : (Bridge.getNextBatch s.bridge.eventBuffer).1 = [] := by
    rw [hnil]
    rfl
  have hself := hs.handed
  rw [sending_of_connection hconnected hdraining] at hself
  have hset : ∀ {j : Nat} {other : Connection Framework.Event},
      (s.bridge.takeBatch i).connections[j]? = some other → other.isBusy = true →
        j = i ∧ other = .finished := by
    intro j other hother hbusy
    simp only [Bridge.takeBatch, hbatch, List.isEmpty_nil, ↓reduceIte] at hother
    exact hs.of_set (running_of_eq hconnected) hdraining hother hbusy
  refine ⟨hs.conserves.takeBatch hdraining, hs.said, ?_, ?_, hs.sized, ?_, hs.fits⟩
  · simpa [Bridge.takeBatch, hbatch, sending, Connection.batch] using hself
  · intro j other hother hbusy
    obtain ⟨_, rfl⟩ := hset hother hbusy
    cases hbusy
  · intro j batch hother
    cases (hset hother rfl).2

/-- The callback takes a batch. -/
theorem Accounted.takeBatch (hs : s.Accounted) {i : Nat} {name : ComponentName}
    (hconnected : s.connected = some (i, name))
    (hdraining : s.bridge.connections[i]? = some .draining) (hne : s.bridge.eventBuffer ≠ []) :
    ({ s with bridge := s.bridge.takeBatch i } : EventJourney).Accounted := by
  have hbatch : (Bridge.getNextBatch s.bridge.eventBuffer).1.isEmpty = false :=
    Bool.eq_false_iff.2 fun hempty =>
      hne (Bridge.eq_nil_of_getNextBatch (List.isEmpty_iff.1 hempty))
  have hself := hs.handed
  rw [sending_of_connection hconnected hdraining] at hself
  have hset : ∀ {j : Nat} {other : Connection Framework.Event},
      (s.bridge.takeBatch i).connections[j]? = some other → other.isBusy = true →
        j = i ∧ other = .sending (Bridge.getNextBatch s.bridge.eventBuffer).1 := by
    intro j other hother hbusy
    simp only [Bridge.takeBatch, hbatch, Bool.false_eq_true, ↓reduceIte] at hother
    exact hs.of_set (running_of_eq hconnected) hdraining hother hbusy
  refine ⟨hs.conserves.takeBatch hdraining, hs.said, ?_, ?_, hs.sized, ?_, hs.fits⟩
  · have hsending : EventJourney.sending { s with bridge := s.bridge.takeBatch i } =
        (Bridge.getNextBatch s.bridge.eventBuffer).1 :=
      sending_set (.sending _) hdraining hconnected (by simp [Bridge.takeBatch, hbatch])
    rw [hsending]
    simp only [Bridge.takeBatch, List.map_append, List.flatten_append, hself]
    simp [Connection.batch]
  · intro j other hother hbusy
    obtain ⟨rfl, _⟩ := hset hother hbusy
    exact ⟨name, hconnected⟩
  · intro j batch hother
    obtain ⟨_, hsame⟩ := hset hother rfl
    cases hsame
    refine ⟨by simpa using hbatch, ?_⟩
    rw [Bridge.getNextBatch_eq]
    exact List.length_take_le _ _

theorem Accounted.getNextBatch (hs : s.Accounted) {i : Nat} {name : ComponentName}
    (hconnected : s.connected = some (i, name)) {bridge : Bridge Framework.Event}
    (hstep : s.bridge.step (.getNextBatch i) = some bridge) :
    ({ s with
      bridge := bridge
      connected := if s.bridge.eventBuffer.isEmpty then none else some (i, name) } :
        EventJourney).Accounted := by
  simp only [Bridge.step] at hstep
  split at hstep
  · rename_i hdraining
    rw [← Option.some.inj hstep]
    by_cases hnil : s.bridge.eventBuffer = []
    · rw [hnil, List.isEmpty_nil, if_pos rfl]
      exact hs.takeNothing hconnected hdraining hnil
    · rw [if_neg (by simpa using hnil), ← hconnected]
      exact hs.takeBatch hconnected hdraining hnil
  · cases hstep

/-- The call of a listener ends the sending, and goes on with the loop exactly
when it does not throw. -/
theorem step_callListener {i : Nat} {arrives : Bool} {bridge : Bridge Framework.Event}
    (hstep : s.bridge.step (if arrives then .onEventReturned i else .onEventThrew i) =
      some bridge) :
    bridge = { s.bridge with
      connections := s.bridge.connections.set i (if arrives then .draining else .failed) } := by
  cases arrives with
  | true =>
      obtain ⟨_, _, _, hbridge⟩ := Bridge.moveConnection_eq_some hstep
      exact hbridge
  | false =>
      obtain ⟨_, _, _, hbridge⟩ := Bridge.moveConnection_eq_some hstep
      exact hbridge

/-- The batch of the connection goes to the listener, or is lost. -/
theorem Accounted.callListener (hs : s.Accounted) (hgenerated : generated.Documented)
    {arrives : Bool} (hcall : s.callListener generated arrives = some s') : s'.Accounted := by
  unfold EventJourney.callListener at hcall
  split at hcall
  · cases hcall
  · rename_i i name hconnected
    split at hcall
    · rename_i batch hsending
      obtain ⟨bridge, hstep, rfl⟩ := Option.map_eq_some_iff.1 hcall
      have hconserves := hs.conserves.step hstep
      obtain rfl := step_callListener hstep
      have hbatch : batch.map generated.transfer = batch := by
        have htransfer : generated.transfer = id := funext hgenerated.read_write
        rw [htransfer, List.map_id]
      have hself := hs.handed
      rw [sending_of_connection hconnected hsending] at hself
      rw [hbatch]
      refine ⟨hconserves, hs.said, ?_, ?_, ?_, ?_, hs.fits.post _ _ _⟩
      · have hafter : EventJourney.sending { s with
            bridge := { s.bridge with
              connections := s.bridge.connections.set i (if arrives then .draining else .failed) }
            connected := if arrives then s.connected else none
            listeners := s.listeners.post name batch arrives } = [] := by
          cases arrives with
          | true => exact sending_set .draining hsending hconnected rfl
          | false => rfl
        rw [hafter, Postbox.messages_post, List.flatten_append, List.append_nil]
        simpa [Connection.batch] using hself
      · intro j other hother hbusy
        obtain ⟨rfl, rfl⟩ := hs.of_set (running_of_eq hconnected) hsending hother hbusy
        cases arrives with
        | true => exact ⟨name, hconnected⟩
        | false => cases hbusy
      · intro events hmem
        rw [Postbox.messages_post] at hmem
        rcases List.mem_append.1 hmem with hold | hnew
        · exact hs.sized events hold
        · rw [List.mem_singleton.1 hnew]
          exact hs.sendingSized i batch hsending
      · intro j other hother
        obtain ⟨_, hsame⟩ := hs.of_set (running_of_eq hconnected) hsending hother rfl
        cases arrives <;> cases hsame
    · cases hcall

theorem Accounted.onEvent (hs : s.Accounted) (name : ComponentName)
    (permission : Except Thrown Unit)
    (consumer : List DynamicInstrumentationEvent → Except Thrown Unit) :
    ({ s with listeners := s.listeners.answer name (heard permission consumer) } :
      EventJourney).Accounted := by
  refine ⟨hs.conserves, hs.said, ?_, hs.alone, ?_, hs.sendingSized,
    hs.fits.answer name fun _ _ => ⟨permission, consumer, rfl⟩⟩
  · rw [Postbox.messages_answer]
    exact hs.handed
  · rw [Postbox.messages_answer]
    exact hs.sized

theorem Accounted.died (hs : s.Accounted) (name : ComponentName) :
    ({ s with listeners := s.listeners.lose name } : EventJourney).Accounted := by
  refine ⟨hs.conserves, hs.said, ?_, hs.alone, ?_, hs.sendingSized, hs.fits.lose name⟩
  · rw [Postbox.messages_lose]
    exact hs.handed
  · rw [Postbox.messages_lose]
    exact hs.sized

theorem Accounted.step (hs : s.Accounted) (hgenerated : generated.Documented) {action : Action}
    (hstep : s.step generated action = some s') : s'.Accounted := by
  cases action with
  | sendEvent order diEvent flush =>
      rw [EventJourney.step, Option.some.injEq] at hstep
      subst hstep
      have hcalls : ∀ call ∈ (Framework.sendEvent generated.newValue order (fun _ _ => .ok ())
          (some diEvent) flush).trace, Encodes call.1 diEvent := fun _ hmem =>
        encodes_of_mem_sendEvent hgenerated hmem
      generalize (Framework.sendEvent generated.newValue order (fun _ _ => .ok ()) (some diEvent)
        flush).trace = calls at hcalls
      induction calls generalizing s with
      | nil => exact hs
      | cons call rest ih =>
          rw [List.foldl_cons]
          exact ih (hs.enqueue hgenerated (hcalls call List.mem_cons_self))
            fun other hmem => hcalls other (List.mem_cons_of_mem call hmem)
  | enqueueEvent event flush =>
      rw [EventJourney.step, Option.some.injEq] at hstep
      subst hstep
      exact hs.enqueue hgenerated (encodes_ofBridgeEvent event)
  | service action =>
      simp only [EventJourney.step] at hstep
      split at hstep
      · rename_i helsewhere
        obtain ⟨bridge, hbridge, rfl⟩ := Option.map_eq_some_iff.1 hstep
        obtain ⟨haccepted, hbatches, hsame⟩ := Bridge.step_elsewhere helsewhere hbridge
        exact hs.frame (hs.conserves.step hbridge) (haccepted ▸ hs.said) hbatches hsame
      · cases hstep
  | onServiceConnected i name =>
      simp only [EventJourney.step] at hstep
      split at hstep
      · cases hstep
      · rename_i hidle
        obtain ⟨bridge, hbridge, rfl⟩ := Option.map_eq_some_iff.1 hstep
        exact hs.onServiceConnected (Option.not_isSome_iff_eq_none.1 hidle) hbridge name
  | getNextBatch =>
      simp only [EventJourney.step] at hstep
      split at hstep
      · cases hstep
      · rename_i i name hconnected
        obtain ⟨bridge, hbridge, rfl⟩ := Option.map_eq_some_iff.1 hstep
        exact hs.getNextBatch hconnected hbridge
  | onEventReturned => exact hs.callListener hgenerated hstep
  | onEventThrew => exact hs.callListener hgenerated hstep
  | onEvent name permission consumer =>
      rw [EventJourney.step, Option.some.injEq] at hstep
      subst hstep
      exact hs.onEvent name permission consumer
  | died name =>
      rw [EventJourney.step, Option.some.injEq] at hstep
      subst hstep
      exact hs.died name

/-- A list that matches a list of lists one after another splits up like them. -/
theorem exists_flatten_of_forall₂ {α β : Type} {R : α → β → Prop} {xs : List α}
    {yss : List (List β)} {rest : List β} (hmatch : List.Forall₂ R xs (yss.flatten ++ rest)) :
    ∃ xss held, xss.flatten ++ held = xs ∧ List.Forall₂ (List.Forall₂ R) xss yss ∧
      List.Forall₂ R held rest := by
  induction yss generalizing xs with
  | nil => exact ⟨[], xs, rfl, .nil, hmatch⟩
  | cons ys yss ih =>
      rw [List.flatten_cons, List.append_assoc] at hmatch
      obtain ⟨xss, held, hsplit, hxss, hheld⟩ := ih (List.forall₂_drop_append xs ys _ hmatch)
      refine ⟨xs.take ys.length :: xss, held, ?_, .cons ?_ hxss, hheld⟩
      · rw [List.flatten_cons, List.append_assoc, hsplit, List.take_append_drop]
      · exact List.forall₂_take_append xs ys _ hmatch

/-- A call with as many events as fit a batch, and with these: a consumer that
is called for it gets them, up to the milliseconds. -/
structure Arrives (call : Letter ComponentName (List Framework.Event)
    (Option (List DynamicInstrumentationEvent))) (said : List DynamicInstrumentationEvent) :
    Prop where
  ne_nil : said ≠ []
  length_le : said.length ≤ eventBufferCapacity
  received : ∀ received, call.answer? = some (some received) →
    List.Forall₂ Survives said received

theorem forall₂_of_heard {events : List Framework.Event} {said : List DynamicInstrumentationEvent}
    (hencodes : List.Forall₂ Encodes events said) {permission : Except Thrown Unit}
    {consumer : List DynamicInstrumentationEvent → Except Thrown Unit}
    {received : List DynamicInstrumentationEvent}
    (hheard : some received = heard permission consumer events) :
    List.Forall₂ Survives said received := by
  cases permission with
  | error e => cases hheard
  | ok allowed =>
      obtain ⟨received', htrace, hsurvives⟩ := onEvent_of_encodes hencodes consumer
      rw [heard, htrace] at hheard
      cases hheard
      exact hsurvives

/-- The calls so far, with what the events of each of them say. -/
theorem Accounted.arrives (hs : s.Accounted) {said : List (List DynamicInstrumentationEvent)}
    (hsaid : List.Forall₂ (List.Forall₂ fun diEvent event => Encodes event diEvent) said
      s.listeners.messages) :
    List.Forall₂ Arrives s.listeners.letters said := by
  have hletters := List.forall₂_map_right_iff.1 hsaid
  refine List.Forall₂.flip (List.forall₂_iff_get.2 ⟨hletters.length_eq, ?_⟩)
  intro i hi hi'
  have hencodes := (List.forall₂_iff_get.1 hletters).2 i hi hi'
  have hmem := List.get_mem s.listeners.letters ⟨i, hi'⟩
  obtain ⟨hne, hle⟩ := hs.sized _ (List.mem_map_of_mem hmem)
  refine ⟨?_, hencodes.length_eq ▸ hle, ?_⟩
  · rintro hnil
    rw [hnil, List.forall₂_nil_left_iff] at hencodes
    exact hne hencodes
  · intro received hanswer
    obtain ⟨permission, consumer, hheard⟩ := hs.fits _ hmem _ hanswer
    exact forall₂_of_heard hencodes.flip hheard

/-- In every run, the events that were sent are, in their order, those of the
calls that have been made, each with its listener, and those that no call has
been made for yet.  A consumer gets what was sent, nothing twice, and its calls
come in their order. -/
theorem events_arrive (hgenerated : generated.Documented) (consumer : Option ComponentName)
    (hreach : (machine generated consumer).Reachable s) :
    ∃ said held, said.flatten ++ held = s.sent ∧
      held.length = s.sending.length + s.bridge.eventBuffer.length ∧
      List.Forall₂ Arrives s.listeners.letters said ∧
      ∀ name, s.given name =
        s.listeners.letters.filterMap fun call => (call.answerOf name).bind id := by
  have hs : s.Accounted := hreach.invariant (Accounted.init consumer)
    fun _ _ _ hbefore hstep => hbefore.step hgenerated hstep
  have haccepted : s.bridge.accepted =
      s.listeners.messages.flatten ++ (s.sending ++ s.bridge.eventBuffer) := by
    rw [← hs.conserves.conserved, hs.handed, List.append_assoc]
  have hmatch := hs.said.flip
  rw [haccepted] at hmatch
  obtain ⟨said, held, hsplit, hsaid, hheld⟩ := exists_flatten_of_forall₂ hmatch
  refine ⟨said, held, hsplit, ?_, hs.arrives hsaid, ?_⟩
  · rw [hheld.length_eq, List.length_append]
  · intro name
    rw [given, s.listeners.inOrder, Postbox.answersOf, List.filterMap_filterMap]

/-! One event of the daemon and one of an application for one consumer. -/

def journeyConsumer : ComponentName := ⟨"com.example", "com.example.Consumer"⟩

def journeyEvent : BridgeEvent := ⟨1000, 1500, 1, [⟨"CODE", .intValue 1⟩]⟩

/-- Both events are in the buffer when the consumer is bound, and it gets them
in one call. -/
def journeyRun : List Action :=
  [.enqueueEvent journeyEvent false, .sendEvent .asStored testEvent true,
    .service (.runPosted true), .onServiceConnected 0 journeyConsumer, .getNextBatch,
    .onEventReturned, .getNextBatch, .onEvent journeyConsumer (.ok ()) fun _ => .ok ()]

theorem events_arrive_journeyRun : ∃ s : EventJourney,
    (machine plainParcels (some journeyConsumer)).run journeyRun = some s ∧
      (s.given journeyConsumer).map List.length = [2] ∧
      ∃ said held, said.flatten ++ held = s.sent ∧
        held.length = s.sending.length + s.bridge.eventBuffer.length ∧
        List.Forall₂ Arrives s.listeners.letters said ∧
        ∀ name, s.given name =
          s.listeners.letters.filterMap fun call => (call.answerOf name).bind id := by
  have hgenerated : plainParcels.Documented := ⟨rfl, fun _ => rfl⟩
  refine ⟨_, rfl, rfl, ?_⟩
  exact events_arrive hgenerated (some journeyConsumer) ⟨journeyRun, rfl⟩

end EventJourney

end UprobeStats
