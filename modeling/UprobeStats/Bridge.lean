/-
The event buffer of the bridge service and the connections that drain it.
Producers append under the lock, a flush runnable binds the consumer, and a
connection takes batches until it finds the buffer empty.  The system decides
whether a bind succeeds, what it leads to and whether an `onEvent` throws.
-/
import UprobeStats.Lib.Machine

namespace UprobeStats

open Transition

/-- `EVENT_BUFFER_CAPACITY`. -/
def eventBufferCapacity : Nat := 128

/-- `FLUSH_TIMEOUT`, 12 hours in milliseconds. -/
def flushTimeoutMillis : Nat := 12 * 60 * 60 * 1000

/-- `TEST_FLUSH_TIMEOUT`, 10 seconds in milliseconds. -/
def testFlushTimeoutMillis : Nat := 10 * 1000

structure ComponentName where
  packageName : String
  className : String
deriving DecidableEq, Repr

/-- Where an `EventSenderConnection` is. -/
inductive Connection (E : Type) where
  /-- The bind was accepted, and nothing has come of it yet. -/
  | binding
  /-- In the loop, about to call `getNextBatch`. -/
  | draining
  /-- In the loop, inside `onEvent`. -/
  | sending (batch : List E)
  /-- The loop has ended on an empty batch. -/
  | finished
  /-- The loop was ended by a `RemoteException`. -/
  | failed
  /-- The bind led to `onNullBinding`. -/
  | nullBound
deriving DecidableEq, Repr

/-- The connection has not been unbound yet. -/
def Connection.inProgress {E : Type} : Connection E → Bool
  | .binding => true
  | .draining => true
  | .sending _ => true
  | _ => false

/-- A call of `getNextBatch`: who made it, the buffer it found and the events
it returned. -/
structure Batch (E : Type) where
  connection : Nat
  found : List E
  events : List E
deriving DecidableEq, Repr

/-- The service.  The last two fields are history. -/
structure Bridge (E : Type) where
  eventBuffer : List E
  consumer : Option ComponentName
  flushTimeout : Nat
  /-- Flush runnables posted for at once. -/
  posted : Nat
  /-- The delays of the flush runnables posted for later. -/
  delayed : List Nat
  connections : List (Connection E)
  /-- The events `enqueueEvent` has added. -/
  accepted : List E
  /-- The calls of `getNextBatch`. -/
  batches : List (Batch E)
deriving DecidableEq, Repr

namespace Bridge

variable {E : Type}

/-- The loop of `getNextBatch`, with the number of turns it has left. -/
def pollFirst : Nat → List E → List E × List E
  | 0, buffer => ([], buffer)
  | _ + 1, [] => ([], [])
  | n + 1, event :: rest => (event :: (pollFirst n rest).1, (pollFirst n rest).2)

/-- `getNextBatch`: the batch and what stays in the buffer. -/
def getNextBatch (buffer : List E) : List E × List E :=
  if buffer.isEmpty then ([], buffer) else pollFirst eventBufferCapacity buffer

/-- `bindConsumerIfNeeded`, with the answer of `bindServiceAsUser`. -/
def bindConsumerIfNeeded (s : Bridge E) (success : Bool) : Bridge E :=
  match s.consumer with
  | none => s
  | some _ =>
      if s.eventBuffer.isEmpty then s
      else if success then { s with connections := s.connections ++ [.binding] }
      else s

def enqueueEvent (s : Bridge E) (event : E) (flush : Bool) : Bridge E :=
  match s.consumer with
  | none => s
  | some _ =>
      let added := { s with
        eventBuffer := s.eventBuffer ++ [event]
        accepted := s.accepted ++ [event] }
      let size := added.eventBuffer.length
      if flush || decide (eventBufferCapacity ≤ size) then { added with posted := s.posted + 1 }
      else if size = 1 then { added with delayed := s.delayed ++ [s.flushTimeout] }
      else added

/-- One turn of the loop in `onServiceConnected`, up to the call of
`onEvent`. -/
def takeBatch (s : Bridge E) (i : Nat) : Bridge E :=
  let batch := (getNextBatch s.eventBuffer).1
  { s with
    eventBuffer := (getNextBatch s.eventBuffer).2
    connections := s.connections.set i (if batch.isEmpty then .finished else .sending batch)
    batches := s.batches ++ [⟨i, s.eventBuffer, batch⟩] }

/-- What can happen to the service next. -/
inductive Action (E : Type) where
  | enqueueEvent (event : E) (flush : Bool)
  | runPosted (success : Bool)
  | runDelayed (i : Nat) (success : Bool)
  | onServiceConnected (i : Nat)
  | getNextBatch (i : Nat)
  | onEventReturned (i : Nat)
  | onEventThrew (i : Nat)
  | onNullBinding (i : Nat)
  | enableTestMode (component : ComponentName)
  | disableTestMode
deriving DecidableEq, Repr

/-- Move a connection on, if it is where the step takes it from. -/
def moveConnection (s : Bridge E) (i : Nat) (enabled : Connection E → Bool)
    (next : Connection E) : Option (Bridge E) :=
  match s.connections[i]? with
  | none => none
  | some connection =>
      if enabled connection then some { s with connections := s.connections.set i next } else none

def isBinding : Connection E → Bool
  | .binding => true
  | _ => false

def isSending : Connection E → Bool
  | .sending _ => true
  | _ => false

def step (s : Bridge E) : Action E → Option (Bridge E)
  | .enqueueEvent event flush => some (s.enqueueEvent event flush)
  | .runPosted success =>
      if 0 < s.posted then
        some ({ s with posted := s.posted - 1 }.bindConsumerIfNeeded success)
      else none
  | .runDelayed i success =>
      if i < s.delayed.length then
        some ({ s with delayed := s.delayed.eraseIdx i }.bindConsumerIfNeeded success)
      else none
  | .onServiceConnected i => s.moveConnection i isBinding .draining
  | .getNextBatch i =>
      match s.connections[i]? with
      | some .draining => some (s.takeBatch i)
      | _ => none
  | .onEventReturned i => s.moveConnection i isSending .draining
  | .onEventThrew i => s.moveConnection i isSending .failed
  | .onNullBinding i => s.moveConnection i isBinding .nullBound
  | .enableTestMode component =>
      some { s with consumer := some component, flushTimeout := testFlushTimeoutMillis }
  | .disableTestMode =>
      some { s with consumer := none, flushTimeout := flushTimeoutMillis }

/-- A service that has just been constructed, with the consumer the platform
has configured. -/
def machine (consumer : Option ComponentName) : Machine (Bridge E) (Action E) where
  init := {
    eventBuffer := []
    consumer := consumer
    flushTimeout := flushTimeoutMillis
    posted := 0
    delayed := []
    connections := []
    accepted := []
    batches := [] }
  step := step

theorem machine_step (consumer : Option ComponentName) (s : Bridge E) (a : Action E) :
    (machine consumer).step s a = s.step a := rfl

/-- The loop takes as many events as fit a batch. -/
theorem pollFirst_eq (n : Nat) (buffer : List E) :
    pollFirst n buffer = (buffer.take n, buffer.drop n) := by
  induction n generalizing buffer with
  | zero => rfl
  | succ n ih =>
      cases buffer with
      | nil => rfl
      | cons event rest => simp [pollFirst, ih]

theorem getNextBatch_eq (buffer : List E) :
    getNextBatch buffer = (buffer.take eventBufferCapacity, buffer.drop eventBufferCapacity) := by
  unfold getNextBatch
  split
  · rename_i hempty
    simp [List.isEmpty_iff.1 hempty]
  · exact pollFirst_eq eventBufferCapacity buffer

theorem moveConnection_eq_some {s s' : Bridge E} {i : Nat} {enabled : Connection E → Bool}
    {next : Connection E} (hmove : s.moveConnection i enabled next = some s') :
    ∃ connection, s.connections[i]? = some connection ∧ enabled connection = true ∧
      s' = { s with connections := s.connections.set i next } := by
  unfold moveConnection at hmove
  split at hmove
  · cases hmove
  · rename_i connection hconnection
    split at hmove
    · rename_i henabled
      exact ⟨connection, hconnection, henabled, (Option.some.inj hmove).symm⟩
    · cases hmove

/-! What is still going to look at the buffer. -/

/-- In a state with a consumer and buffered events, a flush runnable is posted
or a binding is in progress. -/
def NotStranded (s : Bridge E) : Prop :=
  s.consumer ≠ none → s.eventBuffer ≠ [] →
    0 < s.posted ∨ s.delayed ≠ [] ∨
      ∃ connection ∈ s.connections, connection.inProgress = true

/-- The flush runnables posted and the bindings in progress. -/
def pending (s : Bridge E) : Nat :=
  s.posted + s.delayed.length + s.connections.countP Connection.inProgress

/-- The step is the end of the last thing that would have looked at buffered
events, or configures a consumer when there is no such thing. -/
def Strands (s : Bridge E) : Action E → Prop
  | .runPosted success => success = false ∧ s.consumer ≠ none ∧ s.eventBuffer ≠ [] ∧ s.pending = 1
  | .runDelayed _ success =>
      success = false ∧ s.consumer ≠ none ∧ s.eventBuffer ≠ [] ∧ s.pending = 1
  | .onEventThrew _ => s.consumer ≠ none ∧ s.eventBuffer ≠ [] ∧ s.pending = 1
  | .onNullBinding _ => s.consumer ≠ none ∧ s.eventBuffer ≠ [] ∧ s.pending = 1
  | .enableTestMode _ => s.eventBuffer ≠ [] ∧ s.pending = 0
  | _ => False

theorem notStranded_iff (s : Bridge E) :
    s.NotStranded ↔ (s.consumer ≠ none → s.eventBuffer ≠ [] → 0 < s.pending) := by
  have hpending : 0 < s.pending ↔ 0 < s.posted ∨ s.delayed ≠ [] ∨
      ∃ connection ∈ s.connections, connection.inProgress = true := by
    rw [← List.countP_pos_iff, ← List.length_pos_iff]
    unfold pending
    omega
  simp only [NotStranded, hpending]

theorem countP_set_add {connections : List (Connection E)} {i : Nat} {connection : Connection E}
    (hconnection : connections[i]? = some connection) (next : Connection E) :
    (connections.set i next).countP Connection.inProgress + connection.inProgress.toNat =
      connections.countP Connection.inProgress + next.inProgress.toNat := by
  obtain ⟨hi, rfl⟩ := List.getElem?_eq_some_iff.1 hconnection
  have hle := List.boole_getElem_le_countP (p := Connection.inProgress) hi
  have hbool : ∀ b : Bool, b.toNat = if b then 1 else 0 := by decide
  rw [List.countP_set hi, hbool, hbool]
  omega

/-- Moving a connection changes what is pending by whether it is in
progress. -/
theorem pending_set {s : Bridge E} {i : Nat} {connection : Connection E}
    (hconnection : s.connections[i]? = some connection) (next : Connection E) :
    pending { s with connections := s.connections.set i next } + connection.inProgress.toNat =
      s.pending + next.inProgress.toNat := by
  have hcount := countP_set_add hconnection next
  simp only [pending]
  omega

/-- A flush leaves everything but its own runnable, unless it binds. -/
theorem bindConsumerIfNeeded_cases (s : Bridge E) (success : Bool) :
    (success = true ∧ s.consumer ≠ none ∧ s.eventBuffer ≠ [] ∧
        s.bindConsumerIfNeeded success =
          { s with connections := s.connections ++ [.binding] }) ∨
      ((success = false ∨ s.consumer = none ∨ s.eventBuffer = []) ∧
        s.bindConsumerIfNeeded success = s) := by
  unfold bindConsumerIfNeeded
  cases hconsumer : s.consumer with
  | none => exact Or.inr ⟨Or.inr (Or.inl rfl), rfl⟩
  | some component =>
      cases hbuffer : s.eventBuffer with
      | nil => exact Or.inr ⟨Or.inr (Or.inr rfl), rfl⟩
      | cons event rest =>
          cases success with
          | true => exact Or.inl ⟨rfl, by simp, by simp, rfl⟩
          | false => exact Or.inr ⟨Or.inl rfl, rfl⟩

/-- What a flush runnable starts from: one thing less is pending. -/
structure TakesRunnable (s t : Bridge E) : Prop where
  pending : t.pending + 1 = s.pending
  consumer : t.consumer = s.consumer
  eventBuffer : t.eventBuffer = s.eventBuffer
  connections : t.connections = s.connections
  accepted : t.accepted = s.accepted
  batches : t.batches = s.batches

theorem takesRunnable_posted {s : Bridge E} (hposted : 0 < s.posted) :
    TakesRunnable s { s with posted := s.posted - 1 } := by
  refine ⟨?_, rfl, rfl, rfl, rfl, rfl⟩
  simp only [Bridge.pending]
  omega

theorem takesRunnable_delayed {s : Bridge E} {i : Nat} (hi : i < s.delayed.length) :
    TakesRunnable s { s with delayed := s.delayed.eraseIdx i } := by
  refine ⟨?_, rfl, rfl, rfl, rfl, rfl⟩
  simp only [Bridge.pending, List.length_eraseIdx_of_lt hi]
  omega

theorem pending_append_binding (s : Bridge E) :
    pending { s with connections := s.connections ++ [.binding] } = s.pending + 1 := by
  simp only [pending, List.countP_append, List.countP_singleton, Connection.inProgress, ↓reduceIte]
  omega

/-- A flush strands events exactly when it was the last thing pending and its
bind fails. -/
theorem TakesRunnable.notStranded_iff {s t : Bridge E} (htakes : TakesRunnable s t)
    (success : Bool) :
    (t.bindConsumerIfNeeded success).NotStranded ↔
      ¬ (success = false ∧ s.consumer ≠ none ∧ s.eventBuffer ≠ [] ∧ s.pending = 1) := by
  have hpending := htakes.pending
  rw [Bridge.notStranded_iff]
  rcases bindConsumerIfNeeded_cases t success with
    ⟨hsuccess, _, _, hbind⟩ | ⟨hidle, hbind⟩
  · rw [hbind, pending_append_binding]
    simp [hsuccess]
  · rw [hbind, htakes.consumer, htakes.eventBuffer]
    rw [htakes.consumer, htakes.eventBuffer] at hidle
    constructor
    · rintro hsafe ⟨_, hconsumer, hbuffer, hone⟩
      have hpos := hsafe hconsumer hbuffer
      omega
    · intro hguard hconsumer hbuffer
      have hfailed : success = false := by
        rcases hidle with hfailed | hnone | hempty
        · exact hfailed
        · exact absurd hnone hconsumer
        · exact absurd hempty hbuffer
      have hone : s.pending ≠ 1 := fun hone => hguard ⟨hfailed, hconsumer, hbuffer, hone⟩
      omega

/-- Appending an event posts a flush unless the buffer held events before. -/
theorem NotStranded.enqueueEvent {s : Bridge E} (hsafe : s.NotStranded) (event : E)
    (flush : Bool) : (s.enqueueEvent event flush).NotStranded := by
  rw [notStranded_iff] at hsafe ⊢
  unfold Bridge.enqueueEvent
  cases hconsumer : s.consumer with
  | none => exact fun hsome => absurd hconsumer hsome
  | some component =>
      dsimp only
      split
      · intro _ _
        simp only [pending]
        omega
      · split
        · intro _ _
          simp only [pending, List.length_append, List.length_singleton]
          omega
        · rename_i _ hsize
          intro _ _
          -- more than one event is buffered, so there was one before
          have hbuffer : s.eventBuffer ≠ [] := by
            rintro hnil
            simp [hnil] at hsize
          exact hsafe (by simp [hconsumer]) hbuffer

/-- A connection that goes on keeps the buffer looked at. -/
theorem notStranded_of_inProgress {s : Bridge E} {i : Nat} {connection : Connection E}
    (hconnection : s.connections[i]? = some connection) (hprogress : connection.inProgress = true) :
    s.NotStranded := by
  intro _ _
  exact Or.inr (Or.inr ⟨connection, List.mem_of_getElem? hconnection, hprogress⟩)

theorem getElem?_set_self {s : Bridge E} {i : Nat} {connection : Connection E}
    (hconnection : s.connections[i]? = some connection) (next : Connection E) :
    (s.connections.set i next)[i]? = some next := by
  obtain ⟨hi, _⟩ := List.getElem?_eq_some_iff.1 hconnection
  simp [hi]

/-- A connection that ends strands events exactly when it was the last thing
pending. -/
theorem notStranded_set_iff {s : Bridge E} {i : Nat} {connection next : Connection E}
    (hconnection : s.connections[i]? = some connection) (hold : connection.inProgress = true)
    (hnext : next.inProgress = false) :
    ({ s with connections := s.connections.set i next } : Bridge E).NotStranded ↔
      ¬ (s.consumer ≠ none ∧ s.eventBuffer ≠ [] ∧ s.pending = 1) := by
  have hpending := pending_set hconnection next
  rw [hold, hnext, Bool.toNat_true, Bool.toNat_false] at hpending
  rw [notStranded_iff]
  constructor
  · rintro hsafe ⟨hconsumer, hbuffer, hone⟩
    have hpos := hsafe hconsumer hbuffer
    omega
  · intro hguard hconsumer hbuffer
    have hone : s.pending ≠ 1 := fun hone => hguard ⟨hconsumer, hbuffer, hone⟩
    omega

theorem takeBatch_notStranded {s : Bridge E} {i : Nat}
    (hconnection : s.connections[i]? = some .draining) : (s.takeBatch i).NotStranded := by
  cases hbuffer : s.eventBuffer with
  | nil =>
      intro _ hne
      simp [takeBatch, hbuffer, getNextBatch] at hne
  | cons event rest =>
      have hbatch : (getNextBatch s.eventBuffer).1.isEmpty = false := by
        simp [getNextBatch_eq, hbuffer, eventBufferCapacity]
      have hsending : (s.takeBatch i).connections[i]? =
          some (.sending (getNextBatch s.eventBuffer).1) := by
        simp only [takeBatch, hbatch, Bool.false_eq_true, ↓reduceIte]
        exact getElem?_set_self hconnection _
      exact notStranded_of_inProgress hsending rfl

theorem inProgress_of_isBinding {connection : Connection E}
    (hbinding : isBinding connection = true) : connection.inProgress = true := by
  cases connection <;> first | rfl | cases hbinding

theorem inProgress_of_isSending {connection : Connection E}
    (hsending : isSending connection = true) : connection.inProgress = true := by
  cases connection <;> first | rfl | cases hsending

/-- From a state in which nothing is stranded, a step strands events exactly
when it is one of the steps that do. -/
theorem notStranded_step_iff {s s' : Bridge E} {a : Action E} (hsafe : s.NotStranded)
    (hstep : s.step a = some s') : s'.NotStranded ↔ ¬ s.Strands a := by
  cases a with
  | enqueueEvent event flush =>
      rw [step, Option.some.injEq] at hstep
      rw [← hstep]
      simp only [Strands, not_false_eq_true, iff_true]
      exact hsafe.enqueueEvent event flush
  | runPosted success =>
      simp only [step] at hstep
      split at hstep
      · rename_i hposted
        rw [← Option.some.inj hstep]
        exact (takesRunnable_posted hposted).notStranded_iff success
      · cases hstep
  | runDelayed i success =>
      simp only [step] at hstep
      split at hstep
      · rename_i hi
        rw [← Option.some.inj hstep]
        exact (takesRunnable_delayed hi).notStranded_iff success
      · cases hstep
  | onServiceConnected i =>
      obtain ⟨connection, hconnection, _, rfl⟩ := moveConnection_eq_some hstep
      simp only [Strands, not_false_eq_true, iff_true]
      exact notStranded_of_inProgress (getElem?_set_self hconnection .draining) rfl
  | getNextBatch i =>
      simp only [step] at hstep
      split at hstep
      · rename_i hdraining
        rw [← Option.some.inj hstep]
        simp only [Strands, not_false_eq_true, iff_true]
        exact takeBatch_notStranded hdraining
      · cases hstep
  | onEventReturned i =>
      obtain ⟨connection, hconnection, _, rfl⟩ := moveConnection_eq_some hstep
      simp only [Strands, not_false_eq_true, iff_true]
      exact notStranded_of_inProgress (getElem?_set_self hconnection .draining) rfl
  | onEventThrew i =>
      obtain ⟨connection, hconnection, hsending, rfl⟩ := moveConnection_eq_some hstep
      exact notStranded_set_iff hconnection (inProgress_of_isSending hsending) rfl
  | onNullBinding i =>
      obtain ⟨connection, hconnection, hbinding, rfl⟩ := moveConnection_eq_some hstep
      exact notStranded_set_iff hconnection (inProgress_of_isBinding hbinding) rfl
  | enableTestMode component =>
      rw [step, Option.some.injEq] at hstep
      rw [← hstep, notStranded_iff]
      have hpending : pending { s with
          consumer := some component
          flushTimeout := testFlushTimeoutMillis } = s.pending := rfl
      rw [hpending]
      simp only [Strands, ne_eq, reduceCtorEq, not_false_eq_true, forall_const, not_and]
      constructor
      · intro hpos hbuffer hzero
        have := hpos hbuffer
        omega
      · intro hne hbuffer
        have := hne hbuffer
        omega
  | disableTestMode =>
      rw [step, Option.some.injEq] at hstep
      rw [← hstep]
      simp only [Strands, not_false_eq_true, iff_true]
      exact fun hsome => absurd rfl hsome

/-- In every run, no event is stranded at any state if and only if no step
ends the last thing pending while a consumer is configured and events are
buffered, or configures a consumer for events that nothing is pending for. -/
theorem no_event_stranded_iff (consumer : Option ComponentName) (actions : List (Action E)) :
    (∀ s, (machine consumer).Visits actions s → s.NotStranded) ↔
      ∀ s a s', (machine consumer).Takes actions s a s' → ¬ s.Strands a := by
  apply Machine.visits_safe_iff_guarded (machine consumer) NotStranded NotStranded
    (fun s a => ¬ s.Strands a)
  · exact fun _ hne => absurd rfl hne
  · exact fun _ hsafe => hsafe
  · intro s a s' hsafe hguard hstep
    exact (notStranded_step_iff hsafe hstep).2 hguard
  · intro s a s' hsafe hguard hstep hsafe'
    exact hguard ((notStranded_step_iff hsafe hstep).1 hsafe')

/-- One event, and the bind of its delayed flush fails. -/
def failedBindRun : List (Action Nat) := [.enqueueEvent 0 false, .runDelayed 0 false]

/-- The event stays in the buffer, and nothing is going to look at it. -/
theorem failedBind_strands :
    ∃ s, (machine (some ⟨"com.example", "com.example.Consumer"⟩)).Visits failedBindRun s ∧
      s.consumer ≠ none ∧ s.eventBuffer = [0] ∧ ¬ s.NotStranded := by
  refine ⟨_, ⟨failedBindRun, List.prefix_rfl, rfl⟩, ?_, rfl, ?_⟩
  · decide
  · rw [notStranded_iff]
    decide

end Bridge

end UprobeStats
