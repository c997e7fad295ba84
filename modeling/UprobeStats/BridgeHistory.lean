/-
What becomes of the events in the bridge buffer: however producers and
connections interleave, the batches handed out so far, followed by what is
still buffered, are the accepted events in the order of their acceptance.
-/
import UprobeStats.Bridge

namespace UprobeStats

namespace Bridge

open Transition

variable {E : Type}

/-- The history of the buffer accounts for every event. -/
structure Conserves (s : Bridge E) : Prop where
  /-- Nothing is lost, duplicated or reordered. -/
  conserved : (s.batches.map Batch.events).flatten ++ s.eventBuffer = s.accepted
  /-- No batch is larger than the capacity. -/
  bounded : ∀ batch ∈ s.batches, batch.events.length ≤ eventBufferCapacity
  /-- An empty batch found the buffer empty and ended its connection's loop. -/
  ended : ∀ batch ∈ s.batches, batch.events = [] →
    batch.found = [] ∧ s.connections[batch.connection]? = some .finished
  /-- No connection takes another batch after an empty one. -/
  final : s.batches.Pairwise fun earlier later =>
    earlier.events = [] → later.connection ≠ earlier.connection
  /-- A loop that ends without an exception has found the buffer empty. -/
  observed : ∀ i, s.connections[i]? = some .finished →
    ∃ batch ∈ s.batches, batch.connection = i ∧ batch.events = [] ∧ batch.found = []

theorem Conserves.init (consumer : Option ComponentName) :
    ((machine consumer : Machine (Bridge E) (Action E)).init).Conserves := by
  refine ⟨rfl, ?_, ?_, List.Pairwise.nil, ?_⟩
  · intro batch hbatch
    cases hbatch
  · intro batch hbatch
    cases hbatch
  · intro i hi
    cases hi

/-- A step that neither touches the buffer nor finishes a connection. -/
theorem Conserves.frame {s t : Bridge E} (hs : s.Conserves)
    (hbuffer : t.eventBuffer = s.eventBuffer) (haccepted : t.accepted = s.accepted)
    (hbatches : t.batches = s.batches)
    (hfinished : ∀ i : Nat, t.connections[i]? = some .finished ↔
      s.connections[i]? = some .finished) : t.Conserves := by
  refine ⟨?_, ?_, ?_, ?_, ?_⟩
  · rw [hbatches, hbuffer, haccepted]
    exact hs.conserved
  · rw [hbatches]
    exact hs.bounded
  · intro batch hbatch hempty
    rw [hbatches] at hbatch
    rw [hfinished]
    exact hs.ended batch hbatch hempty
  · rw [hbatches]
    exact hs.final
  · intro i hi
    rw [hbatches]
    exact hs.observed i ((hfinished i).1 hi)

theorem Conserves.enqueueEvent {s : Bridge E} (hs : s.Conserves) (event : E) (flush : Bool) :
    (s.enqueueEvent event flush).Conserves := by
  have hadded : ({ s with
      eventBuffer := s.eventBuffer ++ [event]
      accepted := s.accepted ++ [event] } : Bridge E).Conserves := by
    refine ⟨?_, hs.bounded, hs.ended, hs.final, hs.observed⟩
    rw [← hs.conserved, List.append_assoc]
  unfold Bridge.enqueueEvent
  split
  · exact hs
  · dsimp only
    split
    · exact hadded.frame rfl rfl rfl fun _ => Iff.rfl
    · split
      · exact hadded.frame rfl rfl rfl fun _ => Iff.rfl
      · exact hadded

theorem Conserves.bindConsumerIfNeeded {s : Bridge E} (hs : s.Conserves) (success : Bool) :
    (s.bindConsumerIfNeeded success).Conserves := by
  rcases bindConsumerIfNeeded_cases s success with ⟨_, _, _, hbind⟩ | ⟨_, hbind⟩
  · rw [hbind]
    refine hs.frame rfl rfl rfl ?_
    intro i
    -- the new connection is binding, and the others keep their places
    rcases lt_trichotomy i s.connections.length with hlt | heq | hgt
    · rw [List.getElem?_append_left hlt]
    · subst heq
      simp
    · rw [List.getElem?_eq_none (by simpa using hgt), List.getElem?_eq_none hgt.le]
  · rw [hbind]
    exact hs

theorem Conserves.flush {s t : Bridge E} (hs : s.Conserves) (htakes : TakesRunnable s t)
    (success : Bool) : (t.bindConsumerIfNeeded success).Conserves := by
  apply Conserves.bindConsumerIfNeeded
  refine hs.frame htakes.eventBuffer htakes.accepted htakes.batches ?_
  intro i
  rw [htakes.connections]

/-- Moving a connection that is in progress to anything but the end of its
loop. -/
theorem Conserves.move {s : Bridge E} (hs : s.Conserves) {i : Nat}
    {connection next : Connection E} (hconnection : s.connections[i]? = some connection)
    (hold : connection.inProgress = true) (hnext : next ≠ .finished) :
    ({ s with connections := s.connections.set i next } : Bridge E).Conserves := by
  refine hs.frame rfl rfl rfl ?_
  intro j
  by_cases hj : i = j
  · subst hj
    have hne : connection ≠ .finished := by
      rintro rfl
      cases hold
    rw [getElem?_set_self hconnection, hconnection]
    simp [hne, hnext]
  · rw [List.getElem?_set_ne hj]

theorem getNextBatch_append (buffer : List E) :
    (getNextBatch buffer).1 ++ (getNextBatch buffer).2 = buffer := by
  rw [getNextBatch_eq]
  exact List.take_append_drop _ _

theorem eq_nil_of_getNextBatch {buffer : List E} (hnil : (getNextBatch buffer).1 = []) :
    buffer = [] := by
  rw [getNextBatch_eq] at hnil
  simpa [eventBufferCapacity] using hnil

theorem Conserves.takeBatch {s : Bridge E} (hs : s.Conserves) {i : Nat}
    (hdraining : s.connections[i]? = some .draining) : (s.takeBatch i).Conserves := by
  -- a connection that has seen an empty batch is finished, so it is not this one
  have hother : ∀ batch ∈ s.batches, batch.events = [] → i ≠ batch.connection := by
    rintro batch hbatch hnil rfl
    rw [(hs.ended batch hbatch hnil).2] at hdraining
    cases hdraining
  refine ⟨?_, ?_, ?_, ?_, ?_⟩
  · simp only [Bridge.takeBatch, List.map_append, List.map_cons, List.map_nil,
      List.flatten_append, List.flatten_cons, List.flatten_nil, List.append_nil,
      List.append_assoc, getNextBatch_append]
    exact hs.conserved
  · intro batch hbatch
    rcases List.mem_append.1 hbatch with hbatch | hbatch
    · exact hs.bounded batch hbatch
    · rw [List.mem_singleton.1 hbatch, getNextBatch_eq]
      exact List.length_take_le _ _
  · intro batch hbatch hnil
    rcases List.mem_append.1 hbatch with hbatch | hbatch
    · refine ⟨(hs.ended batch hbatch hnil).1, ?_⟩
      simp only [Bridge.takeBatch]
      rw [List.getElem?_set_ne (hother batch hbatch hnil)]
      exact (hs.ended batch hbatch hnil).2
    · rw [List.mem_singleton.1 hbatch] at hnil ⊢
      refine ⟨eq_nil_of_getNextBatch hnil, ?_⟩
      simp only at hnil
      simp only [Bridge.takeBatch, hnil, List.isEmpty_nil, ↓reduceIte]
      exact getElem?_set_self hdraining _
  · simp only [Bridge.takeBatch]
    rw [List.pairwise_append]
    refine ⟨hs.final, List.pairwise_singleton _ _, ?_⟩
    intro batch hbatch later hlater hnil
    rw [List.mem_singleton.1 hlater]
    exact hother batch hbatch hnil
  · intro j hj
    simp only [Bridge.takeBatch] at hj ⊢
    by_cases hij : i = j
    · subst hij
      rw [getElem?_set_self hdraining, Option.some.injEq] at hj
      have hnil : (getNextBatch s.eventBuffer).1 = [] := by
        by_contra hne
        rw [if_neg (by simpa using hne)] at hj
        cases hj
      exact ⟨_, List.mem_append_right _ (List.mem_singleton.2 rfl), rfl, hnil,
        eq_nil_of_getNextBatch hnil⟩
    · rw [List.getElem?_set_ne hij] at hj
      obtain ⟨batch, hbatch, hfound⟩ := hs.observed j hj
      exact ⟨batch, List.mem_append_left _ hbatch, hfound⟩

theorem Conserves.step {s s' : Bridge E} {a : Action E} (hs : s.Conserves)
    (hstep : s.step a = some s') : s'.Conserves := by
  cases a with
  | enqueueEvent event flush =>
      rw [Bridge.step, Option.some.injEq] at hstep
      rw [← hstep]
      exact hs.enqueueEvent event flush
  | runPosted success =>
      simp only [Bridge.step] at hstep
      split at hstep
      · rename_i hposted
        rw [← Option.some.inj hstep]
        exact hs.flush (takesRunnable_posted hposted) success
      · cases hstep
  | runDelayed i success =>
      simp only [Bridge.step] at hstep
      split at hstep
      · rename_i hi
        rw [← Option.some.inj hstep]
        exact hs.flush (takesRunnable_delayed hi) success
      · cases hstep
  | onServiceConnected i =>
      obtain ⟨connection, hconnection, hbinding, rfl⟩ := moveConnection_eq_some hstep
      exact hs.move hconnection (inProgress_of_isBinding hbinding) (by simp)
  | getNextBatch i =>
      simp only [Bridge.step] at hstep
      split at hstep
      · rename_i hdraining
        rw [← Option.some.inj hstep]
        exact hs.takeBatch hdraining
      · cases hstep
  | onEventReturned i =>
      obtain ⟨connection, hconnection, hsending, rfl⟩ := moveConnection_eq_some hstep
      exact hs.move hconnection (inProgress_of_isSending hsending) (by simp)
  | onEventThrew i =>
      obtain ⟨connection, hconnection, hsending, rfl⟩ := moveConnection_eq_some hstep
      exact hs.move hconnection (inProgress_of_isSending hsending) (by simp)
  | onNullBinding i =>
      obtain ⟨connection, hconnection, hbinding, rfl⟩ := moveConnection_eq_some hstep
      exact hs.move hconnection (inProgress_of_isBinding hbinding) (by simp)
  | enableTestMode component =>
      rw [Bridge.step, Option.some.injEq] at hstep
      rw [← hstep]
      exact hs.frame rfl rfl rfl fun _ => Iff.rfl
  | disableTestMode =>
      rw [Bridge.step, Option.some.injEq] at hstep
      rw [← hstep]
      exact hs.frame rfl rfl rfl fun _ => Iff.rfl

/-- Two connections share three events: the first takes two of them, and the
second the one that arrives while they are being sent. -/
def sharedBufferRun : List (Action Nat) :=
  [.enqueueEvent 0 true, .enqueueEvent 1 true, .runPosted true, .runPosted true,
    .onServiceConnected 0, .onServiceConnected 1, .getNextBatch 0, .enqueueEvent 2 false,
    .getNextBatch 1, .onEventReturned 0, .getNextBatch 0]

end Bridge

end UprobeStats
