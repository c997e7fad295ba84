/-
Whose records a task is given.  A program submits to the ring buffer of its
object whoever polls it, so the records of a task stay its own only if every
task polls the buffers that its programs submit to; then the ownership of the
maps keeps the tasks apart.
-/
import UprobeStats.Deliveries

namespace UprobeStats

open Transition

namespace Deliveries

variable {ρ : Type}

section Steps

variable {env : BufferEnv ρ} {s s' : Deliveries ρ} {tid : Nat} {mapPath : String}

/-- What a step means for one thread at one map: nothing is submitted and
nothing discarded, a record is submitted, or the thread discards the map. -/
inductive StepAt (env : BufferEnv ρ) (s s' : Deliveries ρ) (tid : Nat) (mapPath : String) :
    Prop where
  | quiet (hsent : (s'.buffers mapPath).sent = (s.buffers mapPath).sent)
      (hsince : (s'.readers tid mapPath).since = (s.readers tid mapPath).since)
      (hreading : (s'.readers tid mapPath).reading = true →
        (s.readers tid mapPath).reading = true)
      (hconsumed : (s'.readers tid mapPath).consumed = (s.readers tid mapPath).consumed ∨
        (s.readers tid mapPath).handler.isSome = true)
  | submitted (submission : Submission ρ)
      (hattached : submission.bpfProgramPath ∈ s.attached submission.tid)
      (hsubmits : env.submits submission.bpfProgramPath mapPath = true)
      (hsent : (s'.buffers mapPath).sent = (s.buffers mapPath).sent ++ [submission])
      (hreader : s'.readers tid mapPath = s.readers tid mapPath)
  | discarded (hsince : (s'.readers tid mapPath).since = (s'.buffers mapPath).sent.length)
      (hconsumed : (s'.readers tid mapPath).consumed = [])

theorem StepAt.of_eq (hbuffers : s'.buffers = s.buffers) (hreaders : s'.readers = s.readers)
    (tid : Nat) (mapPath : String) : StepAt env s s' tid mapPath :=
  .quiet (by rw [hbuffers]) (by rw [hreaders]) (by rw [hreaders]; exact id)
    (.inl (by rw [hreaders]))

theorem StepAt.close (other : Nat) : StepAt env s (s.close other) tid mapPath := by
  by_cases heq : tid = other
  · subst heq
    have hstop : (s.close tid).readers tid mapPath = (s.readers tid mapPath).stop := by
      simp [Deliveries.close]
    refine .quiet rfl (by rw [hstop]; rfl) ?_ (.inl (by rw [hstop]; rfl))
    rw [hstop]
    intro hreading
    cases hreading
  · have hsame : (s.close other).readers tid mapPath = s.readers tid mapPath := by
      simp [Deliveries.close, Function.update_of_ne heq]
    exact .quiet rfl (by rw [hsame]) (by rw [hsame]; exact id) (.inl (by rw [hsame]))

/-- A change at one map that does not lose what was sent. -/
theorem StepAt.setMap {other : Nat} {path : String} {box : Mailbox (Submission ρ)}
    {reader : Reader ρ} (hsent : box.sent = (s.buffers path).sent)
    (hself : tid = other → mapPath = path →
      StepAt env s ((s.setBuffer path box).setReader other path reader) tid mapPath) :
    StepAt env s ((s.setBuffer path box).setReader other path reader) tid mapPath := by
  by_cases heq : tid = other ∧ mapPath = path
  · exact hself heq.1 heq.2
  · have hreader : ((s.setBuffer path box).setReader other path reader).readers tid mapPath =
        s.readers tid mapPath := setReader_readers_of_ne _ reader heq
    have hbox : (((s.setBuffer path box).setReader other path reader).buffers mapPath).sent =
        (s.buffers mapPath).sent := by
      by_cases hpath : mapPath = path
      · subst hpath
        simpa [Deliveries.setReader, setBuffer] using hsent
      · exact congrArg Mailbox.sent (setBuffer_buffers_of_ne s box hpath)
    exact .quiet hbox (by rw [hreader]) (by rw [hreader]; exact id) (.inl (by rw [hreader]))

theorem StepAt.setReader {other : Nat} {path : String} {reader : Reader ρ}
    (hsince : reader.since = (s.readers other path).since)
    (hconsumed : reader.consumed = (s.readers other path).consumed)
    (hreading : reader.reading = true → (s.readers other path).reading = true) :
    StepAt env s (s.setReader other path reader) tid mapPath := by
  have hset : StepAt env s
      ((s.setBuffer path (s.buffers path)).setReader other path reader) tid mapPath := by
    apply StepAt.setMap rfl
    rintro rfl rfl
    rw [setBuffer_self]
    have hself := setReader_readers_self s tid mapPath reader
    exact .quiet rfl (by rw [hself, hsince]) (by rw [hself]; exact hreading)
      (.inl (by rw [hself, hconsumed]))
  rwa [setBuffer_self] at hset

theorem StepAt.setStage (hat : StepAt env s s' tid mapPath) (other : Nat)
    (stage : ProbeStage) : StepAt env s (s'.setStage other stage) tid mapPath := by
  cases hat with
  | quiet hsent hsince hreading hconsumed => exact .quiet hsent hsince hreading hconsumed
  | submitted submission hattached hsubmits hsent hreader =>
      exact .submitted submission hattached hsubmits hsent hreader
  | discarded hsince hconsumed => exact .discarded hsince hconsumed

theorem StepAt.discardMap (other : Nat) (path : String) :
    StepAt env s (s.discardMap env other path) tid mapPath := by
  apply StepAt.setMap
  · split <;> rfl
  · rintro rfl rfl
    refine .discarded ?_ ?_
    · rw [setReader_readers_self]
      cases env.pinned mapPath <;> simp [Deliveries.setReader, setBuffer]
    · rw [setReader_readers_self]

theorem StepAt.consume {other : Nat} {path : String} {h : Listener ρ} {state : h.S}
    (hhandler : (s.readers other path).handler = some ⟨h, state⟩) (task : ResolvedTask) :
    StepAt env s (s.consume task other path h state) tid mapPath := by
  apply StepAt.setMap
  · rfl
  · rintro rfl rfl
    refine .quiet ?_ ?_ ?_ (.inr (by rw [hhandler]; rfl))
    · simp [Deliveries.setReader, setBuffer]
    · rw [setReader_readers_self]
      split <;> rfl
    · rw [setReader_readers_self]
      split
      · exact id
      · intro hreading
        cases hreading

theorem StepAt.failConsuming (other : Nat) (path : String) (taken : Nat) :
    StepAt env s (s.failConsuming other path taken) tid mapPath := by
  apply StepAt.setMap
  · rfl
  · rintro rfl rfl
    refine .quiet ?_ ?_ ?_ (.inl ?_)
    · simp [Deliveries.setReader, setBuffer]
    · rw [setReader_readers_self]
      rfl
    · rw [setReader_readers_self]
      intro hreading
      cases hreading
    · rw [setReader_readers_self]
      rfl

theorem StepAt.submit {other : Nat} {bpfProgramPath path : String} (record : ρ)
    (hattached : bpfProgramPath ∈ s.attached other)
    (hsubmits : env.submits bpfProgramPath path = true) :
    StepAt env s (s.setBuffer path ((s.buffers path).send ⟨other, bpfProgramPath, record⟩))
      tid mapPath := by
  by_cases heq : mapPath = path
  · subst heq
    exact .submitted ⟨other, bpfProgramPath, record⟩ hattached hsubmits
      (by simp [setBuffer]) rfl
  · exact .quiet (by rw [setBuffer_buffers_of_ne s _ heq]) rfl id (.inl rfl)

theorem StepAt.of_step {action : Action ρ}
    (hstep : Deliveries.step env s action = some s') (tid : Nat) (mapPath : String) :
    StepAt env s s' tid mapPath := by
  cases action with
  | daemon action =>
      simp only [Deliveries.step] at hstep
      split at hstep
      · obtain ⟨daemon, _, rfl⟩ := Option.map_eq_some_iff.1 hstep
        exact .of_eq (by rfl) (by rfl) tid mapPath
      · cases hstep
  | start other order =>
      simp only [Deliveries.step] at hstep
      split at hstep
      · split at hstep
        · cases hstep
          exact .of_eq (by rfl) (by rfl) tid mapPath
        · cases hstep
      · cases hstep
  | abandon other =>
      simp only [Deliveries.step] at hstep
      split at hstep
      · cases hstep
        exact .of_eq (by rfl) (by rfl) tid mapPath
      · cases hstep
  | discard other works =>
      simp only [Deliveries.step] at hstep
      split at hstep
      · rename_i task path left _ _
        cases hstep
        cases works with
        | true => exact (StepAt.discardMap other path).setStage other _
        | false => exact .close other
      · cases hstep
  | attach other works =>
      simp only [Deliveries.step] at hstep
      split at hstep
      · cases hstep
        cases works with
        | true => exact .of_eq (by rfl) (by rfl) tid mapPath
        | false => exact .close other
      · cases hstep
  | submit other bpfProgramPath path record =>
      simp only [Deliveries.step] at hstep
      split at hstep
      · rename_i hguard
        cases hstep
        exact .submit record hguard.1 hguard.2.1
      · cases hstep
  | create other path =>
      simp only [Deliveries.step] at hstep
      split at hstep
      · split at hstep
        · cases hstep
          exact .setReader rfl rfl id
        · cases hstep
      · cases hstep
  | poll other path polled =>
      simp only [Deliveries.step] at hstep
      split at hstep
      · rename_i task h state _ _ hhandler
        cases hstep
        cases polled with
        | timedOut => exact .of_eq (by rfl) (by rfl) tid mapPath
        | consumed => exact .consume hhandler task
        | failed taken => exact .failConsuming other path taken
      · cases hstep
  | stop other path =>
      simp only [Deliveries.step] at hstep
      split at hstep
      · cases hstep
        refine .setReader rfl rfl ?_
        intro hreading
        cases hreading
      · cases hstep
  | join other =>
      simp only [Deliveries.step] at hstep
      split at hstep
      · split at hstep
        · cases hstep
          exact .close other
        · cases hstep
      · cases hstep

/-- The task polls the ring buffers that its programs submit to. -/
def Paired (env : BufferEnv ρ) (task : ResolvedTask) : Prop :=
  ∀ probe ∈ task.resolvedProbes, ∀ mapPath,
    env.submits probe.bpfProgramPath mapPath = true → mapPath ∈ task.bpfMapPaths

/-- What a thread has consumed comes from its own programs, and so does what has
been submitted since it began to read. -/
structure OwnRecords (s : Deliveries ρ) : Prop where
  ahead : ∀ tid mapPath, (s.readers tid mapPath).reading = true →
    ∀ submission ∈ (s.buffers mapPath).sent.drop (s.readers tid mapPath).since,
      submission.tid = tid
  behind : ∀ tid mapPath, ∀ submission ∈ (s.readers tid mapPath).consumed, submission.tid = tid

theorem OwnRecords.step (hown : OwnRecords s) (hs : Consistent env s)
    (hpaired : ∀ tid task, s.daemon.threads tid = .executing task → Paired env task)
    {action : Action ρ} (hstep : Deliveries.step env s action = some s') : OwnRecords s' := by
  have hs' := hs.step hstep
  constructor
  · intro tid mapPath hreading submission hmem
    cases StepAt.of_step hstep tid mapPath with
    | quiet hsent hsince hbefore _ =>
        rw [hsent, hsince] at hmem
        exact hown.ahead tid mapPath (hbefore hreading) submission hmem
    | submitted added hattached hsubmits hsent hreader =>
        rw [hreader] at hreading hmem
        have hstart := (hs.follows tid mapPath).hasRead.start_le
        rw [hsent, List.drop_append_of_le_length hstart, List.mem_append,
          List.mem_singleton] at hmem
        rcases hmem with hold | rfl
        · exact hown.ahead tid mapPath hreading submission hold
        · -- the submitting task owns the map, and so does the reader
          obtain ⟨hbusy, hprobe⟩ := hs.attached submission.tid _ hattached
          obtain ⟨task, hthread, _⟩ := hs.executing submission.tid hbusy
          obtain ⟨probe, hmemProbe, hpath⟩ := hprobe task hthread
          have howned := hpaired submission.tid task hthread probe hmemProbe mapPath
            (by rw [hpath]; exact hsubmits)
          exact (hs.reader_unique hthread howned hreading).symm
    | discarded hsince _ =>
        rw [hsince, List.drop_length] at hmem
        cases hmem
  · intro tid mapPath submission hmem
    cases StepAt.of_step hstep tid mapPath with
    | quiet hsent hsince _ hconsumed =>
        rcases hconsumed with hsame | hhandler
        · rw [hsame] at hmem
          exact hown.behind tid mapPath submission hmem
        · obtain ⟨⟨h, state⟩, hopened⟩ := Option.isSome_iff_exists.1 hhandler
          obtain ⟨hreading, _⟩ := (hs.follows tid mapPath).handled h state hopened
          have hahead := (hs'.follows tid mapPath).hasRead.mem_sent hmem
          rw [hsent, hsince] at hahead
          exact hown.ahead tid mapPath hreading submission hahead
    | submitted _ _ _ _ hreader =>
        rw [hreader] at hmem
        exact hown.behind tid mapPath submission hmem
    | discarded _ hconsumed =>
        rw [hconsumed] at hmem
        cases hmem

/-- What an action is for the daemon alone. -/
def Action.toDaemon : Action ρ → Option Daemon.Action
  | .daemon action => some action
  | _ => none

theorem daemon_of_step {action : Action ρ} (hstep : Deliveries.step env s action = some s') :
    (∃ daemonAction, action.toDaemon = some daemonAction ∧
        s.daemon.step daemonAction = some s'.daemon) ∨
      (action.toDaemon = none ∧ s'.daemon = s.daemon) := by
  cases action with
  | daemon action =>
      left
      simp only [Deliveries.step] at hstep
      split at hstep
      · obtain ⟨daemon, hdaemon, rfl⟩ := Option.map_eq_some_iff.1 hstep
        exact ⟨action, rfl, hdaemon⟩
      · cases hstep
  | submit other bpfProgramPath path record =>
      right
      simp only [Deliveries.step] at hstep
      split at hstep <;> cases hstep
      exact ⟨rfl, rfl⟩
  | discard other works =>
      right
      simp only [Deliveries.step] at hstep
      split at hstep <;> cases hstep
      cases works <;> exact ⟨rfl, rfl⟩
  | attach other works =>
      right
      simp only [Deliveries.step] at hstep
      split at hstep <;> cases hstep
      cases works <;> exact ⟨rfl, rfl⟩
  | poll other path polled =>
      right
      simp only [Deliveries.step] at hstep
      split at hstep <;> cases hstep
      cases polled <;> exact ⟨rfl, rfl⟩
  | abandon other =>
      right
      simp only [Deliveries.step] at hstep
      split at hstep <;> cases hstep
      exact ⟨rfl, rfl⟩
  | stop other path =>
      right
      simp only [Deliveries.step] at hstep
      split at hstep <;> cases hstep
      exact ⟨rfl, rfl⟩
  | start other order =>
      right
      simp only [Deliveries.step] at hstep
      split at hstep
      · split at hstep <;> cases hstep
        exact ⟨rfl, rfl⟩
      · cases hstep
  | create other path =>
      right
      simp only [Deliveries.step] at hstep
      split at hstep
      · split at hstep <;> cases hstep
        exact ⟨rfl, rfl⟩
      · cases hstep
  | join other =>
      right
      simp only [Deliveries.step] at hstep
      split at hstep
      · split at hstep <;> cases hstep
        exact ⟨rfl, rfl⟩
      · cases hstep

/-- Without its maps and probes, a run is a run of the daemon. -/
theorem run_toDaemon {actions : List (Action ρ)} (hrun : (machine env).run actions = some s) :
    Daemon.machine.run (actions.filterMap Action.toDaemon) = some s.daemon := by
  induction actions using List.reverseRecOn generalizing s with
  | nil =>
      cases hrun
      rfl
  | append_singleton pre action ih =>
      rw [Machine.run_concat, Option.bind_eq_some_iff] at hrun
      obtain ⟨before, hbefore, hstep⟩ := hrun
      rw [List.filterMap_append]
      rcases daemon_of_step hstep with ⟨daemonAction, haction, hdaemon⟩ | ⟨hnone, hsame⟩
      · rw [List.filterMap_cons_some haction, List.filterMap_nil]
        exact Machine.run_snoc (ih hbefore) hdaemon
      · rw [List.filterMap_cons_none hnone, List.filterMap_nil, List.append_nil, hsame]
        exact ih hbefore

end Steps

theorem paired_watchingTask : Paired watchingBuffers watchingTask := by
  intro probe _ mapPath hsubmits
  simp only [watchingBuffers, decide_eq_true_eq] at hsubmits
  rw [hsubmits.2]
  exact Finset.mem_singleton_self _

end Deliveries

end UprobeStats
