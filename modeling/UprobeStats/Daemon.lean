/-
The daemon's global state and the threads that share it.  Each `startTasks`
call spawns one thread; a thread resolves its config, registers its maps under
the lock, executes, and unregisters under the lock again.  Threads interleave
freely between these steps.
-/
import UprobeStats.Lib.Machine
import UprobeStats.Resolver

namespace UprobeStats

open Transition

/-- `LazyServiceGuard`: the daemon may not be stopped while one is alive.
Guards are numbered in the order of their creation. -/
structure LazyServiceGuard where
  serial : Nat
deriving DecidableEq, Repr

structure ActiveState where
  polledBpfMaps : Finset String
  lazyServiceGuard : LazyServiceGuard
deriving DecidableEq

/-- `None` is meant to say that no task is running. -/
abbrev GlobalState := Option ActiveState

namespace GlobalState

/-- The maps in use, none of them when there is no active state. -/
def polled : GlobalState → Finset String
  | none => ∅
  | some active => active.polledBpfMaps

def guard : GlobalState → Option LazyServiceGuard
  | none => none
  | some active => some active.lazyServiceGuard

end GlobalState

/-- `update_polled_bpf_maps`.  `fresh` is the guard `ActiveState::new` would
take. -/
def updatePolledBpfMaps (state : GlobalState) (task : ResolvedTask)
    (fresh : LazyServiceGuard) : Except AnyError GlobalState :=
  match state with
  | none => .ok (some ⟨task.bpfMapPaths, fresh⟩)
  | some active =>
      let conflicts := task.bpfMapPaths ∩ active.polledBpfMaps
      if conflicts ≠ ∅ then
        .error (.message ("BPF maps already in use: " ++
          toString (conflicts.sort (· ≤ ·))))
      else
        .ok (some { active with
          polledBpfMaps := active.polledBpfMaps ∪ task.bpfMapPaths })

/-- `cleanup_polled_bpf_maps`.  `none` is the panic. -/
def cleanupPolledBpfMaps (state : GlobalState) (task : ResolvedTask) :
    Option GlobalState :=
  match state with
  | none => none
  | some active =>
      let remaining := active.polledBpfMaps \ task.bpfMapPaths
      if remaining = ∅ then some none
      else some (some { active with polledBpfMaps := remaining })

/-- Where a `startTasks` thread stands. -/
inductive ThreadState where
  | notStarted
  | started (config : List UInt8)
  | rejected (error : ConfigError)
  | resolved (task : ResolvedTask)
  | refused (task : ResolvedTask)
  | executing (task : ResolvedTask)
  | executed (task : ResolvedTask)
  | finished
  /-- The thread died on the lock or in the cleanup; it still holds the task
  it had been admitted with, if any. -/
  | panicked (held : Option ResolvedTask)

/-- The task of a thread that completed its update and has not completed its
cleanup. -/
def ThreadState.admitted : ThreadState → Option ResolvedTask
  | executing task => some task
  | executed task => some task
  | panicked held => held
  | _ => none

structure Daemon where
  state : GlobalState
  poisoned : Bool
  threads : Nat → ThreadState
  nextGuard : Nat

namespace Daemon

/-- The thread `tid` has been admitted with `task` and not yet cleaned up. -/
def Admitted (s : Daemon) (tid : Nat) (task : ResolvedTask) : Prop :=
  (s.threads tid).admitted = some task

/-- A step of one thread, with the environment of the call where it asks for
one. -/
inductive Action where
  | startTasks (tid : Nat) (config : List UInt8)
  | resolve (tid : Nat) (env : ResolveEnv)
  | update (tid : Nat)
  | execute (tid : Nat)
  | cleanup (tid : Nat)

def setThread (s : Daemon) (tid : Nat) (thread : ThreadState) : Daemon :=
  { s with threads := Function.update s.threads tid thread }

/-- The state after thread `tid` has been admitted. -/
def register (s : Daemon) (tid : Nat) (task : ResolvedTask) (state : GlobalState) : Daemon :=
  { s.setThread tid (.executing task) with
    state := state
    nextGuard := if s.state.isNone then s.nextGuard + 1 else s.nextGuard }

/-- The state after thread `tid` has left the cleanup normally. -/
def release (s : Daemon) (tid : Nat) (state : GlobalState) : Daemon :=
  { s.setThread tid .finished with state := state }

/-- The state after thread `tid` has panicked in the cleanup. -/
def crash (s : Daemon) (tid : Nat) (task : ResolvedTask) : Daemon :=
  { s.setThread tid (.panicked (some task)) with poisoned := true }

/-- The critical section around `update_polled_bpf_maps`.  A poisoned lock
panics on `unwrap`. -/
def lockedUpdate (s : Daemon) (tid : Nat) (task : ResolvedTask) : Daemon :=
  if s.poisoned then s.setThread tid (.panicked none)
  else
    match updatePolledBpfMaps s.state task ⟨s.nextGuard⟩ with
    | .error _ => s.setThread tid (.refused task)
    | .ok state => s.register tid task state

/-- The critical section around `cleanup_polled_bpf_maps`.  A panic inside it
poisons the mutex. -/
def lockedCleanup (s : Daemon) (tid : Nat) (task : ResolvedTask) : Daemon :=
  if s.poisoned then s.setThread tid (.panicked (some task))
  else
    match cleanupPolledBpfMaps s.state task with
    | none => s.crash tid task
    | some state => s.release tid state

def step (s : Daemon) : Action → Option Daemon
  | .startTasks tid config =>
      match s.threads tid with
      | .notStarted => some (s.setThread tid (.started config))
      | _ => none
  | .resolve tid env =>
      match s.threads tid with
      | .started config =>
          match resolveConfig env config with
          | .error e => some (s.setThread tid (.rejected e))
          | .ok task => some (s.setThread tid (.resolved task))
      | _ => none
  | .update tid =>
      match s.threads tid with
      | .resolved task => some (s.lockedUpdate tid task)
      | _ => none
  | .execute tid =>
      match s.threads tid with
      | .executing task => some (s.setThread tid (.executed task))
      | _ => none
  | .cleanup tid =>
      match s.threads tid with
      | .executed task => some (s.lockedCleanup tid task)
      | _ => none

def machine : Machine Daemon Action where
  init := ⟨none, false, fun _ => .notStarted, 0⟩
  step := step

theorem machine_step (s : Daemon) (action : Action) :
    machine.step s action = s.step action := rfl

/-! What a step can do to the shared state and to the admissions. -/

@[simp] theorem setThread_state (s : Daemon) (tid : Nat) (thread : ThreadState) :
    (s.setThread tid thread).state = s.state := rfl

@[simp] theorem setThread_threads_self (s : Daemon) (tid : Nat) (thread : ThreadState) :
    (s.setThread tid thread).threads tid = thread := by
  simp [setThread]

theorem setThread_threads_of_ne (s : Daemon) {tid other : Nat} (thread : ThreadState)
    (hne : other ≠ tid) :
    (s.setThread tid thread).threads other = s.threads other := by
  simp [setThread, Function.update_of_ne hne]

@[simp] theorem register_state (s : Daemon) (tid : Nat) (task : ResolvedTask)
    (state : GlobalState) : (s.register tid task state).state = state := rfl

@[simp] theorem register_poisoned (s : Daemon) (tid : Nat) (task : ResolvedTask)
    (state : GlobalState) : (s.register tid task state).poisoned = s.poisoned := rfl

@[simp] theorem release_state (s : Daemon) (tid : Nat) (state : GlobalState) :
    (s.release tid state).state = state := rfl

@[simp] theorem release_poisoned (s : Daemon) (tid : Nat) (state : GlobalState) :
    (s.release tid state).poisoned = s.poisoned := rfl

@[simp] theorem crash_state (s : Daemon) (tid : Nat) (task : ResolvedTask) :
    (s.crash tid task).state = s.state := rfl

/-- A step that leaves the shared state alone and admits or releases nobody. -/
structure Quiet (s s' : Daemon) : Prop where
  state_eq : s'.state = s.state
  poisoned_eq : s'.poisoned = s.poisoned
  admitted_eq : ∀ tid, (s'.threads tid).admitted = (s.threads tid).admitted

theorem setThread_quiet (s : Daemon) (tid : Nat) (thread : ThreadState)
    (hsame : thread.admitted = (s.threads tid).admitted) :
    Quiet s (s.setThread tid thread) := by
  refine ⟨rfl, rfl, ?_⟩
  intro other
  by_cases hother : other = tid
  · rw [hother, setThread_threads_self, hsame]
  · rw [setThread_threads_of_ne s thread hother]

/-- Every step is quiet, admits a thread, releases one, or panics in the
cleanup.  A quiet cleanup means that the lock was already poisoned. -/
theorem step_cases {s s' : Daemon} {action : Action} (hstep : s.step action = some s') :
    (Quiet s s' ∧ (s.poisoned = false → ∀ tid, action ≠ .cleanup tid)) ∨
      (∃ tid task state, action = .update tid ∧ s.threads tid = .resolved task ∧
        s.poisoned = false ∧
        updatePolledBpfMaps s.state task ⟨s.nextGuard⟩ = .ok state ∧
        s' = s.register tid task state) ∨
      (∃ tid task state, action = .cleanup tid ∧ s.threads tid = .executed task ∧
        s.poisoned = false ∧ cleanupPolledBpfMaps s.state task = some state ∧
        s' = s.release tid state) ∨
      (∃ tid task, action = .cleanup tid ∧ s.threads tid = .executed task ∧
        s.poisoned = false ∧ s.state = none ∧ s' = s.crash tid task) := by
  cases action with
  | startTasks tid config =>
      left
      cases hthread : s.threads tid <;> simp only [step, hthread, reduceCtorEq] at hstep
      cases hstep
      exact ⟨setThread_quiet s tid _ (by simp [hthread, ThreadState.admitted]), by simp⟩
  | resolve tid env =>
      left
      cases hthread : s.threads tid <;> simp only [step, hthread, reduceCtorEq] at hstep
      rename_i config
      cases hresolve : resolveConfig env config <;> simp only [hresolve] at hstep <;>
        cases hstep <;>
        exact ⟨setThread_quiet s tid _ (by simp [hthread, ThreadState.admitted]), by simp⟩
  | update tid =>
      cases hthread : s.threads tid <;> simp only [step, hthread, reduceCtorEq] at hstep
      rename_i task
      cases hstep
      cases hpoisoned : s.poisoned with
      | true =>
          left
          simp only [lockedUpdate, hpoisoned, ↓reduceIte]
          exact ⟨setThread_quiet s tid _ (by simp [hthread, ThreadState.admitted]), by simp⟩
      | false =>
          cases hupdate : updatePolledBpfMaps s.state task ⟨s.nextGuard⟩ with
          | error e =>
              left
              simp only [lockedUpdate, hpoisoned, hupdate, Bool.false_eq_true, ↓reduceIte]
              exact ⟨setThread_quiet s tid _ (by simp [hthread, ThreadState.admitted]), by simp⟩
          | ok state =>
              right; left
              exact ⟨tid, task, state, rfl, hthread, rfl, hupdate,
                by simp [lockedUpdate, hpoisoned, hupdate]⟩
  | execute tid =>
      left
      cases hthread : s.threads tid <;> simp only [step, hthread, reduceCtorEq] at hstep
      cases hstep
      exact ⟨setThread_quiet s tid _ (by simp [hthread, ThreadState.admitted]), by simp⟩
  | cleanup tid =>
      cases hthread : s.threads tid <;> simp only [step, hthread, reduceCtorEq] at hstep
      rename_i task
      cases hstep
      cases hpoisoned : s.poisoned with
      | true =>
          left
          simp only [lockedCleanup, hpoisoned, ↓reduceIte]
          exact ⟨setThread_quiet s tid _ (by simp [hthread, ThreadState.admitted]),
            fun hfalse => by cases hfalse⟩
      | false =>
          right; right
          cases hcleanup : cleanupPolledBpfMaps s.state task with
          | some state =>
              left
              exact ⟨tid, task, state, rfl, hthread, rfl, hcleanup,
                by simp [lockedCleanup, hpoisoned, hcleanup]⟩
          | none =>
              right
              have hnone : s.state = none := by
                cases hstate : s.state with
                | none => rfl
                | some active =>
                    simp only [cleanupPolledBpfMaps, hstate] at hcleanup
                    split at hcleanup <;> cases hcleanup
              exact ⟨tid, task, rfl, hthread, rfl, hnone,
                by simp [lockedCleanup, hpoisoned, hcleanup]⟩

theorem Quiet.admitted_iff {s s' : Daemon} (hquiet : Quiet s s') (tid : Nat)
    (task : ResolvedTask) : s'.Admitted tid task ↔ s.Admitted tid task := by
  rw [Admitted, Admitted, hquiet.admitted_eq]

theorem register_admitted_iff (s : Daemon) (tid : Nat) (task : ResolvedTask)
    (state : GlobalState) (other : Nat) (u : ResolvedTask) :
    (s.register tid task state).Admitted other u ↔
      (other = tid ∧ u = task) ∨ (other ≠ tid ∧ s.Admitted other u) := by
  by_cases hother : other = tid
  · subst hother
    simp only [Admitted, register, setThread_threads_self, ThreadState.admitted,
      Option.some.injEq, true_and, ne_eq, not_true_eq_false, false_and, or_false]
    exact eq_comm
  · simp [Admitted, register, setThread_threads_of_ne s _ hother, hother]

theorem release_admitted_iff (s : Daemon) (tid : Nat) (state : GlobalState)
    (other : Nat) (u : ResolvedTask) :
    (s.release tid state).Admitted other u ↔ other ≠ tid ∧ s.Admitted other u := by
  by_cases hother : other = tid
  · subst hother
    simp [Admitted, release, ThreadState.admitted]
  · simp [Admitted, release, setThread_threads_of_ne s _ hother, hother]

theorem crash_admitted_iff {s : Daemon} {tid : Nat} {task : ResolvedTask}
    (hthread : s.threads tid = .executed task) (other : Nat) (u : ResolvedTask) :
    (s.crash tid task).Admitted other u ↔ s.Admitted other u := by
  by_cases hother : other = tid
  · subst hother
    simp [Admitted, crash, ThreadState.admitted, hthread]
  · simp [Admitted, crash, setThread_threads_of_ne s _ hother]

/-- What the maps in use are after an admission, whatever they were before. -/
theorem updatePolledBpfMaps_ok {state state' : GlobalState} {task : ResolvedTask}
    {fresh : LazyServiceGuard} (hupdate : updatePolledBpfMaps state task fresh = .ok state') :
    Disjoint task.bpfMapPaths state.polled ∧
      state'.polled = state.polled ∪ task.bpfMapPaths ∧ state'.isSome := by
  cases state with
  | none =>
      simp only [updatePolledBpfMaps, Except.ok.injEq] at hupdate
      subst hupdate
      simp [GlobalState.polled]
  | some active =>
      simp only [updatePolledBpfMaps] at hupdate
      split at hupdate
      · cases hupdate
      · rename_i hconflicts
        cases hupdate
        exact ⟨Finset.disjoint_iff_inter_eq_empty.2 (not_not.1 hconflicts), rfl, rfl⟩

/-- An update is refused exactly when a map it asks for is in use. -/
theorem updatePolledBpfMaps_error_iff (state : GlobalState) (task : ResolvedTask)
    (fresh : LazyServiceGuard) :
    (∃ e, updatePolledBpfMaps state task fresh = .error e) ↔
      ∃ path ∈ task.bpfMapPaths, path ∈ state.polled := by
  cases state with
  | none => simp [updatePolledBpfMaps, GlobalState.polled]
  | some active =>
      have hmem : (∃ path ∈ task.bpfMapPaths, path ∈ active.polledBpfMaps) ↔
          task.bpfMapPaths ∩ active.polledBpfMaps ≠ ∅ := by
        rw [← Finset.nonempty_iff_ne_empty]
        simp [Finset.Nonempty]
      simp only [GlobalState.polled, hmem, updatePolledBpfMaps]
      split
      · simp_all
      · simp_all

theorem cleanupPolledBpfMaps_some {state state' : GlobalState} {task : ResolvedTask}
    (hcleanup : cleanupPolledBpfMaps state task = some state') :
    state.isSome ∧ state'.polled = state.polled \ task.bpfMapPaths ∧
      (state' = none ↔ state.polled \ task.bpfMapPaths = ∅) ∧
      (state' ≠ none → state'.guard = state.guard) := by
  cases state with
  | none => cases hcleanup
  | some active =>
      simp only [cleanupPolledBpfMaps] at hcleanup
      split at hcleanup
      · rename_i hempty
        cases hcleanup
        simp [GlobalState.polled, hempty]
      · rename_i hne
        cases hcleanup
        simp [GlobalState.polled, GlobalState.guard, hne]

/-- Exclusive and exact ownership: no map belongs to two admitted tasks, and
the polled set is what the admitted tasks own.  A poisoned lock is only ever
left behind by an empty state. -/
structure Ownership (s : Daemon) : Prop where
  disjoint : ∀ i j t u, i ≠ j → s.Admitted i t → s.Admitted j u →
    Disjoint t.bpfMapPaths u.bpfMapPaths
  mem_polled : ∀ path, path ∈ s.state.polled ↔
    ∃ tid task, s.Admitted tid task ∧ path ∈ task.bpfMapPaths
  poisoned_none : s.poisoned = true → s.state = none

theorem Ownership.init : Ownership machine.init where
  disjoint := by simp [machine, Admitted, ThreadState.admitted]
  mem_polled := by simp [machine, Admitted, ThreadState.admitted, GlobalState.polled]
  poisoned_none := by simp [machine]

theorem Ownership.quiet {s s' : Daemon} (hown : Ownership s) (hquiet : Quiet s s') :
    Ownership s' where
  disjoint := by
    simpa only [hquiet.admitted_iff] using hown.disjoint
  mem_polled := by
    simpa only [hquiet.admitted_iff, hquiet.state_eq] using hown.mem_polled
  poisoned_none := by
    simpa only [hquiet.poisoned_eq, hquiet.state_eq] using hown.poisoned_none

theorem Ownership.register {s : Daemon} (hown : Ownership s) {tid : Nat}
    {task : ResolvedTask} {state : GlobalState} {fresh : LazyServiceGuard}
    (hthread : s.threads tid = .resolved task) (hpoisoned : s.poisoned = false)
    (hupdate : updatePolledBpfMaps s.state task fresh = .ok state) :
    Ownership (s.register tid task state) := by
  obtain ⟨hfresh, hpolled, _⟩ := updatePolledBpfMaps_ok hupdate
  -- the new maps miss every map that is in use, hence every other owner's
  have hnew : ∀ j u, s.Admitted j u → Disjoint task.bpfMapPaths u.bpfMapPaths := by
    intro j u hu
    refine hfresh.mono_right ?_
    intro path hpath
    exact (hown.mem_polled path).2 ⟨j, u, hu, hpath⟩
  have hnot : ∀ u, ¬ s.Admitted tid u := by
    simp [Admitted, hthread, ThreadState.admitted]
  refine ⟨?_, ?_, ?_⟩
  · intro i j t u hij ht hu
    rw [register_admitted_iff] at ht hu
    rcases ht with ⟨hi, rfl⟩ | ⟨_, ht⟩ <;> rcases hu with ⟨hj, rfl⟩ | ⟨_, hu⟩
    · exact absurd (hi.trans hj.symm) hij
    · exact hnew j u hu
    · exact (hnew i t ht).symm
    · exact hown.disjoint i j t u hij ht hu
  · intro path
    rw [register_state, hpolled, Finset.mem_union, hown.mem_polled]
    constructor
    · rintro (⟨j, u, hu, hpath⟩ | hpath)
      · refine ⟨j, u, (register_admitted_iff ..).2 (Or.inr ⟨?_, hu⟩), hpath⟩
        rintro rfl
        exact hnot u hu
      · exact ⟨tid, task, (register_admitted_iff ..).2 (Or.inl ⟨rfl, rfl⟩), hpath⟩
    · rintro ⟨j, u, hu, hpath⟩
      rcases (register_admitted_iff ..).1 hu with ⟨_, rfl⟩ | ⟨_, hu⟩
      · exact Or.inr hpath
      · exact Or.inl ⟨j, u, hu, hpath⟩
  · intro hpoison
    rw [register_poisoned, hpoisoned] at hpoison
    cases hpoison

theorem Ownership.release {s : Daemon} (hown : Ownership s) {tid : Nat}
    {task : ResolvedTask} {state : GlobalState}
    (hthread : s.threads tid = .executed task) (hpoisoned : s.poisoned = false)
    (hcleanup : cleanupPolledBpfMaps s.state task = some state) :
    Ownership (s.release tid state) := by
  obtain ⟨_, hpolled, _, _⟩ := cleanupPolledBpfMaps_some hcleanup
  have hself : s.Admitted tid task := by
    simp [Admitted, hthread, ThreadState.admitted]
  refine ⟨?_, ?_, ?_⟩
  · intro i j t u hij ht hu
    exact hown.disjoint i j t u hij ((release_admitted_iff ..).1 ht).2
      ((release_admitted_iff ..).1 hu).2
  · intro path
    rw [release_state, hpolled, Finset.mem_sdiff, hown.mem_polled]
    constructor
    · rintro ⟨⟨j, u, hu, hpath⟩, hnot⟩
      refine ⟨j, u, (release_admitted_iff ..).2 ⟨?_, hu⟩, hpath⟩
      rintro rfl
      rw [Admitted, hself] at hu
      cases hu
      exact hnot hpath
    · rintro ⟨j, u, hu, hpath⟩
      obtain ⟨hne, hu⟩ := (release_admitted_iff ..).1 hu
      refine ⟨⟨j, u, hu, hpath⟩, ?_⟩
      exact Finset.disjoint_left.1 (hown.disjoint j tid u task hne hu hself) hpath
  · intro hpoison
    rw [release_poisoned, hpoisoned] at hpoison
    cases hpoison

theorem Ownership.crash {s : Daemon} (hown : Ownership s) {tid : Nat}
    {task : ResolvedTask} (hthread : s.threads tid = .executed task)
    (hnone : s.state = none) : Ownership (s.crash tid task) where
  disjoint := by
    simpa only [crash_admitted_iff hthread] using hown.disjoint
  mem_polled := by
    simpa only [crash_admitted_iff hthread, crash_state] using hown.mem_polled
  poisoned_none := fun _ => hnone

theorem Ownership.step {s s' : Daemon} {action : Action} (hown : Ownership s)
    (hstep : s.step action = some s') : Ownership s' := by
  rcases step_cases hstep with ⟨hquiet, _⟩ |
    ⟨tid, task, state, _, hthread, hpoisoned, hupdate, rfl⟩ |
    ⟨tid, task, state, _, hthread, hpoisoned, hcleanup, rfl⟩ | ⟨tid, task, _, hthread, _, hnone, rfl⟩
  · exact hown.quiet hquiet
  · exact hown.register hthread hpoisoned hupdate
  · exact hown.release hthread hpoisoned hcleanup
  · exact hown.crash hthread hnone

theorem ownership_of_reachable {s : Daemon} (hreach : machine.Reachable s) : Ownership s :=
  hreach.invariant Ownership.init fun _ _ _ hown hstep => hown.step hstep

theorem lockedUpdate_refused_iff (s : Daemon) (tid : Nat) (task : ResolvedTask) :
    (s.lockedUpdate tid task).threads tid = .refused task ↔
      s.poisoned = false ∧ ∃ path ∈ task.bpfMapPaths, path ∈ s.state.polled := by
  rw [← updatePolledBpfMaps_error_iff s.state task ⟨s.nextGuard⟩]
  cases hpoisoned : s.poisoned with
  | true => simp [lockedUpdate, hpoisoned]
  | false =>
      cases hupdate : updatePolledBpfMaps s.state task ⟨s.nextGuard⟩ with
      | error e => simp [lockedUpdate, hpoisoned, hupdate]
      | ok state => simp [lockedUpdate, hpoisoned, hupdate, register]

theorem lockedUpdate_refused_state (s : Daemon) (tid : Nat) (task : ResolvedTask)
    (hrefused : (s.lockedUpdate tid task).threads tid = .refused task) :
    (s.lockedUpdate tid task).state = s.state := by
  obtain ⟨hpoisoned, hused⟩ := (lockedUpdate_refused_iff s tid task).1 hrefused
  obtain ⟨e, herror⟩ := (updatePolledBpfMaps_error_iff s.state task ⟨s.nextGuard⟩).2 hused
  simp [lockedUpdate, hpoisoned, herror]

def allFlags : Flags := ⟨true, true, true, true, true, true⟩

theorem isBpfFileEnabled_allFlags (name : String) :
    isBpfFileEnabled allFlags name = true := by
  simp [isBpfFileEnabled, allFlags]

def pollingEnv (maps : List String) : ResolveEnv where
  parseFromBytes _ := .ok { tasks := [{ bpfMaps := maps, durationSeconds := some 1 }] }
  isUserBuild := true
  flags := allFlags
  resolveProcess _ _ _ := .ok ⟨1, 1000, "system_server"⟩
  resolveOffsets _ _ := .ok none

def pollingTask (maps : List String) : ResolvedTask where
  id := 0
  duration := Duration.fromSecs 1
  resolvedProcess := ⟨1, 1000, "system_server"⟩
  bpfMapPaths := (maps.map prefixBpf).toFinset
  statsdLoggingConfig := none
  resolvedProbes := []

theorem resolveSingleTask_pollingEnv (maps : List String) :
    resolveSingleTask (pollingEnv maps) { bpfMaps := maps, durationSeconds := some 1 } 0 =
      .ok (pollingTask maps) := by
  have hpaths : maps.mapM (enabledBpfPath allFlags) = .ok (maps.map prefixBpf) := by
    apply mapM_eq_ok_map
    intro name _
    simp [enabledBpfPath, isBpfFileEnabled_allFlags]
  have hduration : resolveDuration (some 1) = .ok (Duration.fromSecs 1) := rfl
  simp only [resolveSingleTask, pollingEnv, hpaths, hduration]
  rfl

theorem resolveConfig_pollingEnv (maps : List String) (bytes : List UInt8) :
    resolveConfig (pollingEnv maps) bytes = .ok (pollingTask maps) :=
  resolveConfig_eq_ok rfl rfl rfl (resolveSingleTask_pollingEnv maps)

/-- Thread `tid` is started and resolves to the polling task over `maps`. -/
def launch (tid : Nat) (maps : List String) : List Action :=
  [.startTasks tid [], .resolve tid (pollingEnv maps)]

theorem run_launch {actions : List Action} {s : Daemon} {tid : Nat} (maps : List String)
    (hrun : machine.run actions = some s) (hthread : s.threads tid = .notStarted) :
    machine.run (actions ++ launch tid maps) =
      some (s.setThread tid (.resolved (pollingTask maps))) := by
  have hstart : machine.step s (.startTasks tid []) = some (s.setThread tid (.started [])) := by
    simp [machine_step, Daemon.step, hthread]
  have hresolve : machine.step (s.setThread tid (.started [])) (.resolve tid (pollingEnv maps)) =
      some (s.setThread tid (.resolved (pollingTask maps))) := by
    simp [machine_step, Daemon.step, resolveConfig_pollingEnv, setThread]
  have happend : actions ++ launch tid maps =
      actions ++ [Action.startTasks tid []] ++ [Action.resolve tid (pollingEnv maps)] := by
    simp [launch]
  rw [happend]
  exact Machine.run_snoc (Machine.run_snoc hrun hstart) hresolve

theorem run_update {actions : List Action} {s : Daemon} (tid : Nat) (task : ResolvedTask)
    (hrun : machine.run actions = some s) (hthread : s.threads tid = .resolved task) :
    machine.run (actions ++ [.update tid]) = some (s.lockedUpdate tid task) := by
  apply Machine.run_snoc hrun
  simp [machine_step, Daemon.step, hthread]

theorem run_execute {actions : List Action} {s : Daemon} (tid : Nat) (task : ResolvedTask)
    (hrun : machine.run actions = some s) (hthread : s.threads tid = .executing task) :
    machine.run (actions ++ [.execute tid]) = some (s.setThread tid (.executed task)) := by
  apply Machine.run_snoc hrun
  simp [machine_step, Daemon.step, hthread]

theorem run_cleanup {actions : List Action} {s : Daemon} (tid : Nat) (task : ResolvedTask)
    (hrun : machine.run actions = some s) (hthread : s.threads tid = .executed task) :
    machine.run (actions ++ [.cleanup tid]) = some (s.lockedCleanup tid task) := by
  apply Machine.run_snoc hrun
  simp [machine_step, Daemon.step, hthread]

/-- Two threads, resolved to tasks over `first` and `second`, of which the
first has been admitted. -/
def twoTasks (first second : List String) : Daemon :=
  ((machine.init.setThread 0 (.resolved (pollingTask first))).lockedUpdate 0
    (pollingTask first)).setThread 1 (.resolved (pollingTask second))

theorem run_twoTasks (first second : List String) :
    machine.run (launch 0 first ++ [.update 0] ++ launch 1 second) =
      some (twoTasks first second) :=
  run_launch second (run_update 0 _ (run_launch first machine.run_nil rfl) rfl) rfl

/-- The global state tells whether tasks are running: it is set exactly while
some admitted task has not been cleaned up, no cleanup can find it unset, and
the lock is sound. -/
structure Alive (s : Daemon) : Prop where
  isSome_iff : s.state.isSome = true ↔ ∃ tid task, s.Admitted tid task
  cleanup_isSome : ∀ tid task, s.threads tid = .executed task →
    (cleanupPolledBpfMaps s.state task).isSome = true
  not_poisoned : s.poisoned = false

/-- Before a cleanup: if other tasks are still running, one of them polls at
least one map. -/
def LeavesAMapOwner (s : Daemon) : Action → Prop
  | .cleanup tid => (∃ other task, other ≠ tid ∧ s.Admitted other task) →
      ∃ other task, other ≠ tid ∧ s.Admitted other task ∧ task.bpfMapPaths.Nonempty
  | _ => True

theorem cleanupPolledBpfMaps_isSome {state : GlobalState} (hstate : state.isSome = true)
    (task : ResolvedTask) : (cleanupPolledBpfMaps state task).isSome = true := by
  cases state with
  | none => cases hstate
  | some active =>
      simp only [cleanupPolledBpfMaps]
      split <;> rfl

/-- Given the lock, the first clause of `Alive` carries the second. -/
theorem Alive.of_isSome_iff {s : Daemon}
    (hiff : s.state.isSome = true ↔ ∃ tid task, s.Admitted tid task)
    (hpoisoned : s.poisoned = false) : Alive s := by
  refine ⟨hiff, ?_, hpoisoned⟩
  intro tid task hthread
  apply cleanupPolledBpfMaps_isSome
  exact hiff.2 ⟨tid, task, by simp [Admitted, hthread, ThreadState.admitted]⟩

theorem Alive.init : Alive machine.init :=
  Alive.of_isSome_iff (by simp [machine, Admitted, ThreadState.admitted]) rfl

theorem Alive.quiet {s s' : Daemon} (halive : Alive s) (hquiet : Quiet s s') : Alive s' := by
  apply Alive.of_isSome_iff
  · simpa only [hquiet.state_eq, hquiet.admitted_iff] using halive.isSome_iff
  · rw [hquiet.poisoned_eq, halive.not_poisoned]

theorem Alive.register {s : Daemon} (halive : Alive s) {tid : Nat} {task : ResolvedTask}
    {state : GlobalState} {fresh : LazyServiceGuard}
    (hupdate : updatePolledBpfMaps s.state task fresh = .ok state) :
    Alive (s.register tid task state) := by
  obtain ⟨_, _, hsome⟩ := updatePolledBpfMaps_ok hupdate
  apply Alive.of_isSome_iff
  · rw [register_state]
    simp only [hsome, true_iff]
    exact ⟨tid, task, (register_admitted_iff ..).2 (Or.inl ⟨rfl, rfl⟩)⟩
  · exact halive.not_poisoned

/-- After a cleanup the state is unset exactly when no task that is still
running owns a map. -/
theorem release_state_eq_none_iff {s : Daemon} (hown : Ownership s) {tid : Nat}
    {task : ResolvedTask} {state : GlobalState}
    (hthread : s.threads tid = .executed task) (hpoisoned : s.poisoned = false)
    (hcleanup : cleanupPolledBpfMaps s.state task = some state) :
    state = none ↔
      ∀ other u, other ≠ tid → s.Admitted other u → u.bpfMapPaths = ∅ := by
  obtain ⟨_, hpolled, hnone, _⟩ := cleanupPolledBpfMaps_some hcleanup
  rw [hnone, ← hpolled, Finset.eq_empty_iff_forall_notMem]
  have hmem := (hown.release hthread hpoisoned hcleanup).mem_polled
  simp only [release_state] at hmem
  simp only [hmem, release_admitted_iff]
  constructor
  · intro hempty other u hne hu
    rw [Finset.eq_empty_iff_forall_notMem]
    intro path hpath
    exact hempty path ⟨other, u, ⟨hne, hu⟩, hpath⟩
  · rintro hempty path ⟨other, u, ⟨hne, hu⟩, hpath⟩
    rw [hempty other u hne hu] at hpath
    exact Finset.notMem_empty path hpath

theorem Alive.release {s : Daemon} (hown : Ownership s) (halive : Alive s) {tid : Nat}
    {task : ResolvedTask} {state : GlobalState}
    (hthread : s.threads tid = .executed task)
    (hcleanup : cleanupPolledBpfMaps s.state task = some state)
    (howner : LeavesAMapOwner s (.cleanup tid)) : Alive (s.release tid state) := by
  have hnone := release_state_eq_none_iff hown hthread halive.not_poisoned hcleanup
  apply Alive.of_isSome_iff
  · simp only [release_state, release_admitted_iff]
    rw [Option.isSome_iff_ne_none, ne_eq, hnone]
    constructor
    · intro hsome
      push Not at hsome
      obtain ⟨other, u, hne, hu, _⟩ := hsome
      exact ⟨other, u, hne, hu⟩
    · rintro ⟨other, u, hne, hu⟩ hempty
      obtain ⟨owner, t, hne', ht, hnonempty⟩ := howner ⟨other, u, hne, hu⟩
      exact hnonempty.ne_empty (hempty owner t hne' ht)
  · exact halive.not_poisoned

/-- A guarded step out of a live state with exact ownership keeps both. -/
theorem alive_step {s s' : Daemon} {action : Action} (hinv : Ownership s ∧ Alive s)
    (howner : LeavesAMapOwner s action) (hstep : s.step action = some s') :
    Ownership s' ∧ Alive s' := by
  obtain ⟨hown, halive⟩ := hinv
  refine ⟨hown.step hstep, ?_⟩
  rcases step_cases hstep with ⟨hquiet, _⟩ | ⟨tid, task, state, rfl, _, _, hupdate, rfl⟩ |
    ⟨tid, task, state, rfl, hthread, _, hcleanup, rfl⟩ | ⟨tid, task, rfl, hthread, _, hnone, rfl⟩
  · exact halive.quiet hquiet
  · exact halive.register hupdate
  · exact Alive.release hown halive hthread hcleanup howner
  · -- the panic needs an unset state under a running task
    have hsome := halive.cleanup_isSome tid task hthread
    rw [hnone] at hsome
    cases hsome

/-- An unguarded cleanup unsets the state under the tasks that are left. -/
theorem not_alive_of_unowned_cleanup {s s' : Daemon} {action : Action}
    (hinv : Ownership s ∧ Alive s) (howner : ¬ LeavesAMapOwner s action)
    (hstep : s.step action = some s') : ¬ Alive s' := by
  obtain ⟨hown, halive⟩ := hinv
  rcases step_cases hstep with ⟨_, hnotCleanup⟩ | ⟨tid, task, state, rfl, _, _, _, rfl⟩ |
    ⟨tid, task, state, rfl, hthread, hpoisoned, hcleanup, rfl⟩ |
    ⟨tid, task, rfl, hthread, _, hnone, rfl⟩
  · cases action with
    | cleanup tid => exact absurd rfl (hnotCleanup halive.not_poisoned tid)
    | _ => exact absurd trivial howner
  · exact absurd trivial howner
  · intro halive'
    simp only [LeavesAMapOwner, Classical.not_imp] at howner
    obtain ⟨⟨other, u, hne, hu⟩, hnoOwner⟩ := howner
    have hstate : state = none := by
      rw [release_state_eq_none_iff hown hthread hpoisoned hcleanup]
      intro owner t hne' ht
      by_contra hnonempty
      exact hnoOwner ⟨owner, t, hne', ht, Finset.nonempty_iff_ne_empty.2 hnonempty⟩
    have hsome := halive'.isSome_iff.2 ⟨other, u, (release_admitted_iff ..).2 ⟨hne, hu⟩⟩
    rw [release_state, hstate] at hsome
    cases hsome
  · have hsome := halive.cleanup_isSome tid task hthread
    rw [hnone] at hsome
    cases hsome

/-- The step drops the service guard the daemon was holding. -/
def DropsGuard (s s' : Daemon) : Prop :=
  ∃ guard, s.state.guard = some guard ∧ s'.state.guard ≠ some guard

/-- A guard only goes when the state is unset. -/
theorem DropsGuard.state_eq_none {s s' : Daemon} {action : Action}
    (hdrops : DropsGuard s s') (hstep : s.step action = some s') : s'.state = none := by
  obtain ⟨guard, hguard, hgone⟩ := hdrops
  rcases step_cases hstep with ⟨hquiet, _⟩ | ⟨tid, task, state, rfl, _, _, hupdate, rfl⟩ |
    ⟨tid, task, state, rfl, _, _, hcleanup, rfl⟩ | ⟨tid, task, rfl, _, _, _, rfl⟩
  · rw [hquiet.state_eq] at hgone
    exact absurd hguard hgone
  · cases hstate : s.state with
    | none => simp [hstate, GlobalState.guard] at hguard
    | some active =>
        simp only [hstate, updatePolledBpfMaps] at hupdate
        split at hupdate <;> cases hupdate
        simp only [hstate, GlobalState.guard, register_state] at hguard hgone
        exact absurd hguard hgone
  · obtain ⟨_, _, _, hkeeps⟩ := cleanupPolledBpfMaps_some hcleanup
    by_contra hstate
    rw [release_state] at hgone hstate
    exact hgone ((hkeeps hstate).trans hguard)
  · exact absurd hguard hgone

/-- Over every run, the global state tracks the running tasks, and its guard is
never dropped under one of them, exactly when each cleanup that leaves tasks
running leaves one that polls a map. -/
theorem liveness_tracked_iff (actions : List Action) :
    ((∀ s, machine.Visits actions s → Alive s) ∧
        ∀ s action s', machine.Takes actions s action s' → DropsGuard s s' →
          ¬ ∃ tid task, s'.Admitted tid task) ↔
      ∀ s action s', machine.Takes actions s action s' → LeavesAMapOwner s action := by
  have hiff := machine.visits_safe_iff_guarded
    (fun s => Ownership s ∧ Alive s) Alive LeavesAMapOwner ⟨Ownership.init, Alive.init⟩ (fun _ hinv => hinv.2)
    (fun _ _ _ hinv howner hstep => alive_step hinv howner hstep)
    (fun _ _ _ hinv howner hstep => not_alive_of_unowned_cleanup hinv howner hstep) actions
  rw [← hiff]
  constructor
  · exact And.left
  · intro halive
    refine ⟨halive, ?_⟩
    intro s action s' htakes hdrops hrunning
    have hsome := (halive s' htakes.visits_right).isSome_iff.2 hrunning
    obtain ⟨_, _, _, hstep⟩ := htakes
    rw [hdrops.state_eq_none hstep] at hsome
    cases hsome

/-- Two tasks without maps overlap; the first one's cleanup unsets the state
and the second one's cleanup panics on it. -/
def overlappingRun : List Action :=
  launch 0 [] ++ [.update 0] ++ launch 1 [] ++
    [.update 1] ++ [.execute 0] ++ [.execute 1] ++ [.cleanup 0] ++ [.cleanup 1]

theorem overlappingRun_poisons :
    (∃ s, machine.run overlappingRun = some s ∧ s.poisoned = true) ∧
      ¬ ∀ s, machine.Visits overlappingRun s → Alive s := by
  have hadmitted := run_update 1 (pollingTask []) (run_twoTasks [] []) rfl
  have hexecuted := run_execute 1 (pollingTask []) (run_execute 0 (pollingTask []) hadmitted rfl) rfl
  have hcleaned := run_cleanup 1 (pollingTask []) (run_cleanup 0 (pollingTask []) hexecuted rfl) rfl
  refine ⟨⟨_, hcleaned, rfl⟩, ?_⟩
  intro halive
  have hpoisoned := (halive _ ⟨overlappingRun, List.prefix_rfl, hcleaned⟩).not_poisoned
  exact absurd hpoisoned (by decide)

end Daemon

end UprobeStats
