/-
How often a failure is reported to statsd.  A polling thread that has reported
its failure marks the error, but the marker is lost when the threads are
joined, so `execute` reports the task once more.
-/
import UprobeStats.Execute

namespace UprobeStats

open Traced BinderInterfaceMapAccessor

section Reporting

variable {task : ResolvedTask} (env : ExecuteEnv task)

/-- The faults of the polling threads that have one. -/
def pollFaults : List PollFault :=
  env.mapPaths.filterMap fun mapPath =>
    match env.poll.threadFault task mapPath with
    | .ok _ => none
    | .error fault => some fault

/-- Draining the installed filters at the end fails. -/
def cleanupFails (opened : Bool) (installed : InterfacesMap) : Bool :=
  opened && !(drain env.map.firstKey installed).1.isOk

/-- The distinct failures of an execution: its setup, or the step that keeps
it from polling, or one for every thread that fails; and the cleanup. -/
def failures (interfaces : InterfacesMap) : Nat :=
  match setupBinderTransactionFilters env.map task.resolvedProbes interfaces with
  | (.error _, _) => 1
  | (.ok opened, installed) =>
      (if discardFails env || attachFails env then 1 else (pollFaults env).length) +
        if cleanupFails env opened installed then 1 else 0

/-- The execution does not get to poll, or no thread fails, or exactly one
fails without a report of its own. -/
def OneAtomEach (interfaces : InterfacesMap) : Prop :=
  (∃ e left, setupBinderTransactionFilters env.map task.resolvedProbes interfaces =
      (.error e, left)) ∨
    discardFails env = true ∨ attachFails env = true ∨ pollFaults env = [] ∨
    (pollFaults env).countP (fun fault => !fault.reported) = 1

/-- The threads' atoms, whatever order the scheduler puts them in. -/
theorem internalErrors_pollMaps :
    internalErrors (pollMaps env).trace = (pollFaults env).countP PollFault.reported := by
  have hmerged : internalErrors (pollMaps env).trace =
      internalErrors ((env.mapPaths.map (pollThread env)).map Run.trace).flatten :=
    (env.interleave_perm _).countP_eq _
  rw [hmerged]
  unfold pollFaults
  induction env.mapPaths with
  | nil => rfl
  | cons mapPath rest ih =>
      have hthread := pollRegistry_reports env.poll task mapPath
      rw [List.map_cons, List.map_cons, List.flatten_cons, internalErrors_append, ih]
      cases hfault : env.poll.threadFault task mapPath with
      | ok value =>
          rw [hfault] at hthread
          rw [List.filterMap_cons_none (by rw [hfault]), pollThread, hthread.2, Nat.zero_add]
      | error fault =>
          rw [hfault] at hthread
          rw [List.filterMap_cons_some (by rw [hfault]), pollThread, hthread.2, PollFault.atoms,
            List.countP_cons, Nat.add_comm]

theorem joinError_eq_none_iff (mapPath : String) :
    joinError (pollThread env mapPath) = none ↔
      ∃ value, env.poll.threadFault task mapPath = .ok value := by
  have hthread := pollRegistry_reports env.poll task mapPath
  unfold joinError pollThread
  cases hfault : env.poll.threadFault task mapPath with
  | ok value =>
      rw [hfault] at hthread
      simp [hthread.1]
  | error fault =>
      rw [hfault] at hthread
      cases houtcome : (pollRegistry env.poll mapPath task task.duration).outcome with
      | ok value => exact absurd houtcome (hthread.1 value)
      | error e => simp
      | panic => simp

theorem filterMap_joinError_isEmpty :
    ((env.mapPaths.map (pollThread env)).filterMap joinError).isEmpty =
      (pollFaults env).isEmpty := by
  unfold pollFaults
  induction env.mapPaths with
  | nil => rfl
  | cons mapPath rest ih =>
      have hjoin := joinError_eq_none_iff env mapPath
      rw [List.map_cons]
      cases hfault : env.poll.threadFault task mapPath with
      | ok value =>
          rw [List.filterMap_cons_none (hjoin.2 ⟨value, hfault⟩),
            List.filterMap_cons_none (by rw [hfault]), ih]
      | error fault =>
          cases herror : joinError (pollThread env mapPath) with
          | none =>
              obtain ⟨value, hvalue⟩ := hjoin.1 herror
              rw [hfault] at hvalue
              cases hvalue
          | some e =>
              rw [List.filterMap_cons_some herror, List.filterMap_cons_some (by rw [hfault])]
              rfl

/-- Polling ends well, or with a plain error that carries no marker. -/
theorem outcome_pollMaps :
    (pollFaults env = [] ∧ (pollMaps env).outcome = .ok ()) ∨
      (pollFaults env ≠ [] ∧ ∃ text, (pollMaps env).outcome = .error (.message text)) := by
  have hempty := filterMap_joinError_isEmpty env
  simp only [pollMaps]
  cases hfaults : pollFaults env with
  | nil =>
      left
      rw [hfaults] at hempty
      refine ⟨rfl, ?_⟩
      simp only [hempty, List.isEmpty_nil, ↓reduceIte]
  | cons fault rest =>
      right
      rw [hfaults] at hempty
      refine ⟨by simp, "At least one thread returned error: " ++ ",".intercalate
        (((env.mapPaths.map (pollThread env)).filterMap joinError).map AnyError.toText), ?_⟩
      simp only [hempty, List.isEmpty_cons, Bool.false_eq_true, ↓reduceIte]

/-- The atoms for the part between setup and cleanup. -/
def executionAtoms : Nat :=
  internalErrors (attachProbesAndPollMaps env).trace +
    match (attachProbesAndPollMaps env).outcome with
    | .error e => internalErrors (executionReport task.id e)
    | _ => 0

theorem countP_attachment (probes : List Nat) (kind : Nat → Event)
    (hkind : ∀ probe, (kind probe).isInternalError = false) :
    internalErrors (probes.map kind) = 0 := by
  unfold internalErrors
  rw [List.countP_eq_zero]
  intro event hevent
  obtain ⟨probe, _, rfl⟩ := List.mem_map.1 hevent
  simp [hkind probe]

/-- Once per failure, if no thread gets to run; otherwise once for each fault
that was reported, and once more if there was any fault. -/
theorem executionAtoms_eq :
    executionAtoms env =
      if discardFails env || attachFails env then 1
      else (pollFaults env).countP PollFault.reported + if (pollFaults env).isEmpty then 0 else 1 := by
  have hattach := fun probes => countP_attachment probes .attach fun _ => rfl
  have hdetach := fun probes => countP_attachment probes .detach fun _ => rfl
  unfold executionAtoms
  rcases attachProbesAndPollMaps_cases env with
    ⟨hdiscard, text, hrun⟩ | ⟨hdiscard, hfails, count, report, e, hrun, honce⟩ |
      ⟨hdiscard, hfails, hrun⟩
  · rw [hrun, hdiscard]
    rfl
  · rw [hrun, hdiscard, hfails]
    simp only [internalErrors_append, hattach, hdetach, Nat.zero_add, Nat.add_zero]
    exact honce.once
  · rw [hrun, hdiscard, hfails]
    simp only [internalErrors_append, hattach, hdetach, Nat.zero_add, Nat.add_zero,
      internalErrors_pollMaps, Bool.or_self, Bool.false_eq_true, ↓reduceIte]
    rcases outcome_pollMaps env with ⟨hnone, houtcome⟩ | ⟨hsome, text, houtcome⟩
    · rw [houtcome, hnone]
      rfl
    · rw [houtcome]
      cases hfaults : pollFaults env with
      | nil => exact absurd hfaults hsome
      | cons fault rest => rfl

theorem internalErrors_cleanup (opened : Bool) (installed : InterfacesMap) :
    internalErrors (cleanupBinderTransactionFilters env opened installed).1 =
      if cleanupFails env opened installed then 1 else 0 := by
  unfold cleanupBinderTransactionFilters cleanupFails
  cases opened with
  | false => rfl
  | true =>
      rw [Bool.true_and]
      simp only [↓reduceIte]
      split
      · rename_i hdrain
        rw [hdrain]
        rfl
      · rename_i hdrain
        rw [hdrain]
        rfl

theorem internalErrors_execute (interfaces : InterfacesMap) :
    internalErrors (execute env interfaces).1 =
      match setupBinderTransactionFilters env.map task.resolvedProbes interfaces with
      | (.error _, _) => 1
      | (.ok opened, installed) =>
          executionAtoms env + if cleanupFails env opened installed then 1 else 0 := by
  unfold execute executionAtoms
  rcases hsetup : setupBinderTransactionFilters env.map task.resolvedProbes interfaces with
    ⟨answer, installed⟩
  cases answer with
  | error e => rfl
  | ok opened =>
      cases hrun : (attachProbesAndPollMaps env).outcome with
      | panic => exact absurd hrun (attachProbesAndPollMaps_ne_panic env)
      | error e => simp only [hrun, internalErrors_append, internalErrors_cleanup]
      | ok value => simp only [hrun, internalErrors_append, internalErrors_cleanup, Nat.add_zero]

/-- An execution writes exactly one internal error atom for each failure if
and only if it does not get to poll, or no thread fails, or exactly one thread
fails without a report of its own. -/
theorem failures_reported_once_iff {task : ResolvedTask} (env : ExecuteEnv task)
    (interfaces : InterfacesMap) :
    internalErrors (execute env interfaces).1 = failures env interfaces ↔
      OneAtomEach env interfaces := by
  rw [internalErrors_execute, failures, OneAtomEach]
  rcases hsetup : setupBinderTransactionFilters env.map task.resolvedProbes interfaces with
    ⟨answer, installed⟩
  cases answer with
  | error e => simp
  | ok opened =>
      have hsplit := List.length_eq_countP_add_countP PollFault.reported (l := pollFaults env)
      simp only [executionAtoms_eq, Nat.add_right_cancel_iff]
      cases hdiscard : discardFails env with
      | true => simp
      | false =>
          cases hattach : attachFails env with
          | true => simp
          | false =>
              cases hfaults : pollFaults env with
              | nil => simp
              | cons fault rest =>
                  rw [hfaults] at hsplit
                  simp only [List.length_cons, Bool.not_eq_true, Bool.decide_eq_false,
                    Bool.or_self, Bool.false_eq_true, ↓reduceIte, List.isEmpty_cons,
                    Nat.add_right_cancel_iff, Prod.mk.injEq, reduceCtorEq, false_and,
                    exists_const, exists_false, false_or] at hsplit ⊢
                  omega

end Reporting

/-- A task that only polls one map. -/
def pollOnlyTask : ResolvedTask where
  id := 1
  duration := Duration.fromSecs 1
  resolvedProcess := ⟨1000, 1000, "system_server"⟩
  bpfMapPaths := {"/sys/fs/bpf/uprobestats/map_Binder_output_buf"}
  statsdLoggingConfig := none
  resolvedProbes := []

/-- Its poll fails. -/
def pollFailsEnv : ExecuteEnv pollOnlyTask where
  map := .reliable .front
  mapPaths := ["/sys/fs/bpf/uprobestats/map_Binder_output_buf"]
  mapPaths_nodup := by simp
  mem_mapPaths _ := by simp [pollOnlyTask]
  bpfRingBufferDiscard _ := .ok false
  perfEventOpen _ _ _ _ _ := .ok ()
  poll := {
    registry := fun mapPath => some {
      T := Unit
      S := Unit
      mapPath := mapPath
      progPath := none
      default := ()
      onItem := fun _ _ state => .ok state
      onFinished := fun _ => .ok () }
    registered := by
      intro mapPath h hregistry
      cases hregistry
      rfl
    script := fun _ _ => ⟨.ok (), [⟨0, .error "Failed to poll ring buffer. Error code: -9"⟩]⟩
    durationFits := fun _ => true }
  interleave := List.flatten
  interleave_perm := flatten_interleaves

/-- One failed poll, two atoms. -/
theorem failed_poll_reported_twice :
    failures pollFailsEnv ∅ = 1 ∧ internalErrors (execute pollFailsEnv ∅).1 = 2 :=
  ⟨rfl, rfl⟩

end UprobeStats
