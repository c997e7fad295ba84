/-
The blocking part of a task: install the binder filters, discard what the ring
buffers still hold, attach the probes, poll every map in a thread of its own,
and drain the filters.  The threads' traces are merged by an arbitrary
scheduler.
-/
import UprobeStats.BinderMap
import UprobeStats.Poll

namespace UprobeStats

open Bytes FiniteMap Traced BinderInterfaceBpfMap BinderInterfaceMapAccessor

/-- What the execution of a task meets.  `perfEventOpen` answers the calls of
`bpf_perf_event_open` by their number and arguments. -/
structure ExecuteEnv (task : ResolvedTask) where
  map : MapEnv
  /-- The order in which `task.bpf_map_paths` is iterated. -/
  mapPaths : List String
  mapPaths_nodup : mapPaths.Nodup
  mem_mapPaths : ∀ mapPath, mapPath ∈ mapPaths ↔ mapPath ∈ task.bpfMapPaths
  bpfRingBufferDiscard : String → Except String Bool
  perfEventOpen : Nat → String → Int32 → Int32 → String → Except String Unit
  poll : PollEnv
  interleave : List (List Event) → List Event
  interleave_perm : ∀ traces, (interleave traces).Perm traces.flatten

section Execute

variable {task : ResolvedTask} (env : ExecuteEnv task)

/-- The loop that discards stale values. -/
def discardMaps : List String → Run Event AnyError Unit
  | [] => pure ()
  | mapPath :: rest => do
      let _ ← Run.ofExcept (foreign (env.bpfRingBufferDiscard mapPath))
      discardMaps rest

/-- The closure that attaches one probe.  `bpf_program_path_to_enum` always
succeeds, and a failure to write the attached atom is only logged. -/
def attachProbe (number : Nat) (probe : ResolvedProbe) : Run Event AnyError Nat := do
  let offset ← Run.ofExcept (tryIntoI32 probe.offsets.methodOffset.toNat)
  (Run.ofExcept (foreign (env.perfEventOpen number probe.offsets.containerPath offset
    task.resolvedProcess.pid probe.bpfProgramPath))).reportErr
      (fun _ => writeInternalError .bpfProgramAttachFailed task.id (some probe.bpfProgramPath)
        none 0) .reportedToStatsd
  Run.emit (.attach number)
  return number

/-- `collect::<Result<Vec<OwnedFd>>>`: at the first error the descriptors
collected so far are dropped. -/
def attachProbes : List ResolvedProbe → List Nat → Run Event AnyError (List Nat)
  | [], fds => pure fds
  | probe :: rest, fds => do
      let fd ← (attachProbe env fds.length probe).abandoning (fds.map .detach)
      attachProbes rest (fds ++ [fd])

/-- The error a polling thread is joined with. -/
def joinError (thread : Run Event AnyError Unit) : Option AnyError :=
  match thread.outcome with
  | .ok _ => none
  | .error e => some (.message ("poll_registry error: " ++ e.toText))
  | .panic => some (.message "Thread panic: Any \x7b .. \x7d")

def pollThread (mapPath : String) : Run Event AnyError Unit :=
  pollRegistry env.poll mapPath task task.duration

/-- The scope that spawns and joins the polling threads. -/
def pollMaps : Run Event AnyError Unit :=
  let threads := env.mapPaths.map (pollThread env)
  let errors := threads.filterMap joinError
  { trace := env.interleave (threads.map Run.trace)
    outcome :=
      if errors.isEmpty then .ok ()
      else .error (.message ("At least one thread returned error: " ++
        ",".intercalate (errors.map AnyError.toText))) }

/-- `attach_probes_and_poll_maps`.  The descriptors are dropped when the
function is left. -/
def attachProbesAndPollMaps : Run Event AnyError Unit := do
  discardMaps env env.mapPaths
  let perfEventFds ← attachProbes env task.resolvedProbes []
  (pollMaps env).leaving (perfEventFds.map .detach)

/-- `cleanup_binder_transaction_filters`. -/
def cleanupBinderTransactionFilters (opened : Bool) (interfaces : InterfacesMap) :
    List Event × InterfacesMap :=
  if opened then
    match drain env.map.firstKey interfaces with
    | (.ok (), left) => ([], left)
    | (.error _, left) =>
        ([writeInternalError .binderFilterCleanupFailed task.id none none 0], left)
  else ([], interfaces)

/-- The atom `execute` writes for an error that nobody has reported yet. -/
def executionReport (taskId : Int64) (e : AnyError) : List Event :=
  if !e.isReportedToStatsd && !e.isUprobeStatsError then
    [writeInternalError .taskExecutionFailed taskId none none 0]
  else []

/-- `execute`: the trace and the filter map it leaves behind.  A panic would
unwind past the cleanup. -/
def execute (interfaces : InterfacesMap) : List Event × InterfacesMap :=
  match setupBinderTransactionFilters env.map task.resolvedProbes interfaces with
  | (.error _, left) =>
      ([writeInternalError .binderFilterSetupFailed task.id none none 0], left)
  | (.ok opened, installed) =>
      let run := attachProbesAndPollMaps env
      match run.outcome with
      | .panic => (run.trace, installed)
      | .error e =>
          let (cleanup, left) := cleanupBinderTransactionFilters env opened installed
          (run.trace ++ executionReport task.id e ++ cleanup, left)
      | .ok _ =>
          let (cleanup, left) := cleanupBinderTransactionFilters env opened installed
          (run.trace ++ cleanup, left)

end Execute

/-! The steps themselves never panic; the threads' panics are joined. -/

section NoPanic

variable {task : ResolvedTask} (env : ExecuteEnv task)

theorem discardMaps_ne_panic (mapPaths : List String) :
    (discardMaps env mapPaths).outcome ≠ .panic := by
  induction mapPaths with
  | nil => simp [discardMaps]
  | cons mapPath rest ih => exact Run.bind_ne_panic (Run.ofExcept_ne_panic _) fun _ => ih

theorem attachProbe_ne_panic (number : Nat) (probe : ResolvedProbe) :
    (attachProbe env number probe).outcome ≠ .panic := by
  apply Run.bind_ne_panic (Run.ofExcept_ne_panic _)
  intro offset
  apply Run.bind_ne_panic (Run.reportErr_ne_panic (Run.ofExcept_ne_panic _) _ _)
  intro _
  apply Run.bind_ne_panic (by simp [Run.emit])
  intro _
  simp

theorem attachProbes_ne_panic (probes : List ResolvedProbe) (fds : List Nat) :
    (attachProbes env probes fds).outcome ≠ .panic := by
  induction probes generalizing fds with
  | nil => simp [attachProbes]
  | cons probe rest ih =>
      apply Run.bind_ne_panic
      · rw [Run.outcome_abandoning]
        exact attachProbe_ne_panic env fds.length probe
      · intro fd
        exact ih (fds ++ [fd])

theorem pollMaps_ne_panic : (pollMaps env).outcome ≠ .panic := by
  simp only [pollMaps]
  split <;> simp

theorem attachProbesAndPollMaps_ne_panic : (attachProbesAndPollMaps env).outcome ≠ .panic := by
  apply Run.bind_ne_panic (discardMaps_ne_panic env _)
  intro _
  apply Run.bind_ne_panic (attachProbes_ne_panic env _ _)
  intro fds
  rw [Run.outcome_leaving]
  exact pollMaps_ne_panic env

end NoPanic

/-! The ways an execution can go. -/

section Cases

variable {task : ResolvedTask} (env : ExecuteEnv task)

/-- Some map cannot be discarded. -/
def discardFails : Bool :=
  env.mapPaths.any fun mapPath => !(env.bpfRingBufferDiscard mapPath).isOk

/-- The probe with this number has an offset that fits and can be opened. -/
def probeOpens (number : Nat) (probe : ResolvedProbe) : Bool :=
  decide (probe.offsets.methodOffset.toNat < 2 ^ 31) &&
    (env.perfEventOpen number probe.offsets.containerPath
      (Int32.ofNat probe.offsets.methodOffset.toNat) task.resolvedProcess.pid
      probe.bpfProgramPath).isOk

/-- Some probe, counted from `number` on, cannot be attached. -/
def attachFailsFrom : Nat → List ResolvedProbe → Bool
  | _, [] => false
  | number, probe :: rest => !probeOpens env number probe || attachFailsFrom (number + 1) rest

def attachFails : Bool := attachFailsFrom env 0 task.resolvedProbes

/-- A failure that is reported once: by an atom in the trace, or later by
`execute` because the error is not marked. -/
structure ReportedOnce (taskId : Int64) (report : List Event) (e : AnyError) : Prop where
  leavesProbes : ∀ event ∈ report, event.isAttachment = false
  once : internalErrors report + internalErrors (executionReport taskId e) = 1

theorem discardMaps_cases (mapPaths : List String) :
    (mapPaths.any (fun mapPath => !(env.bpfRingBufferDiscard mapPath).isOk) = false ∧
        discardMaps env mapPaths = ⟨[], .ok ()⟩) ∨
      (mapPaths.any (fun mapPath => !(env.bpfRingBufferDiscard mapPath).isOk) = true ∧
        ∃ text, discardMaps env mapPaths = ⟨[], .error (.message text)⟩) := by
  induction mapPaths with
  | nil => exact Or.inl ⟨rfl, rfl⟩
  | cons mapPath rest ih =>
      rw [discardMaps, List.any_cons]
      cases hdiscard : env.bpfRingBufferDiscard mapPath with
      | error text => exact Or.inr ⟨rfl, text, rfl⟩
      | ok discarded =>
          rcases ih with ⟨hall, hrest⟩ | ⟨hsome, text, hrest⟩
          · left
            refine ⟨by rw [hall]; rfl, ?_⟩
            simp [foreign, Run.ofExcept, Run.bind_def, Run.bind, hrest]
          · right
            refine ⟨by rw [hsome]; rfl, text, ?_⟩
            simp [foreign, Run.ofExcept, Run.bind_def, Run.bind, hrest]

theorem attachProbe_cases (number : Nat) (probe : ResolvedProbe) :
    (probeOpens env number probe = true ∧
        attachProbe env number probe = ⟨[.attach number], .ok number⟩) ∨
      (probeOpens env number probe = false ∧
        ∃ report e, attachProbe env number probe = ⟨report, .error e⟩ ∧
          ReportedOnce task.id report e) := by
  unfold probeOpens attachProbe
  by_cases hfits : probe.offsets.methodOffset.toNat < 2 ^ 31
  · simp only [tryIntoI32_of_lt hfits, hfits, decide_true, Bool.true_and]
    cases hopen : env.perfEventOpen number probe.offsets.containerPath
        (Int32.ofNat probe.offsets.methodOffset.toNat) task.resolvedProcess.pid
        probe.bpfProgramPath with
    | ok _ =>
        left
        refine ⟨rfl, ?_⟩
        simp [Run.ofExcept, Run.bind_def, Run.bind, hopen, foreign, Run.reportErr, Run.emit, pure]
    | error text =>
        right
        refine ⟨rfl, [writeInternalError .bpfProgramAttachFailed task.id
          (some probe.bpfProgramPath) none 0], .reportedToStatsd (.message text), ?_, ?_, ?_⟩
        · simp [Run.ofExcept, Run.bind_def, Run.bind, hopen, foreign, Run.reportErr]
        · simp [writeInternalError, Event.isAttachment]
        · rfl
  · right
    refine ⟨by rw [decide_eq_false hfits, Bool.false_and], [],
      .message "out of range integral type conversion attempted", ?_, ?_, rfl⟩
    · rw [tryIntoI32_of_not_lt hfits]
      rfl
    · simp

/-- Attaching goes through, or stops at a probe and drops the descriptors of
those before it. -/
theorem attachProbes_cases (probes : List ResolvedProbe) (number : Nat) :
    (attachFailsFrom env number probes = false ∧
        attachProbes env probes (List.range number) =
          ⟨(List.range' number probes.length).map .attach,
            .ok (List.range (number + probes.length))⟩) ∨
      (attachFailsFrom env number probes = true ∧
        ∃ count report e, attachProbes env probes (List.range number) =
          ⟨(List.range' number count).map .attach ++ report ++
            (List.range (number + count)).map .detach, .error e⟩ ∧
          ReportedOnce task.id report e) := by
  induction probes generalizing number with
  | nil => exact Or.inl ⟨rfl, rfl⟩
  | cons probe rest ih =>
      rw [attachFailsFrom, attachProbes, List.length_range]
      rcases attachProbe_cases env number probe with
        ⟨hopens, hattach⟩ | ⟨hopens, report, e, hattach, honce⟩
      · have hnext : List.range number ++ [number] = List.range (number + 1) :=
          List.range_succ.symm
        have hfirst : (Run.abandoning ⟨[.attach number], .ok number⟩
            ((List.range number).map .detach) : Run Event AnyError Nat) =
            ⟨[.attach number], .ok number⟩ := rfl
        rw [hattach, hfirst, hopens, Run.bind_of_ok rfl, hnext]
        rcases ih (number + 1) with ⟨hrest, hattached⟩ | ⟨hrest, count, report, e, hattached, honce⟩
        · left
          refine ⟨by simpa using hrest, ?_⟩
          rw [hattached, List.length_cons, List.range'_succ, Nat.add_assoc, Nat.add_comm 1]
          rfl
        · right
          refine ⟨by simpa using hrest, count + 1, report, e, ?_, honce⟩
          rw [hattached, List.range'_succ, Nat.add_assoc, Nat.add_comm 1]
          rfl
      · right
        refine ⟨by simp [hopens], 0, report, e, ?_, honce⟩
        rw [hattach]
        simp [Run.abandoning, Run.leaving, Run.bind_def, Run.bind]

/-- What `attach_probes_and_poll_maps` does: nothing, if a map cannot be
discarded; attach some probes and drop them, if one cannot be attached; or
poll with all probes attached and drop them afterwards. -/
theorem attachProbesAndPollMaps_cases :
    (discardFails env = true ∧
        ∃ text, attachProbesAndPollMaps env = ⟨[], .error (.message text)⟩) ∨
      (discardFails env = false ∧ attachFails env = true ∧
        ∃ count report e, attachProbesAndPollMaps env =
          ⟨(List.range count).map .attach ++ report ++ (List.range count).map .detach,
            .error e⟩ ∧ ReportedOnce task.id report e) ∨
      (discardFails env = false ∧ attachFails env = false ∧
        attachProbesAndPollMaps env =
          ⟨(List.range task.resolvedProbes.length).map .attach ++ (pollMaps env).trace ++
            (List.range task.resolvedProbes.length).map .detach, (pollMaps env).outcome⟩) := by
  unfold attachProbesAndPollMaps
  rcases discardMaps_cases env env.mapPaths with ⟨hdiscard, hrun⟩ | ⟨hdiscard, text, hrun⟩
  · right
    rw [hrun, Run.bind_of_ok rfl]
    rcases attachProbes_cases env task.resolvedProbes 0 with
      ⟨hattach, hrun⟩ | ⟨hattach, count, report, e, hrun, honce⟩
    · right
      refine ⟨hdiscard, hattach, ?_⟩
      rw [List.range_zero] at hrun
      rw [hrun, Run.bind_of_ok rfl, ← List.range_eq_range']
      simp
    · left
      refine ⟨hdiscard, hattach, count, report, e, ?_, honce⟩
      rw [List.range_zero] at hrun
      rw [hrun, ← List.range_eq_range']
      simp [Run.bind_def, Run.bind]
  · left
    refine ⟨hdiscard, text, ?_⟩
    rw [hrun]
    rfl

end Cases

/-! No filter outlives its task, if its key can be read back. -/

section Filters

variable {task : ResolvedTask}

/-- However the steps in between end, the filters are cleaned up. -/
theorem execute_snd (env : ExecuteEnv task) (interfaces : InterfacesMap) :
    (execute env interfaces).2 =
      match setupBinderTransactionFilters env.map task.resolvedProbes interfaces with
      | (.error _, left) => left
      | (.ok opened, installed) => (cleanupBinderTransactionFilters env opened installed).2 := by
  unfold execute
  split
  · rfl
  · dsimp only
    split
    · rename_i hpanic
      exact absurd hpanic (attachProbesAndPollMaps_ne_panic env)
    · rfl
    · rfl

theorem cleanup_snd (env : ExecuteEnv task) (interfaces : InterfacesMap) :
    (cleanupBinderTransactionFilters env true interfaces).2 =
      (drain env.map.firstKey interfaces).2 := by
  unfold cleanupBinderTransactionFilters
  simp only [↓reduceIte]
  split <;> simp [*]

theorem mem_insertAll_empty {entries : List (BinderInterfaceBpfMapKey × BinderCodesBpfMapValue)}
    {key : BinderInterfaceBpfMapKey} :
    key ∈ insertAll (∅ : InterfacesMap) entries ↔ key ∈ entries.map Prod.fst := by
  rw [mem_insertAll]
  simp

/-- The map after a run is what a drain leaves of some written filters, or
empty when none could be written. -/
theorem execute_leaves (env : ExecuteEnv task) :
    (execute env ∅).2 = ∅ ∨ ∃ written, written <+: filterEntries task.resolvedProbes ∧
      (written.map Prod.fst).Nodup ∧
      (execute env ∅).2 = (drain env.map.firstKey (insertAll ∅ written)).2 := by
  rw [execute_snd]
  rcases setupLoop_cases env.map task.resolvedProbes false ∅ with
    ⟨e, _, _, hsetup⟩ | ⟨hfits, hsetup⟩ | ⟨written, e, hstops, hsetup⟩
  · left
    rw [setupBinderTransactionFilters, hsetup]
  · rw [setupBinderTransactionFilters, hsetup]
    cases hentries : filterEntries task.resolvedProbes with
    | nil => exact Or.inl rfl
    | cons entry rest =>
        right
        rw [← hentries]
        refine ⟨filterEntries task.resolvedProbes, List.prefix_rfl, hfits.nodup, ?_⟩
        simp only [hentries, List.isEmpty_cons, Bool.not_false, Bool.or_true]
        exact cleanup_snd env _
  · right
    obtain ⟨hfits, next, hpre, _⟩ := hstops
    refine ⟨written, (List.prefix_append written [next]).trans hpre, hfits.nodup, ?_⟩
    rw [setupBinderTransactionFilters, hsetup]

/-- Without faults, every filter up to the first shared key is written. -/
theorem execute_reliable_leaves (env : ExecuteEnv task) {firstKey : FirstInterface}
    (hreliable : env.map = .reliable firstKey)
    {written : List (BinderInterfaceBpfMapKey × BinderCodesBpfMapValue)}
    (hpre : written <+: filterEntries task.resolvedProbes)
    (hnodup : (written.map Prod.fst).Nodup) (hne : written ≠ []) :
    ∃ more, (execute env ∅).2 = (drain firstKey (insertAll ∅ (written ++ more))).2 := by
  have hfirst : env.map.firstKey = firstKey := by rw [hreliable]; rfl
  rw [execute_snd]
  rcases setupLoop_cases env.map task.resolvedProbes false ∅ with
    ⟨e, _, hopen, _⟩ | ⟨hfits, hsetup⟩ | ⟨blocked, e, hstops, hsetup⟩
  · rw [hreliable] at hopen
    cases hopen
  · obtain ⟨more, hmore⟩ := hpre
    refine ⟨more, ?_⟩
    have hsome : (filterEntries task.resolvedProbes).isEmpty = false := by
      rw [← hmore]
      simpa using fun hnil => absurd hnil hne
    rw [setupBinderTransactionFilters, hsetup, hsome, hmore, ← hfirst]
    exact cleanup_snd env _
  · obtain ⟨hfits, next, hblocked, hwhy⟩ := hstops
    -- the prefix that was refused repeats a key, so ours ends before it
    have htaken : next.1 ∈ blocked.map Prod.fst := by
      rcases hwhy with htaken | hfault
      · exact mem_insertAll_empty.1 htaken
      · rw [hreliable] at hfault
        cases hfault
    have hshared : ¬ ((blocked ++ [next]).map Prod.fst).Nodup := by
      rw [List.map_append, List.nodup_append]
      intro hdistinct
      exact hdistinct.2.2 _ htaken _ (by simp) rfl
    have hshort : written <+: blocked := by
      rcases List.prefix_or_prefix_of_prefix hpre hblocked with hle | hle
      · rcases List.prefix_concat_iff.1 hle with heq | hle
        · rw [heq] at hnodup
          exact absurd hnodup hshared
        · exact hle
      · exact absurd (hnodup.sublist (hle.sublist.map Prod.fst)) hshared
    obtain ⟨more, hmore⟩ := hshort
    refine ⟨more, ?_⟩
    rw [setupBinderTransactionFilters, hsetup, hmore, ← hfirst]

/-- Running the threads one after another is one way to schedule them. -/
theorem flatten_interleaves (traces : List (List Event)) : traces.flatten.Perm traces.flatten :=
  List.Perm.refl _

/-- An environment in which everything works and no map has a handler. -/
noncomputable def ExecuteEnv.working (task : ResolvedTask) : ExecuteEnv task where
  map := .reliable .front
  mapPaths := task.bpfMapPaths.toList
  mapPaths_nodup := task.bpfMapPaths.nodup_toList
  mem_mapPaths _ := Finset.mem_toList
  bpfRingBufferDiscard _ := .ok false
  perfEventOpen _ _ _ _ _ := .ok ()
  poll := {
    registry := fun _ => none
    registered := by simp
    script := fun _ _ => ⟨.ok (), []⟩
    durationFits := fun _ => true }
  interleave := List.flatten
  interleave_perm := flatten_interleaves

/-- Whatever happens while a task is executed, the filter map is empty
afterwards, if and only if every filter that a setup can get to write has a
readable key. -/
theorem filters_removed_iff (task : ResolvedTask) :
    (∀ env : ExecuteEnv task, (execute env ∅).2 = ∅) ↔
      ∀ written, written <+: filterEntries task.resolvedProbes →
        (written.map Prod.fst).Nodup → ∀ key ∈ written.map Prod.fst, Readable key := by
  constructor
  · intro hempty written hpre hnodup key hkey
    have hne : written ≠ [] := by
      rintro rfl
      cases hkey
    obtain ⟨more, hleaves⟩ := execute_reliable_leaves (ExecuteEnv.working task) rfl
      hpre hnodup hne
    rw [hempty (ExecuteEnv.working task)] at hleaves
    apply (drain_eq_empty_iff .front (insertAll ∅ (written ++ more))).1 hleaves.symm
    rw [mem_insertAll_empty, List.map_append, List.mem_append]
    exact Or.inl hkey
  · intro hreadable env
    rcases execute_leaves env with hempty | ⟨written, hpre, hnodup, hleaves⟩
    · exact hempty
    · rw [hleaves, drain_eq_empty_iff]
      intro key hkey
      exact hreadable written hpre hnodup key (mem_insertAll_empty.1 hkey)

/-- A task that filters on a name of 128 characters. -/
def longNameTask : ResolvedTask where
  id := 1
  duration := Duration.fromSecs 1
  resolvedProcess := ⟨1000, 1000, "system_server"⟩
  bpfMapPaths := {prefixBpf "map_Binder_output_buf"}
  statsdLoggingConfig := none
  resolvedProbes := [singleMethodProbe longName]

theorem not_readable_longName : ¬ Readable (toCKey longName) := by
  rintro ⟨name, _, hlength, hkey⟩
  have hfree : 0 ∉ (toCKey longName).interfaceDescriptor := by
    apply nul_notMem_fill
    · rw [asBytes_longName]
      intro hmem
      exact absurd (List.eq_of_mem_replicate hmem) (by decide)
    · rw [asBytes_longName, List.length_replicate]
      exact Nat.le_refl 128
  rw [hkey] at hfree
  exact hfree (nul_mem_fill hlength)

/-- The filter on that name is accepted and stays in the map. -/
theorem longName_outlives_task :
    (∀ probe ∈ longNameTask.resolvedProbes, Accepted probe.binderTransactionFilters) ∧
      ∃ env : ExecuteEnv longNameTask, (execute env ∅).2 ≠ ∅ := by
  refine ⟨?_, ExecuteEnv.working longNameTask, ?_⟩
  · intro probe hprobe
    rw [List.mem_singleton.1 hprobe]
    exact singleMethodProbe_accepted longName_nonempty
  · intro hempty
    have hentries : (filterEntries longNameTask.resolvedProbes).map Prod.fst =
        [toCKey longName] := rfl
    obtain ⟨more, hleaves⟩ := execute_reliable_leaves (ExecuteEnv.working longNameTask) rfl
      List.prefix_rfl (by rw [hentries]; simp) (by intro hnil; rw [hnil] at hentries; cases hentries)
    rw [hempty] at hleaves
    apply not_readable_longName
    apply (drain_eq_empty_iff .front _).1 hleaves.symm
    rw [mem_insertAll_empty, List.map_append, hentries]
    simp

end Filters

end UprobeStats
