/-
Which configs `resolve_config` accepts, what it makes of them, and whom its
errors blame.  The stages of the resolution become conditions on the config
that no longer mention their order.
-/
import UprobeStats.FilterResolution

namespace UprobeStats

/-- A probe that can be attached to a process: its program is there, is enabled
and takes its filters, and its method is found. -/
structure ProbeAcceptable (env : ResolveEnv) (resolvedProcess : ResolvedProcess)
    (probe : Proto.ProbeConfig) : Prop where
  program : ∃ name, probe.bpfName = some name ∧ isBpfFileEnabled env.flags name = true ∧
    Acceptable probe.binderTransactionFilters name
  located : ∃ className methodName offsets,
    probe.fullyQualifiedClassName = some className ∧ probe.methodName = some methodName ∧
      env.resolveOffsets resolvedProcess
        ⟨className, methodName, probe.fullyQualifiedParameters⟩ = .ok (some offsets)

/-- The resolved probe is the probe. -/
structure ProbeResolves (env : ResolveEnv) (resolvedProcess : ResolvedProcess)
    (probe : Proto.ProbeConfig) (resolved : ResolvedProbe) : Prop where
  program : ∃ name, probe.bpfName = some name ∧ isBpfFileEnabled env.flags name = true ∧
    resolved.bpfProgramPath = prefixBpf name ∧
    resolveBinderTransactionFilters probe name = .ok resolved.binderTransactionFilters
  className : probe.fullyQualifiedClassName =
    some resolved.methodDescriptor.fullyQualifiedClassName
  methodName : probe.methodName = some resolved.methodDescriptor.methodName
  parameters : resolved.methodDescriptor.fullyQualifiedParameters = probe.fullyQualifiedParameters
  offsets : env.resolveOffsets resolvedProcess resolved.methodDescriptor =
    .ok (some resolved.offsets)

/-- What is asked of the process resolver for a task. -/
def processOf (env : ResolveEnv) (task : Proto.Task) (duration : Duration) :
    Except AnyError ResolvedProcess :=
  env.resolveProcess task.targetProcessName (TargetProcessSelection.enumValueOrDefault
    (task.targetProcessSelection.getD 0)) duration

structure TaskAcceptable (env : ResolveEnv) (task : Proto.Task) : Prop where
  maps : ∀ name ∈ task.bpfMaps, isBpfFileEnabled env.flags name = true
  probes : ∃ seconds resolvedProcess, task.durationSeconds = some seconds ∧ 0 < seconds ∧
    processOf env task (Duration.fromSecs seconds.toInt.toNat) = .ok resolvedProcess ∧
    ∀ probe ∈ task.probeConfigs, ProbeAcceptable env resolvedProcess probe

/-- The resolved task is the task. -/
structure TaskResolves (env : ResolveEnv) (task : Proto.Task) (resolved : ResolvedTask) :
    Prop where
  id : resolved.id = task.taskId.getD 0
  maps : ∀ name ∈ task.bpfMaps, isBpfFileEnabled env.flags name = true
  mapPaths : resolved.bpfMapPaths = (task.bpfMaps.map prefixBpf).toFinset
  duration : ∃ seconds, task.durationSeconds = some seconds ∧ 0 < seconds ∧
    resolved.duration = Duration.fromSecs seconds.toInt.toNat
  process : processOf env task resolved.duration = .ok resolved.resolvedProcess
  statsdLoggingConfig : resolved.statsdLoggingConfig = task.statsdLoggingConfig
  probes : List.Forall₂ (ProbeResolves env resolved.resolvedProcess) task.probeConfigs
    resolved.resolvedProbes

/-- The config has exactly this task, and the guardrail lets it pass. -/
def Passes (env : ResolveEnv) (configBytes : List UInt8) (task : Proto.Task) : Prop :=
  ∃ config, env.parseFromBytes configBytes = .ok config ∧ config.tasks = [task] ∧
    Guardrail.isAllowed config env.isUserBuild true = .ok true

theorem required_eq_ok_iff {α : Type} {text : String} {field : Option α} {value : α} :
    required text field = .ok value ↔ field = some value := by
  cases field <;> simp [required]

theorem enabledBpfPath_eq_ok_iff {flags : Flags} {name path : String} :
    enabledBpfPath flags name = .ok path ↔
      isBpfFileEnabled flags name = true ∧ path = prefixBpf name := by
  constructor
  · exact enabledBpfPath_eq_ok
  · rintro ⟨henabled, rfl⟩
    simp [enabledBpfPath, henabled]

theorem resolveDuration_eq_ok_iff {durationSeconds : Option Int32} {duration : Duration} :
    resolveDuration durationSeconds = .ok duration ↔
      ∃ seconds, durationSeconds = some seconds ∧ 0 < seconds ∧
        duration = Duration.fromSecs seconds.toInt.toNat := by
  cases durationSeconds with
  | none => simp [resolveDuration, required, bind, Except.bind]
  | some seconds =>
      have hunfold : resolveDuration (some seconds) =
          if seconds ≤ 0 then
            .error (.message "Task duration must be greater than 0")
          else .ok (Duration.fromSecs seconds.toInt.toNat) := by
        by_cases hpos : seconds ≤ 0 <;> simp [resolveDuration, required, hpos, bind, Except.bind]
        · rfl
        · rfl
      rw [hunfold]
      by_cases hpos : seconds ≤ 0
      · simp [hpos, Int32.not_lt.2 hpos]
      · simp [hpos, Int32.not_le.1 hpos, eq_comm]

/-- Collecting succeeds with what the elements give one by one. -/
theorem mapM_eq_ok_iff {ε α β : Type} {f : α → Except ε β} {l : List α} {results : List β} :
    l.mapM f = .ok results ↔ List.Forall₂ (fun x y => f x = .ok y) l results := by
  induction l generalizing results with
  | nil => simp [pure, Except.pure, eq_comm]
  | cons x l ih =>
      rw [List.mapM_cons]
      constructor
      · intro hok
        obtain ⟨first, hfirst, hrest⟩ := bind_eq_ok_iff.1 hok
        obtain ⟨rest, hmapM, hcons⟩ := bind_eq_ok_iff.1 hrest
        cases hcons
        exact .cons hfirst (ih.1 hmapM)
      · rintro (_ | ⟨hfirst, hrest⟩)
        rw [hfirst]
        exact bind_eq_ok_iff.2 ⟨_, rfl, bind_eq_ok_iff.2 ⟨_, ih.2 hrest, rfl⟩⟩

theorem resolveProbe_eq_ok_iff {env : ResolveEnv} {resolvedProcess : ResolvedProcess}
    {probe : Proto.ProbeConfig} {resolved : ResolvedProbe} :
    resolveProbe env resolvedProcess probe = .ok resolved ↔
      ProbeResolves env resolvedProcess probe resolved := by
  constructor
  · intro hresolve
    obtain ⟨name, hname, hrest⟩ := bind_eq_ok_iff.1 hresolve
    obtain ⟨path, hpath, hrest⟩ := bind_eq_ok_iff.1 hrest
    obtain ⟨filters, hfilters, hrest⟩ := bind_eq_ok_iff.1 hrest
    obtain ⟨className, hclassName, hrest⟩ := bind_eq_ok_iff.1 hrest
    obtain ⟨methodName, hmethodName, hrest⟩ := bind_eq_ok_iff.1 hrest
    obtain ⟨found, hfound, hrest⟩ := bind_eq_ok_iff.1 hrest
    obtain ⟨offsets, hoffsets, hprobe⟩ := bind_eq_ok_iff.1 hrest
    cases hprobe
    obtain ⟨henabled, rfl⟩ := enabledBpfPath_eq_ok_iff.1 hpath
    rw [required_eq_ok_iff] at hname hclassName hmethodName hoffsets
    subst hoffsets
    exact ⟨⟨name, hname, henabled, rfl, hfilters⟩, hclassName, hmethodName, rfl, hfound⟩
  · rintro ⟨⟨name, hname, henabled, hpath, hfilters⟩, hclassName, hmethodName, hparams, hoffsets⟩
    obtain ⟨⟨className, methodName, parameters⟩, offsets, path, filters⟩ := resolved
    dsimp only at hpath hfilters hclassName hmethodName hparams hoffsets
    subst hpath hparams
    refine bind_eq_ok_iff.2 ⟨name, required_eq_ok_iff.2 hname, ?_⟩
    refine bind_eq_ok_iff.2 ⟨_, enabledBpfPath_eq_ok_iff.2 ⟨henabled, rfl⟩, ?_⟩
    refine bind_eq_ok_iff.2 ⟨filters, hfilters, ?_⟩
    refine bind_eq_ok_iff.2 ⟨className, required_eq_ok_iff.2 hclassName, ?_⟩
    refine bind_eq_ok_iff.2 ⟨methodName, required_eq_ok_iff.2 hmethodName, ?_⟩
    refine bind_eq_ok_iff.2 ⟨some offsets, hoffsets, ?_⟩
    exact bind_eq_ok_iff.2 ⟨offsets, rfl, rfl⟩

theorem exists_resolveProbe_iff {env : ResolveEnv} {resolvedProcess : ResolvedProcess}
    {probe : Proto.ProbeConfig} :
    (∃ resolved, ProbeResolves env resolvedProcess probe resolved) ↔
      ProbeAcceptable env resolvedProcess probe := by
  constructor
  · rintro ⟨resolved, hresolves⟩
    obtain ⟨name, hname, henabled, _, hfilters⟩ := hresolves.program
    refine ⟨⟨name, hname, henabled, exists_resolved_iff.1 ⟨_, hfilters⟩⟩, ?_⟩
    refine ⟨_, _, resolved.offsets, hresolves.className, hresolves.methodName, ?_⟩
    rw [← hresolves.parameters]
    exact hresolves.offsets
  · rintro ⟨⟨name, hname, henabled, hfilters⟩, className, methodName, offsets, hclassName,
      hmethodName, hoffsets⟩
    obtain ⟨filters, hfilters⟩ := exists_resolved_iff.2 hfilters
    exact ⟨⟨⟨className, methodName, probe.fullyQualifiedParameters⟩, offsets, prefixBpf name,
      filters⟩, ⟨name, hname, henabled, rfl, hfilters⟩, hclassName, hmethodName, rfl, hoffsets⟩

/-- The names of maps are enabled one by one. -/
theorem mapM_enabledBpfPath_eq_ok_iff {flags : Flags} {names paths : List String} :
    names.mapM (enabledBpfPath flags) = .ok paths ↔
      (∀ name ∈ names, isBpfFileEnabled flags name = true) ∧ paths = names.map prefixBpf := by
  rw [mapM_eq_ok_iff]
  constructor
  · intro hall
    induction hall with
    | nil => simp
    | cons hfirst _ ih =>
        obtain ⟨henabled, rfl⟩ := enabledBpfPath_eq_ok_iff.1 hfirst
        obtain ⟨hrest, rfl⟩ := ih
        exact ⟨by simpa [henabled] using hrest, rfl⟩
  · rintro ⟨hall, rfl⟩
    rw [List.forall₂_map_right_iff, List.forall₂_same]
    intro name hname
    exact enabledBpfPath_eq_ok_iff.2 ⟨hall name hname, rfl⟩

theorem resolveSingleTask_eq_ok_iff {env : ResolveEnv} {task : Proto.Task}
    {resolved : ResolvedTask} :
    resolveSingleTask env task (task.taskId.getD 0) = .ok resolved ↔
      TaskResolves env task resolved := by
  constructor
  · intro hresolve
    obtain ⟨paths, duration, resolvedProcess, probes, hmaps, hduration, hprocess, hprobes, rfl⟩ :=
      resolveSingleTask_eq_ok hresolve
    obtain ⟨henabled, rfl⟩ := mapM_enabledBpfPath_eq_ok_iff.1 hmaps
    refine ⟨rfl, henabled, rfl, resolveDuration_eq_ok_iff.1 hduration, hprocess, rfl, ?_⟩
    exact (mapM_eq_ok_iff.1 hprobes).imp fun _ _ => resolveProbe_eq_ok_iff.1
  · rintro ⟨hid, henabled, hpaths, hduration, hprocess, hstatsd, hprobes⟩
    obtain ⟨id, duration, resolvedProcess, paths, statsd, probes⟩ := resolved
    dsimp only at hid hpaths hduration hprocess hstatsd hprobes
    subst hid hpaths hstatsd
    refine bind_eq_ok_iff.2 ⟨_, mapM_enabledBpfPath_eq_ok_iff.2 ⟨henabled, rfl⟩, ?_⟩
    refine bind_eq_ok_iff.2 ⟨duration, resolveDuration_eq_ok_iff.2 hduration, ?_⟩
    refine bind_eq_ok_iff.2 ⟨resolvedProcess, hprocess, ?_⟩
    refine bind_eq_ok_iff.2 ⟨probes, ?_, rfl⟩
    exact mapM_eq_ok_iff.2 (hprobes.imp fun _ _ => resolveProbe_eq_ok_iff.2)

theorem exists_taskResolves_iff {env : ResolveEnv} {task : Proto.Task} :
    (∃ resolved, TaskResolves env task resolved) ↔ TaskAcceptable env task := by
  constructor
  · rintro ⟨resolved, hresolves⟩
    obtain ⟨seconds, hseconds, hpos, hduration⟩ := hresolves.duration
    refine ⟨hresolves.maps, seconds, resolved.resolvedProcess, hseconds, hpos, ?_, ?_⟩
    · rw [← hduration]
      exact hresolves.process
    · intro probe hprobe
      obtain ⟨i, hi, rfl⟩ := List.mem_iff_getElem.1 hprobe
      have hlength := hresolves.probes.length_eq
      exact exists_resolveProbe_iff.1 ⟨_, hresolves.probes.get hi (hlength ▸ hi)⟩
  · rintro ⟨hmaps, seconds, resolvedProcess, hseconds, hpos, hprocess, hprobes⟩
    have hall : ∀ probes : List Proto.ProbeConfig,
        (∀ probe ∈ probes, ProbeAcceptable env resolvedProcess probe) →
          ∃ resolved, List.Forall₂ (ProbeResolves env resolvedProcess) probes resolved := by
      intro probes hprobes
      induction probes with
      | nil => exact ⟨[], .nil⟩
      | cons probe rest ih =>
          obtain ⟨first, hfirst⟩ := exists_resolveProbe_iff.2 (hprobes probe List.mem_cons_self)
          obtain ⟨others, hothers⟩ := ih fun other hother =>
            hprobes other (List.mem_cons_of_mem probe hother)
          exact ⟨first :: others, .cons hfirst hothers⟩
    obtain ⟨resolvedProbes, hresolved⟩ := hall task.probeConfigs hprobes
    exact ⟨⟨task.taskId.getD 0, _, resolvedProcess, _, task.statsdLoggingConfig, resolvedProbes⟩,
      rfl, hmaps, rfl, ⟨seconds, hseconds, hpos, rfl⟩, hprocess, rfl, hresolved⟩

section Config

variable (env : ResolveEnv) (configBytes : List UInt8)

theorem resolveConfig_eq_ok_iff {resolved : ResolvedTask} :
    resolveConfig env configBytes = .ok resolved ↔
      ∃ task, Passes env configBytes task ∧ TaskResolves env task resolved := by
  constructor
  · intro hresolve
    cases hparse : env.parseFromBytes configBytes with
    | error e => simp [resolveConfig, hparse] at hresolve
    | ok config =>
        simp only [resolveConfig, hparse] at hresolve
        split at hresolve
        · rename_i task htasks
          split at hresolve
          · cases hresolve
          · cases hresolve
          · rename_i hallowed
            split at hresolve
            · cases hresolve
            · rename_i other hother
              cases hresolve
              exact ⟨task, ⟨config, hparse, htasks, hallowed⟩,
                resolveSingleTask_eq_ok_iff.1 hother⟩
        · cases hresolve
  · rintro ⟨task, ⟨config, hparse, htasks, hallowed⟩, hresolves⟩
    exact resolveConfig_eq_ok hparse htasks hallowed (resolveSingleTask_eq_ok_iff.2 hresolves)

/-- The task an error blames is the one task of the config. -/
theorem taskId_of_resolveConfig {e : ConfigError}
    (hresolve : resolveConfig env configBytes = .error e) (id : Int64) :
    e.taskId = some id ↔ ∃ config task, env.parseFromBytes configBytes = .ok config ∧
      config.tasks = [task] ∧ task.taskId.getD 0 = id := by
  cases hparse : env.parseFromBytes configBytes with
  | error error =>
      simp only [resolveConfig, hparse, Except.error.injEq] at hresolve
      subst hresolve
      simp [ConfigError.taskId]
  | ok config =>
      simp only [resolveConfig, hparse] at hresolve
      split at hresolve
      · rename_i task htasks
        have hblamed : e.taskId = some (task.taskId.getD 0) := by
          split at hresolve
          · cases hresolve
            rfl
          · cases hresolve
            rfl
          · split at hresolve
            · cases hresolve
              rfl
            · cases hresolve
        rw [hblamed, Option.some.injEq]
        constructor
        · intro hid
          exact ⟨config, task, rfl, htasks, hid⟩
        · rintro ⟨_, other, hconfig, hother, hid⟩
          cases hconfig
          rw [htasks, List.cons.injEq] at hother
          rw [hother.1]
          exact hid
      · rename_i hnot
        cases hresolve
        constructor
        · intro hid
          cases hid
        · rintro ⟨_, task, hconfig, htasks, _⟩
          cases hconfig
          exact absurd htasks (hnot task)

/-- A config is accepted exactly when it has one task, the guardrail lets it
pass and every part of the task is acceptable; then the resolved task says what
the task says, probe by probe.  And what is not accepted is blamed on the id of
the task exactly when there is one task. -/
theorem config_accepted_exactly :
    ((∃ resolved, resolveConfig env configBytes = .ok resolved) ↔
        ∃ task, Passes env configBytes task ∧ TaskAcceptable env task) ∧
      (∀ resolved, resolveConfig env configBytes = .ok resolved ↔
        ∃ task, Passes env configBytes task ∧ TaskResolves env task resolved) ∧
      ∀ e, resolveConfig env configBytes = .error e → ∀ id, e.taskId = some id ↔
        ∃ config task, env.parseFromBytes configBytes = .ok config ∧ config.tasks = [task] ∧
          task.taskId.getD 0 = id := by
  refine ⟨?_, fun resolved => resolveConfig_eq_ok_iff env configBytes,
    fun e hresolve => taskId_of_resolveConfig env configBytes hresolve⟩
  constructor
  · rintro ⟨resolved, hresolve⟩
    obtain ⟨task, hpasses, hresolves⟩ := (resolveConfig_eq_ok_iff env configBytes).1 hresolve
    exact ⟨task, hpasses, exists_taskResolves_iff.1 ⟨resolved, hresolves⟩⟩
  · rintro ⟨task, hpasses, hacceptable⟩
    obtain ⟨resolved, hresolves⟩ := exists_taskResolves_iff.2 hacceptable
    exact ⟨resolved, (resolveConfig_eq_ok_iff env configBytes).2 ⟨task, hpasses, hresolves⟩⟩

end Config

end UprobeStats
