/-
Validation of a config and its resolution into the one task it describes.
The protobuf parser, the feature flags and the two resolvers that ask the
device are outside the repository or outside this process; they enter as the
environment of a resolution.
-/
import UprobeStats.Guardrail

namespace UprobeStats

/-- A Rust `HashMap`.  The order of the entries is the order in which this
instance would be iterated; nothing else may depend on it. -/
abbrev HashMap (κ ν : Type) := AList (fun _ : κ => ν)

/-- Two hash maps with the same content, whatever their iteration orders. -/
def HashMap.Same {κ ν : Type} [DecidableEq κ] (first second : HashMap κ ν) : Prop :=
  ∀ key, first.lookup key = second.lookup key

/-- `str::contains` with a string pattern. -/
def containsText (text pat : String) : Bool :=
  decide (pat.toList <:+: text.toList)

structure ResolvedProcess where
  pid : Int32
  uid : Int32
  name : String
deriving DecidableEq, Repr, Inhabited

structure MethodDescriptor where
  fullyQualifiedClassName : String
  methodName : String
  fullyQualifiedParameters : List String
deriving DecidableEq, Repr, Inhabited

structure ExecutableMethodFileOffsets where
  containerPath : String
  containerOffset : UInt64
  methodOffset : UInt64
deriving DecidableEq, Repr, Inhabited

/-- How an event is handed to `DynamicInstrumentationEventService`. -/
inductive EventMode where
  | flush
  | buffer
deriving DecidableEq, Repr, Inhabited

structure EventServiceConfig where
  mode : EventMode
deriving DecidableEq, Repr, Inhabited

def EventServiceConfig.fromProto (config : Proto.EventServiceConfig) :
    EventServiceConfig :=
  ⟨if config.flush = some true then .flush else .buffer⟩

structure AtomConfig where
  atomId : UInt32
  atomFieldPositions : List AtomFieldPosition
deriving DecidableEq, Repr, Inhabited

/-- `AtomConfig::try_from`.  The conversion to `u32` cannot fail after the
sign test. -/
def AtomConfig.tryFrom (config : Proto.AtomConfig) : Except AnyError AtomConfig :=
  match config.atomId with
  | none => .error (.message "atom_config.atom_id is required")
  | some atomId =>
      if atomId ≤ 0 then
        .error (.message "atom_config.atom_id must be positive integer")
      else
        .ok ⟨atomId.toUInt32,
          config.atomFieldPositions.map AtomFieldPosition.enumValueOrDefault⟩

/-- What is done with one method of a filtered interface. -/
structure MethodConfig where
  eventServiceConfig : Option EventServiceConfig
  atomConfig : Option AtomConfig
deriving DecidableEq, Repr, Inhabited

/-- The methods of one filtered interface, keyed by transaction code. -/
structure InterfaceConfig where
  methods : HashMap UInt64 MethodConfig

namespace InterfaceConfig

/-- Inserts, and fails when the code was already there. -/
def insertMethod (config : InterfaceConfig) (methodId : UInt64)
    (methodConfig : MethodConfig) : Except AnyError InterfaceConfig :=
  if (config.methods.lookup methodId).isSome then
    .error (.message ("Duplicate method_id " ++ toString methodId))
  else .ok ⟨config.methods.insert methodId methodConfig⟩

def getMethod (config : InterfaceConfig) (methodId : UInt64) : Option MethodConfig :=
  config.methods.lookup methodId

def methodIds (config : InterfaceConfig) : List UInt64 :=
  config.methods.keys

end InterfaceConfig

structure ResolvedProbe where
  methodDescriptor : MethodDescriptor
  offsets : ExecutableMethodFileOffsets
  bpfProgramPath : String
  binderTransactionFilters : HashMap String InterfaceConfig

/-- A validated task with its resolved process.  `HashSet<String>` is a
`Finset`; who iterates it supplies the order. -/
structure ResolvedTask where
  id : Int64
  duration : Duration
  resolvedProcess : ResolvedProcess
  bpfMapPaths : Finset String
  statsdLoggingConfig : Option Proto.StatsdLoggingConfig
  resolvedProbes : List ResolvedProbe

/-- `ConfigError`: an error with or without a task to blame. -/
inductive ConfigError where
  | taskValidation (taskId : Int64) (error : AnyError)
  | other (error : AnyError)
deriving DecidableEq, Repr

def ConfigError.taskId : ConfigError → Option Int64
  | taskValidation taskId _ => some taskId
  | other _ => none

/-- The aconfig flags the daemon reads. -/
structure Flags where
  uprobestatsMonitorDisruptiveAppActivities : Bool
  enableBitmapSnapshot : Bool
  enableBitmapInstrumentation : Bool
  enableBinderTransaction : Bool
  enableBitmapScaledInstrumentation : Bool
  a11yRuntimePermission : Bool
deriving DecidableEq, Repr, Inhabited

/-- Everything a resolution asks of the outside. -/
structure ResolveEnv where
  parseFromBytes : List UInt8 → Except AnyError Proto.UprobestatsConfig
  isUserBuild : Bool
  flags : Flags
  resolveProcess : Option String → TargetProcessSelection → Duration →
    Except AnyError ResolvedProcess
  resolveOffsets : ResolvedProcess → MethodDescriptor →
    Except AnyError (Option ExecutableMethodFileOffsets)

def binderBpfProgramName : String := "prog_Binder_uprobe_exec_transact_internal"

/-- The method id of one method config: present, positive, as a `c_ulong`
of a 64-bit target. -/
def resolveMethodId (methodId : Option Int64) : Except AnyError UInt64 :=
  match methodId with
  | none => .error (.message "binder_transaction_filter.method_config.method_id is required and must be a positive integer")
  | some id =>
      if 0 < id then .ok id.toUInt64
      else .error (.message "binder_transaction_filter.method_config.method_id is required and must be a positive integer")

/-- The optional atom config of one method. -/
def resolveAtomConfig : Option Proto.AtomConfig → Except AnyError (Option AtomConfig)
  | none => .ok none
  | some config => do
      let atomConfig ← AtomConfig.tryFrom config
      return some atomConfig

/-- One turn of the loop over `method_configs`. -/
def resolveMethodConfig (proto : Proto.MethodConfig) :
    Except AnyError (UInt64 × MethodConfig) := do
  let methodId ← resolveMethodId proto.methodId
  if proto.eventServiceConfig.isNone && proto.atomConfig.isNone then
    throw (.message "either method_config.event_service_config, method_config.atom_config, or both, must be present")
  let atomConfig ← resolveAtomConfig proto.atomConfig
  return (methodId, ⟨proto.eventServiceConfig.map EventServiceConfig.fromProto, atomConfig⟩)

/-- The loop over the `method_configs` of one filter. -/
def resolveMethodConfigs (built : InterfaceConfig) :
    List Proto.MethodConfig → Except AnyError InterfaceConfig
  | [] => .ok built
  | proto :: rest => do
      let (methodId, methodConfig) ← resolveMethodConfig proto
      let built ← built.insertMethod methodId methodConfig
      resolveMethodConfigs built rest

/-- One filter: its interface name and its methods. -/
def resolveFilter (filter : Proto.BinderTransactionFilter) :
    Except AnyError (String × InterfaceConfig) :=
  match filter.interfaceName with
  | none => .error (.message "binder_transaction_filter.interface_name is required")
  | some interfaceName => do
      if interfaceName.toList.isEmpty then
        throw (.message "binder_transaction_filter.interface_name must be non-empty")
      if filter.methodConfigs.isEmpty then
        throw (.message "binder_transaction_filter.method_configs must be non-empty")
      let interfaceConfig ← resolveMethodConfigs ⟨∅⟩ filter.methodConfigs
      return (interfaceName, interfaceConfig)

/-- The loop over the filters of one probe. -/
def resolveFilters (built : HashMap String InterfaceConfig) :
    List Proto.BinderTransactionFilter → Except AnyError (HashMap String InterfaceConfig)
  | [] => .ok built
  | filter :: rest => do
      let (interfaceName, interfaceConfig) ← resolveFilter filter
      if (built.lookup interfaceName).isSome then
        throw (.message ("Duplicate interface_name " ++ interfaceName))
      resolveFilters (built.insert interfaceName interfaceConfig) rest

def resolveBinderTransactionFilters (probe : Proto.ProbeConfig) (bpfName : String) :
    Except AnyError (HashMap String InterfaceConfig) :=
  if bpfName = binderBpfProgramName then
    if probe.binderTransactionFilters.isEmpty then
      .error (.message (binderBpfProgramName ++
        " requires at least one binder_transaction_filter"))
    else resolveFilters ∅ probe.binderTransactionFilters
  else if probe.binderTransactionFilters.isEmpty then .ok ∅
  else
    .error (.message ("binder_transaction_filters is only supported for " ++
      binderBpfProgramName ++ " but got " ++ bpfName))

/-- Whether the flags allow a program or map, by the first pattern of the
chain that occurs in its name. -/
def isBpfFileEnabled (flags : Flags) (name : String) : Bool :=
  if containsText name "DisruptiveApp" then
    flags.uprobestatsMonitorDisruptiveAppActivities
  else if containsText name "prog_BitmapAllocation_uprobe_bitmap_creation_for_snapshot"
      || containsText name "prog_BitmapAllocation_uprobe_apply_free_function" then
    flags.enableBitmapSnapshot
  else if containsText name "BitmapAllocation" then
    flags.enableBitmapInstrumentation || flags.enableBitmapSnapshot
  else if containsText name "Binder" then
    flags.enableBinderTransaction
  else if containsText name "prog_BitmapAllocation_uprobe_create_scaled_bitmap" then
    flags.enableBitmapScaledInstrumentation
  else if containsText name "Accessibility" then
    flags.a11yRuntimePermission
  else true

def bpfDir : String := "/sys/fs/bpf/uprobestats/"

/-- The full path of a BPF file in the `uprobestats` directory. -/
def prefixBpf (path : String) : String := bpfDir ++ path

/-- `ensure!(is_bpf_file_enabled(..))` followed by `prefix_bpf`. -/
def enabledBpfPath (flags : Flags) (name : String) : Except AnyError String :=
  if isBpfFileEnabled flags name then .ok (prefixBpf name)
  else .error (.message (name ++ " is disabled by flag"))

/-- An optional field that has to be present. -/
def required {α : Type} (text : String) : Option α → Except AnyError α
  | none => .error (.message text)
  | some a => .ok a

/-- The closure `resolve_probes` maps over the probes. -/
def resolveProbe (env : ResolveEnv) (resolvedProcess : ResolvedProcess)
    (probe : Proto.ProbeConfig) : Except AnyError ResolvedProbe := do
  let bpfName ← required "bpf_name is required" probe.bpfName
  let bpfProgramPath ← enabledBpfPath env.flags bpfName
  let binderTransactionFilters ← resolveBinderTransactionFilters probe bpfName
  let fullyQualifiedClassName ←
    required "fully_qualified_class_name is required" probe.fullyQualifiedClassName
  let methodName ← required "method_name is required" probe.methodName
  let methodDescriptor : MethodDescriptor :=
    ⟨fullyQualifiedClassName, methodName, probe.fullyQualifiedParameters⟩
  let found ← env.resolveOffsets resolvedProcess methodDescriptor
  let offsets ← required ("Failed to get offsets for class: " ++ fullyQualifiedClassName ++
    ", method: " ++ methodName ++ ", params: " ++
    toString (repr probe.fullyQualifiedParameters)) found
  return ⟨methodDescriptor, offsets, bpfProgramPath, binderTransactionFilters⟩

/-- The duration of a task: required and positive. -/
def resolveDuration (durationSeconds : Option Int32) : Except AnyError Duration := do
  let seconds ← required "Task duration is required" durationSeconds
  if seconds ≤ 0 then
    throw (.message "Task duration must be greater than 0")
  return Duration.fromSecs seconds.toInt.toNat

def resolveSingleTask (env : ResolveEnv) (task : Proto.Task) (id : Int64) :
    Except AnyError ResolvedTask := do
  let bpfMapPaths ← task.bpfMaps.mapM (enabledBpfPath env.flags)
  let duration ← resolveDuration task.durationSeconds
  let resolvedProcess ← env.resolveProcess task.targetProcessName
    (TargetProcessSelection.enumValueOrDefault (task.targetProcessSelection.getD 0)) duration
  let resolvedProbes ← task.probeConfigs.mapM (resolveProbe env resolvedProcess)
  return ⟨id, duration, resolvedProcess, bpfMapPaths.toFinset,
    task.statsdLoggingConfig, resolvedProbes⟩

/-- `resolve_config`: parse, insist on one task, ask the guardrail, resolve. -/
def resolveConfig (env : ResolveEnv) (configBytes : List UInt8) :
    Except ConfigError ResolvedTask :=
  match env.parseFromBytes configBytes with
  | .error e => .error (.other (.message ("Failed to parse config from bytes: " ++ e.toText)))
  | .ok config =>
      match config.tasks with
      | [task] =>
          let id := task.taskId.getD 0
          match Guardrail.isAllowed config env.isUserBuild true with
          | .error e => .error (.taskValidation id e)
          | .ok false =>
              .error (.taskValidation id
                (.message "uprobestats probing config disallowed on this device"))
          | .ok true =>
              match resolveSingleTask env task id with
              | .error e => .error (.taskValidation id e)
              | .ok resolved => .ok resolved
      | tasks =>
          .error (.other (.message
            ("Config must have exactly one task, got " ++ toString tasks.length)))

/-- A config with one task that is allowed resolves to what the task does. -/
theorem resolveConfig_eq_ok {env : ResolveEnv} {configBytes : List UInt8}
    {config : Proto.UprobestatsConfig} {task : Proto.Task} {resolved : ResolvedTask}
    (hparse : env.parseFromBytes configBytes = .ok config) (htasks : config.tasks = [task])
    (hallowed : Guardrail.isAllowed config env.isUserBuild true = .ok true)
    (hresolve : resolveSingleTask env task (task.taskId.getD 0) = .ok resolved) :
    resolveConfig env configBytes = .ok resolved := by
  simp only [resolveConfig, hparse, htasks, hallowed, hresolve]

/-- The names of the BPF files in a task. -/
def bpfNames (task : Proto.Task) : List String :=
  task.bpfMaps ++ task.probeConfigs.filterMap (·.bpfName)

theorem enabledBpfPath_eq_ok {flags : Flags} {name path : String}
    (hpath : enabledBpfPath flags name = .ok path) :
    isBpfFileEnabled flags name ∧ path = prefixBpf name := by
  unfold enabledBpfPath at hpath
  split at hpath
  · rename_i henabled
    cases hpath
    exact ⟨henabled, rfl⟩
  · cases hpath

/-- A probe that is resolved has the path of its program and the filters that
were accepted for that program. -/
theorem resolveProbe_eq_ok {env : ResolveEnv} {resolvedProcess : ResolvedProcess}
    {proto : Proto.ProbeConfig} {probe : ResolvedProbe}
    (hresolve : resolveProbe env resolvedProcess proto = .ok probe) :
    ∃ bpfName, probe.bpfProgramPath = prefixBpf bpfName ∧
      resolveBinderTransactionFilters proto bpfName = .ok probe.binderTransactionFilters := by
  obtain ⟨bpfName, _, hrest⟩ := bind_eq_ok_iff.1 hresolve
  obtain ⟨path, hpath, hrest⟩ := bind_eq_ok_iff.1 hrest
  obtain ⟨filters, hfilters, hrest⟩ := bind_eq_ok_iff.1 hrest
  obtain ⟨_, _, hrest⟩ := bind_eq_ok_iff.1 hrest
  obtain ⟨_, _, hrest⟩ := bind_eq_ok_iff.1 hrest
  obtain ⟨_, _, hrest⟩ := bind_eq_ok_iff.1 hrest
  obtain ⟨_, _, hprobe⟩ := bind_eq_ok_iff.1 hrest
  cases hprobe
  exact ⟨bpfName, (enabledBpfPath_eq_ok hpath).2, hfilters⟩

/-- What is resolved is the one task of a config. -/
theorem exists_resolveSingleTask {env : ResolveEnv} {configBytes : List UInt8}
    {resolved : ResolvedTask} (hresolve : resolveConfig env configBytes = .ok resolved) :
    ∃ config task, env.parseFromBytes configBytes = .ok config ∧ config.tasks = [task] ∧
      resolveSingleTask env task (task.taskId.getD 0) = .ok resolved := by
  unfold resolveConfig at hresolve
  split at hresolve
  · cases hresolve
  rename_i config hparse
  split at hresolve
  · rename_i task htasks
    dsimp only at hresolve
    split at hresolve
    · cases hresolve
    · cases hresolve
    split at hresolve
    · cases hresolve
    rename_i htask
    cases hresolve
    exact ⟨config, task, hparse, htasks, htask⟩
  · cases hresolve

/-- Everything that the resolution of a task needs. -/
theorem resolveSingleTask_eq_ok {env : ResolveEnv} {task : Proto.Task} {id : Int64}
    {resolved : ResolvedTask} (hresolve : resolveSingleTask env task id = .ok resolved) :
    ∃ bpfMapPaths duration resolvedProcess resolvedProbes,
      task.bpfMaps.mapM (enabledBpfPath env.flags) = .ok bpfMapPaths ∧
      resolveDuration task.durationSeconds = .ok duration ∧
      env.resolveProcess task.targetProcessName (TargetProcessSelection.enumValueOrDefault
        (task.targetProcessSelection.getD 0)) duration = .ok resolvedProcess ∧
      task.probeConfigs.mapM (resolveProbe env resolvedProcess) = .ok resolvedProbes ∧
      resolved = ⟨id, duration, resolvedProcess, bpfMapPaths.toFinset, task.statsdLoggingConfig,
        resolvedProbes⟩ := by
  obtain ⟨bpfMapPaths, hmaps, hrest⟩ := bind_eq_ok_iff.1 hresolve
  obtain ⟨duration, hduration, hrest⟩ := bind_eq_ok_iff.1 hrest
  obtain ⟨resolvedProcess, hprocess, hrest⟩ := bind_eq_ok_iff.1 hrest
  obtain ⟨resolvedProbes, hprobes, hresolved⟩ := bind_eq_ok_iff.1 hrest
  cases hresolved
  exact ⟨bpfMapPaths, duration, resolvedProcess, resolvedProbes, hmaps, hduration, hprocess,
    hprobes, rfl⟩

/-- Every probe of a resolved task was resolved. -/
theorem exists_resolveProbe {env : ResolveEnv} {configBytes : List UInt8}
    {resolved : ResolvedTask} (hresolve : resolveConfig env configBytes = .ok resolved)
    {probe : ResolvedProbe} (hprobe : probe ∈ resolved.resolvedProbes) :
    ∃ resolvedProcess proto, resolveProbe env resolvedProcess proto = .ok probe := by
  obtain ⟨config, task, -, -, htask⟩ := exists_resolveSingleTask hresolve
  obtain ⟨_, _, resolvedProcess, _, _, _, _, hprobes, rfl⟩ := resolveSingleTask_eq_ok htask
  obtain ⟨proto, _, hproto⟩ := exists_of_mem_mapM hprobes hprobe
  exact ⟨resolvedProcess, proto, hproto⟩

/-! What the filters of an accepted probe promise. -/

/-- Methods are there, and none of them has code 0. -/
structure InterfaceConfig.Valid (config : InterfaceConfig) : Prop where
  nonempty : config.methodIds ≠ []
  positive : 0 ∉ config.methodIds

theorem resolveMethodId_ne_zero {methodId : Option Int64} {id : UInt64}
    (hresolve : resolveMethodId methodId = .ok id) : id ≠ 0 := by
  unfold resolveMethodId at hresolve
  split at hresolve
  · cases hresolve
  · rename_i raw
    split at hresolve
    · rename_i hpos
      simp only [Except.ok.injEq] at hresolve
      subst hresolve
      intro hzero
      have hraw : raw = 0 := by
        rw [← Int64.toInt64_toUInt64 raw, hzero]
        rfl
      rw [hraw] at hpos
      exact absurd hpos (by decide)
    · cases hresolve

theorem resolveMethodConfig_ne_zero {proto : Proto.MethodConfig} {id : UInt64}
    {config : MethodConfig} (hresolve : resolveMethodConfig proto = .ok (id, config)) :
    id ≠ 0 := by
  obtain ⟨methodId, hid, hrest⟩ := bind_eq_ok_iff.1 hresolve
  obtain ⟨_, hrest⟩ := guard_eq_ok_iff.1 hrest
  obtain ⟨_, _, hpair⟩ := bind_eq_ok_iff.1 hrest
  simp only [pure, Except.pure, Except.ok.injEq, Prod.mk.injEq] at hpair
  rw [← hpair.1]
  exact resolveMethodId_ne_zero hid

theorem mem_methodIds_insertMethod {config built : InterfaceConfig} {id : UInt64}
    {methodConfig : MethodConfig} (hinsert : config.insertMethod id methodConfig = .ok built)
    (code : UInt64) : code ∈ built.methodIds ↔ code = id ∨ code ∈ config.methodIds := by
  unfold InterfaceConfig.insertMethod at hinsert
  split at hinsert
  · cases hinsert
  · simp only [Except.ok.injEq] at hinsert
    subst hinsert
    simp only [InterfaceConfig.methodIds, ← AList.mem_keys, AList.mem_insert]

/-- The loop keeps what it has and adds no method with code 0. -/
theorem resolveMethodConfigs_keeps {protos : List Proto.MethodConfig}
    {built resolved : InterfaceConfig}
    (hresolve : resolveMethodConfigs built protos = .ok resolved) :
    (0 ∈ resolved.methodIds → 0 ∈ built.methodIds) ∧
      ∀ code ∈ built.methodIds, code ∈ resolved.methodIds := by
  induction protos generalizing built with
  | nil =>
      simp only [resolveMethodConfigs, Except.ok.injEq] at hresolve
      subst hresolve
      exact ⟨id, fun _ => id⟩
  | cons proto rest ih =>
      obtain ⟨⟨methodId, methodConfig⟩, hproto, hrest⟩ := bind_eq_ok_iff.1 hresolve
      obtain ⟨next, hinsert, hrest⟩ := bind_eq_ok_iff.1 hrest
      have hnext := mem_methodIds_insertMethod hinsert
      obtain ⟨hzero, hkeep⟩ := ih hrest
      refine ⟨?_, ?_⟩
      · intro hmem
        rcases (hnext 0).1 (hzero hmem) with heq | hmem
        · exact absurd heq.symm (resolveMethodConfig_ne_zero hproto)
        · exact hmem
      · intro code hcode
        exact hkeep code ((hnext code).2 (Or.inr hcode))

theorem resolveMethodConfigs_valid {protos : List Proto.MethodConfig}
    {resolved : InterfaceConfig} (hne : protos ≠ [])
    (hresolve : resolveMethodConfigs ⟨∅⟩ protos = .ok resolved) : resolved.Valid := by
  constructor
  · cases protos with
    | nil => exact absurd rfl hne
    | cons proto rest =>
        obtain ⟨⟨methodId, methodConfig⟩, _, hrest⟩ := bind_eq_ok_iff.1 hresolve
        obtain ⟨next, hinsert, hrest⟩ := bind_eq_ok_iff.1 hrest
        have hmem : methodId ∈ next.methodIds :=
          (mem_methodIds_insertMethod hinsert methodId).2 (Or.inl rfl)
        exact List.ne_nil_of_mem ((resolveMethodConfigs_keeps hrest).2 methodId hmem)
  · intro hmem
    have hempty := (resolveMethodConfigs_keeps hresolve).1 hmem
    simp [InterfaceConfig.methodIds] at hempty

theorem resolveFilter_valid {filter : Proto.BinderTransactionFilter} {name : String}
    {config : InterfaceConfig} (hresolve : resolveFilter filter = .ok (name, config)) :
    config.Valid := by
  unfold resolveFilter at hresolve
  split at hresolve
  · cases hresolve
  · obtain ⟨_, hrest⟩ := guard_eq_ok_iff.1 hresolve
    obtain ⟨hmethods, hrest⟩ := guard_eq_ok_iff.1 hrest
    obtain ⟨interfaceConfig, hconfigs, hpair⟩ := bind_eq_ok_iff.1 hrest
    simp only [pure, Except.pure, Except.ok.injEq, Prod.mk.injEq] at hpair
    rw [← hpair.2]
    exact resolveMethodConfigs_valid (by simpa using hmethods) hconfigs

theorem resolveFilters_valid {filters : List Proto.BinderTransactionFilter}
    {built resolved : HashMap String InterfaceConfig}
    (hbuilt : ∀ name config, built.lookup name = some config → config.Valid)
    (hresolve : resolveFilters built filters = .ok resolved) :
    ∀ name config, resolved.lookup name = some config → config.Valid := by
  induction filters generalizing built with
  | nil =>
      simp only [resolveFilters, Except.ok.injEq] at hresolve
      subst hresolve
      exact hbuilt
  | cons filter rest ih =>
      obtain ⟨⟨interfaceName, interfaceConfig⟩, hfilter, hrest⟩ := bind_eq_ok_iff.1 hresolve
      obtain ⟨_, hrest⟩ := guard_eq_ok_iff.1 hrest
      refine ih ?_ hrest
      intro name config hlookup
      by_cases hname : name = interfaceName
      · subst hname
        rw [AList.lookup_insert, Option.some.injEq] at hlookup
        rw [← hlookup]
        exact resolveFilter_valid hfilter
      · rw [AList.lookup_insert_ne hname] at hlookup
        exact hbuilt name config hlookup

theorem resolveBinderTransactionFilters_valid {probe : Proto.ProbeConfig} {bpfName : String}
    {resolved : HashMap String InterfaceConfig}
    (hresolve : resolveBinderTransactionFilters probe bpfName = .ok resolved) :
    ∀ name config, resolved.lookup name = some config → config.Valid := by
  have hempty : ∀ name config,
      (∅ : HashMap String InterfaceConfig).lookup name = some config → config.Valid := by
    intro name config hlookup
    simp at hlookup
  unfold resolveBinderTransactionFilters at hresolve
  split at hresolve
  · split at hresolve
    · cases hresolve
    · exact resolveFilters_valid hempty hresolve
  · split at hresolve
    · simp only [Except.ok.injEq] at hresolve
      rw [← hresolve]
      exact hempty
    · cases hresolve

/-- Filters that `resolve_binder_transaction_filters` accepted, whatever the
iteration orders of the hash maps that hold them. -/
def Accepted (filters : HashMap String InterfaceConfig) : Prop :=
  ∃ probe bpfName resolved, resolveBinderTransactionFilters probe bpfName = .ok resolved ∧
    ∀ name, Option.Rel (fun first second => HashMap.Same first.methods second.methods)
      (filters.lookup name) (resolved.lookup name)

theorem HashMap.Same.mem_keys_iff {κ ν : Type} [DecidableEq κ] {first second : HashMap κ ν}
    (hsame : first.Same second) (key : κ) : key ∈ first.keys ↔ key ∈ second.keys := by
  rw [← AList.mem_keys, ← AList.mem_keys, ← AList.lookup_isSome, ← AList.lookup_isSome, hsame]

theorem Accepted.valid {filters : HashMap String InterfaceConfig} (haccepted : Accepted filters)
    {name : String} {config : InterfaceConfig} (hlookup : filters.lookup name = some config) :
    config.Valid := by
  obtain ⟨probe, bpfName, resolved, hresolve, hsame⟩ := haccepted
  have hname := hsame name
  rw [hlookup] at hname
  cases hother : resolved.lookup name with
  | none =>
      rw [hother] at hname
      cases hname
  | some other =>
      rw [hother] at hname
      rcases hname with hmethods | _
      have hvalid := resolveBinderTransactionFilters_valid hresolve name other hother
      constructor
      · obtain ⟨code, hcode⟩ := List.exists_mem_of_ne_nil _ hvalid.nonempty
        exact List.ne_nil_of_mem ((hmethods.mem_keys_iff code).2 hcode)
      · intro hzero
        exact hvalid.positive ((hmethods.mem_keys_iff 0).1 hzero)

end UprobeStats
