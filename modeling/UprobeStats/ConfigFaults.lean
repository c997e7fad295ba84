/-
Which accepted configs can make a handler fail later on.  The resolver checks
the filters of binder transactions, but it does not look at the atom of
`statsd_logging_config`, at the range of a method id, at the positions of an
atom's fields or at NULs in the name of an interface.
-/
import UprobeStats.Daemon
import UprobeStats.TaskHandlers

namespace UprobeStats

open Bytes FiniteMap Memory Traced BinderInterfaceBpfMap Daemon

/-- The run does not fail because of the config. -/
def Blameless {α : Type} (run : Run Sent HandlerFault α) : Prop :=
  ∀ fault, run.outcome = .error fault → ¬ fault.IsAboutConfig

namespace Blameless

variable {α β : Type}

theorem bind {first : Run Sent HandlerFault α} {next : α → Run Sent HandlerFault β}
    (hfirst : Blameless first) (hnext : ∀ value, first.outcome = .ok value → Blameless (next value)) :
    Blameless (first >>= next) := by
  intro fault hfault
  rcases Run.bind_eq_error_iff.1 hfault with hfault | ⟨value, hvalue, hfault⟩
  · exact hfirst fault hfault
  · exact hnext value hvalue fault hfault

theorem pure (value : α) : Blameless (pure value) := by
  intro fault hfault
  cases hfault

theorem mapErr_other (run : Run Sent AnyError α) : Blameless (run.mapErr .other) := by
  intro fault hfault
  unfold Run.mapErr at hfault
  split at hfault
  · cases hfault
  · cases hfault
    exact not_false
  · cases hfault

theorem panic : Blameless (Run.silent .panic : Run Sent HandlerFault α) := by
  intro fault hfault
  cases hfault

theorem fail_other (error : AnyError) :
    Blameless (Run.fail (.other error) : Run Sent HandlerFault α) := by
  intro fault hfault
  cases hfault
  exact not_false

theorem not_of_error {run : Run Sent HandlerFault α} (fault : HandlerFault)
    (habout : fault.IsAboutConfig) (hfault : run.outcome = .error fault) : ¬ Blameless run :=
  fun hblameless => hblameless fault hfault habout

/-- Code that has succeeded takes no blame. -/
theorem bind_iff_of_ok {first : Run Sent HandlerFault α} {value : α}
    (hfirst : first.outcome = .ok value) {next : α → Run Sent HandlerFault β} :
    Blameless (first >>= next) ↔ Blameless (next value) := by
  simp only [Blameless, Run.outcome_bind_of_ok hfirst]

end Blameless

/-! The handlers that log to the atom of `statsd_logging_config`. -/

/-- The conversion to `u32` succeeds. -/
def FitsU32 (atomId : Int64) : Prop := 0 ≤ atomId.toInt ∧ atomId.toInt < 2 ^ 32

theorem atomIdTryInto_of_fits {atomId : Int64} (hfits : FitsU32 atomId) :
    atomIdTryInto atomId = pure (UInt32.ofNat atomId.toInt.toNat) :=
  if_pos hfits

theorem atomIdTryInto_of_not_fits {atomId : Int64} (hfits : ¬ FitsU32 atomId) :
    atomIdTryInto atomId = Run.fail .atomIdOutOfRange :=
  if_neg hfits

/-- The position is one of a register that the record has. -/
def HasRegister (position : Int32) : Prop :=
  0 ≤ javaArgumentRegisterOffset + position.toInt ∧
    javaArgumentRegisterOffset + position.toInt < 10

/-- An atom that plain records can be logged to, if they are logged. -/
def StatsdSuffices (task : ResolvedTask) : Prop :=
  ∀ config, task.statsdLoggingConfig = some config →
    ∃ atomId, config.atomId = some atomId ∧ FitsU32 atomId

/-- The same for call details, which are built before the id is converted. -/
def DetailSuffices (task : ResolvedTask) : Prop :=
  ∀ config, task.statsdLoggingConfig = some config →
    ∃ atomId, config.atomId = some atomId ∧ (FitsU32 atomId ∨
      ∃ position ∈ config.primitiveArgumentPositions, ¬ HasRegister position)

section Statsd

variable (env : Environment) (task : ResolvedTask)

theorem requiredAtomId_blameless_iff {config : Proto.StatsdLoggingConfig}
    {next : Int64 → Run Sent HandlerFault Unit} :
    Blameless (requiredAtomId config >>= next) ↔
      ∃ atomId, config.atomId = some atomId ∧ Blameless (next atomId) := by
  unfold requiredAtomId
  cases config.atomId with
  | none =>
      simp only [reduceCtorEq, false_and, exists_false, iff_false]
      exact Blameless.not_of_error .atomIdRequired trivial (Run.outcome_bind_of_error rfl _)
  | some atomId =>
      simp only [Option.some.injEq, exists_eq_left']
      exact Blameless.bind_iff_of_ok rfl

theorem atomIdTryInto_blameless_iff {atomId : Int64} {next : UInt32 → Run Sent HandlerFault Unit}
    (hnext : ∀ value, Blameless (next value)) :
    Blameless (atomIdTryInto atomId >>= next) ↔ FitsU32 atomId := by
  by_cases hfits : FitsU32 atomId
  · rw [atomIdTryInto_of_fits hfits, Blameless.bind_iff_of_ok rfl]
    exact iff_of_true (hnext _) hfits
  · rw [atomIdTryInto_of_not_fits hfits]
    refine iff_of_false ?_ hfits
    exact Blameless.not_of_error .atomIdOutOfRange trivial (Run.outcome_bind_of_error rfl _)

theorem logToStatsd_blameless_iff {fields : Run Sent HandlerFault (List Field)}
    (hfields : Blameless fields) :
    Blameless (logToStatsd env task fields) ↔ StatsdSuffices task := by
  unfold logToStatsd StatsdSuffices
  cases hconfig : task.statsdLoggingConfig with
  | none => simpa using Blameless.pure ()
  | some config =>
      simp only [requiredAtomId_blameless_iff, Option.some.injEq, forall_eq']
      refine exists_congr fun atomId => and_congr_right fun _ => ?_
      exact atomIdTryInto_blameless_iff fun _ => hfields.bind fun _ _ => Blameless.mapErr_other _

theorem callTimestamp_blameless_iff (data : CallTimestamp) :
    Blameless (CallTimestampHandler.onItem env task data) ↔ StatsdSuffices task :=
  logToStatsd_blameless_iff env task (Blameless.pure _)

theorem setUidTempAllowlistState_blameless_iff (data : SetUidTempAllowlistStateRecord) :
    Blameless (SetUidTempAllowlistStateRecordHandler.onItem env task data) ↔
      StatsdSuffices task :=
  logToStatsd_blameless_iff env task
    ((Blameless.mapErr_other _).bind fun _ _ => Blameless.pure _)

theorem updateDeviceIdleTempAllowlist_blameless_iff (data : UpdateDeviceIdleTempAllowlistRecord) :
    Blameless (UpdateDeviceIdleTempAllowlistRecordHandler.onItem env task data) ↔
      StatsdSuffices task :=
  logToStatsd_blameless_iff env task
    ((Blameless.mapErr_other _).bind fun _ _ => Blameless.pure _)

/-- One argument gives a field or stops the handler for another reason. -/
theorem argumentField_cases (data : CallResult) (position : Int32) :
    (HasRegister position ∧ ∃ field, (argumentField data position).outcome = .ok field) ∨
      (¬ HasRegister position ∧ Blameless (argumentField data position) ∧
        ∀ field, (argumentField data position).outcome ≠ .ok field) := by
  unfold argumentField HasRegister
  dsimp only
  by_cases hlarge : 2 ^ 31 ≤ javaArgumentRegisterOffset + position.toInt
  · rw [if_pos hlarge]
    exact .inr ⟨by omega, Blameless.panic, by simp⟩
  rw [if_neg hlarge]
  by_cases hneg : javaArgumentRegisterOffset + position.toInt < 0
  · rw [if_pos hneg]
    exact .inr ⟨by omega, Blameless.fail_other _, by simp [Run.fail]⟩
  rw [if_neg hneg]
  by_cases hindex : (javaArgumentRegisterOffset + position.toInt).toNat < 10
  · rw [dif_pos hindex]
    exact .inl ⟨by omega, _, rfl⟩
  · rw [dif_neg hindex]
    exact .inr ⟨by omega, Blameless.panic, by simp⟩

theorem argumentFields_cases (data : CallResult) (positions : List Int32) :
    ((∀ position ∈ positions, HasRegister position) ∧
        ∃ fields, (argumentFields data positions).outcome = .ok fields) ∨
      ((∃ position ∈ positions, ¬ HasRegister position) ∧
        Blameless (argumentFields data positions) ∧
        ∀ fields, (argumentFields data positions).outcome ≠ .ok fields) := by
  induction positions with
  | nil => exact .inl ⟨by simp, [], rfl⟩
  | cons position rest ih =>
      simp only [argumentFields, List.forall_mem_cons]
      obtain ⟨hregister, field, hfield⟩ | ⟨hregister, hblameless, hfailed⟩ :=
        argumentField_cases data position
      · rw [Run.bind_of_ok hfield]
        obtain ⟨hrest, fields, hfields⟩ | ⟨hbad, hblameless, hfailed⟩ := ih
        · exact .inl ⟨⟨hregister, hrest⟩, field :: fields, Run.outcome_bind_of_ok hfields _⟩
        · obtain ⟨other, hother, hno⟩ := hbad
          refine .inr ⟨⟨other, List.mem_cons_of_mem _ hother, hno⟩, ?_, ?_⟩
          · exact hblameless.bind fun _ hvalue => absurd hvalue (hfailed _)
          · exact (Run.trace_bind_of_not_ok hfailed _).2
      · refine .inr ⟨⟨position, List.mem_cons_self, hregister⟩, ?_, ?_⟩
        · exact hblameless.bind fun _ hvalue => absurd hvalue (hfailed _)
        · exact (Run.trace_bind_of_not_ok hfailed _).2

/-- A position without a register comes first, and hides the range of the id. -/
theorem callResult_blameless_iff (data : CallResult) :
    Blameless (CallResultHandler.onItem env task data) ↔ DetailSuffices task := by
  unfold CallResultHandler.onItem DetailSuffices
  cases hconfig : task.statsdLoggingConfig with
  | none => simpa using Blameless.pure ()
  | some config =>
      simp only [requiredAtomId_blameless_iff, Option.some.injEq, forall_eq']
      refine exists_congr fun atomId => and_congr_right fun _ => ?_
      obtain ⟨hregisters, fields, hfields⟩ | ⟨hbad, hblameless, hfailed⟩ :=
        argumentFields_cases data config.primitiveArgumentPositions
      · have hnone : ¬ ∃ position ∈ config.primitiveArgumentPositions,
            ¬ HasRegister position := by
          push Not
          exact hregisters
        rw [Blameless.bind_iff_of_ok hfields]
        simp only [hnone, or_false]
        exact atomIdTryInto_blameless_iff fun _ => Blameless.mapErr_other _
      · simp only [hbad, or_true, iff_true]
        exact hblameless.bind fun _ hvalue => absurd hvalue (hfailed _)

end Statsd

/-! The handler of binder transactions. -/

/-- Whatever the program reads, it looks up the key of a text. -/
theorem readDescriptor_eq_descriptorKey (mem : Image) (descriptorPtr : UInt64) :
    ∃ descriptor, 0 ∉ descriptor ∧ descriptor.length ≤ 127 ∧
      readDescriptor mem descriptorPtr = descriptorKey descriptor := by
  have hbytes : (readDescriptor mem descriptorPtr).interfaceDescriptor =
      (copiedString mem descriptorPtr maxStringLength).2.elim (List.replicate maxStringLength 0)
        (overwrite (List.replicate maxStringLength 0)) := by
    change (recordString mem descriptorPtr maxStringLength (List.replicate maxStringLength 0)).2 = _
    rw [recordString_eq_copiedString]
  cases hcopied : (copiedString mem descriptorPtr maxStringLength).2 with
  | none =>
      refine ⟨[], by simp, by simp, BinderInterfaceBpfMapKey.ext ?_⟩
      rw [hbytes, hcopied]
      rfl
  | some bytes =>
      obtain ⟨descriptor, nuls, rfl, hnul, hlength⟩ :=
        copiedString_eq_some (by decide) hcopied
      have hshort : descriptor.length ≤ 127 := by
        simp only [maxStringLength] at hlength
        omega
      refine ⟨descriptor, hnul, hshort, BinderInterfaceBpfMapKey.ext ?_⟩
      rw [hbytes, hcopied]
      change overwrite _ _ = fill maxStringLength 0 (descriptor.take 127)
      rw [List.take_of_length_le hshort, fill_of_length_le (by simp only [maxStringLength]; omega),
        overwrite, List.drop_replicate, List.append_assoc, List.replicate_append_replicate]
      congr 2
      simp only [List.length_append, List.length_replicate]
      omega

/-- The record of a call on a NUL-free descriptor whose code is found. -/
theorem execTransactInternal_submits {interfaces : InterfacesMap} {mem : Image} {ctx : PtRegs}
    {descriptor : List UInt8} {code : UInt64} {value : BinderCodesBpfMapValue}
    (hcall : Transacts mem ctx descriptor code) (hnul : 0 ∉ descriptor)
    (hlookup : bpfInterfacesLookupElem interfaces (descriptorKey descriptor) = some value)
    (hcode : findCode code value.codes = true) (ktimeGetNs : UInt64) :
    (execTransactInternal interfaces mem true ktimeGetNs ctx).2 =
      some ⟨(descriptorKey descriptor).interfaceDescriptor, code,
        (ctx.regs 6).toUInt32.toInt32, ktimeGetNs⟩ := by
  simp only [execTransactInternal, hcall.readDescriptor_eq hnul, hcall.code, hlookup, hcode,
    ↓reduceIte]

/-- A record comes from a key that the program has looked up and a code that
is listed there. -/
theorem submitted_cases {interfaces : InterfacesMap} {mem : Image} {ctx : PtRegs}
    {ktimeGetNs : UInt64} {record : BinderTransaction}
    (hsubmitted : (execTransactInternal interfaces mem true ktimeGetNs ctx).2 = some record) :
    ∃ descriptor value, 0 ∉ descriptor ∧ descriptor.length ≤ 127 ∧
      bpfInterfacesLookupElem interfaces (descriptorKey descriptor) = some value ∧
      findCode record.code value.codes = true ∧
      record.interfaceDescriptor = (descriptorKey descriptor).interfaceDescriptor := by
  unfold execTransactInternal at hsubmitted
  dsimp only at hsubmitted
  obtain ⟨descriptor, hnul, hlength, hkey⟩ := readDescriptor_eq_descriptorKey mem (UInt64.ofNat
    (ofLittleEndian (bpfProbeReadUser mem 4 (ctx.regs 1 + kBinderDescriptorOffset)).2))
  rw [hkey] at hsubmitted
  split at hsubmitted
  · cases hsubmitted
  · rename_i value hlookup
    split at hsubmitted
    · rename_i hcode
      cases hsubmitted
      exact ⟨descriptor, value, hnul, hlength, hlookup, hcode, rfl⟩
    · cases hsubmitted

/-- A name whose key is that of a text decodes to a string with this text,
which is the name itself unless the name has a NUL in it. -/
theorem exists_decoded {name : String} {descriptor : List UInt8} (hnul : 0 ∉ descriptor)
    (hlength : descriptor.length ≤ 127) (hkey : toCKey name = descriptorKey descriptor) :
    ∃ decoded, asBytes decoded = descriptor ∧ (decoded = name ↔ 0 ∉ asBytes name) := by
  have hbytes : fill maxStringLength 0 (asBytes name) = fill maxStringLength 0 descriptor := by
    have hfill : fill maxStringLength 0 (asBytes name) =
        fill maxStringLength 0 (descriptor.take 127) :=
      congrArg BinderInterfaceBpfMapKey.interfaceDescriptor hkey
    rwa [List.take_of_length_le hlength] at hfill
  have hshort : descriptor.length < maxStringLength := by
    simp only [maxStringLength]
    omega
  by_cases hname : 0 ∈ asBytes name
  · have htext : text (asBytes name) = descriptor := by
      have harray : 0 ∈ fill maxStringLength 0 (asBytes name) := by
        rw [hbytes]
        exact nul_mem_fill hshort
      rw [← text_fill_of_nul_mem hname harray, hbytes, text_fill hnul hshort]
    refine ⟨_, (asBytes_of_fromUtf8 (fromUtf8_text_asBytes name)).trans htext, ?_⟩
    constructor
    · intro heq
      rw [← heq, asBytes_of_fromUtf8 (fromUtf8_text_asBytes name)]
      exact nul_notMem_text _
    · exact fun hfree => absurd hname hfree
  · refine ⟨name, ?_, by simpa using hname⟩
    rw [asBytes_eq_take hname hnul hkey, List.take_of_length_le hlength]

section Binder

variable (env : Environment) (task : ResolvedTask)

open BinderTransactionHandler

theorem positionFields_cases (uid : Int32) (name : String) (code : Int32) (timestampNs : Int64)
    (positions : List AtomFieldPosition) :
    (.unknown ∉ positions ∧
        ∃ fields, (positionFields uid name code timestampNs positions).outcome = .ok fields) ∨
      (.unknown ∈ positions ∧ (positionFields uid name code timestampNs positions).outcome =
        .error .unknownAtomFieldPosition) := by
  induction positions with
  | nil => exact .inl ⟨by simp, [], rfl⟩
  | cons position rest ih =>
      simp only [positionFields, List.mem_cons, not_or]
      by_cases hposition : AtomFieldPosition.unknown = position
      · subst hposition
        exact .inr ⟨.inl rfl, Run.outcome_bind_of_error rfl _⟩
      · obtain ⟨field, hfield⟩ : ∃ field,
            (positionField uid name code timestampNs position).outcome = .ok field := by
          cases position with
          | unknown => exact absurd rfl hposition
          | callingUid | interfaceName | code | ktimeNs => exact ⟨_, rfl⟩
        rw [Run.outcome_bind_of_ok hfield]
        obtain ⟨hrest, fields, hfields⟩ | ⟨hrest, hfault⟩ := ih
        · exact .inl ⟨⟨hposition, hrest⟩, _, Run.outcome_bind_of_ok hfields _⟩
        · exact .inr ⟨.inr hrest, Run.outcome_bind_of_error hfault _⟩

/-- The atom of a method can be built. -/
def AtomSuffices (methodConfig : MethodConfig) : Prop :=
  ∀ atomConfig, methodConfig.atomConfig = some atomConfig →
    .unknown ∉ atomConfig.atomFieldPositions

theorem report_blameless {methodConfig : MethodConfig} (hatom : AtomSuffices methodConfig)
    (item : BinderTransaction) (name : String) (code : Int32) :
    Blameless (report env item name code methodConfig) := by
  unfold report
  refine Blameless.bind ?_ fun _ _ => ?_
  · cases hconfig : methodConfig.atomConfig with
    | none => exact Blameless.pure _
    | some atomConfig =>
        refine (Blameless.mapErr_other _).bind fun timestampNs _ => Blameless.bind ?_ fun _ _ =>
          Blameless.mapErr_other _
        rcases positionFields_cases item.callingUid name code timestampNs
          atomConfig.atomFieldPositions with ⟨_, fields, hfields⟩ | ⟨hunknown, _⟩
        · intro fault hfault
          rw [hfields] at hfault
          cases hfault
        · exact absurd hunknown (hatom atomConfig hconfig)
  · cases methodConfig.eventServiceConfig with
    | none => exact Blameless.pure _
    | some eventServiceConfig =>
        exact (Blameless.mapErr_other _).bind fun _ _ => Blameless.mapErr_other _

/-- The positions are looked at once the time of the record fits an `i64`. -/
theorem report_not_blameless {methodConfig : MethodConfig} (hatom : ¬ AtomSuffices methodConfig)
    {item : BinderTransaction} (htime : item.timestampNs = 0) (name : String) (code : Int32) :
    ¬ Blameless (report env item name code methodConfig) := by
  simp only [AtomSuffices, not_forall, not_not] at hatom
  obtain ⟨atomConfig, hconfig, hunknown⟩ := hatom
  apply Blameless.not_of_error .unknownAtomFieldPosition trivial
  rcases positionFields_cases item.callingUid name code 0 atomConfig.atomFieldPositions with
    ⟨hknown, _⟩ | ⟨_, hfault⟩
  · exact absurd hunknown hknown
  · have htimestamp : (otherwise (tryIntoI64 item.timestampNs.toNat)).outcome = .ok 0 := by
      rw [htime]
      rfl
    apply Run.outcome_bind_of_error
    rw [hconfig, reportAtom, Run.outcome_bind_of_ok htimestamp]
    exact Run.outcome_bind_of_error hfault _

/-- With a name that can be read, the handler needs a method config, a code
that is an `i32` and an atom that can be built. -/
theorem onItem_blameless {item : BinderTransaction} {name : String} {methodConfig : MethodConfig}
    (hname : bytesAsNonemptyStr item.interfaceDescriptor = .ok name)
    (hmethod : findMethod task name item.code = some methodConfig)
    (hcode : item.code.toNat < 2 ^ 31) (hatom : AtomSuffices methodConfig) :
    Blameless (onItem env task item) := by
  unfold onItem
  refine (Blameless.mapErr_other _).bind fun decoded hdecoded => ?_
  rw [hname] at hdecoded
  cases hdecoded
  rw [hmethod]
  dsimp only
  rw [if_pos hcode]
  exact report_blameless env hatom item name _

theorem of_onItem_blameless {item : BinderTransaction}
    (hblameless : Blameless (onItem env task item)) {name : String}
    (hname : bytesAsNonemptyStr item.interfaceDescriptor = .ok name)
    (htime : item.timestampNs = 0) :
    ∃ methodConfig, findMethod task name item.code = some methodConfig ∧
      item.code.toNat < 2 ^ 31 ∧ AtomSuffices methodConfig := by
  have hdecoded : (otherwise (bytesAsNonemptyStr item.interfaceDescriptor)).outcome =
      .ok name := by
    rw [hname]
    rfl
  have hfault : ∀ fault, (onItem env task item).outcome = .error fault → ¬ fault.IsAboutConfig :=
    hblameless
  simp only [onItem, Run.outcome_bind_of_ok hdecoded] at hfault
  cases hmethod : findMethod task name item.code with
  | none =>
      rw [hmethod] at hfault
      exact absurd trivial (hfault (.noConfigFound name item.code) rfl)
  | some methodConfig =>
      rw [hmethod] at hfault
      dsimp only at hfault
      by_cases hcode : item.code.toNat < 2 ^ 31
      · rw [if_pos hcode] at hfault
        refine ⟨methodConfig, rfl, hcode, ?_⟩
        by_contra hatom
        exact report_not_blameless env hatom htime name _ hfault
      · rw [if_neg hcode] at hfault
        exact absurd trivial (hfault .codeOutOfRange rfl)

/-- A record without a name is no config's fault. -/
theorem onItem_blameless_of_unreadable {item : BinderTransaction} {error : AnyError}
    (hname : bytesAsNonemptyStr item.interfaceDescriptor = .error error) :
    Blameless (onItem env task item) := by
  unfold onItem
  refine (Blameless.mapErr_other _).bind fun decoded hdecoded => ?_
  rw [hname] at hdecoded
  cases hdecoded

end Binder

/-! Configs that the resolver has accepted. -/

/-- The same probe, whatever the iteration orders of its hash maps. -/
structure SameProbe (first second : ResolvedProbe) : Prop where
  methodDescriptor : first.methodDescriptor = second.methodDescriptor
  offsets : first.offsets = second.offsets
  bpfProgramPath : first.bpfProgramPath = second.bpfProgramPath
  filters : ∀ name, Option.Rel (fun first second => HashMap.Same first.methods second.methods)
    (first.binderTransactionFilters.lookup name) (second.binderTransactionFilters.lookup name)

/-- `resolve_config` returns the task, whatever the iteration orders of its
hash maps. -/
def Resolved (task : ResolvedTask) : Prop :=
  ∃ env configBytes resolved, resolveConfig env configBytes = .ok resolved ∧
    List.Forall₂ SameProbe task.resolvedProbes resolved.resolvedProbes ∧
    task = { resolved with resolvedProbes := task.resolvedProbes }

theorem Resolved.exists_accepted {task : ResolvedTask} (hresolved : Resolved task)
    {probe : ResolvedProbe} (hprobe : probe ∈ task.resolvedProbes) :
    ∃ proto bpfName filters, resolveBinderTransactionFilters proto bpfName = .ok filters ∧
      probe.bpfProgramPath = prefixBpf bpfName ∧
      ∀ name, Option.Rel (fun first second => HashMap.Same first.methods second.methods)
        (probe.binderTransactionFilters.lookup name) (filters.lookup name) := by
  obtain ⟨env, configBytes, resolved, hresolve, hprobes, _⟩ := hresolved
  obtain ⟨i, hi, rfl⟩ := List.getElem_of_mem hprobe
  have hsame := hprobes.get hi (hprobes.length_eq ▸ hi)
  obtain ⟨_, proto, hproto⟩ := exists_resolveProbe hresolve (List.get_mem resolved.resolvedProbes
    ⟨i, hprobes.length_eq ▸ hi⟩)
  obtain ⟨bpfName, hpath, hfilters⟩ := resolveProbe_eq_ok hproto
  exact ⟨proto, bpfName, _, hfilters, hsame.bpfProgramPath.trans hpath, hsame.filters⟩

theorem Resolved.accepted {task : ResolvedTask} (hresolved : Resolved task)
    {probe : ResolvedProbe} (hprobe : probe ∈ task.resolvedProbes) :
    Accepted probe.binderTransactionFilters := by
  obtain ⟨proto, bpfName, filters, hfilters, _, hsame⟩ := hresolved.exists_accepted hprobe
  exact ⟨proto, bpfName, filters, hfilters, hsame⟩

/-- Only the program for binder transactions is given filters. -/
theorem Resolved.path_of_filter {task : ResolvedTask} (hresolved : Resolved task)
    {probe : ResolvedProbe} (hprobe : probe ∈ task.resolvedProbes)
    {filter : Σ _ : String, InterfaceConfig}
    (hfilter : filter ∈ probe.binderTransactionFilters.entries) :
    probe.bpfProgramPath = prefixBpf binderBpfProgramName := by
  obtain ⟨proto, bpfName, filters, hfilters, hpath, hsame⟩ := hresolved.exists_accepted hprobe
  by_cases hname : bpfName = binderBpfProgramName
  · rw [hpath, hname]
  · unfold resolveBinderTransactionFilters at hfilters
    rw [if_neg hname] at hfilters
    split at hfilters
    · cases hfilters
      have hrel := hsame filter.1
      rw [AList.mem_lookup_iff.2 hfilter, AList.lookup_empty] at hrel
      cases hrel
    · cases hfilters

/-- A transaction can be reported under the key of this name. -/
def Reportable (name : String) : Prop :=
  ∃ descriptor, descriptor ≠ [] ∧ 0 ∉ descriptor ∧ descriptor.length ≤ 127 ∧
    toCKey name = descriptorKey descriptor

/-- Every transaction that a filter lets through can be handled. -/
structure FilterSuffices (filter : Σ _ : String, InterfaceConfig) : Prop where
  name : 0 ∉ asBytes filter.1
  code : ∀ code ∈ filter.2.methodIds.take 10, code.toNat < 2 ^ 31
  atom : ∀ code ∈ filter.2.methodIds.take 10, ∀ methodConfig,
    filter.2.getMethod code = some methodConfig → AtomSuffices methodConfig

/-- The programs whose records are logged as they are. -/
def IsPlain (bpfProgramPath : String) : Prop :=
  (∃ event, bpfProgramPath = prefixBpf (callTimestampName event)) ∨
    bpfProgramPath = prefixBpf setUidTempAllowlistStateName ∨
    bpfProgramPath = prefixBpf updateDeviceIdleTempAllowlistName

/-- The config has what the handlers need from it. -/
structure ConfigSuffices (task : ResolvedTask) : Prop where
  plain : ∀ probe ∈ task.resolvedProbes, IsPlain probe.bpfProgramPath → StatsdSuffices task
  detail : ∀ probe ∈ task.resolvedProbes, probe.bpfProgramPath = prefixBpf callDetailName →
    DetailSuffices task
  binder : ∀ filter ∈ configuredFilters task.resolvedProbes, Reportable filter.1 →
    FilterSuffices filter

theorem findSome?_of_forall_eq {α β : Type} {f : α → Option β} {l : List α} {a : α}
    (hmem : a ∈ l) (heq : ∀ x ∈ l, x = a) : l.findSome? f = f a := by
  cases l with
  | nil => cases hmem
  | cons x l =>
      obtain rfl := heq x List.mem_cons_self
      rw [List.findSome?_cons]
      cases hx : f x with
      | some b => rfl
      | none =>
          rw [List.findSome?_eq_none_iff]
          intro y hy
          rw [heq y (List.mem_cons_of_mem _ hy), hx]

section Suffices

variable {task : ResolvedTask}
variable (hdistinct :
  ((configuredFilters task.resolvedProbes).map fun filter => toCKey filter.1).Nodup)

include hdistinct in
/-- When no two filters share a key, a name belongs to one filter at most. -/
theorem findMethod_of_mem {filter : Σ _ : String, InterfaceConfig}
    (hfilter : filter ∈ configuredFilters task.resolvedProbes) (code : UInt64) :
    BinderTransactionHandler.findMethod task filter.1 code = filter.2.getMethod code := by
  apply findSome?_of_forall_eq
  · obtain ⟨probe, hprobe, hentry⟩ := List.mem_flatMap.1 hfilter
    exact List.mem_filterMap.2 ⟨probe, hprobe, AList.mem_lookup_iff.2 hentry⟩
  · intro config hconfig
    obtain ⟨probe, hprobe, hlookup⟩ := List.mem_filterMap.1 hconfig
    have hother : ⟨filter.1, config⟩ ∈ configuredFilters task.resolvedProbes :=
      List.mem_flatMap.2 ⟨probe, hprobe, AList.mem_lookup_iff.1 hlookup⟩
    have hsame := filter_eq_of_key hdistinct hother hfilter rfl
    rw [← hsame]

/-- A method config that is found under a name is one of a filter of this name. -/
theorem exists_filter_of_findMethod {name : String} {code : UInt64} {methodConfig : MethodConfig}
    (hfound : BinderTransactionHandler.findMethod task name code = some methodConfig) :
    ∃ config, ⟨name, config⟩ ∈ configuredFilters task.resolvedProbes := by
  obtain ⟨config, hconfig, _⟩ := List.exists_of_findSome?_eq_some hfound
  obtain ⟨probe, hprobe, hlookup⟩ := List.mem_filterMap.1 hconfig
  exact ⟨config, List.mem_flatMap.2 ⟨probe, hprobe, AList.mem_lookup_iff.1 hlookup⟩⟩

/-- What is read of a record's descriptor. -/
theorem bytesAsNonemptyStr_descriptorKey {name : String} (hne : asBytes name ≠ [])
    (hnul : 0 ∉ asBytes name) (hlength : (asBytes name).length ≤ 127) :
    bytesAsNonemptyStr (descriptorKey (asBytes name)).interfaceDescriptor = .ok name := by
  have hshort : (asBytes name).length < maxStringLength := by
    simp only [maxStringLength]
    omega
  have hnonempty : name.isEmpty = false := by
    rw [Bool.eq_false_iff]
    intro hempty
    rw [String.isEmpty_iff.1 hempty] at hne
    exact hne rfl
  rw [← toCKey_eq_descriptorKey hlength]
  exact bytesAsNonemptyStr_fill hnul hshort hnonempty

include hdistinct in
theorem binder_blameless
    (hvalid : ∀ filter ∈ configuredFilters task.resolvedProbes, filter.2.Valid)
    (hsuffices : ∀ filter ∈ configuredFilters task.resolvedProbes, Reportable filter.1 →
      FilterSuffices filter)
    {mem : Image} {ctx : PtRegs} {ktimeGetNs : UInt64} {record : BinderTransaction}
    (hsubmitted : (execTransactInternal (insertAll ∅ (filterEntries task.resolvedProbes)) mem true
      ktimeGetNs ctx).2 = some record) (env : Environment) :
    Blameless (BinderTransactionHandler.onItem env task record) := by
  obtain ⟨descriptor, value, hnul, hlength, hlookup, hcode, hbytes⟩ := submitted_cases hsubmitted
  rw [← map_fst_filterEntries] at hdistinct
  obtain ⟨filter, hfilter, hkey, rfl⟩ :=
    (bpfInterfacesLookupElem_filterEntries hdistinct).1 hlookup
  rw [findCode_toCValue (hvalid filter hfilter).positive] at hcode
  rw [map_fst_filterEntries] at hdistinct
  by_cases hempty : descriptor = []
  · subst hempty
    have hunreadable : bytesAsNonemptyStr (descriptorKey []).interfaceDescriptor =
        .error (.message "bytes_as_str returned an unexpected empty string") := by
      have hdecode : bytesAsStr (descriptorKey []).interfaceDescriptor = .ok "" :=
        @bytesAsStr_fill maxStringLength "" (by decide) (by decide)
      rw [bytesAsNonemptyStr, hdecode]
      rfl
    exact onItem_blameless_of_unreadable env task (hbytes ▸ hunreadable)
  · have hfilterSuffices := hsuffices filter hfilter ⟨descriptor, hempty, hnul, hlength, hkey⟩
    obtain ⟨decoded, rfl, hiff⟩ := exists_decoded hnul hlength hkey
    obtain rfl := hiff.2 hfilterSuffices.name
    obtain ⟨methodConfig, hmethod⟩ : ∃ methodConfig,
        filter.2.getMethod record.code = some methodConfig :=
      Option.isSome_iff_exists.1 (AList.lookup_isSome.2 (AList.mem_keys.2
        (List.mem_of_mem_take hcode)))
    refine onItem_blameless env task (hbytes ▸ bytesAsNonemptyStr_descriptorKey hempty hnul hlength)
      ((findMethod_of_mem hdistinct hfilter record.code).trans hmethod)
      (hfilterSuffices.code _ hcode) (hfilterSuffices.atom _ hcode _ hmethod)

include hdistinct in
/-- Every code of a filter that can be reported is reported at some time. -/
theorem filterSuffices_of_blameless
    (hvalid : ∀ filter ∈ configuredFilters task.resolvedProbes, filter.2.Valid)
    (env : Environment)
    (hblameless : ∀ mem ctx record, (execTransactInternal
      (insertAll ∅ (filterEntries task.resolvedProbes)) mem true 0 ctx).2 = some record →
        Blameless (BinderTransactionHandler.onItem env task record))
    {filter : Σ _ : String, InterfaceConfig}
    (hfilter : filter ∈ configuredFilters task.resolvedProbes) (hreportable : Reportable filter.1) :
    FilterSuffices filter := by
  obtain ⟨descriptor, hne, hnul, hlength, hkey⟩ := hreportable
  obtain ⟨decoded, rfl, hiff⟩ := exists_decoded hnul hlength hkey
  have hlookup : bpfInterfacesLookupElem (insertAll ∅ (filterEntries task.resolvedProbes))
      (descriptorKey (asBytes decoded)) = some (toCValue filter.2.methodIds) := by
    rw [bpfInterfacesLookupElem_filterEntries (by rwa [map_fst_filterEntries])]
    exact ⟨filter, hfilter, hkey, rfl⟩
  have hcodes : ∀ code ∈ filter.2.methodIds.take 10, decoded = filter.1 ∧
      code.toNat < 2 ^ 31 ∧ ∃ methodConfig, filter.2.getMethod code = some methodConfig ∧
        AtomSuffices methodConfig := by
    intro code hcode
    have hroom : (asBytes decoded).length < 2 ^ 31 := by omega
    obtain ⟨mem, ctx, hcall⟩ := exists_transacts hroom code
    have hfound := (findCode_toCValue (hvalid filter hfilter).positive).2 hcode
    have hsubmitted := execTransactInternal_submits hcall hnul hlookup hfound 0
    obtain ⟨methodConfig, hmethod, hfits, hatom⟩ := of_onItem_blameless env task
      (hblameless mem ctx _ hsubmitted) (bytesAsNonemptyStr_descriptorKey hne hnul hlength) rfl
    obtain ⟨config, hother⟩ := exists_filter_of_findMethod hmethod
    -- a filter of the decoded name has the key of this filter, so it is this filter
    have hshared : toCKey decoded = toCKey filter.1 :=
      (toCKey_eq_descriptorKey hlength).trans hkey.symm
    have hname : decoded = filter.1 :=
      congrArg Sigma.fst (filter_eq_of_key hdistinct hother hfilter hshared)
    refine ⟨hname, hfits, methodConfig, ?_, hatom⟩
    rw [← findMethod_of_mem hdistinct hfilter, ← hname]
    exact hmethod
  obtain ⟨code, hcode⟩ := exists_mem_take (hvalid filter hfilter)
  refine ⟨hiff.1 (hcodes code hcode).1, fun code hcode => (hcodes code hcode).2.1, ?_⟩
  intro code hcode methodConfig hmethod
  obtain ⟨found, hfound, hatom⟩ := (hcodes code hcode).2.2
  rw [hmethod, Option.some.injEq] at hfound
  rwa [hfound]

end Suffices

/-- The atom writer and the bridge service succeed. -/
structure Environment.Succeeds (env : Environment) : Prop where
  write : ∀ place, env.onWrite place = .ok ()
  get : ∀ place, env.onGet place = .ok ()
  enqueueEvent : env.onEnqueueEvent = .ok ()

theorem Environment.succeeding_succeeds : succeeding.Succeeds :=
  ⟨fun _ => rfl, fun _ => rfl, rfl⟩

/-- Whatever the programs of the task submit with its filters installed, no
handler fails because of the config as long as everyone else does their work. -/
def NeverBlamesConfig (firstKey : FirstInterface) (task : ResolvedTask) : Prop :=
  ∀ opened interfaces,
    setupBinderTransactionFilters (.reliable firstKey) task.resolvedProbes ∅ =
        (.ok opened, interfaces) →
      ∀ probe ∈ task.resolvedProbes, ∀ record, Emits interfaces probe record →
        ∀ env : Environment, env.Succeeds → Blameless (record.onItem env task)

/-- A config that suffices does so whatever is submitted. -/
theorem ConfigSuffices.blameless {task : ResolvedTask} (hsuffices : ConfigSuffices task)
    (hdistinct : ((configuredFilters task.resolvedProbes).map fun filter => toCKey filter.1).Nodup)
    (hvalid : ∀ filter ∈ configuredFilters task.resolvedProbes, filter.2.Valid)
    {probe : ResolvedProbe} (hprobe : probe ∈ task.resolvedProbes) {record : TaskRecord}
    (hemits : Emits (insertAll ∅ (filterEntries task.resolvedProbes)) probe record)
    (env : Environment) : Blameless (record.onItem env task) := by
  cases hemits with
  | execTransactInternal _ hsubmitted =>
      exact binder_blameless hdistinct hvalid hsuffices.binder hsubmitted env
  | callTimestamp event _ hpath =>
      exact (callTimestamp_blameless_iff env task _).2
        (hsuffices.plain probe hprobe (.inl ⟨event, hpath⟩))
  | callDetail _ _ hpath =>
      exact (callResult_blameless_iff env task _).2 (hsuffices.detail probe hprobe hpath)
  | setUidTempAllowlistState _ hpath =>
      exact (setUidTempAllowlistState_blameless_iff env task _).2
        (hsuffices.plain probe hprobe (.inr (.inl hpath)))
  | updateDeviceIdleTempAllowlist _ _ _ _ hpath =>
      exact (updateDeviceIdleTempAllowlist_blameless_iff env task _).2
        (hsuffices.plain probe hprobe (.inr (.inr hpath)))

/-- Each of the programs submits something, so each of the conditions is needed. -/
theorem configSuffices_of_blameless {task : ResolvedTask} (hresolved : Resolved task)
    (hdistinct : ((configuredFilters task.resolvedProbes).map fun filter => toCKey filter.1).Nodup)
    (hvalid : ∀ filter ∈ configuredFilters task.resolvedProbes, filter.2.Valid)
    (env : Environment)
    (hblameless : ∀ probe ∈ task.resolvedProbes, ∀ record,
      Emits (insertAll ∅ (filterEntries task.resolvedProbes)) probe record →
        Blameless (record.onItem env task)) : ConfigSuffices task := by
  refine ⟨?_, ?_, ?_⟩
  · rintro probe hprobe (⟨event, hpath⟩ | hpath | hpath)
    · exact (callTimestamp_blameless_iff env task _).1
        (hblameless probe hprobe _ (.callTimestamp event 0 hpath))
    · exact (setUidTempAllowlistState_blameless_iff env task _).1
        (hblameless probe hprobe _ (.setUidTempAllowlistState ⟨fun _ => 0⟩ hpath))
    · exact (updateDeviceIdleTempAllowlist_blameless_iff env task _).1
        (hblameless probe hprobe _ (.updateDeviceIdleTempAllowlist ⟨⟨fun _ => 0⟩, 0⟩ (ofObjects [])
          (List.replicate 256 0) (List.length_replicate ..) hpath))
  · intro probe hprobe hpath
    exact (callResult_blameless_iff env task _).1
      (hblameless probe hprobe _ (.callDetail ⟨fun _ => 0⟩ 0 hpath))
  · intro filter hfilter
    refine filterSuffices_of_blameless hdistinct hvalid env ?_ hfilter
    intro mem ctx record hsubmitted
    obtain ⟨probe, hprobe, hentry⟩ := List.mem_flatMap.1 hfilter
    exact hblameless probe hprobe _
      (.execTransactInternal (hresolved.path_of_filter hprobe hentry) hsubmitted)

/-- An accepted config is never to blame exactly when its filters cannot be
installed at all or it has what the handlers need from it. -/
theorem neverBlamesConfig_iff_suffices (firstKey : FirstInterface) {task : ResolvedTask}
    (hresolved : Resolved task) :
    NeverBlamesConfig firstKey task ↔
      (((configuredFilters task.resolvedProbes).map fun filter => toCKey filter.1).Nodup →
        ConfigSuffices task) := by
  have hvalid : ∀ filter ∈ configuredFilters task.resolvedProbes, filter.2.Valid :=
    fun _ hfilter => valid_of_accepted (fun _ hprobe => hresolved.accepted hprobe) hfilter
  rw [← map_fst_filterEntries]
  rcases setup_reliable_cases firstKey task.resolvedProbes with
    ⟨hdistinct, hsetup⟩ | ⟨hshared, e, left, hsetup⟩
  · have hkeys := hdistinct
    rw [map_fst_filterEntries] at hkeys
    constructor
    · intro hnever _
      refine configSuffices_of_blameless hresolved hkeys hvalid .succeeding ?_
      intro probe hprobe record hemits
      exact hnever _ _ hsetup probe hprobe record hemits _ Environment.succeeding_succeeds
    · intro hsuffices opened interfaces heq probe hprobe record hemits env _
      rw [hsetup, Prod.mk.injEq] at heq
      obtain ⟨_, rfl⟩ := heq
      exact (hsuffices hdistinct).blameless hkeys hvalid hprobe hemits env
  · constructor
    · exact fun _ hdistinct => absurd hdistinct hshared
    · intro _ opened interfaces heq
      rw [hsetup] at heq
      cases heq

/-! A task with one probe, which logs the time of its calls. -/

def timestampProbe : Proto.ProbeConfig where
  bpfName := some (callTimestampName 0)
  fullyQualifiedClassName := some "android.os.Binder"
  methodName := some "execTransact"

def timestampEnv (config : Proto.StatsdLoggingConfig) : ResolveEnv where
  parseFromBytes _ := .ok { tasks := [{
    probeConfigs := [timestampProbe]
    durationSeconds := some 1
    statsdLoggingConfig := some config }] }
  isUserBuild := false
  flags := allFlags
  resolveProcess _ _ _ := .ok ⟨1, 1000, "system_server"⟩
  resolveOffsets _ _ := .ok (some ⟨"/system/framework/arm64/boot-framework.oat", 0, 4096⟩)

def timestampResolvedProbe : ResolvedProbe where
  methodDescriptor := ⟨"android.os.Binder", "execTransact", []⟩
  offsets := ⟨"/system/framework/arm64/boot-framework.oat", 0, 4096⟩
  bpfProgramPath := prefixBpf (callTimestampName 0)
  binderTransactionFilters := ∅

def timestampTask (config : Proto.StatsdLoggingConfig) : ResolvedTask where
  id := 0
  duration := Duration.fromSecs 1
  resolvedProcess := ⟨1, 1000, "system_server"⟩
  bpfMapPaths := ∅
  statsdLoggingConfig := some config
  resolvedProbes := [timestampResolvedProbe]

theorem resolveConfig_timestampEnv (config : Proto.StatsdLoggingConfig) (bytes : List UInt8) :
    resolveConfig (timestampEnv config) bytes = .ok (timestampTask config) := by
  have hduration : resolveDuration (some 1) = .ok (Duration.fromSecs 1) := rfl
  refine resolveConfig_eq_ok rfl rfl rfl ?_
  simp only [resolveSingleTask, hduration]
  rfl

theorem resolved_timestampTask (config : Proto.StatsdLoggingConfig) :
    Resolved (timestampTask config) := by
  refine ⟨timestampEnv config, [], timestampTask config, resolveConfig_timestampEnv config [],
    ?_, rfl⟩
  refine List.forall₂_same.2 fun probe hprobe => ⟨rfl, rfl, rfl, fun name => ?_⟩
  obtain rfl := List.mem_singleton.1 hprobe
  exact Option.Rel.none

theorem neverBlamesConfig_timestamp :
    NeverBlamesConfig .front (timestampTask { atomId := some 915 }) := by
  refine (neverBlamesConfig_iff_suffices .front (resolved_timestampTask _)).2 fun _ => ?_
  have hatom : StatsdSuffices (timestampTask { atomId := some 915 }) := by
    rintro config hconfig
    cases hconfig
    exact ⟨915, rfl, by decide, by decide⟩
  refine ⟨fun _ _ _ => hatom, fun _ _ _ config hconfig => ?_, ?_⟩
  · obtain ⟨atomId, hid, hfits⟩ := hatom config hconfig
    exact ⟨atomId, hid, .inl hfits⟩
  · intro filter hfilter
    cases hfilter

/-- A config without an id for its atom is accepted, and the first record is
an error. -/
theorem missingAtomId_blamed :
    (∀ bytes, resolveConfig (timestampEnv {}) bytes = .ok (timestampTask {})) ∧
      ¬ NeverBlamesConfig .front (timestampTask {}) := by
  refine ⟨resolveConfig_timestampEnv {}, ?_⟩
  intro hnever
  have hblameless := hnever false ∅ rfl timestampResolvedProbe List.mem_cons_self _
    (.callTimestamp 0 0 rfl) .succeeding Environment.succeeding_succeeds
  obtain ⟨atomId, hid, _⟩ := (callTimestamp_blameless_iff _ _ _).1 hblameless {} rfl
  cases hid

end UprobeStats
