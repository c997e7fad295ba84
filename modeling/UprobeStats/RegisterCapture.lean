/-
The registers of a call, from the program that copies them to the handler that
logs some of them.  The bound of the copy loop, the size of the array and the
offset of the first argument are three constants, and the positions come from
the config.
-/
import UprobeStats.ConfigFaults
import UprobeStats.Lib.Checked

namespace UprobeStats

open Checked Daemon Traced

/-! The program. -/

/-- `struct pt_regs_x86_supported`, as far as it is copied. -/
structure PtRegsX86Supported where
  regs : Fin 16 → UInt64

/-- What the program sees of the registers. -/
def PtRegs.x86Supported (ctx : PtRegs) : PtRegsX86Supported :=
  ⟨fun register => ctx.regs ⟨register, by omega⟩⟩

/-- The loop of `uprobe/call_detail`, on the array of its `CallResult`. -/
def copyRegs (ctx : PtRegsX86Supported) : Prog (Fin 10 → UInt64) Empty Nat PUnit :=
  Prog.copyFrom ctx.regs 0 11

/-- The first ten rounds of the loop fill the array that is submitted. -/
theorem copyRegs_ten (ctx : PtRegs) (pc : UInt64) (regs : Fin 10 → UInt64) :
    (Prog.copyFrom ctx.x86Supported.regs 0 10 : Prog _ Empty Nat PUnit) regs =
      (.ok ⟨⟩, (callDetail ctx pc).regs) := by
  have hdoes : (Prog.copyFrom ctx.x86Supported.regs 0 10 : Prog _ Empty Nat PUnit).Does regs _ _ :=
    Prog.Does.copyFrom ctx.x86Supported.regs 0 10 (by decide) regs
  rw [hdoes.ends_ok (by decide)]
  congr 1
  funext register
  rw [dif_pos (by omega)]
  rfl

/-- The eleventh round writes behind it. -/
theorem copyRegs_not_safe (ctx : PtRegsX86Supported) (regs : Fin 10 → UInt64) :
    ¬ (copyRegs ctx).Safe regs := by
  rw [copyRegs, (Prog.Does.copyFrom ctx.regs 0 11 (by decide) regs).safe_iff]
  decide

/-! The handler. -/

instance (position : Int32) : Decidable (HasRegister position) :=
  inferInstanceAs (Decidable (_ ∧ _))

/-- The field is the register of the position. -/
def IsRegisterOf (data : CallResult) (position : Int32) (field : Field) : Prop :=
  ∃ register : Fin 10, (register : Int) = javaArgumentRegisterOffset + position.toInt ∧
    field = .new (.int64 (data.regs register).toInt64)

/-- The first position that has no register. -/
def firstWithoutRegister (positions : List Int32) : Option Int32 :=
  positions.find? fun position => ¬ HasRegister position

theorem argumentField_of_register (data : CallResult) {position : Int32}
    (hregister : HasRegister position) :
    ∃ field, argumentField data position = pure field ∧ IsRegisterOf data position field := by
  obtain ⟨hlow, hhigh⟩ := hregister
  have hindex : (javaArgumentRegisterOffset + position.toInt).toNat < 10 := by omega
  unfold argumentField
  dsimp only
  rw [if_neg (by omega), if_neg (by omega), dif_pos hindex]
  refine ⟨_, rfl, ⟨_, hindex⟩, ?_, rfl⟩
  exact Int.toNat_of_nonneg hlow

theorem argumentField_of_low (data : CallResult) {position : Int32}
    (hlow : position.toInt < -2) : ∃ fault, argumentField data position = Run.fail fault := by
  unfold argumentField javaArgumentRegisterOffset
  dsimp only
  rw [if_neg (by omega), if_pos (by omega)]
  exact ⟨_, rfl⟩

theorem argumentField_of_high (data : CallResult) {position : Int32}
    (hhigh : 8 ≤ position.toInt) : argumentField data position = Run.silent .panic := by
  unfold argumentField javaArgumentRegisterOffset
  dsimp only
  split
  · rfl
  · rw [if_neg (by omega), dif_neg (by omega)]

theorem low_or_high {position : Int32} (hregister : ¬ HasRegister position) :
    position.toInt < -2 ∨ 8 ≤ position.toInt := by
  unfold HasRegister javaArgumentRegisterOffset at hregister
  omega

/-- The loop gets through, or it ends at the first position that has no
register. -/
theorem argumentFields_cases_find (data : CallResult) (positions : List Int32) :
    (firstWithoutRegister positions = none ∧ ∃ fields,
      argumentFields data positions = pure fields ∧
        List.Forall₂ (IsRegisterOf data) positions fields) ∨
    (∃ position, firstWithoutRegister positions = some position ∧ position.toInt < -2 ∧
      ∃ fault, (argumentFields data positions).outcome = .error fault) ∨
    (∃ position, firstWithoutRegister positions = some position ∧ 8 ≤ position.toInt ∧
      (argumentFields data positions).outcome = .panic) := by
  induction positions with
  | nil => exact .inl ⟨rfl, [], rfl, .nil⟩
  | cons position rest ih =>
      by_cases hregister : HasRegister position
      · obtain ⟨field, hfield, hvalue⟩ := argumentField_of_register data hregister
        have hfind : firstWithoutRegister (position :: rest) = firstWithoutRegister rest := by
          simp [firstWithoutRegister, hregister]
        rw [hfind, argumentFields, hfield]
        rcases ih with ⟨hnone, fields, hfields, hvalues⟩ | ⟨other, hother, hlow, fault, hfault⟩ |
          ⟨other, hother, hhigh, hpanic⟩
        · refine .inl ⟨hnone, field :: fields, ?_, .cons hvalue hvalues⟩
          rw [hfields]
          rfl
        · refine .inr (.inl ⟨other, hother, hlow, fault, ?_⟩)
          exact Run.outcome_bind_of_error hfault _
        · refine .inr (.inr ⟨other, hother, hhigh, ?_⟩)
          rw [Run.outcome_bind_of_ok rfl]
          simp only [Run.bind_def, Run.bind, hpanic]
      · have hfind : firstWithoutRegister (position :: rest) = some position := by
          simp [firstWithoutRegister, hregister]
        rw [hfind, argumentFields]
        rcases low_or_high hregister with hlow | hhigh
        · obtain ⟨fault, hfault⟩ := argumentField_of_low data hlow
          rw [hfault]
          exact .inr (.inl ⟨position, rfl, hlow, fault, rfl⟩)
        · rw [argumentField_of_high data hhigh]
          exact .inr (.inr ⟨position, rfl, hhigh, rfl⟩)

/-- What a record of a call is logged as: an atom that is written has one field
for each position, and every position is that of an argument. -/
structure LogsArguments (env : Environment) (task : ResolvedTask) (data : CallResult) :
    Prop where
  noPanic : (CallResultHandler.onItem env task data).outcome ≠ .panic
  fields : (CallResultHandler.onItem env task data).outcome = .ok () →
    ∀ atom, .unstructured atom ∈ (CallResultHandler.onItem env task data).trace →
      ∃ config, task.statsdLoggingConfig = some config ∧
        List.Forall₂ (fun position field => 0 ≤ position.toInt ∧ IsRegisterOf data position field)
          config.primitiveArgumentPositions atom.fields

/-- The positions stop the handler before it gets to one beyond the registers,
or all of them are positions of arguments. -/
def PositionsSuffice (atomId : Int64) (positions : List Int32) : Prop :=
  match firstWithoutRegister positions with
  | some position => position.toInt < -2
  | none => FitsU32 atomId → ∀ position ∈ positions, 0 ≤ position.toInt

/-- The positions suffice, if anything is logged. -/
def ArgumentsSuffice (task : ResolvedTask) : Prop :=
  ∀ config atomId, task.statsdLoggingConfig = some config → config.atomId = some atomId →
    PositionsSuffice atomId config.primitiveArgumentPositions

section Handler

variable {env : Environment} {task : ResolvedTask} {data : CallResult}

variable (env data) in
theorem onItem_of_config {config : Proto.StatsdLoggingConfig} {atomId : Int64}
    (hconfig : task.statsdLoggingConfig = some config) (hid : config.atomId = some atomId) :
    CallResultHandler.onItem env task data =
      argumentFields data config.primitiveArgumentPositions >>= fun fields =>
        atomIdTryInto atomId >>= fun atomId =>
          (env.writeUnstructured 0 ⟨atomId, fields⟩).mapErr .other := by
  unfold CallResultHandler.onItem requiredAtomId
  simp only [hconfig, hid]
  rfl

theorem outcome_write_ne_panic (atom : UnstructuredAtom) :
    ((env.writeUnstructured 0 atom).mapErr HandlerFault.other).outcome ≠ .panic := by
  unfold Environment.writeUnstructured Environment.ask
  cases env.onWrite 0 <;>
    simp [Run.mapErr, Run.bind_def, Run.bind, Run.emit, Run.ofExcept, foreign]

theorem trace_write (atom : UnstructuredAtom) :
    ((env.writeUnstructured 0 atom).mapErr HandlerFault.other).trace = [.unstructured atom] := by
  rw [Run.trace_mapErr]
  unfold Environment.writeUnstructured Environment.ask
  rw [Run.trace_bind_emit, Run.trace_ofExcept]

/-- Without an id there is nothing to log to. -/
theorem logsArguments_of_not_configured
    (hnone : ∀ config atomId, task.statsdLoggingConfig = some config →
      config.atomId ≠ some atomId) : LogsArguments env task data := by
  cases hconfig : task.statsdLoggingConfig with
  | none =>
      refine ⟨by simp [CallResultHandler.onItem, hconfig, pure], ?_⟩
      intro _ atom hatom
      simp [CallResultHandler.onItem, hconfig, pure] at hatom
  | some config =>
      cases hid : config.atomId with
      | some atomId => exact absurd hid (hnone config atomId hconfig)
      | none =>
          have hfault : (CallResultHandler.onItem env task data).outcome =
              .error .atomIdRequired := by
            simp only [CallResultHandler.onItem, hconfig, requiredAtomId, hid]
            exact Run.outcome_bind_of_error rfl _
          refine ⟨by simp [hfault], ?_⟩
          intro hok
          simp [hfault] at hok

/-- Without a register for some position no atom is written. -/
theorem logsArguments_iff_of_first {config : Proto.StatsdLoggingConfig} {atomId : Int64}
    {position : Int32} (hconfig : task.statsdLoggingConfig = some config)
    (hid : config.atomId = some atomId)
    (hfirst : firstWithoutRegister config.primitiveArgumentPositions = some position) :
    LogsArguments env task data ↔ position.toInt < -2 := by
  have hitem := onItem_of_config env data hconfig hid
  rcases argumentFields_cases_find data config.primitiveArgumentPositions with
    ⟨hnone, -⟩ | ⟨other, hother, hlow, fault, hfault⟩ | ⟨other, hother, hhigh, hpanic⟩
  · rw [hfirst] at hnone
    cases hnone
  · obtain rfl : position = other := by simpa [hfirst] using hother
    have hfailed : (CallResultHandler.onItem env task data).outcome = .error fault := by
      rw [hitem]
      exact Run.outcome_bind_of_error hfault _
    simp only [hlow, iff_true]
    refine ⟨by simp [hfailed], fun hok => ?_⟩
    simp [hfailed] at hok
  · obtain rfl : position = other := by simpa [hfirst] using hother
    have hfailed : (CallResultHandler.onItem env task data).outcome = .panic := by
      rw [hitem]
      simp only [Run.bind_def, Run.bind, hpanic]
    constructor
    · exact fun hlogs => absurd hfailed hlogs.noPanic
    · omega

/-- Where every position has a register, the atom has them all. -/
theorem logsArguments_of_registers {config : Proto.StatsdLoggingConfig} {atomId : Int64}
    (hconfig : task.statsdLoggingConfig = some config) (hid : config.atomId = some atomId)
    (hfirst : firstWithoutRegister config.primitiveArgumentPositions = none)
    (harguments : FitsU32 atomId →
      ∀ position ∈ config.primitiveArgumentPositions, 0 ≤ position.toInt) :
    LogsArguments env task data := by
  have hitem := onItem_of_config env data hconfig hid
  rcases argumentFields_cases_find data config.primitiveArgumentPositions with
    ⟨-, fields, hfields, hvalues⟩ | ⟨other, hother, -⟩ | ⟨other, hother, -⟩
  · rw [hfields] at hitem
    by_cases hfits : FitsU32 atomId
    · rw [atomIdTryInto_of_fits hfits] at hitem
      replace hitem : CallResultHandler.onItem env task data =
          (env.writeUnstructured 0 ⟨UInt32.ofNat atomId.toInt.toNat, fields⟩).mapErr .other := hitem
      refine ⟨hitem ▸ outcome_write_ne_panic _, ?_⟩
      intro _ atom hatom
      rw [hitem, trace_write, List.mem_singleton, Sent.unstructured.injEq] at hatom
      subst hatom
      exact ⟨config, hconfig, (List.forall₂_and_left _ _).2 ⟨harguments hfits, hvalues⟩⟩
    · rw [atomIdTryInto_of_not_fits hfits] at hitem
      replace hitem : CallResultHandler.onItem env task data = Run.fail .atomIdOutOfRange := hitem
      refine ⟨by simp [hitem, Run.fail], ?_⟩
      intro hok
      simp [hitem, Run.fail] at hok
  · rw [hfirst] at hother
    cases hother
  · rw [hfirst] at hother
    cases hother

/-- An atom that is written has only fields of arguments. -/
theorem nonneg_of_logsArguments {config : Proto.StatsdLoggingConfig} {atomId : Int64}
    (hconfig : task.statsdLoggingConfig = some config) (hid : config.atomId = some atomId)
    (hfirst : firstWithoutRegister config.primitiveArgumentPositions = none)
    (hwrite : env.onWrite 0 = .ok ()) (hfits : FitsU32 atomId)
    (hlogs : LogsArguments env task data) :
    ∀ position ∈ config.primitiveArgumentPositions, 0 ≤ position.toInt := by
  have hitem := onItem_of_config env data hconfig hid
  rcases argumentFields_cases_find data config.primitiveArgumentPositions with
    ⟨-, fields, hfields, -⟩ | ⟨other, hother, -⟩ | ⟨other, hother, -⟩
  · rw [hfields, atomIdTryInto_of_fits hfits] at hitem
    replace hitem : CallResultHandler.onItem env task data =
        (env.writeUnstructured 0 ⟨UInt32.ofNat atomId.toInt.toNat, fields⟩).mapErr .other := hitem
    have hok : (CallResultHandler.onItem env task data).outcome = .ok () := by
      rw [hitem, Run.outcome_mapErr_eq_ok_iff]
      simp [Environment.writeUnstructured, Environment.ask, hwrite, foreign, Run.bind_def, Run.bind,
        Run.emit, Run.ofExcept]
    obtain ⟨config', hconfig', hall⟩ := hlogs.fields hok _ (by
      rw [hitem, trace_write]
      exact List.mem_singleton_self _)
    rw [hconfig] at hconfig'
    cases hconfig'
    exact ((List.forall₂_and_left _ _).1 hall).1
  · rw [hfirst] at hother
    cases hother
  · rw [hfirst] at hother
    cases hother

end Handler

theorem logsArguments_iff (task : ResolvedTask) (data : CallResult) :
    (∀ env, LogsArguments env task data) ↔ ArgumentsSuffice task := by
  constructor
  · intro hlogs config atomId hconfig hid
    unfold PositionsSuffice
    split
    · rename_i position hfirst
      exact (logsArguments_iff_of_first hconfig hid hfirst).1 (hlogs .succeeding)
    · rename_i hfirst
      intro hfits
      exact nonneg_of_logsArguments hconfig hid hfirst rfl hfits (hlogs .succeeding)
  · intro hsuffice env
    by_cases hnone : ∃ config atomId, task.statsdLoggingConfig = some config ∧
        config.atomId = some atomId
    · obtain ⟨config, atomId, hconfig, hid⟩ := hnone
      have hpositions := hsuffice config atomId hconfig hid
      unfold PositionsSuffice at hpositions
      split at hpositions
      · rename_i position hfirst
        exact (logsArguments_iff_of_first hconfig hid hfirst).2 hpositions
      · rename_i hfirst
        exact logsArguments_of_registers hconfig hid hfirst hpositions
    · refine logsArguments_of_not_configured fun config atomId hconfig hid => ?_
      exact hnone ⟨config, atomId, hconfig, hid⟩

/-- The copy loop leaves the array in every context.  A record is logged as its
arguments, whatever its registers are, when the positions in the config
suffice. -/
theorem registers_captured_iff (ctx : PtRegsX86Supported) (regs : Fin 10 → UInt64)
    (task : ResolvedTask) (data : CallResult) :
    ¬ (copyRegs ctx).Safe regs ∧
      ((∀ env, LogsArguments env task data) ↔ ArgumentsSuffice task) :=
  ⟨copyRegs_not_safe ctx regs, logsArguments_iff task data⟩

/-! A task with one probe, which logs arguments of its calls. -/

def detailEnv (config : Proto.StatsdLoggingConfig) : ResolveEnv where
  parseFromBytes _ := .ok { tasks := [{
    probeConfigs := [{ timestampProbe with bpfName := some callDetailName }]
    durationSeconds := some 1
    statsdLoggingConfig := some config }] }
  isUserBuild := false
  flags := allFlags
  resolveProcess _ _ _ := .ok ⟨1, 1000, "system_server"⟩
  resolveOffsets _ _ := .ok (some ⟨"/system/framework/arm64/boot-framework.oat", 0, 4096⟩)

def detailTask (config : Proto.StatsdLoggingConfig) : ResolvedTask :=
  { timestampTask config with
    resolvedProbes := [{ timestampResolvedProbe with bpfProgramPath := prefixBpf callDetailName }] }

theorem resolveConfig_detailEnv (config : Proto.StatsdLoggingConfig) (bytes : List UInt8) :
    resolveConfig (detailEnv config) bytes = .ok (detailTask config) := by
  have hduration : resolveDuration (some 1) = .ok (Duration.fromSecs 1) := rfl
  refine resolveConfig_eq_ok rfl rfl rfl ?_
  simp only [resolveSingleTask, hduration]
  rfl

/-- A config that logs the argument in one position. -/
def loggingPosition (position : Int32) : Proto.StatsdLoggingConfig where
  atomId := some 915
  primitiveArgumentPositions := [position]

/-- The ninth argument has no register, and the position before the first is
that of the receiver. -/
theorem registers_not_captured :
    (∀ position bytes, resolveConfig (detailEnv (loggingPosition position)) bytes =
      .ok (detailTask (loggingPosition position))) ∧
    (CallResultHandler.onItem .succeeding (detailTask (loggingPosition 8))
      ⟨0, fun _ => 0⟩).outcome = .panic ∧
    CallResultHandler.onItem .succeeding (detailTask (loggingPosition (-1)))
      ⟨0, fun register => UInt64.ofNat register⟩ =
        ⟨[.unstructured ⟨915, [.new (.int64 1)]⟩], .ok ()⟩ ∧
    ¬ (copyRegs ⟨fun _ => 0⟩).Safe (fun _ => 0) := by
  refine ⟨fun position bytes => resolveConfig_detailEnv _ bytes, rfl, rfl, ?_⟩
  exact copyRegs_not_safe _ _

end UprobeStats
