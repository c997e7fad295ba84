/-
The handlers that do what the config of the task tells them, and the programs
whose records they get.  The resolver has accepted the config without looking
at everything they need from it, so each of their errors is kept apart by the
place it comes from.
-/
import UprobeStats.BinderProgram
import UprobeStats.Sending

namespace UprobeStats

open Bytes Memory Traced

/-- The errors of the handlers.  The first five are about a value of the
config. -/
inductive HandlerFault where
  | atomIdRequired
  | atomIdOutOfRange
  | unknownAtomFieldPosition
  | codeOutOfRange
  | noConfigFound (interfaceDescriptor : String) (code : UInt64)
  | other (error : AnyError)
deriving DecidableEq, Repr

def HandlerFault.toAnyError : HandlerFault → AnyError
  | atomIdRequired => .message "atom_id required if statsd_logging_config provided"
  | atomIdOutOfRange => .message "out of range integral type conversion attempted"
  | unknownAtomFieldPosition => .message "Unknown atom field position"
  | codeOutOfRange => .message "out of range integral type conversion attempted"
  | noConfigFound interfaceDescriptor code =>
      .message ("No config found for binder transaction: interface_descriptor=" ++
        interfaceDescriptor ++ ", code=" ++ toString code)
  | other error => error

/-- The error is about a value of the config. -/
def HandlerFault.IsAboutConfig : HandlerFault → Prop
  | other _ => False
  | _ => True

/-- An error that has nothing to do with the config. -/
def otherwise {α : Type} (answer : Except AnyError α) : Run Sent HandlerFault α :=
  (Run.ofExcept answer).mapErr .other

/-! Handlers of plain records, which log to the atom of `statsd_logging_config`. -/

/-- `struct CallTimestamp`. -/
structure CallTimestamp where
  event : UInt32
  timestampNs : UInt64
deriving DecidableEq, Repr

/-- `struct CallResult`. -/
structure CallResult where
  pc : UInt64
  regs : Fin 10 → UInt64

/-- `struct SetUidTempAllowlistStateRecord`. -/
structure SetUidTempAllowlistStateRecord where
  uid : UInt64
  onAllowlist : Bool
deriving DecidableEq, Repr

/-- `struct UpdateDeviceIdleTempAllowlistRecord`, less its first field, which
only a program for tests writes and nobody reads. -/
structure UpdateDeviceIdleTempAllowlistRecord where
  changingUid : Int32
  adding : Bool
  durationMs : Int64
  type : Int32
  reasonCode : Int32
  reason : List UInt8
  callingUid : Int32
deriving DecidableEq, Repr

section Statsd

variable (env : Environment)

/-- `atom_id.ok_or(..)?`. -/
def requiredAtomId (config : Proto.StatsdLoggingConfig) : Run Sent HandlerFault Int64 :=
  match config.atomId with
  | none => Run.fail .atomIdRequired
  | some atomId => pure atomId

/-- `atom_id.try_into()?`. -/
def atomIdTryInto (atomId : Int64) : Run Sent HandlerFault UInt32 :=
  if 0 ≤ atomId.toInt ∧ atomId.toInt < 2 ^ 32 then pure (UInt32.ofNat atomId.toInt.toNat)
  else Run.fail .atomIdOutOfRange

/-- The handlers that build the atom from its id on. -/
def logToStatsd (task : ResolvedTask) (fields : Run Sent HandlerFault (List Field)) :
    Run Sent HandlerFault Unit :=
  match task.statsdLoggingConfig with
  | none => return ()
  | some statsdLoggingConfig => do
      let atomId ← requiredAtomId statsdLoggingConfig
      let atomId ← atomIdTryInto atomId
      let fields ← fields
      (env.writeUnstructured 0 ⟨atomId, fields⟩).mapErr .other

/-- `CallTimestampHandler::on_item`. -/
def CallTimestampHandler.onItem (task : ResolvedTask) (data : CallTimestamp) :
    Run Sent HandlerFault Unit :=
  logToStatsd env task (pure [
    .new (.int32 data.event.toInt32),
    .new (.int64 data.timestampNs.toInt64)])

/-- `SetUidTempAllowlistStateRecordHandler::on_item`. -/
def SetUidTempAllowlistStateRecordHandler.onItem (task : ResolvedTask)
    (data : SetUidTempAllowlistStateRecord) : Run Sent HandlerFault Unit :=
  logToStatsd env task do
    let uid ← otherwise (tryIntoI32 data.uid.toNat)
    return [.new (.int32 uid), .new (.bool data.onAllowlist)]

/-- `UpdateDeviceIdleTempAllowlistRecordHandler::on_item`. -/
def UpdateDeviceIdleTempAllowlistRecordHandler.onItem (task : ResolvedTask)
    (data : UpdateDeviceIdleTempAllowlistRecord) : Run Sent HandlerFault Unit :=
  logToStatsd env task do
    let reason ← otherwise (bytesAsStr data.reason)
    return [
      .new (.int32 data.changingUid),
      .new (.bool data.adding),
      .new (.int64 data.durationMs),
      .new (.int32 data.type),
      .new (.int32 data.reasonCode),
      .new (.string reason),
      .new (.int32 data.callingUid)]

/-- `JAVA_ARGUMENT_REGISTER_OFFSET`. -/
def javaArgumentRegisterOffset : Int := 2

/-- The field of one argument position.  The sum is an `i32`, which panics when
it overflows; a negative sum is no `usize`, and a large one is no index. -/
def argumentField (data : CallResult) (position : Int32) : Run Sent HandlerFault Field :=
  let registerIndex := javaArgumentRegisterOffset + position.toInt
  if 2 ^ 31 ≤ registerIndex then Run.silent .panic
  else if registerIndex < 0 then
    Run.fail (.other (.message "out of range integral type conversion attempted"))
  else if hindex : registerIndex.toNat < 10 then
    pure (.new (.int64 (data.regs ⟨registerIndex.toNat, hindex⟩).toInt64))
  else Run.silent .panic

/-- The loop over `primitive_argument_positions`. -/
def argumentFields (data : CallResult) : List Int32 → Run Sent HandlerFault (List Field)
  | [] => return []
  | position :: rest => do
      let field ← argumentField data position
      let fields ← argumentFields data rest
      return field :: fields

/-- `CallResultHandler::on_item`, which converts the id after the fields. -/
def CallResultHandler.onItem (task : ResolvedTask) (data : CallResult) :
    Run Sent HandlerFault Unit :=
  match task.statsdLoggingConfig with
  | none => return ()
  | some statsdLoggingConfig => do
      let atomId ← requiredAtomId statsdLoggingConfig
      let fields ← argumentFields data statsdLoggingConfig.primitiveArgumentPositions
      let atomId ← atomIdTryInto atomId
      (env.writeUnstructured 0 ⟨atomId, fields⟩).mapErr .other

end Statsd

/-! The handler of binder transactions. -/

namespace BinderTransactionHandler

variable (env : Environment)

/-- The field of one position of the atom. -/
def positionField (uid : Int32) (interfaceName : String) (code : Int32) (timestampNs : Int64) :
    AtomFieldPosition → Run Sent HandlerFault Field
  | .callingUid => pure (Field.newWithAnnotation (.int32 uid) (.isUid true))
  | .interfaceName => pure (.new (.string interfaceName))
  | .code => pure (.new (.int32 code))
  | .ktimeNs => pure (.new (.int64 timestampNs))
  | .unknown => Run.fail .unknownAtomFieldPosition

/-- The fields, up to the first that is an error. -/
def positionFields (uid : Int32) (interfaceName : String) (code : Int32) (timestampNs : Int64) :
    List AtomFieldPosition → Run Sent HandlerFault (List Field)
  | [] => return []
  | position :: rest => do
      let field ← positionField uid interfaceName code timestampNs position
      let fields ← positionFields uid interfaceName code timestampNs rest
      return field :: fields

/-- `write_to_statsd`. -/
def writeToStatsd (atomConfig : AtomConfig) (uid : Int32) (interfaceName : String) (code : Int32)
    (timestampNs : Int64) : Run Sent HandlerFault Unit := do
  let fields ← positionFields uid interfaceName code timestampNs atomConfig.atomFieldPositions
  (env.writeUnstructured 0 ⟨atomConfig.atomId, fields⟩).mapErr .other

/-- `enqueue_event`. -/
def enqueueEvent (uid : Int32) (timestampMs : Int64) (interfaceName : String) (code : Int32)
    (flush : Bool) : Run Sent AnyError Unit := do
  env.get 0
  env.enqueueEvent {
    uid := uid
    timestampMs := timestampMs
    payloadId := DynamicInstrumentationPayloadIds.binderTransaction.toInt32
    payload := [
      ⟨"INTERFACE_NAME", .stringValue interfaceName⟩,
      ⟨"CODE", .intValue code⟩] } flush

/-- The method config for a name and a code: the first probe whose filters have
both. -/
def findMethod (task : ResolvedTask) (name : String) (code : UInt64) : Option MethodConfig :=
  (task.resolvedProbes.filterMap fun probe =>
    probe.binderTransactionFilters.lookup name).findSome? fun interfaceConfig =>
      interfaceConfig.getMethod code

/-- The atom, if the method has one. -/
def reportAtom (item : BinderTransaction) (name : String) (code : Int32) :
    Option AtomConfig → Run Sent HandlerFault Unit
  | none => return ()
  | some atomConfig => do
      let timestampNs ← otherwise (tryIntoI64 item.timestampNs.toNat)
      writeToStatsd env atomConfig item.callingUid name code timestampNs

/-- The event, if the method has one. -/
def reportEvent (item : BinderTransaction) (name : String) (code : Int32) :
    Option EventServiceConfig → Run Sent HandlerFault Unit
  | none => return ()
  | some eventServiceConfig => do
      let timestampMs ← (Run.silent (getCurrentTimestampMillis env.sinceEpoch)).mapErr .other
      (enqueueEvent env item.callingUid timestampMs name code
        (decide (eventServiceConfig.mode = .flush))).mapErr .other

/-- The two things that can be configured for a method. -/
def report (item : BinderTransaction) (name : String) (code : Int32)
    (methodConfig : MethodConfig) : Run Sent HandlerFault Unit := do
  reportAtom env item name code methodConfig.atomConfig
  reportEvent env item name code methodConfig.eventServiceConfig

/-- `on_item`. -/
def onItem (task : ResolvedTask) (item : BinderTransaction) : Run Sent HandlerFault Unit := do
  let name ← otherwise (bytesAsNonemptyStr item.interfaceDescriptor)
  match findMethod task name item.code with
  | none => Run.fail (.noConfigFound name item.code)
  | some methodConfig =>
      if item.code.toNat < 2 ^ 31 then
        report env item name (Int32.ofNat item.code.toNat) methodConfig
      else Run.fail .codeOutOfRange

end BinderTransactionHandler

/-! The programs, as far as they submit a record. -/

/-- The programs `uprobe/call_timestamp`, `uprobe/call_timestamp_1` and so on. -/
def callTimestampName (event : Fin 6) : String :=
  if event = 0 then "prog_GenericInstrumentation_uprobe_call_timestamp"
  else "prog_GenericInstrumentation_uprobe_call_timestamp_" ++ toString event

def callTimestamp (event : Fin 6) (ktimeGetNs : UInt64) : CallTimestamp :=
  ⟨UInt32.ofNat event, ktimeGetNs⟩

def callDetailName : String := "prog_GenericInstrumentation_uprobe_call_detail"

/-- `uprobe/call_detail`. -/
def callDetail (ctx : PtRegs) (pc : UInt64) : CallResult :=
  ⟨pc, fun register => ctx.regs ⟨register, by omega⟩⟩

def setUidTempAllowlistStateName : String :=
  "prog_ProcessManagement_uprobe_set_uid_temp_allowlist_state"

/-- `uprobe/set_uid_temp_allowlist_state`. -/
def setUidTempAllowlistState (ctx : PtRegs) : SetUidTempAllowlistStateRecord :=
  ⟨ctx.regs 2, decide (ctx.regs 3 ≠ 0)⟩

def updateDeviceIdleTempAllowlistName : String :=
  "prog_ProcessManagement_uprobe_update_device_idle_temp_allowlist"

/-- `uprobe/update_device_idle_temp_allowlist`.  The reason goes over the bytes
that the ring buffer had there. -/
def updateDeviceIdleTempAllowlist (ctx : StackRegs) (mem : Image) (priorReason : List UInt8) :
    UpdateDeviceIdleTempAllowlistRecord where
  changingUid := (ctx.regs 3).toUInt32.toInt32
  adding := decide (ctx.regs 4 ≠ 0)
  durationMs := (ctx.regs 5).toInt64
  type := (ctx.regs 6).toUInt32.toInt32
  reasonCode := (ctx.regs 7).toUInt32.toInt32
  reason := (recordStringArgFromSp mem ctx 256 40 priorReason).2
  callingUid := (UInt32.ofNat (ofLittleEndian
    (bpfProbeReadUser mem 4 (ctx.sp + 44)).2)).toInt32

/-- A record of one of the programs. -/
inductive TaskRecord where
  | binderTransaction (record : BinderTransaction)
  | callTimestamp (record : CallTimestamp)
  | callResult (record : CallResult)
  | setUidTempAllowlistState (record : SetUidTempAllowlistStateRecord)
  | updateDeviceIdleTempAllowlist (record : UpdateDeviceIdleTempAllowlistRecord)

/-- `on_item` of the handler that the record goes to. -/
def TaskRecord.onItem (env : Environment) (task : ResolvedTask) :
    TaskRecord → Run Sent HandlerFault Unit
  | .binderTransaction record => BinderTransactionHandler.onItem env task record
  | .callTimestamp record => CallTimestampHandler.onItem env task record
  | .callResult record => CallResultHandler.onItem env task record
  | .setUidTempAllowlistState record =>
      SetUidTempAllowlistStateRecordHandler.onItem env task record
  | .updateDeviceIdleTempAllowlist record =>
      UpdateDeviceIdleTempAllowlistRecordHandler.onItem env task record

/-- The records that the program of a probe can submit while `interfaces` is
installed. -/
inductive Emits (interfaces : InterfacesMap) (probe : ResolvedProbe) : TaskRecord → Prop where
  | execTransactInternal {mem : Image} {ctx : PtRegs} {ktimeGetNs : UInt64}
      {record : BinderTransaction}
      (path : probe.bpfProgramPath = prefixBpf binderBpfProgramName)
      (submitted :
        (execTransactInternal interfaces mem true ktimeGetNs ctx).2 = some record) :
      Emits interfaces probe (.binderTransaction record)
  | callTimestamp (event : Fin 6) (ktimeGetNs : UInt64)
      (path : probe.bpfProgramPath = prefixBpf (callTimestampName event)) :
      Emits interfaces probe (.callTimestamp (callTimestamp event ktimeGetNs))
  | callDetail (ctx : PtRegs) (pc : UInt64)
      (path : probe.bpfProgramPath = prefixBpf callDetailName) :
      Emits interfaces probe (.callResult (callDetail ctx pc))
  | setUidTempAllowlistState (ctx : PtRegs)
      (path : probe.bpfProgramPath = prefixBpf setUidTempAllowlistStateName) :
      Emits interfaces probe (.setUidTempAllowlistState (setUidTempAllowlistState ctx))
  | updateDeviceIdleTempAllowlist (ctx : StackRegs) (mem : Image) (priorReason : List UInt8)
      (length_eq : priorReason.length = 256)
      (path : probe.bpfProgramPath = prefixBpf updateDeviceIdleTempAllowlistName) :
      Emits interfaces probe
        (.updateDeviceIdleTempAllowlist (updateDeviceIdleTempAllowlist ctx mem priorReason))

end UprobeStats
