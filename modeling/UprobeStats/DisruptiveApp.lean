/-
Disabled launcher activities and services bound with permission to start
activities from the background: the two programs that record the calls, and
the handlers that report them.  The names of packages and classes are for
builds that are not user builds; a user build reports uids only.
-/
import UprobeStats.BpfFns
import UprobeStats.Sending
import UprobeStats.Strings

namespace UprobeStats.DisruptiveApp

open Memory Traced

/-- `char [MAX_STRING_LENGTH]`. -/
abbrev CharArray := { bytes : List UInt8 // bytes.length = maxStringLength }

/-- `struct ComponentEnabledSetting`. -/
structure ComponentEnabledSetting where
  errorCode : Int64
  packageName : CharArray
  className : CharArray
  newState : Int32
  callingPackageName : CharArray

/-- `struct BindServiceLocked`. -/
structure BindServiceLocked where
  errorCode : Int64
  intentAction : CharArray
  intentPackage : CharArray
  intentComponentNamePackage : CharArray
  intentComponentNameClass : CharArray
  bindFlags : Int64
  callingPackage : CharArray

/-! The programs. -/

def kIntentPackageOffset : UInt64 := 48
def kIntentComponentNameOffset : UInt64 := 20
def kIntentActionOffset : UInt64 := 8
def kComponentNameClassOffset : UInt64 := 8
def kComponentNamePackageOffset : UInt64 := 12
def kCallingPackageStackFrameOffset : UInt64 := 60
def kBindAllowBackgroundActivityStartsFlag : UInt64 := 0x00100000

/-- `recordString` into an array of a record, of which it uses the first
`maxLength` bytes. -/
def recordInto (mem : Image) (jstring : UInt64) (maxLength : Nat)
    (hlength : 0 < maxLength ∧ maxLength ≤ maxStringLength) (dest : CharArray) : Int × CharArray :=
  ((recordString mem jstring maxLength dest.1).1,
    ⟨(recordString mem jstring maxLength dest.1).2, by
      rw [length_recordString hlength.1 (hlength.2.trans dest.2.ge), dest.2]⟩)

theorem wholeArray : 0 < maxStringLength ∧ maxStringLength ≤ maxStringLength := by decide

theorem halfArray : 0 < 64 ∧ 64 ≤ maxStringLength := by decide

/-- `recordStringArgFromSp` into an array of a record. -/
def recordArgFromSp (mem : Image) (ctx : StackRegs) (spOffset : UInt64) (dest : CharArray) :
    Int × CharArray :=
  ((recordStringArgFromSp mem ctx maxStringLength spOffset dest.1).1,
    ⟨(recordStringArgFromSp mem ctx maxStringLength spOffset dest.1).2, by
      rw [length_recordStringArgFromSp wholeArray.1 dest.2.ge, dest.2]⟩)

/-- `bpf_probe_read_user` of a pointer, with the jump to `out` when it fails. -/
def readPointerOr {α : Type} (mem : Image) (address : UInt64) (out : Int → α)
    (next : UInt64 → α) : α :=
  if (bpfProbeReadUser mem 4 address).1 < 0 then out (bpfProbeReadUser mem 4 address).1
  else next (readPointer mem 4 address)

/-- `uprobe/set_component_enabled_setting` from the reservation to `out`: `ret`
and the record. -/
def recordComponent (ctx : StackRegs) (mem : Image) (output : ComponentEnabledSetting) :
    Int × ComponentEnabledSetting :=
  let componentNamePtr := ctx.regs 2
  if componentNamePtr = 0 then (efault, output)
  else
    readPointerOr mem (componentNamePtr + kComponentNameClassOffset) (·, output) fun className =>
    let classField := recordInto mem className 64 halfArray output.className
    let output := { output with className := classField.2 }
    if classField.1 < 0 then (classField.1, output)
    else
      readPointerOr mem (componentNamePtr + kComponentNamePackageOffset) (·, output)
        fun packageName =>
      let packageField := recordInto mem packageName 64 halfArray output.packageName
      let output := { output with packageName := packageField.2 }
      if packageField.1 < 0 then (packageField.1, output)
      else
        let calling := recordInto mem (ctx.regs 6) 64 halfArray output.callingPackageName
        let output := { output with callingPackageName := calling.2 }
        if calling.1 < 0 then (calling.1, output)
        else (calling.1, { output with newState := (ctx.regs 3).toUInt32.toInt32 })

/-- `uprobe/set_component_enabled_setting`. -/
def setComponentEnabledSetting (ctx : StackRegs) (mem : Image)
    (reserved : Option ComponentEnabledSetting) : Int × Option ComponentEnabledSetting :=
  match reserved with
  | none => (1, none)
  | some output =>
      let recorded := recordComponent ctx mem { output with errorCode := 0 }
      (0, some { recorded.2 with errorCode := Int64.ofInt recorded.1 })

/-- `uprobe/bind_service_locked` from the reservation to `out`. -/
def recordBind (ctx : StackRegs) (mem : Image) (output : BindServiceLocked) :
    Int × BindServiceLocked :=
  let intentPtr := ctx.regs 4
  if intentPtr = 0 then (efault, output)
  else
    readPointerOr mem (intentPtr + kIntentPackageOffset) (·, output) fun intentPackageNamePtr =>
    let packageField := recordInto mem intentPackageNamePtr maxStringLength wholeArray
      output.intentPackage
    let output := { output with intentPackage := packageField.2 }
    if packageField.1 < 0 then (packageField.1, output)
    else
      readPointerOr mem (intentPtr + kIntentActionOffset) (·, output) fun intentActionPtr =>
      let actionField := recordInto mem intentActionPtr maxStringLength wholeArray output.intentAction
      let output := { output with intentAction := actionField.2 }
      if actionField.1 < 0 then (actionField.1, output)
      else
        readPointerOr mem (intentPtr + kIntentComponentNameOffset) (·, output)
          fun componentNamePtr =>
        if componentNamePtr = 0 then (efault, output)
        else
          readPointerOr mem (componentNamePtr + kComponentNamePackageOffset) (·, output)
            fun componentPackagePtr =>
          let componentPackage := recordInto mem componentPackagePtr maxStringLength wholeArray
            output.intentComponentNamePackage
          let output := { output with intentComponentNamePackage := componentPackage.2 }
          if componentPackage.1 < 0 then (componentPackage.1, output)
          else
            readPointerOr mem (componentNamePtr + kComponentNameClassOffset) (·, output)
              fun componentClassPtr =>
            let componentClass := recordInto mem componentClassPtr maxStringLength wholeArray
              output.intentComponentNameClass
            let output := { output with intentComponentNameClass := componentClass.2 }
            if componentClass.1 < 0 then (componentClass.1, output)
            else
              let calling := recordArgFromSp mem ctx kCallingPackageStackFrameOffset
                output.callingPackage
              (calling.1, { output with callingPackage := calling.2 })

/-- `uprobe/bind_service_locked`, which reserves a record only for calls with
the flag. -/
def bindServiceLocked (ctx : StackRegs) (mem : Image) (reserved : Option BindServiceLocked) :
    Int × Option BindServiceLocked :=
  let bindFlags := ctx.regs 7
  if bindFlags &&& kBindAllowBackgroundActivityStartsFlag = 0 then (0, none)
  else
    match reserved with
    | none => (1, none)
    | some output =>
        let recorded := recordBind ctx mem
          { output with errorCode := 0, bindFlags := bindFlags.toInt64 }
        (0, some { recorded.2 with errorCode := Int64.ofInt recorded.1 })

/-! The handlers. -/

/-- `COMPONENT_ENABLED_STATE_DISABLED`. -/
def componentEnabledStateDisabled : Int32 := 2

/-- `map_err` to `BpfDataInvalid` with the given point. -/
def orBpfDataInvalid (point : Int64) (answer : Except AnyError String) : Except AnyError String :=
  match answer with
  | .ok string => .ok string
  | .error _ => .error (.uprobeStats (.bpfDataInvalid point))

namespace ComponentEnabledSettingHandler

variable (env : Environment)

/-- `check_disabled_launcher_activity_and_log_to_statsd`. -/
def checkDisabledLauncherActivityAndLogToStatsd (packageName className : String)
    (newState : Int32) (callingPackageName : String) : Run Sent AnyError Bool := do
  if newState < componentEnabledStateDisabled then
    return false
  env.get 0
  let isLauncherActivity ← env.isLauncherActivity packageName className true
  if !env.isUserBuild then
    env.write 0 (.setComponentEnabledSettingReported packageName className newState
      callingPackageName isLauncherActivity)
  if isLauncherActivity && !callingPackageName.isEmpty then
    let callingUid ← env.getUidForPackage 0
      (if callingPackageName = "shell" then "com.android.shell" else callingPackageName)
    let disabledActivityUid ← env.getUidForPackage 1 packageName
    env.write 1 (.disabledLauncherActivityUidsReported callingUid disabledActivityUid)
  return isLauncherActivity

/-- `enqueue_dynamic_instrumentation_event`. -/
def enqueueDynamicInstrumentationEvent (packageName className callingPackageName : String) :
    Run Sent AnyError Unit := do
  env.get 1
  let uid ← env.getUidForPackage 2 packageName
  let timestampMs ← Run.silent (getCurrentTimestampMillis env.sinceEpoch)
  env.enqueueEvent {
    uid := uid
    timestampMs := timestampMs
    payloadId := DynamicInstrumentationPayloadIds.disabledLauncherActivity.toInt32
    payload := [
      ⟨"PACKAGE_NAME", .stringValue packageName⟩,
      ⟨"CLASS_NAME", .stringValue className⟩,
      ⟨"CALLING_PACKAGE_NAME", .stringValue callingPackageName⟩] } false

/-- What `on_item` does once it has the strings of the record. -/
def handle (packageName className : String) (newState : Int32) (callingPackageName : String) :
    Run Sent AnyError Unit := do
  let isDisabledLauncherActivity ← checkDisabledLauncherActivityAndLogToStatsd env packageName
    className newState callingPackageName
  if isDisabledLauncherActivity then
    enqueueDynamicInstrumentationEvent env packageName className callingPackageName

/-- `on_item`. -/
def onItem (data : ComponentEnabledSetting) : Run Sent AnyError Unit :=
  if data.errorCode < 0 then
    Run.fail (.uprobeStats (.bpfProgramError data.errorCode))
  else do
    let packageName ← Run.ofExcept (orBpfDataInvalid 1 (bytesAsNonemptyStr data.packageName.1))
    let className ← Run.ofExcept (orBpfDataInvalid 2 (bytesAsNonemptyStr data.className.1))
    let callingPackageName ← Run.ofExcept (bytesAsStr data.callingPackageName.1)
    handle env packageName className data.newState callingPackageName

end ComponentEnabledSettingHandler

/-- `BIND_ALLOW_BACKGROUND_ACTIVITY_STARTS`. -/
def bindAllowBackgroundActivityStarts : Int64 := 0x00100000

/-- The strings of a `BindServiceLocked` record. -/
structure BindStrings where
  callingPackage : String
  intentPackage : String
  intentAction : String
  intentComponentNamePackage : String
  intentComponentNameClass : String
deriving DecidableEq, Repr

namespace BindStrings

/-- The strings of a record, in the order `on_item` asks for them. -/
def ofRecord (data : BindServiceLocked) : Except AnyError BindStrings := do
  let callingPackage ← bytesAsStr data.callingPackage.1
  let intentPackage ← bytesAsStr data.intentPackage.1
  let intentAction ← bytesAsStr data.intentAction.1
  let intentComponentNamePackage ← bytesAsStr data.intentComponentNamePackage.1
  let intentComponentNameClass ← bytesAsStr data.intentComponentNameClass.1
  return ⟨callingPackage, intentPackage, intentAction, intentComponentNamePackage,
    intentComponentNameClass⟩

/-- None of the strings has anything in it. -/
def allEmpty (strings : BindStrings) : Bool :=
  strings.callingPackage.isEmpty && strings.intentPackage.isEmpty &&
    strings.intentAction.isEmpty && strings.intentComponentNamePackage.isEmpty &&
    strings.intentComponentNameClass.isEmpty

/-- `bindee_package`. -/
def bindeePackage (strings : BindStrings) : String :=
  if !strings.intentPackage.isEmpty then strings.intentPackage
  else strings.intentComponentNamePackage

end BindStrings

namespace BindServiceLockedHandler

variable (env : Environment)

/-- `log_to_statsd`. -/
def logToStatsd (strings : BindStrings) (flags : Int64) : Run Sent AnyError Unit := do
  if !env.isUserBuild then
    env.write 0 (.bindServiceLockedWithBalFlagsReported strings.intentPackage flags
      strings.callingPackage strings.intentAction strings.intentComponentNamePackage
      strings.intentComponentNameClass)
  if !strings.callingPackage.isEmpty && !strings.bindeePackage.isEmpty then
    env.get 0
    let binderUid ← env.getUidForPackage 0 strings.callingPackage
    let bindeeUid ← env.getUidForPackage 1 strings.bindeePackage
    env.write 1 (.bindServiceLockedWithBalFlagsUidsReported binderUid bindeeUid)

/-- `enqueue_dynamic_instrumentation_event`. -/
def enqueueDynamicInstrumentationEvent (strings : BindStrings) : Run Sent AnyError Unit := do
  env.get 1
  let timestampMs ← Run.silent (getCurrentTimestampMillis env.sinceEpoch)
  env.enqueueEvent {
    uid := 0
    timestampMs := timestampMs
    payloadId := DynamicInstrumentationPayloadIds.bindAllowBackgroundActivityStarts.toInt32
    payload := [
      ⟨"CALLING_PACKAGE", .stringValue strings.callingPackage⟩,
      ⟨"INTENT_PACKAGE", .stringValue strings.intentPackage⟩,
      ⟨"INTENT_ACTION", .stringValue strings.intentAction⟩,
      ⟨"INTENT_COMPONENT_NAME_PACKAGE", .stringValue strings.intentComponentNamePackage⟩,
      ⟨"INTENT_COMPONENT_NAME_CLASS", .stringValue strings.intentComponentNameClass⟩] } false

/-- What `on_item` does once it has the strings of the record. -/
def handle (strings : BindStrings) (flags : Int64) : Run Sent AnyError Unit :=
  if strings.allEmpty then Run.fail (.uprobeStats (.bpfDataInvalid 1))
  else if flags &&& bindAllowBackgroundActivityStarts = 0 then return ()
  else do
    logToStatsd env strings flags
    enqueueDynamicInstrumentationEvent env strings

/-- `on_item`. -/
def onItem (data : BindServiceLocked) : Run Sent AnyError Unit :=
  if data.errorCode < 0 then
    Run.fail (.uprobeStats (.bpfProgramError data.errorCode))
  else do
    let strings ← Run.ofExcept (BindStrings.ofRecord data)
    handle env strings data.bindFlags

end BindServiceLockedHandler

end UprobeStats.DisruptiveApp
