/-
Launcher activities that an app disables, from the call to the report.  The
bridge service answers out of the package manager, and the program records a
name up to its 63rd character.
-/
import UprobeStats.BackgroundStarts

namespace UprobeStats.DisruptiveApp

open Bytes Memory Traced

/-- What the bridge service asks the package manager. -/
structure PackageManager where
  /-- The names of the activities of a package that answer the intent of a
  launcher, those that are disabled included or not. -/
  queryIntentActivities : String → Bool → List String
  /-- Nothing stands for a `NameNotFoundException`. -/
  getPackageUid : String → Option Int32

namespace PackageManager

variable (packageManager : PackageManager)

/-- `isLauncherActivity` of the bridge service. -/
def isLauncherActivity (packageName className : String) (matchDisabled : Bool) : Bool :=
  (packageManager.queryIntentActivities packageName matchDisabled).any fun name =>
    name == className

/-- `getUidForPackage` of the bridge service. -/
def getUidForPackage (packageName : String) : Int32 :=
  (packageManager.getPackageUid packageName).getD (-1)

end PackageManager

/-- What a call sets.  The name of the caller is empty when there is none. -/
structure Setting where
  packageName : String
  className : String
  newState : Int32
  callingPackageName : String
deriving DecidableEq, Repr

namespace Setting

/-- The package whose uid stands for the caller. -/
def caller (setting : Setting) : String :=
  if setting.callingPackageName = "shell" then "com.android.shell"
  else setting.callingPackageName

/-- What the arrays have room for. -/
def cut (setting : Setting) : Setting where
  packageName := takeChars 63 setting.packageName
  className := takeChars 63 setting.className
  newState := setting.newState
  callingPackageName := takeChars 63 setting.callingPackageName

/-- Every name leaves room for the NUL in what is recorded of it. -/
structure Fit (setting : Setting) : Prop where
  packageName : setting.packageName.length < 64
  className : setting.className.length < 64
  callingPackageName : setting.callingPackageName.length < 64

def entries (setting : Setting) : List BridgeEntry := [
  ⟨"PACKAGE_NAME", .stringValue setting.packageName⟩,
  ⟨"CLASS_NAME", .stringValue setting.className⟩,
  ⟨"CALLING_PACKAGE_NAME", .stringValue setting.callingPackageName⟩]

theorem cut_entries_eq_iff {setting : Setting} :
    setting.cut.entries = setting.entries ↔ setting.Fit := by
  simp only [entries, cut, List.cons.injEq, BridgeEntry.mk.injEq, BridgeValue.stringValue.injEq,
    true_and, and_true, takeChars_eq_iff, Nat.le_iff_lt_add_one]
  exact ⟨fun ⟨package, className, calling⟩ => ⟨package, className, calling⟩,
    fun hfit => ⟨hfit.packageName, hfit.className, hfit.callingPackageName⟩⟩

theorem Fit.cut_eq {setting : Setting} (hfit : setting.Fit) : setting.cut = setting := by
  rw [cut, takeChars_of_length_le (Nat.le_of_lt_succ hfit.packageName),
    takeChars_of_length_le (Nat.le_of_lt_succ hfit.className),
    takeChars_of_length_le (Nat.le_of_lt_succ hfit.callingPackageName)]

section Report

variable (setting : Setting) (packageManager : PackageManager)

/-- The event about a launcher activity. -/
def event (timestampMs : Int64) : BridgeEvent where
  uid := packageManager.getUidForPackage setting.packageName
  timestampMs := timestampMs
  payloadId := DynamicInstrumentationPayloadIds.disabledLauncherActivity.toInt32
  payload := setting.entries

/-- The atom with the names, which is not for user builds. -/
def namesAtom (isUserBuild : Bool) : List CodegenAtom :=
  if isUserBuild then []
  else [.setComponentEnabledSettingReported setting.packageName setting.className
    setting.newState setting.callingPackageName
    (packageManager.isLauncherActivity setting.packageName setting.className true)]

/-- The atom with the uids, which takes a caller. -/
def uidsAtom : List CodegenAtom :=
  if setting.callingPackageName.isEmpty then []
  else [.disabledLauncherActivityUidsReported (packageManager.getUidForPackage setting.caller)
    (packageManager.getUidForPackage setting.packageName)]

/-- All atoms about a launcher activity that is disabled. -/
def atoms (isUserBuild : Bool) : List CodegenAtom :=
  setting.namesAtom packageManager isUserBuild ++ setting.uidsAtom packageManager

end Report

end Setting

/-- Statsd and the bridge service succeed, and the answers about this setting
are those of the package manager. -/
structure PackageManager.Answers (packageManager : PackageManager) (env : Environment)
    (setting : Setting) : Prop where
  write : ∀ place, env.onWrite place = .ok ()
  get : ∀ place, env.onGet place = .ok ()
  isLauncherActivity : env.onIsLauncherActivity =
    .ok (packageManager.isLauncherActivity setting.packageName setting.className true)
  callingUid : env.onGetUidForPackage 0 = .ok (packageManager.getUidForPackage setting.caller)
  packageUid : ∀ place, place ≠ 0 →
    env.onGetUidForPackage place = .ok (packageManager.getUidForPackage setting.packageName)
  enqueueEvent : env.onEnqueueEvent = .ok ()

/-- A call of `setComponentEnabledSetting`, all of whose memory can be read. -/
structure Sets (ctx : StackRegs) (mem : Image) (setting : Setting) : Prop where
  component : ctx.regs 2 ≠ 0
  className : Gets mem (pointerAt mem (ctx.regs 2 + kComponentNameClassOffset)) setting.className
  packageName :
    Gets mem (pointerAt mem (ctx.regs 2 + kComponentNamePackageOffset)) setting.packageName
  callingPackageName : Gets mem (some (ctx.regs 6)) setting.callingPackageName
  newState : (ctx.regs 3).toUInt32.toInt32 = setting.newState
  className_ne : setting.className ≠ ""
  packageName_ne : setting.packageName ≠ ""

/-! The program. -/

section Program

variable {ctx : StackRegs} {mem : Image} {setting : Setting}

theorem Sets.gets_className (hsets : Sets ctx mem setting) :
    Gets mem (ComponentReferences.className ctx mem) setting.className := by
  rw [ComponentReferences.className, nonNull, if_neg hsets.component]
  exact hsets.className

theorem Sets.gets_packageName (hsets : Sets ctx mem setting) :
    Gets mem (ComponentReferences.packageName ctx mem) setting.packageName := by
  have hreached := hsets.gets_className.isSome halfArray.1
    (pointerAt mem (ctx.regs 2 + kComponentNamePackageOffset))
  have hfield := hsets.packageName
  rw [← hreached] at hfield
  exact hfield

theorem Sets.gets_callingPackageName (hsets : Sets ctx mem setting) :
    Gets mem (ComponentReferences.callingPackageName ctx mem) setting.callingPackageName := by
  have hreached := hsets.gets_packageName.isSome halfArray.1 (some (ctx.regs 6))
  have hfield := hsets.callingPackageName
  rw [← hreached] at hfield
  exact hfield

/-- What a handler reads of a field that holds this string. -/
theorem Gets.bytesAsStr_half {reference : Option UInt64} {s : String}
    (hgets : Gets mem reference s) (dest : CharArray) :
    bytesAsStr (filled mem 64 halfArray reference dest).1 = .ok (takeChars 63 s) := by
  obtain ⟨jstring, hreference, hrefers, hascii⟩ := hgets
  rw [filled_of_reference halfArray hreference]
  exact hrefers.bytesAsStr_eq hascii halfArray.1 dest.1

/-- The record of such a call. -/
def setRecord (ctx : StackRegs) (mem : Image) (setting : Setting)
    (output : ComponentEnabledSetting) : ComponentEnabledSetting where
  errorCode := Int64.ofInt (copiedString mem (ctx.regs 6) 64).1
  packageName :=
    filled mem 64 halfArray (ComponentReferences.packageName ctx mem) output.packageName
  className := filled mem 64 halfArray (ComponentReferences.className ctx mem) output.className
  newState := setting.newState
  callingPackageName := filled mem 64 halfArray
    (ComponentReferences.callingPackageName ctx mem) output.callingPackageName

theorem Gets.copied_eq {reference : Option UInt64} {s : String} (hgets : Gets mem reference s)
    {jstring : UInt64} (hreference : reference = some jstring) :
    copied mem 64 jstring = some () := by
  obtain ⟨other, hother, hrefers, hascii⟩ := hgets
  obtain rfl : other = jstring := Option.some.inj (hother.symm.trans hreference)
  exact if_neg (hrefers.copiedString_fst hascii halfArray.1).1.not_gt

/-- The program gets to its end. -/
theorem Sets.submits (hsets : Sets ctx mem setting) (reserved : ComponentEnabledSetting) :
    (setComponentEnabledSetting ctx mem (some reserved)).2 =
      some (setRecord ctx mem setting reserved) := by
  obtain ⟨className, hclass, _⟩ := hsets.className
  obtain ⟨packageName, hpackage, _⟩ := hsets.packageName
  have hclassReference : ComponentReferences.className ctx mem = some className := by
    rw [ComponentReferences.className, nonNull, if_neg hsets.component]
    exact hclass
  have hclassCopied := hsets.gets_className.copied_eq hclassReference
  have hpackageReference : ComponentReferences.packageName ctx mem = some packageName := by
    rw [ComponentReferences.packageName, hclassReference]
    simp only [Option.bind_eq_bind, Option.bind_some, hclassCopied, hpackage]
  have hpackageCopied := hsets.gets_packageName.copied_eq hpackageReference
  have hcallingReference : ComponentReferences.callingPackageName ctx mem = some (ctx.regs 6) := by
    rw [ComponentReferences.callingPackageName, hpackageReference]
    simp only [Option.bind_eq_bind, Option.bind_some, hpackageCopied]
    rfl
  have hcallingCopied := hsets.gets_callingPackageName.copied_eq hcallingReference
  rw [setComponentEnabledSetting, setRecord, hclassReference, hpackageReference,
    hcallingReference, ← hsets.newState]
  simp only [recordComponent, readPointerOr_eq, recordInto_fst, copied_elim mem _ halfArray.1,
    if_neg hsets.component, hclass, hpackage, hclassCopied, hpackageCopied, hcallingCopied,
    Option.elim_some, filled]

theorem Sets.errorCode_nonneg (hsets : Sets ctx mem setting) (reserved : ComponentEnabledSetting) :
    0 ≤ (setRecord ctx mem setting reserved).errorCode := by
  obtain ⟨jstring, hreference, hrefers, hascii⟩ := hsets.callingPackageName
  obtain rfl : ctx.regs 6 = jstring := Option.some.inj hreference
  obtain ⟨hlower, hupper⟩ := hrefers.copiedString_fst hascii halfArray.1
  rw [setRecord, Int64.le_iff_toInt_le, Int64.toInt_zero,
    Int64.toInt_ofInt_of_le (by omega) (by omega)]
  exact hlower

end Program

/-! The handler. -/

section Handler

variable {setting : Setting} {packageManager : PackageManager} {env : Environment}

/-- The setting disables a launcher activity, as the package manager has it. -/
def Setting.DisablesLauncher (setting : Setting) (packageManager : PackageManager) : Prop :=
  componentEnabledStateDisabled ≤ setting.newState ∧
    packageManager.isLauncherActivity setting.packageName setting.className true = true

/-- Atoms and events about a launcher activity, and nothing but the names of
another component. -/
theorem handle_eq (hanswers : packageManager.Answers env setting) {timestampMs : Int64}
    (hclock : getCurrentTimestampMillis env.sinceEpoch = .ok timestampMs) :
    let run := ComponentEnabledSettingHandler.handle env setting.packageName setting.className
      setting.newState setting.callingPackageName
    run.outcome = .ok () ∧
      (setting.DisablesLauncher packageManager ∧
          run.trace.filterMap Sent.bridgeEvent = [setting.event packageManager timestampMs] ∧
          run.trace.filterMap Sent.codegenAtom = setting.atoms packageManager env.isUserBuild ∨
        ¬ setting.DisablesLauncher packageManager ∧
          run.trace.filterMap Sent.bridgeEvent = []) := by
  have hsecond := hanswers.packageUid 1 (by decide)
  have hthird := hanswers.packageUid 2 (by decide)
  rw [ComponentEnabledSettingHandler.handle,
    ComponentEnabledSettingHandler.checkDisabledLauncherActivityAndLogToStatsd]
  by_cases hstate : setting.newState < componentEnabledStateDisabled
  · rw [if_pos hstate]
    exact ⟨rfl, .inr ⟨fun hdisables => absurd hstate (Int32.not_lt.2 hdisables.1), rfl⟩⟩
  · rw [if_neg hstate]
    simp only [Environment.get, Environment.isLauncherActivity, Environment.write,
      Environment.getUidForPackage, hanswers.get, hanswers.isLauncherActivity, hanswers.write,
      hanswers.callingUid, hsecond]
    cases hlauncher :
        packageManager.isLauncherActivity setting.packageName setting.className true with
    | false =>
        cases env.isUserBuild <;>
          exact ⟨rfl, .inr ⟨fun hdisables =>
            Bool.false_ne_true (hlauncher.symm.trans hdisables.2), rfl⟩⟩
    | true =>
        have hdisables : setting.DisablesLauncher packageManager :=
          ⟨Int32.not_lt.1 hstate, hlauncher⟩
        simp only [ComponentEnabledSettingHandler.enqueueDynamicInstrumentationEvent,
          Environment.get, Environment.getUidForPackage, Environment.enqueueEvent, hanswers.get,
          hthird, hanswers.enqueueEvent, hclock]
        simp only [Setting.atoms, Setting.namesAtom, Setting.uidsAtom, hlauncher]
        cases env.isUserBuild <;> cases setting.callingPackageName.isEmpty <;>
          exact ⟨rfl, .inl ⟨hdisables, rfl, rfl⟩⟩

end Handler

/-! From the call to the report. -/

/-- The program submits a record without an error, the handler takes it, and
the event and the atoms are those about this setting. -/
def DisablingReported (ctx : StackRegs) (mem : Image) (reserved : ComponentEnabledSetting)
    (packageManager : PackageManager) (env : Environment) (setting : Setting) : Prop :=
  ∃ record, (setComponentEnabledSetting ctx mem (some reserved)).2 = some record ∧
    0 ≤ record.errorCode ∧
    (ComponentEnabledSettingHandler.onItem env record).outcome = .ok () ∧
    (∃ timestampMs,
      (ComponentEnabledSettingHandler.onItem env record).trace.filterMap Sent.bridgeEvent =
        [setting.event packageManager timestampMs]) ∧
    (ComponentEnabledSettingHandler.onItem env record).trace.filterMap Sent.codegenAtom =
      setting.atoms packageManager env.isUserBuild

section Reported

variable {ctx : StackRegs} {mem : Image} {setting : Setting}

/-- The handler finds the names in the record. -/
theorem Sets.onItem_eq (hsets : Sets ctx mem setting) (reserved : ComponentEnabledSetting)
    (env : Environment) :
    ComponentEnabledSettingHandler.onItem env (setRecord ctx mem setting reserved) =
      ComponentEnabledSettingHandler.handle env setting.cut.packageName setting.cut.className
        setting.cut.newState setting.cut.callingPackageName := by
  have hpackage : bytesAsNonemptyStr (setRecord ctx mem setting reserved).packageName.1 =
      .ok setting.cut.packageName := by
    rw [bytesAsNonemptyStr, setRecord, hsets.gets_packageName.bytesAsStr_half]
    exact if_neg (mt String.isEmpty_iff.1 (takeChars_ne_empty (by decide) hsets.packageName_ne))
  have hclass : bytesAsNonemptyStr (setRecord ctx mem setting reserved).className.1 =
      .ok setting.cut.className := by
    rw [bytesAsNonemptyStr, setRecord, hsets.gets_className.bytesAsStr_half]
    exact if_neg (mt String.isEmpty_iff.1 (takeChars_ne_empty (by decide) hsets.className_ne))
  have hcalling : bytesAsStr (setRecord ctx mem setting reserved).callingPackageName.1 =
      .ok setting.cut.callingPackageName := hsets.gets_callingPackageName.bytesAsStr_half _
  rw [ComponentEnabledSettingHandler.onItem,
    if_neg (Int64.not_lt.2 (hsets.errorCode_nonneg reserved)), hpackage, hclass, hcalling]
  simp only [orBpfDataInvalid, Run.bind_ofExcept_ok]
  rfl

end Reported

/-! The shell disables the only activity of an app. -/

def shellSetting : Setting where
  packageName := "com.app"
  className := "com.app.Main"
  newState := 2
  callingPackageName := "shell"

def shellContext : StackRegs where
  regs register :=
    if register = 2 then 0x1000 else if register = 3 then 2 else if register = 6 then 0x4000 else 0
  sp := 0

def shellImage : Image := ofObjects [
  (0x2000, javaObject (asBytes "com.app.Main")),
  (0x3000, javaObject (asBytes "com.app")),
  (0x4000, javaObject (asBytes "shell")),
  (0x1000, List.replicate 8 0 ++ toLittleEndian 4 0x2000 ++ toLittleEndian 4 0x3000)]

def shellPackages : PackageManager where
  queryIntentActivities packageName _ :=
    if packageName = "com.app" then ["com.app.Main"] else []
  getPackageUid packageName :=
    if packageName = "com.app" then some 10001
    else if packageName = "com.android.shell" then some 2000 else none

def shellEnv : Environment := { Environment.succeeding with
  onIsLauncherActivity := .ok true
  onGetUidForPackage := fun place => .ok (if place = 0 then 2000 else 10001) }

theorem sets_shellSetting : Sets shellContext shellImage shellSetting where
  component := by decide
  className := ⟨0x2000, by decide +kernel, ⟨by decide, by decide +kernel, by decide +kernel⟩,
    by decide⟩
  packageName := ⟨0x3000, by decide +kernel, ⟨by decide, by decide +kernel, by decide +kernel⟩,
    by decide⟩
  callingPackageName := ⟨0x4000, rfl, ⟨by decide, by decide +kernel, by decide +kernel⟩,
    by decide⟩
  newState := by decide
  className_ne := by decide
  packageName_ne := by decide

theorem answers_shellSetting : shellPackages.Answers shellEnv shellSetting.cut where
  write _ := rfl
  get _ := rfl
  isLauncherActivity := by decide +kernel
  callingUid := by decide +kernel
  packageUid place hplace := by
    rw [shellEnv]
    simp only [if_neg hplace]
    decide +kernel
  enqueueEvent := rfl

end UprobeStats.DisruptiveApp
