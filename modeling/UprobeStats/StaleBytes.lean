/-
Records are reserved in the ring buffer with the bytes of older records in
them.  This module compares two executions that differ in those bytes only,
from the program to what the handler makes of the record.
-/
import UprobeStats.AccessibilityProgram
import UprobeStats.BitmapSystem
import UprobeStats.DisruptiveApp

namespace UprobeStats.StaleBytes

open Bytes Memory Traced

/-- The programs, each with the handler that its records go to. -/
inductive Program where
  | bitmapCreation
  | bitmapCreationForSnapshot
  | applyFreeFunction
  | activityPerformStart
  | createScaledBitmap
  | bindServiceLocked
  | setComponentEnabledSetting
  | grantRuntimePermission
  | dispatchGesture
deriving DecidableEq, Repr

/-- What an execution of a program reads, apart from the reserved record. -/
structure Inputs where
  ctx : StackRegs
  mem : Image
  currentPidTgid : UInt64
  active : Bitmap.ActiveBitmaps
  ktimeGetNs : UInt64

/-- The bytes that the ring buffer has for a record of each kind. -/
structure Prior where
  bitmapEvent : Bitmap.BitmapEvent
  bindServiceLocked : DisruptiveApp.BindServiceLocked
  componentEnabledSetting : DisruptiveApp.ComponentEnabledSetting
  accessibilityEvent : Accessibility.AccessibilityEvent

/-- The handlers as the record finds them, and their surroundings. -/
structure Receiver where
  order : Grouping.Iteration UInt64 Bitmap.BitmapMetadata
  uid : Int32
  writer : AtomWriter
  bitmaps : Bitmap.BitmapAllocationHandlerV1
  env : Environment
  service : BridgeService
  accessibility : Accessibility.AccessibilityHandler

/-- What comes of an execution: no record, or the result, the state and the
messages of the handler that gets it. -/
inductive Observed where
  | nothing
  | bitmap (handled : Bitmap.Handled)
  | disruptiveApp (handled : Run Sent AnyError Unit)
  | accessibility
      (handled : Run BridgeCall AnyError Unit × Accessibility.AccessibilityHandler)

section Observed

variable (inputs : Inputs) (receiver : Receiver)

def onBitmapEvent (record : Option Bitmap.BitmapEvent) : Observed :=
  record.elim .nothing fun data =>
    .bitmap (receiver.bitmaps.onItem receiver.order receiver.uid receiver.writer data)

def onAccessibilityEvent (record : Option Accessibility.AccessibilityEvent) : Observed :=
  record.elim .nothing fun data =>
    .accessibility (receiver.accessibility.onItem receiver.service data)

/-- One execution with a reserved record that holds the prior bytes. -/
def observed (program : Program) (prior : Prior) : Observed :=
  match program with
  | .bitmapCreation =>
      onBitmapEvent receiver
        (Bitmap.bitmapCreation inputs.ctx.toPtRegs inputs.mem (some prior.bitmapEvent)).2
  | .bitmapCreationForSnapshot =>
      onBitmapEvent receiver (Bitmap.bitmapCreationForSnapshot inputs.ctx.toPtRegs inputs.mem
        inputs.currentPidTgid (some prior.bitmapEvent) inputs.active).submitted
  | .applyFreeFunction =>
      onBitmapEvent receiver (Bitmap.applyFreeFunction inputs.ctx.toPtRegs inputs.mem
        inputs.currentPidTgid (some prior.bitmapEvent) inputs.active).submitted
  | .activityPerformStart =>
      onBitmapEvent receiver
        (Bitmap.activityPerformStart inputs.ctx.toPtRegs inputs.mem (some prior.bitmapEvent)).2
  | .createScaledBitmap =>
      onBitmapEvent receiver
        (Bitmap.createScaledBitmap inputs.ctx.toPtRegs inputs.mem (some prior.bitmapEvent)).2
  | .bindServiceLocked =>
      (DisruptiveApp.bindServiceLocked inputs.ctx inputs.mem
        (some prior.bindServiceLocked)).2.elim .nothing fun data =>
          .disruptiveApp (DisruptiveApp.BindServiceLockedHandler.onItem receiver.env data)
  | .setComponentEnabledSetting =>
      (DisruptiveApp.setComponentEnabledSetting inputs.ctx inputs.mem
        (some prior.componentEnabledSetting)).2.elim .nothing fun data =>
          .disruptiveApp (DisruptiveApp.ComponentEnabledSettingHandler.onItem receiver.env data)
  | .grantRuntimePermission =>
      onAccessibilityEvent receiver (Accessibility.grantRuntimePermission inputs.ctx.toPtRegs
        inputs.mem inputs.ktimeGetNs (some prior.accessibilityEvent)).2
  | .dispatchGesture =>
      onAccessibilityEvent receiver (Accessibility.dispatchGesture inputs.ctx.toPtRegs
        inputs.mem inputs.ktimeGetNs (some prior.accessibilityEvent)).2

/-- The prior bytes do not show. -/
def Insensitive (program : Program) : Prop :=
  ∀ prior prior', observed inputs receiver program prior = observed inputs receiver program prior'

end Observed

/-- When the program itself writes everything that its handler reads:
`bitmap_creation` never does; `apply_free_function` never does when it reports
something, which is when the bitmap is active; `activity_perform_start` does
unless there is a class name whose length cannot be read. -/
def WritesWhatIsRead (inputs : Inputs) : Program → Prop
  | .bitmapCreation => False
  | .applyFreeFunction =>
      (⟨inputs.currentPidTgid >>> 32, Bitmap.freedPtr inputs.ctx.toPtRegs inputs.mem⟩ :
        Bitmap.BitmapKey) ∉ inputs.active
  | .activityPerformStart =>
      Bitmap.componentNameClassPtr inputs.ctx.toPtRegs inputs.mem = 0 ∨
        (read inputs.mem (Bitmap.componentNameClassPtr inputs.ctx.toPtRegs inputs.mem + 8)
          4).isSome
  | _ => True

/-! Strings. -/

theorem bytesAsStr_append {bytes : List UInt8} (hnul : 0 ∈ bytes) (rest : List UInt8) :
    bytesAsStr (bytes ++ rest) = bytesAsStr bytes := by
  rw [bytesAsStr, bytesAsStr, fromBytesUntilNul_append hnul]

/-- Two copies of a string to different places fail alike or read alike. -/
theorem recordString_agree (mem : Image) (jstring : UInt64) {maxLength : Nat}
    (hpos : 0 < maxLength) (dest dest' : List UInt8) :
    ((recordString mem jstring maxLength dest).1 = efault ∧
        (recordString mem jstring maxLength dest').1 = efault) ∨
      (0 ≤ (recordString mem jstring maxLength dest).1 ∧
        (recordString mem jstring maxLength dest').1 =
          (recordString mem jstring maxLength dest).1 ∧
        bytesAsStr (recordString mem jstring maxLength dest').2 =
          bytesAsStr (recordString mem jstring maxLength dest).2) := by
  simp only [recordString_eq_copiedString]
  obtain ⟨-, -, hcopied⟩ | ⟨-, ret, bytes, hcopied, hnul, hret⟩ :=
    copiedString_cases mem jstring hpos
  · exact .inl ⟨by rw [hcopied], by rw [hcopied]⟩
  · rw [hcopied]
    rcases hret with hret | hret
    · exact .inl ⟨hret, hret⟩
    · refine .inr ⟨hret, trivial, ?_⟩
      simp only [Option.elim_some, overwrite, bytesAsStr_append hnul]

theorem recordStringArg_agree (mem : Image) (ctx : PtRegs) (position : Fin 6)
    (dest dest' : List UInt8) :
    ((recordStringArg mem ctx maxStringLength position dest).1 = efault ∧
        (recordStringArg mem ctx maxStringLength position dest').1 = efault) ∨
      (0 ≤ (recordStringArg mem ctx maxStringLength position dest).1 ∧
        (recordStringArg mem ctx maxStringLength position dest').1 =
          (recordStringArg mem ctx maxStringLength position dest).1 ∧
        bytesAsStr (recordStringArg mem ctx maxStringLength position dest').2 =
          bytesAsStr (recordStringArg mem ctx maxStringLength position dest).2) :=
  recordString_agree mem _ (by decide) dest dest'

/-! Programs that record one string after the other and stop at the first
failure. -/

/-- Two executions have failed alike, or have recorded the same. -/
def Agree {σ : Type} (Same : σ → σ → Prop) (recorded recorded' : Int × σ) : Prop :=
  (recorded.1 = efault ∧ recorded'.1 = efault) ∨
    (recorded'.1 = recorded.1 ∧ Same recorded.2 recorded'.2)

namespace Agree

open DisruptiveApp

variable {σ : Type} {Same : σ → σ → Prop} {output output' : σ} {mem : Image}

theorem fault : Agree Same (efault, output) (efault, output') := .inl ⟨rfl, rfl⟩

theorem readPointer {address : UInt64} {next next' : UInt64 → Int × σ}
    (hnext : ∀ pointer, Agree Same (next pointer) (next' pointer)) :
    Agree Same (readPointerOr mem address (·, output) next)
      (readPointerOr mem address (·, output') next') := by
  unfold readPointerOr
  rcases bpfProbeReadUser_cases mem 4 address with hret | hret
  · simp only [hret, efault_neg, ↓reduceIte]
    exact fault
  · simp only [hret, lt_irrefl, ↓reduceIte]
    exact hnext _

theorem recordInto {jstring : UInt64} {maxLength : Nat}
    {hlength : 0 < maxLength ∧ maxLength ≤ maxStringLength} {dest dest' : CharArray}
    {next next' : Int × σ}
    (hnext : (recordInto mem jstring maxLength hlength dest').1 =
        (recordInto mem jstring maxLength hlength dest).1 →
      bytesAsStr (recordInto mem jstring maxLength hlength dest').2.1 =
        bytesAsStr (recordInto mem jstring maxLength hlength dest).2.1 → Agree Same next next') :
    Agree Same
      (if (recordInto mem jstring maxLength hlength dest).1 < 0 then
        ((recordInto mem jstring maxLength hlength dest).1, output) else next)
      (if (recordInto mem jstring maxLength hlength dest').1 < 0 then
        ((recordInto mem jstring maxLength hlength dest').1, output') else next') := by
  have hagree := recordString_agree mem jstring hlength.1 dest.1 dest'.1
  obtain ⟨hret, hret'⟩ | ⟨hret, hret', hstr⟩ := hagree
  · have hfault : (DisruptiveApp.recordInto mem jstring maxLength hlength dest).1 = efault := hret
    have hfault' : (DisruptiveApp.recordInto mem jstring maxLength hlength dest').1 = efault := hret'
    simp only [hfault, hfault', efault_neg, ↓reduceIte]
    exact fault
  · have hok : ¬ (DisruptiveApp.recordInto mem jstring maxLength hlength dest).1 < 0 := hret.not_gt
    have hsame : (DisruptiveApp.recordInto mem jstring maxLength hlength dest').1 =
        (DisruptiveApp.recordInto mem jstring maxLength hlength dest).1 := hret'
    rw [if_neg hok, if_neg (hsame ▸ hok)]
    exact hnext hsame hstr

end Agree

section DisruptiveApp

open DisruptiveApp

/-- The handler reads the same in both records. -/
structure SameComponent (data data' : ComponentEnabledSetting) : Prop where
  packageName : bytesAsStr data'.packageName.1 = bytesAsStr data.packageName.1
  className : bytesAsStr data'.className.1 = bytesAsStr data.className.1
  callingPackageName :
    bytesAsStr data'.callingPackageName.1 = bytesAsStr data.callingPackageName.1
  newState : data'.newState = data.newState

theorem recordComponent_agree (ctx : StackRegs) (mem : Image)
    (output output' : ComponentEnabledSetting) :
    Agree SameComponent (recordComponent ctx mem output) (recordComponent ctx mem output') := by
  unfold recordComponent
  dsimp only
  split
  · exact Agree.fault
  · apply Agree.readPointer
    intro className
    apply Agree.recordInto
    intro _ hclass
    apply Agree.readPointer
    intro packageName
    apply Agree.recordInto
    intro _ hpackage
    apply Agree.recordInto
    intro hret hcalling
    exact .inr ⟨hret, hpackage, hclass, hcalling, rfl⟩

/-- The handler reads the same in both records. -/
structure SameBind (data data' : BindServiceLocked) : Prop where
  intentAction : bytesAsStr data'.intentAction.1 = bytesAsStr data.intentAction.1
  intentPackage : bytesAsStr data'.intentPackage.1 = bytesAsStr data.intentPackage.1
  intentComponentNamePackage : bytesAsStr data'.intentComponentNamePackage.1 =
    bytesAsStr data.intentComponentNamePackage.1
  intentComponentNameClass : bytesAsStr data'.intentComponentNameClass.1 =
    bytesAsStr data.intentComponentNameClass.1
  callingPackage : bytesAsStr data'.callingPackage.1 = bytesAsStr data.callingPackage.1
  bindFlags : data'.bindFlags = data.bindFlags

theorem recordArgFromSp_agree (mem : Image) (ctx : StackRegs) (spOffset : UInt64)
    (dest dest' : CharArray) :
    Agree (fun bytes bytes' : CharArray => bytesAsStr bytes'.1 = bytesAsStr bytes.1)
      (recordArgFromSp mem ctx spOffset dest) (recordArgFromSp mem ctx spOffset dest') := by
  simp only [recordArgFromSp, recordStringArgFromSp]
  rcases bpfProbeReadUser_cases mem 4 (ctx.sp + spOffset) with hret | hret
  · simp only [hret, efault_neg, ↓reduceIte]
    exact Agree.fault
  · simp only [hret, lt_irrefl, ↓reduceIte]
    obtain hfault | ⟨-, hsame⟩ := recordString_agree mem (readPointer mem 4 (ctx.sp + spOffset))
      wholeArray.1 dest.1 dest'.1
    · exact .inl hfault
    · exact .inr hsame

theorem recordBind_agree (ctx : StackRegs) (mem : Image) (output output' : BindServiceLocked)
    (hflags : output'.bindFlags = output.bindFlags) :
    Agree SameBind (recordBind ctx mem output) (recordBind ctx mem output') := by
  unfold recordBind
  dsimp only
  split
  · exact Agree.fault
  · apply Agree.readPointer
    intro intentPackageNamePtr
    apply Agree.recordInto
    intro _ hpackage
    apply Agree.readPointer
    intro intentActionPtr
    apply Agree.recordInto
    intro _ haction
    apply Agree.readPointer
    intro componentNamePtr
    split
    · exact Agree.fault
    · apply Agree.readPointer
      intro componentPackagePtr
      apply Agree.recordInto
      intro _ hcomponentPackage
      apply Agree.readPointer
      intro componentClassPtr
      apply Agree.recordInto
      intro _ hcomponentClass
      obtain hfault | ⟨hret, hcalling⟩ := recordArgFromSp_agree mem ctx
        kCallingPackageStackFrameOffset output.callingPackage output'.callingPackage
      · exact .inl hfault
      · exact .inr ⟨hret, haction, hpackage, hcomponentPackage, hcomponentClass, hcalling, hflags⟩

theorem component_onItem_congr (env : Environment) {data data' : ComponentEnabledSetting}
    (herror : data'.errorCode = data.errorCode) (hsame : SameComponent data data') :
    ComponentEnabledSettingHandler.onItem env data' =
      ComponentEnabledSettingHandler.onItem env data := by
  simp only [ComponentEnabledSettingHandler.onItem, bytesAsNonemptyStr, herror, hsame.packageName,
    hsame.className, hsame.callingPackageName, hsame.newState]

theorem bind_onItem_congr (env : Environment) {data data' : BindServiceLocked}
    (herror : data'.errorCode = data.errorCode) (hsame : SameBind data data') :
    BindServiceLockedHandler.onItem env data' = BindServiceLockedHandler.onItem env data := by
  simp only [BindServiceLockedHandler.onItem, BindStrings.ofRecord, herror, hsame.callingPackage,
    hsame.intentPackage, hsame.intentAction, hsame.intentComponentNamePackage,
    hsame.intentComponentNameClass, hsame.bindFlags]

theorem errorCode_neg : Int64.ofInt efault < 0 := by decide

theorem insensitive_setComponentEnabledSetting (inputs : Inputs) (receiver : Receiver) :
    Insensitive inputs receiver .setComponentEnabledSetting := by
  intro prior prior'
  simp only [observed, setComponentEnabledSetting, Option.elim_some]
  congr 1
  obtain ⟨hret, hret'⟩ | ⟨hret, hsame⟩ := recordComponent_agree inputs.ctx inputs.mem
    { prior.componentEnabledSetting with errorCode := 0 }
    { prior'.componentEnabledSetting with errorCode := 0 }
  · simp only [ComponentEnabledSettingHandler.onItem, hret, hret', errorCode_neg, ↓reduceIte]
  · apply Eq.symm
    apply component_onItem_congr
    · simp only [hret]
    · exact ⟨hsame.packageName, hsame.className, hsame.callingPackageName, hsame.newState⟩

theorem insensitive_bindServiceLocked (inputs : Inputs) (receiver : Receiver) :
    Insensitive inputs receiver .bindServiceLocked := by
  intro prior prior'
  simp only [observed, bindServiceLocked]
  split
  · rfl
  · simp only [Option.elim_some]
    congr 1
    obtain ⟨hret, hret'⟩ | ⟨hret, hsame⟩ := recordBind_agree inputs.ctx inputs.mem
      { prior.bindServiceLocked with errorCode := 0, bindFlags := (inputs.ctx.regs 7).toInt64 }
      { prior'.bindServiceLocked with errorCode := 0, bindFlags := (inputs.ctx.regs 7).toInt64 } rfl
    · simp only [BindServiceLockedHandler.onItem, hret, hret', errorCode_neg, ↓reduceIte]
    · apply Eq.symm
      apply bind_onItem_congr
      · simp only [hret]
      · exact ⟨hsame.intentAction, hsame.intentPackage, hsame.intentComponentNamePackage,
          hsame.intentComponentNameClass, hsame.callingPackage, hsame.bindFlags⟩

end DisruptiveApp

section Accessibility

open Accessibility

theorem a11yErrorCode_neg : Int32.ofInt efault < 0 := by decide

/-- A grant is handled by its error code, time and strings. -/
theorem handleItem_grant_congr (service : BridgeService) {data data' : AccessibilityEvent}
    (herror : data'.errorCode = data.errorCode) (hvariant : data.variant = 1)
    (hvariant' : data'.variant = 1) (htime : data'.timestampNs = data.timestampNs)
    (hstrings : data.errorCode < 0 ∨
      bytesAsStr data'.packageName = bytesAsStr data.packageName ∧
        bytesAsStr data'.permissionName = bytesAsStr data.permissionName) :
    handleItem service data' = handleItem service data := by
  rcases hstrings with hneg | ⟨hpackage, hpermission⟩
  · simp only [handleItem, herror, hneg, ↓reduceIte]
  · simp only [handleItem, handlePermissionGrantEvent, bytesAsNonemptyStr, herror, hvariant,
      hvariant', htime, hpackage, hpermission, ↓reduceIte]

theorem accessibility_onItem_congr (handler : AccessibilityHandler) (service : BridgeService)
    {data data' : AccessibilityEvent} (hhandled : handleItem service data' = handleItem service data) :
    handler.onItem service data' = handler.onItem service data := by
  unfold AccessibilityHandler.onItem
  rw [hhandled]

theorem insensitive_grantRuntimePermission (inputs : Inputs) (receiver : Receiver) :
    Insensitive inputs receiver .grantRuntimePermission := by
  intro prior prior'
  have hagree := fun position dest dest' =>
    recordStringArg_agree inputs.mem inputs.ctx.toPtRegs position dest dest'
  simp only [observed, grantRuntimePermission, onAccessibilityEvent]
  obtain ⟨hret, hret'⟩ | ⟨hret, hret', hpackage⟩ := hagree 0 prior.accessibilityEvent.packageName
    prior'.accessibilityEvent.packageName
  · simp only [hret, hret', efault_neg, ↓reduceIte, Option.elim_some]
    congr 1
  · simp only [hret', hret.not_gt, ↓reduceIte, Option.elim_some]
    congr 1
    apply Eq.symm
    apply accessibility_onItem_congr
    obtain ⟨hret, hret'⟩ | ⟨hret, hret', hpermission⟩ := hagree 1
      prior.accessibilityEvent.permissionName prior'.accessibilityEvent.permissionName
    · apply handleItem_grant_congr
      · simp only [hret, hret']
      · rfl
      · rfl
      · rfl
      · exact .inl (by simpa only [hret] using a11yErrorCode_neg)
    · apply handleItem_grant_congr
      · simp only [hret']
      · rfl
      · rfl
      · rfl
      · exact .inr ⟨hpackage, hpermission⟩

theorem insensitive_dispatchGesture (inputs : Inputs) (receiver : Receiver) :
    Insensitive inputs receiver .dispatchGesture := by
  intro prior prior'
  simp only [observed, dispatchGesture, onAccessibilityEvent]
  split
  · rfl
  · simp only [Option.elim_some]
    congr 1

end Accessibility

section Bitmap

open Bitmap

theorem insensitive_bitmapCreationForSnapshot (inputs : Inputs) (receiver : Receiver) :
    Insensitive inputs receiver .bitmapCreationForSnapshot := by
  intro prior prior'
  have htype : ∀ output, (creationRecord inputs.ctx.toPtRegs inputs.mem output).type =
      kBitmapEventTypeAllocation := fun _ => rfl
  simp only [observed, bitmapCreationForSnapshot, onBitmapEvent, Option.elim_some,
    BitmapAllocationHandlerV1.onItem, htype, ↓reduceIte]
  congr 1

theorem insensitive_createScaledBitmap (inputs : Inputs) (receiver : Receiver) :
    Insensitive inputs receiver .createScaledBitmap := by
  intro prior prior'
  have hallocation : kBitmapEventTypeBitmapScaled ≠ kBitmapEventTypeAllocation := by decide
  have hdeallocation : kBitmapEventTypeBitmapScaled ≠ kBitmapEventTypeDeallocation := by decide
  have hstart : kBitmapEventTypeBitmapScaled ≠ kBitmapEventTypeActivityStart := by decide
  simp only [observed, createScaledBitmap, onBitmapEvent, Option.elim_some,
    BitmapAllocationHandlerV1.onItem, hallocation, hdeallocation, hstart, ↓reduceIte]
  congr 1

/-- Every handler tells two frees apart that claim different sizes. -/
theorem onItem_deallocation_ne (receiver : Receiver) {data data' : BitmapEvent}
    (htype : data.type = kBitmapEventTypeDeallocation)
    (htype' : data'.type = kBitmapEventTypeDeallocation)
    (hsize : data.bitmapSize = 0) (hsize' : data'.bitmapSize = 1) :
    onBitmapEvent receiver (some data) ≠ onBitmapEvent receiver (some data') := by
  intro heq
  simp only [onBitmapEvent, Option.elim_some, Observed.bitmap.injEq] at heq
  have hok : (receiver.bitmaps.onItem receiver.order receiver.uid receiver.writer
      data).1.outcome = .ok () := by
    have hlow := receiver.bitmaps.currentTotalBitmapSize.le_toInt
    have hhigh := receiver.bitmaps.currentTotalBitmapSize.toInt_lt
    have hne : kBitmapEventTypeDeallocation ≠ kBitmapEventTypeAllocation := by decide
    have hsame : exactI64 (receiver.bitmaps.currentTotalBitmapSize.toInt - (0 : UInt32).toNat) =
        .ok (Int64.ofInt (receiver.bitmaps.currentTotalBitmapSize.toInt - (0 : UInt32).toNat)) :=
      if_pos ⟨by simpa using hlow, by simpa using hhigh⟩
    simp only [BitmapAllocationHandlerV1.onItem, htype, hne, ↓reduceIte,
      BitmapAllocationHandlerV1.onDeallocation, hsize, hsame]
  have htotal := (BitmapAllocationHandlerV1.onItem_deallocation htype hok).2
  have htotal' := (BitmapAllocationHandlerV1.onItem_deallocation htype' (heq ▸ hok)).2
  rw [← heq, htotal, hsize, hsize', UInt32.toNat_zero, UInt32.toNat_one] at htotal'
  omega

/-- Records of zeros. -/
def zeros : Prior where
  bitmapEvent := zeroRecord
  bindServiceLocked :=
    let none : DisruptiveApp.CharArray := ⟨List.replicate maxStringLength 0, length_zeros⟩
    ⟨0, none, none, none, none, 0, none⟩
  componentEnabledSetting :=
    let none : DisruptiveApp.CharArray := ⟨List.replicate maxStringLength 0, length_zeros⟩
    ⟨0, none, none, 0, none⟩
  accessibilityEvent :=
    ⟨0, 0, 0, List.replicate maxStringLength 0, List.replicate maxStringLength 0, 0, 0,
      length_zeros, length_zeros⟩

/-- What is left of a free of a bitmap of the given size. -/
def afterFree (bitmapSize : UInt32) : Prior :=
  { zeros with bitmapEvent := { zeroRecord with
      type := kBitmapEventTypeDeallocation
      bitmapSize := bitmapSize } }

/-- What is left of the start of an activity. -/
def afterStart (name : String) : Prior :=
  { zeros with bitmapEvent := { zeroRecord with
      activityName := fill maxStringLength 0 (asBytes name)
      activityName_length := length_fill_name name } }

theorem not_insensitive_bitmapCreation (inputs : Inputs) (receiver : Receiver) :
    ¬ Insensitive inputs receiver .bitmapCreation := by
  intro hsame
  apply onItem_deallocation_ne receiver _ _ _ _ (hsame (afterFree 0) (afterFree 1)) <;> rfl

theorem insensitive_applyFreeFunction_iff (inputs : Inputs) (receiver : Receiver) :
    Insensitive inputs receiver .applyFreeFunction ↔
      WritesWhatIsRead inputs .applyFreeFunction := by
  unfold WritesWhatIsRead
  constructor
  · intro hsame hactive
    have hrecord : ∀ prior, observed inputs receiver .applyFreeFunction prior =
        onBitmapEvent receiver
          (some (freeRecord inputs.ctx.toPtRegs inputs.mem prior.bitmapEvent)) := by
      intro prior
      simp only [observed, applyFreeFunction, hactive, not_true_eq_false, ↓reduceIte]
    have hequal := hsame (afterFree 0) (afterFree 1)
    rw [hrecord, hrecord] at hequal
    apply onItem_deallocation_ne receiver _ _ _ _ hequal <;> rfl
  · intro hinactive prior prior'
    simp only [observed, applyFreeFunction, hinactive, not_false_eq_true, ↓reduceIte,
      onBitmapEvent, Option.elim_none]

theorem insensitive_activityPerformStart_iff (inputs : Inputs) (receiver : Receiver) :
    Insensitive inputs receiver .activityPerformStart ↔
      WritesWhatIsRead inputs .activityPerformStart := by
  have hallocation : kBitmapEventTypeActivityStart ≠ kBitmapEventTypeAllocation := by decide
  have hdeallocation : kBitmapEventTypeActivityStart ≠ kBitmapEventTypeDeallocation := by decide
  have hstart : ∀ prior, observed inputs receiver .activityPerformStart prior =
      .bitmap (receiver.bitmaps.onActivityStart { prior.bitmapEvent with
        activityName := (recordString inputs.mem (componentNameClassPtr inputs.ctx.toPtRegs
          inputs.mem) maxStringLength prior.bitmapEvent.activityName).2
        activityName_length := by
          rw [length_recordString (by decide) prior.bitmapEvent.activityName_length.ge,
            prior.bitmapEvent.activityName_length] }) := by
    intro prior
    simp only [observed, activityPerformStart, onBitmapEvent, Option.elim_some,
      BitmapAllocationHandlerV1.onItem, hallocation, hdeallocation, ↓reduceIte]
    rfl
  unfold WritesWhatIsRead
  obtain ⟨hnull, hread, hcopied⟩ | ⟨hreadable, ret, bytes, hcopied, hnul, -⟩ :=
    copiedString_cases inputs.mem (componentNameClassPtr inputs.ctx.toPtRegs inputs.mem)
      (show 0 < maxStringLength by decide)
  · -- the name is the one that was there before
    constructor
    · intro hsame
      have hequal := hsame (afterStart "a") (afterStart "b")
      simp only [hstart, recordString_eq_copiedString, hcopied, Option.elim_none,
        BitmapAllocationHandlerV1.onActivityStart] at hequal
      rw [afterStart, afterStart, bytesAsStr_fill (by decide) (by decide),
        bytesAsStr_fill (by decide) (by decide)] at hequal
      simp at hequal
    · rintro (hzero | hsome)
      · exact absurd hzero hnull
      · simp [hread] at hsome
  · constructor
    · exact fun _ => hreadable
    · intro _ prior prior'
      simp only [hstart, recordString_eq_copiedString, hcopied, Option.elim_some, overwrite,
        BitmapAllocationHandlerV1.onActivityStart, bytesAsStr_append hnul]

end Bitmap

/-- The bytes of older records show exactly where a program does not write
what its handler reads. -/
theorem insensitive_iff_writesWhatIsRead (inputs : Inputs) (receiver : Receiver)
    (program : Program) :
    Insensitive inputs receiver program ↔ WritesWhatIsRead inputs program := by
  cases program with
  | bitmapCreation =>
      exact iff_of_false (not_insensitive_bitmapCreation inputs receiver) not_false
  | bitmapCreationForSnapshot =>
      exact iff_of_true (insensitive_bitmapCreationForSnapshot inputs receiver) trivial
  | applyFreeFunction => exact insensitive_applyFreeFunction_iff inputs receiver
  | activityPerformStart => exact insensitive_activityPerformStart_iff inputs receiver
  | createScaledBitmap =>
      exact iff_of_true (insensitive_createScaledBitmap inputs receiver) trivial
  | bindServiceLocked => exact iff_of_true (insensitive_bindServiceLocked inputs receiver) trivial
  | setComponentEnabledSetting =>
      exact iff_of_true (insensitive_setComponentEnabledSetting inputs receiver) trivial
  | grantRuntimePermission =>
      exact iff_of_true (insensitive_grantRuntimePermission inputs receiver) trivial
  | dispatchGesture => exact iff_of_true (insensitive_dispatchGesture inputs receiver) trivial

/-- No memory is mapped and all registers are zero. -/
def blankInputs : Inputs := ⟨⟨⟨fun _ => 0⟩, 0⟩, fun _ => none, 0, ∅, 0⟩

/-- Fresh handlers, and an outside where every call succeeds. -/
def freshReceiver : Receiver where
  order := .asStored
  uid := 10001
  writer := fun _ => .ok ()
  bitmaps := .default
  env := ⟨false, 0, fun _ => .ok (), fun _ => .ok (), .ok false, fun _ => .ok 10001, .ok ()⟩
  service := ⟨.ok (), fun _ => .ok false, fun _ => .ok 10001, fun _ _ => .ok ()⟩
  accessibility := .default

/-- The record of a `bitmap_creation` is taken for the free of a bitmap whose
size depends on what the ring buffer held before. -/
theorem bitmapCreation_shows_afterFree :
    observed blankInputs freshReceiver .bitmapCreation (afterFree 0) ≠
      observed blankInputs freshReceiver .bitmapCreation (afterFree 1) := by
  apply onItem_deallocation_ne <;> rfl

end UprobeStats.StaleBytes
