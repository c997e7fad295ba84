/-
What ends up in the records of the two programs for disruptive apps: the
references that a program gets to, one after the other, and the arrays that it
fills from them.
-/
import UprobeStats.DisruptiveApp

namespace UprobeStats.DisruptiveApp

open Memory

/-- A pointer that has to be there. -/
def nonNull (pointer : UInt64) : Option UInt64 := if pointer = 0 then none else some pointer

/-- The pointer that is read from an address, if the read succeeds. -/
def pointerAt (mem : Image) (address : UInt64) : Option UInt64 :=
  if (bpfProbeReadUser mem 4 address).1 < 0 then none else some (readPointer mem 4 address)

/-- Go on when the string could be copied. -/
def copied (mem : Image) (maxLength : Nat) (jstring : UInt64) : Option Unit :=
  if (copiedString mem jstring maxLength).1 < 0 then none else some ()

/-- An array after the copy of a string, if the program gets to it. -/
def filled (mem : Image) (maxLength : Nat) (hlength : 0 < maxLength ∧ maxLength ≤ maxStringLength)
    (reference : Option UInt64) (dest : CharArray) : CharArray :=
  match reference with
  | none => dest
  | some jstring => (recordInto mem jstring maxLength hlength dest).2

/-! The references of `uprobe/set_component_enabled_setting`. -/

namespace ComponentReferences

variable (ctx : StackRegs) (mem : Image)

def className : Option UInt64 := do
  let componentName ← nonNull (ctx.regs 2)
  pointerAt mem (componentName + kComponentNameClassOffset)

def packageName : Option UInt64 := do
  copied mem 64 (← className ctx mem)
  pointerAt mem (ctx.regs 2 + kComponentNamePackageOffset)

def callingPackageName : Option UInt64 := do
  copied mem 64 (← packageName ctx mem)
  return ctx.regs 6

end ComponentReferences

/-! The references of `uprobe/bind_service_locked`. -/

namespace BindReferences

variable (ctx : StackRegs) (mem : Image)

def intentPackage : Option UInt64 := do
  let intent ← nonNull (ctx.regs 4)
  pointerAt mem (intent + kIntentPackageOffset)

def intentAction : Option UInt64 := do
  copied mem maxStringLength (← intentPackage ctx mem)
  pointerAt mem (ctx.regs 4 + kIntentActionOffset)

def componentName : Option UInt64 := do
  copied mem maxStringLength (← intentAction ctx mem)
  nonNull (← pointerAt mem (ctx.regs 4 + kIntentComponentNameOffset))

def intentComponentNamePackage : Option UInt64 := do
  pointerAt mem ((← componentName ctx mem) + kComponentNamePackageOffset)

def intentComponentNameClass : Option UInt64 := do
  copied mem maxStringLength (← intentComponentNamePackage ctx mem)
  pointerAt mem ((← componentName ctx mem) + kComponentNameClassOffset)

def callingPackage : Option UInt64 := do
  copied mem maxStringLength (← intentComponentNameClass ctx mem)
  pointerAt mem (ctx.sp + kCallingPackageStackFrameOffset)

end BindReferences

/-! The programs, in terms of their references. -/

theorem readPointerOr_eq {α : Type} (mem : Image) (address : UInt64) (out : Int → α)
    (next : UInt64 → α) :
    readPointerOr mem address out next = (pointerAt mem address).elim (out efault) next := by
  unfold readPointerOr pointerAt
  rcases bpfProbeReadUser_cases mem 4 address with hfault | hok
  · simp [hfault, efault]
  · simp [hok]

theorem recordInto_fst (mem : Image) (jstring : UInt64) {maxLength : Nat}
    (hlength : 0 < maxLength ∧ maxLength ≤ maxStringLength) (dest : CharArray) :
    (recordInto mem jstring maxLength hlength dest).1 = (copiedString mem jstring maxLength).1 :=
  congrArg Prod.fst (recordString_eq_copiedString mem jstring maxLength dest.1)

theorem recordArgFromSp_eq (ctx : StackRegs) (mem : Image) (spOffset : UInt64)
    (dest : CharArray) :
    recordArgFromSp mem ctx spOffset dest =
      (pointerAt mem (ctx.sp + spOffset)).elim (efault, dest)
        (recordInto mem · maxStringLength wholeArray dest) := by
  unfold recordArgFromSp recordStringArgFromSp pointerAt recordInto
  rcases bpfProbeReadUser_cases mem 4 (ctx.sp + spOffset) with hfault | hok
  · simp [hfault, efault]
  · simp [hok]

theorem copiedString_fst (mem : Image) (jstring : UInt64) {maxLength : Nat}
    (hpos : 0 < maxLength) :
    (copiedString mem jstring maxLength).1 = efault ∨
      ¬ (copiedString mem jstring maxLength).1 < 0 := by
  rcases copiedString_cases mem jstring hpos with ⟨_, _, hfault⟩ | ⟨_, _, _, hcopied, _, hret⟩
  · exact .inl (by rw [hfault])
  · rw [hcopied]
    exact hret.imp_right not_lt.2

/-- The jump to `out` after a copy, which is one with `efault`. -/
theorem copied_elim {α : Type} (mem : Image) (jstring : UInt64) {maxLength : Nat}
    (hpos : 0 < maxLength) (output : α) (next : Int × α) :
    (if (copiedString mem jstring maxLength).1 < 0 then
        ((copiedString mem jstring maxLength).1, output)
      else next) =
      (copied mem maxLength jstring).elim (efault, output) fun _ => next := by
  rcases copiedString_fst mem jstring hpos with hfault | hcopied
  · simp [copied, hfault, efault_neg]
  · simp [copied, hcopied]

/-- Every array holds what was copied from its reference. -/
theorem recordComponent_snd (ctx : StackRegs) (mem : Image) (output : ComponentEnabledSetting) :
    ∃ newState, (recordComponent ctx mem output).2 = { output with
      className := filled mem 64 halfArray (ComponentReferences.className ctx mem) output.className
      packageName :=
        filled mem 64 halfArray (ComponentReferences.packageName ctx mem) output.packageName
      callingPackageName := filled mem 64 halfArray
        (ComponentReferences.callingPackageName ctx mem) output.callingPackageName
      newState := newState } := by
  unfold recordComponent ComponentReferences.callingPackageName ComponentReferences.packageName
    ComponentReferences.className nonNull
  simp only [readPointerOr_eq, recordInto_fst, copied_elim mem _ halfArray.1,
    Option.bind_eq_bind]
  by_cases hnull : ctx.regs 2 = 0
  · exact ⟨output.newState, by simp [hnull, filled]⟩
  rw [if_neg hnull, if_neg hnull, Option.bind_some]
  cases pointerAt mem (ctx.regs 2 + kComponentNameClassOffset) with
  | none => exact ⟨output.newState, by simp [filled]⟩
  | some className =>
  simp only [Option.elim_some, Option.bind_some]
  cases copied mem 64 className with
  | none => exact ⟨output.newState, by simp [filled]⟩
  | some _ =>
  simp only [Option.elim_some, Option.bind_some]
  cases pointerAt mem (ctx.regs 2 + kComponentNamePackageOffset) with
  | none => exact ⟨output.newState, by simp [filled]⟩
  | some packageName =>
  simp only [Option.elim_some, Option.bind_some]
  cases copied mem 64 packageName with
  | none => exact ⟨output.newState, by simp [filled]⟩
  | some _ =>
  simp only [Option.elim_some, Option.bind_some]
  cases copied mem 64 (ctx.regs 6) with
  | none => exact ⟨output.newState, by simp [filled]⟩
  | some _ => exact ⟨(ctx.regs 3).toUInt32.toInt32, by simp [filled]⟩

/-- The same for the other program, which ends well when it gets to the calling
package and can copy it. -/
theorem recordBind_eq (ctx : StackRegs) (mem : Image) (output : BindServiceLocked) :
    recordBind ctx mem output =
      ((BindReferences.callingPackage ctx mem).elim efault fun jstring =>
          (copiedString mem jstring maxStringLength).1,
        { output with
          intentPackage := filled mem maxStringLength wholeArray
            (BindReferences.intentPackage ctx mem) output.intentPackage
          intentAction := filled mem maxStringLength wholeArray
            (BindReferences.intentAction ctx mem) output.intentAction
          intentComponentNamePackage := filled mem maxStringLength wholeArray
            (BindReferences.intentComponentNamePackage ctx mem) output.intentComponentNamePackage
          intentComponentNameClass := filled mem maxStringLength wholeArray
            (BindReferences.intentComponentNameClass ctx mem) output.intentComponentNameClass
          callingPackage := filled mem maxStringLength wholeArray
            (BindReferences.callingPackage ctx mem) output.callingPackage }) := by
  unfold recordBind BindReferences.callingPackage BindReferences.intentComponentNameClass
    BindReferences.intentComponentNamePackage BindReferences.componentName
    BindReferences.intentAction BindReferences.intentPackage nonNull
  simp only [readPointerOr_eq, recordArgFromSp_eq, recordInto_fst, copied_elim mem _ wholeArray.1,
    Option.bind_eq_bind]
  by_cases hnull : ctx.regs 4 = 0
  · simp [hnull, filled]
  rw [if_neg hnull, if_neg hnull, Option.bind_some]
  cases pointerAt mem (ctx.regs 4 + kIntentPackageOffset) with
  | none => simp [filled]
  | some intentPackage =>
  simp only [Option.elim_some, Option.bind_some]
  cases copied mem maxStringLength intentPackage with
  | none => simp [filled]
  | some _ =>
  simp only [Option.elim_some, Option.bind_some]
  cases pointerAt mem (ctx.regs 4 + kIntentActionOffset) with
  | none => simp [filled]
  | some intentAction =>
  simp only [Option.elim_some, Option.bind_some]
  cases copied mem maxStringLength intentAction with
  | none => simp [filled]
  | some _ =>
  simp only [Option.elim_some, Option.bind_some]
  cases pointerAt mem (ctx.regs 4 + kIntentComponentNameOffset) with
  | none => simp [filled]
  | some componentName =>
  simp only [Option.elim_some, Option.bind_some]
  by_cases hnameNull : componentName = 0
  · simp [hnameNull, filled]
  rw [if_neg hnameNull, if_neg hnameNull, Option.bind_some]
  cases pointerAt mem (componentName + kComponentNamePackageOffset) with
  | none => simp [filled]
  | some componentPackage =>
  simp only [Option.elim_some, Option.bind_some]
  cases copied mem maxStringLength componentPackage with
  | none => simp [filled]
  | some _ =>
  simp only [Option.elim_some, Option.bind_some]
  cases pointerAt mem (componentName + kComponentNameClassOffset) with
  | none => simp [filled]
  | some componentClass =>
  simp only [Option.elim_some, Option.bind_some]
  cases copied mem maxStringLength componentClass with
  | none => simp [filled]
  | some _ =>
  simp only [Option.elim_some, Option.bind_some]
  cases pointerAt mem (ctx.sp + kCallingPackageStackFrameOffset) with
  | none => simp [filled]
  | some callingPackage => simp [recordInto_fst, filled]

/-! The records that are submitted. -/

/-- An array that the program gets to. -/
theorem filled_of_reference {mem : Image} {maxLength : Nat}
    (hlength : 0 < maxLength ∧ maxLength ≤ maxStringLength) {reference : Option UInt64}
    {jstring : UInt64} (hreference : reference = some jstring) (dest : CharArray) :
    (filled mem maxLength hlength reference dest).1 =
      (recordString mem jstring maxLength dest.1).2 := by
  subst hreference
  rfl

theorem setComponentEnabledSetting_fields {ctx : StackRegs} {mem : Image}
    {output record : ComponentEnabledSetting}
    (hsubmitted : (setComponentEnabledSetting ctx mem (some output)).2 = some record) :
    record.className =
        filled mem 64 halfArray (ComponentReferences.className ctx mem) output.className ∧
      record.packageName =
        filled mem 64 halfArray (ComponentReferences.packageName ctx mem) output.packageName ∧
      record.callingPackageName = filled mem 64 halfArray
        (ComponentReferences.callingPackageName ctx mem) output.callingPackageName := by
  obtain ⟨newState, hrecord⟩ := recordComponent_snd ctx mem { output with errorCode := 0 }
  cases hsubmitted
  rw [hrecord]
  exact ⟨rfl, rfl, rfl⟩

/-- The record of a call with the flag. -/
def boundRecord (ctx : StackRegs) (mem : Image) (output : BindServiceLocked) :
    BindServiceLocked where
  errorCode := Int64.ofInt ((BindReferences.callingPackage ctx mem).elim efault
    fun jstring => (copiedString mem jstring maxStringLength).1)
  intentAction := filled mem maxStringLength wholeArray
    (BindReferences.intentAction ctx mem) output.intentAction
  intentPackage := filled mem maxStringLength wholeArray
    (BindReferences.intentPackage ctx mem) output.intentPackage
  intentComponentNamePackage := filled mem maxStringLength wholeArray
    (BindReferences.intentComponentNamePackage ctx mem) output.intentComponentNamePackage
  intentComponentNameClass := filled mem maxStringLength wholeArray
    (BindReferences.intentComponentNameClass ctx mem) output.intentComponentNameClass
  bindFlags := (ctx.regs 7).toInt64
  callingPackage := filled mem maxStringLength wholeArray
    (BindReferences.callingPackage ctx mem) output.callingPackage

theorem bindServiceLocked_snd (ctx : StackRegs) (mem : Image) (output : BindServiceLocked) :
    (bindServiceLocked ctx mem (some output)).2 =
      if ctx.regs 7 &&& kBindAllowBackgroundActivityStartsFlag = 0 then none
      else some (boundRecord ctx mem output) := by
  simp only [bindServiceLocked, recordBind_eq]
  split <;> rfl

end UprobeStats.DisruptiveApp
