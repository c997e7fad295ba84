/-
All string fields of all records: the reference that each is filled from, and
what a handler reads from it.  Each call site of `recordString` brings its own
length, which should be that of the array.
-/
import UprobeStats.DisruptiveAppRecords
import UprobeStats.JavaStrings
import UprobeStats.ProcessPrograms
import UprobeStats.StaleBytes

namespace UprobeStats

open Bytes Memory

namespace RecordedStrings

/-- The programs that report a `ProcessChange`. -/
inductive ProcessProgram where
  | setPid
  | makeActive
  | onProcessActive
deriving DecidableEq, Repr

/-- The string fields of the records, a field that several programs fill once
for each of them. -/
inductive StringField where
  | packageName
  | permissionName
  | interfaceDescriptor
  | componentClassName
  | componentPackageName
  | componentCallingPackageName
  | intentPackage
  | intentAction
  | intentComponentNamePackage
  | intentComponentNameClass
  | callingPackage
  | activityName
  | processName (program : ProcessProgram)
  | reason
  | reasonAot
deriving DecidableEq, Repr

/-- A call of an instrumented method, as a program sees it. -/
structure Call where
  ctx : StackRegs
  pc : UInt64
  mem : Image
  ktimeGetNs : UInt64
  interfaces : InterfacesMap

/-- The records that the ring buffers hand out, with what is in them. -/
structure Reserved extends StaleBytes.Prior where
  processChange : ProcessChange
  reason : { bytes : List UInt8 // bytes.length = 256 }

/-- The program with the records of its ring buffer. -/
def ProcessProgram.run (program : ProcessProgram) (call : Call) (output : ProcessChange) :
    Option ProcessChange :=
  match program with
  | .setPid => (UprobeStats.setPid call.ctx.toPtRegs call.mem (some output)).2
  | .makeActive => (UprobeStats.makeActive call.ctx.toPtRegs call.mem (some output)).2
  | .onProcessActive => (UprobeStats.onProcessActive call.ctx.toPtRegs call.mem (some output)).2

/-- Where the program finds the reference to the name. -/
def ProcessProgram.nameAddress (program : ProcessProgram) (call : Call) : UInt64 :=
  match program with
  | .setPid | .makeActive => call.ctx.regs 1 + 0xa0
  | .onProcessActive => readPointer call.mem 4 (call.ctx.regs 1 + 0x8) + 52

namespace StringField

/-- The field of the record that the program submits, if it submits one. -/
def submitted (field : StringField) (call : Call) (reserved : Reserved) : Option (List UInt8) :=
  let grant := Accessibility.grantRuntimePermission call.ctx.toPtRegs call.mem call.ktimeGetNs
    (some reserved.accessibilityEvent)
  let transaction := execTransactInternal call.interfaces call.mem true call.ktimeGetNs
    call.ctx.toPtRegs
  let component := DisruptiveApp.setComponentEnabledSetting call.ctx call.mem
    (some reserved.componentEnabledSetting)
  let bind := DisruptiveApp.bindServiceLocked call.ctx call.mem (some reserved.bindServiceLocked)
  let start := Bitmap.activityPerformStart call.ctx.toPtRegs call.mem (some reserved.bitmapEvent)
  match field with
  | packageName => grant.2.map (·.packageName)
  | permissionName => grant.2.map (·.permissionName)
  | interfaceDescriptor => transaction.2.map (·.interfaceDescriptor)
  | componentClassName => component.2.map (·.className.1)
  | componentPackageName => component.2.map (·.packageName.1)
  | componentCallingPackageName => component.2.map (·.callingPackageName.1)
  | intentPackage => bind.2.map (·.intentPackage.1)
  | intentAction => bind.2.map (·.intentAction.1)
  | intentComponentNamePackage => bind.2.map (·.intentComponentNamePackage.1)
  | intentComponentNameClass => bind.2.map (·.intentComponentNameClass.1)
  | callingPackage => bind.2.map (·.callingPackage.1)
  | activityName => start.2.map (·.activityName)
  | processName program => (program.run call reserved.processChange).map (·.processName)
  | reason => some (updateDeviceIdleTempAllowlist call.ctx call.mem reserved.reason.1).reason
  | reasonAot =>
      some (updateDeviceIdleTempAllowlistAot call.ctx call.pc call.mem reserved.reason.1).reason

/-- The reference that the field is filled from, if the program gets to it. -/
def reference (field : StringField) (call : Call) : Option UInt64 :=
  match field with
  | packageName => some (call.ctx.regs 2)
  | permissionName => do
      DisruptiveApp.copied call.mem maxStringLength (call.ctx.regs 2)
      return call.ctx.regs 3
  | interfaceDescriptor =>
      some (readPointer call.mem 4 (call.ctx.regs 1 + kBinderDescriptorOffset))
  | componentClassName => DisruptiveApp.ComponentReferences.className call.ctx call.mem
  | componentPackageName => DisruptiveApp.ComponentReferences.packageName call.ctx call.mem
  | componentCallingPackageName =>
      DisruptiveApp.ComponentReferences.callingPackageName call.ctx call.mem
  | intentPackage => DisruptiveApp.BindReferences.intentPackage call.ctx call.mem
  | intentAction => DisruptiveApp.BindReferences.intentAction call.ctx call.mem
  | intentComponentNamePackage =>
      DisruptiveApp.BindReferences.intentComponentNamePackage call.ctx call.mem
  | intentComponentNameClass =>
      DisruptiveApp.BindReferences.intentComponentNameClass call.ctx call.mem
  | callingPackage => DisruptiveApp.BindReferences.callingPackage call.ctx call.mem
  | activityName => some (Bitmap.componentNameClassPtr call.ctx.toPtRegs call.mem)
  | processName program => some (readPointer call.mem 4 (program.nameAddress call))
  | reason | reasonAot => DisruptiveApp.pointerAt call.mem (call.ctx.sp + 40)

/-- The array's length. -/
def capacity : StringField → Nat
  | processName _ | reason | reasonAot => 256
  | _ => maxStringLength

/-- The length that the call site brings. -/
def maxLength : StringField → Nat
  | componentClassName | componentPackageName | componentCallingPackageName => 64
  | processName _ | reason | reasonAot => 256
  | _ => maxStringLength

/-- The fields of `ComponentEnabledSetting`. -/
def isComponentEnabledSetting : StringField → Bool
  | componentClassName | componentPackageName | componentCallingPackageName => true
  | _ => false

variable {field : StringField} {call : Call} {reserved : Reserved} {jstring : UInt64}
  {bytes : List UInt8}

theorem maxLength_eq (field : StringField) :
    field.maxLength = if field.isComponentEnabledSetting then 64 else field.capacity := by
  cases field <;> rfl

theorem capacity_cases (field : StringField) :
    field.isComponentEnabledSetting = true ∧ field.capacity = 128 ∨
      field.isComponentEnabledSetting = false ∧ 0 < field.capacity := by
  cases field <;> simp [isComponentEnabledSetting, capacity, maxStringLength]

/-- A field that the program gets to holds what was copied from its reference. -/
theorem submitted_eq (hreference : field.reference call = some jstring)
    (hsubmitted : field.submitted call reserved = some bytes) :
    ∃ prior, bytes = (recordString call.mem jstring field.maxLength prior).2 := by
  cases field with
  | packageName =>
      cases hreference
      simp only [submitted, Accessibility.grantRuntimePermission] at hsubmitted
      split at hsubmitted <;> cases hsubmitted <;> exact ⟨_, rfl⟩
  | permissionName =>
      simp only [reference, DisruptiveApp.copied] at hreference
      split at hreference
      · cases hreference
      · rename_i hcopied
        cases hreference
        have hgrant : ¬ (recordStringArg call.mem call.ctx.toPtRegs maxStringLength 0
            reserved.accessibilityEvent.packageName).1 < 0 := by
          rw [recordStringArg, recordString_eq_copiedString]
          exact hcopied
        simp only [submitted, Accessibility.grantRuntimePermission, if_neg hgrant] at hsubmitted
        cases hsubmitted
        exact ⟨_, rfl⟩
  | interfaceDescriptor =>
      cases hreference
      simp only [submitted, execTransactInternal, Option.map_eq_some_iff] at hsubmitted
      obtain ⟨record, hrecord, rfl⟩ := hsubmitted
      split at hrecord
      · cases hrecord
      · split at hrecord <;> cases hrecord
        exact ⟨_, rfl⟩
  | componentClassName =>
      simp only [submitted, Option.map_eq_some_iff] at hsubmitted
      obtain ⟨record, hrecord, rfl⟩ := hsubmitted
      rw [(DisruptiveApp.setComponentEnabledSetting_fields hrecord).1]
      exact ⟨_, DisruptiveApp.filled_of_reference _ hreference _⟩
  | componentPackageName =>
      simp only [submitted, Option.map_eq_some_iff] at hsubmitted
      obtain ⟨record, hrecord, rfl⟩ := hsubmitted
      rw [(DisruptiveApp.setComponentEnabledSetting_fields hrecord).2.1]
      exact ⟨_, DisruptiveApp.filled_of_reference _ hreference _⟩
  | componentCallingPackageName =>
      simp only [submitted, Option.map_eq_some_iff] at hsubmitted
      obtain ⟨record, hrecord, rfl⟩ := hsubmitted
      rw [(DisruptiveApp.setComponentEnabledSetting_fields hrecord).2.2]
      exact ⟨_, DisruptiveApp.filled_of_reference _ hreference _⟩
  | intentPackage | intentAction | intentComponentNamePackage | intentComponentNameClass
  | callingPackage =>
      simp only [submitted, DisruptiveApp.bindServiceLocked_snd] at hsubmitted
      split at hsubmitted <;> cases hsubmitted
      exact ⟨_, DisruptiveApp.filled_of_reference _ hreference _⟩
  | activityName =>
      cases hreference
      cases hsubmitted
      exact ⟨_, rfl⟩
  | processName program =>
      cases hreference
      cases program <;> cases hsubmitted <;> exact ⟨_, rfl⟩
  | reason | reasonAot =>
      have hread : ¬ (bpfProbeReadUser call.mem 4 (call.ctx.sp + 40)).1 < 0 := by
        intro hneg
        simp [reference, DisruptiveApp.pointerAt, hneg] at hreference
      simp only [reference, DisruptiveApp.pointerAt, if_neg hread, Option.some.injEq] at hreference
      cases hsubmitted
      refine ⟨reserved.reason.1, ?_⟩
      show (recordStringArgFromSp call.mem call.ctx 256 40 reserved.reason.1).2 = _
      rw [recordStringArgFromSp, if_neg hread, hreference]
      rfl

end StringField

/-- What is to come of a string in an array: it is read as it is if it fits,
and as a proper prefix if it does not. -/
structure ArrivesIntact (capacity : Nat) (s : String) (bytes : List UInt8) : Prop where
  fits : s.length < capacity → bytesAsStr bytes = .ok s
  cut : capacity ≤ s.length → ∃ t, bytesAsStr bytes = .ok t ∧ t.toList <+: s.toList ∧ t ≠ s

/-- The array is long enough, so all that matters is the length that the call
site brings. -/
theorem arrivesIntact_iff_of_take {capacity maxLength : Nat} {s : String} {bytes : List UInt8}
    (hpos : 0 < maxLength) (hfits : maxLength ≤ capacity)
    (hread : bytesAsStr bytes = .ok (takeChars (maxLength - 1) s)) :
    ArrivesIntact capacity s bytes ↔ (s.length < capacity → s.length < maxLength) := by
  constructor
  · intro hintact hshort
    have heq := hintact.fits hshort
    rw [hread, Except.ok.injEq, takeChars_eq_iff] at heq
    omega
  · intro hlength
    refine ⟨?_, ?_⟩
    · intro hshort
      have hle := hlength hshort
      rw [hread, takeChars_of_length_le (by omega)]
    · intro hlong
      refine ⟨_, hread, toList_takeChars_prefix _ s, ?_⟩
      rw [Ne, takeChars_eq_iff]
      omega

/-- A string arrives intact, but for the fields of `ComponentEnabledSetting`,
which take 63 characters into arrays of 128. -/
theorem arrivesIntact_iff (field : StringField) (call : Call) (reserved : Reserved)
    {jstring : UInt64} {s : String} {bytes : List UInt8}
    (hreference : field.reference call = some jstring)
    (hrefers : RefersTo call.mem jstring s) (hascii : IsAscii s)
    (hsubmitted : field.submitted call reserved = some bytes) :
    ArrivesIntact field.capacity s bytes ↔
      (field.isComponentEnabledSetting = true → s.length < 64 ∨ 128 ≤ s.length) := by
  obtain ⟨prior, rfl⟩ := StringField.submitted_eq hreference hsubmitted
  have hmax := field.maxLength_eq
  rcases field.capacity_cases with ⟨hcomponent, hcapacity⟩ | ⟨hother, hpos⟩
  · rw [if_pos hcomponent] at hmax
    rw [arrivesIntact_iff_of_take (by omega) (by omega)
      (hrefers.bytesAsStr_eq hascii (by omega) prior), hmax, hcapacity]
    simp only [hcomponent, forall_const]
    omega
  · rw [if_neg (by simp [hother])] at hmax
    rw [arrivesIntact_iff_of_take (by omega) hmax.le
      (hrefers.bytesAsStr_eq hascii (by omega) prior), hmax]
    simp [hother]

/-- A call that disables the component whose class has this name. -/
def classNameCall (name : String) : Call where
  ctx := ⟨⟨fun register => if register = 2 then 0x1000 else 0⟩, 0⟩
  pc := 0
  mem := ofObjects [
    (0x2000, javaObject (asBytes name)),
    (0x1000, List.replicate 8 0 ++ toLittleEndian 4 0x2000 ++ toLittleEndian 4 0)]
  ktimeGetNs := 0
  interfaces := ∅

theorem refersTo_classNameCall {name : String} (hlength : (asBytes name).length < 2 ^ 31) :
    RefersTo (classNameCall name).mem 0x2000 name := by
  rw [RefersTo, if_neg (by decide)]
  exact javaString_ofObjects 0x2000 hlength _

/-- Records of zeros. -/
def Reserved.zeros : Reserved where
  toPrior := StaleBytes.zeros
  processChange := ⟨0, 0, List.replicate 256 0, List.length_replicate⟩
  reason := ⟨List.replicate 256 0, List.length_replicate⟩

theorem launcher_arrives_intact :
    ∃ bytes, StringField.componentClassName.submitted (classNameCall "Launcher") .zeros =
        some bytes ∧
      (ArrivesIntact StringField.componentClassName.capacity "Launcher" bytes ↔
        (StringField.componentClassName.isComponentEnabledSetting = true →
          "Launcher".length < 64 ∨ 128 ≤ "Launcher".length)) :=
  ⟨_, rfl, arrivesIntact_iff .componentClassName (classNameCall "Launcher") .zeros
    (by decide +kernel) (refersTo_classNameCall (by decide)) (by decide) rfl⟩

/-- A class name that is longer than 63 characters, and shorter than its array. -/
def className100 : String := String.ofList (List.replicate 100 'a')

/-- Its last characters are lost. -/
theorem className100_cut :
    ¬ ∀ (field : StringField) (call : Call) (reserved : Reserved) (jstring : UInt64) (s : String)
      (bytes : List UInt8), field.reference call = some jstring → RefersTo call.mem jstring s →
        IsAscii s → field.submitted call reserved = some bytes →
          ArrivesIntact field.capacity s bytes := by
  intro hclaim
  have hascii : IsAscii className100 := by decide
  have hrefers : RefersTo (classNameCall className100).mem 0x2000 className100 := by
    apply refersTo_classNameCall
    rw [hascii.length_asBytes]
    decide
  have hreference : StringField.componentClassName.reference (classNameCall className100) =
      some 0x2000 := by decide +kernel
  have hintact := hclaim .componentClassName (classNameCall className100) .zeros 0x2000
    className100 _ hreference hrefers hascii rfl
  obtain ⟨prior, hcopied⟩ := StringField.submitted_eq hreference
    (show StringField.componentClassName.submitted (classNameCall className100) .zeros = some _
      from rfl)
  rw [hcopied, arrivesIntact_iff_of_take (by decide) (by decide)
    (hrefers.bytesAsStr_eq hascii (by decide) prior)] at hintact
  exact absurd (hintact (by decide)) (by decide)

end RecordedStrings

end UprobeStats
