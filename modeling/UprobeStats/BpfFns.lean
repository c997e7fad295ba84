/-
The helpers the BPF programs are written with: reads from the memory of the
traced process, which leave zeros behind when they fault, and the copy of a
Java string into a buffer of the program.
-/
import UprobeStats.Lib.Memory

namespace UprobeStats

open Memory

/-- `struct pt_regs`, as far as the programs read it. -/
structure PtRegs where
  regs : Fin 31 → UInt64

/-- Registers are numbered from 0. -/
instance (priority := high) neZero_registers : NeZero 31 := ⟨by decide⟩

/-- So are the arguments that the programs copy. -/
instance (priority := high) neZero_arguments : NeZero 6 := ⟨by decide⟩

/-- `struct pt_regs` for the programs that look at the stack as well. -/
structure StackRegs extends PtRegs where
  sp : UInt64

/-- `-EFAULT`. -/
def efault : Int := -14

theorem efault_neg : efault < 0 := by decide

/-- What a copy of `bytes` to the front of a buffer leaves in it. -/
def overwrite (dest bytes : List UInt8) : List UInt8 := bytes ++ dest.drop bytes.length

/-- `bpf_probe_read_user`: the return value and the bytes that were stored. -/
def bpfProbeReadUser (mem : Image) (size : Nat) (address : UInt64) : Int × List UInt8 :=
  match read mem address size with
  | some bytes => (0, bytes)
  | none => (efault, List.replicate size 0)

/-- `bpf_probe_read_user_str`: at most `size - 1` bytes and a NUL, or zeros
throughout. -/
def bpfProbeReadUserStr (mem : Image) (dest : List UInt8) (size : Nat) (address : UInt64) :
    Int × List UInt8 :=
  if size = 0 then (0, dest)
  else
    match readText mem address (size - 1) with
    | some text => (text.length + 1, overwrite dest (text ++ [0]))
    | none => (efault, overwrite dest (List.replicate size 0))

/-- `recordString`. -/
def recordString (mem : Image) (jstring : UInt64) (maxLength : Nat) (dest : List UInt8) :
    Int × List UInt8 :=
  if jstring = 0 then (0, overwrite dest [0])
  else
    match bpfProbeReadUser mem 4 (jstring + 8) with
    | (ret, bytes) =>
        if ret < 0 then (ret, dest)
        else
          let count := ofLittleEndian bytes / 2
          bpfProbeReadUserStr mem dest (if maxLength < count + 1 then maxLength else count + 1)
            (jstring + 16)

/-- `recordStringArg`. -/
def recordStringArg (mem : Image) (ctx : PtRegs) (maxLength : Nat) (position : Fin 6)
    (dest : List UInt8) : Int × List UInt8 :=
  recordString mem (ctx.regs ⟨2 + position, by omega⟩) maxLength dest

/-- What a read of `size` bytes leaves in a pointer that was `NULL` before. -/
def readPointer (mem : Image) (size : Nat) (address : UInt64) : UInt64 :=
  UInt64.ofNat (ofLittleEndian (bpfProbeReadUser mem size address).2)

/-- `recordStringArgFromSp`. -/
def recordStringArgFromSp (mem : Image) (ctx : StackRegs) (maxLength : Nat) (spOffset : UInt64)
    (dest : List UInt8) : Int × List UInt8 :=
  if (bpfProbeReadUser mem 4 (ctx.sp + spOffset)).1 < 0 then
    ((bpfProbeReadUser mem 4 (ctx.sp + spOffset)).1, dest)
  else recordString mem (readPointer mem 4 (ctx.sp + spOffset)) maxLength dest

/-- `load`, which drops the tag in the top byte of the address. -/
def load (mem : Image) (offset : UInt64) (length : Nat) (userSpaceAddress : UInt64) :
    Int × List UInt8 :=
  bpfProbeReadUser mem length ((userSpaceAddress &&& 0x00FFFFFFFFFFFFFF) + offset)

theorem length_overwrite {dest bytes : List UInt8} (hfits : bytes.length ≤ dest.length) :
    (overwrite dest bytes).length = dest.length := by
  simp only [overwrite, List.length_append, List.length_drop]
  omega

theorem length_bpfProbeReadUserStr {mem : Image} {dest : List UInt8} {size : Nat}
    (address : UInt64) (hfits : size ≤ dest.length) :
    (bpfProbeReadUserStr mem dest size address).2.length = dest.length := by
  unfold bpfProbeReadUserStr
  split
  · rfl
  · rename_i hsize
    split
    · rename_i text hread
      have hle := length_readText_le hread
      apply length_overwrite
      rw [List.length_append, List.length_singleton]
      omega
    · apply length_overwrite
      rw [List.length_replicate]
      exact hfits

/-- The buffer keeps its size. -/
theorem length_recordString {mem : Image} {jstring : UInt64} {maxLength : Nat}
    {dest : List UInt8} (hpos : 0 < maxLength) (hfits : maxLength ≤ dest.length) :
    (recordString mem jstring maxLength dest).2.length = dest.length := by
  unfold recordString
  split
  · apply length_overwrite
    rw [List.length_singleton]
    omega
  · dsimp only
    split
    · rfl
    · apply length_bpfProbeReadUserStr
      split <;> omega

theorem length_recordStringArgFromSp {mem : Image} {ctx : StackRegs} {maxLength : Nat}
    {spOffset : UInt64} {dest : List UInt8} (hpos : 0 < maxLength)
    (hfits : maxLength ≤ dest.length) :
    (recordStringArgFromSp mem ctx maxLength spOffset dest).2.length = dest.length := by
  unfold recordStringArgFromSp
  split
  · rfl
  · exact length_recordString hpos hfits

/-! What a copy depends on: where it goes plays no part in what is copied. -/

/-- The return value of `bpf_probe_read_user_str` and the bytes that it copies. -/
def copiedText (mem : Image) (size : Nat) (address : UInt64) : Int × Option (List UInt8) :=
  if size = 0 then (0, none)
  else
    match readText mem address (size - 1) with
    | some text => (text.length + 1, some (text ++ [0]))
    | none => (efault, some (List.replicate size 0))

/-- The same for `recordString`. -/
def copiedString (mem : Image) (jstring : UInt64) (maxLength : Nat) : Int × Option (List UInt8) :=
  if jstring = 0 then (0, some [0])
  else
    match read mem (jstring + 8) 4 with
    | none => (efault, none)
    | some bytes =>
        copiedText mem (if maxLength < ofLittleEndian bytes / 2 + 1 then maxLength
          else ofLittleEndian bytes / 2 + 1) (jstring + 16)

theorem bpfProbeReadUserStr_eq_copiedText (mem : Image) (dest : List UInt8) (size : Nat)
    (address : UInt64) :
    bpfProbeReadUserStr mem dest size address =
      ((copiedText mem size address).1,
        (copiedText mem size address).2.elim dest (overwrite dest)) := by
  unfold bpfProbeReadUserStr copiedText
  split
  · rfl
  · split <;> rfl

theorem recordString_eq_copiedString (mem : Image) (jstring : UInt64) (maxLength : Nat)
    (dest : List UInt8) :
    recordString mem jstring maxLength dest =
      ((copiedString mem jstring maxLength).1,
        (copiedString mem jstring maxLength).2.elim dest (overwrite dest)) := by
  unfold recordString copiedString
  by_cases hnull : jstring = 0
  · simp [hnull]
  · cases hread : read mem (jstring + 8) 4 with
    | none => simp [hnull, bpfProbeReadUser, hread, efault]
    | some bytes =>
        simp only [hnull, ↓reduceIte, bpfProbeReadUser, hread, lt_irrefl]
        exact bpfProbeReadUserStr_eq_copiedText ..

/-- With a buffer there is always something copied, and it is terminated. -/
theorem copiedText_cases {mem : Image} {size : Nat} {address : UInt64} (hsize : size ≠ 0) :
    ∃ ret bytes, copiedText mem size address = (ret, some bytes) ∧ 0 ∈ bytes ∧
      (ret = efault ∨ 0 ≤ ret) := by
  unfold copiedText
  rw [if_neg hsize]
  cases readText mem address (size - 1) with
  | some text => exact ⟨_, _, rfl, by simp, .inr (by omega)⟩
  | none => exact ⟨_, _, rfl, by simp [List.mem_replicate, hsize], .inl rfl⟩

/-- Nothing is copied exactly when there is a string whose length cannot be
read; what is copied otherwise is terminated, and every failure is `-EFAULT`. -/
theorem copiedString_cases (mem : Image) (jstring : UInt64) {maxLength : Nat}
    (hpos : 0 < maxLength) :
    (jstring ≠ 0 ∧ read mem (jstring + 8) 4 = none ∧
        copiedString mem jstring maxLength = (efault, none)) ∨
      (jstring = 0 ∨ (read mem (jstring + 8) 4).isSome) ∧
        ∃ ret bytes, copiedString mem jstring maxLength = (ret, some bytes) ∧ 0 ∈ bytes ∧
          (ret = efault ∨ 0 ≤ ret) := by
  by_cases hnull : jstring = 0
  · exact .inr ⟨.inl hnull, 0, [0], by simp [copiedString, hnull], by simp, .inr le_rfl⟩
  · cases hread : read mem (jstring + 8) 4 with
    | none => exact .inl ⟨hnull, rfl, by simp [copiedString, hnull, hread]⟩
    | some bytes =>
        refine .inr ⟨.inr rfl, ?_⟩
        simp only [copiedString, hnull, hread, ↓reduceIte]
        apply copiedText_cases
        split <;> omega

/-- What is copied is a text and at least one NUL, within the buffer. -/
theorem copiedText_eq_some {mem : Image} {size : Nat} {address : UInt64} {bytes : List UInt8}
    (hcopied : (copiedText mem size address).2 = some bytes) :
    ∃ text nuls, bytes = text ++ List.replicate (nuls + 1) 0 ∧ 0 ∉ text ∧
      text.length + nuls < size := by
  unfold copiedText at hcopied
  split at hcopied
  · cases hcopied
  · rename_i hsize
    split at hcopied
    · rename_i text hread
      cases hcopied
      have hle := length_readText_le hread
      exact ⟨text, 0, rfl, nul_notMem_readText hread, by omega⟩
    · cases hcopied
      refine ⟨[], size - 1, ?_, by simp, by simp only [List.length_nil]; omega⟩
      rw [List.nil_append, Nat.sub_add_cancel (by omega)]

theorem copiedString_eq_some {mem : Image} {jstring : UInt64} {maxLength : Nat}
    {bytes : List UInt8} (hpos : 0 < maxLength)
    (hcopied : (copiedString mem jstring maxLength).2 = some bytes) :
    ∃ text nuls, bytes = text ++ List.replicate (nuls + 1) 0 ∧ 0 ∉ text ∧
      text.length + nuls < maxLength := by
  unfold copiedString at hcopied
  split at hcopied
  · cases hcopied
    exact ⟨[], 0, rfl, by simp, by simpa using hpos⟩
  · split at hcopied
    · cases hcopied
    · obtain ⟨text, nuls, hbytes, hnul, hlength⟩ := copiedText_eq_some hcopied
      refine ⟨text, nuls, hbytes, hnul, ?_⟩
      split at hlength <;> omega

theorem bpfProbeReadUser_cases (mem : Image) (size : Nat) (address : UInt64) :
    (bpfProbeReadUser mem size address).1 = efault ∨
      (bpfProbeReadUser mem size address).1 = 0 := by
  unfold bpfProbeReadUser
  split
  · exact .inr rfl
  · exact .inl rfl

/-! Java strings. -/

/-- A compressed Java string in memory, laid out as `recordString` documents
it: twice the length at offset 8, the characters from offset 16 on. -/
structure JavaString (mem : Image) (jstring : UInt64) (content : List UInt8) : Prop where
  length_lt : content.length < 2 ^ 31
  count : read mem (jstring + 8) 4 = some (toLittleEndian 4 (2 * content.length))
  chars : read mem (jstring + 16) content.length = some content

/-- The object of a Java string. -/
def javaObject (content : List UInt8) : List UInt8 :=
  List.replicate 8 0 ++ toLittleEndian 4 (2 * content.length) ++ List.replicate 4 0 ++ content

theorem javaString_ofObjects (base : UInt64) {content : List UInt8}
    (hlength : content.length < 2 ^ 31) (rest : List (UInt64 × List UInt8)) :
    JavaString (ofObjects ((base, javaObject content) :: rest)) base content := by
  refine ⟨hlength, ?_, ?_⟩
  · rw [← length_toLittleEndian 4 (2 * content.length)]
    apply read_of_getElem?
    intro i hi
    rw [javaObject, List.append_assoc]
    exact ofObjects_head base (List.replicate 8 0) _ _ _ (by simp) hi
  · apply read_of_getElem?
    intro i hi
    have hplace := ofObjects_head base
      (List.replicate 8 0 ++ toLittleEndian 4 (2 * content.length) ++ List.replicate 4 0)
      content [] rest (by simp; omega) hi
    rw [List.append_nil] at hplace
    simpa [javaObject] using hplace

/-- A NUL-free string is copied up to the last byte of the buffer, which is
kept for the terminator; the return value counts both. -/
theorem recordString_eq_of_javaString {mem : Image} {jstring : UInt64} {content : List UInt8}
    (hstring : JavaString mem jstring content) (hnull : jstring ≠ 0) (hnul : 0 ∉ content)
    {maxLength : Nat} (hpos : 0 < maxLength) (dest : List UInt8) :
    recordString mem jstring maxLength dest =
      (((content.take (maxLength - 1)).length : Int) + 1,
        overwrite dest (content.take (maxLength - 1) ++ [0])) := by
  have hcount : ofLittleEndian (toLittleEndian 4 (2 * content.length)) / 2 = content.length := by
    have hlength := hstring.length_lt
    rw [ofLittleEndian_toLittleEndian, Nat.mod_eq_of_lt (by omega),
      Nat.mul_div_cancel_left _ (by omega)]
  have hsize : (if maxLength < content.length + 1 then maxLength else content.length + 1) - 1 =
      min (maxLength - 1) content.length := by
    split <;> omega
  have hread : readText mem (jstring + 16) (min (maxLength - 1) content.length) =
      some (content.take (maxLength - 1)) := by
    rw [readText_of_read hstring.chars hnul (Nat.min_le_right _ _), ← List.take_eq_take_min]
  have hne : ¬ (if maxLength < content.length + 1 then maxLength else content.length + 1) = 0 := by
    split <;> omega
  simp only [recordString, bpfProbeReadUser, bpfProbeReadUserStr, hnull, hstring.count, hcount,
    hsize, hread, hne, ↓reduceIte, lt_irrefl]

theorem recordString_of_javaString {mem : Image} {jstring : UInt64} {content : List UInt8}
    (hstring : JavaString mem jstring content) (hnull : jstring ≠ 0) (hnul : 0 ∉ content)
    {maxLength : Nat} (hpos : 0 < maxLength) (dest : List UInt8) :
    (recordString mem jstring maxLength dest).2 =
      overwrite dest (content.take (maxLength - 1) ++ [0]) := by
  rw [recordString_eq_of_javaString hstring hnull hnul hpos]

end UprobeStats
