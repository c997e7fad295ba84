/-
Strings that the BPF programs hand over in fixed-size arrays.
-/
import UprobeStats.Error
import UprobeStats.Lib.Bytes

namespace UprobeStats

open Bytes

/-- `MAX_STRING_LENGTH` of the BPF structs. -/
def maxStringLength : Nat := 128

theorem length_zeros : (List.replicate maxStringLength (0 : UInt8)).length = maxStringLength :=
  List.length_replicate

/-- Every name makes a whole array. -/
theorem length_fill_name (name : String) :
    (fill maxStringLength 0 (asBytes name)).length = maxStringLength :=
  length_fill ..

/-- `bytes_as_str`. -/
def bytesAsStr (bytes : List UInt8) : Except AnyError String :=
  match fromBytesUntilNul bytes with
  | none => .error (.message "data provided does not contain a nul")
  | some string =>
      match fromUtf8 string with
      | none => .error (.message "invalid utf-8 sequence")
      | some s => .ok s

/-- `bytes_as_nonempty_str`. -/
def bytesAsNonemptyStr (bytes : List UInt8) : Except AnyError String := do
  let string ← bytesAsStr bytes
  if string.isEmpty then
    .error (.message "bytes_as_str returned an unexpected empty string")
  else
    return string

/-- `c_string`: the bytes without the NUL that ends them. -/
def cString (string : String) : Except AnyError (List UInt8) :=
  if 0 ∈ asBytes string then .error (.message "Failed to create CString")
  else .ok (asBytes string)

theorem cString_eq_ok_iff {string : String} {bytes : List UInt8} :
    cString string = .ok bytes ↔ 0 ∉ asBytes string ∧ bytes = asBytes string := by
  unfold cString
  split
  · simp [*]
  · simp [*, eq_comm]

/-- The string that is read is the text in front of the NUL. -/
theorem asBytes_of_bytesAsStr {bytes : List UInt8} {s : String}
    (hread : bytesAsStr bytes = .ok s) : asBytes s = text bytes := by
  unfold bytesAsStr fromBytesUntilNul at hread
  split at hread
  · cases hread
  · rename_i string huntil
    split at hread
    · cases hread
    · rename_i decoded hdecode
      cases hread
      split at huntil
      · cases huntil
        exact asBytes_of_fromUtf8 hdecode
      · cases huntil

/-- A name that leaves room for the terminator is read back from its array. -/
theorem bytesAsStr_fill {n : Nat} {name : String} (hnul : 0 ∉ asBytes name)
    (hlength : (asBytes name).length < n) : bytesAsStr (fill n 0 (asBytes name)) = .ok name := by
  have huntil : fromBytesUntilNul (fill n 0 (asBytes name)) = some (asBytes name) := by
    simp only [fromBytesUntilNul, nul_mem_fill hlength, text_fill hnul hlength, ↓reduceIte]
  simp only [bytesAsStr, huntil, fromUtf8_asBytes]

theorem bytesAsNonemptyStr_fill {n : Nat} {name : String} (hnul : 0 ∉ asBytes name)
    (hlength : (asBytes name).length < n) (hnonempty : name.isEmpty = false) :
    bytesAsNonemptyStr (fill n 0 (asBytes name)) = .ok name := by
  rw [bytesAsNonemptyStr, bytesAsStr_fill hnul hlength]
  simp [bind, Except.bind, hnonempty, pure, Except.pure]

end UprobeStats
