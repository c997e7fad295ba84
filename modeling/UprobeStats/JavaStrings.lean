/-
Java strings on their way from the traced process to the handlers: a program
copies the characters into an array of its record, and a handler reads the
array up to the NUL.
-/
import UprobeStats.BpfFns
import UprobeStats.Strings

namespace UprobeStats

open Bytes Memory

/-- The reference is to a Java string with these characters, or it is null and
there are none. -/
def RefersTo (mem : Image) (jstring : UInt64) (s : String) : Prop :=
  if jstring = 0 then s = "" else JavaString mem jstring (asBytes s)

theorem RefersTo.copied {mem : Image} {jstring : UInt64} {s : String}
    (hrefers : RefersTo mem jstring s) (hascii : IsAscii s) {maxLength : Nat}
    (hpos : 0 < maxLength) (dest : List UInt8) :
    (recordString mem jstring maxLength dest).2 =
      overwrite dest (asBytes (takeChars (maxLength - 1) s) ++ [0]) := by
  unfold RefersTo at hrefers
  split at hrefers
  · rename_i hnull
    subst hrefers
    rw [hnull, recordString, if_pos rfl]
    simp [takeChars, asBytes]
  · rename_i hnull
    rw [recordString_of_javaString hrefers hnull hascii.nul_notMem hpos, hascii.take_asBytes]

/-- The copy succeeds. -/
theorem RefersTo.copiedString_fst {mem : Image} {jstring : UInt64} {s : String}
    (hrefers : RefersTo mem jstring s) (hascii : IsAscii s) {maxLength : Nat}
    (hpos : 0 < maxLength) :
    0 ≤ (copiedString mem jstring maxLength).1 ∧
      (copiedString mem jstring maxLength).1 ≤ maxLength := by
  unfold RefersTo at hrefers
  split at hrefers
  · rename_i hnull
    rw [copiedString, if_pos hnull]
    omega
  · rename_i hnull
    have hcopy := recordString_eq_of_javaString hrefers hnull hascii.nul_notMem hpos []
    rw [recordString_eq_copiedString, Prod.mk.injEq, List.length_take] at hcopy
    omega

/-- A handler reads as many of the characters as the call site asked for, less
one. -/
theorem RefersTo.bytesAsStr_eq {mem : Image} {jstring : UInt64} {s : String}
    (hrefers : RefersTo mem jstring s) (hascii : IsAscii s) {maxLength : Nat}
    (hpos : 0 < maxLength) (dest : List UInt8) :
    bytesAsStr (recordString mem jstring maxLength dest).2 =
      .ok (takeChars (maxLength - 1) s) := by
  have huntil : fromBytesUntilNul (recordString mem jstring maxLength dest).2 =
      some (asBytes (takeChars (maxLength - 1) s)) := by
    rw [hrefers.copied hascii hpos, overwrite, List.append_assoc, List.singleton_append,
      fromBytesUntilNul, if_pos (by simp), text_append_nul (hascii.take _).nul_notMem]
  simp only [bytesAsStr, huntil, fromUtf8_asBytes]

end UprobeStats
