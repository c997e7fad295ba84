/-
Byte strings as C and Rust see them: the UTF-8 bytes of a string, text up to
the first NUL, and fixed-size arrays that are initialised with one value and
overwritten by as much of a list as fits.
-/
import Mathlib.Data.List.TakeWhile
import Mathlib.Tactic

namespace Bytes

universe u

variable {α : Type u}

/-- An array of length `n` that starts out as all `default` and is overwritten
from the front by the elements of `values` that fit. -/
def fill (n : Nat) (default : α) (values : List α) : List α :=
  values.take n ++ List.replicate (n - values.length) default

@[simp] theorem length_fill (n : Nat) (default : α) (values : List α) :
    (fill n default values).length = n := by
  simp only [fill, List.length_append, List.length_take, List.length_replicate]
  omega

theorem fill_of_length_le {n : Nat} {default : α} {values : List α}
    (hlength : values.length ≤ n) :
    fill n default values = values ++ List.replicate (n - values.length) default := by
  rw [fill, List.take_of_length_le hlength]

theorem fill_of_le_length {n : Nat} {default : α} {values : List α}
    (hlength : n ≤ values.length) : fill n default values = values.take n := by
  simp [fill, Nat.sub_eq_zero_of_le hlength]

/-- The text in front of the first NUL. -/
def text (bytes : List UInt8) : List UInt8 := bytes.takeWhile (· ≠ 0)

/-- `CStr::from_bytes_until_nul`: the text in front of the first NUL, provided
there is one. -/
def fromBytesUntilNul (bytes : List UInt8) : Option (List UInt8) :=
  if 0 ∈ bytes then some (text bytes) else none

theorem nul_notMem_text (bytes : List UInt8) : 0 ∉ text bytes := by
  intro hmem
  have := List.mem_takeWhile_imp hmem
  simp at this

theorem text_append_nul {bytes rest : List UInt8} (hnul : 0 ∉ bytes) :
    text (bytes ++ 0 :: rest) = bytes := by
  rw [text, List.takeWhile_append_of_pos]
  · simp
  · intro byte hbyte
    have hne : byte ≠ 0 := fun heq => hnul (heq ▸ hbyte)
    simpa using hne

theorem length_text_lt {bytes : List UInt8} (hnul : 0 ∈ bytes) :
    (text bytes).length < bytes.length := by
  have hpre : text bytes <+: bytes := List.takeWhile_prefix _
  rcases Nat.lt_or_ge (text bytes).length bytes.length with hlt | hge
  · exact hlt
  · have heq := hpre.eq_of_length_le hge
    rw [← heq] at hnul
    exact absurd hnul (nul_notMem_text bytes)

/-- What follows the first NUL does not matter. -/
theorem text_append_of_nul_mem {bytes : List UInt8} (hnul : 0 ∈ bytes) (rest : List UInt8) :
    text (bytes ++ rest) = text bytes := by
  have hlt := length_text_lt hnul
  rw [text] at hlt
  rw [text, List.takeWhile_append, if_neg hlt.ne, text]

theorem fromBytesUntilNul_append {bytes : List UInt8} (hnul : 0 ∈ bytes) (rest : List UInt8) :
    fromBytesUntilNul (bytes ++ rest) = fromBytesUntilNul bytes := by
  rw [fromBytesUntilNul, fromBytesUntilNul, if_pos (List.mem_append_left _ hnul), if_pos hnul,
    text_append_of_nul_mem hnul]

/-- A NUL-free text that leaves room for the terminator is read back from its
array. -/
theorem text_fill {n : Nat} {bytes : List UInt8} (hnul : 0 ∉ bytes)
    (hlength : bytes.length < n) : text (fill n 0 bytes) = bytes := by
  obtain ⟨room, hroom⟩ : ∃ room, n - bytes.length = room + 1 :=
    ⟨n - bytes.length - 1, by omega⟩
  rw [fill_of_length_le hlength.le, hroom, List.replicate_succ]
  exact text_append_nul hnul

theorem nul_mem_fill {n : Nat} {bytes : List UInt8} (hlength : bytes.length < n) :
    0 ∈ fill n 0 bytes := by
  rw [fill_of_length_le hlength.le, List.mem_append, List.mem_replicate]
  exact Or.inr ⟨by omega, rfl⟩

/-- A NUL-free text that fills its array leaves no terminator in it. -/
theorem nul_notMem_fill {n : Nat} {bytes : List UInt8} (hnul : 0 ∉ bytes)
    (hlength : n ≤ bytes.length) : 0 ∉ fill n 0 bytes := by
  rw [fill_of_le_length hlength]
  exact fun hmem => hnul (List.mem_of_mem_take hmem)

/-- A text that ends within its array is read back from it. -/
theorem text_fill_of_nul_mem {n : Nat} {bytes : List UInt8} (hnul : 0 ∈ bytes)
    (harray : 0 ∈ fill n 0 bytes) : text (fill n 0 bytes) = text bytes := by
  rcases Nat.le_total n bytes.length with hlong | hshort
  · rw [fill_of_le_length hlong] at harray ⊢
    conv_rhs => rw [← List.take_append_drop n bytes]
    exact (text_append_of_nul_mem harray _).symm
  · rw [fill_of_length_le hshort]
    exact text_append_of_nul_mem hnul _

/-! UTF-8. -/

/-- `str::as_bytes`. -/
def asBytes (s : String) : List UInt8 := s.toList.flatMap String.utf8EncodeChar

/-- `str::from_utf8`, through the decoder. -/
def fromUtf8 (bytes : List UInt8) : Option String :=
  bytes.toByteArray.utf8Decode?.map fun chars => String.ofList chars.toList

theorem asBytes_ofList (chars : List Char) :
    asBytes (String.ofList chars) = chars.flatMap String.utf8EncodeChar := by
  rw [asBytes, String.toList_ofList]

theorem fromUtf8_asBytes (s : String) : fromUtf8 (asBytes s) = some s := by
  have hdecode : (asBytes s).toByteArray.utf8Decode? = some s.toList.toArray :=
    List.utf8Decode?_utf8Encode
  simp [fromUtf8, hdecode, String.ofList_toList]

theorem asBytes_of_fromUtf8 {bytes : List UInt8} {s : String}
    (hdecode : fromUtf8 bytes = some s) : asBytes s = bytes := by
  simp only [fromUtf8, Option.map_eq_some_iff] at hdecode
  obtain ⟨chars, hchars, rfl⟩ := hdecode
  have hsome : bytes.toByteArray.utf8Decode?.isSome = true := by rw [hchars]; rfl
  have hget : bytes.toByteArray.utf8Decode?.get hsome = chars := by simp [hchars]
  have hencode := ByteArray.utf8Encode_get_utf8Decode? (b := bytes.toByteArray) (h := hsome)
  rw [hget] at hencode
  rw [asBytes_ofList]
  exact List.toByteArray_inj.1 hencode

theorem zero_ne_ofNat {n : Nat} (hpos : 0 < n) (hlt : n < 256) : (0 : UInt8) ≠ UInt8.ofNat n := by
  intro heq
  have hnat := congrArg UInt8.toNat heq
  rw [UInt8.toNat_ofNat', Nat.mod_eq_of_lt (by simpa using hlt), UInt8.toNat_zero] at hnat
  omega

/-- Only the character NUL has a zero byte in its encoding. -/
theorem nul_mem_utf8EncodeChar {c : Char} : 0 ∈ String.utf8EncodeChar c ↔ c = '\x00' := by
  constructor
  · intro hmem
    unfold String.utf8EncodeChar at hmem
    dsimp only at hmem
    split at hmem
    · have hnat := congrArg UInt8.toNat (List.mem_singleton.1 hmem)
      rw [UInt8.toNat_ofNat', UInt8.toNat_zero] at hnat
      apply Char.ext
      apply UInt32.toNat_inj.1
      have hzero : c.val.toNat = 0 := by omega
      rw [hzero]
      rfl
    · exfalso
      split at hmem
      · simp only [List.mem_cons, List.not_mem_nil, or_false] at hmem
        rcases hmem with hmem | hmem <;> exact zero_ne_ofNat (by omega) (by omega) hmem
      · split at hmem
        · simp only [List.mem_cons, List.not_mem_nil, or_false] at hmem
          rcases hmem with hmem | hmem | hmem <;> exact zero_ne_ofNat (by omega) (by omega) hmem
        · simp only [List.mem_cons, List.not_mem_nil, or_false] at hmem
          rcases hmem with hmem | hmem | hmem | hmem <;>
            exact zero_ne_ofNat (by omega) (by omega) hmem
  · rintro rfl
    decide

/-- The text in front of the first NUL of a string is a string again. -/
theorem text_asBytes (s : String) :
    text (asBytes s) = asBytes (String.ofList (s.toList.takeWhile (· ≠ '\x00'))) := by
  rw [asBytes_ofList, asBytes]
  induction s.toList with
  | nil => rfl
  | cons c chars ih =>
      by_cases hc : c = '\x00'
      · subst hc
        simp [text, String.utf8EncodeChar]
      · have hbytes : ∀ byte ∈ String.utf8EncodeChar c, decide (byte ≠ 0) = true := by
          intro byte hbyte
          have hne : byte ≠ 0 := fun heq => hc (nul_mem_utf8EncodeChar.1 (heq ▸ hbyte))
          simpa using hne
        rw [List.takeWhile_cons_of_pos (by simpa using hc), List.flatMap_cons, List.flatMap_cons,
          ← ih, text, List.takeWhile_append_of_pos hbytes, text]

/-! The front of a string. -/

/-- The first characters of a string. -/
def takeChars (n : Nat) (s : String) : String := String.ofList (s.toList.take n)

theorem takeChars_of_length_le {n : Nat} {s : String} (hlength : s.length ≤ n) :
    takeChars n s = s := by
  rw [takeChars, List.take_of_length_le (by rwa [String.length_toList]), String.ofList_toList]

theorem length_takeChars (n : Nat) (s : String) : (takeChars n s).length = min n s.length := by
  rw [takeChars, String.length_ofList, List.length_take, String.length_toList]

theorem takeChars_eq_iff {n : Nat} {s : String} : takeChars n s = s ↔ s.length ≤ n := by
  refine ⟨?_, takeChars_of_length_le⟩
  intro heq
  have hlength := congrArg String.length heq
  rw [length_takeChars] at hlength
  omega

theorem takeChars_ne_empty {n : Nat} {s : String} (hpos : 0 < n) (hne : s ≠ "") :
    takeChars n s ≠ "" := by
  intro hempty
  have hlength := congrArg String.length hempty
  rw [length_takeChars, String.length_empty] at hlength
  have hzero : s.length = 0 := by omega
  exact hne (String.length_eq_zero_iff.1 hzero)

/-- A front that is shorter than it could be is all there is. -/
theorem takeChars_eq_iff_of_length_lt {n : Nat} {s t : String} (hlength : t.length < n) :
    takeChars n s = t ↔ s = t := by
  constructor
  · intro heq
    have hshort := congrArg String.length heq
    rw [length_takeChars] at hshort
    rw [← heq, takeChars_of_length_le (by omega)]
  · rintro rfl
    exact takeChars_of_length_le hlength.le

theorem toList_takeChars_prefix (n : Nat) (s : String) : (takeChars n s).toList <+: s.toList := by
  rw [takeChars, String.toList_ofList]
  exact List.take_prefix n s.toList

/-! ASCII without NUL, where a character is a byte. -/

/-- `s` has only characters of one byte, and none of them is NUL. -/
def IsAscii (s : String) : Prop := ∀ c ∈ s.toList, c ≠ '\x00' ∧ c.toNat < 128

instance (s : String) : Decidable (IsAscii s) := List.decidableBAll _ s.toList

theorem IsAscii.nul_notMem {s : String} (hascii : IsAscii s) : 0 ∉ asBytes s := by
  intro hmem
  obtain ⟨c, hc, hbyte⟩ := List.mem_flatMap.1 hmem
  exact (hascii c hc).1 (nul_mem_utf8EncodeChar.1 hbyte)

theorem utf8EncodeChar_of_lt {c : Char} (hlt : c.toNat < 128) :
    String.utf8EncodeChar c = [UInt8.ofNat c.toNat] := by
  rw [String.utf8EncodeChar.eq_def]
  exact if_pos (Nat.le_of_lt_succ hlt)

theorem IsAscii.asBytes_eq {s : String} (hascii : IsAscii s) :
    asBytes s = s.toList.map fun c => UInt8.ofNat c.toNat := by
  rw [asBytes, List.flatMap_congr fun c hc => utf8EncodeChar_of_lt (hascii c hc).2,
    List.map_eq_flatMap]

theorem IsAscii.take {s : String} (hascii : IsAscii s) (n : Nat) :
    IsAscii (takeChars n s) := by
  intro c hc
  rw [takeChars, String.toList_ofList] at hc
  exact hascii c (List.mem_of_mem_take hc)

theorem IsAscii.length_asBytes {s : String} (hascii : IsAscii s) :
    (asBytes s).length = s.length := by
  rw [hascii.asBytes_eq, List.length_map, String.length_toList]

theorem IsAscii.take_asBytes {s : String} (hascii : IsAscii s) (n : Nat) :
    (asBytes s).take n = asBytes (takeChars n s) := by
  rw [hascii.asBytes_eq, (hascii.take n).asBytes_eq, takeChars, String.toList_ofList,
    List.map_take]

theorem fromUtf8_text_asBytes (s : String) :
    fromUtf8 (text (asBytes s)) =
      some (String.ofList (s.toList.takeWhile (· ≠ '\x00'))) := by
  rw [text_asBytes, fromUtf8_asBytes]

end Bytes
