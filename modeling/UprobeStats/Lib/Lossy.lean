/-
UTF-8 for readers that do not fail: each longest front of a character that
goes no further becomes one replacement character.
-/
import UprobeStats.Lib.Bytes

namespace Bytes

/-- The length of a character by its first byte, 0 if no character starts so. -/
def utf8CharWidth (first : UInt8) : Nat :=
  if first < 0x80 then 1
  else if first < 0xC2 then 0
  else if first < 0xE0 then 2
  else if first < 0xF0 then 3
  else if first < 0xF5 then 4
  else 0

/-- The bytes that may follow the first one. -/
def secondRange (first : UInt8) : UInt8 × UInt8 :=
  if first = 0xE0 then (0xA0, 0xBF)
  else if first = 0xED then (0x80, 0x9F)
  else if first = 0xF0 then (0x90, 0xBF)
  else if first = 0xF4 then (0x80, 0x8F)
  else (0x80, 0xBF)

/-- How many of the next bytes continue a character that wants so many. -/
def continued (range : UInt8 × UInt8) : Nat → List UInt8 → Nat
  | 0, _ => 0
  | _, [] => 0
  | missing + 1, byte :: rest =>
      if range.1 ≤ byte ∧ byte ≤ range.2 then continued (0x80, 0xBF) missing rest + 1 else 0

/-- The length of the next piece, and whether it is a character. -/
def lossyPiece (first : UInt8) (rest : List UInt8) : Nat × Bool :=
  let length := continued (secondRange first) (utf8CharWidth first - 1) rest + 1
  (length, decide (length = utf8CharWidth first))

/-- The replacement character. -/
def replacement : Char := '\uFFFD'

/-- The pieces as characters, as many as there may be bytes. -/
def lossyChars : Nat → List UInt8 → List Char
  | 0, _ => []
  | _, [] => []
  | fuel + 1, first :: rest =>
      let piece := lossyPiece first rest
      (if piece.2 then
        ((fromUtf8 ((first :: rest).take piece.1)).elim [replacement] String.toList)
      else [replacement]) ++ lossyChars fuel ((first :: rest).drop piece.1)

/-- `String::from_utf8_lossy`. -/
def fromUtf8Lossy (bytes : List UInt8) : String :=
  String.ofList (lossyChars bytes.length bytes)

theorem fromUtf8_utf8EncodeChar (c : Char) :
    fromUtf8 (String.utf8EncodeChar c) = some (String.ofList [c]) := by
  have hdecode := fromUtf8_asBytes (String.ofList [c])
  rwa [asBytes_ofList, List.flatMap_singleton] at hdecode

/-- A byte between two others. -/
theorem mem_range_iff {low high byte : UInt8} :
    low ≤ byte ∧ byte ≤ high ↔ low.toNat ≤ byte.toNat ∧ byte.toNat ≤ high.toNat := by
  rw [UInt8.le_iff_toNat_le, UInt8.le_iff_toNat_le]

theorem continued_succ {range : UInt8 × UInt8} {missing : Nat} {byte : UInt8} {rest : List UInt8}
    (hbyte : range.1.toNat ≤ byte.toNat ∧ byte.toNat ≤ range.2.toNat) :
    continued range (missing + 1) (byte :: rest) = continued (0x80, 0xBF) missing rest + 1 := by
  rw [continued, if_pos (mem_range_iff.2 hbyte)]

theorem utf8CharWidth_eq (first : UInt8) :
    utf8CharWidth first =
      if first.toNat < 0x80 then 1 else if first.toNat < 0xC2 then 0
      else if first.toNat < 0xE0 then 2 else if first.toNat < 0xF0 then 3
      else if first.toNat < 0xF5 then 4 else 0 := by
  simp only [utf8CharWidth, UInt8.lt_iff_toNat_lt]
  rfl

theorem toNat_ofNat_byte {n : Nat} (hn : n < 256) : (UInt8.ofNat n).toNat = n := by
  rw [UInt8.toNat_ofNat', Nat.mod_eq_of_lt hn]

/-- The second byte of a character of three or four bytes, in numbers. -/
theorem secondRange_toNat (first : UInt8) :
    (secondRange first).1.toNat =
        (if first.toNat = 0xE0 then 0xA0 else if first.toNat = 0xF0 then 0x90 else 0x80) ∧
      (secondRange first).2.toNat =
        (if first.toNat = 0xED then 0x9F else if first.toNat = 0xF4 then 0x8F else 0xBF) := by
  simp only [secondRange, ← UInt8.toNat_inj]
  constructor <;> split_ifs <;> simp_all

/-- A byte that continues a character. -/
def IsTail (byte : UInt8) : Prop := 0x80 ≤ byte.toNat ∧ byte.toNat ≤ 0xBF

theorem isTail_ofNat (n : Nat) : IsTail (UInt8.ofNat (n % 64 + 0x80)) := by
  rw [IsTail, toNat_ofNat_byte (by omega)]
  omega

theorem continued_tails {bytes : List UInt8} (hbytes : ∀ byte ∈ bytes, IsTail byte)
    (rest : List UInt8) : continued (0x80, 0xBF) bytes.length (bytes ++ rest) = bytes.length := by
  induction bytes with
  | nil => rfl
  | cons byte bytes ih =>
      obtain ⟨hbyte, hrest⟩ := List.forall_mem_cons.1 hbytes
      have hrange : ((0x80, 0xBF) : UInt8 × UInt8).1.toNat ≤ byte.toNat ∧
          byte.toNat ≤ ((0x80, 0xBF) : UInt8 × UInt8).2.toNat := hbyte
      rw [List.length_cons, List.cons_append, continued_succ hrange, ih hrest]

theorem lossyPiece_one {first : UInt8} (hfirst : first.toNat < 0x80) (rest : List UInt8) :
    lossyPiece first rest = (1, true) := by
  have hwidth : utf8CharWidth first = 1 := by rw [utf8CharWidth_eq, if_pos hfirst]
  simp [lossyPiece, hwidth, continued]

theorem lossyPiece_of_tails {first second : UInt8} {tails : List UInt8}
    (hwidth : utf8CharWidth first = tails.length + 2)
    (hsecond : (secondRange first).1.toNat ≤ second.toNat ∧
      second.toNat ≤ (secondRange first).2.toNat)
    (htails : ∀ byte ∈ tails, IsTail byte) (rest : List UInt8) :
    lossyPiece first (second :: tails ++ rest) = ((second :: tails).length + 1, true) := by
  have hcontinued : continued (secondRange first) (tails.length + 1) (second :: tails ++ rest) =
      tails.length + 1 := by
    rw [List.cons_append, continued_succ hsecond, continued_tails htails]
  simp only [lossyPiece, hwidth, Nat.add_succ_sub_one, hcontinued, List.length_cons, decide_true]

/-- A character is a piece. -/
theorem lossyPiece_utf8EncodeChar (c : Char) (rest : List UInt8) :
    ∃ first tail, String.utf8EncodeChar c = first :: tail ∧
      lossyPiece first (tail ++ rest) = (tail.length + 1, true) := by
  have hvalid : c.val.toNat < 0xD800 ∨ 0xDFFF < c.val.toNat ∧ c.val.toNat < 0x110000 := c.valid
  rw [String.utf8EncodeChar.eq_def]
  generalize c.val.toNat = v at hvalid
  dsimp only
  split_ifs with hone htwo hthree
  · refine ⟨_, [], rfl, lossyPiece_one ?_ rest⟩
    rw [toNat_ofNat_byte (by omega)]
    omega
  · refine ⟨_, _, rfl, lossyPiece_of_tails ?_ ?_ (List.forall_mem_nil _) rest⟩
    · rw [utf8CharWidth_eq, toNat_ofNat_byte (by omega)]
      split_ifs <;> first | rfl | omega
    · rw [(secondRange_toNat _).1, (secondRange_toNat _).2, toNat_ofNat_byte (by omega),
        toNat_ofNat_byte (by omega)]
      split_ifs <;> omega
  · refine ⟨_, _, rfl, lossyPiece_of_tails ?_ ?_ ?_ rest⟩
    · rw [utf8CharWidth_eq, toNat_ofNat_byte (by omega)]
      split_ifs <;> first | rfl | omega
    · rw [(secondRange_toNat _).1, (secondRange_toNat _).2, toNat_ofNat_byte (by omega),
        toNat_ofNat_byte (by omega)]
      split_ifs <;> omega
    · exact List.forall_mem_singleton.2 (isTail_ofNat v)
  · refine ⟨_, _, rfl, lossyPiece_of_tails ?_ ?_ ?_ rest⟩
    · rw [utf8CharWidth_eq, toNat_ofNat_byte (by omega)]
      split_ifs <;> first | rfl | omega
    · rw [(secondRange_toNat _).1, (secondRange_toNat _).2, toNat_ofNat_byte (by omega),
        toNat_ofNat_byte (by omega)]
      split_ifs <;> omega
    · exact List.forall_mem_cons.2
        ⟨isTail_ofNat (v / 64), List.forall_mem_singleton.2 (isTail_ofNat v)⟩

theorem lossyChars_flatMap (chars : List Char) {fuel : Nat}
    (hfuel : (chars.flatMap String.utf8EncodeChar).length ≤ fuel) :
    lossyChars fuel (chars.flatMap String.utf8EncodeChar) = chars := by
  induction chars generalizing fuel with
  | nil => cases fuel <;> rfl
  | cons c chars ih =>
      obtain ⟨first, tail, hencode, hpiece⟩ :=
        lossyPiece_utf8EncodeChar c (chars.flatMap String.utf8EncodeChar)
      have hlength : (String.utf8EncodeChar c).length = tail.length + 1 := by rw [hencode]; rfl
      rw [List.flatMap_cons, hencode, List.cons_append] at hfuel ⊢
      cases fuel with
      | zero => simp at hfuel
      | succ fuel =>
          have hrest : (chars.flatMap String.utf8EncodeChar).length ≤ fuel := by
            simp only [List.length_cons, List.length_append] at hfuel
            omega
          have htake : (first :: (tail ++ chars.flatMap String.utf8EncodeChar)).take
              (tail.length + 1) = String.utf8EncodeChar c := by
            rw [← List.cons_append, ← hencode, ← hlength, List.take_left]
          have hdrop : (first :: (tail ++ chars.flatMap String.utf8EncodeChar)).drop
              (tail.length + 1) = chars.flatMap String.utf8EncodeChar := by
            rw [← List.cons_append, ← hencode, ← hlength, List.drop_left]
          rw [lossyChars, hpiece, htake, hdrop, ih hrest, fromUtf8_utf8EncodeChar]
          simp

/-- Valid text is left as it is. -/
theorem fromUtf8Lossy_asBytes (s : String) : fromUtf8Lossy (asBytes s) = s := by
  rw [fromUtf8Lossy, asBytes, lossyChars_flatMap _ le_rfl, String.ofList_toList]

theorem flatMap_lossyChars {fuel : Nat} {bytes : List UInt8} (hfuel : bytes.length ≤ fuel)
    (hvalid : replacement ∉ lossyChars fuel bytes) :
    (lossyChars fuel bytes).flatMap String.utf8EncodeChar = bytes := by
  induction fuel generalizing bytes with
  | zero => rw [List.length_eq_zero_iff.1 (Nat.le_zero.1 hfuel)]; rfl
  | succ fuel ih =>
      cases bytes with
      | nil => rfl
      | cons first rest =>
          rw [lossyChars, List.mem_append, not_or] at hvalid
          obtain ⟨hpiece, hrest⟩ := hvalid
          have hlength : ((first :: rest).drop (lossyPiece first rest).1).length ≤ fuel := by
            simp only [lossyPiece, List.length_drop, List.length_cons] at hfuel ⊢
            omega
          rw [lossyChars, List.flatMap_append, ih hlength hrest]
          -- A piece that is no character would have left a replacement.
          by_cases hcharacter : (lossyPiece first rest).2 = true
          · rw [if_pos hcharacter] at hpiece ⊢
            cases hdecode : fromUtf8 ((first :: rest).take (lossyPiece first rest).1) with
            | none => simp [hdecode] at hpiece
            | some s =>
                have htake := asBytes_of_fromUtf8 hdecode
                rw [asBytes] at htake
                rw [Option.elim_some, htake, List.take_append_drop]
          · rw [if_neg hcharacter] at hpiece
            simp at hpiece

/-- Text without a replacement character is valid text. -/
theorem asBytes_fromUtf8Lossy {bytes : List UInt8}
    (hvalid : replacement ∉ (fromUtf8Lossy bytes).toList) :
    asBytes (fromUtf8Lossy bytes) = bytes := by
  rw [fromUtf8Lossy, String.toList_ofList] at hvalid
  rw [fromUtf8Lossy, asBytes_ofList, flatMap_lossyChars le_rfl hvalid]

end Bytes
