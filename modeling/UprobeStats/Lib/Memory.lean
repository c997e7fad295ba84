/-
The memory of a process as someone outside reads it: bytes by address, some of
which are not mapped, numbers in little-endian order, and text that ends at a
NUL or where the reader's buffer does.
-/
import UprobeStats.Lib.Bytes

namespace Memory

/-- Memory by 64-bit address.  Reading `none` faults. -/
abbrev Image := UInt64 → Option UInt8

/-- The next `n` bytes from an address on. -/
def read (mem : Image) (address : UInt64) : Nat → Option (List UInt8)
  | 0 => some []
  | n + 1 =>
      match mem address, read mem (address + 1) n with
      | some byte, some rest => some (byte :: rest)
      | _, _ => none

/-- At most `n` bytes from an address on, up to and without the first NUL. -/
def readText (mem : Image) (address : UInt64) : Nat → Option (List UInt8)
  | 0 => some []
  | n + 1 =>
      match mem address with
      | none => none
      | some byte =>
          if byte = 0 then some []
          else (readText mem (address + 1) n).map (byte :: ·)

/-- Whoever finds each byte where it belongs can read them all. -/
theorem read_of_getElem? {mem : Image} {address : UInt64} {bytes : List UInt8}
    (hbytes : ∀ i, i < bytes.length → mem (address + UInt64.ofNat i) = bytes[i]?) :
    read mem address bytes.length = some bytes := by
  induction bytes generalizing address with
  | nil => rfl
  | cons byte rest ih =>
      have hfirst : mem address = some byte := by simpa using hbytes 0 (by simp)
      have hrest : read mem (address + 1) rest.length = some rest := by
        apply ih
        intro i hi
        have hnext := hbytes (i + 1) (by simpa using hi)
        have hplace : address + UInt64.ofNat (i + 1) = address + 1 + UInt64.ofNat i := by
          rw [UInt64.ofNat_add, UInt64.add_assoc, UInt64.add_comm (UInt64.ofNat i)]
          rfl
        rw [hplace] at hnext
        simpa using hnext
      simp [read, hfirst, hrest]

/-- A read depends only on the bytes it reads. -/
theorem read_congr {mem mem' : Image} {address : UInt64} {n : Nat}
    (hsame : ∀ i < n, mem (address + UInt64.ofNat i) = mem' (address + UInt64.ofNat i)) :
    read mem address n = read mem' address n := by
  induction n generalizing address with
  | zero => rfl
  | succ n ih =>
      have hfirst : mem address = mem' address := by simpa using hsame 0 (Nat.succ_pos n)
      have hrest : read mem (address + 1) n = read mem' (address + 1) n := by
        apply ih
        intro i hi
        have hplace : address + UInt64.ofNat (i + 1) = address + 1 + UInt64.ofNat i := by
          rw [UInt64.ofNat_add, UInt64.add_assoc, UInt64.add_comm (UInt64.ofNat i)]
          rfl
        rw [← hplace]
        exact hsame (i + 1) (Nat.succ_lt_succ hi)
      rw [read, read, hfirst, hrest]

theorem length_readText_le {mem : Image} {address : UInt64} {n : Nat} {text : List UInt8}
    (hread : readText mem address n = some text) : text.length ≤ n := by
  induction n generalizing address text with
  | zero =>
      simp only [readText, Option.some.injEq] at hread
      simp [← hread]
  | succ n ih =>
      simp only [readText] at hread
      split at hread
      · cases hread
      · split at hread
        · simp only [Option.some.injEq] at hread
          simp [← hread]
        · obtain ⟨rest, hrest, rfl⟩ := Option.map_eq_some_iff.1 hread
          have hle := ih hrest
          simpa using hle

theorem nul_notMem_readText {mem : Image} {address : UInt64} {n : Nat} {text : List UInt8}
    (hread : readText mem address n = some text) : 0 ∉ text := by
  induction n generalizing address text with
  | zero =>
      simp only [readText, Option.some.injEq] at hread
      simp [← hread]
  | succ n ih =>
      simp only [readText] at hread
      split at hread
      · cases hread
      · split at hread
        · simp only [Option.some.injEq] at hread
          simp [← hread]
        · rename_i byte _ hbyte
          obtain ⟨rest, hrest, rfl⟩ := Option.map_eq_some_iff.1 hread
          rw [List.mem_cons, not_or]
          exact ⟨fun heq => hbyte heq.symm, ih hrest⟩

/-- NUL-free bytes read as text give as many of themselves as are asked for. -/
theorem readText_of_read {mem : Image} {address : UInt64} {bytes : List UInt8}
    (hread : read mem address bytes.length = some bytes) (hnul : 0 ∉ bytes)
    {n : Nat} (hn : n ≤ bytes.length) : readText mem address n = some (bytes.take n) := by
  induction bytes generalizing address n with
  | nil =>
      obtain rfl : n = 0 := by simpa using hn
      rfl
  | cons byte rest ih =>
      cases n with
      | zero => rfl
      | succ n =>
          rw [List.length_cons, read] at hread
          split at hread
          · rename_i first others hfirst hothers
            simp only [Option.some.injEq, List.cons.injEq] at hread
            obtain ⟨rfl, rfl⟩ := hread
            rw [List.mem_cons, not_or] at hnul
            have hne : first ≠ 0 := fun heq => hnul.1 heq.symm
            have hrest := ih hothers hnul.2 (by simpa using hn)
            simp [readText, hfirst, hne, hrest]
          · cases hread

/-! Little-endian numbers. -/

def toLittleEndian : (width value : Nat) → List UInt8
  | 0, _ => []
  | width + 1, value => UInt8.ofNat value :: toLittleEndian width (value / 256)

def ofLittleEndian : List UInt8 → Nat
  | [] => 0
  | byte :: rest => byte.toNat + 256 * ofLittleEndian rest

@[simp] theorem length_toLittleEndian (width value : Nat) :
    (toLittleEndian width value).length = width := by
  induction width generalizing value with
  | zero => rfl
  | succ width ih => simp [toLittleEndian, ih]

theorem ofLittleEndian_toLittleEndian (width value : Nat) :
    ofLittleEndian (toLittleEndian width value) = value % 256 ^ width := by
  induction width generalizing value with
  | zero => simp [toLittleEndian, ofLittleEndian, Nat.mod_one]
  | succ width ih =>
      have hbyte : (UInt8.ofNat value).toNat = value % 256 := UInt8.toNat_ofNat'
      rw [toLittleEndian, ofLittleEndian, ih, hbyte, Nat.pow_succ, Nat.mul_comm (256 ^ width),
        Nat.mod_mul]

/-! Memory made of objects. -/

/-- Objects by their base addresses; where they overlap, the first one wins. -/
def ofObjects : List (UInt64 × List UInt8) → Image
  | [], _ => none
  | (base, bytes) :: rest, address =>
      match bytes[(address - base).toNat]? with
      | some byte => some byte
      | none => ofObjects rest address

/-- A part of the first object is found at its place. -/
theorem ofObjects_head (base : UInt64) (before bytes after : List UInt8)
    (rest : List (UInt64 × List UInt8))
    (hlength : before.length + bytes.length < 2 ^ 64) {i : Nat} (hi : i < bytes.length) :
    ofObjects ((base, before ++ bytes ++ after) :: rest)
      (base + UInt64.ofNat before.length + UInt64.ofNat i) = bytes[i]? := by
  have hoffset : (base + UInt64.ofNat before.length + UInt64.ofNat i - base).toNat =
      before.length + i := by
    have hsub : base + UInt64.ofNat before.length + UInt64.ofNat i - base =
        UInt64.ofNat (before.length + i) := by
      rw [UInt64.ofNat_add, UInt64.add_assoc, UInt64.add_comm base, UInt64.add_sub_cancel]
    rw [hsub, UInt64.toNat_ofNat']
    exact Nat.mod_eq_of_lt (by omega)
  have hget : (before ++ bytes ++ after)[before.length + i]? = some bytes[i] := by
    rw [List.append_assoc, List.getElem?_append_right (by omega), Nat.add_sub_cancel_left,
      List.getElem?_append_left hi, List.getElem?_eq_getElem hi]
  rw [List.getElem?_eq_getElem hi]
  simp only [ofObjects, hoffset, hget]

/-- An address outside the first object belongs to the others. -/
theorem ofObjects_tail {base address : UInt64} {bytes : List UInt8}
    {rest : List (UInt64 × List UInt8)} (hmiss : bytes.length ≤ (address - base).toNat) :
    ofObjects ((base, bytes) :: rest) address = ofObjects rest address := by
  simp [ofObjects, List.getElem?_eq_none hmiss]

theorem read_ofObjects_tail {base address : UInt64} {bytes : List UInt8}
    {rest : List (UInt64 × List UInt8)} {n : Nat}
    (hmiss : ∀ i < n, bytes.length ≤ (address + UInt64.ofNat i - base).toNat) :
    read (ofObjects ((base, bytes) :: rest)) address n = read (ofObjects rest) address n :=
  read_congr fun i hi => ofObjects_tail (hmiss i hi)

end Memory
