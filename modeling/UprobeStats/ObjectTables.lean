/-
What an object tells of its maps and relocations, said without a stream, and
what the functions that look at them need to stay within their vectors.
-/
import UprobeStats.CodeSections
import UprobeStats.ObjectLoader

namespace UprobeStats.Loader

open Bytes Checked Checked.Prog

/-! The definitions and names of maps. -/

section Maps

variable (device : Device) (file : List UInt8) (shTable : List Elf64Shdr)
  (secStrTab : List UInt8)

/-- `readMaps` stays within the vectors. -/
def MapsFit : Prop :=
  NamedFits device shTable secStrTab (asBytes "maps") ∧
    ∀ mdData, (bytesNamed file shTable secStrTab (asBytes "maps")).1 = .ok mdData →
      mdData.length % sizeofBpfMapDef = 0 →
        SymNamesOfFit device file shTable secStrTab (asBytes "maps") none

/-- The names of the maps, by the values of their symbols, and why there are
no more. -/
def mapSymNames : Option Exit × List Name :=
  symNamesOf device file shTable secStrTab (asBytes "maps") none

/-- `withMapNames`. -/
def mapsNamed (md : List BpfMapDef) : Read (Option (List BpfMapDef × List Name)) :=
  match mapSymNames device file shTable secStrTab with
  | (some exit, _) =>
      (.error exit, (sectionSymsOf device file shTable secStrTab (asBytes "maps") none).2)
  | (none, mapNames) => (.ok (some (md, mapNames)), false)

/-- `readMaps`. -/
def mapsOf : Read (Option (List BpfMapDef × List Name)) :=
  match bytesNamed file shTable secStrTab (asBytes "maps") with
  | (.error exit, failed) =>
      if exit = .ret (-2) then (.ok none, failed) else (.error exit, failed)
  | (.ok mdData, _) =>
      if mdData.length % sizeofBpfMapDef ≠ 0 then (.error (.ret (-1)), false)
      else mapsNamed device file shTable secStrTab (mapDefsIn mdData)

end Maps

/-- When there are definitions, or none, the stream is still good. -/
theorem mapsOf_ok {device : Device} {file : List UInt8} {shTable : List Elf64Shdr}
    {secStrTab : List UInt8} {maps : Option (List BpfMapDef × List Name)}
    (hmaps : (mapsOf device file shTable secStrTab).1 = .ok maps) :
    (mapsOf device file shTable secStrTab).2 = false := by
  unfold mapsOf at hmaps ⊢
  rcases bytesNamed_cases file shTable secStrTab (asBytes "maps") with
    ⟨mdData, hbytes⟩ | hbytes | hbytes
  · simp only [hbytes] at hmaps ⊢
    split
    · rfl
    · rename_i hsize
      rw [if_neg hsize] at hmaps
      unfold mapsNamed at hmaps ⊢
      split at hmaps
      · cases hmaps
      · rfl
  · rw [hbytes]
    rfl
  · rw [hbytes] at hmaps
    cases hmaps

/-! Relocations. -/

section Relocations

variable (secStrTab : List UInt8) (symtab : List Elf64Sym) (mapNames : List Name)

/-- The symbol of that index has a name, or the index is refused. -/
def SymIdxFits (idx : Int) : Prop :=
  asInt symtab.length ≤ idx ∨
    0 ≤ idx ∧ ∃ sym, symtab[idx.toNat]? = some sym ∧ NameFits secStrTab sym.stName

/-- `getSymNameByIdx`. -/
def symNameAt (idx : Int) : Except Exit Name :=
  match symtab[idx.toNat]? with
  | some sym => if asInt symtab.length ≤ idx then .error (.ret (-1)) else nameAt secStrTab sym.stName
  | none => .error (.ret (-1))

/-- The instruction that a relocation changes is within the code. -/
def InsnFits (data : List UInt8) (offset : Nat) : Prop :=
  0 ≤ asInt (offset / 8) ∧ ∃ code, data[8 * (asInt (offset / 8)).toNat]? = some code ∧
    (code = bpfLdImmDw → 8 * (asInt (offset / 8)).toNat + 8 ≤ data.length)

/-- `applyRelo`. -/
def relocatedInsn (data : List UInt8) (offset : Nat) (fd : Int) : List UInt8 :=
  if data[8 * (asInt (offset / 8)).toNat]? = some bpfLdImmDw then
    patched data (asInt (offset / 8)).toNat fd
  else data

/-- The relocation of a symbol stays within the vectors. -/
def NamedReloFits (fds : Nat) (symName : Name) (offset : Nat) (data : List UInt8) : Prop :=
  ∀ j, mapIdx mapNames symName = some j → j < fds ∧ InsnFits data offset

/-- `applyNamedRelo`. -/
def relocatedNamed (mapFds : List Int) (symName : Name) (offset : Nat) (data : List UInt8) :
    List UInt8 :=
  match mapIdx mapNames symName with
  | none => data
  | some j => relocatedInsn data offset (mapFds[j]?.getD (-1))

/-- The relocations of a section up to one without a symbol stay within the
vectors. -/
def RelocationsFit (fds : Nat) (data : List UInt8) : List Elf64Rel → Prop
  | [] => True
  | rel :: rest => SymIdxFits secStrTab symtab (asInt rel.rSym) ∧
      ∀ symName, symNameAt secStrTab symtab (asInt rel.rSym) = .ok symName →
        NamedReloFits mapNames fds symName rel.rOffset data ∧ RelocationsFit fds data rest

/-- `relocate`. -/
def relocated (mapFds : List Int) : List Elf64Rel → List UInt8 → Bool × List UInt8
  | [], data => (true, data)
  | rel :: rest, data =>
      match symNameAt secStrTab symtab (asInt rel.rSym) with
      | .error _ => (false, data)
      | .ok symName =>
          relocated mapFds rest (relocatedNamed mapNames mapFds symName rel.rOffset data)

/-- The relocations of the sections stay within the vectors. -/
def AllRelocationsFit (fds : Nat) : List CodeSection → Prop
  | [] => True
  | cs :: rest =>
      RelocationsFit secStrTab symtab mapNames fds cs.data (relocations cs.relData) ∧
        ((∀ rel ∈ relocations cs.relData, ∃ symName,
          symNameAt secStrTab symtab (asInt rel.rSym) = .ok symName) → AllRelocationsFit fds rest)

/-- `relocateAll`. -/
def relocatedAll (mapFds : List Int) : List CodeSection → List CodeSection
  | [] => []
  | cs :: rest =>
      { cs with
        data := (relocated secStrTab symtab mapNames mapFds (relocations cs.relData) cs.data).2 } ::
      if (relocated secStrTab symtab mapNames mapFds (relocations cs.relData) cs.data).1 = true then
        relocatedAll mapFds rest
      else rest

end Relocations

section Apply

variable (device : Device) (file : List UInt8) (shTable : List Elf64Shdr)
  (secStrTab : List UInt8)

/-- `applyMapRelo` stays within the vectors. -/
def ApplyFits (fds : Nat) (cs : List CodeSection) : Prop :=
  SymNamesOfFit device file shTable secStrTab (asBytes "maps") none ∧
    ((mapSymNames device file shTable secStrTab).1 = none →
      AllRelocationsFit secStrTab (symbols file shTable)
        (mapSymNames device file shTable secStrTab).2 fds cs)

/-- `applyMapRelo`. -/
def appliedRelos (mapFds : List Int) (cs : List CodeSection) : Read (List CodeSection) :=
  match mapSymNames device file shTable secStrTab with
  | (some _, _) => (.ok cs, (sectionSymsOf device file shTable secStrTab (asBytes "maps") none).2)
  | (none, mapNames) =>
      (.ok (relocatedAll secStrTab (symbols file shTable) mapNames mapFds cs), false)

end Apply

section Insns

variable {data : List UInt8} {insnIndex : Nat} {fd : Int}

@[simp] theorem length_intBytes (n : Int) : (intBytes n).length = 4 := by simp [intBytes]

theorem length_patched (hlength : 8 * insnIndex + 8 ≤ data.length) :
    (patched data insnIndex fd).length = data.length := by
  simp [patched]
  omega

/-- The bytes after the assignments. -/
theorem getElem?_patched (hlength : 8 * insnIndex + 8 ≤ data.length) (p : Nat) :
    (patched data insnIndex fd)[p]? =
      if p = 8 * insnIndex + 1 then data[p]?.map withPseudoMapFd
      else if 8 * insnIndex + 4 ≤ p ∧ p < 8 * insnIndex + 8 then
        (intBytes fd)[p - (8 * insnIndex + 4)]?
      else data[p]? := by
  have htake : (data.take (8 * insnIndex + 4)).length = 8 * insnIndex + 4 := by
    rw [List.length_take]
    omega
  unfold patched
  rw [List.getElem?_modify, List.append_assoc]
  by_cases hlow : p < 8 * insnIndex + 4
  · rw [List.getElem?_append_left (by omega), List.getElem?_take_of_lt hlow]
    by_cases hregs : p = 8 * insnIndex + 1
    · simp [hregs]
    · simp [hregs, Ne.symm hregs, Nat.not_le.2 hlow]
  · rw [List.getElem?_append_right (by omega), htake, if_neg (by omega)]
    by_cases hhigh : p < 8 * insnIndex + 8
    · rw [List.getElem?_append_left (by rw [length_intBytes]; omega), if_pos (by omega)]
      simp [show 8 * insnIndex + 1 ≠ p by omega]
    · rw [List.getElem?_append_right (by rw [length_intBytes]; omega), length_intBytes,
        List.getElem?_drop, if_neg (by omega)]
      have hp : 8 * insnIndex + 8 + (p - (8 * insnIndex + 4) - 4) = p := by omega
      simp [show 8 * insnIndex + 1 ≠ p by omega, hp]

theorem applyRelo_does (data : List UInt8) (offset : Nat) (fd : Int) :
    (applyRelo data offset fd).Does false (InsnFits data offset)
      (.ok (relocatedInsn data offset fd), false) := by
  unfold applyRelo InsnFits relocatedInsn
  refine .check_bind ?_
  cases hcode : data[8 * (asInt (offset / 8)).toNat]? with
  | none => exact (Does.bind_fault (index_of_none hcode _ _) _).congr (by simp) rfl
  | some code =>
      refine .bind_ok (index_of_some hcode _ _) ?_
      by_cases hld : code = bpfLdImmDw
      · have hne : ¬ code ≠ bpfLdImmDw := fun hne => hne hld
        rw [if_neg hne, if_pos (congrArg some hld)]
        exact Does.congr (.check_bind (.pure _ _)) (by simp [hld]) rfl
      · rw [if_pos hld, if_neg (by simpa using hld)]
        exact (Does.pure _ _).congr (by simp [hld]) rfl

/-- Code that differs at most in its instructions' operands. -/
structure SameCode (data data' : List UInt8) : Prop where
  length_eq : data'.length = data.length
  code_eq : ∀ k : Nat, data'[8 * k]? = data[8 * k]?

theorem sameCode_relocatedInsn {offset : Nat} (hfits : InsnFits data offset) (fd : Int) :
    SameCode data (relocatedInsn data offset fd) := by
  unfold relocatedInsn
  split
  · rename_i hcode
    have hlength : 8 * (asInt (offset / 8)).toNat + 8 ≤ data.length := by
      obtain ⟨-, code, hcode', hfits⟩ := hfits
      exact hfits (Option.some.inj (hcode'.symm.trans hcode))
    refine ⟨length_patched hlength, fun k => ?_⟩
    rw [getElem?_patched hlength, if_neg (by omega), if_neg (by omega)]
  · exact ⟨rfl, fun _ => rfl⟩

theorem SameCode.insnFits_iff {data' : List UInt8} (hsame : SameCode data data') (offset : Nat) :
    InsnFits data' offset ↔ InsnFits data offset := by
  unfold InsnFits
  rw [hsame.length_eq, hsame.code_eq]

end Insns

section Fits

variable {secStrTab : List UInt8} {symtab : List Elf64Sym} {mapNames : List Name}

variable (mapNames) in
theorem applyNamedRelo_does (mapFds : List Int) (symName : Name) (offset : Nat)
    (data : List UInt8) :
    (applyNamedRelo mapNames mapFds symName offset data).Does false
      (NamedReloFits mapNames mapFds.length symName offset data)
      (.ok (relocatedNamed mapNames mapFds symName offset data), false) := by
  unfold applyNamedRelo NamedReloFits relocatedNamed
  cases mapIdx mapNames symName with
  | none => exact (Does.pure _ _).congr (by simp) rfl
  | some j =>
      cases hfd : mapFds[j]? with
      | none =>
          refine (Does.bind_fault (index_of_none hfd _ _) _).congr ?_ rfl
          simp [List.getElem?_eq_none_iff.1 hfd]
      | some fd =>
          refine (Does.bind_ok (index_of_some hfd _ _) (applyRelo_does data offset fd)).congr ?_ ?_
          · simp [(List.getElem?_eq_some_iff.1 hfd).1]
          · simp only [hfd, Option.getD_some]

theorem sameCode_relocatedNamed {mapFds : List Int} {symName : Name} {offset : Nat}
    {data : List UInt8} (hfits : NamedReloFits mapNames mapFds.length symName offset data) :
    SameCode data (relocatedNamed mapNames mapFds symName offset data) := by
  unfold relocatedNamed
  cases hidx : mapIdx mapNames symName with
  | none => exact ⟨rfl, fun _ => rfl⟩
  | some j => exact sameCode_relocatedInsn (hfits j hidx).2 _

theorem SameCode.relocationsFit_iff {data data' : List UInt8} (hsame : SameCode data data')
    (fds : Nat) (rels : List Elf64Rel) :
    RelocationsFit secStrTab symtab mapNames fds data' rels ↔
      RelocationsFit secStrTab symtab mapNames fds data rels := by
  induction rels with
  | nil => exact Iff.rfl
  | cons rel rest ih => simp only [RelocationsFit, NamedReloFits, ih, hsame.insnFits_iff]

variable (secStrTab symtab mapNames) in
theorem relocated_fst_iff (mapFds : List Int) (rels : List Elf64Rel) (data : List UInt8) :
    (relocated secStrTab symtab mapNames mapFds rels data).1 = true ↔
      ∀ rel ∈ rels, ∃ symName, symNameAt secStrTab symtab (asInt rel.rSym) = .ok symName := by
  induction rels generalizing data with
  | nil => simp [relocated]
  | cons rel rest ih =>
      rw [relocated]
      cases hname : symNameAt secStrTab symtab (asInt rel.rSym) with
      | error exit => simp [hname]
      | ok symName => simp [hname, ih]

end Fits

section Open

variable {device : Device} {file : List UInt8} {shTable : List Elf64Shdr}
  {secStrTab : List UInt8} (hopens : Opens device file shTable secStrTab)

include hopens

theorem Opens.withMapNames_does (md : List BpfMapDef) :
    (withMapNames device file md).Does false
      (SymNamesOfFit device file shTable secStrTab (asBytes "maps") none)
      (mapsNamed device file shTable secStrTab md) := by
  have hnames := hopens.getSectionSymNames_does (asBytes "maps") none
  unfold withMapNames mapsNamed mapSymNames
  rcases hof : symNamesOf device file shTable secStrTab (asBytes "maps") none with
    ⟨_ | exit, mapNames⟩
  · have hgood := symNamesOf_ok hof
    rw [hof, hgood] at hnames
    exact Does.congr (hnames.bind_value (.pure _ _)) (by simp) rfl
  · rw [hof] at hnames
    exact Does.congr (hnames.bind_value (.fail _ _)) (by simp) rfl

theorem Opens.readMaps_does :
    (readMaps device file).Does false (MapsFit device file shTable secStrTab)
      (mapsOf device file shTable secStrTab) := by
  have hnamed := (hopens.readSectionByName_does (asBytes "maps")).attempt
  unfold MapsFit mapsOf
  rcases bytesNamed_cases file shTable secStrTab (asBytes "maps") with
    ⟨mdData, hbytes⟩ | hbytes | hbytes
  · rw [hbytes] at hnamed ⊢
    have hnames := hopens.withMapNames_does (mapDefsIn mdData)
    refine Does.congr (hnamed.bind_value ((Does.fail (.ret (-1)) false).ite hnames)) ?_ rfl
    by_cases hsize : mdData.length % sizeofBpfMapDef = 0
    · simp [hsize]
    · simp [hsize]
  · rw [hbytes] at hnamed ⊢
    exact Does.congr (hnamed.bind_value (.pure none false)) (by simp) rfl
  · rw [hbytes] at hnamed ⊢
    exact Does.congr (hnamed.bind_value (Does.fail (Exit.ret (-1)) true)) (by simp [Read.failed]) rfl

section Symbols

variable {symtab : List Elf64Sym} (hsymtab : symtabOf file shTable = (.ok symtab, false))
  (hfits : SymtabFits device file shTable)

include hsymtab hfits

theorem Opens.getSymNameByIdx_does (idx : Int) :
    (getSymNameByIdx device file idx).Does false (SymIdxFits secStrTab symtab idx)
      (symNameAt secStrTab symtab idx, false) := by
  have htab := hopens.readSymTab_does false
  rw [hsymtab, Ending.andThen_ok] at htab
  refine .bind_ok (htab.ends_ok hfits) ?_
  unfold SymIdxFits symNameAt
  simp only [Bool.false_eq_true, ↓reduceIte]
  by_cases hrange : asInt symtab.length ≤ idx
  · rw [if_pos hrange]
    refine (Does.fail _ _).congr (by simp [hrange]) ?_
    cases symtab[idx.toNat]? with
    | none => rfl
    | some sym => simp [hrange]
  · rw [if_neg hrange]
    cases hsym : symtab[idx.toNat]? with
    | none =>
        refine Does.congr (.check_bind (.bind_fault (index_of_none hsym _ _) _)) ?_ rfl
        simp [hrange]
    | some sym =>
        refine Does.congr (.check_bind (.bind_ok (index_of_some hsym _ _)
          (hopens.getSymName_does sym.stName))) ?_ ?_
        · simp [hrange]
        · simp [hrange]

theorem Opens.relocate_does (mapNames : List Name) (mapFds : List Int) (rels : List Elf64Rel)
    (data : List UInt8) :
    (relocate device file mapNames mapFds rels data).Does false
      (RelocationsFit secStrTab symtab mapNames mapFds.length data rels)
      (.ok (relocated secStrTab symtab mapNames mapFds rels data), false) := by
  induction rels generalizing data with
  | nil => exact Does.pure (true, data) false
  | cons rel rest ih =>
      have hname := (hopens.getSymNameByIdx_does hsymtab hfits (asInt rel.rSym)).attempt
      rw [relocate, RelocationsFit, relocated]
      cases hat : symNameAt secStrTab symtab (asInt rel.rSym) with
      | error exit =>
          rw [hat] at hname
          exact Does.congr (hname.bind_value (.pure (false, data) false)) (by simp) rfl
      | ok symName =>
          rw [hat] at hname
          have happly := applyNamedRelo_does mapNames mapFds symName rel.rOffset data
          refine (hname.bind_value (happly.bind_value (ih _))).congr ?_ rfl
          simp only [Except.ok.injEq, forall_eq', and_congr_right_iff]
          intro _ hfit
          exact (sameCode_relocatedNamed hfit).relocationsFit_iff _ _

theorem Opens.relocateAll_does (mapNames : List Name) (mapFds : List Int) (cs : List CodeSection) :
    (relocateAll device file mapNames mapFds cs).Does false
      (AllRelocationsFit secStrTab symtab mapNames mapFds.length cs)
      (.ok (relocatedAll secStrTab symtab mapNames mapFds cs), false) := by
  induction cs with
  | nil => exact Does.pure [] false
  | cons codeSection rest ih =>
      have hsection := hopens.relocate_does hsymtab hfits mapNames mapFds
        (relocations codeSection.relData) codeSection.data
      have hfinished := relocated_fst_iff secStrTab symtab mapNames mapFds
        (relocations codeSection.relData) codeSection.data
      rw [relocateAll, AllRelocationsFit, relocatedAll, ← hfinished]
      rcases hof : relocated secStrTab symtab mapNames mapFds (relocations codeSection.relData)
        codeSection.data with ⟨_ | _, data⟩
      · rw [hof] at hsection
        exact Does.congr (hsection.bind_value (.pure _ _)) (by simp) rfl
      · rw [hof] at hsection
        exact Does.congr (hsection.bind_value (ih.bind_value (.pure _ _))) (by simp) rfl

end Symbols

theorem Opens.applyMapRelo_does (mapFds : List Int) (cs : List CodeSection) :
    (applyMapRelo device file mapFds cs).Does false
      (ApplyFits device file shTable secStrTab mapFds.length cs)
      (appliedRelos device file shTable secStrTab mapFds cs) := by
  have hnames := hopens.getSectionSymNames_does (asBytes "maps") none
  unfold ApplyFits appliedRelos mapSymNames
  rcases hof : symNamesOf device file shTable secStrTab (asBytes "maps") none with
    ⟨_ | exit, mapNames⟩
  · have hgood := symNamesOf_ok hof
    rw [hof, hgood] at hnames
    by_cases hfits : SymNamesOfFit device file shTable secStrTab (asBytes "maps") none
    · have hall := hopens.relocateAll_does (symtabOf_of_symNamesOf hof) hfits.1.1 mapNames mapFds cs
      exact (hnames.bind_value hall).congr (by simp) rfl
    · obtain ⟨fault, s', hfault⟩ := hnames.leaves hfits
      exact (Does.bind_fault hfault _).congr (by simp [hfits]) rfl
  · rw [hof] at hnames
    exact Does.congr (hnames.bind_value (.pure _ _)) (by simp) rfl

end Open

end UprobeStats.Loader
