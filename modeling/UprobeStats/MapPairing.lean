/-
Maps and their relocations.  Definitions are found by their offset, names by
the rank of a symbol, descriptors by the order of the loop and symbols of
relocations by their index; for a well-formed object they belong together.
-/
import UprobeStats.ObjectTables

namespace UprobeStats.Loader

open Bytes Checked Checked.Prog Memory

/-- A well-formed object with maps: the symbols of the section `maps` stand at
its definitions, wherever they are in the symbol table, and have distinct
names. -/
structure MapObject (device : Device) (file : List UInt8) where
  shTable : List Elf64Shdr
  secStrTab : List UInt8
  symtab : List Elf64Sym
  mdData : List UInt8
  mapsIdx : Nat
  /-- The symbols of the maps, in the order of their values. -/
  syms : List Elf64Sym
  mapNames : List Name
  opens : Opens device file shTable secStrTab
  symtab_eq : symtabOf file shTable = (.ok symtab, false)
  mdData_eq : bytesNamed file shTable secStrTab (asBytes "maps") = (.ok mdData, false)
  mapsIdx_eq : secIdxFrom secStrTab (asBytes "maps") 0 shTable = .ok mapsIdx
  syms_perm : syms.Perm (sectionSyms symtab mapsIdx none)
  stValue_eq : ∀ i sym, syms[i]? = some sym → sym.stValue = sizeofBpfMapDef * i
  length_mdData : mdData.length = sizeofBpfMapDef * syms.length
  names_eq : List.Forall₂ (fun sym name => nameAt secStrTab sym.stName = .ok name) syms mapNames
  names_nodup : mapNames.Nodup
  named : ∀ sym ∈ symtab, NameFits secStrTab sym.stName ∧
    ∃ name, nameAt secStrTab sym.stName = .ok name
  length_symtab : symtab.length < 2 ^ 31

theorem pushed_of_names {secStrTab : List UInt8} {syms : List Elf64Sym} {mapNames : List Name}
    (hnames : List.Forall₂ (fun sym name => nameAt secStrTab sym.stName = .ok name) syms mapNames)
    (before : List Name) : pushed secStrTab syms before = (none, before ++ mapNames) := by
  induction hnames generalizing before with
  | nil => simp [pushed]
  | @cons sym name _ _ hname _ ih =>
      rw [pushed, hname]
      simpa using ih (before ++ [name])

/-- All relocations in the bytes of their section. -/
def relsIn (relData : List UInt8) : List Elf64Rel :=
  (structs 16 (relData.length / 16) relData).map .ofBytes

theorem relocations_eq_relsIn {relData : List UInt8} (hlength : relData.length / 16 < 2 ^ 31) :
    relocations relData = relsIn relData := by
  rw [relocations, asInt_of_lt hlength, Int.toNat_natCast, relsIn]

section Descriptors

variable (kernel : Kernel) (elfPath locPrefix : Name)

/-- The descriptor of the map with that definition and that name: an invalid
one if the version is excluded, else that of the map which is pinned at its
location, or which is created from them. -/
def IsDescriptor (i : Nat) (md : BpfMapDef) (mapName : Name) (fd : Int) : Prop :=
  if Excluded kernel.kvers md.minKver md.maxKver then fd = -1
  else ∃ answer : Nat, fd = answer ∧
    (kernel.mapRetrieveRO i (mapPinLoc elfPath locPrefix md mapName) = .ok answer ∨
      kernel.mapCreate i (mapRequest kernel md mapName) = .ok answer)

variable {kernel elfPath locPrefix}

theorem createMap_isDescriptor {i : Nat} {md : BpfMapDef} {mapName : Name} {fd : Int}
    {world world' : World}
    (hcreate : createMap kernel elfPath locPrefix i md mapName world = (.ok fd, world')) :
    IsDescriptor kernel elfPath locPrefix i md mapName fd ∧ world'.failed = world.failed := by
  unfold IsDescriptor
  rcases createMap_cases kernel elfPath locPrefix i world md mapName with
    ⟨exit, hcase⟩ | ⟨-, exit, left, -, hcase⟩ | ⟨hexcluded, hcase⟩ |
    ⟨hexcluded, -, answer, hanswer, hcase⟩ | ⟨hexcluded, -, answer, hanswer, hcase⟩
  · cases hcreate.symm.trans hcase
  · cases hcreate.symm.trans hcase
  · cases hcreate.symm.trans hcase
    exact ⟨by rw [if_pos hexcluded], rfl⟩
  · cases hcreate.symm.trans hcase
    rw [if_neg hexcluded]
    exact ⟨⟨answer, rfl, .inl hanswer⟩, rfl⟩
  · cases hcreate.symm.trans hcase
    rw [if_neg hexcluded]
    exact ⟨⟨answer, rfl, .inr hanswer⟩, rfl⟩

/-- The loop adds one descriptor for each name, that of its definition. -/
theorem createMapsFrom_eq_ok {md : List BpfMapDef} {i : Nat} {mapNames : List Name}
    {mapFds mapFds' : List Int} {world world' : World}
    (hcreate : createMapsFrom kernel elfPath locPrefix md i mapNames mapFds world =
      (.ok mapFds', world')) :
    world'.failed = world.failed ∧ ∃ added, mapFds' = mapFds ++ added ∧
      added.length = mapNames.length ∧
      ∀ (k : Nat) mapName fd, mapNames[k]? = some mapName → added[k]? = some fd →
        ∃ mapDef, md[i + k]? = some mapDef ∧
          IsDescriptor kernel elfPath locPrefix (i + k) mapDef mapName fd := by
  induction mapNames generalizing i mapFds world with
  | nil =>
      cases hcreate
      exact ⟨rfl, [], by simp⟩
  | cons mapName rest ih =>
      rw [createMapsFrom] at hcreate
      obtain ⟨mapDef, world₁, hindex, hturn⟩ := bind_apply_eq_ok_iff.1 hcreate
      obtain ⟨hmapDef, rfl⟩ := index_eq_ok_iff.1 hindex
      obtain ⟨fd, world₂, hmap, hrest⟩ := bind_apply_eq_ok_iff.1 hturn
      obtain ⟨hdescriptor, hfailed⟩ := createMap_isDescriptor hmap
      obtain ⟨hfailed', added, rfl, hlength, hadded⟩ := ih hrest
      refine ⟨hfailed'.trans hfailed, fd :: added, by simp, by simp [hlength], ?_⟩
      intro k other fd' hother hfd'
      cases k with
      | zero =>
          simp only [List.getElem?_cons_zero, Option.some.injEq] at hother hfd'
          subst hother hfd'
          exact ⟨mapDef, hmapDef, hdescriptor⟩
      | succ k =>
          rw [show i + (k + 1) = i + 1 + k by omega]
          exact hadded k other fd' hother hfd'

end Descriptors

/-! Instructions. -/

section Instructions

variable {data : List UInt8} {insnIndex : Nat} {fd : Int}

/-- The bytes of an instruction. -/
def instruction (data : List UInt8) (insnIndex : Nat) : List UInt8 :=
  (data.drop (8 * insnIndex)).take 8

/-- An instruction that loads the descriptor of a map. -/
def withMapFd (fd : Int) : List UInt8 → List UInt8
  | code :: regs :: offLow :: offHigh :: _ =>
      [code, withPseudoMapFd regs, offLow, offHigh] ++ intBytes fd
  | insn => insn

theorem getElem?_instruction (data : List UInt8) (m i : Nat) :
    (instruction data m)[i]? = if i < 8 then data[8 * m + i]? else none := by
  unfold instruction
  rw [List.getElem?_take, List.getElem?_drop]

theorem instruction_patched_ne (hlength : 8 * insnIndex + 8 ≤ data.length) {m : Nat} (hne : m ≠ insnIndex) :
    instruction (patched data insnIndex fd) m = instruction data m := by
  apply List.ext_getElem?
  intro i
  rw [getElem?_instruction, getElem?_instruction]
  split
  · rw [getElem?_patched hlength, if_neg (by omega), if_neg (by omega)]
  · rfl

theorem instruction_patched (hlength : 8 * insnIndex + 8 ≤ data.length) :
    instruction (patched data insnIndex fd) insnIndex = withMapFd fd (instruction data insnIndex) := by
  have hi : (instruction data insnIndex).length = 8 := by simp [instruction]; omega
  have hbyte := getElem?_instruction data insnIndex
  apply List.ext_getElem?
  intro i
  rw [getElem?_instruction]
  obtain ⟨code, regs, offLow, offHigh, rest, hinsn⟩ :
      ∃ code regs offLow offHigh rest, instruction data insnIndex =
        code :: regs :: offLow :: offHigh :: rest := by
    match hinsn : instruction data insnIndex, hi with
    | code :: regs :: offLow :: offHigh :: rest, _ => exact ⟨code, regs, offLow, offHigh, rest, rfl⟩
  rw [hinsn] at hbyte ⊢
  rw [getElem?_patched hlength]
  have hat : ∀ j, j < 8 → data[8 * insnIndex + j]? = (code :: regs :: offLow :: offHigh :: rest)[j]? := by
    intro j hj
    rw [hbyte, if_pos hj]
  rw [withMapFd]
  match i with
  | 0 => simpa using hat 0 (by omega)
  | 1 => simpa using congrArg (Option.map withPseudoMapFd) (hat 1 (by omega))
  | 2 => simpa using hat 2 (by omega)
  | 3 => simpa using hat 3 (by omega)
  | i + 4 =>
    by_cases hi4 : i < 4
    · have hplace : 8 * insnIndex + (i + 4) - (8 * insnIndex + 4) = i := by omega
      rw [if_pos (by omega), if_neg (by omega), if_pos (by omega), hplace]
      simp
    · rw [if_neg (by omega)]
      simp
      omega

/-- Code after relocations, each of which has a descriptor or none: the
instructions that have the right opcode and a descriptor are changed, and no
others. -/
structure PatchedBy (IsTarget : Elf64Rel → Int → Prop) (rels : List Elf64Rel)
    (data data' : List UInt8) : Prop where
  length_eq : data'.length = data.length
  changed : ∀ rel ∈ rels, ∀ fd, IsTarget rel fd →
    data[8 * (rel.rOffset / 8)]? = some bpfLdImmDw →
      instruction data' (rel.rOffset / 8) = withMapFd fd (instruction data (rel.rOffset / 8))
  kept : ∀ m, (∀ rel ∈ rels, rel.rOffset / 8 = m → (∃ fd, IsTarget rel fd) →
    data[8 * m]? ≠ some bpfLdImmDw) → instruction data' m = instruction data m

/-- One relocation more, before the others. -/
theorem PatchedBy.cons {IsTarget : Elf64Rel → Int → Prop} {rel : Elf64Rel} {rels : List Elf64Rel}
    {data data₁ data' : List UInt8} (hsame : SameCode data data₁)
    (hfirst : ∀ fd, IsTarget rel fd → data[8 * (rel.rOffset / 8)]? = some bpfLdImmDw →
      instruction data₁ (rel.rOffset / 8) = withMapFd fd (instruction data (rel.rOffset / 8)))
    (hother : ∀ m, (m = rel.rOffset / 8 → (∃ fd, IsTarget rel fd) →
      data[8 * m]? ≠ some bpfLdImmDw) → instruction data₁ m = instruction data m)
    (hdistinct : ∀ other ∈ rels, rel.rOffset / 8 ≠ other.rOffset / 8)
    (hrest : PatchedBy IsTarget rels data₁ data') :
    PatchedBy IsTarget (rel :: rels) data data' where
  length_eq := hrest.length_eq.trans hsame.length_eq
  changed := by
    intro other hmem fd htarget hcode
    rcases List.mem_cons.1 hmem with rfl | hmem
    · rw [← hfirst fd htarget hcode]
      refine hrest.kept _ fun next hnext hsame => ?_
      exact absurd hsame.symm (hdistinct next hnext)
    · have hne : other.rOffset / 8 ≠ rel.rOffset / 8 := (hdistinct other hmem).symm
      rw [← hother (other.rOffset / 8) fun heq => absurd heq hne]
      refine hrest.changed other hmem fd htarget ?_
      rw [hsame.code_eq]
      exact hcode
  kept := by
    intro m hnone
    have hkept : instruction data₁ m = instruction data m :=
      hother m fun heq => hnone rel List.mem_cons_self heq.symm
    rw [← hkept]
    refine hrest.kept m fun other hmem heq htarget => ?_
    rw [hsame.code_eq]
    exact hnone other (List.mem_cons_of_mem rel hmem) heq htarget

end Instructions

namespace MapObject

variable {device : Device} {file : List UInt8} (object : MapObject device file)

/-- The definition at the offset of the `i`th map. -/
def mapDef (i : Nat) : BpfMapDef :=
  .ofBytes ((object.mdData.drop (sizeofBpfMapDef * i)).take sizeofBpfMapDef)

theorem length_mapNames : object.mapNames.length = object.syms.length :=
  object.names_eq.length_eq.symm

/-- The sort leaves the symbols of the maps in the order of their values. -/
theorem sectionSyms_sort :
    sectionSyms (device.sort object.symtab) object.mapsIdx none = object.syms := by
  have hvalues : object.syms.Pairwise fun a b => a.stValue < b.stValue := by
    rw [List.pairwise_iff_getElem]
    intro i j hi hj hij
    rw [object.stValue_eq i _ (List.getElem?_eq_getElem hi),
      object.stValue_eq j _ (List.getElem?_eq_getElem hj), sizeofBpfMapDef]
    omega
  have hperm : (sectionSyms (device.sort object.symtab) object.mapsIdx none).Perm object.syms :=
    ((device.sort_perm object.symtab).filter _).trans object.syms_perm.symm
  refine List.Perm.eq_of_pairwise ?_ ((device.sort_sorted object.symtab).filter _)
    (hvalues.imp Nat.le_of_lt) hperm
  intro a b ha hb hab hba
  obtain ⟨i, hi⟩ := List.getElem?_of_mem (hperm.mem_iff.1 ha)
  obtain ⟨j, hj⟩ := List.getElem?_of_mem hb
  have hi' := object.stValue_eq i a hi
  have hj' := object.stValue_eq j b hj
  obtain rfl : i = j := by
    rw [sizeofBpfMapDef] at hi' hj'
    omega
  exact Option.some.inj (hi.symm.trans hj)

theorem sectionSymsOf_maps :
    sectionSymsOf device file object.shTable object.secStrTab (asBytes "maps") none =
      (.ok object.syms, false) := by
  rw [sectionSymsOf, object.symtab_eq, Ending.andThen_ok, object.mapsIdx_eq]
  change (Except.ok (sectionSyms (device.sort object.symtab) object.mapsIdx none), false) = _
  rw [object.sectionSyms_sort]

theorem mapSymNames_eq :
    mapSymNames device file object.shTable object.secStrTab = (none, object.mapNames) := by
  rw [mapSymNames, symNamesOf, object.sectionSymsOf_maps]
  exact (pushed_of_names object.names_eq []).trans (by simp)

theorem length_mdData_mod : object.mdData.length % sizeofBpfMapDef = 0 := by
  rw [object.length_mdData, Nat.mul_mod_right]

theorem mapsOf_eq : mapsOf device file object.shTable object.secStrTab =
    (.ok (some (mapDefsIn object.mdData, object.mapNames)), false) := by
  rw [mapsOf, object.mdData_eq]
  simp only [object.length_mdData_mod, ne_eq, not_true_eq_false, ↓reduceIte, mapsNamed,
    object.mapSymNames_eq]

theorem getElem?_mapDefsIn {i : Nat} (hi : i < object.syms.length) :
    (mapDefsIn object.mdData)[i]? = some (object.mapDef i) := by
  have hlength : object.mdData.length / sizeofBpfMapDef = object.syms.length := by
    rw [object.length_mdData, Nat.mul_div_cancel_left _ (by decide)]
  simp [mapDefsIn, structs, hlength, hi, mapDef]

variable {object} {kernel : Kernel} {elfPath locPrefix : Name} {world world' : World}
  {mapFds : List Int}

/-- When `createMaps` returns 0, the `i`th descriptor belongs to the definition
and to the symbol at the `i`th offset. -/
theorem createMaps_isDescriptor (hworld : world.failed = false)
    (hcreate : createMaps kernel device file elfPath locPrefix world = (.ok mapFds, world')) :
    MapsFit device file object.shTable object.secStrTab ∧ world'.failed = false ∧
      mapFds.length = object.syms.length ∧
      ∀ (i : Nat) mapName fd, object.mapNames[i]? = some mapName → mapFds[i]? = some fd →
        IsDescriptor kernel elfPath locPrefix i (object.mapDef i) mapName fd := by
  obtain ⟨maps, world₁, hreading, hloop⟩ := bind_apply_eq_ok_iff.1 hcreate
  obtain ⟨failed, hread, rfl⟩ := onPart_eq_ok_iff.1 hreading
  rw [hworld] at hread
  obtain ⟨hfits, hmaps⟩ := object.opens.readMaps_does.of_ok hread
  rw [object.mapsOf_eq] at hmaps
  cases hmaps
  obtain ⟨hfailed, added, rfl, hlength, hadded⟩ := createMapsFrom_eq_ok hloop
  refine ⟨hfits, hfailed, by simp [hlength, object.length_mapNames], ?_⟩
  intro i mapName fd hname hfd
  obtain ⟨mapDef, hmapDef, hdescriptor⟩ := hadded i mapName fd hname hfd
  have hi : i < object.syms.length := by
    rw [← object.length_mapNames]
    exact (List.getElem?_eq_some_iff.1 hname).1
  rw [Nat.zero_add, object.getElem?_mapDefsIn hi] at hmapDef
  cases hmapDef
  simpa using hdescriptor

/-! Relocations. -/

section Relocations

variable (object) (mapFds)

/-- The descriptor of the map that the symbol of a relocation names. -/
def IsMapFd (rel : Elf64Rel) (fd : Int) : Prop :=
  ∃ (j : Nat) (sym : Elf64Sym) (name : Name), object.symtab[rel.rSym]? = some sym ∧
    nameAt object.secStrTab sym.stName = .ok name ∧ object.mapNames[j]? = some name ∧
    mapFds[j]? = some fd

/-- The relocations of a section are well-formed: they have symbols, and the
instructions that they address are distinct and lie in the code. -/
structure Relocates (cs : CodeSection) : Prop where
  insns : cs.data.length % 8 = 0
  length_data : cs.data.length / 8 < 2 ^ 31
  length_relData : cs.relData.length / 16 < 2 ^ 31
  symbol_lt : ∀ rel ∈ relsIn cs.relData, rel.rSym < object.symtab.length
  offset_lt : ∀ rel ∈ relsIn cs.relData, rel.rOffset < cs.data.length
  distinct : (relsIn cs.relData).Pairwise fun a b => a.rOffset / 8 ≠ b.rOffset / 8

/-- A section after its relocations. -/
structure Relocated (cs cs' : CodeSection) : Prop where
  same : cs' = { cs with data := cs'.data }
  patched : PatchedBy (object.IsMapFd mapFds) (relsIn cs.relData) cs.data cs'.data

variable {object mapFds}

theorem symNameAt_eq {rel : Elf64Rel} (hrel : rel.rSym < object.symtab.length) :
    SymIdxFits object.secStrTab object.symtab (asInt rel.rSym) ∧
      ∃ sym name, object.symtab[rel.rSym]? = some sym ∧
        nameAt object.secStrTab sym.stName = .ok name ∧
        symNameAt object.secStrTab object.symtab (asInt rel.rSym) = .ok name := by
  have hlength := object.length_symtab
  have hidx : asInt rel.rSym = rel.rSym := asInt_of_lt (by omega)
  have hsize : asInt object.symtab.length = object.symtab.length := asInt_of_lt hlength
  have hsym : object.symtab[rel.rSym]? = some object.symtab[rel.rSym] :=
    List.getElem?_eq_getElem hrel
  obtain ⟨hfits, name, hname⟩ := object.named _ (List.getElem_mem hrel)
  refine ⟨.inr ⟨by omega, _, by rw [hidx]; exact hsym, hfits⟩, _, name, hsym, hname, ?_⟩
  rw [symNameAt, hidx, hsize, Int.toNat_natCast, hsym]
  simp only [Nat.cast_le]
  rw [if_neg (by omega)]
  exact hname

theorem mapIdx_eq_some_iff {name : Name} {j : Nat} :
    mapIdx object.mapNames name = some j ↔ object.mapNames[j]? = some name := by
  rw [mapIdx, List.findIdx?_eq_some_iff_getElem, List.getElem?_eq_some_iff]
  simp only [decide_eq_true_eq]
  constructor
  · rintro ⟨hj, hname, -⟩
    exact ⟨hj, hname⟩
  · rintro ⟨hj, hname⟩
    refine ⟨hj, hname, fun k hk hother => ?_⟩
    have hkj := (object.names_nodup.getElem_inj_iff).1 (hother.trans hname.symm)
    omega

/-- The code that a relocation is applied to. -/
structure Addresses (object : MapObject device file) (rel : Elf64Rel) (data : List UInt8) : Prop where
  symbol_lt : rel.rSym < object.symtab.length
  offset_lt : rel.rOffset < data.length
  insns : data.length % 8 = 0
  length_data : data.length / 8 < 2 ^ 31

theorem Relocates.addresses {cs : CodeSection} (hcs : object.Relocates cs) {rel : Elf64Rel}
    (hrel : rel ∈ relsIn cs.relData) : object.Addresses rel cs.data :=
  ⟨hcs.symbol_lt rel hrel, hcs.offset_lt rel hrel, hcs.insns, hcs.length_data⟩

theorem Addresses.asInt_eq {rel : Elf64Rel} {data : List UInt8}
    (hrel : object.Addresses rel data) : asInt (rel.rOffset / 8) = (rel.rOffset / 8 : Nat) := by
  have hoffset := hrel.offset_lt
  have hlength := hrel.length_data
  exact asInt_of_lt (by omega)

theorem Addresses.insn_le {rel : Elf64Rel} {data : List UInt8}
    (hrel : object.Addresses rel data) : 8 * (rel.rOffset / 8) + 8 ≤ data.length := by
  have hoffset := hrel.offset_lt
  have hinsns := hrel.insns
  omega

theorem Addresses.insnFits {rel : Elf64Rel} {data : List UInt8}
    (hrel : object.Addresses rel data) : InsnFits data rel.rOffset := by
  have hle := hrel.insn_le
  unfold InsnFits
  rw [hrel.asInt_eq, Int.toNat_natCast]
  exact ⟨by omega, _, List.getElem?_eq_getElem (by omega), fun _ => hle⟩

variable (hfds : mapFds.length = object.mapNames.length)

include hfds

theorem Addresses.namedReloFits {rel : Elf64Rel} {data : List UInt8}
    (hrel : object.Addresses rel data) (symName : Name) :
    NamedReloFits object.mapNames mapFds.length symName rel.rOffset data := by
  intro j hj
  refine ⟨?_, hrel.insnFits⟩
  rw [hfds]
  exact (List.getElem?_eq_some_iff.1 (mapIdx_eq_some_iff.1 hj)).1

theorem Addresses.relocatedNamed_changes {rel : Elf64Rel} {data : List UInt8}
    (hrel : object.Addresses rel data) {sym : Elf64Sym} {name : Name}
    (hsym : object.symtab[rel.rSym]? = some sym)
    (hname : nameAt object.secStrTab sym.stName = .ok name) :
    (∀ fd, object.IsMapFd mapFds rel fd → data[8 * (rel.rOffset / 8)]? = some bpfLdImmDw →
      instruction (relocatedNamed object.mapNames mapFds name rel.rOffset data) (rel.rOffset / 8) =
        withMapFd fd (instruction data (rel.rOffset / 8))) ∧
    ∀ m, (m = rel.rOffset / 8 → (∃ fd, object.IsMapFd mapFds rel fd) →
        data[8 * m]? ≠ some bpfLdImmDw) →
      instruction (relocatedNamed object.mapNames mapFds name rel.rOffset data) m =
        instruction data m := by
  have htarget : ∀ fd, object.IsMapFd mapFds rel fd ↔
      ∃ j : Nat, mapIdx object.mapNames name = some j ∧ mapFds[j]? = some fd := by
    intro fd
    constructor
    · rintro ⟨j, sym', name', hsym', hname', hj, hfd⟩
      cases hsym.symm.trans hsym'
      cases hname.symm.trans hname'
      exact ⟨j, mapIdx_eq_some_iff.2 hj, hfd⟩
    · rintro ⟨j, hj, hfd⟩
      exact ⟨j, sym, name, hsym, hname, mapIdx_eq_some_iff.1 hj, hfd⟩
  have hle := hrel.insn_le
  unfold relocatedNamed
  cases hidx : mapIdx object.mapNames name with
  | none => simp [htarget, hidx]
  | some j =>
      have hj := (hrel.namedReloFits hfds name j hidx).1
      have hfd : mapFds[j]? = some mapFds[j] := List.getElem?_eq_getElem hj
      have hfd' : mapFds[j]?.getD (-1) = mapFds[j] := by rw [hfd, Option.getD_some]
      simp only [hfd', relocatedInsn, hrel.asInt_eq, Int.toNat_natCast]
      by_cases hcode : data[8 * (rel.rOffset / 8)]? = some bpfLdImmDw
      · simp only [hcode, ↓reduceIte]
        constructor
        · intro fd hmap _
          obtain ⟨k, hk, hfdk⟩ := (htarget fd).1 hmap
          cases hidx.symm.trans hk
          cases hfd.symm.trans hfdk
          exact instruction_patched hle
        · intro m hm
          by_cases heq : m = rel.rOffset / 8
          · have hsome := (htarget mapFds[j]).2 ⟨j, hidx, hfd⟩
            exact absurd (heq ▸ hcode) (hm heq ⟨_, hsome⟩)
          · exact instruction_patched_ne hle heq
      · simp [hcode]

/-- The code of a section after its relocations. -/
theorem relocated_patchedBy {rels : List Elf64Rel} {data : List UInt8}
    (hrels : ∀ rel ∈ rels, object.Addresses rel data)
    (hdistinct : rels.Pairwise fun a b => a.rOffset / 8 ≠ b.rOffset / 8) :
    RelocationsFit object.secStrTab object.symtab object.mapNames mapFds.length data rels ∧
    (relocated object.secStrTab object.symtab object.mapNames mapFds rels data).1 = true ∧
    PatchedBy (object.IsMapFd mapFds) rels data
      (relocated object.secStrTab object.symtab object.mapNames mapFds rels data).2 := by
  induction rels generalizing data with
  | nil =>
      refine ⟨trivial, rfl, ⟨rfl, ?_, ?_⟩⟩
      · simp
      · intro m _
        rfl
  | cons rel rest ih =>
      have hrel := hrels rel List.mem_cons_self
      obtain ⟨hidx, sym, name, hsym, hname, hat⟩ := symNameAt_eq hrel.symbol_lt
      have hfits := hrel.namedReloFits hfds name
      have hsame := sameCode_relocatedNamed hfits
      obtain ⟨hfirst, hother⟩ := hrel.relocatedNamed_changes hfds hsym hname
      have hrest : ∀ other ∈ rest, object.Addresses other
          (relocatedNamed object.mapNames mapFds name rel.rOffset data) := by
        intro other hmem
        have hold := hrels other (List.mem_cons_of_mem rel hmem)
        refine ⟨hold.symbol_lt, ?_, ?_, ?_⟩
        · exact hsame.length_eq ▸ hold.offset_lt
        · exact hsame.length_eq ▸ hold.insns
        · exact hsame.length_eq ▸ hold.length_data
      obtain ⟨hrestFits, hfinished, hpatched⟩ := ih hrest hdistinct.of_cons
      rw [relocated, hat]
      refine ⟨?_, hfinished, ?_⟩
      · refine ⟨hidx, fun other hother => ?_⟩
        cases hat.symm.trans hother
        exact ⟨hfits, (hsame.relocationsFit_iff _ _).1 hrestFits⟩
      · exact PatchedBy.cons hsame hfirst hother (List.pairwise_cons.1 hdistinct).1 hpatched

end Relocations

theorem symbols_eq : symbols file object.shTable = object.symtab := by
  rw [symbols, object.symtab_eq]
  rfl

/-- The sections after their relocations. -/
theorem relocatedAll_forall₂ (hfds : mapFds.length = object.mapNames.length)
    {cs : List CodeSection} (hcs : ∀ codeSection ∈ cs, object.Relocates codeSection) :
    AllRelocationsFit object.secStrTab object.symtab object.mapNames mapFds.length cs ∧
      List.Forall₂ (object.Relocated mapFds) cs
        (relocatedAll object.secStrTab object.symtab object.mapNames mapFds cs) := by
  induction cs with
  | nil => exact ⟨trivial, .nil⟩
  | cons codeSection rest ih =>
      have hsection := hcs codeSection List.mem_cons_self
      obtain ⟨hfits, hfinished, hpatched⟩ := relocated_patchedBy hfds
        (fun rel => hsection.addresses) hsection.distinct
      obtain ⟨hrest, hforall⟩ := ih fun other hother => hcs other (List.mem_cons_of_mem _ hother)
      rw [AllRelocationsFit, relocatedAll, relocations_eq_relsIn hsection.length_relData,
        if_pos hfinished]
      exact ⟨⟨hfits, fun _ => hrest⟩, .cons ⟨rfl, hpatched⟩ hforall⟩

end MapObject

def twoMapStrings : List UInt8 :=
  asBytes "maps" ++ [0] ++ asBytes "alpha" ++ [0] ++ asBytes "beta" ++ [0] ++ asBytes "main" ++ [0]

def twoMapDefinitions : List UInt8 :=
  mapDefinition 0o660 1000 1000 0 ++ mapDefinition 0o660 1000 1000 (2 ^ 31)

def twoMapFile : List UInt8 :=
  object 2 [⟨0, 1, twoMapDefinitions⟩,
    ⟨4, shtSymtab, symbol 11 1 0 120 ++ symbol 16 sttFunc 5 0 ++ symbol 5 1 0 0⟩,
    ⟨4, 3, twoMapStrings⟩]

def twoMapObject : MapObject (stableDevice 1024) twoMapFile where
  shTable := [⟨0, 1, 64, 240⟩, ⟨4, 2, 304, 72⟩, ⟨4, 3, 376, 21⟩]
  secStrTab := twoMapStrings
  symtab := [⟨11, 1, 0, 120⟩, ⟨16, 2, 5, 0⟩, ⟨5, 1, 0, 0⟩]
  mdData := twoMapDefinitions
  mapsIdx := 0
  syms := [⟨5, 1, 0, 0⟩, ⟨11, 1, 0, 120⟩]
  mapNames := [asBytes "alpha", asBytes "beta"]
  opens := by
    refine Opens.of_eq ⟨397, 64, 3, 2⟩ ⟨4, 3, 376, 21⟩ ?_ ?_ ?_ ?_ ?_ ?_
    all_goals decide +kernel
  symtab_eq := by decide +kernel
  mdData_eq := by decide +kernel
  mapsIdx_eq := by decide +kernel
  syms_perm := by decide +kernel
  stValue_eq := by
    intro i sym hsym
    match i with
    | 0 => cases hsym; rfl
    | 1 => cases hsym; rfl
    | i + 2 => cases hsym
  length_mdData := by decide +kernel
  names_eq := .cons (by decide +kernel) (.cons (by decide +kernel) .nil)
  names_nodup := by decide +kernel
  named := by
    have hall : ∀ sym ∈ ([⟨11, 1, 0, 120⟩, ⟨16, 2, 5, 0⟩, ⟨5, 1, 0, 0⟩] : List Elf64Sym),
        0 ∈ twoMapStrings.drop (asInt sym.stName).toNat ∧ 0 ≤ asInt sym.stName ∧
          ¬ asInt twoMapStrings.length ≤ asInt sym.stName := by decide +kernel
    intro sym hsym
    obtain ⟨hnul, hpos, hrange⟩ := hall sym hsym
    exact ⟨.inr ⟨hpos, hnul⟩, _, by rw [nameAt, if_neg hrange]⟩
  length_symtab := by decide +kernel

/-- A program that loads the first of the maps. -/
def twoMapCode : CodeSection :=
  ⟨bpfProgTypeKprobe, asBytes "kprobe_main", [0x18, 1, 0, 0, 0, 0, 0, 0, 0, 0, 0, 0, 0, 0, 0, 0],
    toLittleEndian 8 0 ++ toLittleEndian 8 (2 * 2 ^ 32 + 1), none⟩

end UprobeStats.Loader
