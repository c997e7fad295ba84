/-
What the reading functions find in a file, said without a stream.  For each of
them there is a condition on the file under which it stays within its vectors,
and the ending that it has then.
-/
import UprobeStats.ElfLoader

namespace UprobeStats.Loader

open Bytes Checked Checked.Prog

/-- How a function that reads the file ends, and whether the stream has failed
by then. -/
abbrev Read := Ending Bool Exit

/-- A read that fails. -/
def Read.failed {α : Type} (code : Int) : Read α := (.error (.ret code), true)

theorem seekg_of_lt {offset : Nat} (hoffset : offset < 2 ^ 63) :
    seekg offset false = (.ok (), false) := by
  rw [seekg, if_neg (by simpa using hoffset)]

theorem seekg_of_le {offset : Nat} (hoffset : 2 ^ 63 ≤ offset) :
    seekg offset false = (.error (.ret (-1)), true) := by
  rw [seekg, if_pos (.inr hoffset)]

theorem seekg_of_failed (offset : Nat) : seekg offset true = (.error (.ret (-1)), true) := by
  rw [seekg, if_pos (.inl rfl)]

/-- After the stream has failed, there are no section headers. -/
theorem readElfHeader_of_failed (file : List UInt8) :
    readElfHeader file true = (.error (.ret (-1)), true) := bind_of_error (seekg_of_failed 0) _

theorem readSectionHeadersAll_of_failed (file : List UInt8) :
    readSectionHeadersAll file true = (.error (.ret (-1)), true) :=
  bind_of_error (readElfHeader_of_failed file) _

theorem read_of {file : List UInt8} {offset : Nat} {size : Int}
    (hsize : 0 ≤ size ∧ size ≤ (file.length - offset : Nat)) (code : Int) :
    read file offset size code false = (.ok ((file.drop offset).take size.toNat), false) := by
  rw [read, if_pos hsize]

theorem read_of_not {file : List UInt8} {offset : Nat} {size : Int}
    (hsize : ¬ (0 ≤ size ∧ size ≤ (file.length - offset : Nat))) (code : Int) :
    read file offset size code false = (.error (.ret code), true) := by
  rw [read, if_neg hsize]

/-! The tables. -/

/-- `readElfHeader`. -/
def elfHeader (file : List UInt8) : Read Elf64Ehdr :=
  if 64 ≤ file.length then (.ok (.ofBytes (file.take 64)), false) else Read.failed (-1)

theorem readElfHeader_does (file : List UInt8) :
    (readElfHeader file).Does false True (elfHeader file) := by
  refine .bind_ok (seekg_of_lt (by decide)) ?_
  unfold elfHeader
  split
  · rename_i hlength
    exact .bind_ok (read_of ⟨by decide, by omega⟩ (-1)) (.pure _ _)
  · rename_i hlength
    exact .bind_error (read_of_not (by omega) (-1))

/-- The section headers do not overrun the vector they are read into. -/
def HeadersFit (file : List UInt8) : Prop :=
  ∀ eh, elfHeader file = (.ok eh, false) → eh.eShoff < 2 ^ 63 →
    min eh.tableSize (file.length - eh.eShoff : Nat) ≤ 64 * eh.eShnum

/-- The section headers at the place that the header names. -/
def tableAt (file : List UInt8) (eh : Elf64Ehdr) : Read (List Elf64Shdr) :=
  if 2 ^ 63 ≤ eh.eShoff then Read.failed (-1)
  else if 0 ≤ eh.tableSize ∧ eh.tableSize ≤ (file.length - eh.eShoff : Nat) then
    (.ok ((structs 64 eh.eShnum (fill (64 * eh.eShnum) 0
      ((file.drop eh.eShoff).take eh.tableSize.toNat))).map .ofBytes), false)
  else Read.failed (-enomem)

/-- `readSectionHeadersAll`. -/
def sectionHeaders (file : List UInt8) : Read (List Elf64Shdr) :=
  (elfHeader file).andThen (tableAt file)

theorem elfHeader_cases (file : List UInt8) :
    (∃ eh, elfHeader file = (.ok eh, false)) ∨ elfHeader file = Read.failed (-1) := by
  unfold elfHeader
  split
  · exact .inl ⟨_, rfl⟩
  · exact .inr rfl

theorem readSectionHeadersAll_does (file : List UInt8) :
    (readSectionHeadersAll file).Does false (HeadersFit file) (sectionHeaders file) := by
  rcases elfHeader_cases file with ⟨eh, heh⟩ | heh
  · have hfits : HeadersFit file ↔ (eh.eShoff < 2 ^ 63 →
        min eh.tableSize (file.length - eh.eShoff : Nat) ≤ 64 * eh.eShnum) := by
      simp [HeadersFit, heh]
    have hending : sectionHeaders file = tableAt file eh := by rw [sectionHeaders, heh]; rfl
    have hread := (heh ▸ readElfHeader_does file).ends_ok trivial
    rw [hending]
    refine Does.congr ?_ hfits.symm rfl
    refine .bind_ok hread ?_
    by_cases hoffset : 2 ^ 63 ≤ eh.eShoff
    · rw [tableAt, if_pos hoffset]
      refine Does.congr (.bind_error (seekg_of_le hoffset)) ?_ rfl
      exact iff_of_true trivial fun hlt => absurd hlt (by omega)
    · rw [tableAt, if_neg hoffset]
      refine .bind_ok (seekg_of_lt (by omega)) ?_
      refine Does.congr (.check_bind (?_ : Does _ _ True _)) (by simp; omega) rfl
      split
      · rename_i hsize
        exact .bind_ok (read_of hsize _) (.pure _ _)
      · rename_i hsize
        exact .bind_error (read_of_not hsize _)
  · have hread := (heh ▸ readElfHeader_does file).ends_error trivial
    rw [sectionHeaders, heh]
    refine Does.congr (.bind_error hread) ?_ rfl
    exact iff_of_true trivial fun eh hok => by simp [heh, Read.failed] at hok

theorem sectionHeaders_cases (file : List UInt8) :
    (∃ shTable, sectionHeaders file = (.ok shTable, false)) ∨
      ∃ code, sectionHeaders file = Read.failed code := by
  unfold sectionHeaders
  rcases elfHeader_cases file with ⟨eh, heh⟩ | heh
  · rw [heh, Ending.andThen_ok, tableAt]
    split
    · exact .inr ⟨_, rfl⟩
    · split
      · exact .inl ⟨_, rfl⟩
      · exact .inr ⟨_, rfl⟩
  · rw [heh]
    exact .inr ⟨_, rfl⟩

/-- The bytes of a section. -/
def bytesOf (file : List UInt8) (shdr : Elf64Shdr) : Read (List UInt8) :=
  if shdr.shOffset < 2 ^ 63 ∧ shdr.shSize ≤ file.length - shdr.shOffset then
    (.ok ((file.drop shdr.shOffset).take shdr.shSize), false)
  else Read.failed (-1)

theorem bytesOf_cases (file : List UInt8) (shdr : Elf64Shdr) :
    (∃ bytes, bytesOf file shdr = (.ok bytes, false)) ∨
      bytesOf file shdr = Read.failed (-1) := by
  unfold bytesOf
  split
  · exact .inl ⟨_, rfl⟩
  · exact .inr rfl

theorem bytesOf_ok (file : List UInt8) (shdr : Elf64Shdr) (bytes : List UInt8)
    (hbytes : (bytesOf file shdr).1 = .ok bytes) : (bytesOf file shdr).2 = false := by
  rcases bytesOf_cases file shdr with ⟨bytes, hcase⟩ | hcase
  · rw [hcase]
  · rw [hcase] at hbytes
    cases hbytes

section Device

variable (device : Device) (file : List UInt8)

theorem read_section_does {shdr : Elf64Shdr} (hoffset : shdr.shOffset < 2 ^ 63) :
    (read file shdr.shOffset shdr.shSize (-1)).Does false True (bytesOf file shdr) := by
  unfold bytesOf
  split
  · rename_i hsize
    refine ⟨fun hfalse => absurd trivial hfalse, fun _ => ?_⟩
    rw [read_of ⟨by omega, by omega⟩, Int.toNat_natCast]
  · rename_i hsize
    exact ⟨fun hfalse => absurd trivial hfalse, fun _ => read_of_not (by omega) _⟩

theorem readSection_does (shdr : Elf64Shdr) :
    (readSection device file shdr).Does false (shdr.shSize ≤ device.maxSize)
      (bytesOf file shdr) := by
  refine Does.congr (.check_bind (?_ : Does _ _ True _)) (by simp) rfl
  by_cases hoffset : shdr.shOffset < 2 ^ 63
  · exact .bind_ok (seekg_of_lt hoffset) (read_section_does file hoffset)
  · rw [bytesOf, if_neg fun hboth => hoffset hboth.1]
    exact .bind_error (seekg_of_le (by omega))

/-- A section that is sought before there is room for it. -/
def SectionFits (shdr : Elf64Shdr) : Prop :=
  shdr.shOffset < 2 ^ 63 → shdr.shSize ≤ device.maxSize

/-- The string table is one of the sections, and there is room for it. -/
def StringsFit : Prop :=
  ∀ eh shTable, elfHeader file = (.ok eh, false) → sectionHeaders file = (.ok shTable, false) →
    ∃ shdr, shTable[eh.eShstrndx]? = some shdr ∧ SectionFits device shdr

theorem readSectionByIdx_does {shTable : List Elf64Shdr}
    (htable : readSectionHeadersAll file false = (.ok shTable, false)) {id : Nat}
    {shdr : Elf64Shdr} (hshdr : shTable[id]? = some shdr) :
    (readSectionByIdx device file id).Does false (SectionFits device shdr)
      (bytesOf file shdr) := by
  refine .bind_ok htable (.bind_ok (index_of_some hshdr _ _) ?_)
  by_cases hoffset : shdr.shOffset < 2 ^ 63
  · refine .bind_ok (seekg_of_lt hoffset) ?_
    exact Does.congr (.check_bind (read_section_does file hoffset))
      (by simp only [SectionFits, hoffset, forall_const, and_true]) rfl
  · rw [bytesOf, if_neg fun hboth => hoffset hboth.1]
    exact Does.congr (.bind_error (seekg_of_le (by omega)))
      (by simp only [SectionFits, hoffset, false_implies]) rfl

/-- The file opens with these section headers and this string table. -/
structure Opens (shTable : List Elf64Shdr) (secStrTab : List UInt8) : Prop where
  headersFit : HeadersFit file
  headers : sectionHeaders file = (.ok shTable, false)
  strings : ∃ eh shdr, elfHeader file = (.ok eh, false) ∧ shTable[eh.eShstrndx]? = some shdr ∧
    SectionFits device shdr ∧ bytesOf file shdr = (.ok secStrTab, false)

variable {device file} in
theorem Opens.of_eq (eh : Elf64Ehdr) (shdr : Elf64Shdr) {shTable : List Elf64Shdr}
    {secStrTab : List UInt8} (heh : elfHeader file = (.ok eh, false))
    (hsize : eh.tableSize = 64 * eh.eShnum) (hheaders : sectionHeaders file = (.ok shTable, false))
    (hshdr : shTable[eh.eShstrndx]? = some shdr) (hfits : shdr.shSize ≤ device.maxSize)
    (hbytes : bytesOf file shdr = (.ok secStrTab, false)) :
    Opens device file shTable secStrTab := by
  refine ⟨?_, hheaders, eh, shdr, heh, hshdr, fun _ => hfits, hbytes⟩
  intro eh' heh' _
  obtain rfl : eh = eh' := by simpa [heh] using heh'
  rw [hsize]
  exact min_le_left _ _

end Device

/-! Names. -/

section Names

variable (secStrTab : List UInt8)

/-- The name at an offset that is checked does not run out of the table. -/
def NameFits (nameOff : Nat) : Prop :=
  asInt secStrTab.length ≤ asInt nameOff ∨
    0 ≤ asInt nameOff ∧ 0 ∈ secStrTab.drop (asInt nameOff).toNat

/-- `getSymName`. -/
def nameAt (nameOff : Nat) : Except Exit Name :=
  if asInt secStrTab.length ≤ asInt nameOff then .error (.ret (-1))
  else .ok (text (secStrTab.drop (asInt nameOff).toNat))

/-- Comparisons that go on to the section of that name stay within the table. -/
def ScanFits (name : Name) : List Elf64Shdr → Prop
  | [] => True
  | shdr :: rest =>
      (secStrTab = [] ∧ shdr.shName = 0 ∨
        (strcmpEq (secStrTab.drop shdr.shName) name).isSome = true) ∧
      (strcmpEq (secStrTab.drop shdr.shName) name ≠ some true → ScanFits name rest)

/-- The first section of that name. -/
def sectionNamed (name : Name) : List Elf64Shdr → Option Elf64Shdr
  | [] => none
  | shdr :: rest =>
      if strcmpEq (secStrTab.drop shdr.shName) name = some true then some shdr
      else sectionNamed name rest

theorem findByName_does (name : Name) (shTable : List Elf64Shdr) :
    (findByName secStrTab name shTable).Does false (ScanFits secStrTab name shTable)
      (.ok (sectionNamed secStrTab name shTable), false) := by
  induction shTable with
  | nil => exact .pure _ _
  | cons shdr rest ih =>
      rw [findByName]
      by_cases hnull : secStrTab = [] ∧ shdr.shName = 0
      · have hstrcmp : strcmpEq (secStrTab.drop shdr.shName) name = none := by simp [hnull, strcmpEq]
        rw [if_pos hnull]
        refine ih.congr ?_ ?_
        · simp [ScanFits, hnull, strcmpEq]
        · simp [sectionNamed, hstrcmp]
      · rw [if_neg hnull]
        cases hstrcmp : strcmpEq (secStrTab.drop shdr.shName) name with
        | none => exact (Does.crash _ _ _).congr (by simp [ScanFits, hstrcmp, hnull]) rfl
        | some equal =>
            cases equal with
            | true =>
                exact (Does.pure _ _).congr (by simp [ScanFits, hstrcmp])
                  (by simp [sectionNamed, hstrcmp])
            | false =>
                exact ih.congr (by simp [ScanFits, hstrcmp]) (by simp [sectionNamed, hstrcmp])

/-- The names up to that of the section stay within the table. -/
def SecIdxFits (name : Name) : List Elf64Shdr → Prop
  | [] => True
  | shdr :: rest => NameFits secStrTab shdr.shName ∧
      ∀ found, nameAt secStrTab shdr.shName = .ok found →
        if found = name then True else SecIdxFits name rest

/-- The index of the section of that name. -/
def secIdxFrom (name : Name) : Nat → List Elf64Shdr → Except Exit Nat
  | _, [] => .error (.ret (-1))
  | i, shdr :: rest => do
      let found ← nameAt secStrTab shdr.shName
      if found = name then .ok i else secIdxFrom name (i + 1) rest

/-- The names of the symbols up to one that cannot be read stay within the
table. -/
def SymNamesFit : List Elf64Sym → Prop
  | [] => True
  | sym :: rest => NameFits secStrTab sym.stName ∧
      ∀ name, nameAt secStrTab sym.stName = .ok name → SymNamesFit rest

/-- The names of symbols, after those that are there already. -/
def pushed : List Elf64Sym → List Name → Option Exit × List Name
  | [], names => (none, names)
  | sym :: rest, names =>
      match nameAt secStrTab sym.stName with
      | .error exit => (some exit, names)
      | .ok name => pushed rest (names ++ [name])

end Names

/-! Sections and symbols by name. -/

section Lookups

variable (device : Device) (file : List UInt8) (shTable : List Elf64Shdr)
  (secStrTab : List UInt8)

/-- The section of that name can be found, and there is room for it. -/
def NamedFits (name : Name) : Prop :=
  ScanFits secStrTab name shTable ∧
    ∀ shdr, sectionNamed secStrTab name shTable = some shdr → shdr.shSize ≤ device.maxSize

/-- `readSectionByName`. -/
def bytesNamed (name : Name) : Read (List UInt8) :=
  match sectionNamed secStrTab name shTable with
  | none => (.error (.ret (-2)), false)
  | some shdr => bytesOf file shdr

/-- The first symbol table. -/
def symtabSection : Option Elf64Shdr := shTable.find? fun shdr => shdr.shType = shtSymtab

/-- `readSectionByType` for a symbol table. -/
def symtabBytes : Read (List UInt8) :=
  match symtabSection shTable with
  | none => (.error (.ret (-2)), false)
  | some shdr => bytesOf file shdr

/-- There is room for the symbol table, and its symbols can be counted. -/
def SymtabFits : Prop :=
  (∀ shdr, symtabSection shTable = some shdr → shdr.shSize ≤ device.maxSize) ∧
    ∀ bytes, symtabBytes file shTable = (.ok bytes, false) → 0 ≤ asInt (bytes.length / 24)

/-- The symbols in the bytes of a symbol table. -/
def symbolsIn (bytes : List UInt8) : List Elf64Sym :=
  (structs 24 (asInt (bytes.length / 24)).toNat bytes).map .ofBytes

/-- `readSymTab` without the sorting. -/
def symtabOf : Read (List Elf64Sym) :=
  (symtabBytes file shTable).andThen fun bytes => (.ok (symbolsIn bytes), false)

/-- The symbols of the object. -/
def symbols : List Elf64Sym := (symtabOf file shTable).1.toOption.getD []

/-- The symbols of a section can be looked up. -/
def SectionSymsFit (name : Name) : Prop :=
  SymtabFits device file shTable ∧
    ∀ symtab, symtabOf file shTable = (.ok symtab, false) → SecIdxFits secStrTab name shTable

/-- The symbols of a section, by value. -/
def sectionSymsOf (name : Name) (symbolType : Option Nat) : Read (List Elf64Sym) :=
  (symtabOf file shTable).andThen fun symtab =>
    (do let secIdx ← secIdxFrom secStrTab name 0 shTable
        return sectionSyms (device.sort symtab) secIdx symbolType, false)

/-- The symbols of a section and their names can be looked up. -/
def SymNamesOfFit (name : Name) (symbolType : Option Nat) : Prop :=
  SectionSymsFit device file shTable secStrTab name ∧
    ∀ syms, sectionSymsOf device file shTable secStrTab name symbolType = (.ok syms, false) →
      SymNamesFit secStrTab syms

/-- `getSectionSymNames`, by how the lookup of the symbols ends. -/
def namesOfSyms : Except Exit (List Elf64Sym) → Option Exit × List Name
  | .error exit => (some exit, [])
  | .ok syms => pushed secStrTab syms []

/-- `getSectionSymNames`. -/
def symNamesOf (name : Name) (symbolType : Option Nat) : Option Exit × List Name :=
  namesOfSyms secStrTab (sectionSymsOf device file shTable secStrTab name symbolType).1

end Lookups

theorem symtabBytes_cases (file : List UInt8) (shTable : List Elf64Shdr) :
    (∃ bytes, symtabBytes file shTable = (.ok bytes, false)) ∨
      symtabBytes file shTable = (.error (.ret (-2)), false) ∨
      symtabBytes file shTable = Read.failed (-1) := by
  unfold symtabBytes
  cases symtabSection shTable with
  | none => exact .inr (.inl rfl)
  | some shdr =>
      rcases bytesOf_cases file shdr with hbytes | hbytes
      · exact .inl hbytes
      · exact .inr (.inr hbytes)

theorem symtabOf_cases (file : List UInt8) (shTable : List Elf64Shdr) :
    (∃ symtab, symtabOf file shTable = (.ok symtab, false)) ∨
      symtabOf file shTable = (.error (.ret (-2)), false) ∨
      symtabOf file shTable = Read.failed (-1) := by
  unfold symtabOf
  rcases symtabBytes_cases file shTable with ⟨bytes, hbytes⟩ | hbytes | hbytes
  · exact .inl ⟨_, by rw [hbytes, Ending.andThen_ok]⟩
  · exact .inr (.inl (by rw [hbytes]; rfl))
  · exact .inr (.inr (by rw [hbytes]; rfl))

/-- When there are symbols, the stream is still good. -/
theorem sectionSymsOf_ok {device : Device} {file : List UInt8} {shTable : List Elf64Shdr}
    {secStrTab : List UInt8} {name : Name} {symbolType : Option Nat} {syms : List Elf64Sym}
    (hsyms : (sectionSymsOf device file shTable secStrTab name symbolType).1 = .ok syms) :
    (sectionSymsOf device file shTable secStrTab name symbolType).2 = false := by
  unfold sectionSymsOf at hsyms ⊢
  rcases symtabOf_cases file shTable with ⟨symtab, hsymtab⟩ | hsymtab | hsymtab
  · rw [hsymtab, Ending.andThen_ok]
  · rw [hsymtab] at hsyms
    cases hsyms
  · rw [hsymtab] at hsyms
    cases hsyms

theorem symNamesOf_ok {device : Device} {file : List UInt8} {shTable : List Elf64Shdr}
    {secStrTab : List UInt8} {name : Name} {symbolType : Option Nat} {names : List Name}
    (hnames : symNamesOf device file shTable secStrTab name symbolType = (none, names)) :
    (sectionSymsOf device file shTable secStrTab name symbolType).2 = false := by
  unfold symNamesOf at hnames
  cases hsyms : (sectionSymsOf device file shTable secStrTab name symbolType).1 with
  | error exit => simp [hsyms, namesOfSyms] at hnames
  | ok syms => exact sectionSymsOf_ok hsyms

/-- Names of symbols come from a symbol table. -/
theorem symtabOf_of_symNamesOf {device : Device} {file : List UInt8} {shTable : List Elf64Shdr}
    {secStrTab : List UInt8} {name : Name} {symbolType : Option Nat} {names : List Name}
    (hnames : symNamesOf device file shTable secStrTab name symbolType = (none, names)) :
    symtabOf file shTable = (.ok (symbols file shTable), false) := by
  rcases symtabOf_cases file shTable with ⟨symtab, hsymtab⟩ | hsymtab | hsymtab
  · rw [symbols, hsymtab]
    rfl
  · simp [symNamesOf, sectionSymsOf, hsymtab, namesOfSyms] at hnames
  · simp [symNamesOf, sectionSymsOf, hsymtab, namesOfSyms, Read.failed] at hnames

section Open

variable {device : Device} {file : List UInt8} {shTable : List Elf64Shdr}
  {secStrTab : List UInt8} (hopens : Opens device file shTable secStrTab)

include hopens

theorem Opens.readSectionHeadersAll :
    readSectionHeadersAll file false = (.ok shTable, false) :=
  (hopens.headers ▸ readSectionHeadersAll_does file).ends_ok hopens.headersFit

theorem Opens.readSectionHeaderStrtab :
    readSectionHeaderStrtab device file false = (.ok secStrTab, false) := by
  obtain ⟨eh, shdr, heh, hshdr, hfits, hbytes⟩ := hopens.strings
  have hread := (heh ▸ readElfHeader_does file).ends_ok trivial
  have hidx := readSectionByIdx_does device file hopens.readSectionHeadersAll hshdr
  rw [hbytes] at hidx
  exact (bind_of_ok hread _).trans (hidx.ends_ok hfits)

theorem Opens.getSymName_does (nameOff : Nat) :
    (getSymName device file nameOff).Does false (NameFits secStrTab nameOff)
      (nameAt secStrTab nameOff, false) := by
  refine .bind_ok hopens.readSectionHeaderStrtab ?_
  unfold NameFits nameAt
  by_cases hrange : asInt secStrTab.length ≤ asInt nameOff
  · rw [if_pos hrange, if_pos hrange]
    exact (Does.fail _ _).congr (by simp [hrange]) rfl
  · rw [if_neg hrange, if_neg hrange]
    exact Does.congr (.check_bind (.check_bind (.pure _ _))) (by simp [hrange]) rfl

theorem Opens.findSecIdx_does (name : Name) (i : Nat) (rest : List Elf64Shdr) :
    (findSecIdx device file name i rest).Does false (SecIdxFits secStrTab name rest)
      (secIdxFrom secStrTab name i rest, false) := by
  induction rest generalizing i with
  | nil => exact .fail _ _
  | cons shdr rest ih =>
      have hname := hopens.getSymName_does shdr.shName
      rw [findSecIdx, secIdxFrom, SecIdxFits]
      cases hat : nameAt secStrTab shdr.shName with
      | error exit =>
          rw [hat] at hname
          exact hname.bind_exit.congr (by simp) rfl
      | ok found =>
          rw [hat] at hname
          refine (hname.bind_value ((Does.pure i false).ite (ih (i + 1)))).congr (by simp) ?_
          simp only [Bind.bind, Except.bind]
          split <;> rfl

theorem Opens.pushNames_does (syms : List Elf64Sym) (names : List Name) :
    (pushNames device file syms names).Does false (SymNamesFit secStrTab syms)
      (.ok (pushed secStrTab syms names), false) := by
  induction syms generalizing names with
  | nil => exact Does.pure (none, names) false
  | cons sym rest ih =>
      have hname := (hopens.getSymName_does sym.stName).attempt
      rw [pushNames]
      cases hat : nameAt secStrTab sym.stName with
      | error exit =>
          rw [hat] at hname
          refine Does.congr (hname.bind_value (.pure (some exit, names) false)) ?_ ?_
          · simp [SymNamesFit, hat]
          · simp only [pushed, hat]
      | ok name =>
          rw [hat] at hname
          refine Does.congr (hname.bind_value (ih (names ++ [name]))) ?_ ?_
          · simp [SymNamesFit, hat]
          · simp only [pushed, hat]

theorem Opens.readSectionByName_does (name : Name) :
    (readSectionByName device file name).Does false (NamedFits device shTable secStrTab name)
      (bytesNamed file shTable secStrTab name) := by
  refine .bind_ok hopens.readSectionHeadersAll (.bind_ok hopens.readSectionHeaderStrtab ?_)
  unfold NamedFits bytesNamed
  have hfind := findByName_does secStrTab name shTable
  cases hnamed : sectionNamed secStrTab name shTable with
  | none =>
      rw [hnamed] at hfind
      exact Does.congr (hfind.bind_value (.fail _ _)) (by simp) rfl
  | some shdr =>
      rw [hnamed] at hfind
      exact Does.congr (hfind.bind_value (readSection_does device file shdr)) (by simp) rfl

theorem Opens.readSectionByType_does :
    (readSectionByType device file shtSymtab).Does false
      (∀ shdr, symtabSection shTable = some shdr → shdr.shSize ≤ device.maxSize)
      (symtabBytes file shTable) := by
  refine .bind_ok hopens.readSectionHeadersAll ?_
  unfold symtabBytes symtabSection
  cases shTable.find? fun shdr => decide (shdr.shType = shtSymtab) with
  | none => exact (Does.fail _ _).congr (by simp) rfl
  | some shdr => exact (readSection_does device file shdr).congr (by simp) rfl

theorem Opens.readSymTab_does (sort : Bool) :
    (readSymTab device file sort).Does false (SymtabFits device file shTable)
      ((symtabOf file shTable).andThen fun symtab =>
        (.ok (if sort then device.sort symtab else symtab), false)) := by
  have htype := hopens.readSectionByType_does
  unfold SymtabFits symtabOf
  rcases symtabBytes_cases file shTable with ⟨bytes, hbytes⟩ | hbytes | hbytes
  · rw [hbytes] at htype ⊢
    exact Does.congr (htype.bind_value (.check_bind (.pure _ _))) (by simp) rfl
  · rw [hbytes] at htype ⊢
    exact Does.congr htype.bind_exit (by simp) rfl
  · rw [hbytes] at htype ⊢
    exact Does.congr htype.bind_exit (by simp [Read.failed]) rfl

theorem Opens.readSectionSyms_does (name : Name) (symbolType : Option Nat) :
    (readSectionSyms device file name symbolType).Does false
      (SectionSymsFit device file shTable secStrTab name)
      (sectionSymsOf device file shTable secStrTab name symbolType) := by
  have hsymtab := hopens.readSymTab_does true
  unfold SectionSymsFit sectionSymsOf
  rcases symtabOf_cases file shTable with ⟨symtab, hof⟩ | hof | hof
  · rw [hof, Ending.andThen_ok] at hsymtab ⊢
    refine Does.congr (hsymtab.bind_value (.bind_ok hopens.readSectionHeadersAll
      ((hopens.findSecIdx_does name 0 shTable).bind fun secIdx _ => .pure _ _))) ?_ ?_
    · simp
    · cases secIdxFrom secStrTab name 0 shTable <;> rfl
  · rw [hof] at hsymtab ⊢
    exact Does.congr hsymtab.bind_exit (by simp) rfl
  · rw [hof] at hsymtab ⊢
    exact Does.congr hsymtab.bind_exit (by simp [Read.failed]) rfl

theorem Opens.getSectionSymNames_does (name : Name) (symbolType : Option Nat) :
    (getSectionSymNames device file name symbolType).Does false
      (SymNamesOfFit device file shTable secStrTab name symbolType)
      (.ok (symNamesOf device file shTable secStrTab name symbolType),
        (sectionSymsOf device file shTable secStrTab name symbolType).2) := by
  have hsyms := (hopens.readSectionSyms_does name symbolType).attempt
  unfold SymNamesOfFit symNamesOf
  rcases hof : sectionSymsOf device file shTable secStrTab name symbolType with ⟨exit | syms, failed⟩
  · rw [hof] at hsyms
    exact Does.congr (hsyms.bind_value (.pure _ _)) (by simp) rfl
  · have hgood := sectionSymsOf_ok (congrArg Prod.fst hof)
    rw [hof] at hsyms hgood
    obtain rfl : failed = false := hgood
    exact Does.congr (hsyms.bind_value (hopens.pushNames_does syms [])) (by simp) rfl

end Open

end UprobeStats.Loader
