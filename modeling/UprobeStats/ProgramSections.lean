/-
Which program sections of an object the scan returns.  An object has an entry
for each of them only if no program section without a function comes before a
program, and only if the rank of a symbol of the program definitions tells the
same definition as its value.
-/
import UprobeStats.CodeSections

namespace UprobeStats.Loader

open Bytes Checked Checked.Prog Memory

section Spec

variable (device : Device) (file : List UInt8) (shTable : List Elf64Shdr)
  (secStrTab : List UInt8)

/-- The name of a section that has a recognised program prefix. -/
def programName (shdr : Elf64Shdr) : Option Name :=
  match nameAt secStrTab shdr.shName with
  | .error _ => none
  | .ok name =>
      if getSectionType device.fuseProgType name = bpfProgTypeUnspec then none else some name

/-- A program section with data. -/
def hasCode (shdr : Elf64Shdr) : Bool :=
  (programName device secStrTab shdr).isSome && decide (shdr.shSize ≠ 0)

/-- The program sections with data, and their indices. -/
def programs : List (Elf64Shdr × Nat) :=
  shTable.zipIdx.filter fun shdrIdx => hasCode device secStrTab shdrIdx.1

/-- The definitions of the object. -/
def progDefs : List BpfProgDef := (progDefsOf file shTable secStrTab).1.toOption.getD []

/-- The definition that a symbol stands at. -/
def definitionAt (pd : List BpfProgDef) (sym : Elf64Sym) : Option BpfProgDef :=
  if sym.stValue % sizeofBpfProgDef = 0 then pd[sym.stValue / sizeofBpfProgDef]? else none

/-- A definition whose symbol has that name. -/
def IsDefinition (name : Name) (progDef : BpfProgDef) : Prop :=
  ∃ progs sym, secIdxFrom secStrTab (asBytes "progs") 0 shTable = .ok progs ∧
    sym ∈ sectionSyms (symbols file shTable) progs none ∧ nameAt secStrTab sym.stName = .ok name ∧
    definitionAt (progDefs file shTable secStrTab) sym = some progDef

/-- The functions of a section. -/
def functions (i : Nat) : List Elf64Sym :=
  sectionSyms (symbols file shTable) i (some sttFunc)

/-- The name of a function of the section with the lowest value. -/
def IsFirstFunction (i : Nat) (name : Name) : Prop :=
  ∃ sym ∈ functions file shTable i, nameAt secStrTab sym.stName = .ok name ∧
    ∀ other ∈ functions file shTable i, sym.stValue ≤ other.stValue

/-- `prog_def` as it should be: the definition named after the first function
of the section, if there is one. -/
def IsProgDef (i : Nat) : Option BpfProgDef → Prop
  | some progDef => ∃ name, IsFirstFunction file shTable secStrTab i name ∧
      IsDefinition file shTable secStrTab (name ++ asBytes "_def") progDef
  | none => functions file shTable i = [] ∨
      ∃ name, IsFirstFunction file shTable secStrTab i name ∧
        ∀ progDef, ¬ IsDefinition file shTable secStrTab (name ++ asBytes "_def") progDef

/-- `rel_data` as it should be: the bytes of the next section if its name says
so. -/
def IsRelData (i : Nat) (name : Name) (relData : List UInt8) : Prop :=
  (∀ next, shTable[i + 1]? = some next →
    nameAt secStrTab next.shName = .ok (asBytes ".rel" ++ name) →
      (bytesOf file next).1 = .ok relData) ∧
  ((∀ next, shTable[i + 1]? = some next →
    nameAt secStrTab next.shName ≠ .ok (asBytes ".rel" ++ name)) → relData = [])

/-- An entry for a section, its definition left open. -/
structure Reads (shdrIdx : Elf64Shdr × Nat) (name : Name) (entry : CodeSection) : Prop where
  programName_eq : programName device secStrTab shdrIdx.1 = some name
  type_eq : entry.type = getSectionType device.fuseProgType name
  name_eq : entry.name = underscored name
  data_eq : (bytesOf file shdrIdx.1).1 = .ok entry.data
  isRelData : IsRelData file shTable secStrTab shdrIdx.2 name entry.relData

/-- The entry for a section as it should be. -/
def IsEntry (shdrIdx : Elf64Shdr × Nat) (entry : CodeSection) : Prop :=
  ∃ name, Reads device file shTable secStrTab shdrIdx name entry ∧
    IsProgDef file shTable secStrTab shdrIdx.2 entry.progDef

/-- One entry for each program section with data, in their order. -/
def Complete (cs : List CodeSection) : Prop :=
  List.Forall₂ (IsEntry device file shTable secStrTab)
    (programs device shTable secStrTab) cs

/-- A program section that ends the scan: the first section of its name has no
function. -/
def stops (shdr : Elf64Shdr) : Bool :=
  match programName device secStrTab shdr with
  | none => false
  | some name =>
      decide (symNamesOf device file shTable secStrTab name (some sttFunc) = (none, []))

/-- No program is among the sections from the first on that ends the scan. -/
def NoneAfterStop : Prop :=
  ∀ shdr ∈ shTable.dropWhile fun shdr => !stops device file shTable secStrTab shdr,
    hasCode device secStrTab shdr = false

/-- The definition at the rank of the symbol that is named after the first
function of the first section of that name. -/
def rankedDef (name : Name) : Option BpfProgDef :=
  match (symNamesOf device file shTable secStrTab name (some sttFunc)).2 with
  | [] => none
  | function :: _ => progDefRanked (progDefs file shTable secStrTab)
      (progSymNames device file shTable secStrTab).2 (function ++ asBytes "_def")

/-- For a section, ranks and values of symbols tell the same definition. -/
def RankAgrees (shdrIdx : Elf64Shdr × Nat) : Prop :=
  ∀ name, programName device secStrTab shdrIdx.1 = some name →
    IsProgDef file shTable secStrTab shdrIdx.2 (rankedDef device file shTable secStrTab name)

/-- The entry for a section as the scan makes it. -/
def IsScanned (shdrIdx : Elf64Shdr × Nat) (entry : CodeSection) : Prop :=
  ∃ name, Reads device file shTable secStrTab shdrIdx name entry ∧
    entry.progDef = rankedDef device file shTable secStrTab name

end Spec

theorem length_bytesOf {file : List UInt8} {shdr : Elf64Shdr} {bytes : List UInt8}
    (hbytes : (bytesOf file shdr).1 = .ok bytes) : bytes.length = shdr.shSize := by
  unfold bytesOf at hbytes
  split at hbytes
  · rename_i hsize
    cases hbytes
    rw [List.length_take, List.length_drop]
    omega
  · cases hbytes

section Scan

variable {device : Device} {file : List UInt8} {shTable : List Elf64Shdr}
  {secStrTab : List UInt8}

/-- What a turn of the loop can come to. -/
theorem turnOf_eq_ok {allowed : Option (List BpfProgType)} {pd : List BpfProgDef}
    {progDefNames : List Name} {shdr : Elf64Shdr} {rest : List Elf64Shdr} {turn : Turn}
    (hturn : (turnOf device file shTable secStrTab allowed pd progDefNames shdr rest).1 =
      .ok turn) :
    (programName device secStrTab shdr = none ∧ turn = .next []) ∨
    (stops device file shTable secStrTab shdr = true ∧ turn = .done) ∨
    ∃ name data relData function names, programName device secStrTab shdr = some name ∧
      (bytesOf file shdr).1 = .ok data ∧
      symNamesOf device file shTable secStrTab name (some sttFunc) = (none, function :: names) ∧
      (relDataOf file secStrTab name data rest).1 = .ok relData ∧
      turn = .next (entries device pd progDefNames name function data relData) := by
  unfold turnOf at hturn
  split at hturn
  · cases hturn
  · rename_i name hname
    unfold turnNamed at hturn
    split at hturn
    · rename_i htype
      cases hturn
      exact .inl ⟨by simp [programName, hname, htype], rfl⟩
    · rename_i htype
      have hprogram : programName device secStrTab shdr = some name := by
        simp [programName, hname, htype]
      right
      split at hturn
      · cases hturn
      · rcases bytesOf_cases file shdr with ⟨data, hdata⟩ | hdata
        · rw [hdata, Ending.andThen_ok] at hturn
          unfold entryOf at hturn
          split at hturn
          · cases hturn
          · rename_i hnames
            cases hturn
            exact .inl ⟨by simp [stops, hprogram, hnames], rfl⟩
          · rename_i function names hnames
            rcases hrel : relDataOf file secStrTab name data rest with ⟨exit | relData, failed⟩
            · rw [hrel] at hturn
              cases hturn
            · rw [hrel] at hturn
              cases hturn
              exact .inr ⟨name, data, relData, function, names, hprogram, by rw [hdata], hnames,
                by rw [hrel], rfl⟩
        · rw [hdata] at hturn
          cases hturn

theorem isRelData_of_relDataOf {i : Nat} {rest : List Elf64Shdr}
    (hrest : shTable.drop (i + 1) = rest) {name : Name} {data relData : List UInt8}
    (hdata : data ≠ []) (hrel : (relDataOf file secStrTab name data rest).1 = .ok relData) :
    IsRelData file shTable secStrTab i name relData := by
  have hnext : rest[0]? = shTable[i + 1]? := by rw [← hrest, List.getElem?_drop]
  obtain ⟨byte, data, rfl⟩ := List.exists_cons_of_ne_nil hdata
  unfold IsRelData
  rw [← hnext]
  cases hat : rest[0]? with
  | none =>
      simp only [relDataOf, hat] at hrel
      cases hrel
      simp
  | some next =>
      simp only [relDataOf, hat, relBytes] at hrel
      cases hname : nameAt secStrTab next.shName with
      | error exit =>
          rw [hname] at hrel
          cases hrel
      | ok relName =>
          rw [hname] at hrel
          dsimp only at hrel
          split at hrel
          · rename_i hsection
            simp [hname, hsection, hrel]
          · rename_i hsection
            cases hrel
            simp [hname, hsection]

variable (device file shTable secStrTab) in
/-- The programs that the scan of these sections gets to. -/
def scanned (i : Nat) (rest : List Elf64Shdr) : List (Elf64Shdr × Nat) :=
  ((rest.takeWhile fun shdr => !stops device file shTable secStrTab shdr).zipIdx i).filter
    fun shdrIdx => hasCode device secStrTab shdrIdx.1

theorem scanned_of_stops {i : Nat} {shdr : Elf64Shdr} {rest : List Elf64Shdr}
    (hstops : stops device file shTable secStrTab shdr = true) :
    scanned device file shTable secStrTab i (shdr :: rest) = [] := by
  simp [scanned, hstops]

theorem scanned_of_not_stops {i : Nat} {shdr : Elf64Shdr} {rest : List Elf64Shdr}
    (hstops : stops device file shTable secStrTab shdr = false) :
    scanned device file shTable secStrTab i (shdr :: rest) =
      (if hasCode device secStrTab shdr = true then [(shdr, i)] else []) ++
        scanned device file shTable secStrTab (i + 1) rest := by
  by_cases hcode : hasCode device secStrTab shdr = true
  · simp [scanned, hstops, hcode]
  · simp [scanned, hstops, hcode]

/-- The loop adds an entry for each of these programs. -/
theorem codeOf_eq_ok {allowed : Option (List BpfProgType)} {i : Nat} {rest : List Elf64Shdr}
    (hrest : shTable.drop i = rest) {cs cs' : List CodeSection}
    (hcode : (codeOf device file shTable secStrTab allowed (progDefs file shTable secStrTab)
      (progSymNames device file shTable secStrTab).2 rest cs).1 = .ok cs') :
    ∃ added, cs' = cs ++ added ∧ List.Forall₂ (IsScanned device file shTable secStrTab)
      (scanned device file shTable secStrTab i rest) added := by
  induction rest generalizing i cs with
  | nil =>
      cases hcode
      exact ⟨[], by simp, .nil⟩
  | cons shdr rest ih =>
      have hrest' : shTable.drop (i + 1) = rest := by
        rw [← List.drop_drop, hrest]
        rfl
      rw [codeOf] at hcode
      rcases hof : turnOf device file shTable secStrTab allowed (progDefs file shTable secStrTab)
        (progSymNames device file shTable secStrTab).2 shdr rest with ⟨exit | turn, failed⟩
      · rw [hof] at hcode
        cases hcode
      · rw [hof, Ending.andThen_ok] at hcode
        rcases turnOf_eq_ok (congrArg Prod.fst hof) with ⟨hprogram, rfl⟩ | ⟨hstops, rfl⟩ |
          ⟨name, data, relData, function, names, hprogram, hdata, hnames, hrel, rfl⟩
        · have hstops : stops device file shTable secStrTab shdr = false := by
            simp [stops, hprogram]
          obtain ⟨added, hadded, hscanned⟩ := ih hrest' hcode
          refine ⟨added, by simpa using hadded, ?_⟩
          rw [scanned_of_not_stops hstops]
          simpa [hasCode, hprogram] using hscanned
        · cases hcode
          exact ⟨[], by simp, by rw [scanned_of_stops hstops]; exact .nil⟩
        · have hstops : stops device file shTable secStrTab shdr = false := by
            simp [stops, hprogram, hnames]
          obtain ⟨added, hadded, hscanned⟩ := ih hrest' hcode
          rw [scanned_of_not_stops hstops]
          have hsize := length_bytesOf hdata
          by_cases hempty : data = []
          · refine ⟨added, by simpa [entries, hempty] using hadded, ?_⟩
            have hcode' : hasCode device secStrTab shdr = false := by
              simp [hasCode, ← hsize, hempty]
            simpa [hcode'] using hscanned
          · have hcode' : hasCode device secStrTab shdr = true := by
              simp [hasCode, hprogram, ← hsize, hempty]
            rw [entries, if_neg hempty] at hadded
            refine ⟨_ :: added, by rw [hadded, List.append_assoc]; rfl, ?_⟩
            rw [if_pos hcode']
            refine .cons ⟨name, ⟨hprogram, rfl, rfl, hdata, ?_⟩, ?_⟩ hscanned
            · exact isRelData_of_relDataOf hrest' hempty hrel
            · simp [rankedDef, hnames]

variable (file) in
/-- The scan gets to all programs, up to those after its end. -/
theorem programs_eq_scanned_append :
    programs device shTable secStrTab = scanned device file shTable secStrTab 0 shTable ++
      ((shTable.dropWhile fun shdr => !stops device file shTable secStrTab shdr).zipIdx
        (shTable.takeWhile fun shdr => !stops device file shTable secStrTab shdr).length).filter
        fun shdrIdx => hasCode device secStrTab shdrIdx.1 := by
  have hsplit := List.takeWhile_append_dropWhile
    (p := fun shdr => !stops device file shTable secStrTab shdr) (l := shTable)
  rw [programs]
  nth_rewrite 1 [← hsplit]
  rw [List.zipIdx_append, List.filter_append, Nat.zero_add, scanned]

theorem noneAfterStop_iff :
    NoneAfterStop device file shTable secStrTab ↔
      programs device shTable secStrTab = scanned device file shTable secStrTab 0 shTable := by
  rw [programs_eq_scanned_append file, List.append_right_eq_self, List.filter_eq_nil_iff,
    NoneAfterStop]
  constructor
  · intro hnone shdrIdx hmem
    simp [hnone shdrIdx.1 (List.fst_mem_of_mem_zipIdx hmem)]
  · intro hnone shdr hmem
    obtain ⟨n, hn⟩ := List.getElem?_of_mem hmem
    have hcode := hnone _ (List.mk_add_mem_zipIdx_iff_getElem?.2 hn)
    simpa using hcode

theorem codeWith_eq_ok {allowed : Option (List BpfProgType)} {pd : List BpfProgDef}
    {cs : List CodeSection} {failed : Bool}
    (hcode : codeWith device file shTable secStrTab allowed pd = (.ok cs, failed)) :
    codeOf device file shTable secStrTab allowed pd
      (progSymNames device file shTable secStrTab).2 shTable [] = (.ok cs, failed) := by
  unfold codeWith at hcode
  split at hcode
  · cases hcode
  · split at hcode
    · cases hcode
    · exact hcode

/-- A successful scan has an entry for each program that it gets to. -/
theorem readCodeSections_eq_ok (hopens : Opens device file shTable secStrTab)
    {allowed : Option (List BpfProgType)} {cs : List CodeSection} {failed : Bool}
    (hread : readCodeSections device file allowed false = (.ok cs, failed)) :
    List.Forall₂ (IsScanned device file shTable secStrTab)
      (scanned device file shTable secStrTab 0 shTable) cs := by
  have hof := ((hopens.readCodeSections_does allowed).of_ok hread).2
  unfold codeSectionsOf at hof
  rcases hpd : progDefsOf file shTable secStrTab with ⟨exit | pd, failed'⟩
  · rw [hpd] at hof
    cases hof
  · have hdefs : progDefs file shTable secStrTab = pd := by rw [progDefs, hpd]; rfl
    rw [hpd, Ending.andThen_ok, ← hdefs] at hof
    have hcode := codeWith_eq_ok hof
    obtain ⟨added, rfl, hentries⟩ := codeOf_eq_ok List.drop_zero (congrArg Prod.fst hcode)
    exact hentries

theorem isEntry_iff_rankAgrees {shdrIdx : Elf64Shdr × Nat} {entry : CodeSection}
    (hscanned : IsScanned device file shTable secStrTab shdrIdx entry) :
    IsEntry device file shTable secStrTab shdrIdx entry ↔
      RankAgrees device file shTable secStrTab shdrIdx := by
  obtain ⟨name, hreads, hprogDef⟩ := hscanned
  constructor
  · rintro ⟨-, -, hentry⟩ other hother
    obtain rfl : name = other := Option.some.inj (hreads.programName_eq.symm.trans hother)
    rwa [← hprogDef]
  · intro hagrees
    refine ⟨name, hreads, ?_⟩
    rw [hprogDef]
    exact hagrees name hreads.programName_eq

end Scan

/-- The strings of an object with a program. -/
def programStrings : List UInt8 :=
  asBytes "progs" ++ [0] ++ asBytes ".relkprobe/b" ++ [0] ++ asBytes "b_def" ++ [0]

/-- The sections of that object: the definition of the program, the program,
its relocations, the symbols and the strings. -/
def programSections : List Elf64Shdr :=
  [⟨0, 1, 64, 92⟩, ⟨10, 1, 156, 8⟩, ⟨6, 9, 164, 16⟩, ⟨5, 2, 180, 48⟩, ⟨5, 3, 228, 25⟩]

def programObject : List UInt8 :=
  object 4 [⟨0, 1, toLittleEndian 4 1000 ++ List.replicate 88 0⟩, ⟨10, 1, List.replicate 8 7⟩,
    ⟨6, 9, List.replicate 16 0⟩, ⟨5, shtSymtab, symbol 17 sttFunc 1 0 ++ symbol 19 1 0 0⟩,
    ⟨5, 3, programStrings⟩]

/-- The strings of an object with two program sections. -/
def twoProgramStrings : List UInt8 :=
  asBytes "progs" ++ [0] ++ asBytes "kprobe/a" ++ [0] ++ asBytes "kprobe/b" ++ [0] ++
    asBytes "b_def" ++ [0]

/-- The sections of that object: definitions for one program, a section that
is left empty, the program, its symbols and the strings. -/
def twoProgramSections : List Elf64Shdr :=
  [⟨0, 1, 64, 92⟩, ⟨6, 1, 156, 0⟩, ⟨15, 1, 156, 8⟩, ⟨5, 2, 164, 48⟩, ⟨5, 3, 212, 30⟩]

def twoProgramObject : List UInt8 :=
  object 4 [⟨0, 1, List.replicate 92 0⟩, ⟨6, 1, []⟩, ⟨15, 1, List.replicate 8 0⟩,
    ⟨5, shtSymtab, symbol 22 sttFunc 2 0 ++ symbol 24 1 0 0⟩, ⟨5, 3, twoProgramStrings⟩]

theorem opens_twoProgramObject :
    Opens (stableDevice 1024) twoProgramObject twoProgramSections twoProgramStrings := by
  refine Opens.of_eq ⟨242, 64, 5, 4⟩ ⟨5, 3, 212, 30⟩ ?_ ?_ ?_ ?_ ?_ ?_
  all_goals decide +kernel

end UprobeStats.Loader
