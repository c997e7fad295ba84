/-
The scan for program sections.  It returns success from the middle of the
section headers when it meets a program section without a function, and it
pairs definitions with symbols by their rank.
-/
import UprobeStats.ElfTables

namespace UprobeStats.Loader

open Bytes Checked Checked.Prog

section Scan

variable (device : Device) (file : List UInt8) (shTable : List Elf64Shdr)
  (secStrTab : List UInt8) (allowed : Option (List BpfProgType)) (pd : List BpfProgDef)
  (progDefNames : List Name)

/-- The definitions in the bytes of their section. -/
def progDefsIn (pdData : List UInt8) : List BpfProgDef :=
  (structs sizeofBpfProgDef (pdData.length / sizeofBpfProgDef) pdData).map .ofBytes

/-- `readProgDefs`. -/
def progDefsOf : Read (List BpfProgDef) :=
  (bytesNamed file shTable secStrTab (asBytes "progs")).andThen fun pdData =>
    if pdData.length % sizeofBpfProgDef ≠ 0 then (.error (.ret (-1)), false)
    else (.ok (progDefsIn pdData), false)

/-- The definition that a name leads to is there. -/
def ProgDefFits (name : Name) : Prop :=
  ∀ j, progDefNames.findIdx? (fun candidate => candidate = name) = some j → j < pd.length

/-- The definition at the rank of a name. -/
def progDefRanked (name : Name) : Option BpfProgDef :=
  (progDefNames.findIdx? fun candidate => candidate = name).bind fun j => pd[j]?

/-- After a section with data there is another one, with a name, and there is
room for it if it has the relocations. -/
def RelFits (name : Name) (data : List UInt8) (rest : List Elf64Shdr) : Prop :=
  data = [] ∨ ∃ next, rest[0]? = some next ∧ NameFits secStrTab next.shName ∧
    (nameAt secStrTab next.shName = .ok (asBytes ".rel" ++ name) → SectionFits device next)

/-- `rel_data`, by the section after it. -/
def relBytes (name : Name) (next : Elf64Shdr) : Read (List UInt8) :=
  match nameAt secStrTab next.shName with
  | .error exit => (.error exit, false)
  | .ok relName => if relName = asBytes ".rel" ++ name then bytesOf file next else (.ok [], false)

/-- `rel_data`. -/
def relDataOf (name : Name) (data : List UInt8) (rest : List Elf64Shdr) : Read (List UInt8) :=
  match data, rest[0]? with
  | _ :: _, some next => relBytes file secStrTab name next
  | _, _ => (.ok [], false)

/-- The entry of a section, if it has data. -/
def entries (name : Name) (csSymName : Name) (data relData : List UInt8) : List CodeSection :=
  if data = [] then []
  else [⟨getSectionType device.fuseProgType name, underscored name, data, relData,
    progDefRanked pd progDefNames (csSymName ++ asBytes "_def")⟩]

/-- A program section stays within the vectors. -/
def EntryFits (name : Name) (data : List UInt8) (rest : List Elf64Shdr) : Prop :=
  SymNamesOfFit device file shTable secStrTab name (some sttFunc) ∧
    ∀ csSymName names, symNamesOf device file shTable secStrTab name (some sttFunc) =
        (none, csSymName :: names) →
      ProgDefFits pd progDefNames (csSymName ++ asBytes "_def") ∧
        RelFits device secStrTab name data rest

/-- What a program section adds. -/
def entryOf (name : Name) (data : List UInt8) (rest : List Elf64Shdr) : Read Turn :=
  match symNamesOf device file shTable secStrTab name (some sttFunc) with
  | (some exit, _) =>
      (.error exit, (sectionSymsOf device file shTable secStrTab name (some sttFunc)).2)
  | (none, []) => (.ok .done, false)
  | (none, csSymName :: _) => (relDataOf file secStrTab name data rest).andThen fun relData =>
      (.ok (.next (entries device pd progDefNames name csSymName data relData)), false)

/-- A turn of the loop stays within the vectors. -/
def TurnFits (shdr : Elf64Shdr) (rest : List Elf64Shdr) : Prop :=
  NameFits secStrTab shdr.shName ∧ ∀ name, nameAt secStrTab shdr.shName = .ok name →
    getSectionType device.fuseProgType name ≠ bpfProgTypeUnspec →
    isAllowed device.fuseProgType (getSectionType device.fuseProgType name) allowed = true →
    SectionFits device shdr ∧ ∀ data, (bytesOf file shdr).1 = .ok data →
      EntryFits device file shTable secStrTab pd progDefNames name data rest

/-- A turn for a section of that name. -/
def turnNamed (name : Name) (shdr : Elf64Shdr) (rest : List Elf64Shdr) : Read Turn :=
  if getSectionType device.fuseProgType name = bpfProgTypeUnspec then (.ok (.next []), false)
  else if isAllowed device.fuseProgType (getSectionType device.fuseProgType name) allowed = false
    then (.error (.ret (-1)), false)
  else (bytesOf file shdr).andThen fun data =>
    entryOf device file shTable secStrTab pd progDefNames name data rest

/-- `readCodeSection`. -/
def turnOf (shdr : Elf64Shdr) (rest : List Elf64Shdr) : Read Turn :=
  match nameAt secStrTab shdr.shName with
  | .error exit => (.error exit, false)
  | .ok name => turnNamed device file shTable secStrTab allowed pd progDefNames name shdr rest

/-- The loop stays within the vectors up to where it ends. -/
def CodeFits : List Elf64Shdr → Prop
  | [] => True
  | shdr :: rest =>
      TurnFits device file shTable secStrTab allowed pd progDefNames shdr rest ∧
        ∀ added, (turnOf device file shTable secStrTab allowed pd progDefNames shdr rest).1 =
          .ok (.next added) → CodeFits rest

/-- After a turn of the loop. -/
def afterTurn (cs : List CodeSection) (next : List CodeSection → Read (List CodeSection)) :
    Turn → Read (List CodeSection)
  | .done => (.ok cs, false)
  | .next added => next (cs ++ added)

/-- `codeSectionsFrom`. -/
def codeOf : List Elf64Shdr → List CodeSection → Read (List CodeSection)
  | [], cs => (.ok cs, false)
  | shdr :: rest, cs =>
      (turnOf device file shTable secStrTab allowed pd progDefNames shdr rest).andThen
        (afterTurn cs (codeOf rest))

/-- The symbols of the program definitions, by value, and why there are no more. -/
def progSymNames : Option Exit × List Name :=
  symNamesOf device file shTable secStrTab (asBytes "progs") none

/-- Whether the stream has failed after these symbols. -/
def progSymsFailed : Bool :=
  (sectionSymsOf device file shTable secStrTab (asBytes "progs") none).2

/-- `readCodeSections` stays within the vectors. -/
def CodeSectionsFit : Prop :=
  NamedFits device shTable secStrTab (asBytes "progs") ∧
    ∀ pd, (progDefsOf file shTable secStrTab).1 = .ok pd →
      SymNamesOfFit device file shTable secStrTab (asBytes "progs") none ∧
        ((progSymNames device file shTable secStrTab).1 = none ∨ pd = [] →
          progSymsFailed device file shTable secStrTab = false →
          CodeFits device file shTable secStrTab allowed pd
            (progSymNames device file shTable secStrTab).2 shTable)

/-- `readCodeSections`, by the definitions.  Without any, it does not matter
why there are no more symbols, unless the stream has failed. -/
def codeWith (pd : List BpfProgDef) : Read (List CodeSection) :=
  match pd, (progSymNames device file shTable secStrTab).1 with
  | _ :: _, some exit => (.error exit, progSymsFailed device file shTable secStrTab)
  | _, _ =>
      if progSymsFailed device file shTable secStrTab = true then Read.failed (-1)
      else codeOf device file shTable secStrTab allowed pd
        (progSymNames device file shTable secStrTab).2 shTable []

/-- `readCodeSections`. -/
def codeSectionsOf : Read (List CodeSection) :=
  (progDefsOf file shTable secStrTab).andThen (codeWith device file shTable secStrTab allowed)

end Scan

theorem bytesNamed_cases (file : List UInt8) (shTable : List Elf64Shdr) (secStrTab : List UInt8)
    (name : Name) :
    (∃ bytes, bytesNamed file shTable secStrTab name = (.ok bytes, false)) ∨
      bytesNamed file shTable secStrTab name = (.error (.ret (-2)), false) ∨
      bytesNamed file shTable secStrTab name = Read.failed (-1) := by
  unfold bytesNamed
  cases sectionNamed secStrTab name shTable with
  | none => exact .inr (.inl rfl)
  | some shdr =>
      rcases bytesOf_cases file shdr with hbytes | hbytes
      · exact .inl hbytes
      · exact .inr (.inr hbytes)

theorem bytesNamed_ok {file : List UInt8} {shTable : List Elf64Shdr} {secStrTab : List UInt8}
    {name : Name} {bytes : List UInt8}
    (hbytes : (bytesNamed file shTable secStrTab name).1 = .ok bytes) :
    (bytesNamed file shTable secStrTab name).2 = false := by
  rcases bytesNamed_cases file shTable secStrTab name with ⟨bytes, hcase⟩ | hcase | hcase
  · rw [hcase]
  · rw [hcase]
  · rw [hcase] at hbytes
    cases hbytes

/-- When there are relocations, the stream is still good. -/
theorem relDataOf_ok {file secStrTab : List UInt8} {name : Name} {data relData : List UInt8}
    {rest : List Elf64Shdr} (hrel : (relDataOf file secStrTab name data rest).1 = .ok relData) :
    (relDataOf file secStrTab name data rest).2 = false := by
  unfold relDataOf at hrel ⊢
  split at hrel
  · unfold relBytes at hrel ⊢
    split at hrel
    · cases hrel
    · split at hrel
      · rename_i hsection
        rw [if_pos hsection]
        exact bytesOf_ok file _ _ hrel
      · rename_i hsection
        rw [if_neg hsection]
  · rfl

theorem progDefsOf_ok {file secStrTab : List UInt8} {shTable : List Elf64Shdr}
    (pd : List BpfProgDef) (hpd : (progDefsOf file shTable secStrTab).1 = .ok pd) :
    (progDefsOf file shTable secStrTab).2 = false := by
  unfold progDefsOf at hpd ⊢
  rcases bytesNamed_cases file shTable secStrTab (asBytes "progs") with
    ⟨pdData, hbytes⟩ | hbytes | hbytes
  · rw [hbytes, Ending.andThen_ok]
    split <;> rfl
  · rw [hbytes] at hpd
    cases hpd
  · rw [hbytes] at hpd
    cases hpd

theorem entryOf_ok {device : Device} {file : List UInt8} {shTable : List Elf64Shdr}
    {secStrTab : List UInt8} {pd : List BpfProgDef} {progDefNames : List Name} {name : Name}
    {data : List UInt8} {rest : List Elf64Shdr} {turn : Turn}
    (hturn : (entryOf device file shTable secStrTab pd progDefNames name data rest).1 =
      .ok turn) :
    (entryOf device file shTable secStrTab pd progDefNames name data rest).2 = false := by
  unfold entryOf at hturn ⊢
  split at hturn
  · cases hturn
  · rfl
  · rcases hrel : relDataOf file secStrTab name data rest with ⟨exit | relData, failed⟩
    · rw [hrel] at hturn
      cases hturn
    · rfl

/-- When there is a turn, the stream is still good. -/
theorem turnOf_ok {device : Device} {file : List UInt8} {shTable : List Elf64Shdr}
    {secStrTab : List UInt8} {allowed : Option (List BpfProgType)} {pd : List BpfProgDef}
    {progDefNames : List Name} {shdr : Elf64Shdr} {rest : List Elf64Shdr} (turn : Turn)
    (hturn : (turnOf device file shTable secStrTab allowed pd progDefNames shdr rest).1 =
      .ok turn) :
    (turnOf device file shTable secStrTab allowed pd progDefNames shdr rest).2 = false := by
  unfold turnOf at hturn ⊢
  split at hturn
  · cases hturn
  · unfold turnNamed at hturn ⊢
    split at hturn
    · rename_i htype
      rw [if_pos htype]
    · split at hturn
      · cases hturn
      · rename_i htype hallowed
        rw [if_neg htype, if_neg hallowed]
        rcases bytesOf_cases file shdr with ⟨data, hdata⟩ | hdata
        · rw [hdata] at hturn ⊢
          exact entryOf_ok hturn
        · rw [hdata] at hturn
          cases hturn

theorem codeOf_ok {device : Device} {file : List UInt8} {shTable : List Elf64Shdr}
    {secStrTab : List UInt8} {allowed : Option (List BpfProgType)} {pd : List BpfProgDef}
    {progDefNames : List Name} {rest : List Elf64Shdr} {cs cs' : List CodeSection}
    (hcode : (codeOf device file shTable secStrTab allowed pd progDefNames rest cs).1 = .ok cs') :
    (codeOf device file shTable secStrTab allowed pd progDefNames rest cs).2 = false := by
  induction rest generalizing cs with
  | nil => rfl
  | cons shdr rest ih =>
      rw [codeOf] at hcode ⊢
      obtain ⟨turn, -, hturn⟩ := Ending.of_andThen_ok hcode
      rw [hturn] at hcode ⊢
      cases turn with
      | done => rfl
      | next added => exact ih hcode

/-- When there are code sections, the stream is still good. -/
theorem codeSectionsOf_ok {device : Device} {file : List UInt8} {shTable : List Elf64Shdr}
    {secStrTab : List UInt8} {allowed : Option (List BpfProgType)} {cs : List CodeSection}
    (hcs : (codeSectionsOf device file shTable secStrTab allowed).1 = .ok cs) :
    (codeSectionsOf device file shTable secStrTab allowed).2 = false := by
  unfold codeSectionsOf at hcs ⊢
  obtain ⟨pd, -, hpd⟩ := Ending.of_andThen_ok hcs
  rw [hpd] at hcs ⊢
  unfold codeWith at hcs ⊢
  split at hcs
  · cases hcs
  · split at hcs
    · cases hcs
    · rename_i hgood
      rw [if_neg hgood]
      exact codeOf_ok hcs

theorem getSymName_of_failed (device : Device) (file : List UInt8) (nameOff : Nat) :
    getSymName device file nameOff true = (.error (.ret (-1)), true) := by
  have hstrtab : readSectionHeaderStrtab device file true = (.error (.ret (-1)), true) :=
    bind_of_error (readElfHeader_of_failed file) _
  exact bind_of_error hstrtab _

/-- After the stream has failed, no section has a name. -/
theorem codeSectionsFrom_of_failed (device : Device) (file : List UInt8)
    (allowed : Option (List BpfProgType)) (pd : List BpfProgDef) (progDefNames : List Name)
    (i : Nat) {shTable : List Elf64Shdr} (htable : shTable ≠ []) (cs : List CodeSection) :
    codeSectionsFrom device file allowed pd progDefNames i shTable cs true =
      (.error (.ret (-1)), true) := by
  obtain ⟨shdr, rest, rfl⟩ := List.exists_cons_of_ne_nil htable
  have hsection : readCodeSection device file allowed pd progDefNames i shdr rest true =
      (.error (.ret (-1)), true) := bind_of_error (getSymName_of_failed device file shdr.shName) _
  exact bind_of_error hsection _

theorem findProgDef_does (pd : List BpfProgDef) (progDefNames : List Name) (name : Name) :
    (findProgDef pd progDefNames name).Does false (ProgDefFits pd progDefNames name)
      (.ok (progDefRanked pd progDefNames name), false) := by
  unfold findProgDef ProgDefFits progDefRanked
  cases progDefNames.findIdx? fun candidate => decide (candidate = name) with
  | none => exact (Does.pure _ _).congr (by simp) rfl
  | some j =>
      cases hprogDef : pd[j]? with
      | none =>
          refine (Does.bind_fault (index_of_none hprogDef _ _) _).congr ?_ rfl
          simpa using hprogDef
      | some progDef =>
          refine Does.congr (.bind_ok (index_of_some hprogDef _ _) (.pure _ _)) ?_ ?_
          · simpa using (List.getElem?_eq_some_iff.1 hprogDef).1
          · simp [hprogDef]

section Open

variable {device : Device} {file : List UInt8} {shTable : List Elf64Shdr}
  {secStrTab : List UInt8} (hopens : Opens device file shTable secStrTab)

include hopens

/-- The string table is one of the sections. -/
theorem Opens.ne_nil : shTable ≠ [] := by
  obtain ⟨eh, shdr, -, hshdr, -⟩ := hopens.strings
  rintro rfl
  cases hshdr

theorem Opens.readProgDefs_does :
    (readProgDefs device file).Does false (NamedFits device shTable secStrTab (asBytes "progs"))
      (progDefsOf file shTable secStrTab) := by
  have hnamed := hopens.readSectionByName_does (asBytes "progs")
  unfold progDefsOf
  rcases bytesNamed_cases file shTable secStrTab (asBytes "progs") with
    ⟨pdData, hbytes⟩ | hbytes | hbytes
  · rw [hbytes] at hnamed ⊢
    exact Does.congr (hnamed.bind_value ((Does.fail _ _).ite (.pure _ _))) (by simp) rfl
  · rw [hbytes] at hnamed ⊢
    exact hnamed.bind_exit
  · rw [hbytes] at hnamed ⊢
    exact hnamed.bind_exit

theorem Opens.readRelData_does {i : Nat} {rest : List Elf64Shdr}
    (hrest : shTable.drop (i + 1) = rest) (name : Name) (data : List UInt8) :
    (readRelData device file i name data rest).Does false (RelFits device secStrTab name data rest)
      (relDataOf file secStrTab name data rest) := by
  unfold readRelData RelFits relDataOf
  cases data with
  | nil => exact (Does.pure _ _).congr (by simp) rfl
  | cons byte data =>
      rw [if_neg (List.cons_ne_nil byte data)]
      cases hnext : rest[0]? with
      | none =>
          exact (Does.bind_fault (index_of_none hnext _ _) _).congr (by simp) rfl
      | some next =>
          have hshdr : shTable[i + 1]? = some next := by
            rw [← hrest, List.getElem?_drop] at hnext
            exact hnext
          have hname := hopens.getSymName_does next.shName
          refine .bind_ok (index_of_some hnext _ _) ?_
          dsimp only
          unfold relBytes
          cases hat : nameAt secStrTab next.shName with
          | error exit =>
              rw [hat] at hname
              exact hname.bind_exit.congr (by simp [hat]) rfl
          | ok relName =>
              rw [hat] at hname
              have hidx := readSectionByIdx_does device file hopens.readSectionHeadersAll hshdr
              refine (hname.bind_value (hidx.ite (Does.pure _ _))).congr ?_ rfl
              by_cases hrel : relName = asBytes ".rel" ++ name
              · simp [hat, hrel]
              · simp [hat, hrel]

theorem Opens.readEntry_does {i : Nat} {rest : List Elf64Shdr}
    (hrest : shTable.drop (i + 1) = rest) (pd : List BpfProgDef) (progDefNames : List Name)
    (name : Name) (data : List UInt8) :
    (readEntry device file pd progDefNames i name data rest).Does false
      (EntryFits device file shTable secStrTab pd progDefNames name data rest)
      (entryOf device file shTable secStrTab pd progDefNames name data rest) := by
  have hnames := hopens.getSectionSymNames_does name (some sttFunc)
  unfold readEntry EntryFits entryOf
  rcases hof : symNamesOf device file shTable secStrTab name (some sttFunc) with
    ⟨_ | exit, names⟩
  · have hgood := symNamesOf_ok hof
    rw [hof, hgood] at hnames
    cases names with
    | nil =>
        refine Does.congr (hnames.bind_value (.pure _ _)) ?_ rfl
        simp
    | cons csSymName names =>
        have hprogDef := findProgDef_does pd progDefNames (csSymName ++ asBytes "_def")
        have hrel := hopens.readRelData_does hrest name data
        refine Does.congr (hnames.bind_value (hprogDef.bind_value (hrel.bind_from
          (fun _ => relDataOf_ok) fun relData _ => .pure _ false))) ?_ rfl
        simp
  · rw [hof] at hnames
    refine Does.congr (hnames.bind_value (.fail _ _)) ?_ rfl
    simp

theorem Opens.readCodeSection_does {i : Nat} {shdr : Elf64Shdr} {rest : List Elf64Shdr}
    (hrest : shTable.drop i = shdr :: rest) (allowed : Option (List BpfProgType))
    (pd : List BpfProgDef) (progDefNames : List Name) :
    (readCodeSection device file allowed pd progDefNames i shdr rest).Does false
      (TurnFits device file shTable secStrTab allowed pd progDefNames shdr rest)
      (turnOf device file shTable secStrTab allowed pd progDefNames shdr rest) := by
  have hname := hopens.getSymName_does shdr.shName
  unfold readCodeSection TurnFits turnOf
  cases hat : nameAt secStrTab shdr.shName with
  | error exit =>
      rw [hat] at hname
      exact hname.bind_exit.congr (by simp) rfl
  | ok name =>
      rw [hat] at hname
      have hshdr : shTable[i]? = some shdr := by
        rw [← Nat.add_zero i, ← List.getElem?_drop, hrest]
        rfl
      have hrest' : shTable.drop (i + 1) = rest := by
        rw [← List.drop_drop, hrest]
        rfl
      have hidx := readSectionByIdx_does device file hopens.readSectionHeadersAll hshdr
      have hentry := hopens.readEntry_does hrest' pd progDefNames name
      have hdata := hidx.bind_from (bytesOf_ok file shdr) fun data _ => hentry data
      refine (hname.bind_value ((Does.pure (Turn.next []) false).ite
        ((Does.fail (Exit.ret (-1)) false).ite hdata))).congr ?_ rfl
      by_cases htype : getSectionType device.fuseProgType name = bpfProgTypeUnspec
      · simp [htype]
      · cases hallowed : isAllowed device.fuseProgType (getSectionType device.fuseProgType name)
            allowed with
        | false => simp [hallowed]
        | true => simp [htype, hallowed]

theorem Opens.codeSectionsFrom_does (allowed : Option (List BpfProgType)) (pd : List BpfProgDef)
    (progDefNames : List Name) {i : Nat} {rest : List Elf64Shdr} (hrest : shTable.drop i = rest)
    (cs : List CodeSection) :
    (codeSectionsFrom device file allowed pd progDefNames i rest cs).Does false
      (CodeFits device file shTable secStrTab allowed pd progDefNames rest)
      (codeOf device file shTable secStrTab allowed pd progDefNames rest cs) := by
  induction rest generalizing i cs with
  | nil => exact .pure cs false
  | cons shdr rest ih =>
      have hturn := hopens.readCodeSection_does hrest allowed pd progDefNames
      have hrest' : shTable.drop (i + 1) = rest := by
        rw [← List.drop_drop, hrest]
        rfl
      rw [codeSectionsFrom, CodeFits, codeOf]
      rcases hof : turnOf device file shTable secStrTab allowed pd progDefNames shdr rest with
        ⟨exit | turn, failed⟩
      · rw [hof] at hturn
        exact hturn.bind_exit.congr (by simp) rfl
      · obtain rfl : failed = false := by
          have hgood := turnOf_ok turn (congrArg Prod.fst hof)
          rwa [hof] at hgood
        rw [hof] at hturn
        cases turn with
        | next added =>
            refine Does.congr (hturn.bind_value (ih hrest' (cs ++ added))) ?_ rfl
            simp
        | done =>
            refine Does.congr (hturn.bind_value (.pure cs false)) ?_ rfl
            simp

theorem Opens.readCodeSections_does (allowed : Option (List BpfProgType)) :
    (readCodeSections device file allowed).Does false
      (CodeSectionsFit device file shTable secStrTab allowed)
      (codeSectionsOf device file shTable secStrTab allowed) := by
  refine .bind_ok hopens.readSectionHeadersAll ?_
  refine hopens.readProgDefs_does.bind_from progDefsOf_ok fun pd _ => ?_
  have hnames := hopens.getSectionSymNames_does (asBytes "progs") none
  change Does _ _ _ (.ok (progSymNames device file shTable secStrTab),
    progSymsFailed device file shTable secStrTab) at hnames
  refine hnames.bind_value ?_
  have hcode := hopens.codeSectionsFrom_does allowed pd
    (progSymNames device file shTable secStrTab).2 (List.drop_zero (l := shTable)) []
  have hscan : (codeSectionsFrom device file allowed pd
      (progSymNames device file shTable secStrTab).2 0 shTable []).Does
      (progSymsFailed device file shTable secStrTab)
      (progSymsFailed device file shTable secStrTab = false →
        CodeFits device file shTable secStrTab allowed pd
          (progSymNames device file shTable secStrTab).2 shTable)
      (if progSymsFailed device file shTable secStrTab = true then Read.failed (-1)
      else codeOf device file shTable secStrTab allowed pd
        (progSymNames device file shTable secStrTab).2 shTable []) := by
    cases progSymsFailed device file shTable secStrTab with
    | false => exact hcode.congr (by simp) rfl
    | true =>
        refine ⟨fun hnot => absurd nofun hnot, fun _ => ?_⟩
        exact codeSectionsFrom_of_failed device file allowed pd _ 0 hopens.ne_nil []
  unfold codeWith
  rcases hof : progSymNames device file shTable secStrTab with ⟨_ | exit, names⟩
  · rw [hof] at hscan
    cases pd with
    | nil => exact hscan.congr (by simp) rfl
    | cons progDef pd => exact hscan.congr (by simp) rfl
  · rw [hof] at hscan
    cases pd with
    | nil => exact hscan.congr (by simp) rfl
    | cons progDef pd => exact (Does.fail exit _).congr (by simp) rfl

end Open

end UprobeStats.Loader
