/-
When the loader stays within its vectors.  Much of what it takes from the file
it uses as an index or a size without looking; the condition here says what a
file has to be like so that no kernel and no earlier run lead it out of them.
-/
import UprobeStats.MapPairing

namespace UprobeStats.Loader

open Bytes Checked Checked.Prog

/-! The loops that talk to the kernel. -/

section Turns

variable (kernel : Kernel) (elfPath locPrefix license : Name)

theorem createMap_safe (i : Nat) (md : BpfMapDef) (mapName : Name) (world : World) :
    (createMap kernel elfPath locPrefix i md mapName).Safe world := by
  rcases createMap_cases kernel elfPath locPrefix i world md mapName with
    ⟨exit, hcase⟩ | ⟨-, exit, left, -, hcase⟩ | ⟨-, hcase⟩ | ⟨-, -, fd, -, hcase⟩ |
    ⟨-, -, fd, -, hcase⟩
  · exact safe_of_error hcase
  · exact safe_of_error hcase
  · exact safe_of_ok hcase
  · exact safe_of_ok hcase
  · exact safe_of_ok hcase

variable {kernel elfPath locPrefix} in
/-- The loop aborts on a definition from another version of the struct. -/
theorem zero_of_createMap {i : Nat} {md : BpfMapDef} {mapName : Name} {fd : Int}
    {world world' : World}
    (hcreate : createMap kernel elfPath locPrefix i md mapName world = (.ok fd, world')) :
    md.zero = 0 := by
  by_contra hzero
  rw [createMap, if_pos hzero] at hcreate
  cases hcreate

theorem loadCodeSection_safe (i : Nat) (cs : CodeSection) (world : World) :
    (loadCodeSection kernel elfPath locPrefix license i cs).Safe world := by
  cases hprogDef : cs.progDef with
  | none =>
      rw [loadCodeSection, hprogDef]
      exact safe_of_error rfl
  | some progDef =>
      rcases loadCodeSection_cases kernel elfPath locPrefix i world license cs progDef hprogDef with
        ⟨exit, hcase⟩ | ⟨-, exit, left, -, hcase⟩ | ⟨-, hcase⟩ | ⟨-, -, -, hcase⟩ |
        ⟨-, -, fd, hcase⟩ | ⟨-, -, fd, hcase⟩
      · exact safe_of_error hcase
      · exact safe_of_error hcase
      · exact safe_of_ok hcase
      · exact safe_of_ok hcase
      · exact safe_of_ok hcase
      · exact safe_of_ok hcase

theorem loadCodeSectionsFrom_safe (i : Nat) (cs : List CodeSection) (progFds : List (Option Nat))
    (world : World) :
    (loadCodeSectionsFrom kernel elfPath locPrefix license i cs progFds).Safe world := by
  induction cs generalizing i progFds world with
  | nil => exact safe_of_ok rfl
  | cons codeSection rest ih =>
      refine safe_bind_iff.2 ⟨loadCodeSection_safe _ _ _ _ i codeSection world, ?_⟩
      exact fun fd world' _ => ih (i + 1) (progFds ++ [fd]) world'

/-- Loading programs needs nothing of the file that has not been read. -/
theorem loadCodeSections_safe (cs : List CodeSection) (world : World) :
    (loadCodeSections kernel elfPath locPrefix license cs).Safe world := by
  unfold loadCodeSections
  split
  · exact safe_of_error rfl
  · exact loadCodeSectionsFrom_safe kernel elfPath locPrefix license 0 cs [] world

end Turns

/-! Definitions of maps. -/

/-- The loop over the names meets a definition on which it aborts. -/
def Aborts (md : List BpfMapDef) (mapNames : List Name) : Prop :=
  ∃ mapDef ∈ md.take mapNames.length, mapDef.zero ≠ 0

/-- The loop over the names does not run out of definitions. -/
def MapDefsFit (md : List BpfMapDef) (mapNames : List Name) : Prop :=
  mapNames.length ≤ md.length ∨ Aborts md mapNames

theorem aborts_cons_iff {mapDef : BpfMapDef} {md : List BpfMapDef} {mapName : Name}
    {rest : List Name} :
    Aborts (mapDef :: md) (mapName :: rest) ↔ mapDef.zero ≠ 0 ∨ Aborts md rest := by
  simp [Aborts]

theorem drop_eq_cons {md : List BpfMapDef} {i : Nat} {mapDef : BpfMapDef}
    (hmapDef : md[i]? = some mapDef) : md.drop i = mapDef :: md.drop (i + 1) := by
  obtain ⟨hi, rfl⟩ := List.getElem?_eq_some_iff.1 hmapDef
  exact List.drop_eq_getElem_cons hi

theorem drop_eq_nil {md : List BpfMapDef} {i : Nat} (hmapDef : md[i]? = none) :
    md.drop i = [] := List.drop_eq_nil_of_le (List.getElem?_eq_none_iff.1 hmapDef)

section Maps

variable {elfPath locPrefix : Name}

theorem createMapsFrom_safe (kernel : Kernel) {md : List BpfMapDef} {i : Nat}
    {mapNames : List Name} (hfits : MapDefsFit (md.drop i) mapNames) (mapFds : List Int)
    (world : World) :
    (createMapsFrom kernel elfPath locPrefix md i mapNames mapFds).Safe world := by
  induction mapNames generalizing i mapFds world with
  | nil => exact safe_of_ok rfl
  | cons mapName rest ih =>
      cases hmapDef : md[i]? with
      | none => simp [MapDefsFit, Aborts, drop_eq_nil hmapDef] at hfits
      | some mapDef =>
          rw [drop_eq_cons hmapDef, MapDefsFit, aborts_cons_iff] at hfits
          refine safe_bind_iff.2 ⟨safe_of_ok (index_of_some hmapDef _ _), ?_⟩
          rintro other world₁ hindex
          obtain ⟨hother, rfl⟩ := index_eq_ok_iff.1 hindex
          cases hmapDef.symm.trans hother
          refine safe_bind_iff.2 ⟨createMap_safe kernel elfPath locPrefix i mapDef mapName _, ?_⟩
          intro fd world₂ hcreate
          have hzero := zero_of_createMap hcreate
          refine ih (hfits.imp ?_ ?_) (mapFds ++ [fd]) world₂
          · simp
          · exact fun habort => habort.resolve_left fun hne => hne hzero

/-- A kernel that gives the loader every map of these definitions. -/
def willing (md : List BpfMapDef) : Kernel :=
  { mapKernel neverFails with
    mapInfo := fun i _ =>
      match md[i]? with
      | some mapDef => expectedInfo (mapKernel neverFails) mapDef
          (mapTypeFor (mapKernel neverFails) mapDef)
      | none => ⟨0, 0, 0, 0, 0⟩ }

theorem pinObject_neverFails (fresh : Perm) (i : Nat) (path : Name) (perm : Perm)
    (world : World) :
    pinObject neverFails fresh i path perm world = (.ok (), world.pinned path perm) := by
  simp [pinObject, neverFails, call, modifyPins, World.pinned, Bind.bind, Prog.bind]

theorem createMap_willing {md : List BpfMapDef} {i : Nat} {mapDef : BpfMapDef}
    (hmapDef : md[i]? = some mapDef) (hzero : mapDef.zero = 0) (mapName : Name) (world : World) :
    ∃ fd world', createMap (willing md) elfPath locPrefix i mapDef mapName world =
      (.ok fd, world') := by
  have hmatches : ∀ w, mapMatchesExpectations (willing md) i 7 mapDef w = (.ok (), w) := by
    intro w
    rw [mapMatchesExpectations, if_pos]
    · rfl
    · simp only [willing, hmapDef]
      rfl
  have hdescriptor : ∀ w, descriptor (.ok 7) w = (.ok 7, w) := fun _ => rfl
  unfold createMap
  rw [if_neg (not_not.2 hzero)]
  split
  · exact ⟨-1, world, rfl⟩
  · cases hpins : world.pins (mapPinLoc elfPath locPrefix mapDef mapName) with
    | some perm =>
        have haccess : accessOk (mapPinLoc elfPath locPrefix mapDef mapName) world =
            (.ok true, world) := by rw [accessOk, hpins]; rfl
        exact ⟨7, world, (bind_of_ok haccess _).trans ((bind_of_ok (hdescriptor world) _).trans
          (bind_of_ok (hmatches world) _))⟩
    | none =>
        have haccess : accessOk (mapPinLoc elfPath locPrefix mapDef mapName) world =
            (.ok false, world) := by rw [accessOk, hpins]; rfl
        have hpin := pinObject_neverFails (willing md).fresh i
          (mapPinLoc elfPath locPrefix mapDef mapName) mapDef.perm world
        exact ⟨7, _, (bind_of_ok haccess _).trans ((bind_of_ok (hdescriptor world) _).trans
          ((bind_of_ok (hmatches world) _).trans (bind_of_ok hpin _)))⟩

/-- Unless it aborts, the loop ends with a willing kernel, but only if there
are enough definitions. -/
theorem createMapsFrom_willing {md : List BpfMapDef} {i : Nat} {mapNames : List Name}
    {mapFds : List Int} {world : World} (haborts : ¬ Aborts (md.drop i) mapNames)
    (hsafe : (createMapsFrom (willing md) elfPath locPrefix md i mapNames mapFds).Safe world) :
    mapNames.length ≤ (md.drop i).length ∧ ∃ mapFds' world',
      createMapsFrom (willing md) elfPath locPrefix md i mapNames mapFds world =
        (.ok mapFds', world') := by
  induction mapNames generalizing i mapFds world with
  | nil => exact ⟨Nat.zero_le _, mapFds, world, rfl⟩
  | cons mapName rest ih =>
      rw [createMapsFrom] at hsafe ⊢
      cases hmapDef : md[i]? with
      | none => exact absurd hsafe (not_safe_of_fault (bind_of_fault (index_of_none hmapDef _ _) _))
      | some mapDef =>
          rw [drop_eq_cons hmapDef, aborts_cons_iff, not_or, not_not] at haborts
          obtain ⟨fd, world₁, hcreate⟩ := createMap_willing hmapDef haborts.1 mapName world
          have hturn := (safe_bind_iff.1 hsafe).2 mapDef world (index_of_some hmapDef _ _)
          have hrest := (safe_bind_iff.1 hturn).2 fd world₁ hcreate
          obtain ⟨hlength, mapFds', world', hok⟩ := ih haborts.2 hrest
          refine ⟨?_, mapFds', world', ?_⟩
          · rw [drop_eq_cons hmapDef]
            exact Nat.succ_le_succ hlength
          · rw [bind_of_ok (index_of_some hmapDef _ _), bind_of_ok hcreate, hok]

theorem not_aborts_of_ok {kernel : Kernel} {md : List BpfMapDef} {i : Nat} {mapNames : List Name}
    {mapFds mapFds' : List Int} {world world' : World}
    (hcreate : createMapsFrom kernel elfPath locPrefix md i mapNames mapFds world =
      (.ok mapFds', world')) : ¬ Aborts (md.drop i) mapNames := by
  induction mapNames generalizing i mapFds world with
  | nil => simp [Aborts]
  | cons mapName rest ih =>
      rw [createMapsFrom] at hcreate
      obtain ⟨mapDef, world₁, hindex, hturn⟩ := bind_apply_eq_ok_iff.1 hcreate
      obtain ⟨hmapDef, rfl⟩ := index_eq_ok_iff.1 hindex
      obtain ⟨fd, world₂, hmap, hrest⟩ := bind_apply_eq_ok_iff.1 hturn
      rw [drop_eq_cons hmapDef, aborts_cons_iff]
      rintro (hzero | haborts)
      · exact hzero (zero_of_createMap hmap)
      · exact ih hrest haborts

end Maps

/-! Files that do not open. -/

section Opening

variable {device : Device} {file : List UInt8}

/-- Section headers come with a header. -/
theorem elfHeader_of_sectionHeaders {shTable : List Elf64Shdr}
    (hheaders : sectionHeaders file = (.ok shTable, false)) :
    ∃ eh, elfHeader file = (.ok eh, false) := by
  rcases elfHeader_cases file with heh | heh
  · exact heh
  · rw [sectionHeaders, heh] at hheaders
    cases hheaders

variable (device) in
theorem readSectionHeaderStrtab_does {shTable : List Elf64Shdr} {eh : Elf64Ehdr}
    {shdr : Elf64Shdr} (htable : readSectionHeadersAll file false = (.ok shTable, false))
    (heh : elfHeader file = (.ok eh, false)) (hshdr : shTable[eh.eShstrndx]? = some shdr) :
    (readSectionHeaderStrtab device file).Does false (SectionFits device shdr)
      (bytesOf file shdr) := by
  have hread := (heh ▸ readElfHeader_does file).ends_ok trivial
  exact .bind_ok hread (readSectionByIdx_does device file htable hshdr)

/-- A file whose headers and string table fit opens, or its stream fails at
once. -/
theorem opens_cases (hheaders : HeadersFit file) (hstrings : StringsFit device file) :
    (∃ shTable secStrTab, Opens device file shTable secStrTab) ∨
      ∀ name, ∃ exit, readSectionByName device file name false = (.error exit, true) := by
  have hall := readSectionHeadersAll_does file
  rcases sectionHeaders_cases file with ⟨shTable, htable⟩ | ⟨code, htable⟩
  · rw [htable] at hall
    have hread := hall.ends_ok hheaders
    obtain ⟨eh, heh⟩ := elfHeader_of_sectionHeaders htable
    obtain ⟨shdr, hshdr, hfits⟩ := hstrings eh shTable heh htable
    rcases bytesOf_cases file shdr with ⟨secStrTab, hbytes⟩ | hbytes
    · exact .inl ⟨shTable, secStrTab, hheaders, htable, eh, shdr, heh, hshdr, hfits, hbytes⟩
    · refine .inr fun name => ⟨.ret (-1), ?_⟩
      have hstrtab := readSectionHeaderStrtab_does device hread heh hshdr
      rw [hbytes] at hstrtab
      exact (bind_of_ok hread _).trans (bind_of_error (hstrtab.ends_error hfits) _)
  · rw [htable] at hall
    exact .inr fun name => ⟨.ret code, bind_of_error (hall.ends_error hheaders) _⟩

theorem fits_of_safe {name : Name} (hsafe : (readSectionByName device file name).Safe false) :
    HeadersFit file ∧ StringsFit device file := by
  have hall := readSectionHeadersAll_does file
  have hheaders : HeadersFit file := hall.safe_iff.1 (safe_bind_iff.1 hsafe).1
  refine ⟨hheaders, fun eh shTable heh htable => ?_⟩
  rw [htable] at hall
  have hread := hall.ends_ok hheaders
  have hstrtab := (safe_bind_iff.1 ((safe_bind_iff.1 hsafe).2 _ _ hread)).1
  cases hshdr : shTable[eh.eShstrndx]? with
  | none =>
      have hheader := (heh ▸ readElfHeader_does file).ends_ok trivial
      have hfault : readSectionHeaderStrtab device file false = (.fault .sectionHeaders, false) :=
        (bind_of_ok hheader _).trans
          ((bind_of_ok hread _).trans (bind_of_fault (index_of_none hshdr _ _) _))
      exact absurd hstrtab (not_safe_of_fault hfault)
  | some shdr =>
      exact ⟨shdr, rfl, (readSectionHeaderStrtab_does device hread heh hshdr).safe_iff.1 hstrtab⟩

end Opening

/-! Objects. -/

theorem readSectionByName_of_failed (device : Device) (file : List UInt8) (name : Name) :
    readSectionByName device file name true = (.error (.ret (-1)), true) :=
  bind_of_error (readSectionHeadersAll_of_failed file) _

/-- Reading from a good stream, and then something else. -/
theorem reading_bind_safe_iff {α β : Type} {reader : Reader α} {next : α → Loading β}
    {fits : Prop} {ending : Read α} {pins : Pins} (hdoes : reader.Does false fits ending)
    (hgood : ∀ value, ending.1 = .ok value → ending.2 = false) :
    (reading reader >>= next).Safe ⟨false, pins⟩ ↔
      fits ∧ ∀ value, ending.1 = .ok value → (next value).Safe ⟨false, pins⟩ := by
  have hreading : (reading reader).Does ⟨false, pins⟩ fits (ending.1, ⟨ending.2, pins⟩) :=
    hdoes.onPart
  rw [hreading.safe_bind_iff]
  refine and_congr_right fun _ => forall₂_congr fun value hvalue => ?_
  rw [hgood value hvalue]

section Objects

variable (device : Device) (file : List UInt8) (shTable : List Elf64Shdr)
  (secStrTab : List UInt8) (allowed : Option (List BpfProgType))

/-- There are definitions for the names of the maps, and descriptors for the
relocations. -/
def DescriptorsFit (cs : List CodeSection) : Option (List BpfMapDef × List Name) → Prop
  | none => ApplyFits device file shTable secStrTab 0 cs
  | some (md, mapNames) => MapDefsFit md mapNames ∧
      (¬ Aborts md mapNames → ApplyFits device file shTable secStrTab mapNames.length cs)

/-- `loadObject` stays within the vectors. -/
def ObjectFits : Prop :=
  NamedFits device shTable secStrTab (asBytes "license") ∧
    ∀ license, (bytesNamed file shTable secStrTab (asBytes "license")).1 = .ok license →
      CodeSectionsFit device file shTable secStrTab allowed ∧
        ∀ cs, (codeSectionsOf device file shTable secStrTab allowed).1 = .ok cs →
          MapsFit device file shTable secStrTab ∧
            ∀ maps, (mapsOf device file shTable secStrTab).1 = .ok maps →
              DescriptorsFit device file shTable secStrTab cs maps

/-- `loadProg` stays within the vectors of a file that opens. -/
def TablesFit : Prop :=
  NamedFits device shTable secStrTab (asBytes "critical") ∧
    ((bytesNamed file shTable secStrTab (asBytes "critical")).2 = false →
      ObjectFits device file shTable secStrTab allowed)

/-- The indices and sizes in a file stay within what they are used on. -/
def InBounds : Prop :=
  HeadersFit file ∧ StringsFit device file ∧
    ∀ shTable secStrTab, Opens device file shTable secStrTab →
      TablesFit device file shTable secStrTab allowed

end Objects

/-- `createMaps` after it has read the file. -/
def mapsCreated (kernel : Kernel) (elfPath locPrefix : Name) :
    Option (List BpfMapDef × List Name) → Loading (List Int)
  | none => return []
  | some (md, mapNames) => createMapsFrom kernel elfPath locPrefix md 0 mapNames []

theorem createMaps_eq (kernel : Kernel) (device : Device) (file : List UInt8)
    (elfPath locPrefix : Name) :
    createMaps kernel device file elfPath locPrefix =
      reading (readMaps device file) >>= mapsCreated kernel elfPath locPrefix := by
  unfold createMaps
  congr 1

section Open

variable {device : Device} {file : List UInt8} {shTable : List Elf64Shdr}
  {secStrTab : List UInt8} (hopens : Opens device file shTable secStrTab)

include hopens

theorem Opens.applied_safe_iff (kernel : Kernel) (elfPath locPrefix license : Name)
    (mapFds : List Int) (cs : List CodeSection) {world : World} (hworld : world.failed = false) :
    (reading (applyMapRelo device file mapFds cs) >>=
        loadCodeSections kernel elfPath locPrefix license).Safe world ↔
      ApplyFits device file shTable secStrTab mapFds.length cs := by
  have happly := hopens.applyMapRelo_does mapFds cs
  rw [← hworld] at happly
  rw [reading, happly.onPart.safe_bind_iff, and_iff_left]
  exact fun cs' _ => loadCodeSections_safe kernel elfPath locPrefix license cs' _

/-- Whatever the kernel does, the maps are created and the code is relocated
within the vectors. -/
theorem Opens.created_safe_iff (license : Name) (cs : List CodeSection)
    (maps : Option (List BpfMapDef × List Name)) :
    (∀ kernel elfPath locPrefix pins,
      (mapsCreated kernel elfPath locPrefix maps >>= fun mapFds =>
        reading (applyMapRelo device file mapFds cs) >>=
          loadCodeSections kernel elfPath locPrefix license).Safe ⟨false, pins⟩) ↔
      DescriptorsFit device file shTable secStrTab cs maps := by
  rcases maps with _ | ⟨md, mapNames⟩
  · constructor
    · intro hsafe
      have hnone := hsafe (willing []) [] [] fun _ => none
      exact (hopens.applied_safe_iff _ _ _ license [] cs rfl).1
        ((safe_bind_iff.1 hnone).2 [] _ rfl)
    · intro hfits kernel elfPath locPrefix pins
      refine safe_bind_iff.2 ⟨safe_of_ok rfl, ?_⟩
      rintro mapFds world ⟨⟩
      exact (hopens.applied_safe_iff _ _ _ license [] cs rfl).2 hfits
  · constructor
    · intro hsafe
      by_cases haborts : Aborts md mapNames
      · exact ⟨.inr haborts, fun hnot => absurd haborts hnot⟩
      · obtain ⟨hmaps, hrelos⟩ := safe_bind_iff.1 (hsafe (willing md) [] [] fun _ => none)
        obtain ⟨hlength, mapFds, world, hok⟩ :=
          createMapsFrom_willing (i := 0) (by simpa using haborts) hmaps
        obtain ⟨hfailed, added, rfl, hadded, -⟩ := createMapsFrom_eq_ok hok
        refine ⟨.inl (by simpa using hlength), fun _ => ?_⟩
        rw [← hadded]
        exact (hopens.applied_safe_iff _ _ _ license _ cs hfailed).1 (hrelos _ world hok)
    · rintro ⟨hdefs, happly⟩ kernel elfPath locPrefix pins
      refine safe_bind_iff.2 ⟨createMapsFrom_safe kernel (i := 0) (by simpa using hdefs) [] _, ?_⟩
      intro mapFds world hok
      obtain ⟨hfailed, added, rfl, hadded, -⟩ := createMapsFrom_eq_ok hok
      have hfits := happly (by simpa using not_aborts_of_ok hok)
      rw [← hadded] at hfits
      exact (hopens.applied_safe_iff _ _ _ license _ cs hfailed).2 hfits

/-- What loading an object needs, up to what depends on the kernel. -/
theorem Opens.loadObject_safe_with (allowed : Option (List BpfProgType)) (kernel : Kernel)
    (locPrefix elfPath : Name) (pins : Pins) :
    (loadObject device kernel ⟨locPrefix, allowed⟩ elfPath file).Safe ⟨false, pins⟩ ↔
      NamedFits device shTable secStrTab (asBytes "license") ∧
        ∀ license, (bytesNamed file shTable secStrTab (asBytes "license")).1 = .ok license →
          CodeSectionsFit device file shTable secStrTab allowed ∧
            ∀ cs, (codeSectionsOf device file shTable secStrTab allowed).1 = .ok cs →
              MapsFit device file shTable secStrTab ∧
                ∀ maps, (mapsOf device file shTable secStrTab).1 = .ok maps →
                  (mapsCreated kernel elfPath locPrefix maps >>= fun mapFds =>
                    reading (applyMapRelo device file mapFds cs) >>=
                      loadCodeSections kernel elfPath locPrefix (text license)).Safe
                    ⟨false, pins⟩ := by
  have hlicense := hopens.readSectionByName_does (asBytes "license")
  have hcode := hopens.readCodeSections_does allowed
  rw [loadObject, reading_bind_safe_iff hlicense fun _ => bytesNamed_ok]
  refine and_congr_right fun _ => forall₂_congr fun license _ => ?_
  rw [reading_bind_safe_iff hcode fun _ => codeSectionsOf_ok]
  refine and_congr_right fun _ => forall₂_congr fun cs _ => ?_
  rw [createMaps_eq, bind_bind]
  exact reading_bind_safe_iff hopens.readMaps_does fun _ => mapsOf_ok

theorem Opens.loadObject_safe_iff (allowed : Option (List BpfProgType)) :
    (∀ kernel locPrefix elfPath pins,
      (loadObject device kernel ⟨locPrefix, allowed⟩ elfPath file).Safe ⟨false, pins⟩) ↔
      ObjectFits device file shTable secStrTab allowed := by
  constructor
  · intro hsafe
    have hparts := fun kernel locPrefix elfPath pins =>
      (hopens.loadObject_safe_with allowed kernel locPrefix elfPath pins).1
        (hsafe kernel locPrefix elfPath pins)
    obtain ⟨hlicense, hcode⟩ := hparts (willing []) [] [] fun _ => none
    refine ⟨hlicense, fun license hread => ⟨(hcode license hread).1, fun cs hcs => ?_⟩⟩
    refine ⟨((hcode license hread).2 cs hcs).1, fun maps hmaps => ?_⟩
    refine (hopens.created_safe_iff (text license) cs maps).1 fun kernel elfPath locPrefix pins => ?_
    exact (((hparts kernel locPrefix elfPath pins).2 license hread).2 cs hcs).2 maps hmaps
  · rintro ⟨hlicense, hcode⟩ kernel locPrefix elfPath pins
    refine (hopens.loadObject_safe_with allowed kernel locPrefix elfPath pins).2 ⟨hlicense, ?_⟩
    refine fun license hread => ⟨(hcode license hread).1, fun cs hcs => ?_⟩
    refine ⟨((hcode license hread).2 cs hcs).1, fun maps hmaps => ?_⟩
    exact (hopens.created_safe_iff (text license) cs maps).2
      (((hcode license hread).2 cs hcs).2 maps hmaps) kernel elfPath locPrefix pins

end Open

/-! Whole runs. -/

section Runs

variable {device : Device} {file : List UInt8}

theorem loadObject_safe_of_failed (kernel : Kernel) (location : Location) (elfPath : Name)
    (pins : Pins) : (loadObject device kernel location elfPath file).Safe ⟨true, pins⟩ := by
  have hlicense : reading (readSectionByName device file (asBytes "license")) ⟨true, pins⟩ =
      (.error (.ret (-1)), ⟨true, pins⟩) := by
    rw [reading, onPart, readSectionByName_of_failed]
  exact safe_of_error (bind_of_error hlicense _)

theorem loadProg_safe_iff {fits : Prop} {ending : Read (List UInt8)}
    (hcritical : (readSectionByName device file (asBytes "critical")).Does false fits ending)
    (kernel : Kernel) (location : Location) (elfPath : Name) (pins : Pins) :
    (loadProg device kernel location elfPath file).Safe ⟨false, pins⟩ ↔
      fits ∧ (loadObject device kernel location elfPath file).Safe ⟨ending.2, pins⟩ := by
  have hattempt : (reading (readSectionByName device file (asBytes "critical"))).attempt.Does
      ⟨false, pins⟩ fits (.ok ending.1, ⟨ending.2, pins⟩) := hcritical.onPart.attempt
  rw [loadProg, hattempt.safe_bind_iff]
  refine and_congr_right fun _ => ⟨fun hsafe => ?_, fun hsafe critical _ => ?_⟩
  · exact safe_attempt_iff.1 (safe_bind_iff.1 (hsafe ending.1 rfl)).1
  · exact safe_bind_iff.2 ⟨safe_attempt_iff.2 hsafe, fun _ _ _ => safe_of_ok rfl⟩

/-- The loader stays within its vectors, whatever the kernel and earlier runs
do, exactly for the files whose indices and sizes do. -/
theorem loadProg_safe_iff_inBounds (device : Device) (file : List UInt8)
    (allowed : Option (List BpfProgType)) :
    (∀ kernel locPrefix elfPath pins,
      (loadProg device kernel ⟨locPrefix, allowed⟩ elfPath file).Safe ⟨false, pins⟩) ↔
      InBounds device file allowed := by
  constructor
  · intro hsafe
    have hcritical := safe_attempt_iff.1
      (safe_bind_iff.1 (hsafe (willing []) [] [] fun _ => none)).1
    obtain ⟨hheaders, hstrings⟩ := fits_of_safe hcritical
    refine ⟨hheaders, hstrings, fun shTable secStrTab hopens => ?_⟩
    have hruns := fun kernel locPrefix elfPath pins =>
      (loadProg_safe_iff (hopens.readSectionByName_does (asBytes "critical")) kernel
        ⟨locPrefix, allowed⟩ elfPath pins).1 (hsafe kernel locPrefix elfPath pins)
    refine ⟨(hruns (willing []) [] [] fun _ => none).1, fun hgood => ?_⟩
    refine (hopens.loadObject_safe_iff allowed).1 fun kernel locPrefix elfPath pins => ?_
    rw [← hgood]
    exact (hruns kernel locPrefix elfPath pins).2
  · rintro ⟨hheaders, hstrings, htables⟩ kernel locPrefix elfPath pins
    rcases opens_cases hheaders hstrings with ⟨shTable, secStrTab, hopens⟩ | hfails
    · obtain ⟨hcritical, hobject⟩ := htables shTable secStrTab hopens
      refine (loadProg_safe_iff (hopens.readSectionByName_does (asBytes "critical")) kernel
        ⟨locPrefix, allowed⟩ elfPath pins).2 ⟨hcritical, ?_⟩
      cases hstream : (bytesNamed file shTable secStrTab (asBytes "critical")).2 with
      | true => exact loadObject_safe_of_failed kernel _ elfPath pins
      | false =>
          exact (hopens.loadObject_safe_iff allowed).2 (hobject hstream) kernel locPrefix elfPath pins
    · obtain ⟨exit, hread⟩ := hfails (asBytes "critical")
      have hcritical : (readSectionByName device file (asBytes "critical")).Does false True
          (.error exit, true) := ⟨fun hfalse => absurd trivial hfalse, fun _ => hread⟩
      exact (loadProg_safe_iff hcritical kernel _ elfPath pins).2
        ⟨trivial, loadObject_safe_of_failed kernel _ elfPath pins⟩

end Runs

/-! An object whose last section is a program. -/

def lastCodeStrings : List UInt8 :=
  asBytes "license" ++ [0] ++ asBytes "progs" ++ [0] ++ asBytes "kprobe/b" ++ [0] ++
    asBytes "b_def" ++ [0]

def lastCodeFile : List UInt8 :=
  object 2 [⟨0, 1, asBytes "GPL" ++ [0]⟩, ⟨8, 1, List.replicate 92 0⟩, ⟨7, 3, lastCodeStrings⟩,
    ⟨7, shtSymtab, symbol 21 sttFunc 4 0 ++ symbol 23 1 1 0⟩, ⟨14, 1, List.replicate 8 0⟩]

/-- For the relocations of the program, the section header after the last one is
read. -/
theorem last_program_reads_past_headers :
    ¬ (loadProg (stableDevice 1024) (mapKernel neverFails)
      ⟨asBytes "uprobestats/", some [bpfProgTypeKprobe]⟩ (asBytes "a/last.o") lastCodeFile).Safe
      ⟨false, fun _ => none⟩ := by
  intro hsafe
  exact hsafe .sectionHeaders (by decide +kernel)

end UprobeStats.Loader
