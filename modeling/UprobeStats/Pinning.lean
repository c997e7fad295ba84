/-
Permissions of pinned objects, over runs of the loader.  An object is pinned,
then its mode is set, then its owner, and a run that ends in between leaves it
there for the next run to take as it is.
-/
import UprobeStats.Lib.Machine
import UprobeStats.ElfTables
import UprobeStats.ObjectLoader

namespace UprobeStats.Loader

open Bytes Checked Checked.Prog Transition

/-- An object file on a device, as the loader is called for it. -/
structure Installed where
  device : Device
  location : Location
  elfPath : Name
  file : List UInt8

namespace Installed

variable (installed : Installed)

/-- A run of `createMaps` on the file that has just been opened. -/
def createMaps (kernel : Kernel) (pins : Pins) : Outcome Exit Fault (List Int) × World :=
  Loader.createMaps kernel installed.device installed.file installed.elfPath
    installed.location.locPrefix ⟨false, pins⟩

/-- A run of `loadProg` up to its end, which is that of `loadCodeSections` if
all goes well. -/
def loadObject (kernel : Kernel) (pins : Pins) :
    Outcome Exit Fault (List (Option Nat)) × World :=
  Loader.loadObject installed.device kernel installed.location installed.elfPath installed.file
    ⟨false, pins⟩

/-- Runs of the loader for the object, one after the other, while a kernel of
that version is up.  Nothing is pinned when it starts. -/
def machine (kvers : Nat) : Machine Pins Kernel where
  init := fun _ => none
  step pins kernel :=
    if kernel.kvers = kvers then
      some (loadProg installed.device kernel installed.location installed.elfPath installed.file
        ⟨false, pins⟩).2.pins
    else none

/-- Where a map of the object is pinned. -/
def mapPath (mapDef : BpfMapDef) (mapName : Name) : Name :=
  mapPinLoc installed.elfPath installed.location.locPrefix mapDef mapName

/-- Where a program of the object is pinned. -/
def progPath (codeSection : CodeSection) : Name :=
  progPinLoc installed.elfPath installed.location.locPrefix codeSection.name

/-- A map that the version does not exclude, its location and its permissions. -/
inductive DeclaresMap (kvers : Nat) : Name → Perm → Prop
  | intro {md : List BpfMapDef} {mapNames : List Name} {failed : Bool} {i : Nat}
      {mapDef : BpfMapDef} {mapName : Name}
      (hread : readMaps installed.device installed.file false =
        (.ok (some (md, mapNames)), failed))
      (hmapDef : md[i]? = some mapDef) (hmapName : mapNames[i]? = some mapName)
      (hkvers : ¬ Excluded kvers mapDef.minKver mapDef.maxKver) :
      DeclaresMap kvers (installed.mapPath mapDef mapName) mapDef.perm

/-- The `i`th program, if the version does not exclude it, and its location. -/
inductive DeclaresProgram (kvers i : Nat) : BpfProgDef → Name → Prop
  | intro {cs : List CodeSection} {failed : Bool} {codeSection : CodeSection}
      {progDef : BpfProgDef}
      (hread : readCodeSections installed.device installed.file
        installed.location.allowedProgTypes false = (.ok cs, failed))
      (hcs : cs[i]? = some codeSection) (hprogDef : codeSection.progDef = some progDef)
      (hkvers : ¬ Excluded kvers progDef.minKver progDef.maxKver) :
      DeclaresProgram kvers i progDef (installed.progPath codeSection)

/-- Permissions that are declared for a location. -/
def Declares (kvers : Nat) (path : Name) (perm : Perm) : Prop :=
  installed.DeclaresMap kvers path perm ∨
    ∃ i progDef, installed.DeclaresProgram kvers i progDef path ∧ progDef.perm = perm

/-- What is declared for one location is the same. -/
def Consistent (kvers : Nat) : Prop :=
  ∀ path perm perm', installed.Declares kvers path perm → installed.Declares kvers path perm' →
    perm = perm'

/-- What is pinned at a location has the permissions that are declared for it. -/
def Honours (kvers : Nat) (pins : Pins) : Prop :=
  ∀ path perm found, installed.Declares kvers path perm → pins path = some found → found = perm

/-- Every map is pinned with its permissions. -/
def MapsPinned (kvers : Nat) (pins : Pins) : Prop :=
  ∀ path perm, installed.DeclaresMap kvers path perm → pins path = some perm

/-- Every program is pinned with its permissions, but for optional ones that
did not load and so have no descriptor. -/
def ProgramsPinned (kvers : Nat) (progFds : List (Option Nat)) (pins : Pins) : Prop :=
  ∀ i progDef path, installed.DeclaresProgram kvers i progDef path →
    pins path = some progDef.perm ∨ (progDef.optional = true ∧ progFds[i]? = some none)

end Installed

/-- Whatever is pinned in a run gets its mode and its owner. -/
def Kernel.Completes (kernel : Kernel) : Prop :=
  ∀ i, (kernel.mapPin.chmod i = none ∧ kernel.mapPin.chown i = none) ∧
    kernel.progPin.chmod i = none ∧ kernel.progPin.chown i = none

/-- The maps that the version does not exclude, from the `i`th on. -/
def EachMap (kvers : Nat) (md : List BpfMapDef) (i : Nat) (mapNames : List Name)
    (P : BpfMapDef → Name → Prop) : Prop :=
  ∀ (k : Nat) mapDef mapName, md[i + k]? = some mapDef → mapNames[k]? = some mapName →
    ¬ Excluded kvers mapDef.minKver mapDef.maxKver → P mapDef mapName

theorem eachMap_cons_iff {kvers : Nat} {md : List BpfMapDef} {i : Nat} {mapName : Name}
    {rest : List Name} {P : BpfMapDef → Name → Prop} :
    EachMap kvers md i (mapName :: rest) P ↔
      (∀ mapDef, md[i]? = some mapDef → ¬ Excluded kvers mapDef.minKver mapDef.maxKver →
        P mapDef mapName) ∧ EachMap kvers md (i + 1) rest P := by
  constructor
  · intro heach
    refine ⟨fun mapDef hmapDef => heach 0 mapDef mapName hmapDef rfl, fun k mapDef name hmapDef => ?_⟩
    rw [show i + 1 + k = i + (k + 1) by omega] at hmapDef
    exact heach (k + 1) mapDef name hmapDef
  · rintro ⟨hfirst, hrest⟩ (_ | k) mapDef name hmapDef hname
    · cases hname
      exact hfirst mapDef hmapDef
    · rw [show i + (k + 1) = i + 1 + k by omega] at hmapDef
      exact hrest k mapDef name hmapDef hname

/-- The programs that the version does not exclude. -/
def EachProgram (kvers : Nat) (cs : List CodeSection)
    (P : Nat → CodeSection → BpfProgDef → Prop) : Prop :=
  ∀ (k : Nat) codeSection progDef, cs[k]? = some codeSection →
    codeSection.progDef = some progDef → ¬ Excluded kvers progDef.minKver progDef.maxKver →
      P k codeSection progDef

theorem eachProgram_cons_iff {kvers : Nat} {codeSection : CodeSection} {rest : List CodeSection}
    {P : Nat → CodeSection → BpfProgDef → Prop} :
    EachProgram kvers (codeSection :: rest) P ↔
      (∀ progDef, codeSection.progDef = some progDef →
        ¬ Excluded kvers progDef.minKver progDef.maxKver → P 0 codeSection progDef) ∧
      EachProgram kvers rest fun k => P (k + 1) := by
  constructor
  · intro heach
    exact ⟨fun progDef => heach 0 codeSection progDef rfl, fun k => heach (k + 1)⟩
  · rintro ⟨hfirst, hrest⟩ (_ | k) other progDef hother
    · cases hother
      exact hfirst progDef
    · exact hrest k other progDef hother

/-! What is pinned stays as it is. -/

section Survival

variable (kernel : Kernel) (elfPath locPrefix license : Name)

theorem pinned_survives {world : World} {path other : Name} {perm found : Perm}
    (hfree : world.pins other = none) (hfound : world.pins path = some found) :
    (world.pinned other perm).pins path = some found := by
  have hne : path ≠ other := by
    rintro rfl
    rw [hfree] at hfound
    cases hfound
  rwa [world.pinned_of_ne hne]

theorem createMap_survives (i : Nat) (md : BpfMapDef) (mapName path : Name) (found : Perm) :
    (createMap kernel elfPath locPrefix i md mapName).Keeps fun world =>
      world.pins path = some found := by
  intro world hfound
  rcases createMap_cases kernel elfPath locPrefix i world md mapName with
    ⟨exit, hcase⟩ | ⟨hfree, exit, left, -, hcase⟩ | ⟨-, hcase⟩ | ⟨-, -, fd, -, hcase⟩ |
    ⟨-, hfree, fd, -, hcase⟩
  · rwa [hcase]
  · rw [hcase]
    exact pinned_survives hfree hfound
  · rwa [hcase]
  · rwa [hcase]
  · rw [hcase]
    exact pinned_survives hfree hfound

theorem createMapsFrom_survives (md : List BpfMapDef) (i : Nat) (mapNames : List Name)
    (mapFds : List Int) (path : Name) (found : Perm) :
    (createMapsFrom kernel elfPath locPrefix md i mapNames mapFds).Keeps fun world =>
      world.pins path = some found := by
  induction mapNames generalizing i mapFds with
  | nil => exact .pure mapFds
  | cons mapName rest ih =>
      refine .bind (.index md i Fault.mapDefs) fun _ mapDef _ _ => ?_
      refine .bind (createMap_survives kernel elfPath locPrefix i mapDef mapName path found) ?_
      exact fun _ fd _ _ => ih (i + 1) (mapFds ++ [fd])

theorem loadCodeSection_survives (i : Nat) (cs : CodeSection) (path : Name) (found : Perm) :
    (loadCodeSection kernel elfPath locPrefix license i cs).Keeps fun world =>
      world.pins path = some found := by
  intro world hfound
  cases hprogDef : cs.progDef with
  | none =>
      rw [loadCodeSection, hprogDef]
      exact hfound
  | some progDef =>
      rcases loadCodeSection_cases kernel elfPath locPrefix i world license cs progDef hprogDef with
        ⟨exit, hcase⟩ | ⟨hfree, exit, left, -, hcase⟩ | ⟨-, hcase⟩ | ⟨-, -, -, hcase⟩ |
        ⟨-, -, fd, hcase⟩ | ⟨-, hfree, fd, hcase⟩
      · rwa [hcase]
      · rw [hcase]
        exact pinned_survives hfree hfound
      · rwa [hcase]
      · rwa [hcase]
      · rwa [hcase]
      · rw [hcase]
        exact pinned_survives hfree hfound

theorem loadCodeSectionsFrom_survives (i : Nat) (cs : List CodeSection)
    (progFds : List (Option Nat)) (path : Name) (found : Perm) :
    (loadCodeSectionsFrom kernel elfPath locPrefix license i cs progFds).Keeps fun world =>
      world.pins path = some found := by
  induction cs generalizing i progFds with
  | nil => exact .pure progFds
  | cons codeSection rest ih =>
      refine .bind (loadCodeSection_survives kernel elfPath locPrefix license i codeSection path
        found) ?_
      exact fun _ fd _ _ => ih (i + 1) (progFds ++ [fd])

end Survival

/-! What is read from the file. -/

section Reading

theorem reading_keeps {α : Type} (reader : Reader α) (P : Pins → Prop) :
    (reading reader).Keeps fun world => P world.pins := fun _ => id

/-- What has been read while the stream was good. -/
theorem reading_eq_ok {α : Type} {reader : Reader α} {value : α} {world world' : World}
    (hgood : ∃ exit, reader true = (.error exit, true))
    (hreading : reading reader world = (.ok value, world')) :
    world'.pins = world.pins ∧ ∃ failed, reader false = (.ok value, failed) := by
  obtain ⟨failed, hread, rfl⟩ := onPart_eq_ok_iff.1 hreading
  refine ⟨rfl, failed, ?_⟩
  cases hstream : world.failed with
  | false => rwa [hstream] at hread
  | true =>
      obtain ⟨exit, hexit⟩ := hgood
      rw [hstream, hexit] at hread
      cases hread

variable (device : Device) (file : List UInt8)

theorem readMaps_of_failed : readMaps device file true = (.error (.ret (-1)), true) := by
  have hnamed : readSectionByName device file (asBytes "maps") true = (.error (.ret (-1)), true) :=
    bind_of_error (readSectionHeadersAll_of_failed file) _
  exact bind_of_ok (attempt_of_error hnamed) _

theorem readCodeSections_of_failed (allowed : Option (List BpfProgType)) :
    readCodeSections device file allowed true = (.error (.ret (-1)), true) :=
  bind_of_error (readSectionHeadersAll_of_failed file) _

/-- Sections that are the same but for their code. -/
def SameProgram (codeSection codeSection' : CodeSection) : Prop :=
  codeSection'.name = codeSection.name ∧ codeSection'.progDef = codeSection.progDef

theorem exists_of_forall₂ {α β : Type} {R : α → β → Prop} {values : List α} {others : List β}
    (hforall : List.Forall₂ R values others) {k : Nat} {value : α}
    (hvalue : values[k]? = some value) : ∃ other, others[k]? = some other ∧ R value other := by
  induction hforall generalizing k with
  | nil => cases hvalue
  | @cons head other _ _ hhead _ ih =>
      cases k with
      | zero =>
          cases hvalue
          exact ⟨other, rfl, hhead⟩
      | succ k => exact ih hvalue

theorem SameProgram.symm {codeSection codeSection' : CodeSection}
    (hsame : SameProgram codeSection codeSection') : SameProgram codeSection' codeSection :=
  ⟨hsame.1.symm, hsame.2.symm⟩

theorem relocateAll_same (mapNames : List Name) (mapFds : List Int) {cs cs' : List CodeSection}
    {s s' : Bool} (hrelocate : relocateAll device file mapNames mapFds cs s = (.ok cs', s')) :
    List.Forall₂ SameProgram cs cs' := by
  have hrefl : ∀ rest : List CodeSection, List.Forall₂ SameProgram rest rest :=
    fun rest => List.forall₂_same.2 fun _ _ => ⟨rfl, rfl⟩
  induction cs generalizing cs' s with
  | nil =>
      cases hrelocate
      exact .nil
  | cons codeSection rest ih =>
      obtain ⟨⟨finished, data⟩, s₁, -, hrest⟩ := bind_apply_eq_ok_iff.1 hrelocate
      cases finished with
      | false =>
          cases hrest
          exact .cons ⟨rfl, rfl⟩ (hrefl rest)
      | true =>
          obtain ⟨rest', s₂, htail, hrest⟩ := bind_apply_eq_ok_iff.1 hrest
          cases hrest
          exact .cons ⟨rfl, rfl⟩ (ih htail)

theorem applyMapRelo_same (mapFds : List Int) {cs cs' : List CodeSection} {s s' : Bool}
    (happly : applyMapRelo device file mapFds cs s = (.ok cs', s')) :
    List.Forall₂ SameProgram cs cs' := by
  obtain ⟨⟨_ | exit, mapNames⟩, s₁, -, hrest⟩ := bind_apply_eq_ok_iff.1 happly
  · exact relocateAll_same device file mapNames mapFds hrest
  · cases hrest
    exact List.forall₂_same.2 fun _ _ => ⟨rfl, rfl⟩

end Reading

/-! What is declared is honoured. -/

namespace Installed

variable {installed : Installed} {kvers : Nat} (hconsistent : installed.Consistent kvers)

include hconsistent

theorem honours_pinned {world : World} (hworld : installed.Honours kvers world.pins) {path : Name}
    {perm : Perm} (hdeclares : installed.Declares kvers path perm) :
    installed.Honours kvers (world.pinned path perm).pins := by
  intro other perm' found hother hfound
  by_cases hpath : other = path
  · subst hpath
    rw [world.pinned_self, Option.some.injEq] at hfound
    rw [← hfound]
    exact hconsistent other perm perm' hdeclares hother
  · rw [world.pinned_of_ne hpath] at hfound
    exact hworld other perm' found hother hfound

variable {kernel : Kernel} (hkernel : kernel.kvers = kvers)

include hkernel

/-- A turn for a map keeps the permissions honoured, unless it ends between
its calls. -/
theorem createMap_keeps (hcompletes : kernel.Completes) {i : Nat} {mapDef : BpfMapDef}
    {mapName : Name}
    (hdeclares : ¬ Excluded kvers mapDef.minKver mapDef.maxKver →
      installed.Declares kvers (installed.mapPath mapDef mapName) mapDef.perm) :
    (createMap kernel installed.elfPath installed.location.locPrefix i mapDef mapName).Keeps
      fun world => installed.Honours kvers world.pins := by
  intro world hworld
  subst hkernel
  rcases createMap_cases kernel installed.elfPath installed.location.locPrefix i world mapDef
    mapName with ⟨exit, hcase⟩ | ⟨-, exit, left, hfails, hcase⟩ | ⟨-, hcase⟩ |
    ⟨-, -, fd, -, hcase⟩ | ⟨hexcluded, -, fd, -, hcase⟩
  · rwa [hcase]
  · rcases hfails with hfails | hfails
    · exact absurd (hcompletes i).1.1 hfails
    · exact absurd (hcompletes i).1.2 hfails
  · rwa [hcase]
  · rwa [hcase]
  · rw [hcase]
    exact honours_pinned hconsistent hworld (hdeclares hexcluded)

/-- A turn for a map that does not fail keeps the permissions honoured and
pins the map. -/
theorem createMap_pins {i : Nat} {mapDef : BpfMapDef} {mapName : Name}
    (hdeclares : ¬ Excluded kvers mapDef.minKver mapDef.maxKver →
      installed.Declares kvers (installed.mapPath mapDef mapName) mapDef.perm)
    {world world' : World} {fd : Int} (hworld : installed.Honours kvers world.pins)
    (hcreate : createMap kernel installed.elfPath installed.location.locPrefix i mapDef mapName
      world = (.ok fd, world')) :
    installed.Honours kvers world'.pins ∧
      (¬ Excluded kvers mapDef.minKver mapDef.maxKver →
        world'.pins (installed.mapPath mapDef mapName) =
          some mapDef.perm) := by
  subst hkernel
  rcases createMap_cases kernel installed.elfPath installed.location.locPrefix i world mapDef
    mapName with ⟨exit, hcase⟩ | ⟨-, exit, left, -, hcase⟩ | ⟨hexcluded, hcase⟩ |
    ⟨hexcluded, hpinned, fd, -, hcase⟩ | ⟨hexcluded, -, fd, -, hcase⟩
  · cases hcreate.symm.trans hcase
  · cases hcreate.symm.trans hcase
  · cases hcreate.symm.trans hcase
    exact ⟨hworld, fun hnot => absurd hexcluded hnot⟩
  · cases hcreate.symm.trans hcase
    refine ⟨hworld, fun _ => ?_⟩
    obtain ⟨found, hfound⟩ := Option.ne_none_iff_exists'.1 hpinned
    exact hfound.trans (congrArg some (hworld _ _ found (hdeclares hexcluded) hfound))
  · cases hcreate.symm.trans hcase
    exact ⟨honours_pinned hconsistent hworld (hdeclares hexcluded), fun _ => world.pinned_self _ _⟩

theorem createMapsFrom_keeps (hcompletes : kernel.Completes) {md : List BpfMapDef} {i : Nat}
    {mapNames : List Name}
    (hdeclares : EachMap kvers md i mapNames fun mapDef mapName =>
      installed.Declares kvers (installed.mapPath mapDef mapName) mapDef.perm)
    (mapFds : List Int) :
    (createMapsFrom kernel installed.elfPath installed.location.locPrefix md i mapNames
      mapFds).Keeps fun world => installed.Honours kvers world.pins := by
  induction mapNames generalizing i mapFds with
  | nil => exact .pure mapFds
  | cons mapName rest ih =>
      obtain ⟨hfirst, hrest⟩ := eachMap_cons_iff.1 hdeclares
      refine .bind (.index md i Fault.mapDefs) fun _ mapDef _ hindex => ?_
      have hmapDef := (index_eq_ok_iff.1 hindex).1
      refine .bind (createMap_keeps hconsistent hkernel hcompletes (hfirst mapDef hmapDef)) ?_
      exact fun _ fd _ _ => ih hrest (mapFds ++ [fd])

theorem createMapsFrom_pins {md : List BpfMapDef} {i : Nat} {mapNames : List Name}
    (hdeclares : EachMap kvers md i mapNames fun mapDef mapName =>
      installed.Declares kvers (installed.mapPath mapDef mapName) mapDef.perm)
    {mapFds mapFds' : List Int} {world world' : World}
    (hworld : installed.Honours kvers world.pins)
    (hcreate : createMapsFrom kernel installed.elfPath installed.location.locPrefix md i mapNames
      mapFds world = (.ok mapFds', world')) :
    installed.Honours kvers world'.pins ∧ EachMap kvers md i mapNames fun mapDef mapName =>
      world'.pins (installed.mapPath mapDef mapName) = some mapDef.perm := by
  induction mapNames generalizing i mapFds world with
  | nil =>
      cases hcreate
      exact ⟨hworld, by simp [EachMap]⟩
  | cons mapName rest ih =>
      obtain ⟨hfirst, hothers⟩ := eachMap_cons_iff.1 hdeclares
      obtain ⟨mapDef, world₁, hindex, hturn⟩ := bind_apply_eq_ok_iff.1 hcreate
      obtain ⟨hmapDef, rfl⟩ := index_eq_ok_iff.1 hindex
      obtain ⟨fd, world₂, hmap, hrest⟩ := bind_apply_eq_ok_iff.1 hturn
      obtain ⟨hworld₂, hpinned⟩ := createMap_pins hconsistent hkernel (hfirst mapDef hmapDef)
        hworld hmap
      obtain ⟨hworld', hpins⟩ := ih hothers hworld₂ hrest
      refine ⟨hworld', eachMap_cons_iff.2 ⟨fun other hother hexcluded => ?_, hpins⟩⟩
      cases hmapDef.symm.trans hother
      -- the maps after it leave it as it is
      exact (createMapsFrom_survives kernel _ _ md (i + 1) rest _ _ _).of_ok
        (hpinned hexcluded) hrest

/-- A turn for a program keeps the permissions honoured, unless it ends
between its calls. -/
theorem loadCodeSection_keeps (hcompletes : kernel.Completes) {license : Name} {i : Nat}
    {codeSection : CodeSection}
    (hdeclares : ∀ progDef, codeSection.progDef = some progDef →
      ¬ Excluded kvers progDef.minKver progDef.maxKver →
        installed.Declares kvers (installed.progPath codeSection) progDef.perm) :
    (loadCodeSection kernel installed.elfPath installed.location.locPrefix license i
      codeSection).Keeps fun world => installed.Honours kvers world.pins := by
  intro world hworld
  subst hkernel
  cases hprogDef : codeSection.progDef with
  | none =>
      rw [loadCodeSection, hprogDef]
      exact hworld
  | some progDef =>
      rcases loadCodeSection_cases kernel installed.elfPath installed.location.locPrefix i world
        license codeSection progDef hprogDef with
        ⟨exit, hcase⟩ | ⟨-, exit, left, hfails, hcase⟩ | ⟨-, hcase⟩ | ⟨-, -, -, hcase⟩ |
        ⟨-, -, fd, hcase⟩ | ⟨hexcluded, -, fd, hcase⟩
      · rwa [hcase]
      · rcases hfails with hfails | hfails
        · exact absurd (hcompletes i).2.1 hfails
        · exact absurd (hcompletes i).2.2 hfails
      · rwa [hcase]
      · rwa [hcase]
      · rwa [hcase]
      · rw [hcase]
        exact honours_pinned hconsistent hworld (hdeclares progDef hprogDef hexcluded)

/-- A turn for a program that does not fail keeps the permissions honoured and
pins the program, unless it is optional. -/
theorem loadCodeSection_pins {license : Name} {i : Nat} {codeSection : CodeSection}
    (hdeclares : ∀ progDef, codeSection.progDef = some progDef →
      ¬ Excluded kvers progDef.minKver progDef.maxKver →
        installed.Declares kvers (installed.progPath codeSection) progDef.perm)
    {world world' : World} {fd : Option Nat} (hworld : installed.Honours kvers world.pins)
    (hload : loadCodeSection kernel installed.elfPath installed.location.locPrefix license i
      codeSection world = (.ok fd, world')) :
    installed.Honours kvers world'.pins ∧
      ∀ progDef, codeSection.progDef = some progDef →
        ¬ Excluded kvers progDef.minKver progDef.maxKver →
          world'.pins (installed.progPath codeSection) = some progDef.perm ∨
            (progDef.optional = true ∧ fd = none) := by
  subst hkernel
  cases hprogDef : codeSection.progDef with
  | none =>
      rw [loadCodeSection, hprogDef] at hload
      cases hload
  | some progDef =>
      simp only [Option.some.injEq, forall_eq']
      rcases loadCodeSection_cases kernel installed.elfPath installed.location.locPrefix i world
        license codeSection progDef hprogDef with
        ⟨exit, hcase⟩ | ⟨-, exit, left, -, hcase⟩ | ⟨hexcluded, hcase⟩ |
        ⟨-, hoptional, -, hcase⟩ | ⟨hexcluded, hpinned, fd, hcase⟩ | ⟨hexcluded, -, fd, hcase⟩
      · cases hload.symm.trans hcase
      · cases hload.symm.trans hcase
      · cases hload.symm.trans hcase
        exact ⟨hworld, fun hnot => absurd hexcluded hnot⟩
      · cases hload.symm.trans hcase
        exact ⟨hworld, fun _ => .inr ⟨hoptional, rfl⟩⟩
      · cases hload.symm.trans hcase
        refine ⟨hworld, fun _ => .inl ?_⟩
        obtain ⟨found, hfound⟩ := Option.ne_none_iff_exists'.1 hpinned
        exact hfound.trans (congrArg some
          (hworld _ _ found (hdeclares progDef hprogDef hexcluded) hfound))
      · cases hload.symm.trans hcase
        exact ⟨honours_pinned hconsistent hworld (hdeclares progDef hprogDef hexcluded),
          fun _ => .inl (world.pinned_self _ _)⟩

theorem loadCodeSectionsFrom_keeps (hcompletes : kernel.Completes) {license : Name}
    {cs : List CodeSection}
    (hdeclares : EachProgram kvers cs fun _ codeSection progDef =>
      installed.Declares kvers (installed.progPath codeSection) progDef.perm)
    (i : Nat) (progFds : List (Option Nat)) :
    (loadCodeSectionsFrom kernel installed.elfPath installed.location.locPrefix license i cs
      progFds).Keeps fun world => installed.Honours kvers world.pins := by
  induction cs generalizing i progFds with
  | nil => exact .pure progFds
  | cons codeSection rest ih =>
      obtain ⟨hfirst, hrest⟩ := eachProgram_cons_iff.1 hdeclares
      refine .bind (loadCodeSection_keeps hconsistent hkernel hcompletes hfirst) ?_
      exact fun _ fd _ _ => ih hrest (i + 1) (progFds ++ [fd])

theorem loadCodeSectionsFrom_pins {license : Name} {cs : List CodeSection}
    (hdeclares : EachProgram kvers cs fun _ codeSection progDef =>
      installed.Declares kvers (installed.progPath codeSection) progDef.perm)
    {i : Nat} {progFds progFds' : List (Option Nat)} {world world' : World}
    (hworld : installed.Honours kvers world.pins)
    (hload : loadCodeSectionsFrom kernel installed.elfPath installed.location.locPrefix license i
      cs progFds world = (.ok progFds', world')) :
    ∃ added, progFds' = progFds ++ added ∧ EachProgram kvers cs fun k codeSection progDef =>
      world'.pins (installed.progPath codeSection) = some progDef.perm ∨
        (progDef.optional = true ∧ added[k]? = some none) := by
  induction cs generalizing i progFds world with
  | nil =>
      cases hload
      exact ⟨[], by simp, by simp [EachProgram]⟩
  | cons codeSection rest ih =>
      obtain ⟨hfirst, hothers⟩ := eachProgram_cons_iff.1 hdeclares
      obtain ⟨fd, world₁, hturn, hrest⟩ := bind_apply_eq_ok_iff.1 hload
      obtain ⟨hworld₁, hpinned⟩ := loadCodeSection_pins hconsistent hkernel hfirst hworld hturn
      obtain ⟨added, rfl, hpins⟩ := ih hothers hworld₁ hrest
      refine ⟨fd :: added, by simp, eachProgram_cons_iff.2 ⟨?_, hpins⟩⟩
      intro progDef hprogDef hexcluded
      rcases hpinned progDef hprogDef hexcluded with hpin | ⟨hoptional, rfl⟩
      · exact .inl ((loadCodeSectionsFrom_survives kernel _ _ license (i + 1) rest _ _ _).of_ok
          hpin hrest)
      · exact .inr ⟨hoptional, rfl⟩

/-! Whole runs. -/

variable (kvers) in
omit hconsistent hkernel in
theorem eachMap_declares {md : List BpfMapDef} {mapNames : List Name} {failed : Bool}
    (hread : readMaps installed.device installed.file false =
      (.ok (some (md, mapNames)), failed)) :
    EachMap kvers md 0 mapNames fun mapDef mapName =>
      installed.Declares kvers (installed.mapPath mapDef mapName) mapDef.perm := by
  intro k mapDef mapName hmapDef hmapName hkvers
  rw [Nat.zero_add] at hmapDef
  exact .inl (.intro hread hmapDef hmapName hkvers)

variable (kvers) in
omit hconsistent hkernel in
theorem eachProgram_declares {cs cs' : List CodeSection} {failed : Bool}
    (hread : readCodeSections installed.device installed.file
      installed.location.allowedProgTypes false = (.ok cs, failed))
    (hsame : List.Forall₂ SameProgram cs cs') :
    EachProgram kvers cs' fun k codeSection progDef =>
      installed.DeclaresProgram kvers k progDef (installed.progPath codeSection) := by
  intro k codeSection' progDef hcs' hprogDef hkvers
  obtain ⟨codeSection, hcs, hname, hdef⟩ := exists_of_forall₂
    (List.Forall₂.flip (hsame.imp fun _ _ => SameProgram.symm)) hcs'
  have hpath : installed.progPath codeSection' = installed.progPath codeSection := by
    rw [progPath, ← hname, progPath]
  rw [hpath]
  exact .intro hread hcs (hdef ▸ hprogDef) hkvers

theorem createMaps_keeps (hcompletes : kernel.Completes) :
    (Loader.createMaps kernel installed.device installed.file installed.elfPath
      installed.location.locPrefix).Keeps fun world => installed.Honours kvers world.pins := by
  refine .bind (reading_keeps _ _) fun world maps world' hreading => ?_
  obtain ⟨-, failed, hread⟩ := reading_eq_ok ⟨_, readMaps_of_failed _ _⟩ hreading
  cases maps with
  | none => exact .pure []
  | some maps =>
      exact createMapsFrom_keeps hconsistent hkernel hcompletes (eachMap_declares kvers hread) []

theorem loadObject_keeps (hcompletes : kernel.Completes) :
    (Loader.loadObject installed.device kernel installed.location installed.elfPath
      installed.file).Keeps fun world => installed.Honours kvers world.pins := by
  refine .bind (reading_keeps _ _) fun _ license _ _ => ?_
  refine .bind (reading_keeps _ _) fun _ cs _ hcs => ?_
  refine .bind (createMaps_keeps hconsistent hkernel hcompletes) fun _ mapFds _ _ => ?_
  refine .bind (reading_keeps _ _) fun _ cs' _ hcs' => ?_
  obtain ⟨-, failed, hread⟩ := reading_eq_ok ⟨_, readCodeSections_of_failed _ _ _⟩ hcs
  obtain ⟨_, happly, -⟩ := onPart_eq_ok_iff.1 hcs'
  have hdeclares := eachProgram_declares kvers hread
    (applyMapRelo_same _ _ mapFds happly)
  unfold loadCodeSections
  split
  · exact .fail _
  · refine loadCodeSectionsFrom_keeps hconsistent hkernel hcompletes ?_ 0 []
    intro k codeSection progDef hsection hprogDef hexcluded
    exact .inr ⟨k, progDef, hdeclares k codeSection progDef hsection hprogDef hexcluded, rfl⟩

/-- When `createMaps` returns 0, the maps are pinned with their permissions. -/
theorem createMaps_pins {world world' : World} {mapFds : List Int}
    (hworld : installed.Honours kvers world.pins)
    (hcreate : Loader.createMaps kernel installed.device installed.file installed.elfPath
      installed.location.locPrefix world = (.ok mapFds, world')) :
    installed.Honours kvers world'.pins ∧ installed.MapsPinned kvers world'.pins := by
  obtain ⟨maps, world₁, hreading, hloop⟩ := bind_apply_eq_ok_iff.1 hcreate
  obtain ⟨hpins, failed, hread⟩ := reading_eq_ok ⟨_, readMaps_of_failed _ _⟩ hreading
  rw [← hpins] at hworld
  cases maps with
  | none =>
      cases hloop
      refine ⟨hworld, ?_⟩
      rintro _ _ ⟨hread'⟩
      cases hread.symm.trans hread'
  | some maps =>
      obtain ⟨hworld', heach⟩ := createMapsFrom_pins hconsistent hkernel
        (eachMap_declares kvers hread) hworld hloop
      refine ⟨hworld', ?_⟩
      rintro _ _ ⟨hread', hmapDef, hmapName, hkvers⟩
      cases hread.symm.trans hread'
      exact heach _ _ _ (by rwa [Nat.zero_add]) hmapName hkvers

/-- When `loadCodeSections` returns 0 after that, so are the programs. -/
theorem loadObject_pins {world world' : World} {progFds : List (Option Nat)}
    (hworld : installed.Honours kvers world.pins)
    (hload : Loader.loadObject installed.device kernel installed.location installed.elfPath
      installed.file world = (.ok progFds, world')) :
    installed.MapsPinned kvers world'.pins ∧
      installed.ProgramsPinned kvers progFds world'.pins := by
  obtain ⟨license, world₁, hlicense, hload⟩ := bind_apply_eq_ok_iff.1 hload
  obtain ⟨cs, world₂, hcs, hload⟩ := bind_apply_eq_ok_iff.1 hload
  obtain ⟨mapFds, world₃, hcreate, hload⟩ := bind_apply_eq_ok_iff.1 hload
  obtain ⟨cs', world₄, hcs', hload⟩ := bind_apply_eq_ok_iff.1 hload
  have hworld₁ := (reading_keeps _ (installed.Honours kvers)).of_ok hworld hlicense
  obtain ⟨hpins₂, failed, hread⟩ := reading_eq_ok ⟨_, readCodeSections_of_failed _ _ _⟩ hcs
  rw [← hpins₂] at hworld₁
  obtain ⟨hworld₃, hmaps⟩ := createMaps_pins hconsistent hkernel hworld₁ hcreate
  have hworld₄ := (reading_keeps _ (installed.Honours kvers)).of_ok hworld₃ hcs'
  obtain ⟨_, happly, rfl⟩ := onPart_eq_ok_iff.1 hcs'
  have hsame := applyMapRelo_same _ _ mapFds happly
  have hdeclares := eachProgram_declares kvers hread hsame
  unfold loadCodeSections at hload
  split at hload
  · cases hload
  · obtain ⟨added, rfl, heach⟩ := loadCodeSectionsFrom_pins hconsistent hkernel
      (fun k codeSection progDef hsection hprogDef hexcluded => .inr ⟨k, progDef,
        hdeclares k codeSection progDef hsection hprogDef hexcluded, rfl⟩) hworld₄ hload
    constructor
    · intro path perm hdeclared
      refine (loadCodeSectionsFrom_survives kernel _ _ _ 0 cs' [] path perm).of_ok ?_ hload
      exact hmaps path perm hdeclared
    · rintro i progDef _ ⟨hread', hsection, hprogDef, hkvers⟩
      cases hread.symm.trans hread'
      obtain ⟨codeSection, hcodeSection', hname, hdef⟩ := exists_of_forall₂ hsame hsection
      rw [progPath, ← hname]
      exact heach i codeSection progDef hcodeSection' (hdef.trans hprogDef) hkvers

end Installed

theorem machine_step_honours {installed : Installed} {kvers : Nat}
    (hconsistent : installed.Consistent kvers) {pins pins' : Pins} {kernel : Kernel}
    (hpins : installed.Honours kvers pins) (hcompletes : kernel.Completes)
    (hstep : (installed.machine kvers).step pins kernel = some pins') :
    installed.Honours kvers pins' := by
  simp only [Installed.machine, Option.ite_none_right_eq_some, Option.some.injEq] at hstep
  obtain ⟨hkernel, rfl⟩ := hstep
  have hkeeps : (loadProg installed.device kernel installed.location installed.elfPath
      installed.file).Keeps fun world => installed.Honours kvers world.pins := by
    refine .bind (reading_keeps _ _).attempt fun _ critical _ _ => ?_
    refine .bind (Installed.loadObject_keeps hconsistent hkernel hcompletes).attempt ?_
    exact fun _ ended _ _ => .pure _
  exact hkeeps ⟨false, pins⟩ hpins

def countStrings : List UInt8 :=
  asBytes "license" ++ [0] ++ asBytes "progs" ++ [0] ++ asBytes "maps" ++ [0] ++
    asBytes "counts" ++ [0]

def countFile : List UInt8 :=
  object 4 [⟨0, 1, asBytes "GPL" ++ [0]⟩, ⟨8, 1, []⟩, ⟨14, 1, mapDefinition 0o660 1000 1000 0⟩,
    ⟨7, shtSymtab, symbol 19 1 2 0⟩, ⟨7, 3, countStrings⟩]

def countObject : Installed :=
  ⟨stableDevice 1024, ⟨asBytes "uprobestats/", none⟩, asBytes "a/count.o", countFile⟩

/-- The definition of its map. -/
def countDef : BpfMapDef := ⟨1, 4, 8, 16, 0, 0, 1000, 0o660, 0, 2 ^ 32 - 1, false, 1000⟩

theorem readMaps_countObject : readMaps countObject.device countObject.file false =
    (.ok (some ([countDef], [asBytes "counts"])), false) := by decide +kernel

theorem declaresMap_countObject :
    countObject.DeclaresMap kver54 (countObject.mapPath countDef (asBytes "counts"))
      ⟨0o660, 1000, 1000⟩ :=
  .intro (i := 0) readMaps_countObject rfl rfl (by decide +kernel)

theorem declares_countObject {path : Name} {perm : Perm}
    (hdeclares : countObject.Declares kver54 path perm) : perm = ⟨0o660, 1000, 1000⟩ := by
  rcases hdeclares with ⟨hread, hmapDef, hmapName, -⟩ | ⟨i, progDef, ⟨hread, hcs, -, -⟩, -⟩
  · cases readMaps_countObject.symm.trans hread
    obtain rfl := List.mem_singleton.1 (List.mem_of_getElem? hmapDef)
    rfl
  · have hnone : readCodeSections countObject.device countObject.file
        countObject.location.allowedProgTypes false = (.ok [], false) := by decide +kernel
    cases hnone.symm.trans hread
    cases hcs

/-- The mode of what is pinned cannot be set. -/
def chmodFails : PinAnswers := ⟨fun _ => none, fun _ => some ⟨1, by decide⟩, fun _ => none⟩

end UprobeStats.Loader
