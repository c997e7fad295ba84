/-
The whole run of the loader at boot: it makes the directory, loads one object
file after another, in whatever order the directory lists them, and then hands
over to the platform's loader.  Objects share the file system they pin to.
-/
import UprobeStats.Pinning

namespace UprobeStats.Loader

open Bytes Checked Checked.Prog

/-- A name that `readdir` returns, and what opens under it. -/
structure DirEntry where
  name : Name
  file : Option (List UInt8)
deriving DecidableEq, Repr

/-- A turn of the loop over a directory: its entry, and the kernel by then. -/
abbrev DirTurn := DirEntry × Kernel

/-- `EndsWith(s, ".o")`. -/
def DirEntry.IsObject (entry : DirEntry) : Prop := asBytes ".o" <:+ entry.name

instance (entry : DirEntry) : Decidable entry.IsObject :=
  inferInstanceAs (Decidable (_ <:+ _))

section Directory

variable (device : Device) (location : Location) (dir : Name)

/-- How `loadProg` ends: with a 0, or with another result. -/
abbrev LoadEnd := Except Int (List (Option Nat))

/-- `loadProg`, from opening the file on: `isCritical`, and how it ends.  Every
object has a stream of its own. -/
def loadFile (entry : DirEntry) (kernel : Kernel) : Prog Pins Exit Fault (Bool × LoadEnd) :=
  match entry.file with
  | none => return (false, .error (-1))
  | some file => fun pins =>
      match loadProg device kernel location (dir ++ entry.name) file ⟨false, pins⟩ with
      | (.ok (critical, .ok progFds), world) => (.ok (critical, .ok progFds), world.pins)
      | (.ok (critical, .error (.ret ret)), world) => (.ok (critical, .error ret), world.pins)
      | (.ok (_, .error .abort), world) => (.error .abort, world.pins)
      | (.error exit, world) => (.error exit, world.pins)
      | (.fault fault, world) => (.fault fault, world.pins)

/-- What becomes of `retVal` when an object has been loaded. -/
def nextRetVal (critical : Bool) (ended : LoadEnd) (retVal : Int) : Int :=
  match ended with
  | .ok _ => retVal
  | .error ret => if ret ≠ 0 ∧ critical then ret else retVal

/-- The loop of `loadAllElfObjects`. -/
def loadEntries : List DirTurn → Int → Prog Pins Exit Fault Int
  | [], retVal => return retVal
  | (entry, kernel) :: rest, retVal =>
      if entry.IsObject then do
        let (critical, ended) ← loadFile device location dir entry kernel
        loadEntries rest (nextRetVal critical ended retVal)
      else loadEntries rest retVal

/-- `loadAllElfObjects`, with what `opendir` and `readdir` return. -/
def loadAllElfObjects (opened : Option (List DirTurn)) : Prog Pins Exit Fault Int :=
  match opened with
  | none => return 0
  | some turns => loadEntries device location dir turns 0

end Directory

/-! The process. -/

/-- `EEXIST`. -/
def eexist : Int := 17

/-- What the process has of its own, and the pinned objects. -/
structure Process where
  umask : Nat
  pins : Pins

/-- `createSysFsBpfSubDir`, which returns from between the two calls of `umask`
if there is no directory. -/
def createSysFsBpfSubDir (mkdir : Name → Option Errno) (locPrefix : Name) :
    Prog Process Exit Fault Int := fun process =>
  if locPrefix = [] then (.ok 0, process)
  else
    match mkdir (bpfFsPath ++ locPrefix) with
    | none => (.ok 0, process)
    | some errno =>
        if errno.1 = eexist then (.ok 0, process)
        else (.ok (-errno), { process with umask := 0 })

/-- An element of `locations`. -/
structure DirLocation where
  dir : Name
  location : Location

def uprobestatsLocation : DirLocation where
  dir := asBytes "/apex/com.android.uprobestats/etc/bpf/uprobestats/"
  location := ⟨asBytes "uprobestats/", some [bpfProgTypeKprobe]⟩

/-- `locations`. -/
def locations : List DirLocation := [uprobestatsLocation]

/-- What the process meets. -/
structure BootEnv where
  device : Device
  mkdir : Name → Option Errno
  opendir : Name → Option (List DirTurn)
  execve : Option Errno

/-- How `main` ends, unless it is stopped: as the platform's loader, with the
mask that it inherits, or with an exit status. -/
inductive MainEnd where
  | platformBpfLoader (umask : Nat)
  | status (code : Int)
deriving DecidableEq, Repr

section Main

variable (env : BootEnv)

/-- `createBpfFsSubDirectories`: whether it has failed. -/
def createBpfFsSubDirectories : List DirLocation → Prog Process Exit Fault Bool
  | [] => return false
  | first :: rest => do
      let ret ← createSysFsBpfSubDir env.mkdir first.location.locPrefix
      if ret ≠ 0 then return true
      else createBpfFsSubDirectories rest

/-- `legacyBpfLoader`. -/
def legacyBpfLoader : List DirLocation → Prog Process Exit Fault Unit
  | [] => return ()
  | first :: rest => do
      let _ ← (loadAllElfObjects env.device first.location first.dir
        (env.opendir first.dir)).onPart Process.pins fun process pins =>
          { process with pins := pins }
      legacyBpfLoader rest

/-- `load`. -/
def load : Prog Process Exit Fault Unit := do
  if ← createBpfFsSubDirectories env locations then return ()
  else legacyBpfLoader env locations

def main : Prog Process Exit Fault MainEnd := do
  load env
  match env.execve with
  | none => fun process => (.ok (.platformBpfLoader process.umask), process)
  | some _ => return .status 1

end Main

/-! What loading an object can do to the pinned objects. -/

/-- Pinning something that the object declares, where nothing is pinned, keeps
the property. -/
def Installed.Allows (installed : Installed) (kvers : Nat) (P : Pins → Prop) : Prop :=
  ∀ pins path perm, P pins → pins path = none → installed.Declares kvers path perm →
    P (Function.update pins path (some perm))

namespace Installed

variable {installed : Installed} {kvers : Nat} {P : Pins → Prop}
variable (hallows : installed.Allows kvers P)
variable {kernel : Kernel} (hkernel : kernel.kvers = kvers) (hcompletes : kernel.Completes)

include hallows hkernel hcompletes

theorem createMap_allowed {i : Nat} {mapDef : BpfMapDef} {mapName : Name}
    (hdeclares : ¬ Excluded kvers mapDef.minKver mapDef.maxKver →
      installed.Declares kvers (installed.mapPath mapDef mapName) mapDef.perm) :
    (createMap kernel installed.elfPath installed.location.locPrefix i mapDef mapName).Keeps
      fun world => P world.pins := by
  intro world hworld
  subst hkernel
  rcases createMap_cases kernel installed.elfPath installed.location.locPrefix i world mapDef
    mapName with ⟨exit, hcase⟩ | ⟨-, exit, left, hfails, hcase⟩ | ⟨-, hcase⟩ |
    ⟨-, -, fd, -, hcase⟩ | ⟨hexcluded, hfree, fd, -, hcase⟩
  · rwa [hcase]
  · rcases hfails with hfails | hfails
    · exact absurd (hcompletes i).1.1 hfails
    · exact absurd (hcompletes i).1.2 hfails
  · rwa [hcase]
  · rwa [hcase]
  · rw [hcase]
    exact hallows _ _ _ hworld hfree (hdeclares hexcluded)

theorem createMapsFrom_allowed {md : List BpfMapDef} {i : Nat} {mapNames : List Name}
    (hdeclares : EachMap kvers md i mapNames fun mapDef mapName =>
      installed.Declares kvers (installed.mapPath mapDef mapName) mapDef.perm)
    (mapFds : List Int) :
    (createMapsFrom kernel installed.elfPath installed.location.locPrefix md i mapNames
      mapFds).Keeps fun world => P world.pins := by
  induction mapNames generalizing i mapFds with
  | nil => exact .pure mapFds
  | cons mapName rest ih =>
      obtain ⟨hfirst, hrest⟩ := eachMap_cons_iff.1 hdeclares
      refine .bind (.index md i Fault.mapDefs) fun _ mapDef _ hindex => ?_
      have hmapDef := (index_eq_ok_iff.1 hindex).1
      refine .bind (createMap_allowed hallows hkernel hcompletes (hfirst mapDef hmapDef)) ?_
      exact fun _ fd _ _ => ih hrest (mapFds ++ [fd])

theorem createMaps_allowed :
    (Loader.createMaps kernel installed.device installed.file installed.elfPath
      installed.location.locPrefix).Keeps fun world => P world.pins := by
  refine .bind (reading_keeps _ P) fun world maps world' hreading => ?_
  obtain ⟨-, failed, hread⟩ := reading_eq_ok ⟨_, readMaps_of_failed _ _⟩ hreading
  cases maps with
  | none => exact .pure []
  | some maps =>
      exact createMapsFrom_allowed hallows hkernel hcompletes (eachMap_declares kvers hread) []

theorem loadCodeSection_allowed {license : Name} {i : Nat} {codeSection : CodeSection}
    (hdeclares : ∀ progDef, codeSection.progDef = some progDef →
      ¬ Excluded kvers progDef.minKver progDef.maxKver →
        installed.Declares kvers (installed.progPath codeSection) progDef.perm) :
    (loadCodeSection kernel installed.elfPath installed.location.locPrefix license i
      codeSection).Keeps fun world => P world.pins := by
  intro world hworld
  subst hkernel
  cases hprogDef : codeSection.progDef with
  | none =>
      rw [loadCodeSection, hprogDef]
      exact hworld
  | some progDef =>
      rcases loadCodeSection_cases kernel installed.elfPath installed.location.locPrefix i world
        license codeSection progDef hprogDef with
        ⟨exit, hcase⟩ | ⟨-, exit, left, hfails, hcase⟩ | ⟨-, hcase⟩ | ⟨-, -, -, hcase⟩ |
        ⟨-, -, fd, hcase⟩ | ⟨hexcluded, hfree, fd, hcase⟩
      · rwa [hcase]
      · rcases hfails with hfails | hfails
        · exact absurd (hcompletes i).2.1 hfails
        · exact absurd (hcompletes i).2.2 hfails
      · rwa [hcase]
      · rwa [hcase]
      · rwa [hcase]
      · rw [hcase]
        exact hallows _ _ _ hworld hfree (hdeclares progDef hprogDef hexcluded)

theorem loadCodeSectionsFrom_allowed {license : Name} {cs : List CodeSection}
    (hdeclares : EachProgram kvers cs fun _ codeSection progDef =>
      installed.Declares kvers (installed.progPath codeSection) progDef.perm)
    (i : Nat) (progFds : List (Option Nat)) :
    (loadCodeSectionsFrom kernel installed.elfPath installed.location.locPrefix license i cs
      progFds).Keeps fun world => P world.pins := by
  induction cs generalizing i progFds with
  | nil => exact .pure progFds
  | cons codeSection rest ih =>
      obtain ⟨hfirst, hrest⟩ := eachProgram_cons_iff.1 hdeclares
      refine .bind (loadCodeSection_allowed hallows hkernel hcompletes hfirst) ?_
      exact fun _ fd _ _ => ih hrest (i + 1) (progFds ++ [fd])

theorem loadObject_allowed :
    (Loader.loadObject installed.device kernel installed.location installed.elfPath
      installed.file).Keeps fun world => P world.pins := by
  refine .bind (reading_keeps _ P) fun _ license _ _ => ?_
  refine .bind (reading_keeps _ P) fun _ cs _ hcs => ?_
  refine .bind (createMaps_allowed hallows hkernel hcompletes) fun _ mapFds _ _ => ?_
  refine .bind (reading_keeps _ P) fun _ cs' _ hcs' => ?_
  obtain ⟨-, failed, hread⟩ := reading_eq_ok ⟨_, readCodeSections_of_failed _ _ _⟩ hcs
  obtain ⟨_, happly, -⟩ := onPart_eq_ok_iff.1 hcs'
  have hdeclares := eachProgram_declares kvers hread
    (applyMapRelo_same _ _ mapFds happly)
  unfold loadCodeSections
  split
  · exact .fail _
  · refine loadCodeSectionsFrom_allowed hallows hkernel hcompletes ?_ 0 []
    intro k codeSection progDef hsection hprogDef hexcluded
    exact .inr ⟨k, progDef, hdeclares k codeSection progDef hsection hprogDef hexcluded, rfl⟩

theorem loadProg_allowed :
    (loadProg installed.device kernel installed.location installed.elfPath
      installed.file).Keeps fun world => P world.pins := by
  refine .bind (reading_keeps _ P).attempt fun _ critical _ _ => ?_
  refine .bind (loadObject_allowed hallows hkernel hcompletes).attempt ?_
  exact fun _ ended _ _ => .pure _

end Installed

/-! The loop over a directory. -/

/-- How one object file has been loaded. -/
structure Loaded where
  entry : DirEntry
  critical : Bool
  ended : LoadEnd

/-- A failure that counts. -/
def Loaded.failure (loaded : Loaded) : Option Int :=
  match loaded.ended with
  | .ok _ => none
  | .error ret => if ret ≠ 0 ∧ loaded.critical then some ret else none

section Directory

variable (device : Device) (location : Location) (dir : Name)

/-- The object files in their order, and how each has been loaded. -/
def loadResults : List DirTurn → Prog Pins Exit Fault (List Loaded)
  | [] => return []
  | (entry, kernel) :: rest =>
      if entry.IsObject then do
        let (critical, ended) ← loadFile device location dir entry kernel
        let others ← loadResults rest
        return ⟨entry, critical, ended⟩ :: others
      else loadResults rest

/-- An object file as it is installed. -/
def DirEntry.installed (entry : DirEntry) (file : List UInt8) : Installed :=
  ⟨device, location, dir ++ entry.name, file⟩

/-- The object files of a directory that can be opened. -/
def Listed (turns : List DirTurn) (installed : Installed) : Prop :=
  ∃ turn ∈ turns, turn.1.IsObject ∧ ∃ file, turn.1.file = some file ∧
    turn.1.installed device location dir file = installed

variable {device location dir}

theorem nextRetVal_eq (entry : DirEntry) (critical : Bool) (ended : LoadEnd) (retVal : Int) :
    nextRetVal critical ended retVal = (Loaded.failure ⟨entry, critical, ended⟩).getD retVal := by
  cases ended with
  | ok progFds => rfl
  | error ret =>
      simp only [nextRetVal, Loaded.failure]
      split <;> rfl

/-- What the loop returns is the last failure that counts. -/
theorem loadEntries_eq_ok {turns : List DirTurn} {retVal result : Int} {pins pins' : Pins}
    (hload : loadEntries device location dir turns retVal pins = (.ok result, pins')) :
    ∃ results, loadResults device location dir turns pins = (.ok results, pins') ∧
      results.map Loaded.entry =
        (turns.map Prod.fst).filter (fun entry => decide entry.IsObject) ∧
      result = (results.filterMap Loaded.failure).getLast?.getD retVal := by
  induction turns generalizing retVal pins with
  | nil =>
      cases hload
      exact ⟨[], rfl, rfl, rfl⟩
  | cons turn rest ih =>
      obtain ⟨entry, kernel⟩ := turn
      rw [loadEntries] at hload
      rw [loadResults, List.map_cons]
      by_cases hobject : entry.IsObject
      · rw [if_pos hobject] at hload ⊢
        obtain ⟨⟨critical, ended⟩, middle, hfile, hrest⟩ := bind_apply_eq_ok_iff.1 hload
        obtain ⟨results, hresults, hentries, rfl⟩ := ih hrest
        refine ⟨⟨entry, critical, ended⟩ :: results, ?_, ?_, ?_⟩
        · exact (bind_of_ok hfile _).trans (bind_of_ok hresults _)
        · simp [hobject, hentries]
        · rw [nextRetVal_eq entry, List.filterMap_cons]
          cases hfailure : Loaded.failure ⟨entry, critical, ended⟩ with
          | none => rfl
          | some ret =>
              rw [Option.getD_some]
              cases results.filterMap Loaded.failure with
              | nil => rfl
              | cons other others => rfl
      · rw [if_neg hobject] at hload ⊢
        obtain ⟨results, hresults, hentries, hresult⟩ := ih hload
        refine ⟨results, hresults, ?_, hresult⟩
        simp [hobject, hentries]

variable {kvers : Nat} {P : Pins → Prop}

theorem snd_loadFile {entry : DirEntry} {file : List UInt8} (hfile : entry.file = some file)
    (kernel : Kernel) (pins : Pins) :
    (loadFile device location dir entry kernel pins).2 =
      (loadProg device kernel location (dir ++ entry.name) file ⟨false, pins⟩).2.pins := by
  simp only [loadFile, hfile]
  rcases loadProg device kernel location (dir ++ entry.name) file ⟨false, pins⟩ with
    ⟨⟨critical, ended⟩ | exit | fault, world⟩
  · rcases ended with (ret | _) | progFds <;> rfl
  · rfl
  · rfl

/-- A file that loads has been loaded by `loadObject`. -/
theorem loadFile_eq_ok {entry : DirEntry} {kernel : Kernel} {critical : Bool}
    {progFds : List (Option Nat)} {pins pins' : Pins}
    (hload : loadFile device location dir entry kernel pins =
      (.ok (critical, .ok progFds), pins')) :
    ∃ file, entry.file = some file ∧ ∃ world world' : World, world.pins = pins ∧
      world'.pins = pins' ∧
      loadObject device kernel location (dir ++ entry.name) file world = (.ok progFds, world') := by
  cases hfile : entry.file with
  | none => simp [loadFile, hfile] at hload
  | some file =>
      refine ⟨file, rfl, ?_⟩
      simp only [loadFile, hfile] at hload
      split at hload
      · rename_i critical' progFds' world' hprog
        cases hload
        obtain ⟨_, world, hcritical, hrest⟩ := bind_apply_eq_ok_iff.1 hprog
        obtain ⟨ended, world'', hended, hpure⟩ := bind_apply_eq_ok_iff.1 hrest
        cases hpure
        refine ⟨world, world', ?_, rfl, ?_⟩
        · have hkeeps := (reading_keeps (readSectionByName device file (asBytes "critical"))
            fun other => other = pins).attempt
          exact hkeeps.of_ok rfl hcritical
        · rw [attempt] at hended
          split at hended
          · rename_i hobject
            cases hended
            exact hobject
          · cases hended
          · cases hended
      · cases hload
      · cases hload
      · cases hload
      · cases hload

/-- Loading a file keeps what its object allows. -/
theorem loadFile_allowed {entry : DirEntry} {kernel : Kernel} (hkernel : kernel.kvers = kvers)
    (hcompletes : kernel.Completes)
    (hallows : ∀ file, entry.file = some file →
      (entry.installed device location dir file).Allows kvers P) :
    (loadFile device location dir entry kernel).Keeps P := by
  intro pins hpins
  cases hfile : entry.file with
  | none =>
      rw [loadFile, hfile]
      exact hpins
  | some file =>
      rw [snd_loadFile hfile]
      exact Installed.loadProg_allowed (hallows file hfile) hkernel hcompletes ⟨false, pins⟩ hpins

theorem loadResults_allowed {turns : List DirTurn} (hkvers : ∀ turn ∈ turns, turn.2.kvers = kvers)
    (hcompletes : ∀ turn ∈ turns, turn.2.Completes)
    (hallows : ∀ installed, Listed device location dir turns installed →
      installed.Allows kvers P) :
    (loadResults device location dir turns).Keeps P := by
  induction turns with
  | nil => exact .pure []
  | cons turn rest ih =>
      obtain ⟨entry, kernel⟩ := turn
      rw [List.forall_mem_cons] at hkvers hcompletes
      have hrest := ih hkvers.2 hcompletes.2 fun installed ⟨turn, hturn, hlisted⟩ =>
        hallows installed ⟨turn, List.mem_cons_of_mem _ hturn, hlisted⟩
      rw [loadResults]
      split
      · rename_i hobject
        refine .bind (loadFile_allowed hkvers.1 hcompletes.1 fun file hfile =>
          hallows _ ⟨_, List.mem_cons_self, hobject, file, hfile, rfl⟩) ?_
        exact fun _ _ _ _ => .bind hrest fun _ _ _ _ => .pure _
      · exact hrest

/-- The objects declare one set of permissions for each location. -/
def Agree (kvers : Nat) (objects : Installed → Prop) : Prop :=
  ∀ installed, objects installed → ∀ other, objects other → ∀ path perm perm',
    installed.Declares kvers path perm → other.Declares kvers path perm' → perm = perm'

/-- What may have become of the pinned objects: nothing is changed or lost, what
has been added is declared, and the permissions are those that are declared. -/
structure Grown (kvers : Nat) (objects : Installed → Prop) (before after : Pins) : Prop where
  kept : ∀ path found, before path = some found → after path = some found
  declared : ∀ path perm, after path = some perm → before path = some perm ∨
    ∃ installed, objects installed ∧ installed.Declares kvers path perm
  honoured : ∀ installed, objects installed → installed.Honours kvers after

/-- A location that is taken stays as it is. -/
theorem Installed.allows_pinned (installed : Installed) (path : Name) (found : Perm) :
    installed.Allows kvers fun pins => pins path = some found := by
  intro pins other perm hfound hfree _
  have hne : path ≠ other := by
    rintro rfl
    rw [hfree] at hfound
    cases hfound
  rw [Function.update_of_ne hne]
  exact hfound

/-- An object that agrees with the others only adds to what is pinned. -/
theorem Agree.allows_grown {objects : Installed → Prop} (hagree : Agree kvers objects)
    {installed : Installed} (hobject : objects installed) (before : Pins) :
    installed.Allows kvers (Grown kvers objects before) := by
  intro pins path perm hgrown hfree hdeclares
  refine ⟨?_, ?_, ?_⟩
  · intro other found hfound
    exact installed.allows_pinned other found pins path perm (hgrown.kept other found hfound) hfree
      hdeclares
  · intro other found hfound
    by_cases heq : other = path
    · subst heq
      rw [Function.update_self, Option.some.injEq] at hfound
      subst hfound
      exact .inr ⟨installed, hobject, hdeclares⟩
    · rw [Function.update_of_ne heq] at hfound
      exact hgrown.declared other found hfound
  · intro rival hrival other perm' found hother hfound
    by_cases heq : other = path
    · subst heq
      rw [Function.update_self, Option.some.injEq] at hfound
      subst hfound
      exact hagree installed hobject rival hrival other _ _ hdeclares hother
    · rw [Function.update_of_ne heq] at hfound
      exact hgrown.honoured rival hrival other perm' found hother hfound

/-- Every object that has been loaded is pinned in the end. -/
theorem loadResults_pinned {turns : List DirTurn} (hkvers : ∀ turn ∈ turns, turn.2.kvers = kvers)
    (hcompletes : ∀ turn ∈ turns, turn.2.Completes) {objects : Installed → Prop}
    (hagree : Agree kvers objects)
    (hlisted : ∀ installed, Listed device location dir turns installed → objects installed)
    {before pins after : Pins} (hgrown : Grown kvers objects before pins) {results : List Loaded}
    (hload : loadResults device location dir turns pins = (.ok results, after)) :
    ∀ loaded ∈ results, ∀ progFds, loaded.ended = .ok progFds →
      ∃ file, loaded.entry.file = some file ∧
        (loaded.entry.installed device location dir file).MapsPinned kvers after ∧
        (loaded.entry.installed device location dir file).ProgramsPinned kvers progFds after := by
  induction turns generalizing pins results with
  | nil =>
      cases hload
      simp
  | cons turn rest ih =>
      obtain ⟨entry, kernel⟩ := turn
      rw [List.forall_mem_cons] at hkvers hcompletes
      have hlater : ∀ installed, Listed device location dir rest installed → objects installed :=
        fun installed ⟨turn, hturn, hrest⟩ =>
          hlisted installed ⟨turn, List.mem_cons_of_mem _ hturn, hrest⟩
      rw [loadResults] at hload
      split at hload
      · rename_i hobject
        obtain ⟨⟨critical, ended⟩, middle, hfirst, hload⟩ := bind_apply_eq_ok_iff.1 hload
        obtain ⟨others, _, hothers, hpure⟩ := bind_apply_eq_ok_iff.1 hload
        cases hpure
        have hfiles : ∀ file, entry.file = some file →
            objects (entry.installed device location dir file) := fun file hfile =>
          hlisted _ ⟨_, List.mem_cons_self, hobject, file, hfile, rfl⟩
        have hmiddle : Grown kvers objects before middle := by
          refine (loadFile_allowed hkvers.1 hcompletes.1 ?_).of_ok hgrown hfirst
          exact fun file hfile => hagree.allows_grown (hfiles file hfile) before
        rw [List.forall_mem_cons]
        refine ⟨?_, ih hkvers.2 hcompletes.2 hlater hmiddle hothers⟩
        rintro progFds rfl
        obtain ⟨file, hfile, world, world', rfl, rfl, hobjectLoad⟩ := loadFile_eq_ok hfirst
        have hself := hfiles file hfile
        have hpinned : (entry.installed device location dir file).MapsPinned kvers world'.pins ∧
            (entry.installed device location dir file).ProgramsPinned kvers progFds world'.pins :=
          Installed.loadObject_pins (hagree _ hself _ hself) hkvers.1 (hgrown.honoured _ hself)
            hobjectLoad
        obtain ⟨hmaps, hprograms⟩ := hpinned
        have hsurvives : ∀ path found, world'.pins path = some found →
            after path = some found := by
          intro path found hfound
          exact (loadResults_allowed hkvers.2 hcompletes.2 fun installed _ =>
            installed.allows_pinned path found).of_ok hfound hothers
        refine ⟨file, hfile, ?_, ?_⟩
        · exact fun path perm hdeclared => hsurvives path perm (hmaps path perm hdeclared)
        · intro i progDef path hdeclared
          exact (hprograms i progDef path hdeclared).imp_left (hsurvives path progDef.perm)
      · exact ih hkvers.2 hcompletes.2 hlater hgrown hload

/-- What loading a directory leaves behind. -/
structure DirectoryLoaded (device : Device) (location : Location) (dir : Name) (kvers : Nat)
    (turns : List DirTurn) (before after : Pins) (results : List Loaded) : Prop where
  loads : loadResults device location dir turns before = (.ok results, after)
  entries : results.map Loaded.entry =
    (turns.map Prod.fst).filter fun entry => decide entry.IsObject
  grown : Grown kvers (Listed device location dir turns) before after
  pinned : ∀ loaded ∈ results, ∀ progFds, loaded.ended = .ok progFds →
    ∃ file, loaded.entry.file = some file ∧
      (loaded.entry.installed device location dir file).MapsPinned kvers after ∧
      (loaded.entry.installed device location dir file).ProgramsPinned kvers progFds after

/-- Loading the objects of a directory that agree with each other, whatever
their order and whichever fail.  The result is that of the last critical object
that fails. -/
theorem directoryLoaded {turns : List DirTurn} (hkvers : ∀ turn ∈ turns, turn.2.kvers = kvers)
    (hcompletes : ∀ turn ∈ turns, turn.2.Completes)
    (hagree : Agree kvers (Listed device location dir turns)) {before after : Pins}
    (hbefore : ∀ installed, Listed device location dir turns installed →
      installed.Honours kvers before) {retVal : Int}
    (hload : loadAllElfObjects device location dir (some turns) before = (.ok retVal, after)) :
    ∃ results, DirectoryLoaded device location dir kvers turns before after results ∧
      retVal = (results.filterMap Loaded.failure).getLast?.getD 0 := by
  obtain ⟨results, hresults, hentries, hretVal⟩ := loadEntries_eq_ok hload
  have hgrown : Grown kvers (Listed device location dir turns) before before :=
    ⟨fun _ _ => id, fun _ _ => .inl, hbefore⟩
  refine ⟨results, ⟨hresults, hentries, ?_, ?_⟩, hretVal⟩
  · refine (loadResults_allowed hkvers hcompletes ?_).of_ok hgrown hresults
    exact fun installed hlisted => hagree.allows_grown hlisted before
  · exact loadResults_pinned hkvers hcompletes hagree (fun _ => id) hgrown hresults

end Directory

/-! The whole process. -/

/-- The directory is there after `mkdir`. -/
def BootEnv.HasDirectory (env : BootEnv) : Prop :=
  ∀ errno, env.mkdir (bpfFsPath ++ uprobestatsLocation.location.locPrefix) = some errno →
    errno.1 = eexist

theorem createBpfFsSubDirectories_eq (env : BootEnv) (process : Process) :
    (env.HasDirectory ∧
        createBpfFsSubDirectories env locations process = (.ok false, process)) ∨
      (¬ env.HasDirectory ∧ createBpfFsSubDirectories env locations process =
        (.ok true, { process with umask := 0 })) := by
  have hprefix : uprobestatsLocation.location.locPrefix ≠ [] := by decide
  rw [locations, createBpfFsSubDirectories, BootEnv.HasDirectory]
  cases hmkdir : env.mkdir (bpfFsPath ++ uprobestatsLocation.location.locPrefix) with
  | none =>
      left
      refine ⟨by simp, ?_⟩
      have hdir : createSysFsBpfSubDir env.mkdir uprobestatsLocation.location.locPrefix process =
          (.ok 0, process) := by
        simp [createSysFsBpfSubDir, hprefix, hmkdir]
      exact bind_of_ok hdir _
  | some errno =>
      by_cases hexists : errno.1 = eexist
      · left
        refine ⟨by simpa using hexists, ?_⟩
        have hdir : createSysFsBpfSubDir env.mkdir uprobestatsLocation.location.locPrefix process =
            (.ok 0, process) := by
          simp [createSysFsBpfSubDir, hprefix, hmkdir, hexists]
        exact bind_of_ok hdir _
      · right
        refine ⟨by simpa using hexists, ?_⟩
        have hdir : createSysFsBpfSubDir env.mkdir uprobestatsLocation.location.locPrefix process =
            (.ok (-errno), { process with umask := 0 }) := by
          simp [createSysFsBpfSubDir, hprefix, hmkdir, hexists]
        have hfails : -(errno : Int) ≠ 0 := by
          have hpos := errno.2
          omega
        refine (bind_of_ok hdir _).trans ?_
        rw [if_pos hfails]
        rfl

def countTurns : List DirTurn := [
  (⟨asBytes "README", some []⟩, mapKernel neverFails),
  (⟨asBytes "count.o", some countFile⟩, mapKernel neverFails)]

def countBoot : BootEnv where
  device := stableDevice 1024
  mkdir _ := none
  opendir _ := some countTurns
  execve := none

theorem listed_countTurns {installed : Installed}
    (hlisted : Listed countBoot.device uprobestatsLocation.location uprobestatsLocation.dir
      countTurns installed) :
    installed = ⟨countBoot.device, uprobestatsLocation.location,
      uprobestatsLocation.dir ++ asBytes "count.o", countFile⟩ := by
  obtain ⟨turn, hturn, hobject, file, hfile, rfl⟩ := hlisted
  simp only [countTurns, List.mem_cons, List.not_mem_nil, or_false] at hturn
  rcases hturn with rfl | rfl
  · exact absurd hobject (by decide)
  · cases hfile
    rfl

theorem declares_countTurns {installed : Installed}
    (hlisted : Listed countBoot.device uprobestatsLocation.location uprobestatsLocation.dir
      countTurns installed) {path : Name} {perm : Perm}
    (hdeclares : installed.Declares kver54 path perm) : perm = ⟨0o660, 1000, 1000⟩ := by
  rw [listed_countTurns hlisted] at hdeclares
  rcases hdeclares with ⟨hread, hmapDef, hmapName, -⟩ | ⟨i, progDef, ⟨hread, hcs, -, -⟩, -⟩
  · cases readMaps_countObject.symm.trans hread
    obtain rfl := List.mem_singleton.1 (List.mem_of_getElem? hmapDef)
    rfl
  · have hnone : readCodeSections countBoot.device countFile
        uprobestatsLocation.location.allowedProgTypes false = (.ok [], false) := by decide +kernel
    cases hnone.symm.trans hread
    cases hcs

end UprobeStats.Loader
