/-
How the loader creates maps, patches programs and pins both.  The pinned
objects outlive a run; what the kernel answers is given with the run.
-/
import UprobeStats.ElfLoader

namespace UprobeStats.Loader

open Bytes Checked Checked.Prog Memory

/-- The permissions of a pinned object. -/
structure Perm where
  mode : Nat
  uid : Nat
  gid : Nat
deriving DecidableEq, Repr

/-- The objects under `/sys/fs/bpf/`, by path. -/
abbrev Pins := Name → Option Perm

/-- What a run of the loader works on: the stream, and the pinned objects. -/
structure World where
  failed : Bool
  pins : Pins

/-- A program that loads an object. -/
abbrev Loading := Prog World Exit Fault

/-- `errno` after a call that has failed. -/
abbrev Errno := { n : Int // 0 < n }

def enotuniq : Int := 76

/-- `union bpf_attr` for `BPF_MAP_CREATE`. -/
structure MapRequest where
  mapType : Nat
  keySize : Nat
  valueSize : Nat
  maxEntries : Nat
  mapFlags : Nat
  mapName : Name
deriving DecidableEq, Repr

/-- `union bpf_attr` for `BPF_PROG_LOAD`. -/
structure ProgRequest where
  progType : BpfProgType
  kernVersion : Nat
  license : Name
  insns : List UInt8
  progName : Name
deriving DecidableEq, Repr

/-- What `bpfGetFdMapType` and the other queries say of a descriptor. -/
structure MapInfo where
  type : Int
  keySize : Int
  valueSize : Int
  maxEntries : Int
  mapFlags : Int
deriving DecidableEq, Repr

/-- How the calls go that pin an object, for the `i`th object. -/
structure PinAnswers where
  pin : Nat → Option Errno
  chmod : Nat → Option Errno
  chown : Nat → Option Errno

/-- The kernel during a run.  A call is answered for the turn of the loop that
makes it; `fresh` are the permissions of an object that has just been pinned. -/
structure Kernel where
  kvers : Nat
  pageSize : Nat
  fresh : Perm
  mapRetrieveRO : Nat → Name → Except Errno Nat
  mapCreate : Nat → MapRequest → Except Errno Nat
  mapInfo : Nat → Nat → MapInfo
  mapPin : PinAnswers
  retrieveProgram : Nat → Name → Option Nat
  progLoad : Nat → ProgRequest → Option Nat
  progPin : PinAnswers

/-- A program that only reads the file. -/
def reading {α : Type} (reader : Reader α) : Loading α :=
  reader.onPart World.failed fun world failed => { world with failed := failed }

/-- `access` with `F_OK`. -/
def accessOk (path : Name) : Loading Bool := fun world => (.ok (world.pins path).isSome, world)

/-- A change to the pinned objects. -/
def modifyPins (change : Pins → Pins) : Loading Unit := fun world =>
  (.ok (), { world with pins := change world.pins })

/-- `return -errno` if the call has failed. -/
def call : Option Errno → Loading Unit
  | none => return ()
  | some errno => fail (.ret (-errno))

/-- The descriptor that a call has returned, or `return -errno`. -/
def descriptor : Except Errno Nat → Loading Nat
  | .ok fd => return fd
  | .error errno => fail (.ret (-errno))

/-- `bpfFdPin`, `chmod` and `chown`, one after the other. -/
def pinObject (answers : PinAnswers) (fresh : Perm) (i : Nat) (path : Name) (perm : Perm) :
    Loading Unit := do
  call (answers.pin i)
  modifyPins fun pins => Function.update pins path (some fresh)
  call (answers.chmod i)
  modifyPins fun pins =>
    Function.update pins path ((pins path).map fun old => { old with mode := perm.mode })
  call (answers.chown i)
  modifyPins fun pins => Function.update pins path
    ((pins path).map fun old => { old with uid := perm.uid, gid := perm.gid })

/-! Names. -/

/-- `find_last_of` and `substr`: up to the last such character, if there is
one. -/
def beforeLast (c : UInt8) (name : Name) : Name :=
  if c ∈ name then ((name.reverse.dropWhile (· ≠ c)).drop 1).reverse else name

/-- From the last such character on, without it. -/
def afterLast (c : UInt8) (name : Name) : Name := (name.reverse.takeWhile (· ≠ c)).reverse

def pathToObjName (path : Name) : Name :=
  beforeLast 64 (beforeLast 46 (afterLast 47 path))

def bpfFsPath : Name := asBytes "/sys/fs/bpf/"

def mapPinLoc (elfPath locPrefix : Name) (md : BpfMapDef) (mapName : Name) : Name :=
  bpfFsPath ++ locPrefix ++ asBytes "map_" ++ (if md.shared then [] else pathToObjName elfPath) ++
    asBytes "_" ++ mapName

def progPinLoc (elfPath locPrefix csName : Name) : Name :=
  bpfFsPath ++ locPrefix ++ asBytes "prog_" ++ pathToObjName elfPath ++ asBytes "_" ++
    beforeLast 36 csName

/-! Maps. -/

def bpfMapTypeHash : Nat := 1
def bpfMapTypeDevmap : Nat := 14
def bpfMapTypeDevmapHash : Nat := 25
def bpfMapTypeRingbuf : Nat := 27

/-- `BPF_F_RDONLY_PROG`. -/
def bpfFRdonlyProg : Nat := 128

/-- `KVER(5, 4, 0)`. -/
def kver54 : Nat := 5 * 2 ^ 24 + 4 * 2 ^ 16

/-- Versions that are excluded by a definition. -/
def Excluded (kvers minKver maxKver : Nat) : Prop := kvers < minKver ∨ maxKver ≤ kvers

instance (kvers minKver maxKver : Nat) : Decidable (Excluded kvers minKver maxKver) :=
  inferInstanceAs (Decidable (_ ∨ _))

section Maps

variable (kernel : Kernel)

/-- The type that a map is created with. -/
def mapTypeFor (md : BpfMapDef) : Nat :=
  if md.type = bpfMapTypeDevmapHash ∧ kernel.kvers < kver54 then bpfMapTypeHash else md.type

/-- The entries that a map is created with. -/
def maxEntriesFor (md : BpfMapDef) (type : Nat) : Nat :=
  if type = bpfMapTypeRingbuf then max md.maxEntries kernel.pageSize else md.maxEntries

def mapRequest (md : BpfMapDef) (mapName : Name) : MapRequest where
  mapType := mapTypeFor kernel md
  keySize := md.keySize
  valueSize := md.valueSize
  maxEntries := maxEntriesFor kernel md (mapTypeFor kernel md)
  mapFlags := md.mapFlags
  mapName := mapName.take 15

/-- What a map of that definition should say of itself. -/
def expectedInfo (md : BpfMapDef) (type : Nat) : MapInfo where
  type := asInt type
  keySize := asInt md.keySize
  valueSize := asInt md.valueSize
  maxEntries := asInt (maxEntriesFor kernel md type)
  mapFlags :=
    if type = bpfMapTypeDevmap ∨ type = bpfMapTypeDevmapHash then
      asInt (md.mapFlags ||| bpfFRdonlyProg)
    else asInt md.mapFlags

/-- `mapMatchesExpectations`, or `return -ENOTUNIQ`. -/
def mapMatchesExpectations (i fd : Nat) (md : BpfMapDef) : Loading Unit :=
  if kernel.mapInfo i fd = expectedInfo kernel md (mapTypeFor kernel md) then return ()
  else fail (.ret (-enotuniq))

/-- The permissions that a map declares. -/
def BpfMapDef.perm (md : BpfMapDef) : Perm := ⟨md.mode, md.uid, md.gid⟩

/-- A map that is pinned already. -/
def reuseMap (i : Nat) (md : BpfMapDef) (path : Name) : Loading Int := do
  let fd ← descriptor (kernel.mapRetrieveRO i path)
  mapMatchesExpectations kernel i fd md
  return fd

/-- A map that is not pinned yet. -/
def newMap (i : Nat) (md : BpfMapDef) (mapName path : Name) : Loading Int := do
  let fd ← descriptor (kernel.mapCreate i (mapRequest kernel md mapName))
  mapMatchesExpectations kernel i fd md
  pinObject kernel.mapPin kernel.fresh i path md.perm
  return fd

/-- The body of the loop of `createMaps`.  A map that is left out gets an
invalid descriptor. -/
def createMap (elfPath locPrefix : Name) (i : Nat) (md : BpfMapDef) (mapName : Name) :
    Loading Int := do
  if md.zero ≠ 0 then fail .abort
  else if Excluded kernel.kvers md.minKver md.maxKver then return -1
  else if ← accessOk (mapPinLoc elfPath locPrefix md mapName) then
    reuseMap kernel i md (mapPinLoc elfPath locPrefix md mapName)
  else newMap kernel i md mapName (mapPinLoc elfPath locPrefix md mapName)

/-- The loop of `createMaps`, over the names. -/
def createMapsFrom (elfPath locPrefix : Name) (md : List BpfMapDef) :
    Nat → List Name → List Int → Loading (List Int)
  | _, [], mapFds => return mapFds
  | i, mapName :: rest, mapFds => do
      let mapDef ← index md i .mapDefs
      let fd ← createMap kernel elfPath locPrefix i mapDef mapName
      createMapsFrom elfPath locPrefix md (i + 1) rest (mapFds ++ [fd])

/-- The definitions in the bytes of their section. -/
def mapDefsIn (mdData : List UInt8) : List BpfMapDef :=
  (structs sizeofBpfMapDef (mdData.length / sizeofBpfMapDef) mdData).map .ofBytes

/-- The definitions of maps with the names of their symbols. -/
def withMapNames (device : Device) (file : List UInt8) (md : List BpfMapDef) :
    Reader (Option (List BpfMapDef × List Name)) := do
  match ← getSectionSymNames device file (asBytes "maps") none with
  | (some exit, _) => fail exit
  | (none, mapNames) => return some (md, mapNames)

/-- The definitions and the names that `createMaps` works on, if there is a
section for them. -/
def readMaps (device : Device) (file : List UInt8) :
    Reader (Option (List BpfMapDef × List Name)) := do
  match ← attempt (readSectionByName device file (asBytes "maps")) with
  | .error exit => if exit = .ret (-2) then return none else fail exit
  | .ok mdData =>
      if mdData.length % sizeofBpfMapDef ≠ 0 then fail (.ret (-1))
      else withMapNames device file (mapDefsIn mdData)

def createMaps (device : Device) (file : List UInt8) (elfPath locPrefix : Name) :
    Loading (List Int) := do
  match ← reading (readMaps device file) with
  | none => return []
  | some (md, mapNames) => createMapsFrom kernel elfPath locPrefix md 0 mapNames []

end Maps

/-! Relocations. -/

/-- `BPF_LD | BPF_IMM | BPF_DW`. -/
def bpfLdImmDw : UInt8 := 0x18

/-- `BPF_PSEUDO_MAP_FD` in the bits of `src_reg`, next to those of `dst_reg`. -/
def withPseudoMapFd (regs : UInt8) : UInt8 := regs % 16 + 16

/-- The bytes of an `int`. -/
def intBytes (n : Int) : List UInt8 := toLittleEndian 4 (n % 2 ^ 32).toNat

/-- The assignments to an instruction. -/
def patched (data : List UInt8) (insnIndex : Nat) (fd : Int) : List UInt8 :=
  (data.take (8 * insnIndex + 4) ++ intBytes fd ++ data.drop (8 * insnIndex + 8)).modify
    (8 * insnIndex + 1) withPseudoMapFd

def applyRelo (data : List UInt8) (offset : Nat) (fd : Int) : Reader (List UInt8) := do
  let insnIndex := asInt (offset / 8)
  check (0 ≤ insnIndex) .code
  let code ← index data (8 * insnIndex.toNat) .code
  if code ≠ bpfLdImmDw then return data
  else do
    check (8 * insnIndex.toNat + 8 ≤ data.length) .code
    return patched data insnIndex.toNat fd

section Relocations

variable (device : Device) (file : List UInt8) (mapNames : List Name) (mapFds : List Int)

/-- The relocations of a section, which are counted in an `int`. -/
def relocations (relData : List UInt8) : List Elf64Rel :=
  (structs 16 (asInt (relData.length / 16)).toNat relData).map .ofBytes

/-- The first map of that name. -/
def mapIdx (symName : Name) : Option Nat :=
  mapNames.findIdx? fun mapName => mapName = symName

/-- The innermost loop of `applyMapRelo`, which finds the map. -/
def applyNamedRelo (symName : Name) (offset : Nat) (data : List UInt8) : Reader (List UInt8) :=
  match mapIdx mapNames symName with
  | none => return data
  | some j => do
      let fd ← index mapFds j .mapFds
      applyRelo data offset fd

/-- The loop of `applyMapRelo` over the relocations of a section: whether it
went to the end, and the code by then. -/
def relocate : List Elf64Rel → List UInt8 → Reader (Bool × List UInt8)
  | [], data => return (true, data)
  | rel :: rest, data => do
      match ← attempt (getSymNameByIdx device file (asInt rel.rSym)) with
      | .error _ => return (false, data)
      | .ok symName => do
          let data ← applyNamedRelo mapNames mapFds symName rel.rOffset data
          relocate rest data

/-- The loop of `applyMapRelo` over the sections, which ends where a symbol
has no name. -/
def relocateAll : List CodeSection → Reader (List CodeSection)
  | [] => return []
  | cs :: rest => do
      let (finished, data) ←
        relocate device file mapNames mapFds (relocations cs.relData) cs.data
      if finished then do
        let rest ← relocateAll rest
        return { cs with data := data } :: rest
      else return { cs with data := data } :: rest

def applyMapRelo (cs : List CodeSection) : Reader (List CodeSection) := do
  match ← getSectionSymNames device file (asBytes "maps") none with
  | (some _, _) => return cs
  | (none, mapNames) => relocateAll device file mapNames mapFds cs

end Relocations

/-! Programs. -/

section Programs

variable (kernel : Kernel) (elfPath locPrefix license : Name)

def progRequest (cs : CodeSection) : ProgRequest where
  progType := cs.type
  kernVersion := kernel.kvers
  license := license
  insns := cs.data
  progName := cs.name.take 15

/-- The permissions that a program declares. -/
def BpfProgDef.perm (pd : BpfProgDef) : Perm := ⟨0o440, pd.uid, pd.gid⟩

/-- A program that is pinned already. -/
def reuseProgram (i : Nat) (path : Name) : Loading (Option Nat) :=
  match kernel.retrieveProgram i path with
  | none => fail (.ret (-1))
  | some fd => return some fd

/-- A program that is not pinned yet. -/
def newProgram (i : Nat) (cs : CodeSection) (progDef : BpfProgDef) (path : Name) :
    Loading (Option Nat) :=
  match kernel.progLoad i (progRequest kernel license cs) with
  | none => if progDef.optional then return none else fail (.ret (-1))
  | some fd => do
      pinObject kernel.progPin kernel.fresh i path progDef.perm
      return some fd

/-- The body of the loop of `loadCodeSections`: the `prog_fd`, if it is valid. -/
def loadCodeSection (i : Nat) (cs : CodeSection) : Loading (Option Nat) :=
  match cs.progDef with
  | none => fail (.ret (-einval))
  | some progDef => do
      if Excluded kernel.kvers progDef.minKver progDef.maxKver then return none
      else if ← accessOk (progPinLoc elfPath locPrefix cs.name) then
        reuseProgram kernel i (progPinLoc elfPath locPrefix cs.name)
      else newProgram kernel license i cs progDef (progPinLoc elfPath locPrefix cs.name)

/-- The loop of `loadCodeSections`. -/
def loadCodeSectionsFrom :
    Nat → List CodeSection → List (Option Nat) → Loading (List (Option Nat))
  | _, [], progFds => return progFds
  | i, cs :: rest, progFds => do
      let fd ← loadCodeSection kernel elfPath locPrefix license i cs
      loadCodeSectionsFrom (i + 1) rest (progFds ++ [fd])

def loadCodeSections (cs : List CodeSection) : Loading (List (Option Nat)) :=
  if kernel.kvers = 0 then fail (.ret (-einval))
  else loadCodeSectionsFrom kernel elfPath locPrefix license 0 cs []

end Programs

/-- `Location`, as far as an object is loaded with it. -/
structure Location where
  locPrefix : Name
  allowedProgTypes : Option (List BpfProgType)

section Objects

variable (device : Device) (kernel : Kernel) (location : Location) (elfPath : Name)
  (file : List UInt8)

/-- `loadProg` after the section `critical`. -/
def loadObject : Loading (List (Option Nat)) := do
  let license ← reading (readSectionByName device file (asBytes "license"))
  let cs ← reading (readCodeSections device file location.allowedProgTypes)
  let mapFds ← createMaps kernel device file elfPath location.locPrefix
  let cs ← reading (applyMapRelo device file mapFds cs)
  loadCodeSections kernel elfPath location.locPrefix (text license) cs

/-- `loadProg`: `isCritical`, and how the loading ended. -/
def loadProg : Loading (Bool × Except Exit (List (Option Nat))) := do
  let critical ← attempt (reading (readSectionByName device file (asBytes "critical")))
  let ended ← attempt (loadObject device kernel location elfPath file)
  return (critical.isOk, ended)

end Objects

/-! What a turn of the loops can do. -/

/-- The world with another pinned object. -/
def World.pinned (world : World) (path : Name) (perm : Perm) : World :=
  { world with pins := Function.update world.pins path (some perm) }

@[simp] theorem World.pinned_self (world : World) (path : Name) (perm : Perm) :
    (world.pinned path perm).pins path = some perm := Function.update_self path _ world.pins

theorem World.pinned_of_ne (world : World) {path other : Name} (hne : path ≠ other)
    (perm : Perm) : (world.pinned other perm).pins path = world.pins path :=
  Function.update_of_ne hne _ world.pins

/-- Pinning an object fails before anything is pinned, or leaves it with some
permissions, or gives it those that it should have. -/
theorem pinObject_cases (answers : PinAnswers) (fresh : Perm) (i : Nat) (path : Name) (perm : Perm)
    (world : World) :
    (∃ exit, pinObject answers fresh i path perm world = (.error exit, world)) ∨
    (∃ exit left, (answers.chmod i ≠ none ∨ answers.chown i ≠ none) ∧
      pinObject answers fresh i path perm world = (.error exit, world.pinned path left)) ∨
    pinObject answers fresh i path perm world = (.ok (), world.pinned path perm) := by
  unfold pinObject
  cases hpin : answers.pin i with
  | some errno => exact .inl ⟨.ret (-errno), rfl⟩
  | none =>
      right
      cases hchmod : answers.chmod i with
      | some errno => exact .inl ⟨.ret (-errno), fresh, .inl (by simp), rfl⟩
      | none =>
          cases hchown : answers.chown i with
          | some errno =>
              refine .inl ⟨.ret (-errno), { fresh with mode := perm.mode }, .inr (by simp), ?_⟩
              simp [call, modifyPins, World.pinned, Bind.bind, Prog.bind]
          | none =>
              right
              simp [call, modifyPins, World.pinned, Bind.bind, Prog.bind]

section Turns

variable (kernel : Kernel) (elfPath locPrefix : Name) (i : Nat) (world : World)

variable (md : BpfMapDef) (mapName path : Name)

theorem mapMatchesExpectations_cases (fd : Nat) :
    mapMatchesExpectations kernel i fd md world = (.ok (), world) ∨
      mapMatchesExpectations kernel i fd md world = (.error (.ret (-enotuniq)), world) := by
  unfold mapMatchesExpectations
  split
  · exact .inl rfl
  · exact .inr rfl

theorem reuseMap_cases :
    (∃ exit, reuseMap kernel i md path world = (.error exit, world)) ∨
    ∃ fd : Nat, kernel.mapRetrieveRO i path = .ok fd ∧
      reuseMap kernel i md path world = (.ok fd, world) := by
  unfold reuseMap
  cases hfd : kernel.mapRetrieveRO i path with
  | error errno => exact .inl ⟨.ret (-errno), rfl⟩
  | ok fd =>
      have hdescriptor : descriptor (.ok fd) world = (.ok fd, world) := rfl
      rcases mapMatchesExpectations_cases kernel i world md fd with hmatches | hmatches
      · exact .inr ⟨fd, rfl, (bind_of_ok hdescriptor _).trans (bind_of_ok hmatches _)⟩
      · exact .inl ⟨_, (bind_of_ok hdescriptor _).trans (bind_of_error hmatches _)⟩

theorem newMap_cases :
    (∃ exit, newMap kernel i md mapName path world = (.error exit, world)) ∨
    (∃ exit left, (kernel.mapPin.chmod i ≠ none ∨ kernel.mapPin.chown i ≠ none) ∧
      newMap kernel i md mapName path world = (.error exit, world.pinned path left)) ∨
    ∃ fd : Nat, kernel.mapCreate i (mapRequest kernel md mapName) = .ok fd ∧
      newMap kernel i md mapName path world = (.ok fd, world.pinned path md.perm) := by
  unfold newMap
  cases hfd : kernel.mapCreate i (mapRequest kernel md mapName) with
  | error errno => exact .inl ⟨.ret (-errno), rfl⟩
  | ok fd =>
      have hdescriptor : descriptor (.ok fd) world = (.ok fd, world) := rfl
      rcases mapMatchesExpectations_cases kernel i world md fd with hmatches | hmatches
      · rcases pinObject_cases kernel.mapPin kernel.fresh i path md.perm world with
          ⟨exit, hpin⟩ | ⟨exit, left, hfails, hpin⟩ | hpin
        · exact .inl ⟨exit, (bind_of_ok hdescriptor _).trans
            ((bind_of_ok hmatches _).trans (bind_of_error hpin _))⟩
        · exact .inr (.inl ⟨exit, left, hfails, (bind_of_ok hdescriptor _).trans
            ((bind_of_ok hmatches _).trans (bind_of_error hpin _))⟩)
        · exact .inr (.inr ⟨fd, rfl, (bind_of_ok hdescriptor _).trans
            ((bind_of_ok hmatches _).trans (bind_of_ok hpin _))⟩)
      · exact .inl ⟨_, (bind_of_ok hdescriptor _).trans (bind_of_error hmatches _)⟩

/-- A turn for a map fails with what it finds, or after it has pinned the map
with some permissions; or it leaves the map out, takes the one that is pinned,
or pins a new one. -/
theorem createMap_cases :
    (∃ exit, createMap kernel elfPath locPrefix i md mapName world = (.error exit, world)) ∨
    (world.pins (mapPinLoc elfPath locPrefix md mapName) = none ∧
      ∃ exit left, (kernel.mapPin.chmod i ≠ none ∨ kernel.mapPin.chown i ≠ none) ∧
        createMap kernel elfPath locPrefix i md mapName world =
          (.error exit, world.pinned (mapPinLoc elfPath locPrefix md mapName) left)) ∨
    (Excluded kernel.kvers md.minKver md.maxKver ∧
      createMap kernel elfPath locPrefix i md mapName world = (.ok (-1), world)) ∨
    (¬ Excluded kernel.kvers md.minKver md.maxKver ∧
      world.pins (mapPinLoc elfPath locPrefix md mapName) ≠ none ∧
      ∃ fd : Nat, kernel.mapRetrieveRO i (mapPinLoc elfPath locPrefix md mapName) = .ok fd ∧
        createMap kernel elfPath locPrefix i md mapName world = (.ok fd, world)) ∨
    (¬ Excluded kernel.kvers md.minKver md.maxKver ∧
      world.pins (mapPinLoc elfPath locPrefix md mapName) = none ∧
      ∃ fd : Nat, kernel.mapCreate i (mapRequest kernel md mapName) = .ok fd ∧
        createMap kernel elfPath locPrefix i md mapName world =
          (.ok fd, world.pinned (mapPinLoc elfPath locPrefix md mapName) md.perm)) := by
  unfold createMap
  by_cases hzero : md.zero ≠ 0
  · exact .inl ⟨.abort, by rw [if_pos hzero]; rfl⟩
  · rw [if_neg hzero]
    by_cases hexcluded : Excluded kernel.kvers md.minKver md.maxKver
    · exact .inr (.inr (.inl ⟨hexcluded, by rw [if_pos hexcluded]; rfl⟩))
    · rw [if_neg hexcluded]
      cases hpins : world.pins (mapPinLoc elfPath locPrefix md mapName) with
      | some perm =>
          have haccess : accessOk (mapPinLoc elfPath locPrefix md mapName) world =
              (.ok true, world) := by rw [accessOk, hpins]; rfl
          rcases reuseMap_cases kernel i world md (mapPinLoc elfPath locPrefix md mapName) with
            ⟨exit, hreuse⟩ | ⟨fd, hfd, hreuse⟩
          · exact .inl ⟨exit, (bind_of_ok haccess _).trans hreuse⟩
          · exact .inr (.inr (.inr (.inl ⟨hexcluded, by simp, fd, hfd,
              (bind_of_ok haccess _).trans hreuse⟩)))
      | none =>
          have haccess : accessOk (mapPinLoc elfPath locPrefix md mapName) world =
              (.ok false, world) := by rw [accessOk, hpins]; rfl
          rcases newMap_cases kernel i world md mapName (mapPinLoc elfPath locPrefix md mapName) with
            ⟨exit, hnew⟩ | ⟨exit, left, hfails, hnew⟩ | ⟨fd, hfd, hnew⟩
          · exact .inl ⟨exit, (bind_of_ok haccess _).trans hnew⟩
          · exact .inr (.inl ⟨rfl, exit, left, hfails, (bind_of_ok haccess _).trans hnew⟩)
          · exact .inr (.inr (.inr (.inr ⟨hexcluded, rfl, fd, hfd,
              (bind_of_ok haccess _).trans hnew⟩)))

variable (license : Name) (cs : CodeSection) (progDef : BpfProgDef)

theorem newProgram_cases :
    (∃ exit, newProgram kernel license i cs progDef path world = (.error exit, world)) ∨
    (∃ exit left, (kernel.progPin.chmod i ≠ none ∨ kernel.progPin.chown i ≠ none) ∧
      newProgram kernel license i cs progDef path world = (.error exit, world.pinned path left)) ∨
    (progDef.optional = true ∧ kernel.progLoad i (progRequest kernel license cs) = none ∧
      newProgram kernel license i cs progDef path world = (.ok none, world)) ∨
    ∃ fd, newProgram kernel license i cs progDef path world =
      (.ok (some fd), world.pinned path progDef.perm) := by
  unfold newProgram
  cases hfd : kernel.progLoad i (progRequest kernel license cs) with
  | none =>
      cases hoptional : progDef.optional with
      | true => exact .inr (.inr (.inl ⟨rfl, rfl, rfl⟩))
      | false => exact .inl ⟨.ret (-1), rfl⟩
  | some fd =>
      rcases pinObject_cases kernel.progPin kernel.fresh i path progDef.perm world with
        ⟨exit, hpin⟩ | ⟨exit, left, hfails, hpin⟩ | hpin
      · exact .inl ⟨exit, bind_of_error hpin _⟩
      · exact .inr (.inl ⟨exit, left, hfails, bind_of_error hpin _⟩)
      · exact .inr (.inr (.inr ⟨fd, bind_of_ok hpin _⟩))

/-- A turn for a program fails with what it finds, or after it has pinned the
program with some permissions; or it leaves the program out, does without one
that is optional, takes the one that is pinned, or pins a new one. -/
theorem loadCodeSection_cases (hprogDef : cs.progDef = some progDef) :
    (∃ exit, loadCodeSection kernel elfPath locPrefix license i cs world =
      (.error exit, world)) ∨
    (world.pins (progPinLoc elfPath locPrefix cs.name) = none ∧
      ∃ exit left, (kernel.progPin.chmod i ≠ none ∨ kernel.progPin.chown i ≠ none) ∧
        loadCodeSection kernel elfPath locPrefix license i cs world =
          (.error exit, world.pinned (progPinLoc elfPath locPrefix cs.name) left)) ∨
    (Excluded kernel.kvers progDef.minKver progDef.maxKver ∧
      loadCodeSection kernel elfPath locPrefix license i cs world = (.ok none, world)) ∨
    (¬ Excluded kernel.kvers progDef.minKver progDef.maxKver ∧ progDef.optional = true ∧
      kernel.progLoad i (progRequest kernel license cs) = none ∧
      loadCodeSection kernel elfPath locPrefix license i cs world = (.ok none, world)) ∨
    (¬ Excluded kernel.kvers progDef.minKver progDef.maxKver ∧
      world.pins (progPinLoc elfPath locPrefix cs.name) ≠ none ∧
      ∃ fd, loadCodeSection kernel elfPath locPrefix license i cs world =
        (.ok (some fd), world)) ∨
    (¬ Excluded kernel.kvers progDef.minKver progDef.maxKver ∧
      world.pins (progPinLoc elfPath locPrefix cs.name) = none ∧
      ∃ fd, loadCodeSection kernel elfPath locPrefix license i cs world =
        (.ok (some fd), world.pinned (progPinLoc elfPath locPrefix cs.name) progDef.perm)) := by
  unfold loadCodeSection
  rw [hprogDef]
  by_cases hexcluded : Excluded kernel.kvers progDef.minKver progDef.maxKver
  · exact .inr (.inr (.inl ⟨hexcluded, by simp only [if_pos hexcluded]; rfl⟩))
  · simp only [if_neg hexcluded]
    cases hpins : world.pins (progPinLoc elfPath locPrefix cs.name) with
    | some perm =>
        have haccess : accessOk (progPinLoc elfPath locPrefix cs.name) world =
            (.ok true, world) := by rw [accessOk, hpins]; rfl
        cases hfd : kernel.retrieveProgram i (progPinLoc elfPath locPrefix cs.name) with
        | none =>
            refine .inl ⟨.ret (-1), (bind_of_ok haccess _).trans ?_⟩
            simp [reuseProgram, hfd]
        | some fd =>
            refine .inr (.inr (.inr (.inr (.inl ⟨hexcluded, by simp, fd,
              (bind_of_ok haccess _).trans ?_⟩))))
            simp [reuseProgram, hfd]
    | none =>
        have haccess : accessOk (progPinLoc elfPath locPrefix cs.name) world =
            (.ok false, world) := by rw [accessOk, hpins]; rfl
        rcases newProgram_cases kernel i world (progPinLoc elfPath locPrefix cs.name) license cs
          progDef with ⟨exit, hnew⟩ | ⟨exit, left, hfails, hnew⟩ | ⟨hoptional, hload, hnew⟩ |
          ⟨fd, hnew⟩
        · exact .inl ⟨exit, (bind_of_ok haccess _).trans hnew⟩
        · exact .inr (.inl ⟨rfl, exit, left, hfails, (bind_of_ok haccess _).trans hnew⟩)
        · exact .inr (.inr (.inr (.inl ⟨hexcluded, hoptional, hload,
            (bind_of_ok haccess _).trans hnew⟩)))
        · exact .inr (.inr (.inr (.inr (.inr ⟨hexcluded, rfl, fd,
            (bind_of_ok haccess _).trans hnew⟩))))

end Turns

/-! A kernel to run objects on. -/

/-- A kernel that creates hash maps with keys of 4 bytes, values of 8 bytes and
16 entries, with the descriptor 7. -/
def mapKernel (answers : PinAnswers) : Kernel where
  kvers := kver54
  pageSize := 4096
  fresh := ⟨0o600, 0, 0⟩
  mapRetrieveRO := fun _ _ => .ok 7
  mapCreate := fun _ _ => .ok 7
  mapInfo := fun _ _ => ⟨1, 4, 8, 16, 0⟩
  mapPin := answers
  retrieveProgram := fun _ _ => none
  progLoad := fun _ _ => none
  progPin := answers

def neverFails : PinAnswers := ⟨fun _ => none, fun _ => none, fun _ => none⟩

end UprobeStats.Loader
