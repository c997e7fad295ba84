/-
How the loader reads an object file.  Every function reads the tables again,
through a stream that stays failed once an operation on it has failed.  Where
the source leaves the bounds of a vector, the model ends in a fault.
-/
import UprobeStats.Elf
import UprobeStats.Lib.Checked

namespace UprobeStats.Loader

open Bytes Checked Checked.Prog

/-- What a function does instead of its work: it returns a code, or it aborts
the process on purpose. -/
inductive Exit where
  | ret (code : Int)
  | abort
deriving DecidableEq, Repr

/-- The memory that is left.  An `allocation` is a vector that is resized
beyond what there is memory for. -/
inductive Fault where
  | sectionHeaders
  | stringTable
  | symbolTable
  | progDefs
  | mapDefs
  | mapFds
  | code
  | allocation
deriving DecidableEq, Repr

/-- What the loader finds around it: the largest vector there is memory for,
the order that `std::sort` leaves equal symbols in, and the type of fuse
programs. -/
structure Device where
  maxSize : Nat
  sort : List Elf64Sym → List Elf64Sym
  sort_perm : ∀ symtab, (sort symtab).Perm symtab
  sort_sorted : ∀ symtab, (sort symtab).Pairwise fun a b => a.stValue ≤ b.stValue
  fuseProgType : BpfProgType

/-- `symCompare`, the other way round. -/
def symLe (a b : Elf64Sym) : Prop := a.stValue ≤ b.stValue

instance : DecidableRel symLe := fun a b => inferInstanceAs (Decidable (a.stValue ≤ b.stValue))

instance : Std.Total symLe := ⟨fun a b => Nat.le_total a.stValue b.stValue⟩

instance : IsTrans Elf64Sym symLe := ⟨fun _ _ _ => Nat.le_trans⟩

/-- A device with a stable sort and without fuse programs. -/
def stableDevice (maxSize : Nat) : Device where
  maxSize := maxSize
  sort := List.insertionSort symLe
  sort_perm := List.perm_insertionSort symLe
  sort_sorted := List.pairwise_insertionSort symLe
  fuseProgType := bpfProgTypeUnspec

/-- A program that reads the file.  The state says whether the stream has
failed. -/
abbrev Reader := Prog Bool Exit Fault

def einval : Int := 22
def enomem : Int := 12

section Reading

variable (device : Device) (file : List UInt8)

/-- `seekg` and the test of `fail`.  Positions are signed. -/
def seekg (offset : Nat) : Reader Unit := fun failed =>
  if failed = true ∨ 2 ^ 63 ≤ offset then (.error (.ret (-1)), true) else (.ok (), false)

/-- `resize` of a vector of bytes. -/
def resize (size : Nat) : Reader Unit := check (size ≤ device.maxSize) .allocation

/-- `read` from a position that `seekg` has reached, with the code for too few
bytes. -/
def read (offset : Nat) (size : Int) (code : Int) : Reader (List UInt8) := fun failed =>
  if 0 ≤ size ∧ size ≤ (file.length - offset : Nat) then
    (.ok ((file.drop offset).take size.toNat), failed)
  else (.error (.ret code), true)

def readElfHeader : Reader Elf64Ehdr := do
  seekg 0
  let bytes ← read file 0 64 (-1)
  return .ofBytes bytes

/-- The bytes that the section headers are read from, as an `int`. -/
def Elf64Ehdr.tableSize (eh : Elf64Ehdr) : Int := asInt (eh.eShnum * eh.eShentsize)

def readSectionHeadersAll : Reader (List Elf64Shdr) := do
  let eh ← readElfHeader file
  seekg eh.eShoff
  -- what there is of the bytes goes to the vector, even if there are too few
  check (min eh.tableSize (file.length - eh.eShoff : Nat) ≤ 64 * eh.eShnum) .sectionHeaders
  let bytes ← read file eh.eShoff eh.tableSize (-enomem)
  return (structs 64 eh.eShnum (fill (64 * eh.eShnum) 0 bytes)).map .ofBytes

def readSectionByIdx (id : Nat) : Reader (List UInt8) := do
  let shTable ← readSectionHeadersAll file
  let shdr ← index shTable id .sectionHeaders
  seekg shdr.shOffset
  resize device shdr.shSize
  read file shdr.shOffset shdr.shSize (-1)

def readSectionHeaderStrtab : Reader (List UInt8) := do
  let eh ← readElfHeader file
  readSectionByIdx device file eh.eShstrndx

/-- The C string at an offset of a string table. -/
def cString (secStrTab : List UInt8) (offset : Nat) : Reader Name := do
  check (0 ∈ secStrTab.drop offset) .stringTable
  return text (secStrTab.drop offset)

/-- `getSymName`, whose offset is an `int`. -/
def getSymName (nameOff : Nat) : Reader Name := do
  let secStrTab ← readSectionHeaderStrtab device file
  if asInt secStrTab.length ≤ asInt nameOff then fail (.ret (-1))
  else do
    check (0 ≤ asInt nameOff) .stringTable
    cString secStrTab (asInt nameOff).toNat

/-- `!strcmp(secname, name)` on what is left of the string table, which may end
before the comparison does. -/
def strcmpEq : List UInt8 → Name → Option Bool
  | [], _ => none
  | byte :: _, [] => some (byte = 0)
  | byte :: bytes, c :: name => if byte = c then strcmpEq bytes name else some false

/-- The loop of `readSectionByName` up to a section of that name. -/
def findByName (secStrTab : List UInt8) (name : Name) :
    List Elf64Shdr → Reader (Option Elf64Shdr)
  | [] => return none
  | shdr :: rest =>
      -- the data of an empty vector is a null pointer
      if secStrTab = [] ∧ shdr.shName = 0 then findByName secStrTab name rest
      else
        match strcmpEq (secStrTab.drop shdr.shName) name with
        | none => crash .stringTable
        | some true => return some shdr
        | some false => findByName secStrTab name rest

/-- The bytes of a section, for whoever makes room for them first. -/
def readSection (shdr : Elf64Shdr) : Reader (List UInt8) := do
  resize device shdr.shSize
  seekg shdr.shOffset
  read file shdr.shOffset shdr.shSize (-1)

def readSectionByName (name : Name) : Reader (List UInt8) := do
  let shTable ← readSectionHeadersAll file
  let secStrTab ← readSectionHeaderStrtab device file
  match ← findByName secStrTab name shTable with
  | none => fail (.ret (-2))
  | some shdr => readSection device file shdr

def readSectionByType (type : Nat) : Reader (List UInt8) := do
  let shTable ← readSectionHeadersAll file
  match shTable.find? fun shdr => shdr.shType = type with
  | none => fail (.ret (-2))
  | some shdr => readSection device file shdr

/-- `readSymTab`, which counts the symbols in an `int`. -/
def readSymTab (sort : Bool) : Reader (List Elf64Sym) := do
  let secData ← readSectionByType device file shtSymtab
  let numElems := asInt (secData.length / 24)
  check (0 ≤ numElems) .symbolTable
  let symtab := (structs 24 numElems.toNat secData).map .ofBytes
  return if sort then device.sort symtab else symtab

def readProgDefs : Reader (List BpfProgDef) := do
  let pdData ← readSectionByName device file (asBytes "progs")
  if pdData.length % sizeofBpfProgDef ≠ 0 then fail (.ret (-1))
  else
    return (structs sizeofBpfProgDef (pdData.length / sizeofBpfProgDef) pdData).map .ofBytes

/-- The loop of `getSectionSymNames` over the section headers. -/
def findSecIdx (sectionName : Name) : Nat → List Elf64Shdr → Reader Nat
  | _, [] => fail (.ret (-1))
  | i, shdr :: rest => do
      let name ← getSymName device file shdr.shName
      if name = sectionName then return i
      else findSecIdx sectionName (i + 1) rest

/-- Its loop over the symbols.  The names that it has found stay when a later
one cannot be read. -/
def pushNames : List Elf64Sym → List Name → Reader (Option Exit × List Name)
  | [], names => return (none, names)
  | sym :: rest, names => do
      match ← attempt (getSymName device file sym.stName) with
      | .error exit => return (some exit, names)
      | .ok name => pushNames rest (names ++ [name])

/-- The symbols of a section that `getSectionSymNames` names. -/
def sectionSyms (symtab : List Elf64Sym) (secIdx : Nat) (symbolType : Option Nat) :
    List Elf64Sym :=
  symtab.filter fun sym =>
    (symbolType.all fun type => decide (sym.stType = type)) && decide (sym.stShndx = secIdx)

/-- The tables that `getSectionSymNames` works on. -/
def readSectionSyms (sectionName : Name) (symbolType : Option Nat) : Reader (List Elf64Sym) := do
  let symtab ← readSymTab device file true
  let shTable ← readSectionHeadersAll file
  let secIdx ← findSecIdx device file sectionName 0 shTable
  return sectionSyms symtab secIdx symbolType

/-- `getSectionSymNames`: why it stopped, and the names that it has pushed. -/
def getSectionSymNames (sectionName : Name) (symbolType : Option Nat) :
    Reader (Option Exit × List Name) := do
  match ← attempt (readSectionSyms device file sectionName symbolType) with
  | .error exit => return (some exit, [])
  | .ok syms => pushNames device file syms []

/-- `codeSection`. -/
structure CodeSection where
  type : BpfProgType
  name : Name
  data : List UInt8
  relData : List UInt8
  progDef : Option BpfProgDef
deriving DecidableEq, Repr

/-- The definition under the given name. -/
def findProgDef (pd : List BpfProgDef) (progDefNames : List Name) (name : Name) :
    Reader (Option BpfProgDef) :=
  match progDefNames.findIdx? fun candidate => candidate = name with
  | none => return none
  | some j => do
      let progDef ← index pd j .progDefs
      return some progDef

/-- The check for a rel section, which looks at the next section header. -/
def readRelData (i : Nat) (name : Name) (data : List UInt8) (rest : List Elf64Shdr) :
    Reader (List UInt8) :=
  if data = [] then return []
  else do
    let next ← index rest 0 .sectionHeaders
    let relName ← getSymName device file next.shName
    if relName = asBytes ".rel" ++ name then readSectionByIdx device file (i + 1)
    else return []

/-- What a turn of the loop of `readCodeSections` comes to: the sections that
it adds, or a `return ret` with no error in `ret`. -/
inductive Turn where
  | next (added : List CodeSection)
  | done
deriving DecidableEq, Repr

/-- The body of the loop of `readCodeSections`, after the data of the section. -/
def readEntry (pd : List BpfProgDef) (progDefNames : List Name) (i : Nat) (name : Name)
    (data : List UInt8) (rest : List Elf64Shdr) : Reader Turn := do
  match ← getSectionSymNames device file name (some sttFunc) with
  | (some exit, _) => fail exit
  | (none, []) => return .done
  | (none, csSymName :: _) => do
      let progDef ← findProgDef pd progDefNames (csSymName ++ asBytes "_def")
      let relData ← readRelData device file i name data rest
      return .next (if data = [] then []
        else [⟨getSectionType device.fuseProgType name, underscored name, data, relData, progDef⟩])

/-- The body of the loop of `readCodeSections`. -/
def readCodeSection (allowed : Option (List BpfProgType)) (pd : List BpfProgDef)
    (progDefNames : List Name) (i : Nat) (shdr : Elf64Shdr) (rest : List Elf64Shdr) :
    Reader Turn := do
  let name ← getSymName device file shdr.shName
  let ptype := getSectionType device.fuseProgType name
  if ptype = bpfProgTypeUnspec then return .next []
  else if isAllowed device.fuseProgType ptype allowed = false then fail (.ret (-1))
  else do
    let data ← readSectionByIdx device file i
    readEntry device file pd progDefNames i name data rest

/-- The loop of `readCodeSections`. -/
def codeSectionsFrom (allowed : Option (List BpfProgType)) (pd : List BpfProgDef)
    (progDefNames : List Name) :
    Nat → List Elf64Shdr → List CodeSection → Reader (List CodeSection)
  | _, [], cs => return cs
  | i, shdr :: rest, cs => do
      match ← readCodeSection device file allowed pd progDefNames i shdr rest with
      | .done => return cs
      | .next added => codeSectionsFrom allowed pd progDefNames (i + 1) rest (cs ++ added)

def readCodeSections (allowed : Option (List BpfProgType)) : Reader (List CodeSection) := do
  let shTable ← readSectionHeadersAll file
  let pd ← readProgDefs device file
  let (exit, progDefNames) ← getSectionSymNames device file (asBytes "progs") none
  match pd, exit with
  | _ :: _, some exit => fail exit
  | _, _ => codeSectionsFrom device file allowed pd progDefNames 0 shTable []

/-- `getSymNameByIdx`, whose index is an `int`. -/
def getSymNameByIdx (idx : Int) : Reader Name := do
  let symtab ← readSymTab device file false
  if asInt symtab.length ≤ idx then fail (.ret (-1))
  else do
    check (0 ≤ idx) .symbolTable
    let sym ← index symtab idx.toNat .symbolTable
    getSymName device file sym.stName

end Reading

end UprobeStats.Loader
