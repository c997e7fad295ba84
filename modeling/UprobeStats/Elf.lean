/-
The layout of an object file and of the definitions in it, as far as the loader
looks at them.  Numbers are little-endian and kept as natural numbers; an index
that the loader keeps in an `int` goes through `asInt` there.
-/
import UprobeStats.Lib.Memory

namespace UprobeStats.Loader

open Bytes Memory

/-- The name of a section or a symbol, and any other C string, without its
terminator. -/
abbrev Name := List UInt8

/-- An unsigned number that is converted to `int`. -/
def asInt (n : Nat) : Int :=
  if n % 2 ^ 32 < 2 ^ 31 then (n % 2 ^ 32 : Nat) else (n % 2 ^ 32 : Nat) - 2 ^ 32

theorem asInt_of_lt {n : Nat} (hn : n < 2 ^ 31) : asInt n = n := by
  have hmod : n % 2 ^ 32 = n := Nat.mod_eq_of_lt (by omega)
  rw [asInt, hmod, if_pos hn]

/-- The number at an offset of a structure. -/
def field (bytes : List UInt8) (offset size : Nat) : Nat :=
  ofLittleEndian ((bytes.drop offset).take size)

/-- An array of structures. -/
def structs (size count : Nat) (bytes : List UInt8) : List (List UInt8) :=
  (List.range count).map fun i => (bytes.drop (size * i)).take size

/-- `Elf64_Ehdr`. -/
structure Elf64Ehdr where
  eShoff : Nat
  eShentsize : Nat
  eShnum : Nat
  eShstrndx : Nat
deriving DecidableEq, Repr

def Elf64Ehdr.ofBytes (bytes : List UInt8) : Elf64Ehdr :=
  ⟨field bytes 40 8, field bytes 58 2, field bytes 60 2, field bytes 62 2⟩

/-- `Elf64_Shdr`. -/
structure Elf64Shdr where
  shName : Nat
  shType : Nat
  shOffset : Nat
  shSize : Nat
deriving DecidableEq, Repr

def Elf64Shdr.ofBytes (bytes : List UInt8) : Elf64Shdr :=
  ⟨field bytes 0 4, field bytes 4 4, field bytes 24 8, field bytes 32 8⟩

/-- `Elf64_Sym`. -/
structure Elf64Sym where
  stName : Nat
  stInfo : Nat
  stShndx : Nat
  stValue : Nat
deriving DecidableEq, Repr

def Elf64Sym.ofBytes (bytes : List UInt8) : Elf64Sym :=
  ⟨field bytes 0 4, field bytes 4 1, field bytes 6 2, field bytes 8 8⟩

/-- `ELF_ST_TYPE`. -/
def Elf64Sym.stType (sym : Elf64Sym) : Nat := sym.stInfo % 16

/-- `Elf64_Rel`. -/
structure Elf64Rel where
  rOffset : Nat
  rInfo : Nat
deriving DecidableEq, Repr

def Elf64Rel.ofBytes (bytes : List UInt8) : Elf64Rel :=
  ⟨field bytes 0 8, field bytes 8 8⟩

/-- `ELF64_R_SYM`. -/
def Elf64Rel.rSym (rel : Elf64Rel) : Nat := rel.rInfo / 2 ^ 32

/-- `SHT_SYMTAB`. -/
def shtSymtab : Nat := 2

/-- `STT_FUNC`. -/
def sttFunc : Nat := 2

/-- `struct bpf_map_def`. -/
structure BpfMapDef where
  type : Nat
  keySize : Nat
  valueSize : Nat
  maxEntries : Nat
  mapFlags : Nat
  zero : Nat
  gid : Nat
  mode : Nat
  minKver : Nat
  maxKver : Nat
  shared : Bool
  uid : Nat
deriving DecidableEq, Repr

/-- `sizeof(struct bpf_map_def)`. -/
def sizeofBpfMapDef : Nat := 120

def BpfMapDef.ofBytes (bytes : List UInt8) : BpfMapDef where
  type := field bytes 0 4
  keySize := field bytes 4 4
  valueSize := field bytes 8 4
  maxEntries := field bytes 12 4
  mapFlags := field bytes 16 4
  zero := field bytes 20 4
  gid := field bytes 24 4
  mode := field bytes 28 4
  minKver := field bytes 40 4
  maxKver := field bytes 44 4
  shared := decide (field bytes 112 1 ≠ 0)
  uid := field bytes 116 4

/-- `struct bpf_prog_def`. -/
structure BpfProgDef where
  uid : Nat
  gid : Nat
  minKver : Nat
  maxKver : Nat
  optional : Bool
deriving DecidableEq, Repr

/-- `sizeof(struct bpf_prog_def)`. -/
def sizeofBpfProgDef : Nat := 92

def BpfProgDef.ofBytes (bytes : List UInt8) : BpfProgDef where
  uid := field bytes 0 4
  gid := field bytes 4 4
  minKver := field bytes 8 4
  maxKver := field bytes 12 4
  optional := decide (field bytes 16 1 ≠ 0)

/-- `enum bpf_prog_type`.  The type of fuse programs is whatever number the
kernel gives for it. -/
abbrev BpfProgType := Int

def bpfProgTypeUnspec : BpfProgType := 0
def bpfProgTypeSocketFilter : BpfProgType := 1
def bpfProgTypeKprobe : BpfProgType := 2
def bpfProgTypeTracepoint : BpfProgType := 5
def bpfProgTypePerfEvent : BpfProgType := 7

/-- `sectionNameTypes`. -/
def sectionNameTypes : List (Name × BpfProgType) := [
  (asBytes "kprobe/", bpfProgTypeKprobe),
  (asBytes "kretprobe/", bpfProgTypeKprobe),
  (asBytes "perf_event/", bpfProgTypePerfEvent),
  (asBytes "skfilter/", bpfProgTypeSocketFilter),
  (asBytes "tracepoint/", bpfProgTypeTracepoint),
  (asBytes "uprobe/", bpfProgTypeKprobe),
  (asBytes "uretprobe/", bpfProgTypeKprobe)]

/-- `getSectionType`, with the answer of `getFuseProgType`. -/
def getSectionType (fuseProgType : BpfProgType) (name : Name) : BpfProgType :=
  match sectionNameTypes.find? fun nameType => nameType.1 <+: name with
  | some nameType => nameType.2
  | none => if asBytes "fuse/" <+: name then fuseProgType else bpfProgTypeUnspec

/-- `IsAllowed`.  Without a list everything is. -/
def isAllowed (fuseProgType type : BpfProgType) : Option (List BpfProgType) → Bool
  | none => true
  | some allowed => allowed.any fun candidate =>
      if candidate = bpfProgTypeUnspec then type = fuseProgType else type = candidate

/-- The conversion of slashes in the name of a program section. -/
def underscored (name : Name) : Name :=
  name.map fun byte => if byte = 47 then 95 else byte

/-! Objects that are put together from their sections. -/

/-- A section, with the offset of its name. -/
structure Section where
  name : Nat
  type : Nat
  bytes : List UInt8

/-- The section headers, for data from an offset on. -/
def headersFrom : Nat → List Section → List UInt8
  | _, [] => []
  | offset, s :: rest =>
      toLittleEndian 4 s.name ++ toLittleEndian 4 s.type ++ List.replicate 16 0 ++
        toLittleEndian 8 offset ++ toLittleEndian 8 s.bytes.length ++ List.replicate 24 0 ++
        headersFrom (offset + s.bytes.length) rest

/-- The object: its header, the data of the sections and their headers. -/
def object (eShstrndx : Nat) (sections : List Section) : List UInt8 :=
  List.replicate 40 0 ++ toLittleEndian 8 (64 + (sections.flatMap Section.bytes).length) ++
    List.replicate 10 0 ++ toLittleEndian 2 64 ++ toLittleEndian 2 sections.length ++
    toLittleEndian 2 eShstrndx ++ sections.flatMap Section.bytes ++ headersFrom 64 sections

/-- The bytes of a symbol. -/
def symbol (name info shndx value : Nat) : List UInt8 :=
  toLittleEndian 4 name ++ toLittleEndian 1 info ++ [0] ++ toLittleEndian 2 shndx ++
    toLittleEndian 8 value ++ List.replicate 8 0

/-- The bytes of a definition of a hash map with keys of 4 bytes, values of 8
bytes and 16 entries, for all kernels from a version on. -/
def mapDefinition (mode uid gid minKver : Nat) : List UInt8 :=
  toLittleEndian 4 1 ++ toLittleEndian 4 4 ++ toLittleEndian 4 8 ++ toLittleEndian 4 16 ++
    List.replicate 8 0 ++ toLittleEndian 4 gid ++ toLittleEndian 4 mode ++ List.replicate 8 0 ++
    toLittleEndian 4 minKver ++ toLittleEndian 4 (2 ^ 32 - 1) ++ List.replicate 68 0 ++
    toLittleEndian 4 uid

end UprobeStats.Loader
