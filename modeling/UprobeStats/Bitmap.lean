/-
Bitmap allocations.  The BPF programs keep the bitmaps that are alive in a map
of their own and report allocations, frees, scalings and activity starts in
one kind of record; the handler keeps a second set of live bitmaps, their
total size and what was alive when that total was largest.
-/
import UprobeStats.BpfFns
import UprobeStats.Lib.Grouping
import UprobeStats.Sinks
import UprobeStats.Strings

namespace UprobeStats.Bitmap

open Grouping Memory Traced

/-- `struct BitmapEvent`. -/
structure BitmapEvent where
  type : UInt32
  width : UInt32
  height : UInt32
  scaledWidth : UInt32
  scaledHeight : UInt32
  pixelStorageType : UInt32
  bitmapSize : UInt32
  nativePtr : UInt64
  activityName : List UInt8
  activityName_length : activityName.length = maxStringLength

def kBitmapEventTypeAllocation : UInt32 := 0
def kBitmapEventTypeDeallocation : UInt32 := 1
def kBitmapEventTypeActivityStart : UInt32 := 2
def kBitmapEventTypeBitmapScaled : UInt32 := 3

/-- `struct BitmapKey`. -/
structure BitmapKey where
  tgid : UInt64
  nativePtr : UInt64
deriving DecidableEq, Repr

/-- `active_bitmaps`.  All its values are `true`, so it is a set of keys. -/
abbrev ActiveBitmaps := Finset BitmapKey

/-- The `max_entries` of `active_bitmaps`. -/
def activeBitmapsMaxEntries : Nat := 5000

/-- `bpf_active_bitmaps_update_elem` with `BPF_NOEXIST`: `-EEXIST` for a key
that is there, `-E2BIG` for a new one without room. -/
def bpfActiveBitmapsUpdateElem (active : ActiveBitmaps) (key : BitmapKey) : Int × ActiveBitmaps :=
  if key ∈ active then (-17, active)
  else if activeBitmapsMaxEntries ≤ active.card then (-7, active)
  else (0, insert key active)

/-- What an execution of a program leaves behind: its return value, the record
it submitted and the map. -/
structure Executed where
  ret : Int
  submitted : Option BitmapEvent
  active : ActiveBitmaps

/-! The programs.  `reserved` is what `bpf_output_reserve` returned: nothing, or
a record with whatever bytes the ring buffer had there. -/

/-- A 32-bit field that `load` fills. -/
def loadField (mem : Image) (offset userSpaceAddress : UInt64) : UInt32 :=
  UInt32.ofNat (ofLittleEndian (load mem offset 4 userSpaceAddress).2)

/-- The underlying bitmap of a wrapper object. -/
def loadBitmapPtr (mem : Image) (bitmapWrapperPtr : UInt64) : UInt64 :=
  UInt64.ofNat (ofLittleEndian (load mem 0 8 bitmapWrapperPtr).2)

/-- `uprobe/bitmap_creation`. -/
def bitmapCreation (ctx : PtRegs) (mem : Image) (reserved : Option BitmapEvent) :
    Int × Option BitmapEvent :=
  match reserved with
  | none => (1, none)
  | some output =>
      (0, some { output with
        width := (ctx.regs 4).toUInt32
        height := (ctx.regs 5).toUInt32
        pixelStorageType := loadField mem 0x78 (loadBitmapPtr mem (ctx.regs 3)) })

/-- The record of `uprobe/bitmap_creation_for_snapshot`. -/
def creationRecord (ctx : PtRegs) (mem : Image) (output : BitmapEvent) : BitmapEvent :=
  { output with
    width := (ctx.regs 4).toUInt32
    height := (ctx.regs 5).toUInt32
    pixelStorageType := loadField mem 0x78 (loadBitmapPtr mem (ctx.regs 3))
    bitmapSize := loadField mem 152 (loadBitmapPtr mem (ctx.regs 3))
    type := kBitmapEventTypeAllocation
    nativePtr := ctx.regs 3 }

/-- `uprobe/bitmap_creation_for_snapshot`, which ignores whether the update of
the map succeeded. -/
def bitmapCreationForSnapshot (ctx : PtRegs) (mem : Image) (currentPidTgid : UInt64)
    (reserved : Option BitmapEvent) (active : ActiveBitmaps) : Executed :=
  match reserved with
  | none => ⟨1, none, active⟩
  | some output =>
      let bitmapKey : BitmapKey := ⟨currentPidTgid >>> 32, ctx.regs 3⟩
      ⟨0, some (creationRecord ctx mem output), (bpfActiveBitmapsUpdateElem active bitmapKey).2⟩

/-- The pointer that `uprobe/apply_free_function` frees. -/
def freedPtr (ctx : PtRegs) (mem : Image) : UInt64 := readPointer mem 8 (ctx.regs 1 + 16)

/-- The record of `uprobe/apply_free_function`. -/
def freeRecord (ctx : PtRegs) (mem : Image) (output : BitmapEvent) : BitmapEvent :=
  { output with
    type := kBitmapEventTypeDeallocation
    nativePtr := freedPtr ctx mem }

/-- `uprobe/apply_free_function`, which drops the bitmap from the map before it
knows whether it can report that. -/
def applyFreeFunction (ctx : PtRegs) (mem : Image) (currentPidTgid : UInt64)
    (reserved : Option BitmapEvent) (active : ActiveBitmaps) : Executed :=
  let bitmapKey : BitmapKey := ⟨currentPidTgid >>> 32, freedPtr ctx mem⟩
  if bitmapKey ∉ active then ⟨0, none, active⟩
  else
    match reserved with
    | none => ⟨1, none, active.erase bitmapKey⟩
    | some output => ⟨0, some (freeRecord ctx mem output), active.erase bitmapKey⟩

/-- `kComponentNameClassOffset`. -/
def kComponentNameClassOffset : UInt64 := 8

/-- The string that `uprobe/activity_perform_start` records. -/
def componentNameClassPtr (ctx : PtRegs) (mem : Image) : UInt64 :=
  readPointer mem 4 (readPointer mem 4 (ctx.regs 1 + 76) + kComponentNameClassOffset)

/-- `uprobe/activity_perform_start`. -/
def activityPerformStart (ctx : PtRegs) (mem : Image) (reserved : Option BitmapEvent) :
    Int × Option BitmapEvent :=
  match reserved with
  | none => (1, none)
  | some output =>
      (0, some { output with
        type := kBitmapEventTypeActivityStart
        activityName := (recordString mem (componentNameClassPtr ctx mem) maxStringLength
          output.activityName).2
        activityName_length := by
          rw [length_recordString (by decide) output.activityName_length.ge,
            output.activityName_length] })

/-- `uprobe/create_scaled_bitmap`. -/
def createScaledBitmap (ctx : PtRegs) (mem : Image) (reserved : Option BitmapEvent) :
    Int × Option BitmapEvent :=
  match reserved with
  | none => (1, none)
  | some output =>
      let bitmapJavaObjectPtr := ctx.regs 1
      let bitmapWrapperPtr :=
        UInt64.ofNat (ofLittleEndian (load mem 40 4 bitmapJavaObjectPtr).2)
      let bitmapPtr := loadBitmapPtr mem bitmapWrapperPtr
      (0, some { output with
        scaledWidth := (ctx.regs 2).toUInt32
        scaledHeight := (ctx.regs 3).toUInt32
        width := loadField mem 64 bitmapJavaObjectPtr
        height := loadField mem 60 bitmapJavaObjectPtr
        pixelStorageType := loadField mem 0x78 bitmapPtr
        bitmapSize := loadField mem 152 bitmapPtr
        type := kBitmapEventTypeBitmapScaled
        nativePtr := bitmapWrapperPtr })

/-! The handlers. -/

/-- `BitmapAllocationHandlerV0::on_item`, which does not look at the type of the
record. -/
def BitmapAllocationHandlerV0.onItem (uid : Int32) (writer : AtomWriter) (data : BitmapEvent) :
    Run CodegenAtom AnyError Unit := do
  let width ← Run.ofExcept (tryIntoI32 data.width.toNat)
  let height ← Run.ofExcept (tryIntoI32 data.height.toNat)
  writer.writeCodegen 0 (.androidGraphicsBitmapAllocated uid width height)

structure BitmapMetadata where
  uid : Int32
  width : Int32
  height : Int32
  pixelStorageType : Int32
  activityName : String
deriving DecidableEq, Repr

structure BitmapAllocationHandlerV1 where
  bitmaps : AList fun _ : UInt64 => BitmapMetadata
  maxTotalBitmapSize : Int64
  currentTotalBitmapSize : Int64
  bitmapSnapshotAtMaxSize : List BitmapMetadata
  activityName : String

namespace BitmapAllocationHandlerV1

/-- `default()`. -/
def default : BitmapAllocationHandlerV1 := ⟨∅, 0, 0, [], ""⟩

end BitmapAllocationHandlerV1

/-- An `i64` that is the exact result, or a panic. -/
def exactI64 (value : Int) : Outcome AnyError Int64 :=
  if -2 ^ 63 ≤ value ∧ value < 2 ^ 63 then .ok (Int64.ofInt value) else .panic

/-- What a handler reports and the state it is left in. -/
abbrev Handled := Run CodegenAtom AnyError Unit × BitmapAllocationHandlerV1

/-- The metadata of an allocated bitmap, once its atom is written. -/
def logAllocation (uid : Int32) (writer : AtomWriter) (activityName : String)
    (data : BitmapEvent) : Run CodegenAtom AnyError BitmapMetadata := do
  let width ← Run.ofExcept (tryIntoI32 data.width.toNat)
  let height ← Run.ofExcept (tryIntoI32 data.height.toNat)
  let pixelStorageType ← Run.ofExcept (tryIntoI32 data.pixelStorageType.toNat)
  writer.writeCodegen 0 (.androidGraphicsBitmapAllocated uid width height)
  return ⟨uid, width, height, pixelStorageType, activityName⟩

/-- The atom of a scaled bitmap. -/
def logScaled (uid : Int32) (writer : AtomWriter) (activityName : String)
    (data : BitmapEvent) : Run CodegenAtom AnyError Unit := do
  let width ← Run.ofExcept (tryIntoI32 data.width.toNat)
  let height ← Run.ofExcept (tryIntoI32 data.height.toNat)
  let scaledWidth ← Run.ofExcept (tryIntoI32 data.scaledWidth.toNat)
  let scaledHeight ← Run.ofExcept (tryIntoI32 data.scaledHeight.toNat)
  let pixelStorageType ← Run.ofExcept (tryIntoI32 data.pixelStorageType.toNat)
  writer.writeCodegen 0 (.androidGraphicsBitmapScaled uid width height scaledWidth scaledHeight
    pixelStorageType activityName)

namespace BitmapAllocationHandlerV1

variable (handler : BitmapAllocationHandlerV1)

/-- The values of the hash map in the order it hands them out. -/
def values (order : Iteration UInt64 BitmapMetadata)
    (bitmaps : AList fun _ : UInt64 => BitmapMetadata) : List BitmapMetadata :=
  (order.entries bitmaps).map Sigma.snd

/-- The new total, and the snapshot if there was never a larger one. -/
def grow (order : Iteration UInt64 BitmapMetadata) (total : Int64) : BitmapAllocationHandlerV1 :=
  if handler.maxTotalBitmapSize < total then
    { handler with
      currentTotalBitmapSize := total
      maxTotalBitmapSize := total
      bitmapSnapshotAtMaxSize := values order handler.bitmaps }
  else { handler with currentTotalBitmapSize := total }

/-- The branch for `K_BITMAP_EVENT_TYPE_ALLOCATION`. -/
def onAllocation (order : Iteration UInt64 BitmapMetadata) (uid : Int32) (writer : AtomWriter)
    (data : BitmapEvent) : Handled :=
  let logged := logAllocation uid writer handler.activityName data
  match logged.outcome with
  | .panic => (⟨logged.trace, .panic⟩, handler)
  | .error e => (⟨logged.trace, .error e⟩, handler)
  | .ok metadata =>
      let inserted := { handler with bitmaps := handler.bitmaps.insert data.nativePtr metadata }
      match exactI64 (handler.currentTotalBitmapSize.toInt + data.bitmapSize.toNat) with
      | .panic => (⟨logged.trace, .panic⟩, inserted)
      | .error e => (⟨logged.trace, .error e⟩, inserted)
      | .ok total => (⟨logged.trace, .ok ()⟩, inserted.grow order total)

/-- The branch for `K_BITMAP_EVENT_TYPE_DEALLOCATION`. -/
def onDeallocation (data : BitmapEvent) : Handled :=
  let removed := { handler with bitmaps := handler.bitmaps.erase data.nativePtr }
  match exactI64 (handler.currentTotalBitmapSize.toInt - data.bitmapSize.toNat) with
  | .panic => (⟨[], .panic⟩, removed)
  | .error e => (⟨[], .error e⟩, removed)
  | .ok total => (⟨[], .ok ()⟩, { removed with currentTotalBitmapSize := total })

/-- The branch for `K_BITMAP_EVENT_TYPE_ACTIVITY_START`. -/
def onActivityStart (data : BitmapEvent) : Handled :=
  match bytesAsStr data.activityName with
  | .error e => (⟨[], .error e⟩, handler)
  | .ok activityName => (⟨[], .ok ()⟩, { handler with activityName := activityName })

/-- `on_item`.  The map is a hash map, so its values come in any order. -/
def onItem (order : Iteration UInt64 BitmapMetadata) (uid : Int32) (writer : AtomWriter)
    (data : BitmapEvent) : Handled :=
  if data.type = kBitmapEventTypeAllocation then handler.onAllocation order uid writer data
  else if data.type = kBitmapEventTypeDeallocation then handler.onDeallocation data
  else if data.type = kBitmapEventTypeActivityStart then handler.onActivityStart data
  else if data.type = kBitmapEventTypeBitmapScaled then
    (logScaled uid writer handler.activityName data, handler)
  else (⟨[], .ok ()⟩, handler)

/-- The loop that writes one snapshot, from the given call of the writer on. -/
def writeSnapshot (writer : AtomWriter) (snapshotId : Int64) (snapshotType : Int32) :
    Nat → List BitmapMetadata → Run CodegenAtom AnyError Unit
  | _, [] => return ()
  | n, metadata :: rest => do
      writer.writeCodegen n (.androidGraphicsBitmapAllocationSnapshot metadata.uid metadata.width
        metadata.height metadata.pixelStorageType snapshotId snapshotType metadata.activityName)
      writeSnapshot writer snapshotId snapshotType (n + 1) rest

/-- `on_finished`: the snapshot at the largest size, then what is alive now. -/
def onFinished (order : Iteration UInt64 BitmapMetadata) (writer : AtomWriter)
    (snapshotIdAtMaxSize snapshotIdAtEnd : Int64) : Run CodegenAtom AnyError Unit := do
  writeSnapshot writer snapshotIdAtMaxSize 1 0 handler.bitmapSnapshotAtMaxSize
  writeSnapshot writer snapshotIdAtEnd 2 handler.bitmapSnapshotAtMaxSize.length
    (values order handler.bitmaps)

/-! What a record that is handled without an error does to the two numbers the
handler keeps in step: which bitmaps are alive, and how large they are. -/

theorem exactI64_eq_ok {value : Int} {total : Int64} (hok : exactI64 value = .ok total) :
    total.toInt = value := by
  unfold exactI64 at hok
  split at hok
  · rename_i hrange
    cases hok
    exact Int64.toInt_ofInt_of_le hrange.1 hrange.2
  · cases hok

@[simp] theorem bitmaps_grow (order : Iteration UInt64 BitmapMetadata) (total : Int64) :
    (handler.grow order total).bitmaps = handler.bitmaps := by
  unfold grow
  split <;> rfl

@[simp] theorem currentTotalBitmapSize_grow (order : Iteration UInt64 BitmapMetadata)
    (total : Int64) : (handler.grow order total).currentTotalBitmapSize = total := by
  unfold grow
  split <;> rfl

variable {handler}

/-- What an allocation that is handled well does. -/
theorem onItem_allocation_cases {order : Iteration UInt64 BitmapMetadata} {uid : Int32}
    {writer : AtomWriter} {data : BitmapEvent} (htype : data.type = kBitmapEventTypeAllocation)
    (hok : (handler.onItem order uid writer data).1.outcome = .ok ()) :
    ∃ metadata total,
      (logAllocation uid writer handler.activityName data).outcome = .ok metadata ∧
      total.toInt = handler.currentTotalBitmapSize.toInt + data.bitmapSize.toNat ∧
      (handler.onItem order uid writer data).2 = { handler with
        bitmaps := handler.bitmaps.insert data.nativePtr metadata }.grow order total := by
  rw [onItem, if_pos htype, onAllocation] at hok ⊢
  cases hlogged : (logAllocation uid writer handler.activityName data).outcome with
  | panic => simp [hlogged] at hok
  | error e => simp [hlogged] at hok
  | ok metadata =>
      simp only [hlogged] at hok ⊢
      cases htotal : exactI64 (handler.currentTotalBitmapSize.toInt + data.bitmapSize.toNat) with
      | panic => simp [htotal] at hok
      | error e => simp [htotal] at hok
      | ok total => exact ⟨metadata, total, rfl, exactI64_eq_ok htotal, rfl⟩

/-- What a deallocation that is handled well does. -/
theorem onItem_deallocation_cases {order : Iteration UInt64 BitmapMetadata} {uid : Int32}
    {writer : AtomWriter} {data : BitmapEvent} (htype : data.type = kBitmapEventTypeDeallocation)
    (hok : (handler.onItem order uid writer data).1.outcome = .ok ()) :
    ∃ total : Int64,
      total.toInt = handler.currentTotalBitmapSize.toInt - data.bitmapSize.toNat ∧
      (handler.onItem order uid writer data).2 = { handler with
        bitmaps := handler.bitmaps.erase data.nativePtr
        currentTotalBitmapSize := total } := by
  have hne : data.type ≠ kBitmapEventTypeAllocation := by rw [htype]; decide
  rw [onItem, if_neg hne, if_pos htype, onDeallocation] at hok ⊢
  cases htotal : exactI64 (handler.currentTotalBitmapSize.toInt - data.bitmapSize.toNat) with
  | panic => simp [htotal] at hok
  | error e => simp [htotal] at hok
  | ok total => exact ⟨total, exactI64_eq_ok htotal, rfl⟩

theorem onItem_allocation {order : Iteration UInt64 BitmapMetadata} {uid : Int32}
    {writer : AtomWriter} {data : BitmapEvent} (htype : data.type = kBitmapEventTypeAllocation)
    (hok : (handler.onItem order uid writer data).1.outcome = .ok ()) :
    ∃ metadata,
      (handler.onItem order uid writer data).2.bitmaps =
        handler.bitmaps.insert data.nativePtr metadata ∧
      (handler.onItem order uid writer data).2.currentTotalBitmapSize.toInt =
        handler.currentTotalBitmapSize.toInt + data.bitmapSize.toNat := by
  obtain ⟨metadata, total, -, htotal, hafter⟩ := onItem_allocation_cases htype hok
  rw [hafter]
  exact ⟨metadata, by simp, by simpa using htotal⟩

theorem onItem_deallocation {order : Iteration UInt64 BitmapMetadata} {uid : Int32}
    {writer : AtomWriter} {data : BitmapEvent} (htype : data.type = kBitmapEventTypeDeallocation)
    (hok : (handler.onItem order uid writer data).1.outcome = .ok ()) :
    (handler.onItem order uid writer data).2.bitmaps = handler.bitmaps.erase data.nativePtr ∧
      (handler.onItem order uid writer data).2.currentTotalBitmapSize.toInt =
        handler.currentTotalBitmapSize.toInt - data.bitmapSize.toNat := by
  obtain ⟨total, htotal, hafter⟩ := onItem_deallocation_cases htype hok
  rw [hafter]
  exact ⟨rfl, htotal⟩

end BitmapAllocationHandlerV1

end UprobeStats.Bitmap
