/-
Whole runs of the bitmap handlers.  What the second handler keeps is a summary
of the records it has seen: the bitmaps that are alive, their total size, the
largest total, and what was alive when that total was first reached.
-/
import UprobeStats.BitmapSystem
import UprobeStats.Lib.Histories

namespace UprobeStats.Bitmap

open Grouping Histories Traced Transition

/-- One call of `on_item`: the record, the order in which the hash map hands
out its values, and what the writer answers. -/
structure Handling where
  order : Iteration UInt64 BitmapMetadata
  writer : AtomWriter
  data : BitmapEvent

/-- A call that returns `Ok`. -/
def handle (uid : Int32) (handler : BitmapAllocationHandlerV1) (handling : Handling) :
    Option BitmapAllocationHandlerV1 :=
  match (handler.onItem handling.order uid handling.writer handling.data).1.outcome with
  | .ok _ => some (handler.onItem handling.order uid handling.writer handling.data).2
  | _ => none

/-- The handler from its default state on, as long as every call returns `Ok`. -/
def handlerV1 (uid : Int32) : Machine BitmapAllocationHandlerV1 Handling where
  init := .default
  step := handle uid

def Handling.IsAllocation (handling : Handling) : Prop :=
  handling.data.type = kBitmapEventTypeAllocation

/-- The values of the map. -/
def BitmapAllocationHandlerV1.alive (handler : BitmapAllocationHandlerV1) : List BitmapMetadata :=
  handler.bitmaps.entries.map Sigma.snd

/-- The current total, as a number. -/
def BitmapAllocationHandlerV1.total (handler : BitmapAllocationHandlerV1) : Int :=
  handler.currentTotalBitmapSize.toInt

instance (handling : Handling) : Decidable handling.IsAllocation :=
  inferInstanceAs (Decidable (_ = _))

/-! What a run amounts to. -/

/-- The record starts an activity. -/
def StartsActivity (data : BitmapEvent) : Prop := data.type = kBitmapEventTypeActivityStart

/-- The record allocates or frees the bitmap. -/
def Touches (nativePtr : UInt64) (data : BitmapEvent) : Prop :=
  (data.type = kBitmapEventTypeAllocation ∨ data.type = kBitmapEventTypeDeallocation) ∧
    data.nativePtr = nativePtr

/-- The name that the last start of an activity gave, if there was one. -/
def CurrentActivity (events : List BitmapEvent) (activityName : String) : Prop :=
  (∃ before data, Latest StartsActivity events before data ∧
      bytesAsStr data.activityName = .ok activityName) ∨
    ((∀ data ∈ events, ¬ StartsActivity data) ∧ activityName = "")

/-- The last allocation of a bitmap that has not been freed since, with what
happened before it. -/
def LastAllocation (events : List BitmapEvent) (nativePtr : UInt64) (before : List BitmapEvent)
    (data : BitmapEvent) : Prop :=
  Latest (Touches nativePtr) events before data ∧ data.type = kBitmapEventTypeAllocation

/-- The metadata that an allocation gets while the activity is running. -/
structure BitmapMetadata.Describes (uid : Int32) (activityName : String) (data : BitmapEvent)
    (metadata : BitmapMetadata) : Prop where
  uid : metadata.uid = uid
  width : metadata.width.toInt = data.width.toNat
  height : metadata.height.toInt = data.height.toNat
  pixelStorageType : metadata.pixelStorageType.toInt = data.pixelStorageType.toNat
  activityName : metadata.activityName = activityName

/-- The sizes of the records of one type, added up. -/
def sizeOf (type : UInt32) (events : List BitmapEvent) : Int :=
  ((events.filter (·.type = type)).map fun data => (data.bitmapSize.toNat : Int)).sum

/-- What the handler amounts to after a run. -/
structure Summarises (uid : Int32) (handlings : List Handling)
    (handler : BitmapAllocationHandlerV1) : Prop where
  bitmaps : ∀ nativePtr metadata, handler.bitmaps.lookup nativePtr = some metadata ↔
    ∃ before data activityName,
      LastAllocation (handlings.map Handling.data) nativePtr before data ∧
      CurrentActivity before activityName ∧ metadata.Describes uid activityName data
  currentTotalBitmapSize : handler.total =
    sizeOf kBitmapEventTypeAllocation (handlings.map Handling.data) -
      sizeOf kBitmapEventTypeDeallocation (handlings.map Handling.data)
  maxTotalBitmapSize : IsGreatest
    (valuesAfter (handlerV1 uid) Handling.IsAllocation BitmapAllocationHandlerV1.total 0 handlings)
    handler.maxTotalBitmapSize.toInt
  emptySnapshot : handler.maxTotalBitmapSize = 0 → handler.bitmapSnapshotAtMaxSize = []
  bitmapSnapshotAtMaxSize : handler.maxTotalBitmapSize ≠ 0 → ∃ peak,
    FirstAfter (handlerV1 uid) Handling.IsAllocation BitmapAllocationHandlerV1.total handlings
      handler.maxTotalBitmapSize.toInt peak ∧
    handler.bitmapSnapshotAtMaxSize.Perm peak.alive

/-- One atom of a snapshot. -/
def snapshotAtom (snapshotId : Int64) (snapshotType : Int32) (metadata : BitmapMetadata) :
    CodegenAtom :=
  .androidGraphicsBitmapAllocationSnapshot metadata.uid metadata.width metadata.height
    metadata.pixelStorageType snapshotId snapshotType metadata.activityName

/-- What a handler reports at the end: both snapshots, each under an identifier
of its own, unless the writer fails. -/
structure ReportsSnapshots (handler : BitmapAllocationHandlerV1) : Prop where
  written : ∀ order writer snapshotIdAtMaxSize snapshotIdAtEnd,
    (handler.onFinished order writer snapshotIdAtMaxSize snapshotIdAtEnd).outcome = .ok () →
    ∃ bitmaps : List BitmapMetadata, bitmaps.Perm handler.alive ∧
      (handler.onFinished order writer snapshotIdAtMaxSize snapshotIdAtEnd).trace =
        handler.bitmapSnapshotAtMaxSize.map (snapshotAtom snapshotIdAtMaxSize 1) ++
          bitmaps.map (snapshotAtom snapshotIdAtEnd 2)
  succeeds : ∀ order writer snapshotIdAtMaxSize snapshotIdAtEnd, (∀ n, writer n = .ok ()) →
    (handler.onFinished order writer snapshotIdAtMaxSize snapshotIdAtEnd).outcome = .ok ()

/-! One call. -/

theorem toInt_of_tryIntoI32 {n : Nat} {value : Int32} (hok : tryIntoI32 n = .ok value) :
    value.toInt = n := by
  unfold tryIntoI32 at hok
  split at hok
  · rename_i hlt
    cases hok
    exact Int32.toInt_ofNat_of_lt hlt
  · cases hok

theorem logAllocation_describes {uid : Int32} {writer : AtomWriter} {activityName : String}
    {data : BitmapEvent} {metadata : BitmapMetadata}
    (hok : (logAllocation uid writer activityName data).outcome = .ok metadata) :
    metadata.Describes uid activityName data := by
  obtain ⟨width, hwidth, hrest⟩ := Run.bind_eq_ok_iff.1 hok
  obtain ⟨height, hheight, hrest⟩ := Run.bind_eq_ok_iff.1 hrest
  obtain ⟨pixelStorageType, hpixel, hrest⟩ := Run.bind_eq_ok_iff.1 hrest
  obtain ⟨_, _, hpure⟩ := Run.bind_eq_ok_iff.1 hrest
  rw [Run.outcome_ofExcept_eq_ok_iff] at hwidth hheight hpixel
  cases hpure
  exact ⟨rfl, toInt_of_tryIntoI32 hwidth, toInt_of_tryIntoI32 hheight, toInt_of_tryIntoI32 hpixel,
    rfl⟩

theorem BitmapMetadata.Describes.unique {uid : Int32} {activityName : String} {data : BitmapEvent}
    {metadata other : BitmapMetadata} (hmetadata : metadata.Describes uid activityName data)
    (hother : other.Describes uid activityName data) : other = metadata := by
  obtain ⟨huid, hwidth, hheight, hpixel, hname⟩ := hmetadata
  obtain ⟨huid', hwidth', hheight', hpixel', hname'⟩ := hother
  cases metadata
  cases other
  simp only [BitmapMetadata.mk.injEq]
  exact ⟨huid'.trans huid.symm, Int32.toInt_inj.1 (hwidth'.trans hwidth.symm),
    Int32.toInt_inj.1 (hheight'.trans hheight.symm), Int32.toInt_inj.1 (hpixel'.trans hpixel.symm),
    hname'.trans hname.symm⟩

/-- The snapshot is taken when the total exceeds all earlier ones. -/
theorem grow_cases (handler : BitmapAllocationHandlerV1) (order : Iteration UInt64 BitmapMetadata)
    (total : Int64) :
    (handler.maxTotalBitmapSize.toInt < total.toInt ∧
      (handler.grow order total).maxTotalBitmapSize = total ∧
      (handler.grow order total).bitmapSnapshotAtMaxSize.Perm handler.alive) ∨
    (total.toInt ≤ handler.maxTotalBitmapSize.toInt ∧
      (handler.grow order total).maxTotalBitmapSize = handler.maxTotalBitmapSize ∧
      (handler.grow order total).bitmapSnapshotAtMaxSize = handler.bitmapSnapshotAtMaxSize) := by
  unfold BitmapAllocationHandlerV1.grow
  split
  · rename_i hlt
    exact .inl ⟨Int64.lt_iff_toInt_lt.1 hlt, rfl, (order.entries_perm handler.bitmaps).map _⟩
  · rename_i hnot
    rw [Int64.lt_iff_toInt_lt, not_lt] at hnot
    exact .inr ⟨hnot, rfl, rfl⟩

/-- Everything that a call can do. -/
theorem handle_cases {uid : Int32} {handler handler' : BitmapAllocationHandlerV1}
    {handling : Handling} (hstep : handle uid handler handling = some handler') :
    (handling.IsAllocation ∧ ∃ metadata total,
      metadata.Describes uid handler.activityName handling.data ∧
      total.toInt = handler.currentTotalBitmapSize.toInt + handling.data.bitmapSize.toNat ∧
      handler' = { handler with
        bitmaps := handler.bitmaps.insert handling.data.nativePtr metadata }.grow
          handling.order total) ∨
    (handling.data.type = kBitmapEventTypeDeallocation ∧ ∃ total : Int64,
      total.toInt = handler.currentTotalBitmapSize.toInt - handling.data.bitmapSize.toNat ∧
      handler' = { handler with
        bitmaps := handler.bitmaps.erase handling.data.nativePtr
        currentTotalBitmapSize := total }) ∨
    (StartsActivity handling.data ∧ ∃ activityName,
      bytesAsStr handling.data.activityName = .ok activityName ∧
      handler' = { handler with activityName := activityName }) ∨
    (¬ handling.IsAllocation ∧ handling.data.type ≠ kBitmapEventTypeDeallocation ∧
      ¬ StartsActivity handling.data ∧ handler' = handler) := by
  obtain ⟨order, writer, data⟩ := handling
  simp only [handle] at hstep
  split at hstep
  · rename_i hok
    rw [Option.some.injEq] at hstep
    subst hstep
    by_cases hallocation : data.type = kBitmapEventTypeAllocation
    · obtain ⟨metadata, total, hlogged, htotal, hafter⟩ :=
        BitmapAllocationHandlerV1.onItem_allocation_cases hallocation hok
      exact .inl ⟨hallocation, metadata, total, logAllocation_describes hlogged, htotal, hafter⟩
    · by_cases hdeallocation : data.type = kBitmapEventTypeDeallocation
      · obtain ⟨total, htotal, hafter⟩ :=
          BitmapAllocationHandlerV1.onItem_deallocation_cases hdeallocation hok
        exact .inr (.inl ⟨hdeallocation, total, htotal, hafter⟩)
      · by_cases hstart : data.type = kBitmapEventTypeActivityStart
        · rw [BitmapAllocationHandlerV1.onItem, if_neg hallocation, if_neg hdeallocation,
            if_pos hstart, BitmapAllocationHandlerV1.onActivityStart] at hok ⊢
          cases hname : bytesAsStr data.activityName with
          | error e => simp [hname] at hok
          | ok activityName => exact .inr (.inr (.inl ⟨hstart, activityName, rfl, rfl⟩))
        · refine .inr (.inr (.inr ⟨hallocation, hdeallocation, hstart, ?_⟩))
          rw [BitmapAllocationHandlerV1.onItem, if_neg hallocation, if_neg hdeallocation,
            if_neg hstart]
          split <;> rfl
  · cases hstep

/-! What the records so far say about the next one. -/

theorem CurrentActivity.unique {events : List BitmapEvent} {activityName activityName' : String}
    (hcurrent : CurrentActivity events activityName)
    (hcurrent' : CurrentActivity events activityName') : activityName' = activityName := by
  rcases hcurrent with ⟨before, data, hlatest, hname⟩ | ⟨hnone, rfl⟩
  · rcases hcurrent' with ⟨before', data', hlatest', hname'⟩ | ⟨hnone', -⟩
    · obtain ⟨-, rfl⟩ := hlatest.unique hlatest'
      rw [hname] at hname'
      cases hname'
      rfl
    · obtain ⟨after, rfl, hstart, -⟩ := hlatest
      exact absurd hstart (hnone' data (by simp))
  · rcases hcurrent' with ⟨before', data', hlatest', hname'⟩ | ⟨-, rfl⟩
    · obtain ⟨after, rfl, hstart, -⟩ := hlatest'
      exact absurd hstart (hnone data' (by simp))
    · rfl

theorem CurrentActivity.concat_of_not {events : List BitmapEvent} {data : BitmapEvent}
    {activityName : String} (hcurrent : CurrentActivity events activityName)
    (hstart : ¬ StartsActivity data) : CurrentActivity (events ++ [data]) activityName := by
  rcases hcurrent with ⟨before, data', hlatest, hname⟩ | ⟨hnone, rfl⟩
  · exact .inl ⟨before, data', latest_concat_iff.2 (.inr ⟨hstart, hlatest⟩), hname⟩
  · refine .inr ⟨?_, rfl⟩
    intro other hother
    rcases List.mem_append.1 hother with hother | hother
    · exact hnone other hother
    · rw [List.mem_singleton.1 hother]
      exact hstart

theorem lastAllocation_concat_iff {events before : List BitmapEvent} {nativePtr : UInt64}
    {last data : BitmapEvent} :
    LastAllocation (events ++ [last]) nativePtr before data ↔
      (Touches nativePtr last ∧ last.type = kBitmapEventTypeAllocation ∧ before = events ∧
        data = last) ∨
      (¬ Touches nativePtr last ∧ LastAllocation events nativePtr before data) := by
  rw [LastAllocation, latest_concat_iff]
  constructor
  · rintro ⟨⟨htouches, rfl, rfl⟩ | ⟨hnot, hlatest⟩, htype⟩
    · exact .inl ⟨htouches, htype, rfl, rfl⟩
    · exact .inr ⟨hnot, hlatest, htype⟩
  · rintro (⟨htouches, htype, rfl, rfl⟩ | ⟨hnot, hlatest, htype⟩)
    · exact ⟨.inl ⟨htouches, rfl, rfl⟩, htype⟩
    · exact ⟨.inr ⟨hnot, hlatest⟩, htype⟩

theorem sizeOf_concat (type : UInt32) (events : List BitmapEvent) (data : BitmapEvent) :
    sizeOf type (events ++ [data]) =
      sizeOf type events + if data.type = type then (data.bitmapSize.toNat : Int) else 0 := by
  by_cases htype : data.type = type
  · simp [sizeOf, htype]
  · simp [sizeOf, htype]

/-! One call more. -/

theorem summarises_nil (uid : Int32) : Summarises uid [] .default where
  bitmaps := by
    intro nativePtr metadata
    constructor
    · intro hlookup
      cases hlookup
    · rintro ⟨before, data, activityName, ⟨hlatest, -⟩, -⟩
      exact absurd hlatest not_latest_nil
  currentTotalBitmapSize := rfl
  maxTotalBitmapSize := isGreatest_valuesAfter_nil
  emptySnapshot _ := rfl
  bitmapSnapshotAtMaxSize hne := absurd rfl hne

section Step

variable {uid : Int32} {handlings : List Handling} {handling : Handling}
  {handler handler' : BitmapAllocationHandlerV1}

/-- A call that does not allocate keeps the peak. -/
theorem Summarises.concat_of_not (hsummary : Summarises uid handlings handler)
    (hnot : ¬ handling.IsAllocation)
    (hmax : handler'.maxTotalBitmapSize = handler.maxTotalBitmapSize)
    (hsnapshot : handler'.bitmapSnapshotAtMaxSize = handler.bitmapSnapshotAtMaxSize)
    (hbitmaps : ∀ nativePtr metadata, handler'.bitmaps.lookup nativePtr = some metadata ↔
      ∃ before data activityName,
        LastAllocation ((handlings ++ [handling]).map Handling.data) nativePtr before data ∧
        CurrentActivity before activityName ∧ metadata.Describes uid activityName data)
    (htotal : handler'.total =
      sizeOf kBitmapEventTypeAllocation ((handlings ++ [handling]).map Handling.data) -
        sizeOf kBitmapEventTypeDeallocation ((handlings ++ [handling]).map Handling.data)) :
    Summarises uid (handlings ++ [handling]) handler' where
  bitmaps := hbitmaps
  currentTotalBitmapSize := htotal
  maxTotalBitmapSize := by
    rw [valuesAfter_concat_of_not hnot, hmax]
    exact hsummary.maxTotalBitmapSize
  emptySnapshot := by
    rw [hmax, hsnapshot]
    exact hsummary.emptySnapshot
  bitmapSnapshotAtMaxSize := by
    rw [hmax, hsnapshot]
    intro hne
    obtain ⟨peak, hfirst, hperm⟩ := hsummary.bitmapSnapshotAtMaxSize hne
    exact ⟨peak, hfirst.mono, hperm⟩

/-- A record that does not touch any bitmap leaves the map as it is. -/
theorem Summarises.bitmaps_of_not_touches (hsummary : Summarises uid handlings handler)
    (hnot : ∀ nativePtr, ¬ Touches nativePtr handling.data) (nativePtr : UInt64)
    (metadata : BitmapMetadata) :
    handler.bitmaps.lookup nativePtr = some metadata ↔
      ∃ before data activityName,
        LastAllocation ((handlings ++ [handling]).map Handling.data) nativePtr before data ∧
        CurrentActivity before activityName ∧ metadata.Describes uid activityName data := by
  rw [hsummary.bitmaps]
  simp only [List.map_append, List.map_cons, List.map_nil, lastAllocation_concat_iff, hnot,
    false_and, not_false_eq_true, true_and, false_or]

theorem Summarises.concat_deallocation (hsummary : Summarises uid handlings handler)
    {total : Int64} (htype : handling.data.type = kBitmapEventTypeDeallocation)
    (htotal : total.toInt = handler.total - handling.data.bitmapSize.toNat) :
    Summarises uid (handlings ++ [handling]) { handler with
      bitmaps := handler.bitmaps.erase handling.data.nativePtr
      currentTotalBitmapSize := total } := by
  have hallocation : ¬ handling.data.type = kBitmapEventTypeAllocation := by
    rw [htype]
    decide
  refine hsummary.concat_of_not hallocation rfl rfl ?_ ?_
  · intro nativePtr metadata
    simp only [List.map_append, List.map_cons, List.map_nil, lastAllocation_concat_iff,
      hallocation, false_and, and_false, false_or]
    by_cases hptr : nativePtr = handling.data.nativePtr
    · subst hptr
      have htouches : Touches handling.data.nativePtr handling.data := ⟨.inr htype, rfl⟩
      simp [htouches]
    · have htouches : ¬ Touches nativePtr handling.data := fun h => hptr h.2.symm
      rw [AList.lookup_erase_ne hptr, hsummary.bitmaps]
      simp [htouches]
  · have hne : ¬ kBitmapEventTypeDeallocation = kBitmapEventTypeAllocation := by decide
    simp only [List.map_append, List.map_cons, List.map_nil, sizeOf_concat, htype, hne, ↓reduceIte,
      BitmapAllocationHandlerV1.total]
    rw [htotal, hsummary.currentTotalBitmapSize]
    omega

theorem Summarises.bitmaps_concat_allocation (hsummary : Summarises uid handlings handler)
    {metadata : BitmapMetadata} (htype : handling.IsAllocation)
    (hcurrent : CurrentActivity (handlings.map Handling.data) handler.activityName)
    (hmetadata : metadata.Describes uid handler.activityName handling.data) (nativePtr : UInt64)
    (other : BitmapMetadata) :
    (handler.bitmaps.insert handling.data.nativePtr metadata).lookup nativePtr = some other ↔
      ∃ before data activityName,
        LastAllocation ((handlings ++ [handling]).map Handling.data) nativePtr before data ∧
        CurrentActivity before activityName ∧ other.Describes uid activityName data := by
  simp only [List.map_append, List.map_cons, List.map_nil, lastAllocation_concat_iff]
  by_cases hptr : nativePtr = handling.data.nativePtr
  · subst hptr
    have htouches : Touches handling.data.nativePtr handling.data := ⟨.inl htype, rfl⟩
    rw [AList.lookup_insert, Option.some.injEq]
    constructor
    · rintro rfl
      exact ⟨_, _, _, .inl ⟨htouches, htype, rfl, rfl⟩, hcurrent, hmetadata⟩
    · rintro ⟨before, data, activityName, ⟨-, -, rfl, rfl⟩ | ⟨hnot, -⟩, hactivity, hother⟩
      · obtain rfl := hcurrent.unique hactivity
        exact hother.unique hmetadata
      · exact absurd htouches hnot
  · have htouches : ¬ Touches nativePtr handling.data := fun h => hptr h.2.symm
    rw [AList.lookup_insert_ne hptr, hsummary.bitmaps]
    simp [htouches]

theorem Summarises.concat_allocation (hsummary : Summarises uid handlings handler)
    {metadata : BitmapMetadata} {total : Int64} (htype : handling.IsAllocation)
    (hcurrent : CurrentActivity (handlings.map Handling.data) handler.activityName)
    (hmetadata : metadata.Describes uid handler.activityName handling.data)
    (htotal : total.toInt = handler.total + handling.data.bitmapSize.toNat)
    (hhandler' : handler' = { handler with
      bitmaps := handler.bitmaps.insert handling.data.nativePtr metadata }.grow
        handling.order total)
    (hrun : (handlerV1 uid).run (handlings ++ [handling]) = some handler') :
    Summarises uid (handlings ++ [handling]) handler' := by
  have hbitmaps : handler'.bitmaps = handler.bitmaps.insert handling.data.nativePtr metadata := by
    rw [hhandler', BitmapAllocationHandlerV1.bitmaps_grow]
  have hvalue : handler'.total = total.toInt := by
    rw [hhandler', BitmapAllocationHandlerV1.total,
      BitmapAllocationHandlerV1.currentTotalBitmapSize_grow]
  have hgreatest := hsummary.maxTotalBitmapSize
  have hnonneg : 0 ≤ handler.maxTotalBitmapSize.toInt := hgreatest.2 (Set.mem_insert _ _)
  have hcases := grow_cases { handler with
    bitmaps := handler.bitmaps.insert handling.data.nativePtr metadata } handling.order total
  rw [← hhandler'] at hcases
  dsimp only at hcases
  refine ⟨?_, ?_, ?_, ?_, ?_⟩
  · rw [hbitmaps]
    exact hsummary.bitmaps_concat_allocation htype hcurrent hmetadata
  · have hne : ¬ kBitmapEventTypeAllocation = kBitmapEventTypeDeallocation := by decide
    have htype' : handling.data.type = kBitmapEventTypeAllocation := htype
    simp only [List.map_append, List.map_cons, List.map_nil, sizeOf_concat, htype', hne, ↓reduceIte]
    rw [hvalue, htotal, hsummary.currentTotalBitmapSize]
    omega
  · rw [valuesAfter_concat htype hrun, hvalue]
    have hinsert := hgreatest.insert total.toInt
    rcases hcases with ⟨hlt, hmax, -⟩ | ⟨hle, hmax, -⟩
    · rw [hmax]
      rwa [max_eq_left hlt.le] at hinsert
    · rwa [max_eq_right hle, ← hmax] at hinsert
  · intro hzero
    rcases hcases with ⟨hlt, hmax, -⟩ | ⟨-, hmax, hsnapshot⟩
    · have htotal_zero : total.toInt = 0 := by
        rw [← hmax, hzero]
        rfl
      omega
    · rw [hmax] at hzero
      rw [hsnapshot]
      exact hsummary.emptySnapshot hzero
  · intro hne
    rcases hcases with ⟨hlt, hmax, hsnapshot⟩ | ⟨-, hmax, hsnapshot⟩
    · rw [hmax, ← hvalue]
      refine ⟨handler', firstAfter_concat hgreatest htype hrun (hvalue ▸ hlt), ?_⟩
      rw [BitmapAllocationHandlerV1.alive, hbitmaps]
      exact hsnapshot
    · rw [hmax] at hne ⊢
      rw [hsnapshot]
      obtain ⟨peak, hfirst, hperm⟩ := hsummary.bitmapSnapshotAtMaxSize hne
      exact ⟨peak, hfirst.mono, hperm⟩

/-- What a call makes of a summary, and of the name it goes with. -/
theorem Summarises.concat
    (hsummary : Summarises uid handlings handler)
    (hcurrent : CurrentActivity (handlings.map Handling.data) handler.activityName)
    (hstep : handle uid handler handling = some handler')
    (hrun : (handlerV1 uid).run (handlings ++ [handling]) = some handler') :
    Summarises uid (handlings ++ [handling]) handler' ∧
      CurrentActivity ((handlings ++ [handling]).map Handling.data) handler'.activityName := by
  rw [List.map_append, List.map_cons, List.map_nil]
  rcases handle_cases hstep with ⟨htype, metadata, total, hmetadata, htotal, hhandler'⟩ |
    ⟨htype, total, htotal, rfl⟩ | ⟨htype, activityName, hname, rfl⟩ |
    ⟨hallocation, hdeallocation, hstart, rfl⟩
  · have hstart : ¬ StartsActivity handling.data := by
      rw [StartsActivity, show handling.data.type = kBitmapEventTypeAllocation from htype]
      decide
    refine ⟨hsummary.concat_allocation htype hcurrent hmetadata htotal hhandler' hrun, ?_⟩
    have hactivity : handler'.activityName = handler.activityName := by
      rw [hhandler', BitmapAllocationHandlerV1.grow]
      split <;> rfl
    rw [hactivity]
    exact hcurrent.concat_of_not hstart
  · have hstart : ¬ StartsActivity handling.data := by
      rw [StartsActivity, htype]
      decide
    exact ⟨hsummary.concat_deallocation htype htotal, hcurrent.concat_of_not hstart⟩
  · have hallocation : ¬ handling.data.type = kBitmapEventTypeAllocation := by
      rw [show handling.data.type = kBitmapEventTypeActivityStart from htype]
      decide
    have hdeallocation : ¬ handling.data.type = kBitmapEventTypeDeallocation := by
      rw [show handling.data.type = kBitmapEventTypeActivityStart from htype]
      decide
    refine ⟨hsummary.concat_of_not hallocation rfl rfl
      (hsummary.bitmaps_of_not_touches fun nativePtr htouches => ?_) ?_, ?_⟩
    · exact htouches.1.elim hallocation hdeallocation
    · simp only [List.map_append, List.map_cons, List.map_nil, sizeOf_concat, hallocation,
        hdeallocation, ↓reduceIte, add_zero]
      exact hsummary.currentTotalBitmapSize
    · exact .inl ⟨_, handling.data, latest_concat_iff.2 (.inl ⟨htype, rfl, rfl⟩), hname⟩
  · refine ⟨hsummary.concat_of_not hallocation rfl rfl
      (hsummary.bitmaps_of_not_touches fun nativePtr htouches => ?_) ?_,
      hcurrent.concat_of_not hstart⟩
    · exact htouches.1.elim hallocation hdeallocation
    · have hallocation' : ¬ handling.data.type = kBitmapEventTypeAllocation := hallocation
      simp only [List.map_append, List.map_cons, List.map_nil, sizeOf_concat, hallocation',
        hdeallocation, ↓reduceIte, add_zero]
      exact hsummary.currentTotalBitmapSize

end Step

theorem summarises_of_run {uid : Int32} {handlings : List Handling}
    {handler : BitmapAllocationHandlerV1} (hrun : (handlerV1 uid).run handlings = some handler) :
    Summarises uid handlings handler ∧
      CurrentActivity (handlings.map Handling.data) handler.activityName := by
  induction handlings using List.reverseRecOn generalizing handler with
  | nil =>
      cases hrun
      exact ⟨summarises_nil uid, .inr ⟨by simp, rfl⟩⟩
  | append_singleton handlings handling ih =>
      have hlast := hrun
      simp only [Machine.run_concat, Option.bind_eq_some_iff] at hlast
      obtain ⟨before, hbefore, hstep⟩ := hlast
      obtain ⟨hsummary, hcurrent⟩ := ih hbefore
      exact hsummary.concat hcurrent hstep hrun

/-! What is reported at the end. -/

section Finish

variable {writer : AtomWriter} {snapshotId : Int64} {snapshotType : Int32} {n : Nat}
  {metadatas : List BitmapMetadata}

theorem trace_writeSnapshot
    (hok : (BitmapAllocationHandlerV1.writeSnapshot writer snapshotId snapshotType n
      metadatas).outcome = .ok ()) :
    (BitmapAllocationHandlerV1.writeSnapshot writer snapshotId snapshotType n metadatas).trace =
      metadatas.map (snapshotAtom snapshotId snapshotType) := by
  induction metadatas generalizing n with
  | nil => rfl
  | cons metadata rest ih =>
      obtain ⟨_, hwrite, hrest⟩ := Run.bind_eq_ok_iff.1 hok
      have htrace : (writer.writeCodegen n
          (snapshotAtom snapshotId snapshotType metadata)).trace =
          [snapshotAtom snapshotId snapshotType metadata] := AtomWriter.trace_writeCodegen ..
      rw [BitmapAllocationHandlerV1.writeSnapshot, Run.bind_of_ok hwrite, List.map_cons, ih hrest]
      exact congrArg (· ++ _) htrace

theorem writeSnapshot_ok (hwriter : ∀ n, writer n = .ok ()) :
    (BitmapAllocationHandlerV1.writeSnapshot writer snapshotId snapshotType n
      metadatas).outcome = .ok () := by
  induction metadatas generalizing n with
  | nil => rfl
  | cons metadata rest ih =>
      exact Run.bind_eq_ok_iff.2 ⟨(), AtomWriter.outcome_writeCodegen (hwriter n), ih⟩

end Finish

theorem reportsSnapshots (handler : BitmapAllocationHandlerV1) : ReportsSnapshots handler where
  written := by
    intro order writer snapshotIdAtMaxSize snapshotIdAtEnd hok
    obtain ⟨_, hmax, hend⟩ := Run.bind_eq_ok_iff.1 hok
    refine ⟨BitmapAllocationHandlerV1.values order handler.bitmaps,
      (order.entries_perm handler.bitmaps).map _, ?_⟩
    rw [BitmapAllocationHandlerV1.onFinished, Run.bind_of_ok hmax, trace_writeSnapshot hmax,
      trace_writeSnapshot hend]
  succeeds := by
    intro order writer snapshotIdAtMaxSize snapshotIdAtEnd hwriter
    exact Run.bind_eq_ok_iff.2 ⟨(), writeSnapshot_ok hwriter, writeSnapshot_ok hwriter⟩

/-- After every run of calls that returned `Ok`, the four fields of the handler
are what the records say, and its two snapshots are written in full. -/
theorem handler_after_run {uid : Int32} {handlings : List Handling}
    {handler : BitmapAllocationHandlerV1} (hrun : (handlerV1 uid).run handlings = some handler) :
    Summarises uid handlings handler ∧ ReportsSnapshots handler :=
  ⟨(summarises_of_run hrun).1, reportsSnapshots handler⟩

/-- One allocation, with a writer that succeeds. -/
def Handling.allocating (data : BitmapEvent) : Handling where
  order := ⟨fun m => m.entries, fun _ => List.Perm.refl _⟩
  writer _ := .ok ()
  data := data

/-- A record of a type, about a bitmap of ten by twenty pixels. -/
def tenByTwenty (type : UInt32) : BitmapEvent where
  type := type
  width := 10
  height := 20
  scaledWidth := 5
  scaledHeight := 10
  pixelStorageType := 1
  bitmapSize := 800
  nativePtr := 4096
  activityName := List.replicate maxStringLength 0
  activityName_length := length_zeros

theorem handler_after_run_allocation : ∃ handler,
    (handlerV1 1000).run [.allocating (tenByTwenty kBitmapEventTypeAllocation)] = some handler ∧
      Summarises 1000 [.allocating (tenByTwenty kBitmapEventTypeAllocation)] handler ∧
      ReportsSnapshots handler :=
  ⟨_, rfl, handler_after_run rfl⟩

/-! The two handlers side by side. -/

/-- The first handler on a list of records, as far as it returns `Ok`. -/
def reportV0 (uid : Int32) : List Handling → Run CodegenAtom AnyError Unit
  | [] => return ()
  | handling :: rest => do
      BitmapAllocationHandlerV0.onItem uid handling.writer handling.data
      reportV0 uid rest

/-- The second handler on a list of records, as far as it returns `Ok`. -/
def reportV1 (uid : Int32) :
    BitmapAllocationHandlerV1 → List Handling → Run CodegenAtom AnyError Unit
  | _, [] => return ()
  | handler, handling :: rest => do
      (handler.onItem handling.order uid handling.writer handling.data).1
      reportV1 uid (handler.onItem handling.order uid handling.writer handling.data).2 rest

/-- The atoms that report an allocation. -/
def isAllocated : CodegenAtom → Bool
  | .androidGraphicsBitmapAllocated .. => true
  | _ => false

/-- The atom of one record. -/
def allocatedAtom (uid : Int32) (handling : Handling) : CodegenAtom :=
  .androidGraphicsBitmapAllocated uid (Int32.ofNat handling.data.width.toNat)
    (Int32.ofNat handling.data.height.toNat)

theorem tryIntoI32_eq {n : Nat} {value : Int32} (hok : tryIntoI32 n = .ok value) :
    value = Int32.ofNat n := by
  unfold tryIntoI32 at hok
  split at hok
  · cases hok
    rfl
  · cases hok

/-- Every record becomes an atom. -/
theorem trace_onItemV0 {uid : Int32} {handling : Handling}
    (hok : (BitmapAllocationHandlerV0.onItem uid handling.writer handling.data).outcome = .ok ()) :
    (BitmapAllocationHandlerV0.onItem uid handling.writer handling.data).trace =
      [allocatedAtom uid handling] := by
  unfold BitmapAllocationHandlerV0.onItem at hok ⊢
  obtain ⟨width, hwidth, hrest⟩ := Run.bind_eq_ok_iff.1 hok
  obtain ⟨height, hheight, -⟩ := Run.bind_eq_ok_iff.1 hrest
  rw [Run.outcome_ofExcept_eq_ok_iff] at hwidth hheight
  rw [hwidth, hheight, Run.bind_ofExcept_ok, Run.bind_ofExcept_ok, AtomWriter.trace_writeCodegen,
    tryIntoI32_eq hwidth, tryIntoI32_eq hheight, allocatedAtom]

theorem trace_logAllocation {uid : Int32} {handling : Handling} {activityName : String}
    {metadata : BitmapMetadata}
    (hok : (logAllocation uid handling.writer activityName handling.data).outcome =
      .ok metadata) :
    (logAllocation uid handling.writer activityName handling.data).trace =
      [allocatedAtom uid handling] := by
  unfold logAllocation at hok ⊢
  obtain ⟨width, hwidth, hrest⟩ := Run.bind_eq_ok_iff.1 hok
  obtain ⟨height, hheight, hrest⟩ := Run.bind_eq_ok_iff.1 hrest
  obtain ⟨pixelStorageType, hpixel, -⟩ := Run.bind_eq_ok_iff.1 hrest
  rw [Run.outcome_ofExcept_eq_ok_iff] at hwidth hheight hpixel
  rw [hwidth, hheight, hpixel, Run.bind_ofExcept_ok, Run.bind_ofExcept_ok, Run.bind_ofExcept_ok,
    Run.trace_bind_of_nil fun _ => rfl, AtomWriter.trace_writeCodegen, tryIntoI32_eq hwidth,
    tryIntoI32_eq hheight, allocatedAtom]

theorem logScaled_all_not_allocated (uid : Int32) (writer : AtomWriter) (activityName : String)
    (data : BitmapEvent) :
    (logScaled uid writer activityName data).All fun atom => isAllocated atom = false := by
  unfold logScaled
  repeat refine Run.All.bind (Run.All.of_trace_eq_nil (Run.trace_ofExcept _)) fun _ => ?_
  intro atom hmem
  rw [AtomWriter.trace_writeCodegen] at hmem
  rw [List.mem_singleton.1 hmem]
  rfl

/-- Only the record of an allocation becomes an atom of one. -/
theorem allocated_onItemV1 {uid : Int32} {handler : BitmapAllocationHandlerV1}
    {handling : Handling}
    (hok : (handler.onItem handling.order uid handling.writer handling.data).1.outcome = .ok ()) :
    (handler.onItem handling.order uid handling.writer handling.data).1.trace.filter isAllocated =
      if handling.data.type = kBitmapEventTypeAllocation then [allocatedAtom uid handling]
      else [] := by
  unfold BitmapAllocationHandlerV1.onItem at hok ⊢
  split at hok
  · rename_i htype
    simp only [htype, ↓reduceIte]
    unfold BitmapAllocationHandlerV1.onAllocation at hok ⊢
    cases hlogged : (logAllocation uid handling.writer handler.activityName
        handling.data).outcome with
    | panic => simp [hlogged] at hok
    | error e => simp [hlogged] at hok
    | ok metadata =>
        have htrace := trace_logAllocation hlogged
        simp only [hlogged] at hok ⊢
        split at hok
        · cases hok
        · cases hok
        · rw [htrace]
          rfl
  · rename_i htype
    simp only [htype, ↓reduceIte]
    split
    · unfold BitmapAllocationHandlerV1.onDeallocation
      split <;> rfl
    · split
      · unfold BitmapAllocationHandlerV1.onActivityStart
        split <;> rfl
      · split
        · rw [List.filter_eq_nil_iff]
          intro atom hmem
          simp [logScaled_all_not_allocated _ _ _ _ atom hmem]
        · rfl

theorem allocated_reportV0 {uid : Int32} {handlings : List Handling}
    (hok : (reportV0 uid handlings).outcome = .ok ()) :
    (reportV0 uid handlings).trace.filter isAllocated = handlings.map (allocatedAtom uid) := by
  induction handlings with
  | nil => rfl
  | cons handling rest ih =>
      obtain ⟨_, hfirst, hrest⟩ := Run.bind_eq_ok_iff.1 hok
      rw [reportV0, Run.bind_of_ok hfirst, List.filter_append, trace_onItemV0 hfirst, ih hrest]
      rfl

theorem allocated_reportV1 {uid : Int32} {handler : BitmapAllocationHandlerV1}
    {handlings : List Handling} (hok : (reportV1 uid handler handlings).outcome = .ok ()) :
    (reportV1 uid handler handlings).trace.filter isAllocated =
      (handlings.filter fun handling => handling.data.type = kBitmapEventTypeAllocation).map
        (allocatedAtom uid) := by
  induction handlings generalizing handler with
  | nil => rfl
  | cons handling rest ih =>
      obtain ⟨_, hfirst, hrest⟩ := Run.bind_eq_ok_iff.1 hok
      rw [reportV1, Run.bind_of_ok hfirst, List.filter_append, allocated_onItemV1 hfirst, ih hrest]
      by_cases htype : handling.data.type = kBitmapEventTypeAllocation
      · simp [htype]
      · simp [htype]

/-- Where neither handler fails, they report the same allocations, one for each
there was, when there is no other record. -/
theorem handlers_report_same_allocations_iff {uid : Int32} {handlings : List Handling}
    (hv0 : (reportV0 uid handlings).outcome = .ok ())
    (hv1 : (reportV1 uid .default handlings).outcome = .ok ()) :
    ((reportV0 uid handlings).trace.filter isAllocated =
        (reportV1 uid .default handlings).trace.filter isAllocated ∧
      (reportV0 uid handlings).trace.filter isAllocated =
        (handlings.filter fun handling => handling.IsAllocation).map (allocatedAtom uid)) ↔
      ∀ handling ∈ handlings, handling.IsAllocation := by
  rw [allocated_reportV0 hv0, allocated_reportV1 hv1]
  constructor
  · rintro ⟨heq, -⟩
    have hlength := congrArg List.length heq
    rw [List.length_map, List.length_map, eq_comm, List.length_filter_eq_length_iff] at hlength
    intro handling hmem
    exact of_decide_eq_true (hlength handling hmem)
  · intro hall
    have hfilter : (handlings.filter fun handling => handling.IsAllocation) = handlings :=
      List.filter_eq_self.2 fun handling hmem => decide_eq_true (hall handling hmem)
    rw [hfilter]
    exact ⟨congrArg _ hfilter.symm, rfl⟩

theorem handlers_report_same_allocations_iff_one :
    ((reportV0 1000 [.allocating (tenByTwenty kBitmapEventTypeAllocation)]).trace.filter
          isAllocated =
        (reportV1 1000 .default [.allocating (tenByTwenty kBitmapEventTypeAllocation)]).trace.filter
          isAllocated ∧
      (reportV0 1000 [.allocating (tenByTwenty kBitmapEventTypeAllocation)]).trace.filter
          isAllocated =
        ([Handling.allocating (tenByTwenty kBitmapEventTypeAllocation)].filter
          fun handling => handling.IsAllocation).map (allocatedAtom 1000)) ↔
      ∀ handling ∈ [Handling.allocating (tenByTwenty kBitmapEventTypeAllocation)],
        handling.IsAllocation :=
  handlers_report_same_allocations_iff rfl rfl

/-- A scaled bitmap, which only the first handler takes for an allocation. -/
theorem scaled_reported_as_allocation :
    (reportV0 1000 [.allocating (tenByTwenty kBitmapEventTypeBitmapScaled)]).outcome = .ok () ∧
      (reportV1 1000 .default
        [.allocating (tenByTwenty kBitmapEventTypeBitmapScaled)]).outcome = .ok () ∧
      (reportV0 1000 [.allocating (tenByTwenty kBitmapEventTypeBitmapScaled)]).trace.filter
        isAllocated ≠
      (reportV1 1000 .default
        [.allocating (tenByTwenty kBitmapEventTypeBitmapScaled)]).trace.filter isAllocated := by
  refine ⟨rfl, rfl, ?_⟩
  decide

end UprobeStats.Bitmap
