/-
The bitmap programs and their handler together.  Both sides keep the set of
live bitmaps: the programs in `active_bitmaps`, the handler in `bitmaps`, and
the records of the ring buffer are all that keeps them in step.
-/
import UprobeStats.Bitmap
import UprobeStats.Lib.Machine

namespace UprobeStats.Bitmap

open Grouping Memory Transition

/-- The two programs that keep track of live bitmaps. -/
inductive LiveProgram where
  | bitmapCreationForSnapshot
  | applyFreeFunction
deriving DecidableEq, Repr

/-- An execution of one of them in the probed process. -/
structure Execution where
  program : LiveProgram
  ctx : PtRegs
  mem : Image
  currentPidTgid : UInt64
  reserved : Option BitmapEvent

namespace Execution

def run (execution : Execution) (active : ActiveBitmaps) : Executed :=
  match execution.program with
  | .bitmapCreationForSnapshot =>
      UprobeStats.Bitmap.bitmapCreationForSnapshot execution.ctx execution.mem
        execution.currentPidTgid execution.reserved active
  | .applyFreeFunction =>
      UprobeStats.Bitmap.applyFreeFunction execution.ctx execution.mem
        execution.currentPidTgid execution.reserved active

/-- The bitmap that the execution is about. -/
def nativePtr (execution : Execution) : UInt64 :=
  match execution.program with
  | .bitmapCreationForSnapshot => execution.ctx.regs 3
  | .applyFreeFunction => freedPtr execution.ctx execution.mem

end Execution

/-- Both sides, and the records that went from one to the other. -/
structure State where
  active : ActiveBitmaps
  submitted : List BitmapEvent
  handler : BitmapAllocationHandlerV1

section System

variable (order : Iteration UInt64 BitmapMetadata) (uid : Int32) (tgid : UInt64)

/-- `on_item` with a writer that always succeeds, as far as it returns `Ok`. -/
def deliver (handler : BitmapAllocationHandlerV1) (data : BitmapEvent) :
    Option BitmapAllocationHandlerV1 :=
  match (handler.onItem order uid (fun _ => .ok ()) data).1.outcome with
  | .ok _ => some (handler.onItem order uid (fun _ => .ok ()) data).2
  | _ => none

/-- The handler after a list of records. -/
def deliverAll (handler : BitmapAllocationHandlerV1) (records : List BitmapEvent) :
    Option BitmapAllocationHandlerV1 :=
  records.foldl (fun handler data => handler.bind (deliver order uid · data)) (some handler)

/-- An execution in the probed process, and the handling of what it submits.
Nothing flows back from the handler, so it does not matter when it runs. -/
def step (s : State) (execution : Execution) : Option State :=
  if execution.currentPidTgid >>> 32 ≠ tgid then none
  else
    let executed := execution.run s.active
    match executed.submitted with
    | none => some { s with active := executed.active }
    | some data =>
        (deliver order uid s.handler data).map fun handler =>
          ⟨executed.active, s.submitted ++ [data], handler⟩

/-- The probed process and a fresh handler. -/
def system : Machine State Execution where
  init := ⟨∅, [], .default⟩
  step := step order uid tgid

variable {order uid tgid}

/-- Everything that a step can be. -/
theorem step_cases {s s' : State} {execution : Execution}
    (hstep : step order uid tgid s execution = some s') :
    (execution.program = .bitmapCreationForSnapshot ∧ execution.reserved = none ∧ s' = s) ∨
    (∃ output handler, execution.program = .bitmapCreationForSnapshot ∧
      execution.reserved = some output ∧
      deliver order uid s.handler (creationRecord execution.ctx execution.mem output) =
        some handler ∧
      s' = ⟨(bpfActiveBitmapsUpdateElem s.active ⟨tgid, execution.nativePtr⟩).2,
        s.submitted ++ [creationRecord execution.ctx execution.mem output], handler⟩) ∨
    (execution.program = .applyFreeFunction ∧ ⟨tgid, execution.nativePtr⟩ ∉ s.active ∧ s' = s) ∨
    (execution.program = .applyFreeFunction ∧ ⟨tgid, execution.nativePtr⟩ ∈ s.active ∧
      execution.reserved = none ∧
      s' = { s with active := s.active.erase ⟨tgid, execution.nativePtr⟩ }) ∨
    (∃ output handler, execution.program = .applyFreeFunction ∧
      ⟨tgid, execution.nativePtr⟩ ∈ s.active ∧ execution.reserved = some output ∧
      deliver order uid s.handler (freeRecord execution.ctx execution.mem output) =
        some handler ∧
      s' = ⟨s.active.erase ⟨tgid, execution.nativePtr⟩,
        s.submitted ++ [freeRecord execution.ctx execution.mem output], handler⟩) := by
  obtain ⟨program, ctx, mem, currentPidTgid, reserved⟩ := execution
  by_cases htgid : currentPidTgid >>> 32 = tgid
  · cases program with
    | bitmapCreationForSnapshot =>
        cases reserved with
        | none =>
            simp only [step, htgid, ne_eq, not_true_eq_false, ↓reduceIte, Execution.run,
              bitmapCreationForSnapshot, Option.some.injEq] at hstep
            exact .inl ⟨rfl, rfl, hstep.symm⟩
        | some output =>
            simp only [step, htgid, ne_eq, not_true_eq_false, ↓reduceIte, Execution.run,
              bitmapCreationForSnapshot, Option.map_eq_some_iff] at hstep
            obtain ⟨handler, hdeliver, rfl⟩ := hstep
            exact .inr (.inl ⟨output, handler, rfl, rfl, hdeliver, rfl⟩)
    | applyFreeFunction =>
        by_cases hactive : ⟨tgid, freedPtr ctx mem⟩ ∈ s.active
        · cases reserved with
          | none =>
              simp only [step, htgid, ne_eq, not_true_eq_false, ↓reduceIte, Execution.run,
                applyFreeFunction, hactive, Option.some.injEq] at hstep
              exact .inr (.inr (.inr (.inl ⟨rfl, hactive, rfl, hstep.symm⟩)))
          | some output =>
              simp only [step, htgid, ne_eq, not_true_eq_false, ↓reduceIte, Execution.run,
                applyFreeFunction, hactive, Option.map_eq_some_iff] at hstep
              obtain ⟨handler, hdeliver, rfl⟩ := hstep
              exact .inr (.inr (.inr (.inr ⟨output, handler, rfl, hactive, rfl, hdeliver, rfl⟩)))
        · simp only [step, htgid, ne_eq, not_true_eq_false, ↓reduceIte, Execution.run,
            applyFreeFunction, hactive, not_false_eq_true, Option.some.injEq] at hstep
          exact .inr (.inr (.inl ⟨rfl, hactive, hstep.symm⟩))
  · simp [step, htgid] at hstep

theorem deliver_eq_some {handler handler' : BitmapAllocationHandlerV1} {data : BitmapEvent}
    (hdeliver : deliver order uid handler data = some handler') :
    (handler.onItem order uid (fun _ => .ok ()) data).1.outcome = .ok () ∧
      handler' = (handler.onItem order uid (fun _ => .ok ()) data).2 := by
  unfold deliver at hdeliver
  split at hdeliver
  · exact ⟨‹_›, (Option.some.inj hdeliver).symm⟩
  · cases hdeliver

/-- An allocation that is handled makes its bitmap live and adds its size. -/
theorem deliver_creationRecord {handler handler' : BitmapAllocationHandlerV1} {ctx : PtRegs}
    {mem : Image} {output : BitmapEvent}
    (hdeliver : deliver order uid handler (creationRecord ctx mem output) = some handler') :
    ∃ metadata, handler'.bitmaps = handler.bitmaps.insert (ctx.regs 3) metadata ∧
      handler'.currentTotalBitmapSize.toInt = handler.currentTotalBitmapSize.toInt +
        (creationRecord ctx mem output).bitmapSize.toNat := by
  obtain ⟨hok, rfl⟩ := deliver_eq_some hdeliver
  exact BitmapAllocationHandlerV1.onItem_allocation rfl hok

/-- A free that is handled drops its bitmap, and takes off the size that the
ring buffer happened to have in the record. -/
theorem deliver_freeRecord {handler handler' : BitmapAllocationHandlerV1} {ctx : PtRegs}
    {mem : Image} {output : BitmapEvent}
    (hdeliver : deliver order uid handler (freeRecord ctx mem output) = some handler') :
    handler'.bitmaps = handler.bitmaps.erase (freedPtr ctx mem) ∧
      handler'.currentTotalBitmapSize.toInt =
        handler.currentTotalBitmapSize.toInt - output.bitmapSize.toNat := by
  obtain ⟨hok, rfl⟩ := deliver_eq_some hdeliver
  exact BitmapAllocationHandlerV1.onItem_deallocation rfl hok

/-- The handler has seen the submitted records and no others, in their order. -/
def Delivered (order : Iteration UInt64 BitmapMetadata) (uid : Int32) (s : State) : Prop :=
  deliverAll order uid .default s.submitted = some s.handler

theorem Delivered.concat {s : State} (hs : Delivered order uid s) {data : BitmapEvent}
    {handler : BitmapAllocationHandlerV1} {active : ActiveBitmaps}
    (hdeliver : deliver order uid s.handler data = some handler) :
    Delivered order uid ⟨active, s.submitted ++ [data], handler⟩ := by
  rw [Delivered, deliverAll, List.foldl_append, ← deliverAll, hs]
  exact hdeliver

theorem delivered_of_run {executions : List Execution} {s : State}
    (hrun : (system order uid tgid).run executions = some s) : Delivered order uid s := by
  have hinit : Delivered order uid (system order uid tgid).init := rfl
  refine (system order uid tgid).run_invariant hinit ?_ hrun
  intro s execution s' hs hstep
  obtain ⟨-, -, rfl⟩ | ⟨output, handler, -, -, hdeliver, rfl⟩ | ⟨-, -, rfl⟩ | ⟨-, -, -, rfl⟩ |
    ⟨output, handler, -, -, -, hdeliver, rfl⟩ := step_cases hstep
  · exact hs
  · exact hs.concat hdeliver
  · exact hs
  · exact hs
  · exact hs.concat hdeliver

end System

/-! The two sets of live bitmaps. -/

/-- The handler has the pointers of `active_bitmaps` as its keys, so that every
entry the final snapshot walks over is one of an active bitmap. -/
structure LiveSetsAgree (s : State) : Prop where
  keys : s.handler.bitmaps.keys.toFinset = s.active.image BitmapKey.nativePtr
  snapshot : ∀ (order : Iteration UInt64 BitmapMetadata),
    ∀ entry ∈ order.entries s.handler.bitmaps, entry.1 ∈ s.active.image BitmapKey.nativePtr

/-- What the program does to the map, it also reports.  A free of an active
bitmap needs its reservation; an allocation that is reported as a new bitmap
needs room in the map. -/
def Reported (tgid : UInt64) (s : State) (execution : Execution) : Prop :=
  match execution.program with
  | .bitmapCreationForSnapshot =>
      execution.reserved.isSome → ⟨tgid, execution.nativePtr⟩ ∉ s.active →
        s.active.card < activeBitmapsMaxEntries
  | .applyFreeFunction => ⟨tgid, execution.nativePtr⟩ ∈ s.active → execution.reserved.isSome

/-- The invariant: all keys are of the probed process, and the handler knows
exactly their pointers. -/
structure InStep (tgid : UInt64) (s : State) : Prop where
  tgid_eq : ∀ key ∈ s.active, key.tgid = tgid
  mem_bitmaps : ∀ nativePtr, nativePtr ∈ s.handler.bitmaps ↔ ⟨tgid, nativePtr⟩ ∈ s.active

section InStep

variable {order : Iteration UInt64 BitmapMetadata} {uid : Int32} {tgid : UInt64}

theorem mem_image_nativePtr {active : ActiveBitmaps} (htgid : ∀ key ∈ active, key.tgid = tgid)
    {nativePtr : UInt64} :
    nativePtr ∈ active.image BitmapKey.nativePtr ↔ ⟨tgid, nativePtr⟩ ∈ active := by
  rw [Finset.mem_image]
  constructor
  · rintro ⟨key, hkey, rfl⟩
    rw [← htgid key hkey]
    exact hkey
  · intro hmem
    exact ⟨_, hmem, rfl⟩

theorem InStep.liveSetsAgree {s : State} (hs : InStep tgid s) : LiveSetsAgree s := by
  have hkeys : s.handler.bitmaps.keys.toFinset = s.active.image BitmapKey.nativePtr := by
    ext nativePtr
    rw [List.mem_toFinset, ← AList.mem_keys, mem_image_nativePtr hs.tgid_eq, hs.mem_bitmaps]
  refine ⟨hkeys, ?_⟩
  intro order entry hentry
  rw [← hkeys, List.mem_toFinset]
  exact List.mem_map_of_mem ((order.entries_perm _).mem_iff.1 hentry)

/-- An update leaves only keys of the process in the map. -/
theorem mem_bpfActiveBitmapsUpdateElem {active : ActiveBitmaps} {key other : BitmapKey} :
    other ∈ (bpfActiveBitmapsUpdateElem active key).2 ↔
      other ∈ active ∨ other = key ∧ active.card < activeBitmapsMaxEntries := by
  unfold bpfActiveBitmapsUpdateElem
  split
  · rename_i hmem
    constructor
    · exact Or.inl
    · rintro (hother | ⟨rfl, -⟩)
      · exact hother
      · exact hmem
  · split
    · rename_i hfull
      simp [hfull.not_gt]
    · rename_i hroom
      rw [Finset.mem_insert, or_comm]
      simp [not_le.1 hroom]

theorem tgid_eq_of_step {s s' : State} {execution : Execution}
    (hs : ∀ key ∈ s.active, key.tgid = tgid)
    (hstep : step order uid tgid s execution = some s') : ∀ key ∈ s'.active, key.tgid = tgid := by
  have herase : ∀ erased, ∀ key ∈ s.active.erase erased, key.tgid = tgid :=
    fun _ key hkey => hs key (Finset.mem_of_mem_erase hkey)
  obtain ⟨-, -, rfl⟩ | ⟨output, handler, -, -, -, rfl⟩ | ⟨-, -, rfl⟩ | ⟨-, -, -, rfl⟩ |
    ⟨output, handler, -, -, -, -, rfl⟩ := step_cases hstep
  · exact hs
  · intro key hkey
    rcases mem_bpfActiveBitmapsUpdateElem.1 hkey with hkey | ⟨rfl, -⟩
    · exact hs key hkey
    · rfl
  · exact hs
  · exact herase _
  · exact herase _

theorem key_eq_iff {nativePtr other : UInt64} :
    (⟨tgid, other⟩ : BitmapKey) = ⟨tgid, nativePtr⟩ ↔ other = nativePtr := by
  simp

/-- A reported execution keeps the two sides in step. -/
theorem InStep.step {s s' : State} {execution : Execution} (hs : InStep tgid s)
    (hreported : Reported tgid s execution)
    (hstep : step order uid tgid s execution = some s') : InStep tgid s' := by
  refine ⟨tgid_eq_of_step hs.tgid_eq hstep, ?_⟩
  intro nativePtr
  obtain ⟨-, -, rfl⟩ | ⟨output, handler, hprogram, hreserved, hdeliver, rfl⟩ | ⟨-, -, rfl⟩ |
    ⟨hprogram, hactive, hreserved, -⟩ |
    ⟨output, handler, hprogram, hactive, -, hdeliver, rfl⟩ := step_cases hstep
  · exact hs.mem_bitmaps nativePtr
  · obtain ⟨metadata, hbitmaps, -⟩ := deliver_creationRecord hdeliver
    have hptr : execution.nativePtr = execution.ctx.regs 3 := by
      simp [Execution.nativePtr, hprogram]
    simp only [Reported, hprogram, hreserved, Option.isSome_some, forall_const] at hreported
    rw [hbitmaps, AList.mem_insert, mem_bpfActiveBitmapsUpdateElem, hs.mem_bitmaps, key_eq_iff,
      hptr]
    constructor
    · rintro (rfl | hmem)
      · by_cases hactive : ⟨tgid, execution.ctx.regs 3⟩ ∈ s.active
        · exact .inl hactive
        · exact .inr ⟨rfl, hreported (hptr ▸ hactive)⟩
      · exact .inl hmem
    · rintro (hmem | ⟨rfl, -⟩)
      · exact .inr hmem
      · exact .inl rfl
  · exact hs.mem_bitmaps nativePtr
  · -- a free without a reservation is not reported
    simp only [Reported, hprogram, hreserved, Option.isSome_none] at hreported
    exact absurd (hreported hactive) (by decide)
  · obtain ⟨hbitmaps, -⟩ := deliver_freeRecord hdeliver
    have hptr : execution.nativePtr = freedPtr execution.ctx execution.mem := by
      simp [Execution.nativePtr, hprogram]
    rw [hbitmaps, AList.mem_erase, Finset.mem_erase, hs.mem_bitmaps]
    simp only [ne_eq, key_eq_iff, hptr]

/-- An execution that is not reported leaves a pointer on one side only. -/
theorem InStep.not_liveSetsAgree {s s' : State} {execution : Execution} (hs : InStep tgid s)
    (hreported : ¬ Reported tgid s execution)
    (hstep : UprobeStats.Bitmap.step order uid tgid s execution = some s') :
    ¬ LiveSetsAgree s' := by
  have htgid := tgid_eq_of_step hs.tgid_eq hstep
  -- which side has the pointer after the step
  suffices hptr : ¬ (execution.nativePtr ∈ s'.handler.bitmaps ↔
      ⟨tgid, execution.nativePtr⟩ ∈ s'.active) by
    intro hagree
    apply hptr
    rw [← mem_image_nativePtr htgid, ← hagree.keys, List.mem_toFinset, AList.mem_keys]
  obtain ⟨hprogram, hreserved, -⟩ | ⟨output, handler, hprogram, hreserved, hdeliver, rfl⟩ |
    ⟨hprogram, hactive, -⟩ | ⟨hprogram, hactive, hreserved, rfl⟩ |
    ⟨output, handler, hprogram, hactive, hreserved, -, -⟩ := step_cases hstep
  · simp [Reported, hprogram, hreserved] at hreported
  · obtain ⟨metadata, hbitmaps, -⟩ := deliver_creationRecord hdeliver
    simp only [Reported, hprogram, hreserved, Option.isSome_some, forall_const, not_forall,
      not_lt] at hreported
    obtain ⟨hactive, hfull⟩ := hreported
    have hptr : execution.nativePtr = execution.ctx.regs 3 := by
      simp [Execution.nativePtr, hprogram]
    have hlive : execution.nativePtr ∈ handler.bitmaps := by
      rw [hbitmaps, AList.mem_insert, hptr]
      exact .inl rfl
    intro hiff
    rcases mem_bpfActiveBitmapsUpdateElem.1 (hiff.1 hlive) with hmem | ⟨-, hroom⟩
    · exact hactive hmem
    · exact absurd hroom hfull.not_gt
  · simp [Reported, hprogram, hactive] at hreported
  · have hlive := (hs.mem_bitmaps execution.nativePtr).2 hactive
    intro hiff
    exact Finset.notMem_erase _ _ (hiff.1 hlive)
  · simp [Reported, hprogram, hreserved] at hreported

end InStep

/-- The two sets agree throughout a run exactly when every execution in it is
reported. -/
theorem liveSetsAgree_iff_reported (order : Iteration UInt64 BitmapMetadata) (uid : Int32)
    (tgid : UInt64) (executions : List Execution) :
    (∀ s, (system order uid tgid).Visits executions s → LiveSetsAgree s) ↔
      ∀ s execution s', (system order uid tgid).Takes executions s execution s' →
        Reported tgid s execution := by
  apply (system order uid tgid).visits_safe_iff_guarded (InStep tgid)
  · exact ⟨by simp [system], by simp [system, BitmapAllocationHandlerV1.default]⟩
  · exact fun s hs => hs.liveSetsAgree
  · exact fun s execution s' hs hreported hstep => hs.step hreported hstep
  · exact fun s execution s' hs hreported hstep => hs.not_liveSetsAgree hreported hstep

/-- A ring buffer record of zeros. -/
def zeroRecord : BitmapEvent where
  type := 0
  width := 0
  height := 0
  scaledWidth := 0
  scaledHeight := 0
  pixelStorageType := 0
  bitmapSize := 0
  nativePtr := 0
  activityName := List.replicate maxStringLength 0
  activityName_length := length_zeros

/-- An object at 0x2000 whose bytes 16 to 23 are the pointer 0x1000. -/
def freeArgument : Image := ofObjects [(0x2010, toLittleEndian 8 0x1000)]

/-- A bitmap is allocated at 0x1000, and its free finds the ring buffer full. -/
def lostFree : List Execution := [
  ⟨.bitmapCreationForSnapshot, ⟨fun register => if register = 3 then 0x1000 else 0⟩, freeArgument,
    0, some zeroRecord⟩,
  ⟨.applyFreeFunction, ⟨fun register => if register = 1 then 0x2000 else 0⟩, freeArgument, 0,
    none⟩]

/-- The bitmap stays in the final snapshot although it is gone. -/
theorem lostFree_not_liveSetsAgree :
    ∃ s, (system .asStored 10001 0).run lostFree = some s ∧
      s.handler.bitmaps.keys = [0x1000] ∧ s.active = ∅ ∧ ¬ LiveSetsAgree s := by
  have hrun : ((system .asStored 10001 0).run lostFree).map
      (fun s => (s.handler.bitmaps.keys, s.active)) = some ([0x1000], ∅) := by
    decide +kernel
  obtain ⟨s, hs, hvalue⟩ := Option.map_eq_some_iff.1 hrun
  obtain ⟨hkeys, hactive⟩ := Prod.mk.inj hvalue
  refine ⟨s, hs, hkeys, hactive, ?_⟩
  intro hagree
  have hset := hagree.keys
  rw [hkeys, hactive] at hset
  exact absurd hset (by decide)

/-! The sizes. -/

/-- The size in the last allocation record of a bitmap. -/
def recordedSize (submitted : List BitmapEvent) (nativePtr : UInt64) : Nat :=
  ((submitted.reverse.find? fun record =>
    record.type = kBitmapEventTypeAllocation ∧ record.nativePtr = nativePtr).map
      fun record => record.bitmapSize.toNat).getD 0

/-- The sizes that were recorded for the bitmaps that are still alive. -/
def liveSize (s : State) : Nat :=
  (s.handler.bitmaps.keys.map (recordedSize s.submitted)).sum

/-- The total is the size of what is alive, so it is not negative. -/
structure SizesAddUp (s : State) : Prop where
  total : s.handler.currentTotalBitmapSize.toInt = liveSize s
  nonneg : 0 ≤ s.handler.currentTotalBitmapSize.toInt

/-- All reservations and updates succeed, and no two bitmaps that are alive at
the same time have the same address. -/
def Undisturbed (tgid : UInt64) (s : State) (execution : Execution) : Prop :=
  execution.reserved.isSome ∧ (execution.program = .bitmapCreationForSnapshot →
    ⟨tgid, execution.nativePtr⟩ ∉ s.active ∧ s.active.card < activeBitmapsMaxEntries)

instance (tgid : UInt64) (s : State) (execution : Execution) :
    Decidable (Undisturbed tgid s execution) :=
  inferInstanceAs (Decidable (_ ∧ _))

/-- The record that a free gets hold of still has the size of the freed bitmap
in it. -/
def SizeLeftBehind (tgid : UInt64) (s : State) (execution : Execution) : Prop :=
  execution.program = .applyFreeFunction → ⟨tgid, execution.nativePtr⟩ ∈ s.active →
    ∀ output, execution.reserved = some output →
      output.bitmapSize.toNat = recordedSize s.submitted execution.nativePtr

theorem recordedSize_concat (submitted : List BitmapEvent) (record : BitmapEvent)
    (nativePtr : UInt64) :
    recordedSize (submitted ++ [record]) nativePtr =
      if record.type = kBitmapEventTypeAllocation ∧ record.nativePtr = nativePtr then
        record.bitmapSize.toNat
      else recordedSize submitted nativePtr := by
  rw [recordedSize, List.reverse_concat, List.find?_cons]
  by_cases hrecord : record.type = kBitmapEventTypeAllocation ∧ record.nativePtr = nativePtr
  · simp [hrecord]
  · simp [hrecord, recordedSize]

section Sizes

variable {order : Iteration UInt64 BitmapMetadata} {uid : Int32} {tgid : UInt64}

theorem Undisturbed.reported {s : State} {execution : Execution}
    (hundisturbed : Undisturbed tgid s execution) : Reported tgid s execution := by
  obtain ⟨hreserved, hcreation⟩ := hundisturbed
  unfold Reported
  split
  · rename_i hprogram
    exact fun _ _ => (hcreation hprogram).2
  · exact fun _ => hreserved

/-- An allocation of a bitmap that is not alive adds its recorded size. -/
theorem liveSize_creation {s : State} {handler : BitmapAllocationHandlerV1} {ctx : PtRegs}
    {mem : Image} {output : BitmapEvent} {metadata : BitmapMetadata} {active : ActiveBitmaps}
    (hfresh : ctx.regs 3 ∉ s.handler.bitmaps)
    (hbitmaps : handler.bitmaps = s.handler.bitmaps.insert (ctx.regs 3) metadata) :
    liveSize ⟨active, s.submitted ++ [creationRecord ctx mem output], handler⟩ =
      liveSize s + (creationRecord ctx mem output).bitmapSize.toNat := by
  rw [AList.mem_keys] at hfresh
  have hothers : ∀ nativePtr ∈ s.handler.bitmaps.keys,
      recordedSize (s.submitted ++ [creationRecord ctx mem output]) nativePtr =
        recordedSize s.submitted nativePtr := by
    intro nativePtr hmem
    rw [recordedSize_concat, if_neg]
    rintro ⟨-, rfl⟩
    exact hfresh hmem
  have hthis : recordedSize (s.submitted ++ [creationRecord ctx mem output]) (ctx.regs 3) =
      (creationRecord ctx mem output).bitmapSize.toNat := by
    rw [recordedSize_concat]
    exact if_pos ⟨rfl, rfl⟩
  rw [liveSize, hbitmaps, AList.keys_insert, List.erase_of_not_mem hfresh, List.map_cons,
    List.sum_cons, hthis, List.map_congr_left hothers, ← liveSize, Nat.add_comm]

/-- A free takes the recorded size of its bitmap away. -/
theorem liveSize_free {s : State} {handler : BitmapAllocationHandlerV1} {ctx : PtRegs}
    {mem : Image} {output : BitmapEvent} {active : ActiveBitmaps}
    (halive : freedPtr ctx mem ∈ s.handler.bitmaps)
    (hbitmaps : handler.bitmaps = s.handler.bitmaps.erase (freedPtr ctx mem)) :
    recordedSize s.submitted (freedPtr ctx mem) +
        liveSize ⟨active, s.submitted ++ [freeRecord ctx mem output], handler⟩ = liveSize s := by
  have hsame : recordedSize (s.submitted ++ [freeRecord ctx mem output]) =
      recordedSize s.submitted := by
    funext nativePtr
    rw [recordedSize_concat, if_neg]
    rintro ⟨htype, -⟩
    exact absurd htype (by simp [freeRecord, kBitmapEventTypeDeallocation,
      kBitmapEventTypeAllocation])
  rw [liveSize, hbitmaps, AList.keys_erase, hsame, liveSize]
  exact List.sum_map_erase (recordedSize s.submitted) (AList.mem_keys.1 halive)

/-- How an undisturbed execution changes the total and the live size. -/
theorem sizes_step {s s' : State} {execution : Execution} (hs : InStep tgid s)
    (hundisturbed : Undisturbed tgid s execution)
    (hstep : step order uid tgid s execution = some s') :
    (s'.handler.currentTotalBitmapSize.toInt - s.handler.currentTotalBitmapSize.toInt =
        (liveSize s' : Int) - liveSize s ∧ SizeLeftBehind tgid s execution) ∨
      ∃ output, execution.program = .applyFreeFunction ∧
        ⟨tgid, execution.nativePtr⟩ ∈ s.active ∧ execution.reserved = some output ∧
        s'.handler.currentTotalBitmapSize.toInt =
          s.handler.currentTotalBitmapSize.toInt - output.bitmapSize.toNat ∧
        recordedSize s.submitted execution.nativePtr + liveSize s' = liveSize s := by
  obtain ⟨hprogram, -, rfl⟩ | ⟨output, handler, hprogram, hreserved, hdeliver, rfl⟩ |
    ⟨hprogram, hactive, rfl⟩ | ⟨-, -, hreserved, -⟩ |
    ⟨output, handler, hprogram, hactive, hreserved, hdeliver, rfl⟩ := step_cases hstep
  · refine .inl ⟨by omega, ?_⟩
    intro hfree
    rw [hprogram] at hfree
    cases hfree
  · obtain ⟨metadata, hbitmaps, htotal⟩ := deliver_creationRecord hdeliver
    have hptr : execution.nativePtr = execution.ctx.regs 3 := by
      simp [Execution.nativePtr, hprogram]
    have hfresh : execution.ctx.regs 3 ∉ s.handler.bitmaps := by
      rw [hs.mem_bitmaps, ← hptr]
      exact (hundisturbed.2 hprogram).1
    refine .inl ⟨?_, ?_⟩
    · rw [liveSize_creation hfresh hbitmaps]
      push_cast
      omega
    · intro hfree
      rw [hprogram] at hfree
      cases hfree
  · exact .inl ⟨by omega, fun _ hmem => absurd hmem hactive⟩
  · have hsome := hundisturbed.1
    rw [hreserved] at hsome
    cases hsome
  · obtain ⟨hbitmaps, htotal⟩ := deliver_freeRecord hdeliver
    have hptr : execution.nativePtr = freedPtr execution.ctx execution.mem := by
      simp [Execution.nativePtr, hprogram]
    have halive : freedPtr execution.ctx execution.mem ∈ s.handler.bitmaps := by
      rw [hs.mem_bitmaps, ← hptr]
      exact hactive
    refine .inr ⟨output, hprogram, hactive, hreserved, htotal, ?_⟩
    rw [hptr]
    exact liveSize_free halive hbitmaps

end Sizes

/-- In an undisturbed run the total follows the live set exactly as long as
every free finds the size of its bitmap in the record it reserved. -/
theorem sizesAddUp_iff_sizeLeftBehind (order : Iteration UInt64 BitmapMetadata) (uid : Int32)
    (tgid : UInt64) (executions : List Execution) :
    (∀ s, ((system order uid tgid).restrict (Undisturbed tgid)).Visits executions s →
        SizesAddUp s) ↔
      ∀ s execution s',
        ((system order uid tgid).restrict (Undisturbed tgid)).Takes executions s execution s' →
          SizeLeftBehind tgid s execution := by
  apply ((system order uid tgid).restrict (Undisturbed tgid)).visits_safe_iff_guarded
    (fun s => InStep tgid s ∧ SizesAddUp s)
  · refine ⟨⟨by simp [system, Machine.restrict], by simp [system, Machine.restrict,
      BitmapAllocationHandlerV1.default]⟩, ⟨?_, ?_⟩⟩
    · simp [system, Machine.restrict, BitmapAllocationHandlerV1.default, liveSize]
    · simp [system, Machine.restrict, BitmapAllocationHandlerV1.default]
  · exact fun s hs => hs.2
  · rintro s execution s' ⟨hinStep, hsizes⟩ hleft hstep
    obtain ⟨hundisturbed, hstep⟩ := Machine.step_restrict.1 hstep
    refine ⟨hinStep.step hundisturbed.reported hstep, ?_⟩
    have htotal := hsizes.total
    have hnext : s'.handler.currentTotalBitmapSize.toInt = liveSize s' := by
      obtain ⟨hdiff, -⟩ | ⟨output, hprogram, hactive, hreserved, hafter, hlive⟩ :=
        sizes_step hinStep hundisturbed hstep
      · omega
      · have hsize := hleft hprogram hactive output hreserved
        omega
    exact ⟨hnext, by omega⟩
  · rintro s execution s' ⟨hinStep, hsizes⟩ hleft hstep hsizes'
    obtain ⟨hundisturbed, hstep⟩ := Machine.step_restrict.1 hstep
    have htotal := hsizes.total
    have htotal' := hsizes'.total
    obtain ⟨-, hkept⟩ | ⟨output, hprogram, hactive, hreserved, hafter, hlive⟩ :=
      sizes_step hinStep hundisturbed hstep
    · exact hleft hkept
    · apply hleft
      intro _ _ other hother
      obtain rfl : output = other := Option.some.inj (hreserved.symm.trans hother)
      omega

/-- A bitmap of size 64 is allocated at 0x1000 and freed; the record of the
free has the size 100 left over from an earlier event. -/
def staleFree : List Execution := [
  ⟨.bitmapCreationForSnapshot, ⟨fun register => if register = 3 then 0x1000 else 0⟩,
    ofObjects [(0x1000, toLittleEndian 8 0x3000), (0x3098, toLittleEndian 4 64)], 0,
    some zeroRecord⟩,
  ⟨.applyFreeFunction, ⟨fun register => if register = 1 then 0x2000 else 0⟩, freeArgument, 0,
    some { zeroRecord with bitmapSize := 100 }⟩]

/-- Nothing is alive any more, and the total is negative. -/
theorem staleFree_not_sizesAddUp :
    ∃ s, ((system .asStored 10001 0).restrict (Undisturbed 0)).run staleFree = some s ∧
      s.handler.bitmaps.keys = [] ∧ s.handler.currentTotalBitmapSize = -36 ∧ ¬ SizesAddUp s := by
  have hrun : (((system .asStored 10001 0).restrict (Undisturbed 0)).run staleFree).map
      (fun s => (s.handler.bitmaps.keys, s.handler.currentTotalBitmapSize)) =
        some ([], -36) := by
    decide +kernel
  obtain ⟨s, hs, hvalue⟩ := Option.map_eq_some_iff.1 hrun
  obtain ⟨hkeys, htotal⟩ := Prod.mk.inj hvalue
  refine ⟨s, hs, hkeys, htotal, ?_⟩
  intro hsizes
  have hnonneg := hsizes.nonneg
  rw [htotal] at hnonneg
  exact absurd hnonneg (by decide)

end UprobeStats.Bitmap
