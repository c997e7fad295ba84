/-
The map of binder filters while several tasks are about to use it.  Opening the
map takes an exclusive lock, which is held until the accessor is dropped; under
the lock a task writes its filters one system call at a time, runs, and drains
the map key by key.  The system decides which call comes next, and whether a
map opens or a write fails.
-/
import UprobeStats.Execute
import UprobeStats.Lib.Machine

namespace UprobeStats

open Bytes FiniteMap Transition BinderInterfaceBpfMap BinderInterfaceMapAccessor

/-- An entry as it is written to the kernel's map. -/
abbrev FilterEntry := BinderInterfaceBpfMapKey × BinderCodesBpfMapValue

/-- How far `execute` has come with the filters of a task. -/
inductive FilterStage where
  | before
  /-- In the loop over the filters, in front of the given ones. -/
  | writing (left : List FilterEntry)
  /-- A write has failed, and what was written is drained. -/
  | undoing
  /-- The set-up is done, with or without an accessor. -/
  | running (opened : Bool)
  /-- In `cleanup_binder_transaction_filters`. -/
  | removing
  /-- The accessor has been dropped. -/
  | closed
deriving DecidableEq

/-- The accessor exists, and with it the lock. -/
def FilterStage.holds : FilterStage → Bool
  | writing _ => true
  | undoing => true
  | running opened => opened
  | removing => true
  | _ => false

/-- The kernel's map, who has the lock on it, and the tasks by their threads. -/
structure SharedFilters where
  interfaces : InterfacesMap
  holder : Option Nat
  stages : Nat → FilterStage

namespace SharedFilters

inductive Action where
  /-- Up to the opening of the map, which may fail for its own reasons. -/
  | setUp (tid : Nat) (opens : Bool)
  | put (tid : Nat) (fault : Option Int)
  /-- The probes have been attached and the maps polled, or not. -/
  | cleanUp (tid : Nat)
  /-- `get_first_key`, and `delete` of what it returns. -/
  | drainKey (tid : Nat)
deriving DecidableEq

/-- The thread that makes the call. -/
def Action.tid : Action → Nat
  | setUp tid _ => tid
  | put tid _ => tid
  | cleanUp tid => tid
  | drainKey tid => tid

def setStage (s : SharedFilters) (tid : Nat) (stage : FilterStage) : SharedFilters :=
  { s with stages := Function.update s.stages tid stage }

/-- The drop of the accessor. -/
def close (s : SharedFilters) (tid : Nat) : SharedFilters :=
  { s.setStage tid .closed with holder := none }

/-- One turn of the loop in `drain`, which ends where there is no key or the
key is not found again. -/
def drainOne (s : SharedFilters) (firstKey : FirstInterface) (tid : Nat) : SharedFilters :=
  match firstKey.get s.interfaces with
  | none => s.close tid
  | some key =>
      if toCKey (fromCKey key) ∈ s.interfaces then
        { s with interfaces := s.interfaces.erase (toCKey (fromCKey key)) }
      else s.close tid

/-- Where the loop is after a filter has been written. -/
def written : List FilterEntry → FilterStage
  | [] => .running true
  | left => .writing left

section Step

variable (tasks : Nat → ResolvedTask) (firstKey : FirstInterface)

/-- The filters of the task of a thread, in the order in which they are
written. -/
def entries (tid : Nat) : List FilterEntry := filterEntries (tasks tid).resolvedProbes

def step (s : SharedFilters) : Action → Option SharedFilters
  | .setUp tid opens =>
      match s.stages tid with
      | .before =>
          if (entries tasks tid).isEmpty then some (s.setStage tid (.running false))
          else if s.holder.isNone && opens then
            some { s.setStage tid (.writing (entries tasks tid)) with holder := some tid }
          else some (s.setStage tid .closed)
      | _ => none
  | .put tid fault =>
      match s.stages tid with
      | .writing (entry :: left) =>
          if fault.isSome || decide (entry.1 ∈ s.interfaces) then some (s.setStage tid .undoing)
          else
            some { s.setStage tid (written left) with
              interfaces := s.interfaces.insert entry.1 entry.2 }
      | _ => none
  | .cleanUp tid =>
      match s.stages tid with
      | .running opened => some (s.setStage tid (if opened then .removing else .closed))
      | _ => none
  | .drainKey tid =>
      match s.stages tid with
      | .undoing => some (s.drainOne firstKey tid)
      | .removing => some (s.drainOne firstKey tid)
      | _ => none

def machine (interfaces : InterfacesMap) : Machine SharedFilters Action where
  init := ⟨interfaces, none, fun _ => .before⟩
  step := step tasks firstKey

end Step

/-- What a thread that is at a stage knows of the kernel's map. -/
def Knows (entries : List FilterEntry) (interfaces : InterfacesMap) : FilterStage → Prop
  | .writing left => left ≠ [] ∧ ∃ done, entries = done ++ left ∧ Fits ∅ done ∧
      interfaces = insertAll ∅ done
  | .running true => Fits ∅ entries ∧ interfaces = insertAll ∅ entries
  | .undoing => ∀ key ∈ interfaces, key ∈ entries.map Prod.fst
  | .removing => ∀ key ∈ interfaces, key ∈ entries.map Prod.fst
  | _ => True

/-- Nobody but the holder of the lock has anything in the map. -/
structure Isolated (tasks : Nat → ResolvedTask) (s : SharedFilters) : Prop where
  holder_iff : ∀ tid, (s.stages tid).holds = true ↔ s.holder = some tid
  free : s.holder = none → s.interfaces = ∅
  knows : ∀ tid, s.holder = some tid → Knows (entries tasks tid) s.interfaces (s.stages tid)

@[simp] theorem setStage_stages_self (s : SharedFilters) (tid : Nat) (stage : FilterStage) :
    (s.setStage tid stage).stages tid = stage := by
  simp [setStage]

theorem setStage_stages_of_ne (s : SharedFilters) {tid other : Nat} (stage : FilterStage)
    (hne : other ≠ tid) : (s.setStage tid stage).stages other = s.stages other := by
  simp [setStage, Function.update_of_ne hne]

section Isolation

variable {tasks : Nat → ResolvedTask} {firstKey : FirstInterface} {s s' : SharedFilters}
  {tid : Nat}

/-- A thread without the lock stays without it. -/
theorem Isolated.outside (hs : Isolated tasks s) (hbefore : (s.stages tid).holds = false)
    {stage : FilterStage} (hafter : stage.holds = false) :
    Isolated tasks (s.setStage tid stage) := by
  have hnot : s.holder ≠ some tid := fun hholder => by
    rw [(hs.holder_iff tid).2 hholder] at hbefore
    cases hbefore
  refine ⟨?_, hs.free, ?_⟩
  · intro other
    by_cases hother : other = tid
    · subst hother
      rw [setStage_stages_self, hafter]
      exact iff_of_false (by simp) hnot
    · rw [setStage_stages_of_ne s stage hother]
      exact hs.holder_iff other
  · intro other hholder
    have hother : other ≠ tid := fun heq => hnot (heq ▸ hholder)
    rw [setStage_stages_of_ne s stage hother]
    exact hs.knows other hholder

/-- The holder keeps the lock, and knows what it makes of the map. -/
theorem Isolated.inside (hs : Isolated tasks s) {holder : Option Nat}
    (hholder : holder = some tid) (hfree : ∀ other, s.holder = some other → other = tid)
    {stage : FilterStage} (hstage : stage.holds = true) {interfaces : InterfacesMap}
    (hknows : Knows (entries tasks tid) interfaces stage) :
    Isolated tasks { s.setStage tid stage with interfaces := interfaces, holder := holder } := by
  subst hholder
  refine ⟨?_, by simp, ?_⟩
  · intro other
    by_cases hother : other = tid
    · subst hother
      simp [hstage]
    · simp only [setStage_stages_of_ne s stage hother, Option.some.injEq]
      refine iff_of_false ?_ (Ne.symm hother)
      intro hholds
      exact hother (hfree other ((hs.holder_iff other).1 hholds))
  · intro other hholder
    cases hholder
    simpa using hknows

/-- The lock is given back on an empty map. -/
theorem Isolated.close (hs : Isolated tasks s) (hholder : s.holder = some tid)
    (hempty : s.interfaces = ∅) : Isolated tasks (s.close tid) := by
  refine ⟨?_, fun _ => hempty, ?_⟩
  · intro other
    by_cases hother : other = tid
    · subst hother
      simp [SharedFilters.close, FilterStage.holds]
    · have hnot : (s.stages other).holds ≠ true := by
        intro hholds
        have hsame := (hs.holder_iff other).1 hholds
        rw [hholder, Option.some.injEq] at hsame
        exact hother hsame.symm
      simp [SharedFilters.close, setStage_stages_of_ne s _ hother, hnot]
  · intro other hnone
    cases hnone

/-- Writing a filter, as the holder sees it. -/
theorem knows_written {entries : List FilterEntry} {interfaces : InterfacesMap}
    {entry : FilterEntry} {left : List FilterEntry}
    (hknows : Knows entries interfaces (.writing (entry :: left)))
    (hnew : entry.1 ∉ interfaces) :
    Knows entries (interfaces.insert entry.1 entry.2) (written left) := by
  obtain ⟨_, done, hentries, hfits, rfl⟩ := hknows
  have hentry : Fits (insertAll ∅ done) [entry] := ⟨by simp, by simpa using hnew⟩
  have hinsert : (insertAll ∅ done).insert entry.1 entry.2 = insertAll ∅ (done ++ [entry]) := by
    rw [insertAll_append]
    rfl
  cases left with
  | nil =>
      rw [hentries]
      exact ⟨hfits.append hentry, hinsert⟩
  | cons next rest =>
      refine ⟨by simp, done ++ [entry], by simp [hentries], hfits.append hentry, hinsert⟩

theorem keys_of_knows {entries : List FilterEntry} {interfaces : InterfacesMap}
    {stage : FilterStage} (hholds : stage.holds = true)
    (hknows : Knows entries interfaces stage) :
    ∀ key ∈ interfaces, key ∈ entries.map Prod.fst := by
  cases stage with
  | writing left =>
      obtain ⟨_, done, rfl, _, rfl⟩ := hknows
      intro key hkey
      rw [List.map_append, List.mem_append]
      exact Or.inl (mem_insertAll_empty.1 hkey)
  | undoing => exact hknows
  | running opened =>
      cases opened with
      | true =>
          obtain ⟨_, rfl⟩ := hknows
          intro key hkey
          exact mem_insertAll_empty.1 hkey
      | false => cases hholds
  | removing => exact hknows
  | before => cases hholds
  | closed => cases hholds

/-- A drain of readable keys takes them out one after another, and gives the
lock back when there are none left. -/
theorem Isolated.drainOne (hs : Isolated tasks s) (hholder : s.holder = some tid)
    (hkeys : ∀ key ∈ s.interfaces, key ∈ (entries tasks tid).map Prod.fst)
    (hreadable : ∀ key ∈ (entries tasks tid).map Prod.fst, Readable key)
    (hdraining : s.stages tid = .undoing ∨ s.stages tid = .removing) :
    Isolated tasks (s.drainOne firstKey tid) := by
  unfold SharedFilters.drainOne
  cases hfirst : firstKey.get s.interfaces with
  | none => exact hs.close hholder ((firstKey.get_eq_none_iff _).1 hfirst)
  | some key =>
      have hmem := firstKey.mem_of_get _ _ hfirst
      have hcanon : toCKey (fromCKey key) = key :=
        (canonical_iff_readable key).2 (hreadable key (hkeys key hmem))
      simp only [hcanon, hmem, ↓reduceIte]
      have hrest : ∀ other ∈ s.interfaces.erase key,
          other ∈ (entries tasks tid).map Prod.fst := by
        intro other hother
        exact hkeys other (AList.mem_erase.1 hother).2
      have hheld : s.holder ≠ none := by simp [hholder]
      refine ⟨hs.holder_iff, fun hnone => absurd hnone hheld, ?_⟩
      intro other hother
      rw [hholder, Option.some.injEq] at hother
      subst hother
      rcases hdraining with hstage | hstage
      · rw [hstage]
        exact hrest
      · rw [hstage]
        exact hrest

theorem Isolated.holder_of_stage (hs : Isolated tasks s) {stage : FilterStage}
    (hstage : s.stages tid = stage) (hholds : stage.holds = true) : s.holder = some tid :=
  (hs.holder_iff tid).1 (by rw [hstage]; exact hholds)

/-- The holder alone can have the lock. -/
theorem eq_of_holder (hholder : s.holder = some tid) :
    ∀ other, s.holder = some other → other = tid := by
  intro other hother
  rw [hholder, Option.some.injEq] at hother
  exact hother.symm

theorem Isolated.step (hs : Isolated tasks s)
    (hreadable : ∀ tid, ∀ key ∈ (entries tasks tid).map Prod.fst, Readable key)
    {action : Action} (hstep : SharedFilters.step tasks firstKey s action = some s') :
    Isolated tasks s' := by
  cases action with
  | setUp tid opens =>
      simp only [SharedFilters.step] at hstep
      split at hstep
      · rename_i hbefore
        have hout : (s.stages tid).holds = false := by rw [hbefore]; rfl
        split at hstep
        · rw [← Option.some.inj hstep]
          exact hs.outside hout rfl
        · rename_i hentries
          split at hstep
          · rename_i hopens
            rw [← Option.some.inj hstep]
            rw [Bool.and_eq_true, Option.isNone_iff_eq_none] at hopens
            apply hs.inside rfl _ rfl
            · refine ⟨by simpa using hentries, [], rfl, Fits.nil _, ?_⟩
              exact hs.free hopens.1
            · intro other hother
              rw [hopens.1] at hother
              cases hother
          · rw [← Option.some.inj hstep]
            exact hs.outside hout rfl
      · cases hstep
  | put tid fault =>
      simp only [SharedFilters.step] at hstep
      split at hstep
      · rename_i entry left hstage
        have hholder := hs.holder_of_stage hstage rfl
        have hknows := hs.knows tid hholder
        rw [hstage] at hknows
        split at hstep
        · rw [← Option.some.inj hstep]
          exact hs.inside hholder (eq_of_holder hholder) rfl (keys_of_knows rfl hknows)
        · rename_i hnew
          simp only [Bool.or_eq_true, decide_eq_true_eq, not_or] at hnew
          rw [← Option.some.inj hstep]
          refine hs.inside hholder (eq_of_holder hholder) ?_ (knows_written hknows hnew.2)
          cases left <;> rfl
      · cases hstep
  | cleanUp tid =>
      simp only [SharedFilters.step] at hstep
      split at hstep
      · rename_i opened hstage
        rw [← Option.some.inj hstep]
        cases opened with
        | true =>
            have hholder := hs.holder_of_stage hstage rfl
            have hknows := hs.knows tid hholder
            rw [hstage] at hknows
            exact hs.inside hholder (eq_of_holder hholder) rfl (keys_of_knows rfl hknows)
        | false => exact hs.outside (by rw [hstage]; rfl) rfl
      · cases hstep
  | drainKey tid =>
      simp only [SharedFilters.step] at hstep
      split at hstep
      · rename_i hstage
        have hholder := hs.holder_of_stage hstage rfl
        have hknows := hs.knows tid hholder
        rw [hstage] at hknows
        rw [← Option.some.inj hstep]
        exact hs.drainOne hholder hknows (hreadable tid) (Or.inl hstage)
      · rename_i hstage
        have hholder := hs.holder_of_stage hstage rfl
        have hknows := hs.knows tid hholder
        rw [hstage] at hknows
        rw [← Option.some.inj hstep]
        exact hs.drainOne hholder hknows (hreadable tid) (Or.inr hstage)
      · cases hstep

theorem isolated_of_reachable
    (hreadable : ∀ tid, ∀ key ∈ (entries tasks tid).map Prod.fst, Readable key)
    (hreach : (machine tasks firstKey ∅).Reachable s) : Isolated tasks s := by
  apply hreach.invariant
  · refine ⟨?_, fun _ => rfl, ?_⟩
    · intro tid
      exact iff_of_false (by simp [machine, FilterStage.holds]) (by simp [machine])
    · intro tid hholder
      cases hholder
  · intro s action s' hs hstep
    exact hs.step hreadable hstep

/-- Two tasks that filter on different names. -/
def rivals (tid : Nat) : ResolvedTask :=
  { longNameTask with resolvedProbes := [singleMethodProbe (if tid = 0 then "a" else "b")] }

theorem readable_rivals :
    ∀ tid, ∀ key ∈ (entries rivals tid).map Prod.fst, Readable key := by
  intro tid key hkey
  have hname : key = toCKey (if tid = 0 then "a" else "b") := List.mem_singleton.1 hkey
  refine ⟨if tid = 0 then "a" else "b", ?_, ?_, hname⟩
  · split <;> decide
  · split <;> decide

end Isolation

/-! A task whose calls nobody comes between goes where `execute` leads. -/

section Alone

variable {tasks : Nat → ResolvedTask} {s : SharedFilters} {tid : Nat}

/-- One call of a thread. -/
def Call (tasks : Nat → ResolvedTask) (firstKey : FirstInterface) (tid : Nat)
    (s s' : SharedFilters) : Prop :=
  ∃ action : Action, action.tid = tid ∧ SharedFilters.step tasks firstKey s action = some s'

/-- The thread makes its calls with nobody in between. -/
abbrev Alone (tasks : Nat → ResolvedTask) (firstKey : FirstInterface) (tid : Nat) :
    SharedFilters → SharedFilters → Prop :=
  Relation.ReflTransGen (Call tasks firstKey tid)

/-- A write of a new key without a fault. -/
theorem put_fits (tasks : Nat → ResolvedTask) (firstKey : FirstInterface)
    {entry : FilterEntry} {left : List FilterEntry}
    (hstage : s.stages tid = .writing (entry :: left)) (hnew : entry.1 ∉ s.interfaces) :
    Call tasks firstKey tid s { s.setStage tid (written left) with
      interfaces := s.interfaces.insert entry.1 entry.2 } :=
  ⟨.put tid none, rfl, by simp [SharedFilters.step, hstage, hnew]⟩

/-- A write that is refused. -/
theorem put_stops (tasks : Nat → ResolvedTask) (firstKey : FirstInterface)
    {entry : FilterEntry} {left : List FilterEntry} (fault : Option Int)
    (hstage : s.stages tid = .writing (entry :: left))
    (hwhy : entry.1 ∈ s.interfaces ∨ fault.isSome = true) :
    Call tasks firstKey tid s (s.setStage tid .undoing) :=
  ⟨.put tid fault, rfl, by
    have hrefused : (fault.isSome || decide (entry.1 ∈ s.interfaces)) = true := by
      simpa [or_comm] using hwhy
    simp only [SharedFilters.step, hstage, hrefused, ↓reduceIte]⟩

theorem puts_alone (tasks : Nat → ResolvedTask) (firstKey : FirstInterface)
    (entries left : List FilterEntry) (hstage : s.stages tid = written (entries ++ left))
    (hfits : Fits s.interfaces entries) :
    ∃ s', Alone tasks firstKey tid s s' ∧ s'.stages tid = written left ∧
      s'.interfaces = insertAll s.interfaces entries := by
  induction entries generalizing s with
  | nil => exact ⟨s, .refl, hstage, rfl⟩
  | cons entry rest ih =>
      have hnew : entry.1 ∉ s.interfaces := hfits.fresh _ (by simp)
      have hput := put_fits tasks firstKey (hstage : s.stages tid = .writing _) hnew
      have hrest : Fits (s.interfaces.insert entry.1 entry.2) rest := by
        refine ⟨(List.nodup_cons.1 hfits.nodup).2, ?_⟩
        intro key hkey hmem
        rcases (AList.mem_insert _).1 hmem with rfl | hold
        · exact (List.nodup_cons.1 hfits.nodup).1 hkey
        · exact hfits.fresh key (by simp [hkey]) hold
      obtain ⟨s', halone, hleft, hinterfaces⟩ :=
        ih (s := { s.setStage tid (written (rest ++ left)) with
          interfaces := s.interfaces.insert entry.1 entry.2 }) (by simp) hrest
      exact ⟨s', halone.head hput, hleft, hinterfaces⟩

/-- One turn of the loop of a drain. -/
theorem drainKey_call (tasks : Nat → ResolvedTask) (firstKey : FirstInterface)
    (hstage : s.stages tid = .undoing ∨ s.stages tid = .removing) :
    Call tasks firstKey tid s (s.drainOne firstKey tid) := by
  refine ⟨.drainKey tid, rfl, ?_⟩
  rcases hstage with hstage | hstage
  · simp only [SharedFilters.step, hstage]
  · simp only [SharedFilters.step, hstage]

theorem drain_alone (tasks : Nat → ResolvedTask) (firstKey : FirstInterface)
    (interfaces : InterfacesMap) (hinterfaces : s.interfaces = interfaces)
    (hstage : s.stages tid = .undoing ∨ s.stages tid = .removing) :
    ∃ s', Alone tasks firstKey tid s s' ∧ s'.stages tid = .closed ∧
      s'.interfaces = (drain firstKey interfaces).2 := by
  rw [drain_snd]
  fun_induction drainThrough firstKey (fun key => toCKey (fromCKey key)) interfaces
    generalizing s with
  | case1 m hget =>
      have hturn := drainKey_call tasks firstKey hstage
      rw [SharedFilters.drainOne, hinterfaces, hget] at hturn
      exact ⟨s.close tid, .single hturn, by simp [SharedFilters.close], hinterfaces⟩
  | case2 m key hget hmem ih =>
      have hturn := drainKey_call tasks firstKey hstage
      rw [SharedFilters.drainOne, hinterfaces, hget] at hturn
      simp only [hmem, ↓reduceIte] at hturn
      obtain ⟨s', halone, hclosed, hleft⟩ :=
        ih (s := { s with interfaces := m.erase (toCKey (fromCKey key)) }) rfl hstage
      exact ⟨s', halone.head hturn, hclosed, hleft⟩
  | case3 m key hget hmem =>
      have hturn := drainKey_call tasks firstKey hstage
      rw [SharedFilters.drainOne, hinterfaces, hget] at hturn
      simp only [hmem, ↓reduceIte] at hturn
      exact ⟨s.close tid, .single hturn, by simp [SharedFilters.close], hinterfaces⟩

/-- Where a thread is once its set-up has returned. -/
def setUpStage : Except AnyError Bool → FilterStage
  | .ok opened => .running opened
  | .error _ => .closed

theorem setupLoop_of_isEmpty (env : MapEnv) (probes : List ResolvedProbe)
    (hempty : (filterEntries probes).isEmpty = true) (m : InterfacesMap) :
    setupLoop env probes false m = (.ok false, m) := by
  induction probes with
  | nil => rfl
  | cons probe rest ih =>
      rw [filterEntries_cons, List.isEmpty_iff, List.append_eq_nil_iff] at hempty
      have hskip : probe.binderTransactionFilters.entries.isEmpty = true := by
        simpa [probeEntries] using hempty.1
      simp only [setupLoop, hskip, ↓reduceIte]
      exact ih (by simp [hempty.2])

theorem written_of_ne_nil {left : List FilterEntry} (hleft : left.isEmpty = false) :
    written left = .writing left := by
  cases left with
  | nil => cases hleft
  | cons entry rest => rfl

/-- The map opens, and the lock is free. -/
theorem open_call (firstKey : FirstInterface) (hbefore : s.stages tid = .before)
    (hfree : s.holder = none) (hsome : (entries tasks tid).isEmpty = false) :
    ∃ s', Call tasks firstKey tid s s' ∧ s'.stages tid = written (entries tasks tid) ∧
      s'.interfaces = s.interfaces := by
  refine ⟨{ s.setStage tid (.writing (entries tasks tid)) with holder := some tid }, ?_, ?_, rfl⟩
  · exact ⟨.setUp tid true, rfl, by simp [SharedFilters.step, hbefore, hfree, hsome]⟩
  · rw [written_of_ne_nil hsome]
    exact setStage_stages_self ..

/-- The calls of a set-up. -/
theorem setUp_alone (env : MapEnv) (hbefore : s.stages tid = .before)
    (hfree : s.holder = none) :
    ∃ s', Alone tasks env.firstKey tid s s' ∧
      s'.stages tid =
        setUpStage (setupBinderTransactionFilters env (tasks tid).resolvedProbes
          s.interfaces).1 ∧
      s'.interfaces =
        (setupBinderTransactionFilters env (tasks tid).resolvedProbes s.interfaces).2 := by
  rw [setupBinderTransactionFilters]
  cases hempty : (entries tasks tid).isEmpty with
  | true =>
      have hcall : Call tasks env.firstKey tid s (s.setStage tid (.running false)) :=
        ⟨.setUp tid true, rfl, by simp [SharedFilters.step, hbefore, hempty]⟩
      rw [setupLoop_of_isEmpty env _ hempty]
      exact ⟨_, .single hcall, setStage_stages_self .., rfl⟩
  | false =>
      obtain ⟨writing, hopen, hwriting, hsame⟩ := open_call env.firstKey hbefore hfree hempty
      rw [← hsame]
      rcases setupLoop_cases env (tasks tid).resolvedProbes false writing.interfaces with
        ⟨e, _, _, hsetup⟩ | ⟨hfits, hsetup⟩ | ⟨done, e, hstops, hsetup⟩
      · have hcall : Call tasks env.firstKey tid s (s.setStage tid .closed) :=
          ⟨.setUp tid false, rfl, by simp [SharedFilters.step, hbefore, hempty]⟩
        rw [hsetup]
        exact ⟨_, .single hcall, setStage_stages_self .., hsame.symm⟩
      · rw [entries] at hempty
        rw [← List.append_nil (entries tasks tid)] at hwriting
        obtain ⟨s', hputs, hstage, hinterfaces⟩ :=
          puts_alone tasks env.firstKey _ _ hwriting hfits
        rw [hsetup, hempty]
        exact ⟨s', hputs.head hopen, hstage, hinterfaces⟩
      · obtain ⟨hfits, next, ⟨left, hentries⟩, hwhy⟩ := hstops
        have hsplit : entries tasks tid = done ++ next :: left := by
          rw [entries, ← hentries, List.append_assoc, List.singleton_append]
        rw [hsplit] at hwriting
        obtain ⟨blocked, hputs, hstage, hinterfaces⟩ :=
          puts_alone tasks env.firstKey _ _ hwriting hfits
        rw [← hinterfaces] at hwhy
        have hstop := put_stops tasks env.firstKey _ hstage hwhy
        obtain ⟨s', hdrain, hclosed, hleft⟩ := drain_alone tasks env.firstKey _
          (s := blocked.setStage tid .undoing) hinterfaces (Or.inl (setStage_stages_self ..))
        rw [hsetup]
        exact ⟨s', ((hputs.tail hstop).head hopen).trans hdrain, hclosed, hleft⟩

/-- The calls of a clean-up. -/
theorem cleanUp_alone {task : ResolvedTask} (env : ExecuteEnv task) {opened : Bool}
    (hstage : s.stages tid = .running opened) :
    ∃ s', Alone tasks env.map.firstKey tid s s' ∧ s'.stages tid = .closed ∧
      s'.interfaces = (cleanupBinderTransactionFilters env opened s.interfaces).2 := by
  have hcall : Call tasks env.map.firstKey tid s
      (s.setStage tid (if opened then .removing else .closed)) :=
    ⟨.cleanUp tid, rfl, by simp only [SharedFilters.step, hstage]⟩
  cases opened with
  | true =>
      obtain ⟨s', hdrain, hclosed, hleft⟩ := drain_alone tasks env.map.firstKey
        s.interfaces (s := s.setStage tid .removing) rfl
          (Or.inr (setStage_stages_self ..))
      rw [cleanup_snd]
      exact ⟨s', hdrain.head hcall, hclosed, hleft⟩
  | false => exact ⟨_, .single hcall, setStage_stages_self .., rfl⟩

/-- A task that nobody comes between makes of the map what `execute` makes of
it. -/
theorem execute_alone (env : ExecuteEnv (tasks tid)) (hbefore : s.stages tid = .before)
    (hfree : s.holder = none) :
    ∃ s', Alone tasks env.map.firstKey tid s s' ∧ s'.stages tid = .closed ∧
      s'.interfaces = (execute env s.interfaces).2 := by
  obtain ⟨installed, hsetUp, hstage, hinterfaces⟩ := setUp_alone env.map hbefore hfree
  rw [execute_snd]
  cases hresult : setupBinderTransactionFilters env.map (tasks tid).resolvedProbes
      s.interfaces with
  | mk outcome left =>
      rw [hresult] at hstage hinterfaces
      cases outcome with
      | error e => exact ⟨installed, hsetUp, hstage, hinterfaces⟩
      | ok opened =>
          obtain ⟨s', hcleanUp, hclosed, hleft⟩ := cleanUp_alone env hstage
          rw [hinterfaces] at hleft
          exact ⟨s', hsetUp.trans hcleanUp, hclosed, hleft⟩

end Alone

end SharedFilters

end UprobeStats
