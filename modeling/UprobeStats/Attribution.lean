/-
Which calls the accessibility handler puts down to which permission grant.
The single pass over the events of a uid, latest first, gives each grant the
calls since the grant before it that are recent enough, whatever order the
events arrived in.
-/
import UprobeStats.Accessibility

namespace UprobeStats.Accessibility

open Bytes Grouping Traced

namespace Event

variable (event : Event)

def isGrant : Bool :=
  match event.variant with
  | .runtimePermissionGrant _ => true
  | .a11y _ => false

/-- The permission of a grant. -/
def permissionName : String :=
  match event.variant with
  | .runtimePermissionGrant name => name
  | .a11y _ => ""

/-- The transaction code of a call. -/
def code : Int32 :=
  match event.variant with
  | .runtimePermissionGrant _ => 0
  | .a11y code => code

end Event

/-- The call `a` is put down to the grant `g`: it is a call of the same uid
before `g`, within the window, with no other grant of that uid in between. -/
def Attributed (stored : List Event) (g a : Event) : Prop :=
  a ∈ stored ∧ a.isGrant = false ∧ a.uid = g.uid ∧ a.time < g.time ∧
    g.time - a.time < 10 * 1000000000 ∧
    ∀ g' ∈ stored, g'.isGrant = true → g'.uid = g.uid → ¬ (a.time < g'.time ∧ g'.time < g.time)

/-- No two events of one uid have the same timestamp. -/
def DistinctTimes (stored : List Event) : Prop :=
  stored.Pairwise fun a b => a.uid = b.uid → a.timestamp ≠ b.timestamp

/-- A grant with the calls that are put down to it. -/
abbrev Report := Event × List Event

namespace Report

variable (report : Report)

/-- The atom that says so. -/
def atom : UnstructuredAtom where
  atomId := atomIdAccessibilityRuntimePermissionGrant
  fields := [
    Field.newWithAnnotation (.int32 report.1.uid) (.isUid true),
    .new (.string report.1.permissionName),
    .new (.int64 (Int64.ofNat report.1.timestamp.asMillis)),
    .new (.int32Vec (report.2.map Event.code)),
    .new (.int64Vec (report.2.map fun call => Int64.ofNat call.timestamp.asMillis))]

/-- The record that `associate_events` makes of it. -/
def record : AccessibilityRuntimePermissionGrant :=
  ⟨report.1.uid, report.1.timestamp, report.1.permissionName,
    report.2.map fun call => (call.code, call.timestamp)⟩

end Report

/-- The first field of the atom is the uid. -/
def CarriesUid (atom : UnstructuredAtom) (uid : Int32) : Prop :=
  ∃ rest, atom.fields = Field.newWithAnnotation (.int32 uid) (.isUid true) :: rest

/-! The single pass. -/

/-- The test that `associate_events` makes for a call. -/
def inWindow (timestamp : Duration) (call : Event) : Bool :=
  decide ((timestamp.saturatingSub call.timestamp).nanos < a11yEventWindow.nanos)

/-- The calls that a grant takes from the events after it in the list: those
up to the next grant that are in the window. -/
def taken (timestamp : Duration) (rest : List Event) : List Event :=
  (rest.takeWhile fun event => !event.isGrant).filter (inWindow timestamp)

/-- Each grant of a list with the calls it takes. -/
def reports : List Event → List Report
  | [] => []
  | event :: rest =>
      if event.isGrant then (event, taken event.timestamp rest) :: reports rest
      else reports rest

/-- The grant that takes calls when the loop comes to `rest`, at its end. -/
def absorb (rest : List Event) (grant : AccessibilityRuntimePermissionGrant) :
    AccessibilityRuntimePermissionGrant :=
  { grant with precedingA11yCalls := grant.precedingA11yCalls ++
      (taken grant.timestamp rest).map fun call => (call.code, call.timestamp) }

section Absorb

variable {event : Event} (rest : List Event) (grant : AccessibilityRuntimePermissionGrant)

theorem absorb_nil : absorb [] grant = grant := by
  simp [absorb, taken]

theorem absorb_grant (hgrant : event.isGrant = true) : absorb (event :: rest) grant = grant := by
  simp [absorb, taken, hgrant]

theorem absorb_call (hcall : event.isGrant = false) :
    absorb (event :: rest) grant = absorb rest (absorb [event] grant) := by
  by_cases hwindow : inWindow grant.timestamp event = true
  · simp [absorb, taken, hcall, hwindow]
  · simp [absorb, taken, hcall, hwindow]

end Absorb

section Associate

variable {event : Event} (grants : List AccessibilityRuntimePermissionGrant)
  (pending : Option AccessibilityRuntimePermissionGrant)

/-- A grant closes the pending one and takes its place. -/
theorem associateEvent_grant (hgrant : event.isGrant = true) :
    associateEvent (grants, pending) event =
      (grants ++ pending.toList, some (.new event.uid event.timestamp event.permissionName)) := by
  cases hvariant : event.variant with
  | runtimePermissionGrant name => simp [associateEvent, Event.permissionName, hvariant]
  | a11y code => simp [Event.isGrant, hvariant] at hgrant

/-- A call is offered to the pending grant. -/
theorem associateEvent_call (hcall : event.isGrant = false) :
    associateEvent (grants, pending) event = (grants, pending.map (absorb [event])) := by
  cases hvariant : event.variant with
  | runtimePermissionGrant name => simp [Event.isGrant, hvariant] at hcall
  | a11y code =>
      cases pending with
      | none => simp [associateEvent, hvariant]
      | some grant =>
          have hcode : event.code = code := by simp [Event.code, hvariant]
          simp only [associateEvent, hvariant, Option.map_some, absorb, taken]
          split
          · rename_i hwindow
            simp [hcall, inWindow, hwindow, hcode]
          · rename_i hwindow
            simp [hcall, inWindow, hwindow]

/-- What the loop makes of the rest of the list: the pending grant is closed
with the calls it takes, and the rest is treated as if nothing were pending. -/
theorem foldl_associateEvent (rest : List Event) :
    (rest.foldl associateEvent (grants, pending)).1 ++
        (rest.foldl associateEvent (grants, pending)).2.toList =
      grants ++ (pending.map (absorb rest)).toList ++ associateEvents rest := by
  induction rest generalizing grants pending with
  | nil => cases pending <;> simp [absorb_nil, associateEvents]
  | cons event rest ih =>
      have hrest : associateEvents (event :: rest) =
          (rest.foldl associateEvent (associateEvent ([], none) event)).1 ++
            (rest.foldl associateEvent (associateEvent ([], none) event)).2.toList := rfl
      rw [List.foldl_cons, hrest]
      cases hgrant : event.isGrant with
      | true =>
          rw [associateEvent_grant grants pending hgrant, associateEvent_grant [] none hgrant, ih, ih]
          cases pending with
          | none => simp
          | some grant => simp [absorb_grant rest grant hgrant]
      | false =>
          rw [associateEvent_call grants pending hgrant, associateEvent_call [] none hgrant, ih, ih]
          cases pending with
          | none => simp
          | some grant => simp [absorb_call rest grant hgrant]

end Associate

theorem associateEvents_eq_reports (events : List Event) :
    associateEvents events = (reports events).map Report.record := by
  induction events with
  | nil => rfl
  | cons event rest ih =>
      have hloop : associateEvents (event :: rest) =
          (associateEvent ([], none) event).1 ++
            ((associateEvent ([], none) event).2.map (absorb rest)).toList ++
              associateEvents rest := foldl_associateEvent _ _ rest
      rw [hloop, reports, ih]
      cases hgrant : event.isGrant with
      | true =>
          rw [associateEvent_grant [] none hgrant]
          simp [absorb, AccessibilityRuntimePermissionGrant.new, Report.record]
      | false =>
          rw [associateEvent_call [] none hgrant]
          simp

/-! The events of one uid, latest first. -/

theorem map_fst_reports (events : List Event) :
    (reports events).map Prod.fst = events.filter Event.isGrant := by
  induction events with
  | nil => rfl
  | cons event rest ih =>
      rw [reports, List.filter_cons]
      split <;> simp [ih]

theorem exists_of_mem_reports {events : List Event} {report : Report}
    (hmem : report ∈ reports events) :
    ∃ later rest, events = later ++ report.1 :: rest ∧
      report.2 = taken report.1.timestamp rest := by
  induction events with
  | nil => cases hmem
  | cons event rest ih =>
      have hdeeper (hin : report ∈ reports rest) : ∃ later rest', event :: rest =
          later ++ report.1 :: rest' ∧ report.2 = taken report.1.timestamp rest' := by
        obtain ⟨later, rest', hsplit, htaken⟩ := ih hin
        exact ⟨event :: later, rest', by rw [hsplit, List.cons_append], htaken⟩
      rw [reports] at hmem
      split at hmem
      · rcases List.mem_cons.1 hmem with rfl | hin
        · exact ⟨[], rest, rfl, rfl⟩
        · exact hdeeper hin
      · exact hdeeper hmem

theorem taken_sublist (timestamp : Duration) (rest : List Event) :
    (taken timestamp rest).Sublist rest :=
  List.filter_sublist.trans (List.takeWhile_sublist _)

theorem strictlyDescending_of_mem_reports {events : List Event}
    (hsorted : StrictlyDescending Event.time events) {report : Report}
    (hmem : report ∈ reports events) : StrictlyDescending Event.time report.2 := by
  obtain ⟨later, rest, rfl, htaken⟩ := exists_of_mem_reports hmem
  rw [htaken]
  have hsub : (taken report.1.timestamp rest).Sublist (later ++ report.1 :: rest) :=
    (taken_sublist _ rest).trans
      ((List.sublist_cons_self _ rest).trans (List.sublist_append_right later _))
  exact List.Pairwise.sublist hsub hsorted

/-- In a strictly descending list of one uid's events, the calls a grant takes
are those that are put down to it. -/
theorem mem_taken_iff {later rest : List Event} {g a : Event}
    (hsorted : StrictlyDescending Event.time (later ++ g :: rest))
    (huid : ∀ event ∈ later ++ g :: rest, event.uid = g.uid) :
    a ∈ taken g.timestamp rest ↔ Attributed (later ++ g :: rest) g a := by
  have hrest : StrictlyDescending Event.time rest :=
    (List.pairwise_cons.1 (List.pairwise_append.1 hsorted).2.1).2
  rw [taken, List.mem_filter, hrest.mem_takeWhile_iff, hsorted.mem_after_iff]
  constructor
  · rintro ⟨⟨⟨hmem, hbefore⟩, hcall, hlarger⟩, hwindow⟩
    refine ⟨hmem, by simpa using hcall, huid a hmem, hbefore, of_decide_eq_true hwindow, ?_⟩
    intro g' hg' hgrant _ ⟨hafter, hearlier⟩
    have hnext := hlarger g' (hsorted.mem_after_iff.2 ⟨hg', hearlier⟩) hafter
    simp [hgrant] at hnext
  · rintro ⟨hmem, hcall, _, hbefore, hwindow, hbetween⟩
    refine ⟨⟨⟨hmem, hbefore⟩, by simp [hcall], ?_⟩, decide_eq_true hwindow⟩
    intro b hb hafter
    obtain ⟨hlist, hearlier⟩ := hsorted.mem_after_iff.1 hb
    by_contra hgrant
    exact hbetween b hlist (by simpa using hgrant) (huid b hlist) ⟨hafter, hearlier⟩

/-! All events. -/

/-- The reports of one uid. -/
def uidReports (stored : List Event) (uid : Int32) : List Report :=
  reports (sortEvents (stored.filter (·.uid = uid)))

/-- Attribution looks at the events of one uid only. -/
theorem attributed_iff_of_mem_iff {stored events : List Event} {g a : Event}
    (hmem : ∀ event, event ∈ events ↔ event ∈ stored ∧ event.uid = g.uid) :
    Attributed events g a ↔ Attributed stored g a := by
  unfold Attributed
  constructor
  · rintro ⟨hevent, hcall, huid, hbefore, hwindow, hbetween⟩
    refine ⟨((hmem a).1 hevent).1, hcall, huid, hbefore, hwindow, ?_⟩
    intro g' hg' hgrant huid'
    exact hbetween g' ((hmem g').2 ⟨hg', huid'⟩) hgrant huid'
  · rintro ⟨hevent, hcall, huid, hbefore, hwindow, hbetween⟩
    refine ⟨(hmem a).2 ⟨hevent, huid⟩, hcall, huid, hbefore, hwindow, ?_⟩
    intro g' hg' hgrant huid'
    exact hbetween g' ((hmem g').1 hg').1 hgrant huid'

theorem Event.timestamp_eq_of_time_eq {a b : Event} (htime : a.time = b.time) :
    a.timestamp = b.timestamp := by
  cases hta : a.timestamp
  cases htb : b.timestamp
  simpa [Event.time, hta, htb] using htime

section Distinct

variable {stored : List Event} (hdistinct : DistinctTimes stored)

include hdistinct

theorem DistinctTimes.perm {stored' : List Event} (hperm : stored'.Perm stored) :
    DistinctTimes stored' :=
  List.Pairwise.perm hdistinct hperm.symm fun hne huid => (hne huid.symm).symm

theorem DistinctTimes.nodup : stored.Nodup :=
  hdistinct.imp fun hne heq => hne (congrArg Event.uid heq) (congrArg Event.timestamp heq)

theorem DistinctTimes.eq_of_time_eq {a b : Event} (ha : a ∈ stored) (hb : b ∈ stored)
    (huid : a.uid = b.uid) (htime : a.time = b.time) : a = b := by
  have hsymm : Std.Symm fun a b : Event => a.uid = b.uid → a.timestamp ≠ b.timestamp :=
    ⟨fun _ _ hne huid => (hne huid.symm).symm⟩
  by_contra hne
  exact List.Pairwise.forall hdistinct ha hb hne huid (Event.timestamp_eq_of_time_eq htime)

theorem DistinctTimes.filter_uid (uid : Int32) :
    (stored.filter (·.uid = uid)).Pairwise fun a b => a.time ≠ b.time := by
  have hgroup := List.Pairwise.filter (·.uid = uid) hdistinct
  apply hgroup.imp_of_mem
  intro a b ha hb hne htime
  simp only [List.mem_filter, decide_eq_true_eq] at ha hb
  exact hne (ha.2.trans hb.2.symm) (Event.timestamp_eq_of_time_eq htime)

/-- No call is put down to two grants. -/
theorem DistinctTimes.attributed_unique {g g' a : Event}
    (hg : g ∈ stored) (hgrant : g.isGrant = true) (hg' : g' ∈ stored) (hgrant' : g'.isGrant = true)
    (hattributed : Attributed stored g a) (hattributed' : Attributed stored g' a) : g = g' := by
  obtain ⟨_, _, huid, hbefore, _, hbetween⟩ := hattributed
  obtain ⟨_, _, huid', hbefore', _, hbetween'⟩ := hattributed'
  have hsame : g.uid = g'.uid := huid.symm.trans huid'
  rcases lt_trichotomy g.time g'.time with hlt | heq | hgt
  · exact absurd ⟨hbefore, hlt⟩ (hbetween' g hg hgrant hsame)
  · exact hdistinct.eq_of_time_eq hg hg' hsame heq
  · exact absurd ⟨hbefore', hgt⟩ (hbetween g' hg' hgrant' hsame.symm)

theorem uidReports_eq_of_perm {stored' : List Event} (hperm : stored'.Perm stored) (uid : Int32) :
    uidReports stored' uid = uidReports stored uid := by
  rw [uidReports, uidReports, sortEvents,
    descending_eq_of_perm Event.time (hperm.filter _) (hdistinct.filter_uid uid), sortEvents]

/-- The reports of a uid are about its grants, and list the calls that are put
down to them, latest first. -/
theorem uidReports_spec {uid : Int32} {report : Report} (hmem : report ∈ uidReports stored uid) :
    report.1.uid = uid ∧ StrictlyDescending Event.time report.2 ∧
      ∀ a, a ∈ report.2 ↔ Attributed stored report.1 a := by
  have hsorted : StrictlyDescending Event.time (sortEvents (stored.filter (·.uid = uid))) :=
    strictlyDescending_descending Event.time (hdistinct.filter_uid uid)
  have hevents : ∀ event, event ∈ sortEvents (stored.filter (·.uid = uid)) ↔
      event ∈ stored ∧ event.uid = uid := by
    intro event
    rw [sortEvents, (descending_perm Event.time _).mem_iff, List.mem_filter, decide_eq_true_eq]
  obtain ⟨later, rest, hsplit, htaken⟩ := exists_of_mem_reports hmem
  have huid : report.1.uid = uid := ((hevents report.1).1 (by simp [hsplit])).2
  refine ⟨huid, strictlyDescending_of_mem_reports hsorted hmem, ?_⟩
  intro a
  rw [hsplit] at hsorted
  have hsame : ∀ event ∈ later ++ report.1 :: rest, event.uid = report.1.uid := by
    intro event hevent
    rw [← hsplit] at hevent
    exact ((hevents event).1 hevent).2.trans huid.symm
  rw [htaken, mem_taken_iff hsorted hsame, ← hsplit]
  apply attributed_iff_of_mem_iff
  rw [huid]
  exact hevents

/-- Reports about different grants have no call in common. -/
theorem pairwise_disjoint_reports {all : List Report}
    (hgrants : (all.map Prod.fst).Perm (stored.filter Event.isGrant))
    (hcalls : ∀ report ∈ all, ∀ a, a ∈ report.2 ↔ Attributed stored report.1 a) :
    all.Pairwise fun report report' => report.2.Disjoint report'.2 := by
  have hgrant : ∀ report ∈ all, report.1 ∈ stored ∧ report.1.isGrant = true := by
    intro report hreport
    exact List.mem_filter.1 (hgrants.mem_iff.1 (List.mem_map_of_mem hreport))
  have hnodup := (hdistinct.nodup.filter Event.isGrant).perm hgrants.symm
  apply (List.pairwise_map.1 hnodup).imp_of_mem
  intro report report' hreport hreport' hne a ha ha'
  exact hne (hdistinct.attributed_unique (hgrant report hreport).1 (hgrant report hreport).2
    (hgrant report' hreport').1 (hgrant report' hreport').2 ((hcalls report hreport a).1 ha)
    ((hcalls report' hreport' a).1 ha'))

end Distinct

/-- Together the reports of all uids are about all grants. -/
theorem map_fst_flatMap_uidReports {stored : List Event} {uids : List Int32} (hnodup : uids.Nodup)
    (huids : ∀ event ∈ stored, event.uid ∈ uids) :
    ((uids.flatMap (uidReports stored)).map Prod.fst).Perm (stored.filter Event.isGrant) := by
  have hgroups : ((uids.flatMap (uidReports stored)).map Prod.fst).Perm
      (uids.flatMap fun uid => (stored.filter (·.uid = uid)).filter Event.isGrant) := by
    rw [List.map_flatMap]
    apply List.Perm.flatMap_left
    intro uid _
    rw [uidReports, map_fst_reports]
    exact (descending_perm Event.time _).filter _
  rw [← List.filter_flatMap] at hgroups
  exact hgroups.trans ((flatMap_filter_perm hnodup huids).filter _)

/-! What is written. -/

theorem grantAtom_record (report : Report) : grantAtom report.record = .ok report.atom := by
  have hcalls : (report.2.map fun call => (call.code, call.timestamp)).mapM
      (fun call => tryIntoI64 call.2.asMillis) =
        .ok (report.2.map fun call => Int64.ofNat call.timestamp.asMillis) := by
    rw [List.mapM_map]
    exact mapM_eq_ok_map fun call _ => tryIntoI64_asMillis call
  have hcodes : (report.2.map fun call => (call.code, call.timestamp)).map Prod.fst =
      report.2.map Event.code := by
    rw [List.map_map]
    rfl
  rw [grantAtom, Report.record, tryIntoI64_asMillis, hcalls, hcodes]
  rfl

theorem writeGrants_records {writer : AtomWriter} (hwriter : ∀ n, writer n = .ok ()) (n : Nat)
    (all : List Report) :
    writeGrants writer n (all.map Report.record) = ⟨all.map Report.atom, .ok ()⟩ := by
  induction all generalizing n with
  | nil => rfl
  | cons report rest ih =>
      have hwrite : writer.write n report.atom = ⟨[report.atom], .ok ()⟩ := by
        rw [AtomWriter.write, hwriter]
        rfl
      rw [List.map_cons, writeGrants, grantAtom_record, Run.bind_ofExcept_ok, hwrite,
        Run.bind_of_ok rfl, ih]
      rfl

section Finished

variable {writer : AtomWriter} (hwriter : ∀ n, writer n = .ok ())
  (order : Iteration Int32 (List Event)) (arrivals : List Arrival)

include hwriter in
/-- `on_finished` writes the atoms of one uid after those of another. -/
theorem onFinished_afterItems
    (hdistinct : DistinctTimes (afterItems .default arrivals).storedEvents) :
    (afterItems .default arrivals).onFinished order writer =
      ⟨((order.keys (afterItems .default arrivals).events).flatMap
        (uidReports (afterItems .default arrivals).storedEvents)).map Report.atom, .ok ()⟩ := by
  have hstored := storedEvents_afterItems arrivals
  have hgrants : ((order.values (afterItems .default arrivals).events).flatMap
      fun events => associateEvents (sortEvents events)) =
        ((order.keys (afterItems .default arrivals).events).flatMap
          (uidReports (afterItems .default arrivals).storedEvents)).map Report.record := by
    rw [events_afterItems, order.values_groupBy, List.flatMap_map, List.map_flatMap]
    apply List.flatMap_congr
    intro uid _
    rw [associateEvents_eq_reports, ← uidReports_eq_of_perm hdistinct hstored.symm, uidReports]
  rw [AccessibilityHandler.onFinished, hgrants]
  exact writeGrants_records hwriter 0 _

theorem map_fst_allReports :
    (((order.keys (afterItems .default arrivals).events).flatMap
      (uidReports (afterItems .default arrivals).storedEvents)).map Prod.fst).Perm
        ((afterItems .default arrivals).storedEvents.filter Event.isGrant) := by
  apply map_fst_flatMap_uidReports (order.nodup_keys _)
  intro event hevent
  rw [events_afterItems, order.mem_keys_groupBy]
  exact List.mem_map_of_mem ((storedEvents_afterItems arrivals).mem_iff.1 hevent)

variable {arrivals}

theorem storedEvents_perm {arrivals' : List Arrival} (hperm : arrivals'.Perm arrivals) :
    (afterItems .default arrivals').storedEvents.Perm
      (afterItems .default arrivals).storedEvents :=
  (storedEvents_afterItems arrivals').trans
    ((hperm.filterMap _).trans (storedEvents_afterItems arrivals).symm)

theorem keys_perm {arrivals' : List Arrival} (hperm : arrivals'.Perm arrivals)
    (order' : Iteration Int32 (List Event)) :
    (order'.keys (afterItems .default arrivals').events).Perm
      (order.keys (afterItems .default arrivals).events) := by
  rw [events_afterItems, events_afterItems]
  exact order.keys_groupBy_perm (hperm.filterMap _) order'

end Finished

/-- After items that were all handled, `on_finished` writes one atom for each
stored grant, with the calls that are put down to it, latest first; no call is
in two atoms; and other orders of arrival and of the hash map only move the
atoms of one uid before those of another. -/
theorem grants_attributed {writer : AtomWriter} (hwriter : ∀ n, writer n = .ok ())
    (order : Iteration Int32 (List Event)) (arrivals : List Arrival)
    (hok : ItemsOk .default arrivals)
    (hdistinct : DistinctTimes (afterItems .default arrivals).storedEvents) :
    (∃ all : List Report,
      (afterItems .default arrivals).onFinished order writer =
        ⟨all.map Report.atom, .ok ()⟩ ∧
      (all.map Prod.fst).Perm
        ((afterItems .default arrivals).storedEvents.filter Event.isGrant) ∧
      (∀ report ∈ all, StrictlyDescending Event.time report.2 ∧
        ∀ a, a ∈ report.2 ↔
          Attributed (afterItems .default arrivals).storedEvents report.1 a) ∧
      all.Pairwise fun report report' => report.2.Disjoint report'.2) ∧
    ∀ arrivals' : List Arrival, arrivals'.Perm arrivals →
      ItemsOk .default arrivals' ∧
      ∀ order' : Iteration Int32 (List Event),
        ∃ (uidAtoms : Int32 → List UnstructuredAtom) (uids uids' : List Int32),
          (∀ uid, ∀ atom ∈ uidAtoms uid, CarriesUid atom uid) ∧
          uids.Nodup ∧ uids'.Perm uids ∧
          (afterItems .default arrivals).onFinished order writer =
            ⟨uids.flatMap uidAtoms, .ok ()⟩ ∧
          (afterItems .default arrivals').onFinished order' writer =
            ⟨uids'.flatMap uidAtoms, .ok ()⟩ := by
  have hfinished := onFinished_afterItems hwriter order arrivals hdistinct
  have hgrants := map_fst_allReports order arrivals
  have hspec : ∀ report ∈ (order.keys (afterItems .default arrivals).events).flatMap
      (uidReports (afterItems .default arrivals).storedEvents),
      StrictlyDescending Event.time report.2 ∧ ∀ a, a ∈ report.2 ↔
        Attributed (afterItems .default arrivals).storedEvents report.1 a := by
    intro report hmem
    obtain ⟨uid, _, hreport⟩ := List.mem_flatMap.1 hmem
    exact (uidReports_spec hdistinct hreport).2
  have hdisjoint := pairwise_disjoint_reports hdistinct hgrants fun report hreport =>
    (hspec report hreport).2
  refine ⟨⟨_, hfinished, hgrants, hspec, hdisjoint⟩, ?_⟩
  intro arrivals' hperm
  constructor
  · rw [itemsOk_iff] at hok ⊢
    exact fun arrival harrival => hok arrival (hperm.mem_iff.1 harrival)
  · intro order'
    have hstored := storedEvents_perm hperm
    have hfinished' := onFinished_afterItems hwriter order' arrivals' (hdistinct.perm hstored)
    refine ⟨fun uid =>
        (uidReports (afterItems .default arrivals).storedEvents uid).map Report.atom,
      _, _, ?_, order.nodup_keys _, keys_perm order hperm order', ?_, ?_⟩
    · intro uid atom hatom
      obtain ⟨report, hreport, rfl⟩ := List.mem_map.1 hatom
      rw [← (uidReports_spec hdistinct hreport).1]
      exact ⟨_, rfl⟩
    · rw [hfinished, List.map_flatMap]
    · rw [hfinished', List.map_flatMap]
      simp only [uidReports_eq_of_perm hdistinct hstored]

/-! Two grants and two calls, the earlier grant first to arrive. -/

/-- A bridge service that knows one app. -/
def oneAppService (uid : Int32) : BridgeService where
  onGet := .ok ()
  onPackageHasEnabledAccessibilityService _ := .ok true
  onGetUidForPackage _ := .ok uid
  onEnqueueEvent _ _ := .ok ()

def permissionEvent (packageName permissionName : String) (timestampNs : UInt64) :
    AccessibilityEvent where
  errorCode := 0
  timestampNs := timestampNs
  variant := 1
  packageName := fill maxStringLength 0 (asBytes packageName)
  permissionName := fill maxStringLength 0 (asBytes permissionName)
  uid := 0
  code := 0
  packageName_length := length_fill_name packageName
  permissionName_length := length_fill_name permissionName

def a11yEvent (uid code : Int32) (timestampNs : UInt64) : AccessibilityEvent where
  errorCode := 0
  timestampNs := timestampNs
  variant := 2
  packageName := fill maxStringLength 0 (asBytes "")
  permissionName := fill maxStringLength 0 (asBytes "")
  uid := uid
  code := code
  packageName_length := length_fill_name ""
  permissionName_length := length_fill_name ""

def twoGrants : List Arrival := [
  ⟨permissionEvent "pkg.name.a" "android.permission.A" 20000000, oneAppService 123⟩,
  ⟨a11yEvent 123 456 10000000, oneAppService 123⟩,
  ⟨permissionEvent "pkg.name.b" "android.permission.B" 40000000, oneAppService 123⟩,
  ⟨a11yEvent 123 789 30000000, oneAppService 123⟩]

/-- A name that the handler can read. -/
def readable (name : String) : Bool :=
  decide (0 ∉ asBytes name) && decide ((asBytes name).length < maxStringLength) && !name.isEmpty

theorem toBridgeEvent_ne_panic (event : Event) : ∃ sent, event.toBridgeEvent = .ok sent := by
  rw [Event.toBridgeEvent, tryIntoI64_asMillis]
  exact ⟨_, rfl⟩

theorem outcome_permissionEvent (packageName permissionName : String)
    (hpackage : readable packageName = true) (hpermission : readable permissionName = true)
    (hsystem : startsWith permissionName "android.permission" = true) (uid : Int32)
    (timestampNs : UInt64) :
    (handleItem (oneAppService uid)
      (permissionEvent packageName permissionName timestampNs)).outcome =
        .ok (some (.new uid timestampNs (.runtimePermissionGrant permissionName))) := by
  have hread : ∀ name, readable name = true →
      bytesAsNonemptyStr (fill maxStringLength 0 (asBytes name)) = .ok name := by
    intro name hname
    simp only [readable, Bool.and_eq_true, decide_eq_true_eq, Bool.not_eq_true'] at hname
    exact bytesAsNonemptyStr_fill hname.1.1 hname.1.2 hname.2
  obtain ⟨sent, hsent⟩ := toBridgeEvent_ne_panic
    (.new uid timestampNs (.runtimePermissionGrant permissionName))
  have hitem : handleItem (oneAppService uid)
      (permissionEvent packageName permissionName timestampNs) =
        handlePermissionGrantEvent (oneAppService uid)
          (permissionEvent packageName permissionName timestampNs) timestampNs := rfl
  rw [hitem, handlePermissionGrantEvent]
  simp only [permissionEvent, hread _ hpackage, hread _ hpermission, Run.bind_ofExcept_ok, hsystem,
    Bool.not_true, Bool.false_eq_true, ↓reduceIte]
  have hget : (oneAppService uid).get.outcome = .ok () := rfl
  have henabled : ((oneAppService uid).packageHasEnabledAccessibilityService packageName).outcome =
      .ok true := rfl
  have huid : ((oneAppService uid).getUidForPackage packageName).outcome = .ok uid := rfl
  rw [Run.outcome_bind_of_ok hget, Run.outcome_bind_of_ok henabled]
  simp only [Bool.not_true, Bool.false_eq_true, ↓reduceIte]
  rw [Run.outcome_bind_of_ok huid, hsent]
  rfl

theorem outcome_a11yEvent (service uid code : Int32) (timestampNs : UInt64) :
    (handleItem (oneAppService service) (a11yEvent uid code timestampNs)).outcome =
      .ok (some (.new uid timestampNs (.a11y code))) := by
  obtain ⟨sent, hsent⟩ := toBridgeEvent_ne_panic (.new uid timestampNs (.a11y code))
  have hitem : handleItem (oneAppService service) (a11yEvent uid code timestampNs) =
      handleA11yEvent (oneAppService service) (a11yEvent uid code timestampNs) timestampNs := rfl
  rw [hitem, handleA11yEvent]
  simp only [a11yEvent, hsent]
  rfl

/-- What the four items add to the handler. -/
def twoGrantEvents : List Event := [
  .new 123 20000000 (.runtimePermissionGrant "android.permission.A"),
  .new 123 10000000 (.a11y 456),
  .new 123 40000000 (.runtimePermissionGrant "android.permission.B"),
  .new 123 30000000 (.a11y 789)]

theorem outcomes_twoGrants :
    twoGrants.map (fun arrival => (handleItem arrival.service arrival.data).outcome) =
      twoGrantEvents.map fun event => .ok (some event) := by
  have hgrantA := outcome_permissionEvent "pkg.name.a" "android.permission.A"
    (by decide) (by decide) (by decide) 123 20000000
  have hgrantB := outcome_permissionEvent "pkg.name.b" "android.permission.B"
    (by decide) (by decide) (by decide) 123 40000000
  simp only [twoGrants, twoGrantEvents, List.map_cons, List.map_nil, hgrantA, hgrantB,
    outcome_a11yEvent]

theorem event_twoGrants : twoGrants.filterMap Arrival.event = twoGrantEvents := by
  have hevent : Arrival.event = eventToStore ∘ fun arrival =>
      (handleItem arrival.service arrival.data).outcome := rfl
  rw [hevent, ← List.filterMap_map, outcomes_twoGrants, List.filterMap_map]
  exact List.filterMap_some

/-- The theorem at the four items: two atoms without a common call. -/
theorem grants_attributed_twoGrants :
    ItemsOk .default twoGrants ∧ DistinctTimes (afterItems .default twoGrants).storedEvents ∧
      ∃ all : List Report, all.length = 2 ∧
        (afterItems .default twoGrants).onFinished .asStored (fun _ => .ok ()) =
          ⟨all.map Report.atom, .ok ()⟩ ∧
        all.Pairwise fun report report' => report.2.Disjoint report'.2 := by
  have hok : ItemsOk .default twoGrants := by
    rw [itemsOk_iff]
    intro arrival harrival
    have hmem := List.mem_map_of_mem
      (f := fun arrival => (handleItem arrival.service arrival.data).outcome) harrival
    rw [outcomes_twoGrants] at hmem
    obtain ⟨event, _, hevent⟩ := List.mem_map.1 hmem
    exact ⟨some event, hevent.symm⟩
  have hstored := storedEvents_afterItems twoGrants
  rw [event_twoGrants] at hstored
  have hdistinct : DistinctTimes (afterItems .default twoGrants).storedEvents := by
    have htimes : DistinctTimes twoGrantEvents := by
      unfold DistinctTimes
      decide
    exact htimes.perm hstored
  refine ⟨hok, hdistinct, ?_⟩
  obtain ⟨⟨all, hfinished, hgrants, _, hdisjoint⟩, _⟩ :=
    grants_attributed (fun _ => rfl) .asStored twoGrants hok hdistinct
  refine ⟨all, ?_, hfinished, hdisjoint⟩
  have hlength := hgrants.length_eq
  rw [List.length_map, (hstored.filter Event.isGrant).length_eq] at hlength
  exact hlength

end UprobeStats.Accessibility
