/-
The atoms of the handlers and the writer that hands them to statsd.  Every
string a handler writes was read in front of a NUL, so the writer never refuses
an atom for its content, and what statsd is handed is what the handler made.
-/
import UprobeStats.AccessibilitySinks
import UprobeStats.Attribution
import UprobeStats.StatsEvents
import UprobeStats.TaskHandlers

namespace UprobeStats

open Bytes Grouping Traced

/-- The writer hands the atom over as it is, and fails exactly where the native
library does. -/
def Delivered (atom : UnstructuredAtom) : Prop :=
  ∀ res, received (AStatsEventWriter.write res atom).trace = some [atom] ∧
    ((AStatsEventWriter.write res atom).outcome = .ok () ↔ 0 ≤ res)

theorem UnstructuredAtom.NulFree.delivered {atom : UnstructuredAtom} (hfree : atom.NulFree) :
    Delivered atom := by
  intro res
  obtain ⟨hreceived, _, hok, _⟩ := AStatsEventWriter.write_hands_over res atom
  exact ⟨hreceived.2 hfree, hok.trans (and_iff_right hfree)⟩

/-! Strings that were read from a record. -/

theorem nul_notMem_of_bytesAsStr {bytes : List UInt8} {s : String}
    (hread : bytesAsStr bytes = .ok s) : 0 ∉ asBytes s := by
  rw [asBytes_of_bytesAsStr hread]
  exact nul_notMem_text bytes

theorem nul_notMem_of_bytesAsNonemptyStr {bytes : List UInt8} {s : String}
    (hread : bytesAsNonemptyStr bytes = .ok s) : 0 ∉ asBytes s := by
  obtain ⟨string, hstring, hnonempty⟩ := bind_eq_ok_iff.1 hread
  split at hnonempty
  · cases hnonempty
  · cases hnonempty
    exact nul_notMem_of_bytesAsStr hstring

theorem outcome_otherwise_eq_ok_iff {α : Type} {answer : Except AnyError α} {value : α} :
    (otherwise answer).outcome = .ok value ↔ answer = .ok value := by
  rw [otherwise, Run.outcome_mapErr_eq_ok_iff, Run.outcome_ofExcept_eq_ok_iff]

/-! The handlers that follow the config of the task. -/

/-- Whatever is sent as an unstructured atom has no NUL in a string. -/
def Sent.NulFree (sent : Sent) : Prop := ∀ atom, sent = .unstructured atom → atom.NulFree

theorem all_nulFree_of_quiet {ε α : Type} {run : Run Sent ε α} (hnil : run.trace = []) :
    run.All Sent.NulFree :=
  .of_trace_eq_nil hnil

theorem all_nulFree_ask {α : Type} {sent : Sent} (hsent : sent.NulFree)
    (answer : Except String α) : (Environment.ask sent answer).All Sent.NulFree :=
  (Run.All.emit hsent).bind fun _ => .of_trace_eq_nil (Run.trace_ofExcept _)

theorem all_nulFree_writeUnstructured (env : Environment) (place : Nat) {atom : UnstructuredAtom}
    (hatom : atom.NulFree) :
    ((env.writeUnstructured place atom).mapErr HandlerFault.other).All Sent.NulFree := by
  refine (all_nulFree_ask ?_ _).mapErr _
  intro other heq
  rw [← Sent.unstructured.inj heq]
  exact hatom

theorem trace_otherwise {α : Type} (answer : Except AnyError α) :
    (otherwise answer).trace = [] := by
  rw [otherwise, Run.trace_mapErr, Run.trace_ofExcept]

theorem trace_requiredAtomId (config : Proto.StatsdLoggingConfig) :
    (requiredAtomId config).trace = [] := by
  unfold requiredAtomId
  split <;> rfl

theorem trace_atomIdTryInto (atomId : Int64) : (atomIdTryInto atomId).trace = [] := by
  unfold atomIdTryInto
  split <;> rfl

/-- The handlers that build the atom from its id on write the fields they have
been given. -/
theorem logToStatsd_all_nulFree (env : Environment) (task : ResolvedTask)
    {fields : Run Sent HandlerFault (List Field)} (hquiet : fields.trace = [])
    (hfields : ∀ made, fields.outcome = .ok made → ∀ field ∈ made, field.value.NulFree) :
    (logToStatsd env task fields).All Sent.NulFree := by
  unfold logToStatsd
  split
  · exact all_nulFree_of_quiet rfl
  · refine (all_nulFree_of_quiet (trace_requiredAtomId _)).bind fun _ =>
      (all_nulFree_of_quiet (trace_atomIdTryInto _)).bind fun atomId =>
        (all_nulFree_of_quiet hquiet).bind_ok fun made hmade => ?_
    exact all_nulFree_writeUnstructured env 0 (hfields made hmade)

theorem argumentField_nulFree {data : CallResult} {position : Int32} {field : Field}
    (hfield : (argumentField data position).outcome = .ok field) : field.value.NulFree := by
  unfold argumentField at hfield
  dsimp only at hfield
  split at hfield
  · cases hfield
  · split at hfield
    · cases hfield
    · split at hfield
      · cases hfield
        trivial
      · cases hfield

theorem trace_argumentField (data : CallResult) (position : Int32) :
    (argumentField data position).trace = [] := by
  unfold argumentField
  dsimp only
  split
  · rfl
  · split
    · rfl
    · split <;> rfl

theorem argumentFields_quiet (data : CallResult) (positions : List Int32) :
    (argumentFields data positions).trace = [] ∧
      ∀ made, (argumentFields data positions).outcome = .ok made →
        ∀ field ∈ made, field.value.NulFree := by
  induction positions with
  | nil =>
      refine ⟨rfl, ?_⟩
      intro made hmade
      cases hmade
      simp
  | cons position rest ih =>
      constructor
      · exact Run.trace_bind_eq_nil (trace_argumentField data position) fun _ =>
          Run.trace_bind_eq_nil ih.1 fun _ => rfl
      · intro made hmade
        obtain ⟨field, hfield, hrest⟩ := Run.bind_eq_ok_iff.1 hmade
        obtain ⟨fields, hfields, hmade⟩ := Run.bind_eq_ok_iff.1 hrest
        cases hmade
        rw [List.forall_mem_cons]
        exact ⟨argumentField_nulFree hfield, ih.2 fields hfields⟩

namespace BinderTransactionHandler

theorem positionField_nulFree {uid : Int32} {name : String} {code : Int32} {timestampNs : Int64}
    {position : AtomFieldPosition} {field : Field} (hname : 0 ∉ asBytes name)
    (hfield : (positionField uid name code timestampNs position).outcome = .ok field) :
    field.value.NulFree := by
  cases position with
  | interfaceName =>
      cases hfield
      exact hname
  | unknown => cases hfield
  | _ =>
      cases hfield
      trivial

theorem positionFields_quiet (uid : Int32) {name : String} (code : Int32) (timestampNs : Int64)
    (hname : 0 ∉ asBytes name) (positions : List AtomFieldPosition) :
    (positionFields uid name code timestampNs positions).trace = [] ∧
      ∀ made, (positionFields uid name code timestampNs positions).outcome = .ok made →
        ∀ field ∈ made, field.value.NulFree := by
  induction positions with
  | nil =>
      refine ⟨rfl, ?_⟩
      intro made hmade
      cases hmade
      simp
  | cons position rest ih =>
      constructor
      · refine Run.trace_bind_eq_nil ?_ fun _ => Run.trace_bind_eq_nil ih.1 fun _ => rfl
        cases position <;> rfl
      · intro made hmade
        obtain ⟨field, hfield, hrest⟩ := Run.bind_eq_ok_iff.1 hmade
        obtain ⟨fields, hfields, hmade⟩ := Run.bind_eq_ok_iff.1 hrest
        cases hmade
        rw [List.forall_mem_cons]
        exact ⟨positionField_nulFree hname hfield, ih.2 fields hfields⟩

theorem onItem_all_nulFree (env : Environment) (task : ResolvedTask) (item : BinderTransaction) :
    (onItem env task item).All Sent.NulFree := by
  refine (all_nulFree_of_quiet (trace_otherwise _)).bind_ok fun name hname => ?_
  have hnul := nul_notMem_of_bytesAsNonemptyStr (outcome_otherwise_eq_ok_iff.1 hname)
  cases findMethod task name item.code with
  | none => exact all_nulFree_of_quiet rfl
  | some methodConfig =>
      refine .ite (Run.All.bind ?_ fun _ => ?_) (all_nulFree_of_quiet rfl)
      · cases methodConfig.atomConfig with
        | none => exact all_nulFree_of_quiet rfl
        | some atomConfig =>
            refine (all_nulFree_of_quiet (trace_otherwise _)).bind fun timestampNs => ?_
            obtain ⟨hquiet, hfields⟩ := positionFields_quiet item.callingUid
              (Int32.ofNat item.code.toNat) timestampNs hnul atomConfig.atomFieldPositions
            refine (all_nulFree_of_quiet hquiet).bind_ok fun made hmade => ?_
            exact all_nulFree_writeUnstructured env 0 (hfields made hmade)
      · cases methodConfig.eventServiceConfig with
        | none => exact all_nulFree_of_quiet rfl
        | some eventServiceConfig =>
            refine ((all_nulFree_of_quiet rfl).mapErr _).bind fun timestampMs => ?_
            refine ((all_nulFree_ask ?_ _).bind fun _ => all_nulFree_ask ?_ _).mapErr _
            · intro atom heq
              cases heq
            · intro atom heq
              cases heq

end BinderTransactionHandler

theorem TaskRecord.onItem_all_nulFree (env : Environment) (task : ResolvedTask)
    (record : TaskRecord) : (record.onItem env task).All Sent.NulFree := by
  cases record with
  | binderTransaction record => exact BinderTransactionHandler.onItem_all_nulFree env task record
  | callTimestamp record =>
      refine logToStatsd_all_nulFree env task rfl ?_
      intro made hmade field hfield
      cases hmade
      simp only [List.mem_cons, List.not_mem_nil, or_false] at hfield
      rcases hfield with rfl | rfl <;> trivial
  | callResult record =>
      change (CallResultHandler.onItem env task record).All Sent.NulFree
      unfold CallResultHandler.onItem
      split
      · exact all_nulFree_of_quiet rfl
      · obtain ⟨hquiet, hfields⟩ := argumentFields_quiet record _
        refine (all_nulFree_of_quiet (trace_requiredAtomId _)).bind fun _ =>
          (all_nulFree_of_quiet hquiet).bind_ok fun made hmade =>
            (all_nulFree_of_quiet (trace_atomIdTryInto _)).bind fun atomId => ?_
        exact all_nulFree_writeUnstructured env 0 (hfields made hmade)
  | setUidTempAllowlistState record =>
      refine logToStatsd_all_nulFree env task ?_ ?_
      · exact Run.trace_bind_eq_nil (trace_otherwise _) fun _ => rfl
      · intro made hmade field hfield
        obtain ⟨uid, _, hmade⟩ := Run.bind_eq_ok_iff.1 hmade
        cases hmade
        simp only [List.mem_cons, List.not_mem_nil, or_false] at hfield
        rcases hfield with rfl | rfl <;> trivial
  | updateDeviceIdleTempAllowlist record =>
      refine logToStatsd_all_nulFree env task ?_ ?_
      · exact Run.trace_bind_eq_nil (trace_otherwise _) fun _ => rfl
      · intro made hmade field hfield
        obtain ⟨reason, hreason, hmade⟩ := Run.bind_eq_ok_iff.1 hmade
        have hnul := nul_notMem_of_bytesAsStr (outcome_otherwise_eq_ok_iff.1 hreason)
        cases hmade
        simp only [List.mem_cons, List.not_mem_nil, or_false] at hfield
        rcases hfield with rfl | rfl | rfl | rfl | rfl | rfl | rfl
        all_goals trivial

/-! The handler that writes at the end. -/

namespace Accessibility

theorem permissionName_nulFree {arrival : Arrival} {event : Event}
    (hevent : arrival.event = some event) : 0 ∉ asBytes event.permissionName := by
  rw [Arrival.event] at hevent
  cases handled_item arrival.service arrival.data with
  | failed e houtcome =>
      rw [houtcome] at hevent
      cases hevent
  | passed houtcome hnone =>
      rw [houtcome] at hevent
      cases hevent
  | granted packageName permissionName uid sent hvariant hgrant hsent haccepted hrun =>
      rw [hrun] at hevent
      cases hevent
      exact nul_notMem_of_bytesAsNonemptyStr hgrant.permission_eq
  | called sent hvariant hsent haccepted hrun =>
      rw [hrun] at hevent
      cases hevent
      intro hmem
      cases hmem

/-- Whatever statsd answers, only atoms of the reports are written. -/
theorem mem_trace_writeGrants {writer : AtomWriter} {n : Nat} {all : List Report}
    {atom : UnstructuredAtom}
    (hatom : atom ∈ (writeGrants writer n (all.map Report.record)).trace) :
    ∃ report ∈ all, atom = report.atom := by
  induction all generalizing n with
  | nil => cases hatom
  | cons report rest ih =>
      rw [List.map_cons, writeGrants, grantAtom_record, Run.bind_ofExcept_ok,
        Run.mem_trace_bind] at hatom
      rcases hatom with hatom | ⟨_, _, hatom⟩
      · rw [AtomWriter.write, Run.trace_bind_emit, Run.trace_ofExcept, List.mem_singleton] at hatom
        exact ⟨report, List.mem_cons_self, hatom⟩
      · obtain ⟨other, hother, hatom⟩ := ih hatom
        exact ⟨other, List.mem_cons_of_mem report hother, hatom⟩

theorem Report.atom_nulFree {report : Report} (hname : 0 ∉ asBytes report.1.permissionName) :
    report.atom.NulFree := by
  intro field hfield
  simp only [Report.atom, List.mem_cons, List.not_mem_nil, or_false] at hfield
  rcases hfield with rfl | rfl | rfl | rfl | rfl
  all_goals trivial

theorem onFinished_nulFree (order : Iteration Int32 (List Event)) (writer : AtomWriter)
    (arrivals : List Arrival) {atom : UnstructuredAtom}
    (hatom : atom ∈ ((afterItems .default arrivals).onFinished order writer).trace) :
    atom.NulFree := by
  rw [AccessibilityHandler.onFinished] at hatom
  have hrecords : ((order.values (afterItems .default arrivals).events).flatMap
      fun events => associateEvents (sortEvents events)) =
        ((order.values (afterItems .default arrivals).events).flatMap
          fun events => reports (sortEvents events)).map Report.record := by
    rw [List.map_flatMap]
    exact List.flatMap_congr fun events _ => associateEvents_eq_reports _
  rw [hrecords] at hatom
  obtain ⟨report, hreport, rfl⟩ := mem_trace_writeGrants hatom
  apply Report.atom_nulFree
  -- the grant of a report is one of the stored events, and each of these came with an item
  obtain ⟨events, hevents, hreport⟩ := List.mem_flatMap.1 hreport
  obtain ⟨later, rest, hsplit, _⟩ := exists_of_mem_reports hreport
  have hmem : report.1 ∈ events := by
    rw [← (descending_perm Event.time events).mem_iff]
    change report.1 ∈ sortEvents events
    rw [hsplit]
    simp
  rw [events_afterItems, order.values_groupBy] at hevents
  obtain ⟨uid, _, rfl⟩ := List.mem_map.1 hevents
  obtain ⟨arrival, _, harrival⟩ := List.mem_filterMap.1 (List.mem_filter.1 hmem).1
  exact permissionName_nulFree harrival

end Accessibility

end UprobeStats
