/-
Atoms on their way to statsd: the writer builds an event by calls of the native
library, field by field, and hands it over.  A reader that understands the
calls gets back the atom that was written, or nothing where a string cannot be
handed over.
-/
import UprobeStats.Lib.Ownership
import UprobeStats.Sinks
import UprobeStats.Strings

namespace UprobeStats

open Traced Ownership Bytes

/-- The calls of the `AStatsEvent` library. -/
inductive StatsCall where
  | obtain
  | setAtomId (atomId : UInt32)
  | writeBool (value : Bool)
  | writeInt32 (value : Int32)
  | writeInt64 (value : Int64)
  | writeString (value : List UInt8)
  | writeInt32Array (value : List Int32)
  | writeInt64Array (value : List Int64)
  | addBoolAnnotationOf (annotationId : UInt8) (value : Bool)
  | write
  | release
deriving DecidableEq, Repr

/-- `ASTATSLOG_ANNOTATION_ID_IS_UID`. -/
def annotationIdIsUid : UInt8 := 1

namespace AStatsEvent

/-- `write_string`. -/
def writeString (value : String) : Run StatsCall AnyError Unit := do
  let value ← Run.ofExcept (cString value)
  Run.emit (.writeString value)

/-- `write`, with the answer of `AStatsEvent_write`. -/
def write (res : Int32) : Run StatsCall AnyError Unit := do
  Run.emit .write
  if res < 0 then
    Run.fail (.message ("Failed to write event. Error code: " ++ toString res))
  else return ()

end AStatsEvent

namespace AStatsEventWriter

/-- The `match` over the value of a field. -/
def writeValue : AtomValue → Run StatsCall AnyError Unit
  | .bool value => Run.emit (.writeBool value)
  | .int32 value => Run.emit (.writeInt32 value)
  | .int64 value => Run.emit (.writeInt64 value)
  | .string value => AStatsEvent.writeString value
  | .int32Vec value => Run.emit (.writeInt32Array value)
  | .int64Vec value => Run.emit (.writeInt64Array value)

def addAnnotation : FieldAnnotation → StatsCall
  | .isUid value => .addBoolAnnotationOf annotationIdIsUid value

/-- The body of the loop over the fields. -/
def writeField (field : Field) : Run StatsCall AnyError Unit := do
  writeValue field.value
  ⟨field.annotations.map addAnnotation, .ok ()⟩

def writeFields : List Field → Run StatsCall AnyError Unit
  | [] => return ()
  | field :: rest => do
      writeField field
      writeFields rest

/-- `AStatsEventWriter::write`.  The event is released when it is dropped. -/
def write (res : Int32) (atom : UnstructuredAtom) : Run StatsCall AnyError Unit :=
  Run.owning .obtain .release do
    Run.emit (.setAtomId atom.atomId)
    writeFields atom.fields
    AStatsEvent.write res

end AStatsEventWriter

/-! What the calls mean. -/

/-- The event that is being built, and the atoms handed over so far. -/
structure Receiver where
  event : Option UnstructuredAtom
  written : List UnstructuredAtom
deriving DecidableEq, Repr

namespace Receiver

def field (r : Receiver) (value : AtomValue) : Option Receiver :=
  r.event.map fun atom =>
    { r with event := some { atom with fields := atom.fields ++ [.new value] } }

/-- An annotation belongs to the last field that was written. -/
def annotated (fields : List Field) (kind : FieldAnnotation) : Option (List Field) :=
  match fields.getLast? with
  | none => none
  | some field =>
      some (fields.dropLast ++ [{ field with annotations := field.annotations ++ [kind] }])

def step (r : Receiver) : StatsCall → Option Receiver
  | .obtain => if r.event.isNone then some { r with event := some ⟨0, []⟩ } else none
  | .setAtomId atomId =>
      r.event.map fun atom => { r with event := some { atom with atomId := atomId } }
  | .writeBool value => r.field (.bool value)
  | .writeInt32 value => r.field (.int32 value)
  | .writeInt64 value => r.field (.int64 value)
  | .writeString value => (fromUtf8 value).bind fun text => r.field (.string text)
  | .writeInt32Array value => r.field (.int32Vec value)
  | .writeInt64Array value => r.field (.int64Vec value)
  | .addBoolAnnotationOf annotationId value =>
      if annotationId = annotationIdIsUid then
        r.event.bind fun atom => (annotated atom.fields (.isUid value)).map fun fields =>
          { r with event := some { atom with fields := fields } }
      else none
  | .write => r.event.map fun atom => { r with written := r.written ++ [atom] }
  | .release => if r.event.isSome then some { r with event := none } else none

def run (r : Receiver) (calls : List StatsCall) : Option Receiver :=
  calls.foldlM step r

end Receiver

/-- The atoms that a list of calls hands over, or `none` when the library is
misused. -/
def received (calls : List StatsCall) : Option (List UnstructuredAtom) :=
  (Receiver.run ⟨none, []⟩ calls).map Receiver.written

/-- The string can be handed over as a C string. -/
def AtomValue.NulFree : AtomValue → Prop
  | .string value => 0 ∉ asBytes value
  | _ => True

/-- Every string of the atom can be handed over. -/
def UnstructuredAtom.NulFree (atom : UnstructuredAtom) : Prop :=
  ∀ field ∈ atom.fields, field.value.NulFree

namespace Receiver

theorem run_append (r : Receiver) (first second : List StatsCall) :
    r.run (first ++ second) = (r.run first).bind (run · second) :=
  List.foldlM_append

theorem annotated_append (fields : List Field) (field : Field) (kind : FieldAnnotation) :
    annotated (fields ++ [field]) kind =
      some (fields ++ [{ field with annotations := field.annotations ++ [kind] }]) := by
  simp [annotated]

theorem run_annotations (atomId : UInt32) (fields : List Field) (value : AtomValue)
    (before annotations : List FieldAnnotation) (written : List UnstructuredAtom) :
    run ⟨some ⟨atomId, fields ++ [⟨value, before⟩]⟩, written⟩
        (annotations.map AStatsEventWriter.addAnnotation) =
      some ⟨some ⟨atomId, fields ++ [⟨value, before ++ annotations⟩]⟩, written⟩ := by
  induction annotations generalizing before with
  | nil => simp [run]
  | cons kind rest ih =>
      cases kind with
      | isUid flag =>
          have hrest := ih (before ++ [.isUid flag])
          simpa [run, step, AStatsEventWriter.addAnnotation, annotated_append] using hrest

end Receiver

namespace AStatsEventWriter

/-- A value is handed over as the field it is, or not at all. -/
theorem writeValue_cases (value : AtomValue) :
    (value.NulFree ∧ (writeValue value).outcome = .ok () ∧
        ∀ atomId fields written, Receiver.run ⟨some ⟨atomId, fields⟩, written⟩
          (writeValue value).trace = some ⟨some ⟨atomId, fields ++ [⟨value, []⟩]⟩, written⟩) ∨
      (¬ value.NulFree ∧
        writeValue value = ⟨[], .error (.message "Failed to create CString")⟩) := by
  cases value with
  | string value =>
      by_cases hnul : 0 ∈ asBytes value
      · right
        refine ⟨by simpa [AtomValue.NulFree] using hnul, ?_⟩
        simp [writeValue, AStatsEvent.writeString, cString, hnul]
      · left
        have hwrite : writeValue (.string value) = ⟨[.writeString (asBytes value)], .ok ()⟩ := by
          simp [writeValue, AStatsEvent.writeString, cString, hnul, Run.emit]
        rw [hwrite]
        refine ⟨hnul, rfl, ?_⟩
        intro atomId fields written
        simp [Receiver.run, Receiver.step, fromUtf8_asBytes, Receiver.field, Field.new]
  | bool value => exact Or.inl ⟨trivial, rfl, fun _ _ _ => rfl⟩
  | int32 value => exact Or.inl ⟨trivial, rfl, fun _ _ _ => rfl⟩
  | int64 value => exact Or.inl ⟨trivial, rfl, fun _ _ _ => rfl⟩
  | int32Vec value => exact Or.inl ⟨trivial, rfl, fun _ _ _ => rfl⟩
  | int64Vec value => exact Or.inl ⟨trivial, rfl, fun _ _ _ => rfl⟩

/-- The same of a field with its annotations. -/
theorem writeField_cases (field : Field) :
    (field.value.NulFree ∧ (writeField field).outcome = .ok () ∧
        ∀ atomId fields written, Receiver.run ⟨some ⟨atomId, fields⟩, written⟩
          (writeField field).trace = some ⟨some ⟨atomId, fields ++ [field]⟩, written⟩) ∨
      (¬ field.value.NulFree ∧
        writeField field = ⟨[], .error (.message "Failed to create CString")⟩) := by
  rcases writeValue_cases field.value with ⟨hfree, hok, hrun⟩ | ⟨hnul, hvalue⟩
  · left
    have hfield : writeField field =
        ⟨(writeValue field.value).trace ++ field.annotations.map addAnnotation, .ok ()⟩ :=
      Run.bind_of_ok hok _
    refine ⟨hfree, by rw [hfield], ?_⟩
    intro atomId fields written
    rw [hfield, Receiver.run_append, hrun, Option.bind_some]
    simpa using Receiver.run_annotations atomId fields field.value [] field.annotations written
  · right
    refine ⟨hnul, ?_⟩
    rw [writeField, hvalue]
    rfl

/-- The loop hands over all fields, or stops in front of the first one with a
string that cannot be handed over. -/
theorem writeFields_cases (fields : List Field) :
    ((∀ field ∈ fields, field.value.NulFree) ∧ (writeFields fields).outcome = .ok () ∧
        ∀ atomId before written, Receiver.run ⟨some ⟨atomId, before⟩, written⟩
          (writeFields fields).trace = some ⟨some ⟨atomId, before ++ fields⟩, written⟩) ∨
      (¬ (∀ field ∈ fields, field.value.NulFree) ∧
        (writeFields fields).outcome = .error (.message "Failed to create CString") ∧
        ∀ atomId before written, ∃ built, Receiver.run ⟨some ⟨atomId, before⟩, written⟩
          (writeFields fields).trace = some ⟨some built, written⟩) := by
  induction fields with
  | nil =>
      refine Or.inl ⟨by simp, rfl, ?_⟩
      intro atomId before written
      rw [List.append_nil]
      rfl
  | cons field rest ih =>
      rcases writeField_cases field with ⟨hfree, hok, hrun⟩ | ⟨hnul, hfield⟩
      · have hloop : writeFields (field :: rest) =
            ⟨(writeField field).trace ++ (writeFields rest).trace, (writeFields rest).outcome⟩ :=
          Run.bind_of_ok hok _
        rw [hloop, List.forall_mem_cons]
        rcases ih with ⟨hrestFree, hrestOk, hrestRun⟩ | ⟨hrestNul, hrestError, hrestRun⟩
        · refine Or.inl ⟨⟨hfree, hrestFree⟩, hrestOk, ?_⟩
          intro atomId before written
          rw [Receiver.run_append, hrun, Option.bind_some, hrestRun, List.append_assoc]
          rfl
        · refine Or.inr ⟨fun hall => hrestNul hall.2, hrestError, ?_⟩
          intro atomId before written
          rw [Receiver.run_append, hrun, Option.bind_some]
          exact hrestRun atomId _ written
      · right
        have hloop : writeFields (field :: rest) =
            ⟨[], .error (.message "Failed to create CString")⟩ := by
          rw [writeFields, hfield]
          rfl
        rw [hloop]
        refine ⟨fun hall => hnul (hall field List.mem_cons_self), rfl, ?_⟩
        intro atomId before written
        exact ⟨_, rfl⟩

/-- What `write` does between the `obtain` and the `release`. -/
theorem write_body (res : Int32) (atom : UnstructuredAtom) :
    write res atom = Run.owning .obtain .release
      (Run.emit (.setAtomId atom.atomId) >>= fun _ =>
        writeFields atom.fields >>= fun _ => AStatsEvent.write res) := rfl

theorem trace_write (res : Int32) : (AStatsEvent.write res).trace = [.write] := by
  rw [AStatsEvent.write, Run.trace_bind_emit]
  split <;> rfl

theorem outcome_write (res : Int32) :
    (AStatsEvent.write res).outcome =
      if res < 0 then .error (.message ("Failed to write event. Error code: " ++ toString res))
      else .ok () := by
  unfold AStatsEvent.write
  split <;> rfl

/-- An atom whose strings have no NUL arrives as it is, and the call ends the
way the library answers; any other atom does not arrive at all, and the call
fails. -/
theorem write_received (res : Int32) (atom : UnstructuredAtom) :
    (atom.NulFree ∧ received (write res atom).trace = some [atom] ∧
        (write res atom).outcome =
          if res < 0 then .error (.message ("Failed to write event. Error code: " ++ toString res))
          else .ok ()) ∨
      (¬ atom.NulFree ∧ received (write res atom).trace = some [] ∧
        (write res atom).outcome = .error (.message "Failed to create CString")) := by
  rcases writeFields_cases atom.fields with ⟨hfree, hok, hrun⟩ | ⟨hnul, herror, hrun⟩
  · left
    have hwrite : write res atom =
        ⟨[.obtain, .setAtomId atom.atomId] ++ (writeFields atom.fields).trace ++
          [.write, .release], (AStatsEvent.write res).outcome⟩ := by
      simp [write_body, Run.bind_of_ok hok, Run.owning, Run.leaving, Run.bind_def, Run.bind,
        Run.emit, trace_write]
    refine ⟨hfree, ?_, by rw [hwrite, outcome_write]⟩
    have hbuilt := hrun atom.atomId [] []
    rw [List.nil_append] at hbuilt
    rw [hwrite, received, Receiver.run_append, Receiver.run_append]
    have hstart : Receiver.run ⟨none, []⟩ [.obtain, .setAtomId atom.atomId] =
        some ⟨some ⟨atom.atomId, []⟩, []⟩ := rfl
    rw [hstart, Option.bind_some, hbuilt, Option.bind_some]
    rfl
  · right
    have hwrite : write res atom =
        ⟨[.obtain, .setAtomId atom.atomId] ++ (writeFields atom.fields).trace ++ [.release],
          .error (.message "Failed to create CString")⟩ := by
      simp [write_body, Run.owning, Run.leaving, Run.bind_def, Run.bind, Run.emit, herror]
    refine ⟨hnul, ?_, by rw [hwrite]⟩
    obtain ⟨built, hbuilt⟩ := hrun atom.atomId [] []
    rw [hwrite, received, Receiver.run_append, Receiver.run_append]
    have hstart : Receiver.run ⟨none, []⟩ [.obtain, .setAtomId atom.atomId] =
        some ⟨some ⟨atom.atomId, []⟩, []⟩ := rfl
    rw [hstart, Option.bind_some, hbuilt, Option.bind_some]
    rfl

end AStatsEventWriter

/-! The event as a resource. -/

inductive StatsObject where
  | event
deriving DecidableEq, Repr

def StatsCall.effects : StatsCall → List (Effect StatsObject)
  | .obtain => [.acquire .event]
  | .release => [.release .event]
  | _ => [.use .event]

namespace AStatsEventWriter

theorem writeValue_all_use (value : AtomValue) :
    (writeValue value).All fun call => call.effects = [.use .event] := by
  cases value with
  | string value =>
      refine Run.All.bind (.of_trace_eq_nil (Run.trace_ofExcept _)) fun bytes => ?_
      exact Run.All.emit rfl
  | _ => exact Run.All.emit rfl

theorem writeFields_all_use (fields : List Field) :
    (writeFields fields).All fun call => call.effects = [.use .event] := by
  induction fields with
  | nil => exact .of_trace_eq_nil rfl
  | cons field rest ih =>
      refine Run.All.bind ((writeValue_all_use field.value).bind fun _ => ?_) fun _ => ih
      intro call hcall
      obtain ⟨kind, _, rfl⟩ := List.mem_map.1 hcall
      cases kind
      rfl

/-- On every path the event is obtained once, released once, and not touched
outside. -/
theorem write_leaves (res : Int32) (atom : UnstructuredAtom) :
    (write res atom).Leaves StatsCall.effects [] [] := by
  rw [write_body]
  refine Run.Leaves.owning rfl rfl (by simp) ?_
  apply Run.Leaves.of_all_use List.mem_cons_self
  refine Run.All.bind (.emit rfl) fun _ => (writeFields_all_use atom.fields).bind fun _ => ?_
  intro call hcall
  rw [trace_write, List.mem_singleton] at hcall
  rw [hcall]
  rfl

/-- For every atom and every answer of the library: statsd is handed exactly
the atom, with its id, its fields in order and their annotations, if no string
of it has a NUL, and nothing otherwise; the call succeeds exactly when the atom
was handed over and the library did not answer with an error; and the event is
obtained and released once, however it ends. -/
theorem write_hands_over (res : Int32) (atom : UnstructuredAtom) :
    (received (write res atom).trace = some [atom] ↔ atom.NulFree) ∧
      (received (write res atom).trace = some [] ↔ ¬ atom.NulFree) ∧
      ((write res atom).outcome = .ok () ↔ atom.NulFree ∧ 0 ≤ res) ∧
      (write res atom).outcome ≠ .panic ∧
      (write res atom).Leaves StatsCall.effects [] [] := by
  rcases write_received res atom with ⟨hfree, hreceived, houtcome⟩ | ⟨hnul, hreceived, houtcome⟩
  · rw [hreceived, houtcome]
    refine ⟨by simp [hfree], by simp [hfree], ?_, ?_, write_leaves res atom⟩
    · by_cases hres : res < 0
      · simp [hres]
      · simp [hres, hfree, Int32.not_lt.1 hres]
    · split <;> simp
  · rw [hreceived, houtcome]
    exact ⟨by simp [hnul], by simp [hnul], by simp [hnul], by simp, write_leaves res atom⟩

end AStatsEventWriter

end UprobeStats
