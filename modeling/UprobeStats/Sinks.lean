/-
Where the handlers send what they have seen: unstructured atoms for statsd,
and events for the bridge service, which is asked about packages as well.
-/
import UprobeStats.Poll

namespace UprobeStats

open Traced

/-! Atoms. -/

/-- `FieldAnnotation`. -/
inductive FieldAnnotation where
  | isUid (value : Bool)
deriving DecidableEq, Repr

/-- The values a field of an atom can have. -/
inductive AtomValue where
  | bool (value : Bool)
  | int32 (value : Int32)
  | int64 (value : Int64)
  | string (value : String)
  | int32Vec (value : List Int32)
  | int64Vec (value : List Int64)
deriving DecidableEq, Repr

structure Field where
  value : AtomValue
  annotations : List FieldAnnotation
deriving DecidableEq, Repr

def Field.new (value : AtomValue) : Field := ⟨value, []⟩

def Field.newWithAnnotation (value : AtomValue) (kind : FieldAnnotation) : Field :=
  ⟨value, [kind]⟩

structure UnstructuredAtom where
  atomId : UInt32
  fields : List Field
deriving DecidableEq, Repr

/-- What an `AtomWriter` answers to its calls, by their number. -/
abbrev AtomWriter := Nat → Except String Unit

/-- `AtomWriter::write`, as the call with the given number. -/
def AtomWriter.write (writer : AtomWriter) (n : Nat) (atom : UnstructuredAtom) :
    Run UnstructuredAtom AnyError Unit := do
  Run.emit atom
  Run.ofExcept (foreign (writer n))

/-- `CodegenAtom`, the atoms whose structure statsd knows. -/
inductive CodegenAtom where
  | setComponentEnabledSettingReported (packageName className : String) (newState : Int32)
      (callingPackageName : String) (isLauncherActivity : Bool)
  | disabledLauncherActivityUidsReported (callingUid disabledActivityUid : Int32)
  | bindServiceLockedWithBalFlagsReported (intentPackage : String) (flags : Int64)
      (callingPackage intentAction intentComponentNamePackage intentComponentNameClass : String)
  | bindServiceLockedWithBalFlagsUidsReported (binderUid bindeeUid : Int32)
  | androidGraphicsBitmapAllocated (uid width height : Int32)
  | androidGraphicsBitmapScaled (uid width height scaledWidth scaledHeight
      pixelStorageType : Int32) (activityName : String)
  | androidGraphicsBitmapAllocationSnapshot (uid width height pixelStorageType : Int32)
      (snapshotId : Int64) (snapshotType : Int32) (activityName : String)
deriving DecidableEq, Repr

/-- `AtomWriter::write` of a codegen atom, as the call with the given number. -/
def AtomWriter.writeCodegen (writer : AtomWriter) (n : Nat) (atom : CodegenAtom) :
    Run CodegenAtom AnyError Unit := do
  Run.emit atom
  Run.ofExcept (foreign (writer n))

theorem AtomWriter.trace_writeCodegen (writer : AtomWriter) (n : Nat) (atom : CodegenAtom) :
    (writer.writeCodegen n atom).trace = [atom] := by
  rw [writeCodegen, Run.trace_bind_emit, Run.trace_ofExcept]

theorem AtomWriter.outcome_writeCodegen {writer : AtomWriter} {n : Nat} {atom : CodegenAtom}
    (hok : writer n = .ok ()) : (writer.writeCodegen n atom).outcome = .ok () := by
  simp [writeCodegen, Run.bind_def, Run.bind, Run.emit, Run.ofExcept, hok, foreign]

/-- `try_into` from an unsigned number to `i64`. -/
def tryIntoI64 (n : Nat) : Except AnyError Int64 :=
  if n < 2 ^ 63 then .ok (Int64.ofNat n)
  else .error (.message "out of range integral type conversion attempted")

/-! The bridge service. -/

/-- `DynamicInstrumentationPayloadIds`. -/
inductive DynamicInstrumentationPayloadIds where
  | binderTransaction
  | disabledLauncherActivity
  | bindAllowBackgroundActivityStarts
  | runtimePermissionGrant
deriving DecidableEq, Repr

def DynamicInstrumentationPayloadIds.toInt32 : DynamicInstrumentationPayloadIds → Int32
  | binderTransaction => 1
  | disabledLauncherActivity => 2
  | bindAllowBackgroundActivityStarts => 3
  | runtimePermissionGrant => 4

/-- The parcelable `Value`. -/
inductive BridgeValue where
  | stringValue (value : String)
  | intValue (value : Int32)
deriving DecidableEq, Repr

/-- The parcelable `Entry`. -/
structure BridgeEntry where
  key : String
  value : BridgeValue
deriving DecidableEq, Repr

/-- The parcelable `Event`. -/
structure BridgeEvent where
  uid : Int32
  timestampMs : Int64
  payloadId : Int32
  payload : List BridgeEntry
deriving DecidableEq, Repr

/-- The calls that a handler makes to the bridge service. -/
inductive BridgeCall where
  | get
  | packageHasEnabledAccessibilityService (packageName : String)
  | getUidForPackage (packageName : String)
  | enqueueEvent (event : BridgeEvent) (flush : Bool)
deriving DecidableEq, Repr

/-- What the bridge service answers while one item is handled. -/
structure BridgeService where
  onGet : Except String Unit
  onPackageHasEnabledAccessibilityService : String → Except String Bool
  onGetUidForPackage : String → Except String Int32
  onEnqueueEvent : BridgeEvent → Bool → Except String Unit

namespace BridgeService

variable (service : BridgeService)

/-- A call and its answer. -/
def call {α : Type} (request : BridgeCall) (answer : Except String α) :
    Run BridgeCall AnyError α := do
  Run.emit request
  Run.ofExcept (foreign answer)

def get : Run BridgeCall AnyError Unit := call .get service.onGet

def packageHasEnabledAccessibilityService (packageName : String) :
    Run BridgeCall AnyError Bool :=
  call (.packageHasEnabledAccessibilityService packageName)
    (service.onPackageHasEnabledAccessibilityService packageName)

def getUidForPackage (packageName : String) : Run BridgeCall AnyError Int32 :=
  call (.getUidForPackage packageName) (service.onGetUidForPackage packageName)

def enqueueEvent (event : BridgeEvent) (flush : Bool) : Run BridgeCall AnyError Unit :=
  call (.enqueueEvent event flush) (service.onEnqueueEvent event flush)

end BridgeService

end UprobeStats
