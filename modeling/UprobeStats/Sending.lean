/-
What a handler does to the outside while it handles one item, and what the
outside answers: atoms for the writer, calls of the bridge service, the clock
and the build type of the device.
-/
import UprobeStats.Sinks

namespace UprobeStats

open Traced

/-- What a handler sends out. -/
inductive Sent where
  | codegen (atom : CodegenAtom)
  | unstructured (atom : UnstructuredAtom)
  | bridge (call : BridgeCall)
  | isLauncherActivity (packageName className : String) (includeDisabled : Bool)
deriving DecidableEq, Repr

/-- What everyone else answers while one item is handled.  A call is known by
its place in the source, which is reached at most once for an item, so the same
question may be answered differently when it is asked again.  `sinceEpoch` is
`SystemTime::now()` in nanoseconds, counted from the epoch. -/
structure Environment where
  isUserBuild : Bool
  sinceEpoch : Int
  onWrite : Nat → Except String Unit
  onGet : Nat → Except String Unit
  onIsLauncherActivity : Except String Bool
  onGetUidForPackage : Nat → Except String Int32
  onEnqueueEvent : Except String Unit

/-- An environment in which every call succeeds. -/
def Environment.succeeding : Environment where
  isUserBuild := false
  sinceEpoch := 0
  onWrite _ := .ok ()
  onGet _ := .ok ()
  onIsLauncherActivity := .ok false
  onGetUidForPackage _ := .ok 0
  onEnqueueEvent := .ok ()

/-- `get_current_timestamp_millis`, which panics on a clock before the epoch or
beyond an `i64` of milliseconds. -/
def getCurrentTimestampMillis (sinceEpoch : Int) : Outcome AnyError Int64 :=
  if sinceEpoch < 0 then .panic
  else
    match tryIntoI64 (sinceEpoch.toNat / 1000000) with
    | .error _ => .panic
    | .ok timestampMs => .ok timestampMs

namespace Environment

variable (env : Environment)

/-- A call and its answer. -/
def ask {α : Type} (sent : Sent) (answer : Except String α) : Run Sent AnyError α := do
  Run.emit sent
  Run.ofExcept (foreign answer)

def write (place : Nat) (atom : CodegenAtom) : Run Sent AnyError Unit :=
  ask (.codegen atom) (env.onWrite place)

def writeUnstructured (place : Nat) (atom : UnstructuredAtom) : Run Sent AnyError Unit :=
  ask (.unstructured atom) (env.onWrite place)

def get (place : Nat) : Run Sent AnyError Unit := ask (.bridge .get) (env.onGet place)

def isLauncherActivity (packageName className : String) (includeDisabled : Bool) :
    Run Sent AnyError Bool :=
  ask (.isLauncherActivity packageName className includeDisabled) env.onIsLauncherActivity

def getUidForPackage (place : Nat) (packageName : String) : Run Sent AnyError Int32 :=
  ask (.bridge (.getUidForPackage packageName)) (env.onGetUidForPackage place)

def enqueueEvent (event : BridgeEvent) (flush : Bool) : Run Sent AnyError Unit :=
  ask (.bridge (.enqueueEvent event flush)) env.onEnqueueEvent

end Environment

/-- The codegen atom among what is sent. -/
def Sent.codegenAtom : Sent → Option CodegenAtom
  | .codegen atom => some atom
  | _ => none

/-- The bridge event among what is sent. -/
def Sent.bridgeEvent : Sent → Option BridgeEvent
  | .bridge (.enqueueEvent event _) => some event
  | _ => none

/-- An answer as far as it is one. -/
def answered {α : Type} : Except String α → Outcome PUnit α
  | .ok value => .ok value
  | .error _ => .error ⟨⟩

/-- A call seen by someone who gets some of what is sent. -/
theorem Environment.select_ask {α τ : Type} (keep : Sent → Option τ) (sent : Sent)
    (answer : Except String α) :
    (ask sent answer).select keep = ⟨(keep sent).toList, answered answer⟩ := by
  cases answer with
  | ok value => cases hkeep : keep sent <;>
      simp [ask, Run.select, Run.bind_def, Run.bind, Run.emit, Run.ofExcept, foreign, answered,
        hkeep, Outcome.forget]
  | error text => cases hkeep : keep sent <;>
      simp [ask, Run.select, Run.bind_def, Run.bind, Run.emit, Run.ofExcept, foreign, answered,
        hkeep, Outcome.forget]

end UprobeStats
