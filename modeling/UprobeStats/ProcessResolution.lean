/-
How the process of a task is found (`ProcessResolverImpl`): in /proc, in the
list of running apps, or by waiting for an app to start, with the process
observer or with a probe on the system server.
-/
import UprobeStats.AppStart
import UprobeStats.Guardrail
import UprobeStats.Lib.Lossy

namespace UprobeStats

open Bytes Traced

/-! The directory /proc. -/

/-- An entry of /proc.  `cmdline` is what `read` gets from the file of that
name, if it can. -/
structure ProcEntry where
  fileName : List UInt8
  isDir : Bool
  cmdline : Option (List UInt8)
deriving DecidableEq, Repr

/-- The digits of a number, at least one. -/
def parseDigits (digits : List Char) : Option Nat :=
  if digits.isEmpty || !digits.all Char.isDigit then none
  else some (digits.foldl (fun value digit => 10 * value + (digit.toNat - '0'.toNat)) 0)

/-- `str::parse::<i32>`, which takes a sign of either kind. -/
def parseI32 (s : String) : Option Int32 :=
  let signed : Option Int :=
    match s.toList with
    | '+' :: digits => (parseDigits digits).map Int.ofNat
    | '-' :: digits => (parseDigits digits).map fun value => -Int.ofNat value
    | digits => (parseDigits digits).map Int.ofNat
  match signed with
  | none => none
  | some value => if -2 ^ 31 ≤ value ∧ value < 2 ^ 31 then some (Int32.ofInt value) else none

namespace ProcEntry

/-- The pid that the name of the directory is. -/
def pid (entry : ProcEntry) : Option Int32 := (fromUtf8 entry.fileName).bind parseI32

/-- The test of `get_pid`. -/
def runs (entry : ProcEntry) (processName : String) : Bool :=
  entry.isDir && entry.cmdline.any fun cmdlineBytes =>
    let cmdline := fromUtf8Lossy cmdlineBytes
    cmdline == processName || startsWith cmdline processName

end ProcEntry

/-- The loop of `get_pid`, which ends at the first entry that cannot be read. -/
def getPidFrom (processName : String) : List (Option ProcEntry) → Option Int32
  | [] => none
  | none :: _ => none
  | some entry :: rest =>
      if entry.runs processName then
        match entry.pid with
        | some pid => some pid
        | none => getPidFrom processName rest
      else getPidFrom processName rest

/-- `get_pid`. -/
def getPid (proc : Option (List (Option ProcEntry))) (processName : String) : Option Int32 :=
  proc.bind (getPidFrom processName)

/-! The list of running apps. -/

/-- An `ARunningAppProcessInfo`.  The name is what is in front of its NUL. -/
structure RunningAppProcessInfo where
  processName : Option (List UInt8)
  pid : Int32
  uid : UInt32
deriving DecidableEq, Repr

/-- What `AActivityManager_getRunningAppProcesses` answers. -/
structure RunningAppProcesses where
  status : Int32
  list : Option (List (Option RunningAppProcessInfo))
deriving DecidableEq, Repr

/-- The test of `get_running_process_pid_uid`. -/
def RunningAppProcessInfo.isNamed (targetProcessName : String) (info : RunningAppProcessInfo) :
    Bool :=
  info.processName.any fun name => fromUtf8Lossy (text name) == targetProcessName

/-- The loop of `get_running_process_pid_uid`. -/
def findRunningProcess (targetProcessName : String) :
    List (Option RunningAppProcessInfo) → Except AnyError (Int32 × UInt32)
  | [] => .error (.message ("Process " ++ targetProcessName ++ " not found in running apps"))
  | none :: rest => findRunningProcess targetProcessName rest
  | some info :: rest =>
      if info.isNamed targetProcessName then .ok (info.pid, info.uid)
      else findRunningProcess targetProcessName rest

/-- `get_running_process_pid_uid`. -/
def getRunningProcessPidUid (running : RunningAppProcesses) (targetProcessName : String) :
    Except AnyError (Int32 × UInt32) :=
  if running.status ≠ 0 then
    .error (.message ("Failed to get running app processes, status: " ++ toString running.status))
  else
    match running.list with
    | none => .error (.message "Running app processes list is unexpectedly null")
    | some list => findRunningProcess targetProcessName list

/-! The process observer. -/

/-- A call of `on_process_started_trampoline`, with C strings. -/
structure ProcessStarted where
  pid : Int32
  processUid : UInt32
  packageUid : UInt32
  packageName : List UInt8
  processName : List UInt8
deriving DecidableEq, Repr

/-- What registering an observer meets, and the calls that come in before the
wait is over. -/
structure ObserverEnv where
  created : Bool
  registerStatus : Int32
  calls : List ProcessStarted

/-- `CStr::from_ptr(..).to_str().unwrap_or_default()`. -/
def cStrOrDefault (bytes : List UInt8) : String := (fromUtf8 (text bytes)).getD ""

/-- `AppStartObserver::on_process_started`: what it sends. -/
def onProcessStarted (targetProcessName : Option String) (pid : Int32) (processUid : UInt32)
    (processName : String) : Option ResolvedProcess :=
  if targetProcessName.any (· != processName) then none
  else some ⟨pid, processUid.toInt32, processName⟩

/-- `on_process_started_trampoline`. -/
def onProcessStartedTrampoline (targetProcessName : Option String) (call : ProcessStarted) :
    Option ResolvedProcess :=
  onProcessStarted targetProcessName call.pid call.processUid (cStrOrDefault call.processName)

/-- `ProcessObserver::register`. -/
def ObserverEnv.register (env : ObserverEnv) : Except AnyError Unit :=
  if !env.created then .error (.message "Failed to create process observer")
  else if env.registerStatus ≠ 0 then
    .error (.message
      ("Failed to register process observer, status: " ++ toString env.registerStatus))
  else .ok ()

/-- `wait_for_app_start_observer`, which gets the first process that is sent. -/
def waitForAppStartObserver (env : ObserverEnv) (processName : Option String) :
    Except AnyError ResolvedProcess := do
  env.register
  match env.calls.findSome? (onProcessStartedTrampoline processName) with
  | some resolved => .ok resolved
  | none =>
      .error (.message "Timeout waiting for process start: timed out waiting on channel")

/-! `ProcessResolverImpl`. -/

/-- Everything that `resolve_process` asks. -/
structure ProcessEnv where
  proc : Option (List (Option ProcEntry))
  running : RunningAppProcesses
  useProcessObserverApi : Bool
  observer : ObserverEnv
  appStart : AppStartEnv

/-- The wait with a probe finds the system server in /proc. -/
def ProcessEnv.uprobe (env : ProcessEnv) : AppStartEnv :=
  { env.appStart with systemServerPid := getPid env.proc "system_server" }

/-- The `{:?}` rendering of a selection. -/
def TargetProcessSelection.debugName : TargetProcessSelection → String
  | .unknown => "UNKNOWN"
  | .specificProcessName => "SPECIFIC_PROCESS_NAME"
  | .anyAppProcessOnStart => "ANY_APP_PROCESS_ON_START"
  | .specificAppProcessOnStart => "SPECIFIC_APP_PROCESS_ON_START"

/-- `AID_SYSTEM`. -/
def aidSystem : UInt32 := 1000

section ResolveProcess

variable (env : ProcessEnv) (targetProcessName : Option String)

/-- `wait_for_app_start`. -/
def waitForAppStart (duration : Duration) : Run Event AnyError ResolvedProcess :=
  if env.useProcessObserverApi then
    Run.ofExcept (waitForAppStartObserver env.observer targetProcessName)
  else waitForAppStartUprobe env.uprobe targetProcessName duration

/-- The selections of a process that runs already. -/
def resolveRunning (selection : TargetProcessSelection) : Except AnyError ResolvedProcess := do
  let processName ← required
    ("Process name is required for selection type " ++ selection.debugName) targetProcessName
  if processName = "system_server" then
    let pid ← required ("Can't find pid for " ++ processName) (getPid env.proc processName)
    let uid ← tryIntoI32 aidSystem.toNat
    return ⟨pid, uid, processName⟩
  else
    let (pid, uid) ← getRunningProcessPidUid env.running processName
    let uid ← tryIntoI32 uid.toNat
    return ⟨pid, uid, processName⟩

/-- `resolve_process`. -/
def resolveProcess (selection : TargetProcessSelection) (duration : Duration) :
    Run Event AnyError ResolvedProcess :=
  match selection with
  | .specificAppProcessOnStart => waitForAppStart env targetProcessName duration
  | .anyAppProcessOnStart => waitForAppStart env none duration
  | .specificProcessName | .unknown =>
      Run.ofExcept (resolveRunning env targetProcessName selection)

end ResolveProcess

end UprobeStats
