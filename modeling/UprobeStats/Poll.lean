/-
Polling one ring buffer for the duration of a task and handing what arrives to
its handler.  The clock, the ring buffer and the handler are the environment
of a run; what the run does of its own is to report failures to statsd and to
mark the errors it has reported.
-/
import UprobeStats.Lib.Traced
import UprobeStats.Resolver

namespace UprobeStats

open Traced

/-- `uprobe_stats_internal_error::ErrorType`. -/
inductive ErrorType where
  | taskExecutionFailed
  | binderFilterSetupFailed
  | binderFilterCleanupFailed
  | bpfProgramAttachFailed
  | bpfRingBufferCreateFailed
  | bpfRingBufferPollFailed
  | bpfProgramError
  | bpfRingBufferDataInvalid
deriving DecidableEq, Repr

/-- The programs `bpf_program_path_to_enum` knows. -/
inductive BpfProgram where
  | unspecified
  | accessibilityServiceConnection
  | accessibilityGrantRuntimePermission
  | binderExecTransactInternal
  | bitmapAllocationActivityPerformStart
  | bitmapAllocationApplyFreeFunction
  | bitmapAllocationBitmapCreationForSnapshot
  | bitmapAllocationCreateScaledBitmap
  | disruptiveAppBindServiceLocked
  | disruptiveAppSetComponentEnabledSetting
  | genericInstrumentationCallDetail
  | genericInstrumentationCallTimestamp
deriving DecidableEq, Repr

/-- The maps `bpf_map_path_to_enum` knows. -/
inductive MapPath where
  | unspecified
  | accessibilityOutputBuf
  | binderOutputBuf
  | bitmapAllocationOutput
  | disruptiveAppBindServiceLockedOutputBuf
  | disruptiveAppComponentEnabledSettingOutputBuf
  | genericInstrumentationCallDetailBuf
  | genericInstrumentationCallTimestampBuf
deriving DecidableEq, Repr

/-- `path.rsplit('/').next()`, which is never `None`. -/
def filename (path : String) : String :=
  String.ofList (path.toList.reverse.takeWhile (· ≠ '/')).reverse

def bpfProgramPathToEnum (path : String) : BpfProgram :=
  match filename path with
  | "prog_Accessibility_uprobe_dispatch_gesture" => .accessibilityServiceConnection
  | "prog_Accessibility_uprobe_grant_runtime_permission" => .accessibilityGrantRuntimePermission
  | "prog_Binder_uprobe_exec_transact_internal" => .binderExecTransactInternal
  | "prog_BitmapAllocation_uprobe_activity_perform_start" => .bitmapAllocationActivityPerformStart
  | "prog_BitmapAllocation_uprobe_apply_free_function" => .bitmapAllocationApplyFreeFunction
  | "prog_BitmapAllocation_uprobe_bitmap_creation_for_snapshot" =>
      .bitmapAllocationBitmapCreationForSnapshot
  | "prog_BitmapAllocation_uprobe_create_scaled_bitmap" => .bitmapAllocationCreateScaledBitmap
  | "prog_DisruptiveApp_uprobe_bind_service_locked" => .disruptiveAppBindServiceLocked
  | "prog_DisruptiveApp_uprobe_set_component_enabled_setting" =>
      .disruptiveAppSetComponentEnabledSetting
  | "prog_GenericInstrumentation_uprobe_call_detail" => .genericInstrumentationCallDetail
  | "prog_GenericInstrumentation_uprobe_call_timestamp" => .genericInstrumentationCallTimestamp
  | _ => .unspecified

def bpfMapPathToEnum (mapPath : String) : MapPath :=
  match filename mapPath with
  | "map_Accessibility_output_buf" => .accessibilityOutputBuf
  | "map_Binder_output_buf" => .binderOutputBuf
  | "map_BitmapAllocation_output" => .bitmapAllocationOutput
  | "map_DisruptiveApp_BindServiceLocked_output_buf" => .disruptiveAppBindServiceLockedOutputBuf
  | "map_DisruptiveApp_ComponentEnabledSetting_output_buf" =>
      .disruptiveAppComponentEnabledSettingOutputBuf
  | "map_GenericInstrumentation_call_detail_buf" => .genericInstrumentationCallDetailBuf
  | "map_GenericInstrumentation_call_timestamp_buf" => .genericInstrumentationCallTimestampBuf
  | _ => .unspecified

/-- The `uprobe_stats_internal_error` atom. -/
structure InternalError where
  errorType : ErrorType
  taskId : Int64
  bpfProgram : BpfProgram
  mapPath : MapPath
  failurePoint : Int64
deriving DecidableEq, Repr

/-- What the execution of a task does that others can see. -/
inductive Event where
  /-- An internal error atom is written. -/
  | internalError (atom : InternalError)
  /-- The perf event of a probe is opened, which attaches its program. -/
  | attach (probe : Nat)
  /-- The `OwnedFd` of a probe is dropped. -/
  | detach (probe : Nat)
  /-- `BpfRingBuffer::poll` is called. -/
  | poll (mapPath : String) (timeoutMs : Int32)
  /-- The `uprobe_stats_bpf_map_polled` atom is written. -/
  | bpfMapPolled (mapPath : MapPath) (durationMs : Nat) (totalEvents : Nat) (taskId : Int64)
deriving DecidableEq, Repr

def writeInternalError (errorType : ErrorType) (taskId : Int64)
    (bpfProgramPath bpfMapPath : Option String) (failurePoint : Int64) : Event :=
  .internalError {
    errorType := errorType
    taskId := taskId
    bpfProgram := bpfProgramPath.elim .unspecified bpfProgramPathToEnum
    mapPath := bpfMapPath.elim .unspecified bpfMapPathToEnum
    failurePoint := failurePoint }

/-- `Timer::remaining_millis`, by the time that has elapsed. -/
def remainingMillis (duration : Duration) (elapsedMillis : Nat) : Option Nat :=
  if elapsedMillis ≤ duration.asMillis then some (duration.asMillis - elapsedMillis) else none

/-- `try_into` from an unsigned number to `i32`. -/
def tryIntoI32 (n : Nat) : Except AnyError Int32 :=
  if n < 2 ^ 31 then .ok (Int32.ofNat n)
  else .error (.message "out of range integral type conversion attempted")

theorem tryIntoI32_of_lt {n : Nat} (hfits : n < 2 ^ 31) : tryIntoI32 n = .ok (Int32.ofNat n) :=
  if_pos hfits

theorem tryIntoI32_of_not_lt {n : Nat} (hfits : ¬ n < 2 ^ 31) :
    tryIntoI32 n = .error (.message "out of range integral type conversion attempted") :=
  if_neg hfits

/-- The trait `Handler`, with the state of the implementing type. -/
structure Handler where
  T : Type
  S : Type
  mapPath : String
  progPath : Option String
  default : S
  onItem : ResolvedTask → T → S → Outcome AnyError S
  onFinished : S → Outcome AnyError Unit

/-- One turn of the polling loop: the clock when it starts and what the ring
buffer answers. -/
structure Round (T : Type) where
  elapsedMillis : Nat
  poll : Except String (List T)

/-- What happens to one polling loop: whether the ring buffer is there, and
the turns up to the one that finds the timer expired. -/
structure PollScript (T : Type) where
  create : Except String Unit
  rounds : List (Round T)

/-- An error from outside the daemon, which carries none of its types. -/
def foreign {α : Type} : Except String α → Except AnyError α
  | .ok value => .ok value
  | .error text => .error (.message text)

section PollLoop

variable (h : Handler) (mapPath : String) (task : ResolvedTask) (duration : Duration)

/-- The atom for an error of `on_item`. -/
def itemReport (e : AnyError) : Event :=
  match e.downcastUprobeStatsError with
  | some (.bpfProgramError point) =>
      writeInternalError .bpfProgramError task.id h.progPath (some mapPath) point
  | some (.bpfDataInvalid point) =>
      writeInternalError .bpfRingBufferDataInvalid task.id h.progPath (some mapPath) point
  | none => writeInternalError .taskExecutionFailed task.id h.progPath (some mapPath) 0

/-- The loop over the items of one poll. -/
def handleItems : List h.T → h.S → Run Event AnyError h.S
  | [], state => pure state
  | item :: rest, state => do
      let state ← (Run.silent (h.onItem task item state)).reportErr
        (itemReport h mapPath task) .reportedToStatsd
      handleItems rest state

/-- The loop `while let Some(remaining_millis) = timer.remaining_millis()`. -/
def pollRounds : List (Round h.T) → h.S → Nat → Run Event AnyError (h.S × Nat)
  | [], state, totalEvents => pure (state, totalEvents)
  | round :: rest, state, totalEvents =>
      match remainingMillis duration round.elapsedMillis with
      | none => pure (state, totalEvents)
      | some remaining => do
          let timeoutMs ← Run.ofExcept (tryIntoI32 remaining)
          Run.emit (.poll mapPath timeoutMs)
          let result ← (Run.ofExcept (foreign round.poll)).reportErr
            (fun _ => writeInternalError .bpfRingBufferPollFailed task.id h.progPath
              (some mapPath) 0) .reportedToStatsd
          let state ← handleItems h mapPath task result state
          pollRounds rest state (totalEvents + result.length)

/-- `poll_loop_generic`.  `durationFits` is the conversion of the duration to
the type of the atom's field. -/
def pollLoopGeneric (durationFits : Nat → Bool) (script : PollScript h.T) :
    Run Event AnyError Unit := do
  if mapPath ≠ h.mapPath then
    Run.fail (.message ("map_path mismatch: " ++ mapPath ++ " != " ++ h.mapPath))
  (Run.ofExcept (foreign script.create)).reportErr
    (fun _ => writeInternalError .bpfRingBufferCreateFailed task.id h.progPath
      (some mapPath) 0) .reportedToStatsd
  let (state, totalEvents) ← pollRounds h mapPath task duration script.rounds h.default 0
  Run.silent (h.onFinished state)
  if durationFits duration.asMillis then
    Run.emit (.bpfMapPolled (bpfMapPathToEnum mapPath) duration.asMillis totalEvents task.id)
  else
    Run.fail (.message "out of range integral type conversion attempted")

end PollLoop

/-- What the polling threads of a task meet. -/
structure PollEnv where
  registry : String → Option Handler
  registered : ∀ mapPath h, registry mapPath = some h → h.mapPath = mapPath
  script : String → (h : Handler) → PollScript h.T
  durationFits : Nat → Bool

def pollRegistry (env : PollEnv) (mapPath : String) (task : ResolvedTask) (duration : Duration) :
    Run Event AnyError Unit :=
  match env.registry mapPath with
  | none => Run.fail (.message ("unsupported map_path: " ++ mapPath))
  | some h => pollLoopGeneric h mapPath task duration env.durationFits (env.script mapPath h)

/-! Why a polling thread stops, and what it has reported by then. -/

def Event.isInternalError : Event → Bool
  | .internalError _ => true
  | _ => false

/-- The number of internal error atoms in a trace. -/
def internalErrors (trace : List Event) : Nat := trace.countP Event.isInternalError

/-- What can stop a polling thread. -/
inductive PollFault where
  | unsupportedMapPath
  | ringBufferCreate
  | timeoutConversion
  | ringBufferPoll
  | onItem
  | onFinished
  | durationConversion
  | panic
deriving DecidableEq, Repr

/-- The faults for which `poll_loop_generic` writes an atom. -/
def PollFault.reported : PollFault → Bool
  | .ringBufferCreate => true
  | .ringBufferPoll => true
  | .onItem => true
  | _ => false

def PollFault.atoms (fault : PollFault) : Nat := if fault.reported then 1 else 0

/-- A handler's answer with the fault that its failure is. -/
def faultOf {α : Type} (fault : PollFault) : Outcome AnyError α → Except PollFault α
  | .ok value => .ok value
  | .error _ => .error fault
  | .panic => .error .panic

section Faults

variable (h : Handler) (task : ResolvedTask) (duration : Duration)

/-- The items of one poll, up to the first on which the handler fails. -/
def itemsFault : List h.T → h.S → Except PollFault h.S
  | [], state => .ok state
  | item :: rest, state => do
      let state ← faultOf .onItem (h.onItem task item state)
      itemsFault rest state

/-- The turns of the loop, up to the first that fails. -/
def roundsFault : List (Round h.T) → h.S → Nat → Except PollFault (h.S × Nat)
  | [], state, totalEvents => .ok (state, totalEvents)
  | round :: rest, state, totalEvents =>
      match remainingMillis duration round.elapsedMillis with
      | none => .ok (state, totalEvents)
      | some remaining => do
          if ¬ remaining < 2 ^ 31 then throw .timeoutConversion
          let result ← round.poll.mapError fun _ => .ringBufferPoll
          let state ← itemsFault h task result state
          roundsFault rest state (totalEvents + result.length)

/-- The fault of one polling loop. -/
def loopFault (durationFits : Nat → Bool) (script : PollScript h.T) :
    Except PollFault Unit := do
  script.create.mapError fun _ => .ringBufferCreate
  let (state, _) ← roundsFault h task duration script.rounds h.default 0
  faultOf .onFinished (h.onFinished state)
  if ¬ durationFits duration.asMillis then throw .durationConversion

end Faults

/-- The fault of the thread that polls one map. -/
def PollEnv.threadFault (env : PollEnv) (task : ResolvedTask) (mapPath : String) :
    Except PollFault Unit :=
  match env.registry mapPath with
  | none => .error .unsupportedMapPath
  | some h => loopFault h task task.duration env.durationFits (env.script mapPath h)

theorem internalErrors_append (first second : List Event) :
    internalErrors (first ++ second) = internalErrors first + internalErrors second :=
  List.countP_append

/-- Ends like the abstract run and writes the atoms its fault stands for. -/
abbrev Reports {α : Type} (spec : Except PollFault α) (run : Run Event AnyError α) : Prop :=
  Refines internalErrors PollFault.atoms spec run

theorem Reports.pure {α : Type} (value : α) :
    Reports (.ok value) (Pure.pure value : Run Event AnyError α) :=
  Refines.pure rfl value

theorem Reports.bind {α β : Type} {spec : Except PollFault α} {run : Run Event AnyError α}
    {nextSpec : α → Except PollFault β} {next : α → Run Event AnyError β}
    (hrun : Reports spec run) (hnext : ∀ value, Reports (nextSpec value) (next value)) :
    Reports (spec >>= nextSpec) (run >>= next) :=
  Refines.bind internalErrors_append hrun fun value _ => hnext value

/-- Other events cost nothing. -/
theorem Reports.emit_bind {α : Type} {event : Event} (hevent : event.isInternalError = false)
    {spec : Except PollFault α} {next : PUnit → Run Event AnyError α}
    (hnext : Reports spec (next ⟨⟩)) : Reports spec (Run.emit event >>= next) := by
  have hemit : Reports (.ok ⟨⟩) (Run.emit event) :=
    ⟨rfl, by simp [Run.emit, internalErrors, hevent]⟩
  have hseq : Reports ((.ok ⟨⟩ : Except PollFault PUnit) >>= fun _ => spec)
      (Run.emit event >>= next) := hemit.bind fun _ => hnext
  exact hseq

/-- A silent call whose failure is reported under the marker. -/
theorem Reports.silent_reportErr {α : Type} {fault : PollFault} (hreported : fault.reported = true)
    (outcome : Outcome AnyError α) {report : AnyError → Event}
    (hreport : ∀ e, (report e).isInternalError = true) :
    Reports (faultOf fault outcome)
      ((Run.silent outcome).reportErr report AnyError.reportedToStatsd) := by
  cases outcome with
  | ok value => exact ⟨rfl, rfl⟩
  | error e =>
      refine ⟨by simp [Run.reportErr], ?_⟩
      simp [Run.reportErr, internalErrors, hreport, PollFault.atoms, hreported]
  | panic => exact ⟨by simp [Run.reportErr], rfl⟩

theorem Reports.foreign_reportErr {α : Type} {fault : PollFault}
    (hreported : fault.reported = true) (answer : Except String α) {report : AnyError → Event}
    (hreport : ∀ e, (report e).isInternalError = true) :
    Reports (answer.mapError fun _ => fault)
      ((Run.ofExcept (foreign answer)).reportErr report AnyError.reportedToStatsd) := by
  cases answer with
  | ok value => exact ⟨rfl, rfl⟩
  | error text =>
      refine ⟨by simp [Run.reportErr, Run.ofExcept, foreign], ?_⟩
      simp [Run.reportErr, Run.ofExcept, foreign, internalErrors, hreport, PollFault.atoms,
        hreported]

theorem isInternalError_itemReport (h : Handler) (mapPath : String) (task : ResolvedTask)
    (e : AnyError) : (itemReport h mapPath task e).isInternalError = true := by
  unfold itemReport
  split <;> rfl

theorem handleItems_reports (h : Handler) (mapPath : String) (task : ResolvedTask)
    (items : List h.T) (state : h.S) :
    Reports (itemsFault h task items state) (handleItems h mapPath task items state) := by
  induction items generalizing state with
  | nil => exact Reports.pure state
  | cons item rest ih =>
      apply Reports.bind
      · exact Reports.silent_reportErr rfl _ (isInternalError_itemReport h mapPath task)
      · exact ih

/-- Converting the timeout fails without a report. -/
theorem tryIntoI32_reports (remaining : Nat) {α : Type} {spec : Except PollFault α}
    {next : Int32 → Run Event AnyError α} (hnext : ∀ timeoutMs, Reports spec (next timeoutMs)) :
    Reports (if ¬ remaining < 2 ^ 31 then throw .timeoutConversion >>= fun _ : PUnit => spec else spec)
      (Run.ofExcept (tryIntoI32 remaining) >>= next) := by
  by_cases hfits : remaining < 2 ^ 31
  · rw [tryIntoI32_of_lt hfits, if_neg (not_not_intro hfits)]
    exact hnext (Int32.ofNat remaining)
  · rw [tryIntoI32_of_not_lt hfits, if_pos hfits]
    exact ⟨by simp [Run.ofExcept, Run.bind_def, Run.bind], rfl⟩

theorem pollRounds_reports (h : Handler) (mapPath : String) (task : ResolvedTask)
    (duration : Duration) (rounds : List (Round h.T)) (state : h.S) (totalEvents : Nat) :
    Reports (roundsFault h task duration rounds state totalEvents)
      (pollRounds h mapPath task duration rounds state totalEvents) := by
  induction rounds generalizing state totalEvents with
  | nil => exact Reports.pure _
  | cons round rest ih =>
      rw [roundsFault, pollRounds]
      cases hremaining : remainingMillis duration round.elapsedMillis with
      | none => exact Reports.pure _
      | some remaining =>
          apply tryIntoI32_reports
          intro timeoutMs
          apply Reports.emit_bind rfl
          apply Reports.bind (Reports.foreign_reportErr rfl _ fun _ => rfl)
          intro result
          apply Reports.bind (handleItems_reports h mapPath task result state)
          intro state
          exact ih state _

theorem pollLoopGeneric_reports (h : Handler) (task : ResolvedTask) (duration : Duration)
    (durationFits : Nat → Bool) (script : PollScript h.T) :
    Reports (loopFault h task duration durationFits script)
      (pollLoopGeneric h h.mapPath task duration durationFits script) := by
  unfold pollLoopGeneric loopFault
  simp only [ne_eq, not_true_eq_false, ↓reduceIte]
  apply Reports.bind (Reports.foreign_reportErr rfl _ fun _ => rfl)
  intro _
  apply Reports.bind (pollRounds_reports h h.mapPath task duration script.rounds h.default 0)
  rintro ⟨state, totalEvents⟩
  apply Reports.bind
  · cases h.onFinished state with
    | ok value => exact ⟨rfl, rfl⟩
    | error e => exact ⟨by simp, rfl⟩
    | panic => exact ⟨by simp, rfl⟩
  · intro _
    cases durationFits duration.asMillis with
    | true => exact ⟨rfl, rfl⟩
    | false => exact ⟨by simp [Run.fail], rfl⟩

/-- A polling thread ends by its fault and reports it once or not at all. -/
theorem pollRegistry_reports (env : PollEnv) (task : ResolvedTask) (mapPath : String) :
    Reports (env.threadFault task mapPath) (pollRegistry env mapPath task task.duration) := by
  unfold PollEnv.threadFault pollRegistry
  cases hregistry : env.registry mapPath with
  | none => exact ⟨by simp [Run.fail], rfl⟩
  | some h =>
      have hpath := env.registered mapPath h hregistry
      subst hpath
      exact pollLoopGeneric_reports h task task.duration env.durationFits _

/-! Polling neither attaches nor detaches anything. -/

def Event.isAttachment : Event → Bool
  | .attach _ => true
  | .detach _ => true
  | _ => false

/-- No probe is attached or detached during the run. -/
def LeavesProbes {α : Type} (run : Run Event AnyError α) : Prop :=
  run.All fun event => event.isAttachment = false

theorem LeavesProbes.bind {α β : Type} {first : Run Event AnyError α}
    {next : α → Run Event AnyError β} (hfirst : LeavesProbes first)
    (hnext : ∀ value, LeavesProbes (next value)) : LeavesProbes (first >>= next) :=
  Run.All.bind hfirst hnext

theorem leavesProbes_of_trace {α : Type} {run : Run Event AnyError α} (hnil : run.trace = []) :
    LeavesProbes run :=
  Run.All.of_trace_eq_nil hnil

theorem leavesProbes_emit {event : Event} (hevent : event.isAttachment = false) :
    LeavesProbes (Run.emit event) :=
  Run.All.emit hevent

theorem leavesProbes_reportErr {α : Type} {run : Run Event AnyError α} (hnil : run.trace = [])
    {report : AnyError → Event} (hreport : ∀ e, (report e).isAttachment = false)
    (wrap : AnyError → AnyError) : LeavesProbes (run.reportErr report wrap) :=
  Run.All.reportErr (Run.All.of_trace_eq_nil hnil) hreport wrap

theorem isAttachment_itemReport (h : Handler) (mapPath : String) (task : ResolvedTask)
    (e : AnyError) : (itemReport h mapPath task e).isAttachment = false := by
  unfold itemReport
  split <;> rfl

theorem handleItems_leavesProbes (h : Handler) (mapPath : String) (task : ResolvedTask)
    (items : List h.T) (state : h.S) : LeavesProbes (handleItems h mapPath task items state) := by
  induction items generalizing state with
  | nil => exact leavesProbes_of_trace rfl
  | cons item rest ih =>
      apply LeavesProbes.bind
      · exact leavesProbes_reportErr rfl (isAttachment_itemReport h mapPath task) _
      · exact ih

theorem pollRounds_leavesProbes (h : Handler) (mapPath : String) (task : ResolvedTask)
    (duration : Duration) (rounds : List (Round h.T)) (state : h.S) (totalEvents : Nat) :
    LeavesProbes (pollRounds h mapPath task duration rounds state totalEvents) := by
  induction rounds generalizing state totalEvents with
  | nil => exact leavesProbes_of_trace rfl
  | cons round rest ih =>
      rw [pollRounds]
      split
      · exact leavesProbes_of_trace rfl
      · apply LeavesProbes.bind (leavesProbes_of_trace (Run.trace_ofExcept _))
        intro timeoutMs
        apply LeavesProbes.bind (leavesProbes_emit rfl)
        intro _
        apply LeavesProbes.bind (leavesProbes_reportErr (Run.trace_ofExcept _) (fun _ => rfl) _)
        intro result
        apply LeavesProbes.bind (handleItems_leavesProbes h mapPath task result state)
        intro state
        exact ih state _

theorem pollLoopGeneric_leavesProbes (h : Handler) (mapPath : String) (task : ResolvedTask)
    (duration : Duration) (durationFits : Nat → Bool) (script : PollScript h.T) :
    LeavesProbes (pollLoopGeneric h mapPath task duration durationFits script) := by
  unfold pollLoopGeneric
  dsimp only
  split
  · exact leavesProbes_of_trace rfl
  · apply LeavesProbes.bind (leavesProbes_reportErr (Run.trace_ofExcept _) (fun _ => rfl) _)
    intro _
    apply LeavesProbes.bind (pollRounds_leavesProbes h mapPath task duration _ _ _)
    intro polled
    apply LeavesProbes.bind (leavesProbes_of_trace rfl)
    intro _
    split
    · exact leavesProbes_emit rfl
    · exact leavesProbes_of_trace rfl

theorem pollRegistry_leavesProbes (env : PollEnv) (mapPath : String) (task : ResolvedTask)
    (duration : Duration) : LeavesProbes (pollRegistry env mapPath task duration) := by
  unfold pollRegistry
  split
  · exact leavesProbes_of_trace rfl
  · exact pollLoopGeneric_leavesProbes _ mapPath task duration _ _

end UprobeStats
