/-
Waiting for an app to start by a probe on the system server
(`wait_for_app_start_uprobe`), and how long the probes of this function and of
the execution of a task stay attached.
-/
import UprobeStats.Execute

namespace UprobeStats

open Traced

/-- `struct ProcessChange`. -/
structure ProcessChange where
  pid : Int32
  uid : Int32
  processName : List UInt8
  length_eq : processName.length = 256

def bpfProgProcessManagementMakeActive : String := "prog_ProcessManagement_uprobe_make_active"

def bpfProgProcessManagementOnProcessActive : String :=
  "prog_ProcessManagement_uprobe_on_process_active"

def bpfMapProcessManagement : String := "map_ProcessManagement_process_change_output_buf"

/-- What the wait meets: the pid of the system server, the two offset queries,
the perf event, the ring buffer and the clock. -/
structure AppStartEnv where
  systemServerPid : Option Int32
  makeActiveOffsets : Except String ExecutableMethodFileOffsets
  onProcessActiveOffsets : Except String ExecutableMethodFileOffsets
  perfEventOpen : String → Int32 → Int32 → String → Except String Unit
  create : Except String Unit
  rounds : List (Round ProcessChange)
  /-- The `{:?}` rendering of a duration. -/
  debugDuration : Duration → String

/-- The `{:?}` rendering of an `Option<&str>`. -/
def debugName : Option String → String
  | none => "None"
  | some name => "Some(" ++ name.quote ++ ")"

/-- The loop over the process changes of one poll. -/
def findProcess (processName : Option String) :
    List ProcessChange → Except AnyError (Option ResolvedProcess)
  | [] => .ok none
  | change :: rest => do
      let name ← bytesAsStr change.processName
      if processName.isNone || processName == some name then
        if change.pid ≤ 0 then findProcess processName rest
        else return some ⟨change.pid, change.uid, name⟩
      else findProcess processName rest

section Wait

variable (env : AppStartEnv) (processName : Option String) (duration : Duration)

/-- The offsets to probe and the program to probe them with. -/
def appStartTarget : Except AnyError (ExecutableMethodFileOffsets × String) :=
  match env.makeActiveOffsets with
  | .ok offsets => .ok (offsets, bpfProgProcessManagementMakeActive)
  | .error _ => do
      let offsets ← foreign env.onProcessActiveOffsets
      return (offsets, bpfProgProcessManagementOnProcessActive)

def waitTimeout : AnyError :=
  .message ("Timeout waiting duration " ++ env.debugDuration duration ++
    " for process_name " ++ debugName processName)

/-- The polling loop. -/
def waitRounds : List (Round ProcessChange) → Run Event AnyError ResolvedProcess
  | [] => Run.fail (waitTimeout env processName duration)
  | round :: rest =>
      match remainingMillis duration round.elapsedMillis with
      | none => Run.fail (waitTimeout env processName duration)
      | some remaining => do
          let timeoutMs ← Run.ofExcept (tryIntoI32 remaining)
          Run.emit (.poll (prefixBpf bpfMapProcessManagement) timeoutMs)
          let result ← Run.ofExcept (foreign round.poll)
          match ← Run.ofExcept (findProcess processName result) with
          | some process => return process
          | none => waitRounds rest

/-- The first half of `wait_for_app_start_uprobe`.  The descriptor of the perf
event is not bound, so it is dropped at the end of the statement that opens
it. -/
def attachAppStart : Run Event AnyError Unit := do
  let systemServerPid ← Run.ofExcept
    (required "failed to get system server pid" env.systemServerPid)
  let (offsets, bpfProgName) ← Run.ofExcept (appStartTarget env)
  let offset ← Run.ofExcept (tryIntoI32 offsets.methodOffset.toNat)
  Run.ofExcept (foreign (env.perfEventOpen offsets.containerPath offset systemServerPid
    (prefixBpf bpfProgName)))
  Run.emit (.attach 0)
  Run.emit (.detach 0)

/-- The second half, from the timer on. -/
def pollAppStart : Run Event AnyError ResolvedProcess := do
  Run.ofExcept (foreign env.create)
  waitRounds env processName duration env.rounds

def waitForAppStartUprobe : Run Event AnyError ResolvedProcess := do
  attachAppStart env
  pollAppStart env processName duration

end Wait

/-- Every step up to the perf event goes well. -/
def AppStartEnv.Attaches (env : AppStartEnv) : Prop :=
  ∃ pid offsets bpfProgName, env.systemServerPid = some pid ∧
    appStartTarget env = .ok (offsets, bpfProgName) ∧
    offsets.methodOffset.toNat < 2 ^ 31 ∧
    env.perfEventOpen offsets.containerPath (Int32.ofNat offsets.methodOffset.toNat) pid
      (prefixBpf bpfProgName) = .ok ()

/-- The ring buffer is there, and the timer has not expired yet and fits. -/
def AppStartEnv.Polls (env : AppStartEnv) (duration : Duration) : Prop :=
  env.create = .ok () ∧ ∃ round rest remaining, env.rounds = round :: rest ∧
    remainingMillis duration round.elapsedMillis = some remaining ∧ remaining < 2 ^ 31

theorem attachAppStart_cases (env : AppStartEnv) :
    (env.Attaches ∧ attachAppStart env = ⟨[.attach 0, .detach 0], .ok ()⟩) ∨
      (¬ env.Attaches ∧ ∃ e, attachAppStart env = ⟨[], .error e⟩) := by
  unfold attachAppStart
  cases hpid : env.systemServerPid with
  | none =>
      right
      refine ⟨?_, .message "failed to get system server pid", rfl⟩
      rintro ⟨pid, _, _, hsome, _⟩
      rw [hpid] at hsome
      cases hsome
  | some pid =>
      simp only [required, Run.bind_ofExcept_ok]
      cases htarget : appStartTarget env with
      | error e =>
          right
          refine ⟨?_, e, rfl⟩
          rintro ⟨_, offsets, bpfProgName, _, hok, _⟩
          rw [htarget] at hok
          cases hok
      | ok target =>
          obtain ⟨offsets, bpfProgName⟩ := target
          have hunique : ∀ pid' offsets' bpfProgName', env.systemServerPid = some pid' →
              appStartTarget env = .ok (offsets', bpfProgName') →
              pid = pid' ∧ offsets = offsets' ∧ bpfProgName = bpfProgName' := by
            intro pid' offsets' bpfProgName' hsome hok
            rw [hpid, Option.some.injEq] at hsome
            rw [htarget, Except.ok.injEq, Prod.mk.injEq] at hok
            exact ⟨hsome, hok⟩
          simp only [Run.bind_ofExcept_ok]
          by_cases hfits : offsets.methodOffset.toNat < 2 ^ 31
          · rw [tryIntoI32_of_lt hfits, Run.bind_ofExcept_ok]
            cases hopen : env.perfEventOpen offsets.containerPath
                (Int32.ofNat offsets.methodOffset.toNat) pid (prefixBpf bpfProgName) with
            | error text =>
                right
                refine ⟨?_, .message text, rfl⟩
                rintro ⟨_, _, _, hsome, hok, _, hopened⟩
                obtain ⟨rfl, rfl, rfl⟩ := hunique _ _ _ hsome hok
                rw [hopen] at hopened
                cases hopened
            | ok _ => exact Or.inl ⟨⟨pid, offsets, bpfProgName, hpid, htarget, hfits, hopen⟩, rfl⟩
          · right
            refine ⟨?_, .message "out of range integral type conversion attempted", ?_⟩
            · rintro ⟨_, _, _, hsome, hok, hlt, _⟩
              obtain ⟨rfl, rfl, rfl⟩ := hunique _ _ _ hsome hok
              exact hfits hlt
            · rw [tryIntoI32_of_not_lt hfits, Run.bind_ofExcept_error]

theorem pollAppStart_cases (env : AppStartEnv) (processName : Option String)
    (duration : Duration) :
    (env.Polls duration ∧ ∃ mapPath timeoutMs after,
        (pollAppStart env processName duration).trace = .poll mapPath timeoutMs :: after) ∨
      (¬ env.Polls duration ∧ (pollAppStart env processName duration).trace = []) := by
  unfold pollAppStart AppStartEnv.Polls
  cases hcreate : env.create with
  | error text => exact Or.inr ⟨by simp, rfl⟩
  | ok _ =>
      simp only [foreign, Run.bind_ofExcept_ok]
      cases hrounds : env.rounds with
      | nil => exact Or.inr ⟨by simp, rfl⟩
      | cons round rest =>
          rw [waitRounds]
          cases hremaining : remainingMillis duration round.elapsedMillis with
          | none =>
              right
              refine ⟨?_, rfl⟩
              rintro ⟨_, _, _, remaining, hcons, hsome, _⟩
              cases hcons
              rw [hremaining] at hsome
              cases hsome
          | some remaining =>
              by_cases hfits : remaining < 2 ^ 31
              · left
                refine ⟨⟨trivial, round, rest, remaining, rfl, hremaining, hfits⟩,
                  prefixBpf bpfMapProcessManagement, Int32.ofNat remaining, ?_⟩
                simp only [tryIntoI32_of_lt hfits, Run.bind_ofExcept_ok, Run.trace_bind_emit]
                exact ⟨_, rfl⟩
              · right
                refine ⟨?_, ?_⟩
                · rintro ⟨_, _, _, remaining', hcons, hsome, hlt⟩
                  cases hcons
                  rw [hremaining, Option.some.injEq] at hsome
                  exact hfits (hsome ▸ hlt)
                · simp only [tryIntoI32_of_not_lt hfits, Run.bind_ofExcept_error]

/-! How long probes stay attached. -/

/-- The probes a trace has opened. -/
def opened (trace : List Event) : List Nat :=
  trace.filterMap fun
    | .attach probe => some probe
    | _ => none

/-- The effect of an event on the probes that are attached. -/
def track (live : List Nat) : Event → List Nat
  | .attach probe => live ++ [probe]
  | .detach probe => live.erase probe
  | _ => live

/-- The probes that are attached after a trace. -/
def attached (trace : List Event) : List Nat := trace.foldl track []

/-- All probes opened so far are attached at every poll, and none in the end. -/
structure KeepsAttached (trace : List Event) : Prop where
  polled : ∀ before mapPath timeoutMs after,
    trace = before ++ .poll mapPath timeoutMs :: after → attached before = opened before
  released : attached trace = []

theorem foldl_track_of_leaves {events : List Event}
    (hleaves : ∀ event ∈ events, event.isAttachment = false) (live : List Nat) :
    events.foldl track live = live := by
  induction events generalizing live with
  | nil => rfl
  | cons event rest ih =>
      have hevent := hleaves event (List.mem_cons_self ..)
      have htrack : track live event = live := by
        cases event with
        | attach probe => cases hevent
        | detach probe => cases hevent
        | internalError atom => rfl
        | poll mapPath timeoutMs => rfl
        | bpfMapPolled mapPath durationMs totalEvents taskId => rfl
      rw [List.foldl_cons, htrack]
      exact ih (fun other hother => hleaves other (List.mem_cons_of_mem _ hother)) live

theorem opened_of_leaves {events : List Event}
    (hleaves : ∀ event ∈ events, event.isAttachment = false) : opened events = [] := by
  rw [opened, List.filterMap_eq_nil_iff]
  intro event hevent
  have hkind := hleaves event hevent
  cases event with
  | attach probe => cases hkind
  | detach probe => rfl
  | internalError atom => rfl
  | poll mapPath timeoutMs => rfl
  | bpfMapPolled mapPath durationMs totalEvents taskId => rfl

theorem foldl_track_attach (probes live : List Nat) :
    (probes.map Event.attach).foldl track live = live ++ probes := by
  induction probes generalizing live with
  | nil => simp
  | cons probe rest ih => simp [track, ih]

theorem foldl_track_detach (probes : List Nat) :
    (probes.map Event.detach).foldl track probes = [] := by
  induction probes with
  | nil => rfl
  | cons probe rest ih =>
      rw [List.map_cons, List.foldl_cons, track, List.erase_cons_head]
      exact ih

theorem opened_attach (probes : List Nat) : opened (probes.map Event.attach) = probes := by
  simp [opened]

/-- Where an event stands that occurs neither in the front nor in the back. -/
theorem split_between {α : Type} {front middle back before after : List α} {x : α}
    (hfront : x ∉ front) (hback : x ∉ back)
    (heq : front ++ middle ++ back = before ++ x :: after) :
    ∃ inner, before = front ++ inner ∧ ∀ y ∈ inner, y ∈ middle := by
  rw [List.append_assoc] at heq
  rcases List.append_eq_append_iff.1 heq with ⟨inner, hbefore, hrest⟩ | ⟨cut, hcut, hrest⟩
  · refine ⟨inner, hbefore, ?_⟩
    rcases List.append_eq_append_iff.1 hrest with ⟨more, hinner, hmore⟩ | ⟨more, hmiddle, _⟩
    · exfalso
      apply hback
      rw [hmore]
      simp
    · intro y hy
      rw [hmiddle]
      exact List.mem_append_left _ hy
  · cases cut with
    | nil =>
        rw [List.append_nil] at hcut
        exact ⟨[], by simp [hcut], by simp⟩
    | cons first rest =>
        exfalso
        apply hfront
        rw [List.cons_append, List.cons.injEq] at hrest
        rw [hcut, hrest.1]
        simp

/-- Attach, then do other things, then detach: this keeps the probes attached
while anything is polled. -/
theorem keepsAttached_of_bracket (probes : List Nat) (middle : List Event)
    (hleaves : ∀ event ∈ middle, event.isAttachment = false) :
    KeepsAttached (probes.map .attach ++ middle ++ probes.map .detach) := by
  constructor
  · intro before mapPath timeoutMs after heq
    obtain ⟨inner, rfl, hinner⟩ := split_between (by simp) (by simp) heq
    have hquiet : ∀ event ∈ inner, event.isAttachment = false :=
      fun event hevent => hleaves event (hinner event hevent)
    rw [attached, List.foldl_append, foldl_track_attach, foldl_track_of_leaves hquiet, opened,
      List.filterMap_append]
    rw [← opened, ← opened, opened_attach, opened_of_leaves hquiet]
    simp
  · rw [attached, List.foldl_append, List.foldl_append, foldl_track_attach,
      foldl_track_of_leaves hleaves, List.nil_append, foldl_track_detach]

theorem pollMaps_leavesProbes {task : ResolvedTask} (env : ExecuteEnv task) :
    ∀ event ∈ (pollMaps env).trace, event.isAttachment = false := by
  intro event hevent
  have hmem := (env.interleave_perm _).mem_iff.1 hevent
  obtain ⟨trace, htrace, hevent⟩ := List.mem_flatten.1 hmem
  obtain ⟨thread, hthread, rfl⟩ := List.mem_map.1 htrace
  obtain ⟨mapPath, _, rfl⟩ := List.mem_map.1 hthread
  exact pollRegistry_leavesProbes env.poll mapPath task task.duration event hevent

/-- Executing a task keeps its probes attached, whatever happens. -/
theorem attachProbesAndPollMaps_keepsAttached {task : ResolvedTask} (env : ExecuteEnv task) :
    KeepsAttached (attachProbesAndPollMaps env).trace := by
  rcases attachProbesAndPollMaps_cases env with
    ⟨_, text, hrun⟩ | ⟨_, _, count, report, e, hrun, honce⟩ | ⟨_, _, hrun⟩
  · rw [hrun]
    exact keepsAttached_of_bracket [] [] (by simp)
  · rw [hrun]
    exact keepsAttached_of_bracket _ _ honce.leavesProbes
  · rw [hrun]
    exact keepsAttached_of_bracket _ _ (pollMaps_leavesProbes env)

/-- Waiting for an app keeps its probe attached only if it does not poll. -/
theorem waitForAppStartUprobe_keepsAttached_iff (env : AppStartEnv)
    (processName : Option String) (duration : Duration) :
    KeepsAttached (waitForAppStartUprobe env processName duration).trace ↔
      ¬ (env.Attaches ∧ env.Polls duration) := by
  unfold waitForAppStartUprobe
  rcases attachAppStart_cases env with ⟨hattaches, hattach⟩ | ⟨hattaches, e, hattach⟩
  · rw [hattach, Run.bind_of_ok rfl]
    rcases pollAppStart_cases env processName duration with
      ⟨hpolls, mapPath, timeoutMs, after, hpoll⟩ | ⟨hpolls, hpoll⟩
    · have hdetached : ¬ KeepsAttached ([.attach 0, .detach 0] ++
          (pollAppStart env processName duration).trace) := by
        intro hkeeps
        have hpolled := hkeeps.polled _ mapPath timeoutMs after (by rw [hpoll])
        exact absurd hpolled (by decide)
      simp only [hattaches, hpolls, hdetached, and_self, not_true_eq_false]
    · have hkeeps : KeepsAttached ([.attach 0, .detach 0] ++
          (pollAppStart env processName duration).trace) := by
        rw [hpoll]
        exact keepsAttached_of_bracket [0] [] (by simp)
      simp only [hpolls, hkeeps, and_false, not_false_eq_true]
  · have hkeeps : KeepsAttached ([] : List Event) :=
      keepsAttached_of_bracket [] [] (by simp)
    rw [hattach]
    simp only [hattaches, false_and, not_false_eq_true, iff_true]
    exact hkeeps

/-- A run of one of the two functions that attach probes and poll. -/
inductive ProbingRun where
  | attachProbesAndPollMaps (task : ResolvedTask) (env : ExecuteEnv task)
  | waitForAppStartUprobe (env : AppStartEnv) (processName : Option String)
      (duration : Duration)

def ProbingRun.trace : ProbingRun → List Event
  | .attachProbesAndPollMaps _ env => (UprobeStats.attachProbesAndPollMaps env).trace
  | .waitForAppStartUprobe env processName duration =>
      (UprobeStats.waitForAppStartUprobe env processName duration).trace

/-- The run is not one that waits for an app and gets to poll. -/
def ProbingRun.BindsDescriptors : ProbingRun → Prop
  | .attachProbesAndPollMaps _ _ => True
  | .waitForAppStartUprobe env _ duration => ¬ (env.Attaches ∧ env.Polls duration)

/-- Probes stay attached while they are polled and are detached afterwards in
every run but those that wait for an app and get to poll. -/
theorem probes_attached_while_polled_iff (run : ProbingRun) :
    KeepsAttached run.trace ↔ run.BindsDescriptors := by
  cases run with
  | attachProbesAndPollMaps task env =>
      simp only [ProbingRun.BindsDescriptors, iff_true]
      exact attachProbesAndPollMaps_keepsAttached env
  | waitForAppStartUprobe env processName duration =>
      exact waitForAppStartUprobe_keepsAttached_iff env processName duration

/-- A wait for any app on a device on which every step works and nothing
starts within the first second. -/
def quietDevice : AppStartEnv where
  systemServerPid := some 1000
  makeActiveOffsets := .ok ⟨"/system/framework/oat/arm64/services.odex", 0, 4096⟩
  onProcessActiveOffsets := .error "not asked"
  perfEventOpen _ _ _ _ := .ok ()
  create := .ok ()
  rounds := [⟨0, .ok []⟩]
  debugDuration _ := "1s"

/-- The probe is gone when its ring buffer is polled. -/
theorem appStart_polled_detached :
    ¬ KeepsAttached
      (ProbingRun.waitForAppStartUprobe quietDevice none (Duration.fromSecs 1)).trace := by
  intro hkeeps
  have hpolled := hkeeps.polled [.attach 0, .detach 0]
    (prefixBpf bpfMapProcessManagement) 1000 [] rfl
  exact absurd hpolled (by decide)

end UprobeStats
