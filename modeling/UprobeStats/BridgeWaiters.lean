/-
The callers that wait for the bridge buffer to be flushed.  A call of
`waitQueueFlushed` sleeps on the lock of the buffer, the batch that empties the
buffer wakes every sleeper, and a call that has left the lock looks at the
buffer once more.  The system decides when a sleeper times out or is
interrupted, and everything else interleaves freely.
-/
import UprobeStats.BridgeHistory

namespace UprobeStats

open Transition

/-- Where a call of `waitQueueFlushed` is. -/
inductive WaitStage where
  /-- In `mLock.wait`, with the time-out it was given. -/
  | waiting (millis : Nat)
  /-- Out of `mLock.wait` by a `notifyAll`. -/
  | notified
  /-- Out of `mLock.wait` by its time-out, or for no reason. -/
  | timedOut
  | threw
  | returned (flushed : Bool)
deriving DecidableEq, Repr

/-- A call of `waitQueueFlushed`.  The second field is history. -/
structure WaitCall (E : Type) where
  stage : WaitStage
  /-- What `enqueueEvent` had added when the call was made. -/
  accepted : List E
deriving DecidableEq, Repr

/-- The service and the calls that wait for it. -/
structure WaitingBridge (E : Type) where
  service : Bridge E
  calls : List (WaitCall E)
deriving DecidableEq, Repr

inductive WaitAction (E : Type) where
  | service (action : Bridge.Action E)
  | waitQueueFlushed
  | timeOut (i : Nat)
  | interrupt (i : Nat)
  /-- A call that has left the lock reads the buffer and returns. -/
  | finish (i : Nat)
deriving DecidableEq, Repr

namespace Bridge

variable {E : Type}

/-- The events handed out in batches so far. -/
def handedOut (s : Bridge E) : List E :=
  (s.batches.map Batch.events).flatten

/-- `getNextBatch` calls `notifyAll` when it has emptied the buffer, and not
when it has found it empty. -/
def notifies (before : Bridge E) (action : Action E) (after : Bridge E) : Bool :=
  match action with
  | .getNextBatch _ => !before.eventBuffer.isEmpty && after.eventBuffer.isEmpty
  | _ => false

end Bridge

namespace WaitCall

variable {E : Type}

/-- `notifyAll` wakes a call that is in `wait`, and no other. -/
def notify (call : WaitCall E) : WaitCall E :=
  match call.stage with
  | .waiting _ => { call with stage := .notified }
  | _ => call

def isWaiting (call : WaitCall E) : Bool :=
  match call.stage with
  | .waiting _ => true
  | _ => false

/-- The call has left the lock and is about to read the buffer. -/
def hasWoken (call : WaitCall E) : Bool :=
  match call.stage with
  | .notified => true
  | .timedOut => true
  | _ => false

end WaitCall

namespace Bridge

variable {E : Type}

/-! What a step of the service does for the calls that wait for it. -/

/-- The histories only grow, and the buffer is only emptied with a
`notifyAll`. -/
structure Progresses (s : Bridge E) (action : Action E) (s' : Bridge E) : Prop where
  handedOut : s.handedOut <+: s'.handedOut
  accepted : s.accepted <+: s'.accepted
  emptied : s.eventBuffer ≠ [] → s'.eventBuffer = [] → s.notifies action s' = true
  timeout : 0 < s.flushTimeout → 0 < s'.flushTimeout

theorem flushTimeoutMillis_pos : 0 < flushTimeoutMillis := by
  decide

theorem testFlushTimeoutMillis_pos : 0 < testFlushTimeoutMillis := by
  decide

/-- A step that leaves the events alone. -/
theorem Progresses.frame {s s' : Bridge E} (action : Action E)
    (hbuffer : s'.eventBuffer = s.eventBuffer) (haccepted : s'.accepted = s.accepted)
    (hbatches : s'.batches = s.batches) (htimeout : 0 < s.flushTimeout → 0 < s'.flushTimeout) :
    s.Progresses action s' := by
  refine ⟨?_, ?_, ?_, htimeout⟩
  · simp only [Bridge.handedOut, hbatches, List.prefix_rfl]
  · simp only [haccepted, List.prefix_rfl]
  · intro hne hnil
    rw [hbuffer] at hnil
    contradiction

theorem enqueueEvent_progresses (s : Bridge E) (event : E) (flush : Bool) :
    s.Progresses (.enqueueEvent event flush) (s.enqueueEvent event flush) := by
  cases hconsumer : s.consumer with
  | none =>
      have hdropped : s.enqueueEvent event flush = s := by
        simp only [Bridge.enqueueEvent, hconsumer]
      rw [hdropped]
      exact Progresses.frame _ rfl rfl rfl id
  | some component =>
      have hkept : (s.enqueueEvent event flush).eventBuffer = s.eventBuffer ++ [event] ∧
          (s.enqueueEvent event flush).accepted = s.accepted ++ [event] ∧
          (s.enqueueEvent event flush).batches = s.batches ∧
          (s.enqueueEvent event flush).flushTimeout = s.flushTimeout := by
        simp only [Bridge.enqueueEvent, hconsumer]
        split
        · exact ⟨rfl, rfl, rfl, rfl⟩
        · split
          · exact ⟨rfl, rfl, rfl, rfl⟩
          · exact ⟨rfl, rfl, rfl, rfl⟩
      obtain ⟨hbuffer, haccepted, hbatches, htimeout⟩ := hkept
      refine ⟨?_, ?_, ?_, ?_⟩
      · simp only [Bridge.handedOut, hbatches, List.prefix_rfl]
      · rw [haccepted]
        exact List.prefix_append _ _
      · intro _ hnil
        rw [hbuffer] at hnil
        exact absurd hnil (by simp)
      · rw [htimeout]
        exact id

theorem bindConsumerIfNeeded_progresses {s t : Bridge E} (htakes : TakesRunnable s t)
    (htimeout : t.flushTimeout = s.flushTimeout) (action : Action E) (success : Bool) :
    s.Progresses action (t.bindConsumerIfNeeded success) := by
  have hframe : ∀ u : Bridge E, u.eventBuffer = t.eventBuffer → u.accepted = t.accepted →
      u.batches = t.batches → u.flushTimeout = t.flushTimeout → s.Progresses action u := by
    intro u hbuffer haccepted hbatches hu
    apply Progresses.frame
    · exact hbuffer.trans htakes.eventBuffer
    · exact haccepted.trans htakes.accepted
    · exact hbatches.trans htakes.batches
    · rw [hu, htimeout]
      exact id
  rcases bindConsumerIfNeeded_cases t success with ⟨_, _, _, hbind⟩ | ⟨_, hbind⟩
  · rw [hbind]
    exact hframe _ rfl rfl rfl rfl
  · rw [hbind]
    exact hframe _ rfl rfl rfl rfl

theorem takeBatch_progresses (s : Bridge E) (i : Nat) :
    s.Progresses (.getNextBatch i) (s.takeBatch i) := by
  refine ⟨?_, List.prefix_rfl, ?_, id⟩
  · simp only [Bridge.handedOut, Bridge.takeBatch, List.map_append, List.flatten_append]
    exact List.prefix_append _ _
  · intro hne hnil
    simp [notifies, hne, hnil]

theorem step_progresses {s s' : Bridge E} {action : Action E} (hstep : s.step action = some s') :
    s.Progresses action s' := by
  cases action with
  | enqueueEvent event flush =>
      rw [Bridge.step, Option.some.injEq] at hstep
      rw [← hstep]
      exact s.enqueueEvent_progresses event flush
  | runPosted success =>
      simp only [Bridge.step] at hstep
      split at hstep
      · rename_i hposted
        rw [← Option.some.inj hstep]
        exact bindConsumerIfNeeded_progresses (takesRunnable_posted hposted) rfl _ success
      · cases hstep
  | runDelayed i success =>
      simp only [Bridge.step] at hstep
      split at hstep
      · rename_i hi
        rw [← Option.some.inj hstep]
        exact bindConsumerIfNeeded_progresses (takesRunnable_delayed hi) rfl _ success
      · cases hstep
  | getNextBatch i =>
      simp only [Bridge.step] at hstep
      split at hstep
      · rw [← Option.some.inj hstep]
        exact s.takeBatch_progresses i
      · cases hstep
  | onServiceConnected i =>
      obtain ⟨_, _, _, rfl⟩ := moveConnection_eq_some hstep
      exact Progresses.frame _ rfl rfl rfl id
  | onEventReturned i =>
      obtain ⟨_, _, _, rfl⟩ := moveConnection_eq_some hstep
      exact Progresses.frame _ rfl rfl rfl id
  | onEventThrew i =>
      obtain ⟨_, _, _, rfl⟩ := moveConnection_eq_some hstep
      exact Progresses.frame _ rfl rfl rfl id
  | onNullBinding i =>
      obtain ⟨_, _, _, rfl⟩ := moveConnection_eq_some hstep
      exact Progresses.frame _ rfl rfl rfl id
  | enableTestMode component =>
      rw [Bridge.step, Option.some.injEq] at hstep
      rw [← hstep]
      exact Progresses.frame _ rfl rfl rfl fun _ => testFlushTimeoutMillis_pos
  | disableTestMode =>
      rw [Bridge.step, Option.some.injEq] at hstep
      rw [← hstep]
      exact Progresses.frame _ rfl rfl rfl fun _ => flushTimeoutMillis_pos

/-- A batch that empties the buffer, or an empty buffer, leaves every accepted
event handed out. -/
theorem Conserves.accepted_eq_handedOut {s : Bridge E} (hs : s.Conserves)
    (hnil : s.eventBuffer = []) : s.accepted = s.handedOut := by
  have hconserved := hs.conserved
  rw [hnil, List.append_nil] at hconserved
  exact hconserved.symm

theorem empty_of_notifies {before after : Bridge E} {action : Action E}
    (hnotifies : before.notifies action after = true) : after.eventBuffer = [] := by
  cases action with
  | getNextBatch i =>
      rw [notifies, Bool.and_eq_true, List.isEmpty_iff] at hnotifies
      exact hnotifies.2
  | _ => cases hnotifies

end Bridge

namespace WaitingBridge

variable {E : Type}

/-- `waitQueueFlushed` up to `wait`, or to its first `return`. -/
def waitQueueFlushed (s : WaitingBridge E) : WaitCall E where
  stage := if s.service.eventBuffer.isEmpty then .returned true
    else .waiting (s.service.flushTimeout * 2)
  accepted := s.service.accepted

/-- Move a call on, if it is where the step takes it from. -/
def moveCall (s : WaitingBridge E) (i : Nat) (enabled : WaitCall E → Bool)
    (next : WaitStage) : Option (WaitingBridge E) :=
  match s.calls[i]? with
  | none => none
  | some call =>
      if enabled call then some { s with calls := s.calls.set i { call with stage := next } }
      else none

def step (s : WaitingBridge E) : WaitAction E → Option (WaitingBridge E)
  | .service action =>
      match s.service.step action with
      | none => none
      | some service =>
          some {
            service := service
            calls :=
              if s.service.notifies action service then s.calls.map WaitCall.notify else s.calls }
  | .waitQueueFlushed => some { s with calls := s.calls ++ [s.waitQueueFlushed] }
  | .timeOut i => s.moveCall i WaitCall.isWaiting .timedOut
  | .interrupt i => s.moveCall i WaitCall.isWaiting .threw
  | .finish i => s.moveCall i WaitCall.hasWoken (.returned s.service.eventBuffer.isEmpty)

def machine (consumer : Option ComponentName) : Machine (WaitingBridge E) (WaitAction E) where
  init := { service := (Bridge.machine consumer).init, calls := [] }
  step := step

/-- What a call that is at a stage can rely on. -/
def Entitled (service : Bridge E) (accepted : List E) : WaitStage → Prop
  | .waiting millis => service.eventBuffer ≠ [] ∧ 0 < millis
  | .notified => accepted <+: service.handedOut
  | .returned true => accepted <+: service.handedOut
  | _ => True

/-- What holds of the callers, whatever they and the service do. -/
structure Accounted (s : WaitingBridge E) : Prop where
  /-- The service is in a state of its own runs. -/
  conserves : s.service.Conserves
  timeout : 0 < s.service.flushTimeout
  /-- The events of a call were accepted first. -/
  earlier : ∀ call ∈ s.calls, call.accepted <+: s.service.accepted
  entitled : ∀ call ∈ s.calls, Entitled s.service call.accepted call.stage

theorem moveCall_eq_some {s s' : WaitingBridge E} {i : Nat} {enabled : WaitCall E → Bool}
    {next : WaitStage} (hmove : s.moveCall i enabled next = some s') :
    ∃ call, s.calls[i]? = some call ∧ enabled call = true ∧
      s' = { s with calls := s.calls.set i { call with stage := next } } := by
  unfold moveCall at hmove
  split at hmove
  · cases hmove
  · rename_i call hcall
    split at hmove
    · rename_i henabled
      exact ⟨call, hcall, henabled, (Option.some.inj hmove).symm⟩
    · cases hmove

/-- What a call can rely on is kept by a step of the service, once the batch
that empties the buffer has woken it. -/
theorem Entitled.service_step {before after : Bridge E} {action : Bridge.Action E}
    {call : WaitCall E} (hcall : Entitled before call.accepted call.stage)
    (hprogress : before.Progresses action after)
    (hflushed : after.eventBuffer = [] → call.accepted <+: after.handedOut) :
    Entitled after
      (if before.notifies action after then call.notify else call).accepted
      (if before.notifies action after then call.notify else call).stage := by
  by_cases hnotifies : before.notifies action after = true
  · simp only [hnotifies, ↓reduceIte, WaitCall.notify]
    cases hstage : call.stage with
    | waiting millis => exact hflushed (Bridge.empty_of_notifies hnotifies)
    | notified =>
        rw [hstage] at hcall
        simp only [hstage]
        exact hcall.trans hprogress.handedOut
    | timedOut => simp only [hstage, Entitled]
    | threw => simp only [hstage, Entitled]
    | returned flushed =>
        simp only [hstage] at hcall ⊢
        cases flushed with
        | true => exact hcall.trans hprogress.handedOut
        | false => trivial
  · simp only [hnotifies, Bool.false_eq_true, ↓reduceIte]
    cases hstage : call.stage with
    | waiting millis =>
        rw [hstage] at hcall
        refine ⟨?_, hcall.2⟩
        intro hnil
        exact hnotifies (hprogress.emptied hcall.1 hnil)
    | notified =>
        rw [hstage] at hcall
        exact hcall.trans hprogress.handedOut
    | timedOut => trivial
    | threw => trivial
    | returned flushed =>
        rw [hstage] at hcall
        cases flushed with
        | true => exact hcall.trans hprogress.handedOut
        | false => trivial

theorem notify_accepted (call : WaitCall E) : call.notify.accepted = call.accepted := by
  unfold WaitCall.notify
  split <;> rfl

theorem Accounted.service_step {s : WaitingBridge E} {service : Bridge E}
    {action : Bridge.Action E} (hs : s.Accounted) (hstep : s.service.step action = some service) :
    Accounted {
      service := service
      calls :=
        if s.service.notifies action service then s.calls.map WaitCall.notify else s.calls } := by
  have hprogress := Bridge.step_progresses hstep
  have hconserves := hs.conserves.step hstep
  -- the calls after the step are those before it, each woken or not
  have hcalls : ∀ call ∈ (if s.service.notifies action service
      then s.calls.map WaitCall.notify else s.calls), ∃ before ∈ s.calls,
        call = if s.service.notifies action service then before.notify else before := by
    intro call hcall
    by_cases hnotifies : s.service.notifies action service = true
    · rw [if_pos hnotifies] at hcall
      obtain ⟨before, hbefore, rfl⟩ := List.mem_map.1 hcall
      exact ⟨before, hbefore, by rw [if_pos hnotifies]⟩
    · rw [if_neg hnotifies] at hcall
      exact ⟨call, hcall, by rw [if_neg hnotifies]⟩
  have hearlier : ∀ call ∈ s.calls, call.accepted <+: service.accepted := by
    intro call hcall
    exact (hs.earlier call hcall).trans hprogress.accepted
  refine ⟨hconserves, hprogress.timeout hs.timeout, ?_, ?_⟩
  · intro call hcall
    obtain ⟨before, hbefore, rfl⟩ := hcalls call hcall
    split
    · rw [notify_accepted]
      exact hearlier before hbefore
    · exact hearlier before hbefore
  · intro call hcall
    obtain ⟨before, hbefore, rfl⟩ := hcalls call hcall
    apply (hs.entitled before hbefore).service_step hprogress
    intro hnil
    rw [← hconserves.accepted_eq_handedOut hnil]
    exact hearlier before hbefore

/-- A call that starts finds an empty buffer, or sleeps on one that is not. -/
theorem Accounted.waitQueueFlushed {s : WaitingBridge E} (hs : s.Accounted) :
    Accounted { s with calls := s.calls ++ [s.waitQueueFlushed] } := by
  refine ⟨hs.conserves, hs.timeout, ?_, ?_⟩
  · intro call hcall
    rcases List.mem_append.1 hcall with hcall | hcall
    · exact hs.earlier call hcall
    · rw [List.mem_singleton.1 hcall]
      exact List.prefix_rfl
  · intro call hcall
    rcases List.mem_append.1 hcall with hcall | hcall
    · exact hs.entitled call hcall
    · rw [List.mem_singleton.1 hcall]
      simp only [WaitingBridge.waitQueueFlushed]
      split
      · rename_i hempty
        rw [hs.conserves.accepted_eq_handedOut (List.isEmpty_iff.1 hempty)]
        exact List.prefix_rfl
      · rename_i hne
        have htimeout := hs.timeout
        exact ⟨by simpa using hne, by omega⟩

/-- Moving a call on keeps the rest. -/
theorem Accounted.move {s : WaitingBridge E} (hs : s.Accounted) {i : Nat} {call : WaitCall E}
    (hcall : s.calls[i]? = some call) {next : WaitStage}
    (hnext : Entitled s.service call.accepted next) :
    Accounted { s with calls := s.calls.set i { call with stage := next } } := by
  refine ⟨hs.conserves, hs.timeout, ?_, ?_⟩
  · intro other hother
    rcases List.mem_or_eq_of_mem_set hother with hother | rfl
    · exact hs.earlier other hother
    · exact hs.earlier call (List.mem_of_getElem? hcall)
  · intro other hother
    rcases List.mem_or_eq_of_mem_set hother with hother | rfl
    · exact hs.entitled other hother
    · exact hnext

theorem Accounted.step {s s' : WaitingBridge E} {action : WaitAction E} (hs : s.Accounted)
    (hstep : s.step action = some s') : s'.Accounted := by
  cases action with
  | service action =>
      simp only [WaitingBridge.step] at hstep
      split at hstep
      · cases hstep
      · rename_i service hservice
        rw [← Option.some.inj hstep]
        exact hs.service_step hservice
  | waitQueueFlushed =>
      rw [WaitingBridge.step, Option.some.injEq] at hstep
      rw [← hstep]
      exact hs.waitQueueFlushed
  | timeOut i =>
      obtain ⟨call, hcall, _, rfl⟩ := moveCall_eq_some hstep
      exact hs.move hcall trivial
  | interrupt i =>
      obtain ⟨call, hcall, _, rfl⟩ := moveCall_eq_some hstep
      exact hs.move hcall trivial
  | finish i =>
      obtain ⟨call, hcall, _, rfl⟩ := moveCall_eq_some hstep
      apply hs.move hcall
      cases hempty : s.service.eventBuffer.isEmpty with
      | true =>
          simp only [Entitled]
          rw [← hs.conserves.accepted_eq_handedOut (List.isEmpty_iff.1 hempty)]
          exact hs.earlier call (List.mem_of_getElem? hcall)
      | false => trivial

theorem Accounted.init (consumer : Option ComponentName) :
    ((machine consumer : Machine (WaitingBridge E) (WaitAction E)).init).Accounted := by
  refine ⟨Bridge.Conserves.init consumer, Bridge.flushTimeoutMillis_pos, ?_, ?_⟩
  · intro call hcall
    cases hcall
  · intro call hcall
    cases hcall

theorem accounted_of_reachable (consumer : Option ComponentName) {s : WaitingBridge E}
    (hreach : (machine consumer).Reachable s) : s.Accounted := by
  apply hreach.invariant (Accounted.init consumer)
  intro s action s' hs hstep
  exact hs.step hstep

/-- However producers, connections and waiting calls interleave: a call that
sleeps does so on a buffer that has events and with a time-out that is not 0,
so no wake-up has passed it by; and the events that were accepted before a call
have all been handed out in batches once `notifyAll` wakes it, whatever it
returns after that, and whenever it returns `true`. -/
theorem waitQueueFlushed_sound (consumer : Option ComponentName) {s : WaitingBridge E}
    (hreach : (machine consumer).Reachable s) :
    ∀ call ∈ s.calls, call.accepted <+: s.service.accepted ∧
      (∀ millis, call.stage = .waiting millis → s.service.eventBuffer ≠ [] ∧ 0 < millis) ∧
      (call.stage = .notified ∨ call.stage = .returned true →
        call.accepted <+: s.service.handedOut) := by
  have hs := accounted_of_reachable consumer hreach
  intro call hcall
  have hentitled := hs.entitled call hcall
  refine ⟨hs.earlier call hcall, ?_, ?_⟩
  · intro millis hstage
    rw [hstage] at hentitled
    exact hentitled
  · intro hstage
    rcases hstage with hstage | hstage
    · rw [hstage] at hentitled
      exact hentitled
    · rw [hstage] at hentitled
      exact hentitled

/-- A call is woken by the batch that has its event, and another event arrives
before it looks.  A call made after the batch returns at once, and the batch is
then lost. -/
def overtakenWaitRun : List (WaitAction Nat) :=
  [.service (.enqueueEvent 0 true), .waitQueueFlushed, .service (.runPosted true),
    .service (.onServiceConnected 0), .service (.getNextBatch 0), .waitQueueFlushed,
    .service (.enqueueEvent 1 false), .finish 0, .service (.onEventThrew 0)]

theorem waitQueueFlushed_sound_overtaken :
    ∃ s, (machine (some ⟨"com.example", "com.example.Consumer"⟩)).run overtakenWaitRun = some s ∧
      s.calls.map WaitCall.stage = [.returned false, .returned true] ∧
      s.service.connections = [.failed] ∧
      ∀ call ∈ s.calls, call.accepted <+: s.service.accepted ∧
        (∀ millis, call.stage = .waiting millis → s.service.eventBuffer ≠ [] ∧ 0 < millis) ∧
        (call.stage = .notified ∨ call.stage = .returned true →
          call.accepted <+: s.service.handedOut) :=
  ⟨_, rfl, rfl, rfl, waitQueueFlushed_sound (some ⟨"com.example", "com.example.Consumer"⟩)
    ⟨overtakenWaitRun, rfl⟩⟩

/-! What a sleeping call waits for. -/

/-- No step of the service leaves buffered events with nothing to look at
them. -/
def KeepsLooking (s : WaitingBridge E) (action : WaitAction E) : Prop :=
  ∀ a, action = .service a → ¬ s.service.Strands a

theorem notStranded_step {s s' : WaitingBridge E} {action : WaitAction E}
    (hsafe : s.service.NotStranded) (hlooking : s.KeepsLooking action)
    (hstep : s.step action = some s') : s'.service.NotStranded := by
  cases action with
  | service a =>
      simp only [WaitingBridge.step] at hstep
      split at hstep
      · cases hstep
      · rename_i service hservice
        rw [← Option.some.inj hstep]
        exact (Bridge.notStranded_step_iff hsafe hservice).2 (hlooking a rfl)
  | waitQueueFlushed =>
      rw [WaitingBridge.step, Option.some.injEq] at hstep
      rw [← hstep]
      exact hsafe
  | timeOut i =>
      obtain ⟨_, _, _, rfl⟩ := moveCall_eq_some hstep
      exact hsafe
  | interrupt i =>
      obtain ⟨_, _, _, rfl⟩ := moveCall_eq_some hstep
      exact hsafe
  | finish i =>
      obtain ⟨_, _, _, rfl⟩ := moveCall_eq_some hstep
      exact hsafe

/-- A call sleeps on one event whose flush is delayed. -/
def sleepingRun : List (WaitAction Nat) :=
  [.service (.enqueueEvent 0 false), .waitQueueFlushed]

theorem sleepingRun_keepsLooking (consumer : Option ComponentName) :
    ∀ s action s', (machine consumer).Takes sleepingRun s action s' → s.KeepsLooking action := by
  intro s action s' htakes a haction
  obtain ⟨pre, hprefix, _⟩ := htakes
  have hmem : action ∈ sleepingRun := hprefix.subset (by simp)
  simp only [sleepingRun, List.mem_cons, List.not_mem_nil, or_false] at hmem
  rcases hmem with hmem | hmem
  · rw [haction, WaitAction.service.injEq] at hmem
    rw [hmem]
    exact id
  · rw [haction] at hmem
    cases hmem

end WaitingBridge

end UprobeStats
