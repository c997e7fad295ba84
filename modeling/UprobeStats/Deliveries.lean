/-
From the programs to the handlers while several tasks run.  A task that has
been admitted discards what its ring buffers hold, attaches its probes, and
polls each buffer from a thread of its own until the time is over.  In between,
the attached programs of all tasks submit records; a program submits to the
buffer of its own object, whether or not its task polls that buffer.
-/
import UprobeStats.ConfiguredNames
import UprobeStats.Lib.Mailbox
import UprobeStats.Poll

namespace UprobeStats

open Traced Transition

/-- A record in a ring buffer, with the thread whose probe ran and the program. -/
structure Submission (ρ : Type) where
  tid : Nat
  bpfProgramPath : String
  record : ρ

/-- A handler with the copy that the callback of `poll` makes of a record. -/
structure Listener (ρ : Type) extends Handler where
  copy : ρ → T

/-- What the kernel and the tables of the daemon provide. -/
structure BufferEnv (ρ : Type) where
  registry : String → Option (Listener ρ)
  /-- Whether a ring buffer is pinned at a path. -/
  pinned : String → Bool
  /-- Whether a program submits to the ring buffer at a path. -/
  submits : String → String → Bool

/-- How far `execute` has come with the probes and maps of a task. -/
inductive ProbeStage where
  | before
  /-- In front of the maps that are still to be discarded. -/
  | discarding (left : List String)
  /-- In front of the probes that are still to be attached. -/
  | attaching (left : List ResolvedProbe)
  | polling
  | over

def ProbeStage.busy : ProbeStage → Bool
  | discarding _ => true
  | attaching _ => true
  | polling => true
  | _ => false

/-- The stage has only maps and probes of the task in front of it. -/
def ProbeStage.Within (task : ResolvedTask) : ProbeStage → Prop
  | .discarding left => ∀ mapPath ∈ left, mapPath ∈ task.bpfMapPaths
  | .attaching left => ∀ probe ∈ left, probe ∈ task.resolvedProbes
  | _ => True

/-- What one call of `BpfRingBuffer::poll` brings. -/
inductive Polled where
  | timedOut
  | consumed
  /-- `ConsumeAll` fails after it has taken some records out. -/
  | failed (taken : Nat)
deriving DecidableEq

/-- A thread at one of its maps: whether it has discarded the map and still
reads from it, the handler of the polling thread, and what it has consumed
since which moment. -/
structure Reader (ρ : Type) where
  reading : Bool
  handler : Option (Σ h : Listener ρ, h.S)
  since : Nat
  consumed : List (Submission ρ)

/-- The polling thread is gone, or has never come. -/
def Reader.stop {ρ : Type} (reader : Reader ρ) : Reader ρ :=
  { reader with reading := false, handler := none }

/-- The threads that share the daemon's state, the programs that the open perf
events of a thread attach, the ring buffers, and their readers. -/
structure Deliveries (ρ : Type) where
  daemon : Daemon
  stages : Nat → ProbeStage
  attached : Nat → List String
  buffers : String → Mailbox (Submission ρ)
  readers : Nat → String → Reader ρ

namespace Deliveries

variable {ρ : Type}

inductive Action (ρ : Type) where
  | daemon (action : Daemon.Action)
  /-- The filters are set up; the maps are iterated in some order. -/
  | start (tid : Nat) (order : List String)
  /-- The set-up of the filters has failed. -/
  | abandon (tid : Nat)
  | discard (tid : Nat) (works : Bool)
  | attach (tid : Nat) (works : Bool)
  | submit (tid : Nat) (bpfProgramPath mapPath : String) (record : ρ)
  /-- A polling thread creates its `BpfRingBuffer`. -/
  | create (tid : Nat) (mapPath : String)
  | poll (tid : Nat) (mapPath : String) (polled : Polled)
  /-- A polling thread returns, when its time is over or with an error. -/
  | stop (tid : Nat) (mapPath : String)
  /-- All polling threads have been joined, and the perf events are closed. -/
  | join (tid : Nat)

def setStage (s : Deliveries ρ) (tid : Nat) (stage : ProbeStage) : Deliveries ρ :=
  { s with stages := Function.update s.stages tid stage }

/-- The end of `attach_probes_and_poll_maps`, where the perf events are dropped. -/
def close (s : Deliveries ρ) (tid : Nat) : Deliveries ρ :=
  { s.setStage tid .over with
    attached := Function.update s.attached tid []
    readers := Function.update s.readers tid fun mapPath => (s.readers tid mapPath).stop }

def setBuffer (s : Deliveries ρ) (mapPath : String) (box : Mailbox (Submission ρ)) :
    Deliveries ρ :=
  { s with buffers := Function.update s.buffers mapPath box }

def setReader (s : Deliveries ρ) (tid : Nat) (mapPath : String) (reader : Reader ρ) :
    Deliveries ρ :=
  { s with
    readers := Function.update s.readers tid
      (Function.update (s.readers tid) mapPath reader) }

/-- Where the loop over the probes is. -/
def afterAttaches : List ResolvedProbe → ProbeStage
  | [] => .polling
  | left => .attaching left

/-- Where the loop over the maps is. -/
def afterDiscards (task : ResolvedTask) : List String → ProbeStage
  | [] => afterAttaches task.resolvedProbes
  | left => .discarding left

/-- A task is executed until its filters have been cleaned up. -/
def mayStep (s : Deliveries ρ) : Daemon.Action → Bool
  | .execute tid => match s.stages tid with
      | .over => true
      | _ => false
  | _ => true

section Step

variable (env : BufferEnv ρ)

/-- `bpf_ring_buffer_discard` of a map that can be opened or is not there. -/
def discardMap (s : Deliveries ρ) (tid : Nat) (mapPath : String) : Deliveries ρ :=
  let box := s.buffers mapPath
  (s.setBuffer mapPath (if env.pinned mapPath then box.empty else box)).setReader tid mapPath
    ⟨true, none, box.sent.length, []⟩

/-- The items that the callback of `poll` copies. -/
def items (h : Listener ρ) (submissions : List (Submission ρ)) : List h.T :=
  submissions.map fun submission => h.copy submission.record

/-- Everything that waits is taken out and handed to the handler item by item. -/
def consume (s : Deliveries ρ) (task : ResolvedTask) (tid : Nat) (mapPath : String)
    (h : Listener ρ) (state : h.S) : Deliveries ρ :=
  let box := s.buffers mapPath
  let reader := s.readers tid mapPath
  let after := { reader with consumed := reader.consumed ++ box.waiting }
  (s.setBuffer mapPath box.empty).setReader tid mapPath
    (match (handleItems h.toHandler mapPath task (items h box.waiting) state).outcome with
    | .ok state => { after with handler := some ⟨h, state⟩ }
    | _ => after.stop)

/-- `ConsumeAll` fails on the way: what it took out is lost. -/
def failConsuming (s : Deliveries ρ) (tid : Nat) (mapPath : String) (taken : Nat) :
    Deliveries ρ :=
  (s.setBuffer mapPath ((s.buffers mapPath).take taken)).setReader tid mapPath
    (s.readers tid mapPath).stop

def step (s : Deliveries ρ) : Action ρ → Option (Deliveries ρ)
  | .daemon action =>
      if s.mayStep action then
        (s.daemon.step action).map fun daemon => { s with daemon := daemon }
      else none
  | .start tid order =>
      match s.daemon.threads tid, s.stages tid with
      | .executing task, .before =>
          if order.Nodup ∧ order.toFinset = task.bpfMapPaths then
            some (s.setStage tid (afterDiscards task order))
          else none
      | _, _ => none
  | .abandon tid =>
      match s.daemon.threads tid, s.stages tid with
      | .executing _, .before => some (s.setStage tid .over)
      | _, _ => none
  | .discard tid works =>
      match s.daemon.threads tid, s.stages tid with
      | .executing task, .discarding (mapPath :: left) =>
          some (if works then
            (s.discardMap env tid mapPath).setStage tid (afterDiscards task left)
          else s.close tid)
      | _, _ => none
  | .attach tid works =>
      match s.stages tid with
      | .attaching (probe :: left) =>
          some (if works then
            { s.setStage tid (afterAttaches left) with
              attached := Function.update s.attached tid
                (s.attached tid ++ [probe.bpfProgramPath]) }
          else s.close tid)
      | _ => none
  | .submit tid bpfProgramPath mapPath record =>
      if bpfProgramPath ∈ s.attached tid ∧ env.submits bpfProgramPath mapPath = true ∧
          env.pinned mapPath = true then
        some (s.setBuffer mapPath ((s.buffers mapPath).send ⟨tid, bpfProgramPath, record⟩))
      else none
  | .create tid mapPath =>
      match s.stages tid, (s.readers tid mapPath).handler, env.registry mapPath with
      | .polling, none, some h =>
          if (s.readers tid mapPath).reading then
            some (s.setReader tid mapPath
              { s.readers tid mapPath with handler := some ⟨h, h.default⟩ })
          else none
      | _, _, _ => none
  | .poll tid mapPath polled =>
      match s.daemon.threads tid, s.stages tid, (s.readers tid mapPath).handler with
      | .executing task, .polling, some ⟨h, state⟩ =>
          some (match polled with
            | .timedOut => s
            | .consumed => s.consume task tid mapPath h state
            | .failed taken => s.failConsuming tid mapPath taken)
      | _, _, _ => none
  | .stop tid mapPath =>
      match s.stages tid with
      | .polling => some (s.setReader tid mapPath (s.readers tid mapPath).stop)
      | _ => none
  | .join tid =>
      match s.daemon.threads tid, s.stages tid with
      | .executing task, .polling =>
          if ∀ mapPath ∈ task.bpfMapPaths, (s.readers tid mapPath).reading = false then
            some (s.close tid)
          else none
      | _, _ => none

def machine : Machine (Deliveries ρ) (Action ρ) where
  init := ⟨Daemon.machine.init, fun _ => .before, fun _ => [], fun _ => .nil,
    fun _ _ => ⟨false, none, 0, []⟩⟩
  step := step env

end Step

/-! What a thread and a ring buffer have to do with each other. -/

/-- The readers of a map: what was consumed was submitted since the discard, in
order; a reader that is still there misses nothing but what still waits; and
its handler has been given all of it. -/
structure Follows (env : BufferEnv ρ) (thread : ThreadState) (mapPath : String)
    (box : Mailbox (Submission ρ)) (reader : Reader ρ) : Prop where
  hasRead : box.HasRead reader.since reader.consumed
  readsOn : reader.reading = true → box.ReadsOn reader.since reader.consumed
  owned : reader.reading = true →
    ∃ task, thread = .executing task ∧ mapPath ∈ task.bpfMapPaths
  unopened : reader.reading = true → reader.handler = none → reader.consumed = []
  handled : ∀ h state, reader.handler = some ⟨h, state⟩ →
    reader.reading = true ∧ env.registry mapPath = some h ∧
      ∀ task, thread = .executing task →
        (handleItems h.toHandler mapPath task (items h reader.consumed) h.default).outcome =
          .ok state

section Follows

variable {env : BufferEnv ρ} {thread : ThreadState} {mapPath : String}
  {box : Mailbox (Submission ρ)} {reader : Reader ρ}

/-- A reader that is gone is only held to what it has consumed. -/
theorem Follows.gone (hread : box.HasRead reader.since reader.consumed)
    (hreading : reader.reading = false) (hhandler : reader.handler = none) :
    Follows env thread mapPath box reader := by
  refine ⟨hread, ?_, ?_, ?_, ?_⟩
  · intro htrue
    rw [hreading] at htrue
    cases htrue
  · intro htrue
    rw [hreading] at htrue
    cases htrue
  · intro htrue
    rw [hreading] at htrue
    cases htrue
  · intro h state hsome
    rw [hhandler] at hsome
    cases hsome

theorem Follows.handler_none (hfollows : Follows env thread mapPath box reader)
    (hreading : reader.reading = false) : reader.handler = none := by
  cases hhandler : reader.handler with
  | none => rfl
  | some opened =>
      obtain ⟨htrue, _⟩ := hfollows.handled opened.1 opened.2 hhandler
      rw [hreading] at htrue
      cases htrue

/-- Who does not read does not mind what others take out. -/
theorem Follows.elsewhere (hfollows : Follows env thread mapPath box reader)
    (hreading : reader.reading = false) {box' : Mailbox (Submission ρ)}
    (hsent : box'.sent = box.sent) (thread' : ThreadState) :
    Follows env thread' mapPath box' reader :=
  .gone (hfollows.hasRead.of_sent_eq hsent) hreading (hfollows.handler_none hreading)

theorem Follows.stop (hfollows : Follows env thread mapPath box reader)
    {box' : Mailbox (Submission ρ)} (hsent : box'.sent = box.sent) (thread' : ThreadState) :
    Follows env thread' mapPath box' reader.stop :=
  .gone (hfollows.hasRead.of_sent_eq hsent) rfl rfl

theorem Follows.send (hfollows : Follows env thread mapPath box reader)
    (submission : Submission ρ) : Follows env thread mapPath (box.send submission) reader where
  hasRead := hfollows.hasRead.send submission
  readsOn htrue := (hfollows.readsOn htrue).send submission
  owned := hfollows.owned
  unopened := hfollows.unopened
  handled := hfollows.handled

/-- Items given in two portions are given one after another. -/
theorem handleItems_append {h : Handler} {task : ResolvedTask} {first second : List h.T}
    {state middle : h.S} {outcome : Outcome AnyError h.S}
    (hfirst : (handleItems h mapPath task first state).outcome = .ok middle)
    (hsecond : (handleItems h mapPath task second middle).outcome = outcome) :
    (handleItems h mapPath task (first ++ second) state).outcome = outcome := by
  induction first generalizing state with
  | nil =>
      cases hfirst
      exact hsecond
  | cons item rest ih =>
      rw [handleItems, Run.bind_eq_ok_iff] at hfirst
      obtain ⟨next, hitem, hrest⟩ := hfirst
      rw [List.cons_append, handleItems, Run.outcome_bind_of_ok hitem]
      exact ih hrest

end Follows

structure Consistent (env : BufferEnv ρ) (s : Deliveries ρ) : Prop where
  daemon : Daemon.machine.Reachable s.daemon
  executing : ∀ tid, (s.stages tid).busy = true →
    ∃ task, s.daemon.threads tid = .executing task ∧ (s.stages tid).Within task
  attached : ∀ tid, ∀ bpfProgramPath ∈ s.attached tid, (s.stages tid).busy = true ∧
    ∀ task, s.daemon.threads tid = .executing task →
      ∃ probe ∈ task.resolvedProbes, probe.bpfProgramPath = bpfProgramPath
  reading : ∀ tid mapPath, (s.readers tid mapPath).reading = true →
    (s.stages tid).busy = true
  unpinned : ∀ mapPath, env.pinned mapPath = false → (s.buffers mapPath).waiting = []
  follows : ∀ tid mapPath, Follows env (s.daemon.threads tid) mapPath (s.buffers mapPath)
    (s.readers tid mapPath)

@[simp] theorem setStage_stages_self (s : Deliveries ρ) (tid : Nat) (stage : ProbeStage) :
    (s.setStage tid stage).stages tid = stage := by
  simp [setStage]

theorem setStage_stages_of_ne (s : Deliveries ρ) {tid other : Nat} (stage : ProbeStage)
    (hne : other ≠ tid) : (s.setStage tid stage).stages other = s.stages other := by
  simp [setStage, Function.update_of_ne hne]

theorem setReader_readers_self (s : Deliveries ρ) (tid : Nat) (mapPath : String)
    (reader : Reader ρ) : (s.setReader tid mapPath reader).readers tid mapPath = reader := by
  simp [setReader]

theorem setReader_readers_of_ne (s : Deliveries ρ) {tid other : Nat} {mapPath path : String}
    (reader : Reader ρ) (hne : ¬ (other = tid ∧ path = mapPath)) :
    (s.setReader tid mapPath reader).readers other path = s.readers other path := by
  by_cases hother : other = tid
  · subst hother
    have hpath : path ≠ mapPath := fun heq => hne ⟨rfl, heq⟩
    simp [setReader, Function.update_of_ne hpath]
  · simp [setReader, Function.update_of_ne hother]

theorem setBuffer_buffers_of_ne (s : Deliveries ρ) {mapPath path : String}
    (box : Mailbox (Submission ρ)) (hne : path ≠ mapPath) :
    (s.setBuffer mapPath box).buffers path = s.buffers path := by
  simp [setBuffer, Function.update_of_ne hne]

theorem busy_afterAttaches (left : List ResolvedProbe) : (afterAttaches left).busy = true := by
  cases left <;> rfl

theorem busy_afterDiscards (task : ResolvedTask) (left : List String) :
    (afterDiscards task left).busy = true := by
  cases left with
  | nil => exact busy_afterAttaches _
  | cons mapPath left => rfl

theorem within_afterAttaches {task : ResolvedTask} {left : List ResolvedProbe}
    (hleft : ∀ probe ∈ left, probe ∈ task.resolvedProbes) :
    (afterAttaches left).Within task := by
  cases left with
  | nil => trivial
  | cons probe left => exact hleft

theorem within_afterDiscards {task : ResolvedTask} {left : List String}
    (hleft : ∀ mapPath ∈ left, mapPath ∈ task.bpfMapPaths) :
    (afterDiscards task left).Within task := by
  cases left with
  | nil => exact within_afterAttaches fun _ hprobe => hprobe
  | cons mapPath left => exact hleft

/-- A step of the daemon that does not end an execution leaves it alone. -/
theorem executing_of_step {d d' : Daemon} {action : Daemon.Action} {tid : Nat}
    {task : ResolvedTask} (hstep : d.step action = some d') (haction : action ≠ .execute tid)
    (hthread : d.threads tid = .executing task) : d'.threads tid = .executing task := by
  have hother : ∀ other thread, d.threads other ≠ .executing task →
      (Function.update d.threads other thread) tid = .executing task := by
    intro other thread hne
    have htid : tid ≠ other := fun heq => hne (heq ▸ hthread)
    rw [Function.update_of_ne htid, hthread]
  cases action with
  | startTasks other config =>
      cases hcase : d.threads other <;> simp only [Daemon.step, hcase, reduceCtorEq] at hstep
      cases hstep
      exact hother other _ (by simp [hcase])
  | resolve other env =>
      cases hcase : d.threads other <;> simp only [Daemon.step, hcase, reduceCtorEq] at hstep
      rename_i config
      cases hresolve : resolveConfig env config <;> simp only [hresolve] at hstep <;>
        cases hstep <;> exact hother other _ (by simp [hcase])
  | update other =>
      cases hcase : d.threads other <;> simp only [Daemon.step, hcase, reduceCtorEq] at hstep
      rename_i resolved
      cases hstep
      obtain ⟨thread, hthreads, _⟩ := Daemon.threads_lockedUpdate d other resolved
      rw [hthreads]
      exact hother other thread (by simp [hcase])
  | execute other =>
      have hne : tid ≠ other := fun heq => haction (by rw [heq])
      cases hcase : d.threads other <;> simp only [Daemon.step, hcase, reduceCtorEq] at hstep
      cases hstep
      rw [Daemon.setThread_threads_of_ne d _ hne, hthread]
  | cleanup other =>
      cases hcase : d.threads other <;> simp only [Daemon.step, hcase, reduceCtorEq] at hstep
      rename_i executed
      cases hstep
      obtain ⟨thread, hthreads, _⟩ := Daemon.threads_lockedCleanup d other executed
      rw [hthreads]
      exact hother other thread (by simp [hcase])

section Steps

variable {env : BufferEnv ρ} {s s' : Deliveries ρ} {tid : Nat} {mapPath : String}
  {task : ResolvedTask}

/-- A map is read by the thread alone whose task owns it. -/
theorem Consistent.reader_unique (hs : Consistent env s)
    (hthread : s.daemon.threads tid = .executing task) (hmem : mapPath ∈ task.bpfMapPaths)
    {other : Nat} (hreading : (s.readers other mapPath).reading = true) : other = tid := by
  by_contra hne
  obtain ⟨otherTask, hother, hmemOther⟩ := (hs.follows other mapPath).owned hreading
  have hdisjoint := (Daemon.ownership_of_reachable hs.daemon).disjoint other tid otherTask task hne
    (by rw [Daemon.Admitted, hother]; rfl) (by rw [Daemon.Admitted, hthread]; rfl)
  exact Finset.disjoint_left.1 hdisjoint hmemOther hmem

theorem Consistent.daemonStep (hs : Consistent env s) {action : Daemon.Action} {daemon : Daemon}
    (hmay : s.mayStep action = true) (hstep : s.daemon.step action = some daemon) :
    Consistent env { s with daemon := daemon } := by
  have hstays : ∀ tid task, (s.stages tid).busy = true →
      s.daemon.threads tid = .executing task → daemon.threads tid = .executing task := by
    intro tid task hbusy hthread
    refine executing_of_step hstep ?_ hthread
    rintro rfl
    simp only [mayStep] at hmay
    split at hmay
    · rename_i hover
      rw [hover] at hbusy
      cases hbusy
    · cases hmay
  refine ⟨?_, ?_, ?_, hs.reading, hs.unpinned, ?_⟩
  · obtain ⟨actions, hrun⟩ := hs.daemon
    exact ⟨actions ++ [action], Machine.run_snoc hrun hstep⟩
  · intro tid hbusy
    obtain ⟨task, hthread, hwithin⟩ := hs.executing tid hbusy
    exact ⟨task, hstays tid task hbusy hthread, hwithin⟩
  · intro tid path hpath
    obtain ⟨hbusy, hprobe⟩ := hs.attached tid path hpath
    obtain ⟨task, hthread, _⟩ := hs.executing tid hbusy
    refine ⟨hbusy, ?_⟩
    intro other hother
    rw [hstays tid task hbusy hthread] at hother
    cases hother
    exact hprobe task hthread
  · intro tid path
    cases hreading : (s.readers tid path).reading with
    | true =>
        obtain ⟨task, hthread, _⟩ := (hs.follows tid path).owned hreading
        have hafter := hstays tid task (hs.reading tid path hreading) hthread
        have hfollows := hs.follows tid path
        rw [hthread] at hfollows
        rw [hafter]
        exact hfollows
    | false => exact (hs.follows tid path).elsewhere hreading rfl _

/-- A thread that is at work goes on to another stage. -/
theorem Consistent.setStage (hs : Consistent env s)
    (hthread : s.daemon.threads tid = .executing task) {stage : ProbeStage}
    (hbusy : stage.busy = true) (hwithin : stage.Within task) :
    Consistent env (s.setStage tid stage) := by
  refine ⟨hs.daemon, ?_, ?_, ?_, hs.unpinned, hs.follows⟩
  · intro other hother
    by_cases heq : other = tid
    · subst heq
      exact ⟨task, hthread, by rwa [setStage_stages_self]⟩
    · rw [setStage_stages_of_ne s stage heq] at hother ⊢
      exact hs.executing other hother
  · intro other path hpath
    obtain ⟨hother, hprobe⟩ := hs.attached other path hpath
    refine ⟨?_, hprobe⟩
    by_cases heq : other = tid
    · rw [heq, setStage_stages_self, hbusy]
    · rwa [setStage_stages_of_ne s stage heq]
  · intro other path hreading
    by_cases heq : other = tid
    · rw [heq, setStage_stages_self, hbusy]
    · rw [setStage_stages_of_ne s stage heq]
      exact hs.reading other path hreading

theorem Consistent.close (hs : Consistent env s) : Consistent env (s.close tid) := by
  have hstage : ∀ other, other ≠ tid → (s.close tid).stages other = s.stages other :=
    fun other hne => setStage_stages_of_ne s .over hne
  have hreader : ∀ other path, other ≠ tid →
      (s.close tid).readers other path = s.readers other path := by
    intro other path hne
    simp [Deliveries.close, Function.update_of_ne hne]
  refine ⟨hs.daemon, ?_, ?_, ?_, hs.unpinned, ?_⟩
  · intro other hbusy
    have hne : other ≠ tid := by
      rintro rfl
      simp [Deliveries.close, ProbeStage.busy] at hbusy
    rw [hstage other hne] at hbusy ⊢
    exact hs.executing other hbusy
  · intro other path hpath
    have hne : other ≠ tid := by
      rintro rfl
      simp [Deliveries.close] at hpath
    rw [hstage other hne]
    refine hs.attached other path ?_
    simpa [Deliveries.close, Function.update_of_ne hne] using hpath
  · intro other path hreading
    have hne : other ≠ tid := by
      rintro rfl
      simp [Deliveries.close, Reader.stop] at hreading
    rw [hreader other path hne] at hreading
    rw [hstage other hne]
    exact hs.reading other path hreading
  · intro other path
    by_cases hne : other = tid
    · subst hne
      have hstop : (s.close other).readers other path = (s.readers other path).stop := by
        simp [Deliveries.close]
      rw [hstop]
      exact (hs.follows other path).stop rfl _
    · rw [hreader other path hne]
      exact hs.follows other path

/-- A step at one map by one thread.  Where the ring buffer changes, nobody else
reads from it. -/
theorem Consistent.setMap (hs : Consistent env s) {box : Mailbox (Submission ρ)}
    {reader : Reader ρ}
    (hfollows : Follows env (s.daemon.threads tid) mapPath box reader)
    (hbusy : reader.reading = true → (s.stages tid).busy = true)
    (hunpinned : env.pinned mapPath = false → box.waiting = [])
    (hsent : box.sent = (s.buffers mapPath).sent)
    (hother : ∀ other, other ≠ tid → (s.readers other mapPath).reading = true →
      box = s.buffers mapPath) :
    Consistent env ((s.setBuffer mapPath box).setReader tid mapPath reader) := by
  refine ⟨hs.daemon, hs.executing, hs.attached, ?_, ?_, ?_⟩
  · intro other path hreading
    by_cases heq : other = tid ∧ path = mapPath
    · obtain ⟨rfl, rfl⟩ := heq
      rw [setReader_readers_self] at hreading
      exact hbusy hreading
    · rw [setReader_readers_of_ne _ reader heq] at hreading
      exact hs.reading other path hreading
  · intro path hpath
    by_cases heq : path = mapPath
    · subst heq
      simpa [setReader, setBuffer] using hunpinned hpath
    · have hsame : ((s.setBuffer mapPath box).setReader tid mapPath reader).buffers path =
          s.buffers path := setBuffer_buffers_of_ne s box heq
      rw [hsame]
      exact hs.unpinned path hpath
  · intro other path
    have hbuffer : ((s.setBuffer mapPath box).setReader tid mapPath reader).buffers =
        (s.setBuffer mapPath box).buffers := rfl
    rw [hbuffer]
    by_cases hpath : path = mapPath
    · subst hpath
      have hbox : (s.setBuffer path box).buffers path = box := by simp [setBuffer]
      rw [hbox]
      by_cases heq : other = tid
      · subst heq
        rw [setReader_readers_self]
        exact hfollows
      · rw [setReader_readers_of_ne _ reader (fun hboth => heq hboth.1)]
        cases hreading : (s.readers other path).reading with
        | true =>
            rw [hother other heq hreading]
            exact hs.follows other path
        | false => exact (hs.follows other path).elsewhere hreading hsent _
    · rw [setBuffer_buffers_of_ne s box hpath,
        setReader_readers_of_ne _ reader (fun hboth => hpath hboth.2)]
      exact hs.follows other path

theorem setBuffer_self (s : Deliveries ρ) (mapPath : String) :
    s.setBuffer mapPath (s.buffers mapPath) = s := by
  simp [setBuffer]

/-- A step at one map that leaves the ring buffer as it is. -/
theorem Consistent.setReader (hs : Consistent env s) {reader : Reader ρ}
    (hfollows : Follows env (s.daemon.threads tid) mapPath (s.buffers mapPath) reader)
    (hbusy : reader.reading = true → (s.stages tid).busy = true) :
    Consistent env (s.setReader tid mapPath reader) := by
  have hset := hs.setMap hfollows hbusy (hs.unpinned mapPath) rfl (fun _ _ _ => rfl)
  rwa [setBuffer_self] at hset

/-- The owner of a map takes something out of its ring buffer. -/
theorem Consistent.setOwned (hs : Consistent env s)
    (hthread : s.daemon.threads tid = .executing task) (hmem : mapPath ∈ task.bpfMapPaths)
    (hbusy : (s.stages tid).busy = true) {box : Mailbox (Submission ρ)} {reader : Reader ρ}
    (hfollows : Follows env (.executing task) mapPath box reader)
    (hunpinned : env.pinned mapPath = false → box.waiting = [])
    (hsent : box.sent = (s.buffers mapPath).sent) :
    Consistent env ((s.setBuffer mapPath box).setReader tid mapPath reader) := by
  refine hs.setMap (hthread ▸ hfollows) (fun _ => hbusy) hunpinned hsent ?_
  intro other hne hreading
  exact absurd (hs.reader_unique hthread hmem hreading) hne

theorem Consistent.submit (hs : Consistent env s) (submission : Submission ρ)
    (hpinned : env.pinned mapPath = true) :
    Consistent env (s.setBuffer mapPath ((s.buffers mapPath).send submission)) := by
  refine ⟨hs.daemon, hs.executing, hs.attached, hs.reading, ?_, ?_⟩
  · intro path hpath
    have hne : path ≠ mapPath := by
      rintro rfl
      rw [hpinned] at hpath
      cases hpath
    rw [setBuffer_buffers_of_ne s _ hne]
    exact hs.unpinned path hpath
  · intro other path
    by_cases heq : path = mapPath
    · subst heq
      have hbox : (s.setBuffer path ((s.buffers path).send submission)).buffers path =
          (s.buffers path).send submission := by simp [setBuffer]
      rw [hbox]
      exact (hs.follows other path).send submission
    · rw [setBuffer_buffers_of_ne s _ heq]
      exact hs.follows other path

theorem Consistent.discardMap (hs : Consistent env s)
    (hthread : s.daemon.threads tid = .executing task) (hmem : mapPath ∈ task.bpfMapPaths)
    (hbusy : (s.stages tid).busy = true) : Consistent env (s.discardMap env tid mapPath) := by
  have hreads : (if env.pinned mapPath then (s.buffers mapPath).empty
      else s.buffers mapPath).ReadsOn (s.buffers mapPath).sent.length [] := by
    cases hpinned : env.pinned mapPath with
    | true => exact .empty _
    | false => exact .of_waiting_nil (hs.unpinned mapPath hpinned)
  apply hs.setOwned hthread hmem hbusy
  · refine ⟨hreads.hasRead, fun _ => hreads, fun _ => ⟨task, rfl, hmem⟩, fun _ _ => rfl, ?_⟩
    intro h state hsome
    cases hsome
  · intro hpinned
    rw [hpinned]
    exact hs.unpinned mapPath hpinned
  · split <;> rfl

/-- A polling thread hands on what it has taken out. -/
theorem Follows.consumed {box : Mailbox (Submission ρ)} {reader : Reader ρ} {h : Listener ρ}
    {state state' : h.S} (hfollows : Follows env (.executing task) mapPath box reader)
    (hhandler : reader.handler = some ⟨h, state⟩)
    (houtcome : (handleItems h.toHandler mapPath task (items h box.waiting) state).outcome =
      .ok state') :
    Follows env (.executing task) mapPath box.empty
      ⟨reader.reading, some ⟨h, state'⟩, reader.since, reader.consumed ++ box.waiting⟩ := by
  obtain ⟨hreading, hregistry, hgiven⟩ := hfollows.handled h state hhandler
  have hreads := (hfollows.readsOn hreading).readAll
  refine ⟨hreads.hasRead, fun _ => hreads, hfollows.owned, ?_, ?_⟩
  · intro _ hnone
    cases hnone
  · intro other otherState hsome
    cases hsome
    refine ⟨hreading, hregistry, ?_⟩
    intro executed hexecuted
    cases hexecuted
    rw [items, List.map_append]
    exact handleItems_append (hgiven task rfl) houtcome

theorem Consistent.consume (hs : Consistent env s)
    (hthread : s.daemon.threads tid = .executing task) {h : Listener ρ} {state : h.S}
    (hhandler : (s.readers tid mapPath).handler = some ⟨h, state⟩) :
    Consistent env (s.consume task tid mapPath h state) := by
  have hfollows := hs.follows tid mapPath
  rw [hthread] at hfollows
  obtain ⟨hreading, _⟩ := hfollows.handled h state hhandler
  obtain ⟨owner, howner, hmem⟩ := hfollows.owned hreading
  cases howner
  apply hs.setOwned hthread hmem (hs.reading tid mapPath hreading)
  · split
    · rename_i state' houtcome
      exact hfollows.consumed hhandler houtcome
    · exact .gone (hfollows.readsOn hreading).readAll.hasRead rfl rfl
  · intro _
    rfl
  · rfl

theorem Consistent.failConsuming (hs : Consistent env s) {h : Listener ρ} {state : h.S}
    (hhandler : (s.readers tid mapPath).handler = some ⟨h, state⟩) (taken : Nat) :
    Consistent env (s.failConsuming tid mapPath taken) := by
  have hfollows := hs.follows tid mapPath
  obtain ⟨hreading, _⟩ := hfollows.handled h state hhandler
  obtain ⟨owner, howner, hmem⟩ := hfollows.owned hreading
  apply hs.setOwned howner hmem (hs.reading tid mapPath hreading)
  · exact hfollows.stop (Mailbox.sent_take _ taken) _
  · intro hpinned
    simp [Mailbox.take, hs.unpinned mapPath hpinned]
  · rfl

/-- A polling thread opens its ring buffer. -/
theorem Consistent.create (hs : Consistent env s) {h : Listener ρ}
    (hhandler : (s.readers tid mapPath).handler = none)
    (hregistry : env.registry mapPath = some h)
    (hreading : (s.readers tid mapPath).reading = true) :
    Consistent env (s.setReader tid mapPath
      { s.readers tid mapPath with handler := some ⟨h, h.default⟩ }) := by
  have hfollows := hs.follows tid mapPath
  apply hs.setReader
  · refine ⟨hfollows.hasRead, hfollows.readsOn, hfollows.owned, ?_, ?_⟩
    · intro _ hnone
      cases hnone
    · intro other state hsome
      cases hsome
      refine ⟨hreading, hregistry, ?_⟩
      intro executed _
      rw [hfollows.unopened hreading hhandler]
      rfl
  · intro _
    exact hs.reading tid mapPath hreading

/-- A thread that has not begun has nothing to give back. -/
theorem Consistent.abandon (hs : Consistent env s) (hidle : (s.stages tid).busy = false) :
    Consistent env (s.setStage tid .over) := by
  have hstage : ∀ other, (s.stages other).busy = true →
      (s.setStage tid .over).stages other = s.stages other := by
    intro other hbusy
    refine setStage_stages_of_ne s .over ?_
    rintro rfl
    rw [hidle] at hbusy
    cases hbusy
  refine ⟨hs.daemon, ?_, ?_, ?_, hs.unpinned, hs.follows⟩
  · intro other hbusy
    have hne : other ≠ tid := by
      rintro rfl
      simp [ProbeStage.busy] at hbusy
    rw [setStage_stages_of_ne s .over hne] at hbusy ⊢
    exact hs.executing other hbusy
  · intro other path hpath
    obtain ⟨hbusy, hprobe⟩ := hs.attached other path hpath
    exact ⟨by rwa [hstage other hbusy], hprobe⟩
  · intro other path hreading
    have hbusy := hs.reading other path hreading
    rwa [hstage other hbusy]

/-- A probe is attached. -/
theorem Consistent.attach (hs : Consistent env s) {probe : ResolvedProbe}
    {left : List ResolvedProbe} (hstage : s.stages tid = .attaching (probe :: left)) :
    Consistent env { s.setStage tid (afterAttaches left) with
      attached := Function.update s.attached tid (s.attached tid ++ [probe.bpfProgramPath]) } := by
  obtain ⟨task, hthread, hwithin⟩ := hs.executing tid (by rw [hstage]; rfl)
  rw [hstage] at hwithin
  have hleft : ∀ other ∈ left, other ∈ task.resolvedProbes := fun other hother =>
    hwithin other (List.mem_cons_of_mem _ hother)
  have hset := hs.setStage hthread (busy_afterAttaches left) (within_afterAttaches hleft)
  refine ⟨hset.daemon, hset.executing, ?_, hset.reading, hset.unpinned, hset.follows⟩
  intro other path hpath
  by_cases heq : other = tid
  · subst heq
    refine ⟨by simpa using busy_afterAttaches left, ?_⟩
    intro executed hexecuted
    rw [show (s.setStage other (afterAttaches left)).daemon = s.daemon from rfl, hthread]
      at hexecuted
    cases hexecuted
    simp only [Function.update_self, List.mem_append, List.mem_singleton] at hpath
    rcases hpath with hold | rfl
    · exact (hs.attached other path hold).2 task hthread
    · exact ⟨probe, hwithin probe List.mem_cons_self, rfl⟩
  · have hold : path ∈ s.attached other := by simpa [Function.update_of_ne heq] using hpath
    exact hset.attached other path hold

theorem Consistent.step (hs : Consistent env s) {action : Action ρ}
    (hstep : Deliveries.step env s action = some s') : Consistent env s' := by
  cases action with
  | daemon action =>
      simp only [Deliveries.step] at hstep
      split at hstep
      · rename_i hmay
        obtain ⟨daemon, hdaemon, rfl⟩ := Option.map_eq_some_iff.1 hstep
        exact hs.daemonStep hmay hdaemon
      · cases hstep
  | start tid order =>
      simp only [Deliveries.step] at hstep
      split at hstep
      · rename_i task hthread hstage
        split at hstep
        · rename_i horder
          cases hstep
          apply hs.setStage hthread (busy_afterDiscards task order)
          apply within_afterDiscards
          intro path hpath
          rw [← horder.2]
          exact List.mem_toFinset.2 hpath
        · cases hstep
      · cases hstep
  | abandon tid =>
      simp only [Deliveries.step] at hstep
      split at hstep
      · rename_i task hthread hstage
        cases hstep
        exact hs.abandon (by rw [hstage]; rfl)
      · cases hstep
  | discard tid works =>
      simp only [Deliveries.step] at hstep
      split at hstep
      · rename_i task mapPath left hthread hstage
        cases hstep
        cases works with
        | true =>
            obtain ⟨owner, howner, hwithin⟩ := hs.executing tid (by rw [hstage]; rfl)
            rw [hthread] at howner
            cases howner
            rw [hstage] at hwithin
            have hbusy : (s.stages tid).busy = true := by
              rw [hstage]
              rfl
            have hdiscard := hs.discardMap hthread (hwithin mapPath List.mem_cons_self) hbusy
            apply hdiscard.setStage hthread (busy_afterDiscards task left)
            apply within_afterDiscards
            intro path hpath
            exact hwithin path (List.mem_cons_of_mem _ hpath)
        | false => exact hs.close
      · cases hstep
  | attach tid works =>
      simp only [Deliveries.step] at hstep
      split at hstep
      · rename_i probe left hstage
        cases hstep
        cases works with
        | true => exact hs.attach hstage
        | false => exact hs.close
      · cases hstep
  | submit tid path mapPath record =>
      simp only [Deliveries.step] at hstep
      split at hstep
      · rename_i hattached
        cases hstep
        exact hs.submit _ hattached.2.2
      · cases hstep
  | create tid mapPath =>
      simp only [Deliveries.step] at hstep
      split at hstep
      · rename_i h _ hhandler hregistry
        split at hstep
        · rename_i hreading
          cases hstep
          exact hs.create hhandler hregistry hreading
        · cases hstep
      · cases hstep
  | poll tid mapPath polled =>
      simp only [Deliveries.step] at hstep
      split at hstep
      · rename_i task h state hthread _ hhandler
        cases hstep
        cases polled with
        | timedOut => exact hs
        | consumed => exact hs.consume hthread hhandler
        | failed taken => exact hs.failConsuming hhandler taken
      · cases hstep
  | stop tid mapPath =>
      simp only [Deliveries.step] at hstep
      split at hstep
      · cases hstep
        apply hs.setReader
        · exact (hs.follows tid mapPath).stop rfl _
        · intro hreading
          cases hreading
      · cases hstep
  | join tid =>
      simp only [Deliveries.step] at hstep
      split at hstep
      · split at hstep
        · cases hstep
          exact hs.close
        · cases hstep
      · cases hstep

theorem Consistent.init (env : BufferEnv ρ) : Consistent env (machine env).init := by
  refine ⟨⟨[], rfl⟩, ?_, ?_, ?_, fun _ _ => rfl, ?_⟩
  · intro tid hbusy
    cases hbusy
  · intro tid path hpath
    cases hpath
  · intro tid path hreading
    cases hreading
  · intro tid path
    exact .gone (.zero _) rfl rfl

theorem consistent_of_reachable (hreach : (machine env).Reachable s) : Consistent env s :=
  hreach.invariant (.init env) fun _ _ _ hs hstep => hs.step hstep

end Steps

/-! A task that polls the ring buffer of its one program. -/

/-- As long as nothing is executed, the daemon runs as it does alone. -/
theorem run_daemon (env : BufferEnv ρ) {actions : List Daemon.Action} {daemon : Daemon}
    (hrun : Daemon.machine.run actions = some daemon)
    (hnone : ∀ tid, .execute tid ∉ actions) :
    (machine env).run (actions.map .daemon) =
      some { (machine env).init with daemon := daemon } := by
  induction actions using List.reverseRecOn generalizing daemon with
  | nil =>
      cases hrun
      rfl
  | append_singleton pre action ih =>
      rw [Machine.run_concat, Option.bind_eq_some_iff] at hrun
      obtain ⟨before, hbefore, hstep⟩ := hrun
      rw [List.map_append]
      apply Machine.run_snoc (ih hbefore fun tid hmem => hnone tid (by simp [hmem]))
      have hmay : ({ (machine env).init with daemon := before } : Deliveries ρ).mayStep action =
          true := by
        cases action with
        | execute tid => exact absurd (by simp) (hnone tid)
        | startTasks tid config => rfl
        | resolve tid env => rfl
        | update tid => rfl
        | cleanup tid => rfl
      have hdaemon : before.step action = some daemon := hstep
      exact (if_pos hmay).trans (by rw [hdaemon]; rfl)

def timestampProgram : String := "prog_GenericInstrumentation_uprobe_call_timestamp"

def timestampBuffer : String := "map_GenericInstrumentation_call_timestamp_buf"

def watchingEnv : ResolveEnv where
  parseFromBytes _ := .ok { tasks := [{
    probeConfigs := [{
      bpfName := some timestampProgram
      fullyQualifiedClassName := some "android.os.Binder"
      methodName := some "execTransact" }]
    bpfMaps := [timestampBuffer]
    durationSeconds := some 1 }] }
  isUserBuild := false
  flags := Daemon.allFlags
  resolveProcess _ _ _ := .ok ⟨1, 1000, "system_server"⟩
  resolveOffsets _ _ := .ok (some ⟨"/system/framework/arm64/boot-framework.oat", 0, 4096⟩)

def watchingTask : ResolvedTask where
  id := 0
  duration := Duration.fromSecs 1
  resolvedProcess := ⟨1, 1000, "system_server"⟩
  bpfMapPaths := {prefixBpf timestampBuffer}
  statsdLoggingConfig := none
  resolvedProbes := [{
    methodDescriptor := ⟨"android.os.Binder", "execTransact", []⟩
    offsets := ⟨"/system/framework/arm64/boot-framework.oat", 0, 4096⟩
    bpfProgramPath := prefixBpf timestampProgram
    binderTransactionFilters := ∅ }]

theorem resolveConfig_watchingEnv (bytes : List UInt8) :
    resolveConfig watchingEnv bytes = .ok watchingTask := by
  have hduration : resolveDuration (some 1) = .ok (Duration.fromSecs 1) := rfl
  refine resolveConfig_eq_ok rfl rfl rfl ?_
  simp only [resolveSingleTask, hduration]
  rfl

/-- A platform on which that program submits numbers to that ring buffer, and
the handler keeps what it is given. -/
def watchingBuffers : BufferEnv Nat where
  registry _ := some {
    T := Nat
    S := List Nat
    mapPath := prefixBpf timestampBuffer
    progPath := none
    default := []
    onItem := fun _ item state => .ok (state ++ [item])
    onFinished := fun _ => .ok ()
    copy := id }
  pinned _ := true
  submits program mapPath := program = prefixBpf timestampProgram ∧
    mapPath = prefixBpf timestampBuffer

def watchingStart : List Daemon.Action := [.startTasks 0 [], .resolve 0 watchingEnv, .update 0]

/-- Three records are submitted while the task polls. -/
def watchingRest : List (Action Nat) :=
  [.start 0 [prefixBpf timestampBuffer], .discard 0 true, .attach 0 true,
    .create 0 (prefixBpf timestampBuffer),
    .submit 0 (prefixBpf timestampProgram) (prefixBpf timestampBuffer) 7,
    .submit 0 (prefixBpf timestampProgram) (prefixBpf timestampBuffer) 8,
    .poll 0 (prefixBpf timestampBuffer) .consumed,
    .submit 0 (prefixBpf timestampProgram) (prefixBpf timestampBuffer) 9]

def watchingDaemon : Daemon :=
  (Daemon.machine.init.setThread 0 (.resolved watchingTask)).lockedUpdate 0 watchingTask

theorem run_watchingStart : Daemon.machine.run watchingStart = some watchingDaemon := by
  have hstart : Daemon.machine.run [.startTasks 0 []] =
      some (Daemon.machine.init.setThread 0 (.started [])) := rfl
  have hresolve : Daemon.machine.step (Daemon.machine.init.setThread 0 (.started []))
      (.resolve 0 watchingEnv) =
        some (Daemon.machine.init.setThread 0 (.resolved watchingTask)) := by
    simp [Daemon.machine_step, Daemon.step, resolveConfig_watchingEnv, Daemon.setThread]
  exact Daemon.run_update 0 watchingTask (Machine.run_snoc hstart hresolve) rfl

theorem run_watching : ∃ s,
    (machine watchingBuffers).run (watchingStart.map .daemon ++ watchingRest) = some s ∧
      (s.readers 0 (prefixBpf timestampBuffer)).reading = true ∧
      (s.readers 0 (prefixBpf timestampBuffer)).consumed.map Submission.record = [7, 8] ∧
      (s.buffers (prefixBpf timestampBuffer)).waiting.map Submission.record = [9] := by
  have hdaemon := run_daemon watchingBuffers run_watchingStart (by simp [watchingStart])
  have hrest : watchingRest.foldl
      (fun state action => state.bind ((machine watchingBuffers).step · action))
      (some { (machine watchingBuffers).init with daemon := watchingDaemon }) = some _ := rfl
  have hsplit : (machine watchingBuffers).run (watchingStart.map .daemon ++ watchingRest) =
      watchingRest.foldl (fun state action => state.bind ((machine watchingBuffers).step · action))
        (some { (machine watchingBuffers).init with daemon := watchingDaemon }) := by
    rw [Machine.run, List.foldl_append, ← Machine.run, hdaemon]
  exact ⟨_, hsplit.trans hrest, rfl, rfl, rfl⟩

end Deliveries

end UprobeStats
