/-
Whether the process that is found is the one that was asked for: the searches
of `ProcessResolverImpl`, each with its own way to compare names, against what
/proc, the list of running apps, the observer and the probe show.
-/
import UprobeStats.ProcessResolution

namespace UprobeStats

open Bytes Traced

/-- A process as it is seen, with the bytes of its name. -/
structure SeenProcess where
  pid : Int32
  name : List UInt8
deriving DecidableEq, Repr

/-- The name of a process in /proc is the first component of its `cmdline`. -/
def ProcEntry.seen (entry : ProcEntry) : Option SeenProcess := do
  let pid ← entry.pid
  let cmdline ← if entry.isDir then entry.cmdline else none
  return ⟨pid, text cmdline⟩

def RunningAppProcessInfo.seen (info : RunningAppProcessInfo) : Option SeenProcess := do
  let name ← info.processName
  return ⟨info.pid, text name⟩

def ProcessStarted.seen (call : ProcessStarted) : SeenProcess :=
  ⟨call.pid, text call.processName⟩

def ProcessChange.seen (change : ProcessChange) : SeenProcess :=
  ⟨change.pid, text change.processName⟩

/-- The records of the polls before the time is over, up to one that fails. -/
def polledRecords (duration : Duration) : List (Round ProcessChange) → List ProcessChange
  | [] => []
  | round :: rest =>
      match remainingMillis duration round.elapsedMillis, round.poll with
      | some remaining, .ok result =>
          if remaining < 2 ^ 31 then result ++ polledRecords duration rest else []
      | _, _ => []

namespace ProcessEnv

variable (env : ProcessEnv)

def inProc : List SeenProcess := ((env.proc.getD []).filterMap id).filterMap ProcEntry.seen

def inRunningApps : List SeenProcess :=
  ((env.running.list.getD []).filterMap id).filterMap RunningAppProcessInfo.seen

def observed : List SeenProcess := env.observer.calls.map ProcessStarted.seen

def reported (duration : Duration) : List SeenProcess :=
  (polledRecords duration env.appStart.rounds).map ProcessChange.seen

/-- The processes that a selection looks through. -/
def sees (selection : TargetProcessSelection) (duration : Duration) (name : String) :
    List SeenProcess :=
  match selection with
  | .specificAppProcessOnStart | .anyAppProcessOnStart =>
      if env.useProcessObserverApi then env.observed else env.reported duration
  | .specificProcessName | .unknown =>
      if name = "system_server" then env.inProc else env.inRunningApps

end ProcessEnv

/-- The pid is one, and it is that of a process with exactly the name that was
given, unless any app will do.  So no selection but that one resolves without a
name. -/
def Requested (env : ProcessEnv) (targetProcessName : Option String)
    (selection : TargetProcessSelection) (duration : Duration) (pid : Int32) : Prop :=
  0 < pid ∧ (selection ≠ .anyAppProcessOnStart → ∃ name, targetProcessName = some name ∧
    ⟨pid, asBytes name⟩ ∈ env.sees selection duration name)

/-- Whatever is resolved was requested, and without the name it takes there is
an error. -/
def ResolvesRequested (env : ProcessEnv) (targetProcessName : Option String)
    (selection : TargetProcessSelection) (duration : Duration) : Prop :=
  (∀ resolved, (resolveProcess env targetProcessName selection duration).outcome = .ok resolved →
    Requested env targetProcessName selection duration resolved.pid) ∧
  (selection ≠ .anyAppProcessOnStart → targetProcessName = none →
    ∃ e, (resolveProcess env targetProcessName selection duration).outcome = .error e)

/-! When an app starts under the probe. -/

/-- The name of the record can be read. -/
def ProcessChange.Readable (change : ProcessChange) : Prop :=
  ∃ name, bytesAsStr change.processName = .ok name

/-- A record with a pid, behind records that can be read and have none. -/
inductive ReportsPid : List ProcessChange → Prop
  | here {change : ProcessChange} {rest : List ProcessChange} (hreadable : change.Readable)
      (hpid : 0 < change.pid) : ReportsPid (change :: rest)
  | later {change : ProcessChange} {rest : List ProcessChange} (hreadable : change.Readable)
      (hpid : change.pid ≤ 0) (hrest : ReportsPid rest) : ReportsPid (change :: rest)

/-- The round is polled, with this result. -/
def Round.Polled {T : Type} (duration : Duration) (round : Round T) (result : List T) : Prop :=
  ∃ remaining, remainingMillis duration round.elapsedMillis = some remaining ∧
    remaining < 2 ^ 31 ∧ round.poll = .ok result

/-- A poll within the duration reports a pid, and those before report none. -/
inductive AppStarts (duration : Duration) : List (Round ProcessChange) → Prop
  | now {round : Round ProcessChange} {rest : List (Round ProcessChange)}
      {result : List ProcessChange} (hpolled : round.Polled duration result)
      (hreports : ReportsPid result) : AppStarts duration (round :: rest)
  | later {round : Round ProcessChange} {rest : List (Round ProcessChange)}
      {result : List ProcessChange} (hpolled : round.Polled duration result)
      (hquiet : ∀ change ∈ result, change.Readable ∧ change.pid ≤ 0)
      (hrest : AppStarts duration rest) : AppStarts duration (round :: rest)

/-- The entries of /proc up to the first that cannot be read. -/
def readableEntries : List (Option ProcEntry) → List ProcEntry
  | some entry :: rest => entry :: readableEntries rest
  | _ => []

/-- The first match of each search is the requested process: it has a pid, and
where the match does not tell the name there is a process with this pid and
name.  A wait for an app without a name finds none. -/
def FirstMatchRequested (env : ProcessEnv) (targetProcessName : Option String)
    (selection : TargetProcessSelection) (duration : Duration) : Prop :=
  match selection, targetProcessName with
  | .anyAppProcessOnStart, _ =>
      env.useProcessObserverApi = true → env.observer.register = .ok () →
        ∀ call ∈ env.observer.calls.head?, 0 < call.pid
  | .specificAppProcessOnStart, none =>
      if env.useProcessObserverApi then
        env.observer.register = .ok () → env.observer.calls = []
      else ¬ (env.uprobe.Attaches ∧ env.appStart.create = .ok () ∧
        AppStarts duration env.appStart.rounds)
  | .specificAppProcessOnStart, some name =>
      env.useProcessObserverApi = true → env.observer.register = .ok () →
        ∀ call, env.observer.calls.find? (fun call => cStrOrDefault call.processName == name) =
            some call →
          0 < call.pid ∧ (name = "" → ⟨call.pid, []⟩ ∈ env.observed)
  | .specificProcessName, none | .unknown, none => True
  | .specificProcessName, some name | .unknown, some name =>
      if name = "system_server" then
        ∀ pid, (readableEntries (env.proc.getD [])).findSome?
            (fun entry => if entry.runs name then entry.pid else none) = some pid →
          0 < pid ∧ ⟨pid, asBytes name⟩ ∈ env.inProc
      else
        env.running.status = 0 →
          ∀ info, ((env.running.list.getD []).filterMap id).find?
              (RunningAppProcessInfo.isNamed name) = some info →
            info.uid.toNat < 2 ^ 31 → 0 < info.pid ∧
              (replacement ∈ name.toList → ⟨info.pid, asBytes name⟩ ∈ env.inRunningApps)

/-! The searches. -/

theorem getPidFrom_eq (processName : String) (entries : List (Option ProcEntry)) :
    getPidFrom processName entries = (readableEntries entries).findSome?
      fun entry => if entry.runs processName then entry.pid else none := by
  induction entries with
  | nil => rfl
  | cons first rest ih =>
      cases first with
      | none => rfl
      | some entry =>
          rw [getPidFrom, readableEntries, List.findSome?_cons]
          by_cases hruns : entry.runs processName = true
          · rw [if_pos hruns, if_pos hruns]
            cases entry.pid with
            | none => exact ih
            | some pid => rfl
          · rw [if_neg hruns, if_neg hruns]
            exact ih

theorem findRunningProcess_eq_ok_iff {targetProcessName : String}
    {list : List (Option RunningAppProcessInfo)} {pid : Int32} {uid : UInt32} :
    findRunningProcess targetProcessName list = .ok (pid, uid) ↔
      ∃ info, (list.filterMap id).find? (RunningAppProcessInfo.isNamed targetProcessName) =
        some info ∧ info.pid = pid ∧ info.uid = uid := by
  induction list with
  | nil => simp [findRunningProcess]
  | cons first rest ih =>
      cases first with
      | none => simpa [findRunningProcess] using ih
      | some info =>
          by_cases hnamed : info.isNamed targetProcessName = true
          · simp [findRunningProcess, hnamed]
          · simpa [findRunningProcess, hnamed] using ih

theorem observer_eq_ok_iff {env : ObserverEnv} {processName : Option String}
    {resolved : ResolvedProcess} :
    waitForAppStartObserver env processName = .ok resolved ↔ env.register = .ok () ∧
      env.calls.findSome? (onProcessStartedTrampoline processName) = some resolved := by
  unfold waitForAppStartObserver
  cases env.register with
  | error e => simp [bind, Except.bind]
  | ok _ =>
      cases env.calls.findSome? (onProcessStartedTrampoline processName) <;>
        simp [bind, Except.bind]

/-- The calls that the observer passes on. -/
theorem findSome?_trampoline (targetProcessName : Option String) (calls : List ProcessStarted) :
    calls.findSome? (onProcessStartedTrampoline targetProcessName) =
      (calls.find? fun call => !targetProcessName.any (· != cStrOrDefault call.processName)).map
        fun call => ⟨call.pid, call.processUid.toInt32, cStrOrDefault call.processName⟩ := by
  induction calls with
  | nil => rfl
  | cons call rest ih =>
      rw [List.findSome?_cons, List.find?_cons, onProcessStartedTrampoline, onProcessStarted]
      by_cases hother : targetProcessName.any (· != cStrOrDefault call.processName) = true
      · simp only [hother, ↓reduceIte, Bool.not_true]
        exact ih
      · simp only [Bool.not_eq_true] at hother
        simp [hother]

/-! The wait with a probe. -/

theorem findProcess_eq_ok {processName : Option String} {changes : List ProcessChange}
    {resolved : ResolvedProcess} (hfind : findProcess processName changes = .ok (some resolved)) :
    0 < resolved.pid ∧ ⟨resolved.pid, asBytes resolved.name⟩ ∈ changes.map ProcessChange.seen ∧
      ∀ name, processName = some name → resolved.name = name := by
  induction changes with
  | nil => cases hfind
  | cons change rest ih =>
      rw [findProcess] at hfind
      obtain ⟨name, hname, hrest⟩ := bind_eq_ok_iff.1 hfind
      have hlater : findProcess processName rest = .ok (some resolved) →
          0 < resolved.pid ∧ ⟨resolved.pid, asBytes resolved.name⟩ ∈
            (change :: rest).map ProcessChange.seen ∧
              ∀ name, processName = some name → resolved.name = name := by
        intro hfind
        obtain ⟨hpid, hseen, hnamed⟩ := ih hfind
        exact ⟨hpid, List.mem_cons_of_mem _ hseen, hnamed⟩
      split at hrest
      · rename_i hmatch
        split at hrest
        · exact hlater hrest
        · rename_i hpid
          cases hrest
          refine ⟨Int32.not_le.1 hpid, ?_, ?_⟩
          · rw [asBytes_of_bytesAsStr hname]
            exact List.mem_cons_self
          · rintro wanted rfl
            have hsame : wanted = name := by simpa using hmatch
            exact hsame.symm
      · exact hlater hrest

/-- One turn of the wait. -/
theorem waitRounds_cons_eq_ok_iff {env : AppStartEnv} {processName : Option String}
    {duration : Duration} {round : Round ProcessChange} {rest : List (Round ProcessChange)}
    {resolved : ResolvedProcess} :
    (waitRounds env processName duration (round :: rest)).outcome = .ok resolved ↔
      ∃ result, round.Polled duration result ∧
        (findProcess processName result = .ok (some resolved) ∨
          findProcess processName result = .ok none ∧
            (waitRounds env processName duration rest).outcome = .ok resolved) := by
  rw [waitRounds]
  unfold Round.Polled
  cases hremaining : remainingMillis duration round.elapsedMillis with
  | none => simp [Run.fail]
  | some remaining =>
      by_cases hfits : remaining < 2 ^ 31
      · simp only [tryIntoI32_of_lt hfits, Run.bind_ofExcept_ok, Option.some.injEq,
          exists_eq_left', hfits, true_and]
        cases round.poll with
        | error text => simp [foreign, Run.bind_def, Run.bind, Run.emit, Run.ofExcept]
        | ok result =>
            cases hfind : findProcess processName result with
            | error e => simp [hfind, foreign, Run.bind_def, Run.bind, Run.emit, Run.ofExcept]
            | ok found =>
                cases found with
                | none => simp [hfind, foreign, Run.bind_def, Run.bind, Run.emit, Run.ofExcept]
                | some process =>
                    simp [hfind, foreign, Run.bind_def, Run.bind, Run.emit, Run.ofExcept, pure]
      · simp only [tryIntoI32_of_not_lt hfits, Run.bind_ofExcept_error, Option.some.injEq,
          exists_eq_left', hfits, false_and, exists_false, reduceCtorEq]

theorem polledRecords_cons {duration : Duration} {round : Round ProcessChange}
    {result : List ProcessChange} (hpolled : round.Polled duration result)
    (rest : List (Round ProcessChange)) :
    polledRecords duration (round :: rest) = result ++ polledRecords duration rest := by
  obtain ⟨remaining, hremaining, hfits, hpoll⟩ := hpolled
  simp only [polledRecords, hremaining, hpoll, hfits, ↓reduceIte]

theorem waitRounds_eq_ok {env : AppStartEnv} {processName : Option String} {duration : Duration}
    {rounds : List (Round ProcessChange)} {resolved : ResolvedProcess}
    (hwait : (waitRounds env processName duration rounds).outcome = .ok resolved) :
    0 < resolved.pid ∧
      ⟨resolved.pid, asBytes resolved.name⟩ ∈
        (polledRecords duration rounds).map ProcessChange.seen ∧
      ∀ name, processName = some name → resolved.name = name := by
  induction rounds with
  | nil => cases hwait
  | cons round rest ih =>
      obtain ⟨result, hpolled, hfound | ⟨_, hrest⟩⟩ := waitRounds_cons_eq_ok_iff.1 hwait
      · obtain ⟨hpid, hseen, hnamed⟩ := findProcess_eq_ok hfound
        refine ⟨hpid, ?_, hnamed⟩
        rw [polledRecords_cons hpolled, List.map_append]
        exact List.mem_append_left _ hseen
      · obtain ⟨hpid, hseen, hnamed⟩ := ih hrest
        refine ⟨hpid, ?_, hnamed⟩
        rw [polledRecords_cons hpolled, List.map_append]
        exact List.mem_append_right _ hseen

theorem waitForAppStartUprobe_eq_ok_iff {env : AppStartEnv} {processName : Option String}
    {duration : Duration} {resolved : ResolvedProcess} :
    (waitForAppStartUprobe env processName duration).outcome = .ok resolved ↔
      env.Attaches ∧ env.create = .ok () ∧
        (waitRounds env processName duration env.rounds).outcome = .ok resolved := by
  rw [waitForAppStartUprobe, Run.bind_eq_ok_iff]
  rcases attachAppStart_cases env with ⟨hattaches, hattach⟩ | ⟨hattaches, e, hattach⟩
  · rw [hattach, pollAppStart]
    cases env.create with
    | error text => simp [foreign]
    | ok _ => simp [foreign, hattaches]
  · rw [hattach]
    simp [hattaches]

theorem waitRounds_ne_panic (env : AppStartEnv) (processName : Option String)
    (duration : Duration) (rounds : List (Round ProcessChange)) :
    (waitRounds env processName duration rounds).outcome ≠ .panic := by
  induction rounds with
  | nil => simp [waitRounds, Run.fail]
  | cons round rest ih =>
      rw [waitRounds]
      split
      · simp [Run.fail]
      · refine Run.bind_ne_panic (Run.ofExcept_ne_panic _) fun timeoutMs => ?_
        refine Run.bind_ne_panic (by simp [Run.emit]) fun _ => ?_
        refine Run.bind_ne_panic (Run.ofExcept_ne_panic _) fun result => ?_
        refine Run.bind_ne_panic (Run.ofExcept_ne_panic _) fun found => ?_
        cases found with
        | none => exact ih
        | some process => simp [pure]

theorem waitForAppStartUprobe_ne_panic (env : AppStartEnv) (processName : Option String)
    (duration : Duration) : (waitForAppStartUprobe env processName duration).outcome ≠ .panic := by
  refine Run.bind_ne_panic ?_ fun _ => ?_
  · rcases attachAppStart_cases env with ⟨-, hattach⟩ | ⟨-, e, hattach⟩ <;> simp [hattach]
  · exact Run.bind_ne_panic (Run.ofExcept_ne_panic _) fun _ =>
      waitRounds_ne_panic env processName duration env.rounds

/-! The wait for any app. -/

theorem findProcess_none_eq_none_iff {changes : List ProcessChange} :
    findProcess none changes = .ok none ↔
      ∀ change ∈ changes, change.Readable ∧ change.pid ≤ 0 := by
  induction changes with
  | nil => simp [findProcess]
  | cons change rest ih =>
      rw [findProcess, List.forall_mem_cons, ← ih, ProcessChange.Readable]
      cases bytesAsStr change.processName with
      | error e => simp [bind, Except.bind]
      | ok name =>
          by_cases hpid : change.pid ≤ 0
          · simp [bind, Except.bind, hpid]
          · simp [bind, Except.bind, hpid, pure, Except.pure]

theorem findProcess_none_eq_some_iff {changes : List ProcessChange} :
    (∃ resolved, findProcess none changes = .ok (some resolved)) ↔ ReportsPid changes := by
  induction changes with
  | nil =>
      refine iff_of_false ?_ ?_
      · simp [findProcess]
      · rintro ⟨⟩
  | cons change rest ih =>
      rw [findProcess]
      cases hname : bytesAsStr change.processName with
      | error e =>
          have hunreadable : ¬ change.Readable := by
            rintro ⟨name, hname'⟩
            rw [hname] at hname'
            cases hname'
          refine iff_of_false (by simp [bind, Except.bind]) ?_
          rintro (⟨hreadable, -⟩ | ⟨hreadable, -, -⟩)
          · exact hunreadable hreadable
          · exact hunreadable hreadable
      | ok name =>
          by_cases hpid : change.pid ≤ 0
          · simp only [bind, Except.bind, Option.isNone_none, Bool.true_or, ↓reduceIte, hpid, ih]
            constructor
            · intro hrest
              exact .later ⟨name, hname⟩ hpid hrest
            · rintro (⟨-, hpos⟩ | ⟨-, -, hrest⟩)
              · exact absurd hpid (Int32.not_le.2 hpos)
              · exact hrest
          · simp only [bind, Except.bind, Option.isNone_none, Bool.true_or, ↓reduceIte, hpid]
            exact iff_of_true ⟨_, rfl⟩ (.here ⟨name, hname⟩ (Int32.not_le.1 hpid))

theorem waitRounds_none_iff {env : AppStartEnv} {duration : Duration}
    {rounds : List (Round ProcessChange)} :
    (∃ resolved, (waitRounds env none duration rounds).outcome = .ok resolved) ↔
      AppStarts duration rounds := by
  induction rounds with
  | nil =>
      refine iff_of_false ?_ ?_
      · simp [waitRounds, Run.fail]
      · rintro ⟨⟩
  | cons round rest ih =>
      simp only [waitRounds_cons_eq_ok_iff, findProcess_none_eq_none_iff]
      constructor
      · rintro ⟨resolved, result, hpolled, hfound | ⟨hquiet, hrest⟩⟩
        · exact .now hpolled (findProcess_none_eq_some_iff.1 ⟨resolved, hfound⟩)
        · exact .later hpolled hquiet (ih.1 ⟨resolved, hrest⟩)
      · rintro (⟨hpolled, hreports⟩ | ⟨hpolled, hquiet, hrest⟩)
        · obtain ⟨resolved, hfound⟩ := findProcess_none_eq_some_iff.2 hreports
          exact ⟨resolved, _, hpolled, .inl hfound⟩
        · obtain ⟨resolved, hwait⟩ := ih.2 hrest
          exact ⟨resolved, _, hpolled, .inr ⟨hquiet, hwait⟩⟩

/-! The pids that each selection resolves. -/

/-- A process with this pid is resolved. -/
def ResolvesPid (env : ProcessEnv) (targetProcessName : Option String)
    (selection : TargetProcessSelection) (duration : Duration) (pid : Int32) : Prop :=
  ∃ resolved, (resolveProcess env targetProcessName selection duration).outcome = .ok resolved ∧
    resolved.pid = pid

section ResolvesPid

variable {env : ProcessEnv} {duration : Duration} {pid : Int32}

theorem requested_some_iff {selection : TargetProcessSelection} {name : String}
    (hspecific : selection ≠ .anyAppProcessOnStart) :
    Requested env (some name) selection duration pid ↔
      0 < pid ∧ ⟨pid, asBytes name⟩ ∈ env.sees selection duration name := by
  simp [Requested, hspecific]

theorem not_requested_none {selection : TargetProcessSelection}
    (hspecific : selection ≠ .anyAppProcessOnStart) :
    ¬ Requested env none selection duration pid := by
  simp [Requested, hspecific]

theorem resolveProcess_ne_panic {targetProcessName : Option String}
    {selection : TargetProcessSelection} :
    (resolveProcess env targetProcessName selection duration).outcome ≠ .panic := by
  have hwait : ∀ wanted, (waitForAppStart env wanted duration).outcome ≠ .panic := by
    intro wanted
    rw [waitForAppStart]
    split
    · exact Run.ofExcept_ne_panic _
    · exact waitForAppStartUprobe_ne_panic _ _ _
  cases selection with
  | specificProcessName => exact Run.ofExcept_ne_panic _
  | unknown => exact Run.ofExcept_ne_panic _
  | anyAppProcessOnStart => exact hwait none
  | specificAppProcessOnStart => exact hwait targetProcessName

theorem resolvesRequested_iff_forall_pid {targetProcessName : Option String}
    {selection : TargetProcessSelection} :
    ResolvesRequested env targetProcessName selection duration ↔
      ∀ pid, ResolvesPid env targetProcessName selection duration pid →
        Requested env targetProcessName selection duration pid := by
  constructor
  · rintro ⟨hrequested, -⟩ pid ⟨resolved, hok, rfl⟩
    exact hrequested resolved hok
  · intro hrequested
    refine ⟨fun resolved hok => hrequested resolved.pid ⟨resolved, hok, rfl⟩, ?_⟩
    rintro hspecific rfl
    cases houtcome : (resolveProcess env none selection duration).outcome with
    | ok resolved =>
        exact absurd (hrequested resolved.pid ⟨resolved, houtcome, rfl⟩)
          (not_requested_none hspecific)
    | error e => exact ⟨e, rfl⟩
    | panic => exact absurd houtcome resolveProcess_ne_panic

theorem getPid_eq (processName : String) (proc : Option (List (Option ProcEntry))) :
    getPid proc processName = (readableEntries (proc.getD [])).findSome?
      fun entry => if entry.runs processName then entry.pid else none := by
  cases proc with
  | none => rfl
  | some entries => exact getPidFrom_eq processName entries

theorem getRunningProcessPidUid_eq_ok_iff {running : RunningAppProcesses} {name : String}
    {uid : UInt32} :
    getRunningProcessPidUid running name = .ok (pid, uid) ↔
      running.status = 0 ∧ ∃ info, ((running.list.getD []).filterMap id).find?
        (RunningAppProcessInfo.isNamed name) = some info ∧ info.pid = pid ∧ info.uid = uid := by
  unfold getRunningProcessPidUid
  by_cases hstatus : running.status = 0
  · rw [if_neg (not_not.2 hstatus)]
    cases running.list with
    | none => simp
    | some list => simp [hstatus, findRunningProcess_eq_ok_iff]
  · simp [hstatus]

/-- The selections that look for a process that runs are one. -/
theorem resolves_running_iff {selection : TargetProcessSelection}
    {targetProcessName : Option String}
    (hrunning : selection = .specificProcessName ∨ selection = .unknown) :
    ResolvesPid env targetProcessName selection duration pid ↔
      ∃ resolved, resolveRunning env targetProcessName selection = .ok resolved ∧
        resolved.pid = pid := by
  rcases hrunning with rfl | rfl <;>
    simp only [ResolvesPid, resolveProcess, Run.outcome_ofExcept_eq_ok_iff]

theorem resolveRunning_none (selection : TargetProcessSelection) (resolved : ResolvedProcess) :
    resolveRunning env none selection ≠ .ok resolved := by
  simp [resolveRunning, required, bind, Except.bind]

theorem resolveRunning_systemServer_iff {selection : TargetProcessSelection} :
    (∃ resolved, resolveRunning env (some "system_server") selection = .ok resolved ∧
      resolved.pid = pid) ↔ getPid env.proc "system_server" = some pid := by
  have huid : tryIntoI32 aidSystem.toNat = .ok 1000 := rfl
  unfold resolveRunning
  cases hfound : getPid env.proc "system_server" with
  | none => simp [hfound, required, bind, Except.bind]
  | some found => simp [hfound, required, huid, bind, Except.bind, pure, Except.pure]

theorem resolveRunning_app_iff {selection : TargetProcessSelection} {name : String}
    (hname : name ≠ "system_server") :
    (∃ resolved, resolveRunning env (some name) selection = .ok resolved ∧
      resolved.pid = pid) ↔
      env.running.status = 0 ∧ ∃ info, ((env.running.list.getD []).filterMap id).find?
        (RunningAppProcessInfo.isNamed name) = some info ∧ info.uid.toNat < 2 ^ 31 ∧
          info.pid = pid := by
  have hresolve : resolveRunning env (some name) selection =
      getRunningProcessPidUid env.running name >>= fun found =>
        tryIntoI32 found.2.toNat >>= fun uid => return ⟨found.1, uid, name⟩ := by
    simp only [resolveRunning, required, bind, Except.bind, hname, ↓reduceIte]
  rw [hresolve]
  constructor
  · rintro ⟨resolved, hok, rfl⟩
    obtain ⟨⟨found, uid⟩, hfound, hok⟩ := bind_eq_ok_iff.1 hok
    obtain ⟨uid', huid, hok⟩ := bind_eq_ok_iff.1 hok
    cases hok
    obtain ⟨hstatus, info, hfind, hpid, rfl⟩ := getRunningProcessPidUid_eq_ok_iff.1 hfound
    refine ⟨hstatus, info, hfind, ?_, hpid⟩
    by_contra hlarge
    rw [tryIntoI32_of_not_lt hlarge] at huid
    cases huid
  · rintro ⟨hstatus, info, hfind, hfits, rfl⟩
    have hfound := getRunningProcessPidUid_eq_ok_iff.2 ⟨hstatus, info, hfind, rfl, rfl⟩
    exact ⟨⟨info.pid, Int32.ofNat info.uid.toNat, name⟩, bind_eq_ok_iff.2 ⟨_, hfound,
      bind_eq_ok_iff.2 ⟨_, tryIntoI32_of_lt hfits, rfl⟩⟩, rfl⟩

theorem observer_resolves_iff {env : ObserverEnv} {targetProcessName : Option String} :
    (∃ resolved, waitForAppStartObserver env targetProcessName = .ok resolved ∧
      resolved.pid = pid) ↔
      env.register = .ok () ∧ ∃ call, (env.calls.find? fun call =>
        !targetProcessName.any (· != cStrOrDefault call.processName)) = some call ∧
          call.pid = pid := by
  simp only [observer_eq_ok_iff, findSome?_trampoline, Option.map_eq_some_iff]
  constructor
  · rintro ⟨resolved, ⟨hregister, call, hfind, rfl⟩, rfl⟩
    exact ⟨hregister, call, hfind, rfl⟩
  · rintro ⟨hregister, call, hfind, rfl⟩
    exact ⟨_, ⟨hregister, call, hfind, rfl⟩, rfl⟩

/-! What a match tells about the name. -/

theorem asBytes_of_cStrOrDefault {bytes : List UInt8} {name : String}
    (hname : cStrOrDefault bytes = name) (hnonempty : name ≠ "") : text bytes = asBytes name := by
  unfold cStrOrDefault at hname
  cases hdecode : fromUtf8 (text bytes) with
  | none =>
      rw [hdecode] at hname
      exact absurd hname.symm hnonempty
  | some s =>
      rw [hdecode, Option.getD_some] at hname
      rw [← hname, asBytes_of_fromUtf8 hdecode]

theorem mem_observed {call : ProcessStarted} {name : String} (hcall : call ∈ env.observer.calls)
    (hname : cStrOrDefault call.processName = name) (hnonempty : name ≠ "") :
    ⟨call.pid, asBytes name⟩ ∈ env.observed := by
  refine List.mem_map.2 ⟨call, hcall, ?_⟩
  rw [ProcessStarted.seen, asBytes_of_cStrOrDefault hname hnonempty]

theorem mem_inRunningApps {info : RunningAppProcessInfo} {name : String}
    (hinfo : info ∈ (env.running.list.getD []).filterMap id) (hnamed : info.isNamed name = true)
    (hvalid : replacement ∉ name.toList) : ⟨info.pid, asBytes name⟩ ∈ env.inRunningApps := by
  obtain ⟨bytes, hbytes, hlossy⟩ : ∃ bytes, info.processName = some bytes ∧
      fromUtf8Lossy (text bytes) = name := by
    rw [RunningAppProcessInfo.isNamed, Option.any_eq_true] at hnamed
    simpa using hnamed
  refine List.mem_filterMap.2 ⟨info, hinfo, ?_⟩
  have htext : asBytes name = text bytes := by
    rw [← hlossy]
    exact asBytes_fromUtf8Lossy (hlossy ▸ hvalid)
  rw [RunningAppProcessInfo.seen, hbytes, htext]
  rfl

/-! The selections, one by one. -/

theorem resolvesRequested_running_iff {selection : TargetProcessSelection} {name : String}
    (hrunning : selection = .specificProcessName ∨ selection = .unknown) :
    ResolvesRequested env (some name) selection duration ↔
      FirstMatchRequested env (some name) selection duration := by
  have hspecific : selection ≠ .anyAppProcessOnStart := by
    rcases hrunning with rfl | rfl <;> simp
  rw [resolvesRequested_iff_forall_pid]
  simp only [resolves_running_iff hrunning, requested_some_iff hspecific]
  by_cases hname : name = "system_server"
  · subst hname
    have hcondition : FirstMatchRequested env (some "system_server") selection duration ↔
        ∀ pid, getPid env.proc "system_server" = some pid →
          0 < pid ∧ ⟨pid, asBytes "system_server"⟩ ∈ env.inProc := by
      rw [getPid_eq]
      rcases hrunning with rfl | rfl <;> simp only [FirstMatchRequested, ↓reduceIte]
    have hsees : env.sees selection duration "system_server" = env.inProc := by
      rcases hrunning with rfl | rfl <;> simp only [ProcessEnv.sees, ↓reduceIte]
    simp only [resolveRunning_systemServer_iff, hcondition, hsees]
  · have hsees : env.sees selection duration name = env.inRunningApps := by
      rcases hrunning with rfl | rfl <;> simp only [ProcessEnv.sees, hname, ↓reduceIte]
    simp only [resolveRunning_app_iff hname, hsees]
    have hcondition : FirstMatchRequested env (some name) selection duration ↔
        (env.running.status = 0 → ∀ info, ((env.running.list.getD []).filterMap id).find?
          (RunningAppProcessInfo.isNamed name) = some info → info.uid.toNat < 2 ^ 31 →
            0 < info.pid ∧
              (replacement ∈ name.toList → ⟨info.pid, asBytes name⟩ ∈ env.inRunningApps)) := by
      rcases hrunning with rfl | rfl <;> simp only [FirstMatchRequested, hname, ↓reduceIte]
    rw [hcondition]
    constructor
    · intro hrequested hstatus info hfind hfits
      obtain ⟨hpid, hseen⟩ := hrequested info.pid ⟨hstatus, info, hfind, hfits, rfl⟩
      exact ⟨hpid, fun _ => hseen⟩
    · rintro hfirst pid ⟨hstatus, info, hfind, hfits, rfl⟩
      obtain ⟨hpid, hseen⟩ := hfirst hstatus info hfind hfits
      refine ⟨hpid, ?_⟩
      by_cases hvalid : replacement ∈ name.toList
      · exact hseen hvalid
      · exact mem_inRunningApps (List.mem_of_find?_eq_some hfind) (List.find?_some hfind) hvalid

theorem resolvesRequested_running_none {selection : TargetProcessSelection}
    (hrunning : selection = .specificProcessName ∨ selection = .unknown) :
    ResolvesRequested env none selection duration := by
  rw [resolvesRequested_iff_forall_pid]
  rintro pid hresolves
  obtain ⟨resolved, hok, -⟩ := (resolves_running_iff hrunning).1 hresolves
  exact absurd hok (resolveRunning_none selection resolved)

theorem resolves_observer_iff {selection : TargetProcessSelection}
    {targetProcessName wanted : Option String} (huse : env.useProcessObserverApi = true)
    (hwait : resolveProcess env targetProcessName selection duration =
      waitForAppStart env wanted duration) :
    ResolvesPid env targetProcessName selection duration pid ↔
      env.observer.register = .ok () ∧ ∃ call, (env.observer.calls.find? fun call =>
        !wanted.any (· != cStrOrDefault call.processName)) = some call ∧ call.pid = pid := by
  simp only [ResolvesPid, hwait, waitForAppStart, huse, ↓reduceIte, Run.outcome_ofExcept_eq_ok_iff]
  exact observer_resolves_iff

theorem resolves_uprobe {selection : TargetProcessSelection}
    {targetProcessName wanted : Option String} (huse : ¬ env.useProcessObserverApi = true)
    (hwait : resolveProcess env targetProcessName selection duration =
      waitForAppStart env wanted duration)
    (hresolves : ResolvesPid env targetProcessName selection duration pid) :
    0 < pid ∧ ∀ name, wanted = some name → ⟨pid, asBytes name⟩ ∈ env.reported duration := by
  obtain ⟨resolved, hok, rfl⟩ := hresolves
  rw [hwait, waitForAppStart, if_neg huse] at hok
  obtain ⟨-, -, hrounds⟩ := waitForAppStartUprobe_eq_ok_iff.1 hok
  obtain ⟨hpid, hseen, hnamed⟩ := waitRounds_eq_ok hrounds
  refine ⟨hpid, ?_⟩
  intro name hname
  rw [← hnamed name hname]
  exact hseen

/-- Without a name the observer takes the first call there is. -/
theorem find?_unnamed (calls : List ProcessStarted) :
    (calls.find? fun call => !(none : Option String).any (· != cStrOrDefault call.processName)) =
      calls.head? := by
  cases calls <;> rfl

theorem find?_named (name : String) (calls : List ProcessStarted) :
    (calls.find? fun call => !(some name).any (· != cStrOrDefault call.processName)) =
      calls.find? fun call => cStrOrDefault call.processName == name := by
  congr 1
  funext call
  rw [Option.any_some, bne, Bool.not_not, Bool.eq_iff_iff, beq_iff_eq, beq_iff_eq, eq_comm]

theorem resolvesRequested_any_iff {targetProcessName : Option String} :
    ResolvesRequested env targetProcessName .anyAppProcessOnStart duration ↔
      FirstMatchRequested env targetProcessName .anyAppProcessOnStart duration := by
  have hwait : resolveProcess env targetProcessName .anyAppProcessOnStart duration =
      waitForAppStart env none duration := rfl
  have hrequested : ∀ pid, Requested env targetProcessName .anyAppProcessOnStart duration pid ↔
      0 < pid := by simp [Requested]
  simp only [resolvesRequested_iff_forall_pid, hrequested, FirstMatchRequested]
  by_cases huse : env.useProcessObserverApi = true
  · simp only [resolves_observer_iff huse hwait, find?_unnamed, huse, forall_const]
    constructor
    · intro hpids hregister call hcall
      exact hpids call.pid ⟨hregister, call, hcall, rfl⟩
    · rintro hfirst pid ⟨hregister, call, hcall, rfl⟩
      exact hfirst hregister call hcall
  · refine iff_of_true ?_ (fun hobserver => absurd hobserver huse)
    intro pid hresolves
    exact (resolves_uprobe huse hwait hresolves).1

theorem resolvesRequested_specific_iff {name : String} :
    ResolvesRequested env (some name) .specificAppProcessOnStart duration ↔
      FirstMatchRequested env (some name) .specificAppProcessOnStart duration := by
  have hwait : resolveProcess env (some name) .specificAppProcessOnStart duration =
      waitForAppStart env (some name) duration := rfl
  have hspecific : TargetProcessSelection.specificAppProcessOnStart ≠ .anyAppProcessOnStart := by
    simp
  simp only [resolvesRequested_iff_forall_pid, requested_some_iff hspecific, FirstMatchRequested,
    ProcessEnv.sees]
  by_cases huse : env.useProcessObserverApi = true
  · simp only [resolves_observer_iff huse hwait, find?_named, huse, forall_const, ↓reduceIte]
    constructor
    · intro hrequested hregister call hfind
      obtain ⟨hpid, hseen⟩ := hrequested call.pid ⟨hregister, call, hfind, rfl⟩
      refine ⟨hpid, ?_⟩
      rintro rfl
      exact hseen
    · rintro hfirst pid ⟨hregister, call, hfind, rfl⟩
      obtain ⟨hpid, hunnamed⟩ := hfirst hregister call hfind
      refine ⟨hpid, ?_⟩
      by_cases hname : name = ""
      · subst hname
        exact hunnamed rfl
      · have hcall : cStrOrDefault call.processName = name := by
          simpa using List.find?_some hfind
        exact mem_observed (List.mem_of_find?_eq_some hfind) hcall hname
  · simp only [huse, Bool.false_eq_true, false_implies, ↓reduceIte, iff_true]
    intro pid hresolves
    obtain ⟨hpid, hseen⟩ := resolves_uprobe huse hwait hresolves
    exact ⟨hpid, hseen name rfl⟩

/-- A wait for an app in particular is a wait for any app when it has no name. -/
theorem resolvesRequested_unnamed_iff :
    ResolvesRequested env none .specificAppProcessOnStart duration ↔
      FirstMatchRequested env none .specificAppProcessOnStart duration := by
  have hwait : resolveProcess env none .specificAppProcessOnStart duration =
      waitForAppStart env none duration := rfl
  have hspecific : TargetProcessSelection.specificAppProcessOnStart ≠ .anyAppProcessOnStart := by
    simp
  simp only [resolvesRequested_iff_forall_pid, not_requested_none hspecific, imp_false,
    FirstMatchRequested]
  by_cases huse : env.useProcessObserverApi = true
  · simp only [resolves_observer_iff huse hwait, find?_unnamed, huse, ↓reduceIte]
    constructor
    · intro hnever hregister
      cases hcalls : env.observer.calls with
      | nil => rfl
      | cons call rest =>
          exact absurd ⟨hregister, call, by rw [hcalls]; rfl, rfl⟩ (hnever call.pid)
    · rintro hquiet pid ⟨hregister, call, hcall, -⟩
      rw [hquiet hregister] at hcall
      cases hcall
  · have hwaits : (∃ pid, ResolvesPid env none .specificAppProcessOnStart duration pid) ↔
        env.uprobe.Attaches ∧ env.appStart.create = .ok () ∧
          AppStarts duration env.appStart.rounds := by
      rw [← @waitRounds_none_iff env.uprobe]
      simp only [ResolvesPid, hwait, waitForAppStart, huse, Bool.false_eq_true, ↓reduceIte,
        waitForAppStartUprobe_eq_ok_iff]
      constructor
      · rintro ⟨pid, resolved, ⟨hattaches, hcreate, hrounds⟩, -⟩
        exact ⟨hattaches, hcreate, resolved, hrounds⟩
      · rintro ⟨hattaches, hcreate, resolved, hrounds⟩
        exact ⟨resolved.pid, resolved, ⟨hattaches, hcreate, hrounds⟩, rfl⟩
    rw [if_neg huse, ← hwaits, not_exists]

end ResolvesPid

/-- An app whose name goes on where that of the system server ends has the
lower pid, and another app starts. -/
def namesakeDevice : ProcessEnv where
  proc := some [
    some ⟨asBytes "900", true, some (asBytes "system_server.example\x00")⟩,
    some ⟨asBytes "1200", true, some (asBytes "system_server\x00")⟩]
  running := ⟨0, some []⟩
  useProcessObserverApi := true
  observer := ⟨true, 0, [⟨1300, 10100, 10100, asBytes "com.example", asBytes "com.example"⟩]⟩
  appStart := quietDevice

theorem namesake_runs :
    ProcEntry.runs ⟨asBytes "900", true, some (asBytes "system_server.example\x00")⟩
      "system_server" = true := by
  have hfront : startsWith "system_server.example\x00" "system_server" = true := by decide
  simp [ProcEntry.runs, fromUtf8Lossy_asBytes, hfront]

theorem namesake_pid (isDir : Bool) (cmdline : Option (List UInt8)) :
    ProcEntry.pid ⟨asBytes "900", isDir, cmdline⟩ = some 900 := by
  have hparse : parseI32 "900" = some 900 := by decide
  rw [ProcEntry.pid, fromUtf8_asBytes, Option.bind_some, hparse]

end UprobeStats
