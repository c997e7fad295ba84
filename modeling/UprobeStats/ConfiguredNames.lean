/-
The files that the names in a config denote.  A name becomes a path by putting
the directory in front of it, tasks are kept apart by comparing these strings,
and the kernel resolves them.
-/
import UprobeStats.Daemon
import UprobeStats.Lib.Paths

namespace UprobeStats

open Paths Transition

/-- `/sys/fs/bpf/uprobestats`. -/
def uprobestatsDir : List String := ["sys", "fs", "bpf", "uprobestats"]

/-- The path denotes a file of the directory. -/
def InUprobestatsDir (path : String) : Prop := ∃ file, normalizePath path = uprobestatsDir ++ [file]

/-- The name, as a path that starts in the directory. -/
def namePath (name : String) : Relative String := normalForm (components name.toList)

/-- The name leaves the directory as often as it comes back, and ends in it. -/
def StaysInDir (name : String) : Prop :=
  ∃ file, (namePath name).downs =
    uprobestatsDir.drop (uprobestatsDir.length - (namePath name).ups) ++ [file]

/-- Where the name ends. -/
def lastComponent (name : String) : Option String := (namePath name).downs.getLast?

theorem normalizePath_prefixBpf (name : String) :
    normalizePath (prefixBpf name) = resolve uprobestatsDir (components name.toList) := by
  have hsplit : (prefixBpf name).toList =
      "/sys/fs/bpf/uprobestats".toList ++ '/' :: name.toList := by
    simp [prefixBpf, bpfDir]
  have hdir : resolve [] (components "/sys/fs/bpf/uprobestats".toList) = uprobestatsDir := by
    decide
  rw [normalizePath, hsplit, components_append, resolve_append, hdir]

theorem prefixBpf_injective : Function.Injective prefixBpf := by
  intro name other heq
  have htext := congrArg String.toList heq
  rw [prefixBpf, prefixBpf, String.toList_append, String.toList_append,
    List.append_right_inj] at htext
  exact String.toList_inj.1 htext

theorem normalizePath_prefixBpf_iff {name file : String} :
    normalizePath (prefixBpf name) = uprobestatsDir ++ [file] ↔
      (namePath name).downs =
        uprobestatsDir.drop (uprobestatsDir.length - (namePath name).ups) ++ [file] := by
  rw [normalizePath_prefixBpf]
  exact resolve_eq_concat_iff

theorem inUprobestatsDir_prefixBpf_iff {name : String} :
    InUprobestatsDir (prefixBpf name) ↔ StaysInDir name :=
  exists_congr fun _ => normalizePath_prefixBpf_iff

theorem normalizePath_of_staysInDir {name : String} (hstays : StaysInDir name) :
    ∃ file, normalizePath (prefixBpf name) = uprobestatsDir ++ [file] ∧
      lastComponent name = some file := by
  obtain ⟨file, hdowns⟩ := hstays
  refine ⟨file, normalizePath_prefixBpf_iff.2 hdowns, ?_⟩
  rw [lastComponent, hdowns, List.getLast?_concat]

/-- Two names that stay in the directory denote the same file when they end in
the same component. -/
theorem normalizePath_eq_iff {name other : String} (hname : StaysInDir name)
    (hother : StaysInDir other) :
    normalizePath (prefixBpf name) = normalizePath (prefixBpf other) ↔
      lastComponent name = lastComponent other := by
  obtain ⟨file, hfile, hlast⟩ := normalizePath_of_staysInDir hname
  obtain ⟨file', hfile', hlast'⟩ := normalizePath_of_staysInDir hother
  rw [hfile, hfile', hlast, hlast', List.append_right_inj, Option.some.injEq, List.cons.injEq]
  simp

/-! The paths of an accepted config. -/

theorem mem_bpfMapPaths_iff {env : ResolveEnv} {task : Proto.Task} {id : Int64}
    {resolved : ResolvedTask} (hresolve : resolveSingleTask env task id = .ok resolved)
    (path : String) :
    path ∈ resolved.bpfMapPaths ↔ ∃ name ∈ task.bpfMaps, prefixBpf name = path := by
  obtain ⟨bpfMapPaths, _, _, _, hmaps, _, _, _, rfl⟩ := resolveSingleTask_eq_ok hresolve
  rw [List.mem_toFinset]
  constructor
  · intro hmem
    obtain ⟨name, hname, hpath⟩ := exists_of_mem_mapM hmaps hmem
    exact ⟨name, hname, (enabledBpfPath_eq_ok hpath).2.symm⟩
  · rintro ⟨name, hname, rfl⟩
    obtain ⟨path, hmem, hpath⟩ := exists_mem_of_mapM hmaps hname
    rwa [← (enabledBpfPath_eq_ok hpath).2]

theorem bpfProgramPath_of_resolveProbe {env : ResolveEnv} {resolvedProcess : ResolvedProcess}
    {proto : Proto.ProbeConfig} {probe : ResolvedProbe}
    (hresolve : resolveProbe env resolvedProcess proto = .ok probe) :
    ∃ name, proto.bpfName = some name ∧ prefixBpf name = probe.bpfProgramPath := by
  obtain ⟨bpfName, hrequired, hrest⟩ := bind_eq_ok_iff.1 hresolve
  obtain ⟨path, hpath, hrest⟩ := bind_eq_ok_iff.1 hrest
  obtain ⟨_, _, hrest⟩ := bind_eq_ok_iff.1 hrest
  obtain ⟨_, _, hrest⟩ := bind_eq_ok_iff.1 hrest
  obtain ⟨_, _, hrest⟩ := bind_eq_ok_iff.1 hrest
  obtain ⟨_, _, hrest⟩ := bind_eq_ok_iff.1 hrest
  obtain ⟨_, _, hprobe⟩ := bind_eq_ok_iff.1 hrest
  cases hprobe
  refine ⟨bpfName, ?_, (enabledBpfPath_eq_ok hpath).2.symm⟩
  cases hname : proto.bpfName with
  | none =>
      rw [hname] at hrequired
      cases hrequired
  | some name =>
      rw [hname] at hrequired
      cases hrequired
      rfl

theorem exists_probe_path_iff {env : ResolveEnv} {task : Proto.Task} {id : Int64}
    {resolved : ResolvedTask} (hresolve : resolveSingleTask env task id = .ok resolved)
    (path : String) :
    (∃ probe ∈ resolved.resolvedProbes, probe.bpfProgramPath = path) ↔
      ∃ name ∈ task.probeConfigs.filterMap (·.bpfName), prefixBpf name = path := by
  obtain ⟨_, _, _, resolvedProbes, _, _, _, hprobes, rfl⟩ := resolveSingleTask_eq_ok hresolve
  constructor
  · rintro ⟨probe, hmem, rfl⟩
    obtain ⟨proto, hproto, hprobe⟩ := exists_of_mem_mapM hprobes hmem
    obtain ⟨name, hname, hpath⟩ := bpfProgramPath_of_resolveProbe hprobe
    exact ⟨name, List.mem_filterMap.2 ⟨proto, hproto, hname⟩, hpath⟩
  · rintro ⟨name, hname, rfl⟩
    obtain ⟨proto, hproto, hname⟩ := List.mem_filterMap.1 hname
    obtain ⟨probe, hmem, hprobe⟩ := exists_mem_of_mapM hprobes hproto
    obtain ⟨name', hname', hpath⟩ := bpfProgramPath_of_resolveProbe hprobe
    rw [hname] at hname'
    cases hname'
    exact ⟨probe, hmem, hpath.symm⟩

/-- Every path of the task denotes a file of the directory. -/
structure PathsInDir (resolved : ResolvedTask) : Prop where
  maps : ∀ path ∈ resolved.bpfMapPaths, InUprobestatsDir path
  programs : ∀ probe ∈ resolved.resolvedProbes, InUprobestatsDir probe.bpfProgramPath

theorem pathsInDir_iff {env : ResolveEnv} {task : Proto.Task} {id : Int64}
    {resolved : ResolvedTask} (hresolve : resolveSingleTask env task id = .ok resolved) :
    PathsInDir resolved ↔ ∀ name ∈ bpfNames task, StaysInDir name := by
  constructor
  · intro hpaths name hname
    rw [← inUprobestatsDir_prefixBpf_iff]
    rcases List.mem_append.1 hname with hname | hname
    · exact hpaths.maps _ ((mem_bpfMapPaths_iff hresolve _).2 ⟨name, hname, rfl⟩)
    · obtain ⟨probe, hprobe, hpath⟩ := (exists_probe_path_iff hresolve _).2 ⟨name, hname, rfl⟩
      exact hpath ▸ hpaths.programs probe hprobe
  · intro hnames
    refine ⟨fun path hpath => ?_, fun probe hprobe => ?_⟩
    · obtain ⟨name, hname, rfl⟩ := (mem_bpfMapPaths_iff hresolve path).1 hpath
      exact inUprobestatsDir_prefixBpf_iff.2 (hnames name (List.mem_append_left _ hname))
    · obtain ⟨name, hname, hpath⟩ := (exists_probe_path_iff hresolve _).1 ⟨probe, hprobe, rfl⟩
      rw [← hpath, inUprobestatsDir_prefixBpf_iff]
      exact hnames name (List.mem_append_right _ hname)

namespace Daemon

/-! Where the tasks of the threads come from. -/

/-- The config of some thread was resolved to the task. -/
def ResolvedIn (actions : List Action) (task : ResolvedTask) : Prop :=
  ∃ tid config env, .startTasks tid config ∈ actions ∧ .resolve tid env ∈ actions ∧
    resolveConfig env config = .ok task

theorem ResolvedIn.mono {actions : List Action} {task : ResolvedTask}
    (hresolved : ResolvedIn actions task) (action : Action) :
    ResolvedIn (actions ++ [action]) task := by
  obtain ⟨tid, config, env, hstart, hresolve, hok⟩ := hresolved
  exact ⟨tid, config, env, List.mem_append_left _ hstart, List.mem_append_left _ hresolve, hok⟩

/-- The thread carries the task. -/
inductive Carries : ThreadState → ResolvedTask → Prop where
  | resolved (task : ResolvedTask) : Carries (.resolved task) task
  | refused (task : ResolvedTask) : Carries (.refused task) task
  | executing (task : ResolvedTask) : Carries (.executing task) task
  | executed (task : ResolvedTask) : Carries (.executed task) task
  | panicked (task : ResolvedTask) : Carries (.panicked (some task)) task

theorem Carries.of_admitted {thread : ThreadState} {task : ResolvedTask}
    (hadmitted : thread.admitted = some task) : Carries thread task := by
  cases thread <;> simp only [ThreadState.admitted, reduceCtorEq, Option.some.injEq] at hadmitted <;>
    subst hadmitted <;> constructor

/-- Under the lock a thread keeps the task it has, or loses it. -/
theorem threads_lockedUpdate (s : Daemon) (tid : Nat) (resolved : ResolvedTask) :
    ∃ thread, (s.lockedUpdate tid resolved).threads = Function.update s.threads tid thread ∧
      (∀ config, thread ≠ .started config) ∧ ∀ task, Carries thread task → task = resolved := by
  unfold lockedUpdate
  split
  · refine ⟨_, rfl, by simp, ?_⟩
    rintro task ⟨⟩
  · split
    · refine ⟨_, rfl, by simp, ?_⟩
      rintro task ⟨⟩
      rfl
    · refine ⟨_, rfl, by simp, ?_⟩
      rintro task ⟨⟩
      rfl

theorem threads_lockedCleanup (s : Daemon) (tid : Nat) (resolved : ResolvedTask) :
    ∃ thread, (s.lockedCleanup tid resolved).threads = Function.update s.threads tid thread ∧
      (∀ config, thread ≠ .started config) ∧ ∀ task, Carries thread task → task = resolved := by
  unfold lockedCleanup
  split
  · refine ⟨_, rfl, by simp, ?_⟩
    rintro task ⟨⟩
    rfl
  · split
    · refine ⟨_, rfl, by simp, ?_⟩
      rintro task ⟨⟩
      rfl
    · refine ⟨_, rfl, by simp, ?_⟩
      rintro task ⟨⟩

/-- A step changes one thread: it is started, its config is resolved, or it
goes on with what it carries. -/
theorem threads_of_step {s s' : Daemon} {action : Action} (hstep : s.step action = some s') :
    ∃ tid thread, s'.threads = Function.update s.threads tid thread ∧
      ((∃ config, action = .startTasks tid config ∧ thread = .started config) ∨
        ((∀ config, thread ≠ .started config) ∧ ∀ task, Carries thread task →
          Carries (s.threads tid) task ∨
            ∃ env config, action = .resolve tid env ∧ s.threads tid = .started config ∧
              resolveConfig env config = .ok task)) := by
  cases action with
  | startTasks tid config =>
      cases hthread : s.threads tid <;> simp only [step, hthread, reduceCtorEq] at hstep
      cases hstep
      exact ⟨tid, .started config, rfl, .inl ⟨config, rfl, rfl⟩⟩
  | resolve tid env =>
      cases hthread : s.threads tid <;> simp only [step, hthread, reduceCtorEq] at hstep
      rename_i config
      cases hresolve : resolveConfig env config with
      | error e =>
          simp only [hresolve, Option.some.injEq] at hstep
          subst hstep
          refine ⟨tid, .rejected e, rfl, .inr ⟨by simp, ?_⟩⟩
          rintro task ⟨⟩
      | ok resolved =>
          simp only [hresolve, Option.some.injEq] at hstep
          subst hstep
          refine ⟨tid, .resolved resolved, rfl, .inr ⟨by simp, ?_⟩⟩
          rintro task ⟨⟩
          exact .inr ⟨env, config, rfl, hthread, hresolve⟩
  | update tid =>
      cases hthread : s.threads tid <;> simp only [step, hthread, reduceCtorEq] at hstep
      rename_i resolved
      cases hstep
      obtain ⟨thread, hthreads, hnot, htask⟩ := threads_lockedUpdate s tid resolved
      refine ⟨tid, thread, hthreads, .inr ⟨hnot, ?_⟩⟩
      intro task hcarries
      rw [htask task hcarries, hthread]
      exact .inl (.resolved resolved)
  | execute tid =>
      cases hthread : s.threads tid <;> simp only [step, hthread, reduceCtorEq] at hstep
      rename_i resolved
      cases hstep
      refine ⟨tid, .executed resolved, rfl, .inr ⟨by simp, ?_⟩⟩
      rintro task ⟨⟩
      exact .inl (hthread ▸ .executing resolved)
  | cleanup tid =>
      cases hthread : s.threads tid <;> simp only [step, hthread, reduceCtorEq] at hstep
      rename_i resolved
      cases hstep
      obtain ⟨thread, hthreads, hnot, htask⟩ := threads_lockedCleanup s tid resolved
      refine ⟨tid, thread, hthreads, .inr ⟨hnot, ?_⟩⟩
      intro task hcarries
      rw [htask task hcarries, hthread]
      exact .inl (.executed resolved)

/-- What a run knows about its threads: the config of a thread that has been
started, and how it was resolved. -/
structure Known (actions : List Action) (s : Daemon) : Prop where
  started : ∀ tid config, s.threads tid = .started config → .startTasks tid config ∈ actions
  carries : ∀ tid task, Carries (s.threads tid) task → ResolvedIn actions task

theorem known_of_run {actions : List Action} {s : Daemon}
    (hrun : machine.run actions = some s) : Known actions s := by
  induction actions using List.reverseRecOn generalizing s with
  | nil =>
      cases hrun
      exact ⟨nofun, nofun⟩
  | append_singleton actions action ih =>
      simp only [Machine.run_concat, Option.bind_eq_some_iff] at hrun
      obtain ⟨before, hbefore, hstep⟩ := hrun
      have hknown := ih hbefore
      obtain ⟨tid, thread, hthreads, hthread⟩ := threads_of_step hstep
      refine ⟨fun other config hstarted => ?_, fun other task hcarries => ?_⟩
      · by_cases hother : other = tid
        · subst hother
          rw [hthreads, Function.update_self] at hstarted
          rcases hthread with ⟨config', rfl, rfl⟩ | ⟨hnot, -⟩
          · cases hstarted
            exact List.mem_append_right _ (List.mem_singleton_self _)
          · exact absurd hstarted (hnot config)
        · rw [hthreads, Function.update_of_ne hother] at hstarted
          exact List.mem_append_left _ (hknown.started other config hstarted)
      · by_cases hother : other = tid
        · subst hother
          rw [hthreads, Function.update_self] at hcarries
          rcases hthread with ⟨config, -, rfl⟩ | ⟨-, htask⟩
          · cases hcarries
          · rcases htask task hcarries with hsame | ⟨env, config, rfl, hstarted, hresolve⟩
            · exact (hknown.carries other task hsame).mono action
            · exact ⟨other, config, env,
                List.mem_append_left _ (hknown.started other config hstarted),
                List.mem_append_right _ (List.mem_singleton_self _), hresolve⟩
        · rw [hthreads, Function.update_of_ne hother] at hcarries
          exact (hknown.carries other task hcarries).mono action

/-- The names of maps in the configs that a run has accepted. -/
def MapNameIn (actions : List Action) (name : String) : Prop :=
  ∃ resolved, ResolvedIn actions resolved ∧ prefixBpf name ∈ resolved.bpfMapPaths

/-- The names stay in the directory, and different ones end differently. -/
structure NamesSuffice (names : String → Prop) : Prop where
  stays : ∀ name, names name → StaysInDir name
  ends : ∀ name other, names name → names other → name ≠ other →
    lastComponent name ≠ lastComponent other

/-- The files of the maps that a task polls. -/
def mapFiles (task : ResolvedTask) : Finset (List String) := task.bpfMapPaths.image normalizePath

theorem exists_name_of_mem {actions : List Action} {task : ResolvedTask}
    (hresolved : ResolvedIn actions task) {path : String} (hpath : path ∈ task.bpfMapPaths) :
    ∃ name, MapNameIn actions name ∧ prefixBpf name = path := by
  obtain ⟨tid, config, env, hstart, hresolve, hok⟩ := hresolved
  obtain ⟨_, proto, _, _, htask⟩ := exists_resolveSingleTask hok
  obtain ⟨name, -, rfl⟩ := (mem_bpfMapPaths_iff htask path).1 hpath
  exact ⟨name, ⟨task, ⟨tid, config, env, hstart, hresolve, hok⟩, hpath⟩, rfl⟩

/-- Where the names suffice, comparing strings keeps the files of the tasks
apart that are running at the same time. -/
theorem mapFiles_disjoint {actions : List Action} (hnames : NamesSuffice (MapNameIn actions))
    {s : Daemon} (hvisits : machine.Visits actions s) {i j : Nat} {t u : ResolvedTask}
    (hij : i ≠ j) (ht : s.Admitted i t) (hu : s.Admitted j u) :
    Disjoint (mapFiles t) (mapFiles u) := by
  obtain ⟨pre, ⟨rest, rfl⟩, hrun⟩ := hvisits
  have hknown := known_of_run hrun
  have hdisjoint := (ownership_of_reachable ⟨pre, hrun⟩).disjoint i j t u hij ht hu
  have hmono : ∀ {task}, ResolvedIn pre task → ResolvedIn (pre ++ rest) task := by
    rintro task ⟨tid, config, env, hstart, hresolve, hok⟩
    exact ⟨tid, config, env, List.mem_append_left _ hstart, List.mem_append_left _ hresolve, hok⟩
  rw [Finset.disjoint_left]
  intro file hfile hfile'
  obtain ⟨path, hpath, rfl⟩ := Finset.mem_image.1 hfile
  obtain ⟨path', hpath', hsame⟩ := Finset.mem_image.1 hfile'
  obtain ⟨name, hname, rfl⟩ :=
    exists_name_of_mem (hmono (hknown.carries i t (.of_admitted ht))) hpath
  obtain ⟨name', hname', rfl⟩ :=
    exists_name_of_mem (hmono (hknown.carries j u (.of_admitted hu))) hpath'
  by_cases hne : name = name'
  · subst hne
    exact Finset.disjoint_left.1 hdisjoint hpath hpath'
  · refine hnames.ends name name' hname hname' hne ?_
    exact ((normalizePath_eq_iff (hnames.stays name' hname') (hnames.stays name hname)).1
      hsame).symm

end Daemon

/-- When the names of an accepted config denote files of the directory, when
different names of maps denote different files, and what this gives the tasks
of a run. -/
theorem configured_names_iff (name other : String) (actions : List Daemon.Action) :
    (∀ env configBytes config task resolved, env.parseFromBytes configBytes = .ok config →
      config.tasks = [task] → resolveConfig env configBytes = .ok resolved →
      (PathsInDir resolved ↔ ∀ name ∈ bpfNames task, StaysInDir name)) ∧
    (StaysInDir name → StaysInDir other →
      ((prefixBpf name ≠ prefixBpf other →
          normalizePath (prefixBpf name) ≠ normalizePath (prefixBpf other)) ↔
        (name ≠ other → lastComponent name ≠ lastComponent other))) ∧
    (Daemon.NamesSuffice (Daemon.MapNameIn actions) →
      ∀ s, Daemon.machine.Visits actions s → ∀ i j t u, i ≠ j → s.Admitted i t → s.Admitted j u →
        Disjoint (Daemon.mapFiles t) (Daemon.mapFiles u)) := by
  refine ⟨?_, ?_, ?_⟩
  · intro env configBytes config task resolved hparse htasks hresolve
    obtain ⟨config', task', hparse', htasks', htask⟩ := exists_resolveSingleTask hresolve
    rw [hparse] at hparse'
    cases hparse'
    rw [htasks] at htasks'
    cases htasks'
    exact pathsInDir_iff htask
  · intro hname hother
    rw [ne_eq, ne_eq, normalizePath_eq_iff hname hother, prefixBpf_injective.eq_iff]
  · intro hnames s hvisits i j t u hij ht hu
    exact Daemon.mapFiles_disjoint hnames hvisits hij ht hu

open Daemon in
/-- Two tasks that are running poll one map under two names, and an empty name
denotes the directory itself. -/
theorem one_map_under_two_names :
    (∃ s, machine.run (launch 0 ["map_Binder_output_buf"] ++ [.update 0] ++
        launch 1 ["./map_Binder_output_buf"] ++ [.update 1]) = some s ∧
      s.Admitted 0 (pollingTask ["map_Binder_output_buf"]) ∧
      s.Admitted 1 (pollingTask ["./map_Binder_output_buf"]) ∧
      normalizePath (prefixBpf "map_Binder_output_buf") =
        normalizePath (prefixBpf "./map_Binder_output_buf")) ∧
    (∀ bytes, resolveConfig (pollingEnv [""]) bytes = .ok (pollingTask [""])) ∧
      ¬ PathsInDir (pollingTask [""]) := by
  refine ⟨⟨_, run_update 1 _ (run_twoTasks _ _) rfl, rfl, rfl, ?_⟩,
    resolveConfig_pollingEnv [""], ?_⟩
  · decide
  · intro hpaths
    obtain ⟨file, hfile⟩ := hpaths.maps (prefixBpf "") (by simp [pollingTask])
    have hdir : normalizePath (prefixBpf "") = uprobestatsDir := by decide
    rw [hdir] at hfile
    simp [uprobestatsDir] at hfile

end UprobeStats
