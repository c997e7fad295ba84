/-
The allow list of code that may be instrumented on user devices.  The two
nested loops of `is_allowed` leave early in three ways, and the early accept
for the accessibility program also skips every probe that was still to come.
-/
import UprobeStats.Config
import UprobeStats.Error

namespace UprobeStats

/-- `str::starts_with` with a string pattern. -/
def startsWith (text pat : String) : Bool :=
  pat.toList.isPrefixOf text.toList

theorem startsWith_iff (text pat : String) :
    startsWith text pat = true ↔ pat.toList <+: text.toList := by
  simp [startsWith]

namespace Guardrail

def allowedMethodPrefixes : List String :=
  ["com.android.server.am.ActivityManagerService$LocalService.updateDeviceIdleTempAllowlist",
    "com.android.server.am.CachedAppOptimizer",
    "com.android.server.am.OomAdjuster",
    "com.android.server.am.OomAdjusterModernImpl",
    "com.android.server.pm.PackageManagerService$IPackageManagerImpl.setComponentEnabledSetting",
    "com.android.server.am.ActiveServices.bindServiceLocked",
    "com.android.server.pm.permission.PermissionManagerService.grantRuntimePermission"]

def progBinderA11yServiceConnection : String :=
  "prog_Accessibility_uprobe_dispatch_gesture"

/-- The method a probe names: class and method when the offsets API is used,
else the second space-separated part of the signature. -/
def getFullMethodName (probe : Proto.ProbeConfig) (offsetsApiEnabled : Bool) :
    Except AnyError String :=
  if offsetsApiEnabled then
    match probe.fullyQualifiedClassName with
    | none => .error (.message "Fully qualified class name is empty")
    | some fqcn =>
        match probe.methodName with
        | none => .error (.message "Method name is empty")
        | some methodName => .ok (fqcn ++ "." ++ methodName)
  else
    match probe.methodSignature with
    | none => .error (.message "Method signature is empty")
    | some methodSignature =>
        match (methodSignature.toList.splitOn ' ')[1]? with
        | none => .error (.message "Method signature is invalid")
        | some part => .ok (String.ofList part)

/-- The four forms in which a method name matches an allow-list entry. -/
def matchesPrefix (fullMethodName entry : String) : Bool :=
  fullMethodName == entry
    || startsWith fullMethodName (entry ++ "(")
    || startsWith fullMethodName (entry ++ ".")
    || startsWith fullMethodName (entry ++ "$")

/-- The loop over one task's probes.  `some verdict` is a `return` from
inside the loop and `none` falls through to the next task. -/
def checkProbes (offsetsApiEnabled : Bool) :
    List Proto.ProbeConfig → Except AnyError (Option Bool)
  | [] => .ok none
  | probe :: rest =>
      match probe.bpfName with
      | none => .error (.message "BPF program name is empty")
      | some bpfProgramName =>
          if bpfProgramName = progBinderA11yServiceConnection then
            .ok (some true)
          else
            match getFullMethodName probe offsetsApiEnabled with
            | .error e => .error e
            | .ok fullMethodName =>
                if allowedMethodPrefixes.any (matchesPrefix fullMethodName) then
                  checkProbes offsetsApiEnabled rest
                else .ok (some false)

/-- The loop over the tasks. -/
def checkTasks (offsetsApiEnabled : Bool) :
    List Proto.Task → Except AnyError Bool
  | [] => .ok true
  | task :: rest =>
      match checkProbes offsetsApiEnabled task.probeConfigs with
      | .error e => .error e
      | .ok (some verdict) => .ok verdict
      | .ok none => checkTasks offsetsApiEnabled rest

/-- `is_allowed`: whether the config may be instrumented on this device. -/
def isAllowed (config : Proto.UprobestatsConfig)
    (isUserBuild offsetsApiEnabled : Bool) : Except AnyError Bool :=
  if !isUserBuild then .ok true
  else checkTasks offsetsApiEnabled config.tasks

/-- A method name equals an allow-list entry or extends it past one of the
three separators. -/
def OnAllowList (fullMethodName : String) : Prop :=
  ∃ entry ∈ allowedMethodPrefixes, fullMethodName = entry ∨
    ∃ separator ∈ ['(', '.', '$'], ∃ rest : List Char,
      fullMethodName.toList = entry.toList ++ separator :: rest

/-- The probe runs the accessibility program. -/
def IsA11yProbe (probe : Proto.ProbeConfig) : Prop :=
  probe.bpfName = some progBinderA11yServiceConnection

/-- A probe is permitted on its own account. -/
def Permitted (offsetsApiEnabled : Bool) (probe : Proto.ProbeConfig) : Prop :=
  ∃ bpfName, probe.bpfName = some bpfName ∧
    (bpfName = progBinderA11yServiceConnection ∨
      ∃ fullMethodName,
        getFullMethodName probe offsetsApiEnabled = .ok fullMethodName ∧
          OnAllowList fullMethodName)

/-- All probes of a config in the order the two loops visit them. -/
def allProbes (config : Proto.UprobestatsConfig) : List Proto.ProbeConfig :=
  config.tasks.flatMap Proto.Task.probeConfigs

theorem mem_allProbes {config : Proto.UprobestatsConfig}
    {probe : Proto.ProbeConfig} :
    probe ∈ allProbes config ↔
      ∃ task ∈ config.tasks, probe ∈ task.probeConfigs := by
  simp [allProbes]

theorem startsWith_append_singleton_iff (text entry : String) (separator : Char) :
    startsWith text (entry ++ String.singleton separator) = true ↔
      ∃ rest : List Char,
        text.toList = entry.toList ++ separator :: rest := by
  rw [startsWith_iff]
  simp only [String.toList_append, String.toList_singleton]
  constructor
  · rintro ⟨rest, hrest⟩
    exact ⟨rest, by simpa using hrest.symm⟩
  · rintro ⟨rest, hrest⟩
    exact ⟨rest, by simp [hrest]⟩

theorem matchesPrefix_iff (fullMethodName entry : String) :
    matchesPrefix fullMethodName entry = true ↔
      fullMethodName = entry ∨
        ∃ separator ∈ ['(', '.', '$'], ∃ rest : List Char,
          fullMethodName.toList = entry.toList ++ separator :: rest := by
  have hparen := startsWith_append_singleton_iff fullMethodName entry '('
  have hdot := startsWith_append_singleton_iff fullMethodName entry '.'
  have hdollar := startsWith_append_singleton_iff fullMethodName entry '$'
  simp only [matchesPrefix, Bool.or_eq_true, beq_iff_eq, or_assoc]
  change (_ ∨ startsWith fullMethodName (entry ++ String.singleton '(') = true ∨
    startsWith fullMethodName (entry ++ String.singleton '.') = true ∨
    startsWith fullMethodName (entry ++ String.singleton '$') = true) ↔ _
  rw [hparen, hdot, hdollar]
  simp

theorem any_matchesPrefix_iff (fullMethodName : String) :
    allowedMethodPrefixes.any (matchesPrefix fullMethodName) = true ↔
      OnAllowList fullMethodName := by
  simp only [List.any_eq_true, matchesPrefix_iff, OnAllowList]

theorem IsA11yProbe.permitted {probe : Proto.ProbeConfig}
    (ha11y : IsA11yProbe probe) (offsetsApiEnabled : Bool) :
    Permitted offsetsApiEnabled probe :=
  ⟨progBinderA11yServiceConnection, ha11y, Or.inl rfl⟩

/-! One lemma for each way the body of the inner loop can end. -/

theorem checkProbes_cons_of_a11y (offsetsApiEnabled : Bool)
    {probe : Proto.ProbeConfig} (rest : List Proto.ProbeConfig)
    (ha11y : IsA11yProbe probe) :
    checkProbes offsetsApiEnabled (probe :: rest) = .ok (some true) := by
  rw [IsA11yProbe] at ha11y
  simp [checkProbes, ha11y]

theorem checkProbes_cons_of_permitted (offsetsApiEnabled : Bool)
    {probe : Proto.ProbeConfig} (rest : List Proto.ProbeConfig)
    (hnot : ¬ IsA11yProbe probe) (hpermitted : Permitted offsetsApiEnabled probe) :
    checkProbes offsetsApiEnabled (probe :: rest) =
      checkProbes offsetsApiEnabled rest := by
  obtain ⟨bpfName, hname, hcase⟩ := hpermitted
  have hne : bpfName ≠ progBinderA11yServiceConnection := by
    intro heq
    exact hnot (by rw [IsA11yProbe, hname, heq])
  rcases hcase with heq | ⟨fullMethodName, hfull, hlist⟩
  · exact absurd heq hne
  · have hany := (any_matchesPrefix_iff fullMethodName).2 hlist
    simp [checkProbes, hname, hne, hfull, hany]

theorem checkProbes_cons_of_not_permitted (offsetsApiEnabled : Bool)
    {probe : Proto.ProbeConfig} (hnot : ¬ Permitted offsetsApiEnabled probe) :
    (∃ e, ∀ rest, checkProbes offsetsApiEnabled (probe :: rest) = .error e) ∨
      ∀ rest, checkProbes offsetsApiEnabled (probe :: rest) = .ok (some false) := by
  cases hname : probe.bpfName with
  | none =>
      exact Or.inl ⟨.message "BPF program name is empty", by simp [checkProbes, hname]⟩
  | some bpfName =>
      have hne : bpfName ≠ progBinderA11yServiceConnection := by
        intro heq
        exact hnot ⟨bpfName, hname, Or.inl heq⟩
      cases hfull : getFullMethodName probe offsetsApiEnabled with
      | error e => exact Or.inl ⟨e, by simp [checkProbes, hname, hne, hfull]⟩
      | ok fullMethodName =>
          have hany : ¬ allowedMethodPrefixes.any (matchesPrefix fullMethodName) = true := by
            rw [any_matchesPrefix_iff]
            intro hlist
            exact hnot ⟨bpfName, hname, Or.inr ⟨fullMethodName, hfull, hlist⟩⟩
          exact Or.inr (by simp [checkProbes, hname, hne, hfull, hany])

/-- What the outer loop makes of the inner one: falling through every task
accepts. -/
def verdict : Except AnyError (Option Bool) → Except AnyError Bool
  | .error e => .error e
  | .ok (some answer) => .ok answer
  | .ok none => .ok true

theorem checkProbes_append (offsetsApiEnabled : Bool)
    (first second : List Proto.ProbeConfig) :
    checkProbes offsetsApiEnabled (first ++ second) =
      match checkProbes offsetsApiEnabled first with
      | .error e => .error e
      | .ok (some answer) => .ok (some answer)
      | .ok none => checkProbes offsetsApiEnabled second := by
  induction first with
  | nil => rfl
  | cons probe rest ih =>
      by_cases ha11y : IsA11yProbe probe
      · simp only [List.cons_append, checkProbes_cons_of_a11y _ _ ha11y]
      · by_cases hpermitted : Permitted offsetsApiEnabled probe
        · simp only [List.cons_append,
            checkProbes_cons_of_permitted _ _ ha11y hpermitted, ih]
        · rcases checkProbes_cons_of_not_permitted offsetsApiEnabled hpermitted with
            ⟨e, herror⟩ | hfalse
          · simp only [List.cons_append, herror]
          · simp only [List.cons_append, hfalse]

/-- The two nested loops are one loop over all probes. -/
theorem checkTasks_eq_verdict (offsetsApiEnabled : Bool) (tasks : List Proto.Task) :
    checkTasks offsetsApiEnabled tasks =
      verdict (checkProbes offsetsApiEnabled
        (tasks.flatMap Proto.Task.probeConfigs)) := by
  induction tasks with
  | nil => rfl
  | cons task rest ih =>
      simp only [checkTasks, List.flatMap_cons, checkProbes_append, ih]
      cases checkProbes offsetsApiEnabled task.probeConfigs with
      | error e => rfl
      | ok answer => cases answer <;> rfl

theorem isAllowed_eq_verdict (config : Proto.UprobestatsConfig)
    (offsetsApiEnabled : Bool) :
    isAllowed config true offsetsApiEnabled =
      verdict (checkProbes offsetsApiEnabled (allProbes config)) :=
  checkTasks_eq_verdict offsetsApiEnabled config.tasks

/-- The probes that decide the verdict: everything before the first
accessibility probe has to be permitted, and what follows it is not read. -/
theorem verdict_checkProbes_eq_ok_true_iff (offsetsApiEnabled : Bool)
    (probes : List Proto.ProbeConfig) :
    verdict (checkProbes offsetsApiEnabled probes) = .ok true ↔
      (∀ probe ∈ probes, Permitted offsetsApiEnabled probe) ∨
        ∃ before probe after, probes = before ++ probe :: after ∧
          IsA11yProbe probe ∧ ∀ other ∈ before, Permitted offsetsApiEnabled other := by
  induction probes with
  | nil => simp [checkProbes, verdict]
  | cons head tail ih =>
      by_cases ha11y : IsA11yProbe head
      · rw [checkProbes_cons_of_a11y _ _ ha11y]
        simp only [verdict, true_iff]
        exact Or.inr ⟨[], head, tail, rfl, ha11y, by simp⟩
      by_cases hpermitted : Permitted offsetsApiEnabled head
      · rw [checkProbes_cons_of_permitted _ _ ha11y hpermitted, ih]
        constructor
        · rintro (hall | ⟨before, probe, after, rfl, hprobe, hbefore⟩)
          · exact Or.inl (by simpa [hpermitted] using hall)
          · exact Or.inr ⟨head :: before, probe, after, rfl, hprobe,
              by simpa [hpermitted] using hbefore⟩
        · rintro (hall | ⟨before, probe, after, heq, hprobe, hbefore⟩)
          · exact Or.inl fun probe hmem => hall probe (List.mem_cons_of_mem head hmem)
          · cases before with
            | nil =>
                simp only [List.nil_append, List.cons.injEq] at heq
                exact absurd (heq.1 ▸ hprobe) ha11y
            | cons first before =>
                simp only [List.cons_append, List.cons.injEq] at heq
                exact Or.inr ⟨before, probe, after, heq.2, hprobe, fun other hmem =>
                  hbefore other (List.mem_cons_of_mem first hmem)⟩
      · have hreject : verdict (checkProbes offsetsApiEnabled (head :: tail)) ≠ .ok true := by
          rcases checkProbes_cons_of_not_permitted offsetsApiEnabled hpermitted with
            ⟨e, herror⟩ | hfalse
          · simp [herror, verdict]
          · simp [hfalse, verdict]
        constructor
        · intro haccept
          exact absurd haccept hreject
        · rintro (hall | ⟨before, probe, after, heq, hprobe, hbefore⟩)
          · exact absurd (hall head List.mem_cons_self) hpermitted
          · cases before with
            | nil =>
                simp only [List.nil_append, List.cons.injEq] at heq
                exact absurd (heq.1 ▸ hprobe) ha11y
            | cons first before =>
                simp only [List.cons_append, List.cons.injEq] at heq
                exact absurd (heq.1 ▸ hbefore first List.mem_cons_self) hpermitted

/-- Once the early accept of an accessibility probe is reached, nothing that
comes after it would have been refused. -/
def NothingRefusedAfterA11y (offsetsApiEnabled : Bool)
    (probes : List Proto.ProbeConfig) : Prop :=
  ∀ before probe after, probes = before ++ probe :: after → IsA11yProbe probe →
    (∀ other ∈ before, Permitted offsetsApiEnabled other) →
      ∀ other ∈ after, Permitted offsetsApiEnabled other

/-- On a user build the guardrail judges a config probe by probe exactly when
its early accept skips no probe that would have been refused. -/
theorem isAllowed_perProbe_iff (config : Proto.UprobestatsConfig)
    (offsetsApiEnabled : Bool) :
    (isAllowed config true offsetsApiEnabled = .ok true ↔
        ∀ task ∈ config.tasks, ∀ probe ∈ task.probeConfigs,
          Permitted offsetsApiEnabled probe) ↔
      NothingRefusedAfterA11y offsetsApiEnabled (allProbes config) := by
  have hall : (∀ task ∈ config.tasks, ∀ probe ∈ task.probeConfigs,
      Permitted offsetsApiEnabled probe) ↔
        ∀ probe ∈ allProbes config, Permitted offsetsApiEnabled probe := by
    constructor
    · intro h probe hmem
      obtain ⟨task, htask, hprobe⟩ := mem_allProbes.1 hmem
      exact h task htask probe hprobe
    · intro h task htask probe hprobe
      exact h probe (mem_allProbes.2 ⟨task, htask, hprobe⟩)
  rw [hall, isAllowed_eq_verdict, verdict_checkProbes_eq_ok_true_iff]
  constructor
  · intro hiff before probe after heq hprobe hbefore other hother
    have hevery := hiff.1 (Or.inr ⟨before, probe, after, heq, hprobe, hbefore⟩)
    exact hevery other (by simp [heq, hother])
  · intro hskip
    refine ⟨?_, Or.inl⟩
    rintro (hevery | ⟨before, probe, after, heq, hprobe, hbefore⟩)
    · exact hevery
    · intro other hmem
      rw [heq, List.mem_append, List.mem_cons] at hmem
      rcases hmem with hmem | rfl | hmem
      · exact hbefore other hmem
      · exact hprobe.permitted offsetsApiEnabled
      · exact hskip before probe after heq hprobe hbefore other hmem

theorem allowedMethodPrefixes_head? :
    ∀ entry ∈ allowedMethodPrefixes, entry.toList.head? = some 'c' := by
  intro entry hentry
  simp only [allowedMethodPrefixes, List.mem_cons, List.not_mem_nil, or_false] at hentry
  rcases hentry with rfl | rfl | rfl | rfl | rfl | rfl | rfl <;>
    exact congrArg List.head? String.toList_ofList

theorem OnAllowList.head? {fullMethodName : String} (hlist : OnAllowList fullMethodName) :
    fullMethodName.toList.head? = some 'c' := by
  obtain ⟨entry, hentry, rfl | ⟨separator, _, rest, heq⟩⟩ := hlist
  · exact allowedMethodPrefixes_head? fullMethodName hentry
  · rw [heq, List.head?_append, allowedMethodPrefixes_head? entry hentry]
    rfl

/-- A probe of an application class, which no entry of the list covers. -/
def activityProbe : Proto.ProbeConfig where
  bpfName := some "prog_some_bpf"
  fullyQualifiedClassName := some "android.app.Activity"
  methodName := some "onCreate"

/-- The same probe behind an accessibility probe. -/
def skippedProbeConfig : Proto.UprobestatsConfig where
  tasks := [{ probeConfigs :=
    [{ bpfName := some progBinderA11yServiceConnection }, activityProbe] }]

theorem not_permitted_activityProbe : ¬ Permitted true activityProbe := by
  rintro ⟨bpfName, hname, heq | ⟨fullMethodName, hfull, hlist⟩⟩
  · simp only [activityProbe, Option.some.injEq] at hname
    exact absurd (hname.trans heq) (by decide)
  · have hclass : "android.app.Activity".toList = _ := String.toList_ofList
    simp only [getFullMethodName, activityProbe, ↓reduceIte, Except.ok.injEq] at hfull
    have hhead := hlist.head?
    rw [← hfull, String.toList_append, String.toList_append, hclass] at hhead
    exact absurd hhead (by simp)

/-- The guardrail accepts the config although its second probe is refused on
its own account. -/
theorem isAllowed_skippedProbeConfig :
    ¬ (isAllowed skippedProbeConfig true true = .ok true ↔
        ∀ task ∈ skippedProbeConfig.tasks, ∀ probe ∈ task.probeConfigs,
          Permitted true probe) := by
  intro hiff
  have haccept : isAllowed skippedProbeConfig true true = .ok true := rfl
  apply not_permitted_activityProbe
  exact hiff.1 haccept _ List.mem_cons_self activityProbe (by simp)

end Guardrail

end UprobeStats
