/-
The two sources of a method's name.  Where the offsets API is used the
guardrail reads the class and the method, and elsewhere it reads the second
word of the signature, which goes on into the list of parameters.
-/
import UprobeStats.Guardrail
import UprobeStats.Lib.Tokens

namespace UprobeStats.Guardrail

open Tokens

/-- A signature as it is written in a config. -/
def methodSignature (returnType className methodName : String) (parameters : List String) :
    String :=
  returnType ++ " " ++ className ++ "." ++ methodName ++ "(" ++ ", ".intercalate parameters ++ ")"

/-- The probe names one method in both ways. -/
structure NamesMethod (probe : Proto.ProbeConfig) (returnType className methodName : String)
    (parameters : List String) : Prop where
  className_eq : probe.fullyQualifiedClassName = some className
  methodName_eq : probe.methodName = some methodName
  methodSignature_eq :
    probe.methodSignature = some (methodSignature returnType className methodName parameters)
  returnType_spaceless : ' ' ∉ returnType.toList
  className_spaceless : ' ' ∉ className.toList
  methodName_spaceless : ' ' ∉ methodName.toList

/-- The marks after which a name may go on beyond an entry of the list. -/
def marks : List Char := ['(', '.', '$']

theorem onAllowList_iff_covers (fullMethodName : String) :
    OnAllowList fullMethodName ↔
      ∃ entry ∈ allowedMethodPrefixes, Covers marks entry.toList fullMethodName.toList := by
  simp only [OnAllowList, Covers, marks, String.toList_inj]

/-- No entry has a parenthesis. -/
theorem not_mem_allowedMethodPrefixes :
    ∀ entry ∈ allowedMethodPrefixes, '(' ∉ entry.toList := by
  have hchars : ∀ chars : List Char, '(' ∉ chars → '(' ∉ (String.ofList chars).toList := by
    intro chars hmem
    rwa [String.toList_ofList]
  intro entry hentry
  simp only [allowedMethodPrefixes, List.mem_cons, List.not_mem_nil, or_false] at hentry
  rcases hentry with rfl | rfl | rfl | rfl | rfl | rfl | rfl <;> exact hchars _ (by decide)

/-- The list of parameters makes no difference. -/
theorem onAllowList_call_iff {token fullMethodName : String} {rest : List Char}
    (htoken : token.toList = fullMethodName.toList ++ '(' :: rest) :
    OnAllowList token ↔ OnAllowList fullMethodName := by
  simp only [onAllowList_iff_covers, htoken]
  refine exists_congr fun entry => and_congr_right fun hentry => ?_
  exact covers_append_cons_iff List.mem_cons_self (not_mem_allowedMethodPrefixes entry hentry)

/-- Both sources give a name, and the list treats the two names alike. -/
def SourcesAgree (probe : Proto.ProbeConfig) : Prop :=
  ∃ token fullMethodName, getFullMethodName probe false = .ok token ∧
    getFullMethodName probe true = .ok fullMethodName ∧
    allowedMethodPrefixes.any (matchesPrefix token) =
      allowedMethodPrefixes.any (matchesPrefix fullMethodName)

section Names

variable {probe : Proto.ProbeConfig} {returnType className methodName : String}
  {parameters : List String}

theorem NamesMethod.offsets_name
    (hnames : NamesMethod probe returnType className methodName parameters) :
    getFullMethodName probe true = .ok (className ++ "." ++ methodName) := by
  simp [getFullMethodName, hnames.className_eq, hnames.methodName_eq]

/-- The second word of the signature is the name and the beginning of the
parameters. -/
theorem NamesMethod.signature_name
    (hnames : NamesMethod probe returnType className methodName parameters) :
    ∃ token rest, getFullMethodName probe false = .ok token ∧
      token.toList = (className ++ "." ++ methodName).toList ++ '(' :: rest := by
  have hsignature : (methodSignature returnType className methodName parameters).toList =
      returnType.toList ++ ' ' :: ((className ++ "." ++ methodName).toList ++
        '(' :: (", ".intercalate parameters ++ ")").toList) := by
    simp [methodSignature]
  have hname : ∀ c ∈ (className ++ "." ++ methodName).toList, decide (c ≠ ' ') = true := by
    intro c hc
    rw [decide_eq_true_eq]
    rintro rfl
    simp only [String.toList_append, List.mem_append] at hc
    rcases hc with (hc | hc) | hc
    · exact hnames.className_spaceless hc
    · exact absurd hc (by decide)
    · exact hnames.methodName_spaceless hc
  simp only [getFullMethodName, hnames.methodSignature_eq, Bool.false_eq_true, ↓reduceIte,
    hsignature, second_splitOn hnames.returnType_spaceless]
  rw [List.takeWhile_append_of_pos hname, List.takeWhile_cons_of_pos (by decide)]
  exact ⟨_, _, rfl, String.toList_ofList⟩

theorem NamesMethod.sourcesAgree
    (hnames : NamesMethod probe returnType className methodName parameters) :
    SourcesAgree probe := by
  obtain ⟨token, rest, htoken, hlist⟩ := hnames.signature_name
  refine ⟨token, className ++ "." ++ methodName, htoken, hnames.offsets_name, ?_⟩
  rw [Bool.eq_iff_iff, any_matchesPrefix_iff, any_matchesPrefix_iff]
  exact onAllowList_call_iff hlist

end Names

/-- Where the sources agree at every probe, the loop does not depend on the
source. -/
theorem checkProbes_eq_of_sourcesAgree {probes : List Proto.ProbeConfig}
    (hagree : ∀ probe ∈ probes, SourcesAgree probe) :
    checkProbes false probes = checkProbes true probes := by
  induction probes with
  | nil => rfl
  | cons probe rest ih =>
      obtain ⟨token, fullMethodName, htoken, hfull, hany⟩ := hagree probe List.mem_cons_self
      have hrest := ih fun other hmem => hagree other (List.mem_cons_of_mem probe hmem)
      simp only [checkProbes, htoken, hfull, hany, hrest]

/-- The guardrail's verdict does not depend on which source of the names it
reads, and neither does what the allow list says of any one probe. -/
theorem isAllowed_sources (config : Proto.UprobestatsConfig)
    (hnames : ∀ task ∈ config.tasks, ∀ probe ∈ task.probeConfigs,
      ∃ returnType className methodName parameters,
        NamesMethod probe returnType className methodName parameters) :
    isAllowed config true false = isAllowed config true true ∧
      ∀ task ∈ config.tasks, ∀ probe ∈ task.probeConfigs, SourcesAgree probe := by
  have hagree : ∀ task ∈ config.tasks, ∀ probe ∈ task.probeConfigs, SourcesAgree probe := by
    intro task htask probe hprobe
    obtain ⟨returnType, className, methodName, parameters, hprobe⟩ :=
      hnames task htask probe hprobe
    exact hprobe.sourcesAgree
  refine ⟨?_, hagree⟩
  rw [isAllowed_eq_verdict, isAllowed_eq_verdict]
  congr 1
  apply checkProbes_eq_of_sourcesAgree
  intro probe hprobe
  obtain ⟨task, htask, hprobe⟩ := mem_allProbes.1 hprobe
  exact hagree task htask probe hprobe

/-- A method of a class on the list, and one of a class whose name goes on
where the list has a name. -/
def oomAdjusterConfig : Proto.UprobestatsConfig where
  tasks := [{ probeConfigs := [{
      bpfName := some "prog_some_bpf"
      methodSignature := some
        "void com.android.server.am.OomAdjuster.setUidTempAllowlistStateLSP(int, boolean)"
      fullyQualifiedClassName := some "com.android.server.am.OomAdjuster"
      methodName := some "setUidTempAllowlistStateLSP" }] }, { probeConfigs := [{
      bpfName := some "prog_some_bpf"
      methodSignature := some "void com.android.server.am.OomAdjusterWithSomeSuffix.doWork()"
      fullyQualifiedClassName := some "com.android.server.am.OomAdjusterWithSomeSuffix"
      methodName := some "doWork" }] }]

theorem isAllowed_oomAdjusterConfig :
    isAllowed oomAdjusterConfig true false = isAllowed oomAdjusterConfig true true ∧
      ∀ task ∈ oomAdjusterConfig.tasks, ∀ probe ∈ task.probeConfigs, SourcesAgree probe := by
  apply isAllowed_sources
  intro task htask probe hprobe
  simp only [oomAdjusterConfig, List.mem_cons, List.not_mem_nil, or_false] at htask
  rcases htask with rfl | rfl
  · rw [List.mem_singleton.1 hprobe]
    exact ⟨"void", "com.android.server.am.OomAdjuster", "setUidTempAllowlistStateLSP",
      ["int", "boolean"], rfl, rfl, rfl, by decide, by decide, by decide⟩
  · rw [List.mem_singleton.1 hprobe]
    exact ⟨"void", "com.android.server.am.OomAdjusterWithSomeSuffix", "doWork", [],
      rfl, rfl, rfl, by decide, by decide, by decide⟩

end UprobeStats.Guardrail
