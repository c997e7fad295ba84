/-
Which flag decides whether a BPF program or map may be used.  The rules are
tests for parts of the name, one after the other, and a part of one of them can
contain the part that an earlier rule looks for.
-/
import UprobeStats.Daemon
import UprobeStats.Lib.Rules

namespace UprobeStats

open Rules

/-- The rules of `is_bpf_file_enabled`, one for each pattern. -/
inductive BpfRule where
  | disruptiveApp
  | bitmapCreationForSnapshot
  | applyFreeFunction
  | bitmapAllocation
  | binder
  | createScaledBitmap
  | accessibility
deriving DecidableEq, Repr

namespace BpfRule

def pattern : BpfRule → String
  | disruptiveApp => "DisruptiveApp"
  | bitmapCreationForSnapshot => "prog_BitmapAllocation_uprobe_bitmap_creation_for_snapshot"
  | applyFreeFunction => "prog_BitmapAllocation_uprobe_apply_free_function"
  | bitmapAllocation => "BitmapAllocation"
  | binder => "Binder"
  | createScaledBitmap => "prog_BitmapAllocation_uprobe_create_scaled_bitmap"
  | accessibility => "Accessibility"

/-- What the rule says. -/
def value (flags : Flags) : BpfRule → Bool
  | disruptiveApp => flags.uprobestatsMonitorDisruptiveAppActivities
  | bitmapCreationForSnapshot => flags.enableBitmapSnapshot
  | applyFreeFunction => flags.enableBitmapSnapshot
  | bitmapAllocation => flags.enableBitmapInstrumentation || flags.enableBitmapSnapshot
  | binder => flags.enableBinderTransaction
  | createScaledBitmap => flags.enableBitmapScaledInstrumentation
  | accessibility => flags.a11yRuntimePermission

/-- The pattern occurs in the name. -/
def occursIn (rule : BpfRule) (name : String) : Bool := containsText name rule.pattern

/-- The pattern is longer than that of the other rule, and contains it. -/
def moreSpecific (rule other : BpfRule) : Bool :=
  decide (rule ≠ other) && containsText rule.pattern other.pattern

/-- The order in which the rules are tried. -/
def chain : List BpfRule :=
  [disruptiveApp, bitmapCreationForSnapshot, applyFreeFunction, bitmapAllocation, binder,
    createScaledBitmap, accessibility]

end BpfRule

open BpfRule

/-- The rule that decides about a name. -/
def decidingRule (name : String) : Option BpfRule := decider occursIn chain name

/-- The rule for the most specific pattern that occurs in a name; of patterns
that do not contain each other, the earlier one counts. -/
def specificRule (name : String) : Option BpfRule := mostSpecific occursIn moreSpecific chain name

/-- What a rule says, or that nothing speaks against the name. -/
def enabledBy (flags : Flags) : Option BpfRule → Bool
  | some rule => rule.value flags
  | none => true

/-- The chain of tests is the first rule that applies. -/
theorem isBpfFileEnabled_eq (flags : Flags) (name : String) :
    isBpfFileEnabled flags name = enabledBy flags (decidingRule name) := by
  simp only [isBpfFileEnabled, decidingRule, decider, chain, List.find?_cons, List.find?_nil,
    occursIn, pattern]
  -- along the chain, one test after the other
  cases containsText name "DisruptiveApp" with
  | true => rfl
  | false =>
  cases containsText name "prog_BitmapAllocation_uprobe_bitmap_creation_for_snapshot" with
  | true => rfl
  | false =>
  cases containsText name "prog_BitmapAllocation_uprobe_apply_free_function" with
  | true => rfl
  | false =>
  cases containsText name "BitmapAllocation" with
  | true => rfl
  | false =>
  cases containsText name "Binder" with
  | true => rfl
  | false =>
  cases containsText name "prog_BitmapAllocation_uprobe_create_scaled_bitmap" with
  | true => rfl
  | false =>
  cases containsText name "Accessibility" with
  | true => rfl
  | false => rfl

theorem occursIn_of_containsText {rule other : BpfRule}
    (hcontains : containsText rule.pattern other.pattern = true) (name : String)
    (hoccurs : rule.occursIn name) : other.occursIn name := by
  unfold occursIn containsText at *
  rw [decide_eq_true_eq] at *
  exact hcontains.trans hoccurs

/-- Only one rule is less specific than others. -/
theorem moreSpecific_iff (rule other : BpfRule) :
    moreSpecific rule other = true ↔ other = bitmapAllocation ∧
      (rule = bitmapCreationForSnapshot ∨ rule = applyFreeFunction ∨
        rule = createScaledBitmap) := by
  cases rule <;> cases other <;> decide

/-! What decides about a name, and what should. -/

section Rule

variable {name : String} {rule : BpfRule}

/-- A rule that applies is among the most specific ones, unless it is the one
that is less specific than others. -/
theorem isSpecific_iff :
    IsSpecific occursIn moreSpecific chain name rule ↔
      rule.occursIn name ∧ (rule = bitmapAllocation →
        ¬ bitmapCreationForSnapshot.occursIn name ∧ ¬ applyFreeFunction.occursIn name ∧
          ¬ createScaledBitmap.occursIn name) := by
  unfold IsSpecific
  refine and_congr_right fun _ => ?_
  simp only [moreSpecific_iff, not_and]
  constructor
  · rintro hnone rfl
    exact ⟨fun h => hnone _ (by decide) h rfl (.inl rfl),
      fun h => hnone _ (by decide) h rfl (.inr (.inl rfl)),
      fun h => hnone _ (by decide) h rfl (.inr (.inr rfl))⟩
  · intro hnone other _ hoccurs heq
    obtain ⟨hcreation, hfree, hscaled⟩ := hnone heq
    rintro (rfl | rfl | rfl)
    · exact hcreation hoccurs
    · exact hfree hoccurs
    · exact hscaled hoccurs

/-- The pattern of the general rule occurs wherever one of its special cases
does. -/
theorem bitmapAllocation_occursIn (hscaled : createScaledBitmap.occursIn name) :
    bitmapAllocation.occursIn name :=
  occursIn_of_containsText (by decide) name hscaled

end Rule

/-- The rule for scaled bitmaps never decides, and every other rule does for
its own pattern. -/
theorem decides_iff (rule : BpfRule) :
    (∃ name, decidingRule name = some rule) ↔ rule ≠ createScaledBitmap := by
  constructor
  · rintro ⟨name, hdecides⟩ rfl
    have hsplit : chain = [disruptiveApp, bitmapCreationForSnapshot, applyFreeFunction,
      bitmapAllocation, binder] ++ createScaledBitmap :: [accessibility] := rfl
    exact decider_ne_of_shadowed hsplit (by decide) (by decide : bitmapAllocation ∈ _)
      (fun _ => bitmapAllocation_occursIn) name hdecides
  · intro hne
    refine ⟨rule.pattern, ?_⟩
    cases rule with
    | createScaledBitmap => exact absurd rfl hne
    | disruptiveApp => decide
    | bitmapCreationForSnapshot => decide
    | applyFreeFunction => decide
    | bitmapAllocation => decide
    | binder => decide
    | accessibility => decide

/-- The name is one of a program for scaled bitmaps. -/
def IsScaled (name : String) : Prop :=
  createScaledBitmap.occursIn name ∧ ¬ disruptiveApp.occursIn name

/-- A name is gated by the rule that is specific to it, and scaled bitmaps in
any case by their own flag. -/
structure IsGated (flags : Flags) (name : String) : Prop where
  specific : isBpfFileEnabled flags name = enabledBy flags (specificRule name)
  scaled : IsScaled name → isBpfFileEnabled flags name →
    flags.enableBitmapScaledInstrumentation

/-- The flags agree where the wrong rule decides. -/
def FlagsAgree (flags : Flags) (name : String) : Prop :=
  if bitmapCreationForSnapshot.occursIn name ∨ applyFreeFunction.occursIn name then
    flags.enableBitmapSnapshot → flags.enableBitmapScaledInstrumentation
  else if binder.occursIn name then
    (flags.enableBitmapInstrumentation || flags.enableBitmapSnapshot) =
        flags.enableBinderTransaction ∧
      (flags.enableBinderTransaction → flags.enableBitmapScaledInstrumentation)
  else
    (flags.enableBitmapInstrumentation || flags.enableBitmapSnapshot) =
      flags.enableBitmapScaledInstrumentation

/-! The rule that decides, by what occurs in the name. -/

section Cases

variable {name : String} {flags : Flags}

/-- The snapshot programs come next, and have one flag. -/
theorem decidingRule_of_snapshot (hdisruptive : ¬ disruptiveApp.occursIn name)
    (hsnapshot : bitmapCreationForSnapshot.occursIn name ∨ applyFreeFunction.occursIn name) :
    enabledBy flags (decidingRule name) = flags.enableBitmapSnapshot := by
  by_cases hcreation : bitmapCreationForSnapshot.occursIn name
  · simp [decidingRule, decider, chain, hdisruptive, hcreation, enabledBy, value]
  · have hfree := hsnapshot.resolve_left hcreation
    simp [decidingRule, decider, chain, hdisruptive, hcreation, hfree, enabledBy, value]

theorem decidingRule_eq_bitmapAllocation_iff :
    decidingRule name = some bitmapAllocation ↔
      ¬ disruptiveApp.occursIn name ∧ ¬ bitmapCreationForSnapshot.occursIn name ∧
        ¬ applyFreeFunction.occursIn name ∧ bitmapAllocation.occursIn name := by
  have hsplit : chain = [disruptiveApp, bitmapCreationForSnapshot, applyFreeFunction] ++
    bitmapAllocation :: [binder, createScaledBitmap, accessibility] := rfl
  rw [decidingRule, decider_eq_some_iff hsplit (by decide)]
  simp only [List.forall_mem_cons, List.not_mem_nil, false_implies, implies_true, and_true,
    and_assoc]

/-- Unless scaled bitmaps are in the shadow, the rule that decides is the one
that should. -/
theorem specificRule_eq_decidingRule (hnot : decidingRule name = some bitmapAllocation →
      ¬ createScaledBitmap.occursIn name) : specificRule name = decidingRule name := by
  cases hdecides : decidingRule name with
  | none => exact mostSpecific_of_none hdecides
  | some rule =>
      refine mostSpecific_of_decider hdecides (isSpecific_iff.2 ⟨applies_of_decider hdecides, ?_⟩)
      rintro rfl
      obtain ⟨-, hcreation, hfree, -⟩ := decidingRule_eq_bitmapAllocation_iff.1 hdecides
      exact ⟨hcreation, hfree, hnot hdecides⟩

/-- In the shadow, the rule for binder transactions is the first of the most
specific ones, if it applies. -/
theorem specificRule_of_shadowed (hdecides : decidingRule name = some bitmapAllocation)
    (hscaled : createScaledBitmap.occursIn name) :
    specificRule name = some (if binder.occursIn name then binder else createScaledBitmap) := by
  obtain ⟨hdisruptive, hcreation, hfree, -⟩ := decidingRule_eq_bitmapAllocation_iff.1 hdecides
  have hgeneral : ¬ IsSpecific occursIn moreSpecific chain name bitmapAllocation := by
    intro hspecific
    exact ((isSpecific_iff.1 hspecific).2 rfl).2.2 hscaled
  have hnot : ∀ rule, ¬ rule.occursIn name → ¬ IsSpecific occursIn moreSpecific chain name rule :=
    fun rule hrule hspecific => hrule hspecific.1
  by_cases hbinder : binder.occursIn name
  · rw [if_pos hbinder]
    have hsplit : chain = [disruptiveApp, bitmapCreationForSnapshot, applyFreeFunction,
      bitmapAllocation] ++ binder :: [createScaledBitmap, accessibility] := rfl
    refine mostSpecific_eq_some hsplit (isSpecific_iff.2 ⟨hbinder, nofun⟩) ?_
    simp only [List.forall_mem_cons]
    exact ⟨hnot _ hdisruptive, hnot _ hcreation, hnot _ hfree, hgeneral, by simp⟩
  · rw [if_neg hbinder]
    have hsplit : chain = [disruptiveApp, bitmapCreationForSnapshot, applyFreeFunction,
      bitmapAllocation, binder] ++ createScaledBitmap :: [accessibility] := rfl
    refine mostSpecific_eq_some hsplit (isSpecific_iff.2 ⟨hscaled, nofun⟩) ?_
    simp only [List.forall_mem_cons]
    exact ⟨hnot _ hdisruptive, hnot _ hcreation, hnot _ hfree, hgeneral, hnot _ hbinder, by simp⟩

/-- A snapshot program comes before the general rule, and has a flag of its own. -/
theorem isGated_of_snapshot_iff (hscaled : IsScaled name)
    (hsnapshot : bitmapCreationForSnapshot.occursIn name ∨ applyFreeFunction.occursIn name) :
    IsGated flags name ↔
      (flags.enableBitmapSnapshot → flags.enableBitmapScaledInstrumentation) := by
  have hdecides : decidingRule name ≠ some bitmapAllocation := by
    intro hdecides
    obtain ⟨-, hcreation, hfree, -⟩ := decidingRule_eq_bitmapAllocation_iff.1 hdecides
    exact hsnapshot.elim hcreation hfree
  have henabled : isBpfFileEnabled flags name = flags.enableBitmapSnapshot := by
    rw [isBpfFileEnabled_eq, decidingRule_of_snapshot hscaled.2 hsnapshot]
  constructor
  · intro hgated
    exact henabled ▸ hgated.scaled hscaled
  · intro hflags
    refine ⟨?_, fun _ => henabled ▸ hflags⟩
    rw [isBpfFileEnabled_eq, specificRule_eq_decidingRule (absurd · hdecides)]

/-- In the shadow the flags of the general rule decide instead of the one that
should. -/
theorem isGated_of_shadowed_iff (hscaled : IsScaled name)
    (hdecides : decidingRule name = some bitmapAllocation) :
    IsGated flags name ↔
      if binder.occursIn name then
        (flags.enableBitmapInstrumentation || flags.enableBitmapSnapshot) =
            flags.enableBinderTransaction ∧
          (flags.enableBinderTransaction → flags.enableBitmapScaledInstrumentation)
      else
        (flags.enableBitmapInstrumentation || flags.enableBitmapSnapshot) =
          flags.enableBitmapScaledInstrumentation := by
  have henabled : isBpfFileEnabled flags name =
      (flags.enableBitmapInstrumentation || flags.enableBitmapSnapshot) := by
    rw [isBpfFileEnabled_eq, hdecides]
    rfl
  have hspecific := specificRule_of_shadowed hdecides hscaled.1
  by_cases hbinder : binder.occursIn name
  · rw [if_pos hbinder] at hspecific ⊢
    constructor
    · intro hgated
      have hvalue := hgated.specific
      have hflag := hgated.scaled hscaled
      rw [hspecific, henabled] at hvalue
      rw [henabled, show _ = flags.enableBinderTransaction from hvalue] at hflag
      exact ⟨hvalue, hflag⟩
    · rintro ⟨hvalue, hflag⟩
      refine ⟨?_, fun _ => ?_⟩
      · rw [hspecific, henabled, hvalue]
        rfl
      · rw [henabled, hvalue]
        exact hflag
  · rw [if_neg hbinder] at hspecific ⊢
    constructor
    · intro hgated
      have hvalue := hgated.specific
      rwa [hspecific, henabled] at hvalue
    · intro hvalue
      refine ⟨?_, fun _ => ?_⟩
      · rw [hspecific, henabled, hvalue]
        rfl
      · rw [henabled, hvalue]
        exact id

/-- A name is gated by the rule specific to it exactly when it is not one for
scaled bitmaps, or the flags agree. -/
theorem isGated_iff (flags : Flags) (name : String) :
    IsGated flags name ↔ (IsScaled name → FlagsAgree flags name) := by
  by_cases hscaled : IsScaled name
  · simp only [hscaled, true_implies, FlagsAgree]
    by_cases hsnapshot : bitmapCreationForSnapshot.occursIn name ∨ applyFreeFunction.occursIn name
    · rw [if_pos hsnapshot, isGated_of_snapshot_iff hscaled hsnapshot]
    · rw [if_neg hsnapshot]
      rw [not_or] at hsnapshot
      exact isGated_of_shadowed_iff hscaled (decidingRule_eq_bitmapAllocation_iff.2
        ⟨hscaled.2, hsnapshot.1, hsnapshot.2, bitmapAllocation_occursIn hscaled.1⟩)
  · simp only [hscaled, false_implies, iff_true]
    refine ⟨?_, fun h => absurd h hscaled⟩
    rw [isBpfFileEnabled_eq, specificRule_eq_decidingRule]
    intro hdecides hoccurs
    exact hscaled ⟨hoccurs, (decidingRule_eq_bitmapAllocation_iff.1 hdecides).1⟩

end Cases

/-! What an accepted config may use. -/

/-- The rule specific to the name allows it. -/
def IsSpecificallyEnabled (flags : Flags) (name : String) : Prop :=
  enabledBy flags (specificRule name) ∧ (IsScaled name → flags.enableBitmapScaledInstrumentation)

theorem isSpecificallyEnabled_iff {flags : Flags} {name : String}
    (henabled : isBpfFileEnabled flags name) :
    IsSpecificallyEnabled flags name ↔ IsGated flags name := by
  constructor
  · rintro ⟨hspecific, hscaled⟩
    exact ⟨henabled.trans hspecific.symm, fun hname _ => hscaled hname⟩
  · rintro ⟨hspecific, hscaled⟩
    exact ⟨hspecific ▸ henabled, fun hname => hscaled hname henabled⟩

/-- Every name in an accepted config has passed the chain of rules. -/
theorem enabled_of_resolved {env : ResolveEnv} {task : Proto.Task} {id : Int64}
    {resolved : ResolvedTask} (hresolve : resolveSingleTask env task id = .ok resolved)
    {name : String} (hname : name ∈ bpfNames task) : isBpfFileEnabled env.flags name := by
  obtain ⟨_, _, _, _, hmaps, _, _, hprobes, _⟩ := resolveSingleTask_eq_ok hresolve
  rcases List.mem_append.1 hname with hname | hname
  · obtain ⟨path, -, hpath⟩ := exists_mem_of_mapM hmaps hname
    exact (enabledBpfPath_eq_ok hpath).1
  · obtain ⟨proto, hproto, hbpfName⟩ := List.mem_filterMap.1 hname
    obtain ⟨probe, -, hprobe⟩ := exists_mem_of_mapM hprobes hproto
    obtain ⟨bpfName, hrequired, hrest⟩ := bind_eq_ok_iff.1 hprobe
    obtain ⟨path, hpath, -⟩ := bind_eq_ok_iff.1 hrest
    rw [hbpfName] at hrequired
    cases hrequired
    exact (enabledBpfPath_eq_ok hpath).1

/-- The flags gate their programs except where the rule for scaled bitmaps is in
the shadow: which names and flags are affected, which rules decide at all, and
what an accepted config may use. -/
theorem flags_gate_iff (flags : Flags) (name : String) (rule : BpfRule) :
    (IsGated flags name ↔ (IsScaled name → FlagsAgree flags name)) ∧
    ((∃ name, decidingRule name = some rule) ↔ rule ≠ createScaledBitmap) ∧
    ∀ env configBytes config task resolved, env.parseFromBytes configBytes = .ok config →
      config.tasks = [task] → resolveConfig env configBytes = .ok resolved →
      ((∀ name ∈ bpfNames task, IsSpecificallyEnabled env.flags name) ↔
        ∀ name ∈ bpfNames task, IsScaled name → FlagsAgree env.flags name) := by
  refine ⟨isGated_iff flags name, decides_iff rule, ?_⟩
  intro env configBytes config task resolved hparse htasks hresolve
  obtain ⟨config', task', hparse', htasks', htask⟩ := exists_resolveSingleTask hresolve
  rw [hparse] at hparse'
  cases hparse'
  rw [htasks] at htasks'
  cases htasks'
  refine forall₂_congr fun name hname => ?_
  rw [isSpecificallyEnabled_iff (enabled_of_resolved htask hname), isGated_iff]

/-- With its own flag off, the program for scaled bitmaps is allowed by the flag
for all bitmaps. -/
theorem scaled_allowed_by_other_flag :
    specificRule "prog_BitmapAllocation_uprobe_create_scaled_bitmap" = some createScaledBitmap ∧
      isBpfFileEnabled ⟨false, false, true, false, false, false⟩
        "prog_BitmapAllocation_uprobe_create_scaled_bitmap" = true ∧
      createScaledBitmap.value ⟨false, false, true, false, false, false⟩ = false := by
  decide

end UprobeStats
