/-
Chains of rules, the first of which that applies decides.  Some rules apply to
less than others; where the first one that applies is not among the most
specific ones, a more specific rule is in its shadow.
-/
import Mathlib.Data.List.Basic
import Mathlib.Tactic

namespace Rules

universe u v

variable {ρ : Type u} {α : Type v}

/-- The first rule that applies. -/
def decider (applies : ρ → α → Bool) (chain : List ρ) (x : α) : Option ρ :=
  chain.find? fun rule => applies rule x

/-- A rule that applies while no rule above it does; the rules above a rule are
those that apply to less. -/
def IsSpecific (applies : ρ → α → Bool) (above : ρ → ρ → Bool) (chain : List ρ) (x : α)
    (rule : ρ) : Prop :=
  applies rule x ∧ ∀ other ∈ chain, applies other x → ¬ above other rule

/-- The first of the most specific rules that apply. -/
def mostSpecific (applies : ρ → α → Bool) (above : ρ → ρ → Bool) (chain : List ρ) (x : α) :
    Option ρ :=
  chain.find? fun rule => applies rule x && chain.all fun other =>
    !(applies other x && above other rule)

variable {applies : ρ → α → Bool} {above : ρ → ρ → Bool} {chain : List ρ} {x : α} {rule : ρ}

theorem specific_test_iff :
    (applies rule x && chain.all fun other => !(applies other x && above other rule)) = true ↔
      IsSpecific applies above chain x rule := by
  simp only [Bool.and_eq_true, List.all_eq_true, Bool.not_eq_true', Bool.and_eq_false_imp,
    IsSpecific, Bool.not_eq_true]

theorem applies_of_decider (hdecides : decider applies chain x = some rule) : applies rule x := by
  have happlies := List.find?_some (p := fun rule => applies rule x) hdecides
  exact happlies

/-- A rule decides when it applies and none before it does. -/
theorem decider_eq_some_iff {before after : List ρ} (hsplit : chain = before ++ rule :: after)
    (hbefore : rule ∉ before) :
    decider applies chain x = some rule ↔
      (∀ other ∈ before, ¬ applies other x) ∧ applies rule x := by
  constructor
  · intro hdecides
    refine ⟨?_, applies_of_decider hdecides⟩
    rw [decider, hsplit, List.find?_append] at hdecides
    cases hfirst : before.find? fun rule => applies rule x with
    | none => exact List.find?_eq_none.1 hfirst
    | some first =>
        rw [hfirst, Option.some_or, Option.some.injEq] at hdecides
        exact absurd (hdecides ▸ List.mem_of_find?_eq_some hfirst) hbefore
  · rintro ⟨hnone, happlies⟩
    refine List.find?_eq_some_iff_append.2 ⟨happlies, before, after, hsplit, ?_⟩
    intro other hmem
    simpa using hnone other hmem

/-- A rule after one that applies to all it applies to never decides. -/
theorem decider_ne_of_shadowed {before after : List ρ} {other : ρ}
    (hsplit : chain = before ++ rule :: after) (hbefore : rule ∉ before) (hother : other ∈ before)
    (hshadow : ∀ x, applies rule x → applies other x) (x : α) :
    decider applies chain x ≠ some rule := by
  intro hdecides
  obtain ⟨hnone, happlies⟩ := (decider_eq_some_iff hsplit hbefore).1 hdecides
  exact hnone other hother (hshadow x happlies)

theorem mostSpecific_eq_some {before after : List ρ} (hsplit : chain = before ++ rule :: after)
    (hspecific : IsSpecific applies above chain x rule)
    (hnone : ∀ other ∈ before, ¬ IsSpecific applies above chain x other) :
    mostSpecific applies above chain x = some rule := by
  refine List.find?_eq_some_iff_append.2 ⟨specific_test_iff.2 hspecific, before, after, hsplit, ?_⟩
  intro other hmem
  rw [Bool.not_eq_eq_eq_not, Bool.not_true, ← Bool.not_eq_true, specific_test_iff]
  exact hnone other hmem

/-- The first rule that applies is the first of the most specific ones, if it
is one of them. -/
theorem mostSpecific_of_decider (hdecides : decider applies chain x = some rule)
    (hspecific : IsSpecific applies above chain x rule) :
    mostSpecific applies above chain x = some rule := by
  obtain ⟨-, before, after, hsplit, hnone⟩ := List.find?_eq_some_iff_append.1 hdecides
  refine mostSpecific_eq_some hsplit hspecific ?_
  intro other hmem hother
  have hnot := hnone other hmem
  simp [hother.1] at hnot

theorem mostSpecific_of_none (hdecides : decider applies chain x = none) :
    mostSpecific applies above chain x = none := by
  refine List.find?_eq_none.2 fun rule hmem => ?_
  have hrule := List.find?_eq_none.1 hdecides rule hmem
  simp [hrule]

end Rules
