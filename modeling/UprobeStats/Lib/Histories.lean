/-
Sequences as histories: what happened last, and the largest value that a run
of a machine has seen together with the state in which it was first reached.
-/
import Mathlib.Order.Bounds.Basic
import UprobeStats.Lib.Machine

namespace Histories

open Transition

universe u v w

/-! The last element of a kind. -/

section Latest

variable {α : Type u} {p : α → Prop}

/-- The last element of the kind, and everything before it. -/
def Latest (p : α → Prop) (l before : List α) (x : α) : Prop :=
  ∃ after, l = before ++ x :: after ∧ p x ∧ ∀ y ∈ after, ¬ p y

theorem not_latest_nil {before : List α} {x : α} : ¬ Latest p [] before x := by
  rintro ⟨after, hsplit, -, -⟩
  simp at hsplit

/-- A new element is the last of its kind, and an element of another kind
changes nothing. -/
theorem latest_concat_iff {l before : List α} {x y : α} :
    Latest p (l ++ [y]) before x ↔
      (p y ∧ before = l ∧ x = y) ∨ (¬ p y ∧ Latest p l before x) := by
  constructor
  · rintro ⟨after, hsplit, hx, hafter⟩
    rcases List.eq_nil_or_concat after with rfl | ⟨rest, last, rfl⟩
    · obtain ⟨hl, hy⟩ := List.append_inj' hsplit rfl
      simp only [List.cons.injEq, and_true] at hy
      subst hy
      exact .inl ⟨hx, hl.symm, rfl⟩
    · rw [List.concat_eq_append, ← List.cons_append, ← List.append_assoc] at hsplit
      obtain ⟨hl, hy⟩ := List.append_inj' hsplit rfl
      simp only [List.cons.injEq, and_true] at hy
      subst hy
      refine .inr ⟨hafter _ (by simp), rest, hl, hx, ?_⟩
      intro other hother
      exact hafter other (by simp [hother])
  · rintro (⟨hy, rfl, rfl⟩ | ⟨hy, after, rfl, hx, hafter⟩)
    · exact ⟨[], rfl, hy, by simp⟩
    · refine ⟨after ++ [y], by simp, hx, ?_⟩
      intro other hother
      rcases List.mem_append.1 hother with hother | hother
      · exact hafter other hother
      · rw [List.mem_singleton.1 hother]
        exact hy

theorem Latest.unique {l before before' : List α} {x x' : α} (hlatest : Latest p l before x)
    (hlatest' : Latest p l before' x') : before' = before ∧ x' = x := by
  induction l using List.reverseRecOn with
  | nil => exact absurd hlatest not_latest_nil
  | append_singleton l y ih =>
      rcases latest_concat_iff.1 hlatest with ⟨hy, rfl, rfl⟩ | ⟨hy, hlatest⟩
      · rcases latest_concat_iff.1 hlatest' with ⟨-, rfl, rfl⟩ | ⟨hne, -⟩
        · exact ⟨rfl, rfl⟩
        · exact absurd hy hne
      · rcases latest_concat_iff.1 hlatest' with ⟨hne, -, -⟩ | ⟨-, hlatest'⟩
        · exact absurd hne hy
        · exact ih hlatest hlatest'

end Latest

/-! The states that a machine is in after the actions of a kind, and the first
of them at which a value is as large as it ever gets. -/

section Peaks

variable {S : Type u} {A : Type v} {M : Machine S A} {p : A → Prop}

/-- The state right after one of the actions of the kind. -/
def After (M : Machine S A) (p : A → Prop) (actions before : List A) (action : A) (s : S) : Prop :=
  before ++ [action] <+: actions ∧ p action ∧ M.run (before ++ [action]) = some s

theorem not_after_nil {before : List A} {action : A} {s : S} : ¬ After M p [] before action s := by
  rintro ⟨hpre, -, -⟩
  simp at hpre

theorem After.mono {actions more before : List A} {action : A} {s : S}
    (hafter : After M p actions before action s) : After M p (actions ++ more) before action s :=
  ⟨hafter.1.trans (List.prefix_append actions more), hafter.2⟩

theorem after_concat_iff {actions before : List A} {last action : A} {s : S} :
    After M p (actions ++ [last]) before action s ↔
      (before = actions ∧ action = last ∧ p last ∧ M.run (actions ++ [last]) = some s) ∨
        After M p actions before action s := by
  constructor
  · rintro ⟨hpre, hp, hrun⟩
    rcases List.prefix_concat_iff.1 hpre with heq | hpre
    · obtain ⟨rfl, hlast⟩ := List.append_inj' heq rfl
      simp only [List.cons.injEq, and_true] at hlast
      subst hlast
      exact .inl ⟨rfl, rfl, hp, hrun⟩
    · exact .inr ⟨hpre, hp, hrun⟩
  · rintro (⟨rfl, rfl, hp, hrun⟩ | hafter)
    · exact ⟨List.prefix_rfl, hp, hrun⟩
    · exact hafter.mono

variable {τ : Type w}

/-- The value that is kept at the start, and those after the actions. -/
def valuesAfter (M : Machine S A) (p : A → Prop) (value : S → τ) (start : τ) (actions : List A) :
    Set τ :=
  insert start {x | ∃ before action s, After M p actions before action s ∧ value s = x}

variable {value : S → τ} {start : τ} {actions : List A} {action : A}

theorem valuesAfter_concat_of_not (hp : ¬ p action) :
    valuesAfter M p value start (actions ++ [action]) = valuesAfter M p value start actions := by
  simp only [valuesAfter, after_concat_iff, hp, false_and, and_false, false_or]

theorem valuesAfter_concat {s : S} (hp : p action) (hrun : M.run (actions ++ [action]) = some s) :
    valuesAfter M p value start (actions ++ [action]) =
      insert (value s) (valuesAfter M p value start actions) := by
  ext x
  simp only [valuesAfter, after_concat_iff, Set.mem_insert_iff, Set.mem_ofPred_eq]
  constructor
  · rintro (rfl | ⟨before, other, s', ⟨rfl, rfl, -, hrun'⟩ | hafter, rfl⟩)
    · exact .inr (.inl rfl)
    · rw [hrun] at hrun'
      cases hrun'
      exact .inl rfl
    · exact .inr (.inr ⟨before, other, s', hafter, rfl⟩)
  · rintro (rfl | rfl | ⟨before, other, s', hafter, rfl⟩)
    · exact .inr ⟨actions, action, s, .inl ⟨rfl, rfl, hp, hrun⟩, rfl⟩
    · exact .inl rfl
    · exact .inr ⟨before, other, s', .inr hafter, rfl⟩

variable [LinearOrder τ]

/-- The first state with the value. -/
def FirstAfter (M : Machine S A) (p : A → Prop) (value : S → τ) (actions : List A) (x : τ)
    (s : S) : Prop :=
  ∃ before action, After M p actions before action s ∧ value s = x ∧
    ∀ before' action' s', After M p before before' action' s' → value s' < x

theorem isGreatest_valuesAfter_nil : IsGreatest (valuesAfter M p value start []) start := by
  refine ⟨Set.mem_insert _ _, ?_⟩
  rintro x (rfl | ⟨before, action, s, hafter, -⟩)
  · exact le_rfl
  · exact absurd hafter not_after_nil

theorem FirstAfter.mono {more : List A} {x : τ} {s : S} (hfirst : FirstAfter M p value actions x s) :
    FirstAfter M p value (actions ++ more) x s := by
  obtain ⟨before, action, hafter, hrest⟩ := hfirst
  exact ⟨before, action, hafter.mono, hrest⟩

/-- A value above all others is reached for the first time. -/
theorem firstAfter_concat {s : S} {greatest : τ}
    (hgreatest : IsGreatest (valuesAfter M p value start actions) greatest) (hp : p action)
    (hrun : M.run (actions ++ [action]) = some s) (hlt : greatest < value s) :
    FirstAfter M p value (actions ++ [action]) (value s) s := by
  refine ⟨actions, action, ⟨List.prefix_rfl, hp, hrun⟩, rfl, ?_⟩
  intro before' action' s' hafter
  exact lt_of_le_of_lt (hgreatest.2 (.inr ⟨before', action', s', hafter, rfl⟩)) hlt

end Peaks

end Histories
