/-
Tokens of a text: what splitting at a separator gives, and when an entry of a
list of names covers a token, by being the token or by being followed in it by
one of some marks.
-/
import Mathlib.Data.List.Basic
import Mathlib.Tactic

namespace Tokens

universe u

variable {α : Type u}

section Splitting

variable [DecidableEq α]

/-- The first token goes up to the first separator. -/
theorem head?_splitOn (a : α) (text : List α) :
    (text.splitOn a).head? = some (text.takeWhile (· ≠ a)) := by
  induction text with
  | nil => simp
  | cons x text ih =>
      rw [List.splitOn_cons_eq_if_modifyHead]
      by_cases hx : x = a
      · simp [hx]
      · simp [hx, ih]

/-- The second token of a text that has a separator. -/
theorem second_splitOn {a : α} {first : List α} (hfirst : a ∉ first) (text : List α) :
    ((first ++ a :: text).splitOn a)[1]? = some (text.takeWhile (· ≠ a)) := by
  rw [List.splitOn_append_cons_self_of_not_mem hfirst, List.getElem?_cons_succ,
    ← List.head?_eq_getElem?, head?_splitOn]

end Splitting

/-- The entry is the text, or the text goes on after it with a mark. -/
def Covers (marks entry text : List α) : Prop :=
  text = entry ∨ ∃ mark ∈ marks, ∃ rest, text = entry ++ mark :: rest

/-- Whatever comes after a mark that the entry does not have makes no
difference. -/
theorem covers_append_cons_iff {marks entry text rest : List α} {mark : α} (hmark : mark ∈ marks)
    (hentry : mark ∉ entry) :
    Covers marks entry (text ++ mark :: rest) ↔ Covers marks entry text := by
  constructor
  · rintro (heq | ⟨other, hother, rest', heq⟩)
    · exact absurd (by simp [← heq]) hentry
    · rcases List.append_eq_append_iff.1 heq with ⟨between, hbetween, htail⟩ | ⟨between, hbetween, htail⟩
      · cases between with
        | nil => exact .inl (by simpa using hbetween.symm)
        | cons x between =>
            simp only [List.cons_append, List.cons.injEq] at htail
            exact absurd (by simp [hbetween, ← htail.1]) hentry
      · cases between with
        | nil => exact .inl (by simpa using hbetween)
        | cons x between =>
            simp only [List.cons_append, List.cons.injEq] at htail
            exact .inr ⟨other, hother, between, by rw [hbetween, htail.1]⟩
  · rintro (rfl | ⟨other, hother, rest', rfl⟩)
    · exact .inr ⟨mark, hmark, rest, rfl⟩
    · exact .inr ⟨other, hother, rest' ++ mark :: rest, by simp⟩

end Tokens
