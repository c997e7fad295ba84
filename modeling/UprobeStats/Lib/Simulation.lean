/-
Components that answer operations, and specifications that say which answers
are allowed.  A representation that every operation keeps is kept by every
sequence of operations, and then no sequence of answers tells the component
from its specification.
-/
import Mathlib.Tactic

namespace Simulation

universe u v w x

variable {S : Type u} {T : Type v} {Op : Type w} {Reply : Type x}

/-- The answers to a list of operations, and the state after them. -/
def serve (step : S → Op → Reply × S) : S → List Op → List Reply × S
  | s, [] => ([], s)
  | s, op :: rest =>
      let answered := serve step (step s op).2 rest
      ((step s op).1 :: answered.1, answered.2)

/-- The specification allows these answers to these operations. -/
inductive Allows (spec : T → Op → Reply → T → Prop) : T → List Op → List Reply → T → Prop
  | nil (t : T) : Allows spec t [] [] t
  | cons {t t' t'' : T} {op : Op} {reply : Reply} {ops : List Op} {replies : List Reply}
      (head : spec t op reply t') (tail : Allows spec t' ops replies t'') :
      Allows spec t (op :: ops) (reply :: replies) t''

/-- The run rule of a simulation. -/
theorem serve_allowed {step : S → Op → Reply × S} {spec : T → Op → Reply → T → Prop}
    (Represents : S → T → Prop)
    (hstep : ∀ s t op, Represents s t →
      ∃ t', spec t op (step s op).1 t' ∧ Represents (step s op).2 t')
    (ops : List Op) {s : S} {t : T} (hst : Represents s t) :
    ∃ t', Allows spec t ops (serve step s ops).1 t' ∧ Represents (serve step s ops).2 t' := by
  induction ops generalizing s t with
  | nil => exact ⟨t, .nil t, hst⟩
  | cons op rest ih =>
      obtain ⟨middle, hspec, hmiddle⟩ := hstep s t op hst
      obtain ⟨t', hallowed, ht'⟩ := ih hmiddle
      exact ⟨t', .cons hspec hallowed, ht'⟩

end Simulation
