/-
Machines whose actions resolve every choice, and the two rules used to follow
them over whole runs: an invariant that every step keeps, and an invariant
that survives exactly as long as no step leaves its guard.
-/
import Mathlib.Data.List.Induction
import Mathlib.Tactic

namespace Transition

universe u v

variable {S : Type u} {A : Type v}

/-- A machine is a start state and a partial step function.  An action names
the party that moves together with the outcome of everything the machine does
not decide itself, so a run is the list of its actions. -/
structure Machine (S : Type u) (A : Type v) where
  init : S
  step : S → A → Option S

namespace Machine

/-- The machine that takes only some of the steps. -/
def restrict (M : Machine S A) (allowed : S → A → Prop) [∀ s action, Decidable (allowed s action)] :
    Machine S A where
  init := M.init
  step s action := if allowed s action then M.step s action else none

/-- The state after a list of actions, or `none` when one was not enabled. -/
def run (M : Machine S A) (actions : List A) : Option S :=
  actions.foldl (fun state action => state.bind (M.step · action)) (some M.init)

@[simp] theorem run_nil (M : Machine S A) : M.run [] = some M.init := rfl

@[simp] theorem run_concat (M : Machine S A) (actions : List A) (action : A) :
    M.run (actions ++ [action]) = (M.run actions).bind (M.step · action) := by
  simp [run]

theorem run_snoc {M : Machine S A} {actions : List A} {action : A} {s s' : S}
    (hrun : M.run actions = some s) (hstep : M.step s action = some s') :
    M.run (actions ++ [action]) = some s' := by
  rw [run_concat, hrun, Option.bind_some, hstep]

theorem step_restrict {M : Machine S A} {allowed : S → A → Prop}
    [∀ s action, Decidable (allowed s action)] {s s' : S} {action : A} :
    (M.restrict allowed).step s action = some s' ↔
      allowed s action ∧ M.step s action = some s' := by
  by_cases hallowed : allowed s action
  · simp [restrict, hallowed]
  · simp [restrict, hallowed]

/-- A state some run ends in. -/
def Reachable (M : Machine S A) (s : S) : Prop :=
  ∃ actions : List A, M.run actions = some s

/-- A state the run over `actions` passes through, its end included. -/
def Visits (M : Machine S A) (actions : List A) (s : S) : Prop :=
  ∃ pre : List A, pre <+: actions ∧ M.run pre = some s

/-- A step `s --action--> s'` the run over `actions` takes. -/
def Takes (M : Machine S A) (actions : List A) (s : S) (action : A)
    (s' : S) : Prop :=
  ∃ pre : List A, pre ++ [action] <+: actions ∧
    M.run pre = some s ∧ M.step s action = some s'

/-- The invariant rule: what holds at the start and is kept by every step
holds wherever a run ends. -/
theorem run_invariant (M : Machine S A) {Inv : S → Prop}
    (hinit : Inv M.init)
    (hstep : ∀ s action s', Inv s → M.step s action = some s' → Inv s')
    {actions : List A} {s : S} (hrun : M.run actions = some s) : Inv s := by
  induction actions using List.reverseRecOn generalizing s with
  | nil =>
      simp only [run_nil, Option.some.injEq] at hrun
      exact hrun ▸ hinit
  | append_singleton pre action ih =>
      simp only [run_concat, Option.bind_eq_some_iff] at hrun
      obtain ⟨before, hbefore, hlast⟩ := hrun
      exact hstep before action s (ih hbefore) hlast

theorem Reachable.invariant {M : Machine S A} {Inv : S → Prop} {s : S}
    (hreach : M.Reachable s) (hinit : Inv M.init)
    (hstep : ∀ s action s', Inv s → M.step s action = some s' → Inv s') :
    Inv s := by
  obtain ⟨actions, hrun⟩ := hreach
  exact M.run_invariant hinit hstep hrun

theorem Takes.visits_right {M : Machine S A} {actions : List A}
    {s s' : S} {action : A} (htakes : M.Takes actions s action s') :
    M.Visits actions s' := by
  obtain ⟨pre, hpre, hrun, hstep⟩ := htakes
  exact ⟨pre ++ [action], hpre, run_snoc hrun hstep⟩

/-- As long as every step taken meets its guard, a guarded invariant holds at
every state the run visits. -/
theorem visits_invariant_of_guarded (M : Machine S A) {Inv : S → Prop}
    {Guard : S → A → Prop} (hinit : Inv M.init)
    (hkeep : ∀ s action s', Inv s → Guard s action →
      M.step s action = some s' → Inv s')
    {actions : List A}
    (hguard : ∀ s action s', M.Takes actions s action s' → Guard s action)
    {s : S} (hvisit : M.Visits actions s) : Inv s := by
  obtain ⟨pre, hpre, hrun⟩ := hvisit
  induction pre using List.reverseRecOn generalizing s with
  | nil =>
      simp only [run_nil, Option.some.injEq] at hrun
      exact hrun ▸ hinit
  | append_singleton pre action ih =>
      simp only [run_concat, Option.bind_eq_some_iff] at hrun
      obtain ⟨before, hbefore, hlast⟩ := hrun
      have hshorter : pre <+: actions := (List.prefix_append pre [action]).trans hpre
      exact hkeep before action s (ih hshorter hbefore)
        (hguard before action s ⟨pre, hpre, hbefore, hlast⟩) hlast

/-- The guarded rule in both directions.  When an unguarded step out of the
invariant breaks `Safe` at once, a run is safe at every state it visits
exactly when every step it takes meets its guard. -/
theorem visits_safe_iff_guarded (M : Machine S A) (Inv Safe : S → Prop)
    (Guard : S → A → Prop) (hinit : Inv M.init)
    (hsafe : ∀ s, Inv s → Safe s)
    (hkeep : ∀ s action s', Inv s → Guard s action →
      M.step s action = some s' → Inv s')
    (hbreak : ∀ s action s', Inv s → ¬ Guard s action →
      M.step s action = some s' → ¬ Safe s')
    (actions : List A) :
    (∀ s, M.Visits actions s → Safe s) ↔
      ∀ s action s', M.Takes actions s action s' → Guard s action := by
  constructor
  · intro hall s action s' htakes
    by_contra hguard
    obtain ⟨pre, hpre, hrun, hstep⟩ := htakes
    -- the first unguarded step is reached inside the invariant
    induction hlen : pre.length using Nat.strong_induction_on
        generalizing pre s action s' with
    | h n ih =>
        by_cases hearlier : ∀ t b t', M.Takes pre t b t' → Guard t b
        · have hinv : Inv s := M.visits_invariant_of_guarded hinit hkeep
            hearlier ⟨pre, List.prefix_rfl, hrun⟩
          apply hbreak s action s' hinv hguard hstep
          exact hall s' ⟨pre ++ [action], hpre, run_snoc hrun hstep⟩
        · push Not at hearlier
          obtain ⟨t, b, t', ⟨first, hfirst, hfirstRun, hfirstStep⟩, hbad⟩ :=
            hearlier
          have hshorter : first.length < n := by
            have hle := hfirst.length_le
            simp only [List.length_append, List.length_singleton] at hle
            omega
          exact ih first.length hshorter t b t' hbad first
            (hfirst.trans ((List.prefix_append pre [action]).trans hpre))
            hfirstRun hfirstStep rfl
  · intro hguard s hvisit
    exact hsafe s (M.visits_invariant_of_guarded hinit hkeep hguard hvisit)

end Machine

end Transition
