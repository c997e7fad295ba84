/-
Resources that a run acquires, uses and releases.  A trace is followed by what
is live along it; a use or a release of what is not live, and an acquisition of
what is, has no continuation.
-/
import UprobeStats.Lib.Traced

namespace Ownership

open Traced

universe u v w x

variable {ρ : Type u} [DecidableEq ρ]

/-- What an event does to a resource. -/
inductive Effect (ρ : Type u) where
  | acquire (r : ρ)
  | use (r : ρ)
  | release (r : ρ)
deriving DecidableEq, Repr

/-- What is live after an effect. -/
def Effect.apply (live : List ρ) : Effect ρ → Option (List ρ)
  | .acquire r => if r ∈ live then none else some (r :: live)
  | .use r => if r ∈ live then some live else none
  | .release r => if r ∈ live then some (live.erase r) else none

/-- What is live after a list of effects, or `none` when one of them was a
misuse. -/
def follow (live : List ρ) (effects : List (Effect ρ)) : Option (List ρ) :=
  effects.foldlM Effect.apply live

theorem follow_append (live : List ρ) (first second : List (Effect ρ)) :
    follow live (first ++ second) = (follow live first).bind (follow · second) :=
  List.foldlM_append

theorem apply_acquire_iff {live live' : List ρ} {r : ρ} :
    Effect.apply live (.acquire r) = some live' ↔ r ∉ live ∧ live' = r :: live := by
  simp only [Effect.apply]
  split <;> simp [*, eq_comm]

theorem apply_use_iff {live live' : List ρ} {r : ρ} :
    Effect.apply live (.use r) = some live' ↔ r ∈ live ∧ live' = live := by
  simp only [Effect.apply]
  split <;> simp [*, eq_comm]

theorem apply_release_iff {live live' : List ρ} {r : ρ} :
    Effect.apply live (.release r) = some live' ↔ r ∈ live ∧ live' = live.erase r := by
  simp only [Effect.apply]
  split <;> simp [*, eq_comm]

/-- Whatever is acquired is released, unless it stays live. -/
theorem count_acquire_of_follow {live live' : List ρ} {effects : List (Effect ρ)}
    (hfollow : follow live effects = some live') (r : ρ) :
    live.count r + effects.count (.acquire r) = effects.count (.release r) + live'.count r := by
  induction effects generalizing live with
  | nil =>
      cases hfollow
      simp
  | cons effect rest ih =>
      obtain ⟨after, hafter, hrest⟩ := Option.bind_eq_some_iff.1 hfollow
      have hcount := ih hrest
      cases effect with
      | acquire s =>
          obtain ⟨_, rfl⟩ := apply_acquire_iff.1 hafter
          by_cases hrs : s = r
          · subst hrs
            simp only [List.count_cons_self, List.count_cons_of_ne, ne_eq, reduceCtorEq,
              not_false_eq_true] at hcount ⊢
            omega
          · simp only [List.count_cons_of_ne, ne_eq, reduceCtorEq, not_false_eq_true,
              Effect.acquire.injEq, hrs] at hcount ⊢
            exact hcount
      | use s =>
          obtain ⟨_, rfl⟩ := apply_use_iff.1 hafter
          simp only [List.count_cons_of_ne, ne_eq, reduceCtorEq, not_false_eq_true]
          exact hcount
      | release s =>
          obtain ⟨hlive, rfl⟩ := apply_release_iff.1 hafter
          by_cases hrs : s = r
          · subst hrs
            have hpos := List.count_pos_iff.2 hlive
            simp only [List.count_erase_self, List.count_cons_self, List.count_cons_of_ne, ne_eq,
              reduceCtorEq, not_false_eq_true] at hcount ⊢
            omega
          · rw [List.count_erase_of_ne (Ne.symm hrs)] at hcount
            simp only [List.count_cons_of_ne, ne_eq, reduceCtorEq, not_false_eq_true,
              Effect.release.injEq, hrs] at hcount ⊢
            exact hcount

/-- From nothing to nothing, each resource is released as often as it is
acquired. -/
theorem count_release_eq {effects : List (Effect ρ)} (hfollow : follow [] effects = some [])
    (r : ρ) : effects.count (.release r) = effects.count (.acquire r) := by
  have hcount := count_acquire_of_follow hfollow r
  simpa using hcount.symm

end Ownership

namespace Traced

namespace Run

open Ownership

universe u v w x

variable {ρ : Type u} [DecidableEq ρ] {σ : Type v} {ε : Type w} {α β : Type x}

/-- Hold a resource while the body runs, however it ends. -/
def owning (acquired released : σ) (body : Run σ ε α) : Run σ ε α :=
  Run.leaving ⟨acquired :: body.trace, body.outcome⟩ [released]

/-- The run misuses nothing, and takes what is live at its start to what is
live at its end. -/
def Leaves (effects : σ → List (Effect ρ)) (live : List ρ) (run : Run σ ε α)
    (live' : List ρ) : Prop :=
  follow live (run.trace.flatMap effects) = some live'

variable {effects : σ → List (Effect ρ)} {live mid live' : List ρ}

theorem Leaves.of_trace_eq_nil {run : Run σ ε α} (hnil : run.trace = []) :
    run.Leaves effects live live := by
  rw [Leaves, hnil]
  rfl

theorem Leaves.ofExcept (answer : Except ε α) :
    (Run.ofExcept answer : Run σ ε α).Leaves effects live live :=
  Leaves.of_trace_eq_nil (trace_ofExcept answer)

theorem Leaves.cons {event : σ} {run next : Run σ ε α} (htrace : run.trace = event :: next.trace)
    (hevent : follow live (effects event) = some mid) (hnext : next.Leaves effects mid live') :
    run.Leaves effects live live' := by
  rw [Leaves, htrace, List.flatMap_cons, follow_append, hevent]
  exact hnext

theorem Leaves.emit_bind {event : σ} {next : PUnit → Run σ ε α}
    (hevent : follow live (effects event) = some mid)
    (hnext : (next ⟨⟩).Leaves effects mid live') :
    (Run.emit event >>= next).Leaves effects live live' :=
  Leaves.cons (trace_bind_emit event next) hevent hnext

theorem Leaves.bind_ok {first : Run σ ε α} {next : α → Run σ ε β} {value : α}
    (hok : first.outcome = .ok value) (hfirst : first.Leaves effects live mid)
    (hnext : (next value).Leaves effects mid live') :
    (first >>= next).Leaves effects live live' := by
  rw [Leaves, bind_of_ok hok, List.flatMap_append, follow_append, hfirst]
  exact hnext

theorem Leaves.bind_stop {first : Run σ ε α} {next : α → Run σ ε β}
    (hfailed : ∀ value, first.outcome ≠ .ok value) (hfirst : first.Leaves effects live live') :
    (first >>= next).Leaves effects live live' := by
  rw [Leaves, (trace_bind_of_not_ok hfailed next).1]
  exact hfirst

/-- A step that keeps what is live, followed by another. -/
theorem Leaves.bind {first : Run σ ε α} {next : α → Run σ ε β}
    (hfirst : first.Leaves effects live live)
    (hnext : ∀ value, first.outcome = .ok value → (next value).Leaves effects live live) :
    (first >>= next).Leaves effects live live := by
  cases houtcome : first.outcome with
  | ok value => exact Leaves.bind_ok houtcome hfirst (hnext value houtcome)
  | error e => exact Leaves.bind_stop (by simp [houtcome]) hfirst
  | panic => exact Leaves.bind_stop (by simp [houtcome]) hfirst

/-- A run that only uses what is live. -/
theorem Leaves.of_all_use {run : Run σ ε α} {r : ρ} (hr : r ∈ live)
    (huse : run.All fun event => effects event = [.use r]) : run.Leaves effects live live := by
  have htrace : ∀ events : List σ, (∀ event ∈ events, effects event = [.use r]) →
      follow live (events.flatMap effects) = some live := by
    intro events hevents
    induction events with
    | nil => rfl
    | cons event rest ih =>
        rw [List.flatMap_cons, follow_append, hevents event List.mem_cons_self]
        have happly : follow live [.use r] = some live := by simp [follow, Effect.apply, hr]
        rw [happly]
        exact ih fun other hother => hevents other (List.mem_cons_of_mem event hother)
  exact htrace run.trace huse

theorem Leaves.leaving {run : Run σ ε α} {released : σ} (hrun : run.Leaves effects live mid)
    (hreleased : follow mid (effects released) = some live') :
    (run.leaving [released]).Leaves effects live live' := by
  rw [Leaves, trace_leaving, List.flatMap_append, follow_append, hrun]
  simpa using hreleased

/-- The rule of a scope: what it holds is fresh, and its body keeps it. -/
theorem Leaves.owning {acquired released : σ} {body : Run σ ε α} {r : ρ}
    (hacquired : effects acquired = [.acquire r]) (hreleased : effects released = [.release r])
    (hfresh : r ∉ live) (hbody : body.Leaves effects (r :: live) (r :: live)) :
    (owning acquired released body).Leaves effects live live := by
  have hacquire : follow live (effects acquired) = some (r :: live) := by
    simp [hacquired, follow, Effect.apply, hfresh]
  have hheld : (⟨acquired :: body.trace, body.outcome⟩ : Run σ ε α).Leaves effects live
      (r :: live) := Leaves.cons rfl hacquire hbody
  apply hheld.leaving
  simp [hreleased, follow, Effect.apply]

end Run

end Traced
