/-
Runs that leave a trace behind: a list of events and, at the end, a value, an
error or a panic.  A run refines an abstract one when it ends the same way and
its trace costs what the abstract ending says.
-/
import Mathlib.Algebra.Order.Group.Nat
import Mathlib.Tactic

namespace Traced

universe u v w

/-- How a fallible piece of code ends. -/
inductive Outcome (ε : Type u) (α : Type v) where
  | ok (value : α)
  | error (error : ε)
  | panic
deriving DecidableEq, Repr

/-- A run with events in `σ` and errors in `ε`. -/
structure Run (σ : Type u) (ε : Type v) (α : Type w) where
  trace : List σ
  outcome : Outcome ε α

namespace Run

variable {σ : Type u} {ε ε' : Type v} {α β : Type w}

/-- Go on with the value, unless there is none. -/
def bind (first : Run σ ε α) (next : α → Run σ ε β) : Run σ ε β :=
  match first.outcome with
  | .ok value => ⟨first.trace ++ (next value).trace, (next value).outcome⟩
  | .error e => ⟨first.trace, .error e⟩
  | .panic => ⟨first.trace, .panic⟩

instance : Monad (Run σ ε) where
  pure value := ⟨[], .ok value⟩
  bind := bind

/-- Write one event. -/
def emit (event : σ) : Run σ ε PUnit := ⟨[event], .ok ⟨⟩⟩

/-- End with an error and no event. -/
def fail (e : ε) : Run σ ε α := ⟨[], .error e⟩

/-- Code without events of its own. -/
def silent (outcome : Outcome ε α) : Run σ ε α := ⟨[], outcome⟩

/-- A call that cannot panic. -/
def ofExcept : Except ε α → Run σ ε α
  | .ok value => ⟨[], .ok value⟩
  | .error e => ⟨[], .error e⟩

/-- `map_err`. -/
def mapErr (wrap : ε → ε') (run : Run σ ε α) : Run σ ε' α :=
  match run.outcome with
  | .ok value => ⟨run.trace, .ok value⟩
  | .error e => ⟨run.trace, .error (wrap e)⟩
  | .panic => ⟨run.trace, .panic⟩

/-- `map_err` with a closure that writes an event before it wraps the error. -/
def reportErr (report : ε → σ) (wrap : ε → ε') (run : Run σ ε α) : Run σ ε' α :=
  match run.outcome with
  | .ok value => ⟨run.trace, .ok value⟩
  | .error e => ⟨run.trace ++ [report e], .error (wrap e)⟩
  | .panic => ⟨run.trace, .panic⟩

/-- Events that are written when a scope is left, however it is left. -/
def leaving (run : Run σ ε α) (events : List σ) : Run σ ε α :=
  ⟨run.trace ++ events, run.outcome⟩

/-- Events that are written when a scope is left without a value. -/
def abandoning (run : Run σ ε α) (events : List σ) : Run σ ε α :=
  match run.outcome with
  | .ok _ => run
  | _ => run.leaving events

theorem bind_def (first : Run σ ε α) (next : α → Run σ ε β) :
    first >>= next = first.bind next := rfl

@[simp] theorem trace_silent (outcome : Outcome ε α) :
    (silent outcome : Run σ ε α).trace = [] := rfl

@[simp] theorem outcome_silent (outcome : Outcome ε α) :
    (silent outcome : Run σ ε α).outcome = outcome := rfl

@[simp] theorem trace_leaving (run : Run σ ε α) (events : List σ) :
    (run.leaving events).trace = run.trace ++ events := rfl

@[simp] theorem outcome_leaving (run : Run σ ε α) (events : List σ) :
    (run.leaving events).outcome = run.outcome := rfl

theorem bind_of_ok {first : Run σ ε α} {value : α} (hok : first.outcome = .ok value)
    (next : α → Run σ ε β) :
    first >>= next = ⟨first.trace ++ (next value).trace, (next value).outcome⟩ := by
  simp only [bind_def, bind, hok]

theorem outcome_bind_of_ok {first : Run σ ε α} {value : α} (hok : first.outcome = .ok value)
    (next : α → Run σ ε β) : (first >>= next).outcome = (next value).outcome := by
  rw [bind_of_ok hok]

@[simp] theorem bind_ofExcept_ok (value : α) (next : α → Run σ ε β) :
    ofExcept (.ok value) >>= next = next value := rfl

@[simp] theorem bind_ofExcept_error (e : ε) (next : α → Run σ ε β) :
    ofExcept (.error e) >>= next = ⟨[], .error e⟩ := rfl

@[simp] theorem trace_bind_emit (event : σ) (next : PUnit → Run σ ε β) :
    (emit event >>= next).trace = event :: (next ⟨⟩).trace := rfl

theorem trace_bind_of_not_ok {first : Run σ ε α}
    (hfailed : ∀ value, first.outcome ≠ .ok value) (next : α → Run σ ε β) :
    (first >>= next).trace = first.trace ∧ ∀ value, (first >>= next).outcome ≠ .ok value := by
  simp only [bind_def, bind]
  cases hfirst : first.outcome with
  | ok value => exact absurd hfirst (hfailed value)
  | error e => exact ⟨rfl, by simp⟩
  | panic => exact ⟨rfl, by simp⟩

theorem trace_bind_of_nil {first : Run σ ε α} {next : α → Run σ ε β}
    (hnil : ∀ value, (next value).trace = []) : (first >>= next).trace = first.trace := by
  simp only [bind_def, bind]
  cases first.outcome <;> simp [hnil]

theorem trace_bind_eq_nil {first : Run σ ε α} {next : α → Run σ ε β} (hfirst : first.trace = [])
    (hnext : ∀ value, (next value).trace = []) : (first >>= next).trace = [] :=
  (trace_bind_of_nil hnext).trans hfirst

theorem bind_ne_panic {first : Run σ ε α} {next : α → Run σ ε β}
    (hfirst : first.outcome ≠ .panic) (hnext : ∀ value, (next value).outcome ≠ .panic) :
    (first >>= next).outcome ≠ .panic := by
  simp only [bind_def, bind]
  cases houtcome : first.outcome with
  | ok value => exact hnext value
  | error e => simp
  | panic => exact absurd houtcome hfirst

theorem outcome_bind_of_error {first : Run σ ε α} {e : ε} (herror : first.outcome = .error e)
    (next : α → Run σ ε β) : (first >>= next).outcome = .error e := by
  simp only [bind_def, bind, herror]

/-- Two steps in a row succeed when both do. -/
theorem bind_eq_ok_iff {first : Run σ ε α} {next : α → Run σ ε β} {result : β} :
    (first >>= next).outcome = .ok result ↔
      ∃ value, first.outcome = .ok value ∧ (next value).outcome = .ok result := by
  simp only [bind_def, bind]
  cases first.outcome <;> simp

/-- Where an error of two steps in a row comes from. -/
theorem bind_eq_error_iff {first : Run σ ε α} {next : α → Run σ ε β} {e : ε} :
    (first >>= next).outcome = .error e ↔
      first.outcome = .error e ∨ ∃ value, first.outcome = .ok value ∧
        (next value).outcome = .error e := by
  simp only [bind_def, bind]
  cases first.outcome <;> simp

/-- Where an event of two steps in a row comes from. -/
theorem mem_trace_bind {first : Run σ ε α} {next : α → Run σ ε β} {event : σ} :
    event ∈ (first >>= next).trace ↔
      event ∈ first.trace ∨ ∃ value, first.outcome = .ok value ∧ event ∈ (next value).trace := by
  simp only [bind_def, bind]
  cases first.outcome <;> simp

theorem outcome_ofExcept_eq_ok_iff {answer : Except ε α} {value : α} :
    (ofExcept answer : Run σ ε α).outcome = .ok value ↔ answer = .ok value := by
  cases answer <;> simp [ofExcept]

@[simp] theorem trace_mapErr (wrap : ε → ε') (run : Run σ ε α) :
    (run.mapErr wrap).trace = run.trace := by
  unfold mapErr
  split <;> rfl

theorem outcome_mapErr_eq_ok_iff {wrap : ε → ε'} {run : Run σ ε α} {value : α} :
    (run.mapErr wrap).outcome = .ok value ↔ run.outcome = .ok value := by
  unfold mapErr
  cases hrun : run.outcome <;> simp

theorem ofExcept_ne_panic (answer : Except ε α) :
    (ofExcept answer : Run σ ε α).outcome ≠ .panic := by
  cases answer <;> simp [ofExcept]

theorem reportErr_ne_panic {run : Run σ ε α} (hrun : run.outcome ≠ .panic)
    (report : ε → σ) (wrap : ε → ε') : (run.reportErr report wrap).outcome ≠ .panic := by
  unfold reportErr
  split
  · simp
  · simp
  · exact absurd ‹_› hrun

@[simp] theorem outcome_abandoning (run : Run σ ε α) (events : List σ) :
    (run.abandoning events).outcome = run.outcome := by
  unfold abandoning
  split <;> rfl

/-- Every event of the run has the property. -/
def All (p : σ → Prop) (run : Run σ ε α) : Prop := ∀ event ∈ run.trace, p event

theorem All.bind_ok {p : σ → Prop} {first : Run σ ε α} {next : α → Run σ ε β}
    (hfirst : first.All p)
    (hnext : ∀ value, first.outcome = .ok value → (next value).All p) :
    (first >>= next).All p := by
  intro event hmem
  rcases mem_trace_bind.1 hmem with hmem | ⟨value, hvalue, hmem⟩
  · exact hfirst event hmem
  · exact hnext value hvalue event hmem

theorem All.bind {p : σ → Prop} {first : Run σ ε α} {next : α → Run σ ε β}
    (hfirst : first.All p) (hnext : ∀ value, (next value).All p) : (first >>= next).All p :=
  hfirst.bind_ok fun value _ => hnext value

theorem All.ite {p : σ → Prop} {c : Prop} [Decidable c] {first second : Run σ ε α}
    (hfirst : first.All p) (hsecond : second.All p) : (if c then first else second).All p := by
  split
  · exact hfirst
  · exact hsecond

theorem All.mapErr {p : σ → Prop} {run : Run σ ε α} (hrun : run.All p) (wrap : ε → ε') :
    (run.mapErr wrap).All p := by
  intro event hmem
  rw [trace_mapErr] at hmem
  exact hrun event hmem

theorem All.of_trace_eq_nil {p : σ → Prop} {run : Run σ ε α} (hnil : run.trace = []) :
    run.All p := by
  intro event hmem
  rw [hnil] at hmem
  cases hmem

theorem trace_ofExcept (answer : Except ε α) : (ofExcept answer : Run σ ε α).trace = [] := by
  cases answer <;> rfl

theorem All.emit {p : σ → Prop} {event : σ} (hevent : p event) :
    (emit event : Run σ ε PUnit).All p := by
  intro other hmem
  rw [List.mem_singleton.1 hmem]
  exact hevent

theorem All.reportErr {p : σ → Prop} {run : Run σ ε α} (hrun : run.All p) {report : ε → σ}
    (hreport : ∀ e, p (report e)) (wrap : ε → ε') : (run.reportErr report wrap).All p := by
  intro event hmem
  unfold Run.reportErr at hmem
  split at hmem
  · exact hrun event hmem
  · rcases List.mem_append.1 hmem with hmem | hmem
    · exact hrun event hmem
    · rw [List.mem_singleton.1 hmem]
      exact hreport _
  · exact hrun event hmem

end Run

/-! Runs seen by someone who gets some of the events and does not ask why a run
failed. -/

/-- Only that there was an error. -/
def Outcome.forget {ε : Type v} {α : Type w} : Outcome ε α → Outcome PUnit.{v + 1} α
  | .ok value => .ok value
  | .error _ => .error ⟨⟩
  | .panic => .panic

namespace Run

variable {σ τ : Type u} {ε : Type v} {α β : Type w}

def select (keep : σ → Option τ) (run : Run σ ε α) : Run τ PUnit.{v + 1} α :=
  ⟨run.trace.filterMap keep, run.outcome.forget⟩

theorem select_bind (keep : σ → Option τ) (first : Run σ ε α) (next : α → Run σ ε β) :
    (first >>= next).select keep = first.select keep >>= fun value => (next value).select keep := by
  simp only [bind_def, bind, select]
  cases first.outcome <;> simp [Outcome.forget]

theorem outcome_select_eq_ok_iff (keep : σ → Option τ) {run : Run σ ε α} {value : α} :
    (run.select keep).outcome = .ok value ↔ run.outcome = .ok value := by
  rw [select]
  cases run.outcome <;> simp [Outcome.forget]

theorem select_pure (keep : σ → Option τ) (value : α) :
    (pure value : Run σ ε α).select keep = pure value := rfl

theorem select_silent (keep : σ → Option τ) (outcome : Outcome ε α) :
    (silent outcome : Run σ ε α).select keep = silent outcome.forget := rfl

end Run

/-! Refinement of runs that only say why they stopped. -/

section Refines

variable {σ φ : Type u} {ε : Type v} {α β : Type u} (cost : List σ → Nat) (price : φ → Nat)

/-- The run ends with the abstract value at no cost, or stops for the abstract
reason at that reason's price. -/
def Refines (spec : Except φ α) (run : Run σ ε α) : Prop :=
  match spec with
  | .ok value => run.outcome = .ok value ∧ cost run.trace = 0
  | .error reason => (∀ value, run.outcome ≠ .ok value) ∧ cost run.trace = price reason

variable {cost price}

theorem Refines.pure (hnil : cost [] = 0) (value : α) :
    Refines cost price (.ok value) (Pure.pure value : Run σ ε α) :=
  ⟨rfl, hnil⟩

/-- Sequencing preserves refinement when costs add up. -/
theorem Refines.bind (happend : ∀ first second, cost (first ++ second) = cost first + cost second)
    {spec : Except φ α} {run : Run σ ε α} {nextSpec : α → Except φ β}
    {next : α → Run σ ε β} (hrun : Refines cost price spec run)
    (hnext : ∀ value, spec = .ok value → Refines cost price (nextSpec value) (next value)) :
    Refines cost price (spec >>= nextSpec) (run >>= next) := by
  cases spec with
  | error reason =>
      obtain ⟨hfailed, hcost⟩ := hrun
      have hstop := Run.trace_bind_of_not_ok hfailed next
      exact ⟨hstop.2, by rw [hstop.1, hcost]⟩
  | ok value =>
      obtain ⟨hok, hcost⟩ := hrun
      have hvalue := hnext value rfl
      rw [Run.bind_of_ok hok]
      change Refines cost price (nextSpec value) _
      cases hspec : nextSpec value with
      | ok result =>
          rw [hspec] at hvalue
          exact ⟨hvalue.1, by rw [happend, hcost, hvalue.2]⟩
      | error reason =>
          rw [hspec] at hvalue
          exact ⟨hvalue.1, by rw [happend, hcost, hvalue.2, Nat.zero_add]⟩

end Refines

end Traced
