/-
The error values that travel through the daemon.  An `anyhow::Error` is kept
by the dynamic type it carries, because `execute` and `poll_loop_generic`
decide by downcasting what they still have to report.
-/
import Mathlib

namespace UprobeStats

/-- `UprobeStatsError`, with the failure point the BPF side hinted at. -/
inductive UprobeStatsError where
  | bpfProgramError (point : Int64)
  | bpfDataInvalid (point : Int64)
deriving DecidableEq, Repr

def UprobeStatsError.toText : UprobeStatsError → String
  | .bpfProgramError point => "BPF program error: " ++ toString point
  | .bpfDataInvalid point => "BPF data invalid: " ++ toString point

/-- An `anyhow::Error`: a bare message, one of the daemon's own errors, or
another error under the `ReportedToStatsd` marker. -/
inductive AnyError where
  | message (text : String)
  | uprobeStats (error : UprobeStatsError)
  | reportedToStatsd (inner : AnyError)
deriving DecidableEq, Repr

namespace AnyError

/-- The `{}` rendering.  The marker is `#[error(transparent)]`. -/
def toText : AnyError → String
  | message text => text
  | uprobeStats error => error.toText
  | reportedToStatsd inner => inner.toText

/-- `e.is::<ReportedToStatsd>()`. -/
def isReportedToStatsd : AnyError → Bool
  | reportedToStatsd _ => true
  | _ => false

/-- `e.is::<UprobeStatsError>()`. -/
def isUprobeStatsError : AnyError → Bool
  | uprobeStats _ => true
  | _ => false

/-- `e.downcast_ref::<UprobeStatsError>()`. -/
def downcastUprobeStatsError : AnyError → Option UprobeStatsError
  | uprobeStats error => some error
  | _ => none

end AnyError

/-- Taking a successful `?`-chain apart. -/
theorem bind_eq_ok_iff {ε α β : Type} {x : Except ε α} {f : α → Except ε β} {b : β} :
    x >>= f = .ok b ↔ ∃ a, x = .ok a ∧ f a = .ok b := by
  cases x with
  | error e => simp [bind, Except.bind]
  | ok a => simp [bind, Except.bind]

/-- Taking a successful `ensure!` apart. -/
theorem guard_eq_ok_iff {ε β : Type} {c : Prop} [Decidable c] {e : ε}
    {k : PUnit → Except ε β} {b : β} :
    (if c then throw e >>= k else k ()) = .ok b ↔ ¬ c ∧ k () = .ok b := by
  by_cases hc : c
  · simp [hc, throw, throwThe, MonadExceptOf.throw, bind, Except.bind]
  · simp [hc]

/-- Collecting results that are all `Ok`. -/
theorem mapM_eq_ok_map {ε α β : Type} {f : α → Except ε β} {g : α → β} {l : List α}
    (hok : ∀ x ∈ l, f x = .ok (g x)) : l.mapM f = .ok (l.map g) := by
  induction l with
  | nil => rfl
  | cons x l ih =>
      rw [List.mapM_cons, hok x List.mem_cons_self,
        ih fun y hy => hok y (List.mem_cons_of_mem x hy)]
      rfl

/-- Each element has a result among those collected. -/
theorem exists_mem_of_mapM {ε α β : Type} {f : α → Except ε β} {l : List α} {results : List β}
    (hok : l.mapM f = .ok results) {a : α} (ha : a ∈ l) : ∃ b ∈ results, f a = .ok b := by
  induction l generalizing results with
  | nil => cases ha
  | cons x l ih =>
      rw [List.mapM_cons] at hok
      obtain ⟨first, hfirst, hrest⟩ := bind_eq_ok_iff.1 hok
      obtain ⟨rest, hmapM, hcons⟩ := bind_eq_ok_iff.1 hrest
      cases hcons
      rcases List.mem_cons.1 ha with rfl | ha
      · exact ⟨first, List.mem_cons_self, hfirst⟩
      · obtain ⟨b, hb, hfa⟩ := ih hmapM ha
        exact ⟨b, List.mem_cons_of_mem first hb, hfa⟩

/-- Each collected result comes from an element. -/
theorem exists_of_mem_mapM {ε α β : Type} {f : α → Except ε β} {l : List α} {results : List β}
    (hok : l.mapM f = .ok results) {b : β} (hb : b ∈ results) : ∃ a ∈ l, f a = .ok b := by
  induction l generalizing results with
  | nil =>
      cases hok
      cases hb
  | cons x l ih =>
      rw [List.mapM_cons] at hok
      obtain ⟨first, hfirst, hrest⟩ := bind_eq_ok_iff.1 hok
      obtain ⟨rest, hmapM, hcons⟩ := bind_eq_ok_iff.1 hrest
      cases hcons
      rcases List.mem_cons.1 hb with rfl | hb
      · exact ⟨x, List.mem_cons_self, hfirst⟩
      · obtain ⟨a, ha, hfa⟩ := ih hmapM hb
        exact ⟨a, List.mem_cons_of_mem x ha, hfa⟩

/-- `std::time::Duration`, as a number of nanoseconds. -/
structure Duration where
  nanos : Nat
deriving DecidableEq, Repr, Inhabited

namespace Duration

def fromSecs (seconds : Nat) : Duration := ⟨seconds * 1000000000⟩

def fromNanos (nanos : UInt64) : Duration := ⟨nanos.toNat⟩

def asMillis (d : Duration) : Nat := d.nanos / 1000000

def saturatingSub (d e : Duration) : Duration := ⟨d.nanos - e.nanos⟩

end Duration

end UprobeStats
