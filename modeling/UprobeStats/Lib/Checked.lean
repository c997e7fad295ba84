/-
Programs over a state that return a value or an error code, and that may leave
the bounds of their memory on the way.  A program is safe in a state if it does
not; what follows a fault is not described.
-/
import Mathlib.Tactic

namespace Checked

universe u

/-- How a program ends. -/
inductive Outcome (ε φ : Type) (α : Type u) where
  | ok (value : α)
  | error (error : ε)
  | fault (fault : φ)
deriving DecidableEq, Repr

/-- A program with states in `σ`, errors in `ε` and faults in `φ`. -/
def Prog (σ ε φ : Type) (α : Type u) := σ → Outcome ε φ α × σ

namespace Prog

variable {σ τ ε φ : Type} {α β : Type u}

/-- Go on with the value, unless there is none. -/
def bind (first : Prog σ ε φ α) (next : α → Prog σ ε φ β) : Prog σ ε φ β := fun s =>
  match first s with
  | (.ok value, s') => next value s'
  | (.error e, s') => (.error e, s')
  | (.fault f, s') => (.fault f, s')

instance : Monad (Prog σ ε φ) where
  pure value := fun s => (.ok value, s)
  bind := bind

/-- Return an error. -/
def fail (e : ε) : Prog σ ε φ α := fun s => (.error e, s)

/-- Leave the bounds of some memory. -/
def crash (f : φ) : Prog σ ε φ α := fun s => (.fault f, s)

/-- Look at the error instead of returning it. -/
def attempt (prog : Prog σ ε φ α) : Prog σ ε φ (Except ε α) := fun s =>
  match prog s with
  | (.ok value, s') => (.ok (.ok value), s')
  | (.error e, s') => (.ok (.error e), s')
  | (.fault f, s') => (.fault f, s')

/-- Leave the bounds unless the condition holds. -/
def check (c : Prop) [Decidable c] (f : φ) : Prog σ ε φ PUnit :=
  if c then pure ⟨⟩ else crash f

/-- The element at an index, which has to be there. -/
def index (values : List α) (i : Nat) (f : φ) : Prog σ ε φ α :=
  match values[i]? with
  | some value => pure value
  | none => crash f

/-- A program on a part of the state. -/
def onPart (get : τ → σ) (set : τ → σ → τ) (prog : Prog σ ε φ α) : Prog τ ε φ α := fun t =>
  ((prog (get t)).1, set t (prog (get t)).2)

@[simp] theorem pure_apply (value : α) (s : σ) :
    (pure value : Prog σ ε φ α) s = (.ok value, s) := rfl

@[simp] theorem fail_apply (e : ε) (s : σ) : (fail e : Prog σ ε φ α) s = (.error e, s) := rfl

@[simp] theorem crash_apply (f : φ) (s : σ) : (crash f : Prog σ ε φ α) s = (.fault f, s) := rfl

theorem check_of {c : Prop} [Decidable c] (hc : c) (f : φ) (s : σ) :
    (check c f : Prog σ ε φ PUnit) s = (.ok ⟨⟩, s) := by
  rw [check, if_pos hc, pure_apply]

theorem check_of_not {c : Prop} [Decidable c] (hc : ¬ c) (f : φ) (s : σ) :
    (check c f : Prog σ ε φ PUnit) s = (.fault f, s) := by
  rw [check, if_neg hc, crash_apply]

theorem index_of_some {values : List α} {i : Nat} {value : α} (hvalue : values[i]? = some value)
    (f : φ) (s : σ) : (index values i f : Prog σ ε φ α) s = (.ok value, s) := by
  rw [index, hvalue]
  rfl

theorem index_of_none {values : List α} {i : Nat} (hvalue : values[i]? = none)
    (f : φ) (s : σ) : (index values i f : Prog σ ε φ α) s = (.fault f, s) := by
  rw [index, hvalue]
  rfl

theorem index_eq_ok_iff {values : List α} {i : Nat} {f : φ} {value : α} {s s' : σ} :
    (index values i f : Prog σ ε φ α) s = (.ok value, s') ↔ values[i]? = some value ∧ s' = s := by
  cases hvalue : values[i]? with
  | none => simp [index_of_none hvalue]
  | some other => simp [index_of_some hvalue, eq_comm]

theorem bind_of_ok {first : Prog σ ε φ α} {s s' : σ} {value : α}
    (hfirst : first s = (.ok value, s')) (next : α → Prog σ ε φ β) :
    (first >>= next) s = next value s' := by
  change bind first next s = _
  rw [bind, hfirst]

theorem bind_of_error {first : Prog σ ε φ α} {s s' : σ} {e : ε}
    (hfirst : first s = (.error e, s')) (next : α → Prog σ ε φ β) :
    (first >>= next) s = (.error e, s') := by
  change bind first next s = _
  rw [bind, hfirst]

theorem bind_of_fault {first : Prog σ ε φ α} {s s' : σ} {f : φ}
    (hfirst : first s = (.fault f, s')) (next : α → Prog σ ε φ β) :
    (first >>= next) s = (.fault f, s') := by
  change bind first next s = _
  rw [bind, hfirst]

theorem bind_apply_eq_ok_iff {first : Prog σ ε φ α} {next : α → Prog σ ε φ β} {s s'' : σ} {value : β} :
    (first >>= next) s = (.ok value, s'') ↔
      ∃ middle s', first s = (.ok middle, s') ∧ next middle s' = (.ok value, s'') := by
  rcases hfirst : first s with ⟨_ | _ | _, s'⟩
  · simp [bind_of_ok hfirst]
  · simp [bind_of_error hfirst]
  · simp [bind_of_fault hfirst]

theorem bind_bind {γ : Type u} (first : Prog σ ε φ α) (second : α → Prog σ ε φ β)
    (third : β → Prog σ ε φ γ) :
    first >>= second >>= third = first >>= fun value => second value >>= third := by
  funext s
  rcases hfirst : first s with ⟨_ | _ | _, s'⟩
  · rw [bind_of_ok hfirst]
    change bind (bind first second) third s = bind (second _) third s'
    simp only [bind, hfirst]
  · rw [bind_of_error hfirst, bind_of_error (bind_of_error hfirst second)]
  · rw [bind_of_fault hfirst, bind_of_fault (bind_of_fault hfirst second)]

theorem eq_ok_of_fst {result : Outcome ε φ α × σ} {value : α} (hresult : result.1 = .ok value) :
    result = (.ok value, result.2) := Prod.ext hresult rfl

theorem attempt_of_ok {prog : Prog σ ε φ α} {s s' : σ} {value : α}
    (hprog : prog s = (.ok value, s')) : prog.attempt s = (.ok (.ok value), s') := by
  rw [attempt, hprog]

theorem attempt_of_error {prog : Prog σ ε φ α} {s s' : σ} {e : ε}
    (hprog : prog s = (.error e, s')) : prog.attempt s = (.ok (.error e), s') := by
  rw [attempt, hprog]

theorem attempt_of_fault {prog : Prog σ ε φ α} {s s' : σ} {f : φ}
    (hprog : prog s = (.fault f, s')) : prog.attempt s = (.fault f, s') := by
  rw [attempt, hprog]

/-! Safety. -/

/-- From this state the program stays within the bounds. -/
def Safe (prog : Prog σ ε φ α) (s : σ) : Prop := ∀ f, (prog s).1 ≠ .fault f

theorem safe_of_ok {prog : Prog σ ε φ α} {s s' : σ} {value : α}
    (hprog : prog s = (.ok value, s')) : prog.Safe s := by
  intro f
  simp [hprog]

theorem safe_of_error {prog : Prog σ ε φ α} {s s' : σ} {e : ε}
    (hprog : prog s = (.error e, s')) : prog.Safe s := by
  intro f
  simp [hprog]

theorem not_safe_of_fault {prog : Prog σ ε φ α} {s s' : σ} {f : φ}
    (hprog : prog s = (.fault f, s')) : ¬ prog.Safe s := by
  intro hsafe
  exact hsafe f (by rw [hprog])

/-- Two steps are safe if the first is, and the second is wherever the first
leads. -/
theorem safe_bind_iff {first : Prog σ ε φ α} {next : α → Prog σ ε φ β} {s : σ} :
    (first >>= next).Safe s ↔
      first.Safe s ∧ ∀ value s', first s = (.ok value, s') → (next value).Safe s' := by
  rcases hfirst : first s with ⟨_ | _ | _, s'⟩
  · simp [Safe, bind_of_ok hfirst, hfirst]
  · simp [Safe, bind_of_error hfirst, hfirst]
  · simp [Safe, bind_of_fault hfirst, hfirst]

theorem safe_attempt_iff {prog : Prog σ ε φ α} {s : σ} : prog.attempt.Safe s ↔ prog.Safe s := by
  rcases hprog : prog s with ⟨_ | _ | _, s'⟩
  · simp [Safe, attempt_of_ok hprog, hprog]
  · simp [Safe, attempt_of_error hprog, hprog]
  · simp [Safe, attempt_of_fault hprog, hprog]

theorem onPart_eq_ok_iff {get : τ → σ} {set : τ → σ → τ} {prog : Prog σ ε φ α} {t t' : τ}
    {value : α} : prog.onPart get set t = (.ok value, t') ↔
      ∃ s', prog (get t) = (.ok value, s') ∧ t' = set t s' := by
  rcases hprog : prog (get t) with ⟨outcome, s'⟩
  simp [onPart, hprog, eq_comm]

/-! Invariants, which hold however the program ends. -/

/-- Wherever the program ends, it keeps what held at its start. -/
def Keeps (prog : Prog σ ε φ α) (Inv : σ → Prop) : Prop := ∀ s, Inv s → Inv (prog s).2

namespace Keeps

variable {Inv : σ → Prop} {prog : Prog σ ε φ α}

theorem pure (value : α) : (Pure.pure value : Prog σ ε φ α).Keeps Inv := fun _ => id

theorem fail (e : ε) : (Prog.fail e : Prog σ ε φ α).Keeps Inv := fun _ => id

theorem index (values : List α) (i : Nat) (f : φ) :
    (Prog.index values i f : Prog σ ε φ α).Keeps Inv := by
  intro s hs
  cases hvalue : values[i]? with
  | none => rwa [index_of_none hvalue]
  | some value => rwa [index_of_some hvalue]

/-- Two steps, the second with the values that the first can have. -/
theorem bind {next : α → Prog σ ε φ β} (hprog : prog.Keeps Inv)
    (hnext : ∀ s value s', prog s = (.ok value, s') → (next value).Keeps Inv) :
    (prog >>= next).Keeps Inv := by
  intro s hs
  have hmiddle := hprog s hs
  rcases hfirst : prog s with ⟨value | _ | _, s'⟩
  · rw [bind_of_ok hfirst]
    rw [hfirst] at hmiddle
    exact hnext s value s' hfirst s' hmiddle
  · rw [bind_of_error hfirst]
    rwa [hfirst] at hmiddle
  · rw [bind_of_fault hfirst]
    rwa [hfirst] at hmiddle

theorem attempt (hprog : prog.Keeps Inv) : prog.attempt.Keeps Inv := by
  intro s hs
  have hend := hprog s hs
  rcases hfirst : prog s with ⟨value | _ | _, s'⟩
  · rw [attempt_of_ok hfirst]
    rwa [hfirst] at hend
  · rw [attempt_of_error hfirst]
    rwa [hfirst] at hend
  · rw [attempt_of_fault hfirst]
    rwa [hfirst] at hend

/-- What holds after a program with a value. -/
theorem of_ok {s s' : σ} {value : α} (hprog : prog.Keeps Inv) (hs : Inv s)
    (hok : prog s = (.ok value, s')) : Inv s' := by
  have hend := hprog s hs
  rwa [hok] at hend

end Keeps

/-! What a program does from a state, and what it needs for that. -/

/-- An ending without a fault. -/
abbrev Ending (σ ε : Type) (α : Type u) := Except ε α × σ

/-- Go on after an ending with a value. -/
def Ending.andThen (ending : Ending σ ε α) (next : α → Ending σ ε β) : Ending σ ε β :=
  match ending.1 with
  | .ok value => next value
  | .error e => (.error e, ending.2)

@[simp] theorem Ending.andThen_ok (value : α) (s : σ) (next : α → Ending σ ε β) :
    Ending.andThen (.ok value, s) next = next value := rfl

@[simp] theorem Ending.andThen_error (e : ε) (s : σ) (next : α → Ending σ ε β) :
    Ending.andThen (.error e, s) next = (.error e, s) := rfl

theorem Ending.of_andThen_ok {ending : Ending σ ε α} {next : α → Ending σ ε β} {result : β}
    (hresult : (ending.andThen next).1 = .ok result) :
    ∃ value, ending.1 = .ok value ∧ ending.andThen next = next value := by
  rcases ending with ⟨e | value, s⟩
  · cases hresult
  · exact ⟨value, rfl, rfl⟩

/-- Without its `fits` the program leaves the bounds; with it, it ends so. -/
structure Does (prog : Prog σ ε φ α) (s : σ) (fits : Prop) (ending : Ending σ ε α) : Prop where
  leaves : ¬ fits → ∃ f s', prog s = (.fault f, s')
  ends : fits → prog s = match ending with
    | (.ok value, s') => (.ok value, s')
    | (.error e, s') => (.error e, s')

namespace Does

variable {prog : Prog σ ε φ α} {s s' : σ} {fits fits' : Prop} {ending ending' : Ending σ ε α}

theorem ends_ok {value : α} (hdoes : prog.Does s fits (.ok value, s')) (hfits : fits) :
    prog s = (.ok value, s') := hdoes.ends hfits

theorem ends_error {e : ε} (hdoes : prog.Does s fits (.error e, s')) (hfits : fits) :
    prog s = (.error e, s') := hdoes.ends hfits

theorem safe_iff (hdoes : prog.Does s fits ending) : prog.Safe s ↔ fits := by
  constructor
  · intro hsafe
    by_contra hfits
    obtain ⟨f, s', hfault⟩ := hdoes.leaves hfits
    exact not_safe_of_fault hfault hsafe
  · intro hfits
    have hends := hdoes.ends hfits
    rcases hending : ending with ⟨_ | _, s'⟩
    · rw [hending] at hends
      exact safe_of_error hends
    · rw [hending] at hends
      exact safe_of_ok hends

/-- Two steps are safe if the first has what it needs, and the second is safe
where the first leads. -/
theorem safe_bind_iff {next : α → Prog σ ε φ β} (hfirst : prog.Does s fits ending) :
    (prog >>= next).Safe s ↔
      fits ∧ ∀ value, ending.1 = .ok value → (next value).Safe ending.2 := by
  rw [Prog.safe_bind_iff, hfirst.safe_iff]
  refine and_congr_right fun hfits => ?_
  have hends := hfirst.ends hfits
  rcases ending with ⟨e | value, s'⟩
  · simp [hends]
  · simp [hends]

/-- A program that ends with a value had what it needed. -/
theorem of_ok {value : α} (hdoes : prog.Does s fits ending) (hok : prog s = (.ok value, s')) :
    fits ∧ ending = (.ok value, s') := by
  have hfits : fits := hdoes.safe_iff.1 (safe_of_ok hok)
  have hends := hdoes.ends hfits
  rw [hok] at hends
  rcases hending : ending with ⟨_ | _, s''⟩
  · simp [hending] at hends
  · simp [hending] at hends
    simp [hfits, hends]

theorem congr (hdoes : prog.Does s fits ending) (hfits : fits ↔ fits') (hending : ending = ending') :
    prog.Does s fits' ending' := by
  rw [← propext hfits, ← hending]
  exact hdoes

theorem pure (value : α) (s : σ) : (Pure.pure value : Prog σ ε φ α).Does s True (.ok value, s) :=
  ⟨fun hfalse => absurd trivial hfalse, fun _ => rfl⟩

theorem fail (e : ε) (s : σ) : (Prog.fail e : Prog σ ε φ α).Does s True (.error e, s) :=
  ⟨fun hfalse => absurd trivial hfalse, fun _ => rfl⟩

theorem crash (f : φ) (s : σ) (ending : Ending σ ε α) :
    (Prog.crash f : Prog σ ε φ α).Does s False ending :=
  ⟨fun _ => ⟨f, s, rfl⟩, False.elim⟩

theorem check (c : Prop) [Decidable c] (f : φ) (s : σ) :
    (Prog.check c f : Prog σ ε φ PUnit).Does s c (.ok ⟨⟩, s) :=
  ⟨fun hc => ⟨f, s, check_of_not hc f s⟩, fun hc => check_of hc f s⟩

theorem index {values : List α} {i : Nat} {value : α} (hvalue : values[i]? = some value) (f : φ)
    (s : σ) : (Prog.index values i f : Prog σ ε φ α).Does s True (.ok value, s) :=
  ⟨fun hfalse => absurd trivial hfalse, fun _ => index_of_some hvalue f s⟩

theorem ite {c : Prop} [Decidable c] {first second : Prog σ ε φ α} {fits₁ fits₂ : Prop}
    {ending₁ ending₂ : Ending σ ε α} (hfirst : first.Does s fits₁ ending₁)
    (hsecond : second.Does s fits₂ ending₂) :
    (if c then first else second).Does s (if c then fits₁ else fits₂)
      (if c then ending₁ else ending₂) := by
  split
  · exact hfirst
  · exact hsecond

/-- Two steps: the second needs what it needs if it is reached. -/
theorem bind {next : α → Prog σ ε φ β} {needs : α → Prop} {then' : α → Ending σ ε β}
    (hfirst : prog.Does s fits ending)
    (hnext : ∀ value, ending.1 = .ok value → (next value).Does ending.2 (needs value) (then' value)) :
    (prog >>= next).Does s (fits ∧ ∀ value, ending.1 = .ok value → needs value)
      (ending.andThen then') := by
  by_cases hfits : fits
  · have hends := hfirst.ends hfits
    rcases ending with ⟨e | value, s'⟩
    · refine ⟨fun hnot => absurd ⟨hfits, by simp⟩ hnot, fun _ => bind_of_error hends next⟩
    · have hvalue := hnext value rfl
      refine ⟨fun hnot => ?_, fun hboth => ?_⟩
      · rw [bind_of_ok hends]
        apply hvalue.leaves
        intro hneeds
        exact hnot ⟨hfits, fun other hother => Except.ok.inj hother ▸ hneeds⟩
      · rw [bind_of_ok hends]
        exact hvalue.ends (hboth.2 value rfl)
  · obtain ⟨f, s', hfault⟩ := hfirst.leaves hfits
    exact ⟨fun _ => ⟨f, s', bind_of_fault hfault next⟩, fun hboth => absurd hboth.1 hfits⟩

/-- Two steps, the second of which always starts from one state. -/
theorem bind_from {next : α → Prog σ ε φ β} {needs : α → Prop} {then' : α → Ending σ ε β}
    (hfirst : prog.Does s fits ending) (hstate : ∀ value, ending.1 = .ok value → ending.2 = s')
    (hnext : ∀ value, ending.1 = .ok value → (next value).Does s' (needs value) (then' value)) :
    (prog >>= next).Does s (fits ∧ ∀ value, ending.1 = .ok value → needs value)
      (ending.andThen then') := by
  refine hfirst.bind ?_
  intro value hvalue
  rw [hstate value hvalue]
  exact hnext value hvalue

/-- Two steps, the first of which has a value. -/
theorem bind_ok {next : α → Prog σ ε φ β} {value : α} {needs : Prop} {then' : Ending σ ε β}
    (hfirst : prog s = (.ok value, s')) (hnext : (next value).Does s' needs then') :
    (prog >>= next).Does s needs then' := by
  refine ⟨fun hneeds => ?_, fun hneeds => ?_⟩
  · rw [bind_of_ok hfirst]
    exact hnext.leaves hneeds
  · rw [bind_of_ok hfirst]
    exact hnext.ends hneeds

/-- Two steps, the first of which has none. -/
theorem bind_error {next : α → Prog σ ε φ β} {e : ε} (hfirst : prog s = (.error e, s')) :
    (prog >>= next).Does s True (.error e, s') :=
  ⟨fun hfalse => absurd trivial hfalse, fun _ => bind_of_error hfirst next⟩

theorem bind_fault {next : α → Prog σ ε φ β} {f : φ} (hfirst : prog s = (.fault f, s'))
    (ending : Ending σ ε β) : (prog >>= next).Does s False ending :=
  ⟨fun _ => ⟨f, s', bind_of_fault hfirst next⟩, False.elim⟩

theorem bind_value {next : α → Prog σ ε φ β} {value : α} {needs : Prop} {then' : Ending σ ε β}
    (hfirst : prog.Does s fits (.ok value, s')) (hnext : (next value).Does s' needs then') :
    (prog >>= next).Does s (fits ∧ needs) then' := by
  by_cases hfits : fits
  · exact (bind_ok (hfirst.ends_ok hfits) hnext).congr (by simp [hfits]) rfl
  · obtain ⟨f, s'', hfault⟩ := hfirst.leaves hfits
    exact (bind_fault hfault then').congr (by simp [hfits]) rfl

theorem bind_exit {next : α → Prog σ ε φ β} {e : ε} (hfirst : prog.Does s fits (.error e, s')) :
    (prog >>= next).Does s fits (.error e, s') := by
  by_cases hfits : fits
  · exact (bind_error (hfirst.ends_error hfits)).congr (by simp [hfits]) rfl
  · obtain ⟨f, s'', hfault⟩ := hfirst.leaves hfits
    exact (bind_fault hfault _).congr (by simp [hfits]) rfl

theorem check_bind {c : Prop} [Decidable c] {f : φ} {next : PUnit → Prog σ ε φ α}
    (hnext : (next ⟨⟩).Does s fits ending) :
    (Prog.check c f >>= next).Does s (c ∧ fits) ending := by
  by_cases hc : c
  · exact (bind_ok (check_of hc f s) hnext).congr (by simp [hc]) rfl
  · exact (bind_fault (check_of_not hc f s) ending).congr (by simp [hc]) rfl

theorem onPart {get : τ → σ} {set : τ → σ → τ} {t : τ} (hdoes : prog.Does (get t) fits ending) :
    (prog.onPart get set).Does t fits (ending.1, set t ending.2) := by
  refine ⟨fun hfits => ?_, fun hfits => ?_⟩
  · obtain ⟨f, s', hfault⟩ := hdoes.leaves hfits
    exact ⟨f, set t s', by rw [Prog.onPart, hfault]⟩
  · have hends := hdoes.ends hfits
    rcases ending with ⟨e | value, s'⟩
    · rw [Prog.onPart, hends]
    · rw [Prog.onPart, hends]

theorem attempt (hdoes : prog.Does s fits ending) :
    prog.attempt.Does s fits (.ok ending.1, ending.2) := by
  refine ⟨fun hfits => ?_, fun hfits => ?_⟩
  · obtain ⟨f, s', hfault⟩ := hdoes.leaves hfits
    exact ⟨f, s', attempt_of_fault hfault⟩
  · have hends := hdoes.ends hfits
    rcases ending with ⟨e | value, s'⟩
    · exact attempt_of_error hends
    · exact attempt_of_ok hends

end Does

/-! Arrays of a fixed size, copied element by element. -/

section Arrays

variable {σ ε : Type} {β : Type} {m n : Nat}

/-- An element of an array. -/
def element (source : Fin m → β) (i : Nat) : Prog σ ε Nat β :=
  if hi : i < m then pure (source ⟨i, hi⟩) else crash i

/-- An assignment to an element of the array that is the state. -/
def store (i : Nat) (value : β) : Prog (Fin n → β) ε Nat PUnit := fun dest =>
  if hi : i < n then (.ok ⟨⟩, Function.update dest ⟨i, hi⟩ value) else (.fault i, dest)

/-- Copy as many elements, from an index on. -/
def copyFrom (source : Fin m → β) : Nat → Nat → Prog (Fin n → β) ε Nat PUnit
  | _, 0 => pure ⟨⟩
  | i, count + 1 => do
      store i (← element source i)
      copyFrom source (i + 1) count

theorem Does.element (source : Fin m → β) (i : Fin m) (s : σ) :
    (Prog.element source i : Prog σ ε Nat β).Does s True (.ok (source i), s) := by
  unfold Prog.element
  rw [dif_pos i.isLt]
  exact Does.pure (source i) s

theorem Does.store {i : Nat} (value : β) (dest : Fin n → β) :
    (Prog.store i value : Prog (Fin n → β) ε Nat PUnit).Does dest (i < n)
      (.ok ⟨⟩, fun j => if (j : Nat) = i then value else dest j) := by
  refine ⟨fun hi => ⟨i, dest, dif_neg hi⟩, fun hi => ?_⟩
  simp only [Prog.store, hi, ↓reduceDIte, Prod.mk.injEq, true_and]
  funext j
  simp only [Function.update_apply, Fin.ext_iff]

/-- A copy has to stay within both arrays. -/
theorem Does.copyFrom (source : Fin m → β) (i count : Nat) (hsource : i + count ≤ m)
    (dest : Fin n → β) :
    (Prog.copyFrom source i count : Prog (Fin n → β) ε Nat PUnit).Does dest
      (count = 0 ∨ i + count ≤ n)
      (.ok ⟨⟩, fun j => if hj : i ≤ j ∧ (j : Nat) < i + count then source ⟨j, by omega⟩
        else dest j) := by
  induction count generalizing i dest with
  | zero =>
      refine (Does.pure _ dest).congr (by simp) ?_
      congr 1
      funext j
      have hj : ¬ (i ≤ (j : Nat) ∧ (j : Nat) < i + 0) := by omega
      rw [dif_neg hj]
  | succ count ih =>
      have hi : i < m := by omega
      have hread : (Prog.element source i : Prog (Fin n → β) ε Nat β).Does dest True
          (.ok (source ⟨i, hi⟩), dest) := Does.element source ⟨i, hi⟩ dest
      have hwrite : (Prog.store i (source ⟨i, hi⟩) : Prog (Fin n → β) ε Nat PUnit).Does dest
          (i < n) _ := Does.store (source ⟨i, hi⟩) dest
      have hrest := ih (i + 1) (by omega)
        (fun j => if (j : Nat) = i then source ⟨i, hi⟩ else dest j)
      refine (hread.bind_value (hwrite.bind_value hrest)).congr ?_ ?_
      · rw [true_and]
        omega
      · congr 1
        funext j
        by_cases hj : (j : Nat) = i
        · simp [hj]
        · have hiff : (i + 1 ≤ (j : Nat) ∧ (j : Nat) < i + 1 + count) ↔
              (i ≤ (j : Nat) ∧ (j : Nat) < i + (count + 1)) := by omega
          simp only [hj, hiff, ↓reduceIte]

end Arrays

end Prog

end Checked
