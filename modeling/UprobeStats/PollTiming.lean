/-
One polling loop with everything that it calls: the clock, the ring buffer and
the handler.  The timer counts in milliseconds without a bound, the ring buffer
takes a timeout of 31 bits.
-/
import UprobeStats.Poll

namespace UprobeStats

open Traced

/-- What the loop calls. -/
inductive PollCall (T : Type) where
  | elapsed (millis : Nat)
  | poll (timeoutMs : Int32)
  | onItem (item : T)
  | onFinished
deriving DecidableEq, Repr

/-- The clock when a turn of the loop starts, and what the ring buffer has for
it. -/
structure Turn (T : Type) where
  elapsedMillis : Nat
  result : List T

/-- Where the loop is after some turns. -/
inductive PollPhase where
  | running
  | returned
  | failed (fault : PollFault)
deriving DecidableEq, Repr

section PollTurns

variable {T : Type} (durationFits : Nat → Bool) (duration : Duration)

/-- `poll_loop_generic` over the next turns, when every poll and every call of
the handler succeeds. -/
def pollTurns : List (Turn T) → List (PollCall T) × PollPhase
  | [] => ([], .running)
  | turn :: rest =>
      match remainingMillis duration turn.elapsedMillis with
      | none =>
          ([.elapsed turn.elapsedMillis, .onFinished],
            if durationFits duration.asMillis then .returned else .failed .durationConversion)
      | some remaining =>
          match tryIntoI32 remaining with
          | .error _ => ([.elapsed turn.elapsedMillis], .failed .timeoutConversion)
          | .ok timeoutMs =>
              let next := pollTurns rest
              (.elapsed turn.elapsedMillis :: .poll timeoutMs ::
                (turn.result.map .onItem ++ next.1), next.2)

/-- A turn within the duration: the poll for what remains, and its items in
order. -/
def served (turn : Turn T) : List (PollCall T) :=
  .elapsed turn.elapsedMillis ::
    .poll (Int32.ofNat (duration.asMillis - turn.elapsedMillis)) ::
      turn.result.map .onItem

/-- The turn is within the duration, and what remains fits the timeout. -/
def Turn.Within (turn : Turn T) : Prop :=
  turn.elapsedMillis ≤ duration.asMillis ∧ duration.asMillis - turn.elapsedMillis < 2 ^ 31

/-- What the loop should have done after these turns: it has served every turn
so far, or it has served those up to the first beyond the duration, then called
`on_finished` and returned. -/
inductive PolledToItsEnd : List (Turn T) → List (PollCall T) × PollPhase → Prop
  | running {turns : List (Turn T)} (hwithin : ∀ turn ∈ turns, turn.Within duration) :
      PolledToItsEnd turns (turns.flatMap (served duration), .running)
  | returned {before : List (Turn T)} {last : Turn T} (rest : List (Turn T))
      (hwithin : ∀ turn ∈ before, turn.Within duration)
      (hlate : duration.asMillis < last.elapsedMillis) :
      PolledToItsEnd (before ++ last :: rest)
        (before.flatMap (served duration) ++ [.elapsed last.elapsedMillis, .onFinished], .returned)

/-- The clock does not go back. -/
def ClockMonotone (turns : List (Turn T)) : Prop :=
  turns.Pairwise fun first second => first.elapsedMillis ≤ second.elapsedMillis

/-- What remains at the first turn fits the timeout, and the duration fits the
atom if the loop gets to write it. -/
structure PollFits (turns : List (Turn T)) : Prop where
  timeout : ∀ turn ∈ turns.head?, duration.asMillis < turn.elapsedMillis + 2 ^ 31
  atom : (∃ turn ∈ turns, duration.asMillis < turn.elapsedMillis) →
    durationFits duration.asMillis = true

end PollTurns

section PollTurns

variable {T : Type} {durationFits : Nat → Bool} {duration : Duration} {turn : Turn T}
  {turns rest : List (Turn T)}

theorem pollTurns_of_within (hwithin : turn.Within duration) :
    pollTurns durationFits duration (turn :: rest) =
      (served duration turn ++ (pollTurns durationFits duration rest).1,
        (pollTurns durationFits duration rest).2) := by
  rw [pollTurns, remainingMillis, if_pos hwithin.1]
  simp only [tryIntoI32_of_lt hwithin.2, served, List.cons_append]

theorem pollTurns_of_late (hlate : duration.asMillis < turn.elapsedMillis) :
    pollTurns durationFits duration (turn :: rest) =
      ([.elapsed turn.elapsedMillis, .onFinished],
        if durationFits duration.asMillis then .returned else .failed .durationConversion) := by
  rw [pollTurns, remainingMillis, if_neg hlate.not_ge]

theorem pollTurns_of_not_fits (hle : turn.elapsedMillis ≤ duration.asMillis)
    (hfits : ¬ turn.Within duration) :
    pollTurns durationFits duration (turn :: rest) =
      ([.elapsed turn.elapsedMillis], .failed .timeoutConversion) := by
  have hmiss : ¬ duration.asMillis - turn.elapsedMillis < 2 ^ 31 := fun hlt => hfits ⟨hle, hlt⟩
  rw [pollTurns, remainingMillis, if_pos hle]
  simp only [tryIntoI32_of_not_lt hmiss]

/-- One more turn at the front. -/
theorem PolledToItsEnd.cons {calls : List (PollCall T)} {phase : PollPhase}
    (hwithin : turn.Within duration) (hpolled : PolledToItsEnd duration rest (calls, phase)) :
    PolledToItsEnd duration (turn :: rest) (served duration turn ++ calls, phase) := by
  cases hpolled with
  | running hrest =>
      rw [← List.flatMap_cons]
      exact .running (List.forall_mem_cons.2 ⟨hwithin, hrest⟩)
  | returned after hbefore hlate =>
      rw [← List.append_assoc, ← List.flatMap_cons, ← List.cons_append]
      exact .returned after (List.forall_mem_cons.2 ⟨hwithin, hbefore⟩) hlate

theorem PolledToItsEnd.not_failed {calls : List (PollCall T)} {fault : PollFault} :
    ¬ PolledToItsEnd duration turns (calls, .failed fault) := by
  rintro ⟨⟩

/-- With a clock that does not go back, less remains at every later turn. -/
theorem ClockMonotone.fits (hmonotone : ClockMonotone turns)
    (htimeout : ∀ turn ∈ turns.head?, duration.asMillis < turn.elapsedMillis + 2 ^ 31) :
    ∀ turn ∈ turns, duration.asMillis < turn.elapsedMillis + 2 ^ 31 := by
  cases turns with
  | nil => simp
  | cons first rest =>
      have hfirst := htimeout first rfl
      refine List.forall_mem_cons.2 ⟨hfirst, ?_⟩
      intro turn hturn
      have hle := (List.pairwise_cons.1 hmonotone).1 turn hturn
      omega

theorem polledToItsEnd_of_fits
    (htimeout : ∀ turn ∈ turns, duration.asMillis < turn.elapsedMillis + 2 ^ 31)
    (hatom : (∃ turn ∈ turns, duration.asMillis < turn.elapsedMillis) →
      durationFits duration.asMillis = true) :
    PolledToItsEnd duration turns (pollTurns durationFits duration turns) := by
  induction turns with
  | nil => exact .running (List.forall_mem_nil _)
  | cons turn rest ih =>
      obtain ⟨hturn, hrest⟩ := List.forall_mem_cons.1 htimeout
      rcases Nat.lt_or_ge duration.asMillis turn.elapsedMillis with hlate | hle
      · rw [pollTurns_of_late hlate, if_pos (hatom ⟨turn, List.mem_cons_self, hlate⟩)]
        exact @PolledToItsEnd.returned _ _ [] turn rest (List.forall_mem_nil _) hlate
      · have hwithin : turn.Within duration := ⟨hle, by omega⟩
        rw [pollTurns_of_within hwithin]
        apply PolledToItsEnd.cons hwithin
        apply ih hrest
        rintro ⟨later, hlater, hlate⟩
        exact hatom ⟨later, List.mem_cons_of_mem turn hlater, hlate⟩

theorem durationFits_of_returned
    (hreturned : (pollTurns durationFits duration turns).2 = .returned) :
    durationFits duration.asMillis = true := by
  induction turns with
  | nil => cases hreturned
  | cons turn rest ih =>
      rcases Nat.lt_or_ge duration.asMillis turn.elapsedMillis with hlate | hle
      · rw [pollTurns_of_late hlate] at hreturned
        by_contra hfits
        simp [hfits] at hreturned
      · by_cases hwithin : turn.Within duration
        · rw [pollTurns_of_within hwithin] at hreturned
          exact ih hreturned
        · rw [pollTurns_of_not_fits hle hwithin] at hreturned
          cases hreturned

theorem PolledToItsEnd.pollFits
    (hpolled : PolledToItsEnd duration turns (pollTurns durationFits duration turns)) :
    PollFits durationFits duration turns := by
  constructor
  · intro turn hturn
    cases turns with
    | nil => simp at hturn
    | cons first rest =>
        obtain rfl : first = turn := by simpa using hturn
        by_contra hmiss
        rw [pollTurns_of_not_fits (by omega) (fun hwithin => by
          have := hwithin.2
          omega)] at hpolled
        exact hpolled.not_failed
  · rintro ⟨turn, hturn, hlate⟩
    apply @durationFits_of_returned _ durationFits duration turns
    generalize pollTurns durationFits duration turns = outcome at hpolled
    cases hpolled with
    | running hwithin => exact absurd (hwithin turn hturn).1 hlate.not_ge
    | returned => rfl

end PollTurns

/-! The loop of `poll_loop_generic` is this loop. -/

/-- What others see of a call. -/
def PollCall.event {T : Type} (mapPath : String) : PollCall T → Option Event
  | .poll timeoutMs => some (.poll mapPath timeoutMs)
  | _ => none

/-- The item that a call hands over. -/
def PollCall.item {T : Type} : PollCall T → Option T
  | .onItem item => some item
  | _ => none

/-- The turn as the loop meets it. -/
def Turn.round {T : Type} (turn : Turn T) : Round T := ⟨turn.elapsedMillis, .ok turn.result⟩

section Simulation

variable {h : Handler} {mapPath : String} {task : ResolvedTask} {apply : h.T → h.S → h.S}

theorem handleItems_of_ok (hitem : ∀ item state, h.onItem task item state = .ok (apply item state))
    (items : List h.T) (state : h.S) :
    handleItems h mapPath task items state =
      ⟨[], .ok (items.foldl (fun state item => apply item state) state)⟩ := by
  induction items generalizing state with
  | nil => rfl
  | cons item rest ih =>
      rw [handleItems, hitem]
      exact ih (apply item state)

theorem filterMap_event_items (items : List h.T) :
    (items.map PollCall.onItem).filterMap (PollCall.event mapPath) = [] := by
  simp [List.filterMap_map, PollCall.event]

theorem filterMap_item_items (items : List h.T) :
    (items.map PollCall.onItem).filterMap PollCall.item = items := by
  rw [List.filterMap_map]
  exact List.filterMap_some

/-- The turns up to the first beyond the duration show the same polls, hand the
same items over in the same order, and stop for the same conversion. -/
theorem pollRounds_turns
    (hitem : ∀ item state, h.onItem task item state = .ok (apply item state))
    (durationFits : Nat → Bool) (duration : Duration) (turns : List (Turn h.T)) (state : h.S)
    (totalEvents : Nat) :
    pollRounds h mapPath task duration (turns.map Turn.round) state totalEvents =
      let polled := pollTurns durationFits duration turns
      ⟨polled.1.filterMap (PollCall.event mapPath),
        if polled.2 = .failed .timeoutConversion then
          .error (.message "out of range integral type conversion attempted")
        else .ok ((polled.1.filterMap PollCall.item).foldl (fun state item => apply item state) state,
          totalEvents + (polled.1.filterMap PollCall.item).length)⟩ := by
  induction turns generalizing state totalEvents with
  | nil => rfl
  | cons turn rest ih =>
      rcases Nat.lt_or_ge duration.asMillis turn.elapsedMillis with hlate | hle
      · have hexpired : remainingMillis duration turn.elapsedMillis = none :=
          if_neg hlate.not_ge
        rw [pollTurns_of_late hlate, List.map_cons, pollRounds]
        simp only [Turn.round, hexpired]
        cases durationFits duration.asMillis <;> rfl
      · have hremaining : remainingMillis duration turn.elapsedMillis =
            some (duration.asMillis - turn.elapsedMillis) := if_pos hle
        rw [List.map_cons, pollRounds]
        simp only [Turn.round, hremaining]
        by_cases hwithin : turn.Within duration
        · rw [pollTurns_of_within hwithin, tryIntoI32_of_lt hwithin.2]
          simp only [Run.bind_ofExcept_ok, foreign, handleItems_of_ok hitem]
          have hrest := ih (turn.result.foldl (fun state item => apply item state) state)
            (totalEvents + turn.result.length)
          change (Run.emit _ >>= fun _ => pollRounds h mapPath task duration
            (rest.map Turn.round) _ (totalEvents + turn.result.length)) = _
          rw [hrest]
          simp only [served, List.cons_append, List.filterMap_cons, List.filterMap_append,
            PollCall.event, PollCall.item, filterMap_event_items, filterMap_item_items,
            List.nil_append, List.foldl_append, List.length_append, ← Nat.add_assoc]
          split <;> rfl
        · have hmiss : ¬ duration.asMillis - turn.elapsedMillis < 2 ^ 31 :=
            fun hlt => hwithin ⟨hle, hlt⟩
          rw [pollTurns_of_not_fits hle hwithin, tryIntoI32_of_not_lt hmiss]
          rfl

/-- Once a turn is beyond the duration, the loop is over. -/
theorem pollTurns_phase {T : Type} {turns : List (Turn T)} (durationFits : Nat → Bool)
    {duration : Duration} (hlate : ∃ turn ∈ turns, duration.asMillis < turn.elapsedMillis) :
    (pollTurns durationFits duration turns).2 = .failed .timeoutConversion ∨
      (pollTurns durationFits duration turns).2 =
        if durationFits duration.asMillis then .returned else .failed .durationConversion := by
  obtain ⟨late, hmem, hlate⟩ := hlate
  induction turns with
  | nil => simp at hmem
  | cons turn rest ih =>
      rcases Nat.lt_or_ge duration.asMillis turn.elapsedMillis with hexpired | hle
      · rw [pollTurns_of_late hexpired]
        exact .inr rfl
      · by_cases hwithin : turn.Within duration
        · rw [pollTurns_of_within hwithin]
          rcases List.mem_cons.1 hmem with rfl | hrest
          · exact absurd hle hlate.not_ge
          · exact ih hrest
        · rw [pollTurns_of_not_fits hle hwithin]
          exact .inl rfl

/-- A loop that meets the end of its duration returns or fails as its turns do. -/
theorem pollLoopGeneric_turns
    (hitem : ∀ item state, h.onItem task item state = .ok (apply item state))
    (hfinished : ∀ state, h.onFinished state = .ok ()) (durationFits : Nat → Bool)
    {duration : Duration} {turns : List (Turn h.T)}
    (hlate : ∃ turn ∈ turns, duration.asMillis < turn.elapsedMillis) :
    let polled := pollTurns durationFits duration turns
    pollLoopGeneric h h.mapPath task duration durationFits ⟨.ok (), turns.map Turn.round⟩ =
      ⟨polled.1.filterMap (PollCall.event h.mapPath) ++
          if polled.2 = .returned then
            [.bpfMapPolled (bpfMapPathToEnum h.mapPath) duration.asMillis
              (polled.1.filterMap PollCall.item).length task.id]
          else [],
        if polled.2 = .returned then .ok ()
        else .error (.message "out of range integral type conversion attempted")⟩ := by
  intro polled
  have hrounds := @pollRounds_turns h h.mapPath task apply hitem durationFits duration turns
    h.default 0
  have hloop : pollLoopGeneric h h.mapPath task duration durationFits
      ⟨.ok (), turns.map Turn.round⟩ =
        pollRounds h h.mapPath task duration (turns.map Turn.round) h.default 0 >>= fun last =>
          Run.silent (h.onFinished last.1) >>= fun _ =>
            if durationFits duration.asMillis then
              Run.emit (.bpfMapPolled (bpfMapPathToEnum h.mapPath) duration.asMillis last.2 task.id)
            else Run.fail (.message "out of range integral type conversion attempted") := by
    rw [pollLoopGeneric, if_neg (not_not_intro rfl)]
    rfl
  rw [hloop, hrounds]
  simp only [hfinished]
  rcases pollTurns_phase durationFits hlate with hphase | hphase
  · simp [polled, hphase, Run.bind_def, Run.bind]
  · cases hfits : durationFits duration.asMillis with
    | true => simp [polled, hphase, hfits, Run.bind_def, Run.bind, Run.silent, Run.emit]
    | false => simp [polled, hphase, hfits, Run.bind_def, Run.bind, Run.silent, Run.fail]

end Simulation

theorem asMillis_of_resolveDuration {seconds : Int32} {duration : Duration}
    (hduration : resolveDuration (some seconds) = .ok duration) :
    duration.asMillis = 1000 * seconds.toInt.toNat := by
  simp only [resolveDuration, required, bind, Except.bind] at hduration
  split at hduration
  · cases hduration
  · cases hduration
    change seconds.toInt.toNat * 1000000000 / 1000000 = 1000 * seconds.toInt.toNat
    omega

/-- An accepted duration is polled to its end exactly when the first timeout
fits 31 bits and the last conversion succeeds. -/
theorem polledToItsEnd_iff {T : Type} {seconds : Int32} {duration : Duration}
    (hduration : resolveDuration (some seconds) = .ok duration) (durationFits : Nat → Bool)
    (turns : List (Turn T)) (hmonotone : ClockMonotone turns) :
    PolledToItsEnd duration turns (pollTurns durationFits duration turns) ↔
      (∀ turn ∈ turns.head?, 1000 * seconds.toInt.toNat < turn.elapsedMillis + 2 ^ 31) ∧
        ((∃ turn ∈ turns, 1000 * seconds.toInt.toNat < turn.elapsedMillis) →
          durationFits (1000 * seconds.toInt.toNat) = true) := by
  have hmillis := asMillis_of_resolveDuration hduration
  constructor
  · intro hpolled
    obtain ⟨htimeout, hatom⟩ := hpolled.pollFits
    rw [hmillis] at htimeout hatom
    exact ⟨htimeout, hatom⟩
  · rintro ⟨htimeout, hatom⟩
    rw [← hmillis] at htimeout hatom
    exact polledToItsEnd_of_fits (hmonotone.fits htimeout) hatom

theorem polledToItsEnd_tenSeconds :
    PolledToItsEnd (.fromSecs 10) [⟨0, [1, 2]⟩, ⟨4000, [3]⟩, ⟨10001, []⟩]
      (pollTurns (fun _ => true) (.fromSecs 10) [⟨0, [1, 2]⟩, ⟨4000, [3]⟩, ⟨10001, []⟩]) := by
  have hduration : resolveDuration (some 10) = .ok (.fromSecs 10) := rfl
  apply (polledToItsEnd_iff hduration (fun _ => true) _ (by simp [ClockMonotone])).2
  exact ⟨by decide, fun _ => rfl⟩

/-- The config takes 2147484 seconds, just under 25 days; the poll does not. -/
theorem not_polledToItsEnd_days25 :
    ¬ ∀ (seconds : Int32) (duration : Duration),
      resolveDuration (some seconds) = .ok duration → ∀ turns : List (Turn Nat),
        ClockMonotone turns →
          PolledToItsEnd duration turns (pollTurns (fun _ => true) duration turns) := by
  intro hclaim
  have hpolled := hclaim 2147484 (.fromSecs 2147484) rfl [⟨0, []⟩] (by simp [ClockMonotone])
  exact absurd (hpolled.pollFits.timeout ⟨0, []⟩ rfl) (by decide)

end UprobeStats
