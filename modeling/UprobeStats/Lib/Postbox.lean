/-
Letters to many receivers.  Every letter stays in the box with what became of
it.  A receiver answers its letters in the order in which they were posted,
and letters that wait can be lost.
-/
import Mathlib.Tactic

universe u v w

/-- What became of a letter. -/
inductive Fate (β : Type w) where
  | waiting
  | lost
  | answered (answer : β)
deriving DecidableEq

structure Letter (κ : Type u) (α : Type v) (β : Type w) where
  receiver : κ
  message : α
  fate : Fate β

namespace Letter

variable {κ : Type u} {α : Type v} {β : Type w}

/-- The answer, if the letter has one. -/
def answer? (letter : Letter κ α β) : Option β :=
  match letter.fate with
  | .answered answer => some answer
  | _ => none

def isWaiting (letter : Letter κ α β) : Bool :=
  match letter.fate with
  | .waiting => true
  | _ => false

theorem answer?_of_isWaiting {letter : Letter κ α β} (hwaiting : letter.isWaiting = true) :
    letter.answer? = none := by
  cases hfate : letter.fate <;> simp [isWaiting, answer?, hfate] at hwaiting ⊢

variable [DecidableEq κ]

/-- The letter waits for this receiver. -/
def waitsFor (receiver : κ) (letter : Letter κ α β) : Bool :=
  decide (letter.receiver = receiver) && letter.isWaiting

theorem waitsFor_iff {receiver : κ} {letter : Letter κ α β} :
    letter.waitsFor receiver = true ↔ letter.receiver = receiver ∧ letter.isWaiting = true := by
  rw [waitsFor, Bool.and_eq_true, decide_eq_true_eq]

/-- What this receiver has answered to the letter. -/
def answerOf (receiver : κ) (letter : Letter κ α β) : Option β :=
  if letter.receiver = receiver then letter.answer? else none

/-- The letter is lost if it waits for this receiver. -/
def loseFor (receiver : κ) (letter : Letter κ α β) : Letter κ α β :=
  if letter.waitsFor receiver then { letter with fate := .lost } else letter

@[simp] theorem receiver_loseFor (receiver : κ) (letter : Letter κ α β) :
    (letter.loseFor receiver).receiver = letter.receiver := by
  rw [loseFor]
  split <;> rfl

@[simp] theorem message_loseFor (receiver : κ) (letter : Letter κ α β) :
    (letter.loseFor receiver).message = letter.message := by
  rw [loseFor]
  split <;> rfl

@[simp] theorem answer?_loseFor (receiver : κ) (letter : Letter κ α β) :
    (letter.loseFor receiver).answer? = letter.answer? := by
  rw [loseFor]
  split
  · rename_i hwaits
    rw [answer?_of_isWaiting (waitsFor_iff.1 hwaits).2]
    rfl
  · rfl

theorem isWaiting_of_loseFor {receiver : κ} {letter : Letter κ α β}
    (hwaiting : (letter.loseFor receiver).isWaiting = true) : letter.isWaiting = true := by
  rw [loseFor] at hwaiting
  split at hwaiting
  · cases hwaiting
  · exact hwaiting

end Letter

namespace Postbox

variable {κ : Type u} {α : Type v} {β : Type w}

/-- No letter is answered while an earlier one to the same receiver waits. -/
def Ordered (letters : List (Letter κ α β)) : Prop :=
  letters.Pairwise fun earlier later =>
    earlier.receiver = later.receiver → earlier.isWaiting = true → later.answer? = none

theorem Ordered.concat {letters : List (Letter κ α β)} (hordered : Ordered letters)
    {letter : Letter κ α β} (hnone : letter.answer? = none) : Ordered (letters ++ [letter]) := by
  refine List.pairwise_append.2 ⟨hordered, List.pairwise_singleton _ _, ?_⟩
  intro earlier _ later hlater _ _
  rwa [List.mem_singleton.1 hlater]

variable [DecidableEq κ]

/-- The answers of a receiver, in the order of the letters. -/
def answersOf (receiver : κ) (letters : List (Letter κ α β)) : List β :=
  letters.filterMap (Letter.answerOf receiver)

theorem answersOf_cons (receiver : κ) (letter : Letter κ α β) (rest : List (Letter κ α β)) :
    answersOf receiver (letter :: rest) =
      (letter.answerOf receiver).toList ++ answersOf receiver rest := by
  rw [answersOf, List.filterMap_cons]
  cases letter.answerOf receiver <;> rfl

/-- The receiver answers the first letter that waits for it. -/
def answerFirst (receiver : κ) (reply : α → β) :
    List (Letter κ α β) → List (Letter κ α β) × Option β
  | [] => ([], none)
  | letter :: rest =>
      if letter.waitsFor receiver then
        ({ letter with fate := .answered (reply letter.message) } :: rest,
          some (reply letter.message))
      else
        let (answered, answer) := answerFirst receiver reply rest
        (letter :: answered, answer)

/-- The answers of one receiver among those of all. -/
def givenBy (receiver : κ) (answers : List (κ × β)) : List β :=
  answers.filterMap fun answer => if answer.1 = receiver then some answer.2 else none

section AnswerFirst

variable {receiver : κ} {reply : α → β} {letter : Letter κ α β} {letters : List (Letter κ α β)}

theorem answerFirst_of_waits (hwaits : letter.waitsFor receiver = true) :
    answerFirst receiver reply (letter :: letters) =
      ({ letter with fate := .answered (reply letter.message) } :: letters,
        some (reply letter.message)) := by
  rw [answerFirst, if_pos hwaits]

theorem answerFirst_of_not_waits (hwaits : ¬ letter.waitsFor receiver = true) :
    answerFirst receiver reply (letter :: letters) =
      (letter :: (answerFirst receiver reply letters).1,
        (answerFirst receiver reply letters).2) := by
  rw [answerFirst, if_neg hwaits]

/-- Each letter that is there after an answer was there before, and it is the
same or it has been answered. -/
theorem mem_answerFirst (hmem : letter ∈ (answerFirst receiver reply letters).1) :
    ∃ old ∈ letters, letter.receiver = old.receiver ∧ letter.message = old.message ∧
      (letter.fate = old.fate ∨
        letter.receiver = receiver ∧ old.isWaiting = true ∧
          letter.fate = .answered (reply letter.message)) := by
  induction letters with
  | nil => cases hmem
  | cons first rest ih =>
      by_cases hwaits : first.waitsFor receiver = true
      · rw [answerFirst_of_waits hwaits] at hmem
        rcases List.mem_cons.1 hmem with rfl | hrest
        · obtain ⟨hreceiver, hwaiting⟩ := Letter.waitsFor_iff.1 hwaits
          exact ⟨first, List.mem_cons_self, rfl, rfl, .inr ⟨hreceiver, hwaiting, rfl⟩⟩
        · exact ⟨letter, List.mem_cons_of_mem first hrest, rfl, rfl, .inl rfl⟩
      · rw [answerFirst_of_not_waits hwaits] at hmem
        rcases List.mem_cons.1 hmem with rfl | hrest
        · exact ⟨letter, List.mem_cons_self, rfl, rfl, .inl rfl⟩
        · obtain ⟨old, hold, hsame⟩ := ih hrest
          exact ⟨old, List.mem_cons_of_mem first hold, hsame⟩

/-- The letters stay what they are. -/
theorem map_answerFirst (receiver : κ) (reply : α → β) (letters : List (Letter κ α β)) :
    (answerFirst receiver reply letters).1.map Letter.message = letters.map Letter.message := by
  induction letters with
  | nil => rfl
  | cons first rest ih =>
      by_cases hwaits : first.waitsFor receiver = true
      · rw [answerFirst_of_waits hwaits]
        rfl
      · rw [answerFirst_of_not_waits hwaits, List.map_cons, List.map_cons, ih]

theorem Ordered.answerFirst (hordered : Ordered letters) (receiver : κ) (reply : α → β) :
    Ordered (answerFirst receiver reply letters).1 := by
  induction letters with
  | nil => exact List.Pairwise.nil
  | cons first rest ih =>
      obtain ⟨hfirst, hrest⟩ := List.pairwise_cons.1 hordered
      by_cases hwaits : first.waitsFor receiver = true
      · rw [answerFirst_of_waits hwaits]
        refine List.pairwise_cons.2 ⟨fun _ _ _ hwaiting => ?_, hrest⟩
        cases hwaiting
      · rw [answerFirst_of_not_waits hwaits]
        refine List.pairwise_cons.2 ⟨?_, ih hrest⟩
        intro later hlater hsame hwaiting
        obtain ⟨old, hold, hreceiver, _, hfate | ⟨hfor, _, _⟩⟩ := mem_answerFirst hlater
        · have hnone := hfirst old hold (hsame.trans hreceiver) hwaiting
          rwa [Letter.answer?, hfate]
        · exact absurd (Letter.waitsFor_iff.2 ⟨hsame.trans hfor, hwaiting⟩) hwaits

/-- The answer comes after all that the receiver has given. -/
theorem answersOf_answerFirst (hordered : Ordered letters) :
    answersOf receiver (answerFirst receiver reply letters).1 =
      answersOf receiver letters ++ (answerFirst receiver reply letters).2.toList := by
  induction letters with
  | nil => rfl
  | cons first rest ih =>
      obtain ⟨hfirst, hrest⟩ := List.pairwise_cons.1 hordered
      by_cases hwaits : first.waitsFor receiver = true
      · obtain ⟨hreceiver, hwaiting⟩ := Letter.waitsFor_iff.1 hwaits
        have hnil : answersOf receiver rest = [] := by
          refine List.filterMap_eq_nil_iff.2 fun later hlater => ?_
          rw [Letter.answerOf]
          split
          · rename_i hlaterFor
            exact hfirst later hlater (hreceiver.trans hlaterFor.symm) hwaiting
          · rfl
        rw [answerFirst_of_waits hwaits, answersOf_cons, answersOf_cons, hnil,
          Letter.answerOf, if_pos hreceiver, Letter.answerOf, if_pos hreceiver,
          Letter.answer?_of_isWaiting hwaiting]
        rfl
      · rw [answerFirst_of_not_waits hwaits, answersOf_cons, answersOf_cons, ih hrest,
          List.append_assoc]

/-- The other receivers have given what they had. -/
theorem answersOf_answerFirst_of_ne {other : κ} (hne : other ≠ receiver) :
    answersOf other (answerFirst receiver reply letters).1 = answersOf other letters := by
  induction letters with
  | nil => rfl
  | cons first rest ih =>
      by_cases hwaits : first.waitsFor receiver = true
      · have hother : first.receiver ≠ other :=
          fun heq => hne (heq.symm.trans (Letter.waitsFor_iff.1 hwaits).1)
        rw [answerFirst_of_waits hwaits, answersOf_cons, answersOf_cons,
          Letter.answerOf, if_neg hother, Letter.answerOf, if_neg hother]
      · rw [answerFirst_of_not_waits hwaits, answersOf_cons, answersOf_cons, ih]

end AnswerFirst

/-! The box. -/

theorem Ordered.loseFor {letters : List (Letter κ α β)} (hordered : Ordered letters)
    (receiver : κ) : Ordered (letters.map (Letter.loseFor receiver)) := by
  refine List.pairwise_map.2 (hordered.imp fun {earlier later} hpair hsame hwaiting => ?_)
  rw [Letter.answer?_loseFor]
  rw [Letter.receiver_loseFor, Letter.receiver_loseFor] at hsame
  exact hpair hsame (Letter.isWaiting_of_loseFor hwaiting)

/-- A letter that has no answer adds none. -/
theorem answersOf_concat {letter : Letter κ α β} (hnone : letter.answer? = none) (receiver : κ)
    (letters : List (Letter κ α β)) :
    answersOf receiver (letters ++ [letter]) = answersOf receiver letters := by
  have hanswer : letter.answerOf receiver = none := by
    rw [Letter.answerOf, hnone]
    exact ite_self none
  rw [answersOf, List.filterMap_append, List.filterMap_cons_none hanswer]
  exact List.append_nil _

/-- Losing letters takes no answer back. -/
theorem answersOf_loseFor (other receiver : κ) (letters : List (Letter κ α β)) :
    answersOf other (letters.map (Letter.loseFor receiver)) = answersOf other letters := by
  rw [answersOf, List.filterMap_map]
  refine List.filterMap_congr fun letter _ => ?_
  rw [Function.comp_apply, Letter.answerOf, Letter.answerOf, Letter.answer?_loseFor,
    Letter.receiver_loseFor]

theorem givenBy_answer (other receiver : κ) (answers : List (κ × β)) (answer : Option β) :
    givenBy other (answers ++ answer.toList.map (receiver, ·)) =
      givenBy other answers ++ if receiver = other then answer.toList else [] := by
  rw [givenBy, List.filterMap_append]
  cases answer with
  | none => simp [givenBy]
  | some answer => by_cases heq : receiver = other <;> simp [givenBy, heq]

end Postbox

/-- The letters, and the answers of all receivers in the order of time. -/
structure Postbox (κ : Type u) (α : Type v) (β : Type w) [DecidableEq κ] where
  letters : List (Letter κ α β)
  answers : List (κ × β)
  ordered : Postbox.Ordered letters
  inOrder : ∀ receiver, Postbox.givenBy receiver answers = Postbox.answersOf receiver letters

namespace Postbox

variable {κ : Type u} {α : Type v} {β : Type w} [DecidableEq κ]

protected def nil : Postbox κ α β := ⟨[], [], List.Pairwise.nil, fun _ => rfl⟩

/-- A letter is on its way, or is lost at once. -/
def post (box : Postbox κ α β) (receiver : κ) (message : α) (arrives : Bool) :
    Postbox κ α β where
  letters := box.letters ++ [⟨receiver, message, if arrives then .waiting else .lost⟩]
  answers := box.answers
  ordered := box.ordered.concat (by cases arrives <;> rfl)
  inOrder other := by
    rw [box.inOrder, answersOf_concat]
    cases arrives <;> rfl

/-- The receiver answers its next letter. -/
def answer (box : Postbox κ α β) (receiver : κ) (reply : α → β) : Postbox κ α β where
  letters := (answerFirst receiver reply box.letters).1
  answers := box.answers ++ (answerFirst receiver reply box.letters).2.toList.map (receiver, ·)
  ordered := box.ordered.answerFirst receiver reply
  inOrder other := by
    rw [givenBy_answer, box.inOrder]
    by_cases heq : receiver = other
    · subst heq
      rw [if_pos rfl, answersOf_answerFirst box.ordered]
    · rw [if_neg heq, answersOf_answerFirst_of_ne (Ne.symm heq), List.append_nil]

/-- What waits for the receiver is lost. -/
def lose (box : Postbox κ α β) (receiver : κ) : Postbox κ α β where
  letters := box.letters.map (Letter.loseFor receiver)
  answers := box.answers
  ordered := box.ordered.loseFor receiver
  inOrder other := by rw [box.inOrder, answersOf_loseFor]

def messages (box : Postbox κ α β) : List α := box.letters.map Letter.message

@[simp] theorem messages_post (box : Postbox κ α β) (receiver : κ) (message : α)
    (arrives : Bool) :
    (box.post receiver message arrives).messages = box.messages ++ [message] := by
  rw [messages, post, List.map_append]
  rfl

@[simp] theorem messages_answer (box : Postbox κ α β) (receiver : κ) (reply : α → β) :
    (box.answer receiver reply).messages = box.messages :=
  map_answerFirst receiver reply box.letters

@[simp] theorem messages_lose (box : Postbox κ α β) (receiver : κ) :
    (box.lose receiver).messages = box.messages := by
  rw [messages, lose, List.map_map, messages]
  exact List.map_congr_left fun letter _ => Letter.message_loseFor receiver letter

/-- Every answer fits its letter. -/
def Fits (fits : α → β → Prop) (box : Postbox κ α β) : Prop :=
  ∀ letter ∈ box.letters, ∀ answer, letter.answer? = some answer → fits letter.message answer

variable {fits : α → β → Prop} {box : Postbox κ α β}

theorem Fits.nil : (Postbox.nil : Postbox κ α β).Fits fits :=
  fun _ hmem => nomatch hmem

theorem Fits.post (hfits : box.Fits fits) (receiver : κ) (message : α) (arrives : Bool) :
    (box.post receiver message arrives).Fits fits := by
  intro letter hmem answer hanswer
  rcases List.mem_append.1 hmem with hold | hnew
  · exact hfits letter hold answer hanswer
  · rw [List.mem_singleton.1 hnew] at hanswer
    cases arrives <;> cases hanswer

theorem Fits.answer (hfits : box.Fits fits) (receiver : κ) {reply : α → β}
    (hreply : ∀ message ∈ box.messages, fits message (reply message)) :
    (box.answer receiver reply).Fits fits := by
  intro letter hmem answer hanswer
  obtain ⟨old, hold, _, hmessage, hfate | ⟨_, _, hfate⟩⟩ := mem_answerFirst hmem
  · rw [Letter.answer?, hfate] at hanswer
    rw [hmessage]
    exact hfits old hold answer hanswer
  · rw [Letter.answer?, hfate] at hanswer
    cases hanswer
    exact hreply _ (hmessage ▸ List.mem_map_of_mem hold)

theorem Fits.lose (hfits : box.Fits fits) (receiver : κ) : (box.lose receiver).Fits fits := by
  intro letter hmem answer hanswer
  obtain ⟨old, hold, rfl⟩ := List.mem_map.1 hmem
  rw [Letter.answer?_loseFor] at hanswer
  rw [Letter.message_loseFor]
  exact hfits old hold answer hanswer

end Postbox
