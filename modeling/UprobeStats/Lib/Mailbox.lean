/-
A mailbox that keeps the history of what was sent to it.  Messages wait in the
order in which they were sent until they are taken out from the front, so what
a reader takes from some moment on is what has been sent since.
-/
import Mathlib.Data.List.Basic

universe u

/-- What has been sent, and what of it still waits. -/
structure Mailbox (α : Type u) where
  sent : List α
  waiting : List α
  waiting_suffix : waiting <:+ sent

namespace Mailbox

variable {α : Type u}

protected def nil : Mailbox α := ⟨[], [], List.suffix_rfl⟩

def send (box : Mailbox α) (message : α) : Mailbox α where
  sent := box.sent ++ [message]
  waiting := box.waiting ++ [message]
  waiting_suffix := by
    obtain ⟨gone, hgone⟩ := box.waiting_suffix
    exact ⟨gone, by rw [← hgone, List.append_assoc]⟩

/-- The first messages are taken out. -/
def take (box : Mailbox α) (count : Nat) : Mailbox α where
  sent := box.sent
  waiting := box.waiting.drop count
  waiting_suffix := (List.drop_suffix count box.waiting).trans box.waiting_suffix

def empty (box : Mailbox α) : Mailbox α := ⟨box.sent, [], List.nil_suffix⟩

@[simp] theorem sent_send (box : Mailbox α) (message : α) :
    (box.send message).sent = box.sent ++ [message] := rfl

@[simp] theorem waiting_send (box : Mailbox α) (message : α) :
    (box.send message).waiting = box.waiting ++ [message] := rfl

@[simp] theorem sent_take (box : Mailbox α) (count : Nat) :
    (box.take count).sent = box.sent := rfl

@[simp] theorem sent_empty (box : Mailbox α) : box.empty.sent = box.sent := rfl

@[simp] theorem waiting_empty (box : Mailbox α) : box.empty.waiting = [] := rfl

/-- A reader that came when `start` messages had been sent has read nothing
but what was sent after that, in order and without a gap. -/
structure HasRead (box : Mailbox α) (start : Nat) (read : List α) : Prop where
  start_le : start ≤ box.sent.length
  read_prefix : read <+: box.sent.drop start

/-- And what it has not read still waits for it. -/
structure ReadsOn (box : Mailbox α) (start : Nat) (read : List α) : Prop where
  start_le : start ≤ box.sent.length
  read_waiting : read ++ box.waiting = box.sent.drop start

variable {box : Mailbox α} {start : Nat} {read : List α}

theorem ReadsOn.hasRead (hreads : box.ReadsOn start read) : box.HasRead start read :=
  ⟨hreads.start_le, box.waiting, hreads.read_waiting⟩

theorem HasRead.zero (box : Mailbox α) : box.HasRead 0 [] :=
  ⟨Nat.zero_le _, List.nil_prefix⟩

/-- A reader that starts by emptying the mailbox. -/
theorem ReadsOn.empty (box : Mailbox α) : box.empty.ReadsOn box.sent.length [] :=
  ⟨Nat.le_refl _, by simp⟩

/-- The same where nothing waits. -/
theorem ReadsOn.of_waiting_nil (hnil : box.waiting = []) :
    box.ReadsOn box.sent.length [] :=
  ⟨Nat.le_refl _, by simp [hnil]⟩

theorem drop_sent_send (message : α) (hstart : start ≤ box.sent.length) :
    (box.send message).sent.drop start = box.sent.drop start ++ [message] := by
  rw [sent_send, List.drop_append_of_le_length hstart]

theorem HasRead.send (hread : box.HasRead start read) (message : α) :
    (box.send message).HasRead start read := by
  refine ⟨Nat.le_trans hread.start_le (by simp), ?_⟩
  rw [drop_sent_send message hread.start_le]
  exact hread.read_prefix.trans (List.prefix_append _ _)

theorem ReadsOn.send (hreads : box.ReadsOn start read) (message : α) :
    (box.send message).ReadsOn start read := by
  refine ⟨Nat.le_trans hreads.start_le (by simp), ?_⟩
  rw [drop_sent_send message hreads.start_le, waiting_send, ← List.append_assoc,
    hreads.read_waiting]

/-- Who takes everything out reads on. -/
theorem ReadsOn.readAll (hreads : box.ReadsOn start read) :
    box.empty.ReadsOn start (read ++ box.waiting) :=
  ⟨hreads.start_le, by simpa using hreads.read_waiting⟩

/-- What is taken out takes nothing back from what was read. -/
theorem HasRead.of_sent_eq {box' : Mailbox α} (hread : box.HasRead start read)
    (hsent : box'.sent = box.sent) : box'.HasRead start read :=
  ⟨hsent ▸ hread.start_le, hsent ▸ hread.read_prefix⟩

/-- Everything that has been read was sent. -/
theorem HasRead.mem_sent (hread : box.HasRead start read) {message : α}
    (hmem : message ∈ read) : message ∈ box.sent.drop start :=
  hread.read_prefix.subset hmem

end Mailbox
