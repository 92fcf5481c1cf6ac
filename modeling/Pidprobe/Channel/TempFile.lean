/-
# The tempfile transport

`TempFileChannel.receive` of `_channel.py`: read the result file until it holds
something, or until the budget is spent.  A run is given by what each round
meets: the content of the file, if there is one, and the two clock readings the
round takes.
-/

import Pidprobe.Channel.Protocol

namespace Pidprobe
namespace TempFile

open Protocol (readText)

/-- `_POLL_INTERVAL_SECONDS`, the longest sleep between two reads of the result file. -/
def pollIntervalSeconds : ℚ := 5 / 1000

/-- One round of the loop of `receive`: what reading the file meets, and the two readings of
the clock behind an empty one. -/
structure Poll where
  /-- The content of the result file; `none` is `FileNotFoundError`. -/
  content : Option (List Byte)
  expiredAt : ℚ
  sleptAt : ℚ

/-- The `try` of a round: a file that does not exist reads as nothing. Bytes that are no
UTF-8 escape the loop. -/
def pollContent (content : Option (List Byte)) : Except PyError PyStr :=
  match content with
  | none => .ok []
  | some data => readText data

/-- An empty file reads as an empty text. -/
theorem readText_nil : readText [] = .ok [] := rfl

section Receive

variable [Rounding]

/-- The argument of `time.sleep`: an interval, or what is left of the budget where that is
less, and never negative. -/
def sleepSeconds (d : Deadline) (now : ℚ) : ℚ := min pollIntervalSeconds (max (d.remaining now) 0)

/-- `TempFileChannel.receive`; `none` while it is still polling. A round reads first and
looks at the clock afterwards. -/
def receive (d : Deadline) : List Poll → Option (Except PyError PyStr)
  | [] => none
  | poll :: polls =>
    match pollContent poll.content with
    | .error exc => some (.error exc)
    | .ok (c :: content) => some (.ok (c :: content))
    | .ok [] => if d.isExpired poll.expiredAt then some (.error d.timeoutError) else receive d polls

/-- A sleep is short. -/
theorem sleepSeconds_bounds (d : Deadline) (now : ℚ) :
    0 ≤ sleepSeconds d now ∧ sleepSeconds d now ≤ pollIntervalSeconds :=
  ⟨le_min (by norm_num [pollIntervalSeconds]) (le_max_right ..), min_le_left ..⟩

/-- The target leaves these bytes: rounds that find nothing while there is time,
and then the file.  A file that stays empty is polled until the budget is
spent. -/
inductive Leaves (d : Deadline) (bytes : List Byte) : List Poll → Prop
  | absent {poll : Poll} {polls : List Poll} (hc : poll.content = none)
    (ht : d.isExpired poll.expiredAt = false) (h : Leaves d bytes polls) :
    Leaves d bytes (poll :: polls)
  | empty {poll : Poll} {polls : List Poll} (hc : poll.content = some bytes) (hb : bytes = [])
    (ht : d.isExpired poll.expiredAt = false) (h : Leaves d bytes polls) :
    Leaves d bytes (poll :: polls)
  | last {poll : Poll} {polls : List Poll} (hc : poll.content = some bytes)
    (ht : bytes = [] → d.isExpired poll.expiredAt = true) : Leaves d bytes (poll :: polls)

/-- A round that reads nothing while there is time is followed by the next. -/
theorem receive_of_nothing {d : Deadline} {poll : Poll} (polls : List Poll)
    (hc : pollContent poll.content = .ok []) (ht : d.isExpired poll.expiredAt = false) :
    receive d (poll :: polls) = receive d polls := by
  rw [receive, hc]
  exact if_neg (by simp [ht])

/-- A file without an answer in it is polled until the budget is spent, and then the call
times out. -/
theorem receive_of_leaves_nil {d : Deadline} {polls : List Poll} (h : Leaves d [] polls) :
    receive d polls = some (.error d.timeoutError) := by
  induction h with
  | absent hc ht _ ih => rw [receive_of_nothing _ (by rw [hc]; rfl) ht, ih]
  | empty hc _ ht _ ih => rw [receive_of_nothing _ (by rw [hc]; exact readText_nil) ht, ih]
  | last hc ht =>
    rw [receive, hc, pollContent, readText_nil]
    exact if_pos (ht rfl)

/-- A file with something in it is returned as its text, whenever it appears and whatever
the clock shows then. -/
theorem receive_of_leaves {d : Deadline} {bytes : List Byte} {polls : List Poll}
    (h : Leaves d bytes polls) (hne : bytes ≠ []) :
    receive d polls = some (readText bytes) := by
  have hread : readText bytes ≠ .ok [] := by
    intro he
    unfold readText at he
    rcases hd : Utf8.decode bytes with _ | text <;> rw [hd] at he
    · cases he
    · rw [Except.ok.injEq, TextWrap.translateNewlines_eq_nil] at he
      exact hne (Utf8.decode_eq_nil.1 (he ▸ hd))
  induction h with
  | absent hc ht _ ih => rw [receive_of_nothing _ (by rw [hc]; rfl) ht, ih]
  | empty _ hb => exact absurd hb hne
  | last hc _ =>
    simp only [receive, pollContent, hc]
    rcases hr : readText bytes with exc | text
    · rfl
    · cases text with
      | nil => exact absurd hr hread
      | cons c text => rfl

end Receive

end TempFile
end Pidprobe
