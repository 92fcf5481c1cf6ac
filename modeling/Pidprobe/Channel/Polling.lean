/-
# Polling ends on time

The loop of `TempFileChannel.receive` has no counter.  Over exact arithmetic its
measure is the budget that is left: a sleep takes a poll interval of it, or all of it
(`Rounds.expired_or_le`), so a round beyond `⌈budget / interval⌉` finds it spent.

The rounds of a run are those of a clock on which `sleep(t)` advances by at least
`t` (`Rounds`), and the result file appears, complete, at some moment or never
(`ResultFile`).
-/

import Mathlib.Algebra.Order.Floor.Semiring
import Mathlib.Data.Rat.Floor
import Pidprobe.Channel.TempFile

namespace Pidprobe
namespace TempFile

open Protocol (readText)

attribute [local instance] Rounding.exact

/-! ## Sleeping, over exact arithmetic -/

/-- A budget is spent from the moment it expires at. -/
theorem isExpired_iff {d : Deadline} {now : ℚ} : d.isExpired now = true ↔ d.expiresAt ≤ now := by
  rw [Deadline.isExpired, decide_eq_true_eq]
  exact sub_nonpos

/-- A budget is not spent before that moment. -/
theorem not_isExpired_iff {d : Deadline} {now : ℚ} :
    d.isExpired now = false ↔ now < d.expiresAt := by
  rw [← Bool.not_eq_true, isExpired_iff, not_le]

/-- A sleep ends by the deadline, or is none: it is cut to what is left of the budget at the
reading in front of it. -/
theorem sleepSeconds_le (d : Deadline) (now : ℚ) :
    sleepSeconds d now = 0 ∨ now + sleepSeconds d now ≤ d.expiresAt := by
  rcases le_total (d.expiresAt - now) 0 with hspent | hleft
  · left
    have hmax : max (d.remaining now) 0 = 0 := max_eq_right hspent
    rw [sleepSeconds, hmax, min_eq_right (by norm_num [pollIntervalSeconds])]
  · right
    have hmax : max (d.remaining now) 0 = d.expiresAt - now := max_eq_left hleft
    calc now + sleepSeconds d now ≤ now + (d.expiresAt - now) := by
          rw [sleepSeconds, hmax]
          gcongr
          exact min_le_right ..
      _ = d.expiresAt := add_sub_cancel ..

/-! ## The rounds of a run -/

/-- The result file: when it is renamed into place, if ever, with what in it. A rename shows
it whole, and it is never empty. -/
structure ResultFile where
  appearsAt : Option ℚ
  bytes : List Byte
  complete : bytes ≠ []

/-- The file is in place. -/
def ResultFile.inPlace (file : ResultFile) (now : ℚ) : Bool := file.appearsAt.any (· ≤ now)

/-- What reading the file meets. -/
def ResultFile.contentAt (file : ResultFile) (now : ℚ) : Option (List Byte) :=
  if file.inPlace now then some file.bytes else none

/-- A clock during `receive`: when the budget starts, and when each round reads
the file, asks whether the budget is spent, and computes its sleep. -/
structure Rounds (budgetSeconds : ℚ) (pid : Option ℤ) where
  startedAt : ℚ
  readAt : ℕ → ℚ
  expiredAt : ℕ → ℚ
  sleptAt : ℕ → ℚ
  started : startedAt ≤ readAt 0
  read_le : ∀ i, readAt i ≤ expiredAt i
  expired_le : ∀ i, expiredAt i ≤ sleptAt i
  /-- A sleep takes at least as long as asked for. -/
  slept : ∀ i, sleptAt i +
    sleepSeconds (Deadline.start budgetSeconds pid startedAt) (sleptAt i) ≤ readAt (i + 1)

namespace Rounds

variable {budgetSeconds : ℚ} {pid : Option ℤ} (rounds : Rounds budgetSeconds pid)
  (file : ResultFile)

/-- The deadline of the run, started at the first reading of the clock. -/
def deadline : Deadline := Deadline.start budgetSeconds pid rounds.startedAt

/-- What round `i` meets: the file as it is at the moment of the read, and the clock as the
round reads it. -/
def poll (i : ℕ) : Poll :=
  ⟨file.contentAt (rounds.readAt i), rounds.expiredAt i, rounds.sleptAt i⟩

/-- The first `n` rounds. -/
def polls (n : ℕ) : List Poll := (List.range n).map (rounds.poll file)

/-- Round `i` is not the last one: the file is not in place when it is read, and the budget
is not spent behind that. -/
def GoesOn (i : ℕ) : Prop :=
  file.inPlace (rounds.readAt i) = false ∧ rounds.deadline.isExpired (rounds.expiredAt i) = false

variable {rounds file}

/-- A round that goes on is followed by the next. -/
theorem receive_goesOn {i : ℕ} (h : rounds.GoesOn file i) (later : List Poll) :
    receive rounds.deadline (rounds.poll file i :: later) = receive rounds.deadline later := by
  refine receive_of_nothing later ?_ h.2
  rw [poll, ResultFile.contentAt, h.1]
  rfl

/-- Rounds that go on are followed by the next ones: `receive` comes to what it comes to
behind them. -/
theorem receive_polls {n : ℕ} (h : ∀ i < n, rounds.GoesOn file i) (later : List Poll) :
    receive rounds.deadline (rounds.polls file n ++ later) = receive rounds.deadline later := by
  induction n generalizing later with
  | zero => rfl
  | succ n ih =>
    rw [polls, List.range_succ, List.map_append, List.append_assoc]
    refine (ih (fun i hi => h i (Nat.lt_succ_of_lt hi)) _).trans ?_
    exact receive_goesOn (h n (Nat.lt_succ_self n)) later

/-- **What a round takes of the budget.**  The next one finds it spent, or a poll
interval more of it is gone. -/
theorem expired_or_le (i : ℕ) : rounds.deadline.isExpired (rounds.expiredAt (i + 1)) = true ∨
    rounds.expiredAt i + pollIntervalSeconds ≤ rounds.expiredAt (i + 1) := by
  have hslept := rounds.slept i
  have hread := rounds.read_le (i + 1)
  have hexpired := rounds.expired_le i
  rcases min_choice pollIntervalSeconds (max (rounds.deadline.remaining (rounds.sleptAt i)) 0) with
    hmin | hmin
  · right
    have hfull : sleepSeconds rounds.deadline (rounds.sleptAt i) = pollIntervalSeconds := hmin
    rw [deadline] at hfull
    linarith
  · -- the sleep takes what is left
    left
    have hrest : rounds.deadline.expiresAt - rounds.sleptAt i ≤
        sleepSeconds rounds.deadline (rounds.sleptAt i) := (le_max_left _ _).trans hmin.ge
    rw [isExpired_iff]
    rw [deadline] at hrest ⊢
    linarith

/-- A round that goes on has time left, and as many intervals behind it as there were
rounds, since each of them slept a whole one. -/
theorem le_expiredAt {n : ℕ} (h : ∀ i ≤ n, rounds.GoesOn file i) :
    rounds.startedAt + n * pollIntervalSeconds ≤ rounds.expiredAt n := by
  induction n with
  | zero =>
    have hstarted := rounds.started
    have hread := rounds.read_le 0
    push_cast
    linarith
  | succ n ih =>
    have hn := ih fun i hi => h i (Nat.le_succ_of_le hi)
    rcases rounds.expired_or_le n with hexpired | hle
    · rw [(h (n + 1) le_rfl).2] at hexpired
      cases hexpired
    · push_cast
      linarith

/-- Some round within the budget is the last one: so many sleeps of one interval would spend
it. -/
theorem exists_not_goesOn (rounds : Rounds budgetSeconds pid) (file : ResultFile) :
    ∃ n ≤ ⌈budgetSeconds / pollIntervalSeconds⌉₊, ¬rounds.GoesOn file n := by
  by_contra hall
  push Not at hall
  have hle := le_expiredAt hall
  have hceil := Nat.le_ceil (budgetSeconds / pollIntervalSeconds)
  rw [div_le_iff₀ (by norm_num [pollIntervalSeconds])] at hceil
  have htime := not_isExpired_iff.1 (hall _ le_rfl).2
  have hexpires : rounds.deadline.expiresAt = rounds.startedAt + budgetSeconds := rfl
  linarith

/-- The last round of a run, and the rounds before it, which all go on. -/
theorem exists_last (rounds : Rounds budgetSeconds pid) (file : ResultFile) :
    ∃ last ≤ ⌈budgetSeconds / pollIntervalSeconds⌉₊, ¬rounds.GoesOn file last ∧
      ∀ i < last, rounds.GoesOn file i := by
  classical
  obtain ⟨bound, hbound, hends⟩ := exists_not_goesOn rounds file
  have hex : ∃ i, ¬rounds.GoesOn file i := ⟨bound, hends⟩
  exact ⟨Nat.find hex, (Nat.find_min' hex hends).trans hbound, Nat.find_spec hex, fun i hi =>
    not_not.1 (Nat.find_min hex hi)⟩

/-- A text is not a timeout. -/
theorem readText_ne_timeout (d : Deadline) (bytes : List Byte) :
    readText bytes ≠ .error d.timeoutError := by
  unfold readText Deadline.timeoutError
  split
  · nofun
  · nofun

/-- The last round returns the file, or the time is up; it never does both, since the file
is read first. -/
theorem receive_last {i : ℕ} (h : ¬rounds.GoesOn file i) :
    ∃ result, receive rounds.deadline [rounds.poll file i] = some result ∧
      ((file.inPlace (rounds.readAt i) = true ∧ result = readText file.bytes) ∨
        (file.inPlace (rounds.readAt i) = false ∧
          rounds.deadline.isExpired (rounds.expiredAt i) = true ∧
          result = .error rounds.deadline.timeoutError)) := by
  rcases hplace : file.inPlace (rounds.readAt i)
  · have hexpired : rounds.deadline.isExpired (rounds.expiredAt i) = true := by
      by_contra htime
      exact h ⟨hplace, Bool.not_eq_true _ ▸ htime⟩
    have hcontent : (rounds.poll file i).content = none := by
      rw [poll, ResultFile.contentAt, hplace]
      rfl
    refine ⟨_, ?_, .inr ⟨rfl, hexpired, rfl⟩⟩
    rw [receive, hcontent]
    exact if_pos hexpired
  · have hcontent : (rounds.poll file i).content = some file.bytes := by
      rw [poll, ResultFile.contentAt, hplace]
      rfl
    have hleaves : Leaves rounds.deadline file.bytes [rounds.poll file i] :=
      .last hcontent fun hempty => absurd hempty file.complete
    exact ⟨_, receive_of_leaves hleaves file.complete, .inl ⟨rfl, rfl⟩⟩

/-- A run of `receive` that reads the file `n` times and comes to `result`, with all that is
asked of the reads, the sleeps and the result. -/
structure EndsOnTime (rounds : Rounds budgetSeconds pid) (file : ResultFile) (n : ℕ)
    (result : Except PyError PyStr) : Prop where
  polling : ∀ m < n, receive rounds.deadline (rounds.polls file m) = none
  returns : receive rounds.deadline (rounds.polls file n) = some result
  reads : n ≤ ⌈budgetSeconds / pollIntervalSeconds⌉₊ + 1
  /-- What a round that is not the last one asks to sleep. -/
  sleeps : ∀ i, i + 1 < n → 0 ≤ sleepSeconds rounds.deadline (rounds.sleptAt i) ∧
    (sleepSeconds rounds.deadline (rounds.sleptAt i) = 0 ∨
      rounds.sleptAt i + sleepSeconds rounds.deadline (rounds.sleptAt i) ≤
        rounds.deadline.expiresAt)
  /-- The file is returned if it was in place at any of the reads. -/
  content : (∃ i < n, file.inPlace (rounds.readAt i) = true) → result = readText file.bytes
  /-- A timeout is raised where it was not, at a reading behind the deadline. -/
  timeout : result = .error rounds.deadline.timeoutError →
    ∃ i, n = i + 1 ∧ rounds.deadline.expiresAt ≤ rounds.expiredAt i
  outcome : result = readText file.bytes ∨ result = .error rounds.deadline.timeoutError

/-- **Polling ends on time**, and one read earlier than it could: after at most as many
reads as there are intervals in the budget, and one, whenever the file appears and however
long the sleeps really take. -/
theorem polling_ends_on_time (rounds : Rounds budgetSeconds pid) (file : ResultFile) :
    ∃ n result, rounds.EndsOnTime file n result := by
  obtain ⟨last, hle, hlast, hbefore⟩ := exists_last rounds file
  obtain ⟨result, hreceive, hcases⟩ := receive_last hlast
  refine ⟨last + 1, result, ⟨fun m hm => ?_, ?_, by omega, fun i _ =>
    ⟨(sleepSeconds_bounds _ _).1, sleepSeconds_le _ _⟩, ?_, fun htimeout => ?_, ?_⟩⟩
  · have hpolls := receive_polls (fun i hi => hbefore i (by omega)) [] (n := m)
    rwa [List.append_nil] at hpolls
  · rw [polls, List.range_succ, List.map_append]
    exact (receive_polls hbefore _).trans hreceive
  · rintro ⟨i, hi, hplace⟩
    rcases (Nat.lt_succ_iff.1 hi).lt_or_eq with hi | rfl
    · rw [(hbefore i hi).1] at hplace
      cases hplace
    · rcases hcases with ⟨-, hresult⟩ | ⟨habsent, -⟩
      · exact hresult
      · rw [habsent] at hplace
        cases hplace
  · rcases hcases with ⟨-, hresult⟩ | ⟨-, hexpired, -⟩
    · exact absurd (hresult.symm.trans htimeout) (readText_ne_timeout _ _)
    · exact ⟨last, rfl, isExpired_iff.1 hexpired⟩
  · rcases hcases with ⟨-, hresult⟩ | ⟨-, -, hresult⟩
    · exact .inl hresult
    · exact .inr hresult

/-- On a clock on which nothing else takes time, a round takes a poll interval at
most. -/
example : Nonempty (Rounds budgetSeconds pid) :=
  ⟨{  startedAt := 0
      readAt := fun i => i * pollIntervalSeconds
      expiredAt := fun i => i * pollIntervalSeconds
      sleptAt := fun i => i * pollIntervalSeconds
      started := by simp
      read_le := fun _ => le_rfl
      expired_le := fun _ => le_rfl
      slept := fun i => by
        have hshort := (sleepSeconds_bounds (Deadline.start budgetSeconds pid 0)
          (i * pollIntervalSeconds)).2
        push_cast
        linarith }⟩

end Rounds
end TempFile
end Pidprobe
