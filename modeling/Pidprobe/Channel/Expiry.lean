/-
# When a budget is spent, in doubles

`is_expired` asks for the sign of a difference, and the source computes the
difference in doubles.  The clock gives doubles and `Deadline.start` makes one, and a
difference of two doubles keeps its sign when it is rounded (`Rounding.nearest_pos_iff`):
so the check says `True` from the moment `expires_at` on, and at no reading before
(`isExpired_iff_of_onGrid`).

Over a whole run of `TempFileChannel.receive` this leaves two ways to end.  The first
round that finds something in the file, or whose check reads the clock at
`expires_at` or later, decides; every round before it found nothing, in time
(`receive_in_doubles`).
-/

import Pidprobe.Channel.TempFile

namespace Pidprobe

/-! ## The check -/

namespace Deadline

/-- The moment a budget is spent is a double, which the readings of the clock are too, so
the two compare exactly. -/
theorem onGrid_expiresAt (budgetSeconds : ℚ) (pid : Option ℤ) (now : ℚ) :
    letI := Rounding.double
    Rounding.OnGrid 1074 (start budgetSeconds pid now).expiresAt :=
  Rounding.onGrid_nearest 52 1074 _

/-- It is off the exact sum by half the distance of the doubles around it, at most: rounding
is to the nearest. -/
theorem abs_expiresAt_sub_le (budgetSeconds : ℚ) (pid : Option ℤ) (now : ℚ) :
    letI := Rounding.double
    |(start budgetSeconds pid now).expiresAt - (now + budgetSeconds)| ≤
      Rounding.ulp 52 1074 (now + budgetSeconds) / 2 :=
  Rounding.abs_nearest_sub_le 52 1074 _

/-- **The check is exact.**  In doubles, a budget is spent at the readings from
`expires_at` on, and at no other. -/
theorem isExpired_iff_of_onGrid {d : Deadline} {now : ℚ} (hd : Rounding.OnGrid 1074 d.expiresAt)
    (hnow : Rounding.OnGrid 1074 now) :
    letI := Rounding.double
    d.isExpired now = true ↔ d.expiresAt ≤ now := by
  let _ := Rounding.double
  have hsign : 0 < d.remaining now ↔ 0 < d.expiresAt - now := Rounding.nearest_pos_iff (hd.sub hnow)
  rw [isExpired, decide_eq_true_eq, ← not_lt, hsign, sub_pos, not_lt]

end Deadline

/-! ## The run -/

namespace TempFile

/-- A round that goes on: it finds nothing, and its check reads a moment before the
budget is spent. -/
structure Waits (d : Deadline) (poll : Poll) : Prop where
  nothing : pollContent poll.content = .ok []
  early : poll.expiredAt < d.expiresAt

/-- A round that ends the run: with what it finds in the file, whatever the time, or
with the timeout where it finds nothing and its check is not early. -/
inductive Ends (d : Deadline) (poll : Poll) : Except PyError PyStr → Prop
  | found (h : pollContent poll.content ≠ .ok []) : Ends d poll (pollContent poll.content)
  | late (h : pollContent poll.content = .ok []) (hlate : d.expiresAt ≤ poll.expiredAt) :
    Ends d poll (.error d.timeoutError)

section

variable [Rounding] {d : Deadline} {poll : Poll} {polls : List Poll}
  {result : Except PyError PyStr}

omit [Rounding] in
/-- A round waits, or ends the run. -/
theorem waits_or_ends (d : Deadline) (poll : Poll) :
    Waits d poll ∨ ∃ result, Ends d poll result := by
  by_cases hnothing : pollContent poll.content = .ok []
  · rcases lt_or_ge poll.expiredAt d.expiresAt with hearly | hlate
    · exact .inl ⟨hnothing, hearly⟩
    · exact .inr ⟨_, .late hnothing hlate⟩
  · exact .inr ⟨_, .found hnothing⟩

/-- A round that waits is followed by the next. -/
theorem Waits.receive (h : Waits d poll)
    (hexact : d.isExpired poll.expiredAt = true ↔ d.expiresAt ≤ poll.expiredAt) :
    receive d (poll :: polls) = receive d polls := by
  refine receive_of_nothing polls h.nothing ?_
  rw [← Bool.not_eq_true, hexact]
  exact not_le.2 h.early

/-- A round that ends the run does so whatever comes behind it. -/
theorem Ends.receive (h : Ends d poll result)
    (hexact : d.isExpired poll.expiredAt = true ↔ d.expiresAt ≤ poll.expiredAt) :
    receive d (poll :: polls) = some result := by
  rw [TempFile.receive]
  cases h with
  | found h =>
    rcases hc : pollContent poll.content with exc | content
    · rfl
    · cases content with
      | nil => exact absurd hc h
      | cons c content => rfl
  | late h hlate =>
    rw [h]
    exact if_pos (hexact.2 hlate)

/-- Where the checks of a run are exact, it ends with its first round that does not
wait, and it has not ended before. -/
theorem receive_iff_of_exact
    (hexact : ∀ poll ∈ polls, d.isExpired poll.expiredAt = true ↔ d.expiresAt ≤ poll.expiredAt) :
    receive d polls = some result ↔ ∃ before poll after, polls = before ++ poll :: after ∧
      (∀ earlier ∈ before, Waits d earlier) ∧ Ends d poll result := by
  induction polls with
  | nil =>
    refine ⟨nofun, ?_⟩
    rintro ⟨before, poll, after, hpolls, -⟩
    exact absurd hpolls.symm (List.append_ne_nil_of_right_ne_nil _ (List.cons_ne_nil _ _))
  | cons first polls ih =>
    obtain ⟨hfirst, hpolls⟩ := List.forall_mem_cons.1 hexact
    constructor
    · intro h
      rcases waits_or_ends d first with hwaits | ⟨answer, hends⟩
      · rw [hwaits.receive hfirst] at h
        obtain ⟨before, poll, after, rfl, hbefore, hends⟩ := (ih hpolls).1 h
        exact ⟨first :: before, poll, after, rfl, List.forall_mem_cons.2 ⟨hwaits, hbefore⟩, hends⟩
      · rw [hends.receive hfirst] at h
        exact ⟨[], first, polls, rfl, List.forall_mem_nil _, Option.some.inj h ▸ hends⟩
    · rintro ⟨before, poll, after, hsplit, hbefore, hends⟩
      cases before with
      | nil =>
        obtain ⟨rfl, rfl⟩ := List.cons.inj hsplit
        exact hends.receive hfirst
      | cons earlier before =>
        obtain ⟨rfl, rfl⟩ := List.cons.inj hsplit
        obtain ⟨hwaits, hbefore⟩ := List.forall_mem_cons.1 hbefore
        rw [hwaits.receive hfirst]
        exact (ih hpolls).2 ⟨before, poll, after, rfl, hbefore, hends⟩

end

/-- **Polling is exact in doubles.**  For every budget, every reading it starts from and
every run whose checks read doubles off the clock: `receive` ends with the first round
that finds something or whose check is not before `expires_at`, with what is found, or
with the timeout; every round before found nothing, in time.  `expires_at` is the exact
sum up to half a unit in its last place. -/
theorem receive_in_doubles (budgetSeconds : ℚ) (pid : Option ℤ) (now : ℚ) {polls : List Poll}
    (hreadings : ∀ poll ∈ polls, Rounding.OnGrid 1074 poll.expiredAt) :
    letI := Rounding.double
    let d := Deadline.start budgetSeconds pid now
    (∀ result, receive d polls = some result ↔
      ∃ before poll after, polls = before ++ poll :: after ∧
        (∀ earlier ∈ before, Waits d earlier) ∧ Ends d poll result) ∧
      |d.expiresAt - (now + budgetSeconds)| ≤ Rounding.ulp 52 1074 (now + budgetSeconds) / 2 := by
  let _ := Rounding.double
  intro d
  have hd : Rounding.OnGrid 1074 d.expiresAt := Deadline.onGrid_expiresAt budgetSeconds pid now
  exact ⟨fun _ => receive_iff_of_exact fun poll hpoll =>
    Deadline.isExpired_iff_of_onGrid hd (hreadings poll hpoll),
    Deadline.abs_expiresAt_sub_le budgetSeconds pid now⟩

/-- Two rounds that find nothing, with a budget of half a second from `0`: the first waits,
the second ends the run. -/
theorem receive_in_doubles_half :
    letI := Rounding.double
    let d := Deadline.start (1 / 2) none 0
    let polls : List Poll := [⟨none, 1 / 4, 1 / 4⟩, ⟨none, 1 / 2, 1 / 2⟩]
    receive d polls = some (.error d.timeoutError) := by
  let _ := Rounding.double
  intro d polls
  have hquarter : Rounding.OnGrid 1074 (1 / 4) := by
    have h := Rounding.onGrid_zpow_neg (show 2 ≤ 1074 by norm_num)
    norm_num at h ⊢
    exact h
  have hhalf : Rounding.OnGrid 1074 (1 / 2) := by
    have h := Rounding.onGrid_zpow_neg (show 1 ≤ 1074 by norm_num)
    norm_num at h ⊢
    exact h
  have hexpires : d.expiresAt = 1 / 2 := by decide +kernel
  have hreadings : ∀ poll ∈ polls, Rounding.OnGrid 1074 poll.expiredAt :=
    List.forall_mem_cons.2 ⟨hquarter, List.forall_mem_singleton.2 hhalf⟩
  refine ((receive_in_doubles (1 / 2) none 0 hreadings).1 _).2
    ⟨[⟨none, 1 / 4, 1 / 4⟩], ⟨none, 1 / 2, 1 / 2⟩, [], rfl, ?_, .late rfl hexpires.le⟩
  rw [List.forall_mem_singleton]
  exact ⟨rfl, lt_of_lt_of_eq (by norm_num) hexpires.symm⟩

end TempFile
end Pidprobe
