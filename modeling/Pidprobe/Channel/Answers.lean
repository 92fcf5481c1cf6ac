/-
# What either transport makes of the bytes a target leaves

A target that answers leaves some bytes: it sends them over the connection in
chunks of any size, or they are the content of the result file.  `LeftBy` are
the answers of `receive` to such a run.

`receive` decodes the bytes without a handler, so bytes that are not UTF-8 raise
`UnicodeDecodeError`; and the file is read as text, which turns `\r\n` and `\r`
into `\n`.  `answersInContract_iff` says that these are the only bytes the
contract of `receive` does not hold for, whatever the chunks and the timing.
-/

import Pidprobe.Channel.TempFile

namespace Pidprobe
namespace Protocol

section

variable [Rounding]

/-- An answer of `receive` on a channel of this kind to a target that leaves
these bytes within the budget. -/
inductive LeftBy (d : Deadline) (bytes : List Byte) :
    ChannelKind → Option (Except PyError PyStr) → Prop
  | socket {acceptStep : Socket.AcceptStep} {steps : List Socket.RecvStep}
    (ht : Socket.InTime d acceptStep.expiredAt acceptStep.armedAt)
    (hc : acceptStep.outcome = .connected) (h : Socket.Delivers d bytes steps) :
    LeftBy d bytes .unixSocket (Socket.receive d acceptStep steps)
  | tempfile {polls : List TempFile.Poll} (h : TempFile.Leaves d bytes polls) :
    LeftBy d bytes .tempfile (TempFile.receive d polls)

/-- `ChannelError` or `ProbeTimeoutError`, the two that `receive` documents. -/
def IsReceiveError : PyError → Prop
  | .probe (.channel _) => True
  | .probe (.timeout _ _) => True
  | _ => False

/-- The contract of `receive`: the text the bytes encode, or `ChannelError` or
`ProbeTimeoutError` where they encode none or there are no bytes; and one answer
for one sequence of bytes. -/
structure AnswersInContract (kind : ChannelKind) (d : Deadline) (bytes : List Byte) : Prop where
  decodes : ∀ answer, LeftBy d bytes kind answer → ∀ text, Utf8.decode bytes = some text →
    bytes ≠ [] → answer = some (.ok text)
  refuses : ∀ answer, LeftBy d bytes kind answer → Utf8.decode bytes = none ∨ bytes = [] →
    ∃ exc, answer = some (.error exc) ∧ IsReceiveError exc
  oneAnswer : ∀ answer answer', LeftBy d bytes kind answer → LeftBy d bytes kind answer' →
    answer = answer'

/-- What `receive` comes to on these bytes, for either transport: the text, or the error
that the absence or the encoding of it raises. -/
def answerTo (kind : ChannelKind) (d : Deadline) (bytes : List Byte) : Except PyError PyStr :=
  match kind, bytes with
  | .unixSocket, [] =>
    .error (channelError (py "target connected to the return channel but sent nothing"))
  | .tempfile, [] => .error d.timeoutError
  | .unixSocket, b :: bytes =>
    match Utf8.decode (b :: bytes) with
    | some text => .ok text
    | none => .error .unicodeDecode
  | .tempfile, b :: bytes => readText (b :: bytes)

/-- **The chunks and the timing do not matter.** Whatever way the bytes are left, `receive`
comes to the same answer. -/
theorem answer_of_leftBy {kind : ChannelKind} {d : Deadline} {bytes : List Byte}
    {answer : Option (Except PyError PyStr)} (h : LeftBy d bytes kind answer) :
    answer = some (answerTo kind d bytes) := by
  cases h with
  | socket ht hc h =>
    cases bytes with
    | nil => exact Socket.receive_of_delivers_nil ht hc h
    | cons b bytes => exact Socket.receive_of_delivers ht hc h (List.cons_ne_nil _ _)
  | tempfile h =>
    cases bytes with
    | nil => exact TempFile.receive_of_leaves_nil h
    | cons b bytes => exact TempFile.receive_of_leaves h (List.cons_ne_nil _ _)

/-- Every target leaves its bytes in some run, in time and over either transport. -/
theorem exists_leftBy (kind : ChannelKind) (d : Deadline) (bytes : List Byte) :
    ∃ answer, LeftBy d bytes kind answer := by
  cases kind with
  | unixSocket =>
    let acceptStep : Socket.AcceptStep := ⟨d.expiresAt - 1, d.expiresAt - 1, .connected⟩
    have ht : Socket.InTime d acceptStep.expiredAt acceptStep.armedAt := by
      rw [Socket.InTime, Deadline.remaining_second]
      norm_num [Socket.maxTimeout]
    have hd : ∃ steps, Socket.Delivers d bytes steps := by
      by_cases hb : bytes = []
      · exact hb ▸ ⟨_, .close ht []⟩
      · have hone := Socket.Delivers.chunk ht hb (.close ht [])
        rw [List.append_nil] at hone
        exact ⟨_, hone⟩
    obtain ⟨steps, hd⟩ := hd
    exact ⟨_, .socket ht rfl hd⟩
  | tempfile =>
    have hl : TempFile.Leaves d bytes [⟨some bytes, d.expiresAt, d.expiresAt⟩] :=
      .last rfl fun _ => d.isExpired_expiresAt
    exact ⟨_, .tempfile hl⟩

/-- **The bytes the contract holds for.**  On either transport, for every
deadline and every sequence of bytes, `receive` keeps its contract in every run
in which the target leaves these bytes if and only if there are none, or they
are UTF-8 and, on the tempfile transport, hold no carriage return. -/
theorem answersInContract_iff (kind : ChannelKind) (d : Deadline) (bytes : List Byte) :
    AnswersInContract kind d bytes ↔ bytes = [] ∨
      ∃ text, Utf8.decode bytes = some text ∧ (kind = .tempfile → cp '\r' ∉ text) := by
  constructor
  · rintro ⟨hdecodes, hrefuses, -⟩
    by_cases hne : bytes = []
    · exact .inl hne
    obtain ⟨b, rest, rfl⟩ := List.exists_cons_of_ne_nil hne
    obtain ⟨answer, h⟩ := exists_leftBy kind d (b :: rest)
    have hanswer := answer_of_leftBy h
    rcases hd : Utf8.decode (b :: rest) with _ | text
    · obtain ⟨exc, hexc, hcontract⟩ := hrefuses answer h (.inl hd)
      rw [hexc, Option.some.injEq] at hanswer
      cases kind <;> simp only [answerTo, readText, hd, Except.error.injEq] at hanswer <;>
        rw [hanswer] at hcontract <;> exact hcontract.elim
    · refine .inr ⟨text, rfl, ?_⟩
      rintro rfl
      have hok := hdecodes answer h text hd hne
      rw [hok, answerTo, readText, hd, Option.some.injEq, Except.ok.injEq] at hanswer
      exact TextWrap.translateNewlines_eq_self_iff.1 hanswer.symm
  · intro hclean
    refine ⟨fun answer h text hd hne => ?_, fun answer h hbad => ?_, fun answer answer' h h' => ?_⟩
    · obtain ⟨text', hd', hcr⟩ := hclean.resolve_left hne
      obtain rfl : text = text' := Option.some.inj (hd.symm.trans hd')
      obtain ⟨b, rest, rfl⟩ := List.exists_cons_of_ne_nil hne
      rw [answer_of_leftBy h]
      cases kind with
      | unixSocket => simp only [answerTo, hd]
      | tempfile =>
        simp only [answerTo, readText, hd, TextWrap.translateNewlines_eq_self_iff.2 (hcr rfl)]
    · have hnil : bytes = [] := by
        rcases hclean with hnil | ⟨text, hd, -⟩
        · exact hnil
        · exact hbad.resolve_left (by simp [hd])
      subst hnil
      rw [answer_of_leftBy h]
      cases kind <;> exact ⟨_, rfl, trivial⟩
    · rw [answer_of_leftBy h, answer_of_leftBy h']

end

/-- The byte `FF`, which no UTF-8 text has, sent over a connection: `UnicodeDecodeError`
leaves `execute_in_target`. -/
theorem invalid_utf8_not_in_contract :
    letI := Rounding.double
    ¬AnswersInContract .unixSocket Socket.fiveSeconds [Utf8.byte 0xFF] := by
  let _ := Rounding.double
  intro h
  obtain ⟨answer, hleft⟩ := exists_leftBy .unixSocket Socket.fiveSeconds [Utf8.byte 0xFF]
  have hd : Utf8.decode [Utf8.byte 0xFF] = none := by decide
  obtain ⟨exc, hexc, hcontract⟩ := h.refuses answer hleft (.inl hd)
  have hraised := answer_of_leftBy hleft
  rw [hexc, answerTo, hd, Option.some.injEq, Except.error.injEq] at hraised
  rw [hraised] at hcontract
  exact hcontract

end Protocol
end Pidprobe
