/-
# Exit codes

`_exits.py`: the codes the command returns, the code of a failure and the line
that reports it.  The classes of the failures form a hierarchy, and a class
without a code of its own takes that of the class it derives from:
`exitCodeFor_eq` says that the order of the cases in `exit_code_for` gives every
failure the code of its most specific class.
-/

import Pidprobe.Errors
import Pidprobe.Lib.Occurrences

namespace Pidprobe

/-! ## The codes -/

/-- `EXIT_OK`: the command ran and printed its output. -/
def exitOk : ℕ := 0

/-- `EXIT_PROBE_ERROR`, for a failed probe without a more specific code. -/
def exitProbeError : ℕ := 1

/-- `EXIT_USAGE`; `argparse` exits with it. -/
def exitUsage : ℕ := 2

/-- `EXIT_TARGET_NOT_FOUND`: no process with that pid exists, or not any more. -/
def exitTargetNotFound : ℕ := 3

/-- `EXIT_ATTACH_FAILED`: the process exists, but attaching to it was refused. -/
def exitAttachFailed : ℕ := 4

/-- `EXIT_TIMEOUT`: the target never answered within its budget. -/
def exitTimeout : ℕ := 5

/-- `EXIT_TARGET_ERROR`: the injected code raised inside the target. -/
def exitTargetError : ℕ := 6

/-- `EXIT_DIAGNOSIS_FAILED`: the diagnosis succeeded, and found a check that blocks
attaching. -/
def exitDiagnosisFailed : ℕ := 7

/-- `EXIT_INTERNAL_ERROR`, which is `EX_SOFTWARE`: an exception that no command documents. -/
def exitInternalError : ℕ := 70

/-- `EXIT_INTERRUPTED`: 128 and `SIGINT`, as a shell has it. -/
def exitInterrupted : ℕ := 130

/-- `EXIT_BROKEN_PIPE`: 128 and `SIGPIPE`. -/
def exitBrokenPipe : ℕ := 141

/-! ## The classes -/

/-- `ProbeError` and the classes that derive from it, for the order in which `exit_code_for`
matches them. -/
inductive ErrorClass
  | probeError
  | attachError
  | noSuchProcessError
  | probeTimeoutError
  | channelError
  | targetError
  deriving DecidableEq

namespace ErrorClass

/-- `cls.__mro__` up to `ProbeError`, the most specific class first. `NoSuchProcessError`
derives from `AttachError`. -/
def mro : ErrorClass → List ErrorClass
  | probeError => [probeError]
  | attachError => [attachError, probeError]
  | noSuchProcessError => [noSuchProcessError, attachError, probeError]
  | probeTimeoutError => [probeTimeoutError, probeError]
  | channelError => [channelError, probeError]
  | targetError => [targetError, probeError]

/-- The code the table lists for a class, where it lists one. `ChannelError` has that of its
base. -/
def ownCode : ErrorClass → Option ℕ
  | probeError => some exitProbeError
  | attachError => some exitAttachFailed
  | noSuchProcessError => some exitTargetNotFound
  | probeTimeoutError => some exitTimeout
  | channelError => none
  | targetError => some exitTargetError

end ErrorClass

namespace ProbeError

/-- `type(error)`. -/
def errorClass : ProbeError → ErrorClass
  | channel _ => .channelError
  | timeout _ _ => .probeTimeoutError
  | target _ _ _ => .targetError
  | attach _ _ _ => .attachError
  | noSuchProcess _ _ _ => .noSuchProcessError

/-- `isinstance(error, cls)`. -/
def isInstance (error : ProbeError) (cls : ErrorClass) : Bool := cls ∈ error.errorClass.mro

end ProbeError

/-- `exit_code_for`: the cases of the `match` in their order, the most specific class in
front of its base. -/
def exitCodeFor (error : ProbeError) : ℕ :=
  if error.isInstance .noSuchProcessError then exitTargetNotFound
  else if error.isInstance .attachError then exitAttachFailed
  else if error.isInstance .probeTimeoutError then exitTimeout
  else if error.isInstance .targetError then exitTargetError
  else exitProbeError

/-- **The code is that of the most specific class that has one**: no case of the `match`
hides a later one. -/
theorem exitCodeFor_eq (error : ProbeError) :
    error.errorClass.mro.findSome? ErrorClass.ownCode = some (exitCodeFor error) := by
  cases error <;> rfl

/-- The codes of failures lie below the code of a diagnosis. -/
theorem exitCodeFor_lt (error : ProbeError) : exitCodeFor error < exitDiagnosisFailed := by
  unfold exitCodeFor
  split_ifs <;> decide

/-! ## The line that reports a failure -/

/-- `DOCTOR_HINT.format(pid=pid)`. -/
def doctorHint (pid : ℤ) : PyStr :=
  py "run `pidprobe doctor " ++ Json.intText pid ++ py "` for attach diagnostics"

/-- `describe`: the code and the line for stderr, with a hint to `doctor` behind it unless
the message has that hint already. -/
def describe [GeneralText] (error : ProbeError) (pid : Option ℤ) : ℕ × PyStr :=
  let code := exitCodeFor error
  match pid with
  | none => (code, error.str)
  | some pid =>
    let hint := doctorHint pid
    if contains hint error.str then (code, error.str) else (code, error.str ++ py "; " ++ hint)

/-- A character of the hint is one of its text or a digit of the pid. -/
theorem mem_doctorHint {pid : ℤ} {c : CodePoint} (h : c ∈ doctorHint pid) :
    c ∈ py "run `pidprobe doctor ` for attach diagnostics" ∨ isNumberChar c = true := by
  simp only [doctorHint, List.mem_append] at h
  rcases h with (h | h) | h
  · exact .inl (List.mem_of_mem_take (i := 21) h)
  · exact .inr (Json.intText_number pid c h)
  · exact .inl (List.mem_of_mem_drop (i := 21) h)

/-- The hint is not empty, so it can be counted. -/
theorem doctorHint_ne_nil (pid : ℤ) : doctorHint pid ≠ [] := by
  rw [doctorHint, List.append_assoc]
  exact List.cons_ne_nil _ _

/-- The characters that stand between the parts of a message. None of them is in the hint,
so hints do not span two parts. -/
def separators : List Char := [';', ':', ',', '\n']

/-- The hint has none of the characters that stand between the parts of a message. -/
theorem notMem_doctorHint {c : Char} (h : c ∈ separators) (pid : ℤ) : cp c ∉ doctorHint pid := by
  intro hc
  have hdisjoint : separators.all fun d =>
      d ∉ "run `pidprobe doctor ` for attach diagnostics".toList ∧
      isNumberChar (cp d) = false := by decide
  obtain ⟨htext, hnumber⟩ := of_decide_eq_true (List.all_eq_true.1 hdisjoint c h)
  rcases mem_doctorHint hc with hc | hc
  · exact htext (mem_py.1 hc)
  · rw [hnumber] at hc
    cases hc

/-- A separator keeps the hints on its two sides apart: no hint reaches across it, so they
add up. -/
theorem occurrences_doctorHint_append {c : Char} (h : c ∈ separators) (pid : ℤ)
    (text rest : PyStr) : occurrences (doctorHint pid) (text ++ cp c :: rest) =
      occurrences (doctorHint pid) text + occurrences (doctorHint pid) rest :=
  occurrences_append_cons (doctorHint_ne_nil pid) (notMem_doctorHint h pid) text rest

/-- What the first character of the hint does not occur in comes before it, and adds no
occurrence. -/
theorem occurrences_doctorHint_skip {front : String} (h : 'r' ∉ front.toList) (pid : ℤ)
    (text : PyStr) :
    occurrences (doctorHint pid) (py front ++ text) = occurrences (doctorHint pid) text := by
  have hhead : doctorHint pid = cp 'r' :: (doctorHint pid).tail := by
    rw [doctorHint, List.append_assoc]
    rfl
  rw [hhead]
  exact occurrences_append_of_notMem (mt mem_py.1 h)

/-- A text without a backtick holds no hint. -/
theorem occurrences_doctorHint_of_notMem {text : PyStr} (h : cp '`' ∉ text) (pid : ℤ) :
    occurrences (doctorHint pid) text = 0 := by
  rw [occurrences_eq_zero]
  exact fun hin => h (hin.subset (List.mem_append_right _ (mem_py.2 (by decide))))

/-- **The hint stands in the described text**, once where the text of the failure
has it at most once. -/
theorem occurrences_describe [GeneralText] (error : ProbeError) (pid : ℤ) :
    occurrences (doctorHint pid) (describe error (some pid)).2 =
      max 1 (occurrences (doctorHint pid) error.str) := by
  unfold describe
  dsimp only
  split_ifs with h
  · have hpos : occurrences (doctorHint pid) error.str ≠ 0 := by
      rw [Ne, occurrences_eq_zero, not_not]
      exact of_decide_eq_true h
    dsimp only
    omega
  · have hzero : occurrences (doctorHint pid) error.str = 0 :=
      occurrences_eq_zero.2 fun hin => h (decide_eq_true hin)
    have hsplit : error.str ++ py "; " ++ doctorHint pid =
        error.str ++ cp ';' :: (py " " ++ doctorHint pid) := by
      rw [List.append_assoc]
      rfl
    dsimp only
    rw [hsplit, occurrences_doctorHint_append (by decide), occurrences_doctorHint_skip (by decide),
      occurrences_self (doctorHint_ne_nil pid), hzero]
    rfl

end Pidprobe
