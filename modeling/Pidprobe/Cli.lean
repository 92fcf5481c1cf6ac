/-
# The command line

`main` of `cli.py` behind the parser: it calls the handler of the subcommand and
turns what the handler raises into an exit code and a text on stderr.

A `ProbeError` is reported by `describe` and `_fail`, which put its text between
a prefix and a newline.  The text holds what the target chose for the type and the
message of its exception, and neither takes a newline or a second hint out of it:
`reported_iff` says that these two are all that can go wrong.
-/

import Pidprobe.Envelope
import Pidprobe.Exits

namespace Pidprobe
namespace Cli

/-- The subcommands of `pidprobe`. -/
inductive Command
  | snap
  | eval
  | diff
  | doctor
  deriving DecidableEq

/-- `_HINTING_COMMANDS`: the commands whose failures point at `doctor`, which `doctor`
itself does not. -/
def hintingCommands : List Command := [.snap, .eval, .diff]

/-- What `main` reads of the parsed arguments: the subcommand, its pid if it has one, and
`--debug`. -/
structure Namespace where
  command : Command
  /-- `getattr(args, "pid", None)`. -/
  pid : Option ℤ
  isDebug : Bool

/-- What `main` reads besides: the variable, the texts of exceptions, and what leaving
stdout alone comes to. -/
structure Environment where
  /-- `os.environ.get("PIDPROBE_DEBUG", "")`. -/
  debugVariable : PyStr
  /-- `type(exc).__name__`. -/
  typeName : PyError → PyStr
  /-- `str(exc)`. -/
  text : PyError → PyStr
  /-- What `_abandon_stdout()` comes to. -/
  abandoned : Except Raised Unit

/-- How a run ends: with a code, or with an exception that escapes, and what the program
wrote to stderr by then.  `main` itself writes there through `_fail` alone. -/
structure Ended where
  outcome : Except Raised ℕ
  stderr : PyStr

/-- `_is_debug`: the flag, or a variable that is neither empty nor `0`. -/
def isDebug (environment : Environment) (args : Namespace) : Bool :=
  args.isDebug || (environment.debugVariable ≠ [] && environment.debugVariable ≠ py "0")

/-- `_fail`: the name of the program, the message and a newline, on stderr. -/
def fail (message : PyStr) : PyStr := py "pidprobe: " ++ message ++ [cp '\n']

/-- `_BUG_REPORT_HINT`. -/
def bugReportHint : PyStr :=
  py "this is a bug in pidprobe; re-run with --debug (or PIDPROBE_DEBUG=1) for the traceback " ++
    py "and report it at https://github.com/tomada1114/pidprobe/issues"

section

variable [GeneralText]

/-- `main`, `handled` being `handler(args)` and the flush of stdout. The handlers are in the
order of the source. -/
def main (environment : Environment) (args : Namespace) (handled : Except Raised ℕ) : Ended :=
  match handled with
  | .ok code => ⟨.ok code, []⟩
  | .error .keyboardInterrupt => ⟨.ok exitInterrupted, fail (py "interrupted")⟩
  | .error .brokenPipe => ⟨environment.abandoned.map fun _ => exitBrokenPipe, []⟩
  | .error (.exception (.probe error)) =>
    let pid := if args.command ∈ hintingCommands then args.pid else none
    let (code, message) := describe error pid
    ⟨.ok code, fail message⟩
  | .error (.exception exc) =>
    if isDebug environment args then ⟨.error (.exception exc), []⟩
    else ⟨.ok exitInternalError,
      fail (py "internal error: " ++ environment.typeName exc ++ py ": " ++ environment.text exc) ++
        fail bugReportHint⟩
  | .error .baseException => ⟨.error .baseException, []⟩

/-- The code of a `ProbeError`, whatever the command. -/
theorem main_probe_outcome (environment : Environment) (args : Namespace) (error : ProbeError) :
    (main environment args (.error (.exception (.probe error)))).outcome =
      .ok (exitCodeFor error) := by
  unfold main describe
  dsimp only
  split
  · rfl
  · split_ifs <;> rfl

/-- Every other exception is an internal error, with its code and a hint to report it, or
escapes under `--debug`. -/
theorem main_internal (environment : Environment) (args : Namespace) {exc : PyError}
    (h : ∀ error, exc ≠ .probe error) :
    (main environment args (.error (.exception exc))).outcome =
      if isDebug environment args then .error (.exception exc) else .ok exitInternalError := by
  cases exc with
  | probe error => exact absurd rfl (h error)
  | _ =>
    unfold main
    dsimp only
    split_ifs <;> rfl

/-! ## The report of a failure -/

/-- One line: the only newline of the text ends it. -/
def IsLine (text : PyStr) : Prop := ∃ body, text = body ++ [cp '\n'] ∧ cp '\n' ∉ body

/-- A failure is reported by one line of the program that holds the hint once, and
by the code of the most specific class that has one. -/
structure Reported (pid : ℤ) (error : ProbeError) (ended : Ended) : Prop where
  line : IsLine ended.stderr
  named : py "pidprobe: " <+: ended.stderr
  hinted : occurrences (doctorHint pid) ended.stderr = 1
  code : ∃ code, ended.outcome = .ok code ∧
    error.errorClass.mro.findSome? ErrorClass.ownCode = some code

omit [GeneralText] in
/-- A report is one line exactly where its message has no newline of its own: `_fail` does
not look at it. -/
theorem isLine_fail {message : PyStr} : IsLine (fail message) ↔ cp '\n' ∉ message := by
  have hname : cp '\n' ∉ py "pidprobe: " := by decide
  constructor
  · rintro ⟨body, hbody, hnot⟩ hin
    obtain rfl : py "pidprobe: " ++ message = body := (List.append_inj' hbody rfl).1
    exact hnot (List.mem_append_right _ hin)
  · intro h
    exact ⟨_, rfl, fun hin => (List.mem_append.1 hin).elim hname h⟩

omit [GeneralText] in
/-- Every report begins with the name of the program. -/
theorem fail_named (message : PyStr) : py "pidprobe: " <+: fail message := by
  rw [fail, List.append_assoc]
  exact List.prefix_append _ _

omit [GeneralText] in
/-- The prefix and the newline hold no part of a hint. -/
theorem occurrences_fail (pid : ℤ) (message : PyStr) :
    occurrences (doctorHint pid) (fail message) = occurrences (doctorHint pid) message := by
  have hsplit : fail message =
      py "pidprobe" ++ cp ':' :: (py " " ++ (message ++ cp '\n' :: [])) := by
    rw [fail, List.append_assoc]
    rfl
  have hname : occurrences (doctorHint pid) (py "pidprobe") = 0 :=
    occurrences_doctorHint_of_notMem (fun h => absurd (mem_py.1 h) (by decide)) pid
  rw [hsplit, occurrences_doctorHint_append (by decide), occurrences_doctorHint_skip (by decide),
    occurrences_doctorHint_append (by decide), hname, occurrences_nil (doctorHint_ne_nil pid)]
  omega

/-- The hint has no newline. -/
theorem newline_mem_describe {error : ProbeError} {pid : ℤ} :
    cp '\n' ∈ (describe error (some pid)).2 ↔ cp '\n' ∈ error.str := by
  have hhint : cp '\n' ∉ doctorHint pid := notMem_doctorHint (by decide) pid
  have hseparator : cp '\n' ∉ py "; " := by decide
  unfold describe
  dsimp only
  split_ifs
  · rfl
  · simp [hhint, hseparator]

/-- A command that points at `doctor` reports a `ProbeError` with the hint for its own
pid. -/
theorem main_probe (environment : Environment) {args : Namespace} {pid : ℤ}
    (hcommand : args.command ∈ hintingCommands) (hpid : args.pid = some pid) (error : ProbeError) :
    main environment args (.error (.exception (.probe error))) =
      ⟨.ok (exitCodeFor error), fail (describe error (some pid)).2⟩ := by
  rw [main, if_pos hcommand, hpid]
  unfold describe
  dsimp only
  split_ifs <;> rfl

/-- **One failure, one line.**  A command that points at `doctor` reports a
`ProbeError` by one line with one hint and the code of its most specific class if
and only if its text has no newline and no two hints. -/
theorem reported_iff (environment : Environment) {args : Namespace} {pid : ℤ}
    (hcommand : args.command ∈ hintingCommands) (hpid : args.pid = some pid) (error : ProbeError) :
    Reported pid error (main environment args (.error (.exception (.probe error)))) ↔
      cp '\n' ∉ error.str ∧ occurrences (doctorHint pid) error.str ≤ 1 := by
  have hmax := occurrences_describe error pid
  rw [main_probe environment hcommand hpid]
  constructor
  · rintro ⟨hline, -, hhinted, -⟩
    rw [occurrences_fail, hmax] at hhinted
    exact ⟨mt newline_mem_describe.2 (isLine_fail.1 hline), by omega⟩
  · rintro ⟨hnewline, honce⟩
    refine ⟨isLine_fail.2 (mt newline_mem_describe.1 hnewline), fail_named _, ?_, _, rfl,
      exitCodeFor_eq error⟩
    rw [occurrences_fail, hmax]
    omega

/-! ## The texts of the failures -/

/-- What the probes name as their action: `snap` and `diff` the one, `eval` the other. -/
def actions : List String := ["snapshot", "evaluation"]

/-- The characters without which a text holds no second line and no hint. -/
def marks : List Char := ['\n', '`']

omit [GeneralText] in
/-- What the program itself puts in front of the target's words holds no newline and no
backtick, so no hint begins in it. -/
theorem notMem_targetText {c : Char} (hc : c ∈ marks) {action : String} (h : action ∈ actions)
    (target : ℤ) : cp c ∉ py action ++ py " failed inside pid " ++ Json.intText target := by
  intro hin
  have hclear : actions.all fun a => marks.all fun d =>
      d ∉ a.toList ∧ d ∉ " failed inside pid ".toList ∧ isNumberChar (cp d) = false := by decide
  obtain ⟨haction, htext, hnumber⟩ :=
    of_decide_eq_true (List.all_eq_true.1 (List.all_eq_true.1 hclear action h) c hc)
  simp only [List.mem_append, mem_py] at hin
  rcases hin with (hin | hin) | hin
  · exact haction hin
  · exact htext hin
  · rw [Json.intText_number target _ hin] at hnumber
    cases hnumber

/-- The text of a timeout holds neither, whatever number of seconds it names. -/
theorem notMem_timeoutText {c : Char} (hc : c ∈ marks) (seconds : ℚ) :
    cp c ∉ ProbeError.timeoutText seconds := by
  intro hin
  have hclear : marks.all fun d =>
      d ∉ "target never reached a safe eval point within ".toList ∧
      d ∉ "s; it may be blocked inside a C extension or a long syscall; ".toList ∧
      d ∉ "try an out-of-process sampler like py-spy".toList ∧
      isNumberChar (cp d) = false := by decide
  obtain ⟨hfirst, hsecond, hthird, hnumber⟩ := of_decide_eq_true (List.all_eq_true.1 hclear c hc)
  simp only [ProbeError.timeoutText, List.mem_append, mem_py] at hin
  rcases hin with ((hin | hin) | hin) | hin
  · exact hfirst hin
  · rw [GeneralText.general_number seconds _ hin] at hnumber
    cases hnumber
  · exact hsecond hin
  · exact hthird hin

/-- **What the target chose is all there is to a `TargetError`**: its line is one line with
one hint at most where the type and the message make it so. -/
theorem target_text_iff (pid target : ℤ) (error : ErrorInfo) {action : String}
    (h : action ∈ actions) :
    (cp '\n' ∉ (ProbeError.target target error (py action)).str ∧
        occurrences (doctorHint pid) (ProbeError.target target error (py action)).str ≤ 1) ↔
      cp '\n' ∉ error.type ∧ cp '\n' ∉ error.message ∧
        occurrences (doctorHint pid) error.type +
          occurrences (doctorHint pid) error.message ≤ 1 := by
  have hstr : (ProbeError.target target error (py action)).str =
      (py action ++ py " failed inside pid " ++ Json.intText target) ++ cp ':' :: (py " " ++
        (error.type ++ cp ':' :: (py " " ++ error.message))) := by
    rw [ProbeError.str, List.append_assoc _ (py ": ") error.message,
      List.append_assoc _ error.type, List.append_assoc _ (py ": ")]
    rfl
  rw [hstr, occurrences_doctorHint_append (by decide), occurrences_doctorHint_skip (by decide),
    occurrences_doctorHint_append (by decide), occurrences_doctorHint_skip (by decide),
    occurrences_doctorHint_of_notMem (notMem_targetText (by decide) h target), Nat.zero_add]
  have hcolon : cp '\n' ≠ cp ':' := by decide
  have hblank : cp '\n' ∉ py " " := by decide
  have hfront := notMem_targetText (c := '\n') (by decide) h target
  rw [List.mem_append, or_iff_right hfront, List.mem_cons, or_iff_right hcolon,
    List.mem_append, or_iff_right hblank, List.mem_append, List.mem_cons, or_iff_right hcolon,
    List.mem_append, or_iff_right hblank, not_or, and_assoc]

/-- A timeout on the command's own target names the hint, once, in one line, so `describe`
adds none. -/
theorem timeout_text (seconds : ℚ) (pid : ℤ) :
    cp '\n' ∉ (ProbeError.timeout seconds (some pid)).str ∧
      occurrences (doctorHint pid) (ProbeError.timeout seconds (some pid)).str = 1 := by
  have hstr : (ProbeError.timeout seconds (some pid)).str =
      ProbeError.timeoutText seconds ++ cp ',' :: (py " and " ++ doctorHint pid) := by
    rw [ProbeError.str, List.append_assoc]
    rfl
  have hhint : cp '\n' ∉ doctorHint pid := notMem_doctorHint (by decide) pid
  rw [hstr]
  constructor
  · have hfront := notMem_timeoutText (c := '\n') (by decide) seconds
    simp only [List.mem_append, List.mem_cons, hfront, hhint, false_or, or_false]
    decide
  · rw [occurrences_doctorHint_append (by decide),
      occurrences_doctorHint_of_notMem (notMem_timeoutText (by decide) seconds),
      occurrences_doctorHint_skip (by decide), occurrences_self (doctorHint_ne_nil pid)]

end

/-- The answer to `eval` of an expression that raises `ValueError("first\nsecond")`, as the
envelope brings it. -/
def twoLines : Envelope where
  status := .error
  error := some ⟨py "ValueError", py "first\nsecond", []⟩
  payload := none

/-- Whole numbers of seconds. -/
abbrev wholeSeconds : GeneralText where
  general q := Json.intText q.floor
  general_number _ := Json.intText_number _

/-- An environment without the variable. -/
def plainEnvironment : Environment where
  debugVariable := []
  typeName _ := py "Exception"
  text _ := []
  abandoned := .ok ()

/-- The message of one exception in the target takes two lines on stderr, the second without
the name of the program. -/
theorem two_lines_not_reported :
    letI := wholeSeconds
    ∃ error, payloadOf 4242 twoLines (py "evaluation") = .error (.probe error) ∧
      ¬Reported 4242 error (main plainEnvironment ⟨.eval, some 4242, false⟩
        (.error (.exception (.probe error)))) := by
  let _ := wholeSeconds
  refine ⟨_, rfl, fun h => ?_⟩
  rw [main_probe plainEnvironment (by decide) rfl] at h
  refine isLine_fail.1 h.line (newline_mem_describe.2 ?_)
  exact List.mem_append_right _ (mem_py.2 (by decide))

/-- The same exception with a message of one line is reported on one line, with one hint. -/
theorem reported_iff_oneLine :
    letI := wholeSeconds
    Reported 4242 (.target 4242 ⟨py "ValueError", py "first second", []⟩ (py "evaluation"))
      (main plainEnvironment ⟨.eval, some 4242, false⟩ (.error (.exception (.probe
        (.target 4242 ⟨py "ValueError", py "first second", []⟩ (py "evaluation")))))) := by
  let _ := wholeSeconds
  refine (reported_iff plainEnvironment (by decide) rfl _).2
    ((target_text_iff _ _ _ (by decide)).2 ⟨fun h => ?_, fun h => ?_, ?_⟩)
  · exact absurd (mem_py.1 h) (by decide)
  · exact absurd (mem_py.1 h) (by decide)
  · rw [occurrences_doctorHint_of_notMem fun h => absurd (mem_py.1 h) (by decide),
      occurrences_doctorHint_of_notMem fun h => absurd (mem_py.1 h) (by decide)]
    omega

end Cli
end Pidprobe
