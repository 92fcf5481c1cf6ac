/-
# What a run of the program comes to

`EXIT_CODE_TABLE` and the epilog of `--help` that is made of it, held against
`main`: over every run of every command, the code is one the table explains, `main`
adds nothing to stderr where a command did its work or lost its reader, and an
exception escapes only under `--debug`, where it is no `Exception`, or where stdout
could not be abandoned (`main_documented`).

`main` is not the only one that writes to stderr.  The program configures no handler
for its loggers, so what discovery logs while `snap` runs is written there by the last
resort; `doctor` keeps the same records for its check.  What is on stderr is thus the
records of `snap`, if there are any, and what `main` writes behind them.  Warnings of
the interpreter, and what the code of a plugin writes while it is loaded, are left out.
-/

import Pidprobe.Cli.Pids
import Pidprobe.Cli.Stdout
import Pidprobe.Doctor.Recorded

namespace Pidprobe
namespace Cli

open Commands

/-! ## The table -/

/-- `EXIT_CODE_TABLE`, every code with its meaning. -/
def exitCodeTable : List (ℕ × PyStr) :=
  [(exitOk, py "success"),
    (exitProbeError, py "probe failed for a reason with no more specific code"),
    (exitUsage, py "invalid command line"),
    (exitTargetNotFound, py "no such process"),
    (exitAttachFailed, py "attaching to the target was refused"),
    (exitTimeout, py "the target did not answer within the timeout"),
    (exitTargetError, py "the injected code raised inside the target"),
    (exitDiagnosisFailed, py "doctor found a check that blocks attaching"),
    (exitInternalError, py "pidprobe hit an unexpected error (a bug)"),
    (exitInterrupted, py "interrupted with Ctrl-C"),
    (exitBrokenPipe, py "the reader of stdout closed the pipe")]

/-- `_CODE_COLUMN_WIDTH`. -/
def codeColumnWidth : ℕ := 3

/-- `f"{text:>{width}}"`: blanks in front, up to the width. -/
def rjust (width : ℕ) (text : PyStr) : PyStr :=
  List.replicate (width - text.length) (cp ' ') ++ text

/-- A row of `format_exit_codes`: the code in its column, and the meaning behind it. -/
def exitCodeRow (row : ℕ × PyStr) : PyStr :=
  py "  " ++ rjust codeColumnWidth (Json.intText row.1) ++ py "  " ++ row.2

/-- `format_exit_codes`, the epilog of `--help`. -/
def formatExitCodes : PyStr :=
  py "exit codes:\n" ++ join [cp '\n'] (exitCodeTable.map exitCodeRow) ++ py "\n"

/-- A code has one meaning, and a line of the epilog for it: the table lists it once. -/
structure Documented (code : ℕ) : Prop where
  meaning : ∃ meaning, exitCodeTable.filter (·.1 = code) = [(code, meaning)] ∧
    exitCodeRow (code, meaning) ∈ formatExitCodes.splitOn (cp '\n')

/-- The lines of the epilog. -/
theorem splitOn_formatExitCodes :
    formatExitCodes.splitOn (cp '\n') =
      py "exit codes:" :: (exitCodeTable.map exitCodeRow ++ [[]]) := by
  decide +kernel

/-- A code with one row in the table is documented: the row is a line of the epilog. -/
theorem documented_of_filter {code : ℕ} {meaning : PyStr}
    (h : exitCodeTable.filter (·.1 = code) = [(code, meaning)]) : Documented code := by
  have hmem : (code, meaning) ∈ exitCodeTable :=
    (List.mem_filter.1 (h ▸ List.mem_singleton_self _)).1
  refine ⟨meaning, h, ?_⟩
  rw [splitOn_formatExitCodes]
  exact List.mem_cons_of_mem _ (List.mem_append_left _ (List.mem_map_of_mem hmem))

/-- The codes of all the failures are documented. -/
theorem documented_exitCodeFor (error : ProbeError) : Documented (exitCodeFor error) := by
  cases error <;> exact documented_of_filter rfl

/-! ## Every run -/

/-- The codes of a command that did its work, or lost its reader. -/
def silentCodes : List ℕ := [exitOk, exitDiagnosisFailed, exitBrokenPipe]

/-- What a run promises that has `log` on stderr when `main` handles its outcome: a
documented code, nothing more on stderr or lines of the program by that code, and no
exception that escapes but an exit, one under `--debug`, or one of abandoning stdout
that is not suppressed. -/
structure Contract (isDebug : Bool) (handled : Except Raised ℕ) (log : PyStr)
    (ended : Ended) : Prop where
  documented : ∀ code, ended.outcome = .ok code → Documented code
  silent : ∀ code, ended.outcome = .ok code → code ∈ silentCodes → ended.stderr = log
  reported : ∀ code, ended.outcome = .ok code → code ∉ silentCodes →
    ∃ text, ended.stderr = log ++ text ∧ py "pidprobe: " <+: text ∧ [cp '\n'] <:+ text
  escapes : ∀ raised, ended.outcome = .error raised → ended.stderr = log ∧
    (raised = .baseException ∨ isDebug = true ∨
      handled = .error .brokenPipe ∧ isSuppressed raised = false)

/-- What a run promises does not depend on what is in front of it on stderr: the log of the
discovery only comes before. -/
theorem Contract.behind {isDebug : Bool} {handled : Except Raised ℕ} {ended : Ended}
    (h : Contract isDebug handled [] ended) (log : PyStr) :
    Contract isDebug handled log ⟨ended.outcome, log ++ ended.stderr⟩ where
  documented := h.documented
  silent code hcode hsilent := by rw [h.silent code hcode hsilent, List.append_nil]
  reported code hcode hnot := by
    obtain ⟨text, htext, hnamed, hline⟩ := h.reported code hcode hnot
    exact ⟨text, by rw [htext, List.nil_append], hnamed, hline⟩
  escapes raised hraised := by
    obtain ⟨hstderr, hescapes⟩ := h.escapes raised hraised
    exact ⟨by rw [hstderr, List.append_nil], hescapes⟩

/-- A command that ends with a code of its work may say nothing: it has done what it was
asked. -/
theorem contract_silent {isDebug : Bool} {handled : Except Raised ℕ} {code : ℕ}
    (h : Documented code) (hsilent : code ∈ silentCodes) :
    Contract isDebug handled [] ⟨.ok code, []⟩ where
  documented _ heq := Except.ok.inj heq ▸ h
  silent _ _ _ := rfl
  reported _ heq hnot := absurd (Except.ok.inj heq ▸ hsilent) hnot
  escapes _ heq := nomatch heq

/-- A command that ends with another code has to report it, in lines of the program, and
does. -/
theorem contract_reported {isDebug : Bool} {handled : Except Raised ℕ} {code : ℕ}
    (h : Documented code) (hnot : code ∉ silentCodes) {text message : PyStr}
    (hnamed : py "pidprobe: " <+: text) (hline : fail message <:+ text) :
    Contract isDebug handled [] ⟨.ok code, text⟩ where
  documented _ heq := Except.ok.inj heq ▸ h
  silent _ heq hsilent := absurd (Except.ok.inj heq ▸ hsilent) hnot
  reported _ _ _ := ⟨text, rfl, hnamed, (List.suffix_append _ _).trans hline⟩
  escapes _ heq := nomatch heq

/-- An exception may escape in silence, if it is one of those that may: no `Exception`,
under `--debug`, or of leaving stdout. -/
theorem contract_escaped {isDebug : Bool} {handled : Except Raised ℕ} {raised : Raised}
    (h : raised = .baseException ∨ isDebug = true ∨
      handled = .error .brokenPipe ∧ isSuppressed raised = false) :
    Contract isDebug handled [] ⟨.error raised, []⟩ where
  documented _ heq := nomatch heq
  silent _ heq _ := nomatch heq
  reported _ heq _ := nomatch heq
  escapes _ heq := ⟨rfl, Except.error.inj heq ▸ h⟩

/-- The code of a `ProbeError` is never that of a command that did its work. -/
theorem exitCodeFor_notMem (error : ProbeError) : exitCodeFor error ∉ silentCodes := by
  unfold exitCodeFor
  split_ifs <;> decide

section

variable [GeneralText]

/-- A `ProbeError` ends a run with its code and one `_fail`, with a hint or without,
depending on the command. -/
theorem main_of_probe (environment : Environment) (args : Namespace) (error : ProbeError) :
    ∃ message, main environment args (.error (.exception (.probe error))) =
      ⟨.ok (exitCodeFor error), fail message⟩ := by
  unfold main describe
  dsimp only
  split
  · exact ⟨_, rfl⟩
  · split_ifs
    · exact ⟨_, rfl⟩
    · exact ⟨_, rfl⟩

/-- Every other `Exception` escapes under `--debug`, and is otherwise reported by two
lines, the second asking for a report of the defect. -/
theorem main_of_other (environment : Environment) (args : Namespace) {exc : PyError}
    (h : ∀ error, exc ≠ .probe error) :
    ∃ message, main environment args (.error (.exception exc)) =
      if isDebug environment args then ⟨.error (.exception exc), []⟩
      else ⟨.ok exitInternalError, fail message ++ fail bugReportHint⟩ := by
  cases exc with
  | probe error => exact absurd rfl (h error)
  | _ => exact ⟨_, rfl⟩

/-- Whatever a handler raises is reported, where it returns one of its two codes and
abandoning stdout raises only what is not suppressed. -/
theorem contract_main (environment : Environment) (args : Namespace) {handled : Except Raised ℕ}
    (habandoned : ∀ raised, environment.abandoned = .error raised → isSuppressed raised = false)
    (h : ∀ code, handled = .ok code → code = exitOk ∨ code = exitDiagnosisFailed) :
    Contract (isDebug environment args) handled [] (main environment args handled) := by
  rcases handled with raised | code
  · cases raised with
    | keyboardInterrupt =>
      exact contract_reported (documented_of_filter rfl) (by decide) (fail_named _)
        List.suffix_rfl
    | brokenPipe =>
      rw [main]
      rcases ha : environment.abandoned with raised | ⟨⟩
      · exact contract_escaped (.inr (.inr ⟨rfl, habandoned raised ha⟩))
      · have hdocumented : Documented exitBrokenPipe := documented_of_filter rfl
        have hsilent : exitBrokenPipe ∈ silentCodes := by decide
        exact contract_silent hdocumented hsilent
    | baseException => exact contract_escaped (.inl rfl)
    | exception exc =>
      by_cases hprobe : ∃ error, exc = .probe error
      · obtain ⟨error, rfl⟩ := hprobe
        obtain ⟨message, hmain⟩ := main_of_probe environment args error
        rw [hmain]
        exact contract_reported (documented_exitCodeFor error) (exitCodeFor_notMem error)
          (fail_named _) List.suffix_rfl
      · obtain ⟨message, hmain⟩ := main_of_other environment args (not_exists.1 hprobe)
        rw [hmain]
        split_ifs with hdebug
        · exact contract_escaped (.inr (.inl hdebug))
        · exact contract_reported (documented_of_filter rfl) (by decide)
            ((fail_named _).trans (List.prefix_append _ _)) (List.suffix_append _ _)
  · rcases h code rfl with rfl | rfl
    · exact contract_silent (documented_of_filter rfl) (by decide)
    · exact contract_silent (documented_of_filter rfl) (by decide)

/-- The same on the descriptors of the process: an `OSError` or a `ValueError` of
abandoning stdout does not get out. -/
theorem contract_mainOn {φ : Type} (stdout : Stdout φ) (environment : Environment)
    (args : Namespace) {handled : Except Raised ℕ} (t : Descriptors φ)
    (h : ∀ code, handled = .ok code → code = exitOk ∨ code = exitDiagnosisFailed) :
    Contract (isDebug environment args) handled [] (mainOn stdout environment args handled t).1 :=
  contract_main { environment with abandoned := (stdout.abandonStdout t).1 } args
    (fun raised => Stdout.ends_abandonStdout.raises t raised) h

end

section

variable [Unicode] [FloatText] [IsoFormat] {ε : Type} [PyException ε] {w : World ε}
  {options : Options} {pid : Option ℤ} {command : Command}

/-- What a command line runs: the handler of a target, or the diagnosis of the machine
alone. -/
inductive Runs (w : World ε) (options : Options) :
    Command → Option ℤ → Except Raised ℕ → Prop
  | target {pid : ℤ} {command : Command} {handled : Except Raised ℕ}
      (h : Handles w options pid command handled) : Runs w options command (some pid) handled
  | machine : Runs w options .doctor none (runDoctor w none)

omit [FloatText] in
/-- A diagnosis that returns found no check that blocks attaching, or one. -/
theorem runDoctor_code {code : ℕ} (h : runDoctor w pid = .ok code) :
    code = exitOk ∨ code = exitDiagnosisFailed := by
  obtain ⟨diagnosis, -, h⟩ := bind_eq_ok.1 h
  obtain ⟨-, -, h⟩ := bind_eq_ok.1 h
  rw [← Except.ok.inj h]
  split_ifs
  · exact .inl rfl
  · exact .inr rfl

/-- A handler that returns has done its work, or found what stands in its way; it has no
third code. -/
theorem code_of_runs {code : ℕ} (h : Runs w options command pid (.ok code)) :
    code = exitOk ∨ code = exitDiagnosisFailed := by
  generalize hhandled : Except.ok code = handled at h
  cases h with
  | machine => exact runDoctor_code hhandled.symm
  | target h =>
    cases h with
    | snap =>
      obtain ⟨_, -, h⟩ := bind_eq_ok.1 hhandled.symm
      obtain ⟨_, -, h⟩ := bind_eq_ok.1 h
      obtain ⟨_, -, h⟩ := bind_eq_ok.1 h
      exact .inl (Except.ok.inj h).symm
    | eval =>
      obtain ⟨_, -, h⟩ := bind_eq_ok.1 hhandled.symm
      obtain ⟨_, -, h⟩ := bind_eq_ok.1 h
      exact .inl (Except.ok.inj h).symm
    | diff h => exact .inl (consume_ok (hhandled ▸ h))
    | doctor => exact runDoctor_code hhandled.symm

/-! ## The log of discovery -/

omit [FloatText] in
/-- Where the records of a command go: `snap` discovers the plugins with the loggers as
they are, `doctor` listens to discovery, and the other two discover none. -/
def delivered (w : World ε) : Command → List (Logging.Destination × Registry.Record)
  | .snap => w.listed.log.flatMap (Doctor.defaultSettings.log Doctor.recordLevel)
  | .doctor => (Doctor.checkCollectorPluginsIn Doctor.defaultSettings 0 w.listed).2.2
  | .eval | .diff => []

/-- The records that reach stderr: no handler is configured, so the last resort of `logging`
prints them. -/
def lastResorts (entries : List (Logging.Destination × Registry.Record)) : List Registry.Record :=
  (entries.filter fun entry => entry.1 = .lastResort).map Prod.snd

omit [Unicode] [FloatText] [IsoFormat] in
/-- A record of the loggers as they are is a warning or an error, so the last resort
has it. -/
theorem log_defaultSettings (record : Registry.Record) :
    Doctor.defaultSettings.log Doctor.recordLevel record = [(.lastResort, record)] := by
  cases record <;> rfl

omit [FloatText] in
/-- **`snap` shows what discovery logs, and no other command shows a record**: the
handler of `doctor` takes them all, which is `listening_quiet`. -/
theorem lastResorts_delivered (w : World ε) (command : Command) :
    lastResorts (delivered w command) = if command = .snap then w.listed.log else [] := by
  cases command with
  | snap =>
    have hall : w.listed.log.flatMap (Doctor.defaultSettings.log Doctor.recordLevel) =
        w.listed.log.map (Prod.mk .lastResort) := by
      rw [List.map_eq_flatMap]
      exact congrArg w.listed.log.flatMap (funext log_defaultSettings)
    rw [if_pos rfl, delivered, hall]
    simp [lastResorts, List.filter_map, Function.comp_def]
  | eval | diff => rfl
  | doctor =>
    rw [if_neg (by decide), lastResorts, List.map_eq_nil_iff, List.filter_eq_nil_iff]
    intro entry hentry
    have hfresh : Logging.Fresh (Doctor.recordingHandler 0) Doctor.defaultSettings := by
      simp [Logging.Fresh, Doctor.defaultSettings]
    obtain ⟨handler, -, hto⟩ := Logging.listening_quiet hfresh (by decide)
      (fun record _ => Doctor.level_le_recordLevel 0 record) entry hentry
    simp [hto]

/-- What the last resort writes of a record: the message, and behind that of
`_logger.exception` the traceback. -/
def lastResortText (traceback : PyStr) (record : Registry.Record) : PyStr :=
  record.message ++ [cp '\n'] ++
    match record with
    | .notLoaded _ _ => traceback ++ [cp '\n']
    | .nameTaken _ => []

/-- What a log leaves on stderr; the tracebacks are those of its records, in order, where a
record has one. -/
def logText (traceback : ℕ → PyStr) (records : List Registry.Record) : PyStr :=
  (records.zipIdx.map fun entry => lastResortText (traceback entry.2) entry.1).flatten

/-! ## The program -/

variable [GeneralText] {φ : Type}

/-- A run of the program, from the handler on: what the last resort writes while the
handler runs, and then `main`. -/
def program (w : World ε) (traceback : ℕ → PyStr) (stdout : Stdout φ) (environment : Environment)
    (args : Namespace) (handled : Except Raised ℕ) (t : Descriptors φ) : Ended × Descriptors φ :=
  let log := logText traceback (lastResorts (delivered w args.command))
  let (ended, left) := mainOn stdout environment args handled t
  (⟨ended.outcome, log ++ ended.stderr⟩, left)

/-- **Every run ends as documented.**  On every machine, for every command and whatever
its handler comes to: an exit code is one the epilog of `--help` explains, in one line;
behind the records of discovery, which only `snap` shows, stderr is empty where the
command did its work, found what stands in its way or lost its reader, and otherwise
holds lines of the program; an exception only escapes under `--debug`, where it is no
`Exception`, or where abandoning stdout raised neither an `OSError` nor a `ValueError`;
and no descriptor but that of a stdout without a reader is changed, which is on the null
device where no step of abandoning it fails. -/
theorem main_documented (traceback : ℕ → PyStr) (stdout : Stdout φ) (environment : Environment)
    (args : Namespace) (t : Descriptors φ) {handled : Except Raised ℕ}
    (h : Runs w options args.command args.pid handled) :
    let log := if args.command = .snap then w.listed.log else []
    let (ended, left) := program w traceback stdout environment args handled t
    Contract (isDebug environment args) handled (logText traceback log) ended ∧
      (∀ fd, stdout.fileno ≠ .ok fd → left fd = t fd) ∧
      (handled ≠ .error .brokenPipe → left = t) ∧
      (∀ target devnull, handled = .error .brokenPipe → stdout.fileno = .ok target →
        t target ≠ none → stdout.openDevnull t = .ok devnull → stdout.dup2Fails = none →
        left = Function.update t target (some .devnull)) := by
  intro log
  have hlog : lastResorts (delivered w args.command) = log := lastResorts_delivered w args.command
  have hcode : ∀ code, handled = .ok code → code = exitOk ∨ code = exitDiagnosisFailed := by
    rintro code rfl
    exact code_of_runs h
  have hmain := contract_mainOn stdout environment args t hcode
  refine ⟨hlog ▸ hmain.behind _, fun fd hfd => ?_, fun hreader => ?_, ?_⟩
  · exact mainOn_keeps environment args handled hfd
  · exact mainOn_snd environment args hreader
  · rintro target devnull rfl hfileno htarget hopen hdup
    exact congrArg Prod.snd (mainOn_redirects environment args hfileno htarget hopen hdup)

end

/-- A stdout that is a pipe, on descriptor 1, beside a stderr; the null device opens on
descriptor 3. -/
def pipedStdout : Stdout ℕ where
  fileno := .ok 1
  openDevnull t := if t 3 = none then .ok 3 else .error (.exception .os)
  openDevnull_free t fd h := by
    split_ifs at h with hfree
    rwa [← Except.ok.inj h]
  dup2Fails := none

/-- A diagnosis of a machine on which nothing stands in the way, with a stdout that is a
pipe. -/
theorem main_documented_doctor :
    letI : IsoFormat := ⟨fun _ => none⟩
    letI := Unicode.fullwidth
    letI := Json.wholeFloats
    letI := wholeSeconds
    let args : Namespace := ⟨.doctor, none, false⟩
    let handled := runDoctor (plainWorld (ε := ExcData) plainProber) none
    let (ended, left) := program (plainWorld (ε := ExcData) plainProber) (fun _ => []) pipedStdout
      plainEnvironment args handled fun fd => if fd < 3 then some (.other fd) else none
    Contract (isDebug plainEnvironment args) handled [] ended ∧ left 2 = some (.other 2) := by
  let _ : IsoFormat := ⟨fun _ => none⟩
  let _ := Unicode.fullwidth
  let _ := Json.wholeFloats
  let _ := wholeSeconds
  intro args handled
  have hruns : Runs (plainWorld (ε := ExcData) plainProber) plainOptions .doctor none handled :=
    .machine
  obtain ⟨hcontract, hkept, -⟩ := main_documented (fun _ => []) pipedStdout plainEnvironment args
    (fun fd => if fd < 3 then some (.other fd) else none) hruns
  exact ⟨hcontract, hkept 2 fun h => absurd (Except.ok.inj h) (by decide)⟩

end Cli
end Pidprobe
