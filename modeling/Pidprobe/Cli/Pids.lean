/-
# The pids a command has an outcome for

`positive_int` puts no bound on a pid, and the calls it is passed to take a C
`int`.  `_remote_exec` translates the exceptions of `sys.remote_exec` but for
`OverflowError`, `check_target_process` handles those of `os.kill` that are an
`OSError`, and `main` reports the rest as a defect of the program.

`pidDiagnosed_iff` says for which pids every command ends with a documented
outcome, whatever the two calls come to: those a C `int` holds.
-/

import Pidprobe.Cli
import Pidprobe.Commands

namespace Pidprobe
namespace Cli

open Commands

section

variable [Unicode] [FloatText] [IsoFormat] [GeneralText] {ε : Type} [PyException ε]

omit [GeneralText] in
/-- The handler of a subcommand, called with a pid, and what it comes to. `diff` may also go
on for ever. -/
inductive Handles (w : World ε) (options : Options) (pid : ℤ) : Command → Except Raised ℕ → Prop
  | snap : Handles w options pid .snap (runSnap w options pid)
  | eval : Handles w options pid .eval (runEval w options pid)
  | diff {calls : ℕ} {handled : Except Raised ℕ} (h : runDiff w options pid calls = some handled) :
      Handles w options pid .diff handled
  | doctor : Handles w options pid .doctor (runDoctor w (some pid))

omit [Unicode] [FloatText] [IsoFormat] [GeneralText] [PyException ε] in
/-- The codes of a diagnosed outcome: the work was done, or a `ProbeError` or a check says
why not. -/
def IsDiagnosed : Command → ℕ → Prop
  | .doctor, code => code = exitOk ∨ code = exitDiagnosisFailed
  | _, code => code = exitOk ∨ ∃ error, code = exitCodeFor error

omit [Unicode] [FloatText] [IsoFormat] [GeneralText] [PyException ε] in
/-- The exceptions `describe` reports, with a code of their own. -/
def IsProbe (raised : Raised) : Prop := ∃ error, raised = .exception (.probe error)

/-- The command ends with a diagnosed outcome, or with an exception of a step the
pid has no part in. -/
def PidDiagnosed (w : World ε) (environment : Environment) (isDebug : Bool) (pid : ℤ)
    (command : Command) (handled : Except Raised ℕ) : Prop :=
  (∃ code, (main environment ⟨command, some pid, isDebug⟩ handled).outcome = .ok code ∧
    IsDiagnosed command code) ∨
  ∃ raised, handled = .error raised ∧ ¬IsProbe raised ∧ w.Raises pid raised

variable {w : World ε} {options : Options} {pid : ℤ} {command : Command}

omit [GeneralText] in
/-- A handler that returns does so with a diagnosed code, whichever it is. -/
theorem handles_ok {code : ℕ} (h : Handles w options pid command (.ok code)) :
    IsDiagnosed command code := by
  generalize hhandled : Except.ok code = handled at h
  cases h with
  | snap =>
    obtain ⟨_, -, h⟩ := bind_eq_ok.1 hhandled.symm
    obtain ⟨_, -, h⟩ := bind_eq_ok.1 h
    obtain ⟨_, -, h⟩ := bind_eq_ok.1 h
    exact .inl (Except.ok.inj h).symm
  | eval =>
    obtain ⟨_, -, h⟩ := bind_eq_ok.1 hhandled.symm
    obtain ⟨_, -, h⟩ := bind_eq_ok.1 h
    exact .inl (Except.ok.inj h).symm
  | diff h => exact .inl (consume_ok (hhandled ▸ h))
  | doctor =>
    obtain ⟨diagnosis, -, h⟩ := bind_eq_ok.1 hhandled.symm
    obtain ⟨_, -, h⟩ := bind_eq_ok.1 h
    obtain rfl := Except.ok.inj h
    split_ifs
    · exact .inl rfl
    · exact .inr rfl

omit [GeneralText] [Unicode] [FloatText] [IsoFormat] [PyException ε] in
/-- What `sys.remote_exec` raises for a C `int` is translated: it is an `OSError`, a
`RuntimeError` or a `ValueError`. -/
theorem remoteExec_probe {calls : SystemCalls} {k : ℕ} {exc : PyError} (hpid : InCInt pid)
    (h : Execute.remoteExec pid (calls.remoteExec k pid) = some exc) :
    ∃ error, exc = .probe error := by
  obtain ⟨cause, hcause, rfl⟩ := Option.map_eq_some_iff.1 h
  have hkind := calls.remoteExec_inside k pid cause hpid hcause
  have htranslated : cause.kind.isTranslated = true := by
    obtain ⟨kind, _, _⟩ := cause
    cases kind with
    | overflowError => exact absurd rfl hkind
    | _ => rfl
  rw [if_pos htranslated]
  exact ⟨_, rfl⟩

omit [GeneralText] [FloatText] [PyException ε] in
/-- For a pid a C `int` holds, whatever the injection raises is a `ProbeError`. -/
theorem injects_probe {raised : Raised} (hpid : InCInt pid) (h : w.Injects pid raised) :
    IsProbe raised := by
  obtain ⟨k, exc, hexc, rfl⟩ := h
  obtain ⟨error, rfl⟩ := remoteExec_probe hpid hexc
  exact ⟨error, rfl⟩

omit [GeneralText] in
/-- Where a probing command that raises has its exception from, for a pid a C `int`
holds: it is a `ProbeError`, or one of a step the pid has no part in. -/
theorem handles_error {raised : Raised} (hpid : InCInt pid) (hcommand : command ≠ .doctor)
    (h : Handles w options pid command (.error raised)) : IsProbe raised ∨ w.Raises pid raised := by
  generalize hhandled : Except.error raised = handled at h
  cases h with
  | snap => exact (runSnap_error hhandled.symm).imp_left (injects_probe hpid)
  | eval => exact (runEval_error hhandled.symm).imp_left (injects_probe hpid)
  | diff h => exact (runDiff_error (hhandled ▸ h)).imp_left (injects_probe hpid)
  | doctor => exact absurd rfl hcommand

omit [GeneralText] in
/-- `os.kill` of a C `int` ends in a check, so what `doctor` raises comes from elsewhere,
and is no `ProbeError`. -/
theorem runDoctor_raises {raised : Raised} (hpid : InCInt pid)
    (h : runDoctor w (some pid) = .error raised) : ¬IsProbe raised ∧ w.Raises pid raised := by
  rcases runDoctor_error h with ⟨exc, hkill, hos, -⟩ | ⟨hraises, hnot⟩
  · rw [w.calls.kill_inside pid exc hpid hkill] at hos
    cases hos
  · refine ⟨?_, hraises⟩
    rintro ⟨error, herror⟩
    exact hnot error herror

/-- For a pid a C `int` holds, every command ends with a diagnosed outcome, unless a step
that has nothing to do with the pid raises. -/
theorem pidDiagnosed_of_inCInt (hpid : InCInt pid) (environment : Environment) (isDebug : Bool)
    {handled : Except Raised ℕ} (h : Handles w options pid command handled) :
    PidDiagnosed w environment isDebug pid command handled := by
  rcases handled with raised | code
  · by_cases hcommand : command = .doctor
    · subst hcommand
      generalize hhandled : Except.error raised = handled at h
      cases h
      obtain ⟨hnot, hraises⟩ := runDoctor_raises hpid hhandled.symm
      exact .inr ⟨raised, hhandled ▸ rfl, hnot, hraises⟩
    · by_cases hprobe : IsProbe raised
      · obtain ⟨error, rfl⟩ := hprobe
        refine .inl ⟨_, main_probe_outcome environment _ error, ?_⟩
        cases command with
        | doctor => exact absurd rfl hcommand
        | snap | eval | diff => exact .inr ⟨error, rfl⟩
      · exact .inr ⟨raised, rfl, hprobe, (handles_error hpid hcommand h).resolve_left hprobe⟩
  · exact .inl ⟨code, rfl, handles_ok h⟩

/-! ## A pid no C `int` holds -/

/-- What either call raises for a number that is no C `int`, before the system is asked. -/
def overflowError : Cause where
  kind := .overflowError
  typeName := py "OverflowError"
  message := py "signed integer is greater than maximum"

/-- Calls that succeed wherever they get a C `int`, and raise `OverflowError` elsewhere. -/
def plainCalls : SystemCalls where
  remoteExec _ pid := if InCInt pid then none else some overflowError
  kill pid := if InCInt pid then none else some overflowError
  remoteExec_outside _ pid h := ⟨overflowError, if_neg h, rfl⟩
  remoteExec_inside _ pid exc h he := by simp [h] at he
  kill_outside pid h := ⟨overflowError, if_neg h, rfl⟩
  kill_inside pid exc h he := by simp [h] at he

/-- A probe whose target is never heard of: every step succeeds, and `receive` times out. -/
def silentSteps : Execute.Faults PyError ℕ ℕ PyStr :=
  { Execute.noDescriptor with
    socketFails := none
    receive := .error (.probe (.timeout 5 none)) }

/-- A Linux machine on which the checks find nothing that stands in the way of attaching. -/
def plainSystem : Doctor.System where
  prober := ⟨py "/usr/bin/python3", true, true, py "cpython", py "3.14.0", (3, 14)⟩
  host :=
    { platform := py "linux"
      geteuid := 1000
      ptraceScope := some 0
      processUid := fun _ => some 1000
      pidNamespace := fun _ => some (py "pid:[4026531836]")
      processEnviron := fun _ => some []
      targetInterpreter := fun _ =>
        ⟨some (py "/usr/bin/python3"), some (py "cpython"), some (3, 14, 0), none⟩ }
  unixSocketChannel := .ok (py "/tmp/pidprobe-1/channel.sock")
  tempFileChannel := .ok (py "/tmp/pidprobe-2/result.json")

omit [Unicode] [FloatText] [IsoFormat] [GeneralText] [PyException ε] in
/-- The name of the unmasked collector is ASCII. -/
theorem stacks_isAscii : ∀ c ∈ py "stacks", IsAscii c := ascii_py (by decide)

omit [Unicode] [FloatText] [IsoFormat] [GeneralText] [PyException ε] in
/-- It is an identifier. -/
theorem stacks_asciiIdentifier : asciiIdentifier (py "stacks") = true := by decide

omit [Unicode] [FloatText] [IsoFormat] [GeneralText] [PyException ε] in
/-- It is none of the names the snapshot reserves. -/
theorem stacks_notReserved : py "stacks" ∉ reservedSectionNames := by decide

/-- A machine without plugins on which nothing fails but what the pid is passed to,
and no target answers. -/
def plainWorld (prober : Prober) : World ε where
  calls := plainCalls
  sources := ⟨[], [], [], []⟩
  compiles _ := true
  points := []
  isKeyboardInterrupt _ := false
  unmaskedStacks :=
    Registry.builtin (py "stacks") [] [] stacks_isAscii stacks_asciiIdentifier stacks_notReserved
  steps _ := silentSteps
  resources _ := ⟨∅, ∅⟩
  loads _ := .error []
  prober _ := prober
  elapsedMs _ := .finite 0
  reading _ := 0
  write _ := none
  doctor := plainSystem

variable {prober : Prober}

omit [FloatText] [GeneralText] [PyException ε] in
/-- On the plain machine only the injection fails. -/
theorem plain_faults (k : ℕ) (hpid : ¬InCInt pid) :
    (plainWorld (ε := ε) prober).faults k pid =
      { silentSteps with remoteExecFails := some .overflow } := by
  have hcall : (plainWorld (ε := ε) prober).calls.remoteExec k pid = some overflowError :=
    if_neg hpid
  rw [World.faults, hcall]
  rfl

omit [GeneralText] [PyException ε] in
/-- The injection raises `OverflowError`, and nothing translates it, so it leaves
`execute_in_target`. -/
theorem plain_execute (k : ℕ) (hpid : ¬InCInt pid) :
    (plainWorld (ε := ε) prober).execute k pid = .error .overflow := by
  rw [World.execute, plain_faults k hpid]
  rfl

omit [GeneralText] [PyException ε] in
/-- So a snapshot of it ends with the `OverflowError`, whatever is collected. -/
theorem plain_takeSnapshot (k : ℕ) (hpid : ¬InCInt pid) {chosen : List Collector}
    (hcompose : ∃ script, composeCollectorSource chosen = .ok script) :
    (plainWorld (ε := ε) prober).takeSnapshot k pid chosen = .error .overflow := by
  obtain ⟨script, hscript⟩ := hcompose
  rw [World.takeSnapshot, hscript, ok_bind, plain_execute k hpid]
  rfl

omit [FloatText] [GeneralText] in
/-- Without plugins, the collectors are the built-in ones. -/
theorem plain_listed :
    (plainWorld (ε := ε) prober).listed.outcome =
      .ok (Registry.builtinCollectors (plainWorld (ε := ε) prober).sources) := by
  have hnone : Registry.byName ([] : List (Registry.EntryPoint ε)) = [] := List.mergeSort_nil
  show Except.mapError _ (Registry.availableCollectorsLogged _ _ []).outcome = _
  rw [Registry.outcome_availableCollectorsLogged, mapError_eq_ok, Registry.availableCollectors,
    Registry.discoverCollectors, hnone]
  rfl

omit [GeneralText] in
/-- No other step of the machine raises it. -/
theorem plain_raises (hpid : ¬InCInt pid) :
    ¬(plainWorld (ε := ε) prober).Raises pid (.exception .overflow) := by
  intro h
  generalize hraised : Raised.exception PyError.overflow = raised at h
  cases h with
  | listed h =>
    rw [plain_listed] at h
    cases h
  | step h =>
    cases h with
    | receive h =>
      obtain rfl := Except.error.inj h
      cases hraised
    | socketDir h | socket h | bind h | listen h | resultDir h | scriptDir h | writeScript h =>
      cases h
  | envelope hraw h => cases hraw
  | snapshot hraw henvelope h => cases hraw
  | evaluation hraw henvelope h => cases hraw
  | delta hbefore hafter h =>
    rw [plain_takeSnapshot _ hpid compose_diffCollectors] at hbefore
    cases hbefore
  | write h => cases h
  | channel h => cases h

/-- The options of a command line without any. -/
def plainOptions : Options where
  isMasked := true
  expression := []
  interval := ⟨1, by norm_num⟩
  count := none

omit [GeneralText] in
/-- `snap` ends with the `OverflowError`. -/
theorem plain_runSnap (hpid : ¬InCInt pid) :
    runSnap (plainWorld (ε := ε) prober) plainOptions pid = .error (.exception .overflow) := by
  have hchosen : (plainWorld (ε := ε) prober).snapCollectors true =
      .ok (Registry.builtinCollectors (plainWorld (ε := ε) prober).sources) := by
    rw [World.snapCollectors, plain_listed]
    rfl
  show ((plainWorld (ε := ε) prober).snapCollectors true >>= _) = _
  rw [hchosen, ok_bind, plain_takeSnapshot 0 hpid (compose_snapCollectors hchosen)]
  rfl

omit [GeneralText] [PyException ε] in
/-- `eval` ends with it. -/
theorem plain_runEval (hpid : ¬InCInt pid) :
    runEval (plainWorld (ε := ε) prober) plainOptions pid = .error (.exception .overflow) := by
  rw [runEval, evaluateInTarget, plain_execute 0 hpid]
  rfl

omit [GeneralText] [PyException ε] in
/-- The first sample is due at once, and ends the series. -/
theorem plain_runDiff (hpid : ¬InCInt pid) :
    runDiff (plainWorld (ε := ε) prober) plainOptions pid 1 =
      some (.error (.exception .overflow)) := by
  have hsample : (sampling (plainWorld (ε := ε) prober) plainOptions pid).sample 1 =
      .error .overflow := plain_takeSnapshot 1 hpid compose_diffCollectors
  have hgo : (sampling (plainWorld (ε := ε) prober) plainOptions pid).goesOn 0 = true := rfl
  obtain ⟨waited, hnext⟩ : ∃ waited,
      (sampling (plainWorld (ε := ε) prober) plainOptions pid).next .created =
        (waited ++ [.probed, .raised .overflow], .finished) := by
    rw [Diff.Sampling.next, Diff.Sampling.loop, if_pos hgo]
    simp only [Nat.zero_add, hsample]
    exact ⟨_, rfl⟩
  rw [runDiff, consume, hnext]
  simp

omit [FloatText] [GeneralText] in
/-- `doctor` has it from `os.kill`, and its check does not handle it: it handles `OSError`
only. -/
theorem plain_runDoctor (hpid : ¬InCInt pid) :
    runDoctor (plainWorld (ε := ε) prober) (some pid) = .error (.exception .overflow) := by
  have hkill : (plainWorld (ε := ε) prober).calls.kill pid = some overflowError := if_neg hpid
  have hcheck : Doctor.checkTargetProcess ((plainWorld (ε := ε) prober).calls.kill pid) pid =
      .error .overflow := by
    rw [hkill]
    rfl
  rw [runDoctor, Doctor.diagnose, plain_listed]
  show (Except.mapError Raised.exception
    (Doctor.checkTargetProcess ((plainWorld (ε := ε) prober).calls.kill pid) pid) >>= _) >>= _ = _
  rw [hcheck]
  rfl

omit [GeneralText] in
/-- Each subcommand ends with the `OverflowError`, which `main` reports as a bug of the
program. -/
theorem plain_handles (hpid : ¬InCInt pid) (command : Command) :
    Handles (plainWorld (ε := ε) prober) plainOptions pid command
      (.error (.exception .overflow)) := by
  cases command with
  | snap =>
    have hsnap : runSnap (plainWorld (ε := ε) prober) plainOptions pid = _ := plain_runSnap hpid
    exact hsnap ▸ .snap
  | eval =>
    have heval : runEval (plainWorld (ε := ε) prober) plainOptions pid = _ := plain_runEval hpid
    exact heval ▸ .eval
  | diff => exact .diff (plain_runDiff hpid)
  | doctor =>
    have hdoctor : runDoctor (plainWorld (ε := ε) prober) (some pid) = _ := plain_runDoctor hpid
    exact hdoctor ▸ .doctor

omit [Unicode] [FloatText] [IsoFormat] [GeneralText] [PyException ε] in
/-- No `ProbeError` has the code of an internal error. -/
theorem not_isDiagnosed_internal (command : Command) : ¬IsDiagnosed command exitInternalError := by
  cases command with
  | doctor => exact not_or.2 ⟨by decide, by decide⟩
  | snap | eval | diff =>
    refine not_or.2 ⟨by decide, ?_⟩
    rintro ⟨error, h⟩
    exact absurd (h ▸ exitCodeFor_lt error) (by decide)

/-- An internal error is no diagnosed outcome, and no step of the machine but the two
calls raises the exception. -/
theorem plain_not_diagnosed (hpid : ¬InCInt pid) (environment : Environment) (command : Command) :
    ¬PidDiagnosed (plainWorld (ε := ε) prober) environment false pid command
      (.error (.exception .overflow)) := by
  rintro (⟨code, hmain, hcode⟩ | ⟨raised, hraised, -, hraises⟩)
  · rw [main_internal _ _ fun _ => PyError.noConfusion] at hmain
    split_ifs at hmain
    obtain rfl := Except.ok.inj hmain
    exact not_isDiagnosed_internal command hcode
  · obtain rfl := Except.error.inj hraised
    exact plain_raises hpid hraises

/-- **The pids with an outcome.**  A subcommand ends with a diagnosed outcome on
every machine, whatever the call the pid is passed to comes to, if and only if the
pid is one a C `int` holds; the other positive numbers all pass `positive_int`. -/
theorem pidDiagnosed_iff (prober : Prober) (command : Command) (pid : PositiveInt) :
    (∀ (w : World ε) (options : Options) (environment : Environment) (isDebug : Bool)
        (handled : Except Raised ℕ), Handles w options pid command handled →
      PidDiagnosed w environment isDebug pid command handled) ↔ pid.val < 2 ^ 31 := by
  constructor
  · intro h
    by_contra hlarge
    have hpid : ¬InCInt pid := fun hin => hlarge hin.2
    exact plain_not_diagnosed hpid _ command
      (h (plainWorld prober) plainOptions plainEnvironment false _ (plain_handles hpid command))
  · intro hsmall w options environment isDebug handled h
    have hpos := pid.property
    exact pidDiagnosed_of_inCInt ⟨by omega, hsmall⟩ environment isDebug h

end

/-- `int` of a text of decimal digits. -/
def decimalInt (text : PyStr) : Option ℤ :=
  if text ≠ [] ∧ text.all Json.isDigit = true then some (Json.ofDigits text) else none

/-- The first pid too large for a C `int` passes the check of the command line, and
every subcommand reports it as a defect of the program. -/
theorem large_pid_not_diagnosed :
    letI : IsoFormat := ⟨fun _ => none⟩
    letI := Unicode.fullwidth
    letI := Json.wholeFloats
    letI := wholeSeconds
    ∃ pid, positiveInt decimalInt (py "2147483648") = .ok pid ∧ ∀ command, ∃ handled,
      Handles (plainWorld (ε := ExcData) plainProber) plainOptions pid command handled ∧
      (main plainEnvironment ⟨command, some pid, false⟩ handled).outcome = .ok exitInternalError ∧
      ¬PidDiagnosed (plainWorld (ε := ExcData) plainProber) plainEnvironment false pid command
        handled := by
  let _ : IsoFormat := ⟨fun _ => none⟩
  let _ := Unicode.fullwidth
  let _ := Json.wholeFloats
  let _ := wholeSeconds
  have haccepted : decimalInt (py "2147483648") = some 2147483648 := by decide
  have hpid : ¬InCInt 2147483648 := by decide
  refine ⟨⟨2147483648, by norm_num⟩, positiveInt_eq_ok.2 haccepted, fun command => ?_⟩
  refine ⟨_, plain_handles hpid command, ?_, plain_not_diagnosed hpid plainEnvironment command⟩
  exact main_internal plainEnvironment _ fun _ => PyError.noConfusion

end Cli
end Pidprobe
