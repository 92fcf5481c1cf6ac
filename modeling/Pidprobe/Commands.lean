/-
# What the subcommands do

The handlers of `_commands.py`, on a machine that is given by what the calls of
the prober come to (`World`).  `snap` and `eval` probe the target once, `diff`
consumes a series of samples, and `doctor` prints a diagnosis.

The pid goes to `sys.remote_exec` in every probe, and to `os.kill` in a
diagnosis.  `handles_error` says where a handler that raises has its exception
from: from one of these two calls, or from a step the pid has no part in.
-/

import Pidprobe.Channel.Execute
import Pidprobe.Diff.Sampling
import Pidprobe.Doctor
import Pidprobe.Exits
import Pidprobe.Parsers

namespace Pidprobe
namespace Commands

/-! ## The machine -/

/-- The two calls a pid is passed to, with what they raise: `OverflowError` for a
number that is no C `int`, and otherwise other exceptions or none. -/
structure SystemCalls where
  /-- `sys.remote_exec`, in each probe. -/
  remoteExec : ℕ → ℤ → Option Cause
  /-- `os.kill(pid, 0)`. -/
  kill : ℤ → Option Cause
  remoteExec_outside : ∀ k pid, ¬InCInt pid →
    ∃ exc, remoteExec k pid = some exc ∧ exc.kind = .overflowError
  remoteExec_inside : ∀ k pid exc, InCInt pid → remoteExec k pid = some exc →
    exc.kind ≠ .overflowError
  kill_outside : ∀ pid, ¬InCInt pid → ∃ exc, kill pid = some exc ∧ exc.kind = .overflowError
  kill_inside : ∀ pid exc, InCInt pid → kill pid = some exc → exc.kind.isOSError = true

/-- What writing to stdout raises: the interrupt, a reader that went away, or any other
`OSError`. -/
inductive WriteError
  | keyboardInterrupt
  | brokenPipe
  | osError

/-- The exception of a failed write. -/
def WriteError.raised : WriteError → Raised
  | keyboardInterrupt => .keyboardInterrupt
  | brokenPipe => .brokenPipe
  | osError => .exception .os

/-- The machine a command runs on; `ε` is what the code of plugins raises. A probe has its
number, so each may go another way. -/
structure World (ε : Type) [Unicode] [IsoFormat] where
  calls : SystemCalls
  sources : Registry.BuiltinSources
  compiles : Composition → Bool
  points : List (Registry.EntryPoint ε)
  isKeyboardInterrupt : ε → Bool
  /-- `build_stacks_collector(is_masked=False)`. -/
  unmaskedStacks : Collector
  /-- The steps of each probe; what `remoteExecFails` says is not read. -/
  steps : ℕ → Execute.Faults PyError ℕ ℕ PyStr
  resources : ℕ → Execute.Resources ℕ ℕ
  /-- `json.loads`. -/
  loads : PyStr → Except PyStr Json
  prober : ℕ → Prober
  elapsedMs : ℕ → PyFloat
  /-- `monotonic`. -/
  reading : ℕ → ℚ
  write : ℕ → Option WriteError
  doctor : Doctor.System

/-- What the command line says beside the pid, the numbers already checked by the parsers. -/
structure Options where
  isMasked : Bool
  expression : PyStr
  interval : Seconds
  count : Option PositiveInt

section

variable [Unicode] [FloatText] [IsoFormat] {ε : Type} [PyException ε] (w : World ε)

namespace World

/-- `available_collectors`, with its records. What it raises is no `Exception`, so `main`
sees an interrupt or another one. -/
def listed : Logged Registry.Record Raised (List Collector) :=
  let run := Registry.availableCollectorsLogged w.compiles w.sources w.points
  ⟨run.outcome.mapError fun exc =>
    if w.isKeyboardInterrupt exc then .keyboardInterrupt else .baseException, run.log⟩

/-- `_snap_collectors`, or the default of `take_snapshot`: without masking, the stacks
collector is replaced by name. -/
def snapCollectors (isMasked : Bool) : Except Raised (List Collector) := do
  let available ← w.listed.outcome
  .ok (if isMasked then available
    else available.map fun collector =>
      if collector.name = w.unmaskedStacks.name then w.unmaskedStacks else collector)

omit [PyException ε] in
/-- `DIFF_COLLECTORS`: the built-in collectors but the stacks, and no plugin. -/
def diffCollectors : List Collector := (Registry.builtinCollectors w.sources).drop 1

omit [PyException ε] [FloatText] in
/-- The steps of probe `k`, the injection among them: its exception is what `_remote_exec`
makes of the one of the system. -/
def faults (k : ℕ) (pid : ℤ) : Execute.Faults PyError ℕ ℕ PyStr :=
  { w.steps k with remoteExecFails := Execute.remoteExec pid (w.calls.remoteExec k pid) }

/-- `execute_in_target`, without what it leaves behind. -/
def execute (k : ℕ) (pid : ℤ) : Except PyError Envelope :=
  (Execute.executeInTarget (w.faults k pid) (parseEnvelope w.loads) true (w.resources k)).1

/-- `take_snapshot`: the collectors must compose, then the probe, the payload and the
document. -/
def takeSnapshot (k : ℕ) (pid : ℤ) (chosen : List Collector) :
    Except PyError (List (PyStr × Json)) := do
  let _ ← composeCollectorSource chosen
  let envelope ← w.execute k pid
  snapshotOf (w.prober k) pid (w.elapsedMs k) envelope

/-- `write_json`, or the write of the report: it succeeds, or raises what the machine
says. -/
def writeOut (n : ℕ) : Except Raised Unit :=
  match w.write n with
  | none => .ok ()
  | some failure => .error failure.raised

end World

/-- The document `eval` prints (`Evaluation`). -/
structure Evaluation where
  pid : ℤ
  expression : PyStr
  type : PyStr
  result : PyStr
  maskingEnabled : Bool

/-- `evaluate_in_target`: the two texts of the payload, and what the prober asked for. -/
def evaluateInTarget (options : Options) (pid : ℤ) : Except PyError Evaluation := do
  let envelope ← w.execute 0 pid
  let payload ← payloadOf pid envelope (py "evaluation")
  .ok ⟨pid, options.expression, errorText (py "type") [] payload,
    errorText (py "result") [] payload, options.isMasked⟩

/-- The series `diff` samples: snapshots of three sections, on the machine's clock. -/
def sampling (options : Options) (pid : ℤ) : Diff.Sampling where
  interval := options.interval
  count := options.count.map Subtype.val
  reading := w.reading
  sample k := w.takeSnapshot k pid w.diffCollectors

/-! ## The handlers -/

/-- `run_snap`: the collectors, the snapshot and the write, in this order. -/
def runSnap (options : Options) (pid : ℤ) : Except Raised ℕ := do
  let chosen ← w.snapCollectors options.isMasked
  let _ ← (w.takeSnapshot 0 pid chosen).mapError Raised.exception
  w.writeOut 0
  .ok exitOk

/-- `run_eval`: one evaluation, and the write of its document. -/
def runEval (options : Options) (pid : ℤ) : Except Raised ℕ := do
  let _ ← (evaluateInTarget w options pid).mapError Raised.exception
  w.writeOut 0
  .ok exitOk

/-- The loop of `run_diff` over what the generator still yields; `none` where it
has not ended after so many calls of `next`. -/
def consume (series : Diff.Sampling) :
    ℕ → ℕ → Diff.Generator → Option (Except Raised ℕ)
  | 0, _, _ => none
  | calls + 1, written, generator =>
    let answer := series.next generator
    match answer.1.getLast? with
    | some (.yielded _) =>
      match w.writeOut written with
      | .ok () => consume series calls (written + 1) answer.2
      | .error raised => some (.error raised)
    | some (.raised exc) => some (.error (.exception exc))
    | some .stopped => some (.ok exitOk)
    | _ => none

/-- `run_diff`, for so many calls of `next`; `none` where it has not ended by then. -/
def runDiff (options : Options) (pid : ℤ) (calls : ℕ) : Option (Except Raised ℕ) :=
  consume w (sampling w options pid) calls 0 .created

/-- `run_doctor`: the report is written in any case, and the code says whether attaching
would work. -/
def runDoctor (pid : Option ℤ) : Except Raised ℕ := do
  let diagnosis ← Doctor.diagnose w.doctor w.listed w.calls.kill pid
  w.writeOut 0
  .ok (if diagnosis.isAttachable then exitOk else exitDiagnosisFailed)

/-! ## Where an exception comes from -/

variable {w} {options : Options} {pid : ℤ} {raised : Raised}

/-- An exception of a step the pid has no part in: discovery, a step of a probe, an answer,
a delta or a write. -/
inductive World.Raises (w : World ε) (pid : ℤ) : Raised → Prop
  | listed {raised : Raised} (h : w.listed.outcome = .error raised) : World.Raises w pid raised
  | step {k : ℕ} {exc : PyError} (h : (w.steps k).Raises exc) :
      World.Raises w pid (.exception exc)
  | envelope {k : ℕ} {raw : PyStr} {exc : PyError} (hraw : (w.steps k).receive = .ok raw)
      (h : parseEnvelope w.loads raw = .error exc) : World.Raises w pid (.exception exc)
  | snapshot {k : ℕ} {raw : PyStr} {envelope : Envelope} {exc : PyError}
      (hraw : (w.steps k).receive = .ok raw) (henvelope : parseEnvelope w.loads raw = .ok envelope)
      (h : snapshotOf (w.prober k) pid (w.elapsedMs k) envelope = .error exc) :
      World.Raises w pid (.exception exc)
  | evaluation {raw : PyStr} {envelope : Envelope} {exc : PyError}
      (hraw : (w.steps 0).receive = .ok raw) (henvelope : parseEnvelope w.loads raw = .ok envelope)
      (h : payloadOf pid envelope (py "evaluation") = .error exc) :
      World.Raises w pid (.exception exc)
  | delta {i j : ℕ} {before after : List (PyStr × Json)} {exc : PyError}
      (hbefore : w.takeSnapshot i pid w.diffCollectors = .ok before)
      (hafter : w.takeSnapshot j pid w.diffCollectors = .ok after)
      (h : Diff.diffSnapshots before after = .error exc) : World.Raises w pid (.exception exc)
  | write {n : ℕ} {failure : WriteError} (h : w.write n = some failure) :
      World.Raises w pid failure.raised
  | channel {exc : PyError} (h : Doctor.checkReturnChannel w.doctor = .error exc) :
      World.Raises w pid (.exception exc)

omit [FloatText] [PyException ε] in
/-- An exception of the injection, translated or not. It is the one that depends on the
pid. -/
def World.Injects (w : World ε) (pid : ℤ) (raised : Raised) : Prop :=
  ∃ k exc, Execute.remoteExec pid (w.calls.remoteExec k pid) = some exc ∧ raised = .exception exc

omit [FloatText] in
/-- The collectors of a snapshot have distinct names, masked or not. -/
theorem compose_snapCollectors {isMasked : Bool} {chosen : List Collector}
    (h : w.snapCollectors isMasked = .ok chosen) :
    ∃ script, composeCollectorSource chosen = .ok script := by
  obtain ⟨available, hlisted, h⟩ := bind_eq_ok.1 h
  obtain rfl := Except.ok.inj h
  have havailable : Registry.availableCollectors w.sources w.compiles w.points = .ok available := by
    rw [← Registry.outcome_availableCollectorsLogged]
    exact mapError_eq_ok.1 hlisted
  obtain ⟨script, hscript, -⟩ := Registry.compose_availableCollectors havailable
  cases isMasked with
  | true => exact ⟨script, hscript⟩
  | false =>
    obtain ⟨hne, hnodup, -⟩ := composeCollectorSource_eq_ok.1 hscript
    refine ⟨_, composeCollectorSource_eq_ok.2 ⟨by simpa using hne, ?_, rfl⟩⟩
    have hname : ∀ collector : Collector,
        (if collector.name = w.unmaskedStacks.name then w.unmaskedStacks else collector).name =
          collector.name := by
      intro collector
      split_ifs with hn
      · exact hn.symm
      · rfl
    simpa [Function.comp_def, hname] using hnodup

omit [FloatText] [PyException ε] in
/-- The collectors of `diff` are built in, so they compose. -/
theorem compose_diffCollectors :
    ∃ script, composeCollectorSource w.diffCollectors = .ok script := by
  refine ⟨_, composeCollectorSource_eq_ok.2 ⟨List.cons_ne_nil _ _, ?_, rfl⟩⟩
  rw [World.diffCollectors, List.map_drop]
  exact (Registry.nodup_builtinCollectors w.sources).sublist (List.drop_sublist _ _)

omit [FloatText] [PyException ε] in
/-- A step that raises raises what the machine says, the injection apart. -/
theorem raises_of_faults {k : ℕ} {exc : PyError} (h : (w.faults k pid).Raises exc) :
    (w.steps k).Raises exc := by
  cases h with
  | socketDir h hos => exact .socketDir h hos
  | socket h hos => exact .socket h hos
  | bind h hos => exact .bind h hos
  | listen h hos => exact .listen h hos
  | resultDir h => exact .resultDir h
  | scriptDir h => exact .scriptDir h
  | writeScript h => exact .writeScript h
  | receive h => exact .receive h

/-- A probe that raises did so in the injection or in another step of `execute_in_target`. -/
theorem execute_error {k : ℕ} {exc : PyError} (h : w.execute k pid = .error exc) :
    w.Injects pid (.exception exc) ∨ w.Raises pid (.exception exc) := by
  rcases (Execute.ends_executeInTarget _ true).raises _ exc h with h | h | ⟨raw, hraw, h⟩
  · exact .inl ⟨k, exc, h, rfl⟩
  · exact .inr (.step (raises_of_faults h))
  · exact .inr (.envelope hraw h)

omit [PyException ε] in
/-- The envelope of a probe is the one the target sent. -/
theorem execute_ok {k : ℕ} {envelope : Envelope} (h : w.execute k pid = .ok envelope) :
    ∃ raw, (w.steps k).receive = .ok raw ∧ parseEnvelope w.loads raw = .ok envelope :=
  (Execute.ends_executeInTarget (f := w.faults k pid) _ true).returns _ envelope h

/-- A snapshot that fails did so in the injection, or in a step the pid has no part in. -/
theorem takeSnapshot_error {k : ℕ} {chosen : List Collector} {exc : PyError}
    (hcompose : ∃ script, composeCollectorSource chosen = .ok script)
    (h : w.takeSnapshot k pid chosen = .error exc) :
    w.Injects pid (.exception exc) ∨ w.Raises pid (.exception exc) := by
  obtain ⟨script, hscript⟩ := hcompose
  rw [World.takeSnapshot, hscript, ok_bind] at h
  rcases bind_eq_error.1 h with h | ⟨envelope, hexecute, h⟩
  · exact execute_error h
  · obtain ⟨raw, hraw, henvelope⟩ := execute_ok hexecute
    exact .inr (.snapshot hraw henvelope h)

/-- A write that fails is such a step. -/
theorem writeOut_error {n : ℕ} (h : w.writeOut n = .error raised) : w.Raises pid raised := by
  unfold World.writeOut at h
  split at h
  · cases h
  · next failure hw => exact Except.error.inj h ▸ .write hw

/-! ## Each handler -/

/-- Where `snap` has its exception from. -/
theorem runSnap_error (h : runSnap w options pid = .error raised) :
    w.Injects pid raised ∨ w.Raises pid raised := by
  rcases bind_eq_error.1 h with h | ⟨chosen, hchosen, h⟩
  · rcases bind_eq_error.1 h with h | ⟨_, -, h⟩
    · exact .inr (.listed h)
    · cases h
  rcases bind_eq_error.1 h with h | ⟨_, -, h⟩
  · obtain ⟨exc, hexc, rfl⟩ := mapError_eq_error.1 h
    exact takeSnapshot_error (compose_snapCollectors hchosen) hexc
  rcases bind_eq_error.1 h with h | ⟨_, -, h⟩
  · exact .inr (writeOut_error h)
  · cases h

/-- Where `eval` has its exception from. -/
theorem runEval_error (h : runEval w options pid = .error raised) :
    w.Injects pid raised ∨ w.Raises pid raised := by
  rcases bind_eq_error.1 h with h | ⟨_, -, h⟩
  · obtain ⟨exc, hexc, rfl⟩ := mapError_eq_error.1 h
    rcases bind_eq_error.1 hexc with h | ⟨envelope, hexecute, h⟩
    · exact execute_error h
    obtain ⟨raw, hraw, henvelope⟩ := execute_ok hexecute
    rcases bind_eq_error.1 h with h | ⟨_, -, h⟩
    · exact .inr (.evaluation hraw henvelope h)
    · cases h
  rcases bind_eq_error.1 h with h | ⟨_, -, h⟩
  · exact .inr (writeOut_error h)
  · cases h

/-- A sample that fails does so in a probe, or where two snapshots cannot be compared. -/
theorem fails_raises {k : ℕ} {exc : PyError} (h : (sampling w options pid).Fails k exc) :
    w.Injects pid (.exception exc) ∨ w.Raises pid (.exception exc) := by
  rcases h with h | ⟨i, before, after, -, hbefore, hafter, h⟩
  · exact takeSnapshot_error compose_diffCollectors h
  · exact .inr (.delta hbefore hafter h)

/-- The consumer ends with an exception of the series or of a write; it has called
`next` `n` times so far. -/
theorem consume_error {calls n written : ℕ}
    (h : consume w (sampling w options pid) calls written ((sampling w options pid).run n).2 =
      some (.error raised)) : w.Injects pid raised ∨ w.Raises pid raised := by
  induction calls generalizing n written with
  | zero => cases h
  | succ calls ih =>
    rw [consume] at h
    split at h
    · split at h
      · exact ih (n := n + 1) h
      · next failed =>
        obtain rfl := Except.error.inj (Option.some.inj h)
        exact .inr (writeOut_error failed)
    · next exc hlast =>
      obtain rfl := Except.error.inj (Option.some.inj h)
      have hmem : Diff.SamplingEvent.raised exc ∈ ((sampling w options pid).run (n + 1)).1 :=
        List.mem_append_right _ (List.mem_of_getLast? hlast)
      have hlawful := ((sampling w options pid).run_matches (n + 1)).1.lawful
      exact fails_raises (Diff.Sampling.of_raised_mem hlawful hmem).1
    · cases h
    · cases h

omit [PyException ε] in
/-- A series that comes to its end. -/
theorem consume_ok {series : Diff.Sampling} {calls written code : ℕ} {generator : Diff.Generator}
    (h : consume w series calls written generator = some (.ok code)) : code = exitOk := by
  induction calls generalizing written generator with
  | zero => cases h
  | succ calls ih =>
    rw [consume] at h
    split at h
    · split at h
      · exact ih h
      · cases h
    · cases h
    · exact (Except.ok.inj (Option.some.inj h)).symm
    · cases h

/-- Where `diff` has its exception from. -/
theorem runDiff_error {calls : ℕ} (h : runDiff w options pid calls = some (.error raised)) :
    w.Injects pid raised ∨ w.Raises pid raised :=
  consume_error (n := 0) h

/-- A diagnosis ends with an exception of `os.kill`, or of a step the pid has no part
in, and never with one of the prober's own. -/
theorem runDoctor_error (h : runDoctor w (some pid) = .error raised) :
    (∃ exc, w.calls.kill pid = some exc ∧ exc.kind.isOSError = false ∧
        raised = .exception exc.error) ∨
      w.Raises pid raised ∧ ∀ error, raised ≠ .exception (.probe error) := by
  rcases bind_eq_error.1 h with h | ⟨_, -, h⟩
  · rcases Doctor.diagnose_eq_error h with
      ⟨exc, hchannel, rfl⟩ | hlisted | ⟨p, exc, hp, hkill, hos, rfl⟩
    · refine .inr ⟨.channel hchannel, fun error herror => ?_⟩
      obtain ⟨cause, rfl⟩ := Doctor.checkReturnChannel_eq_error hchannel
      exact cause.error_ne_probe error (Raised.exception.inj herror)
    · refine .inr ⟨.listed hlisted, fun error herror => ?_⟩
      obtain ⟨exc, -, hexc⟩ := mapError_eq_error.1 hlisted
      rw [herror] at hexc
      split_ifs at hexc
    · obtain rfl := Option.some.inj hp
      exact .inl ⟨exc, hkill, hos, rfl⟩
  rcases bind_eq_error.1 h with h | ⟨_, -, h⟩
  · refine .inr ⟨writeOut_error h, fun error herror => ?_⟩
    rw [herror] at h
    unfold World.writeOut at h
    split at h
    · cases h
    · next failure _ => cases failure <;> cases h
  · cases h

end

end Commands
end Pidprobe
