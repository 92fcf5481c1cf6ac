/-
# From the target to stdout

A probe is a chain: the script renders an object as JSON, a transport carries the
bytes, `parse_envelope` and `payload_of` read them, the command builds its document
and `write_json` renders that as JSON again.  Here the chain is taken from one end to
the other.

What a reader of stdout finds is what it would find in the target's own values,
written once (`eval_end_to_end`, `snap_end_to_end`), or the difference of two such
snapshots (`diff_end_to_end`).  A run that ends otherwise was stopped by a step of a
probe or by stdout, or reports the exception of the target.
-/

import Pidprobe.Channel.Delivery
import Pidprobe.Channel.TempFile
import Pidprobe.Cli.Pids
import Pidprobe.Conformance
import Pidprobe.Eval
import Pidprobe.Lib.JsonReread
import Pidprobe.Output

namespace Pidprobe
namespace Commands

/-! ## The transports -/

/-- Either transport carries an answer to the probe: the socket in any chunks, the
file after any number of polls. -/
inductive Carries [Rounding] (d : Deadline) (data : List Byte) (result : Except PyError PyStr) :
    Prop
  | socket {acceptStep : Socket.AcceptStep} {steps : List Socket.RecvStep}
      (hintime : Socket.InTime d acceptStep.expiredAt acceptStep.armedAt)
      (hconnected : acceptStep.outcome = .connected) (hdelivers : Socket.Delivers d data steps)
      (hresult : Socket.receive d acceptStep steps = some result) : Carries d data result
  | tempFile {polls : List TempFile.Poll} (hleaves : TempFile.Leaves d data polls)
      (hresult : TempFile.receive d polls = some result) : Carries d data result

section

variable [FloatText] [Rounding] {d : Deadline} {result : Except PyError PyStr}

/-- What is received of a message is its text. -/
theorem Carries.eq {v : Json} (h : Carries d (Inject.encoded v) result) : result = .ok v.dumps := by
  cases h with
  | socket hintime hconnected hdelivers hresult =>
    rw [Socket.receive_of_delivers hintime hconnected hdelivers (Protocol.encoded_ne_nil v),
      Inject.decode_encoded] at hresult
    exact (Option.some.inj hresult).symm
  | tempFile hleaves hresult =>
    rw [TempFile.receive_of_leaves hleaves (Protocol.encoded_ne_nil v),
      Protocol.readText_encoded] at hresult
    exact (Option.some.inj hresult).symm

end

/-- One chunk, at once. -/
theorem carries_encoded [FloatText] (v : Json) :
    letI := Rounding.double
    Carries Socket.fiveSeconds (Inject.encoded v) (.ok v.dumps) := by
  let _ := Rounding.double
  have hdelivers : Socket.Delivers Socket.fiveSeconds [Inject.encoded v].flatten
      (Socket.chunked [Inject.encoded v]) :=
    Socket.delivers_chunked Socket.inTime_fiveSeconds
      (by simpa using (Protocol.encoded_ne_nil v).symm)
  rw [List.flatten_singleton] at hdelivers
  have hintime : Socket.InTime Socket.fiveSeconds Socket.atOnce.expiredAt Socket.atOnce.armedAt :=
    Socket.inTime_fiveSeconds
  have hconnected : Socket.atOnce.outcome = .connected := rfl
  refine .socket hintime hconnected hdelivers ?_
  rw [Socket.receive_of_delivers hintime hconnected hdelivers (Protocol.encoded_ne_nil v),
    Inject.decode_encoded]

/-! ## The envelope -/

section

variable [FloatText]

/-- An answer is read back as it was where its payload is. -/
theorem readsBack_okEnvelope {payload : Json} (h : payload.ReadsBack) :
    (Inject.okEnvelope payload).ReadsBack := by
  simp only [Inject.okEnvelope, Json.ReadsBack, Json.ReadsBackMembers]
  exact ⟨trivial, trivial, h, trivial⟩

variable [Unicode] {message : PyStr → PyStr} {ε' π : Type} [PyException ε'] [Serial ε' π]

/-- A success is read as a success, with its payload as a reader sees it: `json.dumps` and
`json.loads` are inverse there. -/
theorem parse_okEnvelope {payload : Json} {ms : List (PyStr × Json)} (h : payload.ReadsBack)
    (hms : payload.reread = .obj ms) :
    parseEnvelope (Json.loads message) (Inject.okEnvelope payload).dumps =
      .ok ⟨.ok, none, some ms⟩ := by
  have hread : Json.loads message (Inject.okEnvelope payload).dumps =
      .ok (Inject.okEnvelope (.obj ms)) := by
    rw [Json.loads, Json.read_dumps_of_readsBack (readsBack_okEnvelope h),
      Driver.reread_okEnvelope, hms]
  exact parseEnvelope_eq_ok.2 ⟨_, hread, rfl, rfl, rfl⟩

/-- The details of a failure, as a reader sees them: `str()` of what is read back, which for
texts is the text. -/
def rereadDetails (typeName : Json) (text traceback : PyStr) : ErrorInfo :=
  ⟨typeName.reread.toStr, Json.rereadStr text, Json.rereadStr traceback⟩

/-- A failure is read as a failure, with its details, whatever the name of the type
serialises as. -/
theorem parse_failureEnvelope {typeName : Json} (h : typeName.ReadsBack)
    (text traceback : PyStr) :
    parseEnvelope (Json.loads message) (Inject.failureEnvelope typeName text traceback).dumps =
      .ok ⟨.error, some (rereadDetails typeName text traceback), none⟩ := by
  have hread : Json.loads message (Inject.failureEnvelope typeName text traceback).dumps =
      .ok (Inject.failureEnvelope typeName.reread (Json.rereadStr text)
        (Json.rereadStr traceback)) := by
    have hback : (Inject.failureEnvelope typeName text traceback).ReadsBack :=
      ⟨trivial, ⟨h, trivial, trivial, trivial⟩, trivial, trivial⟩
    rw [Json.loads, Json.read_dumps_of_readsBack hback]
    rfl
  exact parseEnvelope_eq_ok.2 ⟨_, hread, rfl, rfl, rfl⟩

omit [Unicode] in
/-- What a script writes is the payload it collected, or the exception it is left
with. -/
theorem mem_written {collect : Except ε' π} {data : List Byte}
    (h : data ∈ Inject.written collect) :
    (∃ payload, Inject.collected collect = .ok payload ∧
        data = Inject.encoded (Inject.okEnvelope payload)) ∨
      ∃ exc typeName text traceback, Inject.collected collect = .error exc ∧
        typeNameJson exc = .ok typeName ∧ PyException.str exc = .ok text ∧
        PyException.formatExc exc = .ok traceback ∧
        data = Inject.encoded (Inject.failureEnvelope typeName text traceback) := by
  rw [Inject.written, Inject.pidprobeData] at h
  rcases hcollected : Inject.collected collect with exc | payload
  · rw [hcollected] at h
    simp only at h
    rcases henvelope : Inject.errorEnvelope exc with exc' | envelope
    · rw [henvelope] at h
      exact absurd h List.not_mem_nil
    · obtain ⟨typeName, text, traceback, hname, htext, htraceback, rfl⟩ :=
        Inject.errorEnvelope_eq_ok.1 henvelope
      rw [henvelope] at h
      exact .inr ⟨exc, typeName, text, traceback, rfl, hname, htext, htraceback,
        List.mem_singleton.1 h⟩
  · rw [hcollected] at h
    exact .inl ⟨payload, rfl, List.mem_singleton.1 h⟩

end

/-! ## The probe -/

section

variable [Unicode] [FloatText] [IsoFormat] {ε : Type} {w : World ε} {pid : ℤ} {k : ℕ}

/-- What a probe ends with short of an envelope: a step of it raises, or the
injection. -/
inductive Interrupted (w : World ε) (pid : ℤ) (k : ℕ) (exc : PyError) : Prop
  | step (h : (w.steps k).Raises exc)
  | injection (h : Execute.remoteExec pid (w.calls.remoteExec k pid) = some exc)

/-- What a probe hears of a script that collects this: nothing, where receiving
raises, or what the script wrote, whatever arithmetic the deadline is kept in. -/
inductive Hears {ε' π : Type} [PyException ε'] [Serial ε' π] (w : World ε) (k : ℕ)
    (collect : Except ε' π) : Prop
  | nothing {exc : PyError} (h : (w.steps k).receive = .error exc)
  | answer [Rounding] {d : Deadline} {data : List Byte} (hdata : data ∈ Inject.written collect)
      (hcarries : Carries d data (w.steps k).receive)

/-- A probe is interrupted, or comes to what it received: `execute_in_target` has no third
way to end. -/
theorem execute_cases (pid : ℤ) (k : ℕ) :
    (∃ exc, w.execute k pid = .error exc ∧ Interrupted w pid k exc) ∨
      ∃ raw, (w.steps k).receive = .ok raw ∧ w.execute k pid = parseEnvelope w.loads raw := by
  have hends := Execute.ends_executeInTarget (f := w.faults k pid) (parseEnvelope w.loads) true
  rcases hexecute : w.execute k pid with exc | envelope
  · rcases hends.raises _ exc hexecute with h | h | ⟨raw, hraw, h⟩
    · exact .inl ⟨exc, rfl, .injection h⟩
    · exact .inl ⟨exc, rfl, .step (raises_of_faults h)⟩
    · exact .inr ⟨raw, hraw, h.symm⟩
  · obtain ⟨raw, hraw, h⟩ := hends.returns _ envelope hexecute
    exact .inr ⟨raw, hraw, h.symm⟩

variable {ε' π : Type} [PyException ε'] [Serial ε' π] {collect : Except ε' π}

/-- **What a probe comes to**, where the loader is the reader of JSON: it is
interrupted, or returns the payload the script collected, or the failure it was left
with.  Each is read back as it was written, as far as its `float`s are. -/
theorem execute_heard (pid : ℤ) {message : PyStr → PyStr} (hloads : w.loads = Json.loads message)
    (hhears : Hears w k collect) :
    (∃ exc, w.execute k pid = .error exc ∧ Interrupted w pid k exc) ∨
      (∃ payload, Inject.collected collect = .ok payload ∧ ∀ ms, payload.ReadsBack →
        payload.reread = .obj ms → w.execute k pid = .ok ⟨.ok, none, some ms⟩) ∨
      ∃ exc typeName text traceback, Inject.collected collect = .error exc ∧
        typeNameJson exc = .ok typeName ∧ PyException.str exc = .ok text ∧
        PyException.formatExc exc = .ok traceback ∧ (typeName.ReadsBack → w.execute k pid =
          .ok ⟨.error, some (rereadDetails typeName text traceback), none⟩) := by
  rcases execute_cases pid k with hinterrupted | ⟨raw, hraw, hexecute⟩
  · exact .inl hinterrupted
  cases hhears with
  | nothing h => cases hraw.symm.trans h
  | answer hdata hcarries =>
    rw [hloads] at hexecute
    rcases mem_written hdata with
      ⟨payload, hpayload, rfl⟩ |
        ⟨exc, typeName, text, traceback, hexc, hname, htext, htraceback, rfl⟩
    · obtain rfl := Except.ok.inj (hraw.symm.trans hcarries.eq)
      exact .inr (.inl ⟨payload, hpayload, fun ms hback hms => by
        rw [hexecute, parse_okEnvelope hback hms]⟩)
    · obtain rfl := Except.ok.inj (hraw.symm.trans hcarries.eq)
      exact .inr (.inr ⟨exc, typeName, text, traceback, hexc, hname, htext, htraceback,
        fun hback => by rw [hexecute, parse_failureEnvelope hback]⟩)

/-- What a command raises for its probe: what interrupted it, or the exception the
script was left with, as a reader sees it. -/
inductive ProbeRaises (w : World ε) (pid : ℤ) (k : ℕ) (collect : Except ε' π)
    (action : PyStr) : PyError → Prop
  | interrupted {exc : PyError} (h : Interrupted w pid k exc) :
      ProbeRaises w pid k collect action exc
  | target {exc : ε'} {typeName : Json} {text traceback : PyStr}
      (hexc : Inject.collected collect = .error exc) (hname : typeNameJson exc = .ok typeName)
      (htext : PyException.str exc = .ok text)
      (htraceback : PyException.formatExc exc = .ok traceback) :
      ProbeRaises w pid k collect action (.probe (.target pid
        (rereadDetails typeName text traceback) action))

/-- What `json.dumps` writes for the name of an exception's type is read back.  A
name that is a `str` is, and any other one as far as its `float`s are. -/
def NamesRead (ε' : Type) [PyException ε'] : Prop :=
  ∀ (exc : ε') typeName, typeNameJson exc = .ok typeName → typeName.ReadsBack

/-! ## The document -/

variable (w) in
/-- The end of a command: its document is written, and what building it raised goes
on. -/
def printDocument (isPretty : Bool) (document : Except PyError Json) : Except Raised PyStr := do
  let document ← document.mapError Raised.exception
  w.writeOut 0
  .ok (writeJson isPretty document)

omit [Unicode] [IsoFormat] in
/-- A document that is read back is a line of its own, or a text with an indent; a reader
gets the document from either. -/
theorem writeJson_reads_back (isPretty : Bool) {document : Json} (h : document.ReadsBack) :
    ∃ line, writeJson isPretty document = line ++ [cp '\n'] ∧
      (isPretty = false → cp '\n' ∉ line) ∧ Json.read line = some document.reread := by
  refine ⟨_, rfl, ?_, read_jsonText isPretty h⟩
  rintro rfl
  exact newline_notMem_jsonText document

/-- How a command ends: it prints one document, in which a reader finds what `P`
says, or raises what the write came to or what `Q` says. -/
structure Ends (w : World ε) (isPretty : Bool) (P : Json → Prop) (Q : PyError → Prop)
    (printed : Except Raised PyStr) : Prop where
  prints : ∀ text, printed = .ok text → ∃ line found, text = line ++ [cp '\n'] ∧
    (isPretty = false → cp '\n' ∉ line) ∧ Json.read line = some found ∧ P found
  raises : ∀ raised, printed = .error raised →
    (∃ failure, w.write 0 = some failure ∧ raised = failure.raised) ∨
      ∃ exc, raised = .exception exc ∧ Q exc

/-- The ways a document comes out: printed and read back, or the exception it ended with, or
one of the write. -/
theorem ends_printDocument {isPretty : Bool} {P : Json → Prop} {Q : PyError → Prop}
    {document : Except PyError Json}
    (h : (∃ doc, document = .ok doc ∧ doc.ReadsBack ∧ P doc.reread) ∨
      ∃ exc, document = .error exc ∧ Q exc) :
    Ends w isPretty P Q (printDocument w isPretty document) := by
  constructor
  · intro text htext
    obtain ⟨doc, hdoc, htext⟩ := bind_eq_ok.1 htext
    obtain ⟨-, -, htext⟩ := bind_eq_ok.1 htext
    obtain rfl := Except.ok.inj htext
    rw [mapError_eq_ok] at hdoc
    rcases h with ⟨doc', h, hback, hP⟩ | ⟨exc, h, -⟩
    · obtain rfl := Except.ok.inj (hdoc.symm.trans h)
      obtain ⟨line, hline, hnewline, hread⟩ := writeJson_reads_back isPretty hback
      exact ⟨line, _, hline, hnewline, hread, hP⟩
    · cases hdoc.symm.trans h
  · intro raised hraised
    rcases bind_eq_error.1 hraised with hraised | ⟨doc, -, hraised⟩
    · obtain ⟨exc, hexc, rfl⟩ := mapError_eq_error.1 hraised
      rcases h with ⟨doc', h, -⟩ | ⟨exc', h, hQ⟩
      · cases hexc.symm.trans h
      · obtain rfl := Except.error.inj (hexc.symm.trans h)
        exact .inr ⟨exc, rfl, hQ⟩
    rcases bind_eq_error.1 hraised with hraised | ⟨_, -, hraised⟩
    · unfold World.writeOut at hraised
      split at hraised
      · cases hraised
      · next failure hw => exact .inl ⟨failure, hw, (Except.error.inj hraised).symm⟩
    · cases hraised

end

/-- A machine on which every probe hears this text, and on which nothing else goes wrong. -/
def hearingWorld [Unicode] [FloatText] [IsoFormat] {ε : Type} (prober : Prober) (raw : PyStr) :
    World ε :=
  { Cli.plainWorld prober with
    steps := fun _ => { Cli.silentSteps with receive := .ok raw }
    loads := Json.loads fun _ => [] }

/-! ## `pidprobe eval` -/

/-- The document of an evaluation, its five members in the order of `Evaluation`. -/
def Evaluation.json (evaluation : Evaluation) : Json :=
  .obj [(py "pid", .int evaluation.pid), (py "expression", .str evaluation.expression),
    (py "type", .str evaluation.type), (py "result", .str evaluation.result),
    (py "masking_enabled", .bool evaluation.maskingEnabled)]

section

variable [Unicode] [FloatText] [IsoFormat] {ε : Type} (w : World ε) (isPretty : Bool)
  (options : Options) (pid : ℤ)

/-- What `run_eval` writes: the document of the evaluation, as `write_json` prints it. -/
def printedEval : Except Raised PyStr :=
  printDocument w isPretty ((evaluateInTarget w options pid).map Evaluation.json)

/-- `eval` returns its code where something was printed, and fails where printing did. -/
theorem runEval_eq :
    runEval w options pid = (printedEval w isPretty options pid).map fun _ => exitOk := by
  rw [runEval, printedEval, printDocument]
  rcases evaluateInTarget w options pid with exc | evaluation
  · rfl
  · simp only [Except.map, Except.mapError, ok_bind]
    rcases w.writeOut 0 with raised | _ <;> rfl

end

section

variable [Unicode] [FloatText] [IsoFormat] {ε ε' ν α : Type} {w : World ε} [PyException ε']
  [PyObject ε' α] {options : Options} {pid : ℤ} {run : Eval.EvalRun ε' ν α} {d : Deadline}
  {data : List Byte} {message : PyStr → PyStr} {isPretty : Bool}

variable (options pid run) in
/-- A reader finds the evaluation the target made, as if it had been written once:
the name of the value's type and its rendering, `str()` of what is read back where
either is no `str`. -/
def ShowsValue (found : Json) : Prop :=
  ∃ value type result, Eval.evaluated run options.expression = .ok value ∧
    Eval.typeJson value = .ok type ∧
    SafeRepr.safeReprNamed options.expression options.isMasked value >>= Serial.walk =
      (.ok result : Except ε' Json) ∧
    found = (Evaluation.json ⟨pid, options.expression, type.reread.toStr, result.reread.toStr,
      options.isMasked⟩).reread

/-- **An evaluation, from the target to stdout.**  For every expression, with and
without masking, whether the probe hears nothing or is answered on either transport:
what is printed is one document, and a reader of it finds the pid, the expression, the
name of the value's type and its `safe_repr` as the target made them.  A run that
prints nothing was stopped by stdout or by a step of the probe, or raises the
exception that evaluating or rendering the value ended with. -/
theorem eval_end_to_end (hloads : w.loads = Json.loads message)
    (hhears : Hears w 0 (Eval.evalSource options.expression options.isMasked run))
    (hnames : NamesRead ε')
    (hreads : ∀ payload, Inject.collected
      (Eval.evalSource options.expression options.isMasked run) = .ok payload →
        payload.ReadsBack) :
    Ends w isPretty (ShowsValue options pid run)
      (ProbeRaises w pid 0 (Eval.evalSource options.expression options.isMasked run)
        (py "evaluation"))
      (printedEval w isPretty options pid) := by
  refine ends_printDocument ?_
  rcases execute_heard pid hloads hhears with ⟨exc, hexecute, hinterrupted⟩ |
    ⟨payload, hcollected, hexecute⟩ |
    ⟨exc, typeName, text, traceback, hexc, hname, htext, htraceback, hexecute⟩
  · refine .inr ⟨exc, ?_, .interrupted hinterrupted⟩
    rw [evaluateInTarget, hexecute]
    rfl
  · have hback := hreads payload hcollected
    obtain ⟨payload', hpayload, hwalk⟩ := bind_eq_ok.1 hcollected
    obtain ⟨value, hvalue, hpayload⟩ := bind_eq_ok.1 hpayload
    obtain ⟨type, htype, hpayload⟩ := bind_eq_ok.1 hpayload
    obtain ⟨result, hresult, hpayload⟩ := bind_eq_ok.1 hpayload
    obtain rfl := Except.ok.inj hpayload
    obtain ⟨typeJson, htypeJson, hwalk⟩ := bind_eq_ok.1 hwalk
    obtain ⟨resultJson, hresultJson, hwalk⟩ := bind_eq_ok.1 hwalk
    obtain rfl := Except.ok.inj hwalk
    refine .inl ⟨Evaluation.json ⟨pid, options.expression, typeJson.reread.toStr,
      resultJson.reread.toStr, options.isMasked⟩, ?_,
      ⟨trivial, trivial, trivial, trivial, trivial, trivial⟩, value, typeJson, resultJson, hvalue,
      bind_eq_ok.2 ⟨type, htype, htypeJson⟩, bind_eq_ok.2 ⟨result, hresult, hresultJson⟩, rfl⟩
    rw [evaluateInTarget, hexecute _ hback rfl]
    rfl
  · refine .inr ⟨_, ?_, .target hexc hname htext htraceback⟩
    rw [evaluateInTarget, hexecute (hnames exc typeName hname)]
    rfl

end

/-- The exceptions of the examples are named by strings. -/
theorem namesRead_excData [FloatText] : NamesRead ExcData := by
  rintro exc typeName h
  obtain rfl := Except.ok.inj h
  trivial

/-- What the target answers to `api_key`: the type, which survives masking, and the
placeholder. -/
def maskedKey : Json :=
  .obj [(py "type", .str (py "str")), (py "result", .str SafeRepr.maskPlaceholder)]

/-- An expression whose value the target answers over a socket: what is printed is read back
as the answer. -/
theorem eval_end_to_end_key :
    letI : IsoFormat := ⟨fun _ => none⟩
    letI := Unicode.fullwidth
    letI := Json.wholeFloats
    let options : Options := { Cli.plainOptions with expression := py "api_key" }
    let run := Eval.readKey (py "hunter2")
    let w : World ExcData := hearingWorld plainProber (Inject.okEnvelope maskedKey).dumps
    Ends w false (ShowsValue options 7 run)
      (ProbeRaises w 7 0 (Eval.evalSource (py "api_key") true run) (py "evaluation"))
      (printedEval w false options 7) := by
  let _ : IsoFormat := ⟨fun _ => none⟩
  let _ := Unicode.fullwidth
  let _ := Json.wholeFloats
  let _ := Rounding.double
  intro options run w
  have hsecret : SafeRepr.isSecretName (py "api_key") = true := by decide
  have hcollected : Inject.collected (Eval.evalSource (py "api_key") true run) = .ok maskedKey := by
    rw [Eval.collected_value hsecret rfl]
    rfl
  have hdata : Inject.encoded (Inject.okEnvelope maskedKey) ∈
      Inject.written (Eval.evalSource (py "api_key") true run) := by
    rw [Inject.written_of_collected hcollected]
    exact List.mem_singleton_self _
  refine eval_end_to_end rfl (.answer hdata (carries_encoded _)) namesRead_excData ?_
  rintro payload hpayload
  obtain rfl := Except.ok.inj (hcollected.symm.trans hpayload)
  exact ⟨trivial, trivial, trivial⟩

/-! ## `pidprobe snap` -/

section

variable [Unicode] [FloatText] [IsoFormat] {ε : Type} [PyException ε] (w : World ε)
  (isPretty : Bool) (options : Options) (pid : ℤ)

/-- What `run_snap` writes: the collectors are chosen first, and the snapshot of them is
printed. -/
def printedSnap : Except Raised PyStr := do
  let chosen ← w.snapCollectors options.isMasked
  printDocument w isPretty ((w.takeSnapshot 0 pid chosen).map Json.obj)

/-- `snap` returns its code where something was printed, and fails where printing did. -/
theorem runSnap_eq :
    runSnap w options pid = (printedSnap w isPretty options pid).map fun _ => exitOk := by
  rw [runSnap, printedSnap]
  rcases w.snapCollectors options.isMasked with raised | chosen
  · rfl
  simp only [ok_bind, printDocument]
  rcases w.takeSnapshot 0 pid chosen with exc | snapshot
  · rfl
  · simp only [Except.map, Except.mapError, ok_bind]
    rcases w.writeOut 0 with raised | _ <;> rfl

end

section

variable [Unicode] [IsoFormat] {ε' π : Type} [PyException ε'] [Serial ε' π]
  {t : Driver.World ε' π} {chosen : List Collector}

omit [IsoFormat] [Serial ε' π] in
/-- A report that was read is read again as it is. -/
theorem reread_reported {c : Collector} (hascii : ∀ x ∈ c.name, IsAscii x) {r : Json}
    (h : Driver.ReportedAs t c r) : r.reread = r := by
  obtain ⟨data, status, error, i, -, rfl⟩ := h
  simp only [Driver.rendered, Json.reread, Json.rereadMembers, Json.rereadStr_rereadStr,
    Json.rereadStr_ascii hascii, Json.reread_reread]
  rfl

omit [IsoFormat] in
/-- So is a section. -/
theorem reread_filled {c : Collector} (hascii : ∀ x ∈ c.name, IsAscii x) {v : PyStr × Json}
    (h : Driver.FilledAs t c v) : (Json.rereadStr v.1, v.2.reread) = v := by
  obtain ⟨u, -, rfl⟩ := h
  rw [Json.rereadStr_ascii hascii, Json.reread_reread]

/-- What a reader finds in the document of a list of collectors: the pid, the reports and
the sections it was made of. -/
theorem reread_document (hnames : Driver.PlainNames chosen) {sections : List (PyStr × Json)}
    {entries : List Json} (hfilled : List.Forall₂ (Driver.FilledAs t) chosen sections)
    (hreported : List.Forall₂ (Driver.ReportedAs t) chosen entries) (prober : Prober) (pid : ℤ)
    (elapsedMs : PyFloat) (target : Json) (stopDurationMs : ℚ) :
    ∃ own, member (py "pid") own = .int pid ∧ member (py "collectors") own = .arr entries ∧
      (Json.obj (header (.obj (Driver.builtMeta prober pid elapsedMs entries target
        stopDurationMs)) ++ sections)).reread = .obj (header (.obj own) ++ sections) := by
  obtain ⟨hnodup, hascii⟩ := hnames
  have hfst : sections.map Prod.fst = chosen.map Collector.name := by
    refine (map_eq_of_forall₂ (hfilled.imp fun c v hv => ?_)).symm
    obtain ⟨u, -, rfl⟩ := hv
    rfl
  have hsections : Json.rereadMembers sections = sections := by
    rw [Json.rereadMembers_eq_map]
    refine (List.map_congr_left fun v hv => ?_).trans (List.map_id sections)
    obtain ⟨c, hc, hcv⟩ := exists_of_forall₂ hfilled.flip hv
    exact reread_filled (hascii c hc) hcv
  have hentries : Json.rereadElems entries = entries := by
    rw [Json.rereadElems_eq_map]
    refine (List.map_congr_left fun r hr => ?_).trans (List.map_id entries)
    obtain ⟨c, hc, hcr⟩ := exists_of_forall₂ hreported.flip hr
    exact reread_reported (hascii c hc) hcr
  let own := Dict.ofPairs (Json.rereadMembers (Driver.builtMeta prober pid elapsedMs entries target
    stopDurationMs))
  have hheader : Json.rereadMembers (header (.obj (Driver.builtMeta prober pid elapsedMs entries
      target stopDurationMs)) ++ sections) = header (.obj own) ++ sections := by
    rw [Json.rereadMembers_eq_map, List.map_append, ← Json.rereadMembers_eq_map sections,
      hsections]
    rfl
  refine ⟨own, ?_, ?_, ?_⟩
  · rfl
  · have hget : member (py "collectors") own = .arr (Json.rereadElems entries) := rfl
    rw [hget, hentries]
  · rw [Json.reread, hheader, Dict.ofPairs_of_nodupKeys (Driver.nodupKeys_document hnodup hfst _)]

variable [FloatText]

/-- Every `float` of a payload has a text that denotes it: those in the values the
snippets assign, those in the names of types, if there are any, and the durations. -/
structure FloatsRead (t : Driver.World ε' π) (chosen : List Collector) : Prop where
  names : NamesRead ε'
  sections : ∀ c ∈ chosen, ∀ v, Driver.Fills (t.behaves c) v → v.ReadsBack
  durations : ∀ i j, i ≤ j → Json.FloatReadsBack (.finite ((t.clock j - t.clock i) * 1000))

/-- So has every `float` of the snapshot, where the durations are rounded: `repr` and
`float` are inverse on each of them. -/
structure FloatsReadBack (t : Driver.World ε' π) (chosen : List Collector) (elapsedMs : PyFloat) :
    Prop extends FloatsRead t chosen where
  rounded : ∀ i j, i ≤ j →
    Json.FloatReadsBack (roundThousandths (.finite ((t.clock j - t.clock i) * 1000)))
  elapsed : Json.FloatReadsBack (roundThousandths elapsedMs)

omit [Unicode] [IsoFormat] [Serial ε' π] in
/-- The error of a report is read back if the name in it is. -/
theorem reported_error_readsBack (hnames : NamesRead ε') {outcome : Except ε' π}
    {assigned : Option π} {status : PyStr} {error : Json}
    (h : Driver.reported outcome = .ok (assigned, status, error)) : error.ReadsBack := by
  rcases Driver.reported_status h with ⟨-, rfl, -⟩ |
    ⟨-, exc, -, typeName, text, traceback, hname, rfl⟩
  · trivial
  · exact ⟨hnames exc typeName hname, trivial, trivial, trivial⟩

omit [Unicode] [IsoFormat] in
/-- What the driver says of the target is read back as it was: numbers and texts. -/
theorem readsBack_target (target : Driver.TargetInfo) : target.json.ReadsBack := by
  obtain ⟨pid, pythonVersion, implementation, platform, executable⟩ := target
  cases executable <;> exact ⟨trivial, trivial, trivial, trivial, trivial, trivial⟩

omit [IsoFormat] in
/-- The payload of a list of collectors is read back, as its sections and the names of the
exceptions in its reports are. -/
theorem readsBack_payload (hfloats : FloatsRead t chosen)
    (hnames : Driver.PlainNames chosen) {payload : Json}
    (h : Driver.Collects chosen t payload) : payload.ReadsBack := by
  obtain ⟨hnodup, hascii⟩ := hnames
  obtain ⟨script, specs, hscript, hlink, hcollected⟩ := h
  have hspecs : specs = chosen.map fun c => (c.name, sectionFunction c) := by
    rw [link_compose hscript] at hlink
    rw [← Option.some.inj hlink]
    refine List.map_congr_left fun c hc => ?_
    rw [boundTo_of_ascii hnodup hascii hc]
  subst hspecs
  obtain ⟨sections, reports, k, rfl, hsections, hreports⟩ :=
    Driver.collected_driver_payload (by simpa [Function.comp_def] using hnodup) hcollected
  rw [List.forall₂_map_left_iff] at hsections hreports
  refine ⟨Json.readsBackMembers_iff.2 fun kv hkv => ?_, Json.readsBackElems_iff.2 fun r hr => ?_,
    readsBack_target _, hfloats.durations 0 k (Nat.zero_le k), trivial⟩
  · obtain ⟨c, hc, -, hfills⟩ := exists_of_forall₂ hsections.flip hkv
    exact hfloats.sections c hc kv.2 hfills
  · obtain ⟨c, -, assigned, status, error, i, hreport, rfl⟩ :=
      exists_of_forall₂ hreports.flip hr
    exact ⟨trivial, trivial, reported_error_readsBack hfloats.names hreport,
      hfloats.durations i (i + 1) (Nat.le_succ i), trivial⟩

/-- And so is the document that is made of it. -/
theorem readsBack_document {elapsedMs : PyFloat} (hfloats : FloatsReadBack t chosen elapsedMs)
    {sections : List (PyStr × Json)} {entries : List Json}
    (hfilled : List.Forall₂ (Driver.FilledAs t) chosen sections)
    (hreported : List.Forall₂ (Driver.ReportedAs t) chosen entries) (prober : Prober) (pid : ℤ)
    (k : ℕ) :
    (Json.obj (header (.obj (Driver.builtMeta prober pid elapsedMs entries t.target.json.reread
      ((t.clock k - t.clock 0) * 1000))) ++ sections)).ReadsBack := by
  have hprober : prober.interpreter.json.ReadsBack := by
    rcases prober.interpreter with ⟨pythonVersion, implementation, platform, executable⟩
    cases executable <;> exact ⟨trivial, trivial, trivial, trivial, trivial⟩
  have htarget : (t.target.json.reread.orElse (.obj [])).ReadsBack := by
    unfold Json.orElse
    split_ifs
    · exact Json.readsBack_reread (readsBack_target _)
    · trivial
  have hentries : Json.ReadsBackElems entries := by
    refine Json.readsBackElems_iff.2 fun r hr => ?_
    obtain ⟨c, -, assigned, status, error, i, hreport, rfl⟩ :=
      exists_of_forall₂ hreported.flip hr
    exact ⟨trivial, trivial, Json.readsBack_reread (reported_error_readsBack hfloats.names hreport),
      hfloats.rounded i (i + 1) (Nat.le_succ i), trivial⟩
  refine Json.readsBackMembers_iff.2 (List.forall_mem_append.2 ⟨?_, fun kv hkv => ?_⟩)
  · refine List.forall_mem_cons.2 ⟨trivial, List.forall_mem_singleton.2 ?_⟩
    exact ⟨trivial, trivial, trivial, hprober, htarget, hfloats.rounded 0 k (Nat.zero_le k),
      hfloats.elapsed, hentries, trivial⟩
  · obtain ⟨c, hc, v, hfills, rfl⟩ := exists_of_forall₂ hfilled.flip hkv
    exact Json.readsBack_reread (hfloats.sections c hc v hfills)

variable {ε : Type} [PyException ε] {w : World ε} {options : Options} {pid : ℤ} {k : ℕ}
  {specs : List (PyStr × SectionFunction)} {message : PyStr → PyStr} {isPretty : Bool}

omit [FloatText] [PyException ε] in
/-- A snapshot of `t`: the pid, each section under the name of its collector with what
the snippet assigned, and each report, in the order of the collectors. -/
def Shows (t : Driver.World ε' π) (chosen : List Collector) (pid : ℤ)
    (snapshot : List (PyStr × Json)) : Prop :=
  ∃ own sections entries, snapshot = header (.obj own) ++ sections ∧
    member (py "pid") own = .int pid ∧ member (py "collectors") own = .arr entries ∧
    List.Forall₂ (Driver.FilledAs t) chosen sections ∧
    List.Forall₂ (Driver.ReportedAs t) chosen entries

omit [FloatText] [PyException ε] in
/-- The section functions of the script that is composed for a list of collectors, as its
specs refer to them. -/
def Scripted (chosen : List Collector) (specs : List (PyStr × SectionFunction)) : Prop :=
  ∃ script, composeCollectorSource chosen = .ok script ∧ script.link = some specs

omit [PyException ε] in
/-- **What a snapshot comes to.**  It has the sections and the reports of the
collectors, or the probe raises. -/
theorem takeSnapshot_heard (pid : ℤ) (hloads : w.loads = Json.loads message)
    (hnames : Driver.PlainNames chosen) (hspecs : Scripted chosen specs)
    (hhears : Hears w k (Driver.driver t specs)) (hfloats : FloatsRead t chosen) :
    (∃ sections entries j, List.Forall₂ (Driver.FilledAs t) chosen sections ∧
      List.Forall₂ (Driver.ReportedAs t) chosen entries ∧
      w.takeSnapshot k pid chosen = .ok (header (.obj (Driver.builtMeta (w.prober k) pid
        (w.elapsedMs k) entries t.target.json.reread ((t.clock j - t.clock 0) * 1000))) ++
          sections)) ∨
      ∃ exc, w.takeSnapshot k pid chosen = .error exc ∧
        ProbeRaises w pid k (Driver.driver t specs) (py "snapshot") exc := by
  obtain ⟨script, hscript, hlink⟩ := hspecs
  have hsnap : w.takeSnapshot k pid chosen =
      w.execute k pid >>= snapshotOf (w.prober k) pid (w.elapsedMs k) := by
    rw [World.takeSnapshot, hscript, ok_bind]
  rcases execute_heard pid hloads hhears with ⟨exc, hexecute, hinterrupted⟩ |
    ⟨payload, hcollected, hexecute⟩ |
    ⟨exc, typeName, text, traceback, hexc, hname, htext, htraceback, hexecute⟩
  · exact .inr ⟨exc, by rw [hsnap, hexecute]; rfl, .interrupted hinterrupted⟩
  · have hcollects : Driver.Collects chosen t payload := ⟨script, specs, hscript, hlink, hcollected⟩
    obtain ⟨ms, j, entries, sections, hms, hdoc, hfilled, hreported⟩ :=
      Driver.document_of_collects hnames hcollects (w.prober k) pid (w.elapsedMs k)
    rw [hexecute ms (readsBack_payload hfloats hnames hcollects) hms, ok_bind,
      snapshotOf_eq (payloadOf_eq_ok.2 ⟨rfl, rfl⟩), hdoc] at hsnap
    exact .inl ⟨sections, entries, j, hfilled, hreported, hsnap⟩
  · exact .inr ⟨_, by rw [hsnap, hexecute (hfloats.names exc typeName hname)]; rfl,
      .target hexc hname htext htraceback⟩

/-- **A snapshot, from the target to stdout.**  For every list of collectors with ASCII
names and whatever their snippets do, masked or not, whether the probe hears nothing or
is answered on either transport: what is printed is one document, and a reader of it
finds a snapshot of the target, each section with the value its snippet assigned.  A
run that prints nothing was stopped by stdout or by a step of the probe, or raises what
the script was left with. -/
theorem snap_end_to_end (hloads : w.loads = Json.loads message)
    (hchosen : w.snapCollectors options.isMasked = .ok chosen)
    (hnames : Driver.PlainNames chosen) (hspecs : Scripted chosen specs)
    (hhears : Hears w 0 (Driver.driver t specs))
    (hfloats : FloatsReadBack t chosen (w.elapsedMs 0)) :
    Ends w isPretty (fun found => ∃ snapshot, found = .obj snapshot ∧ Shows t chosen pid snapshot)
      (ProbeRaises w pid 0 (Driver.driver t specs) (py "snapshot"))
      (printedSnap w isPretty options pid) := by
  rw [printedSnap, hchosen, ok_bind]
  refine ends_printDocument ?_
  rcases takeSnapshot_heard pid hloads hnames hspecs hhears hfloats.toFloatsRead with
    ⟨sections, entries, j, hfilled, hreported, hsnap⟩ | ⟨exc, hsnap, hraises⟩
  · obtain ⟨own, hpid, hentries, hreread⟩ := reread_document hnames hfilled hreported (w.prober 0)
      pid (w.elapsedMs 0) t.target.json.reread ((t.clock j - t.clock 0) * 1000)
    exact .inl ⟨_, by rw [hsnap]; rfl,
      readsBack_document hfloats hfilled hreported (w.prober 0) pid j, _, hreread, own, sections,
      entries, rfl, hpid, hentries, hfilled, hreported⟩
  · exact .inr ⟨exc, by rw [hsnap]; rfl, hraises⟩

/-! ## `pidprobe diff` -/

omit [FloatText] [PyException ε] in
/-- The collectors of `diff` have ASCII names, each its own. -/
theorem plainNames_diffCollectors : Driver.PlainNames w.diffCollectors := by
  obtain ⟨hnodup, hascii⟩ := Conformance.plainNames_builtin w.sources
  refine ⟨?_, fun c hc => hascii c (List.mem_of_mem_drop hc)⟩
  rw [World.diffCollectors, List.map_drop]
  exact hnodup.sublist (List.drop_sublist _ _)

omit [PyException ε] in
/-- What the series sees at each probe is a snapshot of the target at that probe, its three
sections as the collectors filled them. -/
theorem shows_of_sample {t : ℕ → Driver.World ε' π} {snapshot : List (PyStr × Json)}
    (hloads : w.loads = Json.loads message) (hspecs : Scripted w.diffCollectors specs)
    (hhears : Hears w k (Driver.driver (t k) specs))
    (hfloats : FloatsRead (t k) w.diffCollectors)
    (hsample : (sampling w options pid).sample k = .ok snapshot) :
    Shows (t k) w.diffCollectors pid snapshot := by
  rcases takeSnapshot_heard pid hloads plainNames_diffCollectors hspecs hhears hfloats with
    ⟨sections, entries, j, hfilled, hreported, hsnap⟩ | ⟨exc, hsnap, -⟩
  · obtain rfl := Except.ok.inj (hsample.symm.trans hsnap)
    exact ⟨_, sections, entries, rfl, rfl, rfl, hfilled, hreported⟩
  · cases hsample.symm.trans hsnap

omit [FloatText] [PyException ε] in
/-- How the loop of `diff` fails: a write does, or a probe, or two samples cannot be
compared. -/
inductive DiffFails (w : World ε) (pid : ℤ) (t : ℕ → Driver.World ε' π)
    (specs : List (PyStr × SectionFunction)) : Raised → Prop
  | write {n : ℕ} {failure : WriteError} (h : w.write n = some failure) :
      DiffFails w pid t specs failure.raised
  | probe {k : ℕ} {exc : PyError}
      (h : ProbeRaises w pid k (Driver.driver (t k) specs) (py "snapshot") exc) :
      DiffFails w pid t specs (.exception exc)
  | incomparable {i : ℕ} {before after : List (PyStr × Json)} {exc : PyError}
      (hbefore : Shows (t (i + 1)) w.diffCollectors pid before)
      (hafter : Shows (t (i + 2)) w.diffCollectors pid after)
      (h : Diff.diffSnapshots before after = .error exc) :
      DiffFails w pid t specs (.exception exc)

omit [PyException ε] in
/-- A write that the transcript says has failed is one of the machine that fails; the series
itself writes nothing. -/
theorem write_of_failed {series : Diff.Sampling} {failure : WriteError} :
    ∀ {calls written : ℕ} {generator : Diff.Generator},
      .failed failure ∈ printedFrom w isPretty series calls written generator →
        ∃ n, w.write n = some failure
  | 0, _, _, h => absurd h List.not_mem_nil
  | calls + 1, written, generator, h => by
      rw [printedFrom] at h
      rcases List.mem_append.1 h with h | h
      · obtain ⟨event, -, h⟩ := List.mem_map.1 h
        cases h
      split at h
      · rcases hwrite : w.write written with _ | failure'
        · rw [hwrite] at h
          rcases List.mem_cons.1 h with h | h
          · cases h
          · exact write_of_failed h
        · rw [hwrite] at h
          cases List.mem_singleton.1 h
          exact ⟨written, hwrite⟩
      · exact absurd h List.not_mem_nil

omit [PyException ε] in
/-- `diff` fails in a write, or in its series: there is nothing else in it that raises. -/
theorem runDiff_fails {calls : ℕ} {raised : Raised}
    (h : runDiff w options pid calls = some (.error raised)) :
    (∃ n failure, w.write n = some failure ∧ raised = failure.raised) ∨
      ∃ k exc, (sampling w options pid).Fails k exc ∧ raised = .exception exc := by
  have hending : ending (printed w false options pid calls) = some (.error raised) :=
    (consume_eq_ending calls 0 .created).symm.trans h
  unfold ending at hending
  split at hending
  · next failure hlast =>
    obtain ⟨n, hn⟩ := write_of_failed (List.mem_of_getLast? hlast)
    exact .inl ⟨n, failure, hn, (Except.error.inj (Option.some.inj hending)).symm⟩
  · next exc hlast =>
    have hmem : Diff.SamplingEvent.raised exc ∈ sampledOf (printed w false options pid calls) :=
      List.mem_filterMap.2 ⟨_, List.mem_of_getLast? hlast, rfl⟩
    have hlawful := sampled_of_due (printed_due w false options pid calls)
    exact .inr ⟨_, exc, (Diff.Sampling.of_raised_mem hlawful hmem).1,
      (Except.error.inj (Option.some.inj hending)).symm⟩
  · cases hending
  · cases hending

omit [PyException ε] in
/-- **A series of deltas, from the targets to stdout.**  The target changes from probe
to probe, and each probe hears nothing or is answered by the target as it then is.
However often `diff` is resumed and wherever its output is cut, each whole line is read
as a delta, in order and without a gap; the `i`-th is the delta of a snapshot of the
target at probe `i + 1` and one of it at probe `i + 2`.  A run that fails was stopped
by stdout or by a probe, or by two such snapshots that cannot be compared. -/
theorem diff_end_to_end {t : ℕ → Driver.World ε' π} {calls : ℕ}
    (hloads : w.loads = Json.loads message) (hspecs : Scripted w.diffCollectors specs)
    (hhears : ∀ k, Hears w k (Driver.driver (t k) specs))
    (hfloats : ∀ k, FloatsRead (t k) w.diffCollectors)
    (hdeltas : ∀ i d, (sampling w options pid).IsDelta i d → d.json.ReadsBack) :
    (∀ cut, cut <+: stdoutOf (printed w false options pid calls) →
      ∃ ds : List Diff.SnapshotDelta,
        (Records.records (cp '\n') cut).map Json.read = ds.map (fun d => some d.json.reread) ∧
        ds.length = cut.count (cp '\n') ∧ ∀ i d, ds[i]? = some d → ∃ before after,
          Shows (t (i + 1)) w.diffCollectors pid before ∧
            Shows (t (i + 2)) w.diffCollectors pid after ∧
              Diff.diffSnapshots before after = .ok d) ∧
    ∀ raised, runDiff w options pid calls = some (.error raised) →
      DiffFails w pid t specs raised := by
  have hshows : ∀ {k snapshot}, (sampling w options pid).sample k = .ok snapshot →
      Shows (t k) w.diffCollectors pid snapshot := fun {k} {_} h =>
    shows_of_sample hloads hspecs (hhears k) (hfloats k) h
  constructor
  · intro cut hcut
    obtain ⟨ds, hread, hlen, hds⟩ := diff_stream_reads_back w options pid calls hdeltas hcut
    refine ⟨ds, hread, hlen, fun i d hi => ?_⟩
    obtain ⟨before, after, hbefore, hafter, hd⟩ := hds i d hi
    exact ⟨before, after, hshows hbefore, hshows hafter, hd⟩
  · intro raised hraised
    rcases runDiff_fails hraised with ⟨n, failure, hn, rfl⟩ | ⟨k, exc, hfails, rfl⟩
    · exact .write hn
    rcases hfails with h | ⟨i, before, after, -, hbefore, hafter, h⟩
    · rcases takeSnapshot_heard pid hloads plainNames_diffCollectors hspecs (hhears k) (hfloats k)
        with ⟨sections, entries, j, -, -, hsnap⟩ | ⟨exc', hsnap, hraises⟩
      · cases h.symm.trans hsnap
      · obtain rfl := Except.error.inj (h.symm.trans hsnap)
        exact .probe hraises
    · exact .incomparable (hshows hbefore) (hshows hafter) h

end

/-- Whole numbers are rounded to themselves. -/
theorem roundThousandths_whole (n : ℕ) : roundThousandths (.finite n) = .finite n := by
  have hcast : (n : ℚ) * 1000 = ((n * 1000 : ℤ) : ℚ) := by push_cast; ring
  have hround : halfEven ((n : ℚ) * 1000) = n * 1000 := by
    rw [hcast, halfEven_intCast]
  have hneg : ¬(n : ℚ) < 0 := not_lt.2 (Nat.cast_nonneg n)
  rw [roundThousandths, hround, if_neg fun h => hneg h.2]
  push_cast
  rw [mul_div_assoc]
  norm_num

/-- A clock whose readings are whole seconds apart, and whole values. -/
theorem floatsReadBack_assigning :
    letI := Unicode.fullwidth
    letI := Json.wholeFloats
    ∀ chosen : List Collector, FloatsReadBack (Driver.assigning (.int 1)) chosen (.finite 0) := by
  let _ := Unicode.fullwidth
  let _ := Json.wholeFloats
  intro chosen
  have hwhole : ∀ i j : ℕ, i ≤ j → ((j : ℚ) - i) * 1000 = ((j - i) * 1000 : ℕ) := by
    intro i j h
    push_cast [Nat.cast_sub h]
    ring
  have hzero : roundThousandths (.finite 0) = .finite (0 : ℕ) := roundThousandths_whole 0
  refine ⟨⟨namesRead_excData, fun c _ v hv => ?_, fun i j h => ?_⟩, fun i j h => ?_, ?_⟩
  · obtain ⟨assigned, hassigned, hwalk⟩ | ⟨rfl, -⟩ := hv
    · obtain rfl := Except.ok.inj hassigned
      obtain rfl := Except.ok.inj hwalk
      trivial
    · trivial
  · show Json.FloatReadsBack (.finite (((j : ℚ) - i) * 1000))
    rw [hwhole i j h]
    exact Json.floatReadsBack_whole _
  · show Json.FloatReadsBack (roundThousandths (.finite (((j : ℚ) - i) * 1000)))
    rw [hwhole i j h, roundThousandths_whole]
    exact Json.floatReadsBack_whole _
  · rw [hzero]
    exact Json.floatReadsBack_whole 0

/-- A script whose snippets all assign 1 is heard, in one message at the start of the
budget. -/
theorem hears_assigning :
    letI : IsoFormat := ⟨fun _ => none⟩
    letI := Unicode.fullwidth
    letI := Json.wholeFloats
    ∀ chosen : List Collector, Driver.PlainNames chosen → chosen ≠ [] →
      ∃ specs payload, Scripted chosen specs ∧ ∀ k,
        Hears (hearingWorld (ε := ExcData) plainProber (Inject.okEnvelope payload).dumps) k
          (Driver.driver (Driver.assigning (.int 1)) specs) := by
  let _ : IsoFormat := ⟨fun _ => none⟩
  let _ := Unicode.fullwidth
  let _ := Json.wholeFloats
  let _ := Rounding.double
  intro chosen hnames hne
  obtain ⟨script, hscript⟩ : ∃ script, composeCollectorSource chosen = .ok script :=
    ⟨_, composeCollectorSource_eq_ok.2 ⟨hne, hnames.nodup, rfl⟩⟩
  have hfills : ∀ c ∈ chosen, ∃ v, Driver.Fills ((Driver.assigning (.int 1)).behaves c) v :=
    fun c _ => ⟨.int 1, .inl ⟨.int 1, rfl, rfl⟩⟩
  obtain ⟨specs, payload, hlink, hcollected⟩ := Driver.collected_of_compose hscript hnames hfills
  refine ⟨specs, payload, ⟨script, hscript, hlink⟩, fun k => .answer ?_ (carries_encoded _)⟩
  rw [Inject.written_of_collected hcollected]
  exact List.mem_singleton_self _

/-- A target whose collectors all assign what they collected; its document is printed and
read back. -/
theorem snap_end_to_end_assigning :
    letI : IsoFormat := ⟨fun _ => none⟩
    letI := Unicode.fullwidth
    letI := Json.wholeFloats
    let t := Driver.assigning (.int 1)
    let chosen := Registry.builtinCollectors ⟨[], [], [], []⟩
    ∃ specs payload, Scripted chosen specs ∧
      let w : World ExcData := hearingWorld plainProber (Inject.okEnvelope payload).dumps
      Ends w false (fun found => ∃ snapshot, found = .obj snapshot ∧ Shows t chosen 7 snapshot)
        (ProbeRaises w 7 0 (Driver.driver t specs) (py "snapshot"))
        (printedSnap w false Cli.plainOptions 7) := by
  let _ : IsoFormat := ⟨fun _ => none⟩
  let _ := Unicode.fullwidth
  let _ := Json.wholeFloats
  intro t chosen
  have hnames : Driver.PlainNames chosen := Conformance.plainNames_builtin _
  obtain ⟨specs, payload, hspecs, hhears⟩ := hears_assigning chosen hnames
    (by simp [chosen, Registry.builtinCollectors])
  refine ⟨specs, payload, hspecs, ?_⟩
  intro w
  have hplain : (Cli.plainWorld (ε := ExcData) plainProber).listed.outcome =
      .ok (Registry.builtinCollectors (Cli.plainWorld (ε := ExcData) plainProber).sources) :=
    Cli.plain_listed
  have hlisted : w.listed.outcome = .ok chosen := hplain
  have hchosen : w.snapCollectors Cli.plainOptions.isMasked = .ok chosen := by
    rw [World.snapCollectors, hlisted]
    rfl
  exact snap_end_to_end rfl hchosen hnames hspecs (hhears 0) (floatsReadBack_assigning chosen)

/-- The sections there. -/
theorem sections_assigning :
    letI := Unicode.fullwidth
    ∀ {chosen : List Collector} {sections : List (PyStr × Json)},
      List.Forall₂ (Driver.FilledAs (Driver.assigning (.int 1))) chosen sections →
        sections = chosen.map fun c => (c.name, .int 1) := by
  let _ := Unicode.fullwidth
  intro chosen sections h
  induction h with
  | nil => rfl
  | @cons c v chosen sections hv _ ih =>
    obtain ⟨u, ⟨assigned, hassigned, hwalk⟩ | ⟨-, exc, hexc, -⟩, rfl⟩ := hv
    · obtain rfl := Except.ok.inj hassigned
      obtain rfl := Except.ok.inj hwalk
      rw [ih]
      rfl
    · cases hexc

/-- A snapshot with the sections of `diff`, there: three times the number 1 behind a
header. -/
def IsAssigned (snapshot : List (PyStr × Json)) : Prop :=
  let _ : IsoFormat := ⟨fun _ => none⟩
  let _ := Unicode.fullwidth
  let _ := Json.wholeFloats
  ∃ entries stopDurationMs, snapshot = header (.obj (Driver.builtMeta plainProber 7 (.finite 0)
    entries (Driver.assigning (.int 1)).target.json.reread stopDurationMs)) ++
      [(py "objects", .int 1), (py "gc", .int 1), (py "fds", .int 1)]

/-- Two of them have no `float` in their delta. -/
theorem readsBack_of_assigned :
    letI : IsoFormat := ⟨fun _ => none⟩
    letI := Unicode.fullwidth
    letI := Json.wholeFloats
    ∀ {before after : List (PyStr × Json)} {d : Diff.SnapshotDelta}, IsAssigned before →
      IsAssigned after → Diff.diffSnapshots before after = .ok d → d.json.ReadsBack := by
  let _ : IsoFormat := ⟨fun _ => none⟩
  let _ := Unicode.fullwidth
  let _ := Json.wholeFloats
  rintro _ _ d ⟨entries, stopDurationMs, rfl⟩ ⟨entries', stopDurationMs', rfl⟩ h
  have hd : (⟨schemaVersion, .int 7, .str (capturedAt plainProber.isoNow),
      .str (capturedAt plainProber.isoNow), none, none, none, none⟩ : Diff.SnapshotDelta) = d :=
    Except.ok.inj h
  rw [← hd]
  simp [Diff.SnapshotDelta.json, Json.ReadsBack, Json.ReadsBackMembers, Diff.orNull]

/-- The same target, probed again and again: every delta is printed and read back. -/
theorem diff_end_to_end_assigning :
    letI : IsoFormat := ⟨fun _ => none⟩
    letI := Unicode.fullwidth
    letI := Json.wholeFloats
    ∃ specs payload,
      let w : World ExcData := hearingWorld plainProber (Inject.okEnvelope payload).dumps
      Scripted w.diffCollectors specs ∧
      (∀ cut, cut <+: stdoutOf (printed w false Cli.plainOptions 7 2) →
        ∃ ds : List Diff.SnapshotDelta,
          (Records.records (cp '\n') cut).map Json.read = ds.map (fun d => some d.json.reread) ∧
          ds.length = cut.count (cp '\n') ∧
          ∀ (i : ℕ) (d : Diff.SnapshotDelta), ds[i]? = some d → ∃ before after,
            Shows (Driver.assigning (.int 1)) w.diffCollectors 7 before ∧
              Shows (Driver.assigning (.int 1)) w.diffCollectors 7 after ∧
                Diff.diffSnapshots before after = .ok d) ∧
      ∀ raised, runDiff w Cli.plainOptions 7 2 = some (.error raised) →
        DiffFails w 7 (fun _ => Driver.assigning (.int 1)) specs raised := by
  let _ : IsoFormat := ⟨fun _ => none⟩
  let _ := Unicode.fullwidth
  let _ := Json.wholeFloats
  have hnames : ∀ w : World ExcData, Driver.PlainNames w.diffCollectors :=
    fun _ => plainNames_diffCollectors
  obtain ⟨specs, payload, hspecs, hhears⟩ := hears_assigning
    (Cli.plainWorld (ε := ExcData) plainProber).diffCollectors (hnames _) (List.cons_ne_nil _ _)
  refine ⟨specs, payload, ?_⟩
  intro w
  have hspecs : Scripted w.diffCollectors specs := hspecs
  have hfloats : FloatsRead (Driver.assigning (.int 1)) w.diffCollectors :=
    (floatsReadBack_assigning w.diffCollectors).toFloatsRead
  have hsample : ∀ {k snapshot}, (sampling w Cli.plainOptions 7).sample k = .ok snapshot →
      IsAssigned snapshot := by
    intro k snapshot h
    rcases takeSnapshot_heard 7 rfl (hnames w) hspecs (hhears k) hfloats with
      ⟨sections, entries, j, hfilled, -, hsnap⟩ | ⟨exc, hsnap, -⟩
    · obtain rfl := Except.ok.inj (h.symm.trans hsnap)
      obtain rfl := sections_assigning hfilled
      exact ⟨entries, _, rfl⟩
    · cases h.symm.trans hsnap
  refine ⟨hspecs, diff_end_to_end rfl hspecs hhears (fun _ => hfloats) ?_⟩
  rintro i d ⟨before, after, hbefore, hafter, hd⟩
  exact readsBack_of_assigned (hsample hbefore) (hsample hafter) hd

end Commands
end Pidprobe
