/-
# The preflight run

`diagnose` of `_doctor.py`: the checks on the prober itself, those on the attach
policy and those on the target, in the order of the report.

Nothing is injected, so the pid meets the system in one place, the `os.kill` of
`check_target_process`.  `diagnose_eq_error` lists what a diagnosis ends with
instead of a report.
-/

import Pidprobe.Doctor.TargetPython
import Pidprobe.Registry.Accounts

namespace Pidprobe
namespace Doctor

/-- The system a diagnosis runs on. -/
structure System where
  prober : Prober
  host : Host
  /-- The path of `UnixSocketChannel()`, or what its constructor raises. -/
  unixSocketChannel : Except Cause PyStr
  /-- The path of `TempFileChannel()`, or what its constructor raises. -/
  tempFileChannel : Except Cause PyStr

/-- `_check_prober_remote_debug`. -/
def checkProberRemoteDebug (prober : Prober) : Check :=
  let name := py "prober_remote_debug"
  let executable := orElse prober.executable (py "python3")
  if !prober.hasRemoteExec then
    { name, status := .fail
      summary := py "this interpreter has no sys.remote_exec"
      cause := py "pidprobe injects through PEP 768, which this build does not provide: it " ++
        py "predates CPython 3.14 or was configured --without-remote-debug"
      confirm := executable ++ py " -c \"import sys; print(sys.is_remote_debug_enabled())\""
      fix := py "install pidprobe under a CPython 3.14+ build with remote debugging compiled " ++
        py "in, such as a python.org or uv-managed one" }
  else if !prober.isRemoteDebugEnabled then
    { name, status := .fail
      summary := py "remote debugging is switched off in " ++ executable
      cause := disableVariable ++ py " is set in pidprobe's own environment, and CPython then " ++
        py "refuses sys.remote_exec with 'Remote debugging is not enabled' before it ever looks " ++
        py "at the target"
      confirm := py "env | grep " ++ disableVariable
      fix := py "unset " ++ disableVariable ++ py " before running pidprobe" }
  else
    { name, status := .ok
      summary := py "pidprobe runs " ++ prober.implementation ++ py " " ++ prober.version ++
        py " with remote debugging enabled" }

/-- `f"{type(exc).__name__}: {exc}"`. -/
def causeText (exc : Cause) : PyStr := exc.typeName ++ py ": " ++ exc.message

/-- `_tempfile_channel_check`. -/
def tempfileChannelCheck (system : System) (socketError : PyStr) : Except PyError Check :=
  let name := py "return_channel"
  match system.tempFileChannel with
  | .ok path =>
    .ok { name, status := .warn
          summary := py "falling back to the temporary-file return channel at " ++ path
          cause := py "no AF_UNIX socket could be bound (" ++ socketError ++ py "); a sandbox, " ++
            py "a filesystem without socket support, or a TMPDIR too long for the 104-byte " ++
            py "sun_path limit all look like this"
          confirm := py "python3 -c \"import tempfile; print(tempfile.gettempdir())\""
          fix := py "probing still works over the file fallback, only by polling; set TMPDIR to " ++
            py "a short, writable path to get the socket back" }
  | .error exc =>
    if exc.kind.isOSError then
      .ok { name, status := .fail
            summary := py "no return channel can be created here"
            cause := py "binding an AF_UNIX socket failed (" ++ socketError ++ py ") and so did " ++
              py "creating a temporary directory (" ++ causeText exc ++ py "); the injected " ++
              py "script would have nowhere to send its result"
            confirm := py "python3 -c \"import tempfile; print(tempfile.mkdtemp())\""
            fix := py "point TMPDIR at a directory both pidprobe and the target may write to " ++
              py "and read from" }
    else .error exc.error

/-- `_check_return_channel`: the file is tried where the socket meets an `OSError`; any
other exception leaves the check. -/
def checkReturnChannel (system : System) : Except PyError Check :=
  match system.unixSocketChannel with
  | .ok path =>
    .ok { name := py "return_channel", status := .ok
          summary := py "an AF_UNIX return channel binds at " ++ path }
  | .error exc =>
    if exc.kind.isOSError then tempfileChannelCheck system (causeText exc) else .error exc.error

variable [Unicode]

omit [Unicode] in
/-- Texts that are not empty make a text that is not, whatever stands between them: the
cause of the check on the plugins is one. -/
theorem join_ne_nil (sep : PyStr) {texts : List PyStr} (hne : texts ≠ [])
    (h : ∀ text ∈ texts, text ≠ []) : join sep texts ≠ [] := by
  obtain ⟨text, rest, rfl⟩ := List.exists_cons_of_ne_nil hne
  have htext := h text (List.mem_cons_self ..)
  cases rest with
  | nil => simpa [join, List.intercalate] using htext
  | cons t rest => simp [join, List.intercalate, htext]

/-- `_check_collector_plugins`, from what discovery returns and logs: one warning about all
the plugins that were skipped. -/
def checkCollectorPlugins (collectors : List Collector) (records : List Registry.Record) : Check :=
  let name := py "collector_plugins"
  let names := join (py ", ") (collectors.map Collector.name)
  let messages := records.map Registry.Record.message
  if h : messages = [] then
    { name, status := .ok
      summary := Json.intText collectors.length ++ py " collectors will run: " ++ names }
  else
    { name, status := .warn
      summary := Json.intText messages.length ++ py " collector plugin(s) were skipped; " ++
        Json.intText collectors.length ++ py " will run: " ++ names
      cause := join (py "; ") messages
      confirm := py "python3 -c \"import logging; logging.basicConfig(); from pidprobe import " ++
        py "available_collectors; available_collectors()\""
      fix := py "reinstall or uninstall the package publishing the failing pidprobe.collectors " ++
        py "entry point; a skipped plugin costs only its own snapshot section, so every other " ++
        py "section still comes back"
      explained := fun _ => ⟨join_ne_nil _ h (List.forall_mem_map.2 fun r _ => r.message_ne_nil),
        by simp, by simp⟩ }

/-- `diagnose`; `listed` is `available_collectors` under the recording handler, and
`kill` what `os.kill(pid, 0)` raises. -/
def diagnose (system : System) (listed : Logged Registry.Record Raised (List Collector))
    (kill : ℤ → Option Cause) (pid : Option ℤ) : Except Raised Diagnosis := do
  let returnChannel ← (checkReturnChannel system).mapError .exception
  let collectors ← listed.outcome
  let environment := [checkProberRemoteDebug system.prober, returnChannel,
    checkCollectorPlugins collectors listed.log, checkPtraceScope system.host,
    checkTaskForPid system.host]
  match pid with
  | none => .ok ⟨none, environment⟩
  | some pid =>
    let targetProcess ← (checkTargetProcess (kill pid) pid).mapError .exception
    .ok ⟨some pid, environment ++ [targetProcess, checkTargetOwner system.host pid,
      checkPidNamespace system.host pid] ++ checkTargetPython system.prober system.host pid ++
      [checkTargetRemoteDebug system.host pid]⟩

/-- **What a diagnosis ends with instead of a report**: an exception of a channel's
constructor, one of discovery, or one of `os.kill`, none of them an `OSError`. -/
theorem diagnose_eq_error {system : System}
    {listed : Logged Registry.Record Raised (List Collector)} {kill : ℤ → Option Cause}
    {pid : Option ℤ} {raised : Raised} (h : diagnose system listed kill pid = .error raised) :
    (∃ exc, checkReturnChannel system = .error exc ∧ .exception exc = raised) ∨
      listed.outcome = .error raised ∨
      ∃ p exc, pid = some p ∧ kill p = some exc ∧ exc.kind.isOSError = false ∧
        .exception exc.error = raised := by
  rcases bind_eq_error.1 h with h | ⟨returnChannel, -, h⟩
  · exact .inl (mapError_eq_error.1 h)
  rcases bind_eq_error.1 h with h | ⟨collectors, -, h⟩
  · exact .inr (.inl h)
  cases pid with
  | none => cases h
  | some p =>
    rcases bind_eq_error.1 h with h | ⟨_, -, h⟩
    · obtain ⟨e, he, rfl⟩ := mapError_eq_error.1 h
      obtain ⟨exc, hkill, hos, rfl⟩ := checkTargetProcess_eq_error.1 he
      exact .inr (.inr ⟨p, exc, rfl, hkill, hos, rfl⟩)
    · cases h

omit [Unicode] in
/-- The exceptions of the constructors are none of the prober's own, so `main` does not turn
them into a line. -/
theorem checkReturnChannel_eq_error {system : System} {e : PyError}
    (h : checkReturnChannel system = .error e) : ∃ exc : Cause, exc.error = e := by
  unfold checkReturnChannel tempfileChannelCheck at h
  split at h
  · cases h
  · split_ifs at h
    · split at h
      · cases h
      · split_ifs at h
        exact ⟨_, Except.error.inj h⟩
    · exact ⟨_, Except.error.inj h⟩

end Doctor
end Pidprobe
