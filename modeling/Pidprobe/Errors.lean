/-
# The exceptions of the prober

`ProbeError` and its subclasses (`_errors.py`) with the texts they carry, and
what else a call of the prober can raise.  An exception that is not a
`ProbeError` is one the command line reports as a defect of the program itself.
-/

import Pidprobe.Lib.PyRepr

namespace Pidprobe

/-- Structured description of a failure inside the target (`ErrorInfo`), as the envelope
brought it. -/
structure ErrorInfo where
  type : PyStr
  message : PyStr
  traceback : PyStr
  deriving DecidableEq

/-- The class of an exception of the operating system's calls, as far as it is
told apart. -/
inductive CauseKind
  | processLookupError
  | permissionError
  /-- Any other `OSError`. -/
  | osError
  | runtimeError
  | valueError
  | overflowError
  deriving DecidableEq

/-- `isinstance(exc, OSError)`. -/
def CauseKind.isOSError : CauseKind → Bool
  | processLookupError | permissionError | osError => true
  | runtimeError | valueError | overflowError => false

/-- `isinstance(exc, (OSError, RuntimeError, ValueError))`, the exceptions `_remote_exec`
translates. `OverflowError` is none of them. -/
def CauseKind.isTranslated : CauseKind → Bool
  | overflowError => false
  | _ => true

/-- An exception of `sys.remote_exec` or `os.kill`: its class, the name of it, and
`str(exc)`. -/
structure Cause where
  kind : CauseKind
  typeName : PyStr
  message : PyStr
  deriving DecidableEq

/-- `ProbeError` and its subclasses, with the arguments they are built from. Their texts are
made of these. -/
inductive ProbeError
  /-- `ChannelError(message)`. -/
  | channel (message : PyStr)
  /-- `ProbeTimeoutError(timeout_seconds, pid)`. -/
  | timeout (timeoutSeconds : ℚ) (pid : Option ℤ)
  /-- `TargetError(pid, error, action=action)`. -/
  | target (pid : ℤ) (error : ErrorInfo) (action : PyStr)
  /-- `AttachError(pid, hint, cause)`. -/
  | attach (pid : ℤ) (hint : PyStr) (cause : Option Cause)
  /-- `NoSuchProcessError(pid, hint, cause)`. -/
  | noSuchProcess (pid : ℤ) (hint : PyStr) (cause : Option Cause)
  deriving DecidableEq

namespace ProbeError

/-- `AttachError.from_cause`: the hint by the class of the cause, and a class of its own for
a process that is gone. -/
def fromCause (pid : ℤ) (cause : Cause) : ProbeError :=
  match cause.kind with
  | .processLookupError =>
    .noSuchProcess pid (py "no such process; it may have exited already") (some cause)
  | .permissionError =>
    .attach pid (py "the operating system refused access to the process; on macOS " ++
      py "sys.remote_exec needs root (task_for_pid), so retry with sudo; on Linux check " ++
      py "/proc/sys/kernel/yama/ptrace_scope or grant CAP_SYS_PTRACE") (some cause)
  | .runtimeError | .valueError =>
    .attach pid (py "the interpreter refused the injection; the target may run a different " ++
      py "Python build than pidprobe, may be older than 3.14, or may have remote debugging " ++
      py "disabled via PYTHON_DISABLE_REMOTE_DEBUG=1 or a --without-remote-debug build")
      (some cause)
  | .osError | .overflowError => .attach pid (py "sys.remote_exec failed") (some cause)

/-- The message of an `AttachError`: the pid, the hint, and the cause with its class where
there is one. -/
def attachText (pid : ℤ) (hint : PyStr) (cause : Option Cause) : PyStr :=
  py "cannot attach to pid " ++ Json.intText pid ++ py ": " ++ hint ++
    cause.elim [] fun exc => py " (" ++ exc.typeName ++ py ": " ++ exc.message ++ py ")"

/-- What a `ProbeTimeoutError` says before it points at `doctor`. -/
def timeoutText [GeneralText] (seconds : ℚ) : PyStr :=
  py "target never reached a safe eval point within " ++ GeneralText.general seconds ++
    py "s; it may be blocked inside a C extension or a long syscall; " ++
    py "try an out-of-process sampler like py-spy"

/-- `str(error)`, what `describe` writes to stderr. The message of the target is in it as it
came. -/
def str [GeneralText] : ProbeError → PyStr
  | channel message => message
  | timeout seconds pid =>
    timeoutText seconds ++
      py ", and " ++ (py "run `pidprobe doctor " ++ pid.elim (py "<pid>") Json.intText ++
      py "` for attach diagnostics")
  | target pid error action =>
    action ++ py " failed inside pid " ++ Json.intText pid ++ py ": " ++ error.type ++ py ": " ++
      error.message
  | attach pid hint cause => attachText pid hint cause
  | noSuchProcess pid hint cause => attachText pid hint cause

end ProbeError

/-- What a call of the prober can raise: its own errors, and those of Python that a command
reports as a defect. -/
inductive PyError
  | probe (error : ProbeError)
  /-- `TypeError`: a value of this type has no hash. -/
  | unhashable (typeName : PyStr)
  /-- `TypeError(message)`. -/
  | typeError (message : PyStr)
  /-- `SyntaxError`. -/
  | syntaxError
  /-- `ValueError(message)`. -/
  | valueError (message : PyStr)
  /-- `OverflowError`. -/
  | overflow
  /-- `UnicodeDecodeError`. -/
  | unicodeDecode
  /-- `OSError`. -/
  | os
  /-- An exception of any other class. -/
  | other
  deriving DecidableEq

/-- What a command raises, as `main` tells it apart: an interrupt, a broken pipe, an
`Exception`, or something that is none. -/
inductive Raised
  | keyboardInterrupt
  | brokenPipe
  | exception (error : PyError)
  /-- `SystemExit`, or another exception that is no `Exception`. -/
  | baseException

/-- The exception itself, where nothing translates it: `_remote_exec` lets it pass. -/
def Cause.error (cause : Cause) : PyError :=
  match cause.kind with
  | .processLookupError | .permissionError | .osError => .os
  | .runtimeError => .other
  | .valueError => .valueError cause.message
  | .overflowError => .overflow

/-- An exception of the operating system is none of the prober's own. -/
theorem Cause.error_ne_probe (cause : Cause) (error : ProbeError) : cause.error ≠ .probe error := by
  obtain ⟨kind, typeName, message⟩ := cause
  cases kind <;> exact PyError.noConfusion

/-- `ChannelError(message)`. -/
abbrev channelError (message : PyStr) : PyError := .probe (.channel message)

end Pidprobe
