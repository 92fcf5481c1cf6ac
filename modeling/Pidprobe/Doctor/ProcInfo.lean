/-
# What the system says of a process

`_procinfo.py`.  A `Machine` is the files, the links and the programs the lookups
go to.  Linux answers from procfs, macOS through `ps`, and the version comes from
running the target's own executable; a lookup logs the commands it runs, and raises
only where `subprocess.run` raises something else than `_run` handles.

`Answers` connects the two levels: a `Host` that says what the lookups of a machine
return.
-/

import Pidprobe.Doctor.TargetPython
import Pidprobe.Lib.Logged
import Pidprobe.Lib.PurePath
import Pidprobe.Lib.Records
import Pidprobe.Lib.Utf8Replace
import Pidprobe.Lib.Words

namespace Pidprobe
namespace Doctor

/-- The arguments of `subprocess.run`: the words of the command, no shell, and the time it
is given. -/
structure Command where
  argv : List PyStr
  timeoutSeconds : ℚ
  deriving DecidableEq

/-- How a command ended, as `_run` tells the cases apart. -/
inductive Completed
  | exited (returncode : ℤ) (stdout : PyStr)
  /-- `OSError` or `SubprocessError`: it did not start, or took too long. -/
  | failed
  /-- Any other exception, such as that of output that is no text. -/
  | raised (exc : Cause)

/-- What the lookups read of the machine, and the commands they have it run. -/
structure Machine where
  /-- `sys.platform`. -/
  platform : PyStr
  /-- `os.geteuid`. -/
  geteuid : ℤ
  /-- The content of a file; `none` is `OSError`. -/
  readBytes : PyStr → Option (List Byte)
  /-- `st_uid` of a path; `none` is `OSError`. -/
  owner : PyStr → Option ℤ
  /-- `os.readlink`; `none` is `OSError`. -/
  readlink : PyStr → Option PyStr
  /-- `subprocess.run`. -/
  completed : Command → Completed
  /-- `int` of a text; `none` is `ValueError`. -/
  int : PyStr → Option ℤ

/-- Universal newlines: `\r\n` and `\r` are read as `\n`, as `Path.read_text` opens a file
in text mode. -/
def universalNewlines : PyStr → PyStr
  | [] => []
  | c :: t =>
    if c = cp '\r' then
      match t with
      | d :: u =>
        if d = cp '\n' then cp '\n' :: universalNewlines u
        else cp '\n' :: universalNewlines (d :: u)
      | [] => [cp '\n']
    else c :: universalNewlines t

/-- `str(Path(...).readlink())`, of what `os.readlink` returns: a path loses doubled slashes
and dots on the way. -/
def linkText (target : PyStr) : PyStr := (PurePath.parse target).text

/-- The path of an entry of a process in procfs. -/
def procPath (who entry : PyStr) : PyStr := py "/proc/" ++ who ++ entry

/-- `_VERSION_SCRIPT`. -/
def versionScript : PyStr := py "import sys;print(sys.implementation.name,*sys.version_info[:3])"

/-- `NO_EXECUTABLE`. -/
def noExecutable : PyStr := py "the operating system did not report an executable for this pid"

/-- `NOT_AN_INTERPRETER`: an executable of another name is never run. -/
def notAnInterpreter : PyStr :=
  py "the process does not run an executable named like a Python interpreter, so pidprobe did " ++
    py "not run it to ask for a version"

/-- `UNQUERYABLE`: the interpreter was run and gave no version. -/
def unqueryable : PyStr := py "running the target's executable to ask for its version failed"

/-- The command of `_ps_field`, which asks for one field without a header. -/
def psCommand (pid : ℤ) (field : PyStr) : Command where
  argv := [py "/bin/ps", py "-o", field ++ py "=", py "-p", Json.intText pid]
  timeoutSeconds := 2

/-- The command of `_query_interpreter`, which runs the target's executable with the version
script. -/
def versionCommand (executable : PyStr) : Command where
  argv := [executable, py "-c", versionScript]
  timeoutSeconds := 10

/-! ## The environment of a process -/

/-- The byte of `=`, which separates the name of a variable from its value. -/
def equals : Byte := Utf8.byte (cp '=').val

/-- The zero byte, which ends an entry of the block. -/
def nul : Byte := Utf8.byte 0

/-- One round of the loop of `process_environ`: an empty chunk is passed over, and an entry
of the same name is replaced. -/
def addEntry (entries : List (PyStr × PyStr)) (chunk : List Byte) : List (PyStr × PyStr) :=
  if chunk = [] then entries
  else
    let (name, value) := Records.partition equals chunk
    Dict.set (Utf8.decodeReplace name) (Utf8.decodeReplace value) entries

/-- The entries of an environment block, split at the zero bytes. -/
def parseEnviron (raw : List Byte) : List (PyStr × PyStr) :=
  (raw.splitOn nul).foldl addEntry []

namespace Machine

variable [Unicode] (machine : Machine)

omit [Unicode] in
/-- `is_linux`. -/
def isLinux : Bool := machine.platform = py "linux"

omit [Unicode] in
/-- `is_macos`. -/
def isMacos : Bool := machine.platform = py "darwin"

omit [Unicode] in
/-- `_read_text`: the bytes of the file decoded with replacement characters, so that no file
makes it raise. -/
def readText (path : PyStr) : Option PyStr :=
  (machine.readBytes path).map fun raw => universalNewlines (Utf8.decodeReplace raw)

/-- `ptrace_scope`: the number in the file, where there is a file with a number in it. -/
def ptraceScope : Option ℤ := do
  let raw ← machine.readText (py "/proc/sys/kernel/yama/ptrace_scope")
  machine.int (Words.strip Unicode.isspace raw)

/-- `_run`: the output of a command that exited with 0 and printed something; what is no
`OSError` or `SubprocessError` is passed on. -/
def run (command : Command) : Logged Command Cause (Option PyStr) := do
  Logged.tell command
  match machine.completed command with
  | .raised exc => Logged.lift (.error exc)
  | .failed => pure none
  | .exited returncode stdout =>
    if returncode ≠ 0 then pure none
    else
      let text := Words.strip Unicode.isspace stdout
      pure (if text = [] then none else some text)

/-- `_ps_field`: what `ps` prints of one field of a process. -/
def psField (pid : ℤ) (field : PyStr) : Logged Command Cause (Option PyStr) :=
  machine.run (psCommand pid field)

/-- `process_uid`: the owner of the process' directory on Linux, `ps` on macOS, and nobody
elsewhere. -/
def processUid (pid : ℤ) : Logged Command Cause (Option ℤ) :=
  if machine.isLinux then pure (machine.owner (procPath (Json.intText pid) []))
  else if machine.isMacos then do
    let field ← machine.psField pid (py "uid")
    pure (field.bind machine.int)
  else pure none

omit [Unicode] in
/-- `pid_namespace`: the text of the link, in which the kernel names the namespace. -/
def pidNamespace (who : PyStr) : Option PyStr :=
  (machine.readlink (procPath who (py "/ns/pid"))).map linkText

omit [Unicode] in
/-- `process_environ`: the entries of the block, where it can be read. -/
def processEnviron (pid : ℤ) : Option (List (PyStr × PyStr)) :=
  (machine.readBytes (procPath (Json.intText pid) (py "/environ"))).map parseEnviron

/-- `process_executable`: a link on Linux, `ps` on macOS, and nothing elsewhere. -/
def processExecutable (pid : ℤ) : Logged Command Cause (Option PyStr) :=
  if machine.isLinux then
    pure ((machine.readlink (procPath (Json.intText pid) (py "/exe"))).map linkText)
  else if machine.isMacos then machine.psField pid (py "comm")
  else pure none

end Machine

/-- `_looks_like_interpreter`: the name begins with `python` or `pypy`, in any case. -/
def looksLikeInterpreter [Unicode] (executable : PyStr) : Bool :=
  let name := Unicode.lower (PurePath.parse executable).name
  (py "python").isPrefixOf name || (py "pypy").isPrefixOf name

/-- What `_query_interpreter` reads in the output of the version script: four words, the
last three of them numbers. -/
def parseVersion [Unicode] (int : PyStr → Option ℤ) (output : PyStr) :
    Option (PyStr × ℤ × ℤ × ℤ) :=
  match Words.words Unicode.isspace output with
  | [implementation, major, minor, micro] => do
    let major ← int major
    let minor ← int minor
    let micro ← int micro
    some (implementation, major, minor, micro)
  | _ => none

namespace Machine

variable [Unicode] (machine : Machine)

/-- `_query_interpreter`: one run of the executable, and what its output says. -/
def queryInterpreter (executable : PyStr) :
    Logged Command Cause (Option (PyStr × ℤ × ℤ × ℤ)) := do
  let output ← machine.run (versionCommand executable)
  pure (output.bind (parseVersion machine.int))

/-- `target_interpreter`: what could be found out, and the reason where it is not
everything. -/
def targetInterpreter (pid : ℤ) : Logged Command Cause Interpreter := do
  let executable ← machine.processExecutable pid
  match executable with
  | none =>
    let reason := if machine.isLinux || machine.isMacos then noExecutable else notIntrospectable
    pure ⟨none, none, none, some reason⟩
  | some executable =>
    if !looksLikeInterpreter executable then
      pure ⟨some executable, none, none, some notAnInterpreter⟩
    else
      let queried ← machine.queryInterpreter executable
      match queried with
      | none => pure ⟨some executable, none, none, some unqueryable⟩
      | some (implementation, version) =>
        pure ⟨some executable, some implementation, some version, none⟩

/-! ## The two levels -/

/-- The host says what the lookups of the machine return, and none of them raises. -/
structure Answers (machine : Machine) (host : Host) : Prop where
  platform : host.platform = machine.platform
  geteuid : host.geteuid = machine.geteuid
  ptraceScope : host.ptraceScope = machine.ptraceScope
  processUid : ∀ pid, (machine.processUid pid).outcome = .ok (host.processUid pid)
  pidNamespace : host.pidNamespace = machine.pidNamespace
  processEnviron : host.processEnviron = machine.processEnviron
  targetInterpreter : ∀ pid,
    (machine.targetInterpreter pid).outcome = .ok (host.targetInterpreter pid)

end Machine

end Doctor
end Pidprobe
