/-
# Checks on the target's interpreter

`_target_python.py`: whether the target is a CPython that carries the PEP 768
interface, of the prober's own feature release, with the interface switched on.
-/

import Pidprobe.Doctor.AttachPolicy

namespace Pidprobe
namespace Doctor

/-- What the checks read of the interpreter `pidprobe` itself runs on, which must be of the
target's feature release. -/
structure Prober where
  /-- `sys.executable`, empty where there is none. -/
  executable : PyStr
  /-- `getattr(sys, "remote_exec", None) is not None`. -/
  hasRemoteExec : Bool
  /-- `sys.is_remote_debug_enabled()`. -/
  isRemoteDebugEnabled : Bool
  /-- `sys.implementation.name`. -/
  implementation : PyStr
  /-- `sys.version.split()[0]`. -/
  version : PyStr
  /-- `sys.version_info[:2]`. -/
  versionInfo : ℤ × ℤ

/-- `first or second`, of two texts: the empty text is false. -/
def orElse (first second : PyStr) : PyStr := if first = [] then second else first

/-- A default that is not empty leaves no empty text. -/
theorem orElse_ne_nil (first : PyStr) {second : PyStr} (h : second ≠ []) :
    orElse first second ≠ [] := by
  unfold orElse
  split_ifs with hf
  · exact h
  · exact hf

/-- `_DISABLE_VARIABLE`. -/
def disableVariable : PyStr := py "PYTHON_DISABLE_REMOTE_DEBUG"

@[simp] theorem disableVariable_ne_nil : disableVariable ≠ [] := by simp [disableVariable]

/-- `MINIMUM_TARGET_VERSION`. -/
def minimumTargetVersion : ℤ × ℤ := (3, 14)

/-- `_rendered` of a feature release: major and minor. -/
def renderedRelease (release : ℤ × ℤ) : PyStr :=
  Json.intText release.1 ++ py "." ++ Json.intText release.2

/-- `_rendered` of a full version: major, minor and micro. -/
def rendered (version : ℤ × ℤ × ℤ) : PyStr :=
  join (py ".") [Json.intText version.1, Json.intText version.2.1, Json.intText version.2.2]

/-- `version[:2] < MINIMUM_TARGET_VERSION`: tuples are compared from the left. -/
def isOlder (version : ℤ × ℤ × ℤ) : Bool :=
  version.1 < minimumTargetVersion.1 ∨
    version.1 = minimumTargetVersion.1 ∧ version.2.1 < minimumTargetVersion.2

/-- The executable a confirmation names: the target's own, where it is known. -/
def Interpreter.command (interpreter : Interpreter) : PyStr :=
  orElse (interpreter.executable.getD []) (py "python3")

/-- `NOT_INTROSPECTABLE`. -/
def notIntrospectable : PyStr :=
  py "this platform exposes no way to inspect another process; only Linux (procfs) and macOS " ++
    py "(ps) are supported"

/-- `_unknown_target_python`: a warning, with the reason why the version could not be found
out. -/
def unknownTargetPython (prober : Prober) (pid : ℤ) (interpreter : Interpreter) : Check where
  name := py "target_python"
  status := .warn
  summary := py "could not determine which Python pid " ++ Json.intText pid ++ py " runs"
  cause := orElse (interpreter.reason.getD []) notIntrospectable
  confirm := py "ps -o comm= -p " ++ Json.intText pid
  fix := py "check by hand that the target runs CPython " ++ renderedRelease prober.versionInfo ++
    py ": pidprobe needs the same feature release on both sides"
  explained _ := ⟨orElse_ne_nil _ (by simp [notIntrospectable]), by simp, by simp⟩

/-- `_check_version`: the target must run CPython, and one that has the debugger
interface. -/
def checkVersion (interpreter : Interpreter) (version : ℤ × ℤ × ℤ) : Check :=
  let name := py "target_python_version"
  let implementation := orElse (interpreter.implementation.getD []) (py "an unknown implementation")
  let minimum := renderedRelease minimumTargetVersion
  let confirm := interpreter.command ++ py " -VV"
  if implementation ≠ py "cpython" then
    { name, status := .fail
      summary := py "the target runs " ++ implementation ++ py " " ++ rendered version ++
        py ", not CPython"
      cause := py "PEP 768 is a CPython feature; no other implementation exposes the debugger " ++
        py "interface sys.remote_exec writes to"
      confirm
      fix := py "probe " ++ implementation ++ py " with a sampler built for it; pidprobe cannot " ++
        py "attach to it" }
  else if isOlder version then
    { name, status := .fail
      summary := py "the target runs CPython " ++ rendered version ++ py ", older than " ++ minimum
      cause := py "the PEP 768 debugger interface first shipped in CPython " ++ minimum ++
        py "; an older target has nothing for sys.remote_exec to write to"
      confirm
      fix := py "restart the target on CPython " ++ minimum ++ py " or newer, or use an " ++
        py "out-of-process sampler such as py-spy instead" }
  else
    { name, status := .ok, summary := py "the target runs CPython " ++ rendered version }

/-- `_check_matches_prober`: the feature releases must be the same; patch releases may
differ. -/
def checkMatchesProber (prober : Prober) (interpreter : Interpreter) (version : ℤ × ℤ × ℤ) :
    Check :=
  let name := py "target_python_match"
  let theirs := renderedRelease (version.1, version.2.1)
  let mine := renderedRelease prober.versionInfo
  let executable := interpreter.command
  if theirs = mine then
    { name, status := .ok, summary := py "target and prober both run Python " ++ mine }
  else
    { name, status := .fail
      summary := py "the target runs Python " ++ theirs ++ py ", pidprobe runs " ++ mine
      cause := py "sys.remote_exec reaches the debugger interface through offsets that are only " ++
        py "stable within one CPython feature release, so it refuses a target built from a " ++
        py "different one"
      confirm := executable ++ py " -VV; " ++ orElse prober.executable (py "python3") ++ py " -VV"
      fix := py "run pidprobe from a " ++ theirs ++ py " interpreter, for example with `uv tool " ++
        py "install --python " ++ theirs ++ py " pidprobe` or `" ++ executable ++
        py " -m pip install pidprobe`" }

/-- `check_target_python`: one warning where the version is not known, and two checks of it
where it is. -/
def checkTargetPython (prober : Prober) (host : Host) (pid : ℤ) : List Check :=
  let interpreter := host.targetInterpreter pid
  match interpreter.version with
  | none => [unknownTargetPython prober pid interpreter]
  | some version =>
    [checkVersion interpreter version, checkMatchesProber prober interpreter version]

/-- `check_target_remote_debug`: the check fails where the variable is set, be it to the
empty text, and quotes the value. -/
def checkTargetRemoteDebug [Unicode] (host : Host) (pid : ℤ) : Check :=
  let name := py "target_remote_debug"
  let text := Json.intText pid
  let readEnviron :=
    py "tr '\\0' '\\n' < /proc/" ++ text ++ py "/environ | grep " ++ disableVariable
  if !host.isLinux then
    { name, status := .skipped
      summary := py "another process' environment is not readable on this platform"
      confirm := py "sudo ps -wwEp " ++ text }
  else
    match host.processEnviron pid with
    | none =>
      { name, status := .skipped
        summary := py "could not read the environment pid " ++ text ++ py " was started with"
        confirm := py "sudo " ++ readEnviron }
    | some environ =>
      match Dict.get? disableVariable environ with
      | none =>
        { name, status := .ok, summary := disableVariable ++ py " is not set in pid " ++ text }
      | some setting =>
        { name, status := .fail
          summary := py "pid " ++ text ++ py " was started with " ++ disableVariable ++ py "=" ++
            reprStr setting
          cause := py "CPython turns the debugger interface off when " ++ disableVariable ++
            py " is present at start-up, whatever it is set to -- the empty string counts -- so " ++
            py "the target has nothing for pidprobe to write to"
          confirm := readEnviron
          fix := py "restart the target without " ++ disableVariable ++ py " in its " ++
            py "environment; it is read once at interpreter start-up and cannot be cleared from " ++
            py "outside" }

end Doctor
end Pidprobe
