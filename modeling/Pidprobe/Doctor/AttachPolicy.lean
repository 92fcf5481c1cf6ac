/-
# Checks on the operating system

`_attach_policy.py`: whether the kernel lets one process reach another.  A `Host`
is what the lookups of `_procinfo.py` answer, each best-effort: `none` is what a
platform without an answer says, and no lookup raises.

`check_target_process` is the one check that asks the system about the pid
itself, through `os.kill`; it has a handler for `OSError` and for no other class.
-/

import Pidprobe.Diagnosis

namespace Pidprobe
namespace Doctor

/-- What could be learned about the interpreter of another process
(`Interpreter`). -/
structure Interpreter where
  executable : Option PyStr
  implementation : Option PyStr
  version : Option (ℤ × ℤ × ℤ)
  reason : Option PyStr

/-- What the checks learn of the machine: the answers of `_procinfo`, most of which are
`none` where the machine does not say. -/
structure Host where
  /-- `current_platform`. -/
  platform : PyStr
  /-- `os.geteuid`. -/
  geteuid : ℤ
  /-- `ptrace_scope`. -/
  ptraceScope : Option ℤ
  /-- `process_uid`. -/
  processUid : ℤ → Option ℤ
  /-- `pid_namespace`, of a pid or of `self`. -/
  pidNamespace : PyStr → Option PyStr
  /-- `process_environ`. -/
  processEnviron : ℤ → Option (List (PyStr × PyStr))
  /-- `target_interpreter`. -/
  targetInterpreter : ℤ → Interpreter

/-- `is_linux`. -/
def Host.isLinux (host : Host) : Bool := host.platform = py "linux"

/-- `is_macos`. -/
def Host.isMacos (host : Host) : Bool := host.platform = py "darwin"

/-! ## The checks -/

/-- `check_ptrace_scope`: scopes 0 and 1 let some process attach, the second with a warning;
from 2 on the check fails. -/
def checkPtraceScope (host : Host) : Check :=
  let name := py "ptrace_scope"
  if !host.isLinux then
    { name, status := .skipped, summary := py "the Yama ptrace_scope policy only exists on Linux" }
  else
    match host.ptraceScope with
    | none =>
      { name, status := .ok
        summary := py "no Yama ptrace_scope knob: this kernel does not restrict attaching" }
    | some scope =>
      let summary := py "kernel.yama.ptrace_scope is " ++ Json.intText scope
      let confirm := py "cat /proc/sys/kernel/yama/ptrace_scope"
      if scope ≤ 0 then
        { name, status := .ok, summary := summary ++ py ": attaching is unrestricted" }
      else if scope = 1 then
        { name, status := .warn, summary
          cause := py "PEP 768 writes into the target with process_vm_writev, which needs " ++
            py "PTRACE_MODE_ATTACH; at scope 1 only a direct ancestor of the target, or a " ++
            py "process holding CAP_SYS_PTRACE, is granted it"
          confirm
          fix := py "run pidprobe as root, give its interpreter the capability with `sudo " ++
            py "setcap cap_sys_ptrace+ep $(readlink -f $(command -v python3))`, or relax the " ++
            py "knob with `sudo sysctl -w kernel.yama.ptrace_scope=0`" }
      else if scope = 2 then
        { name, status := .fail, summary
          cause := py "at scope 2 only a process holding CAP_SYS_PTRACE may attach to anything, " ++
            py "so the PTRACE_MODE_ATTACH check PEP 768 needs is refused"
          confirm
          fix := py "run pidprobe as root or with CAP_SYS_PTRACE, or relax the knob with `sudo " ++
            py "sysctl -w kernel.yama.ptrace_scope=0`" }
      else
        -- a scope the table does not list is treated as the strictest one
        { name, status := .fail, summary
          cause := py "at scope 3 attaching is disabled for every process, and the value cannot " ++
            py "be lowered again while the machine is running"
          confirm
          fix := py "set `kernel.yama.ptrace_scope` to 0 or 1 in /etc/sysctl.d/ and reboot; " ++
            py "nothing can attach until then" }

/-- `check_task_for_pid`: on macOS only root gets a task port, and elsewhere there is
nothing to check. -/
def checkTaskForPid (host : Host) : Check :=
  let name := py "task_for_pid"
  if !host.isMacos then
    { name, status := .skipped, summary := py "task_for_pid access is a macOS restriction" }
  else if host.geteuid = 0 then
    { name, status := .ok
      summary := py "pidprobe runs as root, which macOS grants task_for_pid" }
  else
    { name, status := .fail
      summary := py "pidprobe runs as uid " ++ Json.intText host.geteuid ++
        py ", which macOS denies task_for_pid"
      cause := py "sys.remote_exec must take the target's task port, and macOS hands that out " ++
        py "only to root or to a binary carrying the com.apple.system-task-ports entitlement; " ++
        py "without it the attach fails with 'Cannot get task port'"
      confirm := py "id -u"
      fix := py "rerun the probe under sudo, e.g. `sudo pidprobe snap <PID>`; the entitlement " ++
        py "route needs a signed, entitled interpreter and is not something pidprobe can grant " ++
        py "itself" }

/-- `check_target_process`, `killed` being what `os.kill(pid, 0)` raises. An exception that
is no `OSError` leaves the check. -/
def checkTargetProcess (killed : Option Cause) (pid : ℤ) : Except PyError Check :=
  let name := py "target_process"
  let text := Json.intText pid
  match killed with
  | none =>
    .ok { name, status := .ok
          summary := py "pid " ++ text ++ py " is running and this user may signal it" }
  | some exc =>
    if exc.kind = .processLookupError then
      .ok { name, status := .fail
            summary := py "no process with pid " ++ text ++ py " exists"
            cause := py "the pid is not in use; a target that already exited and a pid that " ++
              py "only means something inside a container both look like this"
            confirm := py "ps -p " ++ text
            fix := py "find the running target with `pgrep -af python` and pass its pid" }
    else if exc.kind.isOSError then
      .ok { name, status := .fail
            summary := py "pid " ++ text ++ py " exists but this user may not signal it"
            cause := py "a bare signal 0 was refused (" ++ exc.typeName ++ py ": " ++ exc.message ++
              py "), and writing into the process is strictly more privileged than that"
            confirm := py "ps -o user=,pid= -p " ++ text
            fix := py "rerun pidprobe as the user owning the target, or as root" }
    else .error exc.error

/-- `check_target_owner`: root may attach to any process, and everybody else to their own. -/
def checkTargetOwner (host : Host) (pid : ℤ) : Check :=
  let name := py "target_owner"
  let text := Json.intText pid
  let euid := host.geteuid
  match host.processUid pid with
  | none =>
    { name, status := .skipped
      summary := py "could not determine which user owns pid " ++ text
      confirm := py "ps -o user=,uid= -p " ++ text }
  | some uid =>
    if uid = euid then
      { name, status := .ok
        summary := py "pid " ++ text ++ py " and pidprobe both run as uid " ++ Json.intText uid }
    else if euid = 0 then
      { name, status := .ok
        summary := py "pid " ++ text ++ py " runs as uid " ++ Json.intText uid ++
          py "; pidprobe runs as root" }
    else
      { name, status := .fail
        summary := py "pid " ++ text ++ py " runs as uid " ++ Json.intText uid ++
          py ", pidprobe as uid " ++ Json.intText euid
        cause := py "attaching writes into another process' memory, which the kernel permits " ++
          py "only within one user unless the prober is privileged"
        confirm := py "ps -o user=,uid= -p " ++ text ++ py "; id -u"
        fix := py "rerun as that user (`sudo -u '#" ++ Json.intText uid ++ py "' pidprobe snap " ++
          text ++ py "`) or as root" }

/-- `check_pid_namespace`: a pid means one process here and another one on the far side of
a namespace boundary. -/
def checkPidNamespace (host : Host) (pid : ℤ) : Check :=
  let name := py "pid_namespace"
  let text := Json.intText pid
  let confirm := py "readlink /proc/self/ns/pid /proc/" ++ text ++ py "/ns/pid"
  if !host.isLinux then
    { name, status := .skipped
      summary := py "PID namespaces are a Linux concept; a container on this host runs its own " ++
        py "kernel and cannot be reached by pid at all" }
  else
    match host.pidNamespace (py "self"), host.pidNamespace text with
    | some own, some theirs =>
      if own = theirs then
        { name, status := .ok
          summary := py "pidprobe and pid " ++ text ++ py " share PID namespace " ++ own }
      else
        { name, status := .fail
          summary := py "pid " ++ text ++ py " is in PID namespace " ++ theirs ++
            py ", pidprobe in " ++ own
          cause := py "the same number names different processes on the two sides of a " ++
            py "namespace boundary, and the debugger interface PEP 768 writes to cannot be " ++
            py "reached across it"
          confirm := confirm
          fix := py "run pidprobe inside the container (`docker exec <container> pidprobe snap " ++
            py "<pid-inside>`) or join first with `nsenter --target " ++ text ++
            py " --pid --mount`" }
    | _, _ =>
      { name, status := .skipped
        summary := py "could not read the PID namespace of pidprobe or of pid " ++ text
        confirm := confirm }

/-- **The one check that raises**: it passes on what is no `OSError`, such as the
`OverflowError` of a pid beyond a C int. -/
theorem checkTargetProcess_eq_error {killed : Option Cause} {pid : ℤ} {e : PyError} :
    checkTargetProcess killed pid = .error e ↔
      ∃ exc, killed = some exc ∧ exc.kind.isOSError = false ∧ exc.error = e := by
  rcases killed with _ | ⟨kind, typeName, message⟩
  · simp [checkTargetProcess]
  · cases kind <;> simp [checkTargetProcess, CauseKind.isOSError]

end Doctor
end Pidprobe
