/-
# The preflight run on a machine

`diagnose` with its lookups made where the source makes them, so that the commands
it runs are in a log.  Where no lookup raises it comes to the diagnosis of a host
that says what they return (`outcome_diagnoseOn`).

A diagnosis looks and does not touch: on its own part the only programs it runs are
`ps`, and the target's executable where that is named like a Python interpreter
(`doctor_runs_interpreters_only`).
-/

import Mathlib.Algebra.Order.BigOperators.Group.List
import Pidprobe.Doctor
import Pidprobe.Doctor.ProcInfo

namespace Pidprobe
namespace Doctor

variable [Unicode]

/-! ## The checks, with their lookups -/

namespace Machine

variable (machine : Machine)

/-- What the machine says without running anything; the two answers that may need a command
are left open. -/
def still : Host where
  platform := machine.platform
  geteuid := machine.geteuid
  ptraceScope := machine.ptraceScope
  processUid _ := none
  pidNamespace := machine.pidNamespace
  processEnviron := machine.processEnviron
  targetInterpreter _ := ⟨none, none, none, none⟩

/-- `check_target_owner`, with the lookup of the owner in front of it, which runs `ps` on
macOS. -/
def checkTargetOwner (pid : ℤ) : Logged Command Cause Check := do
  let uid ← machine.processUid pid
  pure (Doctor.checkTargetOwner { machine.still with processUid := fun _ => uid } pid)

/-- `check_target_python`, with the lookup of the interpreter in front of it, which may run
the target's own executable. -/
def checkTargetPython (prober : Prober) (pid : ℤ) : Logged Command Cause (List Check) := do
  let interpreter ← machine.targetInterpreter pid
  pure (Doctor.checkTargetPython prober
    { machine.still with targetInterpreter := fun _ => interpreter } pid)

end Machine

/-- The exception of a lookup, as it leaves a handler: none of the lookups catches what is
no `OSError`. -/
def lookupRaised (exc : Cause) : Raised := .exception exc.error

/-- `diagnose` on a machine, which is asked in place of `system.host`; the commands it runs
are logged in their order. -/
def diagnoseOn (machine : Machine) (system : System)
    (listed : Logged Registry.Record Raised (List Collector)) (kill : ℤ → Option Cause)
    (pid : Option ℤ) : Logged Command Raised Diagnosis := do
  let returnChannel ← Logged.lift ((checkReturnChannel system).mapError .exception)
  let collectors ← Logged.lift listed.outcome
  let host := machine.still
  let environment := [checkProberRemoteDebug system.prober, returnChannel,
    checkCollectorPlugins collectors listed.log, checkPtraceScope host, checkTaskForPid host]
  match pid with
  | none => pure ⟨none, environment⟩
  | some pid => do
    let targetProcess ← Logged.lift ((checkTargetProcess (kill pid) pid).mapError .exception)
    let targetOwner ← (machine.checkTargetOwner pid).mapError lookupRaised
    let targetPython ← (machine.checkTargetPython system.prober pid).mapError lookupRaised
    pure ⟨some pid, environment ++ [targetProcess, targetOwner, checkPidNamespace host pid] ++
      targetPython ++ [checkTargetRemoteDebug host pid]⟩

/-! ## The diagnosis of the host -/

variable {machine : Machine} {host : Host}

/-- A host that answers for the machine adds the two lookups that run commands, and nothing
else. -/
theorem Machine.Answers.eq (h : machine.Answers host) :
    host = { machine.still with
      processUid := host.processUid
      targetInterpreter := host.targetInterpreter } := by
  obtain ⟨hplatform, heuid, hscope, -, hnamespace, henviron, -⟩ := h
  rw [Machine.still, ← hplatform, ← heuid, ← hscope, ← hnamespace, ← henviron]

/-- On a machine that answers as the host says, the check on the owner is the host's. -/
theorem Machine.Answers.outcome_checkTargetOwner (h : machine.Answers host) (pid : ℤ) :
    (machine.checkTargetOwner pid).outcome = .ok (Doctor.checkTargetOwner host pid) := by
  rw [Machine.checkTargetOwner, Logged.outcome_bind, h.processUid, ok_bind, h.eq]
  rfl

/-- So are the checks on the target's Python. -/
theorem Machine.Answers.outcome_checkTargetPython (h : machine.Answers host) (prober : Prober)
    (pid : ℤ) :
    (machine.checkTargetPython prober pid).outcome =
      .ok (Doctor.checkTargetPython prober host pid) := by
  rw [Machine.checkTargetPython, Logged.outcome_bind, h.targetInterpreter, ok_bind, h.eq]
  rfl

/-- **A diagnosis is that of the host**: running commands for the answers changes nothing in
what is found. -/
theorem outcome_diagnoseOn (h : machine.Answers host) (system : System)
    (listed : Logged Registry.Record Raised (List Collector)) (kill : ℤ → Option Cause)
    (pid : Option ℤ) :
    (diagnoseOn machine system listed kill pid).outcome =
      diagnose { system with host } listed kill pid := by
  have hscope : checkPtraceScope host = checkPtraceScope machine.still := by rw [h.eq]; rfl
  have htask : checkTaskForPid host = checkTaskForPid machine.still := by rw [h.eq]; rfl
  have hnamespace : ∀ p, checkPidNamespace host p = checkPidNamespace machine.still p := by
    rw [h.eq]; exact fun _ => rfl
  have hdebug : ∀ p, checkTargetRemoteDebug host p = checkTargetRemoteDebug machine.still p := by
    rw [h.eq]; exact fun _ => rfl
  rw [diagnoseOn, diagnose, Logged.outcome_bind, Logged.outcome_lift]
  refine congrArg _ (funext fun returnChannel => ?_)
  rw [Logged.outcome_bind, Logged.outcome_lift]
  refine congrArg _ (funext fun collectors => ?_)
  cases pid with
  | none => rw [hscope, htask]; rfl
  | some p =>
    simp only
    rw [Logged.outcome_bind, Logged.outcome_lift]
    refine congrArg _ (funext fun targetProcess => ?_)
    rw [Logged.outcome_bind, Logged.outcome_mapError_of_ok _ (h.outcome_checkTargetOwner p),
      ok_bind, Logged.outcome_bind,
      Logged.outcome_mapError_of_ok _ (h.outcome_checkTargetPython system.prober p), ok_bind,
      hscope, htask, hnamespace, hdebug]
    rfl

/-! ## The commands -/

namespace Machine

variable (machine)

/-- Running a command logs it, once, however it ends. -/
theorem log_run (command : Command) : (machine.run command).log = [command] := by
  rw [run, Logged.log_bind]
  simp only [Logged.outcome_tell, Logged.log_tell]
  split
  · rfl
  · rfl
  · split_ifs <;> rfl

omit [Unicode] in
/-- No machine is of both platforms. -/
theorem not_isMacos_of_isLinux (h : machine.isLinux = true) : machine.isMacos = false := by
  rw [isLinux, decide_eq_true_eq] at h
  simp [isMacos, h]

/-- Who owns a process is a matter of `ps` on macOS only; on Linux the owner of
`/proc/<pid>` says it. -/
theorem log_processUid (pid : ℤ) :
    (machine.processUid pid).log =
      if machine.isMacos then [psCommand pid (py "uid")] else [] := by
  rw [processUid]
  split_ifs with hl hm
  · rw [machine.not_isMacos_of_isLinux hl] at hm
    cases hm
  · rfl
  · rw [Logged.log_bind_of_silent fun _ => Logged.log_pure _, psField, log_run]
  · rfl

/-- Nor does the lookup of an executable run anything elsewhere: Linux has a link for it. -/
theorem log_processExecutable (pid : ℤ) :
    (machine.processExecutable pid).log =
      if machine.isMacos then [psCommand pid (py "comm")] else [] := by
  rw [processExecutable]
  split_ifs with hl hm
  · rw [machine.not_isMacos_of_isLinux hl] at hm
    cases hm
  · rfl
  · rw [psField, log_run]
  · rfl

/-- An executable that is reported and named like an interpreter is run, once. -/
theorem log_targetInterpreter (pid : ℤ) :
    (machine.targetInterpreter pid).log = (machine.processExecutable pid).log ++
      match (machine.processExecutable pid).outcome with
      | .ok (some executable) =>
        if looksLikeInterpreter executable then [versionCommand executable] else []
      | _ => [] := by
  rw [targetInterpreter, Logged.log_bind]
  congr 1
  rcases (machine.processExecutable pid).outcome with _ | _ | executable
  · rfl
  · rfl
  · by_cases h : looksLikeInterpreter executable = true
    · simp only [h, Bool.not_true, Bool.false_eq_true, if_false, if_true]
      rw [queryInterpreter, bind_assoc, Logged.log_bind_of_silent, log_run]
      intro output
      rw [pure_bind]
      split <;> rfl
    · simp [h]

/-- The commands a diagnosis of a process may run: `ps` about it, and its own executable,
when that is named like an interpreter. -/
inductive Permitted (pid : ℤ) : Command → Prop
  | ps {field : PyStr} (h : machine.isMacos = true) (hfield : field ∈ [py "uid", py "comm"]) :
      Permitted pid (psCommand pid field)
  | interpreter {executable : PyStr}
      (h : (machine.processExecutable pid).outcome = .ok (some executable))
      (hname : looksLikeInterpreter executable = true) :
      Permitted pid (versionCommand executable)

variable {machine}

/-- Asking for the owner runs `ps` about the pid, on macOS, and nothing elsewhere. -/
theorem permitted_processUid {pid : ℤ} {command : Command}
    (h : command ∈ (machine.processUid pid).log) : machine.Permitted pid command := by
  rw [log_processUid] at h
  split_ifs at h with hm
  · obtain rfl := List.mem_singleton.1 h
    exact .ps hm (List.mem_cons_self ..)
  · cases h

/-- Asking for the interpreter runs what it may: `ps`, and the executable of the pid where
it is named like an interpreter. -/
theorem permitted_targetInterpreter {pid : ℤ} {command : Command}
    (h : command ∈ (machine.targetInterpreter pid).log) : machine.Permitted pid command := by
  rw [log_targetInterpreter, log_processExecutable, List.mem_append] at h
  rcases h with h | h
  · split_ifs at h with hm
    · obtain rfl := List.mem_singleton.1 h
      exact .ps hm (List.mem_cons_of_mem _ (List.mem_singleton_self _))
    · cases h
  · split at h
    · next executable hrun =>
      split_ifs at h with hname
      · obtain rfl := List.mem_singleton.1 h
        exact .interpreter hrun hname
      · cases h
    · cases h

/-- How long the commands may take, one after the other: the sum of their timeouts. -/
def budget (commands : List Command) : ℚ := (commands.map Command.timeoutSeconds).sum

/-- Every command that may run is given some time. -/
theorem Permitted.timeout_nonneg {pid : ℤ} {command : Command}
    (h : machine.Permitted pid command) : 0 ≤ command.timeoutSeconds := by
  cases h <;> simp [psCommand, versionCommand]

/-- Asking for the owner takes two seconds at most. -/
theorem budget_processUid (pid : ℤ) : budget (machine.processUid pid).log ≤ 2 := by
  rw [log_processUid]
  split_ifs <;> simp [budget, psCommand]

/-- Asking for the interpreter takes twelve seconds at most: two for `ps`, and ten for the
interpreter. -/
theorem budget_targetInterpreter (pid : ℤ) : budget (machine.targetInterpreter pid).log ≤ 12 := by
  have hps : budget (machine.processExecutable pid).log ≤ 2 := by
    rw [log_processExecutable]
    split_ifs <;> simp [budget, psCommand]
  rw [log_targetInterpreter, budget, List.map_append, List.sum_append]
  refine (add_le_add (b := 2) (d := 10) hps ?_).trans (by norm_num)
  split
  · split_ifs <;> simp [versionCommand]
  · simp

end Machine

/-- What a diagnosis runs is the beginning of what its two lookups run: a check that raises
ends it early. -/
theorem log_diagnoseOn (machine : Machine) (system : System)
    (listed : Logged Registry.Record Raised (List Collector)) (kill : ℤ → Option Cause) :
    (diagnoseOn machine system listed kill none).log = [] ∧ ∀ p,
      (diagnoseOn machine system listed kill (some p)).log <+:
        (machine.processUid p).log ++ (machine.targetInterpreter p).log := by
  have howner : ∀ p, (machine.checkTargetOwner p).log = (machine.processUid p).log := fun p =>
    Logged.log_bind_of_silent fun _ => Logged.log_pure _
  have hpython : ∀ p, (machine.checkTargetPython system.prober p).log =
      (machine.targetInterpreter p).log := fun p =>
    Logged.log_bind_of_silent fun _ => Logged.log_pure _
  -- the steps that run nothing
  have hlift : ∀ {α β : Type} (x : Except Raised α) (f : α → Logged Command Raised β) l,
      (∀ a, (f a).log <+: l) → (Logged.lift x >>= f).log <+: l := fun x f l h =>
    Logged.log_bind_isPrefix (List.prefix_refl []) fun a _ => ⟨rfl, h a⟩
  constructor
  · refine List.prefix_nil.1 (hlift _ _ _ fun _ => hlift _ _ _ fun _ => ?_)
    exact List.nil_prefix
  · intro p
    refine hlift _ _ _ fun _ => hlift _ _ _ fun _ => hlift _ _ _ fun _ => ?_
    refine Logged.log_bind_isPrefix (howner p ▸ List.prefix_rfl) fun _ _ => ⟨howner p, ?_⟩
    rw [Logged.log_bind_of_silent fun _ => Logged.log_pure _, Logged.log_mapError, hpython]

/-- A path that is written out keeps its name, so it looks like an interpreter where it did
before. -/
theorem looksLikeInterpreter_linkText (target : PyStr) :
    looksLikeInterpreter (linkText target) = looksLikeInterpreter target := by
  rw [looksLikeInterpreter, linkText, PurePath.parse_text]
  rfl

/-- On Linux no `ps` is run, and the executable is the one the kernel reports. -/
theorem Machine.Permitted.of_isLinux {machine : Machine} {pid : ℤ} {command : Command}
    (h : machine.Permitted pid command) (hlinux : machine.isLinux = true) : ∃ target,
      machine.readlink (procPath (Json.intText pid) (py "/exe")) = some target ∧
        looksLikeInterpreter target = true ∧ command = versionCommand (linkText target) := by
  cases h with
  | ps h =>
    rw [machine.not_isMacos_of_isLinux hlinux] at h
    cases h
  | interpreter h hname =>
    rw [Machine.processExecutable, if_pos hlinux] at h
    obtain ⟨target, hread, rfl⟩ := Option.map_eq_some_iff.1 (Except.ok.inj h)
    exact ⟨target, hread, looksLikeInterpreter_linkText target ▸ hname, rfl⟩

/-- **The doctor runs nothing but `ps` and interpreters.**  Without a pid it runs no
program at all.  With one, on every machine and whatever its checks come to, each
command is `ps` about that pid, on macOS, or the executable of that pid with the
version script, and then the last part of its path is named like a Python
interpreter; on Linux that path is the one the kernel reports.  All commands
together are given at most 14 seconds. -/
theorem doctor_runs_interpreters_only (machine : Machine) (system : System)
    (listed : Logged Registry.Record Raised (List Collector)) (kill : ℤ → Option Cause)
    (pid : Option ℤ) :
    (∀ command ∈ (diagnoseOn machine system listed kill pid).log,
      ∃ p, pid = some p ∧ machine.Permitted p command ∧
        (machine.isLinux = true → ∃ target,
          machine.readlink (procPath (Json.intText p) (py "/exe")) = some target ∧
            looksLikeInterpreter target = true ∧ command = versionCommand (linkText target))) ∧
      Machine.budget (diagnoseOn machine system listed kill pid).log ≤ 14 := by
  obtain ⟨hnone, hsome⟩ := log_diagnoseOn machine system listed kill
  cases pid with
  | none =>
    rw [hnone]
    exact ⟨by simp, by norm_num [Machine.budget]⟩
  | some p =>
    obtain ⟨rest, hrest⟩ := hsome p
    have hpermitted : ∀ command ∈ (machine.processUid p).log ++ (machine.targetInterpreter p).log,
        machine.Permitted p command := fun command h =>
      (List.mem_append.1 h).elim Machine.permitted_processUid Machine.permitted_targetInterpreter
    rw [← hrest] at hpermitted
    constructor
    · intro command h
      have hcommand := hpermitted command (List.mem_append_left _ h)
      exact ⟨p, rfl, hcommand, hcommand.of_isLinux⟩
    · have hsum : Machine.budget ((diagnoseOn machine system listed kill (some p)).log ++ rest) =
          Machine.budget (diagnoseOn machine system listed kill (some p)).log +
            Machine.budget rest := by
        rw [Machine.budget, List.map_append, List.sum_append]
        rfl
      have hnonneg : 0 ≤ Machine.budget rest := List.sum_nonneg (List.forall_mem_map.2
        fun command h => (hpermitted command (List.mem_append_right _ h)).timeout_nonneg)
      have hwhole : Machine.budget ((diagnoseOn machine system listed kill (some p)).log ++ rest) ≤
          2 + 12 := by
        rw [hrest, Machine.budget, List.map_append, List.sum_append]
        exact add_le_add (Machine.budget_processUid p) (Machine.budget_targetInterpreter p)
      linarith

end Doctor
end Pidprobe
