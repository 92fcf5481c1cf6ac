/-
# The verdict

What a diagnosis comes to, over every system.  `EnvironmentReady` and `TargetReady`
say what attaching needs, each condition in the terms of the system; a lookup without
an answer stands in nobody's way.  `pidprobe doctor` exits with 0 where they hold, and
with the code of a failed diagnosis where one of them does not (`doctor_verdict`), and
the check that failed then says what to do about it.
-/

import Pidprobe.Cli.Pids
import Pidprobe.Lib.JsonRoundTrip
import Pidprobe.Lib.Records

namespace Pidprobe
namespace Doctor

/-- What attaching needs of the machine and the prober, said without the checks. -/
structure EnvironmentReady (system : System) : Prop where
  /-- The interpreter has `sys.remote_exec`, and it is not switched off. -/
  remoteExec : system.prober.hasRemoteExec = true ∧ system.prober.isRemoteDebugEnabled = true
  /-- The target has somewhere to answer. -/
  returnChannel : (∃ path, system.unixSocketChannel = .ok path) ∨
    ∃ path, system.tempFileChannel = .ok path
  /-- Yama lets some process attach. -/
  ptraceScope : system.host.isLinux = true →
    ∀ scope, system.host.ptraceScope = some scope → scope ≤ 1
  /-- macOS hands out the task port. -/
  taskForPid : system.host.isMacos = true → system.host.geteuid = 0

/-- What it needs of the target. What could not be found out does not count against it. -/
structure TargetReady (system : System) (kill : ℤ → Option Cause) (pid : ℤ) : Prop where
  /-- The process exists, and takes signals of this user. -/
  process : kill pid = none
  /-- It is this user's, or this user is root. -/
  owner : ∀ uid, system.host.processUid pid = some uid →
    uid = system.host.geteuid ∨ system.host.geteuid = 0
  /-- It is on this side of a namespace boundary. -/
  pidNamespace : system.host.isLinux = true → ∀ own theirs,
    system.host.pidNamespace (py "self") = some own →
    system.host.pidNamespace (Json.intText pid) = some theirs → own = theirs
  /-- It runs a CPython with the interface, of the prober's own feature release. -/
  python : ∀ version, (system.host.targetInterpreter pid).version = some version →
    (system.host.targetInterpreter pid).implementation = some (py "cpython") ∧
      isOlder version = false ∧ (version.1, version.2.1) = system.prober.versionInfo
  /-- It was started without the variable that turns the interface off. -/
  remoteDebug : system.host.isLinux = true → ∀ environ,
    system.host.processEnviron pid = some environ → Dict.get? disableVariable environ = none

/-! ## Check by check -/

variable {system : System} {kill : ℤ → Option Cause} {pid : ℤ} {check : Check}

/-- The check on the prober fails where its interpreter lacks `sys.remote_exec` or has it
switched off. -/
theorem proberRemoteDebug_fails (prober : Prober) :
    (checkProberRemoteDebug prober).status = .fail ↔
      ¬(prober.hasRemoteExec = true ∧ prober.isRemoteDebugEnabled = true) := by
  rcases hexec : prober.hasRemoteExec <;> rcases henabled : prober.isRemoteDebugEnabled <;>
    simp [checkProberRemoteDebug, hexec, henabled]

/-- The check on the return channel fails where neither transport can be opened. -/
theorem returnChannel_fails (h : checkReturnChannel system = .ok check) :
    check.status = .fail ↔ ¬((∃ path, system.unixSocketChannel = .ok path) ∨
      ∃ path, system.tempFileChannel = .ok path) := by
  rw [checkReturnChannel] at h
  rcases hunix : system.unixSocketChannel with exc | path
  · rw [hunix] at h
    simp only at h
    split_ifs at h with hos
    rw [tempfileChannelCheck] at h
    rcases htemp : system.tempFileChannel with exc' | path
    · rw [htemp] at h
      simp only at h
      split_ifs at h
      obtain rfl := Except.ok.inj h
      simp
    · rw [htemp] at h
      obtain rfl := Except.ok.inj h
      simp
  · rw [hunix] at h
    obtain rfl := Except.ok.inj h
    simp

/-- The check on the plugins warns at most: a skipped plugin costs one section. -/
theorem collectorPlugins_passes [Unicode] (collectors : List Collector)
    (records : List Registry.Record) :
    (checkCollectorPlugins collectors records).status ≠ .fail := by
  by_cases h : records.map Registry.Record.message = [] <;> simp [checkCollectorPlugins, h]

/-- The check on Yama fails where no process may attach: a scope above 1, on Linux. -/
theorem ptraceScope_fails (host : Host) :
    (checkPtraceScope host).status = .fail ↔
      ¬(host.isLinux = true → ∀ scope, host.ptraceScope = some scope → scope ≤ 1) := by
  by_cases hl : host.isLinux = true
  · rcases hscope : host.ptraceScope with _ | scope
    · simp [checkPtraceScope, hl, hscope]
    · -- the table: at most 0, 1, 2, and everything else
      rcases le_or_gt scope 0 with h₀ | h₀
      · have : scope ≤ 1 := by omega
        simp [checkPtraceScope, hl, hscope, h₀, this]
      rcases eq_or_ne scope 1 with rfl | h₁
      · simp [checkPtraceScope, hl, hscope]
      have : ¬scope ≤ 1 := by omega
      rcases eq_or_ne scope 2 with rfl | h₂
      · simp [checkPtraceScope, hl, hscope]
      · simp [checkPtraceScope, hl, hscope, h₀.not_ge, h₁, h₂, this]
  · simp [checkPtraceScope, hl]

/-- The check on the task port fails on macOS without root. -/
theorem taskForPid_fails (host : Host) :
    (checkTaskForPid host).status = .fail ↔ ¬(host.isMacos = true → host.geteuid = 0) := by
  by_cases hm : host.isMacos = true <;> by_cases he : host.geteuid = 0 <;>
    simp [checkTaskForPid, hm, he]

/-- The check on the process fails where a signal cannot be sent to it. -/
theorem targetProcess_fails {killed : Option Cause}
    (h : checkTargetProcess killed pid = .ok check) : check.status = .fail ↔ killed ≠ none := by
  rcases killed with _ | exc
  · obtain rfl := Except.ok.inj h
    exact iff_of_false (fun h => by cases h) (fun h => h rfl)
  · rw [checkTargetProcess] at h
    split_ifs at h <;> obtain rfl := Except.ok.inj h <;> simp

/-- The check on the owner fails where the process is somebody else's and this user is not
root. -/
theorem targetOwner_fails (host : Host) :
    (checkTargetOwner host pid).status = .fail ↔
      ¬∀ uid, host.processUid pid = some uid → uid = host.geteuid ∨ host.geteuid = 0 := by
  rcases huid : host.processUid pid with _ | uid
  · simp [checkTargetOwner, huid]
  · by_cases hown : uid = host.geteuid
    · simp [checkTargetOwner, huid, hown]
    · by_cases hroot : host.geteuid = 0
      · have hzero : uid ≠ 0 := fun he => hown (he.trans hroot.symm)
        simp [checkTargetOwner, huid, hroot, hzero]
      · simp [checkTargetOwner, huid, hown, hroot]

/-- The check on the namespace fails where both namespaces are known and differ. -/
theorem pidNamespace_fails (host : Host) :
    (checkPidNamespace host pid).status = .fail ↔
      ¬(host.isLinux = true → ∀ own theirs, host.pidNamespace (py "self") = some own →
        host.pidNamespace (Json.intText pid) = some theirs → own = theirs) := by
  by_cases hl : host.isLinux = true
  · rcases hself : host.pidNamespace (py "self") with _ | own
    · simp [checkPidNamespace, hl, hself]
    · rcases htarget : host.pidNamespace (Json.intText pid) with _ | theirs
      · simp [checkPidNamespace, hl, hself, htarget]
      · by_cases h : own = theirs <;> simp [checkPidNamespace, hl, hself, htarget, h]
  · simp [checkPidNamespace, hl]

/-- The check on the environment fails where the variable that turns the interface off is
set in it, to whatever value. -/
theorem targetRemoteDebug_fails [Unicode] (host : Host) :
    (checkTargetRemoteDebug host pid).status = .fail ↔
      ¬(host.isLinux = true → ∀ environ, host.processEnviron pid = some environ →
        Dict.get? disableVariable environ = none) := by
  by_cases hl : host.isLinux = true
  · rcases henviron : host.processEnviron pid with _ | environ
    · simp [checkTargetRemoteDebug, hl, henviron]
    · rcases hget : Dict.get? disableVariable environ with _ | setting <;>
        simp [checkTargetRemoteDebug, hl, henviron, hget]
  · simp [checkTargetRemoteDebug, hl]

/-- A number has no dot in its text, so a version can be split at its dots. -/
theorem dot_notMem_intText (n : ℤ) : cp '.' ∉ Json.intText n := by
  have hdigits : ∀ m, cp '.' ∉ Json.decimal m := fun m hmem =>
    absurd ((Json.decimal_digitText m).1 _ hmem) (by decide)
  cases n with
  | ofNat m => exact hdigits m
  | negSucc m => exact List.not_mem_cons_of_ne_of_not_mem (by decide) (hdigits _)

/-- Two numbers with one text are one number. -/
theorem intText_inj {m n : ℤ} (h : Json.intText m = Json.intText n) : m = n := by
  let _ := Json.wholeFloats
  have hm := Json.readNumber_intText m (r := []) (by simp [Json.NumberEnd])
  rw [h, Json.readNumber_intText n (by simp [Json.NumberEnd])] at hm
  simpa using hm.symm

/-- Releases are told apart by how they are written, so comparing the texts compares the
releases. -/
theorem renderedRelease_inj {release release' : ℤ × ℤ} :
    renderedRelease release = renderedRelease release' ↔ release = release' := by
  have hparts : ∀ r : ℤ × ℤ, Records.partition (cp '.') (renderedRelease r) =
      (Json.intText r.1, Json.intText r.2) := fun r => by
    have hdot : py "." = [cp '.'] := rfl
    rw [renderedRelease, hdot, List.append_assoc, List.singleton_append,
      Records.partition_append (dot_notMem_intText _)]
  refine ⟨fun h => ?_, fun h => h ▸ rfl⟩
  have hpair := (hparts release).symm.trans (h ▸ hparts release')
  exact Prod.ext (intText_inj (congrArg Prod.fst hpair)) (intText_inj (congrArg Prod.snd hpair))

/-- The check on the version fails on what is no CPython, and on one without the
interface. -/
theorem checkVersion_fails (interpreter : Interpreter) (version : ℤ × ℤ × ℤ) :
    (checkVersion interpreter version).status = .fail ↔
      ¬(interpreter.implementation = some (py "cpython") ∧ isOlder version = false) := by
  have himplementation :
      orElse (interpreter.implementation.getD []) (py "an unknown implementation") =
        py "cpython" ↔ interpreter.implementation = some (py "cpython") := by
    rcases interpreter.implementation with _ | implementation
    · simp [orElse]
    · by_cases h : implementation = [] <;> simp [orElse, h]
  have hcpython : orElse (py "cpython") (py "an unknown implementation") = py "cpython" :=
    if_neg (by simp)
  by_cases hname : interpreter.implementation = some (py "cpython")
  · by_cases hold : isOlder version = true
    · simp [checkVersion, hcpython, hname, hold]
    · simp [checkVersion, hcpython, hname, hold]
  · simp [checkVersion, himplementation, hname]

/-- Whatever it comes to, the check goes by one name. -/
theorem checkVersion_name (interpreter : Interpreter) (version : ℤ × ℤ × ℤ) :
    (checkVersion interpreter version).name = py "target_python_version" := by
  unfold checkVersion
  simp only
  split_ifs <;> rfl

/-- The check against the prober fails on another feature release; the patch release does
not matter. -/
theorem checkMatchesProber_fails (prober : Prober) (interpreter : Interpreter)
    (version : ℤ × ℤ × ℤ) :
    (checkMatchesProber prober interpreter version).status = .fail ↔
      (version.1, version.2.1) ≠ prober.versionInfo := by
  by_cases h : (version.1, version.2.1) = prober.versionInfo <;>
    simp [checkMatchesProber, renderedRelease_inj, h]

/-- One of the checks on the target's Python fails exactly where its version is known and
is not one the prober can attach to. -/
theorem targetPython_fails (prober : Prober) (host : Host) (pid : ℤ) :
    (∃ check ∈ checkTargetPython prober host pid, check.status = .fail) ↔
      ¬∀ version, (host.targetInterpreter pid).version = some version →
        (host.targetInterpreter pid).implementation = some (py "cpython") ∧
          isOlder version = false ∧ (version.1, version.2.1) = prober.versionInfo := by
  rcases hversion : (host.targetInterpreter pid).version with _ | version
  · simp [checkTargetPython, hversion, unknownTargetPython]
  · simp only [checkTargetPython, hversion, List.exists_mem_cons_iff, List.not_mem_nil, false_and,
      exists_false, or_false, checkVersion_fails, checkMatchesProber_fails, Option.some.injEq,
      forall_eq']
    tauto

/-! ## The verdict -/

variable [Unicode] {listed : Logged Registry.Record Raised (List Collector)}
  {diagnosis : Diagnosis}

/-- What attaching needs, with and without a target. -/
def Ready (system : System) (kill : ℤ → Option Cause) (pid : Option ℤ) : Prop :=
  EnvironmentReady system ∧ ∀ p, pid = some p → TargetReady system kill p

/-- No check on the environment fails where it is ready, and one fails where it is not. -/
theorem environment_passes {returnChannel : Check} (collectors : List Collector)
    (records : List Registry.Record) (h : checkReturnChannel system = .ok returnChannel) :
    (∀ check ∈ [checkProberRemoteDebug system.prober, returnChannel,
      checkCollectorPlugins collectors records, checkPtraceScope system.host,
      checkTaskForPid system.host], check.status ≠ .fail) ↔ EnvironmentReady system := by
  simp only [List.forall_mem_cons, List.not_mem_nil, IsEmpty.forall_iff, implies_true, and_true,
    ne_eq, proberRemoteDebug_fails, returnChannel_fails h, ptraceScope_fails, taskForPid_fails,
    collectorPlugins_passes, not_not, not_false_eq_true, true_and]
  constructor
  · rintro ⟨hexec, hchannel, hscope, htask⟩
    exact ⟨hexec, hchannel, hscope, htask⟩
  · intro h
    exact ⟨h.remoteExec, h.returnChannel, h.ptraceScope, h.taskForPid⟩

/-- And none on the target fails where that is ready, and one where it is not. -/
theorem target_passes (system : System) {targetProcess : Check}
    (h : checkTargetProcess (kill pid) pid = .ok targetProcess) :
    (∀ check ∈ [targetProcess, checkTargetOwner system.host pid,
      checkPidNamespace system.host pid] ++ checkTargetPython system.prober system.host pid ++
      [checkTargetRemoteDebug system.host pid], check.status ≠ .fail) ↔
      TargetReady system kill pid := by
  have hpython : (∀ check ∈ checkTargetPython system.prober system.host pid,
      check.status ≠ .fail) ↔ ∀ version,
      (system.host.targetInterpreter pid).version = some version →
        (system.host.targetInterpreter pid).implementation = some (py "cpython") ∧
          isOlder version = false ∧ (version.1, version.2.1) = system.prober.versionInfo := by
    rw [← not_iff_not, ← targetPython_fails]
    simp
  rw [List.forall_mem_append, List.forall_mem_append, hpython]
  simp only [List.forall_mem_cons, List.not_mem_nil, IsEmpty.forall_iff, implies_true, and_true,
    ne_eq, targetProcess_fails h, targetOwner_fails, pidNamespace_fails, targetRemoteDebug_fails,
    not_not]
  constructor
  · rintro ⟨⟨⟨hprocess, howner, hnamespace⟩, hpython⟩, hdebug⟩
    exact ⟨hprocess, howner, hnamespace, hpython, hdebug⟩
  · intro h
    exact ⟨⟨⟨h.process, h.owner, h.pidNamespace⟩, h.python⟩, h.remoteDebug⟩

/-- **A diagnosis finds exactly what stands in the way**: the verdict is that of the checks
together. -/
theorem isAttachable_diagnose {pid : Option ℤ}
    (h : diagnose system listed kill pid = .ok diagnosis) :
    diagnosis.isAttachable = true ↔ Ready system kill pid := by
  obtain ⟨returnChannel, hchannel, h⟩ := bind_eq_ok.1 h
  obtain ⟨collectors, -, h⟩ := bind_eq_ok.1 h
  have henvironment := environment_passes collectors listed.log (mapError_eq_ok.1 hchannel)
  rw [Diagnosis.isAttachable_iff, Ready, ← henvironment]
  cases pid with
  | none =>
    obtain rfl := Except.ok.inj h
    simp
  | some p =>
    obtain ⟨targetProcess, hprocess, h⟩ := bind_eq_ok.1 h
    obtain rfl := Except.ok.inj h
    have htarget := target_passes system (mapError_eq_ok.1 hprocess)
    simp only [Option.some.injEq, forall_eq']
    rw [← htarget, List.append_assoc, List.append_assoc, List.append_assoc,
      List.forall_mem_append]

/-- **The exit code of the doctor is its verdict.**  Over every system, every set of
plugins and every pid: a run that is not cut short by an exception exits with 0 where
nothing stands in the way of attaching, and with the code of a failed diagnosis where
something does.  Warnings, and lookups without an answer, change neither.  A diagnosis
that failed says why: a check of it failed, and names the cause, a confirmation and a
fix. -/
theorem doctor_verdict {ε : Type} [PyException ε] [IsoFormat] {w : Commands.World ε}
    {pid : Option ℤ} {code : ℕ} (h : Commands.runDoctor w pid = .ok code) :
    code = exitOk ∧ Ready w.doctor w.calls.kill pid ∨
      code = exitDiagnosisFailed ∧ ¬Ready w.doctor w.calls.kill pid ∧
        ∃ diagnosis, diagnose w.doctor w.listed w.calls.kill pid = .ok diagnosis ∧
          ∃ check ∈ diagnosis.failures,
            check.details.map Prod.fst = [py "cause", py "confirm", py "fix"] := by
  obtain ⟨diagnosis, hdiagnosis, h⟩ := bind_eq_ok.1 h
  obtain ⟨-, -, h⟩ := bind_eq_ok.1 h
  obtain rfl := Except.ok.inj h
  have hready := isAttachable_diagnose hdiagnosis
  by_cases hattachable : diagnosis.isAttachable = true
  · exact .inl ⟨if_pos hattachable, hready.1 hattachable⟩
  · obtain ⟨check, hcheck, hdetails⟩ := Diagnosis.exists_failure hattachable
    exact .inr ⟨if_neg hattachable, fun h => hattachable (hready.2 h), diagnosis, hdiagnosis,
      check, hcheck, hdetails⟩

omit [Unicode] in
/-- A machine on which nothing stands in the way: the verdict is one of the two. -/
theorem doctor_verdict_plain :
    letI : IsoFormat := ⟨fun _ => none⟩
    letI := Unicode.fullwidth
    letI := Json.wholeFloats
    let w := Cli.plainWorld (ε := ExcData) plainProber
    ∃ code, Commands.runDoctor w (some 7) = .ok code ∧
      (code = exitOk ∧ Ready w.doctor w.calls.kill (some 7) ∨
        code = exitDiagnosisFailed ∧ ¬Ready w.doctor w.calls.kill (some 7) ∧
          ∃ diagnosis, diagnose w.doctor w.listed w.calls.kill (some 7) = .ok diagnosis ∧
            ∃ check ∈ diagnosis.failures,
              check.details.map Prod.fst = [py "cause", py "confirm", py "fix"]) := by
  let _ : IsoFormat := ⟨fun _ => none⟩
  let _ := Unicode.fullwidth
  let _ := Json.wholeFloats
  have hrun : ∃ code,
      Commands.runDoctor (Cli.plainWorld (ε := ExcData) plainProber) (some 7) = .ok code := by
    rw [Commands.runDoctor, diagnose, Cli.plain_listed]
    exact ⟨_, rfl⟩
  obtain ⟨code, hcode⟩ := hrun
  exact ⟨code, hcode, doctor_verdict hcode⟩

end Doctor
end Pidprobe
