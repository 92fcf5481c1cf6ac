/-
# The version of a target

The version of another process cannot be asked from outside, so its executable is run
with a script that prints four words.  What the interpreter prints is what the
diagnosis works with (`outcome_targetInterpreter`), and the checks pass exactly on a
CPython that is new enough and of the prober's feature release
(`target_python_exact`).
-/

import Pidprobe.Doctor.OnMachine
import Pidprobe.Doctor.Verdict

namespace Pidprobe
namespace Doctor

variable [Unicode]

/-- What `print(sys.implementation.name, *sys.version_info[:3])` writes. -/
def printedVersion (implementation : PyStr) (version : ℤ × ℤ × ℤ) : PyStr :=
  join (py " ") [implementation, Json.intText version.1, Json.intText version.2.1,
    Json.intText version.2.2] ++ [cp '\n']

/-- A text of no blanks. -/
def IsWord (text : PyStr) : Prop := text ≠ [] ∧ ∀ c ∈ text, Unicode.isspace c = false

/-- No character of a number is a blank. -/
theorem isspace_of_number {c : CodePoint} (h : isNumberChar c = true) :
    Unicode.isspace c = false := by
  have hascii : IsAscii c := lt_of_le_of_lt (IsPrintable.of_number h).2 (by omega)
  rw [Unicode.isspace_ascii c hascii, asciiSpace, decide_eq_false_iff_not]
  rw [isNumberChar, decide_eq_true_eq] at h
  rcases h with h | rfl | rfl | rfl | rfl | rfl
  · omega
  all_goals decide

/-- The text of a number is one word. -/
theorem isWord_intText (n : ℤ) : IsWord (Json.intText n) :=
  ⟨(Json.intText_numberText n).1, fun c hc => isspace_of_number (Json.intText_number n c hc)⟩

/-- The words of what the interpreter prints are the name and the three numbers. -/
theorem words_printedVersion {implementation : PyStr} (h : IsWord implementation)
    (version : ℤ × ℤ × ℤ) :
    Words.words Unicode.isspace (printedVersion implementation version) =
      [implementation, Json.intText version.1, Json.intText version.2.1,
        Json.intText version.2.2] := by
  have hspace : Unicode.isspace (cp ' ') = true := by
    rw [Unicode.isspace_ascii _ (by decide)]
    rfl
  have hnewline : ∀ c ∈ [cp '\n'], Unicode.isspace c = true := by
    rw [List.forall_mem_singleton, Unicode.isspace_ascii _ (by decide)]
    rfl
  have hwords : ∀ w ∈ [implementation, Json.intText version.1, Json.intText version.2.1,
      Json.intText version.2.2], IsWord w := by
    simp [h, isWord_intText]
  rw [printedVersion, Words.words_append_blanks hnewline]
  exact Words.words_joined hspace hwords

/-- A command that succeeds and prints words is read without the blanks at the ends. -/
theorem Machine.outcome_run {machine : Machine} {command : Command} {stdout : PyStr}
    (h : machine.completed command = .exited 0 stdout)
    (hwords : Words.words Unicode.isspace stdout ≠ []) :
    (machine.run command).outcome = .ok (some (Words.strip Unicode.isspace stdout)) := by
  have hne : Words.strip Unicode.isspace stdout ≠ [] := by
    intro hnil
    rw [← Words.words_strip, hnil] at hwords
    exact hwords Words.words_nil
  rw [Machine.run, Logged.outcome_bind, Logged.outcome_tell, ok_bind, h]
  simp [hne]

/-- **The version the interpreter prints is read back**, whatever it is called and
whatever its numbers are, as long as `int` reads the three of them: it refuses a text of
more digits than `sys.get_int_max_str_digits()`. -/
theorem outcome_targetInterpreter {machine : Machine} {pid : ℤ}
    {executable implementation : PyStr} {version : ℤ × ℤ × ℤ}
    (hexecutable : (machine.processExecutable pid).outcome = .ok (some executable))
    (hname : looksLikeInterpreter executable = true) (hword : IsWord implementation)
    (hint : ∀ n ∈ [version.1, version.2.1, version.2.2], machine.int (Json.intText n) = some n)
    (hrun : machine.completed (versionCommand executable) =
      .exited 0 (printedVersion implementation version)) :
    (machine.targetInterpreter pid).outcome =
      .ok ⟨some executable, some implementation, some version, none⟩ := by
  have hwords := words_printedVersion hword version
  have hquery : (machine.queryInterpreter executable).outcome =
      .ok (some (implementation, version)) := by
    rw [Machine.queryInterpreter, Logged.outcome_bind,
      Machine.outcome_run hrun (by rw [hwords]; exact List.cons_ne_nil _ _), ok_bind,
      Logged.outcome_pure, Option.bind_some, parseVersion, Words.words_strip, hwords]
    simp only [List.forall_mem_cons] at hint
    obtain ⟨hmajor, hminor, hmicro, -⟩ := hint
    simp [hmajor, hminor, hmicro]
  rw [Machine.targetInterpreter, Logged.outcome_bind, hexecutable, ok_bind]
  simp only [hname, Bool.not_true, Bool.false_eq_true, if_false]
  rw [Logged.outcome_bind, hquery, ok_bind]
  rfl

omit [Unicode] in
/-- A version is new enough from 3.14 on. -/
theorem isOlder_eq_false (version : ℤ × ℤ × ℤ) :
    isOlder version = false ↔ 3 < version.1 ∨ version.1 = 3 ∧ 14 ≤ version.2.1 := by
  rw [isOlder, decide_eq_false_iff_not]
  simp only [minimumTargetVersion]
  omega

omit [Unicode] in
/-- Every summary of the check says which version it is about. -/
theorem version_in_summary (interpreter : Interpreter) (version : ℤ × ℤ × ℤ) :
    rendered version <:+: (checkVersion interpreter version).summary := by
  unfold checkVersion
  simp only
  split_ifs
  · exact ⟨_, _, rfl⟩
  · exact ⟨_, _, (List.append_assoc _ _ _).symm⟩
  · exact (List.suffix_append _ _).isInfix

/-- **The checks on the target's Python are exact.**  Where the executable of the
target is named like an interpreter and prints its version, none of them fails exactly
where it is a CPython, no older than the interface and of the prober's own feature
release, and the version they speak of is the one it printed. -/
theorem target_python_exact {machine : Machine} {pid : ℤ} {executable implementation : PyStr}
    {version : ℤ × ℤ × ℤ} (prober : Prober)
    (hexecutable : (machine.processExecutable pid).outcome = .ok (some executable))
    (hname : looksLikeInterpreter executable = true) (hword : IsWord implementation)
    (hint : ∀ n ∈ [version.1, version.2.1, version.2.2], machine.int (Json.intText n) = some n)
    (hrun : machine.completed (versionCommand executable) =
      .exited 0 (printedVersion implementation version)) :
    ∃ checks, (machine.checkTargetPython prober pid).outcome = .ok checks ∧
      ((∀ check ∈ checks, check.status ≠ .fail) ↔
        implementation = py "cpython" ∧
          (3 < version.1 ∨ version.1 = 3 ∧ 14 ≤ version.2.1) ∧
          (version.1, version.2.1) = prober.versionInfo) ∧
      ∃ check ∈ checks, check.name = py "target_python_version" ∧
        rendered version <:+: check.summary := by
  have hinterpreter := outcome_targetInterpreter hexecutable hname hword hint hrun
  rw [Machine.checkTargetPython, Logged.outcome_bind, hinterpreter, ok_bind]
  refine ⟨_, rfl, ?_, _, List.mem_cons_self .., checkVersion_name _ _, version_in_summary _ _⟩
  have hfails := targetPython_fails prober { machine.still with
    targetInterpreter := fun _ => ⟨some executable, some implementation, some version, none⟩ } pid
  rw [← not_iff_not, ← isOlder_eq_false]
  simpa using hfails

/-- `int`, of the texts JSON has for integers, which the numbers of a version are. -/
def jsonInt (text : PyStr) : Option ℤ :=
  let _ := Json.wholeFloats
  match Json.readNumber text with
  | some (.int n, []) => some n
  | _ => none

omit [Unicode] in
/-- The text of a number is read back, as long as it may be. -/
theorem jsonInt_intText (n : ℤ) : jsonInt (Json.intText n) = some n := by
  let _ := Json.wholeFloats
  have hread := Json.readNumber_intText n (r := []) (by simp [Json.NumberEnd])
  rw [List.append_nil] at hread
  simp only [jsonInt, hread]

/-- A Linux machine where every process runs one interpreter, which prints what it is asked
for. -/
def interpreterMachine (implementation : PyStr) (version : ℤ × ℤ × ℤ) : Machine where
  platform := py "linux"
  geteuid := 1000
  readBytes _ := none
  owner _ := none
  readlink _ := some (py "/usr/bin/python3.14")
  completed _ := .exited 0 (printedVersion implementation version)
  int := jsonInt

omit [Unicode] in
/-- A target of the prober's feature release, with a patch release of its own: both checks
pass. -/
theorem target_python_exact_patch :
    letI := Unicode.fullwidth
    ∃ checks, ((interpreterMachine (py "cpython") (3, 14, 2)).checkTargetPython
        Cli.plainSystem.prober 7).outcome = .ok checks ∧
      (∀ check ∈ checks, check.status ≠ .fail) ∧
      ∃ check ∈ checks, check.name = py "target_python_version" ∧
        rendered (3, 14, 2) <:+: check.summary := by
  let _ := Unicode.fullwidth
  have hname : looksLikeInterpreter (py "/usr/bin/python3.14") = true := rfl
  have hspaces : ((py "cpython").all fun c => !Unicode.isspace c) = true := rfl
  have hword : IsWord (py "cpython") := ⟨by decide, by simpa using hspaces⟩
  have hexecutable : ((interpreterMachine (py "cpython") (3, 14, 2)).processExecutable 7).outcome =
      .ok (some (py "/usr/bin/python3.14")) := rfl
  obtain ⟨checks, hchecks, hpass, hsummary⟩ :=
    target_python_exact Cli.plainSystem.prober hexecutable hname hword
      (fun n _ => jsonInt_intText n) rfl
  exact ⟨checks, hchecks, hpass.2 ⟨rfl, by decide, rfl⟩, hsummary⟩

end Doctor
end Pidprobe
