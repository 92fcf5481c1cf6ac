/-
# Checks and diagnoses

`_diagnosis.py`: the checks `pidprobe doctor` reports, and what they add up to.
`Check.__post_init__` refuses a warning or a failure without a cause, a command
that confirms it and a fix; here that is a field of `Check`.
-/

import Pidprobe.Errors

namespace Pidprobe

/-- Outcome of one diagnostic check (`CheckStatus`). -/
inductive CheckStatus
  | ok
  | warn
  | fail
  | skipped
  deriving DecidableEq

namespace CheckStatus

/-- The value of a status. -/
def value : CheckStatus → PyStr
  | ok => py "ok"
  | warn => py "warn"
  | fail => py "fail"
  | skipped => py "skipped"

/-- `status in _EXPLAINED`: a warning and a failure owe the reader a cause, a confirmation
and a fix. -/
def isExplained : CheckStatus → Bool
  | warn | fail => true
  | ok | skipped => false

end CheckStatus

/-- A literal is empty only where it has no characters. -/
@[simp] theorem py_eq_nil {s : String} : py s = [] ↔ s = "" := py_inj (t := "")

namespace CheckStatus

/-- A check that passes owes no details, so the defaults of `Check` will do. -/
theorem explained_ok : ok.isExplained = true → ([] : PyStr) ≠ [] ∧ ([] : PyStr) ≠ [] ∧
    ([] : PyStr) ≠ [] := nofun

/-- Neither does one that was skipped: it may give a confirmation, and need not. -/
theorem explained_skipped : skipped.isExplained = true → ([] : PyStr) ≠ [] ∧ ([] : PyStr) ≠ [] ∧
    ([] : PyStr) ≠ [] := nofun

end CheckStatus

/-- One diagnostic check (`Check`). That a warning or failure explains itself is what
`__post_init__` checks, and here a field. -/
structure Check where
  name : PyStr
  status : CheckStatus
  summary : PyStr
  cause : PyStr := []
  confirm : PyStr := []
  fix : PyStr := []
  explained : status.isExplained = true → cause ≠ [] ∧ confirm ≠ [] ∧ fix ≠ [] := by
    first
    | exact CheckStatus.explained_ok
    | exact CheckStatus.explained_skipped
    | simp +zetaDelta [CheckStatus.isExplained]

/-- `details`: the labelled texts that are not empty, in the order in which the report shows
them. -/
def Check.details (check : Check) : List (PyStr × PyStr) :=
  [(py "cause", check.cause), (py "confirm", check.confirm), (py "fix", check.fix)].filter
    fun entry => entry.2 ≠ []

/-- Every check `pidprobe doctor` ran (`Diagnosis`), against a pid or against none, in the
order in which they ran. -/
structure Diagnosis where
  pid : Option ℤ
  checks : List Check

namespace Diagnosis

/-- `_with_status`. -/
def withStatus (diagnosis : Diagnosis) (status : CheckStatus) : List Check :=
  diagnosis.checks.filter fun check => check.status = status

/-- `failures`. -/
def failures (diagnosis : Diagnosis) : List Check := diagnosis.withStatus .fail

/-- `is_attachable`: no check failed. A warning or a skipped check stands in nobody's way. -/
def isAttachable (diagnosis : Diagnosis) : Bool := diagnosis.failures.isEmpty

/-- `as_document`: the pid or `null`, the verdict, and for each check its name, status and
summary with the details it has. -/
def document (diagnosis : Diagnosis) : Json :=
  .obj [(py "pid", diagnosis.pid.elim .null .int), (py "attachable", .bool diagnosis.isAttachable),
    (py "checks", .arr (diagnosis.checks.map fun check =>
      .obj ([(py "name", .str check.name), (py "status", .str check.status.value),
        (py "summary", .str check.summary)] ++
        check.details.map fun entry => (entry.1, .str entry.2))))]

/-- A target can be attached to where no check failed. -/
theorem isAttachable_iff {diagnosis : Diagnosis} :
    diagnosis.isAttachable = true ↔ ∀ check ∈ diagnosis.checks, check.status ≠ .fail := by
  rw [isAttachable, List.isEmpty_iff, failures, withStatus, List.filter_eq_nil_iff]
  simp

end Diagnosis

/-- **Bad news comes with a remedy**: a warning or a failure is reported with all
three details. -/
theorem Check.details_of_explained {check : Check} (h : check.status.isExplained = true) :
    check.details.map Prod.fst = [py "cause", py "confirm", py "fix"] := by
  obtain ⟨hcause, hconfirm, hfix⟩ := check.explained h
  simp [details, hcause, hconfirm, hfix]

/-- A target that cannot be attached to has a check that failed, and the check has all
three details. -/
theorem Diagnosis.exists_failure {diagnosis : Diagnosis} (h : ¬diagnosis.isAttachable = true) :
    ∃ check ∈ diagnosis.failures,
      check.details.map Prod.fst = [py "cause", py "confirm", py "fix"] := by
  rw [isAttachable, List.isEmpty_iff] at h
  obtain ⟨check, hcheck⟩ := List.exists_mem_of_ne_nil _ h
  have hfails : check.status = .fail := of_decide_eq_true (List.mem_filter.1 hcheck).2
  exact ⟨check, hcheck, check.details_of_explained (hfails ▸ rfl)⟩

end Pidprobe
