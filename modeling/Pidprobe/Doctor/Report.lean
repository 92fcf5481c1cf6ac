/-
# The report in words

`render_text` of `_diagnosis.py`: what `pidprobe doctor` prints without `--json`.
Both forms are functions of the same facts (`Reported`).  That the columns and the
indentation lose none of them is `report_faithful`: two diagnoses, of any two
systems, print the same report exactly where they print the same document, as long
as the texts from outside have no line breaks in them.
-/

import Pidprobe.Doctor.Verdict
import Pidprobe.Lib.Blocks

namespace Pidprobe

/-- `status.value.upper()`. -/
def CheckStatus.upper : CheckStatus → PyStr
  | ok => py "OK"
  | warn => py "WARN"
  | fail => py "FAIL"
  | skipped => py "SKIPPED"

/-- `_LABEL_WIDTH`. -/
def labelWidth : ℕ := 8

/-- `_NAME_WIDTH`. -/
def nameWidth : ℕ := 22

/-- `_DETAIL_INDENT`. -/
def detailIndent : PyStr := List.replicate 12 (cp ' ')

/-- The line of a check: two blanks, the status and the name in columns, and the summary. -/
def Check.line (check : Check) : PyStr :=
  py "  " ++ (Blocks.ljust (cp ' ') labelWidth check.status.upper ++
    (Blocks.ljust (cp ' ') nameWidth check.name ++ check.summary))

/-- The line of a detail, indented further than that of a check. -/
def detailLine (entry : PyStr × PyStr) : PyStr :=
  detailIndent ++ (entry.1 ++ (py ": " ++ entry.2))

/-- The lines of a check: its own, and one for each detail it has. -/
def Check.lines (check : Check) : List PyStr := check.line :: check.details.map detailLine

namespace Diagnosis

/-- `warnings`. -/
def warnings (diagnosis : Diagnosis) : List Check := diagnosis.withStatus .warn

/-- `_headline`: which pid the checks are about, or that there is none. -/
def headline (diagnosis : Diagnosis) : PyStr :=
  match diagnosis.pid with
  | none => py "pidprobe doctor: checking this environment (no pid given)"
  | some pid => py "pidprobe doctor: checking this environment against pid " ++ Json.intText pid

/-- `_verdict`: whether attaching will work, and how many checks failed or warned. -/
def verdict (diagnosis : Diagnosis) : PyStr :=
  let target :=
    match diagnosis.pid with
    | none => py "a target"
    | some pid => py "pid " ++ Json.intText pid
  let warnings := diagnosis.warnings.length
  let plural := if warnings ≠ 1 then py "s" else []
  let suffix :=
    if warnings ≠ 0 then py " (" ++ Json.intText warnings ++ py " warning" ++ plural ++ py ")"
    else []
  let failures := diagnosis.failures.length
  if failures = 0 then py "nothing blocks attaching to " ++ target ++ suffix
  else
    Json.intText failures ++ py " " ++ (if failures = 1 then py "check" else py "checks") ++
      py " failed; attaching to " ++ target ++ py " will not work" ++ suffix

/-- The lines of the report: the headline, the checks, and the verdict, with a blank line on
either side of the checks. -/
def lines (diagnosis : Diagnosis) : List PyStr :=
  [diagnosis.headline, []] ++ diagnosis.checks.flatMap Check.lines ++ [[], diagnosis.verdict]

/-- `render_text`: the lines, each of them ended. -/
def renderText (diagnosis : Diagnosis) : PyStr := join [cp '\n'] diagnosis.lines ++ [cp '\n']

/-! ## What both forms are made of -/

end Diagnosis

/-- What is reported of a check: status, name, summary and details, in the report as in the
document. -/
def Check.reported (check : Check) : CheckStatus × PyStr × PyStr × List (PyStr × PyStr) :=
  (check.status, check.name, check.summary, check.details)

/-- The statuses are told apart by their values. -/
theorem CheckStatus.value_injective : Function.Injective CheckStatus.value := by
  intro s t h
  cases s <;> cases t <;> first | rfl | simp [CheckStatus.value] at h

/-- And by what the report prints of them. -/
theorem CheckStatus.upper_injective : Function.Injective CheckStatus.upper := by
  intro s t h
  cases s <;> cases t <;> first | rfl | simp [CheckStatus.upper] at h

namespace Diagnosis

variable {d d' : Diagnosis}

/-- How many checks came to a status can be read from what is reported. -/
theorem length_withStatus (d : Diagnosis) (status : CheckStatus) :
    (d.withStatus status).length =
      ((d.checks.map Check.reported).filter fun r => r.1 = status).length := by
  rw [List.filter_map, List.length_map]
  rfl

/-- The verdict depends on what is reported of the checks alone, and so it says nothing
new. -/
theorem isAttachable_eq (d : Diagnosis) : d.isAttachable =
    ((d.checks.map Check.reported).filter fun r => r.1 = .fail).isEmpty := by
  rw [List.filter_map, List.isEmpty_map]
  rfl

/-- An entry of `checks` in the document, from what is reported of the check. -/
def entry (reported : CheckStatus × PyStr × PyStr × List (PyStr × PyStr)) : Json :=
  .obj ([(py "name", .str reported.2.1), (py "status", .str reported.1.value),
    (py "summary", .str reported.2.2.1)] ++
    reported.2.2.2.map fun detail => (detail.1, .str detail.2))

/-- The entry of a check in the document tells everything that is reported of it. -/
theorem entry_injective : Function.Injective entry := by
  rintro ⟨status, name, summary, details⟩ ⟨status', name', summary', details'⟩ h
  have hdetail :
      Function.Injective fun detail : PyStr × PyStr => (detail.1, Json.str detail.2) := by
    rintro ⟨label, text⟩ ⟨label', text'⟩ h
    simpa using h
  simp only [entry, Json.obj.injEq, List.cons_append, List.nil_append, List.cons.injEq,
    Prod.mk.injEq, Json.str.injEq, true_and, (List.map_injective_iff.2 hdetail).eq_iff,
    CheckStatus.value_injective.eq_iff] at h
  obtain ⟨hname, hstatus, hsummary, hdetails⟩ := h
  rw [hname, hstatus, hsummary, hdetails]

/-- **The document is what is reported, and the pid**: two diagnoses have one document where
they agree on both. -/
theorem document_eq_iff : d.document = d'.document ↔
    d.pid = d'.pid ∧ d.checks.map Check.reported = d'.checks.map Check.reported := by
  have hchecks : ∀ d : Diagnosis, d.document =
      .obj [(py "pid", d.pid.elim .null .int), (py "attachable", .bool d.isAttachable),
        (py "checks", .arr ((d.checks.map Check.reported).map entry))] := fun d => by
    rw [document, List.map_map]
    rfl
  rw [hchecks, hchecks]
  constructor
  · intro h
    simp only [Json.obj.injEq, List.cons.injEq, Prod.mk.injEq, true_and, and_true, Json.arr.injEq,
      (List.map_injective_iff.2 entry_injective).eq_iff] at h
    obtain ⟨hpid, -, hreported⟩ := h
    refine ⟨?_, hreported⟩
    cases hp : d.pid <;> cases hp' : d'.pid <;> simp [hp, hp'] at hpid ⊢
    exact hpid
  · rintro ⟨hpid, hreported⟩
    rw [hpid, hreported, isAttachable_eq, isAttachable_eq, hreported]

end Diagnosis

/-! ## The lines of a check -/

/-- A check whose texts have no line breaks, and whose name is a column: a word of at most
`nameWidth` characters. -/
structure Check.Plain (check : Check) : Prop where
  name : cp '\n' ∉ check.name ∧ cp ' ' ∉ check.name ∧ check.name.length ≤ nameWidth
  summary : cp '\n' ∉ check.summary
  details : ∀ detail ∈ check.details, cp '\n' ∉ detail.2

/-- The labels of the details, in the order of the report. -/
def detailLabels : List PyStr := pyLines ["cause", "confirm", "fix"]

/-- The details of a check have the labels the report knows. -/
theorem label_mem {check : Check} {detail : PyStr × PyStr} (h : detail ∈ check.details) :
    detail.1 ∈ detailLabels := by
  have hmem := (List.mem_filter.1 h).1
  simp only [List.mem_cons, List.not_mem_nil, or_false] at hmem
  rcases hmem with rfl | rfl | rfl <;> simp [detailLabels, pyLines]

/-- Whether a line is that of a check: the lines of the details are indented further. -/
def isCheckLine (line : PyStr) : Bool := !detailIndent.isPrefixOf line

/-- The lines of a check begin with one that says so, and no other of them does; so a report
can be cut into its checks. -/
theorem isBlock_lines (check : Check) : Blocks.IsBlock isCheckLine check.lines := by
  refine ⟨check.line, check.details.map detailLine, rfl, ?_, ?_⟩
  · rw [isCheckLine, Check.line]
    cases check.status <;> rfl
  · intro line hline
    obtain ⟨detail, -, rfl⟩ := List.mem_map.1 hline
    rw [isCheckLine, detailLine, Bool.not_eq_false', List.isPrefixOf_iff_prefix]
    exact List.prefix_append ..

/-- A label ends at the colon, as no label has one in it: the line of a detail says label
and text. -/
theorem detailLine_inj {detail detail' : PyStr × PyStr} (h : detail.1 ∈ detailLabels)
    (h' : detail'.1 ∈ detailLabels) (heq : detailLine detail = detailLine detail') :
    detail = detail' := by
  have hcolon : ∀ label ∈ detailLabels, cp ':' ∉ label := by decide
  have hread : ∀ {d : PyStr × PyStr}, d.1 ∈ detailLabels →
      Records.partition (cp ':') (d.1 ++ (py ": " ++ d.2)) = (d.1, cp ' ' :: d.2) := fun hd =>
    Records.partition_append (hcolon _ hd) _
  have hparts := (hread h).symm.trans ((congrArg _ (List.append_cancel_left heq)).trans (hread h'))
  simp only [Prod.mk.injEq, List.cons.injEq, true_and] at hparts
  exact Prod.ext hparts.1 hparts.2

/-- **The lines of a check say what is reported of it**: its columns, and its details one by
one. -/
theorem Check.reported_of_lines {check check' : Check} (h : check.Plain) (h' : check'.Plain)
    (heq : check.lines = check'.lines) : check.reported = check'.reported := by
  obtain ⟨hline, hdetails⟩ := List.cons.inj heq
  have hupper : ∀ s : CheckStatus, s.upper.length ≤ labelWidth ∧ cp ' ' ∉ s.upper := by
    intro s
    cases s <;> decide
  obtain ⟨hstatus, hrest⟩ := Blocks.ljust_append_inj (hupper _).1 (hupper _).1 (hupper _).2
    (hupper _).2 (List.append_cancel_left hline)
  obtain ⟨hname, hsummary⟩ := Blocks.ljust_append_inj h.name.2.2 h'.name.2.2 h.name.2.1 h'.name.2.1
    hrest
  have hdetail : check.details.map id = check'.details.map id :=
    Blocks.map_eq_of_map_eq (fun _ hx _ hy => detailLine_inj (label_mem hx) (label_mem hy)) hdetails
  rw [List.map_id, List.map_id] at hdetail
  rw [Check.reported, Check.reported, CheckStatus.upper_injective hstatus, hname, hsummary, hdetail]

/-- No line of a plain check has a line break in it. -/
theorem Check.notMem_lines {check : Check} (h : check.Plain) :
    ∀ line ∈ check.lines, cp '\n' ∉ line := by
  have hupper : ∀ s : CheckStatus, cp '\n' ∉ s.upper := by
    intro s
    cases s <;> decide
  have hcolumn : ∀ {width : ℕ} {text : PyStr}, cp '\n' ∉ text →
      cp '\n' ∉ Blocks.ljust (cp ' ') width text := fun htext hmem =>
    (Blocks.mem_ljust hmem).elim htext (by simp)
  rw [Check.lines, List.forall_mem_cons]
  constructor
  · simp only [Check.line, List.mem_append, not_or]
    exact ⟨by decide, hcolumn (hupper _), hcolumn h.name.1, h.summary⟩
  · intro line hline
    obtain ⟨detail, hdetail, rfl⟩ := List.mem_map.1 hline
    have hlabel : ∀ label ∈ detailLabels, cp '\n' ∉ label := by decide
    simp only [detailLine, List.mem_append, not_or]
    exact ⟨by decide, hlabel _ (label_mem hdetail), by decide, h.details _ hdetail⟩

/-! ## The report -/

namespace Diagnosis

variable {d d' : Diagnosis}

/-- **The report is what is reported, and the pid**: nothing else of a diagnosis is shown. -/
theorem lines_of_reported (hpid : d.pid = d'.pid)
    (hreported : d.checks.map Check.reported = d'.checks.map Check.reported) :
    d.lines = d'.lines := by
  have hlines : ∀ d : Diagnosis, d.checks.flatMap Check.lines =
      (d.checks.map Check.reported).flatMap fun r =>
        (py "  " ++ (Blocks.ljust (cp ' ') labelWidth r.1.upper ++
          (Blocks.ljust (cp ' ') nameWidth r.2.1 ++ r.2.2.1))) :: r.2.2.2.map detailLine :=
    fun d => by
      rw [List.flatMap_map]
      rfl
  have hverdict : d.verdict = d'.verdict := by
    rw [verdict, verdict, warnings, warnings, failures, failures, length_withStatus,
      length_withStatus, length_withStatus, length_withStatus, hpid, hreported]
  rw [lines, lines, headline, headline, hlines, hlines, hpid, hreported, hverdict]

/-- The headline names the pid: none, or a number that can be read back. -/
theorem pid_of_headline (h : d.headline = d'.headline) : d.pid = d'.pid := by
  have hnone : py "pidprobe doctor: checking this environment (no pid given)" =
      py "pidprobe doctor: checking this environment " ++ cp '(' :: py "no pid given)" := rfl
  have hsome : py "pidprobe doctor: checking this environment against pid " =
      py "pidprobe doctor: checking this environment " ++ cp 'a' :: py "gainst pid " := rfl
  rw [headline, headline] at h
  rcases hp : d.pid with _ | p <;> rcases hp' : d'.pid with _ | p' <;> rw [hp, hp'] at h <;>
    simp only at h
  · rw [hnone, hsome, List.append_assoc, List.append_cancel_left_eq] at h
    simp at h
  · rw [hnone, hsome, List.append_assoc, List.append_cancel_left_eq] at h
    simp at h
  · rw [Doctor.intText_inj (List.append_cancel_left h)]

/-- **The lines of a report say what is reported, and the pid**, when no text in it has a
line break. -/
theorem reported_of_lines (h : ∀ check ∈ d.checks, check.Plain)
    (h' : ∀ check ∈ d'.checks, check.Plain) (heq : d.lines = d'.lines) :
    d.pid = d'.pid ∧ d.checks.map Check.reported = d'.checks.map Check.reported := by
  obtain ⟨hfront, -⟩ := List.append_inj' heq rfl
  obtain ⟨hhead, hblocks⟩ := List.append_inj hfront rfl
  constructor
  · exact pid_of_headline (List.cons.inj hhead).1
  · refine Blocks.map_eq_of_map_eq (fun x hx y hy => ?_) (Blocks.map_eq_of_flatMap_eq
      (fun x _ => isBlock_lines x) (fun y _ => isBlock_lines y) hblocks)
    exact Check.reported_of_lines (h x hx) (h' y hy)

/-- No line of a plain report has a line break in it. -/
theorem notMem_lines (h : ∀ check ∈ d.checks, check.Plain) :
    ∀ line ∈ d.lines, cp '\n' ∉ line := by
  have hnumber : ∀ n, cp '\n' ∉ Json.intText n := fun n hmem =>
    absurd (Json.intText_number n _ hmem) (by decide)
  have hheadline : cp '\n' ∉ d.headline := by
    rw [headline]
    split <;> simp [mem_py, hnumber]
  have hverdict : cp '\n' ∉ d.verdict := by
    unfold verdict
    rcases d.pid with _ | p <;> simp only <;> split_ifs <;> simp [mem_py, hnumber]
  rw [lines, List.forall_mem_append, List.forall_mem_append]
  refine ⟨⟨?_, ?_⟩, ?_⟩
  · simpa using hheadline
  · intro line hline
    obtain ⟨check, hcheck, hline⟩ := List.mem_flatMap.1 hline
    exact Check.notMem_lines (h check hcheck) line hline
  · simpa using hverdict

/-- **The report loses nothing**: two plain diagnoses have one text where they have one
document. -/
theorem renderText_eq_iff (h : ∀ check ∈ d.checks, check.Plain)
    (h' : ∀ check ∈ d'.checks, check.Plain) :
    d.renderText = d'.renderText ↔ d.document = d'.document := by
  rw [document_eq_iff]
  constructor
  · intro heq
    have hjoin := List.append_cancel_right heq
    have hsplit : ∀ {d : Diagnosis}, (∀ check ∈ d.checks, check.Plain) →
        (join [cp '\n'] d.lines).splitOn (cp '\n') = d.lines := fun h =>
      List.splitOn_intercalate _ (notMem_lines h) (by simp [lines])
    exact reported_of_lines h h' ((hsplit h).symm.trans ((congrArg _ hjoin).trans (hsplit h')))
  · rintro ⟨hpid, hreported⟩
    rw [renderText, renderText, lines_of_reported hpid hreported]

end Diagnosis

namespace Doctor

/-! ## The checks that are reported -/

/-- The names of the checks, each of which `diagnose` uses at most once. -/
def checkNames : List PyStr :=
  pyLines ["prober_remote_debug", "return_channel", "collector_plugins", "ptrace_scope",
    "task_for_pid", "target_process", "target_owner", "pid_namespace", "target_python",
    "target_python_version", "target_python_match", "target_remote_debug"]

/-- Each name is a column: a word that fits into `nameWidth`. -/
theorem column_of_mem : ∀ name ∈ checkNames,
    cp '\n' ∉ name ∧ cp ' ' ∉ name ∧ name.length ≤ nameWidth := by decide

variable [Unicode] {system system' : System}
  {listed listed' : Logged Registry.Record Raised (List Collector)}
  {kill kill' : ℤ → Option Cause} {pid pid' : Option ℤ} {d d' : Diagnosis}

omit [Unicode] in
/-- The check on the return channel goes by one name, whatever it finds. -/
theorem name_returnChannel {check : Check} (h : checkReturnChannel system = .ok check) :
    check.name = py "return_channel" := by
  unfold checkReturnChannel tempfileChannelCheck at h
  split at h
  · exact Except.ok.inj h ▸ rfl
  · split_ifs at h
    split at h
    · exact Except.ok.inj h ▸ rfl
    · split_ifs at h
      exact Except.ok.inj h ▸ rfl

omit [Unicode] in
/-- So does the check on the process. -/
theorem name_targetProcess {killed : Option Cause} {p : ℤ} {check : Check}
    (h : checkTargetProcess killed p = .ok check) : check.name = py "target_process" := by
  rcases killed with _ | exc
  · exact Except.ok.inj h ▸ rfl
  · rw [checkTargetProcess] at h
    split_ifs at h <;> exact Except.ok.inj h ▸ rfl

omit [Unicode] in
/-- The checks on the target's Python go by the names of the list. -/
theorem name_targetPython (prober : Prober) (host : Host) (p : ℤ) :
    ∀ check ∈ checkTargetPython prober host p, check.name ∈ checkNames := by
  unfold checkTargetPython
  simp only
  split
  · exact List.forall_mem_singleton.2 (by simp [unknownTargetPython, checkNames, pyLines])
  · have hmatch : ∀ interpreter version,
        (checkMatchesProber prober interpreter version).name = py "target_python_match" := by
      intro interpreter version
      unfold checkMatchesProber
      simp only
      split_ifs <;> rfl
    simp [checkVersion_name, hmatch, checkNames, pyLines]

/-- Every check of a diagnosis has one of the names, so its line has its columns. -/
theorem name_mem (h : diagnose system listed kill pid = .ok d) :
    ∀ check ∈ d.checks, check.name ∈ checkNames := by
  obtain ⟨returnChannel, hchannel, h⟩ := bind_eq_ok.1 h
  obtain ⟨collectors, -, h⟩ := bind_eq_ok.1 h
  have hprober : (checkProberRemoteDebug system.prober).name = py "prober_remote_debug" := by
    unfold checkProberRemoteDebug
    simp only
    split_ifs <;> rfl
  have hplugins : (checkCollectorPlugins collectors listed.log).name = py "collector_plugins" := by
    unfold checkCollectorPlugins
    simp only
    split_ifs <;> rfl
  have hscope : (checkPtraceScope system.host).name = py "ptrace_scope" := by
    unfold checkPtraceScope
    simp only
    split_ifs
    · rfl
    · split
      · rfl
      · split_ifs <;> rfl
  have htask : (checkTaskForPid system.host).name = py "task_for_pid" := by
    unfold checkTaskForPid
    simp only
    split_ifs <;> rfl
  have henvironment : ∀ check ∈ [checkProberRemoteDebug system.prober, returnChannel,
      checkCollectorPlugins collectors listed.log, checkPtraceScope system.host,
      checkTaskForPid system.host], check.name ∈ checkNames := by
    have hreturn := name_returnChannel (mapError_eq_ok.1 hchannel)
    simp [hprober, hreturn, hplugins, hscope, htask, checkNames, pyLines]
  cases pid with
  | none =>
    obtain rfl := Except.ok.inj h
    exact henvironment
  | some p =>
    obtain ⟨targetProcess, hprocess, h⟩ := bind_eq_ok.1 h
    obtain rfl := Except.ok.inj h
    have howner : (checkTargetOwner system.host p).name = py "target_owner" := by
      unfold checkTargetOwner
      simp only
      split
      · rfl
      · split_ifs <;> rfl
    have hnamespace : (checkPidNamespace system.host p).name = py "pid_namespace" := by
      unfold checkPidNamespace
      simp only
      split_ifs
      · rfl
      · split
        · split_ifs <;> rfl
        · rfl
    have hdebug : (checkTargetRemoteDebug system.host p).name = py "target_remote_debug" := by
      unfold checkTargetRemoteDebug
      simp only
      split_ifs
      · rfl
      · split
        · rfl
        · split <;> rfl
    have htarget : ∀ check ∈ [targetProcess, checkTargetOwner system.host p,
        checkPidNamespace system.host p], check.name ∈ checkNames := by
      have hkill := name_targetProcess (mapError_eq_ok.1 hprocess)
      simp [hkill, howner, hnamespace, checkNames, pyLines]
    rw [List.forall_mem_append, List.forall_mem_append, List.forall_mem_append]
    exact ⟨⟨⟨henvironment, htarget⟩, name_targetPython _ _ _⟩,
      List.forall_mem_singleton.2 (by simp [hdebug, checkNames, pyLines])⟩

/-- The texts of a diagnosis have no line breaks in them; only those that come from outside
could. -/
def OneLine (d : Diagnosis) : Prop :=
  ∀ check ∈ d.checks, cp '\n' ∉ check.summary ∧ ∀ detail ∈ check.details, cp '\n' ∉ detail.2

instance : DecidablePred OneLine := fun d =>
  inferInstanceAs (Decidable (∀ check ∈ d.checks,
    cp '\n' ∉ check.summary ∧ ∀ detail ∈ check.details, cp '\n' ∉ detail.2))

/-- **The report in words says what the document says.**  Two diagnoses, of any two
systems and pids, print the same report exactly where they print the same document,
as long as their texts have no line breaks. -/
theorem report_faithful (h : diagnose system listed kill pid = .ok d)
    (h' : diagnose system' listed' kill' pid' = .ok d') (hd : OneLine d) (hd' : OneLine d') :
    d.renderText = d'.renderText ↔ d.document = d'.document := by
  refine Diagnosis.renderText_eq_iff (fun check hcheck => ?_) (fun check hcheck => ?_)
  · exact ⟨column_of_mem _ (name_mem h check hcheck), (hd check hcheck).1, (hd check hcheck).2⟩
  · exact ⟨column_of_mem _ (name_mem h' check hcheck), (hd' check hcheck).1, (hd' check hcheck).2⟩

/-- Discovery that finds nothing, and logs nothing. -/
def noneListed : Logged Registry.Record Raised (List Collector) := ⟨.ok [], []⟩

omit [Unicode] in
/-- A report about a pid and one about none differ, and so do their documents. -/
theorem report_faithful_pid :
    letI := Unicode.fullwidth
    ∃ d d', diagnose Cli.plainSystem noneListed (fun _ => none) none = .ok d ∧
      diagnose Cli.plainSystem noneListed (fun _ => none) (some 7) = .ok d' ∧
      (d.renderText = d'.renderText ↔ d.document = d'.document) := by
  let _ := Unicode.fullwidth
  have h : diagnose Cli.plainSystem noneListed (fun _ => none) none = .ok _ := rfl
  have h' : diagnose Cli.plainSystem noneListed (fun _ => none) (some 7) = .ok _ := rfl
  exact ⟨_, _, h, h', report_faithful h h' (by decide +kernel) (by decide +kernel)⟩

end Doctor
end Pidprobe
