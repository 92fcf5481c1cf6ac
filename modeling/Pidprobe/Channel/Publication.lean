/-
# A result file is complete, if its write was

The task of a script writes to a file beside the result file and renames it, so
that the prober finds either nothing or the whole envelope.  The write is one
`os.write` whose count nobody looks at: `atomic_publication` holds of every run
whose writes take all the bytes they are given, and `short_write_published` is a
run in which one does not.
-/

import Pidprobe.Channel.Provenance

namespace Pidprobe
namespace Protocol

open Function (update)

/-- What call `k` got from a result file is the whole text of the envelope its own
script produced. -/
def AtomicAt [FloatText] (w : World) (k : ℕ) : Prop :=
  ∀ channel s chunks, w.channel k = some channel → channel.kind = .tempfile →
    w.outcome k = some (.received s chunks) → ∃ v, w.scriptOf k = some s ∧
      w.produced s = some (Inject.encoded v) ∧ channel.kind.result chunks = .ok v.dumps

/-- `os.write` takes all the bytes it is given. The script writes once and does not look at
the count. -/
def TargetEvent.TakesAll {ε π : Type} : TargetEvent ε π → Prop
  | .write count => count = .all
  | _ => True

/-- The events of a run in which every write of a script takes all it is given. The prober's
events are unrestricted. -/
def Event.TakesAll {ε π : Type} : Event ε π → Prop
  | .target _ event => event.TakesAll
  | _ => True

/-- A file that was written holds all its task produced, and so does what a call
reads of a result file. -/
structure Whole (w : World) : Prop where
  written : ∀ s task, w.target s = .running task →
    (∃ fd, task.stage = .wrote fd) ∨ task.stage = .closed → task.data = some (w.mail.bytes s)
  published : ∀ s task, w.target s = .running task →
    w.mail.files task.spec.path = some s → task.data = some (w.mail.bytes s)
  reading : ∀ k channel s chunks, w.channel k = some channel → channel.kind = .tempfile →
    w.phase k = .reading s chunks → w.produced s = some (w.mail.bytes s)
  received : ∀ k channel s chunks, w.channel k = some channel → channel.kind = .tempfile →
    w.outcome k = some (.received s chunks) → w.produced s = some chunks.flatten

/-- Before the first step there is no file to be incomplete. -/
theorem Whole.init : Whole init := by
  constructor <;> simp [Protocol.init]

section

variable {w w' : World} {j k : ℕ} {s : PyStr} {task task' : Task}

/-! ## Steps of the calls -/

/-- What is read to the end of a whole file is whole. -/
theorem Whole.advance (ha : Addressed w) (h : Whole w) (hadv : Advances w w' k) : Whole w' := by
  have hproduced : ∀ s, w'.produced s = w.produced s := fun s => by
    rw [World.produced, World.produced, hadv.target]
  constructor
  case written =>
    rw [hadv.target, hadv.bytes]
    exact h.written
  case published =>
    intro s task ht hf
    rw [hadv.target] at ht
    rw [hadv.bytes]
    exact h.published s task ht (hadv.files _ s hf)
  case reading =>
    intro j channel s chunks hc hkind hj
    rw [hadv.channel] at hc
    rw [hproduced, hadv.bytes]
    rcases eq_or_ne j k with rfl | hne
    · rcases hadv.reading s chunks hj with ⟨channel', hc', -, hf⟩ | ⟨before, n, hk, -⟩
      · obtain rfl := Option.some.inj (hc.symm.trans hc')
        rcases hf with ⟨-, hf⟩ | ⟨hsocket, -⟩
        · obtain ⟨task, data, ht, -, ⟨hp, -⟩ | ⟨hp, -⟩⟩ := ha.file _ s hf
          · exact absurd hp.symm (tmpPath_ne_path _ _)
          · exact produced_eq ht (h.published s task ht (hp ▸ hf))
        · rw [hkind] at hsocket
          cases hsocket
      · exact h.reading j channel s before hc hkind hk
    · exact h.reading j channel s chunks hc hkind (hadv.others j hne ▸ hj)
  case received =>
    intro j channel s chunks hc hkind hj
    rw [hadv.channel] at hc
    rw [hproduced]
    rcases eq_or_ne j k with rfl | hne
    · rcases hadv.received s chunks hj with ho | ⟨hk, hlen⟩
      · exact h.received j channel s chunks hc hkind ho
      · rw [(ha.reading j s chunks hk).2.2.eq_of_length hlen]
        exact h.reading j channel s chunks hc hkind hk
    · rw [World.outcome, hadv.others j hne] at hj
      exact h.received j channel s chunks hc hkind hj

/-- A step that prepares a call writes no file. -/
theorem Whole.prepare (h : Whole w) (hprep : Prepares w w' k) : Whole w' := by
  have hrunning : ∀ s task, w'.target s = .running task → w.target s = .running task := by
    intro s task ht
    rcases hprep.target s with he | ⟨-, he⟩
    · rwa [← he]
    · rw [he] at ht
      cases ht
  have hproduced : ∀ s data, w.produced s = some data → w'.produced s = some data := by
    intro s data hd
    rcases hprep.target s with he | ⟨he, -⟩
    · rwa [World.produced, he]
    · simp [World.produced, he] at hd
  constructor
  case written =>
    intro s task ht
    rw [hprep.mail]
    exact h.written s task (hrunning s task ht)
  case published =>
    intro s task ht
    rw [hprep.mail]
    exact h.published s task (hrunning s task ht)
  case reading =>
    intro j channel s chunks hc hkind hj
    rcases eq_or_ne j k with rfl | hne
    · exact absurd hj (hprep.reading s chunks)
    · rw [hprep.mail]
      rw [hprep.channel j hne] at hc
      exact hproduced s _ (h.reading j channel s chunks hc hkind (hprep.others j hne ▸ hj))
  case received =>
    intro j channel s chunks hc hkind hj
    rcases eq_or_ne j k with rfl | hne
    · rw [hprep.outcome] at hj
      cases hj
    · rw [hprep.channel j hne] at hc
      rw [World.outcome, hprep.others j hne] at hj
      exact hproduced s _ (h.received j channel s chunks hc hkind hj)

/-- A step of the prober leaves the files of the target whole: a call reads them, and
never writes one. -/
theorem Whole.proberStep {event : ProberEvent} (hw : Wired w) (ha : Addressed w) (h : Whole w)
    (hstep : proberStep w k event = some w') : Whole w' := by
  rcases proberStep_prepares_or_advances hw hstep with hprep | hadv
  · exact h.prepare hprep
  · exact h.advance ha hadv

/-! ## Steps of the tasks -/

/-- A script that has not run has written no file, and reading it writes none. -/
theorem Whole.load (ha : Addressed w) (h : Whole w) (ht : w.target s = .pending) {t : Target}
    (hnew : t = .absent ∨ ∃ spec, t = .running ⟨spec, none, .start⟩) :
    Whole (w.setTarget s t w.mail) := by
  have hself : ∀ task, (w.setTarget s t w.mail).target s = .running task → task.stage = .start := by
    intro task hi
    rw [World.setTarget_self] at hi
    rcases hnew with rfl | ⟨spec, rfl⟩
    · cases hi
    · rw [← Target.running.inj hi]
  constructor
  case written =>
    intro i task hi hstage
    rcases eq_or_ne i s with rfl | hne
    · simp [hself task hi] at hstage
    · rw [World.setTarget_of_ne hne] at hi
      exact h.written i task hi hstage
  case published =>
    intro i task hi hf
    rcases eq_or_ne i s with rfl | hne
    · obtain ⟨task', data, ht', -⟩ := ha.file _ i hf
      rw [ht] at ht'
      cases ht'
    · rw [World.setTarget_of_ne hne] at hi
      exact h.published i task hi hf
  case reading =>
    intro k channel i chunks hc hkind hk
    have hd := h.reading k channel i chunks hc hkind hk
    have hne : i ≠ s := by
      rintro rfl
      simp [World.produced, ht] at hd
    rwa [World.produced, World.setTarget_of_ne hne]
  case received =>
    intro k channel i chunks hc hkind hk
    have hd := h.received k channel i chunks hc hkind hk
    have hne : i ≠ s := by
      rintro rfl
      simp [World.produced, ht] at hd
    rwa [World.produced, World.setTarget_of_ne hne]

/-- There is no result file before the task that makes it is over: the rename is its last
step. -/
theorem Addressed.no_result (ha : Addressed w) (ht : w.target s = .running task)
    (hstage : task.stage ≠ .ended) : w.mail.files task.spec.path ≠ some s := by
  intro hf
  obtain ⟨task', data, ht', -, ⟨hp, -⟩ | ⟨-, hended⟩⟩ := ha.file _ s hf
  · obtain rfl := Target.running.inj (ht.symm.trans ht')
    exact tmpPath_ne_self _ hp.symm
  · obtain rfl := Target.running.inj (ht.symm.trans ht')
    exact hstage hended

variable [FloatText] {ε π : Type} [PyException ε] [Serial ε π]

/-- A step of a task keeps its files whole, where a write takes everything: the temporary
file once it is written, the result file once it is there. -/
theorem taskStep_whole {event : TargetEvent ε π} {mail : Mail} (ha : Addressed w) (h : Whole w)
    (ht : w.target s = .running task) (hall : event.TakesAll)
    (hstep : TaskStep w s task event task' mail) :
    ((∃ fd, task'.stage = .wrote fd) ∨ task'.stage = .closed →
      task'.data = some (mail.bytes s)) ∧
    (mail.files task.spec.path = some s → task'.data = some (mail.bytes s)) := by
  have hnone := ha.no_result ht hstep.not_ended
  have hok : StageOk s task (w.mail.bytes s) := by
    have hok := ha.target s
    rwa [ht] at hok
  cases hstep with
  | opened =>
    refine ⟨by simp, fun hf => ?_⟩
    have hne : task.spec.path ≠ tmpPath task.spec.path := (tmpPath_ne_self _).symm
    rw [Mail.setFile_files, Function.update_of_ne hne] at hf
    exact absurd hf hnone
  | wrote hs hd hn =>
    rw [StageOk, hs] at hok
    obtain ⟨-, rfl, hempty⟩ := hok
    obtain rfl := hall
    obtain rfl := Option.some.inj hn
    refine ⟨fun _ => ?_, fun hf => absurd hf hnone⟩
    simp [hd, hempty]
  | @closed fd hs =>
    exact ⟨fun _ => h.written s task ht (Or.inl ⟨fd, hs⟩), fun hf => absurd hf hnone⟩
  | replaced hs => exact ⟨by simp, fun _ => h.written s task ht (Or.inr hs)⟩
  | _ => exact ⟨by simp, fun hf => absurd hf hnone⟩

omit [FloatText] in
/-- The task of a script whose result file a call reads is over, so what the call reads does
not change any more. -/
theorem ended_of_reading {channel : Channel} {chunks : List (List Byte)} (hw : Wired w)
    (ha : Addressed w) (hc : w.channel k = some channel) (hkind : channel.kind = .tempfile)
    (hk : w.phase k = .reading s chunks) :
    ∃ task, w.target s = .running task ∧ task.stage = .ended := by
  obtain ⟨hs, ⟨task, data, ht, -, hstage⟩, -⟩ := ha.reading k s chunks hk
  refine ⟨task, ht, hstage.resolve_right ?_⟩
  rintro ⟨rest, hrest⟩
  have hok := ha.target s
  rw [ht, TargetOk, StageOk, hrest] at hok
  obtain ⟨k', channel', ⟨hs', hc'⟩, hspec⟩ := hw.task s task ht
  obtain rfl := hw.scriptOf_inj hs hs'
  obtain rfl := Option.some.inj (hc.symm.trans hc')
  rw [hspec, Channel.spec, hkind] at hok
  cases hok.1

/-- A step of the target keeps the files whole, where a write takes everything. -/
theorem Whole.targetStep {event : TargetEvent ε π} {t : Target} {mail : Mail} (hw : Wired w)
    (ha : Addressed w) (h : Whole w) (hall : event.TakesAll)
    (hstep : targetStep w s event = some (t, mail)) : Whole (w.setTarget s t mail) := by
  rcases targetStep_cases hw ha hstep with ⟨ht, rfl, hnew⟩ | ⟨task, task', ht, rfl, htask, hm⟩
  · refine h.load ha ht (hnew.imp_right ?_)
    rintro ⟨script, -, rfl⟩
    exact ⟨script.spec, rfl⟩
  · obtain ⟨hwritten, hpublished⟩ := taskStep_whole ha h ht hall htask
    constructor
    · intro i task₁ hi hstage
      rw [World.setTarget_mail]
      rcases eq_or_ne i s with rfl | hne
      · obtain rfl := Target.running.inj ((w.setTarget_self ..).symm.trans hi)
        exact hwritten hstage
      · rw [World.setTarget_of_ne hne] at hi
        rw [hm.bytes i hne]
        exact h.written i task₁ hi hstage
    · intro i task₁ hi hf
      rw [World.setTarget_mail] at hf ⊢
      rcases eq_or_ne i s with rfl | hne
      · obtain rfl := Target.running.inj ((w.setTarget_self ..).symm.trans hi)
        rw [hm.spec] at hf
        exact hpublished hf
      · rw [World.setTarget_of_ne hne] at hi
        rw [hm.bytes i hne]
        exact h.published i task₁ hi (hm.files _ i hne hf)
    · intro k channel i chunks hc hkind hk
      obtain ⟨task₁, hi, hstage⟩ := ended_of_reading hw ha hc hkind hk
      have hne : i ≠ s := by
        rintro rfl
        obtain rfl := Target.running.inj (ht.symm.trans hi)
        exact htask.not_ended hstage
      rw [World.produced, World.setTarget_of_ne hne, World.setTarget_mail, hm.bytes i hne]
      exact h.reading k channel i chunks hc hkind hk
    · intro k channel i chunks hc hkind hk
      have hd := h.received k channel i chunks hc hkind hk
      rcases eq_or_ne i s with rfl | hne
      · rw [World.produced, ht] at hd
        exact produced_eq (w.setTarget_self ..) (data_some hm.data hd)
      · rwa [World.produced, World.setTarget_of_ne hne]

/-- Every step leaves what is published whole, as long as a write takes all it is given.
-/
theorem Whole.step {event : Event ε π} (hw : Wired w) (ha : Addressed w) (h : Whole w)
    (hall : event.TakesAll) (hstep : step w event = some w') : Whole w' := by
  cases event with
  | handOut directory =>
    obtain ⟨-, rfl⟩ := mkdtemp_eq_some.1 hstep
    exact { h with }
  | prober k event => exact h.proberStep hw ha hstep
  | target s event =>
    obtain ⟨⟨t, mail⟩, htarget, rfl⟩ := Option.map_eq_some_iff.1 hstep
    exact h.targetStep hw ha hall htarget

/-- Every run whose writes take all they are given keeps the files whole, in any order of
its steps. -/
theorem run_whole {events : List (Event ε π)} (hall : ∀ event ∈ events, event.TakesAll)
    (h : run step init events = some w) : Wired w ∧ Addressed w ∧ Encoded w ∧ Whole w := by
  refine run_invariant (I := fun w => Wired w ∧ Addressed w ∧ Encoded w ∧ Whole w)
    ?_ ⟨.init, .init, .init, .init⟩ hall h
  rintro w event w' ⟨hw, ha, he, hwhole⟩ hP hstep
  obtain ⟨hw', ha', he'⟩ := step_keeps hw ha he hstep
  exact ⟨hw', ha', he', hwhole.step hw ha hP hstep⟩

/-- **Atomic publication.**  In every run in which each `os.write` takes all the
bytes it is given, whatever the order of the steps, a call that gets an answer
from a result file gets the whole envelope its own script produced. -/
theorem atomic_publication {events : List (Event ε π)}
    (hall : ∀ event ∈ events, event.TakesAll) (h : run step init events = some w) (k : ℕ) :
    AtomicAt w k := by
  obtain ⟨-, ha, he, hwhole⟩ := run_whole hall h
  intro channel s chunks hc hkind ho
  obtain ⟨hs, -⟩ := ha.received k s chunks ho
  have hd := hwhole.received k channel s chunks hc hkind ho
  obtain ⟨ms, hms⟩ := he s _ hd
  refine ⟨.obj ms, hs, hms ▸ hd, ?_⟩
  rw [hkind, ChannelKind.result, hms, readText, Inject.decode_encoded]
  refine congrArg Except.ok (TextWrap.translateNewlines_eq_self ?_)
  rintro c hmem rfl
  exact absurd (Json.dumps_printable _ _ hmem) (by decide)

end

/-- The run of a late target, whose writes take all they are given: the second call reads
its own file, whole. -/
theorem atomic_publication_late_target :
    letI := Json.wholeFloats
    ∃ w, run step init lateTarget = some w ∧ AtomicAt w 1 := by
  let _ := Json.wholeFloats
  have hsome : (run step init lateTarget).isSome = true := by decide +kernel
  obtain ⟨w, hrun⟩ := Option.isSome_iff_exists.1 hsome
  have hall : ∀ event ∈ lateTarget, event.TakesAll := by
    simp [lateTarget, injected, writtenBack, readBack, cleanedUp, Event.TakesAll,
      TargetEvent.TakesAll]
  exact ⟨w, hrun, atomic_publication hall hrun 1⟩

/-- `os.write` takes one byte; the script closes and renames the file all the same, and the
call reads it. -/
def shortWrite : List (Event ExcData Json) :=
  injected 0 (py "/tmp/a") (py "/tmp/b") ++ writtenBack (scriptPath (py "/tmp/b")) (.part 1) ++
    readBack 0 1

/-- The call gets the first byte of the envelope: the renamed file is in place, but what is
in it is not whole. -/
theorem short_write_published :
    letI := Json.wholeFloats
    ∃ w, run step init shortWrite = some w ∧ ¬AtomicAt w 0 := by
  let _ := Json.wholeFloats
  have hseen : (run step init shortWrite).map (fun w =>
      (w.outcome 0, (w.channel 0).map (·.kind),
        (w.produced (scriptPath (py "/tmp/b"))).map (·.length))) =
      some (some (.received (scriptPath (py "/tmp/b")) [[Utf8.byte 123]]), some .tempfile,
        some 46) := by decide +kernel
  obtain ⟨w, hrun, hw⟩ := Option.map_eq_some_iff.1 hseen
  simp only [Prod.mk.injEq] at hw
  obtain ⟨ho, hchannel, hlen⟩ := hw
  obtain ⟨channel, hc, hkind⟩ := Option.map_eq_some_iff.1 hchannel
  refine ⟨w, hrun, fun hatomic => ?_⟩
  obtain ⟨v, -, hd, hresult⟩ := hatomic channel _ _ hc hkind ho
  have htext : ChannelKind.tempfile.result [[Utf8.byte 123]] = .ok [cp '\x7b'] := rfl
  rw [hkind, htext, Except.ok.injEq] at hresult
  have hbytes := Inject.encode_dumps v
  rw [← hresult] at hbytes
  rw [hd, Option.map_some, ← Option.some.inj hbytes] at hlen
  cases hlen

end Protocol
end Pidprobe
