/-
# Calls as requests

Any number of calls, one target, one file system, one set of connections, steps
in any order: what comes of it is what comes of that many separate requests, each
answered at most once (`calls_are_requests`).  A call asks when it injects its
script; the answer is `_pidprobe_data` of that script's task; and the call ends
with the answer where it has read all of it, and without one otherwise.
-/

import Pidprobe.Channel.Steps
import Pidprobe.Lib.Request

namespace Pidprobe
namespace Protocol

open Function (update)

/-! ## The request a call stands for -/

/-- The whole message, where all of it was read. A call that read a strict prefix of what
was produced has no message. -/
def Outcome.message (produced : PyStr → Option (List Byte)) : Outcome → Option (List Byte)
  | .received s chunks =>
    if produced s = some chunks.flatten then some chunks.flatten else none
  | _ => none

/-- The client's side of a phase: idle before the injection, waiting while `receive` runs,
ended with a message or without. -/
def Phase.client (produced : PyStr → Option (List Byte)) (p : Phase) :
    Request.Client (List Byte) :=
  match p.outcome with
  | some outcome => .ended (outcome.message produced)
  | none => if p.inFlight then .waiting else .idle

/-- The server's side of a script: it has been asked once `sys.remote_exec` gave it the
path, and has answered once `_pidprobe_data` is bound. -/
def Target.server : Target → Request.Server (List Byte)
  | .absent => .idle
  | .pending => .asked
  | .running task => match task.data with
    | none => .asked
    | some data => .answered data

/-- The target's side of call `k`: the server of the script it injected, or an idle one
before there is a script. -/
def World.server (w : World) (k : ℕ) : Request.Server (List Byte) :=
  (w.scriptOf k).elim .idle fun s => (w.target s).server

/-- Every call as a request: what the protocol means to its callers, who see one question
and at most one answer each. -/
def World.requests (w : World) (k : ℕ) : Request (List Byte) :=
  ⟨(w.phase k).client w.produced, w.server k⟩

section

variable {w w' : World} {j k : ℕ} {s : PyStr}

/-- Before the first step every request is one nobody has asked. -/
theorem requests_init : init.requests = fun _ => Request.init := rfl

/-- A script has answered with what it produced, once it has produced it; the write-back
behind that is not part of the request. -/
theorem server_eq_answered {data : List Byte} :
    (w.target s).server = .answered data ↔ w.produced s = some data := by
  rw [World.produced]
  rcases w.target s with _ | _ | task
  · simp [Target.server]
  · simp [Target.server]
  · rcases hd : task.data with _ | d
    · simp [Target.server, hd]
    · simp [Target.server, hd]

/-- The server of a request is the target of the script its call injected. -/
theorem server_of_scriptOf (h : w.scriptOf k = some s) : w.server k = (w.target s).server := by
  rw [World.server, h, Option.elim_some]

/-- A call whose phase, script and target stay is the same request. -/
theorem requests_congr (hphase : w'.phase k = w.phase k) (hscript : w'.scriptOf k = w.scriptOf k)
    (htarget : ∀ s, w.scriptOf k = some s → w'.target s = w.target s)
    (hproduced : ∀ s chunks, w.outcome k = some (.received s chunks) →
      w'.produced s = w.produced s) : w'.requests k = w.requests k := by
  have hclient : (w'.phase k).client w'.produced = (w.phase k).client w.produced := by
    rw [hphase, Phase.client, Phase.client]
    rcases ho : (w.phase k).outcome with _ | (⟨s, chunks⟩ | _ | _)
    · rfl
    · simp only [Outcome.message, hproduced s chunks ho]
    · rfl
    · rfl
  have hserver : w'.server k = w.server k := by
    rw [World.server, World.server, hscript]
    rcases hs : w.scriptOf k with _ | s
    · rfl
    · simp only [Option.elim_some, htarget s hs]
  rw [World.requests, World.requests, hclient, hserver]

/-! ## Steps of the calls -/

/-- A step of a call that is not the injection: the client goes on, and the
server does nothing. -/
theorem requests_of_phase (ha : Addressed w) (hserver : w'.server k = w.server k)
    (hproduced : w'.produced = w.produced) (hphase : PhaseStep (w.phase k) (w'.phase k))
    (hask : w'.phase k = .waiting → w.phase k ≠ .scripted) :
    w'.requests k = w.requests k ∨
      ∃ e, Request.step (w.requests k) e = some (w'.requests k) := by
  rw [World.requests, World.requests, hserver, hproduced]
  have hread := fun s chunks => ha.reading k s chunks
  generalize w.phase k = p, w'.phase k = q at hphase hask hread
  cases hphase with
  | retry | «open» | locate | script => exact .inl rfl
  | inject => exact absurd rfl (hask rfl)
  | poll hp hq =>
    refine .inl ?_
    rw [Phase.client, Phase.client, (Phase.inFlight_outcome hp).2, (Phase.inFlight_outcome hq).2,
      if_pos hp, if_pos hq]
  | @received s chunks =>
    refine .inr ?_
    obtain ⟨hs, -, -⟩ := hread s chunks rfl
    rw [server_of_scriptOf hs]
    by_cases hwhole : w.produced s = some chunks.flatten
    · refine ⟨.receive, ?_⟩
      simp [Phase.client, Phase.outcome, Phase.inFlight, Outcome.message, hwhole,
        server_eq_answered.2 hwhole, Request.step]
    · refine ⟨.giveUp, ?_⟩
      simp [Phase.client, Phase.outcome, Phase.inFlight, Outcome.message, hwhole, Request.step]
  | @gaveUp _ _ outcome hidle hp hq hlost =>
    refine .inr ⟨.giveUp, ?_⟩
    have hnone : outcome.message w.produced = none := by
      cases outcome with
      | received s chunks => exact absurd rfl (hlost s chunks)
      | timedOut | raised => rfl
    rw [Phase.client, Phase.client, hp, hq]
    simp only [hnone, Request.step]
    split_ifs <;> rfl
  | clean hp hq =>
    refine .inl ?_
    rw [Phase.client, Phase.client, hp, hq]

/-- The prober changes nothing of what the scripts have produced. -/
theorem produced_proberStep {event : ProberEvent} (hw : Wired w)
    (h : proberStep w k event = some w') : w'.produced = w.produced := by
  funext s
  rcases proberStep_prepares_or_advances hw h with hprep | hadv
  · rcases hprep.target s with ht | ⟨hs, ht⟩
    · rw [World.produced, World.produced, ht]
    · rw [World.produced, World.produced, ht, hs]
  · rw [World.produced, World.produced, hadv.target]

/-- A step of call `k` is a step of its request, or none: opening, writing and cleaning up
are invisible to the request. -/
theorem requests_callStep {event : ProberEvent} (hw : Wired w) (ha : Addressed w)
    (h : proberStep w k event = some w') :
    w'.requests k = w.requests k ∨
      ∃ e, Request.step (w.requests k) e = some (w'.requests k) := by
  have hproduced := produced_proberStep hw h
  have hcall := callStep_of_proberStep h
  have hphase := hcall.phase
  cases hcall with
  | @makeScriptDir directory hk hd =>
    -- the target has never heard of a script in a new directory
    have hfresh : w.target (scriptPath directory) = .absent := by
      have hnew : ∀ j, w.scriptOf j ≠ some (scriptPath directory) := by
        intro j hj
        obtain ⟨directory', hd', he⟩ := scriptOf_eq_some.1 hj
        obtain rfl := scriptPath_inj.1 he
        exact hd (hw.scriptDir_handed j _ hd')
      rcases ht : w.target (scriptPath directory) with _ | _ | task
      · rfl
      · obtain ⟨j, hj⟩ := hw.pending _ ht
        exact absurd hj (hnew j)
      · obtain ⟨j, -, ⟨hj, -⟩, -⟩ := hw.task _ _ ht
        exact absurd hj (hnew j)
    refine requests_of_phase ha ?_ hproduced hphase (by simp)
    have hold : w.scriptOf k = none := by
      rw [World.scriptOf, hw.opened k (.inr hk), Option.map_none]
    rw [World.server, World.server, hold]
    simp [World.scriptOf, hfresh, Target.server]
  | @remoteExec directory hk hd =>
    have hs : w.scriptOf k = some (scriptPath directory) := scriptOf_eq_some.2 ⟨_, hd, rfl⟩
    have habsent := hw.uninjected k _ (.inr hk) hs
    refine .inr ⟨.ask, ?_⟩
    have hserver : w.server k = .idle := by rw [server_of_scriptOf hs, habsent]; rfl
    have hclient : (w.phase k).client w.produced = .idle := by rw [hk]; rfl
    rw [World.requests, hclient, hserver]
    simp only [Request.step, Option.some.injEq]
    simp [World.requests, World.server, World.scriptOf, hd, Phase.client, Phase.outcome,
      Phase.inFlight, World.setPhase, Target.server]
  | openFails | openChannel | writeScript | read | timeout | abortOpened | abort |
    removeScriptDir | closeChannel | openResult | accept =>
    exact requests_of_phase ha rfl hproduced hphase (by simp [*])
  | endOfFile hk => exact requests_of_phase ha rfl hproduced hphase (by simp [hk])

/-- A step of call `k` leaves the other requests as they are, since no other phase, script
or task changes. -/
theorem requests_others {event : ProberEvent} (hw : Wired w) (h : proberStep w k event = some w')
    (hne : j ≠ k) : w'.requests j = w.requests j := by
  have hproduced := produced_proberStep hw h
  have hcall := callStep_of_proberStep h
  refine requests_congr (hcall.others hne) ?_ ?_ fun _ _ _ => by rw [hproduced]
  · cases hcall with
    | makeScriptDir =>
      rw [World.scriptOf, World.scriptOf]
      simp only [Function.update_of_ne hne]
    | _ => rfl
  · intro s hs
    cases hcall with
    | @remoteExec directory hk hd =>
      refine Function.update_of_ne ?_ _ _
      rintro rfl
      exact hne (hw.scriptOf_inj hs (scriptOf_eq_some.2 ⟨_, hd, rfl⟩))
    | _ => rfl

end

/-! ## Steps of the target -/

section Events

variable [FloatText] {ε π : Type} [PyException ε] [Serial ε π] {w w' : World} {k : ℕ} {s : PyStr}

/-- What a task has produced stays, whatever the target does next: `_pidprobe_data` is bound
once. -/
theorem produced_targetStep {event : TargetEvent ε π} {t : Target} {mail : Mail} (hw : Wired w)
    (ha : Addressed w) (h : targetStep w s event = some (t, mail)) {i : PyStr} {data : List Byte}
    (hd : w.produced i = some data) : (w.setTarget s t mail).produced i = some data := by
  rcases eq_or_ne i s with rfl | hne
  · rcases targetStep_cases hw ha h with ⟨hpending, -⟩ | ⟨task, task', ht, rfl, -, hm⟩
    · rw [World.produced, hpending] at hd
      cases hd
    · rw [World.produced, ht] at hd
      exact produced_eq (w.setTarget_self ..) (data_some hm.data hd)
  · rwa [World.produced, World.setTarget_of_ne hne]

/-- The server's side of a step of the target: nothing visible, or a script that was asked
answers, or is gone. -/
theorem server_targetStep {event : TargetEvent ε π} {t : Target} {mail : Mail} (hw : Wired w)
    (ha : Addressed w) (h : targetStep w s event = some (t, mail)) :
    t.server = (w.target s).server ∨ (w.target s).server = .asked ∧
      (t.server = .idle ∨ ∃ data, t.server = .answered data) := by
  rcases targetStep_cases hw ha h with ⟨ht, -, rfl | ⟨script, -, rfl⟩⟩ |
    ⟨task, task', ht, rfl, -, hm⟩
  · exact .inr ⟨by rw [ht]; rfl, .inl rfl⟩
  · exact .inl (by rw [ht]; rfl)
  · rcases hm.data with hd | ⟨hd, ms, hd'⟩
    · exact .inl (by rw [ht, Target.server, Target.server, hd])
    · have hasked : (w.target s).server = .asked := by rw [ht, Target.server, hd]
      have hanswered : (Target.running task').server = .answered (Inject.encoded (.obj ms)) := by
        rw [Target.server, hd']
      exact .inr ⟨hasked, .inr ⟨_, hanswered⟩⟩

/-- A step of the target is a step of one request, or none, also where the script belongs to
no call. -/
theorem requests_targetStep {event : TargetEvent ε π} {t : Target} {mail : Mail} (hw : Wired w)
    (ha : Addressed w) (h : targetStep w s event = some (t, mail)) :
    ∃ es, run (family Request.step) w.requests es = some (w.setTarget s t mail).requests := by
  obtain ⟨k, hk⟩ : ∃ k, w.scriptOf k = some s := by
    rcases targetStep_cases hw ha h with ⟨ht, -⟩ | ⟨task, -, ht, -⟩
    · exact hw.pending s ht
    · obtain ⟨k, channel, ⟨hk, -⟩, -⟩ := hw.task s task ht
      exact ⟨k, hk⟩
  have hreceived : ∀ j i chunks, w.outcome j = some (.received i chunks) →
      (w.setTarget s t mail).produced i = w.produced i := by
    intro j i chunks ho
    obtain ⟨-, data, hd, -⟩ := ha.received j i chunks ho
    rw [produced_targetStep hw ha h hd, hd]
  have hclient : ((w.setTarget s t mail).phase k).client (w.setTarget s t mail).produced =
      (w.phase k).client w.produced := by
    show (w.phase k).client _ = _
    rw [Phase.client, Phase.client]
    rcases ho : (w.phase k).outcome with _ | (⟨i, chunks⟩ | _ | _)
    · rfl
    · simp only [Outcome.message, hreceived k i chunks ho]
    · rfl
    · rfl
  have hserver : (w.setTarget s t mail).server k = t.server := by
    rw [server_of_scriptOf (w := w.setTarget s t mail) hk, World.setTarget_self]
  refine run_family_one (i := k) ?_ ?_
  · intro j hne
    refine requests_congr rfl rfl ?_ (hreceived j)
    intro i hi
    refine World.setTarget_of_ne ?_
    rintro rfl
    exact hne (hw.scriptOf_inj hi hk)
  · rw [World.requests, World.requests, hclient, hserver, server_of_scriptOf hk]
    rcases server_targetStep hw ha h with hs | ⟨hs, ht | ⟨data, ht⟩⟩
    · exact .inl (by rw [hs])
    · exact .inr ⟨.drop, by rw [hs, ht]; rfl⟩
    · exact .inr ⟨.answer data, by rw [hs, ht]; rfl⟩

/-- One step of the system is matched by the requests, in no step or in one. This is the
square of the simulation. -/
theorem requests_step {event : Event ε π} (hw : Wired w) (ha : Addressed w)
    (h : step w event = some w') :
    ∃ es, run (family Request.step) w.requests es = some w'.requests := by
  cases event with
  | handOut directory =>
    obtain ⟨-, rfl⟩ := mkdtemp_eq_some.1 h
    exact ⟨[], rfl⟩
  | prober k event =>
    exact run_family_one (fun j hne => requests_others hw h hne) (requests_callStep hw ha h)
  | target s event =>
    obtain ⟨⟨t, mail⟩, hstep, rfl⟩ := Option.map_eq_some_iff.1 h
    exact requests_targetStep hw ha hstep

/-- **The calls are requests**, step by step: the requests of a state move as a family of
independent one-shot requests does. -/
theorem requests_simulate :
    Simulation (step (ε := ε) (π := π)) (family Request.step) World.requests
      Kept where
  keeps _ _ _ hkept h := hkept.step h
  matched _ _ _ hkept h := requests_step hkept.wired hkept.addressed h

end Events

/-! ## What a call returns -/

variable [FloatText] [Unicode] {ε π : Type} [PyException ε] [Serial ε π]
  {message : PyStr → PyStr} {w w' : World}

/-- What there is behind an envelope a call returns: a finished call, its channel, and a
text that `parse_envelope` took. -/
theorem returned_eq_some {loads : PyStr → Except PyStr Json} {k : ℕ} {env : Envelope} :
    w.returned loads k = some env ↔ ∃ s chunks channel raw,
      w.phase k = .done (.received s chunks) ∧ w.channel k = some channel ∧
        channel.kind.result chunks = .ok raw ∧ parseEnvelope loads raw = .ok env := by
  constructor
  · intro h
    rw [World.returned] at h
    split at h
    · next s chunks channel hk hc =>
      rcases hr : channel.kind.result chunks with e | raw
      · rw [hr] at h
        cases h
      · rw [hr, ok_bind] at h
        rcases hp : parseEnvelope loads raw with e | env'
        · rw [hp] at h
          cases h
        · rw [hp] at h
          obtain rfl := Option.some.inj h
          exact ⟨s, chunks, channel, raw, hk, hc, hr, hp⟩
    · cases h
  · rintro ⟨s, chunks, channel, raw, hk, hc, hr, hp⟩
    rw [World.returned, hk, hc]
    simp only [hr, ok_bind, hp]
    rfl

/-- A call that returned an envelope ended, as a request, with its whole message. A part of
a message is no JSON document, so it would not have been returned. -/
theorem ended_of_returned (ha : Addressed w) (he : Encoded w) {k : ℕ} {env : Envelope}
    (h : w.returned (Json.loads message) k = some env) :
    ∃ data text, (w.requests k).client = .ended (some data) ∧ Utf8.decode data = some text ∧
      parseEnvelope (Json.loads message) text = .ok env := by
  obtain ⟨s, chunks, channel, raw, hk, -, hresult, hparse⟩ := returned_eq_some.1 h
  have ho : (w.phase k).outcome = some (.received s chunks) := by rw [hk]; rfl
  obtain ⟨-, data, hd, hpre⟩ := ha.received k s chunks ho
  obtain ⟨ms, rfl⟩ := he s data hd
  obtain ⟨hfront, hwhole⟩ := result_of_front hpre hresult
  obtain rfl := parseEnvelope_cut hfront hparse
  have hflat := hwhole rfl
  refine ⟨Inject.encoded (.obj ms), _, ?_, Inject.decode_encoded _, hparse⟩
  rw [World.requests, Phase.client, ho]
  simp only [Outcome.message, hflat, hd, if_true]

/-- **Calls are requests.**  In every interleaving of any number of calls with the
tasks of one target, the calls go through what that many separate requests go
through in some run of theirs, each asked and answered at most once; and a call
that returns an envelope has ended with the whole message its own request was
answered with. -/
theorem calls_are_requests {events : List (Event ε π)} (h : run step init events = some w) :
    (∃ requests, run (family Request.step) (fun _ => Request.init) requests = some w.requests) ∧
    ∀ k env, w.returned (Json.loads message) k = some env → ∃ data text,
      (w.requests k).client = .ended (some data) ∧ (w.requests k).server = .answered data ∧
        Utf8.decode data = some text ∧ parseEnvelope (Json.loads message) text = .ok env := by
  obtain ⟨-, ha, he⟩ := run_keeps h
  have hrequests := requests_simulate.run .init h
  rw [requests_init] at hrequests
  refine ⟨hrequests, fun k env hr => ?_⟩
  obtain ⟨requests, hrun⟩ := hrequests
  obtain ⟨data, text, hended, hdecode, hparse⟩ := ended_of_returned ha he hr
  exact ⟨data, text, hended, Request.received_own (run_family k hrun) data hended, hdecode, hparse⟩

omit [FloatText] [Unicode] in
/-- The run of a late target, read as two requests: one that timed out and one that was
answered. -/
theorem calls_are_requests_late_target :
    letI := Unicode.fullwidth
    letI := Json.wholeFloats
    let loads := Json.loads fun _ => py "Expecting value"
    ∃ w env, run step init lateTarget = some w ∧ w.returned loads 1 = some env ∧
      (∃ requests, run (family Request.step) (fun _ => Request.init) requests = some w.requests) ∧
      ∃ data text, (w.requests 1).client = .ended (some data) ∧
        (w.requests 1).server = .answered data ∧ Utf8.decode data = some text ∧
          parseEnvelope loads text = .ok env := by
  let _ := Unicode.fullwidth
  let _ := Json.wholeFloats
  intro loads
  have hreturned : ((run step init lateTarget).bind fun w => w.returned loads 1).isSome = true := by
    decide +kernel
  obtain ⟨env, henv⟩ := Option.isSome_iff_exists.1 hreturned
  obtain ⟨w, hrun, hw⟩ := Option.bind_eq_some_iff.1 henv
  obtain ⟨hrequests, hended⟩ := calls_are_requests hrun
  exact ⟨w, env, hrun, hw, hrequests, hended 1 env hw⟩

end Protocol
end Pidprobe
