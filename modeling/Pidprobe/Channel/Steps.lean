/-
# The steps of a call, one by one

`CallStep` says what each event of a call needs and what it changes, guards
included.  `PhaseStep` is the order of the phases in it: a call prepares, asks,
waits, ends and cleans up, and never goes back.
-/

import Pidprobe.Channel.Provenance

namespace Pidprobe
namespace Protocol

open Function (update)

/-- `receive` is running: the call waits for its answer or reads it. Between injection and
cleaning up, a call is nowhere else. -/
def Phase.inFlight : Phase → Bool
  | .waiting | .reading _ _ => true
  | _ => false

/-- The call has a script directory that is not removed yet, which its `finally` block will
have to remove. -/
def Phase.hasScriptDir : Phase → Bool
  | .located | .scripted | .waiting | .reading _ _ | .leaving _ => true
  | _ => false

/-- What each event of call `k` needs and does, with the state behind it written out. Every
invariant below is a case analysis over this. -/
inductive CallStep (w : World) (k : ℕ) : ProberEvent → World → Prop
  | openFails {directory : PyStr} (hk : w.phase k = .idle) (hd : directory ∉ w.handed) :
      CallStep w k (.openFails directory) { w with
        handed := directory :: w.handed
        dirs := directory :: w.dirs }
  | openChannel {kind : ChannelKind} {directory : PyStr} {timeoutSeconds : ℚ}
      (hk : w.phase k = .idle) (hd : directory ∉ w.handed) :
      CallStep w k (.openChannel kind directory timeoutSeconds) { w with
        handed := directory :: w.handed
        dirs := directory :: w.dirs
        phase := update w.phase k .opened
        channel := update w.channel k (some ⟨kind, directory, timeoutSeconds⟩)
        listening := if kind = .unixSocket then inDir directory kind.filename :: w.listening
          else w.listening }
  | makeScriptDir {directory : PyStr} (hk : w.phase k = .opened) (hd : directory ∉ w.handed) :
      CallStep w k (.makeScriptDir directory) { w with
        handed := directory :: w.handed
        dirs := directory :: w.dirs
        phase := update w.phase k .located
        scriptDir := update w.scriptDir k (some directory) }
  | writeScript {source directory : PyStr} {channel : Channel} (hk : w.phase k = .located)
      (hc : w.channel k = some channel) (hd : w.scriptDir k = some directory) :
      CallStep w k (.writeScript source) { w.setPhase k .scripted with
        scripts := update w.scripts (scriptPath directory) (some ⟨source, channel.spec⟩) }
  | remoteExec {directory : PyStr} (hk : w.phase k = .scripted)
      (hd : w.scriptDir k = some directory) :
      CallStep w k .remoteExec { w.setPhase k .waiting with
        target := update w.target (scriptPath directory) .pending }
  | openResult {channel : Channel} {origin : PyStr} (hk : w.phase k = .waiting)
      (hc : w.channel k = some channel) (hkind : channel.kind = .tempfile)
      (hf : w.mail.files channel.path = some origin) :
      CallStep w k .openResult (w.setPhase k (.reading origin []))
  | accept {s : PyStr} {channel : Channel} {conn : Conn} (hk : w.phase k = .waiting)
      (hc : w.channel k = some channel) (hs : w.mail.conns s = some conn)
      (hconn : channel.kind = .unixSocket ∧ conn.path = channel.path ∧ conn.accepted = false) :
      CallStep w k (.accept s) { w.setPhase k (.reading s []) with
        mail := w.mail.setConn s (some { conn with accepted := true }) }
  | read {n : ℕ} {origin : PyStr} {chunks : List (List Byte)}
      (hk : w.phase k = .reading origin chunks)
      (hn : 1 ≤ n ∧ n ≤ ((w.mail.bytes origin).drop chunks.flatten.length).length) :
      CallStep w k (.read n) (w.setPhase k (.reading origin
        (chunks ++ [((w.mail.bytes origin).drop chunks.flatten.length).take n])))
  | endOfFile {origin : PyStr} {chunks : List (List Byte)} {channel : Channel}
      (hk : w.phase k = .reading origin chunks) (hc : w.channel k = some channel)
      (hend : chunks.flatten.length = (w.mail.bytes origin).length ∧
        w.mail.isClosed channel.kind origin = true) :
      CallStep w k .endOfFile (w.setPhase k (afterRead channel.kind origin chunks))
  | timeout (hk : (w.phase k).inFlight = true) :
      CallStep w k .timeout (w.setPhase k (.leaving .timedOut))
  | abortOpened {exc : PyError} (hk : w.phase k = .opened) :
      CallStep w k (.abort exc) (w.setPhase k (.closing (.raised exc)))
  | abort {exc : PyError} (hdir : (w.phase k).hasScriptDir = true)
      (hk : (w.phase k).outcome = none) :
      CallStep w k (.abort exc) (w.setPhase k (.leaving (.raised exc)))
  | removeScriptDir {survivors : List PyStr} {outcome : Outcome} {directory : PyStr}
      (hk : w.phase k = .leaving outcome) (hd : w.scriptDir k = some directory) :
      CallStep w k (.removeScriptDir survivors)
        ((w.rmtree directory survivors).setPhase k (.closing outcome))
  | closeChannel {survivors : List PyStr} {outcome : Outcome} {channel : Channel}
      (hk : w.phase k = .closing outcome) (hc : w.channel k = some channel) :
      CallStep w k (.closeChannel survivors)
        { (w.rmtree channel.directory survivors).setPhase k (.done outcome) with
          listening := w.listening.erase channel.path }

section

variable {w w' : World} {j k : ℕ} {event : ProberEvent}

/-- Every step of a call is one of those `CallStep` lists, with the state behind it. -/
theorem callStep_of_proberStep (h : proberStep w k event = some w') : CallStep w k event w' := by
  cases event with
  | openFails directory =>
    simp only [proberStep] at h
    split_ifs at h with hk
    obtain ⟨hd, rfl⟩ := mkdtemp_eq_some.1 h
    exact .openFails hk hd
  | openChannel kind directory timeoutSeconds =>
    rw [proberStep] at h
    rcases eq_or_ne (w.phase k) .idle with hk | hk
    · rw [if_pos hk] at h
      obtain ⟨w₁, hm, rfl⟩ := Option.map_eq_some_iff.1 h
      obtain ⟨hd, rfl⟩ := mkdtemp_eq_some.1 hm
      exact .openChannel hk hd
    · rw [if_neg hk] at h
      cases h
  | makeScriptDir directory =>
    simp only [proberStep] at h
    split_ifs at h with hk
    obtain ⟨w₁, hm, rfl⟩ := Option.map_eq_some_iff.1 h
    obtain ⟨hd, rfl⟩ := mkdtemp_eq_some.1 hm
    exact .makeScriptDir hk hd
  | writeScript source =>
    simp only [proberStep] at h
    split at h
    · next hk hc hd => exact Option.some.inj h ▸ .writeScript hk hc hd
    · cases h
  | remoteExec =>
    simp only [proberStep] at h
    split at h
    · next hk hd => exact Option.some.inj h ▸ .remoteExec hk hd
    · cases h
  | openResult =>
    simp only [proberStep] at h
    split at h
    · next hk hc =>
      split_ifs at h with hkind
      obtain ⟨origin, hf, rfl⟩ := Option.map_eq_some_iff.1 h
      exact .openResult hk hc hkind hf
    · cases h
  | accept s =>
    simp only [proberStep] at h
    split at h
    · next hk hc hs =>
      split_ifs at h with hconn
      exact Option.some.inj h ▸ .accept hk hc hs hconn
    · cases h
  | read n =>
    simp only [proberStep] at h
    split at h
    · next hk =>
      split_ifs at h with hn
      exact Option.some.inj h ▸ .read hk hn
    · cases h
  | endOfFile =>
    simp only [proberStep] at h
    split at h
    · next hk hc =>
      split_ifs at h with hend
      exact Option.some.inj h ▸ .endOfFile hk hc hend
    · cases h
  | timeout =>
    simp only [proberStep] at h
    split at h
    · next hk => exact Option.some.inj h ▸ .timeout (by rw [hk]; rfl)
    · next hk hc =>
      split_ifs at h
      exact Option.some.inj h ▸ .timeout (by rw [hk]; rfl)
    · cases h
  | abort exc =>
    simp only [proberStep] at h
    split at h
    case h_1 hk => exact Option.some.inj h ▸ .abortOpened hk
    case h_6 => cases h
    all_goals
      next hk => exact Option.some.inj h ▸ .abort (by rw [hk]; rfl) (by rw [hk]; rfl)
  | removeScriptDir survivors =>
    simp only [proberStep] at h
    split at h
    · next hk hd => exact Option.some.inj h ▸ .removeScriptDir hk hd
    · cases h
  | closeChannel survivors =>
    simp only [proberStep] at h
    split at h
    · next hk hc => exact Option.some.inj h ▸ .closeChannel hk hc
    · cases h

/-! ## The order of the phases -/

/-- From which phase a call may come to which. `poll` covers the rounds of `receive`,
`gaveUp` all the ways to end without an answer. -/
inductive PhaseStep : Phase → Phase → Prop
  | retry : PhaseStep .idle .idle
  | open : PhaseStep .idle .opened
  | locate : PhaseStep .opened .located
  | script : PhaseStep .located .scripted
  | inject : PhaseStep .scripted .waiting
  | poll {p q : Phase} (hp : p.inFlight = true) (hq : q.inFlight = true) : PhaseStep p q
  | received {origin : PyStr} {chunks : List (List Byte)} :
      PhaseStep (.reading origin chunks) (.leaving (.received origin chunks))
  | gaveUp {p q : Phase} {outcome : Outcome} (hidle : p ≠ .idle) (hp : p.outcome = none)
      (hq : q.outcome = some outcome) (hlost : ∀ s chunks, outcome ≠ .received s chunks) :
      PhaseStep p q
  | clean {p q : Phase} {outcome : Outcome} (hp : p.outcome = some outcome)
      (hq : q.outcome = some outcome) : PhaseStep p q

/-- A call in flight has begun and has no outcome yet. -/
theorem Phase.inFlight_outcome {p : Phase} (h : p.inFlight = true) :
    p ≠ .idle ∧ p.outcome = none := by
  cases p <;> simp [inFlight, outcome] at h ⊢

/-- A call that has its script directory has begun. -/
theorem Phase.hasScriptDir_ne_idle {p : Phase} (h : p.hasScriptDir = true) : p ≠ .idle := by
  rintro rfl
  cases h

/-- A step of one call leaves the phases of the others: what calls share are the file system
and the target. -/
theorem CallStep.others (h : CallStep w k event w') (hne : j ≠ k) : w'.phase j = w.phase j := by
  cases h with
  | openFails => rfl
  | _ => exact Function.update_of_ne hne _ _

/-- A step of a call moves its phase along one edge of the diagram, and a channel that
fails to open leaves it idle. -/
theorem CallStep.phase (h : CallStep w k event w') : PhaseStep (w.phase k) (w'.phase k) := by
  cases h with
  | openFails hk => simpa [hk] using PhaseStep.retry
  | openChannel hk => simpa [hk] using PhaseStep.open
  | makeScriptDir hk => simpa [hk] using PhaseStep.locate
  | writeScript hk => simpa [hk] using PhaseStep.script
  | remoteExec hk => simpa [hk] using PhaseStep.inject
  | openResult hk => simpa [hk] using PhaseStep.poll rfl rfl
  | accept hk => simpa [hk] using PhaseStep.poll rfl rfl
  | read hk => simpa [hk] using PhaseStep.poll rfl rfl
  | @endOfFile origin chunks channel hk =>
    rw [World.setPhase_self, hk]
    rcases afterRead_cases channel.kind origin chunks with ha | ⟨-, ha⟩
    · exact ha ▸ .received
    · exact ha ▸ .poll rfl rfl
  | timeout hk =>
    rw [World.setPhase_self]
    exact .gaveUp (Phase.inFlight_outcome hk).1 (Phase.inFlight_outcome hk).2 rfl nofun
  | abortOpened hk =>
    rw [World.setPhase_self, hk]
    exact .gaveUp nofun rfl rfl nofun
  | abort hdir hk =>
    rw [World.setPhase_self]
    exact .gaveUp (Phase.hasScriptDir_ne_idle hdir) hk rfl nofun
  | removeScriptDir hk =>
    rw [World.setPhase_self, hk]
    exact .clean rfl rfl
  | closeChannel hk =>
    rw [hk]
    exact .clean rfl (by rw [World.setPhase_self]; rfl)

/-- How a call ended is final: cleaning up moves it on from `leaving` to `done` with the
same outcome. -/
theorem PhaseStep.outcome {p q : Phase} {outcome : Outcome} (h : PhaseStep p q)
    (hp : p.outcome = some outcome) : q.outcome = some outcome := by
  cases h with
  | clean hp' hq => exact hq.trans (hp'.symm.trans hp)
  | poll hp' => simp [(Phase.inFlight_outcome hp').2] at hp
  | gaveUp hidle hp' => simp [hp'] at hp
  | retry | «open» | locate | script | inject | received => cases hp

/-! ## What a call has at each phase -/

/-- A call that has begun has a channel, and a script directory up to its
removal. -/
structure Equipped (w : World) : Prop where
  channel : ∀ k, w.phase k ≠ .idle → ∃ channel, w.channel k = some channel
  scriptDir : ∀ k, (w.phase k).hasScriptDir = true → ∃ directory, w.scriptDir k = some directory

/-- Before the first step no call is in flight, so none lacks anything. -/
theorem Equipped.init : Equipped init :=
  ⟨fun _ h => absurd rfl h, nofun⟩

/-- A step of a call takes no channel from any call, its own included: a channel is set
once, when the call is idle. -/
theorem CallStep.keeps_channel (h : CallStep w k event w') {channel : Channel}
    (hw : Wired w) (hc : w.channel j = some channel) : w'.channel j = some channel := by
  cases h with
  | openChannel hk => exact Assignment.update_mono (hw.idle k hk) hc
  | _ => exact hc

/-- A call keeps its script directory to the end, and no step takes it from another call.
-/
theorem CallStep.keeps_scriptDir (h : CallStep w k event w') {directory : PyStr}
    (hw : Wired w) (hd : w.scriptDir j = some directory) : w'.scriptDir j = some directory := by
  cases h with
  | makeScriptDir hk => exact Assignment.update_mono (hw.opened k (.inr hk)) hd
  | _ => exact hd

/-- Behind a read, whatever it brought, the directory of the script is still there. -/
theorem afterRead_hasScriptDir (kind : ChannelKind) (origin : PyStr) (chunks : List (List Byte)) :
    (afterRead kind origin chunks).hasScriptDir = true := by
  rcases afterRead_cases kind origin chunks with h | ⟨-, h⟩ <;> rw [h] <;> rfl

/-- Every step of a call leaves all calls equipped with what their phases need. -/
theorem Equipped.callStep (he : Equipped w) (hw : Wired w) (h : CallStep w k event w') :
    Equipped w' := by
  have hchannel : ∀ j, w.phase j ≠ .idle → ∃ channel, w'.channel j = some channel := fun j hj =>
    (he.channel j hj).imp fun _ hc => h.keeps_channel hw hc
  have hdir : ∀ j, (w.phase j).hasScriptDir = true → ∃ d, w'.scriptDir j = some d := fun j hj =>
    (he.scriptDir j hj).imp fun _ hd => h.keeps_scriptDir hw hd
  refine ⟨fun j hj => ?_, fun j hj => ?_⟩ <;> rcases eq_or_ne j k with rfl | hne
  · cases h with
    | openFails hk => exact absurd hk hj
    | openChannel => exact ⟨_, Function.update_self ..⟩
    | timeout hk => exact hchannel j (Phase.inFlight_outcome hk).1
    | abort hk => exact hchannel j (Phase.hasScriptDir_ne_idle hk)
    | _ => exact hchannel j (by simp [*])
  · exact hchannel j (by rwa [← h.others hne])
  · cases h with
    | makeScriptDir => exact ⟨_, Function.update_self ..⟩
    | openFails => exact hdir j hj
    | openChannel => simp [Phase.hasScriptDir] at hj
    | abortOpened | removeScriptDir | closeChannel =>
      rw [World.setPhase_self] at hj
      cases hj
    | abort hk => exact hdir j hk
    | timeout hk =>
      refine hdir j ?_
      cases hp : w.phase j <;> simp [hp, Phase.inFlight, Phase.hasScriptDir] at hk ⊢
    | writeScript hk | remoteExec hk | openResult hk | accept hk | read hk | endOfFile hk =>
      exact hdir j (by rw [hk]; rfl)
  · exact hdir j (by rwa [← h.others hne])

end

/-! ## What holds in every run -/

section Events

variable [FloatText] {ε π : Type} [PyException ε] [Serial ε π] {w w' : World}

/-- The invariants of every run, in one place: the wiring, what is written where, that
answers are envelopes, and what the phases need. -/
structure Kept (w : World) : Prop where
  wired : Wired w
  addressed : Addressed w
  encoded : Encoded w
  equipped : Equipped w

/-- The invariants hold before the first step. -/
theorem Kept.init : Kept init := ⟨.init, .init, .init, .init⟩

/-- Every step, of the prober or of the target, keeps the four invariants. The step lemmas
of the four are assembled here. -/
theorem Kept.step {event : Event ε π} (h : Kept w) (hs : step w event = some w') : Kept w' := by
  obtain ⟨hw, ha, he⟩ := step_keeps h.wired h.addressed h.encoded hs
  refine ⟨hw, ha, he, ?_⟩
  cases event with
  | handOut directory =>
    obtain ⟨-, rfl⟩ := mkdtemp_eq_some.1 hs
    exact { h.equipped with }
  | prober k event => exact h.equipped.callStep h.wired (callStep_of_proberStep hs)
  | target s event =>
    obtain ⟨⟨t, mail⟩, -, rfl⟩ := Option.map_eq_some_iff.1 hs
    exact { h.equipped with }

/-- A whole run keeps them. -/
theorem Kept.run {events : List (Event ε π)} (h : Kept w)
    (hr : run Protocol.step w events = some w') : Kept w' :=
  run_invariant (P := fun _ => True) (fun _ _ _ hm _ hs => hm.step hs) h (fun _ _ => trivial) hr

end Events

end Protocol
end Pidprobe
