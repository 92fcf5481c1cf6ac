/-
# What is there while calls run, and after them

The directories that exist are those of the calls under way, those `mkdtemp`
handed to somebody else, and those a failing `socket.socket` left; and the sockets
that listen are those of the calls under way (`nothing_left_behind`).  A script that
runs after its call has cleaned up brings no file back: it finds no directory to make
one in.  That nothing else is there needs that no file is made in a directory while
`rmtree` is at it; that what a call works with is there does not.
-/

import Pidprobe.Channel.Steps

namespace Pidprobe
namespace Protocol

open Function (update)

/-- The channel is closed: the call has ended, with whatever outcome. -/
def Phase.isDone : Phase → Bool
  | .done _ => true
  | _ => false

/-- A call is through with a directory it made: its channel is closed, or the directory of
its script is removed. -/
def Discarded (w : World) (directory : PyStr) : Prop :=
  (∃ k channel, w.channel k = some channel ∧ channel.directory = directory ∧
      (w.phase k).isDone = true) ∨
    ∃ k, w.scriptDir k = some directory ∧ (w.phase k).hasScriptDir = false

/-- A call is not through with a directory it made, be it that of its channel or of its
script. -/
def InUse (w : World) (directory : PyStr) : Prop :=
  (∃ k channel, w.channel k = some channel ∧ channel.directory = directory ∧
      (w.phase k).isDone = false) ∨
    ∃ k, w.scriptDir k = some directory ∧ (w.phase k).hasScriptDir = true

/-- A call listens at this path: its channel is a socket, and not closed yet. -/
def ListensAt (w : World) (path : PyStr) : Prop :=
  ∃ k channel, w.channel k = some channel ∧ channel.kind = .unixSocket ∧
    channel.path = path ∧ (w.phase k).isDone = false

/-- A path below a directory that exists: the only place a file can be. -/
def Housed (w : World) (path : PyStr) : Prop := ∃ directory ∈ w.dirs, below directory path = true

/-- What a call works with exists: its directories are there, and its socket listens,
once. -/
structure Available (w : World) : Prop where
  apart : ∀ j k channel directory, w.channel j = some channel →
    w.scriptDir k = some directory → channel.directory ≠ directory
  dirs : ∀ directory ∈ w.handed, ¬Discarded w directory → directory ∈ w.dirs
  listening : ∀ path, path ∈ w.listening ↔ ListensAt w path
  nodup : w.listening.Nodup

/-- And nothing else does: every directory is one a call still uses or somebody else's, and
every file lies in one of them. -/
structure Swept (w : World) : Prop where
  dirs : ∀ directory ∈ w.dirs, directory ∈ w.handed ∧ ¬Discarded w directory
  file : ∀ path s, w.mail.files path = some s → Housed w path
  script : ∀ path script, w.scripts path = some script → Housed w path

/-- Before the first step no directory is handed out, so none is missing. -/
theorem Available.init : Available init := by
  constructor <;> simp [Protocol.init, ListensAt]

/-- Before the first step there is no file and no directory to sweep. -/
theorem Swept.init : Swept init := by
  constructor <;> simp [Protocol.init]

/-- `rmtree` is not raced: no file is made while it is at the directory, so none survives
it. -/
def ProberEvent.Sweeps : ProberEvent → Prop
  | .removeScriptDir survivors | .closeChannel survivors => survivors = []
  | _ => True

/-- The events of a run in which no `rmtree` is raced. -/
def Event.Sweeps {ε π : Type} : Event ε π → Prop
  | .prober _ event => event.Sweeps
  | _ => True

section

variable {w w' : World} {j k : ℕ} {event : ProberEvent}

/-! ## A step that neither makes nor removes a directory -/

/-- A call moves on within the phases that share its directories: nothing is made, and
nothing removed. -/
structure Stays (w w' : World) (k : ℕ) : Prop where
  handed : w'.handed = w.handed
  dirs : w'.dirs = w.dirs
  channel : w'.channel = w.channel
  scriptDir : w'.scriptDir = w.scriptDir
  listening : w'.listening = w.listening
  others : ∀ j ≠ k, w'.phase j = w.phase j
  isDone : (w'.phase k).isDone = (w.phase k).isDone
  hasScriptDir : (w.scriptDir k).isSome = true →
    (w'.phase k).hasScriptDir = (w.phase k).hasScriptDir

/-- A call that stays within its phases has not ended by the step, and neither has any
other call. -/
theorem Stays.isDone_eq (h : Stays w w' k) (j : ℕ) :
    (w'.phase j).isDone = (w.phase j).isDone := by
  rcases eq_or_ne j k with rfl | hne
  · exact h.isDone
  · rw [h.others j hne]

/-- Which directories are to be gone depends on how far the calls are, and they are as far
as before where one of them stays. -/
theorem Stays.discarded_iff (h : Stays w w' k) {directory : PyStr} :
    Discarded w' directory ↔ Discarded w directory := by
  have hdir : ∀ j, w.scriptDir j = some directory →
      ((w'.phase j).hasScriptDir = false ↔ (w.phase j).hasScriptDir = false) := by
    intro j hj
    rcases eq_or_ne j k with rfl | hne
    · rw [h.hasScriptDir (by rw [hj]; rfl)]
    · rw [h.others j hne]
  rw [Discarded, Discarded, h.channel, h.scriptDir]
  refine or_congr ?_ ?_
  · simp only [h.isDone_eq]
  · exact exists_congr fun j => and_congr_right (hdir j)

/-- Which paths a socket should listen at depends on the channels and on which calls are
done, and a step that stays changes neither. -/
theorem Stays.listensAt_iff (h : Stays w w' k) {path : PyStr} :
    ListensAt w' path ↔ ListensAt w path := by
  simp only [ListensAt, h.channel, h.isDone_eq]

/-- A path is housed by a directory that exists, and a step that stays neither makes nor
removes one. -/
theorem Stays.housed_iff (h : Stays w w' k) {path : PyStr} : Housed w' path ↔ Housed w path := by
  rw [Housed, Housed, h.dirs]

/-- A step that stays keeps every directory of a call under way, and what listens. -/
theorem Available.stay (ha : Available w) (h : Stays w w' k) : Available w' := by
  obtain ⟨hapart, hdirs, hlistening, hnodup⟩ := ha
  constructor
  · rw [h.channel, h.scriptDir]
    exact hapart
  · rw [h.handed, h.dirs]
    exact fun d hd hn => hdirs d hd fun hdis => hn (h.discarded_iff.2 hdis)
  · rw [h.listening]
    exact fun path => (hlistening path).trans h.listensAt_iff.symm
  · rw [h.listening]
    exact hnodup

/-- A step that stays leaves nothing behind, as long as every file and script it adds lies
in a directory that exists. -/
theorem Swept.stay (hs : Swept w) (h : Stays w w' k)
    (hfile : ∀ path s, w'.mail.files path = some s → Housed w path)
    (hscript : ∀ path script, w'.scripts path = some script → Housed w path) : Swept w' := by
  constructor
  · rw [h.handed, h.dirs]
    exact fun d hd => ⟨(hs.dirs d hd).1, fun hdis => (hs.dirs d hd).2 (h.discarded_iff.1 hdis)⟩
  · exact fun path s hp => h.housed_iff.2 (hfile path s hp)
  · exact fun path script hp => h.housed_iff.2 (hscript path script hp)

/-! ## A step that makes a directory -/

/-- Two states with the same channels behind calls that are done and the same script
directories behind calls that have left theirs discard the same directories. -/
theorem discarded_congr
    (hchannel : ∀ j channel, w'.channel j = some channel ∧ (w'.phase j).isDone = true ↔
      w.channel j = some channel ∧ (w.phase j).isDone = true)
    (hdir : ∀ j d, w'.scriptDir j = some d ∧ (w'.phase j).hasScriptDir = false ↔
      w.scriptDir j = some d ∧ (w.phase j).hasScriptDir = false) {directory : PyStr} :
    Discarded w' directory ↔ Discarded w directory := by
  rw [Discarded, Discarded]
  refine or_congr ?_ (exists_congr fun j => hdir j directory)
  refine exists_congr fun j => exists_congr fun channel => ?_
  rw [and_left_comm, and_left_comm (a := w.channel j = some channel)]
  exact and_congr_right fun _ => hchannel j channel

/-- A directory that was never handed out belongs to no call, so no call has discarded it.
-/
theorem Wired.not_discarded (hw : Wired w) {directory : PyStr} (hd : directory ∉ w.handed) :
    ¬Discarded w directory := by
  rintro (⟨j, channel, hc, rfl, -⟩ | ⟨j, hj, -⟩)
  · exact hd (hw.channel_handed j channel hc)
  · exact hd (hw.scriptDir_handed j directory hj)

/-- `mkdtemp` has handed out a directory: one nobody had before, and nothing else has
changed. -/
structure Takes (w w' : World) (directory : PyStr) : Prop where
  fresh : directory ∉ w.handed
  handed : w'.handed = directory :: w.handed
  dirs : w'.dirs = directory :: w.dirs
  discarded : ∀ d, Discarded w' d ↔ Discarded w d
  files : w'.mail.files = w.mail.files
  scripts : w'.scripts = w.scripts

/-- A directory that goes to no call: one a failing `socket.socket` left, or one of somebody
else. -/
theorem takes_mkdtemp {directory : PyStr} (hd : directory ∉ w.handed) :
    Takes w { w with handed := directory :: w.handed, dirs := directory :: w.dirs } directory :=
  ⟨hd, rfl, rfl, fun _ => Iff.rfl, rfl, rfl⟩

/-- A step that takes a new directory makes it, and removes none. -/
theorem Takes.available {directory : PyStr} (h : Takes w w' directory) (ha : Available w) :
    ∀ d ∈ w'.handed, ¬Discarded w' d → d ∈ w'.dirs := by
  intro d hd hn
  rw [h.handed] at hd
  rw [h.dirs]
  rcases List.mem_cons.1 hd with rfl | hd
  · exact List.mem_cons_self ..
  · exact List.mem_cons_of_mem _ (ha.dirs d hd fun hdis => hn ((h.discarded d).2 hdis))

/-- A step that takes a new directory leaves nothing behind: the directory is in use, and
nothing lies in it yet. -/
theorem Takes.swept {directory : PyStr} (h : Takes w w' directory) (hw : Wired w)
    (hs : Swept w) : Swept w' := by
  have hhoused : ∀ path, Housed w path → Housed w' path := by
    rintro path ⟨d, hd, hb⟩
    exact ⟨d, h.dirs ▸ List.mem_cons_of_mem _ hd, hb⟩
  constructor
  · intro d hd
    rw [h.dirs] at hd
    rw [h.handed, h.discarded]
    rcases List.mem_cons.1 hd with rfl | hd
    · exact ⟨List.mem_cons_self .., hw.not_discarded h.fresh⟩
    · exact ⟨List.mem_cons_of_mem _ (hs.dirs d hd).1, (hs.dirs d hd).2⟩
  · rw [h.files]
    exact fun path s hp => hhoused path (hs.file path s hp)
  · rw [h.scripts]
    exact fun path script hp => hhoused path (hs.script path script hp)

/-! ## A step that removes one -/

/-- A call is through with a directory, and `rmtree` has been at it: what is below it is
gone, save the survivors. -/
structure Drops (w w' : World) (directory : PyStr) (survivors : List PyStr) : Prop where
  handed : w'.handed = w.handed
  dirs : w'.dirs = (w.rmtree directory survivors).dirs
  discarded : ∀ d, Discarded w' d ↔ Discarded w d ∨ d = directory
  files : w'.mail.files = (w.rmtree directory survivors).mail.files
  scripts : w'.scripts = (w.rmtree directory survivors).scripts

/-- A step that drops a directory removes that one alone, and the call that used it
discards it. -/
theorem Drops.available {directory : PyStr} {survivors : List PyStr}
    (h : Drops w w' directory survivors) (ha : Available w) :
    ∀ d ∈ w'.handed, ¬Discarded w' d → d ∈ w'.dirs := by
  intro d hd hn
  rw [h.handed] at hd
  rw [h.discarded, not_or] at hn
  have hold := ha.dirs d hd hn.1
  rw [h.dirs, World.rmtree]
  show d ∈ if _ then w.dirs else _
  split_ifs
  · exact hold
  · exact List.mem_filter.2 ⟨hold, decide_eq_true hn.2⟩

/-- A step that drops a directory with everything in it leaves nothing behind of it. -/
theorem Drops.swept {directory : PyStr} (h : Drops w w' directory []) (hs : Swept w) :
    Swept w' := by
  have hdirs : w'.dirs = w.dirs.filter (· ≠ directory) := by
    rw [h.dirs, World.rmtree]
    simp
  have hhoused : ∀ path, below directory path = false → Housed w path → Housed w' path := by
    rintro path hout ⟨d, hd, hb⟩
    refine ⟨d, hdirs ▸ List.mem_filter.2 ⟨hd, decide_eq_true ?_⟩, hb⟩
    rintro rfl
    rw [hout] at hb
    cases hb
  constructor
  · intro d hd
    rw [hdirs, List.mem_filter, decide_eq_true_eq] at hd
    rw [h.handed, h.discarded, not_or]
    exact ⟨(hs.dirs d hd.1).1, (hs.dirs d hd.1).2, hd.2⟩
  · intro path s hp
    rw [h.files] at hp
    simp only [World.rmtree, List.contains_nil, Bool.not_false, Bool.and_true] at hp
    split_ifs at hp with hb
    exact hhoused path (Bool.eq_false_iff.2 hb) (hs.file path s hp)
  · intro path script hp
    rw [h.scripts] at hp
    simp only [World.rmtree, List.contains_nil, Bool.not_false, Bool.and_true] at hp
    split_ifs at hp with hb
    exact hhoused path (Bool.eq_false_iff.2 hb) (hs.script path script hp)

/-! ## The steps of a call -/

/-- A call in flight has not ended, and still has its script directory. -/
theorem Phase.isDone_of_inFlight {p : Phase} (h : p.inFlight = true) :
    p.isDone = false ∧ p.hasScriptDir = true := by
  cases p <;> simp [inFlight, isDone, hasScriptDir] at h ⊢

/-- A call that has its script directory has not ended. -/
theorem Phase.isDone_of_hasScriptDir {p : Phase} (h : p.hasScriptDir = true) :
    p.isDone = false := by
  cases p <;> simp [hasScriptDir, isDone] at h ⊢

/-- A phase change that keeps the directories in use: neither the end of the call nor the
removal of its script. -/
theorem stays_setPhase {p : Phase} (hdone : p.isDone = (w.phase k).isDone)
    (hdir : (w.scriptDir k).isSome = true → p.hasScriptDir = (w.phase k).hasScriptDir) :
    Stays w (w.setPhase k p) k where
  handed := rfl
  dirs := rfl
  channel := rfl
  scriptDir := rfl
  listening := rfl
  others _ hne := World.setPhase_of_ne hne
  isDone := by rw [World.setPhase_self, hdone]
  hasScriptDir h := by rw [World.setPhase_self, hdir h]

/-- A call in flight that goes to another phase in which it has its directories stays. -/
theorem stays_of_inFlight {p : Phase} (hk : (w.phase k).inFlight = true)
    (hp : p.isDone = false ∧ p.hasScriptDir = true) : Stays w (w.setPhase k p) k := by
  obtain ⟨hdone, hdir⟩ := Phase.isDone_of_inFlight hk
  exact stays_setPhase (hp.1.trans hdone.symm) fun _ => hp.2.trans hdir.symm

/-- Opening a channel takes the directory `mkdtemp` made for it. -/
theorem takes_openChannel {kind : ChannelKind} {directory : PyStr} {timeoutSeconds : ℚ}
    (hw : Wired w) (hk : w.phase k = .idle) (hd : directory ∉ w.handed) :
    Takes w { w with
      handed := directory :: w.handed
      dirs := directory :: w.dirs
      phase := update w.phase k .opened
      channel := update w.channel k (some ⟨kind, directory, timeoutSeconds⟩)
      listening := if kind = .unixSocket then inDir directory kind.filename :: w.listening
        else w.listening } directory := by
  refine ⟨hd, rfl, rfl, fun d => discarded_congr (fun j channel => ?_) (fun j d => ?_), rfl, rfl⟩
  · rcases eq_or_ne j k with rfl | hne
    · simp [Phase.isDone, hw.idle j hk]
    · simp [Function.update_of_ne hne]
  · rcases eq_or_ne j k with rfl | hne
    · simp [hw.opened j (.inl hk)]
    · simp [Function.update_of_ne hne]

/-- The directory of the script is taken from `mkdtemp` as well, for a call that has its
channel. -/
theorem takes_makeScriptDir {directory : PyStr} (hw : Wired w) (hk : w.phase k = .opened)
    (hd : directory ∉ w.handed) :
    Takes w { w with
      handed := directory :: w.handed
      dirs := directory :: w.dirs
      phase := update w.phase k .located
      scriptDir := update w.scriptDir k (some directory) } directory := by
  refine ⟨hd, rfl, rfl, fun d => discarded_congr (fun j channel => ?_) (fun j d => ?_), rfl, rfl⟩
  · rcases eq_or_ne j k with rfl | hne
    · simp [Phase.isDone, hk]
    · simp [Function.update_of_ne hne]
  · rcases eq_or_ne j k with rfl | hne
    · simp [Phase.hasScriptDir, hw.opened j (.inr hk)]
    · simp [Function.update_of_ne hne]

/-- Leaving the `with` block drops the directory of the script, with the files that are in
it. -/
theorem drops_removeScriptDir {directory : PyStr} {outcome : Outcome} (survivors : List PyStr)
    (hk : w.phase k = .leaving outcome) (hd : w.scriptDir k = some directory) :
    Drops w ((w.rmtree directory survivors).setPhase k (.closing outcome)) directory
      survivors := by
  refine ⟨rfl, rfl, fun d => ?_, rfl, rfl⟩
  have hothers : ∀ j ≠ k, ((w.rmtree directory survivors).setPhase k (.closing outcome)).phase j =
      w.phase j := fun j hne => World.setPhase_of_ne hne
  constructor
  · rintro (⟨j, channel, hc, hdir, hdone⟩ | ⟨j, hj, hdir⟩) <;> rcases eq_or_ne j k with rfl | hne
    · rw [World.setPhase_self] at hdone
      cases hdone
    · exact .inl (.inl ⟨j, channel, hc, hdir, hothers j hne ▸ hdone⟩)
    · exact .inr (Option.some.inj (hj.symm.trans hd))
    · exact .inl (.inr ⟨j, hj, hothers j hne ▸ hdir⟩)
  · rintro ((⟨j, channel, hc, hdir, hdone⟩ | ⟨j, hj, hdir⟩) | rfl)
    · rcases eq_or_ne j k with rfl | hne
      · rw [hk] at hdone
        cases hdone
      · exact .inl ⟨j, channel, hc, hdir, (hothers j hne).symm ▸ hdone⟩
    · rcases eq_or_ne j k with rfl | hne
      · rw [hk] at hdir
        cases hdir
      · exact .inr ⟨j, hj, (hothers j hne).symm ▸ hdir⟩
    · exact .inr ⟨k, hd, by rw [World.setPhase_self]; rfl⟩

/-- Closing a channel drops its directory, and its socket listens no more. -/
theorem drops_closeChannel {channel : Channel} {outcome : Outcome} (survivors : List PyStr)
    (hk : w.phase k = .closing outcome) (hc : w.channel k = some channel) :
    Drops w { (w.rmtree channel.directory survivors).setPhase k (.done outcome) with
      listening := w.listening.erase channel.path } channel.directory survivors := by
  refine ⟨rfl, rfl, fun d => ?_, rfl, rfl⟩
  have hothers : ∀ j ≠ k, update w.phase k (.done outcome) j = w.phase j := fun j hne =>
    Function.update_of_ne hne _ _
  have hself : update w.phase k (.done outcome) k = .done outcome := Function.update_self ..
  constructor
  · rintro (⟨j, channel', hc', hdir, hdone⟩ | ⟨j, hj, hdir⟩) <;> rcases eq_or_ne j k with rfl | hne
    · obtain rfl := Option.some.inj (hc'.symm.trans hc)
      exact .inr hdir.symm
    · exact .inl (.inl ⟨j, channel', hc', hdir, hothers j hne ▸ hdone⟩)
    · exact .inl (.inr ⟨j, hj, by rw [hk]; rfl⟩)
    · exact .inl (.inr ⟨j, hj, hothers j hne ▸ hdir⟩)
  · rintro ((⟨j, channel', hc', hdir, hdone⟩ | ⟨j, hj, hdir⟩) | rfl)
    · rcases eq_or_ne j k with rfl | hne
      · rw [hk] at hdone
        cases hdone
      · exact .inl ⟨j, channel', hc', hdir, (congrArg Phase.isDone (hothers j hne)).trans hdone⟩
    · rcases eq_or_ne j k with rfl | hne
      · exact .inr ⟨j, hj, congrArg Phase.hasScriptDir hself⟩
      · exact .inr ⟨j, hj, (congrArg Phase.hasScriptDir (hothers j hne)).trans hdir⟩
    · exact .inl ⟨k, channel, hc, rfl, congrArg Phase.isDone hself⟩

/-- Every step of a call that leaves the directories alone: all but the five that make one
or remove one. -/
theorem CallStep.stays (hw : Wired w) (h : CallStep w k event w')
    (hfails : ∀ directory, event ≠ .openFails directory)
    (hopen : ∀ kind directory timeoutSeconds, event ≠ .openChannel kind directory timeoutSeconds)
    (hmake : ∀ directory, event ≠ .makeScriptDir directory)
    (hremove : ∀ survivors, event ≠ .removeScriptDir survivors)
    (hclose : ∀ survivors, event ≠ .closeChannel survivors) : Stays w w' k := by
  cases h with
  | openFails => exact absurd rfl (hfails _)
  | openChannel => exact absurd rfl (hopen _ _ _)
  | makeScriptDir => exact absurd rfl (hmake _)
  | removeScriptDir => exact absurd rfl (hremove _)
  | closeChannel => exact absurd rfl (hclose _)
  | writeScript hk =>
    have hstays : Stays w (w.setPhase k .scripted) k :=
      stays_setPhase (by rw [hk]; rfl) fun _ => by rw [hk]; rfl
    exact { hstays with }
  | remoteExec hk =>
    have hstays : Stays w (w.setPhase k .waiting) k :=
      stays_setPhase (by rw [hk]; rfl) fun _ => by rw [hk]; rfl
    exact { hstays with }
  | openResult hk => exact stays_of_inFlight (by rw [hk]; rfl) ⟨rfl, rfl⟩
  | @accept s channel conn hk =>
    have hstays : Stays w (w.setPhase k (.reading s [])) k :=
      stays_of_inFlight (by rw [hk]; rfl) ⟨rfl, rfl⟩
    exact { hstays with }
  | read hk => exact stays_of_inFlight (by rw [hk]; rfl) ⟨rfl, rfl⟩
  | endOfFile hk =>
    have hdir := afterRead_hasScriptDir
    exact stays_of_inFlight (by rw [hk]; rfl)
      ⟨Phase.isDone_of_hasScriptDir (hdir _ _ _), hdir _ _ _⟩
  | timeout hk => exact stays_of_inFlight hk ⟨rfl, rfl⟩
  | abortOpened hk =>
    have hd := hw.opened k (.inr hk)
    exact stays_setPhase (by rw [hk]; rfl) (by simp [hd])
  | abort hdir hk =>
    exact stays_setPhase (Phase.isDone_of_hasScriptDir hdir).symm fun _ => hdir.symm

/-- Where the calls under way listen does not change when a call moves on with its
channel. -/
theorem listensAt_setPhase {p : Phase} (hchannel : w'.channel = w.channel)
    (hphase : w'.phase = update w.phase k p) (hp : p.isDone = (w.phase k).isDone) {path : PyStr} :
    ListensAt w' path ↔ ListensAt w path := by
  have hdone : ∀ j, (w'.phase j).isDone = (w.phase j).isDone := by
    intro j
    rw [hphase]
    rcases eq_or_ne j k with rfl | hne
    · rw [Function.update_self, hp]
    · rw [Function.update_of_ne hne]
  simp only [ListensAt, hchannel, hdone]

/-- A call opens its channel: the directory is new, so nobody listens at its path yet. -/
theorem Available.openChannel {channel : Channel} (ha : Available w) (hw : Wired w)
    (hk : w.phase k = .idle) (htakes : Takes w w' channel.directory)
    (hchannel : w'.channel = update w.channel k (some channel))
    (hdir : w'.scriptDir = w.scriptDir) (hphase : w'.phase = update w.phase k .opened)
    (hlistening : w'.listening =
      if channel.kind = .unixSocket then channel.path :: w.listening else w.listening) :
    Available w' := by
  have hself : w'.channel k = some channel := by rw [hchannel, Function.update_self]
  have hothers : ∀ j ≠ k, w'.channel j = w.channel j ∧ w'.phase j = w.phase j := fun j hne => by
    rw [hchannel, hphase, Function.update_of_ne hne, Function.update_of_ne hne]
    exact ⟨rfl, rfl⟩
  have hlistens : ∀ path, ListensAt w' path ↔
      ListensAt w path ∨ channel.kind = .unixSocket ∧ path = channel.path := by
    intro path
    constructor
    · rintro ⟨j, channel', hc, hkind, rfl, hdone⟩
      rcases eq_or_ne j k with rfl | hne
      · obtain rfl := Option.some.inj (hself.symm.trans hc)
        exact .inr ⟨hkind, rfl⟩
      · rw [(hothers j hne).1] at hc
        rw [(hothers j hne).2] at hdone
        exact .inl ⟨j, channel', hc, hkind, rfl, hdone⟩
    · rintro (⟨j, channel', hc, hkind, rfl, hdone⟩ | ⟨hkind, rfl⟩)
      · have hne : j ≠ k := by
          rintro rfl
          rw [hw.idle j hk] at hc
          cases hc
        refine ⟨j, channel', (hothers j hne).1.trans hc, hkind, rfl, ?_⟩
        rw [(hothers j hne).2, hdone]
      · exact ⟨k, channel, hself, hkind, rfl, by rw [hphase, Function.update_self]; rfl⟩
  have hnew : channel.path ∉ w.listening := by
    rw [ha.listening]
    rintro ⟨j, channel', hc, -, hp, -⟩
    have hd := directory_eq_of_path_eq hp
    exact htakes.fresh (hd ▸ hw.channel_handed j channel' hc)
  constructor
  · intro i j channel' d hc hj
    rw [hdir] at hj
    rcases eq_or_ne i k with rfl | hne
    · obtain rfl := Option.some.inj (hself.symm.trans hc)
      rintro rfl
      exact htakes.fresh (hw.scriptDir_handed j _ hj)
    · rw [(hothers i hne).1] at hc
      exact ha.apart i j channel' d hc hj
  · exact htakes.available ha
  · intro path
    rw [hlistens, ← ha.listening, hlistening]
    split_ifs with hkind
    · simp [hkind, or_comm]
    · simp [hkind]
  · rw [hlistening]
    split_ifs with hkind
    · exact List.nodup_cons.2 ⟨hnew, ha.nodup⟩
    · exact ha.nodup

/-- A call opens its script's directory, which is not that of its channel, as `mkdtemp` made
both. -/
theorem Available.makeScriptDir {directory : PyStr} (ha : Available w) (hw : Wired w)
    (hk : w.phase k = .opened) (htakes : Takes w w' directory) (hchannel : w'.channel = w.channel)
    (hdir : w'.scriptDir = update w.scriptDir k (some directory))
    (hphase : w'.phase = update w.phase k .located) (hlistening : w'.listening = w.listening) :
    Available w' := by
  constructor
  · intro i j channel d hc hj
    rw [hchannel] at hc
    rw [hdir] at hj
    rcases eq_or_ne j k with rfl | hne
    · rw [Function.update_self] at hj
      obtain rfl := Option.some.inj hj
      rintro rfl
      exact htakes.fresh (hw.channel_handed i channel hc)
    · rw [Function.update_of_ne hne] at hj
      exact ha.apart i j channel d hc hj
  · exact htakes.available ha
  · intro path
    rw [hlistening, ha.listening]
    exact (listensAt_setPhase hchannel hphase (by rw [hk]; rfl)).symm
  · rw [hlistening]
    exact ha.nodup

/-- A call closes its channel: its directory goes, and its socket is the one that listens no
more. -/
theorem Available.closeChannel {channel : Channel} {outcome : Outcome} (survivors : List PyStr)
    (ha : Available w) (hw : Wired w) (hk : w.phase k = .closing outcome)
    (hc : w.channel k = some channel) :
    Available { (w.rmtree channel.directory survivors).setPhase k (.done outcome) with
      listening := w.listening.erase channel.path } := by
  refine ⟨ha.apart, (drops_closeChannel survivors hk hc).available ha, fun path => ?_,
    ha.nodup.erase _⟩
  show path ∈ w.listening.erase channel.path ↔ _
  rw [ha.nodup.mem_erase_iff, ha.listening]
  constructor
  · rintro ⟨hne, j, channel', hc', hkind, rfl, hdone⟩
    have hjk : j ≠ k := by
      rintro rfl
      exact hne (congrArg Channel.path (Option.some.inj (hc'.symm.trans hc)))
    exact ⟨j, channel', hc', hkind, rfl,
      (congrArg Phase.isDone (Function.update_of_ne hjk _ _)).trans hdone⟩
  · rintro ⟨j, channel', hc', hkind, rfl, hdone⟩
    have hjk : j ≠ k := by
      rintro rfl
      have hself : update w.phase j (.done outcome) j = .done outcome := Function.update_self ..
      cases (congrArg Phase.isDone hself).symm.trans hdone
    exact ⟨fun he => hjk (hw.path_inj hc' hc he), j, channel', hc', hkind, rfl,
      (congrArg Phase.isDone (Function.update_of_ne hjk _ _)).symm.trans hdone⟩

/-- A step of a call keeps what the calls work with: its own, and that of all the others. -/
theorem Available.callStep (ha : Available w) (hw : Wired w) (h : CallStep w k event w') :
    Available w' := by
  have hstays := h.stays hw
  cases h with
  | openFails hk hd => exact ⟨ha.apart, (takes_mkdtemp hd).available ha, ha.listening, ha.nodup⟩
  | openChannel hk hd =>
    exact ha.openChannel hw hk (takes_openChannel hw hk hd) rfl rfl rfl rfl
  | makeScriptDir hk hd =>
    exact ha.makeScriptDir hw hk (takes_makeScriptDir hw hk hd) rfl rfl rfl rfl
  | @removeScriptDir survivors outcome directory hk hd =>
    have hdone : (Phase.closing outcome).isDone = (w.phase k).isDone := by rw [hk]; rfl
    have hphase : ((w.rmtree directory survivors).setPhase k (.closing outcome)).phase =
        update w.phase k (.closing outcome) := rfl
    refine ⟨ha.apart, (drops_removeScriptDir survivors hk hd).available ha, fun path => ?_,
      ha.nodup⟩
    have hchannel : ((w.rmtree directory survivors).setPhase k (.closing outcome)).channel =
        w.channel := rfl
    exact (ha.listening path).trans (listensAt_setPhase hchannel hphase hdone).symm
  | closeChannel hk hc => exact ha.closeChannel _ hw hk hc
  | _ => exact ha.stay (hstays nofun nofun nofun nofun nofun)

/-- A file of a directory lies below it. -/
theorem below_inDir (directory name : PyStr) : below directory (inDir directory name) = true :=
  decide_eq_true ⟨name, by simp [inDir]⟩

/-- A step of a call whose `rmtree` is not raced leaves nothing behind. -/
theorem Swept.callStep (hs : Swept w) (ha : Available w) (hw : Wired w)
    (hsweeps : event.Sweeps)
    (h : CallStep w k event w') : Swept w' := by
  have hstays := h.stays hw
  cases h with
  | openFails hk hd => exact (takes_mkdtemp hd).swept hw hs
  | openChannel hk hd => exact (takes_openChannel hw hk hd).swept hw hs
  | makeScriptDir hk hd => exact (takes_makeScriptDir hw hk hd).swept hw hs
  | removeScriptDir hk hd =>
    obtain rfl : _ = [] := hsweeps
    exact (drops_removeScriptDir [] hk hd).swept hs
  | closeChannel hk hc =>
    obtain rfl : _ = [] := hsweeps
    exact (drops_closeChannel [] hk hc).swept hs
  | @writeScript source directory channel hk hc hd =>
    refine hs.stay (hstays nofun nofun nofun nofun nofun) hs.file fun path script hp => ?_
    by_cases hpath : path = scriptPath directory
    · -- the script goes into a directory of a call that is not through with it
      have hdir : ¬Discarded w directory := by
        rintro (⟨j, channel', hc', he, -⟩ | ⟨j, hj, hgone⟩)
        · exact ha.apart j k channel' directory hc' hd he
        · obtain rfl := hw.scriptDir_inj j k _ hj hd
          rw [hk] at hgone
          cases hgone
      refine ⟨directory, ha.dirs _ (hw.scriptDir_handed k _ hd) hdir, ?_⟩
      rw [hpath, scriptPath]
      exact below_inDir _ _
    · exact hs.script path script ((Function.update_of_ne hpath _ _).symm.trans hp)
  | _ => exact hs.stay (hstays nofun nofun nofun nofun nofun) hs.file hs.script

end

/-! ## The steps of the target -/

section Events

variable [FloatText] {ε π : Type} [PyException ε] [Serial ε π] {w w' : World} {k : ℕ} {s : PyStr}

omit [FloatText] in
/-- The target takes nothing a call works with: a script writes files, and makes no
directory and removes none. -/
theorem Available.setTarget (ha : Available w) (t : Target) (mail : Mail) :
    Available (w.setTarget s t mail) := ⟨ha.apart, ha.dirs, ha.listening, ha.nodup⟩

omit [FloatText] in
/-- The result file lies where its temporary file does, so the rename stays within the
directory. -/
theorem below_of_tmpPath {directory path : PyStr} (h : below directory (tmpPath path) = true) :
    below directory path = true := by
  obtain ⟨rest, hrest⟩ := of_decide_eq_true h
  refine decide_eq_true ?_
  have hslash : cp '/' ∉ py ".tmp" := by decide
  rw [tmpPath] at hrest
  rcases List.append_eq_append_iff.1 hrest with ⟨mid, hpath, -⟩ | ⟨mid, hpath, htmp⟩
  · exact ⟨mid, hpath.symm⟩
  · -- the directory would end inside the suffix, with a slash
    rcases List.eq_nil_or_concat mid with rfl | ⟨front, c, rfl⟩
    · exact ⟨[], by rw [hpath, List.append_nil, List.append_nil]⟩
    · rw [List.concat_eq_append, ← List.append_assoc] at hpath
      obtain ⟨-, hc⟩ := List.append_inj' hpath rfl
      obtain rfl := List.head_eq_of_cons_eq hc
      exact absurd (htmp ▸ by simp) hslash

/-- Every file that is there after a step of a task lies in a directory that exists. -/
theorem Swept.taskStep {task task' : Task} {event : TargetEvent ε π} {mail : Mail} (hs : Swept w)
    (h : TaskStep w s task event task' mail) {path i : PyStr} (hp : mail.files path = some i) :
    Housed w path := by
  cases h with
  | opened hstage hkind hdir hfd =>
    by_cases hpath : path = tmpPath task.spec.path
    · obtain ⟨d, hd, hb⟩ := List.any_eq_true.1 hdir
      exact ⟨d, hd, hpath ▸ hb⟩
    · exact hs.file path i ((Function.update_of_ne hpath _ _).symm.trans hp)
  | @replaced j hstage hf =>
    by_cases hpath : path = task.spec.path
    · obtain ⟨d, hd, hb⟩ := hs.file _ j hf
      exact ⟨d, hd, hpath ▸ below_of_tmpPath hb⟩
    · rw [Mail.setFile_files, Function.update_of_ne hpath, Mail.unlink_files] at hp
      by_cases htmp : path = tmpPath task.spec.path
      · rw [htmp, Function.update_self] at hp
        cases hp
      · rw [Function.update_of_ne htmp] at hp
        exact hs.file path i hp
  | _ => exact hs.file path i hp

/-- A step of the target leaves nothing behind, since its files are those of tasks and it
makes no directory. -/
theorem Swept.targetStep {event : TargetEvent ε π} {t : Target} {mail : Mail} (hs : Swept w)
    (hw : Wired w) (ha : Addressed w) (h : targetStep w s event = some (t, mail)) :
    Swept (w.setTarget s t mail) := by
  refine ⟨hs.dirs, fun path i hp => ?_, hs.script⟩
  rcases targetStep_cases hw ha h with ⟨-, rfl, -⟩ | ⟨task, task', -, -, htask, -⟩
  · exact hs.file path i hp
  · exact hs.taskStep htask hp

/-! ## Runs -/

/-- Every step keeps the directories of the calls under way, whoever takes it. -/
theorem Available.step {event : Event ε π} (ha : Available w) (hkept : Kept w)
    (h : step w event = some w') : Available w' := by
  cases event with
  | handOut directory =>
    obtain ⟨hd, rfl⟩ := mkdtemp_eq_some.1 h
    exact ⟨ha.apart, (takes_mkdtemp hd).available ha, ha.listening, ha.nodup⟩
  | prober k event => exact ha.callStep hkept.wired (callStep_of_proberStep h)
  | target s event =>
    obtain ⟨⟨t, mail⟩, -, rfl⟩ := Option.map_eq_some_iff.1 h
    exact ha.setTarget t mail

/-- Every step whose `rmtree`s are not raced leaves nothing behind. -/
theorem Swept.step {event : Event ε π} (hs : Swept w) (ha : Available w) (hkept : Kept w)
    (hsweeps : event.Sweeps) (h : step w event = some w') : Swept w' := by
  cases event with
  | handOut directory =>
    obtain ⟨hd, rfl⟩ := mkdtemp_eq_some.1 h
    exact (takes_mkdtemp hd).swept hkept.wired hs
  | prober k event => exact hs.callStep ha hkept.wired hsweeps (callStep_of_proberStep h)
  | target s event =>
    obtain ⟨⟨t, mail⟩, hstep, rfl⟩ := Option.map_eq_some_iff.1 h
    exact hs.targetStep hkept.wired hkept.addressed hstep

/-- The invariants of every run, `rmtree` raced or not: what the calls work with is always
there. -/
theorem available_of_run {events : List (Event ε π)} (h : run Protocol.step init events = some w) :
    Kept w ∧ Available w :=
  run_invariant (I := fun w => Kept w ∧ Available w) (P := fun _ => True)
    (fun _ _ _ hi _ hs => ⟨hi.1.step hs, hi.2.step hi.1 hs⟩) ⟨.init, .init⟩
    (fun _ _ => trivial) h

/-- The step has `mkdtemp` hand out a directory that goes to no call: to somebody
else, or to a constructor that raises and leaves it. -/
def Event.Strays (directory : PyStr) : Event ε π → Prop
  | .handOut directory' => directory' = directory
  | .prober _ (.openFails directory') => directory' = directory
  | _ => False

/-- Every directory went to a call, for its channel or its script, or is one of these. -/
def Attributed (others : PyStr → Prop) (w : World) : Prop :=
  ∀ directory ∈ w.handed, others directory ∨
    (∃ k channel, w.channel k = some channel ∧ channel.directory = directory) ∨
      ∃ k, w.scriptDir k = some directory

/-- Every step keeps an owner for every directory that exists: a call, somebody else it
was handed out to, or a channel that could not be opened. -/
theorem Attributed.step {others : PyStr → Prop} {event : Event ε π}
    (ha : Attributed others w) (hkept : Kept w)
    (hothers : ∀ directory, event.Strays directory → others directory)
    (h : Protocol.step w event = some w') : Attributed others w' := by
  cases event with
  | handOut directory =>
    obtain ⟨-, rfl⟩ := mkdtemp_eq_some.1 h
    intro d hd
    rcases List.mem_cons.1 hd with rfl | hd
    · exact .inl (hothers d rfl)
    · exact ha d hd
  | prober k event =>
    have hcall := callStep_of_proberStep h
    have hkeep : ∀ d ∈ w.handed, others d ∨
        (∃ k channel, w'.channel k = some channel ∧ channel.directory = d) ∨
          ∃ k, w'.scriptDir k = some d := by
      intro d hd
      rcases ha d hd with ho | ⟨j, channel, hc, he⟩ | ⟨j, hj⟩
      · exact .inl ho
      · exact .inr (.inl ⟨j, channel, hcall.keeps_channel hkept.wired hc, he⟩)
      · exact .inr (.inr ⟨j, hcall.keeps_scriptDir hkept.wired hj⟩)
    intro d hd
    cases hcall with
    | openFails hk hnew =>
      rcases List.mem_cons.1 hd with rfl | hd
      · exact .inl (hothers d rfl)
      · exact hkeep d hd
    | openChannel hk hnew =>
      rcases List.mem_cons.1 hd with rfl | hd
      · exact .inr (.inl ⟨k, _, Function.update_self .., rfl⟩)
      · exact hkeep d hd
    | makeScriptDir hk hnew =>
      rcases List.mem_cons.1 hd with rfl | hd
      · exact .inr (.inr ⟨k, Function.update_self ..⟩)
      · exact hkeep d hd
    | _ => exact hkeep d hd
  | target s event =>
    obtain ⟨⟨t, mail⟩, -, rfl⟩ := Option.map_eq_some_iff.1 h
    exact ha

omit [FloatText] in
/-- What is in use is there: no call finds its directory removed under it. -/
theorem Available.mem_dirs (ha : Available w) (hw : Wired w) {directory : PyStr}
    (h : InUse w directory) : directory ∈ w.dirs := by
  rcases h with ⟨k, channel, hc, rfl, hdone⟩ | ⟨k, hk, hdir⟩
  · refine ha.dirs _ (hw.channel_handed k channel hc) ?_
    rintro (⟨j, channel', hc', he, hdone'⟩ | ⟨j, hj, -⟩)
    · obtain rfl := hw.channel_inj j k _ _ hc' hc he
      rw [hdone] at hdone'
      cases hdone'
    · exact ha.apart k j channel _ hc hj rfl
  · refine ha.dirs _ (hw.scriptDir_handed k _ hk) ?_
    rintro (⟨j, channel, hc, he, -⟩ | ⟨j, hj, hdir'⟩)
    · exact ha.apart j k channel _ hc hk he
    · obtain rfl := hw.scriptDir_inj j k _ hj hk
      rw [hdir] at hdir'
      cases hdir'

end Events

end Protocol
end Pidprobe
