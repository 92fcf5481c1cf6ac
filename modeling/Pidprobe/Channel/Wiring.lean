/-
# One path, one call

`mkdtemp` never hands out a path twice, so a path names the one call it was made
for: every directory belongs to one call, and the script of a call has the path
of that call's channel in it and no other (`Wired`).  `Advances` is what all steps
of a call past the injection have in common.
-/

import Pidprobe.Channel.Protocol
import Pidprobe.Lib.Assignment

namespace Pidprobe
namespace Protocol

open Function (update)

/-! ## Paths -/

/-- Files of one name lie in different directories exactly where their paths differ. -/
theorem inDir_inj {directory directory' name : PyStr} :
    inDir directory name = inDir directory' name ↔ directory = directory' :=
  List.append_left_inj _

/-- The path of a script determines the directory it lies in. -/
theorem scriptPath_inj {directory directory' : PyStr} :
    scriptPath directory = scriptPath directory' ↔ directory = directory' := inDir_inj

/-- The last character tells the two kinds of channels and a temporary file
apart. -/
theorem getLast?_path (channel : Channel) :
    channel.path.getLast? = some (match channel.kind with
      | .unixSocket => cp 'k'
      | .tempfile => cp 'n') := by
  rw [Channel.path, inDir, List.getLast?_append]
  cases channel.kind <;> rfl

/-- The last character of a temporary path is the `p` of `.tmp`. -/
theorem getLast?_tmpPath (path : PyStr) : (tmpPath path).getLast? = some (cp 'p') := by
  rw [tmpPath, List.getLast?_append]
  rfl

/-- Two channels at one path share their directory, whatever their kinds are. -/
theorem directory_eq_of_path_eq {channel channel' : Channel}
    (h : channel.path = channel'.path) : channel.directory = channel'.directory := by
  have hlast := getLast?_path channel
  rw [h, getLast?_path] at hlast
  obtain ⟨kind, directory, timeoutSeconds⟩ := channel
  obtain ⟨kind', directory', timeoutSeconds'⟩ := channel'
  cases kind <;> cases kind'
  · exact inDir_inj.1 h
  · simp at hlast
  · simp at hlast
  · exact inDir_inj.1 h

/-- The temporary path determines the path the file is renamed to. -/
theorem tmpPath_inj {path path' : PyStr} : tmpPath path = tmpPath path' ↔ path = path' :=
  List.append_left_inj _

/-- No temporary path is that of a channel: the names of the channels' files do not end in
`p`. -/
theorem tmpPath_ne_path (path : PyStr) (channel : Channel) : tmpPath path ≠ channel.path := by
  intro h
  have hlast := getLast?_tmpPath path
  rw [h, getLast?_path] at hlast
  cases hk : channel.kind <;> simp [hk] at hlast

/-- A file is not renamed to itself. -/
theorem tmpPath_ne_self (path : PyStr) : tmpPath path ≠ path := by
  intro h
  have hlen := congrArg List.length h
  simp [tmpPath, py] at hlen

/-! ## Calls and their scripts -/

/-- Script `s` is the one call `k` injects, and `channel` is that call's. The invariant says
that this relation is one to one. -/
def Owns (w : World) (k : ℕ) (s : PyStr) (channel : Channel) : Prop :=
  w.scriptOf k = some s ∧ w.channel k = some channel

/-- Every directory belongs to one call, and every script has the path of its own
call's channel in it. -/
structure Wired (w : World) : Prop where
  channel_handed : ∀ k channel, w.channel k = some channel → channel.directory ∈ w.handed
  scriptDir_handed : ∀ k directory, w.scriptDir k = some directory → directory ∈ w.handed
  channel_inj : ∀ j k channel channel', w.channel j = some channel → w.channel k = some channel' →
    channel.directory = channel'.directory → j = k
  scriptDir_inj : ∀ j k directory, w.scriptDir j = some directory →
    w.scriptDir k = some directory → j = k
  idle : ∀ k, w.phase k = .idle → w.channel k = none
  opened : ∀ k, w.phase k = .idle ∨ w.phase k = .opened → w.scriptDir k = none
  script : ∀ s script, w.scripts s = some script →
    ∃ k channel, Owns w k s channel ∧ script.spec = channel.spec
  task : ∀ s task, w.target s = .running task →
    ∃ k channel, Owns w k s channel ∧ task.spec = channel.spec
  pending : ∀ s, w.target s = .pending → ∃ k, w.scriptOf k = some s
  uninjected : ∀ k s, w.phase k = .located ∨ w.phase k = .scripted → w.scriptOf k = some s →
    w.target s = .absent

/-- The script of a call is the one in its script directory, which it has from
`makeScriptDir` on. -/
theorem scriptOf_eq_some {w : World} {k : ℕ} {s : PyStr} :
    w.scriptOf k = some s ↔
      ∃ directory, w.scriptDir k = some directory ∧ s = scriptPath directory := by
  rw [World.scriptOf, Option.map_eq_some_iff]
  exact exists_congr fun _ => and_congr_right fun _ => eq_comm

/-- Before the first step there are no calls to be wired. -/
theorem Wired.init : Wired init := by
  constructor <;> simp [Protocol.init, World.scriptOf]

section Wired

variable {w w' : World} {j k : ℕ} {s : PyStr} {channel channel' : Channel}

/-- A script belongs to one call: its path determines the directory, and a directory was
handed out once. -/
theorem Wired.scriptOf_inj (h : Wired w) (hj : w.scriptOf j = some s) (hk : w.scriptOf k = some s) :
    j = k := by
  obtain ⟨directory, hdj, rfl⟩ := scriptOf_eq_some.1 hj
  obtain ⟨directory', hdk, he⟩ := scriptOf_eq_some.1 hk
  obtain rfl := scriptPath_inj.1 he
  exact h.scriptDir_inj j k _ hdj hdk

/-- A path belongs to one call. Two channels at one path would share their directory, which
`mkdtemp` never gives twice. -/
theorem Wired.path_inj (h : Wired w) (hj : w.channel j = some channel)
    (hk : w.channel k = some channel') (hp : channel.path = channel'.path) : j = k :=
  h.channel_inj j k _ _ hj hk (directory_eq_of_path_eq hp)

/-- What a call owns it still owns where the calls have kept their scripts and channels.
-/
theorem Owns.mono (h : Owns w k s channel)
    (hs : ∀ k s, w.scriptOf k = some s → w'.scriptOf k = some s)
    (hc : ∀ k channel, w.channel k = some channel → w'.channel k = some channel) :
    Owns w' k s channel := ⟨hs _ _ h.1, hc _ _ h.2⟩

/-- `mkdtemp` makes a directory nobody was handed before, and hands it out. This is all that
later proofs need of it. -/
theorem mkdtemp_eq_some {directory : PyStr} :
    w.mkdtemp directory = some w' ↔ directory ∉ w.handed ∧
      w' = { w with handed := directory :: w.handed, dirs := directory :: w.dirs } := by
  rw [World.mkdtemp]
  split_ifs with h
  · simp [h]
  · simp [h, eq_comm]

/-- The file or a connection at the path of a channel was made for script `s`. It is what a
call may open or accept. -/
def Found (w : World) (channel : Channel) (s : PyStr) : Prop :=
  channel.kind = .tempfile ∧ w.mail.files channel.path = some s ∨
    channel.kind = .unixSocket ∧
      ∃ conn, w.mail.conns s = some conn ∧ conn.path = channel.path

/-- A step of call `k` that neither takes a directory nor injects: nothing is
written, files may go, and `receive` goes on with what it found at its path. -/
structure Advances (w w' : World) (k : ℕ) : Prop where
  handed : w'.handed = w.handed
  channel : w'.channel = w.channel
  scriptDir : w'.scriptDir = w.scriptDir
  target : w'.target = w.target
  scripts : ∀ s script, w'.scripts s = some script → w.scripts s = some script
  bytes : w'.mail.bytes = w.mail.bytes
  files : ∀ p s, w'.mail.files p = some s → w.mail.files p = some s
  conns : ∀ s conn', w'.mail.conns s = some conn' →
    ∃ conn, w.mail.conns s = some conn ∧ conn.path = conn'.path
  others : ∀ j ≠ k, w'.phase j = w.phase j
  late : w'.phase k ≠ .idle ∧ w'.phase k ≠ .opened ∧ w'.phase k ≠ .located ∧ w'.phase k ≠ .scripted
  reading : ∀ s chunks, w'.phase k = .reading s chunks →
    (∃ channel, w.channel k = some channel ∧ chunks = [] ∧ Found w channel s) ∨
      ∃ before n, w.phase k = .reading s before ∧
        chunks = before ++ [((w.mail.bytes s).drop before.flatten.length).take n]
  received : ∀ s chunks, w'.outcome k = some (.received s chunks) →
    w.outcome k = some (.received s chunks) ∨
      w.phase k = .reading s chunks ∧ chunks.flatten.length = (w.mail.bytes s).length

/-- A call in one of the phases in front of the injection was there before a step that
advances another call, or this one to a later phase. -/
theorem Advances.of_phase {phase : Phase} (hadv : Advances w w' k)
    (hp : phase = .idle ∨ phase = .opened ∨ phase = .located ∨ phase = .scripted)
    (h : w'.phase j = phase) : w.phase j = phase := by
  rcases eq_or_ne j k with rfl | hne
  · obtain ⟨hidle, hopened, hlocated, hscripted⟩ := hadv.late
    rcases hp with rfl | rfl | rfl | rfl
    · exact absurd h hidle
    · exact absurd h hopened
    · exact absurd h hlocated
    · exact absurd h hscripted
  · rw [← hadv.others j hne, h]

/-- A step that only moves a call on keeps the wiring: it adds no script, no channel and no
directory, and tells the target nothing. -/
theorem Wired.advance (h : Wired w) (hadv : Advances w w' k) : Wired w' := by
  have hscript : w'.scriptOf = w.scriptOf := by
    funext k
    rw [World.scriptOf, World.scriptOf, hadv.scriptDir]
  have howns : ∀ k s channel, Owns w k s channel → Owns w' k s channel := fun k s channel ho => by
    rwa [Owns, hscript, hadv.channel]
  constructor
  case channel_handed =>
    rw [hadv.channel, hadv.handed]
    exact h.channel_handed
  case scriptDir_handed =>
    rw [hadv.scriptDir, hadv.handed]
    exact h.scriptDir_handed
  case channel_inj =>
    rw [hadv.channel]
    exact h.channel_inj
  case scriptDir_inj =>
    rw [hadv.scriptDir]
    exact h.scriptDir_inj
  case idle =>
    intro k hk
    rw [hadv.channel]
    exact h.idle k (hadv.of_phase (by simp) hk)
  case opened =>
    intro k hk
    rw [hadv.scriptDir]
    exact h.opened k (hk.imp (hadv.of_phase (by simp)) (hadv.of_phase (by simp)))
  case script =>
    intro s script hs
    obtain ⟨k, channel, ho, hspec⟩ := h.script s script (hadv.scripts s script hs)
    exact ⟨k, channel, howns _ _ _ ho, hspec⟩
  case task =>
    intro s task ht
    rw [hadv.target] at ht
    obtain ⟨k, channel, ho, hspec⟩ := h.task s task ht
    exact ⟨k, channel, howns _ _ _ ho, hspec⟩
  case pending =>
    rw [hadv.target, hscript]
    exact h.pending
  case uninjected =>
    intro k s hk
    rw [hadv.target, hscript]
    exact h.uninjected k s (hk.imp (hadv.of_phase (by simp)) (hadv.of_phase (by simp)))

/-- A directory that goes to no call does not matter to the wiring. -/
theorem Wired.mkdtemp (h : Wired w) {directory : PyStr}
    (hm : w.mkdtemp directory = some w') : Wired w' := by
  obtain ⟨-, rfl⟩ := mkdtemp_eq_some.1 hm
  exact { h with
    channel_handed := fun k channel hc => List.mem_cons_of_mem _ (h.channel_handed k channel hc)
    scriptDir_handed := fun k directory hd =>
      List.mem_cons_of_mem _ (h.scriptDir_handed k directory hd) }

/-- A new channel has a directory no other call has. -/
theorem Wired.openChannel (h : Wired w) (hk : w.phase k = .idle)
    (hm : channel.directory ∉ w.handed) (listening dirs : List PyStr) :
    Wired { w with
      handed := channel.directory :: w.handed
      dirs := dirs
      phase := update w.phase k .opened
      channel := update w.channel k (some channel)
      listening := listening } := by
  have hnew : ∀ j channel', w.channel j = some channel' → channel'.directory ≠ channel.directory :=
    fun j channel' hj he => hm (he ▸ h.channel_handed j channel' hj)
  have hmono : ∀ j channel', w.channel j = some channel' →
      update w.channel k (some channel) j = some channel' := fun j channel' =>
    Assignment.update_mono (h.idle k hk)
  constructor
  case channel_handed =>
    intro j channel' hj
    rcases Assignment.update_eq_some.1 hj with ⟨-, rfl⟩ | ⟨-, hj⟩
    · exact List.mem_cons_self ..
    · exact List.mem_cons_of_mem _ (h.channel_handed j channel' hj)
  case scriptDir_handed =>
    exact fun j directory hd => List.mem_cons_of_mem _ (h.scriptDir_handed j directory hd)
  case channel_inj => exact Assignment.update_inj hnew h.channel_inj
  case scriptDir_inj => exact h.scriptDir_inj
  case idle =>
    intro j hj
    rcases eq_or_ne j k with rfl | hne
    · simp at hj
    · simp only [Function.update_of_ne hne] at hj ⊢
      exact h.idle j hj
  case opened =>
    intro j hj
    rcases eq_or_ne j k with rfl | hne
    · exact h.opened j (Or.inl hk)
    · simp only [Function.update_of_ne hne] at hj
      exact h.opened j hj
  case script =>
    intro s script hs
    obtain ⟨j, channel', ho, hspec⟩ := h.script s script hs
    exact ⟨j, channel', ho.mono (fun _ _ => id) hmono, hspec⟩
  case task =>
    intro s task ht
    obtain ⟨j, channel', ho, hspec⟩ := h.task s task ht
    exact ⟨j, channel', ho.mono (fun _ _ => id) hmono, hspec⟩
  case pending => exact h.pending
  case uninjected =>
    intro j s hj
    rcases eq_or_ne j k with rfl | hne
    · simp at hj
    · simp only [Function.update_of_ne hne] at hj
      exact h.uninjected j s hj

/-- A new script directory is no other call's, and the target has not heard of a
script in it. -/
theorem Wired.makeScriptDir (h : Wired w) (hk : w.phase k = .opened) {directory : PyStr}
    (hm : directory ∉ w.handed) (dirs : List PyStr) :
    Wired { w with
      handed := directory :: w.handed
      dirs := dirs
      phase := update w.phase k .located
      scriptDir := update w.scriptDir k (some directory) } := by
  set w' : World := { w with
      handed := directory :: w.handed
      dirs := dirs
      phase := update w.phase k .located
      scriptDir := update w.scriptDir k (some directory) } with hw'
  have hold : ∀ j ≠ k, w'.scriptDir j = w.scriptDir j := fun j hne => Function.update_of_ne hne _ _
  have hself : w'.scriptDir k = some directory := Function.update_self ..
  have hphase : ∀ j ≠ k, w'.phase j = w.phase j := fun j hne => Function.update_of_ne hne _ _
  have hphaseSelf : w'.phase k = .located := Function.update_self ..
  have hmono : ∀ j s, w.scriptOf j = some s → w'.scriptOf j = some s := by
    intro j s hj
    obtain ⟨directory', hd, rfl⟩ := scriptOf_eq_some.1 hj
    exact scriptOf_eq_some.2 ⟨directory', Assignment.update_mono (h.opened k (Or.inr hk)) hd, rfl⟩
  have hnew : ∀ j, w.scriptOf j ≠ some (scriptPath directory) := by
    intro j hj
    obtain ⟨directory', hd, he⟩ := scriptOf_eq_some.1 hj
    obtain rfl := scriptPath_inj.1 he
    exact hm (h.scriptDir_handed j directory hd)
  constructor
  case channel_handed =>
    exact fun j channel hj => List.mem_cons_of_mem _ (h.channel_handed j channel hj)
  case scriptDir_handed =>
    intro j directory' hj
    rcases Assignment.update_eq_some.1 hj with ⟨-, rfl⟩ | ⟨-, hj⟩
    · exact List.mem_cons_self ..
    · exact List.mem_cons_of_mem _ (h.scriptDir_handed j directory' hj)
  case channel_inj => exact h.channel_inj
  case scriptDir_inj =>
    intro i j directory' hi hj
    have hne : ∀ i d, w.scriptDir i = some d → d ≠ directory := fun i d hi he =>
      hm (he ▸ h.scriptDir_handed i d hi)
    refine Assignment.update_inj (g := id) hne (fun i j d d' hi hj he => ?_) i j _ _ hi hj rfl
    obtain rfl : d = d' := he
    exact h.scriptDir_inj i j d hi hj
  case idle =>
    intro j hj
    rcases eq_or_ne j k with rfl | hne
    · simp [hphaseSelf] at hj
    · exact h.idle j (hphase j hne ▸ hj)
  case opened =>
    intro j hj
    rcases eq_or_ne j k with rfl | hne
    · simp [hphaseSelf] at hj
    · rw [hold j hne]
      exact h.opened j (hphase j hne ▸ hj)
  case script =>
    intro s script hs
    obtain ⟨j, channel, ho, hspec⟩ := h.script s script hs
    exact ⟨j, channel, ho.mono hmono fun _ _ => id, hspec⟩
  case task =>
    intro s task ht
    obtain ⟨j, channel, ho, hspec⟩ := h.task s task ht
    exact ⟨j, channel, ho.mono hmono fun _ _ => id, hspec⟩
  case pending =>
    intro s hs
    obtain ⟨j, hj⟩ := h.pending s hs
    exact ⟨j, hmono j s hj⟩
  case uninjected =>
    intro j s hj hs
    rcases eq_or_ne j k with rfl | hne
    · obtain rfl : scriptPath directory = s := by simpa [World.scriptOf, hself] using hs
      show w.target _ = .absent
      rcases ht : w.target (scriptPath directory) with _ | _ | task
      · rfl
      · obtain ⟨i, hi⟩ := h.pending _ ht
        exact absurd hi (hnew i)
      · obtain ⟨i, channel, ho, -⟩ := h.task _ task ht
        exact absurd ho.1 (hnew i)
    · rw [World.scriptOf, hold j hne] at hs
      exact h.uninjected j s (hphase j hne ▸ hj) hs

/-- A call never goes back to where it had no directories, nor to where its script
was not injected. -/
theorem Wired.setPhase (h : Wired w) {phase : Phase} (hidle : phase ≠ .idle)
    (hopened : phase ≠ .opened) (hback : phase = .located ∨ phase = .scripted →
      w.phase k = .located ∨ w.phase k = .scripted) : Wired (w.setPhase k phase) := by
  refine { h with idle := ?_, opened := ?_, uninjected := ?_ }
  · intro j hj
    rcases eq_or_ne j k with rfl | hne
    · rw [World.setPhase_self] at hj
      exact absurd hj hidle
    · rw [World.setPhase_of_ne hne] at hj
      exact h.idle j hj
  · intro j hj
    rcases eq_or_ne j k with rfl | hne
    · rw [World.setPhase_self] at hj
      exact (hj.elim hidle hopened).elim
    · rw [World.setPhase_of_ne hne] at hj
      exact h.opened j hj
  · intro j s hj
    rcases eq_or_ne j k with rfl | hne
    · rw [World.setPhase_self] at hj
      exact h.uninjected j s (hback hj)
    · rw [World.setPhase_of_ne hne] at hj
      exact h.uninjected j s hj

/-- Writing the script of a call to the path in its own directory keeps the wiring. -/
theorem Wired.writeScript (h : Wired w) (hk : w.phase k = .located) {directory : PyStr}
    (hd : w.scriptDir k = some directory) (hc : w.channel k = some channel)
    (collectorSource : PyStr) :
    Wired { w.setPhase k .scripted with
      scripts :=
        update w.scripts (scriptPath directory) (some ⟨collectorSource, channel.spec⟩) } := by
  have hw : Wired (w.setPhase k .scripted) := h.setPhase (by simp) (by simp) fun _ => Or.inl hk
  refine { hw with script := ?_ }
  intro s script hs
  rcases Assignment.update_eq_some.1 hs with ⟨rfl, rfl⟩ | ⟨-, hs⟩
  · exact ⟨k, channel, ⟨scriptOf_eq_some.2 ⟨directory, hd, rfl⟩, hc⟩, rfl⟩
  · exact h.script s script hs

/-- Injecting the script of a call makes a task that belongs to it alone. -/
theorem Wired.remoteExec (h : Wired w) (hs : w.scriptOf k = some s) :
    Wired { w.setPhase k .waiting with target := update w.target s .pending } := by
  have hw : Wired (w.setPhase k .waiting) := h.setPhase (by simp) (by simp) (by simp)
  refine { hw with task := ?_, pending := ?_, uninjected := ?_ }
  · intro i task hi
    rcases eq_or_ne i s with rfl | hne
    · simp at hi
    · simp only [Function.update_of_ne hne] at hi
      exact h.task i task hi
  · intro i hi
    rcases eq_or_ne i s with rfl | hne
    · exact ⟨k, hs⟩
    · simp only [Function.update_of_ne hne] at hi
      exact h.pending i hi
  · intro j i hj hi
    have hne : i ≠ s := by
      rintro rfl
      obtain rfl := h.scriptOf_inj hi hs
      simp at hj
    simp only [Function.update_of_ne hne]
    exact hw.uninjected j i hj hi

/-- A script the target knows is read, or its task goes on; the path it writes to
stays the one in the script. -/
theorem Wired.target (h : Wired w) {t : Target} (hs : w.target s ≠ .absent) (ht : t ≠ .pending)
    (hspec : ∀ task, t = .running task →
      (∃ script, w.scripts s = some script ∧ task.spec = script.spec) ∨
        ∃ task', w.target s = .running task' ∧ task.spec = task'.spec) (mail : Mail) :
    Wired (w.setTarget s t mail) := by
  refine { h with task := ?_, pending := ?_, uninjected := ?_ }
  · intro i task hi
    rcases eq_or_ne i s with rfl | hne
    · obtain rfl : t = .running task := by simpa using hi
      rcases hspec task rfl with ⟨script, hi, he⟩ | ⟨task', hi, he⟩
      · obtain ⟨k, channel, ho, hc⟩ := h.script i script hi
        exact ⟨k, channel, ho, he.trans hc⟩
      · obtain ⟨k, channel, ho, hc⟩ := h.task i task' hi
        exact ⟨k, channel, ho, he.trans hc⟩
    · rw [World.setTarget_of_ne hne] at hi
      exact h.task i task hi
  · intro i hi
    rcases eq_or_ne i s with rfl | hne
    · exact absurd (by simpa using hi) ht
    · rw [World.setTarget_of_ne hne] at hi
      exact h.pending i hi
  · intro j i hj hi
    have hi' : i ≠ s := by
      rintro rfl
      exact hs (h.uninjected j i hj hi)
    rw [World.setTarget_of_ne hi']
    exact h.uninjected j i hj hi

/-! ## The steps of a call -/

/-- A step that only changes the phase of the call, where it reads on from what it read, or
ends with what it read. -/
theorem Advances.setPhase {phase : Phase}
    (hlate : phase ≠ .idle ∧ phase ≠ .opened ∧ phase ≠ .located ∧ phase ≠ .scripted)
    (hreading : ∀ s chunks, phase = .reading s chunks →
      (∃ channel, w.channel k = some channel ∧ chunks = [] ∧ Found w channel s) ∨
        ∃ before n, w.phase k = .reading s before ∧
          chunks = before ++ [((w.mail.bytes s).drop before.flatten.length).take n])
    (hreceived : ∀ s chunks, phase.outcome = some (.received s chunks) →
      w.outcome k = some (.received s chunks) ∨
        w.phase k = .reading s chunks ∧ chunks.flatten.length = (w.mail.bytes s).length) :
    Advances w (w.setPhase k phase) k := by
  have hself : (w.setPhase k phase).phase k = phase := w.setPhase_self k _
  constructor
  case others => exact fun _ => World.setPhase_of_ne
  case late => rwa [hself]
  case reading => rwa [hself]
  case received => rwa [World.outcome, hself]
  case scripts => exact fun _ _ => id
  case files => exact fun _ _ => id
  case conns => exact fun _ conn' h => ⟨conn', h, rfl⟩
  all_goals rfl

/-- Removing a directory, and the end of the call: what is already read and written stays,
whatever survives the removal. -/
theorem Advances.rmtree {phase : Phase} {directory : PyStr} {survivors : List PyStr}
    (h : Advances w (w.setPhase k phase) k) :
    Advances w ((w.rmtree directory survivors).setPhase k phase) k := by
  refine { h with scripts := ?_, files := ?_ }
  · intro s script hs
    simp only [World.setPhase, World.rmtree] at hs
    split_ifs at hs
    exact hs
  · intro p s hp
    simp only [World.setPhase, World.rmtree] at hp
    split_ifs at hp
    exact hp

/-- The end of reading is the end of `receive`, or, where an empty file was read, another
poll. -/
theorem afterRead_cases (kind : ChannelKind) (origin : PyStr) (chunks : List (List Byte)) :
    afterRead kind origin chunks = .leaving (.received origin chunks) ∨
      kind = .tempfile ∧ afterRead kind origin chunks = .waiting := by
  unfold afterRead
  split
  · exact Or.inr ⟨rfl, rfl⟩
  · exact Or.inl rfl

/-- What a step of call `k` can be: it fails to open a channel, takes a directory,
writes the script, injects it, or advances. -/
inductive ProberStep (w : World) (k : ℕ) : World → Prop
  | openFails {w' : World} (directory : PyStr) (hk : w.phase k = .idle)
      (hm : w.mkdtemp directory = some w') : ProberStep w k w'
  | openChannel {channel : Channel} (listening : List PyStr) (hk : w.phase k = .idle)
      (hd : channel.directory ∉ w.handed) :
      ProberStep w k { w with
        handed := channel.directory :: w.handed
        dirs := channel.directory :: w.dirs
        phase := update w.phase k .opened
        channel := update w.channel k (some channel)
        listening := listening }
  | makeScriptDir {directory : PyStr} (hk : w.phase k = .opened) (hd : directory ∉ w.handed) :
      ProberStep w k { w with
        handed := directory :: w.handed
        dirs := directory :: w.dirs
        phase := update w.phase k .located
        scriptDir := update w.scriptDir k (some directory) }
  | writeScript {directory : PyStr} {channel : Channel} (source : PyStr)
      (hk : w.phase k = .located) (hd : w.scriptDir k = some directory)
      (hc : w.channel k = some channel) :
      ProberStep w k { w.setPhase k .scripted with
        scripts := update w.scripts (scriptPath directory) (some ⟨source, channel.spec⟩) }
  | remoteExec {s : PyStr} (hk : w.phase k = .scripted) (hs : w.scriptOf k = some s) :
      ProberStep w k { w.setPhase k .waiting with target := update w.target s .pending }
  | advance {w' : World} (hadv : Advances w w' k) : ProberStep w k w'

/-- What a step of the prober can do, one case for each of its events, with the guards the
event needs. -/
theorem proberStep_cases {event : ProberEvent} (h : proberStep w k event = some w') :
    ProberStep w k w' := by
  cases event with
  | openFails directory =>
    simp only [proberStep] at h
    split_ifs at h with hk
    exact .openFails directory hk h
  | openChannel kind directory timeoutSeconds =>
    by_cases hk : w.phase k = .idle
    swap
    · rw [proberStep, if_neg hk] at h
      cases h
    rw [proberStep, if_pos hk] at h
    obtain ⟨w₁, hm, rfl⟩ := Option.map_eq_some_iff.1 h
    obtain ⟨hd, rfl⟩ := mkdtemp_eq_some.1 hm
    have hnew : (⟨kind, directory, timeoutSeconds⟩ : Channel).directory ∉ w.handed := hd
    exact .openChannel _ hk hnew
  | makeScriptDir directory =>
    simp only [proberStep] at h
    split_ifs at h with hk
    obtain ⟨w₁, hm, rfl⟩ := Option.map_eq_some_iff.1 h
    obtain ⟨hd, rfl⟩ := mkdtemp_eq_some.1 hm
    exact .makeScriptDir hk hd
  | writeScript source =>
    simp only [proberStep] at h
    split at h
    · next channel directory hk hc hd =>
      obtain rfl := Option.some.inj h
      exact .writeScript source hk hd hc
    · cases h
  | remoteExec =>
    simp only [proberStep] at h
    split at h
    · next directory hk hd =>
      obtain rfl := Option.some.inj h
      exact .remoteExec hk (scriptOf_eq_some.2 ⟨directory, hd, rfl⟩)
    · cases h
  | openResult =>
    simp only [proberStep] at h
    split at h
    · next channel hk hc =>
      split_ifs at h with hkind
      obtain ⟨origin, hf, rfl⟩ := Option.map_eq_some_iff.1 h
      refine .advance (.setPhase (by simp) ?_ (by simp [Phase.outcome]))
      rintro s chunks ⟨⟩
      exact Or.inl ⟨channel, hc, rfl, Or.inl ⟨hkind, hf⟩⟩
    · cases h
  | accept s =>
    simp only [proberStep] at h
    split at h
    · next channel conn hk hc hs =>
      split_ifs at h with hconn
      obtain rfl := Option.some.inj h
      have hadv : Advances w (w.setPhase k (.reading s [])) k := by
        refine .setPhase (by simp) ?_ (by simp [Phase.outcome])
        rintro s chunks ⟨⟩
        exact Or.inl ⟨channel, hc, rfl, Or.inr ⟨hconn.1, conn, hs, hconn.2.1⟩⟩
      refine .advance { hadv with conns := ?_ }
      intro i conn' hi
      rcases eq_or_ne i s with rfl | hne
      · obtain rfl : { conn with accepted := true } = conn' := by simpa using hi
        exact ⟨conn, hs, rfl⟩
      · simp only [Mail.setConn_conns, Function.update_of_ne hne] at hi
        exact ⟨conn', hi, rfl⟩
    · cases h
  | read n =>
    simp only [proberStep] at h
    split at h
    · next origin chunks hk =>
      split_ifs at h
      obtain rfl := Option.some.inj h
      refine .advance (.setPhase (by simp) ?_ (by simp [Phase.outcome]))
      rintro s chunks' ⟨⟩
      exact Or.inr ⟨chunks, n, hk, rfl⟩
    · cases h
  | endOfFile =>
    simp only [proberStep] at h
    split at h
    · next origin chunks channel hk hc =>
      split_ifs at h with hend
      obtain rfl := Option.some.inj h
      refine .advance ?_
      rcases afterRead_cases channel.kind origin chunks with ha | ⟨-, ha⟩
      · rw [ha]
        refine .setPhase (by simp) (by simp) ?_
        rintro s chunks' ⟨⟩
        exact Or.inr ⟨hk, hend.1⟩
      · rw [ha]
        exact .setPhase (by simp) (by simp) (by simp [Phase.outcome])
    · cases h
  | timeout =>
    refine .advance ?_
    have hadv : Advances w (w.setPhase k (.leaving .timedOut)) k :=
      .setPhase (by simp) (by simp) (by simp [Phase.outcome])
    simp only [proberStep] at h
    split at h
    · exact Option.some.inj h ▸ hadv
    · split_ifs at h
      exact Option.some.inj h ▸ hadv
    · cases h
  | abort exc =>
    refine .advance ?_
    simp only [proberStep] at h
    split at h
    any_goals
      obtain rfl := Option.some.inj h
      exact .setPhase (by simp) (by simp) (by simp [Phase.outcome])
    cases h
  | removeScriptDir survivors =>
    simp only [proberStep] at h
    split at h
    · next outcome directory hk hd =>
      obtain rfl := Option.some.inj h
      refine .advance (Advances.rmtree (.setPhase (by simp) (by simp) ?_))
      intro s chunks ho
      exact Or.inl (by rwa [World.outcome, hk])
    · cases h
  | closeChannel survivors =>
    simp only [proberStep] at h
    split at h
    · next outcome channel hk hc =>
      obtain rfl := Option.some.inj h
      have hadv :
          Advances w ((w.rmtree channel.directory survivors).setPhase k (.done outcome)) k := by
        refine Advances.rmtree (.setPhase (by simp) (by simp) ?_)
        intro s chunks ho
        exact Or.inl (by rwa [World.outcome, hk])
      exact .advance { hadv with }
    · cases h

/-- A step of call `k` up to the injection: nothing is read or written, and a
script the target hears of is new to it. -/
structure Prepares (w w' : World) (k : ℕ) : Prop where
  mail : w'.mail = w.mail
  target : ∀ s, w'.target s = w.target s ∨ w.target s = .absent ∧ w'.target s = .pending
  scriptOf : ∀ j s, w.scriptOf j = some s → w'.scriptOf j = some s
  channel : ∀ j ≠ k, w'.channel j = w.channel j
  others : ∀ j ≠ k, w'.phase j = w.phase j
  outcome : w'.outcome k = none
  reading : ∀ s chunks, w'.phase k ≠ .reading s chunks

/-- A step that changes the phase of one call, adds to its script and channel and makes at
most one task pending prepares that call. -/
theorem Prepares.of_phase {phase : Phase} (hmail : w'.mail = w.mail)
    (htarget : ∀ s, w'.target s = w.target s ∨ w.target s = .absent ∧ w'.target s = .pending)
    (hs : ∀ j s, w.scriptOf j = some s → w'.scriptOf j = some s)
    (hc : ∀ j ≠ k, w'.channel j = w.channel j) (hphase : w'.phase = update w.phase k phase)
    (hout : phase.outcome = none) (hread : ∀ s chunks, phase ≠ .reading s chunks) :
    Prepares w w' k where
  mail := hmail
  target := htarget
  scriptOf := hs
  channel := hc
  others j hne := by rw [hphase, Function.update_of_ne hne]
  outcome := by rw [World.outcome, hphase, Function.update_self, hout]
  reading := by rwa [hphase, Function.update_self]

/-- A step of a call prepares the injection, or comes after it. The invariants treat the two
apart: only the first makes directories, scripts and tasks. -/
theorem proberStep_prepares_or_advances {event : ProberEvent} (hw : Wired w)
    (h : proberStep w k event = some w') : Prepares w w' k ∨ Advances w w' k := by
  cases proberStep_cases h with
  | openFails directory hk hm =>
    obtain ⟨-, rfl⟩ := mkdtemp_eq_some.1 hm
    have hidle : w.phase = update w.phase k .idle := (Function.update_eq_self_iff.2 hk.symm).symm
    exact Or.inl (.of_phase rfl (fun _ => Or.inl rfl) (fun _ _ => id) (fun _ _ => rfl) hidle rfl
      (by simp))
  | openChannel =>
    exact Or.inl (.of_phase rfl (fun _ => Or.inl rfl) (fun _ _ => id)
      (fun _ hne => Function.update_of_ne hne _ _) rfl rfl (by simp))
  | makeScriptDir hk hd =>
    refine Or.inl (.of_phase rfl (fun _ => Or.inl rfl) ?_ (fun _ _ => rfl) rfl rfl (by simp))
    intro j s hj
    rcases eq_or_ne j k with rfl | hne
    · rw [World.scriptOf, hw.opened j (Or.inr hk)] at hj
      cases hj
    · simpa only [World.scriptOf, Function.update_of_ne hne] using hj
  | writeScript =>
    exact Or.inl (.of_phase rfl (fun _ => Or.inl rfl) (fun _ _ => id) (fun _ _ => rfl) rfl rfl
      (by simp))
  | @remoteExec s hk hs =>
    refine Or.inl (.of_phase rfl ?_ (fun _ _ => id) (fun _ _ => rfl) rfl rfl (by simp))
    intro i
    rcases eq_or_ne i s with rfl | hne
    · exact Or.inr ⟨hw.uninjected k i (Or.inr hk) hs, Function.update_self ..⟩
    · exact Or.inl (Function.update_of_ne hne _ _)
  | advance hadv => exact Or.inr hadv

/-- A step of a call keeps the wiring: preparation by its four lemmas above, everything
behind it by `Wired.advance`. -/
theorem Wired.proberStep {event : ProberEvent} (hw : Wired w)
    (h : proberStep w k event = some w') : Wired w' := by
  cases proberStep_cases h with
  | openFails directory hk hm => exact hw.mkdtemp hm
  | openChannel listening hk hd => exact hw.openChannel hk hd listening _
  | makeScriptDir hk hd => exact hw.makeScriptDir hk hd _
  | writeScript source hk hd hc => exact hw.writeScript hk hd hc source
  | remoteExec hk hs => exact hw.remoteExec hs
  | advance hadv => exact hw.advance hadv

end Wired

end Protocol
end Pidprobe
