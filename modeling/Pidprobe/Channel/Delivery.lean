/-
# A call ends, and its answer gets through

Safety is not bought by standing still.  Whatever the target and the other calls
have done, a call that has begun comes to its end by steps of its own
(`calls_can_end`); and while it waits, its own script alone can still hand it the
answer to any evaluation, which no other call and no other script can prevent
(`answers_get_through`).
-/

import Pidprobe.Channel.Leftovers
import Pidprobe.Lib.Simulation

namespace Pidprobe
namespace Protocol

open Function (update)

section

variable [FloatText] {ε π : Type} [PyException ε] [Serial ε π] {w w' : World} {k : ℕ} {s : PyStr}

/-! ## One party at a time -/

omit [FloatText] in
@[simp] theorem World.setPhase_setPhase (w : World) (k : ℕ) (p q : Phase) :
    (w.setPhase k p).setPhase k q = w.setPhase k q := by
  simp [World.setPhase]

omit [FloatText] in
@[simp] theorem World.setTarget_setTarget (w : World) (s : PyStr) (t t' : Target)
    (mail mail' : Mail) :
    (w.setTarget s t mail).setTarget s t' mail' = w.setTarget s t' mail' := by
  simp [World.setTarget]

omit [FloatText] in
/-- Setting a task to what it is changes nothing. -/
theorem World.setTarget_eq_self {t : Target} (ht : w.target s = t) :
    w.setTarget s t w.mail = w := by
  rw [World.setTarget, ← ht, Function.update_eq_self]

/-- A run without steps stays where it is. -/
theorem run_nil (w : World) : run (step (ε := ε) (π := π)) w [] = some w := rfl

/-- A step of the task of `s`, and what follows it: a run of one script is built event by
event. -/
theorem run_target_cons {task task' : Task} {mail mail' : Mail} {event : TargetEvent ε π}
    {later : List (Event ε π)}
    (h : taskStep (w.setTarget s (.running task) mail) s task event = some (task', mail'))
    (hlater : run step (w.setTarget s (.running task') mail') later = some w') :
    run step (w.setTarget s (.running task) mail) (.target s event :: later) = some w' := by
  refine run_cons.2 ⟨_, ?_, hlater⟩
  have hstep : targetStep (w.setTarget s (.running task) mail) s event =
      some (.running task', mail') := by
    simp only [targetStep, World.setTarget_self, h, Option.map_some]
  rw [step, hstep, Option.map_some, World.setTarget_setTarget]

/-! ## The task writes its answer -/

/-- The answer lies where its call looks for it, whole: in the result file, or in a
connection that is closed behind it. -/
structure Answered (w w' : World) (s : PyStr) (channel : Channel) (data : List Byte) : Prop where
  phase : w'.phase = w.phase
  channels : w'.channel = w.channel
  scriptDir : w'.scriptDir = w.scriptDir
  bytes : w'.mail.bytes s = data
  file : channel.kind = .tempfile → w'.mail.files channel.path = some s
  conn : channel.kind = .unixSocket → w'.mail.conns s = some ⟨channel.path, false, true⟩

/-- The events of a task that writes its answer back: evaluation, then one of the two
write-backs with nothing going wrong. -/
def answering (s : PyStr) (outcome : Except ε π) (data : List Byte) :
    ChannelKind → List (Event ε π)
  | .tempfile => [.target s (.collect outcome), .target s .openTmp, .target s (.write .all),
      .target s .closeTmp, .target s .replace]
  | .unixSocket => [.target s (.collect outcome), .target s .connect,
      .target s (.send data.length), .target s .shutdown]

/-- Over a file, a task that has not begun can write its answer and rename it into place
by steps of its own, where the directory still exists and nobody else owns the temporary
path. -/
theorem answering_tempfile {task : Task} {channel : Channel} {outcome : Except ε π}
    {data : List Byte} (hstart : task.stage = .start) (hspec : task.spec = channel.spec)
    (hkind : channel.kind = .tempfile) (hdir : channel.directory ∈ w.dirs)
    (howner : ∀ i, w.mail.files (tmpPath channel.path) = some i → i = s)
    (hdata : Inject.pidprobeData outcome = .ok data) (ht : w.target s = .running task) :
    ∃ w', run step w (answering s outcome data channel.kind) = some w' ∧
      Answered w w' s channel data := by
  obtain ⟨spec, old, stage⟩ := task
  obtain rfl : stage = .start := hstart
  obtain rfl : spec = channel.spec := hspec
  have hpath : channel.spec.path = channel.path := rfl
  have hspecKind : channel.spec.kind = .tempfile := hkind
  have hbelow : w.dirs.any (below · (tmpPath channel.path)) = true :=
    List.any_eq_true.2 ⟨_, hdir, decide_eq_true ⟨channel.kind.filename ++ py ".tmp", by
      simp [tmpPath, Channel.path, inDir]⟩⟩
  have hfd : (w.mail.files (tmpPath channel.path)).getD s = s := by
    rcases hf : w.mail.files (tmpPath channel.path) with _ | i
    · rfl
    · exact howner i hf
  let opened := (w.mail.setBytes s []).setFile s (tmpPath channel.path)
  let wrote := opened.setBytes s data
  let published := (wrote.unlink (tmpPath channel.path)).setFile s channel.path
  have hcollect : taskStep (w.setTarget s (.running ⟨channel.spec, old, .start⟩) w.mail) s
      ⟨channel.spec, old, .start⟩ (.collect outcome) =
      some (⟨channel.spec, some data, .collected⟩, w.mail) := by
    simp [taskStep, hdata]
  have hopen : taskStep (ε := ε) (π := π)
      (w.setTarget s (.running ⟨channel.spec, some data, .collected⟩) w.mail) s
      ⟨channel.spec, some data, .collected⟩ .openTmp =
      some (⟨channel.spec, some data, .opened s⟩, opened) := by
    have hdirs : (w.setTarget s (.running ⟨channel.spec, some data, .collected⟩) w.mail).dirs =
        w.dirs := rfl
    simp only [taskStep, hpath, hspecKind, hdirs, hbelow, World.setTarget_mail, hfd, and_self,
      if_true]
    rfl
  have hwrite : taskStep (ε := ε) (π := π)
      (w.setTarget s (.running ⟨channel.spec, some data, .opened s⟩) opened) s
      ⟨channel.spec, some data, .opened s⟩ (.write .all) =
      some (⟨channel.spec, some data, .wrote s⟩, wrote) := by
    simp [taskStep, Count.taken, opened, wrote]
  have hclose : taskStep (ε := ε) (π := π)
      (w.setTarget s (.running ⟨channel.spec, some data, .wrote s⟩) wrote) s
      ⟨channel.spec, some data, .wrote s⟩ .closeTmp =
      some (⟨channel.spec, some data, .closed⟩, wrote) := by
    simp [taskStep]
  have hreplace : taskStep (ε := ε) (π := π)
      (w.setTarget s (.running ⟨channel.spec, some data, .closed⟩) wrote) s
      ⟨channel.spec, some data, .closed⟩ .replace =
      some (⟨channel.spec, some data, .ended⟩, published) := by
    simp [taskStep, hpath, opened, wrote, published]
  rw [hkind, answering]
  refine ⟨w.setTarget s (.running ⟨channel.spec, some data, .ended⟩) published, ?_, ?_⟩
  · have hrun := run_target_cons hcollect (run_target_cons hopen (run_target_cons hwrite
      (run_target_cons hclose (run_target_cons hreplace (run_nil _)))))
    rwa [World.setTarget_eq_self ht] at hrun
  · refine ⟨rfl, rfl, rfl, ?_, fun _ => ?_, fun h => ?_⟩
    · simp [published, wrote]
    · simp [published]
    · rw [hkind] at h
      cases h

/-- Over a socket that listens, a task that has not begun can connect, send its answer and
close by steps of its own. -/
theorem answering_unixSocket {task : Task} {channel : Channel} {outcome : Except ε π}
    {data : List Byte} (hstart : task.stage = .start) (hspec : task.spec = channel.spec)
    (hkind : channel.kind = .unixSocket) (hlistens : channel.path ∈ w.listening)
    (hempty : w.mail.bytes s = []) (hne : data ≠ [])
    (hdata : Inject.pidprobeData outcome = .ok data) (ht : w.target s = .running task) :
    ∃ w', run step w (answering s outcome data channel.kind) = some w' ∧
      Answered w w' s channel data := by
  obtain ⟨spec, old, stage⟩ := task
  obtain rfl : stage = .start := hstart
  obtain rfl : spec = channel.spec := hspec
  have hpath : channel.spec.path = channel.path := rfl
  have hspecKind : channel.spec.kind = .unixSocket := hkind
  let connected := w.mail.setConn s (some ⟨channel.path, false, false⟩)
  let sent := connected.setBytes s data
  have hcollect : taskStep (w.setTarget s (.running ⟨channel.spec, old, .start⟩) w.mail) s
      ⟨channel.spec, old, .start⟩ (.collect outcome) =
      some (⟨channel.spec, some data, .collected⟩, w.mail) := by
    simp [taskStep, hdata]
  have hconnect : taskStep (ε := ε) (π := π)
      (w.setTarget s (.running ⟨channel.spec, some data, .collected⟩) w.mail) s
      ⟨channel.spec, some data, .collected⟩ .connect =
      some (⟨channel.spec, some data, .connected data⟩, connected) := by
    have hlistening : (w.setTarget s (.running ⟨channel.spec, some data, .collected⟩)
        w.mail).listening = w.listening := rfl
    simp [taskStep, hpath, hspecKind, hlistening, hlistens, connected]
  have hsend : taskStep (ε := ε) (π := π)
      (w.setTarget s (.running ⟨channel.spec, some data, .connected data⟩) connected) s
      ⟨channel.spec, some data, .connected data⟩ (.send data.length) =
      some (⟨channel.spec, some data, .connected []⟩, sent) := by
    have hpos : 1 ≤ data.length := List.length_pos_iff.2 hne
    simp [taskStep, hpos, hempty, connected, sent]
  have hshutdown : taskStep (ε := ε) (π := π)
      (w.setTarget s (.running ⟨channel.spec, some data, .connected []⟩) sent) s
      ⟨channel.spec, some data, .connected []⟩ .shutdown =
      some (⟨channel.spec, some data, .ended⟩, sent.close s) := by
    simp [taskStep]
  rw [hkind, answering]
  refine ⟨w.setTarget s (.running ⟨channel.spec, some data, .ended⟩) (sent.close s), ?_, ?_⟩
  · have hrun := run_target_cons hcollect (run_target_cons hconnect (run_target_cons hsend
      (run_target_cons hshutdown (run_nil _))))
    rwa [World.setTarget_eq_self ht] at hrun
  · refine ⟨rfl, rfl, rfl, ?_, fun h => ?_, fun _ => ?_⟩
    · simp [sent]
    · rw [hkind] at h
      cases h
    · simp [Mail.close, sent, connected]

end

/-! ## A call goes on alone -/

section

variable {w w' w₁ : World} {k n : ℕ} {s : PyStr}

/-- The call ends by at most `n` steps of its own, none of which raises. Nothing is asked of
the target or of the other calls. -/
def EndsAlone (n : ℕ) (w : World) (k : ℕ) : Prop :=
  ∃ events : List ProberEvent, events.length ≤ n ∧ (∀ exc, .abort exc ∉ events) ∧
    ∃ w' outcome, run (fun w event => proberStep w k event) w events = some w' ∧
      w'.phase k = .done outcome

/-- A call that can end alone in so many steps can do so in more. -/
theorem EndsAlone.mono {m : ℕ} (h : EndsAlone n w k) (hle : n ≤ m) : EndsAlone m w k := by
  obtain ⟨events, hlen, hrest⟩ := h
  exact ⟨events, hlen.trans hle, hrest⟩

/-- A step of the call itself, none of which is an exception from outside, in front of
an end in so many steps. -/
theorem EndsAlone.cons {event : ProberEvent} (h : proberStep w k event = some w₁)
    (hevent : ∀ exc, event ≠ .abort exc) (hw₁ : EndsAlone n w₁ k) : EndsAlone (n + 1) w k := by
  obtain ⟨events, hlen, hno, w', outcome, hrun, hdone⟩ := hw₁
  refine ⟨event :: events, Nat.succ_le_succ hlen, fun exc hmem => ?_, w', outcome,
    run_cons.2 ⟨w₁, h, hrun⟩, hdone⟩
  rcases List.mem_cons.1 hmem with he | hmem
  · exact hevent exc he.symm
  · exact hno exc hmem

/-- A call that is done has ended. -/
theorem endsAlone_done {outcome : Outcome} (hk : w.phase k = .done outcome) :
    EndsAlone 0 w k :=
  ⟨[], le_rfl, nofun, w, outcome, rfl, hk⟩

/-- A call that closes its channel ends with that. -/
theorem endsAlone_closing {outcome : Outcome} {channel : Channel}
    (hk : w.phase k = .closing outcome) (hc : w.channel k = some channel) :
    EndsAlone 1 w k := by
  have hstep : proberStep w k (.closeChannel []) = some
      { (w.rmtree channel.directory []).setPhase k (.done outcome) with
        listening := w.listening.erase channel.path } := by
    simp [proberStep, hk, hc]
  exact .cons hstep (by simp) (endsAlone_done (World.setPhase_self ..))

/-- A call that leaves its `with` block has the script directory to remove and the channel
to close. -/
theorem endsAlone_leaving {outcome : Outcome} {channel : Channel} {directory : PyStr}
    (hk : w.phase k = .leaving outcome) (hc : w.channel k = some channel)
    (hd : w.scriptDir k = some directory) : EndsAlone 2 w k := by
  have hstep : proberStep w k (.removeScriptDir []) = some
      ((w.rmtree directory []).setPhase k (.closing outcome)) := by
    simp [proberStep, hk, hd]
  exact .cons hstep (by simp) (endsAlone_closing (World.setPhase_self ..) hc)

/-- A call that waits can time out, whatever the target does, and then clean up: three
steps. -/
theorem endsAlone_waiting {channel : Channel} {directory : PyStr} (hk : w.phase k = .waiting)
    (hc : w.channel k = some channel) (hd : w.scriptDir k = some directory) :
    EndsAlone 3 w k := by
  have hstep : proberStep w k .timeout = some (w.setPhase k (.leaving .timedOut)) := by
    simp [proberStep, hk]
  exact .cons hstep (by simp) (endsAlone_leaving (World.setPhase_self ..) hc hd)

/-- At the end of a file or a connection: the reading ends, with the outcome or with another
poll that times out. -/
theorem endsAlone_endOfFile {channel : Channel} {directory : PyStr} {chunks : List (List Byte)}
    (hk : w.phase k = .reading s chunks) (hc : w.channel k = some channel)
    (hd : w.scriptDir k = some directory)
    (hend : chunks.flatten.length = (w.mail.bytes s).length)
    (hclosed : w.mail.isClosed channel.kind s = true) : EndsAlone 4 w k := by
  have hstep : proberStep w k .endOfFile =
      some (w.setPhase k (afterRead channel.kind s chunks)) := by
    simp [proberStep, hk, hc, hend, hclosed]
  refine .cons hstep (by simp) ?_
  rcases afterRead_cases channel.kind s chunks with ha | ⟨-, ha⟩ <;> rw [ha]
  · exact (endsAlone_leaving (World.setPhase_self ..) hc hd).mono (by omega)
  · exact endsAlone_waiting (World.setPhase_self ..) hc hd

/-- A call that reads a file reads the rest of it; one that reads from a connection
gives up. -/
theorem endsAlone_reading {channel : Channel} {directory : PyStr} {chunks : List (List Byte)}
    (hk : w.phase k = .reading s chunks) (hc : w.channel k = some channel)
    (hd : w.scriptDir k = some directory) (hpre : chunks.flatten <+: w.mail.bytes s) :
    EndsAlone 5 w k := by
  cases hkind : channel.kind with
  | unixSocket =>
    have hstep : proberStep w k .timeout = some (w.setPhase k (.leaving .timedOut)) := by
      simp [proberStep, hk, hc, hkind]
    exact (EndsAlone.cons hstep (by simp) (endsAlone_leaving (World.setPhase_self ..) hc hd)).mono
      (by omega)
  | tempfile =>
    obtain ⟨rest, hrest⟩ := hpre
    by_cases hnil : rest = []
    · have hend : chunks.flatten.length = (w.mail.bytes s).length := by
        rw [← hrest, hnil, List.append_nil]
      exact (endsAlone_endOfFile hk hc hd hend (by rw [hkind]; rfl)).mono (by omega)
    · have hstep : proberStep w k (.read rest.length) =
          some (w.setPhase k (.reading s (chunks ++ [rest]))) := by
        simp [proberStep, hk, ← hrest, hnil]
      refine .cons hstep (by simp) (endsAlone_endOfFile (World.setPhase_self ..) hc hd ?_ ?_)
      · show (chunks ++ [rest]).flatten.length = (w.mail.bytes s).length
        rw [← hrest, List.flatten_append, List.flatten_singleton]
      · rw [hkind]
        rfl

/-- A call with its script written has the injection in front of the wait, and the target
is there or not. -/
theorem endsAlone_scripted {channel : Channel} {directory : PyStr} (hk : w.phase k = .scripted)
    (hc : w.channel k = some channel) (hd : w.scriptDir k = some directory) :
    EndsAlone 4 w k := by
  have hstep : proberStep w k .remoteExec = some { w.setPhase k .waiting with
      target := update w.target (scriptPath directory) .pending } := by
    simp [proberStep, hk, hd]
  exact .cons hstep (by simp) (endsAlone_waiting (World.setPhase_self ..) hc hd)

/-- A call with a path for its script has the script to write and to inject before it can
wait: five steps. -/
theorem endsAlone_located {channel : Channel} {directory : PyStr} (hk : w.phase k = .located)
    (hc : w.channel k = some channel) (hd : w.scriptDir k = some directory) :
    EndsAlone 5 w k := by
  have hstep : proberStep w k (.writeScript []) = some { w.setPhase k .scripted with
      scripts := update w.scripts (scriptPath directory) (some ⟨[], channel.spec⟩) } := by
    simp [proberStep, hk, hc, hd]
  exact .cons hstep (by simp) (endsAlone_scripted (World.setPhase_self ..) hc hd)

/-- A call with its channel open has the directory of the script to make: six steps in
all, the most there are. -/
theorem endsAlone_opened {channel : Channel} (hk : w.phase k = .opened)
    (hc : w.channel k = some channel) : EndsAlone 6 w k := by
  obtain ⟨directory, hnew⟩ := Infinite.exists_notMem_finset w.handed.toFinset
  rw [List.mem_toFinset] at hnew
  have hstep : proberStep w k (.makeScriptDir directory) = some { w with
      handed := directory :: w.handed
      dirs := directory :: w.dirs
      phase := update w.phase k .located
      scriptDir := update w.scriptDir k (some directory) } := by
    simp [proberStep, hk, World.mkdtemp, hnew, World.setPhase]
  exact .cons hstep (by simp)
    (endsAlone_located (Function.update_self ..) hc (Function.update_self ..))

end

/-! ## The call reads the answer -/

section

variable {w w' w₁ : World} {k : ℕ} {s : PyStr}

/-- The steps of a call that finds the answer of `s`: it opens the file or accepts the
connection, reads it in one chunk, and cleans up. -/
def reading (s : PyStr) (data : List Byte) (kind : ChannelKind) : List ProberEvent :=
  [match kind with
    | .tempfile => .openResult
    | .unixSocket => .accept s,
    .read data.length, .endOfFile, .removeScriptDir [], .closeChannel []]

/-- A call that has opened the file or the connection reads it to the end, and is done with
the one chunk it read. -/
theorem run_reading {channel : Channel} {directory : PyStr} {data : List Byte}
    (hk : w.phase k = .reading s []) (hc : w.channel k = some channel)
    (hd : w.scriptDir k = some directory) (hbytes : w.mail.bytes s = data) (hne : data ≠ [])
    (hclosed : w.mail.isClosed channel.kind s = true)
    (htext : afterRead channel.kind s [data] = .leaving (.received s [data])) :
    ∃ w', run (fun w event => proberStep w k event) w
        [.read data.length, .endOfFile, .removeScriptDir [], .closeChannel []] = some w' ∧
      w'.phase k = .done (.received s [data]) ∧ w'.channel k = some channel := by
  have hread : proberStep w k (.read data.length) =
      some (w.setPhase k (.reading s [data])) := by
    simp [proberStep, hk, hbytes, hne]
  have hend : proberStep (w.setPhase k (.reading s [data])) k .endOfFile =
      some (w.setPhase k (.leaving (.received s [data]))) := by
    have hchannel : (w.setPhase k (.reading s [data])).channel k = some channel := hc
    have hmail : (w.setPhase k (.reading s [data])).mail = w.mail := rfl
    simp [proberStep, hchannel, hmail, hbytes, hclosed, htext]
  have hremove : proberStep (w.setPhase k (.leaving (.received s [data]))) k
      (.removeScriptDir []) = some ((w.rmtree directory []).setPhase k
        (.closing (.received s [data]))) := by
    have hdir : (w.setPhase k (.leaving (.received s [data]))).scriptDir k = some directory := hd
    simp only [proberStep, World.setPhase_self, hdir, Option.some.injEq]
    exact World.setPhase_setPhase (w.rmtree directory []) k _ _
  have hclose : proberStep ((w.rmtree directory []).setPhase k (.closing (.received s [data]))) k
      (.closeChannel []) = some { (((w.rmtree directory []).setPhase k
          (.closing (.received s [data]))).rmtree channel.directory []).setPhase k
            (.done (.received s [data])) with
        listening := w.listening.erase channel.path } := by
    have hchannel : ((w.rmtree directory []).setPhase k (.closing (.received s [data]))).channel
        k = some channel := hc
    simp only [proberStep, World.setPhase_self, hchannel]
    rfl
  exact ⟨_, run_cons.2 ⟨_, hread, run_cons.2 ⟨_, hend, run_cons.2 ⟨_, hremove,
    run_cons.2 ⟨_, hclose, rfl⟩⟩⟩⟩, World.setPhase_self .., hc⟩

/-- A call that waits, once the answer of its script is there, comes to its end with that
answer, over either transport. -/
theorem run_reading_answered {channel : Channel} {directory : PyStr} {data : List Byte}
    (hk : w.phase k = .waiting) (hc : w.channel k = some channel)
    (hd : w.scriptDir k = some directory) (ha : Answered w w' s channel data) (hne : data ≠ [])
    (htext : afterRead channel.kind s [data] = .leaving (.received s [data])) :
    ∃ w₂, run (fun w event => proberStep w k event) w' (reading s data channel.kind) = some w₂ ∧
      w₂.phase k = .done (.received s [data]) ∧ w₂.channel k = some channel := by
  obtain ⟨hphase, hchannels, hdirs, hbytes, hfile, hconn⟩ := ha
  rw [← hphase] at hk
  rw [← hchannels] at hc
  rw [← hdirs] at hd
  cases hkind : channel.kind with
  | tempfile =>
    have hopen : proberStep w' k .openResult = some (w'.setPhase k (.reading s [])) := by
      simp [proberStep, hk, hc, hkind, hfile hkind]
    obtain ⟨w₂, hrun, hdone⟩ := run_reading (w := w'.setPhase k (.reading s []))
      (World.setPhase_self ..) hc hd hbytes hne (by rw [hkind]; rfl) htext
    exact ⟨w₂, run_cons.2 ⟨_, hopen, hrun⟩, hdone⟩
  | unixSocket =>
    have haccept : proberStep w' k (.accept s) = some { w'.setPhase k (.reading s []) with
        mail := w'.mail.setConn s (some ⟨channel.path, true, true⟩) } := by
      simp [proberStep, hk, hc, hkind, hconn hkind]
    obtain ⟨w₂, hrun, hdone⟩ := run_reading (w := { w'.setPhase k (.reading s []) with
        mail := w'.mail.setConn s (some ⟨channel.path, true, true⟩) })
      (World.setPhase_self ..) hc hd hbytes hne (by simp [hkind, Mail.isClosed]) htext
    exact ⟨w₂, run_cons.2 ⟨_, haccept, hrun⟩, hdone⟩

end

section Runs

variable [FloatText] {ε π : Type} [PyException ε] [Serial ε π] {w : World} {k : ℕ} {s : PyStr}

omit [FloatText] in
/-- From every phase a call comes to its end by itself. The longest way is the one of a call
that has just opened its channel. -/
theorem endsAlone (he : Equipped w) (ha : Addressed w) (hk : w.phase k ≠ .idle) :
    EndsAlone 6 w k := by
  obtain ⟨channel, hc⟩ := he.channel k hk
  have hdir : (w.phase k).hasScriptDir = true → ∃ directory, w.scriptDir k = some directory :=
    he.scriptDir k
  cases hp : w.phase k with
  | idle => exact absurd hp hk
  | opened => exact endsAlone_opened hp hc
  | located =>
    obtain ⟨directory, hd⟩ := hdir (by rw [hp]; rfl)
    exact (endsAlone_located hp hc hd).mono (by omega)
  | scripted =>
    obtain ⟨directory, hd⟩ := hdir (by rw [hp]; rfl)
    exact (endsAlone_scripted hp hc hd).mono (by omega)
  | waiting =>
    obtain ⟨directory, hd⟩ := hdir (by rw [hp]; rfl)
    exact (endsAlone_waiting hp hc hd).mono (by omega)
  | reading origin chunks =>
    obtain ⟨directory, hd⟩ := hdir (by rw [hp]; rfl)
    exact (endsAlone_reading hp hc hd (ha.reading k origin chunks hp).2.2).mono (by omega)
  | leaving outcome =>
    obtain ⟨directory, hd⟩ := hdir (by rw [hp]; rfl)
    exact (endsAlone_leaving hp hc hd).mono (by omega)
  | closing outcome => exact (endsAlone_closing hp hc).mono (by omega)
  | done outcome => exact (endsAlone_done hp).mono (by omega)

/-- **Calls can end.**  In every state any interleaving of calls and tasks comes to,
every call that has begun reaches its end by at most six steps of its own, whatever
the target does or leaves undone, and without an exception from outside. -/
theorem calls_can_end {events : List (Event ε π)} (h : run step init events = some w)
    (hk : w.phase k ≠ .idle) :
    ∃ later : List ProberEvent, later.length ≤ 6 ∧ (∀ exc, .abort exc ∉ later) ∧
      ∃ w' outcome, run (step (ε := ε) (π := π)) w (later.map (.prober k)) = some w' ∧
        w'.phase k = .done outcome := by
  obtain ⟨-, ha, -, he⟩ := Kept.init.run h
  obtain ⟨later, hlen, hno, w', outcome, hrun, hdone⟩ := endsAlone he ha hk
  exact ⟨later, hlen, hno, w', outcome, (run_map _).trans hrun, hdone⟩

omit [FloatText] in
/-- The first call has given up; the second one waits, and can end by six steps of its
own. -/
theorem calls_can_end_late_target :
    letI := Json.wholeFloats
    ∃ w, run step init (lateTarget.take 12) = some w ∧
      ∃ later : List ProberEvent, later.length ≤ 6 ∧ (∀ exc, .abort exc ∉ later) ∧
        ∃ w' outcome, run (step (ε := ExcData) (π := Json)) w (later.map (.prober 1)) = some w' ∧
          w'.phase 1 = .done outcome := by
  let _ := Json.wholeFloats
  have hphase : (run step init (lateTarget.take 12)).map (·.phase 1) = some .waiting := by
    decide +kernel
  obtain ⟨w, hrun, hw⟩ := Option.map_eq_some_iff.1 hphase
  exact ⟨w, hrun, calls_can_end hrun (by rw [hw]; nofun)⟩

/-! ## The answer -/

/-- An answer is never empty: a document of JSON has at least one character, and a character
at least one byte. -/
theorem encoded_ne_nil (v : Json) : Inject.encoded v ≠ [] := by
  intro hnil
  have hdecode := Inject.decode_encoded v
  have hempty : Utf8.decode [] = some [] := rfl
  rw [hnil, hempty, Option.some.injEq] at hdecode
  obtain ⟨c, rest, hv, -⟩ := Json.dumps_valueHead v
  rw [hv] at hdecode
  cases hdecode

/-- What the script encodes is read back as the text it encoded: JSON as `json.dumps`
writes it is ASCII and holds no line break. -/
theorem readText_encoded (v : Json) : readText (Inject.encoded v) = .ok v.dumps := by
  have hcr : ∀ c ∈ v.dumps, c ≠ cp '\r' := by
    rintro c hc rfl
    exact absurd (Json.dumps_printable v _ hc) (by decide)
  rw [readText, Inject.decode_encoded]
  exact congrArg Except.ok (TextWrap.translateNewlines_eq_self hcr)

/-- Both transports make the text of the answer out of a single piece that holds all of
it. -/
theorem result_encoded (kind : ChannelKind) (v : Json) :
    kind.result [Inject.encoded v] = .ok v.dumps := by
  cases kind with
  | unixSocket =>
    rw [ChannelKind.result, Socket.decodeChunks, List.flatten_singleton, Inject.decode_encoded]
    rfl
  | tempfile => rw [ChannelKind.result, List.flatten_singleton, readText_encoded]

/-- An envelope is not taken for an empty file, which is what makes
`TempFileChannel.receive` poll again. -/
theorem afterRead_encoded (kind : ChannelKind) (v : Json) :
    afterRead kind s [Inject.encoded v] = .leaving (.received s [Inject.encoded v]) := by
  obtain ⟨c, rest, hv, -⟩ := Json.dumps_valueHead v
  cases kind with
  | unixSocket => rfl
  | tempfile => simp only [afterRead, List.flatten_singleton, readText_encoded, hv]

/-- A script that its call waits for, and that has not been evaluated: it has been read by
the target and stands at its first line. -/
structure Unevaluated (w : World) (k : ℕ) (s : PyStr) : Prop where
  waiting : w.phase k = .waiting
  scriptOf : w.scriptOf k = some s
  running : ∃ task, w.target s = .running task ∧ task.stage = .start

/-- **Answers get through.**  In every state any interleaving of calls and tasks
comes to: where a call waits and the target has read its script, then whatever the
evaluation comes to, there are steps of this call and of this script alone after
which the call has returned the envelope that the script makes of it.  No other
call and no other script stands in the way. -/
theorem answers_get_through [Unicode] (loads : PyStr → Except PyStr Json)
    {events : List (Event ε π)} (h : run step init events = some w)
    (hs : Unevaluated w k s) (outcome : Except ε π) {v : Json}
    (hdata : Inject.pidprobeData outcome = .ok (Inject.encoded v)) :
    ∃ (kind : ChannelKind) (w' : World),
      run step w (answering s outcome (Inject.encoded v) kind ++
        (reading s (Inject.encoded v) kind).map (.prober k)) = some w' ∧
      w'.phase k = .done (.received s [Inject.encoded v]) ∧
        w'.returned loads k = (parseEnvelope loads v.dumps).toOption := by
  obtain ⟨hkept, hav⟩ := available_of_run h
  obtain ⟨hw, ha, -, he⟩ := hkept
  obtain ⟨hk, hscript, task, ht, hstart⟩ := hs
  obtain ⟨j, channel, ⟨hj, hc⟩, hspec⟩ := hw.task s task ht
  obtain rfl := hw.scriptOf_inj hj hscript
  obtain ⟨directory, hd⟩ := he.scriptDir j (by rw [hk]; rfl)
  have hopen : (w.phase j).isDone = false := by rw [hk]; rfl
  have hanswer : ∃ w', run step w (answering s outcome (Inject.encoded v) channel.kind) =
      some w' ∧ Answered w w' s channel (Inject.encoded v) := by
    cases hkind : channel.kind with
    | tempfile =>
      have hdir := hav.mem_dirs hw (.inl ⟨j, channel, hc, rfl, hopen⟩)
      have howner : ∀ i, w.mail.files (tmpPath channel.path) = some i → i = s := fun i hf =>
        ha.tmp_owner hw ht (by rw [hspec]; exact hf)
      exact hkind ▸ answering_tempfile hstart hspec hkind hdir howner hdata ht
    | unixSocket =>
      have hlistens := (hav.listening _).2 ⟨j, channel, hc, hkind, rfl, hopen⟩
      have hempty : w.mail.bytes s = [] := by
        have hok := ha.target s
        rw [ht, TargetOk, StageOk, hstart] at hok
        exact hok.2
      exact hkind ▸ answering_unixSocket hstart hspec hkind hlistens hempty (encoded_ne_nil v)
        hdata ht
  obtain ⟨w₁, hrun, hanswered⟩ := hanswer
  obtain ⟨w₂, hread, hdone, hchannel⟩ := run_reading_answered hk hc hd hanswered
    (encoded_ne_nil v) (afterRead_encoded channel.kind v)
  refine ⟨channel.kind, w₂, ?_, hdone, ?_⟩
  · exact run_append_eq_some.2 ⟨w₁, hrun, (run_map _).trans hread⟩
  · rw [World.returned, hdone, hchannel]
    simp only [result_encoded, ok_bind]

omit [FloatText] in
/-- The script of call 0, which has given up, is running as that of call 1 starts; call 1
gets its own answer. -/
theorem answers_get_through_late_target :
    letI := Unicode.fullwidth
    letI := Json.wholeFloats
    let s := scriptPath (py "/tmp/d")
    let data := Inject.encoded (Inject.okEnvelope (.obj []))
    let outcome : Except ExcData Json := .ok (.obj [])
    ∃ w kind w', run step init (lateTarget.take 12 ++ [.target s .load]) = some w ∧
      run step w (answering s outcome data kind ++
        (reading s data kind).map (.prober 1)) = some w' ∧
      w'.phase 1 = .done (.received s [data]) := by
  let _ := Unicode.fullwidth
  let _ := Json.wholeFloats
  intro s data outcome
  have hstate : (run step init (lateTarget.take 12 ++ [.target s .load])).map (fun w =>
      (w.phase 1, w.scriptOf 1, w.target s)) = some (.waiting, some s,
        .running ⟨⟨.tempfile, py "/tmp/c/result.json", 5⟩, none, .start⟩) := by decide +kernel
  obtain ⟨w, hrun, hw⟩ := Option.map_eq_some_iff.1 hstate
  obtain ⟨hphase, hw⟩ := Prod.mk.inj hw
  obtain ⟨hscript, htarget⟩ := Prod.mk.inj hw
  have hs : Unevaluated w 1 s := ⟨hphase, hscript, _, htarget, rfl⟩
  have hdata : Inject.pidprobeData outcome = .ok data := rfl
  obtain ⟨kind, w', hlater, hdone, -⟩ :=
    answers_get_through (Json.loads fun _ => py "Expecting value") hrun hs outcome hdata
  exact ⟨w, kind, w', hrun, hlater, hdone⟩

end Runs

end Protocol
end Pidprobe
