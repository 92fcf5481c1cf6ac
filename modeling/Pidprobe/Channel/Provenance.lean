/-
# Where an answer comes from

What a task writes is found at the path its script has in it, or beside it
(`Addressed`).  A call reads at its own path only, so what it reads was written by
the task of its own script, whatever the order of the steps: `no_stale_answers`.
-/

import Pidprobe.Channel.Wiring

namespace Pidprobe
namespace Protocol

open Function (update)

/-! ## What a task has written -/

/-- The bytes a task has written, stage by stage: none before the write-back, then a
beginning of what it produced, in its own file. -/
def StageOk (s : PyStr) (task : Task) (bytes : List Byte) : Prop :=
  match task.stage with
  | .start => task.data = none ∧ bytes = []
  | .collected => task.data.isSome ∧ bytes = []
  | .opened fd => task.data.isSome ∧ fd = s ∧ bytes = []
  | .wrote fd => fd = s ∧ ∃ data, task.data = some data ∧ bytes <+: data
  | .closed => ∃ data, task.data = some data ∧ bytes <+: data
  | .connected rest => task.spec.kind = .unixSocket ∧ task.data = some (bytes ++ rest)
  | .ended => bytes <+: task.data.getD []

/-- A script that has not begun has no bytes anywhere, and one that runs has those of its
stage. -/
def TargetOk (s : PyStr) : Target → List Byte → Prop
  | .running task, bytes => StageOk s task bytes
  | _, bytes => bytes = []

/-- At every stage the bytes are the beginning of what the task produced: nothing foreign is
ever mixed in. -/
theorem StageOk.bytes_front {s : PyStr} {task : Task} {bytes : List Byte}
    (h : StageOk s task bytes) : bytes <+: task.data.getD [] := by
  unfold StageOk at h
  split at h
  · simp [h.2]
  · simp [h.2]
  · simp [h.2.2]
  · obtain ⟨-, data, hd, hp⟩ := h
    simpa [hd] using hp
  · obtain ⟨data, hd, hp⟩ := h
    simpa [hd] using hp
  · simp [h.2]
  · exact h

/-- A task whose file or connection the prober may read: nothing it has written
is taken back. -/
def Readable (t : Target) : Prop :=
  ∃ task data, t = .running task ∧ task.data = some data ∧
    (task.stage = .ended ∨ ∃ rest, task.stage = .connected rest)

/-- A file at `p` fits the task that made it: the result file is there only once
the task is over. -/
def FileOk (t : Target) (p : PyStr) : Prop :=
  ∃ task data, t = .running task ∧ task.data = some data ∧
    (p = tmpPath task.spec.path ∧ task.stage ≠ .collected ∨
      p = task.spec.path ∧ task.stage = .ended)

/-- A connection to `p` fits the task that made it: the task was told to connect to `p`, and
has produced its data. -/
def ConnOk (t : Target) (p : PyStr) : Prop :=
  Readable t ∧ ∀ task, t = .running task → p = task.spec.path

/-- Every file and every connection is where the task that made it was told to
put it, and a call has read nothing but what the task of its own script wrote. -/
structure Addressed (w : World) : Prop where
  target : ∀ s, TargetOk s (w.target s) (w.mail.bytes s)
  file : ∀ p s, w.mail.files p = some s → FileOk (w.target s) p
  conn : ∀ s conn, w.mail.conns s = some conn → ConnOk (w.target s) conn.path
  reading : ∀ k s chunks, w.phase k = .reading s chunks →
    w.scriptOf k = some s ∧ Readable (w.target s) ∧ chunks.flatten <+: w.mail.bytes s
  received : ∀ k s chunks, w.outcome k = some (.received s chunks) →
    w.scriptOf k = some s ∧ ∃ data, w.produced s = some data ∧ chunks.flatten <+: data

/-- Before the first step no task runs and no file is there. -/
theorem Addressed.init : Addressed init := by
  constructor <;> simp [Protocol.init, TargetOk, World.outcome, Phase.outcome]

section

variable {w w' : World} {j k : ℕ} {s i p : PyStr} {task task' : Task}

/-- What a script produced is the data of its task. -/
theorem produced_eq {data : List Byte} (ht : w.target s = .running task)
    (hd : task.data = some data) : w.produced s = some data := by
  rw [World.produced, ht]
  exact hd

/-- What a readable task has written is the beginning of what it produced: a reader sees no
bytes of another script. -/
theorem Addressed.produced (ha : Addressed w) (hr : Readable (w.target s)) :
    ∃ data, w.produced s = some data ∧ w.mail.bytes s <+: data := by
  obtain ⟨task, data, ht, hd, -⟩ := hr
  have hok := ha.target s
  rw [ht] at hok
  refine ⟨data, produced_eq ht hd, ?_⟩
  simpa [hd] using StageOk.bytes_front hok

/-- The file or connection a call finds at its path was made by the task of its
own script. -/
theorem Addressed.found (hw : Wired w) (ha : Addressed w) {channel : Channel}
    (hc : w.channel k = some channel) (hf : Found w channel s) :
    w.scriptOf k = some s ∧ Readable (w.target s) := by
  have hown : ∀ task, w.target s = .running task → channel.path = task.spec.path →
      w.scriptOf k = some s := by
    intro task ht hp
    obtain ⟨j, channel', ⟨hs, hc'⟩, hspec⟩ := hw.task s task ht
    rw [hspec] at hp
    rwa [hw.path_inj hc hc' hp]
  rcases hf with ⟨-, hf⟩ | ⟨-, conn, hf, hp⟩
  · obtain ⟨task, data, ht, hd, ⟨hp, -⟩ | ⟨hp, hstage⟩⟩ := ha.file _ s hf
    · exact absurd hp.symm (tmpPath_ne_path _ _)
    · exact ⟨hown task ht hp, task, data, ht, hd, Or.inl hstage⟩
  · obtain ⟨hr, hpath⟩ := ha.conn s conn hf
    obtain ⟨task, data, ht, -⟩ := id hr
    exact ⟨hown task ht (hp ▸ hpath task ht), hr⟩

/-- The file beside the path of a task is that task's: no other script was rendered with
that path. -/
theorem Addressed.tmp_owner (hw : Wired w) (ha : Addressed w)
    (ht : w.target s = .running task)
    (hf : w.mail.files (tmpPath task.spec.path) = some i) : i = s := by
  obtain ⟨k, channel, ⟨hs, hc⟩, hspec⟩ := hw.task s task ht
  obtain ⟨task', data, ht', -, hp⟩ := ha.file _ i hf
  obtain ⟨k', channel', ⟨hs', hc'⟩, hspec'⟩ := hw.task i task' ht'
  rw [hspec, hspec'] at hp
  rcases hp with ⟨hp, -⟩ | ⟨hp, -⟩
  · obtain rfl := hw.path_inj hc hc' (tmpPath_inj.1 hp)
    exact Option.some.inj (hs'.symm.trans hs)
  · exact absurd hp (tmpPath_ne_path _ _)

/-! ## Steps of the calls -/

/-- The bytes read so far, and the next ones. -/
theorem front_read {chunks : List (List Byte)} {bytes : List Byte} (h : chunks.flatten <+: bytes)
    (n : ℕ) : (chunks ++ [(bytes.drop chunks.flatten.length).take n]).flatten <+: bytes := by
  obtain ⟨rest, rfl⟩ := h
  rw [List.flatten_append, List.flatten_singleton, List.drop_left]
  exact (List.prefix_append_right_inj _).2 (List.take_prefix _ _)

/-- A step that only moves a call on touches no task, no file and no connection, so every
byte stays where it belongs. -/
theorem Addressed.advance (hw : Wired w) (ha : Addressed w) (hadv : Advances w w' k) :
    Addressed w' := by
  have hscript : ∀ j, w'.scriptOf j = w.scriptOf j := fun j => by
    rw [World.scriptOf, World.scriptOf, hadv.scriptDir]
  have hproduced : ∀ s, w'.produced s = w.produced s := fun s => by
    rw [World.produced, World.produced, hadv.target]
  constructor
  case target =>
    intro s
    rw [hadv.target, hadv.bytes]
    exact ha.target s
  case file =>
    intro p s hp
    rw [hadv.target]
    exact ha.file p s (hadv.files p s hp)
  case conn =>
    intro s conn' hs
    obtain ⟨conn, hs, hp⟩ := hadv.conns s conn' hs
    rw [hadv.target, ← hp]
    exact ha.conn s conn hs
  case reading =>
    intro j s chunks hj
    rw [hscript, hadv.target, hadv.bytes]
    rcases eq_or_ne j k with rfl | hne
    · rcases hadv.reading s chunks hj with ⟨channel, hc, rfl, hf⟩ | ⟨before, n, hk, rfl⟩
      · obtain ⟨hs, hr⟩ := ha.found hw hc hf
        exact ⟨hs, hr, List.nil_prefix⟩
      · obtain ⟨hs, hr, hp⟩ := ha.reading j s before hk
        exact ⟨hs, hr, front_read hp n⟩
    · exact ha.reading j s chunks (hadv.others j hne ▸ hj)
  case received =>
    intro j s chunks hj
    rw [hscript, hproduced]
    rcases eq_or_ne j k with rfl | hne
    · rcases hadv.received s chunks hj with ho | ⟨hk, -⟩
      · exact ha.received j s chunks ho
      · obtain ⟨hs, hr, hp⟩ := ha.reading j s chunks hk
        obtain ⟨data, hd, hdata⟩ := ha.produced hr
        exact ⟨hs, data, hd, hp.trans hdata⟩
    · rw [World.outcome, hadv.others j hne] at hj
      exact ha.received j s chunks hj

/-- A step that prepares a call adds a task that has not begun, which has no bytes yet, and
leaves the files and connections alone. -/
theorem Addressed.prepare (ha : Addressed w) (hprep : Prepares w w' k) : Addressed w' := by
  have hkeep : ∀ s, w.target s ≠ .absent → w'.target s = w.target s := fun s hne =>
    (hprep.target s).resolve_right fun h => hne h.1
  constructor
  case target =>
    intro s
    rw [hprep.mail]
    have hok := ha.target s
    rcases hprep.target s with h | ⟨h, h'⟩
    · rwa [h]
    · rw [h] at hok
      rwa [h']
  case file =>
    intro p s hp
    obtain ⟨task, data, ht, h⟩ := ha.file p s (hprep.mail ▸ hp)
    exact ⟨task, data, (hkeep s (by simp [ht])).trans ht, h⟩
  case conn =>
    intro s conn hc
    have hconn := ha.conn s conn (hprep.mail ▸ hc)
    obtain ⟨task, data, ht, -⟩ := hconn.1
    rwa [hkeep s (by simp [ht])]
  case reading =>
    intro j s chunks hj
    rcases eq_or_ne j k with rfl | hne
    · exact absurd hj (hprep.reading s chunks)
    · obtain ⟨hj, hr, hp⟩ := ha.reading j s chunks (hprep.others j hne ▸ hj)
      obtain ⟨task, data, ht, -⟩ := id hr
      rw [hkeep s (by simp [ht]), hprep.mail]
      exact ⟨hprep.scriptOf j s hj, hr, hp⟩
  case received =>
    intro j s chunks hj
    rcases eq_or_ne j k with rfl | hne
    · rw [hprep.outcome] at hj
      cases hj
    · rw [World.outcome, hprep.others j hne] at hj
      obtain ⟨hj, data, hd, hp⟩ := ha.received j s chunks hj
      refine ⟨hprep.scriptOf j s hj, data, ?_, hp⟩
      rw [World.produced, hkeep s fun ht => by simp [World.produced, ht] at hd]
      exact hd

/-- A step of a call keeps what is written where it belongs: the prober reads, accepts and
removes, but writes nothing. -/
theorem Addressed.proberStep {event : ProberEvent} (hw : Wired w) (ha : Addressed w)
    (h : proberStep w k event = some w') : Addressed w' := by
  rcases proberStep_prepares_or_advances hw h with hprep | hadv
  · exact ha.prepare hprep
  · exact ha.advance hw hadv

/-! ## Steps of the tasks -/

variable [FloatText]

/-- What a step of a task can be, and what it does to the task and to the mail. The cases
are the lines of the script. -/
inductive TaskStep {ε π : Type} [PyException ε] [Serial ε π] (w : World) (s : PyStr)
    (task : Task) : TargetEvent ε π → Task → Mail → Prop
  | collected {outcome : Except ε π} {data : List Byte} (hs : task.stage = .start)
      (hd : Inject.pidprobeData outcome = .ok data) :
      TaskStep w s task (.collect outcome) { task with data := some data, stage := .collected }
        w.mail
  | escaped {outcome : Except ε π} {exc : ε} (hs : task.stage = .start)
      (hd : Inject.pidprobeData outcome = .error exc) :
      TaskStep w s task (.collect outcome) { task with stage := .ended } w.mail
  | opened {fd : PyStr} (hs : task.stage = .collected) (hkind : task.spec.kind = .tempfile)
      (hdir : w.dirs.any (below · (tmpPath task.spec.path)) = true)
      (hfd : (w.mail.files (tmpPath task.spec.path)).getD s = fd) :
      TaskStep w s task .openTmp { task with stage := .opened fd }
        ((w.mail.setBytes fd []).setFile fd (tmpPath task.spec.path))
  | wrote {count : Count} {fd : PyStr} {data : List Byte} {n : ℕ} (hs : task.stage = .opened fd)
      (hd : task.data = some data) (hn : count.taken data = some n) :
      TaskStep w s task (.write count) { task with stage := .wrote fd }
        (w.mail.setBytes fd (data.take n ++ (w.mail.bytes fd).drop n))
  | closed {fd : PyStr} (hs : task.stage = .wrote fd) :
      TaskStep w s task .closeTmp { task with stage := .closed } w.mail
  | replaced {i : PyStr} (hs : task.stage = .closed)
      (hf : w.mail.files (tmpPath task.spec.path) = some i) :
      TaskStep w s task .replace { task with stage := .ended }
        ((w.mail.unlink (tmpPath task.spec.path)).setFile i task.spec.path)
  | connected {data : List Byte} (hs : task.stage = .collected) (hd : task.data = some data)
      (hkind : task.spec.kind = .unixSocket) (hpath : task.spec.path ∈ w.listening) :
      TaskStep w s task .connect { task with stage := .connected data }
        (w.mail.setConn s (some ⟨task.spec.path, false, false⟩))
  | sent {n : ℕ} {rest : List Byte} (hs : task.stage = .connected rest)
      (hn : 1 ≤ n ∧ n ≤ rest.length) :
      TaskStep w s task (.send n) { task with stage := .connected (rest.drop n) }
        (w.mail.setBytes s (w.mail.bytes s ++ rest.take n))
  | shutDown (hs : task.stage = .connected []) :
      TaskStep w s task .shutdown { task with stage := .ended } (w.mail.close s)
  | hungUp {rest : List Byte} (hs : task.stage = .connected rest) :
      TaskStep w s task .fail { task with stage := .ended } (w.mail.close s)
  | failed (hended : task.stage ≠ .ended) (hconnected : ∀ rest, task.stage ≠ .connected rest) :
      TaskStep w s task .fail { task with stage := .ended } w.mail

/-- What a step of a task can do, one case for each stage and event. -/
theorem taskStep_cases {ε π : Type} [PyException ε] [Serial ε π] {event : TargetEvent ε π}
    {mail : Mail} (h : taskStep w s task event = some (task', mail)) :
    TaskStep w s task event task' mail := by
  cases event with
  | load => cases h
  | collect outcome =>
    simp only [taskStep] at h
    split_ifs at h with hs
    split at h
    · next data hd =>
      obtain ⟨rfl, rfl⟩ := Prod.mk.inj (Option.some.inj h)
      exact .collected hs hd
    · next exc hd =>
      obtain ⟨rfl, rfl⟩ := Prod.mk.inj (Option.some.inj h)
      exact .escaped hs hd
  | openTmp =>
    simp only [taskStep] at h
    split_ifs at h with hs
    obtain ⟨rfl, rfl⟩ := Prod.mk.inj (Option.some.inj h)
    exact .opened hs.1 hs.2.1 hs.2.2 rfl
  | write count =>
    simp only [taskStep] at h
    split at h
    · next fd data hs hd =>
      obtain ⟨n, hn, he⟩ := Option.map_eq_some_iff.1 h
      obtain ⟨rfl, rfl⟩ := Prod.mk.inj he
      exact .wrote hs hd hn
    · cases h
  | closeTmp =>
    simp only [taskStep] at h
    split at h
    · next fd hs =>
      obtain ⟨rfl, rfl⟩ := Prod.mk.inj (Option.some.inj h)
      exact .closed hs
    · cases h
  | replace =>
    simp only [taskStep] at h
    split_ifs at h with hs
    obtain ⟨i, hf, he⟩ := Option.map_eq_some_iff.1 h
    obtain ⟨rfl, rfl⟩ := Prod.mk.inj he
    exact .replaced hs hf
  | connect =>
    simp only [taskStep] at h
    split at h
    · next data hs hd =>
      split_ifs at h with hc
      obtain ⟨rfl, rfl⟩ := Prod.mk.inj (Option.some.inj h)
      exact .connected hs hd hc.1 hc.2
    · cases h
  | send n =>
    simp only [taskStep] at h
    split at h
    · next rest hs =>
      split_ifs at h with hn
      obtain ⟨rfl, rfl⟩ := Prod.mk.inj (Option.some.inj h)
      exact .sent hs hn
    · cases h
  | shutdown =>
    simp only [taskStep] at h
    split_ifs at h with hs
    obtain ⟨rfl, rfl⟩ := Prod.mk.inj (Option.some.inj h)
    exact .shutDown hs
  | fail =>
    simp only [taskStep] at h
    split at h
    · cases h
    · next rest hs =>
      obtain ⟨rfl, rfl⟩ := Prod.mk.inj (Option.some.inj h)
      exact .hungUp hs
    · next hended hconnected =>
      obtain ⟨rfl, rfl⟩ := Prod.mk.inj (Option.some.inj h)
      exact .failed hended hconnected

/-- A task that is over does nothing. -/
theorem TaskStep.not_ended {ε π : Type} [PyException ε] [Serial ε π] {event : TargetEvent ε π}
    {mail : Mail} (h : TaskStep w s task event task' mail) : task.stage ≠ .ended := by
  cases h <;> simp [*]

/-- What a step of a task of script `s` does: it writes to its own file or
connection, and what may be read stays as it is, or grows. -/
structure Moves (w : World) (s : PyStr) (task task' : Task) (mail : Mail) : Prop where
  spec : task'.spec = task.spec
  data : task'.data = task.data ∨
    task.data = none ∧ ∃ ms, task'.data = some (Inject.encoded (.obj ms))
  ok : StageOk s task' (mail.bytes s)
  bytes : ∀ i ≠ s, mail.bytes i = w.mail.bytes i
  files : ∀ p, ∀ i ≠ s, mail.files p = some i → w.mail.files p = some i
  file : ∀ p, mail.files p = some s → FileOk (.running task') p
  conns : ∀ i ≠ s, mail.conns i = w.mail.conns i
  conn : ∀ conn, mail.conns s = some conn → ConnOk (.running task') conn.path
  readable : Readable (.running task) →
    Readable (.running task') ∧ w.mail.bytes s <+: mail.bytes s

omit [FloatText] in
/-- A running task can be read from once it has produced its data and has either renamed
its file or connected. -/
theorem readable_running :
    Readable (.running task) ↔ (∃ data, task.data = some data) ∧
      (task.stage = .ended ∨ ∃ rest, task.stage = .connected rest) := by
  constructor
  · rintro ⟨_, data, ⟨⟩, hd, hstage⟩
    exact ⟨⟨data, hd⟩, hstage⟩
  · rintro ⟨⟨data, hd⟩, hstage⟩
    exact ⟨task, data, rfl, hd, hstage⟩

omit [FloatText] in
/-- A file stays where it belongs while its task goes on, with the same channel and the data
it has. -/
theorem FileOk.go_on (h : FileOk (.running task) p) (hstage : task.stage ≠ .ended)
    (hspec : task'.spec = task.spec)
    (hdata : ∀ data, task.data = some data → task'.data = some data)
    (hstage' : task'.stage ≠ .collected) : FileOk (.running task') p := by
  obtain ⟨_, data, ⟨⟩, hd, ⟨hp, -⟩ | ⟨-, he⟩⟩ := h
  · exact ⟨task', data, rfl, hdata data hd, Or.inl ⟨hspec ▸ hp, hstage'⟩⟩
  · exact absurd he hstage

omit [FloatText] in
/-- A connection stays where it belongs while its task goes on. -/
theorem ConnOk.go_on (h : ConnOk (.running task) p) (hspec : task'.spec = task.spec)
    (hr : Readable (.running task) → Readable (.running task')) : ConnOk (.running task') p := by
  refine ⟨hr h.1, ?_⟩
  rintro _ ⟨⟩
  rw [hspec]
  exact h.2 task rfl

/-- What a task has produced stays: a step leaves it, or produces it where there was nothing
yet. -/
theorem data_some {data : List Byte} (h : task'.data = task.data ∨
    task.data = none ∧ ∃ ms, task'.data = some (Inject.encoded (.obj ms)))
    (hd : task.data = some data) : task'.data = some data := by
  rcases h with h | ⟨h, -⟩
  · rw [h, hd]
  · rw [h] at hd
    cases hd

/-- A step of a task that is not over: what it makes is where it belongs, the rest
is as it was. -/
theorem Moves.go_on {mail : Mail} (ha : Addressed w) (ht : w.target s = .running task)
    (hstage : task.stage ≠ .ended) (hstage' : task'.stage = .collected → task.data = none)
    (hspec : task'.spec = task.spec)
    (hdata : task'.data = task.data ∨
      task.data = none ∧ ∃ ms, task'.data = some (Inject.encoded (.obj ms)))
    (hok : StageOk s task' (mail.bytes s)) (hbytes : ∀ i ≠ s, mail.bytes i = w.mail.bytes i)
    (hfiles : ∀ p i, mail.files p = some i →
      w.mail.files p = some i ∨ i = s ∧ FileOk (.running task') p)
    (hothers : ∀ i ≠ s, mail.conns i = w.mail.conns i)
    (hconns : ∀ conn', mail.conns s = some conn' →
      (∃ conn, w.mail.conns s = some conn ∧ conn.path = conn'.path) ∨
        ConnOk (.running task') conn'.path)
    (hreadable : Readable (.running task) →
      Readable (.running task') ∧ w.mail.bytes s <+: mail.bytes s) : Moves w s task task' mail where
  spec := hspec
  data := hdata
  ok := hok
  bytes := hbytes
  files p i hne hp := (hfiles p i hp).resolve_right fun h => hne h.1
  file p hp := by
    rcases hfiles p s hp with hp | ⟨-, hok⟩
    · have hf := ha.file p s hp
      rw [ht] at hf
      refine hf.go_on hstage hspec (fun _ => data_some hdata) fun hs => ?_
      obtain ⟨_, data, ⟨⟩, hd, -⟩ := hf
      rw [hstage' hs] at hd
      cases hd
    · exact hok
  conns := hothers
  conn conn' hc := by
    rcases hconns conn' hc with ⟨conn, hc, hp⟩ | hok
    · have hconn := ha.conn s conn hc
      rw [ht, hp] at hconn
      exact hconn.go_on hspec fun hr => (hreadable hr).1
    · exact hok
  readable := hreadable

/-- A step of a task before anything it wrote may be read: the files it makes are its own,
and the others keep theirs. -/
theorem Moves.unread {mail : Mail} (ha : Addressed w) (ht : w.target s = .running task)
    (hstage : task.stage ≠ .ended) (hconnected : ∀ rest, task.stage ≠ .connected rest)
    (hstage' : task'.stage = .collected → task.data = none) (hspec : task'.spec = task.spec)
    (hdata : task'.data = task.data ∨
      task.data = none ∧ ∃ ms, task'.data = some (Inject.encoded (.obj ms)))
    (hok : StageOk s task' (mail.bytes s)) (hbytes : ∀ i ≠ s, mail.bytes i = w.mail.bytes i)
    (hfiles : ∀ p i, mail.files p = some i →
      w.mail.files p = some i ∨ i = s ∧ FileOk (.running task') p)
    (hothers : ∀ i ≠ s, mail.conns i = w.mail.conns i)
    (hconns : ∀ conn, mail.conns s = some conn →
      w.mail.conns s = some conn ∨ ConnOk (.running task') conn.path) :
    Moves w s task task' mail := by
  refine .go_on ha ht hstage hstage' hspec hdata hok hbytes hfiles hothers
    (fun conn hc => (hconns conn hc).imp_left fun hc => ⟨conn, hc, rfl⟩) fun hr => ?_
  rcases (readable_running.1 hr).2 with h | ⟨rest, h⟩
  · exact absurd h hstage
  · exact absurd h (hconnected rest)

/-- A step that touches neither files nor connections. -/
theorem Moves.quiet (ha : Addressed w) (ht : w.target s = .running task)
    (hstage : task.stage ≠ .ended) (hconnected : ∀ rest, task.stage ≠ .connected rest)
    (hstage' : task'.stage = .collected → task.data = none) (hspec : task'.spec = task.spec)
    (hdata : task'.data = task.data ∨
      task.data = none ∧ ∃ ms, task'.data = some (Inject.encoded (.obj ms)))
    (hok : StageOk s task' (w.mail.bytes s)) : Moves w s task task' w.mail :=
  .unread ha ht hstage hconnected hstage' hspec hdata hok (fun _ _ => rfl) (fun _ _ => Or.inl)
    (fun _ _ => rfl) fun _ => Or.inl

/-- The end of a connection. The bytes still to be sent are dropped, so the reader has a
beginning of what was produced. -/
theorem Moves.hangUp {rest : List Byte} (ha : Addressed w) (ht : w.target s = .running task)
    (hs : task.stage = .connected rest) (hd : task.data = some (w.mail.bytes s ++ rest)) :
    Moves w s task { task with stage := .ended } (w.mail.close s) := by
  refine .go_on ha ht (by simp [hs]) (by simp) rfl (Or.inl rfl) ?_ (fun _ _ => rfl)
    (fun _ _ => Or.inl) (fun i hne => Mail.close_conns_of_ne hne)
    (fun conn hc => Or.inl (Mail.close_conns hc)) ?_
  · show w.mail.bytes s <+: task.data.getD []
    rw [hd]
    exact List.prefix_append _ _
  · exact fun _ => ⟨readable_running.2 ⟨⟨_, hd⟩, Or.inl rfl⟩, List.prefix_rfl⟩

omit [FloatText] in
/-- A step that is about the script `s` alone: what it wrote is where it belongs, and the
mail of the others has not changed. -/
theorem Addressed.setTarget (ha : Addressed w) {t : Target} {mail : Mail}
    (hok : TargetOk s t (mail.bytes s)) (hbytes : ∀ i ≠ s, mail.bytes i = w.mail.bytes i)
    (hfiles : ∀ p, ∀ i ≠ s, mail.files p = some i → w.mail.files p = some i)
    (hfile : ∀ p, mail.files p = some s → FileOk t p)
    (hconns : ∀ i ≠ s, mail.conns i = w.mail.conns i)
    (hconn : ∀ conn, mail.conns s = some conn → ConnOk t conn.path)
    (hreadable : Readable (w.target s) → Readable t ∧ w.mail.bytes s <+: mail.bytes s)
    (hdata : ∀ task data, w.target s = .running task → task.data = some data →
      ∃ task', t = .running task' ∧ task'.data = some data) :
    Addressed (w.setTarget s t mail) := by
  have hother : ∀ i ≠ s, (w.setTarget s t mail).target i = w.target i :=
    fun _ => World.setTarget_of_ne
  have hself : (w.setTarget s t mail).target s = t := w.setTarget_self ..
  constructor
  case target =>
    intro i
    rcases eq_or_ne i s with rfl | hne
    · rwa [hself]
    · rw [hother i hne, World.setTarget_mail, hbytes i hne]
      exact ha.target i
  case file =>
    intro p i hp
    rcases eq_or_ne i s with rfl | hne
    · rw [hself]
      exact hfile p hp
    · rw [hother i hne]
      exact ha.file p i (hfiles p i hne hp)
  case conn =>
    intro i conn hc
    rcases eq_or_ne i s with rfl | hne
    · rw [hself]
      exact hconn conn hc
    · rw [hother i hne]
      exact ha.conn i conn (hconns i hne ▸ hc)
  case reading =>
    intro k i chunks hk
    obtain ⟨hs, hr, hp⟩ := ha.reading k i chunks hk
    rcases eq_or_ne i s with rfl | hne
    · rw [hself]
      exact ⟨hs, (hreadable hr).1, hp.trans (hreadable hr).2⟩
    · rw [hother i hne, World.setTarget_mail, hbytes i hne]
      exact ⟨hs, hr, hp⟩
  case received =>
    intro k i chunks hk
    obtain ⟨hs, data, hd, hp⟩ := ha.received k i chunks hk
    refine ⟨hs, data, ?_, hp⟩
    rcases eq_or_ne i s with rfl | hne
    · rw [World.produced] at hd
      split at hd
      · next task ht =>
        obtain ⟨task', rfl, hd'⟩ := hdata task data ht hd
        exact produced_eq hself hd'
      · cases hd
    · rw [World.produced, hother i hne]
      exact hd

section Events

variable {ε π : Type} [PyException ε] [Serial ε π]

/-- **A step of a task** writes where the task was told to: into the temporary file of its
own channel, or over a connection to it. -/
theorem taskStep_moves {event : TargetEvent ε π} {mail : Mail} (hw : Wired w) (ha : Addressed w)
    (ht : w.target s = .running task) (h : TaskStep w s task event task' mail) :
    Moves w s task task' mail := by
  have hstage : StageOk s task (w.mail.bytes s) := by
    have hok := ha.target s
    rwa [ht] at hok
  have hok := hstage
  rw [StageOk] at hok
  cases h with
  | collected hs hd =>
    rw [hs] at hok
    obtain ⟨hnone, hempty⟩ := hok
    obtain ⟨ms, rfl⟩ := Inject.pidprobeData_eq_ok hd
    refine .quiet ha ht (by simp [hs]) (by simp [hs]) (fun _ => hnone) rfl ?_ ?_
    · exact Or.inr ⟨hnone, ms, rfl⟩
    · exact ⟨rfl, hempty⟩
  | escaped hs =>
    exact .quiet ha ht (by simp [hs]) (by simp [hs]) (by simp) rfl (Or.inl rfl) hstage.bytes_front
  | @opened fd hs _ _ hfd =>
    rw [hs] at hok
    obtain ⟨hsome, hempty⟩ := hok
    obtain ⟨data, hd⟩ := Option.isSome_iff_exists.1 hsome
    -- no file is there yet: it would be one this task made
    obtain rfl : s = fd := by
      rw [← hfd]
      rcases hf : w.mail.files (tmpPath task.spec.path) with _ | i
      · rfl
      · exact (ha.tmp_owner hw ht hf).symm
    refine .unread ha ht (by simp [hs]) (by simp [hs]) (by simp) rfl (Or.inl rfl) ?_ ?_ ?_
      (fun _ _ => rfl) fun _ => Or.inl
    · exact ⟨hsome, rfl, Function.update_self ..⟩
    · exact fun i hne => Function.update_of_ne hne _ _
    · intro p i hp
      rw [Mail.setFile_files] at hp
      rcases Assignment.update_eq_some.1 hp with ⟨rfl, rfl⟩ | ⟨-, hp⟩
      · exact Or.inr ⟨rfl, _, data, rfl, hd, Or.inl ⟨rfl, by simp⟩⟩
      · exact Or.inl hp
  | wrote hs hd =>
    rw [hs] at hok
    obtain ⟨-, rfl, hempty⟩ := hok
    refine .unread ha ht (by simp [hs]) (by simp [hs]) (by simp) rfl (Or.inl rfl) ?_ ?_
      (fun _ _ => Or.inl) (fun _ _ => rfl) fun _ => Or.inl
    · refine ⟨rfl, _, hd, ?_⟩
      simp [hempty, List.take_prefix]
    · exact fun i hne => Function.update_of_ne hne _ _
  | closed hs =>
    rw [hs] at hok
    exact .quiet ha ht (by simp [hs]) (by simp [hs]) (by simp) rfl (Or.inl rfl) hok.2
  | replaced hs hf =>
    rw [hs] at hok
    obtain ⟨data, hd, hp⟩ := hok
    obtain rfl := ha.tmp_owner hw ht hf
    refine .unread ha ht (by simp [hs]) (by simp [hs]) (by simp) rfl (Or.inl rfl)
      hstage.bytes_front (fun _ _ => rfl) ?_ (fun _ _ => rfl) fun _ => Or.inl
    intro p j hj
    rw [Mail.setFile_files, Mail.unlink_files] at hj
    rcases Assignment.update_eq_some.1 hj with ⟨rfl, rfl⟩ | ⟨-, hj⟩
    · exact Or.inr ⟨rfl, _, data, rfl, hd, Or.inr ⟨rfl, rfl⟩⟩
    · rw [Function.update_apply] at hj
      split_ifs at hj
      exact Or.inl hj
  | connected hs hd hkind =>
    rw [hs] at hok
    obtain ⟨-, hempty⟩ := hok
    refine .unread ha ht (by simp [hs]) (by simp [hs]) (by simp) rfl (Or.inl rfl) ?_
      (fun _ _ => rfl) (fun _ _ => Or.inl) ?_ ?_
    · refine ⟨hkind, ?_⟩
      rw [Mail.setConn_bytes, hempty]
      exact hd
    · exact fun i hne => Function.update_of_ne hne _ _
    · intro conn hconn
      rw [Mail.setConn_conns, Function.update_self, Option.some.injEq] at hconn
      obtain rfl := hconn
      refine Or.inr ⟨readable_running.2 ⟨⟨_, hd⟩, Or.inr ⟨_, rfl⟩⟩, ?_⟩
      rintro _ ⟨⟩
      rfl
  | sent hs =>
    rw [hs] at hok
    obtain ⟨hkind, hd⟩ := hok
    refine .go_on ha ht (by simp [hs]) (by simp) rfl (Or.inl rfl) ?_ ?_
      (fun _ _ => Or.inl) (fun _ _ => rfl) (fun conn hc => Or.inl ⟨conn, hc, rfl⟩) ?_
    · refine ⟨hkind, ?_⟩
      simp [hd]
    · exact fun i hne => Function.update_of_ne hne _ _
    · refine fun _ => ⟨readable_running.2 ⟨⟨_, hd⟩, Or.inr ⟨_, rfl⟩⟩, ?_⟩
      rw [Mail.setBytes_bytes, Function.update_self]
      exact List.prefix_append _ _
  | shutDown hs =>
    rw [hs] at hok
    exact .hangUp ha ht hs hok.2
  | hungUp hs =>
    rw [hs] at hok
    exact .hangUp ha ht hs hok.2
  | failed hended hconnected =>
    exact .quiet ha ht hended hconnected (by simp) rfl (Or.inl rfl) hstage.bytes_front

/-- A script is read with no file or connection of its own, and its task goes on
as `Moves` says. -/
theorem targetStep_cases {event : TargetEvent ε π} {t : Target} {mail : Mail} (hw : Wired w)
    (ha : Addressed w) (h : targetStep w s event = some (t, mail)) :
    (w.target s = .pending ∧ mail = w.mail ∧ (t = .absent ∨
      ∃ script, w.scripts s = some script ∧ t = .running ⟨script.spec, none, .start⟩)) ∨
    ∃ task task', w.target s = .running task ∧ t = .running task' ∧
      TaskStep w s task event task' mail ∧ Moves w s task task' mail := by
  unfold targetStep at h
  split at h
  · next ht =>
    refine Or.inl ⟨ht, ?_⟩
    split at h
    · next script hs =>
      obtain ⟨rfl, rfl⟩ := Prod.mk.inj (Option.some.inj h)
      exact ⟨rfl, Or.inr ⟨script, hs, rfl⟩⟩
    · obtain ⟨rfl, rfl⟩ := Prod.mk.inj (Option.some.inj h)
      exact ⟨rfl, Or.inl rfl⟩
  · next task ht =>
    obtain ⟨⟨task', mail'⟩, hstep, hp⟩ := Option.map_eq_some_iff.1 h
    obtain ⟨rfl, rfl⟩ := Prod.mk.inj hp
    have htask := taskStep_cases hstep
    exact Or.inr ⟨task, task', ht, rfl, htask, taskStep_moves hw ha ht htask⟩
  · cases h

/-- A step of the target keeps the wiring and what is written where it belongs, whether it
reads a script or goes on with one. -/
theorem targetStep_keeps {event : TargetEvent ε π} {t : Target} {mail : Mail} (hw : Wired w)
    (ha : Addressed w) (h : targetStep w s event = some (t, mail)) :
    Wired (w.setTarget s t mail) ∧
      Addressed (w.setTarget s t mail) := by
  rcases targetStep_cases hw ha h with ⟨ht, rfl, hnew⟩ | ⟨task, task', ht, rfl, -, hm⟩
  · have hnone : ∀ task, w.target s ≠ .running task := by simp [ht]
    have hempty : w.mail.bytes s = [] := by
      have hok := ha.target s
      rwa [ht] at hok
    constructor
    · refine hw.target (by simp [ht]) ?_ ?_ _
      · rcases hnew with rfl | ⟨script, -, rfl⟩ <;> simp
      · rintro task rfl
        rcases hnew with hnew | ⟨script, hs, hnew⟩
        · cases hnew
        · obtain rfl := Target.running.inj hnew
          exact Or.inl ⟨script, hs, rfl⟩
    · refine ha.setTarget ?_ (fun _ _ => rfl) (fun _ _ _ => id) ?_ (fun _ _ => rfl) ?_ ?_ ?_
      · rcases hnew with rfl | ⟨script, -, rfl⟩
        · exact hempty
        · exact ⟨rfl, hempty⟩
      · intro p hp
        obtain ⟨task, data, ht, -⟩ := ha.file p s hp
        exact absurd ht (hnone task)
      · intro conn hc
        obtain ⟨⟨task, data, ht, -⟩, -⟩ := ha.conn s conn hc
        exact absurd ht (hnone task)
      · rintro ⟨task, data, ht, -⟩
        exact absurd ht (hnone task)
      · exact fun task data ht => absurd ht (hnone task)
  · constructor
    · refine hw.target (by simp [ht]) (by simp) ?_ _
      rintro _ ⟨⟩
      exact Or.inr ⟨task, ht, hm.spec⟩
    · refine ha.setTarget hm.ok hm.bytes hm.files hm.file hm.conns hm.conn ?_ ?_
      · rw [ht]
        exact hm.readable
      · intro task₁ data ht₁ hd
        obtain rfl := Target.running.inj (ht.symm.trans ht₁)
        exact ⟨task', rfl, data_some hm.data hd⟩

/-- What the tasks hand to their write-back are envelopes: each is the UTF-8 text of one
JSON object, for a failure as for a success. -/
def Encoded (w : World) : Prop :=
  ∀ s data, w.produced s = some data → ∃ ms, data = Inject.encoded (.obj ms)

/-- Before the first step no task has produced anything. -/
theorem Encoded.init : Encoded init := by
  intro s data hd
  cases hd

/-- The prober produces no answers: whatever step it takes, the data of every task is as
it was. -/
theorem Encoded.proberStep {event : ProberEvent} (hw : Wired w) (he : Encoded w)
    (h : proberStep w k event = some w') : Encoded w' := by
  intro s data hd
  rcases proberStep_prepares_or_advances hw h with hprep | hadv
  · rcases hprep.target s with ht | ⟨-, ht⟩
    · exact he s data (by rwa [World.produced, ht] at hd)
    · simp [World.produced, ht] at hd
  · exact he s data (by rwa [World.produced, hadv.target] at hd)

/-- A step of the target produces the answer the script makes of the outcome of its
collector, or changes no data at all. -/
theorem Encoded.targetStep {event : TargetEvent ε π} {t : Target} {mail : Mail} (hw : Wired w)
    (ha : Addressed w) (he : Encoded w) (h : targetStep w s event = some (t, mail)) :
    Encoded (w.setTarget s t mail) := by
  intro i data hd
  rcases eq_or_ne i s with rfl | hne
  · rw [World.produced, World.setTarget_self] at hd
    rcases targetStep_cases hw ha h with ⟨-, -, rfl | ⟨script, -, rfl⟩⟩ |
      ⟨task, task', ht, rfl, -, hm⟩
    · cases hd
    · cases hd
    · rcases hm.data with h | ⟨-, ms, h⟩
      · exact he i data (produced_eq ht (h ▸ hd))
      · obtain rfl := Option.some.inj (hd.symm.trans h)
        exact ⟨ms, rfl⟩
  · rw [World.produced, World.setTarget_of_ne hne] at hd
    exact he i data hd

/-- **One step** keeps the wiring, what is written where it belongs, and the
envelopes. -/
theorem step_keeps {event : Event ε π} (hw : Wired w) (ha : Addressed w) (he : Encoded w)
    (h : step w event = some w') : Wired w' ∧ Addressed w' ∧ Encoded w' := by
  cases event with
  | handOut directory =>
    refine ⟨hw.mkdtemp h, ?_⟩
    obtain ⟨-, rfl⟩ := mkdtemp_eq_some.1 h
    exact ⟨{ ha with }, he⟩
  | prober k event => exact ⟨hw.proberStep h, ha.proberStep hw h, he.proberStep hw h⟩
  | target s event =>
    obtain ⟨⟨t, mail⟩, hstep, rfl⟩ := Option.map_eq_some_iff.1 h
    obtain ⟨hw', ha'⟩ := targetStep_keeps hw ha hstep
    exact ⟨hw', ha', he.targetStep hw ha hstep⟩

/-- **Every run** keeps the three invariants, from the state in which nothing has
happened. -/
theorem run_keeps {events : List (Event ε π)} (h : run step init events = some w) :
    Wired w ∧ Addressed w ∧ Encoded w :=
  run_invariant (I := fun w => Wired w ∧ Addressed w ∧ Encoded w) (P := fun _ => True)
    (fun _ _ _ hinv _ hstep => step_keeps hinv.1 hinv.2.1 hinv.2.2 hstep)
    ⟨.init, .init, .init⟩ (fun _ _ => trivial) h

end Events

/-! ## Answers -/

/-- What `receive` makes of the first bytes of an envelope: the first characters
of its text. -/
theorem result_of_front {kind : ChannelKind} {chunks : List (List Byte)} {v : Json} {raw : PyStr}
    (hp : chunks.flatten <+: Inject.encoded v) (h : kind.result chunks = .ok raw) :
    raw <+: v.dumps ∧ (raw = v.dumps → chunks.flatten = Inject.encoded v) := by
  obtain ⟨p, hdecode, hpre, hwhole⟩ := Socket.decode_front hp
  have hcr : ∀ c ∈ p, c ≠ cp '\r' := by
    rintro c hc rfl
    exact absurd (Json.dumps_printable v _ (hpre.subset hc)) (by decide)
  have hraw : raw = p := by
    cases kind with
    | unixSocket =>
      rw [ChannelKind.result, Socket.decodeChunks, hdecode] at h
      split_ifs at h
      exact (Except.ok.inj h).symm
    | tempfile =>
      rw [ChannelKind.result, readText, hdecode] at h
      have he := Except.ok.inj h
      rwa [TextWrap.translateNewlines_eq_self hcr, eq_comm] at he
  rw [hraw]
  exact ⟨hpre, hwhole⟩

/-- A text cut short is no envelope. A strict prefix of a JSON object does not parse, so a
short read is always noticed. -/
theorem parseEnvelope_cut [Unicode] {message : PyStr → PyStr} {ms : List (PyStr × Json)}
    {raw : PyStr} (hp : raw <+: (Json.obj ms).dumps) {env : Envelope}
    (h : parseEnvelope (Json.loads message) raw = .ok env) : raw = (Json.obj ms).dumps := by
  by_contra hne
  rw [parseEnvelope, Json.loads, Json.read_strictPrefix ⟨hp, hne⟩] at h
  cases h

variable [Unicode] {ε π : Type} [PyException ε] [Serial ε π] {message : PyStr → PyStr}

/-- **No stale answers.**  Whatever the order of the steps of any number of calls
and of the scripts they injected, an envelope a call returns was read from the
file or the connection of its own script, and is the envelope that script
produced; and no two calls read from the file or the connection of one script. -/
theorem no_stale_answers {events : List (Event ε π)} (h : run step init events = some w) :
    (∀ k env, w.returned (Json.loads message) k = some env → ∃ s chunks v,
      w.outcome k = some (.received s chunks) ∧ w.scriptOf k = some s ∧
        w.produced s = some (Inject.encoded v) ∧
          parseEnvelope (Json.loads message) v.dumps = .ok env) ∧
    ∀ j k s chunks chunks', w.outcome j = some (.received s chunks) →
      w.outcome k = some (.received s chunks') → j = k := by
  obtain ⟨hw, ha, he⟩ := run_keeps h
  constructor
  · intro k env henv
    rw [World.returned] at henv
    split at henv
    · next s chunks channel hk hc =>
      have ho : w.outcome k = some (.received s chunks) := by rw [World.outcome, hk]; rfl
      obtain ⟨hs, data, hd, hp⟩ := ha.received k s chunks ho
      obtain ⟨ms, rfl⟩ := he s data hd
      have hok : channel.kind.result chunks >>= parseEnvelope (Json.loads message) = .ok env := by
        rcases hr : channel.kind.result chunks >>= parseEnvelope (Json.loads message) with e | env'
        · rw [hr] at henv
          cases henv
        · rw [hr] at henv
          rw [Option.some.inj henv]
      obtain ⟨raw, hr, hparse⟩ := bind_eq_ok.1 hok
      obtain rfl := parseEnvelope_cut (result_of_front hp hr).1 hparse
      exact ⟨s, chunks, .obj ms, ho, hs, hd, hparse⟩
    · cases henv
  · intro j k s chunks chunks' hj hk
    exact hw.scriptOf_inj (ha.received j s chunks hj).1 (ha.received k s chunks' hk).1

end

/-! ## A run -/

/-- Call `k` opens a result file's directory and injects a script with an empty payload. The
tests below start with this. -/
def injected (k : ℕ) (directory scriptDir : PyStr) : List (Event ExcData Json) :=
  [.prober k (.openChannel .tempfile directory 5), .prober k (.makeScriptDir scriptDir),
    .prober k (.writeScript (py "payload = \x7b\x7d")), .prober k .remoteExec]

/-- The task of a script writes an empty payload back through its temporary file, taking
`count` bytes in its only write. -/
def writtenBack (s : PyStr) (count : Count) : List (Event ExcData Json) :=
  [.target s .load, .target s (.collect (.ok (.obj []))), .target s .openTmp,
    .target s (.write count), .target s .closeTmp, .target s .replace]

/-- Call `k` opens its result file, reads `n` bytes of it and meets its end. -/
def readBack (k n : ℕ) : List (Event ExcData Json) :=
  [.prober k .openResult, .prober k (.read n), .prober k .endOfFile]

/-- Call `k` cleans up: `rmtree(script_dir)`, then `channel.close()`, with nothing that
survives either. -/
def cleanedUp (k : ℕ) : List (Event ExcData Json) :=
  [.prober k (.removeScriptDir []), .prober k (.closeChannel [])]

/-- Call 0 gives up before the target runs its script; the script starts while
call 1 is under way, and its write-back fails. -/
def lateTarget : List (Event ExcData Json) :=
  injected 0 (py "/tmp/a") (py "/tmp/b") ++ [.target (scriptPath (py "/tmp/b")) .load] ++
    [.prober 0 .timeout] ++ cleanedUp 0 ++ injected 1 (py "/tmp/c") (py "/tmp/d") ++
    [.target (scriptPath (py "/tmp/b")) (.collect (.ok (.obj []))),
      .target (scriptPath (py "/tmp/b")) .fail] ++
    writtenBack (scriptPath (py "/tmp/d")) .all ++ readBack 1 46 ++ cleanedUp 1

/-- A run in which the target answers the first of two calls after that call has timed
out: the second still gets its own answer. -/
theorem no_stale_answers_late_target :
    letI := Unicode.fullwidth
    letI := Json.wholeFloats
    let loads := Json.loads fun _ => py "Expecting value"
    ∃ w env, run step init lateTarget = some w ∧ w.returned loads 1 = some env ∧
      ∃ s chunks v, w.outcome 1 = some (.received s chunks) ∧ w.scriptOf 1 = some s ∧
        w.produced s = some (Inject.encoded v) ∧ parseEnvelope loads v.dumps = .ok env := by
  let _ := Unicode.fullwidth
  let _ := Json.wholeFloats
  intro loads
  have hreturned : ((run step init lateTarget).bind fun w => w.returned loads 1).isSome = true := by
    decide +kernel
  obtain ⟨env, henv⟩ := Option.isSome_iff_exists.1 hreturned
  obtain ⟨w, hrun, hw⟩ := Option.bind_eq_some_iff.1 henv
  exact ⟨w, env, hrun, hw, (no_stale_answers hrun).1 1 env hw⟩

end Protocol
end Pidprobe
