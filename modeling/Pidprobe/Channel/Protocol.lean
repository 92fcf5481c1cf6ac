/-
# Prober and target

Any number of calls of `execute_in_target` on one target, as one transition
system.  Call `k` goes through the phases of `execute_in_target`; the target
runs each injected script in its own task, with the write-back of
`_SOCKET_WRITE_BACK` or `_TEMPFILE_WRITE_BACK` at the end.  The two meet in the
file system and in the connections only.  A run is a list of events, so the
steps of the prober and of the target come in any order, and a script may run
long after its call gave up.

A file and a connection are named after the script whose task made them: a task
makes at most one.  `sys.remote_exec` hands the target a path; the target may
read it at any later time, or never.
-/

import Mathlib.Data.Rat.Defs
import Mathlib.Logic.Function.Basic
import Pidprobe.Channel.Socket
import Pidprobe.Inject
import Pidprobe.Lib.Run
import Pidprobe.Lib.TextWrap

namespace Pidprobe
namespace Protocol

open Function (update)

/-! ## Channels and scripts -/

/-- `ChannelKind`: how a script hands its envelope back, over an `AF_UNIX` socket or in a
result file the prober polls for. -/
inductive ChannelKind
  | unixSocket
  | tempfile
  deriving DecidableEq

/-- `ChannelSpec`, what a script needs to reach the return channel. The timeout bounds the
script's own write-back, so that a stuck channel cannot block the target. -/
structure ChannelSpec where
  kind : ChannelKind
  path : PyStr
  timeoutSeconds : ℚ
  deriving DecidableEq

/-- `str(directory / name)`. The names are those of the source, without a slash in them, so
the path determines the directory (`inDir_inj`). -/
def inDir (directory name : PyStr) : PyStr := directory ++ cp '/' :: name

/-- The file of a channel in its directory: `_SOCKET_FILENAME` for a socket,
`_RESULT_FILENAME` for a result file. -/
def ChannelKind.filename : ChannelKind → PyStr
  | .unixSocket => py "s.sock"
  | .tempfile => py "result.json"

/-- The script in its directory, `SCRIPT_FILENAME`. The path is all that `sys.remote_exec`
hands to the target. -/
def scriptPath (scriptDir : PyStr) : PyStr := inDir scriptDir (py "pidprobe_inject.py")

/-- `_pidprobe_tmp`, the sibling of the result file that `_TEMPFILE_WRITE_BACK` writes to
before it renames. -/
def tmpPath (path : PyStr) : PyStr := path ++ py ".tmp"

/-- An open return channel and the budget of its call. Its directory is its own, made by
`mkdtemp` in `open_channel`. -/
structure Channel where
  kind : ChannelKind
  directory : PyStr
  timeoutSeconds : ℚ

/-- `channel.path`, where the prober listens or polls and where the script writes to. -/
def Channel.path (channel : Channel) : PyStr := inDir channel.directory channel.kind.filename

/-- The `ChannelSpec` that `execute_in_target` builds from its open channel and hands to
`write_injection_script`. -/
def Channel.spec (channel : Channel) : ChannelSpec :=
  ⟨channel.kind, channel.path, channel.timeoutSeconds⟩

/-- What `build_injection_script` renders into a script: the collector source and the
channel it writes to. The text itself is `buildInjectionScript`. -/
structure Script where
  collectorSource : PyStr
  spec : ChannelSpec

/-- `path.read_text(encoding="utf-8")` of a file with these bytes: strict decoding, and
universal newlines, which turn a carriage return into a line feed. -/
def readText (data : List Byte) : Except PyError PyStr :=
  match Utf8.decode data with
  | some text => .ok (TextWrap.translateNewlines false text)
  | none => .error .unicodeDecode

/-- What `receive` makes of the chunks it read to the end: the socket joins and decodes
them, the file is read as one text. -/
def ChannelKind.result : ChannelKind → List (List Byte) → Except PyError PyStr
  | .unixSocket, chunks => Socket.decodeChunks chunks
  | .tempfile, chunks => readText chunks.flatten

/-! ## States -/

/-- How `receive`, or the call before it, ended. Only the first case carries an answer,
which `parse_envelope` has still to accept. -/
inductive Outcome
  /-- These chunks were read to the end; the task of script `origin` wrote them. -/
  | received (origin : PyStr) (chunks : List (List Byte))
  /-- `ProbeTimeoutError`. -/
  | timedOut
  /-- Any exception that ended the call from outside `receive`. -/
  | raised (exc : PyError)
  deriving DecidableEq

/-- Where a call of `execute_in_target` stands, from before `open_channel` to behind
`channel.close()`. The two `finally` blocks are phases of their own. -/
inductive Phase
  | idle
  /-- The return channel is open. -/
  | opened
  /-- The script's directory exists. -/
  | located
  /-- The script is written. -/
  | scripted
  /-- Injected; `receive` waits for the file or the connection. -/
  | waiting
  /-- `receive` reads the file or the connection made for script `origin`. -/
  | reading (origin : PyStr) (chunks : List (List Byte))
  /-- Before `rmtree(script_dir)`. -/
  | leaving (outcome : Outcome)
  /-- Before `channel.close()`. -/
  | closing (outcome : Outcome)
  /-- Before `parse_envelope`. -/
  | done (outcome : Outcome)
  deriving DecidableEq

/-- How the body of the call ended, once it has. The cleaning up behind it does not change
the outcome (`PhaseStep.outcome`). -/
def Phase.outcome : Phase → Option Outcome
  | .leaving outcome | .closing outcome | .done outcome => some outcome
  | _ => none

/-- Where the task of a script stands. The temporary file and the connection are the two
write-backs; a task goes through one of them. -/
inductive Stage
  /-- `_pidprobe_collect()` has not returned. -/
  | start
  /-- `_pidprobe_data` is bound. -/
  | collected
  /-- The temporary file is open as `fd`. -/
  | opened (fd : PyStr)
  /-- `os.write` has returned. -/
  | wrote (fd : PyStr)
  /-- Before `os.replace`. -/
  | closed
  /-- `sendall` with these bytes left to send. -/
  | connected (rest : List Byte)
  | ended
  deriving DecidableEq

/-- A script that runs in the target: the channel it was rendered for, the bytes it has
produced, and how far its write-back has come. -/
structure Task where
  spec : ChannelSpec
  /-- `_pidprobe_data`. -/
  data : Option (List Byte)
  stage : Stage
  deriving DecidableEq

/-- What the target knows of a script: nothing, or its path from `sys.remote_exec`, or the
task that runs it once it has read the file. -/
inductive Target
  | absent
  | pending
  | running (task : Task)
  deriving DecidableEq

/-- A connection to a return channel: the path it was made to, whether the prober accepted
it, and whether the script's end is closed. -/
structure Conn where
  path : PyStr
  accepted : Bool
  closed : Bool

/-- What the tasks have written, in files and in connections. A file and a connection are
named after the script whose task made them. -/
structure Mail where
  /-- The file at a path, by the script whose task created it. -/
  files : PyStr → Option PyStr
  /-- The bytes in the file or the connection of a script's task. -/
  bytes : PyStr → List Byte
  conns : PyStr → Option Conn

structure World where
  /-- Every path `mkdtemp` has handed out. -/
  handed : List PyStr
  /-- The directories that exist. -/
  dirs : List PyStr
  channel : ℕ → Option Channel
  scriptDir : ℕ → Option PyStr
  phase : ℕ → Phase
  scripts : PyStr → Option Script
  /-- The paths a server socket listens at. -/
  listening : List PyStr
  target : PyStr → Target
  mail : Mail

/-- Nothing has happened: no call has begun, no directory was handed out, and the target has
heard of no script. -/
def init : World :=
  ⟨[], [], fun _ => none, fun _ => none, fun _ => .idle, fun _ => none, [], fun _ => .absent,
    ⟨fun _ => none, fun _ => [], fun _ => none⟩⟩

/-- The script call `k` injects, once it has a directory for it. Scripts are told apart by
their paths. -/
def World.scriptOf (w : World) (k : ℕ) : Option PyStr := (w.scriptDir k).map scriptPath

/-- How the body of call `k` ended, where it has: `Phase.outcome` of the phase the call is
in. -/
def World.outcome (w : World) (k : ℕ) : Option Outcome := (w.phase k).outcome

/-- `_pidprobe_data` of the task of a script: the encoded envelope, once
`_pidprobe_collect()` has returned or raised. -/
def World.produced (w : World) (s : PyStr) : Option (List Byte) :=
  match w.target s with
  | .running task => task.data
  | _ => none

/-- The envelope call `k` has returned: it is done, it read something to the end, and
`parse_envelope` accepts the text of that. -/
def World.returned [Unicode] [FloatText] (w : World) (loads : PyStr → Except PyStr Json) (k : ℕ) :
    Option Envelope :=
  match w.phase k, w.channel k with
  | .done (.received _ chunks), some channel =>
    (channel.kind.result chunks >>= parseEnvelope loads).toOption
  | _, _ => none

/-! ## Events -/

/-- A step of one call of `execute_in_target`. -/
inductive ProberEvent
  /-- `socket.socket` raises in `UnixSocketChannel()`, behind `mkdtemp` and in front
  of the `try`: the directory stays, and the call may still open another channel.
  A `bind` or `listen` that raises has its directory removed again before anybody
  hears of it, which is no step. -/
  | openFails (directory : PyStr)
  | openChannel (kind : ChannelKind) (directory : PyStr) (timeoutSeconds : ℚ)
  | makeScriptDir (directory : PyStr)
  | writeScript (collectorSource : PyStr)
  | remoteExec
  /-- `read_text` opens the result file. -/
  | openResult
  /-- `accept` returns the connection of this script's task. -/
  | accept (s : PyStr)
  /-- The next `n` bytes of the file or the connection. -/
  | read (n : ℕ)
  | endOfFile
  | timeout
  /-- A step raises, or the call is interrupted. -/
  | abort (exc : PyError)
  /-- `rmtree`; `survivors` are files made while it ran. -/
  | removeScriptDir (survivors : List PyStr)
  | closeChannel (survivors : List PyStr)

/-- What `os.write` returns: all the bytes it was given, or a part of them. The script does
not look at the count. -/
inductive Count
  | all
  | part (n : ℕ)

/-- A step of the task of one script; `ε` and `π` are the exceptions and the
objects of the target. -/
inductive TargetEvent (ε π : Type)
  | load
  /-- `_pidprobe_collect()` ends. -/
  | collect (outcome : Except ε π)
  | openTmp
  | write (count : Count)
  | closeTmp
  | replace
  | connect
  /-- `sendall` gets `n` more bytes through. -/
  | send (n : ℕ)
  | shutdown
  /-- A step of the write-back raises. -/
  | fail

/-- An event of the whole system: a step of one call, a step of one script in the target, or
a directory that `mkdtemp` gives to a stranger. -/
inductive Event (ε π : Type)
  /-- `mkdtemp` hands a directory to somebody else. -/
  | handOut (directory : PyStr)
  | prober (k : ℕ) (event : ProberEvent)
  | target (s : PyStr) (event : TargetEvent ε π)

/-! ## Steps -/

section Mail

variable (mail : Mail) (s path : PyStr)

/-- The bytes of the file or the connection of `s`. -/
def Mail.setBytes (data : List Byte) : Mail :=
  { mail with bytes := update mail.bytes s data }

/-- The file at `path` is the one `s` made. -/
def Mail.setFile : Mail :=
  { mail with files := update mail.files path (some s) }

/-- No file at `path`. -/
def Mail.unlink : Mail :=
  { mail with files := update mail.files path none }

/-- The connection of `s`. -/
def Mail.setConn (conn : Option Conn) : Mail :=
  { mail with conns := update mail.conns s conn }

/-- The end of the connection of `s`, where there is one. -/
def Mail.close : Mail :=
  mail.setConn s ((mail.conns s).map fun conn => { conn with closed := true })

@[simp] theorem Mail.setBytes_bytes (data : List Byte) :
    (mail.setBytes s data).bytes = update mail.bytes s data := rfl

@[simp] theorem Mail.setBytes_files (data : List Byte) :
    (mail.setBytes s data).files = mail.files := rfl

@[simp] theorem Mail.setBytes_conns (data : List Byte) :
    (mail.setBytes s data).conns = mail.conns := rfl

@[simp] theorem Mail.setFile_bytes : (mail.setFile s path).bytes = mail.bytes := rfl

@[simp] theorem Mail.setFile_files :
    (mail.setFile s path).files = update mail.files path (some s) := rfl

@[simp] theorem Mail.setFile_conns : (mail.setFile s path).conns = mail.conns := rfl

@[simp] theorem Mail.unlink_bytes : (mail.unlink path).bytes = mail.bytes := rfl

@[simp] theorem Mail.unlink_files : (mail.unlink path).files = update mail.files path none := rfl

@[simp] theorem Mail.unlink_conns : (mail.unlink path).conns = mail.conns := rfl

@[simp] theorem Mail.setConn_bytes (conn : Option Conn) :
    (mail.setConn s conn).bytes = mail.bytes := rfl

@[simp] theorem Mail.setConn_files (conn : Option Conn) :
    (mail.setConn s conn).files = mail.files := rfl

@[simp] theorem Mail.setConn_conns (conn : Option Conn) :
    (mail.setConn s conn).conns = update mail.conns s conn := rfl

@[simp] theorem Mail.close_bytes : (mail.close s).bytes = mail.bytes := rfl

@[simp] theorem Mail.close_files : (mail.close s).files = mail.files := rfl

/-- Closing a connection leaves its path. -/
theorem Mail.close_conns {mail : Mail} {s : PyStr} {conn' : Conn}
    (h : (mail.close s).conns s = some conn') :
    ∃ conn, mail.conns s = some conn ∧ conn.path = conn'.path := by
  rw [close, setConn_conns, Function.update_self] at h
  obtain ⟨conn, hc, rfl⟩ := Option.map_eq_some_iff.1 h
  exact ⟨conn, hc, rfl⟩

/-- Closing one connection leaves the others open. -/
theorem Mail.close_conns_of_ne {mail : Mail} {s i : PyStr} (hne : i ≠ s) :
    (mail.close s).conns i = mail.conns i := Function.update_of_ne hne _ _

end Mail

/-- `path` lies below `directory`: what `rmtree` removes, and what must exist for a file to
be created. -/
def below (directory path : PyStr) : Bool := decide (directory ++ [cp '/'] <+: path)

/-- `shutil.rmtree(directory, ignore_errors=True)`: a file made while it runs may
stay, and the directory with it. -/
def World.rmtree (w : World) (directory : PyStr) (survivors : List PyStr) : World :=
  { w with
    dirs := if survivors.any (below directory) then w.dirs else w.dirs.filter (· ≠ directory)
    scripts := fun p => if below directory p && !survivors.contains p then none else w.scripts p
    mail := { w.mail with
      files := fun p => if below directory p && !survivors.contains p then none
        else w.mail.files p } }

/-- Call `k` moves on to another phase, and nothing else changes. Most steps of a call are
this and one more update. -/
def World.setPhase (w : World) (k : ℕ) (phase : Phase) : World :=
  { w with phase := update w.phase k phase }

@[simp] theorem World.setPhase_self (w : World) (k : ℕ) (phase : Phase) :
    (w.setPhase k phase).phase k = phase := Function.update_self ..

/-- A call that moves on leaves the phases of the others. -/
theorem World.setPhase_of_ne {w : World} {j k : ℕ} {phase : Phase} (hne : j ≠ k) :
    (w.setPhase k phase).phase j = w.phase j := Function.update_of_ne hne _ _

/-- The target with script `s` in another state, and the mail that state has written; the
prober's side is untouched. -/
def World.setTarget (w : World) (s : PyStr) (t : Target) (mail : Mail) : World :=
  { w with target := update w.target s t, mail := mail }

@[simp] theorem World.setTarget_self (w : World) (s : PyStr) (t : Target) (mail : Mail) :
    (w.setTarget s t mail).target s = t := Function.update_self ..

@[simp] theorem World.setTarget_mail (w : World) (s : PyStr) (t : Target) (mail : Mail) :
    (w.setTarget s t mail).mail = mail := rfl

/-- A task that moves on leaves the other tasks as they are. -/
theorem World.setTarget_of_ne {w : World} {s i : PyStr} {t : Target} {mail : Mail} (hne : i ≠ s) :
    (w.setTarget s t mail).target i = w.target i := Function.update_of_ne hne _ _

/-- `mkdtemp`, which never hands out a path twice: a directory is new to everybody, this
prober and strangers alike, also after its removal. -/
def World.mkdtemp (w : World) (directory : PyStr) : Option World :=
  if directory ∈ w.handed then none
  else some { w with handed := directory :: w.handed, dirs := directory :: w.dirs }

/-- The end of `read_text` or of the `recv` loop.  A result file that is still
empty is polled again. -/
def afterRead (kind : ChannelKind) (origin : PyStr) (chunks : List (List Byte)) : Phase :=
  match kind, readText chunks.flatten with
  | .tempfile, .ok [] => .waiting
  | _, _ => .leaving (.received origin chunks)

/-- Whether nothing more will come from the file or the connection of `s`. A file ends where
it ends; a connection when the script has closed it. -/
def Mail.isClosed (mail : Mail) (kind : ChannelKind) (s : PyStr) : Bool :=
  match kind with
  | .tempfile => true
  | .unixSocket => match mail.conns s with
    | some conn => conn.closed
    | none => false

/-- A step of call `k`, where its phase allows the event. The phases follow
`execute_in_target` line by line: open the channel, make the directory of the script, write
it, inject it, receive, and clean up. -/
def proberStep (w : World) (k : ℕ) : ProberEvent → Option World
  | .openFails directory => if w.phase k = .idle then w.mkdtemp directory else none
  | .openChannel kind directory timeoutSeconds =>
    if w.phase k = .idle then
      (w.mkdtemp directory).map fun w =>
        { w.setPhase k .opened with
          channel := update w.channel k (some ⟨kind, directory, timeoutSeconds⟩)
          listening := if kind = .unixSocket then inDir directory kind.filename :: w.listening
            else w.listening }
    else none
  | .makeScriptDir directory =>
    if w.phase k = .opened then
      (w.mkdtemp directory).map fun w =>
        { w.setPhase k .located with scriptDir := update w.scriptDir k (some directory) }
    else none
  | .writeScript collectorSource =>
    match w.phase k, w.channel k, w.scriptDir k with
    | .located, some channel, some directory => some
        { w.setPhase k .scripted with
          scripts := update w.scripts (scriptPath directory)
            (some ⟨collectorSource, channel.spec⟩) }
    | _, _, _ => none
  | .remoteExec =>
    match w.phase k, w.scriptDir k with
    | .scripted, some directory => some
        { w.setPhase k .waiting with
          target := update w.target (scriptPath directory) .pending }
    | _, _ => none
  | .openResult =>
    match w.phase k, w.channel k with
    | .waiting, some channel =>
      if channel.kind = .tempfile then
        (w.mail.files channel.path).map fun origin => w.setPhase k (.reading origin [])
      else none
    | _, _ => none
  | .accept s =>
    match w.phase k, w.channel k, w.mail.conns s with
    | .waiting, some channel, some conn =>
      if channel.kind = .unixSocket ∧ conn.path = channel.path ∧ conn.accepted = false then some
        { w.setPhase k (.reading s []) with
          mail := w.mail.setConn s (some { conn with accepted := true }) }
      else none
    | _, _, _ => none
  | .read n =>
    match w.phase k with
    | .reading origin chunks =>
      let rest := (w.mail.bytes origin).drop chunks.flatten.length
      if 1 ≤ n ∧ n ≤ rest.length then
        some (w.setPhase k (.reading origin (chunks ++ [rest.take n])))
      else none
    | _ => none
  | .endOfFile =>
    match w.phase k, w.channel k with
    | .reading origin chunks, some channel =>
      if chunks.flatten.length = (w.mail.bytes origin).length ∧ w.mail.isClosed channel.kind origin
      then some (w.setPhase k (afterRead channel.kind origin chunks))
      else none
    | _, _ => none
  | .timeout =>
    match w.phase k, w.channel k with
    | .waiting, _ => some (w.setPhase k (.leaving .timedOut))
    | .reading _ _, some channel =>
      if channel.kind = .unixSocket then some (w.setPhase k (.leaving .timedOut)) else none
    | _, _ => none
  | .abort exc =>
    match w.phase k with
    | .opened => some (w.setPhase k (.closing (.raised exc)))
    | .located | .scripted | .waiting | .reading _ _ => some (w.setPhase k (.leaving (.raised exc)))
    | _ => none
  | .removeScriptDir survivors =>
    match w.phase k, w.scriptDir k with
    | .leaving outcome, some directory => some
        ((w.rmtree directory survivors).setPhase k (.closing outcome))
    | _, _ => none
  | .closeChannel survivors =>
    match w.phase k, w.channel k with
    | .closing outcome, some channel => some
        { (w.rmtree channel.directory survivors).setPhase k (.done outcome) with
          listening := w.listening.erase channel.path }
    | _, _ => none

section

variable [FloatText] {ε π : Type} [PyException ε] [Serial ε π]

/-- How many of these bytes `os.write` took, where it can have returned that: a short write
takes at least one byte and leaves at least one. -/
def Count.taken (data : List Byte) : Count → Option ℕ
  | .all => some data.length
  | .part n => if 1 ≤ n ∧ n < data.length then some n else none

/-- A step of a script in the target: it evaluates the collector, then writes back over the
socket or through the temporary file. `fail` is any exception of the write-back, which the
script swallows. -/
def taskStep (w : World) (s : PyStr) (task : Task) : TargetEvent ε π → Option (Task × Mail)
  | .load => none
  | .collect outcome =>
    if task.stage = .start then
      match Inject.pidprobeData outcome with
      | .ok data => some ({ task with data := some data, stage := .collected }, w.mail)
      | .error _ => some ({ task with stage := .ended }, w.mail)
    else none
  | .openTmp =>
    if task.stage = .collected ∧ task.spec.kind = .tempfile ∧
        w.dirs.any (below · (tmpPath task.spec.path)) then
      -- the file is truncated where it exists
      let fd := (w.mail.files (tmpPath task.spec.path)).getD s
      some ({ task with stage := .opened fd },
        (w.mail.setBytes fd []).setFile fd (tmpPath task.spec.path))
    else none
  | .write count =>
    match task.stage, task.data with
    | .opened fd, some data =>
      (count.taken data).map fun n => ({ task with stage := .wrote fd },
        w.mail.setBytes fd (data.take n ++ (w.mail.bytes fd).drop n))
    | _, _ => none
  | .closeTmp =>
    match task.stage with
    | .wrote _ => some ({ task with stage := .closed }, w.mail)
    | _ => none
  | .replace =>
    if task.stage = .closed then
      (w.mail.files (tmpPath task.spec.path)).map fun i =>
        ({ task with stage := .ended },
          (w.mail.unlink (tmpPath task.spec.path)).setFile i task.spec.path)
    else none
  | .connect =>
    match task.stage, task.data with
    | .collected, some data =>
      if task.spec.kind = .unixSocket ∧ task.spec.path ∈ w.listening then
        some ({ task with stage := .connected data },
          w.mail.setConn s (some ⟨task.spec.path, false, false⟩))
      else none
    | _, _ => none
  | .send n =>
    match task.stage with
    | .connected rest =>
      if 1 ≤ n ∧ n ≤ rest.length then
        some ({ task with stage := .connected (rest.drop n) },
          w.mail.setBytes s (w.mail.bytes s ++ rest.take n))
      else none
    | _ => none
  | .shutdown =>
    if task.stage = .connected [] then some ({ task with stage := .ended }, w.mail.close s)
    else none
  | .fail =>
    match task.stage with
    | .ended => none
    | .connected _ => some ({ task with stage := .ended }, w.mail.close s)
    | _ => some ({ task with stage := .ended }, w.mail)

/-- A step of the target with script `s`: it reads the script, where that still
exists, or its task goes on. -/
def targetStep (w : World) (s : PyStr) (event : TargetEvent ε π) : Option (Target × Mail) :=
  match w.target s, event with
  | .pending, .load => match w.scripts s with
    | some script => some (.running ⟨script.spec, none, .start⟩, w.mail)
    | none => some (.absent, w.mail)
  | .running task, event => (taskStep w s task event).map fun p => (.running p.1, p.2)
  | _, _ => none

/-- One step of the system. Events that do not fit the state are no steps, so a run is any
order of steps the parties can really take. -/
def step (w : World) : Event ε π → Option World
  | .handOut directory => w.mkdtemp directory
  | .prober k event => proberStep w k event
  | .target s event => (targetStep w s event).map fun p => w.setTarget s p.1 p.2

end

end Protocol
end Pidprobe
