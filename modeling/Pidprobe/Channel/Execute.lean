/-
# What a probe leaves behind

`execute_in_target` of `_channel.py` and the constructors it goes through, as
calls on the set of temporary directories and of open server sockets.  Every
step that can fail is told by `Faults` whether it does, and with what exception;
`mkdtemp` hands out a directory that does not exist yet, `rmtree` and `close`
succeed.

`UnixSocketChannel.__init__` creates its directory and its socket before the
`try` whose handler closes both, and the handler is for `OSError` only.
`cleanup_iff` says that these are the only ways a probe leaves something behind.
-/

import Mathlib.Data.Finset.Basic
import Mathlib.Data.Finset.Lattice.Fold
import Mathlib.Order.Lattice.Nat
import Pidprobe.Errors
import Pidprobe.Lib.Effect

namespace Pidprobe
namespace Execute

/-- What a call of `execute_in_target` can leave behind: the temporary directories that
exist and the server sockets that are open. -/
@[ext] structure Resources (δ κ : Type) where
  dirs : Finset δ
  sockets : Finset κ
  deriving DecidableEq

/-- Which steps fail, with which exception, and what the operating system hands out where
they do not. A call is run against one such assignment. -/
structure Faults (ε δ κ ρ : Type) where
  /-- `isinstance(exc, OSError)`. -/
  isOSError : ε → Bool
  /-- The `OSError` raised where `AF_UNIX` is missing. -/
  noAfUnix : ε
  noAfUnix_isOSError : isOSError noAfUnix = true
  /-- `tempfile.mkdtemp`. -/
  mkdtemp : Finset δ → δ
  mkdtemp_fresh : ∀ dirs, mkdtemp dirs ∉ dirs
  /-- `socket.socket`. -/
  socket : Finset κ → κ
  socket_fresh : ∀ sockets, socket sockets ∉ sockets
  hasAfUnix : Bool
  socketDirFails : Option ε
  socketFails : Option ε
  bindFails : Option ε
  listenFails : Option ε
  resultDirFails : Option ε
  scriptDirFails : Option ε
  writeScriptFails : Option ε
  remoteExecFails : Option ε
  /-- `channel.receive(deadline)`. -/
  receive : Except ε ρ

variable {ε δ κ ρ η : Type} [DecidableEq δ] [DecidableEq κ]

/-- An open return channel. The socket has a directory and a server to release; the file has
a directory only. -/
inductive ReturnChannel (δ κ : Type)
  | unixSocket (directory : δ) (server : κ)
  | tempFile (directory : δ)

/-- `shutil.rmtree(directory, ignore_errors=True)`. Here it removes the directory: what
survives is the subject of `Channel/Leftovers`. -/
def rmtree (directory : δ) (s : Resources δ κ) : Resources δ κ :=
  { s with dirs := s.dirs.erase directory }

/-- `server.close()`: the descriptor is gone, the socket file stays until its directory is
removed. -/
def closeSocket (server : κ) (s : Resources δ κ) : Resources δ κ :=
  { s with sockets := s.sockets.erase server }

/-- `close` of either channel: the socket closes its server first, and both remove their
directory. -/
def ReturnChannel.close (channel : ReturnChannel δ κ) (s : Resources δ κ) : Resources δ κ :=
  match channel with
  | .unixSocket directory server => rmtree directory (closeSocket server s)
  | .tempFile directory => rmtree directory s

variable (f : Faults ε δ κ ρ)

/-- A temporary directory, unless creating it fails; `mkdtemp` and `_short_tempdir` alike
make a directory that was not there. -/
def makeDir (fails : Option ε) : Call (Resources δ κ) ε δ := fun s =>
  match fails with
  | some exc => (.error exc, s)
  | none => (.ok (f.mkdtemp s.dirs), { s with dirs := insert (f.mkdtemp s.dirs) s.dirs })

/-- `socket.socket(socket.AF_UNIX, socket.SOCK_STREAM)`, outside the `try` of the
constructor: where it fails, nobody closes anything. -/
def makeSocket : Call (Resources δ κ) ε κ := fun s =>
  match f.socketFails with
  | some exc => (.error exc, s)
  | none => (.ok (f.socket s.sockets), { s with sockets := insert (f.socket s.sockets) s.sockets })

/-- `UnixSocketChannel()`: the directory, the socket, then `bind` and `listen` under the
handler that closes the channel on an `OSError`. -/
def unixSocketChannel : Call (Resources δ κ) ε (ReturnChannel δ κ) :=
  if f.hasAfUnix then do
    let directory ← makeDir f f.socketDirFails
    let server ← makeSocket f
    let channel := ReturnChannel.unixSocket directory server
    Call.tryExcept (do Call.step f.bindFails; Call.step f.listenFails; pure channel) f.isOSError
      (Call.raiseAfter channel.close)
  else Call.lift (.error f.noAfUnix)

/-- `TempFileChannel()`: a directory, in which the script of the target will drop its
result. -/
def tempFileChannel : Call (Resources δ κ) ε (ReturnChannel δ κ) := do
  let directory ← makeDir f f.resultDirFails
  pure (.tempFile directory)

/-- `open_channel`: the socket where it is allowed, and the file where opening the socket
raises an `OSError`. -/
def openChannel (allowSocket : Bool) : Call (Resources δ κ) ε (ReturnChannel δ κ) :=
  if allowSocket then
    Call.tryExcept (unixSocketChannel f) f.isOSError fun _ => tempFileChannel f
  else tempFileChannel f

/-- `_remote_exec`, from what `sys.remote_exec` raises: three kinds of exceptions become an
`AttachError`, the others stay as they are. -/
def remoteExec (pid : ℤ) (raised : Option Cause) : Option PyError :=
  raised.map fun exc =>
    if exc.kind.isTranslated then .probe (.fromCause pid exc) else exc.error

/-- `execute_in_target`, `parse` being `parse_envelope`: the two nested `try`/`finally`
blocks, with the answer parsed behind both. -/
def executeInTarget (parse : ρ → Except ε η) (allowSocket : Bool) : Call (Resources δ κ) ε η := do
  let raw ← Call.bracket (openChannel f allowSocket) ReturnChannel.close fun _ =>
    Call.bracket (makeDir f f.scriptDirFails) rmtree fun _ => do
      Call.step f.writeScriptFails
      Call.step f.remoteExecFails
      Call.lift f.receive
  Call.lift (parse raw)

/-! ## What is raised -/

/-- What a step of a probe, other than the injection, raises past the handlers: the
steps of the socket channel are under one for `OSError`. -/
inductive Faults.Raises (exc : ε) : Prop
  | socketDir (h : f.socketDirFails = some exc) (hos : f.isOSError exc = false)
  | socket (h : f.socketFails = some exc) (hos : f.isOSError exc = false)
  | bind (h : f.bindFails = some exc) (hos : f.isOSError exc = false)
  | listen (h : f.listenFails = some exc) (hos : f.isOSError exc = false)
  | resultDir (h : f.resultDirFails = some exc)
  | scriptDir (h : f.scriptDirFails = some exc)
  | writeScript (h : f.writeScriptFails = some exc)
  | receive (h : f.receive = .error exc)

section

open Call

variable {f} {P : ε → Prop}

omit [DecidableEq κ] in
/-- Making a directory raises what the system call raises. -/
theorem ends_makeDir {fails : Option ε} (h : ∀ exc, fails = some exc → P exc) :
    Ends (fun _ => True) P (makeDir f fails) where
  returns _ _ _ := trivial
  raises s exc he := by
    cases fails with
    | none => cases he
    | some e => exact h exc (congrArg some (Except.error.inj he))

omit [DecidableEq δ] in
/-- Making a socket raises what the constructor raises. -/
theorem ends_makeSocket (h : ∀ exc, f.socketFails = some exc → P exc) :
    Ends (fun _ => True) P (makeSocket f) where
  returns _ _ _ := trivial
  raises s exc he := by
    unfold makeSocket at he
    split at he
    · next e hs => exact h exc (hs.trans (congrArg some (Except.error.inj he)))
    · cases he

/-- The constructor raises an `OSError`, or what none of its handlers is for, which is what
another step of the call raises. -/
theorem ends_unixSocketChannel :
    Ends (fun _ => True) (fun exc => f.isOSError exc = true ∨ f.Raises exc)
      (unixSocketChannel f) := by
  have hstep : ∀ {exc}, (f.isOSError exc = false → f.Raises exc) →
      f.isOSError exc = true ∨ f.Raises exc := by
    intro exc h
    rcases hos : f.isOSError exc with _ | _
    · exact .inr (h hos)
    · exact .inl rfl
  unfold unixSocketChannel
  split_ifs
  · refine (ends_makeDir fun exc h => hstep (.socketDir h)).bind fun directory _ => ?_
    refine (ends_makeSocket fun exc h => hstep (.socket h)).bind fun server _ => ?_
    refine Ends.tryExcept (Q := fun exc => f.isOSError exc = true ∨ f.Raises exc) ?_
      (fun _ h _ => h) fun _ h => ends_raiseAfter h
    refine (ends_step fun exc h => hstep (.bind h)).bind fun _ _ => ?_
    exact (ends_step fun exc h => hstep (.listen h)).bind fun _ _ => ends_pure trivial
  · refine ends_lift (fun _ _ => trivial) fun exc h => ?_
    exact .inl (Except.error.inj h ▸ f.noAfUnix_isOSError)

omit [DecidableEq κ] in
/-- A channel over a file raises what making its directory raises. -/
theorem ends_tempFileChannel : Ends (fun _ => True) f.Raises (tempFileChannel f) :=
  (ends_makeDir fun _ h => .resultDir h).bind fun _ _ => ends_pure trivial

/-- Opening a channel raises what one of its steps raises; where the socket fails with an
`OSError`, what opening the file raises instead. -/
theorem ends_openChannel (allowSocket : Bool) :
    Ends (fun _ => True) f.Raises (openChannel f allowSocket) := by
  unfold openChannel
  split_ifs
  · refine ends_unixSocketChannel.tryExcept (fun exc h hos => ?_) fun _ _ => ends_tempFileChannel
    exact h.resolve_left (by simp [hos])
  · exact ends_tempFileChannel

/-- **Where an exception comes from**: the injection, another step of the call, or the
answer, which was received but does not parse. -/
theorem ends_executeInTarget (parse : ρ → Except ε η) (allowSocket : Bool) :
    Ends (fun envelope => ∃ raw, f.receive = .ok raw ∧ parse raw = .ok envelope)
      (fun exc => f.remoteExecFails = some exc ∨ f.Raises exc ∨
        ∃ raw, f.receive = .ok raw ∧ parse raw = .error exc)
      (executeInTarget f parse allowSocket) := by
  have hbody : Ends (fun raw => f.receive = .ok raw)
      (fun exc => f.remoteExecFails = some exc ∨ f.Raises exc)
      (bracket (openChannel f allowSocket) ReturnChannel.close fun _ =>
        bracket (makeDir f f.scriptDirFails) rmtree fun _ => do
          step f.writeScriptFails
          step f.remoteExecFails
          lift f.receive) := by
    refine Ends.bracket (R := fun _ => True) ?_ fun _ _ =>
      (ends_makeDir fun exc h => .inr (.scriptDir h)).bracket fun _ _ => ?_
    · exact ⟨fun _ _ _ => trivial,
        fun s exc h => .inr ((ends_openChannel allowSocket).raises s exc h)⟩
    · refine (ends_step fun exc h => .inr (.writeScript h)).bind fun _ _ => ?_
      refine (ends_step fun exc h => .inl h).bind fun _ _ => ?_
      exact ends_lift (fun _ h => h) fun _ h => .inr (.receive h)
  unfold executeInTarget
  refine Ends.bind (R := fun raw => f.receive = .ok raw)
    ⟨hbody.returns, fun s exc h => ?_⟩ fun raw hraw =>
      ends_lift (fun envelope h => ⟨raw, hraw, h⟩) fun exc h => .inr (.inr ⟨raw, hraw, h⟩)
  exact (hbody.raises s exc h).imp_right .inl

end

/-! ## What is left behind -/

/-- A socket channel fails after its directory exists and past the handler that
removes it: creating the socket fails, or the first of `bind` and `listen` to
fail raises something else than an `OSError`. -/
def Leaks (allowSocket : Bool) : Prop :=
  allowSocket = true ∧ f.hasAfUnix = true ∧ f.socketDirFails = none ∧
    (f.socketFails.isSome ∨
      ∃ exc, f.bindFails.or f.listenFails = some exc ∧ f.isOSError exc = false)

open Call

/-- The state with a new directory, the one `mkdtemp` would hand out next. -/
def withDir (s : Resources δ κ) : Resources δ κ :=
  { s with dirs := insert (f.mkdtemp s.dirs) s.dirs }

/-- The state with a new server socket, the one the system would hand out next. -/
def withSocket (s : Resources δ κ) : Resources δ κ :=
  { s with sockets := insert (f.socket s.sockets) s.sockets }

omit [DecidableEq κ] in
/-- A directory that is made is there afterwards. -/
theorem makeDir_none {s : Resources δ κ} {fails : Option ε} (h : fails = none) :
    makeDir f fails s = (.ok (f.mkdtemp s.dirs), withDir f s) := by
  subst h
  rfl

omit [DecidableEq κ] in
/-- A directory that is not made leaves nothing behind. -/
theorem makeDir_some {s : Resources δ κ} {fails : Option ε} {exc : ε} (h : fails = some exc) :
    makeDir f fails s = (.error exc, s) := by
  subst h
  rfl

omit [DecidableEq δ] in
/-- A socket that is made is open afterwards. -/
theorem makeSocket_none {s : Resources δ κ} (h : f.socketFails = none) :
    makeSocket f s = (.ok (f.socket s.sockets), withSocket f s) := by
  rw [makeSocket, h]
  rfl

omit [DecidableEq δ] in
/-- A socket that is not made leaves nothing behind. -/
theorem makeSocket_some {s : Resources δ κ} {exc : ε} (h : f.socketFails = some exc) :
    makeSocket f s = (.error exc, s) := by
  rw [makeSocket, h]

omit [DecidableEq κ] in
@[simp] theorem rmtree_withDir (s : Resources δ κ) :
    rmtree (f.mkdtemp s.dirs) (withDir f s) = s := by
  rw [rmtree, withDir, Finset.erase_insert (f.mkdtemp_fresh _)]

omit [DecidableEq δ] in
@[simp] theorem closeSocket_withSocket (s : Resources δ κ) :
    closeSocket (f.socket s.sockets) (withSocket f s) = s := by
  rw [closeSocket, withSocket, Finset.erase_insert (f.socket_fresh _)]

omit [DecidableEq κ] in
/-- A new directory is one that was not there. -/
theorem withDir_ne (s : Resources δ κ) : (withDir f s).dirs ≠ s.dirs := by
  intro h
  have hmem : f.mkdtemp s.dirs ∈ (withDir f s).dirs := Finset.mem_insert_self _ _
  exact f.mkdtemp_fresh s.dirs (h ▸ hmem)

omit [DecidableEq κ] in
/-- A directory is removed again: making it and removing it leaves the state as it was, also
where making it fails. -/
theorem settled_makeDir (fails : Option ε) (s : Resources δ κ) :
    settled (makeDir f fails) rmtree s = s := by
  rcases h : fails with _ | exc
  · rw [settled_ok (makeDir_none f rfl), rmtree_withDir]
  · rw [settled_error (makeDir_some f rfl)]

/-- Closing a channel over a file removes its directory again. -/
theorem settled_tempFileChannel (s : Resources δ κ) :
    settled (tempFileChannel f) ReturnChannel.close s = s := by
  rcases h : f.resultDirFails with _ | exc
  · have ht : tempFileChannel f s = (.ok (.tempFile (f.mkdtemp s.dirs)), withDir f s) :=
      bind_ok (makeDir_none f h)
    rw [settled_ok ht, ReturnChannel.close, rmtree_withDir]
  · have ht : tempFileChannel f s = (.error exc, s) := bind_error (makeDir_some f h)
    rw [settled_error ht]

/-- The fallback leaves what the failed attempt left: a channel over a file is closed
without a trace. -/
theorem settled_openChannel (s : Resources δ κ) :
    settled (openChannel f true) ReturnChannel.close s =
      settled (unixSocketChannel f) ReturnChannel.close s := by
  rw [openChannel, if_pos rfl]
  rcases hu : unixSocketChannel f s with ⟨exc | channel, t⟩
  · rw [settled_error hu, settled, tryExcept, hu]
    dsimp only
    split_ifs with he
    · exact settled_tempFileChannel f t
    · rfl
  · rw [settled_ok hu, settled, tryExcept, hu]

/-- Binding and listening, under the handler that closes the channel. An exception that is
no `OSError` passes it, and nothing is closed. -/
theorem tryExcept_listen (channel : ReturnChannel δ κ) (s : Resources δ κ) :
    tryExcept (do step f.bindFails; step f.listenFails; pure channel) f.isOSError
        (raiseAfter channel.close) s =
      match f.bindFails.or f.listenFails with
      | none => (.ok channel, s)
      | some exc => (.error exc, if f.isOSError exc then channel.close s else s) := by
  unfold tryExcept
  rcases hb : f.bindFails with _ | exc
  · rcases hl : f.listenFails with _ | exc
    · rfl
    · show (if f.isOSError exc then _ else _) = _
      rw [Option.none_or]
      dsimp only
      split_ifs <;> rfl
  · show (if f.isOSError exc then _ else _) = _
    rw [Option.some_or]
    dsimp only
    split_ifs <;> rfl

/-- Closing a channel whose directory and socket were just made leaves neither of them. -/
theorem close_unixSocket (s : Resources δ κ) :
    (ReturnChannel.unixSocket (f.mkdtemp s.dirs) (f.socket (withDir f s).sockets)).close
      (withSocket f (withDir f s)) = s := by
  rw [ReturnChannel.close, closeSocket_withSocket, rmtree_withDir]

/-- A channel object whose directory and socket exist comes to a channel, or to an exception
of `bind` or `listen`. -/
theorem unixSocketChannel_listen {s : Resources δ κ} (haf : f.hasAfUnix = true)
    (hd : f.socketDirFails = none) (hs : f.socketFails = none) :
    unixSocketChannel f s =
      match f.bindFails.or f.listenFails with
      | none => (.ok (.unixSocket (f.mkdtemp s.dirs) (f.socket (withDir f s).sockets)),
          withSocket f (withDir f s))
      | some exc => (.error exc, if f.isOSError exc then s else withSocket f (withDir f s)) := by
  rw [unixSocketChannel, if_pos haf, bind_ok (makeDir_none f hd), bind_ok (makeSocket_none f hs),
    tryExcept_listen, close_unixSocket]

/-- A socket channel that is opened and closed, or fails to open, leaves nothing
behind unless it leaks. -/
theorem settled_unixSocketChannel (s : Resources δ κ) :
    settled (unixSocketChannel f) ReturnChannel.close s = s ↔ ¬Leaks f true := by
  by_cases haf : f.hasAfUnix = true
  swap
  · have hu : unixSocketChannel f s = (.error f.noAfUnix, s) := by
      rw [unixSocketChannel, if_neg haf, lift]
    simp [settled_error hu, Leaks, haf]
  rcases hd : f.socketDirFails with _ | exc
  swap
  · have hu : unixSocketChannel f s = (.error exc, s) := by
      rw [unixSocketChannel, if_pos haf, bind_error (makeDir_some f hd)]
    simp [settled_error hu, Leaks, hd]
  rcases hs : f.socketFails with _ | exc
  swap
  · -- the directory exists, and no handler is in place yet
    have hu : unixSocketChannel f s = (.error exc, withDir f s) := by
      rw [unixSocketChannel, if_pos haf, bind_ok (makeDir_none f hd),
        bind_error (makeSocket_some f hs)]
    simp only [settled_error hu, Leaks, haf, hd, hs, Option.isSome_some, true_or, and_self,
      not_true_eq_false, iff_false]
    exact fun h => withDir_ne f s (congrArg Resources.dirs h)
  have hu := unixSocketChannel_listen f haf hd hs (s := s)
  rcases hl : f.bindFails.or f.listenFails with _ | exc <;> rw [hl] at hu
  · rw [settled_ok hu, close_unixSocket]
    simp [Leaks, hs, hl]
  · rw [settled_error hu]
    by_cases he : f.isOSError exc = true
    · simp [Leaks, hs, hl, he]
    · -- the handler does not see this exception
      rw [if_neg he]
      simp only [Leaks, haf, hd, hs, hl, he, Option.isSome_none, Bool.false_eq_true, false_or,
        true_and, Option.some.injEq, exists_eq_left', not_true_eq_false, iff_false]
      exact fun h => withDir_ne f s (show (withSocket f (withDir f s)).dirs = s.dirs by rw [h])

omit [DecidableEq κ] in
/-- The body of the outer `try` removes the script directory on every way out of it. -/
theorem keeps_body : Keeps (bracket (makeDir f f.scriptDirFails) rmtree fun _ => do
    step f.writeScriptFails
    step f.remoteExecFails
    lift f.receive : Call (Resources δ κ) ε ρ) :=
  bracket_keeps (settled_makeDir f _) fun _ =>
    (keeps_step _).bind fun _ => (keeps_step _).bind fun _ => keeps_lift _

/-- **Cleanup, and the ways to miss it.**  Whatever steps fail, a probe leaves the
temporary directories and the server sockets as it found them if and only if it
does not fail between creating the socket's directory and the handler that
removes it. -/
theorem cleanup_iff (parse : ρ → Except ε η) (allowSocket : Bool) (s : Resources δ κ) :
    (executeInTarget f parse allowSocket s).2 = s ↔ ¬Leaks f allowSocket := by
  have hs : (executeInTarget f parse allowSocket s).2 =
      settled (openChannel f allowSocket) ReturnChannel.close s := by
    rw [executeInTarget, bind_keeps fun _ => keeps_lift _, bracket_settled fun _ => keeps_body f]
  rw [hs]
  cases allowSocket with
  | true => rw [settled_openChannel, settled_unixSocketChannel]
  | false =>
    rw [openChannel, if_neg Bool.false_ne_true, settled_tempFileChannel]
    simp [Leaks]

/-- A number that is not in a finite set. -/
theorem sup_succ_notMem (s : Finset ℕ) : s.sup id + 1 ∉ s := by
  intro h
  have hle : s.sup id + 1 ≤ s.sup id := Finset.le_sup (f := id) h
  omega

/-- A system without a free file descriptor for a socket: directories can be made,
`socket.socket` raises an `OSError`. -/
def noDescriptor : Faults PyError ℕ ℕ PyStr where
  isOSError exc := exc = .os
  noAfUnix := .os
  noAfUnix_isOSError := rfl
  mkdtemp dirs := dirs.sup id + 1
  mkdtemp_fresh := sup_succ_notMem
  socket sockets := sockets.sup id + 1
  socket_fresh := sup_succ_notMem
  hasAfUnix := true
  socketDirFails := none
  socketFails := some .os
  bindFails := none
  listenFails := none
  resultDirFails := none
  scriptDirFails := none
  writeScriptFails := none
  remoteExecFails := none
  receive := .ok []

/-- The probe falls back to a file and succeeds; the directory made for the
socket stays. -/
theorem failed_socket_leaks_directory :
    (executeInTarget noDescriptor Except.ok true ⟨∅, ∅⟩).2 ≠ ⟨∅, ∅⟩ := by
  have hleft : (executeInTarget noDescriptor Except.ok true ⟨∅, ∅⟩).2 = ⟨{1}, ∅⟩ := by rfl
  rw [hleft]
  decide

end Execute
end Pidprobe
