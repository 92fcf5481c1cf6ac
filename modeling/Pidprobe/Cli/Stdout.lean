/-
# Stdout without a reader

`_abandon_stdout` of `cli.py`, as calls on the descriptors of the process: the null
device is opened, put in the place of stdout and closed again.  Which steps fail is
told by `Stdout`, and `os.close` succeeds on a descriptor that is open.

Whatever fails, no descriptor but that of stdout is changed and none is left open
(`abandonStdout_keeps`), and neither an `OSError` nor a `ValueError` gets out
(`ends_abandonStdout`); where nothing does, what is flushed later goes to the null
device (`abandonStdout_redirects`).

`mainOn` is `main` on these descriptors.
-/

import Mathlib.Logic.Function.Basic
import Pidprobe.Cli
import Pidprobe.Lib.Effect

namespace Pidprobe
namespace Cli

/-- What a descriptor refers to; `φ` are the other files of the process. -/
inductive File (φ : Type)
  | devnull
  | other (file : φ)

/-- The open descriptors. -/
abbrev Descriptors (φ : Type) := ℕ → Option (File φ)

/-- What the steps come to: the descriptor of stdout, the opening of the null device, and
`os.dup2`. -/
structure Stdout (φ : Type) where
  /-- `sys.stdout.fileno()`. -/
  fileno : Except Raised ℕ
  /-- `os.open(os.devnull, os.O_WRONLY)`. -/
  openDevnull : Descriptors φ → Except Raised ℕ
  /-- A file is opened on a descriptor that is not in use. -/
  openDevnull_free : ∀ t fd, openDevnull t = .ok fd → t fd = none
  dup2Fails : Option Raised

/-- `isinstance(exc, (OSError, ValueError))`: a `BrokenPipeError` is an `OSError`, and a
`UnicodeDecodeError` a `ValueError`. -/
def isSuppressed : Raised → Bool
  | .brokenPipe | .exception .os | .exception (.valueError _) | .exception .unicodeDecode => true
  | _ => false

namespace Stdout

variable {φ : Type} (s : Stdout φ)

/-- `os.close(fd)`. -/
def close (fd : ℕ) (t : Descriptors φ) : Descriptors φ := Function.update t fd none

/-- The null device on a descriptor that was free, or the exception of `os.open`. -/
def opened : Call (Descriptors φ) Raised ℕ := fun t =>
  match s.openDevnull t with
  | .ok fd => (.ok fd, Function.update t fd (some .devnull))
  | .error exc => (.error exc, t)

/-- `os.dup2(devnull, target)`: the target refers to what the null device's descriptor
refers to. -/
def dup2 (devnull target : ℕ) : Call (Descriptors φ) Raised Unit := do
  Call.step s.dup2Fails
  Call.modify fun t => Function.update t target (t devnull)

/-- `_abandon_stdout`: stdout is put on the null device, and the `OSError` or `ValueError`
of any step is suppressed. -/
def abandonStdout : Call (Descriptors φ) Raised Unit :=
  Call.tryExcept
    (do
      let target ← Call.lift s.fileno
      Call.bracket s.opened close fun devnull => s.dup2 devnull target)
    isSuppressed fun _ => pure ()

variable {s} {t : Descriptors φ} {devnull target : ℕ}

/-- The body of the `with`, where stdout has a descriptor and the null device opens: the
extra descriptor is closed again. -/
theorem bracket_opened (h : s.openDevnull t = .ok devnull) :
    (Call.bracket s.opened close fun devnull => s.dup2 devnull target) t =
      match s.dup2Fails with
      | some exc => (.error exc, t)
      | none => (.ok (), close devnull (Function.update t target (some .devnull))) := by
  have hfree := s.openDevnull_free t devnull h
  have hopened : s.opened t = (.ok devnull, Function.update t devnull (some .devnull)) := by
    rw [opened, h]
  rw [Call.bracket, Call.bind_ok hopened, Call.tryFinally]
  rcases hdup : s.dup2Fails with _ | exc
  · -- the copy at `target` stays, unless it is the one that is closed
    have hrun : s.dup2 devnull target (Function.update t devnull (some .devnull)) =
        (.ok (), Function.update (Function.update t devnull (some .devnull)) target
          (some .devnull)) := by
      rw [dup2, hdup]
      simp [Call.step, Call.modify, bind]
    rw [hrun]
    refine congrArg (Prod.mk _) (funext fun fd => ?_)
    by_cases hfd : fd = devnull
    · simp [close, hfd]
    · by_cases htarget : fd = target
      · subst htarget
        simp [close, Function.update_of_ne hfd]
      · simp [close, hfd, htarget]
  · have hrun : s.dup2 devnull target (Function.update t devnull (some .devnull)) =
        (.error exc, Function.update t devnull (some .devnull)) := by
      rw [dup2, hdup]
      rfl
    rw [hrun, close, Function.update_idem, ← hfree, Function.update_eq_self]

/-- What is left behind where the null device opens: stdout alone may differ, since the
extra descriptor was free before. -/
theorem bracket_elsewhere {fd : ℕ} (hfd : fd ≠ target) :
    ((Call.bracket s.opened close fun devnull => s.dup2 devnull target) t).2 fd = t fd := by
  rcases hopen : s.openDevnull t with exc | devnull
  · have hopened : s.opened t = (.error exc, t) := by rw [opened, hopen]
    rw [Call.bracket, Call.bind_error hopened]
  · rw [bracket_opened hopen]
    rcases s.dup2Fails with _ | exc
    · by_cases hdev : fd = devnull
      · rw [hdev, s.openDevnull_free t devnull hopen]
        simp [close]
      · simp [close, hdev, hfd]
    · rfl

/-- A suppressed exception leaves the descriptors as the body did. -/
theorem tryExcept_suppressed {x : Call (Descriptors φ) Raised Unit} (t : Descriptors φ) :
    (Call.tryExcept x isSuppressed (fun _ => pure ()) t).2 = (x t).2 := by
  rcases hx : x t with ⟨exc | a, t'⟩
  · rcases hc : isSuppressed exc with _ | _
    · simp [Call.tryExcept, hx, hc]
    · rw [Call.tryExcept_error hx hc]
      rfl
  · rw [Call.tryExcept_ok hx]

/-- **No descriptor leaks.**  Whatever fails, every descriptor but that of stdout refers
to what it did before, the one of the null device included. -/
theorem abandonStdout_keeps {fd : ℕ} (h : s.fileno ≠ .ok fd) :
    (s.abandonStdout t).2 fd = t fd := by
  rw [abandonStdout, tryExcept_suppressed]
  rcases hfileno : s.fileno with exc | target
  · rfl
  · rw [Call.lift_ok_bind]
    refine bracket_elsewhere fun hfd => h ?_
    rw [hfileno, hfd]

/-- Where nothing fails, an open stdout goes to the null device, so that the interpreter's
own flush cannot fail. -/
theorem abandonStdout_redirects (hfileno : s.fileno = .ok target) (htarget : t target ≠ none)
    (hopen : s.openDevnull t = .ok devnull) (hdup : s.dup2Fails = none) :
    s.abandonStdout t = (.ok (), Function.update t target (some .devnull)) := by
  have hfree := s.openDevnull_free t devnull hopen
  have hne : devnull ≠ target := fun heq => htarget (heq ▸ hfree)
  refine Call.tryExcept_ok ?_
  rw [hfileno, Call.lift_ok_bind, bracket_opened hopen, hdup]
  -- the descriptor of the null device is as free as before it was opened
  have hclose : close devnull (Function.update t target (some .devnull)) =
      Function.update t target (some .devnull) := by
    rw [close, Function.update_comm hne.symm, ← hfree, Function.update_eq_self]
  rw [hclose]

/-- An `OSError` or a `ValueError` does not get out; what is neither, such as an interrupt,
does. -/
theorem ends_abandonStdout :
    Call.Ends (fun _ => True) (fun exc => isSuppressed exc = false) s.abandonStdout := by
  refine Call.Ends.tryExcept (Q := fun _ => True) ⟨fun _ _ _ => trivial, fun _ _ _ => trivial⟩
    (fun _ _ hc => hc) fun _ _ => Call.ends_pure trivial

end Stdout

/-! ## In `main` -/

variable [GeneralText] {φ : Type} {stdout : Stdout φ} {t : Descriptors φ}

/-- `main` on the descriptors of its process: stdout is abandoned where its reader went
away, and no other branch touches a descriptor. -/
def mainOn (stdout : Stdout φ) (environment : Environment) (args : Namespace)
    (handled : Except Raised ℕ) (t : Descriptors φ) : Ended × Descriptors φ :=
  let (abandoned, left) := stdout.abandonStdout t
  (main { environment with abandoned } args handled,
    match handled with
    | .error .brokenPipe => left
    | _ => t)

/-- **`main` leaks no descriptor.**  Whatever the handler came to and whichever step
fails, every descriptor but that of stdout refers to what it did before. -/
theorem mainOn_keeps (environment : Environment) (args : Namespace) (handled : Except Raised ℕ)
    {fd : ℕ} (h : stdout.fileno ≠ .ok fd) :
    (mainOn stdout environment args handled t).2 fd = t fd := by
  unfold mainOn
  dsimp only
  split
  · exact Stdout.abandonStdout_keeps h
  · rfl

/-- Only a reader that went away has a descriptor changed at all, whatever else the command
comes to. -/
theorem mainOn_snd (environment : Environment) (args : Namespace) {handled : Except Raised ℕ}
    (h : handled ≠ .error .brokenPipe) : (mainOn stdout environment args handled t).2 = t := by
  unfold mainOn
  dsimp only
  split
  · exact absurd rfl h
  · rfl

/-- A reader that went away has stdout put on the null device, where no step fails. -/
theorem mainOn_redirects (environment : Environment) (args : Namespace) {devnull target : ℕ}
    (hfileno : stdout.fileno = .ok target) (htarget : t target ≠ none)
    (hopen : stdout.openDevnull t = .ok devnull) (hdup : stdout.dup2Fails = none) :
    mainOn stdout environment args (.error .brokenPipe) t =
      (⟨.ok exitBrokenPipe, []⟩, Function.update t target (some .devnull)) := by
  rw [mainOn, Stdout.abandonStdout_redirects hfileno htarget hopen hdup]
  rfl

end Cli
end Pidprobe
