/-
# The stacks collector

The snippet of `collectors/_stacks.py`.  The chain of frames behind a top frame
is a list, the innermost first; the locals of a frame are rendered by
`SafeRepr.frameLocals`.  What the snippet leaves behind is given by what
`json.dumps` does with it, since a rendering may be an object of the target's.

`thread.name` and `thread.daemon` are what the target's thread objects return:
`Thread` makes a `str` of the one, and keeps the other as it was set.
-/

import Mathlib.Data.List.Sort
import Pidprobe.SafeRepr

namespace Pidprobe
namespace Stacks

/-- `MAX_FRAME_DEPTH`. -/
def maxFrameDepth : ℕ := 128

/-- What the collector reads of a frame.  `f_lineno` is `None` where an
instruction has no line. -/
structure Frame (ε α : Type) where
  filename : PyStr
  lineno : Option ℤ
  qualname : PyStr
  fLocals : Except ε (List (α × α))

/-- What the collector reads of the target. -/
structure World (ε α : Type) where
  /-- The name and the daemon flag of each thread in `threading._active`, or what
  reading them raises. -/
  active : Except ε (List (ℤ × Json × Json))
  /-- `threading.main_thread().ident`. -/
  mainIdent : Option ℤ
  /-- `_pidprobe_target_frames()`, each top frame with those behind it. -/
  targetFrames : List (ℤ × List (Frame ε α))

/-- An entry of `threads`, its frames given by what `json.dumps` does with them. -/
structure ThreadEntry (ε : Type) where
  threadId : ℤ
  name : Json
  daemon : Json
  isMain : Bool
  frames : List (Except ε Json)
  framesTruncated : Bool

/-- The entry with its frames as JSON. -/
def ThreadEntry.json {ε : Type} (entry : ThreadEntry ε) (frames : List Json) : Json :=
  .obj [(py "thread_id", .int entry.threadId), (py "name", entry.name),
    (py "daemon", entry.daemon), (py "is_main", .bool entry.isMain),
    (py "frames", .arr frames), (py "frames_truncated", .bool entry.framesTruncated)]

instance {ε : Type} : Serial ε (ThreadEntry ε) where
  walk entry := do
    let frames ← entry.frames.mapM id
    .ok (entry.json frames)

/-- The order of the sort key `(not is_main, thread_id)`: the main thread first, the others
by their numbers. -/
def ThreadEntry.Precedes {ε : Type} (x y : ThreadEntry ε) : Prop :=
  (x.isMain = true ∧ y.isMain = false) ∨ (x.isMain = y.isMain ∧ x.threadId ≤ y.threadId)

instance {ε : Type} : DecidableRel (ThreadEntry.Precedes (ε := ε)) :=
  fun _ _ => inferInstanceAs (Decidable (_ ∨ _))

section

variable [Unicode] {ε α : Type} [PyException ε] [PyObject ε α]

omit [Unicode] [PyException ε] in
/-- One local as `json.dumps` writes it. What `safe_repr` returned may be of a class of the
target's, and need not be a `str`. -/
def localJson (kv : PyStr × Text α) : Except ε (PyStr × Json) := do
  let v ← Serial.walk kv.2
  .ok (kv.1, v)

omit [Unicode] [PyException ε] in
/-- The value of `"locals"` as `json.dumps` writes it. -/
def localsJson (locals : Option (List (PyStr × Text α))) : Except ε Json :=
  match locals with
  | none => .ok .null
  | some pairs => do
    let ms ← pairs.mapM localJson
    .ok (.obj ms)

omit [Unicode] [PyException ε] [PyObject ε α] in
/-- An entry of `frames` whose locals are written as this. -/
def frameJson (frame : Frame ε α) (locals : Json) : Json :=
  .obj [(py "file", .str frame.filename), (py "line", frame.lineno.elim .null .int),
    (py "function", .str frame.qualname), (py "locals", locals)]

/-- An entry of `frames`, given by what `json.dumps` does with it. The rendering itself may
raise, and ends the collector then. -/
def frameEntry (isMasked : Bool) (frame : Frame ε α) : Except ε (Except ε Json) := do
  let locals ← SafeRepr.frameLocals isMasked frame.fLocals
  .ok ((localsJson locals).map (frameJson frame))

/-- The loop of `walk`: frames are read up to the maximal depth, and one more frame is all
it takes to be truncated. -/
def walkFrom (isMasked : Bool) :
    List (Frame ε α) → List (Except ε Json) → Except ε (List (Except ε Json) × Bool)
  | [], frames => .ok (frames, false)
  | frame :: back, frames =>
    if maxFrameDepth ≤ frames.length then .ok (frames, true)
    else do
      let entry ← frameEntry isMasked frame
      walkFrom isMasked back (frames ++ [entry])

/-- `walk`. -/
def walk (isMasked : Bool) (top : List (Frame ε α)) :
    Except ε (List (Except ε Json) × Bool) :=
  walkFrom isMasked top []

/-- `descriptors`: the names and daemon flags of the threads, or nothing where reading them
raises an `Exception`. -/
def descriptors (w : World ε α) : Except ε (List (ℤ × Json × Json)) :=
  exceptException (w.active.map Dict.ofPairs) fun _ => .ok []

/-- One round of the loop over the threads. A thread that `threading` does not know has no
name and no daemon flag. -/
def threadEntry (isMasked : Bool) (w : World ε α) (descriptors : List (ℤ × Json × Json))
    (thread : ℤ × List (Frame ε α)) : Except ε (ThreadEntry ε) := do
  let (frames, truncated) ← walk isMasked thread.2
  let (name, daemon) := (Dict.get? thread.1 descriptors).getD (.null, .null)
  .ok
    { threadId := thread.1, name, daemon, isMain := w.mainIdent = some thread.1
      frames, framesTruncated := truncated }

omit [Unicode] [PyException ε] in
/-- `data` as JSON, its threads serialised: their number, the depth and the masking come
with it. -/
def sectionJson (isMasked : Bool) (threads : List Json) : Json :=
  .obj [(py "thread_count", .int threads.length), (py "max_frame_depth", .int maxFrameDepth),
    (py "masking_enabled", .bool isMasked), (py "threads", .arr threads)]

/-- `data`, given by what `json.dumps` does with it: the threads in the order of their sort
key, which is stable. -/
def stacksData (isMasked : Bool) (w : World ε α) : Except ε (Except ε Json) := do
  let known ← descriptors w
  let entries ← w.targetFrames.mapM (threadEntry isMasked w known)
  let threads := entries.insertionSort ThreadEntry.Precedes
  .ok ((threads.mapM Serial.walk).map (sectionJson isMasked))

/-! ## What the collector returns -/

/-- The loop adds the entries of the frames there is room for, and tells whether
there are more. -/
theorem walkFrom_eq (isMasked : Bool) (back : List (Frame ε α)) (frames : List (Except ε Json)) :
    walkFrom isMasked back frames =
      (back.take (maxFrameDepth - frames.length)).mapM (frameEntry isMasked) >>= fun entries =>
        .ok (frames ++ entries, decide (maxFrameDepth - frames.length < back.length)) := by
  induction back generalizing frames with
  | nil =>
    rw [walkFrom, List.take_nil]
    simp [pure, Except.pure]
  | cons frame back ih =>
    rw [walkFrom]
    split_ifs with hroom
    · rw [Nat.sub_eq_zero_of_le hroom, List.take_zero]
      simp [pure, Except.pure]
    · have hroom' : maxFrameDepth - frames.length =
          maxFrameDepth - (frames.length + 1) + 1 := by omega
      rw [hroom', List.take_succ_cons, List.mapM_cons]
      rcases frameEntry isMasked frame with exc | entry
      · rfl
      · rw [ok_bind, ih, List.length_append, List.length_singleton]
        rcases (back.take _).mapM (frameEntry isMasked) with exc | entries
        · rfl
        · simp [pure, Except.pure]

/-- **`walk` reports the innermost frames, in order, and whether there are more.** -/
theorem walk_eq (isMasked : Bool) (top : List (Frame ε α)) :
    walk isMasked top =
      (top.take maxFrameDepth).mapM (frameEntry isMasked) >>= fun entries =>
        .ok (entries, decide (maxFrameDepth < top.length)) :=
  walkFrom_eq isMasked top []

/-- The frames of a thread are the innermost ones, in order, up to the maximal depth. -/
theorem walk_eq_ok {isMasked : Bool} {top : List (Frame ε α)} {frames : List (Except ε Json)}
    {truncated : Bool} (h : walk isMasked top = .ok (frames, truncated)) :
    List.Forall₂ (fun frame entry => frameEntry isMasked frame = .ok entry)
      (top.take maxFrameDepth) frames := by
  rw [walk_eq] at h
  obtain ⟨entries, hentries, h⟩ := bind_eq_ok.1 h
  obtain ⟨rfl, -⟩ := Prod.mk.inj (Except.ok.inj h)
  exact mapM_eq_ok.1 hentries

/-- **The section of a collector that returns**: one entry for each thread, in
another order, and what `json.dumps` makes of them. -/
theorem stacksData_eq_ok {isMasked : Bool} {w : World ε α} {data : Except ε Json}
    (h : stacksData isMasked w = .ok data) :
    ∃ known entries, ∃ threads : List (ThreadEntry ε), descriptors w = .ok known ∧
      List.Forall₂ (fun thread entry => threadEntry isMasked w known thread = .ok entry)
        w.targetFrames entries ∧ threads.Perm entries ∧
      data = (threads.mapM Serial.walk).map (sectionJson isMasked) := by
  obtain ⟨known, hknown, h⟩ := bind_eq_ok.1 h
  obtain ⟨entries, hentries, h⟩ := bind_eq_ok.1 h
  exact ⟨known, entries, _, hknown, mapM_eq_ok.1 hentries, List.perm_insertionSort _ _,
    (Except.ok.inj h).symm⟩

end

end Stacks
end Pidprobe
