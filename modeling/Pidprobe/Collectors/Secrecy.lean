/-
# What a snapshot reveals

Masked rendering says what one frame shows.  Here it is followed to the bytes a
target sends: two targets that differ only in values under secret names, at any
depth in any local of any frame of any thread, or in frames behind the first 128,
and in which every other collector comes to the same, send the same message for
every list of collectors with the masking stacks collector among them
(`snapshot_keeps_secrets`).

That the others come to the same is a condition on them.  A plugin may read the
locals of a frame, and the object counts differ where a secret is a `list` in one
target and a `dict` in the other.
-/

import Pidprobe.Collectors.Driver
import Pidprobe.Collectors.Stacks
import Pidprobe.Masking
import Pidprobe.Registry

namespace Pidprobe

/-! ## The stacks section -/

namespace Stacks

section

variable [Unicode] {ε α : Type} [PyException ε] [PyObject ε α]

/-- Frames at the same place, whose locals differ only in secrets: in values under secret
names, and in items under secret keys of other values. -/
structure SameButSecrets (f g : Frame ε α) : Prop where
  filename : f.filename = g.filename
  lineno : f.lineno = g.lineno
  qualname : f.qualname = g.qualname
  locals : SafeRepr.SameFrame f.fLocals g.fLocals

/-- Stacks whose frames in reach differ only in secrets. Beyond the depth that `walk`
reports, only whether there are more matters. -/
def SameStack (s t : ℤ × List (Frame ε α)) : Prop :=
  s.1 = t.1 ∧ List.Forall₂ SameButSecrets (s.2.take maxFrameDepth) (t.2.take maxFrameDepth) ∧
    (maxFrameDepth < s.2.length ↔ maxFrameDepth < t.2.length)

/-- Targets whose stacks differ only so, thread by thread, with the same threads in the same
order. -/
structure SameStacks (w v : World ε α) : Prop where
  active : w.active = v.active
  mainIdent : w.mainIdent = v.mainIdent
  targetFrames : List.Forall₂ SameStack w.targetFrames v.targetFrames

/-- Frames that differ only in secrets have one entry. -/
theorem frameEntry_eq {f g : Frame ε α} (h : SameButSecrets f g) :
    frameEntry true f = frameEntry true g := by
  have hjson : frameJson f = frameJson g := by
    funext locals
    rw [frameJson, frameJson, h.filename, h.lineno, h.qualname]
  rw [frameEntry, frameEntry, SafeRepr.frameLocals_eq h.locals, hjson]

/-- So have stacks that differ only in secrets, frame by frame: the thread is described
alike in both. -/
theorem threadEntry_eq {w v : World ε α} (h : SameStacks w v) (known : List (ℤ × Json × Json))
    {s t : ℤ × List (Frame ε α)} (hst : SameStack s t) :
    threadEntry true w known s = threadEntry true v known t := by
  obtain ⟨hid, hframes, hmore⟩ := hst
  rw [threadEntry, threadEntry, walk_eq, walk_eq,
    mapM_eq_of_forall₂ hframes fun _ _ => frameEntry_eq, hid, h.mainIdent]
  simp only [hmore]

/-- **The stacks section keeps the secrets**: targets that differ only in secrets have the
same section, or fail alike. -/
theorem stacksData_eq {w v : World ε α} (h : SameStacks w v) :
    stacksData true w = stacksData true v := by
  have hknown : descriptors w = descriptors v := by rw [descriptors, descriptors, h.active]
  rw [stacksData, stacksData, hknown]
  congr 1
  funext known
  rw [mapM_eq_of_forall₂ h.targetFrames fun _ _ => threadEntry_eq h known]

end

end Stacks

/-! ## The message -/

namespace Driver

section

variable [Unicode] {ε α : Type} [PyException ε] [PyObject ε α]

/-- Two targets with the same clock in which every collector but the stacks
collector comes to the same, and the stacks differ only in secrets.  `others` is
asked of whatever else is collected: what a collector makes of an object under a
secret name, if it looks at one, has to agree. -/
structure SameButSecrets (α : Type) [PyObject ε α] (w v : World ε (Except ε Json)) : Prop where
  clock : w.clock = v.clock
  target : w.target = v.target
  others : ∀ c : Collector, c.name ≠ py "stacks" → w.behaves c = v.behaves c
  masked : ∀ c : Collector, c.name = py "stacks" →
    ∃ read read' : Except ε (Stacks.World ε α), w.behaves c = read >>= Stacks.stacksData true ∧
      v.behaves c = read' >>= Stacks.stacksData true ∧ SameEnd Stacks.SameStacks read read'

/-- Targets that differ only in secrets come to the same for every collector, so they are
one to the driver. -/
theorem SameButSecrets.eq {w v : World ε (Except ε Json)} (h : SameButSecrets α w v) : w = v := by
  have hbehaves : w.behaves = v.behaves := by
    funext c
    by_cases hc : c.name = py "stacks"
    · obtain ⟨read, read', hw, hv, hsame⟩ := h.masked c hc
      rw [hw, hv]
      exact hsame.bind_eq fun _ _ => Stacks.stacksData_eq
    · exact h.others c hc
  obtain ⟨behaves, clock, target⟩ := w
  obtain ⟨behaves', clock', target'⟩ := v
  obtain rfl := hbehaves
  obtain rfl := h.clock
  obtain rfl := h.target
  rfl

/-- **A snapshot keeps the secrets.**  Whatever is bound to a secret name, or stored
under a secret key, in any local of any frame of any thread, and whatever lies
behind the first 128 frames of a thread: two targets whose stacks differ only in it,
and in which every other collector comes to the same, write the same bytes, for
every list of collectors. -/
theorem snapshot_keeps_secrets [FloatText] {w v : World ε (Except ε Json)}
    (h : SameButSecrets α w v) (specs : List (PyStr × SectionFunction)) :
    Inject.written (driver w specs) = Inject.written (driver v specs) := by
  rw [h.eq]

end

/-- One thread, whose frame holds a login form in a local with an ordinary name. -/
def loginStacks (password : PyStr) : Stacks.World ExcData Tree where
  active := .ok [(7, .str (py "MainThread"), .bool false)]
  mainIdent := some 7
  targetFrames := [(7, [⟨py "app.py", some 3, py "login",
    .ok [(.str (py "form"), SafeRepr.loginForm password)]⟩])]

/-- Two stacks that differ in the value of a local named `password`. -/
theorem sameStacks_login (password password' : PyStr) :
    letI := Unicode.fullwidth
    Stacks.SameStacks (loginStacks password) (loginStacks password') := by
  let _ := Unicode.fullwidth
  have hsec : SafeRepr.isSecretName (py "password") = true := by decide
  have hform : SafeRepr.SameTree (SafeRepr.loginForm password) (SafeRepr.loginForm password') :=
    .dict (.shown (.str _) (.str _) (.secret hsec _ _ .nil))
  have hframe : Stacks.SameButSecrets (ε := ExcData)
      ⟨py "app.py", some 3, py "login", .ok [(.str (py "form"), SafeRepr.loginForm password)]⟩
      ⟨py "app.py", some 3, py "login", .ok [(.str (py "form"), SafeRepr.loginForm password')]⟩ :=
    ⟨rfl, rfl, rfl, .ok (.cons ⟨rfl, .inr hform.sameButSecrets⟩ .nil)⟩
  exact ⟨rfl, rfl, .cons ⟨rfl, .cons hframe .nil, Iff.rfl⟩ .nil⟩

/-- A target in which every other collector returns nothing, so that the stacks are all that
can differ. -/
def loginTarget (password : PyStr) : @World Unicode.fullwidth ExcData (Except ExcData Json) :=
  let _ := Unicode.fullwidth
  { behaves := fun c =>
      if c.name = py "stacks" then .ok (loginStacks password) >>= Stacks.stacksData true
      else .ok (.ok .null)
    clock := fun i => i
    target := ⟨1, py "3.14.0", py "cpython", py "linux", some (py "/usr/bin/python3")⟩ }

/-- Two passwords, one message: the target sends the same bytes whichever of the two the
form holds. -/
theorem snapshot_keeps_secrets_login :
    letI := Unicode.fullwidth
    letI := Json.wholeFloats
    let specs := (Registry.builtinCollectors Registry.someSources).map fun c =>
      (c.name, sectionFunction c)
    Inject.written (driver (loginTarget (py "hunter2")) specs) =
      Inject.written (driver (loginTarget (py "swordfish")) specs) := by
  let _ := Unicode.fullwidth
  let _ := Json.wholeFloats
  intro specs
  have hsame : SameButSecrets Tree (loginTarget (py "hunter2")) (loginTarget (py "swordfish")) :=
    ⟨rfl, rfl, fun c hc => (if_neg hc).trans (if_neg hc).symm, fun c hc =>
      ⟨.ok (loginStacks (py "hunter2")), .ok (loginStacks (py "swordfish")), if_pos hc, if_pos hc,
        .ok (sameStacks_login _ _)⟩⟩
  exact snapshot_keeps_secrets hsame specs

end Driver
end Pidprobe
