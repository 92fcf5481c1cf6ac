/-
# The target's frames

`_pidprobe_target_frames` of the injected script and the `walk` of the stacks
collector, on frames that are linked by `f_back`.  The helper collects its own
frames from its own out to the module frame of the script, and takes each
thread's first frame that is not one of them; `walk` follows the links from
there.  The set of `id`s is a list of frames, which `id` tells apart while they
are alive.

Wherever the collector calls the helper, and whatever was interrupted, the two
find the target's frames and no other (`target_frames_exact`).
-/

import Pidprobe.Lib.Links
import Pidprobe.Collectors.Stacks

namespace Pidprobe
namespace Inject

variable {φ : Type} [DecidableEq φ]

/-- The first loop of `_pidprobe_target_frames`, from `frame` on: out to the root, and the
one frame behind it, the script's module. -/
def ownFrom (frames : Links φ) (root frame : φ) (own : List φ) : List φ :=
  if frame = root then
    match frames.back frame with
    | some module => module :: frame :: own
    | none => frame :: own
  else
    match h : frames.back frame with
    | some back =>
      have := frames.rank_back h
      ownFrom frames root back (frame :: own)
    | none => frame :: own
termination_by frames.rank frame

/-- The loop that drops pidprobe's own frames from the top of a thread, and stops at the
first frame of another. -/
def dropOwn (frames : Links φ) (own : List φ) (top : φ) : Option φ :=
  if top ∈ own then
    match h : frames.back top with
    | some back =>
      have := frames.rank_back h
      dropOwn frames own back
    | none => none
  else some top
termination_by frames.rank top

/-- One round of the loop over the threads: a thread all of whose frames are pidprobe's own
gets no entry. -/
def addTarget (frames : Links φ) (own : List φ) (targets : List (ℤ × φ)) (thread : ℤ × φ) :
    List (ℤ × φ) :=
  match dropOwn frames own thread.2 with
  | some top => Dict.set thread.1 top targets
  | none => targets

/-- `_pidprobe_target_frames`; `helper` is its own frame and `current` the items
of `sys._current_frames()`. -/
def targetFrames (frames : Links φ) (root helper : φ) (current : List (ℤ × φ)) : List (ℤ × φ) :=
  current.foldl (addTarget frames (ownFrom frames root helper [])) []

/-! ## What the loops find -/

/-- At the root of the injected code the walk stops: the frame below it is the target's.
-/
theorem ownFrom_root {frames : Links φ} {root : φ} {own : List φ} :
    ownFrom frames root root own = (frames.back root).toList ++ root :: own := by
  rw [ownFrom, if_pos rfl]
  rcases frames.back root with _ | module <;> rfl

/-- Above the root, each frame is the injected code's own, and the loop goes on with its
caller. -/
theorem ownFrom_call {frames : Links φ} {root frame back : φ} {own : List φ} (hne : frame ≠ root)
    (h : frames.back frame = some back) :
    ownFrom frames root frame own = ownFrom frames root back (frame :: own) := by
  rw [ownFrom, if_neg hne]
  split
  · simp_all
  · simp_all

/-- Own are the frames out to the root, and the one behind it; what is behind that is the
target's. -/
theorem mem_ownFrom {frames : Links φ} {root frame f : φ} {calls behind own : List φ}
    (hchain : frames.chain frame = calls ++ root :: behind) (hroot : root ∉ calls) :
    f ∈ ownFrom frames root frame own ↔
      behind.head? = some f ∨ f = root ∨ f ∈ calls ∨ f ∈ own := by
  induction calls generalizing frame own with
  | nil =>
    obtain ⟨rest, hrest⟩ := frames.exists_chain_eq_cons frame
    obtain ⟨rfl, -⟩ := List.cons_eq_cons.1 (hrest.symm.trans hchain)
    rw [ownFrom_root, Links.back_eq_of_chain hchain]
    simp
  | cons call calls ih =>
    obtain ⟨rest, hrest⟩ := frames.exists_chain_eq_cons frame
    obtain ⟨rfl, hrest'⟩ := List.cons_eq_cons.1 (hrest.symm.trans hchain)
    have hne : frame ≠ root := fun h => hroot (h ▸ List.mem_cons_self ..)
    have hroot' : root ∉ calls := fun h => hroot (List.mem_cons_of_mem _ h)
    rcases hback : frames.back frame with _ | back
    · rw [Links.chain_of_none hback] at hchain
      simp at hchain
    · rw [Links.chain_of_some hback, List.cons_append] at hchain
      rw [ownFrom_call hne hback, ih (List.cons_eq_cons.1 hchain).2 hroot']
      simp only [List.mem_cons]
      tauto

/-- What is left of a thread starts at its first frame that is not own. -/
theorem dropOwn_eq (frames : Links φ) (own : List φ) (top : φ) :
    dropOwn frames own top = (frames.chain top).find? fun f => f ∉ own := by
  induction top using Links.chain_induction (l := frames) with
  | last f hf =>
    rw [dropOwn, Links.chain_of_none hf]
    split_ifs with hown
    · split <;> simp_all
    · simp [hown]
  | link f g hf ih =>
    rw [dropOwn, Links.chain_of_some hf, List.find?_cons]
    split_ifs with hown
    · split <;> simp_all
    · simp [hown]

/-- Each thread with a frame that is not own gets an entry. -/
theorem targetFrames_eq {frames : Links φ} {root helper : φ} {current : List (ℤ × φ)}
    (hd : Dict.NodupKeys current) :
    targetFrames frames root helper current = current.filterMap fun thread =>
      (dropOwn frames (ownFrom frames root helper []) thread.2).map fun top => (thread.1, top) := by
  have hkeys : Dict.NodupKeys (current.filterMap fun thread =>
      (dropOwn frames (ownFrom frames root helper []) thread.2).map fun top =>
        (thread.1, top)) := by
    refine hd.filterMap fun thread kv h => ?_
    obtain ⟨top, -, rfl⟩ := Option.map_eq_some_iff.1 h
    rfl
  rw [← Dict.ofPairs_of_nodupKeys hkeys, Dict.ofPairs_filterMap, targetFrames]
  congr 1
  funext targets thread
  rw [addTarget]
  rcases dropOwn frames (ownFrom frames root helper []) thread.2 with _ | top <;> rfl

/-! ## An injected script -/

/-- The interpreter at a call of the helper: on one thread the helper, the collector's
calls, the root, the module, and then what was interrupted. -/
structure Injected (φ : Type) where
  /-- The frames, linked by `f_back`. -/
  frames : Links φ
  /-- `sys._current_frames()`. -/
  current : List (ℤ × φ)
  nodupKeys_current : Dict.NodupKeys current
  /-- The thread that runs the script, and the helper's frame on it. -/
  thread : ℤ
  helper : φ
  helper_mem : (thread, helper) ∈ current
  /-- The calls of the collector, the innermost first. -/
  calls : List φ
  /-- The frames of `_pidprobe_main` and of the script's module. -/
  root : φ
  module : φ
  /-- What the injection interrupted, the innermost first. -/
  interrupted : List φ
  chain_helper : frames.chain helper = helper :: calls ++ root :: module :: interrupted
  /-- The frames of another thread are not on this one. -/
  apart : ∀ tid top, (tid, top) ∈ current → tid ≠ thread →
    ∀ f ∈ frames.chain top, f ∉ frames.chain helper

namespace Injected

variable (s : Injected φ)

/-- `_pidprobe_target_frames()`, called in this state. -/
def targets : List (ℤ × φ) := targetFrames s.frames s.root s.helper s.current

/-- The frames of the target on a thread, the innermost first: what was interrupted on the
script's thread, all of them on another. -/
def targetStack (tid : ℤ) (top : φ) : List φ :=
  if tid = s.thread then s.interrupted else s.frames.chain top

/-- pidprobe's own frames are those before the interrupted ones. -/
theorem mem_own {f : φ} : f ∈ ownFrom s.frames s.root s.helper [] ↔
    f ∈ s.helper :: s.calls ++ [s.root, s.module] := by
  have hnodup := s.frames.chain_nodup s.helper
  rw [s.chain_helper] at hnodup
  have hroot : s.root ∉ s.helper :: s.calls := fun h =>
    (List.nodup_append.1 hnodup).2.2 _ h _ (List.mem_cons_self ..) rfl
  rw [mem_ownFrom s.chain_helper hroot]
  simp only [List.head?_cons, Option.some.injEq, List.mem_append, List.mem_cons, List.not_mem_nil]
  tauto

omit [DecidableEq φ] in
/-- A thread is known by its entry. -/
theorem top_unique {tid : ℤ} {top top' : φ} (h : (tid, top) ∈ s.current)
    (h' : (tid, top') ∈ s.current) : top = top' := by
  have hget := Dict.get?_of_mem s.nodupKeys_current h
  rw [Dict.get?_of_mem s.nodupKeys_current h'] at hget
  exact (Option.some.inj hget).symm

/-- A thread's frames are pidprobe's own, on one thread, and then the target's, which are
not. -/
theorem exists_chain_eq_append {tid : ℤ} {top : φ} (h : (tid, top) ∈ s.current) :
    ∃ own, s.frames.chain top = own ++ s.targetStack tid top ∧
      (∀ f ∈ own, f ∈ ownFrom s.frames s.root s.helper []) ∧
      ∀ f ∈ s.targetStack tid top, f ∉ ownFrom s.frames s.root s.helper [] := by
  have hchain : s.frames.chain s.helper =
      (s.helper :: s.calls ++ [s.root, s.module]) ++ s.interrupted := by
    rw [s.chain_helper]
    simp
  have hnodup := s.frames.chain_nodup s.helper
  rw [hchain] at hnodup
  rw [targetStack]
  split_ifs with htid
  · subst htid
    obtain rfl := s.top_unique s.helper_mem h
    refine ⟨_, hchain, fun f hf => s.mem_own.2 hf, fun f hf hown => ?_⟩
    exact (List.nodup_append.1 hnodup).2.2 f (s.mem_own.1 hown) f hf rfl
  · refine ⟨[], rfl, fun f hf => absurd hf List.not_mem_nil, fun f hf hown => ?_⟩
    exact s.apart tid top h htid f hf (hchain ▸ List.mem_append_left _ (s.mem_own.1 hown))

/-- The loop leaves a thread its first frame of the target, where it has one. -/
theorem dropOwn_current {tid : ℤ} {top : φ} (h : (tid, top) ∈ s.current) :
    dropOwn s.frames (ownFrom s.frames s.root s.helper []) top = (s.targetStack tid top).head? := by
  obtain ⟨own, hchain, hown, htarget⟩ := s.exists_chain_eq_append h
  have hnone : own.find? (fun f => f ∉ ownFrom s.frames s.root s.helper []) = none :=
    List.find?_eq_none.2 fun f hf => by simpa using hown f hf
  rw [dropOwn_eq, hchain, List.find?_append, hnone, Option.none_or]
  rcases hstack : s.targetStack tid top with _ | ⟨f, rest⟩
  · rfl
  · have hf := htarget f (hstack ▸ List.mem_cons_self ..)
    rw [List.find?_cons_of_pos (by simpa using hf), List.head?_cons]

/-- Where a thread's frames of the target begin, they are all that is behind. -/
theorem chain_of_head? {tid : ℤ} {top f : φ} (h : (tid, top) ∈ s.current)
    (hf : (s.targetStack tid top).head? = some f) : s.frames.chain f = s.targetStack tid top := by
  obtain ⟨own, hchain, -, -⟩ := s.exists_chain_eq_append h
  obtain ⟨rest, hrest⟩ := List.head?_eq_some_iff.1 hf
  rw [hrest] at hchain ⊢
  exact Links.chain_of_chain_eq_append hchain

/-- **The helper finds each thread's first frame of the target**, and nothing for a thread
without one. -/
theorem targets_eq : s.targets = s.current.filterMap fun thread =>
    (s.targetStack thread.1 thread.2).head?.map fun f => (thread.1, f) := by
  rw [targets, targetFrames_eq s.nodupKeys_current]
  refine List.filterMap_congr fun thread hthread => ?_
  rw [s.dropOwn_current hthread]

/-- The frames the target shows are the first of its own on each thread that has one, and no
others. -/
theorem mem_targets {tid : ℤ} {f : φ} : (tid, f) ∈ s.targets ↔
    ∃ top, (tid, top) ∈ s.current ∧ (s.targetStack tid top).head? = some f := by
  rw [targets_eq, List.mem_filterMap]
  constructor
  · rintro ⟨⟨tid', top⟩, hmem, hf⟩
    obtain ⟨f', hf', heq⟩ := Option.map_eq_some_iff.1 hf
    obtain ⟨rfl, rfl⟩ := Prod.mk.inj heq
    exact ⟨top, hmem, hf'⟩
  · rintro ⟨top, hmem, hf⟩
    exact ⟨(tid, top), hmem, by rw [hf]; rfl⟩

/-- A thread is shown once. -/
theorem nodupKeys_targets : Dict.NodupKeys s.targets := by
  rw [targets_eq]
  refine s.nodupKeys_current.filterMap fun thread kv h => ?_
  obtain ⟨top, -, rfl⟩ := Option.map_eq_some_iff.1 h
  rfl

/-- Another thread is left as it is. -/
theorem mem_targets_of_ne {tid : ℤ} {top : φ} (htid : tid ≠ s.thread) :
    (tid, top) ∈ s.targets ↔ (tid, top) ∈ s.current := by
  rw [mem_targets]
  constructor
  · rintro ⟨top', hmem, hf⟩
    obtain ⟨rest, hrest⟩ := s.frames.exists_chain_eq_cons top'
    rw [targetStack, if_neg htid, hrest] at hf
    exact Option.some.inj hf ▸ hmem
  · intro hmem
    obtain ⟨rest, hrest⟩ := s.frames.exists_chain_eq_cons top
    exact ⟨top, hmem, by rw [targetStack, if_neg htid, hrest, List.head?_cons]⟩

/-- The script's thread is left what was interrupted, which may be nothing at all. -/
theorem mem_targets_thread {f : φ} :
    (s.thread, f) ∈ s.targets ↔ s.interrupted.head? = some f := by
  rw [mem_targets]
  constructor
  · rintro ⟨top, -, hf⟩
    rwa [targetStack, if_pos rfl] at hf
  · exact fun hf => ⟨s.helper, s.helper_mem, by rwa [targetStack, if_pos rfl]⟩

end Injected

/-! ## Every shape -/

/-- Stacks of frames that are told apart by their thread and their height, for a state with
stacks of any size. -/
def stacked : Links (ℤ × ℕ) where
  back
    | (_, 0) => none
    | (tid, height + 1) => some (tid, height)
  rank := Prod.snd
  rank_back {f g} h := by
    rcases f with ⟨tid, _ | height⟩
    · cases h
    · obtain rfl := Option.some.inj h
      exact Nat.lt_succ_self height

/-- In a plain stack, the frames below one are those of the lesser heights. -/
theorem chain_stacked (tid : ℤ) (height : ℕ) : stacked.chain (tid, height) =
    ((List.range (height + 1)).map fun k => (tid, k)).reverse := by
  induction height with
  | zero => exact Links.chain_of_none rfl
  | succ height ih =>
    rw [Links.chain_of_some (g := (tid, height)) rfl, ih, List.range_succ (n := height + 1)]
    simp

/-- The frames below one are of the same thread. -/
theorem fst_of_mem_chain_stacked {f g : ℤ × ℕ} (h : g ∈ stacked.chain f) : g.1 = f.1 := by
  obtain ⟨tid, height⟩ := f
  rw [chain_stacked, List.mem_reverse] at h
  obtain ⟨k, -, rfl⟩ := List.mem_map.1 h
  rfl

/-- Any number of threads, of collector calls and of interrupted frames is met:
the structure asks for nothing that excludes them. -/
theorem exists_injected (threads : List (ℤ × ℕ)) (hd : Dict.NodupKeys threads) (thread : ℤ)
    (calls interrupted : ℕ) (h : (thread, interrupted + calls + 2) ∈ threads) :
    ∃ s : Injected (ℤ × ℕ), s.thread = thread ∧ s.calls.length = calls ∧
      s.interrupted.length = interrupted ∧
      s.current.map (fun entry => (entry.1, (s.frames.chain entry.2).length)) =
        threads.map fun entry => (entry.1, entry.2 + 1) := by
  refine ⟨
    { frames := stacked
      current := threads.map fun entry => (entry.1, entry)
      nodupKeys_current := ?_
      thread, helper := (thread, interrupted + calls + 2)
      helper_mem := List.mem_map_of_mem (f := fun entry : ℤ × ℕ => (entry.1, entry)) h
      calls := ((List.range calls).map fun k => (thread, interrupted + 2 + k)).reverse
      root := (thread, interrupted + 1), module := (thread, interrupted)
      interrupted := ((List.range interrupted).map fun k => (thread, k)).reverse
      chain_helper := ?_
      apart := ?_ }, rfl, by simp, by simp, ?_⟩
  · rwa [Dict.NodupKeys, List.map_map]
  · have hheight : interrupted + calls + 2 + 1 = interrupted + 1 + 1 + calls + 1 := by omega
    rw [chain_stacked, hheight, List.range_succ (n := interrupted + 1 + 1 + calls), List.range_add,
      List.range_succ (n := interrupted + 1), List.range_succ (n := interrupted)]
    simp [Function.comp_def, Nat.add_right_comm]
  · rintro tid top hmem htid f hf hown
    obtain ⟨entry, -, heq⟩ := List.mem_map.1 hmem
    obtain ⟨rfl, rfl⟩ := Prod.mk.inj heq
    exact htid ((fst_of_mem_chain_stacked hf).symm.trans (fst_of_mem_chain_stacked hown))
  · rw [List.map_map]
    refine List.map_congr_left fun entry _ => ?_
    show (entry.1, (stacked.chain (entry.1, entry.2)).length) = _
    rw [chain_stacked, List.length_reverse, List.length_map, List.length_range]

end Inject

namespace Stacks

section

variable [Unicode] {φ ε α : Type} [PyException ε] [PyObject ε α]

/-- The loop of `walk`, along the links; `read` is what the collector reads of a
frame. -/
def walkLinksFrom (isMasked : Bool) (frames : Links φ) (read : φ → Frame ε α) (frame : φ)
    (entries : List (Except ε Json)) : Except ε (List (Except ε Json) × Bool) :=
  if maxFrameDepth ≤ entries.length then .ok (entries, true)
  else do
    let entry ← frameEntry isMasked (read frame)
    match h : frames.back frame with
    | some back =>
      have := frames.rank_back h
      walkLinksFrom isMasked frames read back (entries ++ [entry])
    | none => .ok (entries ++ [entry], false)
termination_by frames.rank frame

/-- `walk`, along the links: the loop follows `f_back` from the top frame. -/
def walkLinks (isMasked : Bool) (frames : Links φ) (read : φ → Frame ε α) (top : φ) :
    Except ε (List (Except ε Json) × Bool) :=
  walkLinksFrom isMasked frames read top []

/-- Walking the links of the frames comes to walking the list of them, from any point of the
loop on. -/
theorem walkLinksFrom_eq (isMasked : Bool) (frames : Links φ) (read : φ → Frame ε α) (frame : φ)
    (entries : List (Except ε Json)) : walkLinksFrom isMasked frames read frame entries =
      walkFrom isMasked ((frames.chain frame).map read) entries := by
  induction frame using Links.chain_induction (l := frames) generalizing entries with
  | last f hf =>
    rw [Links.chain_of_none hf, walkLinksFrom, List.map_cons, List.map_nil, walkFrom]
    split_ifs with hroom
    · rfl
    · rcases frameEntry isMasked (read f) with exc | entry
      · rfl
      · simp only [ok_bind, walkFrom]
        split <;> simp_all
  | link f g hf ih =>
    rw [Links.chain_of_some hf, walkLinksFrom, List.map_cons, walkFrom]
    split_ifs with hroom
    · rfl
    · rcases frameEntry isMasked (read f) with exc | entry
      · rfl
      · simp only [ok_bind]
        split <;> simp_all

/-- The links lead `walk` through the frames behind its first. -/
theorem walkLinks_eq (isMasked : Bool) (frames : Links φ) (read : φ → Frame ε α) (top : φ) :
    walkLinks isMasked frames read top = walk isMasked ((frames.chain top).map read) :=
  walkLinksFrom_eq isMasked frames read top []

variable [DecidableEq φ]

omit [DecidableEq φ] in
/-- What `walk` reports of the frames behind its first: the innermost ones up to the depth,
and whether there are more. -/
theorem walkLinks_eq_of_chain {isMasked : Bool} {frames : Links φ} {read : φ → Frame ε α} {top : φ}
    {stack : List φ} (h : frames.chain top = stack) :
    walkLinks isMasked frames read top =
      (stack.take maxFrameDepth).mapM (fun f => frameEntry isMasked (read f)) >>= fun entries =>
        .ok (entries, decide (maxFrameDepth < stack.length)) := by
  rw [walkLinks_eq, walk_eq, h, ← List.map_take, List.mapM_map, List.length_map]
  rfl

/-- **Exactly the target's frames.**  Wherever the collector calls the helper, it
returns the top of every other thread, and for its own thread the frame that was
interrupted, if there is one; and from each of them `walk` reports the innermost
128 frames of the target on that thread, in order, and whether there are more. -/
theorem target_frames_exact (s : Inject.Injected φ) (isMasked : Bool) (read : φ → Frame ε α) :
    Dict.NodupKeys s.targets ∧
    (∀ tid top, tid ≠ s.thread → ((tid, top) ∈ s.targets ↔ (tid, top) ∈ s.current)) ∧
    (∀ f, (s.thread, f) ∈ s.targets ↔ s.interrupted.head? = some f) ∧
    ∀ tid f, (tid, f) ∈ s.targets →
      (∀ g ∈ s.targetStack tid f, g ∉ s.helper :: s.calls ++ [s.root, s.module]) ∧
      walkLinks isMasked s.frames read f =
        ((s.targetStack tid f).take maxFrameDepth).mapM
          (fun f => frameEntry isMasked (read f)) >>= fun entries =>
            .ok (entries, decide (maxFrameDepth < (s.targetStack tid f).length)) := by
  refine ⟨s.nodupKeys_targets, fun tid top htid => s.mem_targets_of_ne htid, fun f =>
    s.mem_targets_thread, fun tid f h => ?_⟩
  obtain ⟨top, hmem, hf⟩ := s.mem_targets.1 h
  have hstack : s.targetStack tid f = s.targetStack tid top := by
    by_cases htid : tid = s.thread
    · rw [Inject.Injected.targetStack, Inject.Injected.targetStack, if_pos htid, if_pos htid]
    · rw [s.top_unique ((s.mem_targets_of_ne htid).1 h) hmem]
  obtain ⟨own, -, -, htarget⟩ := s.exists_chain_eq_append hmem
  rw [hstack]
  exact ⟨fun g hg hown => htarget g hg (s.mem_own.2 hown),
    walkLinks_eq_of_chain (s.chain_of_head? hmem hf)⟩

end

end Stacks
end Pidprobe
