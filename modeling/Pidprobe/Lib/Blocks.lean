/-
# Columns and blocks

A report in lines: fields padded to a width (`ljust`), and entries of several lines
each, of which the first is marked (`flatMap`).  Neither loses anything: what stood
in a column can be read off it (`ljust_append_inj`), and where one entry ends and the
next begins (`map_eq_of_flatMap_eq`).
-/

import Mathlib.Data.List.TakeWhile

namespace Pidprobe
namespace Blocks

variable {α β : Type*}

/-! ## Columns -/

/-- A text, padded with blanks on the right: `f"{text:<{width}}"`; a longer text stays as it
is. -/
def ljust (blank : α) (width : ℕ) (text : List α) : List α :=
  text ++ List.replicate (width - text.length) blank

variable {blank : α} {width : ℕ}

/-- A text that fits fills its column. -/
theorem length_ljust {text : List α} (h : text.length ≤ width) :
    (ljust blank width text).length = width := by
  rw [ljust, List.length_append, List.length_replicate]
  omega

/-- A column holds the characters of the text, and blanks. -/
theorem mem_ljust {text : List α} {c : α} (h : c ∈ ljust blank width text) :
    c ∈ text ∨ c = blank :=
  (List.mem_append.1 h).imp id List.eq_of_mem_replicate

/-- **A column is read off**: the text has no blanks, so the first one ends it, and the rest
starts at the width. -/
theorem ljust_append_inj {text text' rest rest' : List α} (h : text.length ≤ width)
    (h' : text'.length ≤ width) (hblank : blank ∉ text) (hblank' : blank ∉ text')
    (heq : ljust blank width text ++ rest = ljust blank width text' ++ rest') :
    text = text' ∧ rest = rest' := by
  classical
  obtain ⟨hcolumn, hrest⟩ := List.append_inj heq ((length_ljust h).trans (length_ljust h').symm)
  have hread : ∀ {t : List α}, blank ∉ t → (ljust blank width t).takeWhile (· ≠ blank) = t := by
    intro t ht
    have hall : ∀ c ∈ t, decide (c ≠ blank) = true := fun c hc =>
      decide_eq_true fun he => ht (he ▸ hc)
    rw [ljust, List.takeWhile_append_of_pos hall, List.takeWhile_replicate]
    simp
  exact ⟨(hread hblank).symm.trans ((congrArg _ hcolumn).trans (hread hblank')), hrest⟩

/-! ## Entries -/

/-- What one form of the entries tells of each of them, the list of that form tells of
the list. -/
theorem map_eq_of_map_eq {γ : Type*} {f : α → β} {g : α → γ} :
    ∀ {xs ys : List α}, (∀ x ∈ xs, ∀ y ∈ ys, f x = f y → g x = g y) →
      xs.map f = ys.map f → xs.map g = ys.map g
  | [], [], _, _ => rfl
  | [], y :: ys, _, h => by cases h
  | x :: xs, [], _, h => by cases h
  | x :: xs, y :: ys, hfg, h => by
    obtain ⟨hhead, htail⟩ := List.cons.inj h
    rw [List.map_cons, List.map_cons, hfg x (List.mem_cons_self ..) y (List.mem_cons_self ..) hhead,
      map_eq_of_map_eq (fun x hx y hy =>
        hfg x (List.mem_cons_of_mem _ hx) y (List.mem_cons_of_mem _ hy)) htail]

/-! ## Blocks -/

/-- A block: a line with the mark, and any number of lines without. -/
def IsBlock (mark : β → Bool) (lines : List β) : Prop :=
  ∃ first rest, lines = first :: rest ∧ mark first = true ∧ ∀ line ∈ rest, mark line = false

/-- What follows a block starts with the mark, or there is nothing: no line in front of it
belongs to the block before. -/
theorem head_flatMap {mark : β → Bool} {block : α → List β} {xs : List α}
    (h : ∀ x ∈ xs, IsBlock mark (block x)) :
    (xs.flatMap block).takeWhile (fun line => !mark line) = [] := by
  cases xs with
  | nil => rfl
  | cons x xs =>
    obtain ⟨first, rest, hblock, hmark, -⟩ := h x (List.mem_cons_self ..)
    rw [List.flatMap_cons, hblock, List.cons_append, List.takeWhile_cons_of_neg (by simp [hmark])]

/-- **The blocks of a report are read off it**: two sequences of blocks with the same lines
are the same. -/
theorem map_eq_of_flatMap_eq {mark : β → Bool} {block : α → List β} :
    ∀ {xs ys : List α}, (∀ x ∈ xs, IsBlock mark (block x)) → (∀ y ∈ ys, IsBlock mark (block y)) →
      xs.flatMap block = ys.flatMap block → xs.map block = ys.map block
  | [], [], _, _, _ => rfl
  | [], y :: ys, _, hys, h => by
    obtain ⟨first, rest, hblock, -, -⟩ := hys y (List.mem_cons_self ..)
    simp [hblock] at h
  | x :: xs, [], hxs, _, h => by
    obtain ⟨first, rest, hblock, -, -⟩ := hxs x (List.mem_cons_self ..)
    simp [hblock] at h
  | x :: xs, y :: ys, hxs, hys, h => by
    obtain ⟨hx, hxs⟩ := List.forall_mem_cons.1 hxs
    obtain ⟨hy, hys⟩ := List.forall_mem_cons.1 hys
    have hblock : block x = block y := by
      obtain ⟨first, rest, hbx, -, hrest⟩ := hx
      obtain ⟨first', rest', hby, -, hrest'⟩ := hy
      rw [List.flatMap_cons, List.flatMap_cons, hbx, hby, List.cons_append, List.cons_append] at h
      obtain ⟨rfl, hafter⟩ := List.cons.inj h
      -- the block ends at the next mark
      have hread : ∀ {r : List β} {zs : List α}, (∀ line ∈ r, mark line = false) →
          (∀ z ∈ zs, IsBlock mark (block z)) →
          (r ++ zs.flatMap block).takeWhile (fun line => !mark line) = r := by
        intro r zs hr hzs
        rw [List.takeWhile_append_of_pos fun line hline => by simp [hr line hline],
          head_flatMap hzs, List.append_nil]
      rw [hbx, hby, ← hread hrest hxs, hafter, hread hrest' hys]
    rw [List.flatMap_cons, List.flatMap_cons, hblock] at h
    rw [List.map_cons, List.map_cons, hblock,
      map_eq_of_flatMap_eq hxs hys (List.append_cancel_left h)]

end Blocks
end Pidprobe
