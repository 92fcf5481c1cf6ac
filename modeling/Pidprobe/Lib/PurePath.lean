/-
# Paths

`pathlib.PurePosixPath`: a root and parts, with empty parts and `.` dropped.
What a path is written as parses to the same path (`parse_text`), so a path that
went through `str` has kept its name.  A child is written as its parent with one name
more (`text_child`), and apart from dots and slashes a path is written with the
characters it was given by (`mem_front_parse`).
-/

import Pidprobe.Lib.Text

namespace Pidprobe

/-- A path, taken apart: its root, empty for a relative path, and its parts. -/
structure PurePath where
  root : PyStr
  parts : List PyStr
  deriving DecidableEq

namespace PurePath

/-- `/`. -/
def sep : CodePoint := cp '/'

/-- `posixpath.splitroot`: exactly two slashes in front are a root of their own. -/
def splitRoot : PyStr → PyStr × PyStr
  | [] => ([], [])
  | a :: t =>
    if a ≠ sep then ([], a :: t)
    else
      match t with
      | b :: u =>
        if b = sep ∧ u.head? ≠ some sep then ([sep, sep], u) else ([sep], b :: u)
      | [] => ([sep], [])

/-- A part that is kept: neither empty, as between two slashes, nor the dot. -/
def IsPart (part : PyStr) : Prop := part ≠ [] ∧ part ≠ py "."

instance : DecidablePred IsPart := fun _ => inferInstanceAs (Decidable (_ ∧ _))

/-- `PurePosixPath(path)`: the root, and the parts that are kept. -/
def parse (path : PyStr) : PurePath where
  root := (splitRoot path).1
  parts := ((splitRoot path).2.splitOn sep).filter IsPart

/-- `str(path)`: the empty path is a dot. -/
def text (path : PurePath) : PyStr :=
  if path.root = [] ∧ path.parts = [] then py "." else path.root ++ join [sep] path.parts

/-- `path.name`: the last part, and the empty text where there is none. -/
def name (path : PurePath) : PyStr := path.parts.getLast?.getD []

/-- The parts of a text between its slashes have none in them. -/
theorem notMem_of_mem_splitOn {part : PyStr} :
    ∀ {t : PyStr}, part ∈ t.splitOn sep → sep ∉ part
  | [], h => by
    obtain rfl := List.mem_singleton.1 (List.splitOn_nil sep ▸ h)
    simp
  | c :: t, h => by
    rw [List.splitOn_cons_eq_if_modifyHead] at h
    split_ifs at h with hc
    · rcases List.mem_cons.1 h with rfl | h
      · simp
      · exact notMem_of_mem_splitOn h
    · obtain ⟨first, rest, hsplit⟩ := List.exists_cons_of_ne_nil (List.splitOn_ne_nil sep t)
      rw [hsplit, List.modifyHead_cons] at h
      rcases List.mem_cons.1 h with rfl | h
      · have hfirst : sep ∉ first := notMem_of_mem_splitOn (hsplit ▸ List.mem_cons_self ..)
        simpa [hfirst] using fun he => hc (by simp [he])
      · exact notMem_of_mem_splitOn (hsplit ▸ List.mem_cons_of_mem _ h)

/-- The parts of a parsed path are parts, and have no separator in them. -/
theorem mem_parts_parse {path part : PyStr} (h : part ∈ (parse path).parts) :
    IsPart part ∧ sep ∉ part := by
  obtain ⟨hmem, hpart⟩ := List.mem_filter.1 h
  exact ⟨of_decide_eq_true hpart, notMem_of_mem_splitOn hmem⟩

/-- A root is empty, one slash or two. -/
theorem root_parse (path : PyStr) :
    (parse path).root = [] ∨ (parse path).root = [sep] ∨ (parse path).root = [sep, sep] := by
  change (splitRoot path).1 = [] ∨ (splitRoot path).1 = [sep] ∨ (splitRoot path).1 = [sep, sep]
  unfold splitRoot
  split
  · exact .inl rfl
  · split_ifs
    · exact .inl rfl
    · split
      · split_ifs
        · exact .inr (.inr rfl)
        · exact .inr (.inl rfl)
      · exact .inr (.inl rfl)

/-- A root comes off the front of what does not start with a slash. -/
theorem splitRoot_append {root rest : PyStr}
    (hroot : root = [] ∨ root = [sep] ∨ root = [sep, sep]) (hrest : rest.head? ≠ some sep) :
    splitRoot (root ++ rest) = (root, rest) := by
  have hhead : ∀ b u, rest = b :: u → b ≠ sep := by
    rintro b u rfl rfl
    exact hrest rfl
  rcases hroot with rfl | rfl | rfl
  · cases rest with
    | nil => rfl
    | cons b u => exact if_pos (hhead b u rfl)
  · cases rest with
    | nil => rfl
    | cons b u => simp [splitRoot, hhead b u rfl]
  · simp [splitRoot, hrest]

theorem head?_join {parts : List PyStr} (h : ∀ part ∈ parts, IsPart part ∧ sep ∉ part) :
    (join [sep] parts).head? ≠ some sep := by
  cases parts with
  | nil => simp [join, List.intercalate]
  | cons part parts =>
    obtain ⟨⟨hne, -⟩, hsep⟩ := h part (List.mem_cons_self ..)
    obtain ⟨c, t, rfl⟩ := List.exists_cons_of_ne_nil hne
    have hc : c ≠ sep := fun he => hsep (he ▸ List.mem_cons_self ..)
    cases parts <;> simpa [join, List.intercalate] using hc

/-- Parts that are joined are taken apart again, as none has a slash in it. -/
theorem filter_splitOn_join {parts : List PyStr} (h : ∀ part ∈ parts, IsPart part ∧ sep ∉ part) :
    ((join [sep] parts).splitOn sep).filter IsPart = parts := by
  by_cases hne : parts = []
  · subst hne
    decide
  · rw [join, List.splitOn_intercalate sep (fun part hp => (h part hp).2) hne,
      List.filter_eq_self.2 fun part hp => decide_eq_true (h part hp).1]

/-- **A path that was written out is the same path**, so writing it out again changes
nothing. -/
theorem parse_text (path : PyStr) : parse (parse path).text = parse path := by
  have hparts : ∀ part ∈ (parse path).parts, IsPart part ∧ sep ∉ part := fun _ => mem_parts_parse
  have hroot := root_parse path
  generalize parse path = p at hparts hroot ⊢
  obtain ⟨root, parts⟩ := p
  by_cases hempty : root = [] ∧ parts = []
  · obtain ⟨rfl, rfl⟩ := hempty
    decide
  · rw [text, if_neg hempty, parse, splitRoot_append hroot (head?_join hparts),
      filter_splitOn_join hparts]

/-! ## Children -/

/-- `path / part`, for a part that is kept and is no path of its own. -/
def child (path : PurePath) (part : PyStr) : PurePath := ⟨path.root, path.parts ++ [part]⟩

/-- What stands in front of the name of a child: the path with a slash behind it, or nothing
in front of a relative name. -/
def front (path : PurePath) : PyStr := path.root ++ path.parts.flatMap (· ++ [sep])

theorem join_concat (parts : List PyStr) (part : PyStr) :
    join [sep] (parts ++ [part]) = parts.flatMap (· ++ [sep]) ++ part := by
  induction parts with
  | nil => simp [join, List.intercalate]
  | cons first parts ih =>
    obtain ⟨next, rest, hrest⟩ : ∃ next rest, parts ++ [part] = next :: rest :=
      List.exists_cons_of_ne_nil (by simp)
    rw [List.cons_append, List.flatMap_cons, List.append_assoc, List.append_assoc, ← ih, hrest]
    simp [join, List.intercalate]

/-- The text of a child is what stands in front of it, and its name. -/
theorem text_child (path : PurePath) (part : PyStr) :
    (path.child part).text = path.front ++ part := by
  rw [text, if_neg (by simp [child]), child, front, join_concat, List.append_assoc]

theorem front_child (path : PurePath) (part : PyStr) :
    (path.child part).front = path.front ++ part ++ [sep] := by
  simp [child, front]

/-- A root is taken off the front and nothing is lost: the rest follows it. -/
theorem splitRoot_eq (path : PyStr) : (splitRoot path).1 ++ (splitRoot path).2 = path := by
  unfold splitRoot
  split
  · rfl
  · split_ifs with ha
    · rfl
    · obtain rfl := not_not.1 ha
      split
      · split_ifs with hb
        · obtain ⟨rfl, -⟩ := hb
          rfl
        · rfl
      · rfl

theorem mem_root_parse {path : PyStr} {c : CodePoint} (h : c ∈ (parse path).root) : c = sep := by
  rcases root_parse path with hroot | hroot | hroot <;> simp_all

/-- A character other than the slash is in one of the parts. -/
theorem mem_iff_mem_splitOn {c : CodePoint} (hsep : c ≠ sep) :
    ∀ {t : PyStr}, c ∈ t ↔ ∃ part ∈ t.splitOn sep, c ∈ part
  | [] => by simp [List.splitOn_nil]
  | d :: t => by
    have ih : c ∈ t ↔ _ := mem_iff_mem_splitOn hsep
    obtain ⟨first, rest, hsplit⟩ := List.exists_cons_of_ne_nil (List.splitOn_ne_nil sep t)
    rw [List.splitOn_cons_eq_if_modifyHead, List.mem_cons, ih]
    split_ifs with hd
    · have hc : c ≠ d := fun he => hsep (he.trans (by simpa using hd))
      simp [hc]
    · simp [hsplit, or_assoc, or_and_right, exists_or]

/-- **A path is written with the characters it was given by**, but for slashes and
dots. -/
theorem mem_front_parse {path : PyStr} {c : CodePoint} (hsep : c ≠ sep) (hdot : c ≠ cp '.') :
    c ∈ (parse path).front ↔ c ∈ path := by
  have hroot : c ∉ (parse path).root := fun h => hsep (mem_root_parse h)
  have hrootText : c ∉ (splitRoot path).1 := hroot
  have hrest : c ∈ path ↔ c ∈ (splitRoot path).2 := by
    conv_lhs => rw [← splitRoot_eq path, List.mem_append, or_iff_right hrootText]
  have hfront : c ∈ (parse path).front ↔ c ∈ (parse path).parts.flatMap (· ++ [sep]) := by
    rw [front, List.mem_append]
    exact or_iff_right hroot
  rw [hfront, hrest, mem_iff_mem_splitOn hsep (t := (splitRoot path).2)]
  simp only [List.mem_flatMap, List.mem_append, List.mem_singleton, or_iff_left hsep]
  constructor
  · rintro ⟨part, hpart, hc⟩
    exact ⟨part, (List.mem_filter.1 hpart).1, hc⟩
  · rintro ⟨part, hpart, hc⟩
    refine ⟨part, List.mem_filter.2 ⟨hpart, decide_eq_true ⟨List.ne_nil_of_mem hc, ?_⟩⟩, hc⟩
    rintro rfl
    exact hdot (List.mem_singleton.1 hc)

end PurePath
end Pidprobe
