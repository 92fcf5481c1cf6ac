/-
# Layouts of a JSON text

`json.dumps` with `separators` or with `indent`: the same value with other white
space between its parts.  `Layout` is what varies: the blanks after a comma and
after a colon, and the width of an indent, where every item starts a line of its
own.  A written value is read back as the same value whatever the layout
(`read_dumpsWith`), and without an indent its text is one line
(`dumpsWith_printable`).

A `float` is read back only where its text is one that denotes it (`ReadsBack`).
-/

import Pidprobe.Lib.JsonRoundTrip

namespace Pidprobe
namespace Json

/-! ## Writing -/

/-- The white space of a text: the blanks of the separators, and the indent where there is
one. -/
structure Layout where
  /-- Blanks after a comma. -/
  itemBlanks : ℕ
  /-- Blanks after a colon. -/
  keyBlanks : ℕ
  /-- `indent`. -/
  indent : Option ℕ

namespace Layout

/-- The start of an item at a depth: a new line with the indent of the depth, or nothing. -/
def fresh (l : Layout) (depth : ℕ) : PyStr :=
  match l.indent with
  | none => []
  | some n => cp '\n' :: List.replicate (n * depth) (cp ' ')

/-- What stands behind a comma, on the same line. -/
def itemPad (l : Layout) : PyStr := List.replicate l.itemBlanks (cp ' ')

/-- What stands behind a colon. -/
def keyPad (l : Layout) : PyStr := List.replicate l.keyBlanks (cp ' ')

end Layout

section

variable [FloatText] (l : Layout)

mutual

/-- `json.dumps(value, indent=..., separators=...)`, at a depth: the empty array and the
empty object have no lines of their own. -/
def dumpsWith : ℕ → Json → PyStr
  | _, .null => py "null"
  | _, .bool true => py "true"
  | _, .bool false => py "false"
  | _, .int n => intText n
  | _, .float x => floatText x
  | _, .str s => quote s
  | _, .arr [] => py "[]"
  | d, .arr (x :: xs) =>
    cp '[' :: (l.fresh (d + 1) ++ (dumpsWith (d + 1) x ++ dumpsElemsWith d xs))
  | _, .obj [] => py "\x7b\x7d"
  | d, .obj ((k, v) :: ms) =>
    cp '{' :: (l.fresh (d + 1) ++
      (quote k ++ cp ':' :: (l.keyPad ++ (dumpsWith (d + 1) v ++ dumpsMembersWith d ms))))

/-- The elements after the first, and the closing bracket. -/
def dumpsElemsWith : ℕ → List Json → PyStr
  | d, [] => l.fresh d ++ [cp ']']
  | d, x :: xs =>
    cp ',' :: (l.itemPad ++ (l.fresh (d + 1) ++ (dumpsWith (d + 1) x ++ dumpsElemsWith d xs)))

/-- The members after the first, and the closing brace. -/
def dumpsMembersWith : ℕ → List (PyStr × Json) → PyStr
  | d, [] => l.fresh d ++ [cp '}']
  | d, (k, v) :: ms =>
    cp ',' :: (l.itemPad ++ (l.fresh (d + 1) ++
      (quote k ++ cp ':' :: (l.keyPad ++ (dumpsWith (d + 1) v ++ dumpsMembersWith d ms)))))

end

end

/-! ## White space -/

/-- Nothing but white space, as JSON has it. -/
def Blank (t : PyStr) : Prop := ∀ c ∈ t, isWs c = true

theorem Blank.append {t u : PyStr} (ht : Blank t) (hu : Blank u) : Blank (t ++ u) :=
  List.forall_mem_append.2 ⟨ht, hu⟩

theorem blank_replicate (n : ℕ) : Blank (List.replicate n (cp ' ')) := fun _ hc =>
  (List.eq_of_mem_replicate hc).symm ▸ rfl

theorem blank_fresh (l : Layout) (d : ℕ) : Blank (l.fresh d) := by
  unfold Layout.fresh
  split
  · exact nofun
  · exact List.forall_mem_cons.2 ⟨rfl, blank_replicate _⟩

theorem blank_itemPad (l : Layout) : Blank l.itemPad := blank_replicate _

theorem blank_keyPad (l : Layout) : Blank l.keyPad := blank_replicate _

/-- White space in front of anything else is skipped, and no more than that. -/
theorem skipWs_blank {t : PyStr} (ht : Blank t) {c : CodePoint} (hc : isWs c = false) (r : PyStr) :
    skipWs (t ++ c :: r) = c :: r := by
  rw [skipWs, List.dropWhile_append_of_pos ht]
  exact skipWs_cons hc r

theorem skipWs_blank_head {t u : PyStr} (ht : Blank t) (hu : ValueHead u) :
    skipWs (t ++ u) = u := by
  obtain ⟨c, r, rfl, hc, -⟩ := hu
  exact skipWs_blank ht hc r

/-- So is what stands between a comma and the next item, on one line or two. -/
theorem skipWs_item (l : Layout) (d : ℕ) {u : PyStr} (hu : ValueHead u) :
    skipWs (l.itemPad ++ (l.fresh d ++ u)) = u := by
  rw [← List.append_assoc]
  exact skipWs_blank_head ((blank_itemPad l).append (blank_fresh l d)) hu

theorem isWs_numberEnd {c : CodePoint} (h : isWs c = true) :
    isDigit c = false ∧ c ≠ cp '.' ∧ c ≠ cp 'e' ∧ c ≠ cp 'E' := by
  have hws : c = cp ' ' ∨ c = cp '\t' ∨ c = cp '\n' ∨ c = cp '\r' := by simpa [isWs] using h
  rcases hws with rfl | rfl | rfl | rfl <;> decide

/-- No number goes on behind white space or a delimiter, so it is read to its end. -/
theorem numberEnd_blank {t : PyStr} (ht : Blank t) {c : CodePoint} (r : PyStr)
    (hc : isDigit c = false ∧ c ≠ cp '.' ∧ c ≠ cp 'e' ∧ c ≠ cp 'E') : NumberEnd (t ++ c :: r) := by
  cases t with
  | nil => exact numberEnd_cons r hc
  | cons b t => exact numberEnd_cons _ (isWs_numberEnd (ht b (List.mem_cons_self ..)))

/-! ## Floats -/

section

variable [FloatText]

/-- The text of a `float` is read as it, whatever follows that ends a number. -/
def FloatReadsBack (x : PyFloat) : Prop :=
  NumberText (floatText x) ∧
    ∀ r, NumberEnd r → readNumber (floatText x ++ r) = some (.float x, r)

mutual

/-- So is that of every `float` of a value, at any depth. -/
def ReadsBack : Json → Prop
  | .float x => FloatReadsBack x
  | .arr xs => ReadsBackElems xs
  | .obj ms => ReadsBackMembers ms
  | _ => True

/-- `ReadsBack` of the elements of an array. -/
def ReadsBackElems : List Json → Prop
  | [] => True
  | x :: xs => ReadsBack x ∧ ReadsBackElems xs

/-- And of the members of an object. -/
def ReadsBackMembers : List (PyStr × Json) → Prop
  | [] => True
  | (_, v) :: ms => ReadsBack v ∧ ReadsBackMembers ms

end

mutual

/-- A value without a `float` is read back whatever the texts of floats are. -/
theorem readsBack_of_floatFree : ∀ {v : Json}, FloatFree v → ReadsBack v
  | .null, _ | .bool _, _ | .int _, _ | .str _, _ => trivial
  | .arr _, h => readsBackElems_of_floatFree h
  | .obj _, h => readsBackMembers_of_floatFree h

theorem readsBackElems_of_floatFree : ∀ {xs : List Json}, FloatFreeElems xs → ReadsBackElems xs
  | [], _ => trivial
  | _ :: _, h => ⟨readsBack_of_floatFree h.1, readsBackElems_of_floatFree h.2⟩

theorem readsBackMembers_of_floatFree :
    ∀ {ms : List (PyStr × Json)}, FloatFreeMembers ms → ReadsBackMembers ms
  | [], _ => trivial
  | (_, _) :: _, h => ⟨readsBack_of_floatFree h.1, readsBackMembers_of_floatFree h.2⟩

end

/-! ## Reading -/

variable {l : Layout}

/-- The text of a value begins with no white space and closes nothing. -/
theorem dumpsWith_valueHead (d : ℕ) (v : Json) : ValueHead (dumpsWith l d v) := by
  cases v with
  | null => exact ⟨cp 'n', py "ull", by rw [dumpsWith]; rfl, by decide, by decide⟩
  | bool b =>
    cases b
    · exact ⟨cp 'f', py "alse", by rw [dumpsWith]; rfl, by decide, by decide⟩
    · exact ⟨cp 't', py "rue", by rw [dumpsWith]; rfl, by decide, by decide⟩
  | int n => rw [dumpsWith]; exact (intText_numberText n).valueHead
  | float x => rw [dumpsWith]; exact floatText_valueHead x
  | str s => exact ⟨cp '"', _, by rw [dumpsWith, quote], by decide, by decide⟩
  | arr xs =>
    cases xs with
    | nil => exact ⟨cp '[', [cp ']'], by rw [dumpsWith]; rfl, by decide, by decide⟩
    | cons x xs => exact ⟨cp '[', _, by rw [dumpsWith], by decide, by decide⟩
  | obj ms =>
    rcases ms with _ | ⟨⟨k, v⟩, ms⟩
    · exact ⟨cp '\x7b', [cp '\x7d'], by rw [dumpsWith]; rfl, by decide, by decide⟩
    · exact ⟨cp '\x7b', _, by rw [dumpsWith], by decide, by decide⟩

/-- An array whose first element stands behind white space, as it does with an indent. -/
theorem readValue_arr_skip {n : ℕ} {t u : PyStr} (ht : skipWs t = u) (hu : ValueHead u) :
    readValue (n + 1) (cp '[' :: t) = (readElems n u).map fun p => (.arr p.1, p.2) := by
  obtain ⟨c, r, rfl, -, hb⟩ := hu
  rw [readValue, if_neg (by decide), if_pos rfl, ht]
  simp only [if_neg hb]

/-- An object whose first key stands behind white space. -/
theorem readValue_obj_skip {n : ℕ} {t u : PyStr} (ht : skipWs t = cp '"' :: u) :
    readValue (n + 1) (cp '\x7b' :: t) =
      (readMembers n (cp '"' :: u)).map fun p => (.obj (Dict.ofPairs p.1), p.2) := by
  rw [readValue, if_neg (by decide), if_neg (by decide), if_pos rfl, ht]
  exact if_neg (by decide)

/-- The last element: the bracket follows, behind white space. -/
theorem readElems_close {n : ℕ} {t r u : PyStr} {v : Json} (h : readValue n t = some (v, r))
    (hr : skipWs r = cp ']' :: u) : readElems (n + 1) t = some ([v], u) := by
  rw [readElems, h]
  simp only [hr, if_true]

/-- An element with another behind it: the comma follows, and the other is read on. -/
theorem readElems_next {n : ℕ} {t r r' u : PyStr} {v : Json} (h : readValue n t = some (v, r))
    (hr : skipWs r = cp ',' :: r') (hu : skipWs r' = u) :
    readElems (n + 1) t = (readElems n u).map fun p => (v :: p.1, p.2) := by
  rw [readElems, h]
  simp only [hr, hu]
  rw [if_neg (by decide), if_pos trivial]

/-- The last member: its key, its value and the brace. -/
theorem readMembers_close {n : ℕ} {k t t' r u : PyStr} {v : Json} (ht : skipWs t = t')
    (h : readValue n t' = some (v, r)) (hr : skipWs r = cp '\x7d' :: u) :
    readMembers (n + 1) (quote k ++ cp ':' :: t) = some ([(rereadStr k, v)], u) := by
  rw [quote, List.cons_append, readMembers_key (flatMap_units_spelt k), ht, h]
  simp only [hr, if_true]
  rfl

/-- A member with another behind it: the comma follows, and the other is read on. -/
theorem readMembers_next {n : ℕ} {k t t' r r' u : PyStr} {v : Json} (ht : skipWs t = t')
    (h : readValue n t' = some (v, r)) (hr : skipWs r = cp ',' :: r') (hu : skipWs r' = u) :
    readMembers (n + 1) (quote k ++ cp ':' :: t) =
      (readMembers n u).map fun p => ((rereadStr k, v) :: p.1, p.2) := by
  rw [quote, List.cons_append, readMembers_key (flatMap_units_spelt k), ht, h]
  simp only [hr, hu]
  rw [if_neg (by decide), if_pos trivial]
  rfl

omit [FloatText] in
/-- The text of a member begins with the quote of its key. -/
theorem quote_append_valueHead (k t : PyStr) : ValueHead (quote k ++ t) :=
  ⟨cp '"', _, by rw [quote, List.cons_append], by decide, by decide⟩

omit [FloatText] in
/-- What stands behind a closing bracket or a comma, at any depth: no number goes on there,
and skipping leads to the delimiter. -/
theorem fresh_delimiter (l : Layout) (d : ℕ) {c : CodePoint} (r : PyStr)
    (hc : isDigit c = false ∧ c ≠ cp '.' ∧ c ≠ cp 'e' ∧ c ≠ cp 'E') (hws : isWs c = false) :
    NumberEnd (l.fresh d ++ c :: r) ∧ skipWs (l.fresh d ++ c :: r) = c :: r :=
  ⟨numberEnd_blank (blank_fresh l d) r hc, skipWs_blank (blank_fresh l d) hws r⟩

mutual

/-- **A value is read back whatever the layout**, and whatever stands behind it that no
number goes on in. -/
theorem readValue_dumpsWith : ∀ {v : Json} {d n : ℕ} {r : PyStr}, ReadsBack v → NumberEnd r →
    2 * (dumpsWith l d v ++ r).length < n → readValue n (dumpsWith l d v ++ r) = some (reread v, r)
  | .null, _, n, r, _, hr, hn => by
    rw [dumpsWith] at hn ⊢
    exact readValue_dumps (v := .null) trivial hr hn
  | .bool true, _, n, r, _, hr, hn => by
    rw [dumpsWith] at hn ⊢
    exact readValue_dumps (v := .bool true) trivial hr hn
  | .bool false, _, n, r, _, hr, hn => by
    rw [dumpsWith] at hn ⊢
    exact readValue_dumps (v := .bool false) trivial hr hn
  | .int i, _, n, r, _, hr, hn => by
    rw [dumpsWith] at hn ⊢
    exact readValue_dumps (v := .int i) trivial hr hn
  | .float x, _, n + 1, r, hx, hr, _ => by
    rw [dumpsWith, readValue_numberText hx.1, hx.2 r hr, reread]
  | .str s, _, n, r, _, hr, hn => by
    rw [dumpsWith] at hn ⊢
    exact readValue_dumps (v := .str s) trivial hr hn
  | .arr [], _, n, r, _, hr, hn => by
    rw [dumpsWith] at hn ⊢
    exact readValue_dumps (v := .arr []) trivial hr hn
  | .arr (x :: xs), d, n + 1, r, hv, hr, hn => by
    simp only [dumpsWith, List.cons_append, List.append_assoc, List.length_cons,
      List.length_append] at hn ⊢
    rw [readValue_arr_skip
        (skipWs_blank_head (blank_fresh l _) ((dumpsWith_valueHead (d + 1) x).append _))
        ((dumpsWith_valueHead (d + 1) x).append _),
      readElems_dumpsWith hv.1 hv.2 (by simp only [List.length_append]; omega)]
    rfl
  | .obj [], _, n, r, _, hr, hn => by
    rw [dumpsWith] at hn ⊢
    exact readValue_dumps (v := .obj []) trivial hr hn
  | .obj ((k, v) :: ms), d, n + 1, r, hv, hr, hn => by
    simp only [dumpsWith, List.cons_append, List.append_assoc, List.length_cons,
      List.length_append] at hn ⊢
    have hread := readMembers_dumpsWith (d := d) (n := n) (k := k) (r := r) hv.1 hv.2
      (by simp only [List.length_append, List.length_cons]; omega)
    rw [quote, List.cons_append] at hread ⊢
    rw [readValue_obj_skip (skipWs_blank (blank_fresh l _) (by decide) _), hread]
    rfl

/-- So are the elements of an array, up to its bracket. -/
theorem readElems_dumpsWith : ∀ {x : Json} {xs : List Json} {d n : ℕ} {r : PyStr},
    ReadsBack x → ReadsBackElems xs →
      2 * (dumpsWith l (d + 1) x ++ (dumpsElemsWith l d xs ++ r)).length + 1 < n →
        readElems n (dumpsWith l (d + 1) x ++ (dumpsElemsWith l d xs ++ r)) =
          some (reread x :: rereadElems xs, r)
  | x, [], d, n + 1, r, hx, _, hn => by
    simp only [dumpsElemsWith, List.append_assoc, List.singleton_append] at hn ⊢
    obtain ⟨hend, hskip⟩ := fresh_delimiter l d (c := cp ']') r (by decide) (by decide)
    exact readElems_close (readValue_dumpsWith hx hend (by omega)) hskip
  | x, y :: ys, d, n + 1, r, hx, hxs, hn => by
    simp only [dumpsElemsWith, List.append_assoc, List.cons_append, List.length_append,
      List.length_cons] at hn ⊢
    rw [readElems_next
      (readValue_dumpsWith hx (numberEnd_comma _)
        (by simp only [List.length_append, List.length_cons]; omega))
      (skipWs_cons (by decide) _)
      (skipWs_item l (d + 1) ((dumpsWith_valueHead (d + 1) y).append _)),
      readElems_dumpsWith hxs.1 hxs.2 (by simp only [List.length_append]; omega)]
    rfl

/-- And the members of an object, up to its brace. -/
theorem readMembers_dumpsWith :
    ∀ {k : PyStr} {v : Json} {ms : List (PyStr × Json)} {d n : ℕ} {r : PyStr},
    ReadsBack v → ReadsBackMembers ms →
      2 * (quote k ++ cp ':' ::
        (l.keyPad ++ (dumpsWith l (d + 1) v ++ (dumpsMembersWith l d ms ++ r)))).length + 1 < n →
        readMembers n (quote k ++ cp ':' ::
          (l.keyPad ++ (dumpsWith l (d + 1) v ++ (dumpsMembersWith l d ms ++ r)))) =
            some ((rereadStr k, reread v) :: rereadMembers ms, r)
  | k, v, [], d, n + 1, r, hv, _, hn => by
    simp only [dumpsMembersWith, List.append_assoc, List.singleton_append, List.length_append,
      List.length_cons] at hn ⊢
    obtain ⟨hend, hskip⟩ := fresh_delimiter l d (c := cp '\x7d') r (by decide) (by decide)
    rw [readMembers_close
      (skipWs_blank_head (blank_keyPad l) ((dumpsWith_valueHead (d + 1) v).append _))
      (readValue_dumpsWith hv hend (by simp only [List.length_append, List.length_cons]; omega))
      hskip]
    rfl
  | k, v, (k', v') :: ms, d, n + 1, r, hv, hms, hn => by
    simp only [dumpsMembersWith, List.append_assoc, List.cons_append, List.length_append,
      List.length_cons] at hn ⊢
    rw [readMembers_next
      (skipWs_blank_head (blank_keyPad l) ((dumpsWith_valueHead (d + 1) v).append _))
      (readValue_dumpsWith hv (numberEnd_comma _)
        (by simp only [List.length_append, List.length_cons]; omega))
      (skipWs_cons (by decide) _)
      (skipWs_item l (d + 1) (quote_append_valueHead k' _)),
      readMembers_dumpsWith hms.1 hms.2
        (by simp only [List.length_append, List.length_cons]; omega)]
    rfl

end

/-- **A written value is read back** as the value its text denotes, whatever the
layout. -/
theorem read_dumpsWith {d : ℕ} {v : Json} (hv : ReadsBack v) :
    read (dumpsWith l d v) = some (reread v) := by
  have h := readValue_dumpsWith (l := l) (d := d)
    (n := 2 * (dumpsWith l d v).length + 1) hv numberEnd_nil (by simp)
  rw [List.append_nil] at h
  rw [read, skipWs_valueHead (dumpsWith_valueHead d v), h]
  rfl

/-! ## The layout of `json.dumps(value)` -/

/-- One blank behind a comma and behind a colon, and no indent. -/
def Layout.plain : Layout := ⟨1, 1, none⟩

mutual

/-- `json.dumps` without arguments has the plain layout. -/
theorem dumpsWith_plain : ∀ (d : ℕ) (v : Json), dumpsWith .plain d v = dumps v
  | _, .null | _, .int _ | _, .float _ | _, .str _ | _, .arr [] | _, .obj [] => by
    rw [dumpsWith, dumps]
  | _, .bool true => by rw [dumpsWith, dumps]
  | _, .bool false => by rw [dumpsWith, dumps]
  | d, .arr (x :: xs) => by
    rw [dumpsWith, dumps, dumpsWith_plain, dumpsElemsWith_plain]
    rfl
  | d, .obj ((k, v) :: ms) => by
    rw [dumpsWith, dumps, dumpsWith_plain, dumpsMembersWith_plain, List.append_assoc,
      List.append_assoc]
    rfl

theorem dumpsElemsWith_plain : ∀ (d : ℕ) (xs : List Json),
    dumpsElemsWith .plain d xs = dumpsElems xs
  | _, [] => rfl
  | d, x :: xs => by
    rw [dumpsElemsWith, dumpsElems, dumpsWith_plain, dumpsElemsWith_plain, List.append_assoc]
    rfl

theorem dumpsMembersWith_plain : ∀ (d : ℕ) (ms : List (PyStr × Json)),
    dumpsMembersWith .plain d ms = dumpsMembers ms
  | _, [] => rfl
  | d, (k, v) :: ms => by
    rw [dumpsMembersWith, dumpsMembers, dumpsWith_plain, dumpsMembersWith_plain]
    simp only [List.append_assoc]
    rfl

end

/-- `json.loads(json.dumps(value))`, floats included: surrogate pairs are fused, and a
repeated key has its last value. -/
theorem read_dumps_of_readsBack {v : Json} (hv : ReadsBack v) :
    read (dumps v) = some (reread v) := by
  rw [← dumpsWith_plain 0 v]
  exact read_dumpsWith hv

/-! ## One line -/

/-- What a layout adds to printable characters: newlines, when it indents. -/
def Layout.Adds (l : Layout) (c : CodePoint) : Prop :=
  IsPrintable c ∨ c = cp '\n' ∧ l.indent.isSome = true

omit [FloatText] in
theorem adds_replicate (n : ℕ) : ∀ c ∈ List.replicate n (cp ' '), l.Adds c := fun _ hc =>
  (List.eq_of_mem_replicate hc).symm ▸ .inl (by decide)

omit [FloatText] in
theorem adds_fresh (d : ℕ) : ∀ c ∈ l.fresh d, l.Adds c := by
  unfold Layout.fresh
  split
  · exact nofun
  · next n hn =>
    refine List.forall_mem_cons.2 ⟨.inr ⟨rfl, by rw [hn]; rfl⟩, adds_replicate _⟩

mutual

/-- **A text is printable**, but for the newlines of an indent. -/
theorem dumpsWith_adds : ∀ (d : ℕ) (v : Json), ∀ c ∈ dumpsWith l d v, l.Adds c
  | _, .null => by
    rw [dumpsWith]
    exact fun c hc => .inl (dumps_printable .null c hc)
  | _, .bool true => by
    rw [dumpsWith]
    exact fun c hc => .inl (dumps_printable (.bool true) c hc)
  | _, .bool false => by
    rw [dumpsWith]
    exact fun c hc => .inl (dumps_printable (.bool false) c hc)
  | _, .int n => by
    rw [dumpsWith]
    exact fun c hc => .inl (dumps_printable (.int n) c hc)
  | _, .float x => by
    rw [dumpsWith]
    exact fun c hc => .inl (floatText_printable x c hc)
  | _, .str s => by
    rw [dumpsWith]
    exact fun c hc => .inl (quote_printable s c hc)
  | _, .arr [] => by
    rw [dumpsWith]
    exact fun c hc => .inl (dumps_printable (.arr []) c hc)
  | d, .arr (x :: xs) => by
    simp only [dumpsWith, List.forall_mem_cons, List.forall_mem_append]
    exact ⟨.inl (by decide), adds_fresh _, dumpsWith_adds _ x, dumpsElemsWith_adds d xs⟩
  | _, .obj [] => by
    rw [dumpsWith]
    exact fun c hc => .inl (dumps_printable (.obj []) c hc)
  | d, .obj ((k, v) :: ms) => by
    simp only [dumpsWith, List.forall_mem_cons, List.forall_mem_append]
    exact ⟨.inl (by decide), adds_fresh _, fun c hc => .inl (quote_printable k c hc),
      .inl (by decide), adds_replicate _, dumpsWith_adds _ v, dumpsMembersWith_adds d ms⟩

theorem dumpsElemsWith_adds : ∀ (d : ℕ) (xs : List Json), ∀ c ∈ dumpsElemsWith l d xs, l.Adds c
  | d, [] => by
    simp only [dumpsElemsWith, List.forall_mem_append, List.forall_mem_singleton]
    exact ⟨adds_fresh d, .inl (by decide)⟩
  | d, x :: xs => by
    simp only [dumpsElemsWith, List.forall_mem_cons, List.forall_mem_append]
    exact ⟨.inl (by decide), adds_replicate _, adds_fresh _, dumpsWith_adds _ x,
      dumpsElemsWith_adds d xs⟩

theorem dumpsMembersWith_adds :
    ∀ (d : ℕ) (ms : List (PyStr × Json)), ∀ c ∈ dumpsMembersWith l d ms, l.Adds c
  | d, [] => by
    simp only [dumpsMembersWith, List.forall_mem_append, List.forall_mem_singleton]
    exact ⟨adds_fresh d, .inl (by decide)⟩
  | d, (k, v) :: ms => by
    simp only [dumpsMembersWith, List.forall_mem_cons, List.forall_mem_append]
    exact ⟨.inl (by decide), adds_replicate _, adds_fresh _,
      fun c hc => .inl (quote_printable k c hc), .inl (by decide), adds_replicate _,
      dumpsWith_adds _ v, dumpsMembersWith_adds d ms⟩

end

/-- Without an indent a text is one line. -/
theorem newline_notMem_dumpsWith (hl : l.indent = none) (d : ℕ) (v : Json) :
    cp '\n' ∉ dumpsWith l d v := by
  intro h
  rcases dumpsWith_adds d v _ h with hprint | ⟨-, hsome⟩
  · exact absurd hprint (by decide)
  · rw [hl] at hsome
    cases hsome

end

end Json
end Pidprobe
