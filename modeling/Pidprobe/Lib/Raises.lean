/-
# Calls that return or raise

A Python call returns a value or raises an exception: `Except ε α`.  A `do`
block runs its steps until the first that raises; `bind_eq_ok` and
`bind_eq_error` take such a block apart at its first step.
-/

import Mathlib.Data.List.Forall2

namespace Pidprobe

universe u v

variable {ε : Type u} {α β : Type v} {x : Except ε α} {f : α → Except ε β}

@[simp] theorem ok_bind (a : α) : (Except.ok a : Except ε α) >>= f = f a := rfl

@[simp] theorem error_bind (e : ε) : (Except.error e : Except ε α) >>= f = .error e := rfl

/-- A block returns where its first step and its rest do. -/
theorem bind_eq_ok {b : β} : x >>= f = .ok b ↔ ∃ a, x = .ok a ∧ f a = .ok b := by
  cases x <;> simp

/-- It raises what its first step raises, or what the rest does with the value. -/
theorem bind_eq_error {e : ε} :
    x >>= f = .error e ↔ x = .error e ∨ ∃ a, x = .ok a ∧ f a = .error e := by
  cases x <;> simp

/-- Turning exceptions into others does not concern what returns. -/
theorem mapError_eq_ok {ε' : Type u} {g : ε → ε'} {a : α} : x.mapError g = .ok a ↔ x = .ok a := by
  cases x <;> simp [Except.mapError]

/-- What raises afterwards has raised before. -/
theorem mapError_eq_error {ε' : Type u} {g : ε → ε'} {e : ε'} :
    x.mapError g = .error e ↔ ∃ exc, x = .error exc ∧ g exc = e := by
  cases x <;> simp [Except.mapError]

/-- A loop that ends has run every round to its end, and collected one value a round. -/
theorem mapM_eq_ok {xs : List α} {ys : List β} :
    xs.mapM f = .ok ys ↔ List.Forall₂ (fun a b => f a = .ok b) xs ys := by
  induction xs generalizing ys with
  | nil => cases ys <;> simp [pure, Except.pure]
  | cons a xs ih =>
    simp only [List.mapM_cons, bind_eq_ok, ih, List.forall₂_cons_left_iff]
    constructor
    · rintro ⟨b, hb, bs, hbs, h⟩
      exact ⟨b, bs, hb, hbs, (Except.ok.inj h).symm⟩
    · rintro ⟨b, bs, hb, hbs, rfl⟩
      exact ⟨b, hb, bs, hbs, rfl⟩

/-- Lists whose elements have equal images pair by pair have equal images. -/
theorem map_eq_of_forall₂ {α β γ : Type*} {f : α → γ} {g : β → γ} {xs : List α} {ys : List β}
    (h : List.Forall₂ (fun a b => f a = g b) xs ys) : xs.map f = ys.map g := by
  induction h with
  | nil => rfl
  | cons hab _ ih => rw [List.map_cons, List.map_cons, hab, ih]

/-- An element of the left list has its partner in the right one. -/
theorem exists_of_forall₂ {α β : Type*} {R : α → β → Prop} {xs : List α} {ys : List β}
    (h : List.Forall₂ R xs ys) {a : α} (ha : a ∈ xs) : ∃ b ∈ ys, R a b := by
  induction h with
  | nil => cases ha
  | cons hab _ ih =>
    rcases List.mem_cons.1 ha with rfl | ha
    · exact ⟨_, List.mem_cons_self .., hab⟩
    · obtain ⟨b, hb, hR⟩ := ih ha
      exact ⟨b, List.mem_cons_of_mem _ hb, hR⟩

/-- What holds of the left element of each pair as something else does of the
right one. -/
theorem forall_mem_of_forall₂ {α β : Type*} {R : α → β → Prop} {P : α → Prop} {Q : β → Prop}
    {xs : List α} {ys : List β} (h : List.Forall₂ R xs ys) (hPQ : ∀ a b, R a b → (Q b ↔ P a)) :
    (∀ b ∈ ys, Q b) ↔ ∀ a ∈ xs, P a := by
  induction h with
  | nil => simp
  | cons hab _ ih => rw [List.forall_mem_cons, List.forall_mem_cons, hPQ _ _ hab, ih]

/-- A relation that holds of each pair may use where the left one comes from. -/
theorem forall₂_of_mem {α β : Type*} {R S : α → β → Prop} {xs : List α} {ys : List β}
    (h : List.Forall₂ R xs ys) (hRS : ∀ a b, a ∈ xs → R a b → S a b) : List.Forall₂ S xs ys := by
  induction h with
  | nil => exact .nil
  | cons hab _ ih =>
    refine .cons (hRS _ _ (List.mem_cons_self ..) hab) (ih fun a b ha => ?_)
    exact hRS a b (List.mem_cons_of_mem _ ha)

/-- Where every right element of a pair has a successor that fits the left one,
the right list has a list of successors that fits the left list. -/
theorem forall₂_exists {α β γ : Type*} {R : α → β → Prop} {S : β → γ → Prop} {T : α → γ → Prop}
    {xs : List α} {ys : List β} (h : List.Forall₂ R xs ys)
    (hRST : ∀ a b, a ∈ xs → R a b → ∃ c, S b c ∧ T a c) :
    ∃ zs, List.Forall₂ S ys zs ∧ List.Forall₂ T xs zs := by
  induction h with
  | nil => exact ⟨[], .nil, .nil⟩
  | cons hab _ ih =>
    obtain ⟨c, hS, hT⟩ := hRST _ _ (List.mem_cons_self ..) hab
    obtain ⟨zs, hSs, hTs⟩ := ih fun a b ha => hRST a b (List.mem_cons_of_mem _ ha)
    exact ⟨c :: zs, .cons hS hSs, .cons hT hTs⟩

/-- Lists that belong together pair by pair do so through a list between them. -/
theorem forall₂_trans {α β γ : Type*} {R : α → β → Prop} {S : β → γ → Prop} {T : α → γ → Prop}
    {xs : List α} {ys : List β} {zs : List γ} (h : List.Forall₂ R xs ys)
    (h' : List.Forall₂ S ys zs) (hRST : ∀ a b c, R a b → S b c → T a c) :
    List.Forall₂ T xs zs := by
  induction h generalizing zs with
  | nil =>
    cases h'
    exact .nil
  | cons hab _ ih =>
    cases h' with
    | cons hbc hrest => exact .cons (hRST _ _ _ hab hbc) (ih hrest)

/-- A relation that depends on the left element only, where the elements belong
together. -/
theorem forall₂_iff_of_forall₂ {α β : Type*} {R S : α → β → Prop} {P : α → Prop} {xs : List α}
    {ys : List β} (h : List.Forall₂ R xs ys) (hRS : ∀ a b, a ∈ xs → R a b → (S a b ↔ P a)) :
    List.Forall₂ S xs ys ↔ ∀ a ∈ xs, P a := by
  induction h with
  | nil => simp
  | cons hab _ ih =>
    rw [List.forall₂_cons, List.forall_mem_cons, hRS _ _ (List.mem_cons_self ..) hab,
      ih fun a b ha => hRS a b (List.mem_cons_of_mem _ ha)]

/-- Partners that can be found one by one make a list. -/
theorem forall₂_of_forall {α β : Type*} {R : α → β → Prop} {xs : List α}
    (h : ∀ a ∈ xs, ∃ b, R a b) : ∃ ys, List.Forall₂ R xs ys := by
  induction xs with
  | nil => exact ⟨[], .nil⟩
  | cons a xs ih =>
    obtain ⟨⟨b, hb⟩, hrest⟩ := List.forall_mem_cons.1 h
    obtain ⟨ys, hys⟩ := ih hrest
    exact ⟨b :: ys, .cons hb hys⟩

/-- A loop ends exactly when each of its rounds does: no round depends on another. -/
theorem mapM_ok {xs : List α} :
    (∃ ys, xs.mapM f = .ok ys) ↔ ∀ a ∈ xs, ∃ b, f a = .ok b := by
  simp only [mapM_eq_ok]
  constructor
  · rintro ⟨ys, h⟩ a ha
    obtain ⟨b, -, hb⟩ := exists_of_forall₂ h ha
    exact ⟨b, hb⟩
  · exact forall₂_of_forall

/-- A loop raises what one of its rounds raised, and nothing of its own. -/
theorem mapM_eq_error {xs : List α} {e : ε} (h : xs.mapM f = .error e) :
    ∃ a ∈ xs, f a = .error e := by
  induction xs with
  | nil => cases h
  | cons a xs ih =>
    rw [List.mapM_cons] at h
    rcases bind_eq_error.1 h with h | ⟨b, -, h⟩
    · exact ⟨a, List.mem_cons_self .., h⟩
    · rcases bind_eq_error.1 h with h | ⟨bs, -, h⟩
      · obtain ⟨a', ha', h⟩ := ih h
        exact ⟨a', List.mem_cons_of_mem _ ha', h⟩
      · cases h

/-- A loop of lookups that all succeed collects what they find. -/
theorem mapM_eq_some_map {α β : Type*} {f : α → Option β} {g : α → β} {xs : List α}
    (h : ∀ a ∈ xs, f a = some (g a)) : xs.mapM f = some (xs.map g) := by
  induction xs with
  | nil => rfl
  | cons a xs ih =>
    rw [List.mapM_cons, h a (List.mem_cons_self ..), ih fun b hb => h b (List.mem_cons_of_mem _ hb)]
    rfl

/-- The exception of a call that raises, and none of one that returns. -/
def raised : Except ε α → Option ε
  | .error e => some e
  | .ok _ => none

theorem raised_eq_some {e : ε} : raised x = some e ↔ x = .error e := by
  cases x <;> simp [raised]

/-- Two calls that end alike: with related values, or with one exception. -/
inductive SameEnd (R : α → α → Prop) : Except ε α → Except ε α → Prop
  | ok {a b : α} (h : R a b) : SameEnd R (.ok a) (.ok b)
  | error (e : ε) : SameEnd R (.error e) (.error e)

/-- Blocks whose first steps end alike and whose rests agree on related values come to the
same. -/
theorem SameEnd.bind_eq {R : α → α → Prop} {x y : Except ε α} (h : SameEnd R x y)
    {g : α → Except ε β} (hfg : ∀ a b, R a b → f a = g b) : x >>= f = y >>= g := by
  cases h with
  | ok h => exact hfg _ _ h
  | error e => rfl

/-- A loop over related lists whose rounds agree on related elements comes to the same. -/
theorem mapM_eq_of_forall₂ {R : α → α → Prop} {g : α → Except ε β} {xs ys : List α}
    (h : List.Forall₂ R xs ys) (hfg : ∀ a b, R a b → f a = g b) : xs.mapM f = ys.mapM g := by
  induction h with
  | nil => rfl
  | cons hab _ ih => rw [List.mapM_cons, List.mapM_cons, hfg _ _ hab, ih]

end Pidprobe
