/-
# The pool section

The snippet of `plugins/sqlalchemy_pool.py`: the connection pools on the heap, in
the order of the collector of garbage, are described, sorted "on those" numbers
that tell them apart, "what makes the section stable across snapshots", and the
first `MAX_POOLS` are listed.

The key leaves out two of the numbers, and a missing count of checked-out
connections is a zero to it.  `poolSectionStable_iff` says when the order of the
heap does not show: when entries of one key are equal, but for those with
`MAX_POOLS` others before them.
-/

import Mathlib.Data.List.ReduceOption
import Mathlib.Data.Prod.Lex
import Pidprobe.Lib.Json
import Pidprobe.Lib.StableSort
import Pidprobe.Target.Tree

namespace Pidprobe
namespace SqlalchemyPool

open StableSort

/-- `MAX_POOLS`. -/
def maxPools : ℕ := 50

/-- What looking up an accessor of a pool and calling it come to. The lookup is outside the
`try`, the call inside. -/
inductive Accessor (ε : Type)
  /-- It is missing, or `None`. -/
  | missing
  /-- The lookup raises something else than `AttributeError`. -/
  | unreadable (exc : ε)
  | raises (exc : ε)
  /-- The call returns an `int` that is no `bool`. -/
  | number (n : ℤ)
  | other

/-- What the snippet reads of a pool: the names of its class and four accessors. Each may
run code of a subclass. -/
structure Pool (ε : Type) where
  /-- `kind.__module__`, which may be missing or no string. -/
  module : Except ε PyStr
  qualname : PyStr
  size : Accessor ε
  checkedout : Accessor ε
  checkedin : Accessor ε
  overflow : Accessor ε

/-- An entry of `pools`: the type and the four metrics, each of which may be missing. -/
structure Entry where
  type : PyStr
  size : Option ℤ
  checkedOut : Option ℤ
  checkedIn : Option ℤ
  overflow : Option ℤ
  deriving DecidableEq

/-- A metric, or `null`. -/
def metric (value : Option ℤ) : Json := value.elim .null .int

/-- The entry as the snippet builds it. -/
def Entry.json (entry : Entry) : Json :=
  .obj [(py "type", .str entry.type), (py "size", metric entry.size),
    (py "checked_out", metric entry.checkedOut), (py "checked_in", metric entry.checkedIn),
    (py "overflow", metric entry.overflow)]

/-- What the entries are sorted by: the type, whether there is a size, the size, and how
many connections are checked out. -/
def Entry.key (entry : Entry) : PyStr ×ₗ Bool ×ₗ ℤ ×ₗ ℤ :=
  toLex (entry.type, toLex (entry.size.isNone, toLex (entry.size.getD 0, entry.checkedOut.getD 0)))

section

variable {ε : Type} [PyException ε]

/-- `measure`: the number an accessor returns, or nothing where it is missing, raises an
`Exception` or returns something else. -/
def measure (accessor : Accessor ε) : Except ε (Option ℤ) :=
  match accessor with
  | .missing => .ok none
  | .unreadable exc => .error exc
  | .raises exc => if PyException.isException exc then .ok none else .error exc
  | .number n => .ok (some n)
  | .other => .ok none

/-- `describe`: the metrics are read one by one, and a lookup that raises ends
the section. -/
def describe (pool : Pool ε) : Except ε Entry := do
  let module ← pool.module
  let size ← measure pool.size
  let checkedOut ← measure pool.checkedout
  let checkedIn ← measure pool.checkedin
  let overflow ← measure pool.overflow
  .ok ⟨module ++ py "." ++ pool.qualname, size, checkedOut, checkedIn, overflow⟩

/-- `data`, of whether `sqlalchemy.pool` is imported and has a class `Pool`, and of
the heap, where `none` is an object that is no pool. -/
def poolData (hasPool : Bool) (objects : List (Option (Pool ε))) : Except ε Json :=
  if !hasPool then
    .ok (.obj [(py "available", .bool false), (py "max_pools", .int maxPools),
      (py "pool_count", .int 0), (py "pools", .arr [])])
  else do
    let entries ← objects.reduceOption.mapM describe
    .ok (.obj [(py "available", .bool true), (py "max_pools", .int maxPools),
      (py "pool_count", .int entries.length),
      (py "pools", .arr (((sortBy Entry.key entries).take maxPools).map Entry.json))])

/-- The section is the same in whatever order the heap is enumerated, or fails in every
one. -/
def PoolSectionStable (hasPool : Bool) (objects : List (Option (Pool ε))) : Prop :=
  ∀ objects', objects'.Perm objects →
    (poolData hasPool objects').toOption = (poolData hasPool objects).toOption

/-- The entry of a pool, where its description returns. -/
def entryOf (pool : Pool ε) : Option Entry := (describe pool).toOption

/-- The entries of the pools on a heap. -/
def entriesOf (objects : List (Option (Pool ε))) : List Entry :=
  objects.reduceOption.filterMap entryOf

/-- Describing a pool on the heap raises. Then there is no section, in any order. -/
def Unreadable (objects : List (Option (Pool ε))) : Prop :=
  ∃ pool, some pool ∈ objects ∧ entryOf pool = none

/-- Entries of one key are equal, but for those with enough others before them to be cut off
by `MAX_POOLS`. -/
def Separated (entries : List Entry) : Prop :=
  ∀ x ∈ entries, ∀ y ∈ entries, x.key = y.key →
    entries.countP (·.key < x.key) < maxPools → x = y

/-- The four numbers of a pool are told apart by their names. -/
theorem metric_injective : Function.Injective metric := by
  intro x y h
  cases x <;> cases y <;> simp_all [metric]

/-- Two entries with one document are one entry. -/
theorem json_injective : Function.Injective Entry.json := by
  rintro ⟨type, size, out, checkedIn, overflow⟩ ⟨type', size', out', in', overflow'⟩ h
  simp only [Entry.json, Json.obj.injEq, List.cons.injEq, Prod.mk.injEq, true_and, Json.str.injEq,
    metric_injective.eq_iff, and_true] at h
  obtain ⟨rfl, rfl, rfl, rfl, rfl⟩ := h
  rfl

/-- Where every pool can be read, the section has an entry for each. -/
theorem mapM_describe {pools : List (Pool ε)} (h : ∀ pool ∈ pools, entryOf pool ≠ none) :
    pools.mapM describe = .ok (pools.filterMap entryOf) := by
  induction pools with
  | nil => rfl
  | cons pool pools ih =>
    obtain ⟨hpool, hpools⟩ := List.forall_mem_cons.1 h
    rcases hentry : describe pool with exc | entry
    · exact absurd (by rw [entryOf, hentry]; rfl) hpool
    · have hsome : entryOf pool = some entry := by rw [entryOf, hentry]; rfl
      rw [List.mapM_cons, hentry, ih hpools, List.filterMap_cons_some hsome]
      rfl

/-- A section that lists pools: the number of all of them, and the first ones of the sorted
entries. -/
theorem poolData_eq {objects : List (Option (Pool ε))} (h : ¬Unreadable objects) :
    poolData true objects = .ok (.obj [(py "available", .bool true),
      (py "max_pools", .int maxPools), (py "pool_count", .int (entriesOf objects).length),
      (py "pools", .arr (((sortBy Entry.key (entriesOf objects)).take maxPools).map
        Entry.json))]) := by
  have hread : ∀ pool ∈ objects.reduceOption, entryOf pool ≠ none := fun pool hmem hnone =>
    h ⟨pool, List.reduceOption_mem_iff.1 hmem, hnone⟩
  rw [poolData, mapM_describe hread]
  rfl

/-- A pool that cannot be described costs the section, wherever it comes. -/
theorem poolData_of_unreadable {objects : List (Option (Pool ε))} (h : Unreadable objects) :
    (poolData true objects).toOption = none := by
  obtain ⟨pool, hmem, hnone⟩ := h
  rcases hmapM : objects.reduceOption.mapM describe with exc | entries
  · rw [poolData, hmapM]
    rfl
  · have hmem' := List.reduceOption_mem_iff.2 hmem
    obtain ⟨entry, hentry⟩ := mapM_ok.1 ⟨entries, hmapM⟩ pool hmem'
    rw [entryOf, hentry] at hnone
    cases hnone

/-- Whether some pool cannot be read does not depend on the order of the heap. -/
theorem Unreadable.perm {objects objects' : List (Option (Pool ε))} (h : objects'.Perm objects) :
    Unreadable objects' ↔ Unreadable objects := by
  simp only [Unreadable, h.mem_iff]

/-- The entries are those of the pools among the objects, in the order of the heap. -/
theorem entriesOf_eq (objects : List (Option (Pool ε))) :
    entriesOf objects = objects.filterMap fun pool => pool.bind entryOf := by
  rw [entriesOf, List.reduceOption, List.filterMap_filterMap]
  rfl

/-- Where the pools can be described, the section is stable if its entries are in
whatever order. -/
theorem stable_iff_separated {objects : List (Option (Pool ε))} (hread : ¬Unreadable objects) :
    PoolSectionStable true objects ↔ Separated (entriesOf objects) := by
  unfold Separated
  rw [← take_sortBy_iff]
  constructor
  · intro h entries hperm
    rw [entriesOf_eq] at hperm
    obtain ⟨objects', hperm', rfl⟩ := exists_perm_filterMap hperm
    have heq := h objects' hperm'
    rw [poolData_eq hread, poolData_eq (mt (Unreadable.perm hperm').1 hread),
      entriesOf_eq objects'] at heq
    simp only [Except.toOption, Option.some.injEq, Json.obj.injEq, List.cons.injEq, Prod.mk.injEq,
      true_and, and_true, Json.arr.injEq] at heq
    exact List.map_injective_iff.2 json_injective heq.2
  · intro h objects' hperm
    have hentries : (entriesOf objects').Perm (entriesOf objects) := by
      rw [entriesOf_eq, entriesOf_eq]
      exact hperm.filterMap _
    rw [poolData_eq hread, poolData_eq (mt (Unreadable.perm hperm).1 hread), h _ hentries,
      hentries.length_eq]

/-- **When the pool section is stable**: without SQLAlchemy, with a pool that cannot be
read, or where entries of one sort key are equal as far as they are shown. -/
theorem poolSectionStable_iff (hasPool : Bool) (objects : List (Option (Pool ε))) :
    PoolSectionStable hasPool objects ↔
      hasPool = false ∨ Unreadable objects ∨ Separated (entriesOf objects) := by
  rcases hasPool
  · exact iff_of_true (fun _ _ => rfl) (.inl rfl)
  by_cases hread : Unreadable objects
  · refine iff_of_true (fun objects' hperm => ?_) (.inr (.inl hread))
    rw [poolData_of_unreadable hread, poolData_of_unreadable ((Unreadable.perm hperm).2 hread)]
  · rw [stable_iff_separated hread]
    simp [hread]

end

/-- A `QueuePool` of five connections, none of them handed out, and so many checked in. -/
def queuePool (checkedIn : ℤ) : Pool ExcData where
  module := .ok (py "sqlalchemy.pool.impl")
  qualname := py "QueuePool"
  size := .number 5
  checkedout := .number 0
  checkedin := .number checkedIn
  overflow := .number (checkedIn - 5)

/-- A pool that has never made a connection and one that has parked its connection
have one key. -/
theorem queuePools_not_stable :
    ¬PoolSectionStable true [some (queuePool 0), some (queuePool 1)] := by
  have hread : ¬Unreadable [some (queuePool 0), some (queuePool 1)] := by
    rintro ⟨pool, hmem, hnone⟩
    rcases List.mem_cons.1 hmem with h | hmem
    · obtain rfl := Option.some.inj h
      cases hnone
    · obtain rfl := Option.some.inj (List.mem_singleton.1 hmem)
      cases hnone
  rw [stable_iff_separated hread]
  intro h
  have hentries : entriesOf [some (queuePool 0), some (queuePool 1)] =
      [⟨py "sqlalchemy.pool.impl.QueuePool", some 5, some 0, some 0, some (-5)⟩,
        ⟨py "sqlalchemy.pool.impl.QueuePool", some 5, some 0, some 1, some (-4)⟩] := rfl
  rw [hentries] at h
  have heq := h _ (List.mem_cons_self ..) _ (List.mem_cons_of_mem _ (List.mem_cons_self ..)) rfl
    (by decide)
  revert heq
  decide

end SqlalchemyPool
end Pidprobe
