/-
# The order of installation

`discover_collectors` sorts the entry points by their names, "so the result does
not depend on installation order".  The sort is stable and several distributions
can publish entry points of one name: these stay in the order in which they are
listed, and the first of them to claim a section name keeps it.

`orderIndependent_iff` says when the order does not show: entry points of one
name whose section names are still free bring equal collectors.
-/

import Pidprobe.Registry.Accounts

namespace Pidprobe
namespace Registry

open StableSort

section

variable [Unicode] {ε : Type} [PyException ε] (compiles : Composition → Bool)

/-- Discovery returns the same collectors in whatever order the entry points are
listed. -/
def OrderIndependent (sources : BuiltinSources) (points : List (EntryPoint ε)) : Prop :=
  ∀ points', points'.Perm points →
    (discoverCollectors compiles points').toOption =
        (discoverCollectors compiles points).toOption ∧
      (availableCollectors sources compiles points').toOption =
        (availableCollectors sources compiles points).toOption

/-- An entry point loads this collector, and no entry point of a smaller name
loads one of its name. -/
def Fresh (points : List (EntryPoint ε)) (point : EntryPoint ε) (c : Collector) : Prop :=
  collectorOf compiles point = some c ∧
    ∀ q ∈ points, q.name < point.name → ∀ d, collectorOf compiles q = some d → d.name ≠ c.name

/-- Entry points of one name whose section names are free bring equal collectors,
or an entry point raises what discovery does not catch. -/
def Settled (points : List (EntryPoint ε)) : Prop :=
  (∃ point ∈ points, ¬Ordinary compiles point) ∨
    ∀ p ∈ points, ∀ q ∈ points, p.name = q.name → ∀ c d,
      Fresh compiles points p c → Fresh compiles points q d → c = d

variable {compiles}

/-! ## Loading in order -/

omit [Unicode] [PyException ε] in
/-- Sorting loses no entry point and adds none. -/
theorem mem_byName {points : List (EntryPoint ε)} {point : EntryPoint ε} :
    point ∈ byName points ↔ point ∈ points := List.mem_mergeSort

/-- An ordinary entry point is loaded, or left out. -/
theorem load_of_ordinary {point : EntryPoint ε} (h : Ordinary compiles point) :
    load compiles point = .ok (collectorOf compiles point) := by
  rw [← outcome_loadLogged, loadLogged_eq h]

/-- One that is not ordinary raises, and nothing catches it: `except Exception` is the only
handler. -/
theorem load_of_not_ordinary {point : EntryPoint ε} (h : ¬Ordinary compiles point) :
    ∃ exc, load compiles point = .error exc := by
  simp only [Ordinary, not_forall] at h
  obtain ⟨exc, hexc, hnot⟩ := h
  exact ⟨exc, by rw [load_eq, hexc]; exact if_neg hnot⟩

/-- Ordinary entry points are loaded in order, those that publish something. -/
theorem loadAll_of_ordinary {points : List (EntryPoint ε)}
    (h : ∀ point ∈ points, Ordinary compiles point) :
    loadAll compiles points = .ok (points.filterMap (collectorOf compiles)) := by
  induction points with
  | nil => rfl
  | cons point points ih =>
    obtain ⟨hpoint, hpoints⟩ := List.forall_mem_cons.1 h
    rw [loadAll, load_of_ordinary hpoint, ok_bind, ih hpoints, ok_bind, List.filterMap_cons]
    rcases collectorOf compiles point <;> rfl

/-- A single one that is not ordinary ends the whole comprehension, whatever comes before or
behind it. -/
theorem loadAll_of_not_ordinary {points : List (EntryPoint ε)} {point : EntryPoint ε}
    (hmem : point ∈ points) (h : ¬Ordinary compiles point) :
    ∃ exc, loadAll compiles points = .error exc := by
  induction points with
  | nil => cases hmem
  | cons p points ih =>
    rw [loadAll]
    rcases hp : load compiles p with exc | collector
    · exact ⟨exc, rfl⟩
    rcases List.mem_cons.1 hmem with rfl | hmem
    · obtain ⟨exc, hexc⟩ := load_of_not_ordinary h
      rw [hexc] at hp
      cases hp
    · obtain ⟨exc, hexc⟩ := ih hmem
      exact ⟨exc, by rw [ok_bind, hexc]; rfl⟩

/-- What discovery returns, where it returns: the collectors that load, sorted, and of
each section name the first. -/
theorem discoverCollectors_of_ordinary {points : List (EntryPoint ε)}
    (h : ∀ point ∈ points, Ordinary compiles point) :
    discoverCollectors compiles points =
      .ok (accepted ((byName points).filterMap (collectorOf compiles)) []) := by
  rw [discoverCollectors, loadAll_of_ordinary fun point hp => h point (mem_byName.1 hp), ok_bind]

/-- And with it discovery. -/
theorem discoverCollectors_of_not_ordinary {points : List (EntryPoint ε)} {point : EntryPoint ε}
    (hmem : point ∈ points) (h : ¬Ordinary compiles point) :
    (discoverCollectors compiles points).toOption = none := by
  obtain ⟨exc, hexc⟩ := loadAll_of_not_ordinary (mem_byName.2 hmem) h
  rw [discoverCollectors, hexc]
  rfl

/-! ## First come, first served -/

omit [PyException ε] in
/-- The collectors of a first part have claimed its names. -/
theorem accepted_append (xs ys : List Collector) (taken : List PyStr) :
    ∃ taken', accepted (xs ++ ys) taken = accepted xs taken ++ accepted ys taken' ∧
      ∀ n, n ∈ taken' ↔ n ∈ taken ∨ n ∈ xs.map Collector.name := by
  induction xs generalizing taken with
  | nil => exact ⟨taken, rfl, by simp⟩
  | cons c xs ih =>
    rw [List.cons_append, accepted, accepted]
    split_ifs with hc
    · obtain ⟨taken', heq, hmem⟩ := ih taken
      refine ⟨taken', heq, fun n => ?_⟩
      rw [hmem, List.map_cons, List.mem_cons]
      constructor
      · exact Or.imp_right .inr
      · rintro (hn | rfl | hn)
        · exact .inl hn
        · exact .inl hc
        · exact .inr hn
    · obtain ⟨taken', heq, hmem⟩ := ih (c.name :: taken)
      refine ⟨taken', by rw [heq, List.cons_append], fun n => ?_⟩
      rw [hmem, List.map_cons, List.mem_cons, List.mem_cons, or_assoc, or_left_comm]

/-- A collector whose name is still free behind others comes right behind those
of them that are accepted. -/
theorem accepted_append_cons {xs ys : List Collector} {c : Collector}
    (h : c.name ∉ xs.map Collector.name) :
    ∃ rest, accepted (xs ++ c :: ys) [] = accepted xs [] ++ c :: rest := by
  obtain ⟨taken, heq, hmem⟩ := accepted_append xs (c :: ys) []
  have hfree : c.name ∉ taken := by simpa [hmem] using h
  exact ⟨_, by rw [heq, accepted, if_neg hfree]⟩

/-! ## Free names -/

variable (compiles) in
/-- The collector of an entry point, where its name is fresh: no entry point of a smaller
name claims its section. -/
def freshCollector (points : List (EntryPoint ε)) (point : EntryPoint ε) : Option Collector :=
  (collectorOf compiles point).filter fun c => points.all fun q =>
    !(decide (q.name < point.name) && (collectorOf compiles q).any fun d => d.name = c.name)

/-- The collector of an entry point, where no entry point of a smaller name claims
its section. -/
theorem freshCollector_eq_some {points : List (EntryPoint ε)} {point : EntryPoint ε}
    {c : Collector} : freshCollector compiles points point = some c ↔
      Fresh compiles points point c := by
  rw [freshCollector, Option.filter_eq_some_iff, Fresh]
  refine and_congr_right fun _ => ?_
  simp only [List.all_eq_true, Bool.not_eq_true', Bool.and_eq_false_imp, decide_eq_true_eq]
  refine forall₃_congr fun q _ _ => ?_
  rcases collectorOf compiles q with _ | d
  · simp
  · simp

/-- Whether a collector is fresh does not depend on the order of the entry points. -/
theorem freshCollector_perm {points points' : List (EntryPoint ε)} (h : points'.Perm points) :
    freshCollector compiles points' = freshCollector compiles points := by
  funext point
  refine Option.ext fun c => ?_
  rw [freshCollector_eq_some, freshCollector_eq_some, Fresh, Fresh]
  simp only [h.mem_iff]

/-- A name that is not fresh has been claimed: the entry point of a smaller name
was offered before. -/
theorem name_mem_taken {points rest : List (EntryPoint ε)} {p : EntryPoint ε} {c : Collector}
    {taken : List PyStr} (hc : collectorOf compiles p = some c)
    (hnot : ¬Fresh compiles points p c) (hp : ∀ q ∈ rest, p.name ≤ q.name)
    (htaken : ∀ q ∈ points,
      q ∈ p :: rest ∨ ∀ d, collectorOf compiles q = some d → d.name ∈ taken) :
    c.name ∈ taken := by
  by_contra hfree
  refine hnot ⟨hc, fun q hq hlt d hd hname => ?_⟩
  rcases htaken q hq with hmem | hd'
  · rcases List.mem_cons.1 hmem with rfl | hmem
    · exact lt_irrefl _ hlt
    · exact absurd hlt (not_lt.2 (hp q hmem))
  · exact hfree (hname ▸ hd' d hd)

/-- Collectors whose names are not fresh are left out anyway: the one that took the name was
offered before. -/
theorem accepted_fresh {points rest : List (EntryPoint ε)} {taken : List PyStr}
    (hsorted : rest.Pairwise fun p q => p.name ≤ q.name)
    (htaken : ∀ q ∈ points, q ∈ rest ∨ ∀ d, collectorOf compiles q = some d → d.name ∈ taken) :
    accepted (rest.filterMap (collectorOf compiles)) taken =
      accepted (rest.filterMap (freshCollector compiles points)) taken := by
  induction rest generalizing taken with
  | nil => rfl
  | cons p rest ih =>
    obtain ⟨hp, hrest⟩ := List.pairwise_cons.1 hsorted
    rw [List.filterMap_cons, List.filterMap_cons]
    rcases hc : collectorOf compiles p with _ | c
    · have hfresh : freshCollector compiles points p = none := by rw [freshCollector, hc]; rfl
      rw [hfresh]
      refine ih hrest fun q hq => (htaken q hq).elim (fun hmem => ?_) .inr
      rcases List.mem_cons.1 hmem with rfl | hmem
      · exact .inr fun d hd => by rw [hc] at hd; cases hd
      · exact .inl hmem
    have hnext : ∀ taken', (∀ n ∈ taken, n ∈ taken') → c.name ∈ taken' →
        accepted (rest.filterMap (collectorOf compiles)) taken' =
          accepted (rest.filterMap (freshCollector compiles points)) taken' := by
      intro taken' hle hmem'
      refine ih hrest fun q hq => (htaken q hq).elim (fun hmem => ?_) fun h => .inr fun d hd =>
        hle _ (h d hd)
      rcases List.mem_cons.1 hmem with rfl | hmem
      · refine .inr fun d hd => ?_
        rw [hc, Option.some.injEq] at hd
        exact hd ▸ hmem'
      · exact .inl hmem
    rcases hfresh : freshCollector compiles points p with _ | c'
    · have hnot : ¬Fresh compiles points p c := fun h => by
        rw [freshCollector_eq_some.2 h] at hfresh
        cases hfresh
      have htaken' := name_mem_taken hc hnot hp htaken
      rw [accepted, if_pos htaken']
      exact hnext taken (fun _ => id) htaken'
    · obtain rfl : c = c' := by
        have hc' := (freshCollector_eq_some.1 hfresh).1
        rwa [hc, Option.some.injEq] at hc'
      rw [accepted, accepted]
      split_ifs with hmem
      · exact hnext taken (fun _ => id) hmem
      · rw [hnext _ (fun _ => List.mem_cons_of_mem _) (List.mem_cons_self ..)]

/-- What discovery returns depends on the entry points with fresh names. -/
theorem accepted_byName (points : List (EntryPoint ε)) :
    accepted ((byName points).filterMap (collectorOf compiles)) [] =
      accepted ((byName points).filterMap (freshCollector compiles points)) [] :=
  accepted_fresh (pairwise_sortBy EntryPoint.name points) fun _ hq => .inl (mem_byName.2 hq)

/-- Where entry points of one name have no two different fresh collectors, every order lists
the same ones in the same order. -/
theorem freshCollectors_eq {points points' : List (EntryPoint ε)} (hperm : points'.Perm points)
    (h : ∀ p ∈ points, ∀ q ∈ points, p.name = q.name → ∀ c d,
      Fresh compiles points p c → Fresh compiles points q d → c = d) :
    (byName points').filterMap (freshCollector compiles points) =
      (byName points).filterMap (freshCollector compiles points) :=
  filterMap_sortBy_of_perm hperm fun p hp q hq hname c d hc hd =>
    h p hp q hq hname c d (freshCollector_eq_some.1 hc) (freshCollector_eq_some.1 hd)

/-! ## Two orders -/

/-- Of two entry points of one name and with fresh names, the collector of the one
listed first comes first, behind those of the entry points of smaller names. -/
theorem accepted_cons_cons {points rest : List (EntryPoint ε)} {p q : EntryPoint ε}
    {c : Collector} (hrest : ∀ r ∈ rest, r ∈ points) (hname : p.name = q.name)
    (hc : Fresh compiles points p c) :
    ∃ later, accepted ((byName (p :: q :: rest)).filterMap (collectorOf compiles)) [] =
      accepted ((smaller EntryPoint.name p rest).filterMap (collectorOf compiles)) [] ++
        c :: later := by
  obtain ⟨back, hsort⟩ : ∃ back, byName (p :: q :: rest) =
      smaller EntryPoint.name p rest ++ p :: back := sortBy_cons_cons hname rest
  rw [hsort, List.filterMap_append, List.filterMap_cons,
    hc.1]
  refine accepted_append_cons fun hmem => ?_
  obtain ⟨d, hd, hdc⟩ := List.mem_map.1 hmem
  obtain ⟨r, hr, hd⟩ := List.mem_filterMap.1 hd
  obtain ⟨hr, hlt⟩ := mem_smaller.1 hr
  exact hc.2 r (hrest r hr) hlt d hd hdc

/-- An exception that is not caught comes in any order, and then there is no result to
depend on it. -/
theorem orderIndependent_of_not_ordinary (sources : BuiltinSources)
    {points : List (EntryPoint ε)} {p : EntryPoint ε} (hp : p ∈ points)
    (hnot : ¬Ordinary compiles p) : OrderIndependent compiles sources points := by
  have hnone : ∀ points' : List (EntryPoint ε), p ∈ points' →
      (discoverCollectors compiles points').toOption = none ∧
        (availableCollectors sources compiles points').toOption = none := by
    intro points' hp
    have hdiscover := discoverCollectors_of_not_ordinary hp hnot
    refine ⟨hdiscover, ?_⟩
    rw [availableCollectors]
    rcases hd : discoverCollectors compiles points' with exc | found
    · rfl
    · rw [hd] at hdiscover
      cases hdiscover
  intro points' hperm
  obtain ⟨hdiscover, havailable⟩ := hnone points hp
  obtain ⟨hdiscover', havailable'⟩ := hnone points' (hperm.symm.subset hp)
  exact ⟨hdiscover'.trans hdiscover.symm, havailable'.trans havailable.symm⟩

/-- What discovery returns for another order of the same entry points. -/
theorem discoverCollectors_perm {points points' : List (EntryPoint ε)}
    (h : ∀ point ∈ points, Ordinary compiles point) (hperm : points'.Perm points) :
    discoverCollectors compiles points' =
      .ok (accepted ((byName points').filterMap (collectorOf compiles)) []) :=
  discoverCollectors_of_ordinary fun p hp => h p (hperm.subset hp)

/-- Two collectors of one name would stand in one place of the two results, so they are the
same. -/
theorem fresh_eq_of_orderIndependent {sources : BuiltinSources} {points : List (EntryPoint ε)}
    (hordinary : ∀ point ∈ points, Ordinary compiles point)
    (h : OrderIndependent compiles sources points) {p q : EntryPoint ε} (hp : p ∈ points)
    (hq : q ∈ points) (hname : p.name = q.name) {c d : Collector} (hc : Fresh compiles points p c)
    (hd : Fresh compiles points q d) : c = d := by
  by_contra hne
  have hpq : p ≠ q := by
    rintro rfl
    exact hne (Option.some.inj (hc.1.symm.trans hd.1))
  obtain ⟨rest, hperm, hperm'⟩ := exists_perm_cons_cons hp hq hpq
  have hrest : ∀ r ∈ rest, r ∈ points := fun r hr =>
    hperm.subset (List.mem_cons_of_mem _ (List.mem_cons_of_mem _ hr))
  obtain ⟨later, hfirst⟩ := accepted_cons_cons hrest hname hc
  obtain ⟨later', hsecond⟩ := accepted_cons_cons hrest hname.symm hd
  have heq := (h _ hperm).1.trans (h _ hperm').1.symm
  rw [discoverCollectors_perm hordinary hperm, discoverCollectors_perm hordinary hperm', hfirst,
    hsecond, smaller_congr hname] at heq
  have hcons := List.append_cancel_left (Option.some.inj heq)
  exact hne (List.cons.inj hcons).1

/-- Discovery does not depend on the order where entry points of one name agree on what is
fresh. -/
theorem orderIndependent_of_fresh_eq (sources : BuiltinSources) {points : List (EntryPoint ε)}
    (hordinary : ∀ point ∈ points, Ordinary compiles point)
    (h : ∀ p ∈ points, ∀ q ∈ points, p.name = q.name → ∀ c d,
      Fresh compiles points p c → Fresh compiles points q d → c = d) :
    OrderIndependent compiles sources points := by
  intro points' hperm
  have heq : discoverCollectors compiles points' = discoverCollectors compiles points := by
    rw [discoverCollectors_perm hordinary hperm, discoverCollectors_of_ordinary hordinary,
      accepted_byName, accepted_byName points, freshCollector_perm hperm,
      freshCollectors_eq hperm h]
  rw [availableCollectors, availableCollectors, heq]
  exact ⟨rfl, rfl⟩

/-- **When discovery does not depend on the order of installation**: some entry point raises
what is not caught, or entry points of one name have no two different fresh collectors. -/
theorem orderIndependent_iff (compiles : Composition → Bool) (sources : BuiltinSources)
    (points : List (EntryPoint ε)) :
    OrderIndependent compiles sources points ↔ Settled compiles points := by
  by_cases hordinary : ∀ point ∈ points, Ordinary compiles point
  · constructor
    · intro h
      exact .inr fun p hp q hq hname c d => fresh_eq_of_orderIndependent hordinary h hp hq hname
    · rintro (⟨p, hp, hnot⟩ | hsettled)
      · exact absurd (hordinary p hp) hnot
      · exact orderIndependent_of_fresh_eq sources hordinary hsettled
  · simp only [not_forall] at hordinary
    obtain ⟨p, hp, hnot⟩ := hordinary
    exact iff_of_true (orderIndependent_of_not_ordinary sources hp hnot) (.inl ⟨p, hp, hnot⟩)

end

/-- Two distributions publish an entry point of one name. -/
def samePlugin : List (EntryPoint ExcData) :=
  [publishing (py "plugin") (py "alpha"), publishing (py "plugin") (py "beta")]

/-- The two collectors come in the order of installation, so discovery depends on it. -/
theorem orderIndependent_samePlugin :
    letI := Unicode.fullwidth
    ¬OrderIndependent (fun _ => true) someSources samePlugin := by
  let _ := Unicode.fullwidth
  intro h
  have hsort : ∀ points : List (EntryPoint ExcData), (∀ p ∈ points, p.name = py "plugin") →
      byName points = points := by
    intro points hname
    refine List.mergeSort_of_pairwise (List.pairwise_iff_forall_sublist.2 fun {p q} hpq => ?_)
    rw [hname p (hpq.subset (by simp)), hname q (hpq.subset (by simp))]
    simp
  have hswapped := (h samePlugin.reverse (List.reverse_perm _)).1
  rw [discoverCollectors, discoverCollectors, hsort _ (by decide), hsort _ (by decide)] at hswapped
  have hnames := congrArg (Option.map (List.map Collector.name)) hswapped
  revert hnames
  decide +kernel

end Registry
end Pidprobe
