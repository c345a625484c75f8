/-
RouteConvergence.Proofs.SpecificityOrder — the order of patterns, and what
a sorted list of patterns or behaviours is.

The order compares two lists of numbers: the length of a pattern, longest
first, and then the ranks of its characters one after the other
(`Pattern.specificity_eq`). So it is an order for the reason that numbers
and lists of numbers have one. No two characters have one rank, and so no
two patterns are equally specific (`Pattern.specificity_eq_iff`).

* `Pattern.specificity_canonical` — the order is strict and total, so that
  sorted patterns do not depend on how they were given.
* `Behavior.find_sorted` — the first match: a behaviour that takes a request
  answers it before all behaviours that may not stand before it.
-/
import RouteConvergence.Distribution

namespace RouteConvergence

namespace Pattern

/-! ## The order -/

/-- The ranks of a pattern's characters. -/
def ranks (pattern : String) : List Nat := pattern.toList.map rank

/-- On patterns of one length the first differing rank decides. -/
theorem compareRanks_eq : ∀ {xs ys : List Char}, xs.length = ys.length →
    compareRanks xs ys = compare (xs.map rank) (ys.map rank)
  | [], [], _ => rfl
  | x :: xs, y :: ys, h => by
    rw [compareRanks, compareRanks_eq (Nat.succ.inj h), List.map_cons, List.map_cons,
      List.compare_cons_cons]

/-- **The order of patterns** is that of their lengths, the other way round,
and then that of their ranks. -/
theorem specificity_eq : specificity =
    compareLex (fun a b => compareOn String.length b a) (compareOn ranks) := by
  funext a b
  by_cases h : a.length = b.length
  · have hranks : compareRanks a.toList b.toList = compare (ranks a) (ranks b) :=
      compareRanks_eq h
    rw [specificity, hranks]
    rfl
  · have hne : compare b.length a.length ≠ .eq := fun he => h (Nat.compare_eq_eq.1 he).symm
    show (compare b.length a.length).then _ = (compare b.length a.length).then _
    cases hlength : compare b.length a.length with
    | lt => rfl
    | eq => exact absurd hlength hne
    | gt => rfl

instance : Std.TransCmp specificity := by
  rw [specificity_eq]
  infer_instance

theorem noLessSpecific_trans (a b c : String) (hab : noLessSpecific a b = true)
    (hbc : noLessSpecific b c = true) : noLessSpecific a c = true :=
  Std.TransCmp.isLE_trans hab hbc

theorem noLessSpecific_total (a b : String) :
    (noLessSpecific a b || noLessSpecific b a) = true := by
  have hswap : specificity b a = (specificity a b).swap := Std.OrientedCmp.eq_swap
  unfold noLessSpecific
  rw [hswap]
  cases specificity a b <;> rfl

theorem rank_inj {c d : Char} (h : rank c = rank d) : c = d := by
  have hc : c.toNat < 0xD800 ∨ 0xDFFF < c.toNat ∧ c.toNat < 0x110000 := c.valid
  have hd : d.toNat < 0xD800 ∨ 0xDFFF < d.toNat ∧ d.toNat < 0x110000 := d.valid
  unfold rank at h
  grind [Char.toNat_inj]

/-- **No two patterns are equally specific.** -/
theorem specificity_eq_iff {a b : String} : specificity a b = .eq ↔ a = b := by
  rw [specificity_eq]
  constructor
  · intro h
    rw [compareLex_eq_eq] at h
    have hranks : ranks a = ranks b := Std.LawfulEqCmp.eq_of_compare h.2
    exact String.toList_inj.1 ((List.map_inj_right fun _ _ => rank_inj).1 hranks)
  · rintro rfl
    exact Std.ReflCmp.compare_self

theorem noLessSpecific_antisymm {a b : String} (hab : noLessSpecific a b = true)
    (hba : noLessSpecific b a = true) : a = b :=
  specificity_eq_iff.1 (Std.OrientedCmp.isLE_antisymm hab hba)

/-! ## Sorted patterns -/

/-- A comparison of texts that puts any two different ones in one order. -/
structure StrictTotal (cmp : String → String → Ordering) : Prop where
  /-- The other way round the answer is turned round. -/
  swap : ∀ a b, cmp a b = (cmp b a).swap
  eq_iff : ∀ a b, cmp a b = .eq ↔ a = b
  lt_trans : ∀ a b c, cmp a b = .lt → cmp b c = .lt → cmp a c = .lt
  le_trans : ∀ a b c, cmp a b ≠ .gt → cmp b c ≠ .gt → cmp a c ≠ .gt

theorem strictTotal_specificity : StrictTotal specificity where
  swap := fun _ _ => Std.OrientedCmp.eq_swap
  eq_iff := fun _ _ => specificity_eq_iff
  lt_trans := fun _ _ _ => Std.TransCmp.lt_trans
  le_trans := by
    intro a b c hab hbc
    exact Ordering.isLE_iff_ne_gt.1 (Std.TransCmp.isLE_trans (Ordering.isLE_iff_ne_gt.2 hab)
      (Ordering.isLE_iff_ne_gt.2 hbc))

theorem sorted_sortMostSpecific (patterns : List String) :
    (sortMostSpecific patterns).Pairwise fun a b => noLessSpecific a b = true :=
  List.pairwise_mergeSort noLessSpecific_trans noLessSpecific_total patterns

/-- The order in which patterns are given does not count. -/
theorem sortMostSpecific_congr {xs ys : List String} (h : xs.Perm ys) :
    sortMostSpecific xs = sortMostSpecific ys := by
  have hperm : (sortMostSpecific xs).Perm (sortMostSpecific ys) :=
    (List.mergeSort_perm xs _).trans (h.trans (List.mergeSort_perm ys _).symm)
  exact hperm.eq_of_pairwise (fun _ _ _ _ => noLessSpecific_antisymm)
    (sorted_sortMostSpecific xs) (sorted_sortMostSpecific ys)

/-- **Sorted patterns are canonical.** The order is strict and total on all texts, and of all
ways to list the same patterns sorting makes one list, in which none stands behind a less
specific one. -/
theorem specificity_canonical :
    StrictTotal specificity ∧ ∀ xs ys : List String, xs.Perm ys →
      sortMostSpecific xs = sortMostSpecific ys ∧ (sortMostSpecific xs).Perm xs ∧
        (sortMostSpecific xs).Pairwise fun a b => specificity a b ≠ .gt := by
  refine ⟨strictTotal_specificity, fun xs ys h => ⟨sortMostSpecific_congr h,
    List.mergeSort_perm xs _, ?_⟩⟩
  exact (sorted_sortMostSpecific xs).imp Ordering.isLE_iff_ne_gt.1

/-- Lengths are counted in characters: `/éé` takes more octets than `/e?*` and stands behind
it. -/
theorem specificity_canonical_accents :
    ["/*", "/éé", "/e?*", "/é*"].Perm ["/e?*", "/éé", "/é*", "/*"] ∧
      sortMostSpecific ["/*", "/éé", "/e?*", "/é*"] = ["/e?*", "/éé", "/é*", "/*"] := by
  have hperm : ["/*", "/éé", "/e?*", "/é*"].Perm ["/e?*", "/éé", "/é*", "/*"] := by decide
  have hsorted : ["/e?*", "/éé", "/é*", "/*"].Pairwise fun a b => noLessSpecific a b = true := by
    decide +kernel
  exact ⟨hperm, (specificity_canonical.2 _ _ hperm).1.trans (List.mergeSort_of_pairwise hsorted)⟩

/-! ## Which of two patterns stands behind -/

/-- A shorter pattern stands behind a longer one. -/
theorem not_noLessSpecific_of_length {a b : String} (h : a.length < b.length) :
    noLessSpecific a b = false := by
  have hgt : compare b.length a.length = .gt := Nat.compare_eq_gt.2 h
  unfold noLessSpecific specificity
  rw [hgt]
  rfl

theorem compareRanks_append (common xs ys : List Char) :
    compareRanks (common ++ xs) (common ++ ys) = compareRanks xs ys := by
  induction common with
  | nil => rfl
  | cons c common ih =>
    rw [List.cons_append, List.cons_append, compareRanks, ih, Nat.compare_eq_eq.2 rfl]
    rfl

/-- No character ranks behind the multiple wildcard. -/
theorem rank_lt_multiple {c : Char} (h : c ≠ '*') : rank c < rank '*' := by
  have hmultiple : rank '*' = 0x110001 := rfl
  have hvalid : c.toNat < 0xD800 ∨ 0xDFFF < c.toNat ∧ c.toNat < 0x110000 := c.valid
  rw [hmultiple]
  unfold rank
  split <;> omega

/-- A pattern that ends in the multiple wildcard stands behind the one that
has another character there. -/
theorem not_noLessSpecific_of_last {a b : String} {base : List Char} {c : Char}
    (ha : a.toList = base ++ ['*']) (hb : b.toList = base ++ [c]) (h : c ≠ '*') :
    noLessSpecific a b = false := by
  have hlength : b.length = a.length := by
    rw [← String.length_toList, ← String.length_toList, ha, hb, List.length_append,
      List.length_append]
    rfl
  have hgt : compareRanks ['*'] [c] = .gt := by
    rw [compareRanks, Nat.compare_eq_gt.2 (rank_lt_multiple h)]
    rfl
  unfold noLessSpecific specificity
  rw [Nat.compare_eq_eq.2 hlength, ha, hb, compareRanks_append, hgt]
  rfl

end Pattern

/-! ## The first match -/

namespace Behavior

theorem mayPrecede_trans (a b c : Behavior) :
    a.mayPrecede b = true → b.mayPrecede c = true → a.mayPrecede c = true :=
  Pattern.noLessSpecific_trans a.pattern b.pattern c.pattern

theorem mayPrecede_total (a b : Behavior) : (a.mayPrecede b || b.mayPrecede a) = true :=
  Pattern.noLessSpecific_total a.pattern b.pattern

/-- Behaviours in the order in which they are tried. -/
theorem sorted_mergeSort (behaviors : List Behavior) :
    (behaviors.mergeSort mayPrecede).Pairwise fun a b => mayPrecede a b = true :=
  List.pairwise_mergeSort mayPrecede_trans mayPrecede_total behaviors

/-- **The first match** of sorted behaviours is the one that passes the test, if
no other that passes it may stand before it. -/
theorem find_sorted {behaviors : List Behavior} {test : Behavior → Bool} {b : Behavior}
    (hb : b ∈ behaviors) (htest : test b = true)
    (hfirst : ∀ other ∈ behaviors, test other = true → mayPrecede other b = true → other = b) :
    (behaviors.mergeSort mayPrecede).find? test = some b := by
  have hmem : ∀ other, other ∈ behaviors.mergeSort mayPrecede ↔ other ∈ behaviors :=
    fun _ => List.mem_mergeSort
  obtain ⟨found, hfound⟩ : ∃ found, (behaviors.mergeSort mayPrecede).find? test = some found :=
    Option.isSome_iff_exists.1 (List.find?_isSome.2 ⟨b, (hmem b).2 hb, htest⟩)
  obtain ⟨hpass, earlier, later, heq, hearlier⟩ := List.find?_eq_some_iff_append.1 hfound
  have hsorted := sorted_mergeSort behaviors
  have hplace := (hmem b).2 hb
  rw [heq] at hsorted hplace
  have hbefore : found = b := by
    rcases List.mem_append.1 hplace with hin | hin
    · have hnot := hearlier b hin
      rw [htest] at hnot
      cases hnot
    · rcases List.mem_cons.1 hin with hsame | hlater
      · exact hsame.symm
      · have hle := List.rel_of_pairwise_cons (List.pairwise_append.1 hsorted).2.1 hlater
        refine hfirst found ?_ hpass hle
        rw [← hmem, heq]
        exact List.mem_append_right _ List.mem_cons_self
  rw [hfound, hbefore]

end Behavior

end RouteConvergence
