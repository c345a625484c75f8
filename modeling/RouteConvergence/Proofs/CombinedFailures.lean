/-
RouteConvergence.Proofs.CombinedFailures — failures combined level by level.

A cycle combines the failures of its steps, and what a step reports may be
a combination already. How often failures were combined on the way, and in
which groups, is not to be seen in the end.

* `Failure.isSingle` — a failure that is no list of others.
* `Failure.Combination` — single failures, combined in any grouping, some
  groups with one member or none.
* `Failure.Combination.parts_result` — the invariant: what a combination
  stands for are its leaves. Combining keeps it because single failures are
  neither wrapped nor dropped (`Failure.parts_combine`).
* `Failure.Combination.result_flat` — a combination is that of its leaves,
  in their order and on one level.
-/
import RouteConvergence.Failure

namespace RouteConvergence

namespace Failure

/-! ## Single failures -/

/-- Whether a failure stands for itself alone. -/
def isSingle : Failure → Bool
  | .cycle _ => false
  | _ => true

theorem parts_of_isSingle {f : Failure} (h : f.isSingle = true) : f.parts = [f] := by
  cases f <;> first | rfl | cases h

/-- Failures that stand for themselves are what they stand for together. -/
theorem flatMap_parts {fs : List Failure} (h : ∀ f ∈ fs, f.parts = [f]) :
    fs.flatMap parts = fs := by
  rw [List.flatMap_def, List.map_congr_left h, ← List.flatMap_def, List.flatMap_singleton' fs]

/-- **Combining loses nothing and adds nothing**: a combination stands for what
the combined failures stand for, as long as they do not nest any deeper. -/
theorem parts_combine {fs : List Failure} (h : ∀ f ∈ fs.flatMap parts, f.parts = [f]) :
    (combine fs).parts = fs.flatMap parts := by
  unfold combine
  split
  · next f hf =>
    rw [hf]
    exact h f (by rw [hf]; exact List.mem_singleton_self f)
  · rfl

theorem message_cycle (fs : List Failure) :
    (cycle fs).message = Text.joinWith "; " (fs.map message) := by
  rw [← messages_eq_map]
  rfl

/-! ## Combinations -/

/-- Failures combined in any grouping. -/
inductive Combination
  | leaf (failure : Failure) (single : failure.isSingle = true)
  | node (children : List Combination)

namespace Combination

mutual

/-- The single failures of a combination, from left to right. -/
def leaves : Combination → List Failure
  | .leaf failure _ => [failure]
  | .node children => leavesOf children

/-- The single failures of several combinations in order. -/
def leavesOf : List Combination → List Failure
  | [] => []
  | c :: rest => c.leaves ++ leavesOf rest

end

mutual

/-- The failure a combination comes to if every group is combined by itself. -/
def result : Combination → Failure
  | .leaf failure _ => failure
  | .node children => combine (resultsOf children)

/-- What several combinations come to, in order. -/
def resultsOf : List Combination → List Failure
  | [] => []
  | c :: rest => c.result :: resultsOf rest

end

/-! ### What a combination stands for -/

mutual

theorem isSingle_of_mem_leaves : ∀ {c : Combination} {f : Failure}, f ∈ c.leaves →
    f.isSingle = true
  | .leaf failure single, f, h => by
    rw [leaves, List.mem_singleton] at h
    rwa [h]
  | .node children, f, h => by
    rw [leaves] at h
    exact isSingle_of_mem_leavesOf h

theorem isSingle_of_mem_leavesOf : ∀ {cs : List Combination} {f : Failure}, f ∈ leavesOf cs →
    f.isSingle = true
  | [], f, h => by
    rw [leavesOf] at h
    exact absurd h List.not_mem_nil
  | c :: rest, f, h => by
    rw [leavesOf, List.mem_append] at h
    rcases h with h | h
    · exact isSingle_of_mem_leaves h
    · exact isSingle_of_mem_leavesOf h

end

mutual

/-- **What a combination stands for are its leaves**, however they are
grouped. -/
theorem parts_result : ∀ c : Combination, c.result.parts = c.leaves
  | .leaf failure single => by
    rw [result, leaves, parts_of_isSingle single]
  | .node children => by
    have hleaves := flatMap_parts_resultsOf children
    rw [result, leaves, parts_combine, hleaves]
    rw [hleaves]
    exact fun f hf => parts_of_isSingle (isSingle_of_mem_leavesOf hf)

theorem flatMap_parts_resultsOf : ∀ cs : List Combination,
    (resultsOf cs).flatMap parts = leavesOf cs
  | [] => by
    rw [resultsOf, leavesOf, List.flatMap_nil]
  | c :: rest => by
    rw [resultsOf, leavesOf, List.flatMap_cons, parts_result c, flatMap_parts_resultsOf rest]

end

theorem flatMap_parts_leaves (c : Combination) : c.leaves.flatMap parts = c.leaves :=
  flatMap_parts fun _ hf => parts_of_isSingle (isSingle_of_mem_leaves hf)

/-- Combining the leaves at once comes to the same. -/
theorem combine_leaves (c : Combination) : combine c.leaves = c.result := by
  have hflat := flatMap_parts_leaves c
  cases c with
  | leaf failure single =>
    rw [combine, hflat]
    rw [leaves, result]
  | node children =>
    rw [combine, hflat, result, combine, flatMap_parts_resultsOf, leaves]

/-- **Combining failures flattens them.** However single failures are grouped,
with empty groups and groups of one among them, they come to what combining
them at once comes to: a lone one to itself, and any other number to one
list of exactly these failures in order, with no list inside. The wording
is theirs, separated by semicolons. -/
theorem result_flat (c : Combination) :
    c.result = combine c.leaves ∧
      (∀ f, c.leaves = [f] → c.result = f) ∧
      (c.leaves.length ≠ 1 → c.result = .cycle c.leaves) ∧
      (∀ fs, c.result = .cycle fs → ∀ f ∈ fs, f.isSingle = true) ∧
      c.result.message = Text.joinWith "; " (c.leaves.map message) := by
  have hflat := flatMap_parts_leaves c
  have hone : ∀ f, c.leaves = [f] → c.result = f := by
    intro f hf
    rw [← combine_leaves, combine, hflat, hf]
  have hmany : c.leaves.length ≠ 1 → c.result = .cycle c.leaves := by
    intro hlength
    rw [← combine_leaves, combine, hflat]
    split
    · next f hf =>
      rw [hf] at hlength
      exact absurd rfl hlength
    · rfl
  refine ⟨(combine_leaves c).symm, hone, hmany, ?_, ?_⟩
  · intro fs hfs f hf
    have hleaves : fs = c.leaves := by
      rw [← parts_result, hfs, parts]
    exact isSingle_of_mem_leaves (hleaves ▸ hf)
  · by_cases hlength : c.leaves.length = 1
    · obtain ⟨f, hf⟩ := List.length_eq_one_iff.1 hlength
      rw [hone f hf, hf, List.map_singleton, Text.joinWith]
    · rw [hmany hlength, message_cycle]

/-- A group in a group, beside an empty one. -/
example :
    let first : Failure := .build (.stated "a")
    let second : Failure := .notFound "status" "b"
    let third : Failure := .document .json
    (node [node [leaf first rfl], node [], node [node [leaf second rfl, leaf third rfl]]]).result =
      .cycle [first, second, third] := rfl

end Combination

end Failure

end RouteConvergence
