/-
RouteConvergence.Proofs.ExactRoutes — which behaviour answers an exact
path.

Where no path has a wildcard, the only patterns that take a path besides
the path itself are those of subtrees around it. Such a pattern is shorter
than the path, or as long with a wildcard where the path has a character,
and stands behind it, with one exception: the pattern of a subtree whose
root is the path without its final slash is the path and a wildcard, so it
is longer and stands before (`PathSpec.Overtakes`).

* `Pattern.matches_plain_iff` — what a pattern without wildcards takes.
* `Origins.exact_answer`, `Origins.overtaken_answer` — the first match, with
  no such subtree and with one.
-/
import Mathlib.Data.List.Permutation
import RouteConvergence.Proofs.History
import RouteConvergence.Proofs.RoutedPatterns
import RouteConvergence.Proofs.SpecificityOrder
import RouteConvergence.Proofs.SubtreeLanguage

namespace RouteConvergence

namespace Pattern

/-! ## Plain patterns -/

/-- Every character stands for itself. -/
def Plain (cs : List Char) : Prop := ∀ c ∈ cs, Descriptor.isWildcard c = false

instance (cs : List Char) : Decidable (Plain cs) :=
  List.decidableBAll (fun c => Descriptor.isWildcard c = false) cs

/-- **A plain pattern** takes itself only. -/
theorem matches_plain_iff {p s : List Char} (hp : Plain p) : Matches p s ↔ s = p := by
  induction p generalizing s with
  | nil => exact matches_nil_iff
  | cons c p ih =>
    have hc := hp c List.mem_cons_self
    simp only [Descriptor.isWildcard, Bool.or_eq_false_iff, beq_eq_false_iff_ne] at hc
    have hrest : ∀ rest, Matches p rest ↔ rest = p :=
      fun _ => ih fun x hx => hp x (List.mem_cons_of_mem c hx)
    rw [matches_same_iff hc.2 hc.1]
    simp only [hrest, exists_eq_right]

theorem accepts_plain_iff {pattern path : String} (h : Plain pattern.toList) :
    accepts pattern path = true ↔ path = pattern := by
  rw [accepts, takes_iff, matches_plain_iff h, String.toList_inj]

/-- The pattern below a plain root takes what begins with the root and a
slash. -/
theorem accepts_below_iff {base path : String} (h : Plain base.toList) :
    accepts (base ++ "/*") path = true ↔ ∃ rest, path.toList = base.toList ++ '/' :: rest := by
  have hbelow : (base ++ "/*").toList = base.toList ++ ['/', '*'] := String.toList_append
  rw [accepts, takes_iff, hbelow, matches_below_iff]
  constructor
  · rintro ⟨front, rest, hpath, hfront⟩
    exact ⟨rest, (matches_plain_iff h).1 hfront ▸ hpath⟩
  · rintro ⟨rest, hpath⟩
    exact ⟨base.toList, rest, hpath, (matches_plain_iff h).2 rfl⟩

end Pattern

/-! ## The patterns of a path -/

namespace PathSpec

/-- A path without wildcards. -/
def Plain (p : PathSpec) : Prop := Pattern.Plain p.path.toList

instance (p : PathSpec) : Decidable p.Plain :=
  inferInstanceAs (Decidable (Pattern.Plain p.path.toList))

/-- A subtree whose root is a path but for the slash at its end. -/
def Overtakes (p : PathSpec) (path : String) : Prop :=
  p.kind = .subtree ∧ p.base ++ "/" = path

instance (p : PathSpec) (path : String) : Decidable (p.Overtakes path) :=
  inferInstanceAs (Decidable (p.kind = .subtree ∧ p.base ++ "/" = path))

/-- The root of a plain subtree is plain. -/
theorem Plain.base {p : PathSpec} (h : p.Plain) : Pattern.Plain p.base.toList := by
  intro c hc
  rw [toList_base, Text.dropFinalSlash] at hc
  split at hc
  · exact h c (List.dropLast_subset _ hc)
  · exact h c hc

end PathSpec

namespace Origins

/-! ## The first match -/

variable {members : List Descriptor} {origins : List Origin}

/-- A behaviour that takes a plain path is that of the path itself, or that of
what is below a subtree around it. -/
theorem pattern_of_accepts (h : ofMembers members = .ok origins)
    (hplain : ∀ member ∈ members, ∀ p ∈ member.paths, p.Plain) {path : String} {b : Behavior}
    (hb : b ∈ origins.flatMap (·.behaviors)) (haccepts : Pattern.accepts b.pattern path = true) :
    b.pattern = path ∨ ∃ member ∈ members, ∃ p ∈ member.paths, p.kind = .subtree ∧
      b.pattern = p.base ++ "/*" ∧ ∃ rest, path.toList = p.base.toList ++ '/' :: rest := by
  obtain ⟨member, hmember, hpattern, -⟩ := (mem_behaviors_iff h b).1 hb
  obtain ⟨p, hp, hmem⟩ := List.mem_flatMap.1 hpattern
  have hpath := hplain member hmember p hp
  cases hkind : p.kind with
  | exact =>
    rw [p.mem_patterns_of_exact hkind] at hmem
    rw [hmem, Pattern.accepts_plain_iff hpath] at haccepts
    exact Or.inl (hmem.trans haccepts.symm)
  | subtree =>
    rcases (p.mem_patterns_of_subtree hkind _).1 hmem with ⟨-, hroot⟩ | hbelow
    · rw [hroot, Pattern.accepts_plain_iff hpath.base] at haccepts
      exact Or.inl (hroot.trans haccepts.symm)
    · rw [hbelow, Pattern.accepts_below_iff hpath.base] at haccepts
      exact Or.inr ⟨member, hmember, p, hp, hkind, hbelow, haccepts⟩

/-- A behaviour below a subtree stands behind a path that goes further. -/
theorem below_stands_behind {base path : String} {rest : List Char}
    (hpath : path.toList = base.toList ++ '/' :: rest) (hplain : Pattern.Plain path.toList)
    (hrest : rest ≠ []) : Pattern.noLessSpecific (base ++ "/*") path = false := by
  have hlength : (base ++ "/*").length = base.length + 2 := by
    rw [String.length_append]
    rfl
  have hpathLength : path.length = base.length + 1 + rest.length := by
    rw [← String.length_toList, hpath, List.length_append, List.length_cons, String.length_toList]
    omega
  cases rest with
  | nil => exact absurd rfl hrest
  | cons c rest =>
    cases rest with
    | cons d rest =>
      -- The path is longer.
      refine Pattern.not_noLessSpecific_of_length ?_
      rw [hlength, hpathLength]
      simp only [List.length_cons]
      omega
    | nil =>
      -- Both are equally long, and the path has a character at the end.
      have hc : c ≠ '*' := by
        rintro rfl
        have hwild := hplain '*' (by rw [hpath]; simp)
        cases hwild
      have hwildcard : (base ++ "/*").toList = (base.toList ++ ['/']) ++ ['*'] := by
        rw [String.toList_append, List.append_assoc]
        rfl
      refine Pattern.not_noLessSpecific_of_last hwildcard ?_ hc
      rw [hpath, List.append_assoc]
      rfl

/-- **An exact path is answered by its own behaviour** if no subtree overtakes
it. -/
theorem exact_answer (h : ofMembers members = .ok origins)
    (hplain : ∀ member ∈ members, ∀ p ∈ member.paths, p.Plain) {m : Descriptor}
    (hm : m ∈ members) {e : PathSpec} (he : e ∈ m.paths) (hexact : e.kind = .exact)
    (hfree : ∀ n ∈ members, ∀ p ∈ n.paths, ¬ p.Overtakes e.path) :
    ((origins.flatMap (·.behaviors)).mergeSort Behavior.mayPrecede).find?
      (fun b => Pattern.accepts b.pattern e.path) = some (behaviorOf m e.path) := by
  have hown : behaviorOf m e.path ∈ origins.flatMap (·.behaviors) :=
    (mem_behaviors_iff h _).2 ⟨m, hm, List.mem_flatMap.2
      ⟨e, he, (e.mem_patterns_of_exact hexact _).2 rfl⟩, rfl⟩
  have hpath := hplain m hm e he
  refine Behavior.find_sorted hown ((Pattern.accepts_plain_iff hpath).2 rfl) ?_
  intro other hother haccepts hbefore
  rcases pattern_of_accepts h hplain hother haccepts with
    hsame | ⟨n, hn, p, hp, hkind, hbelow, rest, hrest⟩
  · exact eq_of_pattern h hother hown hsame
  · exfalso
    by_cases hnil : rest = []
    · refine hfree n hn p hp ⟨hkind, String.toList_inj.1 ?_⟩
      rw [String.toList_append, hrest, hnil]
      rfl
    · have hbehind := below_stands_behind hrest hpath hnil
      rw [← hbelow] at hbehind
      exact Bool.eq_false_iff.1 hbehind hbefore

/-- **A path that a subtree overtakes** is answered by what is below the
subtree's root. -/
theorem overtaken_answer (h : ofMembers members = .ok origins)
    (hplain : ∀ member ∈ members, ∀ p ∈ member.paths, p.Plain) {n : Descriptor}
    (hn : n ∈ members) {p : PathSpec} (hp : p ∈ n.paths) {path : String}
    (hovertakes : p.Overtakes path) :
    ((origins.flatMap (·.behaviors)).mergeSort Behavior.mayPrecede).find?
      (fun b => Pattern.accepts b.pattern path) = some (behaviorOf n (path ++ "*")) := by
  obtain ⟨hkind, rfl⟩ := hovertakes
  have hpattern : p.base ++ "/" ++ "*" = p.base ++ "/*" := by
    rw [String.append_assoc]
    rfl
  rw [hpattern]
  have hlength : (p.base ++ "/").length < (p.base ++ "/*").length := by
    rw [String.length_append, String.length_append]
    exact Nat.lt_succ_self _
  have hbelow : behaviorOf n (p.base ++ "/*") ∈ origins.flatMap (·.behaviors) :=
    (mem_behaviors_iff h _).2 ⟨n, hn, List.mem_flatMap.2
      ⟨p, hp, (p.mem_patterns_of_subtree hkind _).2 (Or.inr rfl)⟩, rfl⟩
  refine Behavior.find_sorted hbelow
    ((Pattern.accepts_below_iff (hplain n hn p hp).base).2 ⟨[], ?_⟩) ?_
  · rw [String.toList_append]
    rfl
  · intro other hother haccepts hbefore
    replace hbefore : Pattern.noLessSpecific other.pattern (p.base ++ "/*") = true := hbefore
    rcases pattern_of_accepts h hplain hother haccepts with
      hsame | ⟨-, -, q, -, -, hwild, rest, hrest⟩
    · rw [hsame, Pattern.not_noLessSpecific_of_length hlength] at hbefore
      cases hbefore
    · by_cases hlonger : q.base.length < p.base.length
      · -- A subtree further up has the shorter pattern.
        have hshorter : (q.base ++ "/*").length < (p.base ++ "/*").length := by
          rw [String.length_append, String.length_append]
          omega
        rw [hwild, Pattern.not_noLessSpecific_of_length hshorter] at hbefore
        cases hbefore
      · have hcommon : p.base.toList ++ ['/'] = q.base.toList ++ '/' :: rest := by
          rw [← hrest, String.toList_append]
          rfl
        have hlengths := congrArg List.length hcommon
        simp only [List.length_append, List.length_cons, List.length_nil,
          String.length_toList] at hlengths
        have hbase : p.base.toList = q.base.toList := by
          refine (List.append_inj hcommon ?_).1
          rw [String.length_toList, String.length_toList]
          omega
        refine eq_of_pattern h hother hbelow ?_
        rw [hwild, ← String.toList_inj.1 hbase]
        rfl

end Origins

/-! ## The answer of a group's model -/

namespace Group

theorem mem_of_mem_members {name : GroupName} {ds : List Descriptor} {group : Group}
    (h : aggregate name ds = .ok group) {member : Descriptor} (hmember : member ∈ group.members) :
    member ∈ ds := by
  rw [(aggregate_eq_ok h).2] at hmember
  exact (isMemberOf_of_mem_membersOf hmember).1

end Group

namespace Model

/-- **Exact routes are answered by their own behaviour** unless a subtree
overtakes them, and then by what is below that subtree: for all descriptors
without wildcards in their paths, whenever they can be gathered and built. -/
theorem behaviorFor_exact (settings : Settings) (now : Instant) (directory : List Certificate)
    (name : GroupName) (descriptors : List Descriptor) (group : Group)
    (hgroup : Group.aggregate name descriptors = .ok group) (identity : Option Identity)
    (model : Model) (hmodel : build settings now directory group identity = .ok model)
    (hplain : ∀ d ∈ descriptors, ∀ p ∈ d.paths, p.Plain) (m : Descriptor)
    (hm : m ∈ group.members) (e : PathSpec) (he : e ∈ m.paths) (hexact : e.kind = .exact) :
    ((∀ n ∈ group.members, ∀ p ∈ n.paths, ¬ p.Overtakes e.path) →
        model.behaviorFor e.path = some (Origins.behaviorOf m e.path)) ∧
      ∀ n ∈ group.members, ∀ p ∈ n.paths, p.Overtakes e.path →
        model.behaviorFor e.path = some (Origins.behaviorOf n (e.path ++ "*")) := by
  have horigins := ofMembers_of_build hmodel
  have hmembers : ∀ member ∈ group.members, ∀ p ∈ member.paths, p.Plain :=
    fun member hmember => hplain member (Group.mem_of_mem_members hgroup hmember)
  exact ⟨Origins.exact_answer horigins hmembers hm he hexact,
    fun n hn p hp => Origins.overtaken_answer horigins hmembers hn hp⟩

end Model

/-! ## A front page

A front page at the root, and a site that answers everything. -/

/-- A route for the root alone and for one more path. -/
def Descriptor.frontPage : Descriptor :=
  { Descriptor.bare ⟨"web", "front"⟩ "public" with
    originHost := "front.internal"
    provisioned := true
    paths := [⟨"/health", .exact⟩, ⟨"/", .exact⟩] }

/-- A route for everything. -/
def Descriptor.wholeSite : Descriptor :=
  { Descriptor.bare ⟨"web", "site"⟩ "public" with
    originHost := "site.internal"
    provisioned := true
    paths := [⟨"/", .subtree⟩] }

namespace Model

/-- The whole site overtakes the front page and nothing else. -/
theorem behaviorFor_exact_front :
    ∃ group model, Group.aggregate "public" [.frontPage, .wholeSite] = .ok group ∧
      build default .someNoon [] group none = .ok model ∧
      model.behaviorFor "/health" = some (Origins.behaviorOf .frontPage "/health") ∧
      model.behaviorFor "/" = some (Origins.behaviorOf .wholeSite "/*") := by
  let group : Group := ⟨"public", [.frontPage, .wholeSite], none⟩
  have hgroup : Group.aggregate "public" [.frontPage, .wholeSite] = .ok group := by cbv
  obtain ⟨model, hmodel⟩ : ∃ model, build default .someNoon [] group none = .ok model :=
    Outcome.isOk_iff_exists.1 (by cbv)
  have hanswer := behaviorFor_exact default .someNoon [] "public" [.frontPage, .wholeSite] group
    hgroup none model hmodel (by decide +kernel) .frontPage List.mem_cons_self
  refine ⟨group, model, hgroup, hmodel, ?_, ?_⟩
  · exact (hanswer ⟨"/health", .exact⟩ (by decide +kernel) rfl).1 (by decide +kernel)
  · exact (hanswer ⟨"/", .exact⟩ (by decide +kernel) rfl).2 .wholeSite (by decide +kernel)
      ⟨"/", .subtree⟩ (by decide +kernel) (by decide +kernel)

/-- **An exact route can be shadowed**: the root belongs to the front page, both
routes are well-formed and without wildcards, and the root is answered by the
whole site. -/
theorem front_page_shadowed :
    Descriptor.frontPage.validate = .ok () ∧ Descriptor.wholeSite.validate = .ok () ∧
      (∀ d ∈ [Descriptor.frontPage, .wholeSite], ∀ p ∈ d.paths, p.Plain) ∧
      ⟨"/", .exact⟩ ∈ Descriptor.frontPage.paths ∧
      (Group.model default .someNoon [] "public" [.frontPage, .wholeSite]).map
        (fun model => (model.behaviorFor "/").map (·.target)) = .ok (some "site.internal") := by
  refine ⟨Outcome.isOk_iff.1 (by decide +kernel), Outcome.isOk_iff.1 (by decide +kernel),
    by decide +kernel, by decide +kernel, ?_⟩
  cbv

end Model

end RouteConvergence
