/-
RouteConvergence.Proofs.SubtreeRoutes — which subtree answers a path.

A subtree covers its root and everything below it. All roots that cover one
path are beginnings of it, so of two of them the shorter is a beginning of
the longer, and trying patterns in the order of their lengths comes to
trying the longest root first. Two things could upset this and do not:

* the pattern below a root is two characters longer than the root, so it
  could stand before the root of a subtree further down. That root goes on
  by a slash and at least one character more, because it has no slash at its
  end (`PathSpec.base_ne_slashed`); this is where paths with two slashes in
  a row are left out.
* of equal length, the root comes first: it has a character where the other
  pattern has its wildcard (`Origins.below_stands_behind`).

`PathSpec.answering` is the one pattern by which a subtree takes a path, and
`Origins.answering_of_accepts` says that nothing else takes a path that is no
exact route.
-/
import Mathlib.Data.Finset.Max
import RouteConvergence.Proofs.ExactRoutes

namespace RouteConvergence

/-! ## What a subtree covers -/

namespace PathSpec

/-- A subtree covers its root and everything below it. -/
def Covers (p : PathSpec) (path : String) : Prop :=
  p.kind = .subtree ∧ (path = p.base ∨ p.base.toList ++ ['/'] <+: path.toList)

instance (p : PathSpec) (path : String) : Decidable (p.Covers path) :=
  inferInstanceAs (Decidable (p.kind = .subtree ∧ (_ ∨ _)))

/-- Nowhere in a path do two slashes follow each other. -/
def SingleSlashed (p : PathSpec) : Prop := ¬ ['/', '/'] <:+: p.path.toList

instance (p : PathSpec) : Decidable p.SingleSlashed :=
  inferInstanceAs (Decidable (¬ _))

/-- The pattern by which a subtree takes a path it covers. -/
def answering (p : PathSpec) (path : String) : String :=
  if path = p.base then p.base else p.base ++ "/*"

variable {p q : PathSpec} {path : String}

/-- A covered path is the root, or goes on by a slash. -/
theorem Covers.cases (h : p.Covers path) :
    path = p.base ∨ ∃ rest, path.toList = p.base.toList ++ '/' :: rest := by
  refine h.2.imp id ?_
  rintro ⟨rest, hrest⟩
  exact ⟨rest, by rw [← hrest, List.append_assoc, List.singleton_append]⟩

theorem covers_of_below (hkind : p.kind = .subtree) {rest : List Char}
    (hrest : path.toList = p.base.toList ++ '/' :: rest) : p.Covers path :=
  ⟨hkind, Or.inr ⟨rest, by rw [hrest, List.append_assoc, List.singleton_append]⟩⟩

/-- What goes on after a root is not the root. -/
theorem ne_base_of_below {rest : List Char} (hrest : path.toList = p.base.toList ++ '/' :: rest) :
    path ≠ p.base := by
  rintro rfl
  have hlength := congrArg List.length hrest
  rw [List.length_append, List.length_cons] at hlength
  omega

/-- A root that covers a path is a beginning of it. -/
theorem Covers.base_isPrefix (h : p.Covers path) : p.base.toList <+: path.toList := by
  rcases h.cases with rfl | ⟨rest, hrest⟩
  · exact List.prefix_refl _
  · rw [hrest]
    exact List.prefix_append _ _

/-- **Roots that cover one path form a chain**: those of one length are the
same. -/
theorem Covers.base_eq (hp : p.Covers path) (hq : q.Covers path)
    (hlength : q.base.length = p.base.length) : q.base = p.base := by
  have hlists : q.base.toList.length = p.base.toList.length := by
    rw [String.length_toList, String.length_toList, hlength]
  have hchain := List.prefix_of_prefix_length_le hq.base_isPrefix hp.base_isPrefix hlists.le
  exact String.toList_inj.1 (hchain.eq_of_length hlists)

/-- A root has no slash at its end if the path has no two slashes in a row. -/
theorem base_ne_slashed (h : p.SingleSlashed) (start : List Char) :
    p.base.toList ≠ start ++ ['/'] := by
  intro hbase
  rw [toList_base, Text.dropFinalSlash] at hbase
  split at hbase
  · rename_i hlast
    -- One slash was taken off, and there is another one before it.
    obtain ⟨front, hfront⟩ := List.getLast?_eq_some_iff.1 hlast
    rw [hfront, List.dropLast_concat] at hbase
    refine h ⟨start, [], ?_⟩
    rw [hfront, hbase]
    simp
  · rename_i hlast
    rw [hbase, List.getLast?_concat] at hlast
    exact hlast rfl

/-- A subtree has the pattern by which it takes a path that begins with a
slash. -/
theorem Covers.answering_mem (h : p.Covers path) (hroot : Text.startsWith path "/" = true) :
    p.answering path ∈ p.patterns := by
  rw [p.mem_patterns_of_subtree h.1]
  unfold answering
  split
  · rename_i hpath
    refine Or.inl ⟨fun hslash => ?_, rfl⟩
    -- The root of everything is empty, and the path is not.
    have hempty : p.base = "" := by
      rw [base, hslash]
      rfl
    rw [hpath, hempty] at hroot
    cases hroot
  · exact Or.inr rfl

theorem Covers.accepts_answering (h : p.Covers path) (hplain : p.Plain) :
    Pattern.accepts (p.answering path) path = true := by
  unfold answering
  rcases h.cases with hpath | ⟨rest, hrest⟩
  · rw [if_pos hpath]
    exact (Pattern.accepts_plain_iff hplain.base).2 hpath
  · rw [if_neg (ne_base_of_below hrest)]
    exact (Pattern.accepts_below_iff hplain.base).2 ⟨rest, hrest⟩

/-- **Of two subtrees around a path** the pattern of the one further up stands
behind the pattern of the one further down. -/
theorem Covers.stands_behind (hp : p.Covers path) (hq : q.Covers path) (hplain : p.Plain)
    (hslashes : p.SingleSlashed) (hlength : q.base.length < p.base.length) :
    Pattern.noLessSpecific (q.answering path) (p.answering path) = false := by
  have hne : path ≠ q.base := by
    rintro rfl
    have hle := hp.base_isPrefix.length_le
    rw [String.length_toList, String.length_toList] at hle
    omega
  obtain ⟨rest, hrest⟩ := hq.cases.resolve_left hne
  unfold answering
  rw [if_neg hne]
  split
  · rename_i hpath
    rw [hpath] at hrest
    refine Origins.below_stands_behind hrest hplain.base ?_
    rintro rfl
    exact base_ne_slashed hslashes _ hrest
  · refine Pattern.not_noLessSpecific_of_length ?_
    rw [String.length_append, String.length_append]
    omega

end PathSpec

/-! ## The longest root -/

/-- A member has a subtree that covers a path, and no member has one with a
longer root. -/
structure Descriptor.CoversLongest (members : List Descriptor) (path : String) (n : Descriptor)
    (p : PathSpec) : Prop where
  member : n ∈ members
  declared : p ∈ n.paths
  covers : p.Covers path
  longest : ∀ m ∈ members, ∀ q ∈ m.paths, q.Covers path → q.base.length ≤ p.base.length

/-- If a path is covered at all, one of the roots is the longest. -/
theorem Descriptor.exists_coversLongest {members : List Descriptor} {path : String}
    {m : Descriptor} (hm : m ∈ members) {q : PathSpec} (hq : q ∈ m.paths)
    (hcovers : q.Covers path) : ∃ n p, CoversLongest members path n p := by
  let covering := ((members.flatMap (·.paths)).filter fun p => p.Covers path).toFinset
  have hmem : ∀ p, p ∈ covering ↔ (∃ n ∈ members, p ∈ n.paths) ∧ p.Covers path := by
    intro p
    simp [covering]
  obtain ⟨p, hp, hlongest⟩ := covering.exists_max_image (·.base.length)
    ⟨q, (hmem q).2 ⟨⟨m, hm, hq⟩, hcovers⟩⟩
  obtain ⟨⟨n, hn, hdeclared⟩, hp⟩ := (hmem p).1 hp
  exact ⟨n, p, hn, hdeclared, hp,
    fun m hm q hq hcovers => hlongest q ((hmem q).2 ⟨⟨m, hm, hq⟩, hcovers⟩)⟩

namespace Origins

variable {members : List Descriptor} {origins : List Origin} {path : String}

/-- **Only subtrees take a path that is no exact route**, each by one pattern. -/
theorem answering_of_accepts (h : ofMembers members = .ok origins)
    (hplain : ∀ member ∈ members, ∀ p ∈ member.paths, p.Plain)
    (hexact : ∀ member ∈ members, ∀ p ∈ member.paths, p.kind = .exact → p.path ≠ path)
    {b : Behavior} (hb : b ∈ origins.flatMap (·.behaviors))
    (haccepts : Pattern.accepts b.pattern path = true) :
    ∃ member ∈ members, ∃ p ∈ member.paths, p.Covers path ∧ b.pattern = p.answering path := by
  obtain ⟨member, hmember, hpattern, -⟩ := (mem_behaviors_iff h b).1 hb
  obtain ⟨p, hp, hmem⟩ := List.mem_flatMap.1 hpattern
  have hpath := hplain member hmember p hp
  refine ⟨member, hmember, p, hp, ?_⟩
  cases hkind : p.kind with
  | exact =>
    rw [p.mem_patterns_of_exact hkind] at hmem
    rw [hmem, Pattern.accepts_plain_iff hpath] at haccepts
    exact absurd haccepts.symm (hexact member hmember p hp hkind)
  | subtree =>
    unfold PathSpec.answering
    rcases (p.mem_patterns_of_subtree hkind _).1 hmem with ⟨-, hroot⟩ | hbelow
    · rw [hroot, Pattern.accepts_plain_iff hpath.base] at haccepts
      rw [if_pos haccepts]
      exact ⟨⟨hkind, Or.inl haccepts⟩, hroot⟩
    · rw [hbelow, Pattern.accepts_below_iff hpath.base] at haccepts
      obtain ⟨rest, hrest⟩ := haccepts
      rw [if_neg (PathSpec.ne_base_of_below hrest)]
      exact ⟨PathSpec.covers_of_below hkind hrest, hbelow⟩

/-- **The longest root answers first.** -/
theorem longest_answer (h : ofMembers members = .ok origins)
    (hplain : ∀ member ∈ members, ∀ p ∈ member.paths, p.Plain)
    (hslashes : ∀ member ∈ members, ∀ p ∈ member.paths, p.SingleSlashed)
    (hexact : ∀ member ∈ members, ∀ p ∈ member.paths, p.kind = .exact → p.path ≠ path)
    (hroot : Text.startsWith path "/" = true) {n : Descriptor} {p : PathSpec}
    (hlongest : Descriptor.CoversLongest members path n p) :
    ((origins.flatMap (·.behaviors)).mergeSort Behavior.mayPrecede).find?
      (fun b => Pattern.accepts b.pattern path) = some (behaviorOf n (p.answering path)) := by
  obtain ⟨hn, hp, hcovers, hlongest⟩ := hlongest
  have hanswers : behaviorOf n (p.answering path) ∈ origins.flatMap (·.behaviors) :=
    (mem_behaviors_iff h _).2
      ⟨n, hn, List.mem_flatMap.2 ⟨p, hp, hcovers.answering_mem hroot⟩, rfl⟩
  refine Behavior.find_sorted hanswers (hcovers.accepts_answering (hplain n hn p hp)) ?_
  intro other hother haccepts hbefore
  obtain ⟨m, hm, q, hq, hqcovers, hpattern⟩ :=
    answering_of_accepts h hplain hexact hother haccepts
  rcases Nat.lt_or_eq_of_le (hlongest m hm q hq hqcovers) with hshorter | hequal
  · have hbehind :=
      hcovers.stands_behind hqcovers (hplain n hn p hp) (hslashes n hn p hp) hshorter
    rw [← hpattern] at hbehind
    exact absurd hbefore (Bool.eq_false_iff.1 hbehind)
  · -- The same root gives the same pattern, and a pattern leads one way only.
    refine eq_of_pattern h hother hanswers (hpattern.trans ?_)
    unfold PathSpec.answering
    rw [hcovers.base_eq hqcovers hequal]
    rfl

/-- Nothing answers a path that is neither covered nor an exact route. -/
theorem uncovered_answer (h : ofMembers members = .ok origins)
    (hplain : ∀ member ∈ members, ∀ p ∈ member.paths, p.Plain)
    (hexact : ∀ member ∈ members, ∀ p ∈ member.paths, p.kind = .exact → p.path ≠ path)
    (huncovered : ∀ member ∈ members, ∀ p ∈ member.paths, ¬ p.Covers path) :
    ((origins.flatMap (·.behaviors)).mergeSort Behavior.mayPrecede).find?
      (fun b => Pattern.accepts b.pattern path) = none := by
  refine List.find?_eq_none.2 fun b hb haccepts => ?_
  obtain ⟨member, hmember, p, hp, hcovers, -⟩ :=
    answering_of_accepts h hplain hexact (List.mem_mergeSort.1 hb) haccepts
  exact huncovered member hmember p hp hcovers

end Origins

namespace Model

/-- **Longest-root routing**: a path that is no exact route is answered by every
member that covers it with the longest root, there is one if the path is covered
at all, and else nothing answers it. This is so for all descriptors without
wildcards and without two slashes in a row in their paths, whenever they can be
gathered and built. -/
theorem behaviorFor_longest (settings : Settings) (now : Instant) (directory : List Certificate)
    (name : GroupName) (descriptors : List Descriptor) (group : Group)
    (hgroup : Group.aggregate name descriptors = .ok group) (identity : Option Identity)
    (model : Model) (hmodel : build settings now directory group identity = .ok model)
    (hplain : ∀ d ∈ descriptors, ∀ p ∈ d.paths, p.Plain)
    (hslashes : ∀ d ∈ descriptors, ∀ p ∈ d.paths, p.SingleSlashed) (path : String)
    (hroot : Text.startsWith path "/" = true)
    (hexact : ∀ m ∈ group.members, ∀ p ∈ m.paths, p.kind = .exact → p.path ≠ path) :
    (∀ n p, Descriptor.CoversLongest group.members path n p →
        model.behaviorFor path = some (Origins.behaviorOf n (p.answering path))) ∧
      ((∃ m ∈ group.members, ∃ q ∈ m.paths, q.Covers path) →
        ∃ n p, Descriptor.CoversLongest group.members path n p) ∧
      ((∀ m ∈ group.members, ∀ q ∈ m.paths, ¬ q.Covers path) →
        model.behaviorFor path = none) := by
  have horigins := ofMembers_of_build hmodel
  have hmembers : ∀ member ∈ group.members, ∀ p ∈ member.paths, p.Plain :=
    fun member hmember => hplain member (Group.mem_of_mem_members hgroup hmember)
  have hsingle : ∀ member ∈ group.members, ∀ p ∈ member.paths, p.SingleSlashed :=
    fun member hmember => hslashes member (Group.mem_of_mem_members hgroup hmember)
  refine ⟨fun n p => Origins.longest_answer horigins hmembers hsingle hexact hroot, ?_,
    Origins.uncovered_answer horigins hmembers hexact⟩
  rintro ⟨m, hm, q, hq, hcovers⟩
  exact Descriptor.exists_coversLongest hm hq hcovers

end Model

/-! ## Some documents

A route for documents below one letter, alone and beside a site that answers
everything. The root of the documents is as long as the pattern of the site. -/

/-- A route for everything below `/d`. -/
def Descriptor.documents : Descriptor :=
  { Descriptor.bare ⟨"web", "docs"⟩ "public" with
    originHost := "docs.internal"
    provisioned := true
    paths := [⟨"/d/", .subtree⟩] }

namespace Model

/-- The documents answer from their root on, the site answers the rest, and
without the site nobody does. -/
theorem behaviorFor_longest_documents :
    ∃ both alone beside without,
      Group.aggregate "public" [.documents, .wholeSite] = .ok both ∧
      Group.aggregate "public" [.documents] = .ok alone ∧
      build default .someNoon [] both none = .ok beside ∧
      build default .someNoon [] alone none = .ok without ∧
      beside.behaviorFor "/d" = some (Origins.behaviorOf .documents "/d") ∧
      beside.behaviorFor "/e" = some (Origins.behaviorOf .wholeSite "/*") ∧
      without.behaviorFor "/e" = none := by
  let both : Group := ⟨"public", [.documents, .wholeSite], none⟩
  let alone : Group := ⟨"public", [.documents], none⟩
  have hboth : Group.aggregate "public" [.documents, .wholeSite] = .ok both := by cbv
  have halone : Group.aggregate "public" [.documents] = .ok alone := by cbv
  obtain ⟨beside, hbeside⟩ : ∃ model, build default .someNoon [] both none = .ok model :=
    Outcome.isOk_iff_exists.1 (by cbv)
  obtain ⟨without, hwithout⟩ : ∃ model, build default .someNoon [] alone none = .ok model :=
    Outcome.isOk_iff_exists.1 (by cbv)
  have hanswer := behaviorFor_longest default .someNoon [] "public" [.documents, .wholeSite] both
    hboth none beside hbeside (by decide +kernel) (by decide +kernel)
  have hnothing := behaviorFor_longest default .someNoon [] "public" [.documents] alone
    halone none without hwithout (by decide +kernel) (by decide +kernel) "/e" rfl
    (by decide +kernel)
  refine ⟨both, alone, beside, without, hboth, halone, hbeside, hwithout, ?_, ?_, ?_⟩
  · exact (hanswer "/d" rfl (by decide +kernel)).1 .documents ⟨"/d/", .subtree⟩
      ⟨by decide +kernel, by decide +kernel, by decide +kernel, by decide +kernel⟩
  · exact (hanswer "/e" rfl (by decide +kernel)).1 .wholeSite ⟨"/", .subtree⟩
      ⟨by decide +kernel, by decide +kernel, by decide +kernel, by decide +kernel⟩
  · exact hnothing.2.2 (by decide +kernel)

end Model

end RouteConvergence
