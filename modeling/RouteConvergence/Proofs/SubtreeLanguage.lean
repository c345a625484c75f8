/-
RouteConvergence.Proofs.SubtreeLanguage — which requests a subtree takes.

A distribution knows no subtrees, so one is written as two patterns: its root,
and its root with a slash and the multiple wildcard behind. The root may have
wildcards itself. What two patterns one behind the other take is what the first
takes followed by what the second takes (`Pattern.matches_append_iff`), whatever
is in them, and so the two patterns of a subtree come to one rule:

* `PathSpec.subtree_language` — a subtree takes a request if its root takes a
  beginning of it, and nothing or a slash comes next.

The subtree of everything is written as one pattern. Its root is empty, and would
take the empty request only.
-/
import RouteConvergence.Pattern.Matching
import RouteConvergence.Pattern.Subtree

namespace RouteConvergence

theorem Text.startsWith_slash_iff {s : String} :
    Text.startsWith s "/" = true ↔ ∃ rest, s.toList = '/' :: rest := by
  have hbegins : Text.startsWith s "/" = true ↔ ['/'] <+: s.toList := List.isPrefixOf_iff_prefix
  simp only [hbegins, List.IsPrefix, List.singleton_append, eq_comm]

namespace Pattern

/-! ## One pattern behind another -/

variable {p q s u v : List Char}

theorem matches_nil_iff : Matches [] s ↔ s = [] := by
  constructor
  · intro h
    cases h
    rfl
  · rintro rfl
    exact .nil

/-- A multiple wildcard alone takes everything. -/
theorem matches_multiple (s : List Char) : Matches ['*'] s :=
  matches_multiple_iff.2 ⟨s, [], (List.append_nil s).symm, .nil⟩

/-- A character that is no wildcard takes itself. -/
theorem matches_same_iff {c : Char} (hsingle : c ≠ '?') (hmultiple : c ≠ '*') :
    Matches (c :: p) s ↔ ∃ rest, s = c :: rest ∧ Matches p rest := by
  constructor
  · intro h
    cases h with
    | single => exact absurd rfl hsingle
    | stop => exact absurd rfl hmultiple
    | more => exact absurd rfl hmultiple
    | same _ _ h => exact ⟨_, rfl, h⟩
  · rintro ⟨rest, rfl, h⟩
    exact .same hsingle hmultiple h

/-- What two patterns take can be put together. -/
theorem Matches.append (hp : Matches p u) (hq : Matches q v) : Matches (p ++ q) (u ++ v) := by
  induction hp with
  | nil => exact hq
  | single _ ih => exact .single ih
  | stop _ ih => exact .stop ih
  | more _ ih => exact .more ih
  | same hsingle hmultiple _ ih => exact .same hsingle hmultiple ih

/-- **Two patterns one behind the other** take what the first takes, followed by what
the second takes. -/
theorem matches_append_iff :
    Matches (p ++ q) s ↔ ∃ u v, s = u ++ v ∧ Matches p u ∧ Matches q v := by
  constructor
  · intro h
    induction p generalizing s with
    | nil => exact ⟨[], s, rfl, .nil, h⟩
    | cons c p ih =>
      rw [List.cons_append] at h
      by_cases hmultiple : c = '*'
      · -- The run of the wildcard comes before what the rest of `p` takes.
        subst hmultiple
        obtain ⟨run, rest, rfl, hrest⟩ := matches_multiple_iff.1 h
        obtain ⟨u, v, rfl, hp, hq⟩ := ih hrest
        exact ⟨run ++ u, v, (List.append_assoc run u v).symm,
          matches_multiple_iff.2 ⟨run, u, rfl, hp⟩, hq⟩
      · cases h with
        | single hrest =>
          obtain ⟨u, v, rfl, hp, hq⟩ := ih hrest
          exact ⟨_ :: u, v, rfl, .single hp, hq⟩
        | stop => exact absurd rfl hmultiple
        | more => exact absurd rfl hmultiple
        | same hsingle _ hrest =>
          obtain ⟨u, v, rfl, hp, hq⟩ := ih hrest
          exact ⟨c :: u, v, rfl, .same hsingle hmultiple hp, hq⟩
  · rintro ⟨u, v, rfl, hp, hq⟩
    exact hp.append hq

/-- The pattern below a root takes what the root takes, a slash and anything more. -/
theorem matches_below_iff :
    Matches (p ++ ['/', '*']) s ↔ ∃ front below, s = front ++ '/' :: below ∧ Matches p front := by
  have hslash : ∀ v, Matches ['/', '*'] v ↔ ∃ below, v = '/' :: below := by
    intro v
    rw [matches_same_iff (by decide) (by decide)]
    simp only [matches_multiple, and_true]
  rw [matches_append_iff]
  constructor
  · rintro ⟨front, v, rfl, hp, hv⟩
    obtain ⟨below, rfl⟩ := (hslash v).1 hv
    exact ⟨front, below, rfl, hp⟩
  · rintro ⟨front, below, rfl, hp⟩
    exact ⟨front, _, rfl, hp, (hslash _).2 ⟨below, rfl⟩⟩

end Pattern

/-! ## The patterns of a path -/

namespace PathSpec

theorem toList_base (p : PathSpec) : p.base.toList = Text.dropFinalSlash p.path.toList := by
  rw [base, String.toList_ofList]

/-- The root of everything is empty. -/
theorem base_of_everything {p : PathSpec} (h : p.path = "/") : p.base = "" := by
  rw [base, h]
  rfl

theorem mem_patterns_of_exact {p : PathSpec} (h : p.kind = .exact) (pattern : String) :
    pattern ∈ p.patterns ↔ pattern = p.path := by
  rw [patterns, h]
  exact List.mem_singleton

/-- A subtree has the pattern below its root, and the root itself unless that is
everything. -/
theorem mem_patterns_of_subtree {p : PathSpec} (h : p.kind = .subtree) (pattern : String) :
    pattern ∈ p.patterns ↔ (p.path ≠ "/" ∧ pattern = p.base) ∨ pattern = p.base ++ "/*" := by
  rw [patterns, h]
  dsimp only
  by_cases hroot : p.path = "/"
  · rw [if_pos hroot, base_of_everything hroot, List.mem_singleton]
    simp [hroot]
  · rw [if_neg hroot]
    simp [hroot]

/-- A pattern of a subtree takes a request by the root or below it. -/
theorem taken_iff {p : PathSpec} (h : p.kind = .subtree) (path : List Char) :
    (∃ pattern ∈ p.patterns, Pattern.Matches pattern.toList path) ↔
      (p.path ≠ "/" ∧ Pattern.Matches p.base.toList path) ∨
        ∃ front below, path = front ++ '/' :: below ∧ Pattern.Matches p.base.toList front := by
  have hbelow : (p.base ++ "/*").toList = p.base.toList ++ ['/', '*'] := String.toList_append
  simp only [mem_patterns_of_subtree h, or_and_right, exists_or, and_assoc, exists_and_left,
    exists_eq_left, hbelow, Pattern.matches_below_iff]

/-- **The language of a subtree**: of the requests that begin with a slash it takes those
that its path, without one slash at its end, takes up to the end of the request or up
to a slash. The wildcards of the path count. The subtree of `/` takes them all. -/
theorem subtree_language (p : PathSpec) (hkind : p.kind = .subtree) (path : String)
    (hroot : Text.startsWith path "/" = true) :
    ((∃ pattern ∈ p.patterns, Pattern.Matches pattern.toList path.toList) ↔
        ∃ front rest, path.toList = front ++ rest ∧
          Pattern.Matches (Text.dropFinalSlash p.path.toList) front ∧
            (rest = [] ∨ ∃ below, rest = '/' :: below)) ∧
      (p.path = "/" → ∃ pattern ∈ p.patterns, Pattern.Matches pattern.toList path.toList) := by
  obtain ⟨more, hmore⟩ := Text.startsWith_slash_iff.1 hroot
  rw [taken_iff hkind, ← toList_base]
  refine ⟨⟨?_, ?_⟩, fun heverything => ?_⟩
  · rintro (⟨-, hbase⟩ | ⟨front, below, hpath, hbase⟩)
    · exact ⟨path.toList, [], (List.append_nil _).symm, hbase, Or.inl rfl⟩
    · exact ⟨front, '/' :: below, hpath, hbase, Or.inr ⟨below, rfl⟩⟩
  · rintro ⟨front, rest, hpath, hbase, rfl | ⟨below, rfl⟩⟩
    · rw [List.append_nil] at hpath
      refine Or.inl ⟨fun heverything => ?_, hpath ▸ hbase⟩
      -- The empty root takes nothing that begins with a slash.
      rw [base_of_everything heverything] at hbase
      rw [Pattern.matches_nil_iff.1 hbase, hmore] at hpath
      cases hpath
    · exact Or.inr ⟨front, below, hpath, hbase⟩
  · refine Or.inr ⟨[], more, hmore, ?_⟩
    rw [base_of_everything heverything]
    exact .nil

/-- The slash at the end does not count, the wildcards in front of it do, and what comes
behind them begins with a slash. -/
theorem subtree_language_wild :
    Text.startsWith "/eu-west/v2/users/7" "/" = true ∧
      ∃ pattern ∈ (⟨"/*-west/v?/", .subtree⟩ : PathSpec).patterns,
        Pattern.Matches pattern.toList "/eu-west/v2/users/7".toList := by
  have hrequest : Text.startsWith "/eu-west/v2/users/7" "/" = true := by decide
  refine ⟨hrequest, (subtree_language ⟨"/*-west/v?/", .subtree⟩ rfl _ hrequest).1.2
    ⟨"/eu-west/v2".toList, "/users/7".toList, rfl, ?_, Or.inr ⟨"users/7".toList, rfl⟩⟩⟩
  exact Pattern.takes_iff.1 (by decide)

end PathSpec

end RouteConvergence
