/-
RouteConvergence.Pattern.Matching — which requests a pattern takes.

In a pattern `*` stands for any run of characters, `?` for exactly one,
and every other character for itself. The rule is given twice:

* `Pattern.Matches` — the rule as a relation, one constructor for each
  kind of character.
* `Pattern.takes` — the decision, by trying every length of a run.

`takes_iff` states the agreement. `Model.behaviorFor` is the behaviour
that answers a request: the first whose pattern takes it.
-/
import RouteConvergence.Distribution

namespace RouteConvergence

namespace Pattern

/-! ## The rule -/

/-- The characters a pattern stands for. -/
inductive Matches : List Char → List Char → Prop
  | nil : Matches [] []
  /-- The single wildcard stands for one character. -/
  | single {c : Char} {p s : List Char} : Matches p s → Matches ('?' :: p) (c :: s)
  /-- The multiple wildcard may stand for nothing more. -/
  | stop {p s : List Char} : Matches p s → Matches ('*' :: p) s
  /-- The multiple wildcard may stand for one more character. -/
  | more {c : Char} {p s : List Char} : Matches ('*' :: p) s → Matches ('*' :: p) (c :: s)
  /-- Any other character stands for itself. -/
  | same {c : Char} {p s : List Char} :
      c ≠ '?' → c ≠ '*' → Matches p s → Matches (c :: p) (c :: s)

/-! ## The decision -/

/-- Whether some end of the characters passes a test; what comes before it
is the run of a multiple wildcard. -/
def anyEnd (test : List Char → Bool) : List Char → Bool
  | [] => test []
  | c :: s => test (c :: s) || anyEnd test s

/-- Whether a pattern takes characters. -/
def takes : List Char → List Char → Bool
  | [], s => s.isEmpty
  | c :: p, s =>
    if c = '*' then anyEnd (takes p) s
    else
      match s with
      | [] => false
      | d :: s => (c == '?' || c == d) && takes p s

theorem anyEnd_iff {test : List Char → Bool} {s : List Char} :
    anyEnd test s = true ↔ ∃ run rest, s = run ++ rest ∧ test rest = true := by
  induction s with
  | nil =>
    constructor
    · exact fun h => ⟨[], [], rfl, h⟩
    · rintro ⟨run, rest, hs, h⟩
      obtain ⟨-, rfl⟩ := List.append_eq_nil_iff.1 hs.symm
      exact h
  | cons c s ih =>
    simp only [anyEnd, Bool.or_eq_true, ih]
    constructor
    · rintro (h | ⟨run, rest, rfl, h⟩)
      · exact ⟨[], c :: s, rfl, h⟩
      · exact ⟨c :: run, rest, rfl, h⟩
    · rintro ⟨run, rest, hs, h⟩
      cases run with
      | nil =>
        subst hs
        exact Or.inl h
      | cons d run =>
        obtain ⟨rfl, rfl⟩ := List.cons.inj hs
        exact Or.inr ⟨run, rest, rfl, h⟩

/-- A multiple wildcard in front takes any run before what the rest of the
pattern stands for. -/
theorem matches_multiple_iff {p s : List Char} :
    Matches ('*' :: p) s ↔ ∃ run rest, s = run ++ rest ∧ Matches p rest := by
  constructor
  · intro h
    generalize hq : '*' :: p = q at h
    induction h with
    | nil => cases hq
    | single => cases hq
    | stop h =>
      obtain ⟨-, rfl⟩ := List.cons.inj hq
      exact ⟨[], _, rfl, h⟩
    | @more c _ _ _ ih =>
      obtain ⟨run, rest, rfl, h⟩ := ih hq
      exact ⟨c :: run, rest, rfl, h⟩
    | same _ hc =>
      obtain ⟨rfl, -⟩ := List.cons.inj hq
      exact absurd rfl hc
  · rintro ⟨run, rest, rfl, h⟩
    induction run with
    | nil => exact .stop h
    | cons c run ih => exact .more ih

/-- The decision agrees with the rule. -/
theorem takes_iff {p s : List Char} : takes p s = true ↔ Matches p s := by
  induction p generalizing s with
  | nil =>
    cases s with
    | nil => exact ⟨fun _ => .nil, fun _ => rfl⟩
    | cons c s => exact ⟨fun h => by simp [takes] at h, fun h => by cases h⟩
  | cons c p ih =>
    by_cases hm : c = '*'
    · subst hm
      simp only [takes, if_true, anyEnd_iff, matches_multiple_iff, ih]
    · cases s with
      | nil =>
        simp only [takes, hm, if_false]
        exact ⟨fun h => by simp at h, fun h => by cases h; exact absurd rfl hm⟩
      | cons d s =>
        simp only [takes, hm, if_false, Bool.and_eq_true, Bool.or_eq_true, beq_iff_eq, ih]
        constructor
        · rintro ⟨rfl | rfl, h⟩
          · exact .single h
          · by_cases hs : c = '?'
            · subst hs
              exact .single h
            · exact .same hs hm h
        · intro h
          cases h with
          | single h => exact ⟨Or.inl rfl, h⟩
          | stop => exact absurd rfl hm
          | more => exact absurd rfl hm
          | same _ _ h => exact ⟨Or.inr rfl, h⟩

/-- Whether a pattern takes the path of a request. -/
def accepts (pattern path : String) : Bool := takes pattern.toList path.toList

end Pattern

/-- The behaviour that answers requests for a path. -/
def Model.behaviorFor (m : Model) (path : String) : Option Behavior :=
  m.orderedBehaviors.find? fun b => Pattern.accepts b.pattern path

end RouteConvergence
