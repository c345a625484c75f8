/-
RouteConvergence.Reference — the identity of one route.

A reference is a scope and a name. It is written `scope/name`; read back,
the text is cut at its first slash and both parts have to be non-empty,
so a name may hold slashes and a scope may not. References are ordered by
scope, then by name, which is not the order of their written forms.
-/
import RouteConvergence.Text.Pieces

namespace RouteConvergence

/-- Key that gathers routes into one distribution. -/
abbrev GroupName := String

/-- Identity of one route: where it lives and what it is called there. -/
structure Reference where
  scope : String
  name : String
deriving DecidableEq, Inhabited, Repr

namespace Reference

instance : Ord Reference :=
  ⟨compareLex (compareOn Reference.scope) (compareOn Reference.name)⟩

instance : Std.TransOrd Reference :=
  inferInstanceAs (Std.TransCmp
    (compareLex (compareOn Reference.scope) (compareOn Reference.name)))

theorem compare_eq_iff {a b : Reference} : compare a b = .eq ↔ a = b := by
  constructor
  · intro h
    have h' : compareLex (compareOn Reference.scope) (compareOn Reference.name) a b = .eq := h
    rw [compareLex_eq_eq] at h'
    have hs : a.scope = b.scope :=
      Std.LawfulEqCmp.eq_of_compare (show compare a.scope b.scope = .eq from h'.1)
    have hn : a.name = b.name :=
      Std.LawfulEqCmp.eq_of_compare (show compare a.name b.name = .eq from h'.2)
    cases a; cases b
    simp_all
  · rintro rfl
    exact Std.ReflCmp.compare_self

instance : Std.LawfulEqOrd Reference where
  eq_of_compare := compare_eq_iff.1
  compare_self := compare_eq_iff.2 rfl

/-- The written form. -/
def text (r : Reference) : String := r.scope ++ "/" ++ r.name

/-- The reference a text is the written form of. -/
def ofText? (s : String) : Option Reference :=
  match Text.splitOnce '/' s with
  | some (scope, name) => if scope.isEmpty || name.isEmpty then none else some ⟨scope, name⟩
  | none => none

/-- What is said of a text that is no reference. -/
def malformedText (s : String) : String :=
  "descriptor reference '" ++ s ++ "' is not of the form namespace/name"

end Reference

end RouteConvergence
