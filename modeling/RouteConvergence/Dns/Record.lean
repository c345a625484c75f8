/-
RouteConvergence.Dns.Record — record sets of one zone and changes to them.

A record set is known by its name and type. A batch is a list of changes
that a zone takes all together or not at all.
-/
import RouteConvergence.SortedSet
import RouteConvergence.SortedMap

namespace RouteConvergence

/-- Type of a record set. Types are ordered as listed here. -/
inductive RecordType
  | a
  | aaaa
  | txt
deriving DecidableEq, Inhabited, Repr

namespace RecordType

/-- Place of a type in the order of types. -/
def rank : RecordType → Nat
  | .a => 0
  | .aaaa => 1
  | .txt => 2

instance : Ord RecordType := ⟨compareOn rank⟩

instance : Std.TransOrd RecordType := inferInstanceAs (Std.TransCmp (compareOn rank))

theorem rank_inj {s t : RecordType} (h : s.rank = t.rank) : s = t := by
  cases s <;> cases t <;> first | rfl | cases h

theorem compare_eq_iff {s t : RecordType} : compare s t = .eq ↔ s = t := by
  constructor
  · intro h
    exact rank_inj
      (Std.LawfulEqCmp.eq_of_compare (show compare s.rank t.rank = .eq from h))
  · rintro rfl
    exact Std.ReflCmp.compare_self

instance : Std.LawfulEqOrd RecordType where
  eq_of_compare := compare_eq_iff.1
  compare_self := compare_eq_iff.2 rfl

/-- Address records carry the alias to a distribution. -/
def isAddress : RecordType → Bool
  | .a | .aaaa => true
  | .txt => false

def word : RecordType → String
  | .a => "A"
  | .aaaa => "AAAA"
  | .txt => "TXT"

def all : List RecordType := [.a, .aaaa, .txt]

end RecordType

/-- The records stored under one name and type. -/
structure RecordSet where
  name : String
  type : RecordType
  /-- Where an address record points. -/
  target : Option String
  /-- The values of a text record; each is the token of one owner. -/
  values : List String
deriving DecidableEq, Inhabited, Repr

namespace RecordSet

/-- What a zone knows a record set by. -/
abbrev Key := String × RecordType

instance : Ord Key := ⟨compareLex (compareOn Prod.fst) (compareOn Prod.snd)⟩

instance : Std.TransOrd Key :=
  inferInstanceAs (Std.TransCmp
    (compareLex (compareOn (Prod.fst : String × RecordType → String))
      (compareOn (Prod.snd : String × RecordType → RecordType))))

theorem compare_key_eq_iff {j k : Key} : compare j k = .eq ↔ j = k := by
  constructor
  · intro h
    have h' : compareLex (compareOn (Prod.fst : String × RecordType → String))
        (compareOn (Prod.snd : String × RecordType → RecordType)) j k = .eq := h
    rw [compareLex_eq_eq] at h'
    exact Prod.ext
      (Std.LawfulEqCmp.eq_of_compare (show compare j.1 k.1 = .eq from h'.1))
      (Std.LawfulEqCmp.eq_of_compare (show compare j.2 k.2 = .eq from h'.2))
  · rintro rfl
    exact Std.ReflCmp.compare_self

instance : Std.LawfulEqOrd Key where
  eq_of_compare := compare_key_eq_iff.1
  compare_self := compare_key_eq_iff.2 rfl

def key (r : RecordSet) : Key := (r.name, r.type)

/-- An address record that points at a target. -/
def aliasTo (name : String) (type : RecordType) (target : String) : RecordSet :=
  ⟨name, type, some target, []⟩

def txt (name : String) (values : List String) : RecordSet := ⟨name, .txt, none, values⟩

end RecordSet

/-- What a change does with its record set. -/
inductive ChangeAction
  | upsert
  | delete
deriving DecidableEq, Inhabited, Repr

/-- One change to a zone. -/
structure Change where
  action : ChangeAction
  record : RecordSet
deriving DecidableEq, Inhabited, Repr

/-- The change that writes a record set. -/
def Change.upsert (r : RecordSet) : Change := ⟨.upsert, r⟩

/-- The change that removes a record set. -/
def Change.delete (r : RecordSet) : Change := ⟨.delete, r⟩

/-- Changes a zone takes together or not at all. -/
abbrev Batch := List Change

end RouteConvergence
