/-
RouteConvergence.SortedSet — finite sets listed in strictly increasing
order.

As for `SortedMap`, the order is part of the type: a set is its list of
elements, and two sets with the same members are the same value.
-/

namespace RouteConvergence

/-- A finite set, held as its elements in strictly increasing order. -/
structure SortedSet (α : Type) [Ord α] where
  elems : List α
  ordered : elems.Pairwise fun a b => compare a b = .lt

namespace SortedSet

variable {α : Type} [Ord α]

/-- A list with one element at its place in order, once. -/
def place (x : α) : List α → List α
  | [] => [x]
  | y :: rest =>
    match compare x y with
    | .lt => x :: y :: rest
    | .eq => y :: rest
    | .gt => y :: place x rest

theorem mem_place {x y : α} :
    ∀ {ys : List α}, y ∈ place x ys → y = x ∨ y ∈ ys
  | [], h => by simpa [place] using h
  | z :: rest, h => by
    unfold place at h
    split at h
    · simpa using h
    · exact Or.inr h
    · rcases List.mem_cons.1 h with h | h
      · exact Or.inr (h ▸ List.mem_cons_self)
      · exact (mem_place h).imp id (List.mem_cons_of_mem _)

theorem pairwise_place [Std.TransOrd α] (x : α) :
    ∀ {ys : List α}, (ys.Pairwise fun a b => compare a b = .lt) →
      (place x ys).Pairwise fun a b => compare a b = .lt
  | [], _ => by simp [place]
  | y :: rest, h => by
    have hd := List.pairwise_cons.1 h
    unfold place
    split
    · rename_i hlt
      refine List.pairwise_cons.2 ⟨fun z hz => ?_, h⟩
      rcases List.mem_cons.1 hz with rfl | hz
      · exact hlt
      · exact Std.TransCmp.lt_trans hlt (hd.1 z hz)
    · exact h
    · rename_i hgt
      refine List.pairwise_cons.2 ⟨fun z hz => ?_, pairwise_place x hd.2⟩
      rcases mem_place hz with rfl | hz
      · exact Std.OrientedCmp.gt_iff_lt.1 hgt
      · exact hd.1 z hz

/-! ## Sets -/

def empty : SortedSet α := ⟨[], List.Pairwise.nil⟩

instance : Inhabited (SortedSet α) := ⟨empty⟩

def contains [BEq α] (s : SortedSet α) (x : α) : Bool := s.elems.contains x

/-- The set with one more element. -/
def insert [Std.TransOrd α] (s : SortedSet α) (x : α) : SortedSet α :=
  ⟨place x s.elems, pairwise_place x s.ordered⟩

def erase [BEq α] (s : SortedSet α) (x : α) : SortedSet α :=
  ⟨s.elems.filter (· != x), s.ordered.filter _⟩

/-- The set with every element of a list added. -/
def insertAll [Std.TransOrd α] (s : SortedSet α) (xs : List α) : SortedSet α :=
  xs.foldl insert s

/-- The set without any element of a list. -/
def eraseAll [BEq α] (s : SortedSet α) (xs : List α) : SortedSet α :=
  xs.foldl erase s

/-- The elements of a list as a set. -/
def ofList [Std.TransOrd α] (xs : List α) : SortedSet α := empty.insertAll xs

def toList (s : SortedSet α) : List α := s.elems

def size (s : SortedSet α) : Nat := s.elems.length

def isEmpty (s : SortedSet α) : Bool := s.elems.isEmpty

instance [BEq α] : BEq (SortedSet α) := ⟨fun a b => a.elems == b.elems⟩

instance [DecidableEq α] : DecidableEq (SortedSet α) := fun a b =>
  decidable_of_iff (a.elems = b.elems) (by
    cases a; cases b; simp)

/-! ## Membership equations -/

theorem mem_place_iff [Std.LawfulEqOrd α] {x y : α} :
    ∀ {ys : List α}, y ∈ place x ys ↔ y = x ∨ y ∈ ys
  | [] => by simp [place]
  | z :: rest => by
    unfold place
    split
    · simp
    · rename_i heq
      have hxz : x = z := Std.LawfulEqCmp.eq_of_compare heq
      simp [hxz]
    · have ih : y ∈ place x rest ↔ y = x ∨ y ∈ rest := mem_place_iff
      simp only [List.mem_cons, ih]
      constructor
      · rintro (h | h | h)
        · exact Or.inr (Or.inl h)
        · exact Or.inl h
        · exact Or.inr (Or.inr h)
      · rintro (h | h | h)
        · exact Or.inr (Or.inl h)
        · exact Or.inl h
        · exact Or.inr (Or.inr h)

/-- The members after an insertion are the new element and the old ones. -/
theorem mem_elems_insert [Std.TransOrd α] [Std.LawfulEqOrd α] (s : SortedSet α) (x y : α) :
    y ∈ (s.insert x).elems ↔ y = x ∨ y ∈ s.elems :=
  mem_place_iff

/-- The members after a removal are the old ones other than the element. -/
theorem mem_elems_erase [BEq α] [LawfulBEq α] (s : SortedSet α) (x y : α) :
    y ∈ (s.erase x).elems ↔ y ≠ x ∧ y ∈ s.elems := by
  simp [erase, and_comm]

end SortedSet

end RouteConvergence
