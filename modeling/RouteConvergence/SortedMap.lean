/-
RouteConvergence.SortedMap — finite maps whose entries stand in strictly
increasing key order.

The order of the entries is part of the type, so two maps with the same
lookups are the same value (`SortedMap.ext_get?`), and everything that
lists a map (tags, status records, record sets) lists it by key.

* `get?`, `insert`, `erase` — one equation each through `get?`
  (`get?_insert`, `get?_erase`).
* `insertAll` — later pairs override earlier ones.
-/

namespace RouteConvergence

/-- A finite map, held as its entries in strictly increasing key order. -/
structure SortedMap (κ ν : Type) [Ord κ] where
  entries : List (κ × ν)
  ordered : entries.Pairwise fun a b => compare a.1 b.1 = .lt

namespace SortedMap

variable {κ ν : Type} [Ord κ]

/-! ## Entry lists -/

/-- The value at a key of an entry list, if the key occurs. -/
def lookup (k : κ) : List (κ × ν) → Option ν
  | [] => none
  | e :: rest => if compare k e.1 = .eq then some e.2 else lookup k rest

/-- An entry list with the key bound to the value, at its place in order. -/
def place (k : κ) (v : ν) : List (κ × ν) → List (κ × ν)
  | [] => [(k, v)]
  | e :: rest =>
    match compare k e.1 with
    | .lt => (k, v) :: e :: rest
    | .eq => (k, v) :: rest
    | .gt => e :: place k v rest

theorem mem_place {k : κ} {v : ν} {x : κ × ν} :
    ∀ {es : List (κ × ν)}, x ∈ place k v es → x = (k, v) ∨ x ∈ es
  | [], h => by simpa [place] using h
  | e :: rest, h => by
    unfold place at h
    split at h
    · simpa using h
    · rcases List.mem_cons.1 h with h | h
      · exact Or.inl h
      · exact Or.inr (List.mem_cons_of_mem _ h)
    · rcases List.mem_cons.1 h with h | h
      · exact Or.inr (h ▸ List.mem_cons_self)
      · exact (mem_place h).imp id (List.mem_cons_of_mem _)

theorem pairwise_place [Std.TransOrd κ] (k : κ) (v : ν) :
    ∀ {es : List (κ × ν)}, (es.Pairwise fun a b => compare a.1 b.1 = .lt) →
      (place k v es).Pairwise fun a b => compare a.1 b.1 = .lt
  | [], _ => by simp [place]
  | e :: rest, h => by
    have hd := List.pairwise_cons.1 h
    unfold place
    split
    · rename_i hlt
      refine List.pairwise_cons.2 ⟨fun x hx => ?_, h⟩
      rcases List.mem_cons.1 hx with rfl | hx
      · exact hlt
      · exact Std.TransCmp.lt_trans hlt (hd.1 x hx)
    · rename_i heq
      refine List.pairwise_cons.2 ⟨fun x hx => ?_, hd.2⟩
      exact (Std.TransCmp.congr_left heq).trans (hd.1 x hx)
    · rename_i hgt
      refine List.pairwise_cons.2 ⟨fun x hx => ?_, pairwise_place k v hd.2⟩
      rcases mem_place hx with rfl | hx
      · exact Std.OrientedCmp.gt_iff_lt.1 hgt
      · exact hd.1 x hx

/-! ## Maps -/

def empty : SortedMap κ ν := ⟨[], List.Pairwise.nil⟩

instance : Inhabited (SortedMap κ ν) := ⟨empty⟩

/-- The value at a key. -/
def get? (m : SortedMap κ ν) (k : κ) : Option ν := lookup k m.entries

def contains (m : SortedMap κ ν) (k : κ) : Bool := (m.get? k).isSome

/-- The map with one key bound, whatever it was bound to before. -/
def insert [Std.TransOrd κ] (m : SortedMap κ ν) (k : κ) (v : ν) : SortedMap κ ν :=
  ⟨place k v m.entries, pairwise_place k v m.ordered⟩

def erase (m : SortedMap κ ν) (k : κ) : SortedMap κ ν :=
  ⟨m.entries.filter fun e => compare k e.1 != .eq, m.ordered.filter _⟩

/-- The map with every pair bound in turn: of pairs with one key the last
stays. -/
def insertAll [Std.TransOrd κ] (m : SortedMap κ ν) (pairs : List (κ × ν)) :
    SortedMap κ ν :=
  pairs.foldl (fun m p => m.insert p.1 p.2) m

/-- The map of a list of pairs: of pairs with one key the last stays. -/
def ofList [Std.TransOrd κ] (pairs : List (κ × ν)) : SortedMap κ ν :=
  empty.insertAll pairs

def keys (m : SortedMap κ ν) : List κ := m.entries.map (·.1)

def values (m : SortedMap κ ν) : List ν := m.entries.map (·.2)

def size (m : SortedMap κ ν) : Nat := m.entries.length

instance [BEq κ] [BEq ν] : BEq (SortedMap κ ν) := ⟨fun a b => a.entries == b.entries⟩

instance [DecidableEq κ] [DecidableEq ν] : DecidableEq (SortedMap κ ν) := fun a b =>
  decidable_of_iff (a.entries = b.entries) (by
    cases a; cases b; simp)

/-! ## Lookup equations -/

theorem lookup_eq_none_of_lt [Std.TransOrd κ] {k : κ} :
    ∀ {es : List (κ × ν)}, (∀ e ∈ es, compare k e.1 = .lt) → lookup k es = none
  | [], _ => rfl
  | e :: rest, h => by
    have he := h e List.mem_cons_self
    simp [lookup, he, lookup_eq_none_of_lt fun x hx => h x (List.mem_cons_of_mem _ hx)]

theorem lookup_place [Std.TransOrd κ] (k : κ) (v : ν) (k' : κ) :
    ∀ {es : List (κ × ν)}, (es.Pairwise fun a b => compare a.1 b.1 = .lt) →
      lookup k' (place k v es) = if compare k' k = .eq then some v else lookup k' es
  | [], _ => by simp [place, lookup]
  | e :: rest, h => by
    have hd := List.pairwise_cons.1 h
    unfold place
    split
    · rfl
    · rename_i heq
      by_cases hk : compare k' k = .eq
      · simp [lookup, hk]
      · have : compare k' e.1 ≠ .eq := fun hc =>
          hk (Std.TransCmp.eq_trans hc (Std.OrientedCmp.eq_symm heq))
        simp [lookup, hk, this]
    · rename_i hgt
      simp only [lookup]
      rw [lookup_place k v k' hd.2]
      by_cases hk : compare k' k = .eq
      · have : compare k' e.1 = .gt := (Std.TransCmp.congr_left hk).trans hgt
        simp [hk, this]
      · simp [hk]

/-- A bound key has its new value, and every other key keeps its own. -/
theorem get?_insert [Std.TransOrd κ] (m : SortedMap κ ν) (k : κ) (v : ν) (k' : κ) :
    (m.insert k v).get? k' = if compare k' k = .eq then some v else m.get? k' :=
  lookup_place k v k' m.ordered

theorem lookup_filter_ne [Std.TransOrd κ] (k k' : κ) :
    ∀ es : List (κ × ν),
      lookup k' (es.filter fun e => compare k e.1 != .eq) =
        if compare k' k = .eq then none else lookup k' es
  | [] => by simp [lookup]
  | e :: rest => by
    rw [List.filter_cons]
    have ih := lookup_filter_ne k k' rest
    by_cases hk : compare k' k = .eq
    · have hcongr : compare k' e.1 = compare k e.1 := Std.TransCmp.congr_left hk
      split
      · rename_i hne
        have : compare k' e.1 ≠ .eq := by rw [hcongr]; simpa using hne
        simp [lookup, this, ih, hk]
      · simp [ih, hk]
    · split
      · simp [lookup, ih, hk]
      · rename_i hne
        have heq : compare k e.1 = .eq := by simpa using hne
        have : compare k' e.1 ≠ .eq := fun hc =>
          hk (Std.TransCmp.eq_trans hc (Std.OrientedCmp.eq_symm heq))
        simp [lookup, this, ih, hk]

/-- An erased key has no value, and every other key keeps its own. -/
theorem get?_erase [Std.TransOrd κ] (m : SortedMap κ ν) (k k' : κ) :
    (m.erase k).get? k' = if compare k' k = .eq then none else m.get? k' :=
  lookup_filter_ne k k' m.entries

/-! ## Equality -/

theorem entries_eq_of_lookup [Std.TransOrd κ] [Std.LawfulEqOrd κ] :
    ∀ {xs ys : List (κ × ν)}, (xs.Pairwise fun a b => compare a.1 b.1 = .lt) →
      (ys.Pairwise fun a b => compare a.1 b.1 = .lt) →
      (∀ k, lookup k xs = lookup k ys) → xs = ys
  | [], [], _, _, _ => rfl
  | [], y :: ys, _, _, h => by simpa [lookup] using h y.1
  | x :: xs, [], _, _, h => by simpa [lookup] using h x.1
  | x :: xs, y :: ys, hx, hy, h => by
    have hx' := List.pairwise_cons.1 hx
    have hy' := List.pairwise_cons.1 hy
    have below : ∀ {a b : κ × ν} {bs : List (κ × ν)}, compare a.1 b.1 = .lt →
        (∀ e ∈ bs, compare b.1 e.1 = .lt) → lookup a.1 (b :: bs) = none :=
      fun hab hb => lookup_eq_none_of_lt fun e he => by
        rcases List.mem_cons.1 he with rfl | he
        · exact hab
        · exact Std.TransCmp.lt_trans hab (hb e he)
    cases hc : compare x.1 y.1 with
    | lt =>
      have := h x.1
      rw [below hc hy'.1] at this
      simp [lookup] at this
    | gt =>
      have := h y.1
      rw [below (Std.OrientedCmp.gt_iff_lt.1 hc) hx'.1] at this
      simp [lookup] at this
    | eq =>
      have hkey : x.1 = y.1 := Std.LawfulEqCmp.eq_of_compare hc
      have hval : x.2 = y.2 := by simpa [lookup, hkey] using h x.1
      have htail : xs = ys := entries_eq_of_lookup hx'.2 hy'.2 fun k => by
        by_cases hk : compare k x.1 = .eq
        · have hk' : k = x.1 := Std.LawfulEqCmp.eq_of_compare hk
          subst hk'
          rw [lookup_eq_none_of_lt hx'.1, lookup_eq_none_of_lt (hkey ▸ hy'.1)]
        · have hky : compare k y.1 ≠ .eq := hkey ▸ hk
          simpa [lookup, hk, hky] using h k
      rw [htail, Prod.ext hkey hval]

/-- Maps with the same lookups are the same map. -/
theorem ext_get? [Std.TransOrd κ] [Std.LawfulEqOrd κ] {m n : SortedMap κ ν}
    (h : ∀ k, m.get? k = n.get? k) : m = n := by
  cases m with
  | mk xs hx =>
    cases n with
    | mk ys hy =>
      obtain rfl := entries_eq_of_lookup hx hy h
      rfl

end SortedMap

end RouteConvergence
