/-
RouteConvergence.Proofs.Containers — what can be read back from sorted
maps and sets.

The stores are maps and the bookkeeping holds sets, so every statement
about a store after a call comes down to a lookup after an insertion or
an erasure. The equations of `SortedMap` speak of `compare k k' = .eq`;
for lawful orders they are stated here with plain equality of keys.

* `SortedMap.get?_insert_self`, `get?_insert_ne`, `get?_erase_self`,
  `get?_erase_ne` — one key at a time.
* `SortedMap.mem_values`, `SortedMap.FiledBy` — listing a map in which
  every value stands under its own key.
* `SortedMap.map_values_insert` — a listing that cannot tell the new value
  from the old one.
* `SortedMap.get?_insertAll_entries` — one map laid over another.
* `SortedMap.ofList_entries` — a map is its entries.
* `SortedSet.mem_insertAll`, `SortedSet.mem_eraseAll`,
  `SortedSet.elems_eq_of_mem`, `SortedSet.ofList_elems` — a set is its
  members.
-/
import RouteConvergence.SortedMap
import RouteConvergence.SortedSet

namespace RouteConvergence

/-! ## Maps -/

namespace SortedMap

variable {κ ν : Type} [Ord κ]

@[simp] theorem get?_empty (k : κ) : (empty : SortedMap κ ν).get? k = none := rfl

theorem contains_iff {m : SortedMap κ ν} {k : κ} :
    m.contains k = true ↔ ∃ v, m.get? k = some v := by
  simp [contains, Option.isSome_iff_exists]

/-- Every value stands under the key it names itself. -/
def FiledBy (key : ν → κ) (m : SortedMap κ ν) : Prop :=
  ∀ k v, m.get? k = some v → key v = k

theorem filedBy_empty (key : ν → κ) : (empty : SortedMap κ ν).FiledBy key := by
  intro k v h
  cases h

/-! ### Replacing a value -/

theorem values_place [Std.TransOrd κ] {α : Type} (f : ν → α) {k : κ} {v v' : ν} (hf : f v' = f v) :
    ∀ {es : List (κ × ν)}, (es.Pairwise fun a b => compare a.1 b.1 = .lt) →
      lookup k es = some v → (place k v' es).map (f ·.2) = es.map (f ·.2)
  | [], _, h => by cases h
  | e :: rest, hd, h => by
    have hd' := List.pairwise_cons.1 hd
    unfold place
    split
    · rename_i hlt
      -- The key cannot occur if it belongs before all entries.
      have hnone : lookup k (e :: rest) = none := lookup_eq_none_of_lt fun x hx => by
        rcases List.mem_cons.1 hx with rfl | hx
        · exact hlt
        · exact Std.TransCmp.lt_trans hlt (hd'.1 x hx)
      rw [hnone] at h
      cases h
    · rename_i heq
      have hv : e.2 = v := by simpa [lookup, heq] using h
      simp [hf, hv]
    · rename_i hgt
      have hrest : lookup k rest = some v := by simpa [lookup, hgt] using h
      rw [List.map_cons, List.map_cons, values_place f hf hd'.2 hrest]

/-- A value that is replaced by one that looks the same leaves the list of
values looking the same. -/
theorem map_values_insert [Std.TransOrd κ] {α : Type} (f : ν → α) {m : SortedMap κ ν} {k : κ}
    {v v' : ν} (hget : m.get? k = some v) (hf : f v' = f v) :
    (m.insert k v').values.map f = m.values.map f := by
  rw [values, values, List.map_map, List.map_map]
  exact values_place f hf m.ordered hget

/-! ### One map laid over another -/

theorem get?_insertAll [Std.TransOrd κ] {es : List (κ × ν)} (m : SortedMap κ ν)
    (h : es.Pairwise fun a b => compare a.1 b.1 = .lt) (k : κ) :
    (m.insertAll es).get? k = (lookup k es).or (m.get? k) := by
  induction es generalizing m with
  | nil => rfl
  | cons e es ih =>
    obtain ⟨hfirst, hrest⟩ := List.pairwise_cons.1 h
    have hstep : (m.insertAll (e :: es)).get? k =
        (lookup k es).or ((m.insert e.1 e.2).get? k) := ih (m.insert e.1 e.2) hrest
    rw [hstep, get?_insert, lookup]
    split
    · next hk =>
      -- The key does not occur again behind its own entry.
      have hnone : lookup k es = none := lookup_eq_none_of_lt fun x hx =>
        (Std.TransCmp.congr_left hk).trans (hfirst x hx)
      rw [hnone, Option.none_or, Option.some_or]
    · rfl

/-- What is laid on top is found first. -/
theorem get?_insertAll_entries [Std.TransOrd κ] (m n : SortedMap κ ν) (k : κ) :
    (m.insertAll n.entries).get? k = (n.get? k).or (m.get? k) :=
  m.get?_insertAll n.ordered k

/-! ### Maps and their entries -/

/-- A key behind all others comes last. -/
theorem place_last [Std.TransOrd κ] {k : κ} {v : ν} : ∀ {es : List (κ × ν)},
    (∀ e ∈ es, compare e.1 k = .lt) → place k v es = es ++ [(k, v)]
  | [], _ => rfl
  | e :: es, h => by
    have hgt : compare k e.1 = .gt := Std.OrientedCmp.gt_iff_lt.2 (h e List.mem_cons_self)
    rw [place, hgt, place_last fun e' he' => h e' (List.mem_cons_of_mem _ he')]
    rfl

theorem entries_insertAll [Std.TransOrd κ] : ∀ (es : List (κ × ν)) (m : SortedMap κ ν),
    ((m.entries ++ es).Pairwise fun a b => compare a.1 b.1 = .lt) →
      (m.insertAll es).entries = m.entries ++ es
  | [], m, _ => by simp [insertAll]
  | e :: es, m, h => by
    have hlast : (m.insert e.1 e.2).entries = m.entries ++ [e] :=
      place_last fun e' he' => (List.pairwise_append.1 h).2.2 e' he' e List.mem_cons_self
    have hsplit : m.entries ++ e :: es = (m.entries ++ [e]) ++ es := by simp
    rw [hsplit] at h ⊢
    rw [← hlast] at h ⊢
    exact entries_insertAll es (m.insert e.1 e.2) h

/-- A map is the map of its entries. -/
theorem ofList_entries [Std.TransOrd κ] (m : SortedMap κ ν) : ofList m.entries = m := by
  have hentries : (ofList m.entries).entries = m.entries :=
    entries_insertAll m.entries empty (by simpa [empty] using m.ordered)
  cases hm : ofList m.entries
  cases m
  simp_all

theorem mem_insertAll [Std.TransOrd κ] {e : κ × ν} : ∀ {pairs : List (κ × ν)} {m : SortedMap κ ν},
    e ∈ (m.insertAll pairs).entries → e ∈ pairs ∨ e ∈ m.entries
  | [], _, h => Or.inr h
  | p :: pairs, m, h => by
    rcases mem_insertAll (m := m.insert p.1 p.2) h with hmem | hmem
    · exact Or.inl (List.mem_cons_of_mem _ hmem)
    · rcases mem_place hmem with rfl | hmem
      · exact Or.inl List.mem_cons_self
      · exact Or.inr hmem

/-- The entries of a map are among the pairs it was made from. -/
theorem mem_ofList [Std.TransOrd κ] {e : κ × ν} {pairs : List (κ × ν)}
    (h : e ∈ (ofList pairs).entries) : e ∈ pairs :=
  (mem_insertAll h).resolve_right (by simp [empty])

/-! ### Listing a map -/

variable [Std.LawfulEqOrd κ]

theorem lookup_eq_some_iff {k : κ} {v : ν} :
    ∀ {es : List (κ × ν)}, (es.Pairwise fun a b => compare a.1 b.1 = .lt) →
      (lookup k es = some v ↔ (k, v) ∈ es)
  | [], _ => by simp [lookup]
  | e :: rest, h => by
    have hd := List.pairwise_cons.1 h
    have ih := lookup_eq_some_iff (k := k) (v := v) hd.2
    unfold lookup
    split
    · rename_i hk
      have hke : k = e.1 := Std.LawfulEqCmp.eq_of_compare hk
      -- The key cannot occur again behind its own entry.
      have hrest : (k, v) ∉ rest := fun hmem => by
        have hlt := hd.1 _ hmem
        rw [← hke] at hlt
        simp at hlt
      constructor
      · intro hv
        have hve : e.2 = v := Option.some.inj hv
        exact List.mem_cons.2 (Or.inl (Prod.ext hke hve.symm))
      · intro hmem
        rcases List.mem_cons.1 hmem with he | he
        · rw [← he]
        · exact absurd he hrest
    · rename_i hk
      rw [ih, List.mem_cons]
      constructor
      · exact Or.inr
      · rintro (he | he)
        · exact absurd (by rw [← he]; exact Std.ReflCmp.compare_self) hk
        · exact he

theorem get?_eq_some_iff (m : SortedMap κ ν) (k : κ) (v : ν) :
    m.get? k = some v ↔ (k, v) ∈ m.entries :=
  lookup_eq_some_iff m.ordered

/-- A key is listed exactly if it has some value. -/
theorem mem_keys {m : SortedMap κ ν} {k : κ} : k ∈ m.keys ↔ ∃ v, m.get? k = some v := by
  simp only [keys, List.mem_map, get?_eq_some_iff]
  constructor
  · rintro ⟨⟨_, v⟩, hmem, rfl⟩
    exact ⟨v, hmem⟩
  · rintro ⟨v, hmem⟩
    exact ⟨(k, v), hmem, rfl⟩

theorem keys_nodup (m : SortedMap κ ν) : m.keys.Nodup := by
  refine List.pairwise_map.2 (m.ordered.imp ?_)
  intro a b hlt hab
  rw [hab] at hlt
  simp at hlt

/-- A value is listed exactly if some key has it. -/
theorem mem_values (m : SortedMap κ ν) (v : ν) : v ∈ m.values ↔ ∃ k, m.get? k = some v := by
  simp only [values, List.mem_map, get?_eq_some_iff]
  constructor
  · rintro ⟨e, he, rfl⟩
    exact ⟨e.1, he⟩
  · rintro ⟨k, hk⟩
    exact ⟨(k, v), hk, rfl⟩

/-- The lookup in the entries whose keys meet a condition. -/
theorem lookup_filter_keys (p : κ → Bool) (k : κ) :
    ∀ es : List (κ × ν),
      lookup k (es.filter fun e => p e.1) = if p k then lookup k es else none
  | [] => by simp [lookup]
  | e :: rest => by
    have ih := lookup_filter_keys p k rest
    rw [List.filter_cons]
    by_cases hk : compare k e.1 = .eq
    · have hke : k = e.1 := Std.LawfulEqCmp.eq_of_compare hk
      subst hke
      cases hp : p e.1 <;> simp [lookup, ih, hp]
    · split
      · simp [lookup, hk, ih]
      · simp [lookup, hk, ih]

/-- In a filed map a listed value is found under its own key. -/
theorem FiledBy.mem_values_iff {key : ν → κ} {m : SortedMap κ ν} (h : m.FiledBy key) (v : ν) :
    v ∈ m.values ↔ m.get? (key v) = some v := by
  rw [mem_values]
  constructor
  · rintro ⟨k, hk⟩
    rw [h k v hk]
    exact hk
  · intro hv
    exact ⟨_, hv⟩

/-- A filed map lists its values in the order of the keys they name. -/
theorem FiledBy.values_ordered {key : ν → κ} {m : SortedMap κ ν} (h : m.FiledBy key) :
    m.values.Pairwise fun v v' => compare (key v) (key v') = .lt := by
  rw [values, List.pairwise_map]
  refine m.ordered.imp_of_mem ?_
  intro a b ha hb hlt
  rw [h a.1 a.2 ((get?_eq_some_iff m a.1 a.2).2 ha), h b.1 b.2 ((get?_eq_some_iff m b.1 b.2).2 hb)]
  exact hlt

/-- What a filed map lists after an erasure. -/
theorem FiledBy.values_erase {key : ν → κ} {m : SortedMap κ ν}
    (h : m.FiledBy key) (k : κ) :
    (m.erase k).values = m.values.filter fun v => compare k (key v) != .eq := by
  show (m.entries.filter fun e => compare k e.1 != .eq).map (·.2) = _
  rw [values, List.filter_map]
  congr 1
  refine List.filter_congr fun e he => ?_
  rw [Function.comp_apply, ← h e.1 e.2 ((get?_eq_some_iff m e.1 e.2).2 he)]

/-! ### Insertions and erasures -/

variable [Std.TransOrd κ]

@[simp] theorem get?_insert_self (m : SortedMap κ ν) (k : κ) (v : ν) :
    (m.insert k v).get? k = some v := by
  simp [get?_insert]

theorem get?_insert_ne (m : SortedMap κ ν) {k k' : κ} (v : ν) (h : k' ≠ k) :
    (m.insert k v).get? k' = m.get? k' := by
  simp [get?_insert, h]

@[simp] theorem get?_erase_self (m : SortedMap κ ν) (k : κ) : (m.erase k).get? k = none := by
  simp [get?_erase]

theorem get?_erase_ne (m : SortedMap κ ν) {k k' : κ} (h : k' ≠ k) :
    (m.erase k).get? k' = m.get? k' := by
  simp [get?_erase, h]

/-- What a map holds after an insertion was inserted or held before. -/
theorem get?_insert_eq_some {m : SortedMap κ ν} {k k' : κ} {v v' : ν}
    (h : (m.insert k v).get? k' = some v') : (k' = k ∧ v' = v) ∨ m.get? k' = some v' := by
  by_cases hk : k' = k
  · subst hk
    rw [get?_insert_self] at h
    exact Or.inl ⟨rfl, (Option.some.inj h).symm⟩
  · rw [get?_insert_ne m v hk] at h
    exact Or.inr h

/-- What a map holds after an erasure was held before. -/
theorem get?_erase_eq_some {m : SortedMap κ ν} {k k' : κ} {v : ν}
    (h : (m.erase k).get? k' = some v) : k' ≠ k ∧ m.get? k' = some v := by
  by_cases hk : k' = k
  · subst hk
    rw [get?_erase_self] at h
    cases h
  · rw [get?_erase_ne m hk] at h
    exact ⟨hk, h⟩

theorem FiledBy.insert {key : ν → κ} {m : SortedMap κ ν} (h : m.FiledBy key) {k : κ} {v : ν}
    (hv : key v = k) : (m.insert k v).FiledBy key := by
  intro k' v' hk'
  rcases get?_insert_eq_some hk' with ⟨rfl, rfl⟩ | hold
  · exact hv
  · exact h k' v' hold

theorem FiledBy.erase {key : ν → κ} {m : SortedMap κ ν} (h : m.FiledBy key) (k : κ) :
    (m.erase k).FiledBy key := by
  intro k' v hk'
  exact h k' v (get?_erase_eq_some hk').2

end SortedMap

/-! ## Sets -/

namespace SortedSet

variable {α : Type} [Ord α]

theorem contains_iff [BEq α] [LawfulBEq α] (s : SortedSet α) (x : α) :
    s.contains x = true ↔ x ∈ s.elems := by
  simp [contains]

theorem mem_eraseAll [BEq α] [LawfulBEq α] (s : SortedSet α) (xs : List α) (y : α) :
    y ∈ (s.eraseAll xs).elems ↔ y ∉ xs ∧ y ∈ s.elems := by
  induction xs generalizing s with
  | nil => simp [eraseAll]
  | cons x xs ih =>
    have step : y ∈ (s.eraseAll (x :: xs)).elems ↔ y ∉ xs ∧ y ∈ (s.erase x).elems := ih _
    rw [step, mem_elems_erase, List.mem_cons, not_or]
    constructor
    · rintro ⟨h, h', h''⟩
      exact ⟨⟨h', h⟩, h''⟩
    · rintro ⟨⟨h, h'⟩, h''⟩
      exact ⟨h', h, h''⟩

/-- A set is its list of members. -/
theorem eq_of_elems {s t : SortedSet α} (h : s.elems = t.elems) : s = t := by
  cases s
  cases t
  obtain rfl := h
  rfl

variable [Std.LawfulEqOrd α]

theorem elems_nodup (s : SortedSet α) : s.elems.Nodup := by
  refine s.ordered.imp ?_
  intro a b hlt hab
  subst hab
  simp at hlt

variable [Std.TransOrd α]

theorem mem_insertAll (s : SortedSet α) (xs : List α) (y : α) :
    y ∈ (s.insertAll xs).elems ↔ y ∈ xs ∨ y ∈ s.elems := by
  induction xs generalizing s with
  | nil => simp [insertAll]
  | cons x xs ih =>
    have step : y ∈ (s.insertAll (x :: xs)).elems ↔ y ∈ xs ∨ y ∈ (s.insert x).elems := ih _
    rw [step, mem_elems_insert, List.mem_cons]
    constructor
    · rintro (h | h | h)
      · exact Or.inl (Or.inr h)
      · exact Or.inl (Or.inl h)
      · exact Or.inr h
    · rintro ((h | h) | h)
      · exact Or.inr (Or.inl h)
      · exact Or.inl h
      · exact Or.inr (Or.inr h)

theorem mem_ofList (xs : List α) (y : α) : y ∈ (ofList xs).elems ↔ y ∈ xs := by
  rw [ofList, mem_insertAll]
  simp [empty]

/-- Sets with the same members list them alike. -/
theorem elems_eq_of_mem {s t : SortedSet α} (h : ∀ x, x ∈ s.elems ↔ x ∈ t.elems) :
    s.elems = t.elems := by
  have hperm := (List.perm_ext_iff_of_nodup s.elems_nodup t.elems_nodup).2 h
  refine hperm.eq_of_pairwise ?_ s.ordered t.ordered
  intro a b _ _ hab hba
  exact absurd (Std.TransCmp.lt_trans hab hba) (by simp)

/-- A set is the set of its members. -/
theorem ofList_elems (s : SortedSet α) : ofList s.elems = s :=
  eq_of_elems (elems_eq_of_mem fun x => mem_ofList s.elems x)

end SortedSet

end RouteConvergence
