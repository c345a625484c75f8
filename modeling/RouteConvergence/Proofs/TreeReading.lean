/-
RouteConvergence.Proofs.TreeReading — what was read is read again.

A type's reader accepts more than its writer makes: fields in any order or
by position, missing ones, repeated keys. So a document is not determined
by the value it is read as, but the value is determined by what it is
written as. `Data.Rereads` says so for one reader and one writer, and
every way to put readers together keeps it.

* Scalars, words, lists, sets, maps: `Rereads.texts`, `Rereads.word`,
  `Rereads.list`, `Rereads.set`, `Rereads.map`.
* Fields: `Rereads.required`, `Rereads.optional`, `Rereads.orElse` and
  `Rereads.optionalOrAbsent` take what a field was read as to what the
  written field is read as.
* `Rereads.record` — records whose fields are read again one by one.
-/
import RouteConvergence.Codec.Distribution
import RouteConvergence.Proofs.Containers
import RouteConvergence.Proofs.JsonLayouts

namespace RouteConvergence

/-! ## Lists of readings -/

/-- What a list was read as was read item by item. -/
theorem exists_of_mapM {β α : Type} {read : β → Option α} : ∀ {ts : List β} {xs : List α},
    ts.mapM read = some xs → ∀ x ∈ xs, ∃ t, read t = some x
  | [], xs, h, x, hx => by
    obtain rfl : [] = xs := by simpa using h
    exact absurd hx List.not_mem_nil
  | t :: ts, xs, h, x, hx => by
    simp only [List.mapM_cons, Option.bind_eq_bind, Option.bind_eq_some_iff, Option.pure_def,
      Option.some.injEq] at h
    obtain ⟨y, hy, ys, hys, rfl⟩ := h
    rcases List.mem_cons.1 hx with rfl | hx
    · exact ⟨t, hy⟩
    · exact exists_of_mapM hys x hx

theorem mapM_map_of_forall {β α : Type} {read : β → Option α} {write : α → β} :
    ∀ {xs : List α}, (∀ x ∈ xs, read (write x) = some x) → (xs.map write).mapM read = some xs
  | [], _ => rfl
  | x :: xs, h => by
    simp [h x List.mem_cons_self, mapM_map_of_forall fun y hy => h y (List.mem_cons_of_mem _ hy)]

namespace Data

/-- Readings one after the other give something if each does. As a rule to
be used from the outside in, it takes a long reading apart step by step. -/
theorem bind_eq_some {α β : Type} {x : Option α} {f : α → Option β} {b : β} :
    x >>= f = some b ↔ ∃ a, x = some a ∧ f a = some b :=
  Option.bind_eq_some_iff

/-! ## Collections -/

namespace Tree

variable {α κ ν : Type}

theorem exists_of_asList {read : Tree → Option α} {t : Tree} {xs : List α}
    (h : t.asList read = some xs) : ∀ x ∈ xs, ∃ t, read t = some x := by
  unfold asList at h
  split at h
  · exact exists_of_mapM h
  · obtain rfl : [] = xs := by simpa using h
    exact fun _ hx => absurd hx List.not_mem_nil
  · simp at h

theorem asList_tree {read : Tree → Option α} {write : α → Document} {xs : List α}
    (h : ∀ x ∈ xs, read (write x).tree = some x) :
    (Document.list (xs.map write)).tree.asList read = some xs := by
  rw [Document.tree, Document.trees_eq_map, List.map_map]
  exact mapM_map_of_forall h

/-- A set is written in order and without repetitions. -/
theorem asSet_tree [Ord α] [Std.TransOrd α] [Std.LawfulEqOrd α] {read : Tree → Option α}
    {write : α → Document} {s : SortedSet α} (h : ∀ x ∈ s.elems, read (write x).tree = some x) :
    (Document.list (s.toList.map write)).tree.asSet read = some s := by
  have helems : (Document.list (s.toList.map write)).tree.asList read = some s.elems :=
    asList_tree h
  rw [asSet, helems, Option.map_some, SortedSet.ofList_elems]

variable [Ord κ] [Std.TransOrd κ] {readKey : String → Option κ}

/-- Every entry of a map that was read has a key and a value that were
read. -/
theorem exists_of_asMap {read : Tree → Option ν} {t : Tree} {m : SortedMap κ ν}
    (h : t.asMap readKey read = some m) :
    ∀ e ∈ m.entries, (∃ s, readKey s = some e.1) ∧ ∃ t, read t = some e.2 := by
  unfold asMap at h
  split at h
  · obtain ⟨pairs, hpairs, rfl⟩ := Option.map_eq_some_iff.1 h
    intro e he
    obtain ⟨field, hfield⟩ := exists_of_mapM hpairs e (SortedMap.mem_ofList he)
    simp only [asPair, Option.bind_eq_bind, Option.bind_eq_some_iff, Option.pure_def,
      Option.some.injEq] at hfield
    obtain ⟨s, -, k, hk, v, hv, rfl⟩ := hfield
    exact ⟨⟨s, hk⟩, field.2, hv⟩
  · obtain rfl : SortedMap.empty = m := by simpa using h
    exact fun _ he => absurd he List.not_mem_nil
  · simp at h

theorem asMap_tree {read : Tree → Option ν} {writeKey : κ → String} {write : ν → Document}
    {m : SortedMap κ ν} (hkeys : ∀ e ∈ m.entries, readKey (writeKey e.1) = some e.1)
    (hvalues : ∀ e ∈ m.entries, read (write e.2).tree = some e.2) :
    (Document.record (m.entries.map fun e => (writeKey e.1, write e.2))).tree.asMap readKey read =
      some m := by
  rw [Document.tree, Document.fieldTrees_eq_map, List.map_map, asMap,
    mapM_map_of_forall fun e he => ?_]
  · exact congrArg some (SortedMap.ofList_entries m)
  · simp [asPair, hkeys e he, hvalues e he]

/-! ### Values that may be missing -/

/-- What was read as something was read by the reader that may read
nothing. -/
theorem exists_of_asOption {read : Tree → Option α} {t : Tree} {a : α}
    (h : t.asOption read = some (some a)) : ∃ t, read t = some a := by
  unfold asOption at h
  split at h
  · simp at h
  · split at h
    · simp at h
    · exact ⟨_, by simpa using h⟩
  · exact ⟨_, by simpa using h⟩

theorem asOption_tree {read : Tree → Option α} {write : α → Document}
    (hnull : ∀ a, write a ≠ .null) {o : Option α}
    (h : ∀ a, o = some a → read (write a).tree = some a) :
    (Model.optionalDocument write o).tree.asOption read = some o := by
  cases o with
  | none => rfl
  | some a =>
    have hagain := h a rfl
    have hne := hnull a
    show (write a).tree.asOption read = some (some a)
    cases hd : write a <;> simp_all [Document.tree, asOption]

/-- What a field that may be missing was read as was read by its reader. -/
theorem exists_of_optional {read : Tree → Option α} {s : Slot} {a : α}
    (h : s.optional read = some (some a)) : ∃ t, read t = some a := by
  cases s with
  | given t => exact exists_of_asOption h
  | absent => simp [Slot.optional] at h
  | cutOff => simp [Slot.optional] at h

/-- What a field with a default was read as is the default or was read by
its reader. -/
theorem exists_of_orElse {read : Tree → Option α} {s : Slot} {fallback a : α}
    (h : s.orElse fallback read = some a) : fallback = a ∨ ∃ t, read t = some a := by
  cases s with
  | given t => exact Or.inr ⟨t, h⟩
  | absent => exact Or.inl (Option.some.inj h)
  | cutOff => exact Or.inl (Option.some.inj h)

/-! ### Records -/

/-- Fields of which no two have one name fit a record that has those
names. -/
theorem fieldsFit_fieldTrees {names : List String} {fields : List (String × Document)}
    (closed : Bool) (hnames : fields.map (·.1) = names) (hnodup : names.Nodup) :
    fieldsFit names closed (Document.fieldTrees fields) = true := by
  subst hnames
  rw [Document.fieldTrees_eq_map, fieldsFit, Bool.and_eq_true]
  constructor
  · have hown : ∀ f ∈ fields, (!closed || (fields.map (·.1)).contains f.1) = true := by
      intro f hf
      simp only [Bool.or_eq_true, List.contains_iff_mem]
      exact Or.inr (List.mem_map_of_mem hf)
    simpa [List.all_eq_true] using fun name d hf => hown (name, d) hf
  · rw [List.all_eq_true]
    intro name _
    have hcount := List.nodup_iff_count.1 hnodup name
    rw [List.count, List.countP_map] at hcount
    rw [decide_eq_true_eq, ← List.countP_eq_length_filter, List.countP_map]
    simpa [Function.comp_def] using hcount

/-- The slot of a field holds what the field was written as. -/
theorem ofNamed_fieldTrees {fields : List (String × Document)} (hnodup : (fields.map (·.1)).Nodup)
    {f : String × Document} (hf : f ∈ fields) :
    Slot.ofNamed (Document.fieldTrees fields) f.1 = .given f.2.tree := by
  have hfind : (Document.fieldTrees fields).find? (fun g => g.1 == some f.1) =
      some (some f.1, f.2.tree) := by
    induction fields with
    | nil => exact absurd hf List.not_mem_nil
    | cons g fields ih =>
      rw [List.map_cons, List.nodup_cons] at hnodup
      rw [Document.fieldTrees]
      rcases List.mem_cons.1 hf with rfl | hf
      · simp
      · have hne : g.1 ≠ f.1 := fun heq => hnodup.1 (heq ▸ List.mem_map_of_mem hf)
        rw [List.find?_cons_of_neg (by simpa using hne)]
        exact ih hnodup.2 hf
  rw [Slot.ofNamed, hfind]

/-- A written record gives every field what it was written as. -/
theorem slots_record {names : List String} {fields : List (String × Document)} (closed : Bool)
    (hnames : fields.map (·.1) = names) (hnodup : names.Nodup) :
    ∃ written : Slots, (Document.record fields).tree.slots names closed = some written ∧
      ∀ f ∈ fields, written f.1 = .given f.2.tree := by
  refine ⟨Slot.ofNamed (Document.fieldTrees fields), ?_, fun f hf => ?_⟩
  · rw [Document.tree, slots, fieldsFit_fieldTrees closed hnames hnodup, if_pos rfl]
  · exact ofNamed_fieldTrees (by rwa [hnames]) hf

end Tree

/-! ## Readers and writers -/

/-- Whatever is read is read again from what it is written as. -/
def Rereads {α : Type} (read : Tree → Option α) (write : α → Document) : Prop :=
  ∀ ⦃t : Tree⦄ ⦃a : α⦄, read t = some a → read (write a).tree = some a

namespace Rereads

variable {α κ ν : Type} {read : Tree → Option α} {write : α → Document}

/-! ### Scalars -/

theorem text : Rereads Tree.asText .text := fun _ _ _ => rfl

theorem bool : Rereads Tree.asBool .bool := fun _ _ _ => rfl

theorem seconds : Rereads Tree.asSeconds fun n => .number n := by
  intro t n h
  obtain ⟨-, hsmall⟩ := Option.filter_eq_some_iff.1 h
  have hdigits : literalNat? (Text.intText n) = some n := Text.readNat?_natText n
  show (literalNat? (Text.intText n)).filter (· ≤ Text.maxSeconds) = some n
  rw [hdigits, Option.filter_some, if_pos hsmall]

/-- A word is read as the first value that has it, which stays the same. -/
theorem word {all : List α} {spell : α → String} :
    Rereads (Tree.asWord all spell) fun a => .text (spell a) := by
  have hagain : ∀ {s : String} {a : α}, (all.find? fun b => spell b == s) = some a →
      (all.find? fun b => spell b == spell a) = some a := by
    intro s a h
    obtain rfl : spell a = s := by simpa using List.find?_some h
    exact h
  intro t a h
  unfold Tree.asWord at h
  split at h
  · exact hagain h
  · exact hagain h
  · exact hagain h
  · simp at h

/-! ### Collections -/

theorem list (h : Rereads read write) : Rereads (Tree.asList read) fun xs => .list (xs.map write) := by
  intro t xs hread
  refine Tree.asList_tree fun x hx => ?_
  obtain ⟨t, ht⟩ := Tree.exists_of_asList hread x hx
  exact h ht

theorem texts : Rereads (Tree.asList Tree.asText) Document.texts := text.list

theorem set [Ord α] [Std.TransOrd α] [Std.LawfulEqOrd α] (h : Rereads read write) :
    Rereads (Tree.asSet read) fun s => .list (s.toList.map write) := by
  intro t s hread
  obtain ⟨xs, hxs, rfl⟩ := Option.map_eq_some_iff.1 hread
  refine Tree.asSet_tree fun x hx => ?_
  obtain ⟨t, ht⟩ := Tree.exists_of_asList hxs x ((SortedSet.mem_ofList xs x).1 hx)
  exact h ht

/-- Of fields with one key only the last is written. -/
theorem map [Ord κ] [Std.TransOrd κ] {readKey : String → Option κ} {writeKey : κ → String}
    {read : Tree → Option ν} {write : ν → Document}
    (hkey : ∀ ⦃s k⦄, readKey s = some k → readKey (writeKey k) = some k)
    (h : Rereads read write) :
    Rereads (Tree.asMap readKey read)
      fun m => .record (m.entries.map fun e => (writeKey e.1, write e.2)) := by
  intro t m hread
  have hentries := Tree.exists_of_asMap hread
  refine Tree.asMap_tree (fun e he => ?_) fun e he => ?_
  · obtain ⟨s, hs⟩ := (hentries e he).1
    exact hkey hs
  · obtain ⟨t, ht⟩ := (hentries e he).2
    exact h ht

theorem textMap : Rereads Tree.asTextMap textMapDocument :=
  map (fun _ _ _ => rfl) text

/-! ### Values that may be missing -/

theorem option (h : Rereads read write) (hnull : ∀ a, write a ≠ .null) :
    Rereads (Tree.asOption read) (Model.optionalDocument write) := by
  intro t o hread
  refine Tree.asOption_tree hnull fun a ha => ?_
  obtain ⟨t, ht⟩ := Tree.exists_of_asOption (ha ▸ hread)
  exact h ht

/-! ### Fields -/

theorem required (h : Rereads read write) {s : Slot} {a : α} (hs : s.required read = some a) :
    (Slot.given (write a).tree).required read = some a := by
  cases s with
  | given t => exact h hs
  | absent => simp [Slot.required] at hs
  | cutOff => simp [Slot.required] at hs

theorem optionalOrAbsent (h : Rereads read write) (hnull : ∀ a, write a ≠ .null) {s : Slot}
    {o : Option α} (hs : s.optionalOrAbsent read = some o) :
    (Slot.given (Model.optionalDocument write o).tree).optionalOrAbsent read = some o := by
  have hnone : none = o → (Slot.given (Model.optionalDocument write o).tree).optionalOrAbsent read =
      some o := by
    rintro rfl
    rfl
  cases s with
  | given t => exact h.option hnull hs
  | absent => exact hnone (Option.some.inj hs)
  | cutOff => exact hnone (Option.some.inj hs)

theorem optional (h : Rereads read write) (hnull : ∀ a, write a ≠ .null) {s : Slot} {o : Option α}
    (hs : s.optional read = some o) :
    (Slot.given (Model.optionalDocument write o).tree).optional read = some o := by
  refine h.optionalOrAbsent hnull (s := s) ?_
  cases s with
  | given t => exact hs
  | absent => exact hs
  | cutOff => simp [Slot.optional] at hs

theorem orElse (h : Rereads read write) {fallback : α}
    (hfallback : read (write fallback).tree = some fallback) {s : Slot} {a : α}
    (hs : s.orElse fallback read = some a) :
    (Slot.given (write a).tree).orElse fallback read = some a := by
  cases s with
  | given t => exact h hs
  | absent =>
    obtain rfl := Option.some.inj hs
    exact hfallback
  | cutOff =>
    obtain rfl := Option.some.inj hs
    exact hfallback

/-! ### Records -/

/-- Records are read again if their fields are, whatever the order they
were read in. -/
theorem record {names : List String} {closed : Bool} {build : Slots → Option α}
    {fields : α → List (String × Document)} (hnames : ∀ a, (fields a).map (·.1) = names)
    (hnodup : names.Nodup)
    (hfields : ∀ {slot a}, build slot = some a → ∀ {written : Slots},
      (∀ f ∈ fields a, written f.1 = .given f.2.tree) → build written = some a) :
    Rereads (fun t => (t.slots names closed).bind build) fun a => .record (fields a) := by
  intro t a hread
  obtain ⟨slot, -, hbuild⟩ := Option.bind_eq_some_iff.1 hread
  obtain ⟨written, hslots, hgiven⟩ := Tree.slots_record closed (hnames a) hnodup
  show ((Document.record (fields a)).tree.slots names closed).bind build = some a
  rw [hslots, Option.bind_some]
  exact hfields hbuild hgiven

end Rereads

end Data

end RouteConvergence
