/-
RouteConvergence.Proofs.ZoneNames — a zone, name by name.

Claims and releases go entry by entry, each entry is planned from what
stands at its name, and its batch speaks of that name only. So what one
entry does is a function of the records at its name (`claimAt`,
`releaseAt`), and a whole set of entries with distinct names does at each
name what its own entry does there (`Zone.converge_eachAlone`).

* `Zone.recordsAt_eq` — the records at a name are the three lookups of
  its address and text records.
* `Zone.apply_at` — a batch that speaks of one name is refused for that
  name only, or taken.
* `Zone.claim`, `Zone.release` — the two entry procedures as functions of
  the zone, and `Zone.claim_spec`, `Zone.release_spec` — that they are
  `claimAt` and `releaseAt` at the entry's name and nothing elsewhere.
* `Zone.OnlyAt` — the frame: two zones that differ at one name at most.

A zone is `Filed` if each record set stands under its own name and type.
Without that a listing by name and a lookup by key would not agree.
-/
import RouteConvergence.Alias.Protocol
import RouteConvergence.Proofs.Containers
import RouteConvergence.Proofs.Runs

namespace RouteConvergence

/-! ## Whose a name is -/

namespace Claim

variable {records : List RecordSet} {domain token : String}

/-- A name is ours by a text record that holds our token. -/
theorem of_eq_ours_iff {text : RecordSet} :
    of records domain token = .ours text ↔ findText records = some text ∧ token ∈ text.values := by
  unfold of
  cases findText records with
  | none => cases (addressRecords records).isEmpty <;> simp
  | some t =>
    by_cases hmem : token ∈ t.values
    · simp only [hmem, if_true, ours.injEq, Option.some.injEq]
      constructor
      · rintro rfl
        exact ⟨rfl, hmem⟩
      · exact And.left
    · simp only [hmem, if_false, Option.some.injEq]
      constructor
      · intro h
        cases h
      · rintro ⟨rfl, h⟩
        exact absurd h hmem

/-- A name is nobody's if neither a text nor an address stands there. -/
theorem of_eq_free_iff :
    of records domain token = .free ↔ findText records = none ∧ addressRecords records = [] := by
  unfold of
  cases findText records with
  | none => cases hr : addressRecords records <;> simp
  | some t => by_cases hmem : token ∈ t.values <;> simp [hmem]

end Claim

namespace Zone

/-- Every record set stands under its own name and type. -/
def Filed (z : Zone) : Prop := z.records.FiledBy RecordSet.key

theorem filed_empty : Filed empty := SortedMap.filedBy_empty _

/-! ## The records at a name -/

/-- The entries of the records at a name, type after type. -/
def entriesAt (z : Zone) (name : String) : List (RecordSet.Key × RecordSet) :=
  RecordType.all.filterMap fun type =>
    (z.records.get? (name, type)).map fun r => ((name, type), r)

theorem compare_types (name : String) (s t : RecordType) :
    compare ((name, s) : RecordSet.Key) (name, t) = compare s t := by
  show (compare name name).then (compare s t) = compare s t
  rw [show compare name name = .eq from Std.ReflCmp.compare_self]
  rfl

theorem entriesAt_ordered (z : Zone) (name : String) :
    (z.entriesAt name).Pairwise fun a b => compare a.1 b.1 = .lt := by
  refine List.Pairwise.filterMap _ ?_ (show RecordType.all.Pairwise fun s t => compare s t = .lt by
    decide)
  intro s t hst b hb c hc
  obtain ⟨r, -, rfl⟩ := Option.map_eq_some_iff.1 hb
  obtain ⟨r', -, rfl⟩ := Option.map_eq_some_iff.1 hc
  rw [compare_types]
  exact hst

theorem lookup_entriesAt (z : Zone) (name : String) (k : RecordSet.Key) :
    SortedMap.lookup k (z.entriesAt name) = if k.1 == name then z.records.get? k else none := by
  obtain ⟨other, type⟩ := k
  have hlist : ∀ r, ((other, type), r) ∈ z.entriesAt name ↔
      other = name ∧ z.records.get? (other, type) = some r := by
    intro r
    simp only [entriesAt, List.mem_filterMap, Option.map_eq_some_iff]
    constructor
    · rintro ⟨t, -, r', hr', he⟩
      cases he
      exact ⟨rfl, hr'⟩
    · rintro ⟨rfl, hr⟩
      exact ⟨type, by cases type <;> decide, r, hr, rfl⟩
  apply Option.ext
  intro r
  rw [SortedMap.lookup_eq_some_iff (z.entriesAt_ordered name), hlist]
  by_cases hname : other = name <;> simp [hname]

/-- **What stands at a name** is what stands under each of its types. -/
theorem recordsAt_eq {z : Zone} (h : z.Filed) (name : String) :
    z.recordsAt name = RecordType.all.filterMap fun type => z.records.get? (name, type) := by
  have hentries : (z.records.entries.filter fun e => e.1.1 == name) = z.entriesAt name := by
    refine SortedMap.entries_eq_of_lookup (z.records.ordered.filter _) (z.entriesAt_ordered name) ?_
    intro k
    rw [lookup_entriesAt]
    exact SortedMap.lookup_filter_keys (fun k => k.1 == name) k _
  have hvalues : z.recordsAt name = (z.entriesAt name).map (·.2) := by
    rw [← hentries, recordsAt, SortedMap.values, List.filter_map]
    congr 1
    refine List.filter_congr ?_
    intro e he
    have hkey := h e.1 e.2 ((SortedMap.get?_eq_some_iff _ _ _).2 he)
    simp [← hkey, RecordSet.key]
  rw [hvalues, entriesAt, List.map_filterMap]
  simp only [Option.map_map, Function.comp_def, Option.map_id']

theorem type_of_get? {z : Zone} (h : z.Filed) {name : String} {type : RecordType} {r : RecordSet}
    (hr : z.records.get? (name, type) = some r) : r.name = name ∧ r.type = type := by
  have hkey := h _ _ hr
  exact ⟨congrArg Prod.fst hkey, congrArg Prod.snd hkey⟩

theorem mem_recordsAt {z : Zone} (h : z.Filed) (name : String) (r : RecordSet) :
    r ∈ z.recordsAt name ↔ r.name = name ∧ z.records.get? r.key = some r := by
  rw [recordsAt, List.mem_filter, h.mem_values_iff]
  simp [and_comm]

/-- A record set at a name is found under its type. -/
theorem mem_recordsAt_type {z : Zone} (h : z.Filed) (name : String) (type : RecordType)
    (r : RecordSet) :
    r ∈ z.recordsAt name ∧ r.type = type ↔ z.records.get? (name, type) = some r := by
  rw [mem_recordsAt h]
  constructor
  · rintro ⟨⟨rfl, hget⟩, rfl⟩
    exact hget
  · intro hget
    obtain ⟨rfl, rfl⟩ := type_of_get? h hget
    exact ⟨⟨rfl, hget⟩, rfl⟩

/-- Filed zones with the same records at every name hold the same records. -/
theorem records_eq {z z' : Zone} (h : z.Filed) (h' : z'.Filed)
    (hsame : ∀ name, z'.recordsAt name = z.recordsAt name) : z'.records = z.records := by
  refine SortedMap.ext_get? fun k => Option.ext fun r => ?_
  rw [← mem_recordsAt_type h', ← mem_recordsAt_type h, hsame]

/-- The records of some types at a name. -/
theorem filter_recordsAt {z : Zone} (h : z.Filed) (name : String) (p : RecordType → Bool) :
    (z.recordsAt name).filter (fun r => p r.type) =
      (RecordType.all.filter p).filterMap fun type => z.records.get? (name, type) := by
  rw [recordsAt_eq h, List.filter_filterMap, List.filterMap_filter]
  congr 1
  funext type
  cases hr : z.records.get? (name, type) with
  | none => simp
  | some r => simp [Option.filter, (type_of_get? h hr).2]

theorem findText_recordsAt {z : Zone} (h : z.Filed) (name : String) :
    findText (z.recordsAt name) = z.records.get? (name, .txt) := by
  rw [findText, ← List.head?_filter, filter_recordsAt h name (· == .txt)]
  show ([RecordType.txt].filterMap fun type => z.records.get? (name, type)).head? = _
  cases hr : z.records.get? (name, .txt) <;> simp [hr]

theorem mem_addressRecords {z : Zone} (h : z.Filed) (name : String) (r : RecordSet) :
    r ∈ addressRecords (z.recordsAt name) ↔
      r.type.isAddress = true ∧ z.records.get? (name, r.type) = some r := by
  rw [addressRecords, List.mem_filter, mem_recordsAt h]
  constructor
  · rintro ⟨⟨rfl, hr⟩, haddr⟩
    exact ⟨haddr, hr⟩
  · rintro ⟨haddr, hr⟩
    obtain ⟨hname, -⟩ := type_of_get? h hr
    subst hname
    exact ⟨⟨rfl, hr⟩, haddr⟩

/-! ## Batches -/

/-- The lookups after record sets of one name were written, one per type. -/
theorem get?_written (name target : String) (other : String) (t : RecordType) :
    ∀ (types : List RecordType) (records : SortedMap RecordSet.Key RecordSet),
      ((types.map fun s => Change.upsert (.aliasTo name s target)).foldl change records).get?
          (other, t) =
        if other = name ∧ t ∈ types then some (.aliasTo name t target)
        else records.get? (other, t)
  | [], records => by simp
  | s :: types, records => by
    rw [List.map_cons, List.foldl_cons, get?_written name target other t types]
    by_cases hmem : other = name ∧ t ∈ types
    · simp [hmem]
    · rw [if_neg hmem]
      show (records.insert (name, s) (.aliasTo name s target)).get? (other, t) = _
      by_cases hkey : ((other, t) : RecordSet.Key) = (name, s)
      · cases hkey
        simp
      · rw [SortedMap.get?_insert_ne _ _ hkey]
        have hcons : ¬ (other = name ∧ t ∈ s :: types) := by
          rintro ⟨hname, ht⟩
          rcases List.mem_cons.1 ht with rfl | ht
          · exact hkey (by rw [hname])
          · exact hmem ⟨hname, ht⟩
        rw [if_neg hcons]

/-- The lookups after some record sets were removed. -/
theorem get?_removed (k : RecordSet.Key) :
    ∀ (gone : List RecordSet) (records : SortedMap RecordSet.Key RecordSet),
      ((gone.map Change.delete).foldl change records).get? k =
        if k ∈ gone.map RecordSet.key then none else records.get? k
  | [], records => by simp
  | r :: gone, records => by
    rw [List.map_cons, List.foldl_cons, get?_removed k gone]
    show (if k ∈ gone.map RecordSet.key then none else (records.erase r.key).get? k) = _
    by_cases hk : k = r.key
    · subst hk
      simp
    · rw [SortedMap.get?_erase_ne _ hk]
      simp [hk]

/-- **A batch that speaks of one name** is refused if the zone fails at that
name, and else taken: the record sets it removes have to be there. -/
theorem apply_at {z : Zone} {batch : Batch} {name : String} (hne : batch ≠ [])
    (hname : ∀ c ∈ batch, c.record.name = name)
    (hthere : ∀ c ∈ batch, c.action = .delete → z.records.contains c.record.key = true) :
    z.apply batch =
      if name ∈ z.failing then (.error (.backend (.injectedAt name)), z)
      else (.ok (), { z with
        records := batch.foldl change z.records, batches := z.batches ++ [batch] }) := by
  by_cases hfail : name ∈ z.failing
  · obtain ⟨c, rest, rfl⟩ := List.exists_cons_of_ne_nil hne
    have hc : c.record.name = name := hname c List.mem_cons_self
    simp [apply, fault?, List.find?, hc, hfail]
  · have hnames : (batch.find? fun c => z.failing.contains c.record.name) = none := by
      rw [List.find?_eq_none]
      intro c hc
      simpa [hname c hc] using hfail
    have hgone :
        (batch.find? fun c => c.action == .delete && !z.records.contains c.record.key) = none := by
      rw [List.find?_eq_none]
      intro c hc hbad
      simp only [Bool.and_eq_true, beq_iff_eq, Bool.not_eq_true'] at hbad
      rw [hthere c hc hbad.1] at hbad
      exact absurd hbad.2 (by simp)
    rw [apply, fault?, hnames, if_neg hfail]
    simp [hgone]

/-- A batch keeps a zone filed, whatever it holds. -/
theorem filed_foldl_change (batch : Batch) :
    ∀ {records : SortedMap RecordSet.Key RecordSet}, records.FiledBy RecordSet.key →
      (batch.foldl change records).FiledBy RecordSet.key := by
  induction batch with
  | nil => exact id
  | cons c batch ih =>
    intro records h
    refine ih ?_
    unfold change
    split
    · exact h.insert rfl
    · exact h.erase _

end Zone

/-! ## What an entry does at its name -/

/-- The record sets by which an entry points at a target: its addresses,
and a text with the given tokens. -/
def AliasEntry.pointing (entry : AliasEntry) (target : String) (tokens : List String) :
    List RecordSet :=
  ((RecordType.all.filter fun t => t.isAddress && entry.types.contains t).map fun t =>
    .aliasTo entry.domain t target) ++ [.txt entry.domain tokens]

/-- What is left of a text record once a token is withdrawn. -/
def withdrawn (name token : String) (tokens : List String) : List RecordSet :=
  match tokens.filter (· != token) with
  | [] => []
  | others => [.txt name others]

/-- What claiming an entry comes to, given what stands at its name. -/
def claimAt (token target : String) (entry : AliasEntry) (failing : Bool)
    (records : List RecordSet) : Outcome Unit × List RecordSet :=
  match Claim.of records entry.domain token with
  | .foreign cause => (.error (.conflict cause), records)
  | .free =>
    if failing then (.error (.backend (.injectedAt entry.domain)), records)
    else (.ok (), entry.pointing target [token])
  | .ours text =>
    if failing then (.error (.backend (.injectedAt entry.domain)), records)
    else (.ok (), entry.pointing target text.values)

/-- What releasing an entry comes to, given what stands at its name. -/
def releaseAt (token : String) (entry : AliasEntry) (failing : Bool)
    (records : List RecordSet) : Outcome Unit × List RecordSet :=
  match Claim.of records entry.domain token with
  | .foreign _ => (.ok (), records)
  | .free => (.ok (), records)
  | .ours text =>
    if failing then (.error (.backend (.injectedAt entry.domain)), records)
    else
      (.ok (), (records.filter fun r => r.type.isAddress && !entry.types.contains r.type) ++
        withdrawn entry.domain token text.values)

namespace Zone

/-- A batch submitted unless it is empty. -/
def submit (z : Zone) (batch : Batch) : Outcome Unit × Zone :=
  if batch.isEmpty then (.ok (), z) else z.apply batch

/-- Makes one entry point at a target. -/
def claim (token target : String) (entry : AliasEntry) (z : Zone) : Outcome Unit × Zone :=
  match planUpsert (z.recordsAt entry.domain) target entry token with
  | .error cause => (.error (.conflict cause), z)
  | .ok batch => z.submit batch

/-- Releases one entry. -/
def release (token : String) (entry : AliasEntry) (z : Zone) : Outcome Unit × Zone :=
  match planDelete (z.recordsAt entry.domain) entry token with
  | .release batch => z.submit batch
  | .notOwned _ => (.ok (), z)

/-- Two zones that differ at one name at most. -/
structure OnlyAt (name : String) (z z' : Zone) : Prop where
  filed : z.Filed → z'.Filed
  failing : z'.failing = z.failing
  elsewhere : ∀ other type, other ≠ name →
    z'.records.get? (other, type) = z.records.get? (other, type)

theorem OnlyAt.refl (name : String) (z : Zone) : OnlyAt name z z :=
  ⟨id, rfl, fun _ _ _ => rfl⟩

/-- The records at any other name are the same. -/
theorem OnlyAt.recordsAt {name : String} {z z' : Zone} (h : OnlyAt name z z') (hz : z.Filed)
    {other : String} (hne : other ≠ name) : z'.recordsAt other = z.recordsAt other := by
  rw [recordsAt_eq hz, recordsAt_eq (h.filed hz)]
  congr 1
  funext type
  exact h.elsewhere other type hne

/-- Which record sets the address records of some types are. -/
theorem mem_keys_addressRecords {z : Zone} (h : z.Filed) (name : String) (p : RecordType → Bool)
    (other : String) (t : RecordType) :
    ((other, t) : RecordSet.Key) ∈
        ((addressRecords (z.recordsAt name)).filter fun r => p r.type).map RecordSet.key ↔
      other = name ∧ t.isAddress = true ∧ p t = true ∧ ∃ r, z.records.get? (name, t) = some r := by
  rw [List.mem_map]
  constructor
  · rintro ⟨r, hr, hkey⟩
    obtain ⟨hmem, hp⟩ := List.mem_filter.1 hr
    obtain ⟨haddr, hget⟩ := (mem_addressRecords h name r).1 hmem
    obtain ⟨hname, -⟩ := type_of_get? h hget
    cases hkey
    exact ⟨hname, haddr, hp, r, hget⟩
  · rintro ⟨rfl, haddr, hp, r, hget⟩
    obtain ⟨hname, htype⟩ := type_of_get? h hget
    subst htype
    exact ⟨r, List.mem_filter.2 ⟨(mem_addressRecords h other r).2 ⟨haddr, hget⟩, hp⟩,
      Prod.ext hname rfl⟩

/-! ### Claiming -/

/-- The lookups after a name was claimed. -/
theorem get?_claimed {z : Zone} (h : z.Filed) (token target : String) (entry : AliasEntry)
    (values : List String) (other : String) (t : RecordType) :
    ((claimBatch (z.recordsAt entry.domain) target entry token values).foldl change
        z.records).get? (other, t) =
      if other = entry.domain then
        if t = .txt then some (.txt entry.domain (addToken token values))
        else if entry.types.contains t then some (.aliasTo entry.domain t target)
        else none
      else z.records.get? (other, t) := by
  have hkeys := mem_keys_addressRecords h entry.domain (fun t => !entry.types.contains t) other t
  rw [claimBatch, List.foldl_append, List.foldl_append]
  show ((List.foldl change _ _).insert (entry.domain, .txt)
    (.txt entry.domain (addToken token values))).get? (other, t) = _
  by_cases hname : other = entry.domain
  · subst hname
    by_cases htxt : t = .txt
    · subst htxt
      simp
    · have haddr : t.isAddress = true := by cases t <;> first | rfl | exact absurd rfl htxt
      rw [SortedMap.get?_insert_ne _ _ (by simpa using htxt), get?_removed, get?_written]
      by_cases ht : entry.types.contains t = true
      · have hmem := (SortedSet.contains_iff _ _).1 ht
        simp [hkeys, ht, htxt, hmem, SortedSet.toList]
      · have hmem : t ∉ entry.types.toList := fun hc => ht ((SortedSet.contains_iff _ _).2 hc)
        cases hold : z.records.get? (entry.domain, t) <;> simp [hkeys, ht, htxt, hmem, haddr, hold]
  · have hne : ((other, t) : RecordSet.Key) ≠ (entry.domain, .txt) := fun hc =>
      hname (congrArg Prod.fst hc)
    rw [SortedMap.get?_insert_ne _ _ hne, get?_removed, get?_written]
    simp [hkeys, hname]

/-! ### Releasing -/

/-- Withdrawing a token touches the text record only. -/
theorem get?_withdrawn {token name : String} {text : RecordSet} (hkey : text.key = (name, .txt))
    (records : SortedMap RecordSet.Key RecordSet) (k : RecordSet.Key) :
    (change records (withdrawToken name token text)).get? k =
      if k = (name, .txt) then (withdrawn name token text.values).head? else records.get? k := by
  unfold withdrawToken withdrawn
  cases text.values.filter (· != token) with
  | nil =>
    show (records.erase text.key).get? k = _
    rw [hkey]
    by_cases hk : k = (name, .txt)
    · rw [hk]
      simp
    · rw [SortedMap.get?_erase_ne _ hk, if_neg hk]
  | cons v others =>
    show (records.insert (name, .txt) (.txt name (v :: others))).get? k = _
    by_cases hk : k = (name, .txt)
    · rw [hk]
      simp
    · rw [SortedMap.get?_insert_ne _ _ hk, if_neg hk]

/-- The changes that release an entry, given the text record at its name. -/
def releaseBatch (records : List RecordSet) (entry : AliasEntry) (token : String)
    (text : RecordSet) : Batch :=
  ((addressRecords records).filter fun r => entry.types.contains r.type).map Change.delete ++
    [withdrawToken entry.domain token text]

/-- The lookups after a name was released. -/
theorem get?_released {z : Zone} (h : z.Filed) (token : String) (entry : AliasEntry)
    {text : RecordSet} (htext : z.records.get? (entry.domain, .txt) = some text)
    (other : String) (t : RecordType) :
    ((releaseBatch (z.recordsAt entry.domain) entry token text).foldl change
        z.records).get? (other, t) =
      if other = entry.domain then
        if t = .txt then (withdrawn entry.domain token text.values).head?
        else if entry.types.contains t then none
        else z.records.get? (other, t)
      else z.records.get? (other, t) := by
  have hkeys := mem_keys_addressRecords h entry.domain entry.types.contains other t
  obtain ⟨hname, htype⟩ := type_of_get? h htext
  rw [releaseBatch, List.foldl_append]
  show (change _ (withdrawToken entry.domain token text)).get? (other, t) = _
  rw [get?_withdrawn (Prod.ext hname htype), get?_removed]
  by_cases hother : other = entry.domain
  · subst hother
    by_cases htxt : t = .txt
    · simp [htxt]
    · have haddr : t.isAddress = true := by cases t <;> first | rfl | exact absurd rfl htxt
      by_cases ht : entry.types.contains t = true
      · cases hold : z.records.get? (entry.domain, t) <;> simp [hkeys, ht, htxt, haddr, hold]
      · simp [hkeys, ht, htxt]
  · simp [hkeys, hother]

/-! ### One entry -/

theorem submit_of_ne_nil (z : Zone) {batch : Batch} (h : batch ≠ []) :
    z.submit batch = z.apply batch := by
  rw [submit, if_neg (by simpa using h)]

/-- A zone after a batch that spoke of one name. -/
theorem onlyAt_foldl {z : Zone} {batch : Batch} {name : String}
    (h : ∀ other t, other ≠ name →
      (batch.foldl change z.records).get? (other, t) = z.records.get? (other, t)) :
    OnlyAt name z
      { z with records := batch.foldl change z.records, batches := z.batches ++ [batch] } where
  filed := filed_foldl_change batch
  failing := rfl
  elsewhere := h

theorem claimBatch_ne_nil (records : List RecordSet) (target : String) (entry : AliasEntry)
    (token : String) (values : List String) :
    claimBatch records target entry token values ≠ [] := by
  simp [claimBatch]

/-- The changes of a claim speak of the entry's name, and remove only what
is there. -/
theorem mem_claimBatch {z : Zone} (h : z.Filed) {token target : String} {entry : AliasEntry}
    {values : List String} {c : Change}
    (hc : c ∈ claimBatch (z.recordsAt entry.domain) target entry token values) :
    c.record.name = entry.domain ∧
      (c.action = .delete → z.records.contains c.record.key = true) := by
  rw [claimBatch, List.mem_append, List.mem_append] at hc
  rcases hc with (hc | hc) | hc
  · obtain ⟨t, -, rfl⟩ := List.mem_map.1 hc
    exact ⟨rfl, fun hdel => by cases hdel⟩
  · obtain ⟨r, hr, rfl⟩ := List.mem_map.1 hc
    obtain ⟨hmem, -⟩ := List.mem_filter.1 hr
    obtain ⟨hname, hget⟩ := (mem_recordsAt h _ r).1 (List.mem_filter.1 hmem).1
    exact ⟨hname, fun _ => SortedMap.contains_iff.2 ⟨r, hget⟩⟩
  · rw [List.mem_singleton.1 hc]
    exact ⟨rfl, fun hdel => by cases hdel⟩

/-- The changes of a release speak of the entry's name, and remove only what
is there. -/
theorem mem_releaseBatch {z : Zone} (h : z.Filed) {token : String} {entry : AliasEntry}
    {text : RecordSet} (htext : z.records.get? (entry.domain, .txt) = some text) {c : Change}
    (hc : c ∈ releaseBatch (z.recordsAt entry.domain) entry token text) :
    c.record.name = entry.domain ∧
      (c.action = .delete → z.records.contains c.record.key = true) := by
  obtain ⟨hname, htype⟩ := type_of_get? h htext
  have hkey : text.key = (entry.domain, .txt) := Prod.ext hname htype
  rw [releaseBatch, List.mem_append] at hc
  rcases hc with hc | hc
  · obtain ⟨r, hr, rfl⟩ := List.mem_map.1 hc
    obtain ⟨hmem, -⟩ := List.mem_filter.1 hr
    obtain ⟨hrname, hget⟩ := (mem_recordsAt h _ r).1 (List.mem_filter.1 hmem).1
    exact ⟨hrname, fun _ => SortedMap.contains_iff.2 ⟨r, hget⟩⟩
  · rw [List.mem_singleton.1 hc]
    unfold withdrawToken
    split
    · refine ⟨hname, fun _ => SortedMap.contains_iff.2 ⟨text, ?_⟩⟩
      show z.records.get? text.key = some text
      rw [hkey]
      exact htext
    · exact ⟨rfl, fun hdel => by cases hdel⟩

/-- A claim that goes through leaves the entry pointing at the target. -/
theorem recordsAt_claimed {z z' : Zone} (h : z.Filed) (h' : z'.Filed) {token target : String}
    {entry : AliasEntry} {values : List String}
    (hz' : z'.records =
      (claimBatch (z.recordsAt entry.domain) target entry token values).foldl change z.records) :
    z'.recordsAt entry.domain = entry.pointing target (addToken token values) := by
  rw [recordsAt_eq h', hz']
  simp only [get?_claimed h, if_pos, RecordType.all, AliasEntry.pointing]
  cases ha : entry.types.contains .a <;> cases haaaa : entry.types.contains .aaaa <;>
    simp [List.filter, ha, haaaa, RecordType.isAddress]

/-- A release that goes through leaves the addresses of other types and the
tokens of others. -/
theorem recordsAt_released {z z' : Zone} (h : z.Filed) (h' : z'.Filed) {token : String}
    {entry : AliasEntry} {text : RecordSet}
    (htext : z.records.get? (entry.domain, .txt) = some text)
    (hz' : z'.records =
      (releaseBatch (z.recordsAt entry.domain) entry token text).foldl change z.records) :
    z'.recordsAt entry.domain =
      ((z.recordsAt entry.domain).filter fun r =>
        r.type.isAddress && !entry.types.contains r.type) ++
          withdrawn entry.domain token text.values := by
  rw [recordsAt_eq h', hz', filter_recordsAt h _ fun t => t.isAddress && !entry.types.contains t]
  simp only [get?_released h token entry htext, if_pos, RecordType.all]
  have hlast : (withdrawn entry.domain token text.values).head?.toList =
      withdrawn entry.domain token text.values := by
    unfold withdrawn
    cases text.values.filter (· != token) <;> rfl
  rw [← hlast]
  cases ha : entry.types.contains .a <;> cases haaaa : entry.types.contains .aaaa <;>
    cases (withdrawn entry.domain token text.values).head? <;>
    cases hra : z.records.get? (entry.domain, .a) <;>
    cases hraaaa : z.records.get? (entry.domain, .aaaa) <;>
    simp [List.filter, ha, haaaa, hra, hraaaa, RecordType.isAddress]

/-- **Claiming an entry** is `claimAt` at its name and nothing elsewhere. -/
theorem claim_spec {z : Zone} (h : z.Filed) (token target : String) (entry : AliasEntry) :
    OnlyAt entry.domain z (z.claim token target entry).2 ∧
      ((z.claim token target entry).1, (z.claim token target entry).2.recordsAt entry.domain) =
        claimAt token target entry (z.failing.contains entry.domain)
          (z.recordsAt entry.domain) := by
  -- A name that is ours to change takes the batch unless the zone fails there.
  have hbatch : ∀ values : List String,
      let batch := claimBatch (z.recordsAt entry.domain) target entry token values
      OnlyAt entry.domain z (z.submit batch).2 ∧
        ((z.submit batch).1, (z.submit batch).2.recordsAt entry.domain) =
          if entry.domain ∈ z.failing then
            (.error (.backend (.injectedAt entry.domain)), z.recordsAt entry.domain)
          else (.ok (), entry.pointing target (addToken token values)) := by
    intro values batch
    rw [submit_of_ne_nil z (claimBatch_ne_nil _ _ _ _ _),
      apply_at (claimBatch_ne_nil _ _ _ _ _) (fun c hc => (mem_claimBatch h hc).1)
        (fun c hc => (mem_claimBatch h hc).2)]
    split
    · exact ⟨OnlyAt.refl _ z, rfl⟩
    · have honly : OnlyAt entry.domain z
          { z with records := batch.foldl change z.records, batches := z.batches ++ [batch] } :=
        onlyAt_foldl fun other t hne => by rw [get?_claimed h, if_neg hne]
      exact ⟨honly, Prod.ext rfl (recordsAt_claimed h (honly.filed h) rfl)⟩
  unfold claim planUpsert claimAt
  cases hclaim : Claim.of (z.recordsAt entry.domain) entry.domain token with
  | foreign cause => exact ⟨OnlyAt.refl _ z, rfl⟩
  | free => simpa [addToken] using hbatch []
  | ours text =>
    have hours := (Claim.of_eq_ours_iff.1 hclaim).2
    simpa [addToken, hours] using hbatch text.values

/-- **Releasing an entry** is `releaseAt` at its name and nothing elsewhere. -/
theorem release_spec {z : Zone} (h : z.Filed) (token : String) (entry : AliasEntry) :
    OnlyAt entry.domain z (z.release token entry).2 ∧
      ((z.release token entry).1, (z.release token entry).2.recordsAt entry.domain) =
        releaseAt token entry (z.failing.contains entry.domain) (z.recordsAt entry.domain) := by
  unfold release planDelete releaseAt
  cases hclaim : Claim.of (z.recordsAt entry.domain) entry.domain token with
  | foreign cause => exact ⟨OnlyAt.refl _ z, rfl⟩
  | free => exact ⟨OnlyAt.refl _ z, rfl⟩
  | ours text =>
    have htext : z.records.get? (entry.domain, .txt) = some text := by
      rw [← findText_recordsAt h]
      exact (Claim.of_eq_ours_iff.1 hclaim).1
    let batch := releaseBatch (z.recordsAt entry.domain) entry token text
    have hne : batch ≠ [] := by simp [batch, releaseBatch]
    have happly := apply_at hne (fun c hc => (mem_releaseBatch h htext hc).1)
      (fun c hc => (mem_releaseBatch h htext hc).2)
    show OnlyAt entry.domain z (z.submit batch).2 ∧
      ((z.submit batch).1, (z.submit batch).2.recordsAt entry.domain) = _
    rw [submit_of_ne_nil z hne, happly]
    by_cases hfail : entry.domain ∈ z.failing
    · simpa [hfail] using OnlyAt.refl _ z
    · have honly : OnlyAt entry.domain z
          { z with records := batch.foldl change z.records, batches := z.batches ++ [batch] } :=
        onlyAt_foldl fun other t hother => by rw [get?_released h token entry htext, if_neg hother]
      have hrecords := recordsAt_released h (honly.filed h) htext rfl
      simpa [hfail] using And.intro honly hrecords

/-! ## Many entries -/

/-- Converges entries in order and reports on all of them. -/
def converge (one : AliasEntry → Zone → Outcome Unit × Zone) :
    List AliasEntry → Zone → AliasReport × Zone
  | [], z => (.empty, z)
  | entry :: rest, z =>
    let first := one entry z
    let others := converge one rest first.2
    (others.1.withEntry entry.domain first.1, others.2)

/-- What something done to an entry comes to, given whether its name fails and
what stands there. -/
abbrev Effect := AliasEntry → Bool → List RecordSet → Outcome Unit × List RecordSet

/-- What an entry comes to in a zone. -/
def effectAt (z : Zone) (effect : Effect) (entry : AliasEntry) : Outcome Unit × List RecordSet :=
  effect entry (z.failing.contains entry.domain) (z.recordsAt entry.domain)

/-- A step on filed zones that has an effect at the entry's name and none
elsewhere. -/
def HasEffect (one : AliasEntry → Zone → Outcome Unit × Zone) (effect : Effect) : Prop :=
  ∀ (entry : AliasEntry) (z : Zone), z.Filed →
    OnlyAt entry.domain z (one entry z).2 ∧
      ((one entry z).1, (one entry z).2.recordsAt entry.domain) = z.effectAt effect entry

theorem hasEffect_claim (token target : String) :
    HasEffect (claim token target) (claimAt token target) :=
  fun entry _ h => claim_spec h token target entry

theorem hasEffect_release (token : String) : HasEffect (release token) (releaseAt token) :=
  fun entry _ h => release_spec h token entry

/-- What converging entries with distinct names comes to: each entry has its
own effect, as if the others were not there. -/
structure EachAlone (effect : Effect) (entries : List AliasEntry) (z : Zone)
    (result : AliasReport × Zone) : Prop where
  filed : result.2.Filed
  failing : result.2.failing = z.failing
  elsewhere : ∀ name, name ∉ entries.map (·.domain) → result.2.recordsAt name = z.recordsAt name
  there : ∀ entry ∈ entries, result.2.recordsAt entry.domain = (z.effectAt effect entry).2
  succeeded : result.1.succeeded =
    (entries.filter fun entry => (z.effectAt effect entry).1.isOk).map (·.domain)
  failures : result.1.failures =
    entries.flatMap fun entry => Cycle.failuresOf (z.effectAt effect entry).1

theorem failures_withEntry (report : AliasReport) (domain : String) (outcome : Outcome Unit) :
    (report.withEntry domain outcome).failures = Cycle.failuresOf outcome ++ report.failures := by
  cases outcome <;> rfl

theorem succeeded_withEntry (report : AliasReport) (domain : String) (outcome : Outcome Unit) :
    (report.withEntry domain outcome).succeeded =
      if outcome.isOk then domain :: report.succeeded else report.succeeded := by
  cases outcome <;> rfl

/-- An entry does not show at the names of others. -/
theorem HasEffect.unseen {one : AliasEntry → Zone → Outcome Unit × Zone} {effect : Effect}
    (hone : HasEffect one effect) {z : Zone} (hz : z.Filed) {entry : AliasEntry}
    {rest : List AliasEntry} (hnew : entry.domain ∉ rest.map (·.domain)) :
    ∀ other ∈ rest, (one entry z).2.recordsAt other.domain = z.recordsAt other.domain ∧
      (one entry z).2.effectAt effect other = z.effectAt effect other := by
  intro other hother
  have hfirst := (hone entry z hz).1
  have hne : other.domain ≠ entry.domain := by
    intro heq
    exact hnew (heq ▸ List.mem_map_of_mem hother)
  have hrecords := hfirst.recordsAt hz hne
  exact ⟨hrecords, by rw [effectAt, effectAt, hfirst.failing, hrecords]⟩

/-- **Entries with distinct names converge independently.** -/
theorem converge_eachAlone {one : AliasEntry → Zone → Outcome Unit × Zone} {effect : Effect}
    (hone : HasEffect one effect) :
    ∀ {entries : List AliasEntry}, (entries.map (·.domain)).Nodup → ∀ {z : Zone}, z.Filed →
      EachAlone effect entries z (converge one entries z)
  | [], _, _, hz =>
    ⟨hz, rfl, fun _ _ => rfl, fun _ he => absurd he List.not_mem_nil, rfl, rfl⟩
  | entry :: rest, hnodup, z, hz => by
    rw [List.map_cons, List.nodup_cons] at hnodup
    obtain ⟨hfirst, heffect⟩ := hone entry z hz
    have ih := converge_eachAlone hone hnodup.2 (hfirst.filed hz)
    have hsame : ∀ other ∈ rest,
        (one entry z).2.effectAt effect other = z.effectAt effect other :=
      fun other hother => (hone.unseen hz hnodup.1 other hother).2
    have hresult : (one entry z).1 = (z.effectAt effect entry).1 := congrArg Prod.fst heffect
    refine ⟨ih.filed, ih.failing.trans hfirst.failing, ?_, ?_, ?_, ?_⟩
    · intro name hname
      rw [List.map_cons, List.mem_cons, not_or] at hname
      exact (ih.elsewhere name hname.2).trans (hfirst.recordsAt hz hname.1)
    · intro other hother
      rcases List.mem_cons.1 hother with rfl | hother
      · exact (ih.elsewhere _ hnodup.1).trans (congrArg Prod.snd heffect)
      · rw [← hsame other hother]
        exact ih.there other hother
    · have htail : (rest.filter fun e => ((one entry z).2.effectAt effect e).1.isOk) =
          rest.filter fun e => (z.effectAt effect e).1.isOk :=
        List.filter_congr fun e he => by rw [hsame e he]
      rw [converge, succeeded_withEntry, ih.succeeded, htail, hresult, List.filter_cons]
      split <;> rfl
    · have htail : (rest.flatMap fun e => Cycle.failuresOf ((one entry z).2.effectAt effect e).1) =
          rest.flatMap fun e => Cycle.failuresOf (z.effectAt effect e).1 := by
        rw [List.flatMap_def, List.flatMap_def]
        congr 1
        exact List.map_congr_left fun e he => by rw [hsame e he]
      rw [converge, failures_withEntry, ih.failures, htail, hresult, List.flatMap_cons]

/-- Nothing failed exactly if every entry went through. -/
theorem EachAlone.failures_eq_nil {effect : Effect} {entries : List AliasEntry} {z : Zone}
    {result : AliasReport × Zone} (h : EachAlone effect entries z result) :
    result.1.failures = [] ↔ ∀ entry ∈ entries, (z.effectAt effect entry).1 = .ok () := by
  rw [h.failures, List.flatMap_eq_nil_iff]
  refine forall_congr' fun entry => forall_congr' fun _ => ?_
  cases (z.effectAt effect entry).1 with
  | error failure => simp [Cycle.failuresOf]
  | ok value => simp [Cycle.failuresOf]

theorem EachAlone.mem_succeeded {effect : Effect} {entries : List AliasEntry} {z : Zone}
    {result : AliasReport × Zone} (h : EachAlone effect entries z result) (name : String) :
    name ∈ result.1.succeeded ↔
      ∃ entry ∈ entries, entry.domain = name ∧ (z.effectAt effect entry).1 = .ok () := by
  rw [h.succeeded]
  simp only [List.mem_map, List.mem_filter, Outcome.isOk_iff]
  constructor
  · rintro ⟨entry, ⟨hmem, hok⟩, rfl⟩
    exact ⟨entry, hmem, rfl, hok⟩
  · rintro ⟨entry, hmem, rfl, hok⟩
    exact ⟨entry, ⟨hmem, hok⟩, rfl⟩

end Zone

/-! ## Runs -/

namespace World

variable (w : World) (token target : String)

theorem run_submit (batch : Batch) :
    w.run (AliasProtocol.submit batch) =
      ((w.zone.submit batch).1, { w with zone := (w.zone.submit batch).2 }) := by
  unfold AliasProtocol.submit Zone.submit
  split <;> rfl

theorem run_upsertEntry (entry : AliasEntry) :
    w.run (AliasProtocol.upsertEntry token target entry) =
      ((w.zone.claim token target entry).1,
        { w with zone := (w.zone.claim token target entry).2 }) := by
  unfold AliasProtocol.upsertEntry Zone.claim
  rw [run_bind]
  show w.run (match planUpsert (w.zone.recordsAt entry.domain) target entry token with
    | .error cause => pure (.error (.conflict cause))
    | .ok batch => AliasProtocol.submit batch) = _
  cases planUpsert (w.zone.recordsAt entry.domain) target entry token with
  | error cause => rfl
  | ok batch => exact run_submit w batch

theorem run_deleteEntry (entry : AliasEntry) :
    w.run (AliasProtocol.deleteEntry token entry) =
      ((w.zone.release token entry).1, { w with zone := (w.zone.release token entry).2 }) := by
  unfold AliasProtocol.deleteEntry Zone.release
  rw [run_bind]
  show w.run (match planDelete (w.zone.recordsAt entry.domain) entry token with
    | .release batch => AliasProtocol.submit batch
    | .notOwned _ => pure (.ok ())) = _
  cases planDelete (w.zone.recordsAt entry.domain) entry token with
  | notOwned cause => rfl
  | release batch => exact run_submit w batch

/-- Converging entries runs over the zone and touches nothing else. -/
theorem run_convergeEntries {one : AliasEntry → Program (Outcome Unit)}
    {onZone : AliasEntry → Zone → Outcome Unit × Zone}
    (h : ∀ (w : World) (entry : AliasEntry),
      w.run (one entry) = ((onZone entry w.zone).1, { w with zone := (onZone entry w.zone).2 }))
    (entries : List AliasEntry) (w : World) :
    w.run (AliasProtocol.converge one entries) =
      ((Zone.converge onZone entries w.zone).1,
        { w with zone := (Zone.converge onZone entries w.zone).2 }) := by
  induction entries generalizing w with
  | nil => rfl
  | cons entry rest ih =>
    rw [AliasProtocol.converge, run_bind, run_bind, h, ih]
    rfl

theorem run_upsert (aliases : AliasSet) :
    w.run (AliasProtocol.upsert token aliases) =
      ((Zone.converge (Zone.claim token aliases.target) aliases.entries w.zone).1,
        { w with
          zone := (Zone.converge (Zone.claim token aliases.target) aliases.entries w.zone).2 }) :=
  run_convergeEntries (fun w entry => run_upsertEntry w token aliases.target entry)
    aliases.entries w

theorem run_delete (aliases : AliasSet) :
    w.run (AliasProtocol.delete token aliases) =
      ((Zone.converge (Zone.release token) aliases.entries w.zone).1,
        { w with zone := (Zone.converge (Zone.release token) aliases.entries w.zone).2 }) :=
  run_convergeEntries (fun w entry => run_deleteEntry w token entry) aliases.entries w

end World

end RouteConvergence
