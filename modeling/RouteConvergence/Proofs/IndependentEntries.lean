/-
RouteConvergence.Proofs.IndependentEntries — converging a set of names is
converging each of them.

The entries of a set are worked off one after the other in one zone, so each
is planned from a zone the ones before it have written to. That they do
not get into each other's way is told here by runs of the same procedure
(`EntriesApart`): the run on one entry alone, on the entries in another order,
and once more on the same entries.

* `Zone.EachAlone` gives what stands at every name after a run by what stood
  there before; the other runs are compared with it name by name.
* `Zone.Settles` — what has to be known of a single entry besides: a failure
  leaves its name alone, and what was done is not done differently again.
* `Zone.Submits` — which batches the zone has taken, the one thing in which the
  order of the entries shows.
-/
import RouteConvergence.Proofs.ZoneLedger

namespace RouteConvergence

/-! ## One entry, once more -/

/-- The text an entry points with is found. -/
theorem AliasEntry.findText_pointing (entry : AliasEntry) (target : String)
    (tokens : List String) :
    findText (entry.pointing target tokens) = some (.txt entry.domain tokens) := by
  have haddresses : findText ((RecordType.all.filter fun t =>
      t.isAddress && entry.types.contains t).map fun t =>
        .aliasTo entry.domain t target) = none := by
    rw [findText, List.find?_eq_none]
    intro r hr
    obtain ⟨t, ht, rfl⟩ := List.mem_map.1 hr
    have haddress := (List.mem_filter.1 ht).2
    cases t with
    | txt => exact absurd haddress Bool.false_ne_true
    | a => exact Bool.false_ne_true
    | aaaa => exact Bool.false_ne_true
  rw [pointing, findText, List.find?_append]
  rw [findText] at haddresses
  rw [haddresses]
  rfl

section

variable {token target : String} {entry : AliasEntry} {failing : Bool} {records : List RecordSet}

/-- A claim goes through where the zone takes batches, and the entry then points at its
target with our token in the text. -/
theorem claimAt_ok (h : (claimAt token target entry failing records).1 = .ok ()) :
    failing = false ∧ ∃ tokens, token ∈ tokens ∧
      claimAt token target entry failing records = (.ok (), entry.pointing target tokens) := by
  unfold claimAt at h ⊢
  cases hclaim : Claim.of records entry.domain token with
  | foreign cause =>
    rw [hclaim] at h
    cases h
  | free =>
    rw [hclaim] at h
    cases failing with
    | true => cases h
    | false => exact ⟨rfl, [token], List.mem_singleton_self token, rfl⟩
  | ours text =>
    rw [hclaim] at h
    cases failing with
    | true => cases h
    | false => exact ⟨rfl, text.values, (Claim.of_eq_ours_iff.1 hclaim).2, rfl⟩

/-- **A claim that went through goes through again** and finds the records it
would write. -/
theorem claimAt_again (h : (claimAt token target entry failing records).1 = .ok ()) :
    claimAt token target entry false (claimAt token target entry failing records).2 =
      (.ok (), (claimAt token target entry failing records).2) := by
  obtain ⟨-, tokens, hmem, hdone⟩ := claimAt_ok h
  rw [hdone, claimAt, Claim.of_eq_ours_iff.2 ⟨entry.findText_pointing target tokens, hmem⟩]
  rfl

end

namespace Zone

/-- What is done to an entry settles its name: a failure leaves the records as
they were, and the second time nothing is found to do. -/
structure Settles (effect : Effect) : Prop where
  kept : ∀ entry failing records, (effect entry failing records).1 ≠ .ok () →
    (effect entry failing records).2 = records
  again : ∀ entry failing records,
    effect entry failing (effect entry failing records).2 = effect entry failing records

theorem settles_claimAt (token target : String) : Settles (claimAt token target) := by
  have hkept : ∀ entry failing records, (claimAt token target entry failing records).1 ≠ .ok () →
      (claimAt token target entry failing records).2 = records := by
    intro entry failing records
    unfold claimAt
    cases Claim.of records entry.domain token with
    | foreign cause => exact fun _ => rfl
    | free => cases failing <;> simp
    | ours text => cases failing <;> simp
  refine ⟨hkept, fun entry failing records => ?_⟩
  by_cases hok : (claimAt token target entry failing records).1 = .ok ()
  · obtain ⟨rfl, -⟩ := claimAt_ok hok
    rw [claimAt_again hok]
    exact Prod.ext hok.symm rfl
  · rw [hkept entry failing records hok]

/-- After a release addresses of other types may be left, but not the token. -/
theorem unclaimed_released (entry : AliasEntry) (records : List RecordSet) (token : String)
    (tokens : List String) :
    Unclaimed token ((records.filter fun r =>
      r.type.isAddress && !entry.types.contains r.type) ++
        withdrawn entry.domain token tokens) := by
  intro r hr htype
  rcases List.mem_append.1 hr with hr | hr
  · have haddress := (List.mem_filter.1 hr).2
    rw [htype] at haddress
    exact absurd haddress Bool.false_ne_true
  · exact unclaimed_withdrawn entry.domain token tokens r hr htype

theorem settles_releaseAt (token : String) : Settles (releaseAt token) where
  kept := by
    intro entry failing records
    unfold releaseAt
    cases Claim.of records entry.domain token with
    | foreign cause => exact fun _ => rfl
    | free => exact fun _ => rfl
    | ours text => cases failing <;> simp
  again := by
    intro entry failing records
    by_cases hours : ∃ text, Claim.of records entry.domain token = .ours text
    · obtain ⟨text, hclaim⟩ := hours
      cases failing with
      | true =>
        have hkept : (releaseAt token entry true records).2 = records := by
          rw [releaseAt, hclaim]
          rfl
        rw [hkept]
      | false =>
        have hdone : releaseAt token entry false records = (.ok (),
            (records.filter fun r => r.type.isAddress && !entry.types.contains r.type) ++
              withdrawn entry.domain token text.values) := by
          rw [releaseAt, hclaim]
          rfl
        have hunclaimed : Unclaimed token (releaseAt token entry false records).2 := by
          rw [hdone]
          exact unclaimed_released entry records token text.values
        rw [releaseAt_of_not_ours false hunclaimed.not_ours, hdone]
    · have hdone := releaseAt_of_not_ours failing (not_exists.1 hours)
      rw [hdone, hdone]

/-! ## The batches -/

/-- The batches of an entry that came to some outcome with some changes planned. -/
def taken (outcome : Outcome Unit) (batch : Batch) : List Batch :=
  if outcome.isOk && !batch.isEmpty then [batch] else []

theorem batches_submit (z : Zone) (batch : Batch) :
    (z.submit batch).2.batches = z.batches ++ taken (z.submit batch).1 batch := by
  unfold submit taken
  cases hempty : batch.isEmpty with
  | true => simp
  | false =>
    rw [if_neg Bool.false_ne_true, apply]
    cases z.fault? batch <;> simp [Except.isOk, Except.toBool]

/-- A step that plans from the records at the entry's name and submits what is
planned. -/
def Submits (one : AliasEntry → Zone → Outcome Unit × Zone)
    (plan : AliasEntry → List RecordSet → Batch) : Prop :=
  ∀ entry z, (one entry z).2.batches =
    z.batches ++ taken (one entry z).1 (plan entry (z.recordsAt entry.domain))

theorem submits_claim (token target : String) : Submits (claim token target)
    fun entry records =>
      match planUpsert records target entry token with
      | .error _ => []
      | .ok batch => batch := by
  intro entry z
  dsimp only
  unfold claim
  cases planUpsert (z.recordsAt entry.domain) target entry token with
  | error cause => exact (List.append_nil _).symm
  | ok batch => exact z.batches_submit batch

theorem submits_release (token : String) : Submits (release token)
    fun entry records =>
      match planDelete records entry token with
      | .notOwned _ => []
      | .release batch => batch := by
  intro entry z
  dsimp only
  unfold release
  cases planDelete (z.recordsAt entry.domain) entry token with
  | notOwned cause => exact (List.append_nil _).symm
  | release batch => exact z.batches_submit batch

section

variable {one : AliasEntry → Zone → Outcome Unit × Zone} {effect : Effect}
  {plan : AliasEntry → List RecordSet → Batch} {entries : List AliasEntry} {entry : AliasEntry}
  {z : Zone} {result other : AliasReport × Zone}

/-- **The zone takes what each entry would submit alone**, in the order of the
entries. -/
theorem batches_converge (hone : HasEffect one effect) (hplan : Submits one plan)
    (hnodup : (entries.map (·.domain)).Nodup) (hz : z.Filed) :
    (converge one entries z).2.batches = z.batches ++ entries.flatMap fun entry =>
      taken (z.effectAt effect entry).1 (plan entry (z.recordsAt entry.domain)) := by
  induction entries generalizing z with
  | nil => exact (List.append_nil _).symm
  | cons entry rest ih =>
    rw [List.map_cons, List.nodup_cons] at hnodup
    obtain ⟨hfirst, heffect⟩ := hone entry z hz
    have htail : (rest.flatMap fun later =>
        taken ((one entry z).2.effectAt effect later).1
          (plan later ((one entry z).2.recordsAt later.domain))) =
        rest.flatMap fun later =>
          taken (z.effectAt effect later).1 (plan later (z.recordsAt later.domain)) := by
      refine List.flatMap_congr fun later hlater => ?_
      obtain ⟨hrecords, hsame⟩ := hone.unseen hz hnodup.1 later hlater
      rw [hrecords, hsame]
    have houtcome : (one entry z).1 = (z.effectAt effect entry).1 := congrArg Prod.fst heffect
    rw [converge, ih hnodup.2 (hfirst.filed hz), htail, hplan entry z, List.flatMap_cons,
      List.append_assoc, houtcome]

/-! ## Runs compared -/

/-- The report on a single entry that came to some outcome. -/
def reportOn (entry : AliasEntry) (outcome : Outcome Unit) : AliasReport :=
  AliasReport.empty.withEntry entry.domain outcome

theorem reportOn_cases (entry : AliasEntry) (outcome : Outcome Unit) :
    reportOn entry outcome = ⟨[entry.domain], []⟩ ∨
      ∃ failure, reportOn entry outcome = ⟨[], [failure]⟩ := by
  cases outcome with
  | ok => exact Or.inl rfl
  | error failure => exact Or.inr ⟨failure, rfl⟩

/-- A report is put together from those on the single entries. -/
theorem EachAlone.report_eq (h : EachAlone effect entries z result) : result.1 =
    ⟨entries.flatMap fun entry => (reportOn entry (z.effectAt effect entry).1).succeeded,
      entries.flatMap fun entry => (reportOn entry (z.effectAt effect entry).1).failures⟩ := by
  have hsucceeded : ∀ entry outcome, (reportOn entry outcome).succeeded =
      if outcome.isOk then [entry.domain] else [] := by
    intro entry outcome
    cases outcome <;> rfl
  have hfailures : ∀ entry outcome,
      (reportOn entry outcome).failures = Cycle.failuresOf outcome := by
    intro entry outcome
    cases outcome <;> rfl
  have hlisted : ∀ given : List AliasEntry,
      (given.filter fun entry => (z.effectAt effect entry).1.isOk).map (·.domain) =
        given.flatMap fun entry =>
          if (z.effectAt effect entry).1.isOk then [entry.domain] else [] := by
    intro given
    induction given with
    | nil => rfl
    | cons entry rest ih =>
      rw [List.filter_cons, List.flatMap_cons, ← ih]
      split <;> rfl
  simp only [hsucceeded, hfailures]
  rw [← hlisted, ← h.succeeded, ← h.failures]

theorem EachAlone.report_single (h : EachAlone effect [entry] z result) :
    result.1 = reportOn entry (z.effectAt effect entry).1 := by
  rw [h.report_eq, List.flatMap_singleton, List.flatMap_singleton]

/-- An entry is reported as succeeded by its own outcome. -/
theorem EachAlone.succeeded_iff (h : EachAlone effect entries z result)
    (hnodup : (entries.map (·.domain)).Nodup) (hentry : entry ∈ entries) :
    entry.domain ∈ result.1.succeeded ↔ (z.effectAt effect entry).1 = .ok () := by
  rw [h.mem_succeeded]
  constructor
  · rintro ⟨e, he, hdomain, hok⟩
    rwa [← List.inj_on_of_nodup_map hnodup he hentry hdomain]
  · exact fun hok => ⟨entry, hentry, rfl, hok⟩

/-- The zone holds what the entries come to, and what was there before. -/
theorem EachAlone.records_unique (h : EachAlone effect entries z result) {z' : Zone}
    (hz' : z'.Filed)
    (hthere : ∀ entry ∈ entries, z'.recordsAt entry.domain = (z.effectAt effect entry).2)
    (helsewhere : ∀ name, name ∉ entries.map (·.domain) → z'.recordsAt name = z.recordsAt name) :
    z'.records = result.2.records := by
  refine records_eq h.filed hz' fun name => ?_
  by_cases hname : name ∈ entries.map (·.domain)
  · obtain ⟨entry, hentry, rfl⟩ := List.mem_map.1 hname
    rw [hthere entry hentry, h.there entry hentry]
  · rw [helsewhere name hname, h.elsewhere name hname]

/-- **The order of the entries** does not show in the records. -/
theorem EachAlone.records_perm {entries' : List AliasEntry}
    (h : EachAlone effect entries z result) (h' : EachAlone effect entries' z other)
    (hperm : entries'.Perm entries) : other.2.records = result.2.records := by
  refine h.records_unique h'.filed (fun entry hentry => ?_) fun name hname => ?_
  · exact h'.there entry (hperm.mem_iff.2 hentry)
  · exact h'.elsewhere name fun hmem => hname ((hperm.map _).mem_iff.1 hmem)

/-- **What was settled is found as it was left.** -/
theorem EachAlone.effectAt_again (h : EachAlone effect entries z result)
    (hsettles : Settles effect) (hentry : entry ∈ entries) :
    result.2.effectAt effect entry = z.effectAt effect entry := by
  rw [effectAt, h.failing, h.there entry hentry]
  exact hsettles.again entry _ _

theorem EachAlone.again (h : EachAlone effect entries z result) (hsettles : Settles effect)
    (h' : EachAlone effect entries result.2 other) :
    other.2.records = result.2.records ∧ other.1 = result.1 := by
  have hsame : ∀ entry ∈ entries, result.2.effectAt effect entry = z.effectAt effect entry :=
    fun entry hentry => h.effectAt_again hsettles hentry
  constructor
  · refine h.records_unique h'.filed (fun entry hentry => ?_) fun name hname => ?_
    · rw [h'.there entry hentry, hsame entry hentry]
    · exact (h'.elsewhere name hname).trans (h.elsewhere name hname)
  · rw [h.report_eq, h'.report_eq]
    congr 1 <;> exact List.flatMap_congr fun entry hentry => by rw [hsame entry hentry]

end

end Zone

/-! ## Sets of names -/

/-- What a procedure on alias sets comes to on one of them, told by runs of it. -/
structure EntriesApart (procedure : AliasSet → Program AliasReport) (aliases : AliasSet)
    (w : World) : Prop where
  /-- Each entry fares as if it were the only one. -/
  alone : ∀ entry ∈ aliases.entries,
    let whole := w.run (procedure aliases)
    let single := w.run (procedure { aliases with entries := [entry] })
    whole.2.zone.recordsAt entry.domain = single.2.zone.recordsAt entry.domain ∧
      (entry.domain ∈ whole.1.succeeded ↔ entry.domain ∈ single.1.succeeded)
  elsewhere : ∀ name, name ∉ aliases.entries.map (·.domain) →
    (w.run (procedure aliases)).2.zone.recordsAt name = w.zone.recordsAt name
  /-- The report holds what is reported on each entry alone, and that is one success or one
  failure. -/
  reported :
    let single (entry : AliasEntry) := (w.run (procedure { aliases with entries := [entry] })).1
    (w.run (procedure aliases)).1 =
        ⟨aliases.entries.flatMap fun entry => (single entry).succeeded,
          aliases.entries.flatMap fun entry => (single entry).failures⟩ ∧
      ∀ entry ∈ aliases.entries,
        single entry = ⟨[entry.domain], []⟩ ∨ ∃ failure, single entry = ⟨[], [failure]⟩
  /-- In another order the same record sets are left and the same names succeed; the zone has
  taken the same batches, in another order. -/
  reordered : ∀ entries, entries.Perm aliases.entries →
    let whole := w.run (procedure aliases)
    let other := w.run (procedure { aliases with entries := entries })
    other.2.zone.records = whole.2.zone.records ∧
      other.2.zone.batches.Perm whole.2.zone.batches ∧
      other.1.succeeded.Perm whole.1.succeeded ∧ other.1.failures.Perm whole.1.failures
  /-- A failure leaves the name as it was. -/
  kept : ∀ entry ∈ aliases.entries,
    let whole := w.run (procedure aliases)
    entry.domain ∉ whole.1.succeeded →
      whole.2.zone.recordsAt entry.domain = w.zone.recordsAt entry.domain
  /-- Once more, and nothing is different. -/
  again :
    let whole := w.run (procedure aliases)
    let second := whole.2.run (procedure aliases)
    second.2.zone.records = whole.2.zone.records ∧ second.1 = whole.1
  /-- The zone fails where it did, and no other store is touched. -/
  stores :
    let whole := w.run (procedure aliases)
    whole.2 = { w with zone := whole.2.zone } ∧ whole.2.zone.failing = w.zone.failing

namespace World

/-- A procedure that converges its entries with an effect at each of their names. -/
theorem entriesApart_of_runs {procedure : AliasSet → Program AliasReport} {target : String}
    {one : AliasEntry → Zone → Outcome Unit × Zone} {effect : Zone.Effect}
    {plan : AliasEntry → List RecordSet → Batch} (hone : Zone.HasEffect one effect)
    (hsettles : Zone.Settles effect) (hplan : Zone.Submits one plan)
    (hrun : ∀ (w : World) entries, w.run (procedure ⟨target, entries⟩) =
      ((Zone.converge one entries w.zone).1,
        { w with zone := (Zone.converge one entries w.zone).2 }))
    {entries : List AliasEntry} (hnodup : (entries.map (·.domain)).Nodup) {w : World}
    (h : w.zone.Filed) : EntriesApart procedure ⟨target, entries⟩ w := by
  have hwhole := Zone.converge_eachAlone hone hnodup h
  have hname : ∀ entry : AliasEntry, ([entry].map (·.domain)).Nodup :=
    fun entry => List.nodup_singleton entry.domain
  have hsingle : ∀ entry : AliasEntry,
      Zone.EachAlone effect [entry] w.zone (Zone.converge one [entry] w.zone) :=
    fun entry => Zone.converge_eachAlone hone (hname entry) h
  have hsecond := Zone.converge_eachAlone hone hnodup hwhole.filed
  refine ⟨?_, ?_, ?_, ?_, ?_, ?_, ?_⟩ <;> simp only [hrun]
  · intro entry hentry
    have halone := hsingle entry
    refine ⟨?_, ?_⟩
    · rw [hwhole.there entry hentry, halone.there entry (List.mem_singleton_self entry)]
    · rw [hwhole.succeeded_iff hnodup hentry,
        halone.succeeded_iff (hname entry) (List.mem_singleton_self entry)]
  · exact hwhole.elsewhere
  · simp only [fun entry => (hsingle entry).report_single]
    exact ⟨hwhole.report_eq, fun entry _ => Zone.reportOn_cases entry _⟩
  · intro entries' hperm
    have hnodup' : (entries'.map (·.domain)).Nodup := (hperm.map _).nodup_iff.2 hnodup
    have hother := Zone.converge_eachAlone hone hnodup' h
    refine ⟨hwhole.records_perm hother hperm, ?_, ?_, ?_⟩
    · rw [Zone.batches_converge hone hplan hnodup h, Zone.batches_converge hone hplan hnodup' h]
      exact (hperm.flatMap_right _).append_left _
    · rw [hwhole.succeeded, hother.succeeded]
      exact (hperm.filter _).map _
    · rw [hwhole.failures, hother.failures]
      exact hperm.flatMap_right _
  · intro entry hentry hfailed
    rw [hwhole.succeeded_iff hnodup hentry] at hfailed
    rw [hwhole.there entry hentry]
    exact hsettles.kept entry _ _ hfailed
  · exact hwhole.again hsettles hsecond
  · exact ⟨trivial, hwhole.failing⟩

/-- **Names converge independently.** In every zone that files record sets under their names
and types, wherever it fails: entries with distinct names are claimed, and released, each as
if the others were not there, in any order, and once more without a difference. -/
theorem entries_apart (w : World) (h : w.zone.Filed) (token : String) (aliases : AliasSet)
    (hdistinct : (aliases.entries.map (·.domain)).Nodup) :
    EntriesApart (AliasProtocol.upsert token) aliases w ∧
      EntriesApart (AliasProtocol.delete token) aliases w := by
  constructor
  · exact entriesApart_of_runs (Zone.hasEffect_claim token aliases.target)
      (Zone.settles_claimAt token aliases.target) (Zone.submits_claim token aliases.target)
      (fun w entries => w.run_upsert token ⟨aliases.target, entries⟩) hdistinct h
  · exact entriesApart_of_runs (Zone.hasEffect_release token) (Zone.settles_releaseAt token)
      (Zone.submits_release token)
      (fun w entries => w.run_delete token ⟨aliases.target, entries⟩) hdistinct h

/-- Names of every kind: one that is shared with somebody, one where the zone fails, one
that is new, one of somebody else, and one whose address nobody answers for. -/
theorem entries_apart_mixed :
    let w : World := (seeded [] [.aliasTo "blog" .aaaa "old.example.net",
      .txt "blog" ["theirs", "ours"], .txt "help" ["ours"], .txt "press" ["theirs"],
      .aliasTo "shop" .a "old.example.net"]).failingAt [] ["help"]
    let aliases : AliasSet :=
      .desired "new.example.net" ["shop", "blog", "help", "new", "press"] false
    (w.run (AliasProtocol.upsert "ours" aliases)).1.succeeded = ["blog", "new"] ∧
      (w.run (AliasProtocol.delete "ours" aliases)).1.succeeded =
        ["shop", "blog", "new", "press"] ∧
      EntriesApart (AliasProtocol.upsert "ours") aliases w ∧
      EntriesApart (AliasProtocol.delete "ours") aliases w := by
  refine ⟨by decide +kernel, by decide +kernel, ?_⟩
  exact entries_apart _ (filed_seed _ Zone.filed_empty) "ours" _ (by decide)

end World

end RouteConvergence
