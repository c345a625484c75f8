/-
RouteConvergence.Proofs.EntryEffect — what one name of an alias set comes
to.

An entry is planned from a listing of its name and submitted as one batch,
which the zone checks again on its own. Here both are told together, by
the records before and after and without a word about the plan:

* `Zone.Foreign` — the two ways in which a name is in other hands.
* `EntryClaimed`, `EntryReleased` — what claiming and releasing an entry come
  to in a world, from its answer to the records of every other name.
* `World.entry_effect` — that this is what the two procedures do, at every
  name where the zone takes batches.

The tokens of a name are those of its text record. There is one at most in
a filed zone, so it does not matter which text a procedure looks at.
-/
import RouteConvergence.Proofs.ZoneLedger

namespace RouteConvergence

namespace Zone

/-! ## Names in other hands -/

/-- A name is in other hands if a text without the token stands there, or
addresses without a text. -/
def Foreign (token : String) (records : List RecordSet) : Prop :=
  (∃ text ∈ records, text.type = .txt ∧ token ∉ text.values) ∨
    (∃ r ∈ records, r.type.isAddress = true) ∧ ∀ r ∈ records, r.type ≠ .txt

/-- The tokens in the text of a name; none if there is no text. -/
def tokensAt (z : Zone) (name : String) : List String :=
  match z.records.get? (name, .txt) with
  | some text => text.values
  | none => []

variable {z : Zone} {token target : String} {entry : AliasEntry}

/-- **Whose a name is** can be told from its records without going through
them in order. -/
theorem foreign_iff (h : z.Filed) (domain token : String) :
    Foreign token (z.recordsAt domain) ↔
      ∃ cause, Claim.of (z.recordsAt domain) domain token = .foreign cause := by
  unfold Claim.of
  rw [findText_recordsAt h]
  cases htext : z.records.get? (domain, .txt) with
  | some text =>
    obtain ⟨hmem, htype⟩ := (mem_recordsAt_type h domain .txt text).2 htext
    by_cases hours : token ∈ text.values
    · have hone : ∀ other ∈ z.recordsAt domain, other.type = .txt → other = text := by
        intro other hother hty
        have hget := (mem_recordsAt_type h domain .txt other).1 ⟨hother, hty⟩
        exact Option.some.inj (hget.symm.trans htext)
      simp only [hours, if_true, reduceCtorEq, exists_false, iff_false]
      rintro (⟨other, hother, hty, hnot⟩ | ⟨-, hnone⟩)
      · exact hnot (hone other hother hty ▸ hours)
      · exact hnone text hmem htype
    · simp only [hours, if_false, Claim.foreign.injEq, exists_eq', iff_true]
      exact Or.inl ⟨text, hmem, htype, hours⟩
  | none =>
    have hnone : ∀ r ∈ z.recordsAt domain, r.type ≠ .txt := by
      intro r hr hty
      have hget := (mem_recordsAt_type h domain .txt r).1 ⟨hr, hty⟩
      rw [htext] at hget
      cases hget
    cases haddresses : addressRecords (z.recordsAt domain) with
    | nil =>
      have hplain : ∀ r ∈ z.recordsAt domain, ¬ r.type.isAddress = true :=
        List.filter_eq_nil_iff.1 haddresses
      simp only [List.isEmpty_nil, if_true, reduceCtorEq, exists_false, iff_false]
      rintro (⟨text, hmem, hty, -⟩ | ⟨⟨r, hr, haddress⟩, -⟩)
      · exact hnone text hmem hty
      · exact hplain r hr haddress
    | cons r rest =>
      have hr : r ∈ addressRecords (z.recordsAt domain) := by
        rw [haddresses]
        exact List.mem_cons_self
      obtain ⟨hmem, haddress⟩ := List.mem_filter.1 hr
      simp only [List.isEmpty_cons, Bool.false_eq_true, if_false, Claim.foreign.injEq, exists_eq',
        iff_true]
      exact Or.inr ⟨⟨r, hmem, haddress⟩, hnone⟩

/-- The text by which a name is ours holds the tokens of the name. -/
theorem tokensAt_of_ours (h : z.Filed) {domain : String} {text : RecordSet}
    (hours : Claim.of (z.recordsAt domain) domain token = .ours text) :
    z.records.get? (domain, .txt) = some text ∧ z.tokensAt domain = text.values := by
  have htext := (Claim.of_eq_ours_iff.1 hours).1
  rw [findText_recordsAt h] at htext
  exact ⟨htext, by rw [tokensAt, htext]⟩

/-- A name that is nobody's has no tokens. -/
theorem tokensAt_of_free (h : z.Filed) {domain : String}
    (hfree : Claim.of (z.recordsAt domain) domain token = .free) : z.tokensAt domain = [] := by
  have htext := (Claim.of_eq_free_iff.1 hfree).1
  rw [findText_recordsAt h] at htext
  rw [tokensAt, htext]

/-! ## The batch of an entry -/

/-- A claim of a name in other hands stops before a batch is made. -/
theorem claim_foreign {cause : Conflict}
    (hforeign : Claim.of (z.recordsAt entry.domain) entry.domain token = .foreign cause) :
    z.claim token target entry = (.error (.conflict cause), z) := by
  rw [claim, planUpsert, hforeign]

/-- **A claim of any other name is one batch, and the zone takes it.** -/
theorem claim_applies (target : String) (entry : AliasEntry) (h : z.Filed)
    (hfail : entry.domain ∉ z.failing)
    (hforeign : ¬ Foreign token (z.recordsAt entry.domain)) :
    ∃ batch, z.claim token target entry = z.apply batch ∧
      (z.apply batch).1 = .ok () ∧ (z.apply batch).2.batches = z.batches ++ [batch] ∧
      (z.apply batch).2.recordsAt entry.domain =
        entry.pointing target (addToken token (z.tokensAt entry.domain)) := by
  let batch := claimBatch (z.recordsAt entry.domain) target entry token (z.tokensAt entry.domain)
  have hplan : planUpsert (z.recordsAt entry.domain) target entry token = .ok batch := by
    unfold planUpsert
    cases hclaim : Claim.of (z.recordsAt entry.domain) entry.domain token with
    | foreign cause => exact absurd ((foreign_iff h _ _).2 ⟨cause, hclaim⟩) hforeign
    | free => simp only [batch, tokensAt_of_free h hclaim]
    | ours text => simp only [batch, (tokensAt_of_ours h hclaim).2]
  have hne : batch ≠ [] := claimBatch_ne_nil _ _ _ _ _
  have happly : z.apply batch = (.ok (), { z with
      records := batch.foldl change z.records, batches := z.batches ++ [batch] }) := by
    rw [apply_at hne (fun c hc => (mem_claimBatch h hc).1) (fun c hc => (mem_claimBatch h hc).2),
      if_neg hfail]
  have hclaim : z.claim token target entry = z.apply batch := by
    rw [claim, hplan]
    exact submit_of_ne_nil z hne
  have hfiled := (claim_spec h token target entry).1.filed h
  rw [hclaim, happly] at hfiled
  refine ⟨batch, hclaim, ?_⟩
  rw [happly]
  exact ⟨rfl, rfl, recordsAt_claimed h hfiled rfl⟩

/-- A release of a name in other hands changes nothing. -/
theorem release_foreign {cause : Conflict}
    (hforeign : Claim.of (z.recordsAt entry.domain) entry.domain token = .foreign cause) :
    z.release token entry = (.ok (), z) := by
  rw [release, planDelete, hforeign]

/-- A release covers both types of addresses, so that only text can be left
where a name was ours. -/
theorem releaseAt_ours {domain : String} {records : List RecordSet} {text : RecordSet}
    (hours : Claim.of records domain token = .ours text) :
    releaseAt token (.forDomain domain true) false records =
      (.ok (), withdrawn domain token text.values) := by
  have hnone : (records.filter fun r => r.type.isAddress &&
      !(AliasEntry.forDomain domain true).types.contains r.type) = [] := by
    rw [List.filter_eq_nil_iff]
    intro r _
    cases r.type <;> exact Bool.false_ne_true
  have hclaim : Claim.of records (AliasEntry.forDomain domain true).domain token = .ours text :=
    hours
  rw [releaseAt, hclaim]
  dsimp only
  rw [if_neg Bool.false_ne_true, hnone]
  rfl

/-- **A release of any other name goes through**: no address is left, and of
the text the tokens of others. -/
theorem release_applies (h : z.Filed) (domain : String) (hfail : domain ∉ z.failing)
    (hforeign : ¬ Foreign token (z.recordsAt domain)) :
    (z.release token (.forDomain domain true)).1 = .ok () ∧
      (z.release token (.forDomain domain true)).2.recordsAt domain =
        withdrawn domain token (z.tokensAt domain) := by
  have hfailing : z.failing.contains domain = false := by simpa using hfail
  have hspec : (_, _) = releaseAt token (.forDomain domain true) (z.failing.contains domain)
      (z.recordsAt domain) := (release_spec h token (.forDomain domain true)).2
  rw [hfailing] at hspec
  cases hclaim : Claim.of (z.recordsAt domain) domain token with
  | foreign cause => exact absurd ((foreign_iff h _ _).2 ⟨cause, hclaim⟩) hforeign
  | free =>
    rw [releaseAt, show Claim.of (z.recordsAt domain) (AliasEntry.forDomain domain true).domain
      token = .free from hclaim] at hspec
    obtain ⟨hok, hrecords⟩ := Prod.mk.inj hspec
    refine ⟨hok, hrecords.trans ?_⟩
    rw [tokensAt_of_free h hclaim]
    exact eq_nil_of_free hclaim
  | ours text =>
    rw [releaseAt_ours hclaim] at hspec
    obtain ⟨hok, hrecords⟩ := Prod.mk.inj hspec
    refine ⟨hok, hrecords.trans ?_⟩
    rw [(tokensAt_of_ours h hclaim).2]

end Zone

/-! ## One entry in a world -/

/-- What claiming an entry comes to, from one world to another. -/
structure EntryClaimed (token target domain : String) (ipv6 : Bool) (w : World)
    (result : Outcome Unit × World) : Prop where
  /-- The only failure is a conflict, and it says that the name is in other
  hands. -/
  refused : Zone.Foreign token (w.zone.recordsAt domain) ↔
    ∃ cause, result.1 = .error (.conflict cause)
  untouched : Zone.Foreign token (w.zone.recordsAt domain) → result.2 = w
  /-- Any other name takes one batch and then has the addresses asked for, and
  its tokens with ours among them. -/
  applied : ¬ Zone.Foreign token (w.zone.recordsAt domain) → result.1 = .ok () ∧
    ∃ batch, w.zone.apply batch = (.ok (), result.2.zone) ∧
      result.2.zone.batches = w.zone.batches ++ [batch] ∧
      result.2.zone.recordsAt domain =
        .aliasTo domain .a target ::
          (if ipv6 then [.aliasTo domain .aaaa target] else []) ++
            [.txt domain (if token ∈ w.zone.tokensAt domain then w.zone.tokensAt domain
              else w.zone.tokensAt domain ++ [token])]
  elsewhere : ∀ other, other ≠ domain →
    result.2.zone.recordsAt other = w.zone.recordsAt other
  stores : result.2 = { w with zone := result.2.zone }

/-- What releasing an entry comes to, from one world to another. -/
structure EntryReleased (token domain : String) (w : World) (result : Outcome Unit × World) :
    Prop where
  succeeded : result.1 = .ok ()
  untouched : Zone.Foreign token (w.zone.recordsAt domain) → result.2 = w
  /-- No address is left at any other name, and a text only if others have
  tokens in it. -/
  withdrawn : ¬ Zone.Foreign token (w.zone.recordsAt domain) →
    result.2.zone.recordsAt domain =
      match (w.zone.tokensAt domain).filter (· != token) with
      | [] => []
      | others => [.txt domain others]
  elsewhere : ∀ other, other ≠ domain →
    result.2.zone.recordsAt other = w.zone.recordsAt other
  stores : result.2 = { w with zone := result.2.zone }

namespace World

variable (w : World) (token target domain : String) (ipv6 : Bool)

theorem entryClaimed (h : w.zone.Filed) (hfail : domain ∉ w.zone.failing) :
    EntryClaimed token target domain ipv6 w
      (w.run (AliasProtocol.upsertEntry token target (.forDomain domain ipv6))) := by
  have honly := (Zone.claim_spec h token target (.forDomain domain ipv6)).1
  rw [run_upsertEntry]
  by_cases hforeign : Zone.Foreign token (w.zone.recordsAt domain)
  · obtain ⟨cause, hcause⟩ := (Zone.foreign_iff h domain token).1 hforeign
    have hkept : w.zone.claim token target (.forDomain domain ipv6) = _ := Zone.claim_foreign hcause
    rw [hkept]
    exact ⟨⟨fun _ => ⟨cause, rfl⟩, fun _ => hforeign⟩, fun _ => rfl,
      fun hnot => absurd hforeign hnot, fun _ _ => rfl, rfl⟩
  · obtain ⟨batch, hbatch, hok, hlogged, hrecords⟩ :=
      Zone.claim_applies target (.forDomain domain ipv6) h hfail hforeign
    rw [hbatch] at honly ⊢
    refine ⟨⟨fun h => absurd h hforeign, ?_⟩, fun h => absurd h hforeign, fun _ => ?_,
      fun other hne => honly.recordsAt h hne, rfl⟩
    · rintro ⟨cause, hcause⟩
      rw [hok] at hcause
      cases hcause
    · refine ⟨hok, batch, Prod.ext hok rfl, hlogged, hrecords.trans ?_⟩
      cases ipv6 <;> rfl

theorem entryReleased (h : w.zone.Filed) (hfail : domain ∉ w.zone.failing) :
    EntryReleased token domain w
      (w.run (AliasProtocol.deleteEntry token (.forDomain domain true))) := by
  have honly := (Zone.release_spec h token (.forDomain domain true)).1
  rw [run_deleteEntry]
  by_cases hforeign : Zone.Foreign token (w.zone.recordsAt domain)
  · obtain ⟨cause, hcause⟩ := (Zone.foreign_iff h domain token).1 hforeign
    have hkept : w.zone.release token (.forDomain domain true) = _ := Zone.release_foreign hcause
    rw [hkept]
    exact ⟨rfl, fun _ => rfl, fun hnot => absurd hforeign hnot, fun _ _ => rfl, rfl⟩
  · obtain ⟨hok, hrecords⟩ := Zone.release_applies h domain hfail hforeign
    exact ⟨hok, fun h => absurd h hforeign, fun _ => hrecords,
      fun other hne => honly.recordsAt h hne, rfl⟩

/-- **The effect of one entry**: at a name where the zone takes batches, a claim
is refused exactly if the name is in other hands and else is one batch that is
never rejected, a release always goes through, and neither touches another
name or another store. -/
theorem entry_effect (h : w.zone.Filed) (hfail : domain ∉ w.zone.failing) :
    EntryClaimed token target domain ipv6 w
        (w.run (AliasProtocol.upsertEntry token target (.forDomain domain ipv6))) ∧
      EntryReleased token domain w
        (w.run (AliasProtocol.deleteEntry token (.forDomain domain true))) :=
  ⟨w.entryClaimed token target domain ipv6 h hfail, w.entryReleased token domain h hfail⟩

/-- A shop whose name carries an IPv6 address and three tokens, ours twice, in a
zone that fails somewhere else. -/
theorem entry_effect_shop :
    let w : World := (seeded [] [.aliasTo "shop.example.com" .aaaa "old.example.net",
      .txt "shop.example.com" ["ours", "theirs", "ours"]]).failingAt [] ["blog.example.com"]
    EntryClaimed "ours" "new.example.net" "shop.example.com" false w
        (w.run (AliasProtocol.upsertEntry "ours" "new.example.net"
          (.forDomain "shop.example.com" false))) ∧
      EntryReleased "ours" "shop.example.com" w
        (w.run (AliasProtocol.deleteEntry "ours" (.forDomain "shop.example.com" true))) := by
  intro w
  exact entry_effect w "ours" "new.example.net" "shop.example.com" false
    (filed_seed _ Zone.filed_empty) (by decide)

end World

end RouteConvergence
