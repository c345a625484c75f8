/-
RouteConvergence.Proofs.Renumbering — the same stores under other numbers.

Which number a distribution gets depends on who asks first. Everything else
about it can be compared under a renaming of numbers: the identity of a
distribution with its identifier, resource name and address, the status
record that repeats them, and the records that point at the address.

* `Identity.Renumbered`, `Model.Renumbered`, `StatusRecord.Renumbered`,
  `RecordSet.Renumbered` — the same but for the number and, for a status
  record, the moment it was written in.
* `Share.Renumbered`, `Share.Renumbered.cycles` — shares that are the same in
  this sense stay so when both go through the same cycles, at other moments
  and under numbers that belong together.
* `exists_renumbering` — numbers that belong together in finitely many places
  do so by a permutation of all numbers.
-/
import Mathlib.Data.List.Forall2
import Mathlib.Logic.Equiv.Basic
import RouteConvergence.Proofs.ShareCycles

namespace RouteConvergence

variable {ρ : Nat → Nat}

/-! ## What a number shows in -/

/-- Two identities of numbers that belong together, or none. -/
inductive Identity.Renumbered (ρ : Nat → Nat) : Option Identity → Option Identity → Prop
  | nothing : Renumbered ρ none none
  | number (n : Nat) :
    Renumbered ρ (some (DistributionStore.identityOf n)) (some (DistributionStore.identityOf (ρ n)))

/-- Two distributions that differ in their numbers only. -/
structure Model.Renumbered (ρ : Nat → Nat) (m m' : Model) : Prop where
  identity : Identity.Renumbered ρ m.identity m'.identity
  same : m'.withIdentity none = m.withIdentity none

/-- Two records that differ only in the number of the distribution they tell and
in their moment. -/
def StatusRecord.Renumbered (ρ : Nat → Nat) (s s' : StatusRecord) : Prop :=
  ∃ identity identity', Identity.Renumbered ρ identity identity' ∧
    s = s.setIdentity identity ∧ s'.unstamped = (s.setIdentity identity').unstamped

/-- Two record sets with the same text, or pointing at distributions of numbers
that belong together. -/
inductive RecordSet.Renumbered (ρ : Nat → Nat) : RecordSet → RecordSet → Prop
  | text (name : String) (values : List String) : Renumbered ρ (.txt name values) (.txt name values)
  | address (name : String) (type : RecordType) (n : Nat) :
    Renumbered ρ (.aliasTo name type (DistributionStore.servedAt n))
      (.aliasTo name type (DistributionStore.servedAt (ρ n)))

theorem Share.renumbered_served (model : Model) (n : Nat) :
    Identity.Renumbered ρ (Share.served model n) (Share.served model (ρ n)) := by
  unfold Share.served
  cases model.isEmpty with
  | true => exact .nothing
  | false => exact .number n

/-- A name claimed for a distribution. -/
theorem RecordSet.renumbered_aliasRecords (name token : String) (ipv6 : Bool) (n : Nat) :
    List.Forall₂ (RecordSet.Renumbered ρ)
      (Zone.aliasRecords name (DistributionStore.servedAt n) ipv6 token)
      (Zone.aliasRecords name (DistributionStore.servedAt (ρ n)) ipv6 token) := by
  have htext : List.Forall₂ (RecordSet.Renumbered ρ) [.txt name [token]] [.txt name [token]] :=
    .cons (.text name [token]) .nil
  cases ipv6 with
  | true => exact .cons (.address name .a n) (.cons (.address name .aaaa n) htext)
  | false => exact .cons (.address name .a n) htext

namespace Share

variable {σ σ' : Share} {settings : Settings} {goal : Outcome Model} {model : Model}
  {now now' : Instant} {d : Descriptor} {n : Nat}

/-- **Two shares that differ in the number of the distribution** and the moment
of the record only. -/
structure Renumbered (ρ : Nat → Nat) (σ σ' : Share) : Prop where
  model : Option.Rel (Model.Renumbered ρ) σ.model σ'.model
  status : Option.Rel (StatusRecord.Renumbered ρ) σ.status σ'.status
  records : ∀ name, List.Forall₂ (RecordSet.Renumbered ρ) (σ.records name) (σ'.records name)
  routes : σ'.routes = σ.routes

/-- The records cycles leave differ as those they found, and in the number. -/
theorem Renumbered.noted (h : Renumbered ρ σ σ') :
    (σ.noted settings model n now d).Renumbered ρ (σ'.noted settings model (ρ n) now' d) := by
  have hfound : let s := σ.status.getD (.new d.group)
      let s' := σ'.status.getD (.new d.group)
      s'.group = s.group ∧ s'.synced = s.synced ∧ s'.aliases = s.aliases := by
    have hstatus := h.status
    cases hs : σ.status with
    | none =>
      cases hs' : σ'.status with
      | none => exact ⟨rfl, rfl, rfl⟩
      | some s' => rw [hs, hs'] at hstatus; cases hstatus
    | some s =>
      cases hs' : σ'.status with
      | none => rw [hs, hs'] at hstatus; cases hstatus
      | some s' =>
        rw [hs, hs'] at hstatus
        obtain ⟨identity, identity', -, -, hsame⟩ : StatusRecord.Renumbered ρ s s' := by
          cases hstatus
          assumption
        exact ⟨congrArg (·.group) hsame, congrArg (·.synced) hsame, congrArg (·.aliases) hsame⟩
  obtain ⟨hgroup, hsynced, haliases⟩ := hfound
  refine ⟨served model n, served model (ρ n), renumbered_served model n, ?_, ?_⟩
  · unfold Share.noted StatusRecord.recordSync StatusRecord.forget
    cases d.beingRemoved <;> rfl
  · unfold Share.noted StatusRecord.recordSync StatusRecord.forget StatusRecord.setIdentity
      StatusRecord.unstamped
    cases d.beingRemoved <;> simp only [hgroup, hsynced, haliases] <;> rfl

theorem Renumbered.after (h : Renumbered ρ σ σ') :
    Renumbered ρ (σ.after settings model n now d) (σ'.after settings model (ρ n) now' d) where
  model := by
    unfold Share.after served
    cases model.isEmpty with
    | true => exact .none
    | false => exact .some ⟨.number n, rfl⟩
  status := by
    show Option.Rel _ (if model.isEmpty && settings.deletion then none else _)
      (if model.isEmpty && settings.deletion then none else _)
    split
    · exact .none
    · exact .some h.noted
  records := by
    intro name
    show List.Forall₂ _ (if name ∈ claims settings model then _ else σ.records name)
      (if name ∈ claims settings model then _ else σ'.records name)
    split
    · exact RecordSet.renumbered_aliasRecords _ _ _ _
    · exact h.records name
  routes := by
    show (fun r => if r = d.reference then _ else σ'.routes r) = _
    rw [h.routes]
    rfl

theorem Renumbered.cycle (h : Renumbered ρ σ σ') :
    Renumbered ρ (σ.cycle settings goal n now d) (σ'.cycle settings goal (ρ n) now' d) := by
  unfold Share.cycle
  cases Cycle.approved settings goal d with
  | error failure => exact h
  | ok model => exact h.after

/-- **The same cycles leave the same shares**, but for the number and the
moments. -/
theorem Renumbered.cycles {clock clock' : Reference → Instant} (ds : List Descriptor) :
    ∀ {σ σ' : Share}, Renumbered ρ σ σ' →
      Renumbered ρ (σ.cycles settings goal n clock ds)
        (σ'.cycles settings goal (ρ n) clock' ds) := by
  induction ds with
  | nil => exact id
  | cons d rest ih => exact fun h => ih h.cycle

end Share

/-! ## Whole stores -/

/-- **Two worlds with the same stores**, but for the numbers of the distributions
and the moments of the records. -/
structure World.Renumbered (ρ : Nat → Nat) (w w' : World) : Prop where
  descriptors : w'.descriptors = w.descriptors
  models : ∀ group, Option.Rel (Model.Renumbered ρ) (w.distributions.models.get? group)
    (w'.distributions.models.get? group)
  statuses : ∀ group, Option.Rel (StatusRecord.Renumbered ρ) (w.statuses.get? group)
    (w'.statuses.get? group)
  records : ∀ name, List.Forall₂ (RecordSet.Renumbered ρ) (w.zone.recordsAt name)
    (w'.zone.recordsAt name)

/-- The routes of a group are told by its share. -/
theorem Share.Holds.routes_eq_some {start w : World} {group : GroupName} {σ : Share}
    (h : Share.Holds start group σ w) {r : Reference} {d : Descriptor} :
    σ.routes r = some d ↔ w.descriptors.get? r = some d ∧ d.group = group := by
  rw [← h.part]
  show (w.descriptors.get? r).filter (·.group == group) = some d ↔ _
  rw [Option.filter_eq_some_iff, beq_iff_eq]

/-- **Stores are told by the shares of all groups.** -/
theorem World.renumbered_of_shares {start w w' : World} {shares shares' : GroupName → Share}
    (h : ∀ group, Share.Holds start group (shares group) w)
    (h' : ∀ group, Share.Holds start group (shares' group) w')
    (hsame : ∀ group, Share.Renumbered ρ (shares group) (shares' group)) :
    World.Renumbered ρ w w' where
  descriptors := by
    refine SortedMap.ext_get? fun r => Option.ext fun d => ?_
    have hroute := (h d.group).routes_eq_some (r := r) (d := d)
    have hroute' := (h' d.group).routes_eq_some (r := r) (d := d)
    rw [(hsame d.group).routes] at hroute'
    simpa using hroute'.symm.trans hroute
  models := fun group => by
    rw [(h group).model, (h' group).model]
    exact (hsame group).model
  statuses := fun group => by
    rw [(h group).status, (h' group).status]
    exact (hsame group).status
  records := fun name => by
    by_cases hname : ∃ group, name ∈ (start.namesOf group).elems
    · obtain ⟨group, hmem⟩ := hname
      rw [(h group).records hmem, (h' group).records hmem]
      exact (hsame group).records name
    · rw [not_exists] at hname
      have hany := h ""
      have hany' := h' ""
      rw [hany.common.free name hname, hany'.common.free name hname]
      exact .nil

/-! ## Permutations -/

/-- **Numbers that belong together do so by a permutation**, if each belongs to
one other only. -/
theorem exists_renumbering {ι : Type} (places : List ι) (number number' : ι → Nat)
    (h : ∀ i ∈ places, ∀ j ∈ places, number i = number j ↔ number' i = number' j) :
    ∃ ρ : Equiv.Perm Nat, ∀ i ∈ places, ρ (number i) = number' i := by
  induction places with
  | nil => exact ⟨Equiv.refl Nat, nofun⟩
  | cons i rest ih =>
    obtain ⟨ρ, hρ⟩ :=
      ih fun j hj k hk => h j (List.mem_cons_of_mem i hj) k (List.mem_cons_of_mem i hk)
    refine ⟨ρ.trans (Equiv.swap (ρ (number i)) (number' i)), fun j hj => ?_⟩
    have hiff := h j hj i List.mem_cons_self
    rw [Equiv.trans_apply]
    by_cases hsame : number j = number i
    · rw [hsame, Equiv.swap_apply_left]
      exact (hiff.1 hsame).symm
    · -- What belongs together already is left alone.
      have hrest : j ∈ rest := by
        rcases List.mem_cons.1 hj with rfl | hrest
        · exact absurd rfl hsame
        · exact hrest
      rw [Equiv.swap_apply_of_ne_of_ne (fun heq => hsame (ρ.injective heq))
        (fun heq => hsame (hiff.2 ((hρ j hrest).symm.trans heq)))]
      exact hρ j hrest

end RouteConvergence
