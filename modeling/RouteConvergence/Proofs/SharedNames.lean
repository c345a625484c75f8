/-
RouteConvergence.Proofs.SharedNames — what a cycle can do to a name that
another group lists.

A text in the zone tells this system from others and not one group from
another: all cycles write and look for the same token. So a group is kept
off a name of another group only by its own descriptors and its own
record. Three things can become of a listed name (`World.NameFate`):

* it is left alone, and always so if the group neither declares nor lists
  it;
* the group declares it, and it points at the group's own distribution
  afterwards;
* the group lists it and declares it no longer, and nothing stands there
  afterwards.

The record of the other group is the same in any case, so in the last two
it lists a name that is not its own any more.
-/
import RouteConvergence.Proofs.ZoneLedger

namespace RouteConvergence

/-! ## One name in one step -/

section

variable {settings : Settings} {start z : Zone} {model : Model} {status : StatusRecord}
  {result : Cycle.AliasSync × Zone} {name : String}

/-- A declared name is left alone, or owned afterwards and pointed at the
address on record. -/
theorem Zone.NamesSynced.declared_fate
    (hsynced : z.NamesSynced settings.aliasing.token model status result)
    (hstart : Zone.Unclaimed settings.aliasing.token (start.recordsAt name))
    (hipv6 : model.ipv6 = settings.ipv6)
    (h : Zone.Standing settings.aliasing.token settings.ipv6 name (start.recordsAt name)
      (z.recordsAt name))
    (hdeclared : name ∈ model.alternateDomains) :
    result.2.recordsAt name = z.recordsAt name ∨
      (name ∈ result.1.owned.elems ∧ ∃ address, status.address = some address ∧
        result.2.recordsAt name =
          Zone.aliasRecords name address settings.ipv6 settings.aliasing.token) := by
  cases haddress : status.address with
  | none => exact Or.inl (hsynced.unclaimed haddress name hdeclared).1
  | some address =>
    obtain ⟨hrecords, howned⟩ := hsynced.claimed address haddress name hdeclared
    rw [hipv6] at hrecords howned
    obtain ⟨hok, hnot⟩ := h.claimAt hstart address (z.failing.contains name)
    by_cases hdone : (z.claiming settings.aliasing.token address settings.ipv6 name).1 = .ok ()
    · exact Or.inr ⟨howned.2 (Or.inr hdone), address, rfl, hrecords.trans (hok hdone).2⟩
    · exact Or.inl (hrecords.trans (hnot hdone))

/-- A name that is not declared is left alone, or was listed and stands as it
did at the start. -/
theorem Zone.NamesSynced.undeclared_fate
    (hsynced : z.NamesSynced settings.aliasing.token model status result)
    (hstart : Zone.Unclaimed settings.aliasing.token (start.recordsAt name))
    (h : Zone.Standing settings.aliasing.token settings.ipv6 name (start.recordsAt name)
      (z.recordsAt name))
    (hdeclared : name ∉ model.alternateDomains) :
    result.2.recordsAt name = z.recordsAt name ∨
      (name ∈ status.aliases.elems ∧ result.2.recordsAt name = start.recordsAt name) := by
  by_cases hlisted : name ∈ status.aliases.elems
  · obtain ⟨hrecords, -⟩ := hsynced.released name hlisted hdeclared
    obtain ⟨hok, hnot⟩ := h.releaseAt hstart (z.failing.contains name)
    by_cases hdone : (z.releasing settings.aliasing.token name).1 = .ok ()
    · exact Or.inr ⟨hlisted, hrecords.trans (hok hdone)⟩
    · exact Or.inl (hrecords.trans (hnot hdone))
  · exact Or.inl (hsynced.elsewhere name hlisted hdeclared).1

end

namespace World

variable {w w' : World} {settings : Settings} {now : Instant} {d : Descriptor}
  {p : Cycle.Prepared} {name : String}

/-! ## One name in one cycle -/

/-- A group lists a name in its status record. -/
def Lists (w : World) (group : GroupName) (name : String) : Prop :=
  ∃ status, w.statuses.get? group = some status ∧ name ∈ status.aliases.toList

/-- A cycle for a descriptor works towards a model with a name. -/
def Declares (w : World) (settings : Settings) (now : Instant) (d : Descriptor)
    (name : String) : Prop :=
  ∃ model, w.wanted settings now d = .ok model ∧ name ∈ model.alternateDomains

/-- A name points at the address on the record of a group that lists it. -/
def PointsAt (w : World) (settings : Settings) (group : GroupName) (name : String) : Prop :=
  ∃ status address, w.statuses.get? group = some status ∧ name ∈ status.aliases.toList ∧
    status.address = some address ∧
    w.zone.recordsAt name = Zone.aliasRecords name address settings.ipv6 settings.aliasing.token

/-- What becomes of a name in a cycle. -/
inductive NameFate (settings : Settings) (now : Instant) (d : Descriptor) (name : String)
    (w w' : World) : Prop
  | untouched : w'.zone.recordsAt name = w.zone.recordsAt name → NameFate settings now d name w w'
  | redirected : w.Declares settings now d name → w'.PointsAt settings d.group name →
      NameFate settings now d name w w'
  | released : ¬ w.Declares settings now d name → w.Lists d.group name →
      w'.zone.recordsAt name = [] → NameFate settings now d name w w'

theorem Sound.declares_iff (h : w.Sound) (hp : w.prepared settings now d = .ok p) :
    w.Declares settings now d name ↔ name ∈ p.model.alternateDomains := by
  obtain ⟨model, hwanted, hmodel⟩ := (h.preparedModel hp).wanted
  rw [hmodel]
  constructor
  · rintro ⟨other, hother, hname⟩
    cases hwanted.symm.trans hother
    exact hname
  · exact fun hname => ⟨model, hwanted, hname⟩

/-- Only a record on file lists anything. -/
theorem Sound.lists_of_found (h : w.Sound) (hp : w.prepared settings now d = .ok p)
    (hname : name ∈ (p.found d.group).aliases.elems) : w.Lists d.group name := by
  cases hget : w.statuses.get? d.group with
  | none =>
    rw [Cycle.Prepared.found, (h.preparedModel hp).persisted, hget] at hname
    exact absurd hname List.not_mem_nil
  | some status =>
    rw [found_eq hp hget] at hname
    exact ⟨status, hget, hname⟩

/-- The record of a group that wants names is kept. -/
theorem Sound.recorded_of_declared (h : w.Sound) (hp : w.prepared settings now d = .ok p)
    (hname : name ∈ p.model.alternateDomains) :
    (w.recorded settings now d p).2.get? d.group = some (w.recordAfter settings now d p) := by
  have hempty : p.model.isEmpty = false := by
    rw [← Bool.not_eq_true]
    intro he
    rw [(h.preparedModel hp).noNames he] at hname
    exact absurd hname List.not_mem_nil
  rw [recorded_eq h.statuses hp, hempty, Bool.and_false, Bool.false_and]
  exact SortedMap.get?_insert_self _ _ _

/-- A cycle keeps the records of other groups. -/
theorem Sound.statuses_elsewhere (h : w.Sound) (hp : w.prepared settings now d = .ok p)
    {other : GroupName} (hother : other ≠ d.group) :
    (w.converged settings now d p).statuses.get? other = w.statuses.get? other := by
  show (w.recorded settings now d p).2.get? other = _
  rw [recorded_eq h.statuses hp]
  dsimp only
  split
  · exact SortedMap.get?_erase_ne _ hother
  · exact SortedMap.get?_insert_ne _ _ hother

theorem Ledger.nameFate {start : Zone} (h : w.Ledger settings start)
    (hstart : ∀ other, start.recordsAt other = []) (henabled : settings.aliasing.enabled = true)
    (hp : w.prepared settings now d = .ok p) (name : String) :
    NameFate settings now d name w (w.converged settings now d p) := by
  have hsynced := h.sound.namesSynced henabled d p
  have hunclaimed : Zone.Unclaimed settings.aliasing.token (start.recordsAt name) := by
    rw [hstart]
    exact Zone.unclaimed_nil _
  by_cases hdeclared : name ∈ p.model.alternateDomains
  · have hipv6 := (h.sound.preparedModel hp).ipv6
    rcases hsynced.declared_fate hunclaimed hipv6 (h.standing name) hdeclared with
      hsame | ⟨howned, address, haddress, hrecords⟩
    · exact .untouched hsame
    · refine .redirected ((h.sound.declares_iff hp).2 hdeclared) ⟨_, address,
        h.sound.recorded_of_declared hp hdeclared, ?_, ?_, hrecords⟩
      · rw [recordAfter_aliases]
        exact howned
      · rw [(w.recordAfter_identity settings now d p).2.2, ← identified_address]
        exact haddress
  · rcases hsynced.undeclared_fate hunclaimed (h.standing name) hdeclared with
      hsame | ⟨hlisted, hrecords⟩
    · exact .untouched hsame
    · exact .released (mt (h.sound.declares_iff hp).1 hdeclared) (h.sound.lists_of_found hp hlisted)
        (hrecords.trans (hstart name))

/-! ## Names of another group -/

/-- **A name that another group lists** is changed by a cycle only if the
cycle's own group declares it or lists it, and then it points at that group's
distribution or is released. The record of the other group stays as it is.
This holds in every state that a history under fixed settings can lead to
from empty stores. -/
theorem listed_name_fate (settings : Settings) (henabled : settings.aliasing.enabled = true)
    (certificates : List Certificate) (history : List Happening)
    (hhistory : ∀ next ∈ history, next.Under settings) (now : Instant) (d : Descriptor)
    (other : GroupName) (hother : other ≠ d.group) (name : String)
    (hlists : ((initial certificates).through history).Lists other name) :
    NameFate settings now d name ((initial certificates).through history)
        (((initial certificates).through history).run (reconcile settings now d)).2 ∧
      ∃ status, ((initial certificates).through history).statuses.get? other = some status ∧
        (((initial certificates).through history).run (reconcile settings now d)).2.statuses.get?
          other = some status ∧ name ∈ status.aliases.toList := by
  have hledger : ((initial certificates).through history).Ledger settings .empty := by
    refine ledger_through certificates [] henabled ?_ hhistory
    intro name r hr
    exact absurd hr List.not_mem_nil
  obtain ⟨status, hstatus, hname⟩ := hlists
  rw [← after_cycle_eq]
  rcases after_cycle ((initial certificates).through history) settings now d with
    ⟨events, heq⟩ | ⟨p, events, hp, heq⟩
  · rw [heq]
    exact ⟨.untouched rfl, status, hstatus, hstatus, hname⟩
  · rw [heq]
    have hkept := (hledger.sound.statuses_elsewhere hp hother).trans hstatus
    refine ⟨?_, status, hstatus, hkept, hname⟩
    cases hledger.nameFate (fun _ => rfl) henabled hp name with
    | untouched hsame => exact .untouched hsame
    | redirected hdeclares hpoints => exact .redirected hdeclares hpoints
    | released hdeclares hlists hrecords => exact .released hdeclares hlists hrecords

/-! ## Two groups, one name -/

/-- The press takes over the name of the blog, or cannot. -/
theorem listed_name_fate_press :
    let w := (initial []).through [.store .blog, .cycle .claiming .someNoon .blog, .store .press]
    let w' := (w.run (reconcile .claiming .someNoon .press)).2
    w.Lists "public" "blog.example.com" ∧
      NameFate .claiming .someNoon .press "blog.example.com" w w' ∧
      ∃ status, w.statuses.get? "public" = some status ∧ w'.statuses.get? "public" = some status ∧
        "blog.example.com" ∈ status.aliases.toList := by
  intro w w'
  have hlists : w.Lists "public" "blog.example.com" :=
    ⟨(w.statuses.get? "public").getD default, by decide +kernel, by decide +kernel⟩
  exact ⟨hlists, listed_name_fate .claiming rfl [] _ (by decide +kernel) _ .press _
    (by decide +kernel) _ hlists⟩

/-- **A listed name is not safe from other groups.** The press redirects the
name of the blog, and its removal takes the records away; the record of the
blog lists the name all the time. -/
theorem press_takes_over :
    let w := (initial []).through [.store .blog, .cycle .claiming .someNoon .blog, .store .press]
    let taken := (w.run (reconcile .claiming .someNoon .press)).2
    let gone : Descriptor := { Descriptor.press with beingRemoved := true }
    let left := ((taken.after (.store gone)).run (reconcile .claiming .someNoon gone)).2
    w.zone.recordsAt "blog.example.com" ≠ [] ∧
      taken.zone.recordsAt "blog.example.com" ≠ w.zone.recordsAt "blog.example.com" ∧
      left.zone.recordsAt "blog.example.com" = [] ∧
      ∀ world ∈ [w, taken, left], ((world.statuses.get? "public").map (·.aliases.toList)) =
        some ["blog.example.com"] := by
  decide +kernel

end World

end RouteConvergence
