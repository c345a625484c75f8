/-
RouteConvergence.Proofs.Shares — what belongs to one group, while cycles of
all groups run beside each other.

The groups work in the same stores. They give out numbers from one counter,
search all distributions for an identifier, list all routes, and write to
one zone. But each of them has its own distribution, its own record, its own
names and its own routes in there, and no call of one group's cycle changes
what belongs to another.

* `Share`, `World.share` — what belongs to a group, read off a world.
* `World.Common` — what holds of the stores as a whole, whoever writes to
  them.
* `Share.outlook` — the stores, looked at by shares; `Share.Acts` and its like
  are those of this outlook.
* `Share.Holds.distributions`, `Share.Holds.zone` and so on — how a write to
  one store shows in the share of the group that makes it.
-/
import RouteConvergence.Proofs.Outlook

namespace RouteConvergence

/-- What belongs to one group. -/
@[ext] structure Share where
  model : Option Model
  status : Option StatusRecord
  /-- The records at the names of the group. -/
  records : String → List RecordSet
  routes : Reference → Option Descriptor

namespace World

/-- The names the members of a group ask for. -/
def namesOf (w : World) (group : GroupName) : SortedSet String :=
  collectDomains (Group.membersOf group w.descriptors.values)

/-- No two groups ask for the same name. -/
def NamesApart (w : World) : Prop :=
  ∀ group other, group ≠ other → ∀ name ∈ (w.namesOf group).elems, name ∉ (w.namesOf other).elems

/-- What belongs to a group in a world that came from another one, whose routes
say which names are meant. -/
def share (start w : World) (group : GroupName) : Share where
  model := w.distributions.models.get? group
  status := w.statuses.get? group
  records name := if name ∈ (start.namesOf group).elems then w.zone.recordsAt name else []
  routes r := (w.descriptors.get? r).filter (·.group == group)

/-- **What holds of the stores as a whole**: they stay in order, the zone takes
every batch, and nothing stands at names that no group asks for. -/
structure Common (start w : World) : Prop extends Steady start w where
  zone : w.zone.Filed
  batches : w.zone.failing = []
  free : ∀ name, (∀ group, name ∉ (start.namesOf group).elems) → w.zone.recordsAt name = []

end World

namespace Share

open Outlook

variable {start w w' : World} {group : GroupName} {σ σ' : Share}

/-! ## The look at one share -/

/-- The stores, looked at by shares. -/
abbrev outlook (start : World) : Outlook Share := ⟨start.Common, start.share⟩

/-- Nobody touches the share of another group, and all keep the stores in
order. -/
abbrev contract (start : World) : GroupName → Contract := (outlook start).contract

theorem compatible (start : World) : Fleet.Compatible (contract start) := (outlook start).compatible

/-- The stores are in order, and a group has a given share of them. -/
abbrev Holds (start : World) : GroupName → Share → World → Prop := (outlook start).Holds

/-- A value and the share of a group are related in some way. -/
abbrev Ends {α : Type} (start : World) :
    GroupName → (α → Share → Prop) → α → World → Prop := (outlook start).Ends

/-- What a procedure of a group does to its share. -/
abbrev Acts {α : Type} (start : World) :
    GroupName → Share → Program α → (α → Share → Prop) → Prop := (outlook start).Acts

/-- A procedure that answers something and leaves the share as it is. -/
abbrev Answers {α : Type} (start : World) : GroupName → Share → Program α → α → Prop :=
  (outlook start).Answers

theorem Holds.model (h : Holds start group σ w) :
    w.distributions.models.get? group = σ.model := congrArg Share.model h.part

theorem Holds.status (h : Holds start group σ w) : w.statuses.get? group = σ.status :=
  congrArg Share.status h.part

theorem Holds.records (h : Holds start group σ w) {name : String}
    (hname : name ∈ (start.namesOf group).elems) : w.zone.recordsAt name = σ.records name := by
  rw [← congrArg Share.records h.part]
  exact (if_pos hname).symm

/-! ## What a write shows in the shares -/

/-- A write to the distribution of the group. -/
theorem Holds.distributions (h : Holds start group σ w) {s' : DistributionStore}
    (hnumbered : s'.Numbered) (hfailing : s'.failing = w.distributions.failing)
    (helsewhere : ∀ other, other ≠ group →
      s'.models.get? other = w.distributions.models.get? other) :
    (contract start group).own w { w with distributions := s' } ∧
      Holds start group { σ with model := s'.models.get? group }
        { w with distributions := s' } := by
  have hcommon : start.Common w → start.Common { w with distributions := s' } := fun hc =>
    { hc with numbered := hnumbered, calls := hfailing.trans hc.calls }
  refine ⟨⟨hcommon, fun other hne => ?_⟩, hcommon h.common, ?_⟩
  · exact Share.ext (helsewhere other hne) rfl rfl rfl
  · rw [← h.part]
    rfl

/-- A write to the record of the group. -/
theorem Holds.statuses (h : Holds start group σ w) {s' : StatusStore}
    (helsewhere : ∀ other, other ≠ group → s'.get? other = w.statuses.get? other) :
    (contract start group).own w { w with statuses := s' } ∧
      Holds start group { σ with status := s'.get? group } { w with statuses := s' } := by
  refine ⟨⟨fun hc => { hc with }, fun other hne => ?_⟩, { h.common with }, ?_⟩
  · exact Share.ext rfl (helsewhere other hne) rfl rfl
  · rw [← h.part]
    rfl

/-- A write at one name of the group. -/
theorem Holds.zone (h : Holds start group σ w) (hapart : start.NamesApart) {name : String}
    (hname : name ∈ (start.namesOf group).elems) {z' : Zone} (honly : Zone.OnlyAt name w.zone z') :
    (contract start group).own w { w with zone := z' } ∧
      Holds start group
        { σ with
          records := fun other => if other = name then z'.recordsAt name else σ.records other }
        { w with zone := z' } := by
  have hcommon : start.Common w → start.Common { w with zone := z' } := by
    intro hc
    refine { hc with
      zone := honly.filed hc.zone
      batches := honly.failing.trans hc.batches
      free := fun other hfree => ?_ }
    have hne : other ≠ name := fun heq => hfree group (heq ▸ hname)
    exact (honly.recordsAt hc.zone hne).trans (hc.free other hfree)
  refine ⟨⟨hcommon, fun other hne => ?_⟩, hcommon h.common, ?_⟩
  · refine Share.ext rfl rfl (funext fun n => ?_) rfl
    show (if n ∈ (start.namesOf other).elems then z'.recordsAt n else []) =
      if n ∈ (start.namesOf other).elems then w.zone.recordsAt n else []
    by_cases hn : n ∈ (start.namesOf other).elems
    · have hother : n ≠ name := fun heq => hapart group other hne.symm name hname (heq ▸ hn)
      rw [honly.recordsAt h.common.zone hother]
    · rw [if_neg hn, if_neg hn]
  · obtain ⟨hw, rfl⟩ := h
    refine Share.ext rfl rfl (funext fun n => ?_) rfl
    show (if n ∈ (start.namesOf group).elems then z'.recordsAt n else []) =
      if n = name then z'.recordsAt name
      else if n ∈ (start.namesOf group).elems then w.zone.recordsAt n else []
    by_cases heq : n = name
    · rw [heq, if_pos hname, if_pos rfl]
    · rw [if_neg heq, honly.recordsAt hw.zone heq]

/-- A finalizer noted at a route of the group. -/
theorem Holds.descriptors (h : Holds start group σ w) {d : Descriptor} (hgroup : d.group = group)
    (hd : w.descriptors.get? d.reference = some d) (state : FinalizerState) :
    let noted := w.descriptors.insert d.reference { d with finalizer := state }
    (contract start group).own w { w with descriptors := noted } ∧
      Holds start group
        { σ with routes := fun r =>
            if r = d.reference then some { d with finalizer := state } else σ.routes r }
        { w with descriptors := noted } := by
  intro noted
  have hcommon : start.Common w → start.Common { w with descriptors := noted } := by
    intro hc
    have hunheld : noted.values.map (·.unheld) = w.descriptors.values.map (·.unheld) :=
      SortedMap.map_values_insert _ hd rfl
    exact { hc with
      filed := hc.filed.insert rfl
      descriptors := hunheld.trans hc.descriptors }
  refine ⟨⟨hcommon, fun other hne => ?_⟩, hcommon h.common, ?_⟩
  · refine Share.ext rfl rfl rfl (funext fun r => ?_)
    show (noted.get? r).filter (·.group == other) =
      (w.descriptors.get? r).filter (·.group == other)
    by_cases hr : r = d.reference
    · have hother : d.group ≠ other := fun heq => hne (heq.symm.trans hgroup)
      rw [hr, hd, SortedMap.get?_insert_self]
      simp [Option.filter, hother]
    · rw [SortedMap.get?_insert_ne _ _ hr]
  · obtain ⟨hw, rfl⟩ := h
    refine Share.ext rfl rfl rfl (funext fun r => ?_)
    show (noted.get? r).filter (·.group == group) =
      if r = d.reference then some { d with finalizer := state }
      else (w.descriptors.get? r).filter (·.group == group)
    by_cases hr : r = d.reference
    · rw [hr, SortedMap.get?_insert_self, if_pos rfl]
      simp [Option.filter, hgroup]
    · rw [SortedMap.get?_insert_ne _ _ hr, if_neg hr]

/-- Events are in nobody's share. -/
theorem Acts.publish (event : Event) :
    Acts start group σ (Program.call (.publish event)) fun _ σ' => σ' = σ := by
  refine Acts.single (Program.single_call _) fun w hw => ?_
  rw [World.run_publish]
  exact ⟨⟨fun hc => { hc with }, fun _ _ => rfl⟩, σ, rfl, { hw.common with }, hw.part⟩

end Share

end RouteConvergence
