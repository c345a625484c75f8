/-
RouteConvergence.Proofs.Accounts — the distribution of a group, however its
names fare.

The share of a group says all that belongs to it, and can be followed only
while every batch is taken and no two groups ask for one name. The account of
a group says less: its distribution and its status record. Names do not show
in it, so it can be followed past any conflict and any failure of the zone.

* `Account`, `World.account` — what the stores know of a group.
* `Account.Underway` — an account that cycles have left: its record tells the
  distribution, and the distribution is as the group asks for.
* `Account.acts_converge`, `Account.acts_reconcile` — one cycle leaves such an
  account, whatever happens at the names.
* `Account.acts_reconcileEach` — and so do any cycles one after the other; a
  distribution once there stays, and a cycle that is approved of puts it there.
-/
import RouteConvergence.Proofs.ShareCycles

namespace RouteConvergence

/-- What the stores know of one group. -/
@[ext] structure Account where
  model : Option Model
  status : Option StatusRecord

/-- The account of a group. -/
def World.account (w : World) (group : GroupName) : Account where
  model := w.distributions.models.get? group
  status := w.statuses.get? group

namespace Account

open Outlook

/-- The stores, looked at by accounts. -/
abbrev outlook (start : World) : Outlook Account := ⟨start.Steady, World.account⟩

variable {start w : World} {group : GroupName} {a : Account}

/-- The identity of the distribution of a group. -/
def identity (a : Account) : Option Identity := a.model.bind (·.identity)

theorem Holds.model (h : (outlook start).Holds group a w) :
    w.distributions.models.get? group = a.model := congrArg Account.model h.part

theorem Holds.status (h : (outlook start).Holds group a w) :
    w.statuses.get? group = a.status := congrArg Account.status h.part

theorem Holds.identityAt (h : (outlook start).Holds group a w) :
    w.distributions.identityAt group = a.identity := by
  rw [DistributionStore.identityAt, Holds.model h]
  rfl

variable {settings : Settings} {now : Instant} {d : Descriptor} {model : Model}
  {goal : Outcome Model}

/-! ## What a write shows in the accounts -/

/-- A write to the distribution of the group. -/
theorem Holds.distributions (h : (outlook start).Holds group a w) {s' : DistributionStore}
    (hnumbered : s'.Numbered) (hfailing : s'.failing = w.distributions.failing)
    (helsewhere : ∀ other, other ≠ group →
      s'.models.get? other = w.distributions.models.get? other) :
    ((outlook start).contract group).own w { w with distributions := s' } ∧
      (outlook start).Holds group { a with model := s'.models.get? group }
        { w with distributions := s' } := by
  have hsteady : start.Steady w → start.Steady { w with distributions := s' } := fun hc =>
    { hc with numbered := hnumbered, calls := hfailing.trans hc.calls }
  refine ⟨⟨hsteady, fun other hne => ?_⟩, hsteady h.common, ?_⟩
  · exact Account.ext (helsewhere other hne) rfl
  · rw [← h.part]
    rfl

/-- A write to the record of the group. -/
theorem Holds.statuses (h : (outlook start).Holds group a w) {s' : StatusStore}
    (helsewhere : ∀ other, other ≠ group → s'.get? other = w.statuses.get? other) :
    ((outlook start).contract group).own w { w with statuses := s' } ∧
      (outlook start).Holds group { a with status := s'.get? group }
        { w with statuses := s' } := by
  refine ⟨⟨fun hc => { hc with }, fun other hne => ?_⟩, { h.common with }, ?_⟩
  · exact Account.ext rfl (helsewhere other hne)
  · rw [← h.part]
    rfl

/-- **Names and marks are in nobody's account.** -/
theorem aside_answer (request : Request) (hkind : (request.isNaming || request.isMarking) = true)
    (h : start.Steady w) : start.Steady (World.answer request w).2 ∧
      ∀ other, (World.answer request w).2.account other = w.account other := by
  cases request with
  | listRecords name => exact ⟨h, fun _ => rfl⟩
  | applyBatch batch => exact ⟨{ h with }, fun _ => rfl⟩
  | publish event => exact ⟨{ h with }, fun _ => rfl⟩
  | setFinalizer route state =>
    refine ⟨?_, fun _ => rfl⟩
    show start.Steady { w with
      descriptors := (DescriptorStore.setFinalizer w.descriptors route state).2 }
    unfold DescriptorStore.setFinalizer
    cases hstored : w.descriptors.get? route with
    | none => exact h
    | some d =>
      have href : d.reference = route := h.filed _ _ hstored
      have hunheld : (w.descriptors.insert route { d with finalizer := state }).values.map
          (·.unheld) = w.descriptors.values.map (·.unheld) :=
        SortedMap.map_values_insert _ hstored rfl
      exact { h with
        filed := h.filed.insert href
        descriptors := hunheld.trans h.descriptors }
  | _ => cases hkind

/-- A procedure about names and marks alone. -/
theorem acts_aside {α : Type} {p : Program α}
    (h : p.Only fun request => request.isNaming || request.isMarking) :
    (outlook start).Acts group a p fun _ a' => a' = a :=
  (Acts.aside h fun request _ hkind hsteady => aside_answer request hkind hsteady).mono
    fun _ _ hsame => hsame.1

/-- The name step, however it ends. -/
theorem acts_syncAliases (status : StatusRecord) :
    (outlook start).Acts group a (Cycle.syncAliasesIfEnabled settings model status)
      fun _ a' => a' = a :=
  acts_aside ((Cycle.only_syncAliasesIfEnabled settings model status).imp fun _ h =>
    Bool.or_eq_true_iff.2 (Or.inl h))

theorem acts_settleFinalizer (state : FinalizerState) :
    (outlook start).Acts group a (Cycle.settleFinalizer d state) fun _ a' => a' = a :=
  acts_aside ((Cycle.only_settleFinalizer d state).imp fun _ h =>
    Bool.or_eq_true_iff.2 (Or.inr h))

theorem acts_announce (audience : Audience) (kind : EventKind) (reason message : String) :
    (outlook start).Acts group a (Cycle.announce d audience kind reason message)
      fun _ a' => a' = a :=
  acts_aside ((Cycle.only_announce d audience kind reason message).imp fun _ h =>
    Bool.or_eq_true_iff.2 (Or.inr h))

/-! ## Accounts on the way -/

/-- The distribution a model asks for, under a number. -/
def provided (model : Model) (n : Nat) : Option Model :=
  (Share.served model n).map fun identity => model.withIdentity (some identity)

theorem provided_identity (model : Model) (n : Nat) :
    (provided model n).bind (·.identity) = Share.served model n := by
  unfold provided
  cases Share.served model n <;> rfl

/-- **An account that cycles of its group have left**: the record tells the
distribution, and the distribution is the one the group asks for. -/
structure Underway (group : GroupName) (goal : Outcome Model) (a : Account) : Prop where
  recorded : a.status.bind (·.identity) = a.identity
  group : ∀ status, a.status = some status → status.group = group
  serves : ∀ stored, a.model = some stored →
    ∃ model n, goal = .ok model ∧ a.model = provided model n

theorem underway_none (group : GroupName) (goal : Outcome Model) :
    Underway group goal ⟨none, none⟩ where
  recorded := rfl
  group _ hstatus := by cases hstatus
  serves _ hstored := by cases hstored

/-- Without members there is no distribution. -/
theorem Underway.model_eq_none (h : a.Underway group (.ok model)) (hempty : model.isEmpty = true) :
    a.model = none := by
  cases hstored : a.model with
  | none => rfl
  | some stored =>
    obtain ⟨other, n, hgoal, hprovided⟩ := h.serves stored hstored
    cases hgoal
    rw [hstored, provided, Share.served_of_isEmpty hempty] at hprovided
    exact hprovided

/-- **A distribution on the way** is the one asked for, in every field but its
identity. -/
theorem Underway.stored (h : a.Underway group (.ok model)) (hthere : a.model.isSome = true) :
    ∃ identity, a.model = some (model.withIdentity (some identity)) := by
  obtain ⟨stored, hstored⟩ := Option.isSome_iff_exists.1 hthere
  obtain ⟨other, n, hgoal, hprovided⟩ := h.serves stored hstored
  cases hgoal
  cases hempty : model.isEmpty with
  | true =>
    rw [h.model_eq_none hempty] at hstored
    cases hstored
  | false =>
    rw [provided, Share.served_of_members hempty] at hprovided
    exact ⟨_, hprovided⟩

/-- **An account foretells what a cycle finds.** -/
theorem Underway.foretells (h : a.Underway d.group goal) (hstart : start.Sound)
    (hd : start.descriptors.get? d.reference = some d) :
    (outlook start).Foretells a settings now d a.status a.identity
      (start.desired settings now d.group) start.certificates :=
  .of_steady hstart hd (fun _ hw => hw.common) (fun _ hw => Holds.status hw)
    (fun _ hw => Holds.identityAt hw) h.recorded

/-! ## The second half -/

/-- **The distribution step.** -/
theorem acts_syncDistribution (h : a.Underway group (.ok model)) (hgroup : model.group = group) :
    (outlook start).Acts group a (Cycle.syncDistribution settings (model.withIdentity a.identity))
      fun result a' => ∃ n, result = ⟨Share.served model n, none⟩ ∧
        a' = { a with model := provided model n } := by
  subst hgroup
  refine Acts.single (Cycle.single_syncDistribution _ _) fun w hw => ?_
  rw [World.run_syncDistribution]
  obtain ⟨n, hserves⟩ := Share.sync_serves hw.common.numbered hw.common.calls settings
    (model.withIdentity a.identity) (Holds.identityAt hw).symm fun hempty => by
      show a.model.bind _ = none
      rw [h.model_eq_none hempty]
      rfl
  obtain ⟨hown, hholds⟩ :=
    Holds.distributions hw hserves.numbered hserves.failing hserves.elsewhere
  refine ⟨hown, _, ⟨n, hserves.told, ?_⟩, hholds⟩
  exact congrArg (fun m => { a with model := m }) hserves.stored

/-- The record is stored, or dropped. -/
theorem acts_persist {status : StatusRecord} (hgroup : status.group = group) (clean : Bool) :
    (outlook start).Acts group a (Cycle.persist settings model status a.status.isNone clean)
      fun _ a' => a' =
        { a with
          status := if clean && model.isEmpty && settings.deletion then none else some status } := by
  subst hgroup
  refine Acts.single (Cycle.single_persist _ _ _ _ _) fun w hw => ?_
  rw [World.run_persist, ← Holds.status hw, StatusStore.persist_eq]
  obtain ⟨hself, helsewhere⟩ := StatusStore.get?_persisted w.statuses status
    (clean && model.isEmpty && settings.deletion)
  obtain ⟨hown, hholds⟩ := Holds.statuses hw helsewhere
  exact ⟨hown, _, by rw [hself], hholds⟩

/-- A record that tells the distribution, or none if there is no distribution. -/
theorem underway_provided {status : StatusRecord} {n : Nat} {dropped : Bool}
    (hgroup : status.group = group) (hidentity : status.identity = Share.served model n)
    (hdropped : dropped = true → model.isEmpty = true) :
    Underway group (.ok model) ⟨provided model n, if dropped then none else some status⟩ where
  recorded := by
    show (if dropped then none else some status).bind _ = (provided model n).bind _
    rw [provided_identity]
    cases dropped with
    | true =>
      rw [Share.served_of_isEmpty (hdropped rfl)]
      rfl
    | false => exact hidentity
  group found hfound := by
    cases dropped with
    | true => cases hfound
    | false =>
      cases hfound
      exact hgroup
  serves _ _ := ⟨model, n, rfl, rfl⟩

/-- **The second half of a cycle**, whatever becomes of the names. -/
theorem acts_converge (h : a.Underway group (.ok model)) (hmodel : model.group = group)
    (hgroup : d.group = group) :
    (outlook start).Acts group a
      (Cycle.converge settings now d ⟨a.status, model.withIdentity a.identity⟩)
      fun _ a' => a'.Underway group (.ok model) ∧ ∃ n, a'.model = provided model n := by
  have hfound : (a.status.getD (.new d.group)).group = group := by
    cases hstatus : a.status with
    | none => exact hgroup
    | some status => exact h.group status hstatus
  unfold Cycle.converge
  refine Acts.bind (acts_syncDistribution h hmodel) ?_
  rintro _ _ ⟨n, rfl, rfl⟩
  refine Acts.bind (acts_syncAliases _) ?_
  rintro names _ rfl
  refine Acts.bind (acts_settleFinalizer _) ?_
  rintro holding _ rfl
  refine Acts.bind (acts_persist ?_ _) ?_
  · unfold StatusRecord.recordSync StatusRecord.forget
    split <;> exact hfound
  rintro _ _ rfl
  refine Acts.pure ⟨underway_provided ?_ ?_ fun hdropped => ?_, n, rfl⟩
  · unfold StatusRecord.recordSync StatusRecord.forget
    split <;> exact hfound
  · unfold StatusRecord.recordSync StatusRecord.forget
    unfold Share.served
    cases model.isEmpty <;> cases d.beingRemoved <;> rfl
  · exact (Bool.and_eq_true_iff.1 (Bool.and_eq_true_iff.1 hdropped).1).2

/-! ## Cycle after cycle -/

/-- Whether a cycle for a route puts the distribution there: it is approved of, and
its group has members. -/
def Puts (settings : Settings) (goal : Outcome Model) (d : Descriptor) : Prop :=
  ∃ model, Cycle.approved settings goal d = .ok model ∧ model.isEmpty = false

/-- What becomes of an account on the way: a distribution that is there stays, and
cycles that put it there do so. -/
structure Leads (settings : Settings) (group : GroupName) (goal : Outcome Model)
    (ds : List Descriptor) (a a' : Account) : Prop where
  underway : a'.Underway group goal
  stays : a.model.isSome = true → a'.model.isSome = true
  puts : ∀ d ∈ ds, Puts settings goal d → a'.model.isSome = true

/-- A cycle that is stopped leads nowhere, and was not to put a distribution there. -/
theorem Underway.stopped (h : a.Underway group goal)
    (hgoal : ∀ model, goal = .ok model → model.identity = none) {stop : Stop}
    (hstop : expects settings a.status a.identity goal d = .error stop) :
    Leads settings group goal [d] a a := by
  refine ⟨h, id, fun e he ⟨model, happroved, hempty⟩ => ?_⟩
  cases List.mem_singleton.1 he
  obtain ⟨hvalid, rfl, hallowed⟩ := Cycle.approved_eq_ok happroved
  have hidentity := hgoal model rfl
  have hcreation : settings.creation = true := by
    simpa [Cycle.creationBarred, hempty, Model.hasIdentity, hidentity] using hallowed
  have hbarred : Cycle.creationBarred settings (model.withIdentity a.identity) = false := by
    simp [Cycle.creationBarred, hcreation]
  rw [expects, hvalid] at hstop
  replace hstop : (if Cycle.creationBarred settings (model.withIdentity a.identity) then _
    else Except.ok _) = Except.error stop := hstop
  rw [hbarred] at hstop
  cases hstop

/-- A cycle that went through leaves the distribution the group asks for. -/
theorem Underway.went_through {a' : Account} {n : Nat} (h : a.Underway group (.ok model))
    (hunderway : a'.Underway group (.ok model)) (hprovided : a'.model = provided model n) :
    Leads settings group (.ok model) [d] a a' := by
  have hthere : model.isEmpty = false → a'.model.isSome = true := by
    intro hempty
    rw [hprovided, provided, Share.served_of_members hempty]
    rfl
  refine ⟨hunderway, fun hsome => hthere ?_, fun e _ ⟨other, happroved, hempty⟩ => ?_⟩
  · rw [← Bool.not_eq_true]
    intro hempty
    rw [h.model_eq_none hempty] at hsome
    cases hsome
  · cases (Cycle.approved_eq_ok happroved).2.1
    exact hthere hempty

/-- **A cycle without its report.** -/
theorem acts_run (hstart : start.Sound)
    (h : a.Underway group (start.desired settings now group)) (hgroup : d.group = group)
    (hd : start.descriptors.get? d.reference = some d) :
    (outlook start).Acts group a (Cycle.run settings now d).run fun _ a' =>
      Leads settings group (start.desired settings now group) [d] a a' := by
  subst hgroup
  refine Outlook.acts_run (h.foretells hstart hd).acts_prepare (fun stop hstop => ?_)
    fun p hok => ?_
  · exact h.stopped (fun model hmodel => (Group.modelOf hmodel).identity) hstop
  · obtain ⟨model, hmodel, rfl⟩ := expects_eq_ok hok
    rw [hmodel] at h ⊢
    refine (acts_converge h (Group.modelOf hmodel).group rfl).mono ?_
    rintro failures a' ⟨hunderway, n, hprovided⟩
    exact h.went_through hunderway hprovided

/-- **One cycle.** -/
theorem acts_reconcile (hstart : start.Sound)
    (h : a.Underway group (start.desired settings now group)) (hgroup : d.group = group)
    (hd : start.descriptors.get? d.reference = some d) :
    (outlook start).Acts group a (reconcile settings now d) fun _ a' =>
      Leads settings group (start.desired settings now group) [d] a a' := by
  refine (Outlook.acts_reconcile (acts_run hstart h hgroup hd) fun _ => acts_announce).mono ?_
  rintro _ a' ⟨result, hleads, -⟩
  exact hleads

theorem Leads.cons {a' a'' : Account} {rest : List Descriptor}
    (h : Leads settings group goal [d] a a') (h' : Leads settings group goal rest a' a'') :
    Leads settings group goal (d :: rest) a a'' where
  underway := h'.underway
  stays hsome := h'.stays (h.stays hsome)
  puts e he hputs := by
    rcases List.mem_cons.1 he with rfl | he
    · exact h'.stays (h.puts e List.mem_cons_self hputs)
    · exact h'.puts e he hputs

/-- **Cycles of a group, one after the other**, in any order and however often. -/
theorem acts_reconcileEach (hstart : start.Sound) {clock : Reference → Instant}
    (ds : List Descriptor)
    (hclock : ∀ d ∈ ds, start.desired settings (clock d.reference) group = goal)
    (hgroup : ∀ d ∈ ds, d.group = group)
    (hstored : ∀ d ∈ ds, start.descriptors.get? d.reference = some d) :
    ∀ {a : Account}, a.Underway group goal →
      (outlook start).Acts group a (reconcileEachAt settings clock ds) fun _ a' =>
        Leads settings group goal ds a a' := by
  induction ds with
  | nil => exact fun h => Acts.pure ⟨h, id, fun d hd => absurd hd List.not_mem_nil⟩
  | cons d rest ih =>
    intro a h
    have hnow := hclock d List.mem_cons_self
    have hfirst := acts_reconcile hstart (hnow.symm ▸ h) (hgroup d List.mem_cons_self)
      (hstored d List.mem_cons_self)
    rw [hnow] at hfirst
    refine Acts.bind hfirst ?_
    rintro outcome a' hleads
    refine Acts.bind (ih (fun e he => hclock e (List.mem_cons_of_mem d he))
      (fun e he => hgroup e (List.mem_cons_of_mem d he))
      (fun e he => hstored e (List.mem_cons_of_mem d he)) hleads.underway) ?_
    rintro failures a'' hrest
    exact Acts.pure (hleads.cons hrest)

end Account

end RouteConvergence
