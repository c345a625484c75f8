/-
RouteConvergence.Proofs.ShareCycles — cycle after cycle, told by shares.

What a cycle makes of a share is a function (`Share.cycle`) of the share, the
goal of the group and one number, which is drawn when the distribution is
created. All that others do in between shows in that number alone.

* `Cycle.approved` — whether a cycle gets through its first half, which
  depends on the route and the goal only.
* `Share.Underway` — a share that cycles have left, and `Share.Underway.cycle`,
  they leave the next one too.
* `Share.acts_converge`, `Share.acts_reconcile` — one cycle.
* `Share.acts_reconcileEach` — the cycles of a group, one after the other, with
  one number for all of them.
-/
import RouteConvergence.Proofs.ShareSteps
import RouteConvergence.Simulation

namespace RouteConvergence

/-! ## Verdicts -/

/-- The model a cycle converges to, or why it does not. -/
def Cycle.approved (settings : Settings) (goal : Outcome Model) (d : Descriptor) :
    Outcome Model := do
  d.validate
  let model ← goal
  if creationBarred settings model then .error (.refused (.creationDisabled d.group))
  else .ok model

/-- A cycle gets through its first half with a well-formed route, a goal and
leave to create what is missing. -/
theorem Cycle.approved_eq_ok {settings : Settings} {goal : Outcome Model} {d : Descriptor}
    {model : Model} (h : approved settings goal d = .ok model) :
    d.validate = .ok () ∧ goal = .ok model ∧ creationBarred settings model = false := by
  unfold approved at h
  cases hvalid : d.validate with
  | error failure =>
    rw [hvalid] at h
    cases h
  | ok _ =>
    cases goal with
    | error failure =>
      rw [hvalid] at h
      cases h
    | ok goal =>
      rw [hvalid] at h
      replace h : (if creationBarred settings goal then
        Except.error (Failure.refused (.creationDisabled d.group)) else .ok goal) = .ok model := h
      split at h
      · cases h
      · rename_i hallowed
        cases h
        exact ⟨rfl, rfl, Bool.not_eq_true _ ▸ hallowed⟩

/-- The failures of those cycles that are not approved of. -/
def Cycle.refusals (settings : Settings) (goal : Outcome Model) :
    List Descriptor → List RouteFailure
  | [] => []
  | d :: rest =>
    match approved settings goal d with
    | .ok _ => refusals settings goal rest
    | .error failure => ⟨d.reference, failure⟩ :: refusals settings goal rest

/-- Cycles for some descriptors, one after the other, each in its own moment, and
what failed. -/
def reconcileEachAt (settings : Settings) (clock : Reference → Instant) :
    List Descriptor → Program (List RouteFailure)
  | [] => .done []
  | d :: rest =>
    (reconcile settings (clock d.reference) d).andThen fun outcome =>
      (reconcileEachAt settings clock rest).andThen fun failures =>
        .done (match outcome with
          | .ok _ => failures
          | .error failure => ⟨d.reference, failure⟩ :: failures)

/-- All cycles in one moment. -/
theorem reconcileEachAt_const (settings : Settings) (now : Instant) (ds : List Descriptor) :
    reconcileEachAt settings (fun _ => now) ds = reconcileEach settings now ds := by
  induction ds with
  | nil => rfl
  | cons d rest ih =>
    show (reconcile settings now d).andThen _ = (reconcile settings now d).andThen _
    refine congrArg _ (funext fun outcome => ?_)
    cases outcome <;> exact congrArg (Program.andThen · _) ih

namespace Share

open Outlook

variable {start : World} {group : GroupName} {σ : Share} {settings : Settings} {now : Instant}
  {d : Descriptor} {model : Model} {goal : Outcome Model} {n : Nat}

/-! ## What a cycle makes of a share -/

/-- The record a cycle leaves. -/
def noted (σ : Share) (settings : Settings) (model : Model) (n : Nat) (now : Instant)
    (d : Descriptor) : StatusRecord :=
  let identified := (σ.status.getD (.new d.group)).setIdentity (served model n)
  let synced := { identified with
    aliases := identified.aliases.insertAll (claims settings model) }.recordSync d.reference true
  let kept := if d.beingRemoved then synced.forget d.reference else synced
  { kept with lastReconciled := some now }

/-- The share after a cycle that went through. -/
def after (σ : Share) (settings : Settings) (model : Model) (n : Nat) (now : Instant)
    (d : Descriptor) : Share where
  model := (served model n).map fun identity => model.withIdentity (some identity)
  status :=
    if model.isEmpty && settings.deletion then none else some (σ.noted settings model n now d)
  records name :=
    if name ∈ claims settings model then
      Zone.aliasRecords name (DistributionStore.servedAt n) model.ipv6 settings.aliasing.token
    else σ.records name
  routes r :=
    if r = d.reference then some { d with finalizer := Cycle.finalizerAfter d [] } else σ.routes r

/-- The share after a cycle. -/
def cycle (settings : Settings) (goal : Outcome Model) (n : Nat) (σ : Share) (now : Instant)
    (d : Descriptor) : Share :=
  match Cycle.approved settings goal d with
  | .ok model => σ.after settings model n now d
  | .error _ => σ

theorem identity_after (σ : Share) (settings : Settings) (model : Model) (n : Nat) (now : Instant)
    (d : Descriptor) : (σ.after settings model n now d).identity = served model n := by
  unfold identity after served
  cases model.isEmpty <;> rfl

theorem noted_identity (σ : Share) (settings : Settings) (model : Model) (n : Nat) (now : Instant)
    (d : Descriptor) : (σ.noted settings model n now d).identity = served model n := by
  unfold noted served StatusRecord.recordSync StatusRecord.forget
  cases model.isEmpty <;> cases d.beingRemoved <;> rfl

theorem noted_aliases (σ : Share) (settings : Settings) (model : Model) (n : Nat) (now : Instant)
    (d : Descriptor) : (σ.noted settings model n now d).aliases =
      (σ.status.getD (.new d.group)).aliases.insertAll (claims settings model) := by
  unfold noted StatusRecord.recordSync StatusRecord.forget
  cases d.beingRemoved <;> rfl

theorem noted_group (σ : Share) (settings : Settings) (model : Model) (n : Nat) (now : Instant)
    (d : Descriptor) :
    (σ.noted settings model n now d).group = (σ.status.getD (.new d.group)).group := by
  unfold noted StatusRecord.recordSync StatusRecord.forget
  cases d.beingRemoved <;> rfl

/-! ## Shares on the way -/

/-- A share on the way to a model: no distribution without members or against
the settings, no names but those of the model, and nothing of others at them. -/
structure Toward (settings : Settings) (model : Model) (σ : Share) : Prop where
  empty : model.isEmpty = true → σ.model = none
  allowed : σ.identity.isSome = true → Cycle.creationBarred settings model = false
  owned : ∀ status, σ.status = some status →
    ∀ name ∈ status.aliases.elems, name ∈ model.alternateDomains
  claimable : ∀ name ∈ model.alternateDomains, σ.Claimable settings.aliasing.token model.ipv6 name

/-- **A share that cycles of its group have left.** -/
structure Underway (settings : Settings) (group : GroupName) (goal : Outcome Model) (σ : Share) :
    Prop where
  recorded : σ.Recorded
  group : ∀ status, σ.status = some status → status.group = group
  toward : ∀ model, goal = .ok model → σ.Toward settings model

theorem mem_claims {name : String} (h : name ∈ claims settings model) :
    name ∈ model.alternateDomains := by
  unfold claims at h
  split at h
  · exact h
  · exact absurd h List.not_mem_nil

/-- The record a cycle starts from lists no other names than those wanted. -/
theorem Toward.found (h : σ.Toward settings model) (group : GroupName) :
    ∀ name ∈ (σ.status.getD (.new group)).aliases.elems, name ∈ model.alternateDomains := by
  cases hstatus : σ.status with
  | none => exact fun name hmem => absurd hmem List.not_mem_nil
  | some status => exact h.owned status hstatus

theorem Underway.found_group (h : σ.Underway settings group goal) :
    (σ.status.getD (.new group)).group = group := by
  cases hstatus : σ.status with
  | none => rfl
  | some status => exact h.group status hstatus

theorem Toward.after (h : σ.Toward settings model) (n : Nat) (now : Instant) (d : Descriptor)
    (hallowed : Cycle.creationBarred settings model = false) :
    (σ.after settings model n now d).Toward settings model where
  empty := by
    intro hempty
    show (served model n).map _ = none
    rw [served_of_isEmpty hempty]
    rfl
  allowed := fun _ => hallowed
  owned := by
    intro status hstatus name hmem
    replace hstatus : (if model.isEmpty && settings.deletion then none
      else some (σ.noted settings model n now d)) = some status := hstatus
    split at hstatus
    · cases hstatus
    · cases hstatus
      rw [noted_aliases] at hmem
      rcases (SortedSet.mem_insertAll _ _ _).1 hmem with hnew | hold
      · exact mem_claims hnew
      · exact h.found d.group name hold
  claimable := by
    intro name hname
    show Zone.Standing _ _ _ _ (if name ∈ claims settings model then _ else σ.records name)
    split
    · exact Or.inr ⟨rfl, DistributionStore.servedAt n, rfl⟩
    · exact h.claimable name hname

/-- **A cycle leaves a share that the next one can start from.** -/
theorem Underway.cycle (h : σ.Underway settings group goal) (hgroup : d.group = group) (n : Nat)
    (now : Instant) : (σ.cycle settings goal n now d).Underway settings group goal := by
  unfold Share.cycle
  cases happroved : Cycle.approved settings goal d with
  | error failure => exact h
  | ok model =>
    subst hgroup
    obtain ⟨-, hgoal, hallowed⟩ := Cycle.approved_eq_ok happroved
    refine ⟨?_, fun status hstatus => ?_, fun other hother => ?_⟩
    · show ((if model.isEmpty && settings.deletion then none
        else some (σ.noted settings model n now d)).bind (·.identity)) = _
      rw [identity_after]
      split
      · rename_i hgone
        rw [served_of_isEmpty (Bool.and_eq_true_iff.1 hgone).1]
        rfl
      · exact noted_identity σ settings model n now d
    · replace hstatus : (if model.isEmpty && settings.deletion then none
        else some (σ.noted settings model n now d)) = some status := hstatus
      split at hstatus
      · cases hstatus
      · cases hstatus
        rw [noted_group]
        exact h.found_group
    · cases hgoal.symm.trans hother
      exact (h.toward model hgoal).after n now d hallowed

/-- The goal of a group is built from its members. -/
abbrev Goal (settings : Settings) (group : GroupName) (members : List Descriptor)
    (goal : Outcome Model) : Prop :=
  ∀ model, goal = .ok model → Group.ModelOf settings group members model

variable {members : List Descriptor}

/-- Without members a cycle makes use of no number. -/
theorem after_of_isEmpty (hmodel : Group.ModelOf settings group members model)
    (hempty : model.isEmpty = true) (σ : Share) (n k : Nat) (now : Instant) (d : Descriptor) :
    σ.after settings model k now d = σ.after settings model n now d := by
  have hserved : served model k = served model n := by
    rw [served_of_isEmpty hempty, served_of_isEmpty hempty]
  have hclaims : claims settings model = [] := by
    rw [claims, hmodel.domains_eq_nil hempty, ite_self]
  unfold after noted
  simp only [hserved, hclaims, List.not_mem_nil, if_false]

/-- **The number of a group is drawn once**: any number that its distribution
bears after a cycle could have been drawn for the cycle. -/
theorem Underway.cycle_bears (h : σ.Underway settings group goal)
    (hgoal : Goal settings group members goal) {n k : Nat} (hn : σ.Bears n)
    (hk : (σ.cycle settings goal n now d).Bears k) :
    σ.Bears k ∧ σ.cycle settings goal k now d = σ.cycle settings goal n now d := by
  unfold Share.cycle at hk ⊢
  cases happroved : Cycle.approved settings goal d with
  | error failure =>
    rw [happroved] at hk
    exact ⟨hk, rfl⟩
  | ok model =>
    rw [happroved] at hk
    have hok := (Cycle.approved_eq_ok happroved).2.1
    cases hempty : model.isEmpty with
    | true =>
      refine ⟨fun identity hsome => ?_, after_of_isEmpty (hgoal model hok) hempty σ n k now d⟩
      rw [Share.identity, (h.toward model hok).empty hempty] at hsome
      cases hsome
    | false =>
      have hidentity : (σ.after settings model n now d).identity =
          some (DistributionStore.identityOf n) := by
        rw [identity_after, served_of_members hempty]
      have hsame : n = k :=
        DistributionStore.identityOf_inj (congrArg Identity.id (hk _ hidentity))
      subst hsame
      exact ⟨hn, rfl⟩

/-! ## One cycle -/

/-- Creation is barred for a group or it is not, whatever it has created. -/
theorem Toward.creationBarred (h : σ.Toward settings model) (hmodel : model.identity = none) :
    Cycle.creationBarred settings (model.withIdentity σ.identity) =
      Cycle.creationBarred settings model := by
  cases hidentity : σ.identity with
  | none =>
    rw [← hmodel]
    rfl
  | some identity =>
    rw [h.allowed (by rw [hidentity]; rfl)]
    simp [Cycle.creationBarred, Model.hasIdentity, Model.withIdentity]

/-- A cycle that is approved of finds the model of the goal, with the identity
there is. -/
theorem Underway.expects_ok (h : σ.Underway settings group goal)
    (hgoal : Goal settings group members goal)
    (happroved : Cycle.approved settings goal d = .ok model) :
    σ.expects settings goal d = .ok ⟨σ.status, model.withIdentity σ.identity⟩ := by
  obtain ⟨hvalid, rfl, hallowed⟩ := Cycle.approved_eq_ok happroved
  rw [Share.expects, Outlook.expects, hvalid]
  show (if Cycle.creationBarred settings (model.withIdentity σ.identity) then _ else _) = _
  rw [(h.toward model rfl).creationBarred (hgoal model rfl).identity, hallowed]
  rfl

/-- A cycle that is not approved of is stopped for the same reason. -/
theorem Underway.expects_error (h : σ.Underway settings group goal)
    (hgoal : Goal settings group members goal) {failure : Failure}
    (happroved : Cycle.approved settings goal d = .error failure) :
    ∃ audience, σ.expects settings goal d = .error ⟨failure, audience⟩ := by
  unfold Cycle.approved at happroved
  unfold Share.expects Outlook.expects
  cases hvalid : d.validate with
  | error failure =>
    rw [hvalid] at happroved
    cases happroved
    exact ⟨_, rfl⟩
  | ok _ =>
    rw [hvalid] at happroved
    cases goal with
    | error failure =>
      cases happroved
      exact ⟨_, rfl⟩
    | ok model =>
      replace happroved : (if Cycle.creationBarred settings model then
        Except.error (Failure.refused (.creationDisabled d.group)) else .ok model) =
          .error failure := happroved
      split at happroved
      · rename_i hbarred
        cases happroved
        refine ⟨.route, ?_⟩
        show (if Cycle.creationBarred settings (model.withIdentity σ.identity) then _ else _) = _
        rw [(h.toward model rfl).creationBarred (hgoal model rfl).identity, hbarred]
        rfl
      · cases happroved

/-- **The second half of a cycle.** -/
theorem acts_converge (hapart : start.NamesApart) (h : σ.Underway settings group (.ok model))
    (hmodel : Group.ModelOf settings group (Group.membersOf group start.descriptors.values) model)
    (hgroup : d.group = group) (hd : σ.routes d.reference = some d) :
    Acts start group σ
      (Cycle.converge settings now d ⟨σ.status, model.withIdentity σ.identity⟩)
      fun failures σ' => failures = [] ∧ ∃ n, σ.Bears n ∧ σ' = σ.after settings model n now d := by
  have htoward := h.toward model rfl
  have hfound := h.found_group
  subst hgroup
  unfold Cycle.converge
  refine Acts.bind (acts_syncDistribution hmodel.group htoward.empty) ?_
  rintro _ _ ⟨n, hbears, rfl, rfl⟩
  have hlisting : Listing settings model n
      ((σ.status.getD (.new d.group)).setIdentity (served model n)) (σ.serving model n) :=
    ⟨rfl, htoward.found d.group, htoward.claimable⟩
  refine Acts.bind (acts_syncAliases hapart hmodel hlisting σ.identity) ?_
  rintro _ _ ⟨rfl, rfl⟩
  refine Acts.bind (acts_settleFinalizer rfl ?_ _) ?_
  · exact hd
  rintro _ _ ⟨rfl, rfl⟩
  refine Acts.bind (acts_persist ?_ σ.identity) ?_
  · exact (noted_group σ settings model n now d).trans hfound
  rintro _ _ ⟨rfl, rfl⟩
  exact Acts.pure ⟨rfl, n, hbears, rfl⟩

/-- Whatever a group has was given a number. -/
theorem Holds.bears {w : World} (h : Holds start group σ w) : ∃ n, σ.Bears n := by
  cases hidentity : σ.identity with
  | none => exact ⟨0, fun identity hsome => nomatch hidentity.symm.trans hsome⟩
  | some identity =>
    have hat : w.distributions.identityAt group = some identity := by
      rw [DistributionStore.identityAt, h.model]
      exact hidentity
    obtain ⟨n, -, hn⟩ := h.common.numbered.identityAt_eq_some hat
    refine ⟨n, fun other hsome => ?_⟩
    rw [← hn]
    exact Option.some.inj (hsome.symm.trans hidentity)

/-- **A cycle without its report**, from a share that cycles have left. -/
theorem acts_run (hstart : start.Sound) (hapart : start.NamesApart)
    (h : σ.Underway settings group (start.desired settings now group)) (hgroup : d.group = group)
    (hstored : start.descriptors.get? d.reference = some d)
    (hd : σ.routes d.reference = some d) :
    Acts start group σ (Cycle.run settings now d).run fun result σ' =>
      result.mapError Stop.failure =
          (Cycle.approved settings (start.desired settings now group) d).map (fun _ => ()) ∧
        ∃ n, σ.Bears n ∧
          σ' = σ.cycle settings (start.desired settings now group) n now d := by
  have hgoal : Goal settings group (Group.membersOf group start.descriptors.values)
      (start.desired settings now group) := fun model hmodel => Group.modelOf hmodel
  have hprepared : Answers start group σ (Cycle.prepare settings now d).run _ :=
    acts_prepare hstart h.recorded hgroup hstored
  unfold Share.cycle
  cases happroved : Cycle.approved settings (start.desired settings now group) d with
  | error failure =>
    obtain ⟨audience, hexpects⟩ := h.expects_error hgoal happroved
    rw [hexpects] at hprepared
    intro w hw
    obtain ⟨n, hbears⟩ := Holds.bears hw
    refine Outlook.acts_run hprepared (fun stop hstop => ?_) (fun p hok => ?_) w hw
    · cases hstop
      exact ⟨rfl, n, hbears, rfl⟩
    · cases hok
  | ok model =>
    have hmodel := (Cycle.approved_eq_ok happroved).2.1
    rw [h.expects_ok hgoal happroved] at hprepared
    refine Outlook.acts_run hprepared (fun stop hstop => ?_) (fun p hok => ?_)
    · cases hstop
    · cases hok
      rw [hmodel] at h
      refine (acts_converge hapart h (hgoal model hmodel) hgroup hd).mono ?_
      rintro _ σ' ⟨rfl, hafter⟩
      exact ⟨rfl, hafter⟩

/-- **One cycle**: its result is the verdict on its route, and it makes of the
share what it is said to make. -/
theorem acts_reconcile (hstart : start.Sound) (hapart : start.NamesApart)
    (h : σ.Underway settings group (start.desired settings now group)) (hgroup : d.group = group)
    (hstored : start.descriptors.get? d.reference = some d)
    (hd : σ.routes d.reference = some d) :
    Acts start group σ (reconcile settings now d) fun outcome σ' =>
      outcome =
          (Cycle.approved settings (start.desired settings now group) d).map (fun _ => ()) ∧
        ∃ n, σ.Bears n ∧
          σ' = σ.cycle settings (start.desired settings now group) n now d := by
  refine (Outlook.acts_reconcile (acts_run hstart hapart h hgroup hstored hd)
    fun _ => acts_announce).mono ?_
  rintro _ σ' ⟨result, ⟨hresult, hcycle⟩, rfl⟩
  exact ⟨hresult, hcycle⟩

/-! ## Cycle after cycle -/

/-- The share after cycles for some descriptors. -/
def cycles (settings : Settings) (goal : Outcome Model) (n : Nat) (clock : Reference → Instant)
    (σ : Share) (ds : List Descriptor) : Share :=
  ds.foldl (fun σ d => σ.cycle settings goal n (clock d.reference) d) σ

/-- Other routes are left as they are. -/
theorem routes_cycle {r : Reference} (hr : r ≠ d.reference) :
    (σ.cycle settings goal n now d).routes r = σ.routes r := by
  unfold cycle
  cases Cycle.approved settings goal d with
  | error failure => rfl
  | ok model => exact if_neg hr

/-- Cycles may be gone through that have not been gone through yet: every route
of the group is stored, stands as it was given, and comes once. -/
structure Pending (start : World) (group : GroupName) (σ : Share) (ds : List Descriptor) :
    Prop where
  group : ∀ d ∈ ds, d.group = group
  stored : ∀ d ∈ ds, start.descriptors.get? d.reference = some d
  given : ∀ d ∈ ds, σ.routes d.reference = some d
  once : ds.Pairwise fun d e => d.reference ≠ e.reference

theorem Pending.cycle {rest : List Descriptor} (h : Pending start group σ (d :: rest)) (n : Nat)
    (now : Instant) : Pending start group (σ.cycle settings goal n now d) rest where
  group := fun e he => h.group e (List.mem_cons_of_mem d he)
  stored := fun e he => h.stored e (List.mem_cons_of_mem d he)
  given := fun e he => by
    rw [routes_cycle ((List.pairwise_cons.1 h.once).1 e he).symm]
    exact h.given e (List.mem_cons_of_mem d he)
  once := (List.pairwise_cons.1 h.once).2

theorem bears_cycle (h : σ.Bears n) : (σ.cycle settings goal n now d).Bears n := by
  unfold Share.cycle
  cases Cycle.approved settings goal d with
  | error failure => exact h
  | ok model =>
    intro identity hsome
    rw [identity_after, served] at hsome
    split at hsome
    · cases hsome
    · exact (Option.some.inj hsome).symm

theorem bears_cycles {clock : Reference → Instant} (ds : List Descriptor) :
    ∀ {σ : Share}, σ.Bears n → (σ.cycles settings goal n clock ds).Bears n := by
  induction ds with
  | nil => exact id
  | cons d rest ih => exact fun h => ih (bears_cycle h)

/-- **One number serves for all cycles**, and it can be told from the end. -/
theorem Underway.cycles_bears {clock : Reference → Instant} {ds : List Descriptor}
    (hgoal : Goal settings group members goal) (hgroup : ∀ d ∈ ds, d.group = group) {n k : Nat} :
    ∀ {σ : Share}, σ.Underway settings group goal → σ.Bears n →
      (σ.cycles settings goal n clock ds).Bears k →
      σ.Bears k ∧ σ.cycles settings goal k clock ds = σ.cycles settings goal n clock ds := by
  induction ds with
  | nil => exact fun _ _ hk => ⟨hk, rfl⟩
  | cons d rest ih =>
    intro σ h hn hk
    have hnext := h.cycle (hgroup d List.mem_cons_self) n (clock d.reference)
    obtain ⟨hbears, hrest⟩ :=
      ih (fun e he => hgroup e (List.mem_cons_of_mem d he)) hnext (bears_cycle hn) hk
    obtain ⟨hbears, hfirst⟩ := h.cycle_bears hgoal hn hbears
    refine ⟨hbears, ?_⟩
    show (σ.cycle settings goal k (clock d.reference) d).cycles settings goal k clock rest = _
    rw [hfirst, hrest]
    rfl

/-- **The cycles of a group, one after the other**: what fails is decided by the
goal, and what becomes of the share by the goal, the clock and one number. -/
theorem acts_reconcileEach (hstart : start.Sound) (hapart : start.NamesApart)
    {clock : Reference → Instant} (ds : List Descriptor)
    (hclock : ∀ d ∈ ds, start.desired settings (clock d.reference) group = goal)
    (hgoal : Goal settings group members goal) :
    ∀ {σ : Share}, σ.Underway settings group goal → Pending start group σ ds →
      Acts start group σ (reconcileEachAt settings clock ds) fun failures σ' =>
        failures = Cycle.refusals settings goal ds ∧
          ∃ n, σ.Bears n ∧ σ' = σ.cycles settings goal n clock ds := by
  induction ds with
  | nil =>
    intro σ _ _ w hw
    obtain ⟨n, hbears⟩ := Holds.bears hw
    exact Acts.pure (σ := σ) ⟨rfl, n, hbears, rfl⟩ w hw
  | cons d rest ih =>
    intro σ h hpending
    have hgroup := hpending.group d List.mem_cons_self
    have hnow := hclock d List.mem_cons_self
    have hfirst := acts_reconcile hstart hapart (hnow.symm ▸ h) hgroup
      (hpending.stored d List.mem_cons_self) (hpending.given d List.mem_cons_self)
    rw [hnow] at hfirst
    refine Acts.bind hfirst ?_
    rintro outcome _ ⟨houtcome, n, hn, rfl⟩
    refine Acts.bind (ih (fun e he => hclock e (List.mem_cons_of_mem d he)) (h.cycle hgroup n _)
      (hpending.cycle n _)) ?_
    rintro failures _ ⟨hfailures, k, hk, rfl⟩
    obtain ⟨hbears, hsame⟩ := h.cycle_bears hgoal hn hk
    refine Acts.pure ⟨?_, k, hbears, ?_⟩
    · rw [houtcome, hfailures, Cycle.refusals]
      cases Cycle.approved settings goal d <;> rfl
    · show _ = (σ.cycle settings goal k (clock d.reference) d).cycles settings goal k clock rest
      rw [hsame]

end Share

end RouteConvergence
