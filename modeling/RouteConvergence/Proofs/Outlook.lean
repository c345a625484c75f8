/-
RouteConvergence.Proofs.Outlook — procedures of many groups beside each
other, each told by what belongs to its group.

Cycles of different groups work in the same stores and still do not meet,
since no call of one group's cycle changes what belongs to another. How much
of a world is said to belong to a group depends on what is to be shown of
it: the more there is in a part, the more has to be known of the cycles.

* `Outlook` — what holds of the stores as a whole, and what of them belongs
  to each group.
* `Outlook.contract` — others leave the part of a group alone, and so does
  the group with theirs; `Outlook.compatible`.
* `Outlook.Acts` — a procedure told by parts: from a part it leads to a value
  and a part that are related in some way, whatever others do meanwhile.
* `Outlook.Foretells` — a part that says what a cycle will find, and
  `Outlook.Foretells.acts_prepare`, the first half finds it.
* `Outlook.acts_run`, `Outlook.acts_reconcile` — a whole cycle out of its halves.
* `World.Steady` — stores in order, which every outlook here asks for.

`Outlook.Acts` has laws for sequencing like those for procedures that run
alone, so that a cycle can be followed step by step without a word about the
others.
-/
import RouteConvergence.Proofs.EarlyStops
import RouteConvergence.Proofs.Fleet
import RouteConvergence.Proofs.GuardedCycle

namespace RouteConvergence

/-- How a world is looked at: what holds of it as a whole, and what of it
belongs to a group. -/
structure Outlook (V : Type) where
  common : World → Prop
  part : World → GroupName → V

namespace Outlook

variable {V : Type} {o : Outlook V} {group : GroupName} {σ σ' : V} {w w' : World}

/-! ## The contract of a group -/

/-- **What the cycles of a group have to bear, and what they may do**: nobody
touches the part of another group, and all keep the stores in order. -/
def contract (o : Outlook V) (group : GroupName) : Contract where
  others w w' := (o.common w → o.common w') ∧ o.part w' group = o.part w group
  own w w' := (o.common w → o.common w') ∧
    ∀ other, other ≠ group → o.part w' other = o.part w other
  refl _ := ⟨id, rfl⟩
  trans h h' := ⟨h'.1 ∘ h.1, h'.2.trans h.2⟩

theorem compatible (o : Outlook V) : Fleet.Compatible o.contract :=
  fun _ other hne _ _ h => ⟨h.1, h.2 other hne.symm⟩

/-- A call that leaves the world alone is anybody's. -/
theorem own_refl (o : Outlook V) (group : GroupName) (w : World) : (o.contract group).own w w :=
  ⟨id, fun _ _ => rfl⟩

/-- The stores are in order, and a given part of them belongs to a group. -/
structure Holds (o : Outlook V) (group : GroupName) (σ : V) (w : World) : Prop where
  common : o.common w
  part : o.part w group = σ

theorem Holds.kept (h : o.Holds group σ w) (hw : (o.contract group).others w w') :
    o.Holds group σ w' :=
  ⟨hw.1 h.common, hw.2.trans h.part⟩

/-! ## Procedures told by parts -/

variable {α β : Type}

/-- A value and the part of a group are related in some way. -/
def Ends (o : Outlook V) (group : GroupName) (facts : α → V → Prop) (value : α) (w : World) :
    Prop :=
  ∃ σ, facts value σ ∧ o.Holds group σ w

/-- **What a procedure of a group does to its part**, whatever the other groups
do between its calls. -/
def Acts (o : Outlook V) (group : GroupName) (σ : V) (p : Program α) (facts : α → V → Prop) :
    Prop :=
  ∀ w, o.Holds group σ w → p.Keeps (o.contract group) (o.Ends group facts) w

namespace Acts

variable {facts : α → V → Prop} {facts' : β → V → Prop}

theorem pure {value : α} (h : facts value σ) :
    o.Acts group σ (Pure.pure value : Program α) facts :=
  fun _ hw _ hw' => ⟨σ, h, hw.kept hw'⟩

theorem mono {other : α → V → Prop} {p : Program α} (h : o.Acts group σ p facts)
    (himp : ∀ value σ', facts value σ' → other value σ') : o.Acts group σ p other := by
  intro w hw
  refine (h w hw).mono ?_
  rintro value w' ⟨σ', hfacts, hholds⟩
  exact ⟨σ', himp value σ' hfacts, hholds⟩

/-- One procedure after the other. -/
theorem bind {p : Program α} {q : α → Program β} (h : o.Acts group σ p facts)
    (hq : ∀ value σ', facts value σ' → o.Acts group σ' (q value) facts') :
    o.Acts group σ (p >>= q) facts' := by
  intro w hw
  refine Program.Keeps.bind ((h w hw).mono ?_)
  rintro value w' ⟨σ', hfacts, hholds⟩
  exact hq value σ' hfacts w' hholds

/-- **A procedure of one call** does what it does alone in any world in which the
group has its part. -/
theorem single {p : Program α} (hp : p.Single)
    (h : ∀ w, o.Holds group σ w → (o.contract group).own w (w.run p).2 ∧
      o.Ends group facts (w.run p).1 (w.run p).2) : o.Acts group σ p facts := by
  intro w hw
  refine Program.Keeps.single hp fun w' hw' => ?_
  obtain ⟨hown, σ', hfacts, hholds⟩ := h w' (hw.kept hw')
  exact ⟨hown, fun w'' hw'' => ⟨σ', hfacts, hholds.kept hw''⟩⟩

/-- A procedure of one call that only reads. -/
theorem reads {p : Program α} (hp : p.Single)
    (h : ∀ w, o.Holds group σ w → (w.run p).2 = w ∧ facts (w.run p).1 σ) :
    o.Acts group σ p facts := by
  refine single hp fun w hw => ?_
  obtain ⟨hsame, hfacts⟩ := h w hw
  rw [hsame]
  exact ⟨own_refl o group w, σ, hfacts, hw⟩

/-- **A procedure whose calls change nothing that counts**, however many they
are. -/
theorem aside {good : Request → Prop} {post : α → Prop} {p : Program α} (h : p.Always good post)
    (hgood : ∀ (request : Request) (w : World), good request → o.common w →
      o.common (World.answer request w).2 ∧
        ∀ other, o.part (World.answer request w).2 other = o.part w other) :
    o.Acts group σ p fun value σ' => σ' = σ ∧ post value := by
  intro w hw
  induction p generalizing w with
  | done value => exact fun w' hw' => ⟨σ, ⟨rfl, h⟩, hw.kept hw'⟩
  | ask request next ih =>
    intro w' hw'
    have hkept := hw.kept hw'
    obtain ⟨hcommon, hpart⟩ := hgood request w' h.1 hkept.common
    refine ⟨⟨fun _ => hcommon, fun other _ => hpart other⟩, ih _ (h.2 _) _ ⟨hcommon, ?_⟩⟩
    exact (hpart group).trans hkept.part

/-- A step that may end a cycle, and what follows it. -/
theorem stepBind {x : Step α} {f : α → Step β} {found : Except Stop α → V → Prop}
    {ended : Except Stop β → V → Prop} (h : o.Acts group σ x.run found)
    (hok : ∀ value σ', found (.ok value) σ' → o.Acts group σ' (f value).run ended)
    (herror : ∀ stop σ', found (.error stop) σ' → ended (.error stop) σ') :
    o.Acts group σ (x >>= f).run ended := by
  show o.Acts group σ (x.run >>= ExceptT.bindCont f) ended
  refine bind h fun result σ' hfound => ?_
  cases result with
  | ok value => exact hok value σ' hfound
  | error stop => exact Acts.pure (herror stop σ' hfound)

/-- A step that does not end the cycle, and what follows it. -/
theorem stepOk {x : Step α} {f : α → Step β} {found : α → V → Prop}
    {ended : Except Stop β → V → Prop}
    (h : o.Acts group σ x.run fun result σ' => ∃ value, result = .ok value ∧ found value σ')
    (hok : ∀ value σ', found value σ' → o.Acts group σ' (f value).run ended) :
    o.Acts group σ (x >>= f).run ended := by
  refine stepBind h ?_ ?_
  · rintro _ σ' ⟨value, hvalue, hfound⟩
    cases hvalue
    exact hok _ σ' hfound
  · rintro stop σ' ⟨value, hvalue, -⟩
    cases hvalue

/-- A procedure as a step. -/
theorem lift {p : Program α} {found : Except Stop α → V → Prop}
    (h : o.Acts group σ p fun value σ' => found (.ok value) σ') :
    o.Acts group σ (liftM p : Step α).run found :=
  bind (q := fun value => (Pure.pure (Except.ok value) : Program (Except Stop α))) h
    fun _ _ hfound => Acts.pure hfound

/-- A procedure that may fail, as a step. -/
theorem attempt {p : Program (Outcome α)} {found : Except Stop α → V → Prop}
    (h : o.Acts group σ p fun outcome σ' => found (Stop.orTellAll outcome) σ') :
    o.Acts group σ (Step.attempt p).run found := by
  have hrun : (Step.attempt p).run =
      p >>= fun outcome => (Pure.pure (Stop.orTellAll outcome) : Program (Except Stop α)) := by
    show (p.andThen fun outcome => Program.done (Except.ok outcome)).andThen
      (ExceptT.bindCont Step.ofOutcome) = p.andThen _
    rw [Program.andThen_assoc]
    congr 1
    funext outcome
    cases outcome <;> rfl
  rw [hrun]
  exact bind h fun _ _ hfound => Acts.pure hfound

end Acts

/-! ## Procedures that only answer -/

/-- A procedure that answers something and leaves the part as it is. -/
abbrev Answers (o : Outlook V) (group : GroupName) (σ : V) (p : Program α) (answer : α) : Prop :=
  o.Acts group σ p fun value σ' => σ' = σ ∧ value = answer

theorem answers_ofOutcome (outcome : Outcome α) :
    o.Answers group σ (Step.ofOutcome outcome).run (Stop.orTellAll outcome) := by
  cases outcome <;> exact Acts.pure ⟨rfl, rfl⟩

/-- Steps that only read, one after the other, are results one after the
other. -/
theorem answers_stepBind {x : Step α} {f : α → Step β} {r : Except Stop α}
    {g : α → Except Stop β} (hx : o.Answers group σ x.run r)
    (hf : ∀ value, o.Answers group σ (f value).run (g value)) :
    o.Answers group σ (x >>= f).run (r >>= g) := by
  refine hx.stepBind ?_ ?_
  · rintro value _ ⟨rfl, rfl⟩
    exact hf value
  · rintro stop _ ⟨rfl, rfl⟩
    exact ⟨rfl, rfl⟩

theorem answers_attempt {p : Program (Outcome α)} {outcome : Outcome α}
    (h : o.Answers group σ p outcome) :
    o.Answers group σ (Step.attempt p).run (Stop.orTellAll outcome) :=
  Acts.attempt (h.mono fun _ _ hanswer => ⟨hanswer.1, congrArg _ hanswer.2⟩)

/-! ## The first half of a cycle -/

/-- What the first half of a cycle finds, given the record of the group, the
identity of its distribution and what its routes ask for. -/
def expects (settings : Settings) (status : Option StatusRecord) (identity : Option Identity)
    (goal : Outcome Model) (d : Descriptor) : Except Stop Cycle.Prepared := do
  Stop.orTellAll d.validate
  let model ← Stop.orTellAll goal
  if Cycle.creationBarred settings (model.withIdentity identity) then
    throw ⟨.refused (.creationDisabled d.group), .route⟩
  return ⟨status, model.withIdentity identity⟩

/-- What a first half that goes through finds. -/
theorem expects_eq_ok {settings : Settings} {status : Option StatusRecord}
    {identity : Option Identity} {goal : Outcome Model} {d : Descriptor} {p : Cycle.Prepared}
    (h : expects settings status identity goal d = .ok p) :
    ∃ model, goal = .ok model ∧ p = ⟨status, model.withIdentity identity⟩ := by
  unfold expects at h
  obtain ⟨-, -, h⟩ := Outcome.bind_eq_ok.1 h
  obtain ⟨model, hmodel, h⟩ := Outcome.bind_eq_ok.1 h
  refine ⟨model, Stop.orTellAll_eq_ok.1 hmodel, ?_⟩
  cases hbarred : Cycle.creationBarred settings (model.withIdentity identity) with
  | true =>
    rw [hbarred] at h
    cases h
  | false =>
    rw [hbarred] at h
    cases h
    rfl

/-- What a part of the stores says about a cycle that is to come. -/
structure Foretells (o : Outlook V) (σ : V) (settings : Settings) (now : Instant) (d : Descriptor)
    (status : Option StatusRecord) (identity : Option Identity) (goal : Outcome Model)
    (certificates : List Certificate) : Prop where
  status : ∀ w, o.Holds d.group σ w → w.statuses.get? d.group = status
  identity : ∀ w, o.Holds d.group σ w → w.identityFound d.group = .ok identity
  goal : ∀ w, o.Holds d.group σ w → w.wanted settings now d = goal
  certificates : ∀ w, o.Holds d.group σ w → w.certificates = certificates

variable {settings : Settings} {now : Instant} {d : Descriptor} {status : Option StatusRecord}
  {identity : Option Identity} {goal : Outcome Model} {certificates : List Certificate}

/-- What the first half finds in a world is a function of the part. -/
theorem Foretells.prepared
    (h : o.Foretells σ settings now d status identity goal certificates)
    (hw : o.Holds d.group σ w) :
    w.prepared settings now d = expects settings status identity goal d := by
  rw [World.prepared, expects, ← h.goal w hw, World.wanted, Group.model, h.identity w hw,
    h.status w hw]
  cases d.validate with
  | error failure => rfl
  | ok _ =>
    cases Group.aggregate d.group (Cycle.withTrigger w.descriptors.values d) with
    | error failure => rfl
    | ok members =>
      show (Stop.orTellAll (Model.build settings now w.certificates members identity) >>= _) =
        (Stop.orTellAll (Model.build settings now w.certificates members none) >>= _)
      rw [Model.build_withIdentity]
      cases Model.build settings now w.certificates members none <;> rfl

/-- A draft is finished with the certificates that are foretold. -/
theorem Foretells.candidatesFor
    (h : o.Foretells σ settings now d status identity goal certificates) (draft : Draft) :
    o.Acts d.group σ
      (liftM (Cycle.candidatesFor now draft) : Step (Outcome (List Certificate))).run
      fun result σ' => ∃ candidates, result = .ok candidates ∧ σ' = σ ∧
        draft.finish settings candidates =
          draft.finish settings (.ok (Certificate.usable now certificates)) := by
  refine Acts.lift (Acts.reads (Cycle.single_candidatesFor _ _) fun w hw => ?_)
  obtain ⟨hworld, hfinish⟩ := World.run_candidatesFor w settings now draft
  rw [h.certificates w hw] at hfinish
  exact ⟨hworld, _, rfl, rfl, hfinish⟩

theorem Foretells.getStatus (h : o.Foretells σ settings now d status identity goal certificates) :
    o.Acts d.group σ (Step.attempt (Program.call (.getStatus d.group))).run fun result σ' =>
      ∃ found, result = .ok found ∧ σ' = σ ∧ found = status := by
  refine Acts.attempt (Acts.reads (Program.single_call _) fun w hw => ?_)
  rw [World.run_getStatus, h.status w hw]
  exact ⟨rfl, _, rfl, rfl, rfl⟩

/-- The routes are listed as some world has them in which the group has its
part. -/
theorem acts_listDescriptors :
    o.Acts group σ (Step.attempt (Program.call .listDescriptors)).run fun result σ' =>
      ∃ stored, result = .ok stored ∧ σ' = σ ∧
        ∃ w, o.Holds group σ w ∧ stored = w.descriptors.values := by
  refine Acts.attempt (Acts.reads (Program.single_call _) fun w hw => ?_)
  rw [World.run_listDescriptors]
  exact ⟨rfl, _, rfl, rfl, w, hw, rfl⟩

theorem Foretells.existingIdentity
    (h : o.Foretells σ settings now d status identity goal certificates) :
    o.Answers d.group σ (Cycle.existingIdentity d.group status) (.ok identity) := by
  refine Acts.reads (Cycle.single_existingIdentity _ _) fun w hw => ?_
  rw [← h.status w hw, World.run_existingIdentity, h.identity w hw]
  exact ⟨rfl, rfl, rfl⟩

/-- **The first half of a cycle**: it reads, and finds what is foretold. -/
theorem Foretells.acts_prepare
    (h : o.Foretells σ settings now d status identity goal certificates) :
    o.Answers d.group σ (Cycle.prepare settings now d).run
      (expects settings status identity goal d) := by
  unfold Cycle.prepare
  refine Acts.stepBind (answers_ofOutcome d.validate) ?_ ?_
  · rintro _ σ ⟨rfl, hvalid⟩
    refine Acts.stepOk acts_listDescriptors ?_
    rintro _ σ ⟨rfl, w, hw, rfl⟩
    -- From here on it finds what it would find in the world it has listed.
    rw [← h.prepared hw, World.prepared, ← hvalid]
    refine answers_stepBind (answers_ofOutcome _) fun members => ?_
    refine Acts.stepOk h.getStatus ?_
    rintro _ σ ⟨rfl, rfl⟩
    rw [h.identity w hw, h.status w hw]
    refine answers_stepBind (answers_attempt h.existingIdentity) fun found => ?_
    unfold Model.build
    cases Draft.ofGroup settings members found with
    | error failure => exact Acts.pure ⟨rfl, rfl⟩
    | ok draft =>
      show o.Answers d.group σ ((liftM (Cycle.candidatesFor now draft) : Step _) >>= _).run
        (Stop.orTellAll
          (draft.finish settings (.ok (Certificate.usable now w.certificates))) >>= _)
      refine Acts.stepOk (h.candidatesFor draft) ?_
      rintro candidates σ ⟨rfl, hfinish⟩
      rw [h.certificates w hw, ← hfinish]
      refine answers_stepBind (answers_ofOutcome _) fun model => ?_
      cases Cycle.creationBarred settings model <;> exact Acts.pure ⟨rfl, rfl⟩
  · rintro stop σ ⟨rfl, hvalid⟩
    refine ⟨rfl, ?_⟩
    rw [expects, ← hvalid]
    rfl

/-! ## The whole cycle -/

/-- The end of a cycle whose second half met some failures. -/
def verdict (failures : List Failure) : Except Stop Unit :=
  if failures.isEmpty then .ok () else .error ⟨.combine failures, .routeAndStatus⟩

/-- **A cycle is told by its halves**: by what the first finds, and by what the
second makes of it. -/
theorem acts_run {found : Except Stop Cycle.Prepared} {facts : Except Stop Unit → V → Prop}
    (hprepared : o.Answers group σ (Cycle.prepare settings now d).run found)
    (hstop : ∀ stop, found = .error stop → facts (.error stop) σ)
    (hconverge : ∀ p, found = .ok p → o.Acts group σ (Cycle.converge settings now d p)
      fun failures σ' => facts (verdict failures) σ') :
    o.Acts group σ (Cycle.run settings now d).run facts := by
  refine Acts.stepBind hprepared ?_ ?_
  · rintro p _ ⟨rfl, hok⟩
    refine Acts.stepOk (Acts.lift ((hconverge p hok.symm).mono
      fun failures σ' hfacts => ⟨failures, rfl, hfacts⟩)) ?_
    intro failures σ' hfacts
    cases failures <;> exact Acts.pure hfacts
  · rintro stop _ ⟨rfl, hstopped⟩
    exact hstop stop hstopped.symm

/-- **The report of a cycle** adds nothing, if events are in nobody's part. -/
theorem acts_reconcile {facts : Except Stop Unit → V → Prop}
    (hrun : o.Acts group σ (Cycle.run settings now d).run facts)
    (hannounce : ∀ σ audience kind reason message,
      o.Acts group σ (Cycle.announce d audience kind reason message) fun _ σ' => σ' = σ) :
    o.Acts group σ (reconcile settings now d) fun outcome σ' =>
      ∃ result, facts result σ' ∧ outcome = result.mapError Stop.failure := by
  refine Acts.bind hrun ?_
  intro result σ' hfacts
  cases result with
  | ok _ =>
    refine Acts.bind (hannounce _ _ _ _ _) ?_
    rintro _ _ rfl
    exact Acts.pure ⟨_, hfacts, rfl⟩
  | error stop =>
    refine Acts.bind (hannounce _ _ _ _ _) ?_
    rintro _ _ rfl
    exact Acts.pure ⟨_, hfacts, rfl⟩

end Outlook

/-! ## Stores in order -/

namespace World

/-- **What holds of the stores as a whole**, whoever writes to them: routes change
in their finalizers only, every distribution has a number of its own, and no
call about distributions fails. -/
structure Steady (start w : World) : Prop where
  filed : w.descriptors.FiledBy (·.reference)
  descriptors : w.descriptors.values.map (·.unheld) = start.descriptors.values.map (·.unheld)
  certificates : w.certificates = start.certificates
  numbered : w.distributions.Numbered
  calls : w.distributions.failing = []

variable {start w : World} {settings : Settings} {now : Instant} {d : Descriptor}

theorem Sound.steady (h : start.Sound) (hcalls : start.distributions.failing = []) :
    start.Steady start :=
  ⟨h.descriptors, rfl, rfl, h.distributions, hcalls⟩

/-- **Nobody moves the goal of a group.** -/
theorem Steady.wanted (h : start.Steady w) (hstart : start.Sound)
    (hd : start.descriptors.get? d.reference = some d) :
    w.wanted settings now d = start.desired settings now d.group := by
  have hbeside : Beside d.group start { start with descriptors := w.descriptors } :=
    ⟨h.filed, h.descriptors, rfl, rfl, rfl, hstart.distributions, fun _ _ => rfl,
      hstart.statuses, fun _ _ => rfl⟩
  rw [World.wanted, h.certificates]
  exact hbeside.wanted hstart.descriptors hd

/-- **The identity is found** on record, or there is none. -/
theorem identityFound_of_recorded {group : GroupName}
    (h : (w.statuses.get? group).bind (·.identity) = w.distributions.identityAt group) :
    w.identityFound group = .ok (w.distributions.identityAt group) := by
  rw [identityFound, h]
  cases hidentity : w.distributions.identityAt group with
  | some identity => rfl
  | none =>
    rw [DistributionStore.arnOf_eq, hidentity]
    rfl

end World

namespace Outlook

variable {V : Type} {o : Outlook V} {σ : V} {start : World} {settings : Settings} {now : Instant}
  {d : Descriptor} {status : Option StatusRecord} {identity : Option Identity}

/-- **Stores in order foretell a cycle**, once the record of the group is known and
tells the identity of the distribution. -/
theorem Foretells.of_steady (hstart : start.Sound)
    (hd : start.descriptors.get? d.reference = some d)
    (hsteady : ∀ w, o.Holds d.group σ w → start.Steady w)
    (hstatus : ∀ w, o.Holds d.group σ w → w.statuses.get? d.group = status)
    (hidentity : ∀ w, o.Holds d.group σ w → w.distributions.identityAt d.group = identity)
    (hrecorded : status.bind (·.identity) = identity) :
    o.Foretells σ settings now d status identity (start.desired settings now d.group)
      start.certificates where
  status := hstatus
  identity w hw := by
    rw [← hidentity w hw]
    refine World.identityFound_of_recorded ?_
    rw [hstatus w hw, hidentity w hw]
    exact hrecorded
  goal w hw := (hsteady w hw).wanted hstart hd
  certificates w hw := (hsteady w hw).certificates

end Outlook

end RouteConvergence
