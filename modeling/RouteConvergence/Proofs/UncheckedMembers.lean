/-
RouteConvergence.Proofs.UncheckedMembers — which descriptors are checked
before a model is written.

A cycle validates the descriptor that set it off, and builds its model from
all members of the group as the stores list them. Nobody looks at the others
again. So what a written model is made of is well-formed exactly if the
stored members of the group are (`Cycle.written_members_valid_iff`), and one
that is malformed reaches the distribution as soon as another route of its
group sets off a cycle. Where only well-formed descriptors are ever stored
it is safe, because no cycle spoils one (`World.written_valid_through`).

* `Program.asked` — the calls of a run, one after the other, and
  `Program.written`, the models that are passed to a create or an update.
  Both are for any stores, so that other cycles may change them in between
  and any call may fail.
* `Cycle.prepare_built` — what a model is built from.
-/
import RouteConvergence.Proofs.EarlyStops
import RouteConvergence.Proofs.RoutedPatterns

namespace RouteConvergence

/-! ## The calls of a run -/

namespace Program

variable {σ α β : Type} (answer : (request : Request) → σ → request.Answer × σ)

/-- The calls a procedure makes when it is run against some stores. -/
def asked : Program α → σ → List Request
  | done _, _ => []
  | ask request next, s =>
    request :: (next (answer request s).1).asked (answer request s).2

variable {answer}

/-- The calls of two procedures are those of the first and then those of the
second. -/
theorem asked_bind (p : Program α) (q : α → Program β) (s : σ) :
    (p >>= q).asked answer s =
      p.asked answer s ++ (q (p.runWith answer s).1).asked answer (p.runWith answer s).2 := by
  show (p.andThen q).asked answer s = _
  induction p generalizing s with
  | done value => rfl
  | ask request next ih => exact congrArg (request :: ·) (ih _ _)

/-- What always holds of calls holds of those of a run. -/
theorem Always.asked {good : Request → Prop} {post : α → Prop} {p : Program α}
    (h : p.Always good post) (s : σ) : ∀ request ∈ p.asked answer s, good request := by
  induction p generalizing s with
  | done value => exact fun request hrequest => absurd hrequest List.not_mem_nil
  | ask first next ih =>
    intro request hrequest
    rcases List.mem_cons.1 hrequest with rfl | hrest
    · exact h.1
    · exact ih _ (h.2 _) _ request hrest

/-- A step that went on: it had a value, and so did what came after it. -/
theorem runWith_stepBind_eq_ok {x : Step α} {f : α → Step β} {s : σ} {b : β}
    (h : ((x >>= f).run.runWith answer s).1 = .ok b) :
    ∃ a, (x.run.runWith answer s).1 = .ok a ∧
      ((f a).run.runWith answer (x.run.runWith answer s).2).1 = .ok b := by
  rw [runWith_stepBind] at h
  rcases hx : x.run.runWith answer s with ⟨stop | a, s'⟩
  · rw [hx] at h
    cases h
  · rw [hx] at h
    exact ⟨a, rfl, h⟩

/-- A result that went on was one. -/
theorem runWith_ofOutcome_eq_ok {outcome : Outcome α} {s : σ} {a : α}
    (h : ((Step.ofOutcome outcome).run.runWith answer s).1 = .ok a) :
    outcome = .ok a ∧ ((Step.ofOutcome outcome).run.runWith answer s).2 = s := by
  cases outcome with
  | error failure => cases h
  | ok value =>
    cases h
    exact ⟨rfl, rfl⟩

/-- A call that went on was answered by a result. -/
theorem runWith_attempt_eq_ok {p : Program (Outcome α)} {s : σ} {a : α}
    (h : ((Step.attempt p).run.runWith answer s).1 = .ok a) :
    (p.runWith answer s).1 = .ok a := by
  obtain ⟨outcome, hlift, hresult⟩ := runWith_stepBind_eq_ok h
  rw [runWith_liftStep] at hlift
  cases hlift
  exact (runWith_ofOutcome_eq_ok hresult).1

end Program

/-! ## The models that are written -/

namespace Request

/-- The model a call creates or updates a distribution by. -/
def written? : Request → Option Model
  | createDistribution model | updateDistribution model => some model
  | _ => none

variable {request : Request}

theorem written?_of_isRead (h : request.isRead = true) : request.written? = none := by
  cases request <;> first | rfl | cases h

theorem written?_of_isNaming_or_isNoting (h : (request.isNaming || request.isNoting) = true) :
    request.written? = none := by
  cases request <;> first | rfl | cases h

end Request

namespace Program

variable {σ α β : Type} {answer : (request : Request) → σ → request.Answer × σ} {s : σ}

/-- The models a run passes to a create or an update. -/
def written (answer : (request : Request) → σ → request.Answer × σ) (p : Program α) (s : σ) :
    List Model :=
  (p.asked answer s).filterMap Request.written?

/-- A procedure whose calls write no model writes none. -/
theorem Always.written_eq_nil {post : α → Prop} {p : Program α}
    (h : p.Always (fun request => request.written? = none) post) : p.written answer s = [] :=
  List.filterMap_eq_nil_iff.2 (h.asked s)

theorem written_bind (p : Program α) (q : α → Program β) :
    (p >>= q).written answer s =
      p.written answer s ++ (q (p.runWith answer s).1).written answer (p.runWith answer s).2 := by
  rw [written, asked_bind, List.filterMap_append]
  rfl

end Program

namespace Cycle

open Program

variable {σ : Type} {answer : (request : Request) → σ → request.Answer × σ} {s : σ}
variable {settings : Settings} {now : Instant} {d : Descriptor} {p : Prepared} {model : Model}

theorem written_syncDistribution : (syncDistribution settings model).written answer s =
    if model.isEmpty then [] else [model] := by
  have hcall : ∀ (request : Request) (rest : request.Answer → Program DistributionSync),
      (∀ told, (rest told).written answer (answer request s).2 = []) →
        (Program.call request >>= rest).written answer s = request.written?.toList := by
    intro request rest hrest
    rw [written_bind, runWith_call, hrest, List.append_nil]
    unfold written
    cases h : request.written? <;> simp [asked, Program.call, h]
  unfold syncDistribution
  split
  · split
    · rfl
    · split
      · rfl
      · refine hcall (.deleteDistribution model) _ fun told => ?_
        cases told <;> rfl
  · split
    · refine hcall (.updateDistribution model) _ fun told => ?_
      cases told <;> rfl
    · refine hcall (.createDistribution model) _ fun told => ?_
      cases told <;> rfl

/-- The second half of a cycle writes the model it works towards. -/
theorem written_converge : (converge settings now d p).written answer s =
    if p.model.isEmpty then [] else [p.model] := by
  obtain ⟨rest, hrest, honly⟩ := exists_afterSync settings now d p
  have hnone : ∀ synced (s : σ), (rest synced).written answer s = [] := fun synced s =>
    ((honly synced).imp fun _ => Request.written?_of_isNaming_or_isNoting).written_eq_nil
  rw [hrest, written_bind, hnone, List.append_nil, written_syncDistribution]

/-- What is added to a procedure without further models. -/
theorem written_bind_of_nil {α β : Type} {p : Program α} {q : α → Program β}
    (h : ∀ value (s : σ), (q value).written answer s = []) :
    (p >>= q).written answer s = p.written answer s := by
  rw [written_bind, h, List.append_nil]

/-- **A cycle writes the model it is prepared with**, unless that is empty, and
no other. -/
theorem written_reconcile : (reconcile settings now d).written answer s =
    match ((prepare settings now d).run.runWith answer s).1 with
    | .ok p => if p.model.isEmpty then [] else [p.model]
    | .error _ => [] := by
  have hprepare : (prepare settings now d).run.written answer s = [] :=
    ((always_prepare settings now d).imp fun _ => Request.written?_of_isRead).written_eq_nil
  have hannounce : ∀ (audience : Audience) (kind : EventKind) (reason message : String)
      (outcome : Outcome Unit), (do announce d audience kind reason message; return outcome :
        Program (Outcome Unit)).Always (fun request => request.written? = none) fun _ => True := by
    intro audience kind reason message outcome
    refine Always.seq ((only_announce d audience kind reason message).imp fun _ h => ?_)
      fun _ => trivial
    exact Request.written?_of_isNaming_or_isNoting (by
      rw [Request.isNoting_of_isMarking h, Bool.or_true])
  have hrun : (reconcile settings now d).written answer s =
      ((prepare settings now d).run >>= ExceptT.bindCont fun p => do
        let failures ← (liftM (converge settings now d p) : Step (List Failure))
        if failures.isEmpty then return
        throw ⟨.combine failures, .routeAndStatus⟩).written answer s := by
    refine written_bind_of_nil fun result s => ?_
    cases result with
    | ok value => exact (hannounce _ _ _ _ _).written_eq_nil
    | error stop => exact (hannounce _ _ _ _ _).written_eq_nil
  rw [hrun, written_bind, hprepare, List.nil_append]
  cases ((prepare settings now d).run.runWith answer s).1 with
  | error stop => rfl
  | ok p =>
    refine (written_bind_of_nil fun result s => ?_).trans ?_
    · cases result with
      | error stop => rfl
      | ok failures =>
        show (if failures.isEmpty then _ else _ : Step Unit).run.written answer s = []
        split <;> rfl
    · exact (written_bind_of_nil fun _ _ => rfl).trans written_converge

theorem prepared_of_written (hmodel : model ∈ (reconcile settings now d).written answer s) :
    ∃ p, ((prepare settings now d).run.runWith answer s).1 = .ok p ∧ model = p.model := by
  rw [written_reconcile] at hmodel
  cases hp : ((prepare settings now d).run.runWith answer s).1 with
  | error stop =>
    rw [hp] at hmodel
    exact absurd hmodel List.not_mem_nil
  | ok p =>
    rw [hp] at hmodel
    dsimp only at hmodel
    split at hmodel
    · exact absurd hmodel List.not_mem_nil
    · exact ⟨p, rfl, List.mem_singleton.1 hmodel⟩

end Cycle

/-! ## What a model is built from -/

/-- A model is built from a group, with some identity and some certificates. -/
def Model.BuiltFrom (settings : Settings) (group : Group) (model : Model) : Prop :=
  ∃ identity draft candidates, Draft.ofGroup settings group identity = .ok draft ∧
    draft.finish settings candidates = .ok model

/-- What a descriptor asks for is in a model: its origin takes the requests of all
its patterns, and its names are served. -/
structure Model.Carries (model : Model) (member : Descriptor) : Prop where
  behaviors : ∀ pattern ∈ PathSpec.allPatterns member.paths,
    Origins.behaviorOf member pattern ∈ model.orderedBehaviors
  domains : ∀ name ∈ (collectDomains [member]).elems, name ∈ model.alternateDomains

/-- Every member is in the model. -/
theorem Model.BuiltFrom.carries {settings : Settings} {group : Group} {model : Model}
    (h : model.BuiltFrom settings group) {member : Descriptor} (hmember : member ∈ group.members) :
    model.Carries member := by
  obtain ⟨identity, draft, candidates, hdraft, hfinish⟩ := h
  obtain ⟨horigins, hdomains⟩ := Draft.finished_members hdraft hfinish
  constructor
  · intro pattern hpattern
    exact List.mem_mergeSort.2 ((Origins.mem_behaviors_iff horigins _).2
      ⟨member, hmember, hpattern, rfl⟩)
  · intro name hname
    rw [hdomains]
    exact mem_collectDomains.2 ⟨member, hmember, hname⟩

namespace Cycle

variable {σ : Type} {answer : (request : Request) → σ → request.Answer × σ} {s : σ}
variable {settings : Settings} {now : Instant} {d : Descriptor} {p : Prepared}

/-- **What a cycle is prepared from**: a valid descriptor, and a model built from
the group as the stores list it, with the descriptor in its place. -/
theorem prepare_built (h : ((prepare settings now d).run.runWith answer s).1 = .ok p) :
    d.validate = .ok () ∧ ∃ stored group, (answer .listDescriptors s).1 = .ok stored ∧
      Group.aggregate d.group (withTrigger stored d) = .ok group ∧
      p.model.BuiltFrom settings group := by
  unfold prepare at h
  obtain ⟨⟨⟩, hvalid, h⟩ := Program.runWith_stepBind_eq_ok h
  obtain ⟨hvalid, hstate⟩ := Program.runWith_ofOutcome_eq_ok hvalid
  rw [hstate] at h
  obtain ⟨stored, hlisted, h⟩ := Program.runWith_stepBind_eq_ok h
  have hstored := Program.runWith_attempt_eq_ok hlisted
  obtain ⟨group, hgroup, h⟩ := Program.runWith_stepBind_eq_ok h
  obtain ⟨status, -, h⟩ := Program.runWith_stepBind_eq_ok h
  obtain ⟨identity, -, h⟩ := Program.runWith_stepBind_eq_ok h
  obtain ⟨draft, hdraft, h⟩ := Program.runWith_stepBind_eq_ok h
  obtain ⟨candidates, -, h⟩ := Program.runWith_stepBind_eq_ok h
  obtain ⟨model, hmodel, h⟩ := Program.runWith_stepBind_eq_ok h
  refine ⟨hvalid, stored, group, hstored, (Program.runWith_ofOutcome_eq_ok hgroup).1, identity,
    draft, candidates, (Program.runWith_ofOutcome_eq_ok hdraft).1, ?_⟩
  rw [(Program.runWith_ofOutcome_eq_ok hmodel).1]
  cases hbarred : creationBarred settings model with
  | true =>
    rw [hbarred] at h
    cases h
  | false =>
    rw [hbarred] at h
    cases h
    rfl

/-! ## Who is checked -/

/-- With the descriptor that sets off a cycle in its place, references are still
distinct. -/
theorem distinct_withTrigger {name : GroupName} {stored : List Descriptor}
    (h : Group.Distinct name stored) : Group.Distinct name (withTrigger stored d) := by
  have hmem : ∀ {a : Descriptor}, a ∈ withTrigger stored d ↔
      a ∈ stored ∧ a.reference ≠ d.reference ∨ a = d := by simp [withTrigger]
  intro a ha b hb hamember hbmember href
  rcases hmem.1 ha with ⟨hastored, hane⟩ | rfl
  · rcases hmem.1 hb with ⟨hbstored, -⟩ | rfl
    · exact h a hastored b hbstored hamember hbmember href
    · exact absurd href hane
  · rcases hmem.1 hb with ⟨-, hbne⟩ | rfl
    · exact absurd href.symm hbne
    · rfl

/-- **The members are well-formed exactly if the stored ones are**, given that the
one that set off the cycle is. -/
theorem members_valid_iff {stored : List Descriptor} (hstored : Group.Distinct d.group stored)
    (hvalid : d.validate = .ok ()) {group : Group}
    (hgroup : Group.aggregate d.group (withTrigger stored d) = .ok group) :
    (∀ member ∈ group.members, member.validate = .ok ()) ↔
      ∀ other ∈ stored, other.reference ≠ d.reference → other.isMemberOf d.group = true →
        other.validate = .ok () := by
  have hmem : ∀ member, member ∈ group.members ↔
      (member ∈ stored ∧ member.reference ≠ d.reference ∨ member = d) ∧
        member.isMemberOf d.group = true := by
    intro member
    rw [(Group.aggregate_eq_ok hgroup).2, Group.mem_membersOf (distinct_withTrigger hstored)]
    simp [withTrigger]
  constructor
  · intro h other hother hne hmember
    exact h other ((hmem other).2 ⟨Or.inl ⟨hother, hne⟩, hmember⟩)
  · intro h member hmember
    rcases (hmem member).1 hmember with ⟨⟨hother, hne⟩ | rfl, hof⟩
    · exact h member hother hne hof
    · exact hvalid

/-- **Only the descriptor that sets off a cycle is checked.** Whatever the stores
answer, a model that a cycle passes to a create or an update is built from the
group as it is listed, and carries all its members. The one that set off the
cycle is well-formed. All of them are exactly if the other stored members are. -/
theorem written_members_valid_iff {σ : Type}
    (answer : (request : Request) → σ → request.Answer × σ) (s : σ) (settings : Settings)
    (now : Instant) (d : Descriptor)
    (hstored : ∀ stored, (answer .listDescriptors s).1 = .ok stored →
      Group.Distinct d.group stored)
    (model : Model) (hmodel : model ∈ (reconcile settings now d).written answer s) :
    d.validate = .ok () ∧ ∃ stored group, (answer .listDescriptors s).1 = .ok stored ∧
      Group.aggregate d.group (withTrigger stored d) = .ok group ∧
      model.BuiltFrom settings group ∧ (∀ member ∈ group.members, model.Carries member) ∧
      ((∀ member ∈ group.members, member.validate = .ok ()) ↔
        ∀ other ∈ stored, other.reference ≠ d.reference → other.isMemberOf d.group = true →
          other.validate = .ok ()) := by
  obtain ⟨p, hp, rfl⟩ := prepared_of_written hmodel
  obtain ⟨hvalid, stored, group, hlisted, hgroup, hbuilt⟩ := prepare_built hp
  exact ⟨hvalid, stored, group, hlisted, hgroup, hbuilt, fun member => hbuilt.carries,
    members_valid_iff (hstored stored hlisted) hvalid hgroup⟩

end Cycle

/-- A route of the blog's group whose path lacks its slash. -/
def Descriptor.astray : Descriptor :=
  { Descriptor.blog with
    reference := ⟨"web", "astray"⟩
    originHost := "astray.internal"
    paths := [⟨"docs", .exact⟩]
    alternateDomains := ["astray.example.com"] }

namespace Cycle

/-- The blog sets off a cycle beside a malformed route: a model is written, and it
carries that route. -/
theorem written_members_valid_iff_astray :
    let w := (World.seeded [] []).through [.store .astray, .store .blog]
    Descriptor.astray.validate.isOk = false ∧
      ∃ model ∈ (reconcile .default .someNoon .blog).written World.answer w,
        model.Carries .astray ∧ ∃ group,
          Group.aggregate "public" (withTrigger w.descriptors.values .blog) = .ok group ∧
          model.BuiltFrom .default group ∧
          ¬ ∀ member ∈ group.members, member.validate = .ok () := by
  intro w
  have hinvalid : Descriptor.astray.validate.isOk = false := by decide +kernel
  have hsound : w.Sound := World.sound_through [] [] [.store .astray, .store .blog]
  have hvalues : w.descriptors.values = [.astray, .blog] := by decide +kernel
  -- The model is built from both routes, and goes through to be written.
  have hboth : Group.aggregate "public" [.astray, .blog] =
      .ok ⟨"public", [.astray, .blog], none⟩ := by cbv
  obtain ⟨built, hbuilt⟩ : ∃ model, Group.model .default .someNoon [] "public" [.astray, .blog] =
      .ok model := by
    rw [Group.model, hboth]
    exact Outcome.isOk_iff_exists.1 (by decide +kernel)
  have hprepared : w.prepared .default .someNoon .blog =
      .ok ⟨none, built.withIdentity none⟩ := by
    refine World.prepared_eq_ok_iff.2 ⟨Outcome.isOk_iff.1 (by decide +kernel), built, none, ?_, rfl,
      ?_, rfl⟩
    · rw [World.wanted_eq_desired hsound.descriptors (by decide +kernel), World.desired, hvalues]
      exact hbuilt
    · exact Bool.and_false _
  have hempty : built.isEmpty = false := by
    rw [(Group.modelOf hbuilt).isEmpty, ← (Group.aggregate_eq_ok hboth).2]
    rfl
  have hmodel : built.withIdentity none ∈
      (reconcile .default .someNoon .blog).written World.answer w := by
    rw [written_reconcile, ← World.run, World.run_prepare, hprepared]
    show _ ∈ if built.isEmpty then [] else [built.withIdentity none]
    rw [hempty]
    exact List.mem_singleton_self _
  have hdistinct : ∀ stored, (World.answer .listDescriptors w).1 = .ok stored →
      Group.Distinct "public" stored := by
    intro stored hlisted
    cases hlisted
    exact .of_byReference hsound.descriptors.values_ordered
  obtain ⟨-, stored, group, hlisted, hgroup, hfrom, hcarries, hiff⟩ :=
    written_members_valid_iff World.answer w .default .someNoon .blog hdistinct
      (built.withIdentity none) hmodel
  cases hlisted
  have hmember : .astray ∈ group.members := by
    rw [(Group.aggregate_eq_ok hgroup).2]
    exact (Group.mem_membersOf (distinct_withTrigger (hdistinct _ rfl))).2 (by decide +kernel)
  refine ⟨hinvalid, built.withIdentity none, hmodel, hcarries .astray hmember, group, hgroup, hfrom,
    fun hall => ?_⟩
  have hvalid := Outcome.isOk_iff.2 (hall .astray hmember)
  rw [hinvalid] at hvalid
  cases hvalid

end Cycle

/-! ## Where only well-formed descriptors are stored -/

/-- A finalizer is all that is ever noted at a descriptor. -/
theorem DescriptorStore.of_get?_settle {s : DescriptorStore} {d : Descriptor}
    {state : FinalizerState} {route : Reference} {e : Descriptor}
    (h : (DescriptorStore.settle s d state).2.get? route = some e) :
    ∃ stored, s.get? route = some stored ∧ e = { stored with finalizer := e.finalizer } := by
  unfold settle at h
  split at h
  · exact ⟨e, h, rfl⟩
  · unfold setFinalizer at h
    cases hd : s.get? d.reference with
    | none =>
      rw [hd] at h
      exact ⟨e, h, rfl⟩
    | some stored =>
      rw [hd] at h
      by_cases hroute : route = d.reference
      · subst hroute
        replace h : (s.insert d.reference { stored with finalizer := state }).get? d.reference =
          some e := h
        rw [SortedMap.get?_insert_self] at h
        cases h
        exact ⟨stored, hd, rfl⟩
      · replace h : (s.insert d.reference { stored with finalizer := state }).get? route =
          some e := h
        rw [SortedMap.get?_insert_ne _ _ hroute] at h
        exact ⟨e, h, rfl⟩

namespace World

/-- Every stored descriptor is well-formed. -/
def StoredValid (w : World) : Prop :=
  ∀ route d, w.descriptors.get? route = some d → d.validate = .ok ()

/-- No cycle spoils a stored descriptor, and neither does anything else but storing
a malformed one. -/
theorem StoredValid.after {w : World} (h : w.StoredValid) {next : Happening}
    (hnext : ∀ d, next = .store d → d.validate = .ok ()) : (w.after next).StoredValid := by
  cases next with
  | store d =>
    intro route e he
    replace he : (w.descriptors.insert d.reference d).get? route = some e := he
    by_cases hroute : route = d.reference
    · subst hroute
      rw [SortedMap.get?_insert_self] at he
      cases he
      exact hnext d rfl
    · rw [SortedMap.get?_insert_ne _ _ hroute] at he
      exact h route e he
  | withdraw gone =>
    intro route e he
    replace he : (w.descriptors.erase gone).get? route = some e := he
    by_cases hroute : route = gone
    · subst hroute
      rw [SortedMap.get?_erase_self] at he
      cases he
    · rw [SortedMap.get?_erase_ne _ hroute] at he
      exact h route e he
  | cycle settings now d =>
    rw [after_cycle_eq]
    cases hp : w.prepared settings now d with
    | error stop =>
      rw [run_reconcile_stopped hp]
      exact h
    | ok p =>
      obtain ⟨events, hworld⟩ := exists_told_converged hp
      rw [hworld]
      intro route e he
      obtain ⟨stored, hstored, hsame⟩ := DescriptorStore.of_get?_settle he
      rw [hsame]
      exact h route stored hstored
  | failures operations names => exact h
  | statusLost group => exact h

/-- **Where only well-formed descriptors are ever stored**, every model that is
written in any cycle is built from well-formed ones alone. -/
theorem written_valid_through (certificates : List Certificate) (records : List RecordSet)
    (history : List Happening) (hstored : ∀ d, .store d ∈ history → d.validate = .ok ())
    (settings : Settings) (now : Instant) (d : Descriptor) (model : Model)
    (hmodel : model ∈ (reconcile settings now d).written answer
      ((seeded certificates records).through history)) :
    ∃ group, model.BuiltFrom settings group ∧
      ∀ member ∈ group.members, member.validate = .ok () := by
  have hvalid : ((seeded certificates records).through history).StoredValid := by
    have hstep : ∀ (w : World) (next : Happening), (∀ d, next = .store d → d.validate = .ok ()) →
        w.StoredValid → (w.after next).StoredValid := fun w next hnext h => h.after hnext
    refine through_induction hstep ?_ ?_
    · rintro next hnext e rfl
      exact hstored e hnext
    · intro route e he
      cases he
  have hdistinct := (sound_through certificates records history).descriptors.values_ordered
  obtain ⟨p, hp, rfl⟩ := Cycle.prepared_of_written hmodel
  obtain ⟨htrigger, stored, group, hlisted, hgroup, hbuilt⟩ := Cycle.prepare_built hp
  cases hlisted
  refine ⟨group, hbuilt, (Cycle.members_valid_iff (.of_byReference hdistinct) htrigger hgroup).2 ?_⟩
  intro other hother _ _
  obtain ⟨route, hroute⟩ := (SortedMap.mem_values _ _).1 hother
  exact hvalid route other hroute

end World

end RouteConvergence
