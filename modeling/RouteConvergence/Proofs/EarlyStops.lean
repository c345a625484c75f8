/-
RouteConvergence.Proofs.EarlyStops — failures before the first write.

Five steps of a cycle can stop it before anything is written: validation,
aggregation, the search for the identity, the build, and the guard against
creations. Stores are asked in between and may fail as well, so nothing is
assumed of them but that a read changes nothing.

* `Cycle.EarlyStop` — which step stops a cycle, with what failure, and who
  is told; `Cycle.preparedFrom_eq_error_iff` says that these are all the
  ways to stop in the first half.
* `Program.Always` — what holds of all calls of a procedure, whatever they
  are answered. Each step of a cycle makes calls of one kind
  (`Program.Only`), and `Cycle.neverCreates_reconcile` is about creations.
* `Interference.early_stop` — a stopped cycle leaves the world alone, past
  any switches.
-/
import RouteConvergence.Interference
import RouteConvergence.Proofs.History

namespace RouteConvergence

/-! ## Where a cycle stops -/

namespace Cycle

section

variable {σ : Type} (answer : (request : Request) → σ → request.Answer × σ) (s : σ)

/-- Which step stops a cycle: the first one that fails. The guard against
creations is told to the route alone, every other failure to everybody. -/
inductive EarlyStop (settings : Settings) (now : Instant) (d : Descriptor) : Stop → Prop
  | validation {failure : Failure} (fails : d.validate = .error failure) :
    EarlyStop settings now d ⟨failure, .routeAndStatus⟩
  | aggregation {failure : Failure} (valid : d.validate = .ok ())
    (fails : gathered answer s d = .error failure) :
    EarlyStop settings now d ⟨failure, .routeAndStatus⟩
  | identity {group : Group} {failure : Failure} (valid : d.validate = .ok ())
    (listed : gathered answer s d = .ok group)
    (fails : recalled answer s d.group = .error failure) :
    EarlyStop settings now d ⟨failure, .routeAndStatus⟩
  | build {group : Group} {found : Option StatusRecord × Option Identity} {failure : Failure}
    (valid : d.validate = .ok ()) (listed : gathered answer s d = .ok group)
    (identified : recalled answer s d.group = .ok found)
    (fails : built answer s settings now group found.2 = .error failure) :
    EarlyStop settings now d ⟨failure, .routeAndStatus⟩
  | creation {group : Group} {found : Option StatusRecord × Option Identity} {model : Model}
    (valid : d.validate = .ok ()) (listed : gathered answer s d = .ok group)
    (identified : recalled answer s d.group = .ok found)
    (modelled : built answer s settings now group found.2 = .ok model)
    (barred : creationBarred settings model = true) :
    EarlyStop settings now d ⟨.refused (.creationDisabled d.group), .route⟩

variable {answer s} {settings : Settings} {now : Instant} {d : Descriptor} {stop : Stop}

/-- **These are all the ways to stop in the first half.** -/
theorem preparedFrom_eq_error_iff :
    preparedFrom answer s settings now d = .error stop ↔
      EarlyStop answer s settings now d stop := by
  have hguard : ∀ model (status : Option StatusRecord),
      (do if creationBarred settings model then
            throw ⟨.refused (.creationDisabled d.group), .route⟩
          return ⟨status, model⟩ : Except Stop Prepared) = .error stop ↔
        creationBarred settings model = true ∧
          ⟨.refused (.creationDisabled d.group), .route⟩ = stop := by
    intro model status
    cases creationBarred settings model with
    | true => simp [throw, throwThe, MonadExceptOf.throw, bind, Except.bind]
    | false => simp [pure, Except.pure]
  simp only [preparedFrom, Outcome.bind_eq_error, Stop.orTellAll_eq_error, Stop.orTellAll_eq_ok,
    hguard]
  obtain ⟨failure, audience⟩ := stop
  constructor
  · rintro (⟨h, rfl⟩ | ⟨⟨⟩, hvalid, ⟨h, rfl⟩ | ⟨group, hgroup, ⟨h, rfl⟩ | ⟨found, hfound, ⟨h, rfl⟩ |
      ⟨model, hmodel, hbarred, hstop⟩⟩⟩⟩)
    · exact .validation h
    · exact .aggregation hvalid h
    · exact .identity hvalid hgroup h
    · exact .build hvalid hgroup hfound h
    · rw [← hstop]
      exact .creation hvalid hgroup hfound hmodel hbarred
  · intro h
    cases h with
    | validation fails => exact Or.inl ⟨fails, rfl⟩
    | aggregation valid fails => exact Or.inr ⟨(), valid, Or.inl ⟨fails, rfl⟩⟩
    | identity valid listed fails =>
      exact Or.inr ⟨(), valid, Or.inr ⟨_, listed, Or.inl ⟨fails, rfl⟩⟩⟩
    | build valid listed identified fails =>
      exact Or.inr ⟨(), valid, Or.inr ⟨_, listed, Or.inr ⟨_, identified, Or.inl ⟨fails, rfl⟩⟩⟩⟩
    | creation valid listed identified modelled barred =>
      exact Or.inr ⟨(), valid, Or.inr ⟨_, listed, Or.inr ⟨_, identified,
        Or.inr ⟨_, modelled, barred, rfl⟩⟩⟩⟩

end

end Cycle

/-! ## All calls of a procedure -/

namespace Program

/-- Whatever the stores answer, every call of a procedure is of some kind, and
it ends with a value as it should be. -/
def Always {α : Type} (good : Request → Prop) (post : α → Prop) : Program α → Prop
  | done value => post value
  | ask request next => good request ∧ ∀ answer, (next answer).Always good post

variable {α β : Type} {good : Request → Prop} {post : α → Prop}

theorem Always.mono {post' : α → Prop} {p : Program α} (h : p.Always good post)
    (himp : ∀ value, post value → post' value) : p.Always good post' := by
  induction p with
  | done value => exact himp value h
  | ask request next ih => exact ⟨h.1, fun answer => ih answer (h.2 answer)⟩

theorem Always.imp {good' : Request → Prop} {p : Program α} (h : p.Always good post)
    (himp : ∀ request, good request → good' request) : p.Always good' post := by
  induction p with
  | done value => exact h
  | ask request next ih => exact ⟨himp request h.1, fun answer => ih answer (h.2 answer)⟩

theorem Always.bind {post' : β → Prop} {p : Program α} {q : α → Program β}
    (h : p.Always good fun value => (q value).Always good post') :
    (p >>= q).Always good post' := by
  show (p.andThen q).Always good post'
  induction p with
  | done value => exact h
  | ask request next ih => exact ⟨h.1, fun answer => ih answer (h.2 answer)⟩

/-- Two procedures whose values do not matter. -/
theorem Always.seq {post' : β → Prop} {p : Program α} {q : α → Program β}
    (h : p.Always good fun _ => True) (hq : ∀ value, (q value).Always good post') :
    (p >>= q).Always good post' :=
  .bind (h.mono fun value _ => hq value)

/-- A step that may end the cycle, followed by another. -/
theorem Always.stepBind {post' : Except Stop β → Prop} {x : Step α} {f : α → Step β}
    (h : x.run.Always good fun _ => True) (hstop : ∀ stop, post' (.error stop))
    (hf : ∀ value, (f value).run.Always good post') : (x >>= f).run.Always good post' := by
  show (x.run >>= ExceptT.bindCont f).Always good post'
  refine .seq h fun result => ?_
  cases result with
  | error stop => exact hstop stop
  | ok value => exact hf value

theorem always_ofOutcome (outcome : Outcome α) :
    (Step.ofOutcome outcome).run.Always good fun _ => True := by
  cases outcome <;> exact trivial

theorem always_lift {p : Program α} (h : p.Always good fun _ => True) :
    (liftM p : Step α).run.Always good fun _ => True := by
  show (p >>= fun value => (pure (Except.ok value) : Program (Except Stop α))).Always good _
  exact .seq h fun _ => trivial

theorem always_attempt {p : Program (Outcome α)} (h : p.Always good fun _ => True) :
    (Step.attempt p).run.Always good fun _ => True :=
  .stepBind (always_lift h) (fun _ => trivial) always_ofOutcome

end Program

/-! ## Kinds of calls -/

namespace Request

/-- Whether a call creates a distribution. -/
def creates : Request → Bool
  | createDistribution _ => true
  | _ => false

/-- Whether a call is about the records of a name. -/
def isNaming : Request → Bool
  | listRecords _ | applyBatch _ => true
  | _ => false

/-- Whether a call notes something down: a finalizer, a status record or an
event. -/
def isNoting : Request → Bool
  | setFinalizer _ _ | createStatus _ | updateStatus _ | deleteStatus _ | publish _ => true
  | _ => false

/-- Whether a call marks a route, by a finalizer or an event. -/
def isMarking : Request → Bool
  | setFinalizer _ _ | publish _ => true
  | _ => false

variable {request : Request}

theorem isNoting_of_isMarking (h : request.isMarking = true) : request.isNoting = true := by
  cases request <;> first | rfl | cases h

theorem creates_of_isRead (h : request.isRead = true) : request.creates = false := by
  cases request <;> first | rfl | cases h

theorem creates_of_isNaming_or_isNoting (h : (request.isNaming || request.isNoting) = true) :
    request.creates = false := by
  cases request <;> first | rfl | cases h

end Request

namespace Program

/-- All calls of a procedure are of one kind, whatever the stores answer. -/
abbrev Only {α : Type} (kind : Request → Bool) (p : Program α) : Prop :=
  p.Always (fun request => kind request = true) fun _ => True

theorem only_call {kind : Request → Bool} {request : Request} (h : kind request = true) :
    (call request).Only kind := ⟨h, fun _ => trivial⟩

/-- No call of a procedure creates a distribution, whatever the stores answer. -/
abbrev NeverCreates {α : Type} (p : Program α) : Prop :=
  p.Always (fun request => request.creates = false) fun _ => True

theorem neverCreates_call {request : Request} (h : request.creates = false) :
    (call request).NeverCreates := ⟨h, fun _ => trivial⟩

end Program

namespace AliasProtocol

open Program

theorem only_submit (batch : Batch) : (submit batch).Only Request.isNaming := by
  unfold submit
  split
  · exact trivial
  · exact only_call rfl

theorem only_upsertEntry (token target : String) (entry : AliasEntry) :
    (upsertEntry token target entry).Only Request.isNaming := by
  refine Always.seq (only_call rfl) fun listed => ?_
  cases listed with
  | error failure => exact trivial
  | ok records =>
    dsimp only
    split
    · exact trivial
    · exact only_submit _

theorem only_deleteEntry (token : String) (entry : AliasEntry) :
    (deleteEntry token entry).Only Request.isNaming := by
  refine Always.seq (only_call rfl) fun listed => ?_
  cases listed with
  | error failure => exact trivial
  | ok records =>
    dsimp only
    split
    · exact only_submit _
    · exact trivial

theorem only_converge {one : AliasEntry → Program (Outcome Unit)}
    (h : ∀ entry, (one entry).Only Request.isNaming) :
    ∀ entries, (converge one entries).Only Request.isNaming
  | [] => trivial
  | entry :: rest =>
    Always.seq (h entry) fun _ => Always.seq (only_converge h rest) fun _ => trivial

end AliasProtocol

namespace Cycle

open Program

variable (settings : Settings) (now : Instant) (d : Descriptor)

/-! ### The steps of a cycle -/

theorem only_existingIdentity (group : GroupName) (status : Option StatusRecord) :
    (existingIdentity group status).Only Request.isRead := by
  unfold existingIdentity
  split
  · exact trivial
  · refine Always.seq (only_call rfl) fun told => ?_
    cases told with
    | error failure =>
      dsimp only
      split <;> exact trivial
    | ok arn =>
      dsimp only
      split <;> exact trivial

/-- What the first half finds is not barred. -/
def Unbarred : Except Stop Prepared → Prop
  | .ok p => creationBarred settings p.model = false
  | .error _ => True

theorem always_prepare : (prepare settings now d).run.Always (fun request => request.isRead = true)
    (Unbarred settings) := by
  have hstop : ∀ stop : Stop, Unbarred settings (.error stop) := fun _ => trivial
  unfold prepare
  refine Always.stepBind (always_ofOutcome _) hstop fun _ => ?_
  refine Always.stepBind (always_attempt (only_call rfl)) hstop fun stored => ?_
  refine Always.stepBind (always_ofOutcome _) hstop fun group => ?_
  refine Always.stepBind (always_attempt (only_call rfl)) hstop fun status => ?_
  refine Always.stepBind (always_attempt (only_existingIdentity _ _)) hstop
    fun identity => ?_
  refine Always.stepBind (always_ofOutcome _) hstop fun draft => ?_
  refine Always.stepBind (always_lift ?_) hstop fun candidates => ?_
  · unfold candidatesFor
    split
    · exact trivial
    · exact only_call rfl
  refine Always.stepBind (always_ofOutcome _) hstop fun model => ?_
  cases hbarred : creationBarred settings model with
  | true => exact trivial
  | false => exact hbarred

theorem only_syncAliasesIfEnabled (model : Model) (status : StatusRecord) :
    (syncAliasesIfEnabled settings model status).Only Request.isNaming := by
  unfold syncAliasesIfEnabled
  split
  · refine Always.seq ?_ fun claimed => Always.seq ?_ fun released => trivial
    · unfold claimNames
      split
      · exact trivial
      · split
        · exact AliasProtocol.only_converge (AliasProtocol.only_upsertEntry _ _) _
        · exact trivial
    · unfold releaseNames
      split
      · exact trivial
      · exact AliasProtocol.only_converge (AliasProtocol.only_deleteEntry _) _
  · exact trivial

theorem only_settleFinalizer (state : FinalizerState) :
    (settleFinalizer d state).Only Request.isMarking := by
  unfold settleFinalizer
  split
  · exact trivial
  · refine Always.seq (only_call rfl) fun noted => ?_
    cases noted <;> exact trivial

theorem only_persist (model : Model) (status : StatusRecord) (isNew clean : Bool) :
    (persist settings model status isNew clean).Only Request.isNoting := by
  unfold persist
  split
  · split
    · exact trivial
    · exact only_call rfl
  · split <;> exact only_call rfl

theorem only_announce (audience : Audience) (kind : EventKind) (reason message : String) :
    (announce d audience kind reason message).Only Request.isMarking := by
  refine Always.seq (only_call rfl) fun _ => ?_
  cases audience with
  | route => exact trivial
  | routeAndStatus => exact Always.seq (only_call rfl) fun _ => trivial

/-- After the distribution step a cycle is about names and notes alone. -/
theorem exists_afterSync (p : Prepared) : ∃ rest : DistributionSync → Program (List Failure),
    converge settings now d p = syncDistribution settings p.model >>= rest ∧
      ∀ synced, (rest synced).Only fun request => request.isNaming || request.isNoting := by
  refine ⟨_, rfl, fun synced => ?_⟩
  have hnaming : ∀ request : Request, request.isNaming = true →
      (request.isNaming || request.isNoting) = true := fun _ h => by rw [h, Bool.true_or]
  have hnoting : ∀ request : Request, request.isNoting = true →
      (request.isNaming || request.isNoting) = true := fun _ h => by rw [h, Bool.or_true]
  refine Always.seq ((only_syncAliasesIfEnabled settings _ _).imp hnaming) fun aliases => ?_
  refine Always.seq ((only_settleFinalizer d _).imp fun request h =>
    hnoting request (Request.isNoting_of_isMarking h)) fun held => ?_
  exact Always.seq ((only_persist settings _ _ _ _).imp hnoting) fun stored => trivial

/-! ### No creation while creations are disabled -/

/-- A distribution is only created for a model without an identity, and such a
model does not get here while creations are disabled. -/
theorem neverCreates_syncDistribution {model : Model} (hcreation : settings.creation = false)
    (hbarred : creationBarred settings model = false) :
    (syncDistribution settings model).NeverCreates := by
  unfold syncDistribution
  split
  · split
    · exact trivial
    · split
      · exact trivial
      · refine Always.seq (neverCreates_call rfl) fun deleted => ?_
        cases deleted <;> exact trivial
  · rename_i hempty
    have hidentity : model.hasIdentity = true := by
      simpa [creationBarred, hcreation, hempty] using hbarred
    rw [if_pos hidentity]
    refine Always.seq (neverCreates_call rfl) fun written => ?_
    cases written <;> exact trivial

/-- **No creation is ever asked for while creations are disabled**, whatever the
stores answer. -/
theorem neverCreates_reconcile (hcreation : settings.creation = false) :
    (reconcile settings now d).NeverCreates := by
  have hrun : (run settings now d).run.NeverCreates := by
    show ((prepare settings now d).run >>= ExceptT.bindCont _).NeverCreates
    have hprepare := (always_prepare settings now d).imp fun _ => Request.creates_of_isRead
    refine Always.bind (hprepare.mono fun result hresult => ?_)
    cases result with
    | error stop => exact trivial
    | ok p =>
      obtain ⟨rest, hrest, honly⟩ := exists_afterSync settings now d p
      have hconverge : (converge settings now d p).NeverCreates := by
        rw [hrest]
        refine Always.seq (neverCreates_syncDistribution settings hcreation hresult) fun synced => ?_
        exact (honly synced).imp fun _ => Request.creates_of_isNaming_or_isNoting
      refine Always.stepBind (always_lift hconverge) (fun _ => trivial) fun failures => ?_
      split <;> exact trivial
  have hannounce : ∀ audience kind reason message,
      (announce d audience kind reason message).NeverCreates := fun audience kind reason message =>
    (only_announce d audience kind reason message).imp fun _ h =>
      Request.creates_of_isNaming_or_isNoting (by
        rw [Request.isNoting_of_isMarking h, Bool.or_true])
  refine Always.seq hrun fun result => ?_
  cases result with
  | error stop => exact Always.seq (hannounce _ _ _ _) fun _ => trivial
  | ok _ => exact Always.seq (hannounce _ _ _ _) fun _ => trivial

end Cycle

/-! ## Stopped cycles -/

namespace Interference

variable (i : Interference) (w : World)

/-- Reading past any switches leaves the world as it is. -/
theorem answer_read (request : Request) (h : request.isRead = true) :
    (i.answer request w).2 = w := by
  have hunless : ∀ {α : Type} (name : String) (backend : Backend) (operation : String)
      (result : Outcome α), (i.unlessFailing name backend operation w (result, w)).2 = w := by
    intro α name backend operation result
    unfold unlessFailing
    split <;> rfl
  cases request with
  | listDescriptors => exact hunless _ _ _ _
  | getStatus group => exact hunless _ _ _ _
  | usableCertificates now => exact hunless _ _ _ _
  | listRecords name => exact hunless _ _ _ _
  | arnOf group =>
    unfold answer
    dsimp only
    cases i.arn <;> exact hunless _ _ _ _
  | _ => cases h

/-- The world with some more events published, unless that is what fails. -/
def told (events : List Event) : World :=
  if i.failing.contains "publish" then w else w.told events

theorem run_announce (d : Descriptor) (audience : Audience) (kind : EventKind)
    (reason message : String) :
    (i.run w (Cycle.announce d audience kind reason message)).2 =
      i.told w (Cycle.notices d audience kind reason message) := by
  have hpublish : ∀ (event : Event) (w : World),
      (i.answer (.publish event) w).2 = i.told w [event] := by
    intro event w
    show (i.unlessFailing "publish" .descriptor "publish" w _).2 = _
    unfold unlessFailing told
    split <;> rfl
  cases audience with
  | route => exact hpublish _ w
  | routeAndStatus =>
    show (i.answer (.publish _) (i.answer (.publish _) w).2).2 = _
    rw [hpublish, hpublish]
    unfold told
    split
    · rfl
    · simp [World.told, Cycle.notices]

/-- **A failure before the first write leaves the world alone.** Whichever step
fails first, and whatever is switched off, the cycle answers with that very
failure, and all that happens is that the failure is announced: to the route by
the guard against creations, to the route and the status record by the other
steps. While creations are disabled no cycle ever asks for one. -/
theorem early_stop (settings : Settings) (now : Instant) (d : Descriptor) :
    (∀ failure audience, Cycle.EarlyStop i.answer w settings now d ⟨failure, audience⟩ →
      i.run w (reconcile settings now d) =
        (.error failure,
          i.told w (Cycle.notices d audience .warning failure.reason failure.message))) ∧
      (settings.creation = false → (reconcile settings now d).NeverCreates) := by
  refine ⟨fun failure audience hstop => ?_, Cycle.neverCreates_reconcile settings now d⟩
  have hprepared := Cycle.preparedFrom_eq_error_iff.2 hstop
  rw [run, Cycle.runWith_reconcile_stopped (i.answer_read w) hprepared, ← run, run_announce]

/-- The blog without a distribution while creations are disabled: only the route
is told. -/
theorem early_stop_barred :
    let settings : Settings := { Settings.claiming with creation := false }
    let w := (World.initial []).through [.store .blog]
    let failure : Failure := .refused (.creationDisabled "public")
    Cycle.EarlyStop none.answer w settings .someNoon .blog ⟨failure, .route⟩ ∧
      none.run w (reconcile settings .someNoon .blog) = (.error failure,
        none.told w [⟨.route ⟨"web", "blog"⟩, .warning, failure.reason, failure.message⟩]) ∧
      (reconcile settings .someNoon .blog).NeverCreates := by
  intro settings w failure
  have hroute : (match Cycle.preparedFrom none.answer w settings .someNoon .blog with
      | .error stop => decide (stop.audience = .route)
      | .ok _ => false) = true := by decide +kernel
  have hstop : Cycle.EarlyStop none.answer w settings .someNoon .blog ⟨failure, .route⟩ := by
    cases hprepared : Cycle.preparedFrom none.answer w settings .someNoon .blog with
    | ok p =>
      rw [hprepared] at hroute
      cases hroute
    | error stop =>
      rw [hprepared] at hroute
      -- Of the five ways to stop, only the guard speaks to the route alone.
      cases Cycle.preparedFrom_eq_error_iff.1 hprepared with
      | creation valid listed identified modelled barred =>
        exact .creation valid listed identified modelled barred
      | _ => cases hroute
  have hearly := early_stop none w settings .someNoon .blog
  exact ⟨hstop, hearly.1 failure .route hstop, hearly.2 rfl⟩

end Interference

end RouteConvergence
