/-
RouteConvergence.Cycle — one convergence cycle of a group.

A cycle is set off by one descriptor and brings the group's distribution,
names and bookkeeping to what the descriptors ask for. It has two halves:

* `Cycle.prepare` judges the input and builds the model. It only reads,
  and its first failure ends the cycle.
* `Cycle.converge` changes the stores. The distribution and the names are
  independent of each other, so a failure of one does not keep the other
  back; all failures are collected.

`reconcile` runs both and reports the result by events. No locks are
taken: of two cycles for one group the last to write wins, and the next
cycle computes everything anew.
-/
import RouteConvergence.Alias.Protocol
import RouteConvergence.Distribution.Build

namespace RouteConvergence

/-! ## Judging the input -/

/-- Who is told about the failure of a cycle. -/
inductive Audience
  | route
  | routeAndStatus
deriving DecidableEq, Repr

/-- The end of a cycle by a failure. -/
structure Stop where
  failure : Failure
  audience : Audience

/-- A step that may end the cycle. -/
abbrev Step := ExceptT Stop Program

namespace Step

/-- Ends the cycle, and tells everybody, if the result is a failure. -/
def ofOutcome {α : Type} : Outcome α → Step α
  | .ok value => pure value
  | .error failure => throw ⟨failure, .routeAndStatus⟩

/-- Runs a procedure and ends the cycle if it fails. -/
def attempt {α : Type} (p : Program (Outcome α)) : Step α := do
  let outcome ← (liftM p : Step (Outcome α))
  ofOutcome outcome

end Step

namespace Cycle

/-- The descriptors of the store with the one that set off the cycle, which
is the freshest copy of itself. -/
def withTrigger (stored : List Descriptor) (d : Descriptor) : List Descriptor :=
  stored.filter (·.reference != d.reference) ++ [d]

/-- The identity of a group's distribution: the one on record, or else the
one its resource name gives away. -/
def existingIdentity (group : GroupName) (status : Option StatusRecord) :
    Program (Outcome (Option Identity)) :=
  match status.bind (·.identity) with
  | some identity => pure (.ok (some identity))
  | none => do
    match ← Program.call (.arnOf group) with
    | .ok arn =>
      match Identity.ofArn? arn with
      | some identity => pure (.ok (some identity))
      | none => pure (.error (.refused (.arnMalformed arn)))
    | .error failure => if failure.isNotFound then pure (.ok none) else pure (.error failure)

/-- The usable certificates, asked for only if a draft needs one. -/
def candidatesFor (now : Instant) (draft : Draft) : Program (Outcome (List Certificate)) :=
  if draft.uncovered.isEmpty then pure (.ok []) else .call (.usableCertificates now)

/-- What a cycle works towards. -/
structure Prepared where
  /-- The status record as it was found. -/
  persisted : Option StatusRecord
  model : Model

/-- Whether the model asks for a distribution that must not be created. -/
def creationBarred (settings : Settings) (model : Model) : Bool :=
  !model.isEmpty && !model.hasIdentity && !settings.creation

/-- Judges the input of a cycle and builds the model. -/
def prepare (settings : Settings) (now : Instant) (d : Descriptor) : Step Prepared := do
  Step.ofOutcome d.validate
  let stored ← Step.attempt (Program.call .listDescriptors)
  let group ← Step.ofOutcome (Group.aggregate d.group (withTrigger stored d))
  let persisted ← Step.attempt (Program.call (.getStatus d.group))
  let identity ← Step.attempt (existingIdentity d.group persisted)
  let draft ← Step.ofOutcome (Draft.ofGroup settings group identity)
  let candidates ← (liftM (candidatesFor now draft) : Step (Outcome (List Certificate)))
  let model ← Step.ofOutcome (draft.finish settings candidates)
  if creationBarred settings model then
    throw ⟨.refused (.creationDisabled d.group), .route⟩
  return ⟨persisted, model⟩

/-! ## Converging the stores -/

/-- What became of the distribution. -/
structure DistributionSync where
  identity : Option Identity
  failure : Option Failure

/-- Brings the distribution to the model. -/
def syncDistribution (settings : Settings) (model : Model) : Program DistributionSync :=
  if model.isEmpty then
    if !model.hasIdentity then pure ⟨none, none⟩
    else if !settings.deletion then pure ⟨model.identity, none⟩
    else do
      match ← Program.call (.deleteDistribution model) with
      | .ok _ => pure ⟨none, none⟩
      | .error failure => pure ⟨model.identity, some failure⟩
  else do
    let result ←
      if model.hasIdentity then Program.call (.updateDistribution model)
      else Program.call (.createDistribution model)
    match result with
    | .ok synced => pure ⟨synced.identity <|> model.identity, none⟩
    | .error failure => pure ⟨model.identity, some failure⟩

/-- What became of the names: those owned now, and the failures. -/
structure AliasSync where
  owned : SortedSet String
  failures : List Failure

/-- Makes the wanted names point at the distribution. -/
def claimNames (token : String) (model : Model) (status : StatusRecord)
    (wanted : SortedSet String) : Program AliasReport :=
  if wanted.isEmpty then pure .empty
  else
    match status.address with
    | some address =>
      AliasProtocol.upsert token (.desired address wanted.toList model.ipv6)
    | none => pure ⟨[], [.backend (.addressMissing model.group wanted.toList)]⟩

/-- Releases names that are no longer wanted. -/
def releaseNames (token : String) (unwanted : AliasSet) : Program AliasReport :=
  if unwanted.isEmpty then pure .empty else AliasProtocol.delete token unwanted

/-- Brings the names of a group to the model. Only names whose changes were
applied are added to or taken from the names owned. -/
def syncAliases (token : String) (model : Model) (status : StatusRecord) :
    Program AliasSync := do
  let wanted := SortedSet.ofList model.alternateDomains
  let claimed ← claimNames token model status wanted
  let released ← releaseNames token (.toDelete status.aliases.toList wanted)
  return ⟨(status.aliases.insertAll claimed.succeeded).eraseAll released.succeeded,
    claimed.failures ++ released.failures⟩

/-- Brings the names to the model if names are managed at all. -/
def syncAliasesIfEnabled (settings : Settings) (model : Model) (status : StatusRecord) :
    Program AliasSync :=
  if settings.aliasing.enabled then syncAliases settings.aliasing.token model status
  else pure ⟨status.aliases, []⟩

/-- Whether the source of a route has to be held after a cycle: until its
removal has gone through without a failure. -/
def finalizerAfter (d : Descriptor) (failures : List Failure) : FinalizerState :=
  if !failures.isEmpty || !d.beingRemoved then .managed else .released

/-- Notes the finalizer of the route if it changed. -/
def settleFinalizer (d : Descriptor) (state : FinalizerState) : Program (List Failure) :=
  if state = d.finalizer then pure []
  else do
    match ← Program.call (.setFinalizer d.reference state) with
    | .ok _ => pure []
    | .error failure => pure [failure]

/-- Stores the status record, or drops it once nothing is left of the
group. -/
def persist (settings : Settings) (model : Model) (status : StatusRecord)
    (isNew clean : Bool) : Program (Outcome Unit) :=
  if clean && model.isEmpty && settings.deletion then
    if isNew then pure (.ok ()) else .call (.deleteStatus status.group)
  else if isNew then .call (.createStatus status)
  else .call (.updateStatus status)

/-- The failures of a result. -/
def failuresOf {α : Type} : Outcome α → List Failure
  | .ok _ => []
  | .error failure => [failure]

/-- Changes the stores to match the model, and collects the failures. -/
def converge (settings : Settings) (now : Instant) (d : Descriptor) (prepared : Prepared) :
    Program (List Failure) := do
  let model := prepared.model
  let found := prepared.persisted.getD (.new d.group)
  let distribution ← syncDistribution settings model
  let identified := found.setIdentity distribution.identity
  let aliases ← syncAliasesIfEnabled settings model identified
  let synced := distribution.failure.isNone && aliases.failures.isEmpty
  let failures := distribution.failure.toList ++ aliases.failures
  let noted := { identified with aliases := aliases.owned }.recordSync d.reference synced
  let holding ← settleFinalizer d (finalizerAfter d failures)
  let failures := failures ++ holding
  let kept := if d.beingRemoved then noted.forget d.reference else noted
  let stamped := { kept with lastReconciled := some now }
  let stored ← persist settings model stamped prepared.persisted.isNone failures.isEmpty
  return failures ++ failuresOf stored

/-! ## Reporting -/

/-- Tells an audience about the end of a cycle. Events that cannot be
published are lost. -/
def announce (d : Descriptor) (audience : Audience) (kind : EventKind)
    (reason message : String) : Program Unit := do
  let _ ← Program.call (.publish ⟨.route d.reference, kind, reason, message⟩)
  match audience with
  | .route => pure ()
  | .routeAndStatus =>
    let _ ← Program.call (.publish ⟨.status d.group, kind, reason, message⟩)
    pure ()

/-- The reason of an event about a cycle that converged. -/
def convergedReason : String := "Reconciled"

/-- The message of an event about a cycle that converged. -/
def convergedMessage (group : GroupName) : String := "group '" ++ group ++ "' converged"

/-- A cycle without its report. -/
def run (settings : Settings) (now : Instant) (d : Descriptor) : Step Unit := do
  let prepared ← prepare settings now d
  let failures ← (liftM (converge settings now d prepared) : Step (List Failure))
  if failures.isEmpty then return
  throw ⟨.combine failures, .routeAndStatus⟩

end Cycle

/-- Runs one cycle for the group of a descriptor and reports its result. -/
def reconcile (settings : Settings) (now : Instant) (d : Descriptor) :
    Program (Outcome Unit) := do
  match ← (Cycle.run settings now d).run with
  | .ok _ =>
    Cycle.announce d .routeAndStatus .normal Cycle.convergedReason
      (Cycle.convergedMessage d.group)
    return .ok ()
  | .error stop =>
    Cycle.announce d stop.audience .warning stop.failure.reason stop.failure.message
    return .error stop.failure

end RouteConvergence
