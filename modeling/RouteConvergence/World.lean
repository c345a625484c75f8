/-
RouteConvergence.World — the stores as one value.

A world holds everything the engine can see or change, with a log of the
calls that change it and switches that make calls fail. `World.answer`
says what each call does; a call that fails leaves its store as it was,
but for the log.

A distribution gets the next free number as its identifier, and keeps its
identity through updates, which find it by identifier in whatever group
it stands.
-/
import RouteConvergence.Program

namespace RouteConvergence

/-! ## Distributions -/

/-- The store of distributions. -/
structure DistributionStore where
  models : SortedMap GroupName Model
  /-- The calls made, in order. -/
  calls : List (Operation × GroupName)
  /-- The calls that fail. -/
  failing : List Operation
  /-- The number of identifiers given out. -/
  issued : Nat

namespace DistributionStore

def empty : DistributionStore := ⟨.empty, [], [], 0⟩

/-- The identity given to the distribution of a number. -/
def identityOf (number : Nat) : Identity :=
  let id := "E" ++ Text.natPadded 12 number
  ⟨id, "arn:aws:cloudfront::000000000000:distribution/" ++ id,
    some (Text.lowerAscii id ++ ".cdn.example.net")⟩

/-- Logs a call. -/
def logged (s : DistributionStore) (operation : Operation) (group : GroupName) :
    DistributionStore :=
  { s with calls := s.calls ++ [(operation, group)] }

/-- Creates a distribution under a new identity. -/
def create (s : DistributionStore) (model : Model) : Outcome Model × DistributionStore :=
  let s := s.logged .create model.group
  if .create ∈ s.failing then (.error (.backend (.injected .create)), s)
  else
    let created := model.withIdentity (some (identityOf (s.issued + 1)))
    (.ok created,
      { s with models := s.models.insert model.group created, issued := s.issued + 1 })

/-- The stored identity with an identifier, in whatever group it stands. -/
def findIdentity (s : DistributionStore) (id : String) : Option Identity :=
  (s.models.values.find? fun m => m.identity.map (·.id) == some id).bind (·.identity)

/-- Replaces a distribution; it keeps its identity. -/
def update (s : DistributionStore) (model : Model) : Outcome Model × DistributionStore :=
  let s := s.logged .update model.group
  if .update ∈ s.failing then (.error (.backend (.injected .update)), s)
  else
    match model.identity with
    | none => (.error (.backend .identityMissing), s)
    | some requested =>
      match s.findIdentity requested.id with
      | none => (.error (.backend (.distributionMissing requested.id)), s)
      | some existing =>
        let updated := model.withIdentity (some existing)
        (.ok updated, { s with models := s.models.insert model.group updated })

/-- Deletes the distribution of a model's group. -/
def delete (s : DistributionStore) (model : Model) : Outcome Unit × DistributionStore :=
  let s := s.logged .delete model.group
  if .delete ∈ s.failing then (.error (.backend (.injected .delete)), s)
  else (.ok (), { s with models := s.models.erase model.group })

/-- The resource name of a group's distribution. -/
def arnOf (s : DistributionStore) (group : GroupName) : Outcome String :=
  match (s.models.get? group).bind (·.identity) with
  | some identity => .ok identity.arn
  | none => .error (.notFound "distribution" group)

end DistributionStore

/-! ## The zone -/

/-- The records of one zone. -/
structure Zone where
  records : SortedMap RecordSet.Key RecordSet
  /-- The batches applied, in order. -/
  batches : List Batch
  /-- The names at which batches fail. -/
  failing : List String

namespace Zone

def empty : Zone := ⟨.empty, [], []⟩

/-- Stores a record set as it is. -/
def insert (z : Zone) (record : RecordSet) : Zone :=
  { z with records := z.records.insert record.key record }

/-- The records stored under a name, by type. -/
def recordsAt (z : Zone) (name : String) : List RecordSet :=
  z.records.values.filter (·.name == name)

/-- The records after one change. -/
def change (records : SortedMap RecordSet.Key RecordSet) (c : Change) :
    SortedMap RecordSet.Key RecordSet :=
  match c.action with
  | .upsert => records.insert c.record.key c.record
  | .delete => records.erase c.record.key

/-- Why a batch is not taken: a name that fails, or a record set to delete
that is not there. -/
def fault? (z : Zone) (batch : Batch) : Option BackendFault :=
  match batch.find? fun c => z.failing.contains c.record.name with
  | some c => some (.injectedAt c.record.name)
  | none =>
    (batch.find? fun c => c.action == .delete && !z.records.contains c.record.key).map fun c =>
      .recordMissing c.record.type c.record.name

/-- Applies a batch, or nothing of it. -/
def apply (z : Zone) (batch : Batch) : Outcome Unit × Zone :=
  match z.fault? batch with
  | some fault => (.error (.backend fault), z)
  | none =>
    (.ok (), { z with records := batch.foldl change z.records, batches := z.batches ++ [batch] })

end Zone

/-! ## Status records -/

/-- The status records by group. -/
abbrev StatusStore := SortedMap GroupName StatusRecord

namespace StatusStore

/-- Stores the record of a group that has none. -/
def create (s : StatusStore) (status : StatusRecord) : Outcome Unit × StatusStore :=
  if s.contains status.group then (.error (.backend (.statusExists status.group)), s)
  else (.ok (), s.insert status.group status)

/-- Replaces the record of a group that has one. -/
def update (s : StatusStore) (status : StatusRecord) : Outcome Unit × StatusStore :=
  if s.contains status.group then (.ok (), s.insert status.group status)
  else (.error (.notFound "status" status.group), s)

end StatusStore

/-! ## Descriptors -/

/-- The descriptors by reference. -/
abbrev DescriptorStore := SortedMap Reference Descriptor

namespace DescriptorStore

/-- Notes whether the source of a route is held. -/
def setFinalizer (s : DescriptorStore) (route : Reference) (state : FinalizerState) :
    Outcome Unit × DescriptorStore :=
  match s.get? route with
  | some d => (.ok (), s.insert route { d with finalizer := state })
  | none => (.error (.notFound "descriptor" route.text), s)

end DescriptorStore

/-! ## Worlds -/

/-- All stores. -/
structure World where
  descriptors : DescriptorStore
  distributions : DistributionStore
  certificates : List Certificate
  zone : Zone
  statuses : StatusStore
  /-- The events published, in order. -/
  events : List Event

namespace World

/-- Empty stores beside a certificate directory. -/
def initial (certificates : List Certificate) : World :=
  ⟨.empty, .empty, certificates, .empty, .empty, []⟩

/-- The world with a descriptor stored. -/
def put (w : World) (d : Descriptor) : World :=
  { w with descriptors := w.descriptors.insert d.reference d }

/-- The world without a descriptor. -/
def remove (w : World) (route : Reference) : World :=
  { w with descriptors := w.descriptors.erase route }

/-- What a call answers, and the world after it. -/
def answer : (request : Request) → World → request.Answer × World
  | .listDescriptors, w => (.ok w.descriptors.values, w)
  | .setFinalizer route state, w =>
    let (result, store) := DescriptorStore.setFinalizer w.descriptors route state
    (result, { w with descriptors := store })
  | .getStatus group, w => (.ok (w.statuses.get? group), w)
  | .createStatus status, w =>
    let (result, store) := StatusStore.create w.statuses status
    (result, { w with statuses := store })
  | .updateStatus status, w =>
    let (result, store) := StatusStore.update w.statuses status
    (result, { w with statuses := store })
  | .deleteStatus group, w => (.ok (), { w with statuses := w.statuses.erase group })
  | .arnOf group, w => (w.distributions.arnOf group, w)
  | .usableCertificates now, w => (.ok (Certificate.usable now w.certificates), w)
  | .createDistribution model, w =>
    let (result, store) := w.distributions.create model
    (result, { w with distributions := store })
  | .updateDistribution model, w =>
    let (result, store) := w.distributions.update model
    (result, { w with distributions := store })
  | .deleteDistribution model, w =>
    let (result, store) := w.distributions.delete model
    (result, { w with distributions := store })
  | .listRecords name, w => (.ok (w.zone.recordsAt name), w)
  | .applyBatch batch, w =>
    let (result, zone) := w.zone.apply batch
    (result, { w with zone := zone })
  | .publish event, w => (.ok (), { w with events := w.events ++ [event] })

/-- Runs a procedure alone in a world. -/
def run {α : Type} (w : World) (p : Program α) : α × World := p.runWith answer w

end World

end RouteConvergence
