/-
RouteConvergence.Interference — stores that answer otherwise.

Switches set between a procedure and the stores: calls that fail, a fixed
resource name, or a distribution store that takes every model and keeps
none. A call that is switched over does not reach its store.
-/
import RouteConvergence.World

namespace RouteConvergence

/-- Switches between a procedure and the stores. -/
structure Interference where
  /-- What every group's distribution is said to be called. -/
  arn : Option String
  /-- Whether the distribution store answers with what it was given. -/
  echo : Bool
  /-- Names of calls that fail. -/
  failing : List String

namespace Interference

/-- No switch set. -/
def none : Interference := ⟨.none, false, []⟩

/-- The failure of a call that is switched off. -/
def failure (backend : Backend) (operation : String) : Failure :=
  .backend (.stated backend operation "stub failure")

/-- Answers a call by a failure if its name is switched off, and by the
stores otherwise. -/
def unlessFailing {α : Type} (i : Interference) (name : String) (backend : Backend)
    (operation : String) (w : World) (answer : Outcome α × World) : Outcome α × World :=
  if i.failing.contains name then (.error (failure backend operation), w) else answer

/-- What a call answers past the switches, and the world after it. -/
def answer (i : Interference) : (request : Request) → World → request.Answer × World
  | .listDescriptors, w =>
    i.unlessFailing "list" .descriptor "list" w (World.answer .listDescriptors w)
  | .setFinalizer route state, w =>
    i.unlessFailing "set_finalizer" .descriptor "set_finalizer" w
      (World.answer (.setFinalizer route state) w)
  | .getStatus group, w =>
    i.unlessFailing "status_get" .status "get" w (World.answer (.getStatus group) w)
  | .createStatus status, w =>
    i.unlessFailing "status_create" .status "create" w (World.answer (.createStatus status) w)
  | .updateStatus status, w =>
    i.unlessFailing "status_update" .status "update" w (World.answer (.updateStatus status) w)
  | .deleteStatus group, w =>
    i.unlessFailing "status_delete" .status "delete" w (World.answer (.deleteStatus group) w)
  | .arnOf group, w =>
    i.unlessFailing "arn_by_group" .distribution "arn_by_group" w
      (match i.arn with
      | some arn => (.ok arn, w)
      | .none => World.answer (.arnOf group) w)
  | .usableCertificates now, w =>
    i.unlessFailing "find_by_filter" .certificate "find_by_filter" w
      (World.answer (.usableCertificates now) w)
  | .createDistribution model, w =>
    if i.echo then (.ok model, w) else World.answer (.createDistribution model) w
  | .updateDistribution model, w =>
    if i.echo then (.ok model, w) else World.answer (.updateDistribution model) w
  | .deleteDistribution model, w =>
    if i.echo then (.ok (), w) else World.answer (.deleteDistribution model) w
  | .listRecords name, w =>
    i.unlessFailing "list_record_sets" .dns "list_record_sets" w
      (World.answer (.listRecords name) w)
  | .applyBatch batch, w => World.answer (.applyBatch batch) w
  | .publish event, w =>
    i.unlessFailing "publish" .descriptor "publish" w (World.answer (.publish event) w)

/-- Runs a procedure alone in a world, past the switches. -/
def run {α : Type} (i : Interference) (w : World) (p : Program α) : α × World :=
  p.runWith i.answer w

end Interference

end RouteConvergence
