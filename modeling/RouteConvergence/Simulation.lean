/-
RouteConvergence.Simulation — what a set of routes converges to.

Two ways to find out, both without touching real stores:

* `preview` — the distribution one group will have, computed at once.
* `simulate` — a cycle for every route against empty stores that hold the
  routes. Groups come in order, and the routes of a group in the order in
  which they were given.
-/
import RouteConvergence.Cycle
import RouteConvergence.World

namespace RouteConvergence

/-! ## Groups -/

/-- The descriptors with one more under its group, last of it. -/
def addToGroup (groups : SortedMap GroupName (List Descriptor)) (d : Descriptor) :
    SortedMap GroupName (List Descriptor) :=
  groups.insert d.group ((groups.get? d.group).getD [] ++ [d])

/-- The descriptors by the group they name, each group in the given order. -/
def byGroup (descriptors : List Descriptor) : SortedMap GroupName (List Descriptor) :=
  descriptors.foldl addToGroup .empty

/-! ## Preview -/

/-- The distribution a group will have; none if no route shapes it. Every
route that names the group has to be valid. -/
def preview (settings : Settings) (now : Instant) (directory : List Certificate)
    (descriptors : List Descriptor) (group : GroupName) : Outcome (Option Model) := do
  (descriptors.filter (·.group == group)).forM Descriptor.validate
  let gathered ← Group.aggregate group descriptors
  if gathered.isEmpty then return none
  return some (← Model.build settings now directory gathered none)

/-! ## Simulation -/

/-- A route whose cycle failed. -/
structure RouteFailure where
  route : Reference
  failure : Failure
deriving Inhabited

namespace RouteFailure

/-- Whether a later cycle may do without a change of the input. -/
def isRetryable (f : RouteFailure) : Bool := !f.failure.isFatal

end RouteFailure

/-- Cycles for some descriptors, one after the other, and what failed. -/
def reconcileEach (settings : Settings) (now : Instant) :
    List Descriptor → Program (List RouteFailure)
  | [] => .done []
  | d :: rest =>
    (reconcile settings now d).andThen fun outcome =>
      (reconcileEach settings now rest).andThen fun failures =>
        .done (match outcome with
          | .ok _ => failures
          | .error failure => ⟨d.reference, failure⟩ :: failures)

/-- Cycles for the members of some groups, group after group. -/
def reconcileGroups (settings : Settings) (now : Instant) :
    List (List Descriptor) → Program (List RouteFailure)
  | [] => .done []
  | members :: rest =>
    (reconcileEach settings now members).andThen fun failures =>
      (reconcileGroups settings now rest).andThen fun others => .done (failures ++ others)

/-- Stores that hold some descriptors and certificates, and else nothing. -/
def World.holding (directory : List Certificate) (descriptors : List Descriptor) : World :=
  descriptors.foldl World.put (.initial directory)

/-- What failed in a simulation, and the stores after it. -/
def simulate (settings : Settings) (now : Instant) (directory : List Certificate)
    (descriptors : List Descriptor) : List RouteFailure × World :=
  (World.holding directory descriptors).run
    (reconcileGroups settings now (byGroup descriptors).values)

end RouteConvergence
