/-
RouteConvergence.Status — the bookkeeping of one group.

A status record remembers between cycles which distribution the group
has, which routes took part with what success, and which names it owns.
-/
import RouteConvergence.Distribution
import RouteConvergence.Instant
import RouteConvergence.SortedSet

namespace RouteConvergence

/-- The bookkeeping of one group. -/
structure StatusRecord where
  group : GroupName
  distributionId : Option String
  arn : Option String
  address : Option String
  /-- The routes of the group with the success of their last cycle. -/
  synced : SortedMap Reference Bool
  /-- The names the group owns. -/
  aliases : SortedSet String
  lastReconciled : Option Instant
deriving DecidableEq, Inhabited

namespace StatusRecord

/-- The record of a group nothing is known about. -/
def new (group : GroupName) : StatusRecord :=
  ⟨group, none, none, none, .empty, .empty, none⟩

/-- The identity a record remembers. -/
def identity (s : StatusRecord) : Option Identity :=
  s.distributionId.map fun id => ⟨id, s.arn.getD "", s.address⟩

/-- The record with another identity, or with none. -/
def setIdentity (s : StatusRecord) (identity : Option Identity) : StatusRecord :=
  { s with
    distributionId := identity.map (·.id)
    arn := identity.map (·.arn)
    address := identity.bind (·.address) }

/-- The record with the success of one route noted. -/
def recordSync (s : StatusRecord) (route : Reference) (success : Bool) : StatusRecord :=
  { s with synced := s.synced.insert route success }

/-- The record without a route. -/
def forget (s : StatusRecord) (route : Reference) : StatusRecord :=
  { s with synced := s.synced.erase route }

/-- The noted success of a route. -/
def isSynced (s : StatusRecord) (route : Reference) : Option Bool := s.synced.get? route

end StatusRecord

end RouteConvergence
