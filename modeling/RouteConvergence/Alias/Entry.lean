/-
RouteConvergence.Alias.Entry — names that should point somewhere.
-/
import RouteConvergence.Dns.Record

namespace RouteConvergence

/-- A name and the types of records it should carry. -/
structure AliasEntry where
  domain : String
  types : SortedSet RecordType
deriving DecidableEq, Inhabited

/-- The entry of a name: IPv4 addresses, and IPv6 addresses if wanted. -/
def AliasEntry.forDomain (domain : String) (ipv6 : Bool) : AliasEntry :=
  ⟨domain, if ipv6 then .ofList [.a, .aaaa] else .ofList [.a]⟩

/-- Names that should point at one target. -/
structure AliasSet where
  target : String
  entries : List AliasEntry
deriving DecidableEq, Inhabited

namespace AliasSet

/-- The names a distribution should be reached by. -/
def desired (target : String) (domains : List String) (ipv6 : Bool) : AliasSet :=
  ⟨target, domains.map fun domain => .forDomain domain ipv6⟩

/-- The names once owned that are no longer wanted. A release always covers
both types of addresses. -/
def toDelete (owned : List String) (wanted : SortedSet String) : AliasSet :=
  ⟨"", (owned.filter fun domain => !wanted.contains domain).map fun domain =>
    .forDomain domain true⟩

def isEmpty (s : AliasSet) : Bool := s.entries.isEmpty

end AliasSet

end RouteConvergence
