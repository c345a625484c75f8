/-
RouteConvergence.Group — the members of a group and what they share.

The members of a group are listed by reference, each reference once: of
descriptors with one reference the first given stays. All members have to
agree on a non-empty firewall id or leave it out.
-/
import RouteConvergence.Descriptor
import RouteConvergence.SortedSet

namespace RouteConvergence

/-- A group with its members and the firewall id they share. -/
structure Group where
  name : GroupName
  members : List Descriptor
  webAcl : Option String
deriving DecidableEq, Inhabited

namespace Group

/-- Whether no route shapes the group. -/
def isEmpty (g : Group) : Bool := g.members.isEmpty

/-- Whether a descriptor may stand before another in the list of members. -/
def mayPrecede (a b : Descriptor) : Bool := (compare a.reference b.reference).isLE

/-- A list without a descriptor whose reference equals its neighbour's;
the first of a run stays. -/
def dropRepeated : List Descriptor → List Descriptor
  | [] => []
  | d :: rest =>
    match dropRepeated rest with
    | [] => [d]
    | e :: kept => if e.reference = d.reference then d :: kept else d :: e :: kept

/-- The members of a group among some descriptors. -/
def membersOf (name : GroupName) (descriptors : List Descriptor) : List Descriptor :=
  dropRepeated ((descriptors.filter (·.isMemberOf name)).mergeSort mayPrecede)

/-- The non-empty firewall ids that members name. -/
def webAcls (members : List Descriptor) : SortedSet String :=
  .ofList ((members.filterMap (·.webAcl)).filter (!·.isEmpty))

/-- Gathers a group, or tells which firewall ids disagree. -/
def aggregate (name : GroupName) (descriptors : List Descriptor) : Outcome Group :=
  let members := membersOf name descriptors
  match (webAcls members).toList with
  | [] => .ok ⟨name, members, none⟩
  | [acl] => .ok ⟨name, members, some acl⟩
  | acls => .error (.conflict (.webAclsDiffer name acls))

end Group

end RouteConvergence
