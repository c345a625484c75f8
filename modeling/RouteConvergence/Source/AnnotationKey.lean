/-
RouteConvergence.Source.AnnotationKey — the annotations a route may carry.

An annotated object sets the options of its route by text annotations
under one domain. Each key below names one option; keys under the domain
that are not listed are ignored.
-/

namespace RouteConvergence

/-- An annotation that configures a route. -/
inductive AnnotationKey
  | group
  | alternateDomains
  | webAcl
  | originRequestPolicy
  | cachePolicy
  | originResponseTimeout
  | viewerFunction
  | edgeFunctions
  | tags
  /-- Replaced by `edgeFunctions` and refused where it occurs. -/
  | retiredEdgeFunction
deriving DecidableEq, Inhabited, Repr

namespace AnnotationKey

/-- The key as it is written on an object. -/
def text : AnnotationKey → String
  | .group => "edgeplane.io/group"
  | .alternateDomains => "edgeplane.io/alternate-domain-names"
  | .webAcl => "edgeplane.io/web-acl-id"
  | .originRequestPolicy => "edgeplane.io/origin-request-policy"
  | .cachePolicy => "edgeplane.io/cache-policy"
  | .originResponseTimeout => "edgeplane.io/origin-response-timeout"
  | .viewerFunction => "edgeplane.io/viewer-function-arn"
  | .edgeFunctions => "edgeplane.io/edge-function-associations"
  | .tags => "edgeplane.io/tags"
  | .retiredEdgeFunction => "edgeplane.io/lambda-edge-arn"

end AnnotationKey

/-- The finalizer by which an object is held until its route is cleaned
up. -/
def holdFinalizer : String := "edgeplane.io/distribution-finalizer"

end RouteConvergence
