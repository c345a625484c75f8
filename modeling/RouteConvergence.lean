import RouteConvergence.Codec.Dns
import RouteConvergence.Codec.Settings
import RouteConvergence.Interference
import RouteConvergence.Main
import RouteConvergence.Proofs.Convergence
import RouteConvergence.Proofs.DroppedRecords
import RouteConvergence.Proofs.EntryEffect
import RouteConvergence.Proofs.ExactRoutes
import RouteConvergence.Proofs.FatalFailures
import RouteConvergence.Proofs.Idempotence
import RouteConvergence.Proofs.IndependentBackends
import RouteConvergence.Proofs.OneDistribution
import RouteConvergence.Proofs.PreviewedModels
import RouteConvergence.Proofs.RacingCycles
import RouteConvergence.Proofs.Recovery
import RouteConvergence.Proofs.SharedNames
import RouteConvergence.Proofs.SubtreeRoutes
import RouteConvergence.Proofs.TwoOwners
import RouteConvergence.Proofs.UncheckedMembers
import RouteConvergence.Proofs.WellFormedModels
import RouteConvergence.Proofs.OriginContents
import RouteConvergence.Proofs.RoutingConflicts
import RouteConvergence.Proofs.DecimalDigits
import RouteConvergence.Proofs.JsonLayouts
import RouteConvergence.Proofs.MomentTexts
import RouteConvergence.Proofs.PersistedReferences
import RouteConvergence.Proofs.CanonicalNames
import RouteConvergence.Proofs.CertificateChoice
import RouteConvergence.Proofs.SourceForms
import RouteConvergence.Proofs.VanishedRoutes
import RouteConvergence.Proofs.MovedRoutes
import RouteConvergence.Proofs.TagTexts
import RouteConvergence.Proofs.TagPrecedence
import RouteConvergence.Proofs.NormalForms
import RouteConvergence.Proofs.DrawnTables
import RouteConvergence.Proofs.VerbatimSettings
