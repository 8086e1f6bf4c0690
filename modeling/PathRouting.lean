import PathRouting.Route
import PathRouting.Session.Run
import PathRouting.Settings
import PathRouting.Proofs.CanonicalPath
import PathRouting.Proofs.Search
import PathRouting.Proofs.Parts
import PathRouting.Proofs.Tokens
import PathRouting.Proofs.Trees
import PathRouting.Proofs.Readings
import PathRouting.Proofs.Resolution
import PathRouting.Proofs.OpenRuns
import PathRouting.Proofs.Effects
import PathRouting.Proofs.Rendering
import PathRouting.Proofs.Courses
import PathRouting.Proofs.Leads
import PathRouting.Proofs.Navigations
import PathRouting.Proofs.Registrations
import PathRouting.Proofs.Agreement
import PathRouting.Proofs.Reentrance
import PathRouting.Proofs.Dues
import PathRouting.Proofs.Cancellation
import PathRouting.Proofs.DroppedOutlets
import PathRouting.Proofs.LastViews
import PathRouting.Proofs.NestedMoves
import PathRouting.Proofs.Recency
import PathRouting.Proofs.Widening
import PathRouting.Proofs.LivePatterns
import PathRouting.Proofs.TrailingSeparators
import PathRouting.Proofs.Teardown
import PathRouting.Proofs.LoadAccounts
import PathRouting.Proofs.Normalisation
import PathRouting.Proofs.Padding
import PathRouting.Proofs.Zippers
import PathRouting.Proofs.RegistryKeys
import PathRouting.Proofs.Rounds
import PathRouting.Proofs.Diagnostics
import PathRouting.Proofs.Scopes
import PathRouting.Proofs.CellWrites
import PathRouting.Proofs.Clashes
import PathRouting.Proofs.Grammar
import PathRouting.Proofs.Configuration
