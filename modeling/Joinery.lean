import Joinery.Disk.Tree
import Joinery.LoadState
import Joinery.Main
import Joinery.Statement
import Joinery.Proofs.Fragment
import Joinery.Proofs.Names
import Joinery.Proofs.Placeholder.Scan
import Joinery.Proofs.Trees
import Joinery.Proofs.Placeholder.Aligned
import Joinery.Proofs.Placeholder.Literals
import Joinery.Proofs.Placeholder.Numbering
import Joinery.Proofs.Placeholder.Quoting
import Joinery.Proofs.Placeholder.Filter
import Joinery.Proofs.Builder
import Joinery.Proofs.Placeholder.Selection
import Joinery.Proofs.Placeholder.Statement
import Joinery.Proofs.Samples
import Joinery.Proofs.Reading.Formula
import Joinery.Proofs.Reading.Comparison
import Joinery.Proofs.Reading.Tree
import Joinery.Proofs.Reading.Filter
import Joinery.Proofs.JoinSafety.References
import Joinery.Proofs.JoinSafety.Source
import Joinery.Proofs.JoinSafety.Walk
import Joinery.Proofs.JoinSafety.Conditions
import Joinery.Proofs.JoinSafety.CallSite
import Joinery.Proofs.Rows.Choice
import Joinery.Proofs.Rows.Agreement
import Joinery.Proofs.Rows.Quantifiers
import Joinery.Proofs.Vanishing
import Joinery.Proofs.Compilable
import Joinery.Proofs.Parameters
import Joinery.Proofs.Neutral
import Joinery.Proofs.Guards
import Joinery.Proofs.Assignments
import Joinery.Proofs.Aliases
import Joinery.Proofs.JoinSafety.Collections
import Joinery.Proofs.Expression.Tokens
import Joinery.Proofs.Expression.Precedence
import Joinery.Proofs.Expression.Placeholders
import Joinery.Proofs.Expression.Chains
import Joinery.Proofs.Expression.Bindings
import Joinery.Proofs.Appearances
import Joinery.Proofs.Restriction
import Joinery.Proofs.Scoping.Joins
import Joinery.Proofs.Loading.Hydration
import Joinery.Proofs.Loading.Collections
import Joinery.Proofs.JoinSafety.Growth
import Joinery.Proofs.JoinSafety.Known
import Joinery.Proofs.Reordering
import Joinery.Proofs.CallSites.Occurrences
import Joinery.Proofs.CallSites.Recognition
import Joinery.Proofs.JoinSafety.Order
import Joinery.Proofs.JoinSafety.Wrappers
import Joinery.Proofs.Loading.Selections
import Joinery.Proofs.Composition
import Joinery.Proofs.Reports.Files
import Joinery.Proofs.AcceptedUpdates
