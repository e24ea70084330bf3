import DeclCheck.Main
import DeclCheck.Proofs.Inheritance.Overriding
import DeclCheck.Proofs.Registry.Bare
import DeclCheck.Proofs.Registry.Entries
import DeclCheck.Proofs.Verification.Frame
import DeclCheck.Proofs.Verification.Independence
import DeclCheck.Proofs.Registry.History
import DeclCheck.Proofs.Registry.Consistency
import DeclCheck.Proofs.Registry.Names
import DeclCheck.Proofs.Registry.Redirects
import DeclCheck.Proofs.Compilation.Registration
import DeclCheck.Proofs.Compilation.Duplicates
import DeclCheck.Proofs.Registry.Listeners
import DeclCheck.Proofs.Verification.Gates
import DeclCheck.Proofs.Check.Circular
import DeclCheck.Proofs.Check.Folding
import DeclCheck.Proofs.Inheritance.Renumbering
import DeclCheck.Proofs.Compilation.Order
import DeclCheck.Proofs.Compilation.Reports
import DeclCheck.Proofs.Form.Presentation
import DeclCheck.Proofs.Check.Refolding
import DeclCheck.Proofs.Generics.Variables
import DeclCheck.Proofs.Generics.Bounds
import DeclCheck.Proofs.Inheritance.Ancestors
import DeclCheck.Proofs.Inheritance.Rounds
import DeclCheck.Proofs.Verification.Rewriting
import DeclCheck.Proofs.Verification.Placement
import DeclCheck.Proofs.Inheritance.Preorder
import DeclCheck.Proofs.Inheritance.DefaultArguments
import DeclCheck.Proofs.Generics.Levels
import DeclCheck.Proofs.Check.DefaultCycles
import DeclCheck.Proofs.Registry.Definitions
import DeclCheck.Proofs.Verification.Retouching
import DeclCheck.Proofs.Verification.UseReports
import DeclCheck.Proofs.Verification.Unaltered
import DeclCheck.Proofs.Verification.OldReleases
import DeclCheck.Proofs.Verification.Rerun
import DeclCheck.Proofs.Generics.Erasure
import DeclCheck.Proofs.Registry.Refusals
