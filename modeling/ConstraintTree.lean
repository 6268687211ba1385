import ConstraintTree.CommandLine.Run
import ConstraintTree.Draft
import ConstraintTree.Main
import ConstraintTree.Proofs.Grammar.ReadBack
import ConstraintTree.Walk
import ConstraintTree.Workbench
import ConstraintTree.Proofs.Grammar.Derivation
import ConstraintTree.Proofs.Grammar.Reader
import ConstraintTree.Proofs.Snapshot.Depth
import ConstraintTree.Proofs.Snapshot.Restoring
import ConstraintTree.Proofs.Snapshot.RoundTrip
import ConstraintTree.Proofs.Snapshot.Spelling
import ConstraintTree.Proofs.Snapshot.Canonical
import ConstraintTree.Proofs.GapWalk
import ConstraintTree.Proofs.Snapshot.Limit
import ConstraintTree.Proofs.Layout.Leaves
import ConstraintTree.Proofs.Layout.Marks
import ConstraintTree.Proofs.Layout.Placeholders
import ConstraintTree.Proofs.Layout.Hollow
import ConstraintTree.Proofs.Layout.Quoting
import ConstraintTree.Proofs.Grammar.Glyph
import ConstraintTree.Proofs.Grammar.Normal
import ConstraintTree.Proofs.Grammar.PredicateReader
import ConstraintTree.Proofs.Grammar.Determination
import ConstraintTree.Proofs.Snapshot.Extension
import ConstraintTree.Proofs.Snapshot.Truncation
import ConstraintTree.Proofs.Snapshot.PrefixFree
import ConstraintTree.Proofs.Snapshot.Unwinding
import ConstraintTree.Proofs.CommandLine.Checking
import ConstraintTree.Proofs.Layout.Safety
import ConstraintTree.Proofs.Grammar.Grouping
import ConstraintTree.Proofs.Drafting
import ConstraintTree.Proofs.ColumnWalk
import ConstraintTree.Proofs.Number.Value
import ConstraintTree.Proofs.Agreement.Settled
import ConstraintTree.Proofs.Agreement.Settling
import ConstraintTree.Proofs.Agreement.Respect
import ConstraintTree.Proofs.Text.Replacement
import ConstraintTree.Proofs.Layout.Idioms
import ConstraintTree.Proofs.Layout.Inequality
import ConstraintTree.Proofs.Layout.Schema
import ConstraintTree.Proofs.Layout.Noting
import ConstraintTree.Proofs.Nodes
import ConstraintTree.Proofs.Rejection
import ConstraintTree.Proofs.Snapshot.Allowance
import ConstraintTree.Proofs.Snapshot.Consumption
import ConstraintTree.Proofs.Snapshot.Directories
