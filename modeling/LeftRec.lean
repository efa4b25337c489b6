import LeftRec.Access
import LeftRec.Blueprint.Basic
import LeftRec.Blueprint.Datum
import LeftRec.Blueprint.Declaration
import LeftRec.Build
import LeftRec.Checked
import LeftRec.Context
import LeftRec.Decimal.Notation
import LeftRec.Decimal.Shortest
import LeftRec.Eval
import LeftRec.Evaluate
import LeftRec.Event
import LeftRec.Expectation
import LeftRec.Failure
import LeftRec.Fault
import LeftRec.Input
import LeftRec.Json.Command
import LeftRec.Json.Grammar
import LeftRec.Json.Value
import LeftRec.Key
import LeftRec.Main
import LeftRec.Memo.Hashed
import LeftRec.Memo.Ordered
import LeftRec.Memo.Table
import LeftRec.Memoize
import LeftRec.Outcome
import LeftRec.Parser
import LeftRec.Pattern
import LeftRec.Regex.Break
import LeftRec.Regex.Category
import LeftRec.Regex.CharSet
import LeftRec.Regex.Engine
import LeftRec.Regex.Match
import LeftRec.Regex.Node
import LeftRec.Regex.Program
import LeftRec.Regex.Property
import LeftRec.Regex.Reader
import LeftRec.Regex.Script
import LeftRec.Regex.Semantics
import LeftRec.Regex.Trait
import LeftRec.Report
import LeftRec.Run
import LeftRec.Samples.Arithmetic
import LeftRec.Samples.Catalogue
import LeftRec.Samples.Counting
import LeftRec.Samples.Indirect
import LeftRec.Samples.Pairs
import LeftRec.Samples.Subtraction
import LeftRec.Samples.Text
import LeftRec.Session
import LeftRec.Signature
import LeftRec.State
import LeftRec.Text.Age
import LeftRec.Text.Alphabetic
import LeftRec.Text.Blank
import LeftRec.Text.Case
import LeftRec.Text.Casing
import LeftRec.Text.Category.Letters
import LeftRec.Text.Category.Marks
import LeftRec.Text.Category.Numbers
import LeftRec.Text.Category.Others
import LeftRec.Text.Category.Punctuation
import LeftRec.Text.Category.Symbols
import LeftRec.Text.Emoji
import LeftRec.Text.Extending
import LeftRec.Text.Extension
import LeftRec.Text.Folding
import LeftRec.Text.Ideograph
import LeftRec.Text.Marking
import LeftRec.Text.Quoted
import LeftRec.Text.Ranges
import LeftRec.Text.Script
import LeftRec.Text.Script.Africa
import LeftRec.Text.Script.EastAsia
import LeftRec.Text.Script.Europe
import LeftRec.Text.Script.MiddleEast
import LeftRec.Text.Script.Shared
import LeftRec.Text.Script.SouthAsia
import LeftRec.Text.Script.SoutheastAsia
import LeftRec.Text.Sign
import LeftRec.Text.Special
import LeftRec.Text.Visible
import LeftRec.Text.Word
import LeftRec.Used
import LeftRec.Proofs.Agreement
import LeftRec.Proofs.Alignment
import LeftRec.Proofs.Alternation
import LeftRec.Proofs.Anchoring
import LeftRec.Proofs.Answers
import LeftRec.Proofs.Arithmetic
import LeftRec.Proofs.AtLeastOnce
import LeftRec.Proofs.Binding
import LeftRec.Proofs.Bisection
import LeftRec.Proofs.Boundaries
import LeftRec.Proofs.Calculation
import LeftRec.Proofs.Canonicity
import LeftRec.Proofs.Characters
import LeftRec.Proofs.Choices
import LeftRec.Proofs.Closing
import LeftRec.Proofs.Coherence
import LeftRec.Proofs.Combs
import LeftRec.Proofs.Companions
import LeftRec.Proofs.Comparison
import LeftRec.Proofs.Confinement
import LeftRec.Proofs.Congruence
import LeftRec.Proofs.ContextMap
import LeftRec.Proofs.Copying
import LeftRec.Proofs.Course
import LeftRec.Proofs.Curtailment
import LeftRec.Proofs.Dependence
import LeftRec.Proofs.Derivation
import LeftRec.Proofs.Displacement
import LeftRec.Proofs.Equivariance
import LeftRec.Proofs.Erasure
import LeftRec.Proofs.Fatality
import LeftRec.Proofs.Finding
import LeftRec.Proofs.Finished
import LeftRec.Proofs.Formula
import LeftRec.Proofs.Fuel
import LeftRec.Proofs.Growth
import LeftRec.Proofs.Indirect
import LeftRec.Proofs.Interchange
import LeftRec.Proofs.Inversion
import LeftRec.Proofs.Iteration
import LeftRec.Proofs.Levels
import LeftRec.Proofs.Matching
import LeftRec.Proofs.Moves
import LeftRec.Proofs.Naming
import LeftRec.Proofs.Nesting
import LeftRec.Proofs.Numbering
import LeftRec.Proofs.Numerals
import LeftRec.Proofs.Onward
import LeftRec.Proofs.Packrat
import LeftRec.Proofs.Parallel
import LeftRec.Proofs.Parities
import LeftRec.Proofs.Plain
import LeftRec.Proofs.Progress
import LeftRec.Proofs.Provenance
import LeftRec.Proofs.Readers
import LeftRec.Proofs.Reading
import LeftRec.Proofs.Rebuilding
import LeftRec.Proofs.Recall
import LeftRec.Proofs.Recursion
import LeftRec.Proofs.Regions
import LeftRec.Proofs.Related
import LeftRec.Proofs.Relocation
import LeftRec.Proofs.Renaming
import LeftRec.Proofs.Rendering
import LeftRec.Proofs.Repetition
import LeftRec.Proofs.Searching
import LeftRec.Proofs.Separation
import LeftRec.Proofs.Sequences
import LeftRec.Proofs.Succession
import LeftRec.Proofs.Sufficiency
import LeftRec.Proofs.Table
import LeftRec.Proofs.Termination
import LeftRec.Proofs.Thompson
import LeftRec.Proofs.Tiers
import LeftRec.Proofs.Tokens
import LeftRec.Proofs.Tracking
import LeftRec.Proofs.Translation
import LeftRec.Proofs.Transparency
import LeftRec.Proofs.Turns
import LeftRec.Proofs.Unambiguity
import LeftRec.Proofs.Usage
import LeftRec.Proofs.Visits
import LeftRec.Proofs.Windows
import LeftRec.Proofs.Yields
