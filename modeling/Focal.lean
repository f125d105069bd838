import Focal.Unicode.Alphabetic
import Focal.Unicode.Numeric
import Focal.Unicode.WhiteSpace
import Focal.Unicode.DefaultIgnorable
import Focal.Unicode.GraphemeExtend
import Focal.Unicode.Unprintable
import Focal.Text.Escaped
import Focal.Text.Lines
import Focal.Decimal.Style
import Focal.Decimal.Reading
import Focal.Source.Loop
import Focal.Syntax.Parsing
import Focal.Value.Text
import Focal.Eval.Machine
import Focal.Eval.Evaluate
import Focal.Pipeline.Compile
import Focal.Diagnostic.Explanation
import Focal.Diagnostic.Terminal
import Focal.Diagnostic.OfError
import Focal.CommandLine.FileTree
import Focal.Main
import Focal.Proofs.Source.Balance
import Focal.Proofs.Source.Marks
import Focal.Proofs.Source.Stepping
import Focal.Proofs.Syntax.Numbers
import Focal.Proofs.Pipeline.Bodies
import Focal.Proofs.Pipeline.Finality
import Focal.Proofs.Pipeline.Literals
import Focal.Proofs.Pipeline.Safety
import Focal.Proofs.Pipeline.Separators
import Focal.Proofs.Pipeline.Strings
import Focal.Proofs.Value.Bindings
import Focal.Proofs.Eval.Termination
import Focal.Proofs.Eval.Blocks
import Focal.Proofs.Eval.Contexts
import Focal.Proofs.Eval.Groups
import Focal.Proofs.Eval.Receivers
import Focal.Proofs.Eval.Identities
import Focal.Proofs.Eval.Composition
import Focal.Proofs.Diagnostic.Notes
import Focal.Proofs.Diagnostic.Snippets
import Focal.Proofs.Diagnostic.Colors
import Focal.Proofs.CommandLine.Shorthand
import Focal.Proofs.CommandLine.Evaluation
import Focal.Proofs.CommandLine.Options
import Focal.Proofs.CommandLine.Listing
