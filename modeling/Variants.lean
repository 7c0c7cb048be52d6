import Variants.Condition.Sketch
import Variants.Config.Text
import Variants.Main
import Variants.Proofs.Complement
import Variants.Proofs.Condition.Arranging
import Variants.Proofs.Condition.DeadEnd
import Variants.Proofs.Condition.Failing
import Variants.Proofs.Condition.Grammar
import Variants.Proofs.Condition.Leaves
import Variants.Proofs.Condition.Lexeme
import Variants.Proofs.Condition.Reading
import Variants.Proofs.Condition.Rereading
import Variants.Proofs.Condition.Respelling
import Variants.Proofs.Condition.Scanning
import Variants.Proofs.Condition.Token
import Variants.Proofs.Condition.Unplaced
import Variants.Proofs.Condition.Validity
import Variants.Proofs.Condition.Words
import Variants.Proofs.Condition.Writing
import Variants.Proofs.Config.Ignoring
import Variants.Proofs.Config.Refusal
import Variants.Proofs.Config.Restoring
import Variants.Proofs.Document.Json
import Variants.Proofs.Engine.Blank
import Variants.Proofs.Engine.Failure
import Variants.Proofs.Engine.FirstSuccess
import Variants.Proofs.Engine.Normalization
import Variants.Proofs.Engine.Paths
import Variants.Proofs.Engine.Rendering
import Variants.Proofs.Engine.Sharing
import Variants.Proofs.Engine.Usage
import Variants.Proofs.Locality
import Variants.Proofs.Outcome
import Variants.Proofs.Registry.Ambiguity
import Variants.Proofs.Registry.Extension
import Variants.Proofs.Report
import Variants.Proofs.Selection.Decoding
import Variants.Proofs.Selection.NaturalJoin
import Variants.Proofs.Selection.Needless
import Variants.Proofs.Selection.Projection
import Variants.Proofs.Selection.Simplification
import Variants.Proofs.Selection.Text
import Variants.Proofs.Selection.Widening
import Variants.Proofs.Template.Blank
import Variants.Proofs.Template.BuildCondition
import Variants.Proofs.Template.Failure
import Variants.Proofs.Template.Pattern
import Variants.Proofs.Template.Rendering
import Variants.Proofs.Template.Reporting
import Variants.Proofs.Template.Writing
import Variants.Selection.Document
