import DocQuery.Collection.Run
import DocQuery.Collection.Setup
import DocQuery.Config.Json
import DocQuery.Config.Toml
import DocQuery.Filter.Step
import DocQuery.Fragment.Step
import DocQuery.Json.Reader
import DocQuery.Proofs.Text.Pieces
import DocQuery.Proofs.Text.Solid
import DocQuery.Proofs.Text.Word
import DocQuery.Proofs.Operand.Literal
import DocQuery.Proofs.Filter.Defined
import DocQuery.Proofs.Terms.Leaves
import DocQuery.Proofs.Query.Outline
import DocQuery.Proofs.Query.SearchText
import DocQuery.Proofs.Query.Unambiguous
import DocQuery.Proofs.ForMathlib
import DocQuery.Proofs.Terms.OnePass
import DocQuery.Proofs.Run.Replies
import DocQuery.Proofs.Run.Search
import DocQuery.Proofs.Query.Alike
import DocQuery.Proofs.Run.BoundData
import DocQuery.Proofs.Fragment.Steps
import DocQuery.Proofs.Fragment.Variables
import DocQuery.Proofs.Json.Equality
import DocQuery.Proofs.Fragment.NormalForm
import DocQuery.Proofs.Run.Plan
import DocQuery.Proofs.Terms.Grammar
import DocQuery.Proofs.Terms.FirstFault
import DocQuery.Proofs.Query.Assembly
import DocQuery.Proofs.Run.Comparison
import DocQuery.Proofs.Fragment.Monoid
import DocQuery.Proofs.Terms.Conditions
import DocQuery.Proofs.Run.JsonTerms
import DocQuery.Proofs.Run.Log
import DocQuery.Proofs.Query.Aliases
import DocQuery.Proofs.Run.SetUp
import DocQuery.Proofs.Terms.Preorder
import DocQuery.Proofs.Operand.Integers
import DocQuery.Proofs.Run.Cursors
import DocQuery.Proofs.Filter.Typed
import DocQuery.Proofs.Filter.Steps
import DocQuery.Proofs.Fragment.Blanks
import DocQuery.Proofs.Run.Items
import DocQuery.Proofs.Json.Lookup
import DocQuery.Proofs.Config.Documents
