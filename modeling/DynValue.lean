import DynValue.Binary.Arithmetic
import DynValue.Binary.Basic
import DynValue.Binary.Order
import DynValue.Binary.Rounding
import DynValue.Decimal.Layout
import DynValue.Decimal.Reader
import DynValue.Decimal.Shortest
import DynValue.Digest
import DynValue.Fault
import DynValue.Json.Basic
import DynValue.Json.Reader
import DynValue.Json.Token
import DynValue.Model.Tree
import DynValue.Native.Arithmetic
import DynValue.Native.Convert
import DynValue.Native.KeyMap
import DynValue.Native.Order
import DynValue.Native.Subscript
import DynValue.Native.Type
import DynValue.Proofs.Binary.Order
import DynValue.Proofs.Model.Alike
import DynValue.Proofs.Model.RoundTrip
import DynValue.Proofs.Model.Tree
import DynValue.Proofs.Session.Dict
import DynValue.Proofs.Session.Invariant
import DynValue.Proofs.Value.Assignment
import DynValue.Proofs.Value.Congruence
import DynValue.Proofs.Value.Entries
import DynValue.Proofs.Value.Equality
import DynValue.Proofs.Value.Expression
import DynValue.Proofs.Value.Forms
import DynValue.Proofs.Value.Order
import DynValue.Proofs.Value.Parts
import DynValue.Proofs.Value.Place
import DynValue.Proofs.Value.Preservation
import DynValue.Proofs.Value.Reach
import DynValue.Proofs.Value.Spelling
import DynValue.Proofs.Value.Stream
import DynValue.Proofs.Value.WellFormed
import DynValue.Proofs.Word.Range
import DynValue.Repetition
import DynValue.Session
import DynValue.Text.Case
import DynValue.Text.CaseMap
import DynValue.Text.Class.Blank
import DynValue.Text.Class.CaseIgnorable
import DynValue.Text.Class.Combining
import DynValue.Text.Class.Hidden
import DynValue.Text.Class.Ignorable
import DynValue.Text.Class.Letter
import DynValue.Text.Class.Lower
import DynValue.Text.Class.Numeral
import DynValue.Text.Class.Run
import DynValue.Text.Class.Upper
import DynValue.Text.Escaped
import DynValue.Text.Padding
import DynValue.Text.Quoted
import DynValue.Text.Search
import DynValue.Text.Words
import DynValue.Trace
import DynValue.Value.Arithmetic
import DynValue.Value.Basic
import DynValue.Value.Coerce
import DynValue.Value.Entries
import DynValue.Value.Equality
import DynValue.Value.Iterate
import DynValue.Value.Methods
import DynValue.Value.Order
import DynValue.Value.Path
import DynValue.Value.Render
import DynValue.Value.Stream
import DynValue.Value.Subscript
import DynValue.Word.Basic
import DynValue.Word.Bits
import DynValue.Word.Floor
import DynValue.Proofs.Native.Homomorphism
import DynValue.Proofs.Json.RoundTrip
import DynValue.Proofs.Decimal.Shortest
import DynValue.Proofs.Text.Quoted
import DynValue.Proofs.Decimal.Layout
import DynValue.Proofs.Value.Literal
import DynValue.Proofs.Word.Floor
import DynValue.Proofs.Native.FloorDivision
import DynValue.Proofs.Binary.Nearest
import DynValue.Proofs.Native.RoundTrip
import DynValue.Proofs.Value.Position
import DynValue.Proofs.Model.Reading
import DynValue.Proofs.Binary.Widening
import DynValue.Proofs.Native.Order
import DynValue.Proofs.Text.Scan
import DynValue.Proofs.Value.Sorting
import DynValue.Proofs.Value.Repetition
import DynValue.Proofs.Native.Repetition
import DynValue.Proofs.Native.WordExpression
import DynValue.Proofs.Session.CompoundAssignment
import DynValue.Proofs.Value.Sum
import DynValue.Proofs.Text.Trim
import DynValue.Proofs.Value.IntegerText
import DynValue.Proofs.Value.QuotedLiteral
import DynValue.Decimal.Respelled
import DynValue.Proofs.Value.Iteration
import DynValue.Proofs.Decimal.Fewest
import DynValue.Proofs.Decimal.ReadBack
import DynValue.Proofs.Decimal.Respelled
import DynValue.Proofs.Value.FloatLiteral
import DynValue.Proofs.Native.OrderEmbedding
import DynValue.Proofs.Value.Padding
import DynValue.Proofs.Text.Stretches
import DynValue.Proofs.Text.FinalSigma
import DynValue.Proofs.Word.Bits
import DynValue.Proofs.Native.Extremes
