import CallFrame.Align.Lemmas
import CallFrame.Frame
import CallFrame.Scalar.Lemmas
import CallFrame.Proofs.Alignment
import CallFrame.Proofs.AggregateLayout
import CallFrame.Proofs.WordAlignment
import CallFrame.Proofs.Sequence
import CallFrame.Proofs.LongDoubleImage
import CallFrame.Proofs.LongDoubleDestination
import CallFrame.Proofs.PutEffect
import CallFrame.Proofs.Run
import CallFrame.Proofs.BuiltType
import CallFrame.Proofs.Native.Cursor
import CallFrame.Proofs.Native.Put
import CallFrame.Proofs.Native.Agreement
import CallFrame.Proofs.Native.Extent
import CallFrame.Proofs.Native.ReadBack
import CallFrame.Proofs.Native.StackSize
import CallFrame.Proofs.Rounding.Nearest
import CallFrame.Proofs.Rounding.Neighbours
import CallFrame.Proofs.Rounding.Ratio
import CallFrame.Proofs.Rounding.Decimal
import CallFrame.Proofs.Rounding.Written
import CallFrame.Proofs.Rounding.Reading
import CallFrame.Proofs.Rounding.Grammar
import CallFrame.Proofs.Rounding.TextRoute
import CallFrame.Proofs.Rounding.AnyShape
import CallFrame.Proofs.Rounding.Fields
import CallFrame.Proofs.Rounding.Text
import CallFrame.Proofs.Rounding.Exact
import CallFrame.Proofs.Rounding.Double
import CallFrame.Proofs.Rounding.Spelling
import CallFrame.Proofs.Rounding.Value
import CallFrame.Proofs.Rounding.Pair
import CallFrame.Proofs.Rounding.Lossless
import CallFrame.Proofs.Rounding.Shortcut
import CallFrame.Proofs.Slots
import CallFrame.Proofs.CursorBound
import CallFrame.Proofs.Registration
import CallFrame.Proofs.ZeroAddress
