import DocUpdate.Main
import DocUpdate.Proofs.Path.Position
import DocUpdate.Proofs.Path.Place
import DocUpdate.Proofs.Path.Change
import DocUpdate.Proofs.Path.Frame
import DocUpdate.Proofs.Reading
import DocUpdate.Proofs.Update.Plan
import DocUpdate.Proofs.Update.Outcome
import DocUpdate.Proofs.Update.Parsed
import DocUpdate.Proofs.Path.Alike
import DocUpdate.Proofs.Update.Effect
import DocUpdate.Proofs.Path.Commute
import DocUpdate.Proofs.Update.Order
import DocUpdate.Proofs.Update.Report
import DocUpdate.Proofs.Update.Agreement
import DocUpdate.Proofs.Value.Lawful
import DocUpdate.Proofs.Number.Size
import DocUpdate.Proofs.Value.Canon
import DocUpdate.Proofs.Value.Parts
import DocUpdate.Proofs.Value.Numbers
import DocUpdate.Proofs.Value.Preorder
import DocUpdate.Proofs.Value.Order
import DocUpdate.Proofs.Value.Alignment
import DocUpdate.Proofs.Update.ReadBack
import DocUpdate.Proofs.Value.Kept
import DocUpdate.Proofs.Value.Names
import DocUpdate.Proofs.Update.Kinds
import DocUpdate.Proofs.Update.Items
import DocUpdate.Proofs.Update.Written
import DocUpdate.Proofs.Update.Validity
import DocUpdate.Proofs.Path.Text
import DocUpdate.Proofs.Update.WellFormed
import DocUpdate.Proofs.Path.Clear
import DocUpdate.Proofs.Update.Repeat
import DocUpdate.Proofs.Path.Indexed
import DocUpdate.Proofs.Update.Guards
import DocUpdate.Proofs.Number.Interval
import DocUpdate.Proofs.Number.Digits
import DocUpdate.Proofs.Number.Order
import DocUpdate.Proofs.Number.Small
import DocUpdate.Proofs.Update.Sorting
import DocUpdate.Proofs.StableSort.Stability
import DocUpdate.Proofs.StableSort.Insertion
import DocUpdate.Proofs.StableSort.Merging
import DocUpdate.Proofs.StableSort.Halves
import DocUpdate.Proofs.StableSort.Runs
import DocUpdate.Proofs.StableSort.Quick
import DocUpdate.Proofs.Update.InOrder
import DocUpdate.Proofs.Update.Growing
import DocUpdate.Proofs.Number.Nearest
import DocUpdate.Proofs.Number.Storing
import DocUpdate.Proofs.Number.Arithmetic
import DocUpdate.Number.WideText
import DocUpdate.Proofs.Number.Text
import DocUpdate.Proofs.Update.FieldOrder
import DocUpdate.Proofs.Value.Keys
import DocUpdate.Proofs.Path.Reach
import DocUpdate.Proofs.Path.Writing
import DocUpdate.Proofs.Path.Overwriting
import DocUpdate.Proofs.Path.Removing
import DocUpdate.Proofs.Update.Content
import DocUpdate.Proofs.Value.Integer
import DocUpdate.Proofs.Update.Bits
import DocUpdate.Proofs.Update.Counting
import DocUpdate.Proofs.Update.Extreme
import DocUpdate.Proofs.Update.Union
import DocUpdate.Proofs.Condition.Comparison
import DocUpdate.Proofs.Condition.Parts
import DocUpdate.Proofs.Condition.Missing
import DocUpdate.Proofs.Condition.Pulling
import DocUpdate.Proofs.Condition.Reordering
import DocUpdate.Proofs.Condition.Nonvacuous
import DocUpdate.Proofs.Condition.Patterns
import DocUpdate.Proofs.Update.Popping
import DocUpdate.Proofs.Value.Unlike
import DocUpdate.Proofs.Update.Overstating
import DocUpdate.Proofs.Path.Grammar
import DocUpdate.Value.Stepwise
import DocUpdate.Proofs.Number.Denoted
import DocUpdate.Proofs.Number.Truncation
import DocUpdate.Proofs.Value.Exact
import DocUpdate.Proofs.Value.Whole
