import ShaderCombos.Main
import ShaderCombos.Proofs.Layout.Placement
import ShaderCombos.Proofs.Layout.CombinedIndex
import ShaderCombos.Proofs.Layout.Exactness
import ShaderCombos.Proofs.Layout.GreatestIndex
import ShaderCombos.Proofs.Outcomes
import ShaderCombos.Proofs.FileSystem.ReadWrite
import ShaderCombos.Proofs.Batch.Trace
import ShaderCombos.Proofs.Batch.Work
import ShaderCombos.Proofs.Directive.Bounds
import ShaderCombos.Proofs.IndexClass.Kept
import ShaderCombos.Proofs.IndexClass.Names
import ShaderCombos.Proofs.Directive.Written
import ShaderCombos.Proofs.Text.Blanks
import ShaderCombos.Proofs.Text.Marks
import ShaderCombos.Proofs.Text.Occurrences
import ShaderCombos.Proofs.Directive.Brackets
import ShaderCombos.Proofs.Directive.Desktop
import ShaderCombos.Proofs.Directive.Filtering
import ShaderCombos.Proofs.Directive.LineByLine
import ShaderCombos.Proofs.Directive.Reading
import ShaderCombos.Proofs.Source.IncludeLine
import ShaderCombos.Proofs.Source.Inclusion
import ShaderCombos.Proofs.Source.Composition
import ShaderCombos.Proofs.FileSystem.Place
import ShaderCombos.Proofs.FileSystem.Agreement
import ShaderCombos.Proofs.Source.Agreement
import ShaderCombos.Proofs.Naming
import ShaderCombos.Proofs.Naming.StageSuffix
import ShaderCombos.Proofs.Header.Writing
import ShaderCombos.Proofs.Header.Sparing
import ShaderCombos.Proofs.Header.Capacity
import ShaderCombos.Proofs.Batch.Verdict
import ShaderCombos.Proofs.Batch.Outputs
import ShaderCombos.Proofs.Batch.Idempotence
import ShaderCombos.Proofs.Batch.Order
import ShaderCombos.Proofs.FileSystem.Growth
import ShaderCombos.Proofs.FileSystem.Neighbour
import ShaderCombos.Proofs.Batch.Damage
import ShaderCombos.Proofs.Batch.Gate
import ShaderCombos.Proofs.Source.Text
import ShaderCombos.Proofs.Text.Digits
import ShaderCombos.Proofs.Text.ByteOrder
import ShaderCombos.Proofs.Text.Lowercase
import ShaderCombos.Proofs.Json.RoundTrip
import ShaderCombos.Proofs.Manifest.RoundTrip
import ShaderCombos.Proofs.Manifest.Filing
import ShaderCombos.Proofs.Manifest.Disjuncts
import ShaderCombos.Proofs.Layout.Accumulation
import ShaderCombos.Proofs.Header.ReturnType
import ShaderCombos.Proofs.IndexClass.Returned
import ShaderCombos.Proofs.Layout.DeclarationOrder
import ShaderCombos.Proofs.IndexClass.Accepted
import ShaderCombos.Proofs.IndexClass.Members
import ShaderCombos.Proofs.IndexClass.Bookkeeping
import ShaderCombos.Proofs.Width
import ShaderCombos.Proofs.IndexClass.FieldWidths
import ShaderCombos.Proofs.IndexClass.DistinctMembers
import ShaderCombos.Proofs.IndexClass.Computed
import ShaderCombos.Proofs.Header.Classes
import ShaderCombos.Proofs.Header.Faithful
import ShaderCombos.Proofs.Directive.Predicates
import ShaderCombos.Proofs.Directive.InitialValues
