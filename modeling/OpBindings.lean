import OpBindings.FileTree
import OpBindings.Main
import OpBindings.Proofs.Declaration.Defaults
import OpBindings.Proofs.Declaration.RoundTrip
import OpBindings.Proofs.Operator
import OpBindings.Proofs.Signature
import OpBindings.Proofs.OverloadFamily
import OpBindings.Proofs.Merging
import OpBindings.Proofs.ArgumentLayout
import OpBindings.Proofs.NativeCall
import OpBindings.Proofs.OwnCall
import OpBindings.Proofs.SplitFamily
import OpBindings.Proofs.Counting
import OpBindings.Proofs.Interchange
import OpBindings.Proofs.TableOrder
import OpBindings.Proofs.BoundTable
import OpBindings.Proofs.PublicName
import OpBindings.Proofs.Registration
import OpBindings.Proofs.Ledger
import OpBindings.Proofs.Tallies
import OpBindings.Proofs.Reasons
import OpBindings.Proofs.Totals
import OpBindings.Proofs.LoneWriters
import OpBindings.Proofs.Report
import OpBindings.Proofs.Accounting
import OpBindings.Proofs.Vocabulary
import OpBindings.Proofs.OutputSlot
import OpBindings.Proofs.OutputBranch
import OpBindings.Proofs.OutputPack
import OpBindings.Proofs.Arms
import OpBindings.Proofs.Independence
import OpBindings.Proofs.Delivery
import OpBindings.Proofs.Gathering
import OpBindings.Proofs.NativeArgs
import OpBindings.Proofs.OptionsValue
import OpBindings.Proofs.OutputSpan
import OpBindings.Proofs.MatchingWriter
import OpBindings.Proofs.StringLiteral
import OpBindings.Proofs.DistinctArms
import OpBindings.Proofs.DroppedMark
import OpBindings.Proofs.CodeScope
import OpBindings.Proofs.CallScope
import OpBindings.Proofs.CodeText
import OpBindings.Proofs.HostName
import OpBindings.Proofs.ShownNames
import OpBindings.Proofs.LineComment
import OpBindings.Proofs.ParserUse
import OpBindings.Proofs.Declaration.Scanning
import OpBindings.Proofs.LayoutOrder
import OpBindings.Proofs.Strict.Run
