import NodeKit.Main
import NodeKit.Proofs.Boilerplate.Decoding
import NodeKit.Proofs.Boilerplate.Grouping
import NodeKit.Proofs.Boilerplate.Layout
import NodeKit.Proofs.Declaration.Grammar
import NodeKit.Proofs.Declaration.Printing
import NodeKit.Proofs.Refactoring.Abort
import NodeKit.Proofs.Refactoring.CallSearch
import NodeKit.Proofs.Refactoring.Counts
import NodeKit.Proofs.Refactoring.CutSpan
import NodeKit.Proofs.Refactoring.ExcludedFolder
import NodeKit.Proofs.Refactoring.FolderRun
import NodeKit.Proofs.Refactoring.HoistEndings
import NodeKit.Proofs.Refactoring.HoistFailure
import NodeKit.Proofs.Refactoring.HoistRepeated
import NodeKit.Proofs.Refactoring.HoistSignature
import NodeKit.Proofs.Refactoring.HoistTwice
import NodeKit.Proofs.Refactoring.Request
import NodeKit.Proofs.Refactoring.RequestFaults
import NodeKit.Proofs.Refactoring.RunTwice
import NodeKit.Proofs.Refactoring.SignatureUndo
import NodeKit.Proofs.Refactoring.SingleFile
import NodeKit.Proofs.Text.Search
import NodeKit.Proofs.Boilerplate.Accessors
import NodeKit.Proofs.Disk.Extension
import NodeKit.Proofs.Command.Grammar
import NodeKit.Proofs.Command.Printing
import NodeKit.Proofs.Command.Verbosity
import NodeKit.Proofs.Command.Consistency
import NodeKit.Proofs.Text.CaseRuns
import NodeKit.Proofs.Text.Tiling
