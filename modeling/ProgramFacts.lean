import ProgramFacts.Cell
import ProgramFacts.Json.Printer
import ProgramFacts.Main
import ProgramFacts.Pipeline
import ProgramFacts.Program.Read
import ProgramFacts.Program.Write
import ProgramFacts.Proofs.ArrayLevels
import ProgramFacts.Proofs.BodyRows
import ProgramFacts.Proofs.Composition
import ProgramFacts.Proofs.DescriptorGrammar
import ProgramFacts.Proofs.ErrorLayers
import ProgramFacts.Proofs.FactFiles
import ProgramFacts.Proofs.FactLines
import ProgramFacts.Proofs.FailedCalls
import ProgramFacts.Proofs.Failure
import ProgramFacts.Proofs.FileShape
import ProgramFacts.Proofs.HandleTemps
import ProgramFacts.Proofs.HeapIdentity
import ProgramFacts.Proofs.History
import ProgramFacts.Proofs.JsonText
import ProgramFacts.Proofs.LiteralNames
import ProgramFacts.Proofs.MethodIdentity
import ProgramFacts.Proofs.MethodRows
import ProgramFacts.Proofs.ProgramCounts
import ProgramFacts.Proofs.ProgramForm
import ProgramFacts.Proofs.ProgramText
import ProgramFacts.Proofs.References
import ProgramFacts.Proofs.Rerun
import ProgramFacts.Proofs.RowLines
import ProgramFacts.Proofs.SharedRows
import ProgramFacts.Proofs.SourceGrammar
import ProgramFacts.Proofs.StableIdentifiers
import ProgramFacts.Proofs.StoreQueries
import ProgramFacts.Proofs.TableColumns
import ProgramFacts.Proofs.TextHash
import ProgramFacts.Proofs.VariableScope
import ProgramFacts.Proofs.VariableTypes
import ProgramFacts.Report.Duration
import ProgramFacts.Report.Table
import ProgramFacts.Settings.Check
import ProgramFacts.Settings.Load
import ProgramFacts.Settings.Tree
