import SqlClient.Diagnostics
import SqlClient.Proofs.ExecutionHistory
import SqlClient.Workspace
import SqlClient.Proofs.RowDecoding
import SqlClient.Proofs.CursorPosition
import SqlClient.Proofs.FailedExecution
import SqlClient.Proofs.ResultSetCounts
import SqlClient.Proofs.StatementOperations
import SqlClient.Proofs.NamedTables
import SqlClient.Proofs.WorkspaceRuns
import SqlClient.Proofs.ForwardIteration
import SqlClient.Proofs.HandleLifecycle
import SqlClient.Proofs.LobStreaming
import SqlClient.Proofs.FailedReads
import SqlClient.Proofs.HandleCustody
import SqlClient.Proofs.MarkerPositions
import SqlClient.Proofs.CurrentResultSet
import SqlClient.Proofs.ArgumentOrder
import SqlClient.Proofs.LobOverwrites
import SqlClient.Proofs.CellFidelity
import SqlClient.Proofs.RowFidelity
import SqlClient.Proofs.OptionsInEffect
import SqlClient.Proofs.SharedContents
import SqlClient.Proofs.Noninterference
import SqlClient.Proofs.SerialKeys
import SqlClient.Proofs.BatchOptions
import SqlClient.Proofs.CurrentInputs
import SqlClient.Proofs.HandleReturns
import SqlClient.Proofs.TransferRoundTrip
import SqlClient.Proofs.DeclaredMaxima
import SqlClient.Proofs.FittingValues
import SqlClient.Proofs.PartialBinding
import SqlClient.Proofs.WriteBackAfterBinding
import SqlClient.Proofs.FailedWrites
import SqlClient.Proofs.SharedBuffer
import SqlClient.Proofs.LobSlices
import SqlClient.Proofs.SeekLaws
import SqlClient.Proofs.FailedRows
import SqlClient.Proofs.BatchEntries
import SqlClient.Proofs.DescribedParameters
import SqlClient.Proofs.CurrentDescription
import SqlClient.Proofs.RowViews
import SqlClient.Proofs.IntegerTexts
import SqlClient.Proofs.Renderings
import SqlClient.Proofs.ClosedOnce
