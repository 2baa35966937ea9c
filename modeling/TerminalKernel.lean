import TerminalKernel.Computer.Boot
import TerminalKernel.Sample
import TerminalKernel.Proofs.Run
import TerminalKernel.Proofs.Roster
import TerminalKernel.Proofs.Simulation
import TerminalKernel.Proofs.Lineage
import TerminalKernel.Proofs.ProcessTree
import TerminalKernel.Proofs.Incarnation
import TerminalKernel.Proofs.Return
import TerminalKernel.Proofs.Turns
import TerminalKernel.Proofs.Screens
import TerminalKernel.Proofs.Updates
import TerminalKernel.Proofs.VideoWindow
import TerminalKernel.Proofs.UserPointers
import TerminalKernel.Proofs.Stores
import TerminalKernel.Proofs.Isolation
import TerminalKernel.Proofs.Holdings
import TerminalKernel.Proofs.FileContents
import TerminalKernel.Proofs.SequentialReads
import TerminalKernel.Proofs.ConsoleSteps
import TerminalKernel.Proofs.Relaunch
import TerminalKernel.Proofs.DescriptorTable
import TerminalKernel.Proofs.InputLines
import TerminalKernel.Proofs.Failures
import TerminalKernel.Proofs.BoundedCopies
import TerminalKernel.Proofs.PageTables
import TerminalKernel.Proofs.ImageLayout
import TerminalKernel.Proofs.ImageRoundTrip
import TerminalKernel.Proofs.SavedFlows
import TerminalKernel.Proofs.Settled
import TerminalKernel.Proofs.Proceeding
import TerminalKernel.Proofs.Handovers
import TerminalKernel.Proofs.Reachable
import TerminalKernel.Proofs.LineDelivery
import TerminalKernel.Proofs.BlockedReads
import TerminalKernel.Proofs.ArbitraryReads
import TerminalKernel.Proofs.LaunchConditions
import TerminalKernel.Proofs.KeyHandling
import TerminalKernel.Proofs.Requests
import TerminalKernel.Proofs.SlotMemory
import TerminalKernel.Proofs.ChildStatus
import TerminalKernel.Proofs.Callers
import TerminalKernel.Proofs.CallContracts
import TerminalKernel.Proofs.Printing
import TerminalKernel.Proofs.RowLayout
import TerminalKernel.Proofs.TerminalRecords
import TerminalKernel.Proofs.Echo
import TerminalKernel.Proofs.RoundRobin
import TerminalKernel.Proofs.KeyOrder
import TerminalKernel.Proofs.HeldKeys
import TerminalKernel.Proofs.DescriptorCalls
import TerminalKernel.Proofs.DirectoryListing
import TerminalKernel.Proofs.StoredBytes
import TerminalKernel.Proofs.ArgumentText
import TerminalKernel.Proofs.StackPointers
import TerminalKernel.Proofs.RecordLayout
import TerminalKernel.Proofs.ProcessMap
import TerminalKernel.Proofs.TableInMemory
import TerminalKernel.Proofs.ClockFrequency
