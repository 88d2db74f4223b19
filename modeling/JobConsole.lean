import JobConsole.Main
import JobConsole.Printer
import JobConsole.Socket.Writer
import JobConsole.Proofs.RenderedLines
import JobConsole.Proofs.SessionLifecycle
import JobConsole.Proofs.History
import JobConsole.Proofs.Wire
import JobConsole.Proofs.RawLines
import JobConsole.Proofs.LoopTurns
import JobConsole.Proofs.ReadSide
import JobConsole.Proofs.LoopBudget
import JobConsole.Proofs.LoopProgress
import JobConsole.Proofs.ClientsAlike
import JobConsole.Proofs.Outbound
import JobConsole.Proofs.Reconnection
import JobConsole.Proofs.Conversation
import JobConsole.Proofs.Interleaving
import JobConsole.Proofs.Milestones
import JobConsole.Proofs.StatusEntries
import JobConsole.Proofs.HeldChannels
import JobConsole.Proofs.LineBreaks
import JobConsole.Proofs.CommandFrames
import JobConsole.Proofs.Happenings
import JobConsole.Proofs.RejectedInput
import JobConsole.Proofs.SessionCounts
import JobConsole.Proofs.Ledger
import JobConsole.Proofs.Counterparts
import JobConsole.Proofs.RenderModes
import JobConsole.Proofs.Settings.Authority
import JobConsole.Proofs.Settings.Startup
import JobConsole.Proofs.SafeLines
import JobConsole.Proofs.Settings.Completion
import JobConsole.Proofs.Reception
import JobConsole.Proofs.Sentences
import JobConsole.Proofs.Observers
import JobConsole.Proofs.Screen
import JobConsole.Proofs.CommandReading
import JobConsole.Proofs.TypedLines
import JobConsole.Proofs.LogParts
import JobConsole.Proofs.InputEnd
