import SatBridge.Backend.Pool
import SatBridge.Dimacs.Printer
import SatBridge.Library.Recorded
import SatBridge.Main
import SatBridge.Stream.Sink
import SatBridge.Proofs.Certificate
import SatBridge.Proofs.Protocol.Conformance
import SatBridge.Proofs.Builtin.Decision
import SatBridge.Proofs.Builtin.Refinement
import SatBridge.Proofs.Dimacs.RoundTrip
import SatBridge.Proofs.Dimacs.FirstFault
import SatBridge.Proofs.Dimacs.Delivery
import SatBridge.Proofs.Guarded.Wire
import SatBridge.Proofs.Resident.History
import SatBridge.Proofs.Builtin.Replies
import SatBridge.Proofs.Report.Lines
import SatBridge.Proofs.Cli.Stdout
import SatBridge.Proofs.Builtin.Isolation
import SatBridge.Proofs.Protocol.Refusals
import SatBridge.Proofs.Resident.Leftover
import SatBridge.Proofs.Formula.PartialEvaluation
import SatBridge.Proofs.Formula.Encoding
import SatBridge.Proofs.Cli.OptionArg
import SatBridge.Proofs.Report.Wrapping
import SatBridge.Proofs.Backend.Trace
import SatBridge.Proofs.Statistics
import SatBridge.Proofs.Pattern.Classes
import SatBridge.Proofs.Pattern.Flaws
import SatBridge.Proofs.Cli.Stderr
import SatBridge.Proofs.Cli.Args
