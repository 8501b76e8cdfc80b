import ScriptHost.Context.Diagnostic
import ScriptHost.Context.Operation
import ScriptHost.Host.Sample
import ScriptHost.Proofs.Stack.Logic
import ScriptHost.Script.Machine
import ScriptHost.Stack.Program
import ScriptHost.Proofs.Stack.Poison
import ScriptHost.Proofs.Stack.Composed
import ScriptHost.Proofs.Engine.Lifecycle
import ScriptHost.Proofs.Stack.Effect
import ScriptHost.Proofs.Crossing.Assembled
import ScriptHost.Proofs.Crossing.Effect
import ScriptHost.Proofs.Crossing.Callback
import ScriptHost.Proofs.Context.History
import ScriptHost.Proofs.Context.Fatal
import ScriptHost.Proofs.Context.Survival
import ScriptHost.Proofs.Machine.Blank
import ScriptHost.Proofs.Text.Pairing
import ScriptHost.Proofs.Text.Lossy
import ScriptHost.Proofs.Stack.Strings
import ScriptHost.Proofs.Value.Equality
import ScriptHost.Proofs.Crossing.RoundTrip
import ScriptHost.Proofs.Crossing.Bounded
import ScriptHost.Proofs.Crossing.Recross
import ScriptHost.Proofs.Crossing.Received
import ScriptHost.Proofs.Crossing.Classified
import ScriptHost.Proofs.Context.HostErrors
import ScriptHost.Proofs.Stack.Balance
import ScriptHost.Proofs.Crossing.Refusal
import ScriptHost.Proofs.Crossing.LookUp
import ScriptHost.Proofs.Crossing.Calling
import ScriptHost.Proofs.Crossing.Answered
import ScriptHost.Proofs.Crossing.Turns
import ScriptHost.Proofs.Crossing.Sharing
import ScriptHost.Proofs.Context.HostCalls
import ScriptHost.Proofs.Machine.Prototypes
import ScriptHost.Proofs.Context.Resolving
import ScriptHost.Proofs.Context.Paths
import ScriptHost.Proofs.Script.Whole
import ScriptHost.Proofs.Script.Building
import ScriptHost.Proofs.Text.Encodings
import ScriptHost.Proofs.Stack.Isolation
import ScriptHost.Proofs.Context.Defining
import ScriptHost.Proofs.Text.Scan
import ScriptHost.Proofs.Context.Executing
import ScriptHost.Proofs.Script.Leaving
import ScriptHost.Proofs.Script.Fresh
