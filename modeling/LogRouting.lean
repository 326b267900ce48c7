import LogRouting.Main
import LogRouting.Proofs.Config.Excerpt
import LogRouting.Proofs.Console.Newlines
import LogRouting.Proofs.Dispatch.Isolation
import LogRouting.Proofs.Registry.Guards
import LogRouting.Proofs.Registry.Isolation
import LogRouting.Proofs.Registry.Nodes
import LogRouting.Proofs.Registry.Retry
import LogRouting.Proofs.Relay.EndToEnd
import LogRouting.Proofs.Relay.Level
import LogRouting.Proofs.Router.Armed
import LogRouting.Proofs.Router.Inert
import LogRouting.Proofs.Router.Lifecycle
import LogRouting.Proofs.Router.Routing
import LogRouting.Proofs.Transport.JsonLines
