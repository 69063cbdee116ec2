import Cobalt.Std.HashMap
import Cobalt.Server.Types
import Cobalt.Server.Bind
import Cobalt.Proof.Holds
import Cobalt.Proof.Receive
import Cobalt.Proof.Send
import Cobalt.Proof.Tick
import Cobalt.Proof.Reach
import Cobalt.Proof.Unwrap
import Cobalt.Proof.PeerAddr
import Cobalt.Proof.Demux
import Cobalt.Proof.Congestion
import Cobalt.Proof.Total
import Cobalt.Proof.Sourced
import Cobalt.Proof.Rate
