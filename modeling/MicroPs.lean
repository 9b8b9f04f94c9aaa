import MicroPs.Platform.Sched
import MicroPs.Platform.Intr
import MicroPs.Tcp.Pcb
import MicroPs.Tcp.Output
import MicroPs.Tcp.Arrive
import MicroPs.Tcp.User
import MicroPs.Tcp.System
import MicroPs.Tcp.Window
import MicroPs.Tcp.Retransmit
import MicroPs.Tcp.Wakeup
import MicroPs.Tcp.Endpoints
import MicroPs.Tcp.Pair
import MicroPs.Tcp.SeqShift
import MicroPs.Tcp.Send
import MicroPs.Tcp.Reset
import MicroPs.Tcp.Accept
import MicroPs.Tcp.Stream
import MicroPs.Tcp.Timers
import MicroPs.Tcp.Handshake
import MicroPs.Tcp.Close
import MicroPs.Udp.Pcb
import MicroPs.Udp.Bind
import MicroPs.Udp.Recv
import MicroPs.Arp.Cache
import MicroPs.Arp.Race
import MicroPs.Arp.Input
import MicroPs.Arp.Origin
import MicroPs.Arp.Exchange
import MicroPs.Net.Protocol
import MicroPs.Net.Loopback
import MicroPs.Net.Timer
import MicroPs.Net.Output
import MicroPs.Net.Worker
import MicroPs.Net.Stack
import MicroPs.Net.Init
import MicroPs.Net.Bytes
import MicroPs.Net.Ip
import MicroPs.Net.Wire
import MicroPs.Net.Locks
import MicroPs.Net.Addr
import MicroPs.Net.Route
import MicroPs.Tcp.Transfer
