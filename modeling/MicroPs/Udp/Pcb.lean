/-
# UDP protocol control blocks

The table of udp.c and the commands that read and write it: `udp_open`,
`udp_bind`, `udp_sendto` up to its call of `udp_output`, `udp_close`, and the
delivery step of `udp_input`. Every command runs under the UDP mutex; a
command's result says whether it returns still holding it. `udp_recvfrom`
only pops queue entries and is left out.

Ports are kept as the C code keeps them, in network byte order; the one
conversion the table code performs is `hton16` on the candidate source ports
of `udp_sendto`.
-/

import MicroPs.Tcp.Pcb
import MicroPs.Net.Bytes

namespace MicroPs.Udp

open MicroPs.Platform MicroPs.Tcp MicroPs.Net

/-- `UDP_PCB_STATE_*`. -/
inductive UdpPcbState
  | free
  | «open»
  | closing
  deriving DecidableEq, Repr

/-- `struct udp_queue_entry`: the sender's endpoint and the payload. -/
structure UdpQueueEntry where
  foreign : IpEndpoint
  data : List Byte
  deriving DecidableEq, Repr

/-- `struct udp_pcb`. -/
structure UdpPcb where
  state : UdpPcbState
  «local» : IpEndpoint
  queue : List UdpQueueEntry
  ctx : SchedCtx
  deriving DecidableEq, Repr

/-- A slot of the zero-initialised static table. -/
def UdpPcb.zero : UdpPcb := ⟨.free, ⟨0, 0⟩, [], ⟨false, 0⟩⟩

/-- The table `pcbs[UDP_PCB_SIZE]`. -/
abbrev UdpPcbs := Fin 16 → UdpPcb

/-- `udp_pcb_alloc`: the first `FREE` slot becomes `OPEN` with a fresh
context. Its binding is whatever the slot holds. -/
def udpPcbAlloc (pcbs : UdpPcbs) : Option (Fin 16 × UdpPcbs) :=
  match (List.finRange 16).find? (fun i => (pcbs i).state = .free) with
  | none => none
  | some i => some (i, Function.update pcbs i { pcbs i with state := .open, ctx := schedCtxInit })

/-- `udp_pcb_release` in a call whose `sched_ctx_destroy` returns, that is,
with no task blocked on the slot's context and not signalled. The test
`sched_ctx_destroy(...) == -1` is meant to keep a `CLOSING` PCB for the tasks
that wait on it; the call returns `0`. Whether it returns at all depends on
the tasks (`UdpRecvSystem.Hangs`). -/
def udpPcbRelease (pcb : UdpPcb) : UdpPcb :=
  let pcb := { pcb with state := .closing }
  if schedCtxDestroy false = some (-1) then pcb
  else { pcb with state := .free, «local» := ⟨ipAddrAny, 0⟩, queue := [] }

/-- The test of `udp_pcb_select` on one slot: `OPEN`, an address that one
side leaves open or both give alike, and the same port. -/
def UdpPcb.Matches (pcb : UdpPcb) (addr : BitVec 32) (port : BitVec 16) : Prop :=
  pcb.state = .open ∧
    (pcb.local.addr = ipAddrAny ∨ addr = ipAddrAny ∨ pcb.local.addr = addr) ∧
    pcb.local.port = port

instance (pcb : UdpPcb) (addr : BitVec 32) (port : BitVec 16) :
    Decidable (pcb.Matches addr port) :=
  inferInstanceAs (Decidable (_ ∧ _))

/-- `udp_pcb_select`: the first slot that matches. -/
def udpPcbSelect (pcbs : UdpPcbs) (addr : BitVec 32) (port : BitVec 16) : Option (Fin 16) :=
  (List.finRange 16).find? fun i => (pcbs i).Matches addr port

/-- `udp_pcb_get`: an index in range whose slot is `OPEN`. -/
def udpPcbGet (pcbs : UdpPcbs) (id : Int) : Option (Fin 16) :=
  if h : 0 ≤ id ∧ id < 16 then
    let i : Fin 16 := ⟨id.toNat, by omega⟩
    if (pcbs i).state = .open then some i else none
  else none

/-- How a command ends: it returns `value`, still holding the mutex if
`locked`; or `udp_sendto` unlocks and hands the datagram to `udp_output` with
the source endpoint it chose. -/
inductive UdpResult
  | exit (value : Int) (locked : Bool)
  | output (src dst : IpEndpoint)
  deriving DecidableEq, Repr

/-- `udp_open`. -/
def udpOpen (pcbs : UdpPcbs) : UdpPcbs × UdpResult :=
  match udpPcbAlloc pcbs with
  | none => (pcbs, .exit (-1) false)
  | some (i, pcbs) => (pcbs, .exit i false)

/-- `udp_close`. -/
def udpClose (pcbs : UdpPcbs) (id : Int) : UdpPcbs × UdpResult :=
  match udpPcbGet pcbs id with
  | none => (pcbs, .exit (-1) false)
  | some i => (Function.update pcbs i (udpPcbRelease (pcbs i)), .exit 0 false)

/-- `udp_bind`: refused while any `OPEN` slot, this one included, matches the
requested endpoint. -/
def udpBind (pcbs : UdpPcbs) (id : Int) (lcl : IpEndpoint) : UdpPcbs × UdpResult :=
  match udpPcbGet pcbs id with
  | none => (pcbs, .exit (-1) false)
  | some i =>
    match udpPcbSelect pcbs lcl.addr lcl.port with
    | some _ => (pcbs, .exit (-1) false)
    | none => (Function.update pcbs i { pcbs i with «local» := lcl }, .exit 0 false)

/-- `UDP_SOURCE_PORT_MIN` to `UDP_SOURCE_PORT_MAX`. -/
def udpSourcePorts : List Nat := List.range' 49152 16384

/-- The loop of `udp_sendto` that looks for a source port free for `addr`. -/
def udpSendtoPortLoop (pcbs : UdpPcbs) (addr : BitVec 32) : List Nat → Option (BitVec 16)
  | [] => none
  | p :: ps =>
    if udpPcbSelect pcbs addr (hton16 (BitVec.ofNat 16 p)) = none then
      some (hton16 (BitVec.ofNat 16 p))
    else udpSendtoPortLoop pcbs addr ps

/-- `udp_sendto` up to `udp_output`. `route dst` is the unicast address of
the interface `ip_route_get_iface` picks for `dst`, if any; without a route it
answers `none` and the call returns `-1`, where the real `ip_route_get_iface`
faults (`MicroPs.Net.ipRouteLookup_faults_without_route`). A PCB bound to the
wildcard address sends from that interface's address, and an unbound port is
chosen free for that address but stored beside the PCB's own address. Finding
no port returns without unlocking. -/
def udpSendto (route : BitVec 32 → Option (BitVec 32)) (pcbs : UdpPcbs) (id : Int)
    (foreign : IpEndpoint) : UdpPcbs × UdpResult :=
  match udpPcbGet pcbs id with
  | none => (pcbs, .exit (-1) false)
  | some i =>
    let pcb := pcbs i
    match (if pcb.local.addr = ipAddrAny then route foreign.addr else some pcb.local.addr) with
    | none => (pcbs, .exit (-1) false)
    | some addr =>
      if pcb.local.port = 0 then
        let pcb := match udpSendtoPortLoop pcbs addr udpSourcePorts with
          | none => pcb
          | some port => { pcb with «local» := { pcb.local with port } }
        let pcbs := Function.update pcbs i pcb
        if pcb.local.port = 0 then (pcbs, .exit (-1) true)
        else (pcbs, .output ⟨addr, pcb.local.port⟩ foreign)
      else (pcbs, .output ⟨addr, pcb.local.port⟩ foreign)

/-- The delivery step of `udp_input` for a datagram that passed its checks:
the entry goes to the queue of the slot `udp_pcb_select` finds for the
destination, and the slot's tasks are woken. -/
def udpInput (pcbs : UdpPcbs) (src dst : IpEndpoint) (data : List Byte) : UdpPcbs :=
  match udpPcbSelect pcbs dst.addr dst.port with
  | none => pcbs
  | some i => Function.update pcbs i { pcbs i with queue := (pcbs i).queue ++ [⟨src, data⟩] }

/-- What a run of the table can do next. -/
inductive UdpEvent
  | «open»
  | bind (id : Int) (lcl : IpEndpoint)
  | sendto (id : Int) (foreign : IpEndpoint)
  | close (id : Int)
  | input (src dst : IpEndpoint) (data : List Byte)
  deriving DecidableEq, Repr

/-- One event on the table. -/
def udpStep (route : BitVec 32 → Option (BitVec 32)) (pcbs : UdpPcbs) : UdpEvent → UdpPcbs
  | .open => (udpOpen pcbs).1
  | .bind id lcl => (udpBind pcbs id lcl).1
  | .sendto id foreign => (udpSendto route pcbs id foreign).1
  | .close id => (udpClose pcbs id).1
  | .input src dst data => udpInput pcbs src dst data

/-- A run of events from a table. -/
def udpRun (route : BitVec 32 → Option (BitVec 32)) (pcbs : UdpPcbs) (events : List UdpEvent) :
    UdpPcbs :=
  events.foldl (udpStep route) pcbs

end MicroPs.Udp
