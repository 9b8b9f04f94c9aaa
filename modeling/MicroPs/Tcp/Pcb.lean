/-
# TCP protocol control blocks

The data of tcp.c: the flag bits, the connection states, the PCB record with
its send and receive variables, the fixed receive buffer and the
retransmission queue, and the table of sixteen PCBs. Sequence numbers, windows
and flags keep their C widths as bit vectors, so every wrap the code performs
is performed here too; timestamps are microseconds.

Retransmission entries carry the address `memory_alloc` gave them, and the
allocator's set of live addresses is kept beside the table, so that leaks and
double frees are visible in the state.
-/

import MicroPs.Platform.Sched
import Mathlib.Data.List.FinRange

namespace MicroPs.Tcp

open MicroPs.Platform

/-- A byte of payload. -/
abbrev Byte := BitVec 8

/-- `struct ip_endpoint`: address and port, both in network byte order. -/
structure IpEndpoint where
  addr : BitVec 32
  port : BitVec 16
  deriving DecidableEq, Repr

/-- `IP_ADDR_ANY`. -/
def ipAddrAny : BitVec 32 := 0

/-- `IP_ADDR_BROADCAST`. -/
def ipAddrBroadcast : BitVec 32 := 0xffffffff

/-- `TCP_FLG_FIN`. -/
def tcpFlgFin : Byte := 0x01
/-- `TCP_FLG_SYN`. -/
def tcpFlgSyn : Byte := 0x02
/-- `TCP_FLG_RST`. -/
def tcpFlgRst : Byte := 0x04
/-- `TCP_FLG_PSH`. -/
def tcpFlgPsh : Byte := 0x08
/-- `TCP_FLG_ACK`. -/
def tcpFlgAck : Byte := 0x10

/-- `TCP_FLG_ISSET(x, y)`: some bit of `y` is set among the low six of `x`. -/
def tcpFlgIsset (x y : Byte) : Bool := (x &&& 0x3f &&& y) != 0

/-- The `TCP_PCB_STATE_*` constants, in their numeric order. -/
inductive TcpPcbState
  | free | closed | listen | synSent | synReceived | established
  | finWait1 | finWait2 | closing | timeWait | closeWait | lastAck
  deriving DecidableEq, Repr

/-- `TCP_DEFAULT_RTO`, in microseconds. -/
def tcpDefaultRto : BitVec 32 := 200000

/-- `TCP_RETRANSMIT_DEADLINE`, in seconds. -/
def tcpRetransmitDeadline : Int := 12

/-- `TCP_USER_TIMEOUT_TIME`, in seconds. -/
def tcpUserTimeoutTime : Int := 30

/-- `TCP_MSL`, in seconds. -/
def tcpMsl : Int := 120

/-- `struct tcp_segment_info` as `tcp_input` fills it; `up` is never read. -/
structure TcpSegmentInfo where
  seq : BitVec 32
  ack : BitVec 32
  len : BitVec 16
  wnd : BitVec 16
  deriving DecidableEq, Repr

/-- `struct tcp_queue_entry`. `addr` is the address `memory_alloc` returned. -/
structure TcpQueueEntry where
  first : Int
  last : Int
  rto : BitVec 32
  seq : BitVec 32
  flg : Byte
  data : List Byte
  addr : Nat
  deriving DecidableEq, Repr

/-- The send variables `snd.{nxt, una, wnd, wl1, wl2}`; `up` is never used. -/
structure TcpSnd where
  nxt : BitVec 32
  una : BitVec 32
  wnd : BitVec 16
  wl1 : BitVec 32
  wl2 : BitVec 32
  deriving DecidableEq, Repr

/-- The receive variables `rcv.{nxt, wnd}`; `up` is never used. -/
structure TcpRcv where
  nxt : BitVec 32
  wnd : BitVec 16
  deriving DecidableEq, Repr

/-- `sizeof(pcb->buf)`. -/
def tcpBufSize : Nat := 16

/-- `struct tcp_pcb`. The `mtu` and `mss` fields are never read or written by
tcp.c and are left out. -/
structure TcpPcb where
  active : Bool
  state : TcpPcbState
  «local» : IpEndpoint
  foreign : IpEndpoint
  snd : TcpSnd
  iss : BitVec 32
  rcv : TcpRcv
  irs : BitVec 32
  startTime : Int
  timeWait : Int
  buf : Fin 16 → Byte
  ctx : SchedCtx
  queue : List TcpQueueEntry

/-- A PCB after `memset(pcb, 0, sizeof(*pcb))`: state `FREE`, every number
zero, the queue head null. -/
def TcpPcb.zero : TcpPcb where
  active := false
  state := .free
  «local» := ⟨0, 0⟩
  foreign := ⟨0, 0⟩
  snd := ⟨0, 0, 0, 0, 0⟩
  iss := 0
  rcv := ⟨0, 0⟩
  irs := 0
  startTime := 0
  timeWait := 0
  buf := fun _ => 0
  ctx := ⟨false, 0⟩
  queue := []

/-- The allocator as the retransmission queue sees it: addresses handed out
by `memory_alloc` and not yet returned to `memory_free`, and the next fresh
address. -/
structure TcpHeap where
  live : List Nat
  next : Nat
  deriving DecidableEq, Repr

/-- `memory_alloc` of one entry. -/
def TcpHeap.alloc (h : TcpHeap) : TcpHeap := ⟨h.next :: h.live, h.next + 1⟩

/-- `memory_free` of one entry. -/
def TcpHeap.free (h : TcpHeap) (addr : Nat) : TcpHeap := { h with live := h.live.erase addr }

/-- What `tcp_output_segment` hands to `ip_output`: every header field it
sets, the payload, and the two endpoints of the pseudo header. -/
structure TcpSegment where
  seq : BitVec 32
  ack : BitVec 32
  flg : Byte
  wnd : BitVec 16
  data : List Byte
  «local» : IpEndpoint
  foreign : IpEndpoint
  deriving DecidableEq, Repr

/-- A handler working on one PCB: the PCB, the allocator, the segments handed
to `ip_output` so far, and whether `sched_wakeup` or `sched_interrupt` was
called on the PCB's context. -/
structure PcbRun where
  pcb : TcpPcb
  heap : TcpHeap
  out : List TcpSegment
  woken : Bool

/-- `tcp_pcb_release` in a handler whose `sched_ctx_destroy` returns, that is,
with no task blocked on the PCB's context and not signalled. The test
`sched_ctx_destroy(...) == -1` is meant to keep a PCB that tasks still wait
on; the call returns `0`, and the model keeps the test as written. Whether it
returns at all depends on the tasks, which the stack as a whole knows
(`TcpSystem.Hangs`). -/
def tcpPcbRelease (r : PcbRun) : PcbRun :=
  if schedCtxDestroy false = some (-1) then { r with woken := true }
  else { r with pcb := TcpPcb.zero }

@[simp] theorem tcpPcbRelease_pcb (r : PcbRun) : (tcpPcbRelease r).pcb = TcpPcb.zero := by
  simp [tcpPcbRelease, schedCtxDestroy_ne_neg_one]

@[simp] theorem tcpPcbRelease_heap (r : PcbRun) : (tcpPcbRelease r).heap = r.heap := by
  unfold tcpPcbRelease; split <;> rfl

@[simp] theorem tcpPcbRelease_out (r : PcbRun) : (tcpPcbRelease r).out = r.out := by
  unfold tcpPcbRelease; split <;> rfl

@[simp] theorem tcpPcbRelease_woken (r : PcbRun) : (tcpPcbRelease r).woken = r.woken := by
  simp [tcpPcbRelease, schedCtxDestroy_ne_neg_one]

/-- The PCB table `pcbs[TCP_PCB_SIZE]` with the allocator, and what the
running handler has done so far: segments handed to `ip_output`, and the
slots whose context it broadcast on. -/
structure TcpWorld where
  pcbs : Fin 16 → TcpPcb
  heap : TcpHeap
  out : List TcpSegment
  woken : List (Fin 16)

/-- The table before any call: every slot zero. -/
def TcpWorld.init : TcpWorld := ⟨fun _ => TcpPcb.zero, ⟨[], 0⟩, [], []⟩

/-- Replace one slot. -/
def TcpWorld.setPcb (w : TcpWorld) (i : Fin 16) (pcb : TcpPcb) : TcpWorld :=
  { w with pcbs := Function.update w.pcbs i pcb }

@[simp] theorem TcpWorld.setPcb_pcbs_self (w : TcpWorld) (i : Fin 16) (pcb : TcpPcb) :
    (w.setPcb i pcb).pcbs i = pcb := by simp [setPcb]

@[simp] theorem TcpWorld.setPcb_pcbs_ne (w : TcpWorld) {i j : Fin 16} (pcb : TcpPcb)
    (h : j ≠ i) : (w.setPcb i pcb).pcbs j = w.pcbs j := by simp [setPcb, h]

/-- Run a one-PCB handler on slot `i` (the C code's `pcb` pointer) and record
its effects in the world. -/
def TcpWorld.runOn (w : TcpWorld) (i : Fin 16) (f : PcbRun → PcbRun) : TcpWorld :=
  let r := f ⟨w.pcbs i, w.heap, [], false⟩
  { pcbs := Function.update w.pcbs i r.pcb, heap := r.heap, out := w.out ++ r.out,
    woken := if r.woken then w.woken ++ [i] else w.woken }

@[simp] theorem TcpWorld.runOn_pcbs_self (w : TcpWorld) (i : Fin 16) (f : PcbRun → PcbRun) :
    (w.runOn i f).pcbs i = (f ⟨w.pcbs i, w.heap, [], false⟩).pcb := by simp [runOn]

@[simp] theorem TcpWorld.runOn_pcbs_ne (w : TcpWorld) {i j : Fin 16} (f : PcbRun → PcbRun)
    (h : j ≠ i) : (w.runOn i f).pcbs j = w.pcbs j := by simp [runOn, h]

@[simp] theorem TcpWorld.runOn_out (w : TcpWorld) (i : Fin 16) (f : PcbRun → PcbRun) :
    (w.runOn i f).out = w.out ++ (f ⟨w.pcbs i, w.heap, [], false⟩).out := rfl

@[simp] theorem TcpWorld.setPcb_out (w : TcpWorld) (i : Fin 16) (pcb : TcpPcb) :
    (w.setPcb i pcb).out = w.out := rfl

/-- `tcp_pcb_alloc`: the first `FREE` slot becomes `CLOSED` with a fresh
context. -/
def tcpPcbAlloc (w : TcpWorld) : Option (Fin 16 × TcpWorld) :=
  match (List.finRange 16).find? (fun i => (w.pcbs i).state = .free) with
  | none => none
  | some i => some (i, w.setPcb i { w.pcbs i with state := .closed, ctx := schedCtxInit })

/-- The loop of `tcp_pcb_select` from slot `rest` on, with the `LISTEN`
candidate found so far. -/
def tcpPcbSelectLoop (pcbs : Fin 16 → TcpPcb) (lcl : IpEndpoint) (frn : Option IpEndpoint) :
    List (Fin 16) → Option (Fin 16) → Option (Fin 16)
  | [], listenPcb => listenPcb
  | i :: rest, listenPcb =>
    let pcb := pcbs i
    if (pcb.local.addr = ipAddrAny ∨ pcb.local.addr = lcl.addr) ∧ pcb.local.port = lcl.port then
      match frn with
      | none => some i
      | some f =>
        if pcb.foreign.addr = f.addr ∧ pcb.foreign.port = f.port then some i
        else if pcb.state = .listen ∧ pcb.foreign.addr = ipAddrAny ∧ pcb.foreign.port = 0 then
          tcpPcbSelectLoop pcbs lcl frn rest (some i)
        else tcpPcbSelectLoop pcbs lcl frn rest listenPcb
    else tcpPcbSelectLoop pcbs lcl frn rest listenPcb

/-- `tcp_pcb_select`: an exact match wins at once, otherwise the last
`LISTEN` PCB with a wildcard foreign endpoint. -/
def tcpPcbSelect (pcbs : Fin 16 → TcpPcb) (lcl : IpEndpoint) (frn : Option IpEndpoint) :
    Option (Fin 16) :=
  tcpPcbSelectLoop pcbs lcl frn (List.finRange 16) none

/-- `tcp_pcb_get`: an index in range whose slot is not `FREE`. -/
def tcpPcbGet (pcbs : Fin 16 → TcpPcb) (id : Int) : Option (Fin 16) :=
  if h : 0 ≤ id ∧ id < 16 then
    let i : Fin 16 := ⟨id.toNat, by omega⟩
    if (pcbs i).state = .free then none else some i
  else none

end MicroPs.Tcp
