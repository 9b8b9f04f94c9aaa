/-
# Timers, events and user commands

The three periodic handlers and `event_handler` sweep the whole table. The
user commands hold the lock from entry to return except inside
`sched_sleep`, so each is modelled as the stretch of code up to its first
`sched_sleep` (or its return), plus a resumption that finishes the
`sched_sleep` and runs on to the next one. `TcpWait` records where a parked
call will continue.
-/

import MicroPs.Tcp.Arrive

namespace MicroPs.Tcp

open MicroPs.Platform

/-- Run `handle` on every slot that `visit` selects, in table order. -/
def TcpWorld.sweep (w : TcpWorld) (visit : TcpPcb → Bool) (handle : PcbRun → PcbRun) :
    TcpWorld :=
  (List.finRange 16).foldl (fun w i => if visit (w.pcbs i) then w.runOn i handle else w) w

/-- `tcp_retransmit_timer`: replay the queue of every PCB that is not `FREE`. -/
def tcpRetransmitTimer (now : Int) (w : TcpWorld) : TcpWorld :=
  w.sweep (fun pcb => pcb.state ≠ .free) (tcpRetransmitQueueEmitAll now)

/-- The body of `tcp_user_timeout` for one PCB: past thirty seconds since the
open, replay the queue and release. -/
def tcpUserTimeoutPcb (now : Int) (r : PcbRun) : PcbRun :=
  if tcpUserTimeoutTime ≤ (now - r.pcb.startTime) / 1000000 then
    tcpPcbRelease ((tcpRetransmitQueueEmitAll now r).setState .closed)
  else r

/-- `tcp_user_timeout`, which skips `FREE` and `TIME_WAIT` PCBs. -/
def tcpUserTimeout (now : Int) (w : TcpWorld) : TcpWorld :=
  w.sweep (fun pcb => pcb.state ≠ .free ∧ pcb.state ≠ .timeWait) (tcpUserTimeoutPcb now)

/-- The body of `tcp_time_wait_timeout` for one PCB in `TIME_WAIT`. -/
def tcpTimeWaitTimeoutPcb (now : Int) (r : PcbRun) : PcbRun :=
  if 2 * tcpMsl ≤ (now - r.pcb.timeWait) / 1000000 then tcpPcbRelease (r.setState .closed)
  else r

/-- `tcp_time_wait_timeout`. -/
def tcpTimeWaitTimeout (now : Int) (w : TcpWorld) : TcpWorld :=
  w.sweep (fun pcb => pcb.state = .timeWait) (tcpTimeWaitTimeoutPcb now)

/-- `event_handler`: interrupt the context of every PCB that is not `FREE`. -/
def tcpEventHandler (w : TcpWorld) : TcpWorld :=
  w.sweep (fun pcb => pcb.state ≠ .free)
    fun r => { r with pcb := { r.pcb with ctx := schedInterrupt r.pcb.ctx } }.wakeup

/-! ## User commands -/

/-- Where a call parked in `sched_sleep` will continue: the wait loop of
`tcp_open_rfc793` for the state it waits to leave, the send loop of
`tcp_send` with the bytes already sent, or `tcp_receive`. -/
inductive TcpWait
  | «open» (i : Fin 16) (state : TcpPcbState)
  | send (i : Fin 16) (data : List Byte) (sent : Nat)
  | receive (i : Fin 16) (size : Nat)
  deriving DecidableEq, Repr

/-- The PCB whose context a parked call waits on. -/
def TcpWait.slot : TcpWait → Fin 16
  | .open i _ | .send i _ _ | .receive i _ => i

/-- How a stretch of a user call ends: it returns a value (with the bytes
`tcp_receive` copied out), or it blocks in `sched_sleep`. -/
inductive TcpCallOutcome
  | ret (value : Int) (bytes : List Byte)
  | park (wait : TcpWait)
  deriving DecidableEq, Repr

/-- `sched_sleep` up to the wait, on slot `i`: `none` when it returns `-1` at
once. -/
def TcpWorld.sleepEnter (w : TcpWorld) (i : Fin 16) : Option TcpWorld :=
  (schedSleepEnter (w.pcbs i).ctx).map fun ctx => w.setPcb i { w.pcbs i with ctx }

theorem TcpWorld.sleepEnter_out {w w' : TcpWorld} {i : Fin 16} (h : w.sleepEnter i = some w') :
    w'.out = w.out := by
  obtain ⟨_, -, rfl⟩ := Option.map_eq_some'.mp h; rfl

/-- `sched_sleep` after the wait, on slot `i`, with its return value. -/
def TcpWorld.sleepLeave (w : TcpWorld) (i : Fin 16) : TcpWorld × Int :=
  let (ctx, ret) := schedSleepLeave (w.pcbs i).ctx
  (w.setPcb i { w.pcbs i with ctx }, ret)

/-- The failure exit of `tcp_open_rfc793`: `CLOSED`, release, `-1`. -/
def tcpOpenFail (i : Fin 16) (w : TcpWorld) : TcpWorld × TcpCallOutcome :=
  (w.runOn i fun r => tcpPcbRelease (r.setState .closed), .ret (-1) [])

/-- The `sched_sleep` of the wait loop of `tcp_open_rfc793`. -/
def tcpOpenSleep (i : Fin 16) (state : TcpPcbState) (w : TcpWorld) :
    TcpWorld × TcpCallOutcome :=
  match w.sleepEnter i with
  | none => tcpOpenFail i w
  | some w => (w, .park (.open i state))

/-- The wait loop of `tcp_open_rfc793` from `AGAIN:`, waiting for the state
to leave `state`; `SYN_RECEIVED` goes round again, `ESTABLISHED` returns the
slot index, anything else fails. -/
def tcpOpenWait (i : Fin 16) (state : TcpPcbState) (w : TcpWorld) : TcpWorld × TcpCallOutcome :=
  if (w.pcbs i).state = state then tcpOpenSleep i state w
  else if (w.pcbs i).state = .established then (w, .ret i [])
  else if (w.pcbs i).state = .synReceived then tcpOpenSleep i .synReceived w
  else tcpOpenFail i w

/-- Active `tcp_open_rfc793`: allocate, send a SYN from the ISS `iss`, enter
`SYN_SENT` and wait. `ipOk` is `ip_output`'s verdict on the SYN. -/
def tcpOpenActive (lcl frn : IpEndpoint) (iss : BitVec 32) (ipOk : Bool) (now : Int)
    (w : TcpWorld) : TcpWorld × TcpCallOutcome :=
  match tcpPcbAlloc w with
  | none => (w, .ret (-1) [])
  | some (i, w) =>
    let pcb := w.pcbs i
    let w := w.setPcb i { pcb with
      active := true, startTime := now, «local» := lcl, foreign := frn,
      rcv := { pcb.rcv with wnd := 16 }, iss }
    let w := w.runOn i (tcpOutput tcpFlgSyn [] now)
    if !ipOk then tcpOpenFail i w
    else
      let pcb := w.pcbs i
      tcpOpenWait i .synSent (w.setPcb i { pcb with
        snd := { pcb.snd with una := pcb.iss, nxt := pcb.iss + 1 }, state := .synSent })

/-- Passive `tcp_open_rfc793`: allocate, install the local endpoint (and the
foreign one if given), enter `LISTEN` and wait. -/
def tcpOpenPassive (lcl : IpEndpoint) (frn : Option IpEndpoint) (now : Int) (w : TcpWorld) :
    TcpWorld × TcpCallOutcome :=
  match tcpPcbAlloc w with
  | none => (w, .ret (-1) [])
  | some (i, w) =>
    let pcb := w.pcbs i
    tcpOpenWait i .listen (w.setPcb i { pcb with
      active := false, startTime := now, «local» := lcl, foreign := frn.getD pcb.foreign,
      state := .listen })

/-- `tcp_close`: send FIN|ACK from `ESTABLISHED` or `CLOSE_WAIT`. -/
def tcpClose (id : Int) (now : Int) (w : TcpWorld) : TcpWorld × TcpCallOutcome :=
  let finish (next : TcpPcbState) (r : PcbRun) : PcbRun :=
    let r₁ := (tcpOutput (tcpFlgAck ||| tcpFlgFin) [] now r).setState next
    { r₁ with pcb := { r₁.pcb with
      snd := { r₁.pcb.snd with nxt := r₁.pcb.snd.nxt + 1 } } }.wakeup
  match tcpPcbGet w.pcbs id with
  | none => (w, .ret (-1) [])
  | some i =>
    match (w.pcbs i).state with
    | .established => (w.runOn i (finish .finWait1), .ret 0 [])
    | .closeWait => (w.runOn i (finish .lastAck), .ret 0 [])
    | _ => (w, .ret (-1) [])

/-- The usable send window `snd.wnd - (snd.nxt - snd.una)`, in the 32-bit
unsigned arithmetic of the C expression. -/
def tcpSendCap (pcb : TcpPcb) : Nat :=
  (pcb.snd.wnd.setWidth 32 - (pcb.snd.nxt - pcb.snd.una)).toNat

/-- The `while (sent < len)` loop of `tcp_send`, with fuel for its
iterations. `ipOk k` is `ip_output`'s verdict on the `k`-th segment of this
stretch. -/
def tcpSendLoop (i : Fin 16) (data : List Byte) (mss : Nat) (ipOk : List Bool) (now : Int) :
    Nat → Nat → Nat → TcpWorld → TcpWorld × TcpCallOutcome
  | 0, sent, _, w => (w, .ret sent [])
  | fuel + 1, sent, k, w =>
    if sent < data.length then
      let cap := tcpSendCap (w.pcbs i)
      if cap = 0 then
        match w.sleepEnter i with
        | none => (w, .ret (if sent = 0 then -1 else sent) [])
        | some w => (w, .park (.send i data sent))
      else
        let slen := min (min mss (data.length - sent)) cap
        let w := w.runOn i (tcpOutput (tcpFlgAck ||| tcpFlgPsh) ((data.drop sent).take slen) now)
        if !ipOk.getD k true then
          (w.runOn i fun r => tcpPcbRelease (r.setState .closed), .ret (-1) [])
        else
          let pcb := w.pcbs i
          tcpSendLoop i data mss ipOk now fuel (sent + slen) (k + 1)
            (w.setPcb i
              { pcb with snd := { pcb.snd with nxt := pcb.snd.nxt + BitVec.ofNat 32 slen } })
    else (w, .ret sent [])

/-- The environment of the send path: the MTU of the device that
`ip_route_get_iface` picks for a destination, if there is a route. Every
device of this stack has an MTU well above the forty bytes of IP and TCP
headers (`UINT16_MAX` for loopback and dummy, 1500 for Ethernet). Without a
route the lookup answers `none` and `tcp_send` returns `-1`, where the real
`ip_route_get_iface` faults (`MicroPs.Net.ipRouteLookup_faults_without_route`). -/
structure TcpRoutes where
  mtu : BitVec 32 → Option (BitVec 16)
  mtu_gt : ∀ dst m, mtu dst = some m → 40 < m.toNat

/-- `tcp_send` from its `RETRY:` label with `sent` bytes already sent. -/
def tcpSendRetry (routes : TcpRoutes) (i : Fin 16) (data : List Byte) (sent : Nat)
    (ipOk : List Bool) (now : Int) (w : TcpWorld) : TcpWorld × TcpCallOutcome :=
  match (w.pcbs i).state with
  | .established | .closeWait =>
    match routes.mtu (w.pcbs i).foreign.addr with
    | none => (w, .ret (-1) [])
    | some mtu => tcpSendLoop i data (mtu.toNat - 40) ipOk now (data.length + 1) sent 0 w
  | _ => (w, .ret (-1) [])

/-- `tcp_send`. -/
def tcpSend (routes : TcpRoutes) (id : Int) (data : List Byte) (ipOk : List Bool) (now : Int)
    (w : TcpWorld) : TcpWorld × TcpCallOutcome :=
  match tcpPcbGet w.pcbs id with
  | none => (w, .ret (-1) [])
  | some i => tcpSendRetry routes i data 0 ipOk now w

/-- The first `len` bytes of the buffer, as `memcpy(buf, pcb->buf, len)`
reads them. -/
def tcpBufTake (buf : Fin 16 → Byte) (len : Nat) : List Byte :=
  (List.range len).map fun k => if h : k < 16 then buf ⟨k, h⟩ else 0

/-- `memmove(pcb->buf, pcb->buf + len, remain - len)`. -/
def tcpBufShift (buf : Fin 16 → Byte) (len remain : Nat) : Fin 16 → Byte :=
  fun k =>
    if h : k.val + len < 16 ∧ k.val < remain - len then buf ⟨k.val + len, h.1⟩ else buf k

/-- The buffered byte count `sizeof(pcb->buf) - rcv.wnd`, in the 64-bit
unsigned arithmetic of `size_t`. -/
def tcpRemain (pcb : TcpPcb) : Nat := ((tcpBufSize - pcb.rcv.wnd.toNat : Int) % 2 ^ 64).toNat

/-- The copy-out of `tcp_receive`. -/
def tcpReceiveCopy (i : Fin 16) (size remain : Nat) (w : TcpWorld) : TcpWorld × TcpCallOutcome :=
  let pcb := w.pcbs i
  let len := min size remain
  (w.setPcb i { pcb with
      buf := tcpBufShift pcb.buf len remain,
      rcv := { pcb.rcv with wnd := pcb.rcv.wnd + BitVec.ofNat 16 len } },
    .ret len (tcpBufTake pcb.buf len))

/-- `tcp_receive` from its `RETRY_RECEIVE:` label. -/
def tcpReceiveRetry (i : Fin 16) (size : Nat) (w : TcpWorld) : TcpWorld × TcpCallOutcome :=
  let remain := tcpRemain (w.pcbs i)
  match (w.pcbs i).state with
  | .established =>
    if remain = 0 then
      match w.sleepEnter i with
      | none => (w, .ret (-1) [])
      | some w => (w, .park (.receive i size))
    else tcpReceiveCopy i size remain w
  | .closeWait => if remain = 0 then (w, .ret 0 []) else tcpReceiveCopy i size remain w
  | _ => (w, .ret (-1) [])

/-- `tcp_receive`. -/
def tcpReceive (id : Int) (size : Nat) (w : TcpWorld) : TcpWorld × TcpCallOutcome :=
  match tcpPcbGet w.pcbs id with
  | none => (w, .ret (-1) [])
  | some i => tcpReceiveRetry i size w

/-- A parked call continues after its wait returned: finish `sched_sleep`,
then take the exit for `-1` or go round the call's loop again. -/
def tcpResume (routes : TcpRoutes) (ipOk : List Bool) (now : Int) (wait : TcpWait)
    (w : TcpWorld) : TcpWorld × TcpCallOutcome :=
  let (w, ret) := w.sleepLeave wait.slot
  match wait with
  | .open i state => if ret = -1 then tcpOpenFail i w else tcpOpenWait i state w
  | .send i data sent =>
    if ret = -1 then (w, .ret (if sent = 0 then -1 else sent) [])
    else tcpSendRetry routes i data sent ipOk now w
  | .receive i size => if ret = -1 then (w, .ret (-1) []) else tcpReceiveRetry i size w

end MicroPs.Tcp
