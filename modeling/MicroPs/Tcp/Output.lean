/-
# Output and the retransmission queue

`tcp_output_segment` hands a segment to `ip_output`; `tcp_output` first
queues it for retransmission when it consumes sequence space. The queue is
trimmed by `tcp_retransmit_queue_cleanup` and replayed by
`tcp_retransmit_queue_emit`, which also gives up on a connection after the
retransmission deadline.
-/

import MicroPs.Tcp.Pcb

namespace MicroPs.Tcp

/-- `pcb->state = state`. -/
def PcbRun.setState (r : PcbRun) (state : TcpPcbState) : PcbRun :=
  { r with pcb := { r.pcb with state } }

/-- `sched_wakeup(&pcb->ctx)`. -/
def PcbRun.wakeup (r : PcbRun) : PcbRun := { r with woken := true }

@[simp] theorem PcbRun.setState_pcb_state (r : PcbRun) (state : TcpPcbState) :
    (r.setState state).pcb.state = state := rfl

@[simp] theorem PcbRun.setState_out (r : PcbRun) (state : TcpPcbState) :
    (r.setState state).out = r.out := rfl

/-- `tcp_output_segment`: the segment goes to `ip_output`, whatever
`ip_output` then answers. -/
def tcpOutputSegment (seq ack : BitVec 32) (flg : Byte) (wnd : BitVec 16) (data : List Byte)
    (lcl frn : IpEndpoint) (r : PcbRun) : PcbRun :=
  { r with out := r.out ++ [⟨seq, ack, flg, wnd, data, lcl, frn⟩] }

/-- `tcp_retransmit_queue_add`: a fresh entry, sent first and last at `now`
with the default timeout, goes to the tail of the queue. -/
def tcpRetransmitQueueAdd (seq : BitVec 32) (flg : Byte) (data : List Byte) (now : Int)
    (r : PcbRun) : PcbRun :=
  { r with
    pcb := { r.pcb with
      queue := r.pcb.queue ++ [⟨now, now, tcpDefaultRto, seq, flg, data, r.heap.next⟩] }
    heap := r.heap.alloc }

/-- The loop of `tcp_retransmit_queue_cleanup`: pop and free head entries
whose sequence number lies below `una`. -/
def tcpRetransmitQueueCleanupLoop (una : BitVec 32) :
    List TcpQueueEntry → TcpHeap → List TcpQueueEntry × TcpHeap
  | [], heap => ([], heap)
  | entry :: rest, heap =>
    if una ≤ entry.seq then (entry :: rest, heap)
    else tcpRetransmitQueueCleanupLoop una rest (heap.free entry.addr)

/-- `tcp_retransmit_queue_cleanup`. -/
def tcpRetransmitQueueCleanup (r : PcbRun) : PcbRun :=
  let (queue, heap) := tcpRetransmitQueueCleanupLoop r.pcb.snd.una r.pcb.queue r.heap
  { r with pcb := { r.pcb with queue }, heap }

/-- `tcp_retransmit_queue_emit` on one entry at clock reading `now`. Past the
deadline the connection is marked `CLOSED` and its waiters woken; once the
timeout has run out the entry is sent again with the current receive
variables and its timeout doubles. `timersub` yields whole seconds rounded
down, which is `Int` division by a positive divisor. -/
def tcpRetransmitQueueEmit (now : Int) (r : PcbRun) (entry : TcpQueueEntry) :
    PcbRun × TcpQueueEntry :=
  if tcpRetransmitDeadline ≤ (now - entry.first) / 1000000 then
    ((r.setState .closed).wakeup, entry)
  else if entry.last + entry.rto.toNat < now then
    (tcpOutputSegment entry.seq r.pcb.rcv.nxt entry.flg r.pcb.rcv.wnd entry.data
        r.pcb.local r.pcb.foreign r,
      { entry with last := now, rto := entry.rto * 2 })
  else (r, entry)

/-- `queue_foreach` over the retransmission queue with
`tcp_retransmit_queue_emit`. -/
def tcpRetransmitQueueEmitLoop (now : Int) :
    PcbRun → List TcpQueueEntry → PcbRun × List TcpQueueEntry
  | r, [] => (r, [])
  | r, entry :: rest =>
    let emitted := tcpRetransmitQueueEmit now r entry
    let later := tcpRetransmitQueueEmitLoop now emitted.1 rest
    (later.1, emitted.2 :: later.2)

/-- `tcp_retransmit_queue_emit_all`. -/
def tcpRetransmitQueueEmitAll (now : Int) (r : PcbRun) : PcbRun :=
  let emitted := tcpRetransmitQueueEmitLoop now r r.pcb.queue
  { emitted.1 with pcb := { emitted.1.pcb with queue := emitted.2 } }

/-- `tcp_output`: a segment with SYN carries `iss`, any other `snd.nxt`; one
that consumes sequence space is queued before it is sent. -/
def tcpOutput (flg : Byte) (data : List Byte) (now : Int) (r : PcbRun) : PcbRun :=
  let seq := if tcpFlgIsset flg tcpFlgSyn then r.pcb.iss else r.pcb.snd.nxt
  let r := if tcpFlgIsset flg (tcpFlgSyn ||| tcpFlgFin) || data.length != 0
    then tcpRetransmitQueueAdd seq flg data now r else r
  tcpOutputSegment seq r.pcb.rcv.nxt flg r.pcb.rcv.wnd data r.pcb.local r.pcb.foreign r

/-! ## What output leaves alone -/

@[simp] theorem tcpOutputSegment_pcb (seq ack : BitVec 32) (flg : Byte) (wnd : BitVec 16)
    (data : List Byte) (lcl frn : IpEndpoint) (r : PcbRun) :
    (tcpOutputSegment seq ack flg wnd data lcl frn r).pcb = r.pcb := rfl

@[simp] theorem tcpOutputSegment_woken (seq ack : BitVec 32) (flg : Byte) (wnd : BitVec 16)
    (data : List Byte) (lcl frn : IpEndpoint) (r : PcbRun) :
    (tcpOutputSegment seq ack flg wnd data lcl frn r).woken = r.woken := rfl

@[simp] theorem tcpOutputSegment_heap (seq ack : BitVec 32) (flg : Byte) (wnd : BitVec 16)
    (data : List Byte) (lcl frn : IpEndpoint) (r : PcbRun) :
    (tcpOutputSegment seq ack flg wnd data lcl frn r).heap = r.heap := rfl

section Frame

variable (flg : Byte) (data : List Byte) (now : Int) (r : PcbRun)

/-- `tcp_output` changes the PCB only through its queue. -/
theorem tcpOutput_pcb : ∃ queue, (tcpOutput flg data now r).pcb = { r.pcb with queue } := by
  unfold tcpOutput
  split <;> split <;> exact ⟨_, rfl⟩

@[simp] theorem tcpOutput_state : (tcpOutput flg data now r).pcb.state = r.pcb.state := by
  obtain ⟨q, h⟩ := tcpOutput_pcb flg data now r; rw [h]

@[simp] theorem tcpOutput_snd : (tcpOutput flg data now r).pcb.snd = r.pcb.snd := by
  obtain ⟨q, h⟩ := tcpOutput_pcb flg data now r; rw [h]

@[simp] theorem tcpOutput_rcv : (tcpOutput flg data now r).pcb.rcv = r.pcb.rcv := by
  obtain ⟨q, h⟩ := tcpOutput_pcb flg data now r; rw [h]

@[simp] theorem tcpOutput_buf : (tcpOutput flg data now r).pcb.buf = r.pcb.buf := by
  obtain ⟨q, h⟩ := tcpOutput_pcb flg data now r; rw [h]

@[simp] theorem tcpOutput_iss : (tcpOutput flg data now r).pcb.iss = r.pcb.iss := by
  obtain ⟨q, h⟩ := tcpOutput_pcb flg data now r; rw [h]

@[simp] theorem tcpOutput_irs : (tcpOutput flg data now r).pcb.irs = r.pcb.irs := by
  obtain ⟨q, h⟩ := tcpOutput_pcb flg data now r; rw [h]

@[simp] theorem tcpOutput_ctx : (tcpOutput flg data now r).pcb.ctx = r.pcb.ctx := by
  obtain ⟨q, h⟩ := tcpOutput_pcb flg data now r; rw [h]

@[simp] theorem tcpOutput_active : (tcpOutput flg data now r).pcb.active = r.pcb.active := by
  obtain ⟨q, h⟩ := tcpOutput_pcb flg data now r; rw [h]

@[simp] theorem tcpOutput_local : (tcpOutput flg data now r).pcb.local = r.pcb.local := by
  obtain ⟨q, h⟩ := tcpOutput_pcb flg data now r; rw [h]

@[simp] theorem tcpOutput_foreign : (tcpOutput flg data now r).pcb.foreign = r.pcb.foreign := by
  obtain ⟨q, h⟩ := tcpOutput_pcb flg data now r; rw [h]

@[simp] theorem tcpOutput_woken : (tcpOutput flg data now r).woken = r.woken := by
  unfold tcpOutput; split <;> split <;> rfl

/-- The one segment `tcp_output` hands down. -/
theorem tcpOutput_out : (tcpOutput flg data now r).out = r.out ++
    [⟨if tcpFlgIsset flg tcpFlgSyn then r.pcb.iss else r.pcb.snd.nxt, r.pcb.rcv.nxt, flg,
      r.pcb.rcv.wnd, data, r.pcb.local, r.pcb.foreign⟩] := by
  unfold tcpOutput; split <;> split <;> rfl

end Frame

/-- Cleanup changes the PCB only through its queue. -/
@[simp] theorem tcpRetransmitQueueCleanup_pcb (r : PcbRun) :
    (tcpRetransmitQueueCleanup r).pcb =
      { r.pcb with queue := (tcpRetransmitQueueCleanupLoop r.pcb.snd.una r.pcb.queue r.heap).1 } :=
  rfl

@[simp] theorem tcpRetransmitQueueCleanup_woken (r : PcbRun) :
    (tcpRetransmitQueueCleanup r).woken = r.woken := rfl

end MicroPs.Tcp
