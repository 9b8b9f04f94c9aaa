/-
# Segment arrival

`tcp_segment_arrives` follows RFC 793 section 3.9: a branch for `LISTEN`, a
branch for `SYN_SENT`, and for every other state a sequence of checks, each
of which may end the handler. Each check is one function here, ending in a
call of the next, so that an early `return` of the C code is simply a
branch that does not call on.

`tcp_input` is modelled from the parsed header on: it turns a segment on the
wire into the arguments of `tcp_segment_arrives`, or drops it for a
broadcast address.
-/

import MicroPs.Tcp.Output

namespace MicroPs.Tcp

/-- The arguments of `tcp_segment_arrives`, with the value a call of
`random()` would give if the handler draws an ISS, and the clock reading for
the timestamps it takes. -/
structure TcpArrival where
  seg : TcpSegmentInfo
  flags : Byte
  data : List Byte
  «local» : IpEndpoint
  foreign : IpEndpoint
  iss : BitVec 32
  now : Int

/-- `<SEQ=SEG.ACK><CTL=RST>`, sent to the segment's own endpoints. -/
def tcpResetReply (a : TcpArrival) (r : PcbRun) : PcbRun :=
  tcpOutputSegment a.seg.ack 0 tcpFlgRst 0 [] a.local a.foreign r

/-- The `LISTEN` branch. A SYN fixes both endpoints to the segment's, opens
the full window, draws an ISS and answers SYN|ACK. -/
def tcpSegmentArrivesListen (a : TcpArrival) (r : PcbRun) : PcbRun :=
  if tcpFlgIsset a.flags tcpFlgRst then r
  else if tcpFlgIsset a.flags tcpFlgAck then tcpResetReply a r
  else if tcpFlgIsset a.flags tcpFlgSyn then
    let r₁ := { r with pcb := { r.pcb with
      «local» := a.local, foreign := a.foreign,
      rcv := { r.pcb.rcv with wnd := 16, nxt := a.seg.seq + 1 },
      irs := a.seg.seq, iss := a.iss } }
    let r₂ := tcpOutput (tcpFlgSyn ||| tcpFlgAck) [] a.now r₁
    { r₂ with pcb := { r₂.pcb with
      snd := { r₂.pcb.snd with nxt := r₂.pcb.iss + 1, una := r₂.pcb.iss },
      state := .synReceived } }
  else r

/-- A SYN reaching a `SYN_SENT` PCB, once `rcv.nxt` and `irs` are set and an
acceptable ACK is taken: if our SYN is acknowledged the connection is
established and the send window initialised, otherwise it is a simultaneous
open. -/
def tcpSegmentArrivesSynSentSyn (a : TcpArrival) (r : PcbRun) : PcbRun :=
  if r.pcb.iss < r.pcb.snd.una then
    let r₁ := tcpOutput tcpFlgAck [] a.now (r.setState .established)
    { r₁ with pcb := { r₁.pcb with
      snd := { r₁.pcb.snd with wnd := a.seg.wnd, wl1 := a.seg.seq, wl2 := a.seg.ack } } }.wakeup
  else tcpOutput (tcpFlgSyn ||| tcpFlgAck) [] a.now (r.setState .synReceived)

/-- The `SYN_SENT` branch. An ACK outside `(iss, snd.nxt]` is answered with a
reset; any RST releases the PCB; a SYN completes the handshake when it
acknowledges our SYN, and otherwise is a simultaneous open. -/
def tcpSegmentArrivesSynSent (a : TcpArrival) (r : PcbRun) : PcbRun :=
  let hasAck := tcpFlgIsset a.flags tcpFlgAck
  if hasAck ∧ (a.seg.ack ≤ r.pcb.iss ∨ r.pcb.snd.nxt < a.seg.ack) then tcpResetReply a r
  else
    let acceptable := hasAck ∧ r.pcb.snd.una ≤ a.seg.ack ∧ a.seg.ack ≤ r.pcb.snd.nxt
    if tcpFlgIsset a.flags tcpFlgRst then tcpPcbRelease (r.setState .closed).wakeup
    else if tcpFlgIsset a.flags tcpFlgSyn then
      let r₁ := { r with pcb := { r.pcb with
        rcv := { r.pcb.rcv with nxt := a.seg.seq + 1 }, irs := a.seg.seq } }
      tcpSegmentArrivesSynSentSyn a (if acceptable then
          tcpRetransmitQueueCleanup
            { r₁ with pcb := { r₁.pcb with snd := { r₁.pcb.snd with una := a.seg.ack } } }
        else r₁)
    else r

/-- First check, the sequence number: does the segment fall in the receive
window? Only the six states listed in the C `switch` can pass. -/
def tcpSegmentAcceptable (pcb : TcpPcb) (seg : TcpSegmentInfo) : Bool :=
  match pcb.state with
  | .synReceived | .established | .finWait1 | .finWait2 | .closeWait | .lastAck =>
    let wndEnd := pcb.rcv.nxt + pcb.rcv.wnd.setWidth 32
    if seg.len = 0 then
      if pcb.rcv.wnd = 0 then seg.seq = pcb.rcv.nxt
      else pcb.rcv.nxt ≤ seg.seq ∧ seg.seq < wndEnd
    else
      if pcb.rcv.wnd = 0 then false
      else
        let last := seg.seq + seg.len.setWidth 32 - 1
        (pcb.rcv.nxt ≤ seg.seq ∧ seg.seq < wndEnd) ∨ (pcb.rcv.nxt ≤ last ∧ last < wndEnd)
  | _ => false

/-- `memcpy(pcb->buf + off, data, len)`, for the bytes that land inside the
sixteen-byte buffer. -/
def tcpBufCopy (buf : Fin 16 → Byte) (off : Int) (data : List Byte) : Fin 16 → Byte :=
  fun k => if off ≤ (k.val : Int) ∧ (k.val : Int) < off + data.length then
    data.getD ((k.val : Int) - off).toNat 0 else buf k

/-- The offset at which the text step copies: `sizeof(pcb->buf) - rcv.wnd`. -/
def tcpTextOffset (pcb : TcpPcb) : Int := tcpBufSize - pcb.rcv.wnd.toNat

/-- The state change of the FIN step, once the FIN is acknowledged. -/
def tcpSegmentArrivesFinState (a : TcpArrival) (r : PcbRun) : PcbRun :=
  match r.pcb.state with
  | .synReceived | .established => (r.setState .closeWait).wakeup
  | .finWait1 =>
    if a.seg.ack = r.pcb.snd.nxt then
      { r with pcb := { r.pcb with state := .timeWait, timeWait := a.now } }
    else r.setState .closing
  | .finWait2 => { r with pcb := { r.pcb with state := .timeWait, timeWait := a.now } }
  | _ => r

/-- Eighth check, the FIN bit. -/
def tcpSegmentArrivesFin (a : TcpArrival) (r : PcbRun) : PcbRun :=
  if !tcpFlgIsset a.flags tcpFlgFin then r
  else match r.pcb.state with
  | .closed | .listen | .synSent => r
  | _ =>
    tcpSegmentArrivesFinState a (tcpOutput tcpFlgAck [] a.now
      { r with pcb := { r.pcb with rcv := { r.pcb.rcv with nxt := a.seg.seq + 1 } } })

/-- Seventh check, the segment text: in `ESTABLISHED` the payload is copied
behind the buffered bytes, `rcv.nxt` moves to the end of the segment, the
window shrinks, and an ACK goes out. -/
def tcpSegmentArrivesText (a : TcpArrival) (r : PcbRun) : PcbRun :=
  if r.pcb.state = .established ∧ a.data ≠ [] then
    let r₁ := { r with pcb := { r.pcb with
      buf := tcpBufCopy r.pcb.buf (tcpTextOffset r.pcb) a.data,
      rcv := { nxt := a.seg.seq + a.seg.len.setWidth 32,
               wnd := r.pcb.rcv.wnd - BitVec.ofNat 16 a.data.length } } }
    tcpSegmentArrivesFin a (tcpOutput tcpFlgAck [] a.now r₁).wakeup
  else tcpSegmentArrivesFin a r

/-- The window update of an acceptable ACK, taken from a segment newer than
the last update. It assigns `snd.wl2` twice, as the source does, and never
`snd.wl1`. -/
def tcpSegmentArrivesWindowUpdate (a : TcpArrival) (r : PcbRun) : PcbRun :=
  if r.pcb.snd.wl1 < a.seg.seq ∨ (r.pcb.snd.wl1 = a.seg.seq ∧ r.pcb.snd.wl2 ≤ a.seg.ack) then
    let snd := { r.pcb.snd with wnd := a.seg.wnd, wl2 := a.seg.seq }
    { r with pcb := { r.pcb with snd := { snd with wl2 := a.seg.ack } } }
  else r

/-- An ACK of new data: `snd.una` moves to it, the retransmission queue is
cleaned up, and the send window may be updated. -/
def tcpSegmentArrivesAckNew (a : TcpArrival) (r : PcbRun) : PcbRun :=
  tcpSegmentArrivesWindowUpdate a
    (tcpRetransmitQueueCleanup
      { r with pcb := { r.pcb with snd := { r.pcb.snd with una := a.seg.ack } } })

/-- The end of the acknowledgment block: a `FIN_WAIT_1` PCB whose FIN is
acknowledged enters `FIN_WAIT_2`; then the text step. -/
def tcpSegmentArrivesAckDone (a : TcpArrival) (r : PcbRun) : PcbRun :=
  tcpSegmentArrivesText a
    (if r.pcb.state = .finWait1 ∧ a.seg.ack = r.pcb.snd.nxt then r.setState .finWait2 else r)

/-- The acknowledgment block shared by `ESTABLISHED`, `FIN_WAIT_1`,
`FIN_WAIT_2` and `CLOSE_WAIT`: an ACK beyond `snd.nxt` is answered and the
segment dropped. -/
def tcpSegmentArrivesAckUpdate (a : TcpArrival) (r : PcbRun) : PcbRun :=
  if r.pcb.snd.una < a.seg.ack ∧ a.seg.ack ≤ r.pcb.snd.nxt then
    tcpSegmentArrivesAckDone a (tcpSegmentArrivesAckNew a r)
  else if a.seg.ack < r.pcb.snd.una then tcpSegmentArrivesAckDone a r
  else if r.pcb.snd.nxt < a.seg.ack then tcpOutput tcpFlgAck [] a.now r
  else tcpSegmentArrivesAckDone a r

section AckFrame

variable (a : TcpArrival) (r : PcbRun)

/-- The acknowledgment of new data changes the PCB only in its send
variables and its queue, and sets `snd.una` to the acknowledgment number. -/
theorem tcpSegmentArrivesAckNew_pcb :
    ∃ snd queue, (tcpSegmentArrivesAckNew a r).pcb = { r.pcb with snd, queue } ∧
      snd.una = a.seg.ack := by
  unfold tcpSegmentArrivesAckNew tcpSegmentArrivesWindowUpdate
  split <;> exact ⟨_, _, rfl, rfl⟩

@[simp] theorem tcpSegmentArrivesAckNew_state :
    (tcpSegmentArrivesAckNew a r).pcb.state = r.pcb.state := by
  obtain ⟨_, _, h, -⟩ := tcpSegmentArrivesAckNew_pcb a r; rw [h]

@[simp] theorem tcpSegmentArrivesAckNew_rcv :
    (tcpSegmentArrivesAckNew a r).pcb.rcv = r.pcb.rcv := by
  obtain ⟨_, _, h, -⟩ := tcpSegmentArrivesAckNew_pcb a r; rw [h]

@[simp] theorem tcpSegmentArrivesAckNew_buf :
    (tcpSegmentArrivesAckNew a r).pcb.buf = r.pcb.buf := by
  obtain ⟨_, _, h, -⟩ := tcpSegmentArrivesAckNew_pcb a r; rw [h]

@[simp] theorem tcpSegmentArrivesAckNew_una :
    (tcpSegmentArrivesAckNew a r).pcb.snd.una = a.seg.ack := by
  obtain ⟨_, _, h, hu⟩ := tcpSegmentArrivesAckNew_pcb a r; rw [h, hu]

@[simp] theorem tcpSegmentArrivesAckNew_woken : (tcpSegmentArrivesAckNew a r).woken = r.woken := by
  unfold tcpSegmentArrivesAckNew tcpSegmentArrivesWindowUpdate
  split <;> rfl

/-- Outside `FIN_WAIT_1` the end of the acknowledgment block is the text
step. -/
theorem tcpSegmentArrivesAckDone_of_ne (h : r.pcb.state ≠ .finWait1) :
    tcpSegmentArrivesAckDone a r = tcpSegmentArrivesText a r := by
  simp [tcpSegmentArrivesAckDone, h]

end AckFrame

/-- Fifth check, the ACK field. -/
def tcpSegmentArrivesAck (a : TcpArrival) (r : PcbRun) : PcbRun :=
  if !tcpFlgIsset a.flags tcpFlgAck then r
  else match r.pcb.state with
  | .synReceived =>
    if r.pcb.snd.una ≤ a.seg.ack ∧ a.seg.ack ≤ r.pcb.snd.nxt then
      tcpSegmentArrivesAckUpdate a (r.setState .established).wakeup
    else tcpResetReply a r
  | .established | .finWait1 | .finWait2 | .closeWait => tcpSegmentArrivesAckUpdate a r
  | .lastAck =>
    if a.seg.ack = r.pcb.snd.nxt then tcpPcbRelease (r.setState .closed) else r
  | _ => tcpSegmentArrivesText a r

/-- Fourth check, the SYN bit: in a synchronized state it ends the
connection. -/
def tcpSegmentArrivesSyn (a : TcpArrival) (r : PcbRun) : PcbRun :=
  if tcpFlgIsset a.flags tcpFlgSyn then
    match r.pcb.state with
    | .synReceived | .established | .finWait1 | .finWait2 | .closeWait | .closing
    | .lastAck | .timeWait =>
      tcpPcbRelease ((tcpRetransmitQueueEmitAll a.now r).setState .closed)
    | _ => tcpSegmentArrivesAck a r
  else tcpSegmentArrivesAck a r

/-- Second check, the RST bit. A passive PCB in `SYN_RECEIVED` goes back to
`LISTEN`; everywhere else the connection is released. -/
def tcpSegmentArrivesRst (a : TcpArrival) (r : PcbRun) : PcbRun :=
  if tcpFlgIsset a.flags tcpFlgRst then
    match r.pcb.state with
    | .synReceived =>
      if r.pcb.active then tcpPcbRelease (r.setState .closed) else r.setState .listen
    | .established | .finWait1 | .finWait2 | .closeWait =>
      tcpPcbRelease ((tcpRetransmitQueueEmitAll a.now r).setState .closed)
    | .closing | .lastAck | .timeWait => tcpPcbRelease (r.setState .closed)
    | _ => tcpSegmentArrivesSyn a r
  else tcpSegmentArrivesSyn a r

/-- Every state past `SYN_SENT`: an unacceptable segment is answered with a
bare ACK (unless it is a reset) and dropped. -/
def tcpSegmentArrivesOther (a : TcpArrival) (r : PcbRun) : PcbRun :=
  if tcpSegmentAcceptable r.pcb a.seg then tcpSegmentArrivesRst a r
  else if tcpFlgIsset a.flags tcpFlgRst then r
  else tcpOutput tcpFlgAck [] a.now r

/-- `tcp_segment_arrives` on the PCB it selected. -/
def tcpSegmentArrivesPcb (a : TcpArrival) (r : PcbRun) : PcbRun :=
  match r.pcb.state with
  | .listen => tcpSegmentArrivesListen a r
  | .synSent => tcpSegmentArrivesSynSent a r
  | _ => tcpSegmentArrivesOther a r

/-- The answer when no PCB, or a `CLOSED` one, is selected. -/
def tcpSegmentArrivesClosed (a : TcpArrival) (w : TcpWorld) : TcpWorld :=
  if tcpFlgIsset a.flags tcpFlgRst then w
  else if !tcpFlgIsset a.flags tcpFlgAck then
    { w with out := w.out ++
      [⟨0, a.seg.seq + a.seg.len.setWidth 32, tcpFlgRst ||| tcpFlgAck, 0, [], a.local,
        a.foreign⟩] }
  else { w with out := w.out ++ [⟨a.seg.ack, 0, tcpFlgRst, 0, [], a.local, a.foreign⟩] }

/-- `tcp_segment_arrives`. -/
def tcpSegmentArrives (a : TcpArrival) (w : TcpWorld) : TcpWorld :=
  match tcpPcbSelect w.pcbs a.local (some a.foreign) with
  | none => tcpSegmentArrivesClosed a w
  | some i =>
    if (w.pcbs i).state = .closed then tcpSegmentArrivesClosed a w
    else w.runOn i (tcpSegmentArrivesPcb a)

/-- `seg.len` as `tcp_input` computes it in 16 bits: the payload length, plus
one for SYN and one for FIN. -/
def tcpSegLen (flg : Byte) (data : List Byte) : BitVec 16 :=
  BitVec.ofNat 16 data.length + (if tcpFlgIsset flg tcpFlgSyn then 1 else 0)
    + (if tcpFlgIsset flg tcpFlgFin then 1 else 0)

/-- `tcp_input` after the header is parsed: a segment sent from `seg.local` to
`seg.foreign` arrives with the two endpoints swapped. Segments from or to the
broadcast address are dropped. -/
def tcpInputArrival (seg : TcpSegment) (iss : BitVec 32) (now : Int) : Option TcpArrival :=
  if seg.local.addr = ipAddrBroadcast ∨ seg.foreign.addr = ipAddrBroadcast then none
  else some
    { seg := ⟨seg.seq, seg.ack, tcpSegLen seg.flg seg.data, seg.wnd⟩
      flags := seg.flg, data := seg.data
      «local» := seg.foreign, foreign := seg.local, iss, now }

end MicroPs.Tcp
