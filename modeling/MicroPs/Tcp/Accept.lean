/-
# The sequence check and the send window update

The first check of `tcp_segment_arrives` is RFC 793's four-case window test,
computed in the 32-bit arithmetic of the sequence variables. The C `switch`
that guards it lists six of the eight synchronized states: `CLOSING` and
`TIME_WAIT` fall through with `acceptable = 0`, so every segment there is
answered with a bare ACK or, if it is a reset, dropped, and the RST, SYN, ACK
and FIN steps never run in those two states.

The window update of the ACK step compares the segment with `snd.wl1` and
`snd.wl2`, but assigns `snd.wl2` twice and `snd.wl1` never, so `snd.wl1`
keeps the value the handshake gave it and an older segment can overwrite the
window a newer one advertised.
-/

import MicroPs.Tcp.Reset

namespace MicroPs.Tcp

/-! ## The window test -/

/-- Modelled from the spec: RFC 793's segment acceptance test, by segment
length and receive window, with `RCV.NXT + RCV.WND` and `SEG.SEQ + SEG.LEN - 1`
taken modulo `2^32`. Its `≤` and `<` are the spec's plain unsigned comparisons
of 32-bit numbers, as the C code makes them, not RFC 793's comparisons in
sequence space, which wrap around. -/
def rfc793Acceptable (rcv : TcpRcv) (seg : TcpSegmentInfo) : Bool :=
  let inWindow (x : BitVec 32) : Bool := rcv.nxt ≤ x && x < rcv.nxt + rcv.wnd.setWidth 32
  match seg.len == 0, rcv.wnd == 0 with
  | true, true => seg.seq == rcv.nxt
  | true, false => inWindow seg.seq
  | false, true => false
  | false, false => inWindow seg.seq || inWindow (seg.seq + seg.len.setWidth 32 - 1)

/-- In the six states of the C `switch` the window test is RFC 793's. -/
theorem tcpSegmentAcceptable_of_listed {pcb : TcpPcb} (seg : TcpSegmentInfo)
    (h : pcb.state ∈ [.synReceived, .established, .finWait1, .finWait2, .closeWait, .lastAck]) :
    tcpSegmentAcceptable pcb seg = rfc793Acceptable pcb.rcv seg := by
  have hcase : tcpSegmentAcceptable pcb seg =
      tcpSegmentAcceptable { pcb with state := .established } seg := by
    simp only [List.mem_cons, List.mem_nil_iff, or_false] at h
    unfold tcpSegmentAcceptable
    rcases h with h | h | h | h | h | h <;> rw [h]
  rw [hcase]
  by_cases hl : seg.len = 0#16 <;> by_cases hw : pcb.rcv.wnd = 0#16 <;>
    simp [tcpSegmentAcceptable, rfc793Acceptable, hl, hw, Bool.beq_eq_decide_eq]

/-- In `CLOSING` and `TIME_WAIT` no segment passes the window test: a reset
is dropped and anything else is answered with a bare ACK. -/
theorem tcpSegmentArrivesPcb_closing_timeWait (a : TcpArrival) {r : PcbRun}
    (h : r.pcb.state = .closing ∨ r.pcb.state = .timeWait) :
    tcpSegmentArrivesPcb a r =
      if tcpFlgIsset a.flags tcpFlgRst then r else tcpOutput tcpFlgAck [] a.now r := by
  rcases h with h | h <;>
  · have hacc : tcpSegmentAcceptable r.pcb a.seg = false := by unfold tcpSegmentAcceptable; rw [h]
    rw [tcpSegmentArrivesPcb_of_synchronized (by simp [h]) (by simp [h]), tcpSegmentArrivesOther,
      hacc]
    rfl

open TcpSystem in
/-- The six listed states test the window as RFC 793 does, and `CLOSING` and
`TIME_WAIT` answer every segment with a bare ACK or drop it. After the
reference handshake, a close and the peer's FIN|ACK the connection is in
`TIME_WAIT` with `rcv.nxt = 1002` and a sixteen-byte window; a reset at
sequence number 1002, which RFC 793 accepts, leaves it in `TIME_WAIT` and
sends nothing. -/
theorem tcpSegmentAcceptable_rejects_closing_timeWait :
    (∀ (pcb : TcpPcb) (seg : TcpSegmentInfo),
      pcb.state ∈ [.synReceived, .established, .finWait1, .finWait2, .closeWait, .lastAck] →
        tcpSegmentAcceptable pcb seg = rfc793Acceptable pcb.rcv seg) ∧
    (∀ (a : TcpArrival) (r : PcbRun), r.pcb.state = .closing ∨ r.pcb.state = .timeWait →
      tcpSegmentArrivesPcb a r =
        if tcpFlgIsset a.flags tcpFlgRst then r else tcpOutput tcpFlgAck [] a.now r) ∧
    let s : TcpSystem := run ethernetRoutes init (refHandshake ++
      [⟨.call 0 (.close 0), 3000, 0, []⟩,
       ⟨.input (fromPeer 1001 2 (tcpFlgFin ||| tcpFlgAck) 16 []), 4000, 0, []⟩])
    let s' := step ethernetRoutes s ⟨.input (fromPeer 1002 2 tcpFlgRst 16 []), 5000, 0, []⟩
    (s.world.pcbs 0).state = .timeWait ∧
      rfc793Acceptable (s.world.pcbs 0).rcv ⟨1002, 2, 0, 16⟩ = true ∧
      (s'.world.pcbs 0).state = .timeWait ∧ s'.wire = s.wire :=
  ⟨fun _ seg h => tcpSegmentAcceptable_of_listed seg h,
   fun a _ h => tcpSegmentArrivesPcb_closing_timeWait a h, by decide⟩

/-! ## The send window update -/

open TcpSystem in
/-- No window update writes `snd.wl1`. After the reference handshake, which
leaves `snd.wl1` at the peer's ISS 1000, task 0 sends four bytes. The peer's
ACK with sequence number 1002 acknowledges two of them and advertises a
window of 10; its older ACK with sequence number 1001, delivered after it,
acknowledges the rest and overwrites the window with 1, because `snd.wl1` is
still 1000. -/
theorem tcpSegmentArrives_older_ack_overwrites_window :
    (∀ (a : TcpArrival) (r : PcbRun),
      (tcpSegmentArrivesWindowUpdate a r).pcb.snd.wl1 = r.pcb.snd.wl1) ∧
    let s : TcpSystem := run ethernetRoutes init
      (refHandshake ++ [⟨.call 0 (.send 0 [0x61, 0x62, 0x63, 0x64]), 3000, 0, []⟩])
    let s₁ := step ethernetRoutes s ⟨.input (fromPeer 1002 3 tcpFlgAck 10 []), 4000, 0, []⟩
    let s₂ := step ethernetRoutes s₁ ⟨.input (fromPeer 1001 5 tcpFlgAck 1 []), 5000, 0, []⟩
    (s.world.pcbs 0).snd = ⟨5, 1, 16, 1000, 1⟩ ∧ (s₁.world.pcbs 0).snd = ⟨5, 3, 10, 1000, 3⟩ ∧
      (s₂.world.pcbs 0).snd = ⟨5, 5, 1, 1000, 5⟩ :=
  ⟨fun a r => by unfold tcpSegmentArrivesWindowUpdate; split <;> rfl, by decide⟩

end MicroPs.Tcp
