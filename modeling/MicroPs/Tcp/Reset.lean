/-
# Resets

What `tcp_segment_arrives` does with a segment that carries RST, in every
state. An RST that fails the window test of a synchronized state, or reaches
a `LISTEN` PCB, is dropped. Three branches do more than RFC 793 asks. In
`SYN_SENT` the ACK check answers an out-of-range ACK with a reset even when
the segment is itself a reset, and the RST check releases the PCB whether or
not the ACK was acceptable: only the log line is guarded. In the synchronized
states the "flush" of the queues is `tcp_retransmit_queue_emit_all`, which
resends what is due.

A passive PCB that a SYN took to `SYN_RECEIVED` goes back to `LISTEN` on a
reset, but the `LISTEN` branch overwrote both endpoints and queued a SYN|ACK,
and the reset changes only the state.
-/

import MicroPs.Tcp.Retransmit
import MicroPs.Tcp.Endpoints

namespace MicroPs.Tcp

section Rst

variable {a : TcpArrival} {r : PcbRun}

/-- Outside `LISTEN` and `SYN_SENT` the handler is the common frame. -/
theorem tcpSegmentArrivesPcb_of_synchronized (hl : r.pcb.state ≠ .listen)
    (hs : r.pcb.state ≠ .synSent) : tcpSegmentArrivesPcb a r = tcpSegmentArrivesOther a r := by
  unfold tcpSegmentArrivesPcb
  split <;> simp_all

/-- Only the six states of the C `switch` can pass the window test. -/
theorem tcpSegmentAcceptable_state {pcb : TcpPcb} {seg : TcpSegmentInfo}
    (h : tcpSegmentAcceptable pcb seg) :
    pcb.state ∈ [.synReceived, .established, .finWait1, .finWait2, .closeWait, .lastAck] := by
  unfold tcpSegmentAcceptable at h
  revert h
  cases pcb.state <;> intro h <;> first | decide | cases h

/-- A reset in the common frame: dropped unless acceptable; then a passive
`SYN_RECEIVED` PCB returns to `LISTEN` and every other PCB is released, after
a replay of its queue in the four states that "flush" it. -/
theorem tcpSegmentArrivesOther_rst (hrst : tcpFlgIsset a.flags tcpFlgRst = true) :
    tcpSegmentArrivesOther a r = r ∨
    (tcpSegmentAcceptable r.pcb a.seg ∧ r.pcb.state = .synReceived ∧ r.pcb.active = false ∧
      tcpSegmentArrivesOther a r = r.setState .listen) ∨
    (tcpSegmentAcceptable r.pcb a.seg ∧
      tcpSegmentArrivesOther a r = tcpPcbRelease (r.setState .closed)) ∨
    (tcpSegmentAcceptable r.pcb a.seg ∧ tcpSegmentArrivesOther a r =
      tcpPcbRelease ((tcpRetransmitQueueEmitAll a.now r).setState .closed)) := by
  unfold tcpSegmentArrivesOther
  by_cases hacc : tcpSegmentAcceptable r.pcb a.seg
  · have hst := tcpSegmentAcceptable_state hacc
    simp only [hacc, if_true, tcpSegmentArrivesRst, hrst, true_and]
    simp only [List.mem_cons, List.mem_nil_iff, or_false] at hst
    rcases hst with hs | hs | hs | hs | hs | hs <;> simp only [hs]
    · cases hact : r.pcb.active <;> simp [hact]
    all_goals simp
  · exact .inl (by simp [hacc, hrst])

/-- Everything a reset can do, in every state: nothing; in `SYN_SENT` a reset
reply to an out-of-range ACK, or else release; in the common frame, once the
window test is passed, a return to `LISTEN` or a release. Only the reset reply
and the replay before a release put segments on the wire. -/
theorem tcpSegmentArrivesPcb_rst_cases (hrst : tcpFlgIsset a.flags tcpFlgRst = true) :
    tcpSegmentArrivesPcb a r = r ∨
    (r.pcb.state = .synSent ∧ tcpFlgIsset a.flags tcpFlgAck = true ∧
      (a.seg.ack ≤ r.pcb.iss ∨ r.pcb.snd.nxt < a.seg.ack) ∧
      tcpSegmentArrivesPcb a r = tcpResetReply a r) ∨
    (r.pcb.state = .synSent ∧
      tcpSegmentArrivesPcb a r = tcpPcbRelease (r.setState .closed).wakeup) ∨
    (tcpSegmentAcceptable r.pcb a.seg ∧ r.pcb.state = .synReceived ∧ r.pcb.active = false ∧
      tcpSegmentArrivesPcb a r = r.setState .listen) ∨
    (tcpSegmentAcceptable r.pcb a.seg ∧
      tcpSegmentArrivesPcb a r = tcpPcbRelease (r.setState .closed)) ∨
    (tcpSegmentAcceptable r.pcb a.seg ∧ tcpSegmentArrivesPcb a r =
      tcpPcbRelease ((tcpRetransmitQueueEmitAll a.now r).setState .closed)) := by
  by_cases hl : r.pcb.state = .listen
  · exact .inl (by simp [tcpSegmentArrivesPcb, hl, tcpSegmentArrivesListen, hrst])
  by_cases hs : r.pcb.state = .synSent
  · by_cases hbad : tcpFlgIsset a.flags tcpFlgAck = true ∧
        (a.seg.ack ≤ r.pcb.iss ∨ r.pcb.snd.nxt < a.seg.ack)
    · exact .inr (.inl ⟨hs, hbad.1, hbad.2,
        by simp [tcpSegmentArrivesPcb, hs, tcpSegmentArrivesSynSent, hbad]⟩)
    · exact .inr (.inr (.inl ⟨hs, by simp only [tcpSegmentArrivesPcb, hs,
        tcpSegmentArrivesSynSent, hbad, if_false, hrst, if_true]⟩))
  rw [tcpSegmentArrivesPcb_of_synchronized hl hs]
  rcases tcpSegmentArrivesOther_rst (r := r) hrst with h | h | h | h
  · exact .inl h
  · exact .inr (.inr (.inr (.inl h)))
  · exact .inr (.inr (.inr (.inr (.inl h))))
  · exact .inr (.inr (.inr (.inr (.inr h))))

end Rst

section Listen

variable {a b : TcpArrival} {r : PcbRun}

/-- A SYN reaching a `LISTEN` PCB: the PCB takes the segment's endpoints,
queues its SYN|ACK and enters `SYN_RECEIVED`. -/
theorem tcpSegmentArrivesPcb_listen_syn (hl : r.pcb.state = .listen)
    (hnrst : tcpFlgIsset a.flags tcpFlgRst = false) (hnack : tcpFlgIsset a.flags tcpFlgAck = false)
    (hsyn : tcpFlgIsset a.flags tcpFlgSyn = true) :
    (tcpSegmentArrivesPcb a r).pcb.state = .synReceived ∧
      (tcpSegmentArrivesPcb a r).pcb.active = r.pcb.active ∧
      (tcpSegmentArrivesPcb a r).pcb.local = a.local ∧
      (tcpSegmentArrivesPcb a r).pcb.foreign = a.foreign ∧
      (tcpSegmentArrivesPcb a r).pcb.queue = r.pcb.queue ++
        [⟨a.now, a.now, tcpDefaultRto, a.iss, tcpFlgSyn ||| tcpFlgAck, [], r.heap.next⟩] := by
  have hsa : tcpFlgIsset (tcpFlgSyn ||| tcpFlgAck) tcpFlgSyn = true := by decide
  have hqa : tcpFlgIsset (tcpFlgSyn ||| tcpFlgAck) (tcpFlgSyn ||| tcpFlgFin) = true := by decide
  simp [tcpSegmentArrivesPcb, hl, tcpSegmentArrivesListen, hnrst, hnack, hsyn, tcpOutput, hsa,
    hqa, tcpRetransmitQueueAdd]

/-- An acceptable reset sends a passive `SYN_RECEIVED` PCB back to `LISTEN`
and changes nothing else. -/
theorem tcpSegmentArrivesPcb_synReceived_rst (hs : r.pcb.state = .synReceived)
    (hpas : r.pcb.active = false) (hrst : tcpFlgIsset a.flags tcpFlgRst = true)
    (hacc : tcpSegmentAcceptable r.pcb a.seg) : tcpSegmentArrivesPcb a r = r.setState .listen := by
  rw [tcpSegmentArrivesPcb_of_synchronized (by simp [hs]) (by simp [hs])]
  simp [tcpSegmentArrivesOther, hacc, tcpSegmentArrivesRst, hrst, hs, hpas]

/-- A passive PCB in `LISTEN` with an empty queue takes a SYN and then an
acceptable reset. It is back in `LISTEN` with only its state changed: it keeps
the SYN's endpoints and the queued SYN|ACK. Unless the SYN came from the
wildcard endpoint, `tcp_pcb_select` returns it only for that SYN's foreign
endpoint. The first retransmit tick more than 200 ms after the SYN and within
its deadline resends the SYN|ACK to that peer, and over any run of ticks the
SYN|ACK goes out once for each resend the entry's trace records: the `k`-th
(from 0) more than `200 ms * 2^k` after the transmission before it, more than
`200 ms * (2^(k+1) - 1)` and less than 12 s after the SYN, so at most five. -/
theorem tcpSegmentArrivesPcb_listen_reset_keeps_peer (hl : r.pcb.state = .listen)
    (hpas : r.pcb.active = false) (hq : r.pcb.queue = [])
    (hnrst : tcpFlgIsset a.flags tcpFlgRst = false) (hnack : tcpFlgIsset a.flags tcpFlgAck = false)
    (hsyn : tcpFlgIsset a.flags tcpFlgSyn = true) (hrst : tcpFlgIsset b.flags tcpFlgRst = true)
    (hacc : tcpSegmentAcceptable (tcpSegmentArrivesPcb a r).pcb b.seg) :
    let r₂ : PcbRun := tcpSegmentArrivesPcb b (tcpSegmentArrivesPcb a r)
    r₂ = (tcpSegmentArrivesPcb a r).setState .listen ∧
    r₂.pcb.local = a.local ∧ r₂.pcb.foreign = a.foreign ∧
    r₂.pcb.queue =
      [⟨a.now, a.now, tcpDefaultRto, a.iss, tcpFlgSyn ||| tcpFlgAck, [], r.heap.next⟩] ∧
    (a.foreign ≠ ⟨ipAddrAny, 0⟩ → ∀ pcbs lcl frn i, pcbs i = r₂.pcb →
      tcpPcbSelect pcbs lcl (some frn) = some i → frn = a.foreign) ∧
    (∀ now, (now - a.now) / 1000000 < tcpRetransmitDeadline → a.now + 200000 < now →
      (tcpRetransmitQueueEmitAll now r₂).out = r₂.out ++
        [⟨a.iss, r₂.pcb.rcv.nxt, tcpFlgSyn ||| tcpFlgAck, r₂.pcb.rcv.wnd, [], a.local,
          a.foreign⟩]) ∧
    ∀ ticks : List Int,
      let trace := tcpRetransmitEmitTrace
        ⟨a.now, a.now, tcpDefaultRto, a.iss, tcpFlgSyn ||| tcpFlgAck, [], r.heap.next⟩
        (ticks.map (·, r₂))
      (ticks.foldl (fun r now => tcpRetransmitQueueEmitAll now r) r₂).out = r₂.out ++
        trace.2.map (fun _ => ⟨a.iss, r₂.pcb.rcv.nxt, tcpFlgSyn ||| tcpFlgAck, r₂.pcb.rcv.wnd,
          [], a.local, a.foreign⟩) ∧
      trace.2.length ≤ 5 ∧
      ∀ k < trace.2.length,
        200000 * 2 ^ k < trace.2.getD k 0 - (a.now :: trace.2).getD k 0 ∧
        200000 * (2 ^ (k + 1) - 1) < trace.2.getD k 0 - a.now ∧
        trace.2.getD k 0 - a.now < 12000000 := by
  intro r₂
  obtain ⟨hs₁, hact₁, hloc, hfrn, hq₁⟩ := tcpSegmentArrivesPcb_listen_syn hl hnrst hnack hsyn
  have hr₂ : r₂ = (tcpSegmentArrivesPcb a r).setState .listen :=
    tcpSegmentArrivesPcb_synReceived_rst hs₁ (hact₁.trans hpas) hrst hacc
  have hq₂ : r₂.pcb.queue =
      [⟨a.now, a.now, tcpDefaultRto, a.iss, tcpFlgSyn ||| tcpFlgAck, [], r.heap.next⟩] := by
    rw [hr₂]; simpa [hq] using hq₁
  have hloc₂ : r₂.pcb.local = a.local := by rw [hr₂]; exact hloc
  have hfrn₂ : r₂.pcb.foreign = a.foreign := by rw [hr₂]; exact hfrn
  refine ⟨hr₂, hloc₂, hfrn₂, hq₂, fun hw pcbs lcl frn i hi hsel => ?_, fun now hdl hdue => ?_,
    fun ticks => ?_⟩
  · obtain ⟨-, -, hf | ⟨-, hf⟩⟩ := tcpPcbSelect_selectable hsel
    · rw [← hf, hi, hfrn₂]
    · rw [hi, hfrn₂] at hf; exact absurd hf hw
  · have hres : TcpQueueEntry.Resent now
        ⟨a.now, a.now, tcpDefaultRto, a.iss, tcpFlgSyn ||| tcpFlgAck, [], r.heap.next⟩ :=
      ⟨hdl, by simpa [tcpDefaultRto] using hdue⟩
    simp [tcpRetransmitQueueEmitAll, (tcpRetransmitQueueEmitLoop_fst now _ r₂).1, hq₂, hres,
      TcpQueueEntry.resend, hloc₂, hfrn₂]
  · -- the entry is resent as its backoff allows, the same segment each time
    obtain ⟨hlen, -, hgap⟩ := tcpRetransmitEmitTrace_backoff (ticks.map (·, r₂))
      ⟨a.now, a.now, tcpDefaultRto, a.iss, tcpFlgSyn ||| tcpFlgAck, [], r.heap.next⟩ 0 rfl rfl
      (by decide) (by simp)
    simp only [Nat.zero_add] at hlen hgap
    refine ⟨?_, hlen, hgap⟩
    rw [tcpRetransmitQueueEmitAll_ticks ticks r₂ _ hq₂]
    simp [TcpQueueEntry.resend, hloc₂, hfrn₂]

open TcpSystem in
/-- A listener on port 7 of any address, a SYN from the reference peer, and an
in-window reset. -/
theorem tcpSegmentArrivesPcb_listen_reset_keeps_peer_ref :
    let r : PcbRun :=
      ⟨{ TcpPcb.zero with state := .listen, «local» := ⟨ipAddrAny, 7⟩ }, ⟨[], 0⟩, [], false⟩
    let a : TcpArrival := ⟨⟨5000, 0, 1, 16⟩, tcpFlgSyn, [], refLocal, refForeign, 0, 10⟩
    let b : TcpArrival := ⟨⟨5001, 0, 0, 0⟩, tcpFlgRst, [], refLocal, refForeign, 0, 20⟩
    tcpSegmentAcceptable (tcpSegmentArrivesPcb a r).pcb b.seg ∧
      (tcpSegmentArrivesPcb b (tcpSegmentArrivesPcb a r)).pcb.foreign = refForeign := by
  intro r a b
  have hacc : tcpSegmentAcceptable (tcpSegmentArrivesPcb a r).pcb b.seg := by decide
  exact ⟨hacc, (@tcpSegmentArrivesPcb_listen_reset_keeps_peer a b r rfl rfl rfl (by decide)
    (by decide) (by decide) (by decide) hacc).2.2.1⟩
end Listen

/-! ## Runs of the stack -/

open TcpSystem in
/-- Task 0 opens actively: ISS 0, `snd.nxt = 1`. A bare RST from the peer
releases the `SYN_SENT` PCB although it carries no ACK, and an RST|ACK whose
ACK is beyond `snd.nxt` is answered with an RST. After the reference
handshake and ten unacknowledged bytes, an in-window RST at 0.3 s resends the
ten bytes before it releases the PCB. These are cases of what a reset does in
every state: nothing; in `SYN_SENT` a reset reply to an out-of-range ACK, or
else a release after a wakeup; in the common frame, once the window test is
passed, a return to `LISTEN` for a passive `SYN_RECEIVED` PCB, or a release,
after a replay of the queue in the states that flush it. -/
theorem tcpSegmentArrives_rst_releases_and_emits :
    let s : TcpSystem :=
      run ethernetRoutes init [⟨.call 0 (.openActive refLocal refForeign), 0, 0, []⟩]
    let s₁ := step ethernetRoutes s ⟨.input (fromPeer 0 0 tcpFlgRst 0 []), 10, 0, []⟩
    let s₂ := step ethernetRoutes s
      ⟨.input (fromPeer 0 5 (tcpFlgRst ||| tcpFlgAck) 0 []), 10, 0, []⟩
    let e : TcpSystem := run ethernetRoutes init
      (refHandshake ++ [⟨.call 0 (.send 0 (List.replicate 10 0x62)), 3000, 0, []⟩])
    let e₁ := step ethernetRoutes e ⟨.input (fromPeer 1001 1 tcpFlgRst 0 []), 300000, 0, []⟩
    ((s.world.pcbs 0).state = .synSent ∧ (s₁.world.pcbs 0).state = .free ∧
      s₂.wire.drop s.wire.length = [⟨5, 0, tcpFlgRst, 0, [], refLocal, refForeign⟩] ∧
      (e₁.world.pcbs 0).state = .free ∧
      e₁.wire.drop e.wire.length =
        [⟨1, 1001, tcpFlgAck ||| tcpFlgPsh, 16, List.replicate 10 0x62, refLocal, refForeign⟩]) ∧
    ∀ (a : TcpArrival) (r : PcbRun), tcpFlgIsset a.flags tcpFlgRst = true →
      tcpSegmentArrivesPcb a r = r ∨
      (r.pcb.state = .synSent ∧ tcpFlgIsset a.flags tcpFlgAck = true ∧
        (a.seg.ack ≤ r.pcb.iss ∨ r.pcb.snd.nxt < a.seg.ack) ∧
        tcpSegmentArrivesPcb a r = tcpResetReply a r) ∨
      (r.pcb.state = .synSent ∧
        tcpSegmentArrivesPcb a r = tcpPcbRelease (r.setState .closed).wakeup) ∨
      (tcpSegmentAcceptable r.pcb a.seg ∧ r.pcb.state = .synReceived ∧ r.pcb.active = false ∧
        tcpSegmentArrivesPcb a r = r.setState .listen) ∨
      (tcpSegmentAcceptable r.pcb a.seg ∧
        tcpSegmentArrivesPcb a r = tcpPcbRelease (r.setState .closed)) ∨
      (tcpSegmentAcceptable r.pcb a.seg ∧ tcpSegmentArrivesPcb a r =
        tcpPcbRelease ((tcpRetransmitQueueEmitAll a.now r).setState .closed)) :=
  ⟨by decide, fun _ _ => tcpSegmentArrivesPcb_rst_cases⟩

open TcpSystem in
/-- Task 0 listens on port 7 of any address. A SYN from the peer moves the PCB
to `SYN_RECEIVED`, and an in-window RST returns it to `LISTEN` with the
endpoints of the peer's connection, not the ones `tcp_open_rfc793` installed,
and with the SYN|ACK still queued. A SYN from another client selected the PCB
before and selects nothing now, and the timer resends the SYN|ACK. -/
theorem tcpSegmentArrives_reset_listener_keeps_first_peer :
    let s : TcpSystem :=
      run ethernetRoutes init [⟨.call 0 (.openPassive ⟨ipAddrAny, 7⟩ none), 0, 0, []⟩]
    let s₁ := step ethernetRoutes s ⟨.input (fromPeer 5000 0 tcpFlgSyn 16 []), 10, 0, []⟩
    let s₂ := step ethernetRoutes s₁ ⟨.input (fromPeer 5001 0 tcpFlgRst 0 []), 20, 0, []⟩
    let s₃ := step ethernetRoutes s₂ ⟨.retransmitTimer, 300000, 0, []⟩
    (s.world.pcbs 0).state = .listen ∧ (s.world.pcbs 0).local = ⟨ipAddrAny, 7⟩ ∧
    (s.world.pcbs 0).foreign = ⟨ipAddrAny, 0⟩ ∧
    (s₂.world.pcbs 0).state = .listen ∧ (s₂.world.pcbs 0).local = refLocal ∧
    (s₂.world.pcbs 0).foreign = refForeign ∧ (s₂.world.pcbs 0).queue ≠ [] ∧
    tcpPcbSelect s.world.pcbs refLocal (some ⟨0x0a000003, 5000⟩) = some 0 ∧
    tcpPcbSelect s₂.world.pcbs refLocal (some ⟨0x0a000003, 5000⟩) = none ∧
    s₃.wire.drop s₂.wire.length =
      [⟨0, 5001, tcpFlgSyn ||| tcpFlgAck, 16, [], refLocal, refForeign⟩] := by
  decide

end MicroPs.Tcp
