/-
# An orderly close

A synchronized connection between two stacks, such as the one
`MicroPs.Tcp.Handshake` builds, is closed from both ends. The left side calls
`tcp_close` first: its FIN|ACK crosses, the right side enters
`CLOSE_WAIT` and acknowledges it, and the left side waits in `FIN_WAIT_2`.
The right side calls `tcp_close`: its FIN|ACK crosses, the left side enters
`TIME_WAIT` and acknowledges it, and the ACK releases the right side's PCB in
`LAST_ACK`. Once `2 * TCP_MSL` seconds have passed, the `TIME_WAIT` timer
releases the left side's PCB.

Both tables are then empty, but not both heaps. A FIN consumes a sequence
number, so `tcp_output` queues it for retransmission. The left side's entry is
freed by `tcp_retransmit_queue_cleanup` when the ACK of its FIN arrives. The
right side's PCB is released by the ACK of its FIN in `LAST_ACK`, which
`tcp_segment_arrives` handles with `tcp_pcb_release` alone, and
`tcp_pcb_release` frees no queue entry: every connection whose peer closes
first leaves its last FIN allocated.

The close is proved from any synchronized pair of PCBs far enough from the
end of the sequence space (`orderlyClose_run`), one lemma for each handler it
runs, and then composed with the handshake into the whole life of a
connection between two fresh stacks.
-/

import MicroPs.Tcp.Handshake
import MicroPs.Tcp.Timers

namespace MicroPs.Tcp

/-! ## The four handlers of a close -/

/-- A segment that starts at `rcv.nxt` passes the sequence number test in
every state the test admits, whenever the receive window is open and does not
wrap. -/
theorem tcpSegmentAcceptable_at_rcvNxt {pcb : TcpPcb} {seg : TcpSegmentInfo}
    (hst : pcb.state ∈ [.synReceived, .established, .finWait1, .finWait2, .closeWait, .lastAck])
    (hseq : seg.seq = pcb.rcv.nxt) (hw : pcb.rcv.wnd ≠ 0)
    (hnw : pcb.rcv.nxt < pcb.rcv.nxt + pcb.rcv.wnd.setWidth 32) :
    tcpSegmentAcceptable pcb seg = true := by
  have hle : pcb.rcv.nxt ≤ pcb.rcv.nxt := by bv_omega
  have hw' : pcb.rcv.wnd ≠ 0#16 := hw
  unfold tcpSegmentAcceptable
  simp only [List.mem_cons, List.mem_singleton, List.not_mem_nil, or_false] at hst
  rcases hst with h | h | h | h | h | h <;> simp [h, hseq, hle, hnw, hw']

/-- An acceptable FIN|ACK without data reaching an `ESTABLISHED` PCB and
acknowledging nothing new: `rcv.nxt` moves past the FIN, an ACK goes out, and
the PCB enters `CLOSE_WAIT` and is woken. -/
theorem tcpSegmentArrivesPcb_established_fin (a : TcpArrival) (r : PcbRun)
    (hst : r.pcb.state = .established) (hacc : tcpSegmentAcceptable r.pcb a.seg = true)
    (hflags : a.flags = tcpFlgAck ||| tcpFlgFin) (hdata : a.data = [])
    (hack : a.seg.ack = r.pcb.snd.una) (hle : r.pcb.snd.una ≤ r.pcb.snd.nxt) :
    tcpSegmentArrivesPcb a r =
      { r with
        pcb := { r.pcb with state := .closeWait, rcv := { r.pcb.rcv with nxt := a.seg.seq + 1 } }
        out := r.out ++ [⟨r.pcb.snd.nxt, a.seg.seq + 1, tcpFlgAck, r.pcb.rcv.wnd, [], r.pcb.local,
          r.pcb.foreign⟩]
        woken := true } := by
  have hflg : tcpFlgIsset (tcpFlgAck ||| tcpFlgFin) tcpFlgRst = false ∧
      tcpFlgIsset (tcpFlgAck ||| tcpFlgFin) tcpFlgSyn = false ∧
      tcpFlgIsset (tcpFlgAck ||| tcpFlgFin) tcpFlgAck = true ∧
      tcpFlgIsset (tcpFlgAck ||| tcpFlgFin) tcpFlgFin = true ∧
      tcpFlgIsset tcpFlgAck tcpFlgSyn = false ∧
      tcpFlgIsset tcpFlgAck (tcpFlgSyn ||| tcpFlgFin) = false := by decide
  have hnlt : ¬ r.pcb.snd.nxt < r.pcb.snd.una := by bv_omega
  simp [tcpSegmentArrivesPcb, hst, tcpSegmentArrivesOther, hacc, tcpSegmentArrivesRst, hflags, hflg,
    tcpSegmentArrivesSyn, tcpSegmentArrivesAck, tcpSegmentArrivesAckUpdate, hack, hnlt,
    tcpSegmentArrivesAckDone, tcpSegmentArrivesText, hdata, tcpSegmentArrivesFin,
    tcpSegmentArrivesFinState, tcpOutput, tcpOutputSegment, PcbRun.wakeup, PcbRun.setState]

/-- An acceptable bare ACK of everything sent, FIN included, reaching a
`FIN_WAIT_1` PCB, from a segment newer than the last window update: `snd.una`
moves to it and the queue is cleaned up, the send window is taken from the
segment, and the PCB enters `FIN_WAIT_2`. Nothing is sent and nobody is
woken. -/
theorem tcpSegmentArrivesPcb_finWait1_acked (a : TcpArrival) (r : PcbRun)
    (hst : r.pcb.state = .finWait1) (hacc : tcpSegmentAcceptable r.pcb a.seg = true)
    (hflags : a.flags = tcpFlgAck) (hdata : a.data = []) (huna : r.pcb.snd.una < a.seg.ack)
    (hnxt : a.seg.ack = r.pcb.snd.nxt)
    (hwl : r.pcb.snd.wl1 < a.seg.seq ∨
      r.pcb.snd.wl1 = a.seg.seq ∧ r.pcb.snd.wl2 ≤ a.seg.ack) :
    tcpSegmentArrivesPcb a r =
      let cleaned := tcpRetransmitQueueCleanupLoop a.seg.ack r.pcb.queue r.heap
      { r with
        pcb := { r.pcb with
          state := .finWait2,
          snd := { r.pcb.snd with una := a.seg.ack, wnd := a.seg.wnd, wl2 := a.seg.ack },
          queue := cleaned.1 }
        heap := cleaned.2 } := by
  have hflg : tcpFlgIsset tcpFlgAck tcpFlgRst = false ∧
      tcpFlgIsset tcpFlgAck tcpFlgSyn = false ∧ tcpFlgIsset tcpFlgAck tcpFlgAck = true ∧
      tcpFlgIsset tcpFlgAck tcpFlgFin = false := by decide
  have hle : r.pcb.snd.nxt ≤ r.pcb.snd.nxt := by bv_omega
  rw [hnxt] at huna hwl ⊢
  simp [tcpSegmentArrivesPcb, hst, hflg, tcpSegmentArrivesOther, hacc, tcpSegmentArrivesRst, hflags,
    tcpSegmentArrivesSyn, tcpSegmentArrivesAck, tcpSegmentArrivesAckUpdate, hnxt, huna, hle,
    tcpSegmentArrivesAckDone, tcpSegmentArrivesAckNew, tcpSegmentArrivesWindowUpdate, hwl,
    tcpRetransmitQueueCleanup, tcpSegmentArrivesText, hdata, tcpSegmentArrivesFin, PcbRun.setState]

/-- An acceptable FIN|ACK without data reaching a `FIN_WAIT_2` PCB and
acknowledging nothing new: `rcv.nxt` moves past the FIN, an ACK goes out, and
the PCB enters `TIME_WAIT` at the clock reading of the arrival. Nobody is
woken. -/
theorem tcpSegmentArrivesPcb_finWait2_fin (a : TcpArrival) (r : PcbRun)
    (hst : r.pcb.state = .finWait2) (hacc : tcpSegmentAcceptable r.pcb a.seg = true)
    (hflags : a.flags = tcpFlgAck ||| tcpFlgFin) (hdata : a.data = [])
    (hack : a.seg.ack = r.pcb.snd.una) (hle : r.pcb.snd.una ≤ r.pcb.snd.nxt) :
    tcpSegmentArrivesPcb a r =
      { r with
        pcb := { r.pcb with state := .timeWait, timeWait := a.now,
                            rcv := { r.pcb.rcv with nxt := a.seg.seq + 1 } }
        out := r.out ++ [⟨r.pcb.snd.nxt, a.seg.seq + 1, tcpFlgAck, r.pcb.rcv.wnd, [], r.pcb.local,
          r.pcb.foreign⟩] } := by
  have hflg : tcpFlgIsset (tcpFlgAck ||| tcpFlgFin) tcpFlgRst = false ∧
      tcpFlgIsset (tcpFlgAck ||| tcpFlgFin) tcpFlgSyn = false ∧
      tcpFlgIsset (tcpFlgAck ||| tcpFlgFin) tcpFlgAck = true ∧
      tcpFlgIsset (tcpFlgAck ||| tcpFlgFin) tcpFlgFin = true ∧
      tcpFlgIsset tcpFlgAck tcpFlgSyn = false ∧
      tcpFlgIsset tcpFlgAck (tcpFlgSyn ||| tcpFlgFin) = false := by decide
  have hnlt : ¬ r.pcb.snd.nxt < r.pcb.snd.una := by bv_omega
  simp [tcpSegmentArrivesPcb, hst, tcpSegmentArrivesOther, hacc, tcpSegmentArrivesRst, hflags, hflg,
    tcpSegmentArrivesSyn, tcpSegmentArrivesAck, tcpSegmentArrivesAckUpdate, hack, hnlt,
    tcpSegmentArrivesAckDone, tcpSegmentArrivesText, hdata, tcpSegmentArrivesFin,
    tcpSegmentArrivesFinState, tcpOutput, tcpOutputSegment]

/-- An acceptable bare ACK of the FIN reaching a `LAST_ACK` PCB releases it:
the slot is zeroed, and the allocator keeps every entry the queue held. -/
theorem tcpSegmentArrivesPcb_lastAck_acked (a : TcpArrival) (r : PcbRun)
    (hst : r.pcb.state = .lastAck) (hacc : tcpSegmentAcceptable r.pcb a.seg = true)
    (hflags : a.flags = tcpFlgAck) (hack : a.seg.ack = r.pcb.snd.nxt) :
    tcpSegmentArrivesPcb a r = { r with pcb := TcpPcb.zero } := by
  have hflg : tcpFlgIsset tcpFlgAck tcpFlgRst = false ∧
      tcpFlgIsset tcpFlgAck tcpFlgSyn = false ∧ tcpFlgIsset tcpFlgAck tcpFlgAck = true := by decide
  simp [tcpSegmentArrivesPcb, hst, hflg, tcpSegmentArrivesOther, hacc, tcpSegmentArrivesRst, hflags,
    tcpSegmentArrivesSyn, tcpSegmentArrivesAck, hack, tcpPcbRelease, Platform.schedCtxDestroy_ne_neg_one,
    PcbRun.setState]

/-! ## A stack with one connection, closing -/

namespace TcpSystem

variable (routes : TcpRoutes)

/-- No task is parked, so a broadcast wakes nobody. -/
@[simp] theorem wakeSlot_idle (i : Fin 16) : wakeSlot (fun _ => .idle) i = fun _ => .idle := rfl

/-- `tcp_close` on the one connection of a stack, in `ESTABLISHED` or in
`CLOSE_WAIT`: a FIN|ACK from `snd.nxt` is queued and sent, `snd.nxt` moves
past the FIN, the PCB enters `FIN_WAIT_1` or `LAST_ACK`, the tasks blocked on
slot `0` are woken, and the call returns `0`. -/
theorem step_close_one {s : TcpSystem} {pcb : TcpPcb} (hs : s.world.HoldsOne pcb) {t : Nat}
    (ht : s.tasks t = .idle) {next : TcpPcbState}
    (hst : pcb.state = .established ∧ next = .finWait1 ∨ pcb.state = .closeWait ∧ next = .lastAck)
    (now : Int) (rnd : BitVec 31) (ok : List Bool) :
    let s' := step routes s ⟨.call t (.close 0), now, rnd, ok⟩
    s'.world.HoldsOne { pcb with
        state := next, snd := { pcb.snd with nxt := pcb.snd.nxt + 1 },
        queue := pcb.queue ++
          [⟨now, now, tcpDefaultRto, pcb.snd.nxt, tcpFlgAck ||| tcpFlgFin, [], s.world.heap.next⟩] } ∧
      s'.world.heap = s.world.heap.alloc ∧
      s'.wire = s.wire ++ [⟨pcb.snd.nxt, pcb.rcv.nxt, tcpFlgAck ||| tcpFlgFin, pcb.rcv.wnd, [],
        pcb.local, pcb.foreign⟩] ∧
      s'.tasks = Function.update (wakeSlot s.tasks 0) t .idle ∧
      s'.returns = s.returns ++ [⟨t, 0, []⟩] := by
  have h0 : s.world.pcbs 0 = pcb := by rw [hs]; exact Function.update_same _ _ _
  have hget : tcpPcbGet s.world.pcbs 0 = some 0 := by
    have hfree : pcb.state ≠ .free := by rcases hst with ⟨h, -⟩ | ⟨h, -⟩ <;> simp [h]
    simp [tcpPcbGet, h0, hfree]
  have hflg : tcpFlgIsset (tcpFlgAck ||| tcpFlgFin) tcpFlgSyn = false ∧
      tcpFlgIsset (tcpFlgAck ||| tcpFlgFin) (tcpFlgSyn ||| tcpFlgFin) = true := by decide
  rcases hst with ⟨hst, rfl⟩ | ⟨hst, rfl⟩ <;>
    simp only [step, ht, startCall, tcpClose, hget, h0, hst] <;>
    simp [TcpWorld.runOn, h0, tcpOutput, hflg, tcpRetransmitQueueAdd, tcpOutputSegment,
      PcbRun.setState, PcbRun.wakeup, finish, absorb, TcpWorld.HoldsOne,
      show s.world.pcbs = _ from hs]

/-- The `TIME_WAIT` timer on the one connection of a stack, `2 * TCP_MSL`
seconds after it entered `TIME_WAIT`: the slot is released, and nothing else
changes. -/
theorem step_timeWaitTimeout_one {s : TcpSystem} {pcb : TcpPcb} (hs : s.world.HoldsOne pcb)
    (hst : pcb.state = .timeWait) (now : Int) (hmsl : 2 * tcpMsl ≤ (now - pcb.timeWait) / 1000000)
    (rnd : BitVec 31) (ok : List Bool) :
    let s' := step routes s ⟨.timeWaitTimeout, now, rnd, ok⟩
    s'.world.pcbs = (fun _ => TcpPcb.zero) ∧ s'.world.heap = s.world.heap ∧ s'.wire = s.wire ∧
      s'.tasks = s.tasks ∧ s'.returns = s.returns := by
  have h0 : s.world.pcbs 0 = pcb := by rw [hs]; exact Function.update_same _ _ _
  have hv : ∀ j, j ≠ 0 →
      decide ((({ s.world with out := [], woken := [] } : TcpWorld).pcbs j).state = .timeWait) =
        false := fun j hj => by
    simp [show s.world.pcbs = _ from hs, Function.update_noteq hj, TcpPcb.zero]
  have hsweep := TcpWorld.sweep_single (fun pcb => decide (pcb.state = .timeWait))
    (tcpTimeWaitTimeoutPcb now) _ 0 hv
  simp only [step, tcpTimeWaitTimeout, hsweep]
  simp [h0, hst, TcpWorld.runOn, tcpTimeWaitTimeoutPcb, hmsl, PcbRun.setState, absorb,
    show s.world.pcbs = _ from hs]

end TcpSystem

/-- A sequence number at least `2 ^ 16` below the end of the sequence space:
neither it nor the next one wraps, nor does a nonzero window past either, so
the unsigned comparisons of `tcp_segment_arrives` on them are those of the
integers. -/
theorem seq_no_wrap {x : BitVec 32} (hx : x.toNat + 2 ^ 16 < 2 ^ 32) {w : BitVec 16} (hw : w ≠ 0) :
    x ≤ x ∧ x < x + w.setWidth 32 ∧ x + 1 ≤ x + 1 ∧ x + 1 < x + 1 + w.setWidth 32 ∧ x < x + 1 ∧
      ¬ x + 1 ≤ x := by
  have hw' : (w.setWidth 32).toNat = w.toNat := by simp; omega
  have hw0 : w.toNat ≠ 0 := fun h => hw (BitVec.eq_of_toNat_eq (by simpa using h))
  refine ⟨?_, ?_, ?_, ?_, ?_, ?_⟩ <;> bv_omega

/-! ## Both ends close -/

namespace TcpPair

variable (routes : TcpRoutes)

/-- The orderly close of a connection in slot `0` of both tables: task `tl`
of the left side closes first and its FIN|ACK crosses; the right side's ACK of
it crosses; task `tr` of the right side closes and its FIN|ACK crosses; the
left side's ACK of it crosses; the `TIME_WAIT` timer of the left side fires.
`now k` is the clock reading of the `k`-th step. -/
def orderlyClose (tl tr : Nat) (now : Nat → Int) : List TcpPairEvent :=
  [.left ⟨.call tl (.close 0), now 0, 0, []⟩,
   .deliverRight (now 1) 0,
   .deliverLeft (now 2) 0,
   .right ⟨.call tr (.close 0), now 3, 0, []⟩,
   .deliverLeft (now 4) 0,
   .deliverRight (now 5) 0,
   .left ⟨.timeWaitTimeout, now 6, 0, []⟩]

/-- The orderly close from any synchronized connection between two stacks
that hold nothing else, whose tasks are all idle and whose channel is empty,
with both receive windows open, both `snd.nxt` at least `2 ^ 16` below the
end of the sequence space, and the left end's last window update older than
the right end's `snd.nxt`. Both tables end empty and no task waits. The left
heap is back to what it held, the FIN's entry freed by the ACK of it; the
right heap keeps the entry of its own FIN. -/
theorem orderlyClose_run (tl tr : Nat) {L R : TcpSystem} {a b : TcpPcb}
    (hL : L.world.HoldsOne a) (hR : R.world.HoldsOne b) (hsync : a.Synchronized b)
    (hlp : a.local.port ≠ 0) (hfp : a.foreign.port ≠ 0) (hlb : a.local.addr ≠ ipAddrBroadcast)
    (hfb : a.foreign.addr ≠ ipAddrBroadcast) (hwa : a.rcv.wnd ≠ 0) (hwb : b.rcv.wnd ≠ 0)
    (hna : a.snd.nxt.toNat + 2 ^ 16 < 2 ^ 32) (hnb : b.snd.nxt.toNat + 2 ^ 16 < 2 ^ 32)
    (hwl : a.snd.wl1 < b.snd.nxt) (htL : L.tasks = fun _ => .idle)
    (htR : R.tasks = fun _ => .idle) (now : Nat → Int)
    (hmsl : 2 * tcpMsl ≤ (now 6 - now 4) / 1000000) :
    let p := run routes ⟨L, R, [], []⟩ (orderlyClose tl tr now)
    p.left.world.pcbs = (fun _ => TcpPcb.zero) ∧ p.right.world.pcbs = (fun _ => TcpPcb.zero) ∧
      p.left.world.heap = ⟨L.world.heap.live, L.world.heap.next + 1⟩ ∧
      p.right.world.heap = R.world.heap.alloc ∧ p.toRight = [] ∧ p.toLeft = [] ∧
      p.left.wire = L.wire ++
        [⟨a.snd.nxt, b.snd.nxt, tcpFlgAck ||| tcpFlgFin, a.rcv.wnd, [], a.local, a.foreign⟩,
         ⟨a.snd.nxt + 1, b.snd.nxt + 1, tcpFlgAck, a.rcv.wnd, [], a.local, a.foreign⟩] ∧
      p.right.wire = R.wire ++
        [⟨b.snd.nxt, a.snd.nxt + 1, tcpFlgAck, b.rcv.wnd, [], a.foreign, a.local⟩,
         ⟨b.snd.nxt, a.snd.nxt + 1, tcpFlgAck ||| tcpFlgFin, b.rcv.wnd, [], a.foreign, a.local⟩] ∧
      p.left.tasks = (fun _ => .idle) ∧ p.right.tasks = (fun _ => .idle) ∧
      p.left.returns = L.returns ++ [⟨tl, 0, []⟩] ∧ p.right.returns = R.returns ++ [⟨tr, 0, []⟩] := by
  obtain ⟨⟨hsa, hsb⟩, ⟨hab, hba⟩, ⟨hra, hrb⟩, ⟨hua, hub⟩, -, -, ⟨hqa, hqb⟩⟩ := hsync
  obtain ⟨ha₁, ha₂, ha₃, ha₄, ha₅, ha₆⟩ := seq_no_wrap hna hwb
  obtain ⟨hb₁, hb₂, -, -, -, -⟩ := seq_no_wrap hnb hwa
  have hidle : ∀ t : Nat, Function.update (fun _ => TcpTask.idle) t .idle = fun _ => .idle :=
    fun t => Function.update_eq_self t _
  -- the left side closes
  obtain ⟨hL1, hhL1, hwL1, htL1, hrL1⟩ := TcpSystem.step_close_one routes hL
    (show L.tasks tl = .idle by rw [htL]) (.inl ⟨hsa, rfl⟩) (now 0) 0 []
  generalize hL1d : TcpSystem.step routes L ⟨.call tl (.close 0), now 0, 0, []⟩ = L1
    at hL1 hhL1 hwL1 htL1 hrL1
  simp only [htL, TcpSystem.wakeSlot_idle, hidle, hqa, List.nil_append, ← hrb] at htL1 hL1 hwL1
  -- its FIN reaches the right side, which enters CLOSE_WAIT and acknowledges it
  have hlen : tcpSegLen (tcpFlgAck ||| tcpFlgFin) [] = 1 ∧ tcpSegLen tcpFlgAck [] = 0 := by decide
  have hflg : tcpFlgIsset (tcpFlgAck ||| tcpFlgFin) tcpFlgRst = false := by decide
  obtain ⟨hR1, hhR1, hwR1, htR1, hrR1⟩ := TcpSystem.step_input_one routes hR
    ⟨a.snd.nxt, b.snd.nxt, tcpFlgAck ||| tcpFlgFin, a.rcv.wnd, [], a.local, a.foreign⟩ (now 1) 0
    [] hlb hfb hfp ⟨.inr (by rw [hba]), by rw [hba], .inl hab.symm⟩ (by rw [hsb]; decide)
  generalize hR1d : TcpSystem.step routes R ⟨.input ⟨a.snd.nxt, b.snd.nxt,
    tcpFlgAck ||| tcpFlgFin, a.rcv.wnd, [], a.local, a.foreign⟩, now 1, 0, []⟩ = R1
    at hR1 hhR1 hwR1 htR1 hrR1
  simp only [tcpSegmentArrivesPcb_established_fin, hsb, tcpSegmentAcceptable_at_rcvNxt, hlen, hub,
    hb₁, ← hra, hwb, ha₂, List.mem_cons, true_or, or_true, ne_eq, not_false_eq_true, if_true, htR,
    TcpSystem.wakeSlot_idle, List.nil_append, ← hab, ← hba] at hR1 hhR1 hwR1 htR1 hrR1
  -- the ACK reaches the left side, whose FIN entry is freed: FIN_WAIT_2
  obtain ⟨hL2, hhL2, hwL2, htL2, hrL2⟩ := TcpSystem.step_input_one routes hL1
    ⟨b.snd.nxt, a.snd.nxt + 1, tcpFlgAck, b.rcv.wnd, [], a.foreign, a.local⟩ (now 2) 0 []
    hfb hlb hlp ⟨.inr rfl, rfl, .inl rfl⟩ (by simp)
  generalize hL2d : TcpSystem.step routes L1 ⟨.input ⟨b.snd.nxt, a.snd.nxt + 1, tcpFlgAck,
    b.rcv.wnd, [], a.foreign, a.local⟩, now 2, 0, []⟩ = L2 at hL2 hhL2 hwL2 htL2 hrL2
  simp only [tcpSegmentArrivesPcb_finWait1_acked, tcpSegmentAcceptable_at_rcvNxt, hlen, hua, ha₅,
    ← hrb, hwa, hb₂, hwl, List.mem_cons, true_or, or_true, ne_eq, not_false_eq_true, hhL1, hwL1,
    htL1, tcpRetransmitQueueCleanupLoop, ha₆, if_false, List.append_nil, Bool.false_eq_true]
    at hL2 hhL2 hwL2 htL2 hrL2
  -- the right side closes: LAST_ACK
  obtain ⟨hR2, hhR2, hwR2, htR2, hrR2⟩ := TcpSystem.step_close_one routes hR1
    (show R1.tasks tr = .idle by rw [htR1]) (.inr ⟨rfl, rfl⟩) (now 3) 0 []
  generalize hR2d : TcpSystem.step routes R1 ⟨.call tr (.close 0), now 3, 0, []⟩ = R2
    at hR2 hhR2 hwR2 htR2 hrR2
  simp only [htR1, TcpSystem.wakeSlot_idle, hidle, hqb, List.nil_append, hhR1, hwR1, hrR1]
    at hR2 hhR2 hwR2 htR2 hrR2
  -- its FIN reaches the left side, which acknowledges it: TIME_WAIT
  obtain ⟨hL3, hhL3, hwL3, htL3, hrL3⟩ := TcpSystem.step_input_one routes hL2
    ⟨b.snd.nxt, a.snd.nxt + 1, tcpFlgAck ||| tcpFlgFin, b.rcv.wnd, [], a.foreign, a.local⟩ (now 4)
    0 [] hfb hlb hlp ⟨.inr rfl, rfl, .inl rfl⟩ (by simp)
  generalize hL3d : TcpSystem.step routes L2 ⟨.input ⟨b.snd.nxt, a.snd.nxt + 1,
    tcpFlgAck ||| tcpFlgFin, b.rcv.wnd, [], a.foreign, a.local⟩, now 4, 0, []⟩ = L3
    at hL3 hhL3 hwL3 htL3 hrL3
  simp only [tcpSegmentArrivesPcb_finWait2_fin, tcpSegmentAcceptable_at_rcvNxt, hlen, ← hrb, hwa,
    hb₂, ha₃, List.mem_cons, true_or, or_true, ne_eq, not_false_eq_true, hhL2, hwL2, htL2,
    List.nil_append, Bool.false_eq_true, if_false] at hL3 hhL3 hwL3 htL3 hrL3
  -- the ACK reaches the right side, which is released
  obtain ⟨hR3, hhR3, hwR3, htR3, hrR3⟩ := TcpSystem.step_input_one routes hR2
    ⟨a.snd.nxt + 1, b.snd.nxt + 1, tcpFlgAck, a.rcv.wnd, [], a.local, a.foreign⟩ (now 5) 0 []
    hlb hfb hfp ⟨.inr rfl, rfl, .inl rfl⟩ (by simp)
  generalize hR3d : TcpSystem.step routes R2 ⟨.input ⟨a.snd.nxt + 1, b.snd.nxt + 1, tcpFlgAck,
    a.rcv.wnd, [], a.local, a.foreign⟩, now 5, 0, []⟩ = R3 at hR3 hhR3 hwR3 htR3 hrR3
  simp only [tcpSegmentArrivesPcb_lastAck_acked, tcpSegmentAcceptable_at_rcvNxt, hlen, hwb, ha₄,
    List.mem_cons, true_or, or_true, ne_eq, not_false_eq_true, hhR2, hwR2, htR2, List.append_nil,
    Bool.false_eq_true, if_false] at hR3 hhR3 hwR3 htR3 hrR3
  -- the TIME_WAIT timer releases the left side
  obtain ⟨hL4, hhL4, hwL4, htL4, hrL4⟩ :=
    TcpSystem.step_timeWaitTimeout_one routes hL3 rfl (now 6) hmsl 0 []
  generalize hL4d : TcpSystem.step routes L3 ⟨.timeWaitTimeout, now 6, 0, []⟩ = L4
    at hL4 hhL4 hwL4 htL4 hrL4
  -- each segment crosses in turn and the channel ends empty
  have hp : run routes ⟨L, R, [], []⟩ (orderlyClose tl tr now) = ⟨L4, R3, [], []⟩ := by
    simp only [run, orderlyClose, List.foldl, step_left, step_right, step_deliverRight,
      step_deliverLeft, TcpEvent.isInput, hL1d, sent, hwL1, List.drop_left, List.nil_append, hR1d,
      hwR1, hL2d, hwL2, List.drop_length, hR2d, hwR2, hL3d, hwL3, hR3d, hwR3, hL4d, hwL4,
      List.append_nil]
  rw [hp]
  refine ⟨hL4, ?_, ?_, hhR3, rfl, rfl, ?_, by simp [hwR3], by rw [htL4, htL3], htR3,
    by rw [hrL4, hrL3, hrL2, hrL1], hrR3.trans hrR2⟩
  · rw [show R3.world.pcbs = _ from hR3]; exact Function.update_eq_self _ _
  · simp [hhL4, hhL3, TcpHeap.alloc, TcpHeap.free]
  · simp [hwL4, hwL3]

/-- Running two schedules one after the other is running their
concatenation. -/
theorem run_append (p : TcpPair) (e₁ e₂ : List TcpPairEvent) :
    run routes p (e₁ ++ e₂) = run routes (run routes p e₁) e₂ := List.foldl_append _ _ _ _

/-- What an orderly close after the handshake leaves: both tables empty and
no task waiting, nothing in flight, each side's closing segments on the wire
after its handshake segments, and both closes returned `0`. The left heap is
empty again; the right heap still holds entry `1`, the retransmission entry
of the right side's FIN (entry `0` was that of its SYN|ACK). -/
structure Closed (p : TcpPair) (tl tr : Nat) (lcl frn : IpEndpoint) (il ir : BitVec 32) :
    Prop where
  released : (∀ i, p.left.world.pcbs i = TcpPcb.zero) ∧ ∀ i, p.right.world.pcbs i = TcpPcb.zero
  heaps : p.left.world.heap.live = [] ∧ p.right.world.heap.live = [1]
  channels : p.toRight = [] ∧ p.toLeft = []
  wires : p.left.wire = [⟨il, 0, tcpFlgSyn, 16, [], lcl, frn⟩,
      ⟨il + 1, ir + 1, tcpFlgAck, 16, [], lcl, frn⟩,
      ⟨il + 1, ir + 1, tcpFlgAck ||| tcpFlgFin, 16, [], lcl, frn⟩,
      ⟨il + 1 + 1, ir + 1 + 1, tcpFlgAck, 16, [], lcl, frn⟩] ∧
    p.right.wire = [⟨ir, il + 1, tcpFlgSyn ||| tcpFlgAck, 16, [], frn, lcl⟩,
      ⟨ir + 1, il + 1 + 1, tcpFlgAck, 16, [], frn, lcl⟩,
      ⟨ir + 1, il + 1 + 1, tcpFlgAck ||| tcpFlgFin, 16, [], frn, lcl⟩]
  returns : p.left.returns = [⟨tl, 0, []⟩, ⟨tl, 0, []⟩] ∧
    p.right.returns = [⟨tr, 0, []⟩, ⟨tr, 0, []⟩]
  idle : (∀ t, p.left.tasks t = .idle) ∧ ∀ t, p.right.tasks t = .idle

/-- A whole connection between two fresh stacks, on the premises of
`handshake_establishes`: the handshake, then the orderly close, with the
`TIME_WAIT` timer firing once `2 * TCP_MSL` seconds have passed since the left
side entered `TIME_WAIT`. Both tables end empty and both closes return `0`,
but the right side's heap keeps the entry of its FIN: in `LAST_ACK` the ACK
of the FIN is handled by `tcp_pcb_release` alone, which frees no queue
entry. -/
theorem handshake_orderlyClose_closed (tl tr : Nat) {lcl frn lclR : IpEndpoint}
    (hlcl : lcl.port ≠ 0) (hfrn : frn.port ≠ 0) (hlb : lcl.addr ≠ ipAddrBroadcast)
    (hfb : frn.addr ≠ ipAddrBroadcast)
    (hR : (lclR.addr = ipAddrAny ∨ lclR.addr = frn.addr) ∧ lclR.port = frn.port)
    (issL issR : BitVec 31) (now close : Nat → Int)
    (hmsl : 2 * tcpMsl ≤ (close 6 - close 4) / 1000000) :
    (run routes TcpPair.init (handshake tl tr lcl frn lclR issL issR now ++
      orderlyClose tl tr close)).Closed tl tr lcl frn (issL.setWidth 32) (issR.setWidth 32) := by
  obtain ⟨L, R, hp, hL, hhL, hwL, htL, hrL, hR', hhR, hwR, htR, hrR⟩ :=
    handshake_run routes tl tr hlcl hfrn hlb hfb hR issL issR now
  have hnw : ∀ x : BitVec 31, (x.setWidth 32 + 1).toNat + 2 ^ 16 < 2 ^ 32 := fun x => by
    have := x.isLt
    have hx : (x.setWidth 32).toNat = x.toNat := by simp; omega
    bv_omega
  obtain ⟨hlt, -⟩ := iss_no_wrap issR
  obtain ⟨hzL, hzR, hhL', hhR', hcr, hcl, hwL', hwR', htL', htR', hrL', hrR'⟩ :=
    orderlyClose_run routes tl tr hL hR'
      ⟨⟨rfl, rfl⟩, ⟨rfl, rfl⟩, ⟨rfl, rfl⟩, ⟨rfl, rfl⟩, ⟨rfl, rfl⟩, ⟨rfl, rfl⟩, ⟨rfl, rfl⟩⟩
      hlcl hfrn hlb hfb (show (16 : BitVec 16) ≠ 0 by decide) (show (16 : BitVec 16) ≠ 0 by decide)
      (hnw issL) (hnw issR) hlt htL htR close hmsl
  rw [run_append, hp]
  refine ⟨⟨fun i => by rw [hzL], fun i => by rw [hzR]⟩, ⟨by rw [hhL', hhL], by rw [hhR', hhR]; rfl⟩,
    ⟨hcr, hcl⟩, ⟨by simp [hwL', hwL], by simp [hwR', hwR]⟩, ⟨by simp [hrL', hrL], by simp [hrR', hrR]⟩,
    ⟨fun t => by rw [htL'], fun t => by rw [htR']⟩⟩

/-- The reference connection opened as in `handshake_establishes_ref`, then
closed by task 0 of each side, a step of the close every 200 seconds. -/
theorem handshake_orderlyClose_closed_ref :
    let lcl := TcpSystem.refLocal
    let frn := TcpSystem.refForeign
    (lcl.port ≠ 0 ∧ frn.port ≠ 0 ∧ lcl.addr ≠ ipAddrBroadcast ∧ frn.addr ≠ ipAddrBroadcast ∧
      (frn.addr = ipAddrAny ∨ frn.addr = frn.addr) ∧ frn.port = frn.port ∧
      2 * tcpMsl ≤ (200000000 * 6 - 200000000 * 4) / 1000000) ∧
    (run TcpSystem.ethernetRoutes TcpPair.init (handshake 0 0 lcl frn frn 0 1000 (fun k => 100 * k) ++
      orderlyClose 0 0 fun k => 200000000 * k)).Closed 0 0 lcl frn 0 1000 :=
  ⟨by decide, handshake_orderlyClose_closed TcpSystem.ethernetRoutes 0 0 (by decide) (by decide)
    (by decide) (by decide) (by decide) 0 1000 (fun k => 100 * k) (fun k => 200000000 * k)
    (by decide)⟩

end TcpPair

end MicroPs.Tcp
