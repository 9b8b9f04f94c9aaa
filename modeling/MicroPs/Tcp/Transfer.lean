/-
# A byte stream between two stacks

Over a connection between two stacks, the left side streams to the right side
in rounds. A task of the left side calls `tcp_send` with a chunk, the segment
crosses, the right side copies the chunk into its buffer and acknowledges it,
the ACK crosses and frees the chunk's retransmission entry, and a task of the
right side calls `tcp_receive`. Each round leaves the connection as it found
it, its sequence numbers moved on by the chunk, so a stream of chunks is
delivered in order, byte for byte, and neither heap keeps an entry.

The send window the left side ends a round with is the one the right side's
ACK advertised, before the chunk was read: sixteen bytes less the chunk.
`tcp_receive` reopens the right side's window but sends nothing, so the next
chunk must fit in what is left, which `ChunksFit` states.

The proof is that of `MicroPs.Tcp.Close`: one lemma for each handler a round
runs, one for each step of a stack that holds one connection, the round
composed from them, and the stream by recursion on the chunks.
-/

import Mathlib.Algebra.Order.Ring.Nat
import MicroPs.Tcp.Close
import MicroPs.Tcp.Stream
import MicroPs.Tcp.Send

namespace MicroPs.Tcp

/-! ## The two handlers of a round -/

/-- An acceptable segment with ACK|PSH and a payload reaching an
`ESTABLISHED` PCB and acknowledging nothing new: the payload is copied behind
the buffered bytes, `rcv.nxt` moves to the end of the segment, the window
shrinks, an ACK goes out and the PCB is woken. -/
theorem tcpSegmentArrivesPcb_established_data (a : TcpArrival) (r : PcbRun)
    (hst : r.pcb.state = .established) (hacc : tcpSegmentAcceptable r.pcb a.seg = true)
    (hflags : a.flags = tcpFlgAck ||| tcpFlgPsh) (hdata : a.data ≠ [])
    (hack : a.seg.ack = r.pcb.snd.una) (hle : r.pcb.snd.una ≤ r.pcb.snd.nxt) :
    tcpSegmentArrivesPcb a r =
      let rcv : TcpRcv :=
        ⟨a.seg.seq + a.seg.len.setWidth 32, r.pcb.rcv.wnd - BitVec.ofNat 16 a.data.length⟩
      { r with
        pcb := { r.pcb with buf := tcpBufCopy r.pcb.buf (tcpTextOffset r.pcb) a.data, rcv }
        out := r.out ++ [⟨r.pcb.snd.nxt, rcv.nxt, tcpFlgAck, rcv.wnd, [], r.pcb.local,
          r.pcb.foreign⟩]
        woken := true } := by
  have hflg : tcpFlgIsset (tcpFlgAck ||| tcpFlgPsh) tcpFlgRst = false ∧
      tcpFlgIsset (tcpFlgAck ||| tcpFlgPsh) tcpFlgSyn = false ∧
      tcpFlgIsset (tcpFlgAck ||| tcpFlgPsh) tcpFlgAck = true ∧
      tcpFlgIsset (tcpFlgAck ||| tcpFlgPsh) tcpFlgFin = false ∧
      tcpFlgIsset tcpFlgAck (tcpFlgSyn ||| tcpFlgFin) = false ∧
      tcpFlgIsset tcpFlgAck tcpFlgSyn = false := by decide
  have hnlt : ¬ r.pcb.snd.nxt < r.pcb.snd.una := by bv_omega
  simp [tcpSegmentArrivesPcb, hst, tcpSegmentArrivesOther, hacc, tcpSegmentArrivesRst, hflags, hflg,
    tcpSegmentArrivesSyn, tcpSegmentArrivesAck, tcpSegmentArrivesAckUpdate, hack, hnlt,
    tcpSegmentArrivesAckDone, tcpSegmentArrivesText, hdata, tcpSegmentArrivesFin, tcpOutput,
    tcpOutputSegment, PcbRun.wakeup]

/-- An acceptable bare ACK of new data up to `snd.nxt` reaching an
`ESTABLISHED` PCB, from a segment newer than the last window update:
`snd.una` moves to it and the queue is cleaned up, and the send window is
taken from the segment. Nothing is sent and nobody is woken. -/
theorem tcpSegmentArrivesPcb_established_acked (a : TcpArrival) (r : PcbRun)
    (hst : r.pcb.state = .established) (hacc : tcpSegmentAcceptable r.pcb a.seg = true)
    (hflags : a.flags = tcpFlgAck) (hdata : a.data = []) (huna : r.pcb.snd.una < a.seg.ack)
    (hnxt : a.seg.ack ≤ r.pcb.snd.nxt)
    (hwl : r.pcb.snd.wl1 < a.seg.seq ∨
      r.pcb.snd.wl1 = a.seg.seq ∧ r.pcb.snd.wl2 ≤ a.seg.ack) :
    tcpSegmentArrivesPcb a r =
      let cleaned := tcpRetransmitQueueCleanupLoop a.seg.ack r.pcb.queue r.heap
      { r with
        pcb := { r.pcb with
          snd := { r.pcb.snd with una := a.seg.ack, wnd := a.seg.wnd, wl2 := a.seg.ack },
          queue := cleaned.1 }
        heap := cleaned.2 } := by
  have hflg : tcpFlgIsset tcpFlgAck tcpFlgRst = false ∧
      tcpFlgIsset tcpFlgAck tcpFlgSyn = false ∧ tcpFlgIsset tcpFlgAck tcpFlgAck = true ∧
      tcpFlgIsset tcpFlgAck tcpFlgFin = false := by decide
  simp [tcpSegmentArrivesPcb, hst, hflg, tcpSegmentArrivesOther, hacc, tcpSegmentArrivesRst, hflags,
    tcpSegmentArrivesSyn, tcpSegmentArrivesAck, tcpSegmentArrivesAckUpdate, huna, hnxt,
    tcpSegmentArrivesAckDone, tcpSegmentArrivesAckNew, tcpSegmentArrivesWindowUpdate, hwl,
    tcpRetransmitQueueCleanup, tcpSegmentArrivesText, hdata, tcpSegmentArrivesFin]

/-! ## A stack with one connection, sending and reading -/

namespace TcpSystem

variable (routes : TcpRoutes)

/-- `tcp_send` of a nonempty chunk on the one connection of a stack, in
`ESTABLISHED`, when the chunk fits in one segment and in the usable send
window and `ip_output` accepts the segment: it is queued and sent from
`snd.nxt` in one ACK|PSH segment, `snd.nxt` moves past it, and the call
returns its length. -/
theorem step_send_one {s : TcpSystem} {pcb : TcpPcb} (hs : s.world.HoldsOne pcb) {t : Nat}
    (ht : s.tasks t = .idle) (hst : pcb.state = .established) {m : BitVec 16}
    (hmtu : routes.mtu pcb.foreign.addr = some m) {data : List Byte} (hne : data ≠ [])
    (hmss : data.length ≤ m.toNat - 40) (hcap : data.length ≤ tcpSendCap pcb) (now : Int)
    (rnd : BitVec 31) (ok : List Bool) (hok : ok.getD 0 true = true) :
    let s' := step routes s ⟨.call t (.send 0 data), now, rnd, ok⟩
    s'.world.HoldsOne { pcb with
        snd := { pcb.snd with nxt := pcb.snd.nxt + BitVec.ofNat 32 data.length },
        queue := pcb.queue ++ [⟨now, now, tcpDefaultRto, pcb.snd.nxt, tcpFlgAck ||| tcpFlgPsh,
          data, s.world.heap.next⟩] } ∧
      s'.world.heap = s.world.heap.alloc ∧
      s'.wire = s.wire ++ [⟨pcb.snd.nxt, pcb.rcv.nxt, tcpFlgAck ||| tcpFlgPsh, pcb.rcv.wnd, data,
        pcb.local, pcb.foreign⟩] ∧
      s'.tasks = Function.update s.tasks t .idle ∧
      s'.returns = s.returns ++ [⟨t, data.length, []⟩] := by
  have h0 : s.world.pcbs 0 = pcb := by rw [hs]; exact Function.update_same _ _ _
  have hget : tcpPcbGet s.world.pcbs 0 = some 0 := by simp [tcpPcbGet, h0, hst]
  obtain ⟨n, hn⟩ : ∃ n, data.length = n + 1 :=
    ⟨data.length - 1, by have := List.length_pos.2 hne; omega⟩
  have hmin : min (min (m.toNat - 40) (n + 1)) (tcpSendCap pcb) = n + 1 := by omega
  have hcap0 : tcpSendCap pcb ≠ 0 := by omega
  have htake : data.take (n + 1) = data := List.take_of_length_le (by omega)
  have hflg : tcpFlgIsset (tcpFlgAck ||| tcpFlgPsh) tcpFlgSyn = false := by decide
  rw [List.getD_eq_getElem?_getD] at hok
  simp only [step, ht, startCall, tcpSend, hget, tcpSendRetry, h0, hst, hmtu]
  simp [tcpSendLoop, hn, hmin, hcap0, htake, TcpWorld.runOn, h0, hst, tcpOutput, hflg, tcpRetransmitQueueAdd,
    tcpOutputSegment, hok, TcpWorld.setPcb, finish, absorb, TcpWorld.HoldsOne,
    show s.world.pcbs = _ from hs]

/-- `tcp_receive` on the one connection of a stack, in `ESTABLISHED`, with
bytes buffered: the first `min size remain` of them are copied out and
returned, the rest moved to the front, and the window reopens by as many.
Nothing is sent. -/
theorem step_receive_one {s : TcpSystem} {pcb : TcpPcb} (hs : s.world.HoldsOne pcb) {t : Nat}
    (ht : s.tasks t = .idle) (hst : pcb.state = .established) (hrem : tcpRemain pcb ≠ 0)
    (size : Nat) (now : Int) (rnd : BitVec 31) (ok : List Bool) :
    let len := min size (tcpRemain pcb)
    let s' := step routes s ⟨.call t (.receive 0 size), now, rnd, ok⟩
    s'.world.HoldsOne { pcb with
        buf := tcpBufShift pcb.buf len (tcpRemain pcb),
        rcv := { pcb.rcv with wnd := pcb.rcv.wnd + BitVec.ofNat 16 len } } ∧
      s'.world.heap = s.world.heap ∧ s'.wire = s.wire ∧
      s'.tasks = Function.update s.tasks t .idle ∧
      s'.returns = s.returns ++ [⟨t, len, tcpBufTake pcb.buf len⟩] := by
  have h0 : s.world.pcbs 0 = pcb := by rw [hs]; exact Function.update_same _ _ _
  have hget : tcpPcbGet s.world.pcbs 0 = some 0 := by simp [tcpPcbGet, h0, hst]
  simp only [step, ht, startCall, tcpReceive, hget, tcpReceiveRetry, h0, hst]
  simp [hrem, tcpReceiveCopy, h0, hst, TcpWorld.setPcb, finish, absorb, TcpWorld.HoldsOne,
    show s.world.pcbs = _ from hs]

end TcpSystem

/-! ## A round of the stream -/

namespace TcpPair

variable (routes : TcpRoutes)

/-- One round of the stream: task `tl` of the left side sends `data` on slot
`0`, the segment crosses, the right side's ACK crosses back, and task `tr` of
the right side reads up to sixteen bytes, all at the clock reading `now`. -/
def transfer (tl tr : Nat) (data : List Byte) (now : Int) : List TcpPairEvent :=
  [.left ⟨.call tl (.send 0 data), now, 0, []⟩,
   .deliverRight now 0,
   .deliverLeft now 0,
   .right ⟨.call tr (.receive 0 16), now, 0, []⟩]

/-- What the rounds need of the two ends `a` (left) and `b` (right) of a
connection, besides what a round changes: both `ESTABLISHED` between mirrored
endpoints whose ports are not `0` and whose addresses are not the broadcast
address; the left end has received everything the right end has sent, and
the right end has it acknowledged; the left end's receive window is open and
its last window update is older than the right end's `snd.nxt`, which is at
least `2 ^ 16` below the end of the sequence space; both queues are empty. -/
structure StreamEnds (a b : TcpPcb) : Prop where
  established : a.state = .established ∧ b.state = .established
  endpoints : a.local = b.foreign ∧ a.foreign = b.local
  ports : a.local.port ≠ 0 ∧ a.foreign.port ≠ 0
  addrs : a.local.addr ≠ ipAddrBroadcast ∧ a.foreign.addr ≠ ipAddrBroadcast
  received : a.rcv.nxt = b.snd.nxt
  acked : b.snd.una = b.snd.nxt
  window : a.rcv.wnd ≠ 0
  update : a.snd.wl1 < b.snd.nxt
  noWrap : b.snd.nxt.toNat + 2 ^ 16 < 2 ^ 32
  queues : a.queue = [] ∧ b.queue = []

/-- The pair between two rounds on the ends `a` and `b`: the left end has
sent up to `nxt`, all of it acknowledged and nothing queued, and holds the
send window `wnd` the last ACK advertised; the right end has received up to
`nxt` and handed all of it to its reader, its window open to the full sixteen
bytes; neither heap holds an entry, nothing is in flight and no task waits. -/
structure Streaming (p : TcpPair) (a b : TcpPcb) (nxt : BitVec 32) (wnd : BitVec 16) : Prop where
  left : p.left.world.HoldsOne
    { a with snd := { a.snd with nxt, una := nxt, wnd, wl2 := nxt }, queue := [] }
  right : ∃ buf, p.right.world.HoldsOne { b with buf, rcv := ⟨nxt, 16⟩ }
  heaps : p.left.world.heap.live = [] ∧ p.right.world.heap.live = []
  channels : p.toRight = [] ∧ p.toLeft = []
  idle : p.left.tasks = (fun _ => .idle) ∧ p.right.tasks = (fun _ => .idle)

/-- Between rounds the connection is open at both ends. -/
theorem Streaming.established {p : TcpPair} {a b : TcpPcb} {nxt : BitVec 32} {wnd : BitVec 16}
    (h : p.Streaming a b nxt wnd) (hab : StreamEnds a b) :
    (p.left.world.pcbs 0).state = .established ∧ (p.right.world.pcbs 0).state = .established := by
  obtain ⟨buf, hR⟩ := h.right
  rw [h.left, hR]
  exact ⟨hab.established.1, hab.established.2⟩

/-- One round from a pair between rounds, for a nonempty chunk that fits in
the send window, in one segment and in the right side's buffer, and does not
carry `snd.nxt` within `2 ^ 16` of the end of the sequence space: the right
task reads the chunk, the left task's `tcp_send` returns its length, and the
pair is between rounds again, `nxt` moved past the chunk and the send window
the sixteen bytes less the chunk that the ACK advertised. -/
theorem transfer_run (tl tr : Nat) {a b : TcpPcb} (hab : StreamEnds a b) {m : BitVec 16}
    (hmtu : routes.mtu a.foreign.addr = some m) (hm : 56 ≤ m.toNat) {p : TcpPair}
    {nxt : BitVec 32} {wnd : BitVec 16} (hp : p.Streaming a b nxt wnd) {data : List Byte}
    (hne : data ≠ []) (hfit : data.length ≤ wnd.toNat) (hwnd : wnd.toNat ≤ 16)
    (hnw : nxt.toNat + data.length + 2 ^ 16 < 2 ^ 32) (now : Int) :
    let q := run routes p (transfer tl tr data now)
    q.Streaming a b (nxt + BitVec.ofNat 32 data.length) (16 - BitVec.ofNat 16 data.length) ∧
      q.left.returns = p.left.returns ++ [⟨tl, data.length, []⟩] ∧
      q.right.returns = p.right.returns ++ [⟨tr, data.length, data⟩] := by
  obtain ⟨⟨hsa, hsb⟩, ⟨hab', hba⟩, ⟨hlp, hfp⟩, ⟨hlb, hfb⟩, hrcv, hack, hwa, hwl, hnb, -, hqb⟩ :=
    hab
  obtain ⟨L, R, toR, toL⟩ := p
  obtain ⟨hL, ⟨buf, hR⟩, ⟨hhL, hhR⟩, ⟨rfl, rfl⟩, ⟨htL, htR⟩⟩ := hp
  simp only at hL hR hhL hhR htL htR
  have hidle : ∀ t : Nat, Function.update (fun _ => TcpTask.idle) t .idle = fun _ => .idle :=
    fun t => Function.update_eq_self t _
  have hlen : data.length ≤ 16 := le_trans hfit hwnd
  -- the left side sends the chunk
  obtain ⟨hL1, hhL1, hwL1, htL1, hrL1⟩ := TcpSystem.step_send_one routes hL
    (show L.tasks tl = .idle by rw [htL]) hsa hmtu hne (by omega)
    (by rw [tcpSendCap_eq _ (by simp [tcpInFlight])]; simpa [tcpInFlight] using hfit) now 0 [] rfl
  generalize hL1d : TcpSystem.step routes L ⟨.call tl (.send 0 data), now, 0, []⟩ = L1
    at hL1 hhL1 hwL1 htL1 hrL1
  simp only [htL, hidle, List.nil_append, hrcv] at htL1 hL1 hwL1
  -- the chunk reaches the right side, which buffers and acknowledges it
  have hseg : tcpSegLen (tcpFlgAck ||| tcpFlgPsh) data = BitVec.ofNat 16 data.length ∧
      tcpSegLen tcpFlgAck [] = 0 := by
    have hflg : tcpFlgIsset (tcpFlgAck ||| tcpFlgPsh) tcpFlgSyn = false ∧
        tcpFlgIsset (tcpFlgAck ||| tcpFlgPsh) tcpFlgFin = false := by decide
    simp [tcpSegLen, hflg]; decide
  have h16 : (16 : BitVec 16) ≠ 0 ∧ (16 : BitVec 16).toNat = 16 := by decide
  have hoff : ∀ pcb : TcpPcb, pcb.rcv.wnd = 16 → tcpTextOffset pcb = 0 := fun pcb h => by
    simp [tcpTextOffset, tcpBufSize, h]
  have hw32 := setWidth_ofNat_16 (show data.length < 2 ^ 16 by omega)
  obtain ⟨hb₁, hb₂, -⟩ := seq_no_wrap hnb hwa
  obtain ⟨-, hn₁, -⟩ := seq_no_wrap (show nxt.toNat + 2 ^ 16 < 2 ^ 32 by omega) h16.1
  obtain ⟨hR1, hhR1, hwR1, htR1, hrR1⟩ := TcpSystem.step_input_one routes hR
    ⟨nxt, b.snd.nxt, tcpFlgAck ||| tcpFlgPsh, a.rcv.wnd, data, a.local, a.foreign⟩ now 0 []
    hlb hfb hfp ⟨.inr (by rw [hba]), by rw [hba], .inl hab'.symm⟩ (by simp [hsb])
  generalize hR1d : TcpSystem.step routes R ⟨.input ⟨nxt, b.snd.nxt, tcpFlgAck ||| tcpFlgPsh,
    a.rcv.wnd, data, a.local, a.foreign⟩, now, 0, []⟩ = R1 at hR1 hhR1 hwR1 htR1 hrR1
  simp only [tcpSegmentArrivesPcb_established_data, hsb, tcpSegmentAcceptable_at_rcvNxt, hseg,
    hack, hb₁, h16, hn₁, hne, List.mem_cons, true_or, or_true, ne_eq, not_false_eq_true, hoff,
    eq_self_iff_true, hw32, htR, if_true, TcpSystem.wakeSlot_idle, List.nil_append]
    at hR1 hhR1 hwR1 htR1 hrR1
  -- the ACK reaches the left side, which frees the chunk's entry
  have hx : nxt < nxt + BitVec.ofNat 32 data.length ∧
      nxt + BitVec.ofNat 32 data.length ≤ nxt + BitVec.ofNat 32 data.length ∧
      ¬ nxt + BitVec.ofNat 32 data.length ≤ nxt := by
    have := List.length_pos.2 hne
    have hl : (BitVec.ofNat 32 data.length).toNat = data.length := by simp; omega
    bv_omega
  obtain ⟨hL2, hhL2, hwL2, htL2, hrL2⟩ := TcpSystem.step_input_one routes hL1
    ⟨b.snd.nxt, nxt + BitVec.ofNat 32 data.length, tcpFlgAck, 16 - BitVec.ofNat 16 data.length, [],
      b.local, b.foreign⟩ now 0 [] (by rw [← hba]; exact hfb) (by rw [← hab']; exact hlb)
    (by rw [← hab']; exact hlp) ⟨.inr (by rw [hab']), by rw [hab'], .inl hba⟩ (by simp [hsa])
  generalize hL2d : TcpSystem.step routes L1 ⟨.input ⟨b.snd.nxt, nxt + BitVec.ofNat 32 data.length,
    tcpFlgAck, 16 - BitVec.ofNat 16 data.length, [], b.local, b.foreign⟩, now, 0, []⟩ = L2
    at hL2 hhL2 hwL2 htL2 hrL2
  simp only [tcpSegmentArrivesPcb_established_acked, hsa, tcpSegmentAcceptable_at_rcvNxt, hseg,
    hrcv, hwa, hb₂, hx, hwl, List.mem_cons, true_or, or_true, ne_eq, not_false_eq_true,
    eq_self_iff_true, hhL1, hwL1, htL1, tcpRetransmitQueueCleanupLoop, if_false, List.append_nil,
    Bool.false_eq_true] at hL2 hhL2 hwL2 htL2 hrL2
  -- the right side's task reads the chunk and the window reopens
  have hwsub : (16 - BitVec.ofNat 16 data.length).toNat = 16 - data.length :=
    rcvWnd_sub_toNat hlen
  have hremain : ∀ pcb : TcpPcb, pcb.rcv.wnd = 16 - BitVec.ofNat 16 data.length →
      tcpRemain pcb = data.length := fun pcb h => by
    unfold tcpRemain tcpBufSize; rw [h, hwsub]; omega
  have hmin : min 16 data.length = data.length := by omega
  have htake : tcpBufTake (tcpBufCopy buf 0 data) data.length = data := by
    simpa [tcpBufTake] using tcpBufTake_tcpBufCopy buf (show 0 + data.length ≤ 16 by omega)
  obtain ⟨hR2, hhR2, hwR2, htR2, hrR2⟩ := TcpSystem.step_receive_one routes hR1
    (show R1.tasks tr = .idle by rw [htR1]) rfl
    (by rw [hremain]; exacts [(List.length_pos.2 hne).ne', rfl]) 16 now 0 []
  generalize hR2d : TcpSystem.step routes R1 ⟨.call tr (.receive 0 16), now, 0, []⟩ = R2
    at hR2 hhR2 hwR2 htR2 hrR2
  simp only [hremain, eq_self_iff_true, hmin, htake, BitVec.sub_add_cancel, htR1, hidle, hhR1,
    hwR1, hrR1]
    at hR2 hhR2 hwR2 htR2 hrR2
  -- the chunk and its ACK cross in turn and the channel ends empty
  have hp : run routes ⟨L, R, [], []⟩ (transfer tl tr data now) = ⟨L2, R2, [], []⟩ := by
    simp only [run, transfer, List.foldl, step_left, step_right, step_deliverRight,
      step_deliverLeft, TcpEvent.isInput, hL1d, sent, hwL1, List.drop_left, List.nil_append, hR1d,
      hwR1, hL2d, hwL2, List.drop_length, hR2d, hwR2, List.append_nil]
  rw [hp]
  refine ⟨⟨by simpa only [hsa] using hL2, ⟨_, by simpa only [hsb] using hR2⟩,
    ⟨by simp [hhL2, TcpHeap.alloc, TcpHeap.free, hhL], by rw [hhR2, hhR]⟩, ⟨rfl, rfl⟩,
    ⟨htL2, htR2⟩⟩, by rw [hrL2, hrL1], hrR2⟩

/-! ## The stream -/

/-- Chunks the stream carries one round each, starting from a send window of
`wnd` bytes: none is empty, and each fits in the window the previous round's
ACK advertised, sixteen bytes less the previous chunk. -/
def ChunksFit : Nat → List (List Byte) → Prop
  | _, [] => True
  | wnd, c :: cs => c ≠ [] ∧ c.length ≤ wnd ∧ ChunksFit (16 - c.length) cs

instance decChunksFit : (wnd : Nat) → (cs : List (List Byte)) → Decidable (ChunksFit wnd cs)
  | _, [] => isTrue trivial
  | _, c :: cs =>
    have := decChunksFit (16 - c.length) cs
    inferInstanceAs (Decidable (_ ∧ _ ∧ _))

/-- The rounds of a stream, each chunk with the clock reading of its round. -/
def stream (tl tr : Nat) : List (List Byte × Int) → List TcpPairEvent
  | [] => []
  | (data, now) :: rest => transfer tl tr data now ++ stream tl tr rest

/-- A stream of chunks that fit the windows, from a pair between rounds whose
send window is at most sixteen bytes, with `nxt` far enough from the end of
the sequence space for all of them: the right task reads each chunk in turn,
byte for byte, the left task's `tcp_send` returns each chunk's length, and
the pair ends between rounds. -/
theorem stream_run (tl tr : Nat) {a b : TcpPcb} (hab : StreamEnds a b) {m : BitVec 16}
    (hmtu : routes.mtu a.foreign.addr = some m) (hm : 56 ≤ m.toNat) :
    ∀ (chunks : List (List Byte × Int)) (p : TcpPair) (nxt : BitVec 32) (wnd : BitVec 16),
      p.Streaming a b nxt wnd → wnd.toNat ≤ 16 → ChunksFit wnd.toNat (chunks.map Prod.fst) →
      nxt.toNat + (chunks.map fun c => c.1.length).sum + 2 ^ 16 < 2 ^ 32 →
      let q := run routes p (stream tl tr chunks)
      (∃ nxt' wnd', q.Streaming a b nxt' wnd') ∧
        q.left.returns = p.left.returns ++ chunks.map (fun c => ⟨tl, c.1.length, []⟩) ∧
        q.right.returns = p.right.returns ++ chunks.map (fun c => ⟨tr, c.1.length, c.1⟩)
  | [], p, nxt, wnd, hp, _, _, _ => ⟨⟨nxt, wnd, hp⟩, by simp [stream, run], by simp [stream, run]⟩
  | (data, now) :: rest, p, nxt, wnd, hp, hwnd, ⟨hne, hfit, hfits⟩, hnw => by
    simp only [List.map_cons, List.sum_cons] at hnw hfits hne hfit ⊢
    obtain ⟨hq, hl, hr⟩ :=
      transfer_run routes tl tr hab hmtu hm hp hne hfit hwnd (by omega) now
    have hwnd' : (16 - BitVec.ofNat 16 data.length).toNat = 16 - data.length :=
      rcvWnd_sub_toNat (le_trans hfit hwnd)
    have hnxt' : (nxt + BitVec.ofNat 32 data.length).toNat = nxt.toNat + data.length := by
      rw [BitVec.toNat_add, BitVec.toNat_ofNat]; omega
    obtain ⟨hq', hl', hr'⟩ := stream_run tl tr hab hmtu hm rest _ _ _ hq (by omega)
      (by rw [hwnd']; exact hfits) (by omega)
    refine ⟨hq', ?_, ?_⟩ <;> simp only [stream, run_append, hl', hr', hl, hr, List.map_cons,
      List.append_assoc, List.singleton_append]

/-- A stream between two fresh stacks, on the premises of
`handshake_establishes`, over a route whose MTU takes a sixteen-byte chunk in
one segment: after the handshake, every list of chunks that fit the windows
and stay clear of the end of the sequence space is carried in order, each
chunk sent by task `tl` of the left side and read whole by task `tr` of the
right side. The connection is still open at both ends, nothing is in flight,
no task waits, and neither heap keeps an entry. -/
theorem handshake_stream_delivers (tl tr : Nat) {lcl frn lclR : IpEndpoint}
    (hlcl : lcl.port ≠ 0) (hfrn : frn.port ≠ 0) (hlb : lcl.addr ≠ ipAddrBroadcast)
    (hfb : frn.addr ≠ ipAddrBroadcast)
    (hR : (lclR.addr = ipAddrAny ∨ lclR.addr = frn.addr) ∧ lclR.port = frn.port)
    (issL issR : BitVec 31) (now : Nat → Int) {m : BitVec 16}
    (hmtu : routes.mtu frn.addr = some m) (hm : 56 ≤ m.toNat) (chunks : List (List Byte × Int))
    (hfits : ChunksFit 16 (chunks.map Prod.fst))
    (hsum : (chunks.map fun c => c.1.length).sum + 2 ^ 16 < 2 ^ 31) :
    let q := run routes TcpPair.init
      (handshake tl tr lcl frn lclR issL issR now ++ stream tl tr chunks)
    q.left.returns = ⟨tl, 0, []⟩ :: chunks.map (fun c => ⟨tl, c.1.length, []⟩) ∧
      q.right.returns = ⟨tr, 0, []⟩ :: chunks.map (fun c => ⟨tr, c.1.length, c.1⟩) ∧
      (q.left.world.pcbs 0).state = .established ∧ (q.right.world.pcbs 0).state = .established ∧
      q.left.world.heap.live = [] ∧ q.right.world.heap.live = [] ∧ q.toRight = [] ∧
      q.toLeft = [] ∧ q.left.tasks = (fun _ => .idle) ∧ q.right.tasks = (fun _ => .idle) := by
  obtain ⟨L, R, hp, hL, hhL, -, htL, hrL, hR', hhR, -, htR, hrR⟩ :=
    handshake_run routes tl tr hlcl hfrn hlb hfb hR issL issR now
  have hnw : ∀ x : BitVec 31, (x.setWidth 32 + 1).toNat + 2 ^ 16 < 2 ^ 32 ∧
      (x.setWidth 32 + 1).toNat ≤ 2 ^ 31 := fun x => by
    have := x.isLt
    have hx : (x.setWidth 32).toNat = x.toNat := by simp; omega
    bv_omega
  obtain ⟨hlt, -⟩ := iss_no_wrap issR
  have hab : StreamEnds
      { TcpPcb.zero with
        active := true, state := .established, «local» := lcl, foreign := frn,
        snd := ⟨issL.setWidth 32 + 1, issL.setWidth 32 + 1, 16, issR.setWidth 32,
          issL.setWidth 32 + 1⟩,
        iss := issL.setWidth 32, rcv := ⟨issR.setWidth 32 + 1, 16⟩, irs := issR.setWidth 32,
        startTime := now 1, ctx := ⟨false, 0⟩ }
      { TcpPcb.zero with
        state := .established, «local» := frn, foreign := lcl,
        snd := ⟨issR.setWidth 32 + 1, issR.setWidth 32 + 1, 16, 0, issR.setWidth 32 + 1⟩,
        iss := issR.setWidth 32, rcv := ⟨issL.setWidth 32 + 1, 16⟩, irs := issL.setWidth 32,
        startTime := now 0, ctx := ⟨false, 0⟩ } :=
    ⟨⟨rfl, rfl⟩, ⟨rfl, rfl⟩, ⟨hlcl, hfrn⟩, ⟨hlb, hfb⟩, rfl, rfl,
      show (16 : BitVec 16) ≠ 0 by decide, hlt, (hnw issR).1, ⟨rfl, rfl⟩⟩
  obtain ⟨⟨nxt', wnd', hq⟩, hl, hr⟩ := stream_run routes tl tr hab hmtu hm chunks
    ⟨L, R, [], []⟩ (issL.setWidth 32 + 1) 16
    ⟨hL, ⟨_, hR'⟩, ⟨by rw [hhL], by rw [hhR]⟩, ⟨rfl, rfl⟩, ⟨htL, htR⟩⟩
    (by decide) hfits (by have := (hnw issL).2; omega)
  rw [run_append, hp]
  obtain ⟨hsL, hsR⟩ := hq.established hab
  exact ⟨by rw [hl, hrL]; rfl, by rw [hr, hrR]; rfl, hsL, hsR, hq.heaps.1, hq.heaps.2,
    hq.channels.1, hq.channels.2, hq.idle.1, hq.idle.2⟩

/-- Eight bytes, eight more, and one, from the reference connection of
`handshake_establishes_ref` over Ethernet. -/
theorem handshake_stream_delivers_ref :
    let lcl := TcpSystem.refLocal
    let frn := TcpSystem.refForeign
    let chunks : List (List Byte × Int) :=
      [([1, 2, 3, 4, 5, 6, 7, 8], 1000), ([9, 10, 11, 12, 13, 14, 15, 16], 2000), ([17], 3000)]
    (lcl.port ≠ 0 ∧ frn.port ≠ 0 ∧ lcl.addr ≠ ipAddrBroadcast ∧ frn.addr ≠ ipAddrBroadcast ∧
      (frn.addr = ipAddrAny ∨ frn.addr = frn.addr) ∧ frn.port = frn.port ∧
      TcpSystem.ethernetRoutes.mtu frn.addr = some 1500 ∧ 56 ≤ (1500 : BitVec 16).toNat ∧
      ChunksFit 16 (chunks.map Prod.fst) ∧ (chunks.map fun c => c.1.length).sum + 2 ^ 16 < 2 ^ 31) ∧
    let q := run TcpSystem.ethernetRoutes TcpPair.init
      (handshake 0 0 lcl frn frn 0 1000 (fun k => 100 * k) ++ stream 0 0 chunks)
    q.right.returns = [⟨0, 0, []⟩, ⟨0, 8, [1, 2, 3, 4, 5, 6, 7, 8]⟩,
        ⟨0, 8, [9, 10, 11, 12, 13, 14, 15, 16]⟩, ⟨0, 1, [17]⟩] ∧
      q.left.world.heap.live = [] ∧ q.right.world.heap.live = [] :=
  let h := handshake_stream_delivers TcpSystem.ethernetRoutes 0 0 (by decide) (by decide)
    (by decide) (by decide) (by decide) 0 1000 (fun k => 100 * k) rfl (by decide)
    [([1, 2, 3, 4, 5, 6, 7, 8], 1000), ([9, 10, 11, 12, 13, 14, 15, 16], 2000), ([17], 3000)]
    (by decide) (by decide)
  ⟨by decide, h.2.1, h.2.2.2.2.1, h.2.2.2.2.2.1⟩

end TcpPair

end MicroPs.Tcp
