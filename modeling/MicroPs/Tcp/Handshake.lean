/-
# The three-way handshake between two stacks

Two fresh stacks on the channel of `MicroPs.Tcp.Pair`. A task of the right
side opens passively; a task of the left side opens actively; the SYN, the
SYN|ACK and the ACK cross in turn, and each task resumes once
`tcp_segment_arrives` has woken it. Whatever the two ISSs `random()` draws,
the endpoints and the clock readings, the two tables then hold the two ends
of one synchronized connection: both `ESTABLISHED`, each end's `snd.nxt` the
other's `rcv.nxt`, nothing unacknowledged, queued, allocated or in flight,
and both opens have returned slot `0`.

The premises are those of the code. The ports are not `0`, since a `FREE`
slot matches port `0` (`tcpPcbSelect_matches_free_slot`); neither address is
the broadcast address, which `tcp_input` drops; the listening endpoint matches
the one the left side connects to. `random()` gives 31 bits, so neither ISS
is at the end of the sequence space, where the unsigned tests of the
`SYN_SENT` branch and of the window test would wrap.

The proof follows the segments: one lemma for each handler the handshake
runs (`LISTEN` taking a SYN, `SYN_SENT` taking the SYN|ACK, `SYN_RECEIVED`
taking the ACK), one for each step of a stack that holds one connection, and
the schedule of the pair composed from them.
-/

import MicroPs.Tcp.Pair
import MicroPs.Tcp.Endpoints

namespace MicroPs.Tcp

/-! ## The three handlers of a handshake -/

/-- A SYN without ACK or RST reaching a `LISTEN` PCB: the endpoints become the
segment's, `rcv.nxt` moves past the SYN, the drawn ISS is installed, a
SYN|ACK from it is queued and sent, and the PCB enters `SYN_RECEIVED`. -/
theorem tcpSegmentArrivesPcb_listen_answers_syn (a : TcpArrival) (r : PcbRun)
    (hl : r.pcb.state = .listen) (hnrst : tcpFlgIsset a.flags tcpFlgRst = false)
    (hnack : tcpFlgIsset a.flags tcpFlgAck = false) (hsyn : tcpFlgIsset a.flags tcpFlgSyn = true) :
    tcpSegmentArrivesPcb a r =
      { r with
        pcb := { r.pcb with
          «local» := a.local, foreign := a.foreign, state := .synReceived,
          snd := { r.pcb.snd with nxt := a.iss + 1, una := a.iss },
          rcv := ⟨a.seg.seq + 1, 16⟩, irs := a.seg.seq, iss := a.iss,
          queue := r.pcb.queue ++
            [⟨a.now, a.now, tcpDefaultRto, a.iss, tcpFlgSyn ||| tcpFlgAck, [], r.heap.next⟩] }
        heap := r.heap.alloc
        out := r.out ++
          [⟨a.iss, a.seg.seq + 1, tcpFlgSyn ||| tcpFlgAck, 16, [], a.local, a.foreign⟩] } := by
  have hsa : tcpFlgIsset (tcpFlgSyn ||| tcpFlgAck) tcpFlgSyn = true := by decide
  have hqa : tcpFlgIsset (tcpFlgSyn ||| tcpFlgAck) (tcpFlgSyn ||| tcpFlgFin) = true := by decide
  simp [tcpSegmentArrivesPcb, hl, tcpSegmentArrivesListen, hnrst, hnack, hsyn, tcpOutput, hsa, hqa,
    tcpRetransmitQueueAdd, tcpOutputSegment]

/-- A SYN|ACK reaching a `SYN_SENT` PCB whose ACK lies in `(iss, snd.nxt]` and
at or past `snd.una`: `snd.una` moves to it and the queue is cleaned up,
`rcv.nxt` moves past the peer's SYN, the send window is taken from the
segment, an ACK goes out, and the connection is established and woken. -/
theorem tcpSegmentArrivesPcb_synSent_establishes (a : TcpArrival) (r : PcbRun)
    (hs : r.pcb.state = .synSent) (hnrst : tcpFlgIsset a.flags tcpFlgRst = false)
    (hack : tcpFlgIsset a.flags tcpFlgAck = true) (hsyn : tcpFlgIsset a.flags tcpFlgSyn = true)
    (hiss : r.pcb.iss < a.seg.ack) (huna : r.pcb.snd.una ≤ a.seg.ack)
    (hnxt : a.seg.ack ≤ r.pcb.snd.nxt) :
    tcpSegmentArrivesPcb a r =
      let cleaned := tcpRetransmitQueueCleanupLoop a.seg.ack r.pcb.queue r.heap
      { pcb := { r.pcb with
          state := .established, rcv := { r.pcb.rcv with nxt := a.seg.seq + 1 }, irs := a.seg.seq,
          snd := { r.pcb.snd with una := a.seg.ack, wnd := a.seg.wnd, wl1 := a.seg.seq,
                                  wl2 := a.seg.ack },
          queue := cleaned.1 }
        heap := cleaned.2
        out := r.out ++ [⟨r.pcb.snd.nxt, a.seg.seq + 1, tcpFlgAck, r.pcb.rcv.wnd, [], r.pcb.local,
          r.pcb.foreign⟩]
        woken := true } := by
  have hna : tcpFlgIsset tcpFlgAck tcpFlgSyn = false := by decide
  have hnq : tcpFlgIsset tcpFlgAck (tcpFlgSyn ||| tcpFlgFin) = false := by decide
  have hle : ¬ a.seg.ack ≤ r.pcb.iss := by bv_omega
  have hlt : ¬ r.pcb.snd.nxt < a.seg.ack := by bv_omega
  simp [tcpSegmentArrivesPcb, hs, tcpSegmentArrivesSynSent, tcpSegmentArrivesSynSentSyn, hnrst,
    hack, hsyn, hle, hlt, huna, hnxt, hiss, tcpOutput, hna, hnq, tcpOutputSegment,
    tcpRetransmitQueueCleanup, PcbRun.wakeup, PcbRun.setState]

/-- An acceptable bare ACK reaching a `SYN_RECEIVED` PCB that acknowledges new
data up to `snd.nxt`, from a segment newer than the last window update:
`snd.una` moves to it and the queue is cleaned up, the send window is taken
from the segment, and the connection is established and woken. Nothing is
sent. -/
theorem tcpSegmentArrivesPcb_synReceived_establishes (a : TcpArrival) (r : PcbRun)
    (hst : r.pcb.state = .synReceived) (hacc : tcpSegmentAcceptable r.pcb a.seg = true)
    (hflags : a.flags = tcpFlgAck) (hdata : a.data = []) (huna : r.pcb.snd.una < a.seg.ack)
    (hnxt : a.seg.ack ≤ r.pcb.snd.nxt)
    (hwl : r.pcb.snd.wl1 < a.seg.seq ∨
      r.pcb.snd.wl1 = a.seg.seq ∧ r.pcb.snd.wl2 ≤ a.seg.ack) :
    tcpSegmentArrivesPcb a r =
      let cleaned := tcpRetransmitQueueCleanupLoop a.seg.ack r.pcb.queue r.heap
      { r with
        pcb := { r.pcb with
          state := .established,
          snd := { r.pcb.snd with una := a.seg.ack, wnd := a.seg.wnd, wl2 := a.seg.ack },
          queue := cleaned.1 }
        heap := cleaned.2
        woken := true } := by
  have hle : r.pcb.snd.una ≤ a.seg.ack := by bv_omega
  have hflg : tcpFlgIsset tcpFlgAck tcpFlgRst = false ∧
      tcpFlgIsset tcpFlgAck tcpFlgSyn = false ∧ tcpFlgIsset tcpFlgAck tcpFlgAck = true ∧
      tcpFlgIsset tcpFlgAck tcpFlgFin = false := by decide
  simp [tcpSegmentArrivesPcb, hst, hflg, tcpSegmentArrivesOther, hacc, tcpSegmentArrivesRst, hflags,
    tcpSegmentArrivesSyn, tcpSegmentArrivesAck, hle, hnxt, tcpSegmentArrivesAckUpdate, huna,
    tcpSegmentArrivesAckDone, tcpSegmentArrivesAckNew, tcpSegmentArrivesWindowUpdate, hwl,
    tcpRetransmitQueueCleanup, tcpSegmentArrivesText, hdata, tcpSegmentArrivesFin, PcbRun.wakeup,
    PcbRun.setState]

/-! ## A stack with one connection -/

/-- The table holds one PCB, `pcb` in slot `0`; every other slot is zeroed. -/
def TcpWorld.HoldsOne (w : TcpWorld) (pcb : TcpPcb) : Prop :=
  w.pcbs = Function.update (fun _ => TcpPcb.zero) 0 pcb

/-- The selection loop over a table whose slots other than `i` are zeroed,
for a local port other than `0`: the zeroed slots never match, so slot `i` is
answered when it is exact or a wildcard `LISTEN` slot. -/
theorem tcpPcbSelectLoop_single {pcbs : Fin 16 → TcpPcb} {i : Fin 16}
    (hz : ∀ j, j ≠ i → pcbs j = TcpPcb.zero) {lcl : IpEndpoint} (hport : lcl.port ≠ 0)
    (frn : IpEndpoint) :
    ∀ (l : List (Fin 16)) (c : Option (Fin 16)), tcpPcbSelectLoop pcbs lcl (some frn) l c =
      if i ∈ l ∧ (TcpPcbExact (pcbs i) lcl frn ∨ TcpPcbListenWild (pcbs i) lcl) then some i
      else c
  | [], c => by simp [tcpPcbSelectLoop]
  | j :: rest, c => by
    rw [tcpPcbSelectLoop_cons, tcpPcbSelectLoop_single hz hport frn rest]
    by_cases hj : j = i
    · subst hj
      by_cases hx : TcpPcbExact (pcbs j) lcl frn <;> by_cases hw : TcpPcbListenWild (pcbs j) lcl <;>
        simp [hx, hw]
    · have hport' : TcpPcb.zero.local.port ≠ lcl.port := Ne.symm hport
      simp [hz j hj, TcpPcbExact, TcpPcbListenWild, Ne.symm hj, hport']

/-- On a table with one connection a fully specified pair whose local port is
not `0` selects slot `0` when the PCB there is selectable for it. -/
theorem TcpWorld.HoldsOne.select {w : TcpWorld} {pcb : TcpPcb} (h : w.HoldsOne pcb)
    {lcl frn : IpEndpoint} (hport : lcl.port ≠ 0) (hsel : TcpPcbSelectable pcb lcl frn) :
    tcpPcbSelect w.pcbs lcl (some frn) = some 0 := by
  have hz : ∀ j, j ≠ 0 → w.pcbs j = TcpPcb.zero := fun j hj => by
    rw [h]; exact Function.update_noteq hj _ _
  have h0 : w.pcbs 0 = pcb := by rw [h]; exact Function.update_same _ _ _
  obtain ⟨hl, hp, hf⟩ := hsel
  rw [tcpPcbSelect, tcpPcbSelectLoop_single hz hport frn, if_pos]
  refine ⟨List.mem_finRange 0, ?_⟩
  rcases hf with hf | ⟨hst, hf⟩
  · exact .inl (by simp [TcpPcbExact, h0, hl, hp, hf])
  · exact .inr (by simp [TcpPcbListenWild, h0, hl, hp, hst, hf])

namespace TcpSystem

variable (routes : TcpRoutes)

/-- An active open on a stack with an empty table, whose SYN `ip_output`
accepts: the task takes slot `0`, queues and sends a SYN from the drawn ISS
with a 16-byte window, enters `SYN_SENT` and parks. -/
theorem step_openActive_empty (s : TcpSystem) (hs : s.world.pcbs = fun _ => TcpPcb.zero)
    {t : Nat} (ht : s.tasks t = .idle) (lcl frn : IpEndpoint) (now : Int) (rnd : BitVec 31)
    (ok : List Bool) (hok : ok.getD 0 true = true) :
    let iss := rnd.setWidth 32
    let s' := step routes s ⟨.call t (.openActive lcl frn), now, rnd, ok⟩
    s'.world.HoldsOne { TcpPcb.zero with
        active := true, state := .synSent, «local» := lcl, foreign := frn, startTime := now,
        rcv := ⟨0, 16⟩, iss, snd := { TcpPcb.zero.snd with una := iss, nxt := iss + 1 },
        ctx := ⟨false, 1⟩,
        queue := [⟨now, now, tcpDefaultRto, iss, tcpFlgSyn, [], s.world.heap.next⟩] } ∧
      s'.world.heap = s.world.heap.alloc ∧
      s'.wire = s.wire ++ [⟨iss, 0, tcpFlgSyn, 16, [], lcl, frn⟩] ∧
      s'.tasks = Function.update s.tasks t (.parked (.open 0 .synSent) false) ∧
      s'.returns = s.returns := by
  have hfind : (List.finRange 16).find? (fun _ => true) = some 0 := by decide
  rw [List.getD_eq_getElem?_getD] at hok
  have hsyn : tcpFlgIsset tcpFlgSyn tcpFlgSyn = true ∧
      tcpFlgIsset tcpFlgSyn (tcpFlgSyn ||| tcpFlgFin) = true := by decide
  simp [step, ht, startCall, tcpOpenActive, tcpPcbAlloc, hs, hfind, hok, tcpOpenWait, tcpOpenSleep,
    TcpWorld.sleepEnter, finish, absorb, TcpWorld.HoldsOne, TcpWorld.setPcb, TcpWorld.runOn,
    tcpOutput, hsyn, tcpRetransmitQueueAdd, tcpOutputSegment, Platform.schedSleepEnter,
    Platform.schedCtxInit, TcpPcb.zero]

/-- A passive open with no foreign endpoint on a stack with an empty table:
the task takes slot `0`, enters `LISTEN` on `lcl` with a wildcard peer, sends
nothing and parks. -/
theorem step_openPassive_empty (s : TcpSystem) (hs : s.world.pcbs = fun _ => TcpPcb.zero)
    {t : Nat} (ht : s.tasks t = .idle) (lcl : IpEndpoint) (now : Int) (rnd : BitVec 31)
    (ok : List Bool) :
    let s' := step routes s ⟨.call t (.openPassive lcl none), now, rnd, ok⟩
    s'.world.HoldsOne { TcpPcb.zero with
        state := .listen, «local» := lcl, startTime := now, ctx := ⟨false, 1⟩ } ∧
      s'.world.heap = s.world.heap ∧ s'.wire = s.wire ∧
      s'.tasks = Function.update s.tasks t (.parked (.open 0 .listen) false) ∧
      s'.returns = s.returns := by
  have hfind : (List.finRange 16).find? (fun _ => true) = some 0 := by decide
  simp [step, ht, startCall, tcpOpenPassive, tcpPcbAlloc, hs, hfind, tcpOpenWait, tcpOpenSleep,
    TcpWorld.sleepEnter, finish, absorb, TcpWorld.HoldsOne, TcpWorld.setPcb,
    Platform.schedSleepEnter, Platform.schedCtxInit, TcpPcb.zero]

/-- A segment for the one connection of a stack: neither endpoint is the
broadcast address, and the PCB in slot `0` is selectable for it and not
`CLOSED`. Its handler runs on that PCB; what it sends goes on the wire, and a
wakeup wakes the tasks blocked on slot `0`. -/
theorem step_input_one {s : TcpSystem} {pcb : TcpPcb} (hs : s.world.HoldsOne pcb)
    (seg : TcpSegment) (now : Int) (rnd : BitVec 31) (ok : List Bool)
    (hbl : seg.local.addr ≠ ipAddrBroadcast) (hbf : seg.foreign.addr ≠ ipAddrBroadcast)
    (hport : seg.foreign.port ≠ 0) (hsel : TcpPcbSelectable pcb seg.foreign seg.local)
    (hcl : pcb.state ≠ .closed) :
    let a : TcpArrival := ⟨⟨seg.seq, seg.ack, tcpSegLen seg.flg seg.data, seg.wnd⟩, seg.flg,
      seg.data, seg.foreign, seg.local, rnd.setWidth 32, now⟩
    let r := tcpSegmentArrivesPcb a ⟨pcb, s.world.heap, [], false⟩
    let s' := step routes s ⟨.input seg, now, rnd, ok⟩
    s'.world.HoldsOne r.pcb ∧ s'.world.heap = r.heap ∧ s'.wire = s.wire ++ r.out ∧
      s'.tasks = (if r.woken then wakeSlot s.tasks 0 else s.tasks) ∧ s'.returns = s.returns := by
  intro a r s'
  have hsel' : tcpPcbSelect s.world.pcbs a.local (some a.foreign) = some 0 := hs.select hport hsel
  have h0 : s.world.pcbs 0 = pcb := by rw [hs]; exact Function.update_same _ _ _
  have hin : tcpInputArrival seg (rnd.setWidth 32) now = some a := by
    simp [tcpInputArrival, hbl, hbf, a]
  have hs' : s' = s.absorb ((({ s.world with out := [], woken := [] } : TcpWorld)).runOn 0
      (tcpSegmentArrivesPcb a)) := by
    simp only [s', step, hin, tcpSegmentArrives, hsel', h0, if_neg hcl]
  rw [hs']
  simp only [absorb, TcpWorld.runOn, h0, TcpWorld.HoldsOne]
  refine ⟨by rw [show s.world.pcbs = _ from hs, Function.update_idem], trivial, by simp [r], ?_,
    trivial⟩
  split <;> rfl

/-- The task parked in `tcp_open_rfc793` on slot `0`, once woken, finds the
connection established: it leaves `sched_sleep` and returns the slot index
`0`, sending nothing. -/
theorem step_resume_open {s : TcpSystem} {pcb : TcpPcb} (hs : s.world.HoldsOne pcb) {t : Nat}
    {state : TcpPcbState} (ht : s.tasks t = .parked (.open 0 state) true)
    (hint : pcb.ctx.interrupted = false) (hest : pcb.state = .established)
    (hwait : state ≠ .established) (now : Int) (rnd : BitVec 31) (ok : List Bool) :
    let s' := step routes s ⟨.resume t, now, rnd, ok⟩
    s'.world.HoldsOne { pcb with ctx := { pcb.ctx with wc := pcb.ctx.wc - 1 } } ∧
      s'.world.heap = s.world.heap ∧ s'.wire = s.wire ∧
      s'.tasks = Function.update s.tasks t .idle ∧
      s'.returns = s.returns ++ [⟨t, 0, []⟩] := by
  have h0 : s.world.pcbs 0 = pcb := by rw [hs]; exact Function.update_same _ _ _
  simp [step, ht, tcpResume, TcpWait.slot, TcpWorld.sleepLeave, h0, Platform.schedSleepLeave, hint,
    tcpOpenWait, hest, Ne.symm hwait, finish, absorb, TcpWorld.HoldsOne, TcpWorld.setPcb,
    show s.world.pcbs = _ from hs]

/-- `pthread_cond_broadcast` on the slot a task waits on wakes it. -/
theorem wakeSlot_update_idle (t : Nat) {wait : TcpWait} {i : Fin 16} (hi : wait.slot = i) :
    wakeSlot (Function.update (fun _ => .idle) t (.parked wait false)) i =
      Function.update (fun _ => .idle) t (.parked wait true) := by
  funext t'
  by_cases h : t' = t
  · subst h; simp [wakeSlot, hi]
  · simp [wakeSlot, h]

end TcpSystem

/-- The ISS `random()` draws has 31 bits, so the first sequence numbers after
it, and a window of 16 past them, do not wrap: the unsigned comparisons of
`tcp_segment_arrives` on them are those of the integers. -/
theorem iss_no_wrap (x : BitVec 31) :
    let i := x.setWidth 32
    i < i + 1 ∧ i ≤ i + 1 ∧ ¬ i + 1 ≤ i ∧ 0 < i + 1 ∧
      i + 1 < i + 1 + (16 : BitVec 16).setWidth 32 ∧ i + 1 ≤ i + 1 ∧
      (i + 1 < i + 1 + 1 ∧ ¬ i + 1 + 1 ≤ i + 1 ∧ i + 1 + 1 ≤ i + 1 + 1 ∧
        i + 1 + 1 < i + 1 + 1 + (16 : BitVec 16).setWidth 32) := by
  have := x.isLt
  have hx : (x.setWidth 32).toNat = x.toNat := by simp; omega
  refine ⟨?_, ?_, ?_, ?_, ?_, ?_, ?_, ?_, ?_, ?_⟩ <;> bv_omega

/-! ## Two synchronized ends -/

/-- Two PCBs at the two ends of one synchronized connection: both
`ESTABLISHED` between mirrored endpoints, each having received everything the
other has sent and learnt the other's ISS, nothing unacknowledged and nothing
queued for retransmission, and each sending into the window the other
offers. -/
structure TcpPcb.Synchronized (a b : TcpPcb) : Prop where
  established : a.state = .established ∧ b.state = .established
  endpoints : a.local = b.foreign ∧ a.foreign = b.local
  received : a.snd.nxt = b.rcv.nxt ∧ b.snd.nxt = a.rcv.nxt
  acked : a.snd.una = a.snd.nxt ∧ b.snd.una = b.snd.nxt
  irs : a.irs = b.iss ∧ b.irs = a.iss
  windows : a.snd.wnd = b.rcv.wnd ∧ b.snd.wnd = a.rcv.wnd
  queues : a.queue = [] ∧ b.queue = []

namespace TcpPair

variable (routes : TcpRoutes)

theorem step_left (p : TcpPair) {st : TcpStimulus} (h : st.event.isInput = false) :
    p.step routes (.left st) =
      let s := TcpSystem.step routes p.left st
      { p with left := s, toRight := p.toRight ++ sent p.left s } := by
  simp [step, h]

theorem step_right (p : TcpPair) {st : TcpStimulus} (h : st.event.isInput = false) :
    p.step routes (.right st) =
      let s := TcpSystem.step routes p.right st
      { p with right := s, toLeft := p.toLeft ++ sent p.right s } := by
  simp [step, h]

theorem step_deliverRight (l r : TcpSystem) (seg : TcpSegment) (rest toLeft : List TcpSegment)
    (now : Int) (rnd : BitVec 31) :
    TcpPair.step routes ⟨l, r, seg :: rest, toLeft⟩ (.deliverRight now rnd) =
      let s := TcpSystem.step routes r ⟨.input seg, now, rnd, []⟩
      ⟨l, s, rest, toLeft ++ sent r s⟩ := rfl

theorem step_deliverLeft (l r : TcpSystem) (seg : TcpSegment) (rest toRight : List TcpSegment)
    (now : Int) (rnd : BitVec 31) :
    TcpPair.step routes ⟨l, r, toRight, seg :: rest⟩ (.deliverLeft now rnd) =
      let s := TcpSystem.step routes l ⟨.input seg, now, rnd, []⟩
      ⟨s, r, toRight ++ sent l s, rest⟩ := rfl

/-- The three-way handshake: task `tr` of the right side listens on `lclR`;
task `tl` of the left side connects from `lcl` to `frn`, drawing the ISS
`issL`; the SYN crosses, and the right side answers from the ISS `issR` it
draws; the SYN|ACK crosses and the left side, established, resumes its task;
the ACK crosses and the right side resumes its task. `now k` is the clock
reading of the `k`-th step. -/
def handshake (tl tr : Nat) (lcl frn lclR : IpEndpoint) (issL issR : BitVec 31)
    (now : Nat → Int) : List TcpPairEvent :=
  [.right ⟨.call tr (.openPassive lclR none), now 0, 0, []⟩,
   .left ⟨.call tl (.openActive lcl frn), now 1, issL, []⟩,
   .deliverRight (now 2) issR,
   .deliverLeft (now 3) 0,
   .left ⟨.resume tl, now 4, 0, []⟩,
   .deliverRight (now 5) 0,
   .right ⟨.resume tr, now 6, 0, []⟩]

/-- What a completed handshake from `lcl` (left) to `frn` (right) with the
ISSs `il` and `ir` leaves: slot `0` of the two tables holds the two ends of one
synchronized connection, with the left end's endpoints and both ISSs as given,
each `snd.nxt` one past its ISS and each buffer empty; nothing is allocated or
in flight; the left side has sent its SYN and ACK and the right side its
SYN|ACK; both opens have returned slot `0`, and no task waits. -/
structure Connected (p : TcpPair) (tl tr : Nat) (lcl frn : IpEndpoint) (il ir : BitVec 32) :
    Prop where
  synchronized : (p.left.world.pcbs 0).Synchronized (p.right.world.pcbs 0)
  endpoints : (p.left.world.pcbs 0).local = lcl ∧ (p.left.world.pcbs 0).foreign = frn
  iss : (p.left.world.pcbs 0).iss = il ∧ (p.right.world.pcbs 0).iss = ir
  nxt : (p.left.world.pcbs 0).snd.nxt = il + 1 ∧ (p.right.world.pcbs 0).snd.nxt = ir + 1
  windows : (p.left.world.pcbs 0).rcv.wnd = 16 ∧ (p.right.world.pcbs 0).rcv.wnd = 16
  heaps : p.left.world.heap.live = [] ∧ p.right.world.heap.live = []
  channels : p.toRight = [] ∧ p.toLeft = []
  wires : p.left.wire = [⟨il, 0, tcpFlgSyn, 16, [], lcl, frn⟩,
      ⟨il + 1, ir + 1, tcpFlgAck, 16, [], lcl, frn⟩] ∧
    p.right.wire = [⟨ir, il + 1, tcpFlgSyn ||| tcpFlgAck, 16, [], frn, lcl⟩]
  returns : p.left.returns = [⟨tl, 0, []⟩] ∧ p.right.returns = [⟨tr, 0, []⟩]
  idle : (∀ t, p.left.tasks t = .idle) ∧ ∀ t, p.right.tasks t = .idle

/-- The two stacks after the handshake, as the handlers leave them: each
table holds its end of the connection in slot `0`, and the queue entry of
each SYN has been freed again. -/
theorem handshake_run (tl tr : Nat) {lcl frn lclR : IpEndpoint}
    (hlcl : lcl.port ≠ 0) (hfrn : frn.port ≠ 0) (hlb : lcl.addr ≠ ipAddrBroadcast)
    (hfb : frn.addr ≠ ipAddrBroadcast)
    (hR : (lclR.addr = ipAddrAny ∨ lclR.addr = frn.addr) ∧ lclR.port = frn.port)
    (issL issR : BitVec 31) (now : Nat → Int) :
    let il := issL.setWidth 32
    let ir := issR.setWidth 32
    ∃ L R, run routes TcpPair.init (handshake tl tr lcl frn lclR issL issR now) =
        ⟨L, R, [], []⟩ ∧
      L.world.HoldsOne { TcpPcb.zero with
        active := true, state := .established, «local» := lcl, foreign := frn,
        snd := ⟨il + 1, il + 1, 16, ir, il + 1⟩, iss := il, rcv := ⟨ir + 1, 16⟩, irs := ir,
        startTime := now 1, ctx := ⟨false, 0⟩ } ∧
      L.world.heap = ⟨[], 1⟩ ∧
      L.wire = [⟨il, 0, tcpFlgSyn, 16, [], lcl, frn⟩,
        ⟨il + 1, ir + 1, tcpFlgAck, 16, [], lcl, frn⟩] ∧
      L.tasks = (fun _ => .idle) ∧ L.returns = [⟨tl, 0, []⟩] ∧
      R.world.HoldsOne { TcpPcb.zero with
        state := .established, «local» := frn, foreign := lcl,
        snd := ⟨ir + 1, ir + 1, 16, 0, ir + 1⟩, iss := ir, rcv := ⟨il + 1, 16⟩, irs := il,
        startTime := now 0, ctx := ⟨false, 0⟩ } ∧
      R.world.heap = ⟨[], 1⟩ ∧
      R.wire = [⟨ir, il + 1, tcpFlgSyn ||| tcpFlgAck, 16, [], frn, lcl⟩] ∧
      R.tasks = (fun _ => .idle) ∧ R.returns = [⟨tr, 0, []⟩] := by
  intro il ir
  have hfs : tcpFlgIsset tcpFlgSyn tcpFlgRst = false ∧ tcpFlgIsset tcpFlgSyn tcpFlgAck = false ∧
      tcpFlgIsset tcpFlgSyn tcpFlgSyn = true := by decide
  have hfsa : tcpFlgIsset (tcpFlgSyn ||| tcpFlgAck) tcpFlgRst = false ∧
      tcpFlgIsset (tcpFlgSyn ||| tcpFlgAck) tcpFlgAck = true ∧
      tcpFlgIsset (tcpFlgSyn ||| tcpFlgAck) tcpFlgSyn = true := by decide
  obtain ⟨hl₁, hl₂, hl₃, hl₄, hl₅, hl₆, -⟩ := iss_no_wrap issL
  obtain ⟨hr₁, -, hr₃, -, -, hr₆, -⟩ := iss_no_wrap issR
  have hinit : TcpSystem.init.tasks = (fun _ => .idle) ∧ TcpSystem.init.wire = [] ∧
      TcpSystem.init.returns = [] ∧ TcpSystem.init.world.heap = ⟨[], 0⟩ :=
    ⟨rfl, rfl, rfl, rfl⟩
  -- the right side listens
  obtain ⟨hR1, hhR1, hwR1, htR1, hrR1⟩ :=
    TcpSystem.step_openPassive_empty routes TcpSystem.init rfl rfl lclR (now 0) 0 []
  generalize hR1d : TcpSystem.step routes TcpSystem.init
    ⟨.call tr (.openPassive lclR none), now 0, 0, []⟩ = R1 at hR1 hhR1 hwR1 htR1 hrR1
  -- the left side sends its SYN
  obtain ⟨hL1, hhL1, hwL1, htL1, hrL1⟩ :=
    TcpSystem.step_openActive_empty routes TcpSystem.init rfl rfl lcl frn (now 1) issL [] rfl
  generalize hL1d : TcpSystem.step routes TcpSystem.init
    ⟨.call tl (.openActive lcl frn), now 1, issL, []⟩ = L1 at hL1 hhL1 hwL1 htL1 hrL1
  simp only [hinit] at hR1 hhR1 hwR1 htR1 hrR1 hL1 hhL1 hwL1 htL1 hrL1
  -- the SYN reaches the right side, which answers SYN|ACK from its ISS
  obtain ⟨hR2, hhR2, hwR2, htR2, hrR2⟩ := TcpSystem.step_input_one routes hR1
    ⟨issL.setWidth 32, 0, tcpFlgSyn, 16, [], lcl, frn⟩ (now 2) issR [] hlb hfb hfrn
    ⟨hR.1, hR.2, .inr ⟨rfl, rfl⟩⟩ (by simp)
  generalize hR2d : TcpSystem.step routes R1
    ⟨.input ⟨issL.setWidth 32, 0, tcpFlgSyn, 16, [], lcl, frn⟩, now 2, issR, []⟩ = R2
    at hR2 hhR2 hwR2 htR2 hrR2
  simp only [hhR1, hwR1, htR1, hrR1, tcpSegmentArrivesPcb_listen_answers_syn, hfs]
    at hR2 hhR2 hwR2 htR2 hrR2
  -- the SYN|ACK reaches the left side, which is established and answers ACK
  obtain ⟨hL2, hhL2, hwL2, htL2, hrL2⟩ := TcpSystem.step_input_one routes hL1
    ⟨issR.setWidth 32, issL.setWidth 32 + 1, tcpFlgSyn ||| tcpFlgAck, 16, [], frn, lcl⟩ (now 3)
    0 [] hfb hlb hlcl ⟨.inr rfl, rfl, .inl rfl⟩ (by simp)
  generalize hL2d : TcpSystem.step routes L1 ⟨.input ⟨issR.setWidth 32, issL.setWidth 32 + 1,
    tcpFlgSyn ||| tcpFlgAck, 16, [], frn, lcl⟩, now 3, 0, []⟩ = L2 at hL2 hhL2 hwL2 htL2 hrL2
  simp only [hhL1, hwL1, htL1, hrL1, tcpSegmentArrivesPcb_synSent_establishes, hfsa, hl₁, hl₂,
    hl₆, tcpRetransmitQueueCleanupLoop, hl₃, if_false, if_true, TcpSystem.wakeSlot_update_idle,
    TcpWait.slot] at hL2 hhL2 hwL2 htL2 hrL2
  -- the left side's task returns the slot
  obtain ⟨hL3, hhL3, hwL3, htL3, hrL3⟩ := TcpSystem.step_resume_open routes hL2
    (show L2.tasks tl = .parked (.open 0 .synSent) true by simp [htL2]) rfl rfl (by decide)
    (now 4) 0 []
  generalize hL3d : TcpSystem.step routes L2 ⟨.resume tl, now 4, 0, []⟩ = L3
    at hL3 hhL3 hwL3 htL3 hrL3
  -- the ACK reaches the right side, which is established
  have hlen : tcpSegLen tcpFlgAck [] = 0 := by decide
  have h16 : ¬ (16 : BitVec 16) = 0 := by decide
  have hwl1 : TcpPcb.zero.snd.wl1 = 0 := rfl
  obtain ⟨hR3, hhR3, hwR3, htR3, hrR3⟩ := TcpSystem.step_input_one routes hR2
    ⟨issL.setWidth 32 + 1, issR.setWidth 32 + 1, tcpFlgAck, 16, [], lcl, frn⟩ (now 5) 0 []
    hlb hfb hfrn ⟨.inr rfl, rfl, .inl rfl⟩ (by simp)
  generalize hR3d : TcpSystem.step routes R2 ⟨.input ⟨issL.setWidth 32 + 1,
    issR.setWidth 32 + 1, tcpFlgAck, 16, [], lcl, frn⟩, now 5, 0, []⟩ = R3
    at hR3 hhR3 hwR3 htR3 hrR3
  simp only [hhR2, hwR2, htR2, hrR2, tcpSegmentArrivesPcb_synReceived_establishes,
    tcpSegmentAcceptable, hlen, h16, hl₆, hl₅, hr₁, hr₆, hwl1, hl₄, true_or, and_self,
    if_true, if_false, decide_True, tcpRetransmitQueueCleanupLoop, hr₃, List.nil_append,
    Bool.false_eq_true, TcpSystem.wakeSlot_update_idle, TcpWait.slot] at hR3 hhR3 hwR3 htR3 hrR3
  -- the right side's task returns the slot
  obtain ⟨hR4, hhR4, hwR4, htR4, hrR4⟩ := TcpSystem.step_resume_open routes hR3
    (show R3.tasks tr = .parked (.open 0 .listen) true by simp [htR3]) rfl rfl (by decide)
    (now 6) 0 []
  generalize hR4d : TcpSystem.step routes R3 ⟨.resume tr, now 6, 0, []⟩ = R4
    at hR4 hhR4 hwR4 htR4 hrR4
  -- each segment crosses in turn and the channel ends empty
  have hp : run routes TcpPair.init (handshake tl tr lcl frn lclR issL issR now) =
      ⟨L3, R4, [], []⟩ := by
    simp only [run, handshake, List.foldl, step_left, step_right, step_deliverRight,
      step_deliverLeft, TcpEvent.isInput, TcpPair.init, hR1d, hL1d, sent, hinit, hwR1, hwL1,
      List.nil_append, List.length_nil, List.drop_zero, hR2d, hwR2, hL2d, hwL2,
      List.length_singleton, hL3d, hwL3, hR3d, hwR3, hR4d, hwR4, List.drop_left, List.append_nil,
      List.drop_one, List.tail_cons, List.cons_append, List.drop_length]
  refine ⟨L3, R4, hp, hL3, ?_, ?_, ?_, ?_, hR4, ?_, ?_, ?_, ?_⟩ <;>
    simp [hhL3, hhL2, hhR4, hhR3, hwL3, hwL2, hwR4, hwR3, hrL3, hrL2, hrR4, hrR3, htL3, htL2, htR4,
      htR3, TcpHeap.alloc, TcpHeap.free]

/-- Two fresh stacks complete the three-way handshake, for every pair of ISSs
`random()` can draw, all clock readings and all tasks, between endpoints
whose ports are not `0` and whose addresses are not the broadcast address,
when the right side listens on the endpoint the left side connects to (its
address may be the wildcard). -/
theorem handshake_establishes (tl tr : Nat) {lcl frn lclR : IpEndpoint}
    (hlcl : lcl.port ≠ 0) (hfrn : frn.port ≠ 0) (hlb : lcl.addr ≠ ipAddrBroadcast)
    (hfb : frn.addr ≠ ipAddrBroadcast)
    (hR : (lclR.addr = ipAddrAny ∨ lclR.addr = frn.addr) ∧ lclR.port = frn.port)
    (issL issR : BitVec 31) (now : Nat → Int) :
    (run routes TcpPair.init (handshake tl tr lcl frn lclR issL issR now)).Connected tl tr lcl frn
      (issL.setWidth 32) (issR.setWidth 32) := by
  obtain ⟨L, R, hp, hL, hhL, hwL, htL, hrL, hR, hhR, hwR, htR, hrR⟩ :=
    handshake_run routes tl tr hlcl hfrn hlb hfb hR issL issR now
  simp only [TcpWorld.HoldsOne] at hL hR
  rw [hp]
  refine ⟨⟨?_, ?_, ?_, ?_, ?_, ?_, ?_⟩, ?_, ?_, ?_, ?_, ?_, ?_, ?_, ?_, ?_⟩ <;>
    simp [hL, hR, hhL, hhR, hwL, hwR, hrL, hrR, htL, htR, TcpPcb.zero]

/-- The handshake of the reference connection: task 0 of each side, the left
side at `10.0.0.1:7` drawing the ISS 0, the right side listening on
`10.0.0.2:10007` and drawing the ISS 1000, a step every 100 microseconds. -/
theorem handshake_establishes_ref :
    let lcl := TcpSystem.refLocal
    let frn := TcpSystem.refForeign
    (lcl.port ≠ 0 ∧ frn.port ≠ 0 ∧ lcl.addr ≠ ipAddrBroadcast ∧
      frn.addr ≠ ipAddrBroadcast ∧ (frn.addr = ipAddrAny ∨ frn.addr = frn.addr) ∧
      frn.port = frn.port) ∧
    (run TcpSystem.ethernetRoutes TcpPair.init (handshake 0 0 lcl frn frn 0 1000
      fun k => 100 * k)).Connected 0 0 lcl frn 0 1000 :=
  ⟨by decide, handshake_establishes TcpSystem.ethernetRoutes 0 0 (by decide) (by decide)
    (by decide) (by decide) (by decide) 0 1000 fun k => 100 * k⟩

end TcpPair

end MicroPs.Tcp
