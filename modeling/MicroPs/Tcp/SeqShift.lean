/-
# Moving the sequence space

RFC 793 compares sequence numbers modulo `2^32`, so that a connection behaves
the same wherever its sequence space starts. `tcp_segment_arrives` compares
them as plain unsigned 32-bit integers. Moving the send side of a PCB and the
acknowledgment numbers by `a`, and the receive side and the sequence numbers
by `b`, keeps every decision of the handler only as long as none of the
values it orders passes `2^32` on the way: a PCB whose sequence space starts
just below the wrap rejects the acknowledgment of its own SYN.

The shifted run and the original are related by `PcbRun.Shifted`, and each
function of the check chain keeps that relation, under the no-wrap
hypotheses `TcpShiftNoWrap`, up to a release that zeroes both PCBs.
-/

import MicroPs.Tcp.System
import Mathlib.Data.List.Forall2

namespace MicroPs.Tcp

/-! ## The shift -/

/-- A queued segment moved by `a` in sequence space. -/
def TcpQueueEntry.shift (a : BitVec 32) (entry : TcpQueueEntry) : TcpQueueEntry :=
  { entry with seq := entry.seq + a }

/-- `shift_{a,b}` on a PCB: `iss`, `snd.una`, `snd.nxt`, `snd.wl2` and the
queued segments move by `a`; `irs`, `rcv.nxt` and `snd.wl1` move by `b`. -/
def TcpPcb.shift (a b : BitVec 32) (pcb : TcpPcb) : TcpPcb :=
  { pcb with
    snd := { pcb.snd with
      una := pcb.snd.una + a, nxt := pcb.snd.nxt + a, wl1 := pcb.snd.wl1 + b,
      wl2 := pcb.snd.wl2 + a }
    iss := pcb.iss + a
    rcv := { pcb.rcv with nxt := pcb.rcv.nxt + b }
    irs := pcb.irs + b
    queue := pcb.queue.map (TcpQueueEntry.shift a) }

/-- `shift_{a,b}` on the arguments of `tcp_segment_arrives`: the
acknowledgment number and the ISS a `LISTEN` PCB would draw move by `a`, the
sequence number by `b`. -/
def TcpArrival.shift (a b : BitVec 32) (g : TcpArrival) : TcpArrival :=
  { g with seg := { g.seg with seq := g.seg.seq + b, ack := g.seg.ack + a }, iss := g.iss + a }

/-- `seg'` is `seg` as the shifted run sends it: the sequence number moved
by `a`, the acknowledgment number, which counts only when ACK is set, moved
by `b`, and everything else equal. -/
structure TcpSegment.Shifted (a b : BitVec 32) (seg seg' : TcpSegment) : Prop where
  seq : seg'.seq = seg.seq + a
  ack : tcpFlgIsset seg.flg tcpFlgAck → seg'.ack = seg.ack + b
  flg : seg'.flg = seg.flg
  wnd : seg'.wnd = seg.wnd
  data : seg'.data = seg.data
  «local» : seg'.local = seg.local
  foreign : seg'.foreign = seg.foreign

/-- `r'` is the run `r` with its PCB shifted: the same allocator, the same
wakeups, and the shifted copies of the segments `r` sent. -/
structure PcbRun.Shifted (a b : BitVec 32) (r r' : PcbRun) : Prop where
  pcb : r'.pcb = r.pcb.shift a b
  heap : r'.heap = r.heap
  woken : r'.woken = r.woken
  out : List.Forall₂ (TcpSegment.Shifted a b) r.out r'.out

/-- What processing keeps between a run and its shifted copy: the shift, or,
once both released the PCB and so zeroed it, the shift of everything else. -/
def PcbRun.Corresponds (a b : BitVec 32) (r r' : PcbRun) : Prop :=
  r.Shifted a b r' ∨
    r.pcb = TcpPcb.zero ∧ r'.pcb = TcpPcb.zero ∧
      r.Shifted a b { r' with pcb := r.pcb.shift a b }

/-- Adding `s` to each of `xs` carries out of none of them. -/
def NoWrap (s : BitVec 32) (xs : List (BitVec 32)) : Prop :=
  ∀ x ∈ xs, x.toNat + s.toNat < 2 ^ 32

instance (s : BitVec 32) (xs : List (BitVec 32)) : Decidable (NoWrap s xs) :=
  List.decidableBAll _ xs

/-- The shift carries none of the values `tcp_segment_arrives` orders past
`2^32`: on the send side the values compared with the acknowledgment number,
on the receive side the window's ends and the segment's first and last
sequence numbers. -/
structure TcpShiftNoWrap (a b : BitVec 32) (g : TcpArrival) (pcb : TcpPcb) : Prop where
  snd : NoWrap a [pcb.iss, pcb.snd.una, pcb.snd.nxt, pcb.snd.wl2, g.seg.ack]
  queue : NoWrap a (pcb.queue.map (·.seq))
  rcv : NoWrap b [pcb.rcv.nxt, pcb.rcv.nxt + pcb.rcv.wnd.setWidth 32, pcb.snd.wl1, g.seg.seq,
    g.seg.seq + g.seg.len.setWidth 32 - 1]

section Fields

variable (a b : BitVec 32) (pcb : TcpPcb) (g : TcpArrival)

@[simp] theorem TcpPcb.shift_state : (pcb.shift a b).state = pcb.state := rfl
@[simp] theorem TcpPcb.shift_active : (pcb.shift a b).active = pcb.active := rfl
@[simp] theorem TcpPcb.shift_local : (pcb.shift a b).local = pcb.local := rfl
@[simp] theorem TcpPcb.shift_foreign : (pcb.shift a b).foreign = pcb.foreign := rfl
@[simp] theorem TcpPcb.shift_iss : (pcb.shift a b).iss = pcb.iss + a := rfl
@[simp] theorem TcpPcb.shift_snd_una : (pcb.shift a b).snd.una = pcb.snd.una + a := rfl
@[simp] theorem TcpPcb.shift_snd_nxt : (pcb.shift a b).snd.nxt = pcb.snd.nxt + a := rfl
@[simp] theorem TcpPcb.shift_snd_wl1 : (pcb.shift a b).snd.wl1 = pcb.snd.wl1 + b := rfl
@[simp] theorem TcpPcb.shift_snd_wl2 : (pcb.shift a b).snd.wl2 = pcb.snd.wl2 + a := rfl
@[simp] theorem TcpPcb.shift_snd_wnd : (pcb.shift a b).snd.wnd = pcb.snd.wnd := rfl
@[simp] theorem TcpPcb.shift_rcv_nxt : (pcb.shift a b).rcv.nxt = pcb.rcv.nxt + b := rfl
@[simp] theorem TcpPcb.shift_rcv_wnd : (pcb.shift a b).rcv.wnd = pcb.rcv.wnd := rfl
@[simp] theorem TcpPcb.shift_queue :
    (pcb.shift a b).queue = pcb.queue.map (TcpQueueEntry.shift a) := rfl

@[simp] theorem TcpArrival.shift_seg_seq : (g.shift a b).seg.seq = g.seg.seq + b := rfl
@[simp] theorem TcpArrival.shift_seg_ack : (g.shift a b).seg.ack = g.seg.ack + a := rfl
@[simp] theorem TcpArrival.shift_seg_len : (g.shift a b).seg.len = g.seg.len := rfl
@[simp] theorem TcpArrival.shift_seg_wnd : (g.shift a b).seg.wnd = g.seg.wnd := rfl
@[simp] theorem TcpArrival.shift_iss : (g.shift a b).iss = g.iss + a := rfl
@[simp] theorem TcpArrival.shift_flags : (g.shift a b).flags = g.flags := rfl
@[simp] theorem TcpArrival.shift_data : (g.shift a b).data = g.data := rfl
@[simp] theorem TcpArrival.shift_local : (g.shift a b).local = g.local := rfl
@[simp] theorem TcpArrival.shift_foreign : (g.shift a b).foreign = g.foreign := rfl
@[simp] theorem TcpArrival.shift_now : (g.shift a b).now = g.now := rfl

end Fields

/-! ## Comparisons under the shift -/

section Compare

variable {x y s : BitVec 32}

/-- Moving both sides of `≤` by `s` keeps the answer when neither carries. -/
theorem shift_le_shift_iff (hx : x.toNat + s.toNat < 2 ^ 32) (hy : y.toNat + s.toNat < 2 ^ 32) :
    x + s ≤ y + s ↔ x ≤ y := by
  simp only [BitVec.le_def, BitVec.toNat_add, Nat.mod_eq_of_lt hx, Nat.mod_eq_of_lt hy]
  omega

/-- Moving both sides of `<` by `s` keeps the answer when neither carries. -/
theorem shift_lt_shift_iff (hx : x.toNat + s.toNat < 2 ^ 32) (hy : y.toNat + s.toNat < 2 ^ 32) :
    x + s < y + s ↔ x < y := by
  simp only [BitVec.lt_def, BitVec.toNat_add, Nat.mod_eq_of_lt hx, Nat.mod_eq_of_lt hy]
  omega

/-- Equality survives any shift. -/
@[simp] theorem shift_eq_shift_iff : x + s = y + s ↔ x = y :=
  ⟨fun h => by simpa only [BitVec.add_sub_cancel] using congrArg (· - s) h, fun h => h ▸ rfl⟩

/-- The shift commutes with moving a sequence number forwards. -/
theorem shift_add_comm (x y s : BitVec 32) : x + s + y = x + y + s := by
  rw [BitVec.add_assoc, BitVec.add_comm s, ← BitVec.add_assoc]

/-- The shift commutes with moving a sequence number backwards. -/
theorem shift_sub_comm (x y s : BitVec 32) : x + s - y = x - y + s := by
  rw [BitVec.sub_toAdd, BitVec.sub_toAdd, shift_add_comm]

/-- Adding `s` to one more value that does not carry. -/
theorem NoWrap.cons {xs : List (BitVec 32)} (hx : x.toNat + s.toNat < 2 ^ 32) (h : NoWrap s xs) :
    NoWrap s (x :: xs) :=
  List.forall_mem_cons.2 ⟨hx, h⟩

/-- A relation goes through an `if` whose two conditions are equivalent. -/
theorem rel_ite_of_iff {α β : Type} {R : α → β → Prop} {c c' : Prop}
    [Decidable c] [Decidable c'] {x y : α} {x' y' : β} (hc : c' ↔ c) (hx : c → R x x')
    (hy : ¬c → R y y') :
    R (if c then x else y) (if c' then x' else y') := by
  by_cases h : c
  · rw [if_pos h, if_pos (hc.2 h)]; exact hx h
  · rw [if_neg h, if_neg (mt hc.1 h)]; exact hy h

end Compare

/-! ## What each operation keeps -/

section Operations

variable {a b : BitVec 32} {r r' : PcbRun}

@[simp] theorem TcpQueueEntry.shift_seq (entry : TcpQueueEntry) :
    (entry.shift a).seq = entry.seq + a := rfl

theorem PcbRun.Shifted.state (h : r.Shifted a b r') : r'.pcb.state = r.pcb.state := by
  rw [h.pcb]; rfl

/-- A new PCB for both runs, the second the shift of the first. -/
theorem PcbRun.Shifted.withPcb (h : r.Shifted a b r') {p p' : TcpPcb} (hp : p' = p.shift a b) :
    PcbRun.Shifted a b { r with pcb := p } { r' with pcb := p' } :=
  ⟨hp, h.heap, h.woken, h.out⟩

/-- `withPcb` for PCBs computed from the runs' own, where the equation uses
the correspondence of the runs. -/
theorem PcbRun.Shifted.withPcbOf (h : r.Shifted a b r') {p p' : TcpPcb}
    (hp : r.Shifted a b r' → p' = p.shift a b) :
    PcbRun.Shifted a b { r with pcb := p } { r' with pcb := p' } :=
  h.withPcb (hp h)

theorem PcbRun.Shifted.setState (h : r.Shifted a b r') (state : TcpPcbState) :
    (r.setState state).Shifted a b (r'.setState state) :=
  h.withPcb (by rw [h.pcb]; rfl)

theorem PcbRun.Shifted.wakeup (h : r.Shifted a b r') : r.wakeup.Shifted a b r'.wakeup :=
  ⟨h.pcb, h.heap, rfl, h.out⟩

/-- A segment built from the PCB's receive variables and endpoints, at a
sequence number that the shift moves by `a`. -/
theorem PcbRun.Shifted.outputSegment (h : r.Shifted a b r') (seq : BitVec 32) (flg : Byte)
    (data : List Byte) :
    (tcpOutputSegment seq r.pcb.rcv.nxt flg r.pcb.rcv.wnd data r.pcb.local r.pcb.foreign r).Shifted
      a b (tcpOutputSegment (seq + a) r'.pcb.rcv.nxt flg r'.pcb.rcv.wnd data r'.pcb.local
        r'.pcb.foreign r') := by
  refine ⟨h.pcb, h.heap, h.woken, List.rel_append h.out (.cons ?_ .nil)⟩
  rw [h.pcb]
  exact ⟨rfl, fun _ => rfl, rfl, rfl, rfl, rfl, rfl⟩

theorem PcbRun.Shifted.resetReply (h : r.Shifted a b r') (g : TcpArrival) :
    (tcpResetReply g r).Shifted a b (tcpResetReply (g.shift a b) r') :=
  have hrst : tcpFlgIsset tcpFlgRst tcpFlgAck ≠ true := by decide
  ⟨h.pcb, h.heap, h.woken,
    List.rel_append h.out
      (.cons ⟨rfl, fun hf => absurd hf hrst, rfl, rfl, rfl, rfl, rfl⟩ .nil)⟩

theorem PcbRun.Shifted.queueAdd (h : r.Shifted a b r') (seq : BitVec 32) (flg : Byte)
    (data : List Byte) (now : Int) :
    (tcpRetransmitQueueAdd seq flg data now r).Shifted a b
      (tcpRetransmitQueueAdd (seq + a) flg data now r') :=
  ⟨by rw [tcpRetransmitQueueAdd, tcpRetransmitQueueAdd, h.pcb, h.heap]
      simp only [TcpPcb.shift, List.map_append]; rfl,
    by simp only [tcpRetransmitQueueAdd, h.heap], h.woken, h.out⟩

theorem PcbRun.Shifted.output (h : r.Shifted a b r') (flg : Byte) (data : List Byte) (now : Int) :
    (tcpOutput flg data now r).Shifted a b (tcpOutput flg data now r') := by
  have hseq : (if tcpFlgIsset flg tcpFlgSyn then r'.pcb.iss else r'.pcb.snd.nxt) =
      (if tcpFlgIsset flg tcpFlgSyn then r.pcb.iss else r.pcb.snd.nxt) + a := by
    rw [h.pcb]; split <;> rfl
  unfold tcpOutput
  simp only [hseq]
  by_cases hq : (tcpFlgIsset flg (tcpFlgSyn ||| tcpFlgFin) || data.length != 0) = true
  · rw [if_pos hq, if_pos hq]
    exact (h.queueAdd _ flg data now).outputSegment _ flg data
  · rw [if_neg hq, if_neg hq]
    exact h.outputSegment _ flg data

/-- The cleanup loop pops the same entries from the shifted queue when
neither `una` nor any queued sequence number carries. -/
theorem tcpRetransmitQueueCleanupLoop_shift (una : BitVec 32) (queue : List TcpQueueEntry)
    (heap : TcpHeap) (hw : NoWrap a (una :: queue.map (·.seq))) :
    tcpRetransmitQueueCleanupLoop (una + a) (queue.map (TcpQueueEntry.shift a)) heap =
      ((tcpRetransmitQueueCleanupLoop una queue heap).1.map (TcpQueueEntry.shift a),
        (tcpRetransmitQueueCleanupLoop una queue heap).2) := by
  induction queue generalizing heap with
  | nil => rfl
  | cons entry rest ih =>
    have hle : una + a ≤ entry.seq + a ↔ una ≤ entry.seq :=
      shift_le_shift_iff (hw una (by simp)) (hw entry.seq (by simp))
    have hrest : NoWrap a (una :: rest.map (·.seq)) := fun x hx =>
      hw x (by simp only [List.map_cons, List.mem_cons] at hx ⊢; tauto)
    by_cases hkeep : una ≤ entry.seq
    · simp [tcpRetransmitQueueCleanupLoop, hle, hkeep]
    · simp [tcpRetransmitQueueCleanupLoop, hle, hkeep, TcpQueueEntry.shift, ih _ hrest]

theorem PcbRun.Shifted.cleanup (h : r.Shifted a b r')
    (hw : NoWrap a (r.pcb.snd.una :: r.pcb.queue.map (·.seq))) :
    (tcpRetransmitQueueCleanup r).Shifted a b (tcpRetransmitQueueCleanup r') := by
  have hloop := tcpRetransmitQueueCleanupLoop_shift r.pcb.snd.una r.pcb.queue r.heap hw
  refine ⟨?_, ?_, h.woken, h.out⟩
  · rw [tcpRetransmitQueueCleanup_pcb, tcpRetransmitQueueCleanup_pcb, h.pcb, h.heap]
    simp only [TcpPcb.shift_snd_una, TcpPcb.shift_queue, hloop]
    rfl
  · show (tcpRetransmitQueueCleanupLoop r'.pcb.snd.una r'.pcb.queue r'.heap).2 = _
    rw [h.pcb, h.heap]
    simp only [TcpPcb.shift_snd_una, TcpPcb.shift_queue, hloop]
    rfl

/-- One entry of `tcp_retransmit_queue_emit`: the same decision, the shifted
segment, the shifted entry. -/
theorem PcbRun.Shifted.emit (h : r.Shifted a b r') (now : Int)
    (entry : TcpQueueEntry) :
    (tcpRetransmitQueueEmit now r entry).1.Shifted a b
        (tcpRetransmitQueueEmit now r' (entry.shift a)).1 ∧
      (tcpRetransmitQueueEmit now r' (entry.shift a)).2 =
        (tcpRetransmitQueueEmit now r entry).2.shift a := by
  unfold tcpRetransmitQueueEmit
  simp only [TcpQueueEntry.shift]
  split_ifs
  · exact ⟨(h.setState _).wakeup, rfl⟩
  · exact ⟨h.outputSegment _ _ _, rfl⟩
  · exact ⟨h, rfl⟩

theorem tcpRetransmitQueueEmitLoop_shift (now : Int) (queue : List TcpQueueEntry)
    (h : r.Shifted a b r') :
    (tcpRetransmitQueueEmitLoop now r queue).1.Shifted a b
        (tcpRetransmitQueueEmitLoop now r' (queue.map (TcpQueueEntry.shift a))).1 ∧
      (tcpRetransmitQueueEmitLoop now r' (queue.map (TcpQueueEntry.shift a))).2 =
        (tcpRetransmitQueueEmitLoop now r queue).2.map (TcpQueueEntry.shift a) := by
  induction queue generalizing r r' with
  | nil => exact ⟨h, rfl⟩
  | cons entry rest ih =>
    obtain ⟨h₁, hentry⟩ := h.emit now entry
    obtain ⟨h₂, hrest⟩ := ih h₁
    simp only [tcpRetransmitQueueEmitLoop, List.map_cons]
    exact ⟨h₂, by rw [hentry, hrest]⟩

theorem PcbRun.Shifted.emitAll (h : r.Shifted a b r') (now : Int) :
    (tcpRetransmitQueueEmitAll now r).Shifted a b (tcpRetransmitQueueEmitAll now r') := by
  have hq : r'.pcb.queue = r.pcb.queue.map (TcpQueueEntry.shift a) := by rw [h.pcb]; rfl
  obtain ⟨h₁, hemit⟩ := tcpRetransmitQueueEmitLoop_shift now r.pcb.queue h
  unfold tcpRetransmitQueueEmitAll
  rw [hq]
  exact h₁.withPcb (by rw [h₁.pcb, hemit]; rfl)

/-- Release zeroes both PCBs and keeps the rest of the correspondence. -/
theorem PcbRun.Shifted.release (h : r.Shifted a b r') :
    (tcpPcbRelease r).Corresponds a b (tcpPcbRelease r') :=
  .inr ⟨tcpPcbRelease_pcb r, tcpPcbRelease_pcb r',
    ⟨rfl, by simp [h.heap], by simp [h.woken], by simpa using h.out⟩⟩

theorem PcbRun.Shifted.corresponds (h : r.Shifted a b r') : r.Corresponds a b r' := .inl h

/-- Corresponding runs leave their PCBs in the same state. -/
theorem PcbRun.Corresponds.state (h : r.Corresponds a b r') : r'.pcb.state = r.pcb.state := by
  rcases h with h | ⟨h₁, h₂, -⟩
  · exact h.state
  · rw [h₁, h₂]

end Operations

/-! ## The check chain -/

section Chain

variable {a b : BitVec 32} {r r' : PcbRun} (g : TcpArrival)

theorem tcpSegmentArrivesFinState_shift (h : r.Shifted a b r') :
    (tcpSegmentArrivesFinState g r).Shifted a b (tcpSegmentArrivesFinState (g.shift a b) r') := by
  have hnxt : r'.pcb.snd.nxt = r.pcb.snd.nxt + a := by rw [h.pcb]; rfl
  unfold tcpSegmentArrivesFinState
  rw [h.state]
  simp only [hnxt, TcpArrival.shift_seg_ack, shift_eq_shift_iff]
  split
  · exact (h.setState _).wakeup
  · exact (h.setState _).wakeup
  · split
    · exact h.withPcb (by rw [h.pcb]; rfl)
    · exact h.setState _
  · exact h.withPcb (by rw [h.pcb]; rfl)
  · exact h

theorem tcpSegmentArrivesFin_shift (h : r.Shifted a b r') :
    (tcpSegmentArrivesFin g r).Shifted a b (tcpSegmentArrivesFin (g.shift a b) r') := by
  unfold tcpSegmentArrivesFin
  rw [h.state, TcpArrival.shift_flags]
  split
  · exact h
  · split
    · exact h
    · exact h
    · exact h
    · refine tcpSegmentArrivesFinState_shift g (PcbRun.Shifted.output (h.withPcb ?_) _ _ _)
      rw [h.pcb, TcpArrival.shift_seg_seq, shift_add_comm]
      rfl

theorem tcpSegmentArrivesText_shift (h : r.Shifted a b r') :
    (tcpSegmentArrivesText g r).Shifted a b (tcpSegmentArrivesText (g.shift a b) r') := by
  unfold tcpSegmentArrivesText
  rw [h.state, TcpArrival.shift_data]
  split
  · refine tcpSegmentArrivesFin_shift g (PcbRun.Shifted.output (h.withPcb ?_) _ _ _).wakeup
    rw [h.pcb, TcpArrival.shift_seg_seq, TcpArrival.shift_seg_len, shift_add_comm]
    rfl
  · exact tcpSegmentArrivesFin_shift g h

theorem tcpSegmentArrivesWindowUpdate_shift (h : r.Shifted a b r')
    (hwl1 : NoWrap b [r.pcb.snd.wl1, g.seg.seq]) (hwl2 : NoWrap a [r.pcb.snd.wl2, g.seg.ack]) :
    (tcpSegmentArrivesWindowUpdate g r).Shifted a b
      (tcpSegmentArrivesWindowUpdate (g.shift a b) r') := by
  unfold tcpSegmentArrivesWindowUpdate
  refine rel_ite_of_iff ?_ (fun _ => h.withPcb (by rw [h.pcb]; rfl)) fun _ => h
  rw [h.pcb]
  simp only [TcpPcb.shift_snd_wl1, TcpPcb.shift_snd_wl2, TcpArrival.shift_seg_seq,
    TcpArrival.shift_seg_ack, shift_eq_shift_iff,
    shift_lt_shift_iff (hwl1 _ (List.mem_cons_self _ _)) (hwl1 g.seg.seq (by simp)),
    shift_le_shift_iff (hwl2 _ (List.mem_cons_self _ _)) (hwl2 g.seg.ack (by simp))]

theorem tcpSegmentArrivesAckNew_shift (h : r.Shifted a b r') (hw : TcpShiftNoWrap a b g r.pcb) :
    (tcpSegmentArrivesAckNew g r).Shifted a b (tcpSegmentArrivesAckNew (g.shift a b) r') :=
  tcpSegmentArrivesWindowUpdate_shift g
    ((h.withPcb (by rw [h.pcb]; rfl)).cleanup (.cons (hw.snd g.seg.ack (by simp)) hw.queue))
    (.cons (hw.rcv _ (by simp)) (.cons (hw.rcv _ (by simp)) nofun))
    (.cons (hw.snd _ (by simp)) (.cons (hw.snd _ (by simp)) nofun))

theorem tcpSegmentArrivesAckDone_shift (h : r.Shifted a b r') :
    (tcpSegmentArrivesAckDone g r).Shifted a b (tcpSegmentArrivesAckDone (g.shift a b) r') := by
  unfold tcpSegmentArrivesAckDone
  refine tcpSegmentArrivesText_shift g (rel_ite_of_iff ?_ (fun _ => h.setState _) fun _ => h)
  rw [h.pcb]
  simp only [TcpPcb.shift_state, TcpPcb.shift_snd_nxt, TcpArrival.shift_seg_ack, shift_eq_shift_iff]

theorem tcpSegmentArrivesAckUpdate_shift (h : r.Shifted a b r') (hw : TcpShiftNoWrap a b g r.pcb) :
    (tcpSegmentArrivesAckUpdate g r).Shifted a b (tcpSegmentArrivesAckUpdate (g.shift a b) r') := by
  have huna := hw.snd r.pcb.snd.una (by simp)
  have hnxt := hw.snd r.pcb.snd.nxt (by simp)
  have hack := hw.snd g.seg.ack (by simp)
  unfold tcpSegmentArrivesAckUpdate
  refine rel_ite_of_iff (by simp only [h.pcb, TcpPcb.shift_snd_una, TcpPcb.shift_snd_nxt,
      TcpArrival.shift_seg_ack, shift_lt_shift_iff huna hack, shift_le_shift_iff hack hnxt])
    (fun _ => tcpSegmentArrivesAckDone_shift g (tcpSegmentArrivesAckNew_shift g h hw)) fun _ => ?_
  refine rel_ite_of_iff (by simp only [h.pcb, TcpPcb.shift_snd_una, TcpArrival.shift_seg_ack,
      shift_lt_shift_iff hack huna]) (fun _ => tcpSegmentArrivesAckDone_shift g h) fun _ => ?_
  exact rel_ite_of_iff (by simp only [h.pcb, TcpPcb.shift_snd_nxt, TcpArrival.shift_seg_ack,
      shift_lt_shift_iff hnxt hack]) (fun _ => h.output _ _ _)
    fun _ => tcpSegmentArrivesAckDone_shift g h

theorem tcpSegmentArrivesAck_shift (h : r.Shifted a b r') (hw : TcpShiftNoWrap a b g r.pcb) :
    (tcpSegmentArrivesAck g r).Corresponds a b (tcpSegmentArrivesAck (g.shift a b) r') := by
  have huna := hw.snd r.pcb.snd.una (by simp)
  have hnxt := hw.snd r.pcb.snd.nxt (by simp)
  have hack := hw.snd g.seg.ack (by simp)
  unfold tcpSegmentArrivesAck
  rw [h.state, TcpArrival.shift_flags]
  split
  · exact h.corresponds
  · split
    · refine rel_ite_of_iff ?_
        (fun _ => (tcpSegmentArrivesAckUpdate_shift g (h.setState .established).wakeup
          ⟨hw.snd, hw.queue, hw.rcv⟩).corresponds)
        fun _ => (h.resetReply g).corresponds
      simp only [h.pcb, TcpPcb.shift_snd_una, TcpPcb.shift_snd_nxt, TcpArrival.shift_seg_ack,
        shift_le_shift_iff huna hack, shift_le_shift_iff hack hnxt]
    iterate 4 exact (tcpSegmentArrivesAckUpdate_shift g h hw).corresponds
    · exact rel_ite_of_iff (by simp only [h.pcb, TcpPcb.shift_snd_nxt, TcpArrival.shift_seg_ack,
        shift_eq_shift_iff]) (fun _ => (h.setState _).release) fun _ => h.corresponds
    · exact (tcpSegmentArrivesText_shift g h).corresponds

theorem tcpSegmentArrivesSyn_shift (h : r.Shifted a b r') (hw : TcpShiftNoWrap a b g r.pcb) :
    (tcpSegmentArrivesSyn g r).Corresponds a b (tcpSegmentArrivesSyn (g.shift a b) r') := by
  unfold tcpSegmentArrivesSyn
  rw [h.state, TcpArrival.shift_flags]
  split
  · split
    iterate 8 exact ((h.emitAll _).setState _).release
    exact tcpSegmentArrivesAck_shift g h hw
  · exact tcpSegmentArrivesAck_shift g h hw

theorem tcpSegmentArrivesRst_shift (h : r.Shifted a b r') (hw : TcpShiftNoWrap a b g r.pcb) :
    (tcpSegmentArrivesRst g r).Corresponds a b (tcpSegmentArrivesRst (g.shift a b) r') := by
  have hactive : r'.pcb.active = r.pcb.active := by rw [h.pcb]; rfl
  unfold tcpSegmentArrivesRst
  rw [h.state, TcpArrival.shift_flags, hactive]
  split
  · split
    · split
      · exact (h.setState _).release
      · exact (h.setState _).corresponds
    iterate 4 exact ((h.emitAll _).setState _).release
    iterate 3 exact (h.setState _).release
    exact tcpSegmentArrivesSyn_shift g h hw
  · exact tcpSegmentArrivesSyn_shift g h hw

/-- The window test gives the same answer on the shifted PCB and segment
when the window's ends and the segment's first and last sequence numbers do
not carry. -/
theorem tcpSegmentAcceptable_shift (pcb : TcpPcb) (hw : TcpShiftNoWrap a b g pcb) :
    tcpSegmentAcceptable (pcb.shift a b) (g.shift a b).seg = tcpSegmentAcceptable pcb g.seg := by
  have hnxt := hw.rcv pcb.rcv.nxt (by simp)
  have hend := hw.rcv (pcb.rcv.nxt + pcb.rcv.wnd.setWidth 32) (by simp)
  have hseq := hw.rcv g.seg.seq (by simp)
  have hlast := hw.rcv (g.seg.seq + g.seg.len.setWidth 32 - 1) (by simp)
  have hend_eq : pcb.rcv.nxt + b + pcb.rcv.wnd.setWidth 32 =
      pcb.rcv.nxt + pcb.rcv.wnd.setWidth 32 + b := shift_add_comm _ _ _
  have hlast_eq : g.seg.seq + b + g.seg.len.setWidth 32 - 1 =
      g.seg.seq + g.seg.len.setWidth 32 - 1 + b := by rw [shift_add_comm, shift_sub_comm]
  unfold tcpSegmentAcceptable
  simp only [TcpPcb.shift_state, TcpPcb.shift_rcv_nxt, TcpPcb.shift_rcv_wnd,
    TcpArrival.shift_seg_seq, TcpArrival.shift_seg_len, hend_eq, hlast_eq, shift_eq_shift_iff,
    shift_le_shift_iff hnxt hseq, shift_lt_shift_iff hseq hend, shift_le_shift_iff hnxt hlast,
    shift_lt_shift_iff hlast hend]

theorem tcpSegmentArrivesOther_shift (h : r.Shifted a b r') (hw : TcpShiftNoWrap a b g r.pcb) :
    (tcpSegmentArrivesOther g r).Corresponds a b (tcpSegmentArrivesOther (g.shift a b) r') := by
  have hacc : tcpSegmentAcceptable r'.pcb (g.shift a b).seg = tcpSegmentAcceptable r.pcb g.seg :=
    h.pcb ▸ tcpSegmentAcceptable_shift g r.pcb hw
  unfold tcpSegmentArrivesOther
  rw [hacc, TcpArrival.shift_flags]
  split
  · exact tcpSegmentArrivesRst_shift g h hw
  · split
    · exact h.corresponds
    · exact (h.output _ _ _).corresponds

theorem tcpSegmentArrivesListen_shift (h : r.Shifted a b r') :
    (tcpSegmentArrivesListen g r).Shifted a b (tcpSegmentArrivesListen (g.shift a b) r') := by
  unfold tcpSegmentArrivesListen
  rw [TcpArrival.shift_flags, TcpArrival.shift_now]
  split
  · exact h
  · split
    · exact h.resetReply g
    · split
      · refine (PcbRun.Shifted.output (h.withPcb ?_) _ _ _).withPcbOf fun h₂ => ?_
        · rw [h.pcb, TcpArrival.shift_seg_seq, shift_add_comm]; rfl
        · rw [h₂.pcb, TcpPcb.shift_iss, shift_add_comm]; rfl
      · exact h

theorem tcpSegmentArrivesSynSentSyn_shift (h : r.Shifted a b r')
    (hiss : r.pcb.iss.toNat + a.toNat < 2 ^ 32) (huna : r.pcb.snd.una.toNat + a.toNat < 2 ^ 32) :
    (tcpSegmentArrivesSynSentSyn g r).Shifted a b
      (tcpSegmentArrivesSynSentSyn (g.shift a b) r') := by
  have h₁ := (h.setState .established).output tcpFlgAck [] g.now
  unfold tcpSegmentArrivesSynSentSyn
  rw [TcpArrival.shift_now]
  exact rel_ite_of_iff (by rw [h.pcb]; exact shift_lt_shift_iff hiss huna)
    (fun _ => (h₁.withPcb (by rw [h₁.pcb]; rfl)).wakeup) fun _ => (h.setState _).output _ _ _

theorem tcpSegmentArrivesSynSent_shift (h : r.Shifted a b r') (hw : TcpShiftNoWrap a b g r.pcb) :
    (tcpSegmentArrivesSynSent g r).Corresponds a b (tcpSegmentArrivesSynSent (g.shift a b) r') := by
  have hiss := hw.snd r.pcb.iss (by simp)
  have huna := hw.snd r.pcb.snd.una (by simp)
  have hnxt := hw.snd r.pcb.snd.nxt (by simp)
  have hack := hw.snd g.seg.ack (by simp)
  -- the PCB once the SYN's sequence number is taken
  have h₁ : PcbRun.Shifted a b
      { r with pcb :=
        { r.pcb with rcv := { r.pcb.rcv with nxt := g.seg.seq + 1 }, irs := g.seg.seq } }
      { r' with pcb :=
        { r'.pcb with
          rcv := { r'.pcb.rcv with nxt := g.seg.seq + b + 1 }, irs := g.seg.seq + b } } :=
    h.withPcb (by rw [h.pcb, shift_add_comm]; rfl)
  unfold tcpSegmentArrivesSynSent
  dsimp only
  rw [TcpArrival.shift_flags]
  refine rel_ite_of_iff ?_ (fun _ => (h.resetReply g).corresponds) fun _ => ?_
  · simp only [h.pcb, TcpPcb.shift_iss, TcpPcb.shift_snd_nxt, TcpArrival.shift_seg_ack,
      shift_le_shift_iff hack hiss, shift_lt_shift_iff hnxt hack]
  refine rel_ite_of_iff Iff.rfl (fun _ => (h.setState _).wakeup.release) fun _ => ?_
  refine rel_ite_of_iff Iff.rfl (fun _ => ?_) fun _ => h.corresponds
  refine (tcpSegmentArrivesSynSentSyn_shift g ?_ ?_ ?_).corresponds
  · refine rel_ite_of_iff ?_ (fun _ => (h₁.withPcb ?_).cleanup (.cons hack hw.queue))
      fun _ => h₁
    · simp only [h.pcb, TcpPcb.shift_snd_una, TcpPcb.shift_snd_nxt, TcpArrival.shift_seg_ack,
        shift_le_shift_iff huna hack, shift_le_shift_iff hack hnxt]
    · rw [h.pcb, TcpArrival.shift_seg_seq, shift_add_comm]; rfl
  · split <;> exact hiss
  · split
    · exact hack
    · exact huna

/-- `tcp_segment_arrives` on the selected PCB commutes with the shift of the
sequence space, up to a release that zeroes both PCBs, whenever none of the
values it orders carries past `2^32`. -/
theorem tcpSegmentArrivesPcb_shift (h : r.Shifted a b r') (hw : TcpShiftNoWrap a b g r.pcb) :
    (tcpSegmentArrivesPcb g r).Corresponds a b (tcpSegmentArrivesPcb (g.shift a b) r') := by
  unfold tcpSegmentArrivesPcb
  rw [h.state]
  split
  · exact (tcpSegmentArrivesListen_shift g h).corresponds
  · exact tcpSegmentArrivesSynSent_shift g h hw
  · exact tcpSegmentArrivesOther_shift g h hw

end Chain

/-! ## Near the wrap -/

open TcpSystem in
/-- Right after an active open with ISS 0, the PCB is in `SYN_SENT` with
`snd.una = 0` and `snd.nxt = 1`, and the peer's SYN|ACK acknowledges 1 and
establishes the connection. Moved by `a = 2^32 - 1`, the ISS sits at the
last value before the wrap and `snd.nxt` at 0: the shifted SYN|ACK
acknowledges 0, which the test `seg.ack <= iss` rejects, so the shifted PCB
answers with a reset and stays in `SYN_SENT`. -/
theorem tcpSegmentArrivesPcb_shift_past_wrap :
    let s : TcpSystem :=
      run ethernetRoutes init [⟨.call 0 (.openActive refLocal refForeign), 0, 0, []⟩]
    let r : PcbRun := ⟨s.world.pcbs 0, s.world.heap, [], false⟩
    let r' : PcbRun := { r with pcb := r.pcb.shift 0xffffffff 0 }
    let g : TcpArrival :=
      ⟨⟨1000, 1, 1, 16⟩, tcpFlgSyn ||| tcpFlgAck, [], refLocal, refForeign, 0, 1000⟩
    r.Shifted 0xffffffff 0 r' ∧ (tcpSegmentArrivesPcb g r).pcb.state = .established ∧
      (tcpSegmentArrivesPcb (g.shift 0xffffffff 0) r').pcb.state = .synSent ∧
      (tcpSegmentArrivesPcb (g.shift 0xffffffff 0) r').out.map (·.flg) = [tcpFlgRst] ∧
      ¬(tcpSegmentArrivesPcb g r).Corresponds 0xffffffff 0
        (tcpSegmentArrivesPcb (g.shift 0xffffffff 0) r') :=
  ⟨⟨rfl, rfl, rfl, .nil⟩, by decide, by decide, by decide,
    fun hc => absurd hc.state (by decide)⟩

open TcpSystem in
/-- After the reference handshake, an in-window data segment processed with
the send side moved by 5 and the receive side by 7 corresponds to the
original. -/
theorem tcpSegmentArrivesPcb_shift_established :
    let s : TcpSystem := run ethernetRoutes init refHandshake
    let r : PcbRun := ⟨s.world.pcbs 0, s.world.heap, [], false⟩
    let g : TcpArrival :=
      ⟨⟨1001, 1, 3, 16⟩, tcpFlgAck ||| tcpFlgPsh, [1, 2, 3], refLocal, refForeign, 0, 3000⟩
    r.Shifted 5 7 { r with pcb := r.pcb.shift 5 7 } ∧ TcpShiftNoWrap 5 7 g r.pcb ∧
      (tcpSegmentArrivesPcb g r).Corresponds 5 7
        (tcpSegmentArrivesPcb (g.shift 5 7) { r with pcb := r.pcb.shift 5 7 }) := by
  intro s r g
  have hr : r.Shifted 5 7 { r with pcb := r.pcb.shift 5 7 } := ⟨rfl, rfl, rfl, .nil⟩
  have hw : TcpShiftNoWrap 5 7 g r.pcb := ⟨by decide, by decide, by decide⟩
  exact ⟨hr, hw, tcpSegmentArrivesPcb_shift g hr hw⟩

end MicroPs.Tcp
