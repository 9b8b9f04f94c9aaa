/-
# The receive side as a byte stream

The sixteen-byte buffer of a PCB and its `rcv.wnd` together hold a queue of
bytes: the first `16 - rcv.wnd` bytes of `buf` are those received and not yet
read. The text step of `tcp_segment_arrives` appends a payload to that queue
and `tcp_receive` takes bytes off its front. For a connection whose peer
sends its stream in order and within the advertised window, the bytes the
user reads, followed by those still waiting, are exactly the bytes that
arrived, and `rcv.nxt` moves by their number.

The text step appends after the waiting bytes whatever the segment's sequence
number, and sets `rcv.nxt` past the segment: an acceptable segment that
starts past `rcv.nxt` skips the bytes in between, and one that starts before
it hands the overlap to the user a second time. Payloads longer than the
window are treated in `MicroPs.Tcp.Window`.
-/

import MicroPs.Tcp.Window

namespace MicroPs.Tcp

/-! ## The buffer as a queue -/

section Buffer

variable (buf : Fin 16 → Byte)

theorem tcpBufTake_length (len : Nat) : (tcpBufTake buf len).length = len := by
  simp [tcpBufTake]

theorem tcpBufTake_getElem {len k : Nat} (hk : k < (tcpBufTake buf len).length) (h16 : k < 16) :
    (tcpBufTake buf len)[k] = buf ⟨k, h16⟩ := by
  simp [tcpBufTake, h16]

/-- Reading fewer bytes reads a prefix. -/
theorem tcpBufTake_take {n m : Nat} (h : n ≤ m) : (tcpBufTake buf m).take n = tcpBufTake buf n := by
  simp [tcpBufTake, ← List.map_take, List.take_range, Nat.min_eq_left h]

/-- Copying a payload right behind the first `off` bytes appends it to them. -/
theorem tcpBufTake_tcpBufCopy {off : Nat} {data : List Byte} (h : off + data.length ≤ 16) :
    tcpBufTake (tcpBufCopy buf off data) (off + data.length) = tcpBufTake buf off ++ data := by
  apply List.ext_getElem (by simp [tcpBufTake_length])
  intro k hk _
  have hk' : k < off + data.length := by rwa [tcpBufTake_length] at hk
  rw [tcpBufTake_getElem _ hk (by omega)]
  by_cases hko : k < off
  · have hk'' : k < (tcpBufTake buf off).length := by rwa [tcpBufTake_length]
    rw [List.getElem_append_left hk'', tcpBufTake_getElem _ hk'' (by omega)]
    simp [tcpBufCopy]; omega
  · rw [List.getElem_append_right (by rw [tcpBufTake_length]; omega)]
    simp only [tcpBufCopy, tcpBufTake_length]
    rw [if_pos (by omega)]
    simp [List.getD_eq_getElem?_getD, List.getElem?_eq_getElem (show k - off < data.length by omega)]

/-- The `memmove` of `tcp_receive` drops the bytes read from the front. -/
theorem tcpBufTake_tcpBufShift {len remain : Nat} (hlen : len ≤ remain) (hremain : remain ≤ 16) :
    tcpBufTake (tcpBufShift buf len remain) (remain - len) = (tcpBufTake buf remain).drop len := by
  apply List.ext_getElem (by simp [tcpBufTake_length])
  intro k hk _
  have hk' : k < remain - len := by rwa [tcpBufTake_length] at hk
  have hk'' : len + k < (tcpBufTake buf remain).length := by rw [tcpBufTake_length]; omega
  rw [tcpBufTake_getElem _ hk (by omega), List.getElem_drop, tcpBufTake_getElem _ hk'' (by omega)]
  simp only [tcpBufShift]
  rw [dif_pos (by omega)]
  congr 2; omega

end Buffer

/-- The bytes waiting for `tcp_receive`: the first `sizeof(pcb->buf) - rcv.wnd`
of the buffer. -/
def TcpPcb.pending (pcb : TcpPcb) : List Byte :=
  tcpBufTake pcb.buf (tcpBufSize - pcb.rcv.wnd.toNat)

/-- The bytes a stretch of a user call hands back. -/
def TcpCallOutcome.bytes : TcpCallOutcome → List Byte
  | .ret _ bytes => bytes
  | .park _ => []

/-! ## What arrival and `tcp_receive` do to the queue -/

section Arrival

variable {a : TcpArrival} {r : PcbRun}

@[simp] theorem tcpSegmentArrivesFinState_buf (a : TcpArrival) (r : PcbRun) :
    (tcpSegmentArrivesFinState a r).pcb.buf = r.pcb.buf := by
  unfold tcpSegmentArrivesFinState
  split <;> (try split) <;> rfl

@[simp] theorem tcpSegmentArrivesFinState_rcv (a : TcpArrival) (r : PcbRun) :
    (tcpSegmentArrivesFinState a r).pcb.rcv = r.pcb.rcv := by
  unfold tcpSegmentArrivesFinState
  split <;> (try split) <;> rfl

/-- The FIN step leaves the buffer and the window alone. -/
theorem tcpSegmentArrivesFin_buf_wnd (a : TcpArrival) (r : PcbRun) :
    (tcpSegmentArrivesFin a r).pcb.buf = r.pcb.buf ∧
      (tcpSegmentArrivesFin a r).pcb.rcv.wnd = r.pcb.rcv.wnd := by
  unfold tcpSegmentArrivesFin
  split
  · exact ⟨rfl, rfl⟩
  · split <;> simp

/-- The text step without FIN keeps the connection `ESTABLISHED`. -/
theorem tcpSegmentArrivesText_state (hst : r.pcb.state = .established)
    (hfin : tcpFlgIsset a.flags tcpFlgFin = false) :
    (tcpSegmentArrivesText a r).pcb.state = .established := by
  unfold tcpSegmentArrivesText
  split_ifs <;> simp [tcpSegmentArrivesFin, hst, hfin, PcbRun.wakeup]

/-- The text step on a payload that fits the window appends it to the
waiting bytes; an empty payload leaves them as they are. -/
theorem tcpSegmentArrivesText_pending (hst : r.pcb.state = .established)
    (hwnd : r.pcb.rcv.wnd.toNat ≤ tcpBufSize) (hfit : a.data.length ≤ r.pcb.rcv.wnd.toNat) :
    (tcpSegmentArrivesText a r).pcb.pending = r.pcb.pending ++ a.data ∧
      (tcpSegmentArrivesText a r).pcb.rcv.wnd.toNat = r.pcb.rcv.wnd.toNat - a.data.length := by
  by_cases hdata : a.data = []
  · obtain ⟨hbuf, hw⟩ := tcpSegmentArrivesFin_buf_wnd a r
    simp [tcpSegmentArrivesText, hdata, TcpPcb.pending, hbuf, hw]
  · obtain ⟨hw, hbuf⟩ := tcpSegmentArrivesText_copy (a := a) hst hdata
    have hoff : tcpTextOffset r.pcb = ((tcpBufSize - r.pcb.rcv.wnd.toNat : Nat) : Int) := by
      unfold tcpTextOffset; omega
    have hsub : (tcpSegmentArrivesText a r).pcb.rcv.wnd.toNat = r.pcb.rcv.wnd.toNat - a.data.length :=
      by rw [hw, rcvWnd_sub_toNat hfit]
    refine ⟨?_, hsub⟩
    unfold TcpPcb.pending at *
    rw [hsub, hbuf, hoff, show tcpBufSize - (r.pcb.rcv.wnd.toNat - a.data.length) =
      (tcpBufSize - r.pcb.rcv.wnd.toNat) + a.data.length by omega]
    exact tcpBufTake_tcpBufCopy _ (by unfold tcpBufSize at *; omega)

/-- An acceptable segment with ACK, no RST, SYN or FIN, an ACK not beyond
`snd.nxt` and a payload that fits the window, reaching an `ESTABLISHED` PCB:
the payload goes behind the waiting bytes, the window shrinks by its length,
and `rcv.nxt` moves past the segment, whatever its sequence number. -/
theorem tcpSegmentArrivesPcb_pending (hst : r.pcb.state = .established)
    (hwnd : r.pcb.rcv.wnd.toNat ≤ tcpBufSize) (hacc : tcpSegmentAcceptable r.pcb a.seg)
    (hrst : tcpFlgIsset a.flags tcpFlgRst = false) (hsyn : tcpFlgIsset a.flags tcpFlgSyn = false)
    (hfin : tcpFlgIsset a.flags tcpFlgFin = false) (hack : tcpFlgIsset a.flags tcpFlgAck = true)
    (hnxt : ¬r.pcb.snd.nxt < a.seg.ack) (hdata : a.data ≠ [])
    (hfit : a.data.length ≤ r.pcb.rcv.wnd.toNat) :
    let r' := tcpSegmentArrivesPcb a r
    r'.pcb.pending = r.pcb.pending ++ a.data ∧
      r'.pcb.rcv.wnd.toNat = r.pcb.rcv.wnd.toNat - a.data.length ∧
      r'.pcb.rcv.nxt = a.seg.seq + a.seg.len.setWidth 32 ∧ r'.pcb.state = .established := by
  obtain ⟨r', hst', hrcv, hbuf, heq⟩ :=
    tcpSegmentArrivesPcb_established_text hst hacc hrst hsyn hack hnxt
  have hsame : r'.pcb.pending = r.pcb.pending := by simp only [TcpPcb.pending, hrcv, hbuf]
  obtain ⟨hpend, hw⟩ := tcpSegmentArrivesText_pending hst' (hrcv ▸ hwnd) (hrcv ▸ hfit)
  simp only [heq, hpend, hw, hsame, hrcv, tcpSegmentArrivesText_state hst' hfin,
    (tcpSegmentArrivesText_rcv hst' hdata hfin).1, rcvWnd_sub_toNat hfit, and_self]

end Arrival

section Receive

variable {w : TcpWorld} {i : Fin 16}

/-- `tcp_receive` from its retry label hands out a prefix of the waiting
bytes and leaves the rest waiting, with their room back in the window; it
changes neither the state nor `rcv.nxt`, nor any other slot. -/
theorem tcpReceiveRetry_pending (size : Nat) (hwnd : (w.pcbs i).rcv.wnd.toNat ≤ tcpBufSize) :
    let c := tcpReceiveRetry i size w
    c.2.bytes ++ (c.1.pcbs i).pending = (w.pcbs i).pending ∧
      (c.1.pcbs i).rcv.wnd.toNat ≤ tcpBufSize ∧ (c.1.pcbs i).state = (w.pcbs i).state ∧
      (c.1.pcbs i).rcv.nxt = (w.pcbs i).rcv.nxt ∧ ∀ j, j ≠ i → c.1.pcbs j = w.pcbs j := by
  have hremain : tcpRemain (w.pcbs i) = tcpBufSize - (w.pcbs i).rcv.wnd.toNat := by
    unfold tcpRemain tcpBufSize at *; omega
  have hcopy : ∀ (hpos : tcpRemain (w.pcbs i) ≠ 0),
      let c := tcpReceiveCopy i size (tcpRemain (w.pcbs i)) w
      c.2.bytes ++ (c.1.pcbs i).pending = (w.pcbs i).pending ∧
        (c.1.pcbs i).rcv.wnd.toNat ≤ tcpBufSize ∧ (c.1.pcbs i).state = (w.pcbs i).state ∧
        (c.1.pcbs i).rcv.nxt = (w.pcbs i).rcv.nxt ∧ ∀ j, j ≠ i → c.1.pcbs j = w.pcbs j := by
    intro _
    obtain ⟨-, hle⟩ := tcpReceiveCopy_wnd (w := w) (i := i) size hwnd
    refine ⟨?_, hle, by simp [tcpReceiveCopy], by simp [tcpReceiveCopy],
      fun j hj => by simp [tcpReceiveCopy, hj]⟩
    have hlen : min size (tcpRemain (w.pcbs i)) ≤ tcpRemain (w.pcbs i) := min_le_right _ _
    have hw : ((w.pcbs i).rcv.wnd + BitVec.ofNat 16 (min size (tcpRemain (w.pcbs i)))).toNat =
        (w.pcbs i).rcv.wnd.toNat + min size (tcpRemain (w.pcbs i)) := by
      rw [BitVec.toNat_add, BitVec.toNat_ofNat]; unfold tcpBufSize at *; omega
    simp only [tcpReceiveCopy, TcpCallOutcome.bytes, TcpWorld.setPcb_pcbs_self, TcpPcb.pending, hw]
    rw [show tcpBufSize - ((w.pcbs i).rcv.wnd.toNat + min size (tcpRemain (w.pcbs i))) =
        tcpRemain (w.pcbs i) - min size (tcpRemain (w.pcbs i)) by omega,
      tcpBufTake_tcpBufShift _ hlen (by unfold tcpBufSize at *; omega), ← tcpBufTake_take _ hlen,
      List.take_append_drop, hremain]
  have hsleep : ∀ w' : TcpWorld, w.sleepEnter i = some w' →
      (∃ ctx, w'.pcbs i = { w.pcbs i with ctx }) ∧ ∀ j, j ≠ i → w'.pcbs j = w.pcbs j := by
    intro w' h
    obtain ⟨_, -, rfl⟩ := Option.map_eq_some'.mp h
    exact ⟨⟨_, TcpWorld.setPcb_pcbs_self _ _ _⟩, fun j hj => TcpWorld.setPcb_pcbs_ne _ _ hj⟩
  unfold tcpReceiveRetry
  dsimp only
  split
  · split_ifs with h0
    · cases hs : w.sleepEnter i with
      | none => simp [TcpCallOutcome.bytes, hwnd]
      | some w' =>
        obtain ⟨⟨ctx, hself⟩, hother⟩ := hsleep w' hs
        simpa [TcpCallOutcome.bytes, TcpPcb.pending, hself, hwnd] using hother
    · exact hcopy h0
  · split_ifs with h0
    · simp [TcpCallOutcome.bytes, hwnd]
    · exact hcopy h0
  · simp [TcpCallOutcome.bytes, hwnd]

end Receive

/-! ## A connection's receive side over a run -/

/-- What reaches the receive side of the connection in one slot: a segment
for its PCB, or a `tcp_receive` call on it. -/
inductive TcpReadEvent
  | arrive (a : TcpArrival)
  | receive (size : Nat)

/-- The payload an event brings. -/
def TcpReadEvent.payload : TcpReadEvent → List Byte
  | .arrive a => a.data
  | .receive _ => []

/-- The payloads of a run's arrivals, in order. -/
def tcpReadArrived : List TcpReadEvent → List Byte
  | [] => []
  | e :: es => e.payload ++ tcpReadArrived es

/-- One event on slot `i`: `tcp_segment_arrives` on its PCB, or `tcp_receive`
from its retry label; with the bytes handed to the user. -/
def tcpReadStep (i : Fin 16) (w : TcpWorld) : TcpReadEvent → TcpWorld × List Byte
  | .arrive a => (w.runOn i (tcpSegmentArrivesPcb a), [])
  | .receive size => let c := tcpReceiveRetry i size w; (c.1, c.2.bytes)

/-- A run of events on slot `i`, with every byte handed to the user. -/
def tcpReadRun (i : Fin 16) : TcpWorld → List TcpReadEvent → TcpWorld × List Byte
  | w, [] => (w, [])
  | w, e :: es =>
    let s := tcpReadStep i w e
    let t := tcpReadRun i s.1 es
    (t.1, s.2 ++ t.2)

/-- A segment that continues the peer's stream where the PCB expects it: it
starts at `rcv.nxt`, `seg.len` is its payload's length as `tcp_input` counts
it, the payload is not empty and fits the window, the segment passes the
acceptability test, carries ACK and neither RST, SYN nor FIN, and its ACK is
not beyond `snd.nxt`. -/
def TcpArrival.InOrder (pcb : TcpPcb) (a : TcpArrival) : Prop :=
  a.seg.seq = pcb.rcv.nxt ∧ a.seg.len = BitVec.ofNat 16 a.data.length ∧ a.data ≠ [] ∧
    a.data.length ≤ pcb.rcv.wnd.toNat ∧ tcpSegmentAcceptable pcb a.seg = true ∧
    tcpFlgIsset a.flags tcpFlgAck = true ∧ tcpFlgIsset a.flags tcpFlgRst = false ∧
    tcpFlgIsset a.flags tcpFlgSyn = false ∧ tcpFlgIsset a.flags tcpFlgFin = false ∧
    ¬pcb.snd.nxt < a.seg.ack

instance (pcb : TcpPcb) (a : TcpArrival) : Decidable (a.InOrder pcb) :=
  inferInstanceAs (Decidable (_ ∧ _))

/-- An event that is no arrival, or an arrival in order. -/
def TcpReadEvent.InOrder (pcb : TcpPcb) : TcpReadEvent → Prop
  | .arrive a => a.InOrder pcb
  | .receive _ => True

instance (pcb : TcpPcb) : (e : TcpReadEvent) → Decidable (e.InOrder pcb)
  | .arrive a => inferInstanceAs (Decidable (a.InOrder pcb))
  | .receive _ => isTrue trivial

/-- Every arrival of the run is in order at the state it meets. -/
def TcpReadInOrder (i : Fin 16) : TcpWorld → List TcpReadEvent → Prop
  | _, [] => True
  | w, e :: es => e.InOrder (w.pcbs i) ∧ TcpReadInOrder i (tcpReadStep i w e).1 es

instance decTcpReadInOrder (i : Fin 16) :
    (w : TcpWorld) → (events : List TcpReadEvent) → Decidable (TcpReadInOrder i w events)
  | _, [] => isTrue trivial
  | w, e :: es =>
    have := decTcpReadInOrder i (tcpReadStep i w e).1 es
    inferInstanceAs (Decidable (_ ∧ _))

/-- What one event does to the receive side of an `ESTABLISHED` connection
with its window in `[0, 16]`. -/
structure TcpReadStepSpec (i : Fin 16) (w w' : TcpWorld) (out payload : List Byte) : Prop where
  stream : out ++ (w'.pcbs i).pending = (w.pcbs i).pending ++ payload
  nxt : (w'.pcbs i).rcv.nxt = (w.pcbs i).rcv.nxt + BitVec.ofNat 32 payload.length
  state : (w'.pcbs i).state = .established
  wnd : (w'.pcbs i).rcv.wnd.toNat ≤ tcpBufSize

theorem setWidth_ofNat_16 {n : Nat} (h : n < 2 ^ 16) :
    (BitVec.ofNat 16 n).setWidth 32 = BitVec.ofNat 32 n := by
  apply BitVec.eq_of_toNat_eq
  simp only [BitVec.toNat_setWidth, BitVec.toNat_ofNat]
  omega

/-- One event keeps the connection `ESTABLISHED` and the window in range,
hands out bytes from the front of the queue and appends the payload. -/
theorem tcpReadStep_spec {i : Fin 16} {w : TcpWorld} (e : TcpReadEvent)
    (hst : (w.pcbs i).state = .established) (hwnd : (w.pcbs i).rcv.wnd.toNat ≤ tcpBufSize)
    (hin : e.InOrder (w.pcbs i)) :
    TcpReadStepSpec i w (tcpReadStep i w e).1 (tcpReadStep i w e).2 e.payload := by
  cases e with
  | arrive a =>
    obtain ⟨hseq, hlen, hdata, hfit, hacc, hack, hrst, hsyn, hfin, hnxt⟩ := hin
    obtain ⟨hpend, hw, hnxt', hst'⟩ := tcpSegmentArrivesPcb_pending (r := ⟨w.pcbs i, w.heap, [], false⟩)
      hst hwnd hacc hrst hsyn hfin hack hnxt hdata hfit
    dsimp only at hpend hw hnxt' hst'
    have hsmall : a.data.length < 2 ^ 16 := by
      have := (w.pcbs i).rcv.wnd.isLt; omega
    refine ⟨?_, ?_, ?_, ?_⟩ <;>
      simp only [tcpReadStep, TcpWorld.runOn_pcbs_self, List.nil_append, TcpReadEvent.payload]
    · exact hpend
    · rw [hnxt', hseq, hlen, setWidth_ofNat_16 hsmall]
    · exact hst'
    · rw [hw]; omega
  | receive size =>
    obtain ⟨hpend, hwnd', hst', hnxt', -⟩ := tcpReceiveRetry_pending (w := w) (i := i) size hwnd
    exact ⟨by simpa [TcpReadEvent.payload] using hpend, by simpa [TcpReadEvent.payload] using hnxt',
      hst' ▸ hst, hwnd'⟩

/-- For an `ESTABLISHED` connection whose peer sends its stream in order and
within the window, along every run of arrivals and `tcp_receive` calls: the
bytes handed to the user, followed by those still waiting, are the bytes
waiting at the start followed by every payload that arrived; `rcv.nxt` has
moved by the number of bytes that arrived; the connection stays `ESTABLISHED`
and its window stays in `[0, 16]`, so `rcv.wnd` plus the waiting bytes is
always the buffer's size. -/
theorem tcpReadRun_stream (i : Fin 16) :
    ∀ (w : TcpWorld) (events : List TcpReadEvent), (w.pcbs i).state = .established →
      (w.pcbs i).rcv.wnd.toNat ≤ tcpBufSize → TcpReadInOrder i w events →
      let r := tcpReadRun i w events
      r.2 ++ (r.1.pcbs i).pending = (w.pcbs i).pending ++ tcpReadArrived events ∧
        (r.1.pcbs i).rcv.nxt =
          (w.pcbs i).rcv.nxt + BitVec.ofNat 32 (tcpReadArrived events).length ∧
        (r.1.pcbs i).state = .established ∧ (r.1.pcbs i).rcv.wnd.toNat ≤ tcpBufSize
  | w, [], _, hwnd, _ => by simp_all [tcpReadRun, tcpReadArrived]
  | w, e :: es, hst, hwnd, ⟨he, hes⟩ => by
    have hs := tcpReadStep_spec e hst hwnd he
    obtain ⟨ih₁, ih₂, ih₃, ih₄⟩ := tcpReadRun_stream i _ es hs.state hs.wnd hes
    refine ⟨?_, ?_, ih₃, ih₄⟩ <;> simp only [tcpReadRun, tcpReadArrived]
    · rw [List.append_assoc, ih₁, ← List.append_assoc, hs.stream, List.append_assoc]
    · rw [ih₂, hs.nxt, BitVec.add_assoc, ← BitVec.ofNat_add, List.length_append]

/-- A segment from the peer of the reference connection, acknowledging its
SYN. -/
def refArrival (seq : BitVec 32) (data : List Byte) : TcpArrival :=
  ⟨⟨seq, 1, BitVec.ofNat 16 data.length, 16⟩, tcpFlgAck, data, TcpSystem.refLocal,
    TcpSystem.refForeign, 0, 3000⟩

open TcpSystem in
/-- After the reference handshake, five bytes arrive, three are read, ten
more arrive and the user asks for twenty. -/
theorem tcpReadRun_stream_ref :
    let w : TcpWorld := (run ethernetRoutes init refHandshake).world
    let events := [.arrive (refArrival 1001 [1, 2, 3, 4, 5]), .receive 3,
      .arrive (refArrival 1006 [6, 7, 8, 9, 10, 11, 12, 13, 14, 15]), .receive 20]
    ((w.pcbs 0).state = .established ∧ (w.pcbs 0).rcv.wnd.toNat ≤ tcpBufSize ∧
      TcpReadInOrder 0 w events) ∧
    let r := tcpReadRun 0 w events
    r.2 ++ (r.1.pcbs 0).pending = (w.pcbs 0).pending ++ tcpReadArrived events ∧
      (r.1.pcbs 0).rcv.nxt = (w.pcbs 0).rcv.nxt + BitVec.ofNat 32 (tcpReadArrived events).length ∧
      (r.1.pcbs 0).state = .established ∧ (r.1.pcbs 0).rcv.wnd.toNat ≤ tcpBufSize :=
  have h : _ ∧ _ ∧ _ := ⟨by decide, by decide, by decide⟩
  ⟨h, tcpReadRun_stream 0 _ _ h.1 h.2.1 h.2.2⟩

end MicroPs.Tcp
