/-
# The receive window and the receive buffer

`rcv.wnd` counts the free bytes of the sixteen-byte buffer. The text step of
`tcp_segment_arrives` copies a payload to offset `16 - rcv.wnd` and shrinks
the window by the payload's length; `tcp_receive` copies bytes out from
offset zero and grows the window again. The copy stays in the buffer, and the
window in `[0, 16]`, exactly when the payload fits in the window. The
acceptability test only asks that the first or the last byte fall in the
window and nothing trims a segment to it, so a peer can make the copy run
past the buffer and the window wrap. The FIN step then sets `rcv.nxt` from the
start of the segment, forgetting the payload the segment carried.
-/

import MicroPs.Tcp.System

namespace MicroPs.Tcp

/-! ## Arithmetic of the window -/

/-- Shrinking a window by a payload that fits in it. -/
theorem rcvWnd_sub_toNat {wnd : BitVec 16} {len : Nat} (h : len ≤ wnd.toNat) :
    (wnd - BitVec.ofNat 16 len).toNat = wnd.toNat - len := by
  have hw := wnd.isLt
  rw [BitVec.toNat_sub, BitVec.toNat_ofNat]
  omega

/-- Shrinking a window by a longer payload wraps past `2^16`. -/
theorem rcvWnd_sub_toNat_of_lt {wnd : BitVec 16} {len : Nat} (h : wnd.toNat < len)
    (hlen : len < 2 ^ 16) : (wnd - BitVec.ofNat 16 len).toNat = 2 ^ 16 + wnd.toNat - len := by
  have hw := wnd.isLt
  rw [BitVec.toNat_sub, BitVec.toNat_ofNat]
  omega

/-- With the window in `[0, 16]`, the copy of `len` bytes at offset
`16 - rcv.wnd` stays in the buffer exactly when `len ≤ rcv.wnd`. -/
theorem tcpTextOffset_add_le_iff {pcb : TcpPcb} (hwnd : pcb.rcv.wnd.toNat ≤ tcpBufSize)
    (len : Nat) :
    0 ≤ tcpTextOffset pcb ∧
      (tcpTextOffset pcb + len ≤ tcpBufSize ↔ len ≤ pcb.rcv.wnd.toNat) := by
  unfold tcpTextOffset at *
  omega

/-! ## From arrival to the text step -/

section Established

variable {a : TcpArrival} {r : PcbRun}

/-- The acknowledgment block of an `ESTABLISHED` PCB leaves the receive side
alone and goes on to the text step, unless the ACK is beyond `snd.nxt`. -/
theorem tcpSegmentArrivesAckUpdate_text (hst : r.pcb.state = .established)
    (hnxt : ¬r.pcb.snd.nxt < a.seg.ack) :
    ∃ r' : PcbRun, r'.pcb.state = .established ∧ r'.pcb.rcv = r.pcb.rcv ∧
      r'.pcb.buf = r.pcb.buf ∧ tcpSegmentArrivesAckUpdate a r = tcpSegmentArrivesText a r' := by
  have hne : r.pcb.state ≠ .finWait1 := by simp [hst]
  unfold tcpSegmentArrivesAckUpdate
  simp only [hnxt, if_false]
  split_ifs
  · exact ⟨_, by simp [hst], by simp, by simp,
      tcpSegmentArrivesAckDone_of_ne a _ (by simpa using hne)⟩
  all_goals exact ⟨r, hst, rfl, rfl, tcpSegmentArrivesAckDone_of_ne a r hne⟩

/-- An acceptable segment with ACK and neither RST nor SYN goes straight to
the acknowledgment block of an `ESTABLISHED` PCB. -/
theorem tcpSegmentArrivesPcb_established_ack (hst : r.pcb.state = .established)
    (hacc : tcpSegmentAcceptable r.pcb a.seg) (hrst : tcpFlgIsset a.flags tcpFlgRst = false)
    (hsyn : tcpFlgIsset a.flags tcpFlgSyn = false) (hack : tcpFlgIsset a.flags tcpFlgAck = true) :
    tcpSegmentArrivesPcb a r = tcpSegmentArrivesAckUpdate a r := by
  simp [tcpSegmentArrivesPcb, tcpSegmentArrivesOther, tcpSegmentArrivesRst,
    tcpSegmentArrivesSyn, tcpSegmentArrivesAck, hst, hacc, hrst, hsyn, hack]

/-- Such a segment reaches the text step with the receive side untouched,
unless its ACK is beyond `snd.nxt`. -/
theorem tcpSegmentArrivesPcb_established_text (hst : r.pcb.state = .established)
    (hacc : tcpSegmentAcceptable r.pcb a.seg) (hrst : tcpFlgIsset a.flags tcpFlgRst = false)
    (hsyn : tcpFlgIsset a.flags tcpFlgSyn = false) (hack : tcpFlgIsset a.flags tcpFlgAck = true)
    (hnxt : ¬r.pcb.snd.nxt < a.seg.ack) :
    ∃ r' : PcbRun, r'.pcb.state = .established ∧ r'.pcb.rcv = r.pcb.rcv ∧
      r'.pcb.buf = r.pcb.buf ∧ tcpSegmentArrivesPcb a r = tcpSegmentArrivesText a r' := by
  rw [tcpSegmentArrivesPcb_established_ack hst hacc hrst hsyn hack]
  exact tcpSegmentArrivesAckUpdate_text hst hnxt

/-- The text step on a payload without FIN: `rcv.nxt` moves to the end of the
segment and the window shrinks by the payload's length. -/
theorem tcpSegmentArrivesText_rcv (hst : r.pcb.state = .established) (hdata : a.data ≠ [])
    (hfin : tcpFlgIsset a.flags tcpFlgFin = false) :
    (tcpSegmentArrivesText a r).pcb.rcv =
      ⟨a.seg.seq + a.seg.len.setWidth 32, r.pcb.rcv.wnd - BitVec.ofNat 16 a.data.length⟩ ∧
    (tcpSegmentArrivesText a r).pcb.buf = tcpBufCopy r.pcb.buf (tcpTextOffset r.pcb) a.data := by
  simp [tcpSegmentArrivesText, tcpSegmentArrivesFin, hst, hdata, hfin, PcbRun.wakeup]

/-- The text step on a payload that carries FIN: the payload is buffered and
the window shrinks, but `rcv.nxt` ends one past the segment's first sequence
number, as if the payload were empty. -/
theorem tcpSegmentArrivesText_fin_rcv (hst : r.pcb.state = .established) (hdata : a.data ≠ [])
    (hfin : tcpFlgIsset a.flags tcpFlgFin = true) :
    (tcpSegmentArrivesText a r).pcb.rcv =
      ⟨a.seg.seq + 1, r.pcb.rcv.wnd - BitVec.ofNat 16 a.data.length⟩ ∧
    (tcpSegmentArrivesText a r).pcb.buf = tcpBufCopy r.pcb.buf (tcpTextOffset r.pcb) a.data ∧
    (tcpSegmentArrivesText a r).pcb.state = .closeWait := by
  simp [tcpSegmentArrivesText, tcpSegmentArrivesFin, tcpSegmentArrivesFinState, hst, hdata, hfin,
    PcbRun.wakeup, PcbRun.setState]

/-- The text step on any payload: the window shrinks by its length and the
payload is copied to offset `16 - rcv.wnd`. -/
theorem tcpSegmentArrivesText_copy (hst : r.pcb.state = .established) (hdata : a.data ≠ []) :
    (tcpSegmentArrivesText a r).pcb.rcv.wnd = r.pcb.rcv.wnd - BitVec.ofNat 16 a.data.length ∧
    (tcpSegmentArrivesText a r).pcb.buf = tcpBufCopy r.pcb.buf (tcpTextOffset r.pcb) a.data := by
  cases hfin : tcpFlgIsset a.flags tcpFlgFin
  · obtain ⟨hrcv, hbuf⟩ := tcpSegmentArrivesText_rcv hst hdata hfin
    exact ⟨by rw [hrcv], hbuf⟩
  · obtain ⟨hrcv, hbuf, -⟩ := tcpSegmentArrivesText_fin_rcv hst hdata hfin
    exact ⟨by rw [hrcv], hbuf⟩

/-- Every acceptable segment with a payload, ACK, no RST or SYN and an ACK not
beyond `snd.nxt` is copied into the buffer of an `ESTABLISHED` PCB at
`16 - rcv.wnd`, and the window shrinks by the payload's length, however long
the payload is. -/
theorem tcpSegmentArrivesPcb_established_copy (hst : r.pcb.state = .established)
    (hacc : tcpSegmentAcceptable r.pcb a.seg) (hrst : tcpFlgIsset a.flags tcpFlgRst = false)
    (hsyn : tcpFlgIsset a.flags tcpFlgSyn = false) (hack : tcpFlgIsset a.flags tcpFlgAck = true)
    (hnxt : ¬r.pcb.snd.nxt < a.seg.ack) (hdata : a.data ≠ []) :
    (tcpSegmentArrivesPcb a r).pcb.rcv.wnd = r.pcb.rcv.wnd - BitVec.ofNat 16 a.data.length ∧
    (tcpSegmentArrivesPcb a r).pcb.buf = tcpBufCopy r.pcb.buf (tcpTextOffset r.pcb) a.data := by
  obtain ⟨r', hst', hrcv, hbuf, heq⟩ :=
    tcpSegmentArrivesPcb_established_text hst hacc hrst hsyn hack hnxt
  have hoff : tcpTextOffset r'.pcb = tcpTextOffset r.pcb := by unfold tcpTextOffset; rw [hrcv]
  rw [heq, ← hrcv, ← hbuf, ← hoff]
  exact tcpSegmentArrivesText_copy hst' hdata

/-- The window stays in `[0, 16]`, and the copy in the buffer, exactly when
the payload fits in the window. -/
theorem tcpSegmentArrivesPcb_rcvWnd_le_iff (hst : r.pcb.state = .established)
    (hwnd : r.pcb.rcv.wnd.toNat ≤ tcpBufSize)
    (hacc : tcpSegmentAcceptable r.pcb a.seg) (hrst : tcpFlgIsset a.flags tcpFlgRst = false)
    (hsyn : tcpFlgIsset a.flags tcpFlgSyn = false) (hack : tcpFlgIsset a.flags tcpFlgAck = true)
    (hnxt : ¬r.pcb.snd.nxt < a.seg.ack) (hdata : a.data ≠ [])
    (hlen : a.data.length < 2 ^ 16 - tcpBufSize) :
    ((tcpSegmentArrivesPcb a r).pcb.rcv.wnd.toNat ≤ tcpBufSize ∧
      tcpTextOffset r.pcb + a.data.length ≤ tcpBufSize) ↔
      a.data.length ≤ r.pcb.rcv.wnd.toNat := by
  obtain ⟨-, hoff⟩ := tcpTextOffset_add_le_iff hwnd a.data.length
  rw [(tcpSegmentArrivesPcb_established_copy hst hacc hrst hsyn hack hnxt hdata).1, hoff]
  unfold tcpBufSize at *
  by_cases hfit : a.data.length ≤ r.pcb.rcv.wnd.toNat
  · rw [rcvWnd_sub_toNat hfit]; omega
  · rw [rcvWnd_sub_toNat_of_lt (by omega) (by omega)]; omega

end Established

/-- `tcp_receive` copies out at most the buffered bytes and gives their room
back to the window, which therefore stays in `[0, 16]`. -/
theorem tcpReceiveCopy_wnd {w : TcpWorld} {i : Fin 16} (size : Nat)
    (hwnd : (w.pcbs i).rcv.wnd.toNat ≤ tcpBufSize) :
    ((tcpReceiveCopy i size (tcpRemain (w.pcbs i)) w).1.pcbs i).rcv.wnd.toNat =
      (w.pcbs i).rcv.wnd.toNat + min size (tcpBufSize - (w.pcbs i).rcv.wnd.toNat) ∧
    ((tcpReceiveCopy i size (tcpRemain (w.pcbs i)) w).1.pcbs i).rcv.wnd.toNat ≤ tcpBufSize := by
  have hremain : tcpRemain (w.pcbs i) = tcpBufSize - (w.pcbs i).rcv.wnd.toNat := by
    unfold tcpRemain tcpBufSize at *; omega
  simp only [tcpReceiveCopy, TcpWorld.setPcb_pcbs_self, hremain, BitVec.toNat_add,
    BitVec.toNat_ofNat]
  unfold tcpBufSize at *
  omega

/-! ## Runs of the stack -/

open TcpSystem in
/-- After the reference handshake the window is the full sixteen bytes. A
segment from the peer that starts at `rcv.nxt` with seventeen bytes of payload
is accepted; its copy at offset zero runs one byte past the buffer, and
`rcv.wnd` wraps to 65535. In general, for an acceptable segment with a
payload that reaches an `ESTABLISHED` PCB, the window stays in `[0, 16]` and
the copy in the buffer exactly when the payload fits in the window. -/
theorem tcpSegmentArrives_oversized_text_wraps_rcvWnd :
    let s : TcpSystem := run ethernetRoutes init refHandshake
    let s' := step ethernetRoutes s
      ⟨.input (fromPeer 1001 1 tcpFlgAck 16 (List.replicate 17 0x61)), 3000, 0, []⟩
    ((s.world.pcbs 0).state = .established ∧ (s.world.pcbs 0).rcv.wnd = 16 ∧
      tcpTextOffset (s.world.pcbs 0) + 17 > tcpBufSize ∧
      (s'.world.pcbs 0).rcv.nxt = 1018 ∧ (s'.world.pcbs 0).rcv.wnd = 65535) ∧
    ∀ (a : TcpArrival) (r : PcbRun), r.pcb.state = .established →
      r.pcb.rcv.wnd.toNat ≤ tcpBufSize → tcpSegmentAcceptable r.pcb a.seg →
      tcpFlgIsset a.flags tcpFlgRst = false → tcpFlgIsset a.flags tcpFlgSyn = false →
      tcpFlgIsset a.flags tcpFlgAck = true → ¬r.pcb.snd.nxt < a.seg.ack → a.data ≠ [] →
      a.data.length < 2 ^ 16 - tcpBufSize →
      (((tcpSegmentArrivesPcb a r).pcb.rcv.wnd.toNat ≤ tcpBufSize ∧
        tcpTextOffset r.pcb + a.data.length ≤ tcpBufSize) ↔
        a.data.length ≤ r.pcb.rcv.wnd.toNat) :=
  ⟨by decide, fun _ _ => tcpSegmentArrivesPcb_rcvWnd_le_iff⟩

open TcpSystem in
/-- After the reference handshake (`irs = 1000`), one segment carries the
byte at sequence number 1001 together with a FIN. The byte is buffered and the
connection enters `CLOSE_WAIT`, but `rcv.nxt` ends at 1002, not at
`irs + 1 + 1 + 1 = 1003`. -/
theorem tcpSegmentArrives_fin_with_data_rewinds_rcvNxt :
    let s : TcpSystem := run ethernetRoutes init refHandshake
    let s' := step ethernetRoutes s
      ⟨.input (fromPeer 1001 1 (tcpFlgFin ||| tcpFlgAck) 16 [0x61]), 3000, 0, []⟩
    (s.world.pcbs 0).irs = 1000 ∧ (s'.world.pcbs 0).buf 0 = 0x61 ∧
    tcpRemain (s'.world.pcbs 0) = 1 ∧ (s'.world.pcbs 0).state = .closeWait ∧
    (s'.world.pcbs 0).rcv.nxt = 1002 := by
  decide

end MicroPs.Tcp
