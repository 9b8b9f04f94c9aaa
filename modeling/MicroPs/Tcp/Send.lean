/-
# The send window

`tcp_send` hands down `min(mss, len - sent, cap)` bytes at a time, where
`cap = snd.wnd - (snd.nxt - snd.una)` is computed in 32-bit unsigned
arithmetic. While the bytes in flight fit in the peer's window, `cap` is what
is left of it and every byte a stretch of the loop sends lies inside the
window. An acknowledgment that shrinks the window below the bytes already in
flight makes the subtraction wrap, and the resumed loop sends beyond it.
-/

import MicroPs.Tcp.System

namespace MicroPs.Tcp

/-- Every byte of `seg` lies in the send window: its sequence number `s`
has `(s - una) mod 2^32 < wnd`. -/
def TcpSegment.InWindow (una : BitVec 32) (wnd : BitVec 16) (seg : TcpSegment) : Prop :=
  ∀ j < seg.data.length, (seg.seq + BitVec.ofNat 32 j - una).toNat < wnd.toNat

instance (una : BitVec 32) (wnd : BitVec 16) (seg : TcpSegment) :
    Decidable (seg.InWindow una wnd) :=
  inferInstanceAs (Decidable (∀ j < seg.data.length, _))

/-- The bytes in flight, `snd.nxt - snd.una`. -/
def tcpInFlight (pcb : TcpPcb) : Nat := (pcb.snd.nxt - pcb.snd.una).toNat

/-! ## The usable window -/

theorem tcpSendCap_eq (pcb : TcpPcb) (h : tcpInFlight pcb ≤ pcb.snd.wnd.toNat) :
    tcpSendCap pcb = pcb.snd.wnd.toNat - tcpInFlight pcb := by
  unfold tcpSendCap tcpInFlight at *
  have hw := pcb.snd.wnd.isLt
  rw [BitVec.toNat_sub, BitVec.toNat_setWidth]
  omega

/-- Past a shrunk window the usable window wraps around `2^32`. -/
theorem tcpSendCap_of_lt (pcb : TcpPcb) (h : pcb.snd.wnd.toNat < tcpInFlight pcb) :
    tcpSendCap pcb = 2 ^ 32 + pcb.snd.wnd.toNat - tcpInFlight pcb := by
  unfold tcpSendCap tcpInFlight at *
  have hw := pcb.snd.wnd.isLt
  have hf := (pcb.snd.nxt - pcb.snd.una).isLt
  rw [BitVec.toNat_sub, BitVec.toNat_setWidth]
  omega

theorem seq_add_sub_toNat (x u : BitVec 32) (j : Nat) (h : (x - u).toNat + j < 2 ^ 32) :
    (x + BitVec.ofNat 32 j - u).toNat = (x - u).toNat + j := by
  have hx := x.isLt
  have hu := u.isLt
  simp only [BitVec.toNat_sub, BitVec.toNat_add, BitVec.toNat_ofNat] at *
  omega

/-- A segment at `snd.nxt` whose bytes fit in what is left of the window lies
inside it. -/
theorem TcpSegment.inWindow_of_fits (pcb : TcpPcb) (seg : TcpSegment)
    (hseq : seg.seq = pcb.snd.nxt)
    (hfit : tcpInFlight pcb + seg.data.length ≤ pcb.snd.wnd.toNat) :
    seg.InWindow pcb.snd.una pcb.snd.wnd := by
  intro j hj
  have hw := pcb.snd.wnd.isLt
  unfold tcpInFlight at hfit
  rw [hseq, seq_add_sub_toNat _ _ _ (by omega)]
  omega

/-! ## One stretch of the send loop -/

/-- A stretch of the send loop between two waits that starts with no more
bytes in flight than the window puts every segment it sends inside that
window, each of at most `mss` bytes. -/
theorem tcpSendLoop_in_window (i : Fin 16) (data : List Byte) (mss : Nat) (ipOk : List Bool)
    (now : Int) (fuel sent k : Nat) (w : TcpWorld)
    (hwin : tcpInFlight (w.pcbs i) ≤ (w.pcbs i).snd.wnd.toNat) :
    ∃ segs, (tcpSendLoop i data mss ipOk now fuel sent k w).1.out = w.out ++ segs ∧
      ∀ g ∈ segs, g.InWindow (w.pcbs i).snd.una (w.pcbs i).snd.wnd ∧ g.data.length ≤ mss := by
  induction fuel generalizing sent k w with
  | zero => exact ⟨[], by simp [tcpSendLoop], by simp⟩
  | succ fuel ih =>
    have hsyn : tcpFlgIsset (tcpFlgAck ||| tcpFlgPsh) tcpFlgSyn = false := by decide
    simp only [tcpSendLoop]
    by_cases hsent : sent < data.length
    swap; · exact ⟨[], by simp [hsent], by simp⟩
    by_cases hcap : tcpSendCap (w.pcbs i) = 0
    · simp only [if_pos hsent, if_pos hcap]
      split
      · exact ⟨[], by simp, by simp⟩
      · exact ⟨[], by simpa using TcpWorld.sleepEnter_out ‹_›, by simp⟩
    simp only [if_pos hsent, if_neg hcap]
    set slen := min (min mss (data.length - sent)) (tcpSendCap (w.pcbs i))
    set seg : TcpSegment := ⟨(w.pcbs i).snd.nxt, (w.pcbs i).rcv.nxt, tcpFlgAck ||| tcpFlgPsh,
      (w.pcbs i).rcv.wnd, (data.drop sent).take slen, (w.pcbs i).local, (w.pcbs i).foreign⟩
    have hfit : tcpInFlight (w.pcbs i) + slen ≤ (w.pcbs i).snd.wnd.toNat := by
      have := tcpSendCap_eq _ hwin; omega
    have hseg : seg.InWindow (w.pcbs i).snd.una (w.pcbs i).snd.wnd ∧ seg.data.length ≤ mss :=
      ⟨TcpSegment.inWindow_of_fits _ seg rfl (by simp [seg]; omega), by simp [seg]; omega⟩
    split
    · exact ⟨[seg], by simp [tcpOutput_out, hsyn, seg], fun g hg => List.mem_singleton.1 hg ▸ hseg⟩
    · generalize hW : TcpWorld.setPcb _ i _ = W
      have hsnd : (W.pcbs i).snd =
          { (w.pcbs i).snd with nxt := (w.pcbs i).snd.nxt + BitVec.ofNat 32 slen } := by
        subst hW; simp
      have hout : W.out = w.out ++ [seg] := by subst hW; simp [tcpOutput_out, hsyn, seg]
      have hflight : tcpInFlight (W.pcbs i) = tcpInFlight (w.pcbs i) + slen := by
        have := (w.pcbs i).snd.wnd.isLt
        unfold tcpInFlight at hfit ⊢
        rw [hsnd]; dsimp only
        rw [seq_add_sub_toNat _ _ _ (by omega)]
      obtain ⟨segs, hloop, hin⟩ := ih (sent + slen) (k + 1) W (by rw [hflight, hsnd]; exact hfit)
      refine ⟨seg :: segs, by simp [hloop, hout], ?_⟩
      rw [hsnd] at hin
      exact List.forall_mem_cons.2 ⟨hseg, hin⟩

/-! ## A window shrunk under a parked sender -/

open TcpSystem in
/-- After the reference handshake task 0 sends twenty bytes into the peer's
sixteen-byte window and waits. An ACK of one byte that shrinks the window to
two leaves fifteen bytes in flight: the usable window wraps around `2^32`,
and once resumed the task sends four more bytes outside the window. A shrunk
window is what it takes: the usable window wraps exactly when the window is
below the bytes in flight, and a stretch of the send loop that starts with
the bytes in flight inside the window keeps every segment it sends inside. -/
theorem tcpSend_overruns_shrunk_window :
    let s : TcpSystem := run ethernetRoutes init (refHandshake ++
      [⟨.call 0 (.send 0 (List.replicate 20 0x62)), 3000, 0, []⟩])
    let s₁ := step ethernetRoutes s ⟨.input (fromPeer 1001 2 tcpFlgAck 2 [0x61]), 4000, 0, []⟩
    let s₂ := step ethernetRoutes s₁ ⟨.resume 0, 5000, 0, []⟩
    let seg : TcpSegment :=
      ⟨17, 1002, tcpFlgAck ||| tcpFlgPsh, 15, List.replicate 4 0x62, refLocal, refForeign⟩
    (s.tasks 0 = .parked (.send 0 (List.replicate 20 0x62) 16) false ∧
      tcpInFlight (s.world.pcbs 0) ≤ (s.world.pcbs 0).snd.wnd.toNat ∧
      (s₁.world.pcbs 0).snd.una = 2 ∧ (s₁.world.pcbs 0).snd.nxt = 17 ∧
      (s₁.world.pcbs 0).snd.wnd = 2 ∧ tcpSendCap (s₁.world.pcbs 0) = 4294967283 ∧
      s₂.wire.drop s₁.wire.length = [seg] ∧ ¬ seg.InWindow 2 2) ∧
    (∀ pcb : TcpPcb, pcb.snd.wnd.toNat < tcpInFlight pcb →
      tcpSendCap pcb = 2 ^ 32 + pcb.snd.wnd.toNat - tcpInFlight pcb) ∧
    ∀ (i : Fin 16) (data : List Byte) (mss : Nat) (ipOk : List Bool) (now : Int)
      (fuel sent k : Nat) (w : TcpWorld), tcpInFlight (w.pcbs i) ≤ (w.pcbs i).snd.wnd.toNat →
      ∃ segs, (tcpSendLoop i data mss ipOk now fuel sent k w).1.out = w.out ++ segs ∧
        ∀ g ∈ segs, g.InWindow (w.pcbs i).snd.una (w.pcbs i).snd.wnd ∧ g.data.length ≤ mss :=
  ⟨by decide, tcpSendCap_of_lt, tcpSendLoop_in_window⟩

end MicroPs.Tcp
