/-
# Waking parked tasks

A user task parks on its PCB's context and relies on the worker to broadcast
there whenever its wait condition may have changed. Two things go wrong.
`tcp_pcb_release` does not keep a PCB that tasks still use: the test meant to
keep it compares `pthread_cond_destroy`'s answer with `-1`, which it never
is. With glibc the destroy waits for the tasks it was signalled to wake and
then the PCB is zeroed, wait count included, under a task still inside
`sched_sleep`; with a task never signalled it does not return at all
(`TcpSystem.Hangs`). And transitions that enable a waiter do not all
broadcast: an ACK that opens the send window does not, and neither does a
release.
-/

import MicroPs.Tcp.Window

namespace MicroPs.Tcp

open MicroPs.Platform

/-- Release always zeroes the slot, wait count included, and never
broadcasts, however many tasks wait on the context. -/
theorem tcpPcbRelease_zeroes_ctx (r : PcbRun) :
    (tcpPcbRelease r).pcb.state = .free ∧ (tcpPcbRelease r).pcb.ctx = ⟨false, 0⟩ ∧
      (tcpPcbRelease r).woken = r.woken := by
  simp [TcpPcb.zero]

/-- A task blocked on a slot that a step did not broadcast on stays blocked. -/
theorem TcpSystem.absorb_blocked {s : TcpSystem} {w : TcpWorld} {task : Nat} {wait : TcpWait}
    (ht : s.tasks task = .parked wait false) (hw : wait.slot ∉ w.woken) :
    (s.absorb w).tasks task = .parked wait false := by
  show w.woken.foldl TcpSystem.wakeSlot s.tasks task = _
  generalize w.woken = woken at hw
  induction woken using List.reverseRecOn with
  | nil => exact ht
  | append_singleton woken i ih =>
    simp only [List.mem_append, List.mem_singleton, not_or] at hw
    rw [List.foldl_append, List.foldl_cons, List.foldl_nil, TcpSystem.wakeSlot, ih hw.1]
    simp [hw.2]

section Established

variable {a : TcpArrival} {r : PcbRun}

/-- An ACK that advances `snd.una` in `ESTABLISHED` goes on to the text step
without a broadcast. -/
theorem tcpSegmentArrivesAckUpdate_advance (hst : r.pcb.state = .established)
    (hadv : r.pcb.snd.una < a.seg.ack ∧ a.seg.ack ≤ r.pcb.snd.nxt) :
    ∃ r' : PcbRun, r'.pcb.state = .established ∧ r'.pcb.snd.una = a.seg.ack ∧
      r'.woken = r.woken ∧ tcpSegmentArrivesAckUpdate a r = tcpSegmentArrivesText a r' := by
  have hne : (tcpSegmentArrivesAckNew a r).pcb.state ≠ .finWait1 := by simp [hst]
  simp only [tcpSegmentArrivesAckUpdate, hadv, and_self, if_true]
  exact ⟨_, by simp [hst], by simp, by simp, tcpSegmentArrivesAckDone_of_ne a _ hne⟩

/-- A bare ACK that advances `snd.una` of an `ESTABLISHED` PCB, and with it
the usable send window, wakes nobody. -/
theorem tcpSegmentArrivesPcb_bare_ack_no_wakeup (hst : r.pcb.state = .established)
    (hacc : tcpSegmentAcceptable r.pcb a.seg) (hrst : tcpFlgIsset a.flags tcpFlgRst = false)
    (hsyn : tcpFlgIsset a.flags tcpFlgSyn = false) (hack : tcpFlgIsset a.flags tcpFlgAck = true)
    (hfin : tcpFlgIsset a.flags tcpFlgFin = false) (hdata : a.data = [])
    (hadv : r.pcb.snd.una < a.seg.ack ∧ a.seg.ack ≤ r.pcb.snd.nxt) :
    (tcpSegmentArrivesPcb a r).pcb.snd.una = a.seg.ack ∧
      (tcpSegmentArrivesPcb a r).woken = r.woken := by
  obtain ⟨r', -, huna, hwoken, heq⟩ := tcpSegmentArrivesAckUpdate_advance hst hadv
  rw [tcpSegmentArrivesPcb_established_ack hst hacc hrst hsyn hack, heq]
  simp [tcpSegmentArrivesText, tcpSegmentArrivesFin, hdata, hfin, huna, hwoken]

end Established

/-! ## Runs of the stack -/

open TcpSystem in
/-- Task 0 opens actively and waits in `SYN_SENT`, so the wait count of slot 0
is one. An RST|ACK that acknowledges the SYN wakes it and releases the PCB. The
one task on the context was signalled, so glibc's `pthread_cond_destroy`
returns and the step ends: the slot is `FREE` with wait count zero while task
0 is still between its `wc++` and its `wc--`. Whenever it returns, a release
zeroes the slot, wait count included, and broadcasts on nothing. -/
theorem tcpPcbRelease_frees_slot_under_woken_opener :
    let s : TcpSystem :=
      run ethernetRoutes init [⟨.call 0 (.openActive refLocal refForeign), 0, 0, []⟩]
    let s' := step ethernetRoutes s
      ⟨.input (fromPeer 1000 1 (tcpFlgRst ||| tcpFlgAck) 0 []), 1000, 0, []⟩
    s.tasks 0 = .parked (.open 0 .synSent) false ∧ (s.world.pcbs 0).ctx.wc = 1 ∧
    ¬ s.Hangs s' ∧ (s'.world.pcbs 0).state = .free ∧ (s'.world.pcbs 0).ctx.wc = 0 ∧
    s'.tasks 0 = .parked (.open 0 .synSent) true ∧
    ∀ r : PcbRun, (tcpPcbRelease r).pcb.state = .free ∧ (tcpPcbRelease r).pcb.ctx = ⟨false, 0⟩ ∧
      (tcpPcbRelease r).woken = r.woken :=
  ⟨by decide, by decide, not_hangs_of_releasedUnwoken_nil (by decide), by decide, by decide,
    by decide, tcpPcbRelease_zeroes_ctx⟩

open TcpSystem in
/-- After the reference handshake task 0 sends twenty bytes into the peer's
sixteen-byte window: it sends sixteen and waits with no usable window. The
peer's ACK of all sixteen reopens the window to sixteen bytes, but the step
broadcasts on no context and task 0 stays blocked. So it goes for every
bare ACK that advances `snd.una` in `ESTABLISHED`, and a task blocked on a
slot that a step does not broadcast on stays blocked. -/
theorem tcpSegmentArrives_ack_opens_window_without_wakeup :
    let s : TcpSystem := run ethernetRoutes init
      (refHandshake ++ [⟨.call 0 (.send 0 (List.replicate 20 0x62)), 3000, 0, []⟩])
    let s' := step ethernetRoutes s ⟨.input (fromPeer 1001 17 tcpFlgAck 16 []), 4000, 0, []⟩
    (s.tasks 0 = .parked (.send 0 (List.replicate 20 0x62) 16) false ∧
      tcpSendCap (s.world.pcbs 0) = 0 ∧ tcpSendCap (s'.world.pcbs 0) = 16 ∧
      s'.world.woken = [] ∧ s'.tasks 0 = .parked (.send 0 (List.replicate 20 0x62) 16) false) ∧
    (∀ (a : TcpArrival) (r : PcbRun), r.pcb.state = .established →
      tcpSegmentAcceptable r.pcb a.seg → tcpFlgIsset a.flags tcpFlgRst = false →
      tcpFlgIsset a.flags tcpFlgSyn = false → tcpFlgIsset a.flags tcpFlgAck = true →
      tcpFlgIsset a.flags tcpFlgFin = false → a.data = [] →
      r.pcb.snd.una < a.seg.ack ∧ a.seg.ack ≤ r.pcb.snd.nxt →
      (tcpSegmentArrivesPcb a r).pcb.snd.una = a.seg.ack ∧
        (tcpSegmentArrivesPcb a r).woken = r.woken) ∧
    ∀ (s : TcpSystem) (w : TcpWorld) (task : Nat) (wait : TcpWait),
      s.tasks task = .parked wait false → wait.slot ∉ w.woken →
      (s.absorb w).tasks task = .parked wait false :=
  ⟨by decide, fun _ _ => tcpSegmentArrivesPcb_bare_ack_no_wakeup,
    fun _ _ _ _ => TcpSystem.absorb_blocked⟩

end MicroPs.Tcp
