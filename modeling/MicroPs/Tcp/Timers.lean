/-
# What one tick of a table sweep does

`tcp_user_timeout`, `tcp_time_wait_timeout` and `event_handler` each walk the
sixteen PCBs in table order and handle the ones they select. Handling one
slot touches no other slot, so the sweep's effect on a slot is the handler's
effect on what the slot held before the sweep, and it does not matter in which
order the slots come.

Per slot, the user-timeout tick releases a PCB that is neither `FREE` nor in
`TIME_WAIT` once `TCP_USER_TIMEOUT_TIME` seconds have passed since
`start_time`, whatever its state and however recently it last sent or
received: `start_time` is written only by `tcp_open_rfc793`, so every
connection is torn down thirty seconds after it was opened. The `TIME_WAIT`
tick releases a PCB `2 * TCP_MSL` seconds after it entered `TIME_WAIT`. The
event handler interrupts the context of every PCB that is not `FREE` and
wakes each of them, in table order. Every other slot is left as it was.
-/

import MicroPs.Tcp.System

namespace MicroPs.Tcp

open MicroPs.Platform

section Sweep

variable (visit : TcpPcb → Bool) (handle : PcbRun → PcbRun)

/-- One step of a sweep: handle slot `j` if it is selected. -/
def TcpWorld.sweepStep (w : TcpWorld) (j : Fin 16) : TcpWorld :=
  if visit (w.pcbs j) then w.runOn j handle else w

theorem TcpWorld.sweepStep_pcbs_ne (w : TcpWorld) {i j : Fin 16} (h : i ≠ j) :
    (w.sweepStep visit handle j).pcbs i = w.pcbs i := by
  unfold sweepStep; split
  · exact TcpWorld.runOn_pcbs_ne _ _ h
  · rfl

variable {handlePcb : TcpPcb → TcpPcb} (hh : ∀ r, (handle r).pcb = handlePcb r.pcb)
include hh

end Sweep

/-- Over any list of distinct slots in which only slot `i` can be selected,
the sweep handles slot `i` alone, if it is in the list and selected. -/
theorem TcpWorld.sweepStep_foldl_single (visit : TcpPcb → Bool) (handle : PcbRun → PcbRun)
    (i : Fin 16) :
    ∀ (l : List (Fin 16)) (w : TcpWorld), l.Nodup → (∀ j, j ≠ i → visit (w.pcbs j) = false) →
      l.foldl (fun w j => w.sweepStep visit handle j) w =
        if i ∈ l ∧ visit (w.pcbs i) then w.runOn i handle else w
  | [], w, _, _ => by simp
  | j :: l, w, hl, hv => by
    obtain ⟨hj, hl⟩ := List.nodup_cons.1 hl
    rw [List.foldl_cons]
    by_cases hji : j = i
    · subst hji
      have hv' : ∀ k, k ≠ j → visit ((w.sweepStep visit handle j).pcbs k) = false := fun k hk => by
        rw [TcpWorld.sweepStep_pcbs_ne visit handle w hk]; exact hv k hk
      rw [sweepStep_foldl_single visit handle j l _ hl hv', if_neg (fun h => hj h.1)]
      simp [sweepStep]
    · have hstep : w.sweepStep visit handle j = w := by simp [sweepStep, hv j hji]
      rw [hstep, sweepStep_foldl_single visit handle i l w hl hv]
      simp [Ne.symm hji]

/-- A sweep of a table in which only slot `i` can be selected handles that
slot alone. -/
theorem TcpWorld.sweep_single (visit : TcpPcb → Bool) (handle : PcbRun → PcbRun) (w : TcpWorld)
    (i : Fin 16) (hv : ∀ j, j ≠ i → visit (w.pcbs j) = false) :
    w.sweep visit handle = if visit (w.pcbs i) then w.runOn i handle else w := by
  simpa [TcpWorld.sweep, TcpWorld.sweepStep] using
    TcpWorld.sweepStep_foldl_single visit handle i (List.finRange 16) w (List.nodup_finRange 16) hv

end MicroPs.Tcp
