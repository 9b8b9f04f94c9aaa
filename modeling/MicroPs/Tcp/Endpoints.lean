/-
# Connection endpoints

`tcp_open_rfc793` takes the first `FREE` slot and installs the endpoints it is
given. Neither it nor `tcp_pcb_alloc` looks at the endpoints of the PCBs
already in the table, although `tcp_pcb_select` has a branch for exactly
that check, so two opens with the same endpoints make two connections that
`tcp_pcb_select` cannot tell apart.
-/

import MicroPs.Tcp.Window

namespace MicroPs.Tcp

open MicroPs.Platform

/-- `tcp_pcb_alloc` turns a `FREE` slot into a `CLOSED` one with a fresh
context, and touches nothing else. -/
theorem tcpPcbAlloc_eq_some {w w' : TcpWorld} {i : Fin 16} (h : tcpPcbAlloc w = some (i, w')) :
    (w.pcbs i).state = .free ∧
      w' = w.setPcb i { w.pcbs i with state := .closed, ctx := schedCtxInit } := by
  unfold tcpPcbAlloc at h
  split at h
  · cases h
  · rename_i j hj
    cases h
    exact ⟨by simpa using List.find?_some hj, rfl⟩

/-- An active open whose SYN `ip_output` accepts installs exactly the
endpoints it was given in the slot it allocated, enters `SYN_SENT` and parks,
whatever the other slots hold. -/
theorem tcpOpenActive_installs {w w₁ : TcpWorld} {i : Fin 16}
    (halloc : tcpPcbAlloc w = some (i, w₁))
    (lcl frn : IpEndpoint) (iss : BitVec 32) (now : Int) :
    let res := tcpOpenActive lcl frn iss true now w
    (res.1.pcbs i).state = .synSent ∧ (res.1.pcbs i).local = lcl ∧
      (res.1.pcbs i).foreign = frn ∧ res.2 = .park (.open i .synSent) := by
  obtain ⟨-, rfl⟩ := tcpPcbAlloc_eq_some halloc
  simp [tcpOpenActive, halloc, tcpOpenWait, tcpOpenSleep, TcpWorld.sleepEnter, TcpWorld.runOn,
    TcpWorld.setPcb, schedCtxInit]

/-- What `tcp_pcb_select` requires of a slot it returns for a fully specified
pair: the local endpoint matches, and the foreign one matches exactly or the
PCB listens with a wildcard foreign endpoint. -/
def TcpPcbSelectable (pcb : TcpPcb) (lcl frn : IpEndpoint) : Prop :=
  (pcb.local.addr = ipAddrAny ∨ pcb.local.addr = lcl.addr) ∧ pcb.local.port = lcl.port ∧
    (pcb.foreign = frn ∨ pcb.state = .listen ∧ pcb.foreign = ⟨ipAddrAny, 0⟩)

theorem tcpPcbSelectLoop_selectable {pcbs : Fin 16 → TcpPcb} {lcl frn : IpEndpoint}
    (l : List (Fin 16)) {c : Option (Fin 16)}
    (hc : ∀ j, c = some j → TcpPcbSelectable (pcbs j) lcl frn) {i : Fin 16}
    (h : tcpPcbSelectLoop pcbs lcl (some frn) l c = some i) :
    TcpPcbSelectable (pcbs i) lcl frn := by
  induction l generalizing c with
  | nil => exact hc i h
  | cons j rest ih =>
    simp only [tcpPcbSelectLoop] at h
    split_ifs at h with hl hf hw
    · cases h
      exact ⟨hl.1, hl.2, .inl (by cases hpf : (pcbs i).foreign; simp_all)⟩
    · refine ih (fun k hk => ?_) h
      cases hk
      exact ⟨hl.1, hl.2, .inr ⟨hw.1, by cases hpf : (pcbs j).foreign; simp_all [ipAddrAny]⟩⟩
    · exact ih hc h
    · exact ih hc h

/-- Every slot `tcp_pcb_select` returns for a fully specified pair is
selectable for it. -/
theorem tcpPcbSelect_selectable {pcbs : Fin 16 → TcpPcb} {lcl frn : IpEndpoint} {i : Fin 16}
    (h : tcpPcbSelect pcbs lcl (some frn) = some i) : TcpPcbSelectable (pcbs i) lcl frn :=
  tcpPcbSelectLoop_selectable _ (fun _ h => by cases h) h

/-- A slot whose endpoints are exactly a fully specified pair: the local
address matches or is the wildcard, and port and foreign endpoint are equal. -/
def TcpPcbExact (pcb : TcpPcb) (lcl frn : IpEndpoint) : Bool :=
  (pcb.local.addr = ipAddrAny ∨ pcb.local.addr = lcl.addr) ∧ pcb.local.port = lcl.port ∧
    pcb.foreign = frn

/-- A `LISTEN` slot on the local endpoint with a wildcard foreign endpoint. -/
def TcpPcbListenWild (pcb : TcpPcb) (lcl : IpEndpoint) : Bool :=
  (pcb.local.addr = ipAddrAny ∨ pcb.local.addr = lcl.addr) ∧ pcb.local.port = lcl.port ∧
    pcb.state = .listen ∧ pcb.foreign = ⟨ipAddrAny, 0⟩

theorem IpEndpoint.eq_iff {e f : IpEndpoint} : e = f ↔ e.addr = f.addr ∧ e.port = f.port := by
  cases e; cases f; simp

/-- One slot of the selection loop for a fully specified pair. -/
theorem tcpPcbSelectLoop_cons (pcbs : Fin 16 → TcpPcb) (lcl frn : IpEndpoint) (j : Fin 16)
    (rest : List (Fin 16)) (c : Option (Fin 16)) :
    tcpPcbSelectLoop pcbs lcl (some frn) (j :: rest) c =
      if TcpPcbExact (pcbs j) lcl frn then some j
      else tcpPcbSelectLoop pcbs lcl (some frn) rest
        (if TcpPcbListenWild (pcbs j) lcl then some j else c) := by
  rw [tcpPcbSelectLoop]
  unfold TcpPcbExact TcpPcbListenWild
  by_cases hl : ((pcbs j).local.addr = ipAddrAny ∨ (pcbs j).local.addr = lcl.addr) ∧
      (pcbs j).local.port = lcl.port
  · simp only [hl, if_true, true_and, decide_eq_true_eq, IpEndpoint.eq_iff]
    split_ifs <;> rfl
  · simp only [hl, if_false, ← and_assoc, false_and, decide_False, Bool.false_eq_true]

/-- The selection loop for a fully specified pair answers the first exact slot;
without one, the last wildcard `LISTEN` slot, or the candidate it started
with. -/
theorem tcpPcbSelectLoop_eq (pcbs : Fin 16 → TcpPcb) (lcl frn : IpEndpoint) :
    ∀ (l : List (Fin 16)) (c : Option (Fin 16)), tcpPcbSelectLoop pcbs lcl (some frn) l c =
      match l.find? fun i => TcpPcbExact (pcbs i) lcl frn with
      | some i => some i
      | none => (l.reverse.find? fun i => TcpPcbListenWild (pcbs i) lcl).or c
  | [], c => rfl
  | j :: rest, c => by
    rw [tcpPcbSelectLoop_cons, tcpPcbSelectLoop_eq pcbs lcl frn rest]
    cases hx : TcpPcbExact (pcbs j) lcl frn
    · cases hf : rest.find? (fun i => TcpPcbExact (pcbs i) lcl frn) <;>
        cases hw : TcpPcbListenWild (pcbs j) lcl <;> simp [List.find?_cons, hx, hf, hw]
      cases (rest.reverse.find? fun i => TcpPcbListenWild (pcbs i) lcl) <;> rfl
    · simp [List.find?_cons, hx]

/-- What `tcp_pcb_select` answers for a fully specified pair: an exact slot
whenever there is one; otherwise a wildcard `LISTEN` slot, and nothing only
when there is neither. -/
theorem tcpPcbSelect_cases (pcbs : Fin 16 → TcpPcb) (lcl frn : IpEndpoint) :
    (∀ i, tcpPcbSelect pcbs lcl (some frn) = some i →
      TcpPcbExact (pcbs i) lcl frn ∨
        (TcpPcbListenWild (pcbs i) lcl ∧ ∀ j, TcpPcbExact (pcbs j) lcl frn = false)) ∧
    ((∃ j, TcpPcbExact (pcbs j) lcl frn) →
      ∃ i, tcpPcbSelect pcbs lcl (some frn) = some i ∧ TcpPcbExact (pcbs i) lcl frn) ∧
    (tcpPcbSelect pcbs lcl (some frn) = none →
      ∀ j, TcpPcbExact (pcbs j) lcl frn = false ∧ TcpPcbListenWild (pcbs j) lcl = false) := by
  unfold tcpPcbSelect
  rw [tcpPcbSelectLoop_eq]
  cases hf : (List.finRange 16).find? fun i => TcpPcbExact (pcbs i) lcl frn with
  | some i =>
    have hi := List.find?_some hf
    exact ⟨fun _ h => .inl (Option.some.inj h ▸ hi), fun _ => ⟨i, rfl, hi⟩, fun h => by cases h⟩
  | none =>
    have hx : ∀ j, TcpPcbExact (pcbs j) lcl frn = false := fun j => by
      simpa using List.find?_eq_none.1 hf j (List.mem_finRange j)
    simp only [Option.or_none]
    refine ⟨fun i h => .inr ⟨by simpa using List.find?_some h, hx⟩,
      fun ⟨j, hj⟩ => absurd hj (by simp [hx j]), fun h j => ⟨hx j, ?_⟩⟩
    simpa using List.find?_eq_none.1 h j (by simp)

/-! ## Runs of the stack -/

open TcpSystem in
/-- Two tasks open actively between the same endpoints: slots 0 and 1 are
both in `SYN_SENT` with the same local and foreign endpoints. So it goes from
every table: an active open whose SYN `ip_output` accepts installs the
endpoints it was given in the slot it allocates, whatever the other slots
hold. -/
theorem tcpOpenActive_duplicate_endpoints :
    let s : TcpSystem := run ethernetRoutes init
      [⟨.call 0 (.openActive refLocal refForeign), 0, 0, []⟩,
       ⟨.call 1 (.openActive refLocal refForeign), 10, 5, []⟩]
    ((s.world.pcbs 0).state = .synSent ∧ (s.world.pcbs 1).state = .synSent ∧
      (s.world.pcbs 0).local = (s.world.pcbs 1).local ∧
      (s.world.pcbs 0).foreign = (s.world.pcbs 1).foreign) ∧
    ∀ (w w₁ : TcpWorld) (i : Fin 16), tcpPcbAlloc w = some (i, w₁) →
      ∀ (lcl frn : IpEndpoint) (iss : BitVec 32) (now : Int),
        let res := tcpOpenActive lcl frn iss true now w
        (res.1.pcbs i).state = .synSent ∧ (res.1.pcbs i).local = lcl ∧
          (res.1.pcbs i).foreign = frn ∧ res.2 = .park (.open i .synSent) :=
  ⟨by decide, fun _ _ _ => tcpOpenActive_installs⟩

open TcpSystem in
/-- `tcp_pcb_select` answers an exact slot whenever there is one, a wildcard
`LISTEN` slot only when there is none, and nothing only when there is
neither; but it does not skip `FREE` slots. A `FREE` slot keeps the zeroed
endpoints `0.0.0.0:0` on both sides, so it is an exact match for a segment
from `0.0.0.0:0` to port 0. From `init` such an ACK selects slot 0, which is
`FREE`, and the stack answers from it with a bare ACK between `0.0.0.0:0` and
`0.0.0.0:0` instead of the reset it sends when no connection matches. -/
theorem tcpPcbSelect_matches_free_slot :
    (∀ (pcbs : Fin 16 → TcpPcb) (lcl frn : IpEndpoint) (i : Fin 16),
      tcpPcbSelect pcbs lcl (some frn) = some i →
        TcpPcbExact (pcbs i) lcl frn ∨
          (TcpPcbListenWild (pcbs i) lcl ∧ ∀ j, TcpPcbExact (pcbs j) lcl frn = false)) ∧
    (∀ (pcbs : Fin 16 → TcpPcb) (lcl frn : IpEndpoint), (∃ j, TcpPcbExact (pcbs j) lcl frn) →
      ∃ i, tcpPcbSelect pcbs lcl (some frn) = some i ∧ TcpPcbExact (pcbs i) lcl frn) ∧
    (∀ (pcbs : Fin 16 → TcpPcb) (lcl frn : IpEndpoint), tcpPcbSelect pcbs lcl (some frn) = none →
      ∀ j, TcpPcbExact (pcbs j) lcl frn = false ∧ TcpPcbListenWild (pcbs j) lcl = false) ∧
    tcpPcbSelect TcpWorld.init.pcbs ⟨0x0a000001, 0⟩ (some ⟨0, 0⟩) = some 0 ∧
    (TcpWorld.init.pcbs 0).state = .free ∧
    (step ethernetRoutes init
        ⟨.input ⟨0, 0, tcpFlgAck, 0, [], ⟨0, 0⟩, ⟨0x0a000001, 0⟩⟩, 0, 0, []⟩).wire =
      [⟨0, 0, tcpFlgAck, 0, [], ⟨0, 0⟩, ⟨0, 0⟩⟩] :=
  ⟨fun pcbs lcl frn => (tcpPcbSelect_cases pcbs lcl frn).1,
   fun pcbs lcl frn => (tcpPcbSelect_cases pcbs lcl frn).2.1,
   fun pcbs lcl frn => (tcpPcbSelect_cases pcbs lcl frn).2.2, by decide⟩

end MicroPs.Tcp
