/-
# A request and its reply

`arp_resolve` answers `INCOMPLETE` for an address it has no resolved entry
for and sends `arp_request` to the link's broadcast address. The host that
owns the address learns the requester from the request and answers with
`arp_reply`; the reply resolves the requester's entry. Messages travel as the
28 bytes of `struct arp_ether_ip`, which `arp_input` reads back field for
field whatever padding the link adds.

For any two hosts and any contents of their caches, one such exchange with
nothing in between leaves each host resolving the other's address to the
other's hardware address. The request's `tha` is never written by
`arp_request`; the exchange works whatever bytes it holds.
-/

import Mathlib.Tactic.FinCases
import MicroPs.Arp.Input

namespace MicroPs.Arp

open MicroPs.Net

/-! ## Messages as bytes -/

/-- `struct arp_ether_ip` as it lies in memory: the header with its 16-bit
fields low byte first, then the four addresses. -/
def ArpEtherIp.toBytes (m : ArpEtherIp) : List (BitVec 8) :=
  mem16 m.hrd ++ mem16 m.pro ++ [m.hln, m.pln] ++ mem16 m.op ++ List.ofFn m.sha ++ mem32 m.spa ++
    List.ofFn m.tha ++ mem32 m.tpa

@[simp] theorem ArpEtherIp.toBytes_length (m : ArpEtherIp) : m.toBytes.length = arpEtherIpSize :=
  by simp [toBytes, mem16, mem32, arpEtherIpSize]

/-- `arp_input` reads back every field of a message from its bytes, whatever
follows them. -/
theorem ArpEtherIp.ofBytes_toBytes (m : ArpEtherIp) (rest : List (BitVec 8)) :
    ArpEtherIp.ofBytes (m.toBytes ++ rest) = m := by
  obtain ⟨hrd, pro, hln, pln, op, sha, spa, tha, tpa⟩ := m
  simp only [ofBytes, toBytes, mem16, mem32, read16, read32, List.ofFn_succ, List.ofFn_zero,
    List.cons_append, List.nil_append, List.append_assoc, List.getD_cons_succ,
    List.getD_cons_zero, load16_bytes, load32_bytes, mk.injEq, true_and, and_true]
  constructor <;> funext k <;> fin_cases k <;> rfl

/-- `arp_request`: a request from the device's hardware address `addr` and the
interface's address `unicast` for `tpa`. `tha` is never written; it holds
whatever the stack left in `request`. -/
def arpRequest (addr : EtherAddr) (unicast : BitVec 32) (tha : EtherAddr) (tpa : BitVec 32) :
    ArpEtherIp :=
  ⟨ntoh16 arpHrdEther, ntoh16 arpProIp, etherAddrLen, ipAddrLen, ntoh16 arpOpRequest, addr, unicast,
    tha, tpa⟩

/-- `arp_resolve` with the request it sends: each of its two `INCOMPLETE`
exits first calls `arp_request` for the address. -/
def arpResolveRequest (addr : EtherAddr) (unicast : BitVec 32) (tha : EtherAddr)
    (caches : ArpCaches) (pa : BitVec 32) (now : Int) :
    ArpCaches × ArpResolveResult × Option ArpEtherIp :=
  let r := arpResolve true caches pa now
  (r.1, r.2, match r.2 with
    | .incomplete => some (arpRequest addr unicast tha pa)
    | _ => none)

/-- A message `arp_input` takes for an Ethernet/IPv4 one: its two header
checks pass. -/
def ArpEtherIp.EtherIp (m : ArpEtherIp) : Prop :=
  ntoh16 m.hrd = arpHrdEther ∧ m.hln = etherAddrLen ∧ ntoh16 m.pro = arpProIp ∧ m.pln = ipAddrLen

theorem arpRequest_etherIp (addr : EtherAddr) (unicast : BitVec 32) (tha : EtherAddr)
    (tpa : BitVec 32) : (arpRequest addr unicast tha tpa).EtherIp := by
  simp [ArpEtherIp.EtherIp, arpRequest, ntoh16]

theorem arpReply_etherIp (addr : EtherAddr) (unicast : BitVec 32) (tha : EtherAddr)
    (tpa : BitVec 32) : (arpReply addr unicast tha tpa).EtherIp := by
  simp [ArpEtherIp.EtherIp, arpReply, ntoh16]

/-- `arp_input` of the bytes of an Ethernet/IPv4 message, padded or not, on a
device whose interface has the address `u`: the two critical sections on the
message's sender and target, and a reply when the message is a request for
`u`. -/
theorem arpInputFrame_toBytes {m : ArpEtherIp} (hm : m.EtherIp) (addr : EtherAddr) (u : BitVec 32)
    (caches : ArpCaches) (pad : List (BitVec 8)) (now : Int) :
    arpInputFrame addr (some u) caches (m.toBytes ++ pad) now =
      (arpInput caches m.spa m.sha m.tpa (some u) now,
        if u = m.tpa ∧ ntoh16 m.op = arpOpRequest then some (arpReply addr u m.sha m.spa, m.sha)
        else none) := by
  obtain ⟨hhrd, hhln, hpro, hpln⟩ := hm
  have hlen : ¬(m.toBytes ++ pad).length < arpEtherIpSize := by simp
  simp only [arpInputFrame, hlen, ArpEtherIp.ofBytes_toBytes, hhrd, hhln, hpro, hpln, ne_eq,
    not_true_eq_false, or_self, if_false]

/-! ## The exchange -/

/-- `arp_resolve` on an Ethernet/IPv4 interface leaves a live entry for the
address: the one it found, or the `INCOMPLETE` one it made. -/
theorem arpResolve_select_ne_none (caches : ArpCaches) (pa : BitVec 32) (now : Int) :
    arpCacheSelect (arpResolve true caches pa now).1 pa ≠ none := by
  unfold arpResolve
  simp only [Bool.true_eq_false, if_false]
  cases hsel : arpCacheSelect caches pa with
  | some i => simp [apply_ite Prod.fst, hsel]
  | none =>
    obtain ⟨⟨i, c⟩, halloc⟩ := Option.ne_none_iff_exists'.1 (arpCacheAlloc_ne_none caches)
    simp only [halloc, ne_eq, arpCacheSelect_eq_none, not_forall, not_not]
    exact ⟨i, by simp, by simp⟩

/-- A `RESOLVED` entry for the address, found first, answers `FOUND` with
its hardware address. -/
theorem arpResolve_of_resolved {caches : ArpCaches} {pa : BitVec 32} {i : Fin 32}
    (hsel : arpCacheSelect caches pa = some i) (hst : (caches i).state = .resolved) (now : Int) :
    (arpResolve true caches pa now).2 = .found (caches i).ha := by
  simp [arpResolve, hsel, hst]

/-- After `arp_input` of a message from `spa`/`sha`, the sender resolves to
`sha` when it had a live entry or the message was for the interface. -/
theorem arpInput_resolves {caches : ArpCaches} {spa tpa : BitVec 32} {sha : EtherAddr}
    {unicast : Option (BitVec 32)} (h : arpCacheSelect caches spa ≠ none ∨ unicast = some tpa)
    (now now' : Int) :
    (arpResolve true (arpInput caches spa sha tpa unicast now) spa now').2 = .found sha := by
  rcases arpInput_sender caches spa sha tpa unicast now with ⟨-, hsel, hfor⟩ | ⟨i, hsel, hst, -, hha⟩
  · exact absurd h (by simp [hsel, hfor])
  · rw [arpResolve_of_resolved hsel hst, hha]

/-- Two hosts A (hardware address `addrA`, IP address `uA`) and B (`addrB`,
`uB`) on one link, with any caches. When A's `arp_resolve` of `uB` answers
`INCOMPLETE`, it sends `arp_request`; B's `arp_input` of the request, with
any padding, answers with `arp_reply` to `addrA` and resolves `uA` to
`addrA`; A's `arp_input` of the reply sends nothing and resolves `uB` to
`addrB`, whatever `tha` the request carried. -/
theorem arpExchange_resolves {addrA addrB tha : EtherAddr} {uA uB : BitVec 32} {cA cB : ArpCaches}
    {t₀ : Int} (hinc : (arpResolveRequest addrA uA tha cA uB t₀).2.1 = .incomplete)
    (pad₁ pad₂ : List (BitVec 8)) (t₁ t₂ t₃ t₄ : Int) :
    let a₁ := arpResolveRequest addrA uA tha cA uB t₀
    let b := arpInputFrame addrB (some uB) cB ((arpRequest addrA uA tha uB).toBytes ++ pad₁) t₁
    let a₂ := arpInputFrame addrA (some uA) a₁.1 ((arpReply addrB uB addrA uA).toBytes ++ pad₂) t₂
    a₁.2.2 = some (arpRequest addrA uA tha uB) ∧ b.2 = some (arpReply addrB uB addrA uA, addrA) ∧
      (arpResolve true b.1 uA t₃).2 = .found addrA ∧
      a₂.2 = none ∧ (arpResolve true a₂.1 uB t₄).2 = .found addrB := by
  have hreq : (arpResolveRequest addrA uA tha cA uB t₀).2.2 = some (arpRequest addrA uA tha uB) := by
    simp only [arpResolveRequest] at hinc ⊢; rw [hinc]
  refine ⟨hreq, ?_, ?_, ?_, ?_⟩ <;>
    simp only [arpInputFrame_toBytes (arpRequest_etherIp ..), arpInputFrame_toBytes
      (arpReply_etherIp ..), arpResolveRequest]
  · simp [arpRequest, ntoh16]
  · exact arpInput_resolves (.inr rfl) _ _
  · simp [arpReply, ntoh16, arpOpReply, arpOpRequest]
  · exact arpInput_resolves (.inl (arpResolve_select_ne_none _ _ _)) _ _

/-- Two hosts with empty tables: `10.0.0.1` at `02:..:01` resolves `10.0.0.2`
at `02:..:02`. -/
theorem arpExchange_resolves_empty :
    let cA : ArpCaches := fun _ => ArpCache.zero
    (arpResolveRequest (fun _ => 1) 0x0a000001 (fun _ => 0) cA 0x0a000002 0).2.1 = .incomplete ∧
    let a₁ := arpResolveRequest (fun _ => 1) 0x0a000001 (fun _ => 0) cA 0x0a000002 0
    let b := arpInputFrame (fun _ => 2) (some 0x0a000002) (fun _ => ArpCache.zero)
      ((arpRequest (fun _ => 1) 0x0a000001 (fun _ => 0) 0x0a000002).toBytes ++ []) 1
    let a₂ := arpInputFrame (fun _ => 1) (some 0x0a000001) a₁.1
      ((arpReply (fun _ => 2) 0x0a000002 (fun _ => 1) 0x0a000001).toBytes ++ []) 2
    a₁.2.2 = some (arpRequest (fun _ => 1) 0x0a000001 (fun _ => 0) 0x0a000002) ∧
      b.2 = some (arpReply (fun _ => 2) 0x0a000002 (fun _ => 1) 0x0a000001, fun _ => 1) ∧
      (arpResolve true b.1 0x0a000001 3).2 = .found (fun _ => 1) ∧
      a₂.2 = none ∧ (arpResolve true a₂.1 0x0a000002 4).2 = .found (fun _ => 2) :=
  have h := (by decide : (arpResolveRequest (fun _ => 1) 0x0a000001 (fun _ => 0)
    (fun _ => ArpCache.zero) 0x0a000002 0).2.1 = .incomplete)
  ⟨h, arpExchange_resolves h [] [] 1 2 3 4⟩

end MicroPs.Arp
