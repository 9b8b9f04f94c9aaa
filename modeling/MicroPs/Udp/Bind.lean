/-
# UDP bindings

Two bindings overlap when they name the same nonzero port and addresses that
are equal or one of them the wildcard. A table is well formed when its free
slots are unbound and no two open slots overlap; then at most one slot can
take a datagram for a concrete address and a nonzero port.

`udp_open`, `udp_bind`, `udp_close` and delivery keep tables well formed, and
so does `udp_sendto`, except when it picks a source port for a PCB bound to
the wildcard address: the port is checked free for the outgoing interface's
address only, and stored beside the wildcard.
-/

import MicroPs.Udp.Pcb
import Mathlib.Data.Fintype.Card

namespace MicroPs.Udp

open MicroPs.Platform MicroPs.Tcp MicroPs.Net

/-- The bindings `a` and `b` overlap. -/
def udpOverlap (a b : IpEndpoint) : Prop :=
  a.port ≠ 0 ∧ a.port = b.port ∧ (a.addr = b.addr ∨ a.addr = ipAddrAny ∨ b.addr = ipAddrAny)

instance (a b : IpEndpoint) : Decidable (udpOverlap a b) :=
  inferInstanceAs (Decidable (_ ∧ _))

theorem udpOverlap_comm {a b : IpEndpoint} : udpOverlap a b → udpOverlap b a := by
  rintro ⟨hp, he, ha⟩
  exact ⟨he ▸ hp, he.symm, by tauto⟩

/-- A table that free slots leave unbound and whose open slots bind
disjointly. -/
structure UdpTableWf (pcbs : UdpPcbs) : Prop where
  free_unbound : ∀ i, (pcbs i).state = .free → (pcbs i).local = ⟨ipAddrAny, 0⟩
  disjoint : ∀ i j, i ≠ j → (pcbs i).state = .open → (pcbs j).state = .open →
    ¬ udpOverlap (pcbs i).local (pcbs j).local

theorem udpTableWf_zero : UdpTableWf fun _ => UdpPcb.zero :=
  ⟨fun _ _ => rfl, fun _ _ _ h => by simp [UdpPcb.zero] at h⟩

/-! ## The table functions -/

theorem udpPcbSelect_eq_none {pcbs : UdpPcbs} {addr : BitVec 32} {port : BitVec 16} :
    udpPcbSelect pcbs addr port = none ↔ ∀ i, ¬ (pcbs i).Matches addr port := by
  simp [udpPcbSelect, List.find?_eq_none]

theorem udpPcbSelect_matches {pcbs : UdpPcbs} {addr : BitVec 32} {port : BitVec 16} {i : Fin 16}
    (h : udpPcbSelect pcbs addr port = some i) : (pcbs i).Matches addr port := by
  simpa using List.find?_some h

theorem udpPcbGet_open {pcbs : UdpPcbs} {id : Int} {i : Fin 16} (h : udpPcbGet pcbs id = some i) :
    (pcbs i).state = .open := by
  simp only [udpPcbGet] at h
  split_ifs at h with h₁ h₂
  obtain rfl := Option.some.inj h
  exact h₂

theorem udpPcbAlloc_eq_some {pcbs pcbs' : UdpPcbs} {i : Fin 16}
    (h : udpPcbAlloc pcbs = some (i, pcbs')) : (pcbs i).state = .free ∧
      pcbs' = Function.update pcbs i { pcbs i with state := .open, ctx := schedCtxInit } := by
  unfold udpPcbAlloc at h
  split at h
  · cases h
  · rename_i j hfind
    obtain ⟨rfl, rfl⟩ := Prod.mk.inj (Option.some.inj h)
    exact ⟨by simpa using List.find?_some hfind, rfl⟩

/-- The port loop answers a port that no open slot matches for `addr`, the
conversion of one of the candidates. -/
theorem udpSendtoPortLoop_eq_some {pcbs : UdpPcbs} {addr : BitVec 32} {port : BitVec 16} :
    ∀ {ps : List Nat}, udpSendtoPortLoop pcbs addr ps = some port →
      udpPcbSelect pcbs addr port = none ∧ ∃ p ∈ ps, port = hton16 (BitVec.ofNat 16 p)
  | [], h => by cases h
  | p :: ps, h => by
    unfold udpSendtoPortLoop at h
    split_ifs at h with hsel
    · obtain rfl := Option.some.inj h
      exact ⟨hsel, p, List.mem_cons_self _ _, rfl⟩
    · obtain ⟨hnone, q, hq, rfl⟩ := udpSendtoPortLoop_eq_some h
      exact ⟨hnone, q, List.mem_cons_of_mem _ hq, rfl⟩

/-- What `udp_sendto` does to the table: nothing, or it stores a port found
free for the address it sends from in an open, unbound PCB. -/
theorem udpSendto_fst (route : BitVec 32 → Option (BitVec 32)) (pcbs : UdpPcbs) (id : Int)
    (foreign : IpEndpoint) :
    (udpSendto route pcbs id foreign).1 = pcbs ∨
    ∃ i addr port, udpPcbGet pcbs id = some i ∧ (pcbs i).local.port = 0 ∧
      (if (pcbs i).local.addr = ipAddrAny then route foreign.addr
        else some (pcbs i).local.addr) = some addr ∧
      udpSendtoPortLoop pcbs addr udpSourcePorts = some port ∧
      (udpSendto route pcbs id foreign).1 =
        Function.update pcbs i { pcbs i with «local» := { (pcbs i).local with port } } := by
  unfold udpSendto
  split
  · exact .inl rfl
  rename_i i hget
  dsimp only
  split
  · exact .inl rfl
  rename_i addr hroute
  split
  · rename_i hport
    generalize hL : udpSendtoPortLoop pcbs addr udpSourcePorts = L
    cases L with
    | none => exact .inl (by split <;> simp)
    | some port => exact .inr ⟨i, addr, port, hget, hport, hroute, hL, by split <;> rfl⟩
  · exact .inl rfl

/-- At most one open slot takes a datagram for a concrete address and a
nonzero port. -/
theorem udpPcbSelect_unique {pcbs : UdpPcbs} (h : UdpTableWf pcbs) {addr : BitVec 32}
    {port : BitVec 16} (haddr : addr ≠ ipAddrAny) (hport : port ≠ 0) {i j : Fin 16}
    (hi : (pcbs i).Matches addr port) (hj : (pcbs j).Matches addr port) : i = j := by
  by_contra hne
  obtain ⟨hsi, hai, hpi⟩ := hi
  obtain ⟨hsj, haj, hpj⟩ := hj
  refine h.disjoint i j hne hsi hsj ⟨hpi ▸ hport, hpi.trans hpj.symm, ?_⟩
  rcases hai with hai | hai | hai <;> rcases haj with haj | haj | haj <;> simp_all

/-! ## Keeping a table well formed -/

/-- Replacing one slot keeps a table well formed when the new slot is
unbound if free and overlaps no other open slot if open. -/
theorem UdpTableWf.update {pcbs : UdpPcbs} (h : UdpTableWf pcbs) (i : Fin 16) (pcb : UdpPcb)
    (hfree : pcb.state = .free → pcb.local = ⟨ipAddrAny, 0⟩)
    (hopen : pcb.state = .open → ∀ j, j ≠ i → (pcbs j).state = .open →
      ¬ udpOverlap pcb.local (pcbs j).local) :
    UdpTableWf (Function.update pcbs i pcb) := by
  constructor
  · intro k hk
    by_cases hki : k = i
    · subst hki; simp_all
    · simp_all [h.free_unbound k]
  · intro k l hkl hk hl
    by_cases hki : k = i
    · subst hki
      simp only [Function.update_same, Function.update_noteq (Ne.symm hkl)] at hk hl ⊢
      exact hopen hk l (Ne.symm hkl) hl
    by_cases hli : l = i
    · subst hli
      simp only [Function.update_same, Function.update_noteq hkl] at hk hl ⊢
      exact fun ho => hopen hl k hkl hk (udpOverlap_comm ho)
    simp only [Function.update_noteq hki, Function.update_noteq hli] at hk hl ⊢
    exact h.disjoint k l hkl hk hl

/-- An unbound slot overlaps nothing. -/
theorem not_udpOverlap_unbound (addr : BitVec 32) (b : IpEndpoint) :
    ¬ udpOverlap ⟨addr, 0⟩ b := fun h => h.1 rfl

/-- A binding that no open slot matches overlaps no open slot. -/
theorem not_udpOverlap_of_select {pcbs : UdpPcbs} {lcl : IpEndpoint}
    (hsel : udpPcbSelect pcbs lcl.addr lcl.port = none) {j : Fin 16}
    (hj : (pcbs j).state = .open) : ¬ udpOverlap lcl (pcbs j).local := by
  rintro ⟨-, hp, ha⟩
  refine udpPcbSelect_eq_none.1 hsel j ⟨hj, ?_, hp.symm⟩
  rcases ha with ha | ha | ha <;> simp [ha]

theorem udpOpen_wf {pcbs : UdpPcbs} (h : UdpTableWf pcbs) : UdpTableWf (udpOpen pcbs).1 := by
  unfold udpOpen
  split
  · exact h
  · rename_i i pcbs' halloc
    obtain ⟨hfree, rfl⟩ := udpPcbAlloc_eq_some halloc
    refine h.update i _ (by simp) fun _ j _ _ => ?_
    simpa [h.free_unbound i hfree] using not_udpOverlap_unbound ipAddrAny (pcbs j).local

theorem udpPcbRelease_eq (pcb : UdpPcb) :
    udpPcbRelease pcb = { pcb with state := .free, «local» := ⟨ipAddrAny, 0⟩, queue := [] } := by
  simp [udpPcbRelease, schedCtxDestroy_ne_neg_one]

theorem udpClose_wf {pcbs : UdpPcbs} (h : UdpTableWf pcbs) (id : Int) :
    UdpTableWf (udpClose pcbs id).1 := by
  unfold udpClose
  split
  · exact h
  · exact h.update _ _ (by simp [udpPcbRelease_eq]) (by simp [udpPcbRelease_eq])

theorem udpBind_wf {pcbs : UdpPcbs} (h : UdpTableWf pcbs) (id : Int) (lcl : IpEndpoint) :
    UdpTableWf (udpBind pcbs id lcl).1 := by
  unfold udpBind
  split
  · exact h
  · rename_i i hget
    split
    · exact h
    · rename_i hsel
      exact h.update i _ (fun hs => absurd hs (by simp [udpPcbGet_open hget]))
        fun _ j _ hj => not_udpOverlap_of_select hsel hj

theorem udpInput_wf {pcbs : UdpPcbs} (h : UdpTableWf pcbs) (src dst : IpEndpoint)
    (data : List Byte) : UdpTableWf (udpInput pcbs src dst data) := by
  unfold udpInput
  split
  · exact h
  · rename_i i _
    exact h.update i _ (h.free_unbound i) fun hs j hji hj => h.disjoint i j hji.symm hs hj

/-- `udp_sendto` keeps a table well formed unless it picks a source port for
a PCB bound to the wildcard address. -/
theorem udpSendto_wf {pcbs : UdpPcbs} (h : UdpTableWf pcbs)
    (route : BitVec 32 → Option (BitVec 32)) (id : Int) (foreign : IpEndpoint)
    (hsafe : ∀ i, udpPcbGet pcbs id = some i → (pcbs i).local ≠ ⟨ipAddrAny, 0⟩) :
    UdpTableWf (udpSendto route pcbs id foreign).1 := by
  rcases udpSendto_fst route pcbs id foreign with
    heq | ⟨i, addr, port, hget, hport, hroute, hloop, heq⟩
  · rw [heq]; exact h
  rw [heq]
  have hbound : (pcbs i).local.addr ≠ ipAddrAny := fun ha => hsafe i hget (by
    rw [← hport, ← ha])
  simp only [hbound, if_false, Option.some.injEq] at hroute
  subst hroute
  refine h.update i _ (fun hs => absurd hs (by simp [udpPcbGet_open hget])) fun _ j _ hj => ?_
  exact @not_udpOverlap_of_select pcbs ⟨(pcbs i).local.addr, port⟩
    (udpSendtoPortLoop_eq_some hloop).1 j hj

/-- A `udp_sendto` that picks a source port for an open PCB bound to the
wildcard address. -/
def UdpEvent.AutoBindsWildcard (pcbs : UdpPcbs) : UdpEvent → Prop
  | .sendto id _ => ∃ i, udpPcbGet pcbs id = some i ∧ (pcbs i).local = ⟨ipAddrAny, 0⟩
  | _ => False

instance (pcbs : UdpPcbs) : (e : UdpEvent) → Decidable (e.AutoBindsWildcard pcbs)
  | .sendto _ _ => inferInstanceAs (Decidable (∃ _, _))
  | .open | .bind _ _ | .close _ | .input _ _ _ => isFalse id

theorem udpStep_wf {pcbs : UdpPcbs} (h : UdpTableWf pcbs) (route : BitVec 32 → Option (BitVec 32))
    {e : UdpEvent} (he : ¬ e.AutoBindsWildcard pcbs) : UdpTableWf (udpStep route pcbs e) := by
  cases e with
  | «open» => exact udpOpen_wf h
  | bind id lcl => exact udpBind_wf h id lcl
  | sendto id foreign => exact udpSendto_wf h route id foreign fun i hi hl => he ⟨i, hi, hl⟩
  | close id => exact udpClose_wf h id
  | input src dst data => exact udpInput_wf h src dst data

/-- No event of a run is a wildcard auto-bind at the table it meets. -/
def UdpRunAvoidsWildcard (route : BitVec 32 → Option (BitVec 32)) :
    UdpPcbs → List UdpEvent → Prop
  | _, [] => True
  | pcbs, e :: es =>
    ¬ e.AutoBindsWildcard pcbs ∧ UdpRunAvoidsWildcard route (udpStep route pcbs e) es

instance decUdpRunAvoidsWildcard (route : BitVec 32 → Option (BitVec 32)) :
    (pcbs : UdpPcbs) → (events : List UdpEvent) →
      Decidable (UdpRunAvoidsWildcard route pcbs events)
  | _, [] => isTrue trivial
  | pcbs, e :: es =>
    have := decUdpRunAvoidsWildcard route (udpStep route pcbs e) es
    inferInstanceAs (Decidable (_ ∧ _))

/-- Every run that avoids wildcard auto-binds keeps a table well formed. -/
theorem udpRun_wf {route : BitVec 32 → Option (BitVec 32)} :
    ∀ {pcbs : UdpPcbs} {events : List UdpEvent}, UdpTableWf pcbs →
      UdpRunAvoidsWildcard route pcbs events → UdpTableWf (udpRun route pcbs events)
  | _, [], h, _ => h
  | pcbs, e :: es, h, ⟨he, hrest⟩ =>
    @udpRun_wf route (udpStep route pcbs e) es (udpStep_wf h route he) hrest

/-! ## The port search -/

theorem hton16_ofNat_inj {p q : Nat} (hp : p < 65536) (hq : q < 65536)
    (h : hton16 (BitVec.ofNat 16 p) = hton16 (BitVec.ofNat 16 q)) : p = q := by
  have := congrArg (BitVec.toNat ∘ hton16) h
  simp only [Function.comp, hton16_hton16, BitVec.toNat_ofNat] at this
  omega

theorem hton16_ofNat_ne_zero {p : Nat} (h0 : 0 < p) (hp : p < 65536) :
    hton16 (BitVec.ofNat 16 p) ≠ 0 := by
  intro h
  have := congrArg BitVec.toNat h
  simp only [hton16_toNat, BitVec.toNat_ofNat] at this
  simp at this
  omega

theorem udpSendtoPortLoop_eq_none {pcbs : UdpPcbs} {addr : BitVec 32} :
    ∀ {ps : List Nat}, udpSendtoPortLoop pcbs addr ps = none →
      ∀ p ∈ ps, udpPcbSelect pcbs addr (hton16 (BitVec.ofNat 16 p)) ≠ none
  | [], _ => by simp
  | p :: ps, h => by
    unfold udpSendtoPortLoop at h
    split_ifs at h with hsel
    exact List.forall_mem_cons.2 ⟨hsel, udpSendtoPortLoop_eq_none h⟩

/-- Sixteen slots cannot hold all 16384 candidate ports, so the port loop
always finds one. -/
theorem udpSendtoPortLoop_ne_none (pcbs : UdpPcbs) (addr : BitVec 32) :
    udpSendtoPortLoop pcbs addr udpSourcePorts ≠ none := by
  intro h
  have hall := udpSendtoPortLoop_eq_none h
  let slot (p : Nat) : Fin 16 := (udpPcbSelect pcbs addr (hton16 (BitVec.ofNat 16 p))).getD 0
  have hslot : ∀ p ∈ udpSourcePorts,
      (pcbs (slot p)).local.port = hton16 (BitVec.ofNat 16 p) := by
    intro p hp
    obtain ⟨i, hi⟩ := Option.ne_none_iff_exists'.mp (hall p hp)
    simp only [slot, hi, Option.getD_some]
    exact (udpPcbSelect_matches hi).2.2
  have hnodup : (udpSourcePorts.map slot).Nodup := by
    refine (List.nodup_range' _ _).map_on fun p hp q hq hpq => ?_
    have hp' := List.mem_range'_1.mp hp
    have hq' := List.mem_range'_1.mp hq
    have hq'' := hslot q hq
    rw [← hpq] at hq''
    exact hton16_ofNat_inj (by omega) (by omega) ((hslot p hp).symm.trans hq'')
  have hcard := hnodup.length_le_card
  rw [List.length_map, udpSourcePorts, List.length_range', Fintype.card_fin] at hcard
  omega

/-- `udp_sendto` never returns holding the mutex: its exit that skips the
unlock needs the port loop to come back empty. -/
theorem udpSendto_unlocks (route : BitVec 32 → Option (BitVec 32)) (pcbs : UdpPcbs) (id : Int)
    (foreign : IpEndpoint) (v : Int) : (udpSendto route pcbs id foreign).2 ≠ .exit v true := by
  unfold udpSendto
  split
  · simp
  dsimp only
  split
  · simp
  rename_i addr _
  split
  · obtain ⟨port, hL⟩ := Option.ne_none_iff_exists'.mp (udpSendtoPortLoop_ne_none pcbs addr)
    obtain ⟨-, p, hp, rfl⟩ := udpSendtoPortLoop_eq_some hL
    have hp' := List.mem_range'_1.mp hp
    have hne : hton16 (BitVec.ofNat 16 p) ≠ 0#16 := hton16_ofNat_ne_zero (by omega) (by omega)
    simp [hL, hne]
  · simp

/-! ## A port taken for another address -/

/-- Two PCBs are open, and PCB 0 is bound to port 49152 of 127.0.0.1. PCB 1,
unbound, sends through the interface 192.0.2.1: the port loop finds port 49152
free for 192.0.2.1 and stores it beside the wildcard address. The two bindings
now overlap, and both PCBs match datagrams for 127.0.0.1, port 49152. -/
theorem udpSendto_binds_port_of_other_address :
    let pcbs : UdpPcbs := udpRun (fun _ => some 0xc0000201) (fun _ => UdpPcb.zero)
      [.open, .open, .bind 0 ⟨0x7f000001, hton16 49152⟩]
    let r := udpSendto (fun _ => some 0xc0000201) pcbs 1 ⟨0xc0000202, hton16 7⟩
    UdpTableWf pcbs ∧
    r.2 = .output ⟨0xc0000201, hton16 49152⟩ ⟨0xc0000202, hton16 7⟩ ∧
    (r.1 0).local = ⟨0x7f000001, hton16 49152⟩ ∧ (r.1 1).local = ⟨ipAddrAny, hton16 49152⟩ ∧
    (r.1 0).Matches 0x7f000001 (hton16 49152) ∧ (r.1 1).Matches 0x7f000001 (hton16 49152) ∧
    ¬ UdpTableWf r.1 ∧
    ∀ (route : BitVec 32 → Option (BitVec 32)) (events : List UdpEvent),
      UdpRunAvoidsWildcard route (fun _ => UdpPcb.zero) events →
      ∀ (addr : BitVec 32) (port : BitVec 16) (i j : Fin 16), addr ≠ ipAddrAny → port ≠ 0 →
        (udpRun route (fun _ => UdpPcb.zero) events i).Matches addr port →
        (udpRun route (fun _ => UdpPcb.zero) events j).Matches addr port → i = j := by
  intro pcbs r
  have hov : (r.1 0).state = .open ∧ (r.1 1).state = .open ∧
      udpOverlap (r.1 0).local (r.1 1).local := by decide
  exact ⟨udpRun_wf udpTableWf_zero (by decide), by decide, by decide, by decide, by decide,
    by decide, fun h => h.disjoint 0 1 (by decide) hov.1 hov.2.1 hov.2.2,
    fun _ _ hrun _ _ _ _ haddr hport hi hj =>
      udpPcbSelect_unique (udpRun_wf udpTableWf_zero hrun) haddr hport hi hj⟩

end MicroPs.Udp
