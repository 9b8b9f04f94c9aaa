/-
# ARP messages

`arp_input` reads a received frame as `struct arp_ether_ip`, drops what is
not an Ethernet/IPv4 message, runs its two critical sections on the cache,
and answers a request for the interface's own address with `arp_reply`.

Processing the same message twice in a row changes nothing the first
processing did not, up to timestamps: the first leaves a `RESOLVED` entry for
the sender with the sender's hardware address whenever the second can find
one, and the second then only refreshes its timestamp. The reply depends on
the message and the interface, not on the cache.
-/

import MicroPs.Net.Bytes
import MicroPs.Arp.Cache

namespace MicroPs.Arp

open MicroPs.Net

/-- `ARP_HDR_ETHER`. -/
def arpHrdEther : BitVec 16 := 0x0001

/-- `ARP_PRO_IP`, `ETHER_TYPE_IP` of ether.h, which is not among the
sources. -/
def arpProIp : BitVec 16 := 0x0800

/-- `ARP_OP_REQUEST`. -/
def arpOpRequest : BitVec 16 := 1

/-- `ARP_OP_REPLY`. -/
def arpOpReply : BitVec 16 := 2

/-- `ETHER_ADDR_LEN` of ether.h, which is not among the sources. -/
def etherAddrLen : BitVec 8 := 6

/-- `IP_ADDR_LEN` of ip.h, which is not among the sources. -/
def ipAddrLen : BitVec 8 := 4

/-- `sizeof(struct arp_ether_ip)`: an 8-byte header, two hardware and two
protocol addresses, with no padding. -/
def arpEtherIpSize : Nat := 28

/-- `struct arp_ether_ip`, its 16-bit fields as they lie in memory, in
network order. -/
structure ArpEtherIp where
  hrd : BitVec 16
  pro : BitVec 16
  hln : BitVec 8
  pln : BitVec 8
  op : BitVec 16
  sha : EtherAddr
  spa : BitVec 32
  tha : EtherAddr
  tpa : BitVec 32
  deriving DecidableEq

/-- The message the first 28 bytes of a frame make. -/
def ArpEtherIp.ofBytes (data : List (BitVec 8)) : ArpEtherIp :=
  ⟨read16 data 0, read16 data 2, data.getD 4 0, data.getD 5 0, read16 data 6,
    fun k => data.getD (8 + k) 0, read32 data 14, fun k => data.getD (18 + k) 0, read32 data 24⟩

/-- `arp_reply`: the reply from the device's hardware address `addr` and the
interface's address `unicast` to the requester `tha`/`tpa`. -/
def arpReply (addr : EtherAddr) (unicast : BitVec 32) (tha : EtherAddr) (tpa : BitVec 32) :
    ArpEtherIp :=
  ⟨ntoh16 arpHrdEther, ntoh16 arpProIp, etherAddrLen, ipAddrLen, ntoh16 arpOpReply, addr, unicast,
    tha, tpa⟩

/-- `arp_input` on the bytes `data` received on a device with hardware
address `addr`, whose IP interface has the address `unicast` if it has one:
the table after its two critical sections, run with nothing between them,
and the reply it sends, with the destination `net_device_output` is given. -/
def arpInputFrame (addr : EtherAddr) (unicast : Option (BitVec 32)) (caches : ArpCaches)
    (data : List (BitVec 8)) (now : Int) : ArpCaches × Option (ArpEtherIp × EtherAddr) :=
  if data.length < arpEtherIpSize then (caches, none)
  else
    let msg := ArpEtherIp.ofBytes data
    if ntoh16 msg.hrd ≠ arpHrdEther ∨ msg.hln ≠ etherAddrLen then (caches, none)
    else if ntoh16 msg.pro ≠ arpProIp ∨ msg.pln ≠ ipAddrLen then (caches, none)
    else
      let reply := match unicast with
        | some u =>
          if u = msg.tpa ∧ ntoh16 msg.op = arpOpRequest then
            some (arpReply addr u msg.sha msg.spa, msg.sha)
          else none
        | none => none
      (arpInput caches msg.spa msg.sha msg.tpa unicast now, reply)

/-! ## Where `arp_cache_select` looks -/

/-- Rewriting the entry `arp_cache_select` finds, live and for the same
address, leaves it the one found, whatever entries after it hold. -/
theorem arpCacheSelect_update_found {caches : ArpCaches} {pa : BitVec 32} {i : Fin 32}
    (h : arpCacheSelect caches pa = some i) {e : ArpCache} (he : e.state ≠ .free ∧ e.pa = pa) :
    arpCacheSelect (Function.update caches i e) pa = some i := by
  unfold arpCacheSelect at h ⊢
  generalize List.finRange 32 = l at h ⊢
  induction l with
  | nil => cases h
  | cons j rest ih =>
    rw [List.find?_cons] at h ⊢
    by_cases hj : j = i
    · subst hj; simp [he]
    · have hp : ¬((caches j).state ≠ .free ∧ (caches j).pa = pa) := by
        intro hp; simp only [hp, ne_eq, not_false_eq_true, and_self, decide_True] at h
        exact hj (Option.some.inj h)
      simp only [hp, decide_False, Function.update_noteq hj] at h ⊢
      exact ih h

/-- The only live entry for an address is the one `arp_cache_select` finds. -/
theorem arpCacheSelect_of_only {caches : ArpCaches} {pa : BitVec 32} {i : Fin 32}
    (hi : (caches i).state ≠ .free ∧ (caches i).pa = pa)
    (hother : ∀ j, j ≠ i → (caches j).state ≠ .free → (caches j).pa ≠ pa) :
    arpCacheSelect caches pa = some i := by
  cases h : arpCacheSelect caches pa with
  | none => exact absurd hi.2 (arpCacheSelect_eq_none.1 h i hi.1)
  | some j =>
    obtain ⟨hlive, hpa⟩ := arpCacheSelect_live h
    by_cases hji : j = i
    · rw [hji]
    · exact absurd hpa (hother j hji hlive)

/-! ## Processing a message twice -/

/-- The table with every timestamp cleared. -/
def arpCachesUntimed (caches : ArpCaches) : ArpCaches := fun i => { caches i with timestamp := 0 }

section Twice

variable {caches : ArpCaches} {spa : BitVec 32} {sha : EtherAddr} {tpa : BitVec 32}
  {unicast : Option (BitVec 32)}

/-- After `arp_input` of a message from `spa`/`sha`, either nothing changed,
no entry is live for `spa` and the message is not for the interface, or the
entry `arp_cache_select` finds for `spa` is `RESOLVED` with `sha`. -/
theorem arpInput_sender (caches : ArpCaches) (spa : BitVec 32) (sha : EtherAddr) (tpa : BitVec 32)
    (unicast : Option (BitVec 32)) (now : Int) :
    let caches' := arpInput caches spa sha tpa unicast now
    (caches' = caches ∧ arpCacheSelect caches spa = none ∧ unicast ≠ some tpa) ∨
    ∃ i, arpCacheSelect caches' spa = some i ∧
      (caches' i).state = .resolved ∧ (caches' i).pa = spa ∧ (caches' i).ha = sha := by
  intro caches'
  cases hsel : arpCacheSelect caches spa with
  | some i =>
    have heq : caches' = Function.update caches i
        { caches i with state := .resolved, pa := spa, ha := sha, timestamp := now } := by
      simp [caches', arpInput, arpInputUpdate, arpCacheUpdate, hsel]
    refine .inr ⟨i, ?_, ?_⟩ <;> rw [heq]
    · exact arpCacheSelect_update_found hsel ⟨by simp, rfl⟩
    · simp
  | none =>
    have hupd : arpInputUpdate caches spa sha now = (caches, false) := by
      simp [arpInputUpdate, arpCacheUpdate, hsel]
    by_cases hfor : unicast = some tpa
    · obtain ⟨⟨i, c⟩, halloc⟩ := Option.ne_none_iff_exists'.1 (arpCacheAlloc_ne_none caches)
      have heq : caches' = Function.update c i
          { c i with state := .resolved, pa := spa, ha := sha, timestamp := now } := by
        simp [caches', arpInput, hupd, hfor, arpInputInsert, arpCacheInsert, halloc]
      refine .inr ⟨i, ?_, ?_⟩ <;> rw [heq]
      · refine arpCacheSelect_of_only ⟨by simp, by simp⟩ fun j hj hlive => ?_
        rw [Function.update_noteq hj, (arpCacheAlloc_eq_some halloc).2 j hj] at hlive ⊢
        exact arpCacheSelect_eq_none.1 hsel j hlive
      · simp
    · exact .inl ⟨by simp [caches', arpInput, hupd, hfor], rfl, hfor⟩

/-- A message from a sender with no live entry, not for the interface,
changes nothing. -/
theorem arpInput_of_absent (hsel : arpCacheSelect caches spa = none) (hfor : unicast ≠ some tpa)
    (now : Int) : arpInput caches spa sha tpa unicast now = caches := by
  have hupd : arpInputUpdate caches spa sha now = (caches, false) := by
    simp [arpInputUpdate, arpCacheUpdate, hsel]
  simp only [arpInput, hupd, hfor, false_and, if_false]

/-- A message from a sender whose entry is already `RESOLVED` with its
hardware address only refreshes that entry's timestamp. -/
theorem arpInput_of_resolved {i : Fin 32} (hsel : arpCacheSelect caches spa = some i)
    (hst : (caches i).state = .resolved) (hpa : (caches i).pa = spa) (hha : (caches i).ha = sha)
    (now : Int) :
    arpInput caches spa sha tpa unicast now =
      Function.update caches i { caches i with timestamp := now } := by
  have he : ({ caches i with state := .resolved, pa := spa, ha := sha, timestamp := now } :
      ArpCache) = { caches i with timestamp := now } := by rw [← hst, ← hpa, ← hha]
  simp [arpInput, arpInputUpdate, arpCacheUpdate, hsel, he]

/-- The second `arp_input` of a message finds the table the first left, up
to the timestamp of the sender's entry. -/
theorem arpInput_twice (now₁ now₂ : Int) :
    arpCachesUntimed
        (arpInput (arpInput caches spa sha tpa unicast now₁) spa sha tpa unicast now₂) =
      arpCachesUntimed (arpInput caches spa sha tpa unicast now₁) := by
  rcases arpInput_sender caches spa sha tpa unicast now₁ with
    ⟨heq, hsel, hfor⟩ | ⟨i, hsel, hst, hpa, hha⟩
  · rw [heq, arpInput_of_absent hsel hfor]
  · rw [arpInput_of_resolved hsel hst hpa hha]
    funext j
    by_cases hj : j = i
    · subst hj; simp [arpCachesUntimed]
    · simp [arpCachesUntimed, Function.update_noteq hj]

end Twice

/-- For every table and every frame, a second `arp_input` of the frame right
after the first leaves the table the first left, up to timestamps, and sends
the same reply, if any. Frames that are not Ethernet/IPv4 messages change
nothing either time. -/
theorem arpInputFrame_twice (addr : EtherAddr) (unicast : Option (BitVec 32)) (caches : ArpCaches)
    (data : List (BitVec 8)) (now₁ now₂ : Int) :
    let first := arpInputFrame addr unicast caches data now₁
    let second := arpInputFrame addr unicast first.1 data now₂
    arpCachesUntimed second.1 = arpCachesUntimed first.1 ∧ second.2 = first.2 := by
  unfold arpInputFrame
  dsimp only
  split_ifs <;> simp only [arpInput_twice, and_self]

end MicroPs.Arp
