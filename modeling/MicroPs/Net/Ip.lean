/-
# IP datagrams

`ip_output_core` writes a 20-byte header in front of the payload, and
`ip_input` checks a received datagram before it hands the payload to the
upper protocol registered for the datagram's protocol number.

A datagram that `ip_output_core` built passes every check, and `ip_input`
hands up its payload, protocol and addresses unchanged. The header length
`ip_input` reads is compared with the bytes received but never with the
header's own minimum size or with the total length, so a crafted header with
a valid checksum can have the payload start inside the header or end before
it starts.
-/

import MicroPs.Net.Bytes
import MicroPs.Tcp.Pcb

namespace MicroPs.Net

open MicroPs.Tcp

/-- Modelled from the spec: `IP_VERSION_IPV4` of ip.h, which is not among the
sources. -/
def ipVersionIpv4 : BitVec 8 := 4

/-- Modelled from the spec: `IP_HDR_SIZE_MIN`, the size of a header without
options, which is also `sizeof(struct ip_hdr)`. -/
def ipHdrSizeMin : Nat := 20

/-- Modelled from the spec: `IP_TOTAL_SIZE_MAX`, `UINT16_MAX`. -/
def ipTotalSizeMax : Nat := 65535

/-- Modelled from the spec: `IP_PAYLOAD_SIZE_MAX`. -/
def ipPayloadSizeMax : Nat := ipTotalSizeMax - ipHdrSizeMin

/-- Modelled from the spec: `IP_PROTOCOL_TCP`. -/
def ipProtocolTcp : BitVec 8 := 6

/-- Modelled from the spec: `IP_PROTOCOL_UDP`. -/
def ipProtocolUdp : BitVec 8 := 17

/-- `struct ip_iface`: the two addresses `ip_input` compares. -/
structure IpIface where
  unicast : BitVec 32
  broadcast : BitVec 32
  deriving DecidableEq, Repr

/-- The header `ip_output_core` writes, `struct ip_hdr` as it lies in
memory, with `sum` in its checksum field. -/
def ipHdrBytes (protocol : BitVec 8) (total id offset sum : BitVec 16) (src dst : BitVec 32) :
    List (BitVec 8) :=
  [(ipVersionIpv4 <<< 4) ||| BitVec.ofNat 8 (ipHdrSizeMin >>> 2), 0] ++ mem16 (hton16 total) ++
    mem16 (hton16 id) ++ mem16 (hton16 offset) ++ [0xff, protocol] ++ mem16 sum ++ mem32 src ++
    mem32 dst

/-- `ip_output_core` up to `ip_output_device`: the `total` bytes of the
datagram it builds around `data`. `total` is 16 bits wide. -/
def ipOutputCore (protocol : BitVec 8) (data : List (BitVec 8)) (src dst : BitVec 32)
    (id offset : BitVec 16) : List (BitVec 8) :=
  let total : BitVec 16 := BitVec.ofNat 16 (ipHdrSizeMin + data.length)
  let sum := cksum16 (ipHdrBytes protocol total id offset 0 src dst) 0
  (ipHdrBytes protocol total id offset sum src dst ++ data).take total.toNat

/-- The interface `ip_input` takes a datagram for: the device's first one for
the broadcast address, else the first whose broadcast or unicast address is
the destination. -/
def ipInputIface (ifaces : List IpIface) (dst : BitVec 32) : Option IpIface :=
  if dst ≠ ipAddrBroadcast then ifaces.find? fun i => i.broadcast = dst ∨ i.unicast = dst
  else ifaces.head?

/-- The call `ip_input` makes of an upper protocol's handler: the protocol,
where the payload starts (`hlen`), its length `total - hlen` as the `size_t`
parameter takes it, the two addresses and the interface. -/
structure IpDispatch where
  protocol : BitVec 8
  offset : Nat
  length : Nat
  src : BitVec 32
  dst : BitVec 32
  iface : IpIface
  deriving DecidableEq, Repr

/-- The bytes the handler is given: `length` of them from `offset`. -/
def IpDispatch.payload (d : IpDispatch) (datagram : List (BitVec 8)) : List (BitVec 8) :=
  (datagram.drop d.offset).take d.length

/-- `ip_input` on the `len` bytes `data` a device received. `ifaces` is the
list its destination loop walks: the device's interface, `dev->ifaces`, and
the interfaces the `ip_iface.next` links reach from it. `protocols` are the
registered protocol numbers; registration keeps them distinct, so the handler
called is the one registered for the header's number. -/
def ipInput (protocols : List (BitVec 8)) (ifaces : List IpIface) (data : List (BitVec 8)) :
    Option IpDispatch :=
  let len := data.length
  if len < ipHdrSizeMin then none
  else
    let vhl := data.getD 0 0
    if (vhl &&& 0xf0) >>> 4 ≠ ipVersionIpv4 then none
    else
      let hlen := (vhl &&& 0x0f).toNat <<< 2
      if hlen > len then none
      else
        let total := (ntoh16 (read16 data 2)).toNat
        if total > len then none
        else if cksum16 (data.take hlen) 0 ≠ 0 then none
        else
          let offset := ntoh16 (read16 data 6)
          if offset &&& 0x2000 ≠ 0 ∨ offset &&& 0x1fff ≠ 0 then none
          else
            let dst := read32 data 16
            match ipInputIface ifaces dst with
            | none => none
            | some iface =>
              let protocol := data.getD 9 0
              if protocol ∈ protocols then
                some ⟨protocol, hlen, sizeSub total hlen, read32 data 12, dst, iface⟩
              else none

/-! ## What `ip_input` reads from a datagram of `ip_output_core` -/

section Reads

variable (protocol : BitVec 8) (total id offset sum : BitVec 16) (src dst : BitVec 32)
  (rest : List (BitVec 8))

@[simp] theorem ipHdrBytes_length : (ipHdrBytes protocol total id offset sum src dst).length = 20 :=
  rfl

/-- The fields `ip_input` reads from a datagram that starts with a header of
`ip_output_core`. -/
theorem ipHdrBytes_reads :
    let data := ipHdrBytes protocol total id offset sum src dst ++ rest
    data.getD 0 0 = 0x45 ∧ read16 data 2 = hton16 total ∧ read16 data 6 = hton16 offset ∧
      data.getD 9 0 = protocol ∧ read32 data 12 = src ∧ read32 data 16 = dst := by
  simp only [ipHdrBytes, mem16, mem32, read16, read32, List.cons_append, List.nil_append,
    List.append_assoc, List.getD_cons_succ, List.getD_cons_zero, load16_bytes, load32_bytes,
    and_self, and_true]
  decide

/-- The header checksum sits at offset 10, after five whole words. -/
theorem ipHdrBytes_sum :
    ipHdrBytes protocol total id offset sum src dst =
      ([(ipVersionIpv4 <<< 4) ||| BitVec.ofNat 8 (ipHdrSizeMin >>> 2), 0] ++
        mem16 (hton16 total) ++ mem16 (hton16 id) ++ mem16 (hton16 offset) ++ [0xff, protocol]) ++
        mem16 sum ++ (mem32 src ++ mem32 dst) := by
  simp only [ipHdrBytes, List.append_assoc]

end Reads

/-- The header `ip_output_core` writes passes `ip_input`'s checksum test. -/
theorem cksum16_ipHdrBytes (protocol : BitVec 8) (total id offset : BitVec 16)
    (src dst : BitVec 32) :
    cksum16 (ipHdrBytes protocol total id offset
      (cksum16 (ipHdrBytes protocol total id offset 0 src dst) 0) src dst) 0 = 0 := by
  rw [ipHdrBytes_sum, ipHdrBytes_sum]
  exact cksum16_verify (by simp [mem16]) _ 0

/-- Below `IP_TOTAL_SIZE_MAX` the datagram is the header and the whole
payload. -/
theorem ipOutputCore_eq {protocol : BitVec 8} {data : List (BitVec 8)}
    (hlen : ipHdrSizeMin + data.length ≤ ipTotalSizeMax) (src dst : BitVec 32)
    (id offset : BitVec 16) :
    let total : BitVec 16 := BitVec.ofNat 16 (ipHdrSizeMin + data.length)
    ipOutputCore protocol data src dst id offset =
      ipHdrBytes protocol total id offset
        (cksum16 (ipHdrBytes protocol total id offset 0 src dst) 0) src dst ++ data ∧
    total.toNat = ipHdrSizeMin + data.length := by
  have htotal : (BitVec.ofNat 16 (ipHdrSizeMin + data.length)).toNat =
      ipHdrSizeMin + data.length := by
    simp only [BitVec.toNat_ofNat, ipHdrSizeMin, ipTotalSizeMax] at hlen ⊢
    omega
  refine ⟨?_, htotal⟩
  rw [ipOutputCore, htotal, List.take_of_length_le]
  simp [ipHdrSizeMin]

/-- An interface whose unicast address is a datagram's destination makes
`ip_input` take the datagram. -/
theorem ipInputIface_isSome {ifaces : List IpIface} {iface : IpIface} (hmem : iface ∈ ifaces)
    {dst : BitVec 32} (hdst : iface.unicast = dst) : (ipInputIface ifaces dst).isSome := by
  unfold ipInputIface
  split_ifs
  · exact List.find?_isSome.2 ⟨iface, hmem, by simp [hdst]⟩
  · cases ifaces with
    | nil => simp at hmem
    | cons _ _ => rfl

/-- A datagram `ip_output_core` built for a registered protocol, with room
for its header, is handed to that protocol's handler: the payload after the
20-byte header, whole, with the addresses it was built with. -/
theorem ipInput_ipOutputCore {protocols : List (BitVec 8)} {protocol : BitVec 8}
    (hp : protocol ∈ protocols) {data : List (BitVec 8)}
    (hlen : ipHdrSizeMin + data.length ≤ ipTotalSizeMax) {ifaces : List IpIface}
    {src dst : BitVec 32}
    {iface : IpIface} (hiface : ipInputIface ifaces dst = some iface) (id : BitVec 16) :
    ipInput protocols ifaces (ipOutputCore protocol data src dst id 0) =
      some ⟨protocol, ipHdrSizeMin, data.length, src, dst, iface⟩ := by
  obtain ⟨heq, htotal⟩ := ipOutputCore_eq hlen src dst id 0
  simp only [ipHdrSizeMin, ipTotalSizeMax] at hlen heq htotal ⊢
  obtain ⟨hvhl, htot, hoff, hprot, hsrc, hdst⟩ := ipHdrBytes_reads protocol _ id 0
    (cksum16 (ipHdrBytes protocol (BitVec.ofNat 16 (20 + data.length)) id 0 0 src dst) 0) src dst
    data
  have hsum := cksum16_ipHdrBytes protocol (BitVec.ofNat 16 (20 + data.length)) id 0 src dst
  rw [← @List.take_left' _ _ data _ (ipHdrBytes_length ..)] at hsum
  set hdr := ipHdrBytes protocol (BitVec.ofNat 16 (20 + data.length)) id 0
    (cksum16 (ipHdrBytes protocol (BitVec.ofNat 16 (20 + data.length)) id 0 0 src dst) 0) src dst
  have hlen₂₀ : hdr.length = 20 := ipHdrBytes_length ..
  clear_value hdr
  have hver : ((0x45 : BitVec 8) &&& 0xf0) >>> 4 = ipVersionIpv4 := by decide
  have hhlen : ((0x45 : BitVec 8) &&& 0x0f).toNat <<< 2 = 20 := by decide
  have hfrag : ¬ ((0 : BitVec 16) &&& 0x2000 ≠ 0 ∨ (0 : BitVec 16) &&& 0x1fff ≠ 0) := by decide
  have hsize : sizeSub (20 + data.length) 20 = data.length := by
    rw [sizeSub_of_le (by omega) (by omega)]
    omega
  rw [heq, ipInput]
  simp only [List.length_append, hlen₂₀, hvhl, htot, hoff, hsrc, hdst, hprot, ntoh16_hton16, htotal,
    hver, hhlen, hsum, hfrag, hiface, hp, hsize, ne_eq, not_true_eq_false, if_false, if_true,
    ipHdrSizeMin]
  split_ifs <;> first | rfl | omega

/-- `ip_output_core`'s datagram carries its payload to the handler intact. -/
theorem ipOutputCore_payload {protocol : BitVec 8} {data : List (BitVec 8)}
    (hlen : ipHdrSizeMin + data.length ≤ ipTotalSizeMax) (src dst : BitVec 32) (id : BitVec 16)
    (iface : IpIface) :
    IpDispatch.payload ⟨protocol, ipHdrSizeMin, data.length, src, dst, iface⟩
      (ipOutputCore protocol data src dst id 0) = data := by
  rw [(ipOutputCore_eq hlen src dst id 0).1, IpDispatch.payload]
  simp [ipHdrSizeMin]

/-! ## What `ip_input`'s checks guarantee -/

/-- The interface `ip_input` takes a datagram for is one of the list, and
either the destination is the broadcast address and the interface is the
list's first, or one of the interface's addresses is the destination. -/
theorem ipInputIface_eq_some {ifaces : List IpIface} {dst : BitVec 32} {iface : IpIface}
    (h : ipInputIface ifaces dst = some iface) :
    iface ∈ ifaces ∧ (dst = ipAddrBroadcast ∧ ifaces.head? = some iface ∨
      iface.broadcast = dst ∨ iface.unicast = dst) := by
  unfold ipInputIface at h
  split_ifs at h with hb
  · exact ⟨List.mem_of_find?_eq_some h, .inr (by simpa using List.find?_some h)⟩
  · exact ⟨List.mem_of_mem_head? h, .inl ⟨not_not.1 hb, h⟩⟩

/-- Every call `ip_input` makes of a handler comes from a datagram that holds
a minimal header, and whose header length and total length both lie within
the bytes received; the handler gets the interface `ip_input` takes the
destination for. -/
theorem ipInput_eq_some {protocols : List (BitVec 8)} {ifaces : List IpIface}
    {data : List (BitVec 8)} {d : IpDispatch} (h : ipInput protocols ifaces data = some d) :
    ipHdrSizeMin ≤ data.length ∧ d.offset ≤ data.length ∧
      (ntoh16 (read16 data 2)).toNat ≤ data.length ∧
      d.length = sizeSub (ntoh16 (read16 data 2)).toNat d.offset ∧
      ipInputIface ifaces d.dst = some d.iface := by
  simp only [ipInput, Option.ite_none_left_eq_some] at h
  obtain ⟨h₁, -, h₃, h₄, -, -, h⟩ := h
  split at h
  · cases h
  · rename_i hif
    obtain ⟨-, h⟩ := Option.ite_none_right_eq_some.1 h
    cases h
    exact ⟨Nat.le_of_not_lt h₁, Nat.le_of_not_lt h₃, Nat.le_of_not_lt h₄, rfl, hif⟩

/-- A header no longer than the total length gives the handler the bytes
between the two: what follows the total length, a link layer's padding, is
cut off. `ip_input` does not compare the two lengths itself. -/
theorem ipInput_some_payload {protocols : List (BitVec 8)} {ifaces : List IpIface}
    {data : List (BitVec 8)} {d : IpDispatch} (h : ipInput protocols ifaces data = some d)
    (hle : d.offset ≤ (ntoh16 (read16 data 2)).toNat) :
    d.payload data = (data.take (ntoh16 (read16 data 2)).toNat).drop d.offset := by
  obtain ⟨-, -, -, hlength, -⟩ := ipInput_eq_some h
  have := (ntoh16 (read16 data 2)).isLt
  rw [IpDispatch.payload, hlength, sizeSub_of_le hle (by omega), List.drop_take]

end MicroPs.Net
