/-
# TCP and UDP on the wire

`tcp_output_segment` and `udp_output` write a header and the payload, and fill
in a checksum over a pseudo header, the header and the payload. `tcp_input`
and `udp_input` take what `ip_input` hands up, check it, and read the header
back.

A segment `tcp_output_segment` builds, wrapped by `ip_output_core`, reaches
`tcp_segment_arrives` with the fields it was built from and the endpoints
swapped: the byte-level path refines `tcpInputArrival`, the arrival the TCP
system model takes a sent segment to. A UDP datagram reaches its queue entry
the same way. `tcp_input` never compares the data offset it reads with the
bytes it was given.
-/

import MicroPs.Net.Ip
import MicroPs.Tcp.Arrive
import MicroPs.Udp.Pcb

namespace MicroPs.Net

open MicroPs.Tcp MicroPs.Udp

/-- `struct pseudo_hdr` of tcp.c and udp.c as it lies in memory. -/
def pseudoHdrBytes (src dst : BitVec 32) (protocol : BitVec 8) (len : BitVec 16) : List Byte :=
  mem32 src ++ mem32 dst ++ [0, protocol] ++ mem16 (hton16 len)

/-- `psum = ~cksum16(&pseudo, sizeof(pseudo), 0)`: the pseudo header's sum,
which starts the sum over the segment. -/
def pseudoSum (src dst : BitVec 32) (protocol : BitVec 8) (len : BitVec 16) : BitVec 16 :=
  ~~~(cksum16 (pseudoHdrBytes src dst protocol len) 0)

/-! ## TCP -/

/-- The header `tcp_output_segment` writes for `seg`, `struct tcp_hdr` as it
lies in memory, with `sum` in its checksum field. -/
def tcpHdrBytes (seg : TcpSegment) (sum : BitVec 16) : List Byte :=
  mem16 seg.local.port ++ mem16 seg.foreign.port ++ mem32 (hton32 seg.seq) ++
    mem32 (hton32 seg.ack) ++ [BitVec.ofNat 8 ((20 >>> 2) <<< 4), seg.flg] ++
    mem16 (hton16 seg.wnd) ++ mem16 sum ++ mem16 0

/-- `tcp_output_segment` up to `ip_output`: the `total` bytes it hands on for
the segment `seg`. `total` is 16 bits wide. -/
def tcpOutputSegmentBytes (seg : TcpSegment) : List Byte :=
  let total : BitVec 16 := BitVec.ofNat 16 (20 + seg.data.length)
  let psum := pseudoSum seg.local.addr seg.foreign.addr ipProtocolTcp total
  let sum := cksum16 ((tcpHdrBytes seg 0 ++ seg.data).take total.toNat) psum.toNat
  (tcpHdrBytes seg sum ++ seg.data).take total.toNat

/-- The call `tcp_input` makes of `tcp_segment_arrives`: the segment's
fields, the flags, where the payload starts (`hlen`), its length `len - hlen`
as a `size_t`, and the two endpoints. -/
structure TcpInputCall where
  seg : TcpSegmentInfo
  flags : Byte
  offset : Nat
  length : Nat
  «local» : IpEndpoint
  foreign : IpEndpoint
  deriving DecidableEq, Repr

/-- `tcp_input` on the `len` bytes `data` from `src` to `dst`. The checksum
covers `len` bytes as the 16-bit `count` of `cksum16` takes it. -/
def tcpInput (data : List Byte) (src dst : BitVec 32) : Option TcpInputCall :=
  let len := data.length
  if len < 20 then none
  else
    let psum := pseudoSum src dst ipProtocolTcp (BitVec.ofNat 16 len)
    if cksum16 (data.take (len % 65536)) psum.toNat ≠ 0 then none
    else if src = ipAddrBroadcast then none
    else if dst = ipAddrBroadcast then none
    else
      let flg := data.getD 13 0
      let hlen := ((data.getD 12 0) >>> 4).toNat <<< 2
      let segLen := BitVec.ofNat 16 (sizeSub len hlen) +
        (if tcpFlgIsset flg tcpFlgSyn then 1 else 0) + (if tcpFlgIsset flg tcpFlgFin then 1 else 0)
      some ⟨⟨ntoh32 (read32 data 4), ntoh32 (read32 data 8), segLen, ntoh16 (read16 data 14)⟩, flg,
        hlen, sizeSub len hlen, ⟨dst, read16 data 2⟩, ⟨src, read16 data 0⟩⟩

/-- The arrival the call hands to `tcp_segment_arrives`: the payload is
`length` bytes from `offset` of the bytes `tcp_input` was given. -/
def TcpInputCall.arrival (c : TcpInputCall) (data : List Byte) (iss : BitVec 32) (now : Int) :
    TcpArrival :=
  ⟨c.seg, c.flags, (data.drop c.offset).take c.length, c.local, c.foreign, iss, now⟩

/-- A datagram a device receives, through `ip_input` and, if it is handed to
TCP, `tcp_input`: the arrival `tcp_segment_arrives` is called with.
`tcp_init` registers `tcp_input` for `IP_PROTOCOL_TCP`. -/
def tcpReceive (protocols : List Byte) (ifaces : List IpIface) (datagram : List Byte)
    (iss : BitVec 32) (now : Int) : Option TcpArrival :=
  match ipInput protocols ifaces datagram with
  | none => none
  | some d =>
    if d.protocol = ipProtocolTcp then
      (tcpInput (d.payload datagram) d.src d.dst).map fun c =>
        c.arrival (d.payload datagram) iss now
    else none

section TcpReads

variable (seg : TcpSegment) (sum : BitVec 16) (rest : List Byte)

@[simp] theorem tcpHdrBytes_length : (tcpHdrBytes seg sum).length = 20 := rfl

/-- The fields `tcp_input` reads from a segment that starts with a header of
`tcp_output_segment`. -/
theorem tcpHdrBytes_reads :
    let data := tcpHdrBytes seg sum ++ rest
    data.getD 12 0 = 0x50 ∧ data.getD 13 0 = seg.flg ∧ read16 data 0 = seg.local.port ∧
      read16 data 2 = seg.foreign.port ∧ read32 data 4 = hton32 seg.seq ∧
      read32 data 8 = hton32 seg.ack ∧ read16 data 14 = hton16 seg.wnd := by
  simp only [tcpHdrBytes, mem16, mem32, read16, read32, List.cons_append, List.nil_append,
    List.append_assoc, List.getD_cons_succ, List.getD_cons_zero, load16_bytes, load32_bytes,
    and_self, and_true]
  decide

/-- The checksum field sits at offset 16, after eight whole words. -/
theorem tcpHdrBytes_sum :
    tcpHdrBytes seg sum ++ rest =
      (mem16 seg.local.port ++ mem16 seg.foreign.port ++ mem32 (hton32 seg.seq) ++
        mem32 (hton32 seg.ack) ++ [BitVec.ofNat 8 ((20 >>> 2) <<< 4), seg.flg] ++
        mem16 (hton16 seg.wnd)) ++ mem16 sum ++ (mem16 0 ++ rest) := by
  simp only [tcpHdrBytes, List.append_assoc]

end TcpReads

/-- Below 65536 bytes `tcp_output_segment` hands on the header and the whole
payload, and the checksum it writes makes the receiver's zero. -/
theorem tcpOutputSegmentBytes_eq {seg : TcpSegment} (hlen : 20 + seg.data.length < 65536) :
    let total : BitVec 16 := BitVec.ofNat 16 (20 + seg.data.length)
    let psum := pseudoSum seg.local.addr seg.foreign.addr ipProtocolTcp total
    ∃ sum, tcpOutputSegmentBytes seg = tcpHdrBytes seg sum ++ seg.data ∧
      cksum16 (tcpHdrBytes seg sum ++ seg.data) psum.toNat = 0 := by
  intro total psum
  have htotal : total.toNat = 20 + seg.data.length := by
    simp only [total, BitVec.toNat_ofNat]
    omega
  have hall : ∀ sum, (tcpHdrBytes seg sum ++ seg.data).take total.toNat =
      tcpHdrBytes seg sum ++ seg.data := fun sum =>
    List.take_of_length_le (by simp [htotal])
  refine ⟨_, by rw [tcpOutputSegmentBytes, hall], ?_⟩
  rw [hall, tcpHdrBytes_sum, tcpHdrBytes_sum]
  exact cksum16_verify (by simp [mem16, mem32]) _ _

/-- `tcp_input` reads back what `tcp_output_segment` wrote: the segment's
fields, its payload after the 20-byte header, and the endpoints swapped, unless
one address is the broadcast address. -/
theorem tcpInput_tcpOutputSegmentBytes {seg : TcpSegment} (hlen : 20 + seg.data.length < 65536) :
    tcpInput (tcpOutputSegmentBytes seg) seg.local.addr seg.foreign.addr =
      if seg.local.addr = ipAddrBroadcast ∨ seg.foreign.addr = ipAddrBroadcast then none
      else some ⟨⟨seg.seq, seg.ack, tcpSegLen seg.flg seg.data, seg.wnd⟩, seg.flg, 20,
        seg.data.length, seg.foreign, seg.local⟩ := by
  obtain ⟨sum, heq, hsum⟩ := tcpOutputSegmentBytes_eq hlen
  obtain ⟨hoff, hflg, hsrc, hdst, hseq, hack, hwnd⟩ := tcpHdrBytes_reads seg sum seg.data
  have hmod : (20 + seg.data.length) % 65536 = 20 + seg.data.length := Nat.mod_eq_of_lt hlen
  have hhlen : ((0x50 : Byte) >>> 4).toNat <<< 2 = 20 := by decide
  have hsize : sizeSub (20 + seg.data.length) 20 = seg.data.length := by
    rw [sizeSub_of_le (by omega) (by omega)]
    omega
  have htake : (tcpHdrBytes seg sum ++ seg.data).take (20 + seg.data.length) =
      tcpHdrBytes seg sum ++ seg.data := List.take_of_length_le (by simp)
  rw [heq, tcpInput]
  simp only [List.length_append, tcpHdrBytes_length, hmod, htake, hsum, hoff, hflg,
    hsrc, hdst, hseq, hack, hwnd, hhlen, hsize, ntoh32_hton32, ntoh16_hton16, tcpSegLen]
  by_cases hl : seg.local.addr = ipAddrBroadcast <;> simp [hl]

/-- The byte-level path refines the TCP system model's: a segment
`tcp_output_segment` builds, wrapped by `ip_output_core` and received on a
device that takes its destination, arrives exactly as `tcpInputArrival`
says. -/
theorem tcpReceive_ipOutputCore {protocols : List Byte} (hp : ipProtocolTcp ∈ protocols)
    {seg : TcpSegment} (hlen : 20 + seg.data.length ≤ ipPayloadSizeMax) {ifaces : List IpIface}
    {iface : IpIface} (hiface : ipInputIface ifaces seg.foreign.addr = some iface) (id : BitVec 16)
    (iss : BitVec 32) (now : Int) :
    tcpReceive protocols ifaces
      (ipOutputCore ipProtocolTcp (tcpOutputSegmentBytes seg) seg.local.addr seg.foreign.addr id 0)
      iss now = tcpInputArrival seg iss now := by
  have hseg : 20 + seg.data.length < 65536 := by
    simp only [ipPayloadSizeMax, ipTotalSizeMax, ipHdrSizeMin] at hlen
    omega
  obtain ⟨sum, heq, -⟩ := tcpOutputSegmentBytes_eq hseg
  have hip : ipHdrSizeMin + (tcpOutputSegmentBytes seg).length ≤ ipTotalSizeMax := by
    simp only [heq, List.length_append, tcpHdrBytes_length, ipPayloadSizeMax, ipTotalSizeMax,
      ipHdrSizeMin] at hlen ⊢
    omega
  rw [tcpReceive, ipInput_ipOutputCore hp hip hiface]
  simp only [ipOutputCore_payload hip, if_true, tcpInput_tcpOutputSegmentBytes hseg,
    tcpInputArrival]
  split_ifs
  · rfl
  · simp only [Option.map_some', TcpInputCall.arrival, heq,
      List.drop_left' (tcpHdrBytes_length _ _),
      List.take_length]

/-! ## What `tcp_input`'s checks guarantee -/

theorem shiftRight_four_shiftLeft_two_le (b : Byte) : (b >>> 4).toNat <<< 2 ≤ 60 := by
  have := b.isLt
  simp only [BitVec.toNat_ushiftRight, Nat.shiftLeft_eq, Nat.shiftRight_eq_div_pow]
  omega

/-- Every call `tcp_input` makes comes from a segment that holds a minimal
header; the header length it reads is at most 60, and the payload length is
what remains after it, as a `size_t`. -/
theorem tcpInput_some_bounds {data : List Byte} {src dst : BitVec 32} {c : TcpInputCall}
    (h : tcpInput data src dst = some c) :
    20 ≤ data.length ∧ c.offset ≤ 60 ∧ c.length = sizeSub data.length c.offset := by
  simp only [tcpInput, Option.ite_none_left_eq_some] at h
  obtain ⟨h₁, -, -, -, h⟩ := h
  cases h
  exact ⟨Nat.le_of_not_lt h₁, shiftRight_four_shiftLeft_two_le _, rfl⟩

/-- A header length within the segment gives `tcp_segment_arrives` every
byte after the header as the payload. `tcp_input` does not compare the
header length with the segment's length itself. -/
theorem tcpInput_some_arrival_data {data : List Byte} {src dst : BitVec 32} {c : TcpInputCall}
    (h : tcpInput data src dst = some c) (hle : c.offset ≤ data.length)
    (hlen : data.length < 2 ^ 64) (iss : BitVec 32) (now : Int) :
    (c.arrival data iss now).data = data.drop c.offset := by
  obtain ⟨-, -, hlength⟩ := tcpInput_some_bounds h
  rw [TcpInputCall.arrival, hlength, sizeSub_of_le hle hlen, List.take_of_length_le]
  simp

/-- Two datagrams and a segment, each with a valid checksum, that the checks
let through (addresses as they lie in memory: 10.0.0.2 to 10.0.0.1). A
20-byte datagram whose header claims 16 bytes hands its last four header
bytes, the destination address, up as payload; one whose total length 16 is
below its header length 20 hands up a payload of 2^64 - 4 bytes. A 20-byte
ACK segment whose data offset claims 60 bytes reaches `tcp_segment_arrives`
with its payload 60 bytes in and 2^64 - 40 bytes long, and `seg.len`
truncated to `0xffd8`. The checks guarantee only this: `ip_input` hands up
the bytes from the header length to the total length when the one is below
the other, and every call `tcp_input` makes comes from a segment with a
minimal header, a header length of at most 60 and, when that length lies
within the segment, every byte after it as the payload. -/
theorem ipInput_tcpInput_accept_bad_lengths :
    let iface : IpIface := ⟨0x0100000a, 0x0a0000ff⟩
    let short : List Byte :=
      [0x44, 0, 0, 20, 0, 0, 0, 0, 0xff, 6, 178, 226, 10, 0, 0, 2, 10, 0, 0, 1]
    let cut : List Byte :=
      [0x45, 0, 0, 16, 0, 0, 0, 0, 0xff, 6, 167, 229, 10, 0, 0, 2, 10, 0, 0, 1]
    let seg : List Byte :=
      [0x9c, 0x40, 0, 7, 0, 0, 0, 1, 0, 0, 0, 0, 0xf0, 0x10, 0x10, 0, 79, 137, 0, 0]
    ipInput [ipProtocolTcp] [iface] short =
        some ⟨ipProtocolTcp, 16, 4, 0x0200000a, 0x0100000a, iface⟩ ∧
      ipInput [ipProtocolTcp] [iface] cut =
        some ⟨ipProtocolTcp, 20, 2 ^ 64 - 4, 0x0200000a, 0x0100000a, iface⟩ ∧
      (tcpInput seg 0x0200000a 0x0100000a).map (fun c => (c.offset, c.length, c.seg.len)) =
        some (60, 2 ^ 64 - 40, 0xffd8) ∧
    (∀ (protocols : List Byte) (ifaces : List IpIface) (data : List Byte) (d : IpDispatch),
      ipInput protocols ifaces data = some d → d.offset ≤ (ntoh16 (read16 data 2)).toNat →
      d.payload data = (data.take (ntoh16 (read16 data 2)).toNat).drop d.offset) ∧
    ∀ (data : List Byte) (src dst : BitVec 32) (c : TcpInputCall),
      tcpInput data src dst = some c →
      (20 ≤ data.length ∧ c.offset ≤ 60 ∧ c.length = sizeSub data.length c.offset) ∧
      ∀ iss now, c.offset ≤ data.length → data.length < 2 ^ 64 →
        (c.arrival data iss now).data = data.drop c.offset := by
  refine ⟨by decide, by decide, by decide, fun _ _ _ _ h hle => ipInput_some_payload h hle,
    fun _ _ _ _ h => ⟨tcpInput_some_bounds h, fun iss now hle hlen =>
      tcpInput_some_arrival_data h hle hlen iss now⟩⟩

/-! ## UDP -/

/-- The header `udp_output` writes, `struct udp_hdr` as it lies in memory,
with `sum` in its checksum field. -/
def udpHdrBytes (src dst : IpEndpoint) (total sum : BitVec 16) : List Byte :=
  mem16 src.port ++ mem16 dst.port ++ mem16 (hton16 total) ++ mem16 sum

/-- `udp_output` up to `ip_output`: the `total` bytes it hands on, or nothing
for a payload longer than `IP_PAYLOAD_SIZE_MAX - sizeof(*hdr)`. -/
def udpOutput (src dst : IpEndpoint) (data : List Byte) : Option (List Byte) :=
  if data.length > ipPayloadSizeMax - 8 then none
  else
    let total : BitVec 16 := BitVec.ofNat 16 (8 + data.length)
    let psum := pseudoSum src.addr dst.addr ipProtocolUdp total
    let sum := cksum16 ((udpHdrBytes src dst total 0 ++ data).take total.toNat) psum.toNat
    some ((udpHdrBytes src dst total sum ++ data).take total.toNat)

/-- The checks of `udp_input` on the `len` bytes `data` from `src` to `dst`,
and the queue entry they lead to: the sender's endpoint, the destination
endpoint `udp_pcb_select` is asked for, and the payload. -/
def udpInputEntry (data : List Byte) (src dst : BitVec 32) :
    Option (IpEndpoint × IpEndpoint × List Byte) :=
  let len := data.length
  if len < 8 then none
  else if len ≠ (ntoh16 (read16 data 4)).toNat then none
  else
    let psum := pseudoSum src dst ipProtocolUdp (BitVec.ofNat 16 len)
    if cksum16 (data.take (len % 65536)) psum.toNat ≠ 0 then none
    else some (⟨src, read16 data 0⟩, ⟨dst, read16 data 2⟩, (data.drop 8).take (len - 8))

/-- A datagram a device receives, through `ip_input` and, if it is handed to
UDP, `udp_input`: the PCB table after the delivery. `udp_init` registers
`udp_input` for `IP_PROTOCOL_UDP`. -/
def udpReceive (protocols : List Byte) (ifaces : List IpIface) (datagram : List Byte)
    (pcbs : UdpPcbs) : UdpPcbs :=
  match ipInput protocols ifaces datagram with
  | none => pcbs
  | some d =>
    if d.protocol = ipProtocolUdp then
      match udpInputEntry (d.payload datagram) d.src d.dst with
      | none => pcbs
      | some (foreign, lcl, payload) => udpInput pcbs foreign lcl payload
    else pcbs

section UdpReads

variable (src dst : IpEndpoint) (total sum : BitVec 16) (rest : List Byte)

@[simp] theorem udpHdrBytes_length : (udpHdrBytes src dst total sum).length = 8 := rfl

/-- The fields `udp_input` reads from a datagram that starts with a header of
`udp_output`. -/
theorem udpHdrBytes_reads :
    let data := udpHdrBytes src dst total sum ++ rest
    read16 data 0 = src.port ∧ read16 data 2 = dst.port ∧ read16 data 4 = hton16 total := by
  simp only [udpHdrBytes, mem16, read16, List.cons_append, List.nil_append, List.append_assoc,
    List.getD_cons_succ, List.getD_cons_zero, load16_bytes, and_self]

/-- The checksum field sits at offset 6, after three whole words. -/
theorem udpHdrBytes_sum :
    udpHdrBytes src dst total sum ++ rest =
      (mem16 src.port ++ mem16 dst.port ++ mem16 (hton16 total)) ++ mem16 sum ++ rest := by
  simp only [udpHdrBytes]

end UdpReads

/-- A payload that fits is handed on with the header in front, and the
checksum written makes the receiver's zero. -/
theorem udpOutput_eq {src dst : IpEndpoint} {data : List Byte}
    (hlen : data.length ≤ ipPayloadSizeMax - 8) :
    let total : BitVec 16 := BitVec.ofNat 16 (8 + data.length)
    let psum := pseudoSum src.addr dst.addr ipProtocolUdp total
    ∃ sum, udpOutput src dst data = some (udpHdrBytes src dst total sum ++ data) ∧
      cksum16 (udpHdrBytes src dst total sum ++ data) psum.toNat = 0 := by
  intro total psum
  have htotal : total.toNat = 8 + data.length := by
    simp only [ipPayloadSizeMax, ipTotalSizeMax, ipHdrSizeMin] at hlen
    simp only [total, BitVec.toNat_ofNat]
    omega
  have hall : ∀ sum, (udpHdrBytes src dst total sum ++ data).take total.toNat =
      udpHdrBytes src dst total sum ++ data := fun sum =>
    List.take_of_length_le (by simp [htotal])
  refine ⟨cksum16 (udpHdrBytes src dst total 0 ++ data) psum.toNat, ?_, ?_⟩
  · rw [udpOutput, if_neg (by omega)]
    simp only [hall, total, psum]
  rw [udpHdrBytes_sum, udpHdrBytes_sum]
  exact cksum16_verify (by simp [mem16]) _ _

/-- `udp_output` hands a datagram on only for a payload that fits. -/
theorem udpOutput_length {src dst : IpEndpoint} {data bytes : List Byte}
    (hout : udpOutput src dst data = some bytes) : data.length ≤ ipPayloadSizeMax - 8 := by
  by_contra h
  rw [udpOutput, if_pos (by omega)] at hout
  cases hout

/-- `udp_input` passes a datagram of `udp_output` and reads back the two
endpoints and the payload. -/
theorem udpInputEntry_udpOutput {src dst : IpEndpoint} {data bytes : List Byte}
    (hout : udpOutput src dst data = some bytes) :
    udpInputEntry bytes src.addr dst.addr = some (src, dst, data) := by
  have hlen := udpOutput_length hout
  obtain ⟨sum, heq, hsum⟩ := udpOutput_eq hlen
  rw [heq, Option.some.injEq] at hout
  subst hout
  obtain ⟨hsrc, hdst, htot⟩ :=
    udpHdrBytes_reads src dst (BitVec.ofNat 16 (8 + data.length)) sum data
  simp only [ipPayloadSizeMax, ipTotalSizeMax, ipHdrSizeMin] at hlen
  have hmod : (8 + data.length) % 65536 = 8 + data.length := Nat.mod_eq_of_lt (by omega)
  have htotal : (BitVec.ofNat 16 (8 + data.length)).toNat = 8 + data.length := by
    simp only [BitVec.toNat_ofNat]
    omega
  have htake : (udpHdrBytes src dst (BitVec.ofNat 16 (8 + data.length)) sum ++ data).take
      (8 + data.length) = udpHdrBytes src dst (BitVec.ofNat 16 (8 + data.length)) sum ++ data :=
    List.take_of_length_le (by simp)
  rw [udpInputEntry]
  simp only [List.length_append, udpHdrBytes_length, hmod, htake, hsum, hsrc, hdst,
    htot, ntoh16_hton16, htotal, List.drop_left' (udpHdrBytes_length _ _ _ _)]
  simp

/-- The byte-level UDP path: a datagram `udp_output` builds, wrapped by
`ip_output_core` and received on a device that takes its destination, is
queued as `udpInput` queues the sender's endpoint and the payload. -/
theorem udpReceive_ipOutputCore {protocols : List Byte} (hp : ipProtocolUdp ∈ protocols)
    {src dst : IpEndpoint} {data bytes : List Byte} (hout : udpOutput src dst data = some bytes)
    {ifaces : List IpIface} {iface : IpIface} (hiface : ipInputIface ifaces dst.addr = some iface)
    (id : BitVec 16) (pcbs : UdpPcbs) :
    (∃ d, ipInput protocols ifaces (ipOutputCore ipProtocolUdp bytes src.addr dst.addr id 0) =
        some d ∧ d.protocol = ipProtocolUdp ∧
        udpInputEntry (d.payload (ipOutputCore ipProtocolUdp bytes src.addr dst.addr id 0)) d.src
          d.dst = some (src, dst, data)) ∧
      udpReceive protocols ifaces (ipOutputCore ipProtocolUdp bytes src.addr dst.addr id 0) pcbs =
        udpInput pcbs src dst data := by
  have hlen := udpOutput_length hout
  obtain ⟨sum, heq, -⟩ := udpOutput_eq hlen
  have hip : ipHdrSizeMin + bytes.length ≤ ipTotalSizeMax := by
    rw [heq, Option.some.injEq] at hout
    subst hout
    simp only [List.length_append, udpHdrBytes_length, ipPayloadSizeMax, ipTotalSizeMax,
      ipHdrSizeMin] at hlen ⊢
    omega
  have hentry := udpInputEntry_udpOutput hout
  refine ⟨⟨_, ipInput_ipOutputCore hp hip hiface id, rfl, ?_⟩, ?_⟩
  · rwa [ipOutputCore_payload hip]
  · rw [udpReceive, ipInput_ipOutputCore hp hip hiface]
    simp only [ipOutputCore_payload hip, if_true, hentry]

/-! ## Both transports -/

/-- Every segment `tcp_output_segment` builds within `IP_PAYLOAD_SIZE_MAX`
between two addresses other than the broadcast address, and every datagram
`udp_output` builds, wrapped by `ip_output_core` and received on a device with
an interface for the destination, pass every check on the way up. The segment
reaches `tcp_segment_arrives` with its fields and payload, `seg.len` counting
SYN and FIN, and the endpoints swapped; `ip_input` hands the datagram to UDP,
`udp_input` builds from it the entry of the sender's endpoint, the
destination and the payload, and queues that entry on the PCB bound to the
destination. -/
theorem output_input_round_trip :
    (∀ (protocols : List Byte) (ifaces : List IpIface) (iface : IpIface) (seg : TcpSegment)
        (id : BitVec 16) (iss : BitVec 32) (now : Int),
      ipProtocolTcp ∈ protocols → 20 + seg.data.length ≤ ipPayloadSizeMax →
      seg.local.addr ≠ ipAddrBroadcast → seg.foreign.addr ≠ ipAddrBroadcast →
      iface ∈ ifaces → iface.unicast = seg.foreign.addr →
      tcpReceive protocols ifaces (ipOutputCore ipProtocolTcp (tcpOutputSegmentBytes seg)
          seg.local.addr seg.foreign.addr id 0) iss now =
        some ⟨⟨seg.seq, seg.ack, tcpSegLen seg.flg seg.data, seg.wnd⟩, seg.flg, seg.data,
          seg.foreign, seg.local, iss, now⟩) ∧
    (∀ (protocols : List Byte) (ifaces : List IpIface) (iface : IpIface) (src dst : IpEndpoint)
        (data bytes : List Byte) (id : BitVec 16) (pcbs : UdpPcbs),
      ipProtocolUdp ∈ protocols → udpOutput src dst data = some bytes →
      iface ∈ ifaces → iface.unicast = dst.addr →
      (∃ d, ipInput protocols ifaces (ipOutputCore ipProtocolUdp bytes src.addr dst.addr id 0) =
          some d ∧ d.protocol = ipProtocolUdp ∧
          udpInputEntry (d.payload (ipOutputCore ipProtocolUdp bytes src.addr dst.addr id 0)) d.src
            d.dst = some (src, dst, data)) ∧
        udpReceive protocols ifaces (ipOutputCore ipProtocolUdp bytes src.addr dst.addr id 0) pcbs =
          udpInput pcbs src dst data) := by
  refine ⟨fun protocols ifaces iface seg id iss now hp hlen hl hf hmem hdst => ?_,
    fun protocols ifaces iface src dst data bytes id pcbs hp hout hmem hdst => ?_⟩
  · obtain ⟨i, hi⟩ := Option.isSome_iff_exists.1 (ipInputIface_isSome hmem hdst)
    rw [tcpReceive_ipOutputCore hp hlen hi, tcpInputArrival, if_neg (not_or.2 ⟨hl, hf⟩)]
  · obtain ⟨i, hi⟩ := Option.isSome_iff_exists.1 (ipInputIface_isSome hmem hdst)
    exact udpReceive_ipOutputCore hp hout hi id pcbs

/-- A SYN with one byte of payload from 10.0.0.2:49152 to 10.0.0.1:7, and a
three-byte UDP datagram between the same endpoints, received on a device
whose interface is 10.0.0.1, where slot 0 of the UDP table is bound to
10.0.0.1:7: the datagram's bytes are queued on slot 0 with the sender. -/
theorem output_input_round_trip_loopback :
    let seg : TcpSegment :=
      ⟨1000, 0, tcpFlgSyn, 4096, [0x61], ⟨0x0a000002, 0xc000⟩, ⟨0x0a000001, 0x0700⟩⟩
    let ifaces : List IpIface := [⟨0x0a000001, 0x0a0000ff⟩]
    let bytes := (udpOutput seg.local seg.foreign [0x61, 0x62, 0x63]).getD []
    let pcbs : UdpPcbs :=
      Function.update (fun _ => UdpPcb.zero) 0
        { UdpPcb.zero with state := .open, «local» := seg.foreign }
    tcpReceive [ipProtocolTcp, ipProtocolUdp] ifaces (ipOutputCore ipProtocolTcp
        (tcpOutputSegmentBytes seg) seg.local.addr seg.foreign.addr 128 0) 0 0 =
      some ⟨⟨seg.seq, seg.ack, tcpSegLen seg.flg seg.data, seg.wnd⟩, seg.flg, seg.data,
        seg.foreign, seg.local, 0, 0⟩ ∧
    (udpReceive [ipProtocolTcp, ipProtocolUdp] ifaces
        (ipOutputCore ipProtocolUdp bytes seg.local.addr seg.foreign.addr 129 0) pcbs 0).queue =
      [⟨seg.local, [0x61, 0x62, 0x63]⟩] := by
  intro seg ifaces bytes pcbs
  refine ⟨output_input_round_trip.1 _ _ ⟨0x0a000001, 0x0a0000ff⟩ _ 128 0 0 (by decide) (by decide)
      (by decide) (by decide) (List.mem_singleton_self _) rfl, ?_⟩
  rw [(output_input_round_trip.2 [ipProtocolTcp, ipProtocolUdp] ifaces ⟨0x0a000001, 0x0a0000ff⟩
      seg.local seg.foreign [0x61, 0x62, 0x63] bytes 129 pcbs (by decide) rfl
      (List.mem_singleton_self _) rfl).2]
  decide

end MicroPs.Net
