/-
# A datagram through the whole stack

The layers meet here. `udp_output` builds a datagram (`MicroPs.Net.Wire`),
`ip_output` wraps it and hands the frame to the device's driver
(`MicroPs.Net.Output`), the loopback driver queues it and its ISR and the soft
IRQ hand it to IP's handler (`MicroPs.Net.Loopback`), and `ip_input` and
`udp_input` take it apart again (`MicroPs.Net.Wire`). Each layer's result is
used as it stands; this module only lines up what one layer hands the next.

A UDP datagram sent through a route whose interface sits on the loopback
device, from that interface's address, leaves as one frame that the loopback
driver accepts; after the ISR and the soft IRQ it is the last frame IP's
handler has received, and `ip_input` and `udp_input` queue its payload with
the sender's endpoint for the PCB of the destination, as `udp_input` would
have queued it had the sender called it directly.
-/

import MicroPs.Net.Output
import MicroPs.Net.Wire

namespace MicroPs.Net

open MicroPs.Tcp MicroPs.Udp MicroPs.Arp

/-! ## The loopback layer -/

/-- `net_device_output` through `loopback_transmit` queues a frame that fits
an up device's MTU when the queue has room and the allocation succeeds. -/
theorem netDeviceOutput_loopbackTransmit_ok {dev : NetDevice} {data : List (BitVec 8)}
    {queue : List LoopbackQueueEntry} (hup : dev.up = true) (hmtu : data.length ≤ dev.mtu)
    (hq : queue.length < loopbackQueueLimit) (type : BitVec 16) :
    netDeviceOutput dev data.length (loopbackTransmit type data true) queue =
      (queue ++ [⟨type, data⟩], 0) := by
  have hroom : ¬ loopbackQueueLimit ≤ queue.length := by omega
  simp [netDeviceOutput, loopbackTransmit, hup, Nat.not_lt.2 hmtu, hroom]

namespace LoopbackSystem

/-- A frame of a registered type that the loopback driver accepts is, once
the ISR and the soft IRQ have run with their allocations granted, the last
frame of its type that its protocol's handler has received. -/
theorem Inv.output_isr_softirq {protos : NetProtocols} {s : LoopbackSystem} (h : s.Inv protos)
    (hup : s.dev.up = true) (hq : s.queue.length < loopbackQueueLimit) {type : BitVec 16}
    (hT : type ∈ protos.list.map (·.type)) {data : List (BitVec 8)} (hmtu : data.length ≤ s.dev.mtu) :
    let s' := s.run [.output type data true, .isr [], .softirq]
    s'.transmitted = s.transmitted ++ [⟨type, data, s.dev.index⟩] ∧
      (s'.net.handled.filter (·.type = type)).getLast? = some ⟨type, data, s.dev.index⟩ := by
  intro s'
  have hout := netDeviceOutput_loopbackTransmit_ok hup hmtu hq type
  have hnet : s'.net =
      (loopbackIsrLoop s.dev.index (s.queue ++ [⟨type, data⟩]) [] s.net).step .softirq := by
    simp [s', run, step, hout]
  have hinv := loopbackIsrLoop_inv s.dev.index (s.queue ++ [⟨type, data⟩]) [] h.net
  have hacc := loopbackIsrLoop_accepted_ok s.dev.index (s.queue ++ [⟨type, data⟩]) [] h.net
    (by simp)
  have hdel := (NetSystem.step_inv hinv .softirq).delivered type
  obtain ⟨hpend, hacc'⟩ := NetSystem.step_softirq
    (loopbackIsrLoop s.dev.index (s.queue ++ [⟨type, data⟩]) [] s.net) type
  rw [hpend, List.append_nil, hacc', hacc, ← hnet] at hdel
  refine ⟨by simp [s', run, step, hout], ?_⟩
  have hlast : ((([⟨type, data⟩] : List LoopbackQueueEntry).map (·.frame s.dev.index)).filter
      (·.type ∈ protos.list.map (·.type))).filter (·.type = type) = [⟨type, data, s.dev.index⟩] := by
    simp [LoopbackQueueEntry.frame, List.mem_map.1 hT]
  rw [hdel, List.map_append, List.filter_append, List.filter_append, List.filter_append, hlast,
    ← List.append_assoc, List.getLast?_concat]

end LoopbackSystem

/-! ## UDP over the loopback device -/

/-- A UDP datagram from `src` to `dst`, built by `udp_output` and handed to
`ip_output` (with the driver's answer `0`), where the route to `dst` goes
through an interface whose address is `src`'s and whose device is an up
loopback device, without ARP, with room in its queue, in any state its runs
keep: `ip_output` takes the next ID and hands one frame of type IP to the
driver, which accepts it and answers `0`, and `ip_output` returns the
datagram's length. Once the ISR and the soft IRQ have run, the frame is the
last one IP's handler has received; on a device whose interfaces take `dst`,
and with UDP registered with IP, `ip_input` and `udp_input` queue `udp_output`'s
payload with `src` for the PCB of `dst`, exactly as `udp_input` called on the
sender's side would. -/
theorem udpOutput_loopback_delivers (links : Nat → IpLink) (routes : List IpRoute)
    (code : ArpResolveResult → Int) (st : IpOutputState)
    (hmtu : ∀ d, (links d).dev.mtu ≤ ipTotalSizeMax) (src dst : IpEndpoint) (data bytes : List Byte)
    (hout : udpOutput src dst data = some bytes) (now : Int) {iface : IpIfaceEntry}
    {nexthop : BitVec 32}
    (hroute : ipOutputRoute (fun d => (links d).dev.mtu) routes bytes.length src.addr dst.addr =
      .ok (.core iface nexthop))
    (hsrc : iface.addrs.unicast = src.addr) {protos : NetProtocols}
    (hip : netProtocolTypeIp ∈ protos.list.map (·.type)) (lo : LoopbackSystem)
    (hinv : lo.Inv protos) (hlink : (links iface.dev).dev = lo.dev)
    (hnoarp : (links iface.dev).needArp = false) (hup : lo.dev.up = true)
    (hq : lo.queue.length < loopbackQueueLimit) (protocols : List Byte)
    (hudp : ipProtocolUdp ∈ protocols) (ifaces : List IpIface) {i : IpIface}
    (hi : ipInputIface ifaces dst.addr = some i) (pcbs : UdpPcbs) :
    ∃ f, ipOutput links routes code ⟨ipProtocolUdp, bytes, src.addr, dst.addr, now, 0⟩ st =
        .ok (⟨st.id + 1, st.caches⟩, bytes.length, some st.id, some f) ∧
      f.type = netProtocolTypeIp ∧
      (netDeviceOutput lo.dev f.data.length (loopbackTransmit f.type f.data true) lo.queue).2 = 0 ∧
      let lo' := lo.run [.output f.type f.data true, .isr [], .softirq]
      lo'.transmitted = lo.transmitted ++ [⟨netProtocolTypeIp, f.data, lo.dev.index⟩] ∧
      (lo'.net.handled.filter (·.type = netProtocolTypeIp)).getLast? =
        some ⟨netProtocolTypeIp, f.data, lo.dev.index⟩ ∧
      udpReceive protocols ifaces f.data pcbs = udpInput pcbs src dst data := by
  let c : IpOutputCall := ⟨ipProtocolUdp, bytes, src.addr, dst.addr, now, 0⟩
  obtain ⟨hdlen, hfit, -⟩ := @ipOutputRoute_core_datagram links routes c hmtu iface nexthop hroute st.id
  have hdev : ipOutputDevice (links iface.dev) iface.addrs.broadcast st.caches now nexthop =
      (st.caches, .ok fun _ => 0) := by
    simp [ipOutputDevice, hnoarp]
  -- without ARP the frame goes to `net_device_output`, which passes it on
  obtain ⟨hsent, hret⟩ :=
    @ipOutputCoreSend_sent (links iface.dev) iface code c st.id st.caches nexthop (hdlen ▸ hfit)
  obtain ⟨f, hf⟩ := Option.isSome_iff_exists.1
    (hsent.2 ⟨by simp [c, hdev, Except.toOption], hlink ▸ hup⟩)
  obtain ⟨-, htype, hdata, -⟩ := ipOutputCoreSend_frame (Option.mem_def.2 hf)
  have hok : (ipOutputCoreSend (links iface.dev) iface code c st.id st.caches nexthop).2.1 ≠ -1 :=
    fun h => by simpa [c] using (hret (by simp [hf])).1 h
  have hfit' : f.data.length ≤ lo.dev.mtu := by
    rw [hdata, ← hlink]; exact hdlen ▸ hfit
  refine ⟨f, ?_, htype, ?_⟩
  · have h := @ipOutput_of_core links routes code c st iface nexthop hroute
    simp only [hdev, hf, if_neg hok] at h
    exact h
  · obtain ⟨htx, hlast⟩ := hinv.output_isr_softirq hup hq hip hfit'
    rw [htype]
    refine ⟨by simp [netDeviceOutput_loopbackTransmit_ok hup hfit' hq], htx, hlast, ?_⟩
    rw [hdata, hsrc]
    exact (udpReceive_ipOutputCore hudp hout hi st.id pcbs).2

/-- Scenario B of the spec: `"hello\n"` from 127.0.0.1, port 10000, to
127.0.0.1, port 7, over the loopback device with the interface 127.0.0.1/8,
just opened after `net_init`'s protocols were registered. Slot 0 of the UDP
table is bound to 127.0.0.1:7, and the six bytes are queued on it with the
sender. -/
theorem udpOutput_loopback_delivers_hello :
    let src : IpEndpoint := ⟨load32 127 0 0 1, hton16 10000⟩
    let dst : IpEndpoint := ⟨load32 127 0 0 1, hton16 7⟩
    let data : List Byte := [0x68, 0x65, 0x6c, 0x6c, 0x6f, 0x0a]
    let bytes := (udpOutput src dst data).getD []
    let iface : IpIfaceEntry :=
      ⟨0, load32 255 0 0 0, ⟨load32 127 0 0 1, load32 127 255 255 255⟩⟩
    let routes : List IpRoute := [⟨load32 127 0 0 0, load32 255 0 0 0, ipAddrAny, iface⟩]
    let lo := (LoopbackSystem.init 0 netInitProtocols).step .open
    let links : Nat → IpLink := fun _ => ⟨lo.dev, false, fun _ => 0, false⟩
    let ifaces : List IpIface := [iface.addrs]
    let st : IpOutputState := ⟨ipIdInit, fun _ => ArpCache.zero⟩
    let pcbs : UdpPcbs :=
      Function.update (fun _ => UdpPcb.zero) 0 { UdpPcb.zero with state := .open, «local» := dst }
    ∃ f, ipOutput links routes (fun _ => -1) ⟨ipProtocolUdp, bytes, src.addr, dst.addr, 0, 0⟩ st =
        .ok (⟨st.id + 1, st.caches⟩, bytes.length, some st.id, some f) ∧
      f.type = netProtocolTypeIp ∧
      (netDeviceOutput lo.dev f.data.length (loopbackTransmit f.type f.data true) lo.queue).2 = 0 ∧
      let lo' := lo.run [.output f.type f.data true, .isr [], .softirq]
      lo'.transmitted = lo.transmitted ++ [⟨netProtocolTypeIp, f.data, lo.dev.index⟩] ∧
      (lo'.net.handled.filter (·.type = netProtocolTypeIp)).getLast? =
        some ⟨netProtocolTypeIp, f.data, lo.dev.index⟩ ∧
      (udpReceive [ipProtocolTcp, ipProtocolUdp] ifaces f.data pcbs 0).queue = [⟨src, data⟩] := by
  intro src dst data bytes iface routes lo links ifaces st pcbs
  have hroute : ipOutputRoute (fun d => (links d).dev.mtu) routes bytes.length src.addr dst.addr =
      .ok (.core iface dst.addr) := by decide
  have hi : ipInputIface ifaces dst.addr = some iface.addrs := by decide
  obtain ⟨f, hout, htype, hdev, htx, hlast, hudp⟩ := udpOutput_loopback_delivers links routes
    (fun _ => -1) st (fun _ => Nat.le_refl _) src dst data bytes rfl 0 hroute rfl (by decide) lo
    (LoopbackSystem.step_inv (LoopbackSystem.init_inv 0 _) .open) rfl rfl rfl (by decide)
    [ipProtocolTcp, ipProtocolUdp] (by decide) ifaces hi pcbs
  exact ⟨f, hout, htype, hdev, htx, hlast, by rw [hudp]; decide⟩

end MicroPs.Net
