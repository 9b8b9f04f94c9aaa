/-
# Sending a datagram

`ip_output` routes the destination and checks the source address and the
device's MTU (`MicroPs.Net.Route`), takes an ID from `ip_generate_id`, and has
`ip_output_core` build the datagram (`MicroPs.Net.Ip`) and pass it to
`ip_output_device`. That function finds the next hop's hardware address: the
link's broadcast address for a broadcast destination, `arp_resolve`'s answer
otherwise, and none for a device without ARP. It then calls
`net_device_output`, which checks that the device is up and that the frame
fits its MTU before the driver's `transmit` (`MicroPs.Net.Loopback`).

Every datagram `ip_output` hands to a driver is the one `ip_output_core`
builds from the call's payload, with the routed interface's address as its
source, and `net_device_output`'s MTU check never refuses it: `ip_output`
checked the same bound, and a device's MTU is 16 bits wide. The IDs are the
values of one counter that starts at 128 and goes up by one, modulo `2^16`,
at each call that passes the checks, whether or not a frame leaves.

`arp.h` is not among the sources, so the value `ip_output_device` returns for
an answer of `arp_resolve` other than `FOUND` is a parameter `code`; the
driver's answer is an input of each call.
-/

import MicroPs.Net.Route
import MicroPs.Net.Loopback
import MicroPs.Arp.Cache

namespace MicroPs.Net

open MicroPs.Arp MicroPs.Tcp

/-- `ip_generate_id`: the value of the counter, which `id++` moves on by one
modulo `2^16`. -/
def ipGenerateId (id : BitVec 16) : BitVec 16 × BitVec 16 := (id, id + 1)

/-- The counter's first value, `static uint16_t id = 128`. -/
def ipIdInit : BitVec 16 := 128

/-- `NET_PROTOCOL_TYPE_IP`. -/
def netProtocolTypeIp : BitVec 16 := 0x0800

/-- What `ip_output` and `ip_output_device` read of a device besides what
`net_device_output` reads: `NET_DEVICE_FLAG_NEED_ARP`, the broadcast
hardware address, and whether `arp_resolve` takes the device for Ethernet
with an IP interface. -/
structure IpLink where
  dev : NetDevice
  needArp : Bool
  broadcast : EtherAddr
  ethernetIp : Bool

/-- `ip_output_device` up to `net_device_output`: the hardware address of the
next hop `dst` (zero for a device without ARP), or the answer of
`arp_resolve` that it returns instead. -/
def ipOutputDevice (link : IpLink) (ifaceBroadcast : BitVec 32) (caches : ArpCaches) (now : Int)
    (dst : BitVec 32) : ArpCaches × Except ArpResolveResult EtherAddr :=
  if link.needArp then
    if dst = ifaceBroadcast ∨ dst = ipAddrBroadcast then (caches, .ok link.broadcast)
    else
      let r := arpResolve link.ethernetIp caches dst now
      match r.2 with
      | .found ha => (r.1, .ok ha)
      | res => (r.1, .error res)
  else (caches, .ok fun _ => 0)

/-- A frame `net_device_output` hands to a driver's `transmit`: the device,
the type, the bytes and the destination hardware address. -/
structure NetFrameOut where
  dev : Nat
  type : BitVec 16
  data : List Byte
  dst : EtherAddr

/-- The state `ip_output` reads and writes: the counter of `ip_generate_id`
and the ARP cache. -/
structure IpOutputState where
  id : BitVec 16
  caches : ArpCaches

/-- A call of `ip_output` with what it meets: the time `arp_resolve` reads
and the driver's answer to `transmit`. -/
structure IpOutputCall where
  protocol : BitVec 8
  data : List Byte
  src : BitVec 32
  dst : BitVec 32
  now : Int
  txRet : Int

/-- `ip_output_core` from the datagram it builds, with `ip_output_device`
and `net_device_output`: the ARP cache, the value `ip_output_core` returns,
and the frame handed to the driver, if any. `code` is the value
`ip_output_device` returns for an answer of `arp_resolve` other than
`FOUND`. -/
def ipOutputCoreSend (link : IpLink) (iface : IpIfaceEntry) (code : ArpResolveResult → Int)
    (c : IpOutputCall) (id : BitVec 16) (caches : ArpCaches) (nexthop : BitVec 32) :
    ArpCaches × Int × Option NetFrameOut :=
  let datagram := ipOutputCore c.protocol c.data iface.addrs.unicast c.dst id 0
  match ipOutputDevice link iface.addrs.broadcast caches c.now nexthop with
  | (caches, .error res) => (caches, code res, none)
  | (caches, .ok ha) =>
    let (frame, ret) := netDeviceOutput link.dev datagram.length
      (fun _ => (some ⟨iface.dev, netProtocolTypeIp, datagram, ha⟩, c.txRet)) none
    (caches, ret, frame)

/-- `ip_output`: the new state, its return value, the ID it took if it got
that far, and the frame handed to the driver, if any. -/
def ipOutput (links : Nat → IpLink) (routes : List IpRoute) (code : ArpResolveResult → Int)
    (c : IpOutputCall) (st : IpOutputState) :
    Faulting (IpOutputState × Int × Option (BitVec 16) × Option NetFrameOut) :=
  match ipOutputRoute (fun d => (links d).dev.mtu) routes c.data.length c.src c.dst with
  | .fault field => .fault field
  | .ok (.error _) => .ok (st, -1, none, none)
  | .ok (.core iface nexthop) =>
    let (id, counter) := ipGenerateId st.id
    let r := ipOutputCoreSend (links iface.dev) iface code c id st.caches nexthop
    .ok (⟨counter, r.1⟩, if r.2.1 = -1 then -1 else c.data.length, some id, r.2.2)

/-- `ip_output` calls one after another from startup; a fault ends the run.
The log holds, per call, the ID it took and the frame it handed over. -/
def ipOutputRun (links : Nat → IpLink) (routes : List IpRoute) (code : ArpResolveResult → Int) :
    List IpOutputCall → IpOutputState →
      IpOutputState × List (Option (BitVec 16) × Option NetFrameOut)
  | [], st => (st, [])
  | c :: calls, st =>
    match ipOutput links routes code c st with
    | .fault _ => (st, [])
    | .ok (st', _, id, frame) =>
      let r := ipOutputRun links routes code calls st'
      (r.1, (id, frame) :: r.2)

/-! ## What one call sends -/

/-- Past the checks of `ip_output`, the payload and the header fit the
device's MTU. -/
theorem ipOutputRoute_core_mtu {mtu : Nat → Nat} {routes : List IpRoute} {len : Nat}
    {src dst : BitVec 32} {iface : IpIfaceEntry} {nexthop : BitVec 32}
    (h : ipOutputRoute mtu routes len src dst = .ok (.core iface nexthop)) :
    ipHdrSizeMin + len ≤ mtu iface.dev := by
  unfold ipOutputRoute at h
  split_ifs at h
  · cases h
  split at h
  · cases h
  · cases h
  · dsimp only at h
    split_ifs at h with h₁ h₂ <;>
      simp only [Faulting.ok.injEq, IpOutputRoute.core.injEq, reduceCtorEq] at h <;>
      (obtain ⟨rfl, -⟩ := h; omega)

/-- The ID `ip_output_core` writes sits at offset 4, in network order. -/
theorem ipHdrBytes_read_id (protocol : BitVec 8) (total id offset sum : BitVec 16)
    (src dst : BitVec 32) (rest : List Byte) :
    read16 (ipHdrBytes protocol total id offset sum src dst ++ rest) 4 = hton16 id := by
  simp only [ipHdrBytes, mem16, mem32, read16, List.cons_append, List.nil_append,
    List.append_assoc, List.getD_cons_succ, List.getD_cons_zero, load16_bytes]

/-- A datagram of `ip_output_core` within `IP_TOTAL_SIZE_MAX` carries its ID. -/
theorem ipOutputCore_read_id {protocol : BitVec 8} {data : List Byte}
    (hlen : ipHdrSizeMin + data.length ≤ ipTotalSizeMax) (src dst : BitVec 32)
    (id offset : BitVec 16) :
    ntoh16 (read16 (ipOutputCore protocol data src dst id offset) 4) = id := by
  rw [(ipOutputCore_eq hlen src dst id offset).1, ipHdrBytes_read_id, ntoh16_hton16]

section Send

variable {link : IpLink} {iface : IpIfaceEntry} {code : ArpResolveResult → Int} {c : IpOutputCall}
  {id : BitVec 16} {caches : ArpCaches} {nexthop : BitVec 32}

/-- A frame handed to the driver is the datagram of `ip_output_core`, of type
IP, for the interface's device and the hardware address
`ip_output_device` found. -/
theorem ipOutputCoreSend_frame {f : NetFrameOut}
    (hf : f ∈ (ipOutputCoreSend link iface code c id caches nexthop).2.2) :
    f.dev = iface.dev ∧ f.type = netProtocolTypeIp ∧
      f.data = ipOutputCore c.protocol c.data iface.addrs.unicast c.dst id 0 ∧
      (ipOutputDevice link iface.addrs.broadcast caches c.now nexthop).2 = .ok f.dst := by
  unfold ipOutputCoreSend at hf
  rcases hw : ipOutputDevice link iface.addrs.broadcast caches c.now nexthop with
    ⟨caches', res | ha⟩
  · simp [hw] at hf
  · simp only [hw, netDeviceOutput] at hf
    split_ifs at hf <;> simp at hf <;> subst hf <;> exact ⟨rfl, rfl, rfl, rfl⟩

theorem ipOutputCoreSend_caches :
    (ipOutputCoreSend link iface code c id caches nexthop).1 =
      (ipOutputDevice link iface.addrs.broadcast caches c.now nexthop).1 := by
  unfold ipOutputCoreSend
  rcases ipOutputDevice link iface.addrs.broadcast caches c.now nexthop with ⟨caches', res | ha⟩
  · rfl
  · rfl

/-- When the datagram fits the device's MTU, a frame leaves exactly when the
hardware address is known and the device is up, and then `ip_output_core`
fails exactly when the driver does. -/
theorem ipOutputCoreSend_sent
    (hfit : (ipOutputCore c.protocol c.data iface.addrs.unicast c.dst id 0).length ≤
      link.dev.mtu) :
    ((ipOutputCoreSend link iface code c id caches nexthop).2.2.isSome ↔
        (ipOutputDevice link iface.addrs.broadcast caches c.now nexthop).2.toOption.isSome ∧
          link.dev.up) ∧
      ((ipOutputCoreSend link iface code c id caches nexthop).2.2.isSome →
        ((ipOutputCoreSend link iface code c id caches nexthop).2.1 = -1 ↔ c.txRet = -1)) := by
  unfold ipOutputCoreSend
  generalize ipOutputCore c.protocol c.data iface.addrs.unicast c.dst id 0 = datagram at hfit ⊢
  rcases hw : ipOutputDevice link iface.addrs.broadcast caches c.now nexthop with
    ⟨caches', res | ha⟩
  · simp [hw, Except.toOption]
  · have : ¬ link.dev.mtu < datagram.length := Nat.not_lt.2 hfit
    cases hup : link.dev.up
    · simp [hw, netDeviceOutput, hup, Except.toOption]
    · by_cases htx : c.txRet = -1 <;> simp [hw, netDeviceOutput, hup, this, htx, Except.toOption]

end Send

/-- Past its checks, `ip_output` builds a datagram of `20 + len` bytes, which
fits the device's MTU and carries the ID. -/
theorem ipOutputRoute_core_datagram {links : Nat → IpLink} {routes : List IpRoute}
    {c : IpOutputCall} (hmtu : ∀ d, (links d).dev.mtu ≤ ipTotalSizeMax) {iface : IpIfaceEntry}
    {nexthop : BitVec 32}
    (hroute : ipOutputRoute (fun d => (links d).dev.mtu) routes c.data.length c.src c.dst =
      .ok (.core iface nexthop)) (id : BitVec 16) :
    (ipOutputCore c.protocol c.data iface.addrs.unicast c.dst id 0).length =
        ipHdrSizeMin + c.data.length ∧
      ipHdrSizeMin + c.data.length ≤ (links iface.dev).dev.mtu ∧
      ntoh16 (read16 (ipOutputCore c.protocol c.data iface.addrs.unicast c.dst id 0) 4) = id := by
  have hlen := ipOutputRoute_core_mtu hroute
  have hmax := hlen.trans (hmtu iface.dev)
  refine ⟨?_, hlen, ipOutputCore_read_id hmax _ _ _ _⟩
  rw [(ipOutputCore_eq hmax iface.addrs.unicast c.dst id 0).1]
  simp [ipHdrSizeMin]

/-- Past its checks, `ip_output` takes the counter's value as the ID, moves
the counter on, and returns what `ip_output_core` does with that ID. -/
theorem ipOutput_of_core {links : Nat → IpLink} {routes : List IpRoute}
    {code : ArpResolveResult → Int} {c : IpOutputCall} (st : IpOutputState) {iface : IpIfaceEntry}
    {nexthop : BitVec 32}
    (hroute : ipOutputRoute (fun d => (links d).dev.mtu) routes c.data.length c.src c.dst =
      .ok (.core iface nexthop)) :
    let r := ipOutputCoreSend (links iface.dev) iface code c st.id st.caches nexthop
    ipOutput links routes code c st =
      .ok (⟨st.id + 1, (ipOutputDevice (links iface.dev) iface.addrs.broadcast st.caches c.now
        nexthop).1⟩, if r.2.1 = -1 then -1 else c.data.length, some st.id, r.2.2) := by
  simp [ipOutput, hroute, ipGenerateId, ipOutputCoreSend_caches]

/-- One call of `ip_output` past its route, source and MTU checks, on devices
whose MTU is 16 bits wide: it takes the counter's value as the ID and moves
the counter on; a frame leaves exactly when the next hop's hardware address is
known and the device is up, so `net_device_output` never refuses it for its
size; the frame is the datagram `ip_output_core` builds from the call's
payload with the routed interface's address as source, `20 + len` bytes long,
for that interface's device and the hardware address found; and the call
returns `len` exactly when the driver accepts the frame. -/
theorem ipOutput_frame (links : Nat → IpLink) (routes : List IpRoute)
    (code : ArpResolveResult → Int) (c : IpOutputCall) (st : IpOutputState)
    (hmtu : ∀ d, (links d).dev.mtu ≤ ipTotalSizeMax) {iface : IpIfaceEntry}
    {nexthop : BitVec 32}
    (hroute : ipOutputRoute (fun d => (links d).dev.mtu) routes c.data.length c.src c.dst =
      .ok (.core iface nexthop)) :
    let hw := ipOutputDevice (links iface.dev) iface.addrs.broadcast st.caches c.now nexthop
    ∃ ret frame,
      ipOutput links routes code c st = .ok (⟨st.id + 1, hw.1⟩, ret, some st.id, frame) ∧
      (frame.isSome ↔ hw.2.toOption.isSome ∧ (links iface.dev).dev.up) ∧
      ∀ f ∈ frame, f.dev = iface.dev ∧ f.type = netProtocolTypeIp ∧ hw.2 = .ok f.dst ∧
        f.data = ipOutputCore c.protocol c.data iface.addrs.unicast c.dst st.id 0 ∧
        f.data.length = ipHdrSizeMin + c.data.length ∧
        (ret = c.data.length ↔ c.txRet ≠ -1) := by
  intro hw
  obtain ⟨hdlen, hfit, -⟩ := ipOutputRoute_core_datagram hmtu hroute st.id
  obtain ⟨hsent, hret⟩ :=
    @ipOutputCoreSend_sent (links iface.dev) iface code c st.id st.caches nexthop (hdlen ▸ hfit)
  refine ⟨_, _, ipOutput_of_core st hroute, hsent, ?_⟩
  intro f hf
  obtain ⟨h₁, h₂, h₃, h₄⟩ := ipOutputCoreSend_frame hf
  refine ⟨h₁, h₂, h₄, h₃, h₃ ▸ hdlen, ?_⟩
  rw [ne_eq, ← hret (Option.isSome_iff_exists.2 ⟨f, hf⟩)]
  split_ifs <;> simp_all

/-- Three bytes of UDP to `0.0.0.2` over a device without ARP and a default
route, at startup. -/
theorem ipOutput_frame_default :
    let links : Nat → IpLink := fun _ => ⟨⟨0, 65535, true⟩, false, fun _ => 0xff, false⟩
    let iface : IpIfaceEntry := ⟨0, 0, ⟨1, 0xffffffff⟩⟩
    let c : IpOutputCall := ⟨17, [1, 2, 3], 0, 2, 0, 0⟩
    let st : IpOutputState := ⟨ipIdInit, fun _ => ArpCache.zero⟩
    let hw := ipOutputDevice (links iface.dev) iface.addrs.broadcast st.caches c.now 2
    ∃ ret frame, ipOutput links [⟨0, 0, 0, iface⟩] (fun _ => -1) c st =
        .ok (⟨st.id + 1, hw.1⟩, ret, some st.id, frame) ∧
      (frame.isSome ↔ hw.2.toOption.isSome ∧ (links iface.dev).dev.up) ∧
      ∀ f ∈ frame, f.dev = iface.dev ∧ f.type = netProtocolTypeIp ∧ hw.2 = .ok f.dst ∧
        f.data = ipOutputCore c.protocol c.data iface.addrs.unicast c.dst st.id 0 ∧
        f.data.length = ipHdrSizeMin + c.data.length ∧ (ret = c.data.length ↔ c.txRet ≠ -1) :=
  ipOutput_frame _ _ _ _ _ (fun _ => by decide) (by decide)

/-! ## The IDs over a run -/

/-- What one call does to the counter: nothing when it faults or fails a
check before `ip_generate_id`; otherwise it takes the counter's value, moves
the counter on, and its frame, if any, carries that ID. -/
theorem ipOutput_cases (links : Nat → IpLink) (routes : List IpRoute)
    (code : ArpResolveResult → Int) (hmtu : ∀ d, (links d).dev.mtu ≤ ipTotalSizeMax)
    (c : IpOutputCall) (st : IpOutputState) :
    (∃ field, ipOutput links routes code c st = .fault field) ∨
      ipOutput links routes code c st = .ok (st, -1, none, none) ∨
      ∃ st' ret frame, ipOutput links routes code c st = .ok (st', ret, some st.id, frame) ∧
        st'.id = st.id + 1 ∧ ∀ f ∈ frame, ntoh16 (read16 f.data 4) = st.id := by
  unfold ipOutput
  rcases hroute : ipOutputRoute (fun d => (links d).dev.mtu) routes c.data.length c.src c.dst with
    (msg | ⟨iface, nexthop⟩) | field
  · exact .inr (.inl rfl)
  · refine .inr (.inr ⟨_, _, _, rfl, rfl, fun f hf => ?_⟩)
    obtain ⟨-, -, hdata, -⟩ := ipOutputCoreSend_frame hf
    exact hdata ▸ (ipOutputRoute_core_datagram hmtu hroute st.id).2.2
  · exact .inl ⟨field, rfl⟩

theorem map_range_succ_add (a : BitVec 16) (n : Nat) :
    (List.range (n + 1)).map (fun k => a + BitVec.ofNat 16 k) =
      a :: (List.range n).map (fun k => (a + 1) + BitVec.ofNat 16 k) := by
  simp only [List.range_succ_eq_map, List.map_cons, List.map_map]
  congr 1
  · simp
  · apply List.map_congr_left
    intro k _
    simp only [Function.comp, Nat.succ_eq_add_one, BitVec.ofNat_add]
    rw [BitVec.add_assoc, BitVec.add_comm (BitVec.ofNat 16 k)]
    rfl

/-- Over any sequence of `ip_output` calls on devices whose MTU is 16 bits
wide, from any value of the counter (128 at startup) and until a call faults:
the calls that pass the route, source and MTU checks take the IDs `id`,
`id + 1`, `id + 2`, … modulo `2^16`, in order, whether or not a frame leaves;
and every frame handed to a driver carries in its header's ID field the ID
its call took. -/
theorem ipOutputRun_ids (links : Nat → IpLink) (routes : List IpRoute)
    (code : ArpResolveResult → Int) (hmtu : ∀ d, (links d).dev.mtu ≤ ipTotalSizeMax)
    (calls : List IpOutputCall) (st : IpOutputState) :
    let log := (ipOutputRun links routes code calls st).2
    log.filterMap (·.1) =
        (List.range (log.filterMap (·.1)).length).map (fun k => st.id + BitVec.ofNat 16 k) ∧
      ∀ e ∈ log, ∀ f ∈ e.2, e.1 = some (ntoh16 (read16 f.data 4)) := by
  induction calls generalizing st with
  | nil => simp [ipOutputRun]
  | cons c calls ih =>
    rcases ipOutput_cases links routes code hmtu c st with
      ⟨field, h⟩ | h | ⟨st', ret, frame, h, hid, hframe⟩
    · simp [ipOutputRun, h]
    · obtain ⟨ih₁, ih₂⟩ := ih st
      simp only [ipOutputRun, h, List.filterMap_cons, List.mem_cons, forall_eq_or_imp]
      exact ⟨ih₁, fun f hf => absurd hf (by simp), ih₂⟩
    · obtain ⟨ih₁, ih₂⟩ := ih st'
      simp only [ipOutputRun, h, List.filterMap_cons, List.mem_cons, forall_eq_or_imp,
        List.length_cons, map_range_succ_add, ← hid]
      exact ⟨congrArg _ ih₁, fun f hf => by rw [hframe f hf], ih₂⟩

/-- Two calls at startup over that device and route. -/
theorem ipOutputRun_ids_default :
    let links : Nat → IpLink := fun _ => ⟨⟨0, 65535, true⟩, false, fun _ => 0xff, false⟩
    let calls : List IpOutputCall := [⟨17, [1, 2, 3], 0, 2, 0, 0⟩, ⟨6, [], 0, 3, 1, -1⟩]
    let st : IpOutputState := ⟨ipIdInit, fun _ => ArpCache.zero⟩
    let routes : List IpRoute := [⟨0, 0, 0, ⟨0, 0, ⟨1, 0xffffffff⟩⟩⟩]
    let log := (ipOutputRun links routes (fun _ => -1) calls st).2
    log.filterMap (·.1) =
        (List.range (log.filterMap (·.1)).length).map (fun k => st.id + BitVec.ofNat 16 k) ∧
      ∀ e ∈ log, ∀ f ∈ e.2, e.1 = some (ntoh16 (read16 f.data 4)) :=
  ipOutputRun_ids _ _ _ (fun _ => by decide) _ _

end MicroPs.Net
