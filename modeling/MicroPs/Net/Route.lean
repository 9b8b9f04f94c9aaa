/-
# Interfaces and routes

Before `net_run` a program allocates an IP interface for each device with
`ip_iface_alloc`, binds it with `ip_iface_register`, and may add a default
route with `ip_route_set_default_gateway`. Registration puts the interface's
own network route in front of the route list and the interface in front of
the global interface list, so both lists are newest first.

`ip_route_lookup` keeps the matching route with the largest netmask in host
order, the first of equals, which for contiguous netmasks is the longest
prefix. When no route matches, the log line after its loop reads
`candidate->network` through a null `candidate`: the `NULL` that
`ip_route_get_iface` and `ip_output` test for is never returned.

`ip_input` starts its destination loop at the receiving device's interface
and follows `ip_iface.next`, the link of the global list, so it also tries
every interface registered before the device's own, whatever their device.
-/

import MicroPs.Net.Addr
import MicroPs.Net.Ip

namespace MicroPs.Net

open MicroPs.Tcp

/-! ## The lists registration builds -/

/-- A registered `struct ip_iface`: the device `net_device_add_iface` bound it
to, its netmask, and the two addresses `ip_input` compares. -/
structure IpIfaceEntry where
  dev : Nat
  netmask : BitVec 32
  addrs : IpIface
  deriving DecidableEq, Repr

/-- `struct ip_route`, with the interface it sends through. -/
structure IpRoute where
  network : BitVec 32
  netmask : BitVec 32
  nexthop : BitVec 32
  iface : IpIfaceEntry
  deriving DecidableEq, Repr

/-- The global lists `ifaces`, linked by `ip_iface.next`, and `routes`, both
newest first. -/
structure IpSetup where
  ifaces : List IpIfaceEntry
  routes : List IpRoute
  deriving DecidableEq, Repr

/-- The lists before any registration. -/
def IpSetup.empty : IpSetup := ⟨[], []⟩

/-- `ip_iface_alloc`: the netmask, and the unicast address with the broadcast
address `(unicast & netmask) | ~netmask`, both read with `ip_addr_pton`. -/
def ipIfaceAlloc (unicast netmask : List Char) : Option (BitVec 32 × IpIface) := do
  let u ← ipAddrPton unicast
  let m ← ipAddrPton netmask
  pure (m, ⟨u, (u &&& m) ||| ~~~m⟩)

/-- `ip_iface_register`: `net_device_add_iface` refuses a device that has an
interface of the family already; otherwise `ip_route_add` puts the route to
the interface's network in front of `routes`, and the interface goes in front
of `ifaces`. -/
def ipIfaceRegister (s : IpSetup) (dev : Nat) (netmask : BitVec 32) (addrs : IpIface) :
    Option IpSetup :=
  if s.ifaces.any (·.dev == dev) then none
  else
    let iface : IpIfaceEntry := ⟨dev, netmask, addrs⟩
    some ⟨iface :: s.ifaces, ⟨addrs.unicast, netmask, ipAddrAny, iface⟩ :: s.routes⟩

/-- `ip_route_set_default_gateway`: the route to `0.0.0.0/0` through
`gateway`. -/
def ipRouteSetDefaultGateway (s : IpSetup) (iface : IpIfaceEntry) (gateway : List Char) :
    Option IpSetup := do
  let gw ← ipAddrPton gateway
  pure { s with routes := ⟨ipAddrAny, ipAddrAny, gw, iface⟩ :: s.routes }

/-- A setup call of a test program: `ip_iface_alloc` and `ip_iface_register`
on a device, or `ip_route_set_default_gateway` on the interface registered
last. -/
inductive IpSetupCall
  | register (dev : Nat) (unicast netmask : List Char)
  | defaultGateway (gateway : List Char)
  deriving DecidableEq, Repr

/-- The setup calls in order; a failed one ends the program. -/
def IpSetup.run : IpSetup → List IpSetupCall → Option IpSetup
  | s, [] => some s
  | s, .register dev unicast netmask :: calls => do
    let (m, addrs) ← ipIfaceAlloc unicast netmask
    let s' ← ipIfaceRegister s dev m addrs
    s'.run calls
  | s, .defaultGateway gateway :: calls => do
    let iface ← s.ifaces.head?
    let s' ← ipRouteSetDefaultGateway s iface gateway
    s'.run calls

/-! ## Route lookup -/

/-- `dst` lies in the route's network: `(dst & netmask) == (network & netmask)`. -/
def IpRoute.Contains (r : IpRoute) (dst : BitVec 32) : Prop :=
  dst &&& r.netmask = r.network &&& r.netmask

instance (r : IpRoute) (dst : BitVec 32) : Decidable (r.Contains dst) :=
  inferInstanceAs (Decidable (_ = _))

/-- The loop of `ip_route_lookup`: a route that contains `dst` replaces the
candidate when there is none or the candidate's netmask, in host order, is
smaller. -/
def ipRouteLookupLoop (dst : BitVec 32) : List IpRoute → Option IpRoute → Option IpRoute
  | [], candidate => candidate
  | route :: rest, candidate =>
    ipRouteLookupLoop dst rest
      (if route.Contains dst ∧ candidate.all (fun c => ntoh32 c.netmask < ntoh32 route.netmask)
        then some route else candidate)

/-- What a call that may read through a null pointer does: return its value,
or fault on the field it reads. -/
inductive Faulting (α : Type) where
  | ok (a : α)
  | fault (field : String)
  deriving DecidableEq, Repr

/-- `ip_route_lookup`: the candidate the loop leaves. The log line after the
loop reads `candidate->network` before the candidate is returned. -/
def ipRouteLookup (routes : List IpRoute) (dst : BitVec 32) : Faulting (Option IpRoute) :=
  let candidate := ipRouteLookupLoop dst routes none
  if candidate.isNone then .fault "candidate->network" else .ok candidate

/-- `ip_route_get_iface`: the interface of the route `ip_route_lookup` finds,
or `NULL` for no route. -/
def ipRouteGetIface (routes : List IpRoute) (dst : BitVec 32) : Faulting (Option IpIfaceEntry) :=
  match ipRouteLookup routes dst with
  | .fault field => .fault field
  | .ok none => .ok none
  | .ok (some route) => .ok (some route.iface)

/-- How `ip_output` goes on after its routing: it returns `-1` with the
message it logs, or calls `ip_output_core` on an interface, with the
interface's address as the source, towards a nexthop. -/
inductive IpOutputRoute
  | error (msg : String)
  | core (iface : IpIfaceEntry) (nexthop : BitVec 32)
  deriving DecidableEq, Repr

/-- `ip_output` of `len` bytes up to its call of `ip_output_core`; `mtu`
gives each device's MTU. -/
def ipOutputRoute (mtu : Nat → Nat) (routes : List IpRoute) (len : Nat) (src dst : BitVec 32) :
    Faulting IpOutputRoute :=
  if src = ipAddrAny ∧ dst = ipAddrBroadcast then .ok (.error "ip routing does not implement")
  else match ipRouteLookup routes dst with
    | .fault field => .fault field
    | .ok none => .ok (.error "no route to host")
    | .ok (some route) =>
      let iface := route.iface
      if src ≠ ipAddrAny ∧ src ≠ iface.addrs.unicast then
        .ok (.error "unable to output with specified source address")
      else
        let nexthop := if route.nexthop ≠ ipAddrAny then route.nexthop else dst
        if mtu iface.dev < ipHdrSizeMin + len then .ok (.error "too long")
        else .ok (.core iface nexthop)

section Lookup

variable {dst : BitVec 32}

/-- The loop ends without a candidate exactly when it starts without one and
no route contains `dst`. -/
theorem ipRouteLookupLoop_eq_none :
    ∀ (routes : List IpRoute) (c : Option IpRoute),
      ipRouteLookupLoop dst routes c = none ↔ c = none ∧ ∀ r ∈ routes, ¬ r.Contains dst
  | [], c => by simp [ipRouteLookupLoop]
  | route :: rest, c => by
    rw [ipRouteLookupLoop, ipRouteLookupLoop_eq_none rest]
    cases c <;> by_cases h : route.Contains dst <;> simp [h]
    split_ifs <;> simp

/-- The route the loop ends with is its starting candidate or a route that
contains `dst`, and no route that contains `dst`, nor the starting
candidate, has a larger netmask in host order. -/
theorem ipRouteLookupLoop_eq_some :
    ∀ (routes : List IpRoute) (c : Option IpRoute) {r : IpRoute},
      ipRouteLookupLoop dst routes c = some r →
        (c = some r ∨ r ∈ routes ∧ r.Contains dst) ∧
        (∀ r' ∈ routes, r'.Contains dst → ntoh32 r'.netmask ≤ ntoh32 r.netmask) ∧
        ∀ c' ∈ c, ntoh32 c'.netmask ≤ ntoh32 r.netmask
  | [], c, r, h => by
    cases h
    exact ⟨.inl rfl, by simp, fun c' hc' => by cases hc'; exact BitVec.le_refl _⟩
  | route :: rest, c, r, h => by
    obtain ⟨horigin, hrest, hcand⟩ := ipRouteLookupLoop_eq_some rest _ h
    simp only [List.forall_mem_cons]
    split_ifs at horigin hcand with hrep
    · -- `route` became the candidate
      have hroute := hcand route rfl
      refine ⟨.inr ?_, ⟨fun _ => hroute, hrest⟩, fun c' hc' => ?_⟩
      · rcases horigin with h | ⟨hmem, hr⟩
        · obtain rfl := Option.some.inj h
          exact ⟨List.mem_cons_self _ _, hrep.1⟩
        · exact ⟨List.mem_cons_of_mem _ hmem, hr⟩
      · have hlt := hrep.2
        simp only [Option.mem_def.1 hc', Option.all_some, decide_eq_true_eq] at hlt
        bv_omega
    · -- the candidate stayed, and beats `route` if `route` contains `dst`
      refine ⟨horigin.imp_right fun ⟨hmem, hr⟩ => ⟨List.mem_cons_of_mem _ hmem, hr⟩,
        ⟨fun hc => ?_, hrest⟩, hcand⟩
      cases c with
      | none => exact absurd ⟨hc, rfl⟩ hrep
      | some c =>
        have hle := hcand c rfl
        simp only [hc, Option.all_some, decide_eq_true_eq, true_and, BitVec.not_lt] at hrep
        bv_omega

/-- `ip_route_lookup` never returns `NULL`: it faults exactly when no route
contains `dst`. -/
theorem ipRouteLookup_fault_iff (routes : List IpRoute) :
    (∀ field, ipRouteLookup routes dst = .fault field → field = "candidate->network") ∧
    (ipRouteLookup routes dst = .fault "candidate->network" ↔ ∀ r ∈ routes, ¬ r.Contains dst) ∧
    ipRouteLookup routes dst ≠ .ok none := by
  have hnone := @ipRouteLookupLoop_eq_none dst routes none
  simp only [true_and] at hnone
  unfold ipRouteLookup
  cases h : ipRouteLookupLoop dst routes none <;> simp_all

/-- A route `ip_route_lookup` returns is in the table, contains `dst`, and no
route that contains `dst` has a larger netmask in host order. -/
theorem ipRouteLookup_eq_some {routes : List IpRoute} {r : IpRoute}
    (h : ipRouteLookup routes dst = .ok (some r)) :
    r ∈ routes ∧ r.Contains dst ∧
      ∀ r' ∈ routes, r'.Contains dst → ntoh32 r'.netmask ≤ ntoh32 r.netmask := by
  unfold ipRouteLookup at h
  dsimp only at h
  split_ifs at h
  obtain ⟨horigin, hmax, -⟩ := ipRouteLookupLoop_eq_some routes none (Faulting.ok.inj h)
  obtain ⟨hmem, hr⟩ := horigin.resolve_left (by simp)
  exact ⟨hmem, hr, hmax⟩

end Lookup

/-! ## Contiguous netmasks -/

/-- Modelled from the spec: the netmask of a `/p` network, its first `p` bits
set in host order, as it is stored. -/
def ipNetmaskOfPrefix (p : Nat) : BitVec 32 := hton32 (BitVec.ofNat 32 (2 ^ 32 - 2 ^ (32 - p)))

/-- For contiguous netmasks, host order is the order of prefix lengths. -/
theorem ipNetmaskOfPrefix_le_iff {p q : Nat} (hp : p ≤ 32) (hq : q ≤ 32) :
    ntoh32 (ipNetmaskOfPrefix p) ≤ ntoh32 (ipNetmaskOfPrefix q) ↔ p ≤ q := by
  have hpow : ∀ k ≤ 32, 0 < 2 ^ (32 - k) ∧ 2 ^ (32 - k) ≤ 2 ^ 32 :=
    fun k _ => ⟨Nat.two_pow_pos _, Nat.pow_le_pow_right (by decide) (by omega)⟩
  have hmono := @Nat.pow_le_pow_iff_right 2 (32 - q) (32 - p) (by decide)
  obtain ⟨hp₀, hp₁⟩ := hpow p hp
  obtain ⟨hq₀, hq₁⟩ := hpow q hq
  simp only [ipNetmaskOfPrefix, ntoh32_hton32, BitVec.le_def, BitVec.toNat_ofNat]
  rw [Nat.mod_eq_of_lt (by omega), Nat.mod_eq_of_lt (by omega)]
  omega

section Users

variable {routes : List IpRoute} {dst : BitVec 32}

/-- `ip_route_get_iface` faults exactly when `ip_route_lookup` does. -/
theorem ipRouteGetIface_fault_iff :
    ipRouteGetIface routes dst = .fault "candidate->network" ↔
      ipRouteLookup routes dst = .fault "candidate->network" := by
  unfold ipRouteGetIface
  split <;> simp_all

/-- Past its broadcast check, `ip_output` faults exactly when
`ip_route_lookup` does. -/
theorem ipOutputRoute_fault_iff (mtu : Nat → Nat) (len : Nat) {src : BitVec 32}
    (h : ¬(src = ipAddrAny ∧ dst = ipAddrBroadcast)) :
    ipOutputRoute mtu routes len src dst = .fault "candidate->network" ↔
      ipRouteLookup routes dst = .fault "candidate->network" := by
  unfold ipOutputRoute
  rw [if_neg h]
  split
  · simp_all
  · simp_all
  · simp only [*, reduceCtorEq, iff_false]
    split_ifs <;> simp

end Users

/-- In every table `ip_route_lookup` returns a route that contains `dst` and
whose netmask is the largest in host order, which for contiguous netmasks is
the longest prefix. When no route contains `dst` it faults, and so do
`ip_route_get_iface` and `ip_output`: the `NULL` they test for never comes.
With only the loopback interface registered, as in a program without a
default gateway, a lookup of 10.0.0.1 takes that path. -/
theorem ipRouteLookup_faults_without_route :
    (∀ (routes : List IpRoute) (dst : BitVec 32) (r : IpRoute),
      ipRouteLookup routes dst = .ok (some r) →
        r ∈ routes ∧ r.Contains dst ∧ ∀ r' ∈ routes, r'.Contains dst →
          ntoh32 r'.netmask ≤ ntoh32 r.netmask ∧
          ∀ p q, p ≤ 32 → q ≤ 32 → r.netmask = ipNetmaskOfPrefix p →
            r'.netmask = ipNetmaskOfPrefix q → q ≤ p) ∧
    (∀ (routes : List IpRoute) (dst : BitVec 32),
      ipRouteLookup routes dst ≠ .ok none ∧
      (ipRouteLookup routes dst = .fault "candidate->network" ↔
        ∀ r ∈ routes, ¬ r.Contains dst) ∧
      (ipRouteGetIface routes dst = .fault "candidate->network" ↔
        ∀ r ∈ routes, ¬ r.Contains dst) ∧
      ∀ (mtu : Nat → Nat) (len : Nat) (src : BitVec 32),
        ¬(src = ipAddrAny ∧ dst = ipAddrBroadcast) →
          (ipOutputRoute mtu routes len src dst = .fault "candidate->network" ↔
            ∀ r ∈ routes, ¬ r.Contains dst)) ∧
    let s : Option IpSetup :=
      IpSetup.run IpSetup.empty [.register 0 "127.0.0.1".toList "255.0.0.0".toList]
    s.map (fun s => ipRouteGetIface s.routes (load32 10 0 0 1)) =
        some (.fault "candidate->network") ∧
      s.map (fun s => ipOutputRoute (fun _ => 65535) s.routes 0 ipAddrAny (load32 10 0 0 1)) =
        some (.fault "candidate->network") := by
  refine ⟨fun routes dst r h => ?_, fun routes dst => ?_, by decide⟩
  · obtain ⟨hmem, hr, hmax⟩ := ipRouteLookup_eq_some h
    refine ⟨hmem, hr, fun r' hr' hc => ⟨hmax r' hr' hc, fun p q hp hq hrp hrq => ?_⟩⟩
    have := hmax r' hr' hc
    rwa [hrp, hrq, ipNetmaskOfPrefix_le_iff hq hp] at this
  · obtain ⟨-, hfault, hnone⟩ := @ipRouteLookup_fault_iff dst routes
    exact ⟨hnone, hfault, ipRouteGetIface_fault_iff.trans hfault,
      fun mtu len _ h => (ipOutputRoute_fault_iff mtu len h).trans hfault⟩

/-! ## The interfaces `ip_input` tries -/

/-- The interfaces `ip_input` tries for a datagram received on `dev`: the
device's own, `dev->ifaces`, and those the `ip_iface.next` links reach from
it. Registration binds at most one interface to a device; a device without
one makes `ip_input` drop the datagram. -/
def ipInputChain (ifaces : List IpIfaceEntry) (dev : Nat) : List IpIface :=
  (ifaces.dropWhile (·.dev != dev)).map (·.addrs)

/-- The first interface tried is the device's own. -/
theorem ipInputChain_head? (ifaces : List IpIfaceEntry) (dev : Nat) :
    (ipInputChain ifaces dev).head? = (ifaces.find? (·.dev == dev)).map (·.addrs) := by
  induction ifaces with
  | nil => rfl
  | cons e rest ih =>
    by_cases h : e.dev = dev <;> simp_all [ipInputChain, List.dropWhile_cons, List.find?_cons]

/-- The interface registered last is tried first on its device, and every
interface registered before it after it, whatever their device. -/
theorem ipIfaceRegister_chain {s s' : IpSetup} {dev : Nat} {netmask : BitVec 32}
    {addrs : IpIface} (h : ipIfaceRegister s dev netmask addrs = some s') :
    ipInputChain s'.ifaces dev = addrs :: s.ifaces.map (·.addrs) := by
  unfold ipIfaceRegister at h
  split_ifs at h
  cases h
  simp [ipInputChain, List.dropWhile_cons]

/-- A datagram received on `dev` goes up with an interface `ip_input` tries:
the device's own for the broadcast address, else one with the destination
as an address. Those it tries include every interface registered before the
device's. In the loopback and TAP setup of the test programs, a datagram to
the loopback address that arrives on the TAP device goes up with the
loopback interface. -/
theorem ipInput_dispatches_other_device_iface :
    (∀ (protocols : List (BitVec 8)) (ifaces : List IpIfaceEntry) (dev : Nat)
      (data : List (BitVec 8)) (d : IpDispatch),
      ipInput protocols (ipInputChain ifaces dev) data = some d →
        d.iface ∈ ipInputChain ifaces dev ∧
        (d.dst = ipAddrBroadcast ∧ (ifaces.find? (·.dev == dev)).map (·.addrs) = some d.iface ∨
          d.iface.broadcast = d.dst ∨ d.iface.unicast = d.dst)) ∧
    (∀ (s s' : IpSetup) (dev : Nat) (netmask : BitVec 32) (addrs : IpIface),
      ipIfaceRegister s dev netmask addrs = some s' →
        ipInputChain s'.ifaces dev = addrs :: s.ifaces.map (·.addrs)) ∧
    let s : Option IpSetup := IpSetup.run IpSetup.empty
      [.register 0 "127.0.0.1".toList "255.0.0.0".toList,
       .register 1 "192.0.2.2".toList "255.255.255.0".toList, .defaultGateway "192.0.2.1".toList]
    let data := ipOutputCore ipProtocolUdp [] (load32 192 0 2 1) (load32 127 0 0 1) 0 0
    s.map (fun s => (s.ifaces.filter (·.dev == 1)).map (·.addrs)) =
        some [⟨load32 192 0 2 2, load32 192 0 2 255⟩] ∧
      s.map (fun s => ipInput [ipProtocolUdp] (ipInputChain s.ifaces 1) data) =
        some (some ⟨ipProtocolUdp, 20, 0, load32 192 0 2 1, load32 127 0 0 1,
          ⟨load32 127 0 0 1, load32 127 255 255 255⟩⟩) := by
  refine ⟨fun protocols ifaces dev data d h => ?_, fun _ _ _ _ _ h => ipIfaceRegister_chain h,
    by decide⟩
  rw [← ipInputChain_head?]
  exact ipInputIface_eq_some (ipInput_eq_some h).2.2.2.2

end MicroPs.Net
