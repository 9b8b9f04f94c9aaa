/-
# Bringing the stack up and down

`net_init` initialises the layers in turn and stops at the first that fails:
`intr_init`, then `arp_init` (ARP with `net_protocol_register`, and its
timer), `ip_init` (IP), `icmp_init`, `udp_init` (UDP with
`ip_protocol_register`, and its event handler) and `tcp_init` (TCP, its event
handler and three timers). Every registration allocates its entry, and every
allocation can fail. `tcp_init` does not look at what `net_event_subscribe`
answers, where `udp_init` does. The drivers' `loopback_init` and `dummy_init`
then register their devices with `net_device_register` and their ISRs with
`intr_request_irq`, whose answer they ignore; `net_run` opens every device and
`net_shutdown` closes every device.

`icmp.c` is not among the sources. Following the comment at its call in
`net_init`, `icmp_init` registers ICMP with `ip_protocol_register`; the value
of `IP_PROTOCOL_ICMP` (ip.h is missing too) is a parameter `icmp`, and every
result holds for each value. `intr_init` cannot fail. platform.h is missing
as well, so `INTR_IRQ_BASE` and `INTR_IRQ_SHARED` are parameters.

Over any sequence of driver initialisations the devices are numbered in
order, and a raise of a driver's IRQ calls that driver's ISR on its devices,
once each.
-/

import MicroPs.Net.Output
import MicroPs.Net.Timer
import MicroPs.Platform.Intr

namespace MicroPs.Net

open MicroPs.Platform

/-! ## Registries -/

/-- `NET_PROTOCOL_TYPE_ARP`. -/
def netProtocolTypeArp : BitVec 16 := 0x0806

/-- `ip_protocol_register`: refused for a number already registered or when
the allocation fails; otherwise the number goes to the head of the list. A
handler is named by its number. -/
def ipProtocolRegister (protocols : List (BitVec 8)) (type : BitVec 8) (allocOk : Bool) :
    List (BitVec 8) × Int :=
  if type ∈ protocols then (protocols, -1)
  else if allocOk then (type :: protocols, 0)
  else (protocols, -1)

/-- The handlers given to `net_event_subscribe`: `event_handler` of udp.c and
that of tcp.c. Both are subscribed with the argument `NULL`, left out. -/
inductive NetEventHandler
  | udpEventHandler
  | tcpEventHandler
  deriving DecidableEq, Repr

/-- `net_event_subscribe`: pushed at the head of `events`, or refused. -/
def netEventSubscribe (allocOk : Bool) (handler : NetEventHandler)
    (events : List NetEventHandler) : List NetEventHandler × Int :=
  if allocOk then (handler :: events, 0) else (events, -1)

/-- `net_event_handler`: the subscribed handlers, called in list order. -/
def netEventHandler (events : List NetEventHandler) : List NetEventHandler := events

/-- The IRQ handlers the drivers register. -/
inductive DriverIsr
  | dummyIsr
  | loopbackIsr
  deriving DecidableEq, Repr

/-- The static state of the stack: the interrupt thread's IRQ list and
signal set, the protocols, the timers, IP's protocol numbers, the event
handlers, the devices (newest first) and the counter `net_device_register`
numbers them from. -/
structure NetStack where
  intr : IntrState DriverIsr
  protocols : NetProtocols
  timers : List (NetTimer TimerHandler)
  ipProtocols : List (BitVec 8)
  events : List NetEventHandler
  devices : List NetDevice
  index : Nat

/-- The static state before `net_init`: every list empty, the counter at
zero. -/
def NetStack.empty : NetStack := ⟨⟨[], []⟩, ⟨[], List.nodup_nil, by simp⟩, [], [], [], [], 0⟩

/-- `if (step() == -1) return -1;`, then the rest. -/
def NetStack.andThen (r : NetStack × Int) (rest : NetStack → NetStack × Int) : NetStack × Int :=
  if r.2 = -1 then (r.1, -1) else rest r.1

/-- What `net_init` meets: `memory_alloc`'s verdict at each of its
allocations, and the clock reading each `net_timer_register` takes. -/
structure NetInitEnv where
  arpProtocol : Bool
  arpTimer : Bool
  ipProtocol : Bool
  icmpProtocol : Bool
  udpProtocol : Bool
  udpEvent : Bool
  tcpProtocol : Bool
  tcpEvent : Bool
  tcpRetransmit : Bool
  tcpUserTimeout : Bool
  tcpTimeWait : Bool
  arpNow : Timeval
  retransmitNow : Timeval
  userTimeoutNow : Timeval
  timeWaitNow : Timeval

/-! ## `net_init` -/

section Init

variable (env : NetInitEnv)

/-- `arp_init`: ARP with `net_protocol_register`, then its timer. -/
def arpInit (s : NetStack) : NetStack × Int :=
  let (protocols, ret) := netProtocolRegister s.protocols netProtocolTypeArp env.arpProtocol
  NetStack.andThen ({ s with protocols }, ret) fun s =>
    let (timers, ret) :=
      netTimerRegister env.arpTimer arpTimerInterval .arpTimerHandler env.arpNow s.timers
    ({ s with timers }, ret)

/-- `ip_init`: IP with `net_protocol_register`. -/
def ipInit (s : NetStack) : NetStack × Int :=
  let (protocols, ret) := netProtocolRegister s.protocols netProtocolTypeIp env.ipProtocol
  ({ s with protocols }, ret)

/-- `icmp_init`, modelled from the comment at its call in `net_init`: ICMP
with `ip_protocol_register`. -/
def icmpInit (icmp : BitVec 8) (s : NetStack) : NetStack × Int :=
  let (ipProtocols, ret) := ipProtocolRegister s.ipProtocols icmp env.icmpProtocol
  ({ s with ipProtocols }, ret)

/-- `udp_init`: UDP with `ip_protocol_register`, then its event handler. -/
def udpInit (s : NetStack) : NetStack × Int :=
  let (ipProtocols, ret) := ipProtocolRegister s.ipProtocols ipProtocolUdp env.udpProtocol
  NetStack.andThen ({ s with ipProtocols }, ret) fun s =>
    let (events, ret) := netEventSubscribe env.udpEvent .udpEventHandler s.events
    ({ s with events }, ret)

/-- `tcp_init`: TCP with `ip_protocol_register`, its event handler whatever
`net_event_subscribe` answers, then its three timers. -/
def tcpInit (s : NetStack) : NetStack × Int :=
  let (ipProtocols, ret) := ipProtocolRegister s.ipProtocols ipProtocolTcp env.tcpProtocol
  NetStack.andThen ({ s with ipProtocols }, ret) fun s =>
    let s := { s with events := (netEventSubscribe env.tcpEvent .tcpEventHandler s.events).1 }
    let (timers, ret) := netTimerRegister env.tcpRetransmit tcpRetransmitInterval
      .tcpRetransmitTimer env.retransmitNow s.timers
    NetStack.andThen ({ s with timers }, ret) fun s =>
      let (timers, ret) := netTimerRegister env.tcpUserTimeout tcpUserTimeoutInterval
        .tcpUserTimeout env.userTimeoutNow s.timers
      NetStack.andThen ({ s with timers }, ret) fun s =>
        let (timers, ret) := netTimerRegister env.tcpTimeWait tcpTimeWaitInterval
          .tcpTimeWaitTimeout env.timeWaitNow s.timers
        ({ s with timers }, ret)

/-- `net_init`: `intr_init`, which cannot fail, then the layers in turn. -/
def netInit (icmp : BitVec 8) (s : NetStack) : NetStack × Int :=
  let s := { s with intr := { s.intr with sigmask := (intrInit : IntrState DriverIsr).sigmask } }
  NetStack.andThen (arpInit env s) fun s =>
  NetStack.andThen (ipInit env s) fun s =>
  NetStack.andThen (icmpInit env icmp s) fun s =>
  NetStack.andThen (udpInit env s) fun s =>
  tcpInit env s

end Init

/-! ## Devices and their IRQs -/

/-- `DUMMY_MTU`, `UINT16_MAX`. -/
def dummyMtu : Nat := 65535

/-- `net_device_register`: the device takes the counter's value as its index
and goes to the head of `devices`. It cannot fail; the name `net<index>` it
prints into the device is left out. -/
def netDeviceRegister (dev : NetDevice) (s : NetStack) : NetStack × NetDevice :=
  let dev := { dev with index := s.index }
  ({ s with devices := dev :: s.devices, index := s.index + 1 }, dev)

/-- A driver's initialisation: `loopback_init` with the verdicts of
`net_device_alloc`, of its private data's allocation and of its IRQ entry's
allocation, or `dummy_init` with those of `net_device_alloc` and of its IRQ
entry's. `dummy_init` sets no flags, so its device's `UP` bit is whatever
`memory_alloc` (util.c, not among the sources) leaves: `up`. -/
inductive DriverInit
  | loopback (devOk privOk irqOk : Bool)
  | dummy (devOk up irqOk : Bool)

/-- One driver's initialisation. Both drivers request their IRQ as
`INTR_IRQ_SHARED` and ignore what `intr_request_irq` answers. `DUMMY_IRQ` is
`INTR_IRQ_BASE` and `LOOPBACK_IRQ` is `INTR_IRQ_BASE + 1`; platform.h is not
among the sources, so `INTR_IRQ_BASE` is the parameter `irqBase` and
`INTR_IRQ_SHARED` the parameter `shared`. -/
def driverInit (shared : BitVec 32) (irqBase : Nat) (s : NetStack) : DriverInit → NetStack
  | .loopback devOk privOk irqOk =>
    if !devOk || !privOk then s
    else
      let (s, dev) := netDeviceRegister ⟨0, loopbackMtu, false⟩ s
      { s with intr :=
          (intrRequestIrq shared (irqBase + 1) .loopbackIsr shared dev.index irqOk s.intr).1 }
  | .dummy devOk up irqOk =>
    if !devOk then s
    else
      let (s, dev) := netDeviceRegister ⟨0, dummyMtu, up⟩ s
      { s with intr := (intrRequestIrq shared irqBase .dummyIsr shared dev.index irqOk s.intr).1 }

/-- `net_run`, with the verdict of `intr_run`: every device is opened in list
order, whatever `net_device_open` answers. -/
def netRun (intrOk : Bool) (s : NetStack) : NetStack × Int :=
  if !intrOk then (s, -1)
  else ({ s with devices := s.devices.map fun d => (netDeviceOpen d).1 }, 0)

/-- `net_shutdown`: every device is closed in list order, whatever
`net_device_close` answers; `intr_shutdown` then ends the interrupt thread,
which is left out. -/
def netShutdown (s : NetStack) : NetStack :=
  { s with devices := s.devices.map fun d => (netDeviceClose d).1 }

/-- A request either leaves the IRQ list or puts its entry at the head. -/
theorem intrRequestIrq_irqs {α : Type} (shared : BitVec 32) (irq : Nat) (handler : α)
    (flags : BitVec 32) (dev : Nat) (allocOk : Bool) (st : IntrState α) :
    (intrRequestIrq shared irq handler flags dev allocOk st).1.irqs = st.irqs ∨
      (intrRequestIrq shared irq handler flags dev allocOk st).1.irqs =
        ⟨irq, handler, flags, dev⟩ :: st.irqs := by
  unfold intrRequestIrq; split_ifs <;> simp

section Devices

variable (shared : BitVec 32) (irqBase : Nat)

/-- What the drivers' initialisations keep: the devices carry the indices the
counter has handed out, newest first; every IRQ entry is shared and belongs to
a registered device of its driver, on its driver's IRQ; and no device has two
entries. -/
structure DevicesWf (s : NetStack) : Prop where
  indices : s.devices.map (·.index) = (List.range s.index).reverse
  entries : ∀ e ∈ s.intr.irqs, e.flags = shared ∧ (∃ d ∈ s.devices, d.index = e.dev) ∧
    (e.irq = irqBase + 1 ∧ e.handler = .loopbackIsr ∨ e.irq = irqBase ∧ e.handler = .dummyIsr)
  nodup : (s.intr.irqs.map (·.dev)).Nodup

theorem DevicesWf.index_lt {s : NetStack} (h : DevicesWf shared irqBase s) {d : NetDevice}
    (hd : d ∈ s.devices) : d.index < s.index := by
  have : d.index ∈ (List.range s.index).reverse := h.indices ▸ List.mem_map_of_mem _ hd
  simpa using this

/-- Registering a device and requesting its IRQ keeps the invariant. -/
theorem devicesWf_register {s : NetStack} (h : DevicesWf shared irqBase s) (mtu : Nat) (up : Bool)
    (irq : Nat) (isr : DriverIsr) (irqOk : Bool)
    (hkind : irq = irqBase + 1 ∧ isr = .loopbackIsr ∨ irq = irqBase ∧ isr = .dummyIsr) :
    let r := netDeviceRegister ⟨0, mtu, up⟩ s
    DevicesWf shared irqBase
      { r.1 with intr := (intrRequestIrq shared irq isr shared r.2.index irqOk r.1.intr).1 } := by
  intro r
  have hnew : ∀ e ∈ s.intr.irqs, e.dev ≠ s.index := fun e he hdev => by
    obtain ⟨-, ⟨d, hd, hidx⟩, -⟩ := h.entries e he
    exact absurd (h.index_lt shared irqBase hd) (by omega)
  simp only [r, netDeviceRegister]
  rcases intrRequestIrq_irqs shared irq isr shared s.index irqOk s.intr with heq | heq <;>
    refine ⟨by simp [h.indices, List.range_succ], ?_, ?_⟩ <;>
    simp only [heq, List.mem_cons, forall_eq_or_imp, exists_eq_or_imp, List.map_cons]
  · exact fun e he => ⟨(h.entries e he).1, .inr (h.entries e he).2.1, (h.entries e he).2.2⟩
  · exact h.nodup
  · exact ⟨⟨trivial, .inl trivial, hkind⟩,
      fun e he => ⟨(h.entries e he).1, .inr (h.entries e he).2.1, (h.entries e he).2.2⟩⟩
  · simpa [List.nodup_cons, h.nodup] using hnew

theorem devicesWf_driverInit {s : NetStack} (h : DevicesWf shared irqBase s) (i : DriverInit) :
    DevicesWf shared irqBase (driverInit shared irqBase s i) := by
  cases i with
  | loopback devOk privOk irqOk =>
    by_cases hc : (!devOk || !privOk) = true
    · rw [driverInit, if_pos hc]; exact h
    · rw [driverInit, if_neg hc]
      exact devicesWf_register shared irqBase h loopbackMtu false (irqBase + 1) .loopbackIsr irqOk
        (.inl ⟨rfl, rfl⟩)
  | dummy devOk up irqOk =>
    by_cases hc : (!devOk) = true
    · rw [driverInit, if_pos hc]; exact h
    · rw [driverInit, if_neg hc]
      exact devicesWf_register shared irqBase h dummyMtu up irqBase .dummyIsr irqOk (.inr ⟨rfl, rfl⟩)

/-- The static state before any driver registers: no device, no IRQ entry. -/
theorem devicesWf_start {s : NetStack} (hirqs : s.intr.irqs = []) (hdevs : s.devices = [])
    (hidx : s.index = 0) : DevicesWf shared irqBase s :=
  ⟨by simp [hdevs, hidx], by simp [hirqs], by simp [hirqs]⟩

/-- Every sequence of driver initialisations keeps the invariant. -/
theorem devicesWf_run {s : NetStack} (h : DevicesWf shared irqBase s) :
    ∀ inits : List DriverInit, DevicesWf shared irqBase (inits.foldl (driverInit shared irqBase) s)
  | [] => h
  | i :: rest => devicesWf_run (devicesWf_driverInit shared irqBase h i) rest

/-- A raise of a driver's IRQ calls that driver's ISR on registered devices,
each device at most once. -/
theorem DevicesWf.dispatch {s : NetStack} (h : DevicesWf shared irqBase s) {irq : Nat}
    (hirq : irq ∉ intrFixedSignals) {isr : DriverIsr}
    (hkind : irq = irqBase + 1 ∧ isr = .loopbackIsr ∨ irq = irqBase ∧ isr = .dummyIsr) :
    (∀ c ∈ (intrDispatch s.intr.irqs irq).2, ∃ d ∈ s.devices, c = .irq isr irq d.index) ∧
      (intrDispatch s.intr.irqs irq).2.Nodup := by
  rw [intrDispatch_irq _ hirq]
  refine ⟨fun c hc => ?_, ?_⟩
  · simp only [List.mem_map, List.mem_filter, decide_eq_true_eq] at hc
    obtain ⟨e, ⟨he, rfl⟩, rfl⟩ := hc
    obtain ⟨-, ⟨d, hd, hidx⟩, hk⟩ := h.entries e he
    refine ⟨d, hd, ?_⟩
    rcases hk with ⟨hk, hh⟩ | ⟨hk, hh⟩ <;> rcases hkind with ⟨hi, rfl⟩ | ⟨hi, rfl⟩ <;>
      first | omega | simp [hh, hidx]
  · -- the calls carry the entries' devices, which are distinct
    have hdevs : ((s.intr.irqs.filter (·.irq = irq)).map (·.dev)).Nodup :=
      h.nodup.sublist ((List.filter_sublist _).map _)
    refine List.Nodup.of_map (fun c => match c with | .irq _ _ dev => dev | _ => 0) ?_
    simpa [List.map_map, Function.comp_def] using hdevs

theorem netDeviceOpen_up (dev : NetDevice) : (netDeviceOpen dev).1.up = true := by
  unfold netDeviceOpen; split <;> simp_all

theorem netDeviceClose_up (dev : NetDevice) : (netDeviceClose dev).1.up = false := by
  unfold netDeviceClose; split <;> simp_all

end Devices

/-- Over every sequence of `loopback_init` and `dummy_init` calls, with any
allocation verdicts, from a state with no device and no IRQ entry (as
`net_init` leaves it), for every value of `INTR_IRQ_SHARED` and every value of
`INTR_IRQ_BASE` whose two IRQs are not among the interrupt thread's own
signals: the devices carry the indices `0, 1, …` of their registration, newest
first; a raise of `LOOPBACK_IRQ` calls `loopback_isr` and a raise of
`DUMMY_IRQ` calls `dummy_isr`, on registered devices, at most once per device,
and nothing else; once `intr_run` succeeds, `net_run` leaves every device up,
and `net_shutdown` then leaves every device down, whatever `net_device_open`
and `net_device_close` answered. -/
theorem driverInit_dispatch_run (shared : BitVec 32) (irqBase : Nat)
    (hdummy : irqBase ∉ intrFixedSignals) (hloop : irqBase + 1 ∉ intrFixedSignals)
    (s : NetStack) (hirqs : s.intr.irqs = []) (hdevs : s.devices = []) (hidx : s.index = 0)
    (inits : List DriverInit) :
    let t := inits.foldl (driverInit shared irqBase) s
    t.devices.map (·.index) = (List.range t.index).reverse ∧
      (∀ c ∈ (intrDispatch t.intr.irqs (irqBase + 1)).2,
        ∃ d ∈ t.devices, c = .irq .loopbackIsr (irqBase + 1) d.index) ∧
      (intrDispatch t.intr.irqs (irqBase + 1)).2.Nodup ∧
      (∀ c ∈ (intrDispatch t.intr.irqs irqBase).2,
        ∃ d ∈ t.devices, c = .irq .dummyIsr irqBase d.index) ∧
      (intrDispatch t.intr.irqs irqBase).2.Nodup ∧
      (∀ d ∈ (netRun true t).1.devices, d.up = true) ∧
      ∀ d ∈ (netShutdown (netRun true t).1).devices, d.up = false := by
  intro t
  have h := devicesWf_run shared irqBase (devicesWf_start shared irqBase hirqs hdevs hidx) inits
  obtain ⟨hl, hln⟩ := h.dispatch shared irqBase hloop (.inl ⟨rfl, rfl⟩)
  obtain ⟨hd, hdn⟩ := h.dispatch shared irqBase hdummy (.inr ⟨rfl, rfl⟩)
  refine ⟨h.indices, hl, hln, hd, hdn, ?_, ?_⟩ <;>
    simp [netRun, netShutdown, netDeviceOpen_up, netDeviceClose_up]

/-- `net_init` with every allocation granted, then `dummy_init` and
`loopback_init`, with `INTR_IRQ_BASE` at `SIGRTMIN + 1` (35 on Linux). -/
theorem driverInit_dispatch_run_dummy_loopback :
    let env : NetInitEnv := ⟨true, true, true, true, true, true, true, true, true, true, true,
      ⟨0, 0⟩, ⟨0, 0⟩, ⟨0, 0⟩, ⟨0, 0⟩⟩
    let s := (netInit env 1 NetStack.empty).1
    let t := [DriverInit.dummy true false true, .loopback true true true].foldl
      (driverInit 1 35) s
    (35 ∉ intrFixedSignals ∧ 35 + 1 ∉ intrFixedSignals ∧ s.intr.irqs = [] ∧ s.devices = [] ∧
      s.index = 0) ∧
    t.devices.map (·.index) = (List.range t.index).reverse ∧
      (∀ c ∈ (intrDispatch t.intr.irqs (35 + 1)).2,
        ∃ d ∈ t.devices, c = .irq .loopbackIsr (35 + 1) d.index) ∧
      (intrDispatch t.intr.irqs (35 + 1)).2.Nodup ∧
      (∀ c ∈ (intrDispatch t.intr.irqs 35).2, ∃ d ∈ t.devices, c = .irq .dummyIsr 35 d.index) ∧
      (intrDispatch t.intr.irqs 35).2.Nodup ∧
      (∀ d ∈ (netRun true t).1.devices, d.up = true) ∧
      ∀ d ∈ (netShutdown (netRun true t).1).devices, d.up = false := by
  intro env s t
  have h : 35 ∉ intrFixedSignals ∧ 35 + 1 ∉ intrFixedSignals ∧ s.intr.irqs = [] ∧
      s.devices = [] ∧ s.index = 0 := ⟨by decide, by decide, rfl, rfl, rfl⟩
  exact ⟨h, driverInit_dispatch_run 1 35 h.1 h.2.1 s h.2.2.1 h.2.2.2.1 h.2.2.2.2 _⟩

end MicroPs.Net
