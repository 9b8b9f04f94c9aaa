/-
# The loopback device

`net_device_output` hands a frame to a device's driver once the device is up
and the frame fits its MTU. The loopback driver's `loopback_transmit` queues
the frame, up to `LOOPBACK_QUEUE_LIMIT` of them, and raises its IRQ; its ISR
`loopback_isr` pops every queued frame in order into `net_input_handler`, and
the soft IRQ hands them on to the protocols (`MicroPs.Net.Protocol`). The
interrupt thread runs the ISR and the soft IRQ one dispatch at a time, and a
sending task runs `net_device_output` under the driver's mutex, so a run is a
sequence of these steps.

Over every run the queue holds at most sixteen frames, and the frames the ISR
has handed to `net_input_handler`, followed by the frames still queued, are
exactly the frames `loopback_transmit` accepted, in order. With no failed
allocation, each accepted frame of a registered type reaches its protocol's
handler once, in order: handled, then pending in the protocol's queue, then
still in the device's queue.
-/

import MicroPs.Net.Protocol

namespace MicroPs.Net

/-! ## Devices -/

/-- The fields of `struct net_device` that `net_device_open`,
`net_device_close` and `net_device_output` read: its index, its MTU and its
`NET_DEVICE_FLAG_UP` bit. -/
structure NetDevice where
  index : Nat
  mtu : Nat
  up : Bool
  deriving DecidableEq, Repr

/-- `net_device_open` of a device whose driver has no `open` operation, as
loopback and dummy have none. -/
def netDeviceOpen (dev : NetDevice) : NetDevice × Int :=
  if dev.up then (dev, -1) else ({ dev with up := true }, 0)

/-- `net_device_close` of a device whose driver has no `close` operation. -/
def netDeviceClose (dev : NetDevice) : NetDevice × Int :=
  if !dev.up then (dev, -1) else ({ dev with up := false }, 0)

/-- `net_device_output` of `len` bytes through the driver's `transmit`, which
works on the driver's state `σ` and answers `-1` or another value. -/
def netDeviceOutput {σ : Type} (dev : NetDevice) (len : Nat) (transmit : σ → σ × Int) (st : σ) :
    σ × Int :=
  if !dev.up then (st, -1)
  else if len > dev.mtu then (st, -1)
  else
    let (st, ret) := transmit st
    if ret = -1 then (st, -1) else (st, 0)

/-! ## The loopback driver -/

/-- `LOOPBACK_MTU`, `UINT16_MAX`. -/
def loopbackMtu : Nat := 65535

/-- `LOOPBACK_QUEUE_LIMIT`. -/
def loopbackQueueLimit : Nat := 16

/-- `struct loopback_queue_entry`: the type and a copy of the bytes. -/
structure LoopbackQueueEntry where
  type : BitVec 16
  data : List (BitVec 8)
  deriving DecidableEq, Repr

/-- The device `loopback_init` registers with index `index`: MTU
`LOOPBACK_MTU`, not yet up. -/
def loopbackDevice (index : Nat) : NetDevice := ⟨index, loopbackMtu, false⟩

/-- `loopback_transmit`, with `memory_alloc`'s verdict on the entry: refused
while the queue holds `LOOPBACK_QUEUE_LIMIT` entries or when the allocation
fails; otherwise `queue_push` appends the entry. -/
def loopbackTransmit (type : BitVec 16) (data : List (BitVec 8)) (allocOk : Bool)
    (queue : List LoopbackQueueEntry) : List LoopbackQueueEntry × Int :=
  if queue.length ≥ loopbackQueueLimit then (queue, -1)
  else if !allocOk then (queue, -1)
  else (queue ++ [⟨type, data⟩], 0)

/-- The frame `loopback_isr` hands to `net_input_handler` for an entry. -/
def LoopbackQueueEntry.frame (dev : Nat) (e : LoopbackQueueEntry) : NetFrame :=
  ⟨e.type, e.data, dev⟩

/-- The loop of `loopback_isr`: pop each entry in turn and call
`net_input_handler` on it, with `memory_alloc`'s verdicts for the protocol
queue entries, one per call (success once they run out). -/
def loopbackIsrLoop (dev : Nat) : List LoopbackQueueEntry → List Bool → NetSystem → NetSystem
  | [], _, net => net
  | e :: rest, oks, net =>
    loopbackIsrLoop dev rest oks.tail (net.step (.input (e.frame dev) (oks.headD true)))

/-- The loopback device with the interrupt thread above it: the device, its
queue, the protocols, and two records kept for the proofs: the frames
`loopback_transmit` accepted, and the frames the ISR handed to
`net_input_handler`. -/
structure LoopbackSystem where
  dev : NetDevice
  queue : List LoopbackQueueEntry
  net : NetSystem
  transmitted : List NetFrame
  dispatched : List NetFrame

/-- What happens next: a task's `net_device_output` of a frame, with the
allocation verdict of `loopback_transmit`; the loopback ISR, with the
verdicts of its `net_input_handler` calls; the soft IRQ; `net_device_open` or
`net_device_close`. -/
inductive LoopbackEvent
  | output (type : BitVec 16) (data : List (BitVec 8)) (allocOk : Bool)
  | isr (allocOks : List Bool)
  | softirq
  | «open»
  | close

namespace LoopbackSystem

/-- After `loopback_init` with index `index` and the protocols' registration. -/
def init (index : Nat) (protos : NetProtocols) : LoopbackSystem :=
  ⟨loopbackDevice index, [], NetSystem.init protos, [], []⟩

/-- One step. -/
def step (s : LoopbackSystem) : LoopbackEvent → LoopbackSystem
  | .output type data allocOk =>
    let (queue, ret) := netDeviceOutput s.dev data.length (loopbackTransmit type data allocOk) s.queue
    { s with queue,
             transmitted := if ret = 0 then s.transmitted ++ [⟨type, data, s.dev.index⟩]
               else s.transmitted }
  | .isr allocOks =>
    { s with queue := [], net := loopbackIsrLoop s.dev.index s.queue allocOks s.net,
             dispatched := s.dispatched ++ s.queue.map (·.frame s.dev.index) }
  | .softirq => { s with net := s.net.step .softirq }
  | .open => { s with dev := (netDeviceOpen s.dev).1 }
  | .close => { s with dev := (netDeviceClose s.dev).1 }

/-- A run of steps. -/
def run (s : LoopbackSystem) (events : List LoopbackEvent) : LoopbackSystem :=
  events.foldl step s

end LoopbackSystem

/-! ## What each step does -/

/-- `net_device_output` through `loopback_transmit` either refuses the frame
and leaves the queue, or appends it to a queue that was not full. -/
theorem netDeviceOutput_loopbackTransmit (dev : NetDevice) (type : BitVec 16)
    (data : List (BitVec 8)) (allocOk : Bool) (queue : List LoopbackQueueEntry) :
    netDeviceOutput dev data.length (loopbackTransmit type data allocOk) queue = (queue, -1) ∨
      (queue.length < loopbackQueueLimit ∧
        netDeviceOutput dev data.length (loopbackTransmit type data allocOk) queue =
          (queue ++ [⟨type, data⟩], 0)) := by
  unfold netDeviceOutput loopbackTransmit
  split_ifs <;> simp_all

theorem netDeviceOpen_index (dev : NetDevice) : (netDeviceOpen dev).1.index = dev.index := by
  unfold netDeviceOpen; split <;> rfl

theorem netDeviceClose_index (dev : NetDevice) : (netDeviceClose dev).1.index = dev.index := by
  unfold netDeviceClose; split <;> rfl

/-- `net_input_handler` accepts the frame or not. -/
theorem NetSystem.step_input_accepted_sublist (s : NetSystem) (frame : NetFrame) (allocOk : Bool) :
    ∃ l, l.Sublist [frame] ∧ (s.step (.input frame allocOk)).accepted = s.accepted ++ l := by
  simp only [NetSystem.step]
  split_ifs
  · exact ⟨[frame], .refl _, rfl⟩
  · exact ⟨[], List.nil_sublist _, by simp⟩

/-- With its allocation granted, `net_input_handler` accepts a frame exactly
when its type is registered. -/
theorem NetSystem.step_input_accepted (s : NetSystem) (frame : NetFrame) :
    (s.step (.input frame true)).accepted =
      s.accepted ++ if frame.type ∈ s.protocols.map (·.type) then [frame] else [] := by
  rcases netInputHandler_cases s.protocols frame true with ⟨heq, hT⟩ | heq | ⟨_, -, heq⟩
  · simp [NetSystem.step, heq, hT]
  · simp [netInputHandler] at heq; split at heq <;> simp_all
  · by_cases hT : frame.type ∈ s.protocols.map (·.type) <;> simp [NetSystem.step, heq, hT]

section IsrLoop

variable {protos : NetProtocols} (dev : Nat)

theorem loopbackIsrLoop_inv :
    ∀ (queue : List LoopbackQueueEntry) (oks : List Bool) {net : NetSystem}, net.Inv protos →
      (loopbackIsrLoop dev queue oks net).Inv protos
  | [], _, _, h => h
  | _ :: rest, _, _, h => loopbackIsrLoop_inv rest _ (NetSystem.step_inv h _)

/-- The ISR adds to the accepted frames some of the frames it pops, in
order. -/
theorem loopbackIsrLoop_accepted :
    ∀ (queue : List LoopbackQueueEntry) (oks : List Bool) (net : NetSystem),
      ∃ l, l.Sublist (queue.map (·.frame dev)) ∧
        (loopbackIsrLoop dev queue oks net).accepted = net.accepted ++ l
  | [], _, _ => ⟨[], .slnil, by simp [loopbackIsrLoop]⟩
  | e :: rest, oks, net => by
    obtain ⟨l₁, hl₁, heq₁⟩ := (net.step_input_accepted_sublist (e.frame dev) (oks.headD true))
    obtain ⟨l, hl, heq⟩ := loopbackIsrLoop_accepted rest oks.tail
      (net.step (.input (e.frame dev) (oks.headD true)))
    refine ⟨l₁ ++ l, hl₁.append hl, ?_⟩
    rw [loopbackIsrLoop, heq, heq₁, List.append_assoc]

/-- With every allocation granted, the ISR adds exactly the popped frames of
registered types. -/
theorem loopbackIsrLoop_accepted_ok :
    ∀ (queue : List LoopbackQueueEntry) (oks : List Bool) {net : NetSystem}, net.Inv protos →
      (∀ b ∈ oks, b = true) →
      (loopbackIsrLoop dev queue oks net).accepted = net.accepted ++
        (queue.map (·.frame dev)).filter (·.type ∈ protos.list.map (·.type))
  | [], _, _, _, _ => by simp [loopbackIsrLoop]
  | e :: rest, oks, net, h, hoks => by
    have hhead : oks.headD true = true := by
      cases oks with
      | nil => rfl
      | cons b bs => exact hoks b (List.mem_cons_self _ _)
    have htail : ∀ b ∈ oks.tail, b = true := fun b hb => hoks b (List.mem_of_mem_tail hb)
    simp only [loopbackIsrLoop, hhead, loopbackIsrLoop_accepted_ok rest _ (NetSystem.step_inv h _)
      htail, NetSystem.step_input_accepted, h.types, List.map_cons, List.filter_cons]
    by_cases hT : e.type ∈ protos.list.map (·.type) <;> simp [hT, LoopbackQueueEntry.frame]

end IsrLoop

/-! ## Runs -/

namespace LoopbackSystem

/-- What every run keeps: at most `LOOPBACK_QUEUE_LIMIT` queued frames; the
frames handed on followed by those queued are the frames accepted; the
protocols' invariant; and the protocols accepted some of the frames handed
on, in order. -/
structure Inv (protos : NetProtocols) (s : LoopbackSystem) : Prop where
  bounded : s.queue.length ≤ loopbackQueueLimit
  fifo : s.dispatched ++ s.queue.map (·.frame s.dev.index) = s.transmitted
  net : s.net.Inv protos
  accepted : s.net.accepted.Sublist s.dispatched

theorem init_inv (index : Nat) (protos : NetProtocols) : (init index protos).Inv protos :=
  ⟨by simp [init, loopbackQueueLimit], by simp [init], NetSystem.init_inv protos,
    by simp [init, NetSystem.init]⟩

theorem step_inv {protos : NetProtocols} {s : LoopbackSystem} (h : s.Inv protos)
    (e : LoopbackEvent) : (s.step e).Inv protos := by
  obtain ⟨hb, hf, hn, ha⟩ := h
  cases e with
  | output type data allocOk =>
    rcases netDeviceOutput_loopbackTransmit s.dev type data allocOk s.queue with heq | ⟨hlt, heq⟩
    · exact ⟨by simpa [step, heq] using hb, by simpa [step, heq] using hf, hn, ha⟩
    · refine ⟨?_, ?_, hn, ha⟩ <;> simp only [step, heq, if_true]
      · simp only [List.length_append, List.length_singleton]; omega
      · rw [← hf]; simp [LoopbackQueueEntry.frame]
  | isr allocOks =>
    obtain ⟨l, hl, heq⟩ := loopbackIsrLoop_accepted s.dev.index s.queue allocOks s.net
    refine ⟨by simp [step, loopbackQueueLimit], by simpa [step] using hf,
      loopbackIsrLoop_inv _ _ _ hn, ?_⟩
    simp only [step, heq]
    exact ha.append hl
  | softirq =>
    exact ⟨hb, hf, NetSystem.step_inv hn .softirq, (NetSystem.step_softirq s.net 0).2 ▸ ha⟩
  | «open» => exact ⟨hb, by simpa [step, netDeviceOpen_index] using hf, hn, ha⟩
  | close => exact ⟨hb, by simpa [step, netDeviceClose_index] using hf, hn, ha⟩

theorem run_inv {protos : NetProtocols} :
    ∀ {s : LoopbackSystem} (events : List LoopbackEvent), s.Inv protos → (s.run events).Inv protos
  | _, [], h => h
  | _, e :: rest, h => run_inv rest (step_inv h e)

theorem step_index (s : LoopbackSystem) (e : LoopbackEvent) : (s.step e).dev.index = s.dev.index :=
  by cases e <;> simp [step, netDeviceOpen_index, netDeviceClose_index]

theorem run_index : ∀ (s : LoopbackSystem) (events : List LoopbackEvent),
    (s.run events).dev.index = s.dev.index
  | _, [] => rfl
  | s, e :: rest => (run_index (s.step e) rest).trans (step_index s e)

end LoopbackSystem

/-- An event whose allocations all succeed. -/
def LoopbackEvent.AllocOk : LoopbackEvent → Prop
  | .output _ _ allocOk => allocOk = true
  | .isr allocOks => ∀ b ∈ allocOks, b = true
  | _ => True

instance : (e : LoopbackEvent) → Decidable e.AllocOk
  | .output _ _ allocOk => inferInstanceAs (Decidable (allocOk = true))
  | .isr allocOks => inferInstanceAs (Decidable (∀ b ∈ allocOks, b = true))
  | .softirq | .open | .close => isTrue trivial

/-- The protocols `net_init` registers: ARP, then IP, so IP heads the list. -/
def netInitProtocols : NetProtocols :=
  ⟨[⟨0x0800, []⟩, ⟨0x0806, []⟩], by decide, by simp⟩

namespace LoopbackSystem

/-- The frames of registered types among `frames`. -/
def registeredOf (protos : NetProtocols) (frames : List NetFrame) : List NetFrame :=
  frames.filter (·.type ∈ protos.list.map (·.type))

/-- With every allocation granted, an event keeps the protocols accepting
exactly the frames of registered types the ISR handed on. -/
theorem step_accepted_ok {protos : NetProtocols} {s : LoopbackSystem} (h : s.Inv protos)
    (hacc : s.net.accepted = registeredOf protos s.dispatched) {e : LoopbackEvent}
    (he : e.AllocOk) : (s.step e).net.accepted = registeredOf protos (s.step e).dispatched := by
  cases e with
  | output type data allocOk => simpa [step] using hacc
  | isr allocOks =>
    simp only [step, loopbackIsrLoop_accepted_ok _ _ _ h.net he, hacc, registeredOf,
      List.filter_append]
  | softirq => simpa [step, (NetSystem.step_softirq s.net 0).2] using hacc
  | «open» => simpa [step] using hacc
  | close => simpa [step] using hacc

theorem run_accepted_ok {protos : NetProtocols} :
    ∀ {s : LoopbackSystem} (events : List LoopbackEvent), s.Inv protos →
      s.net.accepted = registeredOf protos s.dispatched → (∀ e ∈ events, e.AllocOk) →
      (s.run events).net.accepted = registeredOf protos (s.run events).dispatched
  | _, [], _, hacc, _ => hacc
  | _, e :: rest, h, hacc, hok =>
    run_accepted_ok rest (step_inv h e) (step_accepted_ok h hacc (hok e (List.mem_cons_self _ _)))
      fun e' he' => hok e' (List.mem_cons_of_mem _ he')

/-- With the protocols accepting exactly the registered frames handed on, the
frames of a registered type handled, then pending in the protocol's queue,
then still in the device's queue, are the frames of that type the device
accepted. -/
theorem Inv.delivers {protos : NetProtocols} {s : LoopbackSystem} (h : s.Inv protos)
    (hacc : s.net.accepted = registeredOf protos s.dispatched) {T : BitVec 16}
    (hT : T ∈ protos.list.map (·.type)) :
    s.net.handled.filter (·.type = T) ++ pendingOf s.net.protocols T ++
        (s.queue.map (·.frame s.dev.index)).filter (·.type = T) =
      s.transmitted.filter (·.type = T) := by
  have hreg : (registeredOf protos s.dispatched).filter (·.type = T) =
      s.dispatched.filter (·.type = T) := by
    simp only [registeredOf, List.filter_filter]
    congr 1; funext f
    by_cases hf : f.type = T
    · subst hf; simp [hT]
    · simp [hf]
  rw [h.net.delivered T, hacc, hreg, ← List.filter_append, h.fifo]

/-- Along every run from `loopback_init`, the device's queue never holds more
than `LOOPBACK_QUEUE_LIMIT` frames, and the frames `loopback_isr` has handed to
`net_input_handler`, followed by the frames still queued, are exactly the
frames `loopback_transmit` accepted, in order: none lost, none duplicated,
none reordered. The protocols accept a subsequence of the frames handed on. -/
theorem run_fifo (index : Nat) (protos : NetProtocols) (events : List LoopbackEvent) :
    let s := (init index protos).run events
    s.queue.length ≤ loopbackQueueLimit ∧
      s.dispatched ++ s.queue.map (·.frame index) = s.transmitted ∧
      s.net.accepted.Sublist s.dispatched := by
  intro s
  have h := run_inv events (init_inv index protos)
  have hidx : s.dev.index = index := run_index _ events
  exact ⟨h.bounded, hidx ▸ h.fifo, h.accepted⟩

/-- Along every run from `loopback_init` in which no allocation fails, each
frame `loopback_transmit` accepted whose type is registered reaches its
protocol's handler once and in order: for each registered type, the frames
handled, then those waiting in the protocol's queue, then those still in the
device's queue, are the frames of that type the device accepted. -/
theorem run_delivers (index : Nat) (protos : NetProtocols) (events : List LoopbackEvent)
    (hok : ∀ e ∈ events, e.AllocOk) (T : BitVec 16) (hT : T ∈ protos.list.map (·.type)) :
    let s := (init index protos).run events
    s.net.handled.filter (·.type = T) ++ pendingOf s.net.protocols T ++
        (s.queue.map (·.frame index)).filter (·.type = T) =
      s.transmitted.filter (·.type = T) := by
  intro s
  have hidx : s.dev.index = index := run_index _ events
  rw [← hidx]
  exact (run_inv events (init_inv index protos)).delivers
    (run_accepted_ok events (init_inv index protos) rfl hok) hT

/-- The device comes up, two IP frames go out, the ISR and the soft IRQ run in
between, and a third frame is still queued. -/
theorem run_delivers_ip :
    let events : List LoopbackEvent := [.open, .output 0x0800 [1, 2] true, .isr [], .softirq,
      .output 0x0800 [3] true, .isr [true], .output 0x0800 [4] true]
    (∀ e ∈ events, e.AllocOk) ∧ (0x0800 : BitVec 16) ∈ netInitProtocols.list.map (·.type) ∧
    let s := (init 0 netInitProtocols).run events
    s.net.handled.filter (·.type = 0x0800) ++ pendingOf s.net.protocols 0x0800 ++
        (s.queue.map (·.frame 0)).filter (·.type = 0x0800) =
      s.transmitted.filter (·.type = 0x0800) :=
  have h : _ ∧ _ := ⟨by decide, by decide⟩
  ⟨h.1, h.2, run_delivers 0 netInitProtocols _ h.1 0x0800 h.2⟩

end LoopbackSystem

end MicroPs.Net
