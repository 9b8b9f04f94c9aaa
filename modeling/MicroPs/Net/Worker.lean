/-
# The loopback device under the interrupt thread

`loopback_transmit` pushes a frame under the driver's mutex, releases the
mutex, and only then calls `intr_raise_irq` on the loopback IRQ. The IRQ is a
signal, so it is one pending bit, which `sigwait` in `intr_thread` consumes
before the dispatch calls `loopback_isr`. `net_input_handler` raises the soft
IRQ `SIGUSR1` in the same way, and `net_softirq_handler` empties the protocol
queues (`MicroPs.Net.Protocol`). Here a sending task's `net_device_output`
stops between its push and its raise, so the thread's dispatches interleave
with both halves. The thread's other signals (`SIGALRM`, `SIGUSR2`, `SIGHUP`)
touch neither queue and are left out.

Every run of this system is a run of `LoopbackSystem`, so all of
`MicroPs.Net.Loopback` holds of it. A queued frame is always covered: the
loopback IRQ is pending, or some task has still to raise it; a frame in a
protocol queue has the soft IRQ pending. So once no signal is pending and no
task is between its push and its raise, both queues are empty and, with no
failed allocation, every frame of a registered type the device accepted has
reached its protocol's handler. From every state, raising the tasks' IRQs,
then one dispatch of the loopback IRQ and one of the soft IRQ, reach such a
state.
-/

import MicroPs.Net.Loopback

namespace MicroPs.Net

/-- The loopback device and the protocols, whether the loopback IRQ's signal
is pending for the interrupt thread, and the tasks that have pushed a frame
and not yet called `intr_raise_irq`. -/
structure LoopbackWorker where
  lo : LoopbackSystem
  irqPending : Bool
  raising : List Nat

/-- What happens next: task `task`'s `net_device_output`, up to the push of
`loopback_transmit`; that task's `intr_raise_irq`; `sigwait` returning the
loopback IRQ, then `loopback_isr` with the verdicts of its allocations;
`sigwait` returning `SIGUSR1`, then `net_softirq_handler`;
`net_device_open` or `net_device_close`. -/
inductive LoopbackWorkerEvent
  | output (task : Nat) (type : BitVec 16) (data : List (BitVec 8)) (allocOk : Bool)
  | raise (task : Nat)
  | irq (allocOks : List Bool)
  | softirq
  | «open»
  | close

namespace LoopbackWorker

/-- After `loopback_init` with index `index` and the protocols'
registration, with no signal pending. -/
def init (index : Nat) (protos : NetProtocols) : LoopbackWorker :=
  ⟨.init index protos, false, []⟩

/-- One step. A task between its push and its raise sends nothing else, and
`sigwait` returns only a pending signal. -/
def step (s : LoopbackWorker) : LoopbackWorkerEvent → LoopbackWorker
  | .output task type data allocOk =>
    if task ∈ s.raising then s
    else
      let ret := (netDeviceOutput s.lo.dev data.length (loopbackTransmit type data allocOk)
        s.lo.queue).2
      { s with lo := s.lo.step (.output type data allocOk),
               raising := if ret = 0 then s.raising ++ [task] else s.raising }
  | .raise task =>
    if task ∈ s.raising then { s with irqPending := true, raising := s.raising.erase task }
    else s
  | .irq allocOks =>
    if s.irqPending then { s with lo := s.lo.step (.isr allocOks), irqPending := false } else s
  | .softirq => if s.lo.net.raised then { s with lo := s.lo.step .softirq } else s
  | .open => { s with lo := s.lo.step .open }
  | .close => { s with lo := s.lo.step .close }

/-- A run of steps. -/
def run (s : LoopbackWorker) (events : List LoopbackWorkerEvent) : LoopbackWorker :=
  events.foldl step s

end LoopbackWorker

/-- An event whose allocations all succeed. -/
def LoopbackWorkerEvent.AllocOk : LoopbackWorkerEvent → Prop
  | .output _ _ _ allocOk => allocOk = true
  | .irq allocOks => ∀ b ∈ allocOks, b = true
  | _ => True

instance : (e : LoopbackWorkerEvent) → Decidable e.AllocOk
  | .output _ _ _ allocOk => inferInstanceAs (Decidable (allocOk = true))
  | .irq allocOks => inferInstanceAs (Decidable (∀ b ∈ allocOks, b = true))
  | .raise _ | .softirq | .open | .close => isTrue trivial

namespace LoopbackWorker

/-! ## The device below the thread -/

/-- Each step makes at most one step of the device and the protocols, with
the same allocation verdicts. -/
theorem step_lo (s : LoopbackWorker) (e : LoopbackWorkerEvent) :
    ∃ evs : List LoopbackEvent, (s.step e).lo = s.lo.run evs ∧
      (e.AllocOk → ∀ e' ∈ evs, e'.AllocOk) := by
  have none : s.lo = s.lo.run [] ∧ (e.AllocOk → ∀ e' ∈ ([] : List LoopbackEvent), e'.AllocOk) :=
    ⟨rfl, by simp⟩
  cases e with
  | output task type data allocOk =>
    by_cases hr : task ∈ s.raising
    · exact ⟨[], by simpa [step, hr] using none⟩
    · exact ⟨[.output type data allocOk], by simp [step, hr, LoopbackSystem.run],
        by simp [LoopbackWorkerEvent.AllocOk, LoopbackEvent.AllocOk]⟩
  | raise task =>
    by_cases hr : task ∈ s.raising
    · exact ⟨[], by simpa [step, hr] using none⟩
    · exact ⟨[], by simpa [step, hr] using none⟩
  | irq allocOks =>
    by_cases hp : s.irqPending
    · exact ⟨[.isr allocOks], by simp [step, hp, LoopbackSystem.run],
        by simp [LoopbackWorkerEvent.AllocOk, LoopbackEvent.AllocOk]⟩
    · exact ⟨[], by simpa [step, hp] using none⟩
  | softirq =>
    by_cases hr : s.lo.net.raised
    · exact ⟨[.softirq], by simp [step, hr, LoopbackSystem.run], by simp [LoopbackEvent.AllocOk]⟩
    · exact ⟨[], by simpa [step, hr] using none⟩
  | «open» => exact ⟨[.open], rfl, by simp [LoopbackEvent.AllocOk]⟩
  | close => exact ⟨[.close], rfl, by simp [LoopbackEvent.AllocOk]⟩

/-- Every run makes a run of the device and the protocols, with the same
allocation verdicts. -/
theorem run_lo : ∀ (s : LoopbackWorker) (events : List LoopbackWorkerEvent),
    ∃ evs : List LoopbackEvent, (s.run events).lo = s.lo.run evs ∧
      ((∀ e ∈ events, e.AllocOk) → ∀ e ∈ evs, e.AllocOk)
  | s, [] => ⟨[], rfl, by simp⟩
  | s, e :: rest => by
    obtain ⟨evs₁, h₁, hok₁⟩ := step_lo s e
    obtain ⟨evs₂, h₂, hok₂⟩ := run_lo (s.step e) rest
    refine ⟨evs₁ ++ evs₂, ?_, fun hok e' he' => ?_⟩
    · rw [h₁] at h₂
      rw [LoopbackSystem.run, List.foldl_append]
      exact h₂
    · rcases List.mem_append.1 he' with he' | he'
      · exact hok₁ (hok e (List.mem_cons_self _ _)) e' he'
      · exact hok₂ (fun e he => hok e (List.mem_cons_of_mem _ he)) e' he'

/-! ## Covered frames -/

/-- A frame in the device's queue has the loopback IRQ pending, or a task
still to raise it. -/
def Covered (s : LoopbackWorker) : Prop :=
  s.lo.queue ≠ [] → s.irqPending = true ∨ s.raising ≠ []

theorem step_covered {s : LoopbackWorker} (h : s.Covered) (e : LoopbackWorkerEvent) :
    (s.step e).Covered := by
  cases e with
  | output task type data allocOk =>
    by_cases hr : task ∈ s.raising
    · simpa [step, hr] using h
    rcases netDeviceOutput_loopbackTransmit s.lo.dev type data allocOk s.lo.queue with
      heq | ⟨-, heq⟩
    · simpa [Covered, step, hr, LoopbackSystem.step, heq] using h
    · simp [Covered, step, hr, LoopbackSystem.step, heq]
  | raise task =>
    by_cases hr : task ∈ s.raising
    · simp [Covered, step, hr]
    · simpa [step, hr] using h
  | irq allocOks =>
    by_cases hp : s.irqPending
    · simp [Covered, step, hp, LoopbackSystem.step]
    · simpa [step, hp] using h
  | softirq =>
    by_cases hr : s.lo.net.raised
    · simpa [Covered, step, hr, LoopbackSystem.step] using h
    · simpa [step, hr] using h
  | «open» => simpa [Covered, step, LoopbackSystem.step] using h
  | close => simpa [Covered, step, LoopbackSystem.step] using h

theorem run_covered : ∀ {s : LoopbackWorker} (events : List LoopbackWorkerEvent),
    s.Covered → (s.run events).Covered
  | _, [], h => h
  | _, e :: rest, h => run_covered rest (step_covered h e)

/-- What every run from `loopback_init` keeps: the device's invariant, the
covered queue, and, with no failed allocation, the protocols accepting
exactly the registered frames handed on. -/
theorem run_reach (index : Nat) (protos : NetProtocols) (events : List LoopbackWorkerEvent) :
    let s := (init index protos).run events
    s.lo.Inv protos ∧ s.Covered ∧
      ((∀ e ∈ events, e.AllocOk) → s.lo.net.accepted = LoopbackSystem.registeredOf protos s.lo.dispatched) := by
  obtain ⟨evs, hlo, hok⟩ := run_lo (init index protos) events
  refine ⟨?_, run_covered events (by simp [Covered, init, LoopbackSystem.init]), fun hall => ?_⟩
  · rw [hlo]; exact LoopbackSystem.run_inv evs (LoopbackSystem.init_inv index protos)
  · rw [hlo]
    exact LoopbackSystem.run_accepted_ok evs (LoopbackSystem.init_inv index protos) rfl (hok hall)

/-! ## Quiescence -/

section Quiescent

variable {protos : NetProtocols} {s : LoopbackWorker} (h : s.lo.Inv protos) (hc : s.Covered)
  (hirq : s.irqPending = false) (hr : s.raising = []) (hsoft : s.lo.net.raised = false)
include h hc hirq hr hsoft

/-- With no signal pending and no task between its push and its raise, both
queues are empty. -/
theorem quiescent_empty : s.lo.queue = [] ∧ ∀ T, pendingOf s.lo.net.protocols T = [] := by
  refine ⟨?_, fun T => ?_⟩
  · by_contra hq
    rcases hc hq with hp | hp <;> simp_all
  · by_contra hp
    simp [h.net.raised T hp] at hsoft

/-- In the same state, every frame of a registered type the device accepted
has reached its protocol's handler. -/
theorem quiescent_delivers (hacc : s.lo.net.accepted = LoopbackSystem.registeredOf protos s.lo.dispatched)
    {T : BitVec 16} (hT : T ∈ protos.list.map (·.type)) :
    s.lo.net.handled.filter (·.type = T) = s.lo.transmitted.filter (·.type = T) := by
  obtain ⟨hq, hp⟩ := quiescent_empty h hc hirq hr hsoft
  simpa [hq, hp] using h.delivers hacc hT

end Quiescent

/-- Along every run from `loopback_init`, with sends, raises, dispatches and
device open and close interleaved in any order: once no signal is pending and
no task is between its push and its raise, the device's queue and every
protocol queue are empty, and, if no allocation failed, every frame of a
registered type `loopback_transmit` accepted has reached its protocol's
handler, in order. -/
theorem run_quiescent (index : Nat) (protos : NetProtocols) (events : List LoopbackWorkerEvent) :
    let s := (init index protos).run events
    s.irqPending = false → s.raising = [] → s.lo.net.raised = false →
      s.lo.queue = [] ∧ (∀ T, pendingOf s.lo.net.protocols T = []) ∧
      ((∀ e ∈ events, e.AllocOk) → ∀ T ∈ protos.list.map (·.type),
        s.lo.net.handled.filter (·.type = T) = s.lo.transmitted.filter (·.type = T)) := by
  intro s hirq hr hsoft
  obtain ⟨h, hc, hacc⟩ := run_reach index protos events
  exact ⟨(quiescent_empty h hc hirq hr hsoft).1, (quiescent_empty h hc hirq hr hsoft).2,
    fun hall _ hT => quiescent_delivers h hc hirq hr hsoft (hacc hall) hT⟩

/-- One task pushes an IP frame and raises the IRQ; the thread runs the ISR
and the soft IRQ, and the system is quiescent. -/
theorem run_quiescent_ip :
    let events : List LoopbackWorkerEvent :=
      [.open, .output 1 0x0800 [1, 2] true, .raise 1, .irq [], .softirq]
    let s := (init 0 netInitProtocols).run events
    s.irqPending = false ∧ s.raising = [] ∧ s.lo.net.raised = false ∧
      s.lo.queue = [] ∧ (∀ T, pendingOf s.lo.net.protocols T = []) ∧
      ((∀ e ∈ events, e.AllocOk) → ∀ T ∈ netInitProtocols.list.map (·.type),
        s.lo.net.handled.filter (·.type = T) = s.lo.transmitted.filter (·.type = T)) :=
  have h : _ ∧ _ ∧ _ := ⟨by decide, by decide, by decide⟩
  ⟨h.1, h.2.1, h.2.2, run_quiescent 0 netInitProtocols _ h.1 h.2.1 h.2.2⟩

/-! ## Draining -/

/-- Each task between its push and its raise raises the IRQ, then the thread
dispatches the loopback IRQ and the soft IRQ. -/
def drain (s : LoopbackWorker) : List LoopbackWorkerEvent :=
  s.raising.map .raise ++ [.irq [], .softirq]

theorem run_raise (lo : LoopbackSystem) (p : Bool) : ∀ l : List Nat,
    (LoopbackWorker.mk lo p l).run (l.map .raise) = ⟨lo, p || !l.isEmpty, []⟩
  | [] => by simp [run]
  | a :: l => by
    have h : (LoopbackWorker.mk lo p (a :: l)).step (.raise a) = ⟨lo, true, l⟩ := by simp [step]
    show ((LoopbackWorker.mk lo p (a :: l)).step (.raise a)).run (l.map .raise) = _
    rw [h, run_raise lo true l]
    simp

/-- The drain leaves no signal pending and no task between its push and its
raise, and the device accepts nothing during it. -/
theorem run_drain (s : LoopbackWorker) :
    (s.run s.drain).irqPending = false ∧ (s.run s.drain).raising = [] ∧
      (s.run s.drain).lo.net.raised = false ∧
      (s.run s.drain).lo.transmitted = s.lo.transmitted := by
  obtain ⟨lo, p, l⟩ := s
  have hraise := run_raise lo p l
  simp only [drain, run, List.foldl_append] at hraise ⊢
  rw [hraise]
  by_cases hp : (p || !l.isEmpty) = true <;>
    by_cases hs : (lo.step (.isr [])).net.raised = true <;>
    by_cases hs' : lo.net.raised = true <;>
    simp_all [step, LoopbackSystem.step, NetSystem.step]

/-- Drain events make no failed allocation. -/
theorem drain_allocOk (s : LoopbackWorker) : ∀ e ∈ s.drain, e.AllocOk := by
  intro e he
  simp only [drain, List.mem_append, List.mem_map, List.mem_cons, List.mem_singleton,
    List.not_mem_nil, or_false] at he
  rcases he with ⟨a, -, rfl⟩ | rfl | rfl <;> simp [LoopbackWorkerEvent.AllocOk]

/-- From every state a run from `loopback_init` reaches with no failed
allocation, the drain empties the device's queue and every protocol queue
and hands every frame of a registered type accepted so far to its protocol's
handler. -/
theorem run_drain_delivers (index : Nat) (protos : NetProtocols)
    (events : List LoopbackWorkerEvent) (hok : ∀ e ∈ events, e.AllocOk) (T : BitVec 16)
    (hT : T ∈ protos.list.map (·.type)) :
    let s := (init index protos).run events
    (s.run s.drain).lo.queue = [] ∧ (∀ T, pendingOf (s.run s.drain).lo.net.protocols T = []) ∧
      (s.run s.drain).lo.net.handled.filter (·.type = T) = s.lo.transmitted.filter (·.type = T) := by
  intro s
  obtain ⟨hirq, hr, hsoft, htx⟩ := run_drain s
  have hrun : s.run s.drain = (init index protos).run (events ++ s.drain) := by
    simp only [s, run, List.foldl_append]
  obtain ⟨h, hc, hacc⟩ := run_reach index protos (events ++ s.drain)
  rw [← hrun] at h hc hacc
  have hall : ∀ e ∈ events ++ s.drain, e.AllocOk := fun e he =>
    (List.mem_append.1 he).elim (hok e) (drain_allocOk s e)
  obtain ⟨hq, hp⟩ := quiescent_empty h hc hirq hr hsoft
  exact ⟨hq, hp, htx ▸ quiescent_delivers h hc hirq hr hsoft (hacc hall) hT⟩

/-- A frame is pushed and its IRQ raised, a second is pushed and not yet
raised; the drain hands both to IP's handler. -/
theorem run_drain_delivers_ip :
    let events : List LoopbackWorkerEvent :=
      [.open, .output 1 0x0800 [1] true, .raise 1, .output 2 0x0800 [2] true]
    (∀ e ∈ events, e.AllocOk) ∧ (0x0800 : BitVec 16) ∈ netInitProtocols.list.map (·.type) ∧
    let s := (init 0 netInitProtocols).run events
    (s.run s.drain).lo.queue = [] ∧ (∀ T, pendingOf (s.run s.drain).lo.net.protocols T = []) ∧
      (s.run s.drain).lo.net.handled.filter (·.type = 0x0800) =
        s.lo.transmitted.filter (·.type = 0x0800) :=
  have h : _ ∧ _ := ⟨by decide, by decide⟩
  ⟨h.1, h.2, run_drain_delivers 0 netInitProtocols _ h.1 0x0800 h.2⟩

end LoopbackWorker

end MicroPs.Net
