/-
# Protocol queues

`net_protocol_register` builds at startup a list of protocols of distinct
types, each with a receive queue. `net_input_handler`, called from device
ISRs, copies a frame into the queue of the protocol of its type and raises the
soft IRQ. `net_softirq_handler` drains every queue in list order, calling the
protocol's handler once per entry. The interrupt thread dispatches device ISRs
and the soft IRQ one at a time, so a run is a sequence of input calls and
soft IRQs.

Over every run, the frames a protocol's handler has received, followed by the
frames in its queue, are exactly the frames of its type that
`net_input_handler` accepted, in the order they came; a soft IRQ is pending
while any queue holds a frame, and it empties them all.
-/

import Mathlib.Data.List.Basic

namespace MicroPs.Net

/-- A frame handed to `net_input_handler`: its type, its bytes and its
device. A handler call is recorded in the same form. -/
structure NetFrame where
  type : BitVec 16
  data : List (BitVec 8)
  dev : Nat
  deriving DecidableEq, Repr

/-- `struct net_protocol_queue_entry`: the device and a copy of the bytes. -/
structure NetQueueEntry where
  dev : Nat
  data : List (BitVec 8)
  deriving DecidableEq, Repr

/-- `struct net_protocol`; its handler is named by its type. -/
structure NetProtocol where
  type : BitVec 16
  queue : List NetQueueEntry
  deriving DecidableEq, Repr

/-- The list `protocols` after registration: its types are distinct and its
queues empty. -/
structure NetProtocols where
  list : List NetProtocol
  nodup : (list.map (·.type)).Nodup
  empty : ∀ p ∈ list, p.queue = []

/-- Modelled from the spec: `queue_push` of util.c, which is not among the
sources, appends to the protocol's unbounded FIFO. -/
def queuePush (queue : List NetQueueEntry) (entry : NetQueueEntry) : List NetQueueEntry :=
  queue ++ [entry]

/-- `net_protocol_register`: refused for a type already registered or when
the allocation fails; otherwise the protocol goes to the head of the list. -/
def netProtocolRegister (protos : NetProtocols) (type : BitVec 16) (allocOk : Bool) :
    NetProtocols × Int :=
  if h : type ∈ protos.list.map (·.type) then (protos, -1)
  else if allocOk then
    (⟨⟨type, []⟩ :: protos.list, by simpa using List.nodup_cons.2 ⟨h, protos.nodup⟩,
      by simpa using protos.empty⟩, 0)
  else (protos, -1)

/-- The loop of `net_input_handler`: the first protocol of type `type` takes
the entry; `none` when there is none. -/
def netInputPush (type : BitVec 16) (entry : NetQueueEntry) :
    List NetProtocol → Option (List NetProtocol)
  | [] => none
  | p :: ps =>
    if p.type = type then some ({ p with queue := queuePush p.queue entry } :: ps)
    else (netInputPush type entry ps).map (p :: ·)

/-- `net_input_handler`, with `memory_alloc`'s verdict on the entry. It
answers `-1` when that allocation fails and `0` otherwise, also for a type no
protocol has. -/
def netInputHandler (protos : List NetProtocol) (frame : NetFrame) (allocOk : Bool) :
    List NetProtocol × Int :=
  match netInputPush frame.type ⟨frame.dev, frame.data⟩ protos with
  | none => (protos, 0)
  | some protos' => if allocOk then (protos', 0) else (protos, -1)

/-- The `while` loop of `net_softirq_handler` on one protocol: its handler
gets every entry of the queue, in order. -/
def netSoftirqDrain (type : BitVec 16) : List NetQueueEntry → List NetFrame
  | [] => []
  | e :: rest => ⟨type, e.data, e.dev⟩ :: netSoftirqDrain type rest

/-- `net_softirq_handler`: every protocol in list order, each queue emptied
into its handler. -/
def netSoftirqHandler : List NetProtocol → List NetProtocol × List NetFrame
  | [] => ([], [])
  | p :: ps =>
    let rest := netSoftirqHandler ps
    ({ p with queue := [] } :: rest.1, netSoftirqDrain p.type p.queue ++ rest.2)

/-- The protocols, whether the soft IRQ is raised, the handler calls so far,
and the frames `net_input_handler` accepted: those it answered `0` for and
whose type is registered. -/
structure NetSystem where
  protocols : List NetProtocol
  raised : Bool
  handled : List NetFrame
  accepted : List NetFrame

/-- What the interrupt thread runs next: a device ISR's call of
`net_input_handler`, or the soft IRQ. -/
inductive NetEvent
  | input (frame : NetFrame) (allocOk : Bool)
  | softirq

namespace NetSystem

/-- The registered protocols, with nothing received yet. -/
def init (protos : NetProtocols) : NetSystem := ⟨protos.list, false, [], []⟩

/-- One dispatch of the interrupt thread. `sigwait` consumes the soft IRQ
signal before `net_softirq_handler` runs. -/
def step (s : NetSystem) : NetEvent → NetSystem
  | .input frame allocOk =>
    let (protocols, ret) := netInputHandler s.protocols frame allocOk
    let accepts := decide (ret = 0 ∧ frame.type ∈ s.protocols.map (·.type))
    { s with protocols, raised := s.raised || accepts,
             accepted := if accepts then s.accepted ++ [frame] else s.accepted }
  | .softirq =>
    let (protocols, calls) := netSoftirqHandler s.protocols
    { s with protocols, raised := false, handled := s.handled ++ calls }

/-- A run of dispatches. -/
def run (s : NetSystem) (events : List NetEvent) : NetSystem := events.foldl step s

end NetSystem

/-- The frames of type `type` waiting in the queues, in the order the soft
IRQ would hand them on. -/
def pendingOf (protos : List NetProtocol) (type : BitVec 16) : List NetFrame :=
  (protos.flatMap fun p => netSoftirqDrain p.type p.queue).filter (·.type = type)

/-! ## What the handlers do to the queues -/

theorem netSoftirqDrain_eq (type : BitVec 16) (q : List NetQueueEntry) :
    netSoftirqDrain type q = q.map fun e => ⟨type, e.data, e.dev⟩ := by
  induction q <;> simp [netSoftirqDrain, *]

theorem netSoftirqDrain_filter (type T : BitVec 16) (q : List NetQueueEntry) :
    (netSoftirqDrain type q).filter (·.type = T) =
      if type = T then netSoftirqDrain type q else [] := by
  rw [netSoftirqDrain_eq]
  split_ifs with h <;> simp [List.filter_map, h, Function.comp_def]

theorem netSoftirqHandler_eq (protos : List NetProtocol) :
    netSoftirqHandler protos = (protos.map fun p => { p with queue := [] },
      protos.flatMap fun p => netSoftirqDrain p.type p.queue) := by
  induction protos with
  | nil => rfl
  | cons p ps ih => simp [netSoftirqHandler, ih]

theorem pendingOf_cons (p : NetProtocol) (ps : List NetProtocol) (T : BitVec 16) :
    pendingOf (p :: ps) T =
      (netSoftirqDrain p.type p.queue).filter (·.type = T) ++ pendingOf ps T := by
  simp [pendingOf, List.filter_append]

theorem pendingOf_eq_nil {protos : List NetProtocol} {T : BitVec 16}
    (h : T ∉ protos.map (·.type)) : pendingOf protos T = [] := by
  induction protos with
  | nil => rfl
  | cons p ps ih =>
    simp only [List.map_cons, List.mem_cons, not_or] at h
    rw [pendingOf_cons, netSoftirqDrain_filter, if_neg (Ne.symm h.1), ih h.2, List.nil_append]

theorem pendingOf_emptied (protos : List NetProtocol) (T : BitVec 16) :
    pendingOf (protos.map fun p => { p with queue := [] }) T = [] := by
  simp [pendingOf, netSoftirqDrain]

theorem netInputPush_types {T : BitVec 16} {e : NetQueueEntry} :
    ∀ {protos protos' : List NetProtocol}, netInputPush T e protos = some protos' →
      protos'.map (·.type) = protos.map (·.type)
  | [], _, h => by cases h
  | p :: ps, _, h => by
    unfold netInputPush at h
    split_ifs at h
    · cases h; rfl
    · obtain ⟨ps', hps, rfl⟩ := Option.map_eq_some'.mp h
      simp [netInputPush_types hps]

theorem netInputPush_eq_none {T : BitVec 16} {e : NetQueueEntry} :
    ∀ {protos : List NetProtocol}, netInputPush T e protos = none ↔ T ∉ protos.map (·.type)
  | [] => by simp [netInputPush]
  | p :: ps => by
    unfold netInputPush
    split_ifs with hp
    · simp [hp]
    · simp [netInputPush_eq_none, Ne.symm hp]

/-- The pushed frame joins the frames of its type at the end. -/
theorem netInputPush_pending {T : BitVec 16} {e : NetQueueEntry} :
    ∀ {protos protos' : List NetProtocol}, (protos.map (·.type)).Nodup →
      netInputPush T e protos = some protos' → ∀ T', pendingOf protos' T' =
        pendingOf protos T' ++ if T = T' then [⟨T, e.data, e.dev⟩] else []
  | [], _, _, h, _ => by cases h
  | p :: ps, _, hnd, h, T' => by
    simp only [List.map_cons, List.nodup_cons] at hnd
    unfold netInputPush at h
    split_ifs at h with hp
    · cases h
      have hrest : T ∉ ps.map (·.type) := hp ▸ hnd.1
      rw [pendingOf_cons, pendingOf_cons]
      simp only [queuePush, netSoftirqDrain_eq, List.map_append, List.filter_append, hp]
      split_ifs with hT
      · subst hT; simp [pendingOf_eq_nil hrest]
      · simp [hT]
    · obtain ⟨ps', hps, rfl⟩ := Option.map_eq_some'.mp h
      rw [pendingOf_cons, pendingOf_cons, netInputPush_pending hnd.2 hps, List.append_assoc]

/-- What `net_input_handler` can do: answer `0` for a type no protocol has,
answer `-1` after a failed allocation, or push the frame and answer `0`. -/
theorem netInputHandler_cases (protos : List NetProtocol) (frame : NetFrame) (allocOk : Bool) :
    (netInputHandler protos frame allocOk = (protos, 0) ∧ frame.type ∉ protos.map (·.type)) ∨
    netInputHandler protos frame allocOk = (protos, -1) ∨
    ∃ protos', netInputPush frame.type ⟨frame.dev, frame.data⟩ protos = some protos' ∧
      netInputHandler protos frame allocOk = (protos', 0) := by
  unfold netInputHandler
  split
  · rename_i hnone; exact .inl ⟨rfl, netInputPush_eq_none.1 hnone⟩
  · rename_i protos' hpush
    cases allocOk
    · exact .inr (.inl rfl)
    · exact .inr (.inr ⟨protos', hpush, rfl⟩)

/-! ## Runs of the interrupt thread -/

namespace NetSystem

/-- What every run from a registry keeps: the protocols keep their types; for
each type, the frames handled followed by the frames pending are the frames
accepted; only registered types are accepted; and a frame waits only while
the soft IRQ is raised. -/
structure Inv (protos : NetProtocols) (s : NetSystem) : Prop where
  types : s.protocols.map (·.type) = protos.list.map (·.type)
  delivered : ∀ T, s.handled.filter (·.type = T) ++ pendingOf s.protocols T =
    s.accepted.filter (·.type = T)
  registered : ∀ f ∈ s.accepted, f.type ∈ protos.list.map (·.type)
  raised : ∀ T, pendingOf s.protocols T ≠ [] → s.raised = true

theorem init_inv (protos : NetProtocols) : (init protos).Inv protos := by
  have hflat : (protos.list.flatMap fun p => netSoftirqDrain p.type p.queue) = [] :=
    List.flatMap_eq_nil_iff.2 fun p hp => by rw [protos.empty p hp]; rfl
  have hempty : ∀ T, pendingOf protos.list T = [] := fun T => by simp [pendingOf, hflat]
  exact ⟨rfl, fun T => by simp [init, hempty], by simp [init], fun T h => absurd (hempty T) h⟩

theorem step_inv {protos : NetProtocols} {s : NetSystem} (h : s.Inv protos) (e : NetEvent) :
    (step s e).Inv protos := by
  cases e with
  | input frame allocOk =>
    obtain ⟨ft, fd, fdev⟩ := frame
    rcases netInputHandler_cases s.protocols ⟨ft, fd, fdev⟩ allocOk with
      ⟨heq, hT⟩ | heq | ⟨protos', hpush, heq⟩
    · simpa [step, heq, hT] using h
    · simpa [step, heq] using h
    · obtain ⟨htypes, hdel, hreg, -⟩ := h
      have hT : ft ∈ s.protocols.map (·.type) := by
        by_contra hT; rw [netInputPush_eq_none.2 hT] at hpush; cases hpush
      have hnd : (s.protocols.map (·.type)).Nodup := htypes ▸ protos.nodup
      have hpend := netInputPush_pending hnd hpush
      simp only [step, heq, hT, and_self, decide_True, Bool.or_true, if_true]
      refine ⟨(netInputPush_types hpush).trans htypes, fun T => ?_, ?_, fun _ _ => rfl⟩
      · rw [hpend, ← List.append_assoc, hdel, List.filter_append]
        split_ifs with h <;> simp only at h <;> simp [h]
      · rintro f hf
        rcases List.mem_append.1 hf with hf | hf
        · exact hreg f hf
        · rw [List.mem_singleton.1 hf]; exact htypes ▸ hT
  | softirq =>
    obtain ⟨htypes, hdel, hreg, -⟩ := h
    simp only [step, netSoftirqHandler_eq]
    refine ⟨by simpa using htypes, fun T => ?_, hreg, fun T hT => absurd (pendingOf_emptied _ T) hT⟩
    rw [pendingOf_emptied, List.append_nil, List.filter_append, ← hdel T, pendingOf]

theorem run_inv {protos : NetProtocols} :
    ∀ {s : NetSystem} (events : List NetEvent), s.Inv protos → (run s events).Inv protos
  | _, [], h => h
  | _, e :: rest, h => run_inv rest (step_inv h e)

/-- The soft IRQ hands on every pending frame and accepts nothing. -/
theorem step_softirq (s : NetSystem) (T : BitVec 16) :
    pendingOf (step s .softirq).protocols T = [] ∧ (step s .softirq).accepted = s.accepted := by
  simp [step, netSoftirqHandler_eq, pendingOf_emptied]

/-- Over every run of the interrupt thread from a registry, and for every
type: the frames its protocol's handler has received, followed by those still
in its queue, are the frames of that type `net_input_handler` accepted, with
their bytes and devices, in input order. While one waits the soft IRQ is
raised, and the next soft IRQ hands on all of them. Frames of a type no
protocol has reach no handler. -/
theorem run_handles_accepted_once (protos : NetProtocols) (events : List NetEvent)
    (T : BitVec 16) :
    let s := run (init protos) events
    s.handled.filter (·.type = T) ++ pendingOf s.protocols T = s.accepted.filter (·.type = T) ∧
    (pendingOf s.protocols T ≠ [] → s.raised = true) ∧
    (step s .softirq).handled.filter (·.type = T) = s.accepted.filter (·.type = T) ∧
    (T ∉ protos.list.map (·.type) → s.handled.filter (·.type = T) = []) := by
  intro s
  have h := run_inv events (init_inv protos)
  have hsoft := (step_inv h .softirq).delivered T
  obtain ⟨hpend, hacc⟩ := step_softirq s T
  rw [hpend, List.append_nil, hacc] at hsoft
  refine ⟨h.delivered T, h.raised T, hsoft, fun hT => ?_⟩
  have hnil : s.accepted.filter (·.type = T) = [] :=
    List.filter_eq_nil_iff.2 fun f hf hfT => hT (of_decide_eq_true hfT ▸ h.registered f hf)
  exact (List.append_eq_nil.1 ((h.delivered T).trans hnil)).1

end NetSystem

end MicroPs.Net
