/-
# Receiving datagrams

`udp_input` appends a datagram for a bound slot to the slot's queue and wakes
the tasks that sleep on the slot's context. `udp_recvfrom` pops the head of
its slot's queue; on an empty queue it sleeps on the context and, once woken
and back on the mutex, looks again, until it gets an entry, is interrupted,
or finds the slot `CLOSING`. Any number of tasks may sleep on one slot: a
broadcast wakes them all, they retake the mutex one at a time, and a task
that finds the queue empty sleeps again. `udp_close` frees the slot and
drains its queue; `event_handler` interrupts every `OPEN` slot.

Over every interleaving of these with the other table commands, spurious
wakeups and any number of tasks, each entry queued on a slot leaves the queue
once and in the order it came: to exactly one `udp_recvfrom`, which copies
`MIN(size, len)` of its bytes, or to the drain of `udp_close`. Without
`udp_close` every entry goes to a `udp_recvfrom`. The task that gets an
entry is not always one that asked the slot's current owner: a task woken on
a slot, and not yet back from `sched_sleep` when the slot is closed, reads
the queue of whoever reopens it (`udp_pcb_release` never wakes a task, see
`MicroPs.Udp.Pcb`). With a task blocked on the slot and never signalled,
glibc's `pthread_cond_destroy` makes `udp_close` wait forever
(`UdpRecvSystem.Hangs`); the runs here go on as if it returned, so what they
show holds of every run of the stack, which stops there.

The record of what each queue received and lost is kept beside the table;
no command reads it.
-/

import MicroPs.Udp.Bind

namespace MicroPs.Udp

open MicroPs.Platform MicroPs.Tcp MicroPs.Net

/-- A task inside the `sched_sleep` of its `udp_recvfrom` on a slot, with the
size of its buffer: blocked in `pthread_cond_wait`, or woken and waiting for
the mutex. -/
structure UdpSleeper where
  task : Nat
  slot : Fin 16
  size : Nat
  woken : Bool
  deriving DecidableEq, Repr

/-- How a call of `udp_recvfrom` ends: `-1`, or with the entry it popped from
a slot's queue for a buffer of `size` bytes. -/
inductive UdpRecvOutcome
  | error
  | got (slot : Fin 16) (entry : UdpQueueEntry) (size : Nat)
  deriving DecidableEq, Repr

/-- What `udp_recvfrom` returns: `-1`, or `MIN(size, entry->len)`. -/
def UdpRecvOutcome.ret : UdpRecvOutcome → Int
  | .error => -1
  | .got _ e size => min size e.data.length

/-- The bytes `udp_recvfrom` copies into `buf`. -/
def UdpRecvOutcome.bytes : UdpRecvOutcome → List Byte
  | .error => []
  | .got _ e size => e.data.take size

/-- The entry an outcome took from slot `i`, if any. -/
def UdpRecvOutcome.entryOn (i : Fin 16) : UdpRecvOutcome → Option UdpQueueEntry
  | .error => none
  | .got j e _ => if j = i then some e else none

/-- The entries that `udp_recvfrom` calls took from slot `i`, in order. -/
def gotOn (i : Fin 16) (returns : List (Nat × UdpRecvOutcome)) : List UdpQueueEntry :=
  returns.filterMap (·.2.entryOn i)

@[simp] theorem gotOn_nil (i : Fin 16) : gotOn i [] = [] := rfl

@[simp] theorem gotOn_append_error (i : Fin 16) (returns : List (Nat × UdpRecvOutcome))
    (task : Nat) : gotOn i (returns ++ [(task, .error)]) = gotOn i returns := by
  simp [gotOn, UdpRecvOutcome.entryOn]

@[simp] theorem gotOn_append_got (i j : Fin 16) (returns : List (Nat × UdpRecvOutcome))
    (task : Nat) (e : UdpQueueEntry) (size : Nat) :
    gotOn i (returns ++ [(task, .got j e size)]) =
      if j = i then gotOn i returns ++ [e] else gotOn i returns := by
  by_cases h : j = i <;> simp [gotOn, UdpRecvOutcome.entryOn, h]

/-- The table, the tasks inside `sched_sleep`, every `udp_recvfrom` return
in order, and for each slot the entries `udp_input` put on its queue and the
entries taken off it, each marked with whether a `udp_recvfrom` took it. -/
structure UdpRecvSystem where
  pcbs : UdpPcbs
  sleepers : List UdpSleeper
  returns : List (Nat × UdpRecvOutcome)
  pushed : Fin 16 → List UdpQueueEntry
  taken : Fin 16 → List (UdpQueueEntry × Bool)

/-- What happens next: a table command, a datagram through `udp_input`, a
task calling `udp_recvfrom` with a buffer of `size` bytes, a blocked task's
wait returning without a broadcast, a woken task retaking the mutex, or the
event broadcast. -/
inductive UdpRecvEvent
  | «open»
  | bind (id : Int) (lcl : IpEndpoint)
  | sendto (id : Int) (foreign : IpEndpoint)
  | close (id : Int)
  | input (src dst : IpEndpoint) (data : List Byte)
  | recvfrom (task : Nat) (id : Int) (size : Nat)
  | spurious (task : Nat)
  | resume (task : Nat)
  | event
  deriving DecidableEq, Repr

namespace UdpRecvSystem

/-- The zero-initialised table with nobody inside `udp_recvfrom`. -/
def init : UdpRecvSystem := ⟨fun _ => UdpPcb.zero, [], [], fun _ => [], fun _ => []⟩

/-- `sched_wakeup` on slot `i`'s context: its blocked tasks wake. -/
def wake (sleepers : List UdpSleeper) (i : Fin 16) : List UdpSleeper :=
  sleepers.map fun t => if t.slot = i then { t with woken := true } else t

/-- `udp_pcb_release` of slot `i`; the entries of its queue are drained. -/
def release (s : UdpRecvSystem) (i : Fin 16) : UdpRecvSystem :=
  { s with pcbs := Function.update s.pcbs i (udpPcbRelease (s.pcbs i)),
           taken := Function.update s.taken i (s.taken i ++ (s.pcbs i).queue.map (·, false)) }

/-- The loop of `udp_recvfrom` from its `queue_pop`, for `task` on slot `i`:
the head entry, or `sched_sleep`, which fails at once on an interrupted
context. -/
def recvTry (s : UdpRecvSystem) (task : Nat) (i : Fin 16) (size : Nat) : UdpRecvSystem :=
  match (s.pcbs i).queue with
  | e :: rest =>
    { s with pcbs := Function.update s.pcbs i { s.pcbs i with queue := rest },
             returns := s.returns ++ [(task, .got i e size)],
             taken := Function.update s.taken i (s.taken i ++ [(e, true)]) }
  | [] =>
    match schedSleepEnter (s.pcbs i).ctx with
    | none => { s with returns := s.returns ++ [(task, .error)] }
    | some ctx =>
      { s with pcbs := Function.update s.pcbs i { s.pcbs i with ctx },
               sleepers := s.sleepers ++ [⟨task, i, size, false⟩] }

/-- One event. `route` answers `ip_route_get_iface` for `udp_sendto`. A task
inside `udp_recvfrom` calls nothing else. -/
def step (route : BitVec 32 → Option (BitVec 32)) (s : UdpRecvSystem) :
    UdpRecvEvent → UdpRecvSystem
  | .open => { s with pcbs := (udpOpen s.pcbs).1 }
  | .bind id lcl => { s with pcbs := (udpBind s.pcbs id lcl).1 }
  | .sendto id foreign => { s with pcbs := (udpSendto route s.pcbs id foreign).1 }
  | .close id =>
    match udpPcbGet s.pcbs id with
    | none => s
    | some i => s.release i
  | .input src dst data =>
    match udpPcbSelect s.pcbs dst.addr dst.port with
    | none => s
    | some i =>
      { s with pcbs := udpInput s.pcbs src dst data, sleepers := wake s.sleepers i,
               pushed := Function.update s.pushed i (s.pushed i ++ [⟨src, data⟩]) }
  | .recvfrom task id size =>
    if s.sleepers.any (·.task = task) then s
    else
      match udpPcbGet s.pcbs id with
      | none => { s with returns := s.returns ++ [(task, .error)] }
      | some i => s.recvTry task i size
  | .spurious task =>
    { s with
      sleepers := s.sleepers.map fun t => if t.task = task then { t with woken := true } else t }
  | .resume task =>
    match s.sleepers.find? (fun t => t.task = task && t.woken) with
    | none => s
    | some t =>
      let (ctx, ret) := schedSleepLeave (s.pcbs t.slot).ctx
      let s := { s with pcbs := Function.update s.pcbs t.slot { s.pcbs t.slot with ctx },
                        sleepers := s.sleepers.filter (·.task ≠ task) }
      if ret ≠ 0 then { s with returns := s.returns ++ [(task, .error)] }
      else if (s.pcbs t.slot).state = .closing then
        let s := s.release t.slot
        { s with returns := s.returns ++ [(task, .error)] }
      else s.recvTry task t.slot t.size
  | .event =>
    { s with
      pcbs := fun i =>
        if (s.pcbs i).state = .open then { s.pcbs i with ctx := schedInterrupt (s.pcbs i).ctx }
        else s.pcbs i,
      sleepers := s.sleepers.map fun t =>
        if (s.pcbs t.slot).state = .open then { t with woken := true } else t }

/-- A run of events. -/
def run (route : BitVec 32 → Option (BitVec 32)) (s : UdpRecvSystem)
    (events : List UdpRecvEvent) : UdpRecvSystem :=
  events.foldl (step route) s

/-- The event never ends in the real stack: `udp_close` releases a slot on
whose context a task is blocked and was not signalled, so glibc's
`pthread_cond_destroy` waits for that task forever, holding the UDP mutex.
`step` runs the release as if the destroy returned. The other release, of a
`CLOSING` slot by a task back from `sched_sleep`, never happens: no slot stays
`CLOSING`. -/
def Hangs (s : UdpRecvSystem) : UdpRecvEvent → Prop
  | .close id => ∃ i, udpPcbGet s.pcbs id = some i ∧ ∃ t ∈ s.sleepers, t.slot = i ∧ t.woken = false
  | _ => False

end UdpRecvSystem

/-! ## What the table commands leave alone -/

/-- `udp_open`, `udp_bind` and `udp_sendto` leave every queue as it was and
make no slot `CLOSING`. -/
theorem udpOpen_queue (pcbs : UdpPcbs) (hst : ∀ i, (pcbs i).state ≠ .closing) (i : Fin 16) :
    ((udpOpen pcbs).1 i).queue = (pcbs i).queue ∧ ((udpOpen pcbs).1 i).state ≠ .closing := by
  unfold udpOpen
  split
  · exact ⟨rfl, hst i⟩
  · rename_i j pcbs' halloc
    obtain ⟨-, rfl⟩ := udpPcbAlloc_eq_some halloc
    by_cases hij : i = j
    · subst hij; simp
    · simp [Function.update_noteq hij, hst i]

theorem udpBind_queue (pcbs : UdpPcbs) (id : Int) (lcl : IpEndpoint)
    (hst : ∀ i, (pcbs i).state ≠ .closing) (i : Fin 16) :
    ((udpBind pcbs id lcl).1 i).queue = (pcbs i).queue ∧
      ((udpBind pcbs id lcl).1 i).state ≠ .closing := by
  unfold udpBind
  split
  · exact ⟨rfl, hst i⟩
  · rename_i j _
    split
    · exact ⟨rfl, hst i⟩
    · by_cases hij : i = j
      · subst hij; simpa using hst i
      · simp [Function.update_noteq hij, hst i]

theorem udpSendto_queue (route : BitVec 32 → Option (BitVec 32)) (pcbs : UdpPcbs) (id : Int)
    (foreign : IpEndpoint) (hst : ∀ i, (pcbs i).state ≠ .closing) (i : Fin 16) :
    ((udpSendto route pcbs id foreign).1 i).queue = (pcbs i).queue ∧
      ((udpSendto route pcbs id foreign).1 i).state ≠ .closing := by
  rcases udpSendto_fst route pcbs id foreign with heq | ⟨j, _, _, _, _, _, _, heq⟩
  · rw [heq]; exact ⟨rfl, hst i⟩
  · rw [heq]
    by_cases hij : i = j
    · subst hij; simpa using hst i
    · simp [Function.update_noteq hij, hst i]

/-! ## Every entry leaves its queue once, in order -/

namespace UdpRecvSystem

/-- What every run keeps: for each slot, the entries taken off its queue
followed by those still on it are the entries `udp_input` put there; the
entries `udp_recvfrom` calls returned from it are the taken ones marked as
theirs, in order; and no slot stays `CLOSING`. -/
structure Inv (s : UdpRecvSystem) : Prop where
  fifo : ∀ i, (s.taken i).map (·.1) ++ (s.pcbs i).queue = s.pushed i
  got : ∀ i, gotOn i s.returns = ((s.taken i).filter (·.2)).map (·.1)
  not_closing : ∀ i, (s.pcbs i).state ≠ .closing

theorem init_inv : init.Inv :=
  ⟨fun _ => rfl, fun _ => rfl, fun _ => by simp [init, UdpPcb.zero]⟩

section Inv

variable {s : UdpRecvSystem}

/-- A change of the table that touches no queue and makes no slot
`CLOSING`, and any change of the sleepers. -/
theorem Inv.pcbs (h : s.Inv) {pcbs : UdpPcbs} (hq : ∀ i, (pcbs i).queue = (s.pcbs i).queue)
    (hst : ∀ i, (pcbs i).state ≠ .closing) (sleepers : List UdpSleeper) :
    { s with pcbs, sleepers }.Inv :=
  ⟨fun i => (hq i).symm ▸ h.fifo i, h.got, hst⟩

theorem Inv.error (h : s.Inv) (task : Nat) :
    { s with returns := s.returns ++ [(task, UdpRecvOutcome.error)] }.Inv :=
  ⟨h.fifo, fun i => by simpa using h.got i, h.not_closing⟩

theorem release_inv (h : s.Inv) (i : Fin 16) : (s.release i).Inv := by
  refine ⟨fun j => ?_, fun j => ?_, fun j => ?_⟩ <;> by_cases hj : j = i <;>
    simp only [release, hj, Function.update_same, Function.update_noteq, ne_eq, not_false_eq_true]
  · subst hj; simp [udpPcbRelease_eq, ← h.fifo j, Function.comp_def]
  · exact h.fifo j
  · subst hj; simp [List.filter_append, h.got j, List.filter_map, Function.comp_def]
  · exact h.got j
  · simp [udpPcbRelease_eq]
  · exact h.not_closing j

theorem recvTry_inv (h : s.Inv) (task : Nat) (i : Fin 16) (size : Nat) :
    (s.recvTry task i size).Inv := by
  unfold recvTry
  split
  · rename_i e rest hq
    refine ⟨fun j => ?_, fun j => ?_, fun j => ?_⟩ <;> by_cases hj : j = i
    · subst hj; simp [← h.fifo j, hq]
    · simp [Function.update_noteq hj, h.fifo j]
    · subst hj; simp [h.got j]
    · simp [Function.update_noteq hj, Ne.symm hj, h.got j]
    · subst hj; simpa using h.not_closing j
    · simpa [Function.update_noteq hj] using h.not_closing j
  · split
    · exact h.error task
    · refine h.pcbs (fun j => ?_) (fun j => ?_) _ <;> by_cases hj : j = i
      · subst hj; simp
      · simp [Function.update_noteq hj]
      · subst hj; simpa using h.not_closing j
      · simpa [Function.update_noteq hj] using h.not_closing j

/-- Every event keeps the invariant. -/
theorem step_inv (route : BitVec 32 → Option (BitVec 32)) (h : s.Inv) (e : UdpRecvEvent) :
    (s.step route e).Inv := by
  cases e with
  | «open» =>
    exact h.pcbs (fun i => (udpOpen_queue _ h.not_closing i).1)
      (fun i => (udpOpen_queue _ h.not_closing i).2) s.sleepers
  | bind id lcl =>
    exact h.pcbs (fun i => (udpBind_queue _ id lcl h.not_closing i).1)
      (fun i => (udpBind_queue _ id lcl h.not_closing i).2) s.sleepers
  | sendto id foreign =>
    exact h.pcbs (fun i => (udpSendto_queue route _ id foreign h.not_closing i).1)
      (fun i => (udpSendto_queue route _ id foreign h.not_closing i).2) s.sleepers
  | close id =>
    simp only [step]
    split
    · exact h
    · exact release_inv h _
  | input src dst data =>
    simp only [step]
    split
    · exact h
    · rename_i i hsel
      simp only [udpInput, hsel]
      refine ⟨fun j => ?_, h.got, fun j => ?_⟩ <;> by_cases hj : j = i
      · subst hj; simp [← h.fifo j]
      · simp [Function.update_noteq hj, h.fifo j]
      · subst hj; simpa using h.not_closing j
      · simpa [Function.update_noteq hj] using h.not_closing j
  | recvfrom task id size =>
    simp only [step]
    split
    · exact h
    · split
      · exact h.error task
      · exact recvTry_inv h _ _ _
  | spurious task => exact h.pcbs (fun _ => rfl) h.not_closing _
  | resume task =>
    simp only [step]
    split
    · exact h
    rename_i t _
    obtain ⟨ctx, ret⟩ := schedSleepLeave (s.pcbs t.slot).ctx
    have h' : Inv
        { s with pcbs := Function.update s.pcbs t.slot { s.pcbs t.slot with ctx },
                 sleepers := s.sleepers.filter (·.task ≠ task) } := by
      refine h.pcbs (fun j => ?_) (fun j => ?_) _ <;> by_cases hj : j = t.slot
      · subst hj; simp
      · simp [Function.update_noteq hj]
      · subst hj; simpa using h.not_closing _
      · simpa [Function.update_noteq hj] using h.not_closing j
    dsimp only
    split_ifs
    · exact h'.error task
    · exact (release_inv h' _).error task
    · exact recvTry_inv h' _ _ _
  | event =>
    exact h.pcbs (fun i => by dsimp only; split <;> rfl)
      (fun i => by dsimp only; split <;> simpa using h.not_closing i) _

theorem run_inv (route : BitVec 32 → Option (BitVec 32)) (h : s.Inv)
    (events : List UdpRecvEvent) : (s.run route events).Inv := by
  induction events generalizing s with
  | nil => exact h
  | cons e events ih => exact ih (step_inv route h e)

/-! ## Without `udp_close` -/

/-- Every entry taken off a queue went to a `udp_recvfrom`. -/
def AllGot (s : UdpRecvSystem) : Prop := ∀ i, ∀ p ∈ s.taken i, p.2 = true

theorem recvTry_allGot (h : s.AllGot) (task : Nat) (i : Fin 16) (size : Nat) :
    (s.recvTry task i size).AllGot := by
  unfold recvTry
  split
  · intro j p hp
    by_cases hj : j = i
    · subst hj
      simp only [Function.update_same, List.mem_append, List.mem_singleton] at hp
      rcases hp with hp | rfl
      · exact h _ p hp
      · rfl
    · exact h j p (by simpa [Function.update_noteq hj] using hp)
  · split <;> exact h

/-- An event other than `udp_close` takes entries off a queue only for a
`udp_recvfrom`: the `CLOSING` branch of `udp_recvfrom` is never reached. -/
theorem step_allGot (route : BitVec 32 → Option (BitVec 32)) (hi : s.Inv) (h : s.AllGot)
    {e : UdpRecvEvent} (he : ∀ id, e ≠ .close id) : (s.step route e).AllGot := by
  cases e with
  | close id => exact absurd rfl (he id)
  | input src dst data => simp only [step]; split <;> exact h
  | recvfrom task id size =>
    simp only [step]
    split
    · exact h
    · split
      · exact h
      · exact recvTry_allGot h _ _ _
  | resume task =>
    simp only [step]
    split
    · exact h
    rename_i t _
    obtain ⟨ctx, ret⟩ := schedSleepLeave (s.pcbs t.slot).ctx
    dsimp only
    split_ifs with hret hcl
    · exact h
    · exact absurd (by simpa using hcl) (hi.not_closing t.slot)
    · refine recvTry_allGot ?_ _ _ _
      exact h
  | «open» | bind | sendto | spurious | event => exact h

theorem run_allGot (route : BitVec 32 → Option (BitVec 32)) (hi : s.Inv) (h : s.AllGot)
    (events : List UdpRecvEvent) (he : ∀ e ∈ events, ∀ id, e ≠ .close id) :
    (s.run route events).AllGot := by
  induction events generalizing s with
  | nil => exact h
  | cons e events ih =>
    exact ih (step_inv route hi e) (step_allGot route hi h (he e (.head _)))
      fun e' he' => he e' (.tail _ he')

end Inv

/-- Over every run from the zero-initialised table (table commands,
datagrams, `udp_recvfrom` calls by any number of tasks with any buffer
sizes, spurious wakeups, resumptions and event broadcasts, in any order), for
every slot: the entries taken off its queue, followed by those still on it,
are the entries `udp_input` put there, in order; the entries that
`udp_recvfrom` calls returned from it, one entry to each call, are the taken
entries not drained by `udp_close`, in order; and in a run without
`udp_close` the entries returned from the slot, followed by those still
queued, are all the entries put there. -/
theorem run_entries_once (route : BitVec 32 → Option (BitVec 32)) (events : List UdpRecvEvent)
    (i : Fin 16) :
    let s := init.run route events
    (s.taken i).map (·.1) ++ (s.pcbs i).queue = s.pushed i ∧
      gotOn i s.returns = ((s.taken i).filter (·.2)).map (·.1) ∧
      ((∀ e ∈ events, ∀ id, e ≠ .close id) →
        gotOn i s.returns ++ (s.pcbs i).queue = s.pushed i) := by
  have hinv := run_inv route init_inv events
  refine ⟨hinv.fifo i, hinv.got i, fun he => ?_⟩
  have hall := run_allGot route init_inv (fun _ _ h => by simp [init] at h) events he i
  rw [hinv.got i, List.filter_eq_self.2 fun p hp => hall p hp]
  exact hinv.fifo i

end UdpRecvSystem

end MicroPs.Udp
