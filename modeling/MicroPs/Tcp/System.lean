/-
# The TCP stack as a system of tasks

The worker and the user tasks all run under one TCP lock, which only
`sched_sleep` gives up, so the stack is a state machine whose steps are the
atomic stretches between suspension points: a segment arrival, a timer
sweep, an event broadcast, the start of a user command, or the resumption of
a parked one. A parked task is first blocked in `pthread_cond_wait` and then,
once a broadcast or a spurious wakeup returns its wait, ready to retake the
lock. Every step gets its own clock reading, `random()` value and
`ip_output` verdicts from the environment.
-/

import MicroPs.Tcp.User

namespace MicroPs.Tcp

/-- A user task: outside the stack, or parked in `sched_sleep` on a PCB's
context, blocked in the wait (`woken = false`) or ready to retake the lock. -/
inductive TcpTask
  | idle
  | parked (wait : TcpWait) (woken : Bool)
  deriving DecidableEq, Repr

/-- The user commands. An active open always names the foreign endpoint. -/
inductive TcpCall
  | openActive (lcl frn : IpEndpoint)
  | openPassive (lcl : IpEndpoint) (frn : Option IpEndpoint)
  | close (id : Int)
  | send (id : Int) (data : List Byte)
  | receive (id : Int) (size : Nat)
  deriving DecidableEq, Repr

/-- What the system can do next. -/
inductive TcpEvent
  | call (task : Nat) (call : TcpCall)
  | resume (task : Nat)
  | spurious (task : Nat)
  | input (seg : TcpSegment)
  | retransmitTimer
  | userTimeout
  | timeWaitTimeout
  | event
  deriving DecidableEq, Repr

/-- One step's stimulus: the event, the clock reading, the value `random()`
returns if the step draws one, and `ip_output`'s verdicts on the segments a
user command sends. -/
structure TcpStimulus where
  event : TcpEvent
  now : Int
  random : BitVec 31
  ipOk : List Bool
  deriving DecidableEq, Repr

/-- A value returned by a user command to `task`, with the bytes
`tcp_receive` copied out. -/
structure TcpReturn where
  task : Nat
  value : Int
  bytes : List Byte
  deriving DecidableEq, Repr

/-- The whole stack: the TCP globals, the user tasks, every segment handed to
`ip_output` so far and every value returned to a user so far. -/
structure TcpSystem where
  world : TcpWorld
  tasks : Nat → TcpTask
  wire : List TcpSegment
  returns : List TcpReturn

namespace TcpSystem

/-- Nothing opened yet. -/
def init : TcpSystem := ⟨TcpWorld.init, fun _ => .idle, [], []⟩

/-- `pthread_cond_broadcast` on slot `i`: every task blocked on it is woken. -/
def wakeSlot (tasks : Nat → TcpTask) (i : Fin 16) : Nat → TcpTask :=
  fun t => match tasks t with
    | .parked wait false => if wait.slot = i then .parked wait true else .parked wait false
    | task => task

/-- Take over what a step did to the world: its segments go on the wire and
its broadcasts wake the tasks blocked on those slots. -/
def absorb (s : TcpSystem) (w : TcpWorld) : TcpSystem :=
  { s with world := w, wire := s.wire ++ w.out, tasks := w.woken.foldl wakeSlot s.tasks }

/-- The end of a user command's stretch for `task`: it returns, or it parks. -/
def finish (s : TcpSystem) (task : Nat) (w : TcpWorld) : TcpCallOutcome → TcpSystem
  | .ret value bytes =>
    let s := s.absorb w
    { s with tasks := Function.update s.tasks task .idle,
             returns := s.returns ++ [⟨task, value, bytes⟩] }
  | .park wait =>
    let s := s.absorb w
    { s with tasks := Function.update s.tasks task (.parked wait false) }

/-- The first stretch of a user command. -/
def startCall (routes : TcpRoutes) (st : TcpStimulus) (w : TcpWorld) :
    TcpCall → TcpWorld × TcpCallOutcome
  | .openActive lcl frn =>
    tcpOpenActive lcl frn (st.random.setWidth 32) (st.ipOk.getD 0 true) st.now w
  | .openPassive lcl frn => tcpOpenPassive lcl frn st.now w
  | .close id => tcpClose id st.now w
  | .send id data => tcpSend routes id data st.ipOk st.now w
  | .receive id size => tcpReceive id size w

/-- One step of the stack. An event that cannot happen (a task calling while
parked, resuming while still blocked) changes nothing. -/
def step (routes : TcpRoutes) (s : TcpSystem) (st : TcpStimulus) : TcpSystem :=
  let w : TcpWorld := { s.world with out := [], woken := [] }
  match st.event with
  | .call task c =>
    match s.tasks task with
    | .idle => let (w, o) := startCall routes st w c; s.finish task w o
    | _ => s
  | .resume task =>
    match s.tasks task with
    | .parked wait true => let (w, o) := tcpResume routes st.ipOk st.now wait w; s.finish task w o
    | _ => s
  | .spurious task =>
    match s.tasks task with
    | .parked wait false => { s with tasks := Function.update s.tasks task (.parked wait true) }
    | _ => s
  | .input seg =>
    match tcpInputArrival seg (st.random.setWidth 32) st.now with
    | none => s
    | some a => s.absorb (tcpSegmentArrives a w)
  | .retransmitTimer => s.absorb (tcpRetransmitTimer st.now w)
  | .userTimeout => s.absorb (tcpUserTimeout st.now w)
  | .timeWaitTimeout => s.absorb (tcpTimeWaitTimeout st.now w)
  | .event => s.absorb (tcpEventHandler w)

/-- A run of stimuli from `s`. -/
def run (routes : TcpRoutes) (s : TcpSystem) (stimuli : List TcpStimulus) : TcpSystem :=
  stimuli.foldl (step routes) s

/-- The slots that the step from `s` to `s'` released without broadcasting on
their contexts. Only `tcp_pcb_release` turns a slot `FREE`, and a handler that
broadcasts on a PCB it releases does so before the release. -/
def releasedUnwoken (s s' : TcpSystem) : List (Fin 16) :=
  (List.finRange 16).filter fun i =>
    (s.world.pcbs i).state ≠ .free ∧ (s'.world.pcbs i).state = .free ∧ i ∉ s'.world.woken

/-- The step from `s` to `s'` never ends in the real stack: it releases a PCB
while a task is blocked on the PCB's context and was not signalled, so glibc's
`pthread_cond_destroy` waits for that task forever, holding the TCP mutex.
`step` runs the handler to its end as if the destroy returned; the runs of the
stack are those whose every step does not hang. -/
def Hangs (s s' : TcpSystem) : Prop :=
  ∃ i ∈ releasedUnwoken s s', ∃ t wait, s.tasks t = .parked wait false ∧ wait.slot = i

/-- A step that releases no slot it did not broadcast on does not hang. -/
theorem not_hangs_of_releasedUnwoken_nil {s s' : TcpSystem} (h : releasedUnwoken s s' = []) :
    ¬ s.Hangs s' := by
  rintro ⟨i, hi, -⟩
  simp [h] at hi

/-- The states some run from `init` reaches. -/
def Reachable (routes : TcpRoutes) (s : TcpSystem) : Prop :=
  ∃ stimuli, run routes init stimuli = s

/-! ## A reference connection -/

/-- Routes of a host whose every destination is reached over Ethernet. -/
def ethernetRoutes : TcpRoutes := ⟨fun _ => some 1500, fun _ _ h => by cases h; decide⟩

/-- The local endpoint of the reference connection. -/
def refLocal : IpEndpoint := ⟨0x0a000001, 7⟩

/-- Its peer. -/
def refForeign : IpEndpoint := ⟨0x0a000002, 10007⟩

/-- A segment from the peer to the local endpoint. -/
def fromPeer (seq ack : BitVec 32) (flg : Byte) (wnd : BitVec 16) (data : List Byte) :
    TcpSegment :=
  ⟨seq, ack, flg, wnd, data, refForeign, refLocal⟩

/-- Task 0 opens actively with ISS 0, the peer answers SYN|ACK from ISS 1000
with a 16-byte window, and task 0 returns with the connection `ESTABLISHED`
in slot 0: `snd.una = snd.nxt = 1`, `rcv.nxt = 1001`. -/
def refHandshake : List TcpStimulus :=
  [⟨.call 0 (.openActive refLocal refForeign), 0, 0, []⟩,
   ⟨.input (fromPeer 1000 1 (tcpFlgSyn ||| tcpFlgAck) 16 []), 1000, 0, []⟩,
   ⟨.resume 0, 2000, 0, []⟩]

end TcpSystem

end MicroPs.Tcp
