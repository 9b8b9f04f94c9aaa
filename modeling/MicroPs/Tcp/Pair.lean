/-
# Two stacks on one wire

Two instances of the stack joined by a lossless, in-order channel in each
direction. Each side takes its own steps: user commands, resumptions,
timers, events. A segment one side hands to `ip_output` is queued on the
channel towards the other side and arrives there, in order, through
`tcp_input`; nothing else delivers segments.

`tcp_receive` frees buffer space without telling the peer: it sends nothing.
Once the receiver's window has closed, the sender's only news of its
reopening would be a later segment from the receiver, and the sender has no
persist timer to ask for one.
-/

import MicroPs.Tcp.Window

namespace MicroPs.Tcp

/-- `tcp_receive` hands nothing to `ip_output`: the window it reopens is not
announced. -/
theorem tcpReceive_out (id : Int) (size : Nat) (w : TcpWorld) :
    (tcpReceive id size w).1.out = w.out := by
  unfold tcpReceive tcpReceiveRetry TcpWorld.sleepEnter
  dsimp only
  split
  · rfl
  · split
    · split_ifs
      · cases Platform.schedSleepEnter (w.pcbs _).ctx <;> rfl
      · rfl
    · split_ifs <;> rfl
    · rfl

/-- Two stacks and the segments in flight between them. -/
structure TcpPair where
  left : TcpSystem
  right : TcpSystem
  toRight : List TcpSegment
  toLeft : List TcpSegment

/-- A step of one side (other than an arrival, which only the channel
causes), or the delivery of the oldest segment in flight towards a side. -/
inductive TcpPairEvent
  | left (st : TcpStimulus)
  | right (st : TcpStimulus)
  | deliverRight (now : Int) (random : BitVec 31)
  | deliverLeft (now : Int) (random : BitVec 31)

/-- Whether an event is a segment arrival. -/
def TcpEvent.isInput : TcpEvent → Bool
  | .input _ => true
  | _ => false

namespace TcpPair

open TcpSystem

/-- Both stacks fresh, nothing in flight. -/
def init : TcpPair := ⟨TcpSystem.init, TcpSystem.init, [], []⟩

/-- The segments a step of `s` put on the wire. -/
def sent (s s' : TcpSystem) : List TcpSegment := s'.wire.drop s.wire.length

/-- One step of the pair. -/
def step (routes : TcpRoutes) (p : TcpPair) : TcpPairEvent → TcpPair
  | .left st =>
    if st.event.isInput then p else
      let s := TcpSystem.step routes p.left st
      { p with left := s, toRight := p.toRight ++ sent p.left s }
  | .right st =>
    if st.event.isInput then p else
      let s := TcpSystem.step routes p.right st
      { p with right := s, toLeft := p.toLeft ++ sent p.right s }
  | .deliverRight now random =>
    match p.toRight with
    | [] => p
    | seg :: rest =>
      let s := TcpSystem.step routes p.right ⟨.input seg, now, random, []⟩
      { p with right := s, toRight := rest, toLeft := p.toLeft ++ sent p.right s }
  | .deliverLeft now random =>
    match p.toLeft with
    | [] => p
    | seg :: rest =>
      let s := TcpSystem.step routes p.left ⟨.input seg, now, random, []⟩
      { p with left := s, toLeft := rest, toRight := p.toRight ++ sent p.left s }

/-- A run of the pair. -/
def run (routes : TcpRoutes) (p : TcpPair) (events : List TcpPairEvent) : TcpPair :=
  events.foldl (step routes) p

/-- The left side opens actively towards the right side, which listens; then
the left side's task 0 writes 64 bytes into the right side's 16-byte window
and the right side's task 1 reads what arrived. -/
def flowControlRun : List TcpPairEvent :=
  [.right ⟨.call 0 (.openPassive refForeign none), 0, 0, []⟩,
   .left ⟨.call 0 (.openActive refLocal refForeign), 0, 0, []⟩,
   .deliverRight 100 500,
   .deliverLeft 200 0,
   .left ⟨.resume 0, 300, 0, []⟩,
   .deliverRight 400 0,
   .right ⟨.resume 0, 500, 0, []⟩,
   .left ⟨.call 0 (.send 0 (List.replicate 64 0x63)), 600, 0, []⟩,
   .deliverRight 700 0,
   .deliverLeft 800 0,
   .right ⟨.call 1 (.receive 0 16), 900, 0, []⟩]

/-- After `flowControlRun` the sender waits in `tcp_send` with no usable
window, the receiver's buffer is empty and its window fully open, nothing is
in flight either way, and the sender's retransmission queue is empty. No
`tcp_receive` hands anything to `ip_output`, so the window it reopens is never
announced. -/
theorem flowControlRun_stalls :
    let p : TcpPair := run ethernetRoutes init flowControlRun
    (p.left.tasks 0 = .parked (.send 0 (List.replicate 64 0x63) 16) false ∧
      tcpSendCap (p.left.world.pcbs 0) = 0 ∧ (p.right.world.pcbs 0).rcv.wnd = 16 ∧
      p.toRight = [] ∧ p.toLeft = [] ∧ (p.left.world.pcbs 0).queue = []) ∧
    ∀ (id : Int) (size : Nat) (w : TcpWorld), (tcpReceive id size w).1.out = w.out :=
  ⟨by decide, tcpReceive_out⟩

end TcpPair

end MicroPs.Tcp
