/-
# Timers

`net_timer_register` puts a timer at the head of the timer list, with the
time of its registration as its last firing. On each timer tick
`net_timer_handler` walks the list; for each timer it reads the clock, takes
`timersub(now, last)` and calls the handler when
`timercmp(interval, diff, <)` holds, after which the reading becomes the
timer's last firing.

The comparison works on `struct timeval` field by field. For the readings
`gettimeofday` returns (microseconds in `[0, 1000000)`) it is a comparison of
microseconds against `timerThreshold interval`, which is the interval itself
when the interval is normalized. `tcp_init` registers two timers with
`{0, 1000000}`, whose microsecond field is out of range: these fire once a
full second has passed, where `arp_init`'s `{1, 0}` waits for more than a
second. Timers are pushed at the head, so a tick visits them newest first.

Over a whole run, with any clock readings (they need not increase), a
timer's handler is called only when more than its threshold has passed since
its previous call or its registration; so up to any time `T` it is called at
most `(T - registration) / (threshold + 1)` times.

The clock is the environment: within one tick the `k`-th timer of the list
reads `clock k`. `time_t` and `suseconds_t` are taken as unbounded integers.
-/

import Mathlib.Data.List.Chain

namespace MicroPs.Net

/-! ## `struct timeval` -/

/-- `struct timeval`. -/
structure Timeval where
  sec : Int
  usec : Int
  deriving DecidableEq, Repr

/-- `timersub` of `<sys/time.h>`: field by field, borrowing a second when the
microseconds go negative. -/
def timersub (a b : Timeval) : Timeval :=
  if a.usec - b.usec < 0 then ⟨a.sec - b.sec - 1, a.usec - b.usec + 1000000⟩
  else ⟨a.sec - b.sec, a.usec - b.usec⟩

/-- `timercmp(a, b, <)` of `<sys/time.h>`: the seconds decide unless they are
equal. -/
def timercmpLt (a b : Timeval) : Bool :=
  if a.sec = b.sec then a.usec < b.usec else a.sec < b.sec

/-- A time as `gettimeofday` returns it: microseconds in `[0, 1000000)`. -/
def Timeval.Normalized (t : Timeval) : Prop := 0 ≤ t.usec ∧ t.usec < 1000000

instance (t : Timeval) : Decidable t.Normalized := inferInstanceAs (Decidable (_ ∧ _))

/-- The time in microseconds. -/
def Timeval.micros (t : Timeval) : Int := t.sec * 1000000 + t.usec

/-- The microseconds past which `timercmp(&interval, &diff, <)` holds for a
normalized `diff`: a microsecond field past `999999` counts as `999999`, a
negative one as `-1`. -/
def timerThreshold (interval : Timeval) : Int :=
  interval.sec * 1000000 + max (-1) (min interval.usec 999999)

theorem timersub_micros (a b : Timeval) : (timersub a b).micros = a.micros - b.micros := by
  unfold timersub Timeval.micros; split <;> simp only <;> omega

theorem timersub_normalized {a b : Timeval} (ha : a.Normalized) (hb : b.Normalized) :
    (timersub a b).Normalized := by
  unfold timersub Timeval.Normalized at *; split <;> simp only <;> omega

/-- `timercmp(&interval, &diff, <)` against a normalized `diff` compares its
microseconds with the interval's threshold. -/
theorem timercmpLt_iff (interval : Timeval) {diff : Timeval} (hd : diff.Normalized) :
    timercmpLt interval diff = true ↔ timerThreshold interval < diff.micros := by
  unfold timercmpLt timerThreshold Timeval.micros Timeval.Normalized at *
  split <;> simp only [decide_eq_true_eq] <;> omega

/-! ## The timer list -/

/-- `struct net_timer`, its handler a value of `α`. -/
structure NetTimer (α : Type) where
  interval : Timeval
  last : Timeval
  handler : α
  deriving DecidableEq, Repr

variable {α : Type}

/-- `net_timer_register` at the clock reading `now`, with `memory_alloc`'s
verdict on the timer: pushed at the head of the list, or refused. -/
def netTimerRegister (allocOk : Bool) (interval : Timeval) (handler : α) (now : Timeval)
    (timers : List (NetTimer α)) : List (NetTimer α) × Int :=
  if allocOk then (⟨interval, now, handler⟩ :: timers, 0) else (timers, -1)

/-- `net_timer_handler`: the timers with their new last firings, and the
handlers it calls, in order, each with the clock reading it was called at. -/
def netTimerHandler (clock : Nat → Timeval) :
    List (NetTimer α) → List (NetTimer α) × List (α × Timeval)
  | [] => ([], [])
  | t :: ts =>
    let r := netTimerHandler (fun k => clock (k + 1)) ts
    if timercmpLt t.interval (timersub (clock 0) t.last) then
      ({ t with last := clock 0 } :: r.1, (t.handler, clock 0) :: r.2)
    else (t :: r.1, r.2)

/-- Timer ticks one after another, the calls of all of them in order. -/
def netTimerRun :
    List (Nat → Timeval) → List (NetTimer α) → List (NetTimer α) × List (α × Timeval)
  | [], ts => (ts, [])
  | clock :: clocks, ts =>
    let r := netTimerHandler clock ts
    let r' := netTimerRun clocks r.1
    (r'.1, r.2 ++ r'.2)

/-! ## The stack's timers -/

/-- The handlers `net_init` registers timers for. -/
inductive TimerHandler
  | arpTimerHandler
  | tcpRetransmitTimer
  | tcpUserTimeout
  | tcpTimeWaitTimeout
  deriving DecidableEq, Repr

/-- `arp_init`'s `interval`, `{1, 0}`. -/
def arpTimerInterval : Timeval := ⟨1, 0⟩

/-- `tcp_init`'s `retransmit_interval`, `{0, 100000}`. -/
def tcpRetransmitInterval : Timeval := ⟨0, 100000⟩

/-- `tcp_init`'s `user_timeout_interval`, `{0, 1000000}`. -/
def tcpUserTimeoutInterval : Timeval := ⟨0, 1000000⟩

/-- `tcp_init`'s `tcp_time_wait_interval`, `{0, 1000000}`. -/
def tcpTimeWaitInterval : Timeval := ⟨0, 1000000⟩

/-- The timers as `net_init` leaves them when every allocation succeeds:
`arp_init` registers its timer at the reading `r₁`, then `tcp_init` its three
at `r₂`, `r₃` and `r₄`. -/
def netInitTimers (r₁ r₂ r₃ r₄ : Timeval) : List (NetTimer TimerHandler) :=
  let ts := (netTimerRegister true arpTimerInterval .arpTimerHandler r₁ []).1
  let ts := (netTimerRegister true tcpRetransmitInterval .tcpRetransmitTimer r₂ ts).1
  let ts := (netTimerRegister true tcpUserTimeoutInterval .tcpUserTimeout r₃ ts).1
  (netTimerRegister true tcpTimeWaitInterval .tcpTimeWaitTimeout r₄ ts).1

/-- The interval `{0, 1000000}` of `tcp_user_timeout` and `tcp_time_wait_timeout`
holds a whole second in its microsecond field, which a normalized `diff`
never reaches: these timers are due once a second has passed since their
last firing, where `arp_init`'s `{1, 0}` waits for more than a second and the
retransmit timer for more than 100 ms. -/
theorem netInitTimers_timercmp {now last : Timeval} (hnow : now.Normalized)
    (hlast : last.Normalized) :
    (timercmpLt tcpUserTimeoutInterval (timersub now last) = true ↔
        1000000 ≤ now.micros - last.micros) ∧
      (timercmpLt tcpTimeWaitInterval (timersub now last) = true ↔
        1000000 ≤ now.micros - last.micros) ∧
      (timercmpLt tcpRetransmitInterval (timersub now last) = true ↔
        100000 < now.micros - last.micros) ∧
      (timercmpLt arpTimerInterval (timersub now last) = true ↔
        1000000 < now.micros - last.micros) := by
  simp only [timercmpLt_iff _ (timersub_normalized hnow hlast), timersub_micros, timerThreshold,
    tcpUserTimeoutInterval, tcpTimeWaitInterval, tcpRetransmitInterval, arpTimerInterval]
  omega

/-- A last firing at `0.5 s` and a reading exactly a second later. -/
theorem netInitTimers_timercmp_half :
    (⟨1, 500000⟩ : Timeval).Normalized ∧ (⟨0, 500000⟩ : Timeval).Normalized ∧
      (timercmpLt tcpUserTimeoutInterval (timersub ⟨1, 500000⟩ ⟨0, 500000⟩) = true ↔
        1000000 ≤ Timeval.micros ⟨1, 500000⟩ - Timeval.micros ⟨0, 500000⟩) :=
  ⟨by decide, by decide, (netInitTimers_timercmp (by decide) (by decide)).1⟩

/-! ## One tick in microseconds -/

/-- A timer is due at the reading `now` when more than its threshold has
passed since its last firing. -/
def NetTimer.Due (t : NetTimer α) (now : Timeval) : Prop :=
  timerThreshold t.interval < now.micros - t.last.micros

instance (t : NetTimer α) (now : Timeval) : Decidable (t.Due now) :=
  inferInstanceAs (Decidable (_ < _))

/-- The readings the timers of a list of `n` take in one tick. -/
def tickReadings (clock : Nat → Timeval) (n : Nat) : List Timeval := (List.range n).map clock

theorem tickReadings_succ (clock : Nat → Timeval) (n : Nat) :
    tickReadings clock (n + 1) = clock 0 :: tickReadings (fun k => clock (k + 1)) n := by
  simp [tickReadings, List.range_succ_eq_map]

/-- The loop body of `net_timer_handler` in microseconds. -/
theorem netTimerHandler_cons {clock : Nat → Timeval} (hclock : (clock 0).Normalized)
    {t : NetTimer α} (hlast : t.last.Normalized) (ts : List (NetTimer α)) :
    netTimerHandler clock (t :: ts) =
      let r := netTimerHandler (fun k => clock (k + 1)) ts
      if t.Due (clock 0) then ({ t with last := clock 0 } :: r.1, (t.handler, clock 0) :: r.2)
      else (t :: r.1, r.2) := by
  have hdue : timercmpLt t.interval (timersub (clock 0) t.last) = true ↔ t.Due (clock 0) := by
    rw [timercmpLt_iff _ (timersub_normalized hclock hlast), timersub_micros, NetTimer.Due]
  simp only [netTimerHandler]
  by_cases h : t.Due (clock 0)
  · rw [if_pos (hdue.2 h), if_pos h]
  · rw [if_neg (mt hdue.1 h), if_neg h]

/-- A tick leaves every timer's handler where it was. -/
theorem netTimerHandler_handlers (ts : List (NetTimer α)) (clock : Nat → Timeval) :
    (netTimerHandler clock ts).1.map (·.handler) = ts.map (·.handler) := by
  induction ts generalizing clock with
  | nil => rfl
  | cons t ts ih => simp only [netTimerHandler]; split <;> simp [ih]

/-- A tick with normalized readings keeps every last firing normalized. -/
theorem netTimerHandler_last_normalized (ts : List (NetTimer α)) {clock : Nat → Timeval}
    (hclock : ∀ k, (clock k).Normalized) (hlast : ∀ t ∈ ts, t.last.Normalized) :
    ∀ t ∈ (netTimerHandler clock ts).1, t.last.Normalized := by
  induction ts generalizing clock with
  | nil => simp [netTimerHandler]
  | cons t ts ih =>
    have ih := ih (fun k => hclock (k + 1)) (fun t ht => hlast t (.tail _ ht))
    rw [netTimerHandler_cons (hclock 0) (hlast t (.head _))]
    split
    · exact List.forall_mem_cons.2 ⟨hclock 0, ih⟩
    · exact List.forall_mem_cons.2 ⟨hlast t (.head _), ih⟩

/-- One tick of `net_timer_handler`, with normalized clock readings and last
firings: every due timer, in list order, has its handler called with its
reading and takes the reading as its last firing; every other timer is left
as it was. -/
theorem netTimerHandler_due (ts : List (NetTimer α)) (clock : Nat → Timeval)
    (hclock : ∀ k, (clock k).Normalized) (hlast : ∀ t ∈ ts, t.last.Normalized) :
    netTimerHandler clock ts =
      (List.zipWith (fun t now => if t.Due now then { t with last := now } else t) ts
          (tickReadings clock ts.length),
        ((ts.zip (tickReadings clock ts.length)).filter (fun p => decide (p.1.Due p.2))).map
          (fun p => (p.1.handler, p.2))) := by
  induction ts generalizing clock with
  | nil => simp [netTimerHandler, tickReadings]
  | cons t ts ih =>
    rw [netTimerHandler_cons (hclock 0) (hlast t (.head _)), List.length_cons, tickReadings_succ,
      ih _ (fun k => hclock (k + 1)) (fun t ht => hlast t (.tail _ ht))]
    by_cases h : t.Due (clock 0) <;> simp [h]

/-- The stack's timers, all registered at time zero, ticked a second later. -/
theorem netTimerHandler_due_netInit :
    let ts := netInitTimers ⟨0, 0⟩ ⟨0, 0⟩ ⟨0, 0⟩ ⟨0, 0⟩
    let clock : Nat → Timeval := fun _ => ⟨1, 0⟩
    netTimerHandler clock ts =
      (List.zipWith (fun t now => if t.Due now then { t with last := now } else t) ts
          (tickReadings clock ts.length),
        ((ts.zip (tickReadings clock ts.length)).filter (fun p => decide (p.1.Due p.2))).map
          (fun p => (p.1.handler, p.2))) :=
  netTimerHandler_due _ _ (fun _ => by decide) (by decide)

/-! ## Runs -/

/-- A tick calls handlers of its timers only, in list order. -/
theorem netTimerHandler_handlers_sublist (ts : List (NetTimer α)) (clock : Nat → Timeval) :
    ((netTimerHandler clock ts).2.map (·.1)).Sublist (ts.map (·.handler)) := by
  induction ts generalizing clock with
  | nil => simp [netTimerHandler]
  | cons t ts ih =>
    simp only [netTimerHandler]
    split
    · exact (ih _).cons₂ _
    · exact (ih _).cons _

/-- Every call of a tick is made at a reading of its clock. -/
theorem netTimerHandler_readings (ts : List (NetTimer α)) (clock : Nat → Timeval) :
    ∀ e ∈ (netTimerHandler clock ts).2, ∃ k, e.2 = clock k := by
  induction ts generalizing clock with
  | nil => simp [netTimerHandler]
  | cons t ts ih =>
    simp only [netTimerHandler]
    split
    · rintro e (_ | ⟨_, he⟩)
      · exact ⟨0, rfl⟩
      · obtain ⟨k, hk⟩ := ih _ e he; exact ⟨k + 1, hk⟩
    · intro e he; obtain ⟨k, hk⟩ := ih _ e he; exact ⟨k + 1, hk⟩

/-- Every call of a run is made at a reading of one of its ticks' clocks. -/
theorem netTimerRun_readings (clocks : List (Nat → Timeval)) (ts : List (NetTimer α)) :
    ∀ e ∈ (netTimerRun clocks ts).2, ∃ clock ∈ clocks, ∃ k, e.2 = clock k := by
  induction clocks generalizing ts with
  | nil => simp [netTimerRun]
  | cons clock clocks ih =>
    simp only [netTimerRun, List.mem_append, List.mem_cons]
    rintro e (he | he)
    · exact ⟨clock, .inl rfl, netTimerHandler_readings ts clock e he⟩
    · obtain ⟨c, hc, hk⟩ := ih _ e he; exact ⟨c, .inr hc, hk⟩

variable [DecidableEq α]

/-- The calls a log holds of one handler, as the readings they were made at. -/
def callsOf (log : List (α × Timeval)) (h : α) : List Timeval :=
  (log.filter (fun e => decide (e.1 = h))).map (·.2)

@[simp] theorem callsOf_nil (h : α) : callsOf [] h = [] := rfl

@[simp] theorem callsOf_cons (e : α × Timeval) (log : List (α × Timeval)) (h : α) :
    callsOf (e :: log) h = if e.1 = h then e.2 :: callsOf log h else callsOf log h := by
  by_cases he : e.1 = h <;> simp [callsOf, List.filter_cons, he]

@[simp] theorem callsOf_append (log log' : List (α × Timeval)) (h : α) :
    callsOf (log ++ log') h = callsOf log h ++ callsOf log' h := by
  simp [callsOf]

theorem callsOf_eq_nil {log : List (α × Timeval)} {h : α} (hh : h ∉ log.map (·.1)) :
    callsOf log h = [] := by
  simp only [callsOf, List.map_eq_nil_iff, List.filter_eq_nil_iff, decide_eq_true_eq]
  exact fun e he heq => hh (heq ▸ List.mem_map_of_mem _ he)

/-- What a tick does to one timer of a list whose handlers are distinct: it
calls the timer's handler not at all, leaving the timer as it was, or once, at
a reading at which the timer was due and which becomes its last firing. -/
theorem netTimerHandler_calls (ts : List (NetTimer α)) {clock : Nat → Timeval}
    (hclock : ∀ k, (clock k).Normalized) (hlast : ∀ t ∈ ts, t.last.Normalized)
    (hnd : (ts.map (·.handler)).Nodup) {t : NetTimer α} (ht : t ∈ ts) :
    ∃ t' ∈ (netTimerHandler clock ts).1, t'.interval = t.interval ∧ t'.handler = t.handler ∧
      (callsOf (netTimerHandler clock ts).2 t.handler = [] ∧ t' = t ∨
        callsOf (netTimerHandler clock ts).2 t.handler = [t'.last] ∧ t.Due t'.last) := by
  induction ts generalizing clock with
  | nil => exact absurd ht (List.not_mem_nil t)
  | cons u ts ih =>
    obtain ⟨hnotin, hnd'⟩ := List.nodup_cons.1 hnd
    rw [netTimerHandler_cons (hclock 0) (hlast u (.head _))]
    rcases List.mem_cons.1 ht with rfl | ht
    · -- the rest of the tick calls other handlers only
      have hnone : callsOf (netTimerHandler (fun k => clock (k + 1)) ts).2 t.handler = [] :=
        callsOf_eq_nil fun h => hnotin ((netTimerHandler_handlers_sublist ts _).subset h)
      by_cases h : t.Due (clock 0) <;> simp [h, hnone]
    · obtain ⟨t', ht', hiv, hh, hcalls⟩ := ih (fun k => hclock (k + 1))
        (fun t ht => hlast t (.tail _ ht)) hnd' ht
      have hne : u.handler ≠ t.handler := fun h => hnotin (List.mem_map.2 ⟨t, ht, h.symm⟩)
      refine ⟨t', ?_, hiv, hh, ?_⟩ <;> by_cases h : u.Due (clock 0) <;>
        simp [h, hne, ht', hcalls]

/-- Readings each more than `thr` after the one before, all up to `T`, are at
most `(T - a) / (thr + 1)` in number after a start `a`. -/
theorem chain_length_mul_le {thr T : Int} {a : Timeval} {l : List Timeval}
    (h : l.Chain (fun a b => thr < b.micros - a.micros) a) (hl : ∀ b ∈ l, b.micros ≤ T)
    (ha : a.micros ≤ T) : l.length * (thr + 1) ≤ T - a.micros := by
  induction h with
  | nil => simp only [List.length_nil, Int.natCast_zero, Int.zero_mul]; omega
  | @cons a b l hab _ ih =>
    have := ih (fun c hc => hl c (.tail _ hc)) (hl b (.head _))
    rw [List.length_cons, Int.natCast_add, Int.add_mul, Int.natCast_one, Int.one_mul]
    omega

/-- Over a run, the calls of one timer's handler, in the list of distinct
handlers, come each more than its threshold after the one before, the first
more than its threshold after its registration. -/
theorem netTimerRun_callsOf_chain (clocks : List (Nat → Timeval)) (ts : List (NetTimer α))
    (hclock : ∀ clock ∈ clocks, ∀ k, (clock k).Normalized)
    (hlast : ∀ t ∈ ts, t.last.Normalized) (hnd : (ts.map (·.handler)).Nodup) {t : NetTimer α}
    (ht : t ∈ ts) :
    (callsOf (netTimerRun clocks ts).2 t.handler).Chain
      (fun a b => timerThreshold t.interval < b.micros - a.micros) t.last := by
  induction clocks generalizing ts t with
  | nil => simp [netTimerRun]
  | cons clock clocks ih =>
    have hc := hclock clock (.head _)
    have hlast' := netTimerHandler_last_normalized ts hc hlast
    have hnd' := (netTimerHandler_handlers ts clock).symm ▸ hnd
    obtain ⟨t', ht', hiv, hh, hcalls⟩ := netTimerHandler_calls ts hc hlast hnd ht
    have hrest := ih _ (fun c hc => hclock c (.tail _ hc)) hlast' hnd' ht'
    rw [hiv, hh] at hrest
    simp only [netTimerRun, callsOf_append]
    rcases hcalls with ⟨hnil, rfl⟩ | ⟨hone, hdue⟩
    · rwa [hnil, List.nil_append]
    · rw [hone, List.singleton_append]
      exact .cons hdue hrest

/-- Over any run of timer ticks with normalized readings, from a timer list
with normalized last firings and distinct handlers: the calls of a timer's
handler come each more than its threshold after the one before, the first
more than its threshold after its registration; so if no reading passes `T`,
it is called at most `(T - last) / (threshold + 1)` times. The clock need not
increase. -/
theorem netTimerRun_spacing (clocks : List (Nat → Timeval)) (ts : List (NetTimer α))
    (hclock : ∀ clock ∈ clocks, ∀ k, (clock k).Normalized)
    (hlast : ∀ t ∈ ts, t.last.Normalized) (hnd : (ts.map (·.handler)).Nodup) {t : NetTimer α}
    (ht : t ∈ ts) :
    (callsOf (netTimerRun clocks ts).2 t.handler).Chain
        (fun a b => timerThreshold t.interval < b.micros - a.micros) t.last ∧
      ∀ T : Int, (∀ clock ∈ clocks, ∀ k, (clock k).micros ≤ T) → t.last.micros ≤ T →
        (callsOf (netTimerRun clocks ts).2 t.handler).length * (timerThreshold t.interval + 1) ≤
          T - t.last.micros := by
  have hchain := netTimerRun_callsOf_chain clocks ts hclock hlast hnd ht
  refine ⟨hchain, fun T hT hT' => chain_length_mul_le hchain (fun b hb => ?_) hT'⟩
  obtain ⟨e, he, rfl⟩ := List.mem_map.1 hb
  obtain ⟨clock, hc, k, hk⟩ := netTimerRun_readings clocks ts e (List.mem_of_mem_filter he)
  exact hk ▸ hT clock hc k

/-- The stack's timers registered at time zero, ticked at `0.5 s`, `1 s`,
`1.000001 s` and `2.5 s`: the calls of `arp_timer_handler`. -/
theorem netTimerRun_spacing_arp :
    let clocks : List (Nat → Timeval) :=
      [fun _ => ⟨0, 500000⟩, fun _ => ⟨1, 0⟩, fun _ => ⟨1, 1⟩, fun _ => ⟨2, 500000⟩]
    let ts := netInitTimers ⟨0, 0⟩ ⟨0, 0⟩ ⟨0, 0⟩ ⟨0, 0⟩
    let t : NetTimer TimerHandler := ⟨arpTimerInterval, ⟨0, 0⟩, .arpTimerHandler⟩
    (callsOf (netTimerRun clocks ts).2 t.handler).Chain
        (fun a b => timerThreshold t.interval < b.micros - a.micros) t.last ∧
      ∀ T : Int, (∀ clock ∈ clocks, ∀ k, (clock k).micros ≤ T) → t.last.micros ≤ T →
        (callsOf (netTimerRun clocks ts).2 t.handler).length * (timerThreshold t.interval + 1) ≤
          T - t.last.micros :=
  netTimerRun_spacing _ _ (by simp [Timeval.Normalized]) (by decide) (by decide) (by decide)

end MicroPs.Net
