/-
# Scheduling contexts

A `sched_ctx` (platform/linux/sched.c) is a condition variable with a wait
count `wc` and an `interrupted` flag. `sched_sleep` has one suspension point,
`pthread_cond_wait`, so it is modelled as the code before it
(`schedSleepEnter`) and the code after it (`schedSleepLeave`). The wait itself
and `pthread_cond_broadcast` belong to the interleaving model `SchedSystem`,
which puts any number of tasks on one context and lets them sleep, be woken,
be interrupted or wake spuriously in any order. The TCP engine reuses the
same two halves for the contexts inside its PCBs.
-/

import Mathlib.Data.List.Basic
import Mathlib.Algebra.Group.Int
import Mathlib.Algebra.Group.Nat.Basic

namespace MicroPs.Platform

/-- The data of `struct sched_ctx`; the condition variable itself is the set
of tasks blocked on it, kept by whoever runs the interleaving. -/
structure SchedCtx where
  interrupted : Bool
  wc : Int
  deriving DecidableEq, Repr

/-- `sched_ctx_init`. -/
def schedCtxInit : SchedCtx := ⟨false, 0⟩

/-- `pthread_cond_destroy` of glibc 2.25 and later, the C library of the
Linux platform. It waits until every thread waiting on the variable has
confirmed its wakeup, which a signalled thread does before it retakes the
mutex, and then returns `0`. A thread blocked and never signalled never
confirms, so while one waits (`blocked`) the call does not return (`none`).
It never answers `-1`. -/
def pthreadCondDestroy (blocked : Bool) : Option Int := if blocked then none else some 0

/-- `sched_ctx_destroy` returns what `pthread_cond_destroy` returns. The
condition variable is the part of the context the interleaving keeps:
`blocked` says whether a task is blocked on it and was not signalled. -/
def schedCtxDestroy (blocked : Bool) : Option Int := pthreadCondDestroy blocked

/-- The comparison with `-1` that the release paths of tcp.c and udp.c make
can never succeed: the call returns `0` or does not return. -/
theorem schedCtxDestroy_ne_neg_one (blocked : Bool) : schedCtxDestroy blocked ≠ some (-1) := by
  unfold schedCtxDestroy pthreadCondDestroy
  split <;> simp

/-- `sched_sleep` up to `pthread_cond_wait`: `none` is the early `-1` return
on a set flag; otherwise the wait count goes up and the task blocks. -/
def schedSleepEnter (ctx : SchedCtx) : Option SchedCtx :=
  if ctx.interrupted then none else some { ctx with wc := ctx.wc + 1 }

/-- `sched_sleep` after `pthread_cond_wait` has returned `0` (no caller passes
a deadline): the count goes down, and a set flag is reported as `-1` and
cleared by the last task to leave. -/
def schedSleepLeave (ctx : SchedCtx) : SchedCtx × Int :=
  if ctx.interrupted then
    ({ interrupted := ctx.wc - 1 ≠ 0, wc := ctx.wc - 1 }, -1)
  else
    ({ ctx with wc := ctx.wc - 1 }, 0)

/-- `sched_interrupt` sets the flag; its broadcast is the caller's business. -/
def schedInterrupt (ctx : SchedCtx) : SchedCtx := { ctx with interrupted := true }

@[simp] theorem schedSleepEnter_of_interrupted {ctx : SchedCtx} (h : ctx.interrupted) :
    schedSleepEnter ctx = none := by
  simp [schedSleepEnter, h]

@[simp] theorem schedSleepEnter_of_not_interrupted {ctx : SchedCtx} (h : ctx.interrupted = false) :
    schedSleepEnter ctx = some { ctx with wc := ctx.wc + 1 } := by
  simp [schedSleepEnter, h]

@[simp] theorem schedSleepLeave_wc (ctx : SchedCtx) : (schedSleepLeave ctx).1.wc = ctx.wc - 1 := by
  unfold schedSleepLeave; split <;> rfl

/-- A woken task reports the flag exactly when it is set. -/
@[simp] theorem schedSleepLeave_ret (ctx : SchedCtx) :
    (schedSleepLeave ctx).2 = if ctx.interrupted then -1 else 0 := by
  unfold schedSleepLeave; split <;> simp_all

/-- The flag survives a task's leaving unless that task was the last one. -/
theorem schedSleepLeave_interrupted (ctx : SchedCtx) :
    (schedSleepLeave ctx).1.interrupted = (ctx.interrupted && ctx.wc - 1 ≠ 0) := by
  unfold schedSleepLeave; split <;> simp_all

/-! ## Any number of tasks on one context -/

/-- One context and the tasks on it. A task is `waiting` while blocked in
`pthread_cond_wait`, `woken` once the wait has returned and before it retakes
the lock; every other task runs outside `sched_sleep`. -/
structure SchedSystem where
  ctx : SchedCtx
  waiting : List Nat
  woken : List Nat
  deriving DecidableEq, Repr

/-- What can happen to the context: a task calls `sched_sleep`, someone calls
`sched_wakeup` or `sched_interrupt`, a wait returns without a broadcast, or a
woken task retakes the lock and finishes its `sched_sleep`. -/
inductive SchedEvent
  | sleep (task : Nat)
  | wakeup
  | interrupt
  | spurious (task : Nat)
  | resume (task : Nat)
  deriving DecidableEq, Repr

namespace SchedSystem

/-- A fresh context with nobody on it. -/
def init : SchedSystem := ⟨schedCtxInit, [], []⟩

/-- The tasks between the `wc++` and the `wc--` of their `sched_sleep`. -/
def parked (s : SchedSystem) : List Nat := s.waiting ++ s.woken

/-- `pthread_cond_broadcast`: every blocked task's wait returns. -/
def broadcast (s : SchedSystem) : SchedSystem :=
  { s with waiting := [], woken := s.woken ++ s.waiting }

/-- One event, with the `sched_sleep` returns it produces as `(task, value)`.
A task already parked cannot call `sched_sleep` again. -/
def step (s : SchedSystem) : SchedEvent → SchedSystem × List (Nat × Int)
  | .sleep task =>
    if task ∈ s.parked then (s, []) else
      match schedSleepEnter s.ctx with
      | none => (s, [(task, -1)])
      | some ctx => ({ s with ctx, waiting := s.waiting ++ [task] }, [])
  | .wakeup => (s.broadcast, [])
  | .interrupt => ({ s.broadcast with ctx := schedInterrupt s.ctx }, [])
  | .spurious task =>
    if task ∈ s.waiting then
      ({ s with waiting := s.waiting.erase task, woken := s.woken ++ [task] }, [])
    else (s, [])
  | .resume task =>
    if task ∈ s.woken then
      let (ctx, ret) := schedSleepLeave s.ctx
      ({ s with ctx, woken := s.woken.erase task }, [(task, ret)])
    else (s, [])

/-- A run: the final context and every `sched_sleep` return, in order. -/
def run : SchedSystem → List SchedEvent → SchedSystem × List (Nat × Int)
  | s, [] => (s, [])
  | s, e :: events =>
    let (s₁, out₁) := s.step e
    let (s₂, out₂) := run s₁ events
    (s₂, out₁ ++ out₂)

/-- The wait count is the number of parked tasks. -/
def Counted (s : SchedSystem) : Prop := s.ctx.wc = s.waiting.length + s.woken.length

theorem init_counted : init.Counted := rfl

theorem step_counted {s : SchedSystem} (h : s.Counted) (e : SchedEvent) : (s.step e).1.Counted := by
  unfold Counted at *
  cases e with
  | sleep task =>
    simp only [step]
    split
    · exact h
    · cases hint : s.ctx.interrupted
      · simp [schedSleepEnter_of_not_interrupted hint, h]; omega
      · simpa [schedSleepEnter_of_interrupted hint] using h
  | wakeup | interrupt => simp [step, broadcast, schedInterrupt, h]; omega
  | spurious task | resume task =>
    simp only [step]
    split
    · rename_i hmem
      have := List.length_pos_of_mem hmem
      simp [List.length_erase_of_mem hmem, h]
      omega
    · exact h

theorem run_counted {s : SchedSystem} (h : s.Counted) (events : List SchedEvent) :
    (run s events).1.Counted := by
  induction events generalizing s with
  | nil => exact h
  | cons e events ih => exact ih (step_counted h e)

/-! ## What an interrupt does to the tasks parked on the context -/

/-- Parked tasks still to report a pending interrupt: the flag is set and
`task` has not yet left its `sched_sleep`. -/
def Pending (task : Nat) (s : SchedSystem) : Prop := task ∈ s.parked ∧ s.ctx.interrupted

/-- Another task leaving cannot clear the flag while `task` is still parked:
the count is at least two before the decrement. -/
theorem step_resume_other_pending {s : SchedSystem} {task other : Nat} (hc : s.Counted)
    (hp : s.Pending task) (hne : other ≠ task) (hmem : other ∈ s.woken) :
    (s.step (.resume other)).1.Pending task ∧
      ∀ p ∈ (s.step (.resume other)).2, p.1 ≠ task := by
  obtain ⟨hpark, hint⟩ := hp
  have hlen : 2 ≤ s.waiting.length + s.woken.length := by
    rcases List.mem_append.mp hpark with hw | hw
    · have := List.length_pos_of_mem hw
      have := List.length_pos_of_mem hmem
      omega
    · have hrest := List.length_pos_of_mem ((List.mem_erase_of_ne hne.symm).mpr hw)
      rw [List.length_erase_of_mem hmem] at hrest
      omega
  simp only [step, hmem, if_true, Pending, parked, List.mem_append, List.mem_singleton,
    List.mem_erase_of_ne hne.symm, schedSleepLeave_interrupted, hint, Bool.true_and,
    decide_eq_true_eq, ne_eq, forall_eq, Prod.mk.injEq]
  exact ⟨⟨List.mem_append.mp hpark, by unfold Counted at hc; omega⟩, hne⟩

/-- One event either leaves `task` parked with the flag still set, reporting
nothing for it, or is `task`'s own resumption, which reports `-1`. -/
theorem step_pending {s : SchedSystem} {task : Nat} (hc : s.Counted) (hp : s.Pending task)
    (e : SchedEvent) :
    ((s.step e).1.Pending task ∧ ∀ p ∈ (s.step e).2, p.1 ≠ task) ∨
      (s.step e).2 = [(task, -1)] := by
  obtain ⟨hpark, hint⟩ := hp
  cases e with
  | sleep other =>
    left
    by_cases hin : other ∈ s.parked
    · simp [step, hin, Pending, hpark, hint]
    · have hne : other ≠ task := fun h => hin (h ▸ hpark)
      simp [step, hin, schedSleepEnter_of_interrupted hint, Pending, hpark, hint, hne]
  | wakeup | interrupt =>
    left
    simp only [step, broadcast, schedInterrupt, Pending, parked, List.nil_append,
      List.mem_append] at hpark ⊢
    exact ⟨⟨by tauto, by simp [hint]⟩, by simp⟩
  | spurious other =>
    left
    simp only [step]
    split
    · refine ⟨⟨?_, hint⟩, by simp⟩
      simp only [parked, List.mem_append, List.mem_singleton] at hpark ⊢
      by_cases hne : task = other
      · exact .inr (.inr hne)
      · rw [List.mem_erase_of_ne hne]; tauto
    · exact ⟨⟨hpark, hint⟩, by simp⟩
  | resume other =>
    by_cases hmem : other ∈ s.woken
    · by_cases hne : other = task
      · subst hne
        right
        simp [step, hmem, hint]
      · exact .inl (step_resume_other_pending hc ⟨hpark, hint⟩ hne hmem)
    · left
      simp [step, hmem, Pending, hpark, hint]

/-- Along any continuation, the first `sched_sleep` return of a task that was
parked under a set flag is `-1`. -/
theorem run_pending_reports {s : SchedSystem} {task : Nat} (hc : s.Counted)
    (hp : s.Pending task) (events : List SchedEvent) :
    ∀ p ∈ (run s events).2.find? (·.1 == task), p.2 = -1 := by
  induction events generalizing s with
  | nil => simp [run]
  | cons e events ih =>
    rcases step_pending hc hp e with ⟨hp', hout⟩ | hout
    · have hfind : (s.step e).2.find? (·.1 == task) = none :=
        List.find?_eq_none.mpr fun p hp => by simpa using hout p hp
      simpa [run, List.find?_append, hfind] using ih (step_counted hc e) hp'
    · simp [run, List.find?_append, hout]

/-- A flag set while nobody is parked: no task can park any more, so nothing
ever clears it. -/
def Latched (s : SchedSystem) : Prop := s.ctx.interrupted ∧ s.waiting = [] ∧ s.woken = []

theorem step_latched {s : SchedSystem} (h : s.Latched) (e : SchedEvent) :
    (s.step e).1.Latched ∧ ∀ p ∈ (s.step e).2, p.2 = -1 := by
  obtain ⟨hint, hw, hk⟩ := h
  cases e <;> simp [step, broadcast, schedInterrupt, parked, Latched,
    schedSleepEnter_of_interrupted hint, hint, hw, hk]

theorem run_latched {s : SchedSystem} (h : s.Latched) (events : List SchedEvent) :
    (run s events).1.Latched ∧ ∀ p ∈ (run s events).2, p.2 = -1 := by
  induction events generalizing s with
  | nil => simpa [run] using h
  | cons e events ih =>
    obtain ⟨h', hout⟩ := step_latched h e
    obtain ⟨hrun, hrest⟩ := ih h'
    exact ⟨hrun, fun p hp => (List.mem_append.mp hp).elim (hout p) (hrest p)⟩

theorem step_interrupt_pending {s : SchedSystem} {task : Nat} (h : task ∈ s.parked) :
    (s.step .interrupt).1.Pending task := by
  simp only [step, broadcast, schedInterrupt, Pending, parked, List.nil_append,
    List.mem_append] at h ⊢
  exact ⟨by tauto, trivial⟩

/-- On one context, from the initial state and any interleaving: the wait
count equals the number of parked tasks; an interrupt makes each task then
parked return `-1` from that sleep; and an interrupt that finds nobody parked
stays set for ever, so that every later `sched_sleep` returns `-1`. -/
theorem schedSleep_interrupt_reporting (pre : List SchedEvent) :
    (run init pre).1.Counted ∧
    (∀ task ∈ (run init pre).1.parked, ∀ events,
      ∀ p ∈ (run ((run init pre).1.step .interrupt).1 events).2.find? (·.1 == task),
        p.2 = -1) ∧
    ((run init pre).1.parked = [] → ∀ events,
      (run ((run init pre).1.step .interrupt).1 events).1.ctx.interrupted ∧
      ∀ p ∈ (run ((run init pre).1.step .interrupt).1 events).2, p.2 = -1) := by
  have hc := run_counted init_counted pre
  refine ⟨hc, fun task htask events => ?_, fun hnone events => ?_⟩
  · exact run_pending_reports (step_counted hc _) (step_interrupt_pending htask) events
  · have hlatched : ((run init pre).1.step .interrupt).1.Latched := by
      simp only [parked, List.append_eq_nil] at hnone
      simp [step, broadcast, schedInterrupt, Latched, hnone]
    obtain ⟨⟨hint, -⟩, hout⟩ := run_latched hlatched events
    exact ⟨hint, hout⟩

/-- One interrupt raised while no task is parked makes two later sleeps fail. -/
theorem schedInterrupt_unparked_fails_twice :
    init.parked = [] ∧
    (run init [.interrupt, .sleep 0, .sleep 1]).2 = [(0, -1), (1, -1)] := by
  decide

end SchedSystem

end MicroPs.Platform
