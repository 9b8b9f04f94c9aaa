/-
# Lock discipline of the entry points

Every function of the stack that takes a mutex is written here as its lock
skeleton: the statements that lock, unlock or wait on the mutex, its returns,
and the branches, loops and `goto`s between them, numbered in source order. A
run of a skeleton may take any branch, so the runs include every path the
code can take from any state. `sched_sleep` waits on a condition variable: the
mutex is released while the task waits and held again when it returns, also
when the wait is interrupted. Calls are left out; the callees that take a lock
(`arp_resolve` and `ip_generate_id` under `ip_output`) are skeletons here
themselves and leave the locks as they found them.

Two branches are decided by the model of the tables instead of left open:
`arp_resolve` returns without unlocking when `arp_cache_alloc` fails, and
`udp_sendto` when its search for a source port comes back empty. Neither
happens in any state. With the two closed, no run of any skeleton locks a held
mutex, unlocks or waits on a free one, or returns holding it.
-/

import MicroPs.Arp.Cache
import MicroPs.Udp.Bind

namespace MicroPs.Net

open MicroPs.Arp MicroPs.Udp

/-- A condition of a skeleton that the model of a table decides. -/
inductive LockCond
  /-- `arp_cache_alloc` returns `NULL`. -/
  | arpCacheAllocFails
  /-- The loop of `udp_sendto` finds no free source port. -/
  | udpSendtoNoPort
  deriving DecidableEq

/-- The condition holds in some state of the table. -/
def LockCond.Holds : LockCond → Prop
  | .arpCacheAllocFails => ∃ caches, arpCacheAlloc caches = none
  | .udpSendtoNoPort => ∃ pcbs addr, udpSendtoPortLoop pcbs addr udpSourcePorts = none

theorem LockCond.not_holds : ∀ c : LockCond, ¬ c.Holds
  | .arpCacheAllocFails, ⟨caches, h⟩ => arpCacheAlloc_ne_none caches h
  | .udpSendtoNoPort, ⟨pcbs, addr, h⟩ => udpSendtoPortLoop_ne_none pcbs addr h

/-- A statement of a lock skeleton; `next` and the targets are statement
numbers. -/
inductive LockStmt
  | lock (next : Nat)
  | unlock (next : Nat)
  | sleep (next : Nat)
  | branch (targets : List Nat)
  | test (c : LockCond) (taken fallthrough : Nat)
  | ret
  deriving DecidableEq

/-- One statement, at point `n` with the mutex `held` or not: the points it
can go on to, or `none` for a fault (locking a held mutex, unlocking or
waiting on a free one, returning while holding it, or jumping out of the
skeleton). A `test` is taken only when `holds` allows its condition. -/
def lockStep (holds : LockCond → Bool) (prog : List LockStmt) :
    Nat × Bool → Option (List (Nat × Bool))
  | (n, held) =>
    match prog[n]? with
    | none => none
    | some (.lock next) => if held then none else some [(next, true)]
    | some (.unlock next) => if held then some [(next, false)] else none
    | some (.sleep next) => if held then some [(next, true)] else none
    | some (.branch targets) => some (targets.map fun t => (t, held))
    | some (.test _ taken fallthrough) =>
      some ((if holds ‹_› then [(taken, held)] else []) ++ [(fallthrough, held)])
    | some .ret => if held then none else some []

/-- The points a run reaches from the first statement, entered without the
mutex. -/
inductive LockReach (holds : LockCond → Bool) (prog : List LockStmt) : Nat × Bool → Prop
  | init : LockReach holds prog (0, false)
  | step {p q : Nat × Bool} {next : List (Nat × Bool)} (hp : LockReach holds prog p)
      (hstep : lockStep holds prog p = some next) (hq : q ∈ next) : LockReach holds prog q

/-- No run of the skeleton faults: it returns holding no lock, as it was
entered. -/
def LockSafe (holds : LockCond → Bool) (prog : List LockStmt) : Prop :=
  ∀ p, LockReach holds prog p → (lockStep holds prog p).isSome

/-! ## Checking a skeleton -/

/-- The points found from `todo` in `fuel` more steps, added to `seen`. -/
def lockExplore (holds : LockCond → Bool) (prog : List LockStmt) :
    Nat → List (Nat × Bool) → List (Nat × Bool) → List (Nat × Bool)
  | 0, seen, _ => seen
  | _ + 1, seen, [] => seen
  | fuel + 1, seen, p :: todo =>
    if p ∈ seen then lockExplore holds prog fuel seen todo
    else lockExplore holds prog fuel (p :: seen) (todo ++ (lockStep holds prog p).getD [])

/-- `ps` holds the entry point, and every point of it steps without a fault
to points of `ps`. -/
def lockClosed (holds : LockCond → Bool) (prog : List LockStmt) (ps : List (Nat × Bool)) : Bool :=
  (0, false) ∈ ps && ps.all fun p =>
    match lockStep holds prog p with
    | none => false
    | some next => next.all (· ∈ ps)

/-- The check of a skeleton: the points found are closed. A point is a
statement and one of two mutex states, so the fuel is ample. -/
def lockCheck (holds : LockCond → Bool) (prog : List LockStmt) : Bool :=
  lockClosed holds prog (lockExplore holds prog (16 * (prog.length + 1)) [] [(0, false)])

/-- Every point a run reaches lies in a closed set. -/
theorem LockReach.mem_of_closed {holds : LockCond → Bool} {prog : List LockStmt}
    {ps : List (Nat × Bool)} (hc : lockClosed holds prog ps = true) {p : Nat × Bool}
    (hp : LockReach holds prog p) : p ∈ ps := by
  simp only [lockClosed, Bool.and_eq_true, decide_eq_true_eq, List.all_eq_true] at hc
  induction hp with
  | init => exact hc.1
  | step _ hstep hq ih =>
    have := hc.2 _ ih
    rw [hstep, List.all_eq_true] at this
    simpa using this _ hq

theorem lockCheck_sound {holds : LockCond → Bool} {prog : List LockStmt}
    (h : lockCheck holds prog = true) : LockSafe holds prog := by
  intro p hp
  have hc := h
  simp only [lockCheck, lockClosed, Bool.and_eq_true, List.all_eq_true] at hc
  have := hc.2 p (hp.mem_of_closed h)
  cases hs : lockStep holds prog p with
  | none => simp [hs] at this
  | some _ => rfl

/-! ## The skeletons -/

/-- A scan of the table under the mutex: `tcp_retransmit_timer`,
`tcp_user_timeout`, `tcp_time_wait_timeout`, the `event_handler`s of TCP and
UDP, and `arp_timer_handler`. -/
def scanLocks : List LockStmt :=
  [.lock 1,           -- 0: mutex_lock
   .branch [1, 2],    -- 1: for each entry, with no lock in the body
   .unlock 3,         -- 2: mutex_unlock
   .ret]              -- 3

/-- One early exit between locking and unlocking: `udp_open` (`!pcb` after
`udp_pcb_alloc`) and `udp_close` (`!pcb` after `udp_pcb_get`). -/
def guardedLocks : List LockStmt :=
  [.lock 1,           -- 0: mutex_lock
   .branch [2, 4],    -- 1: if (!pcb)
   .unlock 3,         -- 2: mutex_unlock
   .ret,              -- 3: return
   .unlock 3]         -- 4: mutex_unlock; return

/-- `tcp_open_rfc793`. -/
def tcpOpenRfc793Locks : List LockStmt :=
  [.lock 1,           -- 0: mutex_lock
   .branch [2, 4],    -- 1: if (!pcb)
   .unlock 3,         -- 2: mutex_unlock
   .ret,              -- 3: return
   .branch [5, 7],    -- 4: if (active), else passive open
   .branch [6, 7],    -- 5: if (tcp_output(...) == -1)
   .unlock 3,         -- 6: tcp_pcb_release; mutex_unlock
   .branch [8, 10],   -- 7: AGAIN: while (pcb->state == state)
   .sleep 9,          -- 8: sched_sleep
   .branch [6, 7],    -- 9: if (... == -1)
   .branch [11, 12],  -- 10: if (pcb->state != ESTABLISHED)
   .branch [7, 6],    -- 11: if (SYN_RECEIVED) goto AGAIN
   .unlock 3]         -- 12: mutex_unlock; return id

/-- `tcp_close`. -/
def tcpCloseLocks : List LockStmt :=
  [.lock 1,           -- 0: mutex_lock
   .branch [2, 4],    -- 1: if (!pcb)
   .unlock 3,         -- 2: mutex_unlock
   .ret,              -- 3: return
   .branch [5, 5, 2], -- 4: switch: ESTABLISHED, CLOSE_WAIT, default
   .unlock 3]         -- 5: sched_wakeup; mutex_unlock; return 0

/-- `tcp_send`. -/
def tcpSendLocks : List LockStmt :=
  [.lock 1,           -- 0: mutex_lock
   .branch [2, 4],    -- 1: if (!pcb)
   .unlock 3,         -- 2: mutex_unlock
   .ret,              -- 3: return
   .branch [5, 2, 2], -- 4: RETRY: switch: ESTABLISHED or CLOSE_WAIT, LAST_ACK, default
   .branch [2, 6],    -- 5: if (!iface)
   .branch [7, 12],   -- 6: while (sent < len)
   .branch [8, 11],   -- 7: if (!cap)
   .sleep 9,          -- 8: sched_sleep
   .branch [10, 4],   -- 9: if (... == -1), else goto RETRY
   .branch [2, 12],   -- 10: if (!sent), else break
   .branch [2, 6],    -- 11: if (tcp_output(...) == -1)
   .unlock 3]         -- 12: mutex_unlock; return sent

/-- `tcp_receive`. -/
def tcpReceiveLocks : List LockStmt :=
  [.lock 1,           -- 0: mutex_lock
   .branch [2, 4],    -- 1: if (!pcb)
   .unlock 3,         -- 2: mutex_unlock
   .ret,              -- 3: return
   .branch [5, 8, 2], -- 4: RETRY_RECEIVE: switch: ESTABLISHED, CLOSE_WAIT, default
   .branch [6, 9],    -- 5: if (!remain), else break
   .sleep 7,          -- 6: sched_sleep
   .branch [2, 4],    -- 7: if (... == -1), else goto RETRY_RECEIVE
   .branch [9, 2],    -- 8: if (remain) break
   .unlock 3]         -- 9: mutex_unlock; return len

/-- `tcp_input`: its checks return before the lock. -/
def tcpInputLocks : List LockStmt :=
  [.branch [1, 2],    -- 0: a check fails and returns, or all pass
   .ret,              -- 1: return
   .lock 3,           -- 2: mutex_lock
   .unlock 1]         -- 3: tcp_segment_arrives; mutex_unlock

/-- `tcp_retransmit_timer`. -/
def tcpRetransmitTimerLocks : List LockStmt := scanLocks

/-- `tcp_user_timeout`. -/
def tcpUserTimeoutLocks : List LockStmt := scanLocks

/-- `tcp_time_wait_timeout`. -/
def tcpTimeWaitTimeoutLocks : List LockStmt := scanLocks

/-- `event_handler` of tcp.c. -/
def tcpEventHandlerLocks : List LockStmt := scanLocks

/-- `udp_open`. -/
def udpOpenLocks : List LockStmt := guardedLocks

/-- `udp_close`. -/
def udpCloseLocks : List LockStmt := guardedLocks

/-- `udp_bind`. -/
def udpBindLocks : List LockStmt :=
  [.lock 1,           -- 0: mutex_lock
   .branch [2, 4],    -- 1: if (!pcb)
   .unlock 3,         -- 2: mutex_unlock
   .ret,              -- 3: return
   .branch [2, 5],    -- 4: if (exist)
   .unlock 3]         -- 5: mutex_unlock; return 0

/-- `udp_sendto`: an empty port search returns without unlocking. -/
def udpSendtoLocks : List LockStmt :=
  [.lock 1,           -- 0: mutex_lock
   .branch [2, 4],    -- 1: if (!pcb)
   .unlock 3,         -- 2: mutex_unlock
   .ret,              -- 3: return
   .branch [5, 6],    -- 4: if (local.addr == IP_ADDR_ANY)
   .branch [2, 6],    -- 5: if (!iface)
   .branch [7, 8],    -- 6: if (!pcb->local.port)
   .test .udpSendtoNoPort 3 8, -- 7: the port loop; if (!pcb->local.port) return -1
   .unlock 3]         -- 8: mutex_unlock; return udp_output(...)

/-- `udp_recvfrom`. -/
def udpRecvfromLocks : List LockStmt :=
  [.lock 1,           -- 0: mutex_lock
   .branch [2, 4],    -- 1: if (!pcb)
   .unlock 3,         -- 2: mutex_unlock
   .ret,              -- 3: return
   .branch [8, 5],    -- 4: while (1): if (entry) break
   .sleep 6,          -- 5: sched_sleep
   .branch [2, 7],    -- 6: if (err)
   .branch [2, 4],    -- 7: if (pcb->state == CLOSING): udp_pcb_release
   .unlock 3]         -- 8: mutex_unlock; return len

/-- `udp_input`: its checks return before the lock. -/
def udpInputLocks : List LockStmt :=
  [.branch [1, 2],    -- 0: a check fails and returns, or all pass
   .ret,              -- 1: return
   .lock 3,           -- 2: mutex_lock
   .branch [4, 5],    -- 3: if (!pcb)
   .unlock 1,         -- 4: mutex_unlock
   .branch [4, 6],    -- 5: if (!entry)
   .branch [4, 7],    -- 6: if (!queue_push(...))
   .unlock 1]         -- 7: sched_wakeup; mutex_unlock

/-- `event_handler` of udp.c. -/
def udpEventHandlerLocks : List LockStmt := scanLocks

/-- `arp_input`: two critical sections. -/
def arpInputLocks : List LockStmt :=
  [.branch [1, 2],    -- 0: a check fails and returns, or all pass
   .ret,              -- 1: return
   .lock 3,           -- 2: mutex_lock
   .unlock 4,         -- 3: arp_cache_update; mutex_unlock
   .branch [5, 1],    -- 4: if (iface && unicast == tpa)
   .branch [6, 1],    -- 5: if (!merge), else arp_reply
   .lock 7,           -- 6: mutex_lock
   .unlock 1]         -- 7: arp_cache_insert; mutex_unlock; arp_reply

/-- `arp_resolve`: a failed `arp_cache_alloc` returns without unlocking. -/
def arpResolveLocks : List LockStmt :=
  [.branch [1, 2],    -- 0: not an Ethernet device or not an IP interface
   .ret,              -- 1: return
   .lock 3,           -- 2: mutex_lock
   .branch [4, 6],    -- 3: if (!cache)
   .test .arpCacheAllocFails 1 5, -- 4: cache = arp_cache_alloc(); if (!cache) return
   .unlock 1,         -- 5: mutex_unlock; arp_request; return INCOMPLETE
   .branch [5, 7],    -- 6: if (cache->state == INCOMPLETE)
   .unlock 1]         -- 7: memcpy; mutex_unlock; return FOUND

/-- `arp_timer_handler`. -/
def arpTimerHandlerLocks : List LockStmt := scanLocks

/-- `ip_generate_id`. -/
def ipGenerateIdLocks : List LockStmt :=
  [.lock 1,           -- 0: mutex_lock
   .unlock 2,         -- 1: id++; mutex_unlock
   .ret]              -- 2: return

/-- Left open, the branch of `udp_sendto` returns holding the mutex. -/
theorem udpSendtoLocks_faults_if_no_port : ¬ LockSafe (fun _ => true) udpSendtoLocks := by
  intro h
  have r₁ : LockReach (fun _ => true) udpSendtoLocks (1, true) := .step .init rfl (by decide)
  have r₄ : LockReach (fun _ => true) udpSendtoLocks (4, true) := .step r₁ rfl (by decide)
  have r₆ : LockReach (fun _ => true) udpSendtoLocks (6, true) := .step r₄ rfl (by decide)
  have r₇ : LockReach (fun _ => true) udpSendtoLocks (7, true) := .step r₆ rfl (by decide)
  have r₃ : LockReach (fun _ => true) udpSendtoLocks (3, true) := .step r₇ rfl (by decide)
  exact absurd (h _ r₃) (by decide)

/-- Left open, the branch of `arp_resolve` returns holding the mutex. -/
theorem arpResolveLocks_faults_if_alloc_fails : ¬ LockSafe (fun _ => true) arpResolveLocks := by
  intro h
  have r₂ : LockReach (fun _ => true) arpResolveLocks (2, false) := .step .init rfl (by decide)
  have r₃ : LockReach (fun _ => true) arpResolveLocks (3, true) := .step r₂ rfl (by decide)
  have r₄ : LockReach (fun _ => true) arpResolveLocks (4, true) := .step r₃ rfl (by decide)
  have r₁ : LockReach (fun _ => true) arpResolveLocks (1, true) := .step r₄ rfl (by decide)
  exact absurd (h _ r₁) (by decide)

/-- Every function that takes a mutex of the stack. -/
def lockEntryPoints : List (List LockStmt) :=
  [tcpOpenRfc793Locks, tcpCloseLocks, tcpSendLocks, tcpReceiveLocks, tcpInputLocks,
   tcpRetransmitTimerLocks, tcpUserTimeoutLocks, tcpTimeWaitTimeoutLocks, tcpEventHandlerLocks,
   udpOpenLocks, udpBindLocks, udpSendtoLocks, udpRecvfromLocks, udpCloseLocks, udpInputLocks,
   udpEventHandlerLocks, arpInputLocks, arpResolveLocks, arpTimerHandlerLocks, ipGenerateIdLocks]

/-- Every run of every entry point returns holding no lock, once the two
branches that skip the unlock are closed; neither branch is taken in any
state, and the models of `udp_sendto` and `arp_resolve` never end holding
the mutex. -/
theorem entry_points_release_locks :
    (∀ c : LockCond, ¬ c.Holds) ∧
    (∀ prog ∈ lockEntryPoints, LockSafe (fun _ => false) prog) ∧
    (∀ route pcbs id foreign v, (udpSendto route pcbs id foreign).2 ≠ .exit v true) ∧
    (∀ ethernetIp caches pa now, (arpResolve ethernetIp caches pa now).2 ≠ .error true) ∧
    ¬ LockSafe (fun _ => true) udpSendtoLocks ∧ ¬ LockSafe (fun _ => true) arpResolveLocks := by
  refine ⟨LockCond.not_holds, fun prog hprog => lockCheck_sound ?_, udpSendto_unlocks,
    arpResolve_unlocks, udpSendtoLocks_faults_if_no_port, arpResolveLocks_faults_if_alloc_fails⟩
  have hall : lockEntryPoints.all (lockCheck fun _ => false) = true := by decide
  exact List.all_eq_true.1 hall prog hprog

/-- `tcp_send`, with its sleep and its `goto RETRY`, is one of them. -/
theorem entry_points_release_locks_tcpSend : LockSafe (fun _ => false) tcpSendLocks :=
  entry_points_release_locks.2.1 _ (by simp [lockEntryPoints])

end MicroPs.Net
