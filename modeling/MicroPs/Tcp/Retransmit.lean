/-
# The retransmission queue and its entries

Cleanup pops head entries whose first sequence number lies below `snd.una`,
whatever their length, so an ACK that falls inside a segment drops the whole
segment while its tail is still unacknowledged. Entries are owned by the
allocator: `tcp_retransmit_queue_add` allocates one, cleanup frees it, and
`tcp_pcb_release`'s `memset` forgets the queue without freeing what is on
it.
-/

import MicroPs.Tcp.Window

namespace MicroPs.Tcp

/-- The cleanup loop keeps the queue from its first entry at or above `una`
on, and frees exactly the entries it pops. -/
theorem tcpRetransmitQueueCleanupLoop_eq (una : BitVec 32) (queue : List TcpQueueEntry)
    (heap : TcpHeap) :
    tcpRetransmitQueueCleanupLoop una queue heap =
      (queue.dropWhile (·.seq < una),
        (queue.takeWhile (·.seq < una)).foldl (fun h e => h.free e.addr) heap) := by
  induction queue generalizing heap with
  | nil => rfl
  | cons entry rest ih =>
    by_cases hle : una ≤ entry.seq
    · simp [tcpRetransmitQueueCleanupLoop, hle, BitVec.not_lt.mpr hle]
    · simp [tcpRetransmitQueueCleanupLoop, hle, BitVec.not_le.mp hle, ih]

/-- A head entry that starts below `snd.una` is dropped even when its span
`[seq, seq + len)` reaches past `snd.una`. -/
theorem tcpRetransmitQueueCleanup_drops_head {r : PcbRun} {entry : TcpQueueEntry}
    {rest : List TcpQueueEntry} (hq : r.pcb.queue = entry :: rest)
    (hlt : entry.seq < r.pcb.snd.una) :
    (tcpRetransmitQueueCleanup r).pcb.queue = rest.dropWhile fun e => e.seq < r.pcb.snd.una := by
  simp [tcpRetransmitQueueCleanupLoop_eq, hq, List.dropWhile_cons, hlt]

/-- Release forgets the queue and frees nothing. -/
theorem tcpPcbRelease_queue_heap (r : PcbRun) :
    (tcpPcbRelease r).pcb.queue = [] ∧ (tcpPcbRelease r).heap = r.heap := by
  simp [TcpPcb.zero]

/-! ## Replaying the queue -/

/-- Whether `tcp_retransmit_queue_emit` resends `entry` at `now`: its deadline
has not passed and its timeout has run out. -/
def TcpQueueEntry.Resent (now : Int) (entry : TcpQueueEntry) : Prop :=
  (now - entry.first) / 1000000 < tcpRetransmitDeadline ∧ entry.last + entry.rto.toNat < now

instance (now : Int) (entry : TcpQueueEntry) : Decidable (entry.Resent now) :=
  inferInstanceAs (Decidable (_ ∧ _))

/-- The segment resent for `entry` from a PCB's current receive variables. -/
def TcpQueueEntry.resend (pcb : TcpPcb) (entry : TcpQueueEntry) : TcpSegment :=
  ⟨entry.seq, pcb.rcv.nxt, entry.flg, pcb.rcv.wnd, entry.data, pcb.local, pcb.foreign⟩

theorem tcpRetransmitQueueEmit_fst (now : Int) (r : PcbRun) (entry : TcpQueueEntry) :
    (tcpRetransmitQueueEmit now r entry).1.pcb =
        (if tcpRetransmitDeadline ≤ (now - entry.first) / 1000000 then
          { r.pcb with state := .closed } else r.pcb) ∧
      (tcpRetransmitQueueEmit now r entry).1.out =
        r.out ++ (if entry.Resent now then [entry.resend r.pcb] else []) := by
  unfold tcpRetransmitQueueEmit TcpQueueEntry.Resent
  split_ifs with h₁ h₂ <;> simp_all [PcbRun.setState, PcbRun.wakeup, tcpOutputSegment,
    TcpQueueEntry.resend]
  all_goals omega

/-- One sweep of the queue: every entry that is due and within its deadline is
resent, whatever the state, and an entry past its deadline leaves the PCB
`CLOSED` and otherwise as it was. Nothing stops the sweep at that entry. -/
theorem tcpRetransmitQueueEmitLoop_fst (now : Int) (queue : List TcpQueueEntry) (r : PcbRun) :
    (tcpRetransmitQueueEmitLoop now r queue).1.out =
        r.out ++ (queue.filter (·.Resent now)).map (·.resend r.pcb) ∧
      (tcpRetransmitQueueEmitLoop now r queue).1.pcb =
        if queue.any fun e => tcpRetransmitDeadline ≤ (now - e.first) / 1000000 then
          { r.pcb with state := .closed } else r.pcb := by
  induction queue generalizing r with
  | nil => simp [tcpRetransmitQueueEmitLoop]
  | cons entry rest ih =>
    obtain ⟨hpcb, hout⟩ := tcpRetransmitQueueEmit_fst now r entry
    obtain ⟨ihout, ihpcb⟩ := ih (tcpRetransmitQueueEmit now r entry).1
    simp only [tcpRetransmitQueueEmitLoop, ihout, ihpcb, hpcb, hout]
    constructor
    · by_cases hres : entry.Resent now <;> split_ifs <;>
        simp [List.filter_cons, hres, TcpQueueEntry.resend]
    · by_cases hd : tcpRetransmitDeadline ≤ (now - entry.first) / 1000000 <;> simp [hd]

/-! ## Backoff -/

/-- A call resends an entry due within its deadline, stamps it with the clock
reading and doubles its timeout; any other entry is left as it was. -/
theorem tcpRetransmitQueueEmit_snd (now : Int) (r : PcbRun) (entry : TcpQueueEntry) :
    (tcpRetransmitQueueEmit now r entry).2 =
      if entry.Resent now then { entry with last := now, rto := entry.rto * 2 } else entry := by
  unfold tcpRetransmitQueueEmit TcpQueueEntry.Resent
  split_ifs <;> first | rfl | omega

/-- Calls of `tcp_retransmit_queue_emit` on one entry, each at its own clock
reading and on the PCB as that call finds it: the entry they leave, and the
readings at which they resent it (`tcpRetransmitQueueEmit_fst`). -/
def tcpRetransmitEmitTrace : TcpQueueEntry → List (Int × PcbRun) → TcpQueueEntry × List Int
  | entry, [] => (entry, [])
  | entry, (now, r) :: calls =>
    let later := tcpRetransmitEmitTrace (tcpRetransmitQueueEmit now r entry).2 calls
    (later.1, (if entry.Resent now then [now] else []) ++ later.2)

/-- A resend comes more than the timeout after the last transmission and
within twelve seconds of the first. -/
theorem TcpQueueEntry.Resent.bounds {now : Int} {entry : TcpQueueEntry} (h : entry.Resent now) :
    entry.last + entry.rto.toNat < now ∧ now - entry.first < 12000000 := by
  obtain ⟨hd, hl⟩ := h
  refine ⟨hl, ?_⟩
  unfold tcpRetransmitDeadline at hd
  omega

/-- A resend of an entry resent `k` times so far, with timeout
`200000 * 2^k` and its last transmission at least `200000 * (2^k - 1)` after
`first`: it comes more than the timeout after the last transmission, more
than `200000 * (2^(k+1) - 1)` and less than twelve seconds after `first`, so
it is at most the fifth, and it doubles the timeout without wrapping. -/
theorem TcpQueueEntry.Resent.backoff {now : Int} {entry : TcpQueueEntry} {k : Nat}
    (hres : entry.Resent now) (hrto : entry.rto.toNat = 200000 * 2 ^ k) (hk : k ≤ 5)
    (hlast : 200000 * (2 ^ k - 1) ≤ entry.last - entry.first) :
    k + 1 ≤ 5 ∧ (entry.rto * 2).toNat = 200000 * 2 ^ (k + 1) ∧
      200000 * 2 ^ k < now - entry.last ∧ 200000 * (2 ^ (k + 1) - 1) < now - entry.first ∧
      now - entry.first < 12000000 := by
  obtain ⟨hdue, hdl⟩ := hres.bounds
  have hcast : (entry.rto.toNat : Int) = 200000 * 2 ^ k := by rw [hrto]; push_cast; rfl
  have hsucc : (2 : Int) ^ (k + 1) = 2 ^ k * 2 := pow_succ 2 k
  have hspan : 200000 * (2 ^ (k + 1) - 1) < now - entry.first := by omega
  have hk' : k + 1 ≤ 5 := by
    refine Nat.succ_le_of_lt (Nat.lt_of_le_of_ne hk fun h5 => ?_)
    subst h5
    have h64 : (2 : Int) ^ (5 + 1) = 64 := by decide
    omega
  have h32 : 2 ^ k * 2 ≤ 2 ^ 5 := Nat.pow_succ 2 k ▸ Nat.pow_le_pow_right (by decide) hk'
  have h2 : (2 : BitVec 32).toNat = 2 := rfl
  refine ⟨hk', ?_, by omega, hspan, hdl⟩
  rw [BitVec.toNat_mul, hrto, h2, Nat.pow_succ]
  omega

/-- From an entry resent `k` times so far, with timeout `200000 * 2^k` and its
last transmission at least `200000 * (2^k - 1)` after `first`: each later
resend comes more than the timeout in force after the transmission before it
and within twelve seconds of `first`, so at most `5 - k` more happen. -/
theorem tcpRetransmitEmitTrace_backoff {first : Int} :
    ∀ (calls : List (Int × PcbRun)) (entry : TcpQueueEntry) (k : Nat), entry.first = first →
      entry.rto.toNat = 200000 * 2 ^ k → k ≤ 5 → 200000 * (2 ^ k - 1) ≤ entry.last - first →
      let trace := tcpRetransmitEmitTrace entry calls
      k + trace.2.length ≤ 5 ∧ trace.1.rto.toNat = 200000 * 2 ^ (k + trace.2.length) ∧
      ∀ j < trace.2.length,
        200000 * 2 ^ (k + j) < trace.2.getD j 0 - (entry.last :: trace.2).getD j 0 ∧
        200000 * (2 ^ (k + j + 1) - 1) < trace.2.getD j 0 - first ∧
        trace.2.getD j 0 - first < 12000000
  | [], entry, k, _, hrto, hk, _ => by simpa [tcpRetransmitEmitTrace] using ⟨hk, hrto⟩
  | (now, r) :: calls, entry, k, hfirst, hrto, hk, hlast => by
    simp only [tcpRetransmitEmitTrace, tcpRetransmitQueueEmit_snd]
    by_cases hres : entry.Resent now
    · obtain ⟨hk', hrto', hgap, hspan, hdl⟩ := hres.backoff hrto hk (hfirst ▸ hlast)
      rw [hfirst] at hspan hdl
      obtain ⟨ihlen, ihrto, ihgap⟩ := tcpRetransmitEmitTrace_backoff calls
        { entry with last := now, rto := entry.rto * 2 } (k + 1) hfirst hrto' hk' hspan.le
      simp only [hres, if_true, List.singleton_append, List.length_cons] at ihlen ihrto ihgap ⊢
      refine ⟨by omega, by rw [ihrto, Nat.add_right_comm, Nat.add_assoc], fun j hj => ?_⟩
      cases j with
      | zero => exact ⟨by simpa using hgap, hspan, hdl⟩
      | succ j =>
        obtain ⟨h₁, h₂, h₃⟩ := ihgap j (by omega)
        simp only [List.getD_cons_succ, Nat.add_right_comm k 1 j, ← Nat.add_assoc] at h₁ h₂ ⊢
        exact ⟨h₁, h₂, h₃⟩
    · simpa [hres] using tcpRetransmitEmitTrace_backoff calls entry k hfirst hrto hk hlast

/-- The entry a trace leaves and the readings it records depend on the clock
readings alone, not on the PCB runs. -/
theorem tcpRetransmitEmitTrace_congr :
    ∀ (calls calls' : List (Int × PcbRun)) (entry : TcpQueueEntry),
      calls.map Prod.fst = calls'.map Prod.fst →
      tcpRetransmitEmitTrace entry calls = tcpRetransmitEmitTrace entry calls'
  | [], [], _, _ => rfl
  | (now, _) :: calls, (now', _) :: calls', entry, h => by
    simp only [List.map_cons, List.cons.injEq] at h
    obtain ⟨rfl, h⟩ := h
    simp only [tcpRetransmitEmitTrace, tcpRetransmitQueueEmit_snd,
      tcpRetransmitEmitTrace_congr calls calls' _ h]
  | [], _ :: _, _, h => by simp at h
  | _ :: _, [], _, h => by simp at h

/-- A retransmit tick on a PCB whose queue holds one entry: the entry's
segment goes out if it is resent, the queue holds the entry as the call
leaves it, and that entry's segment is still the same. -/
theorem tcpRetransmitQueueEmitAll_single (now : Int) {r : PcbRun} {entry : TcpQueueEntry}
    (hq : r.pcb.queue = [entry]) :
    (tcpRetransmitQueueEmitAll now r).out =
        r.out ++ (if entry.Resent now then [entry.resend r.pcb] else []) ∧
      (tcpRetransmitQueueEmitAll now r).pcb.queue = [(tcpRetransmitQueueEmit now r entry).2] ∧
      (tcpRetransmitQueueEmit now r entry).2.resend (tcpRetransmitQueueEmitAll now r).pcb =
        entry.resend r.pcb := by
  obtain ⟨hpcb, hout⟩ := tcpRetransmitQueueEmit_fst now r entry
  simp only [tcpRetransmitQueueEmitAll, hq, tcpRetransmitQueueEmitLoop, hout, true_and]
  rw [tcpRetransmitQueueEmit_snd]
  unfold TcpQueueEntry.resend
  rw [hpcb]
  split_ifs <;> rfl

/-- Retransmit ticks at any clock readings on a PCB whose queue holds one
entry: the entry's segment goes out once for every reading the trace of the
entry records, and nothing else goes out. -/
theorem tcpRetransmitQueueEmitAll_ticks :
    ∀ (ticks : List Int) (r : PcbRun) (entry : TcpQueueEntry), r.pcb.queue = [entry] →
      (ticks.foldl (fun r now => tcpRetransmitQueueEmitAll now r) r).out =
        r.out ++ (tcpRetransmitEmitTrace entry (ticks.map (·, r))).2.map
          (fun _ => entry.resend r.pcb)
  | [], r, entry, _ => by simp [tcpRetransmitEmitTrace]
  | now :: ticks, r, entry, hq => by
    obtain ⟨hout, hq₁, hseg⟩ := tcpRetransmitQueueEmitAll_single now hq
    rw [List.foldl_cons, tcpRetransmitQueueEmitAll_ticks ticks _ _ hq₁, hout, hseg,
      tcpRetransmitEmitTrace_congr (ticks.map (·, tcpRetransmitQueueEmitAll now r))
        (ticks.map (·, r)) _ (by simp)]
    by_cases hres : entry.Resent now <;> simp [tcpRetransmitEmitTrace, hres]

/-- An entry `tcp_retransmit_queue_add` created at `first`, then calls of
`tcp_retransmit_queue_emit` at any clock readings, monotone or not: the
`k`-th resend (counting from 0) comes more than `200000 * 2^k` µs after the
transmission before it, more than `200000 * (2^(k+1) - 1)` µs and less than
twelve seconds after `first`. So there are at most five, and the timeout,
`200000 * 2^k` µs after `k` of them, never passes 6.4 s. When the calls are
the retransmit timer's ticks on a PCB whose queue holds this entry alone,
each recorded reading is one transmission of the entry's segment. -/
theorem tcpRetransmitQueueEmit_backoff_bounded (first : Int) (seq : BitVec 32) (flg : Byte)
    (data : List Byte) (addr : Nat) (calls : List (Int × PcbRun)) :
    let trace := tcpRetransmitEmitTrace ⟨first, first, tcpDefaultRto, seq, flg, data, addr⟩ calls
    trace.2.length ≤ 5 ∧ trace.1.rto.toNat = 200000 * 2 ^ trace.2.length ∧
      trace.1.rto.toNat ≤ 6400000 ∧
      (∀ k < trace.2.length,
        200000 * 2 ^ k < trace.2.getD k 0 - (first :: trace.2).getD k 0 ∧
        200000 * (2 ^ (k + 1) - 1) < trace.2.getD k 0 - first ∧
        trace.2.getD k 0 - first < 12000000) ∧
      ∀ (r : PcbRun) (ticks : List Int),
        r.pcb.queue = [⟨first, first, tcpDefaultRto, seq, flg, data, addr⟩] →
        calls = ticks.map (·, r) →
        (ticks.foldl (fun r now => tcpRetransmitQueueEmitAll now r) r).out = r.out ++
          trace.2.map fun _ => ⟨seq, r.pcb.rcv.nxt, flg, r.pcb.rcv.wnd, data, r.pcb.local,
            r.pcb.foreign⟩ := by
  obtain ⟨hlen, hrto, hgap⟩ := tcpRetransmitEmitTrace_backoff calls
    ⟨first, first, tcpDefaultRto, seq, flg, data, addr⟩ 0 rfl rfl (by decide) (by simp)
  simp only [Nat.zero_add] at hlen hrto hgap
  refine ⟨hlen, hrto, ?_, hgap, fun r ticks hq hcalls =>
    hcalls ▸ tcpRetransmitQueueEmitAll_ticks ticks r _ hq⟩
  have h32 : 2 ^ (tcpRetransmitEmitTrace
    ⟨first, first, tcpDefaultRto, seq, flg, data, addr⟩ calls).2.length ≤ 2 ^ 5 :=
    Nat.pow_le_pow_right (by decide) hlen
  omega

/-! ## Runs of the stack -/

open TcpSystem in
/-- After the reference handshake task 0 sends ten bytes, queued as one entry
for `[1, 11)`. The peer acknowledges five of them: `snd.una` becomes 6, and
the queue is empty although `[6, 11)` is unacknowledged. In general the
cleanup keeps the queue from its first entry that starts at or above
`snd.una`, so a head entry that starts below it goes, however far its span
reaches. -/
theorem tcpRetransmitQueueCleanup_drops_partly_acked :
    let s : TcpSystem := run ethernetRoutes init
      (refHandshake ++ [⟨.call 0 (.send 0 (List.replicate 10 0x62)), 3000, 0, []⟩])
    let s' := step ethernetRoutes s ⟨.input (fromPeer 1001 6 tcpFlgAck 16 []), 4000, 0, []⟩
    ((s.world.pcbs 0).queue.map (fun e => (e.seq, e.data.length)) = [(1, 10)] ∧
      (s'.world.pcbs 0).snd.una = 6 ∧ (s'.world.pcbs 0).snd.nxt = 11 ∧
      (s'.world.pcbs 0).queue = []) ∧
    ∀ (r : PcbRun) (entry : TcpQueueEntry) (rest : List TcpQueueEntry),
      r.pcb.queue = entry :: rest → entry.seq < r.pcb.snd.una →
      (tcpRetransmitQueueCleanup r).pcb.queue = rest.dropWhile fun e => e.seq < r.pcb.snd.una :=
  ⟨by decide, fun _ _ _ => tcpRetransmitQueueCleanup_drops_head⟩

open TcpSystem in
/-- Task 0 opens actively; its SYN is queued as the entry at address 0. The
peer resets the connection with an acceptable ACK: the PCB is released, no
queue holds the entry any more, and the allocator still counts it as live.
Every release forgets the queue and frees nothing. -/
theorem tcpPcbRelease_leaks_queued_entry :
    let s : TcpSystem :=
      run ethernetRoutes init [⟨.call 0 (.openActive refLocal refForeign), 0, 0, []⟩]
    let s' :=
      step ethernetRoutes s ⟨.input (fromPeer 0 1 (tcpFlgRst ||| tcpFlgAck) 0 []), 10, 0, []⟩
    ((s.world.pcbs 0).queue.map (·.addr) = [0] ∧ s.world.heap.live = [0] ∧
      (s'.world.pcbs 0).state = .free ∧ s'.world.heap.live = [0] ∧
      ∀ i, (s'.world.pcbs i).queue = []) ∧
    ∀ r : PcbRun, (tcpPcbRelease r).pcb.queue = [] ∧ (tcpPcbRelease r).heap = r.heap :=
  ⟨by decide, tcpPcbRelease_queue_heap⟩

open TcpSystem in
/-- After the reference handshake task 0 sends ten bytes at 3 ms and five
more at 5 s, and the peer acknowledges nothing. The timer at 12.003 s finds
the first entry past its deadline: the PCB is `CLOSED` but not released, and
the same sweep resends the second entry. The next tick resends it again from
the `CLOSED` PCB. -/
theorem tcpRetransmitTimer_resends_after_deadline_close :
    let s : TcpSystem := run ethernetRoutes init (refHandshake ++
      [⟨.call 0 (.send 0 (List.replicate 10 0x62)), 3000, 0, []⟩,
       ⟨.call 0 (.send 0 (List.replicate 5 0x63)), 5000000, 0, []⟩])
    let s₁ := step ethernetRoutes s ⟨.retransmitTimer, 12003000, 0, []⟩
    let s₂ := step ethernetRoutes s₁ ⟨.retransmitTimer, 12500000, 0, []⟩
    (s.world.pcbs 0).state = .established ∧ (s₁.world.pcbs 0).state = .closed ∧
    s₁.wire.drop s.wire.length =
      [⟨11, 1001, tcpFlgAck ||| tcpFlgPsh, 16, List.replicate 5 0x63, refLocal, refForeign⟩] ∧
    (s₂.world.pcbs 0).state = .closed ∧
    s₂.wire.drop s₁.wire.length =
      [⟨11, 1001, tcpFlgAck ||| tcpFlgPsh, 16, List.replicate 5 0x63, refLocal, refForeign⟩] := by
  decide

end MicroPs.Tcp
