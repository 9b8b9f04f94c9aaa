/-
# Where a resolved address comes from

A history variable for the ARP cache: for each entry, the sender of the
`arp_input` message whose critical section last wrote it, set where
`arp_cache_update` and `arp_cache_insert` copy `spa` and `sha` into the
entry, and cleared where `arp_resolve` writes an `INCOMPLETE` entry and where
the timer deletes one. An entry `arp_cache_alloc` evicts is written by its
caller in the same critical section.

Along every run, interleavings with the race of `arp_input` included, the
history is what the table shows: an entry has an origin exactly when it is
`RESOLVED`, and the origin is its own address pair. No entry is ever
`STATIC`. So `ARP_RESOLVE_FOUND` hands out a hardware address that a message
from the resolved address put there, into an entry not deleted or evicted
since, and an entry `arp_resolve` created stays unresolved until such a
message overwrites it.
-/

import MicroPs.Arp.Race

namespace MicroPs.Arp

/-- For each entry, the `spa`/`sha` of the message that last wrote it, if a
message did. -/
abbrev ArpOrigins := Fin 32 → Option (BitVec 32 × EtherAddr)

/-- The origins a table shows: the address pair of each `RESOLVED` entry. -/
def arpCachesOrigin (caches : ArpCaches) : ArpOrigins := fun i =>
  if (caches i).state = .resolved then some ((caches i).pa, (caches i).ha) else none

namespace ArpSystem

/-- The origins after one critical section, recorded where it writes. -/
def originStep (s : ArpSystem) (origin : ArpOrigins) (stim : ArpStimulus) : ArpOrigins :=
  match stim.event, s.worker with
  | .input spa sha _, .idle =>
    match arpCacheSelect s.caches spa with
    | some i => Function.update origin i (some (spa, sha))
    | none => origin
  | .insert, .inserting spa sha =>
    match arpCacheAlloc s.caches with
    | some (i, _) => Function.update origin i (some (spa, sha))
    | none => origin
  | .resolve pa, _ =>
    match arpCacheSelect s.caches pa, arpCacheAlloc s.caches with
    | none, some (i, _) => Function.update origin i none
    | _, _ => origin
  | .timer, .idle => fun i =>
    if arpTimerHandler s.caches stim.now i = s.caches i then origin i else none
  | _, _ => origin

/-- A run with the history alongside. -/
def runOrigins (unicast : Option (BitVec 32)) :
    ArpSystem × ArpOrigins → List ArpStimulus → ArpSystem × ArpOrigins
  | so, [] => so
  | (s, origin), stim :: rest =>
    runOrigins unicast (step unicast s stim, originStep s origin stim) rest

/-- The history does not steer the run. -/
theorem runOrigins_fst (unicast : Option (BitVec 32)) :
    ∀ (s : ArpSystem) (origin : ArpOrigins) (stims : List ArpStimulus),
      (runOrigins unicast (s, origin) stims).1 = run unicast s stims
  | _, _, [] => rfl
  | s, _, stim :: rest => runOrigins_fst unicast (step unicast s stim) _ rest

end ArpSystem

/-- The history is what the table shows, and no entry is `STATIC`. -/
structure OriginInv (caches : ArpCaches) (origin : ArpOrigins) : Prop where
  origin_eq : origin = arpCachesOrigin caches
  not_static : ∀ i, (caches i).state ≠ .static

theorem OriginInv.init : OriginInv ArpSystem.init.caches fun _ => none :=
  ⟨by funext i; simp [arpCachesOrigin, ArpSystem.init, ArpCache.zero],
    fun _ => by simp [ArpSystem.init, ArpCache.zero]⟩

/-- Writing one entry, and recording the origin it shows, keeps the
invariant; the table written may differ from the old one at that entry
only, as after an eviction. -/
theorem OriginInv.write {caches caches' : ArpCaches} {origin : ArpOrigins}
    (h : OriginInv caches origin) {i : Fin 32} (hsame : ∀ j, j ≠ i → caches' j = caches j)
    (e : ArpCache) (hs : e.state ≠ .static) :
    OriginInv (Function.update caches' i e)
      (Function.update origin i (if e.state = .resolved then some (e.pa, e.ha) else none)) := by
  refine ⟨funext fun j => ?_, fun j => ?_⟩ <;> by_cases hj : j = i
  · subst hj; simp [arpCachesOrigin]
  · simp [arpCachesOrigin, hj, hsame j hj, h.origin_eq]
  · subst hj; simpa using hs
  · simpa [hj, hsame j hj] using h.not_static j

/-- An entry the timer changes, it frees. -/
theorem arpTimerHandler_changed {caches : ArpCaches} {now : Int} {i : Fin 32}
    (h : arpTimerHandler caches now i ≠ caches i) : (arpTimerHandler caches now i).state = .free :=
  by_contra fun hl => h (arpTimerHandler_live hl)

/-- One critical section keeps the invariant. -/
theorem OriginInv.step {s : ArpSystem} {origin : ArpOrigins} (h : OriginInv s.caches origin)
    (unicast : Option (BitVec 32)) (stim : ArpStimulus) :
    OriginInv (s.step unicast stim).caches (s.originStep origin stim) := by
  obtain ⟨event, now⟩ := stim
  obtain ⟨caches, worker⟩ := s
  cases event with
  | input spa sha tpa =>
    cases worker with
    | idle =>
      cases hsel : arpCacheSelect caches spa with
      | none =>
        simpa [ArpSystem.step, ArpSystem.originStep, arpInputUpdate, arpCacheUpdate, hsel] using h
      | some i =>
        simpa [ArpSystem.step, ArpSystem.originStep, arpInputUpdate, arpCacheUpdate, hsel] using
          h.write (fun _ _ => rfl)
            { caches i with state := .resolved, pa := spa, ha := sha, timestamp := now } (by simp)
    | inserting _ _ => exact h
  | insert =>
    cases worker with
    | idle => exact h
    | inserting spa sha =>
      obtain ⟨⟨i, c⟩, halloc⟩ := Option.ne_none_iff_exists'.1 (arpCacheAlloc_ne_none caches)
      simpa [ArpSystem.step, ArpSystem.originStep, arpInputInsert, arpCacheInsert, halloc] using
        h.write (arpCacheAlloc_eq_some halloc).2
          { c i with state := .resolved, pa := spa, ha := sha, timestamp := now } (by simp)
  | resolve pa =>
    cases hsel : arpCacheSelect caches pa with
    | some i =>
      simpa [ArpSystem.step, ArpSystem.originStep, arpResolve, hsel, apply_ite Prod.fst] using h
    | none =>
      obtain ⟨⟨i, c⟩, halloc⟩ := Option.ne_none_iff_exists'.1 (arpCacheAlloc_ne_none caches)
      simpa [ArpSystem.step, ArpSystem.originStep, arpResolve, hsel, halloc] using
        h.write (arpCacheAlloc_eq_some halloc).2
          { c i with state := .incomplete, pa := pa, timestamp := now } (by simp)
  | timer =>
    cases worker with
    | idle =>
      refine ⟨funext fun i => ?_, fun i => ?_⟩ <;>
        simp only [ArpSystem.step, ArpSystem.originStep] <;>
        by_cases heq : arpTimerHandler caches now i = caches i
      · simp [heq, h.origin_eq, arpCachesOrigin]
      · simp [heq, arpTimerHandler_changed heq, arpCachesOrigin]
      · rw [heq]; exact h.not_static i
      · simp [arpTimerHandler_changed heq]
    | inserting _ _ => exact h

/-- Every run with the history alongside keeps the invariant. -/
theorem OriginInv.run (unicast : Option (BitVec 32)) :
    ∀ {s : ArpSystem} {origin : ArpOrigins} (stims : List ArpStimulus), OriginInv s.caches origin →
      let r := ArpSystem.runOrigins unicast (s, origin) stims
      OriginInv r.1.caches r.2
  | _, _, [], h => h
  | _, _, stim :: rest, h => OriginInv.run unicast rest (h.step unicast stim)

/-- The hardware address `arp_resolve` finds is that of the message that
last wrote the entry it selects, whose sender is the address resolved. -/
theorem OriginInv.found {caches : ArpCaches} {origin : ArpOrigins} (h : OriginInv caches origin)
    {pa : BitVec 32} {now : Int} {ha : EtherAddr}
    (hf : (arpResolve true caches pa now).2 = .found ha) :
    ∃ i, arpCacheSelect caches pa = some i ∧ origin i = some (pa, ha) := by
  unfold arpResolve at hf
  simp only [Bool.true_eq_false, if_false] at hf
  split at hf
  · split at hf <;> cases hf
  · rename_i i hsel
    split_ifs at hf with hinc
    cases hf
    obtain ⟨hlive, hpa⟩ := arpCacheSelect_live hsel
    have hres : (caches i).state = .resolved := by
      have := h.not_static i
      cases hst : (caches i).state <;> simp_all
    exact ⟨i, hsel, by simp [h.origin_eq, arpCachesOrigin, hres, hpa]⟩

open ArpSystem in
/-- Along every run from the zeroed table, in any interleaving of the tasks,
the history of each entry is what the table shows. `arp_resolve` reports
`ARP_RESOLVE_FOUND` with `ha` only for an entry whose last write copied
`spa = pa` and `sha = ha` from an `arp_input` message. An entry that
`arp_resolve` creates stays `INCOMPLETE` until such a message arrives:
10.0.0.2 resolves `INCOMPLETE` twice, and after its message with its
hardware address. -/
theorem arpResolve_found_last_input (unicast : Option (BitVec 32)) (stims : List ArpStimulus)
    (pa : BitVec 32) (now : Int) (ha : EtherAddr) :
    let r : ArpSystem × ArpOrigins := runOrigins unicast (init, fun _ => none) stims
    r.1 = run unicast init stims ∧ r.2 = arpCachesOrigin r.1.caches ∧
    ((arpResolve true r.1.caches pa now).2 = .found ha →
      ∃ i, arpCacheSelect r.1.caches pa = some i ∧ r.2 i = some (pa, ha)) ∧
    let s₁ := step (some 0x0a000001) init ⟨.resolve 0x0a000002, 1000⟩
    let s₂ := step (some 0x0a000001) s₁ ⟨.input 0x0a000002 (fun _ => 2) 0x0a000001, 3000⟩
    (arpResolve true init.caches 0x0a000002 1000).2 = .incomplete ∧
      (arpResolve true s₁.caches 0x0a000002 2000).2 = .incomplete ∧
      (arpResolve true s₂.caches 0x0a000002 4000).2 = .found (fun _ => 2) := by
  have hinv := OriginInv.run unicast stims OriginInv.init
  exact ⟨runOrigins_fst unicast init _ stims, hinv.origin_eq, hinv.found, by decide⟩

end MicroPs.Arp
