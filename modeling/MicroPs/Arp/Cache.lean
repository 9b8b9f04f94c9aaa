/-
# The ARP cache

The table of arp.c and the critical sections that read and write it, each
run under the ARP mutex. `arp_input` takes the mutex twice: once to update the
sender's entry, and again, when there was none and the message is for this
interface, to insert one. `arp_resolve` takes it once, and so does each tick
of `arp_timer_handler`. Timestamps are microseconds.

Each section keeps at most one live entry per protocol address, provided the
insertion of `arp_input` runs right after its failed update, as it does when
nothing runs in between.
-/

import Mathlib.Data.List.FinRange
import Mathlib.Data.Fintype.Basic

namespace MicroPs.Arp

/-- `uint8_t ha[ETHER_ADDR_LEN]`. -/
abbrev EtherAddr := Fin 6 → BitVec 8

/-- `ARP_CACHE_STATE_*`. -/
inductive ArpCacheState
  | free
  | incomplete
  | resolved
  | static
  deriving DecidableEq, Repr

/-- `struct arp_cache`. -/
structure ArpCache where
  state : ArpCacheState
  pa : BitVec 32
  ha : EtherAddr
  timestamp : Int
  deriving DecidableEq

/-- An entry of the zero-initialised static table. -/
def ArpCache.zero : ArpCache := ⟨.free, 0, fun _ => 0, 0⟩

/-- The table `caches[ARP_CACHE_SIZE]`. -/
abbrev ArpCaches := Fin 32 → ArpCache

/-- `ARP_CACHE_TIMEOUT`, in seconds. -/
def arpCacheTimeout : Int := 30

/-- `arp_cache_delete`: the entry is `FREE` with zero fields, of whose
hardware address only the first byte is cleared. -/
def arpCacheDelete (cache : ArpCache) : ArpCache :=
  { cache with state := .free, pa := 0, ha := Function.update cache.ha 0 0, timestamp := 0 }

/-- The loop of `arp_cache_alloc`: the first `FREE` entry at once, or after
the whole table the oldest entry seen, the first of equal ones. -/
def arpCacheAllocLoop (caches : ArpCaches) :
    List (Fin 32) → Option (Fin 32) → Fin 32 ⊕ Option (Fin 32)
  | [], oldest => .inr oldest
  | i :: rest, oldest =>
    if (caches i).state = .free then .inl i
    else
      let oldest := match oldest with
        | some o => if (caches i).timestamp < (caches o).timestamp then some i else some o
        | none => some i
      arpCacheAllocLoop caches rest oldest

/-- `arp_cache_alloc`: the first `FREE` entry, or else the oldest entry,
deleted. With no entry at all the C code would delete through a null
pointer and return it. -/
def arpCacheAlloc (caches : ArpCaches) : Option (Fin 32 × ArpCaches) :=
  match arpCacheAllocLoop caches (List.finRange 32) none with
  | .inl i => some (i, caches)
  | .inr none => none
  | .inr (some o) => some (o, Function.update caches o (arpCacheDelete (caches o)))

/-- `arp_cache_select`: the first live entry for `pa`. -/
def arpCacheSelect (caches : ArpCaches) (pa : BitVec 32) : Option (Fin 32) :=
  (List.finRange 32).find? fun i => (caches i).state ≠ .free ∧ (caches i).pa = pa

/-- `arp_cache_update`: the live entry for `pa` becomes `RESOLVED` with `ha`,
or nothing happens and the result is `NULL`. -/
def arpCacheUpdate (caches : ArpCaches) (pa : BitVec 32) (ha : EtherAddr) (now : Int) :
    Option ArpCaches :=
  (arpCacheSelect caches pa).map fun i =>
    Function.update caches i { caches i with state := .resolved, pa, ha, timestamp := now }

/-- `arp_cache_insert`: a fresh entry, `RESOLVED` with `pa` and `ha`. It does
not look for an entry that `pa` may have already. -/
def arpCacheInsert (caches : ArpCaches) (pa : BitVec 32) (ha : EtherAddr) (now : Int) :
    Option ArpCaches :=
  (arpCacheAlloc caches).map fun (i, caches) =>
    Function.update caches i { caches i with state := .resolved, pa, ha, timestamp := now }

/-- The first critical section of `arp_input`: update the sender's entry, and
record in `merge` whether there was one. -/
def arpInputUpdate (caches : ArpCaches) (spa : BitVec 32) (sha : EtherAddr) (now : Int) :
    ArpCaches × Bool :=
  match arpCacheUpdate caches spa sha now with
  | some caches => (caches, true)
  | none => (caches, false)

/-- The second critical section of `arp_input`: insert the sender. -/
def arpInputInsert (caches : ArpCaches) (spa : BitVec 32) (sha : EtherAddr) (now : Int) :
    ArpCaches :=
  (arpCacheInsert caches spa sha now).getD caches

/-- The cache work of `arp_input` for a message from `spa`/`sha` to `tpa`,
with nothing run between its two sections. `unicast` is the address of the
device's IP interface, if it has one; the reply to a request is left out. -/
def arpInput (caches : ArpCaches) (spa : BitVec 32) (sha : EtherAddr) (tpa : BitVec 32)
    (unicast : Option (BitVec 32)) (now : Int) : ArpCaches :=
  let (caches, merge) := arpInputUpdate caches spa sha now
  if unicast = some tpa ∧ merge = false then arpInputInsert caches spa sha now else caches

/-- What `arp_resolve` answers: `ARP_RESOLVE_ERROR`, possibly still holding
the mutex; `ARP_RESOLVE_INCOMPLETE` after sending a request; or
`ARP_RESOLVE_FOUND` with the hardware address. -/
inductive ArpResolveResult
  | error (locked : Bool)
  | incomplete
  | found (ha : EtherAddr)
  deriving DecidableEq

/-- `arp_resolve` on an interface; `ethernetIp` is its check that the device
is Ethernet and the interface IP, made before it locks. A missing entry is
created `INCOMPLETE`; when that allocation fails it returns without
unlocking. -/
def arpResolve (ethernetIp : Bool) (caches : ArpCaches) (pa : BitVec 32) (now : Int) :
    ArpCaches × ArpResolveResult :=
  if ethernetIp = false then (caches, .error false)
  else
    match arpCacheSelect caches pa with
    | none =>
      match arpCacheAlloc caches with
      | none => (caches, .error true)
      | some (i, caches) =>
        (Function.update caches i { caches i with state := .incomplete, pa, timestamp := now },
          .incomplete)
    | some i =>
      if (caches i).state = .incomplete then (caches, .incomplete)
      else (caches, .found (caches i).ha)

/-- `arp_timer_handler`: every live entry that is not `STATIC` and is older
than the timeout is deleted. -/
def arpTimerHandler (caches : ArpCaches) (now : Int) : ArpCaches := fun i =>
  let entry := caches i
  if entry.state ≠ .free ∧ entry.state ≠ .static ∧
      arpCacheTimeout < (now - entry.timestamp) / 1000000 then arpCacheDelete entry
  else entry

/-! ## One live entry per address -/

/-- No two live entries share a protocol address. -/
def ArpCachesUnique (caches : ArpCaches) : Prop :=
  ∀ i j, (caches i).state ≠ .free → (caches j).state ≠ .free → (caches i).pa = (caches j).pa →
    i = j

theorem arpCacheSelect_eq_none {caches : ArpCaches} {pa : BitVec 32} :
    arpCacheSelect caches pa = none ↔ ∀ i, (caches i).state ≠ .free → (caches i).pa ≠ pa := by
  simp [arpCacheSelect, List.find?_eq_none]

theorem arpCacheSelect_live {caches : ArpCaches} {pa : BitVec 32} {i : Fin 32}
    (h : arpCacheSelect caches pa = some i) : (caches i).state ≠ .free ∧ (caches i).pa = pa := by
  simpa using List.find?_some h

@[simp] theorem arpCacheDelete_state (cache : ArpCache) : (arpCacheDelete cache).state = .free :=
  rfl

/-- Setting one entry keeps the table unique when the new entry is free or
its address has no other live entry. -/
theorem ArpCachesUnique.update {caches : ArpCaches} (h : ArpCachesUnique caches) (i : Fin 32)
    (e : ArpCache) (he : e.state ≠ .free → ∀ j, j ≠ i → (caches j).state ≠ .free →
      (caches j).pa ≠ e.pa) :
    ArpCachesUnique (Function.update caches i e) := by
  intro k l hk hl hkl
  by_cases hki : k = i <;> by_cases hli : l = i
  · rw [hki, hli]
  · subst hki
    simp only [Function.update_same, Function.update_noteq hli] at hk hl hkl
    exact absurd hkl.symm (he hk l hli hl)
  · subst hli
    simp only [Function.update_same, Function.update_noteq hki] at hk hl hkl
    exact absurd hkl (he hl k hki hk)
  · simp only [Function.update_noteq hki, Function.update_noteq hli] at hk hl hkl
    exact h k l hk hl hkl

theorem arpCacheAllocLoop_inl {caches : ArpCaches} {i : Fin 32} :
    ∀ {l : List (Fin 32)} {oldest : Option (Fin 32)},
      arpCacheAllocLoop caches l oldest = .inl i → (caches i).state = .free
  | [], _, h => by cases h
  | j :: rest, _, h => by
    unfold arpCacheAllocLoop at h
    split_ifs at h with hj
    · cases h; exact hj
    · exact arpCacheAllocLoop_inl h

/-- Once an entry has been seen the loop has an oldest one to answer. -/
theorem arpCacheAllocLoop_some_ne (caches : ArpCaches) :
    ∀ (l : List (Fin 32)) (o : Fin 32), arpCacheAllocLoop caches l (some o) ≠ .inr none
  | [], _ => by simp [arpCacheAllocLoop]
  | j :: rest, o => by
    unfold arpCacheAllocLoop
    split_ifs
    · simp
    · dsimp only
      split_ifs <;> exact arpCacheAllocLoop_some_ne caches rest _

/-- With a `FREE` entry in the table the loop answers the first one. -/
theorem arpCacheAllocLoop_of_free {caches : ArpCaches} :
    ∀ {l : List (Fin 32)} (oldest : Option (Fin 32)), (∃ i ∈ l, (caches i).state = .free) →
      ∃ i, arpCacheAllocLoop caches l oldest = .inl i
  | [], _, ⟨_, hi, _⟩ => absurd hi (List.not_mem_nil _)
  | j :: rest, _, ⟨i, hi, hfree⟩ => by
    unfold arpCacheAllocLoop
    split_ifs with hj
    · exact ⟨j, rfl⟩
    · refine arpCacheAllocLoop_of_free _ ⟨i, ?_, hfree⟩
      rcases List.mem_cons.mp hi with rfl | hi
      · exact absurd hfree hj
      · exact hi

/-- `arp_cache_alloc` never fails: the table is never empty. -/
theorem arpCacheAlloc_ne_none (caches : ArpCaches) : arpCacheAlloc caches ≠ none := by
  unfold arpCacheAlloc
  have hloop : arpCacheAllocLoop caches (List.finRange 32) none ≠ .inr none := by
    rw [show List.finRange 32 = 0 :: (List.finRange 32).tail from rfl]
    unfold arpCacheAllocLoop
    split_ifs
    · simp
    · exact arpCacheAllocLoop_some_ne caches _ _
  split
  · simp
  · contradiction
  · simp

/-- With a `FREE` entry `arp_cache_alloc` hands out the first one and
changes nothing. -/
theorem arpCacheAlloc_of_free {caches : ArpCaches} (h : ∃ i, (caches i).state = .free) :
    ∃ i, arpCacheAlloc caches = some (i, caches) ∧ (caches i).state = .free := by
  obtain ⟨j, hj⟩ := h
  obtain ⟨i, hi⟩ := arpCacheAllocLoop_of_free none ⟨j, List.mem_finRange j, hj⟩
  exact ⟨i, by simp [arpCacheAlloc, hi], arpCacheAllocLoop_inl hi⟩

/-- An entry `arp_cache_alloc` hands out is free, and no other entry moved. -/
theorem arpCacheAlloc_eq_some {caches caches' : ArpCaches} {i : Fin 32}
    (h : arpCacheAlloc caches = some (i, caches')) :
    (caches' i).state = .free ∧ ∀ j, j ≠ i → caches' j = caches j := by
  unfold arpCacheAlloc at h
  split at h
  · rename_i hloop
    obtain ⟨rfl, rfl⟩ := Prod.mk.inj (Option.some.inj h)
    exact ⟨arpCacheAllocLoop_inl hloop, fun _ _ => rfl⟩
  · cases h
  · obtain ⟨rfl, rfl⟩ := Prod.mk.inj (Option.some.inj h)
    exact ⟨by simp, fun j hj => Function.update_noteq hj _ _⟩

/-- The table after `arp_cache_alloc` is unique when the one before was. -/
theorem ArpCachesUnique.alloc {caches caches' : ArpCaches} (h : ArpCachesUnique caches)
    {i : Fin 32} (halloc : arpCacheAlloc caches = some (i, caches')) : ArpCachesUnique caches' := by
  obtain ⟨hfree, hsame⟩ := arpCacheAlloc_eq_some halloc
  have heq : caches' = Function.update caches i (caches' i) := by
    funext j
    by_cases hj : j = i
    · subst hj; simp
    · simp [hj, hsame j hj]
  rw [heq]
  exact h.update i _ fun hlive => absurd hfree hlive

/-- Writing address `pa` into the entry `arp_cache_alloc` handed out keeps
the table unique when `pa` had no live entry. -/
theorem ArpCachesUnique.alloc_write {caches caches' : ArpCaches} (h : ArpCachesUnique caches)
    {pa : BitVec 32} (habs : arpCacheSelect caches pa = none) {i : Fin 32}
    (halloc : arpCacheAlloc caches = some (i, caches')) (e : ArpCache) (hpa : e.pa = pa) :
    ArpCachesUnique (Function.update caches' i e) := by
  refine (h.alloc halloc).update i e fun _ j hj hlive => ?_
  rw [(arpCacheAlloc_eq_some halloc).2 j hj] at hlive ⊢
  exact hpa ▸ arpCacheSelect_eq_none.1 habs j hlive

theorem ArpCachesUnique.cacheUpdate {caches caches' : ArpCaches} (h : ArpCachesUnique caches)
    {pa : BitVec 32} {ha : EtherAddr} {now : Int}
    (hupd : arpCacheUpdate caches pa ha now = some caches') : ArpCachesUnique caches' := by
  obtain ⟨i, hsel, rfl⟩ := Option.map_eq_some'.mp hupd
  obtain ⟨hlive, hpa⟩ := arpCacheSelect_live hsel
  exact h.update i _ fun _ j hj hjl hjpa => hj (h j i hjl hlive (hjpa.trans hpa.symm))

theorem ArpCachesUnique.cacheInsert {caches caches' : ArpCaches} (h : ArpCachesUnique caches)
    {pa : BitVec 32} {ha : EtherAddr} {now : Int} (habs : arpCacheSelect caches pa = none)
    (hins : arpCacheInsert caches pa ha now = some caches') : ArpCachesUnique caches' := by
  obtain ⟨⟨i, c⟩, halloc, rfl⟩ := Option.map_eq_some'.mp hins
  exact h.alloc_write habs halloc _ rfl

/-- What `arp_resolve` does to the table: nothing, or it writes an
`INCOMPLETE` entry for a missing `pa` into the entry it allocated. -/
theorem arpResolve_fst (ethernetIp : Bool) (caches : ArpCaches) (pa : BitVec 32) (now : Int) :
    (arpResolve ethernetIp caches pa now).1 = caches ∨
    ∃ i caches', arpCacheSelect caches pa = none ∧ arpCacheAlloc caches = some (i, caches') ∧
      (arpResolve ethernetIp caches pa now).1 = Function.update caches' i
        { caches' i with state := .incomplete, pa, timestamp := now } := by
  unfold arpResolve
  split
  · exact .inl rfl
  split
  · rename_i hsel
    split
    · exact .inl rfl
    · rename_i i caches' halloc
      exact .inr ⟨i, caches', hsel, halloc, rfl⟩
  · split <;> exact .inl rfl

/-- `arp_resolve` never returns holding the mutex: its exit that skips the
unlock needs `arp_cache_alloc` to fail. -/
theorem arpResolve_unlocks (ethernetIp : Bool) (caches : ArpCaches) (pa : BitVec 32) (now : Int) :
    (arpResolve ethernetIp caches pa now).2 ≠ .error true := by
  unfold arpResolve
  split
  · simp
  split
  · split
    · exact absurd ‹_› (arpCacheAlloc_ne_none caches)
    · simp
  · split <;> simp

theorem ArpCachesUnique.resolve {caches : ArpCaches} (h : ArpCachesUnique caches)
    (ethernetIp : Bool) (pa : BitVec 32) (now : Int) :
    ArpCachesUnique (arpResolve ethernetIp caches pa now).1 := by
  rcases arpResolve_fst ethernetIp caches pa now with heq | ⟨i, caches', hsel, halloc, heq⟩
  · rwa [heq]
  · rw [heq]; exact h.alloc_write hsel halloc _ rfl

/-- An entry the timer leaves live is unchanged. -/
theorem arpTimerHandler_live {caches : ArpCaches} {now : Int} {i : Fin 32}
    (h : (arpTimerHandler caches now i).state ≠ .free) :
    arpTimerHandler caches now i = caches i := by
  simp only [arpTimerHandler] at h ⊢
  split_ifs at h ⊢
  · exact absurd rfl h
  · rfl

theorem ArpCachesUnique.timer {caches : ArpCaches} (h : ArpCachesUnique caches) (now : Int) :
    ArpCachesUnique (arpTimerHandler caches now) := by
  intro i j hi hj hij
  have hei := arpTimerHandler_live hi
  have hej := arpTimerHandler_live hj
  rw [hei] at hi hij
  rw [hej] at hj hij
  exact h i j hi hj hij

theorem ArpCachesUnique.inputUpdate {caches : ArpCaches} (h : ArpCachesUnique caches)
    (spa : BitVec 32) (sha : EtherAddr) (now : Int) :
    ArpCachesUnique (arpInputUpdate caches spa sha now).1 := by
  unfold arpInputUpdate
  split
  · rename_i hupd; exact h.cacheUpdate hupd
  · exact h

/-- An update that merged nothing left the table alone and found no live
entry for the sender. -/
theorem arpInputUpdate_not_merged {caches : ArpCaches} {spa : BitVec 32} {sha : EtherAddr}
    {now : Int} (h : (arpInputUpdate caches spa sha now).2 = false) :
    (arpInputUpdate caches spa sha now).1 = caches ∧ arpCacheSelect caches spa = none := by
  unfold arpInputUpdate at h ⊢
  split at h
  · cases h
  · rename_i hupd
    exact ⟨by simp [hupd], by simpa [arpCacheUpdate] using hupd⟩

theorem ArpCachesUnique.inputInsert {caches : ArpCaches} (h : ArpCachesUnique caches)
    {spa : BitVec 32} (habs : arpCacheSelect caches spa = none) (sha : EtherAddr) (now : Int) :
    ArpCachesUnique (arpInputInsert caches spa sha now) := by
  unfold arpInputInsert
  cases hins : arpCacheInsert caches spa sha now with
  | none => exact h
  | some caches' => exact h.cacheInsert habs hins

/-- `arp_input` with nothing run between its two critical sections keeps the
table unique: it inserts only an address its update found missing. -/
theorem ArpCachesUnique.input {caches : ArpCaches} (h : ArpCachesUnique caches)
    (spa : BitVec 32) (sha : EtherAddr) (tpa : BitVec 32) (unicast : Option (BitVec 32))
    (now : Int) : ArpCachesUnique (arpInput caches spa sha tpa unicast now) := by
  simp only [arpInput]
  split_ifs with hins
  · obtain ⟨heq, habs⟩ := arpInputUpdate_not_merged hins.2
    rw [heq]
    exact h.inputInsert habs sha now
  · exact h.inputUpdate spa sha now

end MicroPs.Arp
