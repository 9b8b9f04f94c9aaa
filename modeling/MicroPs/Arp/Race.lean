/-
# Interleavings of the ARP cache

`arp_input` and `arp_timer_handler` run on the worker, one after the other.
`arp_resolve` runs on any task that sends an IP datagram through an Ethernet
device, user tasks included, so it can take the mutex between any two
critical sections of the worker, and in particular in the gap `arp_input`
leaves between its failed update and its insertion.

A run keeps one live entry per address as long as no `arp_resolve` of the
address the worker is about to insert falls into that gap. One that does
leaves two live entries for the address.
-/

import MicroPs.Arp.Cache

namespace MicroPs.Arp

/-- Where the worker is in `arp_input`: outside it, or between its two
critical sections with the insertion of `spa`/`sha` ahead. -/
inductive ArpWorker
  | idle
  | inserting (spa : BitVec 32) (sha : EtherAddr)
  deriving DecidableEq

/-- The cache and the worker. -/
structure ArpSystem where
  caches : ArpCaches
  worker : ArpWorker
  deriving DecidableEq

/-- A critical section that can run next: the first section of `arp_input`
for a message from `spa`/`sha` to `tpa`, its second section, an
`arp_resolve` from any task, or a tick of the timer. -/
inductive ArpEvent
  | input (spa : BitVec 32) (sha : EtherAddr) (tpa : BitVec 32)
  | insert
  | resolve (pa : BitVec 32)
  | timer

/-- An event with its clock reading. -/
structure ArpStimulus where
  event : ArpEvent
  now : Int

namespace ArpSystem

/-- The zeroed table and an idle worker. -/
def init : ArpSystem := ⟨fun _ => ArpCache.zero, .idle⟩

/-- One critical section. The worker's own sections run in its order, and an
event the worker is not ready for changes nothing. `unicast` is the address of
the Ethernet device's IP interface. -/
def step (unicast : Option (BitVec 32)) (s : ArpSystem) (stim : ArpStimulus) : ArpSystem :=
  match stim.event, s.worker with
  | .input spa sha tpa, .idle =>
    let (caches, merge) := arpInputUpdate s.caches spa sha stim.now
    ⟨caches, if unicast = some tpa ∧ merge = false then .inserting spa sha else .idle⟩
  | .insert, .inserting spa sha => ⟨arpInputInsert s.caches spa sha stim.now, .idle⟩
  | .resolve pa, worker => ⟨(arpResolve true s.caches pa stim.now).1, worker⟩
  | .timer, .idle => ⟨arpTimerHandler s.caches stim.now, .idle⟩
  | _, _ => s

/-- A run of critical sections. -/
def run (unicast : Option (BitVec 32)) (s : ArpSystem) (stims : List ArpStimulus) : ArpSystem :=
  stims.foldl (step unicast) s

/-- A unique table, with an insertion ahead only for an address that has no
live entry. -/
structure Inv (s : ArpSystem) : Prop where
  unique : ArpCachesUnique s.caches
  pending : ∀ spa sha, s.worker = .inserting spa sha → arpCacheSelect s.caches spa = none

theorem init_inv : init.Inv :=
  ⟨fun _ _ h => absurd rfl h, fun _ _ h => by cases h⟩

/-- An `arp_resolve` of the address the worker is about to insert. -/
def ResolvesPending : ArpWorker → ArpEvent → Prop
  | .inserting spa _, .resolve pa => pa = spa
  | _, _ => False

instance : (w : ArpWorker) → (e : ArpEvent) → Decidable (ResolvesPending w e)
  | .inserting _ _, .resolve _ => inferInstanceAs (Decidable (_ = _))
  | .idle, _ | .inserting _ _, .input _ _ _ | .inserting _ _, .insert
  | .inserting _ _, .timer => isFalse id

end ArpSystem

/-- `arp_resolve` of one address leaves any other address without a live
entry if it had none. -/
theorem arpResolve_keeps_absent {caches : ArpCaches} {q : BitVec 32}
    (habs : arpCacheSelect caches q = none) (ethernetIp : Bool) {pa : BitVec 32} (hq : q ≠ pa)
    (now : Int) : arpCacheSelect (arpResolve ethernetIp caches pa now).1 q = none := by
  rcases arpResolve_fst ethernetIp caches pa now with heq | ⟨i, caches', -, halloc, heq⟩
  · rwa [heq]
  rw [heq, arpCacheSelect_eq_none]
  intro j hj
  by_cases hji : j = i
  · subst hji; simpa using hq.symm
  · rw [Function.update_noteq hji, (arpCacheAlloc_eq_some halloc).2 j hji] at hj ⊢
    exact arpCacheSelect_eq_none.1 habs j hj

namespace ArpSystem

theorem step_inv {s : ArpSystem} (h : s.Inv) (unicast : Option (BitVec 32)) {stim : ArpStimulus}
    (hsafe : ¬ ResolvesPending s.worker stim.event) : (step unicast s stim).Inv := by
  obtain ⟨event, now⟩ := stim
  obtain ⟨caches, worker⟩ := s
  obtain ⟨hu, hp⟩ := h
  cases event with
  | input spa sha tpa =>
    cases worker with
    | idle =>
      refine ⟨hu.inputUpdate spa sha now, fun q qa hw => ?_⟩
      simp only [step] at hw ⊢
      split_ifs at hw with hins
      cases hw
      obtain ⟨heq, habs⟩ := arpInputUpdate_not_merged hins.2
      rwa [heq]
    | inserting _ _ => exact ⟨hu, hp⟩
  | insert =>
    cases worker with
    | idle => exact ⟨hu, hp⟩
    | inserting spa sha =>
      exact ⟨hu.inputInsert (hp spa sha rfl) sha now, fun _ _ hw => by cases hw⟩
  | resolve pa =>
    refine ⟨hu.resolve true pa now, fun spa sha hw => ?_⟩
    cases hw
    exact arpResolve_keeps_absent (hp spa sha rfl) true (Ne.symm hsafe) now
  | timer =>
    cases worker with
    | idle => exact ⟨hu.timer now, fun _ _ hw => by cases hw⟩
    | inserting _ _ => exact ⟨hu, hp⟩

/-- No critical section of the run is an `arp_resolve` of the address the
worker is about to insert. -/
def AvoidsRace (unicast : Option (BitVec 32)) : ArpSystem → List ArpStimulus → Prop
  | _, [] => True
  | s, stim :: rest =>
    ¬ ResolvesPending s.worker stim.event ∧ AvoidsRace unicast (step unicast s stim) rest

/-- A run that avoids the race keeps the invariant, so its table is unique
at every step. -/
theorem run_inv {unicast : Option (BitVec 32)} :
    ∀ {s : ArpSystem} {stims : List ArpStimulus}, s.Inv → AvoidsRace unicast s stims →
      (run unicast s stims).Inv
  | _, [], h, _ => h
  | s, stim :: rest, h, ⟨hsafe, hrest⟩ =>
    @run_inv unicast (step unicast s stim) rest (step_inv h unicast hsafe) hrest

/-! ## The race -/

/-- From any state where the worker is idle, `spa` has no live entry and two
entries are free: an `arp_input` from `spa` to this interface, an
`arp_resolve` of `spa` in its gap, and the insertion leave two live entries
for `spa`, one `INCOMPLETE` and one `RESOLVED`. -/
theorem run_input_resolve_insert {unicast : Option (BitVec 32)} {s : ArpSystem}
    (hidle : s.worker = .idle) {spa tpa : BitVec 32} (hfor : unicast = some tpa)
    (habs : arpCacheSelect s.caches spa = none)
    (hfree : ∃ i j, i ≠ j ∧ (s.caches i).state = .free ∧ (s.caches j).state = .free)
    (sha : EtherAddr) (t₁ t₂ t₃ : Int) :
    let s' := run unicast s [⟨.input spa sha tpa, t₁⟩, ⟨.resolve spa, t₂⟩, ⟨.insert, t₃⟩]
    s'.worker = .idle ∧ ∃ i j, i ≠ j ∧
      (s'.caches i).state = .incomplete ∧ (s'.caches i).pa = spa ∧
      (s'.caches j).state = .resolved ∧ (s'.caches j).pa = spa := by
  intro s'
  obtain ⟨caches, worker⟩ := s
  cases hidle
  have hupd : arpInputUpdate caches spa sha t₁ = (caches, false) := by
    simp [arpInputUpdate, arpCacheUpdate, habs]
  have h₁ : step unicast ⟨caches, .idle⟩ ⟨.input spa sha tpa, t₁⟩ =
      ⟨caches, .inserting spa sha⟩ := by
    simp [step, hupd, hfor]
  obtain ⟨i₀, j₀, hne, hi₀, hj₀⟩ := hfree
  obtain ⟨k, hk, -⟩ := arpCacheAlloc_of_free ⟨i₀, hi₀⟩
  set c₂ := Function.update caches k
    { caches k with state := .incomplete, pa := spa, timestamp := t₂ }
  have h₂ : step unicast ⟨caches, .inserting spa sha⟩ ⟨.resolve spa, t₂⟩ =
      ⟨c₂, .inserting spa sha⟩ := by
    simp [step, arpResolve, habs, hk, c₂]
  obtain ⟨f, hfk, hf⟩ : ∃ f, f ≠ k ∧ (caches f).state = .free := by
    by_cases h : i₀ = k
    · exact ⟨j₀, h ▸ hne.symm, hj₀⟩
    · exact ⟨i₀, h, hi₀⟩
  obtain ⟨m, hm, hmfree⟩ := @arpCacheAlloc_of_free c₂ ⟨f, by simp [c₂, hfk, hf]⟩
  have hmk : m ≠ k := by rintro rfl; simp [c₂] at hmfree
  set c₃ := Function.update c₂ m
    { c₂ m with state := .resolved, pa := spa, ha := sha, timestamp := t₃ }
  have h₃ : step unicast ⟨c₂, .inserting spa sha⟩ ⟨.insert, t₃⟩ = ⟨c₃, .idle⟩ := by
    simp [step, arpInputInsert, arpCacheInsert, hm, c₃]
  have hrun : s' = ⟨c₃, .idle⟩ := by
    simp only [s', run, List.foldl, h₁, h₂, h₃]
  rw [hrun]
  exact ⟨rfl, k, m, hmk.symm, by simp [c₃, c₂, hmk.symm], by simp [c₃, c₂, hmk.symm],
    by simp [c₃], by simp [c₃]⟩

/-- Over every interleaving of the worker's two `arp_input` sections with
`arp_resolve` calls and timer ticks from the zeroed table, the table keeps at
most one live entry per address as long as no `arp_resolve` of the address
the worker is about to insert falls between the two sections; `arp_input`
with nothing between its sections keeps any unique table unique. From every
state with the worker idle, the address without a live entry and two entries
free, one such `arp_resolve` in the gap leaves two live entries for it. -/
theorem arpCachesUnique_unless_resolve_in_gap (unicast : Option (BitVec 32)) :
    (∀ stims, AvoidsRace unicast init stims → ArpCachesUnique (run unicast init stims).caches) ∧
    (∀ (caches : ArpCaches) (spa : BitVec 32) (sha : EtherAddr) (tpa : BitVec 32) (now : Int),
      ArpCachesUnique caches → ArpCachesUnique (arpInput caches spa sha tpa unicast now)) ∧
    ∀ (s : ArpSystem) (spa tpa : BitVec 32) (sha : EtherAddr) (t₁ t₂ t₃ : Int),
      s.worker = .idle → unicast = some tpa → arpCacheSelect s.caches spa = none →
      (∃ i j, i ≠ j ∧ (s.caches i).state = .free ∧ (s.caches j).state = .free) →
      ¬ ArpCachesUnique
        (run unicast s [⟨.input spa sha tpa, t₁⟩, ⟨.resolve spa, t₂⟩, ⟨.insert, t₃⟩]).caches := by
  refine ⟨fun stims h => (run_inv init_inv h).unique,
    fun caches spa sha tpa now h => h.input spa sha tpa unicast now,
    fun s spa tpa sha t₁ t₂ t₃ hidle hfor habs hfree huniq => ?_⟩
  obtain ⟨-, i, j, hij, hi, hpi, hj, hpj⟩ :=
    run_input_resolve_insert hidle hfor habs hfree sha t₁ t₂ t₃
  exact hij (huniq i j (by simp [hi]) (by simp [hj]) (hpi.trans hpj.symm))

/-- The Ethernet device's interface is 10.0.0.1 and the table starts zeroed.
The peer 10.0.0.2 sends an ARP message to 10.0.0.1, and a task resolves
10.0.0.2 between the worker's failed update and its insertion. Entry 0 is
then `INCOMPLETE` and entry 1 `RESOLVED`, both for 10.0.0.2, and the next
resolve finds entry 0 and still answers `INCOMPLETE`. -/
theorem run_resolve_in_input_gap_duplicates :
    let s : ArpSystem := run (some 0x0a000001) init
      [⟨.input 0x0a000002 (fun _ => 2) 0x0a000001, 1000⟩, ⟨.resolve 0x0a000002, 2000⟩,
       ⟨.insert, 3000⟩]
    (s.caches 0).state = .incomplete ∧ (s.caches 0).pa = 0x0a000002 ∧
    (s.caches 1).state = .resolved ∧ (s.caches 1).pa = 0x0a000002 ∧
    ¬ ArpCachesUnique s.caches ∧
    (arpResolve true s.caches 0x0a000002 4000).2 = .incomplete := by
  intro s
  have h₀ : (s.caches 0).state = .incomplete ∧ (s.caches 0).pa = 0x0a000002 ∧
      (s.caches 1).state = .resolved ∧ (s.caches 1).pa = 0x0a000002 := by decide
  exact ⟨h₀.1, h₀.2.1, h₀.2.2.1, h₀.2.2.2,
    fun h => absurd (h 0 1 (by simp [h₀.1]) (by simp [h₀.2.2.1])
      (h₀.2.1.trans h₀.2.2.2.symm)) (by decide), by decide⟩

end ArpSystem

end MicroPs.Arp
