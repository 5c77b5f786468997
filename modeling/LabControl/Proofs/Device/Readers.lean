/-
# Reads of one device side by side

Any number of reads of a device go on in any interleaving, each one step at a time; the cache is
cleared between the steps, reads are given up wherever they stand, and the backend refuses what
it likes.  Whatever the schedule, no place gets a second slot before the cache is cleared, every
handle in the cache was opened for just its place, and a read reads the slot that the cache held
for its place when the read let go of it (`slots_safe_after`).

What carries this is that a read which asks for a slot holds the cache: no other read looks into
it meanwhile, and no reset clears it (`Consistent.holder`), so there is still no entry for its
place when the handle comes (`Consistent.asking`).
-/
import LabControl.Device.Registry
import LabControl.Proofs.Exclusion

namespace LabControl.Device

variable {σ : Type}

/-! ## 1. The calls of a read -/

/-- A call of the backend, with what came back. -/
inductive SlotCall where
  | opened (request : SlotRequest) (result : Except ControlError Nat)
  | read (bus slot : Nat) (result : Except ControlError Float)

/-- The handle that a call opened at a place. -/
def SlotCall.openedAt? (place : Place) : SlotCall → Option Nat
  | .opened request (.ok slot) => if request.place = place then some slot else none
  | _ => none

/-- A backend with a list of the calls that it got, the newest first. -/
def SlotBackend.noting (b : SlotBackend σ) : SlotBackend (σ × List SlotCall) where
  note request s := (b.note request s.1, s.2)
  openSlot request s :=
    let (result, backend) := b.openSlot request s.1
    (result, backend, .opened request result :: s.2)
  readSlot bus slot s :=
    let (result, backend) := b.readSlot bus slot s.1
    (result, backend, .read bus slot result :: s.2)

namespace Reading

/-- One step of a read, and the calls of the backend that it makes. -/
def noted (b : SlotBackend σ) (request : SlotRequest) (r : Reading) (s : Shared σ) :
    (Reading × Shared σ) × List SlotCall :=
  let (r, s) := r.step b.noting request
    { cache := s.cache, locked := s.locked, backend := (s.backend, []) }
  ((r, { cache := s.cache, locked := s.locked, backend := s.backend.1 }), s.backend.2)

/-- The calls of the backend that the next step of a read makes: at most one. -/
def calls (b : SlotBackend σ) (request : SlotRequest) : Reading → Shared σ → List SlotCall
  | opening, s => [.opened request (b.openSlot request s.backend).1]
  | holding slot, s =>
    [.read request.place.bus slot (b.readSlot request.place.bus slot s.backend).1]
  | _, _ => []

/-- Taking notes does not change a step. -/
theorem noted_eq (b : SlotBackend σ) (request : SlotRequest) (r : Reading) (s : Shared σ) :
    r.noted b request s = (r.step b request s, r.calls b request s) := by
  obtain ⟨cache, locked, backend⟩ := s
  cases r with
  | queued =>
    simp only [noted, step, calls]
    by_cases hlock : locked = true
    · simp [hlock]
    · cases hfind : cache.find? request.place <;> simp [hlock, SlotBackend.noting]
  | opening =>
    simp only [noted, step, calls, SlotBackend.noting]
    rcases hopen : b.openSlot request backend with ⟨error | slot, opened⟩ <;> simp [hopen]
  | holding slot => rfl
  | finished result => rfl

/-- Whether a read has not let go of the cache yet. -/
def seeks : Reading → Bool
  | queued | opening => true
  | holding _ | finished _ => false

end Reading

namespace SlotCache

/-- Dropping the entry of one place does not change what is found for another. -/
theorem lookup_filter_ne {place other : Place} (h : other ≠ place) :
    ∀ entries : List (Place × Nat),
      (entries.filter (·.1 != place)).lookup other = entries.lookup other
  | [] => rfl
  | (kept, slot) :: entries => by
    have ih := lookup_filter_ne h entries
    by_cases hkept : kept = place
    · have hne : (other == place) = false := beq_eq_false_iff_ne.mpr h
      simp [hkept, List.lookup_cons, hne, ih]
    · simp [hkept, List.lookup_cons, ih]

/-- The cache keeps the newest handle of a place, and the others as they are. -/
theorem find?_insert (c : SlotCache) (place other : Place) (slot : Nat) :
    (c.insert place slot).find? other = if other = place then some slot else c.find? other := by
  by_cases h : other = place
  · simp [find?, insert, h]
  · have hne : (other == place) = false := beq_eq_false_iff_ne.mpr h
    simp [find?, insert, List.lookup_cons, h, hne, lookup_filter_ne h]

end SlotCache

@[simp] theorem slotRequest_place (d : Device) (place : Place) :
    (d.slotRequest place).place = place := rfl

/-! ## 2. Reads and resets in any interleaving -/

namespace Readers

/-- What happens, as far as slots are concerned. -/
inductive Event where
  /-- A read calls the backend. -/
  | called (read : Nat) (call : SlotCall)
  /-- A read lets go of the cache, which has this handle for the place of the read. -/
  | left (read : Nat) (handle : Option Nat)
  /-- The cache is cleared. -/
  | cleared

/-- What can happen next. -/
inductive Act (σ : Type) where
  /-- A read goes on by one step, if there is one to make. -/
  | advance (read : Nat)
  /-- A read is given up. -/
  | drop (read : Nat)
  /-- The cache is cleared, unless a read holds it. -/
  | reset
  /-- The backend changes by itself. -/
  | elsewhere (backend : σ)

/-- The handles that were opened at a place since the cache was cleared last; the log has the
newest event first. -/
def openedSince (place : Place) : List Event → List Nat
  | [] | .cleared :: _ => []
  | .called _ call :: log => (call.openedAt? place).toList ++ openedSince place log
  | .left .. :: log => openedSince place log

end Readers

/-- The reads of a device, each under a number, with what they share. -/
structure Readers (σ : Type) where
  shared : Shared σ
  /-- How far each read has come, unless it was given up. -/
  reading : Nat → Option Reading := fun _ => some .queued
  /-- What has happened, the newest first. -/
  log : List Readers.Event := []

namespace Readers

/-- Reads of a new device, none of which has begun. -/
def start (backend : σ) : Readers σ := { shared := { cache := {}, backend } }

/-- The reads after one more act.  Each read has a place; the requests are those of the
device. -/
def act (b : SlotBackend σ) (d : Device) (places : Nat → Place) (s : Readers σ) :
    Act σ → Readers σ
  | .advance n =>
    match s.reading n with
    | none => s
    | some r =>
      let ((r', shared), calls) := r.noted b (d.slotRequest (places n)) s.shared
      let left :=
        if r.seeks && !r'.seeks then [Event.left n (shared.cache.find? (places n))] else []
      { shared
        reading := Function.update s.reading n (some r')
        log := left ++ calls.map (.called n) ++ s.log }
  | .drop n =>
    match s.reading n with
    | none => s
    | some r => { s with shared := r.abandon s.shared, reading := Function.update s.reading n none }
  | .reset =>
    match s.shared.forget? with
    | none => s
    | some shared => { s with shared, log := .cleared :: s.log }
  | .elsewhere backend => { s with shared := { s.shared with backend } }

/-- The reads after a schedule. -/
def after (b : SlotBackend σ) (d : Device) (places : Nat → Place) (s : Readers σ)
    (schedule : List (Act σ)) : Readers σ := schedule.foldl (act b d places) s

variable {b : SlotBackend σ} {d : Device} {places : Nat → Place} {s : Readers σ} {n : Nat}

/-- A read goes on by a step of its course, and leaves word of what it did. -/
theorem act_advance {r : Reading} (h : s.reading n = some r) :
    s.act b d places (.advance n) =
      let next := r.step b (d.slotRequest (places n)) s.shared
      { shared := next.2
        reading := Function.update s.reading n (some next.1)
        log :=
          (if r.seeks && !next.1.seeks then
            [Event.left n (next.2.cache.find? (places n))] else []) ++
          (r.calls b (d.slotRequest (places n)) s.shared).map (.called n) ++ s.log } := by
  simp [act, h, Reading.noted_eq]

/-! ## 3. What holds at every moment -/

/-- A read holds the cache while it waits for its slot. -/
def Holds (_n : Nat) (r : Option Reading) : Prop := r = some .opening

/-- **What holds of the reads at every moment.** -/
structure Consistent (places : Nat → Place) (s : Readers σ) : Prop where
  /-- The cache is held while a read waits for its slot, and by that read alone. -/
  holder : Guarded s.shared.locked Holds s.reading
  /-- A read waits for a slot only where the cache has none. -/
  asking : ∀ n, s.reading n = some .opening → s.shared.cache.find? (places n) = none
  /-- The cache has just what was opened since it was cleared last. -/
  opened : ∀ place, openedSince place s.log = (s.shared.cache.find? place).toList
  /-- A read that has its slot found it in the cache when it let go of it. -/
  held : ∀ n slot, s.reading n = some (.holding slot) → .left n (some slot) ∈ s.log
  /-- A slot that was read is that of a read's place, by the cache that the read let go of. -/
  called : ∀ n bus slot result, .called n (.read bus slot result) ∈ s.log →
    bus = (places n).bus ∧ .left n (some slot) ∈ s.log

theorem consistent_start (backend : σ) : Consistent places (start backend) where
  holder :=
    { taken_iff := by simp [start, Holds]
      single := fun n m h => by simp [start, Holds] at h }
  asking n h := by simp [start] at h
  opened place := rfl
  held n slot h := by simp [start] at h
  called n bus slot result h := by cases h

/-! ## 4. What one act keeps -/

/-- Where one read goes on and the log grows, what is known of the slots that were got stays
known, if it is known of the slot that this read has got. -/
theorem held_update {reading : Nat → Option Reading} {next : Option Reading}
    {log log' : List Event}
    (h : ∀ m slot, reading m = some (.holding slot) → .left m (some slot) ∈ log)
    (hlog : log ⊆ log') (hnext : ∀ slot, next = some (.holding slot) → .left n (some slot) ∈ log') :
    ∀ m slot, Function.update reading n next m = some (.holding slot) →
      .left m (some slot) ∈ log' := by
  intro m slot hm
  by_cases hmn : m = n
  · subst hmn
    exact hnext slot (by simpa using hm)
  · rw [Function.update_of_ne hmn] at hm
    exact hlog (h m slot hm)

/-- Where a read goes on and does not wait for a slot then, only those wait that waited before. -/
theorem Consistent.asking_update (h : Consistent places s) {next : Option Reading}
    (hnext : ¬Holds n next) : ∀ m, Function.update s.reading n next m = some .opening →
      s.shared.cache.find? (places m) = none := by
  intro m hm
  have hbefore : Holds m (s.reading m) := Guarded.has_of_has_update hnext hm
  exact h.asking m hbefore

/-- Where the log grows by no reading of a slot, what is known of those in it stays known. -/
theorem Consistent.called_grow (h : Consistent places s) {log : List Event} (hlog : s.log ⊆ log)
    (hnew : ∀ n bus slot result, .called n (.read bus slot result) ∈ log →
      .called n (.read bus slot result) ∈ s.log) :
    ∀ n bus slot result, .called n (.read bus slot result) ∈ log →
      bus = (places n).bus ∧ .left n (some slot) ∈ log := by
  intro m bus slot result hmem
  obtain ⟨hbus, hleft⟩ := h.called m bus slot result (hnew m bus slot result hmem)
  exact ⟨hbus, hlog hleft⟩

/-- A read that finds the cache free and no handle there takes the cache and asks for a slot. -/
theorem Consistent.ask (h : Consistent places s) (hfree : s.shared.locked = false)
    (hnew : s.shared.cache.find? (places n) = none) (backend : σ) :
    Consistent places
      { s with
        shared := { cache := s.shared.cache, locked := true, backend }
        reading := Function.update s.reading n (some .opening) } := by
  have htaken : Guarded true Holds (Function.update s.reading n (some .opening)) :=
    (hfree ▸ h.holder).take _ rfl
  refine { holder := htaken, asking := ?_, opened := h.opened, held := ?_, called := h.called }
  · intro m hm
    obtain rfl := htaken.single m n hm (by simp [Holds])
    exact hnew
  · exact held_update h.held (List.Subset.refl _) (by simp)

/-- A read that finds its handle in the cache has its slot. -/
theorem Consistent.find (h : Consistent places s) (hr : s.reading n = some .queued) (slot : Nat) :
    Consistent places
      { s with
        reading := Function.update s.reading n (some (.holding slot))
        log := .left n (some slot) :: s.log } := by
  refine { holder := h.holder.keep _ (by simp [Holds, hr]),
           asking := h.asking_update (by simp [Holds]), opened := ?_, held := ?_,
           called := h.called_grow (by simp) (by simp) }
  · simpa [openedSince] using h.opened
  · exact held_update h.held (by simp) (by simp)

/-- A read whose slot comes puts the handle where there was none. -/
theorem Consistent.obtain (h : Consistent places s) (hr : s.reading n = some .opening)
    (request : SlotRequest) (hplace : request.place = places n) (slot : Nat) (backend : σ) :
    Consistent places
      { shared := { cache := s.shared.cache.insert (places n) slot, locked := false, backend }
        reading := Function.update s.reading n (some (.holding slot))
        log := .left n (some slot) :: .called n (.opened request (.ok slot)) :: s.log } := by
  have hfree := h.holder.release hr (some (.holding slot)) (by simp [Holds])
  refine { holder := hfree, asking := fun m hm => absurd hm (hfree.not_has m), opened := ?_,
           held := held_update h.held (by simp) (by simp),
           called := h.called_grow (by simp) (by simp) }
  · intro place
    -- at its own place there was no handle, so the new one is the only one
    by_cases hown : place = places n
    · simp [openedSince, SlotCall.openedAt?, SlotCache.find?_insert, hplace, hown, h.opened,
        h.asking n hr]
    · simp [openedSince, SlotCall.openedAt?, SlotCache.find?_insert, hplace, hown, Ne.symm hown,
        h.opened]

/-- A read that is refused lets go of the cache and has changed nothing in it. -/
theorem Consistent.refuse (h : Consistent places s) (hr : s.reading n = some .opening)
    (request : SlotRequest) (error : ControlError) (handle : Option Nat) (backend : σ) :
    Consistent places
      { shared := { cache := s.shared.cache, locked := false, backend }
        reading := Function.update s.reading n (some (.finished (.error error)))
        log := .left n handle :: .called n (.opened request (.error error)) :: s.log } := by
  have hfree := h.holder.release hr (some (.finished (.error error))) (by simp [Holds])
  refine { holder := hfree, asking := fun m hm => absurd hm (hfree.not_has m), opened := ?_,
           held := held_update h.held (by simp) (by simp),
           called := h.called_grow (by simp) (by simp) }
  · simpa [openedSince, SlotCall.openedAt?] using h.opened

/-- A read that has its slot reads that slot on its own bus. -/
theorem Consistent.read (h : Consistent places s) {slot : Nat}
    (hr : s.reading n = some (.holding slot)) (result : Except ControlError Float) (backend : σ) :
    Consistent places
      { shared := { s.shared with backend }
        reading := Function.update s.reading n (some (.finished result))
        log := .called n (.read (places n).bus slot result) :: s.log } := by
  refine { holder := h.holder.keep _ (by simp [Holds, hr]),
           asking := h.asking_update (by simp [Holds]), opened := ?_, held := ?_, called := ?_ }
  · simpa [openedSince, SlotCall.openedAt?] using h.opened
  · exact held_update h.held (List.subset_cons_self _ _) (by simp)
  · intro m bus slot' result' hmem
    rcases List.mem_cons.mp hmem with hnew | hold
    · cases hnew
      exact ⟨rfl, List.mem_cons_of_mem _ (h.held n slot hr)⟩
    · obtain ⟨hbus, hleft⟩ := h.called m bus slot' result' hold
      exact ⟨hbus, List.mem_cons_of_mem _ hleft⟩

theorem Consistent.advance (h : Consistent places s) :
    Consistent places (s.act b d places (.advance n)) := by
  cases hr : s.reading n with
  | none => simpa [act, hr] using h
  | some r =>
    rw [act_advance hr]
    cases r with
    | queued =>
      by_cases hfree : s.shared.locked = true
      · simpa [Reading.step, Reading.calls, Reading.seeks, hfree, ← hr] using h
      · cases hfind : s.shared.cache.find? (places n) with
        | none =>
          simpa [Reading.step, Reading.calls, Reading.seeks, hfree, hfind]
            using h.ask (by simpa using hfree) hfind _
        | some slot =>
          simpa [Reading.step, Reading.calls, Reading.seeks, hfree, hfind]
            using h.find hr slot
    | opening =>
      rcases hopen : b.openSlot (d.slotRequest (places n)) s.shared.backend with
        ⟨error | slot, backend⟩
      · simpa [Reading.step, Reading.calls, Reading.seeks, hopen]
          using h.refuse hr (d.slotRequest (places n)) error _ backend
      · simpa [Reading.step, Reading.calls, Reading.seeks, hopen, SlotCache.find?_insert]
          using h.obtain hr (d.slotRequest (places n)) rfl slot backend
    | holding slot =>
      simpa [Reading.step, Reading.calls, Reading.seeks] using h.read hr _ _
    | finished result => simpa [Reading.step, Reading.calls, Reading.seeks, ← hr] using h

/-- A read that is given up lets go of the cache if it holds it, and has changed nothing in
it. -/
theorem Consistent.drop (h : Consistent places s) :
    Consistent places (s.act b d places (.drop n)) := by
  cases hr : s.reading n with
  | none => simpa [act, hr] using h
  | some r =>
    have hheld : ∀ m slot, Function.update s.reading n none m = some (.holding slot) →
        .left m (some slot) ∈ s.log := held_update h.held (List.Subset.refl _) (by simp)
    by_cases hopening : r = .opening
    · subst hopening
      have hfree := h.holder.release hr none (by simp [Holds])
      simp only [act, hr, Reading.abandon]
      exact { holder := hfree, asking := fun m hm => absurd hm (hfree.not_has m),
              opened := h.opened, held := hheld, called := h.called }
    · have hkeep := h.holder.keep (n := n) none (by simp [Holds, hr, hopening])
      have hshared : r.abandon s.shared = s.shared := by cases r <;> first | rfl | contradiction
      simp only [act, hr, hshared]
      exact { holder := hkeep, asking := h.asking_update (by simp [Holds]), opened := h.opened,
              held := hheld, called := h.called }

/-- The cache is cleared only while no read waits for a slot. -/
theorem Consistent.reset (h : Consistent places s) :
    Consistent places (s.act b d places .reset) := by
  by_cases hfree : s.shared.locked = true
  · simpa [act, Shared.forget?, hfree] using h
  · simp only [act, Shared.forget?, hfree, Bool.false_eq_true, if_false]
    refine { holder := by simpa [hfree] using h.holder, asking := fun m _ => rfl,
             opened := fun place => rfl, held := ?_, called := h.called_grow (by simp) (by simp) }
    intro m slot hm
    exact List.mem_cons_of_mem _ (h.held m slot hm)

/-- **One act keeps the reads consistent.** -/
theorem Consistent.act (h : Consistent places s) (a : Act σ) :
    Consistent places (s.act b d places a) := by
  cases a with
  | advance n => exact h.advance
  | drop n => exact h.drop
  | reset => exact h.reset
  | elsewhere backend => exact { h with }

/-- The reads of a new device are consistent after any schedule. -/
theorem consistent_after (b : SlotBackend σ) (d : Device) (places : Nat → Place) (backend : σ)
    (schedule : List (Act σ)) :
    Consistent places ((start backend).after b d places schedule) := by
  have hrun : ∀ s : Readers σ, Consistent places s →
      Consistent places (s.after b d places schedule) := by
    induction schedule with
    | nil => exact fun s h => h
    | cons a schedule ih => exact fun s h => ih _ (h.act a)
  exact hrun _ (consistent_start backend)

/-! ## 5. What readers may rely on -/

/-- A queued read that goes on while the cache is free asks for a slot if there is no handle. -/
theorem advance_eq_opening_iff (hr : s.reading n = some .queued)
    (hfree : s.shared.locked = false) :
    (s.act b d places (.advance n)).reading n = some .opening ↔
      s.shared.cache.find? (places n) = none := by
  cases hfind : s.shared.cache.find? (places n) <;>
    simp [act_advance hr, Reading.step, hfree, hfind]

/-- A read changes no entry but that of its own place, whether it goes on or is given up. -/
theorem find?_act_of_ne {place : Place} (hne : place ≠ places n) :
    (s.act b d places (.advance n)).shared.cache.find? place = s.shared.cache.find? place ∧
      (s.act b d places (.drop n)).shared.cache.find? place = s.shared.cache.find? place := by
  cases hr : s.reading n with
  | none => simp [act, hr]
  | some r =>
    rw [act_advance hr]
    cases r with
    | queued =>
      by_cases hfree : s.shared.locked = true
      · simp [act, hr, Reading.step, Reading.abandon, hfree]
      · cases hfind : s.shared.cache.find? (places n) <;>
          simp [act, hr, Reading.step, Reading.abandon, hfree, hfind]
    | opening =>
      rcases hopen : b.openSlot (d.slotRequest (places n)) s.shared.backend with
        ⟨error | slot, backend⟩ <;>
        simp [act, hr, Reading.step, Reading.abandon, hopen, SlotCache.find?_insert, hne]
    | holding slot => simp [act, hr, Reading.step, Reading.abandon]
    | finished result => simp [act, hr, Reading.step, Reading.abandon]

/-- An act by which a read that waits for its slot ends without one: it is given up, or the
backend refuses. -/
def Misses (b : SlotBackend σ) (d : Device) (places : Nat → Place) (s : Readers σ) (n : Nat)
    (a : Act σ) : Prop :=
  s.reading n = some .opening ∧ (a = .drop n ∨ a = .advance n ∧
    ∃ error, (b.openSlot (d.slotRequest (places n)) s.shared.backend).1 = .error error)

/-- A read that ends without its slot lets go of the cache and leaves it as it was. -/
theorem Misses.shared {a : Act σ} (h : Misses b d places s n a) :
    (s.act b d places a).shared.cache = s.shared.cache ∧
      (s.act b d places a).shared.locked = false := by
  obtain ⟨hr, rfl | ⟨rfl, error, hrefused⟩⟩ := h
  · simp [act, hr, Reading.abandon]
  · rcases hopen : b.openSlot (d.slotRequest (places n)) s.shared.backend with
      ⟨refused | slot, backend⟩
    · simp [act_advance hr, Reading.step, hopen]
    · simp [hopen] at hrefused

/-- The other reads are where they were. -/
theorem Misses.reading {a : Act σ} (h : Misses b d places s n a) {m : Nat} (hm : m ≠ n) :
    (s.act b d places a).reading m = s.reading m := by
  obtain ⟨hr, rfl | ⟨rfl, error, hrefused⟩⟩ := h
  · simp [act, hr, Function.update_of_ne hm]
  · simp [act_advance hr, Function.update_of_ne hm]

/-- **What the slots of a device promise.** -/
structure Safe (b : SlotBackend σ) (d : Device) (places : Nat → Place) (s : Readers σ) : Prop where
  /-- Since the cache was cleared last, at most one handle was opened for a place. -/
  single : ∀ place, (openedSince place s.log).length ≤ 1
  /-- The handles in the cache are those that were opened for just their place since then. -/
  cached : ∀ place slot,
    s.shared.cache.find? place = some slot ↔ slot ∈ openedSince place s.log
  /-- A read reads on its own bus, and it reads the slot that the cache had for its place when
  the read let go of it. -/
  reads : ∀ n bus slot result, .called n (.read bus slot result) ∈ s.log →
    bus = (places n).bus ∧ .left n (some slot) ∈ s.log
  /-- A read that goes on while the cache is free asks for a slot if none was opened at its place
  since the cache was cleared last, and only then. -/
  asks : ∀ n, s.reading n = some .queued → s.shared.locked = false →
    ((s.act b d places (.advance n)).reading n = some .opening ↔
      openedSince (places n) s.log = [])
  /-- A read that ends without its slot leaves the cache as it was, with no handle for its
  place, and the next read there asks again. -/
  retried : ∀ n a, Misses b d places s n a →
    (s.act b d places a).shared.cache = s.shared.cache ∧
      s.shared.cache.find? (places n) = none ∧
      ∀ m, places m = places n → s.reading m = some .queued →
        ((s.act b d places a).act b d places (.advance m)).reading m = some .opening
  /-- A read at one place changes no entry of another, whether it goes on or is given up. -/
  apart : ∀ n place, place ≠ places n →
    (s.act b d places (.advance n)).shared.cache.find? place = s.shared.cache.find? place ∧
      (s.act b d places (.drop n)).shared.cache.find? place = s.shared.cache.find? place

/-- **The slots of a device are safe under every schedule** of its reads and resets, with any
backend. -/
theorem slots_safe_after (b : SlotBackend σ) (d : Device) (places : Nat → Place) (backend : σ)
    (schedule : List (Act σ)) :
    Safe b d places ((start backend).after b d places schedule) := by
  have h := consistent_after b d places backend schedule
  generalize (start backend).after b d places schedule = s at h
  refine { single := ?_, cached := ?_, reads := h.called, asks := ?_, retried := ?_,
           apart := fun n place hne => find?_act_of_ne hne }
  · intro place
    rw [h.opened place]
    cases s.shared.cache.find? place <;> simp
  · intro place slot
    simp [h.opened place]
  · intro n hr hfree
    rw [advance_eq_opening_iff hr hfree, h.opened (places n)]
    cases s.shared.cache.find? (places n) <;> simp
  · intro n a hmiss
    have hnew := h.asking n hmiss.1
    obtain ⟨hcache, hfree⟩ := hmiss.shared
    refine ⟨hcache, hnew, fun m hplace hm => ?_⟩
    have hmn : m ≠ n := by
      rintro rfl
      simp [hmiss.1] at hm
    exact (advance_eq_opening_iff (by rw [hmiss.reading hmn, hm]) hfree).mpr
      (by rw [hcache, hplace, hnew])

/-- Three first reads at a place: the first is given up while it waits for its slot, the second
asks again, and the third finds what the second got. -/
example (d : Device) (place : Place) :
    let b : SlotBackend Nat :=
      { note := fun _ s => s, openSlot := fun _ s => (.ok s, s + 1)
        readSlot := fun _ _ s => (.ok 0, s) }
    ((start 7).after b d (fun _ => place)
      [.advance 0, .advance 1, .drop 0, .advance 1, .advance 2, .advance 1, .advance 2]).log =
      [.left 2 (some 7), .left 1 (some 7),
        .called 1 (.opened (d.slotRequest place) (.ok 7))] := by
  cbv

end Readers

end LabControl.Device
