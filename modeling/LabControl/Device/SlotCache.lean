/-
# The slots of a device

A device asks for a slot when it is first read at a place and keeps the handle.  The reads of a
device go through a fixed course: look into the cache, ask for a slot if there is none, read the
slot.  The cache is held from the look until the slot is there, so that of several first reads
at one place a single one asks.
-/
import LabControl.Error
import LabControl.Device.Descriptor

namespace LabControl.Device

/-! ## 1. The cache -/

/-- The handles that were obtained, each under its place. -/
structure SlotCache where
  entries : List (Place × Nat) := []
  deriving DecidableEq, Repr

namespace SlotCache

/-- The handle kept for a place. -/
def find? (c : SlotCache) (place : Place) : Option Nat := c.entries.lookup place

/-- Keep a handle for a place. -/
def insert (c : SlotCache) (place : Place) (slot : Nat) : SlotCache :=
  { entries := (place, slot) :: c.entries.filter (·.1 != place) }

end SlotCache

/-! ## 2. The course of a read -/

/-- What a device needs of the backend of its slots: open a slot, and read one.  Both may change
the backend. -/
structure SlotBackend (σ : Type) where
  /-- The backend has seen a request for a slot. -/
  note : SlotRequest → σ → σ
  /-- Open the slot that was asked for. -/
  openSlot : SlotRequest → σ → Except ControlError Nat × σ
  /-- The current value of a slot. -/
  readSlot : (bus slot : Nat) → σ → Except ControlError Float × σ

/-- How far a read has come. -/
inductive Reading where
  /-- It waits for the cache. -/
  | queued
  /-- It holds the cache and waits for its slot. -/
  | opening
  /-- It has its slot and no longer holds the cache. -/
  | holding (slot : Nat)
  /-- It is over. -/
  | finished (result : Except ControlError Float)

/-- What the reads of one device share: the cache, whether one of them holds it, and the
backend. -/
structure Shared (σ : Type) where
  cache : SlotCache
  locked : Bool := false
  backend : σ

/-- Forget every handle, unless a read holds the cache. -/
def Shared.forget? {σ : Type} (s : Shared σ) : Option (Shared σ) :=
  if s.locked then none else some { s with cache := {} }

namespace Reading

variable {σ : Type}

/-- One step of a read. -/
def step (b : SlotBackend σ) (request : SlotRequest) : Reading → Shared σ → Reading × Shared σ
  | queued, s =>
    if s.locked then (queued, s) else
    match s.cache.find? request.place with
    | some slot => (holding slot, s)
    | none => (opening, { s with locked := true, backend := b.note request s.backend })
  | opening, s =>
    match b.openSlot request s.backend with
    | (.ok slot, backend) =>
      (holding slot, { cache := s.cache.insert request.place slot, locked := false, backend })
    | (.error error, backend) => (finished (.error error), { s with locked := false, backend })
  | holding slot, s =>
    let (result, backend) := b.readSlot request.place.bus slot s.backend
    (finished result, { s with backend })
  | finished result, s => (finished result, s)

/-- Let a read go on until it is over, has just asked for a slot, or waits for the cache. -/
def poll (b : SlotBackend σ) (request : SlotRequest) (r : Reading) (s : Shared σ) :
    Reading × Shared σ :=
  match step b request r s with
  | (holding slot, s) => step b request (holding slot) s
  | other => other

/-- A read by itself: at most one pause, for its slot. -/
def alone (b : SlotBackend σ) (request : SlotRequest) (s : Shared σ) : Reading × Shared σ :=
  let (r, s) := poll b request queued s
  poll b request r s

/-- Give a read up.  One that holds the cache lets go of it, and keeps no handle. -/
def abandon : Reading → Shared σ → Shared σ
  | opening, s => { s with locked := false }
  | _, s => s

/-- Let two reads go on in turn, the first one first, for a number of rounds. -/
def inTurn (b : SlotBackend σ) (first second : SlotRequest) :
    Nat → Reading → Reading → Shared σ → Reading × Reading × Shared σ
  | 0, r, r', s => (r, r', s)
  | rounds + 1, r, r', s =>
    let (r, s) := poll b first r s
    let (r', s) := poll b second r' s
    inTurn b first second rounds r r' s

/-- Two reads begun together.  Each pauses at most once for its slot and waits at most once for
the cache, so three rounds see both to their end. -/
def together (b : SlotBackend σ) (first second : SlotRequest) (s : Shared σ) :
    Reading × Reading × Shared σ :=
  inTurn b first second 3 queued queued s

/-- The result of a read that is over. -/
def result? : Reading → Option (Except ControlError Float)
  | finished result => some result
  | _ => none

end Reading

end LabControl.Device
