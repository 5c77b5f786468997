/-
# The ramps of a history

The writes to the step channel come in ramps: one before each pair, and one in the cleanup.  A
history shows which writes belong together, since each ramp stands under a published state of its
own, and that state tells where the ramp is to end.

`ramps` reads them off a history.  Only the ramps of the engine write: neither a pair nor the
return to zero does.
-/
import LabControl.Proofs.Sweep.Restore

namespace LabControl

variable {ν : Type}

/-! ## 1. Ramps of a history -/

/-- The value that a request writes to a channel. -/
def written? (output : Nat) : Link × Request ν → Option ν
  | (_, .instruct (.setDac channel value)) => if channel = output then some value else none
  | _ => none

/-- The writes to a channel that were sent, in order, also those whose link failed. -/
def History.writes (output : Nat) (t : History ν) : List ν := t.sent.filterMap (written? output)

/-- A ramp: its ends, and what was written of it. -/
structure Ramp (ν : Type) where
  start : ν
  finish : ν
  written : List ν
  deriving DecidableEq, Repr

namespace Sweep

/-- Where the ramp under a state ends, for a step channel that is ramped back to its home. -/
def rampEnd (home : ν) : State ν → Option ν
  | .stepping _ _ target => some target
  | .restore => some home
  | _ => none

/-- What is written before the next state is published. -/
def writesAhead (output : Nat) (t : History ν) : List ν :=
  History.writes output (t.takeWhile fun o => o.state?.isNone)

/-- **The ramps of a history**: under each state that has one, the writes until the next state.  A
ramp begins at the first of them. -/
def ramps (output : Nat) (home : ν) : History ν → List (Ramp ν)
  | [] => []
  | o :: rest =>
    match o.state?.bind (rampEnd home), writesAhead output rest with
    | some finish, first :: later => ⟨first, finish, first :: later⟩ :: ramps output home rest
    | _, _ => ramps output home rest

variable {output : Nat} {home : ν} {t u : History ν}

@[simp] theorem writes_nil : History.writes output ([] : History ν) = [] := rfl

@[simp] theorem writes_append :
    History.writes output (t ++ u) = History.writes output t ++ History.writes output u := by
  simp [History.writes]

theorem writes_cons (o : Occurrence ν) :
    History.writes output (o :: t) =
      (o.sent?.bind (written? output)).toList ++ History.writes output t := by
  rw [History.writes, History.sent_cons, List.filterMap_append]
  rcases o.sent? with _ | request
  · rfl
  · cases hw : written? output request <;> simp [hw, History.writes]

/-- Where no state with a ramp is published, no ramp begins. -/
theorem ramps_append_of_idle (hu : ∀ state ∈ u.states, rampEnd home state = none) :
    ramps output home (u ++ t) = ramps output home t := by
  induction u with
  | nil => rfl
  | cons o u ih =>
    rw [History.states_cons] at hu
    have hnone : o.state?.bind (rampEnd home) = none := by
      rcases hs : o.state? with _ | state
      · rfl
      · exact hu state (by simp [hs])
    rw [List.cons_append, ramps, hnone]
    exact ih fun state hstate => hu state (List.mem_append_right _ hstate)

/-- The history is over, or begins with a published state. -/
def Announced (t : History ν) : Prop := ∀ o ∈ t.head?, o.state?.isSome = true

theorem writesAhead_of_announced (hu : u.states = []) (ht : Announced t) :
    writesAhead output (u ++ t) = History.writes output u := by
  have hsilent : ∀ o ∈ u, o.state?.isNone = true := by
    intro o ho
    rcases hs : o.state? with _ | state
    · rfl
    · have : state ∈ u.states := List.mem_filterMap.mpr ⟨o, ho, hs⟩
      rw [hu] at this
      cases this
  rw [writesAhead, List.takeWhile_append_of_pos hsilent]
  rcases t with _ | ⟨o, t⟩
  · simp
  · have hsome : o.state?.isSome = true := ht o rfl
    rw [List.takeWhile_cons_of_neg (by simpa using Option.isSome_iff_ne_none.mp hsome),
      List.append_nil]

/-- A published state with its ramp. -/
theorem ramps_published {state : State ν} {first finish : ν} {later : List ν}
    (hend : rampEnd home state = some finish) (hu : u.states = [])
    (hwrites : History.writes output u = first :: later) (ht : Announced t) :
    ramps output home (.published state :: (u ++ t)) =
      ⟨first, finish, first :: later⟩ :: ramps output home t := by
  have hahead : writesAhead output (u ++ t) = first :: later := by
    rw [writesAhead_of_announced hu ht, hwrites]
  have hrest : ramps output home (u ++ t) = ramps output home t :=
    ramps_append_of_idle (by simp [hu])
  simp only [ramps, Occurrence.state?, Option.bind_some, hend, hahead, hrest]

/-! ## 2. Where ramps come from -/

variable [Quantity ν] {token : Token} {channel : Nat} {s : Script ν} {held held' : Option ν}

theorem Sweeps.writes_eq_nil {direction : Direction} {event : Event}
    {r : Except ControlError Bool} (h : Sweeps direction channel event token t r) :
    History.writes output t = [] := by
  cases h with
  | lost fault => cases direction <;> rfl
  | rejected h => cases direction <;> rfl
  | awaited h d => cases direction <;> rfl
  | stopped h hwait d => rcases hwait with rfl | rfl <;> cases direction <;> rfl

/-- A script without writes sends none. -/
theorem Follows.writes_eq_nil {r : Except ControlError Unit}
    (h : Follows token channel s held t held' r)
    (hs : ∀ value, .order (.setDac output value) ∉ s) : History.writes output t = [] := by
  have hone {i : Instruction ν} {rest : Script ν} {d : Delivery}
      (hi : ∀ value, .order (.setDac output value) ∉ .order i :: rest) :
      (Occurrence.sent? (.ordered i d)).bind (written? output) = none := by
    cases i <;> try rfl
    next c value =>
      refine if_neg ?_
      rintro rfl
      exact hi value List.mem_cons_self
  induction h with
  | done held => rfl
  | announce h ih => exact ih fun value hmem => hs value (List.mem_cons_of_mem _ hmem)
  | arrive h ih => exact ih fun value hmem => hs value (List.mem_cons_of_mem _ hmem)
  | answered h ih =>
    rw [writes_cons, hone hs]
    exact ih fun value hmem => hs value (List.mem_cons_of_mem _ hmem)
  | lost fault =>
    rw [writes_cons, hone hs]
    rfl
  | swept hsweeps h ih =>
    rw [writes_append, hsweeps.writes_eq_nil]
    exact ih fun value hmem => hs value (List.mem_cons_of_mem _ hmem)
  | broken hsweeps => exact hsweeps.writes_eq_nil

/-- A script without states publishes none. -/
theorem Follows.states_eq_nil {r : Except ControlError Unit}
    (h : Follows token channel s held t held' r) (hs : ∀ state, .announce state ∉ s) :
    t.states = [] :=
  List.eq_nil_iff_forall_not_mem.mpr fun state hstate => hs state (h.announce_mem hstate)

/-- Orders leave the step channel as it is held, and publish nothing. -/
theorem follows_orders {is : List (Instruction ν)} {r : Except ControlError Unit}
    (h : Follows token channel (orders is) held t held' r) :
    held' = held ∧ t.states = [] :=
  ⟨h.held_eq_of_no_arrival (by simp [orders]), h.states_eq_nil (by simp [orders])⟩

/-- **Writing a list of values** gets as far as the first fault, whose write was sent too. -/
theorem follows_writes {values : List ν} {r : Except ControlError Unit}
    (h : Follows token channel (orders (values.map (.setDac output))) held t held' r) :
    ∃ m, m ≤ values.length ∧ History.writes output t = values.take m ∧
      (r = .ok () → m = values.length) ∧ ∀ error, r = .error error → 1 ≤ m := by
  induction values generalizing t with
  | nil =>
    cases h with
    | done held => exact ⟨0, Nat.le_refl 0, rfl, fun _ => rfl, fun error he => by cases he⟩
  | cons value values ih =>
    cases h with
    | answered h =>
      obtain ⟨m, hm, hwrites, hok, herror⟩ := ih h
      refine ⟨m + 1, Nat.succ_le_succ hm, ?_, fun hr => congrArg (· + 1) (hok hr),
        fun _ _ => Nat.succ_pos m⟩
      rw [writes_cons, hwrites, List.take_succ_cons]
      simp [Occurrence.sent?, written?]
    | lost fault =>
      refine ⟨1, Nat.succ_le_succ (Nat.zero_le _), ?_, fun hr => (by cases hr),
        fun _ _ => Nat.le_refl 1⟩
      simp [writes_cons, Occurrence.sent?, written?]

/-- A return to zero neither writes nor publishes. -/
theorem ReturnsToZero.silent {tool : String} {r : Except ControlError Bool}
    (h : ReturnsToZero tool channel token t r) :
    History.writes output t = [] ∧ t.states = [] := by
  cases h with
  | unread fault => exact ⟨rfl, rfl⟩
  | unneeded h => exact ⟨rfl, rfl⟩
  | unforced h hu =>
    have hwrites : History.writes output _ = [] :=
      hu.writes_eq_nil (by simp [orders, forcing, idQueries])
    exact ⟨hwrites, (follows_orders hu).2⟩
  | bracketed h hflag former forced hswept d =>
    refine ⟨?_, ?_⟩
    · rw [writes_append, writes_append, hswept.writes_eq_nil]
      rfl
    · rw [History.states_append, History.states_append, hswept.states_eq_nil]
      rfl

end Sweep

end LabControl
