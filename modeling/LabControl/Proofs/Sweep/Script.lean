/-
# Scripts

What the engine does between its check and its cleanup is planned before it begins, but for the
waits, which depend on the replies.  A *script* is that plan as a list of steps: publish a state,
give an instruction whatever its reply, sweep and wait, note that the step channel has arrived at
a value.  `Follows` says which histories follow a script and how they end: with the script, with the
first fault, or with the stop that answers a cancelled wait.
-/
import LabControl.Sweep.Engine
import LabControl.Proofs.Action

namespace LabControl.Sweep

open LabControl.Action (Runs)

variable {ν : Type} [Quantity ν]

/-! ## 1. A sweep and its wait -/

/-- **What a sweep can meet that is waited for when the backend acknowledges it**, and how it
ends.  A wait that is cancelled is answered by a stop. -/
inductive Sweeps (direction : Direction) (channel : Nat) (event : Event) (token : Token) :
    History ν → Except ControlError Bool → Prop where
  /-- The link failed on the sweep command. -/
  | lost (fault : Fault) :
    Sweeps direction channel event token [.ordered (.startSweep direction channel) (.error fault)]
      (.error fault.val)
  /-- The sweep was rejected, and is not waited for. -/
  | rejected {reply : Reply}
      (h : reply.acknowledges (Instruction.startSweep direction channel : Instruction ν).command =
        false) :
    Sweeps direction channel event token [.ordered (.startSweep direction channel) (.ok reply)]
      (.ok false)
  /-- The wait was answered, or the link failed while it was pending. -/
  | awaited {reply : Reply}
      (h : reply.acknowledges (Instruction.startSweep direction channel : Instruction ν).command =
        true) (d : Delivery) :
    Sweeps direction channel event token
      [.ordered (.startSweep direction channel) (.ok reply),
        .awaited token (.catchSweep event channel) d]
      ((told d).map fun answer =>
        answer.acknowledges (Instruction.catchSweep event channel : Instruction ν).command)
  /-- The wait was cancelled, before it was sent or while it was pending, and the sweep was told
  to stop. -/
  | stopped {reply : Reply}
      (h : reply.acknowledges (Instruction.startSweep direction channel : Instruction ν).command =
        true) {wait : Occurrence ν} (hwait : wait.Cancels token (.catchSweep event channel))
      (d : Delivery) :
    Sweeps direction channel event token
      [.ordered (.startSweep direction channel) (.ok reply), wait,
        .ordered (.sweepStop channel) d]
      ((told d).bind fun _ =>
        .error (.cancelled (Instruction.catchSweep event channel : Instruction ν).name))

/-- A wait of the engine is answered, or its link fails, or it is cancelled and answered by a
stop. -/
theorem runs_awaitEvent {event : Event} {channel : Nat} {token : Token} {t : History ν}
    {r : Except ControlError Bool} (h : Runs (awaitEvent event channel token) t r) :
    (∃ d, t = [.awaited token (.catchSweep event channel) d] ∧
      r = (told d).map fun answer =>
        answer.acknowledges (Instruction.catchSweep event channel : Instruction ν).command) ∨
    ∃ (wait : Occurrence ν) (d : Delivery), wait.Cancels token (.catchSweep event channel) ∧
      t = [wait, .ordered (.sweepStop channel) d] ∧
      r = (told d).bind fun _ =>
        .error (.cancelled (Instruction.catchSweep event channel : Instruction ν).name) := by
  obtain ⟨_, t₁, t₂, hw, h, rfl⟩ := Action.runs_attempt_bind.mp h
  rcases Client.runs_wait.mp hw with ⟨fault | reply, rfl, rfl⟩ | ⟨wait, hwait, rfl, rfl⟩
  · refine .inl ⟨.error fault, ?_⟩
    -- a fault is no cancellation, so the wait ends with it
    split at h
    · next he => exact absurd he (told_ne_cancelled (.error fault) _)
    · next he =>
      obtain ⟨rfl, rfl⟩ := Action.runs_throw.mp h
      cases he
      exact ⟨rfl, rfl⟩
    · next he => cases he
  · obtain ⟨rfl, rfl⟩ := Action.runs_pure.mp h
    exact .inl ⟨.ok reply, rfl, rfl⟩
  · refine .inr ?_
    rcases Action.runs_bind.mp h with ⟨e, hs, rfl⟩ | ⟨_, u, v, hs, hthrow, rfl⟩
    · obtain ⟨d, rfl, hd⟩ := Client.runs_check.mp hs
      rcases d with fault | reply
      · cases hd
        exact ⟨wait, .error fault, hwait, rfl, rfl⟩
      · cases hd
    · obtain ⟨d, rfl, hd⟩ := Client.runs_check.mp hs
      obtain ⟨rfl, rfl⟩ := Action.runs_throw.mp hthrow
      rcases d with fault | reply
      · cases hd
      · exact ⟨wait, .ok reply, hwait, rfl, rfl⟩

/-- Start a sweep, and wait for an event of it if the backend acknowledged it. -/
def sweepAndWait (direction : Direction) (channel : Nat) (event : Event) (token : Token) :
    Action ν Bool := do
  if ← Client.check .remote (.startSweep direction channel) then
    awaitEvent event channel token
  else
    pure false

/-- The two sweeps of the engine, a leg and the sweep toward zero, differ only in their event and
their token. -/
theorem zeroSweep_eq (channel : Nat) (direction : Direction) (token : Token) :
    (zeroSweep channel direction token : Action ν Bool) =
      sweepAndWait direction channel .zeroStop token := rfl

/-- A leg is a sweep under a published state, waited for until its hold time is over. -/
theorem leg_eq (e : Engine) (channel : Nat) (direction : Direction) (index : Nat) :
    (Engine.leg e channel direction index : Action ν Unit) =
      (do
        Action.publish (.ofLeg direction index)
        let _ ← sweepAndWait direction channel direction.posthold e.token
        pure ()) := by
  simp only [Engine.leg, sweepAndWait, bind_assoc]
  congr 1
  funext _
  congr 1
  funext acknowledged
  cases acknowledged <;> simp

theorem runs_sweepAndWait {direction : Direction} {channel : Nat} {event : Event} {token : Token}
    {t : History ν} {r : Except ControlError Bool}
    (h : Runs (sweepAndWait direction channel event token) t r) :
    Sweeps direction channel event token t r := by
  rw [sweepAndWait, Action.runs_bind] at h
  rcases h with ⟨e, h, rfl⟩ | ⟨acknowledged, t₁, t₂, hc, h, rfl⟩
  · obtain ⟨fault | reply, rfl, hd⟩ := Client.runs_check.mp h
    · cases hd
      exact .lost fault
    · cases hd
  · obtain ⟨fault | reply, rfl, hd⟩ := Client.runs_check.mp hc
    · cases hd
    · cases hd
      split at h
      · next hack =>
        rcases runs_awaitEvent h with ⟨d, rfl, rfl⟩ | ⟨wait, d, hwait, rfl, rfl⟩
        · exact .awaited hack d
        · exact .stopped hack hwait d
      · next hack =>
        obtain ⟨rfl, rfl⟩ := Action.runs_pure.mp h
        exact .rejected (by simpa using hack)

/-- A sweep that is waited for exchanges no other instructions than its start and its stop. -/
theorem Sweeps.eq_of_ordered {direction : Direction} {channel : Nat} {event : Event} {token : Token}
    {t : History ν} {r : Except ControlError Bool} (h : Sweeps direction channel event token t r)
    {i : Instruction ν} {d : Delivery} (hmem : .ordered i d ∈ t) :
    i = .startSweep direction channel ∨ i = .sweepStop channel := by
  cases h with
  | lost fault =>
    cases List.mem_singleton.mp hmem
    exact .inl rfl
  | rejected h =>
    cases List.mem_singleton.mp hmem
    exact .inl rfl
  | awaited h d' =>
    rcases List.mem_cons.mp hmem with heq | hmem
    · cases heq
      exact .inl rfl
    · cases List.mem_singleton.mp hmem
  | stopped h hwait d' =>
    rcases List.mem_cons.mp hmem with heq | hmem
    · cases heq
      exact .inl rfl
    rcases List.mem_cons.mp hmem with heq | hmem
    · rcases hwait with rfl | rfl <;> cases heq
    · cases List.mem_singleton.mp hmem
      exact .inr rfl

/-! ## 2. Scripts and the histories that follow them -/

/-- One step of a script. -/
inductive Step (ν : Type) where
  /-- Publish a state. -/
  | announce (state : State ν)
  /-- Give an instruction, and go on whatever the reply is. -/
  | order (instruction : Instruction ν)
  /-- Sweep in a direction, and wait for an event of it if the sweep was acknowledged. -/
  | sweep (direction : Direction) (event : Event)
  /-- The step channel has arrived at a value. -/
  | arrive (value : ν)

/-- What is planned, in order. -/
abbrev Script (ν : Type) : Type := List (Step ν)

/-- Instructions to be given one after the other. -/
def orders (is : List (Instruction ν)) : Script ν := is.map .order

/-- **The history follows the script**, on a swept channel and a token: from a value that the step
channel holds at first to the one it holds at the end, and to a result. -/
inductive Follows (token : Token) (channel : Nat) :
    Script ν → Option ν → History ν → Option ν → Except ControlError Unit → Prop where
  | done (held : Option ν) : Follows token channel [] held [] held (.ok ())
  | announce {state : State ν} {rest : Script ν} {held held' : Option ν} {t : History ν}
      {r : Except ControlError Unit} (h : Follows token channel rest held t held' r) :
    Follows token channel (.announce state :: rest) held (.published state :: t) held' r
  | arrive {value : ν} {rest : Script ν} {held held' : Option ν} {t : History ν}
      {r : Except ControlError Unit} (h : Follows token channel rest (some value) t held' r) :
    Follows token channel (.arrive value :: rest) held t held' r
  | answered {i : Instruction ν} {reply : Reply} {rest : Script ν} {held held' : Option ν}
      {t : History ν} {r : Except ControlError Unit}
      (h : Follows token channel rest held t held' r) :
    Follows token channel (.order i :: rest) held (.ordered i (.ok reply) :: t) held' r
  | lost {i : Instruction ν} {rest : Script ν} {held : Option ν} (fault : Fault) :
    Follows token channel (.order i :: rest) held [.ordered i (.error fault)] held
      (.error fault.val)
  | swept {direction : Direction} {event : Event} {rest : Script ν} {held held' : Option ν}
      {s t : History ν} {caught : Bool} {r : Except ControlError Unit}
      (hs : Sweeps direction channel event token s (.ok caught))
      (h : Follows token channel rest held t held' r) :
    Follows token channel (.sweep direction event :: rest) held (s ++ t) held' r
  | broken {direction : Direction} {event : Event} {rest : Script ν} {held : Option ν}
      {s : History ν} {e : ControlError} (hs : Sweeps direction channel event token s (.error e)) :
    Follows token channel (.sweep direction event :: rest) held s held (.error e)

namespace Follows

variable {token : Token} {channel : Nat} {s s' : Script ν} {held held' held'' : Option ν}
  {t t' : History ν} {r : Except ControlError Unit} {e : ControlError}

/-- One script after another: the second begins where the first ended. -/
theorem append (h : Follows token channel s held t held' (.ok ()))
    (h' : Follows token channel s' held' t' held'' r) :
    Follows token channel (s ++ s') held (t ++ t') held'' r := by
  generalize hr : (Except.ok () : Except ControlError Unit) = r' at h
  induction h with
  | done held => exact h'
  | announce h ih => exact .announce (ih h' hr)
  | arrive h ih => exact .arrive (ih h' hr)
  | answered h ih => exact .answered (ih h' hr)
  | lost fault => cases hr
  | swept hs h ih =>
    rw [List.append_assoc]
    exact .swept hs (ih h' hr)
  | broken hs => cases hr

/-- A script that breaks off does so whatever was to follow. -/
theorem append_error (h : Follows token channel s held t held' (.error e)) :
    Follows token channel (s ++ s') held t held' (.error e) := by
  generalize hr : (Except.error e : Except ControlError Unit) = r' at h
  induction h with
  | done held => cases hr
  | announce h ih => exact .announce (ih hr)
  | arrive h ih => exact .arrive (ih hr)
  | answered h ih => exact .answered (ih hr)
  | lost fault =>
    cases hr
    exact .lost fault
  | swept hs h ih => exact .swept hs (ih hr)
  | broken hs =>
    cases hr
    exact .broken hs

/-- A script in two parts breaks off in the first, or is done with it and goes on with the
second. -/
theorem split (h : Follows token channel (s ++ s') held t held' r) :
    (∃ error, r = .error error ∧ Follows token channel s held t held' (.error error)) ∨
      ∃ mid t₁ t₂, Follows token channel s held t₁ mid (.ok ()) ∧
        Follows token channel s' mid t₂ held' r ∧ t = t₁ ++ t₂ := by
  induction s generalizing held t with
  | nil => exact .inr ⟨held, [], t, .done held, h, rfl⟩
  | cons step rest ih =>
    cases h with
    | announce h =>
      rcases ih h with ⟨error, rfl, hf⟩ | ⟨mid, t₁, t₂, hf, hf', rfl⟩
      · exact .inl ⟨error, rfl, .announce hf⟩
      · exact .inr ⟨mid, _, t₂, .announce hf, hf', rfl⟩
    | arrive h =>
      rcases ih h with ⟨error, rfl, hf⟩ | ⟨mid, t₁, t₂, hf, hf', rfl⟩
      · exact .inl ⟨error, rfl, .arrive hf⟩
      · exact .inr ⟨mid, _, t₂, .arrive hf, hf', rfl⟩
    | answered h =>
      rcases ih h with ⟨error, rfl, hf⟩ | ⟨mid, t₁, t₂, hf, hf', rfl⟩
      · exact .inl ⟨error, rfl, .answered hf⟩
      · exact .inr ⟨mid, _, t₂, .answered hf, hf', rfl⟩
    | lost fault => exact .inl ⟨_, rfl, .lost fault⟩
    | swept hs h =>
      rcases ih h with ⟨error, rfl, hf⟩ | ⟨mid, t₁, t₂, hf, hf', rfl⟩
      · exact .inl ⟨error, rfl, .swept hs hf⟩
      · exact .inr ⟨mid, _, t₂, .swept hs hf, hf', (List.append_assoc _ _ _).symm⟩
    | broken hs => exact .inl ⟨_, rfl, .broken hs⟩

end Follows

/-- A sweep and its wait publish nothing. -/
theorem Sweeps.states_eq_nil {direction : Direction} {channel : Nat} {event : Event} {token : Token}
    {t : History ν} {r : Except ControlError Bool} (h : Sweeps direction channel event token t r) :
    t.states = [] := by
  cases h with
  | lost fault => rfl
  | rejected h => rfl
  | awaited h d => rfl
  | stopped h hwait d =>
    rcases hwait with rfl | rfl
    · rfl
    · rfl

/-- Only the states of the script are published. -/
theorem Follows.announce_mem {token : Token} {channel : Nat} {s : Script ν}
    {held held' : Option ν} {t : History ν} {r : Except ControlError Unit}
    (h : Follows token channel s held t held' r) {state : State ν} (hstate : state ∈ t.states) :
    .announce state ∈ s := by
  induction h with
  | done held => cases hstate
  | @announce state' rest held held' t r h ih =>
    rw [History.states_cons] at hstate
    rcases List.mem_cons.mp hstate with rfl | hstate
    · exact List.mem_cons_self
    · exact List.mem_cons_of_mem _ (ih hstate)
  | arrive h ih => exact List.mem_cons_of_mem _ (ih hstate)
  | answered h ih => exact List.mem_cons_of_mem _ (ih hstate)
  | lost fault => cases hstate
  | swept hs h ih =>
    rw [History.states_append, hs.states_eq_nil] at hstate
    exact List.mem_cons_of_mem _ (ih hstate)
  | broken hs =>
    rw [hs.states_eq_nil] at hstate
    cases hstate

/-! ## 3. Where a script leads the step channel -/

/-- The value that the step channel holds after a script that is done to its end. -/
def Script.arrival : Script ν → Option ν → Option ν
  | [], held => held
  | .arrive value :: rest, _ => arrival rest (some value)
  | .announce _ :: rest, held | .order _ :: rest, held | .sweep .. :: rest, held =>
    arrival rest held

omit [Quantity ν] in
@[simp] theorem Script.arrival_append (s s' : Script ν) (held : Option ν) :
    Script.arrival (s ++ s') held = s'.arrival (s.arrival held) := by
  induction s generalizing held with
  | nil => rfl
  | cons step rest ih => cases step <;> exact ih _

omit [Quantity ν] in
@[simp] theorem Script.arrival_orders (is : List (Instruction ν)) (held : Option ν) :
    Script.arrival (orders is) held = held := by
  induction is with
  | nil => rfl
  | cons i is ih => exact ih

/-- A script that is done to its end leads where it is said to. -/
theorem Follows.held_eq {token : Token} {channel : Nat} {s : Script ν} {held held' : Option ν}
    {t : History ν} (h : Follows token channel s held t held' (.ok ())) :
    held' = s.arrival held := by
  generalize hr : (Except.ok () : Except ControlError Unit) = r at h
  induction h with
  | done held => rfl
  | announce h ih => exact ih hr
  | arrive h ih => exact ih hr
  | answered h ih => exact ih hr
  | lost fault => cases hr
  | swept hs h ih => exact ih hr
  | broken hs => cases hr

/-- A step channel that holds a value never stops holding one. -/
theorem Follows.isSome_held {token : Token} {channel : Nat} {s : Script ν}
    {held held' : Option ν} {t : History ν} {r : Except ControlError Unit}
    (h : Follows token channel s held t held' r) (hheld : held.isSome = true) :
    held'.isSome = true := by
  induction h with
  | done held => exact hheld
  | announce h ih => exact ih hheld
  | arrive h ih => exact ih rfl
  | answered h ih => exact ih hheld
  | lost fault => exact hheld
  | swept hs h ih => exact ih hheld
  | broken hs => exact hheld

/-- A script that leads the step channel nowhere leaves it as it is held, also when it breaks
off. -/
theorem Follows.held_eq_of_no_arrival {token : Token} {channel : Nat} {s : Script ν}
    {held held' : Option ν} {t : History ν} {r : Except ControlError Unit}
    (h : Follows token channel s held t held' r) (hs : ∀ value, .arrive value ∉ s) :
    held' = held := by
  induction h with
  | done held => rfl
  | announce h ih => exact ih fun value hmem => hs value (List.mem_cons_of_mem _ hmem)
  | @arrive value rest held held' t r h ih => exact absurd List.mem_cons_self (hs value)
  | answered h ih => exact ih fun value hmem => hs value (List.mem_cons_of_mem _ hmem)
  | lost fault => rfl
  | swept hsweeps h ih => exact ih fun value hmem => hs value (List.mem_cons_of_mem _ hmem)
  | broken hsweeps => rfl

end LabControl.Sweep
