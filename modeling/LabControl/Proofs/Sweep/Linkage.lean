/-
# The runs of a linked sweep

A linked sweep makes a fixed list of moves, instructions whose replies it does not look at and short
sleeps, and then waits for the zero stop of its first channel.  It breaks off at the first fault;
whatever becomes of it, the end of the recording is the last thing that is ordered.

`LinksSweeps` are the histories of the moves and the wait, `RecordsLinkage` those of the whole
routine, and `runs_sweepLinkage` shows that there are no others.
-/
import LabControl.Sweep.Routines
import LabControl.Proofs.Sweep.Script

namespace LabControl.Sweep

open LabControl.Action (Runs)

variable {ν : Type} [Quantity ν]

/-! ## 1. Moves -/

/-- A move of a linked sweep. -/
inductive Move (ν : Type) where
  /-- Give an instruction, and go on whatever the reply is. -/
  | order (instruction : Instruction ν)
  /-- Sleep for a while. -/
  | rest (seconds : ν)

/-- Make moves one after the other. -/
def makeMoves : List (Move ν) → Action ν Unit
  | [] => pure ()
  | .order i :: later => do
    let _ ← Client.ask .remote i
    makeMoves later
  | .rest seconds :: later => do
    let _ ← Action.sleep .remote seconds
    makeMoves later

/-- **The history makes these moves**, up to the first fault. -/
inductive Makes : List (Move ν) → History ν → Except ControlError Unit → Prop where
  | done : Makes [] [] (.ok ())
  | answered {i : Instruction ν} {reply : Reply} {later : List (Move ν)} {t : History ν}
      {r : Except ControlError Unit} (h : Makes later t r) :
    Makes (.order i :: later) (.ordered i (.ok reply) :: t) r
  | lost {i : Instruction ν} {later : List (Move ν)} (fault : Fault) :
    Makes (.order i :: later) [.ordered i (.error fault)] (.error fault.val)
  | rested {seconds : ν} {slept : Bool} {later : List (Move ν)} {t : History ν}
      {r : Except ControlError Unit} (h : Makes later t r) :
    Makes (.rest seconds :: later) (.slept .remote seconds (.ok slept) :: t) r
  | woken {seconds : ν} {later : List (Move ν)} (fault : Fault) :
    Makes (.rest seconds :: later) [.slept .remote seconds (.error fault)] (.error fault.val)

/-- **Moves that are made have such a history.** -/
theorem runs_makeMoves {moves : List (Move ν)} {t : History ν} {r : Except ControlError Unit}
    (h : Runs (makeMoves moves) t r) : Makes moves t r := by
  induction moves generalizing t with
  | nil =>
    obtain ⟨rfl, rfl⟩ := Action.runs_pure.mp h
    exact .done
  | cons move later ih =>
    cases move with
    | order i =>
      rcases Action.runs_bind.mp h with ⟨e, hm, rfl⟩ | ⟨_, t₁, t₂, hm, hlater, rfl⟩
      · obtain ⟨fault | reply, rfl, hd⟩ := Client.runs_ask.mp hm
        · cases hd
          exact .lost fault
        · cases hd
      · obtain ⟨fault | reply, rfl, hd⟩ := Client.runs_ask.mp hm
        · cases hd
        · exact .answered (ih hlater)
    | rest seconds =>
      rcases Action.runs_bind.mp h with ⟨e, hm, rfl⟩ | ⟨_, t₁, t₂, hm, hlater, rfl⟩
      · obtain ⟨fault | slept, rfl, hd⟩ := Action.runs_sleep.mp hm
        · cases hd
          exact .woken fault
        · cases hd
      · obtain ⟨fault | slept, rfl, hd⟩ := Action.runs_sleep.mp hm
        · cases hd
        · exact .rested (ih hlater)

omit [Quantity ν] in
/-- Moves that are made to their end are made in two parts. -/
theorem Makes.split {moves later : List (Move ν)} {t : History ν}
    (h : Makes (moves ++ later) t (.ok ())) :
    ∃ t₁ t₂, Makes moves t₁ (.ok ()) ∧ Makes later t₂ (.ok ()) ∧ t = t₁ ++ t₂ := by
  induction moves generalizing t with
  | nil => exact ⟨[], t, .done, h, rfl⟩
  | cons move moves ih =>
    cases h with
    | answered h =>
      obtain ⟨t₁, t₂, h₁, h₂, rfl⟩ := ih h
      exact ⟨_, t₂, .answered h₁, h₂, rfl⟩
    | rested h =>
      obtain ⟨t₁, t₂, h₁, h₂, rfl⟩ := ih h
      exact ⟨_, t₂, .rested h₁, h₂, rfl⟩

/-- What is made before the sweeps are started: the channels are set and linked, and recording
starts with a fresh buffer and time. -/
def preparingMoves (first second : Nat) : List (Move ν) :=
  [.order (.setDac first (Scale.count 0)),
    .order (.setDac second (Scale.count 1 / Scale.count 10)),
    .order (.linkSweeps first second), .order (.clearBuffer false false), .order .zeroTime,
    .order (.setRecording true), .rest (Scale.count 1 / Scale.count 2)]

/-- **The moves of a linked sweep**, up to its wait. -/
def linkedMoves (first second : Nat) : List (Move ν) :=
  preparingMoves first second ++
    [.order (.sweepUp first), .rest (Scale.count 1), .order (.sweepDown second)]

/-! ## 2. The routine -/

/-- A linked sweep is its moves, then the wait, and then one more sleep. -/
theorem linkedSweep_eq (e : Engine) (first second : Nat) :
    (Engine.linkedSweep e first second : Action ν Bool) = (do
      makeMoves (linkedMoves first second)
      let caught ← awaitEvent .zeroStop first e.token
      let _ ← Action.sleep .remote (Scale.count 1 / Scale.count 2)
      pure caught) := by
  simp [Engine.linkedSweep, linkedMoves, preparingMoves, makeMoves, Client.check,
    Client.clearBuffer]

/-- **What a linked sweep can meet** before the end of its recording, and how it ends. -/
inductive LinksSweeps (first second : Nat) (token : Token) :
    History ν → Except ControlError Bool → Prop where
  /-- The link failed before the wait. -/
  | broken {moves : History ν} {error : ControlError}
      (h : Makes (linkedMoves first second) moves (.error error)) :
    LinksSweeps first second token moves (.error error)
  /-- The link failed while the wait was pending. -/
  | lost {moves : History ν} (h : Makes (linkedMoves first second) moves (.ok ()))
      (fault : Fault) :
    LinksSweeps first second token
      (moves ++ [.awaited token (.catchSweep .zeroStop first) (.error fault)]) (.error fault.val)
  /-- The wait was answered. -/
  | caught {moves : History ν} (h : Makes (linkedMoves first second) moves (.ok ()))
      (answer : Reply) (slept : Except Fault Bool) :
    LinksSweeps first second token
      (moves ++ [.awaited token (.catchSweep .zeroStop first) (.ok answer),
        .slept .remote (Scale.count 1 / Scale.count 2) slept])
      ((told slept).map fun _ =>
        answer.acknowledges (Instruction.catchSweep .zeroStop first : Instruction ν).command)
  /-- The wait was cancelled, before it was sent or while it was pending, and the sweep of the first
  channel was told to stop. -/
  | stopped {moves : History ν} (h : Makes (linkedMoves first second) moves (.ok ()))
      {wait : Occurrence ν} (hwait : wait.Cancels token (.catchSweep .zeroStop first))
      (d : Delivery) :
    LinksSweeps first second token (moves ++ [wait, .ordered (.sweepStop first) d])
      ((told d).bind fun _ =>
        .error (.cancelled (Instruction.catchSweep .zeroStop first : Instruction ν).name))

theorem runs_linkedSweep {e : Engine} {first second : Nat} {t : History ν}
    {r : Except ControlError Bool} (h : Runs (Engine.linkedSweep e first second) t r) :
    LinksSweeps first second e.token t r := by
  rw [linkedSweep_eq, Action.runs_bind] at h
  rcases h with ⟨error, hm, rfl⟩ | ⟨⟨⟩, moves, t₁, hm, h₁, rfl⟩
  · exact .broken (runs_makeMoves hm)
  have hmoves := runs_makeMoves hm
  rcases Action.runs_bind.mp h₁ with ⟨error, hw, rfl⟩ | ⟨caught, t₂, t₃, hw, h₃, rfl⟩
  · rcases runs_awaitEvent hw with ⟨fault | answer, rfl, hd⟩ | ⟨wait, d, hwait, rfl, hd⟩
    · cases hd
      exact .lost hmoves fault
    · cases hd
    · rw [hd]
      exact .stopped hmoves hwait d
  · rcases runs_awaitEvent hw with ⟨fault | answer, rfl, hd⟩ | ⟨wait, fault | reply, hwait, rfl, hd⟩
    · cases hd
    · cases hd
      obtain ⟨_, hs, rfl⟩ := Action.runs_map.mp h₃
      obtain ⟨slept, rfl, rfl⟩ := Action.runs_sleep.mp hs
      exact .caught hmoves answer slept
    · cases hd
    · cases hd

/-- **What the routine can meet**, and how it ends: recording is stopped whatever became of the
linked sweep, and the first error counts. -/
inductive RecordsLinkage (first second : Nat) (token : Token) :
    History ν → Except ControlError Bool → Prop where
  | intro {t : History ν} {linked : Except ControlError Bool}
      (h : LinksSweeps first second token t linked) (d : Delivery) :
    RecordsLinkage first second token (t ++ [.ordered (.setRecording false) d])
      (linked.bind fun caught => (told d).map fun _ => caught)

/-- **The routine meets nothing else.** -/
theorem runs_sweepLinkage {e : Engine} {first second : Nat} {t : History ν}
    {r : Except ControlError Bool} (h : Runs (Engine.sweepLinkage e first second) t r) :
    RecordsLinkage first second e.token t r := by
  obtain ⟨linked, t₁, t₂, hl, h₂, rfl⟩ := Action.runs_attempt_bind.mp h
  obtain ⟨stopped, t₃, t₄, hs, h₄, rfl⟩ := Action.runs_attempt_bind.mp h₂
  obtain ⟨d, rfl, rfl⟩ := Client.runs_check.mp hs
  have hrecords := RecordsLinkage.intro (runs_linkedSweep hl) d
  rcases linked with error | caught
  · obtain ⟨rfl, rfl⟩ := h₄
    exact hrecords
  · rcases d with fault | reply
    · obtain ⟨rfl, rfl⟩ := h₄
      exact hrecords
    · obtain ⟨rfl, rfl⟩ := h₄
      exact hrecords

end LabControl.Sweep
