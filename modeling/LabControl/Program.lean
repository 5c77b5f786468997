/-
# Programs

A client call or an automation run is a program: a value, or a request together with what is
done for each thing that may come back.  Programs are finite trees whose branches are the
answers of the surroundings, so a program says what is sent after every history of replies,
faults and cancellations, and a call that waits is simply the rest of its program.

`Action` is a program that may end with an error; errors end it unless `attempt` holds them.
-/
import LabControl.Error
import LabControl.Instruction
import LabControl.Sweep.State

namespace LabControl

/-- The tokens through which waits are cancelled.  Once fired, a token stays fired. -/
inductive Token where
  /-- The engine's own token: it ends the waits of a run. -/
  | run
  /-- The token of the cleanup: it ends the zero sweep that follows a run. -/
  | cleanup
  /-- The token of a client that waits by itself. -/
  | waiter
  deriving DecidableEq, Repr

/-- What a program sends: an instruction, or a text as it stands. -/
inductive Request (ν : Type) where
  | instruct (instruction : Instruction ν)
  | verbatim (text : String)
  deriving DecidableEq, Repr

/-- The wire text of a request. -/
def Request.text {ν : Type} [Quantity ν] : Request ν → String
  | instruct i => i.text
  | verbatim text => text

/-- A program over the two links. -/
inductive Program (ν α : Type) : Type where
  /-- The result. -/
  | done (result : α)
  /-- Send a request and go on with its reply or with the fault. -/
  | exchange (link : Link) (request : Request ν)
      (next : Except ControlError Reply → Program ν α)
  /-- Send a waiting instruction on the remote link, unless the token has fired; go on with the
  reply, the fault or the cancellation. -/
  | await (token : Token) (instruction : Instruction ν)
      (next : Except ControlError Reply → Program ν α)
  /-- Sleep on a link; a time that cannot be slept is ignored and answered with false. -/
  | sleep (link : Link) (seconds : ν) (next : Except ControlError Bool → Program ν α)
  /-- Publish the engine's state. -/
  | publish (state : Sweep.State ν) (next : Program ν α)
  /-- Look whether a token has fired. -/
  | inspect (token : Token) (next : Bool → Program ν α)

namespace Program

variable {ν α β γ : Type}

/-! ## 1. Sequence -/

/-- Go on with the result of a program. -/
def bind : Program ν α → (α → Program ν β) → Program ν β
  | done a, f => f a
  | exchange link request next, f => exchange link request fun r => (next r).bind f
  | await token instruction next, f => await token instruction fun r => (next r).bind f
  | sleep link seconds next, f => sleep link seconds fun r => (next r).bind f
  | publish state next, f => publish state (next.bind f)
  | inspect token next, f => inspect token fun b => (next b).bind f

instance : Monad (Program ν) where
  pure := done
  bind := bind

@[simp] theorem pure_eq (a : α) : (pure a : Program ν α) = done a := rfl

@[simp] theorem bind_eq (p : Program ν α) (f : α → Program ν β) : p >>= f = p.bind f := rfl

@[simp] theorem bind_done (p : Program ν α) : p.bind done = p := by
  induction p with
  | done a => rfl
  | exchange link request next ih => simp only [bind, ih]
  | await token instruction next ih => simp only [bind, ih]
  | sleep link seconds next ih => simp only [bind, ih]
  | publish state next ih => simp only [bind, ih]
  | inspect token next ih => simp only [bind, ih]

theorem bind_assoc (p : Program ν α) (f : α → Program ν β) (g : β → Program ν γ) :
    (p.bind f).bind g = p.bind fun a => (f a).bind g := by
  induction p with
  | done a => rfl
  | exchange link request next ih => simp only [bind, ih]
  | await token instruction next ih => simp only [bind, ih]
  | sleep link seconds next ih => simp only [bind, ih]
  | publish state next ih => simp only [bind, ih]
  | inspect token next ih => simp only [bind, ih]

instance : LawfulMonad (Program ν) :=
  LawfulMonad.mk' (Program ν) (fun p => bind_done p) (fun _ _ => rfl) bind_assoc

end Program

/-! ## 2. Actions -/

/-- A program that may end with an error. -/
abbrev Action (ν : Type) : Type → Type := ExceptT ControlError (Program ν)

namespace Action

variable {ν α : Type}

/-- Send a request and yield its reply. -/
def send (link : Link) (request : Request ν) : Action ν Reply :=
  ExceptT.mk (.exchange link request .done)

/-- Send a waiting instruction, to be cancelled through the token, and yield its reply. -/
def await (token : Token) (instruction : Instruction ν) : Action ν Reply :=
  ExceptT.mk (.await token instruction .done)

/-- Sleep on a link. -/
def sleep (link : Link) (seconds : ν) : Action ν Bool :=
  ExceptT.mk (.sleep link seconds .done)

/-- Publish the engine's state. -/
def publish (state : Sweep.State ν) : Action ν Unit :=
  ExceptT.mk (.publish state (.done (.ok ())))

/-- Whether a token has fired. -/
def fired (token : Token) : Action ν Bool :=
  ExceptT.mk (.inspect token fun b => .done (.ok b))

/-- Go on with a result, or end with its error. -/
def settle (result : Except ControlError α) : Action ν α :=
  ExceptT.mk (.done result)

/-- Run an action to its end and yield what it ended with, an error included. -/
def attempt (action : Action ν α) : Action ν (Except ControlError α) :=
  ExceptT.lift action.run

end Action

end LabControl
