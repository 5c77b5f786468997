/-
# Tasks on the channels of a connection

Any number of tasks run their programs on one connection, side by side.  A task goes on in small
steps, and between two of them anything else may happen: other tasks go on, replies and faults
arrive, tokens fire, tasks are dropped.  A call is in three parts: the task takes the slot of its
channel, it hands its request over, and it goes on with what came back.

Requests are numbered as they are handed over.  A reply comes under the number of its request, so
the transport confuses no requests; what remains is that the channels do not, whatever the
schedule.
-/
import LabControl.Connection
import Mathlib.Logic.Function.Basic

namespace LabControl

variable {ν σ β : Type} {α : Nat → Type}

namespace Tasks

/-! ## 1. The stages of a task -/

/-- A request that a task wants answered. -/
structure Call (ν β : Type) where
  link : Link
  /-- The text of the request. -/
  text : String
  /-- The token that cancels the call, if there is one, and the name it is cancelled under. -/
  token : Option Token
  name : String
  /-- How the task goes on. -/
  next : Except ControlError Reply → Program ν β

/-- The call that a program begins with. -/
def Call.of? [Quantity ν] : Program ν β → Option (Call ν β)
  | .exchange link request next => some { link, text := request.text, token := none,
                                          name := request.text, next }
  | .await token i next => some { link := .remote, text := i.text, token := some token,
                                  name := i.name, next }
  | .done _ | .sleep .. | .publish .. | .inspect .. => none

/-- Whether the token of a call has fired. -/
def Call.fired (w : World ν σ) (call : Call ν β) (far : σ) : Bool :=
  call.token.any fun token => w.hasFired token far

/-- How a task goes on whose call is cancelled. -/
def Call.cancelled (call : Call ν β) : Program ν β := call.next (.error (.cancelled call.name))

/-- How far a task has come. -/
inductive Stage (ν β : Type) where
  /-- This is left of its program.  If it begins with a call, the task waits for the slot. -/
  | ready (rest : Program ν β)
  /-- It has the slot for its call, and has sent nothing. -/
  | granted (call : Call ν β)
  /-- The request of its call is sent, under a number. -/
  | sent (number : Nat) (call : Call ν β)
  /-- It was dropped. -/
  | dropped

/-- The call that a task is about to make or makes. -/
def Stage.call? [Quantity ν] : Stage ν β → Option (Call ν β)
  | ready rest => Call.of? rest
  | granted call | sent _ call => some call
  | dropped => none

/-- The link whose slot a task has. -/
def Stage.link? : Stage ν β → Option Link
  | granted call | sent _ call => some call.link
  | ready _ | dropped => none

/-! ## 2. What happens -/

/-- What becomes of the requests. -/
inductive Event where
  /-- A task hands a request over. -/
  | sent (number task : Nat) (link : Link) (text : String)
  /-- A reply to a request has come back, or the link failed. -/
  | answered (number : Nat) (came : Except ControlError String)
  /-- A task goes on with this result of its request. -/
  | received (number task : Nat) (link : Link) (text : String)
      (result : Except ControlError Reply)
  /-- The task of a request goes on without its result, or was dropped. -/
  | givenUp (number : Nat)

namespace Event

/-- The number of the request. -/
def number : Event → Nat
  | sent n .. | answered n _ | received n .. | givenUp n => n

/-- Whether nobody waits for a request any more. -/
def ends (n : Nat) : Event → Bool
  | received m .. | givenUp m => m == n
  | sent .. | answered .. => false

/-- What came back for a request. -/
def answerTo? (n : Nat) : Event → Option (Except ControlError String)
  | answered m came => if m = n then some came else none
  | sent .. | received .. | givenUp _ => none

end Event

/-- The reply that was received last on a link, the empty one if there is none; a log has the
newest event first. -/
def lastReceived (link : Link) : List Event → Reply
  | [] => {}
  | .received _ _ other _ result :: log =>
    if other = link then result.toOption.getD (lastReceived link log) else lastReceived link log
  | .sent .. :: log | .answered .. :: log | .givenUp _ :: log => lastReceived link log

/-- A request was sent on a link, and its task waits for what comes back. -/
def Awaited (log : List Event) (link : Link) (n : Nat) : Prop :=
  (∃ task text, .sent n task link text ∈ log) ∧ ∀ e ∈ log, e.ends n = false

/-- What can happen next. -/
inductive Act (σ : Type) where
  /-- A task goes on by one step, if there is one to make. -/
  | advance (task : Nat)
  /-- A task finds that the token of its request in flight has fired. -/
  | cancel (task : Nat)
  /-- A task is dropped. -/
  | drop (task : Nat)
  /-- Something comes back for a request, for which nothing has come back. -/
  | answer (number : Nat) (came : Except ControlError String)
  /-- Anything but the two channels changes. -/
  | elsewhere (c : Connection σ)

end Tasks

/-- Tasks with their programs on one connection, each under a number. -/
structure Tasks (ν σ : Type) (α : Nat → Type) where
  connection : Connection σ
  stage : (task : Nat) → Tasks.Stage ν (α task)
  /-- How many requests were handed over: the number of the next one. -/
  handed : Nat := 0
  /-- What has happened, the newest first. -/
  log : List Tasks.Event := []

namespace Tasks

/-- Tasks at the beginning of their programs, on a connection with new channels. -/
def start (c : Connection σ) (programs : (task : Nat) → Program ν (α task)) : Tasks ν σ α :=
  { connection := { c with remote := {}, trigger := {} }
    stage := fun task => .ready (programs task) }

/-- The tasks with one of them at another stage. -/
def put (s : Tasks ν σ α) (task : Nat) (stage : Stage ν (α task)) : Tasks ν σ α :=
  { s with stage := Function.update s.stage task stage }

@[simp] theorem stage_put (s : Tasks ν σ α) (task : Nat) (stage : Stage ν (α task)) :
    (s.put task stage).stage task = stage := Function.update_self _ _ _

/-- A task takes the slot of its call, if it is free. -/
def claim (s : Tasks ν σ α) (task : Nat) (call : Call ν (α task)) : Tasks ν σ α :=
  match s.connection.claim? call.link with
  | none => s
  | some connection => { s with connection }.put task (.granted call)

/-- A task gives its slot back without a result, and stands at another stage. -/
def leave (s : Tasks ν σ α) (task : Nat) (link : Link) (stage : Stage ν (α task)) :
    Tasks ν σ α :=
  { s with connection := s.connection.release link }.put task stage

/-- A task gives its request up. -/
def giveUp (s : Tasks ν σ α) (task number : Nat) (link : Link) (stage : Stage ν (α task)) :
    Tasks ν σ α :=
  { s with log := .givenUp number :: s.log }.leave task link stage

/-- A task hands the request of its call over; if it cannot be echoed, nothing is sent. -/
def send (w : World ν σ) (s : Tasks ν σ α) (task : Nat) (call : Call ν (α task)) :
    Tasks ν σ α :=
  match s.connection.announce call.link call.text with
  | (.error error, connection) =>
    { s with connection }.leave task call.link (.ready (call.next (.error error)))
  | (.ok (), connection) =>
    let number := s.handed
    let sent := Event.sent number task call.link call.text
    match connection.hand w call.link call.text with
    | (.pending, connection) =>
      { s with connection, handed := number + 1, log := sent :: s.log }.put
        task (.sent number call)
    | (.answered came, connection) =>
      { s with connection, handed := number + 1,
               log := .answered number came :: sent :: s.log }.put task (.sent number call)

/-- A task goes on with what came back for its request. -/
def receive (s : Tasks ν σ α) (task number : Nat) (call : Call ν (α task))
    (came : Except ControlError String) : Tasks ν σ α :=
  let ended := s.connection.settle call.link came
  { s with
    connection := ended.2
    log := .received number task call.link call.text ended.1 :: s.log
  }.put task (.ready (call.next ended.1))

/-- A task goes on with its program. -/
def work (w : World ν σ) (s : Tasks ν σ α) (task : Nat) : Program ν (α task) → Tasks ν σ α
  | .publish state next =>
    { s with connection := { s.connection with far := w.publish state s.connection.far } }.put
      task (.ready next)
  | .inspect token next => s.put task (.ready (next (w.hasFired token s.connection.far)))
  | .sleep link seconds next =>
    let (slept, far) := w.sleep link seconds s.connection.far
    { s with connection := { s.connection with far } }.put task (.ready (next slept))
  | .done _ | .exchange .. | .await .. => s

variable [Quantity ν]

/-- A task goes on by one step.  It looks at the token of its call before it takes the slot and
before it sends; once the request is sent, what comes back counts. -/
def advance (w : World ν σ) (s : Tasks ν σ α) (task : Nat) : Tasks ν σ α :=
  match s.stage task with
  | .ready rest =>
    match Call.of? rest with
    | none => s.work w task rest
    | some call =>
      if call.fired w s.connection.far then s.put task (.ready call.cancelled)
      else s.claim task call
  | .granted call =>
    if call.fired w s.connection.far then s.leave task call.link (.ready call.cancelled)
    else s.send w task call
  | .sent number call =>
    match s.log.findSome? (Event.answerTo? number) with
    | none => s
    | some came => s.receive task number call came
  | .dropped => s

/-- The tasks after one more act. -/
def act (w : World ν σ) (s : Tasks ν σ α) : Act σ → Tasks ν σ α
  | .advance task => s.advance w task
  | .cancel task =>
    match s.stage task with
    | .sent number call =>
      if call.fired w s.connection.far then
        s.giveUp task number call.link (.ready call.cancelled)
      else s
    | .ready _ | .granted _ | .dropped => s
  | .drop task =>
    match s.stage task with
    | .sent number call => s.giveUp task number call.link .dropped
    | .granted call => s.leave task call.link .dropped
    | .ready _ | .dropped => s.put task .dropped
  | .answer number came =>
    if number < s.handed ∧ s.log.findSome? (Event.answerTo? number) = none then
      { s with log := .answered number came :: s.log }
    else s
  | .elsewhere c =>
    { s with
      connection := { c with remote := s.connection.remote, trigger := s.connection.trigger } }

/-- The tasks after a schedule. -/
def after (w : World ν σ) (s : Tasks ν σ α) (schedule : List (Act σ)) : Tasks ν σ α :=
  schedule.foldl (act w) s

end Tasks

end LabControl
