/-
# Connections

A connection is the client's end of the two links: a channel for each of them, with its echo.
What lies beyond is a `World`, which receives requests and may answer them at once or not yet.
Programs run on a connection one at a time: each goes on until it ends or waits, for a reply or
for the request slot of its channel, and what is left of a waiting program can be resumed,
answered or given up later.

A request takes the slot of its channel and gives it back however it ends: when a reply or a
fault arrives, when its echo fails, and when it is given up.
-/
import LabControl.Channel
import LabControl.Echo
import LabControl.Program

namespace LabControl

/-! ## 1. The two ends -/

/-- What becomes of a request. -/
inductive Reception where
  /-- A reply has come back, or the link has failed. -/
  | answered (result : Except ControlError String)
  /-- Nothing has come back yet. -/
  | pending

/-- All that a program meets apart from its channels, over a state of its own. -/
structure World (ν σ : Type) where
  /-- A request arrives on a link. -/
  receive : Link → String → σ → Reception × σ
  /-- A time is slept on a link, unless it cannot be slept or the link fails. -/
  sleep : Link → ν → σ → Except ControlError Bool × σ
  /-- The engine publishes its state. -/
  publish : Sweep.State ν → σ → σ
  /-- Whether a token has fired. -/
  hasFired : Token → σ → Bool

/-- Which channels have the echo that a connection is given. -/
inductive Wiring where
  /-- Both. -/
  | shared
  /-- The remote channel; the other has an echo of its own. -/
  | remoteOnly
  /-- The trigger channel; the other has an echo of its own. -/
  | triggerOnly
  deriving DecidableEq, Repr

/-- Whether a channel has the echo that the connection is given. -/
def Wiring.gives : Wiring → Link → Bool
  | shared, _ => true
  | remoteOnly, link => link == .remote
  | triggerOnly, link => link == .trigger

/-- The client's end of the two links, on a world in some state. -/
structure Connection (σ : Type) where
  remote : Channel := {}
  trigger : Channel := {}
  wiring : Wiring := .shared
  /-- The echo that the connection is given. -/
  given : Echo := {}
  /-- The echo of a channel that has not got the given one. -/
  own : Echo := {}
  far : σ

namespace Connection

variable {ν σ α : Type}

/-- The channel of a link. -/
def channel (c : Connection σ) : Link → Channel
  | .remote => c.remote
  | .trigger => c.trigger

/-- The connection with another state of a channel. -/
def withChannel (c : Connection σ) (link : Link) (channel : Channel) : Connection σ :=
  match link with
  | .remote => { c with remote := channel }
  | .trigger => { c with trigger := channel }

/-- The echo of a channel. -/
def echo (c : Connection σ) (link : Link) : Echo :=
  if c.wiring.gives link then c.given else c.own

/-- The connection with another state of a channel's echo. -/
def withEcho (c : Connection σ) (link : Link) (e : Echo) : Connection σ :=
  if c.wiring.gives link then { c with given := e } else { c with own := e }

/-- Turn the echo of a channel on or off. -/
def setEcho (c : Connection σ) (link : Link) (on : Bool) : Connection σ :=
  c.withEcho link { c.echo link with enabled := on }

/-- Give the request slot of a link back without a reply. -/
def release (c : Connection σ) (link : Link) : Connection σ :=
  c.withChannel link (c.channel link).release

section Far

variable {c : Connection σ} (link : Link)

@[simp] theorem far_withEcho (e : Echo) : (c.withEcho link e).far = c.far := by
  unfold withEcho
  split
  · rfl
  · rfl

@[simp] theorem far_withChannel (channel : Channel) : (c.withChannel link channel).far = c.far := by
  cases link <;> rfl

@[simp] theorem far_release : (c.release link).far = c.far := far_withChannel link _

end Far

/-! ## 2. One exchange -/

/-- Take the request slot of a link, if it is free. -/
def claim? (c : Connection σ) (link : Link) : Option (Connection σ) :=
  (c.channel link).claim?.map (c.withChannel link)

/-- Echo a request. -/
def announce (c : Connection σ) (link : Link) (text : String) :
    Except ControlError Unit × Connection σ :=
  let (result, e) := (c.echo link).command text
  (result, c.withEcho link e)

/-- Hand a request to the world. -/
def hand (w : World ν σ) (c : Connection σ) (link : Link) (text : String) :
    Reception × Connection σ :=
  let (reception, far) := w.receive link text c.far
  (reception, { c with far })

/-- End the exchange in flight on a link with what came back: a reply is echoed and remembered.
The slot is free again in any case. -/
def settle (c : Connection σ) (link : Link) :
    Except ControlError String → Except ControlError Reply × Connection σ
  | .error error => (.error error, c.release link)
  | .ok text =>
    match (c.echo link).reply text with
    | (.error error, e) => (.error error, (c.withEcho link e).release link)
    | (.ok (), e) =>
      let c := c.withEcho link e
      (.ok ⟨text⟩, c.withChannel link ((c.channel link).complete ⟨text⟩))

/-- How far an exchange came. -/
inductive Exchanged where
  /-- It is over. -/
  | settled (result : Except ControlError Reply)
  /-- The request slot is taken; nothing was sent. -/
  | slotTaken
  /-- The request is in flight. -/
  | inFlight

/-- An exchange on a link, up to its end if the world answers at once. -/
def exchange (w : World ν σ) (c : Connection σ) (link : Link) (text : String) :
    Exchanged × Connection σ :=
  match c.claim? link with
  | none => (.slotTaken, c)
  | some c =>
    match c.announce link text with
    | (.error error, c) => (.settled (.error error), c.release link)
    | (.ok (), c) =>
      match hand w c link text with
      | (.pending, c) => (.inFlight, c)
      | (.answered result, c) =>
        let (result, c) := c.settle link result
        (.settled result, c)

/-! ## 3. Running a program -/

/-- What is left of a program that waits. -/
inductive Waiting (ν α : Type) where
  /-- For the request slot of its link, to send this first. -/
  | forSlot (rest : Program ν α)
  /-- For the reply on a link, or for a token if there is one that ends the wait for the
  instruction of this name. -/
  | forReply (link : Link) (token : Option Token) (name : String)
      (next : Except ControlError Reply → Program ν α)

/-- How far a program came. -/
inductive Progress (ν α : Type) where
  | finished (result : α)
  | blocked (rest : Waiting ν α)

variable [Quantity ν]

/-- Run a program until it ends or waits.  A wait whose token has fired is not begun, and one
whose token fires while its request is in flight is given up; a reply that arrives at once
counts. -/
def run (w : World ν σ) : Program ν α → Connection σ → Progress ν α × Connection σ
  | .done a, c => (.finished a, c)
  | .publish state next, c => run w next { c with far := w.publish state c.far }
  | .inspect token next, c => run w (next (w.hasFired token c.far)) c
  | .sleep link seconds next, c =>
    let (slept, far) := w.sleep link seconds c.far
    run w (next slept) { c with far }
  | .exchange link request next, c =>
    match exchange w c link request.text with
    | (.settled result, c) => run w (next result) c
    | (.slotTaken, c) => (.blocked (.forSlot (.exchange link request next)), c)
    | (.inFlight, c) => (.blocked (.forReply link none request.text next), c)
  | .await token instruction next, c =>
    let cancelled := .error (.cancelled instruction.name)
    if w.hasFired token c.far then run w (next cancelled) c
    else
      match exchange w c .remote instruction.text with
      | (.settled result, c) => run w (next result) c
      | (.slotTaken, c) => (.blocked (.forSlot (.await token instruction next)), c)
      | (.inFlight, c) =>
        if w.hasFired token c.far then run w (next cancelled) (c.release .remote)
        else (.blocked (.forReply .remote (some token) instruction.name next), c)

/-- Try to go on with a waiting program: for the slot, send again; for a reply, see whether the
token has fired. -/
def resume (w : World ν σ) : Waiting ν α → Connection σ → Progress ν α × Connection σ
  | .forSlot rest, c => run w rest c
  | .forReply link token name next, c =>
    if token.any fun token => w.hasFired token c.far then
      run w (next (.error (.cancelled name))) (c.release link)
    else (.blocked (.forReply link token name next), c)

/-- Go on with a program that waits for a reply, with what came back. -/
def arrive (w : World ν σ) (result : Except ControlError String) :
    Waiting ν α → Connection σ → Progress ν α × Connection σ
  | .forSlot rest, c => (.blocked (.forSlot rest), c)
  | .forReply link _ _ next, c =>
    let (result, c) := c.settle link result
    run w (next result) c

/-- Give a waiting program up. -/
def abandon : Waiting ν α → Connection σ → Connection σ
  | .forSlot _, c => c
  | .forReply link _ _ _, c => c.release link

end Connection

end LabControl
