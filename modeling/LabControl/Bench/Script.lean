/-
# A scripted backend

A stand-in for the acquisition backend that answers by rules.  It can be told never to answer
commands of some name, or to fail them; it records all that reaches it.  Sleeping on it only
records the time.
-/
import LabControl.Connection

namespace LabControl.Bench

/-! ## 1. Rules -/

/-- How a rule answers a command. -/
inductive Manner where
  /-- With the name of the command. -/
  | acknowledge
  /-- With the whole text of the command. -/
  | mirror
  /-- With a greeting that returns the first argument. -/
  | greet
  /-- With these texts in turn; the last one repeats. -/
  | inTurn (replies : List String)
  deriving DecidableEq, Repr

/-- A rule: which commands it answers, and how.  A condition that is absent holds. -/
structure Rule where
  /-- The command has this name. -/
  name : Option String := none
  /-- The command's text ends with this. -/
  ending : Option String := none
  /-- The command's text contains this. -/
  part : Option String := none
  manner : Manner
  /-- How often the rule was used. -/
  uses : Nat := 0
  deriving DecidableEq, Repr

/-- Whether a run of characters occurs in a text. -/
def occursIn (part : List Char) : List Char → Bool
  | [] => part.isEmpty
  | c :: rest => part.isPrefixOf (c :: rest) || occursIn part rest

/-- Whether a rule answers a command text. -/
def Rule.applies (r : Rule) (text : String) : Bool :=
  r.name.all (· == decodeName text) &&
  r.ending.all (fun e => e.toList.isSuffixOf text.toList) &&
  r.part.all (fun p => occursIn p.toList text.toList)

/-- The reply of a rule to a command text. -/
def Rule.reply (r : Rule) (text : String) : String :=
  match r.manner with
  | .acknowledge => decodeName text
  | .mirror => text
  | .greet => "hello;msg_in|" ++ decodeArg text 0
  | .inTurn replies => (replies[min r.uses (replies.length - 1)]?).getD ""

/-- The reply of the first rule that answers a command text, and the rules with that use counted.
Without such a rule the command's name is the reply. -/
def respond (text : String) : List Rule → String × List Rule
  | [] => (decodeName text, [])
  | rule :: rest =>
    if rule.applies text then (rule.reply text, { rule with uses := rule.uses + 1 } :: rest)
    else
      let (reply, rest) := respond text rest
      (reply, rule :: rest)

/-! ## 2. The backend -/

/-- A request that reached the backend: its link, its text and the reply, which is empty when
there was none. -/
structure Exchange where
  link : Link
  command : String
  reply : String
  deriving DecidableEq, Repr

/-- A scripted backend and what it recorded. -/
structure Script where
  rules : List Rule := []
  /-- Commands of these names are never answered. -/
  held : List String := []
  /-- Commands of these names fail. -/
  failing : List String := []
  exchanges : Array Exchange := #[]
  sleeps : Array Float := #[]

namespace Script

/-- Receive a request.  Never answering wins over failing, and neither asks the rules. -/
def receive (s : Script) (link : Link) (text : String) : Reception × Script :=
  let name := decodeName text
  let recorded (s : Script) (reply : String) : Script :=
    { s with exchanges := s.exchanges.push { link, command := text, reply } }
  if s.held.contains name then (.pending, recorded s "")
  else if s.failing.contains name then
    (.answered (.error (.transport ("mock link dropped '" ++ name ++ "'"))), recorded s "")
  else
    let (reply, rules) := respond text s.rules
    (.answered (.ok reply), recorded { s with rules } reply)

/-- Sleep: a time that is negative or not finite is ignored. -/
def sleep (s : Script) (seconds : Float) : Bool × Script :=
  if !seconds.isFinite || seconds < floatCount 0 then (false, s)
  else (true, { s with sleeps := s.sleeps.push seconds })

/-- Never answer commands of a name from now on. -/
def hold (s : Script) (name : String) : Script := { s with held := name :: s.held }

/-- Fail commands of a name from now on. -/
def fail (s : Script) (name : String) : Script := { s with failing := name :: s.failing }

/-- Forget the recorded traffic. -/
def clear (s : Script) : Script := { s with exchanges := #[], sleeps := #[] }

/-- The recorded command texts, in order. -/
def commands (s : Script) : List String := s.exchanges.toList.map (·.command)

/-- The recorded command texts of one link, in order. -/
def commandsOn (s : Script) (link : Link) : List String :=
  (s.exchanges.toList.filter (·.link == link)).map (·.command)

end Script

end LabControl.Bench
