/-
# Calls of the client

The calls of the two surfaces that send at most one request.  Each gives an instruction; two of
them return only a part of a channel's reading.  `Call.Meets` lists what such a call can meet in
any surroundings, with its result, and `Call.meets_of_runs` shows that nothing else can happen.
Callers use two consequences: what was sent is the instruction (`Call.request_eq`), and a reply
that arrived settles the result (`Call.result_eq`).
-/
import LabControl.Proofs.Action
import LabControl.Proofs.Instruction

namespace LabControl

open LabControl.Action (Runs)

variable {ν : Type}

/-! ## 1. The calls -/

/-- **A call that sends at most one request.** -/
inductive Call (ν : Type) where
  /-- Give an instruction. -/
  | give (instruction : Instruction ν)
  /-- Take the value of a channel. -/
  | channelValue (channel : Nat)
  /-- Ask whether the value of a channel is known. -/
  | channelKnown (channel : Nat)

namespace Call

/-- The instruction that a call gives. -/
def instruction : Call ν → Instruction ν
  | give i => i
  | channelValue channel | channelKnown channel => .readChannel channel

/-- The texts among the arguments of a call. -/
def texts (c : Call ν) : List String := c.instruction.texts

variable [Quantity ν]

/-- What a call returns for the reply to its request. -/
def answer (c : Call ν) (reply : Reply) : Answer ν :=
  match c with
  | give i => i.answer reply
  | channelValue _ => .number (reply.channelReading : ChannelReading ν).value
  | channelKnown _ => .flag (reply.channelReading : ChannelReading ν).known

/-- A call as an action. -/
def action (link : Link) : Call ν → Action ν (Answer ν)
  | give i => Client.perform link i
  | channelValue channel => do
    let value ← Client.channelValue channel
    pure (.number value)
  | channelKnown channel => do
    let known ← Client.channelKnown channel
    pure (.flag known)

/-! ## 2. What a call can meet -/

/-- **What a call can meet**, and how it ends. -/
inductive Meets (c : Call ν) : History ν → Except ControlError (Answer ν) → Prop where
  /-- Nothing was sent, since configuration cannot be saved to the target. -/
  | unsent {target : ConfigSource} (hc : c = .give (.saveConfig target))
      (h : target.isSavable = false) : Meets c [] (.ok (.flag false))
  /-- The request was sent, and this came back for it. -/
  | exchanged (link : Link) (d : Delivery) :
    Meets c [.exchanged link (.instruct c.instruction) d] ((told d).map c.answer)
  /-- The request was sent, and after a wait this came back for it. -/
  | awaited (h : c.instruction.isWait = true) (d : Delivery) :
    Meets c [.awaited .waiter c.instruction d] ((told d).map c.answer)
  /-- The wait was cancelled, before it was sent or while it was pending. -/
  | cancelled (h : c.instruction.isWait = true) {o : Occurrence ν}
      (ho : o.Cancels .waiter c.instruction) :
    Meets c [o] (.error (.cancelled c.instruction.name))

/-- **A call meets nothing else.** -/
theorem meets_of_runs {c : Call ν} {link : Link} {t : History ν}
    {r : Except ControlError (Answer ν)} (h : Runs (c.action link) t r) : c.Meets t r := by
  cases c with
  | channelValue channel =>
    obtain ⟨_, hvalue, rfl⟩ := Action.runs_map.mp h
    obtain ⟨_, hread, rfl⟩ := Action.runs_map.mp hvalue
    obtain ⟨fault | reply, rfl, rfl⟩ := Client.runs_readChannel.mp hread
    · exact .exchanged (c := .channelValue channel) .remote (.error fault)
    · exact .exchanged (c := .channelValue channel) .remote (.ok reply)
  | channelKnown channel =>
    obtain ⟨_, hknown, rfl⟩ := Action.runs_map.mp h
    obtain ⟨_, hread, rfl⟩ := Action.runs_map.mp hknown
    obtain ⟨fault | reply, rfl, rfl⟩ := Client.runs_readChannel.mp hread
    · exact .exchanged (c := .channelKnown channel) .remote (.error fault)
    · exact .exchanged (c := .channelKnown channel) .remote (.ok reply)
  | give i =>
    simp only [action, Client.perform] at h
    split at h
    · next target =>
      split at h
      · obtain ⟨d, rfl, rfl⟩ := Client.runs_ask_map.mp h
        exact .exchanged link d
      · next htarget =>
        obtain ⟨rfl, rfl⟩ := Action.runs_pure.mp h
        exact .unsent rfl (by simpa using htarget)
    · split at h
      · next hwait =>
        rcases Client.runs_await_map.mp h with ⟨d, rfl, rfl⟩ | ⟨o, ho, rfl, rfl⟩
        · exact .awaited (c := .give i) hwait d
        · exact .cancelled (c := .give i) hwait ho
      · obtain ⟨d, rfl, rfl⟩ := Client.runs_ask_map.mp h
        exact .exchanged link d

/-! ## 3. What was sent, and what came back -/

/-- **A call sends its instruction**, if it sends anything. -/
theorem request_eq {c : Call ν} {link l : Link} {s : Surroundings ν} {q : Request ν}
    (h : (s.history (c.action link).run).sent = [(l, q)]) : q = .instruct c.instruction := by
  have hmeets := meets_of_runs (s.history_runs (c.action link).run)
  generalize s.history (c.action link).run = t at hmeets h
  generalize s.result (c.action link).run = r at hmeets
  cases hmeets with
  | unsent hc htarget => cases h
  | exchanged link' d =>
    cases h
    rfl
  | awaited hwait d =>
    cases h
    rfl
  | cancelled hwait ho =>
    rcases ho with rfl | rfl
    · cases h
      rfl
    · cases h

/-- **A reply that arrives settles the result.** -/
theorem result_eq {c : Call ν} {link : Link} {s : Surroundings ν} {reply : Reply}
    (h : (s.history (c.action link).run).replies = [reply]) :
    s.result (c.action link).run = .ok (c.answer reply) := by
  have hmeets := meets_of_runs (s.history_runs (c.action link).run)
  generalize s.history (c.action link).run = t at hmeets h
  generalize s.result (c.action link).run = r at hmeets ⊢
  cases hmeets with
  | unsent hc htarget => cases h
  | exchanged link' d =>
    rcases d with fault | arrived
    · cases h
    · cases h
      rfl
  | awaited hwait d =>
    rcases d with fault | arrived
    · cases h
    · cases h
      rfl
  | cancelled hwait ho =>
    rcases ho with rfl | rfl
    · cases h
    · cases h

end Call

end LabControl
