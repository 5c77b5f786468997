/-
# Rejected requests

A backend rejects a request by a reply under another name.  A call then returns a value of its own,
its `rejection?`, whatever else the reply holds.  Loading and saving configuration is the exception:
these two calls return the flag of the reply without a look at its name, so that a rejection with
the digit one in front is taken for a success.
-/
import LabControl.Proofs.Client.Calls

namespace LabControl

variable {ν : Type}

namespace Reply

variable [Quantity ν] {r : Reply}

/-! ## 1. Readings of a reply under another name -/

theorem channelReading_of_other_name (h : r.answers "read_channel" = false) :
    (r.channelReading : ChannelReading ν) = .unknown := by
  rw [channelReading, h, if_neg Bool.false_ne_true]

theorem time_of_other_name (h : r.answers "get_time" = false) : (r.time : ν) = Scale.count 0 := by
  rw [time, h, if_neg Bool.false_ne_true]

theorem idOf_of_other_name {query : String} (h : r.answers query = false) :
    r.idOf query = unknownId := by
  rw [idOf, h, if_neg Bool.false_ne_true]

theorem variableText_of_other_name (h : r.answers "get_var" = false) : r.variableText = "" := by
  rw [variableText, h, Bool.false_and, if_neg Bool.false_ne_true]

theorem assigned_of_other_name (h : r.answers "set_var" = false) : r.assigned = false := by
  rw [assigned, h, Bool.false_and]

theorem busText_of_other_name (h : r.answers "gpib_send_recv" = false) : r.busText = "Error" := by
  rw [busText, h, if_neg Bool.false_ne_true]

end Reply

/-! ## 2. Rejected calls -/

namespace Call

/-- Loading or saving configuration: the answer is read off any reply. -/
def readsAnyReply : Call ν → Bool
  | give (.loadConfig _) | give (.saveConfig _) => true
  | _ => false

variable [Quantity ν]

/-- **What a call returns when its request was rejected.**  A cleared buffer is answered with the
reply itself, and a message on the bus that expects no reply is answered with nothing. -/
def rejection? : Call ν → Option (Answer ν)
  | give (.clearBuffer ..) | give (.busExchange _ _ _ _ false) => none
  | give (.busExchange _ _ _ _ true) => some (.text "Error")
  | give .getTime | channelValue _ => some (.number (Scale.count 0))
  | give (.readChannel _) => some (.reading .unknown)
  | give .getPanel | give (.getSweepId _) => some (.id (-2))
  | give (.getVar _) => some (.text "")
  | _ => some (.flag false)

/-- A reply under another name is answered with the rejection. -/
theorem answer_of_other_name {c : Call ν} {reply : Reply} {rejection : Answer ν}
    (hname : reply.name ≠ c.instruction.name) (hrejection : c.rejection? = some rejection)
    (hreads : c.readsAnyReply = false) : c.answer reply = rejection := by
  have hother : reply.answers c.instruction.command.name = false := beq_eq_false_iff_ne.mpr hname
  cases c with
  | channelValue channel =>
    cases hrejection
    rw [answer, Reply.channelReading_of_other_name hother, ChannelReading.unknown]
  | channelKnown channel =>
    cases hrejection
    rw [answer, Reply.channelReading_of_other_name hother, ChannelReading.unknown]
  | give i =>
    cases i with
    | hello message =>
      cases hrejection
      have hhello : reply.answers "hello" = false := hother
      rw [answer, Instruction.answer, hhello, Bool.false_and]
    | busExchange bus pad message eos expectReply =>
      cases expectReply with
      | false => cases hrejection
      | true =>
        cases hrejection
        exact congrArg Answer.text (Reply.busText_of_other_name hother)
    | getTime =>
      cases hrejection
      exact congrArg Answer.number (Reply.time_of_other_name hother)
    | readChannel channel =>
      cases hrejection
      exact congrArg Answer.reading (Reply.channelReading_of_other_name hother)
    | loadConfig source => cases hreads
    | saveConfig target => cases hreads
    | getPanel =>
      cases hrejection
      exact congrArg Answer.id (Reply.idOf_of_other_name hother)
    | setVar line =>
      cases hrejection
      exact congrArg Answer.flag (Reply.assigned_of_other_name hother)
    | getVar name =>
      cases hrejection
      exact congrArg Answer.text (Reply.variableText_of_other_name hother)
    | getSweepId channel =>
      cases hrejection
      exact congrArg Answer.id (Reply.idOf_of_other_name hother)
    | clearBuffer confirm resetTime => cases hrejection
    -- the others answer whether the reply acknowledges their command
    | _ =>
      cases hrejection
      exact congrArg Answer.flag hother

/-- Loading or saving configuration answers with the flag of the reply, and its rejection is
false. -/
theorem answer_of_readsAnyReply {c : Call ν} (h : c.readsAnyReply = true) :
    (∀ reply, c.answer reply = .flag (reply.flag 0)) ∧ c.rejection? = some (.flag false) := by
  unfold readsAnyReply at h
  split at h
  · exact ⟨fun _ => rfl, rfl⟩
  · exact ⟨fun _ => rfl, rfl⟩
  · cases h

/-- **A reply under another name is answered with the rejection just if the call looks at the
name**, or the flag of the reply happens to be false as well: loading and saving configuration
answers with that flag. -/
theorem result_of_other_name_iff (c : Call ν) (link : Link) (s : Surroundings ν) {reply : Reply}
    {rejection : Answer ν}
    (harrived : (s.history (c.action link).run).replies = [reply])
    (hname : reply.name ≠ c.instruction.name) (hrejection : c.rejection? = some rejection) :
    (s.result (c.action link).run = .ok rejection ↔
      (c.readsAnyReply = true → reply.flag 0 = false)) ∧
    (c.readsAnyReply = true → s.result (c.action link).run = .ok (.flag (reply.flag 0))) := by
  rw [result_eq harrived]
  rcases hreads : c.readsAnyReply with _ | _
  · have hanswer := answer_of_other_name hname hrejection hreads
    exact ⟨⟨fun _ h => Bool.noConfusion h, fun _ => by rw [hanswer]⟩, fun h => Bool.noConfusion h⟩
  · obtain ⟨hanswer, hfalse⟩ := answer_of_readsAnyReply hreads
    obtain rfl := Option.some.inj (hrejection.symm.trans hfalse)
    simp [hanswer]

/-- Surroundings where every request is answered with a text under the name of an error. -/
def erring (fields : String) : Surroundings Float :=
  .answering fun _ _ _ => ⟨"error;" ++ fields⟩

/-- The reading of a channel is not taken from an error that holds one. -/
theorem result_of_other_name_iff_erring :
    (erring "value|1.5;known|1").result (action .remote (give (.readChannel 1))).run =
      .ok (.reading .unknown) := by
  have harrived : ((erring "value|1.5;known|1").history
      (action .remote (give (.readChannel 1))).run).replies =
        [⟨"error;value|1.5;known|1"⟩] := rfl
  exact (result_of_other_name_iff (give (.readChannel 1)) .remote _ harrived (by decide) rfl).1.mpr
    fun h => Bool.noConfusion h

/-- **A rejection with the digit one in front is taken for a loaded configuration.** -/
theorem loaded_by_rejection :
    Reply.name ⟨"error;ok|1"⟩ ≠ (Instruction.loadConfig .last : Instruction Float).name ∧
      (give (.loadConfig .last) : Call Float).rejection? = some (.flag false) ∧
      (erring "ok|1").result (action .remote (give (.loadConfig .last))).run =
        .ok (.flag true) :=
  ⟨by decide, rfl, rfl⟩

end Call

end LabControl
