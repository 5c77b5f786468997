/-
# Calls told apart by their texts

The text of a request tells a backend which call was made and with which arguments, up to the
digits that a number has on the wire, with two exceptions: a line is set as an output is, and the
three calls that read a channel send the same query.  The theorem says that there is no third.
-/
import LabControl.Proofs.Client.Calls

namespace LabControl.Call

variable {ν : Type}

/-! ## 1. One operation with the same arguments -/

/-- The channel whose value is asked for by a call. -/
def reading? (c : Call ν) : Option Nat :=
  match c.instruction with
  | .readChannel channel => some channel
  | _ => none

theorem reading?_eq_some_iff {c : Call ν} {channel : Nat} :
    c.reading? = some channel ↔ c.instruction = .readChannel channel := by
  unfold reading?
  split
  · next channel' h => rw [h, Option.some.injEq, Instruction.readChannel.injEq]
  · next h =>
    constructor
    · intro he
      cases he
    · exact fun he => absurd he (h channel)

variable [Quantity ν]

/-- **Two calls are one operation with the same arguments**, but that a target counts by its text,
and that setting a line counts as setting an output. -/
inductive SameOperation : Call ν → Call ν → Prop where
  | give {i j : Instruction ν} (h : i.Agrees j) : SameOperation (give i) (give j)
  | channelValue (channel : Nat) : SameOperation (channelValue channel) (channelValue channel)
  | channelKnown (channel : Nat) : SameOperation (channelKnown channel) (channelKnown channel)

/-- An instruction agrees with the query of a channel only if it is that query. -/
theorem eq_of_agrees_reading {i j : Instruction ν} {channel : Nat} (h : i.Agrees j)
    (hread : i = .readChannel channel ∨ j = .readChannel channel) :
    i = .readChannel channel ∧ j = .readChannel channel := by
  cases h with
  | same =>
    rw [or_self] at hread
    exact ⟨hread, hread⟩
  | output hi hj htext =>
    rcases hread with rfl | rfl
    · cases hi
    · cases hj
  | pulse output htext =>
    rcases hread with h | h
    · cases h
    · cases h

/-- **The instructions of two calls agree** just if the calls are one operation with the same
arguments, or ask for the value of one channel. -/
theorem agrees_instruction_iff {c c' : Call ν} :
    c.instruction.Agrees c'.instruction ↔
      c.SameOperation c' ∨ ∃ channel, c.reading? = some channel ∧ c'.reading? = some channel := by
  simp only [reading?_eq_some_iff]
  constructor
  · intro h
    cases c with
    | channelValue channel => exact .inr ⟨channel, eq_of_agrees_reading h (.inl rfl)⟩
    | channelKnown channel => exact .inr ⟨channel, eq_of_agrees_reading h (.inl rfl)⟩
    | give i =>
      cases c' with
      | channelValue channel => exact .inr ⟨channel, eq_of_agrees_reading h (.inr rfl)⟩
      | channelKnown channel => exact .inr ⟨channel, eq_of_agrees_reading h (.inr rfl)⟩
      | give j => exact .inl (.give h)
  · rintro (h | ⟨channel, hc, hc'⟩)
    · cases h with
      | give h => exact h
      | channelValue channel => exact .same _
      | channelKnown channel => exact .same _
    · rw [hc, hc']
      exact .same _

/-! ## 2. What is sent -/

/-- **Two calls send one text just if they are one operation with the same arguments**, or ask for
the value of one channel, unless a text among their arguments holds a semicolon. -/
theorem text_sent_eq_iff {c c' : Call Float}
    (hc : ∀ text ∈ c.texts, fieldSeparator ∉ text.toList)
    (hc' : ∀ text ∈ c'.texts, fieldSeparator ∉ text.toList) {link link' l l' : Link}
    {s s' : Surroundings Float} {q q' : Request Float}
    (hsent : (s.history (c.action link).run).sent = [(l, q)])
    (hsent' : (s'.history (c'.action link').run).sent = [(l', q')]) :
    q.text = q'.text ↔
      c.SameOperation c' ∨ ∃ channel, c.reading? = some channel ∧ c'.reading? = some channel := by
  rw [request_eq hsent, request_eq hsent', ← agrees_instruction_iff]
  exact Instruction.text_eq_iff hc hc'

/-- Surroundings that answer every request with an empty reply. -/
def blank : Surroundings Float := .answering fun _ _ _ => {}

/-- Setting a follower by an expression is told from removing it. -/
theorem text_sent_eq_iff_follower :
    (Request.instruct (.setFollower 1 2 "2*x") : Request Float).text ≠
      (Request.instruct (.removeFollower 1) : Request Float).text := by
  intro htext
  have hset : (blank.history (action .remote (give (.setFollower 1 2 "2*x"))).run).sent =
      [(.remote, .instruct (.setFollower 1 2 "2*x"))] := rfl
  have hremove : (blank.history (action .remote (give (.removeFollower 1))).run).sent =
      [(.remote, .instruct (.removeFollower 1))] := rfl
  rcases (text_sent_eq_iff (by decide) (by decide) hset hremove).mp htext with
    hsame | ⟨channel, hread, -⟩
  · cases hsame with
    | give h =>
      cases h with
      | output hi hj htext => cases hi
  · cases hread

/-- **The value of a channel and the whole reading are asked for by one text.** -/
theorem text_sent_by_two_readings :
    (blank.history (action .remote (give (.readChannel 1))).run).sent =
        (blank.history (action .remote (channelValue 1)).run).sent ∧
      (blank.history (action .remote (channelValue 1)).run).sent =
        [(.remote, .instruct (.readChannel 1))] ∧
      ¬ SameOperation (give (.readChannel 1)) (channelValue 1 : Call Float) := by
  refine ⟨rfl, rfl, ?_⟩
  intro h
  cases h

end LabControl.Call
