/-
# Runs of actions

An action is a program that may end with an error, so its runs end with an `Except`.  The lemmas
here take a `do` block apart: a run of a sequence either breaks off with the error of its first
part or goes on with its value, and a call of the client is one occurrence.
-/
import LabControl.Client
import LabControl.Proofs.History

namespace LabControl

variable {ν α β : Type} [Quantity ν]

/-- The action can meet this history and end with this result. -/
def Action.Runs (x : Action ν α) (t : History ν) (r : Except ControlError α) : Prop :=
  Program.Runs x.run t r

namespace Action

variable {t : History ν}

/-! ## 1. Sequence -/

@[simp] theorem runs_pure {a : α} {r : Except ControlError α} :
    Runs (pure a : Action ν α) t r ↔ t = [] ∧ r = .ok a := Iff.rfl

@[simp] theorem runs_throw {e : ControlError} {r : Except ControlError α} :
    Runs (throw e : Action ν α) t r ↔ t = [] ∧ r = .error e := Iff.rfl

@[simp] theorem runs_settle {a : Except ControlError α} {r : Except ControlError α} :
    Runs (settle a : Action ν α) t r ↔ t = [] ∧ r = a := Iff.rfl

/-- **A run of a sequence** breaks off in its first part, or goes on with the value of the first
part. -/
theorem runs_bind {x : Action ν α} {f : α → Action ν β} {r : Except ControlError β} :
    Runs (x >>= f) t r ↔
      (∃ e, Runs x t (.error e) ∧ r = .error e) ∨
        ∃ a t₁ t₂, Runs x t₁ (.ok a) ∧ Runs (f a) t₂ r ∧ t = t₁ ++ t₂ := by
  have hbind : (x >>= f).run = x.run.bind (ExceptT.bindCont f) := rfl
  rw [Runs, hbind, Program.runs_bind]
  constructor
  · rintro ⟨e | a, t₁, t₂, h₁, h₂, rfl⟩
    · obtain ⟨rfl, rfl⟩ := h₂
      exact .inl ⟨e, by rw [List.append_nil]; exact h₁, rfl⟩
    · exact .inr ⟨a, t₁, t₂, h₁, h₂, rfl⟩
  · rintro (⟨e, h, rfl⟩ | ⟨a, t₁, t₂, h₁, h₂, rfl⟩)
    · exact ⟨.error e, t, [], h, ⟨rfl, rfl⟩, by simp⟩
    · exact ⟨.ok a, t₁, t₂, h₁, h₂, rfl⟩

/-- A run of an action whose value is changed. -/
theorem runs_map {x : Action ν α} {f : α → β} {r : Except ControlError β} :
    Runs (do let a ← x; pure (f a)) t r ↔ ∃ a, Runs x t a ∧ r = a.map f := by
  rw [runs_bind]
  constructor
  · rintro (⟨e, h, rfl⟩ | ⟨a, t₁, t₂, h, ⟨rfl, rfl⟩, rfl⟩)
    · exact ⟨.error e, h, rfl⟩
    · exact ⟨.ok a, by rwa [List.append_nil], rfl⟩
  · rintro ⟨e | a, h, rfl⟩
    · exact .inl ⟨e, h, rfl⟩
    · exact .inr ⟨a, t, [], h, ⟨rfl, rfl⟩, (List.append_nil t).symm⟩

omit [Quantity ν] in
/-- A lifted program is followed by what is done with its result. -/
theorem run_lift_bind (p : Program ν α) (f : α → Action ν β) :
    (ExceptT.lift p >>= f).run = p.bind fun a => (f a).run := by
  change (p.bind fun a => .done (.ok a)).bind (ExceptT.bindCont f) = _
  rw [Program.bind_assoc]
  rfl

/-- A lifted program hands on what it ends with. -/
theorem runs_lift_bind {p : Program ν α} {f : α → Action ν β} {r : Except ControlError β} :
    Runs (ExceptT.lift p >>= f) t r ↔ ∃ a t₁ t₂, p.Runs t₁ a ∧ Runs (f a) t₂ r ∧ t = t₁ ++ t₂ := by
  rw [Runs, run_lift_bind]
  exact Program.runs_bind _ _ _ _

/-- An attempt hands on what the action ended with, an error included. -/
theorem runs_attempt_bind {x : Action ν α} {f : Except ControlError α → Action ν β}
    {r : Except ControlError β} :
    Runs (attempt x >>= f) t r ↔ ∃ a t₁ t₂, Runs x t₁ a ∧ Runs (f a) t₂ r ∧ t = t₁ ++ t₂ :=
  runs_lift_bind

theorem runs_publish_bind {state : Sweep.State ν} {f : Unit → Action ν β}
    {r : Except ControlError β} :
    Runs (publish state >>= f) t r ↔ ∃ u, t = .published state :: u ∧ Runs (f ()) u r := Iff.rfl

theorem runs_fired_bind {token : Token} {f : Bool → Action ν β} {r : Except ControlError β} :
    Runs (fired token >>= f) t r ↔ ∃ b u, t = .inspected token b :: u ∧ Runs (f b) u r := Iff.rfl

@[simp] theorem runs_publish {state : Sweep.State ν} {r : Except ControlError Unit} :
    Runs (publish state) t r ↔ t = [.published state] ∧ r = .ok () := by
  constructor
  · rintro ⟨u, rfl, rfl, rfl⟩
    exact ⟨rfl, rfl⟩
  · rintro ⟨rfl, rfl⟩
    exact ⟨_, rfl, rfl, rfl⟩

theorem runs_await {token : Token} {i : Instruction ν} {r : Except ControlError Reply} :
    Runs (Action.await token i) t r ↔
      (∃ d, t = [.awaited token i d] ∧ r = told d) ∨
        ∃ o : Occurrence ν, o.Cancels token i ∧ t = [o] ∧ r = .error (.cancelled i.name) := by
  constructor
  · rintro (⟨d, u, rfl, rfl, rfl⟩ | ⟨o, u, ho, rfl, rfl, rfl⟩)
    · exact .inl ⟨d, rfl, rfl⟩
    · exact .inr ⟨o, ho, rfl, rfl⟩
  · rintro (⟨d, rfl, rfl⟩ | ⟨o, ho, rfl, rfl⟩)
    · exact .inl ⟨d, _, rfl, rfl, rfl⟩
    · exact .inr ⟨o, _, ho, rfl, rfl, rfl⟩

theorem runs_sleep {link : Link} {seconds : ν} {r : Except ControlError Bool} :
    Runs (Action.sleep link seconds) t r ↔ ∃ d, t = [.slept link seconds d] ∧ r = told d := by
  constructor
  · rintro ⟨d, u, rfl, rfl, rfl⟩
    exact ⟨d, rfl, rfl⟩
  · rintro ⟨d, rfl, rfl⟩
    exact ⟨d, _, rfl, rfl, rfl⟩

end Action

/-! ## 2. Calls of the client -/

namespace Client

open LabControl.Action

variable {t : History ν}

/-- A call of one request: what its answer is made of is told. -/
theorem runs_ask {link : Link} {i : Instruction ν} {r : Except ControlError Reply} :
    Runs (ask link i) t r ↔ ∃ d, t = [.exchanged link (.instruct i) d] ∧ r = told d := by
  constructor
  · rintro ⟨d, u, rfl, rfl, rfl⟩
    exact ⟨d, rfl, rfl⟩
  · rintro ⟨d, rfl, rfl⟩
    exact ⟨d, _, rfl, rfl, rfl⟩

/-- A call of one request that takes its answer from the reply. -/
theorem runs_ask_map {link : Link} {i : Instruction ν} {f : Reply → α}
    {r : Except ControlError α} :
    Runs (do let reply ← ask link i; pure (f reply)) t r ↔
      ∃ d, t = [.exchanged link (.instruct i) d] ∧ r = (told d).map f := by
  simp only [runs_map, runs_ask]
  constructor
  · rintro ⟨_, ⟨d, rfl, rfl⟩, rfl⟩
    exact ⟨d, rfl, rfl⟩
  · rintro ⟨d, rfl, rfl⟩
    exact ⟨_, ⟨d, rfl, rfl⟩, rfl⟩

theorem runs_check {link : Link} {i : Instruction ν} {r : Except ControlError Bool} :
    Runs (check link i) t r ↔ ∃ d, t = [.exchanged link (.instruct i) d] ∧
      r = (told d).map fun reply => reply.acknowledges i.command := runs_ask_map

theorem runs_readChannel {channel : Nat} {r : Except ControlError (ChannelReading ν)} :
    Runs (readChannel channel) t r ↔
      ∃ d, t = [.exchanged .remote (.instruct (.readChannel channel)) d] ∧
        r = (told d).map Reply.channelReading := runs_ask_map

theorem runs_setVar {line : String} {r : Except ControlError Bool} :
    Runs (setVar line : Action ν Bool) t r ↔
      ∃ d, t = [.exchanged .remote (.instruct (.setVar line)) d] ∧
        r = (told d).map Reply.assigned := runs_ask_map

theorem runs_getVar {name : String} {r : Except ControlError String} :
    Runs (getVar name : Action ν String) t r ↔
      ∃ d, t = [.exchanged .remote (.instruct (.getVar name)) d] ∧
        r = (told d).map Reply.variableText := runs_ask_map

theorem runs_clearBuffer {confirm resetTime : Bool} {r : Except ControlError Reply} :
    Runs (clearBuffer confirm resetTime : Action ν Reply) t r ↔
      ∃ d, t = [.exchanged .remote (.instruct (.clearBuffer confirm resetTime)) d] ∧
        r = told d := runs_ask

/-- A wait that takes its answer from the reply. -/
theorem runs_await_map {token : Token} {i : Instruction ν} {f : Reply → α}
    {r : Except ControlError α} :
    Runs (do let reply ← Action.await token i; pure (f reply)) t r ↔
      (∃ d, t = [.awaited token i d] ∧ r = (told d).map f) ∨
        ∃ o : Occurrence ν, o.Cancels token i ∧ t = [o] ∧ r = .error (.cancelled i.name) := by
  simp only [runs_map, runs_await]
  constructor
  · rintro ⟨_, ⟨d, rfl, rfl⟩ | ⟨o, ho, rfl, rfl⟩, rfl⟩
    · exact .inl ⟨d, rfl, rfl⟩
    · exact .inr ⟨o, ho, rfl, rfl⟩
  · rintro (⟨d, rfl, rfl⟩ | ⟨o, ho, rfl, rfl⟩)
    · exact ⟨_, .inl ⟨d, rfl, rfl⟩, rfl⟩
    · exact ⟨_, .inr ⟨o, ho, rfl, rfl⟩, rfl⟩

/-- **A wait** is answered, or its link fails, or it is cancelled, before it is sent or while it
is pending. -/
theorem runs_wait {token : Token} {i : Instruction ν} {r : Except ControlError Bool} :
    Runs (wait token i) t r ↔
      (∃ d, t = [.awaited token i d] ∧
        r = (told d).map fun reply => reply.acknowledges i.command) ∨
      ∃ o : Occurrence ν, o.Cancels token i ∧ t = [o] ∧ r = .error (.cancelled i.name) :=
  runs_await_map

end Client

end LabControl
