/-
# What an action may send

An action *keeps* to a property of requests and a property of values when it sends no other
request, whatever comes back, and ends with no other value.  A property of the values is what one
part of an action owes to the next: the text that it reads goes into a later request.

There is one lemma for each way in which programs and actions are put together, so that a proof
about an action has the shape of its definition, and needs no account of its histories.
-/
import LabControl.Proofs.Action

namespace LabControl

variable {ν α β : Type} [Quantity ν] {P : Request ν → Prop} {Q : α → Prop} {R : β → Prop}

/-! ## 1. Programs -/

namespace Program

/-- **Every request that a program can send has one property, and every result another**, whatever
comes back. -/
def Keeps (P : Request ν → Prop) (Q : α → Prop) (p : Program ν α) : Prop :=
  ∀ t a, p.Runs t a → (∀ q ∈ t.sent, P q.2) ∧ Q a

theorem keeps_done {a : α} (h : Q a) : Keeps P Q (.done a) := by
  rintro t b ⟨rfl, rfl⟩
  exact ⟨fun q hq => absurd hq List.not_mem_nil, h⟩

/-- **A sequence keeps to what its parts keep to**, the second on the results of the first. -/
theorem Keeps.bind {p : Program ν α} {f : α → Program ν β} (hp : Keeps P Q p)
    (hf : ∀ a, Q a → Keeps P R (f a)) : Keeps P R (p.bind f) := by
  intro t b h
  obtain ⟨a, t₁, t₂, h₁, h₂, rfl⟩ := (runs_bind p f t b).mp h
  obtain ⟨hsent₁, ha⟩ := hp t₁ a h₁
  obtain ⟨hsent₂, hb⟩ := hf a ha t₂ b h₂
  refine ⟨fun q hq => ?_, hb⟩
  rw [History.sent_append] at hq
  exact (List.mem_append.mp hq).elim (hsent₁ q) (hsent₂ q)

end Program

/-! ## 2. Actions -/

namespace Action

/-- **Every request that an action can send has one property, and every value another.**  It may
end with any error. -/
def Keeps (P : Request ν → Prop) (Q : α → Prop) (x : Action ν α) : Prop :=
  Program.Keeps P (fun r => ∀ a, r = .ok a → Q a) x.run

theorem keeps_iff {x : Action ν α} :
    Keeps P Q x ↔ ∀ t r, Runs x t r → (∀ q ∈ t.sent, P q.2) ∧ ∀ a, r = .ok a → Q a := Iff.rfl

theorem keeps_pure {a : α} (h : Q a) : Keeps P Q (pure a) :=
  Program.keeps_done fun b hb => by
    cases hb
    exact h

theorem keeps_settle {r : Except ControlError α} (h : ∀ a, r = .ok a → Q a) :
    Keeps P Q (settle r) := Program.keeps_done h

theorem keeps_throw {error : ControlError} : Keeps P Q (throw error) :=
  Program.keeps_done fun _ ha => by cases ha

theorem Keeps.bind {x : Action ν α} {f : α → Action ν β} (hx : Keeps P Q x)
    (hf : ∀ a, Q a → Keeps P R (f a)) : Keeps P R (x >>= f) := by
  refine Program.Keeps.bind hx fun r hr => ?_
  rcases r with error | a
  · exact Program.keeps_done fun _ hb => by cases hb
  · exact hf a (hr a rfl)

/-- The value of an action is changed. -/
theorem Keeps.map {x : Action ν α} {f : α → β} (hx : Keeps P Q x) (hf : ∀ a, Q a → R (f a)) :
    Keeps P R (do let a ← x; pure (f a)) := hx.bind fun a ha => keeps_pure (hf a ha)

theorem keeps_lift {p : Program ν α} (h : Program.Keeps P Q p) : Keeps P Q (ExceptT.lift p) :=
  Program.Keeps.bind h fun _ ha => Program.keeps_done fun _ hb => by
    cases hb
    exact ha

theorem Keeps.attempt {x : Action ν α} (h : Keeps P Q x) :
    Keeps P (fun r => ∀ a, r = .ok a → Q a) (Action.attempt x) := keeps_lift h

theorem keeps_publish {state : Sweep.State ν} : Keeps P (fun _ => True) (publish state) := by
  rintro t r ⟨u, rfl, rfl, rfl⟩
  exact ⟨fun q hq => absurd hq List.not_mem_nil, fun _ _ => trivial⟩

theorem keeps_fired {token : Token} : Keeps P (fun _ => True) (fired token : Action ν Bool) := by
  rintro t r ⟨b, u, rfl, rfl, rfl⟩
  exact ⟨fun q hq => absurd hq List.not_mem_nil, fun _ _ => trivial⟩

theorem keeps_sleep {link : Link} {seconds : ν} :
    Keeps P (fun _ => True) (Action.sleep link seconds) := by
  refine keeps_iff.mpr fun t r h => ?_
  obtain ⟨d, rfl, rfl⟩ := runs_sleep.mp h
  exact ⟨fun q hq => absurd hq List.not_mem_nil, fun _ _ => trivial⟩

end Action

/-! ## 3. Calls of the client -/

namespace Client

open LabControl.Action

variable {i : Instruction ν}

theorem keeps_ask {link : Link} (h : P (.instruct i)) :
    Keeps P (fun _ => True) (ask link i) := by
  refine keeps_iff.mpr fun t r hruns => ?_
  obtain ⟨d, rfl, rfl⟩ := runs_ask.mp hruns
  refine ⟨fun q hq => ?_, fun _ _ => trivial⟩
  obtain rfl := List.mem_singleton.mp hq
  exact h

/-- A call that takes its answer from the reply: of the answer is known what holds for every
reply. -/
theorem keeps_ask_map {link : Link} {f : Reply → α} (h : P (.instruct i))
    (hf : ∀ reply, Q (f reply)) :
    Keeps P Q (do let reply ← ask link i; pure (f reply)) :=
  (keeps_ask h).map fun reply _ => hf reply

theorem keeps_check {link : Link} (h : P (.instruct i)) :
    Keeps P (fun _ => True) (check link i) := keeps_ask_map h fun _ => trivial

theorem keeps_wait {token : Token} (h : P (.instruct i)) :
    Keeps P (fun _ => True) (wait token i) := by
  refine keeps_iff.mpr fun t r hruns => ⟨fun q hq => ?_, fun _ _ => trivial⟩
  rcases runs_wait.mp hruns with ⟨d, rfl, -⟩ | ⟨o, rfl | rfl, rfl, -⟩
  · obtain rfl := List.mem_singleton.mp hq
    exact h
  · obtain rfl := List.mem_singleton.mp hq
    exact h
  · exact absurd hq List.not_mem_nil

end Client

end LabControl
