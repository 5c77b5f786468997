/-
# Histories

A program says what it does after every answer, and its surroundings give the answers.  What
passes between the two is a *history*: one occurrence for each request, wait, sleep, published
state and look at a token, in order.

A program `Runs` along a history to a result when each of its requests is followed by something
that can come back for it: any reply, any fault of the link, and for a wait also the cancellation,
before the request is sent or while it is pending.  `Surroundings` choose what comes back, and may
do so by all that happened before; they single out one run of each program (`run_runs`), and every
run is singled out by some surroundings (`exists_surroundings`).  So a statement about every run
of a program is a statement about every backend and every moment at which a token fires.
-/
import LabControl.Program

namespace LabControl

variable {ν α β : Type}

/-! ## 1. What can happen -/

/-- A failure of a link: any error but a cancellation, which only a token brings about. -/
abbrev Fault : Type := { error : ControlError // error.isCancelled = false }

/-- A link that cannot deliver. -/
def Fault.transport (detail : String) : Fault := ⟨.transport detail, rfl⟩

/-- What a link delivers for a request: a reply, or its failure. -/
abbrev Delivery : Type := Except Fault Reply

/-- What a program is told when a link answers or fails. -/
def told : Except Fault α → Except ControlError α
  | .ok a => .ok a
  | .error fault => .error fault.val

/-- A fault is not told as a cancellation. -/
theorem told_ne_cancelled (r : Except Fault α) (operation : String) :
    told r ≠ .error (.cancelled operation) := by
  rcases r with ⟨error, h⟩ | a
  · intro he
    cases he
    exact Bool.noConfusion h
  · intro he
    cases he

/-- One thing that happens between a program and its surroundings. -/
inductive Occurrence (ν : Type) where
  /-- A request was sent, and this came back for it. -/
  | exchanged (link : Link) (request : Request ν) (delivery : Delivery)
  /-- A waiting instruction was sent, and this came back for it. -/
  | awaited (token : Token) (instruction : Instruction ν) (delivery : Delivery)
  /-- A waiting instruction was sent, and its token fired before anything came back. -/
  | gaveUp (token : Token) (instruction : Instruction ν)
  /-- A waiting instruction was not sent, since its token had fired. -/
  | skipped (token : Token) (instruction : Instruction ν)
  /-- A time was slept, unless it could not be or the link failed. -/
  | slept (link : Link) (seconds : ν) (result : Except Fault Bool)
  /-- A state of the engine was published. -/
  | published (state : Sweep.State ν)
  /-- A token was looked at. -/
  | inspected (token : Token) (fired : Bool)

/-- What happened, in order. -/
abbrev History (ν : Type) : Type := List (Occurrence ν)

/-! ## 2. What a history shows -/

namespace Occurrence

/-- An instruction was sent on the remote link, and this came back for it. -/
abbrev ordered (i : Instruction ν) (d : Delivery) : Occurrence ν :=
  .exchanged .remote (.instruct i) d

/-- The request that was handed to a link, and the link. -/
def sent? : Occurrence ν → Option (Link × Request ν)
  | exchanged link request _ => some (link, request)
  | awaited _ instruction _ | gaveUp _ instruction => some (.remote, .instruct instruction)
  | skipped .. | slept .. | published _ | inspected .. => none

/-- The reply that arrived. -/
def reply? : Occurrence ν → Option Reply
  | exchanged _ _ (.ok reply) | awaited _ _ (.ok reply) => some reply
  | _ => none

/-- The failure of a link. -/
def fault? : Occurrence ν → Option Fault
  | exchanged _ _ (.error fault) | awaited _ _ (.error fault) | slept _ _ (.error fault) =>
    some fault
  | _ => none

/-- The state that was published. -/
def state? : Occurrence ν → Option (Sweep.State ν)
  | published state => some state
  | _ => none

/-- The wait for an instruction was cancelled, before it was sent or while it was pending. -/
def Cancels (o : Occurrence ν) (token : Token) (i : Instruction ν) : Prop :=
  o = .gaveUp token i ∨ o = .skipped token i

/-- Nothing failed and no wait was cancelled. -/
def Smooth : Occurrence ν → Prop
  | gaveUp .. | skipped .. => False
  | o => o.fault? = none

theorem Smooth.fault?_eq_none {o : Occurrence ν} (h : o.Smooth) : o.fault? = none := by
  cases o with
  | gaveUp token i => exact h.elim
  | skipped token i => exact h.elim
  | exchanged link request delivery => exact h
  | awaited token i delivery => exact h
  | slept link seconds result => exact h
  | published state => rfl
  | inspected token fired => rfl

end Occurrence

namespace History

/-- The requests that were sent, each with its link. -/
def sent (t : History ν) : List (Link × Request ν) := t.filterMap Occurrence.sent?

/-- The replies that arrived. -/
def replies (t : History ν) : List Reply := t.filterMap Occurrence.reply?

/-- The states that were published. -/
def states (t : History ν) : List (Sweep.State ν) := t.filterMap Occurrence.state?

/-- Nothing failed and no wait was cancelled in a history. -/
def Smooth (t : History ν) : Prop := ∀ o ∈ t, o.Smooth

variable (o : Occurrence ν) (t u : History ν)

@[simp] theorem sent_nil : sent ([] : History ν) = [] := rfl

@[simp] theorem sent_append : sent (t ++ u) = sent t ++ sent u := List.filterMap_append

theorem sent_cons : sent (o :: t) = o.sent?.toList ++ sent t := by
  cases h : o.sent? <;> simp [sent, h]

@[simp] theorem replies_nil : replies ([] : History ν) = [] := rfl

@[simp] theorem replies_append : replies (t ++ u) = replies t ++ replies u :=
  List.filterMap_append

theorem replies_cons : replies (o :: t) = o.reply?.toList ++ replies t := by
  cases h : o.reply? <;> simp [replies, h]

@[simp] theorem states_nil : states ([] : History ν) = [] := rfl

@[simp] theorem states_append : states (t ++ u) = states t ++ states u :=
  List.filterMap_append

theorem states_cons : states (o :: t) = o.state?.toList ++ states t := by
  cases h : o.state? <;> simp [states, h]

@[simp] theorem smooth_nil : Smooth ([] : History ν) := by simp [Smooth]

@[simp] theorem smooth_cons : Smooth (o :: t) ↔ o.Smooth ∧ Smooth t := by simp [Smooth]

@[simp] theorem smooth_append : Smooth (t ++ u) ↔ Smooth t ∧ Smooth u := by
  simp [Smooth, or_imp, forall_and]

variable {t}

/-- **Where nothing fails, every request has its reply.** -/
theorem Smooth.length_replies (h : Smooth t) : (replies t).length = (sent t).length := by
  induction t with
  | nil => rfl
  | cons o t ih =>
    obtain ⟨ho, ht⟩ := (smooth_cons o t).mp h
    have hone : o.reply?.toList.length = o.sent?.toList.length := by
      match o, ho with
      | .exchanged _ _ (.ok _), _ | .awaited _ _ (.ok _), _ => rfl
      | .slept _ _ (.ok _), _ | .published _, _ | .inspected _ _, _ => rfl
    rw [replies_cons, sent_cons, List.length_append, List.length_append, hone, ih ht]

end History

/-- Instructions as they are sent on the remote link. -/
def remotely (is : List (Instruction ν)) : List (Link × Request ν) :=
  is.map fun i => (.remote, .instruct i)

@[simp] theorem remotely_nil : remotely ([] : List (Instruction ν)) = [] := rfl

@[simp] theorem remotely_cons (i : Instruction ν) (is : List (Instruction ν)) :
    remotely (i :: is) = (.remote, .instruct i) :: remotely is := rfl

@[simp] theorem remotely_append (is js : List (Instruction ν)) :
    remotely (is ++ js) = remotely is ++ remotely js := List.map_append

/-! ## 3. Runs -/

variable [Quantity ν]

/-- **The program can meet this history and end with this result.** -/
def Program.Runs : Program ν α → History ν → α → Prop
  | .done a, t, b => t = [] ∧ b = a
  | .exchange link request next, t, b =>
    ∃ d u, t = .exchanged link request d :: u ∧ (next (told d)).Runs u b
  | .await token i next, t, b =>
    (∃ d u, t = .awaited token i d :: u ∧ (next (told d)).Runs u b) ∨
      ∃ o u, o.Cancels token i ∧ t = o :: u ∧ (next (.error (.cancelled i.name))).Runs u b
  | .sleep link seconds next, t, b =>
    ∃ r u, t = .slept link seconds r :: u ∧ (next (told r)).Runs u b
  | .publish state next, t, b => ∃ u, t = .published state :: u ∧ next.Runs u b
  | .inspect token next, t, b =>
    ∃ fired u, t = .inspected token fired :: u ∧ (next fired).Runs u b

/-- **A run of a sequence** is a run of its first part and then one of what follows. -/
theorem Program.runs_bind (p : Program ν α) (f : α → Program ν β) (t : History ν) (b : β) :
    (p.bind f).Runs t b ↔ ∃ a t₁ t₂, p.Runs t₁ a ∧ (f a).Runs t₂ b ∧ t = t₁ ++ t₂ := by
  induction p generalizing t with
  | done a =>
    constructor
    · exact fun h => ⟨a, [], t, ⟨rfl, rfl⟩, h, rfl⟩
    · rintro ⟨_, _, t₂, ⟨rfl, rfl⟩, h, rfl⟩
      exact h
  | exchange link request next ih =>
    simp only [bind, Runs, ih]
    constructor
    · rintro ⟨d, u, rfl, a, t₁, t₂, h₁, h₂, rfl⟩
      exact ⟨a, _ :: t₁, t₂, ⟨d, t₁, rfl, h₁⟩, h₂, rfl⟩
    · rintro ⟨a, t₁, t₂, ⟨d, u, rfl, h₁⟩, h₂, rfl⟩
      exact ⟨d, u ++ t₂, rfl, a, u, t₂, h₁, h₂, rfl⟩
  | await token i next ih =>
    simp only [bind, Runs, ih]
    constructor
    · rintro (⟨d, u, rfl, a, t₁, t₂, h₁, h₂, rfl⟩ | ⟨o, u, ho, rfl, a, t₁, t₂, h₁, h₂, rfl⟩)
      · exact ⟨a, _ :: t₁, t₂, .inl ⟨d, t₁, rfl, h₁⟩, h₂, rfl⟩
      · exact ⟨a, o :: t₁, t₂, .inr ⟨o, t₁, ho, rfl, h₁⟩, h₂, rfl⟩
    · rintro ⟨a, t₁, t₂, ⟨d, u, rfl, h₁⟩ | ⟨o, u, ho, rfl, h₁⟩, h₂, rfl⟩
      · exact .inl ⟨d, u ++ t₂, rfl, a, u, t₂, h₁, h₂, rfl⟩
      · exact .inr ⟨o, u ++ t₂, ho, rfl, a, u, t₂, h₁, h₂, rfl⟩
  | sleep link seconds next ih =>
    simp only [bind, Runs, ih]
    constructor
    · rintro ⟨r, u, rfl, a, t₁, t₂, h₁, h₂, rfl⟩
      exact ⟨a, _ :: t₁, t₂, ⟨r, t₁, rfl, h₁⟩, h₂, rfl⟩
    · rintro ⟨a, t₁, t₂, ⟨r, u, rfl, h₁⟩, h₂, rfl⟩
      exact ⟨r, u ++ t₂, rfl, a, u, t₂, h₁, h₂, rfl⟩
  | publish state next ih =>
    simp only [bind, Runs, ih]
    constructor
    · rintro ⟨u, rfl, a, t₁, t₂, h₁, h₂, rfl⟩
      exact ⟨a, _ :: t₁, t₂, ⟨t₁, rfl, h₁⟩, h₂, rfl⟩
    · rintro ⟨a, t₁, t₂, ⟨u, rfl, h₁⟩, h₂, rfl⟩
      exact ⟨u ++ t₂, rfl, a, u, t₂, h₁, h₂, rfl⟩
  | inspect token next ih =>
    simp only [bind, Runs, ih]
    constructor
    · rintro ⟨b, u, rfl, a, t₁, t₂, h₁, h₂, rfl⟩
      exact ⟨a, _ :: t₁, t₂, ⟨b, t₁, rfl, h₁⟩, h₂, rfl⟩
    · rintro ⟨a, t₁, t₂, ⟨b, u, rfl, h₁⟩, h₂, rfl⟩
      exact ⟨b, u ++ t₂, rfl, a, u, t₂, h₁, h₂, rfl⟩

/-! ## 4. Surroundings -/

/-- **What a program meets**: all that may come back, each time by what happened before. -/
structure Surroundings (ν : Type) where
  /-- What comes back for a request. -/
  deliver : History ν → Link → Request ν → Delivery
  /-- Whether a token fires while a waiting instruction is pending, before anything comes
  back. -/
  interrupts : History ν → Token → Instruction ν → Bool
  /-- Whether a token has fired. -/
  fired : History ν → Token → Bool
  /-- What comes of a sleep. -/
  sleep : History ν → Link → ν → Except Fault Bool

namespace Surroundings

/-- What becomes of a waiting instruction after a history. -/
def await (s : Surroundings ν) (past : History ν) (token : Token) (i : Instruction ν) :
    Occurrence ν × Except ControlError Reply :=
  if s.fired past token then (.skipped token i, .error (.cancelled i.name))
  else if s.interrupts past token i then (.gaveUp token i, .error (.cancelled i.name))
  else
    let d := s.deliver past .remote (.instruct i)
    (.awaited token i d, told d)

/-- **The run of a program in its surroundings**, after a history: what happens from there on,
and the result. -/
def run (s : Surroundings ν) : Program ν α → History ν → History ν × α
  | .done a, _ => ([], a)
  | .exchange link request next, past =>
    let d := s.deliver past link request
    let o := .exchanged link request d
    let (t, a) := s.run (next (told d)) (past ++ [o])
    (o :: t, a)
  | .await token i next, past =>
    let (o, r) := s.await past token i
    let (t, a) := s.run (next r) (past ++ [o])
    (o :: t, a)
  | .sleep link seconds next, past =>
    let r := s.sleep past link seconds
    let o := .slept link seconds r
    let (t, a) := s.run (next (told r)) (past ++ [o])
    (o :: t, a)
  | .publish state next, past =>
    let o := .published state
    let (t, a) := s.run next (past ++ [o])
    (o :: t, a)
  | .inspect token next, past =>
    let b := s.fired past token
    let o := .inspected token b
    let (t, a) := s.run (next b) (past ++ [o])
    (o :: t, a)

/-- What happens when a program runs in fresh surroundings. -/
def history (s : Surroundings ν) (p : Program ν α) : History ν := (s.run p []).1

/-- The result of a program in fresh surroundings. -/
def result (s : Surroundings ν) (p : Program ν α) : α := (s.run p []).2

/-- What surroundings do to a program is a run of it. -/
theorem run_runs (s : Surroundings ν) (p : Program ν α) (past : History ν) :
    p.Runs (s.run p past).1 (s.run p past).2 := by
  induction p generalizing past with
  | done a => exact ⟨rfl, rfl⟩
  | exchange link request next ih => exact ⟨_, _, rfl, ih _ _⟩
  | await token i next ih =>
    simp only [run, await, Program.Runs]
    split
    · exact .inr ⟨_, _, .inr rfl, rfl, ih _ _⟩
    · split
      · exact .inr ⟨_, _, .inl rfl, rfl, ih _ _⟩
      · exact .inl ⟨_, _, rfl, ih _ _⟩
  | sleep link seconds next ih => exact ⟨_, _, rfl, ih _ _⟩
  | publish state next ih => exact ⟨_, rfl, ih _⟩
  | inspect token next ih => exact ⟨_, _, rfl, ih _ _⟩

/-- **What surroundings do to a sequence**: the second part meets what the first part left. -/
theorem run_bind (s : Surroundings ν) (p : Program ν α) (f : α → Program ν β)
    (past : History ν) :
    s.run (p.bind f) past =
      ((s.run p past).1 ++ (s.run (f (s.run p past).2) (past ++ (s.run p past).1)).1,
        (s.run (f (s.run p past).2) (past ++ (s.run p past).1)).2) := by
  induction p generalizing past with
  | done a => simp [Program.bind, Surroundings.run]
  | exchange link request next ih => simp [Program.bind, Surroundings.run, ih]
  | await token i next ih => simp [Program.bind, Surroundings.run, ih]
  | sleep link seconds next ih => simp [Program.bind, Surroundings.run, ih]
  | publish state next ih => simp [Program.bind, Surroundings.run, ih]
  | inspect token next ih => simp [Program.bind, Surroundings.run, ih]

/-- The run of a program in fresh surroundings. -/
theorem history_runs (s : Surroundings ν) (p : Program ν α) :
    p.Runs (s.history p) (s.result p) := s.run_runs p []

/-- Surroundings whose links always answer and whose tokens never fire. -/
def answering (answer : History ν → Link → Request ν → Reply) : Surroundings ν where
  deliver past link request := .ok (answer past link request)
  interrupts _ _ _ := false
  fired _ _ := false
  sleep _ _ _ := .ok true

/-- Where links always answer and tokens never fire, nothing fails. -/
theorem smooth_answering (answer : History ν → Link → Request ν → Reply) (p : Program ν α)
    (past : History ν) : History.Smooth ((answering answer).run p past).1 := by
  induction p generalizing past with
  | done a => exact History.smooth_nil
  | exchange link request next ih => exact (History.smooth_cons _ _).mpr ⟨rfl, ih _ _⟩
  | await token i next ih => exact (History.smooth_cons _ _).mpr ⟨rfl, ih _ _⟩
  | sleep link seconds next ih => exact (History.smooth_cons _ _).mpr ⟨rfl, ih _ _⟩
  | publish state next ih => exact (History.smooth_cons _ _).mpr ⟨rfl, ih _⟩
  | inspect token next ih => exact (History.smooth_cons _ _).mpr ⟨rfl, ih _ _⟩

/-- Surroundings that let a given history happen again: each answer is the one at the same
place. -/
def replay (t : History ν) : Surroundings ν where
  deliver past _ _ :=
    match t[past.length]? with
    | some (.exchanged _ _ d) | some (.awaited _ _ d) => d
    | _ => .ok {}
  interrupts past _ _ :=
    match t[past.length]? with
    | some (.gaveUp ..) => true
    | _ => false
  fired past _ :=
    match t[past.length]? with
    | some (.skipped ..) => true
    | some (.inspected _ b) => b
    | _ => false
  sleep past _ _ :=
    match t[past.length]? with
    | some (.slept _ _ r) => r
    | _ => .ok false

/-- A run happens again from any point of the history that is replayed. -/
theorem run_replay {p : Program ν α} {whole past t : History ν} {a : α}
    (hwhole : whole = past ++ t) (h : p.Runs t a) : (replay whole).run p past = (t, a) := by
  induction p generalizing past t with
  | done b =>
    obtain ⟨rfl, rfl⟩ := h
    rfl
  | exchange link request next ih =>
    obtain ⟨d, u, rfl, h⟩ := h
    have hd : (replay whole).deliver past link request = d := by simp [replay, hwhole]
    have hu : (replay whole).run (next (told d)) (past ++ [.exchanged link request d]) = (u, a) :=
      ih _ (by simp [hwhole]) h
    simp only [run, hd, hu]
  | await token i next ih =>
    rcases h with ⟨d, u, rfl, h⟩ | ⟨o, u, rfl | rfl, rfl, h⟩
    · have hd : (replay whole).await past token i = (.awaited token i d, told d) := by
        simp [await, replay, hwhole]
      have hu : (replay whole).run (next (told d)) (past ++ [.awaited token i d]) = (u, a) :=
        ih _ (by simp [hwhole]) h
      simp only [run, hd, hu]
    · have hd : (replay whole).await past token i =
          (.gaveUp token i, .error (.cancelled i.name)) := by
        simp [await, replay, hwhole]
      have hu : (replay whole).run (next (.error (.cancelled i.name)))
          (past ++ [.gaveUp token i]) = (u, a) := ih _ (by simp [hwhole]) h
      simp only [run, hd, hu]
    · have hd : (replay whole).await past token i =
          (.skipped token i, .error (.cancelled i.name)) := by
        simp [await, replay, hwhole]
      have hu : (replay whole).run (next (.error (.cancelled i.name)))
          (past ++ [.skipped token i]) = (u, a) := ih _ (by simp [hwhole]) h
      simp only [run, hd, hu]
  | sleep link seconds next ih =>
    obtain ⟨r, u, rfl, h⟩ := h
    have hr : (replay whole).sleep past link seconds = r := by simp [replay, hwhole]
    have hu : (replay whole).run (next (told r)) (past ++ [.slept link seconds r]) = (u, a) :=
      ih _ (by simp [hwhole]) h
    simp only [run, hr, hu]
  | publish state next ih =>
    obtain ⟨u, rfl, h⟩ := h
    have hu : (replay whole).run next (past ++ [.published state]) = (u, a) :=
      ih (by simp [hwhole]) h
    simp only [run, hu]
  | inspect token next ih =>
    obtain ⟨b, u, rfl, h⟩ := h
    have hb : (replay whole).fired past token = b := by simp [replay, hwhole]
    have hu : (replay whole).run (next b) (past ++ [.inspected token b]) = (u, a) :=
      ih _ (by simp [hwhole]) h
    simp only [run, hb, hu]

/-- **Every run of a program is its run in some surroundings.** -/
theorem exists_surroundings {p : Program ν α} {t : History ν} {a : α} (h : p.Runs t a) :
    ∃ s : Surroundings ν, s.history p = t ∧ s.result p = a := by
  have hrun : (replay t).run p [] = (t, a) := run_replay rfl h
  exact ⟨replay t, by simp [history, hrun], by simp [result, hrun]⟩

end Surroundings

end LabControl
