/-
# Polled programs are tasks

A connection runs a program until it ends or waits, and what waits is resumed, answered or given
up later.  Each of these comes down to steps of a task that runs the program (`Polled`), so that
what holds of tasks after every schedule holds of programs that are polled on one connection.
-/
import LabControl.Proofs.Channel.Tasks

namespace LabControl

variable {ν σ β : Type} {α : Nat → Type} [Quantity ν]

namespace Tasks

open Connection (Progress Waiting Exchanged exchange run resume arrive abandon)

variable {w : World ν σ} {s s' s'' : Tasks ν σ α} {task : Nat} {a : Act σ}

/-! ## 1. Steps of one task -/

/-- What some steps of one task may come to. -/
def Reaches (w : World ν σ) (task : Nat) (s s' : Tasks ν σ α) : Prop :=
  ∃ schedule : List (Act σ),
    (∀ a ∈ schedule, a = .advance task ∨ a = .cancel task) ∧ s.after w schedule = s'

theorem Reaches.refl : Reaches w task s s := ⟨[], by simp, rfl⟩

theorem Reaches.trans (h : Reaches w task s s') (h' : Reaches w task s' s'') :
    Reaches w task s s'' := by
  obtain ⟨schedule, hschedule, rfl⟩ := h
  obtain ⟨schedule', hschedule', rfl⟩ := h'
  refine ⟨schedule ++ schedule', ?_, by simp [after]⟩
  intro a ha
  exact (List.mem_append.mp ha).elim (hschedule a) (hschedule' a)

theorem reaches_advance (w : World ν σ) (task : Nat) (s : Tasks ν σ α) :
    Reaches w task s (s.advance w task) :=
  ⟨[.advance task], by simp, rfl⟩

theorem reaches_cancel (w : World ν σ) (task : Nat) (s : Tasks ν σ α) :
    Reaches w task s (s.act w (.cancel task)) :=
  ⟨[.cancel task], by simp, rfl⟩

/-- A task stands where a program came to. -/
def Shows : Progress ν β → Stage ν β → Prop
  | .finished result, stage => stage = .ready (.done result)
  | .blocked (.forSlot rest), stage => stage = .ready rest
  | .blocked (.forReply link token name next), stage =>
    ∃ number text, stage = .sent number { link, text, token, name, next }

/-- By some steps of its own a task comes to where a program came to, with the same connection. -/
def ComesTo (w : World ν σ) (task : Nat) (s : Tasks ν σ α)
    (outcome : Progress ν (α task) × Connection σ) : Prop :=
  ∃ s', Reaches w task s s' ∧ s'.connection = outcome.2 ∧ Shows outcome.1 (s'.stage task)

theorem ComesTo.of_reaches {outcome : Progress ν (α task) × Connection σ}
    (h : Reaches w task s s') (h' : ComesTo w task s' outcome) : ComesTo w task s outcome := by
  obtain ⟨s'', hreaches, hconnection, hshows⟩ := h'
  exact ⟨s'', h.trans hreaches, hconnection, hshows⟩

/-- A task stands where an exchange for its call came to. -/
def ShowsExchange (rest : Program ν β) (call : Call ν β) : Exchanged → Stage ν β → Prop
  | .settled result, stage => stage = .ready (call.next result)
  | .slotTaken, stage => stage = .ready rest
  | .inFlight, stage => ∃ number, stage = .sent number call

/-! ## 2. One exchange -/

theorem far_of_claim? {c c' : Connection σ} {link : Link} (h : c.claim? link = some c') :
    c'.far = c.far := by
  obtain ⟨channel, -, rfl⟩ := Option.map_eq_some_iff.mp h
  cases link <;> rfl

/-- An exchange is what a task does from where it is about to make its call: it takes the slot,
sends the request, and goes on with what comes back at once. -/
theorem exchange_reaches {rest : Program ν (α task)} (hstage : s.stage task = .ready rest)
    (call : Call ν (α task)) (hrest : Call.of? rest = some call)
    (hfired : call.fired w s.connection.far = false) :
    ∃ s', Reaches w task s s' ∧
      s'.connection = (exchange w s.connection call.link call.text).2 ∧
      ShowsExchange rest call (exchange w s.connection call.link call.text).1
        (s'.stage task) := by
  cases hclaim : s.connection.claim? call.link with
  | none =>
    refine ⟨s, .refl, ?_, ?_⟩
    · simp [exchange, hclaim]
    · simp [exchange, hclaim, ShowsExchange, hstage]
  | some c =>
    have hgranted : s.advance w task = { s with connection := c }.put task (.granted call) := by
      simp [advance, hstage, hrest, hfired, claim, hclaim]
    have hsend : ({ s with connection := c }.put task (.granted call)).advance w task =
        ({ s with connection := c }.put task (.granted call)).send w task call := by
      have hfired' : call.fired w c.far = false := by rw [far_of_claim? hclaim, hfired]
      simp [advance, put, hfired']
    have hsent : Reaches w task s
        (({ s with connection := c }.put task (.granted call)).send w task call) :=
      (hgranted ▸ reaches_advance w task s).trans (hsend ▸ reaches_advance w task _)
    rcases hannounce : c.announce call.link call.text with ⟨error | _, c₁⟩
    · refine ⟨_, hsent, ?_, ?_⟩
      · simp [send, put, leave, exchange, hclaim, hannounce]
      · simp [send, put, leave, exchange, hclaim, hannounce, ShowsExchange]
    · rcases hhand : c₁.hand w call.link call.text with ⟨came | _, c₂⟩
      · refine ⟨_, hsent.trans (reaches_advance w task _), ?_, ?_⟩
        · simp [send, put, advance, receive, Event.answerTo?, exchange, hclaim, hannounce, hhand]
        · simp [send, put, advance, receive, Event.answerTo?, exchange, hclaim, hannounce, hhand,
            ShowsExchange]
      · refine ⟨_, hsent, ?_, ?_⟩
        · simp [send, put, exchange, hclaim, hannounce, hhand]
        · simp [send, put, exchange, hclaim, hannounce, hhand, ShowsExchange]

/-- A task whose request is in flight goes on if its token has fired, and waits otherwise. -/
theorem reply_comesTo {number : Nat} {call : Call ν (α task)}
    (hstage : s.stage task = .sent number call)
    (hcancelled : ∀ s' : Tasks ν σ α, s'.stage task = .ready call.cancelled →
      ComesTo w task s' (run w call.cancelled s'.connection)) :
    ComesTo w task s
      (if call.fired w s.connection.far then
        run w call.cancelled (s.connection.release call.link)
      else (.blocked (.forReply call.link call.token call.name call.next), s.connection)) := by
  by_cases hfired : call.fired w s.connection.far = true
  · have hstep := reaches_cancel w task s
    simp only [act, hstage, hfired, if_true, giveUp, leave] at hstep
    rw [if_pos hfired]
    exact .of_reaches hstep (hcancelled _ (stage_put _ _ _))
  · rw [if_neg hfired]
    exact ⟨s, .refl, rfl, number, call.text, hstage⟩

/-! ## 3. Polling -/

/-- **Running a program** comes down to steps of a task that is about to run it. -/
theorem run_comesTo (w : World ν σ) (rest : Program ν (α task)) :
    ∀ s : Tasks ν σ α, s.stage task = .ready rest → ComesTo w task s (run w rest s.connection) := by
  induction rest with
  | done result => exact fun s hstage => ⟨s, .refl, rfl, hstage⟩
  | publish state next ih =>
    intro s hstage
    have hstep := reaches_advance w task s
    simp only [advance, hstage, Call.of?, work] at hstep
    exact .of_reaches hstep (ih _ (stage_put _ _ _))
  | inspect token next ih =>
    intro s hstage
    have hstep := reaches_advance w task s
    simp only [advance, hstage, Call.of?, work] at hstep
    exact .of_reaches hstep (ih _ _ (stage_put _ _ _))
  | sleep link seconds next ih =>
    intro s hstage
    have hstep := reaches_advance w task s
    simp only [advance, hstage, Call.of?, work] at hstep
    exact .of_reaches hstep (ih _ _ (stage_put _ _ _))
  | exchange link request next ih =>
    intro s hstage
    obtain ⟨s₁, hreaches, hconnection, hshows⟩ :=
      exchange_reaches (w := w) hstage ⟨link, request.text, none, request.text, next⟩ rfl rfl
    simp only [run]
    rcases hexchange : exchange w s.connection link request.text with
      ⟨result | _ | _, c⟩ <;> simp only [hexchange] at hconnection hshows ⊢
    · exact .of_reaches hreaches (hconnection ▸ ih result s₁ hshows)
    · exact ⟨s₁, hreaches, hconnection, hshows⟩
    · obtain ⟨number, hsent⟩ := hshows
      exact ⟨s₁, hreaches, hconnection, number, request.text, hsent⟩
  | await token i next ih =>
    intro s hstage
    let call : Call ν (α task) := ⟨.remote, i.text, some token, i.name, next⟩
    by_cases hfired : w.hasFired token s.connection.far = true
    · have hstep := reaches_advance w task s
      simp only [advance, hstage, Call.of?, Call.fired, Option.any_some, hfired, if_true] at hstep
      simp only [run, hfired, if_true]
      exact .of_reaches hstep (ih _ _ (stage_put _ _ _))
    · obtain ⟨s₁, hreaches, hconnection, hshows⟩ :=
        exchange_reaches (w := w) hstage call rfl (by simpa [call, Call.fired] using hfired)
      simp only [run, hfired, call] at hconnection hshows ⊢
      rcases hexchange : exchange w s.connection .remote i.text with
        ⟨result | _ | _, c⟩ <;> simp only [hexchange] at hconnection hshows ⊢
      · exact .of_reaches hreaches (hconnection ▸ ih result s₁ hshows)
      · exact ⟨s₁, hreaches, hconnection, hshows⟩
      · obtain ⟨number, hsent⟩ := hshows
        subst hconnection
        exact .of_reaches hreaches (reply_comesTo hsent (ih _))

/-- **Resuming** what is left of a program comes down to steps of a task that stands there. -/
theorem resume_comesTo (w : World ν σ) {rest : Waiting ν (α task)}
    (h : Shows (.blocked rest) (s.stage task)) :
    ComesTo w task s (resume w rest s.connection) := by
  cases rest with
  | forSlot rest => exact run_comesTo w rest s h
  | forReply link token name next =>
    obtain ⟨number, text, hstage⟩ := h
    exact reply_comesTo hstage (run_comesTo w _)

/-- **A reply or a fault that arrives** is one for the request of the task, which goes on with
it. -/
theorem arrive_comesTo (w : World ν σ) {number : Nat} {call : Call ν (α task)}
    (hstage : s.stage task = .sent number call) (hnumber : number < s.handed)
    (hnew : s.log.findSome? (Event.answerTo? number) = none)
    (came : Except ControlError String) :
    ComesTo w task (s.act w (.answer number came))
      (arrive w came (.forReply call.link call.token call.name call.next) s.connection) := by
  have hanswer : s.act w (.answer number came) =
      { s with log := .answered number came :: s.log } := by
    simp only [act]
    rw [if_pos ⟨hnumber, hnew⟩]
  have hstep := reaches_advance w task (s.act w (.answer number came))
  rw [hanswer] at hstep ⊢
  simp only [advance, hstage, List.findSome?_cons, Event.answerTo?, if_true, receive] at hstep
  exact .of_reaches hstep (run_comesTo w _ _ (stage_put _ _ _))

/-- **Giving up** what is left of a program is dropping its task. -/
theorem connection_drop (w : World ν σ) {rest : Waiting ν (α task)}
    (h : Shows (.blocked rest) (s.stage task)) :
    (s.act w (.drop task)).connection = abandon rest s.connection := by
  cases rest with
  | forSlot rest =>
    have hstage : s.stage task = .ready rest := h
    simp only [act, hstage, put, abandon]
  | forReply link token name next =>
    obtain ⟨number, text, hstage⟩ := h
    simp only [act, hstage, giveUp, leave, put, abandon]

/-- **What a connection does with a program** is what the task of the program does. -/
structure Polled (w : World ν σ) (s : Tasks ν σ α) (task : Nat) : Prop where
  /-- Running a program. -/
  runs : ∀ rest, s.stage task = .ready rest → ComesTo w task s (run w rest s.connection)
  /-- Resuming one that waits. -/
  resumes : ∀ rest, Shows (.blocked rest) (s.stage task) →
    ComesTo w task s (resume w rest s.connection)
  /-- Going on with what arrives. -/
  arrives : ∀ number call came, s.stage task = .sent number call →
    s.log.findSome? (Event.answerTo? number) = none →
    ComesTo w task (s.act w (.answer number came))
      (arrive w came (.forReply call.link call.token call.name call.next) s.connection)
  /-- Giving one up that waits. -/
  abandons : ∀ rest, Shows (.blocked rest) (s.stage task) →
    (s.act w (.drop task)).connection = abandon rest s.connection

theorem polled (w : World ν σ)
    (hnumber : ∀ number call, s.stage task = .sent number call → number < s.handed) :
    Polled w s task where
  runs rest h := run_comesTo w rest s h
  resumes _ h := resume_comesTo w h
  arrives number call came h hnew := arrive_comesTo w h (hnumber number call h) hnew came
  abandons _ h := connection_drop w h

end Tasks

end LabControl
