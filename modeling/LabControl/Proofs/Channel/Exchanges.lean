/-
# One request in flight on each channel

Whatever the schedule of the tasks on a connection, each channel has at most one request whose
task still waits, a task goes on with a reply only if it came for the task's own request, and a
request that was given up or has failed brings no reply to anyone and leaves the slot free.  The
last reply of a channel is that of the exchange which ended last with one
(`Tasks.orderly_after`).

What carries this is that a task keeps the slot of its channel from before its request is sent
until it goes on or is dropped (`Consistent.holder`), and that the log of the requests stays sound
(`Consistent.sound`).  The log is no account of its own: each act notes the text that the far side
was given on that link, and the reply that came back at once (`Recorded`).
-/
import LabControl.Proofs.Channel.Log
import LabControl.Proofs.Channel.Polling
import LabControl.Proofs.Exclusion

namespace LabControl

variable {ν σ : Type} {α : Nat → Type}

/-! ## 1. The channels of a connection -/

namespace Connection

variable {c c' : Connection σ} {link other : Link}

theorem channel_withChannel (channel : Channel) :
    (c.withChannel link channel).channel other =
      if other = link then channel else c.channel other := by
  cases link <;> cases other <;> rfl

@[simp] theorem channel_withEcho (e : Echo) :
    (c.withEcho link e).channel other = c.channel other := by
  unfold withEcho
  split
  · cases other <;> rfl
  · cases other <;> rfl

theorem channel_release :
    (c.release link).channel other =
      if other = link then (c.channel link).release else c.channel other :=
  channel_withChannel _

theorem busy_release : ((c.release link).channel other).busy =
    if other = link then false else (c.channel other).busy := by
  rw [channel_release, apply_ite Channel.busy]
  rfl

theorem lastReply_release :
    ((c.release link).channel other).lastReply = (c.channel other).lastReply := by
  rw [channel_release]
  split
  · next h => rw [h, Channel.release]
  · rfl

theorem isSome_claim?_iff : (c.claim? link).isSome ↔ (c.channel link).busy = false := by
  cases hbusy : (c.channel link).busy <;> simp [claim?, Channel.claim?, hbusy]

/-- The slot of a link is taken if it is free, and nothing else changes on the channels. -/
theorem claim?_eq_some (h : c.claim? link = some c') :
    (c.channel link).busy = false ∧ ∀ other, c'.channel other =
      if other = link then { c.channel link with busy := true } else c.channel other := by
  have hfree := isSome_claim?_iff.mp (Option.isSome_of_eq_some h)
  have hclaim : c.withChannel link { c.channel link with busy := true } = c' := by
    simpa [claim?, Channel.claim?, hfree] using h
  exact ⟨hfree, fun other => by rw [← hclaim, channel_withChannel]⟩

@[simp] theorem channel_announce (text : String) :
    (c.announce link text).2.channel other = c.channel other :=
  channel_withEcho _

@[simp] theorem channel_hand (w : World ν σ) (text : String) :
    (c.hand w link text).2.channel other = c.channel other := by
  cases other <;> rfl

@[simp] theorem far_announce (text : String) : (c.announce link text).2.far = c.far :=
  far_withEcho link _

@[simp] theorem far_settle (came : Except ControlError String) :
    (c.settle link came).2.far = c.far := by
  unfold settle
  split
  · exact far_release link
  · split
    · rw [far_release, far_withEcho]
    · rw [far_withChannel, far_withEcho]

/-- An exchange ends by what came back, and with the slot free; the channel remembers a reply and
forgets nothing for a fault. -/
theorem settle_spec (c : Connection σ) (link : Link) (came : Except ControlError String) :
    Tasks.Tells came (c.settle link came).1 ∧
      ∀ other, (c.settle link came).2.channel other =
        if other = link then
          { busy := false
            lastReply := (c.settle link came).1.toOption.getD (c.channel link).lastReply }
        else c.channel other := by
  rcases came with error | text
  · refine ⟨⟨by rintro _ ⟨⟩; rfl, by rintro _ ⟨⟩⟩, fun other => ?_⟩
    simp [settle, channel_release, Channel.release, Except.toOption]
  · rcases hecho : (c.echo link).reply text with ⟨error | _, e⟩
    · refine ⟨⟨by rintro _ ⟨⟩, by simp [settle, hecho]⟩, fun other => ?_⟩
      simp [settle, hecho, channel_release, Channel.release, Except.toOption]
    · refine ⟨⟨by rintro _ ⟨⟩, by rintro reply h; simp [settle, hecho] at h; simp [← h]⟩,
        fun other => ?_⟩
      simp [settle, hecho, channel_withChannel, Channel.complete, Except.toOption]

end Connection

namespace Tasks

/-! ## 2. What holds at every moment -/

/-- A task has the slot of a link. -/
def HasSlot (link : Link) (task : Nat) (stage : Stage ν (α task)) : Prop :=
  stage.link? = some link

/-- **What holds of the tasks at every moment.** -/
structure Consistent (s : Tasks ν σ α) : Prop where
  /-- The slot of a channel is taken while a task has it, and by that task alone. -/
  holder : ∀ link, Guarded (s.connection.channel link).busy (HasSlot link) s.stage
  /-- A channel remembers the reply that was received last on it. -/
  last : ∀ link, (s.connection.channel link).lastReply = lastReceived link s.log
  /-- A task whose request is in flight has sent it, and it is not over. -/
  flying : ∀ task n call, s.stage task = .sent n call →
    .sent n task call.link call.text ∈ s.log ∧ ∀ e ∈ s.log, e.ends n = false
  /-- A request that is not over is in flight. -/
  awaited : ∀ n task link text, .sent n task link text ∈ s.log →
    (∀ e ∈ s.log, e.ends n = false) → ∃ call, s.stage task = .sent n call ∧ call.link = link
  /-- Numbers are given out in their order. -/
  numbered : ∀ e ∈ s.log, e.number < s.handed
  sound : Sound s.log

variable {s : Tasks ν σ α} {task : Nat} {stage : Stage ν (α task)} {c : Connection σ}

theorem consistent_start (c : Connection σ) (programs : (task : Nat) → Program ν (α task)) :
    Consistent (start c programs) where
  holder link :=
    { taken_iff := by cases link <;> simp [start, Connection.channel, HasSlot, Stage.link?]
      single := fun n m h => by simp [start, HasSlot, Stage.link?] at h }
  last link := by cases link <;> rfl
  flying task n call h := by simp [start] at h
  awaited n task link text h := by cases h
  numbered e h := by cases h
  sound := .nil

theorem Consistent.isSome_claim?_iff (h : Consistent s) (link : Link) :
    (s.connection.claim? link).isSome ↔ ∀ task, (s.stage task).link? ≠ some link := by
  rw [Connection.isSome_claim?_iff, ← Bool.not_eq_true, (h.holder link).taken_iff, not_exists]
  rfl

/-- **At most one request is awaited on a channel**: whoever waits has the slot. -/
theorem Consistent.awaited_unique (h : Consistent s) {link : Link} {n m : Nat}
    (hn : Awaited s.log link n) (hm : Awaited s.log link m) : n = m := by
  obtain ⟨⟨task, text, hsent⟩, hopen⟩ := hn
  obtain ⟨⟨task', text', hsent'⟩, hopen'⟩ := hm
  obtain ⟨call, hstage, hlink⟩ := h.awaited n task link text hsent hopen
  obtain ⟨call', hstage', hlink'⟩ := h.awaited m task' link text' hsent' hopen'
  have hslot : HasSlot link task (s.stage task) := by rw [HasSlot, hstage, ← hlink]; rfl
  have hslot' : HasSlot link task' (s.stage task') := by rw [HasSlot, hstage', ← hlink']; rfl
  obtain rfl := (h.holder link).single task task' hslot hslot'
  rw [hstage] at hstage'
  cases hstage'
  rfl

/-- A task without a slot has no request in flight. -/
theorem Stage.ne_sent_of_link?_eq_none (h : stage.link? = none) (n : Nat)
    (call : Call ν (α task)) : stage ≠ .sent n call := by
  rintro rfl
  cases h

/-- The slot that a task gives back is free, and the other is as it was. -/
theorem Consistent.give_back (h : Consistent s) {link : Link}
    (hheld : (s.stage task).link? = some link) (hstage : stage.link? = none)
    (hbusy : ∀ other, (c.channel other).busy =
      if other = link then false else (s.connection.channel other).busy) (other : Link) :
    Guarded (c.channel other).busy (HasSlot other) (Function.update s.stage task stage) := by
  rw [hbusy other]
  by_cases hother : other = link
  · subst hother
    rw [if_pos rfl]
    exact (h.holder other).release hheld _ (by simp [HasSlot, hstage])
  · rw [if_neg hother]
    exact (h.holder other).keep _ (by simp [HasSlot, hheld, hstage, Ne.symm hother])

/-- A task goes on with no request in flight before or after. -/
theorem Consistent.move (h : Consistent s)
    (hholder : ∀ link, Guarded (c.channel link).busy (HasSlot link)
      (Function.update s.stage task stage))
    (hlast : ∀ link, (c.channel link).lastReply = (s.connection.channel link).lastReply)
    (hbefore : ∀ n call, s.stage task ≠ .sent n call) (hafter : ∀ n call, stage ≠ .sent n call) :
    Consistent ({ s with connection := c }.put task stage) := by
  refine { holder := hholder, last := fun link => (hlast link).trans (h.last link), flying := ?_,
           awaited := ?_, numbered := h.numbered, sound := h.sound }
  · intro u n call hu
    by_cases hut : u = task
    · subst hut
      exact absurd (by simpa [put] using hu) (hafter n call)
    · exact h.flying u n call (by simpa [put, Function.update_of_ne hut] using hu)
  · intro n u link text hsent hends
    obtain ⟨call, hu, hlink⟩ := h.awaited n u link text hsent hends
    have hut : u ≠ task := by
      rintro rfl
      exact hbefore n call hu
    exact ⟨call, by simpa [put, Function.update_of_ne hut] using hu, hlink⟩

/-- A task goes on with its request over. -/
theorem Consistent.finish (h : Consistent s) {n : Nat} {call : Call ν (α task)}
    (hstage : s.stage task = .sent n call) (hafter : stage.link? = none) {e : Event}
    (hends : ∀ m, e.ends m = true ↔ m = n) (hnumber : e.number = n)
    (hsends : ∀ m task' link text, e ≠ .sent m task' link text) (hfollows : e.Follows s.log)
    (hlast : ∀ link, (c.channel link).lastReply = lastReceived link (e :: s.log))
    (hbusy : ∀ other, (c.channel other).busy =
      if other = call.link then false else (s.connection.channel other).busy) :
    Consistent ({ s with connection := c, log := e :: s.log }.put task stage) := by
  obtain ⟨hsent, -⟩ := h.flying task n call hstage
  refine { holder := h.give_back (by rw [hstage]; rfl) hafter hbusy, last := hlast, flying := ?_,
           awaited := ?_, numbered := ?_, sound := .cons hfollows h.sound }
  · intro u m call' hu
    by_cases hut : u = task
    · subst hut
      exact absurd (by simpa [put] using hu) (Stage.ne_sent_of_link?_eq_none hafter m call')
    · obtain ⟨hsent', hopen⟩ :=
        h.flying u m call' (by simpa [put, Function.update_of_ne hut] using hu)
      -- two tasks have not sent their requests under one number
      have hmn : m ≠ n := by
        rintro rfl
        exact hut (h.sound.sent_unique hsent' hsent).1
      have he : e.ends m = false := by simpa [hmn] using mt (hends m).mp hmn
      exact ⟨List.mem_cons_of_mem _ hsent', by simpa [put, he] using hopen⟩
  · intro m u link text hmem hopen
    have hopen' := List.forall_mem_cons.mp hopen
    have hmn : m ≠ n := by
      rintro rfl
      simpa [(hends m).mpr rfl] using hopen'.1
    have hold := (List.mem_cons.mp hmem).resolve_left (Ne.symm (hsends m u link text))
    obtain ⟨call', hu, hlink⟩ := h.awaited m u link text hold hopen'.2
    have hut : u ≠ task := by
      rintro rfl
      rw [hstage] at hu
      cases hu
      exact hmn rfl
    exact ⟨call', by simpa [put, Function.update_of_ne hut] using hu, hlink⟩
  · intro e' he'
    rcases List.mem_cons.mp he' with rfl | hold
    · exact hnumber ▸ h.numbered _ hsent
    · exact h.numbered e' hold

/-- A request is handed over under a number that no event has had. -/
theorem Consistent.hand (h : Consistent s) {call : Call ν (α task)}
    (hstage : s.stage task = .granted call)
    (hc : ∀ link, c.channel link = s.connection.channel link) :
    Consistent
      ({ s with
          connection := c
          handed := s.handed + 1
          log := .sent s.handed task call.link call.text :: s.log }.put
        task (.sent s.handed call)) := by
  refine { holder := ?_, last := ?_, flying := ?_, awaited := ?_, numbered := ?_,
           sound := .cons h.numbered h.sound }
  · intro link
    simpa only [hc, put] using (h.holder link).keep _ (by rw [HasSlot, HasSlot, hstage]; rfl)
  · intro link
    simpa only [hc, put, lastReceived] using h.last link
  · intro u m call' hu
    by_cases hut : u = task
    · -- the number is new, so nothing that has happened ends this request
      subst hut
      obtain ⟨rfl, rfl⟩ : s.handed = m ∧ call = call' := by simpa [put] using hu
      refine ⟨List.mem_cons_self, List.forall_mem_cons.mpr ⟨rfl, fun e he => ?_⟩⟩
      exact Event.ends_eq_false_of_lt (h.numbered e he)
    · obtain ⟨hsent, hopen⟩ :=
        h.flying u m call' (by simpa [put, Function.update_of_ne hut] using hu)
      exact ⟨List.mem_cons_of_mem _ hsent, List.forall_mem_cons.mpr ⟨rfl, hopen⟩⟩
  · intro m u link text hmem hopen
    rcases List.mem_cons.mp hmem with hnew | hold
    · cases hnew
      exact ⟨call, by simp [put], rfl⟩
    · obtain ⟨call', hu, hlink⟩ :=
        h.awaited m u link text hold (List.forall_mem_cons.mp hopen).2
      have hut : u ≠ task := by
        rintro rfl
        rw [hstage] at hu
        cases hu
      exact ⟨call', by simpa [put, Function.update_of_ne hut] using hu, hlink⟩
  · intro e he
    rcases List.mem_cons.mp he with rfl | hold
    · exact Nat.lt_succ_self _
    · exact Nat.lt_succ_of_lt (h.numbered e hold)

/-- Something comes back for a request, for which nothing had come back. -/
theorem Consistent.answer (h : Consistent s) {n : Nat} (hn : n < s.handed)
    (hnew : s.log.findSome? (Event.answerTo? n) = none) (came : Except ControlError String) :
    Consistent { s with log := .answered n came :: s.log } := by
  refine { holder := h.holder, last := h.last, flying := ?_, awaited := ?_, numbered := ?_,
           sound := .cons (List.findSome?_eq_none_iff.mp hnew) h.sound }
  · intro u m call hu
    obtain ⟨hsent, hopen⟩ := h.flying u m call hu
    exact ⟨List.mem_cons_of_mem _ hsent, List.forall_mem_cons.mpr ⟨rfl, hopen⟩⟩
  · intro m u link text hmem hopen
    have hold : .sent m u link text ∈ s.log := by simpa using hmem
    exact h.awaited m u link text hold (List.forall_mem_cons.mp hopen).2
  · exact List.forall_mem_cons.mpr ⟨hn, h.numbered⟩

/-! ## 3. What one act keeps -/

theorem Consistent.claim (h : Consistent s) {call : Call ν (α task)}
    (hbefore : (s.stage task).link? = none) : Consistent (s.claim task call) := by
  unfold Tasks.claim
  cases hclaim : s.connection.claim? call.link with
  | none => exact h
  | some c =>
    obtain ⟨hfree, hc⟩ := Connection.claim?_eq_some hclaim
    refine h.move ?_ ?_ (Stage.ne_sent_of_link?_eq_none hbefore) (by simp)
    · intro link
      rw [hc link]
      by_cases hlink : link = call.link
      · subst hlink
        rw [if_pos rfl]
        exact (hfree ▸ h.holder call.link).take _ rfl
      · rw [if_neg hlink]
        refine (h.holder link).keep _ ?_
        rw [HasSlot, HasSlot, hbefore]
        simp [Stage.link?, Ne.symm hlink]
    · intro link
      rw [hc link]
      split
      · next hlink => rw [hlink]
      · rfl

/-- A task that has sent nothing gives its slot back. -/
theorem Consistent.leave (h : Consistent s) {call : Call ν (α task)}
    (hgranted : s.stage task = .granted call)
    (hc : ∀ link, c.channel link = s.connection.channel link) (hstage : stage.link? = none) :
    Consistent ({ s with connection := c }.leave task call.link stage) := by
  have hheld : (s.stage task).link? = some call.link := by rw [hgranted]; rfl
  refine h.move (h.give_back hheld hstage ?_) ?_ (by simp [hgranted])
    (Stage.ne_sent_of_link?_eq_none hstage)
  · intro other
    rw [Connection.busy_release, hc]
  · intro link
    rw [Connection.lastReply_release, hc]

theorem Consistent.send (h : Consistent s) {w : World ν σ} {call : Call ν (α task)}
    (hgranted : s.stage task = .granted call) : Consistent (s.send w task call) := by
  have hannounced : ∀ link, (s.connection.announce call.link call.text).2.channel link =
      s.connection.channel link := fun link => Connection.channel_announce _
  rcases hannounce : s.connection.announce call.link call.text with ⟨error | _, c⟩
  · rw [hannounce] at hannounced
    simpa only [Tasks.send, hannounce] using h.leave hgranted hannounced rfl
  · rw [hannounce] at hannounced
    have hsent := h.hand hgranted (c := (c.hand w call.link call.text).2) fun link =>
      (Connection.channel_hand w _).trans (hannounced link)
    rcases hhand : c.hand w call.link call.text with ⟨came | _, c'⟩
    · rw [hhand] at hsent
      have hnew : ∀ e ∈ s.log, e.answerTo? s.handed = none := by
        intro e he
        have hlt := h.numbered e he
        cases e with
        | answered m => exact if_neg (Nat.ne_of_lt hlt)
        | sent | received | givenUp => rfl
      have hanswered := hsent.answer (Nat.lt_succ_self _)
        (List.findSome?_eq_none_iff.mpr (List.forall_mem_cons.mpr ⟨rfl, hnew⟩)) came
      simp only [Tasks.send, hannounce, hhand]
      exact hanswered
    · rw [hhand] at hsent
      simpa only [Tasks.send, hannounce, hhand] using hsent

theorem Consistent.receive (h : Consistent s) {n : Nat} {call : Call ν (α task)}
    (hstage : s.stage task = .sent n call) {came : Except ControlError String}
    (hcame : s.log.findSome? (Event.answerTo? n) = some came) :
    Consistent (s.receive task n call came) := by
  obtain ⟨hsent, hopen⟩ := h.flying task n call hstage
  obtain ⟨htells, hchannel⟩ := Connection.settle_spec s.connection call.link came
  have hmem : .answered n came ∈ s.log := by
    obtain ⟨e, he, hanswer⟩ := List.exists_of_findSome?_eq_some hcame
    cases e with
    | answered m came' =>
      obtain ⟨rfl, rfl⟩ : m = n ∧ came' = came := by simpa [Event.answerTo?] using hanswer
      exact he
    | sent | received | givenUp => cases hanswer
  refine h.finish hstage rfl (fun m => Event.ends_received_iff) rfl (by simp)
    ⟨hopen, hsent, came, hmem, htells⟩ ?_ ?_
  · intro link
    rw [hchannel link, lastReceived]
    by_cases hlink : link = call.link
    · subst hlink
      rw [if_pos rfl, if_pos rfl, h.last call.link]
    · rw [if_neg hlink, if_neg (Ne.symm hlink), h.last link]
  · intro other
    rw [hchannel other]
    split
    · rfl
    · rfl

theorem Consistent.giveUp (h : Consistent s) {n : Nat} {call : Call ν (α task)}
    (hstage : s.stage task = .sent n call) (hafter : stage.link? = none) :
    Consistent (s.giveUp task n call.link stage) := by
  obtain ⟨-, hopen⟩ := h.flying task n call hstage
  refine h.finish hstage hafter (fun m => Event.ends_givenUp_iff) rfl (by simp) hopen ?_ ?_
  · intro link
    rw [Connection.lastReply_release, lastReceived, h.last link]
  · exact fun other => Connection.busy_release

/-- A task goes on, and neither it nor a channel has to do with a slot. -/
theorem Consistent.go_on (h : Consistent s) (hbefore : (s.stage task).link? = none)
    (stage : Stage ν (α task)) (hafter : stage.link? = none)
    (hc : ∀ link, c.channel link = s.connection.channel link) :
    Consistent ({ s with connection := c }.put task stage) := by
  refine h.move ?_ (fun link => by rw [hc link]) (Stage.ne_sent_of_link?_eq_none hbefore)
    (Stage.ne_sent_of_link?_eq_none hafter)
  intro link
  rw [hc link]
  exact (h.holder link).keep _ (by simp [HasSlot, hbefore, hafter])

theorem Consistent.work (h : Consistent s) {w : World ν σ} {rest : Program ν (α task)}
    (hbefore : (s.stage task).link? = none) : Consistent (s.work w task rest) := by
  cases rest with
  | done | exchange | await => exact h
  | publish state next =>
    exact h.go_on hbefore _ rfl fun link => by cases link <;> rfl
  | inspect token next => exact h.go_on hbefore _ rfl fun link => rfl
  | sleep link seconds next =>
    exact h.go_on hbefore _ rfl fun link => by cases link <;> rfl

variable [Quantity ν]

theorem Consistent.advance (h : Consistent s) {w : World ν σ} : Consistent (s.advance w task) := by
  cases hstage : s.stage task with
  | ready rest =>
    have hbefore : (s.stage task).link? = none := by rw [hstage]; rfl
    cases hcall : Call.of? rest with
    | none => simpa only [Tasks.advance, hstage, hcall] using h.work hbefore
    | some call =>
      simp only [Tasks.advance, hstage, hcall]
      split
      · exact h.go_on hbefore (.ready call.cancelled) rfl fun link => rfl
      · exact h.claim hbefore
  | granted call =>
    simp only [Tasks.advance, hstage]
    split
    · exact h.leave hstage (fun link => rfl) rfl
    · exact h.send hstage
  | sent n call =>
    cases hcame : s.log.findSome? (Event.answerTo? n) with
    | none => simpa only [Tasks.advance, hstage, hcame] using h
    | some came => simpa only [Tasks.advance, hstage, hcame] using h.receive hstage hcame
  | dropped => simpa only [Tasks.advance, hstage] using h

/-- **One act keeps the tasks consistent.** -/
theorem Consistent.act (h : Consistent s) (w : World ν σ) (a : Act σ) :
    Consistent (s.act w a) := by
  cases a with
  | advance task => exact h.advance
  | cancel task =>
    cases hstage : s.stage task with
    | ready | granted | dropped => simpa only [Tasks.act, hstage] using h
    | sent n call =>
      simp only [Tasks.act, hstage]
      split
      · exact h.giveUp hstage rfl
      · exact h
  | drop task =>
    cases hstage : s.stage task with
    | ready | dropped =>
      simp only [Tasks.act, hstage]
      exact h.go_on (by rw [hstage]; rfl) .dropped rfl fun link => rfl
    | granted call =>
      simp only [Tasks.act, hstage]
      exact h.leave hstage (fun link => rfl) rfl
    | sent n call =>
      simp only [Tasks.act, hstage]
      exact h.giveUp hstage rfl
  | answer n came =>
    by_cases hnew : n < s.handed ∧ s.log.findSome? (Event.answerTo? n) = none
    · simpa only [Tasks.act, if_pos hnew] using h.answer hnew.1 hnew.2 came
    · simpa only [Tasks.act, if_neg hnew] using h
  | elsewhere c =>
    have hsame : ∀ link, Connection.channel
        { c with remote := s.connection.remote, trigger := s.connection.trigger } link =
          s.connection.channel link := by
      intro link
      cases link <;> rfl
    exact { h with
      holder := fun link => by simpa only [Tasks.act, hsame] using h.holder link
      last := fun link => by simpa only [Tasks.act, hsame] using h.last link }

/-- The tasks are consistent after any schedule. -/
theorem consistent_after (w : World ν σ) (c : Connection σ)
    (programs : (task : Nat) → Program ν (α task)) (schedule : List (Act σ)) :
    Consistent ((start c programs).after w schedule) := by
  have hrun : ∀ s : Tasks ν σ α, Consistent s → Consistent (s.after w schedule) := by
    induction schedule with
    | nil => exact fun s h => h
    | cons a schedule ih => exact fun s h => ih _ (h.act w a)
  exact hrun _ (consistent_start c programs)

/-! ## 4. What callers may rely on -/

/-- The task that an act is about. -/
def Act.task? : Act σ → Option Nat
  | advance task | cancel task | drop task => some task
  | answer .. | elsewhere _ => none

/-- How a task may come on that is about to make a call or makes it: it still does, it is dropped,
or it has a result, and a reply only if that is what has just been received. -/
def ComesOn (before after : List Event) (task : Nat) (call : Call ν (α task))
    (stage : Stage ν (α task)) : Prop :=
  stage.call? = some call ∨ stage = .dropped ∨
    ∃ result, stage = .ready (call.next result) ∧ ∀ reply, result = .ok reply →
      ∃ n, after = .received n task call.link call.text (.ok reply) :: before

/-- **What an act does to the task that it is about**, and it does nothing to the others. -/
structure Moves (s : Tasks ν σ α) (task : Nat) (s' : Tasks ν σ α) : Prop where
  others : ∀ other, other ≠ task → s'.stage other = s.stage other
  comesOn : ∀ call, (s.stage task).call? = some call →
    ComesOn s.log s'.log task call (s'.stage task)

theorem moves_refl (s : Tasks ν σ α) (task : Nat) : Moves s task s where
  others _ _ := rfl
  comesOn _ h := .inl h

theorem moves_put {s' : Tasks ν σ α} (hstage : s'.stage = s.stage)
    (h : ∀ call, (s.stage task).call? = some call → ComesOn s.log s'.log task call stage) :
    Moves s task (s'.put task stage) where
  others other hne := by
    rw [← hstage]
    exact Function.update_of_ne hne _ _
  comesOn call hcall := by simpa [put] using h call hcall

/-- A task with a call comes on to another stage. -/
theorem moves_call {s' : Tasks ν σ α} {call : Call ν (α task)}
    (hcall : (s.stage task).call? = some call) (hstage : s'.stage = s.stage)
    (h : ComesOn s.log s'.log task call stage) : Moves s task (s'.put task stage) := by
  refine moves_put hstage fun call' hcall' => ?_
  obtain rfl : call = call' := Option.some.inj (hcall.symm.trans hcall')
  exact h

/-- A call that ends with an error ends without a reply. -/
theorem comesOn_error {before after : List Event} {call : Call ν (α task)} (error : ControlError) :
    ComesOn before after task call (.ready (call.next (.error error))) :=
  .inr (.inr ⟨.error error, rfl, by simp⟩)

theorem moves_work {w : World ν σ} {rest : Program ν (α task)} (hstage : s.stage task = .ready rest)
    (hrest : Call.of? rest = none) : Moves s task (s.work w task rest) := by
  have hnone : ∀ call, (s.stage task).call? ≠ some call := by
    simp [hstage, Stage.call?, hrest]
  cases rest with
  | done | exchange | await => exact moves_refl s task
  | publish | inspect | sleep => exact moves_put rfl fun call hcall => absurd hcall (hnone call)

theorem moves_advance (w : World ν σ) (s : Tasks ν σ α) (task : Nat) :
    Moves s task (s.advance w task) := by
  cases hstage : s.stage task with
  | ready rest =>
    cases hrest : Call.of? rest with
    | none => simpa only [advance, hstage, hrest] using moves_work hstage hrest
    | some call =>
      have hcall : (s.stage task).call? = some call := by rw [hstage]; exact hrest
      simp only [advance, hstage, hrest]
      split
      · exact moves_call hcall rfl (comesOn_error _)
      · unfold claim
        split
        · exact moves_refl s task
        · exact moves_call hcall rfl (.inl rfl)
  | granted call =>
    have hcall : (s.stage task).call? = some call := by rw [hstage]; rfl
    simp only [advance, hstage]
    split
    · exact moves_call hcall rfl (comesOn_error _)
    · unfold send
      split
      · exact moves_call hcall rfl (comesOn_error _)
      · split
        · exact moves_call hcall rfl (.inl rfl)
        · exact moves_call hcall rfl (.inl rfl)
  | sent n call =>
    have hcall : (s.stage task).call? = some call := by rw [hstage]; rfl
    simp only [advance, hstage]
    split
    · exact moves_refl s task
    · exact moves_call hcall rfl
        (.inr (.inr ⟨_, rfl, fun reply hreply => ⟨n, by rw [← hreply]⟩⟩))
  | dropped => simpa only [advance, hstage] using moves_refl s task

theorem moves_act (w : World ν σ) (s : Tasks ν σ α) {a : Act σ} (h : a.task? = some task) :
    Moves s task (s.act w a) := by
  cases a with
  | advance u =>
    obtain rfl : u = task := by simpa [Act.task?] using h
    exact moves_advance w s u
  | cancel u =>
    obtain rfl : u = task := by simpa [Act.task?] using h
    cases hstage : s.stage u with
    | ready | granted | dropped => simpa only [act, hstage] using moves_refl s u
    | sent n call =>
      simp only [act, hstage]
      split
      · exact moves_call (by rw [hstage]; rfl) rfl (comesOn_error _)
      · exact moves_refl s u
  | drop u =>
    obtain rfl : u = task := by simpa [Act.task?] using h
    cases hstage : s.stage u with
    | ready | granted | sent | dropped =>
      simp only [act, hstage]
      exact moves_put rfl fun call _ => .inr (.inl rfl)
  | answer | elsewhere => cases h

/-- An act that is about no task leaves all of them where they were. -/
theorem stage_act_of_task?_eq_none (w : World ν σ) (s : Tasks ν σ α) {a : Act σ}
    (h : a.task? = none) : (s.act w a).stage = s.stage := by
  cases a with
  | advance | cancel | drop => cases h
  | answer n came =>
    simp only [act]
    split
    · rfl
    · rfl
  | elsewhere c => rfl

/-- An act leaves the tasks that it is not about where they were. -/
theorem stage_act_of_ne (w : World ν σ) (s : Tasks ν σ α) {a : Act σ} (h : a.task? ≠ some task) :
    (s.act w a).stage task = s.stage task := by
  cases ha : a.task? with
  | none => rw [stage_act_of_task?_eq_none w s ha]
  | some u =>
    have hne : task ≠ u := by
      rintro rfl
      exact h ha
    exact (moves_act w s ha).others task hne

/-- A task that is about to make a call or makes it comes on with it whatever happens next. -/
theorem comesOn_act (w : World ν σ) (s : Tasks ν σ α) (a : Act σ) {call : Call ν (α task)}
    (hcall : (s.stage task).call? = some call) :
    ComesOn s.log (s.act w a).log task call ((s.act w a).stage task) := by
  by_cases ha : a.task? = some task
  · exact (moves_act w s ha).comesOn call hcall
  · exact .inl (by rw [stage_act_of_ne w s ha, hcall])

/-- A task that stops having a slot leaves nobody with it. -/
theorem Consistent.accepts (h : Consistent s) (w : World ν σ) (a : Act σ) {link : Link}
    (hbefore : (s.stage task).link? = some link)
    (hafter : ((s.act w a).stage task).link? = none) :
    ((s.act w a).connection.claim? link).isSome := by
  have ha : a.task? = some task := by
    by_contra hne
    rw [stage_act_of_ne w s hne, hbefore] at hafter
    cases hafter
  refine ((h.act w a).isSome_claim?_iff link).mpr fun other hother => ?_
  by_cases hne : other = task
  · subst hne
    rw [hafter] at hother
    cases hother
  · rw [(moves_act w s ha).others other hne] at hother
    exact hne ((h.holder link).single other task hother hbefore)

/-- A call whose token has fired is cancelled before it sends anything. -/
theorem advance_fired {w : World ν σ} {call : Call ν (α task)}
    (hcall : (s.stage task).call? = some call) (hsent : ∀ n, s.stage task ≠ .sent n call)
    (hfired : call.fired w s.connection.far = true) :
    (s.advance w task).log = s.log ∧
      (s.advance w task).stage task = .ready call.cancelled := by
  cases hstage : s.stage task with
  | ready rest =>
    have hrest : Call.of? rest = some call := by simpa [hstage, Stage.call?] using hcall
    simp [advance, hstage, hrest, hfired, put]
  | granted call' =>
    obtain rfl : call' = call := by simpa [hstage, Stage.call?] using hcall
    simp [advance, hstage, hfired, leave, put]
  | sent n call' =>
    obtain rfl : call' = call := by simpa [hstage, Stage.call?] using hcall
    exact absurd hstage (hsent n)
  | dropped => simp [hstage, Stage.call?] at hcall

/-- The world goes from one state to another without a request. -/
inductive Idles (w : World ν σ) : σ → σ → Prop where
  | rests (far : σ) : Idles w far far
  | publishes (state : Sweep.State ν) (far : σ) : Idles w far (w.publish state far)
  | sleeps (link : Link) (seconds : ν) (far : σ) : Idles w far (w.sleep link seconds far).2

/-- **How an act is recorded.**  A request counts as sent just when a task whose turn it is has the
world receive its text on its link, and a reply counts as come when the world gives it at once or
the act brings it. -/
inductive Recorded (w : World ν σ) (s : Tasks ν σ α) (a : Act σ) (s' : Tasks ν σ α) : Prop where
  /-- No request is handed over, nothing comes, and no request is over. -/
  | unchanged (hlog : s'.log = s.log) (hfar : Idles w s.connection.far s'.connection.far)
  /-- Nor when something else changes. -/
  | elsewhere (c : Connection σ) (ha : a = .elsewhere c) (hlog : s'.log = s.log)
  /-- A request is over. -/
  | over (e : Event) (hends : e.ends e.number = true) (hlog : s'.log = e :: s.log)
      (hfar : s'.connection.far = s.connection.far)
  /-- The act brings what comes back. -/
  | brought (n : Nat) (came : Except ControlError String) (ha : a = .answer n came)
      (hlog : s'.log = .answered n came :: s.log) (hfar : s'.connection.far = s.connection.far)
  /-- The world receives a request. -/
  | pending (task : Nat) (call : Call ν (α task)) (ha : a = .advance task)
      (hstage : s.stage task = .granted call)
      (hreceive : w.receive call.link call.text s.connection.far = (.pending, s'.connection.far))
      (hlog : s'.log = .sent s.handed task call.link call.text :: s.log)
  /-- The world receives a request and something comes back at once. -/
  | answered (task : Nat) (call : Call ν (α task)) (came : Except ControlError String)
      (ha : a = .advance task) (hstage : s.stage task = .granted call)
      (hreceive : w.receive call.link call.text s.connection.far =
        (.answered came, s'.connection.far))
      (hlog : s'.log = .answered s.handed came :: .sent s.handed task call.link call.text :: s.log)

omit [Quantity ν] in
theorem recorded_send {w : World ν σ} {call : Call ν (α task)}
    (hstage : s.stage task = .granted call) :
    Recorded w s (.advance task) (s.send w task call) := by
  have hfar : (s.connection.announce call.link call.text).2.far = s.connection.far :=
    Connection.far_announce call.text
  rcases hannounce : s.connection.announce call.link call.text with ⟨error | _, c⟩
  · simp only [hannounce] at hfar
    refine .unchanged (by simp [send, hannounce, leave, put]) ?_
    have hsent : (s.send w task call).connection.far = s.connection.far := by
      simp [send, hannounce, leave, put, hfar]
    rw [hsent]
    exact .rests _
  · simp only [hannounce] at hfar
    rcases hreceive : w.receive call.link call.text s.connection.far with ⟨came | _, far⟩
    · refine .answered task call came rfl hstage ?_ ?_
      · simp [send, hannounce, Connection.hand, hfar, hreceive, put]
      · simp [send, hannounce, Connection.hand, hfar, hreceive, put]
    · refine .pending task call rfl hstage ?_ ?_
      · simp [send, hannounce, Connection.hand, hfar, hreceive, put]
      · simp [send, hannounce, Connection.hand, hfar, hreceive, put]

omit [Quantity ν] in
theorem recorded_work (w : World ν σ) (a : Act σ) (rest : Program ν (α task)) :
    Recorded w s a (s.work w task rest) := by
  cases rest with
  | done | exchange | await | inspect => exact .unchanged rfl (.rests _)
  | publish state next => exact .unchanged rfl (.publishes state _)
  | sleep link seconds next => exact .unchanged rfl (.sleeps link seconds _)

omit [Quantity ν] in
theorem recorded_claim (w : World ν σ) (a : Act σ) (call : Call ν (α task)) :
    Recorded w s a (s.claim task call) := by
  unfold claim
  split
  · exact .unchanged rfl (.rests _)
  · next c hclaim =>
    refine .unchanged rfl ?_
    change Idles w s.connection.far c.far
    rw [far_of_claim? hclaim]
    exact .rests _

omit [Quantity ν] in
theorem recorded_leave (w : World ν σ) (a : Act σ) (link : Link) (stage : Stage ν (α task)) :
    Recorded w s a (s.leave task link stage) := by
  refine .unchanged rfl ?_
  change Idles w s.connection.far (s.connection.release link).far
  rw [Connection.far_release]
  exact .rests _

omit [Quantity ν] in
theorem recorded_giveUp (w : World ν σ) (a : Act σ) (n : Nat) (link : Link)
    (stage : Stage ν (α task)) : Recorded w s a (s.giveUp task n link stage) :=
  .over (.givenUp n) (by simp [Event.ends, Event.number]) rfl (Connection.far_release link)

omit [Quantity ν] in
theorem recorded_receive (w : World ν σ) (a : Act σ) (n : Nat) (call : Call ν (α task))
    (came : Except ControlError String) : Recorded w s a (s.receive task n call came) :=
  .over (.received n task call.link call.text (s.connection.settle call.link came).1)
    (by simp [Event.ends, Event.number]) rfl (Connection.far_settle came)

theorem recorded_advance (w : World ν σ) (s : Tasks ν σ α) (task : Nat) :
    Recorded w s (.advance task) (s.advance w task) := by
  cases hstage : s.stage task with
  | ready rest =>
    cases hcall : Call.of? rest with
    | none => simpa only [advance, hstage, hcall] using recorded_work w _ rest
    | some call =>
      simp only [advance, hstage, hcall]
      split
      · exact .unchanged rfl (.rests _)
      · exact recorded_claim w _ call
  | granted call =>
    simp only [advance, hstage]
    split
    · exact recorded_leave w _ call.link _
    · exact recorded_send hstage
  | sent n call =>
    simp only [advance, hstage]
    split
    · exact .unchanged rfl (.rests _)
    · next came _ => exact recorded_receive w _ n call came
  | dropped => simpa only [advance, hstage] using .unchanged rfl (.rests _)

/-- **Every act is recorded**, and what is recorded is what the world was given and gave. -/
theorem recorded_act (w : World ν σ) (s : Tasks ν σ α) (a : Act σ) :
    Recorded w s a (s.act w a) := by
  cases a with
  | advance task => exact recorded_advance w s task
  | cancel task =>
    cases hstage : s.stage task with
    | ready | granted | dropped => simpa only [act, hstage] using .unchanged rfl (.rests _)
    | sent n call =>
      simp only [act, hstage]
      split
      · exact recorded_giveUp w _ n call.link _
      · exact .unchanged rfl (.rests _)
  | drop task =>
    cases hstage : s.stage task with
    | ready | dropped => simpa only [act, hstage] using .unchanged rfl (.rests _)
    | granted call => simpa only [act, hstage] using recorded_leave w _ call.link .dropped
    | sent n call => simpa only [act, hstage] using recorded_giveUp w _ n call.link .dropped
  | answer n came =>
    simp only [act]
    split
    · exact .brought n came rfl rfl rfl
    · exact .unchanged rfl (.rests _)
  | elsewhere c => exact .elsewhere c rfl rfl

/-- **What the channels promise to any number of callers.** -/
structure Orderly (w : World ν σ) (s : Tasks ν σ α) : Prop where
  /-- On each channel at most one request is awaited. -/
  single : ∀ link n m, Awaited s.log link n → Awaited s.log link m → n = m
  /-- A reply that a task goes on with is what came back for the request that the task sent, and
  nothing else came back for it. -/
  paired : ∀ n task link text reply, .received n task link text (.ok reply) ∈ s.log →
    (∀ task' link' text', .sent n task' link' text' ∈ s.log ↔
      task' = task ∧ link' = link ∧ text' = text) ∧
    ∀ came, .answered n came ∈ s.log ↔ came = .ok reply.text
  /-- What is recorded as sent is what the world receives, and what is recorded as come is what the
  world gives, at once or later. -/
  recorded : ∀ a, Recorded w s a (s.act w a)
  /-- A task goes on from a call with a reply only when it has just been received. -/
  heard : ∀ a task call, (s.stage task).call? = some call →
    ComesOn s.log (s.act w a).log task call ((s.act w a).stage task)
  /-- A request is over once at most, by a result or without one. -/
  once : ∀ n, (s.log.filter (Event.ends n)).length ≤ 1
  /-- A task that is dropped or cancelled in flight gives its request up. -/
  givesUp : ∀ task n call, s.stage task = .sent n call →
    (s.act w (.drop task)).log = .givenUp n :: s.log ∧
      (call.fired w s.connection.far = true →
        (s.act w (.cancel task)).log = .givenUp n :: s.log)
  /-- Nobody gets the result of a request that was given up. -/
  silent : ∀ n, .givenUp n ∈ s.log →
    ∀ task link text result, .received n task link text result ∉ s.log
  /-- Nobody gets a reply to a request that has failed. -/
  faulted : ∀ n error, .answered n (.error error) ∈ s.log →
    ∀ task link text result, .received n task link text result ∈ s.log → result = .error error
  /-- A channel accepts a request unless a task has its slot. -/
  free : ∀ link, (s.connection.claim? link).isSome ↔ ∀ task, (s.stage task).link? ≠ some link
  /-- However a task stops having a slot, the channel accepts the next request. -/
  accepts : ∀ a task link, (s.stage task).link? = some link →
    ((s.act w a).stage task).link? = none → ((s.act w a).connection.claim? link).isSome
  /-- The last reply of a channel is the one that was received last on it. -/
  last : ∀ link, (s.connection.channel link).lastReply = lastReceived link s.log
  /-- A call whose token has fired before its request is sent is cancelled and sends nothing. -/
  skipped : ∀ task call, (s.stage task).call? = some call → (∀ n, s.stage task ≠ .sent n call) →
    call.fired w s.connection.far = true →
    (s.act w (.advance task)).log = s.log ∧
      (s.act w (.advance task)).stage task = .ready call.cancelled

/-- **Channels are orderly under every schedule** of the tasks that use them, whatever their
programs and the world; and what a connection does with a program is what a task does. -/
theorem orderly_after (w : World ν σ) (c : Connection σ)
    (programs : (task : Nat) → Program ν (α task)) (schedule : List (Act σ)) :
    let s := (start c programs).after w schedule
    Orderly w s ∧ ∀ task, Polled w s task := by
  have h := consistent_after w c programs schedule
  generalize (start c programs).after w schedule = s at h
  have hpolled : ∀ task, Polled w s task := fun task =>
    polled w fun n call hstage => h.numbered _ (h.flying task n call hstage).1
  have horderly : Orderly w s :=
    { single := fun link n m => h.awaited_unique
      paired := fun n task link text reply => h.sound.paired
      recorded := recorded_act w s
      heard := fun a task call => comesOn_act w s a
      once := fun n => h.sound.filter_length_le_one (Event.ends_of_follows n)
      givesUp := fun task n call hstage =>
        ⟨by simp [act, hstage, giveUp, leave, put],
          fun hfired => by simp [act, hstage, hfired, giveUp, leave, put]⟩
      silent := fun n hgiven task link text result => h.sound.not_received_of_givenUp hgiven
      faulted := fun n error hfault task link text result => h.sound.eq_error_of_fault hfault
      free := h.isSome_claim?_iff
      accepts := fun a task link => h.accepts w a
      last := h.last
      skipped := fun task call => advance_fired }
  exact ⟨horderly, hpolled⟩

/-- Two callers of one channel: the second gets the slot when the first is dropped in flight, and
a late reply to the first reaches nobody. -/
example :
    let w : World Float Unit :=
      { receive := fun _ _ s => (.pending, s), sleep := fun _ _ s => (.ok true, s)
        publish := fun _ s => s, hasFired := fun _ _ => false }
    let text (task : Nat) : String := if task = 0 then "first" else "second"
    let tasks := start { far := () } fun task => .exchange .remote (.verbatim (text task)) .done
    (tasks.after w [.advance 0, .advance 0, .advance 1, .drop 0, .advance 1, .advance 1,
        .answer 0 (.ok "late"), .answer 1 (.ok "reply"), .advance 1]).log =
      [.received 1 1 .remote "second" (.ok ⟨"reply"⟩), .answered 1 (.ok "reply"),
        .answered 0 (.ok "late"), .sent 1 1 .remote "second", .givenUp 0,
        .sent 0 0 .remote "first"] := rfl

end Tasks

end LabControl
