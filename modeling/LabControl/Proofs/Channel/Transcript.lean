/-
# What an echo writes

An echo observes.  A client that turns it on and off sends the same requests, gets the same
results and remembers the same replies as one that has no echo, and what the stream holds is the
exchanges that were made while the switch was on, and nothing else.

Beyond the echo, with the transports, a record is kept of what was exchanged and when the switch
was turned.  What an echo has written is a function of that record (`Echo.after`), and the
connection of a client without an echo is a function of the connection with it (`muted`).  Both
hold from one request to the next, so the two clients go through the same steps (`KeepsStep`).
-/
import LabControl.Connection
import Mathlib.Logic.Function.Iterate

namespace LabControl

variable {ν σ α : Type}

/-! ## 1. Transports and their record -/

/-- Two links that answer in their own time. -/
structure Transports (ν σ : Type) extends World ν σ where
  /-- What happens next while a request is pending on a link: something comes back for it, or
  something else happens. -/
  next : Link → σ → Option (Except ControlError String) × σ

/-- An entry of a record. -/
inductive Entry where
  /-- The switch of the echo was turned on or off. -/
  | switched (on : Bool)
  /-- A request was sent, and this reply arrived. -/
  | exchanged (link : Link) (text : String) (reply? : Option String)
  deriving DecidableEq, Repr

/-- What happened, the latest first. -/
abbrev Record : Type := List Entry

/-- The reply that something that came back is. -/
def replyOf? : Except ControlError String → Option String
  | .ok reply => some reply
  | .error _ => none

/-- The reply that comes at once. -/
def Reception.reply? : Reception → Option String
  | answered result => replyOf? result
  | pending => none

namespace Record

/-- A reply arrives for the latest exchange. -/
def answer (reply : String) : Record → Record
  | [] => []
  | .switched on :: earlier => .switched on :: answer reply earlier
  | .exchanged link text _ :: earlier => .exchanged link text (some reply) :: earlier

/-- Something comes back for the latest exchange, or nothing does. -/
def come (came : Option (Except ControlError String)) (record : Record) : Record :=
  match came with
  | some (.ok reply) => record.answer reply
  | some (.error _) | none => record

/-- The exchanges of a record. -/
def exchanges : Record → Record
  | [] => []
  | .switched _ :: earlier => exchanges earlier
  | .exchanged link text reply? :: earlier => .exchanged link text reply? :: exchanges earlier

/-- Where the switch stands. -/
def switch (initially : Bool) : Record → Bool
  | [] => initially
  | .switched on :: _ => on
  | .exchanged .. :: earlier => switch initially earlier

/-- **The transcript**: a line for each request that was sent while the switch was on, and one for
its reply if it arrived. -/
def transcript (initially : Bool) : Record → String
  | [] => ""
  | .switched _ :: earlier => transcript initially earlier
  | .exchanged _ text reply? :: earlier =>
    transcript initially earlier ++
      if switch initially earlier then
        "   Command: " ++ text ++ "\n" ++
          match reply? with
          | some reply => "   Reply:   " ++ reply ++ "\n"
          | none => ""
      else ""

/-- A reply arrives for an exchange, wherever the switch was turned. -/
theorem exchanges_answer (reply : String) (record : Record) :
    (record.answer reply).exchanges = record.exchanges.answer reply := by
  fun_induction answer reply record with
  | case1 => rfl
  | case2 on earlier ih => exact ih
  | case3 link text _ earlier => rfl

theorem exchanges_come (came : Option (Except ControlError String)) (record : Record) :
    (record.come came).exchanges = record.exchanges.come came := by
  match came with
  | some (.ok reply) => exact exchanges_answer reply record
  | some (.error _) | none => rfl

theorem come_exchanged (came : Except ControlError String) (link : Link) (text : String)
    (earlier : Record) :
    come (some came) (.exchanged link text none :: earlier) =
      .exchanged link text (replyOf? came) :: earlier := by
  cases came <;> rfl

end Record

/-- The transports with a record. -/
def Transports.recording (t : Transports ν σ) : Transports ν (σ × Record) where
  receive link text s :=
    let (reception, far) := t.receive link text s.1
    (reception, far, .exchanged link text reception.reply? :: s.2)
  sleep link seconds s :=
    let (slept, far) := t.sleep link seconds s.1
    (slept, far, s.2)
  publish state s := (t.publish state s.1, s.2)
  hasFired token s := t.hasFired token s.1
  next link s :=
    let (came, far) := t.next link s.1
    (came, far, s.2.come came)

/-! ## 2. The use of a connection -/

/-- A client's use of the two links, one call after another. -/
inductive Usage (ν α : Type) : Type 1 where
  /-- The result. -/
  | done (result : α)
  /-- Make a call and go on with what it yields. -/
  | call {β : Type} (program : Program ν β) (next : β → Usage ν α)
  /-- Turn the echo on or off. -/
  | setEcho (link : Link) (on : Bool) (rest : Usage ν α)
  /-- Look at the last reply on a link. -/
  | lastReply (link : Link) (next : Reply → Usage ν α)

/-- The same use, without touching the echo. -/
def Usage.unechoed : Usage ν α → Usage ν α
  | done a => done a
  | call program next => call program fun b => (next b).unechoed
  | setEcho _ _ rest => rest.unechoed
  | lastReply link next => lastReply link fun reply => (next reply).unechoed

namespace Connection

/-- The connection of the two links with one echo for both. -/
def connected (e : Echo) (far : σ) : Connection (σ × Record) := { given := e, far := (far, []) }

/-- Turn the echo on or off, and record it. -/
def turn (c : Connection (σ × Record)) (link : Link) (on : Bool) : Connection (σ × Record) :=
  { c.setEcho link on with far := (c.far.1, .switched on :: c.far.2) }

variable [Quantity ν]

/-- Go on with a call that waits for a reply: something comes back, or the call is polled. -/
def goOn (t : Transports ν σ) : Progress ν α × Connection σ → Progress ν α × Connection σ
  | (.finished a, c) => (.finished a, c)
  | (.blocked (.forSlot rest), c) => resume t.toWorld (.forSlot rest) c
  | (.blocked (.forReply link token name next), c) =>
    match t.next link c.far with
    | (some came, far) => arrive t.toWorld came (.forReply link token name next) { c with far }
    | (none, far) => resume t.toWorld (.forReply link token name next) { c with far }

/-- Make a call, and stay with it for a number of happenings. -/
def perform (t : Transports ν σ) (patience : Nat) (p : Program ν α) (c : Connection σ) :
    Progress ν α × Connection σ :=
  (goOn t)^[patience] (run t.toWorld p c)

end Connection

/-- **A client uses the two links.**  There is no result while a call still waits. -/
def Usage.run [Quantity ν] (t : Transports ν σ) (patience : Nat) :
    Usage ν α → Connection (σ × Record) → Option α × Connection (σ × Record)
  | done a, c => (some a, c)
  | call program next, c =>
    match c.perform t.recording patience program with
    | (.finished b, c) => (next b).run t patience c
    | (.blocked _, c) => (none, c)
  | setEcho link on rest, c => rest.run t patience (c.turn link on)
  | lastReply link next, c => (next (c.channel link).lastReply).run t patience c

/-! ## 3. What the echo has written -/

/-- The echo after a record. -/
def Echo.after (e : Echo) (record : Record) : Echo where
  enabled := record.switch e.enabled
  written := e.written ++ record.transcript e.enabled

section Echo

variable (e : Echo) (record : Record) (link link' : Link) (text text' reply : String)

/-- A request is written where it is sent. -/
theorem Echo.command_after :
    (e.after record).command text = (.ok (), e.after (.exchanged link text none :: record)) := by
  cases hon : record.switch e.enabled with
  | false => simp [Echo.command, writeLine, after, Record.switch, Record.transcript, hon]
  | true =>
    simp [Echo.command, writeLine, after, Record.switch, Record.transcript, hon, Echo.line,
      Side.label, String.append_assoc]

/-- A reply is written where its request was the latest. -/
theorem Echo.reply_after :
    (e.after (.exchanged link text none :: record)).reply reply =
      (.ok (), e.after (.exchanged link text (some reply) :: record)) := by
  cases hon : record.switch e.enabled with
  | false => simp [Echo.reply, writeLine, after, Record.switch, Record.transcript, hon]
  | true =>
    simp [Echo.reply, writeLine, after, Record.switch, Record.transcript, hon, Echo.line,
      Side.label, String.append_assoc]

end Echo

/-! ## 4. One exchange -/

namespace Connection

/-- The connection of a client that has another echo and records no switch. -/
def muted (silent : Echo) (c : Connection (σ × Record)) : Connection (σ × Record) :=
  { c with given := silent, far := (c.far.1, c.far.2.exchanges) }

/-- **Both links have one echo, and it has written the transcript** of the record. -/
structure Transcribed (e : Echo) (c : Connection (σ × Record)) : Prop where
  wiring : c.wiring = .shared
  given : c.given = e.after c.far.2

/-- A reply is due: it would be the reply to the latest request. -/
def Due (c : Connection (σ × Record)) : Prop :=
  ∃ link text earlier, c.far.2 = .exchanged link text none :: earlier

section Exchange

variable {e silent : Echo} {c : Connection (σ × Record)} {link : Link}

theorem echo_of_shared {c : Connection σ} (h : c.wiring = .shared) : c.echo link = c.given := by
  rw [echo, h]
  rfl

theorem withEcho_of_shared {c : Connection σ} (h : c.wiring = .shared) (e : Echo) :
    c.withEcho link e = { c with given := e } := by
  rw [withEcho, h]
  rfl

theorem muted_withChannel (channel : Channel) :
    (c.muted silent).withChannel link channel = (c.withChannel link channel).muted silent := by
  cases link <;> rfl

theorem channel_muted : (c.muted silent).channel link = c.channel link := by
  cases link <;> rfl

theorem muted_release : (c.muted silent).release link = (c.release link).muted silent := by
  rw [release, channel_muted, muted_withChannel, release]

theorem Transcribed.withChannel (h : c.Transcribed e) (link : Link) (channel : Channel) :
    (c.withChannel link channel).Transcribed e := by
  cases link <;> exact ⟨h.wiring, h.given⟩

/-- A silent echo writes nothing. -/
theorem writeLine_of_silent (hs : silent.enabled = false) (side : Echo.Side) (text : String) :
    silent.writeLine side text = (.ok (), silent) := by
  rw [Echo.writeLine, hs]
  rfl

/-- **What came back is settled in step**: it is echoed as the reply to the latest request. -/
theorem settle_muted (hs : silent.enabled = false) (link : Link) {l : Link} {x : String}
    {earlier : Record} (hwiring : c.wiring = .shared)
    (hgiven : c.given = e.after (.exchanged l x none :: earlier))
    (came : Except ControlError String) (hfar : c.far.2 = .exchanged l x (replyOf? came) :: earlier) :
    ∃ result c', c.settle link came = (result, c') ∧
      (c.muted silent).settle link came = (result, c'.muted silent) ∧ c'.Transcribed e := by
  rcases came with error | reply
  · refine ⟨.error error, c.release link, rfl, Prod.ext rfl muted_release, ?_⟩
    exact Transcribed.withChannel ⟨hwiring, hgiven.trans (congrArg e.after hfar.symm)⟩ link _
  · have hmuted : (c.muted silent).wiring = .shared := hwiring
    have hsilent : silent.reply reply = (.ok (), silent) := writeLine_of_silent hs .reply reply
    have htranscribed : Transcribed e { c with given := e.after c.far.2 } := ⟨hwiring, rfl⟩
    refine ⟨.ok ⟨reply⟩, _, ?_, ?_,
      htranscribed.withChannel link ((c.channel link).complete ⟨reply⟩)⟩
    · simp only [settle, echo_of_shared hwiring, hgiven, Echo.reply_after,
        withEcho_of_shared hwiring, hfar, replyOf?]
      cases link <;> rfl
    · have hgiven' : (c.muted silent).given = silent := rfl
      simp only [settle, echo_of_shared hmuted, withEcho_of_shared hmuted, hgiven', hsilent]
      cases link <;> rfl

/-- A request is announced in step: the one client writes it, and the other does not. -/
theorem Transcribed.announce_muted (h : c.Transcribed e) (hs : silent.enabled = false) (link : Link)
    (text : String) :
    ∃ c', c.announce link text = (.ok (), c') ∧
      (c.muted silent).announce link text = (.ok (), c'.muted silent) ∧ c'.wiring = .shared ∧
      c'.given = e.after (.exchanged link text none :: c.far.2) ∧ c'.far = c.far := by
  refine ⟨{ c with given := e.after (.exchanged link text none :: c.far.2) }, ?_, ?_, h.wiring, rfl,
    rfl⟩
  · have hcommand := e.command_after c.far.2 link text
    simp only [announce, echo_of_shared h.wiring, withEcho_of_shared h.wiring, h.given, hcommand]
  · have hwiring : (c.muted silent).wiring = .shared := h.wiring
    have hcommand : (c.muted silent).given.command text = (.ok (), silent) :=
      writeLine_of_silent hs .command text
    simp only [announce, echo_of_shared hwiring, withEcho_of_shared hwiring, hcommand]
    rfl

/-- A request is handed over in step, and recorded with the reply that comes at once. -/
theorem hand_muted (t : Transports ν σ) (silent : Echo) (c : Connection (σ × Record))
    (link : Link) (text : String) :
    ∃ reception c', hand t.recording.toWorld c link text = (reception, c') ∧
      hand t.recording.toWorld (c.muted silent) link text = (reception, c'.muted silent) ∧
      c'.wiring = c.wiring ∧ c'.given = c.given ∧
      c'.far.2 = .exchanged link text reception.reply? :: c.far.2 :=
  ⟨_, _, rfl, rfl, rfl, rfl, rfl⟩

/-- **An exchange is made in step**, up to its end or until its reply is due. -/
theorem Transcribed.exchange_muted (h : c.Transcribed e) (hs : silent.enabled = false)
    (t : Transports ν σ) (link : Link) (text : String) :
    ∃ how c', exchange t.recording.toWorld c link text = (how, c') ∧
      exchange t.recording.toWorld (c.muted silent) link text = (how, c'.muted silent) ∧
      c'.Transcribed e ∧ (how = .inFlight → c'.Due) := by
  have hclaim : (c.muted silent).claim? link = (c.claim? link).map (muted silent) := by
    rw [claim?, channel_muted, claim?, Option.map_map]
    exact congrArg (Option.map · _) (funext fun channel => muted_withChannel channel)
  rcases hslot : c.claim? link with _ | c₁
  · rw [hslot] at hclaim
    refine ⟨.slotTaken, c, ?_, ?_, h, fun hflight => by cases hflight⟩
    · simp only [exchange, hslot]
    · simp only [exchange, hclaim, Option.map_none]
  rw [hslot] at hclaim
  obtain ⟨channel, -, rfl⟩ := Option.map_eq_some_iff.mp hslot
  obtain ⟨c₂, hannounce, hannounce', hwiring, hgiven, hfar⟩ :=
    (h.withChannel link channel).announce_muted hs link text
  obtain ⟨reception, c₃, hhand, hhand', hwiring₃, hgiven₃, hfar₃⟩ :=
    hand_muted t silent c₂ link text
  have hgiven' := hgiven₃.trans hgiven
  rw [hfar] at hfar₃
  rcases reception with came | _
  · obtain ⟨result, c', hsettle, hsettle', htranscribed⟩ :=
      settle_muted hs link (hwiring₃.trans hwiring) hgiven' came hfar₃
    refine ⟨.settled result, c', ?_, ?_, htranscribed, fun hflight => by cases hflight⟩
    · simp only [exchange, hslot, hannounce, hhand, hsettle]
    · simp only [exchange, hclaim, Option.map_some, hannounce', hhand', hsettle']
  · refine ⟨.inFlight, c₃, ?_, ?_, ⟨hwiring₃.trans hwiring, ?_⟩, fun _ => ⟨_, _, _, hfar₃⟩⟩
    · simp only [exchange, hslot, hannounce, hhand]
    · simp only [exchange, hclaim, Option.map_some, hannounce', hhand']
    · exact hgiven'.trans (congrArg e.after hfar₃.symm)

end Exchange

/-! ## 5. Programs and uses -/

section Program

variable [Quantity ν] {e silent : Echo} {c : Connection (σ × Record)}
  {now now' : Progress ν α × Connection (σ × Record)}

/-- **Two clients keep step**: both have come as far, the echo of the one has written the
transcript, and the connection of the other is the same without it. -/
structure KeepsStep (e silent : Echo) (now now' : Progress ν α × Connection (σ × Record)) :
    Prop where
  same : now' = (now.1, now.2.muted silent)
  transcribed : now.2.Transcribed e
  due {link : Link} {token : Option Token} {name : String}
    {next : Except ControlError Reply → Program ν α}
    (h : now.1 = .blocked (.forReply link token name next)) : now.2.Due

theorem Transcribed.release (h : c.Transcribed e) (link : Link) :
    (c.release link).Transcribed e := h.withChannel link _

/-- **A piece of a program is run in step.** -/
theorem Transcribed.run_muted (t : Transports ν σ) (hs : silent.enabled = false)
    (p : Program ν α) (h : c.Transcribed e) :
    KeepsStep e silent (run t.recording.toWorld p c)
      (run t.recording.toWorld p (c.muted silent)) := by
  induction p generalizing c with
  | done a => exact ⟨rfl, h, fun hblocked => by cases hblocked⟩
  | publish state next ih =>
    exact ih (c := { c with far := (t.publish state c.far.1, c.far.2) }) ⟨h.wiring, h.given⟩
  | inspect token next ih => exact ih (t.hasFired token c.far.1) h
  | sleep link seconds next ih =>
    rcases hsleep : t.sleep link seconds c.far.1 with ⟨slept, far⟩
    have hslept := ih slept (c := { c with far := (far, c.far.2) }) ⟨h.wiring, h.given⟩
    simp only [run, muted, Transports.recording, hsleep] at hslept ⊢
    exact hslept
  | exchange link request next ih =>
    obtain ⟨how, c', hmade, hmade', h', hdue⟩ := h.exchange_muted hs t link request.text
    simp only [run, hmade, hmade']
    cases how with
    | settled result => exact ih result h'
    | slotTaken => exact ⟨rfl, h', fun hblocked => by cases hblocked⟩
    | inFlight => exact ⟨rfl, h', fun _ => hdue rfl⟩
  | await token i next ih =>
    have hfired (c : Connection (σ × Record)) : t.recording.hasFired token (c.muted silent).far =
        t.recording.hasFired token c.far := rfl
    simp only [run, hfired]
    split
    · exact ih _ h
    · obtain ⟨how, c', hmade, hmade', h', hdue⟩ := h.exchange_muted hs t .remote i.text
      simp only [hmade, hmade']
      cases how with
      | settled result => exact ih result h'
      | slotTaken => exact ⟨rfl, h', fun hblocked => by cases hblocked⟩
      | inFlight =>
        simp only [hfired]
        split
        · rw [muted_release]
          exact ih _ (h'.release .remote)
        · exact ⟨rfl, h', fun _ => hdue rfl⟩

/-- A call that waits for a reply is answered in step. -/
theorem Transcribed.arrive_muted (t : Transports ν σ) (hs : silent.enabled = false)
    (h : c.Transcribed e) (hdue : c.Due) (far : σ) (came : Except ControlError String) (link : Link)
    (token : Option Token) (name : String) (next : Except ControlError Reply → Program ν α) :
    KeepsStep e silent
      (arrive t.recording.toWorld came (.forReply link token name next)
        { c with far := (far, c.far.2.come (some came)) })
      (arrive t.recording.toWorld came (.forReply link token name next)
        (muted silent { c with far := (far, c.far.2.come (some came)) })) := by
  obtain ⟨l, text, earlier, hlatest⟩ := hdue
  obtain ⟨result, c', hsettle, hsettle', h'⟩ := settle_muted hs link
    (c := { c with far := (far, c.far.2.come (some came)) }) h.wiring
    (h.given.trans (congrArg e.after hlatest)) came
    ((congrArg (Record.come (some came)) hlatest).trans (Record.come_exchanged came l text earlier))
  simp only [arrive, hsettle, hsettle']
  exact h'.run_muted t hs (next result)

/-- A call that waits is polled in step. -/
theorem Transcribed.resume_muted (t : Transports ν σ) (hs : silent.enabled = false)
    (h : c.Transcribed e) (rest : Waiting ν α)
    (hdue : ∀ link token name next, rest = .forReply link token name next → c.Due) :
    KeepsStep e silent (resume t.recording.toWorld rest c)
      (resume t.recording.toWorld rest (c.muted silent)) := by
  match rest with
  | .forSlot rest => exact h.run_muted t hs rest
  | .forReply link token name next =>
    have hfired (token : Token) : t.recording.hasFired token (c.muted silent).far =
        t.recording.hasFired token c.far := rfl
    simp only [resume, hfired]
    split
    · rw [muted_release]
      exact (h.release link).run_muted t hs _
    · exact ⟨rfl, h, fun _ => hdue _ _ _ _ rfl⟩

/-- **A call that waits goes on in step**, whatever happens. -/
theorem KeepsStep.goOn (t : Transports ν σ) (hs : silent.enabled = false)
    (h : KeepsStep e silent now now') :
    KeepsStep e silent (goOn t.recording now) (goOn t.recording now') := by
  obtain ⟨hsame, htranscribed, hdue⟩ := h
  obtain ⟨progress, c⟩ := now
  subst hsame
  match progress with
  | .finished a => exact ⟨rfl, htranscribed, fun hblocked => by cases hblocked⟩
  | .blocked (.forSlot rest) => exact htranscribed.run_muted t hs rest
  | .blocked (.forReply link token name next) =>
    replace hdue : c.Due := hdue rfl
    replace htranscribed : c.Transcribed e := htranscribed
    rcases hnext : t.next link c.far.1 with ⟨came?, far⟩
    have hnext₁ : t.recording.next link c.far = (came?, far, c.far.2.come came?) := by
      simp only [Transports.recording, hnext]
    have hnext₂ : t.recording.next link (c.muted silent).far =
        (came?, far, (c.far.2.come came?).exchanges) := by
      simp only [Transports.recording, muted, hnext, Record.exchanges_come]
    simp only [Connection.goOn, hnext₁, hnext₂]
    rcases came? with _ | came
    · exact Transcribed.resume_muted (c := { c with far := (far, c.far.2) }) t hs
        ⟨htranscribed.wiring, htranscribed.given⟩ (.forReply link token name next)
        fun _ _ _ _ _ => hdue
    · exact htranscribed.arrive_muted t hs hdue far came link token name next

/-- A call is made in step, with any patience. -/
theorem Transcribed.perform_muted (t : Transports ν σ) (hs : silent.enabled = false)
    (h : c.Transcribed e) (patience : Nat) (p : Program ν α) :
    KeepsStep e silent (c.perform t.recording patience p)
      ((c.muted silent).perform t.recording patience p) := by
  induction patience with
  | zero => exact h.run_muted t hs p
  | succ patience ih =>
    simp only [perform, Function.iterate_succ_apply'] at ih ⊢
    exact ih.goOn t hs

/-- Turning the echo is recorded, and the other client does not notice. -/
theorem Transcribed.turn (h : c.Transcribed e) (silent : Echo) (link : Link) (on : Bool) :
    (c.turn link on).Transcribed e ∧ (c.turn link on).muted silent = c.muted silent := by
  have hset : c.setEcho link on = { c with given := { c.given with enabled := on } } := by
    rw [setEcho, withEcho_of_shared h.wiring, echo_of_shared h.wiring]
  rw [Connection.turn, hset]
  refine ⟨⟨h.wiring, ?_⟩, rfl⟩
  simp only [h.given]
  rfl

end Program

end Connection

/-- **A client uses its links in step** with one that does not touch the echo. -/
theorem Usage.run_muted [Quantity ν] {e silent : Echo} {c : Connection (σ × Record)}
    (t : Transports ν σ) (patience : Nat) (hs : silent.enabled = false) (u : Usage ν α)
    (h : c.Transcribed e) :
    u.unechoed.run t patience (c.muted silent) =
        ((u.run t patience c).1, (u.run t patience c).2.muted silent) ∧
      (u.run t patience c).2.Transcribed e := by
  induction u generalizing c with
  | done a => exact ⟨rfl, h⟩
  | setEcho link on rest ih =>
    obtain ⟨hturned, hunnoticed⟩ := h.turn silent link on
    rw [unechoed, ← hunnoticed]
    exact ih hturned
  | lastReply link next ih =>
    simp only [unechoed, run, Connection.channel_muted]
    exact ih _ h
  | call program next ih =>
    obtain ⟨hsame, htranscribed, -⟩ := h.perform_muted t hs patience program
    simp only [unechoed, run, hsame]
    generalize c.perform t.recording patience program = now at htranscribed
    match now with
    | (.finished b, c') => exact ih b htranscribed
    | (.blocked rest, c') => exact ⟨rfl, htranscribed⟩

/-! ## 6. The echo observes -/

/-- **An echo observes, and writes a transcript.**  Let a client use two links with one echo whose
stream does not fail, and let another do the same without touching the echo, which is off.  Then
both have the same result, exchange the same on each link, remember the same replies and leave the
transports as they leave them; the stream of the first holds the transcript of its record, and
that of the second what it held before. -/
theorem echo_observes [Quantity ν] (t : Transports ν σ) (u : Usage ν α) (patience : Nat) {e : Echo}
    (h : e.fault = none) (far : σ) :
    let heard := u.run t patience (.connected e far)
    let unheard := u.unechoed.run t patience (.connected { e with enabled := false } far)
    heard.1 = unheard.1 ∧
      heard.2.far.2.exchanges = unheard.2.far.2 ∧
      (∀ link, (heard.2.channel link).lastReply = (unheard.2.channel link).lastReply) ∧
      heard.2.far.1 = unheard.2.far.1 ∧
      heard.2.given.written = e.written ++ heard.2.far.2.transcript e.enabled ∧
      unheard.2.given.written = e.written := by
  have hbegin : (Connection.connected e far).Transcribed e := by
    refine ⟨rfl, ?_⟩
    obtain ⟨enabled, fault, written⟩ := e
    subst h
    simp [Connection.connected, Echo.after, Record.switch, Record.transcript]
  have hoff : ({ e with enabled := false } : Echo).enabled = false := rfl
  obtain ⟨hsame, hend⟩ := u.run_muted t patience hoff hbegin
  intro heard unheard
  have hunheard : unheard = (heard.1, heard.2.muted { e with enabled := false }) := hsame
  rw [hunheard]
  refine ⟨rfl, rfl, fun link => ?_, rfl, ?_, rfl⟩
  · rw [Connection.channel_muted]
  · rw [hend.given]
    rfl

/-- Links that answer each request with its own text, but lose one and hold another, for which the
client waits until it gives up. -/
def contrary : Transports Float Bool where
  receive _ text fired :=
    if text == "emit_signal" then (.answered (.error (.transport "link lost")), fired)
    else if text == "catch_scan_start" then (.pending, fired)
    else (.answered (.ok text), fired)
  sleep _ _ fired := (.ok true, fired)
  publish _ fired := fired
  hasFired _ fired := fired
  next _ _ := (none, true)

/-- An exchange that is lost and a wait that is given up, with the echo on, between two exchanges
with the echo off. -/
def hardUse : Usage Float (Except ControlError Reply) :=
  .call (.exchange .remote (.verbatim "new_set") .done) fun _ =>
  .setEcho .remote true <|
  .call (.exchange .trigger (.verbatim "emit_signal") .done) fun _ =>
  .call (.await .waiter .catchScanStart .done) fun waited =>
  .setEcho .remote false <|
  .call (.exchange .remote (.verbatim "tzero") .done) fun _ => .done waited

/-- A lost exchange and a wait that was given up have their requests in the stream, and no
replies. -/
theorem echo_observes_hardUse :
    let heard := hardUse.run contrary 1 (.connected {} false)
    let unheard := hardUse.unechoed.run contrary 1 (.connected {} false)
    heard.1 = some (.error (.cancelled "catch_scan_start")) ∧ heard.1 = unheard.1 ∧
      heard.2.given.written = "   Command: emit_signal\n   Command: catch_scan_start\n" ∧
      heard.2.far.2.exchanges = unheard.2.far.2 ∧
      (unheard.2.channel .remote).lastReply = ⟨"tzero"⟩ := by
  obtain ⟨hresult, hexchanges, hlast, -, hwritten, -⟩ :=
    echo_observes contrary hardUse 1 (e := {}) rfl false
  refine ⟨rfl, hresult, hwritten.trans ?_, hexchanges, (hlast .remote).symm.trans ?_⟩
  · rfl
  · rfl

end LabControl
