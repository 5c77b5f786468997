/-
# Executions

A connection executes a program piece by piece: it goes on until the program waits, for a reply or
for the slot of its channel, and goes on again when something arrives or when it is polled.
Between two pieces anything may happen elsewhere, other programs on the same connection included.

The theorem of this module ties these executions to runs.  Whatever a connection executes to its
end, some surroundings bring about, with the same result and the same requests and states in the
same order, so that a statement about all surroundings is one about all executions.
-/
import LabControl.Bench.Rig
import LabControl.Proofs.History

namespace LabControl

variable {ν σ α : Type} [Quantity ν]

/-! ## 1. What a world is given -/

/-- What a program gives to its world. -/
inductive Note (ν : Type) where
  /-- A request, as text. -/
  | request (link : Link) (text : String)
  /-- A state of the engine. -/
  | state (state : Sweep.State ν)

/-- The request of a note. -/
def Note.request? : Note ν → Option (Link × String)
  | request link text => some (link, text)
  | state _ => none

/-- The state of a note. -/
def Note.state? : Note ν → Option (Sweep.State ν)
  | request .. => none
  | state s => some s

/-- What the world is given in an occurrence. -/
def Occurrence.note? : Occurrence ν → Option (Note ν)
  | exchanged link request _ => some (.request link request.text)
  | awaited _ i _ | gaveUp _ i => some (.request .remote i.text)
  | published state => some (.state state)
  | skipped .. | slept .. | inspected .. => none

namespace History

/-- What the world is given in a history, in order. -/
def notes (t : History ν) : List (Note ν) := t.filterMap Occurrence.note?

variable (o : Occurrence ν) (t u : History ν)

@[simp] theorem notes_append : notes (t ++ u) = notes t ++ notes u := List.filterMap_append

theorem notes_cons : notes (o :: t) = o.note?.toList ++ notes t := by
  cases h : o.note? <;> simp [notes, h]

/-- The requests that the world is given are those that are sent. -/
theorem filterMap_request_notes :
    (notes t).filterMap Note.request? =
      (sent t).map fun (link, request) => (link, request.text) := by
  induction t with
  | nil => rfl
  | cons o t ih =>
    rw [notes_cons, sent_cons, List.filterMap_append, List.map_append, ih]
    cases o <;> rfl

/-- The states that the world is given are those that are published. -/
theorem filterMap_state_notes : (notes t).filterMap Note.state? = states t := by
  induction t with
  | nil => rfl
  | cons o t ih =>
    rw [notes_cons, states_cons, List.filterMap_append, ih]
    cases o <;> rfl

end History

/-- A world that also notes what one program gives to it. -/
def World.noting (w : World ν σ) : World ν (σ × List (Note ν)) where
  receive link text s :=
    let (reception, far) := w.receive link text s.1
    (reception, far, s.2 ++ [.request link text])
  sleep link seconds s :=
    let (slept, far) := w.sleep link seconds s.1
    (slept, far, s.2)
  publish state s := (w.publish state s.1, s.2 ++ [.state state])
  hasFired token s := w.hasFired token s.1

/-- No link of the world fails with a cancellation, which only a token brings about. -/
structure World.Honest (w : World ν σ) : Prop where
  receive : ∀ link text s error, (w.receive link text s).1 = .answered (.error error) →
    error.isCancelled = false
  sleep : ∀ link seconds s error, (w.sleep link seconds s).1 = .error error →
    error.isCancelled = false

/-- What does not fail with a cancellation is told of a fault or of a value. -/
theorem exists_told {r : Except ControlError α}
    (h : ∀ error, r = .error error → error.isCancelled = false) :
    ∃ d : Except Fault α, r = told d := by
  rcases r with error | a
  · exact ⟨.error ⟨error, h error rfl⟩, rfl⟩
  · exact ⟨.ok a, rfl⟩

/-! ## 2. One exchange on a connection -/

/-- The echo is off, or its stream does not fail. -/
def Echo.Quiet (e : Echo) : Prop := e.enabled = false ∨ e.fault = none

theorem Echo.Quiet.writeLine {e : Echo} (h : e.Quiet) (side : Side) (text : String) :
    ∃ e', e.writeLine side text = (.ok (), e') ∧ e'.Quiet := by
  unfold Echo.writeLine
  rcases hon : e.enabled with _ | _
  · exact ⟨e, rfl, h⟩
  · rcases h with hoff | hnone
    · rw [hon] at hoff
      cases hoff
    · rw [hnone]
      exact ⟨_, rfl, .inr rfl⟩

namespace Connection

/-- Neither echo of the connection fails. -/
def Quiet (c : Connection σ) : Prop := c.given.Quiet ∧ c.own.Quiet

section Quiet

variable {c : Connection σ} (link : Link)

theorem Quiet.echo (h : c.Quiet) : (c.echo link).Quiet := by
  unfold Connection.echo
  split
  · exact h.1
  · exact h.2

theorem Quiet.withEcho (h : c.Quiet) {e : Echo} (he : e.Quiet) : (c.withEcho link e).Quiet := by
  unfold Connection.withEcho
  split
  · exact ⟨he, h.2⟩
  · exact ⟨h.1, he⟩

theorem Quiet.withChannel (h : c.Quiet) (channel : Channel) :
    (c.withChannel link channel).Quiet := by
  cases link <;> exact h

theorem Quiet.release (h : c.Quiet) : (c.release link).Quiet := h.withChannel link _

/-- A request is echoed without failing. -/
theorem Quiet.announce (h : c.Quiet) (text : String) :
    ∃ c', c.announce link text = (.ok (), c') ∧ c'.Quiet ∧ c'.far = c.far := by
  obtain ⟨e, he, hquiet⟩ := (h.echo link).writeLine .command text
  exact ⟨c.withEcho link e, by rw [Connection.announce, Echo.command, he],
    h.withEcho link hquiet, far_withEcho link e⟩

/-- An exchange ends with what came back. -/
theorem Quiet.settle (h : c.Quiet) {result : Except ControlError String}
    (hresult : ∀ error, result = .error error → error.isCancelled = false) :
    ∃ (d : Delivery) (c' : Connection σ),
      c.settle link result = (told d, c') ∧ c'.Quiet ∧ c'.far = c.far := by
  rcases result with error | text
  · exact ⟨.error ⟨error, hresult error rfl⟩, c.release link, rfl, h.release link,
      far_release link⟩
  · obtain ⟨e, he, hquiet⟩ := (h.echo link).writeLine .reply text
    refine ⟨.ok ⟨text⟩, _, by rw [Connection.settle, Echo.reply, he]; rfl,
      (h.withEcho link hquiet).withChannel link _, ?_⟩
    rw [far_withChannel, far_withEcho]

end Quiet

omit [Quantity ν] in
/-- **One exchange** finds its slot taken and sends nothing, or sends its request, and then it is
in flight or over. -/
theorem exchange_noting {w : World ν σ} (hw : w.Honest) {c : Connection (σ × List (Note ν))}
    (hc : c.Quiet) (link : Link) (text : String) :
    exchange w.noting c link text = (.slotTaken, c) ∨
      ∃ c', c'.Quiet ∧ c'.far.2 = c.far.2 ++ [.request link text] ∧
        (exchange w.noting c link text = (.inFlight, c') ∨
          ∃ d : Delivery, exchange w.noting c link text = (.settled (told d), c')) := by
  unfold exchange
  rcases hclaim : c.claim? link with _ | c₁
  · exact .inl rfl
  right
  obtain ⟨channel, -, rfl⟩ := Option.map_eq_some_iff.mp hclaim
  obtain ⟨c₂, hannounce, hquiet, hfar⟩ := (hc.withChannel link channel).announce link text
  rcases hreceive : w.receive link text c₂.far.1 with ⟨reception, far⟩
  have hhand : hand w.noting c₂ link text =
      (reception, { c₂ with far := (far, c₂.far.2 ++ [.request link text]) }) := by
    simp only [hand, World.noting, hreceive]
  have hnotes : c₂.far.2 = c.far.2 := by rw [hfar, far_withChannel]
  simp only [hannounce, hhand]
  rcases reception with result | _
  · have hresult : ∀ error, result = .error error → error.isCancelled = false := by
      rintro error rfl
      exact hw.receive link text c₂.far.1 error (by rw [hreceive])
    have hquiet' : Quiet { c₂ with far := (far, c₂.far.2 ++ [.request link text]) } := hquiet
    obtain ⟨d, c₃, hsettle, hquiet₃, hfar₃⟩ := hquiet'.settle link hresult
    refine ⟨c₃, hquiet₃, by rw [hfar₃, hnotes], .inr ⟨d, ?_⟩⟩
    simp only [hsettle]
  · exact ⟨{ c₂ with far := (far, c₂.far.2 ++ [.request link text]) }, hquiet, by rw [hnotes],
      .inl rfl⟩

end Connection

/-! ## 3. One piece of a program -/

/-- **After a history, a program may go on as another does.** -/
def Program.Leads (p : Program ν α) (t : History ν) (q : Program ν α) : Prop :=
  ∀ u a, q.Runs u a → p.Runs (t ++ u) a

variable {p q q' : Program ν α} {t u : History ν}

theorem Program.Leads.refl : p.Leads [] p := fun _ _ h => h

theorem Program.Leads.trans (h : p.Leads t q) (h' : q.Leads u q') : p.Leads (t ++ u) q' := by
  intro v a hv
  rw [List.append_assoc]
  exact h _ a (h' v a hv)

namespace Connection

/-- **How far a program has come**, and what it has given to the world: to its end, or to a wait,
with its request sent if it waits for the reply. -/
inductive Reaches (p : Program ν α) : Progress ν α → List (Note ν) → Prop where
  | finished {t : History ν} {a : α} (h : p.Leads t (.done a)) : Reaches p (.finished a) t.notes
  | forSlot {t : History ν} {rest : Program ν α} (h : p.Leads t rest) :
    Reaches p (.blocked (.forSlot rest)) t.notes
  | forReply {t : History ν} {link : Link} {request : Request ν}
      {next : Except ControlError Reply → Program ν α}
      (h : p.Leads t (.exchange link request next)) :
    Reaches p (.blocked (.forReply link none request.text next))
      (t.notes ++ [.request link request.text])
  | forWait {t : History ν} {token : Token} {i : Instruction ν}
      {next : Except ControlError Reply → Program ν α} (h : p.Leads t (.await token i next)) :
    Reaches p (.blocked (.forReply .remote (some token) i.name next))
      (t.notes ++ [.request .remote i.text])

/-- The invariant of an execution: its notes tell how far the program has come, and no echo
fails. -/
structure Tracks (p : Program ν α) (now : Progress ν α × Connection (σ × List (Note ν))) :
    Prop where
  reaches : Reaches p now.1 now.2.far.2
  quiet : now.2.Quiet

variable {w : World ν σ} {c : Connection (σ × List (Note ν))}

theorem Reaches.tracks {progress : Progress ν α} {notes : List (Note ν)}
    (h : Reaches p progress notes) (hnotes : c.far.2 = notes) (hc : c.Quiet) :
    Tracks p (progress, c) :=
  ⟨hnotes ▸ h, hc⟩

/-- **A piece of an execution keeps track**, from any point on where the program goes on as
another. -/
theorem tracks_run (hw : w.Honest) (q : Program ν α) (hq : p.Leads t q) (hc : c.Quiet)
    (hnotes : c.far.2 = t.notes) : Tracks p (run w.noting q c) := by
  induction q generalizing c t with
  | done a =>
    exact (Reaches.finished hq).tracks hnotes hc
  | publish state next ih =>
    refine ih (t := t ++ [.published state]) (hq.trans fun u a h => ⟨u, rfl, h⟩) hc ?_
    rw [History.notes_append, ← hnotes]
    rfl
  | inspect token next ih =>
    refine ih (w.hasFired token c.far.1) (t := t ++ [.inspected token (w.hasFired token c.far.1)])
      (hq.trans fun u a h => ⟨_, u, rfl, h⟩) hc ?_
    rw [History.notes_append, ← hnotes]
    exact (List.append_nil _).symm
  | sleep link seconds next ih =>
    rcases hsleep : w.sleep link seconds c.far.1 with ⟨slept, far⟩
    have hfaults : ∀ error, slept = .error error → error.isCancelled = false := by
      rintro error rfl
      exact hw.sleep link seconds c.far.1 error (by rw [hsleep])
    obtain ⟨r, rfl⟩ := exists_told hfaults
    simp only [run, World.noting, hsleep]
    refine ih (told r) (t := t ++ [.slept link seconds r])
      (hq.trans fun u a h => ⟨r, u, rfl, h⟩) hc ?_
    rw [History.notes_append, ← hnotes]
    exact (List.append_nil _).symm
  | exchange link request next ih =>
    rcases exchange_noting hw hc link request.text with
      htaken | ⟨c', hquiet, hmore, hflight | ⟨d, hsettled⟩⟩
    · simp only [run, htaken]
      exact (Reaches.forSlot hq).tracks hnotes hc
    · simp only [run, hflight]
      exact (Reaches.forReply hq).tracks (by rw [hmore, hnotes]) hquiet
    · simp only [run, hsettled]
      refine ih (told d) (t := t ++ [.exchanged link request d])
        (hq.trans fun u a h => ⟨d, u, rfl, h⟩) hquiet ?_
      rw [hmore, hnotes, History.notes_append]
      rfl
  | await token i next ih =>
    rcases hfired : w.noting.hasFired token c.far with _ | _
    · rcases exchange_noting hw hc .remote i.text with
        htaken | ⟨c', hquiet, hmore, hflight | ⟨d, hsettled⟩⟩
      · simp only [run, hfired, htaken, Bool.false_eq_true, if_false]
        exact (Reaches.forSlot hq).tracks hnotes hc
      · rcases hlater : w.noting.hasFired token c'.far with _ | _
        · simp only [run, hfired, hflight, hlater, Bool.false_eq_true, if_false]
          exact (Reaches.forWait hq).tracks (by rw [hmore, hnotes]) hquiet
        · simp only [run, hfired, hflight, hlater, Bool.false_eq_true, if_false, if_true]
          refine ih (.error (.cancelled i.name)) (t := t ++ [.gaveUp token i])
            (hq.trans fun u a h => .inr ⟨_, u, .inl rfl, rfl, h⟩) (hquiet.release .remote) ?_
          rw [far_release, hmore, hnotes, History.notes_append]
          rfl
      · simp only [run, hfired, hsettled, Bool.false_eq_true, if_false]
        refine ih (told d) (t := t ++ [.awaited token i d])
          (hq.trans fun u a h => .inl ⟨d, u, rfl, h⟩) hquiet ?_
        rw [hmore, hnotes, History.notes_append]
        rfl
    · simp only [run, hfired, if_true]
      refine ih (.error (.cancelled i.name)) (t := t ++ [.skipped token i])
        (hq.trans fun u a h => .inr ⟨_, u, .inr rfl, rfl, h⟩) hc ?_
      rw [History.notes_append, ← hnotes]
      exact (List.append_nil _).symm

/-- A program that waits keeps track when it is polled. -/
theorem Tracks.resume (hw : w.Honest) {rest : Waiting ν α} (h : Tracks p (.blocked rest, c)) :
    Tracks p (resume w.noting rest c) := by
  obtain ⟨hreaches, hquiet⟩ := h
  generalize hnotes : c.far.2 = notes at hreaches
  cases hreaches with
  | forSlot hrest => exact tracks_run hw _ hrest hquiet hnotes
  | forReply hrest => exact (Reaches.forReply hrest).tracks hnotes hquiet
  | @forWait t token i next hrest =>
    rcases hfired : w.noting.hasFired token c.far with _ | _
    · simp only [Connection.resume, Option.any_some, hfired, Bool.false_eq_true, if_false]
      exact (Reaches.forWait hrest).tracks hnotes hquiet
    · simp only [Connection.resume, Option.any_some, hfired, if_true]
      refine tracks_run hw _ (t := t ++ [.gaveUp token i])
        (hrest.trans fun u a h => .inr ⟨_, u, .inl rfl, rfl, h⟩) (hquiet.release .remote) ?_
      rw [far_release, hnotes, History.notes_append]
      rfl

/-- A program that waits for a reply keeps track when something arrives. -/
theorem Tracks.arrive (hw : w.Honest) {rest : Waiting ν α} (h : Tracks p (.blocked rest, c))
    {result : Except ControlError String}
    (hresult : ∀ error, result = .error error → error.isCancelled = false) :
    Tracks p (arrive w.noting result rest c) := by
  obtain ⟨hreaches, hquiet⟩ := h
  generalize hnotes : c.far.2 = notes at hreaches
  cases hreaches with
  | forSlot hrest => exact (Reaches.forSlot hrest).tracks hnotes hquiet
  | @forReply t link request next hrest =>
    obtain ⟨d, c', hsettle, hquiet', hfar⟩ := Quiet.settle link hquiet hresult
    simp only [Connection.arrive, hsettle]
    refine tracks_run hw _ (t := t ++ [.exchanged link request d])
      (hrest.trans fun u a h => ⟨d, u, rfl, h⟩) hquiet' ?_
    rw [hfar, hnotes, History.notes_append]
    rfl
  | @forWait t token i next hrest =>
    obtain ⟨d, c', hsettle, hquiet', hfar⟩ := Quiet.settle .remote hquiet hresult
    simp only [Connection.arrive, hsettle]
    refine tracks_run hw _ (t := t ++ [.awaited token i d])
      (hrest.trans fun u a h => .inl ⟨d, u, rfl, h⟩) hquiet' ?_
    rw [hfar, hnotes, History.notes_append]
    rfl

/-! ## 4. Executions -/

/-- **The points of an execution** of a program in a world: it begins on a connection without
notes, and goes on when it is polled or something arrives.  In between the connection may change
in any way, but for the notes of this program and for an echo that fails. -/
inductive Executes (w : World ν σ) (p : Program ν α) :
    Progress ν α × Connection (σ × List (Note ν)) → Prop where
  | begun {c : Connection (σ × List (Note ν))} (hquiet : c.Quiet) (hnotes : c.far.2 = []) :
    Executes w p (run w.noting p c)
  | resumed {rest : Waiting ν α} {c c' : Connection (σ × List (Note ν))}
      (h : Executes w p (.blocked rest, c)) (hquiet : c'.Quiet) (hnotes : c'.far.2 = c.far.2) :
    Executes w p (resume w.noting rest c')
  | arrived {rest : Waiting ν α} {c c' : Connection (σ × List (Note ν))}
      (h : Executes w p (.blocked rest, c)) (hquiet : c'.Quiet) (hnotes : c'.far.2 = c.far.2)
      {result : Except ControlError String}
      (hresult : ∀ error, result = .error error → error.isCancelled = false) :
    Executes w p (arrive w.noting result rest c')

/-- Every point of an execution is tracked by its notes. -/
theorem Executes.tracks (hw : w.Honest) {now : Progress ν α × Connection (σ × List (Note ν))}
    (h : Executes w p now) : Tracks p now := by
  induction h with
  | begun hquiet hnotes => exact tracks_run hw p .refl hquiet hnotes
  | resumed h hquiet hnotes ih =>
    refine Tracks.resume hw ⟨?_, hquiet⟩
    rw [hnotes]
    exact ih.reaches
  | arrived h hquiet hnotes hresult ih =>
    refine Tracks.arrive hw ⟨?_, hquiet⟩ hresult
    rw [hnotes]
    exact ih.reaches

/-- **What a connection executes to its end, some surroundings bring about**: with the same result,
and with the same requests and states in the same order. -/
theorem Executes.exists_surroundings (hw : w.Honest) {a : α} (h : Executes w p (.finished a, c)) :
    ∃ s : Surroundings ν, s.result p = a ∧ (s.history p).notes = c.far.2 := by
  obtain ⟨hreaches, -⟩ := h.tracks hw
  generalize hnotes : c.far.2 = notes at hreaches
  cases hreaches with
  | finished hend =>
    obtain ⟨s, hhistory, hresult⟩ := Surroundings.exists_surroundings (hend [] a ⟨rfl, rfl⟩)
    refine ⟨s, hresult, ?_⟩
    rw [hhistory, List.append_nil]

/-- The requests that a connection sends and the states that are published are those of some
surroundings. -/
theorem Executes.exists_sent (hw : w.Honest) {a : α} (h : Executes w p (.finished a, c)) :
    ∃ s : Surroundings ν, s.result p = a ∧
      (c.far.2.filterMap Note.request? =
        (s.history p).sent.map fun (link, request) => (link, request.text)) ∧
      c.far.2.filterMap Note.state? = (s.history p).states := by
  obtain ⟨s, hresult, hnotes⟩ := h.exists_surroundings hw
  refine ⟨s, hresult, ?_, ?_⟩
  · rw [← hnotes, History.filterMap_request_notes]
  · rw [← hnotes, History.filterMap_state_notes]

end Connection

/-! ## 5. Rigs -/

namespace Bench

/-- An incident fails a request by dropping it. -/
theorem Rig.meet_isCancelled {r r' : Rig} {incidents : List Incident} {error : ControlError}
    (h : r.meet incidents = (some error, r')) : error.isCancelled = false := by
  induction incidents generalizing r with
  | nil => cases h
  | cons incident rest ih =>
    cases incident with
    | drop detail =>
      cases h
      rfl
    | cancelRun => exact ih h
    | abortCleanup => exact ih h
    | cancelWaiter => exact ih h
    | fail name => exact ih h
    | hold name => exact ih h

/-- A scripted backend fails by losing its link. -/
theorem Script.receive_isCancelled {s : Script} {link : Link} {text : String}
    {error : ControlError} (h : (s.receive link text).1 = .answered (.error error)) :
    error.isCancelled = false := by
  simp only [Script.receive] at h
  split at h
  · cases h
  · split at h
    · cases h
      rfl
    · cases h

/-- **A rig is an honest world**, so what it executes is what some surroundings bring about. -/
theorem Rig.world_honest : Rig.world.Honest where
  receive link text r error h := by
    simp only [Rig.world, Rig.receive] at h
    split at h
    · next hmeet =>
      cases h
      exact Rig.meet_isCancelled hmeet
    · exact Script.receive_isCancelled h
  sleep link seconds r error h := by cases h

end Bench

end LabControl
