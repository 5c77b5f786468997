/-
# What a cancelled operation leaves sweeping

A sweep that the backend acknowledged goes on by itself until its event comes or it is told to
stop.  A run of a plan and a return to zero start one sweep at a time and wait for it, and answer a
cancelled wait with a stop, so that a cancelled operation leaves no channel sweeping.

A linked sweep starts two.  It waits for the first channel alone, and its cancelled wait stops the
first channel alone: the second one is left sweeping, unless its sweep was rejected or it is the
same channel (`settled_when_cancelled`).
-/
import LabControl.Proofs.Sweep.Waits
import LabControl.Proofs.Sweep.Linkage

namespace LabControl

variable {ν α : Type}

/-! ## 1. Backends that do not fail -/

namespace History

/-- The link failed nowhere. -/
def Faultless (t : History ν) : Prop := ∀ o ∈ t, o.fault? = none

variable {o : Occurrence ν} {t u : History ν}

@[simp] theorem faultless_nil : Faultless ([] : History ν) := by simp [Faultless]

@[simp] theorem faultless_cons : Faultless (o :: t) ↔ o.fault? = none ∧ Faultless t := by
  simp [Faultless]

@[simp] theorem faultless_append : Faultless (t ++ u) ↔ Faultless t ∧ Faultless u := by
  simp [Faultless, or_imp, forall_and]

end History

/-- Every request is answered, and every sleep is over in the end. -/
structure Surroundings.Reliable (s : Surroundings ν) : Prop where
  deliver : ∀ past link request, ∃ reply, s.deliver past link request = .ok reply
  sleep : ∀ past link seconds, ∃ slept, s.sleep past link seconds = .ok slept

/-- **Where every request is answered, the link fails nowhere**, whenever the tokens fire. -/
theorem Surroundings.Reliable.faultless [Quantity ν] {s : Surroundings ν} (h : s.Reliable)
    (p : Program ν α) (past : History ν) : History.Faultless (s.run p past).1 := by
  induction p generalizing past with
  | done a => exact History.faultless_nil
  | exchange link request next ih =>
    obtain ⟨reply, hreply⟩ := h.deliver past link request
    exact History.faultless_cons.mpr ⟨by simp only [hreply, Occurrence.fault?], ih _ _⟩
  | await token i next ih =>
    refine History.faultless_cons.mpr ⟨?_, ih _ _⟩
    obtain ⟨reply, hreply⟩ := h.deliver past .remote (.instruct i)
    change (s.await past token i).1.fault? = none
    unfold Surroundings.await
    split
    · rfl
    · split
      · rfl
      · simp only [hreply, Occurrence.fault?]
  | sleep link seconds next ih =>
    obtain ⟨slept, hslept⟩ := h.sleep past link seconds
    exact History.faultless_cons.mpr ⟨by simp only [hslept, Occurrence.fault?], ih _ _⟩
  | publish state next ih => exact History.faultless_cons.mpr ⟨rfl, ih _⟩
  | inspect token next ih => exact History.faultless_cons.mpr ⟨rfl, ih _ _⟩

/-! ## 2. Sweeps that are over -/

/-- **The occurrence ends the sweep of a channel**: a wait for it was answered, or it was told to
stop. -/
def Occurrence.Ends (o : Occurrence ν) (channel : Nat) : Prop :=
  (∃ token event reply, o = .awaited token (.catchSweep event channel) (.ok reply)) ∨
    ∃ d, o = .ordered (.sweepStop channel) d

namespace History

variable [Quantity ν] {o : Occurrence ν} {t u : History ν}

/-- **No sweep is left behind**: what comes after each sweep that was started, on any channel, ends
it. -/
def Settled (t : History ν) : Prop :=
  ∀ o later, (o :: later) <:+ t → ∀ direction channel, o.StartsSweep direction channel →
    ∃ o' ∈ later, o'.Ends channel

/-- No sweep is started in the history. -/
def StartsNone (t : History ν) : Prop :=
  ∀ o ∈ t, ∀ direction channel, ¬ o.StartsSweep direction channel

@[simp] theorem startsNone_nil : StartsNone ([] : History ν) := by simp [StartsNone]

@[simp] theorem startsNone_cons : StartsNone (o :: t) ↔
    (∀ direction channel, ¬ o.StartsSweep direction channel) ∧ StartsNone t := by
  simp [StartsNone]

@[simp] theorem settled_nil : Settled ([] : History ν) := by
  intro o later h
  simp at h

theorem settled_cons : Settled (o :: t) ↔
    (∀ direction channel, o.StartsSweep direction channel → ∃ o' ∈ t, o'.Ends channel) ∧
      Settled t := by
  constructor
  · exact fun h => ⟨h o t (List.suffix_refl _), fun o' later hsuffix =>
      h o' later (hsuffix.trans (List.suffix_cons o t))⟩
  · rintro ⟨ho, ht⟩ o' later hsuffix
    rcases List.suffix_cons_iff.mp hsuffix with heq | hsuffix
    · obtain ⟨rfl, rfl⟩ := List.cons.inj heq
      exact ho
    · exact ht o' later hsuffix

/-- What comes before a settled history must be settled together with it. -/
theorem settled_append_of_startsNone (h : StartsNone t) : Settled (t ++ u) ↔ Settled u := by
  induction t with
  | nil => rfl
  | cons o t ih =>
    obtain ⟨ho, ht⟩ := List.forall_mem_cons.mp h
    rw [List.cons_append, settled_cons, ih ht]
    exact and_iff_right fun direction channel hstarts => absurd hstarts (ho direction channel)

theorem StartsNone.settled (h : StartsNone t) : Settled t := by
  rw [← List.append_nil t, settled_append_of_startsNone h]
  exact settled_nil

/-- One settled history after another. -/
theorem Settled.append (h : Settled t) (hu : Settled u) : Settled (t ++ u) := by
  induction t with
  | nil => exact hu
  | cons o t ih =>
    obtain ⟨ho, ht⟩ := settled_cons.mp h
    refine settled_cons.mpr ⟨fun direction channel hstarts => ?_, ih ht⟩
    obtain ⟨o', hmem, hends⟩ := ho direction channel hstarts
    exact ⟨o', List.mem_append_left u hmem, hends⟩

theorem Settled.cons (ho : ∀ direction channel, ¬ o.StartsSweep direction channel)
    (h : Settled t) : Settled (o :: t) :=
  settled_cons.mpr ⟨fun direction channel hstarts => absurd hstarts (ho direction channel), h⟩

end History

namespace Occurrence

variable [Quantity ν] {direction : Sweep.Direction} {channel : Nat}

/-- An instruction that was answered starts a sweep if it is a sweep command and was
acknowledged. -/
theorem startsSweep_ordered_iff {i : Instruction ν} {reply : Reply} :
    StartsSweep (.ordered i (.ok reply)) direction channel ↔
      i = .startSweep direction channel ∧ reply.acknowledges i.command = true := by
  constructor
  · rintro ⟨reply', h, hack⟩
    cases h
    exact ⟨rfl, hack⟩
  · rintro ⟨rfl, hack⟩
    exact ⟨reply, rfl, hack⟩

/-- A sweep command starts a sweep of its own channel. -/
theorem channel_eq_of_startsSweep (direction : Sweep.Direction) {direction' : Sweep.Direction}
    {channel' : Nat} {d : Delivery}
    (h : (.ordered (.startSweep direction channel) d : Occurrence ν).StartsSweep direction'
      channel') : channel' = channel := by
  obtain ⟨reply, h, -⟩ := h
  simp only [ordered, exchanged.injEq, Request.instruct.injEq, true_and] at h
  cases direction <;> cases direction' <;> simp_all [Instruction.startSweep]

theorem not_startsSweep_of_isSweep {i : Instruction ν} (hi : i.isSweep = false) (d : Delivery) :
    ¬ StartsSweep (.ordered i d) direction channel :=
  (plain_of_isSweep hi d : Plain (.ordered i d) channel).2.2 direction

theorem not_startsSweep_published {state : Sweep.State ν} :
    ¬ StartsSweep (.published state) direction channel :=
  fun hstarts => hstarts.ne_published state rfl

theorem not_startsSweep_inspected {token : Token} {fired : Bool} :
    ¬ StartsSweep (.inspected token fired : Occurrence ν) direction channel := by
  rintro ⟨reply, h, -⟩
  cases h

theorem not_startsSweep_slept {link : Link} {seconds : ν} {slept : Except Fault Bool} :
    ¬ StartsSweep (.slept link seconds slept) direction channel := by
  rintro ⟨reply, h, -⟩
  cases h

end Occurrence

namespace History

variable [Quantity ν] {t : History ν}

/-- An exchange of an instruction that is no sweep command. -/
theorem StartsNone.ordered {i : Instruction ν} (hi : i.isSweep = false) (d : Delivery)
    (h : StartsNone t) : StartsNone (.ordered i d :: t) :=
  startsNone_cons.mpr ⟨fun _ _ => Occurrence.not_startsSweep_of_isSweep hi d, h⟩

theorem StartsNone.published (state : Sweep.State ν) (h : StartsNone t) :
    StartsNone (.published state :: t) :=
  startsNone_cons.mpr ⟨fun _ _ => Occurrence.not_startsSweep_published, h⟩

theorem StartsNone.inspected (token : Token) (fired : Bool) (h : StartsNone t) :
    StartsNone (.inspected token fired :: t) :=
  startsNone_cons.mpr ⟨fun _ _ => Occurrence.not_startsSweep_inspected, h⟩

theorem StartsNone.slept (link : Link) (seconds : ν) (slept : Except Fault Bool)
    (h : StartsNone t) : StartsNone (.slept link seconds slept :: t) :=
  startsNone_cons.mpr ⟨fun _ _ => Occurrence.not_startsSweep_slept, h⟩

/-- A sweep command whose sweep is ended by what comes after it. -/
theorem settled_sweep {direction : Sweep.Direction} {channel : Nat} {d : Delivery}
    (hends : ∃ o ∈ t, o.Ends channel) (ht : StartsNone t) :
    Settled (.ordered (.startSweep direction channel) d :: t) := by
  refine settled_cons.mpr ⟨fun direction' channel' hstarts => ?_, ht.settled⟩
  rw [Occurrence.channel_eq_of_startsSweep direction hstarts]
  exact hends

end History

namespace Sweep

open History (Settled StartsNone)

variable [Quantity ν] {token : Token} {channel : Nat}

/-! ## 3. One sweep at a time -/

/-- **A sweep that is waited for is over in the end**, unless the link fails. -/
theorem Sweeps.settled {direction : Direction} {event : Event} {t : History ν}
    {r : Except ControlError Bool} (h : Sweeps direction channel event token t r)
    (ht : t.Faultless) : Settled t := by
  cases h with
  | lost fault => simp [Occurrence.fault?] at ht
  | rejected h =>
    refine StartsNone.settled fun o ho direction' channel' hstarts => ?_
    obtain rfl := List.mem_singleton.mp ho
    rw [Occurrence.startsSweep_ordered_iff, h] at hstarts
    exact Bool.noConfusion hstarts.2
  | awaited h d =>
    rcases d with fault | answer
    · simp [Occurrence.fault?] at ht
    · refine History.settled_sweep ⟨_, List.mem_cons_self, .inl ⟨token, event, answer, rfl⟩⟩ ?_
      rintro o ho direction' channel' hstarts
      obtain rfl := List.mem_singleton.mp ho
      exact hstarts.not_waits (.inl ⟨.ok answer, rfl⟩)
  | stopped h hwait d =>
    refine History.settled_sweep ⟨_, List.mem_cons_of_mem _ List.mem_cons_self, .inr ⟨d, rfl⟩⟩ ?_
    rintro o ho direction' channel' hstarts
    rcases List.mem_cons.mp ho with rfl | ho
    · exact hstarts.not_waits (.inr hwait)
    · obtain rfl := List.mem_singleton.mp ho
      exact Occurrence.not_startsSweep_of_isSweep rfl d hstarts

theorem Follows.settled {event : Direction → Event} {s : Script ν} {held held' : Option ν}
    {t : History ν} {r : Except ControlError Unit} (h : Follows token channel s held t held' r)
    (hs : ∀ step ∈ s, step.Regular event) (ht : t.Faultless) : Settled t := by
  induction h with
  | done held => exact History.settled_nil
  | announce h ih =>
    exact (ih (fun step hmem => hs step (.tail _ hmem)) (History.faultless_cons.mp ht).2).cons
      fun _ _ => Occurrence.not_startsSweep_published
  | arrive h ih => exact ih (fun step hmem => hs step (.tail _ hmem)) ht
  | answered h ih =>
    exact (ih (fun step hmem => hs step (.tail _ hmem)) (History.faultless_cons.mp ht).2).cons
      fun _ _ => Occurrence.not_startsSweep_of_isSweep (hs _ List.mem_cons_self) _
  | lost fault => simp [Occurrence.fault?] at ht
  | swept hsweeps h ih =>
    obtain ⟨ht₁, ht₂⟩ := History.faultless_append.mp ht
    exact (hsweeps.settled ht₁).append (ih (fun step hmem => hs step (.tail _ hmem)) ht₂)
  | broken hsweeps => exact hsweeps.settled ht

/-- Orders that are no sweep commands start no sweep. -/
theorem Follows.settled_orders {is : List (Instruction ν)} {held held' : Option ν} {t : History ν}
    {r : Except ControlError Unit} (h : Follows token channel (orders is) held t held' r)
    (his : ∀ i ∈ is, i.isSweep = false) (ht : t.Faultless) : Settled t := by
  have hregular : ∀ step ∈ orders is, step.Regular fun _ => .zeroStop := regular_orders his
  exact h.settled hregular ht

/-- An exchange of an instruction that is no sweep command. -/
theorem settled_ordered {i : Instruction ν} (hi : i.isSweep = false) (d : Delivery) :
    Settled [.ordered i d] :=
  (History.startsNone_nil.ordered hi d).settled

/-- **A return to zero leaves nothing sweeping**, unless the link fails. -/
theorem ReturnsToZero.settled {tool : String} {t : History ν} {r : Except ControlError Bool}
    (h : ReturnsToZero tool channel token t r) (ht : t.Faultless) : Settled t := by
  cases h with
  | unread fault => exact settled_ordered rfl _
  | unneeded h => exact settled_ordered rfl _
  | unforced h hu =>
    refine (hu.settled_orders ?_ (History.faultless_cons.mp ht).2).cons
      fun _ _ => Occurrence.not_startsSweep_of_isSweep rfl _
    simp [forcing, idQueries, Instruction.isSweep]
  | @bracketed reply h panel sweep flag hflag former forced swept caught hswept d =>
    have hswept' := (History.faultless_append.mp (History.faultless_append.mp ht).1).2
    refine History.Settled.append (.append ?_ (hswept.settled hswept')) (settled_ordered rfl d)
    exact (((((History.startsNone_nil.ordered rfl _).ordered rfl _).ordered rfl _).ordered
      rfl _).ordered rfl _).settled

theorem Restores.settled {e : Engine} {plan : Plan ν} {start held : Option ν} {t : History ν}
    {r : Except ControlError Unit} (h : Restores e plan start held t r) (ht : t.Faultless) :
    Settled t := by
  obtain ⟨hback, hzero, d⟩ := h
  obtain ⟨hparts, -⟩ := History.faultless_append.mp ht
  obtain ⟨hramp, hreturn⟩ := History.faultless_append.mp hparts
  have hwrites : ∀ i ∈ backWrites e plan start held, i.isSweep = false := by
    unfold backWrites
    split <;> simp [rampWrites, Instruction.isSweep]
  have hramped := hback.settled_orders hwrites (History.faultless_cons.mp hramp).2
  refine History.Settled.append (.append ?_ (hzero.settled hreturn)) (settled_ordered rfl d)
  exact hramped.cons fun _ _ => Occurrence.not_startsSweep_published

theorem Checked.startsNone {e : Engine} {plan : Plan ν} {start : Option ν} {guard : History ν}
    (h : Checked e plan start guard) : StartsNone guard := by
  cases h with
  | swept hsteps hknown => exact ((History.startsNone_nil.ordered rfl _).published _).inspected _ _
  | stepped hsteps hknown hknown' =>
    exact (((History.startsNone_nil.ordered rfl _).ordered rfl _).published _).inspected _ _

/-- **A run of a plan leaves nothing sweeping**, unless the link fails. -/
theorem Autosweeps.settled {e : Engine} {plan : Plan ν} {t : History ν}
    {r : Except ControlError Outcome} (h : Autosweeps e plan t r) (ht : t.Faultless) :
    Settled t := by
  have hend (state : State ν) : StartsNone [.published state] :=
    History.startsNone_nil.published state
  cases h with
  | cancelled => exact ((hend _).inspected _ _).settled
  | unread fault => simp [Occurrence.fault?] at ht
  | unknown h => exact ((((hend _).ordered rfl _).published _).inspected _ _).settled
  | stepUnread hsteps h fault => simp [Occurrence.fault?] at ht
  | stepUnknown hsteps h h' =>
    exact (((((hend _).ordered rfl _).ordered rfl _).published _).inspected _ _).settled
  | @ran start held guard body cleanup b c hguard hbody hcleanup =>
    obtain ⟨-, hran⟩ := History.faultless_append.mp ht
    obtain ⟨hparts, -⟩ := History.faultless_append.mp hran
    obtain ⟨htbody, htcleanup⟩ := History.faultless_append.mp hparts
    have hbody' := hbody.settled (regular_bodyScript e plan start _) htbody
    exact hguard.startsNone.settled.append
      ((hbody'.append (hcleanup.settled htcleanup)).append (hend _).settled)

/-! ## 4. Two sweeps at a time -/

theorem Makes.startsNone {moves : List (Move ν)} {t : History ν} {r : Except ControlError Unit}
    (h : Makes moves t r) (hmoves : ∀ i, .order i ∈ moves → i.isSweep = false) : StartsNone t := by
  induction h with
  | done => exact History.startsNone_nil
  | answered h ih =>
    exact (ih fun i hi => hmoves i (.tail _ hi)).ordered (hmoves _ List.mem_cons_self) _
  | lost fault => exact History.startsNone_nil.ordered (hmoves _ List.mem_cons_self) _
  | rested h ih => exact (ih fun i hi => hmoves i (.tail _ hi)).slept _ _ _
  | woken fault => exact History.startsNone_nil.slept _ _ _

omit [Quantity ν] in
/-- Moves that are not made to their end failed. -/
theorem Makes.not_faultless {moves : List (Move ν)} {t : History ν} {error : ControlError}
    (h : Makes moves t (.error error)) : ¬ t.Faultless := by
  generalize hr : (Except.error error : Except ControlError Unit) = r at h
  induction h with
  | done => cases hr
  | answered h ih => exact fun ht => ih hr (History.faultless_cons.mp ht).2
  | lost fault => simp [Occurrence.fault?]
  | rested h ih => exact fun ht => ih hr (History.faultless_cons.mp ht).2
  | woken fault => simp [Occurrence.fault?]

/-- **The moves of a linked sweep** end with the two sweeps, and start no other. -/
theorem Makes.linked {first second : Nat} {t : History ν}
    (h : Makes (linkedMoves first second) t (.ok ())) :
    ∃ (preparing : History ν) (up down : Reply) (slept : Bool), preparing.StartsNone ∧
      t = preparing ++ [.ordered (.sweepUp first) (.ok up),
        .slept .remote (Scale.count 1) (.ok slept), .ordered (.sweepDown second) (.ok down)] := by
  obtain ⟨preparing, t₂, hprep, hsweeps, rfl⟩ := h.split
  refine ⟨preparing, ?_⟩
  cases hsweeps with
  | @answered i up later t r h =>
  cases h with
  | @rested seconds slept later t r h =>
  cases h with
  | @answered i down later t r h =>
  cases h with
  | done =>
  refine ⟨up, down, slept, hprep.startsNone ?_, rfl⟩
  simp [preparingMoves, Instruction.isSweep]

/-- **A linked sweep that is cancelled** while the link does not fail has made all its moves, and
has told the first channel to stop. -/
theorem RecordsLinkage.of_cancelled {first second : Nat} {t : History ν} {operation : String}
    (h : RecordsLinkage first second token t (.error (.cancelled operation)))
    (ht : t.Faultless) :
    ∃ (moves : History ν) (wait : Occurrence ν) (d d' : Delivery),
      Makes (linkedMoves first second) moves (.ok ()) ∧
      wait.Cancels token (.catchSweep .zeroStop first) ∧
      t = moves ++ [wait, .ordered (.sweepStop first) d, .ordered (.setRecording false) d'] := by
  generalize hr : (Except.error (.cancelled operation) : Except ControlError Bool) = r at h
  obtain ⟨hlinks, d'⟩ := h
  obtain ⟨htlinks, htstop⟩ := History.faultless_append.mp ht
  cases hlinks with
  | broken h => exact absurd htlinks h.not_faultless
  | lost h fault => simp [Occurrence.fault?] at htlinks
  | caught h answer slept =>
    rcases slept with fault | slept
    · simp [Occurrence.fault?] at htlinks
    · rcases d' with fault | reply
      · simp [Occurrence.fault?] at htstop
      · cases hr
  | @stopped moves h wait hwait d => exact ⟨moves, wait, d, d', h, hwait, by simp⟩

omit [Quantity ν] in
/-- What comes after the moves of a cancelled linked sweep: it ends the sweep of the first channel
alone. -/
theorem ends_of_stopped (channel : Nat) {first : Nat} {wait : Occurrence ν}
    (hwait : wait.Cancels token (.catchSweep .zeroStop first)) (d d' : Delivery) :
    (∃ o ∈ [wait, .ordered (.sweepStop first) d, .ordered (.setRecording false) d'],
      o.Ends channel) ↔ channel = first := by
  constructor
  · rintro ⟨o, ho, hends⟩
    simp only [List.mem_cons, List.not_mem_nil, or_false] at ho
    rcases ho with rfl | rfl | rfl
    · rcases hwait with rfl | rfl <;> rcases hends with ⟨_, _, _, h⟩ | ⟨_, h⟩ <;> cases h
    · rcases hends with ⟨_, _, _, h⟩ | ⟨_, h⟩
      · cases h
      · cases h
        rfl
    · rcases hends with ⟨_, _, _, h⟩ | ⟨_, h⟩ <;> cases h
  · rintro rfl
    exact ⟨_, List.mem_cons_of_mem _ List.mem_cons_self, .inr ⟨d, rfl⟩⟩

/-- **When a cancelled linked sweep leaves nothing sweeping**: if both channels are one, or the
sweep of the second one was not acknowledged. -/
theorem RecordsLinkage.settled_iff {first second : Nat} {t : History ν} {operation : String}
    (h : RecordsLinkage first second token t (.error (.cancelled operation)))
    (ht : t.Faultless) :
    Settled t ↔ second = first ∨ ∀ o ∈ t, ¬ o.StartsSweep .down second := by
  obtain ⟨moves, wait, d, d', hmoves, hwait, rfl⟩ := h.of_cancelled ht
  obtain ⟨preparing, up, down, slept, hprep, rfl⟩ := hmoves.linked
  have hends (channel : Nat) := ends_of_stopped channel hwait d d'
  have hstop : StartsNone
      [wait, .ordered (.sweepStop first) d, .ordered (.setRecording false) d'] :=
    History.startsNone_cons.mpr ⟨fun _ _ hstarts => hstarts.not_waits (.inr hwait),
      (History.startsNone_nil.ordered rfl d').ordered rfl d⟩
  generalize [wait, .ordered (.sweepStop first) d, .ordered (.setRecording false) d'] = stopping
    at hends hstop
  rw [List.append_assoc, History.settled_append_of_startsNone hprep]
  constructor
  · intro hsettled
    have hdown := (History.settled_cons.mp (History.settled_cons.mp
      (History.settled_cons.mp hsettled).2).2).1 .down second
    by_cases hsame : second = first
    · exact .inl hsame
    · refine .inr fun o ho hstarts => ?_
      rcases List.mem_append.mp ho with ho | ho
      · exact hprep o ho .down second hstarts
      simp only [List.cons_append, List.nil_append, List.mem_cons] at ho
      rcases ho with rfl | rfl | rfl | ho
      · cases (Occurrence.startsSweep_ordered_iff.mp hstarts).1
      · exact Occurrence.not_startsSweep_slept hstarts
      · exact hsame ((hends second).mp (hdown hstarts))
      · exact hstop o ho .down second hstarts
  · intro h
    refine History.settled_cons.mpr ⟨fun direction channel hstarts => ?_, ?_⟩
    · obtain ⟨o, ho, hover⟩ := (hends first).mpr rfl
      rw [Occurrence.channel_eq_of_startsSweep .up hstarts]
      exact ⟨o, by simp [ho], hover⟩
    refine History.Settled.cons (fun _ _ => Occurrence.not_startsSweep_slept) ?_
    refine History.settled_cons.mpr ⟨fun direction channel hstarts => ?_, hstop.settled⟩
    obtain rfl := Occurrence.channel_eq_of_startsSweep .down hstarts
    refine (hends channel).mpr (h.resolve_right fun hnone => ?_)
    cases direction with
    | up => cases (Occurrence.startsSweep_ordered_iff.mp hstarts).1
    | down => exact hnone _ (by simp) hstarts

/-! ## 5. What is left sweeping -/

/-- **An action that is cancelled leaves nothing sweeping**, as long as the link does not fail. -/
def StopsWhenCancelled {α : Type} (s : Surroundings ν) (x : Action ν α) : Prop :=
  (s.history x.run).Faultless → ∀ operation, s.result x.run = .error (.cancelled operation) →
    Settled (s.history x.run)

/-- **What a cancelled operation leaves sweeping**, in any surroundings where the link does not
fail.  A run of a plan and a return to zero leave nothing.  A linked sweep leaves its second
channel, unless that is the first one as well or its sweep was not acknowledged. -/
theorem settled_when_cancelled (e : Engine) (s : Surroundings ν) :
    (∀ plan : Plan ν, StopsWhenCancelled s (Engine.autosweep e plan)) ∧
    (∀ channel, StopsWhenCancelled s (Engine.returnToZero e channel)) ∧
    ∀ first second operation,
      (s.history (Engine.sweepLinkage e first second).run).Faultless →
      s.result (Engine.sweepLinkage e first second).run = .error (.cancelled operation) →
      (Settled (s.history (Engine.sweepLinkage e first second).run) ↔
        second = first ∨ ∀ o ∈ s.history (Engine.sweepLinkage e first second).run,
          ¬ o.StartsSweep .down second) := by
  refine ⟨fun plan ht _ _ => ?_, fun channel ht _ _ => ?_, fun first second operation ht hr => ?_⟩
  · exact (runs_autosweep (s.history_runs _)).settled ht
  · exact (runs_zeroReturn (s.history_runs _)).settled ht
  · have hrecords := runs_sweepLinkage (s.history_runs (Engine.sweepLinkage e first second).run)
    rw [hr] at hrecords
    exact hrecords.settled_iff ht

/-- Surroundings whose backend acknowledges everything, and whose tokens have fired. -/
def cancelledBefore : Surroundings Float where
  deliver _ _ request :=
    match request with
    | .instruct i => .ok ⟨i.name⟩
    | .verbatim text => .ok ⟨text⟩
  interrupts _ _ _ := false
  fired _ _ := true
  sleep _ _ _ := .ok true

theorem reliable_cancelledBefore : cancelledBefore.Reliable where
  deliver past link request := by
    cases request with
    | instruct i => exact ⟨⟨i.name⟩, rfl⟩
    | verbatim text => exact ⟨⟨text⟩, rfl⟩
  sleep past link seconds := ⟨true, rfl⟩

theorem result_cancelledBefore (first second : Nat) :
    cancelledBefore.result (Engine.sweepLinkage {} first second).run =
      .error (.cancelled "catch_sweep_zerostop") := rfl

theorem settled_when_cancelled_oneChannel :
    Settled (cancelledBefore.history (Engine.sweepLinkage {} 1 1).run) :=
  ((settled_when_cancelled {} cancelledBefore).2.2 1 1 _
    (reliable_cancelledBefore.faultless _ []) (result_cancelledBefore 1 1)).mpr (.inl rfl)

/-- A linked sweep of two channels that is cancelled leaves the second one sweeping. -/
theorem second_channel_left_sweeping :
    (cancelledBefore.history (Engine.sweepLinkage {} 1 2).run).Faultless ∧
      cancelledBefore.result (Engine.sweepLinkage {} 1 2).run =
        .error (.cancelled "catch_sweep_zerostop") ∧
      ¬ Settled (cancelledBefore.history (Engine.sweepLinkage {} 1 2).run) := by
  refine ⟨reliable_cancelledBefore.faultless _ [], result_cancelledBefore 1 2, ?_⟩
  intro hsettled
  -- the sweep of channel 2 is acknowledged, and three occurrences follow it
  have hsuffix : [.ordered (.sweepDown 2) (.ok ⟨"sweep_down"⟩),
      .skipped .run (.catchSweep .zeroStop 1), .ordered (.sweepStop 1) (.ok ⟨"sweep_stop"⟩),
      .ordered (.setRecording false) (.ok ⟨"set_recording"⟩)] <:+
        cancelledBefore.history (Engine.sweepLinkage {} 1 2).run :=
    ⟨(cancelledBefore.history (Engine.sweepLinkage {} 1 2).run).take 9, rfl⟩
  have hends := hsettled _ _ hsuffix .down 2 ⟨⟨"sweep_down"⟩, rfl, by decide⟩
  exact absurd ((ends_of_stopped 2 (.inr rfl) _ _).mp hends) (by decide)

end Sweep

end LabControl
