/-
# The first failure is the one reported

An engine goes on after a failure: it stops the sweep that it waited for, gives a flag its former
value back, ramps the step channel back, ends the recording.  Each of these may fail in its turn,
and the errors meet in four places.  Whatever comes together in one run, the run ends with an error
just if something failed in it, and the error is that of the first failure
(`first_failure_reported`).

A run of a plan whose token has fired when it begins fails without an occurrence to show for it, so
`Reports` is told whether that is so.

There is one exception.  A cancelled wait is answered by a stop, and when the link fails on this
stop its failure is reported in place of the cancellation.  So the first failure of a history is
not always told by one occurrence, and `FirstFailure` looks at the stop as well.
-/
import LabControl.Proofs.Sweep.Autosweep
import LabControl.Proofs.Sweep.Linkage

namespace LabControl

variable {ν α : Type}

/-! ## 1. Failures -/

/-- **Something failed**: the link failed on an exchange, a wait or a sleep, or a wait was
cancelled. -/
def Occurrence.Fails (o : Occurrence ν) : Prop :=
  (∃ fault, o.fault? = some fault) ∨ ∃ token i, o.Cancels token i

/-- **The first failure of a history, and the error that is to be reported for it.** -/
inductive FirstFailure [Quantity ν] : History ν → ControlError → Prop where
  /-- The link failed. -/
  | lost {o : Occurrence ν} {fault : Fault} (h : o.fault? = some fault) (later : History ν) :
    FirstFailure (o :: later) fault.val
  /-- A wait was cancelled, and the stop was answered. -/
  | cancelled {wait : Occurrence ν} {token : Token} {event : Sweep.Event} {channel : Nat}
      (h : wait.Cancels token (.catchSweep event channel)) (reply : Reply) (later : History ν) :
    FirstFailure (wait :: .ordered (.sweepStop channel) (.ok reply) :: later)
      (.cancelled (Instruction.catchSweep event channel : Instruction ν).name)
  /-- A wait was cancelled, and the link failed on the stop. -/
  | unstopped {wait : Occurrence ν} {token : Token} {event : Sweep.Event} {channel : Nat}
      (h : wait.Cancels token (.catchSweep event channel)) (fault : Fault) (later : History ν) :
    FirstFailure (wait :: .ordered (.sweepStop channel) (.error fault) :: later) fault.val
  /-- Nothing failed here. -/
  | later {o : Occurrence ν} {t : History ν} {error : ControlError} (ho : ¬ o.Fails)
      (h : FirstFailure t error) : FirstFailure (o :: t) error

/-- **The failures of a call are reported by its result**: it is an error just if the engine was
cancelled on entry or something failed in the history, and then the one of what came first.  For a
call that does not ask on entry whether the engine was cancelled, `entry` is false. -/
structure Reports [Quantity ν] (entry : Prop) (t : History ν) (r : Except ControlError α) :
    Prop where
  fails_iff : (∃ error, r = .error error) ↔ entry ∨ ∃ o ∈ t, o.Fails
  entered : entry → r = .error (.cancelled "autosweep")
  first : ¬ entry → ∀ error, r = .error error → FirstFailure t error

/-! ## 2. Histories that explain an error -/

namespace Occurrence

@[simp] theorem not_fails_published {state : Sweep.State ν} : ¬ Fails (.published state) := by
  simp [Fails, fault?, Cancels]

@[simp] theorem not_fails_inspected {token : Token} {fired : Bool} :
    ¬ Fails (.inspected token fired : Occurrence ν) := by
  simp [Fails, fault?, Cancels]

@[simp] theorem not_fails_exchanged {link : Link} {request : Request ν} {reply : Reply} :
    ¬ Fails (.exchanged link request (.ok reply)) := by
  simp [Fails, fault?, Cancels]

@[simp] theorem not_fails_awaited {token : Token} {i : Instruction ν} {reply : Reply} :
    ¬ Fails (.awaited token i (.ok reply)) := by
  simp [Fails, fault?, Cancels]

@[simp] theorem not_fails_slept {link : Link} {seconds : ν} {slept : Bool} :
    ¬ Fails (.slept link seconds (.ok slept)) := by
  simp [Fails, fault?, Cancels]

end Occurrence

/-- The error that a result is, if it is one. -/
def errorOf : Except ControlError α → Option ControlError
  | .ok _ => none
  | .error error => some error

@[simp] theorem errorOf_ok (a : α) : errorOf (.ok a) = none := rfl

@[simp] theorem errorOf_error (error : ControlError) :
    errorOf (.error error : Except ControlError α) = some error := rfl

@[simp] theorem errorOf_map {β : Type} (f : α → β) (r : Except ControlError α) :
    errorOf (r.map f) = errorOf r := by
  cases r with
  | ok a => rfl
  | error error => rfl

variable [Quantity ν]

/-- **The history explains the error**, or that there is none. -/
def Explains (t : History ν) : Option ControlError → Prop
  | none => ∀ o ∈ t, ¬ o.Fails
  | some error => FirstFailure t error

/-- A first failure is one whatever comes later. -/
theorem FirstFailure.append {t : History ν} {error : ControlError} (h : FirstFailure t error)
    (u : History ν) : FirstFailure (t ++ u) error := by
  induction h with
  | lost h later => exact .lost h _
  | cancelled h reply later => exact .cancelled h reply _
  | unstopped h fault later => exact .unstopped h fault _
  | later ho h ih => exact .later ho ih

theorem FirstFailure.exists_fails {t : History ν} {error : ControlError}
    (h : FirstFailure t error) : ∃ o ∈ t, o.Fails := by
  induction h with
  | lost h later => exact ⟨_, List.mem_cons_self, .inl ⟨_, h⟩⟩
  | cancelled h reply later => exact ⟨_, List.mem_cons_self, .inr ⟨_, _, h⟩⟩
  | unstopped h fault later => exact ⟨_, List.mem_cons_self, .inr ⟨_, _, h⟩⟩
  | later ho h ih =>
    obtain ⟨o, hmem, ho⟩ := ih
    exact ⟨o, List.mem_cons_of_mem _ hmem, ho⟩

namespace Explains

variable {t u : History ν} {c c' : Option ControlError}

theorem nil : Explains ([] : History ν) none := by
  intro o ho
  cases ho

theorem cons {o : Occurrence ν} (ho : ¬ o.Fails) (h : Explains t c) : Explains (o :: t) c := by
  cases c with
  | none => exact List.forall_mem_cons.mpr ⟨ho, h⟩
  | some error => exact .later ho h

/-- **One history after another**: the first error counts. -/
theorem append (h : Explains t c) (hu : Explains u c') : Explains (t ++ u) (c.or c') := by
  cases c with
  | some error => exact FirstFailure.append h u
  | none =>
    induction t with
    | nil => exact hu
    | cons o t ih =>
      obtain ⟨ho, ht⟩ := List.forall_mem_cons.mp h
      exact cons ho (ih ht)

/-- A history that explains a result reports its failures by it, if the engine was not cancelled on
entry. -/
theorem reports {entry : Prop} (hentry : ¬ entry) {r : Except ControlError α}
    (h : Explains t (errorOf r)) : Reports entry t r where
  fails_iff := by
    cases r with
    | ok a =>
      constructor
      · rintro ⟨error, he⟩
        cases he
      · rintro (hcancelled | ⟨o, ho, hfails⟩)
        · exact absurd hcancelled hentry
        · exact absurd hfails (h o ho)
    | error error => exact ⟨fun _ => .inr (FirstFailure.exists_fails h), fun _ => ⟨error, rfl⟩⟩
  entered hcancelled := absurd hcancelled hentry
  first _ error he := by
    subst he
    exact h

theorem published (state : Sweep.State ν) : Explains [.published state] none :=
  nil.cons Occurrence.not_fails_published

/-- An exchange explains the failure of the link on it. -/
theorem exchanged (link : Link) (request : Request ν) (d : Delivery) :
    Explains [.exchanged link request d] (errorOf (told d)) := by
  rcases d with fault | reply
  · exact .lost rfl []
  · exact cons Occurrence.not_fails_exchanged nil

/-- A sleep explains the failure of the link on it. -/
theorem slept (link : Link) (seconds : ν) (d : Except Fault Bool) :
    Explains [.slept link seconds d] (errorOf (told d)) := by
  rcases d with fault | slept
  · exact .lost rfl []
  · exact cons Occurrence.not_fails_slept nil

/-- **A cancelled wait and its stop** explain the failure of the stop, or else the
cancellation. -/
theorem stopped {wait : Occurrence ν} {token : Token} {event : Sweep.Event} {channel : Nat}
    (h : wait.Cancels token (.catchSweep event channel)) (d : Delivery) :
    Explains [wait, .ordered (.sweepStop channel) d] (errorOf ((told d).bind fun _ =>
      (.error (.cancelled (Instruction.catchSweep event channel : Instruction ν).name) :
        Except ControlError Bool))) := by
  rcases d with fault | reply
  · exact .unstopped h fault []
  · exact .cancelled h reply []

end Explains

omit [Quantity ν] in
theorem errorOf_bind {β : Type} (r : Except ControlError α) (f : α → Except ControlError β)
    {c : Option ControlError} (hf : ∀ a, errorOf (f a) = c) :
    errorOf (r.bind f) = (errorOf r).or c := by
  cases r with
  | ok a => exact hf a
  | error error => rfl

/-- The first of two errors, where the second result is only asked for its error. -/
theorem errorOf_bind_map {β : Type} (r : Except ControlError α) (r' : Except ControlError β) :
    errorOf (r.bind fun a => r'.map fun _ => a) = (errorOf r).or (errorOf r') :=
  errorOf_bind r _ fun _ => errorOf_map _ r'

namespace Sweep

/-! ## 3. The parts of a run -/

theorem Sweeps.explains {direction : Direction} {channel : Nat} {event : Event} {token : Token}
    {t : History ν} {r : Except ControlError Bool} (h : Sweeps direction channel event token t r) :
    Explains t (errorOf r) := by
  cases h with
  | lost fault => exact .lost rfl []
  | rejected h => exact .cons Occurrence.not_fails_exchanged .nil
  | awaited h d =>
    refine .cons Occurrence.not_fails_exchanged ?_
    rcases d with fault | answer
    · exact .lost rfl []
    · exact .cons Occurrence.not_fails_awaited .nil
  | stopped h hwait d => exact .cons Occurrence.not_fails_exchanged (.stopped hwait d)

theorem Follows.explains {token : Token} {channel : Nat} {s : Script ν} {held held' : Option ν}
    {t : History ν} {r : Except ControlError Unit} (h : Follows token channel s held t held' r) :
    Explains t (errorOf r) := by
  induction h with
  | done held => exact .nil
  | announce h ih => exact ih.cons Occurrence.not_fails_published
  | arrive h ih => exact ih
  | answered h ih => exact ih.cons Occurrence.not_fails_exchanged
  | lost fault => exact .lost rfl []
  | swept hs h ih => exact hs.explains.append ih
  | broken hs => exact hs.explains

/-- A sweep under a forced zero stop and the reset of the flag: the sweep's error counts
first. -/
theorem ReturnsToZero.explains {tool : String} {channel : Nat} {token : Token} {t : History ν}
    {r : Except ControlError Bool} (h : ReturnsToZero tool channel token t r) :
    Explains t (errorOf r) := by
  cases h with
  | unread fault => exact .lost rfl []
  | unneeded h => exact .cons Occurrence.not_fails_exchanged .nil
  | unforced h hu => exact hu.explains.cons Occurrence.not_fails_exchanged
  | @bracketed reply h panel sweep flag hflag former forced swept caught hswept d =>
    have hforced : Explains ([.ordered (.readChannel channel) (.ok reply),
        .ordered .getPanel (.ok panel), .ordered (.getSweepId channel) (.ok sweep),
        .ordered (.getVar flag) (.ok former), .ordered (.setVar (flag ++ "=1")) (.ok forced)] :
        History ν) none := by
      simp [Explains]
    rw [errorOf_bind_map]
    exact (hforced.append hswept.explains).append (.exchanged .remote _ d)

theorem Restores.explains {e : Engine} {plan : Plan ν} {start held : Option ν} {t : History ν}
    {r : Except ControlError Unit} (h : Restores e plan start held t r) :
    Explains t (errorOf r) := by
  obtain ⟨hback, hzero, d⟩ := h
  rw [errorOf_bind _ _ fun _ => errorOf_bind _ _ fun _ => errorOf_map _ _, ← Option.or_assoc]
  have hramped := (Explains.published .restore).append hback.explains
  exact (hramped.append hzero.explains).append (.exchanged .remote _ d)

theorem Checked.explains {e : Engine} {plan : Plan ν} {start : Option ν} {guard : History ν}
    (h : Checked e plan start guard) : Explains guard none := by
  cases h with
  | swept hsteps hknown => simp [Explains]
  | stepped hsteps hknown hknown' => simp [Explains]

omit [Quantity ν] in
theorem errorOf_concluded (total : Nat) (body cleanup : Except ControlError Unit) :
    errorOf (concluded (ν := ν) total body cleanup).2 = (errorOf body).or (errorOf cleanup) := by
  cases body with
  | error error => rfl
  | ok a =>
    cases cleanup with
    | error error => rfl
    | ok b => rfl

/-- **A run of a plan explains its result**, unless the engine was cancelled on entry. -/
theorem Autosweeps.explains {e : Engine} {plan : Plan ν} {rest : History ν}
    {r : Except ControlError Outcome} (h : Autosweeps e plan (.inspected e.token false :: rest) r) :
    Explains (.inspected e.token false :: rest) (errorOf r) := by
  generalize ht : (.inspected e.token false :: rest : History ν) = t at h ⊢
  cases h with
  | cancelled => cases ht
  | unread fault => exact .cons (by simp) (.cons (by simp) (.lost rfl []))
  | unknown h => simp [Explains]
  | stepUnread hsteps h fault =>
    exact .cons (by simp) (.cons (by simp) (.cons (by simp) (.lost rfl [])))
  | stepUnknown hsteps h h' => simp [Explains]
  | @ran start held guard body cleanup b c hguard hbody hcleanup =>
    have hrun := hbody.explains.append hcleanup.explains
    have hend := hrun.append (.published (concluded plan.steps.pairCount b c).1)
    rw [Option.or_none] at hend
    rw [errorOf_concluded]
    exact hguard.explains.append hend

/-- **A run of a plan reports its failures**, the cancellation on entry among them. -/
theorem reports_autosweep (e : Engine) (plan : Plan ν) (s : Surroundings ν) :
    Reports (s.fired [] e.token = true) (s.history (Engine.autosweep e plan).run)
      (s.result (Engine.autosweep e plan).run) := by
  have hruns := runs_autosweep (s.history_runs (Engine.autosweep e plan).run)
  obtain ⟨rest, hbegins⟩ := exists_history_autosweep e plan s
  rw [hbegins] at hruns ⊢
  cases hentry : s.fired [] e.token with
  | true =>
    rw [hentry] at hruns
    obtain ⟨rfl, hr⟩ := hruns.of_fired
    exact ⟨⟨fun _ => .inl rfl, fun _ => ⟨_, hr⟩⟩, fun _ => hr, fun hnot => absurd rfl hnot⟩
  | false =>
    rw [hentry] at hruns
    exact hruns.explains.reports Bool.false_ne_true

/-! ## 4. A linked sweep -/

theorem Makes.explains {moves : List (Move ν)} {t : History ν} {r : Except ControlError Unit}
    (h : Makes moves t r) : Explains t (errorOf r) := by
  induction h with
  | done => exact .nil
  | answered h ih => exact ih.cons Occurrence.not_fails_exchanged
  | lost fault => exact .lost rfl []
  | rested h ih => exact ih.cons Occurrence.not_fails_slept
  | woken fault => exact .lost rfl []

theorem LinksSweeps.explains {first second : Nat} {token : Token} {t : History ν}
    {r : Except ControlError Bool} (h : LinksSweeps first second token t r) :
    Explains t (errorOf r) := by
  cases h with
  | broken h => exact h.explains
  | lost h fault => exact h.explains.append (.lost rfl [])
  | caught h answer slept =>
    rw [errorOf_map]
    exact h.explains.append (.cons Occurrence.not_fails_awaited (.slept .remote _ slept))
  | stopped h hwait d => exact h.explains.append (.stopped hwait d)

theorem RecordsLinkage.explains {first second : Nat} {token : Token} {t : History ν}
    {r : Except ControlError Bool} (h : RecordsLinkage first second token t r) :
    Explains t (errorOf r) := by
  obtain ⟨h, d⟩ := h
  rw [errorOf_bind_map]
  exact h.explains.append (.exchanged .remote _ d)

/-- The last command of the routine ends the recording. -/
theorem RecordsLinkage.getLast?_sent {first second : Nat} {token : Token} {t : History ν}
    {r : Except ControlError Bool} (h : RecordsLinkage first second token t r) :
    t.sent.getLast? = some (.remote, .instruct (.setRecording false)) := by
  obtain ⟨h, d⟩ := h
  simp [History.sent_cons, Occurrence.sent?]

/-! ## 5. What is reported -/

/-- **No failure is swallowed, and the first one is reported**, in any surroundings: by a run of a
plan, by a return to zero, and by a linked sweep, whose last command ends the recording in any
case.  A run of a plan fails as well if the engine was cancelled before it. -/
theorem first_failure_reported (e : Engine) (s : Surroundings ν) :
    (∀ plan : Plan ν,
      Reports (s.fired [] e.token = true) (s.history (Engine.autosweep e plan).run)
        (s.result (Engine.autosweep e plan).run)) ∧
    (∀ channel,
      Reports False (s.history (Engine.returnToZero e channel).run)
        (s.result (Engine.returnToZero e channel).run)) ∧
    ∀ first second,
      Reports False (s.history (Engine.sweepLinkage e first second).run)
        (s.result (Engine.sweepLinkage e first second).run) ∧
      (s.history (Engine.sweepLinkage e first second).run).sent.getLast? =
        some (.remote, .instruct (.setRecording false)) := by
  refine ⟨fun plan => reports_autosweep e plan s, fun channel => ?_, fun first second => ?_⟩
  · exact (runs_zeroReturn (s.history_runs _)).explains.reports not_false
  · have hrecords := runs_sweepLinkage (s.history_runs (Engine.sweepLinkage e first second).run)
    exact ⟨hrecords.explains.reports not_false, hrecords.getLast?_sent⟩

end Sweep

end LabControl
