/-
# Plans with nothing to step to

A schedule that steps a channel through no targets has one pair, and nothing is stepped before it.
The plan is still not the one of a single pair without a step channel: the check reads the step
channel, and the cleanup ramps it back from the value that it was read to have to that same value.

A run of the one plan is turned here into the run of the other that meets the same replies, faults
and tokens, and the two are the same but for that query and that ramp.
-/
import LabControl.Proofs.Sweep.Ramps
import LabControl.Proofs.Sweep.Bracket
import LabControl.Proofs.Sweep.Cancellation

namespace LabControl.Sweep

open LabControl.Action (Runs)

variable {ν : Type}

/-- The plan with a step channel, but nothing to step it to. -/
def Plan.untargeted (plan : Plan ν) (output : Nat) : Plan ν :=
  { plan with steps := .stepping output [] }

/-- The plan with a single pair and no step channel. -/
def Plan.unstepped (plan : Plan ν) : Plan ν := { plan with steps := .repeating 1 }

variable [Quantity ν] {e : Engine} {plan : Plan ν} {start : Option ν} {t : History ν}

/-! ## 1. A body of one pair -/

/-- Prepare, and run one pair. -/
def onlyPair (e : Engine) (plan : Plan ν) : Action ν Unit := do
  Engine.prepare e plan.channel
  Engine.pair e plan 0

/-- A body with nothing to step to is one pair, and the step channel stays where it is. -/
theorem body_eq_onlyPair (hsingle : plan.steps.iterations = [none]) :
    Engine.body e plan start =
      (onlyPair e plan).run.bind fun b => .done (start, b.map fun _ => 1) := by
  have hpairs : Engine.pairs e plan 1 0 [none] start =
      (Engine.pair e plan 0).run.bind fun b => .done (start, b) := by
    refine congrArg (Engine.pair e plan 0).run.bind (funext fun b => ?_)
    rcases b with error | ⟨⟩
    · rfl
    · rfl
  have hrun : (onlyPair e plan).run = (Engine.prepare e plan.channel).run.bind
      (ExceptT.bindCont fun _ => Engine.pair e plan 0) := rfl
  simp only [Engine.body, hsingle, List.length_singleton, hpairs]
  rw [hrun, Program.bind_assoc]
  refine congrArg (Engine.prepare e plan.channel).run.bind (funext fun b => ?_)
  rcases b with error | ⟨⟩
  · rfl
  · exact Program.bind_assoc _ _ _

theorem runs_body_iff (hsingle : plan.steps.iterations = [none]) {held : Option ν}
    {r : Except ControlError Nat} :
    (Engine.body e plan start).Runs t (held, r) ↔
      held = start ∧ ∃ b, Runs (onlyPair e plan) t b ∧ r = b.map fun _ => 1 := by
  rw [body_eq_onlyPair hsingle, Program.runs_bind]
  constructor
  · rintro ⟨b, t₁, t₂, hb, ⟨rfl, hr⟩, rfl⟩
    cases hr
    exact ⟨rfl, b, by rwa [List.append_nil], rfl⟩
  · rintro ⟨rfl, b, hb, rfl⟩
    exact ⟨b, t, [], hb, ⟨rfl, rfl⟩, (List.append_nil t).symm⟩

/-! ## 2. The cleanup -/

/-- **The end of a cleanup**: the return to zero and the end of the recording, the second whatever
became of the first. -/
def EndsCleanup (e : Engine) (channel : Nat) (t : History ν) (r : Except ControlError Unit) :
    Prop :=
  ∃ (returned : Except ControlError Bool) (zero : History ν) (d : Delivery),
    Runs (zeroReturn e.panelTool channel .cleanup) zero returned ∧
      t = zero ++ [.ordered (.setRecording false) d] ∧
      r = Engine.firstError (.ok ()) (returned.map fun _ => ()) ((told d).map fun _ => ())

/-- A cleanup is the ramp back and its end, and the error of the ramp comes first. -/
theorem runs_restore_iff {held : Option ν} {r : Except ControlError Unit} :
    Runs (Engine.restore e plan start held) t r ↔
      ∃ (ramped ended : Except ControlError Unit) (back rest : History ν),
        Runs (Engine.rampBack e plan.steps start held) back ramped ∧
          EndsCleanup e plan.channel rest ended ∧
          t = .published .restore :: (back ++ rest) ∧ r = ramped.bind fun _ => ended := by
  have hfirst (ramped returned stopped : Except ControlError Unit) :
      Engine.firstError ramped returned stopped =
        ramped.bind fun _ => Engine.firstError (.ok ()) returned stopped := by
    rcases ramped with error | ⟨⟩
    · rfl
    · rfl
  simp only [Engine.restore, Action.runs_publish_bind, Action.runs_attempt_bind,
    Client.runs_check, Action.runs_settle]
  constructor
  · rintro ⟨u, rfl, ramped, back, t₂, hb, ⟨returned, zero, t₃, hz, ⟨stopped, t₄, t₅,
      ⟨d, rfl, rfl⟩, ⟨rfl, rfl⟩, rfl⟩, rfl⟩, rfl⟩
    refine ⟨ramped, _, back, _, hb, ⟨returned, zero, d, hz, rfl, rfl⟩, by simp, ?_⟩
    rw [map_map_unit, hfirst]
  · rintro ⟨ramped, ended, back, rest, hb, ⟨returned, zero, d, hz, rfl, rfl⟩, rfl, rfl⟩
    refine ⟨_, rfl, ramped, back, _, hb, ⟨returned, zero, _, hz,
      ⟨_, _, [], ⟨d, rfl, rfl⟩, ⟨rfl, ?_⟩, rfl⟩, rfl⟩, by simp⟩
    rw [map_map_unit, ← hfirst]

/-! ## 3. The run after the check -/

/-- **What follows the check of a plan with nothing to step to.** -/
theorem runs_sweepAll_iff (hsingle : plan.steps.iterations = [none])
    {r : Except ControlError Outcome} :
    Runs (Engine.sweepAll e plan start) t r ↔
      ∃ (b ramped ended : Except ControlError Unit) (body back rest : History ν),
        Runs (onlyPair e plan) body b ∧
          Runs (Engine.rampBack e plan.steps start start) back ramped ∧
          EndsCleanup e plan.channel rest ended ∧
          t = body ++ .published .restore :: (back ++ (rest ++
            [.published (concluded 1 b (ramped.bind fun _ => ended)).1])) ∧
          r = (concluded (ν := ν) 1 b (ramped.bind fun _ => ended)).2 := by
  simp only [Engine.sweepAll, Action.runs_lift_bind, Action.runs_attempt_bind]
  constructor
  · rintro ⟨⟨held, result⟩, body, t₁, hbody, ⟨c, cleanup, t₂, hcleanup, hend, rfl⟩, rfl⟩
    obtain ⟨rfl, b, hb, rfl⟩ := (runs_body_iff hsingle).mp hbody
    obtain ⟨ramped, ended, back, rest, hramp, hends, rfl, rfl⟩ := runs_restore_iff.mp hcleanup
    obtain ⟨rfl, rfl⟩ := runs_conclude_iff.mp hend
    exact ⟨b, ramped, ended, body, back, rest, hb, hramp, hends, by simp, rfl⟩
  · rintro ⟨b, ramped, ended, body, back, rest, hb, hramp, hends, rfl, rfl⟩
    refine ⟨(start, b.map fun _ => 1), body, _, (runs_body_iff hsingle).mpr ⟨rfl, b, hb, rfl⟩,
      ⟨_, _, _, runs_restore_iff.mpr ⟨ramped, ended, back, rest, hramp, hends, rfl, rfl⟩,
        runs_conclude_iff.mpr ⟨rfl, rfl⟩, rfl⟩, by simp⟩

/-- A channel is read, and what follows goes by the reading. -/
theorem runs_readChannel_bind {α : Type} {channel : Nat} {reply : Reply}
    {f : ChannelReading ν → Action ν α} {r : Except ControlError α} :
    Runs (Client.readChannel channel >>= f) (.ordered (.readChannel channel) (.ok reply) :: t) r ↔
      Runs (f reply.channelReading) t r := by
  constructor
  · rintro ⟨d, u, ht, h⟩
    cases ht
    exact h
  · exact fun h => ⟨_, _, rfl, h⟩

/-- Once the check is passed, a run is what follows it. -/
theorem runs_autosweep_iff {guard : History ν} (hguard : Checked e plan start guard)
    {r : Except ControlError Outcome} :
    Runs (Engine.autosweep e plan) (guard ++ t) r ↔ Runs (Engine.sweepAll e plan start) t r := by
  cases hguard with
  | swept hsteps hknown =>
    simp [Engine.autosweep, Action.runs_fired_bind, Action.runs_publish_bind,
      runs_readChannel_bind, hknown, hsteps]
  | stepped hsteps hknown hknown' =>
    simp [Engine.autosweep, Action.runs_fired_bind, Action.runs_publish_bind,
      runs_readChannel_bind, hknown, hknown', hsteps]

/-! ## 4. The two plans -/

/-- **Two runs that differ by a query and a ramp**: the first reads its step channel in the check,
and in the cleanup it ramps that channel from the value it has to the same value.  Everything else
happens in both, with the same replies and faults, and they end alike unless the ramp fails. -/
inductive DiffersByRamp (e : Engine) (plan : Plan ν) (output : Nat) (value : ν) :
    History ν → Except ControlError Outcome → History ν → Except ControlError Outcome → Prop where
  | intro {body back rest : History ν} {reading reply : Reply}
      {b ramped ended : Except ControlError Unit}
      (hvalue : (reply.channelReading : ChannelReading ν).value = value)
      (hback : Follows .cleanup plan.channel (orders (rampWrites e output value value))
        (some value) back (some value) ramped) :
    DiffersByRamp e plan output value
      ([.inspected e.token false, .published .validateChannels,
          .ordered (.readChannel plan.channel) (.ok reading),
          .ordered (.readChannel output) (.ok reply)] ++
        (body ++ .published .restore :: (back ++ (rest ++
          [.published (concluded 1 b (ramped.bind fun _ => ended)).1]))))
      (concluded (ν := ν) 1 b (ramped.bind fun _ => ended)).2
      ([.inspected e.token false, .published .validateChannels,
          .ordered (.readChannel plan.channel) (.ok reading)] ++
        (body ++ .published .restore :: (rest ++ [.published (concluded 1 b ended).1])))
      (concluded (ν := ν) 1 b ended).2

/-- A run with nothing to step to has a run without a step channel beside it. -/
theorem exists_unstepped {output : Nat} {value : ν} {guard : History ν}
    {r : Except ControlError Outcome}
    (hguard : Checked e (plan.untargeted output) (some value) guard) (hbegins : guard <+: t)
    (h : Runs (Engine.autosweep e (plan.untargeted output)) t r) :
    ∃ t' r', Runs (Engine.autosweep e plan.unstepped) t' r' ∧
      DiffersByRamp e plan output value t r t' r' := by
  obtain ⟨u, rfl⟩ := hbegins
  obtain ⟨b, ramped, ended, body, back, rest, hb, hramp, hends, rfl, rfl⟩ :=
    (runs_sweepAll_iff rfl).mp ((runs_autosweep_iff hguard).mp h)
  have hback : Follows .cleanup plan.channel (orders (rampWrites e output value value))
      (some value) back (some value) ramped :=
    (performs_rampBack e (plan.untargeted output) (some value) (some value)).follows hramp _
  cases hguard with
  | @stepped output' hsteps reply reply' hknown hknown' =>
    obtain rfl : output = output' := Option.some.inj hsteps
    -- the parts of the run but for the query and the ramp make a run of the other plan
    have hcheck : Checked e plan.unstepped none
        [.inspected e.token false, .published .validateChannels,
          .ordered (.readChannel plan.channel) (.ok reply)] := .swept rfl hknown
    have hnoramp : Runs (Engine.rampBack e plan.unstepped.steps none none) [] (.ok ()) :=
      Action.runs_pure.mpr ⟨rfl, rfl⟩
    have hlater : Runs (Engine.sweepAll e plan.unstepped none)
        (body ++ .published .restore :: (rest ++ [.published (concluded 1 b ended).1]))
        (concluded (ν := ν) 1 b ended).2 :=
      (runs_sweepAll_iff rfl).mpr
        ⟨b, .ok (), ended, body, [], rest, hb, hnoramp, hends, rfl, rfl⟩
    exact ⟨_, _, (runs_autosweep_iff hcheck).mpr hlater, .intro rfl hback⟩

/-! ## 5. What is written -/

/-- A run without a step channel writes nothing. -/
theorem Autosweeps.writes_of_repeating {sweeps : Nat} (hsteps : plan.steps = .repeating sweeps)
    {r : Except ControlError Outcome} (h : Autosweeps e plan t r) (output : Nat) :
    History.writes output t = [] := by
  cases h with
  | cancelled => rfl
  | unread fault => rfl
  | unknown h => rfl
  | stepUnread hsome h fault => rfl
  | stepUnknown hsome h h' => rfl
  | @ran start held guard body cleanup b c hguard hbody hcleanup =>
    have hguarded : History.writes output guard = [] := by
      cases hguard with
      | swept hnone hknown => rfl
      | stepped hsome hknown hknown' => rfl
    have hbodied : History.writes output body = [] := by
      refine hbody.writes_eq_nil fun value => ?_
      simp [bodyScript, blocks, hsteps, pairScript_eq, orders, idQueries, settings]
    have hcleaned : History.writes output cleanup = [] := by
      rcases hcleanup with @⟨back, zero, ramped, returned, hback, hzero, d⟩
      have hback : History.writes output back = [] := hback.writes_eq_nil fun value => by
        simp [orders, backWrites, hsteps]
      have hzero : History.writes output zero = [] := hzero.silent.1
      simp [writes_cons, hback, hzero, Occurrence.sent?, written?]
    rw [writes_append, writes_append, writes_append, hguarded, hbodied, hcleaned]
    rfl

section Ramp

variable {token : Token} {channel output : Nat} {begin finish : ν} {held held' : Option ν}
  {back : History ν} {ramped : Except ControlError Unit}

/-- A ramp writes at least once. -/
theorem exists_writes_of_ramp
    (h : Follows token channel (orders (rampWrites e output begin finish)) held back held'
      ramped) :
    ∃ m, 1 ≤ m ∧ History.writes output back = (rampValues begin finish e.rampPoints).take m := by
  rw [rampWrites] at h
  obtain ⟨m, -, hwrites, hok, herror⟩ := follows_writes h
  refine ⟨m, ?_, hwrites⟩
  rcases ramped with error | ⟨⟩
  · exact herror error rfl
  · rw [hok rfl, length_rampValues]
    exact Nat.le_add_left 1 _

/-- A ramp writes to its own channel alone. -/
theorem writes_of_ramp_of_ne
    (h : Follows token channel (orders (rampWrites e output begin finish)) held back held' ramped)
    {other : Nat} (hother : other ≠ output) : History.writes other back = [] :=
  h.writes_eq_nil fun x => by simp [orders, rampWrites, Ne.symm hother]

/-- A ramp is complete unless one of its writes is lost. -/
theorem complete_or_lost_of_ramp
    (h : Follows token channel (orders (rampWrites e output begin finish)) held back held'
      ramped) :
    (ramped = .ok () ∧ History.writes output back = rampValues begin finish e.rampPoints) ∨
      ∃ x fault, .ordered (.setDac output x) (.error fault) ∈ back := by
  rcases ramped with error | ⟨⟩
  · obtain ⟨js, i, later, before, fault, his, rfl, -⟩ := h.exists_lost
    have hi : i ∈ rampWrites e output begin finish := by simp [his]
    obtain ⟨x, -, rfl⟩ := List.mem_map.mp hi
    exact .inr ⟨x, fault, by simp⟩
  · rw [rampWrites] at h
    obtain ⟨m, -, hwrites, hok, -⟩ := follows_writes h
    rw [hok rfl, List.take_length] at hwrites
    exact .inl ⟨rfl, hwrites⟩

end Ramp

/-- **The ramp that makes the difference**: it holds all that is written, and only its failure can
change the result. -/
theorem DiffersByRamp.exists_back {output : Nat} {value : ν} {t' : History ν}
    {r r' : Except ControlError Outcome} (h : DiffersByRamp e plan output value t r t' r')
    (hnone : ∀ c, History.writes c t' = []) :
    ∃ back ramped, Follows .cleanup plan.channel (orders (rampWrites e output value value))
        (some value) back (some value) ramped ∧
      (∀ c, History.writes c t = History.writes c back) ∧ (∀ o ∈ back, o ∈ t) ∧
      (ramped = .ok () → r' = r) := by
  rcases h with @⟨body, back, rest, reading, reply, b, ramped, ended, hvalue, hback⟩
  refine ⟨back, ramped, hback, fun c => ?_, fun o ho => by simp [ho], ?_⟩
  · have hparts := hnone c
    simp only [writes_append, writes_cons, List.append_eq_nil_iff] at hparts
    simp [writes_cons, hparts, Occurrence.sent?, written?]
  · rintro rfl
    rfl

/-- **A plan with nothing to step to writes all the same.**  In any surroundings, a run of it that
passes its check has beside it a run of the plan without a step channel that meets the same
replies and faults.  The two differ by the query of the step channel, and by a ramp in the cleanup
that writes the value of that channel to it again, at least once; the run without a step channel
writes nothing.  Unless one of these writes is lost, the ramp is complete and the results are the
same. -/
theorem untargeted_differs_by_ramp (e : Engine) (plan : Plan ν) (output : Nat)
    (s : Surroundings ν) {value : ν} {guard : History ν}
    (hguard : Checked e (plan.untargeted output) (some value) guard)
    (hbegins : guard <+: s.history (Engine.autosweep e (plan.untargeted output)).run) :
    let t := s.history (Engine.autosweep e (plan.untargeted output)).run
    let r := s.result (Engine.autosweep e (plan.untargeted output)).run
    ∃ t' r', Runs (Engine.autosweep e plan.unstepped) t' r' ∧
      DiffersByRamp e plan output value t r t' r' ∧
      (∀ c, History.writes c t' = []) ∧
      (∃ m, 1 ≤ m ∧ History.writes output t = (rampValues value value e.rampPoints).take m) ∧
      (∀ c, c ≠ output → History.writes c t = []) ∧
      ((r' = r ∧ History.writes output t = rampValues value value e.rampPoints) ∨
        ∃ x fault, .ordered (.setDac output x) (.error fault) ∈ t) := by
  intro t r
  obtain ⟨t', r', hruns, hdiffers⟩ := exists_unstepped hguard hbegins (s.history_runs _)
  have hnone (c : Nat) : History.writes c t' = [] :=
    (runs_autosweep hruns).writes_of_repeating rfl c
  obtain ⟨back, ramped, hback, hwrites, hmem, hsame⟩ := hdiffers.exists_back hnone
  refine ⟨t', r', hruns, hdiffers, hnone, ?_, fun c hc => ?_, ?_⟩
  · rw [hwrites]
    exact exists_writes_of_ramp hback
  · rw [hwrites]
    exact writes_of_ramp_of_ne hback hc
  · rcases complete_or_lost_of_ramp hback with ⟨hok, hall⟩ | ⟨x, fault, hx⟩
    · exact .inl ⟨hsame hok, (hwrites output).trans hall⟩
    · exact .inr ⟨x, fault, hmem _ hx⟩

/-- The history of a pair on channel 3, with nothing to step channel 2 to. -/
def untargetedHistory : History Float :=
  obliging.history (Engine.autosweep {} (onePair.untargeted 2)).run

/-- What every channel is read to have there. -/
def obligingReading : Reply := ⟨"read_channel;value|1.5;known|1"⟩

/-- The check of that run. -/
def untargetedGuard : History Float :=
  [.inspected .run false, .published .validateChannels,
    .ordered (.readChannel 3) (.ok obligingReading),
    .ordered (.readChannel 2) (.ok obligingReading)]

theorem checked_untargetedGuard :
    Checked {} (onePair.untargeted 2)
      (some (obligingReading.channelReading : ChannelReading Float).value) untargetedGuard := by
  have hknown : (obligingReading.channelReading : ChannelReading Float).known = true := rfl
  exact .stepped rfl hknown hknown

theorem untargetedHistory_begins : untargetedGuard <+: untargetedHistory :=
  ⟨untargetedHistory.drop 4, rfl⟩

theorem untargeted_differs_by_ramp_obliging :
    ∃ t' r', Runs (Engine.autosweep {} onePair.unstepped) t' r' ∧
      History.writes 2 t' = [] ∧ 1 ≤ (History.writes 2 untargetedHistory).length := by
  obtain ⟨t', r', hruns, -, hnone, ⟨m, hm, hwrites⟩, -⟩ :=
    untargeted_differs_by_ramp {} onePair 2 obliging checked_untargetedGuard
      untargetedHistory_begins
  refine ⟨t', r', hruns, hnone 2, ?_⟩
  rw [untargetedHistory, hwrites, List.length_take, length_rampValues]
  exact Nat.le_min.mpr ⟨hm, Nat.le_add_left 1 _⟩

/-- **Twenty-one writes without a target**, after a passed check and on a link that never fails. -/
theorem writes_without_targets :
    (∃ value, Checked {} (onePair.untargeted 2) (some value) untargetedGuard) ∧
      untargetedGuard <+: untargetedHistory ∧ (∀ o ∈ untargetedHistory, o.fault? = none) ∧
      (History.writes 2 untargetedHistory).length = 21 := by
  have hfaults : untargetedHistory.filterMap Occurrence.fault? = [] := by
    with_unfolding_all rfl
  refine ⟨⟨_, checked_untargetedGuard⟩, untargetedHistory_begins,
    List.filterMap_eq_nil_iff.mp hfaults, ?_⟩
  with_unfolding_all rfl

end LabControl.Sweep
