/-
# Cancellation

A run waits on the engine's token in its body and on a token of its own in its cleanup.  Both may
fire at any moment, before a request, while one is pending, or never.

Whenever the engine's token fires, no wait on it is sent any more, the next wait of the body is
answered by a stop instead, and the whole cleanup follows.  If the body comes to no wait after
that, the run goes as if the token had never fired (`autosweep_cancelled`).

Neither token acts in the other's phase (`tokens_keep_their_phases`).  The engine's token changes
nothing once the cleanup has begun, and the token of the cleanup nothing before the zero sweep is
acknowledged; from there on it makes the cleanup leave the channel where the sweep stops, with
the zero stop reset and the recording stopped.
-/
import LabControl.Proofs.Sweep.Waits

namespace LabControl.Sweep

variable {ν : Type} [Quantity ν]

/-! ## 1. The phase of a place -/

section Place

variable {e : Engine} {plan : Plan ν} {before after : History ν} {o : Occurrence ν}
  {r : Except ControlError Outcome} {token : Token} {i : Instruction ν}

/-- The cleanup has not begun before a place in the body. -/
theorem restore_not_mem_of_body {start held : Option ν} {guard inner later : History ν}
    {tag : String} {b : Except ControlError Unit} (hguard : Checked e plan start guard)
    (hbody : Follows e.token plan.channel (bodyScript e plan start tag) start (inner ++ o :: later)
      held b) : .published .restore ∉ guard ++ inner := by
  intro hmem
  rcases List.mem_append.mp hmem with hmem | hmem
  · exact hguard.restore_not_mem hmem
  · exact hbody.restore_not_mem (regular_bodyScript e plan start tag) (List.mem_append_left _ hmem)

/-- A token is looked at without a wait on entry only. -/
theorem Place.of_inspected {fired : Bool}
    (h : Place e plan before (.inspected token fired) after r) : before = [] ∧ token = e.token := by
  cases h with
  | entry fired => exact ⟨rfl, rfl⟩
  | plain ho => exact absurd rfl (ho.2.1 token fired)
  | body hguard hbody hcleanup =>
    exact absurd (by simp) (hbody.paired_body.not_inspected token fired)
  | cleanup hguard hbody hcleanup =>
    exact absurd (by simp) (hcleanup.paired.not_inspected token fired)

/-- **A wait on another token than that of the cleanup** comes before the cleanup. -/
theorem Place.restore_not_mem_of_waits (h : Place e plan before o after r) (ho : o.Waits token i)
    (htoken : token ≠ .cleanup) : .published .restore ∉ before := by
  cases h with
  | entry fired => exact List.not_mem_nil
  | plain hplain => exact absurd ho (hplain.1 token i)
  | body hguard hbody hcleanup => exact restore_not_mem_of_body hguard hbody
  | cleanup hguard hbody hcleanup =>
    obtain ⟨direction, earlier, sweep, -, -, hwait⟩ := hcleanup.paired.of_waits ho
    exact absurd (ho.unique hwait).1 htoken

/-- **An acknowledged leg is waited for** on the engine's token, until its hold time is over. -/
theorem Place.waits_of_leg (h : Place e plan before o after r) {direction : Direction}
    (ho : o.StartsSweep direction plan.channel) (hbefore : .published .restore ∉ before) :
    ∃ wait later, after = wait :: later ∧
      wait.Waits e.token (.catchSweep (legEnd direction) plan.channel) := by
  cases h with
  | entry fired =>
    obtain ⟨reply, hne, -⟩ := ho
    cases hne
  | plain hplain => exact absurd ho (hplain.2.2 direction)
  | body hguard hbody hcleanup =>
    obtain ⟨wait, later', rfl, hwait⟩ := hbody.paired_body.of_startsSweep ho
    exact ⟨wait, _, rfl, hwait⟩
  | cleanup hguard hbody hcleanup =>
    have hannounced := hcleanup.restore_mem (ho.ne_published _)
    exact absurd (List.mem_append_right _ hannounced) hbefore

/-- **An acknowledged zero sweep is waited for** on the token of the cleanup. -/
theorem Place.waits_of_zeroSweep (h : Place e plan before o after r) {direction : Direction}
    (ho : o.StartsSweep direction plan.channel) (hbefore : .published .restore ∈ before) :
    ∃ wait later, after = wait :: later ∧
      wait.Waits .cleanup (.catchSweep .zeroStop plan.channel) := by
  cases h with
  | entry fired => cases hbefore
  | plain hplain => exact absurd ho (hplain.2.2 direction)
  | body hguard hbody hcleanup => exact absurd hbefore (restore_not_mem_of_body hguard hbody)
  | cleanup hguard hbody hcleanup =>
    obtain ⟨wait, later', rfl, hwait⟩ := hcleanup.paired.of_startsSweep ho
    exact ⟨wait, _, rfl, hwait⟩

/-- **A wait on the token of the cleanup** comes right behind the acknowledged zero sweep. -/
theorem Place.zeroSweep_of_waits (h : Place e plan before o after r) (ho : o.Waits .cleanup i)
    (htoken : e.token ≠ .cleanup) :
    ∃ direction earlier sweep, before = earlier ++ [sweep] ∧ .published .restore ∈ earlier ∧
      sweep.StartsSweep direction plan.channel ∧
      i = .catchSweep .zeroStop plan.channel := by
  cases h with
  | entry fired => exact absurd ho Occurrence.not_waits_inspected
  | plain hplain => exact absurd ho (hplain.1 _ i)
  | body hguard hbody hcleanup =>
    obtain ⟨direction, earlier, sweep, -, -, hwait⟩ := hbody.paired_body.of_waits ho
    exact absurd (ho.unique hwait).1.symm htoken
  | @cleanup start held guard body inner later o b c hguard hbody hcleanup =>
    obtain ⟨direction, earlier, sweep, rfl, hsweep, hwait⟩ := hcleanup.paired.of_waits ho
    have hannounced : .published .restore ∈ earlier := by
      rw [List.append_assoc] at hcleanup
      exact hcleanup.restore_mem (hsweep.ne_published _)
    exact ⟨direction, guard ++ body ++ earlier, sweep, (List.append_assoc _ _ _).symm,
      List.mem_append_right _ hannounced, hsweep, (ho.unique hwait).2⟩

end Place

/-! ## 2. What a cancelled wait leads to -/

/-- **A wait of the body is cancelled**, at its place in a run.  The stop that answers it is the
last command of the body, and the whole cleanup follows.  The result is the cancellation, unless
the link fails on the stop. -/
inductive BreaksOff (τ : Timing) (e : Engine) (plan : Plan ν) (before : History ν)
    (wait : Occurrence ν) (after : History ν) (r : Except ControlError Outcome) : Prop where
  | intro {direction : Direction} {start held : Option ν} {guard inner cleanup : History ν}
      {d : Delivery} {c : Except ControlError Unit} (hguard : Checked e plan start guard)
      (hbefore : before = guard ++ inner)
      (hwait : wait =
        τ.cancelled before.length e.token (.catchSweep (legEnd direction) plan.channel))
      (hbody : Follows e.token plan.channel
        (bodyScript e plan start (tagOf e.panelTool
          (History.replies (inner ++ [wait, .ordered (.sweepStop plan.channel) d])))) start
        (inner ++ [wait, .ordered (.sweepStop plan.channel) d]) held
        ((told d).bind fun _ => .error (.cancelled
          (Instruction.catchSweep (legEnd direction) plan.channel : Instruction ν).name)))
      (hcleanup : Restores e plan start held cleanup c)
      (hafter : after = .ordered (.sweepStop plan.channel) d :: cleanup ++ [.published .aborted])
      (hr : r = (told d).bind fun _ => .error (.cancelled
        (Instruction.catchSweep (legEnd direction) plan.channel : Instruction ν).name)) :
    BreaksOff τ e plan before wait after r

/-- **The wait for the zero sweep is cancelled**, after the sweep at its place in a run.  The sweep
is told to stop, the zero stop gets its former value back, and the recording is stopped. -/
inductive LeavesChannel (τ : Timing) (plan : Plan ν) (before after : History ν) : Prop where
  | intro {earlier : History ν} {flag : String} {former forced : Reply}
      {d reset stopped : Delivery} {final : State ν}
      (hbefore : before = earlier ++ [.ordered (.getVar flag) (.ok former),
        .ordered (.setVar (flag ++ "=1")) (.ok forced)])
      (hafter : after =
        [τ.cancelled (before.length + 1) .cleanup (.catchSweep .zeroStop plan.channel),
          .ordered (.sweepStop plan.channel) d,
          .ordered (.setVar (flag ++ "=" ++ formerText former)) reset,
          .ordered (.setRecording false) stopped, .published final]) :
    LeavesChannel τ plan before after

section Cancelled

variable {τ : Timing} {e : Engine} {plan : Plan ν} {before after : History ν}
  {r : Except ControlError Outcome} {i : Instruction ν}

omit [Quantity ν] in
/-- A run that breaks off has failed, and is left aborted. -/
theorem concluded_of_told (total : Nat) (d : Delivery) (error : ControlError)
    (c : Except ControlError Unit) :
    (concluded total ((told d).bind fun _ => .error error) c : State ν × _) =
      (.aborted, (told d).bind fun _ => .error error) := by
  rcases d with fault | reply
  · rfl
  · rfl

/-- A cancelled wait of the body breaks it off. -/
theorem Place.breaksOff {wait : Occurrence ν} (h : Place e plan before wait after r)
    (hwait : wait.Waits e.token i) (htoken : e.token ≠ .cleanup)
    (hcancelled : wait = τ.cancelled before.length e.token i) :
    BreaksOff τ e plan before wait after r := by
  cases h with
  | entry fired => exact absurd hwait Occurrence.not_waits_inspected
  | plain hplain => exact absurd hwait (hplain.1 _ i)
  | @body start held guard inner later cleanup wait b c hguard hbody hcleanup =>
    obtain ⟨direction, earlier, sweep, -, -, hleg⟩ := hbody.paired_body.of_waits hwait
    obtain rfl := (hwait.unique hleg).2
    have hcancels : wait.Cancels e.token (.catchSweep (legEnd direction) plan.channel) :=
      hcancelled ▸ Timing.cancels_cancelled _
    obtain ⟨d, rfl, rfl⟩ := hbody.of_cancels hcancels
    rw [concluded_of_told]
    exact .intro hguard rfl hcancelled hbody hcleanup rfl rfl
  | cleanup hguard hbody hcleanup =>
    obtain ⟨direction, earlier, sweep, -, -, hzero⟩ := hcleanup.paired.of_waits hwait
    exact absurd (hwait.unique hzero).1 htoken

/-- A cancelled wait for the zero sweep leaves the channel where the sweep stops. -/
theorem Place.leavesChannel {sweep wait : Occurrence ν} {later : History ν}
    (h : Place e plan (before ++ [sweep]) wait later r)
    (hwait : wait.Waits .cleanup (.catchSweep .zeroStop plan.channel)) (htoken : e.token ≠ .cleanup)
    (hcancelled : wait =
      τ.cancelled (before.length + 1) .cleanup (.catchSweep .zeroStop plan.channel)) :
    LeavesChannel τ plan before (wait :: later) := by
  generalize hb : before ++ [sweep] = before' at h
  cases h with
  | entry fired => exact absurd hwait Occurrence.not_waits_inspected
  | plain hplain => exact absurd hwait (hplain.1 _ _)
  | body hguard hbody hcleanup =>
    obtain ⟨direction, earlier, sweep, -, -, hleg⟩ := hbody.paired_body.of_waits hwait
    exact absurd (hwait.unique hleg).1.symm htoken
  | cleanup hguard hbody hcleanup =>
    have hcancels : wait.Cancels .cleanup (.catchSweep .zeroStop plan.channel) :=
      hcancelled ▸ Timing.cancels_cancelled _
    obtain ⟨earlier, sweep', flag, former, forced, d, reset, stopped, rfl, rfl⟩ :=
      hcleanup.of_cancels hcancels
    rw [← List.append_assoc] at hb
    obtain ⟨rfl, -⟩ := List.append_inj' hb rfl
    exact .intro (List.append_assoc _ _ _).symm (by rw [hcancelled]; rfl)

end Cancelled

/-! ## 3. Runs under two timings -/

section Timings

variable {e : Engine} {plan : Plan ν} {s : Surroundings ν} {τ τ' : Timing}

/-- Every occurrence of a run has its place in it. -/
theorem place_of_history {before after : History ν} {o : Occurrence ν}
    (h : s.history (Engine.autosweep e plan).run = before ++ o :: after) :
    Place e plan before o after (s.result (Engine.autosweep e plan).run) := by
  have hruns := runs_autosweep (s.history_runs (Engine.autosweep e plan).run)
  rw [h] at hruns
  exact hruns.place

/-- **The engine's token is not noticed** in a history: it has not fired when the history begins,
nor before a wait on it is over. -/
def Unnoticed (τ : Timing) (e : Engine) (t : History ν) : Prop :=
  τ.firedAt e.token 0 = false ∧ ∀ before o after i, t = before ++ o :: after →
    o.Waits e.token i → τ.firedWithin e.token before.length = false

omit [Quantity ν] in
theorem unnoticed_without (e : Engine) (t : History ν) : Unnoticed (τ.without e.token) e t :=
  ⟨Timing.firedAt_without_self, fun _ _ _ _ _ _ => Timing.firedWithin_without_self⟩

/-- **Where a run does not notice the engine's token**, the moment of the token makes no
difference. -/
theorem run_eq_of_unnoticed (hagree : Timing.AgreeBut e.token τ τ')
    (h : Unnoticed τ e ((s.timed τ).history (Engine.autosweep e plan).run))
    (h' : Unnoticed τ' e ((s.timed τ).history (Engine.autosweep e plan).run)) :
    (s.timed τ).run (Engine.autosweep e plan).run [] =
      (s.timed τ').run (Engine.autosweep e plan).run [] := by
  refine (s.run_timed_eq_or_parts τ τ' (Engine.autosweep e plan).run []).resolve_right fun hparts =>
    ?_
  generalize ht : ((s.timed τ).run (Engine.autosweep e plan).run []).1 = t at hparts
  generalize ht' : ((s.timed τ').run (Engine.autosweep e plan).run []).1 = t' at hparts
  cases hparts with
  | @inspecting before token b b' u u' hdiffer hne =>
    -- both looks are on entry, where the token has fired under neither timing
    obtain ⟨rfl, rfl⟩ := (place_of_history ht).of_inspected
    have hb : τ.firedAt e.token 0 = b := s.fits_history τ ht
    have hb' : τ'.firedAt e.token 0 = b' := s.fits_history τ' ht'
    exact hne (by rw [← hb, ← hb', h.1, h'.1])
  | @waiting before token i o o' u u' hdiffer ho ho' hcancels =>
    obtain rfl := hagree.eq_of_ne hdiffer
    rcases hcancels with hcancels | hcancels
    · have hfired := hcancels.firedWithin (s.fits_history τ ht)
      rw [h.2 before o u i ht ho] at hfired
      cases hfired
    · have hfired := hcancels.firedWithin (s.fits_history τ' ht')
      rw [h'.2 before o u i ht ho] at hfired
      cases hfired

/-- A token that has not fired when the cleanup begins is not noticed. -/
theorem unnoticed_of_late {t before after : History ν} {r : Except ControlError Outcome}
    (hplace : ∀ {before o after}, t = before ++ o :: after → Place e plan before o after r)
    (htoken : e.token ≠ .cleanup) (h : t = before ++ .published .restore :: after)
    (hlate : τ.firedAt e.token before.length = false) : Unnoticed τ e t := by
  refine ⟨?_, fun before' o after' i h' ho => ?_⟩
  · refine Bool.eq_false_iff.mpr fun hfired => ?_
    exact Bool.eq_false_iff.mp hlate (Timing.firedAt_mono hfired (Nat.zero_le _))
  · have hbefore : .published .restore ∉ before' := (hplace h').restore_not_mem_of_waits ho htoken
    refine Bool.eq_false_iff.mpr fun hfired => Bool.eq_false_iff.mp hlate ?_
    refine Timing.firedAt_of_firedWithin hfired ?_
    -- the wait stands before the announcement of the cleanup
    rcases History.split_cons (h.symm.trans h') with ⟨later, rfl, -⟩ | ⟨earlier, rfl, hrest⟩
    · simp
    · rcases earlier with _ | ⟨o', earlier⟩
      · rw [← (List.cons.inj hrest).1] at ho
        exact absurd ho Occurrence.not_waits_published
      · rw [← (List.cons.inj hrest).1] at hbefore
        exact absurd (by simp) hbefore

end Timings

/-! ## 4. Cancellation of a run -/

/-- **A run is cancelled cleanly** when its token fires as a timing says. -/
structure CancelsCleanly (τ : Timing) (e : Engine) (plan : Plan ν) (t : History ν)
    (r : Except ControlError Outcome) : Prop where
  /-- A run whose token has fired before sends nothing. -/
  refused : τ.firedAt e.token 0 = true →
    t.sent = [] ∧ t.states = [.aborted] ∧ r = .error (.cancelled "autosweep")
  /-- No wait on the token is sent once it has fired. -/
  unsent : ∀ {before o after i}, t = before ++ o :: after → o.SendsWait e.token i →
    τ.firedAt e.token before.length = false
  /-- An acknowledged leg of the body is followed by its wait. -/
  leg : ∀ {before o after direction}, t = before ++ o :: after →
    .published .restore ∉ before → o.StartsSweep direction plan.channel →
    ∃ wait later, after = wait :: later ∧
      wait.Waits e.token (.catchSweep (legEnd direction) plan.channel)
  /-- The first wait on the token that is not over when it fires is cancelled, and with it the
  body. -/
  breaksOff : ∀ {before wait after i}, t = before ++ wait :: after → wait.Waits e.token i →
    τ.firedWithin e.token before.length = true → BreaksOff τ e plan before wait after r
  /-- The acknowledged zero sweep of the cleanup is followed by its wait, which is not cancelled
  but through the token of the cleanup. -/
  zeroSweep : ∀ {before o after direction}, t = before ++ o :: after →
    .published .restore ∈ before → o.StartsSweep direction plan.channel →
    ∃ wait later, after = wait :: later ∧
      wait.Waits .cleanup (.catchSweep .zeroStop plan.channel) ∧
      (τ.firedWithin .cleanup (before.length + 1) = false →
        ∃ d, wait = .awaited .cleanup (.catchSweep .zeroStop plan.channel) d)

/-- **Cancellation of a run.**  Whenever the engine's token fires, before the run, during it or
never, the run is cancelled cleanly; and if the body comes to no wait from that moment on, the run
is the one whose token never fires.  The token of the cleanup is another one: the engine makes it
for itself. -/
theorem autosweep_cancelled (e : Engine) (plan : Plan ν) (s : Surroundings ν) (τ : Timing)
    (htoken : e.token ≠ .cleanup) :
    CancelsCleanly τ e plan ((s.timed τ).history (Engine.autosweep e plan).run)
        ((s.timed τ).result (Engine.autosweep e plan).run) ∧
      (Unnoticed τ e ((s.timed τ).history (Engine.autosweep e plan).run) →
        (s.timed τ).history (Engine.autosweep e plan).run =
            (s.timed (τ.without e.token)).history (Engine.autosweep e plan).run ∧
          (s.timed τ).result (Engine.autosweep e plan).run =
            (s.timed (τ.without e.token)).result (Engine.autosweep e plan).run) := by
  refine ⟨⟨fun hfired => ?_, fun ht ho => ?_, fun ht hbefore ho => ?_, fun ht hwait hfired => ?_,
    fun ht hbefore ho => ?_⟩, fun h => ?_⟩
  · have hruns := runs_autosweep ((s.timed τ).history_runs (Engine.autosweep e plan).run)
    obtain ⟨rest, hbegins⟩ := exists_history_autosweep e plan (s.timed τ)
    have hentry : (s.timed τ).fired [] e.token = true := hfired
    rw [hbegins, hentry] at hruns ⊢
    obtain ⟨rfl, hr⟩ := hruns.of_fired
    exact ⟨rfl, rfl, hr⟩
  · exact ho.firedAt (s.fits_history τ ht)
  · exact (place_of_history ht).waits_of_leg ho hbefore
  · exact (place_of_history ht).breaksOff hwait htoken
      (hwait.cancelled (s.fits_history τ ht) hfired)
  · obtain ⟨wait, later, rfl, hwait⟩ := (place_of_history ht).waits_of_zeroSweep ho hbefore
    have hfits := s.fits_history τ (ht.trans (List.append_cons _ _ _))
    rw [List.length_append, List.length_singleton] at hfits
    exact ⟨wait, later, rfl, hwait, hwait.answered hfits⟩
  · have hrun := run_eq_of_unnoticed Timing.agreeBut_without h (unnoticed_without e _)
    exact ⟨congrArg Prod.fst hrun, congrArg Prod.snd hrun⟩

/-- The engine's token fires while the wait of the first leg of `onePair` is pending. -/
def duringFirstLeg : Timing := fun token => if token = .run then some (.during 14) else none

theorem autosweep_cancelled_duringFirstLeg :
    let t := (obliging.timed duringFirstLeg).history (Engine.autosweep {} onePair).run
    let r := (obliging.timed duringFirstLeg).result (Engine.autosweep {} onePair).run
    r = .error (.cancelled "catch_sweep_max_posthold") ∧
      BreaksOff duringFirstLeg {} onePair (t.take 14)
        (.gaveUp .run (.catchSweep (legEnd .up) 3)) (t.drop 15) r := by
  intro t r
  have hclean := (autosweep_cancelled {} onePair obliging duringFirstLeg (by decide)).1
  have hresult : r = .error (.cancelled "catch_sweep_max_posthold") := by with_unfolding_all rfl
  have hplace : t = t.take 14 ++
      .gaveUp .run (.catchSweep (legEnd .up) 3) :: t.drop 15 := by with_unfolding_all rfl
  exact ⟨hresult, hclean.breaksOff hplace (.inr (.inl rfl)) rfl⟩

/-! ## 5. The phases of the tokens -/

/-- Two runs are the same up to the acknowledged zero sweep of their cleanup, and part at the wait
for it. -/
inductive PartsAtZeroSweep (plan : Plan ν) (t t' : History ν) : Prop where
  | intro {before after after' : History ν} {direction : Direction}
      {sweep wait wait' : Occurrence ν} (hbefore : .published .restore ∈ before)
      (hsweep : sweep.StartsSweep direction plan.channel)
      (hwait : wait.Waits .cleanup (.catchSweep .zeroStop plan.channel))
      (hwait' : wait'.Waits .cleanup (.catchSweep .zeroStop plan.channel))
      (ht : t = before ++ sweep :: wait :: after)
      (ht' : t' = before ++ sweep :: wait' :: after') : PartsAtZeroSweep plan t t'

/-- **Runs that differ in the token of the cleanup** part at the wait for the zero sweep, or not at
all. -/
theorem run_eq_or_partsAtZeroSweep {e : Engine} {plan : Plan ν} {s : Surroundings ν}
    {τ τ' : Timing} (htoken : e.token ≠ .cleanup) (hagree : Timing.AgreeBut .cleanup τ τ') :
    (s.timed τ).run (Engine.autosweep e plan).run [] =
        (s.timed τ').run (Engine.autosweep e plan).run [] ∨
      PartsAtZeroSweep plan ((s.timed τ).history (Engine.autosweep e plan).run)
        ((s.timed τ').history (Engine.autosweep e plan).run) := by
  refine (s.run_timed_eq_or_parts τ τ' (Engine.autosweep e plan).run []).imp_right fun hparts => ?_
  generalize ht : ((s.timed τ).run (Engine.autosweep e plan).run []).1 = t at hparts
  generalize ht' : ((s.timed τ').run (Engine.autosweep e plan).run []).1 = t' at hparts
  cases hparts with
  | inspecting hdiffer hne =>
    have hentry := (place_of_history ht).of_inspected
    exact absurd (hentry.2.symm.trans (hagree.eq_of_ne hdiffer)) htoken
  | waiting hdiffer ho ho' hcancels =>
    obtain rfl := hagree.eq_of_ne hdiffer
    obtain ⟨direction, earlier, sweep, rfl, hannounced, hsweep, rfl⟩ :=
      (place_of_history ht).zeroSweep_of_waits ho htoken
    exact .intro hannounced hsweep ho ho' (ht.trans (List.append_cons _ _ _).symm)
      (ht'.trans (List.append_cons _ _ _).symm)

/-- **Neither token acts in the other's phase.** -/
structure TokensKeepPhases (e : Engine) (plan : Plan ν) (s : Surroundings ν) (τ : Timing) :
    Prop where
  /-- Whether and when the engine's token fires makes no difference once the cleanup has begun. -/
  late : ∀ {τ' before after}, Timing.AgreeBut e.token τ τ' →
    (s.timed τ).history (Engine.autosweep e plan).run = before ++ .published .restore :: after →
    τ.firedAt e.token before.length = false → τ'.firedAt e.token before.length = false →
    (s.timed τ).history (Engine.autosweep e plan).run =
        (s.timed τ').history (Engine.autosweep e plan).run ∧
      (s.timed τ).result (Engine.autosweep e plan).run =
        (s.timed τ').result (Engine.autosweep e plan).run
  /-- Whether and when the token of the cleanup fires makes no difference before the zero sweep is
  acknowledged, and none at all where it is not. -/
  early : ∀ {τ'}, Timing.AgreeBut .cleanup τ τ' →
    ((s.timed τ).history (Engine.autosweep e plan).run =
        (s.timed τ').history (Engine.autosweep e plan).run ∧
      (s.timed τ).result (Engine.autosweep e plan).run =
        (s.timed τ').result (Engine.autosweep e plan).run) ∨
    PartsAtZeroSweep plan ((s.timed τ).history (Engine.autosweep e plan).run)
      ((s.timed τ').history (Engine.autosweep e plan).run)
  /-- When the token of the cleanup fires before the wait for the zero sweep is over, the sweep is
  told to stop, and the cleanup goes on after it. -/
  leaves : ∀ {before sweep after direction},
    (s.timed τ).history (Engine.autosweep e plan).run = before ++ sweep :: after →
    .published .restore ∈ before → sweep.StartsSweep direction plan.channel →
    τ.firedWithin .cleanup (before.length + 1) = true → LeavesChannel τ plan before after

/-- **The two tokens keep to their phases**, in any surroundings and whenever they fire. -/
theorem tokens_keep_their_phases (e : Engine) (plan : Plan ν) (s : Surroundings ν) (τ : Timing)
    (htoken : e.token ≠ .cleanup) : TokensKeepPhases e plan s τ := by
  refine ⟨fun hagree ht hlate hlate' => ?_, fun hagree => ?_, fun ht hbefore ho hfired => ?_⟩
  · have hrun := run_eq_of_unnoticed hagree
      (unnoticed_of_late place_of_history htoken ht hlate)
      (unnoticed_of_late place_of_history htoken ht hlate')
    exact ⟨congrArg Prod.fst hrun, congrArg Prod.snd hrun⟩
  · exact (run_eq_or_partsAtZeroSweep htoken hagree).imp_left fun hrun =>
      ⟨congrArg Prod.fst hrun, congrArg Prod.snd hrun⟩
  · obtain ⟨wait, later, rfl, hwait⟩ := (place_of_history ht).waits_of_zeroSweep ho hbefore
    have hnext := ht.trans (List.append_cons _ _ _)
    have hfits := s.fits_history τ hnext
    rw [List.length_append, List.length_singleton] at hfits
    exact (place_of_history hnext).leavesChannel hwait htoken (hwait.cancelled hfits hfired)

/-- The token of the cleanup fires before the run, and the engine's never does. -/
def cleanupForgone : Timing := fun token => if token = .cleanup then some (.before 0) else none

theorem tokens_keep_their_phases_cleanupForgone :
    let t := (obliging.timed cleanupForgone).history (Engine.autosweep {} onePair).run
    LeavesChannel cleanupForgone onePair (t.take 28) (t.drop 29) := by
  intro t
  have hphases := tokens_keep_their_phases {} onePair obliging cleanupForgone (by decide)
  have hsweep : Occurrence.StartsSweep
      (.ordered (.sweepDown 3) (.ok ⟨"sweep_down"⟩) : Occurrence Float) .down 3 :=
    ⟨_, rfl, by decide⟩
  have hplace : t = t.take 28 ++ .ordered (.sweepDown 3) (.ok ⟨"sweep_down"⟩) :: t.drop 29 := by
    with_unfolding_all rfl
  have hannounced : .published .restore ∈ t.take 28 :=
    List.mem_of_getElem? (i := 22) (by with_unfolding_all rfl)
  have hlength : (t.take 28).length = 28 := by with_unfolding_all rfl
  exact hphases.leaves hplace hannounced hsweep (by rw [hlength]; rfl)

end LabControl.Sweep
