/-
# The runs of a plan

A run is cancelled on entry, or its check fails or refuses it, or it passes the check and then has
a body, a cleanup and an end.  `Autosweeps` are these histories with their results, and
`runs_autosweep` shows that a run has no others.
-/
import LabControl.Proofs.Sweep.Restore

namespace LabControl.Sweep

open LabControl.Action (Runs)

variable {ν : Type} [Quantity ν]

/-! ## 1. The check -/

/-- **The check was passed**: the channels were read and have known values.  The value of the step
channel, if there is one, is where it starts. -/
inductive Checked (e : Engine) (plan : Plan ν) : Option ν → History ν → Prop where
  | swept (hsteps : plan.steps.stepChannel? = none) {reply : Reply}
      (hknown : (reply.channelReading : ChannelReading ν).known = true) :
    Checked e plan none
      [.inspected e.token false, .published .validateChannels,
        .ordered (.readChannel plan.channel) (.ok reply)]
  | stepped {output : Nat} (hsteps : plan.steps.stepChannel? = some output) {reply reply' : Reply}
      (hknown : (reply.channelReading : ChannelReading ν).known = true)
      (hknown' : (reply'.channelReading : ChannelReading ν).known = true) :
    Checked e plan (some (reply'.channelReading : ChannelReading ν).value)
      [.inspected e.token false, .published .validateChannels,
        .ordered (.readChannel plan.channel) (.ok reply),
        .ordered (.readChannel output) (.ok reply')]

/-- The reads of the check. -/
def guardReads (plan : Plan ν) : List (Instruction ν) :=
  .readChannel plan.channel :: plan.steps.stepChannel?.toList.map .readChannel

namespace Checked

variable {e : Engine} {plan : Plan ν} {start start' : Option ν} {guard guard' t : History ν}

/-- There is a value to start from just if there is a step channel. -/
theorem isSome_start (h : Checked e plan start guard) :
    start.isSome = plan.steps.stepChannel?.isSome := by
  cases h with
  | swept hsteps => rw [hsteps]; rfl
  | stepped hsteps => rw [hsteps]; rfl

theorem sends (h : Checked e plan start guard) : Sends guard (.fixed (guardReads plan)) := by
  cases h with
  | swept hsteps hknown =>
    refine ⟨?_, by rw [guardReads, hsteps]; rfl⟩
    simp [Occurrence.Smooth, Occurrence.fault?]
  | stepped hsteps hknown hknown' =>
    refine ⟨?_, by rw [guardReads, hsteps]; rfl⟩
    simp [Occurrence.Smooth, Occurrence.fault?]

/-- A history begins with at most one passed check. -/
theorem unique (h : Checked e plan start guard) (h' : Checked e plan start' guard')
    (ht : guard <+: t) (ht' : guard' <+: t) : start = start' ∧ guard = guard' := by
  have hlength : guard.length = guard'.length := by
    have hg := congrArg List.length h.sends.2
    have hg' := congrArg List.length h'.sends.2
    cases h <;> cases h' <;> simp_all
  obtain rfl : guard = guard' := by
    rw [List.prefix_iff_eq_take.mp ht, List.prefix_iff_eq_take.mp ht', hlength]
  refine ⟨?_, rfl⟩
  cases h <;> cases h' <;> rfl

end Checked

/-- A pair on channel 3, without stepping. -/
def onePair : Plan Float :=
  { channel := 3, firstLeg := .up, steps := .repeating 1, filename := "f" }

/-- Two pairs on channel 3, with channel 4 at one and then at two. -/
def twoSteps : Plan Float :=
  { channel := 3, firstLeg := .down, steps := .stepping 4 [1, 2], filename := "f" }

/-- The reply of a backend where every channel reads one and a half, and every other command is
acknowledged. -/
def obligingReply : Request Float → Reply
  | .instruct (.readChannel _) => ⟨"read_channel;value|1.5;known|1"⟩
  | .instruct i => ⟨i.name⟩
  | .verbatim text => ⟨text⟩

/-- The surroundings that such a backend makes. -/
def obliging : Surroundings Float := .answering fun _ _ => obligingReply

/-! ## 2. The runs -/

/-- How a run that passed its check ends, by its body and its cleanup: the state that it leaves,
and its result. -/
def concluded (total : Nat) (body cleanup : Except ControlError Unit) :
    State ν × Except ControlError Outcome :=
  match body, cleanup with
  | .ok (), .ok () => (.idle, .ok (.completed total))
  | .error error, _ => (.aborted, .error error)
  | .ok (), .error error => (.aborted, .error error)

/-- **What a run of a plan can meet**, and how it ends. -/
inductive Autosweeps (e : Engine) (plan : Plan ν) :
    History ν → Except ControlError Outcome → Prop where
  /-- The engine was cancelled before. -/
  | cancelled :
    Autosweeps e plan [.inspected e.token true, .published .aborted]
      (.error (.cancelled "autosweep"))
  /-- The link failed on the query of the swept channel. -/
  | unread (fault : Fault) :
    Autosweeps e plan
      [.inspected e.token false, .published .validateChannels,
        .ordered (.readChannel plan.channel) (.error fault)]
      (.error fault.val)
  /-- The value of the swept channel is unknown. -/
  | unknown {reply : Reply} (h : (reply.channelReading : ChannelReading ν).known = false) :
    Autosweeps e plan
      [.inspected e.token false, .published .validateChannels,
        .ordered (.readChannel plan.channel) (.ok reply), .published .aborted]
      (.ok (.refused (Engine.refusal "sweep" plan.channel)))
  /-- The link failed on the query of the step channel. -/
  | stepUnread {output : Nat} (hsteps : plan.steps.stepChannel? = some output) {reply : Reply}
      (h : (reply.channelReading : ChannelReading ν).known = true) (fault : Fault) :
    Autosweeps e plan
      [.inspected e.token false, .published .validateChannels,
        .ordered (.readChannel plan.channel) (.ok reply),
        .ordered (.readChannel output) (.error fault)]
      (.error fault.val)
  /-- The value of the step channel is unknown. -/
  | stepUnknown {output : Nat} (hsteps : plan.steps.stepChannel? = some output)
      {reply reply' : Reply} (h : (reply.channelReading : ChannelReading ν).known = true)
      (h' : (reply'.channelReading : ChannelReading ν).known = false) :
    Autosweeps e plan
      [.inspected e.token false, .published .validateChannels,
        .ordered (.readChannel plan.channel) (.ok reply),
        .ordered (.readChannel output) (.ok reply'), .published .aborted]
      (.ok (.refused (Engine.refusal "step" output)))
  /-- The check was passed: the body, the cleanup and the end follow. -/
  | ran {start held : Option ν} {guard body cleanup : History ν} {r c : Except ControlError Unit}
      (hguard : Checked e plan start guard)
      (hbody : Follows e.token plan.channel
        (bodyScript e plan start (tagOf e.panelTool body.replies)) start body held r)
      (hcleanup : Restores e plan start held cleanup c) :
    Autosweeps e plan
      (guard ++ (body ++ cleanup ++
        [.published (concluded plan.steps.pairCount r c).1]))
      (concluded (ν := ν) plan.steps.pairCount r c).2

/-- How a run ends by its body and its cleanup. -/
theorem runs_conclude_iff {total : Nat} {b c : Except ControlError Unit} {t : History ν}
    {r : Except ControlError Outcome} :
    Runs (Engine.conclude (b.map fun _ => total) c) t r ↔
      t = [.published (concluded total b c).1] ∧ r = (concluded (ν := ν) total b c).2 := by
  have hend {state : State ν} {last : Action ν Outcome} {result : Except ControlError Outcome}
      (hlast : ∀ u, Runs last u r ↔ u = [] ∧ r = result) :
      Runs (Action.publish state >>= fun _ => last) t r ↔
        t = [.published state] ∧ r = result := by
    simp only [Action.runs_publish_bind, hlast]
    constructor
    · rintro ⟨u, rfl, rfl, rfl⟩
      exact ⟨rfl, rfl⟩
    · rintro ⟨rfl, rfl⟩
      exact ⟨[], rfl, rfl, rfl⟩
  rcases b with error | ⟨⟩
  · exact hend fun u => Action.runs_throw
  · rcases c with error | ⟨⟩
    · exact hend fun u => Action.runs_throw
    · exact hend fun u => Action.runs_pure

/-- What follows a passed check: the body, the cleanup and the end. -/
theorem runs_sweepAll {e : Engine} {plan : Plan ν} {start : Option ν}
    (hstart : start.isSome = plan.steps.stepChannel?.isSome) {t : History ν}
    {r : Except ControlError Outcome} (h : Runs (Engine.sweepAll e plan start) t r) :
    ∃ (held : Option ν) (body cleanup : History ν) (b c : Except ControlError Unit),
      Follows e.token plan.channel (bodyScript e plan start (tagOf e.panelTool body.replies)) start
        body held b ∧
      Restores e plan start held cleanup c ∧
      t = body ++ cleanup ++ [.published (concluded plan.steps.pairCount b c).1] ∧
      r = (concluded (ν := ν) plan.steps.pairCount b c).2 := by
  obtain ⟨⟨held, result⟩, body, t₁, hb, h₁, rfl⟩ := Action.runs_lift_bind.mp h
  obtain ⟨c, cleanup, t₂, hr, h₂, rfl⟩ := Action.runs_attempt_bind.mp h₁
  obtain ⟨hfollows, hcount⟩ := runs_body hstart hb
  have hresult : result =
      (result.map fun _ => ()).map fun _ => plan.steps.pairCount := by
    rcases result with error | n
    · rfl
    · rw [hcount n rfl]
      rfl
  rw [hresult] at h₂
  obtain ⟨rfl, rfl⟩ := runs_conclude_iff.mp h₂
  exact ⟨held, body, cleanup, result.map fun _ => (), c, hfollows, runs_restore hr, by simp, rfl⟩

theorem runs_refuse {role : String} {channel : Nat} {t : History ν}
    {r : Except ControlError Outcome} (h : Runs (Engine.refuse role channel) t r) :
    t = [.published .aborted] ∧ r = .ok (.refused (Engine.refusal role channel)) := by
  obtain ⟨u, rfl, hu⟩ := Action.runs_publish_bind.mp h
  obtain ⟨rfl, rfl⟩ := Action.runs_pure.mp hu
  exact ⟨rfl, rfl⟩

/-- **A run of a plan meets nothing else.** -/
theorem runs_autosweep {e : Engine} {plan : Plan ν} {t : History ν}
    {r : Except ControlError Outcome} (h : Runs (Engine.autosweep e plan) t r) :
    Autosweeps e plan t r := by
  obtain ⟨fired, u, rfl, h₁⟩ := Action.runs_fired_bind.mp h
  cases fired with
  | true =>
    obtain ⟨u', rfl, hu⟩ := Action.runs_publish_bind.mp h₁
    obtain ⟨rfl, rfl⟩ := Action.runs_throw.mp hu
    exact .cancelled
  | false =>
  obtain ⟨u', rfl, h₂⟩ := Action.runs_publish_bind.mp h₁
  rcases Action.runs_bind.mp h₂ with ⟨error, hr, rfl⟩ | ⟨reading, t₁, t₂, hr, h₃, rfl⟩
  · obtain ⟨fault | reply, rfl, he⟩ := Client.runs_readChannel.mp hr
    · cases he
      exact .unread fault
    · cases he
  obtain ⟨fault | reply, rfl, he⟩ := Client.runs_readChannel.mp hr
  · cases he
  cases he
  split at h₃
  · next hunknown =>
    obtain ⟨rfl, rfl⟩ := runs_refuse h₃
    exact .unknown (by simpa using hunknown)
  next hknown =>
  replace hknown : (reply.channelReading : ChannelReading ν).known = true := by simpa using hknown
  split at h₃
  · next hsteps =>
    obtain ⟨held, body, cleanup, b, c, hbody, hcleanup, rfl, rfl⟩ :=
      runs_sweepAll (by rw [hsteps]; rfl) h₃
    exact .ran (.swept hsteps hknown) hbody hcleanup
  next output hsteps =>
  rcases Action.runs_bind.mp h₃ with ⟨error, hr', rfl⟩ | ⟨reading, t₃, t₄, hr', h₄, rfl⟩
  · obtain ⟨fault | reply', rfl, he⟩ := Client.runs_readChannel.mp hr'
    · cases he
      exact .stepUnread hsteps hknown fault
    · cases he
  obtain ⟨fault | reply', rfl, he⟩ := Client.runs_readChannel.mp hr'
  · cases he
  cases he
  split at h₄
  · next hunknown =>
    obtain ⟨rfl, rfl⟩ := runs_refuse h₄
    exact .stepUnknown hsteps hknown (by simpa using hunknown)
  next hknown' =>
  replace hknown' : (reply'.channelReading : ChannelReading ν).known = true := by
    simpa using hknown'
  obtain ⟨held, body, cleanup, b, c, hbody, hcleanup, rfl, rfl⟩ :=
    runs_sweepAll (by rw [hsteps]; rfl) h₄
  exact .ran (.stepped hsteps hknown hknown') hbody hcleanup

/-- **A run begins with a look at its token.** -/
theorem exists_history_autosweep (e : Engine) (plan : Plan ν) (s : Surroundings ν) :
    ∃ rest, s.history (Engine.autosweep e plan).run =
      .inspected e.token (s.fired [] e.token) :: rest :=
  ⟨_, rfl⟩

/-- A run whose token has fired before is over at once. -/
theorem Autosweeps.of_fired {rest : History ν} {r : Except ControlError Outcome}
    (h : Autosweeps e plan (.inspected e.token true :: rest) r) :
    rest = [.published .aborted] ∧ r = .error (.cancelled "autosweep") := by
  generalize ht : (.inspected e.token true :: rest : History ν) = t at h
  cases h with
  | cancelled => exact ⟨(List.cons.inj ht).2, rfl⟩
  | unread fault => cases ht
  | unknown hunknown => cases ht
  | stepUnread hsteps hknown fault => cases ht
  | stepUnknown hsteps hknown hunknown => cases ht
  | ran hguard hbody hcleanup => cases hguard <;> cases ht

/-- **A run that passes its check** has a body, a cleanup and an end. -/
theorem Autosweeps.of_checked {e : Engine} {plan : Plan ν} {start : Option ν} {guard t : History ν}
    {r : Except ControlError Outcome} (h : Autosweeps e plan t r)
    (hguard : Checked e plan start guard) (hbegins : guard <+: t) :
    ∃ (held : Option ν) (body cleanup : History ν) (b c : Except ControlError Unit),
      Follows e.token plan.channel (bodyScript e plan start (tagOf e.panelTool body.replies)) start
        body held b ∧
      Restores e plan start held cleanup c ∧
      t = guard ++ (body ++ cleanup ++
        [.published (concluded plan.steps.pairCount b c).1]) ∧
      r = (concluded (ν := ν) plan.steps.pairCount b c).2 := by
  cases h with
  | cancelled => cases hguard <;> simp at hbegins
  | unread fault => cases hguard <;> simp at hbegins
  | unknown h => cases hguard <;> simp_all
  | stepUnread hsteps h fault => cases hguard <;> simp_all
  | stepUnknown hsteps h h' => cases hguard <;> simp_all
  | ran hguard' hbody hcleanup =>
    obtain ⟨rfl, rfl⟩ := hguard.unique hguard' hbegins (List.prefix_append _ _)
    exact ⟨_, _, _, _, _, hbody, hcleanup, rfl, rfl⟩

end LabControl.Sweep
