/-
# Every run is cleaned up

Once the check is passed, the cleanup follows the body on every exit: whichever exchange fails and
whenever a token fires, the step channel is ramped back as far as the link allows, the return to
zero begins, and the last command stops the recording.
-/
import LabControl.Proofs.Sweep.Autosweep

namespace LabControl.Sweep

variable {ν : Type} [Quantity ν]

/-! ## 1. What follows a passed check -/

/-- **The body and the whole cleanup.**  The body gets as far as its first fault, or to the stop
that answers a cancelled wait, and leaves a value held on the step channel, if there is one.  The
ramp from there back to the start gets as far as its own first fault.  Then comes the return to
zero, which begins with a query of the swept channel, and then the end of the recording. -/
inductive CleansUp (e : Engine) (plan : Plan ν) (start : Option ν) (t : History ν)
    (r : Except ControlError Outcome) : Prop where
  | intro {held : Option ν} {body back zero : History ν} {b ramped : Except ControlError Unit}
      {returned : Except ControlError Bool} {d : Delivery} {final : State ν}
      (hbody : Cut e.token plan.channel (bodyCommands e plan start) body b)
      (hheld : Follows e.token plan.channel (bodyScript e plan start
        (tagOf e.panelTool body.replies)) start body held b)
      (hstep : plan.steps.stepChannel?.isSome = true → start.isSome = true ∧ held.isSome = true)
      (hback : Cut .cleanup plan.channel (.fixed (backWrites e plan start held)) back ramped)
      (hzero : ReturnsToZero e.panelTool plan.channel .cleanup zero returned)
      (hread : zero.sent.head? = some (.remote, .instruct (.readChannel plan.channel)))
      (ht : t = body ++ (.published .restore :: back ++ zero ++ [.ordered (.setRecording false) d])
        ++ [.published final])
      (hsent : t.sent = body.sent ++ (back.sent ++ zero.sent ++ remotely [.setRecording false]))
      (hend : (final, r) = concluded plan.steps.pairCount b
        (ramped.bind fun _ => returned.bind fun _ => (told d).map fun _ => ()))

/-- A return to zero begins with a query of its channel. -/
theorem ReturnsToZero.head?_sent {tool : String} {channel : Nat} {token : Token} {t : History ν}
    {r : Except ControlError Bool} (h : ReturnsToZero tool channel token t r) :
    t.sent.head? = some (.remote, .instruct (.readChannel channel)) := by
  cases h with
  | unread fault => rfl
  | unneeded h => rfl
  | unforced h hu => rfl
  | bracketed h hflag former forced hswept d => rfl

/-! ## 2. Cleanup on every exit -/

/-- **A run that passes its check is cleaned up**, in any surroundings: whatever the backend
replies, at whichever exchange the link fails, and whenever the tokens fire. -/
theorem cleansUp_of_checked (e : Engine) (plan : Plan ν) (s : Surroundings ν) {start : Option ν}
    {guard rest : History ν} (hguard : Checked e plan start guard)
    (h : s.history (Engine.autosweep e plan).run = guard ++ rest) :
    CleansUp e plan start rest (s.result (Engine.autosweep e plan).run) := by
  have hruns := runs_autosweep (s.history_runs (Engine.autosweep e plan).run)
  rw [h] at hruns
  obtain ⟨held, body, cleanup, b, c, hbody, hcleanup, ht, hr⟩ :=
    hruns.of_checked hguard (List.prefix_append guard rest)
  obtain rfl := List.append_cancel_left ht
  obtain ⟨hback, hzero, d⟩ := hcleanup
  have hcut := hback.cut
  rw [Script.commands_orders] at hcut
  have hstep : plan.steps.stepChannel?.isSome = true →
      start.isSome = true ∧ held.isSome = true := by
    intro hsteps
    have hstart := hguard.isSome_start.trans hsteps
    exact ⟨hstart, hbody.isSome_held hstart⟩
  refine .intro (cut_body hbody) hbody hstep hcut hzero hzero.head?_sent rfl ?_
    (Prod.ext rfl hr)
  simp [History.sent_cons, Occurrence.sent?]

/-- Surroundings where every channel reads one and a half, and where the link fails at the seventh
occurrence, which is the first panel flag of a run. -/
def faltering : Surroundings Float where
  deliver past _ _ :=
    if past.length = 6 then .error (.transport "closed")
    else .ok ⟨"read_channel;value|1.5;known|1"⟩
  interrupts _ _ _ := false
  fired _ _ := false
  sleep _ _ _ := .ok true

theorem cleansUp_of_checked_faltering :
    CleansUp {} onePair none ((faltering.history (Engine.autosweep {} onePair).run).drop 3)
      (faltering.result (Engine.autosweep {} onePair).run) := by
  have hknown : (({ text := "read_channel;value|1.5;known|1" } : Reply).channelReading :
      ChannelReading Float).known = true := rfl
  exact cleansUp_of_checked {} onePair faltering (.swept rfl hknown) rfl

end LabControl.Sweep
