/-
# The state after a run

A run that completed leaves the engine idle, and a run that was refused, failed or was cancelled
leaves it aborted, with one exception: when the link fails on a read of the check, the run ends
while the engine is still published as validating its channels.  The theorem of this module says
that there is no other exception.
-/
import LabControl.Proofs.Sweep.Autosweep

namespace LabControl.Sweep

variable {ν : Type} [Quantity ν]

/-- The state that says how a run ended. -/
def State.after : Except ControlError Outcome → State ν
  | .ok (.completed _) => .idle
  | .ok (.refused _) | .error _ => .aborted

/-- **The link fails on a read of the check**, and nothing else happens. -/
inductive CheckFails (e : Engine) (plan : Plan ν) : History ν → Prop where
  | swept (fault : Fault) :
    CheckFails e plan
      [.inspected e.token false, .published .validateChannels,
        .ordered (.readChannel plan.channel) (.error fault)]
  | stepped {output : Nat} (hsteps : plan.steps.stepChannel? = some output) {reply : Reply}
      (hknown : (reply.channelReading : ChannelReading ν).known = true) (fault : Fault) :
    CheckFails e plan
      [.inspected e.token false, .published .validateChannels,
        .ordered (.readChannel plan.channel) (.ok reply),
        .ordered (.readChannel output) (.error fault)]

namespace CheckFails

variable {e : Engine} {plan : Plan ν} {t : History ν}

/-- A failed check leaves the engine validating. -/
theorem getLast?_states (h : CheckFails e plan t) :
    t.states.getLast? = some .validateChannels := by
  cases h with
  | swept fault => rfl
  | stepped hsteps hknown fault => rfl

/-- A check that fails does not pass. -/
theorem not_checked {start : Option ν} {guard rest : History ν}
    (hguard : Checked e plan start guard) : ¬ CheckFails e plan (guard ++ rest) := by
  intro h
  generalize ht : guard ++ rest = t at h
  cases hguard <;> cases h <;> simp_all

end CheckFails

/-- **The published state tells how a run ended just if the check did not fail**, and after a
failed check the engine is still published as validating its channels. -/
theorem final_state_autosweep_iff (e : Engine) (plan : Plan ν) (s : Surroundings ν) :
    ((s.history (Engine.autosweep e plan).run).states.getLast? =
        some (.after (s.result (Engine.autosweep e plan).run)) ↔
      ¬ CheckFails e plan (s.history (Engine.autosweep e plan).run)) ∧
    (CheckFails e plan (s.history (Engine.autosweep e plan).run) →
      (s.history (Engine.autosweep e plan).run).states.getLast? = some .validateChannels) := by
  refine ⟨?_, CheckFails.getLast?_states⟩
  have hruns := runs_autosweep (s.history_runs (Engine.autosweep e plan).run)
  generalize s.history (Engine.autosweep e plan).run = t at hruns ⊢
  generalize s.result (Engine.autosweep e plan).run = r at hruns ⊢
  -- for a run whose check did not fail, the state is published last
  have hagree {t : History ν} {r : Except ControlError Outcome}
      (hlast : t.states.getLast? = some (.after r)) (hok : ¬ CheckFails e plan t) :
      t.states.getLast? = some (.after r) ↔ ¬ CheckFails e plan t :=
    ⟨fun _ => hok, fun _ => hlast⟩
  have hdiffer {t : History ν} {error : ControlError} (hfails : CheckFails e plan t) :
      t.states.getLast? = some (.after (.error error)) ↔ ¬ CheckFails e plan t := by
    rw [hfails.getLast?_states]
    constructor
    · intro h
      cases h
    · intro h
      exact absurd hfails h
  cases hruns with
  | cancelled => exact hagree rfl fun h => by cases h
  | unread fault => exact hdiffer (.swept fault)
  | unknown h => exact hagree rfl fun h => by cases h
  | stepUnread hsteps h fault => exact hdiffer (.stepped hsteps h fault)
  | stepUnknown hsteps h h' => exact hagree rfl fun h => by cases h
  | @ran start held guard body cleanup b c hguard hbody hcleanup =>
    refine hagree ?_ (CheckFails.not_checked hguard)
    rcases b with error | ⟨⟩
    · simp [History.states_cons, Occurrence.state?, concluded, State.after]
    · rcases c with error | ⟨⟩
      · simp [History.states_cons, Occurrence.state?, concluded, State.after]
      · simp [History.states_cons, Occurrence.state?, concluded, State.after]

/-- Surroundings whose remote link is closed from the start. -/
def closedLink : Surroundings Float where
  deliver _ _ _ := .error (.transport "closed")
  interrupts _ _ _ := false
  fired _ _ := false
  sleep _ _ _ := .ok true

/-- On a closed link a run fails, and the engine is still published as validating its channels. -/
theorem validating_after_closed_link :
    closedLink.result (Engine.autosweep {} onePair).run = .error (.transport "closed") ∧
      (closedLink.history (Engine.autosweep {} onePair).run).states.getLast? ≠
        some (.after (closedLink.result (Engine.autosweep {} onePair).run)) := by
  have hresult : closedLink.result (Engine.autosweep {} onePair).run =
      .error (.transport "closed") := rfl
  have hstates : (closedLink.history (Engine.autosweep {} onePair).run).states =
      [.validateChannels] := rfl
  refine ⟨hresult, ?_⟩
  rw [hresult, hstates]
  intro h
  cases h

end LabControl.Sweep
