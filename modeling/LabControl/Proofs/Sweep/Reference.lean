/-
# The reference trace

Where every request is answered and nothing is cancelled, a run of a plan that passes its check is
determined by the replies: it sends the reads of the check, the body and the cleanup, all to the
end, and completes.  The replies decide only which sweeps are waited for, how the panel variables
are named, and whether the return to zero sweeps at all.

In this trace each save has data of one leg only: the buffer is cleared right before the opposite
leg, and again right after the save.
-/
import LabControl.Proofs.Sweep.Autosweep
import Mathlib.Data.List.Basic

namespace LabControl.Sweep

variable {ν : Type}

/-! ## 1. Pairs and saves -/

/-- The commands of a leg, which is waited for or not. -/
def IsLeg (channel : Nat) : Direction → List (Instruction ν) → Prop
  | .up, is => is = [.sweepUp channel] ∨ is = [.sweepUp channel, .catchSweep .maxPosthold channel]
  | .down, is =>
    is = [.sweepDown channel] ∨ is = [.sweepDown channel, .catchSweep .minPosthold channel]

/-- **Each save is of the data of one opposite leg.**  Right before it stand that leg and a clear,
and right after it a clear. -/
def SavesApart (plan : Plan ν) (is : List (Instruction ν)) : Prop :=
  ∀ before filename after, is = before ++ .saveData filename :: after →
    filename = plan.filename ∧
    (∃ earlier leg, IsLeg plan.channel (legs plan.firstLeg).2 leg ∧
      before = earlier ++ .clearBuffer false false :: leg) ∧
    ∃ later, after = .clearBuffer false false :: later

theorem savesApart_of_no_save {plan : Plan ν} {is : List (Instruction ν)}
    (h : ∀ filename, .saveData filename ∉ is) : SavesApart plan is := by
  intro before filename after his
  exact absurd (by simp [his]) (h filename)

theorem SavesApart.append {plan : Plan ν} {is js : List (Instruction ν)} (hi : SavesApart plan is)
    (hj : SavesApart plan js) : SavesApart plan (is ++ js) := by
  intro before filename after h
  rcases List.append_eq_append_iff.mp h with ⟨before', rfl, hjs⟩ | ⟨after', his, hafter⟩
  · obtain ⟨hname, ⟨earlier, leg, hleg, rfl⟩, hclear⟩ := hj before' filename after hjs
    exact ⟨hname, ⟨is ++ earlier, leg, hleg, by simp⟩, hclear⟩
  · rcases after' with _ | ⟨i, after'⟩
    · obtain ⟨hname, ⟨earlier, leg, hleg, hb⟩, hclear⟩ := hj [] filename after hafter.symm
      simp at hb
    · obtain ⟨rfl, rfl⟩ := List.cons.inj hafter
      obtain ⟨hname, hbefore, later, rfl⟩ := hi before filename after' his
      exact ⟨hname, hbefore, later ++ js, rfl⟩

theorem savesApart_andThen {plan : Plan ν} {p q : Planned ν}
    (hp : ∀ replies, SavesApart plan (p replies)) (hq : ∀ replies, SavesApart plan (q replies))
    (replies : List Reply) : SavesApart plan (p.andThen q replies) :=
  (hp _).append (hq _)

theorem IsLeg.no_save {channel : Nat} {direction : Direction} {is : List (Instruction ν)}
    (h : IsLeg channel direction is) (filename : String) : .saveData filename ∉ is := by
  cases direction with
  | up => rcases h with rfl | rfl <;> simp
  | down => rcases h with rfl | rfl <;> simp

theorem arrival_pairScript (plan : Plan ν) (index : Nat) (held : Option ν) :
    (pairScript plan index).arrival held = held := by
  rw [pairScript_eq]
  rfl

theorem arrival_pairScripts (plan : Plan ν) (indices : List Nat) (held : Option ν) :
    Script.arrival (indices.flatMap (pairScript plan)) held = held := by
  induction indices with
  | nil => rfl
  | cons index rest ih =>
    rw [List.flatMap_cons, Script.arrival_append, arrival_pairScript]
    exact ih

variable [Quantity ν]

theorem isLeg_commands (channel : Nat) (direction : Direction) (index : Nat)
    (replies : List Reply) :
    IsLeg channel direction
      (Script.commands channel (legScript direction index : Script ν) replies) := by
  cases direction with
  | up =>
    simp only [legScript, Script.commands]
    split
    · exact .inr rfl
    · exact .inl rfl
  | down =>
    simp only [legScript, Script.commands]
    split
    · exact .inr rfl
    · exact .inl rfl

/-- The one save of a pair is of the data of its opposite leg. -/
theorem savesApart_pair (plan : Plan ν) (index : Nat) (replies : List Reply) :
    SavesApart plan (Script.commands plan.channel (pairScript plan index) replies) := by
  obtain ⟨first, second, hfirst, hsecond, hcommands⟩ : ∃ first second,
      IsLeg plan.channel (legs plan.firstLeg).1 first ∧
      IsLeg plan.channel (legs plan.firstLeg).2 second ∧
      Script.commands plan.channel (pairScript plan index) replies =
        (first ++ .clearBuffer false false :: second) ++
          .saveData plan.filename :: [.clearBuffer false false] := by
    simp only [pairScript, List.append_assoc, List.cons_append, Script.commands_append,
      Planned.andThen, Script.commands]
    exact ⟨_, _, isLeg_commands _ _ index _, isLeg_commands _ _ index _, rfl⟩
  intro before filename after h
  rw [hcommands] at h
  have hfront : .saveData filename ∉ first ++ .clearBuffer false false :: second := by
    simp [hfirst.no_save, hsecond.no_save]
  obtain ⟨rfl, hname, rfl⟩ := (List.append_cons_inj_of_notMem hfront (by simp)).mp h
  cases hname
  exact ⟨rfl, ⟨first, second, hsecond, rfl⟩, [], rfl⟩

/-! ## 2. The trace -/

/-- The value that the step channel holds after the last pair. -/
def lastHeld (plan : Plan ν) (start : Option ν) : Option ν :=
  match plan.steps with
  | .repeating _ => start
  | .stepping _ targets => start.map targets.getLastD

/-- **All that a run of a plan sends** when nothing fails, for the replies that come. -/
def referenceTrace (e : Engine) (plan : Plan ν) (start : Option ν) : Planned ν :=
  (Planned.fixed (guardReads plan)).andThen
    ((bodyCommands e plan start).andThen (restoreCommands e plan start (lastHeld plan start)))

theorem arrival_steppedBlocks (e : Engine) (plan : Plan ν) (output total index : Nat) (held : ν)
    (targets : List ν) :
    Script.arrival (steppedBlocks e plan output total index held targets) (some held) =
      some (targets.getLastD held) := by
  induction targets generalizing index held with
  | nil => rfl
  | cons target rest ih =>
    rw [steppedBlocks, steppedBlock, List.append_assoc, Script.arrival_append]
    simp only [List.cons_append, Script.arrival, Script.arrival_orders, Script.arrival_append,
      arrival_pairScript]
    rw [List.getLastD_cons]
    exact ih (index + 1) target

theorem arrival_bodyScript (e : Engine) (plan : Plan ν) {start : Option ν}
    (hstart : start.isSome = plan.steps.stepChannel?.isSome) (tag : String) :
    Script.arrival (bodyScript e plan start tag) start = lastHeld plan start := by
  simp only [bodyScript, List.cons_append, Script.arrival, Script.arrival_append,
    Script.arrival_orders, lastHeld, blocks]
  rcases hsteps : plan.steps with sweeps | ⟨output, _ | ⟨target, targets⟩⟩
  · exact arrival_pairScripts plan _ start
  · rcases start with _ | start
    · exact arrival_pairScript plan 0 none
    · exact arrival_pairScript plan 0 (some start)
  · obtain ⟨value, rfl⟩ : ∃ value, start = some value :=
      Option.isSome_iff_exists.mp (by simp [hstart, hsteps])
    exact arrival_steppedBlocks e plan output _ 0 value (target :: targets)

/-- A script without a save sends none. -/
theorem savesApart_commands {plan : Plan ν} {channel : Nat} {s : Script ν}
    (h : ∀ filename, .order (.saveData filename) ∉ s) (replies : List Reply) :
    SavesApart plan (s.commands channel replies) := by
  refine savesApart_of_no_save fun filename hsave => ?_
  rcases Script.mem_commands hsave with hs | ⟨direction, event, -, hi | hi⟩
  · exact h filename hs
  · cases direction <;> cases hi
  · cases hi

theorem savesApart_pairScripts (plan : Plan ν) (indices : List Nat) (replies : List Reply) :
    SavesApart plan (Script.commands plan.channel (indices.flatMap (pairScript plan)) replies) := by
  induction indices generalizing replies with
  | nil => exact savesApart_of_no_save fun _ => List.not_mem_nil
  | cons index rest ih =>
    rw [List.flatMap_cons, Script.commands_append]
    exact savesApart_andThen (savesApart_pair plan index) ih replies

theorem savesApart_steppedBlocks (e : Engine) (plan : Plan ν) (output total index : Nat) (held : ν)
    (targets : List ν) (replies : List Reply) :
    SavesApart plan (Script.commands plan.channel
      (steppedBlocks e plan output total index held targets) replies) := by
  induction targets generalizing index held replies with
  | nil => exact savesApart_of_no_save fun _ => List.not_mem_nil
  | cons target rest ih =>
    have hramp : ∀ filename, .order (.saveData filename) ∉
        Step.announce (.stepping index total target) ::
          orders (rampWrites e output held target) := by
      simp [orders, rampWrites]
    rw [steppedBlocks, steppedBlock, Script.commands_append, Script.commands_append]
    exact savesApart_andThen
      (savesApart_andThen (savesApart_commands hramp) (savesApart_pair plan index))
      (ih (index + 1) target) replies

theorem savesApart_bodyCommands (e : Engine) (plan : Plan ν) (start : Option ν)
    (replies : List Reply) : SavesApart plan (bodyCommands e plan start replies) := by
  have hblocks : ∀ replies, SavesApart plan
      (Script.commands plan.channel (blocks e plan start) replies) := by
    intro replies
    unfold blocks
    split
    · exact savesApart_steppedBlocks e plan _ _ 0 _ _ replies
    · exact savesApart_pairScripts plan _ replies
    · exact savesApart_pair plan 0 replies
  have hprepare (tag : String) : ∀ filename, .order (.saveData filename) ∉
      (.announce .clearBuffer :: orders (idQueries plan.channel) ++ orders (settings tag) :
        Script ν) := by
    simp [orders, idQueries, settings]
  rw [bodyCommands, bodyScript, Script.commands_append]
  exact savesApart_andThen (savesApart_commands (hprepare _)) hblocks replies

theorem savesApart_zeroCommands (tool : String) (plan : Plan ν) (channel : Nat)
    (replies : List Reply) : SavesApart plan (zeroCommands tool channel replies) := by
  have hread : SavesApart plan [.readChannel channel] := savesApart_of_no_save (by simp)
  rcases replies with _ | ⟨reply, replies⟩
  · exact hread
  · refine hread.append ?_
    split
    · exact savesApart_commands (by simp [zeroScript, orders, forcing, idQueries]) replies
    · exact savesApart_of_no_save fun _ => List.not_mem_nil

theorem savesApart_referenceTrace (e : Engine) (plan : Plan ν) (start : Option ν)
    (replies : List Reply) : SavesApart plan (referenceTrace e plan start replies) := by
  have hguard : SavesApart plan (guardReads plan) :=
    savesApart_of_no_save (by simp [guardReads])
  have hback (held : Option ν) : SavesApart plan (backWrites e plan start held) := by
    refine savesApart_of_no_save fun filename => ?_
    unfold backWrites
    split
    · simp [rampWrites]
    · exact List.not_mem_nil
  have hstop : SavesApart plan [.setRecording false] := savesApart_of_no_save (by simp)
  refine savesApart_andThen (fun _ => hguard) ?_ replies
  refine savesApart_andThen (savesApart_bodyCommands e plan start) ?_
  refine savesApart_andThen (fun _ => hback _) ?_
  exact savesApart_andThen (savesApart_zeroCommands _ plan _) fun _ => hstop

/-! ## 3. Runs without failures -/

/-- **A run where nothing fails is the reference run**: every request is answered, by any backend,
and the check is passed.  It completes all pairs, ends idle, and sends the reference trace, in
which each save has the data of one leg. -/
theorem autosweep_of_answering (e : Engine) (plan : Plan ν)
    (answer : History ν → Link → Request ν → Reply) {start : Option ν} {guard : History ν}
    (hguard : Checked e plan start guard)
    (h : guard <+: (Surroundings.answering answer).history (Engine.autosweep e plan).run) :
    let t := (Surroundings.answering answer).history (Engine.autosweep e plan).run
    (Surroundings.answering answer).result (Engine.autosweep e plan).run =
        .ok (.completed plan.steps.pairCount) ∧
      t.states.getLast? = some .idle ∧
      t.sent = remotely (referenceTrace e plan start t.replies) ∧
      SavesApart plan (referenceTrace e plan start t.replies) := by
  intro t
  have hsmooth : t.Smooth := Surroundings.smooth_answering answer _ []
  obtain ⟨held, body, cleanup, b, c, hbody, hcleanup, ht, hr⟩ :=
    (runs_autosweep ((Surroundings.answering answer).history_runs _)).of_checked hguard h
  change t = _ at ht
  rw [ht] at hsmooth
  obtain ⟨-, hrest⟩ := (History.smooth_append _ _).mp hsmooth
  obtain ⟨hrun, -⟩ := (History.smooth_append _ _).mp hrest
  obtain ⟨hb, hc⟩ := (History.smooth_append _ _).mp hrun
  obtain ⟨rfl, hsends⟩ := (cut_body hbody).of_smooth hb
  obtain ⟨rfl, hsends'⟩ := hcleanup.of_smooth hc
  obtain rfl : held = lastHeld plan start :=
    hbody.held_eq.trans (arrival_bodyScript e plan hguard.isSome_start _)
  refine ⟨?_, ?_, ?_, savesApart_referenceTrace e plan start _⟩
  · rw [hr]
    rfl
  · rw [ht]
    simp [History.states_cons, Occurrence.state?, concluded]
  · have hall := hguard.sends.append (Planned.causal_fixed _)
      (hsends.append (causal_bodyCommands e plan start) hsends')
    have hsent : t.sent = (guard ++ (body ++ cleanup)).sent := by
      rw [ht]
      simp [History.sent_cons, Occurrence.sent?]
    have hreplies : t.replies = (guard ++ (body ++ cleanup)).replies := by
      rw [ht]
      simp [History.replies_cons, Occurrence.reply?]
    rw [hsent, hreplies]
    exact hall.2

theorem autosweep_of_answering_twoSteps :
    let t := obliging.history (Engine.autosweep { rampPoints := 1 } twoSteps).run
    let start := (obligingReply (.instruct (.readChannel 4))).channelReading.value
    obliging.result (Engine.autosweep { rampPoints := 1 } twoSteps).run = .ok (.completed 2) ∧
      t.states.getLast? = some .idle ∧
      t.sent = remotely (referenceTrace { rampPoints := 1 } twoSteps (some start) t.replies) ∧
      SavesApart twoSteps (referenceTrace { rampPoints := 1 } twoSteps (some start) t.replies) ∧
      (t.sent.drop 12).take 7 = remotely
        [.sweepDown 3, .catchSweep .minPosthold 3, .clearBuffer false false,
          .sweepUp 3, .catchSweep .maxPosthold 3, .saveData "f", .clearBuffer false false] := by
  intro t start
  have hknown : ((obligingReply (.instruct (.readChannel 3))).channelReading :
      ChannelReading Float).known = true := rfl
  have hknown' : ((obligingReply (.instruct (.readChannel 4))).channelReading :
      ChannelReading Float).known = true := rfl
  obtain ⟨hresult, hidle, hsent, hsaves⟩ :=
    autosweep_of_answering { rampPoints := 1 } twoSteps (fun _ _ => obligingReply)
      (.stepped rfl hknown hknown') ⟨t.drop 4, rfl⟩
  refine ⟨hresult, hidle, hsent, hsaves, ?_⟩
  with_unfolding_all rfl

end LabControl.Sweep
