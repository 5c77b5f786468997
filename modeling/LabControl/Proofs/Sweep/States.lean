/-
# The published states

An observer of a run sees two things: the states that the engine publishes, and the requests on the
wire.  The states of a run are those of `Announces`: the check, the preparation, four or three
states for each block, the cleanup, and the state that tells how the run ended, with the blocks cut
short only by an error.  Only a run whose token has fired when it begins announces nothing but its
end.  `State.allows` is what the engine may give in each state, and every request of a run is
allowed by the state that was published last before it.

The states and the instructions of a script are known before it is followed, so both facts are
shown of the script, and carried over to the histories that follow it.
-/
import LabControl.Proofs.Sweep.Failures

namespace LabControl.Sweep

variable {ν : Type}

/-! ## 1. What a state allows -/

/-- What the engine may give while it sweeps in a direction. -/
def legAllows (channel : Nat) : Direction → Instruction ν → Bool
  | .up, .sweepUp c | .up, .catchSweep .maxPosthold c => c == channel
  | .down, .sweepDown c | .down, .catchSweep .minPosthold c => c == channel
  | _, .sweepStop c => c == channel
  | _, .clearBuffer false false => true
  | _, _ => false

/-- **What the engine may give in a state.** -/
def State.allows (plan : Plan ν) : State ν → Instruction ν → Bool
  | .validateChannels, .readChannel channel =>
    channel == plan.channel || plan.steps.stepChannel? == some channel
  | .clearBuffer, .getSweepId channel => channel == plan.channel
  | .clearBuffer, .getPanel | .clearBuffer, .setVar _ | .clearBuffer, .clearBuffer true false
  | .clearBuffer, .setRecording true => true
  | .stepping .., .setDac channel _ => plan.steps.stepChannel? == some channel
  | .sweepUp _, i => legAllows plan.channel .up i
  | .sweepDown _, i => legAllows plan.channel .down i
  | .saveData _, .saveData filename => filename == plan.filename
  | .saveData _, .clearBuffer false false => true
  | .restore, .setDac channel _ => plan.steps.stepChannel? == some channel
  | .restore, .readChannel channel | .restore, .getSweepId channel
  | .restore, .sweepUp channel | .restore, .sweepDown channel
  | .restore, .catchSweep .zeroStop channel | .restore, .sweepStop channel =>
    channel == plan.channel
  | .restore, .getPanel | .restore, .getVar _ | .restore, .setVar _
  | .restore, .setRecording false => true
  | _, _ => false

/-- A leg's state allows its sweep, the wait for its end, and the stop. -/
theorem allows_ofLeg (plan : Plan ν) (direction : Direction) (index : Nat) {i : Instruction ν}
    (hi : i ∈ [.startSweep direction plan.channel, .catchSweep direction.posthold plan.channel,
      .sweepStop plan.channel, .clearBuffer false false]) :
    (State.ofLeg direction index).allows plan i = true := by
  simp only [List.mem_cons, List.not_mem_nil, or_false] at hi
  rcases hi with rfl | rfl | rfl | rfl <;> cases direction <;>
    simp [State.ofLeg, State.allows, legAllows, Instruction.startSweep, Direction.posthold]

/-- The state of the cleanup allows a sweep in any direction, the wait for zero, and the stop. -/
theorem allows_restore (plan : Plan ν) (direction : Direction) {i : Instruction ν}
    (hi : i ∈ [.startSweep direction plan.channel, .catchSweep .zeroStop plan.channel,
      .sweepStop plan.channel]) : State.restore.allows plan i = true := by
  simp only [List.mem_cons, List.not_mem_nil, or_false] at hi
  rcases hi with rfl | rfl | rfl
  · cases direction <;> simp [State.allows, Instruction.startSweep]
  · simp [State.allows]
  · simp [State.allows]

/-- The state published last, if there is one, allows an instruction. -/
def permits (plan : Plan ν) (current : Option (State ν)) (i : Instruction ν) : Bool :=
  current.any fun state => state.allows plan i

/-! ## 2. The state published last -/

/-- **Each item of a list has a property under the state published last before it**, where items
publish states, and one may have been published before the list. -/
def EachUnder {α : Type} (state? : α → Option (State ν)) (P : Option (State ν) → α → Prop) :
    Option (State ν) → List α → Prop
  | _, [] => True
  | current, a :: l => P current a ∧ EachUnder state? P ((state? a).or current) l

theorem eachUnder_append_iff {α : Type} {state? : α → Option (State ν)}
    {P : Option (State ν) → α → Prop} {current : Option (State ν)} {l l' : List α} :
    EachUnder state? P current (l ++ l') ↔ EachUnder state? P current l ∧
      EachUnder state? P ((l.filterMap state?).getLast?.or current) l' := by
  induction l generalizing current with
  | nil => simp [EachUnder]
  | cons a l ih =>
    have hlast : ((a :: l).filterMap state?).getLast?.or current =
        (l.filterMap state?).getLast?.or ((state? a).or current) := by
      rcases h : state? a with _ | state
      · rw [List.filterMap_cons_none h, Option.none_or]
      · rw [List.filterMap_cons_some h, List.getLast?_cons, ← Option.or_some, Option.or_assoc]
    rw [List.cons_append, EachUnder, EachUnder, ih, hlast, and_assoc]

/-- **Every request is an instruction on the remote link that is allowed by the state published
last.** -/
def Guarded (plan : Plan ν) : Option (State ν) → History ν → Prop :=
  EachUnder Occurrence.state? fun current o =>
    ∀ p, o.sent? = some p → ∃ i, p = (.remote, .instruct i) ∧ permits plan current i = true

namespace Guarded

variable {plan : Plan ν} {current : Option (State ν)} {t u : History ν}

theorem append_iff : Guarded plan current (t ++ u) ↔
    Guarded plan current t ∧ Guarded plan (t.states.getLast?.or current) u :=
  eachUnder_append_iff

theorem published_cons {state : State ν} (h : Guarded plan (some state) t) :
    Guarded plan current (.published state :: t) := by
  refine ⟨fun p hp => ?_, h⟩
  cases hp

theorem inspected_cons {token : Token} {fired : Bool} (h : Guarded plan current t) :
    Guarded plan current (.inspected token fired :: t) := by
  refine ⟨fun p hp => ?_, h⟩
  cases hp

/-- An exchange of an instruction that is allowed. -/
theorem ordered_cons {i : Instruction ν} {d : Delivery} (hi : permits plan current i = true)
    (h : Guarded plan current t) : Guarded plan current (.ordered i d :: t) := by
  refine ⟨fun p hp => ?_, h⟩
  cases hp
  exact ⟨i, rfl, hi⟩

/-- A history that publishes nothing is guarded by the state before it. -/
theorem of_states_eq_nil (hstates : t.states = [])
    (hsent : ∀ p ∈ t.sent, ∃ i, p = (.remote, .instruct i) ∧ permits plan current i = true) :
    Guarded plan current t := by
  induction t with
  | nil => trivial
  | cons o t ih =>
    rw [History.states_cons, List.append_eq_nil_iff] at hstates
    rw [History.sent_cons] at hsent
    have ho : o.state? = none := by simpa using hstates.1
    refine ⟨fun p hp => hsent p (by simp [hp]), ?_⟩
    rw [ho, Option.none_or]
    exact ih hstates.2 fun p hp => hsent p (List.mem_append_right _ hp)

/-- **The state that guards a request** is the one published last before it. -/
theorem allows_of_sent (h : Guarded plan none t) {before after : History ν} {o : Occurrence ν}
    (ht : t = before ++ o :: after) {link : Link} {request : Request ν}
    (hsent : o.sent? = some (link, request)) :
    ∃ state i, before.states.getLast? = some state ∧ link = .remote ∧ request = .instruct i ∧
      state.allows plan i = true := by
  rw [ht, append_iff, Option.or_none] at h
  obtain ⟨i, hp, hi⟩ := h.2.1 _ hsent
  obtain ⟨state, hstate, hallows⟩ := Option.any_eq_true _ _ |>.mp hi
  cases hp
  exact ⟨state, i, hstate, rfl, rfl, hallows⟩

end Guarded

/-! ## 3. Scripts -/

/-- The state that a step publishes. -/
def Step.state? : Step ν → Option (State ν)
  | .announce state => some state
  | _ => none

/-- What a step may give, on a swept channel. -/
def Step.instructions (channel : Nat) : Step ν → List (Instruction ν)
  | .order i => [i]
  | .sweep direction event =>
    [.startSweep direction channel, .catchSweep event channel, .sweepStop channel]
  | .announce _ | .arrive _ => []

namespace Script

/-- The states that a script publishes when it is done to its end. -/
def states (s : Script ν) : List (State ν) := s.filterMap Step.state?

/-- Every step gives what the state published last allows. -/
def Guarded (plan : Plan ν) : Option (State ν) → Script ν → Prop :=
  EachUnder Step.state? fun current step =>
    ∀ i ∈ step.instructions plan.channel, permits plan current i = true

variable {plan : Plan ν} {current : Option (State ν)} {s s' : Script ν}

@[simp] theorem states_append : states (s ++ s') = states s ++ states s' := List.filterMap_append

theorem states_cons (step : Step ν) : states (step :: s) = step.state?.toList ++ states s := by
  cases h : step.state? <;> simp [states, h]

@[simp] theorem states_orders (is : List (Instruction ν)) : states (orders is) = [] := by
  induction is with
  | nil => rfl
  | cons i is ih => exact ih

theorem guarded_append_iff : Guarded plan current (s ++ s') ↔
    Guarded plan current s ∧ Guarded plan (s.states.getLast?.or current) s' :=
  eachUnder_append_iff

theorem guarded_announce {state : State ν} (h : Guarded plan (some state) s) :
    Guarded plan current (.announce state :: s) :=
  ⟨fun _ hi => absurd hi List.not_mem_nil, h⟩

theorem guarded_arrive {value : ν} (h : Guarded plan current s) :
    Guarded plan current (.arrive value :: s) :=
  ⟨fun _ hi => absurd hi List.not_mem_nil, h⟩

theorem guarded_orders {is : List (Instruction ν)} (h : ∀ i ∈ is, permits plan current i = true) :
    Guarded plan current (orders is) := by
  induction is with
  | nil => trivial
  | cons i is ih =>
    refine ⟨fun j hj => ?_, ih fun j hj => h j (List.mem_cons_of_mem i hj)⟩
    obtain rfl := List.mem_singleton.mp hj
    exact h j List.mem_cons_self

end Script

/-! ## 4. The blocks -/

/-- The states of the two legs of a pair, by the direction of the first. -/
def legStates (index : Nat) : Direction → List (State ν)
  | .up => [.sweepUp index, .sweepDown index]
  | .down => [.sweepDown index, .sweepUp index]

/-- The states of one block: the step to its target, if it has one, the two legs, and the save. -/
def blockStates (plan : Plan ν) (total index : Nat) (target : Option ν) : List (State ν) :=
  (target.map (.stepping index total)).toList ++ legStates index plan.firstLeg ++
    [.saveData index]

/-- The states of the blocks from an index on, one block for each target or absence of one. -/
def blockStatesFrom (plan : Plan ν) (total index : Nat) (targets : List (Option ν)) :
    List (State ν) :=
  (targets.zipIdx index).flatMap fun (target, i) => blockStates plan total i target

/-- **The states of all blocks of a run**, by its schedule. -/
def allBlockStates (plan : Plan ν) : List (State ν) :=
  match plan.steps with
  | .repeating sweeps => blockStatesFrom plan (max 1 sweeps) 0 (List.replicate (max 1 sweeps) none)
  | .stepping _ [] => blockStatesFrom plan 1 0 [none]
  | .stepping _ targets => blockStatesFrom plan targets.length 0 (targets.map some)

variable {plan : Plan ν} {current : Option (State ν)}

theorem blockStatesFrom_cons {total index : Nat} {target : Option ν} {rest : List (Option ν)} :
    blockStatesFrom plan total index (target :: rest) =
      blockStates plan total index target ++ blockStatesFrom plan total (index + 1) rest := by
  rw [blockStatesFrom, List.zipIdx_cons, List.flatMap_cons, blockStatesFrom]

theorem states_pairScript (plan : Plan ν) (total index : Nat) :
    (pairScript plan index).states = blockStates plan total index none := by
  rw [pairScript, blockStates]
  cases plan.firstLeg <;> rfl

theorem states_repeated (plan : Plan ν) (total index n : Nat) :
    Script.states ((List.range' index n).flatMap (pairScript plan)) =
      blockStatesFrom plan total index (List.replicate n none) := by
  induction n generalizing index with
  | zero => rfl
  | succ n ih =>
    rw [List.range'_succ, List.flatMap_cons, Script.states_append, ih, List.replicate_succ,
      blockStatesFrom_cons, states_pairScript]

theorem guarded_pairScript (index : Nat) :
    Script.Guarded plan current (pairScript plan index) := by
  -- each leg, and the clear behind the first, under the state of that leg
  have hleg (direction : Direction) {i : Instruction ν}
      (hi : i ∈ (Step.sweep direction direction.posthold : Step ν).instructions plan.channel) :
      permits plan (some (.ofLeg direction index)) i = true :=
    allows_ofLeg plan direction index (List.mem_append_left [_] hi)
  have hdiscard {i : Instruction ν}
      (hi : i ∈ (Step.order (.clearBuffer false false) : Step ν).instructions plan.channel) :
      permits plan (some (.ofLeg plan.firstLeg index)) i = true :=
    allows_ofLeg plan plan.firstLeg index (List.mem_append_right [_, _, _] hi)
  rw [pairScript_eq]
  refine Script.guarded_announce ⟨fun _ => hleg _, fun _ => hdiscard,
    Script.guarded_announce ⟨fun _ => hleg _, ?_⟩⟩
  simp [EachUnder, Step.instructions, Step.state?, permits, State.allows]

variable [Quantity ν]

theorem states_steppedBlocks (e : Engine) (plan : Plan ν) (output total index : Nat) (held : ν)
    (targets : List ν) : (steppedBlocks e plan output total index held targets).states =
      blockStatesFrom plan total index (targets.map some) := by
  induction targets generalizing index held with
  | nil => rfl
  | cons target rest ih =>
    have hblock : (steppedBlock e plan output total index held target).states =
        blockStates plan total index (some target) := by
      simp [steppedBlock, Script.states_cons, Step.state?, states_pairScript plan total,
        blockStates]
    rw [steppedBlocks, Script.states_append, ih, hblock, List.map_cons, blockStatesFrom_cons]

/-- The blocks of a run publish the states that its plan says. -/
theorem states_blocks {e : Engine} {start : Option ν}
    (hstart : start.isSome = plan.steps.stepChannel?.isSome) :
    (blocks e plan start).states = allBlockStates plan := by
  rcases hsteps : plan.steps with sweeps | ⟨output, _ | ⟨target, targets⟩⟩
  · simp only [blocks, hsteps, allBlockStates, List.range_eq_range', Nat.max_comm 1]
    exact states_repeated plan _ 0 _
  · simp only [blocks, hsteps, allBlockStates]
    exact (states_pairScript plan 1 0).trans (List.append_nil _).symm
  · obtain ⟨value, rfl⟩ : ∃ value, start = some value :=
      Option.isSome_iff_exists.mp (by simp [hstart, hsteps])
    simp only [blocks, hsteps, allBlockStates]
    exact states_steppedBlocks e plan output _ 0 value _

theorem guarded_steppedBlocks {output : Nat} (hsteps : plan.steps.stepChannel? = some output)
    (e : Engine) (total index : Nat) (held : ν) (targets : List ν) :
    Script.Guarded plan current (steppedBlocks e plan output total index held targets) := by
  induction targets generalizing current index held with
  | nil => trivial
  | cons target rest ih =>
    have hramp : Script.Guarded plan (some (.stepping index total target))
        (orders (rampWrites e output held target)) := by
      refine Script.guarded_orders fun i hi => ?_
      obtain ⟨value, -, rfl⟩ := List.mem_map.mp hi
      simp [permits, State.allows, hsteps]
    rw [steppedBlocks, steppedBlock, Script.guarded_append_iff, Script.guarded_append_iff]
    exact ⟨⟨Script.guarded_announce hramp, Script.guarded_arrive (guarded_pairScript index)⟩,
      ih _ _⟩

/-- The blocks of a run give only what their states allow. -/
theorem guarded_blocks (e : Engine) (start : Option ν) :
    Script.Guarded plan current (blocks e plan start) := by
  unfold blocks
  split
  · next output target targets held hsteps =>
    exact guarded_steppedBlocks (by rw [hsteps]; rfl) e _ _ held _
  · next sweeps hsteps =>
    induction (List.range (max sweeps 1)) generalizing current with
    | nil => trivial
    | cons index rest ih => exact Script.guarded_append_iff.mpr ⟨guarded_pairScript index, ih⟩
  · exact guarded_pairScript 0

/-! ## 5. Histories that follow a script -/

/-- A sweep is guarded by the state that allows its command, its wait and its stop. -/
theorem Sweeps.guarded {plan : Plan ν} {current : Option (State ν)} {direction : Direction}
    {event : Event} {token : Token} {t : History ν} {r : Except ControlError Bool}
    (h : Sweeps direction plan.channel event token t r)
    (hpermits : ∀ i ∈ (Step.sweep direction event).instructions plan.channel,
      permits plan current i = true) : Guarded plan current t := by
  simp only [Step.instructions, List.mem_cons, List.not_mem_nil, or_false, forall_eq_or_imp,
    forall_eq] at hpermits
  obtain ⟨hstart, hcatch, hstop⟩ := hpermits
  refine .of_states_eq_nil h.states_eq_nil ?_
  cases h with
  | lost fault => simp [History.sent, Occurrence.sent?, hstart]
  | rejected h => simp [History.sent, Occurrence.sent?, hstart]
  | awaited h d => simp [History.sent, Occurrence.sent?, hstart, hcatch]
  | stopped h hwait d =>
    rcases hwait with rfl | rfl
    · simp [History.sent, Occurrence.sent?, hstart, hcatch, hstop]
    · simp [History.sent, Occurrence.sent?, hstart, hstop]

/-- **A history that follows a guarded script is guarded.** -/
theorem Follows.guarded {plan : Plan ν} {token : Token} {current : Option (State ν)} {s : Script ν}
    {held held' : Option ν} {t : History ν} {r : Except ControlError Unit}
    (h : Follows token plan.channel s held t held' r) (hs : s.Guarded plan current) :
    Guarded plan current t := by
  induction h generalizing current with
  | done held => trivial
  | announce h ih => exact .published_cons (ih hs.2)
  | arrive h ih => exact ih hs.2
  | answered h ih => exact .ordered_cons (hs.1 _ List.mem_cons_self) (ih hs.2)
  | lost fault => exact .ordered_cons (hs.1 _ List.mem_cons_self) trivial
  | swept hsweeps h ih =>
    rw [Guarded.append_iff, hsweeps.states_eq_nil]
    exact ⟨hsweeps.guarded hs.1, ih hs.2⟩
  | broken hsweeps => exact hsweeps.guarded hs.1

/-- **The states of a history that follows a script** are those of the script, up to where it breaks
off. -/
theorem Follows.states_prefix {token : Token} {channel : Nat} {s : Script ν} {held held' : Option ν}
    {t : History ν} {r : Except ControlError Unit} (h : Follows token channel s held t held' r) :
    t.states <+: s.states ∧ (r = .ok () → t.states = s.states) := by
  induction h with
  | done held => exact ⟨List.prefix_rfl, fun _ => rfl⟩
  | @announce state rest held held' t r h ih =>
    rw [History.states_cons, Script.states_cons]
    exact ⟨(List.prefix_append_right_inj [state]).mpr ih.1,
      fun hr => congrArg (state :: ·) (ih.2 hr)⟩
  | arrive h ih => exact ih
  | answered h ih => exact ih
  | lost fault => exact ⟨List.nil_prefix, fun hr => by cases hr⟩
  | swept hs h ih =>
    rw [History.states_append, hs.states_eq_nil]
    exact ih
  | broken hs =>
    rw [hs.states_eq_nil]
    exact ⟨List.nil_prefix, fun hr => by cases hr⟩

/-! ## 6. The body and the cleanup -/

/-- **The states of a body** are the preparation and the blocks, up to where an error cuts
them. -/
theorem Follows.states_bodyScript {e : Engine} {start held held' : Option ν} {tag : String}
    (hstart : start.isSome = plan.steps.stepChannel?.isSome) {t : History ν}
    {r : Except ControlError Unit}
    (h : Follows e.token plan.channel (bodyScript e plan start tag) held t held' r) :
    ∃ reached, t.states = .clearBuffer :: reached ∧ reached <+: allBlockStates plan ∧
      (r = .ok () → reached = allBlockStates plan) := by
  cases h with
  | @announce _ _ _ _ u _ h =>
    exact ⟨u.states, rfl, by simpa [states_blocks hstart] using h.states_prefix⟩

theorem guarded_bodyScript (e : Engine) (start : Option ν) (tag : String) :
    Script.Guarded plan current (bodyScript e plan start tag) := by
  have hqueries : Script.Guarded plan (some .clearBuffer) (orders (idQueries plan.channel)) :=
    Script.guarded_orders fun i hi => by
      simp only [idQueries, List.mem_cons, List.not_mem_nil, or_false] at hi
      rcases hi with rfl | rfl <;> simp [permits, State.allows]
  have hsettings : Script.Guarded plan (some .clearBuffer) (orders (settings tag)) :=
    Script.guarded_orders fun i hi => by
      simp only [settings, List.mem_cons, List.not_mem_nil, or_false] at hi
      rcases hi with rfl | rfl | rfl | rfl | rfl | rfl <;> simp [permits, State.allows]
  rw [bodyScript, Script.guarded_append_iff, Script.guarded_append_iff]
  refine ⟨⟨Script.guarded_announce hqueries, ?_⟩, guarded_blocks e start⟩
  rw [Script.states_cons, Script.states_orders]
  exact hsettings

/-- A return to zero publishes nothing, and gives only what the cleanup may. -/
theorem ReturnsToZero.guarded {tool : String} {token : Token} {t : History ν}
    {r : Except ControlError Bool} (h : ReturnsToZero tool plan.channel token t r) :
    t.states = [] ∧ Guarded plan (some .restore) t := by
  have hread : permits plan (some .restore) (.readChannel plan.channel : Instruction ν) = true := by
    simp [permits, State.allows]
  have hsweepId : permits plan (some .restore)
      (.getSweepId plan.channel : Instruction ν) = true := by
    simp [permits, State.allows]
  cases h with
  | unread fault => exact ⟨rfl, .ordered_cons hread trivial⟩
  | unneeded h => exact ⟨rfl, .ordered_cons hread trivial⟩
  | @unforced reply h u error hu =>
    have hforcing : Script.Guarded plan (some .restore)
        (orders (forcing tool plan.channel reply.channelReading.value u.replies)) :=
      Script.guarded_orders fun i hi => by
        simp only [forcing, idQueries, List.cons_append, List.nil_append, List.mem_cons,
          List.not_mem_nil, or_false] at hi
        rcases hi with rfl | rfl | rfl | rfl <;> simp [permits, State.allows]
    have hstates : u.states = [] := by simpa using hu.states_prefix.1
    exact ⟨hstates, .ordered_cons hread (hu.guarded hforcing)⟩
  | @bracketed reply h panel sweep flag hflag former forced swept caught hswept d =>
    have hforced : Guarded plan (some .restore)
        [.ordered (.readChannel plan.channel) (.ok reply), .ordered .getPanel (.ok panel),
          .ordered (.getSweepId plan.channel) (.ok sweep), .ordered (.getVar flag) (.ok former),
          .ordered (.setVar (flag ++ "=1")) (.ok forced)] :=
      .ordered_cons hread (.ordered_cons rfl (.ordered_cons hsweepId
        (.ordered_cons rfl (.ordered_cons rfl trivial))))
    have hsweep : Guarded plan (some .restore) swept :=
      hswept.guarded fun i hi => allows_restore plan _ hi
    refine ⟨?_, ?_⟩
    · rw [History.states_append, History.states_append, hswept.states_eq_nil]
      rfl
    · rw [Guarded.append_iff, Guarded.append_iff, History.states_append, hswept.states_eq_nil]
      exact ⟨⟨hforced, hsweep⟩, .ordered_cons rfl trivial⟩

theorem guarded_backWrites (e : Engine) (start held : Option ν) :
    Script.Guarded plan (some .restore) (orders (backWrites e plan start held)) := by
  refine Script.guarded_orders fun i hi => ?_
  unfold backWrites at hi
  split at hi
  · next output start held hsteps =>
    obtain ⟨value, -, rfl⟩ := List.mem_map.mp hi
    simp [permits, State.allows, hsteps]
  · cases hi

/-- **The cleanup** publishes its state first, and gives only what that state allows. -/
theorem Restores.guarded {e : Engine} {start held : Option ν} {t : History ν}
    {r : Except ControlError Unit} (h : Restores e plan start held t r) :
    t.states = [.restore] ∧ Guarded plan current t := by
  cases h with
  | @intro back zero ramped returned hback hzero d =>
    obtain ⟨hzeroStates, hzeroGuarded⟩ := hzero.guarded
    have hbackGuarded := hback.guarded (guarded_backWrites e start held)
    have hfirst : History.states (.published .restore :: back) = [.restore] := by
      have hstates := hback.states_prefix.1
      rw [Script.states_orders, List.prefix_nil] at hstates
      rw [History.states_cons, hstates]
      rfl
    have hboth : History.states (.published .restore :: back ++ zero) = [.restore] := by
      rw [History.states_append, hfirst, hzeroStates]
      rfl
    refine ⟨?_, ?_⟩
    · rw [History.states_append, hboth]
      rfl
    · rw [Guarded.append_iff, Guarded.append_iff, hboth, hfirst]
      exact ⟨⟨.published_cons hbackGuarded, hzeroGuarded⟩, .ordered_cons rfl trivial⟩

/-! ## 7. The run -/

/-- **What a run publishes**, by how it ends, and by whether the engine was cancelled on entry. -/
inductive Announces (plan : Plan ν) (entry : Prop) :
    List (State ν) → Except ControlError Outcome → Prop where
  /-- The engine was cancelled before. -/
  | cancelled (hentry : entry) :
    Announces plan entry [.aborted] (.error (.cancelled "autosweep"))
  /-- The link failed on a read of the check. -/
  | unchecked (hentry : ¬ entry) (error : ControlError) :
    Announces plan entry [.validateChannels] (.error error)
  /-- The check refused the run. -/
  | refused (hentry : ¬ entry) (reason : String) :
    Announces plan entry [.validateChannels, .aborted] (.ok (.refused reason))
  /-- Every block was done, and the cleanup too. -/
  | completed (hentry : ¬ entry) :
    Announces plan entry
      (.validateChannels :: .clearBuffer :: allBlockStates plan ++ [.restore, .idle])
      (.ok (.completed plan.steps.pairCount))
  /-- An error cut the blocks short, or came in the cleanup. -/
  | failed (hentry : ¬ entry) {reached : List (State ν)} (h : reached <+: allBlockStates plan)
      (error : ControlError) :
    Announces plan entry (.validateChannels :: .clearBuffer :: reached ++ [.restore, .aborted])
      (.error error)

/-- **What an observer of a run can rely on**, by whether the engine was cancelled on entry: the
states come in the order of the run, and every request is an instruction on the remote link that the
state published last before it allows. -/
structure Observed (plan : Plan ν) (entry : Prop) (t : History ν)
    (r : Except ControlError Outcome) : Prop where
  announces : Announces plan entry t.states r
  /-- Only a run that was cancelled on entry publishes its abortion alone, and it sends nothing. -/
  silent : t.states = [.aborted] → entry ∧ t.sent = []
  /-- Nothing but a failure cuts the blocks short. -/
  fails_iff : (∃ error, r = .error error) ↔ entry ∨ ∃ o ∈ t, o.Fails
  /-- Nothing but an unknown value has the check refuse the run. -/
  refused : ∀ reason, r = .ok (.refused reason) → ∃ (channel : Nat) (reply : Reply),
    .ordered (.readChannel channel) (.ok reply) ∈ t ∧
      (reply.channelReading : ChannelReading ν).known = false
  allowed : ∀ (before : History ν) o after, t = before ++ o :: after → ∀ link request,
    o.sent? = some (link, request) →
      ∃ state i, before.states.getLast? = some state ∧ link = .remote ∧ request = .instruct i ∧
        state.allows plan i = true

namespace Autosweeps

variable {e : Engine} {plan : Plan ν} {t rest : History ν} {fired : Bool}
  {r : Except ControlError Outcome}

theorem announces (h : Autosweeps e plan t r) (ht : t = .inspected e.token fired :: rest) :
    Announces plan (fired = true) t.states r := by
  cases h with
  | cancelled =>
    cases ht
    exact .cancelled rfl
  | unread fault =>
    cases ht
    exact .unchecked Bool.false_ne_true _
  | unknown h =>
    cases ht
    exact .refused Bool.false_ne_true _
  | stepUnread hsteps h fault =>
    cases ht
    exact .unchecked Bool.false_ne_true _
  | stepUnknown hsteps h h' =>
    cases ht
    exact .refused Bool.false_ne_true _
  | @ran start held guard body cleanup b c hguard hbody hcleanup =>
    obtain rfl : fired = false := by
      cases hguard <;> exact (Occurrence.inspected.inj (List.cons.inj ht).1).2.symm
    have hcheck : guard.states = [.validateChannels] := by cases hguard <;> rfl
    obtain ⟨reached, hbodyStates, hprefix, hall⟩ := hbody.states_bodyScript hguard.isSome_start
    obtain ⟨hcleanupStates, -⟩ : cleanup.states = [.restore] ∧ Guarded plan none cleanup :=
      hcleanup.guarded
    have hstates : History.states (guard ++ (body ++ cleanup ++
        [.published (concluded plan.steps.pairCount b c).1])) =
        .validateChannels :: .clearBuffer :: reached ++
          [.restore, (concluded plan.steps.pairCount b c).1] := by
      simp [hcheck, hbodyStates, hcleanupStates, History.states_cons, Occurrence.state?]
    rw [hstates]
    rcases b with error | ⟨⟩
    · exact .failed Bool.false_ne_true hprefix error
    · rcases c with error | ⟨⟩
      · exact .failed Bool.false_ne_true hprefix error
      · rw [hall rfl]
        exact .completed Bool.false_ne_true

/-- A run that publishes its abortion alone is cancelled on entry, and sends nothing. -/
theorem silent (h : Autosweeps e plan t r) (ht : t = .inspected e.token fired :: rest)
    (hstates : t.states = [.aborted]) : fired = true ∧ t.sent = [] := by
  cases h with
  | cancelled =>
    cases ht
    exact ⟨rfl, rfl⟩
  | unread fault => cases hstates
  | unknown h => cases hstates
  | stepUnread hsteps h fault => cases hstates
  | stepUnknown hsteps h h' => cases hstates
  | ran hguard hbody hcleanup => cases hguard <;> cases hstates

/-- A run that is refused has read an unknown value. -/
theorem exists_unknown (h : Autosweeps e plan t r) {reason : String}
    (hr : r = .ok (.refused reason)) : ∃ (channel : Nat) (reply : Reply),
      .ordered (.readChannel channel) (.ok reply) ∈ t ∧
        (reply.channelReading : ChannelReading ν).known = false := by
  cases h with
  | cancelled => cases hr
  | unread fault => cases hr
  | unknown h => exact ⟨plan.channel, _, by simp, h⟩
  | stepUnread hsteps h fault => cases hr
  | @stepUnknown output hsteps reply reply' h h' => exact ⟨output, _, by simp, h'⟩
  | @ran start held guard body cleanup b c hguard hbody hcleanup =>
    rcases b with error | ⟨⟩
    · cases hr
    · rcases c with error | ⟨⟩
      · cases hr
      · cases hr

/-- **Every request of a run is allowed** by the state that was published last before it. -/
theorem guarded (h : Autosweeps e plan t r) : Guarded plan none t := by
  -- the check reads channels in its own state
  have hcheck {u : History ν} (hu : Guarded plan (some .validateChannels) u) :
      Guarded plan none (.inspected e.token false :: .published .validateChannels :: u) :=
    .inspected_cons (.published_cons hu)
  have hread : permits plan (some .validateChannels)
      (.readChannel plan.channel : Instruction ν) = true := by
    simp [permits, State.allows]
  have hreadStep {output : Nat} (hsteps : plan.steps.stepChannel? = some output) :
      permits plan (some .validateChannels) (.readChannel output : Instruction ν) = true := by
    simp [permits, State.allows, hsteps]
  cases h with
  | cancelled => exact .inspected_cons (.published_cons trivial)
  | unread fault => exact hcheck (.ordered_cons hread trivial)
  | unknown h => exact hcheck (.ordered_cons hread (.published_cons trivial))
  | stepUnread hsteps h fault =>
    exact hcheck (.ordered_cons hread (.ordered_cons (hreadStep hsteps) trivial))
  | stepUnknown hsteps h h' =>
    exact hcheck (.ordered_cons hread (.ordered_cons (hreadStep hsteps) (.published_cons trivial)))
  | @ran start held guard body cleanup b c hguard hbody hcleanup =>
    have hguarded : Guarded plan none guard := by
      cases hguard with
      | swept hsteps hknown => exact hcheck (.ordered_cons hread trivial)
      | stepped hsteps hknown hknown' =>
        exact hcheck (.ordered_cons hread (.ordered_cons (hreadStep hsteps) trivial))
    rw [Guarded.append_iff, Guarded.append_iff, Guarded.append_iff]
    exact ⟨hguarded, ⟨hbody.guarded (guarded_bodyScript e start _), hcleanup.guarded.2⟩,
      .published_cons trivial⟩

end Autosweeps

/-- **The states and the requests of a run agree**, in any surroundings. -/
theorem observed_autosweep (e : Engine) (plan : Plan ν) (s : Surroundings ν) :
    Observed plan (s.fired [] e.token = true) (s.history (Engine.autosweep e plan).run)
      (s.result (Engine.autosweep e plan).run) := by
  have hruns := runs_autosweep (s.history_runs (Engine.autosweep e plan).run)
  obtain ⟨rest, hbegins⟩ := exists_history_autosweep e plan s
  exact
    { announces := hruns.announces hbegins
      silent := hruns.silent hbegins
      fails_iff := (reports_autosweep e plan s).fails_iff
      refused := fun _ => hruns.exists_unknown
      allowed := fun _ _ _ ht _ _ => hruns.guarded.allows_of_sent ht }

theorem observed_autosweep_twoSteps :
    let t := obliging.history (Engine.autosweep {} twoSteps).run
    let r := obliging.result (Engine.autosweep {} twoSteps).run
    Observed twoSteps (obliging.fired [] .run = true) t r ∧ r = .ok (.completed 2) ∧
      t.states = [.validateChannels, .clearBuffer,
        .stepping 0 2 1, .sweepDown 0, .sweepUp 0, .saveData 0,
        .stepping 1 2 2, .sweepDown 1, .sweepUp 1, .saveData 1, .restore, .idle] := by
  intro t r
  have hresult : r = .ok (.completed 2) := by with_unfolding_all rfl
  refine ⟨observed_autosweep {} twoSteps obliging, hresult, ?_⟩
  with_unfolding_all rfl

end LabControl.Sweep
