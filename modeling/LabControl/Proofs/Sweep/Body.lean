/-
# The body of a run

The script of a run's body, and the proof that the body follows it.  The script is what the
operator expects to see: the panel and sweep ids, the four panel flags, a cleared buffer, recording
on, and then one block for each pair.  A block of a stepped run first ramps the step channel from
the value it holds, which is the initial reading or the target before, to its own target.

The names of the panel flags begin with a tag that the replies to the two id queries give, so the
body follows the script *for the replies that came* (`runs_body`).
-/
import LabControl.Proofs.Sweep.Commands

namespace LabControl.Sweep

open LabControl.Action (Runs)

variable {ν α β : Type} [Quantity ν]

/-! ## 1. Actions that perform a script -/

/-- The action does what the script says, and leaves the step channel to others. -/
def Performs (token : Token) (channel : Nat) (x : Action ν α) (s : Script ν) : Prop :=
  ∀ (t : History ν) (r : Except ControlError α), Runs x t r → ∀ held,
    Follows token channel s held t held (r.map fun _ => ())

section Performs

variable {token : Token} {channel : Nat}

/-- What is done without a value to yield follows its script. -/
theorem Performs.follows {x : Action ν Unit} {s : Script ν} (hx : Performs token channel x s)
    {t : History ν} {r : Except ControlError Unit} (h : Runs x t r) (held : Option ν) :
    Follows token channel s held t held r := by
  have hfollows := hx t r h held
  rcases r with error | ⟨⟩
  · exact hfollows
  · exact hfollows

theorem performs_pure (a : α) : Performs token channel (pure a : Action ν α) [] := by
  intro t r h held
  obtain ⟨rfl, rfl⟩ := Action.runs_pure.mp h
  exact .done held

theorem Performs.bind {x : Action ν α} {f : α → Action ν β} {s s' : Script ν}
    (hx : Performs token channel x s) (hf : ∀ a, Performs token channel (f a) s') :
    Performs token channel (x >>= f) (s ++ s') := by
  intro t r h held
  rcases Action.runs_bind.mp h with ⟨e, he, rfl⟩ | ⟨a, t₁, t₂, ha, hr, rfl⟩
  · exact (hx t _ he held).append_error
  · exact (hx t₁ _ ha held).append (hf a t₂ r hr held)

theorem performs_publish (state : State ν) :
    Performs token channel (Action.publish state) [.announce state] := by
  intro t r h held
  obtain ⟨rfl, rfl⟩ := Action.runs_publish.mp h
  exact .announce (.done held)

/-- One exchange, whatever is made of its reply. -/
theorem follows_order {i : Instruction ν} {d : Delivery} (f : Reply → α) (held : Option ν) :
    Follows token channel [.order i] held [.ordered i d] held
      (((told d).map f).map fun _ => ()) := by
  rcases d with fault | reply
  · exact .lost fault
  · exact .answered (.done held)

theorem performs_check (i : Instruction ν) :
    Performs token channel (Client.check .remote i) [.order i] := by
  intro t r h held
  obtain ⟨d, rfl, rfl⟩ := Client.runs_check.mp h
  exact follows_order _ held

theorem performs_setVar (line : String) :
    Performs token channel (Client.setVar line : Action ν Bool) [.order (.setVar line)] := by
  intro t r h held
  obtain ⟨d, rfl, rfl⟩ := Client.runs_setVar.mp h
  exact follows_order _ held

theorem performs_clearBuffer (confirm resetTime : Bool) :
    Performs token channel (Client.clearBuffer confirm resetTime : Action ν Reply)
      [.order (.clearBuffer confirm resetTime)] := by
  intro t r h held
  obtain ⟨d, rfl, rfl⟩ := Client.runs_clearBuffer.mp h
  rcases d with fault | reply
  · exact .lost fault
  · exact .answered (.done held)

/-- **Writing a list of values** gives one order for each, in their order. -/
theorem performs_writeAll (output : Nat) (values : List ν) :
    Performs token channel (Engine.writeAll output values)
      (orders (values.map (.setDac output))) := by
  induction values with
  | nil => exact performs_pure ()
  | cons value rest ih => exact (performs_check _).bind fun _ => ih

theorem performs_assignAll (tag : String) (lines : List String) :
    Performs token channel (Engine.assignAll tag lines : Action ν Unit)
      (orders (lines.map fun line => .setVar (tag ++ line))) := by
  induction lines with
  | nil => exact performs_pure ()
  | cons line rest ih => exact (performs_setVar _).bind fun _ => ih

end Performs

/-! ## 2. The blocks -/

/-- The directions of the two legs of a pair, by that of the first. -/
def legs : Direction → Direction × Direction
  | .up => (.up, .down)
  | .down => (.down, .up)

/-- The event that ends a leg: the end of the hold time at the endpoint that it sweeps to. -/
def legEnd : Direction → Event
  | .up => .maxPosthold
  | .down => .minPosthold

/-- One leg under its published state, up to the end of the hold time at its endpoint. -/
def legScript : Direction → Nat → Script ν
  | .up, index => [.announce (.sweepUp index), .sweep .up .maxPosthold]
  | .down, index => [.announce (.sweepDown index), .sweep .down .minPosthold]

/-- One pair: a leg whose data are cleared away, and the opposite leg, whose data are saved. -/
def pairScript (plan : Plan ν) (index : Nat) : Script ν :=
  legScript (legs plan.firstLeg).1 index ++ .order (.clearBuffer false false) ::
    legScript (legs plan.firstLeg).2 index ++
      [.announce (.saveData index), .order (.saveData plan.filename),
        .order (.clearBuffer false false)]

/-- The values of a ramp in a number of intervals: both ends and the points between them, or the
start alone where there are no intervals. -/
def rampValues (start finish : ν) (n : Nat) : List ν :=
  (List.range (n + 1)).map fun i =>
    if n = 0 then start else start + (finish - start) * Scale.count i / Scale.count n

/-- The writes of a ramp, which begins and ends at the values given. -/
def rampWrites (e : Engine) (output : Nat) (start finish : ν) : List (Instruction ν) :=
  (rampValues start finish e.rampPoints).map (.setDac output)

/-- One block of a stepped run: the ramp from the value held to the target, then the pair. -/
def steppedBlock (e : Engine) (plan : Plan ν) (output total index : Nat) (held target : ν) :
    Script ν :=
  .announce (.stepping index total target) :: orders (rampWrites e output held target) ++
    .arrive target :: pairScript plan index

/-- The blocks of a stepped run from an index on, each from the target before it. -/
def steppedBlocks (e : Engine) (plan : Plan ν) (output total : Nat) :
    Nat → ν → List ν → Script ν
  | _, _, [] => []
  | index, held, target :: rest =>
    steppedBlock e plan output total index held target ++
      steppedBlocks e plan output total (index + 1) target rest

/-- The number of pairs of a schedule: at least one. -/
def Schedule.pairCount : Schedule ν → Nat
  | .repeating sweeps => max 1 sweeps
  | .stepping _ targets => max 1 targets.length

/-- The blocks of a run, whose step channel holds a value at the start if there is one. -/
def blocks (e : Engine) (plan : Plan ν) (start : Option ν) : Script ν :=
  match plan.steps, start with
  | .stepping output (target :: targets), some held =>
    steppedBlocks e plan output (targets.length + 1) 0 held (target :: targets)
  | .repeating sweeps, _ => (List.range (max sweeps 1)).flatMap (pairScript plan)
  | _, _ => pairScript plan 0

omit [Quantity ν] in
theorem Schedule.length_iterations (s : Schedule ν) : s.iterations.length = s.pairCount := by
  rcases s with sweeps | ⟨output, _ | ⟨target, targets⟩⟩
  · rw [iterations, List.length_replicate, pairCount, Nat.max_comm]
  · rfl
  · rw [iterations, List.length_map, pairCount, List.length_cons]
    · omega
    · intro h
      cases h

/-- The legs of a pair go in the first direction and in the one opposite to it. -/
theorem legs_eq (direction : Direction) : legs direction = (direction, direction.opposite) := by
  cases direction <;> rfl

theorem legEnd_eq (direction : Direction) : legEnd direction = direction.posthold := by
  cases direction <;> rfl

omit [Quantity ν] in
/-- A leg is swept as the engine sweeps in its direction. -/
theorem legScript_eq (direction : Direction) (index : Nat) :
    (legScript direction index : Script ν) =
      [.announce (.ofLeg direction index), .sweep direction direction.posthold] := by
  cases direction <;> rfl

omit [Quantity ν] in
/-- A pair step by step. -/
theorem pairScript_eq (plan : Plan ν) (index : Nat) :
    pairScript plan index =
      [.announce (.ofLeg plan.firstLeg index), .sweep plan.firstLeg plan.firstLeg.posthold,
        .order (.clearBuffer false false), .announce (.ofLeg plan.firstLeg.opposite index),
        .sweep plan.firstLeg.opposite plan.firstLeg.opposite.posthold,
        .announce (.saveData index), .order (.saveData plan.filename),
        .order (.clearBuffer false false)] := by
  simp only [pairScript, legs_eq, legScript_eq, List.cons_append, List.nil_append]

/-- The values of a ramp are those of an evenly spaced range. -/
theorem rampValues_eq (start finish : ν) (n : Nat) :
    rampValues start finish n = evenlySpaced start finish n := by
  by_cases hn : n = 0
  · simp [rampValues, evenlySpaced, hn]
  · simp [rampValues, evenlySpaced, hn]

theorem length_rampValues (start finish : ν) (n : Nat) :
    (rampValues start finish n).length = n + 1 := by
  rw [rampValues_eq, length_evenlySpaced]

/-- **A ramp** writes its values, in their order. -/
theorem performs_ramp {token : Token} {channel : Nat} (e : Engine) (output : Nat)
    (start finish : ν) : Performs token channel (Engine.ramp e output start finish)
      (orders (rampWrites e output start finish)) := by
  rw [rampWrites, rampValues_eq]
  exact performs_writeAll output _

theorem performs_leg (e : Engine) (channel : Nat) (direction : Direction) (index : Nat) :
    Performs e.token channel (Engine.leg e channel direction index : Action ν Unit)
      (legScript direction index) := by
  rw [leg_eq, legScript_eq]
  refine (performs_publish _).bind fun _ => ?_
  intro t r h held
  rcases Action.runs_bind.mp h with ⟨error, he, rfl⟩ | ⟨caught, t₁, t₂, hs, hr, rfl⟩
  · exact .broken (runs_sweepAndWait he)
  · obtain ⟨rfl, rfl⟩ := Action.runs_pure.mp hr
    exact .swept (runs_sweepAndWait hs) (.done held)

theorem performs_pair (e : Engine) (plan : Plan ν) (index : Nat) :
    Performs e.token plan.channel (Engine.pair e plan index) (pairScript plan index) := by
  have hsave : Performs e.token plan.channel
      (do
        Action.publish (.saveData index)
        let _ ← Client.check .remote (.saveData plan.filename)
        let _ ← Client.clearBuffer false false : Action ν Unit)
      [.announce (.saveData index), .order (.saveData plan.filename),
        .order (.clearBuffer false false)] :=
    (performs_publish _).bind fun _ => (performs_check _).bind fun _ =>
      (performs_clearBuffer false false).bind fun _ => performs_pure ()
  simp only [pairScript, legs_eq, List.append_assoc, List.cons_append]
  exact (performs_leg e _ _ _).bind fun _ => (performs_clearBuffer false false).bind fun _ =>
    (performs_leg e _ _ _).bind fun _ => hsave

/-! ## 3. The pairs -/

/-- A pair and what follows it: a pair that fails ends the body with the value that the step
channel holds. -/
theorem runs_pair_then {e : Engine} {plan : Plan ν} {index : Nat} {held held' : Option ν}
    {rest : Program ν (Option ν × Except ControlError Unit)} {s : Script ν} {t : History ν}
    {r : Except ControlError Unit}
    (hrest : ∀ t, rest.Runs t (held', r) → Follows e.token plan.channel s held t held' r)
    (h : ((Engine.pair e plan index).run.bind fun
      | .error error => .done (held, .error error)
      | .ok () => rest).Runs t (held', r)) :
    Follows e.token plan.channel (pairScript plan index ++ s) held t held' r := by
  obtain ⟨error | ⟨⟩, t₁, t₂, hp, hr, rfl⟩ := (Program.runs_bind _ _ _ _).mp h
  · obtain ⟨rfl, hr⟩ := hr
    cases hr
    rw [List.append_nil]
    exact (performs_pair e plan index t₁ _ hp held).append_error
  · exact (performs_pair e plan index t₁ _ hp held).append (hrest t₂ hr)

/-- **Pairs without targets** follow one pair after the other. -/
theorem runs_pairs_repeated {e : Engine} {plan : Plan ν} {total n index : Nat}
    {held held' : Option ν} {t : History ν} {r : Except ControlError Unit}
    (h : (Engine.pairs e plan total index (List.replicate n none) held).Runs t (held', r)) :
    Follows e.token plan.channel ((List.range' index n).flatMap (pairScript plan)) held t held'
      r := by
  induction n generalizing index t with
  | zero =>
    obtain ⟨rfl, hr⟩ := h
    cases hr
    exact .done held
  | succ n ih =>
    rw [List.range'_succ, List.flatMap_cons]
    exact runs_pair_then (fun _ => ih) h

/-- Moving the step channel follows the ramp, and yields the target when the ramp is over. -/
theorem runs_moveStep {e : Engine} {steps : Schedule ν} {channel output index total : Nat}
    {held target : ν} (hsteps : steps.stepChannel? = some output) {t : History ν}
    {r : Except ControlError (Option ν)}
    (h : Runs (Engine.moveStep e steps index total (some held) (some target)) t r) :
    (r = .ok (some target) ∧ Follows e.token channel
      (.announce (.stepping index total target) :: orders (rampWrites e output held target))
        (some held) t (some held) (.ok ())) ∨
    ∃ error, r = .error error ∧ Follows e.token channel
      (.announce (.stepping index total target) :: orders (rampWrites e output held target))
        (some held) t (some held) (.error error) := by
  have hmove : (Engine.moveStep e steps index total (some held) (some target) :
      Action ν (Option ν)) = (do
        Action.publish (.stepping index total target)
        Engine.ramp e output held target) >>= fun _ => pure (some target) := by
    simp only [Engine.moveStep, hsteps, bind_assoc]
  have hramp : Performs e.token channel (do
      Action.publish (.stepping index total target)
      Engine.ramp e output held target)
      ([.announce (.stepping index total target)] ++ orders (rampWrites e output held target)) :=
    (performs_publish _).bind fun _ => performs_ramp e output held target
  rw [hmove, Action.runs_bind] at h
  rcases h with ⟨error, he, rfl⟩ | ⟨⟨⟩, t₁, t₂, hr, hp, rfl⟩
  · exact .inr ⟨error, rfl, hramp t _ he (some held)⟩
  · obtain ⟨rfl, rfl⟩ := Action.runs_pure.mp hp
    rw [List.append_nil]
    exact .inl ⟨rfl, hramp t₁ _ hr (some held)⟩

/-- **Stepped pairs** follow their blocks, each ramp beginning at the target before it. -/
theorem runs_pairs_stepped {e : Engine} {plan : Plan ν} {output total index : Nat}
    (hsteps : plan.steps.stepChannel? = some output) {held : ν} {held' : Option ν}
    {targets : List ν} {t : History ν} {r : Except ControlError Unit}
    (h : (Engine.pairs e plan total index (targets.map some) (some held)).Runs t (held', r)) :
    Follows e.token plan.channel (steppedBlocks e plan output total index held targets)
      (some held) t held' r := by
  induction targets generalizing index held t with
  | nil =>
    obtain ⟨rfl, hr⟩ := h
    cases hr
    exact .done _
  | cons target rest ih =>
    obtain ⟨moved, t₁, t₂, hm, hr, rfl⟩ := (Program.runs_bind _ _ _ _).mp h
    simp only [steppedBlocks, steppedBlock, List.append_assoc]
    rcases runs_moveStep hsteps hm with ⟨rfl, hf⟩ | ⟨error, rfl, hf⟩
    · refine hf.append (.arrive ?_)
      exact runs_pair_then (fun _ => ih) hr
    · obtain ⟨rfl, hr⟩ := hr
      cases hr
      rw [List.append_nil]
      exact hf.append_error

/-- The pairs of a plan follow its blocks, when the step channel holds a value just if there is
one. -/
theorem runs_pairs {e : Engine} {plan : Plan ν} {start held : Option ν}
    (hstart : start.isSome = plan.steps.stepChannel?.isSome) {t : History ν}
    {r : Except ControlError Unit}
    (h : (Engine.pairs e plan plan.steps.iterations.length 0 plan.steps.iterations start).Runs t
      (held, r)) :
    Follows e.token plan.channel (blocks e plan start) start t held r := by
  rcases hsteps : plan.steps with sweeps | ⟨output, _ | ⟨target, targets⟩⟩
  · simp only [hsteps, Schedule.iterations] at h
    simpa only [blocks, hsteps, List.range_eq_range'] using runs_pairs_repeated h
  · simp only [hsteps, Schedule.iterations] at h
    simpa [blocks, hsteps] using runs_pairs_repeated (n := 1) h
  · obtain ⟨value, rfl⟩ : ∃ value, start = some value :=
      Option.isSome_iff_exists.mp (by simp [hstart, hsteps])
    have hlength : (target :: targets).length = targets.length + 1 := List.length_cons
    simp only [hsteps, Schedule.iterations, List.length_map, hlength] at h
    simp only [blocks, hsteps]
    exact runs_pairs_stepped (by simp [hsteps]) h

/-! ## 4. The body -/

/-- The beginning of the names of a run's panel variables, by the replies to the two id
queries. -/
def tagOf (tool : String) (replies : List Reply) : String :=
  let panel := (replies.headD {}).idOf "get_panel"
  let sweep := (replies.tail.headD {}).idOf "get_sweep_id"
  "panel" ++ Decimal.intText panel ++ "_" ++ tool ++ Decimal.intText sweep ++ "_"

theorem tagOf_append {tool : String} {replies : List Reply} (h : 2 ≤ replies.length)
    (later : List Reply) : tagOf tool (replies ++ later) = tagOf tool replies := by
  match replies, h with
  | panel :: sweep :: rest, _ => rfl

/-- The two id queries. -/
def idQueries (channel : Nat) : List (Instruction ν) := [.getPanel, .getSweepId channel]

/-- Set the panel flags, clear the buffer and start recording. -/
def settings (tag : String) : List (Instruction ν) :=
  [.setVar (tag ++ "zerostop_down=0"), .setVar (tag ++ "zerostop_up=0"),
    .setVar (tag ++ "endstop_down=1"), .setVar (tag ++ "endstop_up=1"),
    .clearBuffer true false, .setRecording true]

/-- **The script of a body**, for the beginning of the names of the panel variables. -/
def bodyScript (e : Engine) (plan : Plan ν) (start : Option ν) (tag : String) : Script ν :=
  .announce .clearBuffer :: orders (idQueries plan.channel) ++ orders (settings tag) ++
    blocks e plan start

/-- Id queries that are answered yield the beginning of the names that their replies give. -/
theorem runs_sweepPrefix_ok {tool tag : String} {channel : Nat} {t : History ν}
    (h : Runs (Client.sweepPrefix tool channel) t (.ok tag)) :
    ∃ panel sweep,
      t = [.ordered .getPanel (.ok panel), .ordered (.getSweepId channel) (.ok sweep)] ∧
      tag = tagOf tool [panel, sweep] := by
  rcases Action.runs_bind.mp h with ⟨error, -, he⟩ | ⟨panel, t₁, t₂, hp, hrest, rfl⟩
  · cases he
  · obtain ⟨fault | reply, rfl, hd⟩ := Client.runs_ask.mp hp
    · cases hd
    · cases hd
      obtain ⟨fault | reply, rfl, hr⟩ := Client.runs_ask_map.mp hrest
      · cases hr
      · cases hr
        exact ⟨panel, reply, rfl, rfl⟩

/-- Id queries that fail do so at one of the two. -/
theorem runs_sweepPrefix_error {tool : String} {channel : Nat} {t : History ν}
    {error : ControlError} (h : Runs (Client.sweepPrefix tool channel) t (.error error))
    (token : Token) (swept : Nat) (held : Option ν) :
    Follows token swept (orders (idQueries channel)) held t held (.error error) := by
  rcases Action.runs_bind.mp h with ⟨error', hp, he⟩ | ⟨panel, t₁, t₂, hp, hrest, rfl⟩
  · obtain ⟨fault | reply, rfl, hd⟩ := Client.runs_ask.mp hp
    · cases hd
      cases he
      exact .lost fault
    · cases hd
  · obtain ⟨fault | reply, rfl, hd⟩ := Client.runs_ask.mp hp
    · cases hd
    · obtain ⟨fault | reply, rfl, hr⟩ := Client.runs_ask_map.mp hrest
      · cases hr
        exact .answered (.lost fault)
      · cases hr

/-- Preparing follows the first part of a body's script, for the replies to the id queries. -/
theorem runs_prepare {e : Engine} {channel : Nat} {t : History ν}
    {r : Except ControlError Unit} (h : Runs (Engine.prepare e channel) t r)
    (held : Option ν) (later : List Reply) :
    Follows e.token channel (.announce .clearBuffer :: orders (idQueries channel) ++
      orders (settings (tagOf e.panelTool (t.replies ++ later)))) held t held r := by
  have hset (tag : String) : Performs e.token channel (do
      Engine.assignAll tag Engine.runFlags
      let _ ← Client.clearBuffer true false
      let _ ← Client.check .remote (.setRecording true) : Action ν Unit)
      (orders (settings tag)) := by
    have hassign : Performs e.token channel (Engine.assignAll tag Engine.runFlags : Action ν Unit)
        (orders (Engine.runFlags.map fun flag => .setVar (tag ++ flag))) :=
      performs_assignAll tag Engine.runFlags
    exact hassign.bind fun _ => (performs_clearBuffer true false).bind fun _ =>
      (performs_check _).bind fun _ => performs_pure ()
  obtain ⟨u, rfl, hrest⟩ := Action.runs_publish_bind.mp h
  refine .announce ?_
  rcases Action.runs_bind.mp hrest with ⟨error, hq, rfl⟩ | ⟨tag, t₃, t₄, hq, ha, rfl⟩
  · exact (runs_sweepPrefix_error hq e.token channel held).append_error
  · obtain ⟨panel, sweep, rfl, rfl⟩ := runs_sweepPrefix_ok hq
    exact .answered (.answered ((hset (tagOf e.panelTool [panel, sweep])).follows ha held))

/-- **The body follows its script**, for the replies that come, and a body that ends well has run
every pair. -/
theorem runs_body {e : Engine} {plan : Plan ν} {start held : Option ν}
    (hstart : start.isSome = plan.steps.stepChannel?.isSome) {t : History ν}
    {r : Except ControlError Nat} (h : (Engine.body e plan start).Runs t (held, r)) :
    Follows e.token plan.channel (bodyScript e plan start (tagOf e.panelTool t.replies)) start t
      held (r.map fun _ => ()) ∧ ∀ n, r = .ok n → n = plan.steps.pairCount := by
  obtain ⟨error | ⟨⟩, t₁, t₂, hp, hrest, rfl⟩ := (Program.runs_bind _ _ _ _).mp h
  · obtain ⟨rfl, hr⟩ := hrest
    cases hr
    refine ⟨?_, fun _ hn => by cases hn⟩
    simpa [bodyScript, Except.map] using (runs_prepare hp start []).append_error
  · obtain ⟨⟨held', result⟩, t₃, t₄, hb, hend, rfl⟩ := (Program.runs_bind _ _ _ _).mp hrest
    obtain ⟨rfl, hr⟩ := hend
    cases hr
    constructor
    · have hprepare := runs_prepare hp start (History.replies t₃)
      have hfollows := hprepare.append (runs_pairs hstart hb)
      rcases result with error | ⟨⟩
      · simpa [bodyScript, Except.map] using hfollows
      · simpa [bodyScript, Except.map] using hfollows
    · intro n hn
      rcases result with error | ⟨⟩
      · cases hn
      · cases hn
        exact plan.steps.length_iterations

/-- **The commands of a body** when nothing fails, for the replies that come. -/
def bodyCommands (e : Engine) (plan : Plan ν) (start : Option ν) : Planned ν := fun replies =>
  (bodyScript e plan start (tagOf e.panelTool replies)).commands plan.channel replies

/-- **A body gets as far as its first fault**, or to the stop that answers a cancelled wait, or
sends all of its commands. -/
theorem cut_body {e : Engine} {plan : Plan ν} {start held : Option ν} {t : History ν}
    {r : Except ControlError Unit}
    (h : Follows e.token plan.channel (bodyScript e plan start (tagOf e.panelTool t.replies)) start
      t held r) :
    Cut e.token plan.channel (bodyCommands e plan start) t r :=
  h.cut.congr rfl

theorem causal_bodyCommands (e : Engine) (plan : Plan ν) (start : Option ν) :
    (bodyCommands e plan start).Causal := by
  intro replies later h
  unfold bodyCommands at h ⊢
  -- the replies that the tag is made of are among those that the commands have
  have hlong : 2 ≤ replies.length := by
    simp only [bodyScript, List.cons_append, List.append_assoc, Script.commands,
      Script.commands_append, Script.commands_orders, Planned.andThen, Planned.fixed, idQueries,
      List.length_append, List.length_cons] at h
    omega
  rw [tagOf_append hlong]
  exact Script.causal_commands _ _ replies later h

end LabControl.Sweep
