/-
# Where a run waits

A run looks at its tokens in three places: on entry, in the legs of its body, and in the zero sweep
of its cleanup.  The body waits on the engine's token only, and the cleanup on its own.

A wait stands right behind the sweep that it is for, if the backend acknowledged that sweep, and an
acknowledged sweep is always waited for (`Paired`).  A wait that is cancelled is answered by a stop.
In the body nothing comes after this stop (`Follows.of_cancels`); in the cleanup the zero stop gets
its former value back and the recording is stopped (`Restores.of_cancels`).
-/
import LabControl.Proofs.Sweep.Autosweep
import LabControl.Proofs.Timing

namespace LabControl

variable {ν : Type}

/-! ## 1. Places in a history -/

/-- An occurrence of a history in two parts is in one of them. -/
theorem History.split_cons {t u before after : History ν} {o : Occurrence ν}
    (h : t ++ u = before ++ o :: after) :
    (∃ later, t = before ++ o :: later ∧ after = later ++ u) ∨
      ∃ earlier, before = t ++ earlier ∧ u = earlier ++ o :: after := by
  rcases List.append_eq_append_iff.mp h with ⟨earlier, hbefore, hu⟩ | ⟨later, ht, hafter⟩
  · exact .inr ⟨earlier, hbefore, hu⟩
  · rcases later with _ | ⟨o', later⟩
    · exact .inr ⟨[], by simpa using ht.symm, by simpa using hafter.symm⟩
    · obtain ⟨rfl, hlater⟩ := List.cons.inj hafter
      exact .inl ⟨later, ht, hlater⟩

theorem History.mem_of_eq_append_cons {t before after : History ν} {o : Occurrence ν}
    (h : t = before ++ o :: after) : o ∈ t := by
  simp [h]

/-- An occurrence that is in neither of the outer parts is in the one between them. -/
theorem History.split_middle {a t u before after : History ν} {o : Occurrence ν}
    (h : a ++ t ++ u = before ++ o :: after) (ha : o ∉ a) (hu : o ∉ u) :
    ∃ earlier later, before = a ++ earlier ∧ t = earlier ++ o :: later ∧ after = later ++ u := by
  rcases split_cons h with ⟨later, hat, rfl⟩ | ⟨x, -, hx⟩
  · rcases split_cons hat with ⟨x, hx, -⟩ | ⟨earlier, rfl, rfl⟩
    · exact absurd (mem_of_eq_append_cons hx) ha
    · exact ⟨earlier, later, rfl, rfl, rfl⟩
  · exact absurd (mem_of_eq_append_cons hx) hu

/-- The instruction starts a sweep. -/
def Instruction.isSweep : Instruction ν → Bool
  | .sweepUp _ | .sweepDown _ => true
  | _ => false

namespace Occurrence

variable [Quantity ν]

/-- A sweep was started, and the backend acknowledged it. -/
def StartsSweep (o : Occurrence ν) (direction : Sweep.Direction) (channel : Nat) : Prop :=
  ∃ reply : Reply, o = .ordered (.startSweep direction channel) (.ok reply) ∧
    reply.acknowledges (Instruction.startSweep direction channel : Instruction ν).command = true

/-- The occurrence neither looks at a token nor starts a sweep. -/
def Plain (o : Occurrence ν) (channel : Nat) : Prop :=
  (∀ token i, ¬ o.Waits token i) ∧ (∀ token fired, o ≠ .inspected token fired) ∧
    ∀ direction, ¬ o.StartsSweep direction channel

variable {o : Occurrence ν} {token : Token} {i : Instruction ν} {channel : Nat}
  {direction direction' : Sweep.Direction}

omit [Quantity ν] in
theorem startSweep_inj
    (h : (.startSweep direction channel : Instruction ν) = .startSweep direction' channel) :
    direction = direction' := by
  cases direction <;> cases direction'
  · rfl
  · cases h
  · cases h
  · rfl

/-- A sweep is started in one direction. -/
theorem StartsSweep.direction_eq (h : o.StartsSweep direction channel)
    (h' : o.StartsSweep direction' channel) : direction = direction' := by
  obtain ⟨reply, rfl, -⟩ := h
  obtain ⟨reply', h', -⟩ := h'
  simp only [ordered, exchanged.injEq, Request.instruct.injEq] at h'
  exact startSweep_inj h'.2.1

omit [Quantity ν] in
/-- An exchange is no wait. -/
theorem not_waits_ordered {j : Instruction ν} {d : Delivery} :
    ¬ (ordered j d : Occurrence ν).Waits token i := by
  rintro (⟨d', h⟩ | h | h) <;> cases h

omit [Quantity ν] in
theorem Cancels.not_ordered (h : o.Cancels token i) : ¬ ∃ j d, o = .ordered j d := by
  rintro ⟨j, d, rfl⟩
  exact not_waits_ordered (.inr h)

omit [Quantity ν] in
/-- A look at a token on its own is no wait. -/
theorem not_waits_inspected {token' : Token} {fired : Bool} :
    ¬ (inspected token' fired : Occurrence ν).Waits token i := by
  rintro (⟨d, h⟩ | h | h) <;> cases h

/-- A sweep that is started is no wait. -/
theorem StartsSweep.not_waits (h : o.StartsSweep direction channel) : ¬ o.Waits token i := by
  obtain ⟨reply, rfl, -⟩ := h
  exact not_waits_ordered

theorem StartsSweep.ne_published (h : o.StartsSweep direction channel) (state : Sweep.State ν) :
    o ≠ .published state := by
  obtain ⟨reply, rfl, -⟩ := h
  exact fun hne => by cases hne

omit [Quantity ν] in
theorem not_waits_published {state : Sweep.State ν} :
    ¬ (published state : Occurrence ν).Waits token i := by
  rintro (⟨d, h⟩ | h | h) <;> cases h

theorem plain_published (state : Sweep.State ν) : Plain (.published state) channel := by
  refine ⟨fun _ _ => not_waits_published, fun _ _ h => (by cases h), ?_⟩
  rintro direction ⟨reply, h, -⟩
  cases h

/-- An instruction that starts no sweep of the channel, or that is not acknowledged, is plain. -/
theorem plain_ordered {d : Delivery}
    (h : ∀ direction reply, i = .startSweep direction channel → d = .ok reply →
      reply.acknowledges (Instruction.startSweep direction channel : Instruction ν).command =
        false) : Plain (.ordered i d) channel := by
  refine ⟨fun _ _ => not_waits_ordered, fun _ _ h => (by cases h), ?_⟩
  · rintro direction ⟨reply, ho, hack⟩
    simp only [ordered, exchanged.injEq, Request.instruct.injEq, true_and] at ho
    rw [h direction reply ho.1 ho.2] at hack
    cases hack

/-- An exchange of an instruction that starts no sweep is plain. -/
theorem plain_of_isSweep (hi : i.isSweep = false) (d : Delivery) : Plain (.ordered i d) channel :=
  plain_ordered fun direction _ he => by
    subst he
    cases direction <;> cases hi

end Occurrence

namespace Sweep

variable [Quantity ν] {token : Token} {channel : Nat}

/-! ## 2. Sweeps and their waits -/

/-- **Every acknowledged sweep is waited for at once**, on the token and for the event of its
direction, and there are no other looks at a token. -/
inductive Paired (token : Token) (channel : Nat) (event : Direction → Event) :
    History ν → Prop where
  | nil : Paired token channel event []
  | plain {o : Occurrence ν} {t : History ν} (ho : o.Plain channel)
      (h : Paired token channel event t) : Paired token channel event (o :: t)
  | sweep {direction : Direction} {o wait : Occurrence ν} {t : History ν}
      (ho : o.StartsSweep direction channel)
      (hwait : wait.Waits token (.catchSweep (event direction) channel))
      (h : Paired token channel event t) : Paired token channel event (o :: wait :: t)

namespace Paired

variable {event : Direction → Event} {t u before after : History ν} {o : Occurrence ν}

theorem append (h : Paired token channel event t) (hu : Paired token channel event u) :
    Paired token channel event (t ++ u) := by
  induction h with
  | nil => exact hu
  | plain ho h ih => exact .plain ho ih
  | sweep ho hwait h ih => exact .sweep ho hwait ih

/-- A wait is on the token, and stands right behind the sweep that it is for. -/
theorem of_waits (h : Paired token channel event (before ++ o :: after)) {token' : Token}
    {i : Instruction ν} (ho : o.Waits token' i) :
    ∃ direction earlier sweep, before = earlier ++ [sweep] ∧
      sweep.StartsSweep direction channel ∧
      o.Waits token (.catchSweep (event direction) channel) := by
  generalize ht : before ++ o :: after = t at h
  induction h generalizing before with
  | nil => simp at ht
  | @plain o' t hplain h ih =>
    rcases before with _ | ⟨b, before⟩
    · obtain ⟨rfl, rfl⟩ := List.cons.inj ht
      exact absurd ho (hplain.1 token' i)
    · obtain ⟨rfl, htail⟩ := List.cons.inj ht
      obtain ⟨direction, earlier, sweep, rfl, hsweep, hwait⟩ := ih htail
      exact ⟨direction, b :: earlier, sweep, rfl, hsweep, hwait⟩
  | @sweep direction o' wait t hsweep hwait h ih =>
    rcases before with _ | ⟨b, _ | ⟨b', before⟩⟩
    · obtain ⟨rfl, -⟩ := List.cons.inj ht
      exact absurd ho hsweep.not_waits
    · obtain ⟨rfl, htail⟩ := List.cons.inj ht
      obtain ⟨rfl, -⟩ := List.cons.inj htail
      exact ⟨direction, [], b, rfl, hsweep, hwait⟩
    · obtain ⟨rfl, htail⟩ := List.cons.inj ht
      obtain ⟨rfl, htail'⟩ := List.cons.inj htail
      obtain ⟨direction, earlier, sweep, rfl, hsweep, hwait⟩ := ih htail'
      exact ⟨direction, b :: b' :: earlier, sweep, rfl, hsweep, hwait⟩

/-- An acknowledged sweep is waited for at once. -/
theorem of_startsSweep (h : Paired token channel event (before ++ o :: after))
    {direction : Direction} (ho : o.StartsSweep direction channel) :
    ∃ wait later, after = wait :: later ∧
      wait.Waits token (.catchSweep (event direction) channel) := by
  generalize ht : before ++ o :: after = t at h
  induction h generalizing before with
  | nil => simp at ht
  | plain hplain h ih =>
    rcases before with _ | ⟨b, before⟩
    · obtain ⟨rfl, rfl⟩ := List.cons.inj ht
      exact absurd ho (hplain.2.2 direction)
    · exact ih (List.cons.inj ht).2
  | @sweep direction' o' wait t hsweep hwait h ih =>
    rcases before with _ | ⟨b, _ | ⟨b', before⟩⟩
    · obtain ⟨rfl, rfl⟩ := List.cons.inj ht
      obtain rfl := ho.direction_eq hsweep
      exact ⟨wait, t, rfl, hwait⟩
    · obtain ⟨-, htail⟩ := List.cons.inj ht
      obtain ⟨rfl, -⟩ := List.cons.inj htail
      exact absurd hwait ho.not_waits
    · exact ih (List.cons.inj (List.cons.inj ht).2).2

/-- The tokens are only looked at in waits. -/
theorem not_inspected (h : Paired token channel event t) (token' : Token) (fired : Bool) :
    .inspected token' fired ∉ t := by
  intro hmem
  induction h with
  | nil => cases hmem
  | plain hplain h ih =>
    rcases List.mem_cons.mp hmem with rfl | hmem
    · exact hplain.2.1 token' fired rfl
    · exact ih hmem
  | sweep hsweep hwait h ih =>
    rcases List.mem_cons.mp hmem with rfl | hmem
    · obtain ⟨reply, h, -⟩ := hsweep
      cases h
    · rcases List.mem_cons.mp hmem with rfl | hmem
      · rcases hwait with ⟨d, h⟩ | h | h <;> cases h
      · exact ih hmem

end Paired

theorem Sweeps.paired (event : Direction → Event) {direction : Direction} {t : History ν}
    {r : Except ControlError Bool} (h : Sweeps direction channel (event direction) token t r) :
    Paired token channel event t := by
  cases h with
  | lost fault => exact .plain (Occurrence.plain_ordered fun _ _ _ hd => by cases hd) .nil
  | rejected hreply =>
    refine .plain (Occurrence.plain_ordered fun _ _ hi hd => ?_) .nil
    obtain rfl := Occurrence.startSweep_inj hi
    cases hd
    exact hreply
  | awaited hreply d => exact .sweep ⟨_, rfl, hreply⟩ (.inl ⟨d, rfl⟩) .nil
  | stopped hreply hwait d =>
    exact .sweep ⟨_, rfl, hreply⟩ (.inr hwait) (.plain (Occurrence.plain_of_isSweep rfl d) .nil)

/-- A step that announces no cleanup, starts no sweep that is not waited for, and waits for the
event of its direction. -/
def Step.Regular (event : Direction → Event) : Step ν → Prop
  | .announce state => state ≠ .restore
  | .order i => i.isSweep = false
  | .sweep direction awaited => awaited = event direction
  | .arrive _ => True

/-- **In a history that follows regular steps every acknowledged sweep is waited for.** -/
theorem Follows.paired {event : Direction → Event} {s : Script ν} {held held' : Option ν}
    {t : History ν} {r : Except ControlError Unit} (h : Follows token channel s held t held' r)
    (hs : ∀ step ∈ s, step.Regular event) : Paired token channel event t := by
  induction h with
  | done held => exact .nil
  | announce h ih =>
    exact .plain (Occurrence.plain_published _) (ih fun step hmem => hs step (.tail _ hmem))
  | arrive h ih => exact ih fun step hmem => hs step (.tail _ hmem)
  | answered h ih =>
    exact .plain (Occurrence.plain_of_isSweep (hs _ List.mem_cons_self) _)
      (ih fun step hmem => hs step (.tail _ hmem))
  | lost fault => exact .plain (Occurrence.plain_of_isSweep (hs _ List.mem_cons_self) _) .nil
  | swept hsweeps h ih =>
    obtain rfl := hs _ List.mem_cons_self
    exact (hsweeps.paired event).append (ih fun step hmem => hs step (.tail _ hmem))
  | broken hsweeps =>
    obtain rfl := hs _ List.mem_cons_self
    exact hsweeps.paired event

/-! ## 3. The body -/

omit [Quantity ν] in
theorem regular_orders {event : Direction → Event} {is : List (Instruction ν)}
    (h : ∀ i ∈ is, i.isSweep = false) : ∀ step ∈ orders is, step.Regular event := by
  intro step hmem
  obtain ⟨i, hi, rfl⟩ := List.mem_map.mp hmem
  exact h i hi

omit [Quantity ν] in
theorem regular_pairScript (plan : Plan ν) (index : Nat) :
    ∀ step ∈ pairScript plan index, step.Regular legEnd := by
  have hleg (direction : Direction) : State.ofLeg direction index ≠ (.restore : State ν) := by
    cases direction <;> exact fun h => by cases h
  simp [pairScript_eq, Step.Regular, Instruction.isSweep, legEnd_eq, hleg]

theorem regular_steppedBlocks (e : Engine) (plan : Plan ν) (output total index : Nat) (held : ν)
    (targets : List ν) :
    ∀ step ∈ steppedBlocks e plan output total index held targets,
      step.Regular legEnd := by
  induction targets generalizing index held with
  | nil => simp [steppedBlocks]
  | cons target rest ih =>
    have hramp : ∀ step ∈ orders (rampWrites e output held target),
        step.Regular legEnd :=
      regular_orders (by simp [rampWrites, Instruction.isSweep])
    intro step hmem
    simp only [steppedBlocks, steppedBlock, List.cons_append, List.mem_cons,
      List.mem_append] at hmem
    rcases hmem with rfl | (hmem | rfl | hmem) | hmem
    · simp [Step.Regular]
    · exact hramp step hmem
    · trivial
    · exact regular_pairScript plan index step hmem
    · exact ih (index + 1) target step hmem

/-- **The steps of a body are regular**: its sweeps are the legs. -/
theorem regular_bodyScript (e : Engine) (plan : Plan ν) (start : Option ν) (tag : String) :
    ∀ step ∈ bodyScript e plan start tag, step.Regular legEnd := by
  have hblocks : ∀ step ∈ blocks e plan start, step.Regular legEnd := by
    unfold blocks
    split
    · exact regular_steppedBlocks e plan _ _ 0 _ _
    · intro step hmem
      obtain ⟨index, -, hmem⟩ := List.mem_flatMap.mp hmem
      exact regular_pairScript plan index step hmem
    · exact regular_pairScript plan 0
  have hsettings : ∀ i ∈ (settings tag : List (Instruction ν)), i.isSweep = false := by
    intro i hi
    simp only [settings, List.mem_cons, List.not_mem_nil, or_false] at hi
    rcases hi with rfl | rfl | rfl | rfl | rfl | rfl <;> rfl
  intro step hmem
  simp only [bodyScript, List.cons_append, List.append_assoc, List.mem_cons,
    List.mem_append] at hmem
  rcases hmem with rfl | hmem | hmem | hmem
  · simp [Step.Regular]
  · exact regular_orders (by simp [idQueries, Instruction.isSweep]) step hmem
  · exact regular_orders hsettings step hmem
  · exact hblocks step hmem

/-- **In a body every acknowledged leg is waited for**, and nothing else. -/
theorem Follows.paired_body {e : Engine} {plan : Plan ν} {start held held' : Option ν}
    {tag : String} {t : History ν} {b : Except ControlError Unit}
    (h : Follows token channel (bodyScript e plan start tag) held t held' b) :
    Paired token channel legEnd t :=
  h.paired (regular_bodyScript e plan start tag)

/-- A cancelled wait stands between the sweep that it was for and the stop. -/
theorem Sweeps.of_cancels {direction : Direction} {event : Event} {inner later : History ν}
    {o : Occurrence ν} {r : Except ControlError Bool}
    (h : Sweeps direction channel event token (inner ++ o :: later) r) {token' : Token}
    {i : Instruction ν} (ho : o.Cancels token' i) :
    ∃ sweep d, inner = [sweep] ∧ later = [.ordered (.sweepStop channel) d] ∧
      r = (told d).bind fun _ => .error (.cancelled i.name) := by
  generalize ht : inner ++ o :: later = t at h
  rcases inner with _ | ⟨sweep, inner⟩
  · cases h <;> exact absurd ⟨_, _, (List.cons.inj ht).1⟩ ho.not_ordered
  cases h with
  | lost fault => simp at ht
  | rejected hreply => simp at ht
  | awaited hreply d =>
    rcases inner with _ | ⟨o', inner⟩
    · obtain ⟨rfl, -⟩ := List.cons.inj (List.cons.inj ht).2
      rcases ho with h | h <;> cases h
    · simp at ht
  | stopped hreply hwait d =>
    rcases inner with _ | ⟨o', _ | ⟨o'', inner⟩⟩
    · obtain ⟨rfl, hlater⟩ := List.cons.inj (List.cons.inj ht).2
      obtain ⟨-, rfl⟩ := Occurrence.Waits.unique (.inr ho) (.inr hwait)
      exact ⟨sweep, d, rfl, hlater, rfl⟩
    · exact absurd ⟨_, _, (List.cons.inj (List.cons.inj (List.cons.inj ht).2).2).1⟩ ho.not_ordered
    · simp at ht

/-- **A wait of a script that is cancelled ends it**: the stop that answers the wait is the last of
its history. -/
theorem Follows.of_cancels {s : Script ν} {held held' : Option ν} {inner later : History ν}
    {o : Occurrence ν} {r : Except ControlError Unit}
    (h : Follows token channel s held (inner ++ o :: later) held' r) {token' : Token}
    {i : Instruction ν} (ho : o.Cancels token' i) :
    ∃ d, later = [.ordered (.sweepStop channel) d] ∧
      r = (told d).bind fun _ => .error (.cancelled i.name) := by
  generalize ht : inner ++ o :: later = t at h
  induction h generalizing inner with
  | done held => simp at ht
  | announce h ih =>
    rcases inner with _ | ⟨o', inner⟩
    · obtain ⟨rfl, -⟩ := List.cons.inj ht
      exact absurd (.inr ho) Occurrence.not_waits_published
    · exact ih (List.cons.inj ht).2
  | arrive h ih => exact ih ht
  | answered h ih =>
    rcases inner with _ | ⟨o', inner⟩
    · exact absurd ⟨_, _, (List.cons.inj ht).1⟩ ho.not_ordered
    · exact ih (List.cons.inj ht).2
  | lost fault =>
    rcases inner with _ | ⟨o', inner⟩
    · exact absurd ⟨_, _, (List.cons.inj ht).1⟩ ho.not_ordered
    · simp at ht
  | swept hsweeps h ih =>
    rcases History.split_cons ht.symm with ⟨x, rfl, -⟩ | ⟨x, -, hx⟩
    · -- a sweep whose wait is cancelled is not over with an answer
      obtain ⟨sweep, d, -, -, hr⟩ := hsweeps.of_cancels ho
      rcases d with fault | reply <;> cases hr
    · exact ih hx.symm
  | broken hsweeps =>
    subst ht
    obtain ⟨sweep, d, -, hlater, hr⟩ := hsweeps.of_cancels ho
    refine ⟨d, hlater, ?_⟩
    rcases d with fault | reply
    · cases hr
      rfl
    · cases hr
      rfl

/-! ## 4. The cleanup -/

/-- **In a return to zero the acknowledged sweep is waited for**, and nothing else. -/
theorem ReturnsToZero.paired {tool : String} {t : History ν} {r : Except ControlError Bool}
    (h : ReturnsToZero tool channel token t r) : Paired token channel (fun _ => .zeroStop) t := by
  have hplain {i : Instruction ν} (hi : i.isSweep = false) (d : Delivery) :
      Occurrence.Plain (.ordered i d) channel := Occurrence.plain_of_isSweep hi d
  cases h with
  | unread fault => exact .plain (hplain rfl _) .nil
  | unneeded hneeds => exact .plain (hplain rfl _) .nil
  | unforced hneeds hu =>
    exact .plain (hplain rfl _)
      (hu.paired (regular_orders (by simp [forcing, idQueries, Instruction.isSweep])))
  | bracketed hneeds hflag former forced hswept d =>
    refine Paired.append (Paired.append ?_ (hswept.paired fun _ => .zeroStop))
      (.plain (hplain rfl _) .nil)
    exact .plain (hplain rfl _) (.plain (hplain rfl _) (.plain (hplain rfl _)
      (.plain (hplain rfl _) (.plain (hplain rfl _) .nil))))

/-- **In a cleanup the acknowledged zero sweep is waited for**, on the token of the cleanup, and
nothing else. -/
theorem Restores.paired {e : Engine} {plan : Plan ν} {start held : Option ν} {t : History ν}
    {r : Except ControlError Unit} (h : Restores e plan start held t r) :
    Paired .cleanup plan.channel (fun _ => .zeroStop) t := by
  obtain ⟨hback, hzero, d⟩ := h
  have hwrites : ∀ i ∈ backWrites e plan start held, i.isSweep = false := by
    unfold backWrites
    split <;> simp [rampWrites, Instruction.isSweep]
  exact Paired.append
    (Paired.append (.plain (Occurrence.plain_published _) (hback.paired (regular_orders hwrites)))
      hzero.paired)
    (.plain (Occurrence.plain_of_isSweep rfl d) .nil)

/-- Orders are exchanges of the instructions that are given. -/
theorem Follows.exists_of_mem {is : List (Instruction ν)} {held held' : Option ν} {t : History ν}
    {r : Except ControlError Unit} (h : Follows token channel (orders is) held t held' r)
    {o : Occurrence ν} (ho : o ∈ t) : ∃ i ∈ is, ∃ d, o = .ordered i d := by
  induction is generalizing t with
  | nil =>
    cases h
    cases ho
  | cons i is ih =>
    cases h with
    | answered h =>
      rcases List.mem_cons.mp ho with rfl | ho
      · exact ⟨i, List.mem_cons_self, _, rfl⟩
      · obtain ⟨j, hj, d, hd⟩ := ih h ho
        exact ⟨j, List.mem_cons_of_mem i hj, d, hd⟩
    | lost fault =>
      obtain rfl := List.mem_singleton.mp ho
      exact ⟨i, List.mem_cons_self, _, rfl⟩

/-- None of the exchanges of orders is a wait. -/
theorem Follows.ordered_of_mem {is : List (Instruction ν)} {held held' : Option ν} {t : History ν}
    {r : Except ControlError Unit} (h : Follows token channel (orders is) held t held' r)
    {o : Occurrence ν} (ho : o ∈ t) : ∃ i d, o = .ordered i d := by
  obtain ⟨i, -, d, hd⟩ := h.exists_of_mem ho
  exact ⟨i, d, hd⟩

/-- **What stands around the cancelled wait of a return to zero.**  Before it the former value of
the flag was read, the flag was forced on, and the sweep was started.  After it the sweep is told to
stop, and the flag gets its former value back. -/
theorem ReturnsToZero.of_cancels {tool : String} {inner later : History ν} {o : Occurrence ν}
    {r : Except ControlError Bool} (h : ReturnsToZero tool channel token (inner ++ o :: later) r)
    {token' : Token} {i : Instruction ν} (ho : o.Cancels token' i) :
    ∃ (earlier : History ν) (sweep : Occurrence ν) (flag : String) (former forced : Reply)
      (d reset : Delivery),
      inner = earlier ++ [.ordered (.getVar flag) (.ok former),
        .ordered (.setVar (flag ++ "=1")) (.ok forced)] ++ [sweep] ∧
      later = [.ordered (.sweepStop channel) d,
        .ordered (.setVar (flag ++ "=" ++ formerText former)) reset] := by
  generalize ht : inner ++ o :: later = t at h
  have hmem : o ∈ t := by simp [← ht]
  cases h with
  | unread fault => exact absurd ⟨_, _, List.mem_singleton.mp hmem⟩ ho.not_ordered
  | unneeded hneeds => exact absurd ⟨_, _, List.mem_singleton.mp hmem⟩ ho.not_ordered
  | unforced hneeds hu =>
    rcases List.mem_cons.mp hmem with rfl | hmem
    · exact absurd ⟨_, _, rfl⟩ ho.not_ordered
    · exact absurd (hu.ordered_of_mem hmem) ho.not_ordered
  | @bracketed reply hneeds panel sweep flag hflag former forced swept caught hswept d =>
    obtain ⟨earlier, later', rfl, rfl, rfl⟩ := History.split_middle ht.symm
      (fun hmem => by
        simp only [List.mem_cons, List.not_mem_nil, or_false] at hmem
        exact ho.not_ordered (by rcases hmem with h | h | h | h | h <;> exact ⟨_, _, h⟩))
      (fun hmem => ho.not_ordered ⟨_, _, List.mem_singleton.mp hmem⟩)
    obtain ⟨start, stop, rfl, rfl, -⟩ := hswept.of_cancels ho
    exact ⟨[.ordered (.readChannel channel) (.ok reply), .ordered .getPanel (.ok panel),
      .ordered (.getSweepId channel) (.ok sweep)], start, flag, former, forced, stop, d, rfl, rfl⟩

/-- **What stands around the cancelled wait of a cleanup**: what stands around that of its return
to zero, and then the end of the recording. -/
theorem Restores.of_cancels {e : Engine} {plan : Plan ν} {start held : Option ν}
    {inner later : History ν} {o : Occurrence ν} {r : Except ControlError Unit}
    (h : Restores e plan start held (inner ++ o :: later) r) {token' : Token} {i : Instruction ν}
    (ho : o.Cancels token' i) :
    ∃ (earlier : History ν) (sweep : Occurrence ν) (flag : String) (former forced : Reply)
      (d reset stopped : Delivery),
      inner = earlier ++ [.ordered (.getVar flag) (.ok former),
        .ordered (.setVar (flag ++ "=1")) (.ok forced)] ++ [sweep] ∧
      later = [.ordered (.sweepStop plan.channel) d,
        .ordered (.setVar (flag ++ "=" ++ formerText former)) reset,
        .ordered (.setRecording false) stopped] := by
  generalize ht : inner ++ o :: later = t at h
  obtain @⟨back, zero, ramped, returned, hback, hzero, d⟩ := h
  have hback' : o ∉ .published .restore :: back := by
    intro hmem
    rcases List.mem_cons.mp hmem with rfl | hmem
    · exact absurd (.inr ho) Occurrence.not_waits_published
    · exact absurd (hback.ordered_of_mem hmem) ho.not_ordered
  obtain ⟨earlier', later', rfl, rfl, rfl⟩ := History.split_middle ht.symm hback'
    fun hmem => ho.not_ordered ⟨_, _, List.mem_singleton.mp hmem⟩
  obtain ⟨earlier, sweep, flag, former, forced, stop, reset, rfl, rfl⟩ := hzero.of_cancels ho
  exact ⟨.published .restore :: back ++ earlier, sweep, flag, former, forced, stop, reset, d,
    by simp only [List.append_assoc], rfl⟩

/-! ## 5. A whole run -/

/-- **A place in a run**: the occurrence there, all that happened before it and all that happens
after it, and the result of the run. -/
inductive Place (e : Engine) (plan : Plan ν) :
    History ν → Occurrence ν → History ν → Except ControlError Outcome → Prop where
  /-- The look at the engine's token on entry. -/
  | entry (fired : Bool) {after : History ν} {r : Except ControlError Outcome} :
    Place e plan [] (.inspected e.token fired) after r
  /-- A place in the check, or the end of the run. -/
  | plain {before after : History ν} {o : Occurrence ν} (ho : o.Plain plan.channel)
      {r : Except ControlError Outcome} : Place e plan before o after r
  /-- A place in the body. -/
  | body {start held : Option ν} {guard inner later cleanup : History ν} {o : Occurrence ν}
      {b c : Except ControlError Unit} (hguard : Checked e plan start guard)
      (hbody : Follows e.token plan.channel
        (bodyScript e plan start (tagOf e.panelTool (History.replies (inner ++ o :: later)))) start
        (inner ++ o :: later) held b)
      (hcleanup : Restores e plan start held cleanup c) :
    Place e plan (guard ++ inner) o
      (later ++ cleanup ++ [.published (concluded plan.steps.pairCount b c).1])
      (concluded (ν := ν) plan.steps.pairCount b c).2
  /-- A place in the cleanup. -/
  | cleanup {start held : Option ν} {guard body inner later : History ν} {o : Occurrence ν}
      {b c : Except ControlError Unit} (hguard : Checked e plan start guard)
      (hbody : Follows e.token plan.channel
        (bodyScript e plan start (tagOf e.panelTool body.replies)) start body held b)
      (hcleanup : Restores e plan start held (inner ++ o :: later) c) :
    Place e plan (guard ++ body ++ inner) o
      (later ++ [.published (concluded plan.steps.pairCount b c).1])
      (concluded (ν := ν) plan.steps.pairCount b c).2

/-- A place in a run that is over with its check. -/
theorem place_of_check {e : Engine} {plan : Plan ν} {before after later rest : History ν}
    {o : Occurrence ν} {r : Except ControlError Outcome} {fired : Bool}
    (ht : .inspected e.token fired :: rest = before ++ o :: later)
    (hrest : ∀ o ∈ rest, (∃ state, o = .published state) ∨
      ∃ channel d, o = .ordered (.readChannel channel) d) : Place e plan before o after r := by
  rcases before with _ | ⟨b, before⟩
  · obtain ⟨rfl, -⟩ := List.cons.inj ht
    exact .entry fired
  · refine .plain ?_
    rcases hrest o (History.mem_of_eq_append_cons (List.cons.inj ht).2) with
      ⟨state, rfl⟩ | ⟨channel, d, rfl⟩
    · exact Occurrence.plain_published state
    · exact Occurrence.plain_of_isSweep rfl d

/-- **There are no other places.** -/
theorem Autosweeps.place {e : Engine} {plan : Plan ν} {before after : History ν}
    {o : Occurrence ν} {r : Except ControlError Outcome}
    (h : Autosweeps e plan (before ++ o :: after) r) : Place e plan before o after r := by
  generalize ht : before ++ o :: after = t at h
  cases h with
  | cancelled => exact place_of_check ht.symm (by simp)
  | unread fault => exact place_of_check ht.symm (by simp)
  | unknown hunknown => exact place_of_check ht.symm (by simp)
  | stepUnread hsteps hknown fault => exact place_of_check ht.symm (by simp)
  | stepUnknown hsteps hknown hunknown => exact place_of_check ht.symm (by simp)
  | @ran start held guard body cleanup b c hguard hbody hcleanup =>
    rcases History.split_cons ht.symm with ⟨x, hx, -⟩ | ⟨x, rfl, hx⟩
    · cases hguard with
      | swept hsteps hknown => exact place_of_check hx (by simp)
      | stepped hsteps hknown hknown' => exact place_of_check hx (by simp)
    rcases History.split_cons hx with ⟨y, hy, rfl⟩ | ⟨y, rfl, hy⟩
    · rcases History.split_cons hy with ⟨z, rfl, rfl⟩ | ⟨z, rfl, rfl⟩
      · exact .body hguard hbody hcleanup
      · rw [← List.append_assoc]
        exact .cleanup hguard hbody hcleanup
    · obtain rfl := List.mem_singleton.mp (History.mem_of_eq_append_cons hy)
      exact .plain (Occurrence.plain_published _)

/-! ## 6. The cleanup is announced -/

/-- No state of the cleanup is published before it begins. -/
theorem Follows.restore_not_mem {event : Direction → Event} {s : Script ν}
    {held held' : Option ν} {t : History ν} {r : Except ControlError Unit}
    (h : Follows token channel s held t held' r) (hs : ∀ step ∈ s, step.Regular event) :
    .published .restore ∉ t := by
  intro hmem
  have hstate : (.restore : State ν) ∈ t.states :=
    List.mem_filterMap.mpr ⟨.published .restore, hmem, rfl⟩
  exact hs _ (h.announce_mem hstate) rfl

theorem Checked.restore_not_mem {e : Engine} {plan : Plan ν} {start : Option ν}
    {guard : History ν} (h : Checked e plan start guard) : .published .restore ∉ guard := by
  cases h with
  | swept hsteps hknown => simp
  | stepped hsteps hknown hknown' => simp

/-- A cleanup begins with its announcement. -/
theorem Restores.restore_mem {e : Engine} {plan : Plan ν} {start held : Option ν}
    {inner later : History ν} {o : Occurrence ν} {c : Except ControlError Unit}
    (h : Restores e plan start held (inner ++ o :: later) c) (ho : o ≠ .published .restore) :
    .published .restore ∈ inner := by
  generalize ht : inner ++ o :: later = t at h
  obtain ⟨hback, hzero, d⟩ := h
  rcases inner with _ | ⟨o', inner⟩
  · exact absurd (List.cons.inj ht).1 ho
  · rw [(List.cons.inj ht).1]
    exact List.mem_cons_self

end Sweep

end LabControl
