/-
# The zero stop is given back

A return to zero borrows a panel flag: it forces the zero stop of its direction on, sweeps, and
gives the flag its former text back.  `Brackets` says when that is, and what may stand between the
two, and `ReturnsInBracket` adds what comes before and how the whole ends.

Forcing the flag and giving it back may be the same command, namely where the flag was on before.
So the two are told apart by their places in the history and not by their texts.

The statement holds of every run of a return to zero, hence of the one in a cleanup, which is such
a run after all that the cleanup did before (`run_restore`).
-/
import LabControl.Proofs.Sweep.Restore
import Mathlib.Data.List.Basic

namespace LabControl.Sweep

variable {ν : Type} [Quantity ν]

/-! ## 1. The bracket -/

/-- What gives the flag its former text back, by the replies to the id queries and to the query
of the flag. -/
def resetting (tool : String) (value : ν) (replies : List Reply) : Instruction ν :=
  .setVar (zeroFlag tool value replies ++ "=" ++ formerText (replies.tail.tail.headD {}))

/-- What forces the flag on, by the replies to the id queries. -/
def forcingOn (tool : String) (value : ν) (replies : List Reply) : Instruction ν :=
  .setVar (zeroFlag tool value replies ++ "=1")

/-- What is asked before the flag is forced on, with the replies. -/
def queried (channel : Nat) (flag : String) (panel sweep former : Reply) : History ν :=
  [.ordered .getPanel (.ok panel), .ordered (.getSweepId channel) (.ok sweep),
    .ordered (.getVar flag) (.ok former)]

/-- **The flag is forced on and given back** by what follows the reading of a value. -/
structure Brackets (tool : String) (channel : Nat) (token : Token) (value : ν) (t : History ν) :
    Prop where
  /-- The direction is up just where the value is below zero. -/
  upward : towardZero value = .up ↔ Scale.lt value (Scale.count 0) = true
  /-- A reply came to the forcing just where the last thing that happens is, after a forcing, that
  the flag is given its former text back. -/
  reset : (∃ forced, .ordered (forcingOn tool value t.replies) (.ok forced) ∈ t) ↔
    ∃ before d mid d', t = before ++ .ordered (forcingOn tool value t.replies) d :: mid ++
      [.ordered (resetting tool value t.replies) d']
  /-- Between the two is the sweep, with its wait and the stop that answers a cancelled wait, and
  before them are the answered queries. -/
  between {before mid : History ν} {d d' : Delivery}
      (h : t = before ++ .ordered (forcingOn tool value t.replies) d :: mid ++
        [.ordered (resetting tool value t.replies) d']) :
    (∃ panel sweep former,
      before = queried channel (zeroFlag tool value t.replies) panel sweep former) ∧
    ∃ caught, Sweeps (towardZero value) channel .zeroStop token mid caught
  /-- Otherwise nothing follows the forcing. -/
  unforced (h : ¬ ∃ forced, .ordered (forcingOn tool value t.replies) (.ok forced) ∈ t) :
    t.sent <+: remotely (forcing tool channel value t.replies)

/-- **A sweep went through**: no link failed, the sweep and the wait for its event were
acknowledged, and the wait was not cancelled. -/
structure WentThrough (channel : Nat) (event : Event) (token : Token) (t : History ν) : Prop where
  unfailing : ∀ o ∈ t, o.fault? = none
  swept : ∃ direction reply, .ordered (.startSweep direction channel) (.ok reply) ∈ t ∧
    reply.acknowledges (Instruction.startSweep direction channel : Instruction ν).command = true
  caught : ∃ reply, .awaited token (.catchSweep event channel) (.ok reply) ∈ t ∧
    reply.acknowledges (Instruction.catchSweep event channel : Instruction ν).command = true
  uncancelled : ∀ o ∈ t, ¬ o.Cancels token (.catchSweep event channel)

/-- **What a return to zero promises** of its history and its result. -/
structure ReturnsInBracket (tool : String) (channel : Nat) (token : Token) (t : History ν)
    (r : Except ControlError Bool) : Prop where
  /-- The channel is read first. -/
  begins : ∃ d rest, t = .ordered (.readChannel channel) d :: rest
  /-- Nothing follows where the link fails, or the value is unknown or zero. -/
  idle {d : Delivery} {rest : History ν} (h : t = .ordered (.readChannel channel) d :: rest)
      (hidle : ∀ reply, d = .ok reply →
        needsSweep (reply.channelReading : ChannelReading ν) = false) : rest = []
  /-- Otherwise the flag is forced on and given back. -/
  brackets {reply : Reply} {rest : History ν}
      (h : t = .ordered (.readChannel channel) (.ok reply) :: rest)
      (hneeds : needsSweep (reply.channelReading : ChannelReading ν) = true) :
    Brackets tool channel token (reply.channelReading : ChannelReading ν).value rest
  /-- The channel was returned to zero just where the sweep went through. -/
  returned : r = .ok true ↔ WentThrough channel .zeroStop token t

variable {tool : String} {channel : Nat} {token : Token} {value : ν} {t : History ν}

theorem towardZero_eq_up_iff (value : ν) :
    towardZero value = .up ↔ Scale.lt value (Scale.count 0) = true := by
  unfold towardZero
  split
  · next h => simp [h]
  · next h => simp [h]

/-! ## 2. Before the flag is forced on -/

/-- **Orders that break off do so at the last exchange**, and those before were answered. -/
theorem Follows.exists_lost {is : List (Instruction ν)} {held held' : Option ν} {e : ControlError}
    (h : Follows token channel (orders is) held t held' (.error e)) :
    ∃ js i later before fault, is = js ++ i :: later ∧
      t = before ++ [.ordered i (.error fault)] ∧ History.sent before = remotely js ∧
      ∀ o ∈ before, ∃ j ∈ js, ∃ reply, o = .ordered j (.ok reply) := by
  induction is generalizing t with
  | nil => cases h
  | cons i is ih =>
    cases h with
    | lost fault => exact ⟨[], i, is, [], fault, rfl, rfl, rfl, by simp⟩
    | @answered _ reply _ _ _ _ _ h =>
      obtain ⟨js, j, later, before, fault, rfl, rfl, hsent, hbefore⟩ := ih h
      refine ⟨i :: js, j, later, .ordered i (.ok reply) :: before, fault, rfl, rfl, ?_, ?_⟩
      · rw [History.sent_cons, hsent]
        rfl
      · intro o ho
        rcases List.mem_cons.mp ho with rfl | ho
        · exact ⟨i, List.mem_cons_self, reply, rfl⟩
        · obtain ⟨k, hk, answer⟩ := hbefore o ho
          exact ⟨k, List.mem_cons_of_mem i hk, answer⟩

/-- **A forcing that breaks off** assigns no variable before its last exchange, and sends nothing
after it. -/
theorem forcing_lost {replies : List Reply} {error : ControlError}
    (h : Follows token channel (orders (forcing tool channel value replies)) none t none
      (.error error)) :
    ∃ i before fault, t = before ++ [.ordered i (.error fault)] ∧
      (∀ line d, Occurrence.ordered (.setVar line) d ∉ before) ∧
      t.sent <+: remotely (forcing tool channel value replies) := by
  obtain ⟨js, i, later, before, fault, his, rfl, hsent, hbefore⟩ := h.exists_lost
  refine ⟨i, before, fault, rfl, fun line d hmem => ?_, ?_⟩
  · obtain ⟨j, hj, reply, ho⟩ := hbefore _ hmem
    cases ho
    have hfront : (.setVar line : Instruction ν) ∈
        (forcing tool channel value replies).dropLast := by
      rw [his, List.dropLast_append_of_ne_nil (by simp)]
      exact List.mem_append_left _ hj
    simp [forcing, idQueries] at hfront
  · have hcut : History.sent (before ++ [.ordered i (.error fault)]) = remotely (js ++ [i]) := by
      rw [History.sent_append, hsent, remotely_append]
      rfl
    rw [hcut, his, List.append_cons js i later, remotely_append _ later]
    exact List.prefix_append _ _

/-- **Where the forcing breaks off, the flag is not given back.** -/
theorem brackets_of_lost {error : ControlError}
    (h : Follows token channel (orders (forcing tool channel value t.replies)) none t none
      (.error error)) : Brackets tool channel token value t := by
  obtain ⟨i, before, fault, ht, hquery, hsent⟩ := forcing_lost h
  have hanswered : ¬ ∃ forced, .ordered (forcingOn tool value t.replies) (.ok forced) ∈ t := by
    rintro ⟨forced, hmem⟩
    rw [ht, List.mem_append] at hmem
    rcases hmem with hmem | hmem
    · exact hquery _ _ hmem
    · simp at hmem
  have hreset (pre mid : History ν) (d d' : Delivery) :
      t ≠ pre ++ .ordered (forcingOn tool value t.replies) d :: mid ++
        [.ordered (resetting tool value t.replies) d'] := by
    intro heq
    obtain ⟨hfront, -⟩ := List.append_inj' (ht.symm.trans heq) rfl
    exact hquery _ d (hfront ▸ List.mem_append_right _ List.mem_cons_self)
  refine ⟨towardZero_eq_up_iff value, iff_of_false hanswered ?_,
    fun heq => absurd heq (hreset _ _ _ _), fun _ => hsent⟩
  rintro ⟨pre, d, mid, d', heq⟩
  exact hreset pre mid d d' heq

/-! ## 3. Once the flag is forced on -/

/-- A sweep and its wait assign no variable. -/
theorem Sweeps.setVar_not_mem {direction : Direction} {event : Event}
    {r : Except ControlError Bool} (h : Sweeps direction channel event token t r) (line : String)
    (d : Delivery) : Occurrence.ordered (.setVar line) d ∉ t := by
  intro hmem
  rcases h.eq_of_ordered hmem with heq | heq
  · cases direction <;> cases heq
  · cases heq

/-- **Where the forcing is answered, the flag is given back.** -/
theorem brackets_of_answered {panel sweep former forced : Reply} {flag : String}
    (hflag : flag = zeroFlag tool value [panel, sweep]) {swept : History ν}
    {caught : Except ControlError Bool}
    (hswept : Sweeps (towardZero value) channel .zeroStop token swept caught) (d : Delivery) :
    Brackets tool channel token value
      (queried channel flag panel sweep former ++
        .ordered (.setVar (flag ++ "=1")) (.ok forced) :: swept ++
        [.ordered (.setVar (flag ++ "=" ++ formerText former)) d]) := by
  obtain ⟨t, ht⟩ : ∃ t : History ν, t = queried channel flag panel sweep former ++
    .ordered (.setVar (flag ++ "=1")) (.ok forced) :: swept ++
    [.ordered (.setVar (flag ++ "=" ++ formerText former)) d] := ⟨_, rfl⟩
  obtain ⟨later, hreplies⟩ : ∃ later, t.replies = panel :: sweep :: former :: later :=
    ⟨_, congrArg History.replies ht⟩
  -- the replies to the queries are the ones that the two commands are made for
  have hzero : zeroFlag tool value t.replies = flag := by
    rw [hreplies, hflag]
    rfl
  have hforcing : forcingOn tool value t.replies = .setVar (flag ++ "=1") := by
    rw [forcingOn, hzero]
  have hresetting : resetting tool value t.replies =
      .setVar (flag ++ "=" ++ formerText former) := by
    rw [resetting, hzero, hreplies]
    rfl
  rw [← ht]
  have hanswered : ∃ forced, .ordered (forcingOn tool value t.replies) (.ok forced) ∈ t :=
    ⟨forced, by rw [hforcing, ht]; simp⟩
  refine ⟨towardZero_eq_up_iff value, iff_of_true hanswered ?_, fun {pre mid d₁ d₂} heq => ?_,
    fun h => absurd hanswered h⟩
  · exact ⟨_, .ok forced, swept, d, by rw [hforcing, hresetting]; exact ht⟩
  · rw [hforcing, hresetting] at heq
    obtain ⟨hfront, -⟩ := List.append_inj' (ht.symm.trans heq) rfl
    have hquery : Occurrence.ordered (.setVar (flag ++ "=1")) d₁ ∉
        (queried channel flag panel sweep former : History ν) := by
      simp [queried]
    obtain ⟨rfl, -, rfl⟩ := (List.append_cons_inj_of_notMem hquery
      (hswept.setVar_not_mem _ _)).mp hfront
    exact ⟨⟨panel, sweep, former, by rw [hzero]⟩, caught, hswept⟩

/-- A link that failed lets no sweep go through. -/
theorem not_wentThrough_of_fault {event : Event} {o : Occurrence ν} (hmem : o ∈ t)
    (h : o.fault? ≠ none) : ¬ WentThrough channel event token t :=
  fun hthrough => h (hthrough.unfailing o hmem)

/-- An answered command that sweeps no channel. -/
def Aside (channel : Nat) (o : Occurrence ν) : Prop :=
  ∃ i reply, o = .ordered i (.ok reply) ∧ ∀ direction, i ≠ .startSweep direction channel

/-- Other answered commands have no part in whether a sweep went through. -/
theorem wentThrough_iff_of_aside {event : Event} {whole : History ν} (hsub : ∀ o ∈ t, o ∈ whole)
    (haside : ∀ o ∈ whole, o ∈ t ∨ Aside channel o) :
    WentThrough channel event token whole ↔ WentThrough channel event token t := by
  constructor
  · rintro ⟨hfault, ⟨direction, answer, hswept, hack⟩, ⟨answer', hcaught, hack'⟩, hcancels⟩
    refine ⟨fun o ho => hfault o (hsub o ho), ⟨direction, answer, ?_, hack⟩,
      ⟨answer', ?_, hack'⟩, fun o ho => hcancels o (hsub o ho)⟩
    · refine (haside _ hswept).resolve_right ?_
      rintro ⟨i, reply, heq, hi⟩
      cases heq
      exact hi direction rfl
    · refine (haside _ hcaught).resolve_right ?_
      rintro ⟨i, reply, heq, hi⟩
      cases heq
  · rintro ⟨hfault, ⟨direction, answer, hswept, hack⟩, ⟨answer', hcaught, hack'⟩, hcancels⟩
    refine ⟨fun o ho => ?_, ⟨direction, answer, hsub _ hswept, hack⟩,
      ⟨answer', hsub _ hcaught, hack'⟩, fun o ho => ?_⟩
    · rcases haside o ho with ho | ⟨i, reply, rfl, hi⟩
      · exact hfault o ho
      · rfl
    · rcases haside o ho with ho | ⟨i, reply, rfl, hi⟩
      · exact hcancels o ho
      · simp [Occurrence.Cancels]

/-- **A sweep ends with true** just where it went through. -/
theorem Sweeps.eq_ok_true_iff {direction : Direction} {event : Event}
    {r : Except ControlError Bool} (h : Sweeps direction channel event token t r) :
    r = .ok true ↔ WentThrough channel event token t := by
  cases h with
  | lost fault =>
    refine iff_of_false (by simp) (not_wentThrough_of_fault List.mem_cons_self ?_)
    simp [Occurrence.fault?]
  | rejected h =>
    refine iff_of_false (by simp) fun hthrough => ?_
    obtain ⟨answer, hmem, -⟩ := hthrough.caught
    simp at hmem
  | @awaited reply h d =>
    rcases d with fault | answer
    · refine iff_of_false (by simp [told, Except.map]) (not_wentThrough_of_fault
        (List.mem_cons_of_mem _ List.mem_cons_self) ?_)
      simp [Occurrence.fault?]
    · constructor
      · intro hr
        refine ⟨by simp [Occurrence.fault?], ⟨direction, reply, List.mem_cons_self, h⟩,
          ⟨answer, by simp, Except.ok.inj hr⟩, by simp [Occurrence.Cancels]⟩
      · intro hthrough
        obtain ⟨answer', hmem, hack⟩ := hthrough.caught
        obtain rfl : answer' = answer := by simpa using hmem
        exact congrArg Except.ok hack
  | stopped h hwait d =>
    refine iff_of_false ?_ fun hthrough =>
      hthrough.uncancelled _ (List.mem_cons_of_mem _ List.mem_cons_self) hwait
    rcases d with fault | reply <;> simp [told, Except.bind]

/-! ## 4. Returns to zero and cleanups -/

/-- What stands around the sweep of a bracket has no part in whether it went through, unless the
link failed on the last. -/
theorem wentThrough_bracket_iff {query panel sweep former forced reset : Reply}
    {flag line line' : String} :
    WentThrough channel .zeroStop token
        (.ordered (.readChannel channel) (.ok query) ::
          (queried channel flag panel sweep former ++ .ordered (.setVar line) (.ok forced) :: t ++
            [.ordered (.setVar line') (.ok reset)])) ↔
      WentThrough channel .zeroStop token t := by
  have haside {i : Instruction ν} (reply : Reply)
      (hi : ∀ direction, i ≠ .startSweep direction channel) :
      Aside channel (.ordered i (.ok reply)) := ⟨i, reply, rfl, hi⟩
  refine wentThrough_iff_of_aside (fun o ho => by simp [ho]) fun o ho => ?_
  simp only [queried, List.mem_append, List.mem_cons, List.not_mem_nil, or_false] at ho
  rcases ho with rfl | ((rfl | rfl | rfl) | rfl | ho) | rfl
  case inr.inl.inr.inr => exact .inl ho
  all_goals
    refine .inr (haside _ fun direction => ?_)
    cases direction <;> simp [Instruction.startSweep]

/-- **A return to zero keeps the zero stop**, and succeeds just where its sweep goes through. -/
theorem ReturnsToZero.inBracket {r : Except ControlError Bool}
    (h : ReturnsToZero tool channel token t r) : ReturnsInBracket tool channel token t r := by
  cases h with
  | unread fault =>
    refine ⟨⟨_, _, rfl⟩, fun heq _ => ?_, fun heq => ?_, ?_⟩
    · exact (List.cons.inj heq).2.symm
    · cases heq
    · refine iff_of_false (by simp) (not_wentThrough_of_fault List.mem_cons_self ?_)
      simp [Occurrence.fault?]
  | @unneeded reply hneeds =>
    refine ⟨⟨_, _, rfl⟩, fun heq _ => ?_, fun heq hneeds' => ?_, ?_⟩
    · exact (List.cons.inj heq).2.symm
    · cases heq
      cases hneeds.symm.trans hneeds'
    · refine iff_of_false (by simp) fun hthrough => ?_
      obtain ⟨answer, hmem, -⟩ := hthrough.caught
      simp at hmem
  | @unforced reply hneeds u error hu =>
    obtain ⟨i, before, fault, hlost, -⟩ := forcing_lost hu
    refine ⟨⟨_, _, rfl⟩, fun heq hidle => ?_, fun heq _ => ?_, ?_⟩
    · cases heq
      cases hneeds.symm.trans (hidle reply rfl)
    · cases heq
      exact brackets_of_lost hu
    · refine iff_of_false (by simp) (not_wentThrough_of_fault
        (o := .ordered i (.error fault)) ?_ ?_)
      · simp [hlost]
      · simp [Occurrence.fault?]
  | @bracketed reply hneeds panel sweep flag hflag former forced swept caught hswept d =>
    refine ⟨⟨_, _, rfl⟩, fun heq hidle => ?_, fun heq _ => ?_, ?_⟩
    · cases heq
      cases hneeds.symm.trans (hidle reply rfl)
    · cases heq
      exact brackets_of_answered hflag hswept d
    · rcases d with fault | reset
      · refine iff_of_false ?_ (not_wentThrough_of_fault
          (o := .ordered (.setVar (flag ++ "=" ++ formerText former)) (.error fault)) ?_ ?_)
        · rcases caught with error | answered <;> simp [told, Except.bind, Except.map]
        · simp
        · simp [Occurrence.fault?]
      · have hcaught : (caught.bind fun answered => (told (.ok reset : Delivery)).map
            fun _ => answered) = caught := by
          rcases caught with error | answered <;> rfl
        rw [hcaught]
        exact hswept.eq_ok_true_iff.trans wentThrough_bracket_iff.symm

/-- **What the surroundings do to a cleanup**: the ramp back, then a return to zero after that, then
the end of the recording. -/
theorem run_restore (s : Surroundings ν) (past : History ν) (e : Engine) (plan : Plan ν)
    (start held : Option ν) :
    ∃ (back : History ν) (d : Delivery),
      (s.run (Engine.restore e plan start held).run past).1 =
        .published .restore :: back ++
          (s.run (zeroReturn e.panelTool plan.channel .cleanup).run
            (past ++ .published .restore :: back)).1 ++
          [.ordered (.setRecording false) d] := by
  have hrestore : (Engine.restore e plan start held).run = .publish .restore
      ((Engine.rampBack e plan.steps start held).run.bind fun ramped =>
        (zeroReturn e.panelTool plan.channel .cleanup).run.bind fun returned =>
          (Client.check .remote (.setRecording false)).run.bind fun stopped =>
            .done (Engine.firstError ramped (returned.map fun _ => ())
              (stopped.map fun _ => ()))) := by
    refine congrArg (Program.publish State.restore) ?_
    refine (Action.run_lift_bind _ _).trans (congrArg _ (funext fun ramped => ?_))
    refine (Action.run_lift_bind _ _).trans (congrArg _ (funext fun returned => ?_))
    exact Action.run_lift_bind _ _
  let back := (s.run (Engine.rampBack e plan.steps start held).run
    (past ++ [.published .restore])).1
  let zero := (s.run (zeroReturn e.panelTool plan.channel .cleanup).run
    (past ++ .published .restore :: back)).1
  obtain ⟨d, hstopped, -⟩ := Client.runs_check.mp (s.run_runs
    (Client.check .remote (.setRecording false)).run (past ++ .published .restore :: back ++ zero))
  refine ⟨back, d, ?_⟩
  rw [hrestore]
  simp only [Surroundings.run, Surroundings.run_bind, List.append_assoc, List.cons_append,
    List.nil_append, List.append_nil] at hstopped ⊢
  rw [hstopped]

/-- **A return to zero gives the zero stop back**, by itself or in a cleanup, whatever the backend
replies, at whichever exchange the link fails and whenever the token fires. -/
theorem returnToZero_gives_back_zeroStop (s : Surroundings ν) (past : History ν) (e : Engine) :
    (∀ channel, ReturnsInBracket e.panelTool channel e.token
      (s.run (Engine.returnToZero e channel).run past).1
      (s.run (Engine.returnToZero e channel).run past).2) ∧
    ∀ (plan : Plan ν) (start held : Option ν), ∃ (back zero : History ν)
      (returned : Except ControlError Bool) (d : Delivery),
      (s.run (Engine.restore e plan start held).run past).1 =
        .published .restore :: back ++ zero ++ [.ordered (.setRecording false) d] ∧
      s.run (zeroReturn e.panelTool plan.channel .cleanup).run
        (past ++ .published .restore :: back) = (zero, returned) ∧
      ReturnsInBracket e.panelTool plan.channel .cleanup zero returned := by
  have hreturns (tool : String) (channel : Nat) (token : Token) (past : History ν) :
      ReturnsInBracket tool channel token (s.run (zeroReturn tool channel token).run past).1
        (s.run (zeroReturn tool channel token).run past).2 :=
    (runs_zeroReturn (s.run_runs _ past)).inBracket
  refine ⟨fun channel => hreturns _ channel _ past, fun plan start held => ?_⟩
  obtain ⟨back, d, hrun⟩ := run_restore s past e plan start held
  exact ⟨back, _, _, d, hrun, rfl, hreturns _ _ _ _⟩

end LabControl.Sweep
