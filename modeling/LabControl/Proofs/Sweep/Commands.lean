/-
# Planned commands

What is to be sent is planned by the replies that come: a sweep is waited for if it was
acknowledged, a flag is named after the ids that were read.  A `Planned` is such a plan, a function
from the replies to all commands that they lead to when nothing fails.

`Script.commands` is what a script plans, and `Cut` says how far a history gets with a plan: to its
end, to the first fault, or to the stop that answers a cancelled wait.  A history that follows a
script is cut in one of these ways (`Follows.cut`).
-/
import LabControl.Proofs.Sweep.Script

namespace LabControl.Sweep

variable {ν : Type}

/-! ## 1. Plans of commands -/

/-- The commands that are to be sent, by the replies that come. -/
abbrev Planned (ν : Type) : Type := List Reply → List (Instruction ν)

namespace Planned

/-- Commands that do not depend on replies. -/
def fixed (is : List (Instruction ν)) : Planned ν := fun _ => is

/-- Two plans in sequence.  The second goes by the replies that the first leaves. -/
def andThen (p q : Planned ν) : Planned ν := fun replies =>
  p replies ++ q (replies.drop (p replies).length)

/-- A plan whose commands all have their reply is not changed by later ones. -/
def Causal (p : Planned ν) : Prop :=
  ∀ replies later, (p replies).length ≤ replies.length → p (replies ++ later) = p replies

theorem causal_fixed (is : List (Instruction ν)) : Causal (fixed is) := fun _ _ _ => rfl

theorem Causal.andThen {p q : Planned ν} (hp : Causal p) (hq : Causal q) :
    Causal (p.andThen q) := by
  intro replies later h
  simp only [Planned.andThen, List.length_append] at h ⊢
  have hfirst : (p replies).length ≤ replies.length := by omega
  have hsecond : (q (replies.drop (p replies).length)).length ≤
      (replies.drop (p replies).length).length := by
    rw [List.length_drop]
    omega
  rw [hp replies later hfirst, List.drop_append_of_le_length hfirst, hq _ later hsecond]

end Planned

/-- The history sends all that is planned for its replies, and nothing fails. -/
def Sends (t : History ν) (p : Planned ν) : Prop := t.Smooth ∧ t.sent = remotely (p t.replies)

/-- One planned exchange after another. -/
theorem Sends.append {t u : History ν} {p q : Planned ν} (h : Sends t p) (hp : p.Causal)
    (h' : Sends u q) : Sends (t ++ u) (p.andThen q) := by
  obtain ⟨ht, hsent⟩ := h
  obtain ⟨hu, hsent'⟩ := h'
  have hlength : (p t.replies).length = t.replies.length := by
    rw [ht.length_replies, hsent, remotely, List.length_map]
  refine ⟨(History.smooth_append t u).mpr ⟨ht, hu⟩, ?_⟩
  rw [History.sent_append, History.replies_append, Planned.andThen, hp _ _ (Nat.le_of_eq hlength),
    hlength, List.drop_left, remotely_append, hsent, hsent']

/-- A published state may stand before a planned exchange. -/
theorem Sends.announced {t : History ν} {p : Planned ν} (h : Sends t p) (state : State ν) :
    Sends (.published state :: t) p :=
  ⟨(History.smooth_cons _ t).mpr ⟨rfl, h.1⟩, h.2⟩

/-- An exchange that did not fail sends its instruction. -/
theorem sends_ordered {i : Instruction ν} {d : Delivery}
    (h : History.Smooth [.ordered i d]) : Sends [.ordered i d] (.fixed [i]) :=
  ⟨h, rfl⟩

/-! ## 2. The commands of a script -/

variable [Quantity ν]

/-- **The instructions that a script gives when all goes well**, for the replies that come, in
order.  A sweep that is acknowledged is waited for. -/
def Script.commands (channel : Nat) : Script ν → Planned ν
  | [], _ => []
  | .announce _ :: rest, replies => commands channel rest replies
  | .arrive _ :: rest, replies => commands channel rest replies
  | .order i :: rest, replies => i :: commands channel rest replies.tail
  | .sweep direction event :: rest, replies =>
    let start := match direction with
      | .up => .sweepUp channel
      | .down => .sweepDown channel
    if (replies.headD {}).acknowledges start.command then
      start :: .catchSweep event channel :: commands channel rest replies.tail.tail
    else start :: commands channel rest replies.tail

/-- A sweep begins with the command that the engine starts it with. -/
theorem Script.commands_sweep (channel : Nat) (direction : Direction) (event : Event)
    (rest : Script ν) (replies : List Reply) :
    Script.commands channel (.sweep direction event :: rest) replies =
      if (replies.headD {}).acknowledges
          (Instruction.startSweep direction channel : Instruction ν).command then
        .startSweep direction channel :: .catchSweep event channel ::
          rest.commands channel replies.tail.tail
      else .startSweep direction channel :: rest.commands channel replies.tail := by
  cases direction <;> rfl

theorem Script.commands_sweep_of_acknowledged {channel : Nat} {direction : Direction}
    {event : Event} {reply : Reply}
    (h : reply.acknowledges (Instruction.startSweep direction channel : Instruction ν).command =
      true) (rest : Script ν) (replies : List Reply) :
    Script.commands channel (.sweep direction event :: rest) (reply :: replies) =
      .startSweep direction channel :: .catchSweep event channel ::
        rest.commands channel replies.tail := by
  simp only [Script.commands_sweep, List.headD_cons, h, if_true, List.tail_cons]

theorem Script.commands_sweep_of_rejected {channel : Nat} {direction : Direction} {event : Event}
    {reply : Reply}
    (h : reply.acknowledges (Instruction.startSweep direction channel : Instruction ν).command =
      false) (rest : Script ν) (replies : List Reply) :
    Script.commands channel (.sweep direction event :: rest) (reply :: replies) =
      .startSweep direction channel :: rest.commands channel replies := by
  simp only [Script.commands_sweep, List.headD_cons, h, Bool.false_eq_true, if_false,
    List.tail_cons]

/-- A sweep begins with its command, also when nothing has come back for it. -/
theorem Script.commands_sweep_eq_cons (channel : Nat) (direction : Direction) (event : Event)
    (rest : Script ν) (replies : List Reply) :
    ∃ later, Script.commands channel (.sweep direction event :: rest) replies =
      .startSweep direction channel :: later := by
  rw [Script.commands_sweep]
  split
  · exact ⟨_, rfl⟩
  · exact ⟨_, rfl⟩

/-- One script after another: the second takes the replies that the first leaves. -/
theorem Script.commands_append (channel : Nat) (s s' : Script ν) :
    Script.commands channel (s ++ s') = (s.commands channel).andThen (s'.commands channel) := by
  funext replies
  induction s generalizing replies with
  | nil => rfl
  | cons step rest ih =>
    cases step with
    | announce state => exact ih replies
    | arrive value => exact ih replies
    | order i =>
      simp only [List.cons_append, commands, ih, Planned.andThen, List.length_cons,
        ← List.drop_tail]
    | sweep direction event =>
      simp only [List.cons_append, commands_sweep, ih, Planned.andThen]
      split
      · simp only [List.cons_append, List.length_cons, ← List.drop_tail]
      · simp only [List.cons_append, List.length_cons, ← List.drop_tail]

/-- Orders are given whatever the replies are. -/
theorem Script.commands_orders (channel : Nat) (is : List (Instruction ν)) :
    Script.commands channel (orders is) = .fixed is := by
  funext replies
  induction is generalizing replies with
  | nil => rfl
  | cons i is ih => exact congrArg (i :: ·) (ih replies.tail)

/-- A command of a script is one of its orders, or belongs to one of its sweeps. -/
theorem Script.mem_commands {channel : Nat} {s : Script ν} {replies : List Reply}
    {i : Instruction ν} (h : i ∈ s.commands channel replies) :
    .order i ∈ s ∨ ∃ direction event, .sweep direction event ∈ s ∧
      (i = .startSweep direction channel ∨ i = .catchSweep event channel) := by
  induction s generalizing replies with
  | nil => cases h
  | cons step rest ih =>
    cases step with
    | announce state => simpa using ih h
    | arrive value => simpa using ih h
    | order j =>
      rcases List.mem_cons.mp h with rfl | h
      · exact .inl List.mem_cons_self
      · rcases ih h with hi | ⟨direction, event, hs, hi⟩
        · exact .inl (List.mem_cons_of_mem _ hi)
        · exact .inr ⟨direction, event, List.mem_cons_of_mem _ hs, hi⟩
    | sweep d ev =>
      have hcases : i = .startSweep d channel ∨ i = .catchSweep ev channel ∨
          ∃ later, i ∈ Script.commands channel rest later := by
        rw [commands_sweep] at h
        split at h
        · rcases List.mem_cons.mp h with hi | h
          · exact .inl hi
          · rcases List.mem_cons.mp h with hi | h
            · exact .inr (.inl hi)
            · exact .inr (.inr ⟨_, h⟩)
        · rcases List.mem_cons.mp h with hi | h
          · exact .inl hi
          · exact .inr (.inr ⟨_, h⟩)
      rcases hcases with hi | hi | ⟨later, hlater⟩
      · exact .inr ⟨d, ev, List.mem_cons_self, .inl hi⟩
      · exact .inr ⟨d, ev, List.mem_cons_self, .inr hi⟩
      · rcases ih hlater with hi | ⟨direction, event, hs, hi⟩
        · exact .inl (List.mem_cons_of_mem _ hi)
        · exact .inr ⟨direction, event, List.mem_cons_of_mem _ hs, hi⟩

theorem Script.causal_commands (channel : Nat) (s : Script ν) :
    Planned.Causal (s.commands channel) := by
  intro replies later h
  induction s generalizing replies with
  | nil => rfl
  | cons step rest ih =>
    cases step with
    | announce state => exact ih replies h
    | arrive value => exact ih replies h
    | order i =>
      rcases replies with _ | ⟨reply, replies⟩
      · simp [commands] at h
      · simp only [commands, List.tail_cons, List.cons_append, List.length_cons,
          Nat.add_le_add_iff_right] at h ⊢
        rw [ih replies h]
    | sweep direction event =>
      rcases replies with _ | ⟨reply, replies⟩
      · obtain ⟨later', hlater⟩ := commands_sweep_eq_cons channel direction event rest []
        simp [hlater] at h
      rw [List.cons_append]
      rcases hack : reply.acknowledges
        (Instruction.startSweep direction channel : Instruction ν).command
      · rw [commands_sweep_of_rejected hack] at h ⊢
        rw [commands_sweep_of_rejected hack, ih replies (by simpa using h)]
      · rw [commands_sweep_of_acknowledged hack] at h ⊢
        rcases replies with _ | ⟨answer, replies⟩
        · simp at h
        · rw [commands_sweep_of_acknowledged hack, List.cons_append, List.tail_cons,
            List.tail_cons, ih replies (by simpa using h)]

/-! ## 3. How far a plan gets -/

/-- **How a planned exchange of commands ends**, for commands that are planned by the replies:
complete, at its first fault, or at the stop that answers a cancelled wait. -/
inductive Cut (token : Token) (channel : Nat) (planned : Planned ν) (t : History ν) :
    Except ControlError Unit → Prop where
  /-- Everything planned was sent, and nothing failed. -/
  | complete (smooth : t.Smooth) (hsent : t.sent = remotely (planned t.replies)) :
    Cut token channel planned t (.ok ())
  /-- The last exchange failed, and nothing before it did. -/
  | faulted (before : History ν) (last : Occurrence ν) {fault : Fault} (ht : t = before ++ [last])
      (smooth : before.Smooth) (hlast : last.fault? = some fault)
      (hsent : t.sent <+: remotely (planned t.replies)) :
    Cut token channel planned t (.error fault.val)
  /-- A wait was cancelled, and the stop that answers it is the last exchange. -/
  | stopped (before : History ν) (wait : Occurrence ν) {i : Instruction ν} {d : Delivery}
      (ht : t = before ++ [wait, .ordered (.sweepStop channel) d]) (smooth : before.Smooth)
      (hwait : wait.Cancels token i) (hi : i.isWait = true)
      (hsent : before.sent ++ remotely [i] <+: remotely (planned t.replies)) :
    Cut token channel planned t ((told d).bind fun _ => .error (.cancelled i.name))

/-- A smooth occurrence may stand before a planned exchange, if the plan has its command and takes
its reply. -/
theorem Cut.cons {token : Token} {channel : Nat} {planned planned' : Planned ν}
    {o : Occurrence ν} {t : History ν} {r : Except ControlError Unit}
    (ho : o.Smooth)
    (hplan : ∀ replies, remotely (planned' (o.reply?.toList ++ replies)) =
      o.sent?.toList ++ remotely (planned replies))
    (h : Cut token channel planned t r) : Cut token channel planned' (o :: t) r := by
  cases h with
  | complete smooth hsent =>
    refine .complete ((History.smooth_cons o t).mpr ⟨ho, smooth⟩) ?_
    rw [History.sent_cons, History.replies_cons, hplan, hsent]
  | faulted before last ht smooth hlast hsent =>
    refine .faulted (o :: before) last (by rw [ht]; rfl)
      ((History.smooth_cons o before).mpr ⟨ho, smooth⟩) hlast ?_
    rw [History.sent_cons, History.replies_cons, hplan]
    exact (List.prefix_append_right_inj _).mpr hsent
  | stopped before wait ht smooth hwait hi hsent =>
    refine .stopped (o :: before) wait (by rw [ht]; rfl)
      ((History.smooth_cons o before).mpr ⟨ho, smooth⟩) hwait hi ?_
    rw [History.sent_cons, History.replies_cons, hplan, List.append_assoc]
    exact (List.prefix_append_right_inj _).mpr hsent

/-- Only what is planned for the replies that came counts. -/
theorem Cut.congr {token : Token} {channel : Nat} {planned planned' : Planned ν} {t : History ν}
    {r : Except ControlError Unit} (h : Cut token channel planned t r)
    (hplan : planned t.replies = planned' t.replies) : Cut token channel planned' t r := by
  cases h with
  | complete smooth hsent => exact .complete smooth (hplan ▸ hsent)
  | faulted before last ht smooth hlast hsent =>
    exact .faulted before last ht smooth hlast (hplan ▸ hsent)
  | stopped before wait ht smooth hwait hi hsent =>
    exact .stopped before wait ht smooth hwait hi (hplan ▸ hsent)

/-- Where nothing fails, a planned exchange is complete. -/
theorem Cut.of_smooth {token : Token} {channel : Nat} {planned : Planned ν}
    {t : History ν} {r : Except ControlError Unit} (h : Cut token channel planned t r)
    (ht : t.Smooth) : r = .ok () ∧ Sends t planned := by
  cases h with
  | complete smooth hsent => exact ⟨rfl, smooth, hsent⟩
  | faulted before last hlist smooth hlast hsent =>
    have hsmooth : last.Smooth := ht last (by simp [hlist])
    rw [hsmooth.fault?_eq_none] at hlast
    cases hlast
  | stopped before wait hlist smooth hwait hi hsent =>
    have hsmooth : wait.Smooth := ht wait (by simp [hlist])
    rcases hwait with rfl | rfl
    · exact hsmooth.elim
    · exact hsmooth.elim

/-- **A history that follows a script sends its commands**, in order and no others, up to where it
is cut. -/
theorem Follows.cut {token : Token} {channel : Nat} {s : Script ν} {held held' : Option ν}
    {t : History ν} {r : Except ControlError Unit} (h : Follows token channel s held t held' r) :
    Cut token channel (s.commands channel) t r := by
  induction h with
  | done held => exact .complete History.smooth_nil rfl
  | announce h ih => exact ih.cons rfl fun _ => rfl
  | arrive h ih => exact ih
  | answered h ih => exact ih.cons rfl fun _ => rfl
  | @lost i rest held fault =>
    refine .faulted [] _ rfl History.smooth_nil rfl ?_
    exact List.prefix_append [_] _
  | @swept direction event rest held held' s t caught r hs h ih =>
    generalize hc : (Except.ok caught : Except ControlError Bool) = c at hs
    cases hs with
    | lost fault => cases hc
    | rejected hack =>
      exact ih.cons rfl fun replies =>
        congrArg remotely (Script.commands_sweep_of_rejected hack rest replies)
    | awaited hack d =>
      rcases d with fault | answer
      · cases hc
      · have hwait : Cut token channel
            (fun replies => .catchSweep event channel ::
              rest.commands channel replies.tail)
            (.awaited token (.catchSweep event channel) (.ok answer) :: t) r :=
          ih.cons rfl fun _ => rfl
        refine Cut.cons rfl (fun replies => ?_) hwait
        exact congrArg remotely (Script.commands_sweep_of_acknowledged hack rest replies)
    | stopped hack hwait d =>
      rcases d with fault | reply
      · cases hc
      · cases hc
  | @broken direction event rest held s e hs =>
    generalize hc : (Except.error e : Except ControlError Bool) = c at hs
    cases hs with
    | lost fault =>
      cases hc
      obtain ⟨later, hlater⟩ := Script.commands_sweep_eq_cons channel direction event rest []
      refine .faulted [] _ rfl History.smooth_nil rfl ?_
      change _ <+: remotely (Script.commands channel (.sweep direction event :: rest) [])
      rw [hlater]
      exact List.prefix_append [_] _
    | rejected hack => cases hc
    | @awaited reply hack d =>
      rcases d with fault | answer
      · cases hc
        refine .faulted [.ordered (.startSweep direction channel) (.ok reply)] _ rfl ?_ rfl ?_
        · exact (History.smooth_cons _ _).mpr ⟨rfl, History.smooth_nil⟩
        · change _ <+: remotely (Script.commands channel (.sweep direction event :: rest) [reply])
          rw [Script.commands_sweep_of_acknowledged hack]
          exact List.prefix_append [_, _] _
      · cases hc
    | @stopped reply hack wait hwait d =>
      have hcut : Cut token channel (Script.commands channel (.sweep direction event :: rest))
          [.ordered (.startSweep direction channel) (.ok reply), wait,
            .ordered (.sweepStop channel) d]
          ((told d).bind fun _ => .error (.cancelled (Instruction.name
            (.catchSweep event channel : Instruction ν)))) := by
        refine .stopped [.ordered (.startSweep direction channel) (.ok reply)] wait rfl ?_ hwait
          rfl ?_
        · exact (History.smooth_cons _ _).mpr ⟨rfl, History.smooth_nil⟩
        · rw [History.replies_cons]
          change _ <+: remotely
            (Script.commands channel (.sweep direction event :: rest) (reply :: History.replies _))
          rw [Script.commands_sweep_of_acknowledged hack]
          exact List.prefix_append [_, _] _
      rcases d with fault | reply
      · cases hc
        exact hcut
      · cases hc
        exact hcut

end LabControl.Sweep
