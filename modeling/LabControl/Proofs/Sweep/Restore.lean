/-
# The cleanup of a run

The cleanup ramps the step channel back, returns the swept channel to zero and stops the
recording, each whatever became of the one before.  The return to zero is a cleanup of its own
kind: the zero stop that it forces on gets its former value back however the sweep ended.

`ReturnsToZero` and `Restores` are the histories of the two with their results, and
`runs_zeroReturn` and `runs_restore` show that there are no others.  When nothing fails, the
commands are those of `zeroCommands` and `restoreCommands` for the replies that came.
-/
import LabControl.Proofs.Sweep.Body

namespace LabControl.Sweep

open LabControl.Action (Runs)

variable {ν α : Type} [Quantity ν]

/-! ## 1. The return to zero -/

/-- Whether a channel has to be swept to bring it to zero. -/
def needsSweep (reading : ChannelReading ν) : Bool := reading.known && !isZero reading.value

/-- The panel flag that stops a sweep from a value when it crosses zero, by the replies to the id
queries. -/
def zeroFlag (tool : String) (value : ν) (replies : List Reply) : String :=
  tagOf tool replies ++
    if Scale.lt value (Scale.count 0) then "zerostop_up" else "zerostop_down"

/-- The flag is that of the direction in which the engine sweeps toward zero. -/
theorem zeroFlag_eq (tool : String) (value : ν) (replies : List Reply) :
    zeroFlag tool value replies = tagOf tool replies ++ "zerostop_" ++ (towardZero value).text := by
  rw [zeroFlag, towardZero, String.append_assoc]
  split
  · rfl
  · rfl

/-- What the flag gets back: its former text by the reply to the query of it, and zero where that
text is empty. -/
def formerText (reply : Reply) : String :=
  let previous := reply.variableText
  if previous == "" then "0" else previous

/-- What is sent to force the zero stop on. -/
def forcing (tool : String) (channel : Nat) (value : ν) (replies : List Reply) :
    List (Instruction ν) :=
  idQueries channel ++ [.getVar (zeroFlag tool value replies),
    .setVar (zeroFlag tool value replies ++ "=1")]

/-- **What a return to zero can meet**, and how it ends.  Once the zero stop is forced on, the
last thing that happens is that it gets its former value back. -/
inductive ReturnsToZero (tool : String) (channel : Nat) (token : Token) :
    History ν → Except ControlError Bool → Prop where
  /-- The link failed on the query of the channel. -/
  | unread (fault : Fault) :
    ReturnsToZero tool channel token [.ordered (.readChannel channel) (.error fault)]
      (.error fault.val)
  /-- The value is unknown or zero. -/
  | unneeded {reply : Reply} (h : needsSweep (reply.channelReading : ChannelReading ν) = false) :
    ReturnsToZero tool channel token [.ordered (.readChannel channel) (.ok reply)] (.ok false)
  /-- The link failed before the zero stop was forced on. -/
  | unforced {reply : Reply} (h : needsSweep (reply.channelReading : ChannelReading ν) = true)
      {u : History ν} {error : ControlError}
      (hu : Follows token channel
        (orders (forcing tool channel reply.channelReading.value u.replies)) none u none
        (.error error)) :
    ReturnsToZero tool channel token (.ordered (.readChannel channel) (.ok reply) :: u)
      (.error error)
  /-- The zero stop was forced on, the channel was swept, and the zero stop was reset. -/
  | bracketed {reply : Reply} (h : needsSweep (reply.channelReading : ChannelReading ν) = true)
      {panel sweep : Reply} {flag : String}
      (hflag : flag = zeroFlag tool (reply.channelReading : ChannelReading ν).value [panel, sweep])
      (former forced : Reply) {swept : History ν} {caught : Except ControlError Bool}
      (hswept : Sweeps
        (if Scale.lt (reply.channelReading : ChannelReading ν).value (Scale.count 0) then .up
          else .down)
        channel .zeroStop token swept caught) (d : Delivery) :
    ReturnsToZero tool channel token
      ([.ordered (.readChannel channel) (.ok reply), .ordered .getPanel (.ok panel),
          .ordered (.getSweepId channel) (.ok sweep), .ordered (.getVar flag) (.ok former),
          .ordered (.setVar (flag ++ "=1")) (.ok forced)] ++ swept ++
        [.ordered (.setVar (flag ++ "=" ++ formerText former)) d])
      (caught.bind fun answered => (told d).map fun _ => answered)

/-- A sweep under a forced zero stop, and the reset of the flag. -/
theorem runs_bracket {channel : Nat} {direction : Direction} {token : Token} {line : String}
    {t : History ν} {r : Except ControlError Bool}
    (h : Runs (do
      let swept ← Action.attempt (zeroSweep channel direction token)
      let reset ← Action.attempt (Client.setVar line)
      let answered ← Action.settle swept
      let _ ← Action.settle reset
      pure answered) t r) :
    ∃ (swept : History ν) (caught : Except ControlError Bool) (d : Delivery),
      Sweeps direction channel .zeroStop token swept caught ∧
      t = swept ++ [.ordered (.setVar line) d] ∧
      r = caught.bind fun answered => (told d).map fun _ => answered := by
  obtain ⟨caught, swept, t₂, hs, h₂, rfl⟩ := Action.runs_attempt_bind.mp h
  obtain ⟨reset, t₃, t₄, hr, h₄, rfl⟩ := Action.runs_attempt_bind.mp h₂
  obtain ⟨d, rfl, rfl⟩ := Client.runs_setVar.mp hr
  have hsweeps : Sweeps direction channel .zeroStop token swept caught :=
    runs_sweepAndWait (by rw [← zeroSweep_eq]; exact hs)
  refine ⟨swept, caught, d, hsweeps, ?_⟩
  rcases caught with error | answered
  · obtain ⟨rfl, rfl⟩ := h₄
    exact ⟨by simp, rfl⟩
  · rcases d with fault | reply
    · obtain ⟨rfl, rfl⟩ := h₄
      exact ⟨by simp, rfl⟩
    · obtain ⟨rfl, rfl⟩ := h₄
      exact ⟨by simp, rfl⟩

/-- **A return to zero meets nothing else.** -/
theorem runs_zeroReturn {tool : String} {channel : Nat} {token : Token} {t : History ν}
    {r : Except ControlError Bool} (h : Runs (zeroReturn tool channel token) t r) :
    ReturnsToZero tool channel token t r := by
  rcases Action.runs_bind.mp h with ⟨error, hr, rfl⟩ | ⟨reading, t₁, t₂, hr, h₂, rfl⟩
  · obtain ⟨fault | reply, rfl, he⟩ := Client.runs_readChannel.mp hr
    · cases he
      exact .unread fault
    · cases he
  obtain ⟨fault | reply, rfl, he⟩ := Client.runs_readChannel.mp hr
  · cases he
  cases he
  simp only [Bool.or_eq_true, Bool.not_eq_true'] at h₂
  split at h₂
  · next hidle =>
    obtain ⟨rfl, rfl⟩ := Action.runs_pure.mp h₂
    refine .unneeded ?_
    rcases hidle with hknown | hzero
    · rw [needsSweep, hknown, Bool.false_and]
    · rw [needsSweep, hzero, Bool.not_true, Bool.and_false]
  next hidle =>
  have hneeds : needsSweep (reply.channelReading : ChannelReading ν) = true := by
    simpa [needsSweep, not_or] using hidle
  rcases Action.runs_bind.mp h₂ with ⟨error, hq, rfl⟩ | ⟨tag, t₃, t₄, hq, h₄, rfl⟩
  · refine .unforced hneeds ?_
    rw [forcing, orders, List.map_append]
    exact (runs_sweepPrefix_error hq token channel none).append_error
  obtain ⟨panel, sweep, rfl, rfl⟩ := runs_sweepPrefix_ok hq
  simp only [← zeroFlag_eq] at h₄
  rcases Action.runs_bind.mp h₄ with ⟨error, hg, rfl⟩ | ⟨previous, t₅, t₆, hg, h₆, rfl⟩
  · obtain ⟨fault | answer, rfl, he⟩ := Client.runs_getVar.mp hg
    · cases he
      exact .unforced hneeds (.answered (.answered (.lost fault)))
    · cases he
  obtain ⟨fault | answer, rfl, he⟩ := Client.runs_getVar.mp hg
  · cases he
  cases he
  rcases Action.runs_bind.mp h₆ with ⟨error, hs, rfl⟩ | ⟨_, t₇, t₈, hs, h₈, rfl⟩
  · obtain ⟨fault | assigned, rfl, he⟩ := Client.runs_setVar.mp hs
    · cases he
      exact .unforced hneeds (.answered (.answered (.answered (.lost fault))))
    · cases he
  obtain ⟨fault | assigned, rfl, he⟩ := Client.runs_setVar.mp hs
  · cases he
  obtain ⟨swept, caught, d, hsweeps, rfl, rfl⟩ := runs_bracket h₈
  exact .bracketed hneeds rfl answer assigned hsweeps d

/-- The script of a return to zero from a value, for the replies that come. -/
def zeroScript (tool : String) (channel : Nat) (value : ν) (replies : List Reply) : Script ν :=
  orders (forcing tool channel value replies) ++
    [.sweep (if Scale.lt value (Scale.count 0) then .up else .down) .zeroStop,
      .order (.setVar (zeroFlag tool value replies ++ "=" ++
        formerText (replies.tail.tail.headD {})))]

theorem zeroScript_append {tool : String} {channel : Nat} {value : ν} {replies : List Reply}
    (h : 3 ≤ replies.length) (later : List Reply) :
    zeroScript tool channel value (replies ++ later) = zeroScript tool channel value replies := by
  match replies, h with
  | panel :: sweep :: former :: rest, _ => rfl

/-- What is sent once a channel is read, when nothing fails. -/
def afterReading (tool : String) (channel : Nat) (reading : ChannelReading ν) : Planned ν :=
  fun replies =>
    if needsSweep reading then
      (zeroScript tool channel reading.value replies).commands channel replies
    else []

/-- **The commands of a return to zero** when nothing fails, for the replies that come. -/
def zeroCommands (tool : String) (channel : Nat) : Planned ν
  | [] => [.readChannel channel]
  | reply :: replies =>
    .readChannel channel :: afterReading tool channel reply.channelReading replies

theorem causal_afterReading (tool : String) (channel : Nat) (reading : ChannelReading ν) :
    (afterReading tool channel reading).Causal := by
  intro replies later h
  unfold afterReading at h ⊢
  split at h
  · next hneeds =>
    -- the replies that the script is made for are among those that its commands have
    have hlong : 3 ≤ replies.length := by
      simp only [zeroScript, Script.commands_append, Script.commands_orders, Planned.andThen,
        Planned.fixed, forcing, idQueries, List.length_append, List.length_cons] at h
      omega
    rw [if_pos hneeds, if_pos hneeds, zeroScript_append hlong]
    exact Script.causal_commands channel _ replies later h
  · next hneeds => rw [if_neg hneeds, if_neg hneeds]

theorem causal_zeroCommands (tool : String) (channel : Nat) :
    (zeroCommands tool channel : Planned ν).Causal := by
  intro replies later h
  rcases replies with _ | ⟨reply, replies⟩
  · simp [zeroCommands] at h
  · simp only [zeroCommands, List.length_cons, Nat.add_le_add_iff_right] at h
    simp only [zeroCommands, List.cons_append, causal_afterReading tool channel _ replies later h]

/-- A sweep where nothing fails ends with an answer. -/
theorem Sweeps.ok_of_smooth {direction : Direction} {channel : Nat} {event : Event} {token : Token}
    {t : History ν} {r : Except ControlError Bool} (h : Sweeps direction channel event token t r)
    (ht : t.Smooth) : ∃ caught, r = .ok caught := by
  cases h with
  | lost fault => simp [Occurrence.Smooth, Occurrence.fault?] at ht
  | rejected h => exact ⟨false, rfl⟩
  | awaited h d =>
    rcases d with fault | answer
    · simp [Occurrence.Smooth, Occurrence.fault?] at ht
    · exact ⟨_, rfl⟩
  | stopped h hwait d => rcases hwait with rfl | rfl <;> simp [Occurrence.Smooth] at ht

/-- A return to zero where the sweep ends with an answer follows its script. -/
theorem follows_zeroScript {tool : String} {channel : Nat} {token : Token} {value : ν}
    {swept : History ν} {answered : Bool}
    (hswept : Sweeps (if Scale.lt value (Scale.count 0) then .up else .down) channel .zeroStop token
      swept (.ok answered))
    {panel sweep : Reply} {flag : String} (hflag : flag = zeroFlag tool value [panel, sweep])
    (former forced reset : Reply) (later : List Reply) :
    Follows token channel (zeroScript tool channel value (panel :: sweep :: former :: later)) none
      ([.ordered .getPanel (.ok panel), .ordered (.getSweepId channel) (.ok sweep),
          .ordered (.getVar flag) (.ok former), .ordered (.setVar (flag ++ "=1")) (.ok forced)] ++
        (swept ++ [.ordered (.setVar (flag ++ "=" ++ formerText former)) (.ok reset)]))
      none (.ok ()) := by
  subst hflag
  refine Follows.append ?_ (.swept hswept (.answered (.done none)))
  exact .answered (.answered (.answered (.answered (.done none))))

/-- **A return to zero where nothing fails** ends with an answer, and its commands are the planned
ones. -/
theorem ReturnsToZero.of_smooth {tool : String} {channel : Nat} {token : Token} {t : History ν}
    {r : Except ControlError Bool} (h : ReturnsToZero tool channel token t r) (ht : t.Smooth) :
    (∃ answered, r = .ok answered) ∧ Sends t (zeroCommands tool channel) := by
  cases h with
  | unread fault => simp [Occurrence.Smooth, Occurrence.fault?] at ht
  | @unneeded reply hneeds =>
    refine ⟨⟨false, rfl⟩, ht, ?_⟩
    simp [History.sent_cons, History.replies_cons, Occurrence.sent?, Occurrence.reply?,
      zeroCommands, afterReading, hneeds]
  | unforced hneeds hu =>
    obtain ⟨-, hsmooth⟩ := (History.smooth_cons _ _).mp ht
    obtain ⟨he, -⟩ := hu.cut.of_smooth hsmooth
    cases he
  | @bracketed reply hneeds panel sweep flag hflag former forced swept caught hswept d =>
    obtain ⟨hs, hd⟩ := (History.smooth_append _ _).mp ht
    obtain ⟨answered, rfl⟩ := hswept.ok_of_smooth ((History.smooth_append _ _).mp hs).2
    rcases d with fault | assigned
    · simp [Occurrence.Smooth, Occurrence.fault?] at hd
    · refine ⟨⟨answered, rfl⟩, ?_⟩
      have hfollows := follows_zeroScript hswept hflag former forced assigned
        (forced :: History.replies
          (swept ++ [.ordered (.setVar (flag ++ "=" ++ formerText former)) (.ok assigned)]))
      rw [List.append_assoc] at ht ⊢
      obtain ⟨-, -, hsent⟩ := hfollows.cut.of_smooth ((History.smooth_cons _ _).mp ht).2
      refine ⟨ht, ?_⟩
      refine (congrArg ((Link.remote, Request.instruct (.readChannel channel)) :: ·) hsent).trans ?_
      exact congrArg (fun is => remotely (.readChannel channel :: is)) (if_pos hneeds).symm

/-! ## 2. The cleanup -/

/-- What is written to ramp the step channel back from the value that it holds. -/
def backWrites (e : Engine) (plan : Plan ν) (start held : Option ν) : List (Instruction ν) :=
  match plan.steps.stepChannel?, start, held with
  | some output, some start, some held => rampWrites e output held start
  | _, _, _ => []

theorem performs_rampBack (e : Engine) (plan : Plan ν) (start held : Option ν) :
    Performs .cleanup plan.channel (Engine.rampBack e plan.steps start held)
      (orders (backWrites e plan start held)) := by
  unfold Engine.rampBack backWrites
  rcases plan.steps.stepChannel? with _ | output
  · exact performs_pure ()
  rcases start with _ | start
  · exact performs_pure ()
  rcases held with _ | held
  · exact performs_pure ()
  · exact performs_ramp e output held start

/-- **What the cleanup can meet**, and how it ends: each of its three parts comes, whatever became
of the ones before, and the first error counts. -/
inductive Restores (e : Engine) (plan : Plan ν) (start held : Option ν) :
    History ν → Except ControlError Unit → Prop where
  | intro {back zero : History ν} {ramped : Except ControlError Unit}
      {returned : Except ControlError Bool}
      (hback : Follows .cleanup plan.channel (orders (backWrites e plan start held)) held back held
        ramped)
      (hzero : ReturnsToZero e.panelTool plan.channel .cleanup zero returned) (d : Delivery) :
    Restores e plan start held
      (.published .restore :: back ++ zero ++ [.ordered (.setRecording false) d])
      (ramped.bind fun _ => returned.bind fun _ => (told d).map fun _ => ())

/-- The first error of three results is that of their sequence. -/
theorem firstError_eq_bind {β : Type} (first : Except ControlError Unit)
    (second : Except ControlError α) (third : Except ControlError β) :
    Engine.firstError first (second.map fun _ => ()) (third.map fun _ => ()) =
      first.bind fun _ => second.bind fun _ => third.map fun _ => () := by
  rcases first with error | ⟨⟩
  · rfl
  · rcases second with error | a
    · rfl
    · rfl

/-- What is made of a value does not count where only the error does. -/
theorem map_map_unit {β : Type} (r : Except ControlError α) (f : α → β) :
    (r.map f).map (fun _ => ()) = r.map fun _ => () := by
  cases r with
  | error error => rfl
  | ok a => rfl

/-- **A cleanup meets nothing else.** -/
theorem runs_restore {e : Engine} {plan : Plan ν} {start held : Option ν} {t : History ν}
    {r : Except ControlError Unit} (h : Runs (Engine.restore e plan start held) t r) :
    Restores e plan start held t r := by
  obtain ⟨u, rfl, h₁⟩ := Action.runs_publish_bind.mp h
  obtain ⟨ramped, back, t₂, hb, h₂, rfl⟩ := Action.runs_attempt_bind.mp h₁
  obtain ⟨returned, zero, t₃, hz, h₃, rfl⟩ := Action.runs_attempt_bind.mp h₂
  obtain ⟨stopped, t₄, t₅, hs, h₅, rfl⟩ := Action.runs_attempt_bind.mp h₃
  obtain ⟨d, rfl, rfl⟩ := Client.runs_check.mp hs
  obtain ⟨rfl, rfl⟩ := Action.runs_settle.mp h₅
  have hback := (performs_rampBack e plan start held).follows hb held
  have hintro := Restores.intro hback (runs_zeroReturn hz) d
  rw [map_map_unit, firstError_eq_bind]
  simpa using hintro

/-- **The commands of a cleanup** when nothing fails, for the replies that come. -/
def restoreCommands (e : Engine) (plan : Plan ν) (start held : Option ν) : Planned ν :=
  (Planned.fixed (backWrites e plan start held)).andThen
    ((zeroCommands e.panelTool plan.channel).andThen (.fixed [.setRecording false]))

/-- **A cleanup where nothing fails** ends well, and its commands are the planned ones. -/
theorem Restores.of_smooth {e : Engine} {plan : Plan ν} {start held : Option ν} {t : History ν}
    {r : Except ControlError Unit} (h : Restores e plan start held t r) (ht : t.Smooth) :
    r = .ok () ∧ Sends t (restoreCommands e plan start held) := by
  obtain ⟨hback, hzero, d⟩ := h
  obtain ⟨hsmooth, hd⟩ := (History.smooth_append _ _).mp ht
  obtain ⟨hb, hz⟩ := (History.smooth_append _ _).mp hsmooth
  obtain ⟨rfl, hsends⟩ := hback.cut.of_smooth ((History.smooth_cons _ _).mp hb).2
  obtain ⟨⟨answered, rfl⟩, hsends'⟩ := hzero.of_smooth hz
  rcases d with fault | reply
  · simp [Occurrence.Smooth, Occurrence.fault?] at hd
  · rw [Script.commands_orders] at hsends
    have hrest := hsends'.append (causal_zeroCommands _ _) (sends_ordered hd)
    refine ⟨rfl, ?_⟩
    rw [List.cons_append, List.cons_append, List.append_assoc]
    exact (hsends.append (Planned.causal_fixed _) hrest).announced .restore

end LabControl.Sweep
