/-
# Replies cannot break the framing

Nothing is escaped in the control language, so a semicolon in an argument would begin a field of
its own.  An engine puts into its commands what a backend has replied: the ids of the panel and of
the sweep in the names of variables, and the former text of a flag in the line that assigns it
again.  The ids are numbers, and a text that is read off a reply has been cut at every semicolon
(`inert_decodeArg`).  So whatever a backend replies, each command that an engine sends is read
back as it was built, with the name and the keys of its kind (`framed_whatever_comes`), unless the
panel tool or the file name has a semicolon to begin with.

`Framed` is this property of one request.  Every part of an engine keeps to it, by one lemma for
each definition.
-/
import LabControl.Proofs.Contract
import LabControl.Proofs.Instruction
import LabControl.Proofs.Sweep.Waits
import LabControl.Sweep.Estimate
import LabControl.Sweep.Routines

namespace LabControl

variable {α : Type}

/-! ## 1. Texts that stay inside a field -/

/-- **A text that ends no field**: it holds no semicolon. -/
def Inert (text : String) : Prop := fieldSeparator ∉ text.toList

instance (text : String) : Decidable (Inert text) := inferInstanceAs (Decidable (_ ∉ _))

theorem Inert.append {first second : String} (h : Inert first) (h' : Inert second) :
    Inert (first ++ second) := by
  rw [Inert, String.toList_append, List.mem_append, not_or]
  exact ⟨h, h'⟩

theorem inert_intText (n : Int) : Inert (Decimal.intText n) := not_mem_intText n

/-- **What is read off a text ends no field**, whatever the text is. -/
theorem inert_decodeArg (text : String) (index : Nat) : Inert (decodeArg text index) := by
  unfold decodeArg
  split
  · next key value hcut =>
    obtain ⟨piece, hpiece, hsplit⟩ := Option.bind_eq_some_iff.mp hcut
    have hnone := not_mem_fieldPiece? hpiece
    obtain rfl := Text.eq_of_splitFirst_eq_some hsplit
    rw [Inert, String.toList_ofList]
    exact fun hmem => hnone (List.mem_append_right _ (List.mem_cons_of_mem _ hmem))
  · decide

theorem Reply.inert_variableText (r : Reply) : Inert r.variableText := by
  unfold variableText
  split
  · exact inert_decodeArg r.text 1
  · decide

theorem Client.inert_panelPrefix {tool : String} (h : Inert tool) (panel id : Int) :
    Inert (panelPrefix panel tool id) := by
  have hpanel : Inert "panel" := by decide
  have hbar : Inert "_" := by decide
  exact ((((hpanel.append (inert_intText panel)).append hbar).append h).append
    (inert_intText id)).append hbar

/-! ## 2. Framed requests -/

/-- The name of a command, and the keys of its fields in order. -/
def Command.frame (c : Command) : String × List String := (c.name, c.fields.map Prod.fst)

/-- **The frame of each kind of instruction that an engine gives.**  It depends on the arguments
only by the event that is waited for. -/
def Instruction.engineFrame? {ν : Type} : Instruction ν → Option (String × List String)
  | setRecording _ => some ("set_recording", ["on"])
  | setDac .. => some ("set_dac", ["channel", "target"])
  | sweepStop _ => some ("sweep_stop", ["channel"])
  | sweepDown _ => some ("sweep_down", ["channel"])
  | sweepUp _ => some ("sweep_up", ["channel"])
  | zeroTime => some ("tzero", [])
  | saveData _ => some ("save", ["filename"])
  | getTime => some ("get_time", [])
  | readChannel _ => some ("read_channel", ["channel"])
  | getPanel => some ("get_panel", [])
  | setVar _ => some ("set_var", ["line"])
  | getVar _ => some ("get_var", ["line"])
  | getSweepId _ => some ("get_sweep_id", ["channel"])
  | linkSweeps .. => some ("sweep_link_setup", ["channel", "channel"])
  | clearBuffer .. => some ("clear_buffer", ["confirm", "tzero"])
  | catchSweep event _ => some ("catch_sweep_" ++ event.text, ["channel"])
  | _ => none

/-- The frame is that of the command. -/
theorem Instruction.frame_command {ν : Type} [Quantity ν] {i : Instruction ν}
    {frame : String × List String} (h : i.engineFrame? = some frame) :
    i.command.frame = frame := by
  cases i <;> cases h <;> rfl

/-- **A request that keeps its frame**: it is an instruction whose text is read back as the command
that carries it, and written again as it was, and the command has the frame of its kind. -/
def Framed (q : Request Float) : Prop :=
  ∃ i : Instruction Float, q = .instruct i ∧ Command.parse q.text = i.command ∧
    (Command.parse q.text).text = q.text ∧
    i.engineFrame? = some (Command.parse q.text).frame

/-- An instruction of an engine keeps its frame, if the texts among its arguments end no field. -/
theorem framed_instruct {i : Instruction Float} (hframe : i.engineFrame?.isSome = true)
    (htexts : ∀ text ∈ i.texts, Inert text) : Framed (.instruct i) := by
  obtain ⟨frame, hi⟩ := Option.isSome_iff_exists.mp hframe
  have hparse : Command.parse i.text = i.command := (i.wellFormed_command htexts).parse_text
  refine ⟨i, rfl, hparse, congrArg Command.text hparse, ?_⟩
  rw [Request.text, hparse, Instruction.frame_command hi, hi]

/-- An instruction without texts keeps its frame. -/
theorem framed_plain {i : Instruction Float} (hframe : i.engineFrame?.isSome = true)
    (htexts : i.texts = []) : Framed (.instruct i) :=
  framed_instruct hframe fun text h => by
    rw [htexts] at h
    cases h

/-- An instruction with one text keeps its frame, if the text ends no field. -/
theorem framed_of_text {i : Instruction Float} {text : String}
    (hframe : i.engineFrame?.isSome = true) (htexts : i.texts = [text]) (h : Inert text) :
    Framed (.instruct i) :=
  framed_instruct hframe fun text' hmem => by
    rw [htexts] at hmem
    obtain rfl := List.mem_singleton.mp hmem
    exact h

theorem framed_startSweep (direction : Sweep.Direction) (channel : Nat) :
    Framed (.instruct (.startSweep direction channel)) := by
  cases direction
  · exact framed_plain rfl rfl
  · exact framed_plain rfl rfl

namespace Sweep

open LabControl.Action

/-- Every request that an action can send keeps its frame. -/
abbrev KeepsFrames (x : Action Float α) : Prop := Keeps Framed (fun _ => True) x

/-! ## 3. Calls, and the names of panel variables -/

/-- A call whose instruction has no text in it. -/
theorem keepsFrames_check {link : Link} {i : Instruction Float}
    (hframe : i.engineFrame?.isSome = true) (htexts : i.texts = []) :
    KeepsFrames (Client.check link i) := Client.keeps_check (framed_plain hframe htexts)

/-- The beginning of the variable names ends no field, whatever the ids are. -/
theorem keeps_sweepPrefix {tool : String} (h : Inert tool) (channel : Nat) :
    Keeps Framed Inert (Client.sweepPrefix tool channel) := by
  refine (Client.keeps_ask (framed_plain rfl rfl)).bind fun panel _ => ?_
  refine (Client.keeps_ask (framed_plain rfl rfl)).bind fun sweep _ => ?_
  exact keeps_pure (Client.inert_panelPrefix h _ _)

/-- The text of a variable ends no field, whatever the reply is. -/
theorem keeps_getVar {name : String} (h : Inert name) :
    Keeps Framed Inert (Client.getVar name : Action Float String) :=
  Client.keeps_ask_map (framed_of_text rfl rfl h) Reply.inert_variableText

theorem keepsFrames_setVar {line : String} (h : Inert line) :
    KeepsFrames (Client.setVar line) :=
  Client.keeps_ask_map (framed_of_text rfl rfl h) fun _ => trivial

theorem keepsFrames_clearBuffer (confirm resetTime : Bool) :
    KeepsFrames (Client.clearBuffer confirm resetTime) := Client.keeps_ask (framed_plain rfl rfl)

theorem keepsFrames_readChannel (channel : Nat) :
    KeepsFrames (Client.readChannel channel) :=
  Client.keeps_ask_map (framed_plain rfl rfl) fun _ => trivial

/-- What a flag gets back ends no field. -/
theorem inert_restored {previous : String} (h : Inert previous) :
    Inert (if previous == "" then "0" else previous) := by
  split
  · decide
  · exact h

/-! ## 4. Waiting, and the return to zero -/

theorem keepsFrames_awaitEvent (event : Event) (channel : Nat) (token : Token) :
    KeepsFrames (awaitEvent event channel token) := by
  refine (Client.keeps_wait (framed_plain rfl rfl)).attempt.bind fun r _ => ?_
  split
  · exact (keepsFrames_check rfl rfl).bind fun _ _ => keeps_throw
  · exact keeps_throw
  · exact keeps_pure trivial

theorem keepsFrames_zeroSweep (channel : Nat) (direction : Direction) (token : Token) :
    KeepsFrames (zeroSweep channel direction token) := by
  refine (Client.keeps_check (framed_startSweep direction channel)).bind fun started _ => ?_
  split
  · exact keepsFrames_awaitEvent .zeroStop channel token
  · exact keeps_pure trivial

/-- **A return to zero keeps to its frames**: the text that the flag had is assigned again in one
value. -/
theorem keepsFrames_zeroReturn {tool : String} (h : Inert tool) (channel : Nat) (token : Token) :
    KeepsFrames (zeroReturn tool channel token) := by
  refine (keepsFrames_readChannel channel).bind fun reading _ => ?_
  split
  · exact keeps_pure trivial
  refine (keeps_sweepPrefix h channel).bind fun tag htag => ?_
  have hflag : Inert (tag ++ "zerostop_" ++ (towardZero reading.value).text) := by
    refine (htag.append (by decide)).append ?_
    cases towardZero reading.value <;> decide
  refine (keeps_getVar hflag).bind fun previous hprevious => ?_
  refine (keepsFrames_setVar (hflag.append (by decide))).bind fun _ _ => ?_
  refine (keepsFrames_zeroSweep channel _ token).attempt.bind fun swept _ => ?_
  have hreset := (hflag.append (by decide : Inert "=")).append (inert_restored hprevious)
  refine (keepsFrames_setVar hreset).attempt.bind fun reset _ => ?_
  refine (keeps_settle fun _ _ => trivial).bind fun answered _ => ?_
  exact (keeps_settle fun _ _ => trivial).bind fun _ _ => keeps_pure trivial

namespace Engine

variable (e : Engine)

/-! ## 5. The parts of a run -/

theorem keepsFrames_writeAll (channel : Nat) (values : List Float) :
    KeepsFrames (writeAll channel values) := by
  induction values with
  | nil => exact keeps_pure trivial
  | cons value rest ih =>
    exact (keepsFrames_check rfl rfl).bind fun _ _ => ih

theorem keepsFrames_assignAll {tag : String} (htag : Inert tag) {lines : List String}
    (hlines : ∀ line ∈ lines, Inert line) : KeepsFrames (assignAll tag lines) := by
  induction lines with
  | nil => exact keeps_pure trivial
  | cons line rest ih =>
    obtain ⟨hline, hrest⟩ := List.forall_mem_cons.mp hlines
    exact (keepsFrames_setVar (htag.append hline)).bind fun _ _ => ih hrest

theorem keepsFrames_prepare (h : Inert e.panelTool) (channel : Nat) :
    KeepsFrames (prepare e channel) := by
  refine keeps_publish.bind fun _ _ => ?_
  refine (keeps_sweepPrefix h channel).bind fun tag htag => ?_
  refine (keepsFrames_assignAll htag (by decide)).bind fun _ _ => ?_
  refine (keepsFrames_clearBuffer true false).bind fun _ _ => ?_
  exact (keepsFrames_check rfl rfl).bind fun _ _ => keeps_pure trivial

theorem keepsFrames_leg (channel : Nat) (direction : Direction) (index : Nat) :
    KeepsFrames (leg e channel direction index) := by
  refine keeps_publish.bind fun _ _ => ?_
  refine (Client.keeps_check (framed_startSweep direction channel)).bind fun started _ => ?_
  split
  · exact (keepsFrames_awaitEvent _ channel e.token).bind fun _ _ => keeps_pure trivial
  · exact keeps_pure trivial

theorem keepsFrames_pair {plan : Plan Float} (h : Inert plan.filename) (index : Nat) :
    KeepsFrames (pair e plan index) := by
  refine (keepsFrames_leg e plan.channel plan.firstLeg index).bind fun _ _ => ?_
  refine (keepsFrames_clearBuffer false false).bind fun _ _ => ?_
  refine (keepsFrames_leg e plan.channel plan.firstLeg.opposite index).bind fun _ _ => ?_
  refine keeps_publish.bind fun _ _ => ?_
  refine (Client.keeps_check (framed_of_text rfl rfl h)).bind fun _ _ => ?_
  exact (keepsFrames_clearBuffer false false).bind fun _ _ => keeps_pure trivial

theorem keepsFrames_moveStep (steps : Schedule Float) (index total : Nat)
    (held target : Option Float) : KeepsFrames (moveStep e steps index total held target) := by
  unfold moveStep
  split
  · refine keeps_publish.bind fun _ _ => ?_
    exact (keepsFrames_writeAll _ _).bind fun _ _ => keeps_pure trivial
  · exact keeps_pure trivial

theorem keepsFrames_pairs {plan : Plan Float} (h : Inert plan.filename) (total : Nat)
    (iterations : List (Option Float)) (index : Nat) (held : Option Float) :
    Program.Keeps Framed (fun _ => True) (pairs e plan total index iterations held) := by
  induction iterations generalizing index held with
  | nil => exact Program.keeps_done trivial
  | cons target rest ih =>
    refine Program.Keeps.bind (keepsFrames_moveStep e plan.steps index total held target)
      fun moved _ => ?_
    split
    · exact Program.keeps_done trivial
    refine Program.Keeps.bind (keepsFrames_pair e h index) fun paired _ => ?_
    split
    · exact Program.keeps_done trivial
    · exact ih (index + 1) _

theorem keepsFrames_body (htool : Inert e.panelTool) {plan : Plan Float}
    (hfile : Inert plan.filename) (held : Option Float) :
    Program.Keeps Framed (fun _ => True) (body e plan held) := by
  refine Program.Keeps.bind (keepsFrames_prepare e htool plan.channel) fun prepared _ => ?_
  split
  · exact Program.keeps_done trivial
  · exact (keepsFrames_pairs e hfile _ _ 0 held).bind fun _ _ => Program.keeps_done trivial

theorem keepsFrames_rampBack (steps : Schedule Float) (start held : Option Float) :
    KeepsFrames (rampBack e steps start held) := by
  unfold rampBack
  split
  · exact keepsFrames_writeAll _ _
  · exact keeps_pure trivial

theorem keepsFrames_restore (h : Inert e.panelTool) (plan : Plan Float)
    (start held : Option Float) : KeepsFrames (restore e plan start held) := by
  refine keeps_publish.bind fun _ _ => ?_
  refine (keepsFrames_rampBack e plan.steps start held).attempt.bind fun ramped _ => ?_
  refine (keepsFrames_zeroReturn h plan.channel .cleanup).attempt.bind fun returned _ => ?_
  refine (keepsFrames_check rfl rfl).attempt.bind fun stopped _ => ?_
  exact keeps_settle fun _ _ => trivial

theorem keepsFrames_conclude (body : Except ControlError Nat) (cleanup : Except ControlError Unit) :
    KeepsFrames (conclude body cleanup) := by
  unfold conclude
  split
  · exact keeps_publish.bind fun _ _ => keeps_pure trivial
  · exact keeps_publish.bind fun _ _ => keeps_throw
  · exact keeps_publish.bind fun _ _ => keeps_throw

theorem keepsFrames_sweepAll (htool : Inert e.panelTool) {plan : Plan Float}
    (hfile : Inert plan.filename) (start : Option Float) :
    KeepsFrames (sweepAll e plan start) := by
  refine (keeps_lift (keepsFrames_body e htool hfile start)).bind fun ended _ => ?_
  refine (keepsFrames_restore e htool plan start ended.1).attempt.bind fun cleanup _ => ?_
  exact keepsFrames_conclude ended.2 cleanup

/-- **A run of a plan keeps to its frames.** -/
theorem keepsFrames_autosweep (htool : Inert e.panelTool) {plan : Plan Float}
    (hfile : Inert plan.filename) : KeepsFrames (autosweep e plan) := by
  have hrefuse (role : String) (channel : Nat) :
      KeepsFrames (refuse role channel) := keeps_publish.bind fun _ _ => keeps_pure trivial
  refine keeps_fired.bind fun fired _ => ?_
  split
  · exact keeps_publish.bind fun _ _ => keeps_throw
  refine keeps_publish.bind fun _ _ => ?_
  refine (keepsFrames_readChannel plan.channel).bind fun swept _ => ?_
  split
  · exact hrefuse "sweep" plan.channel
  split
  · exact keepsFrames_sweepAll e htool hfile none
  refine (keepsFrames_readChannel _).bind fun stepped _ => ?_
  split
  · exact hrefuse "step" _
  · exact keepsFrames_sweepAll e htool hfile _

/-! ## 6. The other operations -/

theorem keepsFrames_linkedSweep (first second : Nat) :
    KeepsFrames (linkedSweep e first second) := by
  -- both channels are set to where they begin, and linked
  refine (keepsFrames_check rfl rfl).bind fun _ _ => ?_
  refine (keepsFrames_check rfl rfl).bind fun _ _ => ?_
  refine (keepsFrames_check rfl rfl).bind fun _ _ => ?_
  -- the recording begins
  refine (keepsFrames_clearBuffer false false).bind fun _ _ => ?_
  refine (keepsFrames_check rfl rfl).bind fun _ _ => ?_
  refine (keepsFrames_check rfl rfl).bind fun _ _ => keeps_sleep.bind fun _ _ => ?_
  -- the two sweeps
  refine (keepsFrames_check rfl rfl).bind fun _ _ => keeps_sleep.bind fun _ _ => ?_
  refine (keepsFrames_check rfl rfl).bind fun _ _ => ?_
  refine (keepsFrames_awaitEvent .zeroStop first e.token).bind fun caught _ => ?_
  exact keeps_sleep.bind fun _ _ => keeps_pure trivial

theorem keepsFrames_sweepLinkage (first second : Nat) :
    KeepsFrames (sweepLinkage e first second) := by
  refine (keepsFrames_linkedSweep e first second).attempt.bind fun linked _ => ?_
  refine (keepsFrames_check rfl rfl).attempt.bind fun stopped _ => ?_
  refine (keeps_settle fun _ _ => trivial).bind fun caught _ => ?_
  exact (keeps_settle fun _ _ => trivial).bind fun _ _ => keeps_pure trivial

theorem keepsFrames_readNumbers {tag : String} (htag : Inert tag) {names : List String}
    (hnames : ∀ name ∈ names, Inert name) :
    KeepsFrames (readNumbers tag names) := by
  induction names with
  | nil => exact keeps_pure trivial
  | cons name rest ih =>
    obtain ⟨hname, hrest⟩ := List.forall_mem_cons.mp hnames
    refine (keeps_getVar (htag.append hname)).bind fun text _ => ?_
    split
    · exact keeps_pure trivial
    · exact (ih hrest).bind fun _ _ => keeps_pure trivial

theorem keepsFrames_sweepTiming (h : Inert e.panelTool) (channel : Nat) :
    KeepsFrames (sweepTiming e channel) := by
  refine (keeps_sweepPrefix h channel).bind fun tag htag => ?_
  exact (keepsFrames_readNumbers htag (by decide)).bind fun _ _ => keeps_pure trivial

theorem keepsFrames_benchmark (channel n : Nat) : KeepsFrames (benchmark channel n) := by
  have htime : KeepsFrames Client.getTime :=
    Client.keeps_ask_map (framed_plain rfl rfl) fun _ => trivial
  have hvalue : KeepsFrames (Client.channelValue channel) :=
    (keepsFrames_readChannel channel).bind fun _ _ => keeps_pure trivial
  refine htime.bind fun before _ => hvalue.bind fun center _ => ?_
  refine (keepsFrames_writeAll channel _).bind fun _ _ => ?_
  exact htime.bind fun _ _ => keeps_pure trivial

end Engine

/-! ## 7. The former text of a flag -/

section

variable {ν : Type} [Quantity ν] {token : Token} {channel : Nat}

/-- A sweep that is waited for exchanges nothing with a text in it. -/
theorem Sweeps.not_mem_of_texts {direction : Direction} {event : Event} {t : History ν}
    {r : Except ControlError Bool} (h : Sweeps direction channel event token t r)
    {i : Instruction ν} (hi : i.texts ≠ []) (d : Delivery) : .ordered i d ∉ t := by
  intro hmem
  rcases h.eq_of_ordered hmem with rfl | rfl
  · cases direction <;> exact hi rfl
  · exact hi rfl

/-- **What a return to zero assigns**: the flag that it read is forced on, and gets its former
text back. -/
theorem ReturnsToZero.line_eq {tool : String} {t : History ν} {r : Except ControlError Bool}
    (h : ReturnsToZero tool channel token t r) {flag : String}
    {former : Reply} (hread : .ordered (.getVar flag) (.ok former) ∈ t) {line : String}
    {d : Delivery} (hset : .ordered (.setVar line) d ∈ t) :
    line = flag ++ "=1" ∨ line = flag ++ "=" ++ formerText former := by
  cases h with
  | unread fault => cases List.mem_singleton.mp hread
  | unneeded hneeds => cases List.mem_singleton.mp hread
  | @unforced reply hneeds u error hu =>
    have hforcing {i : Instruction ν} {d : Delivery}
        (hmem : .ordered i d ∈ .ordered (.readChannel channel) (.ok reply) :: u)
        (hi : i ≠ .readChannel channel) :
        i ∈ forcing tool channel reply.channelReading.value u.replies := by
      rcases List.mem_cons.mp hmem with heq | hmem
      · cases heq
        exact absurd rfl hi
      · obtain ⟨j, hj, d', heq⟩ := hu.exists_of_mem hmem
        cases heq
        exact hj
    have hgets := hforcing hread (by simp)
    have hsets := hforcing hset (by simp)
    simp only [forcing, idQueries, List.cons_append, List.nil_append, List.mem_cons, reduceCtorEq,
      Instruction.getVar.injEq, Instruction.setVar.injEq, List.not_mem_nil, or_false,
      false_or] at hgets hsets
    exact .inl (by rw [hsets, hgets])
  | @bracketed reply hneeds panel sweep flag' hflag former' forced swept caught hswept d' =>
    have hnoget := hswept.not_mem_of_texts (i := .getVar flag) (List.cons_ne_nil _ _) (.ok former)
    have hnoset := hswept.not_mem_of_texts (i := .setVar line) (List.cons_ne_nil _ _) d
    simp only [List.cons_append, List.nil_append, List.mem_append, List.mem_cons,
      List.not_mem_nil, Occurrence.exchanged.injEq, Request.instruct.injEq, reduceCtorEq,
      Except.ok.injEq, Instruction.getVar.injEq, Instruction.setVar.injEq, true_and, false_and,
      and_false, hnoget, hnoset, or_false, false_or] at hread hset
    obtain ⟨rfl, rfl⟩ := hread
    exact hset.imp And.left And.left

end

/-! ## 8. Whatever comes back -/

/-- **Every request that an action sends keeps its frame**, in these surroundings. -/
def SendsFramed (s : Surroundings Float) (x : Action Float α) : Prop :=
  ∀ q ∈ (s.history x.run).sent, Framed q.2

theorem sendsFramed_of_keepsFrames {x : Action Float α} (h : KeepsFrames x)
    (s : Surroundings Float) : SendsFramed s x :=
  (h _ _ (s.history_runs x.run)).1

/-- **No backend breaks the framing of what an engine sends.**  Whatever comes back, each request
is read back as the command that was built, with the name and the keys of its kind, unless a
semicolon stands in the panel tool or in the file name.  So the text that a return to zero has read
of a flag, with whatever token it waits, is assigned again within the one value of its command. -/
theorem framed_whatever_comes (e : Engine) (s : Surroundings Float) (htool : Inert e.panelTool) :
    (∀ plan : Plan Float, Inert plan.filename → SendsFramed s (Engine.autosweep e plan)) ∧
    (∀ firstLeg channel sweeps filename, Inert filename →
      SendsFramed s (Engine.minisweep e firstLeg channel sweeps filename : Action Float Outcome)) ∧
    (∀ firstLeg channel stepChannel (start finish : Float) n filename, Inert filename →
      SendsFramed s (Engine.megasweep e firstLeg channel stepChannel start finish n filename)) ∧
    (∀ channel, SendsFramed s (Engine.returnToZero e channel)) ∧
    (∀ first second, SendsFramed s (Engine.sweepLinkage e first second)) ∧
    (∀ channel, SendsFramed s (Engine.sweepTiming e channel)) ∧
    (∀ channel steps, SendsFramed s (Engine.estimate e channel steps)) ∧
    (∀ channel n, SendsFramed s (Engine.benchmark channel n)) ∧
    ∀ channel token flag former line d,
      .ordered (.getVar flag) (.ok former) ∈
        s.history (zeroReturn e.panelTool channel token : Action Float Bool).run →
      .ordered (.setVar line) d ∈
        s.history (zeroReturn e.panelTool channel token : Action Float Bool).run →
      (line = flag ++ "=1" ∨ line = flag ++ "=" ++ formerText former) ∧
        Command.parse (Instruction.setVar line : Instruction Float).text =
          { name := "set_var", fields := [("line", line)] } := by
  refine ⟨fun plan hfile => ?_, fun firstLeg channel sweeps filename hfile => ?_,
    fun firstLeg channel stepChannel start finish n filename hfile => ?_, fun channel => ?_,
    fun first second => ?_, fun channel => ?_, fun channel steps => ?_, fun channel n => ?_, ?_⟩
  · exact sendsFramed_of_keepsFrames (Engine.keepsFrames_autosweep e htool hfile) s
  · exact sendsFramed_of_keepsFrames (Engine.keepsFrames_autosweep e htool hfile) s
  · exact sendsFramed_of_keepsFrames (Engine.keepsFrames_autosweep e htool hfile) s
  · exact sendsFramed_of_keepsFrames (keepsFrames_zeroReturn htool channel e.token) s
  · exact sendsFramed_of_keepsFrames (Engine.keepsFrames_sweepLinkage e first second) s
  · exact sendsFramed_of_keepsFrames (Engine.keepsFrames_sweepTiming e htool channel) s
  · exact sendsFramed_of_keepsFrames
      ((Engine.keepsFrames_sweepTiming e htool channel).map fun _ _ => trivial) s
  · exact sendsFramed_of_keepsFrames (Engine.keepsFrames_benchmark channel n) s
  · intro channel token flag former line d hread hset
    refine ⟨(runs_zeroReturn (s.history_runs _)).line_eq hread hset, ?_⟩
    have hsent : (Link.remote, Request.instruct (.setVar line)) ∈
        (s.history (zeroReturn e.panelTool channel token : Action Float Bool).run).sent :=
      List.mem_filterMap.mpr ⟨_, hset, rfl⟩
    obtain ⟨i, hi, hparse, -⟩ :=
      sendsFramed_of_keepsFrames (keepsFrames_zeroReturn htool channel token) s _ hsent
    cases hi
    exact hparse

/-- Surroundings where every reply has the expected name, with empty fields and a command of its
own behind it. -/
def intruding : Surroundings Float :=
  .answering fun _ _ request =>
    match request with
    | .instruct i => ⟨i.name ++ ";ok|1;value|0;|;;set_dac;channel|3;target|10\n;"⟩
    | .verbatim text => ⟨text⟩

/-- Two pairs on a channel, and a return to zero, against replies with a command in them. -/
theorem framed_whatever_comes_intruding :
    SendsFramed intruding (Engine.minisweep {} .up 1 2 "run.dat" : Action Float Outcome) ∧
      SendsFramed intruding (Engine.returnToZero {} 1) := by
  obtain ⟨-, hminisweep, -, hzero, -⟩ := framed_whatever_comes {} intruding (by decide)
  exact ⟨hminisweep .up 1 2 "run.dat" (by decide), hzero 1⟩

end Sweep

end LabControl
