/-
# Reading instructions

What a backend learns from the command of an instruction is its `Meaning`: the instruction itself,
but for a target, of which only the text arrives, and for a digital line, which is addressed as an
output.  `Meaning.read?` takes this from any command, by its name and by the positions of its
fields, and finds in the command of an instruction what the instruction means (`read?_command`).
So commands that are equal mean the same, with no need to compare instructions pair by pair.

Texts are told apart as commands are, as long as no argument holds a semicolon (`text_eq_iff`).
-/
import LabControl.Instruction
import LabControl.Proofs.Message
import LabControl.Proofs.Numerals

namespace LabControl

variable {ν : Type}

/-! ## 1. What an instruction means -/

/-- What a backend can learn of an instruction. -/
inductive Meaning (ν : Type) where
  /-- The whole instruction. -/
  | whole (instruction : Instruction ν)
  /-- An output, or a line, is to be set to the target with this text. -/
  | output (channel : Nat) (target : String)
  /-- A pulse is requested to the target with this text. -/
  | pulse (channel : Nat) (target : String)

namespace Instruction

/-- The output or line that an instruction sets, and its target. -/
def setting? : Instruction ν → Option (Nat × ν)
  | setDac channel target | setLine channel target => some (channel, target)
  | _ => none

/-- The texts among the arguments of an instruction. -/
def texts : Instruction ν → List String
  | saveData text | emitSignal text | hello text | busExchange _ _ text _ _ | setVar text
  | getVar text | setFollower _ _ text | catchSignal text => [text]
  | loadConfig (.file text) | saveConfig (.file text) => [text]
  | _ => []

variable [Quantity ν]

/-- What an instruction means to a backend. -/
def meaning : Instruction ν → Meaning ν
  | setDac channel target | setLine channel target => .output channel (Quantity.fixed 6 target)
  | requestPulse channel target => .pulse channel (Quantity.fixed 6 target)
  | i => .whole i

/-- **Two instructions agree**: they are one instruction with equal arguments, but that a target
counts by its text with six decimal places, and that a line is set as an output is. -/
inductive Agrees : Instruction ν → Instruction ν → Prop where
  | same (i : Instruction ν) : Agrees i i
  | output {i j : Instruction ν} {channel : Nat} {x y : ν} (hi : i.setting? = some (channel, x))
      (hj : j.setting? = some (channel, y)) (htext : Quantity.fixed 6 x = Quantity.fixed 6 y) :
    Agrees i j
  | pulse (channel : Nat) {x y : ν} (htext : Quantity.fixed 6 x = Quantity.fixed 6 y) :
    Agrees (.requestPulse channel x) (.requestPulse channel y)

theorem meaning_of_setting? {i : Instruction ν} {channel : Nat} {x : ν}
    (h : i.setting? = some (channel, x)) : i.meaning = .output channel (Quantity.fixed 6 x) := by
  unfold setting? at h
  split at h
  · cases h
    rfl
  · cases h
    rfl
  · cases h

/-- An instruction sets an output, or requests a pulse, or means itself. -/
theorem meaning_cases (i : Instruction ν) :
    (∃ channel x, i.setting? = some (channel, x)) ∨ (∃ channel x, i = .requestPulse channel x) ∨
      i.meaning = .whole i := by
  cases i with
  | setDac channel target => exact .inl ⟨channel, target, rfl⟩
  | setLine channel target => exact .inl ⟨channel, target, rfl⟩
  | requestPulse channel target => exact .inr (.inl ⟨channel, target, rfl⟩)
  | _ => exact .inr (.inr rfl)

/-- **Instructions that agree mean the same**, and no others do. -/
theorem meaning_eq_iff {i j : Instruction ν} : i.meaning = j.meaning ↔ i.Agrees j := by
  constructor
  · intro h
    rcases meaning_cases i with ⟨channel, x, hi⟩ | ⟨channel, x, rfl⟩ | hi
    · rw [meaning_of_setting? hi] at h
      rcases meaning_cases j with ⟨channel', y, hj⟩ | ⟨channel', y, rfl⟩ | hj
      · rw [meaning_of_setting? hj] at h
        injection h with hchannel htext
        exact .output hi (hchannel ▸ hj) htext
      · cases h
      · rw [hj] at h
        cases h
    · rcases meaning_cases j with ⟨channel', y, hj⟩ | ⟨channel', y, rfl⟩ | hj
      · rw [meaning_of_setting? hj] at h
        cases h
      · injection h with hchannel htext
        exact hchannel ▸ .pulse channel htext
      · rw [hj] at h
        cases h
    · rw [hi] at h
      rcases meaning_cases j with ⟨channel', y, hj⟩ | ⟨channel', y, rfl⟩ | hj
      · rw [meaning_of_setting? hj] at h
        cases h
      · cases h
      · rw [hj] at h
        injection h with h
        exact h ▸ .same i
  · rintro (_ | ⟨hi, hj, htext⟩ | ⟨channel, htext⟩)
    · rfl
    · rw [meaning_of_setting? hi, meaning_of_setting? hj, htext]
    · simp only [meaning, htext]

end Instruction

/-! ## 2. Reading a command -/

namespace Command

/-- The value at a position as an integer, zero if it is none. -/
def integer (c : Command) (index : Nat) : Int :=
  (Decimal.readInteger? (c.value index).toList).getD 0

/-- The value at a position as a natural number. -/
def natural (c : Command) (index : Nat) : Nat := (c.integer index).toNat

/-- The value at a position as a truth value. -/
def isSet (c : Command) (index : Nat) : Bool := c.value index == "1"

/-- The source of configuration that the fields name. -/
def source (c : Command) : ConfigSource :=
  match c.value 0 with
  | "user_default" => .userDefault
  | "sys_default" => .systemDefault
  | "internal_default" => .internalDefault
  | "last" => .last
  | _ => .file (c.value 1)

end Command

/-- **What a command means**, if its name is that of an instruction.  Fields are taken by their
positions; a channel of minus one stands for none. -/
def Meaning.read? (c : Command) : Option (Meaning ν) :=
  match c.name with
  | "set_recording" => some (.whole (.setRecording (c.isSet 0)))
  | "set_dac" => some (.output (c.natural 0) (c.value 1))
  | "sweep_stop" => some (.whole (.sweepStop (c.natural 0)))
  | "sweep_down" => some (.whole (.sweepDown (c.natural 0)))
  | "sweep_up" => some (.whole (.sweepUp (c.natural 0)))
  | "request_pulse" =>
    if c.integer 0 = -1 then some (.whole .cancelPulse)
    else some (.pulse (c.natural 0) (c.value 1))
  | "set_scanning" => some (.whole (.setScanning (c.isSet 0)))
  | "arm_trigger" => some (.whole (.armTrigger (c.integer 0)))
  | "disarm_trigger" => some (.whole (.disarmTrigger (c.integer 0)))
  | "force_trigger" => some (.whole (.forceTrigger (c.integer 0)))
  | "cancel_trigger" => some (.whole (.cancelTrigger (c.integer 0)))
  | "new_set" => some (.whole .newSet)
  | "tzero" => some (.whole .zeroTime)
  | "save" => some (.whole (.saveData (c.value 0)))
  | "emit_signal" => some (.whole (.emitSignal (c.value 0)))
  | "hello" => some (.whole (.hello (c.value 0)))
  | "gpib_send_recv" =>
    some (.whole (.busExchange (c.natural 0) (c.natural 1) (c.value 3) (c.natural 2) (c.isSet 4)))
  | "gpib_pause" => some (.whole (.pauseBus (c.isSet 0)))
  | "get_time" => some (.whole .getTime)
  | "read_channel" => some (.whole (.readChannel (c.natural 0)))
  | "load_config" => some (.whole (.loadConfig c.source))
  | "save_config" => some (.whole (.saveConfig c.source))
  | "set_panel" => some (.whole (.setPanel (c.integer 0)))
  | "get_panel" => some (.whole .getPanel)
  | "set_var" => some (.whole (.setVar (c.value 0)))
  | "get_var" => some (.whole (.getVar (c.value 0)))
  | "get_sweep_id" => some (.whole (.getSweepId (c.natural 0)))
  | "sweep_link_setup" => some (.whole (.linkSweeps (c.natural 0) (c.natural 1)))
  | "sweep_link_clear" => some (.whole .unlinkSweeps)
  | "set_follower" =>
    if c.integer 1 = -1 then some (.whole (.removeFollower (c.natural 0)))
    else some (.whole (.setFollower (c.natural 0) (c.natural 1) (c.value 2)))
  | "show_followers" => some (.whole .showFollowers)
  | "clear_buffer" => some (.whole (.clearBuffer (c.isSet 0) (c.isSet 1)))
  | "catch_sweep_zerostop" => some (.whole (.catchSweep .zeroStop (c.natural 0)))
  | "catch_sweep_min" => some (.whole (.catchSweep .min (c.natural 0)))
  | "catch_sweep_max" => some (.whole (.catchSweep .max (c.natural 0)))
  | "catch_sweep_min_posthold" => some (.whole (.catchSweep .minPosthold (c.natural 0)))
  | "catch_sweep_max_posthold" => some (.whole (.catchSweep .maxPosthold (c.natural 0)))
  | "catch_scan_start" => some (.whole .catchScanStart)
  | "catch_scan_finish" => some (.whole .catchScanFinish)
  | "catch_signal" => some (.whole (.catchSignal (c.value 0)))
  | _ => none

namespace Instruction

variable [Quantity ν]

/-- **The command of an instruction is read as what the instruction means.** -/
theorem read?_command (i : Instruction ν) : Meaning.read? i.command = some i.meaning := by
  have hnat (n : Nat) : (n : Int) ≠ -1 := by omega
  have hflag (on : Bool) : (flagText on == "1") = on := by cases on <;> rfl
  cases i with
  | loadConfig source => cases source <;> rfl
  | saveConfig source => cases source <;> rfl
  | catchSweep event channel =>
    cases event <;> simp [command, channelCommand, Sweep.Event.text, meaning, Meaning.read?,
      Command.arg, Command.int, Command.value, Command.natural, Command.integer, Decimal.intText,
      Decimal.readInteger?_intChars]
  | _ =>
    simp [command, channelCommand, meaning, Meaning.read?, Command.arg, Command.int, Command.flag,
      Command.quantity, quantityText, Command.value, Command.natural, Command.integer,
      Command.isSet, Decimal.intText, Decimal.readInteger?_intChars, hnat, hflag]

/-- An instruction that sets an output or a line has the command that sets an output. -/
theorem command_of_setting? {i : Instruction ν} {channel : Nat} {x : ν}
    (h : i.setting? = some (channel, x)) : i.command = (setDac channel x).command := by
  unfold setting? at h
  split at h
  · cases h
    rfl
  · cases h
    rfl
  · cases h

/-- Instructions that agree have one command. -/
theorem Agrees.command_eq {i j : Instruction ν} (h : i.Agrees j) : i.command = j.command := by
  cases h with
  | same => rfl
  | output hi hj htext =>
    rw [command_of_setting? hi, command_of_setting? hj]
    simp only [command, Command.quantity, quantityText, htext]
  | pulse channel htext => simp only [command, Command.quantity, quantityText, htext]

/-- **Instructions have one command just if they agree.** -/
theorem command_eq_iff {i j : Instruction ν} : i.command = j.command ↔ i.Agrees j := by
  refine ⟨fun h => ?_, Agrees.command_eq⟩
  have hread : (Meaning.read? i.command : Option (Meaning ν)) = Meaning.read? j.command := by
    rw [h]
  rw [read?_command, read?_command, Option.some.injEq] at hread
  exact meaning_eq_iff.mp hread

end Instruction

/-! ## 3. Texts -/

/-- The text of a number holds neither separator. -/
theorem not_mem_of_isNumeral {cs : List Char} (h : ∀ c ∈ cs, Decimal.isNumeral c = true) :
    fieldSeparator ∉ cs := fun hmem => absurd (h _ hmem) (by decide)

theorem not_mem_intText (n : Int) : fieldSeparator ∉ (Decimal.intText n).toList :=
  not_mem_of_isNumeral fun _ => Decimal.isNumeral_of_mem_intText

theorem not_mem_quantityText (x : Float) : fieldSeparator ∉ (quantityText x).toList :=
  not_mem_of_isNumeral fun _ => Decimal.isNumeral_of_mem_fixed

theorem not_mem_flagText (on : Bool) : fieldSeparator ∉ (flagText on).toList := by
  cases on <;> decide

namespace Instruction

/-- **The command of an instruction is well formed** if none of the texts among its arguments
holds a semicolon. -/
theorem wellFormed_command {i : Instruction Float}
    (h : ∀ text ∈ i.texts, fieldSeparator ∉ text.toList) : i.command.WellFormed := by
  cases i with
  | loadConfig source =>
    cases source <;>
      simp_all +decide [texts, command, ConfigSource.fields, Command.WellFormed, FieldWellFormed]
  | saveConfig source =>
    cases source <;>
      simp_all +decide [texts, command, ConfigSource.fields, Command.WellFormed, FieldWellFormed]
  | catchSweep event channel =>
    cases event <;>
      simp +decide [command, channelCommand, Sweep.Event.text, Command.int, Command.arg,
        Command.WellFormed, FieldWellFormed, not_mem_intText]
  | _ =>
    simp_all +decide [texts, command, channelCommand, Command.int, Command.flag,
      Command.quantity, Command.arg, Command.WellFormed, FieldWellFormed, not_mem_intText,
      not_mem_flagText, not_mem_quantityText]

/-- **Instructions have one text just if they agree**, unless an argument holds a semicolon. -/
theorem text_eq_iff {i j : Instruction Float} (hi : ∀ text ∈ i.texts, fieldSeparator ∉ text.toList)
    (hj : ∀ text ∈ j.texts, fieldSeparator ∉ text.toList) : i.text = j.text ↔ i.Agrees j := by
  rw [← command_eq_iff]
  constructor
  · intro h
    calc
      i.command = Command.parse i.text := (wellFormed_command hi).parse_text.symm
      _ = Command.parse j.text := congrArg Command.parse h
      _ = j.command := (wellFormed_command hj).parse_text
  · exact congrArg Command.text

end Instruction

end LabControl
