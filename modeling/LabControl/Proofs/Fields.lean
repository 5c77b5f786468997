/-
# Typed fields

A command is built one field at a time, from values of four types: texts, integers of sixty-four
bits, measured values and truth values.  Whoever receives its text reads it one position at a time
as well, in the type that is expected there.  `Argument` is a field before it is written, and
`Argument.IsRead` says what is to be found at its position.

`reads_ofArguments` says that each argument is found, in a command of any number of them: none ends
early, none moves another from its place, and an integer comes back whole, the least one included.
-/
import LabControl.Proofs.Instruction

namespace LabControl

variable {ν : Type}

/-! ## 1. Numbers without blanks around them -/

/-- No character of a number is a blank. -/
theorem Decimal.isBlank_of_isNumeral {c : Char} (h : isNumeral c = true) :
    Text.isBlank c = false := by
  rcases Bool.or_eq_true _ _ ▸ h with hdigit | hmem
  · simp only [isDigit, Bool.and_eq_true, decide_eq_true_eq, Char.le_def,
      UInt32.le_iff_toNat_le] at hdigit
    have hlow : 48 ≤ c.toNat := hdigit.1
    have hhigh : c.toNat ≤ 57 := hdigit.2
    simp only [Text.isBlank, Bool.or_eq_false_iff, Bool.and_eq_false_iff, beq_eq_false_iff_ne,
      decide_eq_false_iff_not]
    omega
  · have hall : ['-', '.', 'N', 'a', 'i', 'n', 'f'].all (fun c => !Text.isBlank c) = true := by
      decide
    simpa using List.all_eq_true.mp hall c (by simpa using hmem)

/-- Where there are no blanks, none are cut off. -/
theorem Text.trimChars_eq_self {cs : List Char} (h : ∀ c ∈ cs, isBlank c = false) :
    trimChars cs = cs := by
  have hdrop (ds : List Char) (hds : ∀ c ∈ ds, isBlank c = false) : ds.dropWhile isBlank = ds := by
    rcases ds with _ | ⟨d, ds⟩
    · rfl
    · rw [List.dropWhile_cons_of_neg (by simp [hds d List.mem_cons_self])]
  rw [trimChars, hdrop cs h, hdrop cs.reverse fun c hc => h c (List.mem_reverse.mp hc),
    List.reverse_reverse]

/-- **An integer of sixty-four bits is read back** from an argument that holds its text. -/
theorem Reply.int?_of_arg {r : Reply} {index : Nat} {n : Int64}
    (h : r.arg index = Decimal.intText n.toInt) : r.int? index = some n.toInt := by
  have htrim : Text.trimChars (Decimal.intText n.toInt).toList = Decimal.intChars n.toInt := by
    rw [Text.trimChars_eq_self fun c hc =>
      Decimal.isBlank_of_isNumeral (Decimal.isNumeral_of_mem_intText hc)]
    exact String.toList_ofList
  have hfits : Decimal.fitsSigned64 n.toInt = true := by
    rw [Decimal.fitsSigned64, Bool.and_eq_true, decide_eq_true_eq, decide_eq_true_eq]
    exact ⟨n.minValue_le_toInt, n.toInt_le⟩
  rw [Reply.int?, h, htrim, Decimal.readSigned64?, Decimal.readInteger?_intChars]
  exact Option.filter_eq_some_iff.mpr ⟨rfl, hfits⟩

theorem keySeparator_not_mem_quantityText (x : Float) :
    keySeparator ∉ (quantityText x).toList := fun h =>
  absurd (Decimal.isNumeral_of_mem_fixed h) (by decide)

/-! ## 2. Arguments -/

/-- A field that is to be written: its key, and a value of one of four types. -/
inductive Argument (ν : Type) where
  /-- A verbatim text. -/
  | text (key value : String)
  /-- An integer of sixty-four bits. -/
  | integer (key : String) (value : Int64)
  /-- A measured value. -/
  | quantity (key : String) (value : ν)
  /-- A truth value. -/
  | flag (key : String) (value : Bool)

namespace Argument

/-- The key of an argument. -/
def key : Argument ν → String
  | text key _ | integer key _ | quantity key _ | flag key _ => key

/-- An argument that is written without a separator in a wrong place: there is none in its key, and
no semicolon in a verbatim text. -/
def WellFormed (argument : Argument ν) : Prop :=
  fieldSeparator ∉ argument.key.toList ∧ keySeparator ∉ argument.key.toList ∧
    ∀ key value, argument = text key value → fieldSeparator ∉ value.toList

/-- **What is read at the position of an argument.**  A measured value comes as its text, with six
decimal places and no separator. -/
def IsRead [Quantity ν] (r : Reply) (index : Nat) : Argument ν → Prop
  | text _ value => r.arg index = value
  | integer _ value => r.int? index = some value.toInt
  | quantity _ value =>
    r.arg index = Quantity.fixed 6 value ∧ fieldSeparator ∉ (r.arg index).toList ∧
      keySeparator ∉ (r.arg index).toList
  | flag _ value => r.flag index = value

/-- The field that an argument is written as. -/
def field [Quantity ν] : Argument ν → String × String
  | text key value => (key, value)
  | integer key value => (key, Decimal.intText value.toInt)
  | quantity key value => (key, quantityText value)
  | flag key value => (key, flagText value)

/-- Well-formed arguments are written as well-formed fields. -/
theorem WellFormed.field {argument : Argument Float} (h : argument.WellFormed) :
    FieldWellFormed argument.field := by
  obtain ⟨hfield, hkey, hvalue⟩ := h
  cases argument with
  | text key value => exact ⟨hfield, hkey, hvalue key value rfl⟩
  | integer key value => exact ⟨hfield, hkey, not_mem_intText _⟩
  | quantity key value => exact ⟨hfield, hkey, not_mem_quantityText _⟩
  | flag key value => exact ⟨hfield, hkey, not_mem_flagText _⟩

/-- **An argument is read from its text.** -/
theorem isRead_of_arg {argument : Argument Float} {r : Reply} {index : Nat}
    (h : r.arg index = argument.field.2) : argument.IsRead r index := by
  cases argument with
  | text key value => exact h
  | integer key value => exact Reply.int?_of_arg h
  | quantity key value =>
    refine ⟨h, ?_, ?_⟩
    · rw [h]
      exact not_mem_quantityText value
    · rw [h]
      exact keySeparator_not_mem_quantityText value
  | flag key value =>
    rw [IsRead, Reply.flag, h]
    cases value <;> rfl

end Argument

/-! ## 3. Commands of arguments -/

namespace Command

variable [Quantity ν]

/-- The command with an argument appended. -/
def append (c : Command) : Argument ν → Command
  | .text key value => c.arg key value
  | .integer key value => c.int key value.toInt
  | .quantity key value => c.quantity key value
  | .flag key value => c.flag key value

/-- The command of a name and arguments, appended one after the other. -/
def ofArguments (name : String) (arguments : List (Argument ν)) : Command :=
  arguments.foldl append { name }

theorem append_eq (c : Command) (argument : Argument ν) :
    c.append argument = { c with fields := c.fields ++ [argument.field] } := by
  cases argument <;> rfl

/-- Arguments that are appended come behind the fields that are there. -/
theorem foldl_append (c : Command) (arguments : List (Argument ν)) :
    arguments.foldl append c = { c with fields := c.fields ++ arguments.map Argument.field } := by
  induction arguments generalizing c with
  | nil => simp
  | cons argument arguments ih => simp [ih, append_eq]

theorem ofArguments_eq (name : String) (arguments : List (Argument ν)) :
    ofArguments name arguments = { name, fields := arguments.map Argument.field } := by
  simp [ofArguments, foldl_append]

/-- A command of well-formed arguments is well formed. -/
theorem wellFormed_ofArguments {name : String} {arguments : List (Argument Float)}
    (hname : fieldSeparator ∉ name.toList) (h : ∀ argument ∈ arguments, argument.WellFormed) :
    (ofArguments name arguments).WellFormed := by
  rw [ofArguments_eq]
  refine ⟨hname, fun field hfield => ?_⟩
  obtain ⟨argument, hargument, rfl⟩ := List.mem_map.mp hfield
  exact (h argument hargument).field

/-- **Typed fields are read back**: each argument of a command is found in the text of the command
at its own position, and the text has the name of the command. -/
theorem reads_ofArguments {name : String} {arguments : List (Argument Float)}
    (hname : fieldSeparator ∉ name.toList) (h : ∀ argument ∈ arguments, argument.WellFormed) :
    (∀ (index : Nat) (hindex : index < arguments.length),
      arguments[index].IsRead ⟨(ofArguments name arguments).text⟩ index) ∧
    (⟨(ofArguments name arguments).text⟩ : Reply).acknowledges (ofArguments name arguments) =
      true := by
  have hwell := wellFormed_ofArguments hname h
  constructor
  · intro index hindex
    have hlt : index < (Text.pieces fieldSeparator
        (ofArguments name arguments).text.toList).2.length := by
      rw [hwell.pieces_text]
      simpa [ofArguments_eq] using hindex
    refine Argument.isRead_of_arg ?_
    calc
      (⟨(ofArguments name arguments).text⟩ : Reply).arg index
        = (parse (ofArguments name arguments).text).value index :=
          (value_parse (fieldPiece?_of_lt hlt)).symm
      _ = (ofArguments name arguments).value index := by rw [hwell.parse_text]
      _ = arguments[index].field.2 := by simp [ofArguments_eq, value, hindex]
  · have hdecoded : decodeName (ofArguments name arguments).text =
        (ofArguments name arguments).name := by
      rw [decodeName, hwell.pieces_text, String.ofList_toList]
    exact beq_iff_eq.mpr hdecoded

/-- A value with bars, the least integer, a value that is no number under an empty key, and a flag
under a key that stands there twice already. -/
def mixed : List (Argument Float) :=
  [.text "key" "a|b|", .integer "key" Int64.minValue, .quantity "" Decimal.notANumber,
    .flag "key" true]

theorem reads_ofArguments_mixed :
    (⟨(ofArguments "get|set" mixed).text⟩ : Reply).int? 1 = some (-9223372036854775808) ∧
      (⟨(ofArguments "get|set" mixed).text⟩ : Reply).arg 0 = "a|b|" ∧
      (⟨(ofArguments "get|set" mixed).text⟩ : Reply).flag 3 = true ∧
      (⟨(ofArguments "get|set" mixed).text⟩ : Reply).acknowledges (ofArguments "get|set" mixed) =
        true := by
  have hwell : ∀ argument ∈ mixed, argument.WellFormed := by
    simp +decide [mixed, Argument.WellFormed, Argument.key]
  obtain ⟨hread, hname⟩ := @reads_ofArguments "get|set" mixed (by decide) hwell
  exact ⟨hread 1 (by decide), hread 0 (by decide), hread 3 (by decide), hname⟩

end Command

end LabControl
