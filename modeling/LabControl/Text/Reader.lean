/-
# Readers

A reader takes a value off the front of a text and leaves the rest, or fails.  Sequence and
choice come from the monad; a choice goes back to where it began.  Repetition is `many`: it goes
on as long as its reader succeeds, at most once for each character of the text, so a reader that
is repeated has to take at least one character each time.
-/

namespace LabControl.Text

/-- A reader of values. -/
abbrev Reader (α : Type) : Type := StateT (List Char) Option α

namespace Reader

variable {α β : Type}

/-- The next character, which is not taken. -/
def peek? : Reader (Option Char) := fun cs => some (cs.head?, cs)

/-- A character with a property. -/
def satisfying (p : Char → Bool) : Reader Char
  | [] => none
  | c :: rest => if p c then some (c, rest) else none

/-- A certain character. -/
def char (c : Char) : Reader Unit := discard (satisfying (· == c))

/-- A certain run of characters. -/
def word : List Char → Reader Unit
  | [] => pure ()
  | c :: rest => do
    char c
    word rest

/-- All characters with a property, up to the first without it. -/
def run (p : Char → Bool) : Reader (List Char) := fun cs => some (cs.takeWhile p, cs.dropWhile p)

/-- Like `run`, with at least one character. -/
def run₁ (p : Char → Bool) : Reader (List Char) := do
  let cs ← run p
  if cs.isEmpty then failure else pure cs

/-- A value if there is one. -/
def optional? (r : Reader α) : Reader (Option α) := some <$> r <|> pure none

/-- Values one after the other, no more than a number of them. -/
def upTo (r : Reader α) : Nat → Reader (List α)
  | 0 => pure []
  | n + 1 => do
    match ← optional? r with
    | none => pure []
    | some a => (a :: ·) <$> upTo r n

/-- Values one after the other, as many as there are. -/
def many (r : Reader α) : Reader (List α) := fun cs => upTo r cs.length cs

/-- Values with a separator between every two, at least one value.  A separator without a value
after it is not taken. -/
def separated₁ (separator : Reader β) (r : Reader α) : Reader (List α) := do
  let first ← r
  let later ← many do
    let _ ← separator
    r
  pure (first :: later)

/-- Values with a separator between every two, or none. -/
def separated (separator : Reader β) (r : Reader α) : Reader (List α) :=
  separated₁ separator r <|> pure []

/-- A certain number of characters with a property. -/
def exactly (n : Nat) (p : Char → Bool) : Reader (List Char) := fun cs =>
  let taken := cs.take n
  if taken.length == n && taken.all p then some (taken, cs.drop n) else none

/-- The value of a whole text: nothing may be left. -/
def whole (r : Reader α) (cs : List Char) : Option α :=
  match r cs with
  | some (a, []) => some a
  | _ => none

end Reader

end LabControl.Text
