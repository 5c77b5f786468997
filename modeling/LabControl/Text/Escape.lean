/-
# Escapes in quoted text

Inside quotes a backslash begins an escape: one letter for a control character, a quote or a
backslash for itself, and `u` or `U` with four or eight hexadecimal digits for any character.
-/
import LabControl.Text.Reader

namespace LabControl.Text

/-- The value of a digit in a base up to sixteen, in either case of letters. -/
def digitIn? (base : Nat) (c : Char) : Option Nat :=
  let n := c.toNat
  let value? :=
    if 0x30 ≤ n ∧ n ≤ 0x39 then some (n - 0x30)
    else if 0x41 ≤ n ∧ n ≤ 0x46 then some (n - 0x37)
    else if 0x61 ≤ n ∧ n ≤ 0x66 then some (n - 0x57)
    else none
  value?.filter (· < base)

/-- The number that digits in a base stand for. -/
def valueIn (base : Nat) (cs : List Char) : Nat :=
  cs.foldl (fun acc c => acc * base + (digitIn? base c).getD 0) 0

/-- The character of a code, if the code is one: half of a surrogate pair is none. -/
def charOfCode? (n : Nat) : Option Char :=
  if h : n.isValidChar then some (Char.ofNatAux n h) else none

/-- The character that a number of hexadecimal digits name. -/
def hexChar (places : Nat) : Reader Char := do
  let ds ← Reader.exactly places fun c => (digitIn? 16 c).isSome
  match charOfCode? (valueIn 16 ds) with
  | some c => pure c
  | none => failure

/-- The character of an escape, after the backslash. -/
def escaped : Reader Char := do
  match ← Reader.satisfying fun _ => true with
  | '"' => pure '"'
  | '\\' => pure '\\'
  | 'b' => pure '\x08'
  | 't' => pure '\t'
  | 'n' => pure '\n'
  | 'f' => pure '\x0c'
  | 'r' => pure '\r'
  | 'u' => hexChar 4
  | 'U' => hexChar 8
  | _ => failure

/-- A backslash and what it stands for. -/
def escape : Reader Char := do
  Reader.char '\\'
  escaped

end LabControl.Text
