/-
# Lookup tables

A discrete instrument setting is a position in a table of breakpoints.  A table has at least one
breakpoint, and each exceeds the one before it; `LookupTable.ofList?` checks both and nothing
else builds a table.  Decoding cuts any raw number to a valid position; encoding looks for the
nearest breakpoint.
-/
import LabControl.Error
import LabControl.Calibration.Nearest

namespace LabControl.Calibration

variable {ν : Type} [Scale ν]

/-- The least position whose element does not exceed the one before it. -/
def firstDescent : List ν → Option Nat
  | lower :: upper :: rest =>
    if Scale.lt lower upper then (firstDescent (upper :: rest)).map (· + 1) else some 1
  | _ => none

/-- Breakpoints of a discrete setting, at least one and each above the one before it. -/
structure LookupTable (ν : Type) [Scale ν] where
  breakpoints : List ν
  nonempty : breakpoints ≠ []
  increasing : firstDescent breakpoints = none

namespace LookupTable

/-- Why a list of breakpoints is no table. -/
inductive Fault where
  /-- There is no breakpoint. -/
  | empty
  /-- The breakpoint at a position does not exceed the one before it. -/
  | notIncreasing (index : Nat)
  deriving DecidableEq, Repr

/-- The text shown for a refused list of breakpoints. -/
def Fault.message : Fault → String
  | .empty => "lookup table must have at least one breakpoint"
  | .notIncreasing index =>
    "lookup table is not strictly increasing at index " ++ Decimal.natText index

/-- The table of a list of breakpoints, or why it is none. -/
def check (breakpoints : List ν) : Except Fault (LookupTable ν) :=
  if nonempty : breakpoints ≠ [] then
    match increasing : firstDescent breakpoints with
    | none => .ok ⟨breakpoints, nonempty, increasing⟩
    | some index => .error (.notIncreasing index)
  else .error .empty

/-- The table of a list of breakpoints; a list that is no table contradicts the
configuration. -/
def ofList? (breakpoints : List ν) : Except ControlError (LookupTable ν) :=
  (check breakpoints).mapError fun fault => .configuration fault.message

/-- The number of breakpoints. -/
def size (t : LookupTable ν) : Nat := t.breakpoints.length

theorem size_pos (t : LookupTable ν) : 0 < t.size :=
  List.length_pos_iff.mpr t.nonempty

/-- Whether there is no breakpoint. -/
def isEmpty (t : LookupTable ν) : Bool := t.breakpoints.isEmpty

/-- The breakpoint at a position. -/
def value? (t : LookupTable ν) (index : Nat) : Option ν := t.breakpoints[index]?

/-- The position that a raw setting stands for, cut to the ends of the table. -/
def position (t : LookupTable ν) (raw : ν) : Nat := (Scale.clamp (t.size - 1) raw).val

theorem position_lt (t : LookupTable ν) (raw : ν) : t.position raw < t.breakpoints.length := by
  have hcut := (Scale.clamp (t.size - 1) raw).isLt
  have hpos := t.size_pos
  change (Scale.clamp (t.size - 1) raw).val < t.size
  omega

/-- The breakpoint that a raw setting stands for. -/
def valueClamped (t : LookupTable ν) (raw : ν) : ν :=
  t.breakpoints.get ⟨t.position raw, t.position_lt raw⟩

/-- The position of the breakpoint nearest to a value. -/
def nearest (t : LookupTable ν) (x : ν) : Nat := nearestIndex t.breakpoints x

end LookupTable

end LabControl.Calibration
