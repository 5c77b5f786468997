/-
# Cutting a text at a separator

Messages are cut at one separator character.  `pieces` cuts at every occurrence and yields the
first piece apart from the later ones, so that there is always a first piece; `splitFirst` cuts
once.  Both are tied to the text by what is got when the separators are put back: the text that
was cut (`glue_pieces`, `eq_of_splitFirst_eq_some`).  In the other direction, what is put together
from parts without a separator is cut into these parts (`pieces_glue`, `splitFirst_append_cons`).
-/

namespace LabControl.Text

/-! ## 1. Every occurrence -/

/-- The piece before the first separator, and the pieces after each separator. -/
def pieces (sep : Char) : List Char → List Char × List (List Char)
  | [] => ([], [])
  | c :: rest =>
    let (piece, later) := pieces sep rest
    if c = sep then ([], piece :: later) else (c :: piece, later)

/-- The first piece with every later one behind a separator. -/
def glue (sep : Char) (piece : List Char) (later : List (List Char)) : List Char :=
  piece ++ later.flatMap (sep :: ·)

/-- Putting the separators back gives the text that was cut. -/
theorem glue_pieces (sep : Char) (cs : List Char) :
    glue sep (pieces sep cs).1 (pieces sep cs).2 = cs := by
  induction cs with
  | nil => rfl
  | cons c rest ih =>
    by_cases h : c = sep
    · subst h
      simpa [pieces, glue] using ih
    · simpa [pieces, glue, h] using ih

/-- No separator is left in the first piece. -/
theorem not_mem_fst_pieces (sep : Char) (cs : List Char) : sep ∉ (pieces sep cs).1 := by
  induction cs with
  | nil => simp [pieces]
  | cons c rest ih =>
    by_cases h : c = sep
    · simp [pieces, h]
    · simp [pieces, h, ih, Ne.symm h]

/-- No separator is left in a later piece. -/
theorem not_mem_snd_pieces (sep : Char) (cs : List Char) :
    ∀ piece ∈ (pieces sep cs).2, sep ∉ piece := by
  induction cs with
  | nil => simp [pieces]
  | cons c rest ih =>
    by_cases h : c = sep
    · intro piece hp
      simp only [pieces, h, if_true, List.mem_cons] at hp
      rcases hp with rfl | hp
      · exact not_mem_fst_pieces sep rest
      · exact ih piece hp
    · simpa [pieces, h] using ih

/-- A text without a separator is one piece. -/
theorem pieces_of_not_mem {sep : Char} {cs : List Char} (h : sep ∉ cs) :
    pieces sep cs = (cs, []) := by
  induction cs with
  | nil => rfl
  | cons c rest ih =>
    obtain ⟨hc, hrest⟩ := not_or.mp (mt List.mem_cons.mpr h)
    simp only [pieces, ih hrest, Ne.symm hc, if_false]

/-- The first piece ends at the first separator. -/
theorem pieces_append_cons {sep : Char} {piece : List Char} (h : sep ∉ piece) (rest : List Char) :
    pieces sep (piece ++ sep :: rest) = (piece, (pieces sep rest).1 :: (pieces sep rest).2) := by
  induction piece with
  | nil => simp only [List.nil_append, pieces, if_true]
  | cons c piece ih =>
    obtain ⟨hc, hpiece⟩ := not_or.mp (mt List.mem_cons.mpr h)
    simp only [List.cons_append, pieces, ih hpiece, Ne.symm hc, if_false]

/-- Pieces without a separator that are put together are cut apart again. -/
theorem pieces_glue {sep : Char} {piece : List Char} {later : List (List Char)} (h : sep ∉ piece)
    (hlater : ∀ p ∈ later, sep ∉ p) : pieces sep (glue sep piece later) = (piece, later) := by
  induction later generalizing piece with
  | nil => simpa [glue] using pieces_of_not_mem h
  | cons next later ih =>
    have hnext : sep ∉ next := hlater next List.mem_cons_self
    have hrest := ih hnext fun p hp => hlater p (List.mem_cons_of_mem _ hp)
    have hglue : glue sep piece (next :: later) = piece ++ sep :: glue sep next later := by
      simp [glue]
    rw [hglue, pieces_append_cons h, hrest]

/-! ## 2. The first occurrence -/

/-- The text before and after the first separator, or nothing if there is none. -/
def splitFirst (sep : Char) : List Char → Option (List Char × List Char)
  | [] => none
  | c :: rest =>
    if c = sep then some ([], rest)
    else (splitFirst sep rest).map fun (before, after) => (c :: before, after)

/-- Putting the separator back gives the text that was cut. -/
theorem eq_of_splitFirst_eq_some {sep : Char} {cs before after : List Char}
    (h : splitFirst sep cs = some (before, after)) : cs = before ++ sep :: after := by
  induction cs generalizing before with
  | nil => simp [splitFirst] at h
  | cons c rest ih =>
    by_cases hc : c = sep
    · simp only [splitFirst, hc, if_true, Option.some.injEq, Prod.mk.injEq] at h
      obtain ⟨rfl, rfl⟩ := h
      simp [hc]
    · simp only [splitFirst, hc, if_false, Option.map_eq_some_iff, Prod.mk.injEq,
        Prod.exists] at h
      obtain ⟨b, a, hba, rfl, rfl⟩ := h
      simp [ih hba]

/-- The cut is at the first separator. -/
theorem not_mem_of_splitFirst_eq_some {sep : Char} {cs before after : List Char}
    (h : splitFirst sep cs = some (before, after)) : sep ∉ before := by
  induction cs generalizing before with
  | nil => simp [splitFirst] at h
  | cons c rest ih =>
    by_cases hc : c = sep
    · simp only [splitFirst, hc, if_true, Option.some.injEq, Prod.mk.injEq] at h
      simp [← h.1]
    · simp only [splitFirst, hc, if_false, Option.map_eq_some_iff, Prod.mk.injEq,
        Prod.exists] at h
      obtain ⟨b, a, hba, rfl, rfl⟩ := h
      simp [ih hba, Ne.symm hc]

/-- A text with a separator put after a part without one is cut there. -/
theorem splitFirst_append_cons {sep : Char} {before : List Char} (h : sep ∉ before)
    (after : List Char) : splitFirst sep (before ++ sep :: after) = some (before, after) := by
  induction before with
  | nil => simp [splitFirst]
  | cons c before ih =>
    obtain ⟨hc, hbefore⟩ := not_or.mp (mt List.mem_cons.mpr h)
    simp [splitFirst, ih hbefore, Ne.symm hc]

/-- There is no cut exactly when there is no separator. -/
theorem splitFirst_eq_none_iff {sep : Char} {cs : List Char} :
    splitFirst sep cs = none ↔ sep ∉ cs := by
  induction cs with
  | nil => simp [splitFirst]
  | cons c rest ih =>
    by_cases hc : c = sep
    · simp [splitFirst, hc]
    · simp [splitFirst, hc, ih, Ne.symm hc]

end LabControl.Text
