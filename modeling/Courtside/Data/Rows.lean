import Mathlib.Data.List.Basic

/-!
# Rows of fields

A text of rows: the fields of a row are separated by one symbol, and every row is ended by
another.  Reading is splitting twice, and gives back the rows that were written if no field
contains either symbol (`parseRows_renderRows`).
-/

universe u

namespace Courtside

variable {α : Type u}

/-- The text of some rows. -/
def renderRows (sep eol : α) (rows : List (List (List α))) : List α :=
  rows.flatMap fun row ↦ [sep].intercalate row ++ [eol]

/-- The text of no row is left at the end. -/
def parseRows [BEq α] (sep eol : α) (text : List α) : List (List (List α)) :=
  (text.splitOn eol).dropLast.map fun line ↦ line.splitOn sep

/-- A symbol of a separated list is the separator, or is in one of the parts. -/
theorem mem_intercalate_singleton {sep a : α} {parts : List (List α)}
    (h : a ∈ [sep].intercalate parts) : a = sep ∨ ∃ part ∈ parts, a ∈ part := by
  induction parts with
  | nil => cases h
  | cons part parts ih =>
      by_cases hparts : parts = []
      · subst hparts
        rw [List.intercalate_singleton] at h
        exact .inr ⟨part, List.mem_cons_self, h⟩
      · rw [List.intercalate_cons_of_ne_nil hparts, List.mem_append, List.mem_append,
          List.mem_singleton] at h
        rcases h with (hpart | hsep) | hrest
        · exact .inr ⟨part, List.mem_cons_self, hpart⟩
        · exact .inl hsep
        · exact (ih hrest).imp_right fun ⟨part', hmem, ha⟩ ↦
            ⟨part', List.mem_cons_of_mem _ hmem, ha⟩

/-- Lines that are all ended by a symbol are separated by it, with nothing after the last. -/
theorem flatMap_concat_eq_intercalate (eol : α) (lines : List (List α)) :
    (lines.flatMap fun line ↦ line ++ [eol]) = [eol].intercalate (lines ++ [[]]) := by
  induction lines with
  | nil => simp
  | cons line lines ih =>
      have hne : lines ++ [[]] ≠ [] := by simp
      rw [List.flatMap_cons, ih, List.cons_append, List.intercalate_cons_of_ne_nil hne]

/-- **Round trip.**  Rows are read back as they were written. -/
theorem parseRows_renderRows [BEq α] [LawfulBEq α] {sep eol : α} (hsep : sep ≠ eol)
    {rows : List (List (List α))} (hrows : ∀ row ∈ rows, row ≠ [])
    (hfields : ∀ row ∈ rows, ∀ field ∈ row, sep ∉ field ∧ eol ∉ field) :
    parseRows sep eol (renderRows sep eol rows) = rows := by
  have hlines : ∀ line ∈ rows.map [sep].intercalate ++ [[]], eol ∉ line := by
    intro line hline heol
    rcases List.mem_append.mp hline with hline | hline
    · obtain ⟨row, hrow, rfl⟩ := List.mem_map.mp hline
      rcases mem_intercalate_singleton heol with heq | ⟨field, hfield, hmem⟩
      · exact hsep heq.symm
      · exact (hfields row hrow field hfield).2 hmem
    · obtain rfl := List.mem_singleton.mp hline
      cases heol
  have htext : renderRows sep eol rows =
      [eol].intercalate (rows.map [sep].intercalate ++ [[]]) := by
    rw [← flatMap_concat_eq_intercalate, List.flatMap_map]
    rfl
  rw [parseRows, htext, List.splitOn_intercalate eol hlines (by simp), List.dropLast_concat,
    List.map_map]
  calc
    rows.map ((fun line ↦ line.splitOn sep) ∘ [sep].intercalate) = rows.map id :=
      List.map_congr_left fun row hrow ↦ List.splitOn_intercalate sep
        (fun field hfield ↦ (hfields row hrow field hfield).1) (hrows row hrow)
    _ = rows := List.map_id rows

end Courtside
