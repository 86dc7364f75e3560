import Mathlib.Data.List.Basic
import Mathlib.Data.List.Infix

/-!
# Splitting at a delimiter

A text is split at each occurrence of a delimiter, from left to right.  The pieces can be
joined again (`intercalate_pieces`), but they are the parts that were joined only if no
occurrence begins in a part: neither inside it, nor in a way that it runs on into the
delimiter that follows.

Where the first symbol of the delimiter does not recur in it, the second does not happen,
because an occurrence that runs on into another would have that symbol where the other
begins (`pieces_append_delimiter`).
-/

universe u

namespace Courtside

variable {α : Type u}

section Pieces

variable [DecidableEq α]

/-- The pieces of a text whose first symbols, so many, are part of a delimiter. -/
def piecesAfter (delimiter : List α) : ℕ → List α → List (List α)
  | _, [] => [[]]
  | 0, a :: text =>
      if delimiter <+: a :: text then [] :: piecesAfter delimiter (delimiter.length - 1) text
      else (piecesAfter delimiter 0 text).modifyHead (a :: ·)
  | n + 1, _ :: text => piecesAfter delimiter n text

/-- The pieces of a text. -/
def pieces (delimiter text : List α) : List (List α) := piecesAfter delimiter 0 text

variable {delimiter : List α}

theorem piecesAfter_eq (n : ℕ) (text : List α) :
    piecesAfter delimiter n text = pieces delimiter (text.drop n) := by
  induction text generalizing n with
  | nil =>
      rw [List.drop_nil]
      cases n <;> rfl
  | cons a text ih =>
      cases n with
      | zero => rfl
      | succ n => exact ih n

theorem pieces_delimiter_append (hne : delimiter ≠ []) (text : List α) :
    pieces delimiter (delimiter ++ text) = [] :: pieces delimiter text := by
  obtain ⟨a, rest, rfl⟩ := List.exists_cons_of_ne_nil hne
  have hstarts : a :: rest <+: a :: (rest ++ text) :=
    List.cons_prefix_cons.mpr ⟨rfl, List.prefix_append rest text⟩
  rw [pieces, List.cons_append, piecesAfter, if_pos hstarts, piecesAfter_eq]
  simp

theorem pieces_cons {a : α} {text : List α} (h : ¬ delimiter <+: a :: text) :
    pieces delimiter (a :: text) = (pieces delimiter text).modifyHead (a :: ·) := by
  rw [pieces, piecesAfter, if_neg h]
  rfl

theorem pieces_nil : pieces delimiter [] = [[]] := rfl

theorem pieces_ne_nil (text : List α) : pieces delimiter text ≠ [] := by
  cases text with
  | nil => exact List.cons_ne_nil _ _
  | cons a text =>
      rw [pieces, piecesAfter]
      split
      · exact List.cons_ne_nil _ _
      · exact fun hnil ↦ pieces_ne_nil text (List.modifyHead_eq_nil_iff.mp hnil)

/-- A text without the delimiter is one piece. -/
theorem pieces_of_not_infix {text : List α} (h : ¬ delimiter <:+: text) :
    pieces delimiter text = [text] := by
  induction text with
  | nil => rfl
  | cons a text ih =>
      rw [pieces_cons fun hstarts ↦ h hstarts.isInfix,
        ih fun hoccurs ↦ h (hoccurs.trans (List.suffix_cons a text).isInfix)]
      rfl

/-- **One piece.**  A part that does not contain the delimiter is cut off where it ends. -/
theorem pieces_append_delimiter {c : α} {rest part : List α} (hhead : c ∉ rest)
    (h : ¬ c :: rest <:+: part) (text : List α) :
    pieces (c :: rest) (part ++ (c :: rest ++ text)) = part :: pieces (c :: rest) text := by
  induction part with
  | nil => exact pieces_delimiter_append (List.cons_ne_nil c rest) text
  | cons a part ih =>
      have hstart : ¬ c :: rest <+: a :: (part ++ (c :: rest ++ text)) := by
        intro hstarts
        rcases List.prefix_or_prefix_of_prefix hstarts
          (List.prefix_append (a :: part) (c :: rest ++ text)) with hinside | ⟨overlap, hover⟩
        · exact h hinside.isInfix
        · -- the delimiter begins in the part and ends after it
          cases overlap with
          | nil => exact h ((List.append_nil (a :: part)).symm.trans hover ▸ List.infix_rfl)
          | cons b overlap =>
              obtain ⟨rfl, htail⟩ := List.cons.inj hover
              rw [← hover, ← List.cons_append, List.prefix_append_right_inj] at hstarts
              obtain ⟨rfl, -⟩ := List.cons_prefix_cons.mp hstarts
              exact hhead (htail ▸ List.mem_append_right part List.mem_cons_self)
      rw [List.cons_append, pieces_cons hstart,
        ih fun hoccurs ↦ h (hoccurs.trans (List.suffix_cons a part).isInfix)]
      rfl

/-- Parts that do not contain the delimiter, each after one. -/
theorem pieces_flatMap {c : α} {rest part : List α} {parts : List (List α)} (hhead : c ∉ rest)
    (hpart : ¬ c :: rest <:+: part) (hparts : ∀ part ∈ parts, ¬ c :: rest <:+: part) :
    pieces (c :: rest) (part ++ parts.flatMap (c :: rest ++ ·)) = part :: parts := by
  induction parts generalizing part with
  | nil =>
      rw [List.flatMap_nil, List.append_nil]
      exact pieces_of_not_infix hpart
  | cons next parts ih =>
      obtain ⟨hnext, hparts⟩ := List.forall_mem_cons.mp hparts
      rw [List.flatMap_cons, List.append_assoc, pieces_append_delimiter hhead hpart,
        ih hnext hparts]

/-- A text before the first symbol of a delimiter stays in one piece. -/
theorem pieces_append_of_notMem {c : α} {rest start : List α} (h : c ∉ start) (text : List α) :
    pieces (c :: rest) (start ++ text) =
      (pieces (c :: rest) text).modifyHead (start ++ ·) := by
  induction start with
  | nil =>
      cases hpieces : pieces (c :: rest) text with
      | nil => exact absurd hpieces (pieces_ne_nil text)
      | cons piece others => rw [List.nil_append, hpieces]; rfl
  | cons a start ih =>
      obtain ⟨hne, hrest⟩ := List.ne_and_not_mem_of_not_mem_cons h
      have hstart : ¬ c :: rest <+: a :: (start ++ text) :=
        fun hstarts ↦ hne (List.cons_prefix_cons.mp hstarts).1
      rw [List.cons_append, pieces_cons hstart, ih hrest, List.modifyHead_modifyHead]
      rfl

/-- The first piece ends where a delimiter begins, or before. -/
theorem prefix_of_head?_pieces (hne : delimiter ≠ []) {part text piece : List α}
    (h : (pieces delimiter (part ++ (delimiter ++ text))).head? = some piece) :
    piece <+: part := by
  induction part generalizing piece with
  | nil =>
      rw [List.nil_append, pieces_delimiter_append hne] at h
      cases h
      exact List.prefix_rfl
  | cons a part ih =>
      by_cases hstart : delimiter <+: a :: (part ++ (delimiter ++ text))
      · rw [List.cons_append, pieces, piecesAfter, if_pos hstart] at h
        cases h
        exact List.nil_prefix
      · rw [List.cons_append, pieces_cons hstart] at h
        obtain ⟨first, others, heq⟩ :=
          List.exists_cons_of_ne_nil (pieces_ne_nil (part ++ (delimiter ++ text)))
        rw [heq] at h
        cases h
        refine List.cons_prefix_cons.mpr ⟨rfl, ih ?_⟩
        rw [heq]
        rfl

omit [DecidableEq α] in
theorem intercalate_modifyHead (a : α) {parts : List (List α)} (hne : parts ≠ []) :
    delimiter.intercalate (parts.modifyHead (a :: ·)) = a :: delimiter.intercalate parts := by
  obtain ⟨part, others, rfl⟩ := List.exists_cons_of_ne_nil hne
  rw [List.modifyHead_cons]
  by_cases hothers : others = []
  · rw [hothers, List.intercalate_singleton, List.intercalate_singleton]
  · rw [List.intercalate_cons_of_ne_nil hothers, List.intercalate_cons_of_ne_nil hothers]
    rfl

/-- **Joining.**  The pieces are those of the text. -/
theorem intercalate_pieces (hne : delimiter ≠ []) (text : List α) :
    delimiter.intercalate (pieces delimiter text) = text := by
  have hafter : ∀ n, delimiter.intercalate (piecesAfter delimiter n text) = text.drop n := by
    induction text with
    | nil =>
        intro n
        rw [piecesAfter_eq, List.drop_nil, pieces_nil, List.intercalate_singleton]
    | cons a text ih =>
        intro n
        cases n with
        | succ n => exact ih n
        | zero =>
            rw [piecesAfter]
            split
            · next hstarts =>
                rw [List.intercalate_cons_of_ne_nil (piecesAfter_eq _ text ▸ pieces_ne_nil _), ih]
                obtain ⟨b, rest, rfl⟩ := List.exists_cons_of_ne_nil hne
                obtain ⟨rfl, after, rfl⟩ := List.cons_prefix_cons.mp hstarts
                simp
            · rw [intercalate_modifyHead a (piecesAfter_eq 0 text ▸ pieces_ne_nil _), ih 0]
              rfl
  exact hafter 0

end Pieces

/-! ## Occurrences -/

/-- A symbol that does not occur in a sequence separates its occurrences. -/
theorem not_infix_append_cons {c : α} {word left right : List α} (hc : c ∉ word)
    (hleft : ¬ word <:+: left) (hright : ¬ word <:+: right) :
    ¬ word <:+: left ++ c :: right := by
  intro hoccurs
  rcases List.infix_append_iff.mp hoccurs with hin | hin | ⟨start, stop, rfl, hstart, hstop⟩
  · exact hleft hin
  · rcases List.infix_cons_iff.mp hin with hstarts | hin
    · cases word with
      | nil => exact hleft List.nil_infix
      | cons b word =>
          obtain ⟨rfl, -⟩ := List.cons_prefix_cons.mp hstarts
          exact hc List.mem_cons_self
    · exact hright hin
  · cases stop with
    | nil => exact hleft (by simpa using hstart.isInfix)
    | cons b stop =>
        obtain ⟨rfl, -⟩ := List.cons_prefix_cons.mp hstop
        exact hc (List.mem_append_right start List.mem_cons_self)

end Courtside
