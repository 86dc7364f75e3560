import Mathlib.Data.List.Perm.Basic

/-!
# The first match of two lists

`firstMatch r as bs` is what a nested search with an early return finds: for the first of
the `as` that is related to any of the `bs`, the first of these.

Three things can be done to the lists without changing what is found.  Both may be mapped by
functions that keep the relation (`firstMatch_map`), and the second may be repeated
(`firstMatch_flatten_replicate`).  They may not be permuted, as every match is the first one
in some order (`exists_perm_firstMatch`); only that there is one survives
(`isSome_firstMatch_perm`), and a view of the matches exactly if all matches look the same
to it (`firstMatch_view_iff`).
-/

universe u v w u' v'

namespace Courtside

variable {α : Type u} {β : Type v} {r : α → β → Bool} {as : List α} {bs : List β}

/-- The first of the second list that is related to the first of the first list to be related
to any. -/
def firstMatch (r : α → β → Bool) (as : List α) (bs : List β) : Option β :=
  as.findSome? fun a ↦ bs.find? (r a)

/-- What is found is a match. -/
theorem exists_of_firstMatch {b : β} (h : firstMatch r as bs = some b) :
    ∃ a ∈ as, b ∈ bs ∧ r a b = true := by
  obtain ⟨a, ha, hfound⟩ := List.exists_of_findSome?_eq_some h
  exact ⟨a, ha, List.mem_of_find?_eq_some hfound, List.find?_some hfound⟩

/-- Nothing is found if there is no match. -/
theorem firstMatch_eq_none_iff :
    firstMatch r as bs = none ↔ ∀ a ∈ as, ∀ b ∈ bs, r a b = false := by
  rw [firstMatch, List.findSome?_eq_none_iff]
  refine forall₂_congr fun a _ ↦ ?_
  rw [List.find?_eq_none]
  exact forall₂_congr fun b _ ↦ by rw [Bool.not_eq_true]

/-- Mapping both lists by functions that keep the relation maps what is found. -/
theorem firstMatch_map {α' : Type u'} {β' : Type v'} {r' : α' → β' → Bool} {f : α → α'} {g : β → β'}
    (h : ∀ a b, r' (f a) (g b) = r a b) :
    firstMatch r' (as.map f) (bs.map g) = (firstMatch r as bs).map g := by
  have hinner : ∀ a, (bs.map g).find? (r' (f a)) = (bs.find? (r a)).map g := by
    intro a
    rw [List.find?_map]
    congr 2
    funext b
    exact h a b
  induction as with
  | nil => rfl
  | cons a as ih =>
      rw [firstMatch, List.map_cons, List.findSome?_cons, hinner]
      rw [firstMatch] at ih
      rw [firstMatch, List.findSome?_cons]
      cases bs.find? (r a) with
      | none => exact ih
      | some b => rfl

/-- Copies of the second list change nothing, as long as there is one. -/
theorem firstMatch_flatten_replicate {n : ℕ} (hn : 0 < n) :
    firstMatch r as (List.replicate n bs).flatten = firstMatch r as bs := by
  rw [firstMatch, firstMatch]
  congr 1
  funext a
  rw [List.find?_flatten, List.findSome?_replicate_of_pos hn]

/-- **Every match is the first in some order.** -/
theorem exists_perm_firstMatch {a : α} {b : β} (ha : a ∈ as) (hb : b ∈ bs) (h : r a b = true) :
    ∃ as' bs', as.Perm as' ∧ bs.Perm bs' ∧ firstMatch r as' bs' = some b := by
  obtain ⟨as₁, as₂, rfl⟩ := List.append_of_mem ha
  obtain ⟨bs₁, bs₂, rfl⟩ := List.append_of_mem hb
  refine ⟨a :: (as₁ ++ as₂), b :: (bs₁ ++ bs₂), List.perm_middle, List.perm_middle, ?_⟩
  rw [firstMatch, List.findSome?_cons, List.find?_cons_of_pos h]

section View

variable {γ : Type w} {view : β → Option γ}

/-- Under the view, all matches look the same. -/
def MatchesAgree (r : α → β → Bool) (view : β → Option γ) (as : List α) (bs : List β) : Prop :=
  ∀ a ∈ as, ∀ b ∈ bs, ∀ a' ∈ as, ∀ b' ∈ bs, r a b = true → r a' b' = true → view b = view b'

/-- If there is a match in one order, there is one in every order. -/
theorem isSome_firstMatch_perm {as' : List α} {bs' : List β} (has : as.Perm as')
    (hbs : bs.Perm bs') : (firstMatch r as' bs').isSome = (firstMatch r as bs).isSome := by
  have hnone : firstMatch r as' bs' = none ↔ firstMatch r as bs = none := by
    simp only [firstMatch_eq_none_iff, has.mem_iff, hbs.mem_iff]
  rw [Bool.eq_iff_iff, ← Option.isSome_iff_ne_none.symm, ← Option.isSome_iff_ne_none.symm]
  exact not_congr hnone

/-- If all matches look the same, the order does not matter. -/
theorem MatchesAgree.firstMatch_perm (h : MatchesAgree r view as bs) {as' : List α} {bs' : List β}
    (has : as.Perm as') (hbs : bs.Perm bs') :
    (firstMatch r as' bs').bind view = (firstMatch r as bs).bind view := by
  have hsome := isSome_firstMatch_perm (r := r) has hbs
  cases hfound : firstMatch r as bs with
  | none =>
      rw [hfound, Option.isSome_none, Option.isSome_eq_false_iff,
        Option.isNone_iff_eq_none] at hsome
      rw [hsome]
  | some b =>
      rw [hfound, Option.isSome_some] at hsome
      obtain ⟨b', hfound'⟩ := Option.isSome_iff_exists.mp hsome
      obtain ⟨a, ha, hb, hab⟩ := exists_of_firstMatch hfound
      obtain ⟨a', ha', hb', hab'⟩ := exists_of_firstMatch hfound'
      rw [hfound', Option.bind_some, Option.bind_some]
      exact h a' (has.mem_iff.mpr ha') b' (hbs.mem_iff.mpr hb') a ha b hb hab' hab

/-- **Order.**  What is found looks the same in every order exactly if all matches do. -/
theorem firstMatch_view_iff :
    (∀ as' bs', as.Perm as' → bs.Perm bs' →
      (firstMatch r as' bs').bind view = (firstMatch r as bs).bind view) ↔
      MatchesAgree r view as bs := by
  constructor
  · intro h a ha b hb a' ha' b' hb' hab hab'
    obtain ⟨as₁, bs₁, has₁, hbs₁, hfirst⟩ := exists_perm_firstMatch ha hb hab
    obtain ⟨as₂, bs₂, has₂, hbs₂, hfirst'⟩ := exists_perm_firstMatch ha' hb' hab'
    have hsame := (h as₁ bs₁ has₁ hbs₁).trans (h as₂ bs₂ has₂ hbs₂).symm
    rw [hfirst, hfirst'] at hsame
    exact hsame
  · intro h as' bs' has hbs
    exact h.firstMatch_perm has hbs

end View

end Courtside
