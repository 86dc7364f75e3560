import Mathlib.Data.List.Basic
import Mathlib.Data.List.Range

/-!
# Sliding windows over a list

A *sliding-window detector* reads a list once.  It keeps the last `w` elements,
summarises them by a `view`, and at every new element compares the summary
before with the summary after; the comparison may emit something.  `slide` is
that program, with its popped-and-appended window and its remembered previous
summary.

`slide_eq` removes both accumulators: what is emitted at index `i` is a function
of the two windows of the input ending at `i - 1` and at `i`, so the output is a
`filterMap` over the indices from `w` on.  Three consequences are used later:

* `slide_append_overlap`: cutting the input at `k` and restarting `w` elements
  earlier emits the same things, so a list can be processed in chunks that
  overlap by exactly one window;
* `slide_onChange_eq_iff`: comparing summaries only if they differ (`onChange`) is a shortcut
  exactly if equal ones emit nothing;
* `within_rises_iff` and `within_falls_iff`: when the summary is the disjunction
  of a flag over the window, its rising and falling edges are statements about
  the flags themselves.
-/

universe u v w

namespace Courtside.SlidingWindow

variable {σ : Type u} {α : Type v} {ε : Type w}

/-! ## Windows of a list -/

/-- The window of `w` consecutive elements of `xs` which ends at index `i`. -/
def windowAt (xs : List σ) (w i : ℕ) : List σ := (xs.drop (i + 1 - w)).take w

/-- The first window is a prefix. -/
theorem windowAt_pred_self (xs : List σ) {w : ℕ} (hw : 1 ≤ w) :
    windowAt xs w (w - 1) = xs.take w := by
  rw [windowAt, show w - 1 + 1 - w = 0 by omega, List.drop_zero]

/-- Popping the oldest element and appending the next one moves the window on. -/
theorem windowAt_slide {xs : List σ} {w i : ℕ} (hw : 1 ≤ w) (hwi : w ≤ i)
    (hi : i < xs.length) :
    (windowAt xs w (i - 1)).tail ++ [xs[i]] = windowAt xs w i := by
  have hlen : w - 1 < (xs.drop (i + 1 - w)).length := by rw [List.length_drop]; omega
  have hlast : (xs.drop (i + 1 - w))[w - 1] = xs[i] := by
    rw [List.getElem_drop]
    congr 1
    omega
  rw [windowAt, windowAt, show i - 1 + 1 - w = i - w by omega, ← List.drop_one,
    List.drop_take, List.drop_drop, show i - w + 1 = i + 1 - w by omega, ← hlast,
    List.take_append_getElem hlen, show w - 1 + 1 = w by omega]

/-- The newest element of a window. -/
theorem getLast?_windowAt {xs : List σ} {w i : ℕ} (hw : 1 ≤ w) (hwi : w ≤ i + 1)
    (hi : i < xs.length) : (windowAt xs w i).getLast? = xs[i]? := by
  have hlen : (windowAt xs w i).length = w := by
    rw [windowAt, List.length_take, List.length_drop]
    omega
  rw [List.getLast?_eq_getElem?, hlen, windowAt,
    List.getElem?_take_of_lt (by omega), List.getElem?_drop]
  congr 1
  omega

/-- Membership in a window, by index. -/
theorem mem_windowAt {xs : List σ} {w i : ℕ} (hwi : w ≤ i + 1) {x : σ} :
    x ∈ windowAt xs w i ↔ ∃ j, i + 1 - w ≤ j ∧ j < i + 1 ∧ xs[j]? = some x := by
  rw [windowAt, List.mem_iff_getElem?]
  constructor
  · rintro ⟨k, hk⟩
    have hkw : k < w := by
      by_contra hle
      rw [List.getElem?_take, if_neg hle] at hk
      cases hk
    rw [List.getElem?_take_of_lt hkw, List.getElem?_drop] at hk
    exact ⟨i + 1 - w + k, by omega, by omega, hk⟩
  · rintro ⟨j, hlo, hhi, hj⟩
    refine ⟨j - (i + 1 - w), ?_⟩
    rw [List.getElem?_take_of_lt (by omega), List.getElem?_drop,
      show i + 1 - w + (j - (i + 1 - w)) = j by omega, hj]

/-- A window inside a prefix is a window of the whole. -/
theorem windowAt_take (xs : List σ) {w i k : ℕ} (hwi : w ≤ i + 1) (hi : i < k) :
    windowAt (xs.take k) w i = windowAt xs w i := by
  rw [windowAt, windowAt, List.drop_take, List.take_take,
    show min w (k - (i + 1 - w)) = w by omega]

/-- A window of a suffix is a window of the whole, further on. -/
theorem windowAt_drop (xs : List σ) {w j : ℕ} (m : ℕ) (hwj : w ≤ j + 1) :
    windowAt (xs.drop m) w j = windowAt xs w (j + m) := by
  rw [windowAt, windowAt, List.drop_drop, show m + (j + 1 - w) = j + m + 1 - w by omega]

/-! ## The detector -/

/-- The detector's loop: the elements still to read, the index of the first of
them, the window and the summary before it. -/
def slideFrom (view : List σ → α) (emit : ℕ → α → α → Option ε) :
    List σ → ℕ → List σ → α → List ε
  | [], _, _, _ => []
  | x :: xs, i, win, prev =>
      let win := win.tail ++ [x]
      (emit i prev (view win)).toList ++ slideFrom view emit xs (i + 1) win (view win)

/-- The detector: the first `w` elements fill the window, the others are
compared. -/
def slide (view : List σ → α) (emit : ℕ → α → α → Option ε) (w : ℕ) (xs : List σ) : List ε :=
  if xs.length < w then [] else slideFrom view emit (xs.drop w) w (xs.take w) (view (xs.take w))

/-- What the detector emits at index `i`, read off the input. -/
def emitAt (view : List σ → α) (emit : ℕ → α → α → Option ε) (w : ℕ) (xs : List σ) (i : ℕ) :
    Option ε :=
  emit i (view (windowAt xs w (i - 1))) (view (windowAt xs w i))

section

variable (view : List σ → α) (emit : ℕ → α → α → Option ε)

/-- The loop invariant: at index `i` the window is the one ending just before
`i`, and what is still emitted is determined by the indices from `i` on. -/
theorem slideFrom_windowAt {xs : List σ} {w : ℕ} (hw : 1 ≤ w) :
    ∀ {m i : ℕ}, w ≤ i → i + m = xs.length →
      slideFrom view emit (xs.drop i) i (windowAt xs w (i - 1)) (view (windowAt xs w (i - 1))) =
        (List.range' i m).filterMap (emitAt view emit w xs) := by
  intro m
  induction m with
  | zero =>
      intro i _ hlen
      rw [List.drop_eq_nil_of_le (by omega)]
      rfl
  | succ m ih =>
      intro i hwi hlen
      have hi : i < xs.length := by omega
      have hrest := ih (i := i + 1) (by omega) (by omega)
      rw [Nat.add_sub_cancel] at hrest
      rw [List.drop_eq_getElem_cons hi, slideFrom, windowAt_slide hw hwi hi, hrest,
        List.range'_succ, List.filterMap_cons]
      change (emitAt view emit w xs i).toList ++ _ = _
      cases emitAt view emit w xs i <;> rfl

/-- **The detector without its accumulators**: its output is a `filterMap` over
the indices from `w` on. -/
theorem slide_eq {xs : List σ} {w : ℕ} (hw : 1 ≤ w) :
    slide view emit w xs =
      (List.range' w (xs.length - w)).filterMap (emitAt view emit w xs) := by
  by_cases hlen : xs.length < w
  · rw [slide, if_pos hlen, show xs.length - w = 0 by omega]
    rfl
  · rw [slide, if_neg hlen, ← windowAt_pred_self xs hw]
    exact slideFrom_windowAt view emit hw (le_refl w) (by omega)

/-- Relabelling what is emitted relabels the output. -/
theorem slide_map {emit' : ℕ → α → α → Option ε} {f : ε → ε} (xs : List σ) {w : ℕ} (hw : 1 ≤ w)
    (h : ∀ i a b, emit' i a b = (emit i a b).map f) :
    slide view emit' w xs = (slide view emit w xs).map f := by
  rw [slide_eq view emit' hw, slide_eq view emit hw, List.map_filterMap]
  exact List.filterMap_congr fun i _ ↦ h i _ _

/-- **Chunking.**  Processing a list is processing the prefix up to `k` and then
the suffix which starts one window before `k`, with indices counted from the
start of the suffix. -/
theorem slide_append_overlap {xs : List σ} {w k : ℕ} (hw : 1 ≤ w) (hwk : w ≤ k)
    (hk : k ≤ xs.length) :
    slide view emit w xs =
      slide view emit w (xs.take k) ++
        slide view (fun j ↦ emit (j + (k - w))) w (xs.drop (k - w)) := by
  rw [slide_eq view emit hw, slide_eq view emit hw, slide_eq view _ hw,
    List.length_take_of_le hk, List.length_drop,
    show xs.length - w = (k - w) + (xs.length - k) by omega, ← List.range'_append_1,
    List.filterMap_append, show w + (k - w) = (k - w) + w by omega,
    show xs.length - (k - w) - w = xs.length - k by omega]
  congr 1
  · refine List.filterMap_congr fun i hi ↦ ?_
    obtain ⟨hlo, hhi⟩ := List.mem_range'_1.mp hi
    rw [emitAt, emitAt, windowAt_take xs (by omega) (by omega),
      windowAt_take xs (by omega) (by omega)]
  · rw [← List.map_add_range', List.filterMap_map]
    refine List.filterMap_congr fun j hj ↦ ?_
    obtain ⟨hlo, -⟩ := List.mem_range'_1.mp hj
    rw [Function.comp_apply, emitAt, emitAt, windowAt_drop xs _ (by omega),
      windowAt_drop xs _ (by omega), show (k - w) + j = j + (k - w) by omega,
      show j + (k - w) - 1 = j - 1 + (k - w) by omega]

end

/-! ## A guard on the summary -/

section

variable [DecidableEq α] (view : List σ → α) (emit : ℕ → α → α → Option ε)

/-- Compare summaries only if they differ. -/
def onChange (i : ℕ) (prev curr : α) : Option ε := if curr = prev then none else emit i prev curr

/-- The summary has not changed at index `i`. -/
def Unchanged (w : ℕ) (xs : List σ) (i : ℕ) : Prop :=
  view (windowAt xs w i) = view (windowAt xs w (i - 1))

instance (w : ℕ) (xs : List σ) : DecidablePred (Unchanged view w xs) := fun i ↦
  inferInstanceAs (Decidable (view (windowAt xs w i) = view (windowAt xs w (i - 1))))

theorem emitAt_onChange (w : ℕ) (xs : List σ) (i : ℕ) :
    emitAt view (onChange emit) w xs i =
      if Unchanged view w xs i then none else emitAt view emit w xs i := rfl

/-- The guard leaves out the indices at which the summary has not changed. -/
theorem slide_onChange {xs : List σ} {w : ℕ} (hw : 1 ≤ w) :
    slide view (onChange emit) w xs =
      ((List.range' w (xs.length - w)).filter fun i ↦ ¬Unchanged view w xs i).filterMap
        (emitAt view emit w xs) := by
  rw [slide_eq view (onChange emit) hw, List.filterMap_filter]
  apply List.filterMap_congr
  intro i _
  rw [emitAt_onChange]
  by_cases hsame : Unchanged view w xs i
  · rw [if_pos hsame, if_neg (by simpa using hsame)]
  · rw [if_neg hsame, if_pos (by simpa using hsame)]

/-- The guard only leaves things out. -/
theorem slide_onChange_sublist {xs : List σ} {w : ℕ} (hw : 1 ≤ w) :
    (slide view (onChange emit) w xs).Sublist (slide view emit w xs) := by
  rw [slide_onChange view emit hw, slide_eq view emit hw]
  exact List.filter_sublist.filterMap _

/-- What is never emitted for equal summaries is not left out. -/
theorem filter_slide_onChange {keep : ε → Bool} {xs : List σ} {w : ℕ} (hw : 1 ≤ w)
    (h : ∀ i a e, emit i a a = some e → keep e = false) :
    (slide view (onChange emit) w xs).filter keep = (slide view emit w xs).filter keep := by
  rw [slide_onChange view emit hw, slide_eq view emit hw, List.filterMap_filter,
    List.filter_filterMap, List.filter_filterMap]
  apply List.filterMap_congr
  intro i _
  by_cases hsame : Unchanged view w xs i
  · rw [if_neg (by simpa using hsame), emitAt]
    cases hemit : emit i (view (windowAt xs w (i - 1))) (view (windowAt xs w i)) with
    | none => rfl
    | some e =>
        rw [hsame] at hemit
        rw [Option.filter_some, h i _ e hemit]
        rfl
  · rw [if_pos (by simpa using hsame)]

/-- What a filter takes away is not missed exactly if it contributes nothing. -/
theorem filterMap_filter_eq_iff {p : σ → Bool} {f : σ → Option ε} {xs : List σ} :
    (xs.filter p).filterMap f = xs.filterMap f ↔ ∀ x ∈ xs, p x = false → f x = none := by
  induction xs with
  | nil => simp
  | cons x xs ih =>
      rw [List.forall_mem_cons]
      have hle := (List.filter_sublist (l := xs) (p := p)).filterMap f
      by_cases hp : p x = true
      · rw [List.filter_cons_of_pos hp]
        cases hf : f x with
        | none =>
            rw [List.filterMap_cons_none hf, List.filterMap_cons_none hf]
            exact ih.trans (by simp)
        | some e =>
            rw [List.filterMap_cons_some hf, List.filterMap_cons_some hf, List.cons.injEq]
            simpa [hp] using ih
      · rw [List.filter_cons_of_neg hp]
        cases hf : f x with
        | none =>
            rw [List.filterMap_cons_none hf]
            exact ih.trans (by simp)
        | some e =>
            rw [List.filterMap_cons_some hf]
            constructor
            · intro heq
              have hlength := hle.length_le
              rw [heq, List.length_cons] at hlength
              omega
            · intro h
              exact absurd (h.1 (Bool.eq_false_iff.mpr hp)) (by simp)

/-- **The guard is a shortcut** exactly if equal summaries emit nothing. -/
theorem slide_onChange_eq_iff {xs : List σ} {w : ℕ} (hw : 1 ≤ w) :
    slide view (onChange emit) w xs = slide view emit w xs ↔
      ∀ i, w ≤ i → i < xs.length → Unchanged view w xs i → emitAt view emit w xs i = none := by
  have hindex : (∀ i, w ≤ i → i < xs.length → Unchanged view w xs i →
        emitAt view emit w xs i = none) ↔
      ∀ i ∈ List.range' w (xs.length - w), Unchanged view w xs i →
        emitAt view emit w xs i = none := by
    apply forall_congr'
    intro i
    rw [List.mem_range'_1]
    constructor
    · intro h hi
      exact h hi.1 (by omega)
    · intro h hlo hhi
      exact h ⟨hlo, by omega⟩
  rw [slide_onChange view emit hw, slide_eq view emit hw, hindex]
  refine filterMap_filter_eq_iff.trans (forall₂_congr fun i _ ↦ ?_)
  simp

end

/-! ## Edges of a windowed disjunction -/

/-- The flag `s` holds at some index in `[lo, hi)`. -/
def Within (s : ℕ → Prop) (lo hi : ℕ) : Prop := ∃ j, lo ≤ j ∧ j < hi ∧ s j

instance {s : ℕ → Prop} [DecidablePred s] {lo hi : ℕ} : Decidable (Within s lo hi) :=
  decidable_of_iff (∃ j < hi, lo ≤ j ∧ s j)
    ⟨fun ⟨j, hhi, hlo, hj⟩ ↦ ⟨j, hlo, hhi, hj⟩, fun ⟨j, hlo, hhi, hj⟩ ↦ ⟨j, hhi, hlo, hj⟩⟩

/-- A windowed disjunction rises at `i` exactly if the flag holds at `i` and did
not hold anywhere in the window before. -/
theorem within_rises_iff {s : ℕ → Prop} {w i : ℕ} (hw : 1 ≤ w) :
    ¬Within s (i - w) i ∧ Within s (i + 1 - w) (i + 1) ↔ s i ∧ ¬Within s (i - w) i := by
  constructor
  · rintro ⟨hno, j, hlo, hhi, hj⟩
    have hji : j = i := by
      by_contra hne
      exact hno ⟨j, by omega, by omega, hj⟩
    exact ⟨hji ▸ hj, hno⟩
  · rintro ⟨hi, hno⟩
    exact ⟨hno, i, by omega, by omega, hi⟩

/-- A windowed disjunction falls at `i` exactly if the flag held at the index
which leaves the window and holds nowhere in the new window. -/
theorem within_falls_iff {s : ℕ → Prop} {w i : ℕ} (hw : 1 ≤ w) (hwi : w ≤ i) :
    Within s (i - w) i ∧ ¬Within s (i + 1 - w) (i + 1) ↔
      s (i - w) ∧ ¬Within s (i + 1 - w) (i + 1) := by
  constructor
  · rintro ⟨⟨j, hlo, hhi, hj⟩, hno⟩
    have hji : j = i - w := by
      by_contra hne
      exact hno ⟨j, by omega, by omega, hj⟩
    exact ⟨hji ▸ hj, hno⟩
  · rintro ⟨hi, hno⟩
    exact ⟨⟨i - w, le_refl _, by omega, hi⟩, hno⟩

end Courtside.SlidingWindow
