import Mathlib.Data.List.TakeWhile

/-!
# File names

How `model_training_routes.py` and `model_training_logic.py` make up file names: an
upload is `<name>_<team><ext>`, a frame of a video `<stem>_frame_<k>` with the
extension of an image or a label.

Both are concatenations of parts which may themselves contain the separators, so
what can be read back from them depends on which parts cannot.  An extension has a
single dot, at its start (`splitext_ext`), and a frame number no underscore, which
makes frame names injective (`frameFilename_inj`).  Both come down to
`append_cons_inj_of_notMem_tail`.
-/

universe u

namespace Courtside

/-- Two lists cut at the last occurrence of an element. -/
theorem append_cons_inj_of_notMem_tail {α : Type u} [DecidableEq α] {x : α} {a b a' b' : List α}
    (hb : x ∉ b) (hb' : x ∉ b') (h : a ++ x :: b = a' ++ x :: b') : a = a' ∧ b = b' := by
  have cut : ∀ {a b : List α}, x ∉ b →
      (a ++ x :: b).reverse.takeWhile (fun c ↦ decide (c ≠ x)) = b.reverse := by
    intro a b hb
    have hreverse : (a ++ x :: b).reverse = b.reverse ++ x :: a.reverse := by simp
    rw [hreverse, List.takeWhile_append_of_pos, List.takeWhile_cons_of_neg (by simp),
      List.append_nil]
    intro c hc
    exact decide_eq_true fun hcx ↦ hb (hcx ▸ List.mem_reverse.mp hc)
  obtain rfl : b = b' := by
    rw [← List.reverse_inj, ← cut (a := a) hb, ← cut (a := a') hb', h]
  exact ⟨List.append_cancel_right h, rfl⟩

/-! ## Extensions -/

/-- `os.path.splitext`: the root and the extension, which starts at the last dot of
the last component unless only dots precede it there. -/
def splitext (p : String) : String × String :=
  let chars := p.toList.reverse
  let tail := chars.takeWhile fun c ↦ decide (c ≠ '.') && decide (c ≠ '/')
  match chars.drop tail.length with
  | '.' :: root =>
      if (root.takeWhile fun c ↦ decide (c ≠ '/')).any fun c ↦ decide (c ≠ '.') then
        (String.ofList root.reverse, String.ofList ('.' :: tail.reverse))
      else (p, "")
  | _ => (p, "")

example : splitext "clips/sam.v2.mov" = ("clips/sam.v2", ".mov") := by decide
example : splitext "clips.d/..mov" = ("clips.d/..mov", "") := by decide

/-- An extension is empty, or a dot followed by characters that are neither dots nor
separators. -/
theorem splitext_ext (p : String) :
    (splitext p).2 = "" ∨
      ∃ tail, (splitext p).2.toList = '.' :: tail ∧ '.' ∉ tail ∧ '/' ∉ tail := by
  unfold splitext
  dsimp only
  split
  · split
    · refine .inr ⟨_, String.toList_ofList, fun hmem ↦ ?_, fun hmem ↦ ?_⟩
      all_goals
        have hchar := List.mem_takeWhile_imp (List.mem_reverse.mp hmem)
        simp at hchar
    · exact .inl rfl
  · exact .inl rfl

/-- An extension is split off what it was put after. -/
theorem splitext_append {root tail : List Char} (hdot : '.' ∉ tail) (hsep : '/' ∉ tail)
    (hroot : (root.reverse.takeWhile fun c ↦ decide (c ≠ '/')).any
      (fun c ↦ decide (c ≠ '.')) = true) :
    splitext (String.ofList (root ++ '.' :: tail)) =
      (String.ofList root, String.ofList ('.' :: tail)) := by
  have hreverse : (String.ofList (root ++ '.' :: tail)).toList.reverse =
      tail.reverse ++ '.' :: root.reverse := by simp
  have hstop : ∀ c ∈ tail.reverse, (decide (c ≠ '.') && decide (c ≠ '/')) = true := by
    intro c hc
    have hmem := List.mem_reverse.mp hc
    have hne : c ≠ '.' := fun heq ↦ hdot (heq ▸ hmem)
    have hne' : c ≠ '/' := fun heq ↦ hsep (heq ▸ hmem)
    simp [hne, hne']
  have htail : (tail.reverse ++ '.' :: root.reverse).takeWhile
      (fun c ↦ decide (c ≠ '.') && decide (c ≠ '/')) = tail.reverse := by
    rw [List.takeWhile_append_of_pos hstop, List.takeWhile_cons_of_neg (by simp),
      List.append_nil]
  rw [splitext, hreverse, htail, List.drop_left]
  refine (if_pos hroot).trans ?_
  rw [List.reverse_reverse, List.reverse_reverse]

/-- The file's name without its extension. -/
def stem (video : String) : String := (splitext video).1

/-- `f.endswith(('.mp4', '.avi', '.mov'))`. -/
def isVideo (f : String) : Bool :=
  [".mp4", ".avi", ".mov"].any fun ext ↦ ext.toList.isSuffixOf f.toList

/-! ## Uploads and frames -/

/-- `f"{player_name}_{player_team}{ext}"`. -/
def newFilename (playerName playerTeam ext : String) : String :=
  playerName ++ "_" ++ playerTeam ++ ext

/-- `f"{person_name}_frame_{frame_id}"` with an extension. -/
def frameFilename (personName : String) (frameId : ℕ) (ext : String) : String :=
  personName ++ "_frame_" ++ toString frameId ++ ext

/-- **Frame names.**  The name of a frame determines its video and its number. -/
theorem frameFilename_inj {personName personName' : String} {frameId frameId' : ℕ} {ext : String}
    (h : frameFilename personName frameId ext = frameFilename personName' frameId' ext) :
    personName = personName' ∧ frameId = frameId' := by
  have hchars : ∀ (p : String) (k : ℕ), (frameFilename p k ext).toList =
      (p.toList ++ "_frame".toList) ++ '_' :: Nat.toDigits 10 k ++ ext.toList := by
    intro p k
    simp [frameFilename]
  have hlist := congrArg String.toList h
  rw [hchars, hchars] at hlist
  obtain ⟨hname, hdigits⟩ := append_cons_inj_of_notMem_tail Nat.underscore_not_in_toDigits
    Nat.underscore_not_in_toDigits (List.append_cancel_right hlist)
  refine ⟨String.toList_inj.mp (List.append_cancel_right hname), ?_⟩
  calc
    frameId = Nat.ofDigitChars 10 (Nat.toDigits 10 frameId) 0 :=
      Nat.ofDigitChars_ten_toDigits.symm
    _ = Nat.ofDigitChars 10 (Nat.toDigits 10 frameId') 0 := by rw [hdigits]
    _ = frameId' := Nat.ofDigitChars_ten_toDigits

end Courtside
