import Courtside.Data.JsonString
import Mathlib.Data.List.TakeWhile

/-!
# Numbers in JSON

The tokens of numbers: an integer has digits and perhaps a sign, and a floating-point number
has a fraction or an exponent besides.  How floating-point numbers are written and read is
given by a `FloatFormat`, which knows that what it writes is such a token and reads it back.

A token is read as far as its characters go, so what follows a number may not begin with one
(`Delimited`).  Integers need no format (`readInt_toString`).
-/

namespace Courtside

/-! ## Tokens -/

/-- The characters of a number. -/
def isNumberChar (c : Char) : Bool := c.isDigit || "+-.eE".toList.contains c

def isSignOrDigit (c : Char) : Bool := c.isDigit || c = '-'

/-- Digits without a leading zero. -/
def isNatToken : List Char → Bool
  | [] => false
  | c :: cs => cs.all Char.isDigit && (if c = '0' then cs.isEmpty else c.isDigit)

def isIntToken : List Char → Bool
  | [] => false
  | c :: cs => if c = '-' then isNatToken cs else isNatToken (c :: cs)

/-- `[eE][-+]?\d+` -/
def isExponent : List Char → Bool
  | [] => false
  | c :: cs =>
      let digits := if cs.head?.any (fun sign ↦ sign = '+' || sign = '-') then cs.tail else cs
      (c = 'e' || c = 'E') && !digits.isEmpty && digits.all Char.isDigit

/-- `(\.\d+)?([eE][-+]?\d+)?`, but not empty. -/
def isFraction : List Char → Bool
  | [] => false
  | c :: cs =>
      if c = '.' then
        let exponent := cs.dropWhile Char.isDigit
        cs.head?.any Char.isDigit && (exponent.isEmpty || isExponent exponent)
      else isExponent (c :: cs)

/-- A number with a fraction or an exponent. -/
def isFloatToken (cs : List Char) : Bool :=
  isIntToken (cs.takeWhile isSignOrDigit) && isFraction (cs.dropWhile isSignOrDigit)

/-- How floating-point numbers are written and read. -/
structure FloatFormat (F : Type) where
  repr : F → List Char
  read : List Char → Option F
  isFloatToken_repr : ∀ x, isFloatToken (repr x) = true
  read_repr : ∀ x, read (repr x) = some x

def readInt : List Char → ℤ
  | [] => 0
  | c :: cs =>
      if c = '-' then -(Nat.ofDigitChars 10 cs 0 : ℕ) else (Nat.ofDigitChars 10 (c :: cs) 0 : ℕ)

/-! ## Reading tokens -/

/-- What may follow a number. -/
def Delimited (rest : List Char) : Prop := ∀ c ∈ rest.head?, isNumberChar c = false

theorem delimited_cons {c : Char} (h : isNumberChar c = false) (rest : List Char) :
    Delimited (c :: rest) := by
  rintro d hd
  obtain rfl : c = d := Option.some.inj hd
  exact h

/-- A token ends where its characters do. -/
theorem takeWhile_token {token rest : List Char} (htoken : ∀ c ∈ token, isNumberChar c = true)
    (hrest : Delimited rest) :
    (token ++ rest).takeWhile isNumberChar = token ∧
      (token ++ rest).dropWhile isNumberChar = rest := by
  rw [List.takeWhile_append_of_pos htoken, List.dropWhile_append_of_pos htoken]
  cases rest with
  | nil => exact ⟨List.append_nil _, rfl⟩
  | cons c rest =>
      have hc : ¬ isNumberChar c = true := by simp [hrest c rfl]
      rw [List.takeWhile_cons_of_neg hc, List.dropWhile_cons_of_neg hc, List.append_nil]
      exact ⟨rfl, rfl⟩

theorem isNumberChar_of_isDigit {c : Char} (h : c.isDigit = true) : isNumberChar c = true := by
  rw [isNumberChar, h, Bool.true_or]

section Tokens

variable {token : List Char}

theorem isDigit_of_isNatToken (h : isNatToken token = true) : ∀ c ∈ token, c.isDigit = true := by
  cases token with
  | nil => cases h
  | cons c cs =>
      rw [isNatToken, Bool.and_eq_true, List.all_eq_true] at h
      obtain ⟨hcs, hc⟩ := h
      refine List.forall_mem_cons.mpr ⟨?_, hcs⟩
      split at hc
      · next heq => rw [heq]; rfl
      · exact hc

theorem isSignOrDigit_of_isIntToken (h : isIntToken token = true) :
    ∀ c ∈ token, isSignOrDigit c = true := by
  have hdigits {cs : List Char} (hcs : isNatToken cs = true) :
      ∀ c ∈ cs, isSignOrDigit c = true := by
    intro c hc
    rw [isSignOrDigit, isDigit_of_isNatToken hcs c hc, Bool.true_or]
  cases token with
  | nil => cases h
  | cons c cs =>
      rw [isIntToken] at h
      split at h
      · next heq => exact List.forall_mem_cons.mpr ⟨by rw [heq]; rfl, hdigits h⟩
      · exact hdigits h

theorem isNumberChar_of_isSignOrDigit {c : Char} (h : isSignOrDigit c = true) :
    isNumberChar c = true := by
  rcases (Bool.or_eq_true _ _).mp h with h | h
  · exact isNumberChar_of_isDigit h
  · rw [of_decide_eq_true h]
    rfl

theorem isNumberChar_of_isExponent (h : isExponent token = true) :
    ∀ c ∈ token, isNumberChar c = true := by
  cases token with
  | nil => cases h
  | cons c cs =>
      simp only [isExponent, Bool.and_eq_true, List.all_eq_true] at h
      obtain ⟨⟨hc, -⟩, hdigits⟩ := h
      refine List.forall_mem_cons.mpr ⟨?_, fun d hd ↦ ?_⟩
      · rcases (Bool.or_eq_true _ _).mp hc with hc | hc <;> rw [of_decide_eq_true hc] <;> rfl
      · cases cs with
        | nil => cases hd
        | cons sign cs =>
            split at hdigits
            · next hsign =>
                rw [List.head?_cons, Option.any_some] at hsign
                rcases List.mem_cons.mp hd with rfl | hd
                · rcases (Bool.or_eq_true _ _).mp hsign with h | h <;>
                    rw [of_decide_eq_true h] <;> rfl
                · exact isNumberChar_of_isDigit (hdigits d hd)
            · exact isNumberChar_of_isDigit (hdigits d hd)

theorem isNumberChar_of_isFraction (h : isFraction token = true) :
    ∀ c ∈ token, isNumberChar c = true := by
  cases token with
  | nil => cases h
  | cons c cs =>
      rw [isFraction] at h
      split at h
      · next hdot =>
          dsimp only at h
          rw [Bool.and_eq_true, Bool.or_eq_true] at h
          obtain ⟨-, hexponent⟩ := h
          refine List.forall_mem_cons.mpr ⟨by rw [hdot]; rfl, fun d hd ↦ ?_⟩
          rw [← List.takeWhile_append_dropWhile (p := Char.isDigit) (l := cs)] at hd
          rcases List.mem_append.mp hd with hd | hd
          · exact isNumberChar_of_isDigit (List.mem_takeWhile_imp hd)
          · rcases hexponent with hnil | hexponent
            · rw [List.isEmpty_iff.mp hnil] at hd
              cases hd
            · exact isNumberChar_of_isExponent hexponent d hd
      · exact isNumberChar_of_isExponent h

theorem isNumberChar_of_isFloatToken (h : isFloatToken token = true) :
    ∀ c ∈ token, isNumberChar c = true := by
  intro c hc
  obtain ⟨-, hfraction⟩ := (Bool.and_eq_true _ _).mp h
  rw [← List.takeWhile_append_dropWhile (p := isSignOrDigit) (l := token)] at hc
  rcases List.mem_append.mp hc with hc | hc
  · exact isNumberChar_of_isSignOrDigit (List.mem_takeWhile_imp hc)
  · exact isNumberChar_of_isFraction hfraction c hc

/-- A token is not of both kinds. -/
theorem not_isIntToken_of_isFloatToken (h : isFloatToken token = true) :
    isIntToken token = false := by
  rw [Bool.eq_false_iff]
  intro hint
  obtain ⟨-, hfraction⟩ := (Bool.and_eq_true _ _).mp h
  rw [List.dropWhile_eq_nil_iff.mpr (isSignOrDigit_of_isIntToken hint)] at hfraction
  cases hfraction

/-- A token begins with a sign or a digit. -/
theorem head_of_isFloatToken (h : isFloatToken token = true) :
    ∃ c cs, token = c :: cs ∧ isSignOrDigit c = true := by
  obtain ⟨hint, -⟩ := (Bool.and_eq_true _ _).mp h
  cases token with
  | nil => cases hint
  | cons c cs =>
      refine ⟨c, cs, rfl, ?_⟩
      by_contra hc
      rw [List.takeWhile_cons_of_neg hc] at hint
      cases hint

theorem isNatToken_of_head {c : Char} {cs : List Char} (h : ∀ d ∈ c :: cs, d.isDigit = true)
    (hc : c = '0' → cs = []) : isNatToken (c :: cs) = true := by
  obtain ⟨hdigit, hcs⟩ := List.forall_mem_cons.mp h
  rw [isNatToken, List.all_eq_true.mpr hcs, Bool.true_and]
  split
  · next heq => exact List.isEmpty_iff.mpr (hc heq)
  · exact hdigit

/-- A positive number does not begin with a zero. -/
theorem head_toDigits_ne {n : ℕ} (h : 0 < n) : (Nat.toDigits 10 n).head? ≠ some '0' := by
  induction n using Nat.strong_induction_on with
  | _ n ih =>
      by_cases hlt : n < 10
      · rw [Nat.toDigits_of_lt_base hlt]
        clear ih
        revert h
        revert n
        decide
      · have hdiv : 0 < n / 10 := Nat.div_pos (Nat.le_of_not_lt hlt) (by decide)
        rw [Nat.toDigits_of_base_le (by decide) (Nat.le_of_not_lt hlt),
          List.head?_append_of_ne_nil _ Nat.toDigits_ne_nil]
        exact ih (n / 10) (Nat.div_lt_self h (by decide)) hdiv

theorem isNatToken_toDigits (n : ℕ) : isNatToken (Nat.toDigits 10 n) = true := by
  cases hdigits : Nat.toDigits 10 n with
  | nil => exact absurd hdigits Nat.toDigits_ne_nil
  | cons c cs =>
      refine isNatToken_of_head ?_ fun hc ↦ ?_
      · rw [← hdigits]
        exact fun d hd ↦ Nat.isDigit_of_mem_toDigits (by decide) (by decide) hd
      · rcases Nat.eq_zero_or_pos n with rfl | hpos
        · rw [Nat.toDigits_zero] at hdigits
          exact (List.cons.inj hdigits).2.symm
        · exact absurd (by rw [hdigits, hc, List.head?_cons]) (head_toDigits_ne hpos)

/-- **Integers.**  What is written for one is a token that reads as it. -/
theorem readInt_toString (value : ℤ) :
    isIntToken (toString value).toList = true ∧ readInt (toString value).toList = value := by
  rw [Int.toString_eq_repr, Int.repr_eq_if]
  split
  · next hnonneg =>
      rw [Nat.toList_repr]
      cases hdigits : Nat.toDigits 10 value.toNat with
      | nil => exact absurd hdigits Nat.toDigits_ne_nil
      | cons c cs =>
          have htoken : isNatToken (c :: cs) = true := hdigits ▸ isNatToken_toDigits value.toNat
          have hsign : c ≠ '-' := by
            rintro rfl
            exact absurd (isDigit_of_isNatToken htoken _ List.mem_cons_self) (by decide)
          rw [isIntToken, if_neg hsign, readInt, if_neg hsign, ← hdigits,
            Nat.ofDigitChars_ten_toDigits]
          exact ⟨hdigits ▸ htoken, Int.toNat_of_nonneg hnonneg⟩
  · next hneg =>
      have hlist : ("-" ++ (-value).toNat.repr).toList =
          '-' :: Nat.toDigits 10 (-value).toNat := by
        rw [String.toList_append, Nat.toList_repr]
        rfl
      rw [hlist, isIntToken, if_pos rfl, readInt, if_pos rfl, Nat.ofDigitChars_ten_toDigits]
      exact ⟨isNatToken_toDigits _, by omega⟩

end Tokens

end Courtside
