import Mathlib.Data.List.Basic
import Mathlib.Tactic.NormNum

/-!
# Strings in JSON

`dumpString` writes a string in quotes and in ASCII, as `json` does unless it is told
otherwise: what is not printable is escaped by its code, and a character above the first
65536 by two, a surrogate pair.  `parseChars` reads a string up to its closing quote.

A character is written by `escapeChar` alone and read back at once, whatever follows it
(`parseChars_escapeChar`).
-/

namespace Courtside

/-! ## Writing -/

/-- `'\\u{0:04x}'.format(code)`. -/
def unicodeEscape (code : ℕ) : List Char :=
  ['\\', 'u', Nat.digitChar (code / 4096 % 16), Nat.digitChar (code / 256 % 16),
    Nat.digitChar (code / 16 % 16), Nat.digitChar (code % 16)]

/-- The characters that have a short escape, with the letter of each. -/
def shortEscapes : List (Char × Char) :=
  [('\\', '\\'), ('"', '"'), ('\x08', 'b'), ('\x0c', 'f'), ('\n', 'n'), ('\r', 'r'), ('\t', 't')]

/-- One character, escaped if it has to be. -/
def escapeChar (c : Char) : List Char :=
  match shortEscapes.lookup c with
  | some letter => ['\\', letter]
  | none =>
      if ' ' ≤ c ∧ c ≤ '~' then [c]
      else if c.toNat < 0x10000 then unicodeEscape c.toNat
      else
        unicodeEscape (0xd800 + (c.toNat - 0x10000) / 0x400) ++
          unicodeEscape (0xdc00 + (c.toNat - 0x10000) % 0x400)

/-- `py_encode_basestring_ascii`. -/
def dumpString (s : String) : List Char := '"' :: (s.toList.flatMap escapeChar ++ ['"'])

/-! ## Reading -/

/-- The value of a hexadecimal digit. -/
def hexValue (c : Char) : Option ℕ :=
  if '0' ≤ c ∧ c ≤ '9' then some (c.toNat - '0'.toNat)
  else if 'a' ≤ c ∧ c ≤ 'f' then some (c.toNat - 'a'.toNat + 10)
  else if 'A' ≤ c ∧ c ≤ 'F' then some (c.toNat - 'A'.toNat + 10)
  else none

/-- Four hexadecimal digits. -/
def readHex : List Char → Option (ℕ × List Char)
  | a :: b :: c :: d :: cs => do
      let a ← hexValue a
      let b ← hexValue b
      let c ← hexValue c
      let d ← hexValue d
      return (4096 * a + 256 * b + 16 * c + d, cs)
  | _ => none

/-- The low half of a surrogate pair. -/
def readLow : List Char → Option (ℕ × List Char)
  | '\\' :: 'u' :: cs => (readHex cs).filter fun low ↦ 0xdc00 ≤ low.1 && low.1 < 0xe000
  | _ => none

/-- What follows `\u`.  Half a surrogate pair is no character. -/
def readCodePoint (cs : List Char) : Option (Char × List Char) := do
  let (code, cs) ← readHex cs
  if code < 0xd800 ∨ 0xe000 ≤ code then
    return (Char.ofNat code, cs)
  else if code < 0xdc00 then
    let (low, cs) ← readLow cs
    return (Char.ofNat (0x10000 + ((code - 0xd800) * 0x400 + (low - 0xdc00))), cs)
  else
    none

/-- What follows a backslash. -/
def readEscape : List Char → Option (Char × List Char)
  | [] => none
  | c :: cs =>
      if c = 'u' then readCodePoint cs
      else if c = '/' then some ('/', cs)
      else ((shortEscapes.map Prod.swap).lookup c).map fun c ↦ (c, cs)

/-- The characters of a string up to its closing quote, and what follows it. -/
def parseChars : ℕ → List Char → Option (List Char × List Char)
  | 0, _ => none
  | _ + 1, [] => none
  | fuel + 1, c :: cs =>
      if c = '"' then some ([], cs)
      else if c = '\\' then do
        let (c, cs) ← readEscape cs
        let (s, cs) ← parseChars fuel cs
        return (c :: s, cs)
      else if c.toNat < 0x20 then none
      else do
        let (s, cs) ← parseChars fuel cs
        return (c :: s, cs)

/-! ## One character -/

theorem hexValue_digitChar {d : ℕ} (h : d < 16) : hexValue (Nat.digitChar d) = some d := by
  revert d
  decide

/-- Four digits are read back, whatever follows. -/
theorem readHex_digits {code : ℕ} (h : code < 0x10000) (cs : List Char) :
    readHex (Nat.digitChar (code / 4096 % 16) :: Nat.digitChar (code / 256 % 16) ::
      Nat.digitChar (code / 16 % 16) :: Nat.digitChar (code % 16) :: cs) = some (code, cs) := by
  have hmod (n : ℕ) : n % 16 < 16 := Nat.mod_lt _ (by decide)
  simp only [readHex, hexValue_digitChar (hmod _), Option.pure_def, Option.bind_eq_bind,
    Option.bind_some, Option.some.injEq, Prod.mk.injEq, and_true]
  omega

theorem readLow_unicodeEscape {low : ℕ} (h₀ : 0xdc00 ≤ low) (h₁ : low < 0xe000)
    (cs : List Char) : readLow (unicodeEscape low ++ cs) = some (low, cs) := by
  have hhex := readHex_digits (Nat.lt_trans h₁ (by decide)) cs
  simp only [unicodeEscape, List.cons_append, List.nil_append, readLow]
  rw [hhex, Option.filter_some, decide_eq_true h₀, decide_eq_true h₁, Bool.and_self, if_pos rfl]

/-- No character has a code between the surrogates. -/
theorem not_surrogate (c : Char) : c.toNat < 0xd800 ∨ 0xe000 ≤ c.toNat := by
  rcases c.valid with h | h
  · exact .inl h
  · exact .inr (by have := h.1; simp only [Char.toNat]; change 0xdfff < c.val.toNat at this; omega)

theorem toNat_lt (c : Char) : c.toNat < 0x110000 := by
  rcases c.valid with h | h
  · exact Nat.lt_trans h (by decide)
  · exact h.2

/-- A character is read back from its code. -/
theorem readCodePoint_code (c : Char) (h : c.toNat < 0x10000) (cs : List Char) :
    readCodePoint ((unicodeEscape c.toNat).drop 2 ++ cs) = some (c, cs) := by
  have hhex := readHex_digits h cs
  simp only [unicodeEscape, List.drop_succ_cons, List.drop_zero, List.cons_append,
    List.nil_append, readCodePoint, hhex, Option.pure_def, Option.bind_eq_bind,
    Option.bind_some, if_pos (not_surrogate c), Char.ofNat_toNat]

/-- A surrogate pair is read together. -/
theorem readCodePoint_pair {high low : ℕ} (hhigh₀ : 0xd800 ≤ high) (hhigh₁ : high < 0xdc00)
    (hlow₀ : 0xdc00 ≤ low) (hlow₁ : low < 0xe000) (cs : List Char) :
    readCodePoint ((unicodeEscape high).drop 2 ++ (unicodeEscape low ++ cs)) =
      some (Char.ofNat (0x10000 + ((high - 0xd800) * 0x400 + (low - 0xdc00))), cs) := by
  have hhex := readHex_digits (Nat.lt_trans hhigh₁ (by decide)) (unicodeEscape low ++ cs)
  have hlow := readLow_unicodeEscape hlow₀ hlow₁ cs
  have hpair : ¬ (high < 0xd800 ∨ 0xe000 ≤ high) := by omega
  rw [readCodePoint, unicodeEscape, List.drop_succ_cons, List.drop_succ_cons, List.drop_zero,
    List.cons_append, List.cons_append, List.cons_append, List.cons_append, List.nil_append, hhex]
  simp only [Option.pure_def, Option.bind_eq_bind, Option.bind_some, if_neg hpair, if_pos hhigh₁,
    hlow]

/-- A character above the first 65536 is read back from its pair. -/
theorem readCodePoint_escape (c : Char) (h : 0x10000 ≤ c.toNat) (cs : List Char) :
    readCodePoint ((unicodeEscape (0xd800 + (c.toNat - 0x10000) / 0x400)).drop 2 ++
      (unicodeEscape (0xdc00 + (c.toNat - 0x10000) % 0x400) ++ cs)) = some (c, cs) := by
  have hlt := toNat_lt c
  obtain ⟨high, hhigh⟩ : ∃ high, high = 0xd800 + (c.toNat - 0x10000) / 0x400 := ⟨_, rfl⟩
  obtain ⟨low, hlow⟩ : ∃ low, low = 0xdc00 + (c.toNat - 0x10000) % 0x400 := ⟨_, rfl⟩
  have hcode : 0x10000 + ((high - 0xd800) * 0x400 + (low - 0xdc00)) = c.toNat := by omega
  rw [← hhigh, ← hlow, readCodePoint_pair (by omega) (by omega) (by omega) (by omega), hcode,
    Char.ofNat_toNat]

theorem mem_shortEscapes {c letter : Char} (h : shortEscapes.lookup c = some letter) :
    (c, letter) ∈ shortEscapes := by
  obtain ⟨before, after, heq, -⟩ := List.lookup_eq_some_iff.mp h
  rw [heq]
  exact List.mem_append_right _ List.mem_cons_self

theorem readEscape_short {c letter : Char} (h : shortEscapes.lookup c = some letter)
    (cs : List Char) : readEscape (letter :: cs) = some (c, cs) := by
  have hmem := mem_shortEscapes h
  simp only [shortEscapes, List.mem_cons, Prod.mk.injEq, List.not_mem_nil, or_false] at hmem
  rcases hmem with ⟨rfl, rfl⟩ | ⟨rfl, rfl⟩ | ⟨rfl, rfl⟩ | ⟨rfl, rfl⟩ | ⟨rfl, rfl⟩ | ⟨rfl, rfl⟩ |
    ⟨rfl, rfl⟩ <;> rfl

/-- After a backslash, an escape decides what is read. -/
theorem parseChars_backslash {fuel : ℕ} {cs rest : List Char} {c : Char}
    (h : readEscape cs = some (c, rest)) :
    parseChars (fuel + 1) ('\\' :: cs) =
      (parseChars fuel rest).map fun read ↦ (c :: read.1, read.2) := by
  rw [parseChars, if_neg (by decide), if_pos rfl, h, Option.bind_eq_bind, Option.bind_some]
  dsimp only
  cases parseChars fuel rest <;> rfl

/-- **One character.**  It is read back, whatever follows. -/
theorem parseChars_escapeChar (fuel : ℕ) (c : Char) (cs : List Char) :
    parseChars (fuel + 1) (escapeChar c ++ cs) =
      (parseChars fuel cs).map fun read ↦ (c :: read.1, read.2) := by
  have hunicode {code : ℕ} {rest : List Char}
      (h : readCodePoint ((unicodeEscape code).drop 2 ++ rest) = some (c, cs)) :
      parseChars (fuel + 1) (unicodeEscape code ++ rest) =
        (parseChars fuel cs).map fun read ↦ (c :: read.1, read.2) :=
    parseChars_backslash h
  unfold escapeChar
  split
  · next letter hletter => exact parseChars_backslash (readEscape_short hletter cs)
  next hnone =>
  split
  · next hprint =>
      -- a printable character is not one of the seven, and no control character
      have hquote : c ≠ '"' := by rintro rfl; cases hnone
      have hslash : c ≠ '\\' := by rintro rfl; cases hnone
      have hcontrol : ¬ c.toNat < 0x20 := Nat.not_lt.mpr hprint.1
      rw [List.singleton_append, parseChars, if_neg hquote, if_neg hslash, if_neg hcontrol]
      cases parseChars fuel cs <;> rfl
  split
  · next hcode => exact hunicode (readCodePoint_code c hcode cs)
  · next hcode =>
      rw [List.append_assoc]
      exact hunicode (readCodePoint_escape c (Nat.le_of_not_lt hcode) cs)

/-! ## Strings -/

/-- **Strings.**  A string is read back up to its closing quote. -/
theorem parseChars_flatMap (s : List Char) {fuel : ℕ} (h : s.length < fuel) (cs : List Char) :
    parseChars fuel (s.flatMap escapeChar ++ '"' :: cs) = some (s, cs) := by
  obtain ⟨fuel, rfl⟩ := Nat.exists_eq_add_one_of_ne_zero (Nat.ne_of_gt (Nat.zero_lt_of_lt h))
  induction s generalizing fuel with
  | nil => rw [List.flatMap_nil, List.nil_append, parseChars, if_pos rfl]
  | cons c s ih =>
      obtain ⟨fuel, rfl⟩ : ∃ n, fuel = n + 1 :=
        Nat.exists_eq_add_one_of_ne_zero (by rw [List.length_cons] at h; omega)
      rw [List.flatMap_cons, List.append_assoc, parseChars_escapeChar,
        ih fuel (by rw [List.length_cons] at h; omega), Option.map_some]

/-- What is escaped is longer than the string. -/
theorem length_le_length_escape (s : List Char) : s.length ≤ (s.flatMap escapeChar).length := by
  induction s with
  | nil => exact Nat.le_refl _
  | cons c s ih =>
      have hpos : 0 < (escapeChar c).length := by
        unfold escapeChar unicodeEscape
        split
        · exact Nat.zero_lt_succ _
        · split
          · exact Nat.zero_lt_succ _
          · split <;> exact Nat.zero_lt_succ _
      rw [List.flatMap_cons, List.length_append, List.length_cons]
      omega

/-! ## More text -/

/-- A reader that stops by itself: what it reads does not depend on what follows. -/
def Extends {α : Type*} (read : List Char → Option (α × List Char)) : Prop :=
  ∀ cs a rest, read cs = some (a, rest) → ∀ more, read (cs ++ more) = some (a, rest ++ more)

theorem extends_readHex : Extends readHex := by
  intro cs code rest h more
  match cs, h with
  | a :: b :: c :: d :: cs, h =>
      simp only [readHex, Option.bind_eq_bind, Option.pure_def, Option.bind_eq_some_iff,
        Option.some.injEq, Prod.mk.injEq] at h
      obtain ⟨a', ha, b', hb, c', hc, d', hd, rfl, rfl⟩ := h
      simp only [List.cons_append, readHex, ha, hb, hc, hd, Option.bind_eq_bind, Option.pure_def,
        Option.bind_some]

theorem extends_readLow : Extends readLow := by
  intro cs low rest h more
  unfold readLow at h
  split at h
  · next cs =>
      obtain ⟨hhex, hlow⟩ := Option.filter_eq_some_iff.mp h
      simp only [List.cons_append, readLow]
      exact Option.filter_eq_some_iff.mpr ⟨extends_readHex _ _ _ hhex more, hlow⟩
  · cases h

theorem extends_readCodePoint : Extends readCodePoint := by
  intro cs c rest h more
  obtain ⟨⟨code, cs'⟩, hhex, h⟩ := Option.bind_eq_some_iff.mp h
  rw [readCodePoint, extends_readHex _ _ _ hhex more, Option.bind_eq_bind, Option.bind_some]
  dsimp only at h ⊢
  split at h
  · next hplain =>
      cases h
      rw [if_pos hplain]
      rfl
  next hpair =>
  rw [if_neg hpair]
  split at h
  · next hhigh =>
      obtain ⟨⟨low, cs'⟩, hlow, h⟩ := Option.bind_eq_some_iff.mp h
      obtain ⟨rfl, rfl⟩ := Prod.mk.inj (Option.some.inj h)
      rw [if_pos hhigh, extends_readLow _ _ _ hlow more]
      rfl
  · cases h

theorem extends_readEscape : Extends readEscape := by
  intro cs c rest h more
  cases cs with
  | nil => cases h
  | cons letter cs =>
      rw [readEscape] at h
      rw [List.cons_append, readEscape]
      split at h
      · next hletter =>
          rw [if_pos hletter]
          exact extends_readCodePoint _ _ _ h more
      next hletter =>
      rw [if_neg hletter]
      split at h
      · next hslash =>
          cases h
          rw [if_pos hslash]
      · next hslash =>
          obtain ⟨c', hc', heq⟩ := Option.map_eq_some_iff.mp h
          cases heq
          rw [if_neg hslash, hc', Option.map_some]

/-- A string that has been read ends at its quote: more text and more fuel change nothing. -/
theorem parseChars_append {fuel fuel' : ℕ} {cs s rest : List Char}
    (h : parseChars fuel cs = some (s, rest)) (hle : fuel ≤ fuel') (more : List Char) :
    parseChars fuel' (cs ++ more) = some (s, rest ++ more) := by
  induction fuel generalizing fuel' cs s with
  | zero => cases h
  | succ fuel ih =>
      obtain ⟨fuel', rfl⟩ : ∃ n, fuel' = n + 1 := Nat.exists_eq_add_one_of_ne_zero (by omega)
      have hle' : fuel ≤ fuel' := Nat.le_of_succ_le_succ hle
      cases cs with
      | nil => cases h
      | cons c cs =>
          rw [parseChars] at h
          rw [List.cons_append, parseChars]
          split at h
          · next hquote =>
              cases h
              rw [if_pos hquote]
          next hquote =>
          rw [if_neg hquote]
          split at h
          · next hslash =>
              obtain ⟨⟨d, cs'⟩, hescape, h⟩ := Option.bind_eq_some_iff.mp h
              obtain ⟨⟨s', cs''⟩, hchars, h⟩ := Option.bind_eq_some_iff.mp h
              cases h
              rw [if_pos hslash, extends_readEscape _ _ _ hescape more, Option.bind_eq_bind,
                Option.bind_some]
              dsimp only
              rw [ih hchars hle']
              rfl
          next hslash =>
          rw [if_neg hslash]
          split at h
          · cases h
          · next hcontrol =>
              obtain ⟨⟨s', cs''⟩, hchars, h⟩ := Option.bind_eq_some_iff.mp h
              cases h
              rw [if_neg hcontrol, ih hchars hle']
              rfl

end Courtside
