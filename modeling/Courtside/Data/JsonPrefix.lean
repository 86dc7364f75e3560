import Courtside.Data.Json

/-!
# JSON texts that are cut short

A reader of JSON reads a value no further than its end: more text does not change what has
been read, unless that is a number (`parse_append`).  So no proper prefix of the text of an
array or an object is itself a text (`loads_of_isPrefix`), and a file whose writing was cut
short can be told from a whole one.
-/

namespace Courtside

variable {F : Type} (format : FloatFormat F)

section Prefix

variable {cs rest : List Char} {value : Json F}

theorem skipSpace_append {c : Char} (h : skipSpace cs = c :: rest) (more : List Char) :
    skipSpace (cs ++ more) = c :: (rest ++ more) := by
  have hne : (List.dropWhile isSpace cs).isEmpty = false := by
    rw [← skipSpace, h]
    rfl
  rw [skipSpace, List.dropWhile_append, hne, if_neg Bool.false_ne_true, ← skipSpace, h]
  rfl

theorem extends_readSeparator (close : Char) : Extends (readSeparator close) := by
  intro cs closed rest h more
  rw [readSeparator] at h ⊢
  cases hskip : skipSpace cs with
  | nil =>
      rw [hskip] at h
      cases h
  | cons c rest' =>
      rw [hskip] at h
      rw [skipSpace_append hskip]
      dsimp only at h ⊢
      split at h
      · next hclose => cases h; rw [if_pos hclose]
      next hclose =>
      rw [if_neg hclose]
      split at h
      · next hcomma => cases h; rw [if_pos hcomma]
      · cases h

theorem ne_nil_of_readSeparator {close : Char} {closed : Bool}
    (h : readSeparator close cs = some (closed, rest)) : cs ≠ [] := by
  rintro rfl
  cases h

theorem parseKey_append {fuel fuel' : ℕ} {key : String} (h : parseKey fuel cs = some (key, rest))
    (hle : fuel ≤ fuel') (more : List Char) :
    parseKey fuel' (cs ++ more) = some (key, rest ++ more) := by
  cases cs with
  | nil => cases h
  | cons c cs =>
      rw [parseKey] at h
      rw [List.cons_append, parseKey]
      obtain ⟨⟨⟩, hquote, h⟩ := Option.bind_eq_some_iff.mp h
      obtain ⟨⟨chars, rest'⟩, hchars, h⟩ := Option.bind_eq_some_iff.mp h
      cases hskip : skipSpace rest' with
      | nil =>
          simp only [hskip] at h
          cases h
      | cons d rest'' =>
          simp only [hskip] at h
          split at h
          · next hcolon =>
              cases h
              simp only [hquote, parseChars_append hchars hle more, skipSpace_append hskip,
                Option.bind_eq_bind, Option.bind_some, if_pos hcolon]
          · cases h

theorem parseLiteral_append {name : List Char} {named : Json F}
    (h : parseLiteral name named cs = some (value, rest)) (more : List Char) :
    parseLiteral name named (cs ++ more) = some (value, rest ++ more) := by
  obtain ⟨rest, hdrop, heq⟩ := Option.map_eq_some_iff.mp h
  cases heq
  obtain ⟨name', rfl, hname⟩ := List.dropPrefix?_eq_some_iff.mp hdrop
  have hdrop' : (name' ++ rest ++ more).dropPrefix? name = some (rest ++ more) :=
    List.dropPrefix?_eq_some_iff.mpr ⟨name', List.append_assoc _ _ _, hname⟩
  rw [parseLiteral, hdrop', Option.map_some]

/-- What is read as a number is one, and begins with a sign or a digit. -/
theorem isNumber_of_parseNumber (h : parseNumber format cs = some (value, rest)) :
    value.isNumber = true ∧ ∃ c cs', cs = c :: cs' ∧ isSignOrDigit c = true := by
  obtain ⟨value', hread, heq⟩ := Option.map_eq_some_iff.mp h
  cases heq
  have hhead {token : List Char} (htoken : token = cs.takeWhile isNumberChar)
      (hcons : ∃ c token', token = c :: token' ∧ isSignOrDigit c = true) :
      ∃ c cs', cs = c :: cs' ∧ isSignOrDigit c = true := by
    obtain ⟨c, token', rfl, hc⟩ := hcons
    cases cs with
    | nil => cases htoken
    | cons d cs =>
        rw [List.takeWhile_cons] at htoken
        split at htoken
        · obtain ⟨rfl, -⟩ := List.cons.inj htoken
          exact ⟨c, cs, rfl, hc⟩
        · cases htoken
  rw [readNumber] at hread
  split at hread
  · next hint =>
      cases hread
      exact ⟨rfl, hhead rfl (head_of_isIntToken hint)⟩
  · split at hread
    · next hfloat =>
        obtain ⟨x, -, rfl⟩ := Option.map_eq_some_iff.mp hread
        exact ⟨rfl, hhead rfl (head_of_isFloatToken hfloat)⟩
    · cases hread

/-- A number is not longer for what follows it, unless it is at the end. -/
theorem parseNumber_more (h : parseNumber format cs = some (value, rest)) (hrest : rest ≠ [])
    (more : List Char) : parseNumber format (cs ++ more) = some (value, rest ++ more) := by
  obtain ⟨value', hread, heq⟩ := Option.map_eq_some_iff.mp h
  cases heq
  have hlength : (cs.takeWhile isNumberChar).length ≠ cs.length := by
    have hsplit := congrArg List.length
      (List.takeWhile_append_dropWhile (p := isNumberChar) (l := cs))
    have hpos := List.length_pos_iff.mpr hrest
    rw [List.length_append] at hsplit
    omega
  have hempty : (cs.dropWhile isNumberChar).isEmpty = false := by
    rw [List.isEmpty_eq_false_iff]
    exact hrest
  rw [parseNumber, List.takeWhile_append, if_neg hlength, List.dropWhile_append, hempty,
    if_neg Bool.false_ne_true, hread, Option.map_some]

theorem skipSpace_append_of_ne_nil (h : skipSpace cs ≠ []) (more : List Char) :
    skipSpace (cs ++ more) = skipSpace cs ++ more := by
  cases hskip : skipSpace cs with
  | nil => exact absurd hskip h
  | cons c rest => exact skipSpace_append hskip more

theorem head?_skipSpace_append {c : Char} (h : (skipSpace cs).head? = some c) (more : List Char) :
    (skipSpace (cs ++ more)).head? = some c := by
  obtain ⟨rest, hskip⟩ := List.head?_eq_some_iff.mp h
  rw [skipSpace_append hskip]
  rfl

theorem tail_skipSpace_append {c : Char} (h : (skipSpace cs).head? = some c) (more : List Char) :
    (skipSpace (cs ++ more)).tail = (skipSpace cs).tail ++ more := by
  obtain ⟨rest, hskip⟩ := List.head?_eq_some_iff.mp h
  rw [skipSpace_append hskip, hskip]
  rfl

theorem ne_nil_of_parseJson {fuel : ℕ} (h : parseJson format fuel cs = some (value, rest)) :
    cs ≠ [] := by
  rintro rfl
  cases fuel <;> cases h

theorem ne_nil_of_parseItems {fuel : ℕ} {items : List (Json F)}
    (h : parseItems format fuel cs = some (items, rest)) : cs ≠ [] := by
  cases fuel with
  | zero => cases h
  | succ fuel =>
      obtain ⟨⟨item, rest'⟩, hitem, -⟩ := Option.bind_eq_some_iff.mp h
      exact ne_nil_of_parseJson format hitem

theorem ne_nil_of_parseMembers {fuel : ℕ} {members : List (String × Json F)}
    (h : parseMembers format fuel cs = some (members, rest)) : cs ≠ [] := by
  rintro rfl
  cases fuel <;> cases h

/-- **More text.**  A value that has been read is over, unless it is a number at the end:
more text and more fuel change nothing. -/
theorem parse_append (fuel : ℕ) :
    (∀ {cs value rest}, parseJson format fuel cs = some (value, rest) →
      (rest = [] → value.isNumber = false) → ∀ {fuel'}, fuel ≤ fuel' → ∀ more,
        parseJson format fuel' (cs ++ more) = some (value, rest ++ more)) ∧
    (∀ {cs items rest}, parseItems format fuel cs = some (items, rest) →
      ∀ {fuel'}, fuel ≤ fuel' → ∀ more,
        parseItems format fuel' (cs ++ more) = some (items, rest ++ more)) ∧
    (∀ {cs members rest}, parseMembers format fuel cs = some (members, rest) →
      ∀ {fuel'}, fuel ≤ fuel' → ∀ more,
        parseMembers format fuel' (cs ++ more) = some (members, rest ++ more)) := by
  induction fuel with
  | zero => exact ⟨fun h ↦ (nomatch h), fun h ↦ (nomatch h), fun h ↦ (nomatch h)⟩
  | succ fuel ih =>
      obtain ⟨ihValue, ihItems, ihMembers⟩ := ih
      refine ⟨?_, ?_, ?_⟩
      · intro cs value rest h hrest fuel' hle more
        obtain ⟨fuel', rfl⟩ : ∃ n, fuel' = n + 1 := Nat.exists_eq_add_one_of_ne_zero (by omega)
        have hle' : fuel ≤ fuel' := Nat.le_of_succ_le_succ hle
        cases cs with
        | nil => cases h
        | cons c cs =>
            rw [parseJson] at h
            rw [List.cons_append, parseJson]
            split at h
            · next hquote =>
                obtain ⟨⟨chars, rest₁⟩, hchars, heq⟩ := Option.map_eq_some_iff.mp h
                cases heq
                rw [if_pos hquote, parseChars_append hchars hle' more]
                rfl
            next hquote =>
            rw [if_neg hquote]
            split at h
            · next hbracket =>
                rw [if_pos hbracket]
                split at h
                · next hclose =>
                    cases h
                    rw [if_pos (head?_skipSpace_append hclose more), tail_skipSpace_append hclose]
                · next hopen =>
                    obtain ⟨⟨items, rest₁⟩, hitems, heq⟩ := Option.map_eq_some_iff.mp h
                    cases heq
                    have hne := ne_nil_of_parseItems format hitems
                    rw [skipSpace_append_of_ne_nil hne, List.head?_append_of_ne_nil _ hne,
                      if_neg hopen, ihItems hitems hle' more]
                    rfl
            next hbracket =>
            rw [if_neg hbracket]
            split at h
            · next hbrace =>
                rw [if_pos hbrace]
                split at h
                · next hclose =>
                    cases h
                    rw [if_pos (head?_skipSpace_append hclose more), tail_skipSpace_append hclose]
                · next hopen =>
                    obtain ⟨⟨members, rest₁⟩, hmembers, heq⟩ := Option.map_eq_some_iff.mp h
                    cases heq
                    have hne := ne_nil_of_parseMembers format hmembers
                    rw [skipSpace_append_of_ne_nil hne, List.head?_append_of_ne_nil _ hne,
                      if_neg hopen, ihMembers hmembers hle' more]
                    rfl
            next hbrace =>
            rw [if_neg hbrace]
            split at h
            · next hnull => rw [if_pos hnull]; exact parseLiteral_append h more
            next hnull =>
            rw [if_neg hnull]
            split at h
            · next htrue => rw [if_pos htrue]; exact parseLiteral_append h more
            next htrue =>
            rw [if_neg htrue]
            split at h
            · next hfalse => rw [if_pos hfalse]; exact parseLiteral_append h more
            · next hfalse =>
                have hnumber := (isNumber_of_parseNumber format h).1
                rw [if_neg hfalse]
                exact parseNumber_more format h
                  (fun hnil ↦ Bool.false_ne_true ((hrest hnil).symm.trans hnumber)) more
      · intro cs items rest h fuel' hle more
        obtain ⟨fuel', rfl⟩ : ∃ n, fuel' = n + 1 := Nat.exists_eq_add_one_of_ne_zero (by omega)
        have hle' : fuel ≤ fuel' := Nat.le_of_succ_le_succ hle
        obtain ⟨⟨item, rest₁⟩, hitem, h⟩ := Option.bind_eq_some_iff.mp h
        obtain ⟨⟨closed, rest₂⟩, hseparator, h⟩ := Option.bind_eq_some_iff.mp h
        have hitem' := ihValue hitem
          (fun hnil ↦ absurd hnil (ne_nil_of_readSeparator hseparator)) hle' more
        rw [parseItems, hitem', Option.bind_eq_bind, Option.bind_some]
        dsimp only at h ⊢
        rw [extends_readSeparator _ _ _ _ hseparator more, Option.bind_eq_bind, Option.bind_some]
        dsimp only at h ⊢
        split at h
        · next hclosed =>
            cases h
            rw [if_pos hclosed]
        · next hclosed =>
            obtain ⟨⟨items', rest₃⟩, hitems, h⟩ := Option.bind_eq_some_iff.mp h
            cases h
            rw [if_neg hclosed, skipSpace_append_of_ne_nil (ne_nil_of_parseItems format hitems),
              ihItems hitems hle' more]
            rfl
      · intro cs members rest h fuel' hle more
        obtain ⟨fuel', rfl⟩ : ∃ n, fuel' = n + 1 := Nat.exists_eq_add_one_of_ne_zero (by omega)
        have hle' : fuel ≤ fuel' := Nat.le_of_succ_le_succ hle
        obtain ⟨⟨key, rest₁⟩, hkey, h⟩ := Option.bind_eq_some_iff.mp h
        obtain ⟨⟨value, rest₂⟩, hvalue, h⟩ := Option.bind_eq_some_iff.mp h
        obtain ⟨⟨closed, rest₃⟩, hseparator, h⟩ := Option.bind_eq_some_iff.mp h
        have hvalue' := ihValue hvalue
          (fun hnil ↦ absurd hnil (ne_nil_of_readSeparator hseparator)) hle' more
        rw [parseMembers, parseKey_append hkey hle' more, Option.bind_eq_bind, Option.bind_some]
        dsimp only at h ⊢
        rw [skipSpace_append_of_ne_nil (ne_nil_of_parseJson format hvalue), hvalue',
          Option.bind_eq_bind, Option.bind_some]
        dsimp only at h ⊢
        rw [extends_readSeparator _ _ _ _ hseparator more, Option.bind_eq_bind, Option.bind_some]
        dsimp only at h ⊢
        split at h
        · next hclosed =>
            cases h
            rw [if_pos hclosed]
        · next hclosed =>
            obtain ⟨⟨members', rest₄⟩, hmembers, h⟩ := Option.bind_eq_some_iff.mp h
            cases h
            rw [if_neg hclosed, skipSpace_append_of_ne_nil (ne_nil_of_parseMembers format hmembers),
              ihMembers hmembers hle' more]
            rfl

end Prefix

/-- What begins with a sign or a digit is a number. -/
theorem isNumber_of_head {level : ℕ} {value : Json F} {c : Char} {cs : List Char}
    (hc : isSignOrDigit c = true) (h : value.dump format level = c :: cs) :
    value.isNumber = true := by
  have hne {d : Char} {ds : List Char} (hd : isSignOrDigit d = false)
      (hdump : value.dump format level = d :: ds) : value.isNumber = true :=
    absurd (List.cons.inj (h.symm.trans hdump)).1 (ne_of_isSignOrDigit hc hd)
  match value with
  | .int _ | .float _ => rfl
  | .null => exact hne (d := 'n') rfl rfl
  | .bool true => exact hne (d := 't') rfl rfl
  | .bool false => exact hne (d := 'f') rfl rfl
  | .str _ => exact hne (d := '"') rfl rfl
  | .arr [] => exact hne (d := '[') rfl rfl
  | .arr (_ :: _) => exact hne (d := '[') rfl rfl
  | .obj [] => exact hne (d := '{') rfl rfl
  | .obj ((_, _) :: _) => exact hne (d := '{') rfl rfl

theorem eq_of_parseLiteral {name cs rest : List Char} {named value : Json F}
    (h : parseLiteral name named cs = some (value, rest)) : named = value := by
  obtain ⟨_, -, heq⟩ := Option.map_eq_some_iff.mp h
  exact (Prod.mk.inj heq).1

/-- A text that is read as a number begins with a sign or a digit. -/
theorem head_of_isNumber {fuel : ℕ} {c : Char} {cs rest : List Char} {value : Json F}
    (h : parseJson format fuel (c :: cs) = some (value, rest)) (hnumber : value.isNumber = true) :
    isSignOrDigit c = true := by
  have hliteral {name : List Char} {named : Json F} (hnamed : named.isNumber = false)
      (h : parseLiteral name named (c :: cs) = some (value, rest)) : isSignOrDigit c = true := by
    rw [eq_of_parseLiteral h, hnumber] at hnamed
    cases hnamed
  cases fuel with
  | zero => cases h
  | succ fuel =>
      rw [parseJson] at h
      split at h
      · obtain ⟨_, -, heq⟩ := Option.map_eq_some_iff.mp h
        cases heq
        cases hnumber
      split at h
      · split at h
        · cases h
          cases hnumber
        · obtain ⟨_, -, heq⟩ := Option.map_eq_some_iff.mp h
          cases heq
          cases hnumber
      split at h
      · split at h
        · cases h
          cases hnumber
        · obtain ⟨_, -, heq⟩ := Option.map_eq_some_iff.mp h
          cases heq
          cases hnumber
      split at h
      · exact hliteral rfl h
      split at h
      · exact hliteral rfl h
      split at h
      · exact hliteral rfl h
      · obtain ⟨-, c', cs', heq, hc⟩ := isNumber_of_parseNumber format h
        obtain ⟨rfl, -⟩ := List.cons.inj heq
        exact hc

/-- **Texts that are cut short.**  No proper prefix of the text of a value is a text, unless
the value is a number. -/
theorem loads_of_isPrefix {value : Json F} (hvalue : value.isNumber = false) {text : List Char}
    (htext : text <+: value.dump format 0) (hne : text ≠ value.dump format 0) :
    loads format text = none := by
  obtain ⟨more, hmore⟩ := htext
  have hlength : text.length ≤ (value.dump format 0).length := by
    rw [← hmore, List.length_append]
    exact Nat.le_add_right _ _
  by_contra hsome
  obtain ⟨read, hread⟩ := Option.ne_none_iff_exists'.mp hsome
  obtain ⟨⟨read', rest⟩, hparse, -⟩ := Option.bind_eq_some_iff.mp hread
  cases text with
  | nil => exact ne_nil_of_parseJson format hparse rfl
  | cons c cs =>
      -- the first character is that of the whole text, so a number is not read
      obtain ⟨d, ds, hcons, hspace, -⟩ := head_dump format 0 value
      obtain ⟨rfl, -⟩ := List.cons.inj (hmore.trans hcons)
      rw [skipSpace_cons_of_not hspace] at hparse
      have hread' : read'.isNumber = false := by
        rw [Bool.eq_false_iff]
        intro hnumber
        have hhead := isNumber_of_head format (head_of_isNumber format hparse hnumber) hcons
        rw [hvalue] at hhead
        cases hhead
      have hwhole := (parse_append format _).1 hparse (fun _ ↦ hread')
        (Nat.succ_le_succ hlength) more
      have htext := Json.parseJson_dump format value 0 _ []
        (Json.size_le_length_dump format value 0) (fun c hc ↦ nomatch hc)
      rw [List.append_nil] at htext
      rw [hmore, htext] at hwhole
      -- nothing is left, and so nothing was cut off
      have hnil : rest ++ more = [] := (Prod.mk.inj (Option.some.inj hwhole)).2.symm
      rw [(List.append_eq_nil_iff.mp hnil).2, List.append_nil] at hmore
      exact hne hmore

end Courtside
