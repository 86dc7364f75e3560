import Courtside.Data.JsonNumber

/-!
# JSON texts

`dump` is `json.dump(value, file, indent=4)`: the text is laid out over lines, and the line
breaks and blanks are the only ones outside of strings.  `loads` is a reader of JSON, which
allows blanks everywhere.

Values are read back from their texts (`loads_dump`).  The induction is on the value, with the
fuel bounded by its `size`; what follows a value in a text matters only to a number, which is
why it has to be `Delimited`.
-/

namespace Courtside

/-! ## Values -/

/-- A JSON value; `F` is the type of floating-point numbers.  An object keeps its members in
the order in which they are written. -/
inductive Json (F : Type) where
  | null
  | bool (value : Bool)
  | int (value : ℤ)
  | float (value : F)
  | str (value : String)
  | arr (items : List (Json F))
  | obj (members : List (String × Json F))

variable {F : Type} (format : FloatFormat F)

/-- The number of a token. -/
def readNumber (token : List Char) : Option (Json F) :=
  if isIntToken token then some (.int (readInt token))
  else if isFloatToken token then (format.read token).map .float
  else none

/-! ## Writing -/

/-- A line break, and the indentation of the next line. -/
def newline (level : ℕ) : List Char := '\n' :: List.replicate (4 * level) ' '

namespace Json

mutual

/-- `_iterencode`, at a level of indentation. -/
def dump (level : ℕ) : Json F → List Char
  | null => "null".toList
  | bool true => "true".toList
  | bool false => "false".toList
  | int value => (toString value).toList
  | float value => format.repr value
  | str value => dumpString value
  | arr [] => "[]".toList
  | arr (item :: items) =>
      dumpItems (level + 1) ('[' :: newline (level + 1)) (item :: items) ++
        (newline level ++ [']'])
  | obj [] => "{}".toList
  | obj (member :: members) =>
      dumpMembers (level + 1) ('{' :: newline (level + 1)) (member :: members) ++
        (newline level ++ ['}'])

/-- The loop of `_iterencode_list`: `buf` is what is written before the next item. -/
def dumpItems (level : ℕ) (buf : List Char) : List (Json F) → List Char
  | [] => []
  | item :: items => buf ++ (dump level item ++ dumpItems level (',' :: newline level) items)

/-- The loop of `_iterencode_dict`. -/
def dumpMembers (level : ℕ) (buf : List Char) : List (String × Json F) → List Char
  | [] => []
  | (key, value) :: members =>
      buf ++ (dumpString key ++ (':' :: ' ' ::
        (dump level value ++ dumpMembers level (',' :: newline level) members)))

end

end Json

/-! ## Reading -/

def isSpace (c : Char) : Bool := c = ' ' || c = '\t' || c = '\n' || c = '\r'

def skipSpace (cs : List Char) : List Char := cs.dropWhile isSpace

/-- A name for a value. -/
def parseLiteral (name : List Char) (value : Json F) (cs : List Char) :
    Option (Json F × List Char) :=
  (cs.dropPrefix? name).map fun rest ↦ (value, rest)

/-- A number, as far as it goes. -/
def parseNumber (cs : List Char) : Option (Json F × List Char) :=
  (readNumber format (cs.takeWhile isNumberChar)).map fun value ↦
    (value, cs.dropWhile isNumberChar)

/-- What follows an item: a comma, or the closing bracket.  Whether it is the bracket. -/
def readSeparator (close : Char) (cs : List Char) : Option (Bool × List Char) :=
  match skipSpace cs with
  | [] => none
  | c :: rest =>
      if c = close then some (true, rest) else if c = ',' then some (false, rest) else none

/-- A key, with its colon. -/
def parseKey (fuel : ℕ) : List Char → Option (String × List Char)
  | [] => none
  | c :: cs => do
      guard (c = '"')
      let (key, rest) ← parseChars fuel cs
      match skipSpace rest with
      | [] => none
      | c :: rest => if c = ':' then some (String.ofList key, rest) else none

mutual

/-- `scan_once` -/
def parseJson : ℕ → List Char → Option (Json F × List Char)
  | 0, _ => none
  | _ + 1, [] => none
  | fuel + 1, c :: cs =>
      if c = '"' then
        (parseChars fuel cs).map fun (s, rest) ↦ (.str (String.ofList s), rest)
      else if c = '[' then
        if (skipSpace cs).head? = some ']' then some (.arr [], (skipSpace cs).tail)
        else (parseItems fuel (skipSpace cs)).map fun (items, rest) ↦ (.arr items, rest)
      else if c = '{' then
        if (skipSpace cs).head? = some '}' then some (.obj [], (skipSpace cs).tail)
        else (parseMembers fuel (skipSpace cs)).map fun (members, rest) ↦ (.obj members, rest)
      else if c = 'n' then parseLiteral "null".toList .null (c :: cs)
      else if c = 't' then parseLiteral "true".toList (.bool true) (c :: cs)
      else if c = 'f' then parseLiteral "false".toList (.bool false) (c :: cs)
      else parseNumber format (c :: cs)

/-- The loop of `JSONArray`. -/
def parseItems : ℕ → List Char → Option (List (Json F) × List Char)
  | 0, _ => none
  | fuel + 1, cs => do
      let (item, rest) ← parseJson fuel cs
      let (closed, rest) ← readSeparator ']' rest
      if closed then some ([item], rest)
      else do
        let (items, rest) ← parseItems fuel (skipSpace rest)
        some (item :: items, rest)

/-- The loop of `JSONObject`. -/
def parseMembers : ℕ → List Char → Option (List (String × Json F) × List Char)
  | 0, _ => none
  | fuel + 1, cs => do
      let (key, rest) ← parseKey fuel cs
      let (value, rest) ← parseJson fuel (skipSpace rest)
      let (closed, rest) ← readSeparator '}' rest
      if closed then some ([(key, value)], rest)
      else do
        let (members, rest) ← parseMembers fuel (skipSpace rest)
        some ((key, value) :: members, rest)

end

/-- `json.loads` -/
def loads (text : List Char) : Option (Json F) := do
  let (value, rest) ← parseJson format (text.length + 1) (skipSpace text)
  guard (skipSpace rest = [])
  return value

/-! ## Values, read back -/

namespace Json

mutual

/-- The fuel for a value. -/
def size : Json F → ℕ
  | null | bool _ | int _ | float _ => 0
  | str value => value.length + 1
  | arr items => sizeItems items + 1
  | obj members => sizeMembers members + 1

def sizeItems : List (Json F) → ℕ
  | [] => 0
  | item :: items => max (size item) (sizeItems items) + 1

def sizeMembers : List (String × Json F) → ℕ
  | [] => 0
  | (key, value) :: members => max (max key.length (size value)) (sizeMembers members) + 1

end

end Json

theorem skipSpace_cons_of_not {c : Char} (h : isSpace c = false) (cs : List Char) :
    skipSpace (c :: cs) = c :: cs :=
  List.dropWhile_cons_of_neg (by rw [h]; exact Bool.false_ne_true)

theorem skipSpace_newline {c : Char} (h : isSpace c = false) (level : ℕ) (cs : List Char) :
    skipSpace (newline level ++ c :: cs) = c :: cs := by
  have hall : ∀ d ∈ newline level, isSpace d = true := by
    refine List.forall_mem_cons.mpr ⟨rfl, fun d hd ↦ ?_⟩
    rw [List.eq_of_mem_replicate hd]
    rfl
  rw [skipSpace, List.dropWhile_append_of_pos hall]
  exact skipSpace_cons_of_not h cs

theorem readNumber_repr (value : F) :
    readNumber format (format.repr value) = some (.float value) := by
  have htoken := format.isFloatToken_repr value
  rw [readNumber, not_isIntToken_of_isFloatToken htoken, if_neg Bool.false_ne_true, if_pos htoken,
    format.read_repr, Option.map_some]

/-- A number is read up to what may follow it. -/
theorem parseNumber_append {token rest : List Char} {value : Json F}
    (hread : readNumber format token = some value) (htoken : ∀ c ∈ token, isNumberChar c = true)
    (hrest : Delimited rest) : parseNumber format (token ++ rest) = some (value, rest) := by
  obtain ⟨htake, hdrop⟩ := takeWhile_token htoken hrest
  rw [parseNumber, htake, hdrop, hread, Option.map_some]

theorem parseLiteral_self (name : List Char) (value : Json F) (rest : List Char) :
    parseLiteral name value (name ++ rest) = some (value, rest) := by
  have hdrop : (name ++ rest).dropPrefix? name = some rest :=
    List.dropPrefix?_eq_some_iff.mpr ⟨name, rfl, beq_self_eq_true name⟩
  rw [parseLiteral, hdrop, Option.map_some]

/-- A sign or a digit is none of the characters that mean something else. -/
theorem ne_of_isSignOrDigit {c d : Char} (hc : isSignOrDigit c = true)
    (hd : isSignOrDigit d = false) : c ≠ d := by
  rintro rfl
  rw [hc] at hd
  cases hd

theorem isSpace_of_isSignOrDigit {c : Char} (hc : isSignOrDigit c = true) : isSpace c = false := by
  have hne {d : Char} (hd : isSignOrDigit d = false) : decide (c = d) = false :=
    decide_eq_false (ne_of_isSignOrDigit hc hd)
  rw [isSpace, hne rfl, hne rfl, hne rfl, hne rfl]
  rfl

/-- A text that begins with a sign or a digit is read as a number. -/
theorem parseJson_number {c : Char} {cs : List Char} (hc : isSignOrDigit c = true) (fuel : ℕ) :
    parseJson format (fuel + 1) (c :: cs) = parseNumber format (c :: cs) := by
  have hne {d : Char} (hd : isSignOrDigit d = false) : c ≠ d := ne_of_isSignOrDigit hc hd
  rw [parseJson, if_neg (hne rfl), if_neg (hne rfl), if_neg (hne rfl), if_neg (hne rfl),
    if_neg (hne rfl), if_neg (hne rfl)]

theorem head_of_isIntToken {token : List Char} (h : isIntToken token = true) :
    ∃ c cs, token = c :: cs ∧ isSignOrDigit c = true := by
  cases token with
  | nil => cases h
  | cons c cs => exact ⟨c, cs, rfl, isSignOrDigit_of_isIntToken h c List.mem_cons_self⟩

/-- A text begins with something to be read, and that is no closing bracket. -/
theorem head_dump (level : ℕ) (value : Json F) :
    ∃ c cs, value.dump format level = c :: cs ∧ isSpace c = false ∧ c ≠ ']' := by
  have hnumber {token : List Char} (h : ∃ c cs, token = c :: cs ∧ isSignOrDigit c = true) :
      ∃ c cs, token = c :: cs ∧ isSpace c = false ∧ c ≠ ']' := by
    obtain ⟨c, cs, htoken, hc⟩ := h
    exact ⟨c, cs, htoken, isSpace_of_isSignOrDigit hc, ne_of_isSignOrDigit hc rfl⟩
  match value with
  | .null => exact ⟨'n', _, rfl, rfl, by decide⟩
  | .bool true => exact ⟨'t', _, rfl, rfl, by decide⟩
  | .bool false => exact ⟨'f', _, rfl, rfl, by decide⟩
  | .int value => exact hnumber (head_of_isIntToken (readInt_toString value).1)
  | .float value => exact hnumber (head_of_isFloatToken (format.isFloatToken_repr value))
  | .str value => exact ⟨'"', _, rfl, rfl, by decide⟩
  | .arr [] => exact ⟨'[', _, rfl, rfl, by decide⟩
  | .arr (item :: items) => exact ⟨'[', _, rfl, rfl, by decide⟩
  | .obj [] => exact ⟨'{', _, rfl, rfl, by decide⟩
  | .obj ((key, value) :: members) => exact ⟨'{', _, rfl, rfl, by decide⟩

/-- Blanks before a value are skipped. -/
theorem skipSpace_newline_dump (level level' : ℕ) (value : Json F) (rest : List Char) :
    skipSpace (newline level ++ (value.dump format level' ++ rest)) =
      value.dump format level' ++ rest := by
  obtain ⟨c, cs, hdump, hspace, -⟩ := head_dump format level' value
  rw [hdump, List.cons_append]
  exact skipSpace_newline hspace level _

/-- What follows the last item. -/
theorem readSeparator_close {close : Char} (h : isSpace close = false) (level : ℕ)
    (rest : List Char) :
    readSeparator close (newline level ++ close :: rest) = some (true, rest) := by
  rw [readSeparator, skipSpace_newline h]
  exact if_pos rfl

/-- What follows the others. -/
theorem readSeparator_comma {close : Char} (h : ',' ≠ close) (rest : List Char) :
    readSeparator close (',' :: rest) = some (false, rest) := by
  rw [readSeparator, skipSpace_cons_of_not rfl]
  dsimp only
  rw [if_neg h, if_pos rfl]

theorem parseKey_dumpString (key : String) {fuel : ℕ} (h : key.length < fuel) (rest : List Char) :
    parseKey fuel (dumpString key ++ ':' :: rest) = some (key, rest) := by
  have hchars := parseChars_flatMap key.toList (by rwa [String.length_toList]) (':' :: rest)
  simp only [dumpString, List.cons_append, List.append_assoc, List.nil_append, parseKey, guard,
    if_true, Option.pure_def, Option.bind_eq_bind, Option.bind_some, hchars,
    skipSpace_cons_of_not (c := ':') rfl, String.ofList_toList]

namespace Json

/-- What is written before the first item comes first. -/
theorem dumpItems_eq_append (level : ℕ) (buf : List Char) (item : Json F) (items : List (Json F)) :
    dumpItems format level buf (item :: items) =
      buf ++ dumpItems format level [] (item :: items) := rfl

theorem dumpMembers_eq_append (level : ℕ) (buf : List Char) (member : String × Json F)
    (members : List (String × Json F)) :
    dumpMembers format level buf (member :: members) =
      buf ++ dumpMembers format level [] (member :: members) := rfl

/-- The text of an array that is not empty. -/
theorem dump_arr_append (level : ℕ) (item : Json F) (items : List (Json F)) (rest : List Char) :
    (arr (item :: items)).dump format level ++ rest =
      '[' :: (newline (level + 1) ++
        (dumpItems format (level + 1) [] (item :: items) ++ (newline level ++ ']' :: rest))) := by
  simp only [dump, dumpItems_eq_append format (level + 1) ('[' :: _), List.append_assoc,
    List.cons_append, List.nil_append]

/-- The text of an object that is not empty. -/
theorem dump_obj_append (level : ℕ) (member : String × Json F) (members : List (String × Json F))
    (rest : List Char) :
    (obj (member :: members)).dump format level ++ rest =
      '{' :: (newline (level + 1) ++
        (dumpMembers format (level + 1) [] (member :: members) ++
          (newline level ++ '}' :: rest))) := by
  simp only [dump, dumpMembers_eq_append format (level + 1) ('{' :: _), List.append_assoc,
    List.cons_append, List.nil_append]

theorem delimited_newline (level : ℕ) (rest : List Char) : Delimited (newline level ++ rest) :=
  delimited_cons rfl _

/-- An item ends where the next one, or the bracket, begins. -/
theorem delimited_dumpItems (level level' : ℕ) (items : List (Json F)) (rest : List Char) :
    Delimited (dumpItems format level (',' :: newline level) items ++
      (newline level' ++ rest)) := by
  cases items with
  | nil => exact delimited_newline _ _
  | cons item items => exact delimited_cons rfl _

theorem delimited_dumpMembers (level level' : ℕ) (members : List (String × Json F))
    (rest : List Char) :
    Delimited (dumpMembers format level (',' :: newline level) members ++
      (newline level' ++ rest)) := by
  cases members with
  | nil => exact delimited_newline _ _
  | cons member members => exact delimited_cons rfl _

mutual

/-- **Values.**  A value is read back from its text. -/
theorem parseJson_dump : ∀ (value : Json F) (level fuel : ℕ) (rest : List Char),
    value.size ≤ fuel → Delimited rest →
      parseJson format (fuel + 1) (value.dump format level ++ rest) = some (value, rest)
  | .null, _, _, rest, _, _ => parseLiteral_self "null".toList _ rest
  | .bool true, _, _, rest, _, _ => parseLiteral_self "true".toList _ rest
  | .bool false, _, _, rest, _, _ => parseLiteral_self "false".toList _ rest
  | .int value, _, fuel, rest, _, hrest => by
      obtain ⟨htoken, hread⟩ := readInt_toString value
      have hnumber : readNumber format (toString value).toList = some (.int value) := by
        rw [readNumber, if_pos htoken, hread]
      obtain ⟨c, cs, hcons, hc⟩ := head_of_isIntToken htoken
      rw [dump, hcons, List.cons_append, parseJson_number format hc, ← List.cons_append, ← hcons]
      exact parseNumber_append format hnumber
        (fun d hd ↦ isNumberChar_of_isSignOrDigit (isSignOrDigit_of_isIntToken htoken d hd)) hrest
  | .float value, _, fuel, rest, _, hrest => by
      have htoken := format.isFloatToken_repr value
      obtain ⟨c, cs, hcons, hc⟩ := head_of_isFloatToken htoken
      rw [dump, hcons, List.cons_append, parseJson_number format hc, ← List.cons_append, ← hcons]
      exact parseNumber_append format (readNumber_repr format value)
        (isNumberChar_of_isFloatToken htoken) hrest
  | .str value, _, fuel, rest, hfuel, _ => by
      have hchars := parseChars_flatMap value.toList (by rwa [String.length_toList]) rest
      rw [dump, dumpString, List.cons_append, List.append_assoc, List.singleton_append, parseJson,
        if_pos rfl, hchars, Option.map_some]
      dsimp only
      rw [String.ofList_toList]
  | .arr [], _, _, _, _, _ => rfl
  | .arr (item :: items), level, fuel, rest, hfuel, _ => by
      obtain ⟨fuel, rfl⟩ : ∃ n, fuel = n + 1 := Nat.exists_eq_add_one_of_ne_zero (by
        rw [size] at hfuel; omega)
      have hitems := parseItems_dump (item :: items) (level + 1) level fuel rest
        (List.cons_ne_nil _ _) (Nat.le_of_succ_le_succ hfuel)
      obtain ⟨c, cs, hcons, hspace, hbracket⟩ := head_dump format (level + 1) item
      have hskip : skipSpace (newline (level + 1) ++
          (dumpItems format (level + 1) [] (item :: items) ++ (newline level ++ ']' :: rest))) =
          dumpItems format (level + 1) [] (item :: items) ++ (newline level ++ ']' :: rest) := by
        rw [dumpItems, List.nil_append, List.append_assoc]
        exact skipSpace_newline_dump format _ _ _ _
      have hhead : (dumpItems format (level + 1) [] (item :: items) ++
          (newline level ++ ']' :: rest)).head? ≠ some ']' := by
        rw [dumpItems, hcons]
        exact fun h ↦ hbracket (Option.some.inj h)
      rw [dump_arr_append, parseJson, if_neg (by decide), if_pos rfl, hskip, if_neg hhead, hitems]
      rfl
  | .obj [], _, _, _, _, _ => rfl
  | .obj (member :: members), level, fuel, rest, hfuel, _ => by
      obtain ⟨fuel, rfl⟩ : ∃ n, fuel = n + 1 := Nat.exists_eq_add_one_of_ne_zero (by
        rw [size] at hfuel; omega)
      have hmembers := parseMembers_dump (member :: members) (level + 1) level fuel rest
        (List.cons_ne_nil _ _) (Nat.le_of_succ_le_succ hfuel)
      have hskip : skipSpace (newline (level + 1) ++
          (dumpMembers format (level + 1) [] (member :: members) ++
            (newline level ++ '}' :: rest))) =
          dumpMembers format (level + 1) [] (member :: members) ++
            (newline level ++ '}' :: rest) := skipSpace_newline rfl _ _
      have hhead : (dumpMembers format (level + 1) [] (member :: members) ++
          (newline level ++ '}' :: rest)).head? ≠ some '}' := by
        rw [dumpMembers]
        exact fun h ↦ absurd (Option.some.inj h) (by decide)
      rw [dump_obj_append, parseJson, if_neg (by decide), if_neg (by decide), if_pos rfl, hskip,
        if_neg hhead, hmembers]
      rfl

/-- The items of an array, from the first on. -/
theorem parseItems_dump : ∀ (items : List (Json F)) (level level' fuel : ℕ) (rest : List Char),
    items ≠ [] → sizeItems items ≤ fuel →
      parseItems format (fuel + 1)
        (dumpItems format level [] items ++ (newline level' ++ ']' :: rest)) = some (items, rest)
  | [], _, _, _, _, h, _ => absurd rfl h
  | item :: items, level, level', fuel, rest, _, hfuel => by
      rw [sizeItems] at hfuel
      obtain ⟨fuel, rfl⟩ : ∃ n, fuel = n + 1 := Nat.exists_eq_add_one_of_ne_zero (by omega)
      have hitem := parseJson_dump item level fuel _ (by omega)
        (delimited_dumpItems format level level' items (']' :: rest))
      rw [dumpItems, List.nil_append, List.append_assoc, parseItems, hitem]
      cases items with
      | nil =>
          rw [dumpItems, List.nil_append]
          simp only [Option.bind_eq_bind, Option.bind_some]
          rw [readSeparator_close rfl]
          rfl
      | cons next items =>
          have hitems := parseItems_dump (next :: items) level level' fuel rest
            (List.cons_ne_nil _ _) (by omega)
          have hskip : skipSpace (newline level ++ (dumpItems format level [] (next :: items) ++
              (newline level' ++ ']' :: rest))) =
              dumpItems format level [] (next :: items) ++ (newline level' ++ ']' :: rest) := by
            rw [dumpItems, List.nil_append, List.append_assoc]
            exact skipSpace_newline_dump format _ _ _ _
          rw [dumpItems_eq_append, List.cons_append, List.cons_append, List.append_assoc]
          simp only [Option.bind_eq_bind, Option.bind_some]
          rw [readSeparator_comma (by decide)]
          simp only [Option.bind_some, Bool.false_eq_true, if_false]
          rw [hskip, hitems]
          rfl

/-- The members of an object, from the first on. -/
theorem parseMembers_dump : ∀ (members : List (String × Json F)) (level level' fuel : ℕ)
    (rest : List Char), members ≠ [] → sizeMembers members ≤ fuel →
      parseMembers format (fuel + 1)
        (dumpMembers format level [] members ++ (newline level' ++ '}' :: rest)) =
          some (members, rest)
  | [], _, _, _, _, h, _ => absurd rfl h
  | (key, value) :: members, level, level', fuel, rest, _, hfuel => by
      rw [sizeMembers] at hfuel
      obtain ⟨fuel, rfl⟩ : ∃ n, fuel = n + 1 := Nat.exists_eq_add_one_of_ne_zero (by omega)
      have hvalue := parseJson_dump value level fuel _ (by omega)
        (delimited_dumpMembers format level level' members ('}' :: rest))
      have hkey := parseKey_dumpString key (Nat.lt_succ_of_le (by omega : key.length ≤ fuel))
        (' ' :: (value.dump format level ++
          (dumpMembers format level (',' :: newline level) members ++
            (newline level' ++ '}' :: rest))))
      have hblank : skipSpace (' ' :: (value.dump format level ++
          (dumpMembers format level (',' :: newline level) members ++
            (newline level' ++ '}' :: rest)))) = value.dump format level ++
          (dumpMembers format level (',' :: newline level) members ++
            (newline level' ++ '}' :: rest)) := by
        obtain ⟨c, cs, hcons, hspace, -⟩ := head_dump format level value
        rw [hcons]
        exact skipSpace_cons_of_not hspace _
      rw [dumpMembers, List.nil_append, List.append_assoc, List.cons_append, List.cons_append,
        List.append_assoc, parseMembers, hkey]
      simp only [Option.bind_eq_bind, Option.bind_some]
      rw [hblank, hvalue]
      simp only [Option.bind_some]
      cases members with
      | nil =>
          rw [dumpMembers, List.nil_append, readSeparator_close rfl]
          rfl
      | cons next members =>
          have hmembers := parseMembers_dump (next :: members) level level' fuel rest
            (List.cons_ne_nil _ _) (by omega)
          have hskip : skipSpace (newline level ++ (dumpMembers format level [] (next :: members) ++
              (newline level' ++ '}' :: rest))) =
              dumpMembers format level [] (next :: members) ++ (newline level' ++ '}' :: rest) :=
            skipSpace_newline rfl _ _
          rw [dumpMembers_eq_append, List.cons_append, List.cons_append, List.append_assoc,
            readSeparator_comma (by decide)]
          simp only [Option.bind_some, Bool.false_eq_true, if_false]
          rw [hskip, hmembers]
          rfl

end

end Json

/-! ## Texts -/

namespace Json

/-- Whether a value is written as a number. -/
def isNumber : Json F → Bool
  | int _ | float _ => true
  | _ => false

theorem length_le_length_dumpString (s : String) : s.length + 1 ≤ (dumpString s).length := by
  have hescape := length_le_length_escape s.toList
  rw [String.length_toList] at hescape
  rw [dumpString, List.length_cons, List.length_append]
  omega

mutual

/-- A text is long enough to be the fuel for its value. -/
theorem size_le_length_dump : ∀ (value : Json F) (level : ℕ),
    value.size ≤ (value.dump format level).length
  | null, _ | bool _, _ | int _, _ | float _, _ => Nat.zero_le _
  | str value, _ => length_le_length_dumpString value
  | arr [], _ | obj [], _ => Nat.le_succ 1
  | arr (item :: items), level => by
      have hitems := sizeItems_le_length_dumpItems (item :: items) (level + 1)
        (List.cons_ne_nil '[' (newline (level + 1)))
      rw [size, dump, List.length_append, List.length_append, List.length_singleton]
      omega
  | obj (member :: members), level => by
      have hmembers := sizeMembers_le_length_dumpMembers (member :: members) (level + 1)
        (List.cons_ne_nil '{' (newline (level + 1)))
      rw [size, dump, List.length_append, List.length_append, List.length_singleton]
      omega

theorem sizeItems_le_length_dumpItems : ∀ (items : List (Json F)) (level : ℕ) {buf : List Char},
    buf ≠ [] → sizeItems items ≤ (dumpItems format level buf items).length
  | [], _, _, _ => Nat.zero_le _
  | item :: items, level, buf, hbuf => by
      have hitem := size_le_length_dump item level
      have hitems := sizeItems_le_length_dumpItems items level
        (List.cons_ne_nil ',' (newline level))
      have hpos := List.length_pos_iff.mpr hbuf
      rw [sizeItems, dumpItems, List.length_append, List.length_append]
      omega

theorem sizeMembers_le_length_dumpMembers : ∀ (members : List (String × Json F)) (level : ℕ)
    {buf : List Char}, buf ≠ [] →
      sizeMembers members ≤ (dumpMembers format level buf members).length
  | [], _, _, _ => Nat.zero_le _
  | (key, value) :: members, level, buf, hbuf => by
      have hkey := length_le_length_dumpString key
      have hvalue := size_le_length_dump value level
      have hmembers := sizeMembers_le_length_dumpMembers members level
        (List.cons_ne_nil ',' (newline level))
      have hpos := List.length_pos_iff.mpr hbuf
      rw [sizeMembers, dumpMembers, List.length_append, List.length_append, List.length_cons,
        List.length_cons, List.length_append]
      omega

end

end Json

theorem skipSpace_dump (level : ℕ) (value : Json F) (rest : List Char) :
    skipSpace (value.dump format level ++ rest) = value.dump format level ++ rest := by
  obtain ⟨c, cs, hcons, hspace, -⟩ := head_dump format level value
  rw [hcons]
  exact skipSpace_cons_of_not hspace _

/-- **Round trip.**  A text is read as the value for which it was written. -/
theorem loads_dump (value : Json F) : loads format (value.dump format 0) = some value := by
  have hskip := skipSpace_dump format 0 value []
  have hparse := Json.parseJson_dump format value 0 _ []
    (Json.size_le_length_dump format value 0) (fun c hc ↦ nomatch hc)
  rw [List.append_nil] at hskip hparse
  rw [loads, hskip, hparse]
  rfl

end Courtside
