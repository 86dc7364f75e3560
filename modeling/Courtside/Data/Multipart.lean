import Courtside.Data.Delimited

/-!
# Multipart form data

A body of `multipart/form-data` is a sequence of parts between delimiters: a line break, two
dashes and the boundary.  The line break belongs to the delimiter, so the first delimiter
may stand at the very beginning, and the line break after the content of a part is not
content.  A part has header fields and, after an empty line, its content; its name and the
name of its file are parameters of one of the fields, in quotes.

`parseMultipart` reads a body by this grammar, and `renderMultipart` writes one without
escaping anything.  Delimiters can only be found where they were written if the boundary
occurs in none of the parts (`parseMultipart_render`).  The parts are then read one by one, and
the name of a file is read back exactly if it needs no escape
(`parsePart_renderPart_filename_iff`).
-/

namespace Courtside

abbrev Octets := List UInt8

/-- The octets of a text, in UTF-8. -/
def octets (text : String) : Octets := text.toUTF8.data.toList

theorem octets_append (text text' : String) :
    octets (text ++ text') = octets text ++ octets text' := by
  simp [octets]

theorem octets_eq_flatMap (text : String) :
    octets text = text.toList.flatMap String.utf8EncodeChar := by
  rw [octets, String.toUTF8_eq_toByteArray, ← String.utf8Encode_toList]
  exact List.toList_data_toByteArray

/-- The octets of an array from an index on, after those read before it. -/
theorem toList_loop (bytes : ByteArray) (index : ℕ) (read : List UInt8) :
    ByteArray.toList.loop bytes index read = read.reverse ++ bytes.data.toList.drop index := by
  fun_induction ByteArray.toList.loop bytes index read with
  | case1 index read hindex ih =>
      have hget : bytes.data.toList.drop index =
          bytes.get! index :: bytes.data.toList.drop (index + 1) := by
        rw [List.drop_eq_getElem_cons hindex, ByteArray.get!, getElem!_pos bytes.data index hindex]
        rfl
      rw [ih, hget, List.reverse_cons, List.append_assoc]
      rfl
  | case2 index read hindex =>
      have hlength : bytes.data.toList.length ≤ index := Nat.le_of_not_lt hindex
      rw [List.drop_of_length_le hlength, List.append_nil]

theorem toList_toUTF8 (text : String) : text.toUTF8.toList = octets text :=
  toList_loop text.toUTF8 0 []

/-- A part of a body. -/
structure FormPart where
  name : Octets
  filename : Option Octets
  contentType : Option Octets
  content : Octets
deriving DecidableEq

/-! ## Symbols -/

/-- A line break. -/
def crlf : Octets := [13, 10]

/-- A space or a tab. -/
def isBlank (b : UInt8) : Bool := b = 32 || b = 9

/-- A graphic octet of ASCII other than a quote and a backslash. -/
def isGraphic (b : UInt8) : Bool := 33 ≤ b && b ≤ 126 && b ≠ 34 && b ≠ 92

/-- An octet of a token: a graphic one that is none of `( ) , / : ; < = > ? @ [ ]`. -/
def isToken (b : UInt8) : Bool :=
  isGraphic b && !([40, 41, 44, 47, 58, 59, 60, 61, 62, 63, 64, 91, 93] : Octets).contains b

/-- A letter in lower case. -/
def toLower (b : UInt8) : UInt8 := if 65 ≤ b ∧ b ≤ 90 then b + 32 else b

/-- The octets that may stand in a quoted string as they are.  The grammars in use differ in
the control characters, and in what is not ASCII. -/
structure QuotedText where
  allows : UInt8 → Bool
  quote : allows 34 = false
  backslash : allows 92 = false
  cr : allows 13 = false
  graphic : ∀ b, isGraphic b = true → allows b = true

/-- Everything but quotes, backslashes and line breaks. -/
def QuotedText.lenient : QuotedText where
  allows b := b ≠ 34 && b ≠ 92 && b ≠ 13 && b ≠ 10
  quote := rfl
  backslash := rfl
  cr := rfl
  graphic b hb := by
    have hne : ∀ c : UInt8, isGraphic c = false → b ≠ c := by
      rintro c hc rfl
      cases hb.symm.trans hc
    simp [hne 34 rfl, hne 92 rfl, hne 13 rfl, hne 10 rfl]

/-! ## Reading -/

/-- What precedes each part. -/
def delimiter (boundary : Octets) : Octets := crlf ++ octets "--" ++ boundary

def skipBlanks (text : Octets) : Octets := text.dropWhile isBlank

variable (q : QuotedText)

/-- A quoted string after its opening quote, and what follows it. -/
def quotedString : Octets → Option (Octets × Octets)
  | [] => none
  | 34 :: text => some ([], text)
  | [92] => none
  | 92 :: b :: text => (quotedString text).map fun value ↦ (b :: value.1, value.2)
  | b :: text =>
      if q.allows b then (quotedString text).map fun value ↦ (b :: value.1, value.2) else none

/-- What follows an octet that is required. -/
def expect (b : UInt8) : Octets → Option Octets
  | [] => none
  | c :: text => if c = b then some text else none

/-- A token, and what follows it. -/
def token (text : Octets) : Option (Octets × Octets) :=
  if text.takeWhile isToken = [] then none
  else some (text.takeWhile isToken, text.dropWhile isToken)

/-- A quoted string or a token, and what follows it. -/
def parseValue (text : Octets) : Option (Octets × Octets) :=
  match expect 34 text with
  | some text => quotedString q text
  | none => token text

/-- The parameters of a field, so many at most. -/
def parseParams : ℕ → Octets → Option (List (Octets × Octets))
  | 0, text => if skipBlanks text = [] then some [] else none
  | fuel + 1, text =>
      if skipBlanks text = [] then some []
      else do
        let text ← expect 59 (skipBlanks text)
        let (name, text) ← token (skipBlanks text)
        let text ← expect 61 text
        let (value, text) ← parseValue q text
        let params ← parseParams fuel text
        return (name.map toLower, value) :: params

/-- The parameters of a field that says that its part is form data. -/
def parseDisposition (value : Octets) : Option (List (Octets × Octets)) := do
  let (type, text) ← token value
  if type.map toLower = octets "form-data" then parseParams q text.length text else none

/-- A header field: its name and its value. -/
def parseField (line : Octets) : Option (Octets × Octets) := do
  let (name, text) ← token line
  let value ← expect 58 text
  return (name.map toLower, skipBlanks value)

/-- Header fields, and the lines of the content after them. -/
def partOfLines (fields : List Octets) (content : List Octets) : Option FormPart := do
  let fields ← fields.mapM parseField
  let disposition ← fields.lookup (octets "content-disposition")
  let params ← parseDisposition q disposition
  let name ← params.lookup (octets "name")
  return {
    name
    filename := params.lookup (octets "filename")
    contentType := fields.lookup (octets "content-type")
    content := crlf.intercalate content }

/-- A line that is not the empty one. -/
def isField (line : Octets) : Bool := !line.isEmpty

/-- The lines of a part: an empty one separates its content from its header fields. -/
def parseLines (lines : List Octets) : Option FormPart :=
  match lines.dropWhile isField with
  | [] => none
  | _ :: content => partOfLines q (lines.takeWhile isField) content

/-- A part, after its delimiter. -/
def parsePart (piece : Octets) : Option FormPart := do
  let text ← expect 13 (skipBlanks piece)
  let text ← expect 10 text
  parseLines q (pieces crlf text)

/-- The line of a delimiter ends here, or the body does. -/
def endsLine : Octets → Bool
  | [] => true
  | 13 :: 10 :: _ => true
  | _ => false

/-- The parts up to the closing delimiter, whatever follows it. -/
def parseParts : List Octets → Option (List FormPart)
  | [] => none
  | (45 :: 45 :: text) :: _ => if endsLine (skipBlanks text) then some [] else none
  | piece :: others => do
      let part ← parsePart q piece
      let parts ← parseParts others
      return part :: parts

/-- A body: what precedes the first delimiter is ignored, and there is a part. -/
def parseMultipart (boundary body : Octets) : Option (List FormPart) :=
  (parseParts q (pieces (delimiter boundary) (crlf ++ body)).tail).filter fun parts ↦
    !parts.isEmpty

/-! ## Writing -/

/-- The quoted strings of a part's names, as they are. -/
def renderDisposition (name : Octets) (filename : Option Octets) : Octets :=
  octets "Content-Disposition: form-data; name=\"" ++ name ++ octets "\"" ++
    match filename with
    | some filename => octets "; filename=\"" ++ filename ++ octets "\""
    | none => []

def renderPart (part : FormPart) : Octets :=
  renderDisposition part.name part.filename ++ crlf ++
    (match part.contentType with
    | some contentType => octets "Content-Type: " ++ contentType ++ crlf
    | none => []) ++
    crlf ++ part.content

def renderMultipart (boundary : Octets) (parts : List FormPart) : Octets :=
  (parts.flatMap fun part ↦ octets "--" ++ boundary ++ crlf ++ renderPart part ++ crlf) ++
    octets "--" ++ boundary ++ octets "--" ++ crlf

/-- A small body. -/
example :
    parseMultipart .lenient (octets "B")
      (octets ("--B\r\nContent-Disposition: form-data; name=\"a\"; filename=\"b\"\r\n\r\n" ++
        "c\r\n--B--\r\n")) =
        some [⟨octets "a", some (octets "b"), none, octets "c"⟩] := by
  decide

/-! ## Tokens and quoted strings -/

section Reading

variable {q}

theorem expect_cons_self (b : UInt8) (text : Octets) : expect b (b :: text) = some text :=
  if_pos rfl

theorem token_append {word : Octets} {b : UInt8} (hword : ∀ b ∈ word, isToken b = true)
    (hne : word ≠ []) (hb : isToken b = false) (text : Octets) :
    token (word ++ b :: text) = some (word, b :: text) := by
  rw [token, List.takeWhile_append_of_pos hword, List.takeWhile_cons_of_neg (by simp [hb]),
    List.append_nil, if_neg hne, List.dropWhile_append_of_pos hword,
    List.dropWhile_cons_of_neg (by simp [hb])]

/-- A token does not begin with a blank. -/
theorem skipBlanks_token {word : Octets} (hword : ∀ b ∈ word, isToken b = true)
    (hne : word ≠ []) (text : Octets) : skipBlanks (word ++ text) = word ++ text := by
  obtain ⟨b, word, rfl⟩ := List.exists_cons_of_ne_nil hne
  have hb := hword b List.mem_cons_self
  have hblank : ∀ c : UInt8, isToken c = false → b ≠ c := by
    rintro c hc rfl
    cases hb.symm.trans hc
  refine List.dropWhile_cons_of_neg ?_
  simp [isBlank, hblank 32 rfl, hblank 9 rfl]

theorem quotedString_cons {b : UInt8} (hb : q.allows b = true) (text : Octets) :
    quotedString q (b :: text) =
      (quotedString q text).map fun value ↦ (b :: value.1, value.2) := by
  have hquote : b ≠ 34 := by
    rintro rfl
    cases hb.symm.trans q.quote
  have hbackslash : b ≠ 92 := by
    rintro rfl
    cases hb.symm.trans q.backslash
  rw [quotedString]
  · exact if_pos hb
  all_goals simp [hquote, hbackslash]

/-- What needs no escape is read back. -/
theorem quotedString_append {value : Octets} (hvalue : ∀ b ∈ value, q.allows b = true)
    (text : Octets) : quotedString q (value ++ 34 :: text) = some (value, text) := by
  induction value with
  | nil => rfl
  | cons b value ih =>
      obtain ⟨hb, hvalue⟩ := List.forall_mem_cons.mp hvalue
      rw [List.cons_append, quotedString_cons hb, ih hvalue]
      rfl

/-- What is read back from a text needs no escape, or the text has an escape, and is
longer. -/
theorem quotedString_sound {text value rest : Octets}
    (h : quotedString q text = some (value, rest)) :
    (text = value ++ 34 :: rest ∧ ∀ b ∈ value, q.allows b = true) ∨
      value.length + rest.length + 1 < text.length := by
  fun_induction quotedString q text generalizing value rest with
  | case1 => cases h
  | case2 text =>
      cases h
      exact .inl ⟨rfl, fun b hb ↦ (nomatch hb)⟩
  | case3 => cases h
  | case4 b text ih =>
      obtain ⟨⟨value', rest'⟩, htext, heq⟩ := Option.map_eq_some_iff.mp h
      cases heq
      refine .inr ?_
      rcases ih htext with ⟨rfl, -⟩ | hlength
      · simp
        omega
      · simp only [List.length_cons]
        omega
  | case5 b text _ _ _ hb ih =>
      obtain ⟨⟨value', rest'⟩, htext, heq⟩ := Option.map_eq_some_iff.mp h
      cases heq
      rcases ih htext with ⟨rfl, hvalue⟩ | hlength
      · exact .inl ⟨rfl, List.forall_mem_cons.mpr ⟨hb, hvalue⟩⟩
      · refine .inr ?_
        simp only [List.length_cons]
        omega
  | case6 => cases h

/-! ## Fields -/

theorem parseField_append {name : Octets} (hname : ∀ b ∈ name, isToken b = true) (hne : name ≠ [])
    (value : Octets) :
    parseField (name ++ 58 :: value) = some (name.map toLower, skipBlanks value) := by
  rw [parseField, token_append hname hne rfl]
  rfl

theorem parseParams_nil (fuel : ℕ) : parseParams q fuel [] = some [] := by
  cases fuel <;> rfl

/-- A parameter in quotes. -/
theorem parseParams_cons {name : Octets} (hname : ∀ b ∈ name, isToken b = true) (hne : name ≠ [])
    (fuel : ℕ) (text : Octets) :
    parseParams q (fuel + 1) (59 :: 32 :: (name ++ 61 :: 34 :: text)) =
      (quotedString q text).bind fun value ↦
        (parseParams q fuel value.2).map ((name.map toLower, value.1) :: ·) := by
  have hsemicolon : skipBlanks (59 :: 32 :: (name ++ 61 :: 34 :: text)) =
      59 :: 32 :: (name ++ 61 :: 34 :: text) := rfl
  have hblank : skipBlanks (32 :: (name ++ 61 :: 34 :: text)) = name ++ 61 :: 34 :: text :=
    skipBlanks_token hname hne (61 :: 34 :: text)
  rw [parseParams, hsemicolon, if_neg (List.cons_ne_nil _ _), expect_cons_self, Option.bind_eq_bind,
    Option.bind_some, hblank, token_append hname hne rfl]
  cases hvalue : quotedString q text with
  | none => simp [expect_cons_self, parseValue, hvalue]
  | some value =>
      cases hparams : parseParams q fuel value.2 <;>
        simp [expect_cons_self, parseValue, hvalue, hparams]

theorem parseField_disposition (text : Octets) :
    parseField (octets "Content-Disposition: form-data; name=\"" ++ text) =
      some (octets "content-disposition", octets "form-data; name=\"" ++ text) := by
  have hname : ∀ b ∈ octets "Content-Disposition", isToken b = true := List.all_eq_true.mp rfl
  exact parseField_append hname (by decide) (32 :: (octets "form-data; name=\"" ++ text))

theorem parseField_contentType {contentType : Octets} (h : skipBlanks contentType = contentType) :
    parseField (octets "Content-Type: " ++ contentType) =
      some (octets "content-type", contentType) := by
  have hname : ∀ b ∈ octets "Content-Type", isToken b = true := List.all_eq_true.mp rfl
  refine (parseField_append hname (by decide) (32 :: contentType)).trans ?_
  exact congrArg (fun value ↦ some (octets "content-type", value)) h

/-- The name of a part, and the parameters after it. -/
theorem parseDisposition_name {name : Octets} (hname : ∀ b ∈ name, q.allows b = true)
    (text : Octets) :
    parseDisposition q (octets "form-data; name=\"" ++ (name ++ 34 :: text)) =
      (parseParams q (name.length + text.length + 8) text).map ((octets "name", name) :: ·) := by
  have htoken : token (octets "form-data; name=\"" ++ (name ++ 34 :: text)) =
      some (octets "form-data",
        59 :: 32 :: (octets "name" ++ 61 :: 34 :: (name ++ 34 :: text))) := by
    have hword : ∀ b ∈ octets "form-data", isToken b = true := List.all_eq_true.mp rfl
    exact token_append hword (by decide) rfl _
  have hlength : (59 :: 32 :: (octets "name" ++ 61 :: 34 :: (name ++ 34 :: text))).length =
      name.length + text.length + 8 + 1 := by
    have hname : (octets "name").length = 4 := rfl
    simp only [List.length_cons, List.length_append, hname]
    omega
  have hparam : ∀ b ∈ octets "name", isToken b = true := List.all_eq_true.mp rfl
  rw [parseDisposition, htoken, Option.bind_eq_bind, Option.bind_some]
  refine (if_pos rfl).trans ?_
  rw [hlength, parseParams_cons hparam (by decide), quotedString_append hname]
  rfl

/-- The name of a file after it. -/
theorem parseDisposition_filename {name : Octets} (hname : ∀ b ∈ name, q.allows b = true)
    (text : Octets) :
    ∃ fuel, parseDisposition q
        (octets "form-data; name=\"" ++ (name ++ 34 :: (octets "; filename=\"" ++ text))) =
      (quotedString q text).bind fun value ↦ (parseParams q fuel value.2).map fun params ↦
        (octets "name", name) :: (octets "filename", value.1) :: params := by
  refine ⟨name.length + (octets "; filename=\"" ++ text).length + 7, ?_⟩
  have hparams : parseParams q (name.length + (octets "; filename=\"" ++ text).length + 7 + 1)
      (octets "; filename=\"" ++ text) =
        (quotedString q text).bind fun value ↦
          (parseParams q (name.length + (octets "; filename=\"" ++ text).length + 7) value.2).map
            ((octets "filename", value.1) :: ·) := by
    have hword : ∀ b ∈ octets "filename", isToken b = true := List.all_eq_true.mp rfl
    exact parseParams_cons hword (by decide) _ text
  rw [parseDisposition_name hname, hparams]
  cases quotedString q text with
  | none => rfl
  | some value =>
      rw [Option.bind_some, Option.bind_some, Option.map_map]
      rfl

/-! ## Parts -/

theorem pieces_lines {lines : List Octets} (hlines : ∀ line ∈ lines, ¬ crlf <:+: line)
    (text : Octets) :
    pieces crlf (lines.flatMap (· ++ crlf) ++ text) = lines ++ pieces crlf text := by
  induction lines with
  | nil => rfl
  | cons line lines ih =>
      obtain ⟨hline, hlines⟩ := List.forall_mem_cons.mp hlines
      rw [List.flatMap_cons, List.append_assoc, List.append_assoc, List.cons_append, ← ih hlines]
      exact pieces_append_delimiter (by decide) hline _

theorem parsePart_crlf (text : Octets) :
    parsePart q (crlf ++ text) = parseLines q (pieces crlf text) := rfl

theorem isField_iff {line : Octets} : isField line = true ↔ line ≠ [] := by
  simp [isField]

theorem parseLines_append {fields : List Octets} (hfields : ∀ field ∈ fields, field ≠ [])
    (content : List Octets) :
    parseLines q (fields ++ [] :: content) = partOfLines q fields content := by
  have hall : ∀ field ∈ fields, isField field = true :=
    fun field hfield ↦ isField_iff.mpr (hfields field hfield)
  have hempty : ¬ isField [] = true := Bool.false_ne_true
  rw [parseLines, List.takeWhile_append_of_pos hall, List.dropWhile_append_of_pos hall,
    List.takeWhile_cons_of_neg hempty, List.dropWhile_cons_of_neg hempty, List.append_nil]

/-- The first line of a part that can be read is a header field of it. -/
theorem parseLines_cons {field : Octets} (hfield : field ≠ []) (lines : List Octets) :
    parseLines q (field :: lines) = none ∨
      ∃ fields content,
        parseLines q (field :: lines) = partOfLines q (field :: fields) content := by
  have hfield := isField_iff.mpr hfield
  rw [parseLines, List.takeWhile_cons_of_pos hfield, List.dropWhile_cons_of_pos hfield]
  split
  · exact .inl rfl
  · exact .inr ⟨_, _, rfl⟩

/-! ## What is written -/

/-- The header fields of a part. -/
def headerLines (part : FormPart) : List Octets :=
  renderDisposition part.name part.filename ::
    (part.contentType.map (octets "Content-Type: " ++ ·)).toList

theorem renderPart_eq (part : FormPart) :
    renderPart part = (headerLines part).flatMap (· ++ crlf) ++ (crlf ++ part.content) := by
  rw [renderPart, headerLines]
  cases part.contentType <;> simp

/-- The parts of a part are what they are written as. -/
structure Writable (q : QuotedText) (part : FormPart) : Prop where
  name : ∀ b ∈ part.name, q.allows b = true
  filename : ∀ filename ∈ part.filename, ∀ b ∈ filename, q.allows b = true
  contentType : ∀ contentType ∈ part.contentType,
    13 ∉ contentType ∧ skipBlanks contentType = contentType

theorem cr_notMem_of_allows {text : Octets} (h : ∀ b ∈ text, q.allows b = true) : 13 ∉ text :=
  fun hmem ↦ by cases (h 13 hmem).symm.trans q.cr

/-- A line break has a carriage return. -/
theorem not_infix_of_cr_notMem {text : Octets} (h : 13 ∉ text) : ¬ crlf <:+: text :=
  fun hoccurs ↦ h (hoccurs.subset List.mem_cons_self)

theorem renderDisposition_eq (name : Octets) (filename : Option Octets) :
    renderDisposition name filename =
      octets "Content-Disposition: form-data; name=\"" ++ (name ++ 34 ::
        match filename with
        | some filename => octets "; filename=\"" ++ (filename ++ [34])
        | none => []) := by
  have hquote : octets "\"" = [34] := rfl
  cases filename <;> simp [renderDisposition, hquote]

theorem cr_notMem_dispositionField : 13 ∉ octets "Content-Disposition: form-data; name=\"" := by
  decide

theorem cr_notMem_filenameField : 13 ∉ octets "; filename=\"" := by decide

theorem dispositionField_ne_nil : octets "Content-Disposition: form-data; name=\"" ≠ [] := by
  decide

theorem cr_notMem_renderDisposition {name : Octets} (hname : 13 ∉ name) {filename : Option Octets}
    (hfilename : ∀ f ∈ filename, 13 ∉ f) : 13 ∉ renderDisposition name filename := by
  rw [renderDisposition_eq]
  cases filename with
  | none => simp [cr_notMem_dispositionField, hname]
  | some filename =>
      simp [cr_notMem_dispositionField, hname, cr_notMem_filenameField, hfilename filename rfl]

/-- The parts of a field that says what a part is. -/
theorem parseDisposition_render {part : FormPart} (h : Writable q part) :
    ∃ params, (∃ value, parseField (renderDisposition part.name part.filename) =
        some (octets "content-disposition", value) ∧ parseDisposition q value = some params) ∧
      params.lookup (octets "name") = some part.name ∧
        params.lookup (octets "filename") = part.filename := by
  rw [renderDisposition_eq]
  cases hpart : part.filename with
  | none =>
      refine ⟨[(octets "name", part.name)], ⟨_, parseField_disposition _, ?_⟩, ?_, ?_⟩
      · rw [parseDisposition_name h.name, parseParams_nil]
        rfl
      · exact List.lookup_cons_self
      · rfl
  | some filename =>
      refine ⟨[(octets "name", part.name), (octets "filename", filename)],
        ⟨_, parseField_disposition _, ?_⟩, ?_, ?_⟩
      · obtain ⟨fuel, hparams⟩ := parseDisposition_filename h.name (filename ++ [34])
        rw [hparams, quotedString_append (h.filename filename hpart), Option.bind_some,
          parseParams_nil]
        rfl
      · exact List.lookup_cons_self
      · have hne : (octets "filename" == octets "name") = false := by decide
        rw [List.lookup_cons, hne]
        exact List.lookup_cons_self

/-- The header fields of a part, read. -/
theorem partOfLines_headerLines {part : FormPart} (h : Writable q part) :
    partOfLines q (headerLines part) (pieces crlf part.content) = some part := by
  obtain ⟨params, ⟨value, hfield, hparams⟩, hname, hfilename⟩ := parseDisposition_render h
  have hcontent := intercalate_pieces (List.cons_ne_nil (13 : UInt8) [10]) part.content
  have hne : (octets "content-type" == octets "content-disposition") = false := by decide
  rw [partOfLines, headerLines, List.mapM_cons, hfield]
  obtain ⟨name, filename, contentType, content⟩ := part
  cases contentType with
  | none =>
      simp [hparams, hname, hfilename, hne, List.lookup_cons, crlf, hcontent]
  | some contentType =>
      have htype := parseField_contentType (h.contentType contentType rfl).2
      simp [htype, hparams, hname, hfilename, hne, List.lookup_cons, crlf, hcontent]

theorem cr_notMem_headerLines {part : FormPart} (h : Writable q part) :
    ∀ line ∈ headerLines part, 13 ∉ line := by
  rw [headerLines, List.forall_mem_cons]
  refine ⟨cr_notMem_renderDisposition (cr_notMem_of_allows h.name)
    fun filename hmem ↦ cr_notMem_of_allows (h.filename filename hmem), fun line hline ↦ ?_⟩
  obtain ⟨contentType, hmem, rfl⟩ := Option.map_eq_some_iff.mp (Option.mem_toList.mp hline)
  have hstart : 13 ∉ octets "Content-Type: " := by decide
  rw [List.mem_append]
  rintro (hmem' | hmem')
  · exact hstart hmem'
  · exact (h.contentType contentType hmem).1 hmem'

theorem ne_nil_of_mem_headerLines {part : FormPart} : ∀ line ∈ headerLines part, line ≠ [] := by
  have htype : octets "Content-Type: " ≠ [] := by decide
  rw [headerLines, List.forall_mem_cons, renderDisposition_eq]
  refine ⟨List.append_ne_nil_of_left_ne_nil dispositionField_ne_nil _, fun line hline ↦ ?_⟩
  obtain ⟨contentType, -, rfl⟩ := Option.map_eq_some_iff.mp (Option.mem_toList.mp hline)
  exact List.append_ne_nil_of_left_ne_nil htype _

/-- **One part.**  What needs no escape is read as it was written. -/
theorem parsePart_renderPart {part : FormPart} (h : Writable q part) :
    parsePart q (crlf ++ renderPart part) = some part := by
  have hlines : ∀ line ∈ headerLines part, ¬ crlf <:+: line :=
    fun line hline ↦ not_infix_of_cr_notMem (cr_notMem_headerLines h line hline)
  rw [parsePart_crlf, renderPart_eq, pieces_lines hlines, pieces_delimiter_append (by decide),
    parseLines_append ne_nil_of_mem_headerLines, partOfLines_headerLines h]

/-- The name of a file is the quoted string that follows that of the part. -/
theorem filename_of_partOfLines {name text : Octets} (hname : ∀ b ∈ name, q.allows b = true)
    {fields content : List Octets} {part : FormPart}
    (h : partOfLines q ((octets "Content-Disposition: form-data; name=\"" ++
      (name ++ 34 :: (octets "; filename=\"" ++ text))) :: fields) content = some part) :
    ∃ value, quotedString q text = some value ∧ part.filename = some value.1 := by
  obtain ⟨fuel, hparams⟩ := parseDisposition_filename hname text
  have hne : (octets "filename" == octets "name") = false := by decide
  rw [partOfLines, List.mapM_cons, parseField_disposition] at h
  cases hfields : fields.mapM parseField with
  | none => simp [hfields] at h
  | some others =>
      cases hvalue : quotedString q text with
      | none => simp [hfields, hparams, hvalue] at h
      | some value =>
          rw [hvalue, Option.bind_some] at hparams
          cases hrest : parseParams q fuel value.2 with
          | none => simp [hfields, hparams, hrest] at h
          | some params =>
              simp only [hfields, hparams, hrest, Option.pure_def, Option.bind_eq_bind,
                Option.bind_some, List.lookup_cons_self, Option.map_some, Option.some.injEq] at h
              have hlookup : ((octets "name", name) :: (octets "filename", value.1) ::
                  params).lookup (octets "filename") = some value.1 := by
                rw [List.lookup_cons, hne]
                exact List.lookup_cons_self
              exact ⟨value, rfl, h ▸ hlookup⟩

/-- A field up to the name of its file. -/
def dispositionStart (name : Octets) : Octets :=
  octets "Content-Disposition: form-data; name=\"" ++ (name ++ 34 :: octets "; filename=\"")

theorem dispositionStart_append (name text : Octets) :
    dispositionStart name ++ text = octets "Content-Disposition: form-data; name=\"" ++
      (name ++ 34 :: (octets "; filename=\"" ++ text)) := by
  simp [dispositionStart]

theorem cr_notMem_dispositionStart {name : Octets} (hname : 13 ∉ name) :
    13 ∉ dispositionStart name := by
  simp [dispositionStart, cr_notMem_dispositionField, hname, cr_notMem_filenameField]

theorem renderPart_eq_of_filename {part : FormPart} {filename : Octets}
    (h : part.filename = some filename) :
    ∃ rest, renderPart part =
      dispositionStart part.name ++ (filename ++ [34] ++ (crlf ++ rest)) := by
  rw [renderPart, renderDisposition_eq, h]
  simp only [dispositionStart, List.append_assoc, List.cons_append]
  exact ⟨_, rfl⟩

/-- **Names of files.**  The name of a file is read back if and only if it needs no escape. -/
theorem parsePart_renderPart_filename_iff {part : FormPart} {filename : Octets}
    (hfilename : part.filename = some filename) (hname : ∀ b ∈ part.name, q.allows b = true)
    (htype : ∀ contentType ∈ part.contentType,
      13 ∉ contentType ∧ skipBlanks contentType = contentType) :
    (∃ part', parsePart q (crlf ++ renderPart part) = some part' ∧
        part'.filename = some filename) ↔ ∀ b ∈ filename, q.allows b = true := by
  constructor
  · rintro ⟨part', hpart, hread⟩
    obtain ⟨rest, hrest⟩ := renderPart_eq_of_filename hfilename
    -- the first line ends at the first line break in the name of the file, or after it
    have hsome : pieces crlf (filename ++ [34] ++ (crlf ++ rest)) ≠ [] := pieces_ne_nil _
    obtain ⟨cut, others, hpieces⟩ := List.exists_cons_of_ne_nil hsome
    have hhead : (pieces crlf (filename ++ [34] ++ (crlf ++ rest))).head? = some cut := by
      rw [hpieces]
      rfl
    have hcut : cut <+: filename ++ [34] := prefix_of_head?_pieces (List.cons_ne_nil 13 [10]) hhead
    have hstart := cr_notMem_dispositionStart (cr_notMem_of_allows hname)
    rw [parsePart_crlf, hrest, crlf, pieces_append_of_notMem hstart, ← crlf, hpieces,
      List.modifyHead_cons] at hpart
    have hne : dispositionStart part.name ++ cut ≠ [] := by
      simp [dispositionStart, dispositionField_ne_nil]
    rcases parseLines_cons (q := q) hne others with hnone | ⟨fields, content, hsome⟩
    · cases hnone.symm.trans hpart
    · rw [hsome, dispositionStart_append] at hpart
      obtain ⟨⟨value, rest'⟩, hvalue, heq⟩ := filename_of_partOfLines hname hpart
      obtain rfl : filename = value := Option.some.inj (hread.symm.trans heq)
      rcases quotedString_sound hvalue with ⟨-, hallows⟩ | hlength
      · exact hallows
      · -- an escape takes room, and there is none
        have hle := hcut.length_le
        rw [List.length_append, List.length_singleton] at hle
        omega
  · intro hallows
    refine ⟨part, parsePart_renderPart ⟨hname, ?_, htype⟩, hfilename⟩
    intro f hf
    rw [hfilename] at hf
    obtain rfl := Option.some.inj hf
    exact hallows

/-! ## Bodies -/

/-- The delimiters of a body, and what follows each. -/
theorem crlf_renderMultipart (boundary : Octets) (parts : List FormPart) :
    crlf ++ renderMultipart boundary parts =
      (parts.map (crlf ++ renderPart ·) ++ [octets "--" ++ crlf]).flatMap
        (delimiter boundary ++ ·) := by
  rw [renderMultipart]
  induction parts with
  | nil => simp [delimiter]
  | cons part parts ih =>
      rw [List.map_cons, List.cons_append]
      refine Eq.trans ?_ (congrArg (delimiter boundary ++ (crlf ++ renderPart part) ++ ·) ih)
      simp [delimiter]

theorem parseParts_crlf (text : Octets) (others : List Octets) :
    parseParts q ((crlf ++ text) :: others) =
      (parsePart q (crlf ++ text)).bind fun part ↦ (parseParts q others).map (part :: ·) := by
  have hcrlf : crlf ++ text = 13 :: 10 :: text := rfl
  rw [hcrlf, parseParts]
  · cases parseParts q others <;> rfl
  · simp

theorem parseParts_renderPart (parts : List FormPart) :
    parseParts q (parts.map (crlf ++ renderPart ·) ++ [octets "--" ++ crlf]) =
      parts.mapM fun part ↦ parsePart q (crlf ++ renderPart part) := by
  induction parts with
  | nil => rfl
  | cons part parts ih =>
      rw [List.map_cons, List.cons_append, parseParts_crlf, ih, List.mapM_cons]
      cases parts.mapM fun part ↦ parsePart q (crlf ++ renderPart part) <;> rfl

theorem mapM_parsePart_renderPart {parts : List FormPart} (h : ∀ part ∈ parts, Writable q part) :
    (parts.mapM fun part ↦ parsePart q (crlf ++ renderPart part)) = some parts := by
  induction parts with
  | nil => rfl
  | cons part parts ih =>
      obtain ⟨hpart, hparts⟩ := List.forall_mem_cons.mp h
      rw [List.mapM_cons, parsePart_renderPart hpart, ih hparts]
      rfl

/-- The delimiter does not occur after the last one. -/
theorem not_delimiter_infix_closing (boundary : Octets) :
    ¬ delimiter boundary <:+: octets "--" ++ crlf := by
  have hstart : [13, 10, 45] <+: delimiter boundary := ⟨45 :: boundary, rfl⟩
  have hclosing : ¬ [13, 10, 45] <:+: octets "--" ++ crlf := by decide
  exact fun hoccurs ↦ hclosing (hstart.isInfix.trans hoccurs)

/-- **The parts of a body.**  A body whose parts do not contain the delimiter is read part
by part. -/
theorem parseMultipart_renderMultipart {boundary : Octets} (hboundary : 13 ∉ boundary)
    {parts : List FormPart} (hne : parts ≠ [])
    (hparts : ∀ part ∈ parts, ¬ delimiter boundary <:+: crlf ++ renderPart part) :
    parseMultipart q boundary (renderMultipart boundary parts) =
      parts.mapM fun part ↦ parsePart q (crlf ++ renderPart part) := by
  have hhead : 13 ∉ 10 :: (octets "--" ++ boundary) := by
    have hdashes : 13 ∉ 10 :: octets "--" := by decide
    exact fun hmem ↦ (List.mem_append.mp hmem).elim hdashes hboundary
  have hempty : ¬ delimiter boundary <:+: [] :=
    fun hoccurs ↦ List.cons_ne_nil _ _ (List.infix_nil.mp hoccurs)
  have hpieces : ∀ piece ∈ parts.map (crlf ++ renderPart ·) ++ [octets "--" ++ crlf],
      ¬ delimiter boundary <:+: piece := by
    rw [List.forall_mem_append, List.forall_mem_map]
    refine ⟨hparts, fun piece hpiece ↦ ?_⟩
    rw [List.mem_singleton.mp hpiece]
    exact not_delimiter_infix_closing boundary
  have hcut : pieces (delimiter boundary) (crlf ++ renderMultipart boundary parts) =
      [] :: (parts.map (crlf ++ renderPart ·) ++ [octets "--" ++ crlf]) := by
    rw [crlf_renderMultipart]
    exact pieces_flatMap hhead hempty hpieces
  rw [parseMultipart, hcut, List.tail_cons, parseParts_renderPart]
  obtain ⟨part, parts, rfl⟩ := List.exists_cons_of_ne_nil hne
  rw [List.mapM_cons]
  cases parsePart q (crlf ++ renderPart part) with
  | none => rfl
  | some part' => cases parts.mapM fun part ↦ parsePart q (crlf ++ renderPart part) <;> rfl

/-- **Round trip.**  A body whose parts need no escape is read as it was written, if its
parts do not contain the delimiter. -/
theorem parseMultipart_render {boundary : Octets} (hboundary : 13 ∉ boundary)
    {parts : List FormPart} (hne : parts ≠ []) (hwritable : ∀ part ∈ parts, Writable q part)
    (hparts : ∀ part ∈ parts, ¬ delimiter boundary <:+: crlf ++ renderPart part) :
    parseMultipart q boundary (renderMultipart boundary parts) = some parts := by
  rw [parseMultipart_renderMultipart hboundary hne hparts, mapM_parsePart_renderPart hwritable]

/-- A body without parts is not one. -/
theorem parseMultipart_render_nil {boundary : Octets} (hboundary : 13 ∉ boundary) :
    parseMultipart q boundary (renderMultipart boundary []) = none := by
  have hhead : 13 ∉ 10 :: (octets "--" ++ boundary) := by
    have hdashes : 13 ∉ 10 :: octets "--" := by decide
    exact fun hmem ↦ (List.mem_append.mp hmem).elim hdashes hboundary
  have hempty : ¬ delimiter boundary <:+: [] :=
    fun hoccurs ↦ List.cons_ne_nil _ _ (List.infix_nil.mp hoccurs)
  have hcut : pieces (delimiter boundary) (crlf ++ renderMultipart boundary []) =
      [[], octets "--" ++ crlf] := by
    rw [crlf_renderMultipart]
    exact pieces_flatMap hhead hempty
      (List.forall_mem_singleton.mpr (not_delimiter_infix_closing boundary))
  rw [parseMultipart, hcut]
  rfl

end Reading

/-! ## Boundaries -/

/-- A boundary that what is written around the parts cannot be taken for. -/
structure IsBoundary (boundary : Octets) : Prop where
  separators : ∀ b ∈ ([10, 13, 32, 34] : Octets), b ∉ boundary
  header : ∀ text ∈ ["", "Content-Disposition: form-data; name=", "; filename=", "Content-Type:"],
    ¬ boundary <:+: octets text

/-- The boundary occurs in nothing that the part consists of. -/
structure Unmarked (boundary : Octets) (part : FormPart) : Prop where
  name : ¬ boundary <:+: part.name
  filename : ∀ filename ∈ part.filename, ¬ boundary <:+: filename
  contentType : ∀ contentType ∈ part.contentType, ¬ boundary <:+: contentType
  content : ¬ boundary <:+: part.content

section Boundaries

variable {boundary : Octets}

theorem not_infix_renderDisposition (hboundary : IsBoundary boundary) {name : Octets}
    (hname : ¬ boundary <:+: name) {filename : Option Octets}
    (hfilename : ∀ f ∈ filename, ¬ boundary <:+: f) :
    ¬ boundary <:+: renderDisposition name filename := by
  have hquote : (34 : UInt8) ∉ boundary := hboundary.separators 34 (by decide)
  have hnil : ¬ boundary <:+: [] := hboundary.header "" (by decide)
  have hstart := hboundary.header "Content-Disposition: form-data; name=" (by decide)
  have hnext := hboundary.header "; filename=" (by decide)
  rw [renderDisposition_eq]
  refine not_infix_append_cons hquote hstart (not_infix_append_cons hquote hname ?_)
  cases filename with
  | none => exact hnil
  | some filename =>
      exact not_infix_append_cons hquote hnext
        (not_infix_append_cons hquote (hfilename filename rfl) hnil)

/-- A boundary that occurs in nothing of a part does not occur across what it consists of. -/
theorem not_infix_renderPart (hboundary : IsBoundary boundary) {part : FormPart}
    (h : Unmarked boundary part) : ¬ boundary <:+: crlf ++ renderPart part := by
  have hcr : (13 : UInt8) ∉ boundary := hboundary.separators 13 (by decide)
  have hlf : (10 : UInt8) ∉ boundary := hboundary.separators 10 (by decide)
  have hspace : (32 : UInt8) ∉ boundary := hboundary.separators 32 (by decide)
  have hnil : ¬ boundary <:+: [] := hboundary.header "" (by decide)
  have hcrlf : ∀ {text}, ¬ boundary <:+: text → ∀ {left}, ¬ boundary <:+: left →
      ¬ boundary <:+: left ++ (crlf ++ text) := fun htext _ hleft ↦
    not_infix_append_cons hcr hleft (not_infix_append_cons hlf hnil htext)
  have hdisposition := not_infix_renderDisposition hboundary h.name h.filename
  have hcontent := hcrlf h.content hnil
  have htype := hboundary.header "Content-Type:" (by decide)
  rw [renderPart_eq, headerLines]
  cases hpart : part.contentType with
  | none => simpa using hcrlf (hcrlf hcontent hdisposition) hnil
  | some contentType =>
      have heq : octets "Content-Type: " = octets "Content-Type:" ++ [32] := rfl
      have hline := not_infix_append_cons hspace htype (h.contentType contentType hpart)
      simpa [heq] using hcrlf (hcrlf (hcrlf hcontent hline) hdisposition) hnil

theorem not_infix_of_unmarked (hboundary : IsBoundary boundary) {part : FormPart}
    (h : Unmarked boundary part) : ¬ delimiter boundary <:+: crlf ++ renderPart part :=
  fun hoccurs ↦ not_infix_renderPart hboundary h
    ((List.suffix_append _ boundary).isInfix.trans hoccurs)

end Boundaries

/-! ## Texts -/

/-- The text of some octets, if they are UTF-8. -/
def decodeUtf8 (bytes : Octets) : Option String := String.fromUTF8? ⟨bytes.toArray⟩

theorem decodeUtf8_octets (text : String) : decodeUtf8 (octets text) = some text := by
  have hvalid : (ByteArray.mk (octets text).toArray).IsValidUTF8 := text.isValidUTF8
  rw [decodeUtf8, String.fromUTF8?, dif_pos hvalid]
  rfl

end Courtside
