import Courtside.Bodies.Boundary
import Courtside.Roster.Upload

/-!
# The body of a player's clip

`uploadVideo(for:for:)` sends a clip with the name of the player, as it was typed, and the
team.  Both are the content of a part of their own, where they may be anything, but the name
of the file is made of them too, and it is written between quotes as it is.

A reader gets back what was meant if and only if neither needs an escape there
(`upload_received_iff`): a quote ends the name of the file early, a backslash goes missing,
and a line break ends the header field.
-/

namespace Courtside

/-! ## The body -/

/-- The body of the request that `uploadVideo(for:for:)` sends.  There is no video if its
file cannot be read. -/
def uploadVideoBody (boundary playerName team : String) (videoData : Option Octets) : Octets :=
  let videoFileName := playerName ++ "_" ++ team ++ ".mov"
  (match videoData with
    | some videoData =>
        octets ("--" ++ boundary ++ "\r\n") ++
          octets ("Content-Disposition: form-data; name=\"file\"; filename=\"" ++
            videoFileName ++ "\"\r\n") ++
          octets "Content-Type: video/quicktime\r\n\r\n" ++ videoData ++ octets "\r\n"
    | none => []) ++
    octets ("--" ++ boundary ++ "\r\n") ++
    octets "Content-Disposition: form-data; name=\"player_name\"\r\n\r\n" ++
    octets playerName ++ octets "\r\n" ++
    octets ("--" ++ boundary ++ "\r\n") ++
    octets "Content-Disposition: form-data; name=\"team\"\r\n\r\n" ++
    octets team ++ octets "\r\n" ++
    octets ("--" ++ boundary ++ "--\r\n")

def Part.encode (part : Part) : FormPart where
  name := octets part.name
  filename := part.filename.map octets
  contentType := part.contentType.map octets
  content := part.content

/-- The part for the video. -/
def videoPart (playerName team : String) (videoData : Octets) : FormPart where
  name := octets "file"
  filename := some (octets (playerName ++ "_" ++ team ++ ".mov"))
  contentType := some (octets "video/quicktime")
  content := videoData

/-- A part for a text. -/
def textPart (name text : String) : FormPart where
  name := octets name
  filename := none
  contentType := none
  content := octets text

/-- The parts of the body. -/
def uploadParts (playerName team : String) (videoData : Option Octets) : List FormPart :=
  (videoData.map (videoPart playerName team)).toList ++
    [textPart "player_name" playerName, textPart "team" team]

theorem uploadVideoBody_eq (boundary playerName team : String) (videoData : Option Octets) :
    uploadVideoBody boundary playerName team videoData =
      renderMultipart (octets boundary) (uploadParts playerName team videoData) := by
  have hfile : octets "Content-Disposition: form-data; name=\"file\"; filename=\"" =
      octets "Content-Disposition: form-data; name=\"" ++ octets "file" ++ octets "\"" ++
        octets "; filename=\"" := rfl
  have hname : octets "Content-Disposition: form-data; name=\"player_name\"\r\n\r\n" =
      octets "Content-Disposition: form-data; name=\"" ++ octets "player_name" ++ octets "\"" ++
        crlf ++ crlf := rfl
  have hteam : octets "Content-Disposition: form-data; name=\"team\"\r\n\r\n" =
      octets "Content-Disposition: form-data; name=\"" ++ octets "team" ++ octets "\"" ++
        crlf ++ crlf := rfl
  have hclose : octets "\"\r\n" = octets "\"" ++ crlf := rfl
  have htype : octets "Content-Type: video/quicktime\r\n\r\n" =
      octets "Content-Type: " ++ octets "video/quicktime" ++ crlf ++ crlf := rfl
  have hclosing : octets "--\r\n" = octets "--" ++ crlf := rfl
  have hcrlf : octets "\r\n" = crlf := rfl
  cases videoData <;>
    simp [uploadVideoBody, uploadParts, renderMultipart, renderPart, renderDisposition, videoPart,
      textPart, octets_append, hfile, hname, hteam, hclose, htype, hclosing, hcrlf]

/-- The request of the client. -/
theorem encode_clientUpload (boundary playerName team : String) (videoData : Octets) :
    (clientUpload boundary playerName team videoData).parts.map Part.encode =
      uploadParts playerName team (some videoData) := by
  have hname : playerName.toUTF8.toList = octets playerName := toList_toUTF8 playerName
  have hteam : team.toUTF8.toList = octets team := toList_toUTF8 team
  rw [clientUpload, hname, hteam]
  rfl

/-! ## The boundary -/

section Boundaries

variable {uuid : UUID} {playerName team : String}

theorem unmarked_videoPart (hname : ¬ octets uuid.boundary <:+: octets playerName)
    (hteam : ¬ octets uuid.boundary <:+: octets team) {videoData : Octets}
    (hvideo : ¬ octets uuid.boundary <:+: videoData) :
    Unmarked (octets uuid.boundary) (videoPart playerName team videoData) := by
  have hfield : 45 ∉ octets "file" := by decide
  have htype : 45 ∉ octets "video/quicktime" := by decide
  have hextension : 45 ∉ octets "mov" := by decide
  refine ⟨uuid.not_boundary_infix_of_notMem hfield, fun filename hfilename ↦ ?_,
    fun contentType hcontentType ↦ ?_, hvideo⟩
  · -- the boundary has no underscore and no full stop, so it lies between them
    have heq : octets (playerName ++ "_" ++ team ++ ".mov") =
        octets playerName ++ 95 :: (octets team ++ 46 :: octets "mov") := by
      have hunderscore : octets "_" = [95] := rfl
      have hdot : octets ".mov" = 46 :: octets "mov" := rfl
      simp [octets_append, hunderscore, hdot]
    obtain rfl := Option.some.inj hfilename
    rw [heq]
    exact not_infix_append_cons (uuid.notMem_boundary rfl) hname
      (not_infix_append_cons (uuid.notMem_boundary rfl) hteam
        (uuid.not_boundary_infix_of_notMem hextension))
  · obtain rfl := Option.some.inj hcontentType
    exact uuid.not_boundary_infix_of_notMem htype

theorem unmarked_textPart {name text : String} (hname : 45 ∉ octets name)
    (htext : ¬ octets uuid.boundary <:+: octets text) :
    Unmarked (octets uuid.boundary) (textPart name text) where
  name := uuid.not_boundary_infix_of_notMem hname
  filename _ hfilename := nomatch hfilename
  contentType _ hcontentType := nomatch hcontentType
  content := htext

theorem unmarked_uploadParts (hname : ¬ octets uuid.boundary <:+: octets playerName)
    (hteam : ¬ octets uuid.boundary <:+: octets team) {videoData : Octets}
    (hvideo : ¬ octets uuid.boundary <:+: videoData) :
    ∀ part ∈ uploadParts playerName team (some videoData),
      Unmarked (octets uuid.boundary) part := by
  have hplayerField : 45 ∉ octets "player_name" := by decide
  have hteamField : 45 ∉ octets "team" := by decide
  simp only [uploadParts, Option.map_some, Option.toList_some, List.singleton_append,
    List.forall_mem_cons]
  exact ⟨unmarked_videoPart hname hteam hvideo, unmarked_textPart hplayerField hname,
    unmarked_textPart hteamField hteam, fun part hpart ↦ nomatch hpart⟩

end Boundaries

/-! ## What needs no escape -/

section Escapes

variable {q : QuotedText} {playerName team : String}

/-- The name of the file needs no escape if and only if the player's name and the team need
none. -/
theorem allows_videoFileName_iff :
    (∀ b ∈ octets (playerName ++ "_" ++ team ++ ".mov"), q.allows b = true) ↔
      ∀ b ∈ octets playerName ++ octets team, q.allows b = true := by
  have hunderscore : ∀ b ∈ octets "_", isGraphic b = true := List.all_eq_true.mp rfl
  have hextension : ∀ b ∈ octets ".mov", isGraphic b = true := List.all_eq_true.mp rfl
  simp only [octets_append, List.forall_mem_append]
  constructor
  · rintro ⟨⟨⟨hname, -⟩, hteam⟩, -⟩
    exact ⟨hname, hteam⟩
  · rintro ⟨hname, hteam⟩
    exact ⟨⟨⟨hname, fun b hb ↦ q.graphic b (hunderscore b hb)⟩, hteam⟩,
      fun b hb ↦ q.graphic b (hextension b hb)⟩

theorem writable_textPart {name : String} (hname : ∀ b ∈ octets name, isGraphic b = true)
    (text : String) : Writable q (textPart name text) where
  name b hb := q.graphic b (hname b hb)
  filename _ hfilename := nomatch hfilename
  contentType _ hcontentType := nomatch hcontentType

/-- The texts are read back, whatever becomes of the file. -/
theorem mapM_parsePart_uploadParts (videoData : Octets) :
    ((uploadParts playerName team (some videoData)).mapM fun part ↦
        parsePart q (crlf ++ renderPart part)) =
      (parsePart q (crlf ++ renderPart (videoPart playerName team videoData))).map
        (· :: [textPart "player_name" playerName, textPart "team" team]) := by
  have hplayerField : ∀ b ∈ octets "player_name", isGraphic b = true := List.all_eq_true.mp rfl
  have hteamField : ∀ b ∈ octets "team", isGraphic b = true := List.all_eq_true.mp rfl
  have hname := parsePart_renderPart (q := q) (writable_textPart hplayerField playerName)
  have hteam := parsePart_renderPart (q := q) (writable_textPart hteamField team)
  have hparts : uploadParts playerName team (some videoData) =
      [videoPart playerName team videoData, textPart "player_name" playerName,
        textPart "team" team] := rfl
  rw [hparts, List.mapM_cons, List.mapM_cons, List.mapM_cons, hname, hteam]
  cases parsePart q (crlf ++ renderPart (videoPart playerName team videoData)) <;> rfl

theorem allows_file : ∀ b ∈ octets "file", q.allows b = true := by
  have hgraphic : ∀ b ∈ octets "file", isGraphic b = true := List.all_eq_true.mp rfl
  exact fun b hb ↦ q.graphic b (hgraphic b hb)

theorem contentType_videoPart (videoData : Octets) :
    ∀ contentType ∈ (videoPart playerName team videoData).contentType,
      13 ∉ contentType ∧ skipBlanks contentType = contentType := by
  intro contentType htype
  obtain rfl := Option.some.inj htype
  decide

theorem writable_videoPart (h : ∀ b ∈ octets playerName ++ octets team, q.allows b = true)
    (videoData : Octets) : Writable q (videoPart playerName team videoData) where
  name := allows_file
  filename filename hfilename := by
    obtain rfl := Option.some.inj hfilename
    exact allows_videoFileName_iff.mpr h
  contentType := contentType_videoPart videoData

/-- The name of the file is read back if and only if it needs no escape. -/
theorem filename_videoPart_iff (videoData : Octets) :
    (∃ part, parsePart q (crlf ++ renderPart (videoPart playerName team videoData)) = some part ∧
        part.filename = some (octets (playerName ++ "_" ++ team ++ ".mov"))) ↔
      ∀ b ∈ octets playerName ++ octets team, q.allows b = true := by
  rw [parsePart_renderPart_filename_iff rfl allows_file (contentType_videoPart videoData),
    allows_videoFileName_iff]

end Escapes

/-! ## Receiving -/

/-- A part's name, the name of its file and its content. -/
def FormPart.entry (part : FormPart) : Octets × Option Octets × Octets :=
  (part.name, part.filename, part.content)

/-- What the body is meant to say. -/
def uploadEntries (playerName team : String) (videoData : Octets) :
    List (Octets × Option Octets × Octets) :=
  [(octets "file", some (octets (playerName ++ "_" ++ team ++ ".mov")), videoData),
    (octets "player_name", none, octets playerName),
    (octets "team", none, octets team)]

/-- **Clips.**  A clip is received as it was meant if and only if the player's name and the
team need no escape. -/
theorem upload_received_iff (q : QuotedText) (uuid : UUID) {playerName team : String}
    {videoData : Octets} (hname : ¬ octets uuid.boundary <:+: octets playerName)
    (hteam : ¬ octets uuid.boundary <:+: octets team)
    (hvideo : ¬ octets uuid.boundary <:+: videoData) :
    (∃ parts, parseMultipart q (octets uuid.boundary)
          (uploadVideoBody uuid.boundary playerName team (some videoData)) = some parts ∧
        parts.map FormPart.entry = uploadEntries playerName team videoData) ↔
      ∀ b ∈ octets playerName ++ octets team, q.allows b = true := by
  have hunmarked := unmarked_uploadParts hname hteam hvideo
  have hparse : parseMultipart q (octets uuid.boundary)
      (uploadVideoBody uuid.boundary playerName team (some videoData)) =
        (parsePart q (crlf ++ renderPart (videoPart playerName team videoData))).map
          (· :: [textPart "player_name" playerName, textPart "team" team]) := by
    rw [uploadVideoBody_eq, ← mapM_parsePart_uploadParts]
    exact parseMultipart_renderMultipart (uuid.notMem_boundary rfl) (List.cons_ne_nil _ _)
      fun part hpart ↦ not_infix_of_unmarked uuid.isBoundary_boundary (hunmarked part hpart)
  rw [hparse]
  constructor
  · rintro ⟨parts, hparts, hentries⟩
    obtain ⟨part, hpart, rfl⟩ := Option.map_eq_some_iff.mp hparts
    have hfile : part.entry = _ := (List.cons.inj hentries).1
    exact (filename_videoPart_iff videoData).mp
      ⟨part, hpart, congrArg (fun entry ↦ entry.2.1) hfile⟩
  · intro hallows
    rw [parsePart_renderPart (writable_videoPart hallows videoData)]
    exact ⟨_, rfl, rfl⟩

/-- The clip of a player whose name needs no escape. -/
theorem upload_received_iff_sample :
    ∃ parts, parseMultipart .lenient (octets UUID.sample.boundary)
        (uploadVideoBody UUID.sample.boundary "Sam" "A" (some [13, 10, 45, 45])) = some parts ∧
      parts.map FormPart.entry = uploadEntries "Sam" "A" [13, 10, 45, 45] :=
  (upload_received_iff .lenient UUID.sample (by decide) (by decide) (by decide)).mpr
    (List.all_eq_true.mp rfl)

/-- After a quote in a name the field of the file cannot be read, and neither can the
body. -/
theorem upload_received_fails :
    ¬ ∀ (uuid : UUID) (playerName team : String) (videoData : Octets),
      ¬ octets uuid.boundary <:+: octets playerName →
      ¬ octets uuid.boundary <:+: octets team → ¬ octets uuid.boundary <:+: videoData →
        ∃ parts, parseMultipart .lenient (octets uuid.boundary)
            (uploadVideoBody uuid.boundary playerName team (some videoData)) = some parts ∧
          parts.map FormPart.entry = uploadEntries playerName team videoData := by
  intro h
  have hnone : parseMultipart .lenient (octets UUID.sample.boundary)
      (uploadVideoBody UUID.sample.boundary "Sam \"Ace\"" "A" (some [])) = none := by
    decide +kernel
  obtain ⟨parts, hparts, -⟩ := h UUID.sample "Sam \"Ace\"" "A" []
    (by decide) (by decide) (by decide)
  cases hnone.symm.trans hparts

end Courtside
