import Courtside.Bodies.Boundary

/-!
# The body of a game

`UploadGameView` sends a trimmed video under a name that is always the same.  If the file
cannot be read it sends a body all the same, which has no parts.

The server finds the video in the one and nothing in the other
(`gameRequest_gameVideoBody`).
-/

namespace Courtside

/-! ## The body -/

/-- The body of the request that `UploadGameView` sends. -/
def gameVideoBody (boundary : String) (videoData : Option Octets) : Octets :=
  let fileName := "game_video.mov"
  (match videoData with
    | some videoData =>
        octets ("--" ++ boundary ++ "\r\n") ++
          octets ("Content-Disposition: form-data; name=\"file\"; filename=\"" ++
            fileName ++ "\"\r\n") ++
          octets "Content-Type: video/quicktime\r\n\r\n" ++ videoData ++ octets "\r\n"
    | none => []) ++
    octets ("--" ++ boundary ++ "--\r\n")

/-- The part for the video. -/
def gamePart (videoData : Octets) : FormPart where
  name := octets "file"
  filename := some (octets "game_video.mov")
  contentType := some (octets "video/quicktime")
  content := videoData

theorem gameVideoBody_eq (boundary : String) (videoData : Option Octets) :
    gameVideoBody boundary videoData =
      renderMultipart (octets boundary) (videoData.map gamePart).toList := by
  have hfile : octets
      "Content-Disposition: form-data; name=\"file\"; filename=\"game_video.mov\"\r\n" =
        octets "Content-Disposition: form-data; name=\"" ++ octets "file" ++ octets "\"" ++
          (octets "; filename=\"" ++ octets "game_video.mov" ++ octets "\"") ++ crlf := rfl
  have htype : octets "Content-Type: video/quicktime\r\n\r\n" =
      octets "Content-Type: " ++ octets "video/quicktime" ++ crlf ++ crlf := rfl
  have hclosing : octets "--\r\n" = octets "--" ++ crlf := rfl
  have hcrlf : octets "\r\n" = crlf := rfl
  cases videoData <;>
    simp [gameVideoBody, renderMultipart, renderPart, renderDisposition, gamePart,
      octets_append, hfile, htype, hclosing, hcrlf]

/-! ## Receiving -/

/-- The file of an `upload_game` request. -/
structure GameRequest where
  filename : String
  data : List UInt8
deriving DecidableEq

/-- A part as a file: its name and what it holds. -/
def FormPart.file? (part : FormPart) : Option (String × Octets) :=
  (part.filename.bind decodeUtf8).map fun filename ↦ (filename, part.content)

/-- The parameter `file: UploadFile` of a route: the last part of that name. -/
def fileParameter (q : QuotedText) (boundary : String) (body : Octets) :
    Option (String × Octets) := do
  let parts ← parseMultipart q (octets boundary) body
  let part ← (parts.filter fun part ↦ part.name = octets "file").getLast?
  part.file?

/-- What reaches `upload_game` with a body. -/
def gameRequest (q : QuotedText) (boundary : String) (body : Octets) : Option GameRequest :=
  (fileParameter q boundary body).map fun (filename, data) ↦ { filename, data }

variable (q : QuotedText) (uuid : UUID)

theorem writable_gamePart (videoData : Octets) : Writable q (gamePart videoData) where
  name := by
    have hname : ∀ b ∈ octets "file", isGraphic b = true := List.all_eq_true.mp rfl
    exact fun b hb ↦ q.graphic b (hname b hb)
  filename filename hfilename b hb := by
    have hname : ∀ b ∈ octets "game_video.mov", isGraphic b = true := List.all_eq_true.mp rfl
    obtain rfl := Option.some.inj hfilename
    exact q.graphic b (hname b hb)
  contentType contentType htype := by
    obtain rfl := Option.some.inj htype
    decide

theorem unmarked_gamePart {videoData : Octets} (h : ¬ octets uuid.boundary <:+: videoData) :
    Unmarked (octets uuid.boundary) (gamePart videoData) := by
  have hname : 45 ∉ octets "file" := by decide
  have hfilename : 45 ∉ octets "game_video.mov" := by decide
  have htype : 45 ∉ octets "video/quicktime" := by decide
  refine ⟨uuid.not_boundary_infix_of_notMem hname, fun filename heq ↦ ?_,
    fun contentType heq ↦ ?_, h⟩
  · obtain rfl := Option.some.inj heq
    exact uuid.not_boundary_infix_of_notMem hfilename
  · obtain rfl := Option.some.inj heq
    exact uuid.not_boundary_infix_of_notMem htype

/-- **Games.**  A video that does not contain the boundary is received as it is, under its
name, and nothing is received if there is no video. -/
theorem gameRequest_gameVideoBody {videoData : Option Octets}
    (h : ∀ data ∈ videoData, ¬ octets uuid.boundary <:+: data) :
    gameRequest q uuid.boundary (gameVideoBody uuid.boundary videoData) =
      videoData.map fun data ↦ { filename := "game_video.mov", data } := by
  rw [gameRequest, fileParameter, gameVideoBody_eq]
  cases videoData with
  | none => rw [Option.map_none, Option.toList_none, parseMultipart_render_nil
      (uuid.notMem_boundary rfl)]; rfl
  | some data =>
      have hparse := parseMultipart_render (q := q) (uuid.notMem_boundary rfl)
        (List.cons_ne_nil (gamePart data) [])
        (List.forall_mem_singleton.mpr (writable_gamePart q data))
        (List.forall_mem_singleton.mpr
          (not_infix_of_unmarked uuid.isBoundary_boundary (unmarked_gamePart uuid (h data rfl))))
      have hname : decodeUtf8 (octets "game_video.mov") = some "game_video.mov" :=
        decodeUtf8_octets _
      rw [Option.map_some, Option.toList_some, hparse]
      simp [gamePart, FormPart.file?, hname]

end Courtside
