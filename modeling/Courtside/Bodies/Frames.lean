import Courtside.Bodies.Boundary
import Courtside.Clip.LiveFrames
import Mathlib.Tactic.IntervalCases

/-!
# The body of a batch

`sendFrames` writes the frames of a batch one after the other, each as the content of a
part of its own, and the name of its file is all that says which frame it is.  The frames are
not looked at: they may contain line breaks, dashes and empty lines.

Since the delimiter takes the line break that the app writes after a frame, and the first one
stands at the beginning of the body, a reader finds the frames that were sent
(`frames_received`).
-/

namespace Courtside

/-! ## The body -/

/-- A round of the loop in `sendFrames`. -/
def appendFrame (boundary : String) (body : Octets) (frame : Octets × ℕ) : Octets :=
  body ++ octets ("--" ++ boundary ++ "\r\n") ++
    octets ("Content-Disposition: form-data; name=\"frames\"; filename=\"" ++
      liveFrameName frame.2 ++ "\"\r\n") ++
    octets "Content-Type: image/jpeg\r\n\r\n" ++ frame.1 ++ octets "\r\n"

/-- The body of the request that `sendFrames` sends. -/
def sendFramesBody (boundary : String) (frames : List Octets) : Octets :=
  frames.zipIdx.foldl (appendFrame boundary) [] ++ octets ("--" ++ boundary ++ "--\r\n")

/-- A file of a batch, as a part. -/
def UploadFile.part (file : UploadFile) : FormPart where
  name := octets "frames"
  filename := some (octets file.filename)
  contentType := some (octets "image/jpeg")
  content := file.data

theorem appendFrame_eq (boundary : String) (body : Octets) (frame : Octets × ℕ) :
    appendFrame boundary body frame =
      body ++ (octets "--" ++ octets boundary ++ crlf ++
        renderPart (UploadFile.part { filename := liveFrameName frame.2, data := frame.1 }) ++
          crlf) := by
  have hdisposition : octets "Content-Disposition: form-data; name=\"frames\"; filename=\"" =
      octets "Content-Disposition: form-data; name=\"" ++ octets "frames" ++ octets "\"" ++
        octets "; filename=\"" := rfl
  have hclose : octets "\"\r\n" = octets "\"" ++ crlf := rfl
  have htype : octets "Content-Type: image/jpeg\r\n\r\n" =
      octets "Content-Type: " ++ octets "image/jpeg" ++ crlf ++ crlf := rfl
  have hcrlf : octets "\r\n" = crlf := rfl
  simp only [appendFrame, renderPart, renderDisposition, UploadFile.part, octets_append,
    hdisposition, hclose, htype, hcrlf, List.append_assoc]

/-- What is written are the files of the batch. -/
theorem sendFramesBody_eq (boundary : String) (frames : List Octets) :
    sendFramesBody boundary frames =
      renderMultipart (octets boundary) ((sendFrames frames).map UploadFile.part) := by
  have hround : appendFrame boundary = fun body frame ↦ body ++
      (octets "--" ++ octets boundary ++ crlf ++
        renderPart (UploadFile.part { filename := liveFrameName frame.2, data := frame.1 }) ++
          crlf) := by
    funext body frame
    exact appendFrame_eq boundary body frame
  have hclosing : octets "--\r\n" = octets "--" ++ crlf := rfl
  rw [sendFramesBody, hround, List.foldl_append_eq_append, ← List.flatMap_def,
    renderMultipart, sendFrames, List.map_map, List.flatMap_map, octets_append, octets_append,
    hclosing]
  simp only [List.nil_append, List.append_assoc, Function.comp_apply]

/-! ## The names of the files -/

/-- A graphic octet other than a dash. -/
def isDashless (b : UInt8) : Bool := isGraphic b && b ≠ 45

theorem dashless_of_isDigit {c : Char} (h : c.isDigit = true) :
    (String.utf8EncodeChar c).all isDashless = true := by
  have hrange : 48 ≤ c.toNat ∧ c.toNat ≤ 57 := by
    simpa [Char.isDigit, UInt32.le_iff_toNat_le] using h
  rw [← Char.ofNat_toNat c]
  generalize c.toNat = n at hrange
  obtain ⟨hlow, hhigh⟩ := hrange
  interval_cases n <;> decide

/-- The name of a file consists of graphic octets, and has no dash. -/
theorem dashless_liveFrameName {k : ℕ} :
    ∀ b ∈ octets (liveFrameName k), isDashless b = true := by
  have hstart : ∀ b ∈ octets "frame_", isDashless b = true := List.all_eq_true.mp rfl
  have hend : ∀ b ∈ octets ".jpg", isDashless b = true := List.all_eq_true.mp rfl
  intro b hb
  rw [liveFrameName, octets_append, octets_append, List.mem_append, List.mem_append] at hb
  rcases hb with (hb | hb) | hb
  · exact hstart b hb
  · rw [octets_eq_flatMap] at hb
    obtain ⟨c, hc, hb⟩ := List.mem_flatMap.mp hb
    have hdigit : c ∈ Nat.toDigits 10 k := by simpa using hc
    have hall := dashless_of_isDigit (Nat.isDigit_of_mem_toDigits (by decide) (by decide) hdigit)
    exact List.all_eq_true.mp hall b hb
  · exact hend b hb

/-! ## Receiving -/

theorem writable_part (q : QuotedText) {frames : List Octets} {file : UploadFile}
    (h : file ∈ sendFrames frames) : Writable q file.part where
  name := by
    have hname : ∀ b ∈ octets "frames", isGraphic b = true := List.all_eq_true.mp rfl
    exact fun b hb ↦ q.graphic b (hname b hb)
  filename filename hfilename b hb := by
    obtain ⟨frame, -, rfl⟩ := List.mem_map.mp h
    obtain rfl := Option.some.inj hfilename
    exact q.graphic b (Bool.and_eq_true_iff.mp (dashless_liveFrameName b hb)).1
  contentType contentType htype := by
    obtain rfl := Option.some.inj htype
    decide

theorem unmarked_part (uuid : UUID) {frames : List Octets}
    (h : ∀ frame ∈ frames, ¬ octets uuid.boundary <:+: frame) {file : UploadFile}
    (hfile : file ∈ sendFrames frames) : Unmarked (octets uuid.boundary) file.part := by
  obtain ⟨frame, hmem, rfl⟩ := List.mem_map.mp hfile
  have hname : 45 ∉ octets "frames" := by decide
  refine ⟨uuid.not_boundary_infix_of_notMem hname, fun filename hfilename ↦ ?_,
    fun contentType htype ↦ ?_, h frame.1 (List.fst_mem_of_mem_zipIdx hmem)⟩
  · obtain rfl := Option.some.inj hfilename
    exact uuid.not_boundary_infix_of_notMem fun hdash ↦ nomatch dashless_liveFrameName 45 hdash
  · obtain rfl := Option.some.inj htype
    exact uuid.not_boundary_infix_of_notMem (by decide)

/-- The files that are received are those that were sent. -/
theorem parseMultipart_sendFramesBody (q : QuotedText) (uuid : UUID) {frames : List Octets}
    (hne : frames ≠ []) (h : ∀ frame ∈ frames, ¬ octets uuid.boundary <:+: frame) :
    parseMultipart q (octets uuid.boundary) (sendFramesBody uuid.boundary frames) =
      some ((sendFrames frames).map UploadFile.part) := by
  rw [sendFramesBody_eq]
  refine parseMultipart_render (uuid.notMem_boundary rfl) ?_ ?_ ?_
  · simpa [sendFrames] using hne
  · exact List.forall_mem_map.mpr fun file hfile ↦ writable_part q hfile
  · exact List.forall_mem_map.mpr fun file hfile ↦
      not_infix_of_unmarked uuid.isBoundary_boundary (unmarked_part uuid h hfile)

/-- **Batches.**  A batch is received as it was sent: a part for each frame, in order, with
the frame's index in the name of its file. -/
theorem frames_received (q : QuotedText) (uuid : UUID) {frames : List Octets}
    (hne : frames ≠ []) (h : ∀ frame ∈ frames, ¬ octets uuid.boundary <:+: frame) :
    parseMultipart q (octets uuid.boundary) (sendFramesBody uuid.boundary frames) =
      some (frames.zipIdx.map fun frame ↦
        { name := octets "frames"
          filename := some (octets ("frame_" ++ toString frame.2 ++ ".jpg"))
          contentType := some (octets "image/jpeg")
          content := frame.1 }) := by
  rw [parseMultipart_sendFramesBody q uuid hne h, sendFrames, List.map_map]
  rfl

/-- Two frames, the second of which looks like the beginning of a delimiter. -/
theorem frames_received_sample :
    parseMultipart .lenient (octets UUID.sample.boundary)
        (sendFramesBody UUID.sample.boundary [[255, 216], [13, 10, 45, 45]]) =
      some [⟨octets "frames", some (octets "frame_0.jpg"), some (octets "image/jpeg"), [255, 216]⟩,
        ⟨octets "frames", some (octets "frame_1.jpg"), some (octets "image/jpeg"),
          [13, 10, 45, 45]⟩] :=
  frames_received .lenient UUID.sample (by decide) (by decide)

end Courtside
