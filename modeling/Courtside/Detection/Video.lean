import Courtside.Detection.Frame

/-!
# From videos to frame dictionaries

`process_video` runs a general detector on every frame and, for every person it
sees, the person classifier on the whole frame.  Both networks and the colour
conversion are given as functions of the image; a video is the list of images
that its capture yields.
-/

universe u

namespace Courtside

/-- A box as a network reports it: class, corners, confidence. -/
structure YoloBox where
  cls : ℤ
  xyxy : BoundingBox
  conf : ℚ
deriving DecidableEq, Repr

/-- The networks of `predictions_logic.py`, as functions of the image. -/
structure Detector (Image : Type u) where
  /-- `cv2.cvtColor(image, cv2.COLOR_BGR2RGB)`. -/
  cvtColor : Image → Image
  /-- The person classifier: the boxes of each of its results. -/
  model : Image → List (List YoloBox)
  /-- The general detector: the boxes of its first result. -/
  yoloModel : Image → List YoloBox

variable {Image : Type u} (detector : Detector Image)

/-- `process_frame`: every box of the classifier, with its class as the user id. -/
def processFrame (image : Image) : List PlayerDict :=
  (detector.model (detector.cvtColor image)).flatMap fun result ↦ result.map fun box ↦
    { userId := some box.cls, boundingBox := box.xyxy, confidence := box.conf }

/-- One box of the general detector, filed under its class: `1` is a person, `0` a
ball, `2` a rim. -/
def addBox (image : Image) (detections : FrameDict) (box : YoloBox) : FrameDict :=
  if box.cls = 1 then
    { detections with userId := some (detections.userId.getD [] ++ processFrame detector image) }
  else if box.cls = 0 then
    { detections with
      ball := some (detections.ball.getD [] ++
        [{ boundingBox := box.xyxy, confidence := box.conf }]) }
  else if box.cls = 2 then
    { detections with
      rim := some (detections.rim.getD [] ++
        [{ boundingBox := box.xyxy, confidence := box.conf }]) }
  else detections

/-- `process_video`. -/
def processVideo (video : List Image) : List FrameDict :=
  video.map fun image ↦
    (detector.yoloModel image).foldl (addBox detector image)
      { ball := some [], rim := some [], userId := some [] }

variable {detector}

/-- One box of the general detector adds players if it is a person. -/
theorem mem_userId_addBox {image : Image} {detections : FrameDict} {box : YoloBox}
    {player : PlayerDict} (h : player ∈ (addBox detector image detections box).userId.getD []) :
    player ∈ detections.userId.getD [] ∨ box.cls = 1 ∧ player ∈ processFrame detector image := by
  unfold addBox at h
  split at h
  · next hperson => exact (List.mem_append.mp h).imp_right fun hplayer ↦ ⟨hperson, hplayer⟩
  · split at h
    · exact .inl h
    · split at h <;> exact .inl h

/-- The players of a frame are those that the classifier finds on it, and it is only asked
if a person is there. -/
theorem mem_userId_foldl_addBox {image : Image} {boxes : List YoloBox} {detections : FrameDict}
    {player : PlayerDict}
    (h : player ∈ (boxes.foldl (addBox detector image) detections).userId.getD []) :
    player ∈ detections.userId.getD [] ∨
      (∃ box ∈ boxes, box.cls = 1) ∧ player ∈ processFrame detector image := by
  induction boxes generalizing detections with
  | nil => exact .inl h
  | cons box boxes ih =>
      rcases ih h with hplayer | ⟨⟨box', hbox', hperson⟩, hplayer⟩
      · exact (mem_userId_addBox hplayer).imp_right fun ⟨hperson, hplayer⟩ ↦
          ⟨⟨box, List.mem_cons_self, hperson⟩, hplayer⟩
      · exact .inr ⟨⟨box', List.mem_cons_of_mem _ hbox', hperson⟩, hplayer⟩

/-- **Players.**  The players in the output of `process_video` come from images on which a
person was seen; their ids are classes of the classifier. -/
theorem mem_userId_processVideo {video : List Image} {frame : FrameDict} {player : PlayerDict}
    (hframe : frame ∈ processVideo detector video) (hplayer : player ∈ frame.userId.getD []) :
    ∃ image ∈ video, (∃ box ∈ detector.yoloModel image, box.cls = 1) ∧
      ∃ result ∈ detector.model (detector.cvtColor image), ∃ box ∈ result,
        player.userId = some box.cls := by
  obtain ⟨image, himage, rfl⟩ := List.mem_map.mp hframe
  rcases mem_userId_foldl_addBox hplayer with hnone | ⟨hperson, hplayer⟩
  · cases hnone
  · obtain ⟨result, hresult, hplayer⟩ := List.mem_flatMap.mp hplayer
    obtain ⟨box, hbox, rfl⟩ := List.mem_map.mp hplayer
    exact ⟨image, himage, hperson, result, hresult, box, hbox, rfl⟩

end Courtside
