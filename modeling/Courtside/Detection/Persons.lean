import Courtside.Detection.Video

/-!
# How often a player is detected

`process_video` runs the person classifier on the whole frame, from inside the loop over the
boxes of the general detector.  What the classifier finds is appended to the players once for
every person that the other network has seen (`frameEntry_eq`).

An entry holds each player once exactly if there was at most one person, or nobody was
recognised (`detectedOnce_iff`).  `processVideoOnce` is what the function would return if it
ran the classifier once for a frame.
-/

universe u

namespace Courtside

variable {Image : Type u} (detector : Detector Image)

/-! ## Entries -/

/-- The boxes of a class, in order. -/
def boxesOf (cls : ℤ) (boxes : List YoloBox) : List YoloBox :=
  boxes.filter fun box ↦ decide (box.cls = cls)

/-- The entry of a ball or a rim. -/
def YoloBox.toBoxDict (box : YoloBox) : BoxDict where
  boundingBox := box.xyxy
  confidence := box.conf

/-- The entry that `process_video` appends for a frame. -/
def frameEntry (image : Image) : FrameDict :=
  (detector.yoloModel image).foldl (addBox detector image)
    { ball := some [], rim := some [], userId := some [] }

theorem processVideo_eq_map (video : List Image) :
    processVideo detector video = video.map (frameEntry detector) := rfl

/-- The entry with every player of the frame once, if there is a person at all. -/
def frameEntryOnce (image : Image) : FrameDict :=
  { frameEntry detector image with
    userId := some
      (if boxesOf 1 (detector.yoloModel image) = [] then [] else processFrame detector image) }

/-- `process_video`, if it ran the classifier once for a frame. -/
def processVideoOnce (video : List Image) : List FrameDict := video.map (frameEntryOnce detector)

/-- The entry has the balls and rims of the frame in order, and every player once. -/
structure DetectedOnce (image : Image) (frame : FrameDict) : Prop where
  ball : frame.ball = some ((boxesOf 0 (detector.yoloModel image)).map YoloBox.toBoxDict)
  rim : frame.rim = some ((boxesOf 2 (detector.yoloModel image)).map YoloBox.toBoxDict)
  userId : frame.userId = some
    (if boxesOf 1 (detector.yoloModel image) = [] then [] else processFrame detector image)

variable {detector}

/-! ## The loop over the boxes -/

theorem boxesOf_cons (cls : ℤ) (box : YoloBox) (boxes : List YoloBox) :
    boxesOf cls (box :: boxes) =
      if box.cls = cls then box :: boxesOf cls boxes else boxesOf cls boxes := by
  by_cases h : box.cls = cls
  · rw [if_pos h]
    exact List.filter_cons_of_pos (decide_eq_true h)
  · rw [if_neg h]
    exact List.filter_cons_of_neg (by simpa using h)

/-- The loop appends balls and rims one by one, and all players for each person. -/
theorem foldl_addBox (image : Image) (boxes : List YoloBox) (ball rim : List BoxDict)
    (players : List PlayerDict) :
    boxes.foldl (addBox detector image)
        { ball := some ball, rim := some rim, userId := some players } =
      { ball := some (ball ++ (boxesOf 0 boxes).map YoloBox.toBoxDict)
        rim := some (rim ++ (boxesOf 2 boxes).map YoloBox.toBoxDict)
        userId := some (players ++
          (List.replicate (boxesOf 1 boxes).length (processFrame detector image)).flatten) } := by
  induction boxes generalizing ball rim players with
  | nil => simp [boxesOf]
  | cons box boxes ih =>
      rw [List.foldl_cons, addBox]
      by_cases hperson : box.cls = 1
      · simp [hperson, ih, boxesOf_cons, List.replicate_succ]
      · by_cases hball : box.cls = 0
        · simp [hball, ih, boxesOf_cons, YoloBox.toBoxDict]
        · by_cases hrim : box.cls = 2
          · simp [hrim, ih, boxesOf_cons, YoloBox.toBoxDict]
          · simp [hperson, hball, hrim, ih, boxesOf_cons]

variable (detector) in
/-- **One entry.**  The players of the frame are there once for every person. -/
theorem frameEntry_eq (image : Image) :
    frameEntry detector image =
      { ball := some ((boxesOf 0 (detector.yoloModel image)).map YoloBox.toBoxDict)
        rim := some ((boxesOf 2 (detector.yoloModel image)).map YoloBox.toBoxDict)
        userId := some (List.replicate (boxesOf 1 (detector.yoloModel image)).length
          (processFrame detector image)).flatten } := by
  rw [frameEntry, foldl_addBox]
  simp only [List.nil_append]

/-! ## Once -/

/-- Copies of a list are the list itself if there is one copy, or nothing to copy. -/
theorem flatten_replicate_eq_self_iff {α : Type u} {n : ℕ} {l : List α} :
    (List.replicate n l).flatten = l ↔ n = 1 ∨ l = [] := by
  constructor
  · intro h
    have hlength := congrArg List.length h
    rw [List.length_flatten, List.map_replicate, List.sum_replicate_nat] at hlength
    rcases Nat.eq_zero_or_pos l.length with hzero | hpos
    · exact .inr (List.length_eq_zero_iff.mp hzero)
    · exact .inl (Nat.eq_of_mul_eq_mul_right hpos (hlength.trans (Nat.one_mul _).symm))
  · rintro (rfl | rfl)
    · simp
    · simp

/-- **Once.**  The entry of a frame holds every player once if and only if the general
detector has seen at most one person, or the classifier recognises nobody. -/
theorem detectedOnce_iff {video : List Image} {k : ℕ} {image : Image} {frame : FrameDict}
    (himage : video[k]? = some image) (hframe : (processVideo detector video)[k]? = some frame) :
    DetectedOnce detector image frame ↔
      (boxesOf 1 (detector.yoloModel image)).length ≤ 1 ∨ processFrame detector image = [] := by
  rw [processVideo_eq_map, List.getElem?_map, himage, Option.map_some, frameEntry_eq] at hframe
  obtain rfl := Option.some.inj hframe
  have honce : DetectedOnce detector image
      { ball := some ((boxesOf 0 (detector.yoloModel image)).map YoloBox.toBoxDict)
        rim := some ((boxesOf 2 (detector.yoloModel image)).map YoloBox.toBoxDict)
        userId := some (List.replicate (boxesOf 1 (detector.yoloModel image)).length
          (processFrame detector image)).flatten } ↔
      (List.replicate (boxesOf 1 (detector.yoloModel image)).length
          (processFrame detector image)).flatten =
        if boxesOf 1 (detector.yoloModel image) = [] then [] else processFrame detector image :=
    ⟨fun h ↦ Option.some.inj h.userId, fun h ↦ ⟨rfl, rfl, congrArg some h⟩⟩
  rw [honce]
  by_cases hnobody : boxesOf 1 (detector.yoloModel image) = []
  · simp [hnobody]
  · have hpos := List.length_pos_iff.mpr hnobody
    rw [if_neg hnobody, flatten_replicate_eq_self_iff]
    refine or_congr_left ?_
    omega

/-! ## Samples -/

/-- Two persons are seen on every image, and one player is recognised. -/
def twoPersons : Detector Unit where
  cvtColor := id
  model _ := [[{ cls := 7, xyxy := ⟨0, 0, 10, 10⟩, conf := 1 }]]
  yoloModel _ :=
    [{ cls := 1, xyxy := ⟨0, 0, 10, 10⟩, conf := 1 },
      { cls := 1, xyxy := ⟨20, 0, 30, 10⟩, conf := 1 }]

/-- One of them only. -/
def onePerson : Detector Unit :=
  { twoPersons with yoloModel := fun _ ↦ [{ cls := 1, xyxy := ⟨0, 0, 10, 10⟩, conf := 1 }] }

/-- One person is enough for one entry, and two make two. -/
theorem detectedOnce_iff_sample :
    DetectedOnce onePerson () (frameEntry onePerson ()) ∧
      ¬ DetectedOnce twoPersons () (frameEntry twoPersons ()) := by
  constructor
  · have himage : [()][0]? = some () := rfl
    exact (detectedOnce_iff himage rfl).mpr (by decide)
  · have himage : [()][0]? = some () := rfl
    exact fun h ↦ absurd ((detectedOnce_iff himage rfl).mp h) (by decide)

/-- The player is there twice. -/
theorem detectedOnce_sample_fails :
    ¬ ∀ (detector : Detector Unit) (video : List Unit) (k : ℕ) (image : Unit) (frame : FrameDict),
      video[k]? = some image → (processVideo detector video)[k]? = some frame →
        DetectedOnce detector image frame := by
  intro h
  have honce := (h twoPersons [()] 0 () (frameEntry twoPersons ()) rfl rfl).userId
  exact absurd honce (by decide)

end Courtside
