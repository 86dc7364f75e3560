import Courtside.Data.FirstMatch
import Courtside.Detection.Persons
import Courtside.Events.Shots
import Mathlib.Data.List.Forall2
import Mathlib.Data.Option.Basic
import Mathlib.Tactic.Ring

/-!
# What the events do not depend on

The event loop sees a frame by its state, and `get_frame_state` is two nested searches with
the nearness of boxes as their test (`getFrameState_eq`).  So whatever a nested search does
not see changes neither the events nor the statistics:

* a translation of all boxes of a frame, by another vector in every frame
  (`processFrames_translate`);
* copies of the players of a frame (`processFrames_processVideoOnce`).

The order of the detections is seen.  The first player near the first ball with a player near
it holds the ball, so with two candidates the order decides (`processFrames_permuted`).
-/

universe u

namespace Courtside

/-! ## A frame state is two searches -/

/-- The test of `determine_possession`. -/
def atPlayer (ball : BoxDict) (player : PlayerDict) : Bool :=
  isNear ball.boundingBox player.boundingBox

/-- The test of `is_near_goal`. -/
def atRim (ball rim : BoxDict) : Bool := isNear ball.boundingBox rim.boundingBox

theorem determinePossession_detections (frame : FrameDict) :
    determinePossession frame.detections =
      (firstMatch atPlayer (frame.ball.getD []) (frame.userId.getD [])).bind
        PlayerDict.userId := by
  have hmap : firstMatch (fun ball player : Detection ↦ isNear ball.boundingBox player.boundingBox)
      frame.detections.balls frame.detections.players =
        (firstMatch atPlayer (frame.ball.getD []) (frame.userId.getD [])).map fun player ↦
          { objectType := .player, boundingBox := player.boundingBox,
            confidence := player.confidence, userId := player.userId } :=
    firstMatch_map fun _ _ ↦ rfl
  refine (congrArg (Option.bind · Detection.userId) hmap).trans ?_
  rw [Option.bind_map]
  rfl

theorem detectShots_detections_ne_nil_iff (frame : FrameDict) :
    detectShots frame.detections ≠ [] ↔
      (firstMatch atRim (frame.ball.getD []) (frame.rim.getD [])).isSome = true := by
  rw [Option.isSome_iff_ne_none]
  refine not_congr ?_
  rw [firstMatch_eq_none_iff, detectShots, List.map_eq_nil_iff, List.filter_eq_nil_iff]
  simp only [FrameDict.detections, List.forall_mem_map, isNearGoal, List.any_map, List.any_eq_true,
    Function.comp_apply, not_exists, not_and, Bool.not_eq_true, atRim]

/-- **The state of a frame.** -/
theorem getFrameState_eq (frame : FrameDict) :
    getFrameState frame =
      { possession := (firstMatch atPlayer (frame.ball.getD []) (frame.userId.getD [])).bind
          PlayerDict.userId
        shot := (firstMatch atRim (frame.ball.getD []) (frame.rim.getD [])).isSome } := by
  have hshot := (getFrameState_shot_iff frame).trans (detectShots_detections_ne_nil_iff frame)
  rw [← Bool.eq_iff_iff] at hshot
  rw [← determinePossession_detections, ← hshot]
  rfl

/-! ## Translation -/

/-- The box, moved by a vector. -/
def BoundingBox.translate (v : ℚ × ℚ) (box : BoundingBox) : BoundingBox where
  xMin := box.xMin + v.1
  yMin := box.yMin + v.2
  xMax := box.xMax + v.1
  yMax := box.yMax + v.2

def BoxDict.translate (v : ℚ × ℚ) (box : BoxDict) : BoxDict :=
  { box with boundingBox := box.boundingBox.translate v }

def PlayerDict.translate (v : ℚ × ℚ) (player : PlayerDict) : PlayerDict :=
  { player with boundingBox := player.boundingBox.translate v }

/-- The frame, with all its boxes moved by a vector. -/
def FrameDict.translate (v : ℚ × ℚ) (frame : FrameDict) : FrameDict where
  ball := frame.ball.map (List.map (BoxDict.translate v))
  rim := frame.rim.map (List.map (BoxDict.translate v))
  userId := frame.userId.map (List.map (PlayerDict.translate v))

/-- Nearness is about the difference of centres. -/
theorem isNear_translate (v : ℚ × ℚ) (box1 box2 : BoundingBox) :
    isNear (box1.translate v) (box2.translate v) = isNear box1 box2 := by
  have hdistance : (box1.translate v).centerDistanceSq (box2.translate v) =
      box1.centerDistanceSq box2 := by
    simp only [BoundingBox.centerDistanceSq, BoundingBox.center, BoundingBox.translate]
    ring
  rw [isNear, isNear, hdistance]

theorem getD_map_map {α β : Type u} (f : α → β) (list : Option (List α)) :
    (list.map (List.map f)).getD [] = (list.getD []).map f := by
  cases list <;> rfl

/-- A translation does not change the state of a frame. -/
theorem getFrameState_translate (v : ℚ × ℚ) (frame : FrameDict) :
    getFrameState (frame.translate v) = getFrameState frame := by
  have hplayer : ∀ ball player,
      atPlayer (ball.translate v) (player.translate v) = atPlayer ball player := by
    intro ball player
    exact isNear_translate v ball.boundingBox player.boundingBox
  have hrim : ∀ ball rim : BoxDict,
      atRim (ball.translate v) (rim.translate v) = atRim ball rim := by
    intro ball rim
    exact isNear_translate v ball.boundingBox rim.boundingBox
  rw [getFrameState_eq, getFrameState_eq]
  simp only [FrameDict.translate, getD_map_map, firstMatch_map hplayer, firstMatch_map hrim,
    Option.isSome_map, Option.bind_map]
  rfl

/-- **Panning.**  A translation of every frame, each by its own vector, changes neither the
events nor the statistics. -/
theorem processFrames_translate (frames : List FrameDict) (shift : ℕ → ℚ × ℚ) (windowSize : ℕ)
    (frameRate : ℚ) (playerStats : PlayerStatsDict) :
    processFramesWithSlidingWindow (frames.mapIdx fun k frame ↦ frame.translate (shift k))
        windowSize frameRate playerStats =
      processFramesWithSlidingWindow frames windowSize frameRate playerStats := by
  apply processFramesWithSlidingWindow_congr
  apply List.ext_getElem?
  intro k
  rw [List.getElem?_map, List.getElem?_mapIdx, List.getElem?_map, Option.map_map]
  congr 1
  funext frame
  exact getFrameState_translate (shift k) frame

/-! ## Copies -/

/-- Whether the players of a frame are there once or several times, its state is the same. -/
theorem getFrameState_frameEntryOnce {Image : Type u} (detector : Detector Image) (image : Image) :
    getFrameState (frameEntryOnce detector image) = getFrameState (frameEntry detector image) := by
  rw [getFrameState_eq, getFrameState_eq, frameEntryOnce, frameEntry_eq]
  simp only [Option.getD_some]
  by_cases hnobody : boxesOf 1 (detector.yoloModel image) = []
  · rw [if_pos hnobody, hnobody]
    rfl
  · rw [if_neg hnobody, firstMatch_flatten_replicate (List.length_pos_iff.mpr hnobody)]

/-- **Copies.**  Running the classifier once for a frame instead of once for a person changes
neither the events nor the statistics. -/
theorem processFrames_processVideoOnce {Image : Type u} (detector : Detector Image)
    (video : List Image) (windowSize : ℕ) (frameRate : ℚ) (playerStats : PlayerStatsDict) :
    processFramesWithSlidingWindow (processVideoOnce detector video) windowSize frameRate
        playerStats =
      processFramesWithSlidingWindow (processVideo detector video) windowSize frameRate
        playerStats := by
  apply processFramesWithSlidingWindow_congr
  rw [processVideo_eq_map, processVideoOnce, List.map_map, List.map_map]
  apply List.map_congr_left
  intro image _
  exact getFrameState_frameEntryOnce detector image

/-! ## Order -/

/-- The same detections, in another order. -/
structure Permuted (frame frame' : FrameDict) : Prop where
  ball : Option.Rel List.Perm frame.ball frame'.ball
  rim : Option.Rel List.Perm frame.rim frame'.rim
  userId : Option.Rel List.Perm frame.userId frame'.userId

/-- Nobody stands near a ball together with somebody else: all players near balls of the frame
have the same id. -/
def Unambiguous (frame : FrameDict) : Prop :=
  MatchesAgree atPlayer PlayerDict.userId (frame.ball.getD []) (frame.userId.getD [])

theorem getD_perm {α : Type u} {list list' : Option (List α)}
    (h : Option.Rel List.Perm list list') : (list.getD []).Perm (list'.getD []) := by
  cases h with
  | some hperm => exact hperm
  | none => exact .nil

theorem rel_perm_refl {α : Type u} (list : Option (List α)) : Option.Rel List.Perm list list := by
  cases list with
  | none => exact .none
  | some as => exact .some (.refl as)

/-- A key of the dictionary, permuted. -/
theorem exists_rel_perm {α : Type u} {list : Option (List α)} {as : List α}
    (h : (list.getD []).Perm as) :
    ∃ list', Option.Rel List.Perm list list' ∧ list'.getD [] = as := by
  cases list with
  | none => exact ⟨none, .none, (List.nil_perm.mp h).symm⟩
  | some bs => exact ⟨some as, .some h, rfl⟩

/-- The shot flag does not see the order. -/
theorem shot_permuted {frame frame' : FrameDict} (h : Permuted frame frame') :
    (getFrameState frame').shot = (getFrameState frame).shot := by
  rw [getFrameState_eq, getFrameState_eq]
  exact isSome_firstMatch_perm (getD_perm h.ball) (getD_perm h.rim)

/-- The possession does, unless the frame is unambiguous. -/
theorem forall_permuted_possession_iff (frame : FrameDict) :
    (∀ frame', Permuted frame frame' →
      (getFrameState frame').possession = (getFrameState frame).possession) ↔
      Unambiguous frame := by
  simp only [getFrameState_eq]
  rw [Unambiguous, ← firstMatch_view_iff]
  constructor
  · intro h balls players hballs hplayers
    obtain ⟨ball, hball, rfl⟩ := exists_rel_perm hballs
    obtain ⟨userId, huserId, rfl⟩ := exists_rel_perm hplayers
    exact h ⟨ball, frame.rim, userId⟩ ⟨hball, rel_perm_refl frame.rim, huserId⟩
  · intro h frame' hpermuted
    exact h _ _ (getD_perm hpermuted.ball) (getD_perm hpermuted.userId)

/-- A frame is unambiguous exactly if its state does not depend on the order. -/
theorem forall_permuted_getFrameState_iff (frame : FrameDict) :
    (∀ frame', Permuted frame frame' → getFrameState frame' = getFrameState frame) ↔
      Unambiguous frame := by
  rw [← forall_permuted_possession_iff]
  apply forall₂_congr
  intro frame' h
  constructor
  · intro heq
    rw [heq]
  · intro hpossession
    have hshot := shot_permuted h
    cases hstate : getFrameState frame
    cases hstate' : getFrameState frame'
    rw [hstate, hstate'] at hpossession hshot
    rw [FrameState.mk.injEq]
    exact ⟨hpossession, hshot⟩

/-- Whether a frame has a shot does not depend on the order. -/
theorem shotAt_permuted {frames frames' : List FrameDict}
    (h : List.Forall₂ Permuted frames frames') (k : ℕ) :
    ShotAt frames' k ↔ ShotAt frames k := by
  induction h generalizing k with
  | nil => rfl
  | cons hframe _ ih =>
      cases k with
      | zero => exact Bool.eq_iff_iff.mp (shot_permuted hframe)
      | succ k => exact ih k

/-- The frames at which shots open do not depend on the order. -/
theorem openings_permuted {frames frames' : List FrameDict}
    (h : List.Forall₂ Permuted frames frames') (w : ℕ) :
    openings frames' w = openings frames w := by
  rw [openings, openings, h.length_eq]
  apply List.filter_congr
  intro k _
  rw [decide_eq_decide]
  simp only [ShotOpens, SlidingWindow.Within, shotAt_permuted h]

/-- The states of unambiguous frames do not depend on the order. -/
theorem map_getFrameState_permuted {frames frames' : List FrameDict}
    (h : List.Forall₂ Permuted frames frames') (hframes : ∀ frame ∈ frames, Unambiguous frame) :
    frames'.map getFrameState = frames.map getFrameState := by
  induction h with
  | nil => rfl
  | @cons frame frame' frames frames' hframe _ ih =>
      obtain ⟨hhead, htail⟩ := List.forall_mem_cons.mp hframes
      have hstate := (forall_permuted_getFrameState_iff frame).mpr hhead frame' hframe
      rw [List.map_cons, List.map_cons, hstate, ih htail]

/-- The times of the shot events in the result of a call. -/
def shotTimes (result : Except PyError (List GameEvent) × PlayerStatsDict) :
    Except PyError (List ℚ) :=
  result.1.map fun events ↦ (shotEvents events).map GameEvent.time

/-- **Order.**  The order of the detections of a frame does not matter for its shot flag, and
for its state exactly if the frame is unambiguous.  So the times of shots do not depend on it,
and nothing does if all frames are unambiguous. -/
theorem processFrames_permuted {frames frames' : List FrameDict}
    (h : List.Forall₂ Permuted frames frames') (playerStats : PlayerStatsDict) :
    (∀ frame frame', Permuted frame frame' →
      (getFrameState frame').shot = (getFrameState frame).shot) ∧
    (∀ frame, (∀ frame', Permuted frame frame' → getFrameState frame' = getFrameState frame) ↔
      Unambiguous frame) ∧
    (∀ (w : ℕ) (frameRate : ℚ), 1 ≤ w → frameRate ≠ 0 →
      shotTimes (processFramesWithSlidingWindow frames' w frameRate playerStats) =
        shotTimes (processFramesWithSlidingWindow frames w frameRate playerStats)) ∧
    ((∀ frame ∈ frames, Unambiguous frame) → ∀ (w : ℕ) (frameRate : ℚ),
      processFramesWithSlidingWindow frames' w frameRate playerStats =
        processFramesWithSlidingWindow frames w frameRate playerStats) := by
  refine ⟨fun _ _ hframe ↦ shot_permuted hframe, forall_permuted_getFrameState_iff,
    fun w frameRate hw hr ↦ ?_, fun hframes w frameRate ↦ ?_⟩
  · rw [processFramesWithSlidingWindow_eq frames' hw hr,
      processFramesWithSlidingWindow_eq frames hw hr]
    simp only [shotTimes, Except.map, times_shotEvents_playEvents, openings_permuted h]
  · exact processFramesWithSlidingWindow_congr (map_getFrameState_permuted h hframes) w frameRate
      playerStats

/-- Players `7` and `8` stand together at the ball. -/
def crowd : FrameDict :=
  let box : BoundingBox := { xMin := 0, yMin := 0, xMax := 10, yMax := 10 }
  { ball := some [{ boundingBox := box, confidence := 1 }]
    rim := some []
    userId := some [⟨some 7, box, 1⟩, ⟨some 8, box, 1⟩] }

/-- The same, with the players in the other order. -/
def crowdSwapped : FrameDict := { crowd with userId := crowd.userId.map List.reverse }

theorem permuted_crowd : Permuted crowd crowdSwapped :=
  ⟨.some (.refl _), .some (.refl _), .some (.swap _ _ _)⟩

/-- The order of the players of the second frame does not move any shot. -/
theorem processFrames_permuted_sample :
    shotTimes (processFramesWithSlidingWindow [crowd, crowdSwapped] 1 30 Dict.empty) =
      shotTimes (processFramesWithSlidingWindow [crowd, crowd] 1 30 Dict.empty) :=
  (processFrames_permuted (.cons ⟨rel_perm_refl _, rel_perm_refl _, rel_perm_refl _⟩
    (.cons permuted_crowd .nil)) Dict.empty).2.2.1 1 30 (le_refl 1) (by norm_num)

/-- But it makes a pass of it. -/
theorem processFrames_permuted_fails :
    Permuted crowd crowdSwapped ∧ getFrameState crowdSwapped ≠ getFrameState crowd ∧
      (processFramesWithSlidingWindow [crowd, crowd] 1 30 Dict.empty).1 = .ok [] ∧
      (processFramesWithSlidingWindow [crowd, crowdSwapped] 1 30 Dict.empty).1 =
        .ok [(Play.pass 7 8).toGameEvent (1 / 30)] :=
  ⟨permuted_crowd, by decide +kernel, by decide +kernel, by decide +kernel⟩

end Courtside
