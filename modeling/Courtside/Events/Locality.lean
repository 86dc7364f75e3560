import Courtside.Detection.Video
import Courtside.Events.Shots
import Mathlib.Algebra.Order.Field.Rat

/-!
# Disturbed images

The play at a frame is read off the frames of one window.  So images that are disturbed, by
a flash or a hand in front of the camera, change the events at those frames and at the frames
of one window after them, and no others, however the networks take them.

The events before and after these are literally the same (`processVideo_disturbed`), and no
figure of a player is off by more than the number of frames between them.
-/

universe u

namespace Courtside

open SlidingWindow

/-- Two lists agree outside the indices from `a` on and below `b`. -/
structure AgreeOutside {α : Type*} (a b : ℕ) (as bs : List α) : Prop where
  length : as.length = bs.length
  same : ∀ k, k < a ∨ b ≤ k → as[k]? = bs[k]?

theorem AgreeOutside.map {α β : Type*} {a b : ℕ} {as bs : List α} (h : AgreeOutside a b as bs)
    (f : α → β) : AgreeOutside a b (as.map f) (bs.map f) := by
  constructor
  · rw [List.length_map, List.length_map, h.length]
  · intro k hk
    rw [List.getElem?_map, List.getElem?_map, h.same k hk]

/-! ## Windows -/

section Window

variable {frames frames' : List FrameDict} {w i : ℕ}

theorem within_congr {s t : ℕ → Prop} {lo hi : ℕ} (h : ∀ k, lo ≤ k → k < hi → (s k ↔ t k)) :
    Within s lo hi ↔ Within t lo hi := by
  refine exists_congr fun k ↦ and_congr_right fun hlo ↦ and_congr_right fun hhi ↦ h k hlo hhi

/-- The play at a frame depends on the frames of one window. -/
theorem playAt_congr (hw : 1 ≤ w)
    (h : ∀ k, i - w ≤ k → k ≤ i → stateAt frames k = stateAt frames' k) :
    playAt frames w i = playAt frames' w i := by
  have hshot (k : ℕ) (hlo : i - w ≤ k) (hhi : k ≤ i) : ShotAt frames k ↔ ShotAt frames' k := by
    rw [ShotAt, ShotAt, h k hlo hhi]
  have hopens : ShotOpens frames w i ↔ ShotOpens frames' w i := by
    rw [ShotOpens, ShotOpens, hshot i (Nat.sub_le _ _) le_rfl,
      within_congr fun k hlo hhi ↦ hshot k hlo hhi.le]
  have hcloses : ShotCloses frames w i ↔ ShotCloses frames' w i := by
    rw [ShotCloses, ShotCloses, hshot (i - w) le_rfl (Nat.sub_le _ _),
      within_congr fun k hlo hhi ↦ hshot k (by omega) (by omega)]
  have hbefore : possessionAt frames (i - 1) = possessionAt frames' (i - 1) := by
    rw [possessionAt, possessionAt, h (i - 1) (by omega) (Nat.sub_le _ _)]
  have hnow : possessionAt frames i = possessionAt frames' i := by
    rw [possessionAt, possessionAt, h i (Nat.sub_le _ _) le_rfl]
  simp only [playAt, hopens, hcloses, hbefore, hnow]

/-- So it is the same at the frames that have none of the disturbed ones in their window. -/
theorem AgreeOutside.playAt_eq {a b : ℕ} (h : AgreeOutside a b frames frames') (hw : 1 ≤ w)
    (hi : i < a ∨ b + w ≤ i) : playAt frames w i = playAt frames' w i := by
  refine playAt_congr hw fun k hlo hhi ↦ ?_
  rw [stateAt, stateAt, h.same k (by omega)]

end Window

/-! ## Events -/

/-- The events at the frames from `lo` on and below `hi`. -/
def eventsBetween (frames : List FrameDict) (w : ℕ) (frameRate : ℚ) (lo hi : ℕ) :
    List GameEvent :=
  (List.range' lo (hi - lo)).filterMap fun i ↦
    (playAt frames w i).map (Play.toGameEvent (i / frameRate))

section Events

variable {frames frames' : List FrameDict} {w lo mid hi : ℕ} {frameRate : ℚ}

theorem eventsBetween_append (hlo : lo ≤ mid) (hhi : mid ≤ hi) :
    eventsBetween frames w frameRate lo mid ++ eventsBetween frames w frameRate mid hi =
      eventsBetween frames w frameRate lo hi := by
  rw [eventsBetween, eventsBetween, eventsBetween, ← List.filterMap_append,
    show hi - lo = (mid - lo) + (hi - mid) by omega, ← List.range'_append_1,
    show lo + (mid - lo) = mid by omega]

theorem length_eventsBetween_le (frames : List FrameDict) (w : ℕ) (frameRate : ℚ) (lo hi : ℕ) :
    (eventsBetween frames w frameRate lo hi).length ≤ hi - lo :=
  (List.length_filterMap_le _ _).trans_eq List.length_range'

theorem eventsBetween_congr
    (h : ∀ i, lo ≤ i → i < hi → playAt frames w i = playAt frames' w i) :
    eventsBetween frames w frameRate lo hi = eventsBetween frames' w frameRate lo hi := by
  refine List.filterMap_congr fun i hi ↦ ?_
  have hrange := List.mem_range'_1.mp hi
  rw [h i hrange.1 (by omega)]

theorem exists_of_mem_eventsBetween {event : GameEvent}
    (h : event ∈ eventsBetween frames w frameRate lo hi) :
    ∃ i, lo ≤ i ∧ i < hi ∧ event.time = i / frameRate := by
  obtain ⟨i, hi, hevent⟩ := List.mem_filterMap.mp h
  obtain ⟨play, -, rfl⟩ := Option.map_eq_some_iff.mp hevent
  have hrange := List.mem_range'_1.mp hi
  exact ⟨i, hrange.1, by omega, Play.time_toGameEvent _ _⟩

end Events

/-! ## Statistics -/

/-- No figure differs by more than `bound`, and the points do not differ. -/
structure PlayerStats.Near (bound : ℤ) (ps ps' : PlayerStats) : Prop where
  turnovers : |ps.turnovers - ps'.turnovers| ≤ bound
  steals : |ps.steals - ps'.steals| ≤ bound
  assists : |ps.assists - ps'.assists| ≤ bound
  points : ps.points = ps'.points

/-- Few events make little difference. -/
theorem abs_countP_sub_le {p : GameEvent → Bool} {before during during' after : List GameEvent}
    {bound : ℕ} (hduring : during.length ≤ bound) (hduring' : during'.length ≤ bound) (n : ℤ) :
    |(n + ((before ++ during ++ after).countP p : ℕ)) -
      (n + ((before ++ during' ++ after).countP p : ℕ))| ≤ bound := by
  have hle := (List.countP_le_length (p := p)).trans hduring
  have hle' := (List.countP_le_length (p := p)).trans hduring'
  simp only [List.countP_append, Nat.cast_add]
  rw [abs_le]
  omega

/-- Booking the same events before and after few others. -/
theorem near_statsOf {frames frames' : List FrameDict} {w : ℕ} {frameRate : ℚ}
    {before during during' after : List GameEvent} {bound : ℕ}
    (hevents : playEvents frames w frameRate = before ++ during ++ after)
    (hevents' : playEvents frames' w frameRate = before ++ during' ++ after)
    (hduring : during.length ≤ bound) (hduring' : during'.length ≤ bound)
    (playerStats : PlayerStatsDict) (player : ℤ) :
    (statsOf (updateAllPlayerStats (playEvents frames w frameRate) playerStats) player).Near bound
      (statsOf (updateAllPlayerStats (playEvents frames' w frameRate) playerStats) player) := by
  rw [statsOf_updateAllPlayerStats, statsOf_updateAllPlayerStats, PlayerStats.credit,
    PlayerStats.credit, madeShotsBy_playEvents, madeShotsBy_playEvents, hevents, hevents']
  exact ⟨abs_countP_sub_le hduring hduring' _, abs_countP_sub_le hduring hduring' _,
    abs_countP_sub_le hduring hduring' _, rfl⟩

/-! ## Calls -/

/-- **Disturbed images.**  If two videos differ only in the images from `a` on and below `b`,
a call reports the same events for both but for those from `a` on and below `b + w`, of which
there are at most that many; and no figure of a player differs by more. -/
theorem processVideo_disturbed {Image : Type u} (detector : Detector Image)
    {video video' : List Image} {a b : ℕ} (hvideo : AgreeOutside a b video video') (hab : a ≤ b)
    {w : ℕ} (hw : 1 ≤ w) {frameRate : ℚ} (hr : 0 < frameRate) (playerStats : PlayerStatsDict) :
    ∃ before during during' after stats stats',
      processFramesWithSlidingWindow (processVideo detector video) w frameRate playerStats =
        (.ok (before ++ during ++ after), stats) ∧
      processFramesWithSlidingWindow (processVideo detector video') w frameRate playerStats =
        (.ok (before ++ during' ++ after), stats') ∧
      (∀ event ∈ before, event.time < a / frameRate) ∧
      (∀ event ∈ during ++ during',
        a / frameRate ≤ event.time ∧ event.time < (b + w : ℕ) / frameRate) ∧
      (∀ event ∈ after, (b + w : ℕ) / frameRate ≤ event.time) ∧
      during.length ≤ b + w - a ∧ during'.length ≤ b + w - a ∧
      ∀ player, (statsOf stats player).Near (b + w - a : ℕ) (statsOf stats' player) := by
  have hframes : AgreeOutside a b (processVideo detector video) (processVideo detector video') :=
    hvideo.map _
  generalize processVideo detector video = frames at hframes ⊢
  generalize processVideo detector video' = frames' at hframes ⊢
  -- the frames at which the disturbed ones come and go, if the calls get there
  obtain ⟨lo, hlo⟩ : ∃ lo, lo = max w (min a frames.length) := ⟨_, rfl⟩
  obtain ⟨hi, hhi⟩ : ∃ hi, hi = max lo (min (b + w) frames.length) := ⟨_, rfl⟩
  obtain ⟨last, hlast⟩ : ∃ last, last = max hi frames.length := ⟨_, rfl⟩
  have hsplit (fs : List FrameDict) (hlength : fs.length = frames.length) :
      playEvents fs w frameRate = eventsBetween fs w frameRate w lo ++
        eventsBetween fs w frameRate lo hi ++ eventsBetween fs w frameRate hi last := by
    rw [eventsBetween_append (by omega) (by omega), eventsBetween_append (by omega) (by omega),
      playEvents, eventsBetween]
    congr 2
    omega
  have hbefore : eventsBetween frames' w frameRate w lo = eventsBetween frames w frameRate w lo :=
    eventsBetween_congr fun i hwi hilo ↦ (hframes.playAt_eq hw (by omega)).symm
  have hafter : eventsBetween frames' w frameRate hi last =
      eventsBetween frames w frameRate hi last :=
    eventsBetween_congr fun i hhii hi ↦ (hframes.playAt_eq hw (by omega)).symm
  have hevents := hsplit frames rfl
  have hevents' := hsplit frames' hframes.length.symm
  rw [hbefore, hafter] at hevents'
  have hduring (fs : List FrameDict) :
      (eventsBetween fs w frameRate lo hi).length ≤ b + w - a :=
    (length_eventsBetween_le _ _ _ _ _).trans (by omega)
  have hlt (i k : ℕ) : (i : ℚ) / frameRate < k / frameRate ↔ i < k := by
    rw [div_lt_div_iff_of_pos_right hr, Nat.cast_lt]
  have hle (i k : ℕ) : (i : ℚ) / frameRate ≤ k / frameRate ↔ i ≤ k := by
    rw [div_le_div_iff_of_pos_right hr, Nat.cast_le]
  refine ⟨eventsBetween frames w frameRate w lo, eventsBetween frames w frameRate lo hi,
    eventsBetween frames' w frameRate lo hi, eventsBetween frames w frameRate hi last, _, _,
    ?_, ?_, fun event hevent ↦ ?_, fun event hevent ↦ ?_, fun event hevent ↦ ?_,
    hduring frames, hduring frames',
    near_statsOf hevents hevents' (hduring frames) (hduring frames') playerStats⟩
  · rw [← hevents]
    exact processFramesWithSlidingWindow_eq frames hw hr.ne' playerStats
  · rw [← hevents']
    exact processFramesWithSlidingWindow_eq frames' hw hr.ne' playerStats
  · obtain ⟨i, hwi, hilo, htime⟩ := exists_of_mem_eventsBetween hevent
    rw [htime, hlt]
    omega
  · have hmem : ∃ i, lo ≤ i ∧ i < hi ∧ event.time = i / frameRate := by
      rcases List.mem_append.mp hevent with hevent | hevent <;>
      exact exists_of_mem_eventsBetween hevent
    obtain ⟨i, hloi, hihi, htime⟩ := hmem
    rw [htime, hlt, hle]
    omega
  · obtain ⟨i, hhii, hilast, htime⟩ := exists_of_mem_eventsBetween hevent
    rw [htime, hle]
    omega

/-- A classifier that sees the player whose number is on the image, with the ball. -/
def numberDetector : Detector ℤ where
  cvtColor := id
  model image := [[{ cls := image, xyxy := ⟨0, 0, 10, 10⟩, conf := 1 }]]
  yoloModel _ := [{ cls := 0, xyxy := ⟨0, 0, 10, 10⟩, conf := 1 },
    { cls := 1, xyxy := ⟨0, 0, 10, 10⟩, conf := 1 }]

/-- One image of five is disturbed. -/
theorem processVideo_disturbed_sample :
    ∃ before during during' after stats stats',
      processFramesWithSlidingWindow (processVideo numberDetector [7, 7, 7, 7, 7]) 1 30
        Dict.empty = (.ok (before ++ during ++ after), stats) ∧
      processFramesWithSlidingWindow (processVideo numberDetector [7, 7, 8, 7, 7]) 1 30
        Dict.empty = (.ok (before ++ during' ++ after), stats') ∧
      (∀ event ∈ before, event.time < (2 : ℕ) / 30) ∧
      (∀ event ∈ during ++ during',
        (2 : ℕ) / 30 ≤ event.time ∧ event.time < (3 + 1 : ℕ) / 30) ∧
      (∀ event ∈ after, (3 + 1 : ℕ) / 30 ≤ event.time) ∧
      during.length ≤ 3 + 1 - 2 ∧ during'.length ≤ 3 + 1 - 2 ∧
      ∀ player, (statsOf stats player).Near (3 + 1 - 2 : ℕ) (statsOf stats' player) := by
  have hvideo : AgreeOutside 2 3 [(7 : ℤ), 7, 7, 7, 7] [7, 7, 8, 7, 7] := by
    refine ⟨rfl, fun k hk ↦ ?_⟩
    rcases k with _ | _ | _ | k
    · rfl
    · rfl
    · omega
    · rfl
  exact processVideo_disturbed numberDetector hvideo (by decide) le_rfl (by norm_num) Dict.empty

/-- The disturbed image gives two passes. -/
example : (processFramesWithSlidingWindow (processVideo numberDetector [7, 7, 8, 7, 7]) 1 30
    Dict.empty).1 =
      .ok [(Play.pass 7 8).toGameEvent (2 / 30), (Play.pass 8 7).toGameEvent (3 / 30)] := by
  decide +kernel

end Courtside
