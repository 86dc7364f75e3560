import Courtside.Events.Ledger

/-!
# Shots: which are reported, and how they are judged

A shot attempt *opens* at a frame where `detect_shots` finds something and finds
nothing on the `w` frames before (as far as there are that many).  From frame `w`
on, openings and shot events correspond one to one.  The first `w` frames only
fill the window: their openings, and all openings of a list no longer than the
window, are never reported.

A reported shot carries the result `"Undecided"`.  `detect_shot_results` judges
the shots of a frame and `update_player_stats` pays for a `"Made"` one, but
nothing passes the judgement on, so shots and points agree with the judging
exactly when no shot is reported (`processFrames_scoring_iff`).
-/

namespace Courtside

open SlidingWindow

variable {frames : List FrameDict} {w : ℕ} {frameRate : ℚ}

/-! ## Openings -/

/-- A shot attempt opens at frame `k`, in terms of `detect_shots`. -/
def Opening (frames : List FrameDict) (w k : ℕ) : Prop :=
  (∃ frame, frames[k]? = some frame ∧ detectShots frame.detections ≠ []) ∧
    ∀ j frame, k - w ≤ j → j < k → frames[j]? = some frame → detectShots frame.detections = []

theorem shotAt_iff {k : ℕ} :
    ShotAt frames k ↔ ∃ frame, frames[k]? = some frame ∧ detectShots frame.detections ≠ [] := by
  rw [ShotAt]
  cases hframe : frames[k]? with
  | none => simp [stateAt, hframe]
  | some frame =>
      rw [stateAt_of_getElem? hframe, getFrameState_shot_iff]
      simp

/-- Openings are read off the shot flags. -/
theorem opening_iff_shotOpens {k : ℕ} : Opening frames w k ↔ ShotOpens frames w k := by
  rw [Opening, ShotOpens, shotAt_iff]
  refine and_congr_right fun _ ↦ ⟨?_, ?_⟩
  · rintro hno ⟨j, hlo, hhi, hj⟩
    obtain ⟨frame, hframe, hshot⟩ := shotAt_iff.mp hj
    exact hshot (hno j frame hlo hhi hframe)
  · intro hno j frame hlo hhi hframe
    by_contra hshot
    exact hno ⟨j, hlo, hhi, shotAt_iff.mpr ⟨frame, hframe, hshot⟩⟩

/-- Openings are at frames of the list. -/
theorem Opening.lt_length {k : ℕ} (h : Opening frames w k) : k < frames.length := by
  obtain ⟨⟨frame, hframe, -⟩, -⟩ := h
  by_contra hlt
  rw [List.getElem?_eq_none (by omega)] at hframe
  cases hframe

/-! ## Shot events -/

/-- The shot events. -/
def shotEvents (events : List GameEvent) : List GameEvent :=
  events.filter fun event ↦ event.eventType = .shot

theorem Play.eventType_toGameEvent_eq_shot_iff {time : ℚ} {play : Play} :
    (play.toGameEvent time).eventType = .shot ↔ ∃ possession, play = .shot possession := by
  cases play <;> simp [Play.toGameEvent]

/-- The openings among the reported frames, in order. -/
def openings (frames : List FrameDict) (w : ℕ) : List ℕ :=
  (List.range' w (frames.length - w)).filter fun k ↦ ShotOpens frames w k

/-- The shot events of a list of frames are those of its openings. -/
theorem shotEvents_playEvents (frames : List FrameDict) (w : ℕ) (frameRate : ℚ) :
    shotEvents (playEvents frames w frameRate) =
      (openings frames w).map fun k ↦
        (Play.shot (possessionAt frames k)).toGameEvent (k / frameRate) := by
  rw [shotEvents, playEvents, openings, List.filter_filterMap, ← List.filterMap_eq_map,
    List.filterMap_filter]
  refine List.filterMap_congr fun k _ ↦ ?_
  by_cases hopen : ShotOpens frames w k
  · simp [playAt_of_shotOpens hopen, hopen, Play.toGameEvent]
  · cases hplay : playAt frames w k with
    | none => simp [hopen]
    | some play =>
        have hne : (play.toGameEvent (k / frameRate)).eventType ≠ .shot := by
          rw [ne_eq, Play.eventType_toGameEvent_eq_shot_iff]
          rintro ⟨possession, rfl⟩
          exact hopen (playAt_eq_some_iff.mp hplay).1
        simp [hopen, hne]

/-- The shot events come at the times of the openings. -/
theorem times_shotEvents_playEvents (frames : List FrameDict) (w : ℕ) (frameRate : ℚ) :
    (shotEvents (playEvents frames w frameRate)).map GameEvent.time =
      (openings frames w).map fun k : ℕ ↦ (k : ℚ) / frameRate := by
  rw [shotEvents_playEvents, List.map_map]
  exact List.map_congr_left fun k _ ↦ Play.time_toGameEvent _ _

/-- Exactly the openings from frame `lo` on are reported, each once and at its
time. -/
def ShotsReportedFrom (lo : ℕ) (frames : List FrameDict) (w : ℕ) (frameRate : ℚ)
    (events : List GameEvent) : Prop :=
  ∃ opened : List ℕ, opened.Pairwise (· < ·) ∧
    (∀ k, k ∈ opened ↔ lo ≤ k ∧ Opening frames w k) ∧
    (shotEvents events).map GameEvent.time = opened.map fun k : ℕ ↦ (k : ℚ) / frameRate

/-- **Every shot attempt after the warm-up is reported exactly once.** -/
theorem processFrames_shots_reported (frames : List FrameDict) {w : ℕ} (hw : 1 ≤ w)
    {frameRate : ℚ} (hr : frameRate ≠ 0) (playerStats : PlayerStatsDict) :
    ∃ events playerStats',
      processFramesWithSlidingWindow frames w frameRate playerStats = (.ok events, playerStats') ∧
      ShotsReportedFrom w frames w frameRate events := by
  refine ⟨_, _, processFramesWithSlidingWindow_eq frames hw hr playerStats, openings frames w,
    (List.pairwise_lt_range' (s := w)).filter _, fun k ↦ ?_,
    times_shotEvents_playEvents frames w frameRate⟩
  rw [openings, List.mem_filter, List.mem_range'_1, decide_eq_true_eq, opening_iff_shotOpens]
  constructor
  · rintro ⟨⟨hlo, -⟩, hopen⟩
    exact ⟨hlo, hopen⟩
  · rintro ⟨hlo, hopen⟩
    have hlt := (opening_iff_shotOpens.mpr hopen).lt_length
    exact ⟨⟨hlo, by omega⟩, hopen⟩

theorem processFrames_shots_reported_sample :
    ∃ events playerStats',
      processFramesWithSlidingWindow sampleFrames 1 30 Dict.empty = (.ok events, playerStats') ∧
      ShotsReportedFrom 1 sampleFrames 1 30 events :=
  processFrames_shots_reported sampleFrames (le_refl 1) (by norm_num) Dict.empty

/-- A single frame with a shot opens an attempt, and no event reports it. -/
theorem processFrames_shots_warmup_fails :
    ∃ events,
      (processFramesWithSlidingWindow [FrameState.frame ⟨some 7, true⟩] 1 30 Dict.empty).1 =
        .ok events ∧
      ¬ShotsReportedFrom 0 [FrameState.frame ⟨some 7, true⟩] 1 30 events := by
  refine ⟨[], rfl, ?_⟩
  rintro ⟨opened, -, hmem, htimes⟩
  have hopen : Opening [FrameState.frame ⟨some 7, true⟩] 1 0 :=
    opening_iff_shotOpens.mpr (by decide +kernel)
  have hnil : opened = [] := by simpa [shotEvents] using htimes.symm
  rw [hnil] at hmem
  exact List.not_mem_nil ((hmem 0).mpr ⟨le_refl 0, hopen⟩)

/-! ## Judging -/

/-- `detect_shot_results` finds a made shot on frame `k`. -/
def judgedMade (frames : List FrameDict) (k : ℕ) : Bool :=
  match frames[k]? with
  | some frame => (detectShotResults frame.detections).contains "Made"
  | none => false

/-- Events and points agree with the judging: every shot event has the result of
its frame, and every player's points grow by `2` for each of their shot events
whose frame is judged made. -/
def ScoringAgrees (frames : List FrameDict) (frameRate : ℚ) (playerStats : PlayerStatsDict)
    (events : List GameEvent) (playerStats' : PlayerStatsDict) : Prop :=
  (∀ k event, k < frames.length → event ∈ shotEvents events → event.time = k / frameRate →
    event.details.result = some (if judgedMade frames k then "Made" else "Missed")) ∧
  ∀ player, (statsOf playerStats' player).points =
    (statsOf playerStats player).points +
      2 * ((shotEvents events).countP fun event ↦
        event.details.possession = some (some player) ∧
          ∃ k < frames.length, event.time = k / frameRate ∧ judgedMade frames k : ℕ)

/-- No shot is ever paid for. -/
theorem madeShotsBy_playEvents (frames : List FrameDict) (w : ℕ) (frameRate : ℚ) (player : ℤ) :
    madeShotsBy (playEvents frames w frameRate) player = 0 := by
  refine List.countP_eq_zero.mpr fun event hevent ↦ ?_
  obtain ⟨i, play, -, -, -, rfl⟩ := mem_playEvents.mp hevent
  cases play <;> simp [Play.toGameEvent]

/-- **When scoring agrees with judging**: exactly if no shot attempt opens after
the warm-up. -/
theorem processFrames_scoring_iff (frames : List FrameDict) {w : ℕ} (hw : 1 ≤ w)
    {frameRate : ℚ} (hr : frameRate ≠ 0) (playerStats : PlayerStatsDict) :
    ∃ events playerStats',
      processFramesWithSlidingWindow frames w frameRate playerStats = (.ok events, playerStats') ∧
      (ScoringAgrees frames frameRate playerStats events playerStats' ↔
        ∀ k, w ≤ k → ¬Opening frames w k) := by
  refine ⟨_, _, processFramesWithSlidingWindow_eq frames hw hr playerStats, ?_, fun hno ↦ ?_⟩
  · rintro ⟨hresult, -⟩ k hwk hopening
    have hopen := opening_iff_shotOpens.mp hopening
    have hevent : (Play.shot (possessionAt frames k)).toGameEvent (k / frameRate) ∈
        shotEvents (playEvents frames w frameRate) :=
      List.mem_filter.mpr ⟨mem_playEvents.mpr
        ⟨k, _, hwk, hopening.lt_length, playAt_of_shotOpens hopen, rfl⟩, rfl⟩
    have hsome := hresult k _ hopening.lt_length hevent rfl
    by_cases hmade : judgedMade frames k = true <;> simp [hmade, Play.toGameEvent] at hsome
  · have hnil : shotEvents (playEvents frames w frameRate) = [] := by
      rw [shotEvents_playEvents, openings, List.map_eq_nil_iff, List.filter_eq_nil_iff]
      intro k hk
      rw [decide_eq_true_eq, ← opening_iff_shotOpens]
      exact hno k (List.mem_range'_1.mp hk).1
    refine ⟨fun k event _ hevent ↦ ?_, fun player ↦ ?_⟩
    · rw [hnil] at hevent
      exact absurd hevent List.not_mem_nil
    · rw [statsOf_updateAllPlayerStats, PlayerStats.credit, madeShotsBy_playEvents, hnil]
      rfl

theorem processFrames_scoring_iff_sample :
    ∃ events playerStats',
      processFramesWithSlidingWindow sampleFrames 1 30 Dict.empty = (.ok events, playerStats') ∧
      (ScoringAgrees sampleFrames 30 Dict.empty events playerStats' ↔
        ∀ k, 1 ≤ k → ¬Opening sampleFrames 1 k) :=
  processFrames_scoring_iff sampleFrames (le_refl 1) (by norm_num) Dict.empty

/-- In the sample the last frame has a shot near the top of the frame, judged made
and reported as undecided. -/
theorem processFrames_scoring_sample_fails :
    ∃ events playerStats',
      processFramesWithSlidingWindow sampleFrames 1 30 Dict.empty = (.ok events, playerStats') ∧
      ¬ScoringAgrees sampleFrames 30 Dict.empty events playerStats' := by
  refine ⟨[(Play.turnover 7).toGameEvent (1 / 30), (Play.shot (some 8)).toGameEvent (2 / 30)],
    _, Prod.ext (by decide +kernel) rfl, fun h ↦ ?_⟩
  have hresult := h.1 2 ((Play.shot (some 8)).toGameEvent (2 / 30)) (by decide)
    (by simp [shotEvents, Play.toGameEvent]) (by simp)
  have hmade : judgedMade sampleFrames 2 = true := by decide +kernel
  simp [hmade, Play.toGameEvent] at hresult

end Courtside
