import Courtside.Events.Refinement

/-!
# Processing a video in chunks

A list of frames can be cut anywhere after the first window, provided the second
chunk starts one window before the cut: that window rebuilds both the popped and
appended window and the previous aggregate.  The generic statement is
`SlidingWindow.slide_append_overlap`; here the index shift becomes a shift of
times, which the statistics do not see.
-/

namespace Courtside

open SlidingWindow

/-- The same event, later. -/
def GameEvent.delay (event : GameEvent) (t : ℚ) : GameEvent := { event with time := event.time + t }

theorem Play.toGameEvent_add (play : Play) (time t : ℚ) :
    play.toGameEvent (time + t) = (play.toGameEvent time).delay t := by cases play <;> rfl

/-- Booking does not look at times. -/
theorem updateAllPlayerStats_map_delay (events : List GameEvent) (t : ℚ)
    (playerStats : PlayerStatsDict) :
    updateAllPlayerStats (events.map fun event ↦ event.delay t) playerStats =
      updateAllPlayerStats events playerStats := by
  rw [updateAllPlayerStats, List.foldl_map]
  rfl

/-- Emitting at a later index emits the same event later. -/
theorem emitEvent_add (frameRate : ℚ) (i m : ℕ) (prevState currState : FrameState) :
    emitEvent frameRate (i + m) prevState currState =
      (emitEvent frameRate i prevState currState).map
        fun event ↦ event.delay ((m : ℚ) / frameRate) := by
  rw [emitEvent, emitEvent, Option.map_map, Nat.cast_add, add_div]
  congr 1
  funext play
  exact play.toGameEvent_add _ _

/-- The plays of a list, cut at `k` with an overlap of one window. -/
theorem playEvents_append_overlap (frames : List FrameDict) {w k : ℕ} (hw : 1 ≤ w) (hwk : w ≤ k)
    (hk : k ≤ frames.length) (frameRate : ℚ) :
    playEvents frames w frameRate =
      playEvents (frames.take k) w frameRate ++
        (playEvents (frames.drop (k - w)) w frameRate).map
          fun event ↦ event.delay (((k - w : ℕ) : ℚ) / frameRate) := by
  simp only [← slide_eq_playEvents _ hw]
  rw [slide_append_overlap aggregate (emitEvent frameRate) hw hwk (by simpa using hk),
    List.map_take, List.map_drop]
  congr 1
  exact slide_map _ _ _ hw fun i prev curr ↦ emitEvent_add frameRate i (k - w) prev curr

/-- **Chunked processing.**  Processing the frames up to `k` and then, with the
statistics this leaves, the frames from one window before `k` on gives the events
and the statistics of processing the whole list. -/
theorem processFrames_chunks (frames : List FrameDict) {w k : ℕ} (hw : 1 ≤ w) (hwk : w ≤ k)
    (hk : k ≤ frames.length) {frameRate : ℚ} (hr : 0 < frameRate)
    (playerStats : PlayerStatsDict) :
    ∃ events₁ events₂ playerStats₁ playerStats₂,
      processFramesWithSlidingWindow (frames.take k) w frameRate playerStats =
        (.ok events₁, playerStats₁) ∧
      processFramesWithSlidingWindow (frames.drop (k - w)) w frameRate playerStats₁ =
        (.ok events₂, playerStats₂) ∧
      processFramesWithSlidingWindow frames w frameRate playerStats =
        (.ok (events₁ ++ events₂.map fun event ↦ event.delay (((k - w : ℕ) : ℚ) / frameRate)),
          playerStats₂) := by
  refine ⟨_, _, _, _, processFramesWithSlidingWindow_eq _ hw hr.ne' _,
    processFramesWithSlidingWindow_eq _ hw hr.ne' _, ?_⟩
  rw [processFramesWithSlidingWindow_eq _ hw hr.ne',
    playEvents_append_overlap frames hw hwk hk frameRate, updateAllPlayerStats_append,
    updateAllPlayerStats_map_delay]

/-- Three frames cut before the last. -/
theorem processFrames_chunks_sample :
    ∃ events₁ events₂ playerStats₁ playerStats₂,
      processFramesWithSlidingWindow (sampleFrames.take 2) 1 30 Dict.empty =
        (.ok events₁, playerStats₁) ∧
      processFramesWithSlidingWindow (sampleFrames.drop (2 - 1)) 1 30 playerStats₁ =
        (.ok events₂, playerStats₂) ∧
      processFramesWithSlidingWindow sampleFrames 1 30 Dict.empty =
        (.ok (events₁ ++ events₂.map fun event ↦ event.delay (((2 - 1 : ℕ) : ℚ) / 30)),
          playerStats₂) :=
  processFrames_chunks sampleFrames (le_refl 1) one_le_two (by decide) (by norm_num) Dict.empty

end Courtside
