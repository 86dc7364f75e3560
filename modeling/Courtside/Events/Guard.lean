import Courtside.Events.Refinement

/-!
# What the change test leaves out

The loop of `process_frames_with_sliding_window` compares two consecutive aggregates only if
they differ ("Generates game events when state changes occur").  `windowLoopUnguarded` is the
same loop without the test.

On equal aggregates `determine_event_change` returns a dribble of the holder, if there is one
(`determineEventChange_self`).  So the test leaves out exactly these dribbles.  They count for
no statistics, and the events are the same exactly if nobody holds the ball in two equal
consecutive aggregates (`processFrames_unguarded`).
-/

namespace Courtside

open SlidingWindow

/-! ## The loop without the test -/

/-- The loop, comparing all consecutive aggregates. -/
def windowLoopUnguarded (frameRate : ℚ) : List FrameDict → ℕ → List FrameState → FrameState →
    List GameEvent → PlayerStatsDict → Except PyError (List GameEvent) × PlayerStatsDict
  | [], _, _, _, events, playerStats => (.ok events, playerStats)
  | frame :: frames, i, windowStates, prevAggState, events, playerStats =>
      let windowStates := windowStates.tail ++ [getFrameState frame]
      match aggregateWindowState windowStates with
      | .error e => (.error e, playerStats)
      | .ok currAggState =>
          match determineEventChange prevAggState currAggState i frameRate with
          | .error e => (.error e, playerStats)
          | .ok none =>
              windowLoopUnguarded frameRate frames (i + 1) windowStates currAggState events
                playerStats
          | .ok (some event) =>
              windowLoopUnguarded frameRate frames (i + 1) windowStates currAggState
                (events ++ [event]) (updatePlayerStats event playerStats)

/-- `process_frames_with_sliding_window`, with that loop. -/
def processFramesUnguarded (frames : List FrameDict) (windowSize : ℕ) (frameRate : ℚ)
    (playerStats : PlayerStatsDict) : Except PyError (List GameEvent) × PlayerStatsDict :=
  if frames.length < windowSize then (.ok [], playerStats)
  else
    let windowStates := (frames.take windowSize).map getFrameState
    match aggregateWindowState windowStates with
    | .error e => (.error e, playerStats)
    | .ok prevAggState =>
        windowLoopUnguarded frameRate (frames.drop windowSize) windowSize windowStates prevAggState
          [] playerStats

/-! ## Equal aggregates -/

/-- On equal states `determine_event_change` returns a dribble of the holder. -/
theorem determineEventChange_self (state : FrameState) (frameIndex : ℕ) {frameRate : ℚ}
    (hr : frameRate ≠ 0) :
    determineEventChange state state frameIndex frameRate =
      .ok (state.possession.map fun player ↦
        (Play.dribble player).toGameEvent (frameIndex / frameRate)) := by
  obtain ⟨possession, shot⟩ := state
  rw [determineEventChange, if_neg hr]
  cases possession <;> cases shot <;> simp [pure, Except.pure, Play.toGameEvent]

/-- The event that `determine_event_change` returns for two aggregates at frame `i`. -/
def compareEvent (frameRate : ℚ) (i : ℕ) (prevState currState : FrameState) : Option GameEvent :=
  if currState = prevState then
    currState.possession.map fun player ↦ (Play.dribble player).toGameEvent (i / frameRate)
  else emitEvent frameRate i prevState currState

theorem determineEventChange_eq_compareEvent (prevState currState : FrameState) (i : ℕ)
    {frameRate : ℚ} (hr : frameRate ≠ 0) :
    determineEventChange prevState currState i frameRate =
      .ok (compareEvent frameRate i prevState currState) := by
  by_cases heq : currState = prevState
  · rw [compareEvent, if_pos heq, heq]
    exact determineEventChange_self prevState i hr
  · rw [compareEvent, if_neg heq]
    exact determineEventChange_eq hr heq

/-- The loop with the test emits what the test lets through. -/
theorem emitEvent_eq_onChange (frameRate : ℚ) :
    emitEvent frameRate = onChange (compareEvent frameRate) := by
  funext i prevState currState
  by_cases heq : currState = prevState
  · rw [onChange, if_pos heq, emitEvent, change, if_pos heq]
    rfl
  · rw [onChange, if_neg heq, compareEvent, if_neg heq]

/-! ## The loop without the test is a detector -/

/-- The loop invariant of `windowLoop_eq`, without the test. -/
theorem windowLoopUnguarded_eq {frameRate : ℚ} (hr : frameRate ≠ 0) (frames : List FrameDict)
    (i : ℕ) (windowStates : List FrameState) (prevAggState : FrameState) (events : List GameEvent)
    (playerStats : PlayerStatsDict) :
    let emitted := slideFrom aggregate (compareEvent frameRate) (frames.map getFrameState) i
      windowStates prevAggState
    windowLoopUnguarded frameRate frames i windowStates prevAggState events playerStats =
      (.ok (events ++ emitted), updateAllPlayerStats emitted playerStats) := by
  induction frames generalizing i windowStates prevAggState events playerStats with
  | nil => simp [windowLoopUnguarded, slideFrom]
  | cons frame frames ih =>
      have hagg := aggregateWindowState_eq
        (List.concat_ne_nil (getFrameState frame) windowStates.tail)
      simp only [windowLoopUnguarded, hagg, List.map_cons, slideFrom,
        determineEventChange_eq_compareEvent prevAggState _ i hr]
      cases compareEvent frameRate i prevAggState
          (aggregate (windowStates.tail ++ [getFrameState frame])) with
      | none =>
          rw [ih]
          rfl
      | some event =>
          simp only [ih, Option.toList_some, List.singleton_append, List.append_assoc,
            updateAllPlayerStats_cons]

/-- The events of the loop without the test. -/
def compareEvents (frames : List FrameDict) (w : ℕ) (frameRate : ℚ) : List GameEvent :=
  slide aggregate (compareEvent frameRate) w (frames.map getFrameState)

theorem processFramesUnguarded_eq (frames : List FrameDict) {w : ℕ} (hw : 1 ≤ w) {frameRate : ℚ}
    (hr : frameRate ≠ 0) (playerStats : PlayerStatsDict) :
    processFramesUnguarded frames w frameRate playerStats =
      (.ok (compareEvents frames w frameRate),
        updateAllPlayerStats (compareEvents frames w frameRate) playerStats) := by
  rw [compareEvents, processFramesUnguarded, slide, List.length_map]
  by_cases hlen : frames.length < w
  · rw [if_pos hlen, if_pos hlen]
    rfl
  · have hne := map_take_ne_nil hw (not_lt.mp hlen)
    rw [if_neg hlen, if_neg hlen, ← List.map_drop, ← List.map_take]
    simp only [aggregateWindowState_eq hne, windowLoopUnguarded_eq hr, List.nil_append]

/-! ## Dribbles -/

/-- The events that are no dribbles. -/
def withoutDribbles (events : List GameEvent) : List GameEvent :=
  events.filter fun event ↦ event.eventType ≠ .dribble

/-- A dribble counts for no statistics. -/
theorem updateAllPlayerStats_withoutDribbles (events : List GameEvent)
    (playerStats : PlayerStatsDict) :
    updateAllPlayerStats (withoutDribbles events) playerStats =
      updateAllPlayerStats events playerStats := by
  induction events generalizing playerStats with
  | nil => rfl
  | cons event events ih =>
      rw [withoutDribbles] at ih ⊢
      by_cases hdribble : event.eventType = .dribble
      · have hsame : updatePlayerStats event playerStats = playerStats := by
          rw [updatePlayerStats, hdribble]
        rw [List.filter_cons_of_neg (by simpa using hdribble), ih, updateAllPlayerStats_cons, hsame]
      · rw [List.filter_cons_of_pos (by simpa using hdribble), updateAllPlayerStats_cons, ih,
          updateAllPlayerStats_cons]

theorem compareEvent_self_eq_none_iff {frameRate : ℚ} {i : ℕ} {state : FrameState} :
    compareEvent frameRate i state state = none ↔ state.possession = none := by
  rw [compareEvent, if_pos rfl, Option.map_eq_none_iff]

/-- Equal aggregates make dribbles only. -/
theorem eventType_compareEvent_self {frameRate : ℚ} {i : ℕ} {state : FrameState} {event : GameEvent}
    (h : compareEvent frameRate i state state = some event) : event.eventType = .dribble := by
  rw [compareEvent, if_pos rfl] at h
  obtain ⟨player, -, rfl⟩ := Option.map_eq_some_iff.mp h
  rfl

/-- The test leaves out dribbles only. -/
theorem withoutDribbles_playEvents (frames : List FrameDict) {w : ℕ} (hw : 1 ≤ w) (frameRate : ℚ) :
    withoutDribbles (playEvents frames w frameRate) =
      withoutDribbles (compareEvents frames w frameRate) := by
  rw [← slide_eq_playEvents frames hw, emitEvent_eq_onChange]
  refine filter_slide_onChange aggregate (compareEvent frameRate) hw fun i state event h ↦ ?_
  simpa using eventType_compareEvent_self h

/-- The aggregate of the window that ends at frame `k`. -/
def aggregateAt (frames : List FrameDict) (w k : ℕ) : FrameState :=
  aggregate (windowAt (frames.map getFrameState) w k)

/-- **The change test.**  On equal states `determine_event_change` returns a dribble of the
holder.  The loop with the test returns some of the events of the loop without it, all but
dribbles, and leaves the same statistics; and it returns all of them if and only if nobody
holds the ball in two equal consecutive aggregates. -/
theorem processFrames_unguarded (frames : List FrameDict) {w : ℕ} (hw : 1 ≤ w) {frameRate : ℚ}
    (hr : frameRate ≠ 0) (playerStats : PlayerStatsDict) :
    (∀ (state : FrameState) (i : ℕ), determineEventChange state state i frameRate =
      .ok (state.possession.map fun player ↦ (Play.dribble player).toGameEvent (i / frameRate))) ∧
    ∃ events compared playerStats',
      processFramesWithSlidingWindow frames w frameRate playerStats = (.ok events, playerStats') ∧
      processFramesUnguarded frames w frameRate playerStats = (.ok compared, playerStats') ∧
      events.Sublist compared ∧ withoutDribbles events = withoutDribbles compared ∧
      (events = compared ↔ ∀ k, w ≤ k → k < frames.length →
        aggregateAt frames w k = aggregateAt frames w (k - 1) →
          (aggregateAt frames w k).possession = none) := by
  refine ⟨fun state i ↦ determineEventChange_self state i hr, playEvents frames w frameRate,
    compareEvents frames w frameRate, _, processFramesWithSlidingWindow_eq frames hw hr playerStats,
    ?_, ?_, withoutDribbles_playEvents frames hw frameRate, ?_⟩
  · rw [processFramesUnguarded_eq frames hw hr, ← updateAllPlayerStats_withoutDribbles,
      ← withoutDribbles_playEvents frames hw, updateAllPlayerStats_withoutDribbles]
  · rw [← slide_eq_playEvents frames hw, emitEvent_eq_onChange]
    exact slide_onChange_sublist aggregate (compareEvent frameRate) hw
  · rw [← slide_eq_playEvents frames hw, emitEvent_eq_onChange, compareEvents,
      slide_onChange_eq_iff aggregate (compareEvent frameRate) hw, List.length_map]
    apply forall₄_congr
    intro k _ _ hsame
    have haggregate : aggregateAt frames w k = aggregateAt frames w (k - 1) := hsame
    change compareEvent frameRate k (aggregateAt frames w (k - 1)) (aggregateAt frames w k) = none ↔
      _
    rw [← haggregate, compareEvent_self_eq_none_iff]

/-- Player `7` has the ball in both frames. -/
def heldFrames : List FrameDict := [⟨some 7, false⟩, ⟨some 7, false⟩].map FrameState.frame

theorem processFrames_unguarded_sample :
    ∃ events compared playerStats',
      processFramesWithSlidingWindow heldFrames 1 30 Dict.empty = (.ok events, playerStats') ∧
      processFramesUnguarded heldFrames 1 30 Dict.empty = (.ok compared, playerStats') ∧
      events.Sublist compared :=
  have ⟨_, events, compared, playerStats', hevents, hcompared, hsublist, _⟩ :=
    processFrames_unguarded heldFrames (le_refl 1) (by norm_num : (30 : ℚ) ≠ 0) Dict.empty
  ⟨events, compared, playerStats', hevents, hcompared, hsublist⟩

/-- The test keeps the dribble of the second frame from being reported. -/
theorem processFrames_unguarded_fails :
    (processFramesWithSlidingWindow heldFrames 1 30 Dict.empty).1 = .ok [] ∧
      (processFramesUnguarded heldFrames 1 30 Dict.empty).1 =
        .ok [(Play.dribble 7).toGameEvent (1 / 30)] ∧
      determineEventChange ⟨some 7, false⟩ ⟨some 7, false⟩ 1 30 =
        .ok (some ((Play.dribble 7).toGameEvent (1 / 30))) :=
  ⟨by decide +kernel, by decide +kernel, by decide +kernel⟩

end Courtside
