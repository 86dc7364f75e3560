import Courtside.Events.Play
import Mathlib.Algebra.Order.Ring.Rat
import Mathlib.Tactic.NormNum

/-!
# The event loop computes the plays

The loop refines `playEvents`: from a window size of at least one and a nonzero
frame rate it returns, without raising, exactly the events of the plays, and it
leaves the statistics which result from booking those events in order.

The proof goes through the sliding-window detector of `Data/SlidingWindow.lean`.

* `determineEventChange_eq`: one comparison is the typed change of two states;
* `windowLoop_eq`: the loop is the detector, with the events it has emitted and
  the statistics they leave as accumulators;
* `emitAt_eq_playAt`: what the detector emits at frame `i` is the play at `i`,
  by the edge lemmas for a windowed disjunction.
-/

namespace Courtside

open SlidingWindow

/-! ## One comparison -/

/-- The play that two consecutive aggregates amount to.  Equal aggregates are not
compared. -/
def change (prevState currState : FrameState) : Option Play :=
  if currState = prevState then none
  else if prevState.shot = false ∧ currState.shot = true then
    some (.shot currState.possession)
  else
    match prevState.possession, currState.possession with
    | some a, some b => if a ≠ b then some (.pass a b) else some (.dribble b)
    | some a, none => some (.turnover a)
    | none, some b => some (.steal b)
    | none, none => none

/-- On different states `determine_event_change` returns the event of their
change. -/
theorem determineEventChange_eq {prevState currState : FrameState} {frameIndex : ℕ}
    {frameRate : ℚ} (hr : frameRate ≠ 0) (hne : currState ≠ prevState) :
    determineEventChange prevState currState frameIndex frameRate =
      .ok ((change prevState currState).map (Play.toGameEvent (frameIndex / frameRate))) := by
  obtain ⟨prevPossession, prevShot⟩ := prevState
  obtain ⟨currPossession, currShot⟩ := currState
  rw [determineEventChange, change, if_neg hr, if_neg hne]
  by_cases hshot : prevShot = false ∧ currShot = true
  · obtain ⟨rfl, rfl⟩ := hshot
    rfl
  · have hguard : (!prevShot && currShot) = false := by
      cases prevShot <;> cases currShot <;> simp_all
    simp only [if_neg hshot, hguard]
    cases prevPossession with
    | none => cases currPossession <;> rfl
    | some a =>
        cases currPossession with
        | none => rfl
        | some b =>
            by_cases hab : a = b
            · subst hab
              simp [pure, Except.pure, Play.toGameEvent]
            · simp [hab, pure, Except.pure, Play.toGameEvent]

/-- A frame rate of zero raises, whatever the states. -/
theorem determineEventChange_zero (prevState currState : FrameState) (frameIndex : ℕ) :
    determineEventChange prevState currState frameIndex 0 = .error .zeroDivisionError := rfl

/-! ## The aggregate -/

/-- The aggregate as a total function: nobody's ball in an empty window. -/
def aggregate (windowStates : List FrameState) : FrameState where
  possession := windowStates.getLast?.bind FrameState.possession
  shot := windowStates.any FrameState.shot

theorem aggregateWindowState_eq {windowStates : List FrameState} (h : windowStates ≠ []) :
    aggregateWindowState windowStates = .ok (aggregate windowStates) := by
  rw [aggregateWindowState, aggregate, List.getLast?_eq_getLast_of_ne_nil h]
  rfl

/-- The aggregate of the window ending at `i` has the possession of frame `i`. -/
theorem possession_aggregate_windowAt {frames : List FrameDict} {w i : ℕ} (hw : 1 ≤ w)
    (hwi : w ≤ i + 1) (hi : i < frames.length) :
    (aggregate (windowAt (frames.map getFrameState) w i)).possession = possessionAt frames i := by
  rw [aggregate, getLast?_windowAt hw hwi (by simpa using hi), possessionAt, stateAt,
    List.getElem?_map, List.getElem?_eq_getElem hi]
  rfl

/-- The aggregate of the window ending at `i` has a shot if one of its frames
has. -/
theorem shot_aggregate_windowAt (frames : List FrameDict) {w i : ℕ} (hwi : w ≤ i + 1) :
    (aggregate (windowAt (frames.map getFrameState) w i)).shot = true ↔
      Within (ShotAt frames) (i + 1 - w) (i + 1) := by
  simp only [aggregate, List.any_eq_true, mem_windowAt hwi, List.getElem?_map,
    Option.map_eq_some_iff]
  constructor
  · rintro ⟨_, ⟨j, hlo, hhi, frame, hframe, rfl⟩, hshot⟩
    exact ⟨j, hlo, hhi, by rw [ShotAt, stateAt_of_getElem? hframe]; exact hshot⟩
  · rintro ⟨j, hlo, hhi, hshot⟩
    cases hframe : frames[j]? with
    | none => simp [ShotAt, stateAt, hframe] at hshot
    | some frame =>
        rw [ShotAt, stateAt_of_getElem? hframe] at hshot
        exact ⟨_, ⟨j, hlo, hhi, frame, hframe, rfl⟩, hshot⟩

/-! ## The loop is the detector -/

/-- What the detector emits on two aggregates at frame `i`. -/
def emitEvent (frameRate : ℚ) (i : ℕ) (prevState currState : FrameState) : Option GameEvent :=
  (change prevState currState).map (Play.toGameEvent (i / frameRate))

/-- The statistics after booking a list of events in order. -/
def updateAllPlayerStats (events : List GameEvent) (playerStats : PlayerStatsDict) :
    PlayerStatsDict :=
  events.foldl (fun playerStats event ↦ updatePlayerStats event playerStats) playerStats

@[simp] theorem updateAllPlayerStats_nil (playerStats : PlayerStatsDict) :
    updateAllPlayerStats [] playerStats = playerStats := rfl

@[simp] theorem updateAllPlayerStats_cons (event : GameEvent) (events : List GameEvent)
    (playerStats : PlayerStatsDict) :
    updateAllPlayerStats (event :: events) playerStats =
      updateAllPlayerStats events (updatePlayerStats event playerStats) := rfl

theorem updateAllPlayerStats_append (events₁ events₂ : List GameEvent)
    (playerStats : PlayerStatsDict) :
    updateAllPlayerStats (events₁ ++ events₂) playerStats =
      updateAllPlayerStats events₂ (updateAllPlayerStats events₁ playerStats) := List.foldl_append

/-- **The loop invariant**: from any point on, the loop returns the events so far
followed by what the detector still emits, and books exactly the latter. -/
theorem windowLoop_eq {frameRate : ℚ} (hr : frameRate ≠ 0) (frames : List FrameDict) :
    ∀ (i : ℕ) (windowStates : List FrameState) (prevAggState : FrameState)
      (events : List GameEvent) (playerStats : PlayerStatsDict),
      let emitted := slideFrom aggregate (emitEvent frameRate) (frames.map getFrameState) i
        windowStates prevAggState
      windowLoop frameRate frames i windowStates prevAggState events playerStats =
        (.ok (events ++ emitted), updateAllPlayerStats emitted playerStats) := by
  induction frames with
  | nil =>
      intro i windowStates prevAggState events playerStats
      simp [windowLoop, slideFrom]
  | cons frame frames ih =>
      intro i windowStates prevAggState events playerStats
      have hagg := aggregateWindowState_eq
        (List.concat_ne_nil (getFrameState frame) windowStates.tail)
      simp only [windowLoop, hagg, List.map_cons, slideFrom]
      by_cases hne : aggregate (windowStates.tail ++ [getFrameState frame]) = prevAggState
      · have hnone : emitEvent frameRate i prevAggState
            (aggregate (windowStates.tail ++ [getFrameState frame])) = none := by
          rw [emitEvent, change, if_pos hne]
          rfl
        rw [if_neg (not_not.mpr hne), hnone, ih]
        rfl
      · rw [if_pos hne, determineEventChange_eq hr hne, ← emitEvent]
        cases emitEvent frameRate i prevAggState
            (aggregate (windowStates.tail ++ [getFrameState frame])) with
        | none =>
            rw [ih]
            rfl
        | some event =>
            simp only [ih, Option.toList_some, List.singleton_append, List.append_assoc,
              updateAllPlayerStats_cons]

/-- The first window is not empty. -/
theorem map_take_ne_nil {frames : List FrameDict} {w : ℕ} (hw : 1 ≤ w) (hlen : w ≤ frames.length) :
    (frames.take w).map getFrameState ≠ [] := by
  rw [ne_eq, List.map_eq_nil_iff, List.take_eq_nil_iff]
  rintro (rfl | rfl)
  · omega
  · rw [List.length_nil] at hlen
    omega

/-- The whole call is the detector on the frame states. -/
theorem processFramesWithSlidingWindow_eq_slide (frames : List FrameDict) {w : ℕ} (hw : 1 ≤ w)
    {frameRate : ℚ} (hr : frameRate ≠ 0) (playerStats : PlayerStatsDict) :
    let events := slide aggregate (emitEvent frameRate) w (frames.map getFrameState)
    processFramesWithSlidingWindow frames w frameRate playerStats =
      (.ok events, updateAllPlayerStats events playerStats) := by
  intro events
  by_cases hlen : frames.length < w
  · have hnil : events = [] := if_pos (by simpa using hlen)
    rw [processFramesWithSlidingWindow, if_pos hlen, hnil]
    rfl
  · have hne := map_take_ne_nil hw (not_lt.mp hlen)
    have hevents : events = slideFrom aggregate (emitEvent frameRate)
        ((frames.drop w).map getFrameState) w ((frames.take w).map getFrameState)
        (aggregate ((frames.take w).map getFrameState)) := by
      rw [List.map_drop, List.map_take]
      exact if_neg (by simpa using hlen)
    rw [processFramesWithSlidingWindow, if_neg hlen]
    simp only [aggregateWindowState_eq hne, windowLoop_eq hr, List.nil_append, hevents]

/-! ## The detector emits the plays -/

/-- Comparing the windows ending at `i - 1` and at `i` yields the play at `i`. -/
theorem emitAt_eq_playAt {frames : List FrameDict} {w i : ℕ} (frameRate : ℚ) (hw : 1 ≤ w)
    (hwi : w ≤ i) (hi : i < frames.length) :
    emitAt aggregate (emitEvent frameRate) w (frames.map getFrameState) i =
      (playAt frames w i).map (Play.toGameEvent (i / frameRate)) := by
  rw [emitAt, emitEvent]
  congr 1
  -- the two aggregates, in terms of the frame history
  have hp := possession_aggregate_windowAt hw (show w ≤ i - 1 + 1 by omega)
    (show i - 1 < frames.length by omega)
  have hc := possession_aggregate_windowAt hw (show w ≤ i + 1 by omega) hi
  have hps := shot_aggregate_windowAt frames (show w ≤ i - 1 + 1 by omega)
  rw [show i - 1 + 1 = i by omega] at hps
  have hcs := shot_aggregate_windowAt frames (show w ≤ i + 1 by omega)
  have hrise := within_rises_iff (s := ShotAt frames) (i := i) hw
  have hfall := within_falls_iff (s := ShotAt frames) hw hwi
  generalize aggregate (windowAt (frames.map getFrameState) w (i - 1)) = prev at hp hps ⊢
  generalize aggregate (windowAt (frames.map getFrameState) w i) = curr at hc hcs ⊢
  rw [← hps, ← hcs] at hrise hfall
  obtain ⟨prevPossession, prevShot⟩ := prev
  obtain ⟨currPossession, currShot⟩ := curr
  simp only at hp hc hps hcs hrise hfall
  subst hp hc
  have hopen : ShotOpens frames w i ↔ prevShot = false ∧ currShot = true := by
    rw [ShotOpens, ← hps, ← hrise, Bool.not_eq_true]
  have hclose : ShotCloses frames w i ↔ prevShot = true ∧ currShot = false := by
    rw [ShotCloses, ← hcs, ← hfall, Bool.not_eq_true]
  rw [change, playAt]
  simp only [hopen, hclose, FrameState.mk.injEq]
  cases possessionAt frames (i - 1) <;> cases possessionAt frames i <;>
    cases prevShot <;> cases currShot <;> simp <;> grind

/-- The detector's output is the plays of the frames. -/
theorem slide_eq_playEvents (frames : List FrameDict) {w : ℕ} (hw : 1 ≤ w) (frameRate : ℚ) :
    slide aggregate (emitEvent frameRate) w (frames.map getFrameState) =
      playEvents frames w frameRate := by
  rw [slide_eq aggregate (emitEvent frameRate) hw, playEvents, List.length_map]
  refine List.filterMap_congr fun i hi ↦ ?_
  obtain ⟨hlo, hhi⟩ := List.mem_range'_1.mp hi
  exact emitAt_eq_playAt frameRate hw hlo (by omega)

/-- **What a call does.**  It returns the plays of the frames and leaves the
statistics of booking them. -/
theorem processFramesWithSlidingWindow_eq (frames : List FrameDict) {w : ℕ} (hw : 1 ≤ w)
    {frameRate : ℚ} (hr : frameRate ≠ 0) (playerStats : PlayerStatsDict) :
    processFramesWithSlidingWindow frames w frameRate playerStats =
      (.ok (playEvents frames w frameRate),
        updateAllPlayerStats (playEvents frames w frameRate) playerStats) := by
  rw [processFramesWithSlidingWindow_eq_slide frames hw hr, slide_eq_playEvents frames hw]

/-! ## The plays, declaratively -/

/-- The plays with their frame indices. -/
def indexedPlays (frames : List FrameDict) (w : ℕ) : List (ℕ × Play) :=
  (List.range' w (frames.length - w)).filterMap fun i ↦ (playAt frames w i).map (Prod.mk i)

theorem mem_indexedPlays {frames : List FrameDict} {w i : ℕ} {play : Play} :
    (i, play) ∈ indexedPlays frames w ↔
      w ≤ i ∧ i < frames.length ∧ Happens frames w i play := by
  simp only [indexedPlays, List.mem_filterMap, List.mem_range'_1, Option.map_eq_some_iff,
    Prod.mk.injEq, ← playAt_eq_some_iff]
  constructor
  · rintro ⟨j, ⟨hlo, hhi⟩, play, hplay, rfl, rfl⟩
    exact ⟨hlo, by omega, hplay⟩
  · rintro ⟨hlo, hhi, hplay⟩
    exact ⟨i, ⟨hlo, by omega⟩, play, hplay, rfl, rfl⟩

/-- The indices of the plays increase strictly. -/
theorem pairwise_indexedPlays (frames : List FrameDict) (w : ℕ) :
    (indexedPlays frames w).Pairwise fun a b ↦ a.1 < b.1 := by
  refine List.Pairwise.filterMap _ ?_ (List.pairwise_lt_range' (s := w))
  intro i j hij a ha b hb
  obtain ⟨_, -, rfl⟩ := Option.map_eq_some_iff.mp ha
  obtain ⟨_, -, rfl⟩ := Option.map_eq_some_iff.mp hb
  exact hij

theorem playEvents_eq_map (frames : List FrameDict) (w : ℕ) (frameRate : ℚ) :
    playEvents frames w frameRate =
      (indexedPlays frames w).map fun entry ↦ entry.2.toGameEvent (entry.1 / frameRate) := by
  rw [playEvents, indexedPlays, List.map_filterMap]
  refine List.filterMap_congr fun i _ ↦ ?_
  rw [Option.map_map]
  rfl

/-- **The events are the plays.**  The returned list holds one event for each play
that happens at a frame from `w` on, in strictly increasing order of frames, each
at the time of its frame, and nothing else. -/
theorem processFrames_returns_plays (frames : List FrameDict) {w : ℕ} (hw : 1 ≤ w)
    {frameRate : ℚ} (hr : 0 < frameRate) (playerStats : PlayerStatsDict) :
    ∃ plays : List (ℕ × Play),
      (processFramesWithSlidingWindow frames w frameRate playerStats).1 =
        .ok (plays.map fun entry ↦ entry.2.toGameEvent (entry.1 / frameRate)) ∧
      plays.Pairwise (fun a b ↦ a.1 < b.1) ∧
      (∀ i play, (i, play) ∈ plays ↔ w ≤ i ∧ i < frames.length ∧ Happens frames w i play) ∧
      (frames.length < w → plays = []) := by
  refine ⟨indexedPlays frames w, ?_, pairwise_indexedPlays frames w,
    fun i play ↦ mem_indexedPlays, fun hlen ↦ ?_⟩
  · rw [processFramesWithSlidingWindow_eq frames hw hr.ne', playEvents_eq_map]
  · rw [indexedPlays, show frames.length - w = 0 by omega]
    rfl

theorem processFrames_returns_plays_sample :
    ∃ plays : List (ℕ × Play),
      (processFramesWithSlidingWindow sampleFrames 1 30 Dict.empty).1 =
        .ok (plays.map fun entry ↦ entry.2.toGameEvent (entry.1 / 30)) ∧
      plays.Pairwise (fun a b ↦ a.1 < b.1) ∧
      (∀ i play, (i, play) ∈ plays ↔
        1 ≤ i ∧ i < sampleFrames.length ∧ Happens sampleFrames 1 i play) ∧
      (sampleFrames.length < 1 → plays = []) :=
  processFrames_returns_plays sampleFrames (le_refl 1) (by norm_num) Dict.empty

/-- The sample has a turnover and a shot; the steal behind the shot is not
reported. -/
example : (processFramesWithSlidingWindow sampleFrames 1 30 Dict.empty).1 =
    .ok [(Play.turnover 7).toGameEvent (1 / 30), (Play.shot (some 8)).toGameEvent (2 / 30)] := by
  decide +kernel

end Courtside
