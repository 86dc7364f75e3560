import Courtside.Data.Dict
import Courtside.Data.SlidingWindow
import Courtside.Detection.Frame

/-!
# Event generation and player statistics

The second half of `predictions_logic.py`, function by function: aggregating a
window of frame states, deciding whether two consecutive aggregates make a game
event, booking the event to a player, and the loop which does so over a list of
frames.

## Exceptions and the global dictionary

`player_stats` is a module-level dictionary which the loop mutates and which
outlives it.  A call is therefore a function from the dictionary before it to
the dictionary after it, paired with its outcome; the dictionary survives an
outcome that is an exception.  Two exceptions can occur: the aggregate of an
empty window has no last frame, and a frame rate of zero has no timestamps.

`get_or_create_player_stats` is the only function which puts an entry into the
dictionary, and it puts in a new object each time, so no two keys share one and
the in-place increments of the source are assignments to one key.
-/

namespace Courtside

/-- The Python exceptions the event loop can raise. -/
inductive PyError where
  | indexError
  | zeroDivisionError
deriving DecidableEq, Repr

/-! ## Game events -/

/-- The event types.  The source uses strings; `other` is any string that is not
one of the five. -/
inductive EventType where
  | pass
  | shot
  | turnover
  | steal
  | dribble
  | other (name : String)
deriving DecidableEq, Repr

/-- The details dictionary of an event: `none` for a missing key, `some none` for
a key whose value is `None`.  `fromPlayer` and `toPlayer` are the keys `from` and
`to`. -/
structure EventDetails where
  possession : Option (Option ℤ) := none
  result : Option String := none
  fromPlayer : Option (Option ℤ) := none
  toPlayer : Option (Option ℤ) := none
  lostBy : Option (Option ℤ) := none
  gainedBy : Option (Option ℤ) := none
  player : Option (Option ℤ) := none
deriving DecidableEq, Repr

structure GameEvent where
  eventType : EventType
  time : ℚ
  details : EventDetails
deriving DecidableEq, Repr

/-- `aggregate_window_state`: the possession of the last frame and the disjunction
of the shot flags. -/
def aggregateWindowState (windowStates : List FrameState) : Except PyError FrameState :=
  match windowStates.getLast? with
  | none => .error .indexError
  | some last => .ok { possession := last.possession, shot := windowStates.any FrameState.shot }

/-- `determine_event_change`.  The timestamp is computed first, whether or not an
event is returned. -/
def determineEventChange (prevState currState : FrameState) (frameIndex : ℕ)
    (frameRate : ℚ := 30) : Except PyError (Option GameEvent) := do
  if frameRate = 0 then
    throw .zeroDivisionError
  let timestamp : ℚ := frameIndex / frameRate
  if !prevState.shot && currState.shot then
    return some
      { eventType := .shot, time := timestamp,
        details := { possession := some currState.possession, result := some "Undecided" } }
  if prevState.possession ≠ currState.possession then
    if prevState.possession.isSome && currState.possession.isSome then
      return some
        { eventType := .pass, time := timestamp,
          details :=
            { fromPlayer := some prevState.possession, toPlayer := some currState.possession } }
    else if prevState.possession.isSome && currState.possession.isNone then
      return some
        { eventType := .turnover, time := timestamp,
          details := { lostBy := some prevState.possession } }
    else if prevState.possession.isNone && currState.possession.isSome then
      return some
        { eventType := .steal, time := timestamp,
          details := { gainedBy := some currState.possession } }
  if currState.possession.isSome && prevState.possession = currState.possession then
    return some
      { eventType := .dribble, time := timestamp,
        details := { player := some currState.possession } }
  return none

/-! ## Player statistics -/

structure PlayerStats where
  playerId : ℤ
  points : ℤ := 0
  steals : ℤ := 0
  turnovers : ℤ := 0
  assists : ℤ := 0
  offensiveRebounds : ℤ := 0
  defensiveRebounds : ℤ := 0
deriving DecidableEq, Repr

/-- The type of the global dictionary `player_stats`. -/
abbrev PlayerStatsDict := Dict ℤ PlayerStats

/-- `get_or_create_player_stats`, with the dictionary it leaves. -/
def getOrCreatePlayerStats (playerId : ℤ) (playerStats : PlayerStatsDict) :
    PlayerStats × PlayerStatsDict :=
  match playerStats.get? playerId with
  | some ps => (ps, playerStats)
  | none => ({ playerId }, playerStats.set playerId { playerId })

/-- The body shared by the branches of `update_player_stats`: unless the player is
`None`, fetch or create the entry and update it in place. -/
def updateEntry (player : Option ℤ) (update : PlayerStats → PlayerStats)
    (playerStats : PlayerStatsDict) : PlayerStatsDict :=
  match player with
  | none => playerStats
  | some player =>
      let (ps, playerStats) := getOrCreatePlayerStats player playerStats
      playerStats.set player (update ps)

/-- `update_player_stats`.  `details.get(key)` does not distinguish a missing key
from `None`. -/
def updatePlayerStats (event : GameEvent) (playerStats : PlayerStatsDict) : PlayerStatsDict :=
  match event.eventType with
  | .shot => updateEntry event.details.possession.join
      (fun ps ↦ if event.details.result = some "Made" then { ps with points := ps.points + 2 }
        else ps) playerStats
  | .pass => updateEntry event.details.fromPlayer.join
      (fun ps ↦ { ps with assists := ps.assists + 1 }) playerStats
  | .turnover => updateEntry event.details.lostBy.join
      (fun ps ↦ { ps with turnovers := ps.turnovers + 1 }) playerStats
  | .steal => updateEntry event.details.gainedBy.join
      (fun ps ↦ { ps with steals := ps.steals + 1 }) playerStats
  | .dribble | .other _ => playerStats

/-! ## The loop -/

/-- The loop of `process_frames_with_sliding_window`: the frames still to read, the
index of the first of them, the window, the previous aggregate and the events so
far. -/
def windowLoop (frameRate : ℚ) : List FrameDict → ℕ → List FrameState → FrameState →
    List GameEvent → PlayerStatsDict → Except PyError (List GameEvent) × PlayerStatsDict
  | [], _, _, _, events, playerStats => (.ok events, playerStats)
  | frame :: frames, i, windowStates, prevAggState, events, playerStats =>
      let windowStates := windowStates.tail ++ [getFrameState frame]
      match aggregateWindowState windowStates with
      | .error e => (.error e, playerStats)
      | .ok currAggState =>
          if currAggState ≠ prevAggState then
            match determineEventChange prevAggState currAggState i frameRate with
            | .error e => (.error e, playerStats)
            | .ok none =>
                windowLoop frameRate frames (i + 1) windowStates currAggState events playerStats
            | .ok (some event) =>
                windowLoop frameRate frames (i + 1) windowStates currAggState
                  (events ++ [event]) (updatePlayerStats event playerStats)
          else
            windowLoop frameRate frames (i + 1) windowStates currAggState events playerStats

/-- `process_frames_with_sliding_window`. -/
def processFramesWithSlidingWindow (frames : List FrameDict) (windowSize : ℕ := 10)
    (frameRate : ℚ := 30) (playerStats : PlayerStatsDict) :
    Except PyError (List GameEvent) × PlayerStatsDict :=
  if frames.length < windowSize then (.ok [], playerStats)
  else
    let windowStates := (frames.take windowSize).map getFrameState
    match aggregateWindowState windowStates with
    | .error e => (.error e, playerStats)
    | .ok prevAggState =>
        windowLoop frameRate (frames.drop windowSize) windowSize windowStates prevAggState []
          playerStats

/-! ## What the loop reads of a frame -/

/-- The loop sees frames by their states only. -/
theorem windowLoop_congr {frameRate : ℚ} {frames frames' : List FrameDict}
    (h : frames.map getFrameState = frames'.map getFrameState) (i : ℕ)
    (windowStates : List FrameState) (prevAggState : FrameState) (events : List GameEvent)
    (playerStats : PlayerStatsDict) :
    windowLoop frameRate frames i windowStates prevAggState events playerStats =
      windowLoop frameRate frames' i windowStates prevAggState events playerStats := by
  induction frames generalizing frames' i windowStates prevAggState events playerStats with
  | nil =>
      obtain rfl := List.map_eq_nil_iff.mp h.symm
      rfl
  | cons frame frames ih =>
      obtain ⟨frame', frames', rfl, hframe, hframes⟩ := List.map_eq_cons_iff.mp h.symm
      simp only [windowLoop, hframe, ih hframes.symm]

/-- So does the whole call. -/
theorem processFramesWithSlidingWindow_congr {frames frames' : List FrameDict}
    (h : frames.map getFrameState = frames'.map getFrameState) (windowSize : ℕ) (frameRate : ℚ)
    (playerStats : PlayerStatsDict) :
    processFramesWithSlidingWindow frames windowSize frameRate playerStats =
      processFramesWithSlidingWindow frames' windowSize frameRate playerStats := by
  have hlength : frames.length = frames'.length := by
    simpa only [List.length_map] using congrArg List.length h
  have htake : (frames.take windowSize).map getFrameState =
      (frames'.take windowSize).map getFrameState := by
    rw [List.map_take, List.map_take, h]
  have hdrop : (frames.drop windowSize).map getFrameState =
      (frames'.drop windowSize).map getFrameState := by
    rw [List.map_drop, List.map_drop, h]
  simp only [processFramesWithSlidingWindow, hlength, htake, windowLoop_congr hdrop]

end Courtside
