import Courtside.Detection.Video
import Courtside.Events.Ledger

/-!
# Calls in one server process

`process_video_and_generate_events` analyses a video, books its events in the
module-level `player_stats`, and writes both to a file.  The dictionary holds the
*ongoing* statistics: nothing resets it between calls, and it has been mutated by
the time the file is written, so a call whose write fails has booked its events
all the same.

What a file contains is therefore a statement about histories of calls.  Its
events are those of its own video (`eventsOf`); its statistics are the ledger of
all events booked so far in the process, by failed calls too
(`session_file_cumulative`).  `processFrames_outcome` makes this work for every
call, including one that raises: what a call returns does not depend on the
statistics, and it books exactly what it returns.
-/

universe u

namespace Courtside

/-! ## Outcomes do not depend on the statistics -/

/-- The events of an outcome; none if it is an exception. -/
def returnedEvents (outcome : Except PyError (List GameEvent)) : List GameEvent :=
  match outcome with
  | .ok events => events
  | .error _ => []

/-- At a frame rate of zero the loop raises at the first comparison, before it has
booked anything. -/
theorem windowLoop_zero (frames : List FrameDict) :
    ∀ (i : ℕ) (windowStates : List FrameState) (prevAggState : FrameState),
      ∃ outcome, returnedEvents outcome = [] ∧ ∀ playerStats,
        windowLoop 0 frames i windowStates prevAggState [] playerStats =
          (outcome, playerStats) := by
  induction frames with
  | nil => exact fun _ _ _ ↦ ⟨.ok [], rfl, fun _ ↦ rfl⟩
  | cons frame frames ih =>
      intro i windowStates prevAggState
      have hagg := aggregateWindowState_eq
        (List.concat_ne_nil (getFrameState frame) windowStates.tail)
      simp only [windowLoop, hagg]
      by_cases hne : aggregate (windowStates.tail ++ [getFrameState frame]) = prevAggState
      · simp only [hne, ne_eq, not_true_eq_false, if_false]
        exact ih _ _ _
      · simp only [ne_eq, hne, not_false_eq_true, if_true, determineEventChange_zero]
        exact ⟨_, rfl, fun _ ↦ rfl⟩

/-- **Outcomes.**  A call of `process_frames_with_sliding_window` has an outcome
that does not depend on the statistics, and books exactly the events it returns. -/
theorem processFrames_outcome (frames : List FrameDict) (w : ℕ) (frameRate : ℚ) :
    ∃ outcome, ∀ playerStats,
      processFramesWithSlidingWindow frames w frameRate playerStats =
        (outcome, updateAllPlayerStats (returnedEvents outcome) playerStats) := by
  by_cases hw : 1 ≤ w
  · by_cases hr : frameRate = 0
    · subst hr
      by_cases hlen : frames.length < w
      · exact ⟨.ok [], fun _ ↦ if_pos hlen⟩
      · have hne : (frames.take w).map getFrameState ≠ [] := by
          rw [ne_eq, List.map_eq_nil_iff, List.take_eq_nil_iff]
          rintro (rfl | rfl)
          · omega
          · simp at hlen; omega
        obtain ⟨outcome, hnil, houtcome⟩ := windowLoop_zero (frames.drop w) w
          ((frames.take w).map getFrameState) (aggregate ((frames.take w).map getFrameState))
        refine ⟨outcome, fun playerStats ↦ ?_⟩
        rw [processFramesWithSlidingWindow, if_neg hlen, hnil]
        simp only [aggregateWindowState_eq hne, houtcome, updateAllPlayerStats_nil]
    · exact ⟨_, processFramesWithSlidingWindow_eq frames hw hr⟩
  · -- an empty window has no last frame
    obtain rfl : w = 0 := by omega
    exact ⟨.error .indexError, fun _ ↦ rfl⟩

/-! ## Calls and files -/

/-- What becomes of the file: it is written, it cannot be opened, or writing fails
after it has been truncated. -/
inductive WriteOutcome where
  | written
  | openFails
  | dumpFails
deriving DecidableEq, Repr

/-- The arguments of a call, with the images its video yields and the fate of its
file. -/
structure Call (Image : Type u) where
  video : List Image
  windowSize : ℕ := 10
  frameRate : ℚ := 30
  outputJsonPath : String := "../game_results.json"
  write : WriteOutcome := .written

/-- The object a file holds. -/
structure Output where
  gameEvents : List GameEvent
  playerStats : PlayerStatsDict
deriving DecidableEq

/-- The state which calls share: the global dictionary and the files.  A file whose
writing was cut short holds no object. -/
structure Process where
  playerStats : PlayerStatsDict
  files : Dict String (Option Output)

inductive CallError where
  | raised (e : PyError)
  | writeFailed
deriving DecidableEq, Repr

variable {Image : Type u} (detector : Detector Image)

/-- `process_video_and_generate_events`. -/
def processVideoAndGenerateEvents (call : Call Image) (process : Process) :
    Except CallError Unit × Process :=
  match processFramesWithSlidingWindow (processVideo detector call.video) call.windowSize
      call.frameRate process.playerStats with
  | (.error e, playerStats) => (.error (.raised e), { process with playerStats })
  | (.ok events, playerStats) =>
      let output : Output := { gameEvents := events, playerStats }
      match call.write with
      | .written =>
          (.ok (),
            { playerStats, files := process.files.set call.outputJsonPath (some output) })
      | .openFails => (.error .writeFailed, { process with playerStats })
      | .dumpFails =>
          (.error .writeFailed,
            { playerStats, files := process.files.set call.outputJsonPath none })

/-- A history of calls. -/
def runCalls (calls : List (Call Image)) (process : Process) : Process :=
  calls.foldl (fun process call ↦ (processVideoAndGenerateEvents detector call process).2) process

/-- The events of a call, read off its arguments alone. -/
def eventsOf (call : Call Image) : List GameEvent :=
  returnedEvents (processFramesWithSlidingWindow (processVideo detector call.video)
    call.windowSize call.frameRate Dict.empty).1

/-- Every call books its events, whether or not it succeeds. -/
theorem playerStats_processVideoAndGenerateEvents (call : Call Image) (process : Process) :
    (processVideoAndGenerateEvents detector call process).2.playerStats =
      updateAllPlayerStats (eventsOf detector call) process.playerStats := by
  obtain ⟨outcome, houtcome⟩ := processFrames_outcome (processVideo detector call.video)
    call.windowSize call.frameRate
  rw [eventsOf, processVideoAndGenerateEvents, houtcome, houtcome]
  cases outcome with
  | error e => rfl
  | ok events => cases call.write <;> rfl

/-- The dictionary after a history is the ledger of everything booked in it. -/
theorem playerStats_runCalls (calls : List (Call Image)) (process : Process) :
    (runCalls detector calls process).playerStats =
      updateAllPlayerStats (calls.flatMap (eventsOf detector)) process.playerStats := by
  induction calls generalizing process with
  | nil => rfl
  | cons call calls ih =>
      rw [List.flatMap_cons, updateAllPlayerStats_append,
        ← playerStats_processVideoAndGenerateEvents]
      exact ih _

/-- What a successful call leaves in its file. -/
theorem files_of_ok {call : Call Image} {process : Process}
    (h : (processVideoAndGenerateEvents detector call process).1 = .ok ()) :
    (processVideoAndGenerateEvents detector call process).2.files.get? call.outputJsonPath =
      some (some
        { gameEvents := eventsOf detector call
          playerStats :=
            (processVideoAndGenerateEvents detector call process).2.playerStats }) := by
  obtain ⟨outcome, houtcome⟩ := processFrames_outcome (processVideo detector call.video)
    call.windowSize call.frameRate
  rw [eventsOf]
  rw [processVideoAndGenerateEvents, houtcome] at h ⊢
  rw [houtcome]
  cases outcome with
  | error e => cases h
  | ok events =>
      cases hwrite : call.write <;> rw [hwrite] at h
      case written => exact Dict.get?_set_self _ _ _
      all_goals cases h

/-- **What a file contains.**  In a process that starts with empty statistics, a
successful call writes the events of its own video, whatever was processed
before, together with the ledger of all events of the calls so far, those whose
write failed included. -/
theorem session_file_cumulative (history : List (Call Image)) (call : Call Image)
    (files : Dict String (Option Output))
    (h : (processVideoAndGenerateEvents detector call
      (runCalls detector history ⟨Dict.empty, files⟩)).1 = .ok ()) :
    ∃ output : Output,
      (runCalls detector (history ++ [call]) ⟨Dict.empty, files⟩).files.get?
          call.outputJsonPath = some (some output) ∧
      output.gameEvents = eventsOf detector call ∧
      output.playerStats =
        updateAllPlayerStats (history.flatMap (eventsOf detector) ++ output.gameEvents)
          Dict.empty := by
  have hrun : runCalls detector (history ++ [call]) ⟨Dict.empty, files⟩ =
      (processVideoAndGenerateEvents detector call
        (runCalls detector history ⟨Dict.empty, files⟩)).2 := List.foldl_concat _ _ _ _
  rw [hrun]
  refine ⟨_, files_of_ok detector h, rfl, ?_⟩
  dsimp only
  rw [playerStats_processVideoAndGenerateEvents, playerStats_runCalls,
    updateAllPlayerStats_append]

/-! ## A process with two calls -/

/-- A detector for images which are states: it sees a ball, its holder, and a rim
around a shot. -/
def sampleDetector : Detector FrameState where
  cvtColor := id
  model state := [state.possession.toList.map fun holder ↦ ⟨holder, ⟨0, 0, 10, 10⟩, 1⟩]
  yoloModel state := ⟨0, ⟨0, 0, 10, 10⟩, 1⟩ :: ⟨1, ⟨0, 0, 10, 10⟩, 1⟩ ::
    if state.shot then [⟨2, ⟨0, 0, 10, 10⟩, 1⟩] else []

/-- Player `7` loses the ball. -/
def sampleCall : Call FrameState where
  video := [⟨some 7, false⟩, ⟨none, false⟩]
  windowSize := 1

theorem session_file_cumulative_sample :
    ∃ output : Output,
      (runCalls sampleDetector ([sampleCall] ++ [sampleCall]) ⟨Dict.empty, Dict.empty⟩).files.get?
          sampleCall.outputJsonPath = some (some output) ∧
      output.gameEvents = eventsOf sampleDetector sampleCall ∧
      output.playerStats =
        updateAllPlayerStats
          ([sampleCall].flatMap (eventsOf sampleDetector) ++ output.gameEvents) Dict.empty :=
  session_file_cumulative sampleDetector [sampleCall] sampleCall Dict.empty (by decide +kernel)

/-- The same video processed twice: the second file has one turnover among its
events and two in its statistics. -/
theorem session_file_sample_fails :
    ∃ output : Output,
      (runCalls sampleDetector [sampleCall, sampleCall] ⟨Dict.empty, Dict.empty⟩).files.get?
          sampleCall.outputJsonPath = some (some output) ∧
      output.playerStats ≠ updateAllPlayerStats output.gameEvents Dict.empty := by
  refine ⟨{ gameEvents := [(Play.turnover 7).toGameEvent (1 / 30)]
            playerStats := Dict.empty.set 7 { playerId := 7, turnovers := 2 } }, ?_, ?_⟩ <;>
    decide +kernel

end Courtside
