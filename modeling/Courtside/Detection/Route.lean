import Courtside.Detection.Frame

/-!
# The prediction route

`predict_video` of `predictions_routes.py` hands the output of `process_video` to the
functions that analyse a frame.  The two do not fit: the route has a list of frame
dictionaries, and `determine_possession`, `detect_shots` and `detect_shot_results` read the
attributes of one `FrameDetections`.  It does not get that far either, as the module
imports a name that `predictions_logic.py` does not define.

There is no video, not even an empty one, for which the route returns
(`predictVideo_never_agrees`).
-/

universe u

namespace Courtside

/-! ## Names -/

/-- What a request can end with. -/
inductive RouteError where
  | importError (name : String)
  | attributeError (typeName attributeName : String)
deriving DecidableEq, Repr

/-- The names in `logic.predictions_logic`. -/
def predictionsLogicNames : List String :=
  ["cv2", "json", "UploadFile", "File", "torch", "np", "ct", "YOLO", "Image", "dataclass",
    "field", "asdict", "List", "Optional", "Dict", "Any", "model", "yolo_model",
    "process_frame", "process_video", "BoundingBox", "Detection", "FrameDetections",
    "GameEvent", "PlayerStats", "player_stats", "get_or_create_player_stats", "is_near",
    "is_near_goal", "is_goal", "determine_possession", "detect_shots", "detect_shot_results",
    "get_frame_state", "aggregate_window_state", "determine_event_change",
    "update_player_stats", "process_frames_with_sliding_window",
    "process_video_and_generate_events"]

/-- The names which the route imports from there. -/
def importedNames : List String :=
  ["process_video", "determine_possession", "detect_passes", "detect_shots",
    "detect_shot_results"]

/-- `from module import names`: the first name that is missing is an error. -/
def importFrom (module names : List String) : Except RouteError Unit :=
  match names.find? fun name ↦ !module.contains name with
  | some name => .error (.importError name)
  | none => .ok ()

/-! ## Values -/

/-- What the route passes to the functions that analyse a frame, and what they are made
for. -/
inductive FrameArgument where
  | frameDicts (frames : List FrameDict)
  | frameDetections (frame : FrameDetections)
deriving DecidableEq

/-- A value in the response. -/
inductive ResponseValue where
  | none
  | int (value : ℤ)
  | str (value : String)
  | box (value : BoundingBox)
  | list (values : List ResponseValue)

/-- A user id, or `None`. -/
def ResponseValue.ofPossession : Option ℤ → ResponseValue
  | some userId => int userId
  | Option.none => none

def ResponseValue.ofShots (shots : List BoundingBox) : ResponseValue := list (shots.map box)

def ResponseValue.ofShotResults (shotResults : List String) : ResponseValue :=
  list (shotResults.map str)

/-- All three functions begin by reading `frame.balls`, which a list does not have. -/
def analyseFrame {α : Type u} (analysis : FrameDetections → α) :
    FrameArgument → Except RouteError α
  | .frameDetections frame => .ok (analysis frame)
  | .frameDicts _ => .error (.attributeError "list" "balls")

/-! ## The route -/

/-- What the route returns. -/
structure PredictResponse where
  detections : List FrameDict
  possession : ResponseValue
  passes : ResponseValue
  shots : ResponseValue
  shotResults : ResponseValue

variable (detectPasses : FrameArgument → Except RouteError ResponseValue)

/-- The body of `predict_video` after `process_video` has returned, for some
`detect_passes`. -/
def predictBody (frameDetections : List FrameDict) : Except RouteError PredictResponse := do
  let possession ← analyseFrame determinePossession (.frameDicts frameDetections)
  let passes ← detectPasses (.frameDicts frameDetections)
  let shots ← analyseFrame detectShots (.frameDicts frameDetections)
  let shotResults ← analyseFrame detectShotResults (.frameDicts frameDetections)
  return {
    detections := frameDetections
    possession := .ofPossession possession
    passes
    shots := .ofShots shots
    shotResults := .ofShotResults shotResults }

/-- `predict_video`, in a module that has to be imported first. -/
def predictVideo (frameDetections : List FrameDict) : Except RouteError PredictResponse := do
  importFrom predictionsLogicNames importedNames
  predictBody detectPasses frameDetections

/-- The route returns the analysis of each frame. -/
def RouteAgrees (frames : List FrameDict) (outcome : Except RouteError PredictResponse) : Prop :=
  ∃ response, outcome = .ok response ∧
    response.possession =
      .list (frames.map fun frame ↦ .ofPossession (determinePossession frame.detections)) ∧
    response.shots = .list (frames.map fun frame ↦ .ofShots (detectShots frame.detections)) ∧
    response.shotResults =
      .list (frames.map fun frame ↦ .ofShotResults (detectShotResults frame.detections))

variable {detectPasses}

/-- The import fails. -/
theorem predictVideo_eq (frames : List FrameDict) :
    predictVideo detectPasses frames = .error (.importError "detect_passes") := by
  have himport : importFrom predictionsLogicNames importedNames =
      .error (.importError "detect_passes") := by decide
  rw [predictVideo, himport]
  rfl

/-- Were the name there, the first analysis would fail. -/
theorem predictBody_eq (frames : List FrameDict) :
    predictBody detectPasses frames = .error (.attributeError "list" "balls") := rfl

variable (detectPasses) in
/-- **The route never agrees** with the analysis of the frames: it raises for every list of
frame dictionaries, whatever `detect_passes` might be, and would do so if the name could be
imported. -/
theorem predictVideo_never_agrees (frames : List FrameDict) :
    ¬ RouteAgrees frames (predictVideo detectPasses frames) ∧
      ¬ RouteAgrees frames (predictBody detectPasses frames) := by
  constructor
  · rintro ⟨response, hresponse, -⟩
    rw [predictVideo_eq] at hresponse
    cases hresponse
  · rintro ⟨response, hresponse, -⟩
    rw [predictBody_eq] at hresponse
    cases hresponse

/-- A video without frames. -/
theorem predictVideo_sample_fails :
    ¬ ∀ frames : List FrameDict,
      RouteAgrees frames (predictVideo (fun _ ↦ .ok (.list [])) frames) := by
  intro h
  obtain ⟨response, hresponse, -⟩ := h []
  rw [predictVideo_eq] at hresponse
  cases hresponse

end Courtside
