import Mathlib.Data.Rat.Defs

/-!
# Detections in one frame

The per-frame half of `predictions_logic.py`: the dictionaries which
`process_video` produces, the `FrameDetections` they are converted to, and the
three questions asked of a frame — who holds the ball, which balls are at a rim,
and whether such a shot went in.

Coordinates and confidences are rationals: every finite float is one, and the
arithmetic on them is exact.  `is_near` compares a square root with `50`; here
both sides are squared, and `Detection/Distance.lean` proves that this is the
same test.
-/

namespace Courtside

/-! ## Boxes and detections -/

/-- A box in pixels.  The four-element lists `[x_min, y_min, x_max, y_max]` of
the source are such boxes, read in that order. -/
structure BoundingBox where
  xMin : ℚ
  yMin : ℚ
  xMax : ℚ
  yMax : ℚ
deriving DecidableEq, Repr

inductive ObjectType where
  | ball
  | rim
  | player
deriving DecidableEq, Repr

structure Detection where
  objectType : ObjectType
  boundingBox : BoundingBox
  confidence : ℚ
  /-- Only for player detections. -/
  userId : Option ℤ := none
deriving DecidableEq, Repr

structure FrameDetections where
  balls : List Detection
  rims : List Detection
  players : List Detection
deriving DecidableEq, Repr

/-! ## Nearness -/

namespace BoundingBox

/-- The centre of a box. -/
def center (box : BoundingBox) : ℚ × ℚ :=
  ((box.xMin + box.xMax) / 2, (box.yMin + box.yMax) / 2)

/-- The square of the distance between two centres. -/
def centerDistanceSq (box1 box2 : BoundingBox) : ℚ :=
  (box1.center.1 - box2.center.1) ^ 2 + (box1.center.2 - box2.center.2) ^ 2

end BoundingBox

/-- `is_near`: the centres are less than `50` apart. -/
def isNear (box1 box2 : BoundingBox) : Bool :=
  decide (box1.centerDistanceSq box2 < 50 ^ 2)

/-- `is_near_goal`: the ball is near some rim. -/
def isNearGoal (ballBox : BoundingBox) (rimDetections : List Detection) : Bool :=
  rimDetections.any fun rim ↦ isNear ballBox rim.boundingBox

/-- `is_goal`: the top of the ball is near the top of the frame. -/
def isGoal (shotBox : BoundingBox) : Bool := decide (shotBox.yMin < 50)

/-! ## Possession and shots -/

/-- `determine_possession`: the `user_id` of the first player near the first ball
that has a player near it.  The search stops at that player even if no id was
recognised. -/
def determinePossession (frame : FrameDetections) : Option ℤ :=
  (frame.balls.findSome? fun ball ↦
    frame.players.find? fun player ↦ isNear ball.boundingBox player.boundingBox).bind
      Detection.userId

/-- `detect_shots`: the boxes of the balls near a rim. -/
def detectShots (frame : FrameDetections) : List BoundingBox :=
  (frame.balls.filter fun ball ↦ isNearGoal ball.boundingBox frame.rims).map
    Detection.boundingBox

/-- `detect_shot_results`: the judgement on each shot. -/
def detectShotResults (frame : FrameDetections) : List String :=
  (detectShots frame).map fun shot ↦ if isGoal shot then "Made" else "Missed"

/-! ## Frame dictionaries -/

/-- A ball or rim entry of a frame dictionary. -/
structure BoxDict where
  boundingBox : BoundingBox
  confidence : ℚ
deriving DecidableEq, Repr

/-- A player entry; `userId` is what `player.get("user_id")` returns. -/
structure PlayerDict where
  userId : Option ℤ
  boundingBox : BoundingBox
  confidence : ℚ
deriving DecidableEq, Repr

/-- A frame dictionary.  Each of the three keys may be missing. -/
structure FrameDict where
  ball : Option (List BoxDict) := none
  rim : Option (List BoxDict) := none
  userId : Option (List PlayerDict) := none
deriving DecidableEq, Repr

/-- The conversion with which `get_frame_state` begins. -/
def FrameDict.detections (frame : FrameDict) : FrameDetections where
  balls := (frame.ball.getD []).map fun ball ↦
    { objectType := .ball, boundingBox := ball.boundingBox, confidence := ball.confidence }
  rims := (frame.rim.getD []).map fun rim ↦
    { objectType := .rim, boundingBox := rim.boundingBox, confidence := rim.confidence }
  players := (frame.userId.getD []).map fun player ↦
    { objectType := .player, boundingBox := player.boundingBox,
      confidence := player.confidence, userId := player.userId }

/-- The simplified state of a frame. -/
structure FrameState where
  possession : Option ℤ
  shot : Bool
deriving DecidableEq, Repr

/-- `get_frame_state`. -/
def getFrameState (frame : FrameDict) : FrameState where
  possession := determinePossession frame.detections
  shot := !(detectShots frame.detections).isEmpty

/-- The shot flag of a frame says that a shot was detected on it. -/
theorem getFrameState_shot_iff (frame : FrameDict) :
    (getFrameState frame).shot = true ↔ detectShots frame.detections ≠ [] := by
  simp [getFrameState]

/-- A frame in a given state: one ball, with the holder's box and a rim placed on
it as the state requires. -/
def FrameState.frame (state : FrameState) : FrameDict :=
  let box : BoundingBox := { xMin := 0, yMin := 0, xMax := 10, yMax := 10 }
  { ball := some [{ boundingBox := box, confidence := 1 }]
    rim := some (if state.shot then [{ boundingBox := box, confidence := 1 }] else [])
    userId := state.possession.map fun holder ↦
      [{ userId := some holder, boundingBox := box, confidence := 1 }] }

end Courtside
