import Courtside.Events.Symmetry

/-!
# Other numbers for the players

A player is known by the class of the person classifier, and that is the position of a video
in a listing of the uploads, which comes in any order.  So a player may have another number
after every training.

Nothing here depends on what the numbers are.  If a classifier has other numbers for its
classes, the events and the statistics have them too, and are the same otherwise
(`processVideo_renumbered`): they are compared with each other, and never with anything else.
-/

universe u

namespace Courtside

/-! ## What has numbers in it -/

variable (f : ℤ ↪ ℤ)

/-- The box, with its class renumbered. -/
def YoloBox.renumber (box : YoloBox) : YoloBox := { box with cls := f box.cls }

/-- The person classifier, with other numbers for its classes. -/
def Detector.renumber {Image : Type u} (detector : Detector Image) : Detector Image :=
  { detector with model := fun image ↦ (detector.model image).map (List.map (YoloBox.renumber f)) }

def PlayerDict.renumber (player : PlayerDict) : PlayerDict :=
  { player with userId := player.userId.map f }

def FrameDict.renumber (frame : FrameDict) : FrameDict :=
  { frame with userId := frame.userId.map (List.map (PlayerDict.renumber f)) }

def FrameState.renumber (state : FrameState) : FrameState :=
  { state with possession := state.possession.map f }

/-- The details, with all their players renumbered. -/
def EventDetails.renumber (details : EventDetails) : EventDetails where
  possession := details.possession.map (Option.map f)
  result := details.result
  fromPlayer := details.fromPlayer.map (Option.map f)
  toPlayer := details.toPlayer.map (Option.map f)
  lostBy := details.lostBy.map (Option.map f)
  gainedBy := details.gainedBy.map (Option.map f)
  player := details.player.map (Option.map f)

def GameEvent.renumber (event : GameEvent) : GameEvent :=
  { event with details := event.details.renumber f }

def PlayerStats.renumber (ps : PlayerStats) : PlayerStats := { ps with playerId := f ps.playerId }

/-- The statistics, with the keys and the entries renumbered. -/
def PlayerStatsDict.renumber (playerStats : PlayerStatsDict) : PlayerStatsDict :=
  playerStats.rename f (PlayerStats.renumber f)

/-- What a call returns and leaves, renumbered. -/
def renumberResult (result : Except PyError (List GameEvent) × PlayerStatsDict) :
    Except PyError (List GameEvent) × PlayerStatsDict :=
  (result.1.map (List.map (GameEvent.renumber f)), PlayerStatsDict.renumber f result.2)

/-! ## Frames -/

variable {f}

/-- The players of an image are renumbered as the classes are. -/
theorem processFrame_renumber {Image : Type u} (detector : Detector Image) (image : Image) :
    processFrame (detector.renumber f) image =
      (processFrame detector image).map (PlayerDict.renumber f) := by
  rw [processFrame, processFrame, Detector.renumber, List.flatMap_map, List.map_flatMap]
  refine List.flatMap_congr fun result _ ↦ ?_
  rw [List.map_map, List.map_map]
  rfl

theorem addBox_renumber {Image : Type u} (detector : Detector Image) (image : Image)
    (detections : FrameDict) (box : YoloBox) :
    addBox (detector.renumber f) image (detections.renumber f) box =
      (addBox detector image detections box).renumber f := by
  unfold addBox
  split_ifs
  · rw [processFrame_renumber, FrameDict.renumber, getD_map_map, ← List.map_append]
    rfl
  · rfl
  · rfl
  · rfl

theorem processVideo_renumber {Image : Type u} (detector : Detector Image) (video : List Image) :
    processVideo (detector.renumber f) video =
      (processVideo detector video).map (FrameDict.renumber f) := by
  rw [processVideo, processVideo, List.map_map]
  refine List.map_congr_left fun image _ ↦ ?_
  rw [Function.comp_apply]
  refine Eq.trans ?_ (List.foldl_hom (FrameDict.renumber f) fun detections box ↦
    addBox_renumber detector image detections box)
  rfl

/-- Nearness has nothing to do with numbers. -/
theorem getFrameState_renumber (frame : FrameDict) :
    getFrameState (frame.renumber f) = (getFrameState frame).renumber f := by
  have hplayer : ∀ (ball : BoxDict) (player : PlayerDict),
      atPlayer (id ball) (player.renumber f) = atPlayer ball player := fun _ _ ↦ rfl
  have hfirst : firstMatch atPlayer ((frame.ball.getD []).map id)
      ((frame.userId.getD []).map (PlayerDict.renumber f)) =
        (firstMatch atPlayer (frame.ball.getD []) (frame.userId.getD [])).map
          (PlayerDict.renumber f) := firstMatch_map hplayer
  rw [List.map_id] at hfirst
  rw [getFrameState_eq, getFrameState_eq, FrameDict.renumber, FrameState.renumber, getD_map_map,
    hfirst, Option.bind_map, Option.map_bind]
  rfl

/-! ## Events -/

theorem aggregateWindowState_renumber (windowStates : List FrameState) :
    aggregateWindowState (windowStates.map (FrameState.renumber f)) =
      (aggregateWindowState windowStates).map (FrameState.renumber f) := by
  rw [aggregateWindowState, aggregateWindowState, List.getLast?_map, List.any_map]
  cases windowStates.getLast? <;> rfl

theorem renumber_ne_iff {state state' : FrameState} :
    state.renumber f ≠ state'.renumber f ↔ state ≠ state' := by
  obtain ⟨possession, shot⟩ := state
  obtain ⟨possession', shot'⟩ := state'
  simp [FrameState.renumber, (Option.map_injective f.injective).eq_iff]

theorem determineEventChange_renumber (prevState currState : FrameState) (frameIndex : ℕ)
    (frameRate : ℚ) :
    determineEventChange (prevState.renumber f) (currState.renumber f) frameIndex frameRate =
      (determineEventChange prevState currState frameIndex frameRate).map
        (Option.map (GameEvent.renumber f)) := by
  by_cases hr : frameRate = 0
  · subst hr
    rfl
  obtain ⟨prevPossession, prevShot⟩ := prevState
  obtain ⟨currPossession, currShot⟩ := currState
  rw [determineEventChange, determineEventChange, if_neg hr, if_neg hr]
  by_cases hshot : prevShot = false ∧ currShot = true
  · obtain ⟨rfl, rfl⟩ := hshot
    rfl
  · have hguard : (!prevShot && currShot) = false := by
      cases prevShot <;> cases currShot <;> simp_all
    simp only [FrameState.renumber, hguard]
    cases prevPossession with
    | none => cases currPossession <;> rfl
    | some a =>
        cases currPossession with
        | none => rfl
        | some b =>
            by_cases hab : a = b
            · subst hab
              simp [pure, Except.pure, Except.map, GameEvent.renumber, EventDetails.renumber]
            · simp [hab, pure, Except.pure, Except.map, GameEvent.renumber, EventDetails.renumber]

/-! ## Statistics -/

theorem updateEntry_renumber {update : PlayerStats → PlayerStats}
    (hupdate : ∀ ps, update (ps.renumber f) = (update ps).renumber f) (player : Option ℤ)
    (playerStats : PlayerStatsDict) :
    updateEntry (player.map f) update (PlayerStatsDict.renumber f playerStats) =
      PlayerStatsDict.renumber f (updateEntry player update playerStats) := by
  cases player with
  | none => rfl
  | some player =>
      simp only [updateEntry, Option.map_some, getOrCreatePlayerStats, PlayerStatsDict.renumber,
        Dict.get?_rename]
      cases playerStats.get? player with
      | none =>
          simp only [Option.map_none, Dict.rename_set, ← hupdate]
          rfl
      | some ps => simp only [Option.map_some, Dict.rename_set, hupdate]

theorem join_map_map (player : Option (Option ℤ)) :
    (player.map (Option.map f)).join = player.join.map f := by
  cases player <;> rfl

theorem updatePlayerStats_renumber (event : GameEvent) (playerStats : PlayerStatsDict) :
    updatePlayerStats (event.renumber f) (PlayerStatsDict.renumber f playerStats) =
      PlayerStatsDict.renumber f (updatePlayerStats event playerStats) := by
  rw [updatePlayerStats, updatePlayerStats]
  simp only [GameEvent.renumber, EventDetails.renumber, join_map_map]
  cases event.eventType with
  | dribble | other => rfl
  | pass | turnover | steal =>
      refine updateEntry_renumber (fun ps ↦ ?_) _ _
      rfl
  | shot =>
      refine updateEntry_renumber (fun ps ↦ ?_) _ _
      by_cases hmade : event.details.result = some "Made"
      · simp only [hmade, if_true]
        rfl
      · simp only [hmade, if_false]

/-! ## Calls -/

theorem windowLoop_renumber (frameRate : ℚ) (frames : List FrameDict) (i : ℕ)
    (windowStates : List FrameState) (prevAggState : FrameState) (events : List GameEvent)
    (playerStats : PlayerStatsDict) :
    windowLoop frameRate (frames.map (FrameDict.renumber f)) i
        (windowStates.map (FrameState.renumber f)) (prevAggState.renumber f)
        (events.map (GameEvent.renumber f)) (PlayerStatsDict.renumber f playerStats) =
      renumberResult f
        (windowLoop frameRate frames i windowStates prevAggState events playerStats) := by
  induction frames generalizing i windowStates prevAggState events playerStats with
  | nil => rfl
  | cons frame frames ih =>
      have hwindow : (windowStates.map (FrameState.renumber f)).tail ++
          [getFrameState (frame.renumber f)] =
            (windowStates.tail ++ [getFrameState frame]).map (FrameState.renumber f) := by
        rw [List.map_append, List.map_tail, getFrameState_renumber]
        rfl
      rw [List.map_cons, windowLoop, windowLoop]
      simp only [hwindow, aggregateWindowState_renumber]
      generalize windowStates.tail ++ [getFrameState frame] = windowStates
      cases aggregateWindowState windowStates with
      | error e => rfl
      | ok currAggState =>
          simp only [Except.map, determineEventChange_renumber, renumber_ne_iff]
          split_ifs with hne
          · cases determineEventChange prevAggState currAggState i frameRate with
            | error e => rfl
            | ok event =>
                cases event with
                | none => exact ih _ _ _ _ _
                | some event =>
                    have hnext := ih (i + 1) windowStates currAggState (events ++ [event])
                      (updatePlayerStats event playerStats)
                    rw [List.map_append, ← updatePlayerStats_renumber] at hnext
                    exact hnext
          · exact ih _ _ _ _ _

theorem processFrames_renumber (frames : List FrameDict) (windowSize : ℕ) (frameRate : ℚ)
    (playerStats : PlayerStatsDict) :
    processFramesWithSlidingWindow (frames.map (FrameDict.renumber f)) windowSize frameRate
        (PlayerStatsDict.renumber f playerStats) =
      renumberResult f
        (processFramesWithSlidingWindow frames windowSize frameRate playerStats) := by
  have hwindow : ((frames.map (FrameDict.renumber f)).take windowSize).map getFrameState =
      ((frames.take windowSize).map getFrameState).map (FrameState.renumber f) := by
    rw [← List.map_take, List.map_map, List.map_map]
    exact List.map_congr_left fun frame _ ↦ getFrameState_renumber frame
  simp only [processFramesWithSlidingWindow, List.length_map, hwindow,
    aggregateWindowState_renumber, ← List.map_drop]
  split_ifs
  · rfl
  · cases aggregateWindowState ((frames.take windowSize).map getFrameState) with
    | error e => rfl
    | ok prevAggState =>
        simp only [Except.map]
        exact windowLoop_renumber _ _ _ _ _ [] _

/-- **Numbers.**  If the classifier has other numbers for its classes, a call returns the same
events and leaves the same statistics, with other numbers for the players. -/
theorem processVideo_renumbered {Image : Type u} (f : ℤ ↪ ℤ) (detector : Detector Image)
    (video : List Image) (windowSize : ℕ) (frameRate : ℚ) (playerStats : PlayerStatsDict) :
    processFramesWithSlidingWindow (processVideo (detector.renumber f) video) windowSize frameRate
        (PlayerStatsDict.renumber f playerStats) =
      renumberResult f (processFramesWithSlidingWindow (processVideo detector video) windowSize
        frameRate playerStats) := by
  rw [processVideo_renumber, processFrames_renumber]

end Courtside
