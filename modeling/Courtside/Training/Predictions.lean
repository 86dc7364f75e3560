import Courtside.Training.Labels

/-!
# Who a user id is

`process_frame` takes the class which the person classifier reports as the id of a user.  A
class is an index into the names that the classifier was trained with, and every training
takes these anew from a listing of the uploads.  `predictions_logic.py` loads the weights
when it is imported; a training writes others, which the process does not load again.

The state is that of the server with the weights on disk, the classifier that was loaded,
and the roster: the names of the training completed last.  A process is right as long as the
players its classifier knows are still the first ones of the roster (`userIds_name_roster`).
-/

universe u v

namespace Courtside

variable {Image : Type u} {Network : Type v}

/-! ## Networks that predict -/

/-- What `predictions_logic.py` calls. -/
structure Predictor (Image : Type u) (Network : Type v) where
  /-- `cv2.cvtColor(image, cv2.COLOR_BGR2RGB)`. -/
  cvtColor : Image → Image
  /-- The boxes of each of the results of a network. -/
  results : Network → Image → List (List YoloBox)
  /-- The general detector, which no route trains. -/
  yoloModel : Image → List YoloBox
  /-- The class names of a network. -/
  names : Network → List String

/-- The detector with some network as the person classifier. -/
def Predictor.detector (predictor : Predictor Image Network) (model : Network) :
    Detector Image where
  cvtColor := predictor.cvtColor
  model := predictor.results model
  yoloModel := predictor.yoloModel

/-- A user id refers to a player in a list of names. -/
def RefersTo (names : List String) (userId : Option ℤ) (player : String) : Prop :=
  ∃ i : ℕ, userId = some (i : ℤ) ∧ names[i]? = some player

/-- The same id in a longer list. -/
theorem RefersTo.mono {names names' : List String} {userId : Option ℤ} {player : String}
    (h : RefersTo names userId player) (hnames : names <+: names') :
    RefersTo names' userId player := by
  obtain ⟨i, hid, hplayer⟩ := h
  obtain ⟨rest, rfl⟩ := hnames
  refine ⟨i, hid, ?_⟩
  rw [List.getElem?_append_left (List.getElem?_eq_some_iff.mp hplayer).1, hplayer]

/-! ## Requests -/

/-- The file of a `predict_video` request. -/
structure PredictRequest where
  filename : String
  data : List UInt8

/-- A request; what `train_model` depends on is in `TrainRequest`. -/
inductive ServerRequest (Network : Type v) where
  | uploadVideo (request : UploadRequest)
  | trainModel (request : TrainRequest Network)
  | predictVideo (request : PredictRequest)

/-- A call of `process_video`: the roster and the classifier at the time, and the output. -/
structure Prediction (Network : Type v) where
  roster : List String
  model : Network
  frames : List FrameDict

/-- A server process. -/
structure PredictionServer (Image : Type u) (Network : Type v) where
  server : Server Image Network
  /-- `'../runs/detect/person_classifier/weights/best.pt'`. -/
  weights : Network
  /-- `model`, as it was loaded. -/
  model : Network
  /-- The names of the training that was completed last. -/
  roster : List String
  predictions : List (Prediction Network)

variable (host : Host Image Network) (backendDir : Path) (predictor : Predictor Image Network)

/-- A process is started: `model` is what the last training, if of another process, has
left. -/
def PredictionServer.start (server : Server Image Network) (weights : Network) :
    PredictionServer Image Network where
  server := server
  weights := weights
  model := weights
  roster := predictor.names weights
  predictions := []

/-- One request.  A `train_model` succeeds; a `predict_video` saves its file and gets as far
as `process_video`. -/
def stepPrediction (s : PredictionServer Image Network) :
    ServerRequest Network → Option (PredictionServer Image Network)
  | .uploadVideo request =>
      some { s with server := (uploadVideo backendDir request s.server).2 }
  | .trainModel request =>
      if request.listing.Perm (listUploads backendDir s.server.disk) ∧
          (trainModel host backendDir request s.server).1 = .ok () then
        let server := (trainModel host backendDir request s.server).2
        some
          { s with
            server
            weights := server.network
            roster := (request.listing.filter isVideo).map stem }
      else none
  | .predictVideo request =>
      let file := File.bytes request.data
      let disk := s.server.disk.save (Path.join backendDir ("uploads/" ++ request.filename)) file
      some
        { s with
          server := { s.server with disk }
          predictions := s.predictions ++
            [{ roster := s.roster
               model := s.model
               frames := processVideo (predictor.detector s.model) (host.capture file) }] }

/-- Every user id is an index into the roster, and the player there is the one that the
classifier takes it for. -/
def Prediction.NamesRoster (prediction : Prediction Network) : Prop :=
  ∀ frame ∈ prediction.frames, ∀ player ∈ frame.userId.getD [], ∃ name,
    RefersTo prediction.roster player.userId name ∧
      RefersTo (predictor.names prediction.model) player.userId name

/-- A prediction is current: the players that the classifier knows are the first ones of the
roster, or nobody is seen in the video. -/
def Current (s : PredictionServer Image Network) : ServerRequest Network → Prop
  | .predictVideo request => predictor.names s.model <+: s.roster ∨
      ∀ image ∈ host.capture (.bytes request.data), ∀ box ∈ predictor.yoloModel image, box.cls ≠ 1
  | _ => True

instance (s : PredictionServer Image Network) :
    DecidablePred (Current host predictor s)
  | .uploadVideo _ => isTrue trivial
  | .trainModel _ => isTrue trivial
  | .predictVideo _ => inferInstanceAs (Decidable (_ ∨ _))

variable {host backendDir predictor}

/-! ## Predictions -/

/-- **One prediction.**  Its ids are classes of its classifier, so they name the roster if
the roster begins with the names of the classifier. -/
theorem namesRoster_of_current {s : PredictionServer Image Network} {request : PredictRequest}
    (hresults : ∀ network image, ∀ result ∈ predictor.results network image, ∀ box ∈ result,
      ∃ i : ℕ, box.cls = i ∧ i < (predictor.names network).length)
    (hcurrent : Current host predictor s (.predictVideo request)) :
    Prediction.NamesRoster predictor
      { roster := s.roster
        model := s.model
        frames := processVideo (predictor.detector s.model)
          (host.capture (.bytes request.data)) } := by
  intro frame hframe player hplayer
  obtain ⟨image, himage, ⟨person, hmem, hperson⟩, result, hresult, box, hbox, hid⟩ :=
    mem_userId_processVideo hframe hplayer
  rcases hcurrent with hroster | hnobody
  · obtain ⟨i, hcls, hlt⟩ := hresults s.model _ result hresult box hbox
    have hname : RefersTo (predictor.names s.model) player.userId (predictor.names s.model)[i] := by
      refine ⟨i, ?_, List.getElem?_eq_getElem hlt⟩
      rw [hid, hcls]
    exact ⟨_, hname.mono hroster, hname⟩
  · exact absurd hperson (hnobody image himage person hmem)

/-- What one request preserves. -/
theorem namesRoster_step
    (hresults : ∀ network image, ∀ result ∈ predictor.results network image, ∀ box ∈ result,
      ∃ i : ℕ, box.cls = i ∧ i < (predictor.names network).length)
    {s s' : PredictionServer Image Network} {request : ServerRequest Network}
    (h : ∀ prediction ∈ s.predictions, prediction.NamesRoster predictor)
    (hcurrent : Current host predictor s request)
    (hstep : stepPrediction host backendDir predictor s request = some s') :
    ∀ prediction ∈ s'.predictions, prediction.NamesRoster predictor := by
  cases request with
  | uploadVideo request =>
      cases hstep
      exact h
  | trainModel request =>
      simp only [stepPrediction] at hstep
      split at hstep
      · cases hstep
        exact h
      · cases hstep
  | predictVideo request =>
      cases hstep
      intro prediction hprediction
      rcases List.mem_append.mp hprediction with hbefore | hlast
      · exact h prediction hbefore
      · rw [List.mem_singleton.mp hlast]
        exact namesRoster_of_current hresults hcurrent

/-! ## All runs -/

/-- **User ids name the roster.**  In a run of uploads, trainings that succeed and
predictions, in which every prediction finds that the players its classifier knows are still
the first ones of the roster, every user id that `process_video` returns is an index into the
roster and refers to the player there. -/
theorem userIds_name_roster
    (hresults : ∀ network image, ∀ result ∈ predictor.results network image, ∀ box ∈ result,
      ∃ i : ℕ, box.cls = i ∧ i < (predictor.names network).length)
    {server : Server Image Network} {weights : Network} {requests : List (ServerRequest Network)}
    {s : PredictionServer Image Network}
    (hall : AllSteps (stepPrediction host backendDir predictor) (Current host predictor)
      (.start predictor server weights) requests)
    (hexec : exec (stepPrediction host backendDir predictor) (.start predictor server weights)
      requests = some s) :
    ∀ prediction ∈ s.predictions, prediction.NamesRoster predictor := by
  have hinit : ∀ prediction ∈ (PredictionServer.start predictor server weights).predictions,
      prediction.NamesRoster predictor := fun prediction hprediction ↦ (nomatch hprediction)
  exact exec_state_invariant hinit (fun _ _ _ ↦ namesRoster_step hresults) hall hexec

/-! ## Sample runs -/

/-- The last player a network knows is seen on every image, if there is one. -/
def namingPredictor : Predictor UInt8 (List String) where
  cvtColor := id
  results names _ :=
    if names = [] then []
    else [[{ cls := (names.length - 1 : ℕ), xyxy := ⟨0, 0, 2, 2⟩, conf := 1 }]]
  yoloModel _ := [{ cls := 1, xyxy := ⟨0, 0, 2, 2⟩, conf := 1 }]
  names := id

theorem namingPredictor_results (network : List String) (image : UInt8) :
    ∀ result ∈ namingPredictor.results network image, ∀ box ∈ result,
      ∃ i : ℕ, box.cls = i ∧ i < (namingPredictor.names network).length := by
  intro result hresult box hbox
  simp only [namingPredictor] at hresult
  split at hresult
  · cases hresult
  · next hne =>
      rw [List.mem_singleton.mp hresult] at hbox
      rw [List.mem_singleton.mp hbox]
      exact ⟨network.length - 1, rfl, Nat.sub_one_lt (List.length_pos_iff.mpr hne).ne'⟩

/-- A run on an empty disk of a process that has loaded a classifier for some names. -/
def samplePredictions (names : List String) (requests : List (ServerRequest (List String))) :
    Option (PredictionServer UInt8 (List String)) :=
  exec (stepPrediction namingHost [] namingPredictor)
    (.start namingPredictor ⟨Disk.empty (.bytes []), []⟩ names) requests

/-- A training on some listing, and a prediction on a video of one frame. -/
def trainThenPredict (listing : List String) : List (ServerRequest (List String)) :=
  [.trainModel { listing, choose := fun _ _ ↦ .train, outcome := .completes fun _ ↦ false },
    .predictVideo { filename := "game.mp4", data := [0] }]

/-- The classifier knows Sam, and so does the next one. -/
theorem userIds_name_roster_sample :
    ∃ s, samplePredictions ["Sam_A"] (.uploadVideo (samClips 0) :: .uploadVideo annClip ::
        trainThenPredict ["Sam_A.mov", "Ann_B.mov"]) = some s ∧
      (s.predictions.map fun prediction ↦
        prediction.frames.map fun frame ↦ (frame.userId.getD []).map PlayerDict.userId) =
          [[[some 0]]] ∧
      ∀ prediction ∈ s.predictions, prediction.NamesRoster namingPredictor := by
  have hrun : (samplePredictions ["Sam_A"] (.uploadVideo (samClips 0) :: .uploadVideo annClip ::
      trainThenPredict ["Sam_A.mov", "Ann_B.mov"])).map (fun s ↦
        s.predictions.map fun prediction ↦
          prediction.frames.map fun frame ↦ (frame.userId.getD []).map PlayerDict.userId) =
      some [[[some 0]]] := by
    decide
  obtain ⟨s, hs, hids⟩ := Option.map_eq_some_iff.mp hrun
  refine ⟨s, hs, hids, userIds_name_roster namingPredictor_results ?_ hs⟩
  decide

/-- The classifier knows Ann, and the training that is completed before the prediction has
listed Sam: the id is Sam's, and the classifier means Ann. -/
theorem userIds_name_roster_sample_fails :
    ¬ ∀ (requests : List (ServerRequest (List String)))
        (s : PredictionServer UInt8 (List String)),
      samplePredictions ["Ann_B"] requests = some s →
        ∀ prediction ∈ s.predictions, prediction.NamesRoster namingPredictor := by
  have hnames : (samplePredictions ["Ann_B"] (.uploadVideo (samClips 0) ::
      trainThenPredict ["Sam_A.mov"])).map (fun s ↦ s.predictions.map fun prediction ↦
        (prediction.roster, prediction.model)) = some [(["Sam_A"], ["Ann_B"])] := by
    decide
  have hids : (samplePredictions ["Ann_B"] (.uploadVideo (samClips 0) ::
      trainThenPredict ["Sam_A.mov"])).map (fun s ↦ s.predictions.map fun prediction ↦
        prediction.frames.map fun frame ↦ (frame.userId.getD []).map PlayerDict.userId) =
      some [[[some 0]]] := by
    decide
  obtain ⟨s, hs, hpredictions⟩ := Option.map_eq_some_iff.mp hnames
  obtain ⟨prediction, hprediction, hfields⟩ := List.map_eq_singleton_iff.mp hpredictions
  obtain ⟨hroster, hmodel⟩ := Prod.mk.inj hfields
  rw [hs, Option.map_some, hprediction] at hids
  have hframes := List.singleton_inj.mp (Option.some.inj hids)
  obtain ⟨frame, hframe, hplayers⟩ := List.map_eq_singleton_iff.mp hframes
  obtain ⟨player, hplayer, hid⟩ := List.map_eq_singleton_iff.mp hplayers
  intro h
  obtain ⟨name, ⟨i, hi, hnow⟩, ⟨j, hj, hthen⟩⟩ := h _ s hs prediction
    (hprediction ▸ List.mem_singleton_self _) frame (hframe ▸ List.mem_singleton_self _) player
    (hplayer ▸ List.mem_singleton_self _)
  rw [hid] at hi hj
  obtain rfl : i = 0 := by simpa using hi.symm
  obtain rfl : j = 0 := by simpa using hj.symm
  rw [hroster] at hnow
  rw [hmodel] at hthen
  have hsame : "Sam_A" = "Ann_B" :=
    (Option.some.inj hnow).trans (Option.some.inj hthen).symm
  exact absurd hsame (by decide)

end Courtside
