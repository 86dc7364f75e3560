import Courtside.Training.Soundness

/-!
# Who labels the frames

`extract_frames` asks `yolo_model` for the persons in a frame, and `train_model_logic` calls
`train` on the same object.  The first `train_model` of a process labels with the detector
that was loaded at its start; a later one labels with the classifier that has come of the
training before it, whose class `0` is a player.

The state here is that of `Training/Soundness.lean`, with the calls of `extract_frames` made
so far.  A call is right if its label files are those of a server that has just been started
(`LabelledBy`), and every call is, in a run in which no request has frames to label after
another has reached `yolo_model.train` (`labels_of_detector`).  What carries the induction is
that the network is the initial one as long as `train` has not been called.
-/

universe u v

namespace Courtside

variable {Image : Type u} {Network : Type v} (host : Host Image Network) (backendDir : Path)

/-! ## Calls of `extract_frames` -/

/-- A call of `extract_frames`: what it is given, and the disk before and after it. -/
structure ExtractCall (Image : Type u) where
  video : File Image
  personId : ℕ
  personName : String
  choose : ℕ → Split
  before : ServerDisk Image
  after : ServerDisk Image

/-- The disk after the same call with some network. -/
def ExtractCall.rerun (call : ExtractCall Image) (network : Network) : ServerDisk Image :=
  (extractFrames host backendDir network call.choose call.video call.personId call.personName
    call.before).2

/-- The calls that the loop of `process_videos` makes. -/
def extractCalls (network : Network) (choose : ℕ → ℕ → Split) :
    ℕ → List String → ServerDisk Image → List (ExtractCall Image)
  | _, [], _ => []
  | personId, video :: videos, disk =>
      match disk.read (uploadPath backendDir video) with
      | none => []
      | some file =>
          let extraction := extractFrames host backendDir network (choose personId) file personId
            (stem video) disk
          let call : ExtractCall Image :=
            { video := file
              personId
              personName := stem video
              choose := choose personId
              before := disk
              after := extraction.2 }
          match extraction.1 with
          | .error _ => [call]
          | .ok () => call :: extractCalls network choose (personId + 1) videos extraction.2

/-- The calls that a `train_model` request makes. -/
def requestCalls (request : TrainRequest Network) (server : Server Image Network) :
    List (ExtractCall Image) :=
  let videos := request.listing.filter isVideo
  extractCalls host backendDir server.network request.choose 0 videos
    (server.disk.save (yamlPath backendDir)
      (.yaml { names := videos.map stem, nc := videos.length }))

/-! ## Histories -/

/-- A history, with the calls of `extract_frames` made in it. -/
structure LabelHistory (Image : Type u) (Network : Type v) where
  history : History Image Network
  extractions : List (ExtractCall Image)

/-- A server that has just been started. -/
def LabelHistory.start (server : Server Image Network) : LabelHistory Image Network where
  history := .start server
  extractions := []

/-- One request. -/
def stepLabels (s : LabelHistory Image Network) (request : Request Network) :
    Option (LabelHistory Image Network) :=
  (stepHistory host backendDir s.history request).map fun history ↦
    { history
      extractions :=
        match request with
        | .trainModel request =>
            s.extractions ++ requestCalls host backendDir request s.history.server
        | _ => s.extractions }

/-- A request that labels nothing after a training: no earlier request has reached
`yolo_model.train`, or there is no frame to label. -/
def Untrained (s : LabelHistory Image Network) : Request Network → Prop
  | .trainModel request => s.history.calls = [] ∨
      hasFrames host backendDir s.history.server.disk request.listing = false
  | _ => True

namespace ExtractCall

/-- The frame of a call with a given number. -/
def IsFrame (call : ExtractCall Image) (frameId : ℕ) (frame : Image) : Prop :=
  (videoFrames host call.video)[frameId]? = some frame

/-- The label files are those which a network gives. -/
structure LabelledBy (call : ExtractCall Image) (network : Network) : Prop where
  /-- They are the ones that a server with this network would write. -/
  rerun : ∀ split name, call.after.read (labelPath backendDir split name) =
    (call.rerun host backendDir network).read (labelPath backendDir split name)
  /-- A frame in which the network detects something has a file, with one line for each
  person. -/
  line : ∀ frameId frame, call.IsFrame host frameId frame →
    0 < (host.detect network frame).length →
      call.after.read (labelPath backendDir (call.choose frameId)
          (frameFilename call.personName frameId ".txt")) =
        some (.labels (((host.detect network frame).filter fun box ↦ decide (box.cls = 0)).map
          (labelLine call.personId (host.shape frame).1 (host.shape frame).2)))
  /-- No other label file is written. -/
  other : ∀ split name,
    (∀ frameId frame, call.IsFrame host frameId frame →
      0 < (host.detect network frame).length →
        ¬ (split = call.choose frameId ∧
          name = frameFilename call.personName frameId ".txt")) →
      call.after.read (labelPath backendDir split name) =
        call.before.read (labelPath backendDir split name)

end ExtractCall

variable {host backendDir}

/-! ## One call -/

namespace ExtractCall

variable {call : ExtractCall Image} {network : Network}

/-- A call performs the writes of its frames. -/
theorem rerun_eq : call.rerun host backendDir network =
    call.before.saveAll (videoWrites host backendDir network call.choose call.personId
      call.personName (videoFrames host call.video) 0) :=
  extractFrames_eq host backendDir network call.choose call.video call.personId call.personName
    call.before

/-- Without frames nothing is written, whatever the network. -/
theorem rerun_eq_before (h : videoFrames host call.video = []) :
    call.rerun host backendDir network = call.before := by
  rw [rerun_eq, h]
  rfl

/-- A frame in which something is detected has a label file. -/
theorem label_mem_videoWrites {frameId : ℕ} {frame : Image}
    (hframe : call.IsFrame host frameId frame)
    (hdetected : 0 < (host.detect network frame).length) :
    (labelPath backendDir (call.choose frameId) (frameFilename call.personName frameId ".txt"),
        .labels (labelLines host network call.personId frame)) ∈
      videoWrites host backendDir network call.choose call.personId call.personName
        (videoFrames host call.video) 0 :=
  mem_videoWrites.mpr ⟨frameId, frame, hframe, .inr ⟨hdetected, rfl⟩⟩

/-- A label file that is written belongs to such a frame. -/
theorem label_of_mem_videoWrites {split : Split} {name : String} {file : File Image}
    (h : (labelPath backendDir split name, file) ∈ videoWrites host backendDir network
      call.choose call.personId call.personName (videoFrames host call.video) 0) :
    ∃ frameId frame, call.IsFrame host frameId frame ∧ 0 < (host.detect network frame).length ∧
      split = call.choose frameId ∧ name = frameFilename call.personName frameId ".txt" ∧
      file = .labels (labelLines host network call.personId frame) := by
  obtain ⟨frameId, frame, hframe, hwrite | ⟨hdetected, hwrite⟩⟩ := mem_videoWrites.mp h
  · exact absurd (Prod.mk.inj hwrite).1.symm imagePath_ne_labelPath
  · obtain ⟨hpath, hfile⟩ := Prod.mk.inj hwrite
    obtain ⟨hsplit, hname⟩ := labelPath_inj hpath
    exact ⟨frameId, frame, hframe, hdetected, hsplit, hname, hfile⟩

/-- **One call.**  What a network writes is labelled by it. -/
theorem labelledBy (h : call.after = call.rerun host backendDir network) :
    call.LabelledBy host backendDir network := by
  refine ⟨fun split name ↦ by rw [h], fun frameId frame hframe hdetected ↦ ?_,
    fun split name hother ↦ ?_⟩
  · rw [h, rerun_eq]
    refine Disk.read_saveAll_of_mem (label_mem_videoWrites hframe hdetected) (fun file hfile ↦ ?_) _
    obtain ⟨frameId', frame', hframe', -, -, hname, rfl⟩ := label_of_mem_videoWrites hfile
    obtain ⟨-, rfl⟩ := frameFilename_inj hname
    obtain rfl : frame = frame' := Option.some.inj (hframe.symm.trans hframe')
    rfl
  · rw [h, rerun_eq, Disk.read, Disk.file?_saveAll_of_forall_ne, ← Disk.read]
    rintro ⟨p, file⟩ hwrite rfl
    obtain ⟨frameId, frame, hframe, hdetected, hsplit, hname, -⟩ := label_of_mem_videoWrites hwrite
    exact hother frameId frame hframe hdetected ⟨hsplit, hname⟩

end ExtractCall

/-! ## The calls of one request -/

/-- A call is for the first video, or comes after that. -/
theorem mem_extractCalls_cons {network : Network} {choose : ℕ → ℕ → Split} {personId : ℕ}
    {video : String} {videos : List String} {disk : ServerDisk Image} {call : ExtractCall Image}
    (h : call ∈ extractCalls host backendDir network choose personId (video :: videos) disk) :
    ∃ file, disk.read (uploadPath backendDir video) = some file ∧
      (call.video = file ∧ call.after = call.rerun host backendDir network ∨
        call ∈ extractCalls host backendDir network choose (personId + 1) videos
          (extractFrames host backendDir network (choose personId) file personId (stem video)
            disk).2) := by
  rw [extractCalls] at h
  cases hread : disk.read (uploadPath backendDir video) with
  | none =>
      rw [hread] at h
      cases h
  | some file =>
      rw [hread] at h
      dsimp only at h
      refine ⟨file, rfl, ?_⟩
      split at h
      · rw [List.mem_singleton.mp h]
        exact .inl ⟨rfl, rfl⟩
      · rcases List.mem_cons.mp h with rfl | hrest
        · exact .inl ⟨rfl, rfl⟩
        · exact .inr hrest

/-- The calls are made with the network of the server. -/
theorem after_of_mem_extractCalls {network : Network} {choose : ℕ → ℕ → Split} {personId : ℕ}
    {videos : List String} {disk : ServerDisk Image} {call : ExtractCall Image}
    (h : call ∈ extractCalls host backendDir network choose personId videos disk) :
    call.after = call.rerun host backendDir network := by
  induction videos generalizing personId disk with
  | nil => cases h
  | cons video videos ih =>
      obtain ⟨file, -, ⟨-, hafter⟩ | hrest⟩ := mem_extractCalls_cons h
      · exact hafter
      · exact ih hrest

/-- Every call is for one of the videos, as it was before the first of them. -/
theorem video_of_mem_extractCalls {network : Network} {choose : ℕ → ℕ → Split} {personId : ℕ}
    {videos : List String} {base disk : ServerDisk Image} {call : ExtractCall Image}
    (hbase : ∀ video, disk.read (uploadPath backendDir video) =
      base.read (uploadPath backendDir video))
    (h : call ∈ extractCalls host backendDir network choose personId videos disk) :
    ∃ video ∈ videos, videoFrames host call.video = framesOf host backendDir base video := by
  induction videos generalizing personId disk with
  | nil => cases h
  | cons video videos ih =>
      obtain ⟨file, hread, ⟨rfl, -⟩ | hrest⟩ := mem_extractCalls_cons h
      · refine ⟨video, List.mem_cons_self, ?_⟩
        rw [framesOf, ← hbase, hread]
      · have hbase' : ∀ v, (extractFrames host backendDir network (choose personId) file
            personId (stem video) disk).2.read (uploadPath backendDir v) =
              base.read (uploadPath backendDir v) := by
          intro v
          rw [extractFrames_eq, read_uploadPath_videoWrites, hbase]
        obtain ⟨video', hmem, hframes⟩ := ih hbase' hrest
        exact ⟨video', List.mem_cons_of_mem _ hmem, hframes⟩

/-- A request whose videos have no frames has every call leave the disk as it is. -/
theorem after_of_mem_requestCalls {request : TrainRequest Network} {server : Server Image Network}
    {call : ExtractCall Image}
    (hframes : hasFrames host backendDir server.disk request.listing = false)
    (h : call ∈ requestCalls host backendDir request server) (network : Network) :
    call.after = call.rerun host backendDir network := by
  have hbase : ∀ (data : DataYaml) (video : String),
      (server.disk.save (yamlPath backendDir) (.yaml data)).read (uploadPath backendDir video) =
        server.disk.read (uploadPath backendDir video) :=
    fun _ _ ↦ Disk.read_save_of_ne _ _ uploadPath_ne_yamlPath
  obtain ⟨video, hvideo, hcall⟩ := video_of_mem_extractCalls (hbase _) h
  have hnone : framesOf host backendDir server.disk video = [] := by
    simpa using List.any_eq_false.mp hframes video hvideo
  rw [hnone] at hcall
  rw [after_of_mem_extractCalls h, ExtractCall.rerun_eq_before hcall,
    ExtractCall.rerun_eq_before hcall]

/-! ## All histories -/

/-- Only a request that reaches `yolo_model.train` changes the network. -/
theorem network_stepHistory {s s' : History Image Network} {request : Request Network}
    (hstep : stepHistory host backendDir s request = some s') (hcalls : s'.calls = []) :
    s.calls = [] ∧ s'.server.network = s.server.network := by
  cases request with
  | uploadVideo request opens => cases opens <;> cases hstep <;> exact ⟨hcalls, rfl⟩
  | testModel request opens => cases opens <;> cases hstep <;> exact ⟨hcalls, rfl⟩
  | trainModel request =>
      simp only [stepHistory] at hstep
      split at hstep
      · cases hstep
        dsimp only at hcalls ⊢
        rw [trainModel]
        rcases hextraction : extraction host backendDir request s.server with ⟨e | _, disk⟩
        · rw [hextraction] at hcalls
          exact ⟨hcalls, rfl⟩
        · rw [hextraction] at hcalls
          simp at hcalls
      · cases hstep

variable (host backendDir) in
/-- The calls so far are labelled by the initial network, which is the one of the server
unless a request has reached `yolo_model.train`. -/
structure LabelledSoFar (network : Network) (s : LabelHistory Image Network) : Prop where
  initial : s.history.calls = [] → s.history.server.network = network
  labelled : ∀ call ∈ s.extractions, call.LabelledBy host backendDir network

/-- A training request labels with the initial network, or has nothing to label. -/
theorem LabelledSoFar.requestCalls {network : Network} {s : LabelHistory Image Network}
    {request : TrainRequest Network} (h : LabelledSoFar host backendDir network s)
    (huntrained : Untrained host backendDir s (.trainModel request)) :
    ∀ call ∈ Courtside.requestCalls host backendDir request s.history.server,
      call.LabelledBy host backendDir network := by
  intro call hcall
  refine ExtractCall.labelledBy ?_
  rcases huntrained with hcalls | hframes
  · rw [← h.initial hcalls]
    exact after_of_mem_extractCalls hcall
  · exact after_of_mem_requestCalls hframes hcall network

/-- What one request preserves. -/
theorem LabelledSoFar.step {network : Network} {s s' : LabelHistory Image Network}
    {request : Request Network} (h : LabelledSoFar host backendDir network s)
    (huntrained : Untrained host backendDir s request)
    (hstep : stepLabels host backendDir s request = some s') :
    LabelledSoFar host backendDir network s' := by
  obtain ⟨history, hhistory, rfl⟩ := Option.map_eq_some_iff.mp hstep
  constructor
  · intro hcalls
    obtain ⟨hbefore, hnetwork⟩ := network_stepHistory hhistory hcalls
    exact hnetwork.trans (h.initial hbefore)
  · cases request with
    | uploadVideo request opens => exact h.labelled
    | testModel request opens => exact h.labelled
    | trainModel request =>
        intro call hcall
        rcases List.mem_append.mp hcall with hcall | hcall
        · exact h.labelled call hcall
        · exact h.requestCalls huntrained call hcall

/-- **The detector labels.**  If no request has frames to label after another has reached
`yolo_model.train`, every call of `extract_frames` writes the label files of a server that
has just been started: one line for each person the initial network detects. -/
theorem labels_of_detector {server : Server Image Network} {requests : List (Request Network)}
    {s : LabelHistory Image Network}
    (hall : AllSteps (stepLabels host backendDir) (Untrained host backendDir) (.start server)
      requests)
    (hexec : exec (stepLabels host backendDir) (.start server) requests = some s) :
    ∀ call ∈ s.extractions, call.LabelledBy host backendDir server.network := by
  have hinit : LabelledSoFar host backendDir server.network (.start server) :=
    ⟨fun _ ↦ rfl, fun call hcall ↦ (nomatch hcall)⟩
  exact (exec_state_invariant hinit (fun _ _ _ h ↦ h.step) hall hexec).labelled

/-! ## Sample histories -/

/-- A history of the host whose networks know their players, on an empty disk. -/
def sampleLabels (requests : List (Request (List String))) :
    Option (LabelHistory UInt8 (List String)) :=
  exec (stepLabels namingHost []) (.start ⟨Disk.empty (.bytes []), []⟩) requests

/-- Clips of another player. -/
def annClip : UploadRequest where
  filename := "clip.mov"
  data := [2]
  playerName := "Ann"
  playerTeam := "B"

/-- A training that completes, for some listing. -/
def trainingOn (listing : List String) : Request (List String) :=
  .trainModel { listing, choose := fun _ _ ↦ .train, outcome := .completes fun _ ↦ false }

/-- Two players, a training, and another without videos. -/
theorem labels_of_detector_sample :
    ∃ s, sampleLabels [.uploadVideo (samClips 0) true, .uploadVideo annClip true,
        trainingOn ["Sam_A.mov", "Ann_B.mov"], trainingOn []] = some s ∧
      s.extractions.length = 2 ∧
      ∀ call ∈ s.extractions, call.LabelledBy namingHost [] [] := by
  have hrun : (sampleLabels [.uploadVideo (samClips 0) true, .uploadVideo annClip true,
      trainingOn ["Sam_A.mov", "Ann_B.mov"], trainingOn []]).map
        (fun s ↦ s.extractions.length) = some 2 := by
    decide
  obtain ⟨s, hs, hlength⟩ := Option.map_eq_some_iff.mp hrun
  refine ⟨s, hs, hlength, labels_of_detector ?_ hs⟩
  refine ⟨trivial, ?_⟩
  rintro s₁ ⟨⟩
  refine ⟨trivial, ?_⟩
  rintro s₂ ⟨⟩
  refine ⟨.inl rfl, fun s₃ _ ↦ ?_⟩
  exact ⟨.inr rfl, fun _ _ ↦ trivial⟩

/-- Two players, a training, and another after a third clip: its frame is shown to the
classifier, which sees its second player there, so that nobody is labelled. -/
theorem labels_of_detector_sample_fails :
    ¬ ∀ (requests : List (Request (List String))) (s : LabelHistory UInt8 (List String)),
      sampleLabels requests = some s →
        ∀ call ∈ s.extractions, call.LabelledBy namingHost [] [] := by
  have hrun : (sampleLabels [.uploadVideo (samClips 0) true, .uploadVideo annClip true,
      trainingOn ["Sam_A.mov", "Ann_B.mov"], .uploadVideo (samClips 1) true,
      trainingOn ["Sam_A.mov"]]).map
        (fun s ↦ s.extractions[2]?.map fun call ↦
          (call.after.read (labelPath [] .train "Sam_A_frame_0.txt"),
            ((call.rerun namingHost [] []).read (labelPath [] .train "Sam_A_frame_0.txt")).map
              fun file ↦ decide (file = .labels []))) =
      some (some (some (.labels []), some false)) := by
    decide
  obtain ⟨s, hs, hthird⟩ := Option.map_eq_some_iff.mp hrun
  obtain ⟨call, hcall, hread⟩ := Option.map_eq_some_iff.mp hthird
  obtain ⟨hafter, hfresh⟩ := Prod.mk.inj hread
  intro h
  have hrerun := (h _ s hs call (List.mem_of_getElem? hcall)).rerun .train "Sam_A_frame_0.txt"
  rw [← hrerun, hafter] at hfresh
  simp at hfresh

end Courtside
