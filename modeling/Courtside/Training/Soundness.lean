import Courtside.Data.Run
import Courtside.Training.Server

/-!
# What training is given

The dataset is reset by `upload_video`, filled by `train_model`, and cleared by nothing
else.  What a training is given is therefore a statement about histories of requests.

A dataset is `Sound` if there is nothing under `DATASET_DIR` but `data.yaml`, images and
label files, and every image is a frame of a video that was listed, is in one split only,
and is labelled with the index of that video in `data.yaml`.  It is not if an earlier
`train_model` has left its frames behind: a second one draws the splits anew and writes the
same images into other splits, and once a training has completed its videos are gone while
their images stay.  Nor is it if `test_model` was sent an image whose name leads there.

`dataset_sound` is the converse: if frames are only ever extracted into a dataset that has
been reset since, and nothing else is written there, every training is given a sound one.
The invariant is that a dataset without extracted frames holds at most a `data.yaml`
(`Cleared`).
-/

universe u v

namespace Courtside

variable {Image : Type u} {Network : Type v} (host : Host Image Network) (backendDir : Path)

/-! ## Histories of requests -/

/-- A request to a server that handles one after the other.  The destination of an
upload may fail to open. -/
inductive Request (Network : Type v) where
  | uploadVideo (request : UploadRequest) (opens : Bool)
  | testModel (request : TestRequest) (opens : Bool)
  | trainModel (request : TrainRequest Network)

/-- A call of `train`: the listed videos, the disk when they were listed, and the disk
that the training is given. -/
structure TrainCall (Image : Type u) where
  videos : List String
  listed : ServerDisk Image
  given : ServerDisk Image

/-- A server with its history. -/
structure History (Image : Type u) (Network : Type v) where
  server : Server Image Network
  calls : List (TrainCall Image)
  /-- Frames have been extracted since the dataset was last reset. -/
  extracted : Bool

/-- Some listed video has a frame to extract. -/
def hasFrames (disk : ServerDisk Image) (listing : List String) : Bool :=
  (listing.filter isVideo).any fun video ↦ !(framesOf host backendDir disk video).isEmpty

/-- One request. -/
def stepHistory (s : History Image Network) : Request Network → Option (History Image Network)
  | .uploadVideo request true =>
      some { s with server := (uploadVideo backendDir request s.server).2, extracted := false }
  | .testModel request true =>
      some { s with server := (testModel host backendDir request s.server).2 }
  | .uploadVideo _ false => some s
  | .testModel _ false => some s
  | .trainModel request =>
      if request.listing.Perm (listUploads backendDir s.server.disk) then
        some
          { server := (trainModel host backendDir request s.server).2
            calls :=
              match extraction host backendDir request s.server with
              | (.ok (), disk) =>
                  s.calls ++
                    [{ videos := request.listing.filter isVideo
                       listed := s.server.disk
                       given := disk }]
              | (.error _, _) => s.calls
            extracted := s.extracted || hasFrames host backendDir s.server.disk request.listing }
      else none

/-! ## Soundness -/

namespace TrainCall

variable (call : TrainCall Image)

/-- The image is a frame of a listed video that was in `UPLOAD_DIR`. -/
def IsFrame (personId : ℕ) (video : String) (frameId : ℕ) (frame : Image) : Prop :=
  call.videos[personId]? = some video ∧ video ∈ listUploads backendDir call.listed ∧
    (framesOf host backendDir call.listed video)[frameId]? = some frame

/-- What a training may rely on. -/
structure Sound : Prop where
  /-- Every file under `DATASET_DIR` is `data.yaml`, or an image or a label file of a
  split. -/
  place : ∀ p file, Path.Inside (datasetDir backendDir) p → call.given.read p = some file →
    p = yamlPath backendDir ∨ IsDatasetFile backendDir p
  /-- Every image is a frame of a listed video. -/
  image : ∀ split name file, call.given.read (imagePath backendDir split name) = some file →
    ∃ personId video frameId frame, call.IsFrame host backendDir personId video frameId frame ∧
      name = frameFilename (stem video) frameId ".jpg" ∧ file = .image frame
  /-- No image is in two splits. -/
  oneSplit : ∀ split split' name file file',
    call.given.read (imagePath backendDir split name) = some file →
    call.given.read (imagePath backendDir split' name) = some file' → split = split'
  /-- Every label file lies beside the image of a frame, and its lines carry the index of
  that frame's video among the names. -/
  label : ∀ split name file, call.given.read (labelPath backendDir split name) = some file →
    ∃ personId video frameId frame, call.IsFrame host backendDir personId video frameId frame ∧
      name = frameFilename (stem video) frameId ".txt" ∧
      call.given.read
          (imagePath backendDir split (frameFilename (stem video) frameId ".jpg")) =
        some (.image frame) ∧
      (∃ data, call.given.read (yamlPath backendDir) = some (.yaml data) ∧
        ∀ i, data.names[i]? = some (stem video) ↔ i = personId) ∧
      ∃ lines, file = .labels lines ∧ ∀ line ∈ lines, line.personId = personId

end TrainCall

/-- A request that puts no dataset at risk: frames are extracted into a dataset that has
been reset since the last extraction, from videos with distinct stems, and no test
image is written into the dataset. -/
def Orderly (s : History Image Network) : Request Network → Prop
  | .uploadVideo _ _ => True
  | .testModel request opens => opens = true →
      ¬ Path.Inside (datasetDir backendDir) (Path.join (uploadDir backendDir) request.filename)
  | .trainModel request =>
      s.extracted = false ∧ ((request.listing.filter isVideo).map stem).Nodup

/-- No image and no label file. -/
def Fresh (disk : ServerDisk Image) : Prop :=
  ∀ p, IsDatasetFile backendDir p → disk.read p = none

/-- Nothing under `DATASET_DIR` but `data.yaml`. -/
def Cleared (disk : ServerDisk Image) : Prop :=
  ∀ p, Path.Inside (datasetDir backendDir) p → p ≠ yamlPath backendDir → disk.read p = none

variable {host backendDir}

/-! ## One request -/

theorem Cleared.fresh {disk : ServerDisk Image} (h : Cleared backendDir disk) :
    Fresh backendDir disk := fun p hp ↦ h p hp.inside hp.ne_yamlPath

theorem cleared_resetDatasetDir (disk : ServerDisk Image) :
    Cleared backendDir (resetDatasetDir backendDir disk) := by
  intro p hp _
  rw [Disk.read, resetDatasetDir, file?_clearDir_of_inside hp]
  rfl

theorem Cleared.save {disk : ServerDisk Image} (h : Cleared backendDir disk) {p : Path}
    (hp : ¬ Path.Inside (datasetDir backendDir) p) (file : File Image) :
    Cleared backendDir (disk.save p file) := by
  intro q hq hyaml
  have hne : q ≠ p := by
    rintro rfl
    exact hp hq
  rw [Disk.read_save_of_ne _ _ hne]
  exact h q hq hyaml

/-- What an extraction into a fresh dataset leaves there it has written. -/
theorem Fresh.mem_datasetWrites {disk : ServerDisk Image} (h : Fresh backendDir disk)
    {network : Network} {choose : ℕ → ℕ → Split} {videos : List String} {data : DataYaml}
    {p : Path} (hp : IsDatasetFile backendDir p) {file : File Image}
    (hread : ((disk.save (yamlPath backendDir) (.yaml data)).saveAll
      (datasetWrites host backendDir network choose disk 0 videos)).read p = some file) :
    (p, file) ∈ datasetWrites host backendDir network choose disk 0 videos := by
  refine (Disk.mem_of_read_saveAll hread).resolve_right fun hread ↦ ?_
  rw [Disk.read_save_of_ne _ _ hp.ne_yamlPath, h p hp] at hread
  cases hread

/-- Without frames nothing but `data.yaml` is written. -/
theorem Cleared.trainModel {server : Server Image Network} (h : Cleared backendDir server.disk)
    {request : TrainRequest Network}
    (hframes : hasFrames host backendDir server.disk request.listing = false) :
    Cleared backendDir (trainModel host backendDir request server).2.disk := by
  intro p hp hyaml
  obtain ⟨videos, hvideos, hdisk, -⟩ :=
    processVideos_eq host backendDir server.network request.listing request.choose server.disk
  have hnone : ∀ video ∈ videos, framesOf host backendDir server.disk video = [] := by
    intro video hvideo
    simpa using List.any_eq_false.mp hframes video (hvideos.subset hvideo)
  rw [Disk.read, file?_trainModel_of_inside hp, extraction, hdisk,
    datasetWrites_eq_nil hnone, Disk.saveAll_nil, ← Disk.read, Disk.read_save_of_ne _ _ hyaml]
  exact h p hp hyaml

/-- What is in a dataset that was cleared before the extraction is where it belongs. -/
theorem Cleared.place {disk : ServerDisk Image} (h : Cleared backendDir disk)
    {network : Network} {choose : ℕ → ℕ → Split} {videos : List String} {data : DataYaml}
    {p : Path} {file : File Image} (hp : Path.Inside (datasetDir backendDir) p)
    (hread : ((disk.save (yamlPath backendDir) (.yaml data)).saveAll
      (datasetWrites host backendDir network choose disk 0 videos)).read p = some file) :
    p = yamlPath backendDir ∨ IsDatasetFile backendDir p := by
  by_cases hyaml : p = yamlPath backendDir
  · exact .inl hyaml
  · rcases Disk.mem_of_read_saveAll hread with hmem | hbefore
    · exact .inr (isDatasetFile_of_mem_datasetWrites hmem)
    · rw [Disk.read_save_of_ne _ _ hyaml, h p hp hyaml] at hbefore
      cases hbefore

/-- **Soundness of one extraction.**  From videos with distinct stems, into a dataset that
was cleared. -/
theorem Cleared.sound {server : Server Image Network} (h : Cleared backendDir server.disk)
    {request : TrainRequest Network}
    (hlisting : request.listing.Perm (listUploads backendDir server.disk))
    (hstems : ((request.listing.filter isVideo).map stem).Nodup)
    (hok : (extraction host backendDir request server).1 = .ok ()) :
    TrainCall.Sound host backendDir
      { videos := request.listing.filter isVideo
        listed := server.disk
        given := (extraction host backendDir request server).2 } := by
  obtain ⟨videos, -, hdisk, hall⟩ :=
    processVideos_eq host backendDir server.network request.listing request.choose server.disk
  obtain rfl := hall hok
  have hlisted : ∀ {personId : ℕ} {video : String},
      (request.listing.filter isVideo)[personId]? = some video →
        video ∈ listUploads backendDir server.disk := by
    intro personId video hvideo
    exact hlisting.mem_iff.mp (List.mem_of_mem_filter (List.mem_of_getElem? hvideo))
  rw [extraction, hdisk]
  have hfresh := h.fresh
  refine ⟨fun p file hp ↦ h.place hp, fun split name file hread ↦ ?_,
    fun split split' name file file' hread hread' ↦ ?_, fun split name file hread ↦ ?_⟩
  · have hmem := hfresh.mem_datasetWrites ⟨split, name, .inl rfl⟩ hread
    obtain ⟨personId, video, frameId, frame, hvideo, hframe, -, hname, hfile⟩ :=
      image_of_mem_datasetWrites hmem
    exact ⟨personId, video, frameId, frame, ⟨hvideo, hlisted hvideo, hframe⟩, hname, hfile⟩
  · have hmem := hfresh.mem_datasetWrites ⟨split, name, .inl rfl⟩ hread
    have hmem' := hfresh.mem_datasetWrites ⟨split', name, .inl rfl⟩ hread'
    obtain ⟨personId, video, frameId, frame, hvideo, -, rfl, rfl, -⟩ :=
      image_of_mem_datasetWrites hmem
    obtain ⟨personId', video', frameId', frame', hvideo', -, rfl, hname, -⟩ :=
      image_of_mem_datasetWrites hmem'
    -- one name, so one video and one frame, for which one split was drawn
    obtain ⟨rfl, rfl⟩ := frame_unique hstems hvideo hvideo' hname
    rfl
  · have hmem := hfresh.mem_datasetWrites ⟨split, name, .inr rfl⟩ hread
    obtain ⟨personId, video, frameId, frame, hvideo, hframe, rfl, rfl, rfl⟩ :=
      label_of_mem_datasetWrites hmem
    refine ⟨personId, video, frameId, frame, ⟨hvideo, hlisted hvideo, hframe⟩, rfl, ?_,
      ?_, _, rfl, fun line ↦ personId_of_mem_labelLines⟩
    · have himage : (imagePath backendDir (request.choose personId frameId)
            (frameFilename (stem video) frameId ".jpg"), File.image frame) ∈
          datasetWrites host backendDir server.network request.choose server.disk 0
            (request.listing.filter isVideo) :=
        Courtside.mem_datasetWrites.mpr
          ⟨personId, video, frameId, frame, hvideo, hframe, .inl rfl⟩
      exact read_of_mem_datasetWrites hstems himage _
    · exact ⟨{ names := (request.listing.filter isVideo).map stem
               nc := (request.listing.filter isVideo).length },
        read_yamlPath_saveAll _ _, stem_index hstems hvideo⟩

/-! ## All histories -/

variable (host backendDir) in
/-- The trainings so far were given sound datasets, and there is nothing in the dataset
unless frames have been extracted into it. -/
structure SoundSoFar (s : History Image Network) : Prop where
  cleared : s.extracted = false → Cleared backendDir s.server.disk
  sound : ∀ call ∈ s.calls, call.Sound host backendDir

/-- A training request leaves the history sound if it finds the dataset cleared. -/
theorem SoundSoFar.trainModel {s : History Image Network} {request : TrainRequest Network}
    (h : SoundSoFar host backendDir s) (horderly : Orderly backendDir s (.trainModel request))
    (hlisting : request.listing.Perm (listUploads backendDir s.server.disk)) :
    SoundSoFar host backendDir
      { server := (Courtside.trainModel host backendDir request s.server).2
        calls :=
          match extraction host backendDir request s.server with
          | (.ok (), disk) =>
              s.calls ++
                [{ videos := request.listing.filter isVideo
                   listed := s.server.disk
                   given := disk }]
          | (.error _, _) => s.calls
        extracted := s.extracted || hasFrames host backendDir s.server.disk request.listing } := by
  obtain ⟨hextracted, hstems⟩ := horderly
  have hcleared := h.cleared hextracted
  refine ⟨fun hframes ↦ ?_, fun call hcall ↦ ?_⟩
  · exact hcleared.trainModel (Bool.or_eq_false_iff.mp hframes).2
  · dsimp only at hcall
    rcases hextraction : extraction host backendDir request s.server with ⟨e | _, disk⟩
    · rw [hextraction] at hcall
      exact h.sound call hcall
    · rw [hextraction] at hcall
      rcases List.mem_append.mp hcall with hcall | hcall
      · exact h.sound call hcall
      · obtain rfl := List.mem_singleton.mp hcall
        have hok : (extraction host backendDir request s.server).1 = .ok () := by rw [hextraction]
        have hsound := hcleared.sound hlisting hstems hok
        rwa [hextraction] at hsound

/-- What one orderly request preserves. -/
theorem SoundSoFar.step {s s' : History Image Network} {request : Request Network}
    (h : SoundSoFar host backendDir s) (horderly : Orderly backendDir s request)
    (hstep : stepHistory host backendDir s request = some s') :
    SoundSoFar host backendDir s' := by
  cases request with
  | uploadVideo request opens =>
      cases opens with
      | false => cases hstep; exact h
      | true =>
          cases hstep
          exact ⟨fun _ ↦ cleared_resetDatasetDir _, h.sound⟩
  | testModel request opens =>
      cases opens with
      | false => cases hstep; exact h
      | true =>
          cases hstep
          exact ⟨fun hextracted ↦ (h.cleared hextracted).save (horderly rfl) _, h.sound⟩
  | trainModel request =>
      simp only [stepHistory] at hstep
      split at hstep
      · next hlisting =>
          cases hstep
          exact h.trainModel horderly hlisting
      · cases hstep

/-- A server started on a dataset that has been reset. -/
def History.start (server : Server Image Network) : History Image Network where
  server := server
  calls := []
  extracted := false

/-- **Every training is given a sound dataset.**  In a history of orderly requests to a
server started on a reset dataset, whatever the uploads, the draws and the trainings and
exports that raise. -/
theorem dataset_sound {server : Server Image Network}
    (hreset : ∀ p, Path.Inside (datasetDir backendDir) p → server.disk.read p = none)
    {requests : List (Request Network)} {s : History Image Network}
    (hall : AllSteps (stepHistory host backendDir) (Orderly backendDir) (.start server) requests)
    (hexec : exec (stepHistory host backendDir) (.start server) requests = some s) :
    ∀ call ∈ s.calls, call.Sound host backendDir := by
  have hinit : SoundSoFar host backendDir (.start server) :=
    ⟨fun _ p hp _ ↦ hreset p hp, fun call hcall ↦ (nomatch hcall)⟩
  exact (exec_state_invariant hinit (fun _ _ _ h ↦ h.step) hall hexec).sound

/-! ## Sample histories -/

/-- A history of the sample host on an empty disk. -/
def sampleHistory (requests : List (Request Unit)) : Option (History UInt8 Unit) :=
  exec (stepHistory sampleHost []) (.start ⟨Disk.empty (.bytes []), ()⟩) requests

/-- A training on the only clip there is, with one split for all its frames. -/
def samTraining (split : Split) (outcome : TrainOutcome Unit) : Request Unit :=
  .trainModel { listing := ["Sam_A.mov"], choose := fun _ _ ↦ split, outcome }

/-- A training that raises, and one that completes after the clip was sent again. -/
theorem dataset_sound_sample :
    ∃ s, sampleHistory [.uploadVideo (samClips 0) true, samTraining .train (.trainRaises ()),
        .uploadVideo (samClips 1) true, samTraining .valid (.completes fun _ ↦ false)] = some s ∧
      s.calls.length = 2 ∧ ∀ call ∈ s.calls, call.Sound sampleHost [] := by
  have hrun : (sampleHistory [.uploadVideo (samClips 0) true,
      samTraining .train (.trainRaises ()), .uploadVideo (samClips 1) true,
      samTraining .valid (.completes fun _ ↦ false)]).map (fun s ↦ s.calls.length) = some 2 := by
    decide
  obtain ⟨s, hs, hlength⟩ := Option.map_eq_some_iff.mp hrun
  refine ⟨s, hs, hlength, dataset_sound (fun _ _ ↦ rfl) ?_ hs⟩
  have hstems : ((["Sam_A.mov"].filter isVideo).map stem).Nodup := by decide
  refine ⟨trivial, ?_⟩
  rintro s₁ ⟨⟩
  refine ⟨⟨rfl, hstems⟩, ?_⟩
  rintro s₂ ⟨⟩
  refine ⟨trivial, ?_⟩
  rintro s₃ ⟨⟩
  exact ⟨⟨rfl, hstems⟩, fun _ _ ↦ trivial⟩

/-- A training that raises, and its repetition: the frame is in two splits. -/
theorem dataset_sound_sample_fails :
    ¬ ∀ (requests : List (Request Unit)) (s : History UInt8 Unit),
      sampleHistory requests = some s → ∀ call ∈ s.calls, call.Sound sampleHost [] := by
  have hrun : (sampleHistory [.uploadVideo (samClips 0) true,
      samTraining .train (.trainRaises ()), samTraining .valid (.completes fun _ ↦ false)]).map
        (fun s ↦ s.calls.map fun call ↦
          (call.given.read (imagePath [] .train "Sam_A_frame_0.jpg"),
            call.given.read (imagePath [] .valid "Sam_A_frame_0.jpg"))) =
      some [(some (.image 0), none), (some (.image 0), some (.image 0))] := by
    decide
  obtain ⟨s, hs, hcalls⟩ := Option.map_eq_some_iff.mp hrun
  have hmem : ((some (.image 0), some (.image 0)) :
      Option (File UInt8) × Option (File UInt8)) ∈ s.calls.map fun call ↦
        (call.given.read (imagePath [] .train "Sam_A_frame_0.jpg"),
          call.given.read (imagePath [] .valid "Sam_A_frame_0.jpg")) := by
    rw [hcalls]
    exact List.mem_cons_of_mem _ (List.mem_singleton_self _)
  obtain ⟨call, hcall, hread⟩ := List.mem_map.mp hmem
  obtain ⟨htrain, hvalid⟩ := Prod.mk.inj hread
  intro h
  have hsplit := (h _ s hs call hcall).oneSplit _ _ _ _ _ htrain hvalid
  cases hsplit

end Courtside
