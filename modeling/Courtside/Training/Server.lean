import Courtside.Training.Extraction

/-!
# The training routes

`upload_video`, `test_model` and `train_model` of `model_training_routes.py`, over a
server that has a disk and the network `yolo_model`.

Of the three only `upload_video` resets the dataset, and only a `train_model` that
completes clears the uploads.  `upload_video` opens its destination before it awaits
the body, so it is given in two halves, `openUpload` and `finishUpload`, with the open
handle between them; `test_model` waits in the same place, and `train_model` does not
wait at all.  Every file name that a client sends is resolved as the operating system
would resolve it.
-/

universe u v

namespace Courtside

variable {Image : Type u} {Network : Type v} (host : Host Image Network) (backendDir : Path)

/-- The state of the server. -/
structure Server (Image : Type u) (Network : Type v) where
  disk : ServerDisk Image
  /-- `yolo_model`. -/
  network : Network

/-! ## Directories -/

/-- `os.listdir(UPLOAD_DIR)`, in some order. -/
def listUploads (disk : ServerDisk Image) : List String :=
  disk.paths.filterMap fun p ↦ p.getLast?.filter fun name ↦ decide (p = uploadPath backendDir name)

/-- Removes what is below a directory, except where that fails. -/
def clearDir (dir : Path) (stuck : Path → Bool) (disk : ServerDisk Image) : ServerDisk Image :=
  disk.remove fun p ↦ decide (Path.Inside dir p) && !stuck p

/-- `reset_dataset_dir`. -/
def resetDatasetDir (disk : ServerDisk Image) : ServerDisk Image :=
  clearDir (datasetDir backendDir) (fun _ ↦ false) disk

/-! ## `upload_video` -/

/-- The parameters of `upload_video`. -/
structure UploadRequest where
  filename : String
  data : List UInt8
  playerName : String := ""
  playerTeam : String := ""

/-- The name under which the upload is stored, and which is returned. -/
def UploadRequest.newFilename (request : UploadRequest) : String :=
  Courtside.newFilename request.playerName request.playerTeam (splitext request.filename).2

/-- `upload_video` up to its `await`: the destination is open, and empty. -/
def openUpload (request : UploadRequest) (server : Server Image Network) :
    ℕ × Server Image Network :=
  let path := Path.join (uploadDir backendDir) request.newFilename
  let (handle, disk) := server.disk.openTrunc path (.bytes [])
  (handle, { server with disk })

/-- `upload_video` from its `await` on. -/
def finishUpload (handle : ℕ) (request : UploadRequest) (server : Server Image Network) :
    String × Server Image Network :=
  let disk := server.disk.modify handle (File.overwrite request.data)
  (request.newFilename, { server with disk := resetDatasetDir backendDir disk })

/-- `upload_video`, undisturbed. -/
def uploadVideo (request : UploadRequest) (server : Server Image Network) :
    String × Server Image Network :=
  let (handle, server) := openUpload backendDir request server
  finishUpload backendDir handle request server

/-! ## `test_model` -/

/-- The file of a `test_model` request. -/
structure TestRequest where
  filename : String
  data : List UInt8

/-- `test_model_logic`: the persons in an image, if it can be read. -/
def testModelLogic (network : Network) (file : File Image) : Option (List YoloBox) :=
  (host.capture file).head?.map fun image ↦
    (host.detect network image).filter fun box ↦ decide (box.cls = 0)

/-- `test_model`. -/
def testModel (request : TestRequest) (server : Server Image Network) :
    Option (List YoloBox) × Server Image Network :=
  let file := File.bytes request.data
  (testModelLogic host server.network file,
    { server with
      disk := server.disk.save (Path.join (uploadDir backendDir) request.filename) file })

/-! ## `train_model` -/

/-- How far `train_model_logic` gets: a training that raises may leave any network
behind, and one that completes may fail to delete some uploads. -/
inductive TrainOutcome (Network : Type v) where
  | trainRaises (network : Network)
  | exportRaises
  | completes (stuck : Path → Bool)

/-- What `train_model` depends on: the order in which the uploads are listed, the
random choices, and the outcome. -/
structure TrainRequest (Network : Type v) where
  listing : List String
  /-- The split drawn for a frame of a video, both given by their numbers. -/
  choose : ℕ → ℕ → Split
  outcome : TrainOutcome Network

/-- `train_model_logic`. -/
def trainModelLogic (outcome : TrainOutcome Network) (server : Server Image Network) :
    Except TrainError Unit × Server Image Network :=
  match outcome with
  | .trainRaises network => (.error .trainRaised, { server with network })
  | .exportRaises =>
      (.error .exportRaised, { server with network := host.fit server.network server.disk })
  | .completes stuck =>
      (.ok (),
        { disk := clearDir (uploadDir backendDir) stuck server.disk
          network := host.fit server.network server.disk })

/-- `process_videos(UPLOAD_DIR)` in a `train_model` request. -/
def extraction (request : TrainRequest Network) (server : Server Image Network) :
    Except TrainError Unit × ServerDisk Image :=
  processVideos host backendDir server.network request.listing request.choose server.disk

/-- `train_model`. -/
def trainModel (request : TrainRequest Network) (server : Server Image Network) :
    Except TrainError Unit × Server Image Network :=
  match extraction host backendDir request server with
  | (.error e, disk) => (.error e, { server with disk })
  | (.ok (), disk) => trainModelLogic host backendDir request.outcome { server with disk }

/-- The request gets as far as deleting the file at a path. -/
def Deletes (request : TrainRequest Network) (server : Server Image Network) (p : Path) : Prop :=
  (extraction host backendDir request server).1 = .ok () ∧
    ∃ stuck, request.outcome = .completes stuck ∧ stuck p = false

variable {host backendDir}

/-! ## Directories, afterwards -/

theorem mem_listUploads {disk : ServerDisk Image} {name : String} :
    name ∈ listUploads backendDir disk ↔
      ∃ file, disk.read (uploadPath backendDir name) = some file := by
  rw [← Disk.mem_paths_iff, listUploads, List.mem_filterMap]
  constructor
  · rintro ⟨p, hp, hname⟩
    obtain ⟨-, heq⟩ := Option.filter_eq_some_iff.mp hname
    rwa [← of_decide_eq_true heq]
  · intro hp
    refine ⟨_, hp, Option.filter_eq_some_iff.mpr ⟨?_, decide_eq_true rfl⟩⟩
    rw [uploadPath, List.getLast?_concat]

theorem nodup_listUploads (disk : ServerDisk Image) : (listUploads backendDir disk).Nodup := by
  refine List.Nodup.filterMap (fun p q name hp hq ↦ ?_) disk.entries.nodup
  obtain ⟨-, heqp⟩ := Option.filter_eq_some_iff.mp hp
  obtain ⟨-, heqq⟩ := Option.filter_eq_some_iff.mp hq
  exact (of_decide_eq_true heqp).trans (of_decide_eq_true heqq).symm

/-- A listing of one disk is a listing of every other with the same uploads. -/
theorem perm_listUploads {disk disk' : ServerDisk Image}
    (h : ∀ name, disk.read (uploadPath backendDir name) =
      disk'.read (uploadPath backendDir name)) :
    (listUploads backendDir disk).Perm (listUploads backendDir disk') := by
  refine (List.perm_ext_iff_of_nodup (nodup_listUploads disk) (nodup_listUploads disk')).mpr
    fun name ↦ ?_
  rw [mem_listUploads, mem_listUploads, h]

theorem file?_clearDir_of_inside {dir p : Path} {stuck : Path → Bool} (hp : Path.Inside dir p)
    (disk : ServerDisk Image) :
    (clearDir dir stuck disk).file? p = if stuck p then disk.file? p else none := by
  rw [clearDir, Disk.file?_remove]
  cases stuck p <;> simp [hp]

theorem file?_clearDir_of_not_inside {dir p : Path} {stuck : Path → Bool}
    (hp : ¬ Path.Inside dir p) (disk : ServerDisk Image) :
    (clearDir dir stuck disk).file? p = disk.file? p := by
  rw [clearDir, Disk.file?_remove]
  simp [hp]

/-! ## What the routes do to the uploads -/

/-- The name of an upload, if it contains no separator, is that of a file. -/
theorem plain_newFilename {request : UploadRequest} (h : '/' ∉ request.newFilename.toList) :
    Path.Plain request.newFilename := by
  have hmem : '_' ∈ request.newFilename.toList := by
    simp [UploadRequest.newFilename, newFilename]
  refine ⟨h, ?_, ?_, ?_⟩ <;> intro heq <;> rw [heq] at hmem <;> exact absurd hmem (by decide)

/-- A separator in the name of an upload is one in the player's name or team. -/
theorem plain_newFilename_of_notMem {request : UploadRequest}
    (hname : '/' ∉ request.playerName.toList) (hteam : '/' ∉ request.playerTeam.toList) :
    Path.Plain request.newFilename := by
  refine plain_newFilename fun hmem ↦ ?_
  rw [UploadRequest.newFilename, newFilename] at hmem
  simp only [String.toList_append, List.mem_append] at hmem
  rcases hmem with ((hmem | hmem) | hmem) | hmem
  · exact hname hmem
  · exact absurd hmem (by decide)
  · exact hteam hmem
  · rcases splitext_ext request.filename with hext | ⟨tail, hext, -, hsep⟩
    · rw [hext] at hmem
      exact absurd hmem (by decide)
    · rw [hext] at hmem
      exact hsep ((List.mem_cons.mp hmem).resolve_left (by decide))

/-- A name without a separator is opened in `UPLOAD_DIR`, and nothing else changes. -/
theorem file?_openUpload {request : UploadRequest} (hplain : Path.Plain request.newFilename)
    (server : Server Image Network) (p : Path) :
    (openUpload backendDir request server).2.disk.file? p =
      if p = uploadPath backendDir request.newFilename then
        some ((openUpload backendDir request server).1, .bytes [])
      else server.disk.file? p := by
  have hjoin := Path.join_plain hplain (uploadDir backendDir)
  rw [openUpload]
  dsimp only
  rw [Disk.file?_openTrunc, hjoin]
  rfl

/-- An upload over a file that exists is handed that file. -/
theorem fst_openUpload {request : UploadRequest} (hplain : Path.Plain request.newFilename)
    {server : Server Image Network} {handle : ℕ} {file : File Image}
    (h : server.disk.file? (uploadPath backendDir request.newFilename) = some (handle, file)) :
    (openUpload backendDir request server).1 = handle := by
  have hjoin := Path.join_plain hplain (uploadDir backendDir)
  rw [openUpload]
  dsimp only
  rw [hjoin]
  exact Disk.fst_openTrunc_of_file? _ h

/-- Finishing an upload shows in the uploads as the write does. -/
theorem file?_finishUpload {handle : ℕ} {request : UploadRequest}
    (server : Server Image Network) (name : String) :
    (finishUpload backendDir handle request server).2.disk.file? (uploadPath backendDir name) =
      (server.disk.modify handle (File.overwrite request.data)).file?
        (uploadPath backendDir name) :=
  file?_clearDir_of_not_inside not_inside_datasetDir_uploadPath _

/-- **An upload, undisturbed.**  Its bytes are in `UPLOAD_DIR` under the name that is
returned, and the other uploads are as they were. -/
theorem read_uploadVideo {request : UploadRequest} (hplain : Path.Plain request.newFilename)
    (server : Server Image Network) (name : String) :
    (uploadVideo backendDir request server).2.disk.read (uploadPath backendDir name) =
      if name = request.newFilename then some (.bytes request.data)
      else server.disk.read (uploadPath backendDir name) := by
  have hopened : (openUpload backendDir request server).2.disk.file?
      (uploadPath backendDir request.newFilename) =
        some ((openUpload backendDir request server).1, .bytes []) := by
    rw [file?_openUpload hplain, if_pos rfl]
  rw [uploadVideo, Disk.read]
  dsimp only
  rw [file?_finishUpload]
  by_cases hname : name = request.newFilename
  · have hcover : File.overwrite request.data (.bytes [] : File Image) = .bytes request.data :=
      File.overwrite_eq fun old hold ↦ File.bytes.inj hold ▸ Nat.zero_le _
    rw [hname, Disk.file?_modify_self _ hopened, if_pos rfl, hcover]
    rfl
  · have hpath : uploadPath backendDir name ≠ uploadPath backendDir request.newFilename :=
      fun hpath ↦ hname (uploadPath_inj hpath)
    rw [Disk.file?_modify_of_ne _ hopened hpath, file?_openUpload hplain, if_neg hpath,
      if_neg hname, ← Disk.read]

variable (host backendDir) in
/-- `train_model` deletes an upload, or leaves it as it is. -/
theorem file?_trainModel_uploadPath (request : TrainRequest Network)
    (server : Server Image Network) (name : String) :
    (Deletes host backendDir request server (uploadPath backendDir name) ∧
        (trainModel host backendDir request server).2.disk.file? (uploadPath backendDir name) =
          none) ∨
      (¬ Deletes host backendDir request server (uploadPath backendDir name) ∧
        (trainModel host backendDir request server).2.disk.file? (uploadPath backendDir name) =
          server.disk.file? (uploadPath backendDir name)) := by
  have hkept : (extraction host backendDir request server).2.file? (uploadPath backendDir name) =
      server.disk.file? (uploadPath backendDir name) :=
    file?_processVideos not_inside_datasetDir_uploadPath _
  rw [trainModel, Deletes]
  rcases hextract : extraction host backendDir request server with ⟨e | _, disk⟩
  · rw [hextract] at hkept
    exact .inr ⟨(fun h ↦ by cases h.1), hkept⟩
  rw [hextract] at hkept
  cases houtcome : request.outcome with
  | trainRaises network => exact .inr ⟨(fun ⟨_, _, h, _⟩ ↦ by cases h), hkept⟩
  | exportRaises => exact .inr ⟨(fun ⟨_, _, h, _⟩ ↦ by cases h), hkept⟩
  | completes stuck =>
      have hcleared : (trainModelLogic host backendDir (.completes stuck)
          { server with disk }).2.disk.file? (uploadPath backendDir name) =
            if stuck (uploadPath backendDir name) then disk.file? (uploadPath backendDir name)
            else none :=
        file?_clearDir_of_inside (Path.inside_append_cons _ _ _) disk
      cases hstuck : stuck (uploadPath backendDir name) with
      | false => exact .inl ⟨⟨rfl, stuck, rfl, hstuck⟩, by rw [hcleared, hstuck]; rfl⟩
      | true =>
          refine .inr ⟨?_, by rw [hcleared, hstuck, if_pos rfl, hkept]⟩
          rintro ⟨-, stuck', heq, hfree⟩
          cases heq
          rw [hstuck] at hfree
          cases hfree

/-- What `train_model` leaves in the dataset is what it has extracted. -/
theorem file?_trainModel_of_inside {request : TrainRequest Network} {p : Path}
    (hp : Path.Inside (datasetDir backendDir) p) (server : Server Image Network) :
    (trainModel host backendDir request server).2.disk.file? p =
      (extraction host backendDir request server).2.file? p := by
  rw [trainModel]
  rcases extraction host backendDir request server with ⟨e | _, disk⟩
  · rfl
  cases houtcome : request.outcome with
  | trainRaises network => rfl
  | exportRaises => rfl
  | completes stuck => exact file?_clearDir_of_not_inside (not_inside_uploadDir hp) disk

/-! ## Samples -/

/-- A host in which every byte of a video is a frame, with one person in it. -/
def sampleHost : Host UInt8 Unit where
  capture
    | .bytes data => data
    | _ => []
  tracks _ := []
  rotate90Clockwise := id
  rotate180 := id
  rotate90Counterclockwise := id
  shape _ := (2, 4)
  detect _ _ := [{ cls := 0, xyxy := ⟨0, 0, 2, 2⟩, conf := 1 }]
  fit network _ := network

/-- The same, but with networks: an untrained one sees the person in a frame, and a trained
one, which knows its players by the list in `data.yaml`, sees the last of them. -/
def namingHost : Host UInt8 (List String) where
  capture := sampleHost.capture
  tracks := sampleHost.tracks
  rotate90Clockwise := sampleHost.rotate90Clockwise
  rotate180 := sampleHost.rotate180
  rotate90Counterclockwise := sampleHost.rotate90Counterclockwise
  shape := sampleHost.shape
  detect names _ := [{ cls := (names.length - 1 : ℕ), xyxy := ⟨0, 0, 2, 2⟩, conf := 1 }]
  fit names disk :=
    match disk.read (yamlPath []) with
    | some (.yaml data) => data.names
    | _ => names

/-- Clips of one player, each of one byte. -/
def samClips (r : ℕ) : UploadRequest where
  filename := "clip.mov"
  data := [r.toUInt8]
  playerName := "Sam"
  playerTeam := "A"

end Courtside
