import Courtside.Training.Interleaving
import Courtside.Training.Soundness

/-!
# The dataset, by name

The files that a training is given depend on much that nobody decides: the order in which
`os.listdir` lists the uploads, which numbers the players, the splits that are drawn, and the
turns that the handlers of the uploads have taken.  What is meant is the `NamedDataset`: the
names of the players, and each frame with the boxes in it under these names.

Extraction into a fresh dataset gives what is meant (`Fresh.namedDataset_eq`), which is a
matter of the network and of what the uploads hold alone.  And uploads of different names hold
the same after every run of their handlers (`Uploading`).  So none of it matters
(`dataset_by_name`), except for whether an image is there to train or to validate.
-/

universe u v

namespace Courtside

variable {Image : Type u} {Network : Type v} (host : Host Image Network) (backendDir : Path)

/-! ## What is meant -/

/-- A box relative to the size of its frame, with the name of its class. -/
structure NamedBox where
  name : Option String
  xCenter : ℚ
  yCenter : ℚ
  normWidth : ℚ
  normHeight : ℚ
deriving DecidableEq, Repr

/-- An image with the boxes of its label file, if it has one. -/
structure NamedFrame (Image : Type u) where
  name : String
  image : Image
  boxes : Option (List NamedBox)

/-- The names of the classes, and the images of all splits. -/
@[ext]
structure NamedDataset (Image : Type u) where
  names : Set String
  frames : Set (NamedFrame Image)

/-- A line of a label file, for the names of `data.yaml`. -/
def LabelLine.named (names : List String) (line : LabelLine) : NamedBox where
  name := names[line.personId]?
  xCenter := line.xCenter
  yCenter := line.yCenter
  normWidth := line.normWidth
  normHeight := line.normHeight

/-- The names of `data.yaml`. -/
def classNames (disk : ServerDisk Image) : List String :=
  match disk.read (yamlPath backendDir) with
  | some (.yaml data) => data.names
  | _ => []

/-- The label file of an image. -/
def labelsBeside (disk : ServerDisk Image) (split : Split) (name : String) :
    Option (List LabelLine) :=
  match disk.read (labelPath backendDir split (name ++ ".txt")) with
  | some (.labels lines) => some lines
  | _ => none

/-- What the files of a dataset say. -/
def namedDataset (disk : ServerDisk Image) : NamedDataset Image where
  names := {name | name ∈ classNames backendDir disk}
  frames := {frame | ∃ split,
    disk.read (imagePath backendDir split (frame.name ++ ".jpg")) = some (.image frame.image) ∧
      frame.boxes = (labelsBeside backendDir disk split frame.name).map
        (List.map (LabelLine.named (classNames backendDir disk)))}

/-- The box of a player. -/
def namedBox (player : String) (height width : ℕ) (box : YoloBox) : NamedBox where
  name := some player
  xCenter := (box.xyxy.xMin + box.xyxy.xMax) / 2 / width
  yCenter := (box.xyxy.yMin + box.xyxy.yMax) / 2 / height
  normWidth := (box.xyxy.xMax - box.xyxy.xMin) / width
  normHeight := (box.xyxy.yMax - box.xyxy.yMin) / height

/-- A frame of the clip of a player, in which every person is that player.  There is no label
file only if nothing at all is detected. -/
def playerFrame (network : Network) (player : String) (frameId : ℕ) (image : Image) :
    NamedFrame Image where
  name := frameFilename player frameId ""
  image := image
  boxes :=
    if 0 < (host.detect network image).length then
      some (((host.detect network image).filter fun box ↦ decide (box.cls = 0)).map
        (namedBox player (host.shape image).1 (host.shape image).2))
    else none

/-- What extraction of some videos leaves on a disk. -/
def extractedDisk (network : Network) (choose : ℕ → ℕ → Split) (videos : List String)
    (disk : ServerDisk Image) : ServerDisk Image :=
  (disk.save (yamlPath backendDir)
    (.yaml { names := videos.map stem, nc := videos.length })).saveAll
      (datasetWrites host backendDir network choose disk 0 videos)

/-- What is meant: the players whose clips are there, and their frames. -/
def playersDataset (network : Network) (disk : ServerDisk Image) (videos : List String) :
    NamedDataset Image where
  names := {name | ∃ video ∈ videos, name = stem video}
  frames := {frame | ∃ video ∈ videos, ∃ (frameId : ℕ) (image : Image),
    (framesOf host backendDir disk video)[frameId]? = some image ∧
      frame = playerFrame host network (stem video) frameId image}

variable {host backendDir}

/-! ## One extraction -/

theorem frameFilename_eq (personName : String) (frameId : ℕ) (ext : String) :
    frameFilename personName frameId ext = frameFilename personName frameId "" ++ ext := by
  simp [frameFilename]

/-- The lines of a class read as the boxes of its player. -/
theorem named_labelLines {network : Network} {names : List String} {personId : ℕ}
    {player : String} (hname : names[personId]? = some player) (image : Image) :
    (labelLines host network personId image).map (LabelLine.named names) =
      ((host.detect network image).filter fun box ↦ decide (box.cls = 0)).map
        (namedBox player (host.shape image).1 (host.shape image).2) := by
  rw [labelLines, List.map_map]
  refine List.map_congr_left fun box _ ↦ ?_
  rw [Function.comp_apply, LabelLine.named, labelLine, hname]
  rfl

section Extraction

variable {network : Network} {choose : ℕ → ℕ → Split} {disk : ServerDisk Image}
  {videos : List String} {personId frameId : ℕ} {video : String} {image : Image}

theorem classNames_extractedDisk :
    classNames backendDir (extractedDisk host backendDir network choose videos disk) =
      videos.map stem := by
  rw [classNames, extractedDisk, read_yamlPath_saveAll]

/-- The label file beside the image of a frame is that of the frame. -/
theorem Fresh.labelsBeside_eq (hfresh : Fresh backendDir disk)
    (hstems : (videos.map stem).Nodup) (hvideo : videos[personId]? = some video)
    (hframe : (framesOf host backendDir disk video)[frameId]? = some image) :
    labelsBeside backendDir (extractedDisk host backendDir network choose videos disk)
        (choose personId frameId) (frameFilename (stem video) frameId "") =
      if 0 < (host.detect network image).length then
        some (labelLines host network personId image)
      else none := by
  rw [labelsBeside, ← frameFilename_eq, extractedDisk]
  split_ifs with hdetected
  · rw [read_of_mem_datasetWrites hstems (Courtside.mem_datasetWrites.mpr
      ⟨personId, video, frameId, image, hvideo, hframe, .inr ⟨hdetected, rfl⟩⟩)]
  · split
    · next lines hread =>
        -- a label file of that name would have been written for this very frame
        have hmem := hfresh.mem_datasetWrites ⟨_, _, .inr rfl⟩ hread
        obtain ⟨personId', video', frameId', image', hvideo', hframe', hwrite⟩ :=
          Courtside.mem_datasetWrites.mp hmem
        rcases hwrite with hwrite | ⟨hdetected', hwrite⟩
        · exact absurd (Prod.mk.inj hwrite).1.symm imagePath_ne_labelPath
        · obtain ⟨-, hname⟩ := labelPath_inj (Prod.mk.inj hwrite).1
          obtain ⟨rfl, rfl⟩ := frame_unique hstems hvideo hvideo' hname
          obtain rfl : video = video' := Option.some.inj (hvideo.symm.trans hvideo')
          obtain rfl : image = image' := Option.some.inj (hframe.symm.trans hframe')
          exact absurd hdetected' hdetected
    · rfl

/-- So its boxes are read as what is meant. -/
theorem Fresh.boxes_eq (hfresh : Fresh backendDir disk)
    (hstems : (videos.map stem).Nodup) (hvideo : videos[personId]? = some video)
    (hframe : (framesOf host backendDir disk video)[frameId]? = some image) :
    (labelsBeside backendDir (extractedDisk host backendDir network choose videos disk)
        (choose personId frameId) (frameFilename (stem video) frameId "")).map
          (List.map (LabelLine.named (videos.map stem))) =
      (playerFrame host network (stem video) frameId image).boxes := by
  rw [hfresh.labelsBeside_eq hstems hvideo hframe, playerFrame]
  split_ifs
  · rw [Option.map_some, named_labelLines ((stem_index hstems hvideo personId).mpr rfl)]
  · rfl

/-- **Extraction gives what is meant.**  Into a fresh dataset, from videos with distinct
stems, whatever their numbers and the draws. -/
theorem Fresh.namedDataset_eq (hfresh : Fresh backendDir disk) (hstems : (videos.map stem).Nodup) :
    namedDataset backendDir (extractedDisk host backendDir network choose videos disk) =
      playersDataset host backendDir network disk videos := by
  rw [namedDataset, classNames_extractedDisk]
  ext x
  · simp [playersDataset, eq_comm]
  · constructor
    · rintro ⟨split, himage, hboxes⟩
      have hmem := hfresh.mem_datasetWrites ⟨split, _, .inl rfl⟩ himage
      obtain ⟨personId, video, frameId, image, hvideo, hframe, rfl, hname, hfile⟩ :=
        image_of_mem_datasetWrites hmem
      rw [frameFilename_eq, String.append_left_inj] at hname
      obtain ⟨name, image', boxes⟩ := x
      obtain rfl : image' = image := File.image.inj hfile
      dsimp only at hname hboxes
      rw [hname, hfresh.boxes_eq hstems hvideo hframe] at hboxes
      refine ⟨video, List.mem_of_getElem? hvideo, frameId, image', hframe, ?_⟩
      rw [hname, hboxes]
      rfl
    · rintro ⟨video, hvideo, frameId, image, hframe, rfl⟩
      obtain ⟨personId, hvideo⟩ := List.mem_iff_getElem?.mp hvideo
      refine ⟨choose personId frameId, ?_, (hfresh.boxes_eq hstems hvideo hframe).symm⟩
      rw [playerFrame, ← frameFilename_eq]
      exact read_of_mem_datasetWrites hstems (Courtside.mem_datasetWrites.mpr
        ⟨personId, video, frameId, image, hvideo, hframe, .inl rfl⟩) _

/-- What is meant depends on the listed videos and on what the uploads hold, in no order. -/
theorem playersDataset_congr {disk' : ServerDisk Image} {videos' : List String}
    (hread : ∀ name, disk.read (uploadPath backendDir name) =
      disk'.read (uploadPath backendDir name))
    (hvideos : ∀ video, video ∈ videos ↔ video ∈ videos') :
    playersDataset host backendDir network disk videos =
      playersDataset host backendDir network disk' videos' := by
  have hframes : ∀ video, framesOf host backendDir disk video =
      framesOf host backendDir disk' video := by
    intro video
    rw [framesOf, framesOf, hread]
  simp only [playersDataset, hframes, hvideos]

end Extraction

/-! ## One training -/

section Train

variable {server server' : Server Image Network} {request request' : TrainRequest Network}

theorem extraction_ok_iff : (extraction host backendDir request server).1 = .ok () ↔
    ∀ video ∈ request.listing.filter isVideo, readable host backendDir server.disk video = true :=
  (processVideos_takeWhile host backendDir server.network request.listing request.choose
    server.disk).2

/-- A training is given what is meant. -/
theorem Fresh.namedDataset_extraction (hfresh : Fresh backendDir server.disk)
    (hstems : ((request.listing.filter isVideo).map stem).Nodup)
    (hok : (extraction host backendDir request server).1 = .ok ()) :
    namedDataset backendDir (extraction host backendDir request server).2 =
      playersDataset host backendDir server.network server.disk
        (request.listing.filter isVideo) := by
  obtain ⟨videos, -, hdisk, hall⟩ :=
    processVideos_eq host backendDir server.network request.listing request.choose server.disk
  obtain rfl := hall hok
  rw [extraction, hdisk]
  exact hfresh.namedDataset_eq hstems

/-- Two trainings on the same uploads, listed in whatever order. -/
theorem namedDataset_extraction_congr (hfresh : Fresh backendDir server.disk)
    (hfresh' : Fresh backendDir server'.disk) (hnetwork : server.network = server'.network)
    (hread : ∀ name, server.disk.read (uploadPath backendDir name) =
      server'.disk.read (uploadPath backendDir name))
    (hlisting : request.listing.Perm request'.listing)
    (hstems : ((request.listing.filter isVideo).map stem).Nodup) :
    ((extraction host backendDir request server).1 = .ok () ↔
        (extraction host backendDir request' server').1 = .ok ()) ∧
      ((extraction host backendDir request server).1 = .ok () →
        namedDataset backendDir (extraction host backendDir request server).2 =
          namedDataset backendDir (extraction host backendDir request' server').2) := by
  have hvideos : (request.listing.filter isVideo).Perm (request'.listing.filter isVideo) :=
    hlisting.filter _
  have hok : (extraction host backendDir request server).1 = .ok () ↔
      (extraction host backendDir request' server').1 = .ok () := by
    rw [extraction_ok_iff, extraction_ok_iff]
    refine forall_congr' fun video ↦ ?_
    rw [hvideos.mem_iff, readable, readable, hread]
  refine ⟨hok, fun h ↦ ?_⟩
  rw [hfresh.namedDataset_extraction hstems h,
    hfresh'.namedDataset_extraction ((hvideos.map stem).nodup_iff.mp hstems) (hok.mp h), hnetwork]
  exact playersDataset_congr hread fun _ ↦ hvideos.mem_iff

end Train

/-! ## Runs of uploads -/

variable (backendDir) (requests : ℕ → UploadRequest)

/-- A handler has opened its destination. -/
def Handlers.Started (s : Handlers Image Network) (r : ℕ) : Prop :=
  s.phase r ≠ .waiting ∧ s.phase r ≠ .raised

/-- What some handlers of uploads have done to a server: each has its own file, and the
dataset has been reset by the first that returned. -/
structure Uploading (actions : List (Action Network)) (server : Server Image Network)
    (s : Handlers Image Network) : Prop where
  started : ∀ r, s.Started r → .openFile r ∈ actions
  opened : ∀ r handle, s.phase r = .opened handle →
    s.server.disk.file? (destination backendDir requests r) = some (handle, .bytes [])
  returned : ∀ r, s.phase r = .returned → HoldsUpload backendDir requests s.server.disk r
  other : ∀ name, (∀ r, s.Started r → (requests r).newFilename ≠ name) →
    s.server.disk.read (uploadPath backendDir name) = server.disk.read (uploadPath backendDir name)
  fresh : (∃ r, s.phase r = .returned) → Fresh backendDir s.server.disk
  network : s.server.network = server.network

/-- Handlers that open their destinations are those of different players, and there is no
training. -/
def ApartUploads (actions : List (Action Network)) : Prop :=
  (∀ request, .train request ∉ actions) ∧
    ∀ r, .openFile r ∈ actions → Path.Plain (requests r).newFilename ∧
      ∀ r', .openFile r' ∈ actions →
        (requests r).newFilename = (requests r').newFilename → r = r'

variable {backendDir requests}

section Step

variable {actions : List (Action Network)} {server : Server Image Network}
  {s : Handlers Image Network} {r : ℕ}

theorem Handlers.started_of_opened {handle : ℕ} (h : s.phase r = .opened handle) :
    s.Started r := by
  simp [Handlers.Started, h]

theorem Handlers.started_of_returned (h : s.phase r = .returned) : s.Started r := by
  simp [Handlers.Started, h]

/-- Where another handler has moved, a handler has started or not as before. -/
theorem started_update {phase : Phase} {server' : Server Image Network} {i : ℕ} (hir : i ≠ r) :
    Handlers.Started { s with server := server', phase := Function.update s.phase r phase } i ↔
      s.Started i := by
  rw [Handlers.Started, Handlers.Started]
  dsimp only
  rw [Function.update_of_ne hir]

/-- An upload is in no dataset. -/
theorem ne_uploadPath_of_isDatasetFile {p : Path} (hp : IsDatasetFile backendDir p)
    (name : String) : p ≠ uploadPath backendDir name := by
  rintro rfl
  exact not_inside_datasetDir_uploadPath hp.inside

theorem Uploading.openFile (h : Uploading backendDir requests actions server s)
    (hapart : ApartUploads requests actions) (hmem : .openFile r ∈ actions)
    (hwaiting : s.phase r = .waiting) :
    Uploading backendDir requests actions server
      { s with
        server := (openUpload backendDir (requests r) s.server).2
        phase := Function.update s.phase r
          (.opened (openUpload backendDir (requests r) s.server).1) } := by
  obtain ⟨hplain, hnames⟩ := hapart.2 r hmem
  have hopen : ∀ p, (openUpload backendDir (requests r) s.server).2.disk.file? p =
      if p = uploadPath backendDir (requests r).newFilename then
        some ((openUpload backendDir (requests r) s.server).1, .bytes [])
      else s.server.disk.file? p := file?_openUpload hplain s.server
  -- the destinations of the others are other files
  have hother : ∀ i, s.Started i → destination backendDir requests i ≠
      uploadPath backendDir (requests r).newFilename := by
    intro i hi hpath
    obtain rfl := hnames i (h.started i hi) (uploadPath_inj hpath).symm
    exact hi.1 hwaiting
  refine ⟨fun i hi ↦ ?_, fun i handle hi ↦ ?_, fun i hi ↦ ?_, fun name hname ↦ ?_, ?_, h.network⟩
  · by_cases hir : i = r
    · exact hir ▸ hmem
    · exact h.started i ((started_update hir).mp hi)
  · rcases update_phase_cases hi with ⟨rfl, hhandle⟩ | ⟨-, hi⟩
    · cases hhandle
      exact (hopen _).trans (if_pos rfl)
    · refine (hopen _).trans ?_
      rw [if_neg (hother i (Handlers.started_of_opened hi))]
      exact h.opened i handle hi
  · obtain ⟨-, hi⟩ := eq_of_update_phase hi (by simp)
    rw [HoldsUpload, Disk.read]
    dsimp only
    rw [hopen, if_neg (hother i (Handlers.started_of_returned hi))]
    exact h.returned i hi
  · have hne : uploadPath backendDir name ≠ uploadPath backendDir (requests r).newFilename := by
      intro hpath
      refine hname r ?_ (uploadPath_inj hpath).symm
      exact Handlers.started_of_opened (Function.update_self _ _ _)
    rw [Disk.read]
    dsimp only
    rw [hopen, if_neg hne]
    refine h.other name fun i hi ↦ hname i ((started_update ?_).mpr hi)
    rintro rfl
    exact hi.1 hwaiting
  · rintro ⟨i, hi⟩ p hp
    obtain ⟨-, hi⟩ := eq_of_update_phase hi (by simp)
    rw [Disk.read]
    dsimp only
    rw [hopen, if_neg (ne_uploadPath_of_isDatasetFile hp _)]
    exact h.fresh ⟨i, hi⟩ p hp

theorem Uploading.openRaises (h : Uploading backendDir requests actions server s)
    (hwaiting : s.phase r = .waiting) :
    Uploading backendDir requests actions server
      { s with phase := Function.update s.phase r .raised } := by
  have hstarted : ∀ i, Handlers.Started { s with phase := Function.update s.phase r .raised } i ↔
      s.Started i := by
    intro i
    by_cases hir : i = r
    · subst hir
      simp [Handlers.Started, hwaiting]
    · exact started_update hir
  refine ⟨fun i hi ↦ h.started i ((hstarted i).mp hi), fun i handle hi ↦ ?_, fun i hi ↦ ?_,
    fun name hname ↦ h.other name fun i hi ↦ hname i ((hstarted i).mpr hi), ?_, h.network⟩
  · exact h.opened i handle (eq_of_update_phase hi (by simp)).2
  · exact h.returned i (eq_of_update_phase hi (by simp)).2
  · rintro ⟨i, hi⟩
    exact h.fresh ⟨i, (eq_of_update_phase hi (by simp)).2⟩

theorem Uploading.finish (h : Uploading backendDir requests actions server s)
    (hapart : ApartUploads requests actions) {handle : ℕ} (hopened : s.phase r = .opened handle) :
    Uploading backendDir requests actions server
      { s with
        server := (finishUpload backendDir handle (requests r) s.server).2
        phase := Function.update s.phase r .returned } := by
  have hrstarted := Handlers.started_of_opened hopened
  have hfile := h.opened r handle hopened
  have hother : ∀ i, s.Started i → i ≠ r → destination backendDir requests i ≠
      destination backendDir requests r := by
    intro i hi hir hpath
    exact hir ((hapart.2 i (h.started i hi)).2 r (h.started r hrstarted) (uploadPath_inj hpath))
  have hwritten := Disk.file?_modify_self (File.overwrite (requests r).data) hfile
  rw [File.overwrite_eq fun old hold ↦ File.bytes.inj hold ▸ Nat.zero_le _] at hwritten
  refine ⟨fun i hi ↦ ?_, fun i handle' hi ↦ ?_, fun i hi ↦ ?_, fun name hname ↦ ?_, ?_, h.network⟩
  · by_cases hir : i = r
    · exact hir ▸ h.started r hrstarted
    · exact h.started i ((started_update hir).mp hi)
  · obtain ⟨hir, hi⟩ := eq_of_update_phase hi (by simp)
    have hi' := Handlers.started_of_opened hi
    dsimp only
    rw [destination, file?_finishUpload, ← destination,
      Disk.file?_modify_of_ne _ hfile (hother i hi' hir)]
    exact h.opened i handle' hi
  · rw [HoldsUpload, Disk.read, destination]
    dsimp only
    rw [file?_finishUpload, ← destination]
    rcases update_phase_cases hi with ⟨rfl, -⟩ | ⟨hir, hi⟩
    · rw [hwritten]
      rfl
    · have hi' := Handlers.started_of_returned hi
      rw [Disk.file?_modify_of_ne _ hfile (hother i hi' hir)]
      exact h.returned i hi
  · have hname' : ∀ i, s.Started i → (requests i).newFilename ≠ name := by
      intro i hi
      refine hname i ?_
      by_cases hir : i = r
      · subst hir
        exact Handlers.started_of_returned (Function.update_self _ _ _)
      · exact (started_update hir).mpr hi
    have hne : uploadPath backendDir name ≠ destination backendDir requests r :=
      fun hpath ↦ hname' r hrstarted (uploadPath_inj hpath).symm
    rw [Disk.read]
    dsimp only
    rw [file?_finishUpload, Disk.file?_modify_of_ne _ hfile hne]
    exact h.other name hname'
  · exact fun _ ↦ (cleared_resetDatasetDir _).fresh

variable (host) in
/-- What one action of an upload preserves. -/
theorem Uploading.step (h : Uploading backendDir requests actions server s)
    (hapart : ApartUploads requests actions) {a : Action Network} (ha : a ∈ actions)
    {s' : Handlers Image Network} (hstep : stepHandlers host backendDir requests s a = some s') :
    Uploading backendDir requests actions server s' := by
  cases a with
  | openFile r =>
      simp only [stepHandlers] at hstep
      split at hstep
      · next hwaiting =>
          cases hstep
          exact h.openFile hapart ha hwaiting
      · cases hstep
  | openRaises r =>
      simp only [stepHandlers] at hstep
      split at hstep
      · next hwaiting =>
          cases hstep
          exact h.openRaises hwaiting
      · cases hstep
  | finish r =>
      simp only [stepHandlers] at hstep
      split at hstep
      · next handle hopened =>
          cases hstep
          exact h.finish hapart hopened
      · cases hstep
  | train request => exact absurd ha (hapart.1 request)

end Step

/-! ## All runs -/

/-- What a run of uploads does to the server. -/
theorem uploading_of_exec {actions : List (Action Network)} (hapart : ApartUploads requests actions)
    (server : Server Image Network) {s : Handlers Image Network}
    (hexec : exec (stepHandlers host backendDir requests) (.start server) actions = some s) :
    Uploading backendDir requests actions server s := by
  have hinit : Uploading backendDir requests actions server (.start server) :=
    ⟨fun _ hr ↦ absurd rfl hr.1, fun _ _ hr ↦ (nomatch hr), fun _ hr ↦ (nomatch hr),
      fun _ _ ↦ rfl, fun ⟨_, hr⟩ ↦ (nomatch hr), rfl⟩
  have hall : AllSteps (stepHandlers host backendDir requests) (fun _ a ↦ a ∈ actions)
      (.start server) actions := .of_forall_mem (fun _ ha _ ↦ ha) _
  exact exec_state_invariant hinit (fun _ _ _ h ha hs ↦ h.step host hapart ha hs) hall hexec

/-- Once the same handlers have started and returned, the uploads are the same. -/
theorem Uploading.read_eq {actions actions' : List (Action Network)}
    {server : Server Image Network} {s s' : Handlers Image Network}
    (h : Uploading backendDir requests actions server s)
    (h' : Uploading backendDir requests actions' server s')
    (hsame : ∀ r, .openFile r ∈ actions ↔ .openFile r ∈ actions')
    (hdone : ∀ r, .openFile r ∈ actions → s.phase r = .returned)
    (hdone' : ∀ r, .openFile r ∈ actions' → s'.phase r = .returned) (name : String) :
    s.server.disk.read (uploadPath backendDir name) =
      s'.server.disk.read (uploadPath backendDir name) := by
  by_cases hname : ∃ r, .openFile r ∈ actions ∧ (requests r).newFilename = name
  · obtain ⟨r, hr, rfl⟩ := hname
    exact (h.returned r (hdone r hr)).trans (h'.returned r (hdone' r ((hsame r).mp hr))).symm
  · rw [h.other name fun r hr heq ↦ hname ⟨r, h.started r hr, heq⟩,
      h'.other name fun r hr heq ↦ hname ⟨r, (hsame r).mpr (h'.started r hr), heq⟩]

/-- **The dataset, by name.**  Two servers that were the same have taken uploads of different
players in whatever turns, until the same handlers had started and all of them had returned.
Then a training on the one and a training on the other, whatever the order in which each lists
the uploads and the splits that it draws, both raise before `yolo_model.train`, or are given
datasets that say the same: the same players, and the same frames with the same players in the
same places. -/
theorem dataset_by_name (server : Server Image Network) {actions actions' : List (Action Network)}
    (hapart : ApartUploads requests actions) (hapart' : ApartUploads requests actions')
    {s s' : Handlers Image Network}
    (hexec : exec (stepHandlers host backendDir requests) (.start server) actions = some s)
    (hexec' : exec (stepHandlers host backendDir requests) (.start server) actions' = some s')
    (hsome : ∃ r, .openFile r ∈ actions)
    (hsame : ∀ r, .openFile r ∈ actions ↔ .openFile r ∈ actions')
    (hdone : ∀ r, .openFile r ∈ actions → s.phase r = .returned)
    (hdone' : ∀ r, .openFile r ∈ actions' → s'.phase r = .returned)
    {request request' : TrainRequest Network}
    (hlisting : request.listing.Perm (listUploads backendDir s.server.disk))
    (hlisting' : request'.listing.Perm (listUploads backendDir s'.server.disk))
    (hstems : ((request.listing.filter isVideo).map stem).Nodup) :
    ((extraction host backendDir request s.server).1 = .ok () ↔
        (extraction host backendDir request' s'.server).1 = .ok ()) ∧
      ((extraction host backendDir request s.server).1 = .ok () →
        namedDataset backendDir (extraction host backendDir request s.server).2 =
          namedDataset backendDir (extraction host backendDir request' s'.server).2) := by
  have h := uploading_of_exec hapart server hexec
  have h' := uploading_of_exec hapart' server hexec'
  have hread := h.read_eq h' hsame hdone hdone'
  obtain ⟨r, hr⟩ := hsome
  exact namedDataset_extraction_congr (h.fresh ⟨r, hdone r hr⟩)
    (h'.fresh ⟨r, hdone' r ((hsame r).mp hr)⟩) (h.network.trans h'.network.symm) hread
    (hlisting.trans ((perm_listUploads hread).trans hlisting'.symm)) hstems

/-! ## A sample -/

/-- The clips of two players. -/
def sampleClips : ℕ → UploadRequest
  | 0 => samClips 7
  | _ => { filename := "clip.mov", data := [8], playerName := "Ann", playerTeam := "B" }

/-- A training on them, with one split for all frames. -/
def sampleTraining (listing : List String) (split : Split) : TrainRequest Unit where
  listing := listing
  choose _ _ := split
  outcome := .exportRaises

/-- The handlers take turns in one run and none in the other, and the trainings number the
players differently and write to different splits. -/
theorem dataset_by_name_sample :
    ∃ s s', exec (stepHandlers sampleHost [] sampleClips) (.start ⟨Disk.empty (.bytes []), ()⟩)
        [.openFile 0, .openFile 1, .finish 1, .finish 0] = some s ∧
      exec (stepHandlers sampleHost [] sampleClips) (.start ⟨Disk.empty (.bytes []), ()⟩)
        [.openFile 1, .finish 1, .openFile 0, .finish 0] = some s' ∧
      (extraction sampleHost [] (sampleTraining ["Sam_A.mov", "Ann_B.mov"] .train)
        s.server).1 = .ok () ∧
      namedDataset [] (extraction sampleHost []
          (sampleTraining ["Sam_A.mov", "Ann_B.mov"] .train) s.server).2 =
        namedDataset [] (extraction sampleHost []
          (sampleTraining ["Ann_B.mov", "Sam_A.mov"] .valid) s'.server).2 := by
  have hapart : ∀ actions : List (Action Unit), (∀ request, .train request ∉ actions) →
      (∀ r, .openFile r ∈ actions → r = 0 ∨ r = 1) → ApartUploads sampleClips actions := by
    intro actions htrain hopen
    refine ⟨htrain, fun r hr ↦ ?_⟩
    rcases hopen r hr with rfl | rfl
    · refine ⟨by decide, fun r' hr' heq ↦ ?_⟩
      rcases hopen r' hr' with rfl | rfl
      · rfl
      · exact absurd heq (by decide)
    · refine ⟨by decide, fun r' hr' heq ↦ ?_⟩
      rcases hopen r' hr' with rfl | rfl
      · exact absurd heq (by decide)
      · rfl
  have hrun : (exec (stepHandlers sampleHost [] sampleClips)
      (.start ⟨Disk.empty (.bytes []), ()⟩)
      [.openFile 0, .openFile 1, .finish 1, .finish 0]).map (fun s ↦
        (s.phase 0, s.phase 1, listUploads [] s.server.disk,
          (extraction sampleHost [] (sampleTraining ["Sam_A.mov", "Ann_B.mov"] .train)
            s.server).1.isOk)) =
      some (.returned, .returned, ["Sam_A.mov", "Ann_B.mov"], true) := by
    decide
  have hrun' : (exec (stepHandlers sampleHost [] sampleClips)
      (.start ⟨Disk.empty (.bytes []), ()⟩)
      [.openFile 1, .finish 1, .openFile 0, .finish 0]).map (fun s ↦
        (s.phase 0, s.phase 1, listUploads [] s.server.disk)) =
      some (.returned, .returned, ["Ann_B.mov", "Sam_A.mov"]) := by
    decide
  obtain ⟨s, hs, hobserved⟩ := Option.map_eq_some_iff.mp hrun
  obtain ⟨s', hs', hobserved'⟩ := Option.map_eq_some_iff.mp hrun'
  simp only [Prod.mk.injEq] at hobserved hobserved'
  obtain ⟨hsam, hann, huploads, hisOk⟩ := hobserved
  obtain ⟨hsam', hann', huploads'⟩ := hobserved'
  have hok : (extraction sampleHost [] (sampleTraining ["Sam_A.mov", "Ann_B.mov"] .train)
      s.server).1 = .ok () := by
    cases houtcome : (extraction sampleHost []
        (sampleTraining ["Sam_A.mov", "Ann_B.mov"] .train) s.server).1 with
    | ok _ => rfl
    | error e => rw [houtcome] at hisOk; cases hisOk
  refine ⟨s, s', hs, hs', hok, ?_⟩
  refine (dataset_by_name ⟨Disk.empty (.bytes []), ()⟩ (hapart _ (by simp) (by simp))
    (hapart _ (by simp) (by simp [or_comm])) hs hs' ⟨0, by simp⟩ (by simp [or_comm])
    (fun r hr ↦ ?_) (fun r hr ↦ ?_) ?_ ?_ (by decide)).2 hok
  · obtain rfl | rfl : r = 0 ∨ r = 1 := by simpa using hr
    · exact hsam
    · exact hann
  · obtain rfl | rfl : r = 1 ∨ r = 0 := by simpa using hr
    · exact hann'
    · exact hsam'
  · rw [huploads]
    rfl
  · rw [huploads']
    rfl

end Courtside
