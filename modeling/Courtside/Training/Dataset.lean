import Courtside.Data.Disk
import Courtside.Data.Path
import Courtside.Data.Rounding
import Courtside.Detection.Video
import Courtside.Training.FileNames

/-!
# Extracting a dataset

The functions of `model_training_logic.py` that turn the uploaded videos into a
dataset: `extract_frames`, which writes the frames of one video with their labels,
and `process_videos`, which writes `data.yaml` and extracts every listed video.

The libraries they call are given by a `Host`: what a capture yields, what
`MediaInfo` reports, what the network detects.  The random choice of a split is a
function of the video and the frame, so a theorem about every such function is one
about every outcome of the draws.

Paths in the dataset are built from names that a listing of `UPLOAD_DIR` returned, so
these contain no separator and are joined as they are.  The folders of the splits are those
which `reset_dataset_dir` makes; where they are missing is the subject of `Folders`.
-/

universe u v

namespace Courtside

/-! ## Files -/

/-- The parts of a dataset. -/
inductive Split where
  | train
  | valid
  | test
deriving DecidableEq, Repr

/-- The directory of a split. -/
def Split.dir : Split → String
  | train => "train"
  | valid => "valid"
  | test => "test"

theorem Split.dir_injective : Function.Injective Split.dir := by
  intro split split' h
  cases split <;> cases split' <;> first | rfl | exact absurd h (by decide)

/-- `data.yaml`. -/
structure DataYaml where
  names : List String
  nc : ℕ
  train : String := "./train"
  val : String := "./valid"
  test : String := "./test"
deriving DecidableEq, Repr

/-- A line of a label file: the class and a box relative to the size of the frame. -/
structure LabelLine where
  personId : ℕ
  xCenter : ℚ
  yCenter : ℚ
  normWidth : ℚ
  normHeight : ℚ
deriving DecidableEq, Repr

/-- What the server keeps on disk: uploaded bytes, and the files of a dataset. -/
inductive File (Image : Type u) where
  | bytes (data : List UInt8)
  | image (frame : Image)
  | labels (lines : List LabelLine)
  | yaml (data : DataYaml)
deriving DecidableEq

/-- Writes uploaded bytes over the start of a file that was opened with `'wb'`. -/
def File.overwrite {Image : Type u} (data : List UInt8) : File Image → File Image
  | .bytes old => .bytes (data ++ old.drop data.length)
  | _ => .bytes data

/-- Bytes that cover what the file holds are all it holds afterwards. -/
theorem File.overwrite_eq {Image : Type u} {data : List UInt8} {file : File Image}
    (h : ∀ old, file = .bytes old → old.length ≤ data.length) :
    file.overwrite data = .bytes data := by
  cases file with
  | bytes old => rw [File.overwrite, List.drop_eq_nil_of_le (h old rfl), List.append_nil]
  | _ => rfl

abbrev ServerDisk (Image : Type u) := Disk Path (File Image)

/-- A track of a media file.  `rotation` is the number which the attribute of that
name denotes; an attribute that the track lacks is read as `None`. -/
structure MediaTrack where
  trackType : String
  rotation : Option ℚ
deriving DecidableEq, Repr

/-- The libraries the training code calls. -/
structure Host (Image : Type u) (Network : Type v) where
  /-- The frames that `cv2.VideoCapture` yields; none if it cannot be opened. -/
  capture : File Image → List Image
  /-- The tracks that `MediaInfo.parse` finds. -/
  tracks : File Image → List MediaTrack
  rotate90Clockwise : Image → Image
  rotate180 : Image → Image
  rotate90Counterclockwise : Image → Image
  /-- Height and width. -/
  shape : Image → ℕ × ℕ
  /-- The boxes of a network's first result. -/
  detect : Network → Image → List YoloBox
  /-- The network after a completed training. -/
  fit : Network → ServerDisk Image → Network

/-- What can go wrong in `train_model`. -/
inductive TrainError where
  | fileNotFound
  | typeError
  | overflowError
  | trainRaised
  | exportRaised
deriving DecidableEq, Repr

section Paths

variable (backendDir : Path)

/-- `UPLOAD_DIR`. -/
def uploadDir : Path := backendDir ++ ["uploads"]

/-- `DATASET_DIR`. -/
def datasetDir : Path := backendDir ++ ["dataset"]

/-- An entry of `UPLOAD_DIR`. -/
def uploadPath (name : String) : Path := uploadDir backendDir ++ [name]

/-- `dataset/data.yaml`, for a server started in the backend directory. -/
def yamlPath : Path := datasetDir backendDir ++ ["data.yaml"]

/-- `f"{DATASET_DIR}/{dataset_split}/images/{image_filename}"`. -/
def imagePath (split : Split) (name : String) : Path :=
  datasetDir backendDir ++ [split.dir, "images", name]

/-- `f"{DATASET_DIR}/{dataset_split}/labels/{label_filename}"`. -/
def labelPath (split : Split) (name : String) : Path :=
  datasetDir backendDir ++ [split.dir, "labels", name]

/-- A path of an image or of a label file. -/
def IsDatasetFile (p : Path) : Prop :=
  ∃ split name, p = imagePath backendDir split name ∨ p = labelPath backendDir split name

variable {backendDir}

theorem uploadPath_inj {name name' : String}
    (h : uploadPath backendDir name = uploadPath backendDir name') : name = name' := by
  simpa [uploadPath] using h

theorem imagePath_inj {split split' : Split} {name name' : String}
    (h : imagePath backendDir split name = imagePath backendDir split' name') :
    split = split' ∧ name = name' := by
  simp only [imagePath, List.append_cancel_left_eq, List.cons.injEq] at h
  exact ⟨Split.dir_injective h.1, h.2.2.1⟩

theorem labelPath_inj {split split' : Split} {name name' : String}
    (h : labelPath backendDir split name = labelPath backendDir split' name') :
    split = split' ∧ name = name' := by
  simp only [labelPath, List.append_cancel_left_eq, List.cons.injEq] at h
  exact ⟨Split.dir_injective h.1, h.2.2.1⟩

theorem imagePath_ne_labelPath {split split' : Split} {name name' : String} :
    imagePath backendDir split name ≠ labelPath backendDir split' name' := by
  simp [imagePath, labelPath]

theorem imagePath_ne_yamlPath {split : Split} {name : String} :
    imagePath backendDir split name ≠ yamlPath backendDir := by
  simp [imagePath, yamlPath]

theorem labelPath_ne_yamlPath {split : Split} {name : String} :
    labelPath backendDir split name ≠ yamlPath backendDir := by
  simp [labelPath, yamlPath]

/-- The uploads are no part of the dataset. -/
theorem not_inside_datasetDir_uploadPath {name : String} :
    ¬ Path.Inside (datasetDir backendDir) (uploadPath backendDir name) :=
  Path.not_inside_sibling (by decide) (Path.inside_append_cons (uploadDir backendDir) name [])

theorem uploadPath_ne_yamlPath {name : String} :
    uploadPath backendDir name ≠ yamlPath backendDir := by
  intro heq
  have hinside : Path.Inside (datasetDir backendDir) (uploadPath backendDir name) := by
    rw [heq]
    exact Path.inside_append_cons _ _ _
  exact not_inside_datasetDir_uploadPath hinside

/-- The dataset is no part of the uploads. -/
theorem not_inside_uploadDir {p : Path} (h : Path.Inside (datasetDir backendDir) p) :
    ¬ Path.Inside (uploadDir backendDir) p :=
  Path.not_inside_sibling (by decide) h

theorem IsDatasetFile.inside {p : Path} (h : IsDatasetFile backendDir p) :
    Path.Inside (datasetDir backendDir) p := by
  obtain ⟨split, name, rfl | rfl⟩ := h
  · exact Path.inside_append_cons _ _ _
  · exact Path.inside_append_cons _ _ _

theorem IsDatasetFile.ne_yamlPath {p : Path} (h : IsDatasetFile backendDir p) :
    p ≠ yamlPath backendDir := by
  obtain ⟨split, name, rfl | rfl⟩ := h
  · exact imagePath_ne_yamlPath
  · exact labelPath_ne_yamlPath

end Paths

/-! ## Frames and labels -/

/-- `int(value)`. -/
def wholePart (value : ℚ) : ℤ := value.num.tdiv value.den

/-- `int(float(text))`, for a text that denotes the number.  `float` rounds it, to infinity
if it is too large, of which there is no `int`. -/
def intOfFloat (number : ℚ) : Except TrainError ℤ :=
  match binary64.round number with
  | some value => .ok (wholePart value)
  | none => .error .overflowError

/-- `get_video_rotation`: the rotation of the first video track, as an integer.  `hasattr`
never fails here, so a track without a rotation is converted like the others, and
`float(None)` raises. -/
def getVideoRotation (tracks : List MediaTrack) : Except TrainError ℤ :=
  match tracks.find? fun track ↦ decide (track.trackType = "Video") with
  | none => .ok 0
  | some track =>
      match track.rotation with
      | some rotation => intOfFloat rotation
      | none => .error .typeError

example : getVideoRotation [⟨"Audio", none⟩, ⟨"Video", some (-180)⟩] = .ok (-180) := by
  decide +kernel

variable {Image : Type u} {Network : Type v} (host : Host Image Network)

/-- Rotates a frame if needed. -/
def rotateFrame (rotation : ℤ) (frame : Image) : Image :=
  if rotation = 90 then host.rotate90Clockwise frame
  else if rotation = 180 then host.rotate180 frame
  else if rotation = 270 then host.rotate90Counterclockwise frame
  else frame

/-- One detection, relative to the size of the frame. -/
def labelLine (personId height width : ℕ) (box : YoloBox) : LabelLine where
  personId := personId
  xCenter := (box.xyxy.xMin + box.xyxy.xMax) / 2 / width
  yCenter := (box.xyxy.yMin + box.xyxy.yMax) / 2 / height
  normWidth := (box.xyxy.xMax - box.xyxy.xMin) / width
  normHeight := (box.xyxy.yMax - box.xyxy.yMin) / height

/-- The lines written for the detections in a frame: one for each person. -/
def labelLines (network : Network) (personId : ℕ) (frame : Image) : List LabelLine :=
  ((host.detect network frame).filter fun box ↦ decide (box.cls = 0)).map
    (labelLine personId (host.shape frame).1 (host.shape frame).2)

variable (backendDir : Path)

/-- One turn of the loop in `extract_frames`: the frame is saved in its split, and a
label file beside it unless nothing at all was detected. -/
def writeFrame (network : Network) (choose : ℕ → Split) (personId : ℕ) (personName : String)
    (frameId : ℕ) (frame : Image) (disk : ServerDisk Image) : ServerDisk Image :=
  let disk := disk.save
    (imagePath backendDir (choose frameId) (frameFilename personName frameId ".jpg"))
    (.image frame)
  if 0 < (host.detect network frame).length then
    disk.save
      (labelPath backendDir (choose frameId) (frameFilename personName frameId ".txt"))
      (.labels (labelLines host network personId frame))
  else disk

/-- The loop of `extract_frames`. -/
def extractLoop (network : Network) (choose : ℕ → Split) (personId : ℕ) (personName : String)
    (rotation : ℤ) : ℕ → List Image → ServerDisk Image → ServerDisk Image
  | _, [], disk => disk
  | frameId, frame :: frames, disk =>
      extractLoop network choose personId personName rotation (frameId + 1) frames
        (writeFrame host backendDir network choose personId personName frameId
          (rotateFrame host rotation frame) disk)

/-- `extract_frames`. -/
def extractFrames (network : Network) (choose : ℕ → Split) (video : File Image) (personId : ℕ)
    (personName : String) (disk : ServerDisk Image) : Except TrainError Unit × ServerDisk Image :=
  match getVideoRotation (host.tracks video) with
  | .error e => (.error e, disk)
  | .ok rotation =>
      (.ok (), extractLoop host backendDir network choose personId personName rotation 0
        (host.capture video) disk)

/-- The loop of `process_videos`. -/
def extractAll (network : Network) (choose : ℕ → ℕ → Split) :
    ℕ → List String → ServerDisk Image → Except TrainError Unit × ServerDisk Image
  | _, [], disk => (.ok (), disk)
  | personId, video :: videos, disk =>
      match disk.read (uploadPath backendDir video) with
      | none => (.error .fileNotFound, disk)
      | some file =>
          match extractFrames host backendDir network (choose personId) file personId
              (stem video) disk with
          | (.error e, disk) => (.error e, disk)
          | (.ok (), disk) => extractAll network choose (personId + 1) videos disk

/-- `process_videos`, for a listing of the folder and one choice of splits. -/
def processVideos (network : Network) (listing : List String) (choose : ℕ → ℕ → Split)
    (disk : ServerDisk Image) : Except TrainError Unit × ServerDisk Image :=
  let videos := listing.filter isVideo
  let disk := disk.save (yamlPath backendDir)
    (.yaml { names := videos.map stem, nc := videos.length })
  extractAll host backendDir network choose 0 videos disk

end Courtside
