import Courtside.Training.Folders

/-!
# Videos without rotation metadata

`get_video_rotation` means to return the rotation of the first video track that has one, and
`0` if none has.  But the attribute is always there, with the value `None` where the track
lacks it, so the function takes the first video track at its word and raises on that value.
It also raises on a rotation that is beyond every float.

The exception ends `process_videos`, with the videos that follow unhandled.  So extraction
handles a folder as it is meant to only if the first video track of every listed video
has a rotation, or there is no video track.  What else it needs are the folders for what it
writes (`processVideos_rotation_iff`).
-/

universe u v

namespace Courtside

/-! ## Rotations -/

def MediaTrack.isVideoTrack (track : MediaTrack) : Bool := decide (track.trackType = "Video")

/-- The rotation of the first video track that has one, read as a float and truncated to an
integer; `0` if none has, and nothing if there is no such float. -/
def firstRotation (tracks : List MediaTrack) : Option ℤ :=
  match (tracks.filter MediaTrack.isVideoTrack).findSome? MediaTrack.rotation with
  | some rotation => (binary64.round rotation).map wholePart
  | none => some 0

/-- The first video track, if there is one, has a rotation that is some float. -/
def FirstTrackRotates (tracks : List MediaTrack) : Prop :=
  ∀ track ∈ tracks.find? MediaTrack.isVideoTrack,
    ∃ rotation, track.rotation = some rotation ∧ |rotation| < 2 ^ 1024 - 2 ^ 970

theorem getVideoRotation_eq (tracks : List MediaTrack) :
    getVideoRotation tracks =
      match tracks.find? MediaTrack.isVideoTrack with
      | none => .ok 0
      | some track =>
          match track.rotation with
          | some rotation => intOfFloat rotation
          | none => .error .typeError := rfl

/-- The rotation of the first video track, if it has one. -/
theorem getVideoRotation_of_rotation {tracks : List MediaTrack} {track : MediaTrack} {rotation : ℚ}
    (h : tracks.find? MediaTrack.isVideoTrack = some track)
    (hrotation : track.rotation = some rotation) :
    getVideoRotation tracks = intOfFloat rotation := by
  rw [getVideoRotation_eq, h]
  simp only [hrotation]

/-- `float(None)` otherwise. -/
theorem getVideoRotation_of_none {tracks : List MediaTrack} {track : MediaTrack}
    (h : tracks.find? MediaTrack.isVideoTrack = some track) (hrotation : track.rotation = none) :
    getVideoRotation tracks = .error .typeError := by
  rw [getVideoRotation_eq, h]
  simp only [hrotation]

/-- The first video track comes first among the video tracks. -/
theorem firstRotation_of_find? {tracks : List MediaTrack} {track : MediaTrack} {rotation : ℚ}
    (h : tracks.find? MediaTrack.isVideoTrack = some track)
    (hrotation : track.rotation = some rotation) :
    firstRotation tracks = (binary64.round rotation).map wholePart := by
  have hhead : (tracks.filter MediaTrack.isVideoTrack).head? = some track := by
    rw [List.head?_filter, h]
  obtain ⟨others, hothers⟩ := List.head?_eq_some_iff.mp hhead
  rw [firstRotation, hothers, List.findSome?_cons, hrotation]

/-- A rotation is converted if it is some float. -/
theorem intOfFloat_cases (rotation : ℚ) :
    (|rotation| < 2 ^ 1024 - 2 ^ 970 ∧ ∃ value, binary64.round rotation = some value ∧
        intOfFloat rotation = .ok (wholePart value)) ∨
      (¬|rotation| < 2 ^ 1024 - 2 ^ 970 ∧ intOfFloat rotation = .error .overflowError) := by
  rw [← isSome_round_binary64_iff, intOfFloat]
  cases binary64.round rotation with
  | none => exact .inr ⟨Bool.false_ne_true, rfl⟩
  | some value => exact .inl ⟨rfl, value, rfl, rfl⟩

/-- `get_video_rotation` returns what it is meant to, or raises. -/
theorem getVideoRotation_cases (tracks : List MediaTrack) :
    (FirstTrackRotates tracks ∧
        ∃ rotation, firstRotation tracks = some rotation ∧
          getVideoRotation tracks = .ok rotation) ∨
      (¬FirstTrackRotates tracks ∧ (getVideoRotation tracks).isOk = false) := by
  cases hfirst : tracks.find? MediaTrack.isVideoTrack with
  | none =>
      have hnil : tracks.filter MediaTrack.isVideoTrack = [] :=
        List.filter_eq_nil_iff.mpr (List.find?_eq_none.mp hfirst)
      refine .inl ⟨?_, 0, ?_, ?_⟩
      · rw [FirstTrackRotates, hfirst]
        exact fun _ h ↦ (nomatch h)
      · rw [firstRotation, hnil]
        rfl
      · rw [getVideoRotation_eq, hfirst]
  | some track =>
      have hrotates : FirstTrackRotates tracks ↔
          ∃ rotation, track.rotation = some rotation ∧ |rotation| < 2 ^ 1024 - 2 ^ 970 := by
        rw [FirstTrackRotates, hfirst]
        exact ⟨fun h ↦ h track rfl, fun h _ htrack ↦ Option.some.inj htrack ▸ h⟩
      rw [hrotates]
      cases hrotation : track.rotation with
      | none =>
          rw [getVideoRotation_of_none hfirst hrotation]
          exact .inr ⟨fun ⟨_, h, _⟩ ↦ (nomatch h), rfl⟩
      | some rotation =>
          rw [getVideoRotation_of_rotation hfirst hrotation,
            firstRotation_of_find? hfirst hrotation]
          rcases intOfFloat_cases rotation with ⟨hfinite, value, hvalue, hint⟩ | ⟨hlarge, hint⟩
          · rw [hvalue, hint]
            exact .inl ⟨⟨rotation, rfl, hfinite⟩, wholePart value, rfl, rfl⟩
          · rw [hint]
            refine .inr ⟨?_, rfl⟩
            rintro ⟨_, heq, hfinite⟩
            exact hlarge (Option.some.inj heq ▸ hfinite)

theorem isOk_getVideoRotation_iff {tracks : List MediaTrack} :
    (getVideoRotation tracks).isOk = true ↔ FirstTrackRotates tracks := by
  rcases getVideoRotation_cases tracks with ⟨hrotates, rotation, -, heq⟩ | ⟨hnot, hraises⟩
  · rw [heq]
    exact iff_of_true rfl hrotates
  · rw [hraises]
    exact iff_of_false Bool.false_ne_true hnot

/-! ## Extraction -/

variable {Image : Type u} {Network : Type v} (host : Host Image Network) (backendDir : Path)
  (isDir : Path → Bool)

/-- The frames of a video on disk, in the rotation that is meant. -/
def rotatedFramesOf (disk : ServerDisk Image) (video : String) : List Image :=
  match disk.read (uploadPath backendDir video) with
  | some file =>
      match firstRotation (host.tracks file) with
      | some rotation => (host.capture file).map (rotateFrame host rotation)
      | none => []
  | none => []

/-- The writes for the frames of all videos, in the rotation that is meant. -/
def rotatedWrites (network : Network) (choose : ℕ → ℕ → Split) (disk : ServerDisk Image)
    (videos : List String) : List (Path × File Image) :=
  videos.zipIdx.flatMap fun video ↦
    videoWrites host backendDir network (choose video.2) video.2 (stem video.1)
      (rotatedFramesOf host backendDir disk video.1) 0

/-- `process_videos` handles all videos as it is meant to. -/
structure HandlesAll (network : Network) (listing : List String) (choose : ℕ → ℕ → Split)
    (disk : ServerDisk Image) : Prop where
  /-- It ends without raising. -/
  ends : (processVideosIn host backendDir isDir network listing choose disk).1 = .ok ()
  /-- The rotation of a listed video is that of its first video track that has one. -/
  rotation : ∀ video ∈ listing.filter isVideo, ∀ file,
    disk.read (uploadPath backendDir video) = some file →
      ∃ rotation, firstRotation (host.tracks file) = some rotation ∧
        getVideoRotation (host.tracks file) = .ok rotation
  /-- Every listed video has been handled in that rotation: the files are there for which
  there are folders. -/
  handled : (processVideosIn host backendDir isDir network listing choose disk).2 =
    (disk.save (yamlPath backendDir)
      (.yaml
        { names := (listing.filter isVideo).map stem
          nc := (listing.filter isVideo).length })).saveAll
      ((rotatedWrites host backendDir network choose disk (listing.filter isVideo)).filter
        (hasFolder isDir))

/-- What that takes. -/
structure Extractable (network : Network) (listing : List String) (choose : ℕ → ℕ → Split)
    (disk : ServerDisk Image) : Prop where
  dataset : isDir (datasetDir backendDir) = true
  rotates : ∀ video ∈ listing.filter isVideo, ∀ file,
    disk.read (uploadPath backendDir video) = some file → FirstTrackRotates (host.tracks file)
  /-- Frames in which something is detected fall to splits that have a folder for labels. -/
  labels : ∀ (personId : ℕ) (video : String) (frameId : ℕ) (frame : Image),
    (listing.filter isVideo)[personId]? = some video →
    (rotatedFramesOf host backendDir disk video)[frameId]? = some frame →
    0 < (host.detect network frame).length →
      isDir (labelsDir backendDir (choose personId frameId)) = true

variable {host backendDir isDir}

/-- A listed video can be read exactly if its first video track has a rotation. -/
theorem readable_iff {disk : ServerDisk Image} {video : String} {file : File Image}
    (hread : disk.read (uploadPath backendDir video) = some file) :
    readable host backendDir disk video = true ↔ FirstTrackRotates (host.tracks file) := by
  rw [readable_of_read hread]
  exact isOk_getVideoRotation_iff

/-- A video that can be read is extracted in the rotation that is meant. -/
theorem framesOf_eq_rotatedFramesOf {disk : ServerDisk Image} {video : String}
    (h : readable host backendDir disk video = true) :
    framesOf host backendDir disk video = rotatedFramesOf host backendDir disk video := by
  rw [rotatedFramesOf]
  cases hread : disk.read (uploadPath backendDir video) with
  | none => rw [framesOf, hread]
  | some file =>
      rw [framesOf_of_read hread, videoFrames]
      rcases getVideoRotation_cases (host.tracks file) with ⟨-, rotation, hfirst, heq⟩ | ⟨hnot, -⟩
      · rw [heq]
        simp only [hfirst]
      · exact absurd ((readable_iff hread).mp h) hnot

section ProcessVideos

variable {network : Network} {listing videos : List String} {choose : ℕ → ℕ → Split}
  {disk : ServerDisk Image}

/-- So the writes are the ones that are meant. -/
theorem datasetWrites_eq_rotatedWrites
    (h : ∀ video ∈ videos, readable host backendDir disk video = true) :
    datasetWrites host backendDir network choose disk 0 videos =
      rotatedWrites host backendDir network choose disk videos := by
  rw [datasetWrites, rotatedWrites]
  refine List.flatMap_congr fun video hvideo ↦ ?_
  rw [framesOf_eq_rotatedFramesOf (h video.1 (List.fst_mem_of_mem_zipIdx hvideo))]

/-- Label files belong to the frames in which something is detected. -/
theorem labelsOpen_datasetWrites_iff
    (h : ∀ video ∈ videos, readable host backendDir disk video = true) :
    LabelsOpen isDir (datasetWrites host backendDir network choose disk 0 videos) ↔
      ∀ (personId : ℕ) (video : String) (frameId : ℕ) (frame : Image),
        videos[personId]? = some video →
        (rotatedFramesOf host backendDir disk video)[frameId]? = some frame →
        0 < (host.detect network frame).length →
          isDir (labelsDir backendDir (choose personId frameId)) = true := by
  constructor
  · intro hopen personId video frameId frame hvideo hframe hdetected
    rw [← framesOf_eq_rotatedFramesOf (h video (List.mem_of_getElem? hvideo))] at hframe
    have hfolder := hopen _ (mem_datasetWrites.mpr
      ⟨personId, video, frameId, frame, hvideo, hframe, .inr ⟨hdetected, rfl⟩⟩) _ rfl
    rwa [hasFolder_label] at hfolder
  · intro hdirs write hwrite lines hlines
    obtain ⟨personId, video, frameId, frame, hvideo, hframe, rfl | ⟨hdetected, rfl⟩⟩ :=
      mem_datasetWrites.mp hwrite
    · cases hlines
    · rw [framesOf_eq_rotatedFramesOf (h video (List.mem_of_getElem? hvideo))] at hframe
      rw [hasFolder_label]
      exact hdirs personId video frameId frame hvideo hframe hdetected

/-- The listed videos can all be read exactly if their first video tracks have rotations. -/
theorem forall_readable_iff (hlisting : listing.Perm (listUploads backendDir disk)) :
    (∀ video ∈ listing.filter isVideo, readable host backendDir disk video = true) ↔
      ∀ video ∈ listing.filter isVideo, ∀ file,
        disk.read (uploadPath backendDir video) = some file →
          FirstTrackRotates (host.tracks file) := by
  refine forall₂_congr fun video hvideo ↦ ?_
  obtain ⟨file, hread⟩ :=
    mem_listUploads.mp (hlisting.mem_iff.mp (List.mem_of_mem_filter hvideo))
  constructor
  · intro h file' hread'
    exact (readable_iff hread').mp h
  · exact fun h ↦ (readable_iff hread).mpr (h file hread)

/-- **Rotation.**  `process_videos` handles a folder of videos as it is meant to if and only
if the first video track of each listed video has a rotation, which is some float, and there
are the folders that it needs: that of the dataset, and one for every label file. -/
theorem processVideos_rotation_iff (hlisting : listing.Perm (listUploads backendDir disk)) :
    HandlesAll host backendDir isDir network listing choose disk ↔
      Extractable host backendDir isDir network listing choose disk := by
  constructor
  · intro h
    obtain ⟨hdir, hreadable, hopen⟩ := processVideosIn_ok_iff.mp h.ends
    exact ⟨hdir, (forall_readable_iff hlisting).mp hreadable,
      (labelsOpen_datasetWrites_iff hreadable).mp hopen⟩
  · rintro ⟨hdir, hrotates, hlabels⟩
    have hreadable := (forall_readable_iff hlisting).mpr hrotates
    have hends : (processVideosIn host backendDir isDir network listing choose disk).1 = .ok () :=
      processVideosIn_ok_iff.mpr
        ⟨hdir, hreadable, (labelsOpen_datasetWrites_iff hreadable).mpr hlabels⟩
    refine ⟨hends, fun video hvideo file hread ↦ ?_, ?_⟩
    · rcases getVideoRotation_cases (host.tracks file) with ⟨-, hrotation⟩ | ⟨hnot, -⟩
      · exact hrotation
      · exact absurd (hrotates video hvideo file hread) hnot
    · rw [disk_processVideosIn hends, datasetWrites_eq_rotatedWrites hreadable]

end ProcessVideos

/-! ## Samples -/

/-- A host whose videos all have the given tracks. -/
def hostWithTracks (tracks : List MediaTrack) : Host UInt8 Unit :=
  { sampleHost with tracks := fun _ ↦ tracks }

/-- A folder with one video. -/
def folderOfOne (video : String) : ServerDisk UInt8 :=
  (Disk.empty (.bytes [])).save (uploadPath [] video) (.bytes [0])

/-- The directories of a dataset that has been reset. -/
def sampleDirs : Path → Bool := resetDirs [] fun _ ↦ false

/-- A track without a rotation may follow one that has one. -/
theorem processVideos_rotation_iff_sample :
    HandlesAll (hostWithTracks [⟨"Audio", none⟩, ⟨"Video", some 90⟩, ⟨"Video", none⟩]) []
      sampleDirs () ["Sam_A.mp4"] (fun _ _ ↦ .train) (folderOfOne "Sam_A.mp4") := by
  have hdirs : HasFolders [] sampleDirs := hasFolders_resetDirs _
  refine (processVideos_rotation_iff (by decide)).mpr
    ⟨hdirs.dataset, fun video _ file _ track htrack ↦ ?_, fun _ _ _ _ _ _ _ ↦ hdirs.labels _⟩
  obtain rfl : ⟨"Video", some 90⟩ = track := Option.some.inj htrack
  exact ⟨90, rfl, by decide +kernel⟩

/-- A video track without a rotation raises. -/
theorem processVideos_rotation_sample_fails :
    (processVideosIn (hostWithTracks [⟨"Video", none⟩]) [] sampleDirs () ["Sam_A.mp4"]
        (fun _ _ ↦ .train) (folderOfOne "Sam_A.mp4")).1 = .error .typeError ∧
      ¬ HandlesAll (hostWithTracks [⟨"Video", none⟩]) [] sampleDirs () ["Sam_A.mp4"]
        (fun _ _ ↦ .train) (folderOfOne "Sam_A.mp4") := by
  have hraises : (processVideosIn (hostWithTracks [⟨"Video", none⟩]) [] sampleDirs ()
      ["Sam_A.mp4"] (fun _ _ ↦ .train) (folderOfOne "Sam_A.mp4")).1 = .error .typeError := by
    decide
  refine ⟨hraises, fun hall ↦ ?_⟩
  have hends := hraises.symm.trans hall.ends
  cases hends

/-- In the dataset of the repository the person in the frame has no folder for a label. -/
example : (processVideosIn sampleHost [] (fun p ↦ decide (p = ["dataset"])) () ["Sam_A.mp4"]
    (fun _ _ ↦ .train) (folderOfOne "Sam_A.mp4")).1 = .error .fileNotFound := by
  decide

end Courtside
