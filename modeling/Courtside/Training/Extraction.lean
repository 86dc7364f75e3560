import Courtside.Training.Dataset

/-!
# Extraction as a list of writes

What `process_videos` does to the disk is a list of writes (`datasetWrites`) that
depends on the uploads alone: first `data.yaml`, then an image for every frame of every
listed video and a label file beside some of them.  A video whose rotation cannot be
read cuts the list short (`processVideos_eq`).

From the list one reads off what extraction leaves alone (`file?_processVideos`) and,
for videos with distinct stems, that no write undoes another
(`datasetWrites_functional`).
-/

universe u v

namespace Courtside

variable {Image : Type u} {Network : Type v} (host : Host Image Network) (backendDir : Path)

/-! ## The writes of one video -/

/-- The frames that extraction makes of a video: rotated, and none if the rotation
cannot be read. -/
def videoFrames (file : File Image) : List Image :=
  match getVideoRotation (host.tracks file) with
  | .ok rotation => (host.capture file).map (rotateFrame host rotation)
  | .error _ => []

/-- The writes for one frame. -/
def frameWrites (network : Network) (choose : ℕ → Split) (personId : ℕ) (personName : String)
    (frame : Image) (frameId : ℕ) : List (Path × File Image) :=
  (imagePath backendDir (choose frameId) (frameFilename personName frameId ".jpg"), .image frame) ::
    if 0 < (host.detect network frame).length then
      [(labelPath backendDir (choose frameId) (frameFilename personName frameId ".txt"),
        .labels (labelLines host network personId frame))]
    else []

/-- The writes for the frames of one video, numbered from `frameId`. -/
def videoWrites (network : Network) (choose : ℕ → Split) (personId : ℕ) (personName : String)
    (frames : List Image) (frameId : ℕ) : List (Path × File Image) :=
  (frames.zipIdx frameId).flatMap fun frame ↦
    frameWrites host backendDir network choose personId personName frame.1 frame.2

variable {host backendDir}

theorem writeFrame_eq (network : Network) (choose : ℕ → Split) (personId : ℕ)
    (personName : String) (frameId : ℕ) (frame : Image) (disk : ServerDisk Image) :
    writeFrame host backendDir network choose personId personName frameId frame disk =
      disk.saveAll
        (frameWrites host backendDir network choose personId personName frame frameId) := by
  unfold writeFrame frameWrites
  split <;> rfl

/-- The loop of `extract_frames` performs the writes of its frames in order. -/
theorem extractLoop_eq (network : Network) (choose : ℕ → Split) (personId : ℕ)
    (personName : String) (rotation : ℤ) (frames : List Image) (frameId : ℕ)
    (disk : ServerDisk Image) :
    extractLoop host backendDir network choose personId personName rotation frameId frames disk =
      disk.saveAll (videoWrites host backendDir network choose personId personName
        (frames.map (rotateFrame host rotation)) frameId) := by
  induction frames generalizing frameId disk with
  | nil => rfl
  | cons frame frames ih =>
      rw [extractLoop, ih, writeFrame_eq, ← Disk.saveAll_append]
      rfl

variable (host backendDir) in
/-- `extract_frames` performs the writes of the video's frames, whether or not it
raises. -/
theorem extractFrames_eq (network : Network) (choose : ℕ → Split) (video : File Image)
    (personId : ℕ) (personName : String) (disk : ServerDisk Image) :
    (extractFrames host backendDir network choose video personId personName disk).2 =
      disk.saveAll (videoWrites host backendDir network choose personId personName
        (videoFrames host video) 0) := by
  rw [extractFrames, videoFrames]
  cases getVideoRotation (host.tracks video) with
  | error e => rfl
  | ok rotation => exact extractLoop_eq network choose personId personName rotation _ 0 disk

/-- A write for a frame is its image or its label file. -/
theorem mem_videoWrites {network : Network} {choose : ℕ → Split} {personId : ℕ}
    {personName : String} {frames : List Image} {write : Path × File Image} :
    write ∈ videoWrites host backendDir network choose personId personName frames 0 ↔
      ∃ frameId frame, frames[frameId]? = some frame ∧
        (write = (imagePath backendDir (choose frameId) (frameFilename personName frameId ".jpg"),
            .image frame) ∨
          0 < (host.detect network frame).length ∧
          write = (labelPath backendDir (choose frameId)
              (frameFilename personName frameId ".txt"),
            .labels (labelLines host network personId frame))) := by
  rw [videoWrites, List.mem_flatMap]
  constructor
  · rintro ⟨⟨frame, frameId⟩, hmem, hwrite⟩
    refine ⟨frameId, frame, List.mem_zipIdx_iff_getElem?.mp hmem, ?_⟩
    rcases List.mem_cons.mp hwrite with rfl | hlabel
    · exact .inl rfl
    · split at hlabel
      · next hdetected => exact .inr ⟨hdetected, List.mem_singleton.mp hlabel⟩
      · cases hlabel
  · rintro ⟨frameId, frame, hframe, hwrite⟩
    refine ⟨(frame, frameId), List.mem_zipIdx_iff_getElem?.mpr hframe, ?_⟩
    rcases hwrite with rfl | ⟨hdetected, rfl⟩
    · exact List.mem_cons_self
    · rw [frameWrites, if_pos hdetected]
      exact List.mem_cons_of_mem _ (List.mem_singleton_self _)

/-- Extraction writes images and label files. -/
theorem isDatasetFile_of_mem_videoWrites {network : Network} {choose : ℕ → Split}
    {personId : ℕ} {personName : String} {frames : List Image} {write : Path × File Image}
    (h : write ∈ videoWrites host backendDir network choose personId personName frames 0) :
    IsDatasetFile backendDir write.1 := by
  obtain ⟨frameId, frame, -, rfl | ⟨-, rfl⟩⟩ := mem_videoWrites.mp h
  · exact ⟨_, _, .inl rfl⟩
  · exact ⟨_, _, .inr rfl⟩

/-- Every line of a label file carries the number of its video. -/
theorem personId_of_mem_labelLines {network : Network} {personId : ℕ} {frame : Image}
    {line : LabelLine} (h : line ∈ labelLines host network personId frame) :
    line.personId = personId := by
  obtain ⟨box, -, rfl⟩ := List.mem_map.mp h
  rfl

/-! ## The writes of a dataset -/

variable (host backendDir)

/-- The frames of a video on disk. -/
def framesOf (disk : ServerDisk Image) (video : String) : List Image :=
  match disk.read (uploadPath backendDir video) with
  | some file => videoFrames host file
  | none => []

/-- The writes for the frames of some videos, numbered from `personId`. -/
def datasetWrites (network : Network) (choose : ℕ → ℕ → Split) (disk : ServerDisk Image)
    (personId : ℕ) (videos : List String) : List (Path × File Image) :=
  (videos.zipIdx personId).flatMap fun video ↦
    videoWrites host backendDir network (choose video.2) video.2 (stem video.1)
      (framesOf host backendDir disk video.1) 0

variable {host backendDir}

/-- The image or label file of one frame of one of the videos. -/
theorem mem_datasetWrites {network : Network} {choose : ℕ → ℕ → Split} {disk : ServerDisk Image}
    {videos : List String} {write : Path × File Image} :
    write ∈ datasetWrites host backendDir network choose disk 0 videos ↔
      ∃ personId video frameId frame, videos[personId]? = some video ∧
        (framesOf host backendDir disk video)[frameId]? = some frame ∧
        (write = (imagePath backendDir (choose personId frameId)
              (frameFilename (stem video) frameId ".jpg"), .image frame) ∨
          0 < (host.detect network frame).length ∧
          write = (labelPath backendDir (choose personId frameId)
              (frameFilename (stem video) frameId ".txt"),
            .labels (labelLines host network personId frame))) := by
  rw [datasetWrites, List.mem_flatMap]
  constructor
  · rintro ⟨⟨video, personId⟩, hmem, hwrite⟩
    obtain ⟨frameId, frame, hframe, hwrite⟩ := mem_videoWrites.mp hwrite
    exact ⟨personId, video, frameId, frame, List.mem_zipIdx_iff_getElem?.mp hmem, hframe, hwrite⟩
  · rintro ⟨personId, video, frameId, frame, hvideo, hframe, hwrite⟩
    exact ⟨(video, personId), List.mem_zipIdx_iff_getElem?.mpr hvideo,
      mem_videoWrites.mpr ⟨frameId, frame, hframe, hwrite⟩⟩

theorem isDatasetFile_of_mem_datasetWrites {network : Network} {choose : ℕ → ℕ → Split}
    {disk : ServerDisk Image} {personId : ℕ} {videos : List String} {write : Path × File Image}
    (h : write ∈ datasetWrites host backendDir network choose disk personId videos) :
    IsDatasetFile backendDir write.1 := by
  obtain ⟨video, -, hwrite⟩ := List.mem_flatMap.mp h
  exact isDatasetFile_of_mem_videoWrites hwrite

/-- An image that is written is a frame of one of the videos, in the split drawn for
it. -/
theorem image_of_mem_datasetWrites {network : Network} {choose : ℕ → ℕ → Split}
    {disk : ServerDisk Image} {videos : List String} {split : Split} {name : String}
    {file : File Image}
    (h : (imagePath backendDir split name, file) ∈
      datasetWrites host backendDir network choose disk 0 videos) :
    ∃ personId video frameId frame, videos[personId]? = some video ∧
      (framesOf host backendDir disk video)[frameId]? = some frame ∧
      split = choose personId frameId ∧ name = frameFilename (stem video) frameId ".jpg" ∧
      file = .image frame := by
  obtain ⟨personId, video, frameId, frame, hvideo, hframe, hwrite | ⟨-, hwrite⟩⟩ :=
    mem_datasetWrites.mp h
  · obtain ⟨hpath, hfile⟩ := Prod.mk.inj hwrite
    obtain ⟨hsplit, hname⟩ := imagePath_inj hpath
    exact ⟨personId, video, frameId, frame, hvideo, hframe, hsplit, hname, hfile⟩
  · exact absurd (Prod.mk.inj hwrite).1 imagePath_ne_labelPath

/-- A label file that is written belongs to a frame of one of the videos. -/
theorem label_of_mem_datasetWrites {network : Network} {choose : ℕ → ℕ → Split}
    {disk : ServerDisk Image} {videos : List String} {split : Split} {name : String}
    {file : File Image}
    (h : (labelPath backendDir split name, file) ∈
      datasetWrites host backendDir network choose disk 0 videos) :
    ∃ personId video frameId frame, videos[personId]? = some video ∧
      (framesOf host backendDir disk video)[frameId]? = some frame ∧
      split = choose personId frameId ∧ name = frameFilename (stem video) frameId ".txt" ∧
      file = .labels (labelLines host network personId frame) := by
  obtain ⟨personId, video, frameId, frame, hvideo, hframe, hwrite | ⟨-, hwrite⟩⟩ :=
    mem_datasetWrites.mp h
  · exact absurd (Prod.mk.inj hwrite).1.symm imagePath_ne_labelPath
  · obtain ⟨hpath, hfile⟩ := Prod.mk.inj hwrite
    obtain ⟨hsplit, hname⟩ := labelPath_inj hpath
    exact ⟨personId, video, frameId, frame, hvideo, hframe, hsplit, hname, hfile⟩

theorem datasetWrites_cons (network : Network) (choose : ℕ → ℕ → Split)
    (disk : ServerDisk Image) (personId : ℕ) (video : String) (videos : List String) :
    datasetWrites host backendDir network choose disk personId (video :: videos) =
      videoWrites host backendDir network (choose personId) personId (stem video)
          (framesOf host backendDir disk video) 0 ++
        datasetWrites host backendDir network choose disk (personId + 1) videos := by
  rw [datasetWrites, List.zipIdx_cons, List.flatMap_cons]
  rfl

/-- Without frames there is nothing to write. -/
theorem datasetWrites_eq_nil {network : Network} {choose : ℕ → ℕ → Split}
    {disk : ServerDisk Image} {videos : List String}
    (h : ∀ video ∈ videos, framesOf host backendDir disk video = []) :
    datasetWrites host backendDir network choose disk 0 videos = [] := by
  rw [List.eq_nil_iff_forall_not_mem]
  intro write hmem
  obtain ⟨personId, video, frameId, frame, hvideo, hframe, -⟩ := mem_datasetWrites.mp hmem
  rw [h video (List.mem_of_getElem? hvideo)] at hframe
  cases hframe

/-- If the videos have distinct stems, a video is the only one listed under its stem. -/
theorem stem_index {videos : List String} (hstems : (videos.map stem).Nodup) {personId : ℕ}
    {video : String} (hvideo : videos[personId]? = some video) (i : ℕ) :
    (videos.map stem)[i]? = some (stem video) ↔ i = personId := by
  have hstem : (videos.map stem)[personId]? = some (stem video) := by
    rw [List.getElem?_map, hvideo, Option.map_some]
  constructor
  · intro hi
    exact (List.getElem?_inj (List.getElem?_eq_some_iff.mp hi).1 hstems).mp (hi.trans hstem.symm)
  · rintro rfl
    exact hstem

/-- If the videos have distinct stems, the name of a frame determines the video and
the number of the frame. -/
theorem frame_unique {videos : List String} (hstems : (videos.map stem).Nodup)
    {personId personId' frameId frameId' : ℕ} {video video' ext : String}
    (hvideo : videos[personId]? = some video) (hvideo' : videos[personId']? = some video')
    (h : frameFilename (stem video) frameId ext = frameFilename (stem video') frameId' ext) :
    personId = personId' ∧ frameId = frameId' := by
  obtain ⟨hstem, hframe⟩ := frameFilename_inj h
  refine ⟨((stem_index hstems hvideo personId').mp ?_).symm, hframe⟩
  rw [List.getElem?_map, hvideo', Option.map_some, hstem]

/-- **One write for each file.**  If the videos have distinct stems, what is written
to a path is determined by the path. -/
theorem datasetWrites_functional {network : Network} {choose : ℕ → ℕ → Split}
    {disk : ServerDisk Image} {videos : List String} (hstems : (videos.map stem).Nodup)
    {p : Path} {file file' : File Image}
    (h : (p, file) ∈ datasetWrites host backendDir network choose disk 0 videos)
    (h' : (p, file') ∈ datasetWrites host backendDir network choose disk 0 videos) :
    file' = file := by
  obtain ⟨split, name, rfl | rfl⟩ := isDatasetFile_of_mem_datasetWrites h
  · obtain ⟨personId, video, frameId, frame, hvideo, hframe, -, rfl, rfl⟩ :=
      image_of_mem_datasetWrites h
    obtain ⟨personId', video', frameId', frame', hvideo', hframe', -, hname, rfl⟩ :=
      image_of_mem_datasetWrites h'
    obtain ⟨rfl, rfl⟩ := frame_unique hstems hvideo hvideo' hname
    obtain rfl : video = video' := Option.some.inj (hvideo.symm.trans hvideo')
    rw [Option.some.inj (hframe.symm.trans hframe')]
  · obtain ⟨personId, video, frameId, frame, hvideo, hframe, -, rfl, rfl⟩ :=
      label_of_mem_datasetWrites h
    obtain ⟨personId', video', frameId', frame', hvideo', hframe', -, hname, rfl⟩ :=
      label_of_mem_datasetWrites h'
    obtain ⟨rfl, rfl⟩ := frame_unique hstems hvideo hvideo' hname
    obtain rfl : video = video' := Option.some.inj (hvideo.symm.trans hvideo')
    rw [Option.some.inj (hframe.symm.trans hframe')]

/-- So what is written is there in the end. -/
theorem read_of_mem_datasetWrites {network : Network} {choose : ℕ → ℕ → Split}
    {disk : ServerDisk Image} {videos : List String} (hstems : (videos.map stem).Nodup)
    {p : Path} {file : File Image}
    (h : (p, file) ∈ datasetWrites host backendDir network choose disk 0 videos)
    (base : ServerDisk Image) :
    (base.saveAll (datasetWrites host backendDir network choose disk 0 videos)).read p =
      some file := by
  apply Disk.read_saveAll_of_mem h
  intro file' h'
  exact datasetWrites_functional hstems h h'

/-! ## What `process_videos` does -/

/-- Images and label files leave everything outside the dataset as it is. -/
theorem file?_saveAll_of_not_inside {writes : List (Path × File Image)}
    (h : ∀ write ∈ writes, IsDatasetFile backendDir write.1) {p : Path}
    (hp : ¬ Path.Inside (datasetDir backendDir) p) (disk : ServerDisk Image) :
    (disk.saveAll writes).file? p = disk.file? p := by
  refine Disk.file?_saveAll_of_forall_ne (fun write hwrite heq ↦ hp ?_) disk
  rw [heq]
  exact (h write hwrite).inside

/-- Extraction leaves the uploads as they are. -/
theorem read_uploadPath_videoWrites {network : Network} {choose : ℕ → Split} {personId : ℕ}
    {personName : String} {frames : List Image} (disk : ServerDisk Image) (video : String) :
    (disk.saveAll (videoWrites host backendDir network choose personId personName frames 0)).read
        (uploadPath backendDir video) = disk.read (uploadPath backendDir video) := by
  rw [Disk.read, Disk.read, file?_saveAll_of_not_inside
    (fun _ ↦ isDatasetFile_of_mem_videoWrites) not_inside_datasetDir_uploadPath]

/-- No image and no label file is written over `data.yaml`. -/
theorem read_yamlPath_saveAll {network : Network} {choose : ℕ → ℕ → Split}
    {base : ServerDisk Image} {videos : List String} (data : DataYaml) (disk : ServerDisk Image) :
    ((disk.save (yamlPath backendDir) (.yaml data)).saveAll
        (datasetWrites host backendDir network choose base 0 videos)).read (yamlPath backendDir) =
      some (.yaml data) := by
  rw [Disk.read, Disk.file?_saveAll_of_forall_ne, ← Disk.read, Disk.read_save_self]
  exact fun write hwrite ↦ (isDatasetFile_of_mem_datasetWrites hwrite).ne_yamlPath.symm

variable (host backendDir) in
/-- The video is there, and its rotation can be read. -/
def readable (disk : ServerDisk Image) (video : String) : Bool :=
  match disk.read (uploadPath backendDir video) with
  | some file => (getVideoRotation (host.tracks file)).isOk
  | none => false

theorem framesOf_of_read {disk : ServerDisk Image} {video : String} {file : File Image}
    (hread : disk.read (uploadPath backendDir video) = some file) :
    framesOf host backendDir disk video = videoFrames host file := by
  rw [framesOf, hread]

theorem readable_of_read {disk : ServerDisk Image} {video : String} {file : File Image}
    (hread : disk.read (uploadPath backendDir video) = some file) :
    readable host backendDir disk video = (getVideoRotation (host.tracks file)).isOk := by
  rw [readable, hread]

/-- A video that cannot be read has no frames. -/
theorem framesOf_eq_nil {disk : ServerDisk Image} {video : String}
    (h : readable host backendDir disk video = false) :
    framesOf host backendDir disk video = [] := by
  cases hread : disk.read (uploadPath backendDir video) with
  | none => rw [framesOf, hread]
  | some file =>
      rw [readable_of_read hread] at h
      rw [framesOf_of_read hread, videoFrames]
      cases hrotation : getVideoRotation (host.tracks file) with
      | error e => rfl
      | ok rotation =>
          rw [hrotation] at h
          cases h

/-- One video: its frames are written, and its rotation decides whether that raises. -/
theorem extractFrames_cases {network : Network} {choose : ℕ → Split} {base disk : ServerDisk Image}
    {video : String} {personId : ℕ} {file : File Image}
    (hread : base.read (uploadPath backendDir video) = some file) :
    (extractFrames host backendDir network choose file personId (stem video) disk).2 =
        disk.saveAll (videoWrites host backendDir network choose personId (stem video)
          (framesOf host backendDir base video) 0) ∧
      ((extractFrames host backendDir network choose file personId (stem video) disk).1 = .ok () ↔
        readable host backendDir base video = true) := by
  rw [framesOf_of_read hread, readable_of_read hread]
  constructor
  · exact extractFrames_eq host backendDir network choose file personId (stem video) disk
  · rw [extractFrames]
    cases getVideoRotation (host.tracks file) with
    | error e => exact ⟨fun h ↦ (nomatch h), fun h ↦ (nomatch h)⟩
    | ok rotation => exact ⟨fun _ ↦ rfl, fun _ ↦ rfl⟩

/-- The loop of `process_videos` performs the writes of its videos in order, up to the
first that cannot be read, where it raises.  Extraction does not change the videos, so their
frames can be read off any disk with the same uploads. -/
theorem extractAll_eq (network : Network) (choose : ℕ → ℕ → Split) (base : ServerDisk Image)
    (videos : List String) (personId : ℕ) (disk : ServerDisk Image)
    (hbase : ∀ video, disk.read (uploadPath backendDir video) =
      base.read (uploadPath backendDir video)) :
    (extractAll host backendDir network choose personId videos disk).2 =
        disk.saveAll (datasetWrites host backendDir network choose base personId
          (videos.takeWhile (readable host backendDir base))) ∧
      ((extractAll host backendDir network choose personId videos disk).1 = .ok () ↔
        ∀ video ∈ videos, readable host backendDir base video = true) := by
  induction videos generalizing personId disk with
  | nil => exact ⟨rfl, fun _ _ h ↦ (nomatch h), fun _ ↦ rfl⟩
  | cons video videos ih =>
      rw [extractAll, List.forall_mem_cons]
      cases hread : disk.read (uploadPath backendDir video) with
      | none =>
          have hmissing : readable host backendDir base video = false := by
            rw [readable, ← hbase, hread]
          rw [List.takeWhile_cons_of_neg (by simp [hmissing]), hmissing]
          exact ⟨rfl, fun h ↦ (nomatch h), fun h ↦ (nomatch h.1)⟩
      | some file =>
          obtain ⟨hdisk, hok⟩ := extractFrames_cases ((hbase video).symm.trans hread)
          dsimp only
          rcases hextract : extractFrames host backendDir network (choose personId) file personId
            (stem video) disk with ⟨e | _, disk'⟩
          · -- the video that raises has no frames
            rw [hextract] at hdisk hok
            have hunreadable : readable host backendDir base video = false := by
              rw [← Bool.not_eq_true, ← hok]
              exact fun h ↦ (nomatch h)
            rw [framesOf_eq_nil hunreadable] at hdisk
            rw [List.takeWhile_cons_of_neg (by simp [hunreadable]), hunreadable]
            exact ⟨hdisk, fun h ↦ (nomatch h), fun h ↦ (nomatch h.1)⟩
          · rw [hextract] at hdisk hok
            dsimp only at hdisk ⊢
            have hreadable := hok.mp rfl
            obtain ⟨hrest, hall⟩ := ih (personId + 1) disk' fun v ↦ by
              rw [← hbase, hdisk, read_uploadPath_videoWrites]
            rw [List.takeWhile_cons_of_pos hreadable, datasetWrites_cons, Disk.saveAll_append,
              ← hdisk]
            exact ⟨hrest, hall.trans (and_iff_right hreadable).symm⟩

variable (host backendDir) in
/-- `process_videos`, exactly: it writes `data.yaml` and then the dataset of the videos
before the first that cannot be read, and it raises if there is such a video. -/
theorem processVideos_takeWhile (network : Network) (listing : List String)
    (choose : ℕ → ℕ → Split) (disk : ServerDisk Image) :
    (processVideos host backendDir network listing choose disk).2 =
        (disk.save (yamlPath backendDir)
          (.yaml
            { names := (listing.filter isVideo).map stem
              nc := (listing.filter isVideo).length })).saveAll
          (datasetWrites host backendDir network choose disk 0
            ((listing.filter isVideo).takeWhile (readable host backendDir disk))) ∧
      ((processVideos host backendDir network listing choose disk).1 = .ok () ↔
        ∀ video ∈ listing.filter isVideo, readable host backendDir disk video = true) := by
  refine extractAll_eq network choose disk _ 0 _ fun video ↦ ?_
  exact Disk.read_save_of_ne _ _ uploadPath_ne_yamlPath

variable (host backendDir) in
/-- **`process_videos`.**  It writes `data.yaml` and then the dataset of a list of
videos: all that were listed, unless it raises. -/
theorem processVideos_eq (network : Network) (listing : List String)
    (choose : ℕ → ℕ → Split) (disk : ServerDisk Image) :
    ∃ extracted, extracted <+: listing.filter isVideo ∧
      (processVideos host backendDir network listing choose disk).2 =
        (disk.save (yamlPath backendDir)
          (.yaml
            { names := (listing.filter isVideo).map stem
              nc := (listing.filter isVideo).length })).saveAll
          (datasetWrites host backendDir network choose disk 0 extracted) ∧
      ((processVideos host backendDir network listing choose disk).1 = .ok () →
        extracted = listing.filter isVideo) := by
  obtain ⟨hdisk, hok⟩ := processVideos_takeWhile host backendDir network listing choose disk
  exact ⟨_, List.takeWhile_prefix _, hdisk, fun h ↦ List.takeWhile_eq_self_iff.mpr (hok.mp h)⟩

/-- `process_videos` changes nothing outside the dataset. -/
theorem file?_processVideos {network : Network} {listing : List String}
    {choose : ℕ → ℕ → Split} {p : Path} (hp : ¬ Path.Inside (datasetDir backendDir) p)
    (disk : ServerDisk Image) :
    (processVideos host backendDir network listing choose disk).2.file? p = disk.file? p := by
  obtain ⟨extracted, -, hdisk, -⟩ :=
    processVideos_eq host backendDir network listing choose disk
  rw [hdisk, file?_saveAll_of_not_inside (fun _ ↦ isDatasetFile_of_mem_datasetWrites) hp]
  refine Disk.file?_save_of_ne _ _ fun heq ↦ hp ?_
  rw [heq]
  exact Path.inside_append_cons _ _ _

end Courtside
