import Courtside.Training.Server

/-!
# Extraction where folders may be missing

Images and label files go to two folders of each split, which only `reset_dataset_dir`
makes.  The dataset that comes with the repository has neither, just a `data.yaml`.
There `cv2.imwrite` writes nothing, and says so by its result, which nobody looks at, while
`open` raises.

The functions here are those of `Dataset` for a given set of directories, `isDir`.  They end
without raising if the videos can be read and no label file is in want of a folder, and then
they have done all writes for which there is one (`processVideosIn_ok_iff`,
`disk_processVideosIn`).  After a reset they are the functions of `Dataset`
(`processVideosIn_resetDirs`).
-/

universe u v

namespace Courtside

variable {Image : Type u} {Network : Type v} (host : Host Image Network) (backendDir : Path)
  (isDir : Path → Bool)

/-! ## Directories -/

/-- `f"{DATASET_DIR}/{dataset_split}/images"`. -/
def imagesDir (split : Split) : Path := datasetDir backendDir ++ [split.dir, "images"]

/-- `f"{DATASET_DIR}/{dataset_split}/labels"`. -/
def labelsDir (split : Split) : Path := datasetDir backendDir ++ [split.dir, "labels"]

/-- The folders that `reset_dataset_dir` makes, with the directories above them. -/
def datasetFolders : List Path :=
  [Split.train, .valid, .test].flatMap fun split ↦
    [imagesDir backendDir split, labelsDir backendDir split]

/-- The directories after `reset_dataset_dir`. -/
def resetDirs (p : Path) : Bool :=
  (datasetFolders backendDir).any (fun folder ↦ decide (p <+: folder)) ||
    isDir p && !decide (Path.Inside (datasetDir backendDir) p)

/-- All folders of the dataset are there. -/
structure HasFolders : Prop where
  dataset : isDir (datasetDir backendDir) = true
  images : ∀ split, isDir (imagesDir backendDir split) = true
  labels : ∀ split, isDir (labelsDir backendDir split) = true

/-! ## Extraction -/

/-- One turn of the loop in `extract_frames`. -/
def writeFrameIn (network : Network) (choose : ℕ → Split) (personId : ℕ) (personName : String)
    (frameId : ℕ) (frame : Image) (disk : ServerDisk Image) :
    Except TrainError Unit × ServerDisk Image :=
  let disk :=
    if isDir (imagesDir backendDir (choose frameId)) then
      disk.save
        (imagePath backendDir (choose frameId) (frameFilename personName frameId ".jpg"))
        (.image frame)
    else disk
  if 0 < (host.detect network frame).length then
    if isDir (labelsDir backendDir (choose frameId)) then
      (.ok (), disk.save
        (labelPath backendDir (choose frameId) (frameFilename personName frameId ".txt"))
        (.labels (labelLines host network personId frame)))
    else (.error .fileNotFound, disk)
  else (.ok (), disk)

/-- The loop of `extract_frames`. -/
def extractLoopIn (network : Network) (choose : ℕ → Split) (personId : ℕ) (personName : String)
    (rotation : ℤ) :
    ℕ → List Image → ServerDisk Image → Except TrainError Unit × ServerDisk Image
  | _, [], disk => (.ok (), disk)
  | frameId, frame :: frames, disk =>
      match writeFrameIn host backendDir isDir network choose personId personName frameId
          (rotateFrame host rotation frame) disk with
      | (.error e, disk) => (.error e, disk)
      | (.ok (), disk) =>
          extractLoopIn network choose personId personName rotation (frameId + 1) frames disk

/-- `extract_frames`. -/
def extractFramesIn (network : Network) (choose : ℕ → Split) (video : File Image)
    (personId : ℕ) (personName : String) (disk : ServerDisk Image) :
    Except TrainError Unit × ServerDisk Image :=
  match getVideoRotation (host.tracks video) with
  | .error e => (.error e, disk)
  | .ok rotation =>
      extractLoopIn host backendDir isDir network choose personId personName rotation 0
        (host.capture video) disk

/-- The loop of `process_videos`. -/
def extractAllIn (network : Network) (choose : ℕ → ℕ → Split) :
    ℕ → List String → ServerDisk Image → Except TrainError Unit × ServerDisk Image
  | _, [], disk => (.ok (), disk)
  | personId, video :: videos, disk =>
      match disk.read (uploadPath backendDir video) with
      | none => (.error .fileNotFound, disk)
      | some file =>
          match extractFramesIn host backendDir isDir network (choose personId) file personId
              (stem video) disk with
          | (.error e, disk) => (.error e, disk)
          | (.ok (), disk) => extractAllIn network choose (personId + 1) videos disk

/-- `process_videos`, for a listing of the folder and one choice of splits. -/
def processVideosIn (network : Network) (listing : List String) (choose : ℕ → ℕ → Split)
    (disk : ServerDisk Image) : Except TrainError Unit × ServerDisk Image :=
  if isDir (datasetDir backendDir) then
    let videos := listing.filter isVideo
    let disk := disk.save (yamlPath backendDir)
      (.yaml { names := videos.map stem, nc := videos.length })
    extractAllIn host backendDir isDir network choose 0 videos disk
  else (.error .fileNotFound, disk)

variable {host backendDir isDir}

/-! ## After a reset -/

theorem hasFolders_resetDirs (isDir : Path → Bool) :
    HasFolders backendDir (resetDirs backendDir isDir) := by
  have hmade : ∀ folder ∈ datasetFolders backendDir, ∀ p, p <+: folder →
      resetDirs backendDir isDir p = true := by
    intro folder hfolder p hp
    rw [resetDirs, Bool.or_eq_true, List.any_eq_true]
    exact .inl ⟨folder, hfolder, decide_eq_true hp⟩
  have hfolders : ∀ split, imagesDir backendDir split ∈ datasetFolders backendDir ∧
      labelsDir backendDir split ∈ datasetFolders backendDir := by
    intro split
    cases split <;> simp [datasetFolders]
  refine ⟨?_, fun split ↦ ?_, fun split ↦ ?_⟩
  · exact hmade _ (hfolders .train).1 _ (List.prefix_append _ _)
  · exact hmade _ (hfolders split).1 _ List.prefix_rfl
  · exact hmade _ (hfolders split).2 _ List.prefix_rfl

section HasFolders

variable {network : Network}

theorem HasFolders.writeFrameIn_eq (h : HasFolders backendDir isDir) (choose : ℕ → Split)
    (personId : ℕ) (personName : String) (frameId : ℕ) (frame : Image)
    (disk : ServerDisk Image) :
    writeFrameIn host backendDir isDir network choose personId personName frameId frame disk =
      (.ok (), writeFrame host backendDir network choose personId personName frameId frame
        disk) := by
  simp only [writeFrameIn, writeFrame, h.images, h.labels, if_true]
  split <;> rfl

theorem HasFolders.extractLoopIn_eq (h : HasFolders backendDir isDir) (choose : ℕ → Split)
    (personId : ℕ) (personName : String) (rotation : ℤ) (frames : List Image) (frameId : ℕ)
    (disk : ServerDisk Image) :
    extractLoopIn host backendDir isDir network choose personId personName rotation frameId frames
        disk =
      (.ok (), extractLoop host backendDir network choose personId personName rotation frameId
        frames disk) := by
  induction frames generalizing frameId disk with
  | nil => rfl
  | cons frame frames ih => rw [extractLoopIn, h.writeFrameIn_eq, extractLoop, ← ih]

theorem HasFolders.extractFramesIn_eq (h : HasFolders backendDir isDir) (choose : ℕ → Split)
    (video : File Image) (personId : ℕ) (personName : String) (disk : ServerDisk Image) :
    extractFramesIn host backendDir isDir network choose video personId personName disk =
      extractFrames host backendDir network choose video personId personName disk := by
  rw [extractFramesIn, extractFrames]
  cases getVideoRotation (host.tracks video) with
  | error e => rfl
  | ok rotation => exact h.extractLoopIn_eq _ _ _ _ _ _ _

theorem HasFolders.extractAllIn_eq (h : HasFolders backendDir isDir) (choose : ℕ → ℕ → Split)
    (personId : ℕ) (videos : List String) (disk : ServerDisk Image) :
    extractAllIn host backendDir isDir network choose personId videos disk =
      extractAll host backendDir network choose personId videos disk := by
  induction videos generalizing personId disk with
  | nil => rfl
  | cons video videos ih =>
      rw [extractAllIn, extractAll]
      cases disk.read (uploadPath backendDir video) with
      | none => rfl
      | some file =>
          dsimp only
          rw [h.extractFramesIn_eq]
          rcases extractFrames host backendDir network (choose personId) file personId
            (stem video) disk with ⟨_ | _, disk'⟩
          · rfl
          · exact ih (personId + 1) disk'

/-- Where the folders are there, `process_videos` is the function of `Dataset`. -/
theorem HasFolders.processVideosIn_eq (h : HasFolders backendDir isDir) (listing : List String)
    (choose : ℕ → ℕ → Split) (disk : ServerDisk Image) :
    processVideosIn host backendDir isDir network listing choose disk =
      processVideos host backendDir network listing choose disk := by
  rw [processVideosIn, h.dataset, if_pos rfl]
  exact h.extractAllIn_eq _ _ _ _

end HasFolders

/-- **After a reset.**  So it is after `reset_dataset_dir`. -/
theorem processVideosIn_resetDirs (network : Network) (listing : List String)
    (choose : ℕ → ℕ → Split) (disk : ServerDisk Image) :
    processVideosIn host backendDir (resetDirs backendDir isDir) network listing choose disk =
      processVideos host backendDir network listing choose disk :=
  (hasFolders_resetDirs isDir).processVideosIn_eq listing choose disk

/-! ## Into any dataset -/

section Performs

/-- There is a folder for the file. -/
def hasFolder (isDir : Path → Bool) (write : Path × File Image) : Bool := isDir write.1.dropLast

/-- No label file is in want of a folder. -/
def LabelsOpen (isDir : Path → Bool) (writes : List (Path × File Image)) : Prop :=
  ∀ write ∈ writes, ∀ lines, write.2 = .labels lines → hasFolder isDir write = true

/-- What comes of some writes: an exception if a label file is in want of a folder, and
otherwise the files for which there is one. -/
structure Performs (isDir : Path → Bool) (writes : List (Path × File Image))
    (disk : ServerDisk Image) (outcome : Except TrainError Unit × ServerDisk Image) : Prop where
  ok_iff : outcome.1 = .ok () ↔ LabelsOpen isDir writes
  disk : outcome.1 = .ok () → outcome.2 = disk.saveAll (writes.filter (hasFolder isDir))

variable {writes writes' : List (Path × File Image)} {disk : ServerDisk Image}

theorem labelsOpen_append :
    LabelsOpen isDir (writes ++ writes') ↔ LabelsOpen isDir writes ∧ LabelsOpen isDir writes' :=
  List.forall_mem_append

theorem Performs.nil (disk : ServerDisk Image) : Performs isDir [] disk (.ok (), disk) :=
  ⟨iff_of_true rfl fun _ h ↦ (nomatch h), fun _ ↦ rfl⟩

/-- Writes that raise are not followed by others. -/
theorem Performs.raises {e : TrainError} {disk' : ServerDisk Image}
    (h : Performs isDir writes disk (.error e, disk')) (writes' : List (Path × File Image)) :
    Performs isDir (writes ++ writes') disk (.error e, disk') := by
  have hclosed : ¬ LabelsOpen isDir writes := fun hopen ↦ nomatch h.ok_iff.mpr hopen
  refine ⟨iff_of_false (fun hok ↦ nomatch hok) fun hopen ↦ ?_, fun hok ↦ nomatch hok⟩
  exact hclosed (labelsOpen_append.mp hopen).1

/-- Writes that do not raise are. -/
theorem Performs.append {disk' : ServerDisk Image}
    (h : Performs isDir writes disk (.ok (), disk'))
    {outcome : Except TrainError Unit × ServerDisk Image}
    (h' : Performs isDir writes' disk' outcome) :
    Performs isDir (writes ++ writes') disk outcome := by
  refine ⟨?_, fun hok ↦ ?_⟩
  · rw [h'.ok_iff, labelsOpen_append, and_iff_right (h.ok_iff.mp rfl)]
  · rw [h'.disk hok, List.filter_append, Disk.saveAll_append, ← h.disk rfl]

theorem hasFolder_image {split : Split} {name : String} {file : File Image} :
    hasFolder isDir (imagePath backendDir split name, file) =
      isDir (imagesDir backendDir split) := by
  rw [hasFolder, imagePath, imagesDir, List.dropLast_append_of_ne_nil (List.cons_ne_nil _ _)]
  rfl

theorem hasFolder_label {split : Split} {name : String} {file : File Image} :
    hasFolder isDir (labelPath backendDir split name, file) =
      isDir (labelsDir backendDir split) := by
  rw [hasFolder, labelPath, labelsDir, List.dropLast_append_of_ne_nil (List.cons_ne_nil _ _)]
  rfl

variable {network : Network}

/-- An image without a folder is not written. -/
theorem performs_image (split : Split) (name : String) (frame : Image)
    (disk : ServerDisk Image) :
    Performs isDir [(imagePath backendDir split name, .image frame)] disk
      (.ok (), if isDir (imagesDir backendDir split) then
        disk.save (imagePath backendDir split name) (.image frame) else disk) := by
  constructor
  · rw [LabelsOpen, List.forall_mem_singleton]
    exact iff_of_true rfl fun _ h ↦ nomatch h
  · intro _
    rw [List.filter_singleton, hasFolder_image]
    cases isDir (imagesDir backendDir split) <;> rfl

/-- A label file without a folder raises. -/
theorem performs_label (split : Split) (name : String) (lines : List LabelLine)
    (disk : ServerDisk Image) :
    Performs isDir [(labelPath backendDir split name, .labels lines)] disk
      (if isDir (labelsDir backendDir split) then
        (.ok (), disk.save (labelPath backendDir split name) (.labels lines))
      else (.error .fileNotFound, disk)) := by
  have hopen : LabelsOpen isDir
      [((labelPath backendDir split name, .labels lines) : Path × File Image)] ↔
        isDir (labelsDir backendDir split) = true := by
    rw [LabelsOpen, List.forall_mem_singleton, hasFolder_label]
    exact ⟨fun h ↦ h lines rfl, fun h _ _ ↦ h⟩
  split
  · next hdir =>
      refine ⟨iff_of_true rfl (hopen.mpr hdir), fun _ ↦ ?_⟩
      rw [List.filter_singleton, hasFolder_label, hdir]
      rfl
  · next hdir => exact ⟨iff_of_false (fun h ↦ nomatch h) (hdir ∘ hopen.mp), fun h ↦ nomatch h⟩

/-- The uploads stay as they are. -/
theorem read_uploadPath_filter {choose : ℕ → Split} {personId : ℕ} {personName : String}
    {frames : List Image} (disk : ServerDisk Image) (video : String) :
    (disk.saveAll ((videoWrites host backendDir network choose personId personName frames
        0).filter (hasFolder isDir))).read (uploadPath backendDir video) =
      disk.read (uploadPath backendDir video) := by
  rw [Disk.read, Disk.read, file?_saveAll_of_not_inside (fun write hwrite ↦ ?_)
    not_inside_datasetDir_uploadPath]
  exact isDatasetFile_of_mem_videoWrites (List.mem_of_mem_filter hwrite)

variable (host backendDir isDir network)

/-- One frame. -/
theorem performs_writeFrameIn (choose : ℕ → Split) (personId : ℕ) (personName : String)
    (frameId : ℕ) (frame : Image) (disk : ServerDisk Image) :
    Performs isDir (frameWrites host backendDir network choose personId personName frame frameId)
      disk (writeFrameIn host backendDir isDir network choose personId personName frameId frame
        disk) := by
  unfold frameWrites writeFrameIn
  dsimp only
  split
  · exact (performs_image _ _ frame disk).append (performs_label _ _ _ _)
  · exact performs_image _ _ frame disk

/-- The loop of `extract_frames`. -/
theorem performs_extractLoopIn (choose : ℕ → Split) (personId : ℕ) (personName : String)
    (rotation : ℤ) (frames : List Image) (frameId : ℕ) (disk : ServerDisk Image) :
    Performs isDir (videoWrites host backendDir network choose personId personName
        (frames.map (rotateFrame host rotation)) frameId) disk
      (extractLoopIn host backendDir isDir network choose personId personName rotation frameId
        frames disk) := by
  induction frames generalizing frameId disk with
  | nil => exact .nil disk
  | cons frame frames ih =>
      have hframe := performs_writeFrameIn host backendDir isDir network choose personId
        personName frameId (rotateFrame host rotation frame) disk
      rw [extractLoopIn, List.map_cons, videoWrites, List.zipIdx_cons, List.flatMap_cons]
      rcases houtcome : writeFrameIn host backendDir isDir network choose personId personName
        frameId (rotateFrame host rotation frame) disk with ⟨e | _, disk'⟩
      · rw [houtcome] at hframe
        exact hframe.raises _
      · rw [houtcome] at hframe
        exact hframe.append (ih (frameId + 1) disk')

/-- `extract_frames` of a video that can be read. -/
theorem performs_extractFramesIn {video : File Image}
    (hreadable : (getVideoRotation (host.tracks video)).isOk = true) (choose : ℕ → Split)
    (personId : ℕ) (personName : String) (disk : ServerDisk Image) :
    Performs isDir (videoWrites host backendDir network choose personId personName
        (videoFrames host video) 0) disk
      (extractFramesIn host backendDir isDir network choose video personId personName disk) := by
  rw [extractFramesIn, videoFrames]
  cases hrotation : getVideoRotation (host.tracks video) with
  | error e =>
      rw [hrotation] at hreadable
      cases hreadable
  | ok rotation => exact performs_extractLoopIn host backendDir isDir network _ _ _ _ _ _ _

variable {host backendDir isDir network}

/-- `extract_frames` of a video that cannot be read. -/
theorem extractFramesIn_of_not_isOk {video : File Image}
    (hunreadable : (getVideoRotation (host.tracks video)).isOk = false) (choose : ℕ → Split)
    (personId : ℕ) (personName : String) (disk : ServerDisk Image) :
    ∃ e, extractFramesIn host backendDir isDir network choose video personId personName disk =
      (.error e, disk) := by
  rw [extractFramesIn]
  cases hrotation : getVideoRotation (host.tracks video) with
  | error e => exact ⟨e, rfl⟩
  | ok rotation =>
      rw [hrotation] at hunreadable
      cases hunreadable

/-- The loop of `process_videos`: if it ends, all videos can be read, and if they can, it
performs the writes of the dataset. -/
theorem performs_extractAllIn (choose : ℕ → ℕ → Split) (base : ServerDisk Image)
    (videos : List String) (personId : ℕ) (disk : ServerDisk Image)
    (hbase : ∀ video, disk.read (uploadPath backendDir video) =
      base.read (uploadPath backendDir video)) :
    ((extractAllIn host backendDir isDir network choose personId videos disk).1 = .ok () →
        ∀ video ∈ videos, readable host backendDir base video = true) ∧
      ((∀ video ∈ videos, readable host backendDir base video = true) →
        Performs isDir (datasetWrites host backendDir network choose base personId videos) disk
          (extractAllIn host backendDir isDir network choose personId videos disk)) := by
  induction videos generalizing personId disk with
  | nil => exact ⟨fun _ ↦ List.forall_mem_nil _, fun _ ↦ .nil disk⟩
  | cons video videos ih =>
      rw [extractAllIn, List.forall_mem_cons]
      cases hread : disk.read (uploadPath backendDir video) with
      | none =>
          have hmissing : readable host backendDir base video = false := by
            rw [readable, ← hbase, hread]
          rw [hmissing]
          constructor
          · intro h
            cases h
          · intro h
            exact absurd h.1 Bool.false_ne_true
      | some file =>
          have hfile := (hbase video).symm.trans hread
          rw [readable_of_read hfile, datasetWrites_cons, framesOf_of_read hfile]
          dsimp only
          cases hok : (getVideoRotation (host.tracks file)).isOk with
          | false =>
              obtain ⟨e, he⟩ := extractFramesIn_of_not_isOk hok (choose personId) personId
                (stem video) disk
              rw [he]
              constructor
              · intro h
                cases h
              · intro h
                exact absurd h.1 Bool.false_ne_true
          | true =>
              have hframes := performs_extractFramesIn host backendDir isDir network hok
                (choose personId) personId (stem video) disk
              rcases houtcome : extractFramesIn host backendDir isDir network (choose personId)
                file personId (stem video) disk with ⟨e | _, disk'⟩
              · rw [houtcome] at hframes
                constructor
                · intro h
                  cases h
                · exact fun _ ↦ hframes.raises _
              · rw [houtcome] at hframes
                have hdisk := hframes.disk rfl
                dsimp only at hdisk ⊢
                obtain ⟨hread', hrest⟩ := ih (personId + 1) disk' fun v ↦ by
                  rw [← hbase, hdisk, read_uploadPath_filter]
                exact ⟨fun h ↦ ⟨rfl, hread' h⟩, fun h ↦ hframes.append (hrest h.2)⟩

variable (host network) in
/-- `process_videos` performs the writes of the dataset after that of `data.yaml`. -/
theorem performs_processVideosIn (hdir : isDir (datasetDir backendDir) = true)
    (listing : List String) (choose : ℕ → ℕ → Split) (disk : ServerDisk Image) :
    ((processVideosIn host backendDir isDir network listing choose disk).1 = .ok () →
        ∀ video ∈ listing.filter isVideo, readable host backendDir disk video = true) ∧
      ((∀ video ∈ listing.filter isVideo, readable host backendDir disk video = true) →
        Performs isDir
          (datasetWrites host backendDir network choose disk 0 (listing.filter isVideo))
          (disk.save (yamlPath backendDir)
            (.yaml
              { names := (listing.filter isVideo).map stem
                nc := (listing.filter isVideo).length }))
          (processVideosIn host backendDir isDir network listing choose disk)) := by
  rw [processVideosIn, if_pos hdir]
  refine performs_extractAllIn choose disk _ 0 _ fun video ↦ ?_
  exact Disk.read_save_of_ne _ _ uploadPath_ne_yamlPath

section ProcessVideos

variable {listing : List String} {choose : ℕ → ℕ → Split}

/-- **`process_videos`, into any dataset.**  It ends without raising if and only if there is
a dataset, every listed video can be read, and no label file is in want of a folder. -/
theorem processVideosIn_ok_iff :
    (processVideosIn host backendDir isDir network listing choose disk).1 = .ok () ↔
      isDir (datasetDir backendDir) = true ∧
        (∀ video ∈ listing.filter isVideo, readable host backendDir disk video = true) ∧
        LabelsOpen isDir (datasetWrites host backendDir network choose disk 0
          (listing.filter isVideo)) := by
  by_cases hdir : isDir (datasetDir backendDir) = true
  · obtain ⟨hread, hperforms⟩ :=
      performs_processVideosIn host network hdir listing choose disk
    exact ⟨fun hok ↦ ⟨hdir, hread hok, (hperforms (hread hok)).ok_iff.mp hok⟩,
      fun h ↦ (hperforms h.2.1).ok_iff.mpr h.2.2⟩
  · rw [processVideosIn, if_neg hdir]
    exact iff_of_false (fun h ↦ (nomatch h)) fun h ↦ hdir h.1

/-- Then the files are there for which there are folders. -/
theorem disk_processVideosIn
    (hok : (processVideosIn host backendDir isDir network listing choose disk).1 = .ok ()) :
    (processVideosIn host backendDir isDir network listing choose disk).2 =
      (disk.save (yamlPath backendDir)
        (.yaml
          { names := (listing.filter isVideo).map stem
            nc := (listing.filter isVideo).length })).saveAll
        ((datasetWrites host backendDir network choose disk 0 (listing.filter isVideo)).filter
          (hasFolder isDir)) := by
  obtain ⟨hdir, hreadable, -⟩ := processVideosIn_ok_iff.mp hok
  exact ((performs_processVideosIn host network hdir listing choose disk).2 hreadable).disk hok

end ProcessVideos

end Performs

end Courtside
