import Courtside.Training.Soundness

/-!
# Extraction without loss

The files of a frame are named after the stem of its video and the number of the frame, and
its class is the position of its video in the list of stems.  Videos whose names differ in
the extension only have one stem, so their frames overwrite one another or share a name in
two splits, and a name stands for two classes.  And a video whose rotation cannot be read
ends the extraction.

Nothing else can go wrong: into a fresh dataset, every frame of every listed video is
extracted and labelled as it is meant to be exactly if stems are distinct and every video up
to the last one with frames can be read (`lossless_iff`).
-/

universe u v

namespace Courtside

/-- An element is in the first part of a list that satisfies a test if it and all before it
satisfy the test. -/
theorem getElem?_takeWhile_iff {α : Type u} {p : α → Bool} {as : List α} {i : ℕ} {a : α} :
    (as.takeWhile p)[i]? = some a ↔
      as[i]? = some a ∧ ∀ j b, j ≤ i → as[j]? = some b → p b = true := by
  induction as generalizing i with
  | nil => simp
  | cons b as ih =>
      by_cases hb : p b = true
      · rw [List.takeWhile_cons_of_pos hb]
        cases i with
        | zero =>
            refine ⟨fun h ↦ ⟨h, fun j c hj hc ↦ ?_⟩, And.left⟩
            obtain rfl := Nat.le_zero.mp hj
            exact Option.some.inj hc ▸ hb
        | succ i =>
            rw [List.getElem?_cons_succ, List.getElem?_cons_succ, ih]
            refine and_congr_right fun _ ↦ ⟨fun h j c hj hc ↦ ?_, fun h j c hj hc ↦ ?_⟩
            · cases j with
              | zero => exact Option.some.inj hc ▸ hb
              | succ j => exact h j c (Nat.le_of_succ_le_succ hj) hc
            · exact h (j + 1) c (Nat.succ_le_succ hj) hc
      · rw [List.takeWhile_cons_of_neg hb]
        refine ⟨fun h ↦ (nomatch h), fun h ↦ absurd (h.2 0 b (Nat.zero_le i) rfl) hb⟩

variable {Image : Type u} {Network : Type v} (host : Host Image Network) (backendDir : Path)

/-! ## What is meant -/

/-- The frames that a capture of a video yields. -/
def captured (disk : ServerDisk Image) (video : String) : List Image :=
  match disk.read (uploadPath backendDir video) with
  | some file => host.capture file
  | none => []

/-- No frame of the listed videos is lost, and none is mislabelled. -/
structure Lossless (network : Network) (choose : ℕ → ℕ → Split) (videos : List String)
    (before after : ServerDisk Image) : Prop where
  /-- `data.yaml` has one name for each video. -/
  names : ∃ data, after.read (yamlPath backendDir) = some (.yaml data) ∧ data.names.Nodup ∧
    ∀ (personId : ℕ) (video : String), videos[personId]? = some video →
      data.names[personId]? = some (stem video)
  /-- Every frame has its image. -/
  image : ∀ (personId : ℕ) (video : String) (frameId : ℕ), videos[personId]? = some video →
    frameId < (captured host backendDir before video).length →
      ∃ frame, (framesOf host backendDir before video)[frameId]? = some frame ∧
        after.read (imagePath backendDir (choose personId frameId)
          (frameFilename (stem video) frameId ".jpg")) = some (.image frame)
  /-- No two frames have one image. -/
  distinct : ∀ (personId : ℕ) (video : String) (frameId personId' : ℕ) (video' : String)
    (frameId' : ℕ), videos[personId]? = some video → videos[personId']? = some video' →
    imagePath backendDir (choose personId frameId) (frameFilename (stem video) frameId ".jpg") =
      imagePath backendDir (choose personId' frameId')
        (frameFilename (stem video') frameId' ".jpg") →
    personId = personId' ∧ frameId = frameId'
  /-- A frame on which something is detected has its label file, in the split of its image. -/
  labelled : ∀ (personId : ℕ) (video : String) (frameId : ℕ) (frame : Image),
    videos[personId]? = some video →
    (framesOf host backendDir before video)[frameId]? = some frame →
    0 < (host.detect network frame).length →
      after.read (labelPath backendDir (choose personId frameId)
        (frameFilename (stem video) frameId ".txt")) =
        some (.labels (labelLines host network personId frame))
  /-- Every label file is one of these, and its lines start with the position of its video. -/
  label : ∀ split name file, after.read (labelPath backendDir split name) = some file →
    ∃ (personId : ℕ) (video : String) (frameId : ℕ) (frame : Image),
      videos[personId]? = some video ∧
      (framesOf host backendDir before video)[frameId]? = some frame ∧
      split = choose personId frameId ∧ name = frameFilename (stem video) frameId ".txt" ∧
      file = .labels (labelLines host network personId frame) ∧
      ∀ line ∈ labelLines host network personId frame, line.personId = personId

/-- All videos up to the last one with frames can be read. -/
def ReadableSoFar (videos : List String) (disk : ServerDisk Image) : Prop :=
  ∀ (personId : ℕ) (video : String), videos[personId]? = some video →
    captured host backendDir disk video ≠ [] →
    ∀ (j : ℕ) (video' : String), j ≤ personId → videos[j]? = some video' →
      readable host backendDir disk video' = true

variable {host backendDir}

/-! ## Frames -/

/-- A video that can be read has as many frames as are captured. -/
theorem length_framesOf {disk : ServerDisk Image} {video : String}
    (h : readable host backendDir disk video = true) :
    (framesOf host backendDir disk video).length =
      (captured host backendDir disk video).length := by
  cases hread : disk.read (uploadPath backendDir video) with
  | none => rw [framesOf, captured, hread]
  | some file =>
      rw [readable_of_read hread] at h
      rw [framesOf_of_read hread, videoFrames, captured, hread]
      cases hrotation : getVideoRotation (host.tracks file) with
      | error e =>
          rw [hrotation] at h
          cases h
      | ok rotation => exact List.length_map _

/-- A frame that is extracted was captured. -/
theorem captured_ne_nil {disk : ServerDisk Image} {video : String} {frameId : ℕ} {frame : Image}
    (h : (framesOf host backendDir disk video)[frameId]? = some frame) :
    captured host backendDir disk video ≠ [] := by
  intro hnil
  cases hreadable : readable host backendDir disk video with
  | false =>
      rw [framesOf_eq_nil hreadable] at h
      cases h
  | true =>
      have hlength := length_framesOf hreadable
      rw [hnil, List.length_nil, List.length_eq_zero_iff] at hlength
      rw [hlength] at h
      cases h

/-! ## One extraction -/

section Extraction

variable {network : Network} {choose : ℕ → ℕ → Split} {videos : List String}
  {disk : ServerDisk Image} {data : DataYaml}

/-- The videos before the first that cannot be read. -/
abbrev readableVideos (host : Host Image Network) (backendDir : Path) (videos : List String)
    (disk : ServerDisk Image) : List String :=
  videos.takeWhile (readable host backendDir disk)

/-- Videos that can be read keep their numbers. -/
theorem getElem?_of_readableVideos {personId : ℕ} {video : String}
    (h : (readableVideos host backendDir videos disk)[personId]? = some video) :
    videos[personId]? = some video := (getElem?_takeWhile_iff.mp h).1

/-- Their stems are among all stems. -/
theorem nodup_stems_readableVideos (h : (videos.map stem).Nodup) :
    ((readableVideos host backendDir videos disk).map stem).Nodup :=
  h.sublist ((List.takeWhile_prefix _).sublist.map stem)

/-- If every video up to the last one with frames can be read, all frames are extracted. -/
theorem ReadableSoFar.extracted (h : ReadableSoFar host backendDir videos disk) {personId : ℕ}
    {video : String} (hvideo : videos[personId]? = some video)
    (hcaptured : captured host backendDir disk video ≠ []) :
    (readableVideos host backendDir videos disk)[personId]? = some video :=
  getElem?_takeWhile_iff.mpr ⟨hvideo, h personId video hvideo hcaptured⟩

/-- The image of a captured frame. -/
theorem exists_image (hstems : (videos.map stem).Nodup)
    (hreadable : ReadableSoFar host backendDir videos disk) {base : ServerDisk Image}
    {personId frameId : ℕ} {video : String} (hvideo : videos[personId]? = some video)
    (hframe : frameId < (captured host backendDir disk video).length) :
    ∃ frame, (framesOf host backendDir disk video)[frameId]? = some frame ∧
      (base.saveAll (datasetWrites host backendDir network choose disk 0
        (readableVideos host backendDir videos disk))).read (imagePath backendDir
          (choose personId frameId) (frameFilename (stem video) frameId ".jpg")) =
        some (.image frame) := by
  have hcaptured : captured host backendDir disk video ≠ [] :=
    List.length_pos_iff.mp (Nat.lt_of_le_of_lt (Nat.zero_le _) hframe)
  have hlength := length_framesOf (hreadable personId video hvideo hcaptured personId video
    (le_refl _) hvideo)
  rw [← hlength] at hframe
  refine ⟨_, List.getElem?_eq_getElem hframe, ?_⟩
  apply read_of_mem_datasetWrites (nodup_stems_readableVideos hstems)
  exact mem_datasetWrites.mpr ⟨personId, video, frameId, _, hreadable.extracted hvideo hcaptured,
    List.getElem?_eq_getElem hframe, .inl rfl⟩

/-- Only a video that can be read, as all before it, has images in the end. -/
theorem Fresh.readable_of_image (hfresh : Fresh backendDir disk) (hstems : (videos.map stem).Nodup)
    {personId frameId : ℕ} {video : String} {split : Split} {file : File Image}
    (hvideo : videos[personId]? = some video)
    (hread : ((disk.save (yamlPath backendDir) (.yaml data)).saveAll
      (datasetWrites host backendDir network choose disk 0
        (readableVideos host backendDir videos disk))).read
          (imagePath backendDir split (frameFilename (stem video) frameId ".jpg")) = some file)
    {j : ℕ} {video' : String} (hj : j ≤ personId) (hvideo' : videos[j]? = some video') :
    readable host backendDir disk video' = true := by
  have hmem := hfresh.mem_datasetWrites ⟨split, _, .inl rfl⟩ hread
  obtain ⟨personId', other, frameId', frame, hother, -, -, hname, -⟩ :=
    image_of_mem_datasetWrites hmem
  obtain ⟨rfl, -⟩ := frame_unique hstems hvideo (getElem?_of_readableVideos hother) hname
  exact (getElem?_takeWhile_iff.mp hother).2 j video' hj hvideo'

end Extraction

/-! ## `process_videos` -/

/-- **Lossless extraction.**  Into a fresh dataset, whatever the names, the frames, the
detections and the draws: no frame is lost or mislabelled if and only if the listed videos
have distinct stems, and all up to the last one with frames can be read. -/
theorem lossless_iff {network : Network} (listing : List String) {choose : ℕ → ℕ → Split}
    {disk : ServerDisk Image} (hfresh : Fresh backendDir disk) :
    Lossless host backendDir network choose (listing.filter isVideo) disk
        (processVideos host backendDir network listing choose disk).2 ↔
      ((listing.filter isVideo).map stem).Nodup ∧
        ReadableSoFar host backendDir (listing.filter isVideo) disk := by
  obtain ⟨hdisk, -⟩ := processVideos_takeWhile host backendDir network listing choose disk
  rw [hdisk]
  generalize listing.filter isVideo = videos
  have hyaml : ((disk.save (yamlPath backendDir)
      (.yaml { names := videos.map stem, nc := videos.length })).saveAll
        (datasetWrites host backendDir network choose disk 0
          (readableVideos host backendDir videos disk))).read (yamlPath backendDir) =
      some (.yaml { names := videos.map stem, nc := videos.length }) :=
    read_yamlPath_saveAll _ disk
  constructor
  · intro h
    obtain ⟨data, hdata, hnodup, -⟩ := h.names
    obtain rfl : ({ names := videos.map stem, nc := videos.length } : DataYaml) = data :=
      File.yaml.inj (Option.some.inj (hyaml.symm.trans hdata))
    refine ⟨hnodup, fun personId video hvideo hcaptured j video' hj hvideo' ↦ ?_⟩
    obtain ⟨frame, -, hread⟩ := h.image personId video 0 hvideo (List.length_pos_iff.mpr hcaptured)
    exact hfresh.readable_of_image hnodup hvideo hread hj hvideo'
  · rintro ⟨hstems, hreadable⟩
    refine ⟨⟨_, hyaml, hstems, fun personId video hvideo ↦ ?_⟩,
      fun personId video frameId hvideo hframe ↦ exists_image hstems hreadable hvideo hframe,
      fun personId video frameId personId' video' frameId' hvideo hvideo' hpath ↦ ?_,
      fun personId video frameId frame hvideo hframe hdetected ↦ ?_,
      fun split name file hread ↦ ?_⟩
    · rw [List.getElem?_map, hvideo, Option.map_some]
    · exact frame_unique hstems hvideo hvideo' (imagePath_inj hpath).2
    · apply read_of_mem_datasetWrites (nodup_stems_readableVideos hstems)
      rw [mem_datasetWrites]
      exact ⟨personId, video, frameId, frame, hreadable.extracted hvideo (captured_ne_nil hframe),
        hframe, .inr ⟨hdetected, rfl⟩⟩
    · have hmem := hfresh.mem_datasetWrites ⟨split, name, .inr rfl⟩ hread
      obtain ⟨personId, video, frameId, frame, hvideo, hframe, hsplit, hname, hfile⟩ :=
        label_of_mem_datasetWrites hmem
      exact ⟨personId, video, frameId, frame, getElem?_of_readableVideos hvideo, hframe, hsplit,
        hname, hfile, fun _ ↦ personId_of_mem_labelLines⟩

/-! ## Samples -/

/-- A folder with two videos of one frame each, `0` and `1`. -/
def folderOfTwo (video₀ video₁ : String) : ServerDisk UInt8 :=
  ((Disk.empty (.bytes [])).save (uploadPath [] video₀) (.bytes [0])).save (uploadPath [] video₁)
    (.bytes [1])

theorem fresh_folderOfTwo (video₀ video₁ : String) : Fresh [] (folderOfTwo video₀ video₁) := by
  intro p hp
  have hne : ∀ video, p ≠ uploadPath [] video := by
    rintro video rfl
    exact not_inside_datasetDir_uploadPath hp.inside
  rw [folderOfTwo, Disk.read_save_of_ne _ _ (hne _), Disk.read_save_of_ne _ _ (hne _)]
  rfl

/-- Two videos of different players are no problem. -/
theorem lossless_iff_sample :
    Lossless sampleHost [] () (fun _ _ ↦ .train) ["Sam_A.mp4", "Ann_B.mov"]
      (folderOfTwo "Sam_A.mp4" "Ann_B.mov")
      (processVideos sampleHost [] () ["Sam_A.mp4", "Ann_B.mov"] (fun _ _ ↦ .train)
        (folderOfTwo "Sam_A.mp4" "Ann_B.mov")).2 := by
  have hreadable : ∀ video ∈ ["Sam_A.mp4", "Ann_B.mov"],
      readable sampleHost [] (folderOfTwo "Sam_A.mp4" "Ann_B.mov") video = true := by
    decide
  exact (lossless_iff ["Sam_A.mp4", "Ann_B.mov"] (fresh_folderOfTwo _ _)).mpr ⟨by decide,
    fun _ _ _ _ _ video' _ hvideo' ↦ hreadable video' (List.mem_of_getElem? hvideo')⟩

/-- Two videos of one player, in different formats: the frame of the first is lost, and the
name is there twice. -/
theorem lossless_iff_sample_fails :
    ["Sam_A.mp4", "Sam_A.mov"].Perm (listUploads [] (folderOfTwo "Sam_A.mp4" "Sam_A.mov")) ∧
      (processVideos sampleHost [] () ["Sam_A.mp4", "Sam_A.mov"] (fun _ _ ↦ .train)
        (folderOfTwo "Sam_A.mp4" "Sam_A.mov")).2.read
          (imagePath [] .train "Sam_A_frame_0.jpg") = some (.image 1) ∧
      ¬ Lossless sampleHost [] () (fun _ _ ↦ .train) ["Sam_A.mp4", "Sam_A.mov"]
        (folderOfTwo "Sam_A.mp4" "Sam_A.mov")
        (processVideos sampleHost [] () ["Sam_A.mp4", "Sam_A.mov"] (fun _ _ ↦ .train)
          (folderOfTwo "Sam_A.mp4" "Sam_A.mov")).2 := by
  refine ⟨by decide, by decide, fun h ↦ ?_⟩
  have hdistinct := h.distinct 0 "Sam_A.mp4" 0 1 "Sam_A.mov" 0 rfl rfl (by decide)
  exact absurd hdistinct.1 (by decide)

end Courtside
