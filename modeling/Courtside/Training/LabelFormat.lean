import Courtside.Data.Rows
import Courtside.Training.Labels
import Mathlib.Algebra.Order.Field.Basic
import Mathlib.Algebra.Order.Field.Rat
import Mathlib.Tactic.FieldSimp
import Mathlib.Tactic.Linarith
import Mathlib.Tactic.Ring

/-!
# Reading label files

A label file has a line for each person in a frame: the class, and the centre and the size of
a box relative to those of the frame.  `LabelLine.toPixels` is the way back, and it gives the
boxes that were detected (`toPixels_labelLine`).  If these are inside the frame, everything
that is written is between `0` and `1`, as the trainer requires (`normalized_labelLine`).

The text of a file depends on how numbers are written, which is given by a `NumberFormat`.
The lines are read back if the numbers are (`readLabels_labelText`).
-/

universe u v

namespace Courtside

/-! ## Boxes -/

/-- A box inside a frame of some height and width. -/
structure BoundingBox.InFrame (height width : ℕ) (box : BoundingBox) : Prop where
  xMin : 0 ≤ box.xMin
  x : box.xMin ≤ box.xMax
  xMax : box.xMax ≤ width
  yMin : 0 ≤ box.yMin
  y : box.yMin ≤ box.yMax
  yMax : box.yMax ≤ height

namespace LabelLine

/-- The class, and the box in pixels. -/
def toPixels (height width : ℕ) (line : LabelLine) : ℕ × BoundingBox :=
  (line.personId,
    { xMin := (line.xCenter - line.normWidth / 2) * width
      yMin := (line.yCenter - line.normHeight / 2) * height
      xMax := (line.xCenter + line.normWidth / 2) * width
      yMax := (line.yCenter + line.normHeight / 2) * height })

/-- The numbers of a line. -/
def values (line : LabelLine) : List ℚ :=
  [line.xCenter, line.yCenter, line.normWidth, line.normHeight]

/-- The edges of the box of a line. -/
def edges (line : LabelLine) : List ℚ :=
  [line.xCenter - line.normWidth / 2, line.xCenter + line.normWidth / 2,
    line.yCenter - line.normHeight / 2, line.yCenter + line.normHeight / 2]

/-- All numbers of the line are between `0` and `1`, and so are the edges of its box. -/
def Normalized (line : LabelLine) : Prop :=
  ∀ value ∈ line.values ++ line.edges, 0 ≤ value ∧ value ≤ 1

end LabelLine

section Boxes

variable {personId height width : ℕ} {box : YoloBox}

/-- The way back. -/
theorem toPixels_labelLine (hheight : 0 < height) (hwidth : 0 < width) :
    (labelLine personId height width box).toPixels height width = (personId, box.xyxy) := by
  have hh : (height : ℚ) ≠ 0 := Nat.cast_ne_zero.mpr hheight.ne'
  have hw : (width : ℚ) ≠ 0 := Nat.cast_ne_zero.mpr hwidth.ne'
  refine Prod.ext rfl ?_
  rw [LabelLine.toPixels, BoundingBox.mk.injEq]
  refine ⟨?_, ?_, ?_, ?_⟩ <;>
  · simp only [labelLine]
    field_simp
    ring

/-- A part of a length is between `0` and `1` of it. -/
theorem div_mem_unit {value length : ℚ} (hlength : 0 < length) (h₀ : 0 ≤ value)
    (h₁ : value ≤ length) : 0 ≤ value / length ∧ value / length ≤ 1 :=
  ⟨div_nonneg h₀ hlength.le, (div_le_one hlength).mpr h₁⟩

/-- A box inside the frame has a normalized line. -/
theorem normalized_labelLine (hheight : 0 < height) (hwidth : 0 < width)
    (hbox : box.xyxy.InFrame height width) :
    (labelLine personId height width box).Normalized := by
  obtain ⟨hxMin, hx, hxMax, hyMin, hy, hyMax⟩ := hbox
  have hh : (0 : ℚ) < height := Nat.cast_pos.mpr hheight
  have hw : (0 : ℚ) < width := Nat.cast_pos.mpr hwidth
  have hedges : (labelLine personId height width box).edges =
      [box.xyxy.xMin / width, box.xyxy.xMax / width, box.xyxy.yMin / height,
        box.xyxy.yMax / height] := by
    simp only [LabelLine.edges, labelLine, List.cons.injEq, and_true]
    refine ⟨?_, ?_, ?_, ?_⟩ <;> ring
  intro value hvalue
  rw [hedges] at hvalue
  simp only [LabelLine.values, labelLine, List.cons_append, List.nil_append, List.mem_cons,
    List.not_mem_nil, or_false] at hvalue
  rcases hvalue with rfl | rfl | rfl | rfl | rfl | rfl | rfl | rfl
  · exact div_mem_unit hw (by linarith) (by linarith)
  · exact div_mem_unit hh (by linarith) (by linarith)
  · exact div_mem_unit hw (by linarith) (by linarith)
  · exact div_mem_unit hh (by linarith) (by linarith)
  · exact div_mem_unit hw hxMin (by linarith)
  · exact div_mem_unit hw (by linarith) hxMax
  · exact div_mem_unit hh hyMin (by linarith)
  · exact div_mem_unit hh (by linarith) hyMax

end Boxes

/-! ## Text -/

/-- How numbers are written, and how they are read. -/
structure NumberFormat where
  str : ℚ → String
  float : String → Option ℚ

/-- The number is read back from what is written for it, and that is a single field. -/
structure NumberFormat.Faithful (format : NumberFormat) (value : ℚ) : Prop where
  float : format.float (format.str value) = some value
  blank : ' ' ∉ (format.str value).toList
  newline : '\n' ∉ (format.str value).toList

/-- `f"{person_id} {x_center} {y_center} {norm_width} {norm_height}\n"`. -/
def LabelLine.text (format : NumberFormat) (line : LabelLine) : String :=
  toString line.personId ++ " " ++ format.str line.xCenter ++ " " ++ format.str line.yCenter ++
    " " ++ format.str line.normWidth ++ " " ++ format.str line.normHeight ++ "\n"

/-- What is written to a label file. -/
def labelText (format : NumberFormat) (lines : List LabelLine) : String :=
  String.join (lines.map (LabelLine.text format))

/-- A line is read by its fields. -/
def readFields (format : NumberFormat) : List (List Char) → Option LabelLine
  | [personId, xCenter, yCenter, normWidth, normHeight] => do
      let xCenter ← format.float (String.ofList xCenter)
      let yCenter ← format.float (String.ofList yCenter)
      let normWidth ← format.float (String.ofList normWidth)
      let normHeight ← format.float (String.ofList normHeight)
      return { personId := Nat.ofDigitChars 10 personId 0, xCenter, yCenter, normWidth, normHeight }
  | _ => none

/-- A label file is read line by line. -/
def readLabels (format : NumberFormat) (text : String) : Option (List LabelLine) :=
  (parseRows ' ' '\n' text.toList).mapM (readFields format)

/-- The fields of a line. -/
def LabelLine.fields (format : NumberFormat) (line : LabelLine) : List (List Char) :=
  Nat.toDigits 10 line.personId :: line.values.map fun value ↦ (format.str value).toList

section Text

variable {format : NumberFormat}

theorem toList_text (line : LabelLine) :
    (line.text format).toList = [' '].intercalate (line.fields format) ++ ['\n'] := by
  simp [LabelLine.text, LabelLine.fields, LabelLine.values, List.intercalate]

theorem toList_labelText (lines : List LabelLine) :
    (labelText format lines).toList =
      renderRows ' ' '\n' (lines.map (LabelLine.fields format)) := by
  rw [labelText, String.toList_join, renderRows, List.flatMap_map, List.flatMap_map]
  exact List.flatMap_congr fun line _ ↦ toList_text line

/-- A number in decimal digits has neither blanks nor line ends. -/
theorem notMem_toDigits {c : Char} (hc : c.isDigit = false) (n : ℕ) : c ∉ Nat.toDigits 10 n := by
  intro hmem
  have hdigit := Nat.isDigit_of_mem_toDigits (by decide) (by decide) hmem
  rw [hc] at hdigit
  cases hdigit

/-- The fields of a line are single fields, if its numbers are. -/
theorem notMem_fields {line : LabelLine} (h : ∀ value ∈ line.values, format.Faithful value)
    {field : List Char} (hfield : field ∈ line.fields format) : ' ' ∉ field ∧ '\n' ∉ field := by
  rcases List.mem_cons.mp hfield with rfl | hvalue
  · exact ⟨notMem_toDigits (by decide) _, notMem_toDigits (by decide) _⟩
  · obtain ⟨value, hmem, rfl⟩ := List.mem_map.mp hvalue
    exact ⟨(h value hmem).blank, (h value hmem).newline⟩

/-- A line is read back from its fields, if its numbers are. -/
theorem readFields_fields {line : LabelLine} (h : ∀ value ∈ line.values, format.Faithful value) :
    readFields format (line.fields format) = some line := by
  have hx := (h line.xCenter (by simp [LabelLine.values])).float
  have hy := (h line.yCenter (by simp [LabelLine.values])).float
  have hw := (h line.normWidth (by simp [LabelLine.values])).float
  have hh := (h line.normHeight (by simp [LabelLine.values])).float
  simp [LabelLine.fields, LabelLine.values, readFields, hx, hy, hw, hh,
    Nat.ofDigitChars_ten_toDigits]

/-- **Text.**  A label file is read back as it was written, if its numbers are. -/
theorem readLabels_labelText {lines : List LabelLine}
    (h : ∀ line ∈ lines, ∀ value ∈ line.values, format.Faithful value) :
    readLabels format (labelText format lines) = some lines := by
  have hrows : parseRows ' ' '\n' (labelText format lines).toList =
      lines.map (LabelLine.fields format) := by
    rw [toList_labelText]
    refine parseRows_renderRows (by decide) (fun row hrow ↦ ?_) fun row hrow field hfield ↦ ?_
    · obtain ⟨line, -, rfl⟩ := List.mem_map.mp hrow
      exact List.cons_ne_nil _ _
    · obtain ⟨line, hline, rfl⟩ := List.mem_map.mp hrow
      exact notMem_fields (h line hline) hfield
  rw [readLabels, hrows]
  clear hrows
  induction lines with
  | nil => rfl
  | cons line lines ih =>
      obtain ⟨hline, hlines⟩ := List.forall_mem_cons.mp h
      rw [List.map_cons, List.mapM_cons, readFields_fields hline, ih hlines]
      rfl

end Text

/-! ## `extract_frames` -/

variable {Image : Type u} {Network : Type v} (host : Host Image Network) (backendDir : Path)

/-- The label file of a frame, after `extract_frames`: a file if something was detected, and
otherwise what was there before. -/
theorem read_label_extractFrames (network : Network) (choose : ℕ → Split) {video : File Image}
    (personId : ℕ) (personName : String) (disk : ServerDisk Image) {frameId : ℕ} {frame : Image}
    (hframe : (videoFrames host video)[frameId]? = some frame) :
    (extractFrames host backendDir network choose video personId personName disk).2.read
        (labelPath backendDir (choose frameId) (frameFilename personName frameId ".txt")) =
      if 0 < (host.detect network frame).length then
        some (.labels (labelLines host network personId frame))
      else
        disk.read
          (labelPath backendDir (choose frameId) (frameFilename personName frameId ".txt")) := by
  let call : ExtractCall Image :=
    { video, personId, personName, choose, before := disk
      after := (extractFrames host backendDir network choose video personId personName disk).2 }
  have hlabelled : call.LabelledBy host backendDir network := ExtractCall.labelledBy rfl
  by_cases hdetected : 0 < (host.detect network frame).length
  · rw [if_pos hdetected]
    exact hlabelled.line frameId frame hframe hdetected
  · rw [if_neg hdetected]
    refine hlabelled.other _ _ fun frameId' frame' hframe' hdetected' hsame ↦ ?_
    -- the file of another frame has another name
    obtain ⟨-, rfl⟩ := frameFilename_inj hsame.2
    obtain rfl : frame = frame' := Option.some.inj (hframe.symm.trans hframe')
    exact hdetected hdetected'

variable {host} in
/-- The pixels of the lines of a label file are the boxes of class `0`, in order. -/
theorem map_toPixels_labelLines {network : Network} {personId : ℕ} {frame : Image}
    (hheight : 0 < (host.shape frame).1) (hwidth : 0 < (host.shape frame).2) :
    (labelLines host network personId frame).map
        (LabelLine.toPixels (host.shape frame).1 (host.shape frame).2) =
      ((host.detect network frame).filter fun box ↦ decide (box.cls = 0)).map fun box ↦
        (personId, box.xyxy) := by
  rw [labelLines, List.map_map]
  exact List.map_congr_left fun box _ ↦ toPixels_labelLine hheight hwidth

/-- **Label files.**  A label file is written for a frame if and only if something is
detected in it.  Its lines are the boxes of class `0`, in order, and all their numbers and
edges are between `0` and `1`; and they are read back from its text, if the numbers in it
are. -/
theorem labels_decode (network : Network) (choose : ℕ → Split) {video : File Image}
    (personId : ℕ) (personName : String) (disk : ServerDisk Image) {frameId : ℕ} {frame : Image}
    (hframe : (videoFrames host video)[frameId]? = some frame)
    (hheight : 0 < (host.shape frame).1) (hwidth : 0 < (host.shape frame).2)
    (hboxes : ∀ box ∈ host.detect network frame,
      box.xyxy.InFrame (host.shape frame).1 (host.shape frame).2) :
    let path := labelPath backendDir (choose frameId) (frameFilename personName frameId ".txt")
    let after := (extractFrames host backendDir network choose video personId personName disk).2
    (host.detect network frame = [] → after.read path = disk.read path) ∧
    (host.detect network frame ≠ [] → ∃ lines, after.read path = some (.labels lines) ∧
      lines.map (LabelLine.toPixels (host.shape frame).1 (host.shape frame).2) =
        ((host.detect network frame).filter fun box ↦ decide (box.cls = 0)).map (fun box ↦
          (personId, box.xyxy)) ∧
      (∀ line ∈ lines, line.Normalized) ∧
      ∀ format : NumberFormat,
        (∀ line ∈ lines, ∀ value ∈ line.values, format.Faithful value) →
          readLabels format (labelText format lines) = some lines) := by
  intro path after
  have hread := read_label_extractFrames host backendDir network choose personId personName disk
    hframe
  refine ⟨fun hnone ↦ ?_, fun hsome ↦ ?_⟩
  · rw [hnone, List.length_nil, if_neg (Nat.lt_irrefl 0)] at hread
    exact hread
  · rw [if_pos (List.length_pos_iff.mpr hsome)] at hread
    refine ⟨_, hread, map_toPixels_labelLines hheight hwidth, fun line hline ↦ ?_,
      fun format ↦ readLabels_labelText⟩
    obtain ⟨box, hbox, rfl⟩ := List.mem_map.mp hline
    exact normalized_labelLine hheight hwidth (hboxes box (List.mem_of_mem_filter hbox))

/-! ## A sample -/

/-- The numbers of the sample, as Python writes them. -/
def sampleFormat : NumberFormat where
  str value := if value = 1 / 4 then "0.25" else if value = 1 / 2 then "0.5" else "1.0"
  float text :=
    if text = "0.25" then some (1 / 4) else if text = "0.5" then some (1 / 2) else some 1

/-- The person in the sample frame has a line that is read back. -/
theorem labels_decode_sample :
    ∃ lines, (extractFrames sampleHost [] () (fun _ ↦ .train) (.bytes [7]) 3 "Sam_A"
        (Disk.empty (.bytes []))).2.read (labelPath [] .train "Sam_A_frame_0.txt") =
          some (.labels lines) ∧
      lines.map (LabelLine.toPixels 2 4) = [(3, ⟨0, 0, 2, 2⟩)] ∧
      labelText sampleFormat lines = "3 0.25 0.5 0.5 1.0\n" ∧
      readLabels sampleFormat "3 0.25 0.5 0.5 1.0\n" = some lines := by
  have hbox : BoundingBox.InFrame 2 4 ⟨0, 0, 2, 2⟩ := by
    constructor <;> norm_num
  have hboxes : ∀ box ∈ sampleHost.detect () 7, box.xyxy.InFrame 2 4 := by
    intro box hmem
    obtain rfl := List.mem_singleton.mp hmem
    exact hbox
  have hframe : (videoFrames sampleHost (.bytes [7]))[0]? = some 7 := rfl
  obtain ⟨lines, hread, hpixels, -, htext⟩ := (labels_decode sampleHost [] () (fun _ ↦ .train) 3
    "Sam_A" (Disk.empty (.bytes [])) hframe (by decide) (by decide) hboxes).2 (by decide)
  have hlines : lines = [⟨3, 1 / 4, 1 / 2, 1 / 2, 1⟩] := by
    have hfile : (extractFrames sampleHost [] () (fun _ ↦ .train) (.bytes [7]) 3 "Sam_A"
        (Disk.empty (.bytes []))).2.read (labelPath [] .train "Sam_A_frame_0.txt") =
          some (.labels [⟨3, 1 / 4, 1 / 2, 1 / 2, 1⟩]) := by
      decide +kernel
    exact File.labels.inj (Option.some.inj (hread.symm.trans hfile))
  have hfaithful : ∀ value ∈ [(1 / 4 : ℚ), 1 / 2, 1 / 2, 1], sampleFormat.Faithful value := by
    intro value hvalue
    simp only [List.mem_cons, List.not_mem_nil, or_false] at hvalue
    rcases hvalue with rfl | rfl | rfl | rfl
    · exact ⟨by decide +kernel, by decide +kernel, by decide +kernel⟩
    · exact ⟨by decide +kernel, by decide +kernel, by decide +kernel⟩
    · exact ⟨by decide +kernel, by decide +kernel, by decide +kernel⟩
    · exact ⟨by decide +kernel, by decide +kernel, by decide +kernel⟩
  have hlabelText : labelText sampleFormat lines = "3 0.25 0.5 0.5 1.0\n" := by
    rw [hlines]
    decide +kernel
  refine ⟨lines, hread, hpixels, hlabelText, ?_⟩
  rw [← hlabelText]
  refine htext sampleFormat fun line hline ↦ ?_
  rw [hlines] at hline
  obtain rfl := List.mem_singleton.mp hline
  exact hfaithful

end Courtside
