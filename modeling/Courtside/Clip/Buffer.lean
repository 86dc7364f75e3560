import Mathlib.Data.List.Induction

/-!
# The frame buffer of the live clip

`RealTimeClipCameraModel` collects frames on a serial queue.  An append block adds one
frame and hands out a batch when there are ten; a clear block empties the buffer.

The test is `count == 10`, so a buffer that ever held more than ten frames would never be
handed out again.  It does not: it holds fewer than ten between two blocks, whatever the
blocks are (`sized_runBlocks`).  No frame is lost or duplicated between two
clears (`batching_lossless`), because one append moves one frame into the batches followed
by the buffer (`contents_runBlock_append`).
-/

universe u

namespace Courtside

/-- A block on `bufferQueue`. -/
inductive Block (Frame : Type u) where
  | append (jpegData : Frame)
  | clear
deriving DecidableEq, Repr

/-- What the blocks work on. -/
structure FrameBuffer (Frame : Type u) where
  frameBuffer : List Frame
  /-- The batches handed to `sendFrames`, in order. -/
  sent : List (List Frame)
deriving DecidableEq, Repr

variable {Frame : Type u}

namespace FrameBuffer

/-- The buffer of a model that has just been created. -/
def new : FrameBuffer Frame where
  frameBuffer := []
  sent := []

/-- The block of `captureOutput`. -/
def append (jpegData : Frame) (s : FrameBuffer Frame) : FrameBuffer Frame :=
  let frameBuffer := s.frameBuffer ++ [jpegData]
  if frameBuffer.length = 10 then { frameBuffer := [], sent := s.sent ++ [frameBuffer] }
  else { s with frameBuffer }

/-- The block of `clearFrameBuffer`. -/
def clear (s : FrameBuffer Frame) : FrameBuffer Frame := { s with frameBuffer := [] }

/-- Runs one block. -/
def runBlock (s : FrameBuffer Frame) : Block Frame → FrameBuffer Frame
  | .append jpegData => s.append jpegData
  | .clear => s.clear

/-- Runs blocks one after the other. -/
def runBlocks (s : FrameBuffer Frame) (blocks : List (Block Frame)) : FrameBuffer Frame :=
  blocks.foldl runBlock s

theorem runBlocks_append (s : FrameBuffer Frame) (blocks₁ blocks₂ : List (Block Frame)) :
    s.runBlocks (blocks₁ ++ blocks₂) = (s.runBlocks blocks₁).runBlocks blocks₂ :=
  List.foldl_append

/-- The two things an append can do. -/
theorem append_cases (s : FrameBuffer Frame) (jpegData : Frame) :
    ((s.frameBuffer ++ [jpegData]).length = 10 ∧
        s.append jpegData = ⟨[], s.sent ++ [s.frameBuffer ++ [jpegData]]⟩) ∨
      ((s.frameBuffer ++ [jpegData]).length ≠ 10 ∧
        s.append jpegData = ⟨s.frameBuffer ++ [jpegData], s.sent⟩) := by
  unfold append
  dsimp only
  split
  · next h => exact .inl ⟨h, rfl⟩
  · next h => exact .inr ⟨h, rfl⟩

/-! ## Sizes -/

/-- The buffer is not full, and every batch is. -/
structure Sized (s : FrameBuffer Frame) : Prop where
  frameBuffer : s.frameBuffer.length < 10
  sent : ∀ batch ∈ s.sent, batch.length = 10

theorem Sized.runBlock {s : FrameBuffer Frame} (h : s.Sized) (block : Block Frame) :
    (s.runBlock block).Sized := by
  cases block with
  | append jpegData =>
      have hlength : (s.frameBuffer ++ [jpegData]).length ≤ 10 := by
        rw [List.length_append]
        exact h.frameBuffer
      rcases s.append_cases jpegData with ⟨hten, happend⟩ | ⟨hten, happend⟩
      · refine ⟨?_, fun batch hbatch ↦ ?_⟩
        · rw [FrameBuffer.runBlock, happend]
          exact Nat.succ_pos 9
        · rw [FrameBuffer.runBlock, happend] at hbatch
          rcases List.mem_append.mp hbatch with hold | hnew
          · exact h.sent batch hold
          · rw [List.mem_singleton.mp hnew, hten]
      · rw [FrameBuffer.runBlock, happend]
        exact ⟨Nat.lt_of_le_of_ne hlength hten, h.sent⟩
  | clear => exact ⟨Nat.succ_pos 9, h.sent⟩

/-- **Sizes.**  Whatever blocks are run. -/
theorem sized_runBlocks (blocks : List (Block Frame)) : (new.runBlocks blocks).Sized := by
  induction blocks using List.reverseRecOn with
  | nil => exact ⟨Nat.succ_pos 9, fun batch hbatch ↦ (nomatch hbatch)⟩
  | append_singleton blocks block ih =>
      rw [runBlocks_append]
      exact ih.runBlock block

/-! ## Contents -/

/-- The frames handed out, followed by those still in the buffer. -/
def contents (s : FrameBuffer Frame) : List Frame := s.sent.flatten ++ s.frameBuffer

/-- One append adds one frame, and takes none away. -/
theorem contents_runBlock_append (s : FrameBuffer Frame) (jpegData : Frame) :
    (s.runBlock (.append jpegData)).contents = s.contents ++ [jpegData] := by
  rw [runBlock, contents, contents]
  rcases s.append_cases jpegData with ⟨-, happend⟩ | ⟨-, happend⟩
  · rw [happend]
    simp
  · rw [happend, List.append_assoc]

theorem contents_runBlocks_map_append (s : FrameBuffer Frame) (frames : List Frame) :
    (s.runBlocks (frames.map .append)).contents = s.contents ++ frames := by
  induction frames using List.reverseRecOn with
  | nil => rw [List.append_nil]; rfl
  | append_singleton frames frame ih =>
      rw [List.map_append, runBlocks_append]
      refine (contents_runBlock_append _ frame).trans ?_
      rw [ih, List.append_assoc]

/-- Batches are never taken back. -/
theorem sent_prefix_runBlock (s : FrameBuffer Frame) (block : Block Frame) :
    s.sent <+: (s.runBlock block).sent := by
  cases block with
  | append jpegData =>
      rcases s.append_cases jpegData with ⟨-, happend⟩ | ⟨-, happend⟩
      · rw [runBlock, happend]
        exact List.prefix_append _ _
      · have hsent : s.sent = (s.runBlock (.append jpegData)).sent := by rw [runBlock, happend]
        exact hsent ▸ List.prefix_rfl
  | clear => exact List.prefix_rfl

theorem sent_prefix_runBlocks (s : FrameBuffer Frame) (blocks : List (Block Frame)) :
    s.sent <+: (s.runBlocks blocks).sent := by
  induction blocks using List.reverseRecOn with
  | nil => exact List.prefix_rfl
  | append_singleton blocks block ih =>
      rw [runBlocks_append]
      exact ih.trans (sent_prefix_runBlock _ block)

end FrameBuffer

open FrameBuffer

/-- The blocks end in a clear, or there are none. -/
def AtClear (blocks : List (Block Frame)) : Prop :=
  blocks = [] ∨ ∃ before, blocks = before ++ [.clear]

/-- The buffer is empty at a clear. -/
theorem AtClear.frameBuffer_eq_nil {blocks : List (Block Frame)} (h : AtClear blocks) :
    (new.runBlocks blocks).frameBuffer = [] := by
  rcases h with rfl | ⟨before, rfl⟩
  · rfl
  · rw [runBlocks_append]
    rfl

/-- **Batching.**  Whatever blocks have been run, the buffer holds fewer than ten frames
and every batch exactly ten; and the batches handed out since the last clear, followed by
the buffer, are the frames appended since then. -/
theorem batching_lossless (blocks : List (Block Frame)) :
    (new.runBlocks blocks).frameBuffer.length < 10 ∧
      (∀ batch ∈ (new.runBlocks blocks).sent, batch.length = 10) ∧
      ∀ before frames, AtClear before → blocks = before ++ frames.map .append →
        ∃ batches, (new.runBlocks blocks).sent = (new.runBlocks before).sent ++ batches ∧
          batches.flatten ++ (new.runBlocks blocks).frameBuffer = frames := by
  have hsized := sized_runBlocks blocks
  refine ⟨hsized.frameBuffer, hsized.sent, ?_⟩
  rintro before frames hclear rfl
  rw [runBlocks_append]
  obtain ⟨batches, hbatches⟩ :=
    sent_prefix_runBlocks (new.runBlocks before) (frames.map Block.append)
  refine ⟨batches, hbatches.symm, ?_⟩
  have hcontents := contents_runBlocks_map_append (new.runBlocks before) frames
  rw [contents, contents, hclear.frameBuffer_eq_nil, List.append_nil, ← hbatches,
    List.flatten_append, List.append_assoc] at hcontents
  exact List.append_cancel_left hcontents

/-- A clear between two frames, and a batch that fills up after it. -/
theorem batching_lossless_sample :
    ∃ batches, (new.runBlocks ([.append 0, .clear] ++ (List.range 12).map .append)).sent =
        (new.runBlocks [.append 0, .clear]).sent ++ batches ∧
      batches.flatten ++ [10, 11] = List.range 12 := by
  exact (batching_lossless ([.append 0, .clear] ++ (List.range 12).map .append)).2.2
    [.append 0, .clear] (List.range 12) (.inr ⟨[.append 0], rfl⟩) rfl

end Courtside
