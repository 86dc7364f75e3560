import Courtside.Clip.Buffer
import Courtside.Data.Run

/-!
# Sending sessions

Three queues work on a live clip.  The main queue toggles `isSending` and, when that
switches it off, sends a clear block to `bufferQueue`.  The capture queue checks
`isSending` for a frame, converts the frame, and sends an append block.  `bufferQueue`
runs the blocks in the order in which they came.

The clear is meant to end a sending session.  It does so only for the frames whose append
blocks came before it: a frame that is still being converted when sending is switched off
is appended after the clear, and heads the next session's batch.

Where no frame is that late, no batch mixes sessions (`batches_one_session`).  The
invariant (`Coherent`) follows the blocks that wait: up to each clear they leave frames of
one session in the buffer, and after the last clear frames of the session that is open.
-/

universe u

namespace Courtside

variable {Frame : Type u}

/-- A frame with the number of toggles there had been when it passed the check of
`captureOutput`. -/
structure Captured (Frame : Type u) where
  jpegData : Frame
  session : ℕ
deriving DecidableEq, Repr

/-- Where the main queue is. -/
inductive Sending where
  | off
  | on
  /-- `isSending` is false again, but its clear block is not yet on `bufferQueue`. -/
  | stopping
deriving DecidableEq, Repr

/-- The published flag. -/
def Sending.isSending : Sending → Bool
  | on => true
  | off | stopping => false

/-- `RealTimeClipCameraModel` and its queues. -/
structure ClipModel (Frame : Type u) where
  sending : Sending
  /-- How often `isSending` has been toggled. -/
  toggles : ℕ
  /-- The session of the frame that `captureOutput` is converting. -/
  converting : Option ℕ
  bufferQueue : List (Block (Captured Frame))
  buffer : FrameBuffer (Captured Frame)
deriving DecidableEq

/-- A model that has just been created. -/
def ClipModel.new : ClipModel Frame where
  sending := .off
  toggles := 0
  converting := none
  bufferQueue := []
  buffer := FrameBuffer.new

/-- What one of the queues does next. -/
inductive ClipAction (Frame : Type u) where
  /-- Main: the toggle of the button. -/
  | toggle
  /-- Main: `clearFrameBuffer`, after a toggle that has switched sending off. -/
  | clearFrameBuffer
  /-- Capture: the guard of `captureOutput`. -/
  | check
  /-- Capture: the frame is converted, and its block sent to `bufferQueue`. -/
  | enqueue (jpegData : Frame)
  /-- Capture: the frame cannot be converted. -/
  | discard
  /-- `bufferQueue`: the next block. -/
  | runBlock
deriving DecidableEq, Repr

/-- One action.  Every queue is serial: the main queue clears before it toggles again, and
the capture queue takes one frame at a time. -/
def stepClip (s : ClipModel Frame) : ClipAction Frame → Option (ClipModel Frame)
  | .toggle =>
      match s.sending with
      | .off => some { s with sending := .on, toggles := s.toggles + 1 }
      | .on => some { s with sending := .stopping, toggles := s.toggles + 1 }
      | .stopping => none
  | .clearFrameBuffer =>
      match s.sending with
      | .stopping => some { s with sending := .off, bufferQueue := s.bufferQueue ++ [.clear] }
      | _ => none
  | .check =>
      match s.converting with
      | none =>
          if s.sending.isSending then some { s with converting := some s.toggles } else some s
      | some _ => none
  | .enqueue jpegData =>
      match s.converting with
      | some session =>
          some
            { s with
              converting := none
              bufferQueue := s.bufferQueue ++ [.append ⟨jpegData, session⟩] }
      | none => none
  | .discard =>
      match s.converting with
      | some _ => some { s with converting := none }
      | none => none
  | .runBlock =>
      match s.bufferQueue with
      | block :: blocks => some { s with bufferQueue := blocks, buffer := s.buffer.runBlock block }
      | [] => none

/-! ## Sessions -/

/-- All frames were captured in the same session. -/
def OneSession (frames : List (Captured Frame)) : Prop :=
  ∃ session, ∀ frame ∈ frames, frame.session = session

/-- The session is still open: its clear block is not yet on `bufferQueue`. -/
def ClipModel.Open (s : ClipModel Frame) (session : ℕ) : Prop :=
  match s.sending with
  | .off => False
  | .on => session = s.toggles
  | .stopping => session + 1 = s.toggles

/-- A frame that is sent to `bufferQueue` gets there before the clear block of the session
in which it was captured. -/
def InTime (s : ClipModel Frame) : ClipAction Frame → Prop
  | .enqueue _ => ∀ session, s.converting = some session → s.Open session
  | _ => True

/-- What waiting blocks leave in a buffer is of one session at each clear, and meets
`current` in the end. -/
def Coherent (current : ℕ → Prop) :
    List (Captured Frame) → List (Block (Captured Frame)) → Prop
  | frames, [] => ∀ frame ∈ frames, current frame.session
  | frames, .append frame :: blocks => Coherent current (frames ++ [frame]) blocks
  | frames, .clear :: blocks => OneSession frames ∧ Coherent current [] blocks

section Coherent

variable {current current' : ℕ → Prop} {frames frames' : List (Captured Frame)}
  {blocks : List (Block (Captured Frame))}

theorem OneSession.subset (h : OneSession frames) (hsub : frames' ⊆ frames) :
    OneSession frames' := by
  obtain ⟨session, hsession⟩ := h
  exact ⟨session, fun frame hframe ↦ hsession frame (hsub hframe)⟩

/-- One session is current at a time, so frames of current sessions are of one. -/
theorem oneSession_of_current (hone : ∀ k l, current k → current l → k = l)
    (h : ∀ frame ∈ frames, current frame.session) : OneSession frames := by
  cases frames with
  | nil => exact ⟨0, fun frame hframe ↦ (nomatch hframe)⟩
  | cons first rest =>
      exact ⟨first.session, fun frame hframe ↦
        hone _ _ (h frame hframe) (h first List.mem_cons_self)⟩

theorem Coherent.mono (h : Coherent current frames blocks)
    (himp : ∀ k, current k → current' k) : Coherent current' frames blocks := by
  induction blocks generalizing frames with
  | nil => exact fun frame hframe ↦ himp _ (h frame hframe)
  | cons block blocks ih =>
      cases block with
      | append frame => exact ih h
      | clear => exact ⟨h.1, ih h.2⟩

/-- Fewer frames in the buffer do no harm. -/
theorem Coherent.subset (h : Coherent current frames blocks) (hsub : frames' ⊆ frames) :
    Coherent current frames' blocks := by
  induction blocks generalizing frames frames' with
  | nil => exact fun frame hframe ↦ h frame (hsub hframe)
  | cons block blocks ih =>
      cases block with
      | append frame => exact ih h (List.append_subset.mpr
          ⟨List.subset_append_of_subset_left _ hsub, List.subset_append_right _ _⟩)
      | clear => exact ⟨h.1.subset hsub, h.2⟩

theorem Coherent.oneSession (hone : ∀ k l, current k → current l → k = l)
    (h : Coherent current frames blocks) : OneSession frames := by
  induction blocks generalizing frames with
  | nil => exact oneSession_of_current hone h
  | cons block blocks ih =>
      cases block with
      | append frame => exact (ih h).subset (List.subset_append_left _ _)
      | clear => exact h.1

/-- A frame of the current session joins the queue. -/
theorem Coherent.concat_append (h : Coherent current frames blocks) {frame : Captured Frame}
    (hframe : current frame.session) : Coherent current frames (blocks ++ [.append frame]) := by
  induction blocks generalizing frames with
  | nil =>
      intro frame' hmem
      rcases List.mem_append.mp hmem with hold | hnew
      · exact h frame' hold
      · exact List.mem_singleton.mp hnew ▸ hframe
  | cons block blocks ih =>
      cases block with
      | append frame' => exact ih h
      | clear => exact ⟨h.1, ih h.2⟩

/-- A clear joins the queue: any session may be current after it. -/
theorem Coherent.concat_clear (hone : ∀ k l, current k → current l → k = l)
    (h : Coherent current frames blocks) : Coherent current' frames (blocks ++ [.clear]) := by
  induction blocks generalizing frames with
  | nil => exact ⟨oneSession_of_current hone h, fun frame hframe ↦ (nomatch hframe)⟩
  | cons block blocks ih =>
      cases block with
      | append frame => exact ih h
      | clear => exact ⟨h.1, ih h.2⟩

end Coherent

/-! ## One action -/

theorem ClipModel.open_unique (s : ClipModel Frame) (k l : ℕ) (hk : s.Open k) (hl : s.Open l) :
    k = l := by
  unfold Open at hk hl
  cases hs : s.sending with
  | off => simp only [hs] at hk
  | on =>
      simp only [hs] at hk hl
      exact hk.trans hl.symm
  | stopping =>
      simp only [hs] at hk hl
      exact Nat.succ.inj (hk.trans hl.symm)

/-- The batches are of one session each, and so will be those that are still to come. -/
structure Separated (s : ClipModel Frame) : Prop where
  sent : ∀ batch ∈ s.buffer.sent, OneSession batch
  coherent : Coherent s.Open s.buffer.frameBuffer s.bufferQueue

/-- The next block. -/
theorem Separated.runBlock {s : ClipModel Frame} (h : Separated s)
    {block : Block (Captured Frame)} {blocks : List (Block (Captured Frame))}
    (hqueue : s.bufferQueue = block :: blocks) :
    Separated { s with bufferQueue := blocks, buffer := s.buffer.runBlock block } := by
  have hcoherent := h.coherent
  rw [hqueue] at hcoherent
  cases block with
  | append frame =>
      have happended : Coherent s.Open (s.buffer.frameBuffer ++ [frame]) blocks := hcoherent
      rcases s.buffer.append_cases frame with ⟨-, happend⟩ | ⟨-, happend⟩
      · refine ⟨fun batch hbatch ↦ ?_, ?_⟩
        · rw [FrameBuffer.runBlock, happend] at hbatch
          rcases List.mem_append.mp hbatch with hold | hnew
          · exact h.sent batch hold
          · rw [List.mem_singleton.mp hnew]
            exact happended.oneSession s.open_unique
        · rw [FrameBuffer.runBlock, happend]
          exact happended.subset (List.nil_subset _)
      · rw [FrameBuffer.runBlock, happend]
        exact ⟨h.sent, happended⟩
  | clear => exact ⟨h.sent, hcoherent.2⟩

/-- What one action preserves. -/
theorem Separated.step {s s' : ClipModel Frame} {a : ClipAction Frame} (h : Separated s)
    (hintime : InTime s a) (hstep : stepClip s a = some s') : Separated s' := by
  cases a with
  | toggle =>
      cases hsending : s.sending with
      | off =>
          simp only [stepClip, hsending] at hstep
          cases hstep
          -- no session was open, and none of the waiting frames is of this one
          refine ⟨h.sent, h.coherent.mono fun k hk ↦ ?_⟩
          simp only [ClipModel.Open, hsending] at hk
      | on =>
          simp only [stepClip, hsending] at hstep
          cases hstep
          refine ⟨h.sent, h.coherent.mono fun k hk ↦ ?_⟩
          simp only [ClipModel.Open, hsending] at hk
          exact congrArg Nat.succ hk
      | stopping =>
          simp only [stepClip, hsending] at hstep
          cases hstep
  | clearFrameBuffer =>
      simp only [stepClip] at hstep
      split at hstep
      · cases hstep
        exact ⟨h.sent, h.coherent.concat_clear s.open_unique⟩
      · cases hstep
  | check =>
      simp only [stepClip] at hstep
      split at hstep
      · split at hstep
        · cases hstep
          exact ⟨h.sent, h.coherent⟩
        · cases hstep
          exact h
      · cases hstep
  | enqueue jpegData =>
      simp only [stepClip] at hstep
      split at hstep
      · next session hconverting =>
          cases hstep
          exact ⟨h.sent, h.coherent.concat_append (hintime session hconverting)⟩
      · cases hstep
  | discard =>
      simp only [stepClip] at hstep
      split at hstep
      · cases hstep
        exact ⟨h.sent, h.coherent⟩
      · cases hstep
  | runBlock =>
      simp only [stepClip] at hstep
      split at hstep
      · next block blocks hqueue =>
          cases hstep
          exact h.runBlock hqueue
      · cases hstep

/-! ## All runs -/

/-- **One session for each batch.**  In every run in which each frame gets to `bufferQueue`
before the clear block of its session. -/
theorem batches_one_session {actions : List (ClipAction Frame)} {s : ClipModel Frame}
    (hall : AllSteps stepClip InTime .new actions)
    (hexec : exec stepClip .new actions = some s) : ∀ batch ∈ s.buffer.sent, OneSession batch := by
  have hinit : Separated (.new : ClipModel Frame) :=
    ⟨fun batch hbatch ↦ (nomatch hbatch), fun frame hframe ↦ (nomatch hframe)⟩
  exact (exec_state_invariant hinit (fun _ _ _ h ↦ h.step) hall hexec).sent

/-! ## Sample runs -/

/-- The capture queue takes a frame, and its block is run. -/
def captureAction (frame : ℕ) : List (ClipAction ℕ) := [.check, .enqueue frame, .runBlock]

/-- A clip of the first session, one frame that is cleared, and a clip of the second. -/
def samePace : List (ClipAction ℕ) :=
  .toggle :: (List.range 11).flatMap captureAction ++ [.toggle, .clearFrameBuffer, .runBlock] ++
    .toggle :: (List.range 10).flatMap captureAction

/-- The frame that is being converted when sending is switched off comes after the clear. -/
def lateFrame : List (ClipAction ℕ) :=
  [.toggle, .check, .toggle, .clearFrameBuffer, .enqueue 0, .runBlock, .runBlock, .toggle] ++
    (List.range 9).flatMap captureAction

instance (s : ClipModel Frame) (session : ℕ) : Decidable (s.Open session) := by
  unfold ClipModel.Open
  split <;> infer_instance

instance (s : ClipModel Frame) : ∀ a, Decidable (InTime s a)
  | .enqueue _ => inferInstanceAs (Decidable (∀ session ∈ s.converting, s.Open session))
  | .toggle | .clearFrameBuffer | .check | .discard | .runBlock => isTrue trivial

/-- The sessions of the frames in each batch. -/
def sessionsSent (s : ClipModel ℕ) : List (List ℕ) :=
  s.buffer.sent.map fun batch ↦ batch.map Captured.session

/-- Two sessions, and a clip from each. -/
theorem batches_one_session_sample :
    ∃ s, exec stepClip .new samePace = some s ∧ s.buffer.sent.length = 2 ∧
      ∀ batch ∈ s.buffer.sent, OneSession batch := by
  have hrun : (exec stepClip .new samePace).map (fun s ↦ s.buffer.sent.length) = some 2 := by
    decide +kernel
  obtain ⟨s, hs, hlength⟩ := Option.map_eq_some_iff.mp hrun
  have hintime : AllSteps stepClip InTime .new samePace := by decide +kernel
  exact ⟨s, hs, hlength, batches_one_session hintime hs⟩

/-- The late frame is sent with frames of the next session. -/
theorem batches_one_session_sample_fails :
    ¬ ∀ (actions : List (ClipAction ℕ)) (s : ClipModel ℕ),
      exec stepClip .new actions = some s → ∀ batch ∈ s.buffer.sent, OneSession batch := by
  intro h
  have hrun : (exec stepClip .new lateFrame).map sessionsSent =
      some [1 :: List.replicate 9 3] := by decide +kernel
  obtain ⟨s, hs, hsessions⟩ := Option.map_eq_some_iff.mp hrun
  have hmem : (1 :: List.replicate 9 3) ∈ sessionsSent s := hsessions ▸ List.mem_singleton_self _
  obtain ⟨batch, hbatch, hmap⟩ := List.mem_map.mp hmem
  obtain ⟨session, hsession⟩ := h lateFrame s hs batch hbatch
  have hconst : ∀ k ∈ batch.map Captured.session, k = session := by
    intro k hk
    obtain ⟨frame, hframe, rfl⟩ := List.mem_map.mp hk
    exact hsession frame hframe
  rw [hmap] at hconst
  have hone : 1 = session := hconst 1 (by simp)
  have hthree : 3 = session := hconst 3 (by simp)
  omega

end Courtside
