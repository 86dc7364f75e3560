import Courtside.Data.Run
import Courtside.Training.Dataset
import Std.Data.String.ToNat

/-!
# The live clip on disk

`sendFrames` posts a batch of ten frames under the names `frame_0.jpg` to `frame_9.jpg`,
and `upload_clips` writes them one after the other into `./live_frames`, awaiting the
content of each after it has opened the file.  All batches use the same ten names, so
handlers of two batches write to the same files.

Handlers that have different files open do not disturb each other: the later one
overwrites what the earlier one has written, and the last one to start leaves its batch on
disk (`live_clip_of_one_batch`).  The invariant is that the last handler to start is
behind all others and that the files it has passed hold its frames (`Hindmost`).  It
breaks where a handler opens a file that another one still has to write: from there on
either can overtake the other.
-/

universe u

namespace Courtside

/-! ## Requests -/

/-- `frame_<index>.jpg`. -/
def liveFrameName (index : ℕ) : String := "frame_" ++ toString index ++ ".jpg"

theorem liveFrameName_inj {k l : ℕ} (h : liveFrameName k = liveFrameName l) : k = l := by
  have hdigits := congrArg String.toList h
  simp only [liveFrameName, String.toList_append] at hdigits
  have hrepr : toString k = toString l :=
    String.toList_inj.mp (List.append_cancel_left (List.append_cancel_right hdigits))
  exact Nat.repr_injective hrepr

/-- A file of an upload. -/
structure UploadFile where
  filename : String
  data : List UInt8
deriving DecidableEq, Repr

/-- The files which `sendFrames` posts for a batch. -/
def sendFrames (frames : List (List UInt8)) : List UploadFile :=
  frames.zipIdx.map fun frame ↦ { filename := liveFrameName frame.2, data := frame.1 }

theorem getElem?_sendFrames (frames : List (List UInt8)) (k : ℕ) :
    (sendFrames frames)[k]? =
      frames[k]?.map fun frame ↦ { filename := liveFrameName k, data := frame } := by
  rw [sendFrames, List.getElem?_map, List.getElem?_zipIdx, Option.map_map, Nat.zero_add]
  rfl

/-! ## Handlers -/

variable {Image : Type u} (cwd : Path)

/-- `f"./live_frames/{file.filename}"`. -/
def liveFramePath (filename : String) : Path :=
  (Path.components filename).foldl Path.enter (cwd ++ ["live_frames"])

/-- How far an `upload_clips` handler has come. -/
inductive ClipPhase where
  | waiting
  /-- The file at an index is open, and its content is awaited. -/
  | writing (index handle : ℕ)
  | returned (uploadedFiles : List String)
  | raised
deriving DecidableEq, Repr

/-- The index of the file that is open. -/
def ClipPhase.index? : ClipPhase → Option ℕ
  | writing index _ => some index
  | _ => none

def ClipPhase.isReturned : ClipPhase → Bool
  | returned _ => true
  | _ => false

/-- The disk and the handlers at work. -/
structure ClipHandlers (Image : Type u) where
  disk : ServerDisk Image
  phase : ℕ → ClipPhase

/-- What a handler does between two awaits. -/
inductive HandlerAction where
  | start (r : ℕ)
  | resume (r : ℕ)
  /-- A file cannot be opened, or its content not be read. -/
  | raise (r : ℕ)
deriving DecidableEq, Repr

/-- Opens the file at an index and awaits its content, or returns if there is none. -/
def openFrame (files : List UploadFile) (index : ℕ) (disk : ServerDisk Image) :
    ClipPhase × ServerDisk Image :=
  match files[index]? with
  | some file =>
      let (handle, disk) := disk.openTrunc (liveFramePath cwd file.filename) (.bytes [])
      (.writing index handle, disk)
  | none => (.returned (files.map UploadFile.filename), disk)

variable (batches : List (List (List UInt8)))

/-- One action of the handlers of some batches. -/
def stepHandler (s : ClipHandlers Image) : HandlerAction → Option (ClipHandlers Image)
  | .start r =>
      match batches[r]?, s.phase r with
      | some batch, .waiting =>
          let (phase, disk) := openFrame cwd (sendFrames batch) 0 s.disk
          some { disk, phase := Function.update s.phase r phase }
      | _, _ => none
  | .resume r =>
      match batches[r]?, s.phase r with
      | some batch, .writing index handle =>
          match (sendFrames batch)[index]? with
          | some file =>
              let disk := s.disk.modify handle (File.overwrite file.data)
              let (phase, disk) := openFrame cwd (sendFrames batch) (index + 1) disk
              some { disk, phase := Function.update s.phase r phase }
          | none => none
      | _, _ => none
  | .raise r =>
      match batches[r]?, s.phase r with
      | some _, .waiting | some _, .writing _ _ =>
          some { s with phase := Function.update s.phase r .raised }
      | _, _ => none

/-- Every handler has returned. -/
def AllReturned (s : ClipHandlers Image) : Prop :=
  ∀ r < batches.length, (s.phase r).isReturned = true

/-- The ten files hold the frames of one batch, in full. -/
def OneClip (disk : ServerDisk Image) : Prop :=
  ∃ batch ∈ batches, ∀ k < 10, ∃ frame, batch[k]? = some frame ∧
    disk.read (liveFramePath cwd (liveFrameName k)) = some (.bytes frame)

/-- No handler has the file at an index open. -/
def Unopened (s : ClipHandlers Image) (index : ℕ) : Prop :=
  ∀ r < batches.length, (s.phase r).index? ≠ some index

/-- A handler does not open a file that another one has open. -/
def Apart (s : ClipHandlers Image) : HandlerAction → Prop
  | .start _ => Unopened batches s 0
  | .resume r => ∀ index, (s.phase r).index? = some index → Unopened batches s (index + 1)
  | .raise _ => True

/-! ## The invariant -/

/-- The handler has started, all that are still at work are ahead of it, and the files it
has passed hold its frames. -/
structure Hindmost (s : ClipHandlers Image) (m : ℕ) (batch : List (List UInt8)) : Prop where
  mem : batches[m]? = some batch
  started : s.phase m ≠ .waiting
  ahead : ∀ r index handle, s.phase r = .writing index handle → r ≠ m →
    ∃ behind handle', s.phase m = .writing behind handle' ∧ behind < index
  written : ∀ (k : ℕ) (frame : List UInt8), batch[k]? = some frame →
    (∀ index handle, s.phase m = .writing index handle → k < index) →
      s.disk.read (liveFramePath cwd (liveFrameName k)) = some (.bytes frame)

/-- Handlers have different files open, which are empty, and one of them is behind all
others. -/
structure InStep (s : ClipHandlers Image) : Prop where
  opened : ∀ r index handle, s.phase r = .writing index handle → r < batches.length ∧ index < 10 ∧
    s.disk.file? (liveFramePath cwd (liveFrameName index)) = some (handle, .bytes [])
  apart : ∀ r r' index handle handle', s.phase r = .writing index handle →
    s.phase r' = .writing index handle' → r = r'
  hindmost : (∀ r, s.phase r = .waiting) ∨ ∃ m batch, Hindmost cwd batches s m batch

variable {cwd batches}

/-! ## Paths and files -/

theorem plain_liveFrameName (k : ℕ) : Path.Plain (liveFrameName k) := by
  have hchars : (liveFrameName k).toList =
      "frame_".toList ++ Nat.toDigits 10 k ++ ".jpg".toList := by
    simp [liveFrameName]
  have hmem : '_' ∈ (liveFrameName k).toList := by
    rw [hchars]
    exact List.mem_append_left _ (List.mem_append_left _ (by decide))
  refine ⟨fun hsep ↦ ?_, ?_, ?_, ?_⟩
  · rw [hchars] at hsep
    rcases List.mem_append.mp hsep with hsep | hsep
    · rcases List.mem_append.mp hsep with hsep | hsep
      · exact absurd hsep (by decide)
      · exact absurd (Nat.isDigit_of_mem_toDigits (by decide) (by decide) hsep) (by decide)
    · exact absurd hsep (by decide)
  all_goals
    intro heq
    rw [heq] at hmem
    exact absurd hmem (by decide)

theorem liveFramePath_liveFrameName (k : ℕ) :
    liveFramePath cwd (liveFrameName k) = cwd ++ ["live_frames"] ++ [liveFrameName k] := by
  have hplain := plain_liveFrameName k
  have hhead : (liveFrameName k).toList.head? ≠ some '/' :=
    fun h ↦ hplain.1 (List.mem_of_mem_head? h)
  have hjoin := Path.join_plain hplain (cwd ++ ["live_frames"])
  rwa [Path.join, if_neg hhead] at hjoin

theorem liveFramePath_inj {k l : ℕ}
    (h : liveFramePath cwd (liveFrameName k) = liveFramePath cwd (liveFrameName l)) : k = l := by
  rw [liveFramePath_liveFrameName, liveFramePath_liveFrameName] at h
  exact liveFrameName_inj (List.singleton_inj.mp (List.append_cancel_left h))

variable (cwd) in
/-- What opening the file at an index does: the file is there and empty, or there is
none. -/
structure NextFrame (index : ℕ) (disk : ServerDisk Image) (phase : ClipPhase)
    (disk' : ServerDisk Image) : Prop where
  writing : ∀ l handle, phase = .writing l handle → l = index ∧ l < 10 ∧
    disk'.file? (liveFramePath cwd (liveFrameName l)) = some (handle, .bytes [])
  kept : ∀ l, l ≠ index → disk'.file? (liveFramePath cwd (liveFrameName l)) =
    disk.file? (liveFramePath cwd (liveFrameName l))
  more : index < 10 → ∃ handle, phase = .writing index handle
  started : phase ≠ .waiting

theorem nextFrame_openFrame {batch : List (List UInt8)} (hten : batch.length = 10) (index : ℕ)
    (disk : ServerDisk Image) :
    NextFrame cwd index disk (openFrame cwd (sendFrames batch) index disk).1
      (openFrame cwd (sendFrames batch) index disk).2 := by
  rw [openFrame, getElem?_sendFrames]
  cases hframe : batch[index]? with
  | none =>
      have hnone := List.getElem?_eq_none_iff.mp hframe
      refine ⟨fun l handle h ↦ ?_, fun l hl ↦ rfl, fun hlt ↦ ?_, fun h ↦ ?_⟩
      · cases h
      · omega
      · cases h
  | some frame =>
      have hsome := (List.getElem?_eq_some_iff.mp hframe).1
      have hfile := fun l ↦ Disk.file?_openTrunc disk (liveFramePath cwd (liveFrameName index))
        (liveFramePath cwd (liveFrameName l)) (.bytes [])
      refine ⟨fun l handle h ↦ ?_, fun l hl ↦ ?_, fun hlt ↦ ⟨_, rfl⟩, fun h ↦ ?_⟩
      · cases h
        exact ⟨rfl, hten ▸ hsome, (hfile index).trans (if_pos rfl)⟩
      · exact (hfile l).trans (if_neg fun hpath ↦ hl (liveFramePath_inj hpath))
      · cases h

/-! ## One action -/

section Step

variable {s : ClipHandlers Image} {r : ℕ} {batch : List (List UInt8)}

/-- A file that no handler has open is not the one a handler has open. -/
theorem InStep.ne_of_unopened (h : InStep cwd batches s) {next i index handle : ℕ}
    (hunopened : Unopened batches s next) (hi : s.phase i = .writing index handle) :
    index ≠ next := by
  rintro rfl
  refine hunopened i (h.opened i index handle hi).1 ?_
  rw [hi]
  rfl

section Next

variable {next : ℕ} {disk disk' : ServerDisk Image} {phase : ClipPhase}

/-- Open files stay empty when a handler opens one that no other has open. -/
theorem InStep.opened_next (h : InStep cwd batches s) (hr : r < batches.length)
    (hunopened : Unopened batches s next)
    (hdisk : ∀ i index handle, s.phase i = .writing index handle → i ≠ r →
      disk.file? (liveFramePath cwd (liveFrameName index)) =
        s.disk.file? (liveFramePath cwd (liveFrameName index)))
    (hnext : NextFrame cwd next disk phase disk') (i index handle : ℕ)
    (hi : Function.update s.phase r phase i = .writing index handle) :
    i < batches.length ∧ index < 10 ∧
      disk'.file? (liveFramePath cwd (liveFrameName index)) = some (handle, .bytes []) := by
  rcases update_phase_cases hi with ⟨rfl, hnew⟩ | ⟨hir, hi⟩
  · exact ⟨hr, (hnext.writing index handle hnew).2⟩
  · obtain ⟨hlength, hlt, hopened⟩ := h.opened i index handle hi
    have hne := h.ne_of_unopened hunopened hi
    exact ⟨hlength, hlt, by rw [hnext.kept index hne, hdisk i index handle hi hir, hopened]⟩

/-- No two handlers have a file open. -/
theorem InStep.apart_next (h : InStep cwd batches s) (hunopened : Unopened batches s next)
    (hnext : NextFrame cwd next disk phase disk') (i i' index handle handle' : ℕ)
    (hi : Function.update s.phase r phase i = .writing index handle)
    (hi' : Function.update s.phase r phase i' = .writing index handle') : i = i' := by
  rcases update_phase_cases hi with ⟨rfl, hnew⟩ | ⟨-, hold⟩ <;>
    rcases update_phase_cases hi' with ⟨rfl, hnew'⟩ | ⟨-, hold'⟩
  · rfl
  · obtain ⟨rfl, -⟩ := hnext.writing _ _ hnew
    exact absurd rfl (h.ne_of_unopened hunopened hold')
  · obtain ⟨rfl, -⟩ := hnext.writing _ _ hnew'
    exact absurd rfl (h.ne_of_unopened hunopened hold)
  · exact h.apart i i' index handle handle' hold hold'

end Next

/-- A handler that starts is behind all others. -/
theorem InStep.start (h : InStep cwd batches s) (hbatch : batches[r]? = some batch)
    (hunopened : Unopened batches s 0) {phase : ClipPhase} {disk' : ServerDisk Image}
    (hnext : NextFrame cwd 0 s.disk phase disk') :
    InStep cwd batches { disk := disk', phase := Function.update s.phase r phase } := by
  have hr := (List.getElem?_eq_some_iff.mp hbatch).1
  refine ⟨h.opened_next hr hunopened (fun _ _ _ _ _ ↦ rfl) hnext, h.apart_next hunopened hnext,
    .inr ⟨r, batch, hbatch, ?_, fun i index handle hi hir ↦ ?_, fun k frame hk hpassed ↦ ?_⟩⟩
  · dsimp only
    rw [Function.update_self]
    exact hnext.started
  · obtain ⟨-, hi⟩ := (update_phase_cases hi).resolve_left fun heq ↦ hir heq.1
    obtain ⟨handle', hphase⟩ := hnext.more (Nat.succ_pos 9)
    exact ⟨0, handle', (Function.update_self ..).trans hphase,
      Nat.pos_of_ne_zero (h.ne_of_unopened hunopened hi)⟩
  · obtain ⟨handle', hphase⟩ := hnext.more (Nat.succ_pos 9)
    exact absurd (hpassed 0 handle' ((Function.update_self ..).trans hphase)) (Nat.not_lt_zero k)

/-- The hindmost handler goes on: it has passed the file it has written. -/
theorem Hindmost.resume (hm : Hindmost cwd batches s r batch) (hten : batch.length = 10)
    {index handle : ℕ} (hphase : s.phase r = .writing index handle) {frame : List UInt8}
    (hframe : batch[index]? = some frame) {disk disk' : ServerDisk Image} {phase : ClipPhase}
    (hnext : NextFrame cwd (index + 1) disk phase disk')
    (hothers : ∀ i l handle', s.phase i = .writing l handle' → l < 10 ∧ l ≠ index + 1)
    (hread : ∀ l, l < index → disk'.read (liveFramePath cwd (liveFrameName l)) =
      s.disk.read (liveFramePath cwd (liveFrameName l)))
    (hwritten : disk'.read (liveFramePath cwd (liveFrameName index)) = some (.bytes frame)) :
    Hindmost cwd batches { disk := disk', phase := Function.update s.phase r phase } r batch := by
  refine ⟨hm.mem, ?_, fun i l handle' hi hir ↦ ?_, fun k frame' hk hpassed ↦ ?_⟩
  · dsimp only
    rw [Function.update_self]
    exact hnext.started
  · obtain ⟨-, hi⟩ := (update_phase_cases hi).resolve_left fun heq ↦ hir heq.1
    obtain ⟨behind, handle'', hbehind, hlt⟩ := hm.ahead i l handle' hi hir
    obtain ⟨rfl, -⟩ := ClipPhase.writing.inj (hphase.symm.trans hbehind)
    obtain ⟨hlt_ten, hne⟩ := hothers i l handle' hi
    obtain ⟨handle₁, hphase₁⟩ := hnext.more (by omega)
    exact ⟨index + 1, handle₁, (Function.update_self ..).trans hphase₁, by omega⟩
  · have hk_lt := (List.getElem?_eq_some_iff.mp hk).1
    have hle : k ≤ index := by
      by_cases hmore : index + 1 < 10
      · obtain ⟨handle₁, hphase₁⟩ := hnext.more hmore
        exact Nat.le_of_lt_succ
          (hpassed (index + 1) handle₁ ((Function.update_self ..).trans hphase₁))
      · omega
    rcases Nat.lt_or_eq_of_le hle with hlt | rfl
    · refine (hread k hlt).trans (hm.written k frame' hk fun l handle' hl ↦ ?_)
      obtain ⟨rfl, -⟩ := ClipPhase.writing.inj (hphase.symm.trans hl)
      exact hlt
    · obtain rfl : frame' = frame := Option.some.inj (hk.symm.trans hframe)
      exact hwritten

/-- A handler ahead of the hindmost one goes on. -/
theorem Hindmost.resume_of_ne {m : ℕ} (hm : Hindmost cwd batches s m batch) (hmr : m ≠ r)
    {index handle : ℕ} (hphase : s.phase r = .writing index handle)
    {disk disk' : ServerDisk Image} {phase : ClipPhase}
    (hnext : NextFrame cwd (index + 1) disk phase disk')
    (hread : ∀ l, l < index → disk'.read (liveFramePath cwd (liveFrameName l)) =
      s.disk.read (liveFramePath cwd (liveFrameName l))) :
    Hindmost cwd batches { disk := disk', phase := Function.update s.phase r phase } m batch := by
  obtain ⟨behind, handle', hbehind, hlt⟩ := hm.ahead r index handle hphase (Ne.symm hmr)
  have hsame : Function.update s.phase r phase m = s.phase m := Function.update_of_ne hmr ..
  refine ⟨hm.mem, ?_, fun i l handle₁ hi him ↦ ?_, fun k frame' hk hpassed ↦ ?_⟩
  · dsimp only
    rw [hsame]
    exact hm.started
  · rcases update_phase_cases hi with ⟨-, hnew⟩ | ⟨-, hold⟩
    · obtain ⟨rfl, -⟩ := hnext.writing l handle₁ hnew
      exact ⟨behind, handle', hsame.trans hbehind, Nat.lt_succ_of_lt hlt⟩
    · obtain ⟨behind', handle₂, hbehind', hlt'⟩ := hm.ahead i l handle₁ hold him
      exact ⟨behind', handle₂, hsame.trans hbehind', hlt'⟩
  · have hk_lt : k < behind := hpassed behind handle' (hsame.trans hbehind)
    refine (hread k (Nat.lt_trans hk_lt hlt)).trans (hm.written k frame' hk fun l handle₁ hl ↦ ?_)
    exact hpassed l handle₁ (hsame.trans hl)

/-- A handler has written its file and goes on to the next one. -/
theorem InStep.resume (h : InStep cwd batches s) (hbatch : batches[r]? = some batch)
    (hten : batch.length = 10) {index handle : ℕ} (hphase : s.phase r = .writing index handle)
    {frame : List UInt8} (hframe : batch[index]? = some frame)
    (hunopened : Unopened batches s (index + 1)) {phase : ClipPhase} {disk' : ServerDisk Image}
    (hnext : NextFrame cwd (index + 1) (s.disk.modify handle (File.overwrite frame)) phase disk') :
    InStep cwd batches { disk := disk', phase := Function.update s.phase r phase } := by
  obtain ⟨hr, -, hopened⟩ := h.opened r index handle hphase
  -- the file is empty, so what is written to it is all it holds
  have hcover : File.overwrite frame (.bytes [] : File Image) = .bytes frame :=
    File.overwrite_eq fun old hold ↦ File.bytes.inj hold ▸ Nat.zero_le _
  have hwritten := Disk.file?_modify_self (File.overwrite frame) hopened
  rw [hcover] at hwritten
  have hkept : ∀ l, l ≠ index →
      (s.disk.modify handle (File.overwrite frame)).file? (liveFramePath cwd (liveFrameName l)) =
        s.disk.file? (liveFramePath cwd (liveFrameName l)) :=
    fun l hl ↦ Disk.file?_modify_of_ne _ hopened fun hpath ↦ hl (liveFramePath_inj hpath)
  have hread : ∀ l, l < index → disk'.read (liveFramePath cwd (liveFrameName l)) =
      s.disk.read (liveFramePath cwd (liveFrameName l)) := by
    intro l hl
    rw [Disk.read, hnext.kept l (by omega), hkept l (by omega), Disk.read]
  refine ⟨h.opened_next hr hunopened (fun i l handle' hi hir ↦ hkept l ?_) hnext,
    h.apart_next hunopened hnext, .inr ?_⟩
  · rintro rfl
    exact hir (h.apart i r l handle' handle hi hphase)
  rcases h.hindmost with hwaiting | ⟨m, batch', hm⟩
  · rw [hwaiting r] at hphase
    cases hphase
  by_cases hmr : m = r
  · subst hmr
    obtain rfl : batch' = batch := Option.some.inj (hm.mem.symm.trans hbatch)
    refine ⟨m, batch', hm.resume hten hphase hframe hnext (fun i l handle' hi ↦ ?_) hread ?_⟩
    · exact ⟨(h.opened i l handle' hi).2.1, h.ne_of_unopened hunopened hi⟩
    · rw [Disk.read, hnext.kept index (Nat.ne_of_lt (Nat.lt_succ_self index)), hwritten]
      rfl
  · exact ⟨m, batch', hm.resume_of_ne hmr hphase hnext hread⟩

end Step

/-! ## All runs -/

section Run

variable {s s' : ClipHandlers Image} {a : HandlerAction}

/-- What an action is, and what it does. -/
theorem stepHandler_cases (hstep : stepHandler cwd batches s a = some s') :
    (∃ r batch, a = .start r ∧ batches[r]? = some batch ∧ s.phase r = .waiting ∧
      s' =
        { disk := (openFrame cwd (sendFrames batch) 0 s.disk).2
          phase := Function.update s.phase r (openFrame cwd (sendFrames batch) 0 s.disk).1 }) ∨
    (∃ r batch index handle frame, a = .resume r ∧ batches[r]? = some batch ∧
      s.phase r = .writing index handle ∧ batch[index]? = some frame ∧
      s' =
        { disk := (openFrame cwd (sendFrames batch) (index + 1)
            (s.disk.modify handle (File.overwrite frame))).2
          phase := Function.update s.phase r (openFrame cwd (sendFrames batch) (index + 1)
            (s.disk.modify handle (File.overwrite frame))).1 }) ∨
    ∃ r, a = .raise r ∧ r < batches.length ∧
      (s.phase r = .waiting ∨ ∃ index handle, s.phase r = .writing index handle) ∧
      s' = { s with phase := Function.update s.phase r .raised } := by
  cases a with
  | start r =>
      simp only [stepHandler] at hstep
      split at hstep
      · next batch hbatch hphase =>
          cases hstep
          exact .inl ⟨r, batch, rfl, hbatch, hphase, rfl⟩
      · cases hstep
  | resume r =>
      simp only [stepHandler] at hstep
      split at hstep
      · next batch index handle hbatch hphase =>
          rw [getElem?_sendFrames] at hstep
          cases hframe : batch[index]? with
          | none =>
              rw [hframe] at hstep
              cases hstep
          | some frame =>
              rw [hframe] at hstep
              cases hstep
              exact .inr (.inl ⟨r, batch, index, handle, frame, rfl, hbatch, hphase, hframe, rfl⟩)
      · cases hstep
  | raise r =>
      simp only [stepHandler] at hstep
      split at hstep
      · next batch hbatch hphase =>
          cases hstep
          exact .inr (.inr ⟨r, rfl, (List.getElem?_eq_some_iff.mp hbatch).1, .inl hphase, rfl⟩)
      · next batch index handle hbatch hphase =>
          cases hstep
          exact .inr (.inr ⟨r, rfl, (List.getElem?_eq_some_iff.mp hbatch).1,
            .inr ⟨index, handle, hphase⟩, rfl⟩)
      · cases hstep

/-- A handler that has raised does nothing any more. -/
theorem raised_stepHandler {r : ℕ} (hraised : s.phase r = .raised)
    (hstep : stepHandler cwd batches s a = some s') : s'.phase r = .raised := by
  have hother : ∀ {i phase}, s.phase i ≠ .raised →
      Function.update s.phase i phase r = .raised := by
    intro i phase hi
    rwa [Function.update_of_ne]
    rintro rfl
    exact hi hraised
  rcases stepHandler_cases hstep with ⟨i, batch, -, -, hi, rfl⟩ |
    ⟨i, batch, index, handle, frame, -, -, hi, -, rfl⟩ | ⟨i, -, -, -, rfl⟩
  · exact hother (by rw [hi]; simp)
  · exact hother (by rw [hi]; simp)
  · by_cases hir : r = i
    · subst hir
      exact Function.update_self ..
    · exact (Function.update_of_ne hir ..).trans hraised

variable (cwd batches) in
/-- All handlers keep in step, unless one has raised. -/
def ClipSafe (s : ClipHandlers Image) : Prop :=
  (∃ r < batches.length, s.phase r = .raised) ∨ InStep cwd batches s

/-- What one action preserves. -/
theorem ClipSafe.step (hten : ∀ batch ∈ batches, batch.length = 10)
    (h : ClipSafe cwd batches s) (hapart : Apart batches s a)
    (hstep : stepHandler cwd batches s a = some s') : ClipSafe cwd batches s' := by
  rcases h with ⟨r, hr, hraised⟩ | h
  · exact .inl ⟨r, hr, raised_stepHandler hraised hstep⟩
  rcases stepHandler_cases hstep with ⟨r, batch, rfl, hbatch, hphase, rfl⟩ |
    ⟨r, batch, index, handle, frame, rfl, hbatch, hphase, hframe, rfl⟩ | ⟨r, -, hr, -, rfl⟩
  · have hlength := hten batch (List.mem_of_getElem? hbatch)
    exact .inr (h.start hbatch hapart (nextFrame_openFrame hlength 0 s.disk))
  · have hlength := hten batch (List.mem_of_getElem? hbatch)
    exact .inr (h.resume hbatch hlength hphase hframe (hapart index (by rw [hphase]; rfl))
      (nextFrame_openFrame hlength (index + 1) _))
  · exact .inl ⟨r, hr, Function.update_self ..⟩

/-- When all handlers have returned, the last one to start has left its batch. -/
theorem ClipSafe.oneClip (h : ClipSafe cwd batches s) (hten : ∀ batch ∈ batches, batch.length = 10)
    (hne : batches ≠ []) (hreturned : AllReturned batches s) : OneClip cwd batches s.disk := by
  have hphase : ∀ r < batches.length, s.phase r ≠ .raised ∧ s.phase r ≠ .waiting := by
    intro r hr
    have hphase := hreturned r hr
    refine ⟨fun h ↦ ?_, fun h ↦ ?_⟩ <;> rw [h] at hphase <;> cases hphase
  rcases h with ⟨r, hr, hraised⟩ | h
  · exact absurd hraised (hphase r hr).1
  rcases h.hindmost with hwaiting | ⟨m, batch, hm⟩
  · exact absurd (hwaiting 0) (hphase 0 (List.length_pos_of_ne_nil hne)).2
  refine ⟨batch, List.mem_of_getElem? hm.mem, fun k hk ↦ ?_⟩
  have hlength := hten batch (List.mem_of_getElem? hm.mem)
  obtain ⟨frame, hframe⟩ : ∃ frame, batch[k]? = some frame :=
    ⟨_, List.getElem?_eq_getElem (hlength ▸ hk)⟩
  refine ⟨frame, hframe, hm.written k frame hframe fun index handle hwriting ↦ ?_⟩
  have hphase := hreturned m (List.getElem?_eq_some_iff.mp hm.mem).1
  rw [hwriting] at hphase
  cases hphase

end Run

/-- Handlers that have not started, on some disk. -/
def ClipHandlers.start (disk : ServerDisk Image) : ClipHandlers Image where
  disk := disk
  phase := fun _ ↦ .waiting

/-- **One clip.**  If no handler opens a file that another one has open, the ten files
are those of one batch once all handlers have returned, whatever was there before. -/
theorem live_clip_of_one_batch (hten : ∀ batch ∈ batches, batch.length = 10)
    (hne : batches ≠ []) {disk : ServerDisk Image} {actions : List HandlerAction}
    {s : ClipHandlers Image}
    (hall : AllSteps (stepHandler cwd batches) (Apart batches) (.start disk) actions)
    (hexec : exec (stepHandler cwd batches) (.start disk) actions = some s)
    (hreturned : AllReturned batches s) : OneClip cwd batches s.disk := by
  have hinit : ClipSafe cwd batches (.start disk) :=
    .inr ⟨fun _ _ _ h ↦ (nomatch h), fun _ _ _ _ _ h ↦ (nomatch h), .inl fun _ ↦ rfl⟩
  have hsafe : ClipSafe cwd batches s :=
    exec_state_invariant hinit (fun _ _ _ h ↦ h.step hten) hall hexec
  exact hsafe.oneClip hten hne hreturned

/-! ## Sample runs -/

/-- Two clips, of frames of one byte. -/
def twoClips : List (List (List UInt8)) :=
  [(List.range 10).map fun k ↦ [k.toUInt8], (List.range 10).map fun k ↦ [(k + 10).toUInt8]]

/-- A run of the handlers of both clips on an empty disk. -/
def runTwoClips (actions : List HandlerAction) : Option (ClipHandlers Unit) :=
  exec (stepHandler [] twoClips) (.start (Disk.empty (.bytes []))) actions

/-- What the first two files hold. -/
def firstFrames (s : ClipHandlers Unit) : Option (File Unit) × Option (File Unit) :=
  (s.disk.read (liveFramePath [] (liveFrameName 0)),
    s.disk.read (liveFramePath [] (liveFrameName 1)))

theorem length_of_mem_twoClips : ∀ batch ∈ twoClips, batch.length = 10 := by decide

instance (s : ClipHandlers Unit) (index : ℕ) : Decidable (Unopened twoClips s index) :=
  inferInstanceAs (Decidable (∀ r < twoClips.length, (s.phase r).index? ≠ some index))

instance (s : ClipHandlers Unit) : ∀ a, Decidable (Apart twoClips s a)
  | .start _ => inferInstanceAs (Decidable (Unopened twoClips s 0))
  | .resume r =>
      inferInstanceAs (Decidable (∀ index ∈ (s.phase r).index?, Unopened twoClips s (index + 1)))
  | .raise _ => isTrue trivial

instance (s : ClipHandlers Unit) : Decidable (AllReturned twoClips s) :=
  inferInstanceAs (Decidable (∀ r < twoClips.length, (s.phase r).isReturned = true))

/-- The second handler follows one file behind the first. -/
def oneBehind : List HandlerAction :=
  [.start 0, .resume 0, .start 1] ++
    (List.replicate 9 [.resume 0, .resume 1]).flatten ++ [.resume 1]

/-- The second handler overtakes the first at the second file. -/
def overtaking : List HandlerAction :=
  [.start 0, .start 1, .resume 0] ++ List.replicate 10 (.resume 1) ++
    List.replicate 9 (.resume 0)

theorem live_clip_of_one_batch_sample :
    ∃ s, runTwoClips oneBehind = some s ∧ OneClip [] twoClips s.disk := by
  have hrun : (runTwoClips oneBehind).map (fun s ↦ decide (AllReturned twoClips s)) =
      some true := by decide +kernel
  obtain ⟨s, hs, hreturned⟩ := Option.map_eq_some_iff.mp hrun
  have hall : AllSteps (stepHandler [] twoClips) (Apart twoClips)
      (.start (Disk.empty (.bytes []) : ServerDisk Unit)) oneBehind := by decide +kernel
  exact ⟨s, hs, live_clip_of_one_batch length_of_mem_twoClips (by decide) hall hs
    (of_decide_eq_true hreturned)⟩

/-- The first file is from the second clip, and the second from the first. -/
theorem live_clip_of_one_batch_sample_fails :
    ¬ ∀ (actions : List HandlerAction) (s : ClipHandlers Unit), runTwoClips actions = some s →
      AllReturned twoClips s → OneClip [] twoClips s.disk := by
  intro h
  have hrun : (runTwoClips overtaking).map
      (fun s ↦ (decide (AllReturned twoClips s), firstFrames s)) =
        some (true, some (.bytes [10]), some (.bytes [1])) := by decide +kernel
  obtain ⟨s, hs, hobserved⟩ := Option.map_eq_some_iff.mp hrun
  obtain ⟨hreturned, hframes⟩ := Prod.mk.inj hobserved
  obtain ⟨hzero, hone⟩ := Prod.mk.inj hframes
  obtain ⟨batch, hbatch, hfiles⟩ := h overtaking s hs (of_decide_eq_true hreturned)
  obtain ⟨frame, hframe, hread⟩ := hfiles 0 (by decide)
  obtain ⟨frame', hframe', hread'⟩ := hfiles 1 (by decide)
  obtain rfl : frame = [10] := File.bytes.inj (Option.some.inj (hread.symm.trans hzero))
  obtain rfl : frame' = [1] := File.bytes.inj (Option.some.inj (hread'.symm.trans hone))
  have hmixed : ∀ batch ∈ twoClips, ¬ (batch[0]? = some [10] ∧ batch[1]? = some [1]) := by decide
  exact hmixed batch hbatch ⟨hframe, hframe'⟩

end Courtside
