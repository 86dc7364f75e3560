import Courtside.Data.Run
import Courtside.Training.Server

/-!
# Interleaved uploads and trainings

`upload_video` gives up control once, at the `await` between opening its destination
and writing to it; `train_model` never does.  Handlers therefore interleave in the
actions of `Action`, and the state between them records how far each upload has come.

The answer to an upload is a promise that its bytes are kept (`Kept`): they are in
`UPLOAD_DIR`, or a later upload of that name has overwritten them, or some training has
read them.  The promise is broken when a training deletes the file between the two
halves of an upload — the bytes then go to a file that has no name any more — and
when uploads of one name overlap and the shorter one is written last.

Where neither happens it is kept (`uploads_kept`).  The invariant is that an open
upload still has its file: the handle it holds is the one its name leads to.
-/

universe u v

namespace Courtside

variable {Image : Type u} {Network : Type v}

/-- How far an upload has come. -/
inductive Phase where
  | waiting
  /-- Its destination is open, and the body is awaited. -/
  | opened (handle : ℕ)
  | returned
  /-- Its destination could not be opened. -/
  | raised
deriving DecidableEq

/-- The server and the handlers at work. -/
structure Handlers (Image : Type u) (Network : Type v) where
  server : Server Image Network
  phase : ℕ → Phase
  /-- The disk as each training found it. -/
  trained : List (ServerDisk Image)

/-- What a handler does between two points at which it may give up control. -/
inductive Action (Network : Type v) where
  | openFile (r : ℕ)
  | openRaises (r : ℕ)
  | finish (r : ℕ)
  | train (request : TrainRequest Network)

variable (host : Host Image Network) (backendDir : Path) (requests : ℕ → UploadRequest)

/-- One action.  An upload is opened once and finished once, and a training lists what
there is. -/
def stepHandlers (s : Handlers Image Network) : Action Network → Option (Handlers Image Network)
  | .openFile r =>
      match s.phase r with
      | .waiting =>
          let (handle, server) := openUpload backendDir (requests r) s.server
          some { s with server, phase := Function.update s.phase r (.opened handle) }
      | _ => none
  | .openRaises r =>
      match s.phase r with
      | .waiting => some { s with phase := Function.update s.phase r .raised }
      | _ => none
  | .finish r =>
      match s.phase r with
      | .opened handle =>
          let (_, server) := finishUpload backendDir handle (requests r) s.server
          some { s with server, phase := Function.update s.phase r .returned }
      | _ => none
  | .train request =>
      if request.listing.Perm (listUploads backendDir s.server.disk) then
        some
          { s with
            server := (trainModel host backendDir request s.server).2
            trained :=
              match (extraction host backendDir request s.server).1 with
              | .ok () => s.trained ++ [s.server.disk]
              | .error _ => s.trained }
      else none

/-! ## The promise -/

/-- The destination of an upload. -/
def destination (r : ℕ) : Path := uploadPath backendDir (requests r).newFilename

/-- The action writes to the file of an upload, for another upload of that name. -/
def Overwrites (r : ℕ) : Action Network → Prop
  | .openFile other => other ≠ r ∧ (requests other).newFilename = (requests r).newFilename
  | .finish other => other ≠ r ∧ (requests other).newFilename = (requests r).newFilename
  | _ => False

/-- After it had returned, an upload was overwritten by another of that name. -/
def OverwrittenLater (actions : List (Action Network)) (r : ℕ) : Prop :=
  ∃ before after a, actions = before ++ .finish r :: after ∧ a ∈ after ∧ Overwrites requests r a

/-- The bytes of an upload are on a disk, under its name and in full. -/
def HoldsUpload (disk : ServerDisk Image) (r : ℕ) : Prop :=
  disk.read (destination backendDir requests r) = some (.bytes (requests r).data)

/-- The bytes of an upload are in `UPLOAD_DIR`, or a later upload has overwritten them,
or a training has read them. -/
def Kept (actions : List (Action Network)) (s : Handlers Image Network) (r : ℕ) : Prop :=
  HoldsUpload backendDir requests s.server.disk r ∨ OverwrittenLater requests actions r ∨
    ∃ disk ∈ s.trained, HoldsUpload backendDir requests disk r

/-- No upload that has returned is lost. -/
def NothingLost (actions : List (Action Network)) (s : Handlers Image Network) : Prop :=
  ∀ r, s.phase r = .returned → Kept backendDir requests actions s r

/-- An action that puts no upload at risk: names are not paths, the bytes that are
written cover what the file holds, and no file of an open upload is deleted. -/
def Careful (s : Handlers Image Network) : Action Network → Prop
  | .openFile r => '/' ∉ (requests r).newFilename.toList
  | .openRaises _ => True
  | .finish r => ∀ handle old, s.phase r = .opened handle →
      s.server.disk.content handle = .bytes old → old.length ≤ (requests r).data.length
  | .train request => ∀ r handle, s.phase r = .opened handle →
      ¬ Deletes host backendDir request s.server (destination backendDir requests r)

/-! ## The invariant -/

/-- Every open upload has its file, and every one that returned is kept. -/
structure UploadsSafe (actions : List (Action Network)) (s : Handlers Image Network) : Prop where
  opened : ∀ r handle, s.phase r = .opened handle →
    ∃ file, s.server.disk.file? (destination backendDir requests r) = some (handle, file)
  finished : ∀ r, s.phase r = .returned → .finish r ∈ actions
  kept : NothingLost backendDir requests actions s

variable {host backendDir requests}

theorem OverwrittenLater.append {actions : List (Action Network)} {r : ℕ}
    (h : OverwrittenLater requests actions r) (a : Action Network) :
    OverwrittenLater requests (actions ++ [a]) r := by
  obtain ⟨before, after, b, rfl, hb, hover⟩ := h
  exact ⟨before, after ++ [a], b, by simp, List.mem_append_left _ hb, hover⟩

theorem overwrittenLater_of_finished {actions : List (Action Network)} {r : ℕ}
    {a : Action Network} (hfinish : .finish r ∈ actions) (ha : Overwrites requests r a) :
    OverwrittenLater requests (actions ++ [a]) r := by
  obtain ⟨before, after, rfl⟩ := List.append_of_mem hfinish
  exact ⟨before, after ++ [a], a, by simp, List.mem_append_right _ (List.mem_singleton_self a), ha⟩

/-- An upload stays kept if the action overwrites it, leaves it on disk, or has read it
as it was. -/
theorem Kept.append {actions : List (Action Network)} {s s' : Handlers Image Network} {r : ℕ}
    (h : Kept backendDir requests actions s r) (hfinish : .finish r ∈ actions)
    {a : Action Network} (htrained : ∀ disk ∈ s.trained, disk ∈ s'.trained)
    (ha : Overwrites requests r a ∨
      (HoldsUpload backendDir requests s.server.disk r →
        HoldsUpload backendDir requests s'.server.disk r) ∨ s.server.disk ∈ s'.trained) :
    Kept backendDir requests (actions ++ [a]) s' r := by
  rcases h with hholds | hover | ⟨disk, hdisk, hholds⟩
  · rcases ha with ha | hkeep | hread
    · exact .inr (.inl (overwrittenLater_of_finished hfinish ha))
    · exact .inl (hkeep hholds)
    · exact .inr (.inr ⟨_, hread, hholds⟩)
  · exact .inr (.inl (hover.append a))
  · exact .inr (.inr ⟨disk, htrained disk hdisk, hholds⟩)

/-! ## One action -/

section Step

variable {actions : List (Action Network)} {s : Handlers Image Network} {r : ℕ}

theorem UploadsSafe.openFile (h : UploadsSafe backendDir requests actions s)
    (hwaiting : s.phase r = .waiting) (hname : '/' ∉ (requests r).newFilename.toList) :
    UploadsSafe backendDir requests (actions ++ [.openFile r])
      { s with
        server := (openUpload backendDir (requests r) s.server).2
        phase := Function.update s.phase r
          (.opened (openUpload backendDir (requests r) s.server).1) } where
  opened := by
    intro i handle hi
    dsimp only
    rw [file?_openUpload (plain_newFilename hname)]
    rcases update_phase_cases hi with ⟨rfl, hhandle⟩ | ⟨hir, hi⟩
    · cases hhandle
      exact ⟨_, if_pos rfl⟩
    · obtain ⟨file, hfile⟩ := h.opened i handle hi
      split
      · -- another open upload of this name: both hold the one file
        next hpath =>
          rw [hpath] at hfile
          exact ⟨_, by rw [fst_openUpload (plain_newFilename hname) hfile]⟩
      · exact ⟨file, hfile⟩
  finished := by
    intro i hi
    obtain ⟨-, hi⟩ := eq_of_update_phase hi (by simp)
    exact List.mem_append_left _ (h.finished i hi)
  kept := by
    intro i hi
    obtain ⟨hir, hi⟩ := eq_of_update_phase hi (by simp)
    refine (h.kept i hi).append (h.finished i hi) (fun _ hdisk ↦ hdisk) ?_
    by_cases hname' : (requests r).newFilename = (requests i).newFilename
    · exact .inl ⟨hir.symm, hname'⟩
    · refine .inr (.inl fun hholds ↦ ?_)
      rw [HoldsUpload, Disk.read, file?_openUpload (plain_newFilename hname), if_neg]
      · exact hholds
      · exact fun hpath ↦ hname' (uploadPath_inj hpath).symm

theorem UploadsSafe.openRaises (h : UploadsSafe backendDir requests actions s) :
    UploadsSafe backendDir requests (actions ++ [.openRaises r])
      { s with phase := Function.update s.phase r .raised } where
  opened := by
    intro i handle hi
    exact h.opened i handle (eq_of_update_phase hi (by simp)).2
  finished := by
    intro i hi
    obtain ⟨-, hi⟩ := eq_of_update_phase hi (by simp)
    exact List.mem_append_left _ (h.finished i hi)
  kept := by
    intro i hi
    obtain ⟨-, hi⟩ := eq_of_update_phase hi (by simp)
    exact (h.kept i hi).append (h.finished i hi) (fun _ hdisk ↦ hdisk) (.inr (.inl id))

theorem UploadsSafe.finish (h : UploadsSafe backendDir requests actions s) {handle : ℕ}
    (hopened : s.phase r = .opened handle)
    (hcover : ∀ old, s.server.disk.content handle = .bytes old →
      old.length ≤ (requests r).data.length) :
    UploadsSafe backendDir requests (actions ++ [.finish r])
      { s with
        server := (finishUpload backendDir handle (requests r) s.server).2
        phase := Function.update s.phase r .returned } := by
  obtain ⟨file, hfile⟩ := h.opened r handle hopened
  have hself : (finishUpload backendDir handle (requests r) s.server).2.disk.file?
      (destination backendDir requests r) = some (handle, .bytes (requests r).data) := by
    obtain ⟨-, rfl⟩ := Disk.entries_of_file? hfile
    rw [destination, file?_finishUpload, ← destination, Disk.file?_modify_self _ hfile,
      File.overwrite_eq hcover]
  have hother : ∀ i, (requests i).newFilename ≠ (requests r).newFilename →
      (finishUpload backendDir handle (requests r) s.server).2.disk.file?
        (destination backendDir requests i) =
      s.server.disk.file? (destination backendDir requests i) := by
    intro i hne
    rw [destination, file?_finishUpload]
    exact Disk.file?_modify_of_ne _ hfile fun hpath ↦ hne (uploadPath_inj hpath)
  refine ⟨fun i handle' hi ↦ ?_, fun i hi ↦ ?_, fun i hi ↦ ?_⟩
  · obtain ⟨-, hi⟩ := eq_of_update_phase hi (by simp)
    obtain ⟨file', hfile'⟩ := h.opened i handle' hi
    by_cases hname : (requests i).newFilename = (requests r).newFilename
    · rw [destination, hname, ← destination] at hfile' ⊢
      rw [hfile] at hfile'
      cases hfile'
      exact ⟨_, hself⟩
    · exact ⟨file', (hother i hname).trans hfile'⟩
  · rcases update_phase_cases hi with ⟨rfl, -⟩ | ⟨-, hi⟩
    · exact List.mem_append_right _ (List.mem_singleton_self _)
    · exact List.mem_append_left _ (h.finished i hi)
  · rcases update_phase_cases hi with ⟨rfl, -⟩ | ⟨hir, hi⟩
    · refine .inl ?_
      rw [HoldsUpload, Disk.read, hself]
      rfl
    · refine (h.kept i hi).append (h.finished i hi) (fun _ hdisk ↦ hdisk) ?_
      by_cases hname : (requests r).newFilename = (requests i).newFilename
      · exact .inl ⟨Ne.symm hir, hname⟩
      · refine .inr (.inl fun hholds ↦ ?_)
        rw [HoldsUpload, Disk.read, hother i (Ne.symm hname)]
        exact hholds

theorem UploadsSafe.train (h : UploadsSafe backendDir requests actions s)
    (request : TrainRequest Network)
    (hopen : ∀ r handle, s.phase r = .opened handle →
      ¬ Deletes host backendDir request s.server (destination backendDir requests r)) :
    UploadsSafe backendDir requests (actions ++ [.train request])
      { s with
        server := (trainModel host backendDir request s.server).2
        trained :=
          match (extraction host backendDir request s.server).1 with
          | .ok () => s.trained ++ [s.server.disk]
          | .error _ => s.trained } where
  opened := by
    intro i handle hi
    obtain ⟨file, hfile⟩ := h.opened i handle hi
    rcases file?_trainModel_uploadPath host backendDir request s.server
      (requests i).newFilename with ⟨hdeletes, -⟩ | ⟨-, hkept⟩
    · exact absurd hdeletes (hopen i handle hi)
    · exact ⟨file, hkept.trans hfile⟩
  finished := fun i hi ↦ List.mem_append_left _ (h.finished i hi)
  kept := by
    intro i hi
    refine (h.kept i hi).append (h.finished i hi) (fun disk hdisk ↦ ?_) (.inr ?_)
    · dsimp only
      split
      · exact List.mem_append_left _ hdisk
      · exact hdisk
    · rcases file?_trainModel_uploadPath host backendDir request s.server
        (requests i).newFilename with ⟨hdeletes, -⟩ | ⟨-, hkept⟩
      · -- whatever is deleted has been read
        refine .inr ?_
        dsimp only
        rw [hdeletes.1]
        exact List.mem_append_right _ (List.mem_singleton_self _)
      · refine .inl fun hholds ↦ ?_
        rw [HoldsUpload, Disk.read, destination, hkept]
        exact hholds

end Step

/-! ## All runs -/

/-- What one careful action preserves. -/
theorem UploadsSafe.step {actions : List (Action Network)} {s s' : Handlers Image Network}
    {a : Action Network} (h : UploadsSafe backendDir requests actions s)
    (hcareful : Careful host backendDir requests s a)
    (hstep : stepHandlers host backendDir requests s a = some s') :
    UploadsSafe backendDir requests (actions ++ [a]) s' := by
  cases a with
  | openFile r =>
      simp only [stepHandlers] at hstep
      split at hstep
      · next hwaiting =>
          cases hstep
          exact h.openFile hwaiting hcareful
      · cases hstep
  | openRaises r =>
      simp only [stepHandlers] at hstep
      split at hstep
      · cases hstep
        exact h.openRaises
      · cases hstep
  | finish r =>
      simp only [stepHandlers] at hstep
      split at hstep
      · next handle hopened =>
          cases hstep
          exact h.finish hopened fun old hold ↦ hcareful handle old hopened hold
      · cases hstep
  | train request =>
      simp only [stepHandlers] at hstep
      split at hstep
      · cases hstep
        exact h.train request hcareful
      · cases hstep

/-- A server on which no handler is at work. -/
def Handlers.start (server : Server Image Network) : Handlers Image Network where
  server := server
  phase := fun _ ↦ .waiting
  trained := []

/-- **No upload is lost.**  In a run of careful actions, whatever the requests and in
whichever order their handlers take turns, every upload that has returned is in
`UPLOAD_DIR`, has been overwritten by a later one of its name, or has been read by a
training. -/
theorem uploads_kept (server : Server Image Network) {actions : List (Action Network)}
    {s : Handlers Image Network}
    (hall : AllSteps (stepHandlers host backendDir requests) (Careful host backendDir requests)
      (.start server) actions)
    (hexec : exec (stepHandlers host backendDir requests) (.start server) actions = some s) :
    NothingLost backendDir requests actions s := by
  have hinit : UploadsSafe backendDir requests ([] : List (Action Network)) (.start server) :=
    ⟨fun _ _ h ↦ (nomatch h), fun _ h ↦ (nomatch h), fun _ h ↦ (nomatch h)⟩
  exact (exec_invariant hinit (fun _ _ _ _ h ↦ h.step) hall hexec).kept

/-! ## Sample runs -/

/-- A training that completes. -/
def completedTraining (listing : List String) : TrainRequest Unit where
  listing := listing
  choose _ _ := .train
  outcome := .completes fun _ ↦ false

/-- A run of the sample host on an empty disk. -/
def sampleRun (actions : List (Action Unit)) : Option (Handlers UInt8 Unit) :=
  exec (stepHandlers sampleHost [] samClips) (.start ⟨Disk.empty (.bytes []), ()⟩) actions

/-- An upload that a training finds finished. -/
theorem uploads_kept_sample :
    ∃ s, sampleRun [.openFile 0, .finish 0, .train (completedTraining ["Sam_A.mov"])] = some s ∧
      NothingLost [] samClips
        [.openFile 0, .finish 0, .train (completedTraining ["Sam_A.mov"])] s := by
  obtain ⟨s, hs⟩ := Option.isSome_iff_exists.mp (show (sampleRun
    [.openFile 0, .finish 0, .train (completedTraining ["Sam_A.mov"])]).isSome by decide)
  have hname : '/' ∉ (samClips 0).newFilename.toList := by decide
  refine ⟨s, hs, uploads_kept _ ⟨hname, ?_⟩ hs⟩
  rintro s₁ ⟨⟩
  refine ⟨fun handle old hphase hcontent ↦ ?_, ?_⟩
  · obtain rfl : 0 = handle := Phase.opened.inj hphase
    obtain rfl : [] = old := File.bytes.inj hcontent
    exact Nat.zero_le _
  · rintro s₂ ⟨⟩
    refine ⟨fun r handle hphase ↦ ?_, fun _ _ ↦ trivial⟩
    rcases update_phase_cases hphase with ⟨-, h⟩ | ⟨hr, hphase⟩
    · cases h
    · rcases update_phase_cases hphase with ⟨hr', -⟩ | ⟨-, h⟩
      · exact absurd hr' hr
      · cases h

/-- A training between the two halves of an upload deletes the open file, and the
answer comes all the same. -/
theorem uploads_kept_sample_fails :
    ¬ ∀ (actions : List (Action Unit)) (s : Handlers UInt8 Unit),
      sampleRun actions = some s → NothingLost [] samClips actions s := by
  have hrun : (sampleRun
      [.openFile 0, .train (completedTraining ["Sam_A.mov"]), .finish 0]).map (fun s ↦
        (s.phase 0, s.server.disk.read (destination [] samClips 0),
          s.trained.map fun disk ↦ disk.read (destination [] samClips 0))) =
      some (.returned, none, [some (.bytes [])]) := by
    decide
  obtain ⟨s, hs, hobserved⟩ := Option.map_eq_some_iff.mp hrun
  obtain ⟨hphase, hread, htrained⟩ : s.phase 0 = .returned ∧
      s.server.disk.read (destination [] samClips 0) = none ∧
      (s.trained.map fun disk ↦ disk.read (destination [] samClips 0)) = [some (.bytes [])] := by
    simpa using hobserved
  intro h
  rcases h _ s hs 0 hphase with hholds | ⟨before, after, a, hactions, ha, -⟩ | ⟨disk, hdisk, hholds⟩
  · rw [HoldsUpload, hread] at hholds
    cases hholds
  · -- nothing was done after the upload had returned
    rcases before with _ | ⟨_, _ | ⟨_, _ | ⟨_, before⟩⟩⟩ <;> simp at hactions
    rw [hactions.2.2] at ha
    cases ha
  · have hmem := List.mem_map_of_mem (f := fun disk ↦ disk.read (destination [] samClips 0)) hdisk
    rw [htrained, List.mem_singleton] at hmem
    rw [HoldsUpload] at hholds
    exact absurd (hmem.symm.trans hholds) (by decide)

end Courtside
