import Courtside.Bodies.Game
import Courtside.Data.SameFiles
import Courtside.Training.Interleaving
import Courtside.Training.UploadPaths

/-!
# Handlers that behave as if they took no turns

`upload_video`, `upload_game` and `test_model` open their destination, wait for the body, and
do the rest.  Their handlers interleave with each other and with `train_model`, and what a
client sees is the answers and, through the files, what was stored.

`serve` takes requests one after the other, each handled at once.  Where no two handlers have
the same file open, and no training starts while a file is open, the answers are those that
`serve` gives if the requests come in the order in which their handlers finish, and the files
are those it leaves, but for the ones that are still open (`handlers_linearize`).  An answer
is given in the turn in which its request is served, so no request is served before it was
sent or after it was answered.

The training itself is not modelled.  It has to depend on what the files hold, not on which
file a path names.
-/

universe u v

namespace Courtside

variable {Image : Type u} {Network : Type v} (host : Host Image Network) (backendDir : Path)

open Disk

/-! ## Requests -/

/-- A request whose handler stores a file. -/
inductive StoreRequest where
  | video (request : UploadRequest)
  | game (request : GameRequest)
  | test (request : TestRequest)

namespace StoreRequest

/-- What the handler opens. -/
def upload : StoreRequest → Upload
  | video request => .video request
  | game request => .game request.filename
  | test request => .test request.filename

/-- The path which that is, on a server that was started in the backend directory. -/
def path (request : StoreRequest) : Path := request.upload.path backendDir backendDir

/-- The body. -/
def data : StoreRequest → List UInt8
  | video request => request.data
  | game request => request.data
  | test request => request.data

end StoreRequest

/-- What a client is told. -/
inductive Answer where
  | filename (name : String)
  /-- The detections in an image, if it could be read. -/
  | detections (boxes : Option (List YoloBox))
  | trained (outcome : Except TrainError Unit)

/-! ## Two halves -/

/-- A handler up to its `await`. -/
def openStore (request : StoreRequest) (server : Server Image Network) :
    ℕ × Server Image Network :=
  let (handle, disk) := server.disk.openTrunc (request.path backendDir) (.bytes [])
  (handle, { server with disk })

/-- A handler from its `await` on.  `test_model` opens its file again to look at the image. -/
def finishStore (handle : ℕ) (request : StoreRequest) (server : Server Image Network) :
    Answer × Server Image Network :=
  let disk := server.disk.modify handle (File.overwrite request.data)
  match request with
  | .video request =>
      (.filename request.newFilename, { server with disk := resetDatasetDir backendDir disk })
  | .game request => (.filename request.filename, { server with disk })
  | .test _ =>
      (.detections ((disk.read (request.path backendDir)).bind fun file ↦
          testModelLogic host server.network file),
        { server with disk })

/-- `upload_game`, undisturbed. -/
def uploadGame (request : GameRequest) (server : Server Image Network) :
    String × Server Image Network :=
  (request.filename,
    { server with
      disk := server.disk.save ((StoreRequest.game request).path backendDir)
        (.bytes request.data) })

/-- The handlers, undisturbed. -/
def store : StoreRequest → Server Image Network → Answer × Server Image Network
  | .video request, server =>
      let (filename, server) := uploadVideo backendDir request server
      (.filename filename, server)
  | .game request, server =>
      let (filename, server) := uploadGame backendDir request server
      (.filename filename, server)
  | .test request, server =>
      let (boxes, server) := testModel host backendDir request server
      (.detections boxes, server)

/-! ## One request after the other -/

/-- A request to the server. -/
inductive ServerCall (Network : Type v) where
  | store (request : StoreRequest)
  | train (request : TrainRequest Network)

/-- A server, and what it has answered so far. -/
structure Answered (Image : Type u) (Network : Type v) where
  server : Server Image Network
  answers : List Answer

/-- One request, from its beginning to its end. -/
def serve (s : Answered Image Network) : ServerCall Network → Option (Answered Image Network)
  | .store request =>
      let (answer, server) := store host backendDir request s.server
      some { server, answers := s.answers ++ [answer] }
  | .train request =>
      if request.listing.Perm (listUploads backendDir s.server.disk) then
        let (outcome, server) := trainModel host backendDir request s.server
        some { server, answers := s.answers ++ [.trained outcome] }
      else none

/-! ## Turns -/

variable (requests : ℕ → StoreRequest)

/-- The server, its handlers, and what it has answered so far. -/
structure ServerTurns (Image : Type u) (Network : Type v) where
  server : Server Image Network
  phase : ℕ → Phase
  answers : List Answer

/-- A server on which no handler is at work. -/
def ServerTurns.start (server : Server Image Network) : ServerTurns Image Network where
  server := server
  phase := fun _ ↦ .waiting
  answers := []

/-- One turn of a handler. -/
def stepTurn (s : ServerTurns Image Network) : Action Network → Option (ServerTurns Image Network)
  | .openFile r =>
      match s.phase r with
      | .waiting =>
          let (handle, server) := openStore backendDir (requests r) s.server
          some { s with server, phase := Function.update s.phase r (.opened handle) }
      | _ => none
  | .openRaises r =>
      match s.phase r with
      | .waiting => some { s with phase := Function.update s.phase r .raised }
      | _ => none
  | .finish r =>
      match s.phase r with
      | .opened handle =>
          let (answer, server) := finishStore host backendDir handle (requests r) s.server
          some
            { server
              phase := Function.update s.phase r .returned
              answers := s.answers ++ [answer] }
      | _ => none
  | .train request =>
      if request.listing.Perm (listUploads backendDir s.server.disk) then
        let (outcome, server) := trainModel host backendDir request s.server
        some { s with server, answers := s.answers ++ [.trained outcome] }
      else none

/-- The requests that have been served, in the order in which their handlers finished. -/
def served (actions : List (Action Network)) : List (ServerCall Network) :=
  actions.filterMap fun
    | .finish r => some (.store (requests r))
    | .train request => some (.train request)
    | _ => none

/-- A handler has a file open. -/
def ServerTurns.Holds (s : ServerTurns Image Network) (p : Path) : Prop :=
  ∃ r handle, s.phase r = .opened handle ∧ (requests r).path backendDir = p

/-- A file is opened only if no handler has it open, and outside the dataset, and a training
starts only if no handler has any file open. -/
def Isolated (s : ServerTurns Image Network) : Action Network → Prop
  | .openFile r =>
      ¬ s.Holds backendDir requests ((requests r).path backendDir) ∧
        ¬ Path.Inside (datasetDir backendDir) ((requests r).path backendDir)
  | .train _ => ∀ p, ¬ s.Holds backendDir requests p
  | _ => True

variable {host backendDir requests}

/-! ## Trainings on disks with the same files -/

section Train

variable {disk disk' : ServerDisk Image}

theorem sameFiles_extractLoop (h : SameFiles (fun _ ↦ False) disk disk') (network : Network)
    (choose : ℕ → Split) (personId : ℕ) (personName : String) (rotation : ℤ)
    (frames : List Image) (frameId : ℕ) :
    SameFiles (fun _ ↦ False)
      (extractLoop host backendDir network choose personId personName rotation frameId frames disk)
      (extractLoop host backendDir network choose personId personName rotation frameId frames
        disk') := by
  rw [extractLoop_eq, extractLoop_eq]
  exact h.saveAll _

theorem sameFiles_extractAll (h : SameFiles (fun _ ↦ False) disk disk') (network : Network)
    (choose : ℕ → ℕ → Split) (videos : List String) (personId : ℕ) :
    (extractAll host backendDir network choose personId videos disk).1 =
        (extractAll host backendDir network choose personId videos disk').1 ∧
      SameFiles (fun _ ↦ False)
        (extractAll host backendDir network choose personId videos disk).2
        (extractAll host backendDir network choose personId videos disk').2 := by
  induction videos generalizing personId disk disk' with
  | nil => exact ⟨rfl, h⟩
  | cons video videos ih =>
      rw [extractAll, extractAll, h _ not_false]
      cases disk'.read (uploadPath backendDir video) with
      | none => exact ⟨rfl, h⟩
      | some file =>
          dsimp only
          rw [extractFrames, extractFrames]
          cases getVideoRotation (host.tracks file) with
          | error e => exact ⟨rfl, h⟩
          | ok rotation => exact ih (sameFiles_extractLoop h _ _ _ _ _ _ _) _

variable (host backendDir) in
theorem sameFiles_extraction {server server' : Server Image Network}
    (hnetwork : server.network = server'.network)
    (h : SameFiles (fun _ ↦ False) server.disk server'.disk) (request : TrainRequest Network) :
    (extraction host backendDir request server).1 =
        (extraction host backendDir request server').1 ∧
      SameFiles (fun _ ↦ False) (extraction host backendDir request server).2
        (extraction host backendDir request server').2 := by
  rw [extraction, extraction, hnetwork]
  exact sameFiles_extractAll (h.save _ _) _ _ _ _

/-- A training has the same outcome, and leaves the same network and the same files. -/
theorem sameFiles_trainModel
    (hfit : ∀ network (disk disk' : ServerDisk Image), SameFiles (fun _ ↦ False) disk disk' →
      host.fit network disk = host.fit network disk')
    {server server' : Server Image Network} (hnetwork : server.network = server'.network)
    (h : SameFiles (fun _ ↦ False) server.disk server'.disk) (request : TrainRequest Network) :
    (trainModel host backendDir request server).1 =
        (trainModel host backendDir request server').1 ∧
      (trainModel host backendDir request server).2.network =
        (trainModel host backendDir request server').2.network ∧
      SameFiles (fun _ ↦ False) (trainModel host backendDir request server).2.disk
        (trainModel host backendDir request server').2.disk := by
  obtain ⟨houtcome, hdisk⟩ := sameFiles_extraction host backendDir hnetwork h request
  rw [trainModel, trainModel]
  generalize extraction host backendDir request server = extracted at houtcome hdisk ⊢
  generalize extraction host backendDir request server' = extracted' at houtcome hdisk ⊢
  obtain ⟨outcome, disk⟩ := extracted
  obtain ⟨outcome', disk'⟩ := extracted'
  obtain rfl : outcome = outcome' := houtcome
  cases outcome with
  | error e => exact ⟨rfl, hnetwork, hdisk⟩
  | ok _ =>
      cases request.outcome with
      | trainRaises network => exact ⟨rfl, rfl, hdisk⟩
      | exportRaises =>
          refine ⟨rfl, ?_, hdisk⟩
          exact (hfit _ _ _ hdisk).trans (congrArg (host.fit · disk') hnetwork)
      | completes stuck =>
          refine ⟨rfl, ?_, hdisk.remove _⟩
          exact (hfit _ _ _ hdisk).trans (congrArg (host.fit · disk') hnetwork)

end Train

/-! ## The simulation -/

/-- What a server that takes turns has in common with one that does not. -/
structure Serves (backendDir : Path) (requests : ℕ → StoreRequest)
    (s : ServerTurns Image Network) (t : Answered Image Network) : Prop where
  answers : s.answers = t.answers
  network : s.server.network = t.server.network
  sameFiles : SameFiles (s.Holds backendDir requests) s.server.disk t.server.disk
  /-- An open file is empty, and no part of the dataset. -/
  opened : ∀ r handle, s.phase r = .opened handle →
    s.server.disk.file? ((requests r).path backendDir) = some (handle, .bytes []) ∧
      ¬ Path.Inside (datasetDir backendDir) ((requests r).path backendDir)
  apart : ∀ r r' handle handle', s.phase r = .opened handle → s.phase r' = .opened handle' →
    (requests r).path backendDir = (requests r').path backendDir → r = r'

theorem overwrite_empty (data : List UInt8) :
    File.overwrite data (.bytes [] : File Image) = .bytes data :=
  File.overwrite_eq fun _ hold ↦ File.bytes.inj hold ▸ Nat.zero_le _

variable (backendDir) in
/-- What a handler does to the other files. -/
def settle : StoreRequest → ServerDisk Image → ServerDisk Image
  | .video _, disk => resetDatasetDir backendDir disk
  | _, disk => disk

theorem sameFiles_settle {held : Path → Prop} {disk disk' : ServerDisk Image}
    (h : SameFiles held disk disk') (request : StoreRequest) :
    SameFiles held (settle backendDir request disk) (settle backendDir request disk') := by
  cases request with
  | video request => exact h.remove _
  | game request => exact h
  | test request => exact h

theorem file?_settle {p : Path} (hp : ¬ Path.Inside (datasetDir backendDir) p)
    (request : StoreRequest) (disk : ServerDisk Image) :
    (settle backendDir request disk).file? p = disk.file? p := by
  cases request with
  | video request => exact file?_clearDir_of_not_inside hp disk
  | game request => rfl
  | test request => rfl

theorem disk_finishStore (handle : ℕ) (request : StoreRequest) (server : Server Image Network) :
    (finishStore host backendDir handle request server).2.disk =
      settle backendDir request (server.disk.modify handle (File.overwrite request.data)) := by
  cases request <;> rfl

theorem network_finishStore (handle : ℕ) (request : StoreRequest)
    (server : Server Image Network) :
    (finishStore host backendDir handle request server).2.network = server.network := by
  cases request <;> rfl

theorem network_store (request : StoreRequest) (server : Server Image Network) :
    (store host backendDir request server).2.network = server.network := by
  cases request <;> rfl

/-- An undisturbed handler saves its file. -/
theorem sameFiles_store (request : StoreRequest) (server : Server Image Network) :
    SameFiles (fun _ ↦ False) (store host backendDir request server).2.disk
      (settle backendDir request
        (server.disk.save (request.path backendDir) (.bytes request.data))) := by
  cases request with
  | game request => exact .refl _ _
  | test request => exact .refl _ _
  | video request =>
      have hfiles := SameFiles.modify_openTrunc server.disk
        ((StoreRequest.video request).path backendDir) (.bytes []) (File.overwrite request.data)
      rw [overwrite_empty] at hfiles
      exact sameFiles_settle hfiles (.video request)

/-- What has been written is what the image is read from. -/
theorem answer_finishStore {handle : ℕ} {request : StoreRequest}
    {server server' : Server Image Network} (hnetwork : server.network = server'.network)
    (hwritten : (server.disk.modify handle (File.overwrite request.data)).read
      (request.path backendDir) = some (.bytes request.data)) :
    (finishStore host backendDir handle request server).1 =
      (store host backendDir request server').1 := by
  cases request with
  | video request => rfl
  | game request => rfl
  | test request =>
      rw [finishStore]
      dsimp only
      rw [hwritten, hnetwork]
      rfl

section Step

variable {s : ServerTurns Image Network} {t : Answered Image Network} {r : ℕ}

theorem Serves.openFile (h : Serves backendDir requests s t) (hwaiting : s.phase r = .waiting)
    (hfree : ¬ s.Holds backendDir requests ((requests r).path backendDir))
    (houtside : ¬ Path.Inside (datasetDir backendDir) ((requests r).path backendDir)) :
    Serves backendDir requests
      { s with
        server := (openStore backendDir (requests r) s.server).2
        phase := Function.update s.phase r
          (.opened (openStore backendDir (requests r) s.server).1) } t where
  answers := h.answers
  network := h.network
  sameFiles := by
    refine (h.sameFiles.openTrunc ((requests r).path backendDir) (.bytes [])).mono ?_
    rintro q (rfl | ⟨i, handle, hi, rfl⟩)
    · exact ⟨r, _, Function.update_self _ _ _, rfl⟩
    · have hir : i ≠ r := fun heq ↦ by rw [heq, hwaiting] at hi; cases hi
      exact ⟨i, handle, (Function.update_of_ne hir _ _).trans hi, rfl⟩
  opened := by
    intro i handle hi
    have hfile := file?_openTrunc s.server.disk ((requests r).path backendDir)
      ((requests i).path backendDir) (.bytes [])
    rcases update_phase_cases hi with ⟨rfl, hhandle⟩ | ⟨hir, hi⟩
    · rw [if_pos rfl] at hfile
      exact ⟨Phase.opened.inj hhandle ▸ hfile, houtside⟩
    · rw [if_neg fun heq ↦ hfree ⟨i, handle, hi, heq⟩] at hfile
      exact ⟨hfile.trans (h.opened i handle hi).1, (h.opened i handle hi).2⟩
  apart := by
    intro i i' handle handle' hopen hopen' hpath
    rcases update_phase_cases hopen with ⟨rfl, -⟩ | ⟨-, hi⟩ <;>
      rcases update_phase_cases hopen' with ⟨rfl, -⟩ | ⟨-, hi'⟩
    · rfl
    · exact absurd ⟨i', handle', hi', hpath.symm⟩ hfree
    · exact absurd ⟨i, handle, hi, hpath⟩ hfree
    · exact h.apart i i' handle handle' hi hi' hpath

/-- A handler that has not opened its file holds nothing. -/
theorem Serves.openRaises (h : Serves backendDir requests s t) (hwaiting : s.phase r = .waiting) :
    Serves backendDir requests { s with phase := Function.update s.phase r .raised } t where
  answers := h.answers
  network := h.network
  sameFiles := by
    refine h.sameFiles.mono ?_
    rintro q ⟨i, handle, hi, rfl⟩
    have hir : i ≠ r := fun heq ↦ by rw [heq, hwaiting] at hi; cases hi
    exact ⟨i, handle, (Function.update_of_ne hir _ _).trans hi, rfl⟩
  opened := fun i handle hi ↦ h.opened i handle (eq_of_update_phase hi (by simp)).2
  apart := fun i i' handle handle' hi hi' ↦
    h.apart i i' handle handle' (eq_of_update_phase hi (by simp)).2
      (eq_of_update_phase hi' (by simp)).2

/-- A handler that finishes answers as it would undisturbed, and leaves the same files. -/
theorem Serves.finish (h : Serves backendDir requests s t) {handle : ℕ}
    (hopened : s.phase r = .opened handle) :
    Serves backendDir requests
      { server := (finishStore host backendDir handle (requests r) s.server).2
        phase := Function.update s.phase r .returned
        answers := s.answers ++ [(finishStore host backendDir handle (requests r) s.server).1] }
      { server := (store host backendDir (requests r) t.server).2
        answers := t.answers ++ [(store host backendDir (requests r) t.server).1] } := by
  obtain ⟨hfile, houtside⟩ := h.opened r handle hopened
  have hwritten := file?_modify_self (File.overwrite (requests r).data) hfile
  rw [overwrite_empty] at hwritten
  have hheld : SameFiles
      (fun q ↦ q = (requests r).path backendDir ∨ ∃ i handle,
        Function.update s.phase r .returned i = .opened handle ∧
          (requests i).path backendDir = q) s.server.disk t.server.disk := by
    refine h.sameFiles.mono ?_
    rintro q ⟨i, handle', hi, rfl⟩
    by_cases hir : i = r
    · exact .inl (congrArg (fun i ↦ (requests i).path backendDir) hir)
    · exact .inr ⟨i, handle', (Function.update_of_ne hir _ _).trans hi, rfl⟩
  refine ⟨?_, ?_, ?_, fun i handle' hi ↦ ?_, fun i i' handle' handle'' hi hi' hpath ↦ ?_⟩
  · dsimp only
    rw [h.answers, answer_finishStore h.network (by rw [Disk.read, hwritten]; rfl)]
  · dsimp only
    rw [network_finishStore, network_store, h.network]
  · dsimp only
    have hsaved := hheld.finish (f := File.overwrite (requests r).data) hfile
    rw [overwrite_empty] at hsaved
    rw [disk_finishStore]
    refine (sameFiles_settle hsaved (requests r)).trans ?_
    exact (sameFiles_store (requests r) t.server).symm.mono fun _ ↦ False.elim
  · obtain ⟨hir, hi⟩ := eq_of_update_phase hi (by simp)
    obtain ⟨hfile', houtside'⟩ := h.opened i handle' hi
    have hne : (requests i).path backendDir ≠ (requests r).path backendDir :=
      fun hpath ↦ hir (h.apart i r handle' handle hi hopened hpath)
    dsimp only
    rw [disk_finishStore, file?_settle houtside', file?_modify_of_ne _ hfile hne]
    exact ⟨hfile', houtside'⟩
  · exact h.apart i i' handle' handle'' (eq_of_update_phase hi (by simp)).2
      (eq_of_update_phase hi' (by simp)).2 hpath

/-- While no file is open, a training does what it would do on the other server. -/
theorem Serves.train
    (hfit : ∀ network (disk disk' : ServerDisk Image), SameFiles (fun _ ↦ False) disk disk' →
      host.fit network disk = host.fit network disk')
    (h : Serves backendDir requests s t) (hfree : ∀ p, ¬ s.Holds backendDir requests p)
    (request : TrainRequest Network) :
    Serves backendDir requests
      { s with
        server := (trainModel host backendDir request s.server).2
        answers := s.answers ++ [.trained (trainModel host backendDir request s.server).1] }
      { server := (trainModel host backendDir request t.server).2
        answers := t.answers ++ [.trained (trainModel host backendDir request t.server).1] } := by
  have hsame : SameFiles (fun _ ↦ False) s.server.disk t.server.disk :=
    h.sameFiles.mono fun p hp ↦ hfree p hp
  obtain ⟨houtcome, hnetwork, hdisk⟩ := sameFiles_trainModel hfit h.network hsame request
  refine ⟨?_, hnetwork, hdisk.mono fun _ ↦ False.elim, fun i handle hi ↦ ?_, h.apart⟩
  · dsimp only
    rw [h.answers, houtcome]
  · exact absurd ⟨i, handle, hi, rfl⟩ (hfree _)

end Step

/-! ## All runs -/

/-- One turn: either no request is served, or it is served in this turn. -/
theorem Serves.step
    (hfit : ∀ network (disk disk' : ServerDisk Image), SameFiles (fun _ ↦ False) disk disk' →
      host.fit network disk = host.fit network disk')
    {s s' : ServerTurns Image Network} {t : Answered Image Network} {a : Action Network}
    (h : Serves backendDir requests s t) (hisolated : Isolated backendDir requests s a)
    (hstep : stepTurn host backendDir requests s a = some s') :
    ∃ t', exec (serve host backendDir) t (served requests [a]) = some t' ∧
      Serves backendDir requests s' t' := by
  cases a with
  | openFile r =>
      simp only [stepTurn] at hstep
      split at hstep
      · next hwaiting =>
          cases hstep
          exact ⟨t, rfl, h.openFile hwaiting hisolated.1 hisolated.2⟩
      · cases hstep
  | openRaises r =>
      simp only [stepTurn] at hstep
      split at hstep
      · next hwaiting =>
          cases hstep
          exact ⟨t, rfl, h.openRaises hwaiting⟩
      · cases hstep
  | finish r =>
      simp only [stepTurn] at hstep
      split at hstep
      · next handle hopened =>
          cases hstep
          exact ⟨_, rfl, h.finish hopened⟩
      · cases hstep
  | train request =>
      simp only [stepTurn] at hstep
      split at hstep
      · next hlisting =>
          cases hstep
          have hsame : SameFiles (fun _ ↦ False) s.server.disk t.server.disk :=
            h.sameFiles.mono fun p hp ↦ hisolated p hp
          refine ⟨_, ?_, h.train hfit hisolated request⟩
          show (serve host backendDir t (.train request)).bind _ = _
          rw [serve, if_pos (hlisting.trans (perm_listUploads fun _ ↦ hsame _ not_false))]
          rfl
      · cases hstep

variable (host backendDir requests) in
/-- The requests can be served one after the other, and the server is then as it is now. -/
def Linearized (server : Server Image Network) (actions : List (Action Network))
    (s : ServerTurns Image Network) : Prop :=
  ∃ t, exec (serve host backendDir) ⟨server, []⟩ (served requests actions) = some t ∧
    Serves backendDir requests s t

variable (host backendDir) in
/-- **Atomicity.**  In a run of isolated turns the answers are those which the requests get
if they are handled one after the other, in the order in which their handlers finish, and
every file that is not open holds the same. -/
theorem handlers_linearize
    (hfit : ∀ network (disk disk' : ServerDisk Image), SameFiles (fun _ ↦ False) disk disk' →
      host.fit network disk = host.fit network disk')
    (server : Server Image Network) {actions : List (Action Network)}
    {s : ServerTurns Image Network}
    (hall : AllSteps (stepTurn host backendDir requests) (Isolated backendDir requests)
      (.start server) actions)
    (hexec : exec (stepTurn host backendDir requests) (.start server) actions = some s) :
    ∃ t, exec (serve host backendDir) ⟨server, []⟩ (served requests actions) = some t ∧
      s.answers = t.answers ∧ s.server.network = t.server.network ∧
      ∀ p, ¬ s.Holds backendDir requests p → s.server.disk.read p = t.server.disk.read p := by
  have hinit : Linearized host backendDir requests server [] (.start server) :=
    ⟨_, rfl, rfl, rfl, .refl _ _, fun _ _ h ↦ (nomatch h), fun _ _ _ _ h ↦ (nomatch h)⟩
  have hturn : ∀ actions s a s', Linearized host backendDir requests server actions s →
      Isolated backendDir requests s a → stepTurn host backendDir requests s a = some s' →
        Linearized host backendDir requests server (actions ++ [a]) s' := by
    rintro actions s a s' ⟨t, ht, hserves⟩ ha hs
    obtain ⟨t', ht', hserves'⟩ := hserves.step hfit ha hs
    refine ⟨t', ?_, hserves'⟩
    rw [served, List.filterMap_append]
    exact exec_append.mpr ⟨t, ht, ht'⟩
  obtain ⟨t, ht, hserves⟩ := exec_invariant hinit hturn hall hexec
  exact ⟨t, ht, hserves.answers, hserves.network, hserves.sameFiles⟩

/-! ## A sample run -/

/-- A clip, an image and a game. -/
def sampleRequests : ℕ → StoreRequest
  | 0 => .video (samClips 7)
  | 1 => .test { filename := "shot.jpg", data := [1, 2] }
  | _ => .game { filename := "game_video.mov", data := [3] }

/-- An image is looked at while a clip arrives, and then there is a training. -/
def sampleTurns : List (Action Unit) :=
  [.openFile 0, .openFile 1, .finish 1, .finish 0,
    .train (completedTraining ["Sam_A.mov", "shot.jpg"])]

theorem handlers_linearize_sample :
    ∃ s t, exec (stepTurn sampleHost [] sampleRequests)
        (.start ⟨Disk.empty (.bytes []), ()⟩) sampleTurns = some s ∧
      exec (serve sampleHost []) ⟨⟨Disk.empty (.bytes []), ()⟩, []⟩
        [.store (.test { filename := "shot.jpg", data := [1, 2] }), .store (.video (samClips 7)),
          .train (completedTraining ["Sam_A.mov", "shot.jpg"])] = some t ∧
      s.answers = t.answers ∧ s.server.network = t.server.network ∧
      ∀ p, ¬ s.Holds [] sampleRequests p → s.server.disk.read p = t.server.disk.read p := by
  have hrun : (exec (stepTurn sampleHost [] sampleRequests)
      (.start ⟨Disk.empty (.bytes []), ()⟩) sampleTurns).isSome := by decide +kernel
  obtain ⟨s, hs⟩ := Option.isSome_iff_exists.mp hrun
  have hnone (q : Path) : ¬ (ServerTurns.start ⟨Disk.empty (.bytes []), ()⟩ :
      ServerTurns UInt8 Unit).Holds [] sampleRequests q := by
    rintro ⟨r, handle, hphase, -⟩
    cases hphase
  obtain ⟨t, ht⟩ := handlers_linearize sampleHost [] (fun _ _ _ _ ↦ rfl) _ (by
    refine ⟨⟨hnone _, by decide⟩, ?_⟩
    rintro s₁ ⟨⟩
    refine ⟨⟨?_, by decide⟩, ?_⟩
    · rintro ⟨r, handle, hphase, hpath⟩
      rcases update_phase_cases hphase with ⟨rfl, -⟩ | ⟨-, hphase⟩
      · exact absurd hpath (by decide)
      · cases hphase
    rintro s₂ ⟨⟩
    refine ⟨trivial, ?_⟩
    rintro s₃ ⟨⟩
    refine ⟨trivial, ?_⟩
    rintro s₄ ⟨⟩
    refine ⟨fun q ↦ ?_, fun _ _ ↦ trivial⟩
    rintro ⟨r, handle, hphase, -⟩
    -- every handler has returned, or is not there
    obtain ⟨hr₀, hphase⟩ := eq_of_update_phase hphase (by simp)
    obtain ⟨hr₁, hphase⟩ := eq_of_update_phase hphase (by simp)
    rcases update_phase_cases hphase with ⟨hr, -⟩ | ⟨-, hphase⟩
    · exact hr₁ hr
    rcases update_phase_cases hphase with ⟨hr, -⟩ | ⟨-, hphase⟩
    · exact hr₀ hr
    · cases hphase) hs
  exact ⟨s, t, hs, ht⟩

end Courtside
