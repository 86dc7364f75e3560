import Courtside.Games.Trim
import Courtside.Training.Atomicity

/-!
# Uploading a game, and watching it

`UploadGameView` exports a trimmed video to a file, sends what the file holds to
`upload_game`, and saves the answer as the processed video; then it goes on to `WatchView`,
which asks the server for a processed video and saves what it gets under the same name.

But `upload_game` answers with a message and not with a video, and the server has no route
for what `WatchView` asks for, whose status `WatchView` does not look at.  So whatever is
uploaded, the processed video is the one message or the other
(`processed_video_is_no_video`).

The button is not disabled during an upload, so submissions overlap.  They share the file
that is exported to, and the progress that is shown is that of the first to end; still it
does not go on for ever (`upload_progress`).
-/

universe u

namespace Courtside

/-! ## The server -/

/-- What `upload_game` returns. -/
def uploadGameAnswer (filename : String) : List (String × String) :=
  [("filename", filename), ("message", "File uploaded successfully")]

/-- The paths of the routes of the server, which are all for `POST`. -/
def postPaths : List String :=
  ["/upload_clips/", "/upload_game/", "/upload_video/", "/train_model/", "/test_model/",
    "/predict_video/"]

/-- The status code of the answer to a `GET` request. -/
def getStatusCode (path : String) : ℕ := if path ∈ postPaths then 405 else 404

/-- The path that `WatchView` asks for. -/
def finalOutputVideoPath : String := "/final_output_video/"

theorem getStatusCode_finalOutputVideoPath : getStatusCode finalOutputVideoPath = 404 := by
  decide

/-! ## The phone -/

/-- What a data task ends with. -/
inductive TaskResult where
  | error (localizedDescription : String)
  | response (statusCode : ℕ) (data : Option Octets)
deriving DecidableEq

/-- What becomes of the data of a response: there may be no place for it, or it may not be
written. -/
inductive SaveOutcome where
  | noDirectory
  | saved
  | fails (localizedDescription : String)
deriving DecidableEq

/-- How far a submission has come. -/
inductive Submission where
  | waiting
  | exporting (session : ExportSession)
  /-- The export has ended, with the description of an error if it was not completed, and its
  block waits on the main queue. -/
  | exported (outcome : Except (Option String) Unit)
  | requested
  /-- The block of the data task waits on the main queue. -/
  | answered (result : TaskResult)
  | finished
deriving DecidableEq

/-- A submission has not come to its end. -/
def Submission.Pending : Submission → Prop
  | waiting | finished => False
  | exporting _ | exported _ | requested | answered _ => True

instance : DecidablePred Submission.Pending
  | .waiting | .finished => isFalse id
  | .exporting _ | .exported _ | .requested | .answered _ => isTrue trivial

/-- A data task ends, if there still is one. -/
def Submission.receive (result : TaskResult) : Submission → Submission
  | requested => answered result
  | submission => submission

theorem Submission.receive_cases (result : TaskResult) (submission : Submission) :
    submission = .requested ∧ submission.receive result = .answered result ∨
      submission.receive result = submission := by
  cases submission with
  | requested => exact .inl ⟨rfl, rfl⟩
  | _ => exact .inr rfl

/-- How far a request of `WatchView` has come. -/
inductive Fetch where
  | waiting
  | requested
  /-- The block waits on the main queue, with the message of an error if there was one. -/
  | ended (outcome : Except String Unit)
  | finished
deriving DecidableEq

/-- `WatchView`. -/
structure WatchView where
  processedVideoURL : Option String := none
  isLoading : Bool := true
  errorMessage : String := ""
deriving DecidableEq

/-- How far the server has come with a game. -/
inductive GameHandler where
  | idle
  /-- The request is on its way. -/
  | incoming (body : Octets)
  | opened (handle : ℕ) (request : GameRequest)
  | finished
deriving DecidableEq

/-- The request is on its way, or is handled. -/
def GameHandler.isActive : GameHandler → Bool
  | idle | finished => false
  | incoming _ | opened _ _ => true

/-- The phone and the server.  Submissions are numbered, and so are the requests of
`WatchView`. -/
structure GameSystem (Image : Type u) where
  view : UploadGameView
  isUploading : Bool
  uploadMessage : String
  processedVideoURL : Option String
  navigateToWatchView : Bool
  watch : WatchView
  /-- `trimmedVideo.mov` in the temporary directory. -/
  trimmedVideo : Option Octets
  /-- `final_output_video.mp4` in the documents directory. -/
  finalOutputVideo : Option Octets
  submission : ℕ → Submission
  nextSubmission : ℕ
  fetch : ℕ → Fetch
  nextFetch : ℕ
  handler : ℕ → GameHandler
  disk : ServerDisk Image

/-- What happens next. -/
inductive GameAction where
  /-- An action in the view, other than a submission. -/
  | edit (a : TrimAction)
  | submit (supported : Bool)
  | exportCompletes (n : ℕ)
  /-- What the file then holds is not known. -/
  | exportFails (n : ℕ) (localizedDescription : Option String) (left : Option Octets)
  | exportBlock (n : ℕ) (readable : Bool)
  /-- The server opens the file of a game. -/
  | receive (n : ℕ)
  | finish (n : ℕ)
  /-- The server answers with an error. -/
  | reject (n statusCode : ℕ) (data : Option Octets)
  /-- A request does not arrive. -/
  | lose (n : ℕ) (localizedDescription : String)
  /-- The phone does not wait for the answer any more. -/
  | disconnect (n : ℕ) (localizedDescription : String)
  | responseBlock (n : ℕ) (outcome : SaveOutcome)
  | appear
  /-- There is an error, or no data. -/
  | fetchFails (k : ℕ) (localizedDescription : Option String)
  | fetchCompletes (k : ℕ) (outcome : SaveOutcome)
  | fetchBlock (k : ℕ)
deriving DecidableEq

/-- The name of the processed video. -/
def finalOutputVideoName : String := "final_output_video.mp4"

namespace GameSystem

variable {Image : Type u} (s : GameSystem Image)

/-- The phone after its start. -/
def start (disk : ServerDisk Image) : GameSystem Image where
  view := .new
  isUploading := false
  uploadMessage := ""
  processedVideoURL := none
  navigateToWatchView := false
  watch := {}
  trimmedVideo := none
  finalOutputVideo := none
  submission _ := .waiting
  nextSubmission := 0
  fetch _ := .waiting
  nextFetch := 0
  handler _ := .idle
  disk

/-- The block of a data task of `uploadVideo`, after it has stopped the progress. -/
def receiveResponse (outcome : SaveOutcome) : TaskResult → GameSystem Image
  | .error localizedDescription =>
      { s with uploadMessage := "Upload error: " ++ localizedDescription }
  | .response 200 (some data) =>
      match outcome with
      | .noDirectory => s
      | .saved =>
          { s with
            finalOutputVideo := some data
            uploadMessage := "Video uploaded successfully!"
            processedVideoURL := some finalOutputVideoName
            navigateToWatchView := true }
      | .fails localizedDescription =>
          { s with uploadMessage := "Error saving processed video: " ++ localizedDescription }
  | .response statusCode _ =>
      { s with uploadMessage := "Server returned status code: " ++ toString statusCode }

variable {s} in
/-- It concerns no submission and no handler, and not the progress. -/
theorem receiveResponse_cases (outcome : SaveOutcome) (result : TaskResult) :
    (s.receiveResponse outcome result).submission = s.submission ∧
      (s.receiveResponse outcome result).handler = s.handler ∧
      (s.receiveResponse outcome result).isUploading = s.isUploading := by
  unfold receiveResponse
  split
  · exact ⟨rfl, rfl, rfl⟩
  · cases outcome <;> exact ⟨rfl, rfl, rfl⟩
  · exact ⟨rfl, rfl, rfl⟩

/-- The block that follows an export. -/
def exportEnded (n : ℕ) (boundary : String) (readable : Bool) :
    Except (Option String) Unit → GameSystem Image
  | .ok () =>
      let videoData := if readable then s.trimmedVideo else none
      { s with
        submission := Function.update s.submission n .requested
        handler := Function.update s.handler n (.incoming (gameVideoBody boundary videoData)) }
  | .error localizedDescription =>
      { s with
        uploadMessage :=
          "Error trimming video: " ++ localizedDescription.getD "Unknown error"
        isUploading := false
        submission := Function.update s.submission n .finished }

/-- A request comes to its end, with what the phone is told of it. -/
def answered (n : ℕ) (result : TaskResult) : GameSystem Image :=
  { s with
    handler := Function.update s.handler n .finished
    submission := Function.update s.submission n ((s.submission n).receive result) }

end GameSystem

variable {Image : Type u} (q : QuotedText) (uuid : ℕ → UUID) (backendDir : Path)
  (exportData : ExportSession → Octets) (encode : List (String × String) → Octets)
  (httpError : ℕ → Octets)

/-- One action.  `encode` makes the body of an answer, and `httpError` that of an answer with
an error. -/
def stepGame (s : GameSystem Image) : GameAction → Option (GameSystem Image)
  | .edit (.submit _) => none
  | .edit a => (stepTrim s.view a).map fun view ↦ { s with view }
  | .submit supported =>
      (stepTrim s.view (.submit supported)).map fun view ↦
        match supported, view.exportSession with
        | true, some session =>
            { s with
              view
              isUploading := true
              uploadMessage := ""
              trimmedVideo := none
              submission := Function.update s.submission s.nextSubmission (.exporting session)
              nextSubmission := s.nextSubmission + 1 }
        | _, _ =>
            { s with view, isUploading := false, uploadMessage := "Export preset not supported" }
  | .exportCompletes n =>
      match s.submission n with
      | .exporting session =>
          some
            { s with
              trimmedVideo := some (exportData session)
              submission := Function.update s.submission n (.exported (.ok ())) }
      | _ => none
  | .exportFails n localizedDescription left =>
      match s.submission n with
      | .exporting _ =>
          some
            { s with
              trimmedVideo := left
              submission :=
                Function.update s.submission n (.exported (.error localizedDescription)) }
      | _ => none
  | .exportBlock n readable =>
      match s.submission n with
      | .exported outcome => some (s.exportEnded n (uuid n).boundary readable outcome)
      | _ => none
  | .receive n =>
      match s.handler n with
      | .incoming body =>
          (gameRequest q (uuid n).boundary body).map fun request ↦
            let (handle, disk) := s.disk.openTrunc
              ((StoreRequest.game request).path backendDir) (.bytes [])
            { s with disk, handler := Function.update s.handler n (.opened handle request) }
      | _ => none
  | .finish n =>
      match s.handler n with
      | .opened handle request =>
          let disk := s.disk.modify handle (File.overwrite request.data)
          let result := TaskResult.response 200 (some (encode (uploadGameAnswer request.filename)))
          some ({ s with disk }.answered n result)
      | _ => none
  | .reject n statusCode data =>
      if (s.handler n).isActive ∧ statusCode ≠ 200 then
        some (s.answered n (.response statusCode data))
      else none
  | .lose n localizedDescription =>
      match s.handler n with
      | .incoming _ => some (s.answered n (.error localizedDescription))
      | _ => none
  | .disconnect n localizedDescription =>
      match s.submission n with
      | .requested =>
          some
            { s with
              submission :=
                Function.update s.submission n (.answered (.error localizedDescription)) }
      | _ => none
  | .responseBlock n outcome =>
      match s.submission n with
      | .answered result =>
          some
            (GameSystem.receiveResponse
              { s with
                isUploading := false
                submission := Function.update s.submission n .finished } outcome result)
      | _ => none
  | .appear =>
      some
        { s with
          fetch := Function.update s.fetch s.nextFetch .requested
          nextFetch := s.nextFetch + 1 }
  | .fetchFails k localizedDescription =>
      match s.fetch k with
      | .requested =>
          let errorMessage := match localizedDescription with
            | some localizedDescription => "Error: " ++ localizedDescription
            | none => "No data received from server."
          some { s with fetch := Function.update s.fetch k (.ended (.error errorMessage)) }
      | _ => none
  | .fetchCompletes k outcome =>
      match s.fetch k with
      | .requested =>
          -- the status of the response is not looked at
          match outcome with
          | .noDirectory => some { s with fetch := Function.update s.fetch k .finished }
          | .saved =>
              some
                { s with
                  finalOutputVideo := some (httpError (getStatusCode finalOutputVideoPath))
                  fetch := Function.update s.fetch k (.ended (.ok ())) }
          | .fails localizedDescription =>
              some
                { s with
                  fetch := Function.update s.fetch k
                    (.ended (.error ("Error saving video: " ++ localizedDescription))) }
      | _ => none
  | .fetchBlock k =>
      match s.fetch k with
      | .ended (.ok ()) =>
          some
            { s with
              watch :=
                { s.watch with processedVideoURL := some finalOutputVideoName, isLoading := false }
              fetch := Function.update s.fetch k .finished }
      | .ended (.error errorMessage) =>
          some
            { s with
              watch := { s.watch with errorMessage, isLoading := false }
              fetch := Function.update s.fetch k .finished }
      | _ => none

variable {q uuid backendDir exportData encode httpError}

/-- What an action in the view does. -/
theorem stepGame_edit {s s' : GameSystem Image} {a : TrimAction}
    (hstep : stepGame q uuid backendDir exportData encode httpError s (.edit a) = some s') :
    ∃ view, stepTrim s.view a = some view ∧ (∀ supported, a ≠ .submit supported) ∧
      s' = { s with view } := by
  cases a with
  | submit supported => cases hstep
  | _ =>
      obtain ⟨view, hview, rfl⟩ := Option.map_eq_some_iff.mp hstep
      exact ⟨view, hview, by simp, rfl⟩

/-! ## The processed video -/

/-- What the server may have answered. -/
def IsMessage (encode : List (String × String) → Octets) (httpError : ℕ → Octets)
    (data : Octets) : Prop :=
  data = httpError 404 ∨ ∃ filename, data = encode (uploadGameAnswer filename)

/-- Whatever is, or is shown as, the processed video is a message of the server. -/
structure Known (encode : List (String × String) → Octets) (httpError : ℕ → Octets)
    (s : GameSystem Image) : Prop where
  answered : ∀ n data, s.submission n = .answered (.response 200 (some data)) →
    ∃ filename, data = encode (uploadGameAnswer filename)
  file : ∀ data ∈ s.finalOutputVideo, IsMessage encode httpError data
  navigates : s.navigateToWatchView = true → s.finalOutputVideo.isSome
  fetched : ∀ k, s.fetch k = .ended (.ok ()) → s.finalOutputVideo.isSome
  watched : s.watch.processedVideoURL.isSome → s.finalOutputVideo.isSome

section Known

variable {s s' : GameSystem Image} (h : Known encode httpError s)

include h

/-- A submission that goes on without an answer. -/
theorem Known.goesOn (n : ℕ) (next : Submission)
    (hnext : ∀ data, next ≠ .answered (.response 200 (some data))) :
    ∀ i data, Function.update s.submission n next i = .answered (.response 200 (some data)) →
      ∃ filename, data = encode (uploadGameAnswer filename) :=
  fun i data hi ↦ h.answered i data (eq_of_update_phase hi (hnext data)).2

/-- A request of `WatchView` that goes on without a file. -/
theorem Known.fetchGoesOn (k : ℕ) (next : Fetch) (hnext : next ≠ .ended (.ok ())) :
    ∀ i, Function.update s.fetch k next i = .ended (.ok ()) → s.finalOutputVideo.isSome :=
  fun i hi ↦ h.fetched i (eq_of_update_phase hi hnext).2

theorem Known.responseBlock {n : ℕ} {result : TaskResult} (outcome : SaveOutcome)
    (hanswered : s.submission n = .answered result) :
    Known encode httpError
      (GameSystem.receiveResponse
        { s with
          isUploading := false
          submission := Function.update s.submission n .finished } outcome result) := by
  have hover := h.goesOn n .finished (fun _ ↦ by simp)
  have hidle : Known encode httpError
      { s with isUploading := false, submission := Function.update s.submission n .finished } :=
    ⟨hover, h.file, h.navigates, h.fetched, h.watched⟩
  unfold GameSystem.receiveResponse
  split
  · exact ⟨hover, h.file, h.navigates, h.fetched, h.watched⟩
  · next data =>
      cases outcome with
      | noDirectory => exact hidle
      | fails description => exact ⟨hover, h.file, h.navigates, h.fetched, h.watched⟩
      | saved =>
          refine ⟨hover, fun data' hdata ↦ ?_, fun _ ↦ rfl, fun _ _ ↦ rfl, fun _ ↦ rfl⟩
          obtain rfl : data = data' := Option.some.inj hdata
          exact .inr (h.answered n data hanswered)
  · exact ⟨hover, h.file, h.navigates, h.fetched, h.watched⟩

/-- A request ends. -/
theorem Known.answers (n : ℕ) {result : TaskResult}
    (hresult : ∀ data, result = .response 200 (some data) →
      ∃ filename, data = encode (uploadGameAnswer filename)) :
    Known encode httpError (s.answered n result) := by
  refine ⟨fun i data hi ↦ ?_, h.file, h.navigates, h.fetched, h.watched⟩
  rcases update_phase_cases hi with ⟨-, hdata⟩ | ⟨-, hi⟩
  · rcases Submission.receive_cases result (s.submission n) with ⟨-, hreceive⟩ | hreceive
    · exact hresult data (Submission.answered.inj (hreceive.symm.trans hdata))
    · exact h.answered n data (hreceive.symm.trans hdata)
  · exact h.answered i data hi

theorem Known.exportEnded {n : ℕ} (boundary : String) (readable : Bool)
    (outcome : Except (Option String) Unit) :
    Known encode httpError (s.exportEnded n boundary readable outcome) := by
  cases outcome with
  | ok _ =>
      exact ⟨h.goesOn n _ (fun _ ↦ by simp), h.file, h.navigates, h.fetched, h.watched⟩
  | error description =>
      exact ⟨h.goesOn n _ (fun _ ↦ by simp), h.file, h.navigates, h.fetched, h.watched⟩

/-- What one action preserves. -/
theorem Known.step {a : GameAction}
    (hstep : stepGame q uuid backendDir exportData encode httpError s a = some s') :
    Known encode httpError s' := by
  cases a with
  | edit a =>
      obtain ⟨view, -, -, rfl⟩ := stepGame_edit hstep
      exact ⟨h.answered, h.file, h.navigates, h.fetched, h.watched⟩
  | submit supported =>
      obtain ⟨view, -, rfl⟩ := Option.map_eq_some_iff.mp hstep
      split
      · exact ⟨h.goesOn _ _ (fun _ ↦ by simp), h.file, h.navigates, h.fetched, h.watched⟩
      · exact ⟨h.answered, h.file, h.navigates, h.fetched, h.watched⟩
  | exportCompletes n =>
      simp only [stepGame] at hstep
      split at hstep
      · cases hstep
        exact ⟨h.goesOn n _ (fun _ ↦ by simp), h.file, h.navigates, h.fetched, h.watched⟩
      · cases hstep
  | exportFails n description left =>
      simp only [stepGame] at hstep
      split at hstep
      · cases hstep
        exact ⟨h.goesOn n _ (fun _ ↦ by simp), h.file, h.navigates, h.fetched, h.watched⟩
      · cases hstep
  | exportBlock n readable =>
      simp only [stepGame] at hstep
      split at hstep
      · next outcome _ =>
          cases hstep
          exact h.exportEnded (uuid n).boundary readable outcome
      · cases hstep
  | receive n =>
      simp only [stepGame] at hstep
      split at hstep
      · obtain ⟨request, -, rfl⟩ := Option.map_eq_some_iff.mp hstep
        exact ⟨h.answered, h.file, h.navigates, h.fetched, h.watched⟩
      · cases hstep
  | finish n =>
      simp only [stepGame] at hstep
      split at hstep
      · next handle request _ =>
          cases hstep
          have hdisk : Known encode httpError
              { s with disk := s.disk.modify handle (File.overwrite request.data) } :=
            ⟨h.answered, h.file, h.navigates, h.fetched, h.watched⟩
          exact hdisk.answers n (fun data hdata ↦ ⟨request.filename, by cases hdata; rfl⟩)
      · cases hstep
  | reject n statusCode data =>
      obtain ⟨⟨-, hcode⟩, hs⟩ := Option.ite_none_right_eq_some.mp hstep
      cases hs
      exact h.answers n (fun _ hdata ↦ absurd (TaskResult.response.inj hdata).1 hcode)
  | lose n description =>
      simp only [stepGame] at hstep
      split at hstep
      · cases hstep
        exact h.answers n (fun _ hdata ↦ nomatch hdata)
      · cases hstep
  | disconnect n description =>
      simp only [stepGame] at hstep
      split at hstep
      · cases hstep
        exact ⟨h.goesOn n _ (fun _ ↦ by simp), h.file, h.navigates, h.fetched, h.watched⟩
      · cases hstep
  | responseBlock n outcome =>
      simp only [stepGame] at hstep
      split at hstep
      · next result hanswered =>
          cases hstep
          exact h.responseBlock outcome hanswered
      · cases hstep
  | appear =>
      cases hstep
      exact ⟨h.answered, h.file, h.navigates, h.fetchGoesOn _ _ (by simp), h.watched⟩
  | fetchFails k description =>
      simp only [stepGame] at hstep
      split at hstep
      · cases hstep
        exact ⟨h.answered, h.file, h.navigates, h.fetchGoesOn _ _ (by simp), h.watched⟩
      · cases hstep
  | fetchCompletes k outcome =>
      simp only [stepGame] at hstep
      split at hstep
      · cases outcome with
        | noDirectory =>
            cases hstep
            exact ⟨h.answered, h.file, h.navigates, h.fetchGoesOn _ _ (by simp), h.watched⟩
        | saved =>
            cases hstep
            refine ⟨h.answered, fun data hdata ↦ ?_, fun _ ↦ rfl, fun _ _ ↦ rfl, fun _ ↦ rfl⟩
            exact .inl (by rw [← Option.some.inj hdata, getStatusCode_finalOutputVideoPath])
        | fails description =>
            cases hstep
            exact ⟨h.answered, h.file, h.navigates, h.fetchGoesOn _ _ (by simp), h.watched⟩
      · cases hstep
  | fetchBlock k =>
      simp only [stepGame] at hstep
      split at hstep
      · next hended =>
          cases hstep
          exact ⟨h.answered, h.file, h.navigates, h.fetchGoesOn _ _ (by simp),
            fun _ ↦ h.fetched k hended⟩
      · cases hstep
        exact ⟨h.answered, h.file, h.navigates, h.fetchGoesOn _ _ (by simp), h.watched⟩
      · cases hstep

end Known

/-- **There is no processed video.**  In every run, what is saved as the processed video is
one of the messages of the server, whatever was uploaded, and something is saved whenever the
app goes on to `WatchView` after an upload, or `WatchView` shows a video. -/
theorem processed_video_is_no_video {disk : ServerDisk Image} {actions : List GameAction}
    {s : GameSystem Image}
    (hexec : exec (stepGame q uuid backendDir exportData encode httpError) (.start disk) actions =
      some s) :
    (∀ data ∈ s.finalOutputVideo, IsMessage encode httpError data) ∧
      (s.navigateToWatchView = true ∨ s.watch.processedVideoURL.isSome →
        s.finalOutputVideo.isSome) := by
  have hinit : Known encode httpError (.start disk : GameSystem Image) :=
    ⟨fun _ _ h ↦ (nomatch h), fun _ h ↦ (nomatch h), fun h ↦ (nomatch h),
      fun _ h ↦ (nomatch h), fun h ↦ (nomatch h)⟩
  have hknown := exec_state_invariant hinit (fun _ _ _ h _ hstep ↦ h.step hstep)
    (.of_forall (fun _ _ ↦ trivial) _ actions) hexec
  exact ⟨hknown.file, fun hshown ↦ hshown.elim hknown.navigates hknown.watched⟩

/-- A video, as it is exported. -/
def sampleVideo (_ : ExportSession) : Octets := [0, 1, 13, 10, 45, 45]

/-- Texts without characters that would have to be escaped, as an object. -/
def sampleEncode (members : List (String × String)) : Octets :=
  octets "\x7b" ++ (octets ",").intercalate (members.map fun (key, value) ↦
    octets ("\"" ++ key ++ "\":\"" ++ value ++ "\"")) ++ octets "\x7d"

/-- An error. -/
def sampleError (statusCode : ℕ) : Octets :=
  if statusCode = 404 then octets "\x7b\"detail\":\"Not Found\"\x7d"
  else octets "\x7b\"detail\":\"Method Not Allowed\"\x7d"

/-- A video is chosen, submitted, sent and stored, and then asked for. -/
def sampleGameUpload : List GameAction :=
  [.edit (.selectVideo "game.mov" 90), .edit .onChangeTrimEnd, .submit true, .exportCompletes 0,
    .exportBlock 0 true, .receive 0, .finish 0, .responseBlock 0 .saved, .appear,
    .fetchCompletes 0 .saved, .fetchBlock 0]

theorem processed_video_is_no_video_sample :
    ∃ s, exec (stepGame .lenient (fun _ ↦ .sample) [] sampleVideo sampleEncode sampleError)
        (.start (Disk.empty (.bytes []) : ServerDisk Unit)) sampleGameUpload = some s ∧
      (∀ data ∈ s.finalOutputVideo, IsMessage sampleEncode sampleError data) ∧
      (s.navigateToWatchView = true ∨ s.watch.processedVideoURL.isSome →
        s.finalOutputVideo.isSome) := by
  have hrun : (exec (stepGame .lenient (fun _ ↦ .sample) [] sampleVideo sampleEncode sampleError)
      (.start (Disk.empty (.bytes []) : ServerDisk Unit)) sampleGameUpload).isSome := by
    decide +kernel
  obtain ⟨s, hs⟩ := Option.isSome_iff_exists.mp hrun
  exact ⟨s, hs, processed_video_is_no_video hs⟩

/-! ## The progress -/

/-- Some submission has not come to its end. -/
def GameSystem.Busy (s : GameSystem Image) : Prop := ∃ n, (s.submission n).Pending

/-- The user waits for the submissions before. -/
def Alone (s : GameSystem Image) : GameAction → Prop
  | .submit _ => ¬ s.Busy
  | _ => True

/-- What is known of the progress.  `alone` says whether submissions have overlapped. -/
structure Progressing (alone : Prop) (s : GameSystem Image) : Prop where
  shown : s.isUploading = true → s.Busy
  busy : alone → s.Busy → s.isUploading = true
  one : alone → ∀ n m, (s.submission n).Pending → (s.submission m).Pending → n = m

/-- There is none at the start. -/
theorem Progressing.start (alone : Prop) (disk : ServerDisk Image) :
    Progressing alone (.start disk) :=
  ⟨fun h ↦ (nomatch h), fun _ ⟨_, h⟩ ↦ h.elim, fun _ _ _ h ↦ h.elim⟩

section Progressing

variable {alone : Prop} {s s' : GameSystem Image} (h : Progressing alone s)

include h

/-- A submission goes on. -/
theorem Progressing.goesOn {n : ℕ} {next : Submission}
    (hsubmission : s'.submission = Function.update s.submission n next)
    (hprogress : s'.isUploading = s.isUploading) (hpending : (s.submission n).Pending)
    (hnext : next.Pending) : Progressing alone s' := by
  have hiff (i : ℕ) : (s'.submission i).Pending ↔ (s.submission i).Pending := by
    rw [hsubmission]
    by_cases hi : i = n
    · rw [hi, Function.update_self]
      exact iff_of_true hnext hpending
    · rw [Function.update_of_ne hi]
  have hbusy : s'.Busy ↔ s.Busy := exists_congr hiff
  refine ⟨?_, fun halone ↦ ?_, fun halone i j hi hj ↦ ?_⟩
  · rw [hprogress, hbusy]
    exact h.shown
  · rw [hprogress, hbusy]
    exact h.busy halone
  · exact h.one halone i j ((hiff i).mp hi) ((hiff j).mp hj)

/-- A submission comes to its end. -/
theorem Progressing.ends {n : ℕ} (hpending : (s.submission n).Pending)
    (hsubmission : s'.submission = Function.update s.submission n .finished)
    (hprogress : s'.isUploading = false) : Progressing alone s' := by
  have hother {i : ℕ} (hi : (s'.submission i).Pending) : i ≠ n ∧ (s.submission i).Pending := by
    rw [hsubmission] at hi
    by_cases hin : i = n
    · rw [hin, Function.update_self] at hi
      exact hi.elim
    · rw [Function.update_of_ne hin] at hi
      exact ⟨hin, hi⟩
  refine ⟨fun hshown ↦ ?_, fun halone ⟨i, hi⟩ ↦ ?_, fun halone i j hi hj ↦ ?_⟩
  · cases hprogress.symm.trans hshown
  · obtain ⟨hne, hi⟩ := hother hi
    exact absurd (h.one halone i n hi hpending) hne
  · exact h.one halone i j (hother hi).2 (hother hj).2

/-- Neither is concerned. -/
theorem Progressing.same (hsubmission : s'.submission = s.submission)
    (hprogress : s'.isUploading = s.isUploading) : Progressing alone s' := by
  have hbusy : s'.Busy ↔ s.Busy := by rw [GameSystem.Busy, hsubmission, GameSystem.Busy]
  refine ⟨?_, ?_, ?_⟩
  · rw [hprogress, hbusy]
    exact h.shown
  · rw [hprogress, hbusy]
    exact h.busy
  · rw [hsubmission]
    exact h.one

/-- A request ends. -/
theorem Progressing.answers (n : ℕ) (result : TaskResult) :
    Progressing alone (s.answered n result) := by
  rcases Submission.receive_cases result (s.submission n) with ⟨hphase, hreceive⟩ | hreceive
  · exact h.goesOn (congrArg (Function.update s.submission n) hreceive) rfl
      (by rw [hphase]; trivial) trivial
  · exact h.same ((congrArg (Function.update s.submission n) hreceive).trans
      (Function.update_eq_self n s.submission)) rfl

/-- What one action preserves. -/
theorem Progressing.step {a : GameAction} (hallowed : alone → Alone s a)
    (hstep : stepGame q uuid backendDir exportData encode httpError s a = some s') :
    Progressing alone s' := by
  cases a with
  | edit a =>
      obtain ⟨view, -, -, rfl⟩ := stepGame_edit hstep
      exact h.same rfl rfl
  | submit supported =>
      obtain ⟨view, -, rfl⟩ := Option.map_eq_some_iff.mp hstep
      split
      · next session _ =>
          have hnext : (Function.update s.submission s.nextSubmission (.exporting session)
              s.nextSubmission).Pending := by
            rw [Function.update_self]
            trivial
          have honly (halone : alone) {i : ℕ} (hi : (Function.update s.submission
              s.nextSubmission (.exporting session) i).Pending) : i = s.nextSubmission := by
            by_contra hne
            rw [Function.update_of_ne hne] at hi
            exact hallowed halone ⟨i, hi⟩
          exact ⟨fun _ ↦ ⟨_, hnext⟩, fun _ _ ↦ rfl,
            fun halone i j hi hj ↦ (honly halone hi).trans (honly halone hj).symm⟩
      · exact ⟨fun hshown ↦ (nomatch hshown), fun halone hbusy ↦ (hallowed halone hbusy).elim,
          h.one⟩
  | exportCompletes n =>
      simp only [stepGame] at hstep
      split at hstep
      · next hphase =>
          cases hstep
          exact h.goesOn rfl rfl (by rw [hphase]; trivial) trivial
      · cases hstep
  | exportFails n description left =>
      simp only [stepGame] at hstep
      split at hstep
      · next hphase =>
          cases hstep
          exact h.goesOn rfl rfl (by rw [hphase]; trivial) trivial
      · cases hstep
  | exportBlock n readable =>
      simp only [stepGame] at hstep
      split at hstep
      · next outcome hphase =>
          cases hstep
          have hpending : (s.submission n).Pending := by rw [hphase]; trivial
          cases outcome with
          | ok _ => exact h.goesOn rfl rfl hpending trivial
          | error description => exact h.ends hpending rfl rfl
      · cases hstep
  | receive n =>
      simp only [stepGame] at hstep
      split at hstep
      · obtain ⟨request, -, rfl⟩ := Option.map_eq_some_iff.mp hstep
        exact h.same rfl rfl
      · cases hstep
  | finish n =>
      simp only [stepGame] at hstep
      split at hstep
      · next handle request _ =>
          cases hstep
          have hdisk : Progressing alone
              { s with disk := s.disk.modify handle (File.overwrite request.data) } :=
            h.same rfl rfl
          exact hdisk.answers n _
      · cases hstep
  | reject n statusCode data =>
      obtain ⟨-, hs⟩ := Option.ite_none_right_eq_some.mp hstep
      cases hs
      exact h.answers n _
  | lose n description =>
      simp only [stepGame] at hstep
      split at hstep
      · cases hstep
        exact h.answers n _
      · cases hstep
  | disconnect n description =>
      simp only [stepGame] at hstep
      split at hstep
      · next hphase =>
          cases hstep
          exact h.goesOn rfl rfl (by rw [hphase]; trivial) trivial
      · cases hstep
  | responseBlock n outcome =>
      simp only [stepGame] at hstep
      split at hstep
      · next result hphase =>
          cases hstep
          obtain ⟨hsubmission, -, hprogress⟩ := GameSystem.receiveResponse_cases outcome result
          exact h.ends (by rw [hphase]; trivial) hsubmission hprogress
      · cases hstep
  | appear =>
      cases hstep
      exact h.same rfl rfl
  | fetchFails k description =>
      simp only [stepGame] at hstep
      split at hstep
      · cases hstep
        exact h.same rfl rfl
      · cases hstep
  | fetchCompletes k outcome =>
      simp only [stepGame] at hstep
      split at hstep
      · cases outcome <;> cases hstep <;> exact h.same rfl rfl
      · cases hstep
  | fetchBlock k =>
      simp only [stepGame] at hstep
      split at hstep
      · cases hstep
        exact h.same rfl rfl
      · cases hstep
        exact h.same rfl rfl
      · cases hstep

end Progressing

/-- **The progress.**  In every run, while progress is shown some submission has not come to
its end; and if every submission was made after the ones before had come to theirs, progress
is shown exactly so long. -/
theorem upload_progress {disk : ServerDisk Image} {actions : List GameAction}
    {s : GameSystem Image}
    (hexec : exec (stepGame q uuid backendDir exportData encode httpError) (.start disk) actions =
      some s) :
    (s.isUploading = true → s.Busy) ∧
      (AllSteps (stepGame q uuid backendDir exportData encode httpError) Alone (.start disk)
        actions → (s.isUploading = true ↔ s.Busy)) := by
  refine ⟨?_, fun hall ↦ ?_⟩
  · exact (exec_state_invariant (Progressing.start False disk)
      (fun _ _ _ h _ hstep ↦ h.step (fun hfalse ↦ hfalse.elim) hstep)
      (.of_forall (fun _ _ ↦ trivial) _ actions) hexec).shown
  · have halone := exec_state_invariant (Progressing.start True disk)
      (fun _ _ _ h ha hstep ↦ h.step (fun _ ↦ ha) hstep) hall hexec
    exact ⟨halone.shown, halone.busy trivial⟩

theorem upload_progress_sample :
    ∃ s, exec (stepGame .lenient (fun _ ↦ .sample) [] sampleVideo sampleEncode sampleError)
        (.start (Disk.empty (.bytes []) : ServerDisk Unit)) (sampleGameUpload.take 6) = some s ∧
      (s.isUploading = true → s.Busy) ∧
      (AllSteps (stepGame .lenient (fun _ ↦ .sample) [] sampleVideo sampleEncode sampleError) Alone
        (.start (Disk.empty (.bytes []) : ServerDisk Unit)) (sampleGameUpload.take 6) →
          (s.isUploading = true ↔ s.Busy)) := by
  have hrun : (exec (stepGame .lenient (fun _ ↦ .sample) [] sampleVideo sampleEncode sampleError)
      (.start (Disk.empty (.bytes []) : ServerDisk Unit)) (sampleGameUpload.take 6)).isSome := by
    decide +kernel
  obtain ⟨s, hs⟩ := Option.isSome_iff_exists.mp hrun
  exact ⟨s, hs, upload_progress hs⟩

end Courtside
