import Courtside.Games.Watch

/-!
# What a successful upload has uploaded

The phone says that a video has been uploaded when an answer with status 200 has been saved.
The answer does not say what has been stored.  On the way to the server the video went
through a file that all submissions share, through a body that a boundary cuts into parts,
and through an open file that the next game empties.

If the user submits only after the submissions before have come to their end, no video
contains the boundary of its body and the phone waits for the answers, then the video that
the message is about is the one that was exported last, and the server has exactly that
(`game_arrives`).
-/

universe u

namespace Courtside

variable {Image : Type u} {q : QuotedText} {uuid : ℕ → UUID} {backendDir : Path}
  {exportData : ExportSession → Octets} {encode : List (String × String) → Octets}
  {httpError : ℕ → Octets}

/-! ## Stages -/

variable (backendDir) in
/-- Where the server keeps the games of the phone. -/
def gamePath : Path := (Upload.game "game_video.mov").path backendDir backendDir

variable (uuid exportData) in
/-- No video contains the boundary of its body, and the phone waits for the answers. -/
def Delivered (s : GameSystem Image) : GameAction → Prop
  | .exportCompletes n => ∀ session, s.submission n = .exporting session →
      ¬ octets (uuid n).boundary <:+: exportData session
  | .disconnect _ _ => False
  | _ => True

variable (uuid exportData) in
/-- The user and the phone wait. -/
def Patient (s : GameSystem Image) (a : GameAction) : Prop :=
  Alone s a ∧ Delivered uuid exportData s a

variable (backendDir exportData) in
/-- The server has the video that was exported last. -/
def Arrived (s : GameSystem Image) : Prop :=
  ∃ session, s.view.exportSession = some session ∧
    s.disk.read (gamePath backendDir) = some (.bytes (exportData session))

variable (uuid backendDir exportData) in
/-- What is known of a submission on its way. -/
def Stage (s : GameSystem Image) (n : ℕ) : Submission → GameHandler → Prop
  | .waiting, handler | .finished, handler | .exported (.error _), handler =>
      handler.isActive = false
  | .exporting session, handler =>
      handler.isActive = false ∧ s.view.exportSession = some session
  | .exported (.ok _), handler =>
      handler.isActive = false ∧ ∃ session, s.view.exportSession = some session ∧
        s.trimmedVideo = some (exportData session) ∧
        ¬ octets (uuid n).boundary <:+: exportData session
  | .requested, .incoming body =>
      ∃ session videoData, s.view.exportSession = some session ∧
        (∀ data ∈ videoData, data = exportData session ∧
          ¬ octets (uuid n).boundary <:+: data) ∧
        body = gameVideoBody (uuid n).boundary videoData
  | .requested, .opened handle request =>
      ∃ session, s.view.exportSession = some session ∧
        request = { filename := "game_video.mov", data := exportData session } ∧
        s.disk.file? (gamePath backendDir) = some (handle, .bytes [])
  | .requested, .idle | .requested, .finished => True
  | .answered result, handler =>
      handler.isActive = false ∧
        ∀ data, result = .response 200 (some data) → Arrived backendDir exportData s

section Stage

variable {s s' : GameSystem Image} {n : ℕ} {submission : Submission} {handler : GameHandler}

/-- The server has to do with a submission only once it is requested. -/
theorem Stage.requested (h : Stage uuid backendDir exportData s n submission handler)
    (hactive : handler.isActive = true) : submission = .requested := by
  have hne : ∀ {p : Prop}, handler.isActive = false → p :=
    fun hfalse ↦ Bool.noConfusion (hfalse.symm.trans hactive)
  cases submission with
  | requested => rfl
  | waiting => exact hne h
  | finished => exact hne h
  | exporting session => exact hne h.1
  | answered result => exact hne h.1
  | exported outcome =>
      cases outcome with
      | ok _ => exact hne h.1
      | error description => exact hne h

theorem Stage.inactive (h : Stage uuid backendDir exportData s n submission handler)
    (hidle : ¬ submission.Pending) : handler.isActive = false := by
  cases submission with
  | waiting => exact h
  | finished => exact h
  | _ => exact absurd trivial hidle

/-- Where there is no submission, nothing is asked of the state. -/
theorem Stage.of_not_pending (h : Stage uuid backendDir exportData s n submission handler)
    (hidle : ¬ submission.Pending) : Stage uuid backendDir exportData s' n submission handler := by
  cases submission with
  | waiting => exact h
  | finished => exact h
  | _ => exact absurd trivial hidle

/-- What a stage depends on. -/
theorem Stage.congr (h : Stage uuid backendDir exportData s n submission handler)
    (hexport : s'.view.exportSession = s.view.exportSession)
    (htrimmed : s'.trimmedVideo = s.trimmedVideo) (hdisk : s'.disk = s.disk) :
    Stage uuid backendDir exportData s' n submission handler := by
  unfold Stage Arrived at h ⊢
  rw [hexport, htrimmed, hdisk]
  exact h

end Stage

variable (uuid backendDir exportData) in
/-- What is known of all submissions, and of what is said of them. -/
structure Arriving (s : GameSystem Image) : Prop where
  stage : ∀ n, Stage uuid backendDir exportData s n (s.submission n) (s.handler n)
  quiet : s.Busy → s.uploadMessage = ""
  message : s.uploadMessage = "Video uploaded successfully!" → Arrived backendDir exportData s

/-! ## Steps -/

theorem append_ne_of_not_starts {a b c : String} (h : ¬ a.toList <+: c.toList) : a ++ b ≠ c :=
  fun heq ↦ h ⟨b.toList, by rw [← String.toList_append, heq]⟩

/-- Only a submission changes what is exported. -/
theorem exportSession_of_stepTrim {view view' : UploadGameView} {a : TrimAction}
    (ha : ∀ supported, a ≠ .submit supported) (hstep : stepTrim view a = some view') :
    view'.exportSession = view.exportSession := by
  rcases stepTrim_cases hstep with ⟨url, duration, -, -, -, rfl⟩ | ⟨value, -, -, -, rfl⟩ |
    ⟨value, -, -, -, rfl⟩ | ⟨-, -, rfl⟩ | ⟨-, -, rfl⟩ | ⟨supported, rfl, -⟩
  · rfl
  · rfl
  · rfl
  · by_cases hlt : view.trimEnd < view.trimStart
    · rw [UploadGameView.onChangeTrimStart_of_lt hlt]
      rfl
    · rw [UploadGameView.onChangeTrimStart_of_not_lt hlt]
  · by_cases hlt : view.trimEnd < view.trimStart
    · rw [UploadGameView.onChangeTrimEnd_of_lt hlt]
      rfl
    · rw [UploadGameView.onChangeTrimEnd_of_not_lt hlt]
  · exact absurd rfl (ha supported)

section Arriving

variable {s s' : GameSystem Image} (h : Arriving uuid backendDir exportData s)

include h

theorem Arriving.same (hsubmission : s'.submission = s.submission)
    (hhandler : s'.handler = s.handler)
    (hexport : s'.view.exportSession = s.view.exportSession)
    (htrimmed : s'.trimmedVideo = s.trimmedVideo) (hdisk : s'.disk = s.disk)
    (hmessage : s'.uploadMessage = s.uploadMessage) :
    Arriving uuid backendDir exportData s' := by
  refine ⟨fun n ↦ ?_, fun ⟨n, hn⟩ ↦ ?_, fun hsuccess ↦ ?_⟩
  · rw [hsubmission, hhandler]
    exact (h.stage n).congr hexport htrimmed hdisk
  · rw [hsubmission] at hn
    rw [hmessage]
    exact h.quiet ⟨n, hn⟩
  · rw [hmessage] at hsuccess
    obtain ⟨session, hsession, hread⟩ := h.message hsuccess
    exact ⟨session, hexport.trans hsession, hdisk ▸ hread⟩

/-- The only submission goes on, or ends. -/
theorem Arriving.advance {n : ℕ} {next : Submission} {handler : GameHandler}
    (hothers : ∀ m, m ≠ n → ¬ (s.submission m).Pending)
    (hsubmission : s'.submission = Function.update s.submission n next)
    (hhandler : s'.handler = Function.update s.handler n handler)
    (hstage : Stage uuid backendDir exportData s' n next handler)
    (hquiet : next.Pending → s'.uploadMessage = "")
    (hmessage : s'.uploadMessage = "Video uploaded successfully!" →
      Arrived backendDir exportData s') : Arriving uuid backendDir exportData s' := by
  refine ⟨fun m ↦ ?_, fun ⟨m, hm⟩ ↦ ?_, hmessage⟩
  · by_cases hne : m = n
    · rw [hne, hsubmission, hhandler, Function.update_self, Function.update_self]
      exact hstage
    · rw [hsubmission, hhandler, Function.update_of_ne hne, Function.update_of_ne hne]
      exact (h.stage m).of_not_pending (hothers m hne)
  · rw [hsubmission] at hm
    by_cases hne : m = n
    · rw [hne, Function.update_self] at hm
      exact hquiet hm
    · rw [Function.update_of_ne hne] at hm
      exact absurd hm (hothers m hne)

/-- It goes on, and nothing is said. -/
theorem Arriving.goesOn {n : ℕ} {next : Submission} {handler : GameHandler}
    (hone : ∀ n m, (s.submission n).Pending → (s.submission m).Pending → n = m)
    (hpending : (s.submission n).Pending)
    (hsubmission : s'.submission = Function.update s.submission n next)
    (hhandler : s'.handler = Function.update s.handler n handler)
    (hsame : s'.uploadMessage = s.uploadMessage)
    (hstage : Stage uuid backendDir exportData s' n next handler) :
    Arriving uuid backendDir exportData s' := by
  have hquiet : s'.uploadMessage = "" := hsame.trans (h.quiet ⟨n, hpending⟩)
  refine h.advance (fun m hne hm ↦ hne (hone m n hm hpending)) hsubmission hhandler hstage
    (fun _ ↦ hquiet) (fun hsuccess ↦ ?_)
  exact absurd (hquiet.symm.trans hsuccess) (by decide)

variable (hone : ∀ n m, (s.submission n).Pending → (s.submission m).Pending → n = m)

include hone

/-- A request ends, on whatever disk. -/
theorem Arriving.answers {n : ℕ} {result : TaskResult} (disk : ServerDisk Image)
    (hactive : (s.handler n).isActive = true)
    (hresult : ∀ data, result = .response 200 (some data) →
      Arrived backendDir exportData ({ s with disk }.answered n result)) :
    Arriving uuid backendDir exportData ({ s with disk }.answered n result) := by
  have hphase := (h.stage n).requested hactive
  have hsubmission : ({ s with disk }.answered n result).submission =
      Function.update s.submission n (.answered result) := by
    rw [GameSystem.answered, hphase, Submission.receive]
  exact h.goesOn hone (by rw [hphase]; trivial) hsubmission rfl rfl ⟨rfl, hresult⟩

/-- The server opens the file of the game. -/
theorem Arriving.receive {n : ℕ} {body : Octets} {request : GameRequest}
    (hbody : s.handler n = .incoming body)
    (hrequest : gameRequest q (uuid n).boundary body = some request) :
    Arriving uuid backendDir exportData
      { s with
        disk := (s.disk.openTrunc ((StoreRequest.game request).path backendDir) (.bytes [])).2
        handler := Function.update s.handler n
          (.opened (s.disk.openTrunc ((StoreRequest.game request).path backendDir) (.bytes [])).1
            request) } := by
  have hphase : s.submission n = .requested := (h.stage n).requested (by rw [hbody]; rfl)
  have hstage := h.stage n
  rw [hphase, hbody] at hstage
  obtain ⟨session, videoData, hsession, hvideo, rfl⟩ := hstage
  rw [gameRequest_gameVideoBody q (uuid n) (fun data hdata ↦ (hvideo data hdata).2)] at hrequest
  obtain ⟨data, hdata, rfl⟩ := Option.map_eq_some_iff.mp hrequest
  obtain ⟨rfl, -⟩ := hvideo data hdata
  have hsubmission : s.submission = Function.update s.submission n .requested := by
    rw [← hphase, Function.update_eq_self]
  refine h.goesOn hone (by rw [hphase]; trivial) hsubmission rfl rfl
    ⟨session, hsession, rfl, ?_⟩
  exact (Disk.file?_openTrunc _ _ _ _).trans (if_pos rfl)

/-- The server has written the file of the game. -/
theorem Arriving.finish {n handle : ℕ} {request : GameRequest}
    (hopened : s.handler n = .opened handle request) (data : Octets) :
    Arriving uuid backendDir exportData
      ({ s with disk := s.disk.modify handle (File.overwrite request.data) }.answered n
        (.response 200 (some data))) := by
  have hphase : s.submission n = .requested := (h.stage n).requested (by rw [hopened]; rfl)
  have hstage := h.stage n
  rw [hphase, hopened] at hstage
  obtain ⟨session, hsession, rfl, hfile⟩ := hstage
  refine h.answers hone _ (by rw [hopened]; rfl) (fun _ _ ↦ ⟨session, hsession, ?_⟩)
  have hwritten := Disk.file?_modify_self (File.overwrite (exportData session)) hfile
  rw [overwrite_empty] at hwritten
  exact congrArg (Option.map Prod.snd) hwritten

/-- The phone makes something of the end of a request. -/
theorem Arriving.responseBlock {n : ℕ} {result : TaskResult} (outcome : SaveOutcome)
    (hanswered : s.submission n = .answered result) :
    Arriving uuid backendDir exportData
      (GameSystem.receiveResponse
        { s with
          isUploading := false
          submission := Function.update s.submission n .finished } outcome result) := by
  have hpending : (s.submission n).Pending := by rw [hanswered]; trivial
  have hquiet : s.uploadMessage = "" := h.quiet ⟨n, hpending⟩
  have hstage := h.stage n
  rw [hanswered] at hstage
  let ended : GameSystem Image :=
    { s with isUploading := false, submission := Function.update s.submission n .finished }
  obtain ⟨hsubmission, hhandler, -⟩ :=
    GameSystem.receiveResponse_cases (s := ended) outcome result
  refine h.advance (fun m hne hm ↦ hne (hone m n hm hpending)) hsubmission
    (hhandler.trans (Function.update_eq_self n s.handler).symm) hstage.1
    (fun hover ↦ hover.elim) (fun hsuccess ↦ ?_)
  -- of all that can be said, only one thing is that the upload succeeded
  unfold GameSystem.receiveResponse at hsuccess ⊢
  split at hsuccess
  · exact absurd hsuccess (append_ne_of_not_starts (by decide))
  · next data =>
      cases outcome with
      | noDirectory => exact absurd (hquiet.symm.trans hsuccess) (by decide)
      | saved => exact hstage.2 data rfl
      | fails description => exact absurd hsuccess (append_ne_of_not_starts (by decide))
  · exact absurd hsuccess (append_ne_of_not_starts (by decide))

theorem Arriving.exportBlock {n : ℕ} {outcome : Except (Option String) Unit}
    (hexported : s.submission n = .exported outcome) (readable : Bool) :
    Arriving uuid backendDir exportData (s.exportEnded n (uuid n).boundary readable outcome) := by
  have hpending : (s.submission n).Pending := by rw [hexported]; trivial
  have hstage := h.stage n
  rw [hexported] at hstage
  cases outcome with
  | ok _ =>
      obtain ⟨-, session, hsession, htrimmed, hclean⟩ := hstage
      refine h.goesOn hone hpending rfl rfl rfl ⟨session, _, hsession, ?_, rfl⟩
      intro data hdata
      cases readable with
      | false => cases hdata
      | true =>
          obtain rfl : exportData session = data := Option.some.inj (htrimmed.symm.trans hdata)
          exact ⟨rfl, hclean⟩
  | error description =>
      refine h.advance (fun m hne hm ↦ hne (hone m n hm hpending)) rfl
        (Function.update_eq_self n s.handler).symm hstage (fun hover ↦ hover.elim)
        (fun hsuccess ↦ ?_)
      exact absurd hsuccess (append_ne_of_not_starts (by decide))

/-- What one action preserves. -/
theorem Arriving.step {a : GameAction} (hpatient : Patient uuid exportData s a)
    (hstep : stepGame q uuid backendDir exportData encode httpError s a = some s') :
    Arriving uuid backendDir exportData s' := by
  obtain ⟨halone, hdelivered⟩ := hpatient
  cases a with
  | edit a =>
      obtain ⟨view, hview, hedit, rfl⟩ := stepGame_edit hstep
      exact h.same rfl rfl (exportSession_of_stepTrim hedit hview) rfl rfl rfl
  | submit supported =>
      obtain ⟨view, -, rfl⟩ := Option.map_eq_some_iff.mp hstep
      have hidle (m : ℕ) : ¬ (s.submission m).Pending := fun hm ↦ halone ⟨m, hm⟩
      split
      · next session hsession =>
          exact h.advance (fun m _ ↦ hidle m) rfl
            (Function.update_eq_self s.nextSubmission s.handler).symm
            ⟨(h.stage _).inactive (hidle _), hsession⟩ (fun _ ↦ rfl)
            (fun hsuccess : "" = _ ↦ absurd hsuccess (by decide))
      · exact ⟨fun m ↦ (h.stage m).of_not_pending (hidle m), fun hbusy ↦ (halone hbusy).elim,
          fun hsuccess : "Export preset not supported" = _ ↦ absurd hsuccess (by decide)⟩
  | exportCompletes n =>
      simp only [stepGame] at hstep
      split at hstep
      · next session hexporting =>
          cases hstep
          have hstage := h.stage n
          rw [hexporting] at hstage
          exact h.goesOn hone (by rw [hexporting]; trivial) rfl
            (Function.update_eq_self n s.handler).symm rfl
            ⟨hstage.1, session, hstage.2, rfl, hdelivered session hexporting⟩
      · cases hstep
  | exportFails n description left =>
      simp only [stepGame] at hstep
      split at hstep
      · next session hexporting =>
          cases hstep
          have hstage := h.stage n
          rw [hexporting] at hstage
          exact h.goesOn hone (by rw [hexporting]; trivial) rfl
            (Function.update_eq_self n s.handler).symm rfl hstage.1
      · cases hstep
  | exportBlock n readable =>
      simp only [stepGame] at hstep
      split at hstep
      · next outcome hexported =>
          cases hstep
          exact h.exportBlock hone hexported readable
      · cases hstep
  | receive n =>
      simp only [stepGame] at hstep
      split at hstep
      · next body hbody =>
          obtain ⟨request, hrequest, rfl⟩ := Option.map_eq_some_iff.mp hstep
          exact h.receive hone hbody hrequest
      · cases hstep
  | finish n =>
      simp only [stepGame] at hstep
      split at hstep
      · next handle request hopened =>
          cases hstep
          exact h.finish hone hopened _
      · cases hstep
  | reject n statusCode data =>
      obtain ⟨⟨hactive, hcode⟩, hs⟩ := Option.ite_none_right_eq_some.mp hstep
      cases hs
      exact h.answers hone s.disk hactive
        (fun _ hdata ↦ absurd (TaskResult.response.inj hdata).1 hcode)
  | lose n description =>
      simp only [stepGame] at hstep
      split at hstep
      · next body hbody =>
          cases hstep
          exact h.answers hone s.disk (by rw [hbody]; rfl) (fun _ hdata ↦ by cases hdata)
      · cases hstep
  | disconnect n description => exact hdelivered.elim
  | responseBlock n outcome =>
      simp only [stepGame] at hstep
      split at hstep
      · next result hanswered =>
          cases hstep
          exact h.responseBlock hone outcome hanswered
      · cases hstep
  | appear =>
      cases hstep
      exact h.same rfl rfl rfl rfl rfl rfl
  | fetchFails k description =>
      simp only [stepGame] at hstep
      split at hstep
      · cases hstep
        exact h.same rfl rfl rfl rfl rfl rfl
      · cases hstep
  | fetchCompletes k outcome =>
      simp only [stepGame] at hstep
      split at hstep
      · cases outcome <;> cases hstep <;> exact h.same rfl rfl rfl rfl rfl rfl
      · cases hstep
  | fetchBlock k =>
      simp only [stepGame] at hstep
      split at hstep
      · cases hstep
        exact h.same rfl rfl rfl rfl rfl rfl
      · cases hstep
        exact h.same rfl rfl rfl rfl rfl rfl
      · cases hstep

end Arriving

/-! ## Runs -/

variable (uuid backendDir exportData) in
/-- What holds in every run in which the user and the phone wait. -/
structure Underway (s : GameSystem Image) : Prop where
  progressing : Progressing True s
  arriving : Arriving uuid backendDir exportData s

theorem Underway.step {s s' : GameSystem Image} {a : GameAction}
    (h : Underway uuid backendDir exportData s) (hpatient : Patient uuid exportData s a)
    (hstep : stepGame q uuid backendDir exportData encode httpError s a = some s') :
    Underway uuid backendDir exportData s' where
  progressing := h.progressing.step (fun _ ↦ hpatient.1) hstep
  arriving := h.arriving.step (h.progressing.one trivial) hpatient hstep

/-- **A successful upload.**  If no submissions overlap, no video contains the boundary of its
body and the phone waits for the answers, then while the phone says that a video has been
uploaded the server has the video that was exported last. -/
theorem game_arrives {disk : ServerDisk Image} {actions : List GameAction} {s : GameSystem Image}
    (hexec : exec (stepGame q uuid backendDir exportData encode httpError) (.start disk) actions =
      some s)
    (hpatient : AllSteps (stepGame q uuid backendDir exportData encode httpError)
      (Patient uuid exportData) (.start disk) actions)
    (hsuccess : s.uploadMessage = "Video uploaded successfully!") :
    ∃ session, s.view.exportSession = some session ∧
      s.disk.read (gamePath backendDir) = some (.bytes (exportData session)) := by
  have hinit : Underway uuid backendDir exportData (.start disk : GameSystem Image) :=
    ⟨Progressing.start True disk, ⟨fun _ ↦ rfl, fun ⟨_, hn⟩ ↦ hn.elim,
      fun hmessage : "" = _ ↦ absurd hmessage (by decide)⟩⟩
  have hunderway := exec_state_invariant hinit (fun _ _ _ h ha hstep ↦ h.step ha hstep)
    hpatient hexec
  exact hunderway.arriving.message hsuccess

theorem game_arrives_sample :
    ∃ s : GameSystem Unit, s.uploadMessage = "Video uploaded successfully!" ∧
      ∃ session, s.view.exportSession = some session ∧
        s.disk.read (gamePath []) = some (.bytes (sampleVideo session)) := by
  have hrun : (exec (stepGame .lenient (fun _ ↦ .sample) [] sampleVideo sampleEncode sampleError)
      (.start (Disk.empty (.bytes []) : ServerDisk Unit)) (sampleGameUpload.take 8)).map
        GameSystem.uploadMessage = some "Video uploaded successfully!" := by
    decide +kernel
  obtain ⟨s, hs, hsuccess⟩ := Option.map_eq_some_iff.mp hrun
  refine ⟨s, hsuccess, game_arrives hs ⟨⟨trivial, trivial⟩, fun s₁ hs₁ ↦ ?_⟩ hsuccess⟩
  obtain ⟨view₁, -, -, rfl⟩ := stepGame_edit hs₁
  refine ⟨⟨trivial, trivial⟩, fun s₂ hs₂ ↦ ?_⟩
  obtain ⟨view₂, -, -, rfl⟩ := stepGame_edit hs₂
  -- nothing has been submitted before
  refine ⟨⟨fun ⟨_, hn⟩ ↦ hn.elim, trivial⟩, fun _ _ ↦ ⟨⟨trivial, fun session _ ↦ ?_⟩, fun _ _ ↦
    ⟨⟨trivial, trivial⟩, fun _ _ ↦ ⟨⟨trivial, trivial⟩, fun _ _ ↦ ⟨⟨trivial, trivial⟩,
      fun _ _ ↦ ⟨⟨trivial, trivial⟩, fun _ _ ↦ trivial⟩⟩⟩⟩⟩⟩
  rw [sampleVideo]
  decide

end Courtside
