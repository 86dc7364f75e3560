import Courtside.Data.Run
import Courtside.Roster.Upload

/-!
# Recording the roster

The recording step of `StartGameView` walks through the players.  Start and Stop Recording
drive the camera, which stores the URL of a video when the recording has been saved; that
happens in a callback, some time after it has been stopped.  Upload Video sends the video
whose URL is stored under the name of the current player, and moves on.

Nothing ties the stored video to the current player.  It is never cleared, so a press
without a new recording sends the previous player's video; a recording that is saved late
is sent under the next player's name; and where nothing has been saved yet, nothing is
sent, and the wizard moves on all the same.

The team of a player is looked up by name, so a player of team A with a namesake on team B
is sent as one of team B (`currentTeam_eq_label_iff`).

Every player is labelled with their own footage exactly if each press finds that the last
recording to be saved was started at the current position, and no namesake of the player
there (`own_footage_iff`).
-/

namespace Courtside

variable (teamAPlayers teamBPlayers : List String) (videoOf : ℕ → List UInt8)

/-! ## The state -/

/-- `CameraModel`.  A recording is known by its number: its URL names a new file, as a
recording to a file that exists fails. -/
structure CameraModel where
  isRecording : Bool
  videoURL : Option ℕ
deriving DecidableEq, Repr

/-- What a press of Upload Video has sent. -/
structure SentVideo where
  request : ClientRequest
  /-- The recording in the body, if it could be read. -/
  recording : Option ℕ

/-- A press of Upload Video. -/
structure UploadPress where
  /-- The position which the wizard has moved past. -/
  position : ℕ
  sent : Option SentVideo

/-- `StartGameView` with its camera and its history. -/
structure RecordingStep where
  currentStep : ℕ
  currentPlayerIndex : ℕ
  cameraModel : CameraModel
  /-- The position that was the current one when each recording was started. -/
  recordings : List ℕ
  /-- The recordings whose callback is still to come. -/
  unfinished : List ℕ
  /-- The recordings that have been saved, in the order of their callbacks. -/
  saved : List ℕ
  presses : List UploadPress

/-- The view when it appears. -/
def RecordingStep.start : RecordingStep where
  currentStep := 0
  currentPlayerIndex := 0
  cameraModel := { isRecording := false, videoURL := none }
  recordings := []
  unfinished := []
  saved := []
  presses := []

/-- What the user does, and the callback. -/
inductive RecordingAction where
  | confirmPlayers
  | startRecording
  | stopRecording
  | didFinishRecording (recording : ℕ) (succeeds : Bool)
  /-- The video may have become unreadable. -/
  | uploadVideo (boundary : String) (readable : Bool)
  | goBack
deriving DecidableEq, Repr

/-! ## Steps -/

/-- `teamAPlayers + teamBPlayers`. -/
def allPlayers : List String := teamAPlayers ++ teamBPlayers

/-- `teamBPlayers.contains(currentPlayer) ? "B" : "A"`. -/
def currentTeam (currentPlayer : String) : String :=
  if teamBPlayers.contains currentPlayer then "B" else "A"

/-- The team of the player at a position: those of team A come first. -/
def teamAt (position : ℕ) : Team := if position < teamAPlayers.length then .a else .b

/-- The request of `uploadVideo(for:for:)`; without a video its body has no file. -/
def uploadRequest (boundary playerName team : String) (videoData : Option (List UInt8)) :
    ClientRequest :=
  match videoData with
  | some videoData => clientUpload boundary playerName team videoData
  | none =>
      { query := []
        boundary := boundary
        parts :=
          [{ name := "player_name", content := playerName.toUTF8.toList },
            { name := "team", content := team.toUTF8.toList }] }

/-- `uploadVideo(for:for:)`: nothing is sent before a video has been saved. -/
def sendVideo (boundary : String) (readable : Bool) (currentPlayer : String)
    (cameraModel : CameraModel) : Option SentVideo :=
  cameraModel.videoURL.map fun recording ↦
    { request := uploadRequest boundary currentPlayer (currentTeam teamBPlayers currentPlayer)
        (if readable then some (videoOf recording) else none)
      recording := if readable then some recording else none }

/-- The player whose buttons are shown. -/
def RecordingStep.currentPlayer (s : RecordingStep) : Option String :=
  if s.currentStep = 1 then (allPlayers teamAPlayers teamBPlayers)[s.currentPlayerIndex]? else none

/-- One action. -/
def stepRecording (s : RecordingStep) : RecordingAction → Option RecordingStep
  | .confirmPlayers =>
      if s.currentStep = 0 then some { s with currentStep := 1, currentPlayerIndex := 0 } else none
  | .startRecording =>
      match s.currentPlayer teamAPlayers teamBPlayers with
      | some _ =>
          if s.cameraModel.isRecording then some s
          else
            some
              { s with
                cameraModel := { s.cameraModel with isRecording := true }
                recordings := s.recordings ++ [s.currentPlayerIndex]
                unfinished := s.unfinished ++ [s.recordings.length] }
      | none => none
  | .stopRecording =>
      match s.currentPlayer teamAPlayers teamBPlayers with
      | some _ =>
          if s.cameraModel.isRecording then
            some { s with cameraModel := { s.cameraModel with isRecording := false } }
          else some s
      | none => none
  | .didFinishRecording recording succeeds =>
      if recording ∈ s.unfinished then
        if succeeds then
          some
            { s with
              cameraModel := { s.cameraModel with videoURL := some recording }
              unfinished := s.unfinished.erase recording
              saved := s.saved ++ [recording] }
        else some { s with unfinished := s.unfinished.erase recording }
      else none
  | .uploadVideo boundary readable =>
      match s.currentPlayer teamAPlayers teamBPlayers with
      | some currentPlayer =>
          let press :=
            { position := s.currentPlayerIndex
              sent := sendVideo teamBPlayers videoOf boundary readable currentPlayer s.cameraModel }
          if s.currentPlayerIndex < (allPlayers teamAPlayers teamBPlayers).length - 1 then
            some
              { s with
                currentPlayerIndex := s.currentPlayerIndex + 1
                presses := s.presses ++ [press] }
          else some { s with currentStep := 2, presses := s.presses ++ [press] }
      | none => none
  | .goBack =>
      if 0 < s.currentStep then some { s with currentStep := s.currentStep - 1 } else none

/-! ## Own footage -/

/-- The press has sent the player at its position, by name and team, with a video of their
own, given the positions at which the recordings were started. -/
def OwnFootage (recordings : List ℕ) (press : UploadPress) : Prop :=
  ∃ player boundary recording sent, press.sent = some sent ∧
    (allPlayers teamAPlayers teamBPlayers)[press.position]? = some player ∧
    sent.request =
      clientUpload boundary player (teamAt teamAPlayers press.position).label
        (videoOf recording) ∧
    sent.recording = some recording ∧ recordings[recording]? = some press.position

/-- Every press has. -/
def AllOwnFootage (s : RecordingStep) : Prop :=
  ∀ press ∈ s.presses, OwnFootage teamAPlayers teamBPlayers videoOf s.recordings press

/-- The last recording to be saved was started at the current position, and its video can
be read.  If the player there is on team A, nobody on team B has their name. -/
def SavedHere (s : RecordingStep) : RecordingAction → Prop
  | .uploadVideo _ readable => readable = true ∧
      (∃ recording, s.saved.getLast? = some recording ∧
        s.recordings[recording]? = some s.currentPlayerIndex) ∧
      ∀ player ∈ teamAPlayers[s.currentPlayerIndex]?, player ∉ teamBPlayers
  | _ => True

/-- What holds in every run: the camera has the video that was saved last, and whatever
is to be saved, has been saved or has been sent was started before. -/
structure Filed (s : RecordingStep) : Prop where
  videoURL : s.cameraModel.videoURL = s.saved.getLast?
  unfinished : ∀ recording ∈ s.unfinished, recording < s.recordings.length
  saved : ∀ recording ∈ s.saved, recording < s.recordings.length
  sent : ∀ press ∈ s.presses, ∀ sent recording, press.sent = some sent →
    sent.recording = some recording → recording < s.recordings.length

variable {teamAPlayers teamBPlayers videoOf}

/-! ## The team of a player -/

/-- The team that is sent is that of the position unless a player of team A has a namesake
on team B. -/
theorem currentTeam_eq_label_iff {player : String} {position : ℕ}
    (hplayer : (allPlayers teamAPlayers teamBPlayers)[position]? = some player) :
    currentTeam teamBPlayers player = (teamAt teamAPlayers position).label ↔
      ∀ player ∈ teamAPlayers[position]?, player ∉ teamBPlayers := by
  rw [currentTeam, List.contains_eq_mem, teamAt]
  by_cases hA : position < teamAPlayers.length
  · rw [allPlayers, List.getElem?_append_left hA] at hplayer
    rw [if_pos hA, hplayer]
    by_cases hB : player ∈ teamBPlayers <;> simp [hB, Team.label]
  · rw [allPlayers, List.getElem?_append_right (not_lt.mp hA)] at hplayer
    have hB : player ∈ teamBPlayers := List.mem_of_getElem? hplayer
    rw [if_neg hA, List.getElem?_eq_none (not_lt.mp hA)]
    simp [hB, Team.label]

/-- The file name in a request says for which team it is. -/
theorem team_of_clientUpload_eq {boundary boundary' player team team' : String}
    {videoData videoData' : List UInt8}
    (h : clientUpload boundary player team videoData =
      clientUpload boundary' player team' videoData') : team = team' := by
  have hparts := congrArg (fun request ↦ request.parts.head?.bind Part.filename) h
  have hname : player ++ "_" ++ team ++ ".mov" = player ++ "_" ++ team' ++ ".mov" :=
    Option.some.inj hparts
  rwa [String.append_left_inj, String.append_right_inj] at hname

/-! ## One action -/

/-- What an action is, and what it does. -/
theorem stepRecording_cases {s s' : RecordingStep} {a : RecordingAction}
    (hstep : stepRecording teamAPlayers teamBPlayers videoOf s a = some s') :
    -- the history is as it was
    ((∀ boundary readable, a ≠ .uploadVideo boundary readable) ∧
      s'.cameraModel.videoURL = s.cameraModel.videoURL ∧ s'.recordings = s.recordings ∧
      (∀ recording ∈ s'.unfinished, recording ∈ s.unfinished) ∧ s'.saved = s.saved ∧
      s'.presses = s.presses) ∨
    -- a recording is started
    (a = .startRecording ∧ s'.cameraModel.videoURL = s.cameraModel.videoURL ∧
      s'.recordings = s.recordings ++ [s.currentPlayerIndex] ∧
      s'.unfinished = s.unfinished ++ [s.recordings.length] ∧ s'.saved = s.saved ∧
      s'.presses = s.presses) ∨
    -- a recording is saved
    (∃ recording ∈ s.unfinished, a = .didFinishRecording recording true ∧
      s'.cameraModel.videoURL = some recording ∧ s'.recordings = s.recordings ∧
      (∀ recording ∈ s'.unfinished, recording ∈ s.unfinished) ∧
      s'.saved = s.saved ++ [recording] ∧ s'.presses = s.presses) ∨
    -- a video is uploaded
    ∃ boundary readable player, a = .uploadVideo boundary readable ∧
      (allPlayers teamAPlayers teamBPlayers)[s.currentPlayerIndex]? = some player ∧
      s'.cameraModel.videoURL = s.cameraModel.videoURL ∧ s'.recordings = s.recordings ∧
      s'.unfinished = s.unfinished ∧ s'.saved = s.saved ∧
      s'.presses = s.presses ++
        [{ position := s.currentPlayerIndex
           sent := sendVideo teamBPlayers videoOf boundary readable player s.cameraModel }] := by
  cases a with
  | confirmPlayers =>
      simp only [stepRecording] at hstep
      split at hstep
      · cases hstep
        exact .inl ⟨by simp, rfl, rfl, fun _ h ↦ h, rfl, rfl⟩
      · cases hstep
  | startRecording =>
      simp only [stepRecording] at hstep
      split at hstep
      · split at hstep
        · cases hstep
          exact .inl ⟨by simp, rfl, rfl, fun _ h ↦ h, rfl, rfl⟩
        · cases hstep
          exact .inr (.inl ⟨rfl, rfl, rfl, rfl, rfl, rfl⟩)
      · cases hstep
  | stopRecording =>
      simp only [stepRecording] at hstep
      split at hstep
      · split at hstep
        all_goals
          cases hstep
          exact .inl ⟨by simp, rfl, rfl, fun _ h ↦ h, rfl, rfl⟩
      · cases hstep
  | didFinishRecording recording succeeds =>
      simp only [stepRecording] at hstep
      split at hstep
      · next hmem =>
          split at hstep
          · next hsucceeds =>
              cases hstep
              subst hsucceeds
              exact .inr (.inr (.inl ⟨recording, hmem, rfl, rfl, rfl,
                fun _ h ↦ List.mem_of_mem_erase h, rfl, rfl⟩))
          · cases hstep
            exact .inl ⟨by simp, rfl, rfl, fun _ h ↦ List.mem_of_mem_erase h, rfl, rfl⟩
      · cases hstep
  | uploadVideo boundary readable =>
      simp only [stepRecording] at hstep
      split at hstep
      · next player hplayer =>
          have hcurrent : (allPlayers teamAPlayers teamBPlayers)[s.currentPlayerIndex]? =
              some player := by
            unfold RecordingStep.currentPlayer at hplayer
            split at hplayer
            · exact hplayer
            · cases hplayer
          split at hstep
          all_goals
            cases hstep
            exact .inr (.inr (.inr ⟨boundary, readable, player, rfl, hcurrent,
              rfl, rfl, rfl, rfl, rfl⟩))
      · cases hstep
  | goBack =>
      simp only [stepRecording] at hstep
      split at hstep
      · cases hstep
        exact .inl ⟨by simp, rfl, rfl, fun _ h ↦ h, rfl, rfl⟩
      · cases hstep

/-- What a press sends is the video which the camera has. -/
theorem videoURL_of_sendVideo {boundary : String} {readable : Bool} {player : String}
    {cameraModel : CameraModel} {sent : SentVideo} {recording : ℕ}
    (hsent : sendVideo teamBPlayers videoOf boundary readable player cameraModel = some sent)
    (hrecording : sent.recording = some recording) :
    readable = true ∧ cameraModel.videoURL = some recording := by
  obtain ⟨n, hn, rfl⟩ := Option.map_eq_some_iff.mp hsent
  cases readable with
  | false => cases hrecording
  | true =>
      cases hrecording
      exact ⟨rfl, hn⟩

/-- What one action preserves. -/
theorem Filed.step {s s' : RecordingStep} {a : RecordingAction} (h : Filed s)
    (hstep : stepRecording teamAPlayers teamBPlayers videoOf s a = some s') : Filed s' := by
  rcases stepRecording_cases hstep with ⟨-, hurl, hrec, hunf, hsaved, hpresses⟩ |
    ⟨-, hurl, hrec, hunf, hsaved, hpresses⟩ |
    ⟨recording, hmem, -, hurl, hrec, hunf, hsaved, hpresses⟩ |
    ⟨boundary, readable, player, -, hplayer, hurl, hrec, hunf, hsaved, hpresses⟩
  · refine ⟨by rw [hurl, hsaved, h.videoURL], ?_, ?_, ?_⟩
    · rw [hrec]
      exact fun recording hmem ↦ h.unfinished recording (hunf recording hmem)
    · rw [hrec, hsaved]
      exact h.saved
    · rw [hrec, hpresses]
      exact h.sent
  · have hlater : s.recordings.length < s'.recordings.length := by rw [hrec]; simp
    refine ⟨by rw [hurl, hsaved, h.videoURL], fun recording hmem ↦ ?_, fun recording hmem ↦ ?_,
      fun press hmem sent recording hsent hrecording ↦ ?_⟩
    · rw [hunf] at hmem
      rcases List.mem_append.mp hmem with hold | hnew
      · exact Nat.lt_trans (h.unfinished recording hold) hlater
      · rw [List.mem_singleton.mp hnew]
        exact hlater
    · rw [hsaved] at hmem
      exact Nat.lt_trans (h.saved recording hmem) hlater
    · rw [hpresses] at hmem
      exact Nat.lt_trans (h.sent press hmem sent recording hsent hrecording) hlater
  · refine ⟨by rw [hurl, hsaved, List.getLast?_concat], ?_, ?_, ?_⟩
    · rw [hrec]
      exact fun recording hmem ↦ h.unfinished recording (hunf recording hmem)
    · rw [hrec, hsaved]
      intro recording' hmem'
      rcases List.mem_append.mp hmem' with hold | hnew
      · exact h.saved recording' hold
      · rw [List.mem_singleton.mp hnew]
        exact h.unfinished recording hmem
    · rw [hrec, hpresses]
      exact h.sent
  · refine ⟨by rw [hurl, hsaved, h.videoURL], ?_, ?_, ?_⟩
    · rw [hrec, hunf]
      exact h.unfinished
    · rw [hrec, hsaved]
      exact h.saved
    · rw [hrec, hpresses]
      intro press hmem sent recording hsent hrecording
      rcases List.mem_append.mp hmem with hold | hnew
      · exact h.sent press hold sent recording hsent hrecording
      · rw [List.mem_singleton.mp hnew] at hsent
        obtain ⟨-, hvideo⟩ := videoURL_of_sendVideo hsent hrecording
        exact h.saved recording (List.mem_of_getLast? (h.videoURL.symm.trans hvideo))

/-- A new recording does not change what the presses before it have sent. -/
theorem ownFootage_append_iff {recordings : List ℕ} {position : ℕ} {press : UploadPress}
    (hsent : ∀ sent recording, press.sent = some sent → sent.recording = some recording →
      recording < recordings.length) :
    OwnFootage teamAPlayers teamBPlayers videoOf (recordings ++ [position]) press ↔
      OwnFootage teamAPlayers teamBPlayers videoOf recordings press := by
  constructor
  all_goals
    rintro ⟨player, boundary, recording, sent, hpress, hplayer, hrequest, hrecording, hposition⟩
    refine ⟨player, boundary, recording, sent, hpress, hplayer, hrequest, hrecording, ?_⟩
    have hlt := hsent sent recording hpress hrecording
    simpa only [List.getElem?_append_left hlt] using hposition

/-- A press sends the player's own footage exactly if it was saved last, and the player is
taken for nobody else. -/
theorem Filed.ownFootage_iff {s : RecordingStep} (h : Filed s) {boundary : String}
    {readable : Bool} {player : String}
    (hplayer : (allPlayers teamAPlayers teamBPlayers)[s.currentPlayerIndex]? = some player) :
    OwnFootage teamAPlayers teamBPlayers videoOf s.recordings
        { position := s.currentPlayerIndex
          sent := sendVideo teamBPlayers videoOf boundary readable player s.cameraModel } ↔
      SavedHere teamAPlayers teamBPlayers s (.uploadVideo boundary readable) := by
  rw [SavedHere, ← currentTeam_eq_label_iff hplayer]
  constructor
  · rintro ⟨player', boundary', recording, sent, hsent, hplayer', hrequest, hrecording, hposition⟩
    obtain ⟨rfl, hvideo⟩ := videoURL_of_sendVideo hsent hrecording
    obtain rfl : player = player' := Option.some.inj (hplayer.symm.trans hplayer')
    refine ⟨rfl, ⟨recording, h.videoURL.symm.trans hvideo, hposition⟩, ?_⟩
    dsimp only at hsent
    rw [sendVideo, hvideo] at hsent
    cases hsent
    exact team_of_clientUpload_eq hrequest
  · rintro ⟨rfl, ⟨recording, hlast, hposition⟩, hteam⟩
    refine ⟨player, boundary, recording,
      { request := clientUpload boundary player (currentTeam teamBPlayers player)
          (videoOf recording)
        recording := some recording }, ?_, hplayer, ?_, rfl, hposition⟩
    · rw [sendVideo, h.videoURL, hlast]
      rfl
    · rw [hteam]

/-- An action keeps all presses right exactly if it meets the condition. -/
theorem Filed.allOwnFootage_iff {s s' : RecordingStep} {a : RecordingAction} (h : Filed s)
    (hstep : stepRecording teamAPlayers teamBPlayers videoOf s a = some s') :
    AllOwnFootage teamAPlayers teamBPlayers videoOf s' ↔
      AllOwnFootage teamAPlayers teamBPlayers videoOf s ∧
        SavedHere teamAPlayers teamBPlayers s a := by
  unfold AllOwnFootage
  rcases stepRecording_cases hstep with ⟨hne, -, hrec, -, -, hpresses⟩ |
    ⟨rfl, -, hrec, -, -, hpresses⟩ | ⟨_, -, rfl, -, hrec, -, -, hpresses⟩ |
    ⟨boundary, readable, player, rfl, hplayer, -, hrec, -, -, hpresses⟩
  · have hsaved : SavedHere teamAPlayers teamBPlayers s a := by
      cases a with
      | uploadVideo boundary readable => exact absurd rfl (hne boundary readable)
      | _ => trivial
    rw [hrec, hpresses]
    exact ⟨fun hall ↦ ⟨hall, hsaved⟩, And.left⟩
  · simp only [hrec, hpresses, SavedHere, and_true]
    exact forall₂_congr fun press hpress ↦ ownFootage_append_iff (h.sent press hpress)
  · simp only [hrec, hpresses, SavedHere, and_true]
  · rw [hrec, hpresses, List.forall_mem_append, List.forall_mem_singleton,
      h.ownFootage_iff hplayer]

/-! ## All runs -/

instance (s : RecordingStep) : ∀ a, Decidable (SavedHere teamAPlayers teamBPlayers s a)
  | .uploadVideo _ readable => decidable_of_iff
      (readable = true ∧
        (s.saved.getLast?.bind fun n ↦ s.recordings[n]?) = some s.currentPlayerIndex ∧
        ∀ player ∈ teamAPlayers[s.currentPlayerIndex]?, player ∉ teamBPlayers)
      (by simp [SavedHere, Option.bind_eq_some_iff])
  | .confirmPlayers | .startRecording | .stopRecording | .didFinishRecording _ _ | .goBack =>
      isTrue trivial

/-- One recording, as it should be. -/
def recordOnce (recording : ℕ) : List RecordingAction :=
  [.startRecording, .stopRecording, .didFinishRecording recording true,
    .uploadVideo "Boundary" true]

/-- A run for a player on each team; the videos are of one byte. -/
def runRecording (actions : List RecordingAction) : Option RecordingStep :=
  exec (stepRecording ["Sam"] ["Kim"] fun n ↦ [n.toUInt8]) .start actions

end Courtside
