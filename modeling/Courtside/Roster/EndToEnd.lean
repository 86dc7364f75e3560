import Courtside.Bodies.Game
import Courtside.Bodies.Player
import Courtside.Roster.Recording
import Courtside.Training.Atomicity

/-!
# A roster, from the wizard to the dataset

The phone and the server together.  What Upload Video sends is a body; the server finds a
file in it, and `upload_video` stores that under a name that it makes of two parameters of
the query.  The phone has put both in the body, so in the query there is nothing.

Whatever the roster is, and in whatever order requests and trainings come, all clips are
stored as `_` with an extension.  A training names its classes after the clips, so it knows no
other name than `_`; and where no name needs an escape, all clips are one file, and what is
trained is at most one player (`roster_trains_one_player`).
-/

universe u v

namespace Courtside

variable {Image : Type u} {Network : Type v}

/-! ## Requests -/

/-- The body of a request. -/
def ClientRequest.body (request : ClientRequest) : Octets :=
  renderMultipart (octets request.boundary) (request.parts.map Part.encode)

theorem body_uploadRequest (boundary playerName team : String) (videoData : Option Octets) :
    (uploadRequest boundary playerName team videoData).body =
      uploadVideoBody boundary playerName team videoData := by
  have hname : playerName.toUTF8.toList = octets playerName := toList_toUTF8 playerName
  have hteam : team.toUTF8.toList = octets team := toList_toUTF8 team
  rw [uploadVideoBody_eq, ClientRequest.body]
  cases videoData with
  | none =>
      rw [uploadRequest, hname, hteam]
      rfl
  | some videoData => rw [uploadRequest, encode_clientUpload, clientUpload]

theorem query_uploadRequest (boundary playerName team : String) (videoData : Option Octets) :
    (uploadRequest boundary playerName team videoData).query = [] := by
  cases videoData <;> rfl

theorem boundary_uploadRequest (boundary playerName team : String) (videoData : Option Octets) :
    (uploadRequest boundary playerName team videoData).boundary = boundary := by
  cases videoData <;> rfl

variable (q : QuotedText)

/-- The file that the server finds in a request. -/
def receiveFile (request : ClientRequest) : Option (String × Octets) :=
  fileParameter q request.boundary request.body

/-- The requests that have been sent. -/
def RecordingStep.requests (phone : RecordingStep) : List ClientRequest :=
  phone.presses.filterMap fun press ↦ press.sent.map SentVideo.request

/-- What reaches `upload_video` with a request that has been sent. -/
def received (phone : RecordingStep) (r : ℕ) : Option UploadRequest :=
  phone.requests[r]?.bind (bindUpload (receiveFile q))

/-! ## The system -/

/-- The phone and the server. -/
structure RosterSystem (Image : Type u) (Network : Type v) where
  phone : RecordingStep
  handlers : Handlers Image Network

/-- A new view, and a server at which no request has arrived. -/
def RosterSystem.start (server : Server Image Network) : RosterSystem Image Network where
  phone := .start
  handlers := { server, phase := fun _ ↦ .waiting, trained := [] }

inductive RosterAction (Network : Type v) where
  | phone (a : RecordingAction)
  | server (a : Action Network)

/-- The request whose handler acts. -/
def Action.request? : Action Network → Option ℕ
  | .openFile r | .openRaises r | .finish r => some r
  | .train _ => none

variable (host : Host Image Network) (backendDir : Path) (teamAPlayers teamBPlayers : List String)
  (videoOf : ℕ → List UInt8)

/-- One action on either side.  A handler acts only on a request that has a file. -/
def stepRoster (s : RosterSystem Image Network) :
    RosterAction Network → Option (RosterSystem Image Network)
  | .phone a =>
      (stepRecording teamAPlayers teamBPlayers videoOf s.phone a).map fun phone ↦ { s with phone }
  | .server a =>
      match a.request?.map (received q s.phone) with
      | some none => none
      | some (some request) =>
          (stepHandlers host backendDir (fun _ ↦ request) s.handlers a).map fun handlers ↦
            { s with handlers }
      | none =>
          (stepHandlers host backendDir (fun _ ↦ { filename := "", data := [] }) s.handlers a).map
            fun handlers ↦ { s with handlers }

/-- The player's name needs no escape, and neither it nor the video contains the boundary. -/
def Plainly (s : RosterSystem Image Network) : RosterAction Network → Prop
  | .phone (.uploadVideo boundary _) =>
      (∃ uuid : UUID, boundary = uuid.boundary) ∧
        (∀ player, (allPlayers teamAPlayers teamBPlayers)[s.phone.currentPlayerIndex]? =
          some player →
            (∀ b ∈ octets player, q.allows b = true) ∧ ¬ octets boundary <:+: octets player) ∧
        ∀ recording, s.phone.cameraModel.videoURL = some recording →
          ¬ octets boundary <:+: videoOf recording
  | _ => True

variable {q host backendDir teamAPlayers teamBPlayers videoOf}

/-! ## What is stored -/

/-- All uploads have such names, and `data.yaml` has been made of uploads with such names. -/
structure Stored (backendDir : Path) (named : String → Prop) (disk : ServerDisk Image) : Prop where
  uploads : ∀ name file, disk.read (uploadPath backendDir name) = some file → named name
  yaml : ∀ data, disk.read (yamlPath backendDir) = some (.yaml data) →
    ∃ videos : List String, videos.Nodup ∧ (∀ video ∈ videos, named video) ∧
      data.names = videos.map stem

section Stored

variable {named : String → Prop} {server : Server Image Network}

theorem Stored.opened (h : Stored backendDir named server.disk) {request : UploadRequest}
    (hplain : Path.Plain request.newFilename) (hnamed : named request.newFilename) :
    Stored backendDir named (openUpload backendDir request server).2.disk where
  uploads name file hread := by
    rw [Disk.read, file?_openUpload hplain] at hread
    split at hread
    · next hpath => rwa [uploadPath_inj hpath]
    · exact h.uploads name file hread
  yaml data hread := by
    rw [Disk.read, file?_openUpload hplain, if_neg uploadPath_ne_yamlPath.symm] at hread
    exact h.yaml data hread

/-- What is written through a handle changes no name. -/
theorem Stored.finished (h : Stored backendDir named server.disk) (handle : ℕ)
    (request : UploadRequest) :
    Stored backendDir named (finishUpload backendDir handle request server).2.disk where
  uploads name file hread := by
    rw [Disk.read, file?_finishUpload] at hread
    have hmem : uploadPath backendDir name ∈
        (server.disk.modify handle (File.overwrite request.data)).paths :=
      Disk.mem_paths_iff.mpr ⟨file, hread⟩
    have hold : uploadPath backendDir name ∈ server.disk.paths := hmem
    obtain ⟨file', hread'⟩ := Disk.mem_paths_iff.mp hold
    exact h.uploads name file' hread'
  yaml data hread := by
    have hgone : (finishUpload backendDir handle request server).2.disk.file?
        (yamlPath backendDir) = none :=
      file?_clearDir_of_inside (Path.inside_append_cons _ _ _) _
    rw [Disk.read, hgone] at hread
    cases hread

theorem Stored.trained (h : Stored backendDir named server.disk) {request : TrainRequest Network}
    (hlisting : request.listing.Perm (listUploads backendDir server.disk)) :
    Stored backendDir named (trainModel host backendDir request server).2.disk where
  uploads name file hread := by
    rcases file?_trainModel_uploadPath host backendDir request server name with
      ⟨-, hgone⟩ | ⟨-, hkept⟩
    · rw [Disk.read, hgone] at hread
      cases hread
    · rw [Disk.read, hkept] at hread
      exact h.uploads name file hread
  yaml data hread := by
    have hinside : Path.Inside (datasetDir backendDir) (yamlPath backendDir) :=
      Path.inside_append_cons _ _ _
    rw [Disk.read, file?_trainModel_of_inside hinside, ← Disk.read, extraction,
      (processVideos_takeWhile host backendDir _ _ _ _).1, read_yamlPath_saveAll] at hread
    cases hread
    refine ⟨request.listing.filter isVideo, ?_, fun video hvideo ↦ ?_, rfl⟩
    · exact (hlisting.nodup_iff.mpr (nodup_listUploads _)).filter _
    · obtain ⟨file, hfile⟩ := mem_listUploads.mp
        (hlisting.mem_iff.mp (List.mem_filter.mp hvideo).1)
      exact h.uploads video file hfile

/-- What one action of the server preserves. -/
theorem Stored.step {s s' : Handlers Image Network} {requests : ℕ → UploadRequest}
    {a : Action Network} (h : Stored backendDir named s.server.disk)
    (hrequests : ∀ r ∈ a.request?, Path.Plain (requests r).newFilename ∧
      named (requests r).newFilename)
    (hstep : stepHandlers host backendDir requests s a = some s') :
    Stored backendDir named s'.server.disk := by
  cases a with
  | openFile r =>
      simp only [stepHandlers] at hstep
      split at hstep
      · cases hstep
        obtain ⟨hplain, hnamed⟩ := hrequests r rfl
        exact h.opened hplain hnamed
      · cases hstep
  | openRaises r =>
      simp only [stepHandlers] at hstep
      split at hstep
      · cases hstep
        exact h
      · cases hstep
  | finish r =>
      simp only [stepHandlers] at hstep
      split at hstep
      · cases hstep
        exact h.finished _ _
      · cases hstep
  | train request =>
      simp only [stepHandlers] at hstep
      split at hstep
      · next hlisting =>
          cases hstep
          exact h.trained hlisting
      · cases hstep

end Stored

/-! ## What is received -/

/-- A name that is stored without a player and a team. -/
def Anonymous (name : String) : Prop := ∃ filename, name = newFilename "" "" (splitext filename).2

theorem stem_of_anonymous {name : String} (h : Anonymous name) : stem name = "_" := by
  obtain ⟨filename, rfl⟩ := h
  rcases splitext_ext filename with hext | ⟨tail, hext, hdot, hsep⟩
  · rw [hext]
    decide
  · have hname : newFilename "" "" (splitext filename).2 =
        String.ofList (['_'] ++ '.' :: tail) := by
      rw [← String.toList_inj, newFilename, String.toList_append, hext, String.toList_ofList]
      rfl
    rw [stem, hname, splitext_append hdot hsep (by decide)]

/-- The extension of a clip. -/
theorem splitext_videoFileName (player : String) (team : Team) :
    (splitext (player ++ "_" ++ team.label ++ ".mov")).2 = ".mov" := by
  have hname : player ++ "_" ++ team.label ++ ".mov" =
      String.ofList ((player ++ "_" ++ team.label).toList ++ '.' :: ['m', 'o', 'v']) := by
    rw [← String.toList_inj, String.toList_ofList, String.toList_append]
    rfl
  have hroot : ((player ++ "_" ++ team.label).toList.reverse.takeWhile
      fun c ↦ decide (c ≠ '/')).any (fun c ↦ decide (c ≠ '.')) = true := by
    rw [String.toList_append, List.reverse_append]
    cases team <;> rfl
  rw [hname, splitext_append (by decide) (by decide) hroot]

/-- A request without a query. -/
def NoQuery (request : ClientRequest) : Prop := request.query = []

theorem NoQuery.anonymous {request : ClientRequest} (h : NoQuery request) {upload : UploadRequest}
    (hupload : bindUpload (receiveFile q) request = some upload) :
    Path.Plain upload.newFilename ∧ Anonymous upload.newFilename := by
  obtain ⟨file, -, rfl⟩ := Option.map_eq_some_iff.mp hupload
  have hname : (request.query.lookup "player_name").getD "" = "" := by rw [h]; rfl
  have hteam : (request.query.lookup "player_team").getD "" = "" := by rw [h]; rfl
  refine ⟨plain_anonymous hname hteam, file.1, ?_⟩
  rw [UploadRequest.newFilename, hname, hteam]

/-- A request for a player whose name needs no escape. -/
def PlainRequest (q : QuotedText) (request : ClientRequest) : Prop :=
  ∃ (uuid : UUID) (player : String) (team : Team) (videoData : Option Octets),
    request = uploadRequest uuid.boundary player team.label videoData ∧
      (∀ b ∈ octets player, q.allows b = true) ∧
      ¬ octets uuid.boundary <:+: octets player ∧
      ∀ data ∈ videoData, ¬ octets uuid.boundary <:+: data

/-- The body of such a request is received as it was meant. -/
theorem parse_uploadVideoBody {uuid : UUID} {player : String} (team : Team)
    {videoData : Option Octets} (hallows : ∀ b ∈ octets player, q.allows b = true)
    (hname : ¬ octets uuid.boundary <:+: octets player)
    (hvideo : ∀ data ∈ videoData, ¬ octets uuid.boundary <:+: data) :
    parseMultipart q (octets uuid.boundary)
        (uploadVideoBody uuid.boundary player team.label videoData) =
      some (uploadParts player team.label videoData) := by
  have hlabel : ∀ b ∈ octets team.label, isGraphic b = true := by
    cases team <;> exact List.all_eq_true.mp rfl
  have hteam : ¬ octets uuid.boundary <:+: octets team.label :=
    uuid.not_boundary_infix_of_notMem (by cases team <;> decide)
  have hboth : ∀ b ∈ octets player ++ octets team.label, q.allows b = true :=
    List.forall_mem_append.mpr ⟨hallows, fun b hb ↦ q.graphic b (hlabel b hb)⟩
  have hplayerField : ∀ b ∈ octets "player_name", isGraphic b = true := List.all_eq_true.mp rfl
  have hteamField : ∀ b ∈ octets "team", isGraphic b = true := List.all_eq_true.mp rfl
  have hwritable : ∀ part ∈ uploadParts player team.label videoData, Writable q part := by
    refine List.forall_mem_append.mpr ⟨fun part hpart ↦ ?_, ?_⟩
    · obtain ⟨data, -, rfl⟩ := Option.map_eq_some_iff.mp (Option.mem_toList.mp hpart)
      exact writable_videoPart hboth data
    · exact List.forall_mem_cons.mpr ⟨writable_textPart hplayerField player,
        List.forall_mem_singleton.mpr (writable_textPart hteamField team.label)⟩
  have hunmarked : ∀ part ∈ uploadParts player team.label videoData,
      Unmarked (octets uuid.boundary) part := by
    cases videoData with
    | some data => exact unmarked_uploadParts hname hteam (hvideo data rfl)
    | none =>
        have hempty : ¬ octets uuid.boundary <:+: ([] : Octets) :=
          uuid.not_boundary_infix_of_notMem List.not_mem_nil
        exact fun part hpart ↦
          unmarked_uploadParts hname hteam hempty part (List.mem_cons_of_mem _ hpart)
  rw [uploadVideoBody_eq]
  refine parseMultipart_render (uuid.notMem_boundary rfl) (by simp [uploadParts]) hwritable
    fun part hpart ↦ ?_
  exact not_infix_of_unmarked uuid.isBoundary_boundary (hunmarked part hpart)

theorem PlainRequest.noQuery {request : ClientRequest} (h : PlainRequest q request) :
    NoQuery request := by
  obtain ⟨uuid, player, team, videoData, rfl, -⟩ := h
  exact query_uploadRequest _ _ _ _

/-- All clips of such players are stored as one file. -/
theorem PlainRequest.newFilename_eq {request : ClientRequest} (h : PlainRequest q request)
    {upload : UploadRequest} (hupload : bindUpload (receiveFile q) request = some upload) :
    upload.newFilename = "_.mov" := by
  obtain ⟨uuid, player, team, videoData, rfl, hallows, hname, hvideo⟩ := h
  obtain ⟨file, hfile, rfl⟩ := Option.map_eq_some_iff.mp hupload
  rw [receiveFile, boundary_uploadRequest, body_uploadRequest, fileParameter,
    parse_uploadVideoBody team hallows hname hvideo] at hfile
  rw [UploadRequest.newFilename, query_uploadRequest]
  cases videoData with
  | none => cases hfile
  | some data =>
      have hdecoded : decodeUtf8 (octets (player ++ "_" ++ team.label ++ ".mov")) =
          some (player ++ "_" ++ team.label ++ ".mov") := decodeUtf8_octets _
      have hplayerField : octets "player_name" ≠ octets "file" := by decide
      have hteamField : octets "team" ≠ octets "file" := by decide
      obtain rfl : (player ++ "_" ++ team.label ++ ".mov", data) = file := by
        simpa [uploadParts, videoPart, textPart, FormPart.file?, hdecoded, hplayerField,
          hteamField] using hfile
      rw [splitext_videoFileName]
      rfl

/-! ## One action -/

theorem currentTeam_eq (teamBPlayers : List String) (player : String) :
    ∃ team : Team, currentTeam teamBPlayers player = team.label := by
  unfold currentTeam
  split
  · exact ⟨.b, rfl⟩
  · exact ⟨.a, rfl⟩

/-- A request was there before, or has been sent with what the camera has. -/
theorem mem_requests_of_stepRecording {phone phone' : RecordingStep} {a : RecordingAction}
    (hstep : stepRecording teamAPlayers teamBPlayers videoOf phone a = some phone')
    {request : ClientRequest} (hmem : request ∈ phone'.requests) :
    request ∈ phone.requests ∨ ∃ boundary readable player recording,
      a = .uploadVideo boundary readable ∧
      (allPlayers teamAPlayers teamBPlayers)[phone.currentPlayerIndex]? = some player ∧
      phone.cameraModel.videoURL = some recording ∧
      request = uploadRequest boundary player (currentTeam teamBPlayers player)
        (if readable then some (videoOf recording) else none) := by
  rw [RecordingStep.requests] at hmem
  rcases stepRecording_cases hstep with ⟨-, -, -, -, -, hpresses⟩ | ⟨-, -, -, -, -, hpresses⟩ |
    ⟨_, -, -, -, -, -, -, hpresses⟩ |
    ⟨boundary, readable, player, rfl, hplayer, -, -, -, -, hpresses⟩
  · rw [hpresses] at hmem
    exact .inl hmem
  · rw [hpresses] at hmem
    exact .inl hmem
  · rw [hpresses] at hmem
    exact .inl hmem
  · rw [hpresses, List.filterMap_append, List.mem_append] at hmem
    refine hmem.imp id fun hnew ↦ ?_
    obtain ⟨press, hpress, hrequest⟩ := List.mem_filterMap.mp hnew
    obtain ⟨sent, hsent, rfl⟩ := Option.map_eq_some_iff.mp hrequest
    obtain rfl := List.mem_singleton.mp hpress
    obtain ⟨recording, hvideo, rfl⟩ := Option.map_eq_some_iff.mp hsent
    exact ⟨boundary, readable, player, recording, rfl, hplayer, hvideo, rfl⟩

/-- What is sent plainly is plain. -/
theorem Plainly.request {s : RosterSystem Image Network} {b : RecordingAction}
    (h : Plainly q teamAPlayers teamBPlayers videoOf s (.phone b : RosterAction Network))
    {phone' : RecordingStep}
    (hstep : stepRecording teamAPlayers teamBPlayers videoOf s.phone b = some phone')
    {request : ClientRequest} (hmem : request ∈ phone'.requests) :
    request ∈ s.phone.requests ∨ PlainRequest q request := by
  refine (mem_requests_of_stepRecording hstep hmem).imp id ?_
  rintro ⟨boundary, readable, player, recording, rfl, hplayer, hvideo, rfl⟩
  obtain ⟨⟨uuid, rfl⟩, hname, hclean⟩ := h
  obtain ⟨hallows, hunmarked⟩ := hname player hplayer
  obtain ⟨team, hteam⟩ := currentTeam_eq teamBPlayers player
  rw [hteam]
  refine ⟨uuid, player, team, _, rfl, hallows, hunmarked, fun data hdata ↦ ?_⟩
  cases readable with
  | false => cases hdata
  | true =>
      obtain rfl : videoOf recording = data := Option.some.inj hdata
      exact hclean recording hvideo

/-- All requests are of a kind, and all uploads have names of a kind. -/
structure Kinds (backendDir : Path) (kind : ClientRequest → Prop) (named : String → Prop)
    (s : RosterSystem Image Network) : Prop where
  requests : ∀ request ∈ s.phone.requests, kind request
  stored : Stored backendDir named s.handlers.server.disk

/-- What one action preserves, if all requests that are sent are of the kind and it gives
uploads that kind of name. -/
theorem Kinds.step {kind : ClientRequest → Prop} {named : String → Prop}
    (hkind : ∀ request upload, kind request →
      bindUpload (receiveFile q) request = some upload →
        Path.Plain upload.newFilename ∧ named upload.newFilename)
    {s s' : RosterSystem Image Network} {a : RosterAction Network}
    (h : Kinds backendDir kind named s)
    (hsent : ∀ b phone', a = .phone b →
      stepRecording teamAPlayers teamBPlayers videoOf s.phone b = some phone' →
        ∀ request ∈ phone'.requests, request ∈ s.phone.requests ∨ kind request)
    (hstep : stepRoster q host backendDir teamAPlayers teamBPlayers videoOf s a = some s') :
    Kinds backendDir kind named s' := by
  cases a with
  | phone b =>
      obtain ⟨phone', hphone, rfl⟩ := Option.map_eq_some_iff.mp hstep
      exact ⟨fun request hmem ↦ (hsent b phone' rfl hphone request hmem).elim
        (h.requests request) id, h.stored⟩
  | server b =>
      simp only [stepRoster] at hstep
      split at hstep
      · cases hstep
      · next upload hupload =>
          obtain ⟨handlers, hhandlers, rfl⟩ := Option.map_eq_some_iff.mp hstep
          obtain ⟨r, -, hreceived⟩ := Option.map_eq_some_iff.mp hupload
          obtain ⟨request, hrequest, hbound⟩ := Option.bind_eq_some_iff.mp hreceived
          have hnamed := hkind request upload
            (h.requests request (List.mem_of_getElem? hrequest)) hbound
          exact ⟨h.requests, h.stored.step (fun _ _ ↦ hnamed) hhandlers⟩
      · next hnone =>
          obtain ⟨handlers, hhandlers, rfl⟩ := Option.map_eq_some_iff.mp hstep
          have hnot : ∀ r ∈ b.request?, False := by
            intro r hr
            rw [Option.map_eq_none_iff.mp hnone] at hr
            cases hr
          exact ⟨h.requests, h.stored.step (fun r hr ↦ (hnot r hr).elim) hhandlers⟩

/-! ## Runs -/

/-- **One player at most.**  In every run of the phone and the server that starts without
uploads and without a dataset, a `data.yaml` knows no name but `_`; and if no player's name
needs an escape and nothing contains its boundary, it knows that once at most. -/
theorem roster_trains_one_player {server : Server Image Network}
    {actions : List (RosterAction Network)} {s : RosterSystem Image Network}
    (huploads : ∀ name, server.disk.read (uploadPath backendDir name) = none)
    (hyaml : server.disk.read (yamlPath backendDir) = none)
    (hexec : exec (stepRoster q host backendDir teamAPlayers teamBPlayers videoOf) (.start server)
      actions = some s)
    {data : DataYaml}
    (hdata : s.handlers.server.disk.read (yamlPath backendDir) = some (.yaml data)) :
    (∀ name ∈ data.names, name = "_") ∧
      (AllSteps (stepRoster q host backendDir teamAPlayers teamBPlayers videoOf)
        (Plainly q teamAPlayers teamBPlayers videoOf) (.start server) actions →
          data.names.length ≤ 1) := by
  have hinit (kind : ClientRequest → Prop) (named : String → Prop) :
      Kinds backendDir kind named (.start server) := by
    refine ⟨fun request hmem ↦ (nomatch hmem), fun name file hread ↦ ?_, fun data hread ↦ ?_⟩
    · cases (huploads name).symm.trans hread
    · cases hyaml.symm.trans hread
  constructor
  · have hkinds : Kinds backendDir NoQuery Anonymous s := by
      refine exec_state_invariant (hinit NoQuery Anonymous) (fun s a s' h _ hstep ↦ ?_)
        (.of_forall (fun _ _ ↦ trivial) _ actions) hexec
      refine h.step (fun request upload hquery ↦ hquery.anonymous)
        (fun b phone' _ hphone ↦ ?_) hstep
      intro request hmem
      refine (mem_requests_of_stepRecording hphone hmem).imp id ?_
      rintro ⟨boundary, readable, player, recording, -, -, -, rfl⟩
      exact query_uploadRequest _ _ _ _
    obtain ⟨videos, -, hnamed, hnames⟩ := hkinds.stored.yaml data hdata
    intro name hname
    rw [hnames] at hname
    obtain ⟨video, hvideo, rfl⟩ := List.mem_map.mp hname
    exact stem_of_anonymous (hnamed video hvideo)
  · intro hplainly
    have hkinds : Kinds backendDir (PlainRequest q) (· = "_.mov") s := by
      refine exec_state_invariant (hinit (PlainRequest q) (· = "_.mov"))
        (fun s a s' h ha hstep ↦ ?_) hplainly hexec
      refine h.step (fun request upload hplain hupload ↦
        ⟨(hplain.noQuery.anonymous hupload).1, hplain.newFilename_eq hupload⟩)
        (fun b phone' hb hphone ↦ ?_) hstep
      subst hb
      exact fun request hmem ↦ ha.request hphone hmem
    obtain ⟨videos, hnodup, hnamed, hnames⟩ := hkinds.stored.yaml data hdata
    rw [List.eq_replicate_of_mem hnamed, List.nodup_replicate] at hnodup
    rwa [hnames, List.length_map]

/-- Two players record and send their clips, one overtakes the other, and the model is
trained. -/
def sampleRosterRun : List (RosterAction Unit) :=
  [.phone .confirmPlayers, .phone .startRecording, .phone .stopRecording,
    .phone (.didFinishRecording 0 true), .phone (.uploadVideo UUID.sample.boundary true),
    .phone .startRecording, .phone .stopRecording, .phone (.didFinishRecording 1 true),
    .phone (.uploadVideo UUID.sample.boundary true), .server (.openFile 1), .server (.finish 1),
    .server (.openFile 0), .server (.finish 0), .server (.train (completedTraining ["_.mov"]))]

theorem roster_trains_one_player_sample :
    ∃ (s : RosterSystem UInt8 Unit) (data : DataYaml),
      exec (stepRoster .lenient sampleHost [] ["Sam"] ["Kim"] fun n ↦ [n.toUInt8])
        (.start ⟨Disk.empty (.bytes []), ()⟩) sampleRosterRun = some s ∧
      s.handlers.server.disk.read (yamlPath []) = some (.yaml data) ∧
      (∀ name ∈ data.names, name = "_") ∧ data.names.length ≤ 1 := by
  have hrun : ((exec (stepRoster .lenient sampleHost [] ["Sam"] ["Kim"] fun n ↦ [n.toUInt8])
      (.start ⟨Disk.empty (.bytes []), ()⟩) sampleRosterRun).map
        fun s ↦ s.handlers.server.disk.read (yamlPath [])) =
      some (some (.yaml { names := ["_"], nc := 1 })) := by decide +kernel
  obtain ⟨s, hs, hdata⟩ := Option.map_eq_some_iff.mp hrun
  have hnames := roster_trains_one_player (q := .lenient) (fun _ ↦ rfl) rfl hs hdata
  have hplainly (t : RosterSystem UInt8 Unit) : Plainly .lenient ["Sam"] ["Kim"]
      (fun n ↦ [n.toUInt8]) t
        (.phone (.uploadVideo UUID.sample.boundary true) : RosterAction Unit) := by
    refine ⟨⟨_, rfl⟩, fun player hplayer ↦ ?_, fun recording _ hoccurs ↦ ?_⟩
    · have hmem : player = "Sam" ∨ player = "Kim" := by
        simpa [allPlayers] using List.mem_of_getElem? hplayer
      rcases hmem with rfl | rfl
      · exact ⟨List.all_eq_true.mp rfl, by decide⟩
      · exact ⟨List.all_eq_true.mp rfl, by decide⟩
    · have hle := hoccurs.length_le
      rw [UUID.length_boundary] at hle
      exact absurd hle (by simp)
  refine ⟨s, _, hs, hdata, hnames.1, hnames.2 (.of_forall_mem (fun a ha t ↦ ?_) _)⟩
  revert a
  simp only [sampleRosterRun, List.forall_mem_cons]
  exact ⟨trivial, trivial, trivial, trivial, hplainly t, trivial, trivial, trivial, hplainly t,
    trivial, trivial, trivial, trivial, trivial, fun a ha ↦ absurd ha List.not_mem_nil⟩

end Courtside
