import Courtside.Training.Server

/-!
# Collecting the roster's clips

The Upload Video action of `StartGameView` sends one request for each player, with the
player's name and team in the parts of its body.  `upload_video` takes both from the
query, where there is nothing, so it stores every clip under `_` and an extension.

Such a name is never that of a player's clip (`newFilename_ne_anonymous`).  Collecting a
roster therefore leaves the files it is meant to create as they were, and they are there
afterwards only if they were there before (`roster_saved_iff`).
-/

universe u v

namespace Courtside

/-! ## The roster -/

inductive Team where
  | a
  | b
deriving DecidableEq, Repr

def Team.label : Team → String
  | a => "A"
  | b => "B"

/-- The players of a game: no name occurs twice in one team. -/
structure Roster where
  teamAPlayers : List String
  teamBPlayers : List String
  nodupA : teamAPlayers.Nodup
  nodupB : teamBPlayers.Nodup

namespace Roster

variable (roster : Roster)

/-- `teamAPlayers + teamBPlayers`: the players in the order in which they record. -/
def players : List String := roster.teamAPlayers ++ roster.teamBPlayers

/-- The players with the teams they are on. -/
def positions : List (String × Team) :=
  roster.teamAPlayers.map (fun player ↦ (player, .a)) ++
    roster.teamBPlayers.map fun player ↦ (player, .b)

/-- `teamBPlayers.contains(currentPlayer) ? "B" : "A"`. -/
def teamFor (player : String) : String :=
  if roster.teamBPlayers.contains player then "B" else "A"

theorem nodup_positions : roster.positions.Nodup := by
  refine List.Nodup.append (roster.nodupA.map fun _ _ h ↦ (Prod.mk.inj h).1)
    (roster.nodupB.map fun _ _ h ↦ (Prod.mk.inj h).1) fun position hA hB ↦ ?_
  obtain ⟨player, -, rfl⟩ := List.mem_map.mp hA
  obtain ⟨player', -, heq⟩ := List.mem_map.mp hB
  cases heq

end Roster

/-! ## The requests of the client -/

/-- A part of a multipart body. -/
structure Part where
  name : String
  filename : Option String := none
  contentType : Option String := none
  content : List UInt8

/-- A request for `/upload_video/`. -/
structure ClientRequest where
  query : List (String × String)
  boundary : String
  parts : List Part

/-- `uploadVideo(for:for:)`, for a recorded video. -/
def clientUpload (boundary playerName team : String) (videoData : List UInt8) :
    ClientRequest where
  query := []
  boundary := boundary
  parts :=
    [{ name := "file"
       filename := some (playerName ++ "_" ++ team ++ ".mov")
       contentType := some "video/quicktime"
       content := videoData },
      { name := "player_name", content := playerName.toUTF8.toList },
      { name := "team", content := team.toUTF8.toList }]

/-- The requests which the Upload Video action sends for the roster. -/
def rosterRequests (roster : Roster) (boundaryOf : ℕ → String) (videoOf : ℕ → List UInt8) :
    List ClientRequest :=
  roster.players.zipIdx.map fun player ↦
    clientUpload (boundaryOf player.2) player.1 (roster.teamFor player.1) (videoOf player.2)

/-! ## The server -/

variable {Image : Type u} {Network : Type v}

/-- The parameters of `upload_video` for a request.  The file is what the framework makes
of the body, its name and its content; the strings are read from the query. -/
def bindUpload (receive : ClientRequest → Option (String × List UInt8))
    (request : ClientRequest) : Option UploadRequest :=
  (receive request).map fun file ↦
    { filename := file.1
      data := file.2
      playerName := (request.query.lookup "player_name").getD ""
      playerTeam := (request.query.lookup "player_team").getD "" }

variable (receive : ClientRequest → Option (String × List UInt8)) (backendDir : Path)

/-- One request; a body without a file is refused. -/
def handleUpload (server : Server Image Network) (request : ClientRequest) :
    Server Image Network :=
  match bindUpload receive request with
  | some upload => (uploadVideo backendDir upload server).2
  | none => server

/-- The requests for a roster, one after the other. -/
def collectRoster (roster : Roster) (boundaryOf : ℕ → String) (videoOf : ℕ → List UInt8)
    (server : Server Image Network) : Server Image Network :=
  (rosterRequests roster boundaryOf videoOf).foldl (handleUpload receive backendDir) server

/-- Every position has a file of its own, with the video that was sent for it and the
name of its player and team. -/
structure RosterSaved (roster : Roster) (videoOf : ℕ → List UInt8) (disk : ServerDisk Image) :
    Prop where
  saved : ∀ (i : ℕ) (player : String) (team : Team), roster.positions[i]? = some (player, team) →
    disk.read (uploadPath backendDir (newFilename player team.label ".mov")) =
      some (.bytes (videoOf i))
  separate : ∀ (i j : ℕ) (player player' : String) (team team' : Team),
    roster.positions[i]? = some (player, team) → roster.positions[j]? = some (player', team') →
    newFilename player team.label ".mov" = newFilename player' team'.label ".mov" → i = j

variable {receive backendDir}

/-! ## Names -/

/-- A clip's name determines the player and the team. -/
theorem newFilename_label_inj {player player' : String} {team team' : Team}
    (h : newFilename player team.label ".mov" = newFilename player' team'.label ".mov") :
    player = player' ∧ team = team' := by
  have hlength : ∀ team : Team, team.label.toList.length = 1 := by
    intro team
    cases team <;> rfl
  have hlist := congrArg String.toList h
  simp only [newFilename, String.toList_append] at hlist
  have hlist := List.append_cancel_right hlist
  obtain ⟨hname, hlabel⟩ := List.append_inj' hlist ((hlength team).trans (hlength team').symm)
  refine ⟨String.toList_inj.mp (List.append_cancel_right hname), ?_⟩
  cases team <;> cases team' <;> first | rfl | exact absurd hlabel (by decide)

/-- A clip that is stored without a name or a team is not stored under those of a
player. -/
theorem newFilename_ne_anonymous (player filename : String) (team : Team) :
    newFilename player team.label ".mov" ≠ newFilename "" "" (splitext filename).2 := by
  intro h
  have hlist := congrArg String.toList h
  simp only [newFilename, String.toList_append] at hlist
  rcases splitext_ext filename with hext | ⟨tail, hext, hdot, -⟩
  · rw [hext] at hlist
    have hlength := congrArg List.length hlist
    simp at hlength
    omega
  · -- both names end at their last dot
    rw [hext] at hlist
    obtain ⟨hname, -⟩ := append_cons_inj_of_notMem_tail (by decide : '.' ∉ "mov".toList) hdot hlist
    have hlength := congrArg List.length hname
    cases team <;> simp [Team.label] at hlength

/-- The name it is stored under is that of a file in `UPLOAD_DIR`. -/
theorem plain_anonymous {upload : UploadRequest} (hname : upload.playerName = "")
    (hteam : upload.playerTeam = "") : Path.Plain upload.newFilename := by
  refine plain_newFilename_of_notMem ?_ ?_
  · rw [hname]
    decide
  · rw [hteam]
    decide

/-! ## Collecting -/

/-- A request without a query changes no player's clip. -/
theorem read_handleUpload {request : ClientRequest} (hquery : request.query = [])
    (server : Server Image Network) (player : String) (team : Team) :
    (handleUpload receive backendDir server request).disk.read
        (uploadPath backendDir (newFilename player team.label ".mov")) =
      server.disk.read (uploadPath backendDir (newFilename player team.label ".mov")) := by
  rw [handleUpload, bindUpload, hquery]
  cases receive request with
  | none => rfl
  | some file =>
      refine (read_uploadVideo (plain_anonymous rfl rfl) server _).trans (if_neg ?_)
      exact newFilename_ne_anonymous player file.1 team

/-- The client sends no query. -/
theorem query_of_mem_rosterRequests {roster : Roster} {boundaryOf : ℕ → String}
    {videoOf : ℕ → List UInt8} {request : ClientRequest}
    (h : request ∈ rosterRequests roster boundaryOf videoOf) : request.query = [] := by
  obtain ⟨player, -, rfl⟩ := List.mem_map.mp h
  rfl

/-- Requests without a query change no player's clip. -/
theorem read_foldl_handleUpload {requests : List ClientRequest}
    (hrequests : ∀ request ∈ requests, request.query = []) (server : Server Image Network)
    (player : String) (team : Team) :
    (requests.foldl (handleUpload receive backendDir) server).disk.read
        (uploadPath backendDir (newFilename player team.label ".mov")) =
      server.disk.read (uploadPath backendDir (newFilename player team.label ".mov")) := by
  induction requests generalizing server with
  | nil => rfl
  | cons request requests ih =>
      obtain ⟨hquery, hrequests⟩ := List.forall_mem_cons.mp hrequests
      rw [List.foldl_cons, ih hrequests, read_handleUpload hquery]

/-- **Clips are not collected.**  After the requests for a roster, whatever the server
makes of their bodies, every position has its own file exactly if it had it before. -/
theorem roster_saved_iff (receive : ClientRequest → Option (String × List UInt8))
    (backendDir : Path) (roster : Roster) (boundaryOf : ℕ → String) (videoOf : ℕ → List UInt8)
    (server : Server Image Network) :
    RosterSaved backendDir roster videoOf
        (collectRoster receive backendDir roster boundaryOf videoOf server).disk ↔
      ∀ (i : ℕ) (player : String) (team : Team), roster.positions[i]? = some (player, team) →
        server.disk.read (uploadPath backendDir (newFilename player team.label ".mov")) =
          some (.bytes (videoOf i)) := by
  have hread : ∀ (player : String) (team : Team),
      (collectRoster receive backendDir roster boundaryOf videoOf server).disk.read
          (uploadPath backendDir (newFilename player team.label ".mov")) =
        server.disk.read (uploadPath backendDir (newFilename player team.label ".mov")) :=
    read_foldl_handleUpload (fun _ ↦ query_of_mem_rosterRequests) server
  constructor
  · intro h i player team hposition
    exact (hread player team).symm.trans (h.saved i player team hposition)
  · intro h
    refine ⟨fun i player team hposition ↦ ?_,
      fun i j player player' team team' hi hj hname ↦ ?_⟩
    · exact (hread player team).trans (h i player team hposition)
    · obtain ⟨rfl, rfl⟩ := newFilename_label_inj hname
      exact (List.getElem?_inj (List.getElem?_eq_some_iff.mp hi).1 roster.nodup_positions).mp
        (hi.trans hj.symm)

/-- What a server makes of a body that it can read: the part named `file`. -/
def filePart (request : ClientRequest) : Option (String × List UInt8) :=
  (request.parts.find? fun part ↦ decide (part.name = "file")).bind fun part ↦
    part.filename.map fun filename ↦ (filename, part.content)

/-- One player in each team. -/
def sampleRoster : Roster where
  teamAPlayers := ["Sam"]
  teamBPlayers := ["Ann"]
  nodupA := by decide
  nodupB := by decide

/-- Both clips are stored as `_.mov`, and none under a player's name. -/
theorem roster_saved_sample_fails :
    ¬ ∀ (roster : Roster) (videoOf : ℕ → List UInt8),
      RosterSaved [] roster videoOf
        (collectRoster filePart [] roster (fun _ ↦ "Boundary") videoOf
          (⟨Disk.empty (.bytes []), ()⟩ : Server UInt8 Unit)).disk := by
  have hnone : (collectRoster filePart [] sampleRoster (fun _ ↦ "Boundary")
      (fun i ↦ [i.toUInt8]) (⟨Disk.empty (.bytes []), ()⟩ : Server UInt8 Unit)).disk.read
        ["uploads", "Sam_A.mov"] = none := by
    decide +kernel
  intro h
  have hsaved := (h sampleRoster fun i ↦ [i.toUInt8]).saved 0 "Sam" .a rfl
  cases hnone.symm.trans hsaved

end Courtside
