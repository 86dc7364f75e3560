import Courtside.Data.Dict
import Courtside.Data.Run
import Mathlib.Data.Rat.Defs

/-!
# Saved games

`FirestoreManager` keeps games in one collection of Firestore.  `saveGame` writes the
encoded fields of a `Game`, `fetchGames` asks for the documents whose `userId` is that of a
user, and `StatsView` reads the whole collection.

A `Game` has no field `userId`, so no document has one (`lookup_userId_encodeGame`).
`fetchGames` therefore never finds anything, and `StatsView` finds everybody's games.  One
of them is right for a user who has saved nothing, the other where nobody else has; both
are right only while no game has been saved at all (`own_games_iff`).
-/

universe u

namespace Courtside

/-! ## Models -/

/-- `Shot`. -/
structure Shot where
  id : Option String
  userID : String
  xPos : ℤ
  yPos : ℤ
  depth : ℤ
  made : Bool
deriving DecidableEq, Repr

/-- `Game`. -/
structure Game where
  id : Option String
  win : Bool
  teamScore : ℤ
  opponentTeamScore : ℤ
  personalPoints : ℤ
  personalRebounds : ℤ
  personalAssists : ℤ
  personalSteals : ℤ
  personalBlocks : ℤ
  personalTurnovers : ℤ
  personalFGMade : ℤ
  personal3FGMade : ℤ
  personalFGAttempted : ℤ
  personal3FGAttempted : ℤ
  possessions : ℤ
  shots : List Shot
deriving DecidableEq, Repr

/-! ## Documents -/

/-- The value of a field. -/
inductive FieldValue where
  | null
  | bool (value : Bool)
  | int (value : ℤ)
  | double (value : ℚ)
  | string (value : String)
  | array (values : List FieldValue)
  | map (fields : List (String × FieldValue))
  /-- A date, bytes, a place, a reference, or a `double` that is no number. -/
  | other

/-- The fields of a document. -/
abbrev Fields := List (String × FieldValue)

/-- A document: its id and its fields. -/
structure Document where
  documentID : String
  fields : Fields

/-- The encoded fields of a shot: its id is not among them. -/
def encodeShot (shot : Shot) : Fields :=
  [("userID", .string shot.userID), ("xPos", .int shot.xPos), ("yPos", .int shot.yPos),
    ("depth", .int shot.depth), ("made", .bool shot.made)]

/-- The encoded fields of a game: its id is not among them. -/
def encodeGame (game : Game) : Fields :=
  [("win", .bool game.win),
    ("teamScore", .int game.teamScore),
    ("opponentTeamScore", .int game.opponentTeamScore),
    ("personalPoints", .int game.personalPoints),
    ("personalRebounds", .int game.personalRebounds),
    ("personalAssists", .int game.personalAssists),
    ("personalSteals", .int game.personalSteals),
    ("personalBlocks", .int game.personalBlocks),
    ("personalTurnovers", .int game.personalTurnovers),
    ("personalFGMade", .int game.personalFGMade),
    ("personal3FGMade", .int game.personal3FGMade),
    ("personalFGAttempted", .int game.personalFGAttempted),
    ("personal3FGAttempted", .int game.personal3FGAttempted),
    ("possessions", .int game.possessions),
    ("shots", .array (game.shots.map fun shot ↦ .map (encodeShot shot)))]

/-! ## Decoding -/

namespace FieldValue

/-- `unbox(_:as:)` for `Int`, which takes a whole `double` for one if it fits. -/
def int? : FieldValue → Option ℤ
  | int value => some value
  | double value =>
      if value.den = 1 ∧ -9223372036854775808 ≤ value.num ∧ value.num ≤ 9223372036854775807 then
        some value.num
      else none
  | _ => none

def bool? : FieldValue → Option Bool
  | bool value => some value
  | _ => none

def string? : FieldValue → Option String
  | string value => some value
  | _ => none

def array? : FieldValue → Option (List FieldValue)
  | array values => some values
  | _ => none

def map? : FieldValue → Option Fields
  | map fields => some fields
  | _ => none

end FieldValue

/-- Decodes a shot of a document, whose id it is given.  A field of the name `id` is in
conflict with that. -/
def decodeShot (documentID : String) (fields : Fields) : Option Shot :=
  if (fields.lookup "id").isSome then none
  else do
    let userID ← (fields.lookup "userID").bind FieldValue.string?
    let xPos ← (fields.lookup "xPos").bind FieldValue.int?
    let yPos ← (fields.lookup "yPos").bind FieldValue.int?
    let depth ← (fields.lookup "depth").bind FieldValue.int?
    let made ← (fields.lookup "made").bind FieldValue.bool?
    return { id := documentID, userID, xPos, yPos, depth, made }

/-- An integer field of a document. -/
def Document.int? (document : Document) (key : String) : Option ℤ :=
  (document.fields.lookup key).bind FieldValue.int?

/-- `data(as: Game.self)`, with the same conflict. -/
def decodeGame (document : Document) : Option Game :=
  if (document.fields.lookup "id").isSome then none
  else do
    let win ← (document.fields.lookup "win").bind FieldValue.bool?
    let teamScore ← document.int? "teamScore"
    let opponentTeamScore ← document.int? "opponentTeamScore"
    let personalPoints ← document.int? "personalPoints"
    let personalRebounds ← document.int? "personalRebounds"
    let personalAssists ← document.int? "personalAssists"
    let personalSteals ← document.int? "personalSteals"
    let personalBlocks ← document.int? "personalBlocks"
    let personalTurnovers ← document.int? "personalTurnovers"
    let personalFGMade ← document.int? "personalFGMade"
    let personal3FGMade ← document.int? "personal3FGMade"
    let personalFGAttempted ← document.int? "personalFGAttempted"
    let personal3FGAttempted ← document.int? "personal3FGAttempted"
    let possessions ← document.int? "possessions"
    let values ← (document.fields.lookup "shots").bind FieldValue.array?
    let shots ← values.mapM fun value ↦ value.map?.bind (decodeShot document.documentID)
    return {
      id := document.documentID
      win, teamScore, opponentTeamScore, personalPoints, personalRebounds, personalAssists
      personalSteals, personalBlocks, personalTurnovers, personalFGMade, personal3FGMade
      personalFGAttempted, personal3FGAttempted, possessions, shots }

/-- A game as it is read from a document: its ids are filled in. -/
def Game.withDocumentID (game : Game) (documentID : String) : Game :=
  { game with
    id := documentID
    shots := game.shots.map fun shot ↦ { shot with id := documentID } }

theorem mapM_decodeShot (documentID : String) (shots : List Shot) :
    (shots.map fun shot ↦ FieldValue.map (encodeShot shot)).mapM
        (fun value ↦ value.map?.bind (decodeShot documentID)) =
      some (shots.map fun shot ↦ { shot with id := some documentID }) := by
  induction shots with
  | nil => rfl
  | cons shot shots ih =>
      rw [List.map_cons, List.mapM_cons, ih]
      rfl

/-- **Round trip.**  What is saved is read back, with the document's id. -/
theorem decodeGame_encodeGame (game : Game) (documentID : String) :
    decodeGame ⟨documentID, encodeGame game⟩ = some (game.withDocumentID documentID) := by
  -- every field is found; what is left are the shots
  change (((game.shots.map fun shot ↦ FieldValue.map (encodeShot shot)).mapM
    fun value ↦ (FieldValue.map? value).bind (decodeShot documentID)).bind fun shots ↦
      some { game with id := some documentID, shots := shots }) = _
  rw [mapM_decodeShot]
  rfl

/-- No document of a game has a `userId`. -/
theorem lookup_userId_encodeGame (game : Game) : (encodeGame game).lookup "userId" = none := rfl

/-! ## The collection -/

/-- A successful `saveGame`, and the user who was signed in. -/
structure Save where
  user : String
  /-- The id of the new document. -/
  gameRef : String
  game : Game
deriving DecidableEq, Repr

/-- The collection `games`: the fields of each document. -/
abbrev GameCollection := Dict String Fields

/-- `saveGame`: a new document is created.  Who is signed in plays no part. -/
def saveGame (game : Game) (gameRef : String) (games : GameCollection) : GameCollection :=
  games.set gameRef (encodeGame { game with id := gameRef })

/-- One save, under an id that no document has. -/
def stepGames (games : GameCollection) (save : Save) : Option GameCollection :=
  if save.gameRef ∈ games.keys then none else some (saveGame save.game save.gameRef games)

/-- The documents of the collection, as `getDocuments` finds them in some order. -/
def allDocuments (games : GameCollection) : List Document :=
  games.entries.map fun entry ↦ ⟨entry.1, entry.2⟩

/-- `whereField(field, isEqualTo: value)`. -/
def whereField (field value : String) (documents : List Document) : List Document :=
  documents.filter fun document ↦
    decide ((document.fields.lookup field).bind FieldValue.string? = some value)

/-- The callback of `fetchGames`: an error, or the documents of the query. -/
def fetchGamesResult : Except String (List Document) → Except String (List Game)
  | .error error => .error error
  | .ok documents => .ok (documents.filterMap decodeGame)

/-- `fetchGames(userId:)`, when the documents can be read. -/
def fetchGames (userId : String) (games : GameCollection) : Except String (List Game) :=
  fetchGamesResult (.ok (whereField "userId" userId (allDocuments games)))

/-! ## Statistics -/

/-- `OverallStats`, in exact arithmetic. -/
structure OverallStats where
  totalGames : ℕ
  totalPoints : ℤ
  totalRebounds : ℤ
  totalAssists : ℤ
  totalSteals : ℤ
  totalBlocks : ℤ
  totalTurnovers : ℤ
  fieldGoalPercentage : ℚ
deriving DecidableEq

/-- The state of `StatsView`. -/
structure StatsView where
  games : List Game
  overallStats : Option OverallStats
deriving DecidableEq

/-- A view that has just been created. -/
def StatsView.new : StatsView where
  games := []
  overallStats := none

/-- The sum of a figure over games. -/
def total (figure : Game → ℤ) (games : List Game) : ℤ :=
  games.foldl (fun sum game ↦ sum + figure game) 0

/-- `calculateOverallStats`. -/
def calculateOverallStats (view : StatsView) : StatsView :=
  if view.games.isEmpty then view
  else
    let totalFGMade := total Game.personalFGMade view.games
    let totalFGAttempted := total Game.personalFGAttempted view.games
    { view with
      overallStats := some
        { totalGames := view.games.length
          totalPoints := total Game.personalPoints view.games
          totalRebounds := total Game.personalRebounds view.games
          totalAssists := total Game.personalAssists view.games
          totalSteals := total Game.personalSteals view.games
          totalBlocks := total Game.personalBlocks view.games
          totalTurnovers := total Game.personalTurnovers view.games
          fieldGoalPercentage :=
            if 0 < totalFGAttempted then (totalFGMade : ℚ) / totalFGAttempted * 100 else 0 } }

/-- The callback of `fetchGameStats`: an error, or all documents.  A document is decoded or
left out, as `decode` has it. -/
def fetchGameStats {Doc : Type u} (decode : Doc → Option Game) (view : StatsView) :
    Except String (List Doc) → StatsView
  | .error _ => view
  | .ok documents => calculateOverallStats { view with games := documents.filterMap decode }

/-- What `StatsView` has after a fetch of the collection, if it has just been created. -/
def statsViewOf (games : GameCollection) : StatsView :=
  fetchGameStats decodeGame .new (.ok (allDocuments games))

/-! ## Ownership -/

/-- The games which a user has saved, as they are read. -/
def gamesOf (user : String) (saves : List Save) : List Game :=
  (saves.filter fun save ↦ decide (save.user = user)).map fun save ↦
    save.game.withDocumentID save.gameRef

/-- Both screens show a user the games of that user: the query finds them, and the
statistics are those of these games. -/
structure OwnGames (user : String) (saves : List Save) (games : GameCollection) : Prop where
  fetched : ∃ found, fetchGames user games = .ok found ∧ found.Perm (gamesOf user saves)
  listed : (statsViewOf games).games.Perm (gamesOf user saves)
  stats : (statsViewOf games).overallStats =
    (calculateOverallStats { StatsView.new with games := gamesOf user saves }).overallStats

/-- The collection holds one document for each save. -/
def Recorded (saves : List Save) (games : GameCollection) : Prop :=
  allDocuments games = saves.map fun save ↦ ⟨save.gameRef, encodeGame save.game⟩

/-- What one save preserves. -/
theorem Recorded.step {saves : List Save} {games games' : GameCollection} {save : Save}
    (h : Recorded saves games) (hstep : stepGames games save = some games') :
    Recorded (saves ++ [save]) games' := by
  unfold stepGames at hstep
  split at hstep
  · cases hstep
  · next hfresh =>
      cases hstep
      unfold Recorded allDocuments saveGame at *
      rw [Dict.entries_set_of_notMem _ hfresh, List.map_append, h, List.map_append]
      rfl

section Screens

variable {saves : List Save} {games : GameCollection} {user : String}

/-- `fetchGames` finds nothing. -/
theorem Recorded.fetchGames_eq (h : Recorded saves games) : fetchGames user games = .ok [] := by
  have hnone : whereField "userId" user (allDocuments games) = [] := by
    rw [h, whereField, List.filter_eq_nil_iff]
    intro document hdocument
    obtain ⟨save, -, rfl⟩ := List.mem_map.mp hdocument
    simp [lookup_userId_encodeGame]
  rw [fetchGames, hnone]
  rfl

theorem games_calculateOverallStats (view : StatsView) :
    (calculateOverallStats view).games = view.games := by
  unfold calculateOverallStats
  split <;> rfl

/-- `StatsView` finds all games. -/
theorem Recorded.games_eq (h : Recorded saves games) :
    (statsViewOf games).games =
      saves.map fun save ↦ save.game.withDocumentID save.gameRef := by
  rw [statsViewOf, fetchGameStats, games_calculateOverallStats, h, List.filterMap_map]
  have hdecode : (decodeGame ∘ fun save : Save ↦ ⟨save.gameRef, encodeGame save.game⟩) =
      fun save ↦ some (save.game.withDocumentID save.gameRef) :=
    funext fun save ↦ decodeGame_encodeGame save.game save.gameRef
  rw [hdecode, List.filterMap_eq_map']

/-- The query is right exactly for a user who has saved nothing. -/
theorem Recorded.fetched_iff (h : Recorded saves games) :
    (∃ found, fetchGames user games = .ok found ∧ found.Perm (gamesOf user saves)) ↔
      ∀ save ∈ saves, save.user ≠ user := by
  rw [h.fetchGames_eq]
  constructor
  · rintro ⟨found, hfound, hperm⟩
    cases hfound
    have hnone := List.map_eq_nil_iff.mp hperm.nil_eq.symm
    intro save hsave
    simpa using List.filter_eq_nil_iff.mp hnone save hsave
  · intro hnone
    refine ⟨[], rfl, ?_⟩
    rw [gamesOf, List.filter_eq_nil_iff.mpr]
    · exact .nil
    · intro save hsave
      simpa using hnone save hsave

/-- The statistics are right exactly where nobody else has saved a game. -/
theorem Recorded.listed_iff (h : Recorded saves games) :
    (statsViewOf games).games.Perm (gamesOf user saves) ↔
      ∀ save ∈ saves, save.user = user := by
  rw [h.games_eq]
  constructor
  · intro hperm
    have hlength := hperm.length_eq
    rw [gamesOf, List.length_map, List.length_map] at hlength
    intro save hsave
    simpa using List.length_filter_eq_length_iff.mp hlength.symm save hsave
  · intro hall
    rw [gamesOf, List.filter_eq_self.mpr]
    intro save hsave
    simpa using hall save hsave

end Screens

/-! ## All histories -/

/-- **Own games.**  After every history of saves, both screens show a user the games of
that user if and only if no game has been saved at all. -/
theorem own_games_iff {saves : List Save} {games : GameCollection}
    (hexec : exec stepGames Dict.empty saves = some games) (user : String) :
    OwnGames user saves games ↔ saves = [] := by
  have hinit : Recorded [] (Dict.empty : GameCollection) := rfl
  have hrecorded : Recorded saves games :=
    exec_invariant hinit (fun _ _ _ _ h _ ↦ h.step) (.of_forall (fun _ _ ↦ trivial) _ _) hexec
  constructor
  · intro h
    have hother := hrecorded.fetched_iff.mp h.fetched
    have hown := hrecorded.listed_iff.mp h.listed
    exact List.eq_nil_iff_forall_not_mem.mpr fun save hsave ↦
      hother save hsave (hown save hsave)
  · rintro rfl
    refine ⟨hrecorded.fetched_iff.mpr fun _ hsave ↦ (nomatch hsave),
      hrecorded.listed_iff.mpr fun _ hsave ↦ (nomatch hsave), ?_⟩
    unfold Recorded at hrecorded
    rw [statsViewOf, hrecorded]
    rfl

/-! ## Sample histories -/

/-- A game in which one shot was made. -/
def sampleGame : Game where
  id := none
  win := true
  teamScore := 2
  opponentTeamScore := 0
  personalPoints := 2
  personalRebounds := 0
  personalAssists := 0
  personalSteals := 0
  personalBlocks := 0
  personalTurnovers := 0
  personalFGMade := 1
  personal3FGMade := 0
  personalFGAttempted := 1
  personal3FGAttempted := 0
  possessions := 1
  shots := []

/-- A history of one save. -/
def oneSave : List Save := [{ user := "kim", gameRef := "game0", game := sampleGame }]

/-- Before any game has been saved, and after the first one. -/
theorem own_games_iff_sample :
    OwnGames "kim" [] Dict.empty ∧
      ∃ games, exec stepGames Dict.empty oneSave = some games ∧ ¬ OwnGames "kim" oneSave games := by
  have hrun : (exec stepGames Dict.empty oneSave).isSome = true := by decide
  obtain ⟨games, hgames⟩ := Option.isSome_iff_exists.mp hrun
  refine ⟨(own_games_iff rfl "kim").mpr rfl, games, hgames, fun h ↦ ?_⟩
  have hnone : oneSave = [] := (own_games_iff hgames "kim").mp h
  cases hnone

/-- A user's only game is not found. -/
theorem own_games_iff_sample_fails :
    ¬ ∀ (saves : List Save) (games : GameCollection) (user : String),
      exec stepGames Dict.empty saves = some games → OwnGames user saves games := by
  intro h
  have hrun : (exec stepGames Dict.empty oneSave).map (fetchGames "kim") = some (.ok []) := rfl
  obtain ⟨games, hgames, hfetch⟩ := Option.map_eq_some_iff.mp hrun
  obtain ⟨found, hfound, hperm⟩ := (h oneSave games "kim" hgames).fetched
  obtain rfl : [] = found := Except.ok.inj (hfetch.symm.trans hfound)
  have hlength := hperm.length_eq
  exact absurd hlength (by decide)

end Courtside
