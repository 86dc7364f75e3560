import Courtside.Commentary.Prompt
import Courtside.Data.JsonPrefix
import Courtside.Events.Session

/-!
# Result files

What `process_video_and_generate_events` writes: the text of a JSON object with the events and
the statistics.  `Session` takes a file for the object that it holds, or for none if its
writing was cut short; here a file is its text, of which any part may have been written when
writing failed.

The two agree (`results_refine`): after any history of calls, reading the file at a path gives
the object that `Session` says is there, and nothing if it says there is none.  The ids of
players, which are integers in the dictionary, become strings in the file, and times become
floating-point numbers.
-/

universe u

namespace Courtside

/-! ## Numbers and members -/

/-- The floating-point numbers: what an exact time becomes, and which number it is then. -/
structure FloatNumbers (F : Type) extends FloatFormat F where
  ofRat : ℚ → F
  toRat : F → ℚ

namespace Json

variable {F : Type}

/-- `value[name]`.  Of members with the same name the last counts. -/
def member (name : String) : Json F → Option (Json F)
  | obj members => members.reverse.lookup name
  | _ => none

def str? : Json F → Option String
  | str value => some value
  | _ => none

def int? : Json F → Option ℤ
  | int value => some value
  | _ => none

def float? : Json F → Option F
  | float value => some value
  | _ => none

def items? : Json F → Option (List (Json F))
  | arr items => some items
  | _ => none

def members? : Json F → Option (List (String × Json F))
  | obj members => some members
  | _ => none

end Json

variable {F : Type} (floats : FloatNumbers F)

/-! ## Writing -/

def PyValue.toJson : PyValue → Json F
  | none => .null
  | int value => .int value
  | str value => .str value

def EventDict.toJson (event : EventDict) : Json F :=
  .obj [("event_type", .str event.eventType), ("time", .float (floats.ofRat event.time)),
    ("details", .obj (event.details.map fun entry ↦ (entry.1, entry.2.toJson)))]

/-- `asdict(stats)`, as it is written. -/
def PlayerStats.toJson (stats : PlayerStats) : Json F :=
  .obj [("player_id", .int stats.playerId), ("points", .int stats.points),
    ("steals", .int stats.steals), ("turnovers", .int stats.turnovers),
    ("assists", .int stats.assists), ("offensive_rebounds", .int stats.offensiveRebounds),
    ("defensive_rebounds", .int stats.defensiveRebounds)]

/-- `output` -/
def Output.toJson (output : Output) : Json F :=
  .obj [("game_events", .arr (output.gameEvents.map fun event ↦ (asdict event).toJson floats)),
    ("player_stats", .obj (output.playerStats.entries.map fun entry ↦
      (toString entry.1, entry.2.toJson)))]

/-- What is written to the file. -/
def resultsText (output : Output) : List Char :=
  (output.toJson floats).dump floats.toFloatFormat 0

/-! ## Reading -/

/-- The contents of a file. -/
structure Results where
  gameEvents : List EventDict
  playerStats : List (ℤ × PlayerStats)
deriving DecidableEq

def PyValue.ofJson : Json F → Option PyValue
  | .null => some none
  | .int value => some (int value)
  | .str value => some (str value)
  | _ => Option.none

def EventDict.ofJson (json : Json F) : Option EventDict := do
  let eventType ← (← json.member "event_type").str?
  let time ← (← json.member "time").float?
  let members ← (← json.member "details").members?
  let details ← members.mapM fun entry ↦ (PyValue.ofJson entry.2).map fun value ↦ (entry.1, value)
  return { eventType, time := floats.toRat time, details }

def PlayerStats.ofJson (json : Json F) : Option PlayerStats := do
  let playerId ← (← json.member "player_id").int?
  let points ← (← json.member "points").int?
  let steals ← (← json.member "steals").int?
  let turnovers ← (← json.member "turnovers").int?
  let assists ← (← json.member "assists").int?
  let offensiveRebounds ← (← json.member "offensive_rebounds").int?
  let defensiveRebounds ← (← json.member "defensive_rebounds").int?
  return { playerId, points, steals, turnovers, assists, offensiveRebounds, defensiveRebounds }

/-- `int(key)` -/
def readPlayerId (key : String) : Option ℤ :=
  if isIntToken key.toList then some (readInt key.toList) else none

def Results.ofJson (json : Json F) : Option Results := do
  let items ← (← json.member "game_events").items?
  let gameEvents ← items.mapM (EventDict.ofJson floats)
  let members ← (← json.member "player_stats").members?
  let playerStats ← members.mapM fun entry ↦ do
    let playerId ← readPlayerId entry.1
    let stats ← PlayerStats.ofJson entry.2
    return (playerId, stats)
  return { gameEvents, playerStats }

/-- The results in a file. -/
def readResults (text : List Char) : Option Results :=
  (loads floats.toFloatFormat text).bind (Results.ofJson floats)

/-- An event with the time that it has in a file. -/
def EventDict.recorded (event : EventDict) : EventDict :=
  { event with time := floats.toRat (floats.ofRat event.time) }

/-- The results which an object is. -/
def Output.results (output : Output) : Results where
  gameEvents := output.gameEvents.map fun event ↦ (asdict event).recorded floats
  playerStats := output.playerStats.entries

/-! ## Reading what was written -/

theorem mapM_map_of_forall {α β γ : Type*} {f : β → Option γ} {g : α → β} {h : α → γ}
    (hfg : ∀ a, f (g a) = some (h a)) (as : List α) : (as.map g).mapM f = some (as.map h) := by
  induction as with
  | nil => rfl
  | cons a as ih => rw [List.map_cons, List.mapM_cons, hfg, ih]; rfl

theorem PyValue.ofJson_toJson (value : PyValue) : PyValue.ofJson (value.toJson (F := F)) =
    some value := by
  cases value <;> rfl

theorem EventDict.ofJson_toJson (event : EventDict) :
    EventDict.ofJson floats (event.toJson floats) = some (event.recorded floats) := by
  have heventType : (event.toJson floats).member "event_type" = some (.str event.eventType) := rfl
  have htime : (event.toJson floats).member "time" = some (.float (floats.ofRat event.time)) := rfl
  have hmembers : (event.toJson floats).member "details" =
      some (.obj (event.details.map fun entry ↦ (entry.1, entry.2.toJson))) := rfl
  have hdetails := mapM_map_of_forall
    (f := fun entry : String × Json F ↦ (PyValue.ofJson entry.2).map fun value ↦ (entry.1, value))
    (g := fun entry : String × PyValue ↦ (entry.1, entry.2.toJson)) (h := id)
    (fun entry ↦ by rw [PyValue.ofJson_toJson]; rfl) event.details
  simp only [EventDict.ofJson, heventType, htime, hmembers, Json.str?, Json.float?, Json.members?,
    Option.bind_eq_bind, Option.bind_some, hdetails, List.map_id, Option.pure_def,
    EventDict.recorded]

theorem PlayerStats.ofJson_toJson (stats : PlayerStats) :
    PlayerStats.ofJson (stats.toJson (F := F)) = some stats := rfl

/-- The id of a player is read back from its string, so no two players share one. -/
theorem readPlayerId_toString (playerId : ℤ) :
    readPlayerId (toString playerId) = some playerId := by
  obtain ⟨htoken, hread⟩ := readInt_toString playerId
  rw [readPlayerId, if_pos htoken, hread]

/-- The object is read back. -/
theorem Results.ofJson_toJson (output : Output) :
    Results.ofJson floats (output.toJson floats) = some (output.results floats) := by
  have hitems : (output.toJson floats).member "game_events" =
      some (.arr (output.gameEvents.map fun event ↦ (asdict event).toJson floats)) := rfl
  have hmembers : (output.toJson floats).member "player_stats" =
      some (.obj (output.playerStats.entries.map fun entry ↦
        (toString entry.1, entry.2.toJson))) := rfl
  have hevents := mapM_map_of_forall (f := EventDict.ofJson floats)
    (fun event : GameEvent ↦ EventDict.ofJson_toJson floats (asdict event)) output.gameEvents
  have hstats := mapM_map_of_forall
    (f := fun entry : String × Json F ↦ do
      let playerId ← readPlayerId entry.1
      let stats ← PlayerStats.ofJson entry.2
      return (playerId, stats))
    (g := fun entry : ℤ × PlayerStats ↦ (toString entry.1, entry.2.toJson)) (h := id)
    (fun entry ↦ by
      simp only [readPlayerId_toString, PlayerStats.ofJson_toJson, Option.bind_eq_bind,
        Option.bind_some, Option.pure_def, id]) output.playerStats.entries
  simp only [Option.bind_eq_bind, Option.pure_def] at hstats
  simp only [Results.ofJson, hitems, hmembers, Json.items?, Json.members?, Option.bind_eq_bind,
    Option.bind_some, hevents, hstats, List.map_id, Option.pure_def, Output.results]

/-- **Whole files.**  What has been written is read back. -/
theorem readResults_resultsText (output : Output) :
    readResults floats (resultsText floats output) = some (output.results floats) := by
  rw [readResults, resultsText, loads_dump, Option.bind_some, Results.ofJson_toJson]

/-- **Files that are cut short.**  Nothing is read from a part of the text. -/
theorem readResults_take (output : Output) (chars : ℕ) :
    readResults floats ((resultsText floats output).dropLast.take chars) = none := by
  have hne : resultsText floats output ≠ [] := by
    obtain ⟨c, cs, hcons, -⟩ := head_dump floats.toFloatFormat 0 (output.toJson floats)
    rw [resultsText, hcons]
    exact List.cons_ne_nil _ _
  have hprefix := (List.take_prefix chars (resultsText floats output).dropLast).trans
    (List.dropLast_prefix _)
  have hcut : (resultsText floats output).dropLast.take chars ≠ resultsText floats output := by
    intro heq
    have hlength := congrArg List.length heq
    have hpos := List.length_pos_iff.mpr hne
    rw [List.length_take, List.length_dropLast] at hlength
    omega
  have hvalue : (output.toJson floats).isNumber = false := rfl
  rw [readResults, loads_of_isPrefix floats.toFloatFormat hvalue hprefix hcut, Option.bind_none]

/-! ## Calls, with texts -/

/-- The global dictionary and the texts of the files. -/
structure TextProcess where
  playerStats : PlayerStatsDict
  files : Dict String (List Char)

variable {Image : Type u} (detector : Detector Image)

/-- `process_video_and_generate_events`; `chars` is how much of the text can be written if
writing fails. -/
def processVideoAndWriteText (call : Call Image) (chars : ℕ) (process : TextProcess) :
    Except CallError Unit × TextProcess :=
  match processFramesWithSlidingWindow (processVideo detector call.video) call.windowSize
      call.frameRate process.playerStats with
  | (.error e, playerStats) => (.error (.raised e), { process with playerStats })
  | (.ok events, playerStats) =>
      let text := resultsText floats { gameEvents := events, playerStats }
      match call.write with
      | .written =>
          (.ok (), { playerStats, files := process.files.set call.outputJsonPath text })
      | .openFails => (.error .writeFailed, { process with playerStats })
      | .dumpFails =>
          (.error .writeFailed,
            { playerStats
              files := process.files.set call.outputJsonPath (text.dropLast.take chars) })

/-- A history of calls. -/
def runTextCalls (calls : List (Call Image × ℕ)) (process : TextProcess) : TextProcess :=
  calls.foldl
    (fun process call ↦ (processVideoAndWriteText floats detector call.1 call.2 process).2) process

/-- The files hold what the objects are. -/
structure Refines (text : TextProcess) (process : Process) : Prop where
  playerStats : text.playerStats = process.playerStats
  files : ∀ path, (text.files.get? path).map (readResults floats) =
    (process.files.get? path).map (Option.map (Output.results floats))

/-- A file is replaced by one that holds what the object is. -/
theorem Refines.set {text : TextProcess} {process : Process} (h : Refines floats text process)
    (playerStats : PlayerStatsDict) (path : String) {chars : List Char} {output : Option Output}
    (hread : readResults floats chars = output.map (Output.results floats)) :
    Refines floats { playerStats, files := text.files.set path chars }
      { playerStats, files := process.files.set path output } where
  playerStats := rfl
  files := by
    intro path'
    dsimp only
    rw [Dict.get?_set, Dict.get?_set]
    split
    · rw [Option.map_some, Option.map_some, hread]
    · exact h.files path'

/-- One call: both have the same outcome, and the files go on to hold what the objects are. -/
theorem refines_processVideoAndWriteText {text : TextProcess} {process : Process}
    (h : Refines floats text process) (call : Call Image) (chars : ℕ) :
    (processVideoAndWriteText floats detector call chars text).1 =
        (processVideoAndGenerateEvents detector call process).1 ∧
      Refines floats (processVideoAndWriteText floats detector call chars text).2
        (processVideoAndGenerateEvents detector call process).2 := by
  rw [processVideoAndWriteText, processVideoAndGenerateEvents, h.playerStats]
  rcases processFramesWithSlidingWindow (processVideo detector call.video) call.windowSize
    call.frameRate process.playerStats with ⟨e | events, playerStats⟩
  · exact ⟨rfl, rfl, h.files⟩
  dsimp only
  cases call.write with
  | written => exact ⟨rfl, h.set floats _ _ (readResults_resultsText floats _)⟩
  | openFails => exact ⟨rfl, rfl, h.files⟩
  | dumpFails => exact ⟨rfl, h.set floats _ _ (readResults_take floats _ chars)⟩

/-- So does every history. -/
theorem refines_runTextCalls {text : TextProcess} {process : Process}
    (h : Refines floats text process) (calls : List (Call Image × ℕ)) :
    Refines floats (runTextCalls floats detector calls text)
      (runCalls detector (calls.map Prod.fst) process) := by
  induction calls generalizing text process with
  | nil => exact h
  | cons call calls ih =>
      exact ih (refines_processVideoAndWriteText floats detector h call.1 call.2).2

/-- **Refinement.**  After any history of calls, in which writing may fail after any part of
the text, reading the file at a path gives the events and the statistics that are there, and
nothing if the last writing of the file failed. -/
theorem results_refine (calls : List (Call Image × ℕ)) (path : String) :
    ((runTextCalls floats detector calls ⟨Dict.empty, Dict.empty⟩).files.get? path).map
        (readResults floats) =
      ((runCalls detector (calls.map Prod.fst) ⟨Dict.empty, Dict.empty⟩).files.get? path).map
        (Option.map (Output.results floats)) :=
  (refines_runTextCalls floats detector ⟨rfl, fun _ ↦ rfl⟩ calls).files path

/-! ## Samples -/

theorem isFloatToken_append {token : List Char} (h : isIntToken token = true) :
    isFloatToken (token ++ ".0".toList) = true := by
  have hsign := isSignOrDigit_of_isIntToken h
  rw [isFloatToken, List.takeWhile_append_of_pos hsign, List.dropWhile_append_of_pos hsign,
    show ".0".toList.takeWhile isSignOrDigit = [] from rfl, List.append_nil, h]
  rfl

/-- The integers among the floating-point numbers. -/
def sampleFloats : FloatNumbers ℤ where
  repr value := (toString value).toList ++ ".0".toList
  read token := some (readInt token.dropLast.dropLast)
  isFloatToken_repr value := isFloatToken_append (readInt_toString value).1
  read_repr value := by
    have hdrop : ((toString value).toList ++ ".0".toList).dropLast.dropLast =
        (toString value).toList := by
      rw [show ".0".toList = ['.'] ++ ['0'] from rfl, ← List.append_assoc, List.dropLast_concat,
        List.dropLast_concat]
    rw [hdrop, (readInt_toString value).2]
  ofRat time := time.floor
  toRat value := value

/-- A file with a turnover. -/
example :
    String.ofList (resultsText sampleFloats
      { gameEvents := [(Play.turnover 7).toGameEvent 1]
        playerStats := Dict.empty }) =
      "\x7b\n    \"game_events\": [\n" ++
      "        \x7b\n            \"event_type\": \"turnover\",\n" ++
      "            \"time\": 1.0,\n" ++
      "            \"details\": \x7b\n                \"lost_by\": 7\n" ++
      "            \x7d\n        \x7d\n    ],\n" ++
      "    \"player_stats\": \x7b\x7d\n\x7d" := by
  decide +kernel

end Courtside
