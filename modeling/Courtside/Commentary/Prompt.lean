import Courtside.Data.Rounding
import Courtside.Events.Shots

/-!
# Commentary prompts

`generate_commentary_prompt` turns the dictionary form of an event into a prompt, with one
branch for each event type.  It shares nothing with the producer of the events but the
strings for types and keys.

They fit: every event of the loop has its own branch and every key which that branch reads
(`commentaryLine_asdict`), and the players it names are those of the play.  They have all
been detected in one of two frames (`detected_of_mem_named`).  Only a shot can name
`None`: its event carries the possession of its frame, whether there is one or not.
-/

namespace Courtside

/-! ## Formatting -/

/-- `f"{x:.2f}"`, in exact arithmetic. -/
def formatTwoDecimals (x : ℚ) : String :=
  let hundredths := (roundHalfEven (|x| * 100)).toNat
  (if x < 0 then "-" else "") ++ toString (hundredths / 100) ++ "." ++
    toString (hundredths % 100 / 10) ++ toString (hundredths % 10)

example : formatTwoDecimals (21 / 4) = "5.25" := by decide +kernel
example : formatTwoDecimals (1 / 30) = "0.03" := by decide +kernel

/-! ## Events as dictionaries -/

/-- A value of a details dictionary. -/
inductive PyValue where
  | none
  | int (value : ℤ)
  | str (value : String)
deriving DecidableEq, Repr

/-- `str(value)`. -/
def PyValue.format : PyValue → String
  | none => "None"
  | int value => toString value
  | str value => value

/-- A user id, or `None`. -/
def PyValue.ofUserId : Option ℤ → PyValue
  | some userId => int userId
  | Option.none => none

/-- The dictionary form of an event. -/
structure EventDict where
  eventType : String
  time : ℚ
  details : List (String × PyValue)
deriving DecidableEq

/-- The string of an event type. -/
def EventType.name : EventType → String
  | pass => "pass"
  | shot => "shot"
  | turnover => "turnover"
  | steal => "steal"
  | dribble => "dribble"
  | other name => name

/-- The keys that are there, with their values. -/
def EventDetails.toList (details : EventDetails) : List (String × PyValue) :=
  [("possession", details.possession.map PyValue.ofUserId),
    ("result", details.result.map PyValue.str),
    ("from", details.fromPlayer.map PyValue.ofUserId),
    ("to", details.toPlayer.map PyValue.ofUserId),
    ("lost_by", details.lostBy.map PyValue.ofUserId),
    ("gained_by", details.gainedBy.map PyValue.ofUserId),
    ("player", details.player.map PyValue.ofUserId)].filterMap fun entry ↦
      entry.2.map fun value ↦ (entry.1, value)

/-- `asdict(event)`. -/
def asdict (event : GameEvent) : EventDict where
  eventType := event.eventType.name
  time := event.time
  details := event.details.toList

/-! ## Prompts -/

/-- The exception of a missing key. -/
structure KeyError where
  key : String
deriving DecidableEq, Repr

/-- A piece of a line. -/
inductive Piece where
  | text (content : String)
  | time (seconds : ℚ)
  /-- Where a player is named. -/
  | player (name : PyValue)
  | value (content : PyValue)
deriving DecidableEq

def Piece.format : Piece → String
  | text content => content
  | time seconds => formatTwoDecimals seconds ++ "s"
  | player name => name.format
  | value content => content.format

/-- `details[key]`. -/
def subscript (details : List (String × PyValue)) (key : String) : Except KeyError PyValue :=
  match details.lookup key with
  | some value => .ok value
  | none => .error { key }

/-- The branch which an event takes; `none` is the fallback. -/
def commentaryBranch (etype : String) : Option EventType :=
  if etype = "pass" then some .pass
  else if etype = "shot" then some .shot
  else if etype = "turnover" then some .turnover
  else if etype = "steal" then some .steal
  else if etype = "dribble" then some .dribble
  else none

/-- The line about the event in `generate_commentary_prompt`. -/
def commentaryLine (event : EventDict) : Except KeyError (List Piece) := do
  let details := event.details
  match commentaryBranch event.eventType with
  | some .pass =>
      let fromPlayer ← subscript details "from"
      let toPlayer ← subscript details "to"
      return [.text "At ", .time event.time, .text ", a slick pass is executed from player ",
        .player fromPlayer, .text " to player ", .player toPlayer, .text ", igniting the momentum."]
  | some .shot =>
      let possession ← subscript details "possession"
      let result := (details.lookup "result").getD (.str "undecided")
      return [.text "At ", .time event.time, .text ", player ", .player possession,
        .text " takes a daring shot that is ", .value result, .text "!"]
  | some .turnover =>
      let lostBy ← subscript details "lost_by"
      return [.text "At ", .time event.time, .text ", player ", .player lostBy,
        .text " loses control, resulting in a turnover."]
  | some .steal =>
      let gainedBy ← subscript details "gained_by"
      return [.text "At ", .time event.time, .text ", an electrifying steal by player ",
        .player gainedBy, .text " shifts the tide!"]
  | some .dribble =>
      let player ← subscript details "player"
      return [.text "At ", .time event.time, .text ", player ", .player player,
        .text " displays masterful dribbling skills."]
  | _ =>
      return [.text "At ", .time event.time, .text ", an event of type '", .text event.eventType,
        .text "' occurs."]

/-- `generate_commentary_prompt`. -/
def generateCommentaryPrompt (event : EventDict) : Except KeyError String := do
  let line ← commentaryLine event
  return "You are an expert sports commentator known for vivid and punchy commentary. " ++
    "Provide a concise and exciting commentary for the following event:\n\n" ++
    String.join (line.map Piece.format) ++ "\n"

/-- The players whom a line names. -/
def namedPlayers (line : List Piece) : List PyValue :=
  line.filterMap fun
    | .player name => some name
    | _ => none

/-! ## Narration -/

/-- The players of a play. -/
def Play.named : Play → List (Option ℤ)
  | shot possession => [possession]
  | pass fromPlayer toPlayer => [some fromPlayer, some toPlayer]
  | turnover lostBy => [some lostBy]
  | steal gainedBy => [some gainedBy]
  | dribble player => [some player]

/-- **Branches and keys.**  The event of a play takes its own branch, finds its keys there
and names the players of the play. -/
theorem commentaryLine_asdict (time : ℚ) (play : Play) :
    commentaryBranch (asdict (play.toGameEvent time)).eventType =
        some (play.toGameEvent time).eventType ∧
      ∃ line, commentaryLine (asdict (play.toGameEvent time)) = .ok line ∧
        namedPlayers line = play.named.map PyValue.ofUserId := by
  cases play with
  | shot possession => exact ⟨rfl, _, rfl, rfl⟩
  | pass fromPlayer toPlayer => exact ⟨rfl, _, rfl, rfl⟩
  | turnover lostBy => exact ⟨rfl, _, rfl, rfl⟩
  | steal gainedBy => exact ⟨rfl, _, rfl, rfl⟩
  | dribble player => exact ⟨rfl, _, rfl, rfl⟩

/-- A player with this id is detected in a frame. -/
def DetectedAt (frames : List FrameDict) (k : ℕ) (userId : ℤ) : Prop :=
  ∃ frame player, frames[k]? = some frame ∧ player ∈ frame.userId.getD [] ∧
    player.userId = some userId

/-- The event of a frame is narrated as it should be: in its own branch, and by the names
of players who were detected in that frame or the one before. -/
def Narrated (frames : List FrameDict) (i : ℕ) (event : GameEvent) : Prop :=
  commentaryBranch (asdict event).eventType = some event.eventType ∧
    ∃ line, commentaryLine (asdict event) = .ok line ∧
      ∀ name ∈ namedPlayers line, ∃ userId, name = .int userId ∧
        (DetectedAt frames i userId ∨ DetectedAt frames (i - 1) userId)

/-- Who has possession has been detected. -/
theorem mem_players_of_determinePossession {detections : FrameDetections} {userId : ℤ}
    (h : determinePossession detections = some userId) :
    ∃ player ∈ detections.players, player.userId = some userId := by
  obtain ⟨player, hfound, huser⟩ := Option.bind_eq_some_iff.mp h
  obtain ⟨ball, -, hnear⟩ := List.exists_of_findSome?_eq_some hfound
  exact ⟨player, List.mem_of_find?_eq_some hnear, huser⟩

theorem detectedAt_of_possessionAt {frames : List FrameDict} {k : ℕ} {userId : ℤ}
    (h : possessionAt frames k = some userId) : DetectedAt frames k userId := by
  cases hframe : frames[k]? with
  | none =>
      rw [possessionAt, stateAt, hframe] at h
      cases h
  | some frame =>
      rw [possessionAt, stateAt_of_getElem? hframe] at h
      obtain ⟨player, hplayer, huser⟩ := mem_players_of_determinePossession h
      obtain ⟨entry, hentry, rfl⟩ := List.mem_map.mp hplayer
      exact ⟨frame, entry, hframe, hentry, huser⟩

section Happens

variable {frames : List FrameDict} {w i : ℕ} {play : Play}

/-- The players of a play have been detected in its frame or the one before. -/
theorem detected_of_mem_named (h : Happens frames w i play) {userId : ℤ}
    (hnamed : some userId ∈ play.named) :
    DetectedAt frames i userId ∨ DetectedAt frames (i - 1) userId := by
  cases play with
  | shot possession =>
      obtain rfl := List.mem_singleton.mp hnamed
      exact .inl (detectedAt_of_possessionAt h.2)
  | pass fromPlayer toPlayer =>
      obtain ⟨-, hfrom, hto, -⟩ := h
      rcases List.mem_cons.mp hnamed with heq | hnamed
      · cases heq
        exact .inr (detectedAt_of_possessionAt hfrom)
      · cases List.mem_singleton.mp hnamed
        exact .inl (detectedAt_of_possessionAt hto)
  | turnover lostBy =>
      cases List.mem_singleton.mp hnamed
      exact .inr (detectedAt_of_possessionAt h.2.1)
  | steal gainedBy =>
      cases List.mem_singleton.mp hnamed
      exact .inl (detectedAt_of_possessionAt h.2.2)
  | dribble player =>
      cases List.mem_singleton.mp hnamed
      exact .inl (detectedAt_of_possessionAt h.2.2.1)

/-- A play is narrated as it should be exactly if it names somebody each time. -/
theorem narrated_iff (h : Happens frames w i play) (time : ℚ) :
    Narrated frames i (play.toGameEvent time) ↔ none ∉ play.named := by
  obtain ⟨hbranch, line, hline, hplayers⟩ := commentaryLine_asdict time play
  constructor
  · rintro ⟨-, line', hline', hnames⟩ hnone
    obtain rfl : line = line' := Except.ok.inj (hline.symm.trans hline')
    have hmem : PyValue.none ∈ namedPlayers line := by
      rw [hplayers]
      exact List.mem_map.mpr ⟨none, hnone, rfl⟩
    obtain ⟨userId, heq, -⟩ := hnames _ hmem
    cases heq
  · intro hnone
    refine ⟨hbranch, line, hline, fun name hname ↦ ?_⟩
    rw [hplayers] at hname
    obtain ⟨holder, hholder, rfl⟩ := List.mem_map.mp hname
    cases holder with
    | none => exact absurd hholder hnone
    | some userId => exact ⟨userId, rfl, detected_of_mem_named h hholder⟩

end Happens

/-! ## All events -/

/-- **Narration.**  Every event that is returned is narrated as it should be if and only if
somebody has possession of the ball at each frame at which a shot opens. -/
theorem processFrames_narrated_iff (frames : List FrameDict) {w : ℕ} (hw : 1 ≤ w)
    {frameRate : ℚ} (hr : frameRate ≠ 0) (playerStats : PlayerStatsDict) :
    ∃ events playerStats',
      processFramesWithSlidingWindow frames w frameRate playerStats = (.ok events, playerStats') ∧
      ((∀ event ∈ events, ∃ i, w ≤ i ∧ i < frames.length ∧ event.time = i / frameRate ∧
          Narrated frames i event) ↔
        ∀ i, w ≤ i → ShotOpens frames w i → possessionAt frames i ≠ none) := by
  refine ⟨_, _, processFramesWithSlidingWindow_eq frames hw hr playerStats, ?_, ?_⟩
  · intro h i hwi hopen hnone
    have hplay := playAt_of_shotOpens hopen
    have hmem : (Play.shot (possessionAt frames i)).toGameEvent (i / frameRate) ∈
        playEvents frames w frameRate :=
      mem_playEvents.mpr
        ⟨i, _, hwi, (opening_iff_shotOpens.mpr hopen).lt_length, hplay, rfl⟩
    obtain ⟨j, -, -, htime, hnarrated⟩ := h _ hmem
    -- an event has one frame
    obtain rfl : i = j := Nat.cast_injective ((div_left_inj' hr).mp htime)
    refine (narrated_iff (playAt_eq_some_iff.mp hplay) _).mp hnarrated ?_
    rw [hnone]
    exact List.mem_singleton_self _
  · intro h event hevent
    obtain ⟨i, play, hwi, hlt, hplay, rfl⟩ := mem_playEvents.mp hevent
    have hhappens := playAt_eq_some_iff.mp hplay
    refine ⟨i, hwi, hlt, Play.time_toGameEvent _ _, (narrated_iff hhappens _).mpr fun hnone ↦ ?_⟩
    cases play with
    | shot possession =>
        obtain rfl := List.mem_singleton.mp hnone
        exact h i hwi hhappens.1 hhappens.2
    | pass fromPlayer toPlayer => simp [Play.named] at hnone
    | turnover lostBy => simp [Play.named] at hnone
    | steal gainedBy => simp [Play.named] at hnone
    | dribble player => simp [Play.named] at hnone

theorem processFrames_narrated_iff_sample :
    ∃ events playerStats',
      processFramesWithSlidingWindow sampleFrames 1 30 Dict.empty = (.ok events, playerStats') ∧
      ((∀ event ∈ events, ∃ i, 1 ≤ i ∧ i < sampleFrames.length ∧ event.time = i / 30 ∧
          Narrated sampleFrames i event) ↔
        ∀ i, 1 ≤ i → ShotOpens sampleFrames 1 i → possessionAt sampleFrames i ≠ none) :=
  processFrames_narrated_iff sampleFrames (le_refl 1) (by norm_num) Dict.empty

/-- Nobody has the ball, and then it is at the rim. -/
def looseShot : List FrameDict := [⟨none, false⟩, ⟨none, true⟩].map FrameState.frame

/-- The shot is narrated as one by player `None`. -/
theorem processFrames_narrated_sample_fails :
    ¬ ∀ frames : List FrameDict,
      (∀ frame ∈ frames, ∀ player ∈ frame.userId.getD [], player.userId ≠ none) →
        ∀ events, (processFramesWithSlidingWindow frames 1 30 Dict.empty).1 = .ok events →
          ∀ event ∈ events, ∃ i, Narrated frames i event := by
  intro h
  have hids : ∀ frame ∈ looseShot, ∀ player ∈ frame.userId.getD [], player.userId ≠ none := by
    decide
  have hevents : (processFramesWithSlidingWindow looseShot 1 30 Dict.empty).1 =
      .ok [(Play.shot none).toGameEvent (1 / 30)] := by decide +kernel
  obtain ⟨i, -, line, hline, hnames⟩ :=
    h looseShot hids _ hevents _ (List.mem_singleton_self _)
  obtain ⟨-, line', hline', hplayers⟩ := commentaryLine_asdict (1 / 30) (.shot none)
  obtain rfl : line = line' := Except.ok.inj (hline.symm.trans hline')
  have hmem : PyValue.none ∈ namedPlayers line := by
    rw [hplayers]
    exact List.mem_singleton_self _
  obtain ⟨userId, heq, -⟩ := hnames _ hmem
  cases heq

end Courtside
