import Courtside.Events.Basic

/-!
# Plays: what the event loop is for

The loop sees windows and aggregates; a reader of its output sees a game.  This
file states what the game is: a sequence of *plays*, each determined by the
frames alone.  `playAt frames w i` is the play at frame `i`, read off three
frames and the shot flags of the `w` frames before `i`; there is no window, no
aggregate and no previous state in it.

`Play` also replaces the details dictionary of an event by data of the right
shape: a pass has two players, a turnover one.  `Play.toGameEvent` gives the
event such a play is written down as.
-/

namespace Courtside

open SlidingWindow

/-- What can happen at a frame. -/
inductive Play where
  /-- A shot goes up; the ball may be nobody's by then. -/
  | shot (possession : Option ℤ)
  | pass (fromPlayer toPlayer : ℤ)
  | turnover (lostBy : ℤ)
  | steal (gainedBy : ℤ)
  | dribble (player : ℤ)
deriving DecidableEq, Repr

/-- The event a play is recorded as. -/
def Play.toGameEvent (time : ℚ) : Play → GameEvent
  | .shot possession =>
      { eventType := .shot, time,
        details := { possession := some possession, result := some "Undecided" } }
  | .pass fromPlayer toPlayer =>
      { eventType := .pass, time,
        details := { fromPlayer := some (some fromPlayer), toPlayer := some (some toPlayer) } }
  | .turnover lostBy =>
      { eventType := .turnover, time, details := { lostBy := some (some lostBy) } }
  | .steal gainedBy =>
      { eventType := .steal, time, details := { gainedBy := some (some gainedBy) } }
  | .dribble player =>
      { eventType := .dribble, time, details := { player := some (some player) } }

@[simp] theorem Play.time_toGameEvent (time : ℚ) (play : Play) :
    (play.toGameEvent time).time = time := by cases play <;> rfl

/-! ## The frame history -/

/-- The state of frame `k`; beyond the last frame, nobody's ball and no shot. -/
def stateAt (frames : List FrameDict) (k : ℕ) : FrameState :=
  (frames[k]?.map getFrameState).getD { possession := none, shot := false }

theorem stateAt_of_getElem? {frames : List FrameDict} {k : ℕ} {frame : FrameDict}
    (h : frames[k]? = some frame) : stateAt frames k = getFrameState frame := by
  rw [stateAt, h]
  rfl

/-- The possession of frame `k`. -/
def possessionAt (frames : List FrameDict) (k : ℕ) : Option ℤ := (stateAt frames k).possession

/-- Frame `k` has a shot. -/
def ShotAt (frames : List FrameDict) (k : ℕ) : Prop := (stateAt frames k).shot = true

instance (frames : List FrameDict) : DecidablePred (ShotAt frames) := fun k ↦
  inferInstanceAs (Decidable ((stateAt frames k).shot = true))

/-- A shot opens at frame `i`: there is one at `i` and none at the `w` frames
before. -/
def ShotOpens (frames : List FrameDict) (w i : ℕ) : Prop :=
  ShotAt frames i ∧ ¬Within (ShotAt frames) (i - w) i

/-- A shot leaves the window at frame `i`: there was one `w` frames before and none
since. -/
def ShotCloses (frames : List FrameDict) (w i : ℕ) : Prop :=
  ShotAt frames (i - w) ∧ ¬Within (ShotAt frames) (i + 1 - w) (i + 1)

instance (frames : List FrameDict) (w i : ℕ) : Decidable (ShotOpens frames w i) :=
  inferInstanceAs (Decidable (_ ∧ _))

instance (frames : List FrameDict) (w i : ℕ) : Decidable (ShotCloses frames w i) :=
  inferInstanceAs (Decidable (_ ∧ _))

/-- The play at frame `i`. -/
def playAt (frames : List FrameDict) (w i : ℕ) : Option Play :=
  if ShotOpens frames w i then some (.shot (possessionAt frames i))
  else
    match possessionAt frames (i - 1), possessionAt frames i with
    | some a, some b =>
        if a ≠ b then some (.pass a b)
        else if ShotCloses frames w i then some (.dribble b) else none
    | some a, none => some (.turnover a)
    | none, some b => some (.steal b)
    | none, none => none

/-- The events of a list of frames, in the order of their frames. -/
def playEvents (frames : List FrameDict) (w : ℕ) (frameRate : ℚ) : List GameEvent :=
  (List.range' w (frames.length - w)).filterMap fun i ↦
    (playAt frames w i).map (Play.toGameEvent (i / frameRate))

/-- Three frames: player `7` has the ball, nobody has it, player `8` has it and shoots. -/
def sampleFrames : List FrameDict :=
  [⟨some 7, false⟩, ⟨none, false⟩, ⟨some 8, true⟩].map FrameState.frame

/-! ## Reading plays off the frames -/

theorem playAt_of_shotOpens {frames : List FrameDict} {w i : ℕ} (h : ShotOpens frames w i) :
    playAt frames w i = some (.shot (possessionAt frames i)) := if_pos h

/-- The declarative reading of a play: when it happens at frame `i`. -/
def Happens (frames : List FrameDict) (w i : ℕ) : Play → Prop
  | .shot possession => ShotOpens frames w i ∧ possessionAt frames i = possession
  | .pass a b => ¬ShotOpens frames w i ∧
      possessionAt frames (i - 1) = some a ∧ possessionAt frames i = some b ∧ a ≠ b
  | .turnover a => ¬ShotOpens frames w i ∧
      possessionAt frames (i - 1) = some a ∧ possessionAt frames i = none
  | .steal b => ¬ShotOpens frames w i ∧
      possessionAt frames (i - 1) = none ∧ possessionAt frames i = some b
  | .dribble b => ¬ShotOpens frames w i ∧
      possessionAt frames (i - 1) = some b ∧ possessionAt frames i = some b ∧
        ShotCloses frames w i

/-- `playAt` decides which play happens. -/
theorem playAt_eq_some_iff {frames : List FrameDict} {w i : ℕ} {play : Play} :
    playAt frames w i = some play ↔ Happens frames w i play := by
  by_cases hopen : ShotOpens frames w i
  · rw [playAt_of_shotOpens hopen]
    cases play <;> simp [Happens, hopen]
  · rw [playAt, if_neg hopen]
    cases hp : possessionAt frames (i - 1) with
    | none => cases hc : possessionAt frames i <;> cases play <;> simp [Happens, hopen, hp, hc]
    | some a =>
        cases hc : possessionAt frames i with
        | none => cases play <;> simp [Happens, hopen, hp, hc]
        | some b =>
            -- the same holder only dribbles, and only as a shot leaves the window
            by_cases hab : a = b
            · subst hab
              by_cases hclose : ShotCloses frames w i <;> cases play <;>
                simp [Happens, hopen, hp, hc, hclose] <;> grind
            · cases play <;> simp [Happens, hopen, hp, hc, hab] <;> grind

/-- Membership in the events: one frame, its play, and its time. -/
theorem mem_playEvents {frames : List FrameDict} {w : ℕ} {frameRate : ℚ} {event : GameEvent} :
    event ∈ playEvents frames w frameRate ↔
      ∃ i play, w ≤ i ∧ i < frames.length ∧ playAt frames w i = some play ∧
        play.toGameEvent (i / frameRate) = event := by
  simp only [playEvents, List.mem_filterMap, List.mem_range'_1, Option.map_eq_some_iff]
  constructor
  · rintro ⟨i, ⟨hlo, hhi⟩, play, hplay, rfl⟩
    exact ⟨i, play, hlo, by omega, hplay, rfl⟩
  · rintro ⟨i, play, hlo, hhi, hplay, rfl⟩
    exact ⟨i, ⟨hlo, by omega⟩, play, hplay, rfl⟩

end Courtside
