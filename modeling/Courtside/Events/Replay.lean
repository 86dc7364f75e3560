import Courtside.Events.Refinement

/-!
# Replaying the ball

Whoever reads the events can follow the ball: a pass moves it to its receiver, a
turnover leaves it with nobody, a steal gives it to somebody.  A replay checks
that every event finds the holder it names.

A step of the loop returns one event, and a shot takes precedence.  If a shot
opens just as the ball changes hands, the change has no event of its own, and a
replay which ignores shots loses the ball there
(`processFrames_replay_sample_fails`).  The change is not lost from the list,
though: the shot carries the possession at its frame.  A replay which reads it
there is exact on every list of frames, and one which ignores shots is exact
whenever no shot opens during a change.  Both are `processFrames_replay`, and
both come from one step lemma, `replay_eventAt`.
-/

namespace Courtside

/-! ## Replays -/

/-- One event of a replay: the holder after it, or nothing if the event does not
find the holder it names.  `readShots` says whether a shot hands the ball to its
`possession` or leaves the holder alone. -/
def replayEvent (readShots : Bool) (holder : Option ℤ) (event : GameEvent) : Option (Option ℤ) :=
  match event.eventType with
  | .pass => if event.details.fromPlayer = some holder then event.details.toPlayer else none
  | .turnover => if event.details.lostBy = some holder then some none else none
  | .steal => if holder = none then event.details.gainedBy else none
  | .shot => if readShots then event.details.possession else some holder
  | .dribble | .other _ => some holder

/-- A replay of a list of events from a given holder. -/
def replay (readShots : Bool) (holder : Option ℤ) (events : List GameEvent) : Option (Option ℤ) :=
  events.foldlM (replayEvent readShots) holder

theorem replay_append (readShots : Bool) (holder : Option ℤ) (events₁ events₂ : List GameEvent) :
    replay readShots holder (events₁ ++ events₂) =
      (replay readShots holder events₁).bind fun holder ↦ replay readShots holder events₂ :=
  List.foldlM_append

/-- The number of turnovers among the events. -/
def turnoverCount (events : List GameEvent) : ℕ :=
  events.countP fun event ↦ event.eventType = .turnover

/-- The number of steals among the events. -/
def stealCount (events : List GameEvent) : ℕ :=
  events.countP fun event ↦ event.eventType = .steal

/-- Following the ball through the events without looking at shots ends at the
possession of the last frame, and turnovers and steals alternate in number. -/
def PossessionReplayed (frames : List FrameDict) (w : ℕ) (events : List GameEvent) : Prop :=
  replay false (possessionAt frames (w - 1)) events =
      some (possessionAt frames (frames.length - 1)) ∧
    turnoverCount events ≤ stealCount events + 1 ∧ stealCount events ≤ turnoverCount events + 1

/-! ## One frame -/

section

variable (frames : List FrameDict) (w : ℕ) (frameRate : ℚ)

/-- The event of frame `i`, if there is one. -/
def eventAt (i : ℕ) : Option GameEvent :=
  (playAt frames w i).map (Play.toGameEvent (i / frameRate))

/-- The events of the first `m` frames after the warm-up. -/
def eventsUpTo (m : ℕ) : List GameEvent :=
  (List.range' w m).filterMap (eventAt frames w frameRate)

theorem eventsUpTo_succ (m : ℕ) :
    eventsUpTo frames w frameRate (m + 1) =
      eventsUpTo frames w frameRate m ++ (eventAt frames w frameRate (w + m)).toList := by
  rw [eventsUpTo, List.range'_concat, List.filterMap_append, mul_comm 1 m, mul_one,
    List.filterMap_cons, List.filterMap_nil, eventsUpTo]
  cases eventAt frames w frameRate (w + m) <;> rfl

end

variable {frames : List FrameDict} {w : ℕ} {frameRate : ℚ}

/-- **The replay step.**  The event of frame `i` takes the holder of the frame
before to the holder of frame `i`, unless a shot which is not read covers a
change. -/
theorem replay_eventAt {readShots : Bool} {i : ℕ}
    (h : readShots = true ∨
      (ShotOpens frames w i → possessionAt frames (i - 1) = possessionAt frames i)) :
    replay readShots (possessionAt frames (i - 1)) (eventAt frames w frameRate i).toList =
      some (possessionAt frames i) := by
  by_cases hopen : ShotOpens frames w i
  · rw [eventAt, playAt_of_shotOpens hopen]
    rcases h with rfl | h
    · simp [replay, replayEvent, Play.toGameEvent]
    · rw [h hopen]
      cases readShots <;> simp [replay, replayEvent, Play.toGameEvent]
  · rw [eventAt, playAt, if_neg hopen]
    cases hp : possessionAt frames (i - 1) with
    | none => cases hc : possessionAt frames i <;> simp [replay, replayEvent, Play.toGameEvent]
    | some a =>
        cases hc : possessionAt frames i with
        | none => simp [replay, replayEvent, Play.toGameEvent]
        | some b =>
            by_cases hab : a = b
            · by_cases hclose : ShotCloses frames w i <;>
                simp [replay, replayEvent, Play.toGameEvent, hab, hclose]
            · simp [replay, replayEvent, Play.toGameEvent, hab]

/-- The replay of a run, by induction on its length. -/
theorem replay_eventsUpTo {readShots : Bool} (hw : 1 ≤ w) {m : ℕ}
    (h : readShots = true ∨ ∀ i, w ≤ i → i < w + m → ShotOpens frames w i →
      possessionAt frames (i - 1) = possessionAt frames i) :
    replay readShots (possessionAt frames (w - 1)) (eventsUpTo frames w frameRate m) =
      some (possessionAt frames (w + m - 1)) := by
  induction m with
  | zero => rfl
  | succ m ih =>
      rw [eventsUpTo_succ, replay_append,
        ih (h.imp_right fun h i hlo hhi ↦ h i hlo (by omega)), Option.bind_some,
        show w + (m + 1) - 1 = w + m by omega]
      exact replay_eventAt (h.imp_right fun h ↦ h (w + m) (by omega) (by omega))

/-! ## Counting gains and losses -/

/-- `1` if somebody has the ball. -/
def held (holder : Option ℤ) : ℕ := if holder.isSome then 1 else 0

theorem held_le_one (holder : Option ℤ) : held holder ≤ 1 := by
  rw [held]
  split <;> omega

section

variable (frames : List FrameDict) (w m : ℕ)

/-- The shots among the first `m` frames which open as somebody loses the ball. -/
def lossesAtShots : ℕ := (List.range' w m).countP fun i ↦
  ShotOpens frames w i ∧ (possessionAt frames (i - 1)).isSome ∧ (possessionAt frames i).isNone

/-- The shots among the first `m` frames which open as somebody gains the ball. -/
def gainsAtShots : ℕ := (List.range' w m).countP fun i ↦
  ShotOpens frames w i ∧ (possessionAt frames (i - 1)).isNone ∧ (possessionAt frames i).isSome

theorem lossesAtShots_succ : lossesAtShots frames w (m + 1) =
    lossesAtShots frames w m +
      if ShotOpens frames w (w + m) ∧ (possessionAt frames (w + m - 1)).isSome ∧
        (possessionAt frames (w + m)).isNone then 1 else 0 := by
  rw [lossesAtShots, List.range'_concat, List.countP_append, one_mul, List.countP_singleton,
    lossesAtShots]
  simp only [decide_eq_true_eq]

theorem gainsAtShots_succ : gainsAtShots frames w (m + 1) =
    gainsAtShots frames w m +
      if ShotOpens frames w (w + m) ∧ (possessionAt frames (w + m - 1)).isNone ∧
        (possessionAt frames (w + m)).isSome then 1 else 0 := by
  rw [gainsAtShots, List.range'_concat, List.countP_append, one_mul, List.countP_singleton,
    gainsAtShots]
  simp only [decide_eq_true_eq]

end

/-- The balance of one frame: a gain is a steal or a shot, a loss a turnover or a
shot. -/
theorem held_eventAt (frames : List FrameDict) (w : ℕ) (frameRate : ℚ) (i : ℕ) :
    stealCount (eventAt frames w frameRate i).toList +
        (if ShotOpens frames w i ∧ (possessionAt frames (i - 1)).isNone ∧
          (possessionAt frames i).isSome then 1 else 0) + held (possessionAt frames (i - 1)) =
      turnoverCount (eventAt frames w frameRate i).toList +
        (if ShotOpens frames w i ∧ (possessionAt frames (i - 1)).isSome ∧
          (possessionAt frames i).isNone then 1 else 0) + held (possessionAt frames i) := by
  by_cases hopen : ShotOpens frames w i
  · rw [eventAt, playAt_of_shotOpens hopen]
    cases possessionAt frames (i - 1) <;> cases possessionAt frames i <;>
      simp [stealCount, turnoverCount, held, hopen, Play.toGameEvent]
  · rw [eventAt, playAt, if_neg hopen]
    cases possessionAt frames (i - 1) with
    | none =>
        cases possessionAt frames i <;>
          simp [stealCount, turnoverCount, held, hopen, Play.toGameEvent]
    | some a =>
        cases possessionAt frames i with
        | none => simp [stealCount, turnoverCount, held, hopen, Play.toGameEvent]
        | some b =>
            by_cases hab : a = b
            · by_cases hclose : ShotCloses frames w i <;>
                simp [stealCount, turnoverCount, held, hopen, Play.toGameEvent, hab, hclose]
            · simp [stealCount, turnoverCount, held, hopen, Play.toGameEvent, hab]

/-- The balance of a run. -/
theorem held_eventsUpTo (frames : List FrameDict) (frameRate : ℚ) (hw : 1 ≤ w) (m : ℕ) :
    stealCount (eventsUpTo frames w frameRate m) + gainsAtShots frames w m +
        held (possessionAt frames (w - 1)) =
      turnoverCount (eventsUpTo frames w frameRate m) + lossesAtShots frames w m +
        held (possessionAt frames (w + m - 1)) := by
  induction m with
  | zero => rfl
  | succ m ih =>
      have hstep := held_eventAt frames w frameRate (w + m)
      rw [eventsUpTo_succ, gainsAtShots_succ, lossesAtShots_succ,
        show w + (m + 1) - 1 = w + m by omega]
      simp only [stealCount, turnoverCount, List.countP_append] at ih hstep ⊢
      omega

/-- Without a shot which opens during a change there is nothing to correct. -/
theorem atShots_eq_zero {m : ℕ} (h : ∀ i, w ≤ i → i < w + m → ShotOpens frames w i →
    possessionAt frames (i - 1) = possessionAt frames i) :
    lossesAtShots frames w m = 0 ∧ gainsAtShots frames w m = 0 := by
  constructor <;>
  · refine List.countP_eq_zero.mpr fun i hi ↦ ?_
    obtain ⟨hlo, hhi⟩ := List.mem_range'_1.mp hi
    rw [decide_eq_true_eq]
    rintro ⟨hopen, hp, hc⟩
    rw [h i hlo hhi hopen] at hp
    cases hcase : possessionAt frames i <;> simp [hcase] at hp hc

/-! ## The law for a call -/

/-- **Following the ball.**  In the events of a call, every event finds the holder
it names and the replay ends at the possession of the last frame, if shots hand
the ball to the possession they carry.  Turnovers and steals differ by at most
one once the shots which open as the ball is lost or gained are counted with
them.  If no shot opens during a change of possession, shots can be ignored. -/
theorem processFrames_replay (frames : List FrameDict) {w : ℕ} (hw : 1 ≤ w)
    (hlen : w ≤ frames.length) {frameRate : ℚ} (hr : frameRate ≠ 0)
    (playerStats : PlayerStatsDict) :
    ∃ events playerStats',
      processFramesWithSlidingWindow frames w frameRate playerStats = (.ok events, playerStats') ∧
      replay true (possessionAt frames (w - 1)) events =
        some (possessionAt frames (frames.length - 1)) ∧
      turnoverCount events + lossesAtShots frames w (frames.length - w) ≤
        stealCount events + gainsAtShots frames w (frames.length - w) + 1 ∧
      stealCount events + gainsAtShots frames w (frames.length - w) ≤
        turnoverCount events + lossesAtShots frames w (frames.length - w) + 1 ∧
      ((∀ i, w ≤ i → i < frames.length → ShotOpens frames w i →
          possessionAt frames (i - 1) = possessionAt frames i) →
        PossessionReplayed frames w events) := by
  have hend : w + (frames.length - w) - 1 = frames.length - 1 := by omega
  have hbalance := held_eventsUpTo frames frameRate hw (frames.length - w)
  have hfirst := held_le_one (possessionAt frames (w - 1))
  have hlast := held_le_one (possessionAt frames (w + (frames.length - w) - 1))
  refine ⟨eventsUpTo frames w frameRate (frames.length - w), _,
    processFramesWithSlidingWindow_eq frames hw hr playerStats,
    hend ▸ replay_eventsUpTo hw (.inl rfl), by omega, by omega, fun hquiet ↦ ?_⟩
  have hquiet' : ∀ i, w ≤ i → i < w + (frames.length - w) → ShotOpens frames w i →
      possessionAt frames (i - 1) = possessionAt frames i :=
    fun i hlo hhi ↦ hquiet i hlo (by omega)
  obtain ⟨hloss, hgain⟩ := atShots_eq_zero hquiet'
  exact ⟨hend ▸ replay_eventsUpTo hw (.inr hquiet'), by omega, by omega⟩

theorem processFrames_replay_sample :
    ∃ events playerStats',
      processFramesWithSlidingWindow sampleFrames 1 30 Dict.empty = (.ok events, playerStats') ∧
      replay true (possessionAt sampleFrames (1 - 1)) events =
        some (possessionAt sampleFrames (sampleFrames.length - 1)) ∧
      turnoverCount events + lossesAtShots sampleFrames 1 (sampleFrames.length - 1) ≤
        stealCount events + gainsAtShots sampleFrames 1 (sampleFrames.length - 1) + 1 ∧
      stealCount events + gainsAtShots sampleFrames 1 (sampleFrames.length - 1) ≤
        turnoverCount events + lossesAtShots sampleFrames 1 (sampleFrames.length - 1) + 1 ∧
      ((∀ i, 1 ≤ i → i < sampleFrames.length → ShotOpens sampleFrames 1 i →
          possessionAt sampleFrames (i - 1) = possessionAt sampleFrames i) →
        PossessionReplayed sampleFrames 1 events) :=
  processFrames_replay sampleFrames (le_refl 1) (by decide) (by norm_num) Dict.empty

/-- In the sample player `8` takes the ball in the frame of the shot: a replay
which ignores the shot ends with nobody. -/
theorem processFrames_replay_sample_fails :
    ∃ events,
      (processFramesWithSlidingWindow sampleFrames 1 30 Dict.empty).1 = .ok events ∧
      ¬PossessionReplayed sampleFrames 1 events := by
  refine ⟨[(Play.turnover 7).toGameEvent (1 / 30), (Play.shot (some 8)).toGameEvent (2 / 30)],
    by decide +kernel, fun h ↦ ?_⟩
  have hlast : replay false (possessionAt sampleFrames 0)
      [(Play.turnover 7).toGameEvent (1 / 30), (Play.shot (some 8)).toGameEvent (2 / 30)] ≠
      some (possessionAt sampleFrames 2) := by decide +kernel
  exact hlast h.1

end Courtside
