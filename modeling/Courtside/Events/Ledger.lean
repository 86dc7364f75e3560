import Courtside.Events.Refinement

/-!
# The statistics are a ledger of the events

Booking an event touches one entry, that of its *credited player*, and adds fixed
amounts to it.  So booking a list of events adds to each entry the tallies of the
list, whatever the order, and creates entries for exactly the credited players.

`statsOf` reads an entry with an absent one counting as all zeros: this is the
entry which `get_or_create_player_stats` would return, and it makes the law an
equation (`statsOf_updateAllPlayerStats`) instead of a case distinction.
-/

namespace Courtside

/-! ## One event -/

/-- The player whose entry an event is booked on.  The receiver of a pass and a
dribbling player are not credited. -/
def creditedPlayer (event : GameEvent) : Option ℤ :=
  match event.eventType with
  | .shot => event.details.possession.join
  | .pass => event.details.fromPlayer.join
  | .turnover => event.details.lostBy.join
  | .steal => event.details.gainedBy.join
  | .dribble | .other _ => none

/-- The entry of a player, all zeros if there is none. -/
def statsOf (playerStats : PlayerStatsDict) (player : ℤ) : PlayerStats :=
  (playerStats.get? player).getD { playerId := player }

/-- Booking changes the entry of the credited player and no other. -/
theorem get?_updateEntry (player : Option ℤ) (update : PlayerStats → PlayerStats)
    (playerStats : PlayerStatsDict) (k : ℤ) :
    (updateEntry player update playerStats).get? k =
      if player = some k then some (update (statsOf playerStats k)) else playerStats.get? k := by
  cases player with
  | none => rfl
  | some player =>
      by_cases hk : player = k
      · subst hk
        rw [if_pos rfl, updateEntry, getOrCreatePlayerStats, statsOf]
        cases playerStats.get? player <;> simp
      · have hne : k ≠ player := fun h ↦ hk h.symm
        rw [if_neg (by simpa using hk), updateEntry, getOrCreatePlayerStats]
        cases playerStats.get? player <;> simp [Dict.get?_set_of_ne _ _ hne]

/-! ## Tallies -/

section

variable (events : List GameEvent) (player : ℤ)

/-- The made shots of a player. -/
def madeShotsBy : ℕ := events.countP fun event ↦
  event.eventType = .shot ∧ event.details.possession = some (some player) ∧
    event.details.result = some "Made"

/-- The passes a player gave. -/
def passesBy : ℕ := events.countP fun event ↦
  event.eventType = .pass ∧ event.details.fromPlayer = some (some player)

/-- The turnovers a player lost the ball by. -/
def turnoversBy : ℕ := events.countP fun event ↦
  event.eventType = .turnover ∧ event.details.lostBy = some (some player)

/-- The steals a player gained the ball by. -/
def stealsBy : ℕ := events.countP fun event ↦
  event.eventType = .steal ∧ event.details.gainedBy = some (some player)

end

/-- An entry after booking a list of events on it. -/
def PlayerStats.credit (ps : PlayerStats) (events : List GameEvent) (player : ℤ) : PlayerStats :=
  { ps with
    points := ps.points + 2 * madeShotsBy events player
    assists := ps.assists + passesBy events player
    turnovers := ps.turnovers + turnoversBy events player
    steals := ps.steals + stealsBy events player }

theorem PlayerStats.credit_nil (ps : PlayerStats) (player : ℤ) : ps.credit [] player = ps := by
  simp [PlayerStats.credit, madeShotsBy, passesBy, turnoversBy, stealsBy]

/-- Crediting is additive in the events. -/
theorem PlayerStats.credit_append (ps : PlayerStats) (events₁ events₂ : List GameEvent)
    (player : ℤ) :
    ps.credit (events₁ ++ events₂) player = (ps.credit events₁ player).credit events₂ player := by
  simp only [PlayerStats.credit, madeShotsBy, passesBy, turnoversBy, stealsBy,
    List.countP_append, Nat.cast_add, mul_add, add_assoc]

/-- An event credits nobody but its credited player. -/
theorem PlayerStats.credit_singleton_of_ne {event : GameEvent} {player : ℤ}
    (h : creditedPlayer event ≠ some player) (ps : PlayerStats) :
    ps.credit [event] player = ps := by
  rw [creditedPlayer] at h
  cases htype : event.eventType <;> simp only [htype, ne_eq, Option.join_eq_some_iff] at h <;>
    simp [PlayerStats.credit, madeShotsBy, passesBy, turnoversBy, stealsBy, htype, h]

/-! ## Booking one event -/

/-- **What one booking does**: the entry of the credited player, created if it is
missing, is credited with the event; every other entry stays. -/
theorem get?_updatePlayerStats (event : GameEvent) (playerStats : PlayerStatsDict) (k : ℤ) :
    (updatePlayerStats event playerStats).get? k =
      if creditedPlayer event = some k then some ((statsOf playerStats k).credit [event] k)
      else playerStats.get? k := by
  rw [creditedPlayer, updatePlayerStats]
  cases htype : event.eventType with
  | dribble | other => simp
  | shot | pass | turnover | steal =>
      simp only [get?_updateEntry, Option.join_eq_some_iff]
      split_ifs <;>
        simp [PlayerStats.credit, madeShotsBy, passesBy, turnoversBy, stealsBy, *]

theorem mem_keys_updatePlayerStats (event : GameEvent) (playerStats : PlayerStatsDict) (k : ℤ) :
    k ∈ (updatePlayerStats event playerStats).keys ↔
      creditedPlayer event = some k ∨ k ∈ playerStats.keys := by
  rw [Dict.mem_keys_iff, get?_updatePlayerStats, Dict.mem_keys_iff]
  by_cases hk : creditedPlayer event = some k <;> simp [hk]

theorem statsOf_updatePlayerStats (event : GameEvent) (playerStats : PlayerStatsDict)
    (player : ℤ) :
    statsOf (updatePlayerStats event playerStats) player =
      (statsOf playerStats player).credit [event] player := by
  rw [statsOf, get?_updatePlayerStats]
  by_cases hk : creditedPlayer event = some player
  · rw [if_pos hk, Option.getD_some]
  · rw [if_neg hk, PlayerStats.credit_singleton_of_ne hk, statsOf]

/-! ## Many events -/

/-- **The ledger law.**  Booking a list of events credits every entry with it. -/
theorem statsOf_updateAllPlayerStats (events : List GameEvent) (playerStats : PlayerStatsDict)
    (player : ℤ) :
    statsOf (updateAllPlayerStats events playerStats) player =
      (statsOf playerStats player).credit events player := by
  induction events generalizing playerStats with
  | nil => rw [updateAllPlayerStats_nil, PlayerStats.credit_nil]
  | cons event events ih =>
      rw [updateAllPlayerStats_cons, ih, statsOf_updatePlayerStats, ← PlayerStats.credit_append]
      rfl

/-- The keys after booking: the old ones and the credited players. -/
theorem mem_keys_updateAllPlayerStats (events : List GameEvent) (playerStats : PlayerStatsDict)
    (k : ℤ) :
    k ∈ (updateAllPlayerStats events playerStats).keys ↔
      k ∈ playerStats.keys ∨ ∃ event ∈ events, creditedPlayer event = some k := by
  induction events generalizing playerStats with
  | nil => simp
  | cons event events ih =>
      rw [updateAllPlayerStats_cons, ih, mem_keys_updatePlayerStats]
      simp only [List.mem_cons, exists_eq_or_imp]
      tauto

/-- Entries of players who are not credited stay as they were. -/
theorem get?_updateAllPlayerStats_of_ne {events : List GameEvent} {k : ℤ}
    (h : ∀ event ∈ events, creditedPlayer event ≠ some k) (playerStats : PlayerStatsDict) :
    (updateAllPlayerStats events playerStats).get? k = playerStats.get? k := by
  induction events generalizing playerStats with
  | nil => rfl
  | cons event events ih =>
      rw [updateAllPlayerStats_cons, ih (fun e he ↦ h e (List.mem_cons_of_mem _ he)),
        get?_updatePlayerStats, if_neg (h event List.mem_cons_self)]

/-- Booking keeps every entry under the id it carries. -/
theorem playerId_updateAllPlayerStats {events : List GameEvent} {playerStats : PlayerStatsDict}
    {k : ℤ} {ps' : PlayerStats}
    (hps' : (updateAllPlayerStats events playerStats).get? k = some ps')
    (hid : ∀ ps, playerStats.get? k = some ps → ps.playerId = k) : ps'.playerId = k := by
  have hcredit := statsOf_updateAllPlayerStats events playerStats k
  rw [statsOf, hps', Option.getD_some] at hcredit
  have hold : (statsOf playerStats k).playerId = k := by
    rw [statsOf]
    cases hps : playerStats.get? k with
    | none => rfl
    | some ps => exact hid ps hps
  rw [hcredit]
  exact hold

/-- **The statistics after a call are an exact ledger of the events it returns.** -/
theorem processFrames_stats_ledger (frames : List FrameDict) {w : ℕ} (hw : 1 ≤ w)
    {frameRate : ℚ} (hr : frameRate ≠ 0) (playerStats : PlayerStatsDict) :
    ∃ events playerStats',
      processFramesWithSlidingWindow frames w frameRate playerStats = (.ok events, playerStats') ∧
      (∀ player,
        statsOf playerStats' player =
          { statsOf playerStats player with
            turnovers := (statsOf playerStats player).turnovers + turnoversBy events player
            steals := (statsOf playerStats player).steals + stealsBy events player
            assists := (statsOf playerStats player).assists + passesBy events player
            points := (statsOf playerStats player).points + 2 * madeShotsBy events player }) ∧
      (∀ player, player ∈ playerStats'.keys ↔
        player ∈ playerStats.keys ∨ ∃ event ∈ events, creditedPlayer event = some player) ∧
      (∀ player ps', playerStats'.get? player = some ps' →
        (∀ ps, playerStats.get? player = some ps → ps.playerId = player) →
        ps'.playerId = player) ∧
      (∀ player, (∀ event ∈ events, creditedPlayer event ≠ some player) →
        playerStats'.get? player = playerStats.get? player) :=
  ⟨_, _, processFramesWithSlidingWindow_eq frames hw hr playerStats,
    fun player ↦ statsOf_updateAllPlayerStats _ playerStats player,
    fun player ↦ mem_keys_updateAllPlayerStats _ playerStats player,
    fun _ _ hps' hid ↦ playerId_updateAllPlayerStats hps' hid,
    fun _ h ↦ get?_updateAllPlayerStats_of_ne h playerStats⟩

/-- A dictionary with one entry, of player `7`. -/
def samplePlayerStats : PlayerStatsDict := Dict.empty.set 7 { playerId := 7, points := 4 }

theorem processFrames_stats_ledger_sample :
    ∃ events playerStats',
      processFramesWithSlidingWindow sampleFrames 1 30 samplePlayerStats =
        (.ok events, playerStats') ∧
      (∀ player,
        statsOf playerStats' player =
          { statsOf samplePlayerStats player with
            turnovers := (statsOf samplePlayerStats player).turnovers + turnoversBy events player
            steals := (statsOf samplePlayerStats player).steals + stealsBy events player
            assists := (statsOf samplePlayerStats player).assists + passesBy events player
            points :=
              (statsOf samplePlayerStats player).points + 2 * madeShotsBy events player }) ∧
      (∀ player, player ∈ playerStats'.keys ↔
        player ∈ samplePlayerStats.keys ∨
          ∃ event ∈ events, creditedPlayer event = some player) ∧
      (∀ player ps', playerStats'.get? player = some ps' →
        (∀ ps, samplePlayerStats.get? player = some ps → ps.playerId = player) →
        ps'.playerId = player) ∧
      (∀ player, (∀ event ∈ events, creditedPlayer event ≠ some player) →
        playerStats'.get? player = samplePlayerStats.get? player) :=
  processFrames_stats_ledger sampleFrames (le_refl 1) (by norm_num) samplePlayerStats

end Courtside
