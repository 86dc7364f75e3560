import Courtside.Games.Store

/-!
# Saved shots

A game has two lists of shots.  One is a field of its document, which `saveGame` writes.  The
other is a collection beneath the document, to which `saveShot` adds and which `fetchShots`
reads; it is there whether or not the document is.

Each is what was saved to it, in every history of saves.  They have nothing to do with one
another: even where the same shots are saved to both, those of the document are read with the
id of the document, the others with ids of their own, so the lists are the same only where
both are empty (`shots_of_game`).
-/

namespace Courtside

/-! ## Collections -/

/-- A successful `saveShot`. -/
structure ShotSave where
  gameId : String
  /-- The id of the new document. -/
  shotRef : String
  shot : Shot
deriving DecidableEq, Repr

/-- The shots beneath a game: the fields of each document. -/
abbrev ShotCollection := Dict String Fields

/-- The games, and the shots beneath each id. -/
structure Collections where
  games : GameCollection
  shots : Dict String ShotCollection

/-- No documents. -/
def Collections.empty : Collections := { games := .empty, shots := .empty }

/-- `db.collection("games").document(gameId).collection("shots")`. -/
def Collections.shotsOf (c : Collections) (gameId : String) : ShotCollection :=
  (c.shots.get? gameId).getD .empty

/-- `saveShot`: a new document is created. -/
def saveShot (shot : Shot) (gameId shotRef : String) (c : Collections) : Collections :=
  { c with
    shots := c.shots.set gameId
      ((c.shotsOf gameId).set shotRef (encodeShot { shot with id := shotRef })) }

/-- The callback of `fetchShots`: an error, or the documents. -/
def fetchShotsResult : Except String (List (String × Fields)) → Except String (List Shot)
  | .error error => .error error
  | .ok documents => .ok (documents.filterMap fun document ↦ decodeShot document.1 document.2)

/-- `fetchShots`, when the documents can be read. -/
def fetchShots (gameId : String) (c : Collections) : Except String (List Shot) :=
  fetchShotsResult (.ok (c.shotsOf gameId).entries)

/-- What is saved. -/
inductive StoreAction where
  | game (save : Save)
  | shot (save : ShotSave)
deriving DecidableEq

/-- One save, under an id that no document beside it has. -/
def stepStore (c : Collections) : StoreAction → Option Collections
  | .game save => (stepGames c.games save).map fun games ↦ { c with games }
  | .shot save =>
      if save.shotRef ∈ (c.shotsOf save.gameId).keys then none
      else some (saveShot save.shot save.gameId save.shotRef c)

/-- The games that are saved. -/
def StoreAction.game? : StoreAction → Option Save
  | game save => some save
  | shot _ => none

/-- The shot that is saved to a game, as it is read. -/
def StoreAction.shotOf? (gameId : String) : StoreAction → Option Shot
  | shot save => if save.gameId = gameId then some { save.shot with id := save.shotRef } else none
  | game _ => none

/-! ## One save -/

section Step

variable {c c' : Collections} {actions : List StoreAction} {a : StoreAction}

theorem shotsOf_saveShot (shot : Shot) (gameId shotRef other : String) (c : Collections) :
    (saveShot shot gameId shotRef c).shotsOf other =
      if other = gameId then
        (c.shotsOf gameId).set shotRef (encodeShot { shot with id := shotRef })
      else c.shotsOf other := by
  rw [Collections.shotsOf, saveShot, Dict.get?_set]
  by_cases h : other = gameId
  · rw [if_pos h, if_pos h]
    rfl
  · rw [if_neg h, if_neg h]
    rfl

/-- What is saved is read back, with the document's id. -/
theorem decodeShot_encodeShot (shot : Shot) (documentID : String) :
    decodeShot documentID (encodeShot shot) = some { shot with id := documentID } := rfl

/-- Games and shots are saved apart. -/
theorem simulates_stepGames :
    Simulates stepStore stepGames Collections.games StoreAction.game? := by
  constructor
  · intro c a c' save hstep hgame
    cases a with
    | game save' =>
        cases hgame
        obtain ⟨games, hgames, rfl⟩ := Option.map_eq_some_iff.mp hstep
        exact hgames
    | shot save' => cases hgame
  · intro c a c' hstep hgame
    cases a with
    | game save => cases hgame
    | shot save =>
        obtain ⟨-, hsave⟩ := Option.ite_none_left_eq_some.mp hstep
        cases hsave
        rfl

/-- Beneath each game there is one document for each shot saved to it. -/
def ShotsFiled (actions : List StoreAction) (c : Collections) : Prop :=
  ∀ gameId, (c.shotsOf gameId).entries.filterMap (fun document ↦ decodeShot document.1 document.2) =
    actions.filterMap (StoreAction.shotOf? gameId)

theorem ShotsFiled.step (h : ShotsFiled actions c) (hstep : stepStore c a = some c') :
    ShotsFiled (actions ++ [a]) c' := by
  intro gameId
  rw [List.filterMap_append, ← h gameId]
  cases a with
  | game save =>
      obtain ⟨games, -, rfl⟩ := Option.map_eq_some_iff.mp hstep
      exact (List.append_nil _).symm
  | shot save =>
      obtain ⟨hfresh, hsave⟩ := Option.ite_none_left_eq_some.mp hstep
      cases hsave
      rw [shotsOf_saveShot]
      by_cases hgame : gameId = save.gameId
      · subst hgame
        rw [if_pos rfl, Dict.entries_set_of_notMem _ hfresh, List.filterMap_append]
        simp [StoreAction.shotOf?, decodeShot_encodeShot]
      · rw [if_neg hgame]
        simp [StoreAction.shotOf?, Ne.symm hgame]

end Step

/-! ## All histories -/

/-- The games that `StatsView` lists. -/
def listedGames (c : Collections) : List Game := (statsViewOf c.games).games

theorem mem_filterMap_shotOf? {actions : List StoreAction} {gameId : String} {shot : Shot} :
    shot ∈ actions.filterMap (StoreAction.shotOf? gameId) ↔
      ∃ save, .shot save ∈ actions ∧ save.gameId = gameId ∧
        { save.shot with id := some save.shotRef } = shot := by
  rw [List.mem_filterMap]
  constructor
  · rintro ⟨game | save, hmem, hshot⟩
    · cases hshot
    · obtain ⟨hgame, heq⟩ := Option.ite_none_right_eq_some.mp hshot
      exact ⟨save, hmem, hgame, Option.some.inj heq⟩
  · rintro ⟨save, hmem, hgame, rfl⟩
    exact ⟨.shot save, hmem, if_pos hgame⟩

/-- No shot was saved to the game. -/
theorem filterMap_shotOf?_eq_nil_iff {actions : List StoreAction} {gameId : String} :
    actions.filterMap (StoreAction.shotOf? gameId) = [] ↔
      ∀ shot, .shot shot ∈ actions → shot.gameId ≠ gameId := by
  rw [List.eq_nil_iff_forall_not_mem]
  constructor
  · intro h save hmem hgame
    exact h _ (mem_filterMap_shotOf?.mpr ⟨save, hmem, hgame, rfl⟩)
  · intro h shot hshot
    obtain ⟨save, hmem, hgame, -⟩ := mem_filterMap_shotOf?.mp hshot
    exact h save hmem hgame

/-- A list whose shots all have one id, and a list whose shots do not have it. -/
theorem perm_iff_nil_of_ids {shots shots' : List Shot} {id : Option String}
    (hid : ∀ shot ∈ shots, shot.id = id) (hids : ∀ shot ∈ shots', shot.id ≠ id) :
    shots.Perm shots' ↔ shots = [] ∧ shots' = [] := by
  constructor
  · intro hperm
    have hnil : shots = [] := by
      refine List.eq_nil_iff_forall_not_mem.mpr fun shot hshot ↦ ?_
      exact hids shot (hperm.mem_iff.mp hshot) (hid shot hshot)
    subst hnil
    exact ⟨rfl, hperm.nil_eq.symm⟩
  · rintro ⟨rfl, rfl⟩
    exact .nil

/-- **Shots of a game.**  In every history of saves, `fetchShots` finds the shots that were
saved to a game, each with its id, and `StatsView` lists every game that was saved with the
shots that it was saved with, which have the id of the game.  If no shot has the id of its
game, the two lists are the same only where no shot was saved with the game nor to it. -/
theorem shots_of_game {actions : List StoreAction} {c : Collections}
    (hexec : exec stepStore .empty actions = some c) (gameId : String) :
    ∃ shots, fetchShots gameId c = .ok shots ∧
      shots.Perm (actions.filterMap (StoreAction.shotOf? gameId)) ∧
      ∀ save, .game save ∈ actions → save.gameRef = gameId →
        save.game.withDocumentID gameId ∈ listedGames c ∧
        ((∀ shot, .shot shot ∈ actions → shot.shotRef ≠ shot.gameId) →
          ((save.game.withDocumentID gameId).shots.Perm shots ↔
            save.game.shots = [] ∧ ∀ shot, .shot shot ∈ actions → shot.gameId ≠ gameId)) := by
  have hinit : ShotsFiled [] Collections.empty := fun _ ↦ rfl
  have hfiled : ShotsFiled actions c := exec_invariant hinit (fun _ _ _ _ h _ hstep ↦ h.step hstep)
    (.of_forall (fun _ _ ↦ trivial) _ actions) hexec
  have hrecorded : Recorded (actions.filterMap StoreAction.game?) c.games := by
    have hinit : Recorded [] (Dict.empty : GameCollection) := rfl
    exact exec_invariant hinit (fun _ _ _ _ h _ hstep ↦ h.step hstep)
      (.of_forall (fun _ _ ↦ trivial) _ _) (simulates_stepGames.exec hexec)
  refine ⟨_, rfl, .of_eq (hfiled gameId), fun save hsave hgame ↦ ⟨?_, fun hrefs ↦ ?_⟩⟩
  · subst hgame
    rw [listedGames, hrecorded.games_eq]
    exact List.mem_map_of_mem (List.mem_filterMap.mpr ⟨_, hsave, rfl⟩)
  · have hid : ∀ shot ∈ (save.game.withDocumentID gameId).shots, shot.id = some gameId := by
      intro shot hshot
      obtain ⟨_, -, rfl⟩ := List.mem_map.mp hshot
      rfl
    have hids : ∀ shot ∈ actions.filterMap (StoreAction.shotOf? gameId),
        shot.id ≠ some gameId := by
      intro shot hshot heq
      obtain ⟨save', hmem, hgame', rfl⟩ := mem_filterMap_shotOf?.mp hshot
      exact hrefs save' hmem ((Option.some.inj heq).trans hgame'.symm)
    rw [hfiled gameId, perm_iff_nil_of_ids hid hids, filterMap_shotOf?_eq_nil_iff,
      Game.withDocumentID, List.map_eq_nil_iff]

/-! ## Sample histories -/

/-- A shot, and a game that is saved with it. -/
def sampleShot : Shot where
  id := none
  userID := "kim"
  xPos := 3
  yPos := 4
  depth := 0
  made := true

/-- The shot is saved with the game, and then to it. -/
def sampleSaves : List StoreAction :=
  [.game { user := "kim", gameRef := "game0", game := { sampleGame with shots := [sampleShot] } },
    .shot { gameId := "game0", shotRef := "shot0", shot := sampleShot },
    .shot { gameId := "game1", shotRef := "shot1", shot := sampleShot }]

theorem shots_of_game_sample :
    ∃ c shots, exec stepStore .empty sampleSaves = some c ∧ fetchShots "game0" c = .ok shots ∧
      shots.Perm [{ sampleShot with id := "shot0" }] ∧
      ¬ [{ sampleShot with id := "game0" }].Perm shots := by
  have hrun : (exec stepStore .empty sampleSaves).isSome = true := by decide
  obtain ⟨c, hc⟩ := Option.isSome_iff_exists.mp hrun
  obtain ⟨shots, hfetch, hshots, hgames⟩ := shots_of_game hc "game0"
  refine ⟨c, shots, hc, hfetch, hshots, fun hperm ↦ ?_⟩
  obtain ⟨-, hiff⟩ := hgames _ List.mem_cons_self rfl
  have hrefs : ∀ shot, .shot shot ∈ sampleSaves → shot.shotRef ≠ shot.gameId := by
    intro shot hshot
    simp only [sampleSaves, List.mem_cons, List.not_mem_nil, reduceCtorEq, false_or, or_false,
      StoreAction.shot.injEq] at hshot
    rcases hshot with rfl | rfl <;> decide
  exact absurd ((hiff hrefs).mp hperm).1 (by decide)

end Courtside
