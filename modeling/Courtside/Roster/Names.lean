import Courtside.Roster.Wizard

/-!
# Entering the names

Each name field of `StartGameView` is bound to an entry of its team's array.  Writing replaces
the entry, or, past the end, appends one.  An appended entry is that of the first field without
a name, whichever field was typed in.  So what has just been typed is sure to be the field's
entry only if the fields before it have names (`getElem?_setName`).

Nothing takes an entry away: the arrays are not cut to the counts, and not filled up to
them.

While the names are typed in order, each entry is the text last typed in its field
(`Named`), and the roster is then the one that was typed if and only if the fields typed in
are those that are shown (`roster_as_typed_iff`).
-/

namespace Courtside

/-! ## One field -/

section Binding

variable {players : List String} {index : ℕ} {newValue : String}

/-- A write up to the end of the array sets one entry, and leaves the others. -/
theorem getElem?_setName (h : index ≤ players.length) (i : ℕ) :
    (setName players index newValue)[i]? = if i = index then some newValue else players[i]? := by
  unfold setName
  split
  · next hend =>
      obtain rfl : index = players.length := Nat.le_antisymm h hend
      split
      · next hi => rw [hi, List.getElem?_concat_length]
      · next hi =>
          rcases Nat.lt_or_gt_of_ne hi with hlt | hgt
          · rw [List.getElem?_append_left hlt]
          · rw [List.getElem?_eq_none, List.getElem?_eq_none (Nat.le_of_lt hgt)]
            rw [List.length_append]
            exact hgt
  · next hlt =>
      split
      · next hi => rw [hi, List.getElem?_set_self (Nat.lt_of_not_le hlt)]
      · next hi => rw [List.getElem?_set_ne (Ne.symm hi)]

end Binding

/-! ## What was typed -/

/-- The text of an action that types in a field. -/
def typed? (team : Team) (index : ℕ) : WizardAction → Option String
  | .setName team' index' newValue =>
      if team' = team ∧ index' = index then some newValue else none
  | _ => none

/-- The text last typed in a field. -/
def lastTyped (actions : List WizardAction) (team : Team) (index : ℕ) : Option String :=
  (actions.filterMap (typed? team index)).getLast?

/-- The arrays have as many entries as there are fields, and each is the text last typed in
its field. -/
def AsTyped (actions : List WizardAction) (s : StartGameView) : Prop :=
  ∀ team, (s.teamPlayers team).length = s.nameFields team ∧
    ∀ index < s.nameFields team, (s.teamPlayers team)[index]? = lastTyped actions team index

/-- The fields that have been typed in are those that are shown. -/
def FieldsTyped (actions : List WizardAction) (s : StartGameView) : Prop :=
  ∀ team index, (lastTyped actions team index).isSome ↔ index < s.nameFields team

/-- A name is typed in a field only if the fields before it have names. -/
def TypesInOrder (s : StartGameView) : WizardAction → Prop
  | .setName team index _ => index ≤ (s.teamPlayers team).length
  | _ => True

instance (s : StartGameView) : ∀ a, Decidable (TypesInOrder s a)
  | .setName team index _ => inferInstanceAs (Decidable (index ≤ (s.teamPlayers team).length))
  | .setNumberOfPlayers _ _ | .confirmPlayers | .uploadVideo | .goBack => isTrue trivial

/-- Each entry is the text last typed in its field, and the others have not been typed in. -/
def Named (actions : List WizardAction) (s : StartGameView) : Prop :=
  ∀ team index, (s.teamPlayers team)[index]? = lastTyped actions team index

variable {actions : List WizardAction} {s s' : StartGameView} {a : WizardAction}

theorem lastTyped_concat (team : Team) (index : ℕ) :
    lastTyped (actions ++ [a]) team index =
      (typed? team index a).or (lastTyped actions team index) := by
  rw [lastTyped, List.filterMap_append, List.getLast?_append]
  cases h : typed? team index a with
  | none => rw [List.filterMap_cons_none h]; rfl
  | some text => rw [List.filterMap_cons_some h]; rfl

/-- What an action does to the array of a team. -/
def typeIn (team : Team) (players : List String) : WizardAction → List String
  | .setName team' index newValue =>
      if team' = team then setName players index newValue else players
  | _ => players

theorem teamPlayers_of_step (hstep : stepView s a = some s') (team : Team) :
    s'.teamPlayers team = typeIn team (s.teamPlayers team) a := by
  rcases stepView_cases hstep with ⟨team', text, rfl, -, rfl⟩ |
    ⟨team', index, newValue, rfl, -, -, rfl⟩ | ⟨rfl, -, rfl⟩ | ⟨rfl, -, -, rfl⟩ |
    ⟨rfl, -, -, rfl⟩ | ⟨rfl, -, rfl⟩
  · exact s.teamPlayers_setNumberOfPlayers text team' team
  · by_cases hteam : team' = team
    · subst hteam
      exact (s.teamPlayers_setTeamPlayers_self _ team').trans (if_pos rfl).symm
    · exact (s.teamPlayers_setTeamPlayers_of_ne _ team' (Ne.symm hteam)).trans (if_neg hteam).symm
  all_goals
    cases team <;> rfl

/-- What an action in order preserves. -/
theorem Named.step (h : Named actions s) (horder : TypesInOrder s a)
    (hstep : stepView s a = some s') : Named (actions ++ [a]) s' := by
  intro team index
  rw [teamPlayers_of_step hstep, lastTyped_concat, ← h team index]
  cases a with
  | setName team' index' newValue =>
      by_cases hteam : team' = team
      · subst hteam
        rw [typeIn, if_pos rfl, getElem?_setName horder]
        by_cases hindex : index = index'
        · subst hindex
          simp [typed?]
        · simp [typed?, hindex, Ne.symm hindex]
      · simp [typeIn, typed?, hteam]
  | setNumberOfPlayers _ _ | confirmPlayers | uploadVideo | goBack => rfl

/-! ## All runs -/

/-- **The roster.**  In every run in which names are typed in order, the arrays are what was
typed if and only if the fields typed in are those that are shown. -/
theorem roster_as_typed_iff (hexec : exec stepView .new actions = some s)
    (horder : AllSteps stepView TypesInOrder .new actions) :
    AsTyped actions s ↔ FieldsTyped actions s := by
  have hinit : Named [] .new := by
    intro team index
    cases team <;> rfl
  have hnamed : Named actions s :=
    exec_invariant hinit (fun _ _ _ _ h horder hstep ↦ h.step horder hstep) horder hexec
  have hsome : ∀ team index, (lastTyped actions team index).isSome ↔
      index < (s.teamPlayers team).length := by
    intro team index
    rw [← hnamed team index, isSome_getElem?]
  constructor
  · intro h team index
    rw [hsome, (h team).1]
  · intro h team
    refine ⟨?_, fun index _ ↦ hnamed team index⟩
    have hiff : ∀ index, index < (s.teamPlayers team).length ↔ index < s.nameFields team :=
      fun index ↦ (hsome team index).symm.trans (h team index)
    exact Nat.le_antisymm (Nat.le_of_not_lt fun hlt ↦ Nat.lt_irrefl _ ((hiff _).mp hlt))
      (Nat.le_of_not_lt fun hlt ↦ Nat.lt_irrefl _ ((hiff _).mpr hlt))

/-- Names that are typed in order, and one that is typed again after going back. -/
def sampleEdits : List WizardAction :=
  [.setNumberOfPlayers .a "1", .setNumberOfPlayers .b "2", .setName .a 0 "Sam", .setName .b 0 "Kim",
    .setName .b 1 "An", .confirmPlayers, .goBack, .setName .b 1 "Ann"]

theorem roster_as_typed_iff_sample :
    ∃ s, exec stepView .new sampleEdits = some s ∧ s.players = ["Sam", "Kim", "Ann"] ∧
      AsTyped sampleEdits s ∧ FieldsTyped sampleEdits s := by
  have hexec : exec stepView .new sampleEdits =
      some ⟨"1", "2", ["Sam"], ["Kim", "Ann"], 0, 0⟩ := by decide
  have horder : AllSteps stepView TypesInOrder .new sampleEdits := by decide
  have htyped : AsTyped sampleEdits ⟨"1", "2", ["Sam"], ["Kim", "Ann"], 0, 0⟩ := by
    intro team
    cases team <;> decide
  exact ⟨_, hexec, rfl, htyped, (roster_as_typed_iff hexec horder).mp htyped⟩

/-- A name that is typed in the second field first is lost, and one that is no longer asked
for stays. -/
theorem roster_as_typed_fails :
    (exec stepView .new [.setNumberOfPlayers .a "2", .setName .a 1 "Kim", .setName .a 0 "Sam"]).map
        StartGameView.teamAPlayers = some ["Sam"] ∧
      (exec stepView .new [.setNumberOfPlayers .a "2", .setName .a 0 "Sam", .setName .a 1 "Kim",
        .setNumberOfPlayers .a "1"]).map StartGameView.teamAPlayers = some ["Sam", "Kim"] ∧
      ¬ ∀ (actions : List WizardAction) (s : StartGameView),
        exec stepView .new actions = some s → s.currentStep = 0 → AsTyped actions s := by
  refine ⟨by decide, by decide, fun h ↦ ?_⟩
  have htyped := h [.setNumberOfPlayers .a "2", .setName .a 1 "Kim", .setName .a 0 "Sam"]
    ⟨"2", "", ["Sam"], [], 0, 0⟩ (by decide) rfl
  exact absurd (htyped .a).1 (by decide)

end Courtside
