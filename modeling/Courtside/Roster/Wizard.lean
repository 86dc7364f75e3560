import Courtside.Data.Run
import Courtside.Roster.Recording

/-!
# The steps of the wizard

`StartGameView` has three steps.  In the first the players are entered, in the second each
records a video, and the third is a summary.  Go Back takes back the step and nothing
else: the current player stays where they were, and the roster can only be edited in the
first step.

So the summary is reached past the last player and no other, and stepping back from it
leads to that player (`visited_in_order`).  The roster may grow after stepping back to the
first step, but never shrinks, and Confirm Players starts again.

The recording step alone, with the camera, is the subject of `Recording`.  Without the
camera it is this wizard, for a roster that is not edited (`simulates_stepView`).
-/

namespace Courtside

/-! ## The state -/

/-- `StartGameView`, without its camera. -/
structure StartGameView where
  numberOfPlayersA : String
  numberOfPlayersB : String
  teamAPlayers : List String
  teamBPlayers : List String
  currentStep : ℕ
  currentPlayerIndex : ℕ
deriving DecidableEq, Repr

/-- What the user does. -/
inductive WizardAction where
  | setNumberOfPlayers (team : Team) (text : String)
  | setName (team : Team) (index : ℕ) (newValue : String)
  | confirmPlayers
  | uploadVideo
  | goBack
deriving DecidableEq, Repr

/-- The value of some decimal digits. -/
def parseDigits (digits : List Char) : Option ℕ :=
  if digits ≠ [] ∧ digits.all Char.isDigit then some (Nat.ofDigitChars 10 digits 0) else none

/-- `Int(text)`, of 64 bits. -/
def parseInt (text : String) : Option ℤ :=
  let value : Option ℤ :=
    match text.toList with
    | '-' :: digits => (parseDigits digits).map fun n ↦ -(n : ℤ)
    | '+' :: digits => (parseDigits digits).map fun n ↦ (n : ℤ)
    | digits => (parseDigits digits).map fun n ↦ (n : ℤ)
  value.filter fun n ↦ decide (-9223372036854775808 ≤ n ∧ n ≤ 9223372036854775807)

/-- The number of name fields that are shown. -/
def playersCount (numberOfPlayers : String) : ℕ :=
  match parseInt numberOfPlayers with
  | some count => count.toNat
  | none => 0

example : playersCount "12" = 12 := by decide
example : playersCount "1 2" = 0 := by decide

namespace StartGameView

/-- The view when it appears. -/
def new : StartGameView where
  numberOfPlayersA := ""
  numberOfPlayersB := ""
  teamAPlayers := []
  teamBPlayers := []
  currentStep := 0
  currentPlayerIndex := 0

variable (s : StartGameView)

/-- `teamAPlayers + teamBPlayers`. -/
def players : List String := allPlayers s.teamAPlayers s.teamBPlayers

def teamPlayers : Team → List String
  | .a => s.teamAPlayers
  | .b => s.teamBPlayers

def setTeamPlayers (players : List String) : Team → StartGameView
  | .a => { s with teamAPlayers := players }
  | .b => { s with teamBPlayers := players }

def numberOfPlayers : Team → String
  | .a => s.numberOfPlayersA
  | .b => s.numberOfPlayersB

def setNumberOfPlayers (text : String) : Team → StartGameView
  | .a => { s with numberOfPlayersA := text }
  | .b => { s with numberOfPlayersB := text }

/-- The number of a team's name fields. -/
def nameFields (team : Team) : ℕ := playersCount (s.numberOfPlayers team)

end StartGameView

/-! ## Steps -/

/-- `set` of the binding of a name field; `get` is only for showing the entry. -/
def setName (players : List String) (index : ℕ) (newValue : String) : List String :=
  if players.length ≤ index then players ++ [newValue] else players.set index newValue

/-- One action. -/
def stepView (s : StartGameView) : WizardAction → Option StartGameView
  | .setNumberOfPlayers team text =>
      if s.currentStep = 0 then some (s.setNumberOfPlayers text team) else none
  | .setName team index newValue =>
      if s.currentStep = 0 ∧ index < s.nameFields team then
        some (s.setTeamPlayers (setName (s.teamPlayers team) index newValue) team)
      else none
  | .confirmPlayers =>
      if s.currentStep = 0 then some { s with currentStep := 1, currentPlayerIndex := 0 } else none
  | .uploadVideo =>
      if s.currentStep = 1 ∧ s.currentPlayerIndex < s.players.length then
        if s.currentPlayerIndex < s.players.length - 1 then
          some { s with currentPlayerIndex := s.currentPlayerIndex + 1 }
        else some { s with currentStep := 2 }
      else none
  | .goBack =>
      if 0 < s.currentStep then some { s with currentStep := s.currentStep - 1 } else none

namespace StartGameView

variable (s : StartGameView) (players : List String) (text : String) (team : Team)

@[simp] theorem currentStep_setTeamPlayers :
    (s.setTeamPlayers players team).currentStep = s.currentStep := by
  cases team <;> rfl

@[simp] theorem currentPlayerIndex_setTeamPlayers :
    (s.setTeamPlayers players team).currentPlayerIndex = s.currentPlayerIndex := by
  cases team <;> rfl

@[simp] theorem currentStep_setNumberOfPlayers :
    (s.setNumberOfPlayers text team).currentStep = s.currentStep := by
  cases team <;> rfl

@[simp] theorem currentPlayerIndex_setNumberOfPlayers :
    (s.setNumberOfPlayers text team).currentPlayerIndex = s.currentPlayerIndex := by
  cases team <;> rfl

@[simp] theorem teamPlayers_setNumberOfPlayers (team' : Team) :
    (s.setNumberOfPlayers text team).teamPlayers team' = s.teamPlayers team' := by
  cases team <;> rfl

@[simp] theorem teamPlayers_setTeamPlayers_self :
    (s.setTeamPlayers players team).teamPlayers team = players := by
  cases team <;> rfl

theorem teamPlayers_setTeamPlayers_of_ne {team' : Team} (h : team' ≠ team) :
    (s.setTeamPlayers players team).teamPlayers team' = s.teamPlayers team' := by
  cases team <;> cases team' <;> first | rfl | exact absurd rfl h

end StartGameView

/-- What an action is, and what it does. -/
theorem stepView_cases {s s' : StartGameView} {a : WizardAction} (hstep : stepView s a = some s') :
    (∃ team text, a = .setNumberOfPlayers team text ∧ s.currentStep = 0 ∧
      s' = s.setNumberOfPlayers text team) ∨
    (∃ team index newValue, a = .setName team index newValue ∧ s.currentStep = 0 ∧
      index < s.nameFields team ∧
      s' = s.setTeamPlayers (setName (s.teamPlayers team) index newValue) team) ∨
    (a = .confirmPlayers ∧ s.currentStep = 0 ∧
      s' = { s with currentStep := 1, currentPlayerIndex := 0 }) ∨
    (a = .uploadVideo ∧ s.currentStep = 1 ∧ s.currentPlayerIndex + 1 < s.players.length ∧
      s' = { s with currentPlayerIndex := s.currentPlayerIndex + 1 }) ∨
    (a = .uploadVideo ∧ s.currentStep = 1 ∧ s.currentPlayerIndex + 1 = s.players.length ∧
      s' = { s with currentStep := 2 }) ∨
    a = .goBack ∧ 0 < s.currentStep ∧ s' = { s with currentStep := s.currentStep - 1 } := by
  cases a with
  | setNumberOfPlayers team text =>
      simp only [stepView] at hstep
      split at hstep
      · next hzero =>
          cases hstep
          exact .inl ⟨team, text, rfl, hzero, rfl⟩
      · cases hstep
  | setName team index newValue =>
      simp only [stepView] at hstep
      split at hstep
      · next h =>
          cases hstep
          exact .inr (.inl ⟨team, index, newValue, rfl, h.1, h.2, rfl⟩)
      · cases hstep
  | confirmPlayers =>
      simp only [stepView] at hstep
      split at hstep
      · next hzero =>
          cases hstep
          exact .inr (.inr (.inl ⟨rfl, hzero, rfl⟩))
      · cases hstep
  | uploadVideo =>
      simp only [stepView] at hstep
      split at hstep
      · next h =>
          split at hstep
          · next hnext =>
              cases hstep
              exact .inr (.inr (.inr (.inl ⟨rfl, h.1, Nat.add_lt_of_lt_sub hnext, rfl⟩)))
          · next hlast =>
              cases hstep
              have hlength : s.currentPlayerIndex + 1 = s.players.length := by omega
              exact .inr (.inr (.inr (.inr (.inl ⟨rfl, h.1, hlength, rfl⟩))))
      · cases hstep
  | goBack =>
      simp only [stepView] at hstep
      split at hstep
      · next hpos =>
          cases hstep
          exact .inr (.inr (.inr (.inr (.inr ⟨rfl, hpos, rfl⟩))))
      · cases hstep

/-! ## Visiting the players -/

/-- Upload Video has been pressed at a position since Confirm Players was last pressed. -/
def PressedAt (start : StartGameView) (actions : List WizardAction) (position : ℕ) : Prop :=
  ∃ before after s, actions = before ++ .uploadVideo :: after ∧ .confirmPlayers ∉ after ∧
    exec stepView start before = some s ∧ s.currentPlayerIndex = position

/-- The wizard has visited everyone up to where it is. -/
structure VisitedInOrder (start : StartGameView) (actions : List WizardAction)
    (s : StartGameView) : Prop where
  recording : s.currentStep = 1 → s.players ≠ [] → s.currentPlayerIndex < s.players.length
  summary : s.currentStep = 2 →
    s.players ≠ [] ∧ s.currentPlayerIndex = s.players.length - 1
  before : ∀ position < s.currentPlayerIndex, PressedAt start actions position
  current : s.currentStep = 2 → PressedAt start actions s.currentPlayerIndex

variable {start : StartGameView} {actions : List WizardAction}

/-- Only Confirm Players takes a press away. -/
theorem PressedAt.concat {position : ℕ} (h : PressedAt start actions position) {a : WizardAction}
    (ha : a ≠ .confirmPlayers) : PressedAt start (actions ++ [a]) position := by
  obtain ⟨before, after, s, rfl, hafter, hexec, hposition⟩ := h
  refine ⟨before, after ++ [a], s, by simp, ?_, hexec, hposition⟩
  rw [List.mem_append, List.mem_singleton]
  rintro (hmem | heq)
  · exact hafter hmem
  · exact ha heq.symm

/-- A press is one at the current position. -/
theorem PressedAt.of_exec {s : StartGameView} (hexec : exec stepView start actions = some s) :
    PressedAt start (actions ++ [.uploadVideo]) s.currentPlayerIndex :=
  ⟨actions, [], s, rfl, List.not_mem_nil, hexec, rfl⟩

/-- Nor does it take those before the current position away. -/
theorem VisitedInOrder.before_concat {s : StartGameView} (h : VisitedInOrder start actions s)
    {a : WizardAction} (ha : a ≠ .confirmPlayers) :
    ∀ position < s.currentPlayerIndex, PressedAt start (actions ++ [a]) position :=
  fun position hposition ↦ (h.before position hposition).concat ha

/-- There is no fourth step. -/
theorem currentStep_le_of_step {s s' : StartGameView} {a : WizardAction} (h : s.currentStep ≤ 2)
    (hstep : stepView s a = some s') : s'.currentStep ≤ 2 := by
  rcases stepView_cases hstep with ⟨team, text, -, -, rfl⟩ | ⟨team, index, newValue, -, -, -, rfl⟩ |
    ⟨-, -, rfl⟩ | ⟨-, -, -, rfl⟩ | ⟨-, -, -, rfl⟩ | ⟨-, -, rfl⟩
  · rwa [StartGameView.currentStep_setNumberOfPlayers]
  · rwa [StartGameView.currentStep_setTeamPlayers]
  · exact Nat.le_succ 1
  · exact h
  · exact le_rfl
  · exact (Nat.sub_le _ _).trans h

/-- In the first step only the presses matter. -/
theorem VisitedInOrder.of_currentStep_eq_zero {s : StartGameView} (hzero : s.currentStep = 0)
    (hbefore : ∀ position < s.currentPlayerIndex, PressedAt start actions position) :
    VisitedInOrder start actions s := by
  refine ⟨fun hone ↦ ?_, fun htwo ↦ ?_, hbefore, fun htwo ↦ ?_⟩
  · rw [hzero] at hone
    cases hone
  all_goals
    rw [hzero] at htwo
    cases htwo

/-- What one action preserves. -/
theorem VisitedInOrder.step {s s' : StartGameView} {a : WizardAction}
    (h : VisitedInOrder start actions s) (hexec : exec stepView start actions = some s)
    (hle : s.currentStep ≤ 2) (hstep : stepView s a = some s') :
    VisitedInOrder start (actions ++ [a]) s' := by
  rcases stepView_cases hstep with ⟨team, text, rfl, hzero, rfl⟩ |
    ⟨team, index, newValue, rfl, hzero, -, rfl⟩ | ⟨rfl, -, rfl⟩ | ⟨rfl, hone, hlt, rfl⟩ |
    ⟨rfl, hone, hlast, rfl⟩ | ⟨rfl, hpos, rfl⟩
  · apply VisitedInOrder.of_currentStep_eq_zero
    · rwa [StartGameView.currentStep_setNumberOfPlayers]
    · rw [StartGameView.currentPlayerIndex_setNumberOfPlayers]
      exact h.before_concat (by simp)
  · apply VisitedInOrder.of_currentStep_eq_zero
    · rwa [StartGameView.currentStep_setTeamPlayers]
    · rw [StartGameView.currentPlayerIndex_setTeamPlayers]
      exact h.before_concat (by simp)
  · -- the players start again
    refine ⟨fun _ hne ↦ List.length_pos_of_ne_nil hne, ?_, ?_, ?_⟩
    · intro htwo
      cases htwo
    · intro position hposition
      cases hposition
    · intro htwo
      cases htwo
  · refine ⟨fun _ _ ↦ hlt, ?_, ?_, ?_⟩
    · intro htwo
      cases hone.symm.trans htwo
    · intro position hposition
      rcases Nat.lt_succ_iff_lt_or_eq.mp hposition with hbefore | rfl
      · exact h.before_concat (by simp) position hbefore
      · exact .of_exec hexec
    · intro htwo
      cases hone.symm.trans htwo
  · -- the last player has been recorded
    have hcurrent := PressedAt.of_exec hexec
    refine ⟨?_, fun _ ↦ ⟨?_, ?_⟩, ?_, fun _ ↦ hcurrent⟩
    · intro hone
      cases hone
    · exact List.ne_nil_of_length_pos (hlast ▸ Nat.succ_pos _)
    · exact Nat.eq_sub_of_add_eq hlast
    · exact h.before_concat (by simp)
  · have hbefore := h.before_concat (a := .goBack) (by simp)
    have hstep : s.currentStep = 1 ∨ s.currentStep = 2 := by omega
    rcases hstep with hone | htwo
    · apply VisitedInOrder.of_currentStep_eq_zero
      · exact congrArg (· - 1) hone
      · exact hbefore
    · -- back to the last player
      obtain ⟨hne, hindex⟩ := h.summary htwo
      refine ⟨fun _ _ ↦ ?_, fun h ↦ ?_, hbefore, fun h ↦ ?_⟩
      · exact hindex ▸ Nat.sub_one_lt_of_lt (List.length_pos_of_ne_nil hne)
      all_goals
        rw [htwo] at h
        cases h

/-- Whatever the names and counts are to begin with. -/
theorem visitedInOrder_of_exec {s : StartGameView} (hzero : start.currentStep = 0)
    (hindex : start.currentPlayerIndex = 0) (hexec : exec stepView start actions = some s) :
    VisitedInOrder start actions s := by
  have hinit : exec stepView start [] = some start ∧ start.currentStep ≤ 2 ∧
      VisitedInOrder start [] start := by
    refine ⟨rfl, hzero ▸ Nat.zero_le 2, .of_currentStep_eq_zero hzero ?_⟩
    rw [hindex]
    exact fun position hposition ↦ absurd hposition (Nat.not_lt_zero position)
  have hconcat : ∀ as m a s', (exec stepView start as = some m ∧ m.currentStep ≤ 2 ∧
      VisitedInOrder start as m) → True → stepView m a = some s' →
        exec stepView start (as ++ [a]) = some s' ∧ s'.currentStep ≤ 2 ∧
          VisitedInOrder start (as ++ [a]) s' := by
    rintro as m a s' ⟨hm, hle, hvisited⟩ - hs
    exact ⟨exec_concat.mpr ⟨m, hm, hs⟩, currentStep_le_of_step hle hs,
      hvisited.step hm hle hs⟩
  have hrun := exec_invariant hinit hconcat (.of_forall (fun _ _ ↦ trivial) _ _) hexec
  exact hrun.2.2

/-- **Visiting everyone.**  In every reachable state, the recording step is at a player, if
there is one, and the summary is past the last of them; and Upload Video has been pressed,
since Confirm Players was, at every position before the current one, in the summary also
at the current one. -/
theorem visited_in_order {s : StartGameView} (hexec : exec stepView .new actions = some s) :
    VisitedInOrder .new actions s :=
  visitedInOrder_of_exec rfl rfl hexec

/-- A roster that grows after its only player has been recorded. -/
theorem visited_in_order_sample :
    ∃ s, exec stepView .new
        [.setNumberOfPlayers .a "2", .setName .a 0 "Sam", .confirmPlayers, .uploadVideo, .goBack,
          .goBack, .setName .a 1 "Kim", .confirmPlayers, .uploadVideo, .uploadVideo] = some s ∧
      s.currentStep = 2 ∧ s.players = ["Sam", "Kim"] ∧
      VisitedInOrder .new
        [.setNumberOfPlayers .a "2", .setName .a 0 "Sam", .confirmPlayers, .uploadVideo, .goBack,
          .goBack, .setName .a 1 "Kim", .confirmPlayers, .uploadVideo, .uploadVideo] s :=
  ⟨⟨"2", "", ["Sam", "Kim"], [], 2, 1⟩, by decide, rfl, rfl, visited_in_order (by decide)⟩

/-! ## The recording step -/

/-- What the wizard sees of the recording step. -/
def RecordingStep.view (s : RecordingStep) (teamAPlayers teamBPlayers : List String) :
    StartGameView where
  numberOfPlayersA := ""
  numberOfPlayersB := ""
  teamAPlayers := teamAPlayers
  teamBPlayers := teamBPlayers
  currentStep := s.currentStep
  currentPlayerIndex := s.currentPlayerIndex

/-- The actions that the wizard sees. -/
def RecordingAction.wizard? : RecordingAction → Option WizardAction
  | confirmPlayers => some .confirmPlayers
  | uploadVideo _ _ => some .uploadVideo
  | goBack => some .goBack
  | startRecording | stopRecording | didFinishRecording _ _ => none

variable {teamAPlayers teamBPlayers : List String} {videoOf : ℕ → List UInt8}

/-- The player whose buttons are shown is the one at the current position. -/
theorem currentPlayer_eq_some_iff {s : RecordingStep} {player : String} :
    s.currentPlayer teamAPlayers teamBPlayers = some player ↔
      s.currentStep = 1 ∧ (allPlayers teamAPlayers teamBPlayers)[s.currentPlayerIndex]? =
        some player := by
  unfold RecordingStep.currentPlayer
  split
  · next hone => exact ⟨fun h ↦ ⟨hone, h⟩, And.right⟩
  · next hne => exact ⟨fun h ↦ (nomatch h), fun h ↦ absurd h.1 hne⟩

/-- **Simulation.**  Without the camera, the recording step is the wizard. -/
theorem simulates_stepView :
    Simulates (stepRecording teamAPlayers teamBPlayers videoOf) stepView
      (RecordingStep.view · teamAPlayers teamBPlayers) RecordingAction.wizard? where
  seen := by
    intro s a s' b hstep haction
    cases a with
    | confirmPlayers =>
        cases haction
        simp only [stepRecording] at hstep
        split at hstep
        · next hzero =>
            cases hstep
            exact if_pos hzero
        · cases hstep
    | uploadVideo boundary readable =>
        cases haction
        simp only [stepRecording] at hstep
        split at hstep
        · next player hplayer =>
            obtain ⟨hone, hcurrent⟩ := currentPlayer_eq_some_iff.mp hplayer
            obtain ⟨hlt, -⟩ := List.getElem?_eq_some_iff.mp hcurrent
            have henabled : (s.view teamAPlayers teamBPlayers).currentStep = 1 ∧
                (s.view teamAPlayers teamBPlayers).currentPlayerIndex <
                  (s.view teamAPlayers teamBPlayers).players.length := ⟨hone, hlt⟩
            split at hstep
            · next hnext =>
                cases hstep
                exact (if_pos henabled).trans (if_pos hnext)
            · next hlast =>
                cases hstep
                exact (if_pos henabled).trans (if_neg hlast)
        · cases hstep
    | goBack =>
        cases haction
        simp only [stepRecording] at hstep
        split at hstep
        · next hpos =>
            cases hstep
            exact if_pos hpos
        · cases hstep
    | startRecording | stopRecording | didFinishRecording _ _ => cases haction
  unseen := by
    intro s a s' hstep haction
    cases a with
    | startRecording | stopRecording | didFinishRecording _ _ =>
        -- the camera, and what it has recorded
        simp only [stepRecording] at hstep
        split at hstep
        · split at hstep
          all_goals
            cases hstep
            rfl
        · cases hstep
    | confirmPlayers | uploadVideo _ _ | goBack => cases haction

/-- **The recording step.**  Its runs are runs of the wizard, so they visit the players in
order as well. -/
theorem visitedInOrder_of_exec_recording {actions : List RecordingAction} {s : RecordingStep}
    (hexec : exec (stepRecording teamAPlayers teamBPlayers videoOf) .start actions = some s) :
    VisitedInOrder (RecordingStep.start.view teamAPlayers teamBPlayers)
      (actions.filterMap RecordingAction.wizard?) (s.view teamAPlayers teamBPlayers) :=
  visitedInOrder_of_exec rfl rfl (simulates_stepView.exec hexec)

end Courtside
