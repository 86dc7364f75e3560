import Courtside.Data.Run
import Mathlib.Data.Rat.Defs
import Mathlib.Algebra.Order.Ring.Rat

/-!
# Trimming a game video

`UploadGameView` keeps the bounds of a trim in two variables.  Each has a slider over the
length of the video and a handler that runs after the variable has changed: the start is
pulled back to the end, and the end is pushed up to the start.

Choosing a video sets its length and moves the end there, but leaves the start where it was
for the video before.  If that is past the end of the new video, the handler of the end
pushes the end up to it, past the end of the video as well, and moving the end does not help:
the handler pushes it up again.

The trim that is submitted lies in the video if and only if the start did when the end was
last written by a choice or by its slider (`trim_valid_iff`).
-/

namespace Courtside

/-! ## The state -/

/-- What is exported: a range of a video, in seconds. -/
structure ExportSession where
  asset : String
  start : ℚ
  duration : ℚ
deriving DecidableEq

/-- `UploadGameView`, without the progress of an upload.  A handler is pending while the
variable it observes is marked as changed. -/
structure UploadGameView where
  selectedVideoURL : Option String
  trimStart : ℚ
  trimEnd : ℚ
  videoDuration : ℚ
  trimStartChanged : Bool
  trimEndChanged : Bool
  /-- The last export. -/
  exportSession : Option ExportSession
deriving DecidableEq

/-- What the user does, and the handlers. -/
inductive TrimAction where
  | selectVideo (url : String) (duration : ℚ)
  | moveTrimStart (value : ℚ)
  | moveTrimEnd (value : ℚ)
  | onChangeTrimStart
  | onChangeTrimEnd
  /-- Whether the video can be exported. -/
  | submit (supported : Bool)
deriving DecidableEq

namespace UploadGameView

/-- The view when it appears. -/
def new : UploadGameView where
  selectedVideoURL := none
  trimStart := 0
  trimEnd := 0
  videoDuration := 0
  trimStartChanged := false
  trimEndChanged := false
  exportSession := none

variable (s : UploadGameView)

/-- No handler is pending. -/
def Settled : Prop := s.trimStartChanged = false ∧ s.trimEndChanged = false

instance : Decidable s.Settled := inferInstanceAs (Decidable (_ ∧ _))

def setTrimStart (value : ℚ) : UploadGameView :=
  { s with
    trimStart := value
    trimStartChanged := s.trimStartChanged || decide (s.trimStart ≠ value) }

def setTrimEnd (value : ℚ) : UploadGameView :=
  { s with
    trimEnd := value
    trimEndChanged := s.trimEndChanged || decide (s.trimEnd ≠ value) }

/-- `imagePickerController(_:didFinishPickingMediaWithInfo:)`. -/
def selectVideo (url : String) (duration : ℚ) : UploadGameView :=
  { s with selectedVideoURL := url, videoDuration := duration }.setTrimEnd duration

/-- `onChange(of: trimStart)`. -/
def onChangeTrimStart : UploadGameView :=
  let s := { s with trimStartChanged := false }
  if s.trimEnd < s.trimStart then s.setTrimStart s.trimEnd else s

/-- `onChange(of: trimEnd)`. -/
def onChangeTrimEnd : UploadGameView :=
  let s := { s with trimEndChanged := false }
  if s.trimEnd < s.trimStart then s.setTrimEnd s.trimStart else s

variable {s} in
theorem onChangeTrimStart_of_lt (h : s.trimEnd < s.trimStart) :
    s.onChangeTrimStart = { s with trimStartChanged := false }.setTrimStart s.trimEnd := if_pos h

variable {s} in
theorem onChangeTrimStart_of_not_lt (h : ¬ s.trimEnd < s.trimStart) :
    s.onChangeTrimStart = { s with trimStartChanged := false } := if_neg h

variable {s} in
theorem onChangeTrimEnd_of_lt (h : s.trimEnd < s.trimStart) :
    s.onChangeTrimEnd = { s with trimEndChanged := false }.setTrimEnd s.trimStart := if_pos h

variable {s} in
theorem onChangeTrimEnd_of_not_lt (h : ¬ s.trimEnd < s.trimStart) :
    s.onChangeTrimEnd = { s with trimEndChanged := false } := if_neg h

/-- `trimAndUploadVideo`, up to the export. -/
def trimAndUploadVideo (supported : Bool) : UploadGameView :=
  match s.selectedVideoURL with
  | some videoURL =>
      if supported then
        { s with exportSession := some ⟨videoURL, s.trimStart, s.trimEnd - s.trimStart⟩ }
      else s
  | none => s

/-- A slider over the length of the video. -/
def OnSlider (value : ℚ) : Prop := s.selectedVideoURL ≠ none ∧ 0 ≤ value ∧ value ≤ s.videoDuration

instance (value : ℚ) : Decidable (s.OnSlider value) := inferInstanceAs (Decidable (_ ∧ _ ∧ _))

end UploadGameView

/-- One action: the user waits for the handlers. -/
def stepTrim (s : UploadGameView) : TrimAction → Option UploadGameView
  | .selectVideo url duration =>
      if s.Settled ∧ 0 ≤ duration then some (s.selectVideo url duration) else none
  | .moveTrimStart value =>
      if s.Settled ∧ s.OnSlider value then some (s.setTrimStart value) else none
  | .moveTrimEnd value =>
      if s.Settled ∧ s.OnSlider value then some (s.setTrimEnd value) else none
  | .onChangeTrimStart => if s.trimStartChanged then some s.onChangeTrimStart else none
  | .onChangeTrimEnd => if s.trimEndChanged then some s.onChangeTrimEnd else none
  | .submit supported =>
      if s.Settled ∧ s.selectedVideoURL ≠ none then some (s.trimAndUploadVideo supported) else none

/-- The trim lies in the video. -/
structure ValidTrim (s : UploadGameView) : Prop where
  start_nonneg : 0 ≤ s.trimStart
  start_le_end : s.trimStart ≤ s.trimEnd
  end_le : s.trimEnd ≤ s.videoDuration

/-- The end of the trim is written, not by its handler. -/
def WritesTrimEnd : TrimAction → Prop
  | .selectVideo _ _ | .moveTrimEnd _ => True
  | _ => False

/-- The start of the trim lies in the video that is chosen, or has been chosen. -/
def StartFits (s : UploadGameView) : TrimAction → Prop
  | .selectVideo _ duration => s.trimStart ≤ duration
  | _ => s.trimStart ≤ s.videoDuration

/-! ## Invariants -/

/-- What holds in every run. -/
structure Trimmed (s : UploadGameView) : Prop where
  start_nonneg : 0 ≤ s.trimStart
  end_nonneg : 0 ≤ s.trimEnd
  /-- The handlers run one at a time. -/
  one : s.trimStartChanged = true → s.trimEndChanged = false
  ordered : s.Settled → s.trimStart ≤ s.trimEnd

/-- The end lies in the video once its handler has run. -/
def EndFits (s : UploadGameView) : Prop :=
  s.trimEnd ≤ s.videoDuration ∧ (s.trimEndChanged = true → s.trimStart ≤ s.videoDuration)

section Steps

variable {s s' : UploadGameView} {a : TrimAction}

namespace Trimmed

variable (h : Trimmed s)

include h

theorem selectVideo (hsettled : s.Settled) {duration : ℚ} (hduration : 0 ≤ duration)
    (url : String) : Trimmed (s.selectVideo url duration) := by
  refine ⟨h.start_nonneg, hduration, fun hstart ↦ ?_, fun hsettled' ↦ ?_⟩
  · cases hsettled.1.symm.trans hstart
  · have hend : s.trimEnd = duration := by
      simpa [UploadGameView.selectVideo, UploadGameView.setTrimEnd, hsettled.2] using hsettled'.2
    exact (h.ordered hsettled).trans hend.le

theorem moveTrimStart (hsettled : s.Settled) {value : ℚ} (hvalue : 0 ≤ value) :
    Trimmed (s.setTrimStart value) := by
  refine ⟨hvalue, h.end_nonneg, fun _ ↦ hsettled.2, fun hsettled' ↦ ?_⟩
  have hstart : s.trimStart = value := by
    simpa [UploadGameView.setTrimStart, hsettled.1] using hsettled'.1
  exact hstart.symm.le.trans (h.ordered hsettled)

theorem moveTrimEnd (hsettled : s.Settled) {value : ℚ} (hvalue : 0 ≤ value) :
    Trimmed (s.setTrimEnd value) := by
  refine ⟨h.start_nonneg, hvalue, fun hstart ↦ ?_, fun hsettled' ↦ ?_⟩
  · cases hsettled.1.symm.trans hstart
  · have hend : s.trimEnd = value := by
      simpa [UploadGameView.setTrimEnd, hsettled.2] using hsettled'.2
    exact (h.ordered hsettled).trans hend.le

theorem onChangeTrimStart (hpending : s.trimStartChanged = true) : Trimmed s.onChangeTrimStart := by
  have hother := h.one hpending
  by_cases hlt : s.trimEnd < s.trimStart
  · rw [UploadGameView.onChangeTrimStart_of_lt hlt]
    exact ⟨h.end_nonneg, h.end_nonneg, fun _ ↦ hother, fun _ ↦ le_rfl⟩
  · rw [UploadGameView.onChangeTrimStart_of_not_lt hlt]
    exact ⟨h.start_nonneg, h.end_nonneg, fun _ ↦ hother, fun _ ↦ not_lt.mp hlt⟩

theorem trimStartChanged_eq_false (hpending : s.trimEndChanged = true) :
    s.trimStartChanged = false := by
  cases hstart : s.trimStartChanged with
  | false => rfl
  | true => cases hpending.symm.trans (h.one hstart)

theorem onChangeTrimEnd (hpending : s.trimEndChanged = true) : Trimmed s.onChangeTrimEnd := by
  have hother : ∀ {p : Prop}, s.trimStartChanged = true → p := by
    intro p hstart
    cases (h.trimStartChanged_eq_false hpending).symm.trans hstart
  by_cases hlt : s.trimEnd < s.trimStart
  · rw [UploadGameView.onChangeTrimEnd_of_lt hlt]
    exact ⟨h.start_nonneg, h.start_nonneg, hother, fun _ ↦ le_rfl⟩
  · rw [UploadGameView.onChangeTrimEnd_of_not_lt hlt]
    exact ⟨h.start_nonneg, h.end_nonneg, hother, fun _ ↦ not_lt.mp hlt⟩

end Trimmed

/-- What an action is, and what it does. -/
theorem stepTrim_cases (hstep : stepTrim s a = some s') :
    (∃ url duration, a = .selectVideo url duration ∧ s.Settled ∧ 0 ≤ duration ∧
      s' = s.selectVideo url duration) ∨
    (∃ value, a = .moveTrimStart value ∧ s.Settled ∧ s.OnSlider value ∧
      s' = s.setTrimStart value) ∨
    (∃ value, a = .moveTrimEnd value ∧ s.Settled ∧ s.OnSlider value ∧ s' = s.setTrimEnd value) ∨
    (a = .onChangeTrimStart ∧ s.trimStartChanged = true ∧ s' = s.onChangeTrimStart) ∨
    (a = .onChangeTrimEnd ∧ s.trimEndChanged = true ∧ s' = s.onChangeTrimEnd) ∨
    ∃ supported, a = .submit supported ∧ s.Settled ∧ s.selectedVideoURL ≠ none ∧
      s' = s.trimAndUploadVideo supported := by
  cases a with
  | selectVideo url duration =>
      obtain ⟨⟨hsettled, hduration⟩, heq⟩ := Option.ite_none_right_eq_some.mp hstep
      exact .inl ⟨url, duration, rfl, hsettled, hduration, (Option.some.inj heq).symm⟩
  | moveTrimStart value =>
      obtain ⟨⟨hsettled, hvalue⟩, heq⟩ := Option.ite_none_right_eq_some.mp hstep
      exact .inr (.inl ⟨value, rfl, hsettled, hvalue, (Option.some.inj heq).symm⟩)
  | moveTrimEnd value =>
      obtain ⟨⟨hsettled, hvalue⟩, heq⟩ := Option.ite_none_right_eq_some.mp hstep
      exact .inr (.inr (.inl ⟨value, rfl, hsettled, hvalue, (Option.some.inj heq).symm⟩))
  | onChangeTrimStart =>
      obtain ⟨hpending, heq⟩ := Option.ite_none_right_eq_some.mp hstep
      exact .inr (.inr (.inr (.inl ⟨rfl, hpending, (Option.some.inj heq).symm⟩)))
  | onChangeTrimEnd =>
      obtain ⟨hpending, heq⟩ := Option.ite_none_right_eq_some.mp hstep
      exact .inr (.inr (.inr (.inr (.inl ⟨rfl, hpending, (Option.some.inj heq).symm⟩))))
  | submit supported =>
      obtain ⟨⟨hsettled, hvideo⟩, heq⟩ := Option.ite_none_right_eq_some.mp hstep
      exact .inr (.inr (.inr (.inr (.inr
        ⟨supported, rfl, hsettled, hvideo, (Option.some.inj heq).symm⟩))))

/-- A submission exports, and changes nothing else. -/
theorem trimAndUploadVideo_cases (supported : Bool) :
    ∃ exported, s.trimAndUploadVideo supported = { s with exportSession := exported } := by
  unfold UploadGameView.trimAndUploadVideo
  split
  · split
    · exact ⟨_, rfl⟩
    · exact ⟨s.exportSession, rfl⟩
  · exact ⟨s.exportSession, rfl⟩

/-- What one action preserves. -/
theorem Trimmed.step (h : Trimmed s) (hstep : stepTrim s a = some s') : Trimmed s' := by
  rcases stepTrim_cases hstep with ⟨url, duration, -, hsettled, hduration, rfl⟩ |
    ⟨value, -, hsettled, ⟨-, hvalue, -⟩, rfl⟩ | ⟨value, -, hsettled, ⟨-, hvalue, -⟩, rfl⟩ |
    ⟨-, hpending, rfl⟩ | ⟨-, hpending, rfl⟩ | ⟨supported, -, -, -, rfl⟩
  · exact h.selectVideo hsettled hduration url
  · exact h.moveTrimStart hsettled hvalue
  · exact h.moveTrimEnd hsettled hvalue
  · exact h.onChangeTrimStart hpending
  · exact h.onChangeTrimEnd hpending
  · obtain ⟨exported, heq⟩ := trimAndUploadVideo_cases (s := s) supported
    rw [heq]
    exact ⟨h.start_nonneg, h.end_nonneg, h.one, h.ordered⟩

/-- Where the end is written within the video, it stays there exactly if the start lies in
the video. -/
theorem Trimmed.endFits_setTrimEnd_iff (h : Trimmed s) (hsettled : s.Settled) {value : ℚ}
    (hvalue : value ≤ s.videoDuration) :
    EndFits (s.setTrimEnd value) ↔ s.trimStart ≤ s.videoDuration := by
  constructor
  · rintro ⟨-, hfits⟩
    by_cases hsame : s.trimEnd = value
    · -- no handler runs, but the start was before the end
      exact (h.ordered hsettled).trans (hsame.le.trans hvalue)
    · exact hfits (by simp [UploadGameView.setTrimEnd, hsame])
  · intro hstart
    exact ⟨hvalue, fun _ ↦ hstart⟩

/-- A choice or the slider of the end leaves the end in the video exactly if the start
lies there. -/
theorem Trimmed.endFits_iff_of_writes (h : Trimmed s) (ha : WritesTrimEnd a)
    (hstep : stepTrim s a = some s') : EndFits s' ↔ StartFits s a := by
  rcases stepTrim_cases hstep with ⟨url, duration, rfl, hsettled, hduration, rfl⟩ |
    ⟨value, rfl, -⟩ | ⟨value, rfl, hsettled, ⟨-, -, hvalue⟩, rfl⟩ | ⟨rfl, -⟩ | ⟨rfl, -⟩ |
    ⟨supported, rfl, -⟩
  · have hchosen : Trimmed { s with selectedVideoURL := url, videoDuration := duration } :=
      ⟨h.start_nonneg, h.end_nonneg, h.one, h.ordered⟩
    exact hchosen.endFits_setTrimEnd_iff hsettled le_rfl
  · cases ha
  · exact h.endFits_setTrimEnd_iff hsettled hvalue
  all_goals cases ha

/-- The other actions leave it where it is. -/
theorem Trimmed.endFits_iff_of_not_writes (h : Trimmed s) (ha : ¬ WritesTrimEnd a)
    (hstep : stepTrim s a = some s') : EndFits s' ↔ EndFits s := by
  rcases stepTrim_cases hstep with ⟨url, duration, rfl, -⟩ |
    ⟨value, rfl, hsettled, -, rfl⟩ | ⟨value, rfl, -⟩ | ⟨rfl, hpending, rfl⟩ |
    ⟨rfl, hpending, rfl⟩ | ⟨supported, rfl, -, -, rfl⟩
  · exact absurd trivial ha
  · have hnone : ∀ {p : Prop}, s.trimEndChanged = true → p := by
      intro p hend
      cases hsettled.2.symm.trans hend
    exact ⟨fun hfits ↦ ⟨hfits.1, hnone⟩, fun hfits ↦ ⟨hfits.1, hnone⟩⟩
  · exact absurd trivial ha
  · have hnone : ∀ {p : Prop}, s.trimEndChanged = true → p := by
      intro p hend
      cases (h.one hpending).symm.trans hend
    by_cases hlt : s.trimEnd < s.trimStart
    · rw [UploadGameView.onChangeTrimStart_of_lt hlt]
      exact ⟨fun hfits ↦ ⟨hfits.1, hnone⟩, fun hfits ↦ ⟨hfits.1, hnone⟩⟩
    · rw [UploadGameView.onChangeTrimStart_of_not_lt hlt]
      exact ⟨fun hfits ↦ ⟨hfits.1, hnone⟩, fun hfits ↦ ⟨hfits.1, hnone⟩⟩
  · by_cases hlt : s.trimEnd < s.trimStart
    · -- the end is pushed up to the start
      rw [UploadGameView.onChangeTrimEnd_of_lt hlt]
      constructor
      · intro hfits
        exact ⟨hlt.le.trans hfits.1, fun _ ↦ hfits.1⟩
      · intro hfits
        exact ⟨hfits.2 hpending, fun _ ↦ hfits.2 hpending⟩
    · rw [UploadGameView.onChangeTrimEnd_of_not_lt hlt]
      constructor
      · intro hfits
        exact ⟨hfits.1, fun _ ↦ (not_lt.mp hlt).trans hfits.1⟩
      · intro hfits
        exact ⟨hfits.1, fun hend ↦ (nomatch hend)⟩
  · obtain ⟨exported, heq⟩ := trimAndUploadVideo_cases (s := s) supported
    rw [heq]
    exact Iff.rfl

end Steps

/-! ## The handlers -/

/-- How often handlers have yet to run. -/
def handlerRuns (s : UploadGameView) : ℕ :=
  if s.Settled then 0 else if s.trimEnd < s.trimStart then 2 else 1

/-- **The handlers finish.**  Each run of a handler is one less to come. -/
theorem handlerRuns_of_step {s s' : UploadGameView} {a : TrimAction} (h : Trimmed s)
    (ha : a = .onChangeTrimStart ∨ a = .onChangeTrimEnd) (hstep : stepTrim s a = some s') :
    handlerRuns s = handlerRuns s' + 1 := by
  rcases ha with rfl | rfl
  · obtain ⟨hpending, heq⟩ := Option.ite_none_right_eq_some.mp hstep
    obtain rfl := Option.some.inj heq
    have hother := h.one hpending
    by_cases hlt : s.trimEnd < s.trimStart
    · rw [UploadGameView.onChangeTrimStart_of_lt hlt]
      simp [handlerRuns, UploadGameView.Settled, UploadGameView.setTrimStart, hpending, hlt,
        hlt.ne']
    · rw [UploadGameView.onChangeTrimStart_of_not_lt hlt]
      simp [handlerRuns, UploadGameView.Settled, hpending, hother, hlt]
  · obtain ⟨hpending, heq⟩ := Option.ite_none_right_eq_some.mp hstep
    obtain rfl := Option.some.inj heq
    have hother := h.trimStartChanged_eq_false hpending
    by_cases hlt : s.trimEnd < s.trimStart
    · rw [UploadGameView.onChangeTrimEnd_of_lt hlt]
      simp [handlerRuns, UploadGameView.Settled, UploadGameView.setTrimEnd, hpending, hlt, hlt.ne]
    · rw [UploadGameView.onChangeTrimEnd_of_not_lt hlt]
      simp [handlerRuns, UploadGameView.Settled, hpending, hother, hlt]

/-! ## All runs -/

variable {actions : List TrimAction} {s s' : UploadGameView}

theorem trimmed_of_exec (hexec : exec stepTrim .new actions = some s) : Trimmed s := by
  have hinit : Trimmed .new := ⟨le_rfl, le_rfl, fun h ↦ (nomatch h), fun _ ↦ le_rfl⟩
  exact exec_state_invariant hinit (fun _ _ _ h _ ↦ h.step) (.of_forall (fun _ _ ↦ trivial) _ _)
    hexec

/-- **Trims.**  In every run, a trim that is submitted lies in the selected video if and only
if the start did when a video was last chosen or the slider of the end last moved. -/
theorem trim_valid_iff {supported : Bool} (hexec : exec stepTrim .new actions = some s)
    (hsubmit : stepTrim s (.submit supported) = some s') :
    ValidTrim s ↔ LastStep stepTrim StartFits WritesTrimEnd .new actions := by
  obtain ⟨⟨hsettled, -⟩, -⟩ := Option.ite_none_right_eq_some.mp hsubmit
  have h := trimmed_of_exec hexec
  have hinit : Trimmed .new := ⟨le_rfl, le_rfl, fun h ↦ (nomatch h), fun _ ↦ le_rfl⟩
  have hfits : EndFits s ↔ LastStep stepTrim StartFits WritesTrimEnd .new actions :=
    iff_lastStep hinit (fun _ _ _ h ↦ h.step) ⟨le_rfl, fun h ↦ (nomatch h)⟩
      (fun _ _ _ h ↦ h.endFits_iff_of_writes) (fun _ _ _ h ↦ h.endFits_iff_of_not_writes) hexec
  rw [← hfits]
  constructor
  · intro hvalid
    exact ⟨hvalid.end_le, fun _ ↦ hvalid.start_le_end.trans hvalid.end_le⟩
  · intro hend
    exact ⟨h.start_nonneg, h.ordered hsettled, hend.1⟩

/-- What is exported of a valid trim is a part of the video. -/
theorem ValidTrim.exportSession (h : ValidTrim s) (hsubmit : stepTrim s (.submit true) = some s') :
    ∃ exported, s'.exportSession = some exported ∧ s.selectedVideoURL = some exported.asset ∧
      0 ≤ exported.start ∧ 0 ≤ exported.duration ∧
      exported.start + exported.duration ≤ s.videoDuration := by
  obtain ⟨⟨-, hvideo⟩, heq⟩ := Option.ite_none_right_eq_some.mp hsubmit
  obtain ⟨videoURL, hvideoURL⟩ := Option.ne_none_iff_exists'.mp hvideo
  rw [UploadGameView.trimAndUploadVideo, hvideoURL] at heq
  obtain rfl := Option.some.inj heq
  refine ⟨⟨videoURL, s.trimStart, s.trimEnd - s.trimStart⟩, rfl, hvideoURL, h.start_nonneg,
    sub_nonneg.mpr h.start_le_end, ?_⟩
  calc
    s.trimStart + (s.trimEnd - s.trimStart) = s.trimEnd := add_sub_cancel _ _
    _ ≤ s.videoDuration := h.end_le

/-- A trim of a video of ten seconds. -/
def sampleTrim : List TrimAction :=
  [.selectVideo "first.mov" 10, .onChangeTrimEnd, .moveTrimStart 8, .onChangeTrimStart]

/-- Another video that the start fits in. -/
theorem trim_valid_iff_sample :
    ∃ s, exec stepTrim .new (sampleTrim ++ [.selectVideo "second.mov" 9, .onChangeTrimEnd]) =
        some s ∧ ValidTrim s ∧
      LastStep stepTrim StartFits WritesTrimEnd .new
        (sampleTrim ++ [.selectVideo "second.mov" 9, .onChangeTrimEnd]) := by
  have hexec : exec stepTrim .new (sampleTrim ++ [.selectVideo "second.mov" 9, .onChangeTrimEnd]) =
      some ⟨"second.mov", 8, 9, 9, false, false, none⟩ := by decide +kernel
  have hvalid : ValidTrim ⟨"second.mov", 8, 9, 9, false, false, none⟩ :=
    ⟨by decide +kernel, by decide +kernel, le_rfl⟩
  have hsubmit : stepTrim ⟨"second.mov", 8, 9, 9, false, false, none⟩ (.submit false) =
      some ⟨"second.mov", 8, 9, 9, false, false, none⟩ := rfl
  exact ⟨_, hexec, hvalid, (trim_valid_iff hexec hsubmit).mp hvalid⟩

/-- A shorter one: the end is pushed up to the start of the first trim, past its end. -/
theorem trim_valid_fails :
    ¬ ∀ (actions : List TrimAction) (supported : Bool) (s s' : UploadGameView),
      exec stepTrim .new actions = some s → stepTrim s (.submit supported) = some s' →
        ValidTrim s := by
  intro h
  have hexec : exec stepTrim .new
      (sampleTrim ++ [.selectVideo "second.mov" 5, .onChangeTrimEnd, .onChangeTrimEnd]) =
        some ⟨"second.mov", 8, 8, 5, false, false, none⟩ := by decide +kernel
  have hvalid := h _ false _ _ hexec rfl
  exact absurd hvalid.end_le (by decide +kernel)

end Courtside
