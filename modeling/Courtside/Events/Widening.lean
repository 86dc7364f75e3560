import Courtside.Events.Shots

/-!
# Wider windows

What a call returns depends on the size of its window.  A wider window takes shots that come
soon after one another for one shot, so it reports some of the shots which a narrower one
reports, and none besides; and a possession that changes as a shot goes up is reported only
if the shot is not.

So from the frame on which both have filled their windows, a wider window loses shots but no
change of possession (`processFrames_widening`), and within one call the shots are more than a
window apart, which bounds their number.
-/

namespace Courtside

open SlidingWindow

/-! ## Spaced indices -/

/-- Indices from `lo` on and below `n`, with gaps of more than `w` between them. -/
theorem length_mul_le_of_spaced {w n : ℕ} {indices : List ℕ}
    (hspaced : indices.Pairwise fun a b ↦ a + w < b) (lo : ℕ)
    (hbounds : ∀ i ∈ indices, lo ≤ i ∧ i < n) : indices.length * (w + 1) ≤ n - lo + w := by
  induction indices generalizing lo with
  | nil => simp
  | cons a indices ih =>
      obtain ⟨hnext, hspaced⟩ := List.pairwise_cons.mp hspaced
      obtain ⟨⟨hlo, hn⟩, hbounds⟩ := List.forall_mem_cons.mp hbounds
      rw [List.length_cons, Nat.succ_mul]
      cases indices with
      | nil =>
          rw [List.length_nil]
          omega
      | cons b indices =>
          have hrest := ih hspaced (a + w + 1) fun i hi ↦ ⟨hnext i hi, (hbounds i hi).2⟩
          have hb := hnext b List.mem_cons_self
          have hbn := (hbounds b List.mem_cons_self).2
          omega

/-- What gives at most what another does gives a part of it. -/
theorem filterMap_sublist_of_le {α β : Type*} {f g : α → Option β} {as : List α}
    (h : ∀ a ∈ as, f a = none ∨ f a = g a) : (as.filterMap f).Sublist (as.filterMap g) := by
  induction as with
  | nil => exact List.Sublist.refl _
  | cons a as ih =>
      obtain ⟨ha, has⟩ := List.forall_mem_cons.mp h
      rcases ha with hnone | hsame
      · rw [List.filterMap_cons_none hnone, List.filterMap_cons]
        split
        · exact ih has
        · exact (ih has).cons _
      · rw [List.filterMap_cons, List.filterMap_cons, hsame]
        split
        · exact ih has
        · exact (ih has).cons_cons _

/-- The frames after a wider window are the last of those after a narrower one. -/
theorem range'_eq_append {w w' n : ℕ} (hw : w ≤ w') (hn : w' ≤ n) :
    List.range' w (n - w) = List.range' w (w' - w) ++ List.range' w' (n - w') := by
  rw [show n - w = (w' - w) + (n - w') by omega, ← List.range'_append_1,
    show w + (w' - w) = w' by omega]

theorem range'_sublist {w w' n : ℕ} (hw : w ≤ w') :
    (List.range' w' (n - w')).Sublist (List.range' w (n - w)) := by
  by_cases hn : w' ≤ n
  · rw [range'_eq_append hw hn]
    exact List.sublist_append_right _ _
  · rw [show n - w' = 0 by omega]
    exact List.nil_sublist _

variable {frames : List FrameDict} {w w' : ℕ} {frameRate : ℚ}

/-! ## Shots -/

/-- What opens for a wider window opens for a narrower one. -/
theorem ShotOpens.narrow {i : ℕ} (h : ShotOpens frames w' i) (hw : w ≤ w') :
    ShotOpens frames w i := by
  refine ⟨h.1, fun hwithin ↦ h.2 ?_⟩
  obtain ⟨j, hlo, hhi, hj⟩ := hwithin
  exact ⟨j, by omega, hhi, hj⟩

theorem openings_sublist (hw : w ≤ w') : (openings frames w').Sublist (openings frames w) := by
  refine ((List.range' w' (frames.length - w')).monotone_filter_right fun i hi ↦ ?_).trans
    ((range'_sublist hw).filter _)
  exact decide_eq_true ((of_decide_eq_true hi).narrow hw)

/-- Openings are more than a window apart. -/
theorem spaced_openings (frames : List FrameDict) (w : ℕ) :
    (openings frames w).Pairwise fun a b ↦ a + w < b := by
  refine ((List.pairwise_lt_range' (s := w)).filter _).imp_of_mem fun {a b} ha hb hab ↦ ?_
  have hopen := of_decide_eq_true (List.mem_filter.mp ha).2
  by_contra hle
  exact (of_decide_eq_true (List.mem_filter.mp hb).2 : ShotOpens frames w b).2
    ⟨a, by omega, hab, hopen.1⟩

theorem length_openings_mul_le (frames : List FrameDict) (w : ℕ) :
    (openings frames w).length * (w + 1) ≤ frames.length := by
  by_cases hlen : w ≤ frames.length
  · have hbounds : ∀ i ∈ openings frames w, w ≤ i ∧ i < frames.length := fun i hi ↦ by
      have hrange := List.mem_range'_1.mp (List.mem_filter.mp hi).1
      exact ⟨hrange.1, by omega⟩
    have hle := length_mul_le_of_spaced (spaced_openings frames w) w hbounds
    omega
  · rw [openings, show frames.length - w = 0 by omega, List.range'_zero, List.filter_nil,
      List.length_nil, Nat.zero_mul]
    exact Nat.zero_le _

/-! ## Changes of possession -/

/-- The ball changes hands. -/
def Play.isChange : Play → Bool
  | .pass _ _ | .turnover _ | .steal _ => true
  | .shot _ | .dribble _ => false

/-- The events that report a change of possession. -/
def changeEvents (events : List GameEvent) : List GameEvent :=
  events.filter fun event ↦
    event.eventType = .pass ∨ event.eventType = .turnover ∨ event.eventType = .steal

/-- The change of possession that is reported at frame `i`. -/
def changeAt (frames : List FrameDict) (w i : ℕ) : Option Play :=
  (playAt frames w i).filter Play.isChange

theorem changeEvents_playEvents (frames : List FrameDict) (w : ℕ) (frameRate : ℚ) :
    changeEvents (playEvents frames w frameRate) =
      (List.range' w (frames.length - w)).filterMap fun i ↦
        (changeAt frames w i).map (Play.toGameEvent (i / frameRate)) := by
  rw [changeEvents, playEvents, List.filter_filterMap]
  refine List.filterMap_congr fun i _ ↦ ?_
  rw [changeAt]
  cases playAt frames w i with
  | none => rfl
  | some play => cases play <;> rfl

/-- A change that is not hidden behind a shot is not hidden for a wider window. -/
theorem changeAt_widen (frames : List FrameDict) (hw : w ≤ w') (i : ℕ) :
    changeAt frames w i = none ∨ changeAt frames w i = changeAt frames w' i := by
  rw [changeAt, changeAt]
  cases hplay : playAt frames w i with
  | none => exact .inl rfl
  | some play =>
      have hhappens := playAt_eq_some_iff.mp hplay
      have hwide : play.isChange = true → playAt frames w' i = some play := by
        intro hchange
        refine playAt_eq_some_iff.mpr ?_
        cases play with
        | shot possession => cases hchange
        | dribble player => cases hchange
        | pass a b => exact ⟨fun h ↦ hhappens.1 (h.narrow hw), hhappens.2⟩
        | turnover a => exact ⟨fun h ↦ hhappens.1 (h.narrow hw), hhappens.2⟩
        | steal b => exact ⟨fun h ↦ hhappens.1 (h.narrow hw), hhappens.2⟩
      cases hchange : play.isChange with
      | false => exact .inl (by rw [Option.filter_some, hchange]; rfl)
      | true => exact .inr (by rw [hwide hchange])

/-- The changes from a wider window on are reported with that window. -/
theorem changeEvents_sublist (hr : 0 < frameRate) (hw : w ≤ w') :
    ((changeEvents (playEvents frames w frameRate)).filter fun event ↦
        (w' : ℚ) / frameRate ≤ event.time).Sublist
      (changeEvents (playEvents frames w' frameRate)) := by
  have htime (i : ℕ) : (w' : ℚ) / frameRate ≤ i / frameRate ↔ w' ≤ i := by
    rw [div_le_div_iff_of_pos_right hr, Nat.cast_le]
  rw [changeEvents_playEvents, changeEvents_playEvents, List.filter_filterMap]
  have hlate : ∀ i, ((changeAt frames w i).map (Play.toGameEvent (i / frameRate))).filter
      (fun event ↦ decide ((w' : ℚ) / frameRate ≤ event.time)) =
        if w' ≤ i then (changeAt frames w i).map (Play.toGameEvent (i / frameRate)) else none := by
    intro i
    cases changeAt frames w i with
    | none => exact (ite_self _).symm
    | some play =>
        rw [Option.map_some, Option.filter_some, Play.time_toGameEvent]
        simp only [htime, decide_eq_true_eq]
  simp only [hlate]
  by_cases hlen : w' ≤ frames.length
  · have hearly : (List.range' w (w' - w)).filterMap (fun i : ℕ ↦
        if w' ≤ i then (changeAt frames w i).map (Play.toGameEvent (i / frameRate)) else none) =
          [] := by
      refine List.filterMap_eq_nil_iff.mpr fun i hi ↦ if_neg ?_
      have hrange := List.mem_range'_1.mp hi
      omega
    rw [range'_eq_append hw hlen, List.filterMap_append, hearly, List.nil_append]
    refine filterMap_sublist_of_le fun i hi ↦ ?_
    rw [if_pos (List.mem_range'_1.mp hi).1]
    rcases changeAt_widen frames hw i with hnone | hsame
    · exact .inl (by rw [hnone]; rfl)
    · exact .inr (by rw [hsame])
  · have hnone : (List.range' w (frames.length - w)).filterMap (fun i : ℕ ↦
        if w' ≤ i then (changeAt frames w i).map (Play.toGameEvent (i / frameRate)) else none) =
          [] := by
      refine List.filterMap_eq_nil_iff.mpr fun i hi ↦ if_neg ?_
      have hrange := List.mem_range'_1.mp hi
      omega
    rw [hnone]
    exact List.nil_sublist _

/-! ## Calls -/

/-- **Wider windows.**  A call with a wider window reports some of the shots, and from the
frame on which its window is full all the changes of possession, of a call with a narrower
one; and the shots of a call are more than a window apart. -/
theorem processFrames_widening (frames : List FrameDict) {w w' : ℕ} (hw : 1 ≤ w) (hwide : w ≤ w')
    {frameRate : ℚ} (hr : 0 < frameRate) (playerStats : PlayerStatsDict) :
    ∃ events events' stats stats',
      processFramesWithSlidingWindow frames w frameRate playerStats = (.ok events, stats) ∧
      processFramesWithSlidingWindow frames w' frameRate playerStats = (.ok events', stats') ∧
      (shotEvents events').Sublist (shotEvents events) ∧
      ((changeEvents events).filter fun event ↦ (w' : ℚ) / frameRate ≤ event.time).Sublist
        (changeEvents events') ∧
      (shotEvents events).Pairwise (fun a b ↦ a.time + w / frameRate < b.time) ∧
      (shotEvents events).length * (w + 1) ≤ frames.length := by
  refine ⟨_, _, _, _, processFramesWithSlidingWindow_eq frames hw hr.ne' playerStats,
    processFramesWithSlidingWindow_eq frames (hw.trans hwide) hr.ne' playerStats, ?_,
    changeEvents_sublist hr hwide, ?_, ?_⟩
  · rw [shotEvents_playEvents, shotEvents_playEvents]
    exact (openings_sublist hwide).map _
  · rw [shotEvents_playEvents, List.pairwise_map]
    refine (spaced_openings frames w).imp fun {a b} hab ↦ ?_
    rw [Play.time_toGameEvent, Play.time_toGameEvent, ← add_div,
      div_lt_div_iff_of_pos_right hr]
    exact_mod_cast hab
  · rw [shotEvents_playEvents, List.length_map]
    exact length_openings_mul_le frames w

theorem processFrames_widening_sample :
    ∃ events events' stats stats',
      processFramesWithSlidingWindow sampleFrames 1 30 Dict.empty = (.ok events, stats) ∧
      processFramesWithSlidingWindow sampleFrames 2 30 Dict.empty = (.ok events', stats') ∧
      (shotEvents events').Sublist (shotEvents events) ∧
      ((changeEvents events).filter fun event ↦ ((2 : ℕ) : ℚ) / 30 ≤ event.time).Sublist
        (changeEvents events') ∧
      (shotEvents events).Pairwise (fun a b ↦ a.time + ((1 : ℕ) : ℚ) / 30 < b.time) ∧
      (shotEvents events).length * (1 + 1) ≤ sampleFrames.length :=
  processFrames_widening sampleFrames (le_refl 1) (by decide) (by norm_num) Dict.empty

end Courtside
