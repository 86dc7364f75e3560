import Mathlib.Data.List.Induction
import Mathlib.Logic.Function.Basic

/-!
# Runs of a transition function

A system is a partial step function `step : σ → α → Option σ`: the state after an
action, or `none` where the action is not enabled.  `exec` runs a list of actions,
and `AllSteps` says that each of them met a condition in the state in which it was
taken.

`exec_invariant` is the only induction over runs.  An invariant here may also speak of the
actions taken so far, so what it has to be checked against is one more action at
the end of a history.
-/

universe u v

namespace Courtside

variable {σ : Type u} {α : Type v} (step : σ → α → Option σ)

/-- The state in which a list of actions ends. -/
def exec : σ → List α → Option σ
  | s, [] => some s
  | s, a :: actions => (step s a).bind fun s' ↦ exec s' actions

/-- Every action of a run met `allowed` in the state in which it was taken. -/
def AllSteps (allowed : σ → α → Prop) : σ → List α → Prop
  | _, [] => True
  | s, a :: actions => allowed s a ∧ ∀ s', step s a = some s' → AllSteps allowed s' actions

variable {step} {allowed : σ → α → Prop}

theorem AllSteps.of_forall (h : ∀ s a, allowed s a) (s : σ) (as : List α) :
    AllSteps step allowed s as := by
  induction as generalizing s with
  | nil => trivial
  | cons a as ih => exact ⟨h s a, fun s' _ ↦ ih s'⟩

/-- A condition that the actions meet in every state. -/
theorem AllSteps.of_forall_mem {as : List α} (h : ∀ a ∈ as, ∀ s, allowed s a) (s : σ) :
    AllSteps step allowed s as := by
  induction as generalizing s with
  | nil => trivial
  | cons a as ih =>
      obtain ⟨ha, has⟩ := List.forall_mem_cons.mp h
      exact ⟨ha s, fun s' _ ↦ ih has s'⟩

/-- Conditions on steps can be checked along a run. -/
instance AllSteps.decidable [∀ s a, Decidable (allowed s a)] :
    ∀ s (actions : List α), Decidable (AllSteps step allowed s actions)
  | _, [] => isTrue trivial
  | s, a :: actions =>
      match hstep : step s a with
      | none => decidable_of_iff (allowed s a)
          ⟨fun ha ↦ ⟨ha, fun _ hs' ↦ (nomatch hstep.symm.trans hs')⟩, And.left⟩
      | some s' =>
          have := AllSteps.decidable s' actions
          decidable_of_iff (allowed s a ∧ AllSteps step allowed s' actions)
            ⟨fun h ↦ ⟨h.1, fun _ hs ↦ Option.some.inj (hstep.symm.trans hs) ▸ h.2⟩,
              fun h ↦ ⟨h.1, h.2 s' hstep⟩⟩

/-- A run can be cut anywhere. -/
theorem exec_append {s t : σ} {as bs : List α} :
    exec step s (as ++ bs) = some t ↔
      ∃ m, exec step s as = some m ∧ exec step m bs = some t := by
  induction as generalizing s with
  | nil => simp [exec]
  | cons a as ih =>
      rw [List.cons_append, exec, exec]
      cases step s a with
      | none => simp
      | some s' => exact ih

/-- The last action of a run. -/
theorem exec_concat {s t : σ} {as : List α} {a : α} :
    exec step s (as ++ [a]) = some t ↔
      ∃ m, exec step s as = some m ∧ step m a = some t := by
  rw [exec_append]
  simp [exec]

/-- An action that is one of another system is taken there, and one that is not changes
nothing there. -/
structure Simulates {τ β : Type*} (step : σ → α → Option σ) (step' : τ → β → Option τ)
    (view : σ → τ) (action? : α → Option β) : Prop where
  seen : ∀ {s a s' b}, step s a = some s' → action? a = some b →
    step' (view s) b = some (view s')
  unseen : ∀ {s a s'}, step s a = some s' → action? a = none → view s' = view s

/-- **Simulation.**  So are the runs. -/
theorem Simulates.exec {τ β : Type*} {step' : τ → β → Option τ} {view : σ → τ}
    {action? : α → Option β} (h : Simulates step step' view action?) {s t : σ} {as : List α}
    (hexec : exec step s as = some t) :
    Courtside.exec step' (view s) (as.filterMap action?) = some (view t) := by
  induction as generalizing s with
  | nil =>
      obtain rfl : s = t := by simpa [Courtside.exec] using hexec
      rfl
  | cons a as ih =>
      obtain ⟨m, hm, hrest⟩ := Option.bind_eq_some_iff.mp hexec
      cases haction : action? a with
      | none =>
          rw [List.filterMap_cons_none haction, ← h.unseen hm haction]
          exact ih hrest
      | some b =>
          rw [List.filterMap_cons_some haction, Courtside.exec, h.seen hm haction]
          exact ih hrest

/-- Systems whose steps match, up to a relation, have matching runs. -/
theorem exec_of_simulation {τ β : Type*} {step' : τ → β → Option τ} {action : α → β}
    {R : σ → τ → Prop}
    (hstep : ∀ s t a s', R s t → step s a = some s' →
      ∃ t', step' t (action a) = some t' ∧ R s' t')
    {s s' : σ} {t : τ} {as : List α} (hR : R s t) (hexec : exec step s as = some s') :
    ∃ t', exec step' t (as.map action) = some t' ∧ R s' t' := by
  induction as generalizing s t with
  | nil =>
      obtain rfl : s = s' := by simpa [exec] using hexec
      exact ⟨t, rfl, hR⟩
  | cons a as ih =>
      obtain ⟨m, hm, hrest⟩ := Option.bind_eq_some_iff.mp hexec
      obtain ⟨t', ht', hR'⟩ := hstep s t a m hR hm
      obtain ⟨t'', ht'', hR''⟩ := ih hR' hrest
      refine ⟨t'', ?_, hR''⟩
      rw [List.map_cons, exec, ht']
      exact ht''

/-- The last action of a run met the condition, and so did those before it. -/
theorem AllSteps.concat {s m : σ} {as : List α} {a : α}
    (h : AllSteps step allowed s (as ++ [a])) (hexec : exec step s as = some m) :
    AllSteps step allowed s as ∧ allowed m a := by
  induction as generalizing s with
  | nil =>
      obtain rfl : s = m := by simpa [exec] using hexec
      exact ⟨trivial, h.1⟩
  | cons b as ih =>
      obtain ⟨hb, hrest⟩ := h
      obtain ⟨s', hs', hexec⟩ := Option.bind_eq_some_iff.mp hexec
      obtain ⟨has, ha⟩ := ih (hrest s' hs') hexec
      refine ⟨⟨hb, fun t ht ↦ ?_⟩, ha⟩
      obtain rfl : s' = t := Option.some.inj (hs'.symm.trans ht)
      exact has

/-- A run met the condition up to its last action and in it. -/
theorem AllSteps.concat_iff {s m : σ} {as : List α} {a : α} (hexec : exec step s as = some m) :
    AllSteps step allowed s (as ++ [a]) ↔ AllSteps step allowed s as ∧ allowed m a := by
  refine ⟨fun h ↦ h.concat hexec, ?_⟩
  rintro ⟨has, ha⟩
  induction as generalizing s with
  | nil =>
      obtain rfl : s = m := by simpa [exec] using hexec
      exact ⟨ha, fun _ _ ↦ trivial⟩
  | cons b as ih =>
      obtain ⟨s', hs', hexec⟩ := Option.bind_eq_some_iff.mp hexec
      refine ⟨has.1, fun t ht ↦ ?_⟩
      obtain rfl : s' = t := Option.some.inj (hs'.symm.trans ht)
      exact ih hexec (has.2 s' hs')

/-- **Invariants.**  What holds initially and is preserved by every allowed step
holds in the state reached by any run of allowed steps. -/
theorem exec_invariant {s₀ : σ} {Inv : List α → σ → Prop} (hinit : Inv [] s₀)
    (hstep : ∀ as s a s', Inv as s → allowed s a → step s a = some s' → Inv (as ++ [a]) s')
    {as : List α} {s : σ} (hall : AllSteps step allowed s₀ as)
    (hexec : exec step s₀ as = some s) : Inv as s := by
  induction as using List.reverseRecOn generalizing s with
  | nil =>
      obtain rfl : s₀ = s := by simpa [exec] using hexec
      exact hinit
  | append_singleton as a ih =>
      obtain ⟨m, hm, hs⟩ := exec_concat.mp hexec
      obtain ⟨has, ha⟩ := hall.concat hm
      exact hstep as m a s (ih has hm) ha hs

/-- Invariants that do not speak of the actions taken. -/
theorem exec_state_invariant {s₀ : σ} {Inv : σ → Prop} (hinit : Inv s₀)
    (hstep : ∀ s a s', Inv s → allowed s a → step s a = some s' → Inv s')
    {as : List α} {s : σ} (hall : AllSteps step allowed s₀ as)
    (hexec : exec step s₀ as = some s) : Inv s := by
  have hhistory : ∀ (as : List α) s a s', Inv s → allowed s a → step s a = some s' → Inv s' :=
    fun _ ↦ hstep
  exact exec_invariant hinit hhistory hall hexec

/-- **Exact conditions.**  A property which a step keeps if and only if it meets a
condition holds after a run if and only if every step met it.  `Inv` is what the steps
may rely on. -/
theorem iff_allSteps {s₀ : σ} {Inv P : σ → Prop} (hinv : Inv s₀)
    (hinv_step : ∀ s a s', Inv s → step s a = some s' → Inv s') (hinit : P s₀)
    (hstep : ∀ s a s', Inv s → step s a = some s' → (P s' ↔ P s ∧ allowed s a))
    {as : List α} {s : σ} (hexec : exec step s₀ as = some s) :
    P s ↔ AllSteps step allowed s₀ as := by
  have hconcat : ∀ as m a s', (exec step s₀ as = some m ∧ Inv m ∧
      (P m ↔ AllSteps step allowed s₀ as)) → True → step m a = some s' →
        exec step s₀ (as ++ [a]) = some s' ∧ Inv s' ∧
          (P s' ↔ AllSteps step allowed s₀ (as ++ [a])) := by
    rintro as m a s' ⟨hm, hinv_m, hiff⟩ - hs
    refine ⟨exec_concat.mpr ⟨m, hm, hs⟩, hinv_step m a s' hinv_m hs, ?_⟩
    rw [hstep m a s' hinv_m hs, hiff, AllSteps.concat_iff hm]
  have hstart : exec step s₀ [] = some s₀ ∧ Inv s₀ ∧ (P s₀ ↔ AllSteps step allowed s₀ []) :=
    ⟨rfl, hinv, fun _ ↦ trivial, fun _ ↦ hinit⟩
  have hrun := exec_invariant hstart hconcat (.of_forall (fun _ _ ↦ trivial) s₀ as) hexec
  exact hrun.2.2

/-! ## The last action of a kind -/

section LastStep

variable {kind : α → Prop} {s₀ s m : σ} {as : List α} {a : α}

variable (step kind allowed) in
/-- The last action of a kind, if there was one, met `allowed` in the state in which it was
taken. -/
def LastStep (s₀ : σ) (actions : List α) : Prop :=
  ∀ before a after m, actions = before ++ a :: after → kind a → (∀ b ∈ after, ¬ kind b) →
    exec step s₀ before = some m → allowed m a

theorem LastStep.concat_of_kind_iff (hexec : exec step s₀ as = some m) (ha : kind a) :
    LastStep step allowed kind s₀ (as ++ [a]) ↔ allowed m a := by
  constructor
  · intro h
    exact h as a [] m rfl ha (fun b hb ↦ (nomatch hb)) hexec
  · intro h before b after t heq hb hafter ht
    rcases List.eq_nil_or_concat after with rfl | ⟨after, c, rfl⟩
    · obtain ⟨rfl, hlast⟩ := List.append_inj' heq rfl
      cases hlast
      cases hexec.symm.trans ht
      exact h
    · -- the last action would be one of the kind after the last of them
      rw [List.concat_eq_append, ← List.cons_append, ← List.append_assoc] at heq
      obtain ⟨-, hlast⟩ := List.append_inj' heq rfl
      cases hlast
      exact absurd ha (hafter a (by simp))

theorem LastStep.concat_of_not_kind_iff (ha : ¬ kind a) :
    LastStep step allowed kind s₀ (as ++ [a]) ↔ LastStep step allowed kind s₀ as := by
  constructor
  · rintro h before b after t rfl hb hafter ht
    refine h before b (after ++ [a]) t (by simp) hb ?_ ht
    exact List.forall_mem_append.mpr ⟨hafter, List.forall_mem_singleton.mpr ha⟩
  · intro h before b after t heq hb hafter ht
    rcases List.eq_nil_or_concat after with rfl | ⟨after, c, rfl⟩
    · obtain ⟨-, hlast⟩ := List.append_inj' heq rfl
      cases hlast
      exact absurd hb ha
    · rw [List.concat_eq_append, ← List.cons_append, ← List.append_assoc] at heq
      obtain ⟨rfl, -⟩ := List.append_inj' heq rfl
      exact h before b after t rfl hb (fun c hc ↦ hafter c (by simp [hc])) ht

/-- **Exact conditions that are made good.**  A property which every action of a kind gives
or takes away, by a condition, and which the others keep, holds after a run if and only if
the last action of the kind met the condition. -/
theorem iff_lastStep {Inv P : σ → Prop} (hinv : Inv s₀)
    (hinv_step : ∀ s a s', Inv s → step s a = some s' → Inv s') (hinit : P s₀)
    (hkind : ∀ s a s', Inv s → kind a → step s a = some s' → (P s' ↔ allowed s a))
    (hother : ∀ s a s', Inv s → ¬ kind a → step s a = some s' → (P s' ↔ P s))
    (hexec : exec step s₀ as = some s) : P s ↔ LastStep step allowed kind s₀ as := by
  have hconcat : ∀ as m a s', (exec step s₀ as = some m ∧ Inv m ∧
      (P m ↔ LastStep step allowed kind s₀ as)) → True → step m a = some s' →
        exec step s₀ (as ++ [a]) = some s' ∧ Inv s' ∧
          (P s' ↔ LastStep step allowed kind s₀ (as ++ [a])) := by
    rintro as m a s' ⟨hm, hinv_m, hiff⟩ - hs
    refine ⟨exec_concat.mpr ⟨m, hm, hs⟩, hinv_step m a s' hinv_m hs, ?_⟩
    by_cases ha : kind a
    · rw [hkind m a s' hinv_m ha hs, LastStep.concat_of_kind_iff hm ha]
    · rw [hother m a s' hinv_m ha hs, hiff, LastStep.concat_of_not_kind_iff ha]
  have hempty : LastStep step allowed kind s₀ [] := by
    intro before a after m heq
    exact absurd heq (by simp)
  have hrun := exec_invariant ⟨rfl, hinv, fun _ ↦ hempty, fun _ ↦ hinit⟩ hconcat
    (.of_forall (fun _ _ ↦ trivial) s₀ as) hexec
  exact hrun.2.2

end LastStep

/-! ## Processes

A system of several processes keeps the phase of each in a function, and an action of one
of them updates it there. -/

section Processes

variable {ι : Type u} {Phase : Type v} [DecidableEq ι] {phase : ι → Phase} {new old : Phase}
  {r i : ι}

/-- A process is where the action put it, or where it was before. -/
theorem update_phase_cases (h : Function.update phase r new i = old) :
    i = r ∧ new = old ∨ i ≠ r ∧ phase i = old := by
  by_cases hi : i = r
  · subst hi
    exact .inl ⟨rfl, by rwa [Function.update_self] at h⟩
  · exact .inr ⟨hi, by rwa [Function.update_of_ne hi] at h⟩

/-- A process is where it was before, if the action puts none there. -/
theorem eq_of_update_phase (h : Function.update phase r new i = old) (hne : new ≠ old) :
    i ≠ r ∧ phase i = old :=
  (update_phase_cases h).resolve_left fun hi ↦ hne hi.2

end Processes

end Courtside
