import Courtside.Account.Completions

/-!
# The network

Before it writes a document, `saveUser` takes Firestore's network down and up again.  All
chains share the network: while one of them has it down, the writes of the others wait, which
neither succeed nor fail then.  `Session` and `Completions` let calls end whenever they like.

If the network can be taken down and up, and `firestore_client.cc` never says that it cannot,
then whoever takes it down takes it up.  So every operation ends: there is a bound on the
callbacks that it takes, and as long as any are pending, one can come (`operations_end`).  The
condition is needed: where the network cannot be taken up for one account, the document of
another may wait for ever (`operations_end_sample_fails`).
-/

namespace Courtside

/-! ## Writes that wait -/

/-- The app, and whether Firestore uses the network. -/
structure Online where
  chains : Chains
  network : Bool

/-- A callback comes: nothing new begins. -/
def ChainAction.isCallback (a : ChainAction) : Bool := a.first?.isNone

/-- A write ends. -/
def ChainAction.writes : ChainAction → Bool
  | endCall _ (.setData _) _ => true
  | _ => false

/-- The network cannot be taken down or up. -/
def ChainAction.networkFails : ChainAction → Bool
  | endCall _ (.disableNetwork _) (.failure _) | endCall _ (.enableNetwork _) (.failure _) => true
  | _ => false

/-- Whether the network is used after an action. -/
def networkAfter (network : Bool) : ChainAction → Bool
  | .endCall _ (.disableNetwork _) (.success _) => false
  | .endCall _ (.enableNetwork _) (.success _) => true
  | _ => network

/-- The app starts. -/
def Online.start (firebase : Firebase) : Online := { chains := .start firebase, network := true }

/-- One action.  No write ends while the network is down. -/
def stepOnline (s : Online) (a : ChainAction) : Option Online :=
  if a.writes = true ∧ s.network = false then none
  else (stepChains s.chains a).map fun chains ↦ { chains, network := networkAfter s.network a }

/-- No callback can come. -/
def AtRest (s : Online) : Prop := ∀ a : ChainAction, a.isCallback = true → stepOnline s a = none

variable {s s' : Online} {a : ChainAction} {actions : List ChainAction} {firebase : Firebase}

theorem stepOnline_eq_some (h : stepOnline s a = some s') :
    ∃ chains, stepChains s.chains a = some chains ∧
      s' = { chains, network := networkAfter s.network a } := by
  obtain ⟨-, hmap⟩ := Option.ite_none_left_eq_some.mp h
  obtain ⟨chains, hchains, rfl⟩ := Option.map_eq_some_iff.mp hmap
  exact ⟨chains, hchains, rfl⟩

/-- Without the network, these are the runs of `Completions`. -/
theorem exec_chains (hexec : exec stepOnline (.start firebase) actions = some s) :
    exec stepChains (.start firebase) actions = some s.chains := by
  have hsimulation (s : Online) (chains : Chains) (a : ChainAction) (s' : Online)
      (hchains : s.chains = chains) (hstep : stepOnline s a = some s') :
      ∃ chains', stepChains chains (id a) = some chains' ∧ s'.chains = chains' := by
    subst hchains
    obtain ⟨chains', hchains', rfl⟩ := stepOnline_eq_some hstep
    exact ⟨chains', hchains', rfl⟩
  obtain ⟨chains, hchains, rfl⟩ := exec_of_simulation hsimulation rfl hexec
  rwa [List.map_id] at hchains

/-! ## The bound -/

/-- At most so many callbacks are to come. -/
def remaining : List (Option ℕ × Pending) → ℕ
  | [] => 0
  | p :: pending => p.2.remaining + remaining pending

theorem remaining_append (pending next : List (Option ℕ × Pending)) :
    remaining (pending ++ next) = remaining pending + remaining next := by
  induction pending with
  | nil => exact (Nat.zero_add _).symm
  | cons p pending ih => rw [List.cons_append, remaining, remaining, ih, Nat.add_assoc]

theorem remaining_erase {pending : List (Option ℕ × Pending)} {p : Option ℕ × Pending}
    (hp : p ∈ pending) : remaining pending = p.2.remaining + remaining (pending.erase p) := by
  induction pending with
  | nil => cases hp
  | cons q pending ih =>
      by_cases hq : q = p
      · rw [hq, List.erase_cons_head, remaining]
      · have hmem : p ∈ pending := (List.mem_cons.mp hp).resolve_left (Ne.symm hq)
        rw [List.erase_cons_tail (by simpa using hq), remaining, remaining, ih hmem,
          Nat.add_left_comm]

theorem Pending.remaining_pos (p : Pending) : 0 < p.remaining := by
  rcases p with ⟨_ | _ | _ | _ | _ | _⟩ | ⟨_ | _ | _ | _ | _⟩ <;> simp [Pending.remaining]

theorem remaining_first_le {p : Pending} (h : a.first? = some p) : p.remaining ≤ 6 := by
  cases a <;> cases h <;> simp [Pending.remaining]

/-- A callback leaves fewer to come, and an operation takes six at most. -/
theorem ChainStep.remaining {s s' : Chains} (h : ChainStep s a s') :
    (if a.isCallback then 1 else 0) + Courtside.remaining s'.pending + 6 * s.operations ≤
      Courtside.remaining s.pending + 6 * s'.operations := by
  cases h with
  | begins firebase manager hfirst =>
      have hle := remaining_first_le hfirst
      have hcallback : a.isCallback = false := by rw [ChainAction.isCallback, hfirst]; rfl
      rw [hcallback, Chains.begin, remaining_append]
      simp only [Courtside.remaining, Bool.false_eq_true, if_false]
      omega
  | @ends operation call outcome firebase next hmem hend =>
      have hless : Courtside.remaining (next.map fun p ↦ (operation, p)) <
          (Pending.call call).remaining := by
        rcases endCall_next hend with ⟨p, rfl, hless, -⟩ | ⟨rfl, -⟩
        · simpa [Courtside.remaining] using hless
        · exact Pending.remaining_pos _
      rw [remaining_erase hmem, remaining_append]
      simp only [ChainAction.isCallback, ChainAction.first?, Option.isNone_none, if_true]
      omega
  | @runs operation block hmem =>
      have hless : Courtside.remaining ((runMain s.manager block).2.map fun p ↦ (operation, p)) <
          (Pending.block block).remaining := by
        rcases runMain_next s.manager block with ⟨p, hnext, hless, -⟩ | ⟨hnext, -⟩
        · rw [hnext]
          simpa [Courtside.remaining] using hless
        · rw [hnext]
          exact Pending.remaining_pos _
      rw [remaining_erase hmem, remaining_append]
      simp only [ChainAction.isCallback, ChainAction.first?, Option.isNone_none, if_true]
      omega

/-- There is a bound on the callbacks that have come and those that are to come. -/
def Bounded (actions : List ChainAction) (s : Online) : Prop :=
  actions.countP ChainAction.isCallback + remaining s.chains.pending ≤
    6 * s.chains.operations + 2

theorem bounded_start (firebase : Firebase) : Bounded [] (.start firebase) := by
  rcases firebase with ⟨_ | uid, accounts, users⟩ <;>
  simp [Bounded, Online.start, Chains.start, Session.start, remaining, fetchUser,
    Pending.remaining]

theorem Bounded.step (h : Bounded actions s) (hstep : stepOnline s a = some s') :
    Bounded (actions ++ [a]) s' := by
  obtain ⟨chains, hchains, rfl⟩ := stepOnline_eq_some hstep
  have hless := (ChainStep.of_stepChains hchains).remaining
  rw [Bounded] at h
  rw [Bounded, List.countP_append, List.countP_singleton]
  dsimp only
  omega

/-! ## Progress -/

/-- If the network is down, it is about to be taken up. -/
def NetworkComesUp (s : Online) : Prop :=
  s.network = false →
    ∃ operation newUser, (operation, .call (.enableNetwork newUser)) ∈ s.chains.pending

/-- A callback that stays pending unless it comes itself. -/
theorem NetworkComesUp.erase (h : NetworkComesUp s) {p : Option ℕ × Pending}
    (hp : ∀ newUser, p.2 ≠ .call (.enableNetwork newUser)) (hdown : s.network = false)
    (next : List (Option ℕ × Pending)) :
    ∃ operation newUser,
      (operation, .call (.enableNetwork newUser)) ∈ s.chains.pending.erase p ++ next := by
  obtain ⟨operation, newUser, hmem⟩ := h hdown
  have hne : (operation, Pending.call (.enableNetwork newUser)) ≠ p := by
    rintro rfl
    exact hp newUser rfl
  exact ⟨operation, newUser, List.mem_append_left _ ((List.mem_erase_of_ne hne).mpr hmem)⟩

theorem NetworkComesUp.step (h : NetworkComesUp s) (hworks : a.networkFails = false)
    (hstep : stepOnline s a = some s') : NetworkComesUp s' := by
  obtain ⟨chains, hchains, rfl⟩ := stepOnline_eq_some hstep
  intro hdown
  cases ChainStep.of_stepChains hchains with
  | begins firebase manager hfirst =>
      have hsame : networkAfter s.network a = s.network := by
        cases a <;> first | rfl | cases hfirst
      obtain ⟨operation, newUser, hmem⟩ := h (hsame.symm.trans hdown)
      exact ⟨operation, newUser, List.mem_append_left _ hmem⟩
  | @ends operation call outcome firebase next hmem hend =>
      cases call with
      | disableNetwork newUser =>
          cases outcome with
          | failure error => cases hworks
          | success user =>
              -- the same chain takes it up
              cases hend
              exact ⟨operation, newUser, List.mem_append_right _ (List.mem_singleton_self _)⟩
      | enableNetwork newUser =>
          cases outcome with
          | failure error => cases hworks
          | success user => cases hdown
      | createUser | signIn | setData | getDocument =>
          exact h.erase (fun _ heq ↦ by cases heq) hdown _
  | runs hmem => exact h.erase (fun _ heq ↦ by cases heq) hdown _

theorem isSome_endCall_failure (firebase : Firebase) (call : FirebaseCall) (error : String) :
    (endCall firebase call (.failure error)).isSome = true := by
  cases call <;> rfl

/-- As long as callbacks are pending, one of them can come. -/
theorem NetworkComesUp.pending_eq_nil (h : NetworkComesUp s) (hrest : AtRest s) :
    s.chains.pending = [] := by
  cases hnetwork : s.network with
  | false =>
      obtain ⟨operation, newUser, hmem⟩ := h hnetwork
      have hnone := hrest (.endCall operation (.enableNetwork newUser) (.success none)) rfl
      simp [stepOnline, stepChains, endCall, ChainAction.writes, hmem] at hnone
  | true =>
      refine List.eq_nil_iff_forall_not_mem.mpr ?_
      rintro ⟨operation, call | block⟩ hmem
      · have hnone := hrest (.endCall operation call (.failure "")) rfl
        obtain ⟨ended, hended⟩ :=
          Option.isSome_iff_exists.mp (isSome_endCall_failure s.chains.firebase call "")
        simp [stepOnline, stepChains, hnetwork, hmem, hended] at hnone
      · have hnone := hrest (.run operation block) rfl
        simp [stepOnline, stepChains, hnetwork, hmem] at hnone

/-- **Every operation ends.**  In every run in which the network can be taken down and up, the
operations take six callbacks each at most, and two at the start of the app; and when no
callback can come, none is pending, the network is up, and the completion of every operation
has been called, once. -/
theorem operations_end (hexec : exec stepOnline (.start firebase) actions = some s)
    (hworks : ∀ a ∈ actions, a.networkFails = false) :
    actions.countP ChainAction.isCallback ≤ 6 * s.chains.operations + 2 ∧
      (AtRest s → s.chains.pending = [] ∧ s.network = true ∧
        (s.chains.completed.map Prod.fst).Perm (List.range s.chains.operations)) := by
  constructor
  · have hbounded : Bounded actions s := exec_invariant (bounded_start firebase)
      (fun _ _ _ _ h _ hstep ↦ h.step hstep) (.of_forall (fun _ _ ↦ trivial) _ actions) hexec
    exact Nat.le_of_add_right_le hbounded
  · intro hrest
    have hall : AllSteps stepOnline (fun _ a ↦ a.networkFails = false) (.start firebase)
        actions := .of_forall_mem (fun a ha _ ↦ hworks a ha) _
    have hinit : NetworkComesUp (.start firebase) := fun hdown ↦ by cases hdown
    have hup : NetworkComesUp s :=
      exec_state_invariant hinit (fun _ _ _ h ha hstep ↦ h.step ha hstep) hall hexec
    have hnil := hup.pending_eq_nil hrest
    refine ⟨hnil, ?_, ?_⟩
    · rw [← Bool.not_eq_false]
      intro hdown
      obtain ⟨operation, newUser, hmem⟩ := hup hdown
      rw [hnil] at hmem
      cases hmem
    · have honce := completions_once (exec_chains hexec)
      have hlost : actions.filterMap ChainAction.lost? = [] := by
        refine List.filterMap_eq_nil_iff.mpr fun a ha ↦ ?_
        have hworks := hworks a ha
        cases a with
        | endCall operation call outcome =>
            cases call <;> cases outcome <;> first | rfl | cases hworks
        | _ => rfl
      rwa [hnil, hlost, List.append_nil] at honce

/-! ## Sample runs -/

/-- A sign-up, as far as the call that takes the network up. -/
def signUpAnn : List ChainAction :=
  [.signUp "ann@court.side" "Ann" "Lee",
    .endCall (some 0) (.createUser "ann@court.side" "Ann" "Lee") (.success (some "ann")),
    .run (some 0) (.signUp "ann@court.side" "Ann" "Lee" (.ok (some "ann"))),
    .endCall (some 0) (.disableNetwork ann) (.success none),
    .endCall (some 0) (.enableNetwork ann) (.success none)]

theorem operations_end_sample :
    ∃ s, exec stepOnline (.start samAccount) (signUpAnn ++
        [.endCall (some 0) (.setData ann) (.success none),
          .run (some 0) (.saveUser ann none)]) = some s ∧ AtRest s ∧
      (s.chains.completed.map Prod.fst).Perm (List.range 1) := by
  have hrun : (exec stepOnline (.start samAccount) (signUpAnn ++
      [.endCall (some 0) (.setData ann) (.success none), .run (some 0) (.saveUser ann none)])).map
        (fun s ↦ (s.chains.pending, s.chains.operations)) = some ([], 1) := by decide
  obtain ⟨s, hs, hends⟩ := Option.map_eq_some_iff.mp hrun
  obtain ⟨hpending, hoperations⟩ := Prod.mk.inj hends
  have hrest : AtRest s := by
    intro a ha
    cases a with
    | endCall | run => simp [stepOnline, stepChains, hpending]
    | _ => cases ha
  obtain ⟨-, hend⟩ := operations_end hs (by simp [signUpAnn, ChainAction.networkFails])
  obtain ⟨-, -, hcompleted⟩ := hend hrest
  exact ⟨s, hs, hrest, hoperations ▸ hcompleted⟩

/-- The user of another new account. -/
def bob : User where
  id := some "bob"
  email := "bob@court.side"
  firstName := "Bob"
  lastName := "Ito"

/-- Another sign-up takes the network down, and cannot take it up. -/
def signUpBob : List ChainAction :=
  [.signUp "bob@court.side" "Bob" "Ito",
    .endCall (some 1) (.createUser "bob@court.side" "Bob" "Ito") (.success (some "bob")),
    .run (some 1) (.signUp "bob@court.side" "Bob" "Ito" (.ok (some "bob"))),
    .endCall (some 1) (.disableNetwork bob) (.success none),
    .endCall (some 1) (.enableNetwork bob) (.failure "offline"),
    .run (some 1) (.saveUser bob (some "offline"))]

/-- The document of the first account waits for ever. -/
theorem operations_end_sample_fails :
    ¬ ∀ (actions : List ChainAction) (s : Online),
      exec stepOnline (.start samAccount) actions = some s → AtRest s → s.chains.pending = [] := by
  intro h
  have hrun : (exec stepOnline (.start samAccount) (signUpAnn ++ signUpBob)).map
      (fun s ↦ (s.network, s.chains.pending)) = some (false, [(some 0, .call (.setData ann))]) := by
    decide
  obtain ⟨s, hs, hends⟩ := Option.map_eq_some_iff.mp hrun
  obtain ⟨hnetwork, hpending⟩ := Prod.mk.inj hends
  have hrest : AtRest s := by
    intro a ha
    cases a with
    | endCall operation call outcome =>
        cases call <;> simp [stepOnline, stepChains, ChainAction.writes, hnetwork, hpending]
    | run => simp [stepOnline, stepChains, hpending]
    | _ => cases ha
  have hnil := h _ s hs hrest
  rw [hpending] at hnil
  cases hnil

end Courtside
