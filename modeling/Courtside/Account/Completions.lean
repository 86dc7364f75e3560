import Courtside.Account.Session

/-!
# Completions

Whoever signs up, in or out hands over a completion and waits for it to be called.  It goes
from callback to callback along the chain, which `Session` does not record.  Here each
callback carries the number of its operation; without the numbers, and but for the order of
what is pending, this is `Session` (`exec_forget`).

No completion is called twice, and none is lost but where the network cannot be disabled:
there `saveUser` prints the error and calls nothing, and the sign-up neither succeeds nor
fails (`completions_once`).

The progress indicator is another matter, as all operations share it.  It is never left on,
but it may go off while Auth still owes an answer: when exactly is `loading_iff_lastStep`.
-/

namespace Courtside

/-! ## The chains -/

/-- What a block calls its completion with, if its chain ends with it. -/
def completion : MainBlock → Option Bool
  | .signUp _ _ _ (.ok (some _)) | .signIn (.ok (some _)) => none
  | .signUp _ _ _ _ | .signIn _ => some false
  | .saveUser _ error | .signOut error => some error.isNone
  | .fetchUser (.ok _) => some true
  | .fetchUser (.error _) => some false

/-- The callback, or the block that it sends, takes the progress indicator off. -/
def Pending.stopsLoading : Pending → Bool
  | .call (.createUser ..) | .call (.signIn _) | .block (.signUp ..) | .block (.signIn _) => true
  | _ => false

/-- At most so many callbacks of the chain are to come, this one included. -/
def Pending.remaining : Pending → ℕ
  | .call (.createUser ..) => 6
  | .block (.signUp ..) => 5
  | .call (.disableNetwork _) => 4
  | .call (.enableNetwork _) => 3
  | .call (.setData _) => 2
  | .call (.signIn _) => 4
  | .block (.signIn _) => 3
  | .call (.getDocument _) => 2
  | .block (.saveUser ..) | .block (.fetchUser _) | .block (.signOut _) => 1

/-- The app, with the operations that callbacks belong to. -/
structure Chains where
  firebase : Firebase
  manager : AuthenticationManager
  /-- The call of `init` has no completion. -/
  pending : List (Option ℕ × Pending)
  operations : ℕ
  /-- The completions that have been called, and what with. -/
  completed : List (ℕ × Bool)

inductive ChainAction where
  | signUp (email firstName lastName : String)
  | signIn (email : String)
  | signOut (error : Option String)
  | endCall (operation : Option ℕ) (call : FirebaseCall) (outcome : Outcome)
  | run (operation : Option ℕ) (block : MainBlock)
deriving DecidableEq

/-- The action, without the operation. -/
def ChainAction.forget : ChainAction → SessionAction
  | signUp email firstName lastName => .signUp email firstName lastName
  | signIn email => .signIn email
  | signOut error => .signOut error
  | endCall _ call outcome => .endCall call outcome
  | run _ block => .run block

/-- The first callback of a new operation. -/
def ChainAction.first? : ChainAction → Option Pending
  | signUp email firstName lastName => some (.call (.createUser email firstName lastName))
  | signIn email => some (.call (.signIn email))
  | signOut error => some (.block (.signOut error))
  | endCall .. | run .. => none

/-- The operation whose completion is not called, as the network cannot be disabled. -/
def ChainAction.lost? : ChainAction → Option ℕ
  | endCall operation (.disableNetwork _) (.failure _) => operation
  | _ => none

namespace Chains

/-- The app starts. -/
def start (firebase : Firebase) : Chains where
  firebase := firebase
  manager := (Session.start firebase).manager
  pending := (Session.start firebase).pending.map fun p ↦ (none, p)
  operations := 0
  completed := []

/-- A new operation, with its first callback. -/
def begin (s : Chains) (p : Pending) : Chains :=
  { s with
    pending := s.pending ++ [(some s.operations, p)]
    operations := s.operations + 1 }

end Chains

/-- One action. -/
def stepChains (s : Chains) : ChainAction → Option Chains
  | .signUp email firstName lastName =>
      let manager := { s.manager with isLoading := true, errorMessage := none }
      some ({ s with manager }.begin (.call (.createUser email firstName lastName)))
  | .signIn email =>
      let manager := { s.manager with isLoading := true, errorMessage := none }
      some ({ s with manager }.begin (.call (.signIn email)))
  | .signOut none =>
      let firebase := { s.firebase with currentUser := none }
      some ({ s with firebase }.begin (.block (.signOut none)))
  | .signOut (some error) => some (s.begin (.block (.signOut (some error))))
  | .endCall operation call outcome =>
      if (operation, .call call) ∈ s.pending then
        (endCall s.firebase call outcome).map fun (firebase, next) ↦
          { s with
            firebase
            pending := s.pending.erase (operation, .call call) ++
              next.map fun p ↦ (operation, p) }
      else none
  | .run operation block =>
      if (operation, .block block) ∈ s.pending then
        let (manager, next) := runMain s.manager block
        let called := operation.bind fun n ↦ (completion block).map fun success ↦ (n, success)
        some
          { s with
            manager
            pending := s.pending.erase (operation, .block block) ++ next.map fun p ↦ (operation, p)
            completed := s.completed ++ called.toList }
      else none

/-- What an action does: an operation begins, a call ends, or a block runs. -/
inductive ChainStep (s : Chains) : ChainAction → Chains → Prop
  | begins {a : ChainAction} {p : Pending} (firebase : Firebase)
      (manager : AuthenticationManager) (hfirst : a.first? = some p) :
      ChainStep s a ({ s with firebase, manager }.begin p)
  | ends {operation : Option ℕ} {call : FirebaseCall} {outcome : Outcome} {firebase : Firebase}
      {next : List Pending} (hmem : (operation, .call call) ∈ s.pending)
      (hend : endCall s.firebase call outcome = some (firebase, next)) :
      ChainStep s (.endCall operation call outcome)
        { s with
          firebase
          pending := s.pending.erase (operation, .call call) ++ next.map fun p ↦ (operation, p) }
  | runs {operation : Option ℕ} {block : MainBlock}
      (hmem : (operation, .block block) ∈ s.pending) :
      ChainStep s (.run operation block)
        { s with
          manager := (runMain s.manager block).1
          pending := s.pending.erase (operation, .block block) ++
            (runMain s.manager block).2.map fun p ↦ (operation, p)
          completed := s.completed ++ (operation.bind fun n ↦
            (completion block).map fun success ↦ (n, success)).toList }

theorem ChainStep.of_stepChains {s s' : Chains} {a : ChainAction}
    (h : stepChains s a = some s') : ChainStep s a s' := by
  cases a with
  | signUp email firstName lastName =>
      cases h
      exact .begins _ _ rfl
  | signIn email =>
      cases h
      exact .begins _ _ rfl
  | signOut error =>
      cases error <;>
      · cases h
        exact .begins _ _ rfl
  | endCall operation call outcome =>
      obtain ⟨hmem, hmap⟩ := Option.ite_none_right_eq_some.mp h
      obtain ⟨⟨firebase, next⟩, hend, rfl⟩ := Option.map_eq_some_iff.mp hmap
      exact .ends hmem hend
  | run operation block =>
      obtain ⟨hmem, hrun⟩ := Option.ite_none_right_eq_some.mp h
      cases hrun
      exact .runs hmem

/-! ## How chains go on -/

/-- A chain goes on with one callback, which takes the indicator off if the call does, unless
the network cannot be disabled. -/
theorem endCall_next {firebase firebase' : Firebase} {call : FirebaseCall} {outcome : Outcome}
    {next : List Pending} (h : endCall firebase call outcome = some (firebase', next)) :
    (∃ p, next = [p] ∧ p.remaining < (Pending.call call).remaining ∧
      p.stopsLoading = (Pending.call call).stopsLoading ∧
      ∀ operation, (ChainAction.endCall operation call outcome).lost? = none) ∨
    (next = [] ∧ (Pending.call call).stopsLoading = false ∧
      ∀ operation, (ChainAction.endCall operation call outcome).lost? = operation) := by
  cases call with
  | createUser email firstName lastName =>
      rcases outcome with error | (_ | uid)
      · cases h
        exact .inl ⟨_, rfl, by simp [Pending.remaining], rfl, fun _ ↦ rfl⟩
      · cases h
        exact .inl ⟨_, rfl, by simp [Pending.remaining], rfl, fun _ ↦ rfl⟩
      · obtain ⟨-, heq⟩ := Option.ite_none_left_eq_some.mp h
        cases heq
        exact .inl ⟨_, rfl, by simp [Pending.remaining], rfl, fun _ ↦ rfl⟩
  | signIn email =>
      rcases outcome with error | (_ | uid)
      · cases h
        exact .inl ⟨_, rfl, by simp [Pending.remaining], rfl, fun _ ↦ rfl⟩
      · cases h
        exact .inl ⟨_, rfl, by simp [Pending.remaining], rfl, fun _ ↦ rfl⟩
      · obtain ⟨-, heq⟩ := Option.ite_none_right_eq_some.mp h
        cases heq
        exact .inl ⟨_, rfl, by simp [Pending.remaining], rfl, fun _ ↦ rfl⟩
  | disableNetwork newUser =>
      cases outcome with
      | failure error => cases h; exact .inr ⟨rfl, rfl, fun _ ↦ rfl⟩
      | success _ => cases h; exact .inl ⟨_, rfl, by simp [Pending.remaining], rfl, fun _ ↦ rfl⟩
  | enableNetwork newUser =>
      cases outcome with
      | failure error => cases h; exact .inl ⟨_, rfl, by simp [Pending.remaining], rfl, fun _ ↦ rfl⟩
      | success _ => cases h; exact .inl ⟨_, rfl, by simp [Pending.remaining], rfl, fun _ ↦ rfl⟩
  | setData newUser =>
      cases outcome with
      | failure error => cases h; exact .inl ⟨_, rfl, by simp [Pending.remaining], rfl, fun _ ↦ rfl⟩
      | success _ =>
          simp only [endCall] at h
          split at h
          · cases h
            exact .inl ⟨_, rfl, by simp [Pending.remaining], rfl, fun _ ↦ rfl⟩
          · cases h
  | getDocument userId =>
      cases outcome with
      | failure error => cases h; exact .inl ⟨_, rfl, by simp [Pending.remaining], rfl, fun _ ↦ rfl⟩
      | success _ =>
          simp only [endCall] at h
          split at h
          · cases h
            exact .inl ⟨_, rfl, by simp [Pending.remaining], rfl, fun _ ↦ rfl⟩
          · cases h
            exact .inl ⟨_, rfl, by simp [Pending.remaining], rfl, fun _ ↦ rfl⟩

/-- A block goes on with one callback that leaves the indicator alone, or calls its
completion. -/
theorem runMain_next (manager : AuthenticationManager) (block : MainBlock) :
    (∃ p, (runMain manager block).2 = [p] ∧ p.remaining < (Pending.block block).remaining ∧
      p.stopsLoading = false ∧ completion block = none) ∨
      (runMain manager block).2 = [] ∧ ∃ success, completion block = some success := by
  rcases block with ⟨email, firstName, lastName, error | (_ | uid)⟩ | ⟨error | (_ | uid)⟩ |
    ⟨newUser, _ | error⟩ | ⟨error | user⟩ | ⟨_ | error⟩
  · exact .inr ⟨rfl, _, rfl⟩
  · exact .inr ⟨rfl, _, rfl⟩
  · exact .inl ⟨_, rfl, Nat.lt_succ_self _, rfl, rfl⟩
  · exact .inr ⟨rfl, _, rfl⟩
  · exact .inr ⟨rfl, _, rfl⟩
  · exact .inl ⟨_, rfl, Nat.lt_succ_self _, rfl, rfl⟩
  all_goals exact .inr ⟨rfl, _, rfl⟩

/-! ## Without the operations -/

/-- The same app, but for the operations, and for the order of what is pending. -/
structure Forgets (s : Chains) (t : Session) : Prop where
  firebase : t.firebase = s.firebase
  manager : t.manager = s.manager
  pending : t.pending.Perm (s.pending.map Prod.snd)

theorem Forgets.erase {s : Chains} {t : Session} (h : Forgets s t) {operation : Option ℕ}
    {p : Pending} (hp : (operation, p) ∈ s.pending) :
    p ∈ t.pending ∧ (t.pending.erase p).Perm ((s.pending.erase (operation, p)).map Prod.snd) := by
  refine ⟨h.pending.mem_iff.mpr (List.mem_map_of_mem hp), ?_⟩
  have hcons : (s.pending.map Prod.snd).Perm
      (p :: (s.pending.erase (operation, p)).map Prod.snd) :=
    (List.perm_cons_erase hp).map Prod.snd
  have herase := (h.pending.trans hcons).erase p
  rwa [List.erase_cons_head] at herase

theorem Forgets.step {s s' : Chains} {t : Session} (h : Forgets s t) {a : ChainAction}
    (hstep : stepChains s a = some s') :
    ∃ t', stepSession t a.forget = some t' ∧ Forgets s' t' := by
  obtain ⟨hfirebase, hmanager, hpending⟩ := h
  have hbegin (p : Pending) : (t.pending ++ [p]).Perm
      ((s.pending ++ [(some s.operations, p)]).map Prod.snd) := by
    rw [List.map_append]
    exact hpending.append_right [p]
  have hnext (operation : Option ℕ) (next : List Pending) :
      (next.map fun p ↦ (operation, p)).map Prod.snd = next := by
    rw [List.map_map]
    exact List.map_id next
  cases a with
  | signUp email firstName lastName =>
      cases hstep
      exact ⟨_, rfl, hfirebase, by rw [hmanager]; rfl, hbegin _⟩
  | signIn email =>
      cases hstep
      exact ⟨_, rfl, hfirebase, by rw [hmanager]; rfl, hbegin _⟩
  | signOut error =>
      cases error with
      | none =>
          cases hstep
          exact ⟨_, rfl, by rw [hfirebase]; rfl, hmanager, hbegin _⟩
      | some error =>
          cases hstep
          exact ⟨_, rfl, hfirebase, hmanager, hbegin _⟩
  | endCall operation call outcome =>
      obtain ⟨hmem, hmap⟩ := Option.ite_none_right_eq_some.mp hstep
      obtain ⟨⟨firebase', next⟩, hend, rfl⟩ := Option.map_eq_some_iff.mp hmap
      obtain ⟨hmem', herase⟩ := Forgets.erase ⟨hfirebase, hmanager, hpending⟩ hmem
      refine ⟨{ t with
        firebase := firebase'
        pending := t.pending.erase (.call call) ++ next }, ?_, rfl, hmanager, ?_⟩
      · rw [ChainAction.forget, stepSession, if_pos hmem', hfirebase, hend]
        rfl
      · rw [List.map_append, hnext]
        exact herase.append_right next
  | run operation block =>
      obtain ⟨hmem, hrun⟩ := Option.ite_none_right_eq_some.mp hstep
      cases hrun
      obtain ⟨hmem', herase⟩ := Forgets.erase ⟨hfirebase, hmanager, hpending⟩ hmem
      refine ⟨{ t with
        manager := (runMain s.manager block).1
        pending := t.pending.erase (.block block) ++ (runMain s.manager block).2 },
          ?_, hfirebase, rfl, ?_⟩
      · rw [ChainAction.forget, stepSession, if_pos hmem', hmanager]
      · rw [List.map_append, hnext]
        exact herase.append_right _

/-- **Chains are chains of `Session`.**  A run with operations is a run without. -/
theorem exec_forget {firebase : Firebase} {actions : List ChainAction} {s : Chains}
    (hexec : exec stepChains (.start firebase) actions = some s) :
    ∃ t, exec stepSession (.start firebase) (actions.map ChainAction.forget) = some t ∧
      Forgets s t := by
  refine exec_of_simulation (fun _ _ _ _ h hstep ↦ h.step hstep) ⟨rfl, rfl, ?_⟩ hexec
  rw [Chains.start, List.map_map]
  exact List.Perm.of_eq (List.map_id _).symm

/-! ## The ledger -/

/-- The operations that callbacks belong to. -/
def owners (pending : List (Option ℕ × Pending)) : List ℕ := pending.filterMap Prod.fst

section Ledger

variable {pending : List (Option ℕ × Pending)} {operation : Option ℕ} {p : Pending}

theorem owners_append (pending next : List (Option ℕ × Pending)) :
    owners (pending ++ next) = owners pending ++ owners next := List.filterMap_append

theorem owners_singleton (operation : Option ℕ) (p : Pending) :
    owners [(operation, p)] = operation.toList := by
  cases operation <;> rfl

/-- A callback belongs to one operation. -/
theorem count_owners_erase (hp : (operation, p) ∈ pending) (n : ℕ) :
    (owners pending).count n =
      operation.toList.count n + (owners (pending.erase (operation, p))).count n := by
  have hperm : (owners pending).Perm
      (owners ([(operation, p)] ++ pending.erase (operation, p))) :=
    (List.perm_cons_erase hp).filterMap Prod.fst
  rw [hperm.count_eq, owners_append, owners_singleton, List.count_append]

/-- Each operation has one callback that is pending, or its completion has been called, or it
has been lost. -/
def Ledger (actions : List ChainAction) (s : Chains) : Prop :=
  ∀ n, (owners s.pending).count n + (s.completed.map Prod.fst).count n +
    (actions.filterMap ChainAction.lost?).count n = (List.range s.operations).count n

variable {actions : List ChainAction} {s s' : Chains} {a : ChainAction}

theorem Ledger.begin (h : Ledger actions s) (p : Pending) (ha : a.lost? = none) :
    Ledger (actions ++ [a]) (s.begin p) := by
  intro n
  have hn := h n
  simp only [Chains.begin, owners_append, owners_singleton, List.count_append, Option.toList_some,
    List.range_succ, List.filterMap_append, List.filterMap_cons_none ha, List.filterMap_nil,
    List.count_nil]
  omega

/-- A callback is followed by others of its operation, or by none. -/
theorem Ledger.advance (h : Ledger actions s) (hp : (operation, p) ∈ s.pending)
    {next : List Pending}
    (hpending : s'.pending =
      s.pending.erase (operation, p) ++ next.map fun p ↦ (operation, p))
    (hoperations : s'.operations = s.operations) {called : List ℕ}
    (hcompleted : s'.completed.map Prod.fst = s.completed.map Prod.fst ++ called)
    (hends : owners (next.map fun p ↦ (operation, p)) ++ called ++
      [a].filterMap ChainAction.lost? = operation.toList) : Ledger (actions ++ [a]) s' := by
  intro n
  have hn := h n
  have herase := count_owners_erase hp n
  have hcount := congrArg (List.count n) hends
  rw [List.count_append, List.count_append] at hcount
  rw [hpending, hoperations, hcompleted, owners_append, List.filterMap_append, List.count_append,
    List.count_append, List.count_append]
  omega

theorem Ledger.step (h : Ledger actions s) (hstep : ChainStep s a s') :
    Ledger (actions ++ [a]) s' := by
  cases hstep with
  | begins firebase manager hfirst =>
      have hkept : a.lost? = none := by
        cases a <;> first | rfl | cases hfirst
      exact Ledger.begin (s := { s with firebase, manager }) h _ hkept
  | @ends operation call outcome firebase next hmem hend =>
      have hsame : s.completed.map Prod.fst = s.completed.map Prod.fst ++ [] :=
        (List.append_nil _).symm
      refine h.advance hmem rfl rfl hsame ?_
      rcases endCall_next hend with ⟨p, rfl, -, -, hkept⟩ | ⟨rfl, -, hlost⟩
      · rw [List.map_singleton, owners_singleton, List.filterMap_cons_none (hkept operation)]
        simp
      · rw [List.filterMap_cons, hlost operation]
        cases operation <;> rfl
  | @runs operation block hmem =>
      refine h.advance hmem rfl rfl List.map_append ?_
      rcases runMain_next s.manager block with ⟨p, hnext, -, -, hnone⟩ | ⟨hnext, success, hsome⟩
      · rw [hnext, hnone]
        cases operation <;> rfl
      · rw [hnext, hsome]
        cases operation <;> rfl

end Ledger

/-- **Completions.**  In every run, the operations are those that have one callback pending,
those whose completion has been called, once, and those that are lost because the network
could not be disabled; and none of them is two of these. -/
theorem completions_once {firebase : Firebase} {actions : List ChainAction} {s : Chains}
    (hexec : exec stepChains (.start firebase) actions = some s) :
    (owners s.pending ++ s.completed.map Prod.fst ++ actions.filterMap ChainAction.lost?).Perm
      (List.range s.operations) := by
  have hinit : Ledger [] (.start firebase) := by
    intro n
    have hnone : owners (Chains.start firebase).pending = [] := by
      rw [owners, Chains.start, List.filterMap_map]
      exact List.filterMap_eq_nil_iff.mpr fun _ _ ↦ rfl
    rw [hnone]
    rfl
  have hledger := exec_invariant hinit
    (fun actions s a s' h _ hstep ↦ h.step (.of_stepChains hstep))
    (.of_forall (fun _ _ ↦ trivial) _ actions) hexec
  refine List.perm_iff_count.mpr fun n ↦ ?_
  rw [List.count_append, List.count_append]
  exact hledger n

/-- The user of a new account. -/
def ann : User where
  id := some "ann"
  email := "ann@court.side"
  firstName := "Ann"
  lastName := "Lee"

/-- Sam signs in while Ann signs up, whose document is lost, and signs out at last. -/
def twoOperations : List ChainAction :=
  [.signUp "ann@court.side" "Ann" "Lee", .signIn "sam@court.side",
    .endCall (some 0) (.createUser "ann@court.side" "Ann" "Lee") (.success (some "ann")),
    .run (some 0) (.signUp "ann@court.side" "Ann" "Lee" (.ok (some "ann"))),
    .endCall (some 1) (.signIn "sam@court.side") (.success (some "sam")),
    .run (some 1) (.signIn (.ok (some "sam"))),
    .endCall (some 0) (.disableNetwork ann) (.failure "offline"),
    .endCall (some 1) (.getDocument "sam") (.success none),
    .run (some 1) (.fetchUser (.ok sam)), .signOut none]

theorem completions_once_sample :
    ∃ s, exec stepChains (.start samAccount) twoOperations = some s ∧
      s.completed = [(1, true)] ∧
      ([2] ++ [1] ++ [0]).Perm (List.range s.operations) := by
  have hrun : (exec stepChains (.start samAccount) twoOperations).map
      (fun s ↦ (owners s.pending, s.completed)) = some ([2], [(1, true)]) := by decide
  obtain ⟨s, hs, hends⟩ := Option.map_eq_some_iff.mp hrun
  obtain ⟨howners, hcompleted⟩ := Prod.mk.inj hends
  refine ⟨s, hs, hcompleted, ?_⟩
  have honce := completions_once hs
  rw [howners, hcompleted] at honce
  exact honce

/-! ## The progress indicator -/

/-- Auth still owes an answer to an operation that has put the indicator on. -/
def awaitsAuth (pending : List Pending) : Bool := pending.any Pending.stopsLoading

/-- The indicator is on exactly while Auth owes an answer. -/
def LoadingAgrees (s : Session) : Prop := s.manager.isLoading = awaitsAuth s.pending

/-- The actions that put the indicator on, or take it off. -/
def SessionAction.setsLoading : SessionAction → Bool
  | .signUp .. | .signIn _ => true
  | .run block => (Pending.block block).stopsLoading
  | _ => false

/-- If the action takes the indicator off, Auth owes no other answer. -/
def AnswersLast (s : Session) : SessionAction → Prop
  | .run block => awaitsAuth (s.pending.erase (.block block)) = false
  | _ => True

section Loading

variable {pending : List Pending} {p : Pending} {s s' : Session} {a : SessionAction}

theorem awaitsAuth_append (pending next : List Pending) :
    awaitsAuth (pending ++ next) = (awaitsAuth pending || awaitsAuth next) := List.any_append

theorem awaitsAuth_erase (hp : p ∈ pending) :
    awaitsAuth pending = (p.stopsLoading || awaitsAuth (pending.erase p)) :=
  (List.perm_cons_erase hp).any_eq

/-- What an action does to the indicator, and to the answers that Auth owes. -/
inductive LoadingStep (s s' : Session) (a : SessionAction) : Prop
  | keeps (hsets : a.setsLoading = false)
      (hloading : s'.manager.isLoading = s.manager.isLoading)
      (hawaits : awaitsAuth s'.pending = awaitsAuth s.pending)
  | starts (hsets : a.setsLoading = true) (hlast : AnswersLast s a)
      (hloading : s'.manager.isLoading = true) (hawaits : awaitsAuth s'.pending = true)
  | stops (hsets : a.setsLoading = true)
      (hlast : AnswersLast s a ↔ awaitsAuth s'.pending = false)
      (hloading : s'.manager.isLoading = false)

theorem runMain_isLoading (manager : AuthenticationManager) (block : MainBlock) :
    (runMain manager block).1.isLoading =
      (manager.isLoading && !(Pending.block block).stopsLoading) := by
  rcases block with ⟨email, firstName, lastName, error | (_ | uid)⟩ | ⟨error | (_ | uid)⟩ |
    ⟨newUser, _ | error⟩ | ⟨error | user⟩ | ⟨_ | error⟩ <;>
  simp [runMain, Pending.stopsLoading]

/-- What a block leaves pending owes no answer of Auth. -/
theorem awaitsAuth_runMain (manager : AuthenticationManager) (block : MainBlock) :
    awaitsAuth (runMain manager block).2 = false := by
  rcases runMain_next manager block with ⟨p, hnext, -, hstops, -⟩ | ⟨hnext, -⟩
  · simp [hnext, awaitsAuth, hstops]
  · simp [hnext, awaitsAuth]

theorem awaitsAuth_endCall {firebase firebase' : Firebase} {call : FirebaseCall}
    {outcome : Outcome} {next : List Pending}
    (h : endCall firebase call outcome = some (firebase', next)) :
    awaitsAuth next = (Pending.call call).stopsLoading := by
  rcases endCall_next h with ⟨p, rfl, -, hstops, -⟩ | ⟨rfl, hstops, -⟩
  · simp [awaitsAuth, hstops]
  · simp [awaitsAuth, hstops]

theorem stepSession_loading (h : stepSession s a = some s') : LoadingStep s s' a := by
  cases a with
  | signUp email firstName lastName =>
      cases h
      exact .starts rfl trivial rfl (by simp [awaitsAuth, Pending.stopsLoading])
  | signIn email =>
      cases h
      exact .starts rfl trivial rfl (by simp [awaitsAuth, Pending.stopsLoading])
  | signOut error =>
      cases error <;>
      · cases h
        exact .keeps rfl rfl (by simp [awaitsAuth, Pending.stopsLoading])
  | endCall call outcome =>
      obtain ⟨hmem, hmap⟩ := Option.ite_none_right_eq_some.mp h
      obtain ⟨⟨firebase, next⟩, hend, rfl⟩ := Option.map_eq_some_iff.mp hmap
      refine .keeps rfl rfl ?_
      rw [awaitsAuth_append, awaitsAuth_endCall hend, awaitsAuth_erase hmem, Bool.or_comm]
  | run block =>
      obtain ⟨hmem, hrun⟩ := Option.ite_none_right_eq_some.mp h
      cases hrun
      have hpending : awaitsAuth (s.pending.erase (.block block) ++ (runMain s.manager block).2) =
          awaitsAuth (s.pending.erase (.block block)) := by
        rw [awaitsAuth_append, awaitsAuth_runMain, Bool.or_false]
      have hloading := runMain_isLoading s.manager block
      cases hstops : (Pending.block block).stopsLoading with
      | false =>
          rw [hstops, Bool.not_false, Bool.and_true] at hloading
          refine .keeps hstops hloading ?_
          rw [awaitsAuth_erase hmem, hstops, Bool.false_or]
          exact hpending
      | true =>
          rw [hstops, Bool.not_true, Bool.and_false] at hloading
          exact .stops hstops (hpending ▸ Iff.rfl) hloading

end Loading

/-- **The progress indicator.**  In every run, it is off once Auth owes no answer.  It tells
whether Auth owes one exactly if nothing has put it on or off yet, or the last action that did
put it on, or took it off with the last answer that Auth owed. -/
theorem loading_iff_lastStep {firebase : Firebase} {actions : List SessionAction} {s : Session}
    (hexec : exec stepSession (.start firebase) actions = some s) :
    (awaitsAuth s.pending = false → s.manager.isLoading = false) ∧
    (LoadingAgrees s ↔
      LastStep stepSession AnswersLast (fun a ↦ a.setsLoading = true) (.start firebase)
        actions) := by
  have hstart : LoadingAgrees (.start firebase) := by
    rcases firebase with ⟨_ | uid, accounts, users⟩ <;> rfl
  have hoff (s : Session) (a : SessionAction) (s' : Session)
      (h : awaitsAuth s.pending = false → s.manager.isLoading = false) (_ : True)
      (hstep : stepSession s a = some s') :
      awaitsAuth s'.pending = false → s'.manager.isLoading = false := by
    intro hanswered
    cases stepSession_loading hstep with
    | keeps _ hloading hawaits =>
        rw [hloading]
        exact h (hawaits.symm.trans hanswered)
    | starts _ _ _ hawaits => cases hawaits.symm.trans hanswered
    | stops _ _ hloading => exact hloading
  have hsets (s : Session) (a : SessionAction) (s' : Session) (_ : True)
      (hsets : a.setsLoading = true) (hstep : stepSession s a = some s') :
      LoadingAgrees s' ↔ AnswersLast s a := by
    unfold LoadingAgrees
    cases stepSession_loading hstep with
    | keeps hkeeps => cases hkeeps.symm.trans hsets
    | starts _ hlast hloading hawaits =>
        rw [hloading, hawaits]
        exact iff_of_true rfl hlast
    | stops _ hlast hloading =>
        rw [hloading, hlast]
        exact eq_comm
  have hother (s : Session) (a : SessionAction) (s' : Session) (_ : True)
      (hsets : ¬ a.setsLoading = true) (hstep : stepSession s a = some s') :
      LoadingAgrees s' ↔ LoadingAgrees s := by
    unfold LoadingAgrees
    cases stepSession_loading hstep with
    | keeps _ hloading hawaits => rw [hloading, hawaits]
    | starts hstarts => exact absurd hstarts hsets
    | stops hstops => exact absurd hstops hsets
  exact ⟨exec_state_invariant (fun _ ↦ rfl) hoff (.of_forall (fun _ _ ↦ trivial) _ actions) hexec,
    iff_lastStep trivial (fun _ _ _ _ _ ↦ trivial) hstart hsets hother hexec⟩

/-- The first of two answers takes the indicator off. -/
theorem loading_iff_lastStep_sample :
    ∃ s, exec stepSession (.start samAccount) (.signIn "ann@court.side" :: signInSam) = some s ∧
      s.manager.isLoading = false ∧
      ¬ LastStep stepSession AnswersLast (fun a ↦ a.setsLoading = true) (.start samAccount)
        (.signIn "ann@court.side" :: signInSam) := by
  have hrun : (exec stepSession (.start samAccount)
      (.signIn "ann@court.side" :: signInSam)).map
        (fun s ↦ (s.manager.isLoading, awaitsAuth s.pending)) = some (false, true) := by decide
  obtain ⟨s, hs, hindicator⟩ := Option.map_eq_some_iff.mp hrun
  obtain ⟨hloading, hawaits⟩ := Prod.mk.inj hindicator
  refine ⟨s, hs, hloading, fun hlast ↦ ?_⟩
  have hagrees := (loading_iff_lastStep hs).2.mpr hlast
  rw [LoadingAgrees, hloading, hawaits] at hagrees
  cases hagrees

end Courtside
