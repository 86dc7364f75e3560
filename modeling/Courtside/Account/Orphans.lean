import Courtside.Account.Session

/-!
# Accounts without a document

`signUp` creates an account in Auth and then saves its document in Firestore, by way of two
more calls that take the network down and up again.  Nothing takes the account back where
one of the three fails, and where the first does nobody is even told.

So an account has its document exactly if none of the three calls has failed for it
(`accounts_documented`).  Without it the user can neither sign in, as `fetchUser` finds
nothing, nor sign up again, as the email is taken.

The proof counts the chains that still save a document (`savers`): there is one for every
new account at first, and it ends with the document or without.
-/

namespace Courtside

/-! ## Saving -/

/-- The account for which a document will still be saved. -/
def Pending.saving : Pending → Option String
  | .block (.signUp _ _ _ (.ok user)) => user
  | .call (.disableNetwork newUser) => newUser.id
  | .call (.enableNetwork newUser) => newUser.id
  | .call (.setData newUser) => newUser.id
  | _ => none

/-- The accounts for which documents will still be saved. -/
def savers (pending : List Pending) : List String := pending.filterMap Pending.saving

/-- The account whose document is given up when the call ends. -/
def lost : FirebaseCall → Outcome → Option String
  | .disableNetwork newUser, .failure _ => newUser.id
  | .enableNetwork newUser, .failure _ => newUser.id
  | .setData newUser, .failure _ => newUser.id
  | _, _ => none

/-- None of the three calls that save a document fails, unless there is one already. -/
def KeepsSaving (s : Session) : SessionAction → Prop
  | .endCall call outcome => ∀ uid ∈ lost call outcome, uid ∈ s.firebase.users.keys
  | _ => True

instance (s : Session) : DecidablePred (KeepsSaving s)
  | .endCall call outcome =>
      inferInstanceAs (Decidable (∀ uid ∈ lost call outcome, uid ∈ s.firebase.users.keys))
  | .signUp .. | .signIn _ | .signOut _ | .run _ => isTrue trivial

/-- An account that was not there at the start. -/
def Created (accounts₀ accounts : Dict String String) (email uid : String) : Prop :=
  accounts.get? email = some uid ∧ email ∉ accounts₀.keys

/-- What is done to sign in, if the password is right and the network works. -/
def signInWith (email uid : String) (document : User) : List SessionAction :=
  [.signIn email, .endCall (.signIn email) (.success (some uid)),
    .run (.signIn (.ok (some uid))), .endCall (.getDocument uid) (.success none),
    .run (.fetchUser (.ok { document with id := some uid }))]

/-- The account has a document, and signing in displays it. -/
def Documented (s : Session) (email uid : String) : Prop :=
  ∃ document, s.firebase.users.get? uid = some document ∧
    ∃ s', exec stepSession s (signInWith email uid document) = some s' ∧
      s'.manager.user = some { document with id := some uid }

/-- With a document, nothing is in the way of signing in. -/
theorem documented_iff {s : Session} {email uid : String}
    (haccount : s.firebase.accounts.get? email = some uid) (hquiet : s.pending = []) :
    Documented s email uid ↔ uid ∈ s.firebase.users.keys := by
  rw [Dict.mem_keys_iff]
  constructor
  · rintro ⟨document, hdocument, -⟩
    exact ⟨document, hdocument⟩
  · rintro ⟨document, hdocument⟩
    refine ⟨document, hdocument, ?_⟩
    simp [signInWith, exec, stepSession, endCall, runMain, fetchUser, hquiet, haccount, hdocument]

/-! ## One action -/

section Step

variable {pending next : List Pending} {p : Pending}

theorem savers_append (pending next : List Pending) :
    savers (pending ++ next) = savers pending ++ savers next := List.filterMap_append

theorem savers_singleton (p : Pending) : savers [p] = p.saving.toList := by
  rw [savers]
  cases hsaving : p.saving with
  | none => rw [List.filterMap_cons_none hsaving]; rfl
  | some uid => rw [List.filterMap_cons_some hsaving]; rfl

/-- The account of a callback, and those of the others. -/
theorem savers_erase (hp : p ∈ pending) :
    (savers pending).Perm (p.saving.toList ++ savers (pending.erase p)) := by
  rw [← savers_singleton, ← savers_append]
  exact (List.perm_cons_erase hp).filterMap Pending.saving

/-- A call goes on saving the document of its account, or gives it up, and changes neither
accounts nor documents; or it creates an account, whose document is then saved; or it
saves one. -/
theorem endCall_saving {firebase firebase' : Firebase} {call : FirebaseCall} {outcome : Outcome}
    (h : endCall firebase call outcome = some (firebase', next)) :
    (firebase'.accounts = firebase.accounts ∧ firebase'.users = firebase.users ∧
      (Pending.call call).saving.toList = (lost call outcome).toList ++ savers next) ∨
    (∃ email uid, email ∉ firebase.accounts.keys ∧
      (∀ other, firebase.accounts.get? other ≠ some uid) ∧
      firebase'.accounts = firebase.accounts.set email uid ∧ firebase'.users = firebase.users ∧
      lost call outcome = none ∧ (Pending.call call).saving = none ∧ savers next = [uid]) ∨
    ∃ uid document, firebase'.accounts = firebase.accounts ∧
      firebase'.users = firebase.users.set uid document ∧
      lost call outcome = none ∧ (Pending.call call).saving = some uid ∧ savers next = [] := by
  cases call with
  | createUser email firstName lastName =>
      rcases outcome with error | (_ | uid)
      · cases h
        exact .inl ⟨rfl, rfl, rfl⟩
      · cases h
        exact .inl ⟨rfl, rfl, rfl⟩
      · simp only [endCall] at h
        split at h
        · cases h
        · next hfresh =>
            cases h
            refine .inr (.inl ⟨email, uid, fun hmem ↦ hfresh (.inl hmem), fun other hother ↦ ?_,
              rfl, rfl, rfl, rfl, rfl⟩)
            exact hfresh (.inr ⟨(other, uid), Dict.mem_entries_of_get? hother, rfl⟩)
  | signIn email =>
      rcases outcome with error | (_ | uid)
      · cases h
        exact .inl ⟨rfl, rfl, rfl⟩
      · cases h
        exact .inl ⟨rfl, rfl, rfl⟩
      · simp only [endCall] at h
        split at h
        · cases h
          exact .inl ⟨rfl, rfl, rfl⟩
        · cases h
  | disableNetwork newUser =>
      cases outcome with
      | failure error => cases h; exact .inl ⟨rfl, rfl, (List.append_nil _).symm⟩
      | success _ => cases h; exact .inl ⟨rfl, rfl, (savers_singleton _).symm⟩
  | enableNetwork newUser =>
      cases outcome with
      | failure error => cases h; exact .inl ⟨rfl, rfl, (List.append_nil _).symm⟩
      | success _ => cases h; exact .inl ⟨rfl, rfl, (savers_singleton _).symm⟩
  | setData newUser =>
      cases outcome with
      | failure error => cases h; exact .inl ⟨rfl, rfl, (List.append_nil _).symm⟩
      | success _ =>
          simp only [endCall] at h
          split at h
          · next uid huid =>
              cases h
              exact .inr (.inr ⟨uid, _, rfl, rfl, rfl, huid, rfl⟩)
          · cases h
  | getDocument userId =>
      cases outcome with
      | failure error => cases h; exact .inl ⟨rfl, rfl, rfl⟩
      | success _ =>
          simp only [endCall] at h
          split at h
          · cases h
            exact .inl ⟨rfl, rfl, rfl⟩
          · cases h
            exact .inl ⟨rfl, rfl, rfl⟩

/-- A block goes on saving. -/
theorem runMain_saving (manager : AuthenticationManager) (block : MainBlock) :
    (Pending.block block).saving.toList = savers (runMain manager block).2 := by
  rcases block with ⟨email, firstName, lastName, error | (_ | uid)⟩ | ⟨error | (_ | uid)⟩ |
    ⟨newUser, _ | error⟩ | ⟨error | user⟩ | ⟨_ | error⟩ <;> rfl

/-- What an action does to accounts, documents and chains that save one. -/
inductive SavingStep (lost : Option String) (firebase firebase' : Firebase)
    (pending pending' : List Pending) : Prop
  /-- Nothing changes but that a chain may give up. -/
  | goesOn (haccounts : firebase'.accounts = firebase.accounts)
      (husers : firebase'.users = firebase.users)
      (hsavers : (savers pending).Perm (lost.toList ++ savers pending'))
  /-- A new account is to be saved. -/
  | creates (email uid : String) (hemail : email ∉ firebase.accounts.keys)
      (huid : ∀ other, firebase.accounts.get? other ≠ some uid)
      (haccounts : firebase'.accounts = firebase.accounts.set email uid)
      (husers : firebase'.users = firebase.users) (hlost : lost = none)
      (hsavers : (savers pending').Perm (uid :: savers pending))
  /-- A document is saved. -/
  | saves (uid : String) (document : User) (haccounts : firebase'.accounts = firebase.accounts)
      (husers : firebase'.users = firebase.users.set uid document) (hlost : lost = none)
      (hsavers : (savers pending).Perm (uid :: savers pending'))

/-- The account whose document an action gives up. -/
def SessionAction.lost : SessionAction → Option String
  | .endCall call outcome => Courtside.lost call outcome
  | _ => none

/-- Chains that save no document are added. -/
theorem SavingStep.of_savers_eq_nil {firebase firebase' : Firebase} {pending : List Pending}
    (haccounts : firebase'.accounts = firebase.accounts)
    (husers : firebase'.users = firebase.users) (hnext : savers next = []) :
    SavingStep none firebase firebase' pending (pending ++ next) := by
  refine .goesOn haccounts husers ?_
  rw [savers_append, hnext, List.append_nil]
  exact .rfl

theorem stepSession_saving {s s' : Session} {a : SessionAction}
    (h : stepSession s a = some s') :
    SavingStep a.lost s.firebase s'.firebase s.pending s'.pending := by
  cases a with
  | signUp email firstName lastName =>
      cases h
      exact .of_savers_eq_nil rfl rfl rfl
  | signIn email =>
      cases h
      exact .of_savers_eq_nil rfl rfl rfl
  | signOut error =>
      cases error <;>
      · cases h
        exact .of_savers_eq_nil rfl rfl rfl
  | endCall call outcome =>
      simp only [stepSession] at h
      split at h
      · next hmem =>
          obtain ⟨⟨firebase, next⟩, hend, rfl⟩ := Option.map_eq_some_iff.mp h
          have herase := savers_erase hmem
          rcases endCall_saving hend with ⟨haccounts, husers, hsaving⟩ |
            ⟨email, uid, hemail, huid, haccounts, husers, hlost, hsaving, hnext⟩ |
            ⟨uid, document, haccounts, husers, hlost, hsaving, hnext⟩
          · refine .goesOn haccounts husers ?_
            rw [hsaving] at herase
            rw [savers_append]
            refine herase.trans ?_
            rw [List.append_assoc]
            exact List.perm_append_comm.append_left _
          · refine .creates email uid hemail huid haccounts husers hlost ?_
            rw [hsaving] at herase
            rw [savers_append, hnext]
            exact List.perm_append_comm.trans (herase.symm.cons uid)
          · refine .saves uid document haccounts husers hlost ?_
            rw [hsaving] at herase
            rw [savers_append, hnext, List.append_nil]
            exact herase
      · cases h
  | run block =>
      simp only [stepSession] at h
      split at h
      · next hmem =>
          cases h
          refine .goesOn rfl rfl ?_
          rw [savers_append, ← runMain_saving]
          exact (savers_erase hmem).trans List.perm_append_comm
      · cases h

end Step

/-! ## New accounts -/

section Run

variable {accounts₀ : Dict String String}

/-- There is at most one chain that saves an account, and it is a new one. -/
structure SaversNew (accounts₀ : Dict String String) (s : Session) : Prop where
  nodup : (savers s.pending).Nodup
  created : ∀ uid ∈ savers s.pending, ∃ email, Created accounts₀ s.firebase.accounts email uid
  /-- No account is deleted. -/
  old : ∀ email ∈ accounts₀.keys, email ∈ s.firebase.accounts.keys

/-- Every new account has a document, or a chain that will save one. -/
def Provided (accounts₀ : Dict String String) (s : Session) : Prop :=
  ∀ email uid, Created accounts₀ s.firebase.accounts email uid →
    uid ∈ s.firebase.users.keys ∨ uid ∈ savers s.pending

theorem created_set {accounts : Dict String String} {email uid email' uid' : String}
    (hemail : email ∉ accounts.keys) (hold : ∀ other ∈ accounts₀.keys, other ∈ accounts.keys) :
    Created accounts₀ (accounts.set email uid) email' uid' ↔
      email' = email ∧ uid' = uid ∨ Created accounts₀ accounts email' uid' := by
  rw [Created, Created, Dict.get?_set]
  by_cases heq : email' = email
  · subst heq
    have hnone : accounts.get? email' ≠ some uid' := fun hsome ↦
      hemail (Dict.mem_keys_iff.mpr ⟨uid', hsome⟩)
    have hnew : email' ∉ accounts₀.keys := fun hmem ↦ hemail (hold email' hmem)
    simp [hnone, hnew, eq_comm]
  · simp [heq]

theorem SaversNew.step {s s' : Session} {a : SessionAction} (h : SaversNew accounts₀ s)
    (hstep : stepSession s a = some s') : SaversNew accounts₀ s' := by
  cases stepSession_saving hstep with
  | goesOn haccounts _ hsavers =>
      have hsub : (savers s'.pending).Sublist (a.lost.toList ++ savers s'.pending) :=
        List.sublist_append_right _ _
      constructor
      · exact (hsavers.nodup h.nodup).sublist hsub
      · intro uid huid
        rw [haccounts]
        exact h.created uid (hsavers.mem_iff.mpr (hsub.subset huid))
      · rw [haccounts]
        exact h.old
  | creates email uid hemail huid haccounts _ _ hsavers =>
      have hfresh : uid ∉ savers s.pending := by
        intro hmem
        obtain ⟨other, hother, -⟩ := h.created uid hmem
        exact huid other hother
      constructor
      · exact hsavers.nodup_iff.mpr (List.nodup_cons.mpr ⟨hfresh, h.nodup⟩)
      · intro uid' huid'
        rw [haccounts]
        rcases List.mem_cons.mp (hsavers.mem_iff.mp huid') with rfl | hmem
        · exact ⟨email, (created_set hemail h.old).mpr (.inl ⟨rfl, rfl⟩)⟩
        · obtain ⟨other, hother⟩ := h.created uid' hmem
          exact ⟨other, (created_set hemail h.old).mpr (.inr hother)⟩
      · intro other hother
        rw [haccounts]
        exact Dict.mem_keys_set.mpr (.inr (h.old other hother))
  | saves uid document haccounts _ _ hsavers =>
      constructor
      · exact (List.nodup_cons.mp (hsavers.nodup h.nodup)).2
      · intro uid' huid'
        rw [haccounts]
        exact h.created uid' (hsavers.mem_iff.mpr (List.mem_cons_of_mem _ huid'))
      · rw [haccounts]
        exact h.old

/-- **One action.**  New accounts stay kept if and only if the action gives up no document
that has not been saved. -/
theorem provided_step_iff {s s' : Session} {a : SessionAction} (h : SaversNew accounts₀ s)
    (hstep : stepSession s a = some s') :
    Provided accounts₀ s' ↔ Provided accounts₀ s ∧ ∀ uid ∈ a.lost, uid ∈ s.firebase.users.keys := by
  unfold Provided
  cases stepSession_saving hstep with
  | goesOn haccounts husers hsavers =>
      rw [haccounts, husers]
      cases hlost : a.lost with
      | none =>
          rw [hlost] at hsavers
          simp [hsavers.mem_iff]
      | some lost =>
          rw [hlost] at hsavers
          obtain ⟨email, hcreated⟩ := h.created lost (hsavers.mem_iff.mpr List.mem_cons_self)
          have hended : lost ∉ savers s'.pending := (List.nodup_cons.mp (hsavers.nodup h.nodup)).1
          constructor
          · intro hprovided
            constructor
            · intro email' uid' hcreated'
              refine (hprovided email' uid' hcreated').imp_right ?_
              exact fun hmem ↦ hsavers.mem_iff.mpr (List.mem_cons_of_mem _ hmem)
            · rintro uid ⟨⟩
              exact (hprovided email lost hcreated).resolve_right hended
          · rintro ⟨hprovided, hsaved⟩ email' uid' hcreated'
            rcases hprovided email' uid' hcreated' with hdocument | hmem
            · exact .inl hdocument
            · rcases List.mem_cons.mp (hsavers.mem_iff.mp hmem) with rfl | hmem
              · exact .inl (hsaved uid' rfl)
              · exact .inr hmem
  | creates email uid hemail huid haccounts husers hlost hsavers =>
      rw [haccounts, husers, hlost]
      simp only [created_set hemail h.old, hsavers.mem_iff, List.mem_cons]
      constructor
      · intro hprovided
        refine ⟨fun email' uid' hcreated' ↦ ?_, fun _ h ↦ (nomatch h)⟩
        have hne : uid' ≠ uid := fun heq ↦ huid email' (heq ▸ hcreated'.1)
        exact (hprovided email' uid' (.inr hcreated')).imp_right fun hmem ↦ hmem.resolve_left hne
      · rintro ⟨hprovided, -⟩ email' uid' (⟨rfl, rfl⟩ | hcreated')
        · exact .inr (.inl rfl)
        · exact (hprovided email' uid' hcreated').imp_right .inr
  | saves uid document haccounts husers hlost hsavers =>
      rw [haccounts, husers, hlost]
      simp only [hsavers.mem_iff, Dict.mem_keys_set, List.mem_cons]
      constructor
      · refine fun hprovided ↦ ⟨fun email' uid' hcreated' ↦ ?_, fun _ h ↦ (nomatch h)⟩
        rcases hprovided email' uid' hcreated' with (rfl | hdocument) | hmem
        · exact .inr (.inl rfl)
        · exact .inl hdocument
        · exact .inr (.inr hmem)
      · rintro ⟨hprovided, -⟩ email' uid' hcreated'
        rcases hprovided email' uid' hcreated' with hdocument | rfl | hmem
        · exact .inl (.inr hdocument)
        · exact .inl (.inl rfl)
        · exact .inr hmem

end Run

/-! ## All runs -/

theorem keepsSaving_iff {s : Session} {a : SessionAction} :
    KeepsSaving s a ↔ ∀ uid ∈ a.lost, uid ∈ s.firebase.users.keys := by
  cases a with
  | endCall call outcome => rfl
  | _ => exact ⟨fun _ _ h ↦ (nomatch h), fun _ ↦ trivial⟩

/-- The app starts with no chain that saves a document. -/
theorem savers_start (firebase : Firebase) : savers (Session.start firebase).pending = [] := by
  cases hcurrent : firebase.currentUser <;> simp [Session.start, savers, hcurrent, fetchUser,
    Pending.saving]

/-- **No orphans.**  In every state without pending callbacks, the accounts that were created
since the start of the app all have a document, and can be signed in to, if and only if no
call that saves a document has failed for an account without one. -/
theorem accounts_documented {firebase : Firebase} {actions : List SessionAction} {s : Session}
    (hexec : exec stepSession (.start firebase) actions = some s) (hquiet : s.pending = []) :
    (∀ email uid, Created firebase.accounts s.firebase.accounts email uid →
      Documented s email uid) ↔
      AllSteps stepSession KeepsSaving (.start firebase) actions := by
  have hnew : SaversNew firebase.accounts (.start firebase) := by
    constructor
    · rw [savers_start]
      exact List.nodup_nil
    · rw [savers_start]
      exact fun _ h ↦ (nomatch h)
    · exact fun _ h ↦ h
  have hprovided : Provided firebase.accounts (.start firebase) := by
    rintro email uid ⟨hsome, hnone⟩
    exact absurd (Dict.mem_keys_iff.mpr ⟨uid, hsome⟩) hnone
  have hiff := iff_allSteps hnew (fun s a s' h ↦ h.step) hprovided
    (fun s a s' h hstep ↦ (provided_step_iff h hstep).trans (and_congr_right' keepsSaving_iff.symm))
    hexec
  rw [← hiff]
  apply forall₃_congr
  intro email uid hcreated
  have hnobody : uid ∉ savers s.pending := by
    rw [hquiet]
    exact List.not_mem_nil
  rw [documented_iff hcreated.1 hquiet, or_iff_left hnobody]

/-! ## Sample runs -/

/-- Nobody has signed up. -/
def emptyFirebase : Firebase where
  currentUser := none
  accounts := Dict.empty
  users := Dict.empty

/-- Signing up, as far as the first call of Firestore. -/
def signUpSam : List SessionAction :=
  [.signUp "sam@court.side" "Sam" "Kim",
    .endCall (.createUser "sam@court.side" "Sam" "Kim") (.success (some "sam")),
    .run (.signUp "sam@court.side" "Sam" "Kim" (.ok (some "sam")))]

/-- The document is saved. -/
def saveSam : List SessionAction :=
  [.endCall (.disableNetwork sam) (.success none), .endCall (.enableNetwork sam) (.success none),
    .endCall (.setData sam) (.success none), .run (.saveUser sam none)]

/-- Whether an account is there, whether it has a document, and whether nothing is pending. -/
def signedUp (s : Session) : Option String × Bool × Bool :=
  (s.firebase.accounts.get? "sam@court.side", (s.firebase.users.get? "sam").isSome,
    s.pending.isEmpty)

/-- The account has its document, and can be signed in to. -/
theorem accounts_documented_sample :
    ∃ s, exec stepSession (.start emptyFirebase) (signUpSam ++ saveSam) = some s ∧
      Documented s "sam@court.side" "sam" := by
  have hrun : (exec stepSession (.start emptyFirebase) (signUpSam ++ saveSam)).map signedUp =
      some (some "sam", true, true) := by decide
  obtain ⟨s, hs, hsignedUp⟩ := Option.map_eq_some_iff.mp hrun
  obtain ⟨haccount, hrest⟩ := Prod.mk.inj hsignedUp
  have hquiet : s.pending = [] := List.isEmpty_iff.mp (Prod.mk.inj hrest).2
  have hall : AllSteps stepSession KeepsSaving (.start emptyFirebase) (signUpSam ++ saveSam) := by
    decide
  exact ⟨s, hs, (accounts_documented hs hquiet).mpr hall _ _ ⟨haccount, List.not_mem_nil⟩⟩

/-- The document cannot be written, the rules of the store refuse it. -/
def refuseSam : List SessionAction :=
  [.endCall (.disableNetwork sam) (.success none), .endCall (.enableNetwork sam) (.success none),
    .endCall (.setData sam) (.failure "Missing or insufficient permissions."),
    .run (.saveUser sam (some "Missing or insufficient permissions."))]

/-- The account is there, nothing is pending, and its document never comes. -/
theorem accounts_documented_sample_fails :
    ¬ ∀ (firebase : Firebase) (actions : List SessionAction) (s : Session),
      exec stepSession (.start firebase) actions = some s → s.pending = [] →
        ∀ email uid, Created firebase.accounts s.firebase.accounts email uid →
          Documented s email uid := by
  intro h
  have hrun : (exec stepSession (.start emptyFirebase) (signUpSam ++ refuseSam)).map signedUp =
      some (some "sam", false, true) := by decide
  obtain ⟨s, hs, hsignedUp⟩ := Option.map_eq_some_iff.mp hrun
  obtain ⟨haccount, hrest⟩ := Prod.mk.inj hsignedUp
  obtain ⟨hnone, hquiet⟩ := Prod.mk.inj hrest
  obtain ⟨document, hdocument, -⟩ := h emptyFirebase _ s hs (List.isEmpty_iff.mp hquiet)
    "sam@court.side" "sam" ⟨haccount, List.not_mem_nil⟩
  rw [hdocument] at hnone
  cases hnone

end Courtside
