import Courtside.Data.Dict
import Courtside.Data.Run

/-!
# Signing up, in and out

Every operation of `AuthenticationManager` is a chain: a call of Firebase, whose callback
sends a block to the main queue, which calls Firestore, whose callback sends another block
that sets `user`.  Chains overlap, and none of them looks at what Auth's current user is
by the time it ends.

So `user` can be the account of a session that is over: a document that arrives after the
user has signed out, or one account's document on top of another's session.  It can also
outlive its session where a chain gives up, because none of them clears `user` when Auth
changes hands.

The displayed user and Auth agree in every state without pending callbacks if chains only
end so while something is still to come that puts it right (`user_agrees`): a sign-out
block, or a chain of Auth's current user (`Settling`).
-/

namespace Courtside

/-! ## The data -/

/-- `User`, without the lists that no part of these chains looks at. -/
structure User where
  id : Option String
  email : String
  firstName : String
  lastName : String
deriving DecidableEq, Repr

/-- Auth, and the documents of `users`. -/
structure Firebase where
  currentUser : Option String
  /-- The account of each email. -/
  accounts : Dict String String
  /-- The documents, by their ids. -/
  users : Dict String User

/-- `AuthenticationManager`. -/
structure AuthenticationManager where
  isLoading : Bool
  errorMessage : Option String
  user : Option User
deriving DecidableEq, Repr

/-- A call of Firebase whose callback is still to come. -/
inductive FirebaseCall where
  | createUser (email firstName lastName : String)
  | signIn (email : String)
  | disableNetwork (newUser : User)
  | enableNetwork (newUser : User)
  | setData (newUser : User)
  | getDocument (userId : String)
deriving DecidableEq, Repr

/-- A block that waits on the main queue, with what its callback was given.  Auth gives an
error or a user, who may be missing. -/
inductive MainBlock where
  | signUp (email firstName lastName : String) (result : Except String (Option String))
  | signIn (result : Except String (Option String))
  | saveUser (newUser : User) (error : Option String)
  | fetchUser (result : Except String User)
  | signOut (error : Option String)
deriving DecidableEq

/-- A callback that is pending. -/
inductive Pending where
  | call (call : FirebaseCall)
  | block (block : MainBlock)
deriving DecidableEq

/-- How a call ends: with an error and its description, or without one. -/
inductive Outcome where
  | failure (localizedDescription : String)
  /-- Auth names a user; the other services do not. -/
  | success (user : Option String)
deriving DecidableEq, Repr

/-- The app. -/
structure Session where
  firebase : Firebase
  manager : AuthenticationManager
  pending : List Pending

/-! ## The chains -/

/-- `AuthenticationManager.fetchUser`. -/
def fetchUser (userId : String) : Pending := .call (.getDocument userId)

/-- `FirestoreManager.saveUser`, as far as its first call. -/
def saveUser (newUser : User) : Pending :=
  match newUser.id with
  | some _ => .call (.disableNetwork newUser)
  | none => .block (.saveUser newUser (some "Invalid User ID"))

/-- The end of a call: what becomes of Firebase, and what is pending after its callback.
An account is created for an email that has none, and signed in to under its own id. -/
def endCall (firebase : Firebase) : FirebaseCall → Outcome → Option (Firebase × List Pending)
  | .createUser email firstName lastName, .failure error =>
      some (firebase, [.block (.signUp email firstName lastName (.error error))])
  | .createUser email firstName lastName, .success none =>
      some (firebase, [.block (.signUp email firstName lastName (.ok none))])
  | .createUser email firstName lastName, .success (some uid) =>
      if email ∈ firebase.accounts.keys ∨ ∃ other ∈ firebase.accounts.entries, other.2 = uid then
        none
      else
        some
          ({ firebase with
             currentUser := some uid
             accounts := firebase.accounts.set email uid },
            [.block (.signUp email firstName lastName (.ok (some uid)))])
  | .signIn _, .failure error => some (firebase, [.block (.signIn (.error error))])
  | .signIn _, .success none => some (firebase, [.block (.signIn (.ok none))])
  | .signIn email, .success (some uid) =>
      if firebase.accounts.get? email = some uid then
        some ({ firebase with currentUser := some uid }, [.block (.signIn (.ok (some uid)))])
      else none
  | .disableNetwork _, .failure _ =>
      -- the error is printed, and the completion never called
      some (firebase, [])
  | .disableNetwork newUser, .success _ => some (firebase, [.call (.enableNetwork newUser)])
  | .enableNetwork newUser, .failure error =>
      some (firebase, [.block (.saveUser newUser (some error))])
  | .enableNetwork newUser, .success _ => some (firebase, [.call (.setData newUser)])
  | .setData newUser, .failure error => some (firebase, [.block (.saveUser newUser (some error))])
  | .setData newUser, .success _ =>
      match newUser.id with
      | some uid =>
          some ({ firebase with users := firebase.users.set uid { newUser with id := none } },
            [.block (.saveUser newUser none)])
      | none => none
  | .getDocument _, .failure error => some (firebase, [.block (.fetchUser (.error error))])
  | .getDocument userId, .success _ =>
      match firebase.users.get? userId with
      | some document => some (firebase, [.block (.fetchUser (.ok { document with id := userId }))])
      | none => some (firebase, [.block (.fetchUser (.error "User not found"))])

/-- A block: what becomes of the manager, and what is pending after it. -/
def runMain (manager : AuthenticationManager) : MainBlock → AuthenticationManager × List Pending
  | .signUp _ _ _ (.error error) =>
      ({ manager with isLoading := false, errorMessage := some ("Sign Up Error: " ++ error) }, [])
  | .signUp _ _ _ (.ok none) =>
      ({ manager with isLoading := false, errorMessage := some "User authentication failed" }, [])
  | .signUp email firstName lastName (.ok (some uid)) =>
      ({ manager with isLoading := false }, [saveUser { id := uid, email, firstName, lastName }])
  | .signIn (.error error) =>
      ({ manager with isLoading := false, errorMessage := some ("Sign in failed: " ++ error) }, [])
  | .signIn (.ok none) =>
      ({ manager with isLoading := false, errorMessage := some "Authentication failed" }, [])
  | .signIn (.ok (some uid)) => ({ manager with isLoading := false }, [fetchUser uid])
  | .saveUser _ (some error) =>
      ({ manager with errorMessage := some ("Failed to save user: " ++ error) }, [])
  | .saveUser newUser none => ({ manager with user := some newUser }, [])
  | .fetchUser (.error error) =>
      ({ manager with errorMessage := some ("Failed to fetch user: " ++ error) }, [])
  | .fetchUser (.ok user) => ({ manager with user := some user }, [])
  | .signOut none => ({ manager with user := none }, [])
  | .signOut (some error) =>
      ({ manager with errorMessage := some ("Error signing out: " ++ error) }, [])

/-- What happens next. -/
inductive SessionAction where
  | signUp (email firstName lastName : String)
  | signIn (email : String)
  /-- With the error that Auth throws, if it does. -/
  | signOut (error : Option String)
  | endCall (call : FirebaseCall) (outcome : Outcome)
  | run (block : MainBlock)
deriving DecidableEq

/-- One action.  Callbacks come in any order. -/
def stepSession (s : Session) : SessionAction → Option Session
  | .signUp email firstName lastName =>
      some
        { s with
          manager := { s.manager with isLoading := true, errorMessage := none }
          pending := s.pending ++ [.call (.createUser email firstName lastName)] }
  | .signIn email =>
      some
        { s with
          manager := { s.manager with isLoading := true, errorMessage := none }
          pending := s.pending ++ [.call (.signIn email)] }
  | .signOut none =>
      some
        { s with
          firebase := { s.firebase with currentUser := none }
          pending := s.pending ++ [.block (.signOut none)] }
  | .signOut (some error) =>
      some { s with pending := s.pending ++ [.block (.signOut (some error))] }
  | .endCall call outcome =>
      if .call call ∈ s.pending then
        (endCall s.firebase call outcome).map fun (firebase, next) ↦
          { s with firebase, pending := s.pending.erase (.call call) ++ next }
      else none
  | .run block =>
      if .block block ∈ s.pending then
        let (manager, next) := runMain s.manager block
        some { s with manager, pending := s.pending.erase (.block block) ++ next }
      else none

/-- The app starts: `init` fetches the current user, if there is one. -/
def Session.start (firebase : Firebase) : Session where
  firebase := firebase
  manager := { isLoading := false, errorMessage := none, user := none }
  pending := firebase.currentUser.toList.map fetchUser

/-! ## Agreement -/

/-- The user is Auth's current user. -/
def IsCurrent (currentUser : Option String) (user : User) : Prop :=
  ∃ uid, currentUser = some uid ∧ user.id = some uid

/-- The displayed user is Auth's current user, or there is none. -/
def Agrees (s : Session) : Prop :=
  ∀ user, s.manager.user = some user → IsCurrent s.firebase.currentUser user

/-- The account for which a callback is pending. -/
def Pending.account : Pending → Option String
  | .call (.createUser ..) => none
  | .call (.signIn _) => none
  | .call (.disableNetwork newUser) => newUser.id
  | .call (.enableNetwork newUser) => newUser.id
  | .call (.setData newUser) => newUser.id
  | .call (.getDocument userId) => some userId
  | .block (.signUp _ _ _ (.ok user)) => user
  | .block (.signIn (.ok user)) => user
  | .block (.saveUser newUser none) => newUser.id
  | .block (.fetchUser (.ok user)) => user.id
  | .block _ => none

/-- Something is still to come that makes the displayed user agree with Auth: a sign-out
block, or a callback for Auth's current user. -/
def Settling (currentUser : Option String) (pending : List Pending) : Prop :=
  .block (.signOut none) ∈ pending ∨
    ∃ uid, currentUser = some uid ∧ ∃ p ∈ pending, p.account = some uid

/-- The end of the call is the end of its chain, and sets no user. -/
def givesUp (firebase : Firebase) : FirebaseCall → Outcome → Bool
  | .disableNetwork _, .failure _ => true
  | .enableNetwork _, .failure _ => true
  | .setData _, .failure _ => true
  | .getDocument _, .failure _ => true
  | .getDocument userId, .success _ => (firebase.users.get? userId).isNone
  | _, _ => false

/-- A chain gives up, or sets `user` to an account that is not Auth's current user, only
while something is still to come that puts it right; it may also give up where there is
nothing to put right. -/
def InGoodTime (s : Session) : SessionAction → Prop
  | .endCall call outcome => givesUp s.firebase call outcome = true →
      Agrees s ∨ Settling s.firebase.currentUser (s.pending.erase (.call call))
  | .run (.saveUser newUser none) => IsCurrent s.firebase.currentUser newUser ∨
      Settling s.firebase.currentUser (s.pending.erase (.block (.saveUser newUser none)))
  | .run (.fetchUser (.ok user)) => IsCurrent s.firebase.currentUser user ∨
      Settling s.firebase.currentUser (s.pending.erase (.block (.fetchUser (.ok user))))
  | _ => True

/-! ## One action -/

section Step

variable {currentUser : Option String} {pending next : List Pending} {p : Pending}

theorem Settling.append (h : Settling currentUser pending) (next : List Pending) :
    Settling currentUser (pending ++ next) := by
  rcases h with hsignOut | ⟨uid, huid, q, hq, haccount⟩
  · exact .inl (List.mem_append_left _ hsignOut)
  · exact .inr ⟨uid, huid, q, List.mem_append_left _ hq, haccount⟩

/-- A callback may be replaced by others of its chain. -/
theorem Settling.replace (h : Settling currentUser pending) (hp : p ≠ .block (.signOut none))
    (hnext : ∀ uid, p.account = some uid → ∃ q ∈ next, q.account = some uid) :
    Settling currentUser (pending.erase p ++ next) := by
  rcases h with hsignOut | ⟨uid, huid, q, hq, haccount⟩
  · exact .inl (List.mem_append_left _ ((List.mem_erase_of_ne hp.symm).mpr hsignOut))
  · by_cases hqp : q = p
    · obtain ⟨q', hq', haccount'⟩ := hnext uid (hqp ▸ haccount)
      exact .inr ⟨uid, huid, q', List.mem_append_right _ hq', haccount'⟩
    · exact .inr ⟨uid, huid, q, List.mem_append_left _ ((List.mem_erase_of_ne hqp).mpr hq),
        haccount⟩

/-- A call leaves Auth as it is, and its chain goes on or gives up; or it makes an account
the current user, and goes on for that account. -/
theorem endCall_cases {firebase firebase' : Firebase} {call : FirebaseCall} {outcome : Outcome}
    (h : endCall firebase call outcome = some (firebase', next)) :
    (firebase'.currentUser = firebase.currentUser ∧ (givesUp firebase call outcome = true ∨
      ∀ uid, (Pending.call call).account = some uid → ∃ q ∈ next, q.account = some uid)) ∨
    ∃ uid, firebase'.currentUser = some uid ∧ ∃ q ∈ next, q.account = some uid := by
  cases call with
  | createUser email firstName lastName =>
      rcases outcome with error | (_ | uid)
      · cases h
        exact .inl ⟨rfl, .inr fun _ h ↦ (nomatch h)⟩
      · cases h
        exact .inl ⟨rfl, .inr fun _ h ↦ (nomatch h)⟩
      · simp only [endCall] at h
        split at h
        · cases h
        · cases h
          exact .inr ⟨uid, rfl, _, List.mem_singleton_self _, rfl⟩
  | signIn email =>
      rcases outcome with error | (_ | uid)
      · cases h
        exact .inl ⟨rfl, .inr fun _ h ↦ (nomatch h)⟩
      · cases h
        exact .inl ⟨rfl, .inr fun _ h ↦ (nomatch h)⟩
      · simp only [endCall] at h
        split at h
        · cases h
          exact .inr ⟨uid, rfl, _, List.mem_singleton_self _, rfl⟩
        · cases h
  | disableNetwork newUser =>
      cases outcome with
      | failure error => cases h; exact .inl ⟨rfl, .inl rfl⟩
      | success _ => cases h; exact .inl ⟨rfl, .inr fun _ h ↦ ⟨_, List.mem_singleton_self _, h⟩⟩
  | enableNetwork newUser =>
      cases outcome with
      | failure error => cases h; exact .inl ⟨rfl, .inl rfl⟩
      | success _ => cases h; exact .inl ⟨rfl, .inr fun _ h ↦ ⟨_, List.mem_singleton_self _, h⟩⟩
  | setData newUser =>
      cases outcome with
      | failure error => cases h; exact .inl ⟨rfl, .inl rfl⟩
      | success _ =>
          simp only [endCall] at h
          split at h
          · cases h
            exact .inl ⟨rfl, .inr fun _ h ↦ ⟨_, List.mem_singleton_self _, h⟩⟩
          · cases h
  | getDocument userId =>
      cases outcome with
      | failure error => cases h; exact .inl ⟨rfl, .inl rfl⟩
      | success _ =>
          simp only [endCall] at h
          split at h
          · cases h
            exact .inl ⟨rfl, .inr fun _ h ↦ ⟨_, List.mem_singleton_self _, h⟩⟩
          · next hnone =>
              cases h
              exact .inl ⟨rfl, .inl (by rw [givesUp, hnone]; rfl)⟩

/-- A block leaves `user` as it is, and its chain goes on; or it sets `user`. -/
theorem runMain_cases (manager : AuthenticationManager) (block : MainBlock) :
    ((runMain manager block).1.user = manager.user ∧ block ≠ .signOut none ∧
      ∀ uid, (Pending.block block).account = some uid →
        ∃ q ∈ (runMain manager block).2, q.account = some uid) ∨
    (runMain manager block).1.user = none ∨
    ∃ user, (block = .saveUser user none ∨ block = .fetchUser (.ok user)) ∧
      (runMain manager block).1.user = some user ∧ (runMain manager block).2 = [] := by
  rcases block with ⟨email, firstName, lastName, error | (_ | uid)⟩ | ⟨error | (_ | uid)⟩ |
    ⟨newUser, _ | error⟩ | ⟨error | user⟩ | ⟨_ | error⟩
  · exact .inl ⟨rfl, (fun h ↦ (nomatch h)), fun _ h ↦ (nomatch h)⟩
  · exact .inl ⟨rfl, (fun h ↦ (nomatch h)), fun _ h ↦ (nomatch h)⟩
  · exact .inl ⟨rfl, (fun h ↦ (nomatch h)), fun _ h ↦ ⟨_, List.mem_singleton_self _, h⟩⟩
  · exact .inl ⟨rfl, (fun h ↦ (nomatch h)), fun _ h ↦ (nomatch h)⟩
  · exact .inl ⟨rfl, (fun h ↦ (nomatch h)), fun _ h ↦ (nomatch h)⟩
  · exact .inl ⟨rfl, (fun h ↦ (nomatch h)), fun _ h ↦ ⟨_, List.mem_singleton_self _, h⟩⟩
  · exact .inr (.inr ⟨newUser, .inl rfl, rfl, rfl⟩)
  · exact .inl ⟨rfl, (fun h ↦ (nomatch h)), fun _ h ↦ (nomatch h)⟩
  · exact .inl ⟨rfl, (fun h ↦ (nomatch h)), fun _ h ↦ (nomatch h)⟩
  · exact .inr (.inr ⟨user, .inr rfl, rfl, rfl⟩)
  · exact .inr (.inl rfl)
  · exact .inl ⟨rfl, (fun h ↦ (nomatch h)), fun _ h ↦ (nomatch h)⟩

/-- The user and Auth agree, or will. -/
def OnTrack (s : Session) : Prop := Agrees s ∨ Settling s.firebase.currentUser s.pending

/-- What one action preserves. -/
theorem OnTrack.step {s s' : Session} {a : SessionAction} (h : OnTrack s)
    (htime : InGoodTime s a) (hstep : stepSession s a = some s') : OnTrack s' := by
  cases a with
  | signUp email firstName lastName =>
      cases hstep
      exact h.imp id fun hsettling ↦ hsettling.append _
  | signIn email =>
      cases hstep
      exact h.imp id fun hsettling ↦ hsettling.append _
  | signOut error =>
      cases error with
      | none =>
          cases hstep
          exact .inr (.inl (List.mem_append_right _ (List.mem_singleton_self _)))
      | some error =>
          cases hstep
          exact h.imp id fun hsettling ↦ hsettling.append _
  | endCall call outcome =>
      simp only [stepSession] at hstep
      split at hstep
      · obtain ⟨⟨firebase, next⟩, hend, rfl⟩ := Option.map_eq_some_iff.mp hstep
        rcases endCall_cases hend with ⟨hsame, hgives | hgoes⟩ | ⟨uid, huid, q, hq, haccount⟩
        · rcases htime hgives with hagrees | hsettling
          · exact .inl (by unfold Agrees; rwa [hsame])
          · exact .inr (by rw [hsame]; exact hsettling.append next)
        · rcases h with hagrees | hsettling
          · exact .inl (by unfold Agrees; rwa [hsame])
          · exact .inr (by rw [hsame]; exact hsettling.replace (by simp) hgoes)
        · -- Auth has a new user, and its chain has only begun
          exact .inr (.inr ⟨uid, huid, q, List.mem_append_right _ hq, haccount⟩)
      · cases hstep
  | run block =>
      simp only [stepSession] at hstep
      split at hstep
      · cases hstep
        rcases runMain_cases s.manager block with ⟨hsame, hne, hgoes⟩ | hnone |
          ⟨user, hblock, huser, hnext⟩
        · rcases h with hagrees | hsettling
          · exact .inl (by unfold Agrees; rwa [hsame])
          · exact .inr (hsettling.replace (by simpa using hne) hgoes)
        · refine .inl fun user huser ↦ ?_
          rw [hnone] at huser
          cases huser
        · have hcurrent : IsCurrent s.firebase.currentUser user ∨
              Settling s.firebase.currentUser (s.pending.erase (.block block)) := by
            rcases hblock with rfl | rfl
            · exact htime
            · exact htime
          rcases hcurrent with hcurrent | hsettling
          · refine .inl fun user' huser' ↦ ?_
            obtain rfl := Option.some.inj (huser.symm.trans huser')
            exact hcurrent
          · exact .inr (hsettling.append _)
      · cases hstep

end Step

/-! ## All runs -/

/-- **The user and Auth agree.**  From the start of the app, in every state in which no
callback is pending, if chains end in good time. -/
theorem user_agrees {firebase : Firebase} {actions : List SessionAction} {s : Session}
    (hall : AllSteps stepSession InGoodTime (.start firebase) actions)
    (hexec : exec stepSession (.start firebase) actions = some s) (hquiet : s.pending = []) :
    Agrees s := by
  have hinit : OnTrack (.start firebase) := .inl fun _ h ↦ (nomatch h)
  have htrack : OnTrack s := exec_state_invariant hinit (fun _ _ _ h ↦ h.step) hall hexec
  refine htrack.resolve_right ?_
  rw [hquiet]
  rintro (hsignOut | ⟨_, _, _, hmem, _⟩)
  · cases hsignOut
  · cases hmem

/-! ## Sample runs -/

/-- One account, with its document. -/
def samAccount : Firebase where
  currentUser := none
  accounts := Dict.empty.set "sam@court.side" "sam"
  users := Dict.empty.set "sam"
    { id := none, email := "sam@court.side", firstName := "Sam", lastName := "Kim" }

/-- The user of that account. -/
def sam : User where
  id := some "sam"
  email := "sam@court.side"
  firstName := "Sam"
  lastName := "Kim"

/-- Signing in, as far as the call for the document. -/
def signInSam : List SessionAction :=
  [.signIn "sam@court.side", .endCall (.signIn "sam@court.side") (.success (some "sam")),
    .run (.signIn (.ok (some "sam")))]

/-- The document arrives. -/
def fetchSam : List SessionAction :=
  [.endCall (.getDocument "sam") (.success none), .run (.fetchUser (.ok sam))]

/-- What is displayed, who is signed in, and whether nothing is pending. -/
def displayed (s : Session) : Option User × Option String × Bool :=
  (s.manager.user, s.firebase.currentUser, s.pending.isEmpty)

theorem user_agrees_sample :
    ∃ s, exec stepSession (.start samAccount) (signInSam ++ fetchSam) = some s ∧
      s.manager.user = some sam ∧ Agrees s := by
  have hrun : (exec stepSession (.start samAccount) (signInSam ++ fetchSam)).map displayed =
      some (some sam, some "sam", true) := by decide
  obtain ⟨s, hs, hdisplayed⟩ := Option.map_eq_some_iff.mp hrun
  obtain ⟨huser, hrest⟩ := Prod.mk.inj hdisplayed
  have hquiet : s.pending = [] := List.isEmpty_iff.mp (Prod.mk.inj hrest).2
  refine ⟨s, hs, huser, user_agrees ?_ hs hquiet⟩
  refine ⟨trivial, ?_⟩
  rintro s₁ ⟨⟩
  refine ⟨fun h ↦ (nomatch h), ?_⟩
  rintro s₂ ⟨⟩
  refine ⟨trivial, ?_⟩
  rintro s₃ ⟨⟩
  refine ⟨fun h ↦ (nomatch h), ?_⟩
  rintro s₄ ⟨⟩
  exact ⟨.inl ⟨"sam", rfl, rfl⟩, fun _ _ ↦ trivial⟩

/-- The document arrives after the user has signed out. -/
theorem user_agrees_sample_fails :
    ¬ ∀ (actions : List SessionAction) (s : Session),
      exec stepSession (.start samAccount) actions = some s → s.pending = [] → Agrees s := by
  intro h
  have hrun : (exec stepSession (.start samAccount)
      (signInSam ++ [.signOut none, .run (.signOut none)] ++ fetchSam)).map displayed =
        some (some sam, none, true) := by decide
  obtain ⟨s, hs, hdisplayed⟩ := Option.map_eq_some_iff.mp hrun
  obtain ⟨huser, hrest⟩ := Prod.mk.inj hdisplayed
  obtain ⟨hcurrent, hquiet⟩ := Prod.mk.inj hrest
  obtain ⟨uid, huid, -⟩ := h _ s hs (List.isEmpty_iff.mp hquiet) sam huser
  rw [hcurrent] at huid
  cases huid

end Courtside
