import SignIn.Login
import SignIn.Proofs.Request
import SignIn.Proofs.Running

/-!
# Courses of logins

A login only adds to what has happened: it never looks at the log or at the names asked for before.
So what it comes to, and which users it asks for, are told by its own input.
-/

namespace SignIn

/-- A request carries a user name and a password under some names, neither of them blank. -/
structure Request.Submits (request : Request) (usernameParam passwordParam username password : Text) :
    Prop where
  username_eq : request.get usernameParam = some username
  password_eq : request.get passwordParam = some password

namespace Request.Submits

variable {request : Request} {usernameParam passwordParam username password : Text}

/-- A request carries one user name and one password. -/
theorem unique {username' password' : Text}
    (h : request.Submits usernameParam passwordParam username password)
    (h' : request.Submits usernameParam passwordParam username' password') :
    username' = username ∧ password' = password :=
  ⟨Option.some.inj (h'.username_eq.symm.trans h.username_eq),
    Option.some.inj (h'.password_eq.symm.trans h.password_eq)⟩

end Request.Submits

namespace LoginAction

variable {α β : Type}

/-- A login asks for some users and comes to a result, whatever has happened before. -/
def ComesTo (action : LoginAction α) (asked : List Text) (result : Except Failure α) : Prop :=
  ∀ w, ∃ after, action.runIn w = (result, after) ∧ after.lookups = w.lookups ++ asked

namespace ComesTo

variable {action : LoginAction α} {next : α → LoginAction β} {asked later : List Text}
  {result : Except Failure α}

/-! ## Steps -/

/-- A step that leaves the names asked for as they are. -/
theorem of_runIn (change : LoginWorld → LoginWorld)
    (hrun : ∀ w, action.runIn w = (result, change w))
    (hkept : ∀ w, (change w).lookups = w.lookups) : ComesTo action [] result := by
  intro w
  exact ⟨change w, hrun w, by rw [hkept, List.append_nil]⟩

theorem pure (a : α) : ComesTo (Pure.pure a) [] (.ok a) :=
  of_runIn id (fun _ => rfl) fun _ => rfl

theorem fail (error : AuthError) : ComesTo (LoginAction.fail error : LoginAction α) []
    (.error (.auth error)) :=
  of_runIn id (fun _ => rfl) fun _ => rfl

theorem ofFault (value : Except Fault α) :
    ComesTo (LoginAction.ofFault value) [] (value.mapError .fault) := by
  apply of_runIn id
  · intro w
    cases value <;> rfl
  · exact fun _ => rfl

theorem ofAuth (value : Except AuthError α) :
    ComesTo (LoginAction.ofAuth value) [] (value.mapError .auth) := by
  apply of_runIn id
  · intro w
    cases value <;> rfl
  · exact fun _ => rfl

theorem log (severity : Severity) (source : LogSource) (parts : List Text) :
    ComesTo (LoginAction.log severity source parts) [] (.ok ()) :=
  of_runIn _ (fun _ => rfl) fun _ => rfl

theorem matcher (s : Directory.Scheme) : ComesTo (LoginAction.matcher s) [] (.ok s.matcher) :=
  of_runIn _ (fun _ => rfl) fun _ => rfl

theorem lookup (find : Text → α) (username : Text) :
    ComesTo (LoginAction.lookup find username) [username] (.ok (find username)) :=
  fun _ => ⟨_, rfl, rfl⟩

/-! ## Steps one after the other -/

theorem bind {result : Except Failure β} {a : α} (h : ComesTo action asked (.ok a))
    (hnext : ComesTo (next a) later result) : ComesTo (action >>= next) (asked ++ later) result := by
  intro w
  obtain ⟨middle, hrun, hasked⟩ := h w
  obtain ⟨after, hrun', hlater⟩ := hnext middle
  exact ⟨after, (run_bind_ok hrun).trans hrun', by rw [hlater, hasked, List.append_assoc]⟩

theorem bind_error {failure : Failure} (h : ComesTo action asked (.error failure)) :
    ComesTo (action >>= next) asked (.error failure) := by
  intro w
  obtain ⟨after, hrun, hasked⟩ := h w
  exact ⟨after, run_bind_error hrun, hasked⟩

/-- A step without a user to ask for comes first. -/
theorem step {result : Except Failure β} {a : α} (h : ComesTo action [] (.ok a))
    (hnext : ComesTo (next a) later result) : ComesTo (action >>= next) later result :=
  h.bind hnext

/-- A step after which nobody is asked for. -/
theorem bind_quiet {result : Except Failure β} {a : α} (h : ComesTo action asked (.ok a))
    (hnext : ComesTo (next a) [] result) : ComesTo (action >>= next) asked result := by
  have hboth := h.bind hnext
  rwa [List.append_nil] at hboth

/-- The outcome of a login is the user that it comes to. -/
theorem outcome {action : LoginAction User} {result : Except Failure User}
    (h : ComesTo action asked result) :
    ComesTo (do return Outcome.user (← action)) asked (result.map .user) := by
  cases result with
  | error failure => exact h.bind_error
  | ok u => exact h.bind_quiet (pure (Outcome.user u))

/-! ## Runs -/

theorem result_eq (h : ComesTo action asked result) (w : LoginWorld) :
    (action.runIn w).1 = result := by
  obtain ⟨after, hrun, -⟩ := h w
  rw [hrun]

theorem lookups_eq (h : ComesTo action asked result) (w : LoginWorld) :
    (action.runIn w).2.lookups = w.lookups ++ asked := by
  obtain ⟨after, hrun, hasked⟩ := h w
  rw [hrun, hasked]

end ComesTo

end LoginAction

end SignIn
