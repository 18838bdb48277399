import Mathlib.Tactic.ByContra
import SignIn.Proofs.Local.Password
import SignIn.Proofs.Login

/-!
# Logins with local accounts

A login ends in one of five ways, by what the request carries, what the store knows and whether the
password belongs to the hash. That an account is inactive is told only to who knows its password: to
all others an account that is inactive, active or unknown looks the same.
-/

namespace SignIn

namespace Local

/-! ## Stores -/

/-- An account whose parts have the types that they are declared with. -/
structure Member where
  userId : Text
  username : Text
  passwordHash : Text
  isActive : Bool
  attributes : Record

def Member.account (m : Member) : Account :=
  ⟨.text m.userId, .text m.username, .text m.passwordHash, .bool m.isActive, .record m.attributes⟩

def Member.user (m : Member) (platform : Text) : User :=
  ⟨platform, m.userId,
    m.attributes.foldl (fun r f => r.put f.1 f.2) [("username", .text m.username)], none⟩

def storeOf (members : Text → Option Member) : Store :=
  fun username => .ok ((members username).map Member.account)

/-! ## Courses -/

/-- A request of a configuration carries a user name and a password. -/
abbrev Submits (config : LocalConfig) (request : Request) (username password : Text) : Prop :=
  request.Submits config.usernameParam config.passwordParam username password

/-- The ways in which a login ends, with the users that are asked for. -/
inductive Course (members : Text → Option Member) (config : LocalConfig) (request : Request) :
    List Text → Except Failure User → Prop
  /-- The user name or the password is missing. -/
  | missing (absent : ∀ username password, ¬ Submits config request username password) :
    Course members config request [] (.error (.auth (.invalidCredentials .missing)))
  /-- The store does not know the user name. -/
  | unknown {username password : Text} (submits : Submits config request username password)
    (absent : members username = none) :
    Course members config request [username] (.error (.auth (.invalidCredentials .mismatch)))
  /-- The password does not belong to the hash. -/
  | wrong {username password : Text} {m : Member}
    (submits : Submits config request username password) (found : members username = some m)
    (refused : verifyText password m.passwordHash = false) :
    Course members config request [username] (.error (.auth (.invalidCredentials .mismatch)))
  /-- The password belongs to the hash of an account that is not active. -/
  | inactive {username password : Text} {m : Member}
    (submits : Submits config request username password) (found : members username = some m)
    (accepted : verifyText password m.passwordHash = true) (inactive : m.isActive = false) :
    Course members config request [username] (.error (.auth (.invalidCredentials .inactive)))
  /-- The password belongs to the hash of an active account. -/
  | granted {username password : Text} {m : Member}
    (submits : Submits config request username password) (found : members username = some m)
    (accepted : verifyText password m.passwordHash = true) (active : m.isActive = true) :
    Course members config request [username] (.ok (m.user config.platform))

section courses

variable {members : Text → Option Member} {config : LocalConfig} {request : Request}
  {username password : Text} {m : Member}

theorem comesTo_refuse {α : Type} (reason : String) (username : Text)
    (problem : CredentialProblem) :
    (refuse reason username problem : LoginAction α).ComesTo []
      (.error (.auth (.invalidCredentials problem))) :=
  (LoginAction.ComesTo.log _ _ _).step (.fail _)

theorem comesTo_userOf (config : LocalConfig) (m : Member) :
    (userOf config m.account).ComesTo [] (.ok (m.user config.platform)) := by
  have hclaims : (LoginAction.ofFault m.account.claims).ComesTo []
      (.ok (m.user config.platform).rawClaims) := LoginAction.ComesTo.ofFault (.ok _)
  exact (LoginAction.ComesTo.log _ _ _).step (hclaims.step (.pure _))

/-- What follows when a user name and a password are submitted. -/
theorem authenticateWith_eq (store : Store) (submits : Submits config request username password) :
    authenticateWith store config request = checkLogin store config username password := by
  simp only [authenticateWith, submits.username_eq, submits.password_eq]

/-- The store is asked for the user name. -/
theorem comesTo_lookup {found : Option Member} (hfound : members username = found) :
    (LoginAction.lookup (storeOf members) username).ComesTo [username]
      (.ok (.ok (found.map Member.account))) := by
  have hlookup := LoginAction.ComesTo.lookup (storeOf members) username
  rwa [storeOf, hfound] at hlookup

/-- The check of a password against the hash of a member has an answer. -/
theorem comesTo_verifyPassword (password : Text) (m : Member) :
    (LoginAction.ofFault (verifyPassword (.text password) m.account.passwordHash)).ComesTo []
      (.ok (verifyText password m.passwordHash)) := by
  rw [Member.account, verifyPassword_text]
  exact .ofFault (.ok _)

/-- What is left to do for a member whom the store knows. -/
theorem comesTo_of_found (found : members username = some m) {result : Except Failure User}
    (hnext : (if verifyText password m.passwordHash = true then
        if m.isActive = true then userOf config m.account
        else refuse "User inactive" username .inactive
      else refuse "Invalid password" username .mismatch).ComesTo [] result) :
    (checkLogin (storeOf members) config username password).ComesTo [username] result :=
  (comesTo_lookup found).bind_quiet ((LoginAction.ComesTo.ofFault (.ok (some m.account))).step
    ((comesTo_verifyPassword password m).step hnext))

/-- A login that ends in some way comes to its result. -/
theorem comesTo_of_course {asked : List Text} {result : Except Failure User}
    (h : Course members config request asked result) :
    (authenticateWith (storeOf members) config request).ComesTo asked result := by
  cases h with
  | missing absent =>
    unfold authenticateWith
    split
    · rename_i username password husername hpassword
      exact absurd ⟨husername, hpassword⟩ (absent username password)
    · exact .fail _
  | unknown submits absent =>
    rw [authenticateWith_eq _ submits]
    exact (comesTo_lookup absent).bind_quiet
      ((LoginAction.ComesTo.ofFault (.ok none)).step (comesTo_refuse _ _ _))
  | wrong submits found refused =>
    rw [authenticateWith_eq _ submits]
    apply comesTo_of_found found
    rw [refused]
    exact comesTo_refuse _ _ _
  | inactive submits found accepted inactive =>
    rw [authenticateWith_eq _ submits]
    apply comesTo_of_found found
    rw [accepted, inactive]
    exact comesTo_refuse _ _ _
  | granted submits found accepted active =>
    rw [authenticateWith_eq _ submits]
    apply comesTo_of_found found
    rw [accepted, active]
    exact comesTo_userOf config _

end courses

/-! ## Results -/

/-- What a login with a store of members comes to. -/
def resultOf (members : Text → Option Member) (config : LocalConfig) (request : Request)
    (w : LoginWorld) : Except Failure Outcome :=
  ((authenticate (storeOf members) (.local config) request).runIn w).1

/-- A request carries the user name of a member and a password that belongs to its hash. -/
def Verifies (members : Text → Option Member) (config : LocalConfig) (request : Request)
    (m : Member) : Prop :=
  ∃ username password, Submits config request username password ∧ members username = some m ∧
    verifyPassword (.text password) (.text m.passwordHash) = .ok true

section results

variable {members : Text → Option Member} {config : LocalConfig} {request : Request}
  {username password : Text} {m : Member}

theorem Verifies.exists_submits (h : Verifies members config request m) :
    ∃ username password, Submits config request username password ∧ members username = some m ∧
      verifyText password m.passwordHash = true := by
  obtain ⟨username, password, submits, found, accepted⟩ := h
  rw [verifyPassword_text] at accepted
  exact ⟨username, password, submits, found, Except.ok.inj accepted⟩

theorem resultOf_of_course {asked : List Text} {result : Except Failure User}
    (h : Course members config request asked result) (w : LoginWorld) :
    resultOf members config request w = result.map .user :=
  (comesTo_of_course h).outcome.result_eq w

theorem result_of_active (hverifies : Verifies members config request m)
    (active : m.isActive = true) (w : LoginWorld) :
    resultOf members config request w = .ok (.user (m.user config.platform)) := by
  obtain ⟨username, password, submits, found, accepted⟩ := hverifies.exists_submits
  exact resultOf_of_course (.granted submits found accepted active) w

theorem result_of_inactive (hverifies : Verifies members config request m)
    (inactive : m.isActive = false) (w : LoginWorld) :
    resultOf members config request w = .error (.auth (.invalidCredentials .inactive)) := by
  obtain ⟨username, password, submits, found, accepted⟩ := hverifies.exists_submits
  exact resultOf_of_course (.inactive submits found accepted inactive) w

/-- To who does not know the password of an account, all stores look the same. -/
theorem result_of_not_verifies (submits : Submits config request username password)
    (h : ∀ m, ¬ Verifies members config request m) (w : LoginWorld) :
    resultOf members config request w = .error (.auth (.invalidCredentials .mismatch)) := by
  cases found : members username with
  | none => exact resultOf_of_course (.unknown submits found) w
  | some m =>
    have hrefused : verifyText password m.passwordHash = false := by
      rw [← Bool.not_eq_true]
      intro accepted
      exact h m ⟨username, password, submits, found, by rw [verifyPassword_text, accepted]⟩
    exact resultOf_of_course (.wrong submits found hrefused) w

theorem result_of_missing (h : ∀ username password, ¬ Submits config request username password)
    (w : LoginWorld) :
    resultOf members config request w = .error (.auth (.invalidCredentials .missing)) :=
  resultOf_of_course (.missing h) w

/-- A login that signs nobody in is refused, as inactive only after the right password. -/
theorem refused_of_not_granted (h : ¬ ∃ m, Verifies members config request m ∧ m.isActive = true)
    (w : LoginWorld) :
    ∃ problem, resultOf members config request w = .error (.auth (.invalidCredentials problem)) ∧
      (problem = .inactive → ∃ m, Verifies members config request m ∧ m.isActive = false) := by
  by_cases hsubmits : ∃ username password, Submits config request username password
  · obtain ⟨username, password, submits⟩ := hsubmits
    by_cases hverifies : ∃ m, Verifies members config request m
    · obtain ⟨m, hm⟩ := hverifies
      have hinactive : m.isActive = false := by
        rw [← Bool.not_eq_true]
        exact fun hactive => h ⟨m, hm, hactive⟩
      exact ⟨.inactive, result_of_inactive hm hinactive w, fun _ => ⟨m, hm, hinactive⟩⟩
    · exact ⟨.mismatch, result_of_not_verifies submits (fun m hm => hverifies ⟨m, hm⟩) w, nofun⟩
  · refine ⟨.missing, result_of_missing ?_ w, nofun⟩
    exact fun username password submits => hsubmits ⟨username, password, submits⟩

theorem granted_iff (w : LoginWorld) :
    (∃ u, resultOf members config request w = .ok (.user u)) ↔
      ∃ m, Verifies members config request m ∧ m.isActive = true := by
  constructor
  · rintro ⟨u, hu⟩
    by_contra hnone
    obtain ⟨problem, hresult, -⟩ := refused_of_not_granted hnone w
    rw [hu] at hresult
    cases hresult
  · rintro ⟨m, hm, hactive⟩
    exact ⟨_, result_of_active hm hactive w⟩

/-- Only who knows the password of an account is told that it is not active. -/
theorem inactive_iff (w : LoginWorld) :
    resultOf members config request w = .error (.auth (.invalidCredentials .inactive)) ↔
      ∃ m, Verifies members config request m ∧ m.isActive = false := by
  constructor
  · intro hinactive
    have hnobody : ¬ ∃ m, Verifies members config request m ∧ m.isActive = true := by
      rw [← granted_iff w, hinactive]
      nofun
    obtain ⟨problem, hresult, htold⟩ := refused_of_not_granted hnobody w
    rw [hinactive] at hresult
    cases hresult
    exact htold rfl
  · rintro ⟨m, hm, hinactive⟩
    exact result_of_inactive hm hinactive w

end results

/-- A login signs a member in if and only if the request carries a user name and a password, the
store knows the user name, the password belongs to the hash and the account is active. All other
logins fail with invalid credentials. That an account is not active is told only to who knows its
password: any two stores answer alike to a password that belongs to no hash of theirs. -/
theorem login_granted_iff (members : Text → Option Member) (config : LocalConfig)
    (request : Request) (w : LoginWorld) :
    ((∃ u, resultOf members config request w = .ok (.user u)) ↔
      ∃ m, Verifies members config request m ∧ m.isActive = true) ∧
    (∀ m, Verifies members config request m → m.isActive = true →
      resultOf members config request w = .ok (.user (m.user config.platform))) ∧
    ((¬ ∃ u, resultOf members config request w = .ok (.user u)) →
      ∃ problem, resultOf members config request w = .error (.auth (.invalidCredentials problem))) ∧
    (resultOf members config request w = .error (.auth (.invalidCredentials .inactive)) ↔
      ∃ m, Verifies members config request m ∧ m.isActive = false) ∧
    ∀ (others : Text → Option Member) (w' : LoginWorld) (username password : Text),
      Submits config request username password →
      (∀ m, ¬ Verifies members config request m) → (∀ m, ¬ Verifies others config request m) →
      resultOf members config request w = .error (.auth (.invalidCredentials .mismatch)) ∧
        resultOf others config request w' = .error (.auth (.invalidCredentials .mismatch)) := by
  refine ⟨granted_iff w, fun m hm hactive => result_of_active hm hactive w, ?_, inactive_iff w, ?_⟩
  · intro hfailed
    rw [granted_iff w] at hfailed
    obtain ⟨problem, hresult, -⟩ := refused_of_not_granted hfailed w
    exact ⟨problem, hresult⟩
  · intro others w' username password submits hwrong hwrong'
    exact ⟨result_of_not_verifies submits hwrong w, result_of_not_verifies submits hwrong' w'⟩

end Local

end SignIn
