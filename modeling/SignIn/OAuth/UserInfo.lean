import SignIn.OAuth.Provider
import SignIn.OAuth.TokenPayload

/-!
# The userinfo endpoint

The claims about a user are fetched with the access token as a bearer token. Claims with an error
are a refusal.
-/

namespace SignIn

namespace OAuth

/-- The call for the claims. -/
def userInfoCall (url : Option Text) (accessToken : Text) : Call :=
  ⟨some "GET", url, .ok .nothing,
    Headers.ofTexts [("Authorization", ("Bearer " : Text) ++ accessToken)]⟩

def fetchUserInfo (url : Option Text) (accessToken : Text) : Action Record := do
  let claims ← requestRecord (userInfoCall url accessToken)
  match refusalIn? claims with
  | some refusal =>
    let error := ((claims.get? "error").getD .null).display
    Action.log .warning .oauthUserInfo
      ["Userinfo endpoint ", (Datum.ofText? url).display, " returned error: ", error]
    Action.fail refusal
  | none => return claims

end OAuth

end SignIn
