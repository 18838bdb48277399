import SignIn.Proofs.OAuth.Parameters
import SignIn.Proofs.OAuth.Pipeline

/-!
# What an authorization address says

An authorization address is the configured one, a sign, and a query string in which nothing but the
signs between fields and between their parts is left of what texts could bring along. So whatever
the texts are, the query string says each parameter once, in its place and with its own value.
-/

namespace SignIn

namespace OAuth

/-- An address is the configured one, the sign that continues it, and parameters in unreserved
characters, percent signs, ampersands and equals signs. Cutting them apart and decoding the pieces
gives the parameters of the request in order, each once and each with its own value. -/
theorem authorizationUrl_tells {config : OAuthConfig} {state address : Text}
    {challenge : Option PkceChallenge} (haddress : config.authorizationUrl = some address)
    (hconfig : AddressEncodable config) (hstate : Utf8.encodable state = true)
    (hchallenge : ∀ c, challenge = some c → Utf8.encodable c.challenge = true) :
    ∃ parameters fields,
      authorizationUrl config state challenge = .ok (address ++
        (if CodePoint.ofChar '?' ∈ address then CodePoint.ofChar '&' else CodePoint.ofChar '?') ::
          parameters) ∧
      (∀ c ∈ parameters, c.isUnreserved = true ∨ c = CodePoint.ofChar '%' ∨
        c = CodePoint.ofChar '&' ∨ c = CodePoint.ofChar '=') ∧
      Form.decodeQuery? parameters = some fields ∧
      Form.Tells (parameterTable config state challenge) fields := by
  have hsome : config.authorizationUrl.isSome = true := by rw [haddress]; rfl
  obtain ⟨url, hurl⟩ := (exists_authorizationUrl_iff hsome hstate hchallenge).2 hconfig
  obtain ⟨parameters, hquery, rfl⟩ := (authorizationUrl_eq_ok_iff haddress).1 hurl
  have hseparator : parameterSeparator address =
      if CodePoint.ofChar '?' ∈ address then CodePoint.ofChar '&' else CodePoint.ofChar '?' := by
    simp [parameterSeparator]
  rw [hseparator] at hurl
  exact ⟨parameters, _, hurl, fun c hc => Form.mem_of_query? hquery hc,
    Form.decodeQuery?_of_query? hquery, tells_authorizationParameters config state challenge⟩

/-- A client whose texts are full of the signs that divide and escape parameters. -/
def garbledConfig : OAuthConfig :=
  { credentialsConfig with
    authorizationUrl := some "https://h/a?tenant=x"
    clientId := some "app&state=0"
    callbackUrl := some "https://h/c?a=%26&b=é+#"
    scopes := ["read&", "中😀=%"] }

/-- A state that looks like another parameter. -/
def garbledState : Text := "s\u0000&code_challenge=+"

/-- A challenge that looks like another parameter. -/
def garbledChallenge : PkceChallenge := ⟨"v", "ch&state=~", .plain⟩

theorem addressEncodable_garbledConfig : AddressEncodable garbledConfig where
  clientId t ht := by
    obtain rfl := Option.some.inj ht
    decide
  callbackUrl t ht := by
    have hpresent : Text.present? garbledConfig.callbackUrl =
        some (Text.ofString "https://h/c?a=%26&b=é+#") := by decide
    obtain rfl := Option.some.inj (hpresent.symm.trans ht)
    decide
  scopes := by decide

/-- None of the texts is taken for a parameter of its own or for a part of another. -/
theorem authorizationUrl_tells_garbled :
    AddressEncodable garbledConfig ∧ Utf8.encodable garbledState = true ∧
      Utf8.encodable garbledChallenge.challenge = true ∧
      ∃ parameters fields,
        authorizationUrl garbledConfig garbledState (some garbledChallenge) =
          .ok (Text.ofString "https://h/a?tenant=x&" ++ parameters) ∧
        Form.decodeQuery? parameters = some fields ∧
        Form.valuesOf "client_id" fields = [Text.ofString "app&state=0"] ∧
        Form.valuesOf "redirect_uri" fields = [Text.ofString "https://h/c?a=%26&b=é+#"] ∧
        Form.valuesOf "scope" fields = [Text.ofString "read& 中😀=%"] ∧
        Form.valuesOf "state" fields = [garbledState] ∧
        Form.valuesOf "code_challenge" fields = [garbledChallenge.challenge] := by
  have hstate : Utf8.encodable garbledState = true := by decide
  have hchallenge : Utf8.encodable garbledChallenge.challenge = true := by decide
  have haddress : garbledConfig.authorizationUrl = some (Text.ofString "https://h/a?tenant=x") :=
    rfl
  obtain ⟨parameters, fields, hurl, -, hdecode, htells⟩ :=
    authorizationUrl_tells haddress addressEncodable_garbledConfig hstate
      fun c (hc : some garbledChallenge = some c) => Option.some.inj hc ▸ hchallenge
  obtain ⟨-, hclient, hredirect, hscope, hown, hchallenges, -⟩ := by
    simpa only [parameterTable, List.forall_mem_cons] using htells.values_eq
  have hcontinued : Text.ofString "https://h/a?tenant=x&" =
      Text.ofString "https://h/a?tenant=x" ++ [CodePoint.ofChar '&'] := by decide
  have hwritten : authorizationUrl garbledConfig garbledState (some garbledChallenge) =
      .ok (Text.ofString "https://h/a?tenant=x&" ++ parameters) := by
    rw [hurl, if_pos (by decide), hcontinued, List.append_assoc, List.singleton_append]
  exact ⟨addressEncodable_garbledConfig, hstate, hchallenge, parameters, fields, hwritten, hdecode,
    hclient, hredirect, hscope, hown, hchallenges⟩

end OAuth

end SignIn
