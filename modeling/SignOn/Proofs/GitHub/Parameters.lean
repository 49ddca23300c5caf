import SignOn.GitHub.Client
import SignOn.Proofs.GitHub.Question
import SignOn.Proofs.Url.Written

/-!
Parameters on their way to the provider. Whatever is in a state or a code, it arrives as the value
of one parameter: it makes no other, changes none, and does not end the query that it stands in.
-/
namespace SignOn.GitHub

theorem parse?_eq_some {s : String} {u : Url} : Url.parse? s = some u ↔ Url.parse s = .ok u := by
  unfold Url.parse?
  cases Url.parse s <;> simp [Except.toOption]

/-- The parameter that tells the provider where to send people back to, if that is set. -/
def redirectPair (r : Config.Registration) : List (String × String) :=
  (r.redirectUri.map fun uri => ("redirect_uri", uri)).toList

/-- What a person is sent to the provider with is read as the parameters that the provider's address
has already, followed by those of the sign-on, each with its value; the rest of the address stays,
and in its text the query ends where the fragment begins. What a code is exchanged with is sent, if
the address is one of a web page, and is read as the parameters of the exchange, each with its
value. -/
theorem parameters_kept (r : Config.Registration) (state code : String) :
    (∀ a, Url.parse r.authUri = .ok a → ∃ u, authorizeUrl r state = .ok u ∧
      u.queryPairs = a.queryPairs ++ ([("client_id", r.clientId), ("scope", r.scopes),
        ("state", state), ("allow_signup", "true")] ++ redirectPair r) ∧
      u.SameButQuery a ∧
      Url.queryAndFragment (Url.isSpecial u.scheme)
        (Url.queryChars u.query ++ Url.fragmentChars u.fragment) = (u.query, u.fragment)) ∧
    ∀ t, Url.parse r.tokenUri = .ok t →
      ((∃ q, (exchange r code).request? = some q) ↔ t.isWeb = true) ∧
      ∀ q, (exchange r code).request? = some q → q.method = "POST" ∧ q.url = t ∧
        ∃ body, q.body = some body ∧
          Url.Form.decode body = [("client_id", r.clientId), ("client_secret", r.clientSecret),
            ("code", code)] ++ redirectPair r := by
  constructor
  · intro a ha
    have written := (Url.written_of_parse ha).appendPairs ([("client_id", r.clientId),
      ("scope", r.scopes), ("state", state), ("allow_signup", "true")] ++ redirectPair r)
    refine ⟨_, ?_, Url.queryPairs_appendPairs .., Url.sameButQuery_appendPairs .., ?_⟩
    · rw [authorizeUrl, ha]
      rfl
    · exact written.queryAndFragment_eq
  · intro t ht
    have ht : Url.parse? r.tokenUri = some t := parse?_eq_some.mpr ht
    have texts : ∀ h ∈ [("accept", "application/json"),
        ("content-type", "application/x-www-form-urlencoded"), ("user-agent", userAgent)],
        isHeaderText h.2 = true := by decide
    refine ⟨⟨?_, fun web => ?_⟩, ?_⟩
    · rintro ⟨q, hq⟩
      obtain ⟨hurl, web, -⟩ := request?_eq_some.mp hq
      obtain rfl := Option.some.inj (ht.symm.trans hurl)
      exact web
    · exact ⟨⟨_, t, _, _⟩, request?_eq_some.mpr ⟨ht, web, texts, rfl⟩⟩
    · intro q hq
      obtain ⟨hurl, -, -, hq⟩ := request?_eq_some.mp hq
      refine ⟨by rw [hq], Option.some.inj (hurl.symm.trans ht), _, by rw [hq], ?_⟩
      exact Url.Form.decode_encode _

/-- A registration whose page has a query and a fragment of its own. -/
def sampleRegistration : Config.Registration where
  clientId := "client"
  clientSecret := "a&b"
  redirectUri := some "http://[::1]/?x=1"
  authUri := "http://[::1]/agree?state=old#top"
  tokenUri := "http://[::1]/token"
  apiUri := "http://[::1]/api"
  scopes := "user:email"
  timeout := 10

/-- A page of the provider that the registration names. -/
def samplePage (path : String) (query fragment : Option String) : Url where
  scheme := "http".toList
  authority := some ⟨[], none, .ipv6 [0, 0, 0, 0, 0, 0, 0, 1], none⟩
  path := path.toList
  query := query.map String.toList
  fragment := fragment.map String.toList

set_option maxRecDepth 100000 in
theorem parse_samplePages :
    Url.parse sampleRegistration.authUri = .ok (samplePage "/agree" (some "state=old") (some "top")) ∧
      Url.parse sampleRegistration.tokenUri = .ok (samplePage "/token" none none) := by
  decide +kernel

theorem parameters_kept_sample :
    (∃ u, authorizeUrl sampleRegistration "x&state=y#" = .ok u ∧
      u.queryPairs = [("state", "old"), ("client_id", "client"), ("scope", "user:email"),
        ("state", "x&state=y#"), ("allow_signup", "true"),
        ("redirect_uri", "http://[::1]/?x=1")]) ∧
    ∃ q body, (exchange sampleRegistration "c&client_id=other").request? = some q ∧
      q.body = some body ∧ Url.Form.decode body = [("client_id", "client"),
        ("client_secret", "a&b"), ("code", "c&client_id=other"),
        ("redirect_uri", "http://[::1]/?x=1")] := by
  obtain ⟨page, token⟩ := parse_samplePages
  obtain ⟨agree, exchanged⟩ :=
    parameters_kept sampleRegistration "x&state=y#" "c&client_id=other"
  constructor
  · obtain ⟨u, hu, pairs, -⟩ := agree _ page
    refine ⟨u, hu, pairs.trans ?_⟩
    decide +kernel
  · obtain ⟨sent, asked⟩ := exchanged _ token
    obtain ⟨q, hq⟩ := sent.mpr rfl
    obtain ⟨-, -, body, hbody, hpairs⟩ := asked q hq
    exact ⟨q, body, hq, hbody, hpairs⟩

end SignOn.GitHub
