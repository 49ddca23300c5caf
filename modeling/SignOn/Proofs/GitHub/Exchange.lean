import SignOn.GitHub.Client
import SignOn.Proofs.GitHub.Parameters
import SignOn.Proofs.Json.Objects

/-!
The exchange of a code for a token. The provider answers wrong codes with status 200 too, so the body
decides: a token is taken from it only if no error stands beside the token, in whatever place and
under whatever spelling of its name.
-/
namespace SignOn.GitHub

/-! ### Replies -/

namespace TokenReply

theorem usable?_eq_some {reply : TokenReply} {token : String} : reply.usable? = some token ↔
    reply.error = none ∧ reply.accessToken = some token ∧
      ∃ c ∈ token.toList, Text.isBlank c = false := by
  have notBlank (s : String) :
      Text.isBlankText s = false ↔ ∃ c ∈ s.toList, Text.isBlank c = false := by
    simp [Text.isBlankText]
  unfold usable?
  split
  next s herror htoken =>
    rw [herror, htoken, ← notBlank]
    constructor
    · intro h
      split at h
      next => cases h
      next hs =>
        obtain rfl := Option.some.inj h
        exact ⟨rfl, rfl, by simpa using hs⟩
    · rintro ⟨-, hs, hblank⟩
      obtain rfl := Option.some.inj hs
      rw [hblank]
      rfl
  next hneither =>
    constructor
    · intro h
      cases h
    · rintro ⟨herror, htoken, -⟩
      exact absurd htoken (hneither token herror)

/-- The fields of a reply are texts that may be missing, and one of them is the error. -/
theorem mem_fields {f : Json.Field TokenReply} (hf : f ∈ fields) : ∃ name set,
    f = .trailing name Json.string set ∧
      ∀ reply text, (set reply text).error = if name = "error" then text else reply.error := by
  simp only [fields, List.mem_cons, List.not_mem_nil, or_false] at hf
  rcases hf with rfl | rfl | rfl | rfl | rfl <;> exact ⟨_, _, rfl, fun _ _ => by simp⟩

/-- A reply without an error comes from no object with a member of that name, however it is spelled,
unless the member is `null`. -/
theorem eq_null_of_error {reply : TokenReply} {body : List UInt8} {ms : List Json.Member}
    {m : Json.Member} (object : Json.IsObject body ms)
    (h : Json.parse? reader body = some reply) (herror : reply.error = none) (hm : m ∈ ms)
    (spelled : Json.Spells m.name.text "error".toList) : m.value.text = Json.nullText := by
  obtain ⟨rest, hread⟩ := Json.Read.complete_eq_some h
  have whole (f : Json.Field TokenReply) (hf : f ∈ fields) (reply : TokenReply) :
      Json.ReadsWhole (f.read reply) := by
    obtain ⟨name, set, rfl, -⟩ := mem_fields hf
    exact (Json.readsWhole_string.optional Json.string_skipSpace).map _
  have fills (f : Json.Field TokenReply) (hf : f ∈ fields) : f.Fills "error" TokenReply.error := by
    obtain ⟨name, set, rfl, hset⟩ := mem_fields hf
    exact Json.Field.fills_of_optional rfl hset
  have isField : ∃ f ∈ fields, f.name = "error" := by simp [fields, Json.Field.trailing]
  obtain ⟨d, takes, rfl⟩ := Json.takes_of_record whole object hread
  exact takes.eq_null fills isField herror hm spelled (object.values m hm)

end TokenReply

/-! ### Answers -/

theorem Response.isSuccess_iff {a : Response} :
    a.isSuccess = true ↔ 200 ≤ a.status ∧ a.status < 300 := by
  simp [isSuccess]

theorem readToken_eq_ok {answer : Option Response} {token : String} :
    readToken answer = .ok token ↔ ∃ a reply, answer = some a ∧ a.isSuccess = true ∧
      Json.parse? TokenReply.reader a.body = some reply ∧ reply.usable? = some token := by
  cases answer with
  | none => simp [readToken, failed]
  | some a =>
    cases hsuccess : a.isSuccess with
    | false => simp [readToken, hsuccess, failed]
    | true =>
      cases hreply : Json.parse? TokenReply.reader a.body with
      | none => simp [readToken, hsuccess, hreply, failed]
      | some reply =>
        cases husable : reply.usable? <;> simp [readToken, hsuccess, hreply, husable, failed]

theorem kind_of_failed {α : Type} {detail : String} {e : Error}
    (h : (failed detail : Except Error α) = .error e) : e.kind = .externalService := by
  cases h
  rfl

/-- Whatever is wrong with an answer, the provider is what failed. -/
theorem kind_of_readToken {answer : Option Response} {e : Error}
    (h : readToken answer = .error e) : e.kind = .externalService := by
  unfold readToken at h
  split at h
  next => exact kind_of_failed h
  next =>
    split at h
    next => exact kind_of_failed h
    next =>
      split at h
      next => exact kind_of_failed h
      next =>
        split at h
        next => cases h
        next => exact kind_of_failed h

theorem exchange_eq_ok {r : Config.Registration} {code token : String} {carry : Carrier} :
    (exchange r code).ask carry = .ok token ↔
      ∃ q a reply, (exchange r code).request? = some q ∧ carry q = some a ∧ a.isSuccess = true ∧
        Json.parse? TokenReply.reader a.body = some reply ∧ reply.usable? = some token := by
  refine readToken_eq_ok.trans ⟨?_, ?_⟩
  · rintro ⟨a, reply, answered, hreply⟩
    obtain ⟨q, hq, ha⟩ := Option.bind_eq_some_iff.mp answered
    exact ⟨q, a, reply, hq, ha, hreply⟩
  · rintro ⟨q, a, reply, hq, ha, hreply⟩
    exact ⟨a, reply, Option.bind_eq_some_iff.mpr ⟨q, hq, ha⟩, hreply⟩

/-- A code is exchanged for a token if and only if the last answer to the request is a success whose
body is read as a reply without an error and with a token that is not blank. In all other cases the
provider is what failed, and so it is for every object with a member that spells `error` and is not
`null`, wherever the member stands and whatever stands beside it. -/
theorem exchange_accepts_exactly (r : Config.Registration) (code : String) (carry : Carrier) :
    (∀ token, (exchange r code).ask carry = .ok token ↔
      ∃ q a reply, (exchange r code).request? = some q ∧ carry q = some a ∧
        (200 ≤ a.status ∧ a.status < 300) ∧ Json.parse? TokenReply.reader a.body = some reply ∧
        reply.error = none ∧ reply.accessToken = some token ∧
        ∃ c ∈ token.toList, Text.isBlank c = false) ∧
    (∀ e, (exchange r code).ask carry = .error e → e.kind = .externalService) ∧
    ∀ q a ms, (exchange r code).request? = some q → carry q = some a → Json.IsObject a.body ms →
      (∃ m ∈ ms, Json.Spells m.name.text "error".toList ∧ m.value.text ≠ Json.nullText) →
      ∃ e, (exchange r code).ask carry = .error e ∧ e.kind = .externalService := by
  refine ⟨fun token => ?_, fun e => kind_of_readToken, ?_⟩
  · simp only [exchange_eq_ok, TokenReply.usable?_eq_some, Response.isSuccess_iff]
  · rintro q a ms hq ha object ⟨m, hm, spelled, notNull⟩
    cases hask : (exchange r code).ask carry with
    | error e => exact ⟨e, rfl, kind_of_readToken hask⟩
    | ok token =>
      obtain ⟨q', a', reply, hq', ha', -, hreply, usable⟩ := exchange_eq_ok.mp hask
      obtain rfl := Option.some.inj (hq'.symm.trans hq)
      obtain rfl := Option.some.inj (ha'.symm.trans ha)
      obtain ⟨herror, -⟩ := TokenReply.usable?_eq_some.mp usable
      exact absurd (TokenReply.eq_null_of_error object hreply herror hm spelled) notNull

/-- A member without blanks. -/
def sampleMember (name value : String) : Json.Member where
  name := ⟨[], Text.Utf8.encode name, [], nofun, nofun⟩
  value := ⟨[], Text.Utf8.encode value, [], nofun, nofun⟩

def sampleToken : Json.Member := sampleMember "access_token" "\"t\""

/-- An error that is no text, under a name with an escape. -/
def sampleError : Json.Member := sampleMember "\\u0065rror" "false"

def sampleReply (ms : List Json.Member) : Response := ⟨200, Json.objectText ms⟩

theorem spells_sampleError : Json.Spells sampleError.name.text "error".toList := by
  have htext : sampleError.name.text = 0x5c :: 0x75 :: 0x30 :: 0x30 :: 0x36 :: 0x35 ::
      Text.Utf8.encode "rror" := by decide
  have hname : "error".toList = .ofNat 0x65 :: "rror".toList := by decide
  rw [htext, hname]
  exact .number (by decide) (by decide) (Json.spells_encode (by decide))

theorem isObject_sample : Json.IsObject (Json.objectText [sampleToken, sampleError])
    [sampleToken, sampleError] := by
  have token : Json.Spells sampleToken.name.text "access_token".toList :=
    Json.spells_encode (by decide)
  have text : sampleToken.value.text = 0x22 :: (Text.Utf8.encode "t" ++ [0x22]) := by decide
  refine ⟨⟨⟨[], Json.objectText _, [], nofun, nofun⟩, List.append_nil _, rfl⟩, ?_, ?_⟩
  · exact List.forall_mem_cons.mpr ⟨token.isString,
      List.forall_mem_singleton.mpr spells_sampleError.isString⟩
  · refine List.forall_mem_cons.mpr ⟨?_, List.forall_mem_singleton.mpr .no⟩
    rw [text]
    exact .string (Json.spells_encode (by decide)).isString

set_option maxRecDepth 100000 in
theorem exchange_accepts_exactly_sample :
    (exchange sampleRegistration "c").ask (fun _ => some (sampleReply [sampleToken])) = .ok "t" ∧
    ∃ e, (exchange sampleRegistration "c").ask
      (fun _ => some (sampleReply [sampleToken, sampleError])) = .error e ∧
      e.kind = .externalService := by
  obtain ⟨q, hq⟩ : ∃ q, (exchange sampleRegistration "c").request? = some q :=
    Option.isSome_iff_exists.mp (by decide +kernel)
  constructor
  · exact ((exchange_accepts_exactly sampleRegistration "c" _).1 "t").mpr
      ⟨q, _, ⟨some "t", none, none, none, none⟩, hq, rfl, by decide, by decide +kernel, rfl, rfl, 't',
        by decide, by decide⟩
  · exact (exchange_accepts_exactly sampleRegistration "c" _).2.2 q _ _ hq rfl isObject_sample
      ⟨sampleError, by simp, spells_sampleError, by decide⟩

end SignOn.GitHub
