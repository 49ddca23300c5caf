import SignOn.Proofs.Token.Bearer
import SignOn.Proofs.Token.Verified
import SignOn.Proofs.Visits
import SignOn.Store.Remote
import SignOn.Web.Pages

/-!
Who is told about which identity. The page of the person behind a token is shown only to a request
with a token that was issued, and shows the identity that the token was issued for; any other
request learns nothing, not even whether something is stored.
-/
namespace SignOn

open Login Token Web

/-! ### Stores -/

/-- Surroundings in which an identity is looked up under its own identifier. -/
def Keyed {σ : Type} (answer : (c : Call) → σ → c.Answer × σ) : Prop :=
  ∀ id x i, (answer (.loadIdentity id) x).1 = .ok (some i) → i.id = id

namespace Documents

/-- A document with a text as its identifier is read as an identity of that identifier. -/
theorem id_of_read? {d : Document} {id : Uuid} {i : Identity}
    (hd : textField? d "_id" = some id.text) (h : identities.read? d = some (.ok i)) : i.id = id := by
  obtain ⟨r, hr, hi⟩ := Option.map_eq_some_iff.mp h
  simp only [IdentityRecord.ofDocument?, hd, Option.bind_eq_bind, Option.bind_some,
    Option.bind_eq_some_iff, Option.some.injEq] at hr
  obtain ⟨_, -, _, -, _, -, _, -, _, -, rfl⟩ := hr
  simp only [IdentityRecord.toIdentity, Uuid.parse_text] at hi
  cases hi
  rfl

theorem id_of_load {id : Uuid} {m : Server} {i : Identity}
    (h : ((loadIdentity id).run Server.answer m).1 = .ok (some i)) : i.id = id := by
  unfold loadIdentity Kind.load Kind.find at h
  rw [Routine.run_bind, show ((ask (.find identities.collection [("_id", id.text)])).run
    Server.answer m).1 = .ok ((m.rows .identities).find? (Filter.accepts [("_id", id.text)])) from
    rfl] at h
  cases hd : (m.rows .identities).find? (Filter.accepts [("_id", id.text)]) with
  | none =>
    rw [hd] at h
    cases h
  | some d =>
    have haccepts := List.find?_some hd
    rw [hd, Kind.received] at h
    cases hread : identities.read? d with
    | none => rw [hread] at h; cases h
    | some read =>
      rw [hread] at h
      cases read with
      | error e => cases h
      | ok j =>
        cases h
        exact id_of_read? (by simpa [Filter.accepts] using haccepts) hread

end Documents

namespace Store

theorem keyed_memory (s : Surroundings) : Keyed (Memory.answer s) := by
  intro id m i h
  simpa using List.find?_some (Except.ok.inj h)

theorem keyed_remote (s : Surroundings) : Keyed (Remote.answer s) := by
  intro id m i h
  exact Documents.id_of_load h

end Store

/-! ### Requests -/

theorem Web.Request.path_of_gets {r : Request} {path : String} (h : r.gets path = true) :
    r.path = Text.Utf8.encode path := by
  rw [Request.gets, Bool.and_eq_true] at h
  exact of_decide_eq_true h.2

/-- A request reads one page only. -/
theorem Web.Request.gets_of_ne {r : Request} {path other : String} (h : r.gets path = true)
    (hne : Text.Utf8.encode path ≠ Text.Utf8.encode other) : r.gets other = false := by
  rw [Request.gets, path_of_gets h, decide_eq_false hne, Bool.and_false]

/-- The token in the header of a request. -/
def Web.Request.Carries (r : Request) (token : String) : Prop :=
  ∃ h, r.header? "authorization" = some h ∧ bearer h = .ok token

theorem Web.Request.Carries.unique {r : Request} {token token' : String} (h : r.Carries token)
    (h' : r.Carries token') : token' = token := by
  obtain ⟨value, hvalue, hb⟩ := h
  obtain ⟨value', hvalue', hb'⟩ := h'
  obtain rfl := Option.some.inj (hvalue.symm.trans hvalue')
  exact Except.ok.inj (hb'.symm.trans hb)

namespace Service

variable {s : Service} {r : Request} {now : Moment} {token : String}

/-- A request carries a token that is accepted at a moment. -/
def Admits (s : Service) (r : Request) (now : Moment) (token : String) : Prop :=
  r.Carries token ∧ ∃ claims, s.tokens.verify now token = .ok claims

theorem claims?_eq_some {claims : Verified} : s.claims? r now = some claims ↔
    ∃ token, r.Carries token ∧ s.tokens.verify now token = .ok claims := by
  unfold claims? Request.Carries
  cases hh : r.header? "authorization" with
  | none => simp
  | some h =>
    cases hb : bearer h with
    | error e => simp [hb]
    | ok token =>
      cases hv : s.tokens.verify now token <;> simp [hb, hv, Except.toOption]

theorem claims?_eq_none : s.claims? r now = none ↔ ∀ token, ¬ s.Admits r now token := by
  rw [Option.eq_none_iff_forall_ne_some]
  simp only [ne_eq, claims?_eq_some, Admits, not_exists, not_and]
  exact ⟨fun h token hr claims hv => h claims token hr hv,
    fun h claims token hr hv => h token hr claims hv⟩

/-- Why nothing that a request carries is accepted. -/
inductive Refused (s : Service) (issued : Set (Identity × Moment)) (r : Request) (now : Moment) :
    Prop
  | missing (h : r.header? "authorization" = none)
  | malformed {h : String} {e : Token.Error} (hh : r.header? "authorization" = some h)
      (he : bearer h = .error e)
  /-- What is before the signature was made elsewhere, or was changed. -/
  | foreign {token : String} (carries : r.Carries token)
      (h : ∀ p ∈ issued, Manager.signed? token ≠ some (s.tokens.message p.1 p.2))
  /-- The signature was made by another key, or for something else. -/
  | spliced {token : String} {message signature : List UInt8} (carries : r.Carries token)
      (hsplit : Manager.splitLast (Text.Utf8.encode token) = some (message, signature))
      (h : ∀ bytes, Text.Base64.decode? Text.Base64.urlSafe signature = some bytes →
        s.tokens.publicKey.verify message bytes = false)
  | expired {token : String} {p : Identity × Moment} {l : Int} (carries : r.Carries token)
      (hp : p ∈ issued) (h : Manager.signed? token = some (s.tokens.message p.1 p.2))
      (hl : s.tokens.lifetime = some l) (late : p.2.seconds + l + 60 < now.seconds)

theorem Refused.not_admits {issued : Set (Identity × Moment)}
    (dated : ∀ p ∈ issued, s.tokens.Dated p.2)
    (unforged : ∀ token, r.Carries token → s.tokens.Unforged issued token)
    (h : s.Refused issued r now) (token : String) : ¬ s.Admits r now token := by
  rintro ⟨carries, claims, hverify⟩
  cases h with
  | missing h =>
    obtain ⟨_, hh, -⟩ := carries
    cases h.symm.trans hh
  | malformed hh he =>
    obtain ⟨_, hh', hb⟩ := carries
    obtain rfl := Option.some.inj (hh.symm.trans hh')
    cases he.symm.trans hb
  | foreign carries' h =>
    obtain rfl := carries.unique carries'
    obtain ⟨p, hp, hsigned⟩ := (unforged _ carries).signed? hverify
    exact h p hp hsigned
  | spliced carries' hsplit h =>
    obtain rfl := carries.unique carries'
    obtain ⟨payload, hpayload, -, -⟩ := Manager.verify_eq_ok hverify
    obtain ⟨_, _, bytes, _, _, hsplit', hbytes, hkey, -, -⟩ := Manager.payload_eq_ok hpayload
    obtain ⟨rfl, rfl⟩ := Prod.mk.inj (Option.some.inj (hsplit.symm.trans hsplit'))
    rw [h bytes hbytes] at hkey
    cases hkey
  | expired carries' hp h hl late =>
    obtain rfl := carries.unique carries'
    have hends := (Manager.issued_of_signed? (dated _ hp) h hverify).2 _ hl
    omega

/-! ### Answers -/

/-- What is shown of an identity that was looked up. -/
def shown (id : Uuid) : Except Error (Option Identity) → Response
  | .error e => ofError e
  | .ok none => ofError ⟨.notFound, s!"identity {id.text}"⟩
  | .ok (some i) => .ofJson 200 i.publicJson

section
variable {σ : Type} (answer : (c : Call) → σ → c.Answer × σ) (x : σ)

theorem respond_user (user : r.gets "/api/user" = true) :
    ((s.respond r).run answer x).1 = some ((s.userPage r).run answer x).1 := by
  have hpath := Request.path_of_gets user
  have within : r.isWithin "/api/user" = true := by
    rw [Request.isWithin, hpath, decide_eq_true rfl, Bool.true_or]
  rw [respond, Request.gets_of_ne user (by decide), Request.gets_of_ne user (by decide), within]
  simp only [Bool.false_eq_true, if_false, if_true, Routine.run_bind, Routine.run_pure]

theorem run_userPage (user : r.gets "/api/user" = true) : ((s.userPage r).run answer x).1 =
    match s.claims? r (answer .now x).1 with
    | none => authenticationRequired
    | some claims => ((identityOf claims).run answer (answer .now x).2).1 := by
  have now : (ask .now).run answer x = answer .now x := rfl
  rw [userPage, Routine.run_bind, now]
  cases s.claims? r (answer .now x).1 with
  | none => rfl
  | some claims => simp only [user, if_true]

theorem run_identityOf {claims : Verified} {id : Uuid} (h : locate (some claims) = .ok id) :
    ((identityOf claims).run answer x).1 = shown id (answer (.loadIdentity id) x).1 := by
  have load : (ask (.loadIdentity id)).run answer x = answer (.loadIdentity id) x := rfl
  rw [identityOf, h]
  simp only
  rw [Routine.run_bind, load]
  cases (answer (.loadIdentity id) x).1 with
  | error e => rfl
  | ok i => cases i <;> rfl

theorem shown_status {id : Uuid} {looked : Except Error (Option Identity)}
    (h : (shown id looked).status = 200) : ∃ i, looked = .ok (some i) := by
  cases looked with
  | error e => obtain ⟨kind, detail⟩ := e; cases kind <;> cases h
  | ok i =>
    cases i with
    | none => cases h
    | some i => exact ⟨i, rfl⟩

/-- A request for the page of a person shows what is stored under the identifier of the token that
it carries, if that is one that was issued. -/
theorem respond_of_admits {issued : Set (Identity × Moment)} (user : r.gets "/api/user" = true)
    (dated : ∀ p ∈ issued, s.tokens.Dated p.2)
    (unforged : ∀ token, r.Carries token → s.tokens.Unforged issued token)
    (admits : s.Admits r (answer .now x).1 token) :
    ∃ p ∈ issued, Manager.signed? token = some (s.tokens.message p.1 p.2) ∧
      ((s.respond r).run answer x).1 =
        some (shown p.1.id (answer (.loadIdentity p.1.id) (answer .now x).2).1) := by
  obtain ⟨carries, claims, hverify⟩ := admits
  obtain ⟨p, hp, hsigned⟩ := (unforged token carries).signed? hverify
  have hlocate := (Manager.issued_of_signed? (dated p hp) hsigned hverify).1
  refine ⟨p, hp, hsigned, ?_⟩
  rw [respond_user answer x user, run_userPage answer x user,
    claims?_eq_some.mpr ⟨token, carries, hverify⟩]
  exact congrArg some (run_identityOf answer _ hlocate)

theorem respond_of_not_admits (user : r.gets "/api/user" = true)
    (h : ∀ token, ¬ s.Admits r (answer .now x).1 token) :
    ((s.respond r).run answer x).1 = some authenticationRequired := by
  rw [respond_user answer x user, run_userPage answer x user, claims?_eq_none.mpr h]

variable {answer x}

/-! ### A session of one person -/

/-- A request for the page with a token as a client writes it. -/
def requestWith (token : String) : Request :=
  ⟨"GET", "/api/user", [("Authorization", Text.Utf8.encode ("Bearer " ++ token))]⟩

theorem gets_requestWith (token : String) : (requestWith token).gets "/api/user" = true :=
  show (Request.mk "GET" "/api/user" []).gets "/api/user" = true by decide

theorem header?_requestWith (h : ∀ c ∈ token.toList, 0x20 < c.toNat ∧ c.toNat < 0x7f) :
    (requestWith token).header? "authorization" = some ("Bearer " ++ token) := by
  have hchars : ∀ c ∈ ("Bearer " ++ token).toList, 0x20 ≤ c.toNat ∧ c.toNat < 0x7f := by
    have hword : "Bearer ".toList.all (fun c => 0x20 ≤ c.toNat ∧ c.toNat < 0x7f) = true := by
      decide
    intro c hc
    rw [String.toList_append, List.mem_append] at hc
    rcases hc with hc | hc
    · exact of_decide_eq_true (List.all_eq_true.mp hword c hc)
    · exact ⟨Nat.le_of_lt (h c hc).1, (h c hc).2⟩
  have hprintable : (Text.Utf8.encode ("Bearer " ++ token)).all Request.isPrintable = true := by
    rw [List.all_eq_true]
    intro b hb
    obtain ⟨c, hc, hb⟩ := List.mem_flatMap.mp hb
    obtain ⟨hlow, hhigh⟩ := hchars c hc
    have hchar : Text.Utf8.encodeChar c = [.ofNat c.toNat] := by
      rw [Text.Utf8.encodeChar, if_pos (by omega)]
    rw [hchar, List.mem_singleton] at hb
    subst hb
    have hbyte := Text.Utf8.toNat_byte (n := c.toNat) (by omega)
    simp only [Request.isPrintable, Bool.or_eq_true, Bool.and_eq_true, decide_eq_true_eq,
      UInt8.le_iff_toNat_le, UInt8.lt_iff_toNat_lt, hbyte]
    exact .inr ⟨hlow, hhigh⟩
  have hname : "Authorization".map Char.toLower = "authorization".map Char.toLower :=
    String.toList_injective (by rw [String.toList_map, String.toList_map]; decide)
  have hfind : (requestWith token).headers.find?
      (fun h => h.1.map Char.toLower == "authorization".map Char.toLower) =
        some ("Authorization", Text.Utf8.encode ("Bearer " ++ token)) :=
    List.find?_cons_of_pos (beq_iff_eq.mpr hname)
  rw [Request.header?, hfind]
  exact (if_pos hprintable).trans (Text.Utf8.decode?_encode _)

/-- An issued token is carried as it is. -/
theorem requestWith_carries {m : Manager} {i : Identity} {t : Moment}
    (hg : m.generate i t = .ok token) : (requestWith token).Carries token := by
  have hvisible := Manager.visible_generate hg
  refine ⟨_, header?_requestWith hvisible, bearer_text (fun c hc => ?_) ?_⟩
  · have hc := hvisible c hc
    unfold Text.isBlank
    simp
    omega
  · rintro rfl
    obtain ⟨s, -, htoken⟩ := Manager.encode_generate hg
    have hlength := congrArg List.length htoken
    rw [List.length_append] at hlength
    cases hlength

def sampleIdentity : Identity := ⟨.nil, "", "", [], none⟩

def sampleMemory : Store.Memory := { Store.Memory.empty with identities := ⟨[sampleIdentity]⟩ }

/-- The digest of what is signed of the person's token. -/
def sampleDigest : List UInt8 :=
  [105, 97, 35, 76, 34, 105, 90, 175, 11, 221, 138, 148, 71, 85, 102, 193, 153, 239, 185, 40, 208,
    82, 20, 113, 239, 111, 155, 79, 192, 38, 244, 61]

set_option maxRecDepth 100000 in
theorem digest_sample : Digest.Sha256.digest
    (sample.tokens.message sampleIdentity (.ofSeconds 0)) = sampleDigest :=
  eq_of_beq (by decide +kernel)

set_option maxRecDepth 100000 in
theorem verify_sample (s : List UInt8) (hs : sample.tokens.privateKey.sign?
      (sample.tokens.message sampleIdentity (.ofSeconds 0)) = some s) :
    sample.tokens.publicKey.verify (sample.tokens.message sampleIdentity (.ofSeconds 0)) s =
      true := by
  rw [Rsa.PrivateKey.sign?,
    if_pos (show sample.tokens.privateKey.CanSign from sampleKey_canSign)] at hs
  obtain rfl := Option.some.inj hs
  simp only [Rsa.PublicKey.verify, Rsa.padded, digest_sample]
  decide +kernel

/-- Sessions are authentic, where only the manager signs and identities are looked up under their
own identifiers. A request for the page of a person is always answered. It is answered with an
identity only if it carries a token that was issued, but for the signature, and then with the
identity that is stored under the identifier that the token was issued for, or with 404 if there is
none. Whoever carries no token that is accepted is answered with 401, and in the same way whatever
is stored where; and nobody is accepted without a header, with one that is malformed, or with a
token that was changed, signed by another key, put together of others, or is past its end. -/
theorem session_authentic {issued : Set (Identity × Moment)} (user : r.gets "/api/user" = true)
    (dated : ∀ p ∈ issued, s.tokens.Dated p.2)
    (unforged : ∀ token, r.Carries token → s.tokens.Unforged issued token)
    (keyed : Keyed answer) :
    ∃ response, ((s.respond r).run answer x).1 = some response ∧
      (response.status = 200 → ∃ token, s.Admits r (answer .now x).1 token ∧
        ∃ p ∈ issued, Manager.signed? token = some (s.tokens.message p.1 p.2) ∧
          ∃ i, (answer (.loadIdentity p.1.id) (answer .now x).2).1 = .ok (some i) ∧
            i.id = p.1.id ∧ response = .ofJson 200 i.publicJson) ∧
      (∀ token, s.Admits r (answer .now x).1 token →
        ∃ p ∈ issued, Manager.signed? token = some (s.tokens.message p.1 p.2) ∧
          ((answer (.loadIdentity p.1.id) (answer .now x).2).1 = .ok none →
            response.status = 404) ∧
          ∀ i, (answer (.loadIdentity p.1.id) (answer .now x).2).1 = .ok (some i) →
            response = .ofJson 200 i.publicJson) ∧
      ((∀ token, ¬ s.Admits r (answer .now x).1 token) →
        response.status = 401 ∧
          ∀ (τ : Type) (answer' : (c : Call) → τ → c.Answer × τ) (y : τ),
            (∀ token, ¬ s.Admits r (answer' .now y).1 token) →
              ((s.respond r).run answer' y).1 = some response) ∧
      (s.Refused issued r (answer .now x).1 → ∀ token, ¬ s.Admits r (answer .now x).1 token) := by
  have refused := fun (h : s.Refused issued r (answer .now x).1) => h.not_admits dated unforged
  by_cases h : ∃ token, s.Admits r (answer .now x).1 token
  · obtain ⟨token, admits⟩ := h
    obtain ⟨p, hp, hsigned, hresponse⟩ := respond_of_admits answer x user dated unforged admits
    refine ⟨_, hresponse, fun hstatus => ?_, ?_, fun h => absurd admits (h token), refused⟩
    · obtain ⟨i, hi⟩ := shown_status hstatus
      exact ⟨token, admits, p, hp, hsigned, i, hi, keyed _ _ _ hi, by rw [hi]; rfl⟩
    · intro token' admits'
      obtain ⟨p', hp', hsigned', hresponse'⟩ :=
        respond_of_admits answer x user dated unforged admits'
      rw [Option.some.inj (hresponse.symm.trans hresponse')]
      exact ⟨p', hp', hsigned', fun hnone => by rw [hnone]; rfl, fun i hi => by rw [hi]; rfl⟩
  · have h := not_exists.mp h
    refine ⟨authenticationRequired, respond_of_not_admits answer x user h, fun hstatus => ?_,
      fun token admits => absurd admits (h token), fun _ => ⟨rfl, fun _ answer' y h' => ?_⟩, refused⟩
    · cases hstatus
    · exact respond_of_not_admits answer' y user h'

theorem session_authentic_sample : ∃ token,
    sample.tokens.generate sampleIdentity (.ofSeconds 0) = .ok token ∧
      ((sample.respond (requestWith token)).run (Store.Memory.answer sampleSurroundings)
        sampleMemory).1 = some (.ofJson 200 sampleIdentity.publicJson) := by
  obtain ⟨token, hg⟩ := generate_sample sampleIdentity (.ofSeconds 0)
  have carries := requestWith_carries hg
  have dated : ∀ p ∈ ({(sampleIdentity, .ofSeconds 0)} : Set (Identity × Moment)),
      sample.tokens.Dated p.2 := by
    rintro p rfl
    exact ⟨by decide, trivial⟩
  have unforged : ∀ token', (requestWith token).Carries token' →
      sample.tokens.Unforged {(sampleIdentity, .ofSeconds 0)} token' := by
    intro token' carries' message signature bytes hsplit _ _
    obtain rfl := carries.unique carries'
    have hsigned := Manager.signed?_generate hg
    rw [Manager.signed?, hsplit] at hsigned
    exact ⟨_, rfl, Option.some.inj hsigned⟩
  obtain ⟨claims, hverify, -⟩ := Manager.verify_generate (dated _ rfl) hg verify_sample
    (.ofSeconds 60) fun l hl => by cases hl
  obtain ⟨response, hresponse, -, admitted, -⟩ := session_authentic (x := sampleMemory)
    (gets_requestWith token) dated unforged (Store.keyed_memory sampleSurroundings)
  obtain ⟨p, rfl, -, -, shows⟩ := admitted token ⟨carries, claims, hverify⟩
  refine ⟨token, hg, ?_⟩
  rw [hresponse, shows sampleIdentity rfl]

end

end Service
end SignOn
