import Mathlib.Data.List.TakeWhile
import SignOn.Proofs.Json.Values
import SignOn.Proofs.Token.Text
import SignOn.Proofs.Uuid

/-!
What a token says whom it speaks of. A token that is issued can be taken apart again, and the
identifier in its payload is the one of the identity that it was issued for.
-/
namespace SignOn.Token

open Text.Utf8

/-! ### Claims -/

/-- The times of the claims are words of 64 bits. -/
structure Claims.InRange (c : Claims) : Prop where
  issuedAt : -2 ^ 63 ≤ c.issuedAt ∧ c.issuedAt < 2 ^ 63
  expiresAt : ∀ e, c.expiresAt = some e → -2 ^ 63 ≤ e ∧ e < 2 ^ 63

/-- The claims by their names, as they are written. -/
def Claims.members (c : Claims) : List (String × Json.Value) :=
  [(uuidClaim, .string c.uuid), ("fullName", .string c.fullName), ("imageURL", .string c.imageUrl),
    ("iat", .int c.issuedAt)] ++ Json.member? "exp" (c.expiresAt.map .int)

theorem Claims.toJson_eq (c : Claims) : c.toJson = .object c.members := rfl

theorem Claims.fits_toJson {c : Claims} (h : c.InRange) : c.toJson.Fits Json.maxDepth := by
  have hint {i : Int} (hi : -2 ^ 63 ≤ i ∧ i < 2 ^ 63) : (Json.Value.int i).Fits 126 :=
    ⟨hi.1, Int.lt_trans hi.2 (by decide)⟩
  obtain ⟨uuid, fullName, imageUrl, issuedAt, expiresAt⟩ := c
  cases expiresAt with
  | none =>
    change ∀ m ∈ [_, _, _, _], Json.Value.Fits 126 (Prod.snd m)
    simp only [List.forall_mem_cons]
    exact ⟨trivial, trivial, trivial, hint h.issuedAt, by simp⟩
  | some e =>
    change ∀ m ∈ [_, _, _, _, _], Json.Value.Fits 126 (Prod.snd m)
    simp only [List.forall_mem_cons]
    exact ⟨trivial, trivial, trivial, hint h.issuedAt, hint (h.expiresAt e rfl), by simp⟩

/-- The names of the claims all differ. -/
theorem Claims.settle_toJson (c : Claims) : c.toJson.settle = c.toJson := by
  obtain ⟨uuid, fullName, imageUrl, issuedAt, expiresAt⟩ := c
  cases expiresAt <;> rfl

namespace Manager

/-- The claims of a payload, as they were written. -/
theorem members?_toJson {c : Claims} (h : c.InRange) :
    members? (encodeChars c.toJson.chars) = some c.members := by
  have hread : Json.value (encodeChars c.toJson.chars) = .got c.toJson [] := by
    have := Json.rawValue_chars (Claims.fits_toJson h) Json.ends_nil
    rw [List.append_nil] at this
    rw [Json.value, this, Json.Read.map, Claims.settle_toJson]
  rw [members?, Json.parse?, hread]
  rfl

/-- The claims of an issued token lead to the identity that it was issued for. -/
theorem locate_members (m : Manager) (i : Identity) (now : Moment) :
    locate (some (m.claims i now).members) = .ok i.id := by
  have huuid : Verified.claim? (m.claims i now).members Claims.uuidClaim =
      some (.string i.id.text) := rfl
  simp only [locate, huuid, Uuid.parse_text]

/-! ### Parts -/

theorem splitLast_append {a b : List UInt8} (h : dot ∉ b) :
    splitLast (a ++ dot :: b) = some (a, b) := by
  have hb : ∀ x ∈ b.reverse, decide (x ≠ dot) = true := by
    intro x hx
    rw [decide_eq_true_eq]
    rintro rfl
    exact h (List.mem_reverse.mp hx)
  have hreverse : (a ++ dot :: b).reverse = b.reverse ++ dot :: a.reverse := by simp
  unfold splitLast
  rw [hreverse, List.takeWhile_append_of_pos hb, List.dropWhile_append_of_pos hb]
  simp

/-! ### Tokens -/

/-- A moment that has a date, at which a token can be issued. -/
structure Dated (m : Manager) (now : Moment) : Prop where
  date : firstSecond ≤ now.seconds ∧ now.seconds ≤ lastSecond
  ends : m.CanDate now

theorem Dated.inRange {m : Manager} {now : Moment} (h : m.Dated now) (i : Identity) :
    (m.claims i now).InRange := by
  obtain ⟨⟨hfirst, hlast⟩, hends⟩ := h
  have within {e : Int} (h : firstSecond ≤ e ∧ e ≤ lastSecond) : -2 ^ 63 ≤ e ∧ e < 2 ^ 63 := by
    simp only [firstSecond, lastSecond] at h
    omega
  refine ⟨within ⟨hfirst, hlast⟩, fun e he => within ?_⟩
  obtain ⟨l, hl, rfl⟩ := Option.map_eq_some_iff.mp he
  simpa [CanDate, hl] using hends

section
variable {m : Manager} {i : Identity} {t : Moment}

theorem expiresAt_claims {l : Int} (hl : m.lifetime = some l) :
    (m.claims i t).expiresAt = some (t.seconds + l) := congrArg (Option.map (t.seconds + ·)) hl

theorem expiresAt_claims_of_none (hl : m.lifetime = none) : (m.claims i t).expiresAt = none :=
  congrArg (Option.map (t.seconds + ·)) hl

theorem claim?_exp {l : Int} (hl : m.lifetime = some l) :
    Verified.claim? (m.claims i t).members "exp" = some (.int (t.seconds + l)) := by
  simp only [Claims.members, expiresAt_claims hl]
  rfl

theorem claim?_exp_of_none (hl : m.lifetime = none) :
    Verified.claim? (m.claims i t).members "exp" = none := by
  simp only [Claims.members, expiresAt_claims_of_none hl]
  rfl

end

/-- The claims that a token carries, read without a look at its signature. -/
def written? (token : String) : Option Verified := do
  let (message, _) ← splitLast (encode token)
  let (_, payload) ← splitLast message
  let payload ← Text.Base64.decode? Text.Base64.urlSafe payload
  members? payload

/-- The identifier that a token carries, read without a look at its signature. -/
def subject? (token : String) : Option Uuid := do
  let (message, _) ← splitLast (encode token)
  let (_, payload) ← splitLast message
  let payload ← Text.Base64.decode? Text.Base64.urlSafe payload
  let claims ← members? payload
  (locate (some claims)).toOption

theorem subject?_eq (token : String) :
    subject? token = (written? token).bind fun claims => (locate (some claims)).toOption := by
  simp only [subject?, written?, Option.bind_eq_bind, Option.bind_assoc]

theorem dot_notMem_encode (bs : List UInt8) :
    dot ∉ Text.Base64.encode Text.Base64.urlSafe bs := fun h => (mem_encode_urlSafe h).2 rfl

theorem splitLast_message (m : Manager) (i : Identity) (now : Moment) :
    splitLast (m.message i now) =
      some (part (Header.toJson m.keyId), part (m.claims i now).toJson) :=
  splitLast_append (dot_notMem_encode _)

/-- A token is its message, a point and its signature, in visible characters. -/
theorem eq_of_generate {m : Manager} {i : Identity} {now : Moment} {token : String}
    (hg : m.generate i now = .ok token) : ∃ s, m.privateKey.sign? (m.message i now) = some s ∧
      token = asciiText (m.message i now ++ dot :: Text.Base64.encode Text.Base64.urlSafe s) ∧
      ∀ b ∈ m.message i now ++ dot :: Text.Base64.encode Text.Base64.urlSafe s, IsVisible b := by
  simp only [generate] at hg
  split at hg
  next s hs =>
    exact ⟨s, hs, (Except.ok.inj hg).symm, fun _ hb => isVisible_of_mem_parts hb⟩
  next hs => cases hg

/-- Tokens are issued with the keys that can sign, and whatever they say. -/
theorem generate_iff {m : Manager} {i : Identity} {now : Moment} :
    (∃ token, m.generate i now = .ok token) ↔ m.privateKey.CanSign := by
  simp only [generate, Rsa.PrivateKey.sign?]
  by_cases h : m.privateKey.CanSign <;> simp [h]

theorem encode_generate {m : Manager} {i : Identity} {now : Moment} {token : String}
    (hg : m.generate i now = .ok token) : ∃ s, m.privateKey.sign? (m.message i now) = some s ∧
      encode token = m.message i now ++ dot :: Text.Base64.encode Text.Base64.urlSafe s := by
  obtain ⟨s, hs, rfl, hvisible⟩ := eq_of_generate hg
  exact ⟨s, hs, encode_asciiText fun b hb => Nat.lt_trans (hvisible b hb).2 (by decide)⟩

/-- The characters of an issued token are visible. -/
theorem visible_generate {m : Manager} {i : Identity} {now : Moment} {token : String}
    (hg : m.generate i now = .ok token) :
    ∀ c ∈ token.toList, 0x20 < c.toNat ∧ c.toNat < 0x7f := by
  obtain ⟨s, -, rfl, hvisible⟩ := eq_of_generate hg
  intro c hc
  rw [asciiText, String.toList_ofList] at hc
  obtain ⟨b, hb, rfl⟩ := List.mem_map.mp hc
  rw [toNat_ofNat_byte]
  exact hvisible b hb

theorem written?_generate {m : Manager} {now : Moment} (h : m.Dated now) {i : Identity}
    {token : String} (hg : m.generate i now = .ok token) :
    written? token = some (m.claims i now).members := by
  obtain ⟨s, -, htoken⟩ := encode_generate hg
  have hdecode : Text.Base64.decode? Text.Base64.urlSafe (part (m.claims i now).toJson) =
      some (encodeChars (m.claims i now).toJson.chars) :=
    Text.Base64.decode?_encode Text.Base64.lawful_urlSafe _
  simp only [written?, htoken, splitLast_append (dot_notMem_encode _), splitLast_message,
    Option.bind_eq_bind, Option.bind_some, hdecode, members?_toJson (h.inRange i)]

theorem subject?_generate {m : Manager} {now : Moment} (h : m.Dated now) {i : Identity}
    {token : String} (hg : m.generate i now = .ok token) : subject? token = some i.id := by
  rw [subject?_eq, written?_generate h hg, Option.bind_some, locate_members]
  rfl

end Manager
end SignOn.Token
