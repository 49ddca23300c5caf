import SignOn.Proofs.KeyFiles.Armour
import SignOn.Proofs.Token.Hours

/-!
What start-up makes of the keys. A key that is read and has its other half beside it is taken, also
where it cannot sign; whether it can shows only when a token is to be issued, and then it is all
tokens or none.
-/
namespace SignOn

open Login Token

/-! ### What is read -/

namespace Rsa

theorem isUsable_of_ofDer? {bs : List UInt8} {k : PrivateKey} (h : PrivateKey.ofDer? bs = some k) :
    k.IsUsable := by
  simp only [PrivateKey.ofDer?, Option.bind_eq_bind, Option.bind_eq_some_iff] at h
  obtain ⟨contents, -, numbers, -, h⟩ := h
  split at h
  next =>
    split at h
    next usable =>
      obtain rfl := Option.some.inj h
      exact usable
    next => cases h
  next => cases h

theorem isUsable_of_ofEnvelope? {bs : List UInt8} {k : PrivateKey}
    (h : PrivateKey.ofEnvelope? bs = some k) : k.IsUsable := by
  simp only [PrivateKey.ofEnvelope?, Option.bind_eq_bind, Option.bind_eq_some_iff] at h
  obtain ⟨contents, -, version, -, number, -, name, -, key, -, embedded, -, h⟩ := h
  split at h
  next => cases h
  next => exact isUsable_of_ofDer? h

/-- A private key that is read is usable, whichever of its forms it was read from. -/
theorem isUsable_of_parse {text : List UInt8} {k : PrivateKey}
    (h : PrivateKey.parse text = .ok k) : k.IsUsable := by
  have hpem : ∃ cs, PrivateKey.ofPem? cs = some k := by
    unfold PrivateKey.parse at h
    cases harmoured : armoured text with
    | error e =>
      rw [harmoured] at h
      cases h
    | ok cs =>
      simp only [harmoured, bind, Except.bind] at h
      split at h
      next k' hk =>
        obtain rfl := Except.ok.inj h
        exact ⟨cs, hk⟩
      next => cases h
  obtain ⟨cs, hcs⟩ := hpem
  simp only [PrivateKey.ofPem?, Option.bind_eq_bind, Option.bind_eq_some_iff] at hcs
  obtain ⟨⟨label, bytes⟩, -, hread⟩ := hcs
  simp only at hread
  split at hread
  next => exact isUsable_of_ofDer? hread
  next =>
    split at hread
    next => exact isUsable_of_ofEnvelope? hread
    next => cases hread

end Rsa

/-! ### What is issued -/

theorem Token.Manager.generate_of_not_canSign {m : Manager} (h : ¬ m.privateKey.CanSign)
    (i : Identity) (now : Moment) : m.generate i now = .error (.signing "RSA key invalid") := by
  simp only [Manager.generate, Rsa.PrivateKey.sign?, if_neg h]

namespace Service

variable {s : Service} {q : Query} {l : List (Reply services)} {token : String}

theorem issued_eq_token {i : Identity} {m : Moment} (h : s.issued i m = .token token) :
    s.tokens.generate i m = .ok token := by
  unfold issued at h
  split at h
  next =>
    cases hg : s.tokens.generate i m with
    | ok text =>
      rw [hg] at h
      injection h with htext
      rw [htext]
    | error e =>
      rw [hg] at h
      cases h
  next => cases h

/-- A second visit that ends with a token had one issued. -/
theorem Course.generate {o : Outcome} (h : s.Course q l o) (ended : o.token? = some token) :
    ∃ i m, s.tokens.generate i m = .ok token := by
  cases h with
  | stateless => cases ended
  | unknown => cases ended
  | taken _ _ finishes =>
    obtain rfl := token?_ofEnding.mp ended
    cases finishes with
    | resolved _ _ issues =>
      generalize hending : Ending.token token = ending at issues
      cases issues with
      | unstored => cases hending
      | @stored i m => exact ⟨i, m, issued_eq_token hending.symm⟩

theorem token?_callback (h : ¬ s.tokens.privateKey.CanSign) {σ : Type}
    (answer : (c : Call) → σ → c.Answer × σ) (x : σ) :
    ((s.callback q).run answer x).1.token? = none := by
  by_contra hne
  obtain ⟨token, ended⟩ := Option.ne_none_iff_exists'.mp hne
  have course := course_of_answered ((s.callback q).answered_run answer x)
  obtain ⟨i, m, hg⟩ := course.generate ended
  exact h (Manager.generate_iff.mp ⟨token, hg⟩)

/-! ### From the files to the tokens -/

/-- Every usable key is taken when its files are read. -/
theorem taken_at_start {k : Rsa.PrivateKey} (usable : k.IsUsable)
    (below : k.exponent < k.publicKey.modulus) {pem : String} (hpem : k.pem? = some pem) :
    Rsa.PrivateKey.parse (Text.Utf8.encode pem) = .ok k ∧
      Rsa.PublicKey.parse (Text.Utf8.encode k.publicKey.pem) = .ok k.publicKey ∧
      Manager.of k.publicKey k = .ok ⟨k, Manager.defaultKeyId, none⟩ := by
  refine ⟨Rsa.PrivateKey.parse_pem usable below hpem, Rsa.PublicKey.parse_pem usable.1, ?_⟩
  obtain ⟨c, hc, -⟩ := Option.map_eq_some_iff.mp hpem
  simp only [Manager.of, ne_eq, not_true_eq_false, if_false, hc]

/-- A service whose keys were read and taken issues tokens for everybody, if its key can sign; if it
cannot, each token fails, and no sign-on ends with one. -/
theorem accepted_key_signs_all_or_none {text : List UInt8} {k : Rsa.PrivateKey}
    {publicKey : Rsa.PublicKey} {base : Manager} (read : Rsa.PrivateKey.parse text = .ok k)
    (matching : Manager.of publicKey k = .ok base) {s : Service} {keyId : String}
    {lifetime : Option Int} (hs : s.tokens = { base with keyId := keyId, lifetime := lifetime }) :
    (k.IsUsable ∧ publicKey = k.publicKey) ∧
    (k.CanSign → ∀ i now, ∃ token, s.tokens.generate i now = .ok token ∧
      (s.tokens.CanDate now → s.issued i now = .token token)) ∧
    (¬ k.CanSign → (∀ i now, s.tokens.generate i now = .error (.signing "RSA key invalid")) ∧
      ∀ (q : Query) (σ : Type) (answer : (c : Call) → σ → c.Answer × σ) (x : σ),
        ((s.callback q).run answer x).1.token? = none) := by
  have hkey : s.tokens.privateKey = k := by
    have pair : Manager.of (KeyFiles.Pair.mk publicKey k).publicKey
        (KeyFiles.Pair.mk publicKey k).privateKey = .ok base := matching
    rw [hs]
    exact privateKey_of pair
  have hpublic : publicKey = k.publicKey := by
    by_contra hne
    rw [Manager.of, if_pos (Ne.symm hne)] at matching
    cases matching
  refine ⟨⟨Rsa.isUsable_of_parse read, hpublic⟩, fun canSign i now => ?_, fun cannot => ?_⟩
  · obtain ⟨token, hg⟩ := Manager.generate_iff.mpr (hkey ▸ canSign)
    refine ⟨token, hg, fun dated => ?_⟩
    rw [issued, if_pos dated, hg]
  · have cannot : ¬ s.tokens.privateKey.CanSign := hkey ▸ cannot
    exact ⟨Manager.generate_of_not_canSign cannot,
      fun q σ answer x => token?_callback cannot answer x⟩

theorem pem?_isSome {k : Rsa.PrivateKey} (h : k.coefficient?.isSome = true) :
    ∃ pem, k.pem? = some pem := by
  rw [← Option.isSome_iff_exists, Rsa.PrivateKey.pem?, Option.isSome_map]
  exact h

theorem sampleKey_below : sampleKey.exponent < sampleKey.publicKey.modulus := by decide +kernel

theorem accepted_key_signs_all_or_none_sample : ∃ pem token, sampleKey.pem? = some pem ∧
    Rsa.PrivateKey.parse (Text.Utf8.encode pem) = .ok sampleKey ∧
    sample.issued (candidate sampleProfile [] .nil) (.ofSeconds 60) = .token token := by
  obtain ⟨pem, hpem⟩ := pem?_isSome (k := sampleKey) (by decide +kernel)
  obtain ⟨read, -, matching⟩ := taken_at_start (by decide +kernel) sampleKey_below hpem
  obtain ⟨-, signs, -⟩ := accepted_key_signs_all_or_none (s := sample) read matching rfl
  obtain ⟨token, -, hissued⟩ :=
    signs sampleKey_canSign (candidate sampleProfile [] .nil) (.ofSeconds 60)
  exact ⟨pem, token, hpem, read, hissued trivial⟩

/-- A key of 1024 digits, of the two greatest primes below 2 ^ 512. -/
def shortKey : Rsa.PrivateKey where
  publicKey := ⟨(2 ^ 512 - 569) * (2 ^ 512 - 629), 65537⟩
  exponent := (1 + 22004 * ((2 ^ 512 - 570) * (2 ^ 512 - 630))) / 65537
  p := 2 ^ 512 - 569
  q := 2 ^ 512 - 629

/-- A key that is taken when its files are read, and with which no token can be issued. -/
theorem shortKey_taken_but_useless : ∃ pem m, shortKey.pem? = some pem ∧
    Rsa.PrivateKey.parse (Text.Utf8.encode pem) = .ok shortKey ∧
    Rsa.PublicKey.parse (Text.Utf8.encode shortKey.publicKey.pem) = .ok shortKey.publicKey ∧
    Manager.of shortKey.publicKey shortKey = .ok m ∧
    ∀ i now, m.generate i now = .error (.signing "RSA key invalid") := by
  obtain ⟨pem, hpem⟩ := pem?_isSome (k := shortKey) (by decide +kernel)
  obtain ⟨read, readPublic, matching⟩ := taken_at_start (by decide +kernel) (by decide +kernel) hpem
  have cannot : ¬ shortKey.CanSign := by decide +kernel
  exact ⟨pem, _, hpem, read, readPublic, matching, Manager.generate_of_not_canSign cannot⟩

end Service
end SignOn
