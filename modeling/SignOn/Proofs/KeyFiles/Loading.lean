import SignOn.KeyFiles.Loading
import SignOn.Proofs.KeyFiles.FileTree
import SignOn.Proofs.KeyFiles.Generate
import SignOn.Proofs.Token.Keys

/-!
Loading keys. Where both files are there, and in every deployment but development, loading reads
what the files hold and changes nothing. Where development makes new keys, what it gives out is a
pair that belongs together, and from then on the files hold that pair for everybody.
-/
namespace SignOn.KeyFiles

open Config FileTree

variable {t t' : FileTree} {keys : TokenKeys} {deployment : Deployment} {draw : Nat → Nat}
  {pair : Pair}

/-! ### New keys -/

/-- Keys are made where directories can be made for both files, a key is found and both halves of it
are written. -/
theorem create_eq_ok : create t keys draw = (t', .ok ()) ↔
    ∃ (t₀ t₁ t₂ : FileTree) (k : Rsa.PrivateKey) (pem : String),
      t.makeParents keys.privatePath = .ok t₀ ∧ t₀.makeParents keys.publicPath = .ok t₁ ∧
      Rsa.generate? newKeyBits draw = some k ∧ k.pem? = some pem ∧
      t₁.write keys.privatePath (Text.Utf8.encode pem) 0o600 = .ok t₂ ∧
      t₂.write keys.publicPath (Text.Utf8.encode k.publicKey.pem) 0o644 = .ok t' := by
  constructor
  · intro h
    unfold create at h
    split at h
    next => cases h
    next _ t₀ hparents =>
      split at h
      next => cases h
      next _ t₁ hpublicParents =>
        split at h
        next => cases h
        next k hk =>
          split at h
          next => cases h
          next pem hpem =>
            split at h
            next => cases h
            next _ t₂ hprivate =>
              split at h
              next => cases h
              next _ t₃ hpublic =>
                obtain ⟨rfl, -⟩ := Prod.mk.inj h
                exact ⟨t₀, t₁, t₂, k, pem, hparents, hpublicParents, hk, hpem, hprivate, hpublic⟩
  · rintro ⟨t₀, t₁, t₂, k, pem, hparents, hpublicParents, hk, hpem, hprivate, hpublic⟩
    simp only [create, hparents, hpublicParents, hk, hpem, hprivate, hpublic]

/-! ### Reading -/

/-- Both files are there. -/
def HasBoth (t : FileTree) (keys : TokenKeys) : Prop :=
  t.contains keys.privatePath = true ∧ t.contains keys.publicPath = true

/-- Both files can be read, and their contents are those two keys. -/
def HoldsPair (t : FileTree) (keys : TokenKeys) (pair : Pair) : Prop :=
  ∃ privatePem publicPem, t.read keys.privatePath = .ok privatePem ∧
    t.read keys.publicPath = .ok publicPem ∧
    Rsa.PublicKey.parse publicPem = .ok pair.publicKey ∧
    Rsa.PrivateKey.parse privatePem = .ok pair.privateKey

theorem readKeyFile_eq_ok {kind path : String} {bytes : List UInt8} :
    readKeyFile t kind path = .ok bytes ↔ t.read path = .ok bytes := by
  unfold readKeyFile
  cases t.read path <;> simp

/-- What the files hold is read, and nothing else. -/
theorem readPair_eq_ok : readPair t keys = .ok pair ↔ HoldsPair t keys pair := by
  simp only [readPair, bind_eq_ok, readKeyFile_eq_ok, HoldsPair]
  constructor
  · rintro ⟨privatePem, hprivate, publicPem, hpublic, publicKey, hpublicKey, privateKey,
      hprivateKey, hpair⟩
    obtain rfl := Except.ok.inj hpair
    exact ⟨privatePem, publicPem, hprivate, hpublic, hpublicKey, hprivateKey⟩
  · rintro ⟨privatePem, publicPem, hprivate, hpublic, hpublicKey, hprivateKey⟩
    exact ⟨privatePem, hprivate, publicPem, hpublic, _, hpublicKey, _, hprivateKey, rfl⟩

/-! ### Loading -/

theorem load_of_hasBoth (h : HasBoth t keys) :
    load t keys deployment draw = (t, readPair t keys) := if_pos h

/-- Without both files nothing is loaded, but where new ones may be made. -/
theorem load_of_not_hasBoth (h : ¬ HasBoth t keys) (elsewhere : deployment ≠ .development) :
    ∃ e, load t keys deployment draw = (t, .error e) :=
  ⟨_, (if_neg h).trans (if_neg elsewhere)⟩

theorem load_of_create_ok (h : ¬ HasBoth t keys) (created : create t keys draw = (t', .ok ())) :
    load t keys .development draw = (t', readPair t' keys) :=
  (if_neg h).trans ((if_pos rfl).trans (by rw [created]))

theorem load_of_create_error (h : ¬ HasBoth t keys) {e : Token.Error}
    (created : create t keys draw = (t', .error e)) :
    load t keys .development draw = (t', .error e) :=
  (if_neg h).trans ((if_pos rfl).trans (by rw [created]))

/-- Keys that were made are there, and are read as what they were. -/
theorem holdsPair_of_create (distinct : placeOf keys.privatePath ≠ placeOf keys.publicPath)
    (created : create t keys draw = (t', .ok ())) : HasBoth t' keys ∧
      ∃ pair, HoldsPair t' keys pair ∧
        ∃ m, Token.Manager.of pair.publicKey pair.privateKey = .ok m := by
  obtain ⟨t₀, t₁, t₂, k, pem, -, -, hk, hpem, hprivate, hpublic⟩ := create_eq_ok.mp created
  obtain ⟨usable, below⟩ := Rsa.usable_of_generate? hk
  obtain ⟨parsePrivate, parsePublic, matching⟩ := Service.taken_at_start usable below hpem
  have holdsPrivate := (holds_write hprivate (by decide)).write distinct hpublic
  have holdsPublic := holds_write hpublic (by decide)
  exact ⟨⟨holdsPrivate.contains, holdsPublic.contains⟩, ⟨k.publicKey, k⟩,
    ⟨_, _, holdsPrivate.read, holdsPublic.read, parsePublic, parsePrivate⟩, _, matching⟩

/-- Loads one after another, each with its deployment and its own random numbers. -/
def loads (t : FileTree) (keys : TokenKeys) :
    List (Deployment × (Nat → Nat)) → FileTree × List (Except Token.Error Pair)
  | [] => (t, [])
  | (deployment, draw) :: later =>
    let (t', loaded) := load t keys deployment draw
    let (t'', rest) := loads t' keys later
    (t'', loaded :: rest)

/-- Files that hold a pair hold it for every later load. -/
theorem loads_of_holdsPair (both : HasBoth t keys) (holds : HoldsPair t keys pair)
    (later : List (Deployment × (Nat → Nat))) :
    loads t keys later = (t, later.map fun _ => .ok pair) := by
  induction later with
  | nil => rfl
  | cons first later ih =>
    rw [loads, load_of_hasBoth both, readPair_eq_ok.mpr holds]
    simp only [ih, List.map_cons]

/-- With both files there, and wherever new keys must not be made, a load changes no file and gives
the pair that both files hold. Where it makes new keys and gives out a pair, that pair belongs
together, and every load afterwards gives it again and changes nothing. -/
theorem load_reads_or_makes (t : FileTree) {keys : TokenKeys}
    (distinct : placeOf keys.privatePath ≠ placeOf keys.publicPath) (deployment : Deployment)
    (draw : Nat → Nat) :
    (deployment ≠ .development ∨ HasBoth t keys →
      (load t keys deployment draw).1 = t ∧ ∀ pair, (load t keys deployment draw).2 = .ok pair ↔
        HasBoth t keys ∧ HoldsPair t keys pair) ∧
    (deployment = .development → ¬ HasBoth t keys → ∀ t' pair,
      load t keys deployment draw = (t', .ok pair) →
        (∃ m, Token.Manager.of pair.publicKey pair.privateKey = .ok m) ∧ HasBoth t' keys ∧
        ∀ later, loads t' keys later = (t', later.map fun _ => .ok pair)) := by
  constructor
  · intro reading
    by_cases both : HasBoth t keys
    · rw [load_of_hasBoth both]
      exact ⟨rfl, fun pair => readPair_eq_ok.trans (by simp [both])⟩
    · have elsewhere := reading.resolve_right both
      obtain ⟨e, he⟩ : ∃ e, load t keys deployment draw = (t, .error e) :=
        load_of_not_hasBoth both elsewhere
      simp [he, both]
  · rintro rfl both t' pair loaded
    cases hcreate : create t keys draw with
    | mk t₁ outcome =>
    cases outcome with
    | error e =>
      rw [load_of_create_error both hcreate] at loaded
      cases loaded
    | ok _ =>
      obtain ⟨both', made, holds, matching⟩ := holdsPair_of_create distinct hcreate
      rw [load_of_create_ok both hcreate] at loaded
      obtain ⟨rfl, hpair⟩ := Prod.mk.inj loaded
      rw [readPair_eq_ok.mpr holds] at hpair
      obtain rfl := Except.ok.inj hpair
      exact ⟨matching, both', loads_of_holdsPair both' holds⟩

/-! ### A first start -/

def sampleKeys : TokenKeys := ⟨"keys/private.pem", "keys/public.pem", "key", none⟩

/-- A directory for keys, with nothing in it. -/
def sampleDirectory : FileTree := ⟨[(["keys"], .directory)]⟩

def samplePrivateFile (text : List UInt8) : FileTree :=
  ⟨sampleDirectory.nodes ++ [(["keys", "private.pem"], .file text 0o600)]⟩

/-- The files after a first start. -/
def sampleFiles (privateText publicText : List UInt8) : FileTree :=
  ⟨(samplePrivateFile privateText).nodes ++ [(["keys", "public.pem"], .file publicText 0o644)]⟩

theorem create_sample {pem : String} (hpem : Service.sampleKey.pem? = some pem) :
    create ⟨[]⟩ sampleKeys Rsa.sampleDraw = (sampleFiles (Text.Utf8.encode pem)
      (Text.Utf8.encode Service.sampleKey.publicKey.pem), .ok ()) := by
  have hprivate (text : List UInt8) : sampleDirectory.write sampleKeys.privatePath text 0o600 =
      .ok (samplePrivateFile text) := rfl
  have hpublic (privateText text : List UInt8) :
      (samplePrivateFile privateText).write sampleKeys.publicPath text 0o644 =
        .ok (sampleFiles privateText text) := rfl
  exact create_eq_ok.mpr ⟨sampleDirectory, sampleDirectory, _, Service.sampleKey, pem, rfl, rfl,
    Rsa.generate?_sampleDraw, hpem, hprivate _, hpublic _ _⟩

/-- In an empty directory the first start makes the keys, and the later ones find them, in
production too. -/
theorem load_reads_or_makes_sample : ∃ t,
    load ⟨[]⟩ sampleKeys .development Rsa.sampleDraw = (t, .ok Service.samplePair) ∧
    loads t sampleKeys [(.production, Rsa.sampleDraw), (.development, Rsa.sampleDraw)] =
      (t, [.ok Service.samplePair, .ok Service.samplePair]) := by
  obtain ⟨pem, hpem⟩ := Service.pem?_isSome (k := Service.sampleKey) (by decide +kernel)
  obtain ⟨parsePrivate, parsePublic, -⟩ :=
    Service.taken_at_start (by decide +kernel) Service.sampleKey_below hpem
  have distinct : placeOf sampleKeys.privatePath ≠ placeOf sampleKeys.publicPath := by decide
  have missing : ¬ HasBoth ⟨[]⟩ sampleKeys := fun both => absurd both.1 (by decide)
  have holds : HoldsPair (sampleFiles (Text.Utf8.encode pem)
      (Text.Utf8.encode Service.sampleKey.publicKey.pem)) sampleKeys Service.samplePair :=
    ⟨_, _, rfl, rfl, parsePublic, parsePrivate⟩
  have first := load_of_create_ok missing (create_sample hpem)
  rw [readPair_eq_ok.mpr holds] at first
  obtain ⟨-, makes⟩ := load_reads_or_makes ⟨[]⟩ distinct .development Rsa.sampleDraw
  exact ⟨_, first, (makes rfl missing _ _ first).2.2 _⟩

end SignOn.KeyFiles
