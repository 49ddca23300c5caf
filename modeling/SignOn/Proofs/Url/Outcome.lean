import SignOn.Proofs.Url.Query

/-!
How a sign-on ended, in the query of a URL. What the query said about it before is gone, however it
was spelled; all else that the query said is kept, in its order, and so is the rest of the URL. A
query is written in characters that a reader of URLs leaves alone, so it ends where it was written
to end.
-/
namespace SignOn.Url

/-! ### Characters that are left alone -/

/-- A character that a query shows as it is, under special schemes too. -/
def Shown (c : Char) : Prop := c.toNat < 0x80 ∧ EncodeSet.specialQuery c = false

instance (c : Char) : Decidable (Shown c) := inferInstanceAs (Decidable (_ ∧ _))

theorem percentEncode_of_forall {set : EncodeSet} {cs : List Char}
    (h : ∀ c ∈ cs, c.toNat < 0x80 ∧ set c = false) : percentEncode set cs = cs := by
  induction cs with
  | nil => rfl
  | cons c r ih =>
    obtain ⟨⟨hlow, hset⟩, hr⟩ := List.forall_mem_cons.mp h
    have hc : percentChar set c = [c] := by
      rw [percentChar, hset, Bool.or_false, if_neg (by simpa using hlow)]
    unfold percentEncode at ih ⊢
    rw [List.flatMap_cons, hc, ih hr]
    rfl

/-- What a query does not show as it is, under special schemes and under others. -/
def querySet (special : Bool) : EncodeSet := if special then .specialQuery else .query

/-- What a query shows under special schemes it shows under all. -/
theorem Shown.inQuery {c : Char} (h : Shown c) (special : Bool) :
    c.toNat < 0x80 ∧ querySet special c = false := by
  refine ⟨h.1, ?_⟩
  cases special with
  | true => exact h.2
  | false => exact (Bool.or_eq_false_iff.mp h.2).1

theorem ne_hash_of_querySet {special : Bool} {c : Char} (h : querySet special c = false) :
    c ≠ '#' := by
  rintro rfl
  cases special <;> exact absurd h (by decide)

namespace Form

theorem shown_of_plain {b : UInt8} (h : isPlain b = true) : Shown (.ofNat b.toNat) := by
  have rows : ∀ x < 16, ∀ y < 16, isPlain (.ofNat (x * 16 + y)) = true →
      Shown (.ofNat (x * 16 + y)) := by decide +kernel
  have hlt := b.toNat_lt
  have hrow := rows (b.toNat / 16) (by omega) (b.toNat % 16) (by omega)
  rw [Nat.div_add_mod', UInt8.ofNat_toNat] at hrow
  exact hrow h

theorem shown_of_byte {b : UInt8} {c : Char} (h : c ∈ encodeByte b) : Shown c := by
  have digit : ∀ n < 16, Shown (upperDigit n) := by decide
  have hlt := b.toNat_lt
  unfold encodeByte at h
  split_ifs at h with hblank hplain
  · obtain rfl := List.mem_singleton.mp h
    decide
  · obtain rfl := List.mem_singleton.mp h
    exact shown_of_plain hplain
  · rcases List.mem_cons.mp h with rfl | h
    · decide
    · rcases List.mem_cons.mp h with rfl | h
      · exact digit _ (by omega)
      · obtain rfl := List.mem_singleton.mp h
        exact digit _ (by omega)

theorem shown_of_text {s : String} {c : Char} (h : c ∈ encodeText s) : Shown c := by
  obtain ⟨b, -, hc⟩ := List.mem_flatMap.mp h
  exact shown_of_byte hc

theorem shown_of_pair {p : String × String} {c : Char} (h : c ∈ encodePair p) : Shown c := by
  rcases List.mem_append.mp h with h | h
  · exact shown_of_text h
  · rcases List.mem_cons.mp h with rfl | h
    · decide
    · exact shown_of_text h

/-- What is appended to a form is written in shown characters. -/
theorem mem_append {form : List Char} {ps : List (String × String)} {c : Char}
    (h : c ∈ append form ps) : c ∈ form ∨ Shown c := by
  induction ps generalizing form with
  | nil => exact .inl h
  | cons p ps ih =>
    refine (ih h).elim (fun h => ?_) .inr
    split at h
    · exact .inr (shown_of_pair h)
    · rcases List.mem_append.mp h with h | h
      · exact .inl h
      · rcases List.mem_cons.mp h with rfl | h
        · exact .inr (by decide)
        · exact .inr (shown_of_pair h)

/-- A form is written in characters that a query shows as they are. -/
theorem shown_of_encode {ps : List (String × String)} : ∀ c ∈ encode ps, Shown c :=
  fun _ hc => (mem_append hc).resolve_left (by simp)

end Form

/-! ### Where the query ends -/

/-- A fragment as it is written: what a reader of URLs makes of it is the fragment itself. -/
def IsWritten (fragment : List Char) : Prop := percentEncode .fragment fragment = fragment

theorem takeWhile_query {q : List Char} (h : ∀ c ∈ q, c ≠ '#') (f : Option (List Char)) :
    (q ++ fragmentChars f).takeWhile (· ≠ '#') = q ∧
      (q ++ fragmentChars f).dropWhile (· ≠ '#') = fragmentChars f := by
  have hq : ∀ c ∈ q, decide (c ≠ '#') = true := fun c hc => decide_eq_true (h c hc)
  rw [List.takeWhile_append_of_pos hq, List.dropWhile_append_of_pos hq]
  cases f with
  | none => simp [fragmentChars]
  | some f => simp [fragmentChars]

/-- A query in characters that it shows and a written fragment come apart where they were joined. -/
theorem queryAndFragment_written {special : Bool} {q : List Char} {f : Option (List Char)}
    (hq : ∀ c ∈ q, c.toNat < 0x80 ∧ querySet special c = false)
    (hf : ∀ g, f = some g → IsWritten g) :
    queryAndFragment special (queryChars (some q) ++ fragmentChars f) = (some q, f) := by
  obtain ⟨htake, hdrop⟩ := takeWhile_query (fun c hc => ne_hash_of_querySet (hq c hc).2) f
  have hencode : percentEncode (if special then .specialQuery else .query) q = q :=
    percentEncode_of_forall hq
  simp only [queryAndFragment, queryChars, List.cons_append, htake, hdrop, hencode]
  cases f with
  | none => rfl
  | some g => exact congrArg (fun g => (some q, some g)) (hf g rfl)

/-! ### Rewriting -/

theorem not_isOutcome (name : String) :
    (!isOutcome name) = decide (name ≠ "token" ∧ name ≠ "error") := by
  simp [isOutcome]

/-- What is said twice about how a sign-on ended is said as it was said last. -/
theorem withOutcome_withOutcome (u : Url) {name : String} (h : isOutcome name = true)
    (value name' value' : String) :
    (u.withOutcome name value).withOutcome name' value' = u.withOutcome name' value' := by
  have hpairs : (u.withOutcome name value).queryPairs.filter (fun p => !isOutcome p.1) =
      u.queryPairs.filter fun p => !isOutcome p.1 := by
    rw [queryPairs_withOutcome, List.filter_append, List.filter_filter]
    simp [h]
  rw [withOutcome, hpairs]
  rfl

/-- Putting into a URL how a sign-on ended. Its query is read as the pairs that it held before, in
their order, without those under one of the two names for the outcome, and then the new one; nothing
else of the URL changes; of two outcomes only the last is seen; and in the text of the URL the query
ends where the fragment begins. -/
theorem outcome_rewrites_query (u : Url) {name : String} (h : name = "token" ∨ name = "error")
    (value : String) :
    (u.withOutcome name value).queryPairs =
      (u.queryPairs.filter fun p => p.1 ≠ "token" ∧ p.1 ≠ "error") ++ [(name, value)] ∧
    (u.withOutcome name value).SameButQuery u ∧
    (∀ name' value',
      (u.withOutcome name value).withOutcome name' value' = u.withOutcome name' value') ∧
    ((∀ f, u.fragment = some f → IsWritten f) → ∀ special,
      queryAndFragment special
          (queryChars (u.withOutcome name value).query ++ fragmentChars u.fragment) =
        ((u.withOutcome name value).query, u.fragment)) := by
  have houtcome : isOutcome name = true := by simpa [isOutcome] using h
  refine ⟨?_, sameButQuery_withOutcome u name value, ?_, ?_⟩
  · simp only [queryPairs_withOutcome, not_isOutcome]
  · exact withOutcome_withOutcome u houtcome value
  · intro hf special
    exact queryAndFragment_written (fun c hc => (Form.shown_of_encode c hc).inQuery special) hf

/-- A page whose query says twice how a sign-on ended, once with an escape in the name. -/
def samplePageWithOutcome : Url where
  scheme := "https".toList
  authority := some ⟨[], none, .name "app.example.com".toList, none⟩
  path := "/p".toList
  query := some "tab=2&%74oken=old&+=%ff&&=&error".toList
  fragment := some "top".toList

theorem outcome_rewrites_query_sample :
    (samplePageWithOutcome.withOutcome "token" "a b&=+%é").queryPairs =
        [("tab", "2"), (" ", "\ufffd"), ("", ""), ("token", "a b&=+%é")] ∧
      ((samplePageWithOutcome.withOutcome "token" "a b&=+%é").withOutcome "error" "x").text =
        "https://app.example.com/p?tab=2&+=%EF%BF%BD&=&error=x#top" := by
  have h : "token" = "token" ∨ "token" = "error" := .inl rfl
  obtain ⟨pairs, -, last, -⟩ := outcome_rewrites_query samplePageWithOutcome h "a b&=+%é"
  constructor
  · rw [pairs]
    decide +kernel
  · rw [last "error" "x"]
    decide +kernel

end SignOn.Url
