import SignOn.Proofs.Url.Outcome

/-!
Queries and fragments of URLs that were read. They are encoded as they are read, and what is encoded
is left alone when it is read again. So pairs that are added to the query of such a URL are still its
query, up to the fragment, for whoever reads the text of the URL.
-/
namespace SignOn.Url

/-! ### Encoded texts -/

/-- Whether what percent-encoding writes is left alone by it. -/
def EncodeSet.LeavesEscapes (set : EncodeSet) : Prop :=
  set '%' = false ∧ ∀ n < 16, set (upperDigit n) = false

theorem leavesEscapes_query (special : Bool) : (querySet special).LeavesEscapes := by
  unfold EncodeSet.LeavesEscapes
  cases special <;> decide

theorem leavesEscapes_fragment : EncodeSet.LeavesEscapes .fragment := by
  unfold EncodeSet.LeavesEscapes
  decide

theorem shown_of_percentByte {set : EncodeSet} (escapes : set.LeavesEscapes) {b : UInt8} {c : Char}
    (h : c ∈ percentByte b) : c.toNat < 0x80 ∧ set c = false := by
  have ascii : ∀ n < 16, (upperDigit n).toNat < 0x80 := by decide
  have hlt := b.toNat_lt
  simp only [percentByte, List.mem_cons, List.not_mem_nil, or_false] at h
  rcases h with rfl | rfl | rfl
  · exact ⟨by decide, escapes.1⟩
  · exact ⟨ascii _ (by omega), escapes.2 _ (by omega)⟩
  · exact ⟨ascii _ (by omega), escapes.2 _ (by omega)⟩

theorem shown_of_percentEncode {set : EncodeSet} (escapes : set.LeavesEscapes) {cs : List Char} :
    ∀ c ∈ percentEncode set cs, c.toNat < 0x80 ∧ set c = false := by
  intro c hc
  obtain ⟨d, -, hc⟩ := List.mem_flatMap.mp hc
  unfold percentChar at hc
  split at hc
  next =>
    obtain ⟨b, -, hc⟩ := List.mem_flatMap.mp hc
    exact shown_of_percentByte escapes hc
  next hplain =>
    obtain rfl := List.mem_singleton.mp hc
    simpa using hplain

/-! ### URLs that were read -/

/-- The query and the fragment of a URL are written as they are read. -/
structure Written (u : Url) : Prop where
  query : ∀ q, u.query = some q → ∀ c ∈ q, c.toNat < 0x80 ∧ querySet (isSpecial u.scheme) c = false
  fragment : ∀ f, u.fragment = some f → IsWritten f

section
variable {scheme cs rest : List Char} {u : Url}

theorem isWritten_fragment {special : Bool} {f : List Char}
    (h : (queryAndFragment special rest).2 = some f) : IsWritten f := by
  unfold queryAndFragment at h
  simp only at h
  split at h
  all_goals
    simp only at h
    split at h
    next =>
      obtain rfl := Option.some.inj h
      exact percentEncode_of_forall (shown_of_percentEncode leavesEscapes_fragment)
    next => cases h

theorem written_of_rest
    (h : (u.query, u.fragment) = queryAndFragment (isSpecial u.scheme) rest) : u.Written := by
  refine ⟨fun q hq => ?_, fun f hf => isWritten_fragment ((congrArg Prod.snd h).symm.trans hf)⟩
  have hq := (congrArg Prod.fst h).symm.trans hq
  unfold queryAndFragment at hq
  simp only at hq
  split at hq
  next =>
    obtain rfl := Option.some.inj hq
    exact shown_of_percentEncode (leavesEscapes_query _)
  next => cases hq

theorem rest_of_afterSlashes (h : afterSlashes scheme cs = .ok u) : u.scheme = scheme ∧
    ∃ rest, (u.query, u.fragment) = queryAndFragment (isSpecial scheme) rest := by
  unfold afterSlashes at h
  simp only [bind, Except.bind] at h
  repeat' split at h
  all_goals cases h
  all_goals exact ⟨rfl, _, rfl⟩

theorem rest_of_file (h : file scheme cs = .ok u) : u.scheme = scheme ∧
    ∃ rest, (u.query, u.fragment) = queryAndFragment true rest := by
  unfold file at h
  simp only [bind, Except.bind] at h
  repeat' split at h
  all_goals cases h
  all_goals exact ⟨rfl, _, rfl⟩

theorem rest_of_plain (other : isSpecial scheme = false) (h : plain scheme cs = .ok u) :
    u.scheme = scheme ∧ ∃ rest, (u.query, u.fragment) = queryAndFragment false rest := by
  unfold plain at h
  split at h
  next => exact other ▸ rest_of_afterSlashes h
  next =>
    cases h
    exact ⟨rfl, _, rfl⟩
  next =>
    cases h
    exact ⟨rfl, _, rfl⟩

theorem written_of_ofChars (h : ofChars cs = .ok u) : u.Written := by
  unfold ofChars at h
  split at h
  next => cases h
  next scheme rest _ =>
  split at h
  next hfile =>
    obtain ⟨hscheme, _, hrest⟩ := rest_of_file h
    rw [show true = isSpecial u.scheme by rw [hscheme, hfile]; decide] at hrest
    exact written_of_rest hrest
  next =>
  split at h
  next =>
    obtain ⟨hscheme, _, hrest⟩ := rest_of_afterSlashes h
    exact written_of_rest (hscheme ▸ hrest)
  next hother =>
    have hother : isSpecial scheme = false := by simpa using hother
    obtain ⟨hscheme, _, hrest⟩ := rest_of_plain hother h
    rw [show false = isSpecial u.scheme by rw [hscheme, hother]] at hrest
    exact written_of_rest hrest

end

theorem written_of_parse {s : String} {u : Url} (h : parse s = .ok u) : u.Written :=
  written_of_ofChars h

/-- A written URL's query and fragment come apart where they were joined. -/
theorem Written.queryAndFragment_eq {u : Url} (h : u.Written) :
    queryAndFragment (isSpecial u.scheme) (queryChars u.query ++ fragmentChars u.fragment) =
      (u.query, u.fragment) := by
  cases hq : u.query with
  | none =>
    cases hf : u.fragment with
    | none => rfl
    | some f => exact congrArg (fun f => (none, some f)) (h.fragment f hf)
  | some q => exact queryAndFragment_written (h.query q hq) h.fragment

/-- Pairs that are added to a written query are written. -/
theorem Written.appendPairs {u : Url} (h : u.Written) (ps : List (String × String)) :
    (u.appendPairs ps).Written where
  query q hq c hc := by
    obtain rfl := Option.some.inj hq
    rcases Form.mem_append hc with hc | hc
    · cases hu : u.query with
      | none => simp [hu] at hc
      | some q => exact h.query q hu c (by simpa [hu] using hc)
    · exact hc.inQuery _
  fragment := h.fragment

end SignOn.Url
