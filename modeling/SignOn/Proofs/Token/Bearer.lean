import Mathlib.Data.List.Forall2
import SignOn.Proofs.Text.Blank
import SignOn.Token.Bearer

/-!
Bearer credentials. A header carries a token if it is written as the grammar has it (`IsBearer`):
the word in any case, a space and the token, with any white space before, between and behind. All
other headers are refused, and never for the want of a token.
-/
namespace SignOn.Token

open Text

/-! ### The word -/

/-- The words that differ from another at most in the case of letters. -/
def SameButCase (word pattern : List Char) : Prop :=
  List.Forall₂ (fun c d => c = d ∨ c = d.toUpper) word pattern

theorem toNat_toLower (c : Char) :
    c.toLower.toNat = if 65 ≤ c.toNat ∧ c.toNat ≤ 90 then c.toNat + 32 else c.toNat := by
  unfold Char.toLower
  split
  next h =>
    simp only [ge_iff_le, UInt32.le_iff_toNat_le] at h
    have hupper : 65 ≤ c.toNat ∧ c.toNat ≤ 90 := h
    rw [if_pos hupper]
    change (c.val.toNat + 32) % 2 ^ 32 = c.toNat + 32
    exact Nat.mod_eq_of_lt (by change c.toNat + 32 < 2 ^ 32; omega)
  next h =>
    simp only [ge_iff_le, UInt32.le_iff_toNat_le] at h
    exact (if_neg h).symm

theorem toNat_toUpper {d : Char} (h : 97 ≤ d.toNat ∧ d.toNat ≤ 122) :
    d.toUpper.toNat = d.toNat - 32 := by
  have hlower : 'a'.val ≤ d.val ∧ d.val ≤ 'z'.val := by
    simp only [UInt32.le_iff_toNat_le]
    exact h
  unfold Char.toUpper
  rw [dif_pos hlower]
  -- the distance to the capital is added modulo the size of a word
  change (d.val + 4294967264).toNat = d.toNat - 32
  rw [UInt32.toNat_add]
  change (d.toNat + 4294967264) % 2 ^ 32 = d.toNat - 32
  omega

theorem toLower_eq_iff {c d : Char} (h : d.isLower = true) :
    c.toLower = d ↔ c = d ∨ c = d.toUpper := by
  have hd : 97 ≤ d.toNat ∧ d.toNat ≤ 122 := by
    have hrange : (d.val ≥ 'a'.val && d.val ≤ 'z'.val) = true := h
    simpa [UInt32.le_iff_toNat_le] using hrange
  rw [← Char.toNat_inj, ← Char.toNat_inj, ← Char.toNat_inj, toNat_toLower, toNat_toUpper hd]
  split <;> omega

theorem map_toLower_eq_iff {word pattern : List Char} (h : ∀ d ∈ pattern, d.isLower = true) :
    word.map Char.toLower = pattern ↔ SameButCase word pattern := by
  rw [← List.forall₂_eq_eq_eq, List.forall₂_map_left_iff, SameButCase]
  induction pattern generalizing word with
  | nil => simp only [List.forall₂_nil_right_iff]
  | cons d ds ih =>
    obtain ⟨hd, hds⟩ := List.forall_mem_cons.mp h
    simp only [List.forall₂_cons_right_iff, toLower_eq_iff hd, ih hds]

/-- The word of the scheme. -/
def scheme : List Char := "bearer".toList

theorem isLower_of_mem_scheme : ∀ d ∈ scheme, d.isLower = true :=
  List.all_eq_true.mp (show scheme.all Char.isLower = true by decide)

theorem not_isBlank_of_mem_scheme {d : Char} (h : d ∈ scheme) :
    isBlank d = false ∧ isBlank d.toUpper = false := by
  have hall : (scheme.all fun d => !isBlank d && !isBlank d.toUpper) = true := by decide
  simpa using List.all_eq_true.mp hall d h

theorem SameButCase.not_isBlank {word : List Char} (h : SameButCase word scheme) :
    ∀ c ∈ word, isBlank c = false := by
  intro c hc
  have hmem : c.toLower ∈ scheme :=
    (map_toLower_eq_iff isLower_of_mem_scheme).mpr h ▸ List.mem_map_of_mem hc
  rcases (toLower_eq_iff (isLower_of_mem_scheme _ hmem)).mp rfl with hsame | hupper
  · rw [hsame]
    exact (not_isBlank_of_mem_scheme hmem).1
  · rw [hupper]
    exact (not_isBlank_of_mem_scheme hmem).2

theorem SameButCase.ne_nil {word : List Char} (h : SameButCase word scheme) : word ≠ [] := by
  rintro rfl
  cases h

/-! ### The split at the first space -/

variable {c : Char} {cs a b : List Char}

theorem splitFirst_append (h : c ∉ a) (b : List Char) :
    splitFirst c (a ++ c :: b) = some (a, b) := by
  induction a with
  | nil => simp [splitFirst]
  | cons d a ih =>
    rw [List.mem_cons, not_or] at h
    rw [List.cons_append, splitFirst, if_neg (Ne.symm h.1), ih h.2]
    rfl

theorem eq_append_of_splitFirst (h : splitFirst c cs = some (a, b)) : cs = a ++ c :: b := by
  induction cs generalizing a with
  | nil => cases h
  | cons d r ih =>
    rw [splitFirst] at h
    split at h
    next hd =>
      cases h
      rw [hd, List.nil_append]
    next =>
      obtain ⟨⟨a', b'⟩, hr, heq⟩ := Option.map_eq_some_iff.mp h
      cases heq
      rw [List.cons_append, ih hr]

/-! ### Credentials -/

/-- The headers that carry a token. -/
inductive IsBearer (token : List Char) : List Char → Prop
  | mk {lead word pad trail : List Char} (before : AllBlank lead) (named : SameButCase word scheme)
      (between : AllBlank pad) (visible : token ≠ []) (trimmed : Trimmed token)
      (behind : AllBlank trail) :
      IsBearer token (lead ++ (word ++ ' ' :: (pad ++ token)) ++ trail)

variable {header token : List Char}

/-- The middle of a header that carries a token has no white space at its ends. -/
theorem trimmed_bearer {word pad : List Char} (named : SameButCase word scheme)
    (visible : token ≠ []) (trimmed : Trimmed token) :
    Trimmed (word ++ ' ' :: (pad ++ token)) where
  first d hd := by
    rw [List.head?_append_of_ne_nil _ named.ne_nil] at hd
    exact named.not_isBlank d (List.mem_of_head? hd)
  last d hd := by
    have hne : pad ++ token ≠ [] := List.append_ne_nil_of_right_ne_nil pad visible
    rw [List.getLast?_append_of_ne_nil _ (List.cons_ne_nil _ _), ← List.singleton_append,
      List.getLast?_append_of_ne_nil _ hne, List.getLast?_append_of_ne_nil _ visible] at hd
    exact trimmed.last d hd

theorem bearerChars_of_isBearer (h : IsBearer token header) : bearerChars header = .ok token := by
  obtain ⟨before, named, between, visible, trimmed, behind⟩ := h
  rename_i lead word pad trail
  have hspace : ' ' ∉ word := fun hmem => by
    have := named.not_isBlank ' ' hmem
    cases this
  have hheader : trimChars (lead ++ (word ++ ' ' :: (pad ++ token)) ++ trail) =
      word ++ ' ' :: (pad ++ token) :=
    trimChars_eq_iff.mpr ⟨trimmed_bearer named visible trimmed, lead, trail, before, behind, rfl⟩
  have htoken : trimChars (pad ++ token) = token :=
    trimChars_eq_iff.mpr ⟨trimmed, pad, [], between, nofun, (List.append_nil _).symm⟩
  rw [bearerChars, hheader, splitFirst_append hspace]
  have hword : word.map Char.toLower = "bearer".toList :=
    (map_toLower_eq_iff isLower_of_mem_scheme).mpr named
  simp only [hword, ne_eq, not_true_eq_false, if_false, htoken, List.isEmpty_iff, visible]

/-- Behind the first space of a trimmed text there is more than white space. -/
theorem trimChars_ne_nil_of_splitFirst
    (h : splitFirst ' ' (trimChars header) = some (a, b)) : trimChars b ≠ [] := by
  intro hnil
  obtain ⟨lead, trail, hlead, htrail, hb⟩ := exists_blanks b
  have hblank : AllBlank (' ' :: b) := by
    rw [hnil, List.append_nil] at hb
    rintro d (_ | ⟨_, hd⟩)
    · rfl
    · rw [hb] at hd
      exact (List.mem_append.mp hd).elim (hlead d) (htrail d)
  have hlast : (trimChars header).getLast? = (' ' :: b).getLast? := by
    rw [eq_append_of_splitFirst h, List.getLast?_append_of_ne_nil _ (List.cons_ne_nil _ _)]
  have hvisible := (trimmed_trimChars header).last _
    (hlast.trans (List.getLast?_eq_some_getLast (List.cons_ne_nil _ _)))
  rw [hblank _ (List.getLast_mem _)] at hvisible
  cases hvisible

/-- A header carries the token that is read from it, or is refused with a reason. -/
theorem bearerChars_cases (header : List Char) :
    (∃ token, bearerChars header = .ok token ∧ IsBearer token header) ∨
      ∃ reason, bearerChars header = .error (.invalidToken reason) := by
  cases hsplit : splitFirst ' ' (trimChars header) with
  | none => exact .inr ⟨_, by rw [bearerChars, hsplit]⟩
  | some parts =>
    obtain ⟨word, rest⟩ := parts
    by_cases hword : word.map Char.toLower = "bearer".toList
    · have hne := trimChars_ne_nil_of_splitFirst hsplit
      refine .inl ⟨trimChars rest, ?_, ?_⟩
      · simp only [bearerChars, hsplit, hword, ne_eq, not_true_eq_false, if_false,
          List.isEmpty_iff, hne]
      · obtain ⟨lead, trail, hlead, htrail, hheader⟩ := exists_blanks header
        obtain ⟨pad, behind, hpad, hbehind, hrest⟩ := exists_blanks rest
        have named : SameButCase word scheme := (map_toLower_eq_iff isLower_of_mem_scheme).mp hword
        have hall : AllBlank (behind ++ trail) := fun d hd =>
          (List.mem_append.mp hd).elim (hbehind d) (htrail d)
        have hwhole : header =
            lead ++ (word ++ ' ' :: (pad ++ trimChars rest)) ++ (behind ++ trail) := by
          rw [eq_append_of_splitFirst hsplit, hrest] at hheader
          simpa using hheader
        rw [hwhole]
        exact .mk hlead named hpad hne (trimmed_trimChars rest) hall
    · refine .inr ⟨s!"unsupported authorization scheme '{String.ofList word}'", ?_⟩
      rw [bearerChars, hsplit]
      exact if_pos hword

theorem bearerChars_eq_ok : bearerChars header = .ok token ↔ IsBearer token header := by
  refine ⟨fun h => ?_, bearerChars_of_isBearer⟩
  rcases bearerChars_cases header with ⟨token', hok, carries⟩ | ⟨reason, herror⟩
  · rw [hok] at h
    cases h
    exact carries
  · rw [herror] at h
    cases h

theorem bearer_eq_ok {header token : String} :
    bearer header = .ok token ↔ IsBearer token.toList header.toList := by
  rw [← bearerChars_eq_ok, bearer]
  constructor
  · intro h
    cases hchars : bearerChars header.toList with
    | ok cs =>
      rw [hchars] at h
      cases h
      rw [String.toList_ofList]
    | error e =>
      rw [hchars] at h
      cases h
  · intro h
    rw [h, Except.map, String.ofList_toList]

/-- A token without blanks is read as it is from behind the word. -/
theorem bearer_text {token : String} (h : ∀ c ∈ token.toList, isBlank c = false)
    (hne : token ≠ "") : bearer ("Bearer " ++ token) = .ok token := by
  have trimmed : Trimmed token.toList :=
    ⟨fun c hc => h c (List.mem_of_head? hc), fun c hc => h c (List.mem_of_getLast? hc)⟩
  have named : SameButCase "Bearer".toList scheme :=
    (map_toLower_eq_iff isLower_of_mem_scheme).mp (by decide)
  have hvisible : token.toList ≠ [] := by simpa using hne
  have hnone : AllBlank [] := nofun
  have credentials := IsBearer.mk hnone named hnone hvisible trimmed hnone
  rw [List.nil_append, List.nil_append, List.append_nil] at credentials
  rw [bearer_eq_ok, String.toList_append]
  exact credentials

/-- A token is read from a header if and only if the header carries it. Every other header is
refused as malformed, and none for having no token in it. -/
theorem bearer_grammar (header : String) :
    (∀ token, bearer header = .ok token ↔ IsBearer token.toList header.toList) ∧
    ((∃ reason, bearer header = .error (.invalidToken reason)) ↔
      ¬ ∃ token, IsBearer token header.toList) ∧
    bearer header ≠ .error .tokenNotFound := by
  refine ⟨fun token => bearer_eq_ok, ?_, ?_⟩
  · constructor
    · rintro ⟨reason, herror⟩ ⟨token, credentials⟩
      rw [bearer, bearerChars_of_isBearer credentials] at herror
      cases herror
    · intro none
      rcases bearerChars_cases header.toList with ⟨token, -, credentials⟩ | ⟨reason, herror⟩
      · exact absurd ⟨token, credentials⟩ none
      · exact ⟨reason, by rw [bearer, herror, Except.map]⟩
  · intro herror
    rcases bearerChars_cases header.toList with ⟨token, hok, -⟩ | ⟨reason, hinvalid⟩
    · rw [bearer, hok] at herror
      cases herror
    · rw [bearer, hinvalid] at herror
      cases herror

end SignOn.Token
