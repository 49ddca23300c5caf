import Mathlib.Data.List.DropRight
import SignOn.Text.Blank

/-!
Trimming. What is left of a text has no white space at its ends, and what is taken off is white
space alone; the two say what is left (`trimChars_eq_iff`).
-/
namespace SignOn.Text

/-- White space alone, or nothing. -/
def AllBlank (cs : List Char) : Prop := ∀ c ∈ cs, isBlank c = true

instance (cs : List Char) : Decidable (AllBlank cs) := decidable_of_iff _ List.all_eq_true

/-- A text that neither begins nor ends with white space. -/
structure Trimmed (cs : List Char) : Prop where
  first : ∀ c, cs.head? = some c → isBlank c = false
  last : ∀ c, cs.getLast? = some c → isBlank c = false

variable {cs ts lead trail : List Char}

theorem dropWhile_isBlank (h : ∀ c, cs.head? = some c → isBlank c = false) :
    cs.dropWhile isBlank = cs := by
  cases cs with
  | nil => rfl
  | cons c r => rw [List.dropWhile_cons_of_neg (by simp [h c rfl])]

theorem Trimmed.trimChars (h : Trimmed cs) : trimChars cs = cs := by
  rw [Text.trimChars, dropWhile_isBlank h.first, dropWhile_isBlank, List.reverse_reverse]
  rw [List.head?_reverse]
  exact h.last

theorem trimmed_trimChars (cs : List Char) : Trimmed (trimChars cs) where
  first c hc := by
    have hprefix : trimChars cs <+: cs.dropWhile isBlank := List.rdropWhile_prefix isBlank _
    obtain ⟨rest, hrest⟩ := hprefix
    have hhead : (cs.dropWhile isBlank).head? = some c := by
      rw [← hrest, List.head?_append, hc, Option.some_or]
    have hnot := List.head?_dropWhile_not isBlank cs
    rw [hhead] at hnot
    exact hnot
  last c hc := by
    have hne : trimChars cs ≠ [] := by
      intro hnil
      rw [hnil] at hc
      cases hc
    rw [List.getLast?_eq_some_getLast hne] at hc
    obtain rfl := Option.some.inj hc
    have hnot := List.rdropWhile_last_not isBlank (cs.dropWhile isBlank) hne
    exact Bool.eq_false_iff.mpr hnot

/-- White space at the ends makes no difference to what is left. -/
theorem trimChars_blanks (hlead : AllBlank lead) (htrail : AllBlank trail) (cs : List Char) :
    trimChars (lead ++ cs ++ trail) = trimChars cs := by
  have hreverse : ∀ c ∈ trail.reverse, isBlank c = true :=
    fun c hc => htrail c (List.mem_reverse.mp hc)
  have hnil : trail.dropWhile isBlank = [] := List.dropWhile_eq_nil_iff.mpr htrail
  unfold trimChars
  rw [List.append_assoc, List.dropWhile_append_of_pos hlead, List.dropWhile_append]
  split
  next h => rw [hnil, List.isEmpty_iff.mp h]
  next => rw [List.reverse_append, List.dropWhile_append_of_pos hreverse]

/-- What is taken off is white space. -/
theorem exists_blanks (cs : List Char) :
    ∃ lead trail, AllBlank lead ∧ AllBlank trail ∧ cs = lead ++ trimChars cs ++ trail := by
  refine ⟨cs.takeWhile isBlank, (cs.dropWhile isBlank).rtakeWhile isBlank,
    fun c hc => List.mem_takeWhile_imp hc, fun c hc => List.mem_rtakeWhile_imp hc, ?_⟩
  have hright : trimChars cs ++ (cs.dropWhile isBlank).rtakeWhile isBlank =
      cs.dropWhile isBlank := List.rdropWhile_append_rtakeWhile
  rw [List.append_assoc, hright, List.takeWhile_append_dropWhile]

theorem trimChars_eq_iff : trimChars cs = ts ↔ Trimmed ts ∧
    ∃ lead trail, AllBlank lead ∧ AllBlank trail ∧ cs = lead ++ ts ++ trail := by
  constructor
  · rintro rfl
    exact ⟨trimmed_trimChars cs, exists_blanks cs⟩
  · rintro ⟨trimmed, lead, trail, hlead, htrail, rfl⟩
    rw [trimChars_blanks hlead htrail, trimmed.trimChars]

theorem trim_trim (s : String) : trim (trim s) = trim s := by
  rw [trim, trim, String.toList_ofList, (trimmed_trimChars s.toList).trimChars]

/-! ### One character at the end -/

/-- What stood before it is left, however often the character comes. -/
theorem trimEnd_append_replicate {c : Char} {s : String} (h : s.toList.getLast? ≠ some c)
    (n : Nat) : trimEnd c (s ++ String.ofList (List.replicate n c)) = s := by
  have hdrop : s.toList.reverse.dropWhile (· = c) = s.toList.reverse := by
    cases hreverse : s.toList.reverse with
    | nil => rfl
    | cons d r =>
      have hd : d ≠ c := by
        rintro rfl
        rw [← List.head?_reverse, hreverse] at h
        exact h rfl
      rw [List.dropWhile_cons_of_neg (by simpa using hd)]
  rw [trimEnd, String.toList_append, String.toList_ofList, List.reverse_append,
    List.reverse_replicate, List.dropWhile_append_of_pos (by simp), hdrop, List.reverse_reverse,
    String.ofList_toList]

/-! ### Texts of white space alone -/

theorem all_dropWhile (cs : List Char) : (cs.dropWhile isBlank).all isBlank = cs.all isBlank := by
  induction cs with
  | nil => rfl
  | cons c r ih =>
    cases hc : isBlank c with
    | true => rw [List.dropWhile_cons_of_pos hc, ih, List.all_cons, hc, Bool.true_and]
    | false => rw [List.dropWhile_cons_of_neg (by simp [hc])]

/-- White space at the ends does not make a text blank, nor keep it from being so. -/
theorem isBlankText_trim (s : String) : isBlankText (trim s) = isBlankText s := by
  unfold isBlankText trim trimChars
  rw [String.toList_ofList, List.all_reverse, all_dropWhile, List.all_reverse, all_dropWhile]

/-- Trimming leaves nothing of the texts of white space alone, and only of them. -/
theorem trim_eq_empty {s : String} : trim s = "" ↔ isBlankText s = true := by
  rw [← isBlankText_trim]
  constructor
  · intro h
    rw [h]
    rfl
  · intro h
    have trimmed := trimmed_trimChars s.toList
    rw [isBlankText, trim, String.toList_ofList] at h
    cases hcs : trimChars s.toList with
    | nil => rw [trim, hcs]
    | cons c r =>
      rw [hcs, List.all_cons, Bool.and_eq_true] at h
      rw [hcs] at trimmed
      rw [trimmed.first c rfl] at h
      cases h.1

end SignOn.Text
