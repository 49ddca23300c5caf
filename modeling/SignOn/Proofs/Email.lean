import Mathlib.Data.List.Induction
import SignOn.Identity.Email

/-!
The address to use. The three searches for it, one after the other, come to what a single pass
finds that keeps the best address so far: the earliest of those that rank highest (`Leads`). What
stands behind it changes nothing unless it ranks higher.
-/
namespace SignOn.Email

variable {es before after : List Email} {e x : Email}

/-! ### Ranks -/

/-- A primary address ranks above one that is only verified, and that above the others. -/
def rank (e : Email) : Nat := if e.primary then 2 else if e.verified then 1 else 0

theorem rank_le_two (e : Email) : e.rank ≤ 2 := by
  unfold rank
  split
  · exact Nat.le_refl 2
  · split <;> decide

theorem rank_lt_two : e.rank < 2 ↔ e.primary = false := by
  cases hprimary : e.primary <;> cases hverified : e.verified <;> simp [rank, hprimary, hverified]

theorem rank_lt_one : e.rank < 1 ↔ e.primary = false ∧ e.verified = false := by
  cases hprimary : e.primary <;> cases hverified : e.verified <;> simp [rank, hprimary, hverified]

/-- An address at its place in a list: all before it rank lower, and none behind it higher. -/
structure Leads (before : List Email) (e : Email) (after : List Email) : Prop where
  before : ∀ b ∈ before, b.rank < e.rank
  after : ∀ a ∈ after, a.rank ≤ e.rank

theorem Leads.rank_le (h : Leads before e after) :
    ∀ b ∈ before ++ e :: after, b.rank ≤ e.rank := by
  intro b hb
  rcases List.mem_append.mp hb with hb | hb
  · exact Nat.le_of_lt (h.before b hb)
  · rcases List.mem_cons.mp hb with rfl | hb
    · exact Nat.le_refl _
    · exact h.after b hb

/-! ### The searches -/

/-- Which of the searches finds the address that leads hangs on its rank alone. -/
theorem Leads.searches (h : Leads before e after) :
    e.primary = true ∧ (∀ b ∈ before, b.primary = false) ∨
    (e.primary = false ∧ e.verified = true) ∧ (∀ b ∈ before ++ e :: after, b.primary = false) ∧
      (∀ b ∈ before, b.verified = false) ∨
    before = [] ∧ ∀ b ∈ e :: after, b.primary = false ∧ b.verified = false := by
  cases hprimary : e.primary with
  | true =>
    refine .inl ⟨rfl, fun b hb => rank_lt_two.mp ?_⟩
    exact Nat.lt_of_lt_of_le (h.before b hb) e.rank_le_two
  | false =>
    cases hverified : e.verified with
    | true =>
      have hrank : e.rank = 1 := by rw [rank, hprimary, hverified]; rfl
      refine .inr (.inl ⟨⟨rfl, rfl⟩, fun b hb => rank_lt_two.mp ?_, fun b hb => ?_⟩)
      · exact Nat.lt_succ_of_le (hrank ▸ h.rank_le b hb)
      · exact (rank_lt_one.mp (hrank ▸ h.before b hb)).2
    | false =>
      have hrank : e.rank = 0 := by rw [rank, hprimary, hverified]; rfl
      refine .inr (.inr ⟨?_, fun b hb => rank_lt_one.mp ?_⟩)
      · refine List.eq_nil_iff_forall_not_mem.mpr fun b hb => ?_
        exact Nat.not_lt_zero _ (hrank ▸ h.before b hb)
      · exact Nat.lt_succ_of_le (hrank ▸ h.rank_le b (List.mem_append_right _ hb))

theorem Leads.primary? (h : Leads before e after) :
    primary? (before ++ e :: after) = some e := by
  have pass {p : Email → Bool} {l : List Email} (hl : ∀ b ∈ l, p b = false) : l.find? p = none :=
    List.find?_eq_none.mpr fun b hb => by simp [hl b hb]
  unfold Email.primary?
  rcases h.searches with ⟨he, hbefore⟩ | ⟨⟨-, he⟩, hall, hbefore⟩ | ⟨rfl, hall⟩
  · rw [List.find?_append, pass hbefore, List.find?_cons_of_pos he]
    rfl
  · rw [pass hall, List.find?_append, pass hbefore, List.find?_cons_of_pos he]
    rfl
  · rw [List.nil_append, pass fun b hb => (hall b hb).1, pass fun b hb => (hall b hb).2]
    rfl

/-- The place that is found is that of the address that leads. -/
theorem Leads.primaryIndex? (h : Leads before e after) :
    primaryIndex? (before ++ e :: after) = some before.length := by
  have pass {p : Email → Bool} {l : List Email} (hl : ∀ b ∈ l, p b = false) :
      l.findIdx? p = none := List.findIdx?_eq_none_iff.mpr hl
  have here {p : Email → Bool} (he : p e = true) (hbefore : ∀ b ∈ before, p b = false) :
      (before ++ e :: after).findIdx? p = some before.length := by
    rw [List.findIdx?_append, pass hbefore, List.findIdx?_cons, he]
    simp
  unfold Email.primaryIndex?
  rcases h.searches with ⟨he, hbefore⟩ | ⟨⟨-, he⟩, hall, hbefore⟩ | ⟨rfl, hall⟩
  · rw [here he hbefore]
    rfl
  · rw [pass hall, here he hbefore]
    rfl
  · rw [List.nil_append, pass fun b hb => (hall b hb).1, pass fun b hb => (hall b hb).2]
    rfl

/-! ### A single pass -/

/-- The better of the best address so far and the next one; the earlier where they rank alike. -/
def better (best : Option Email) (e : Email) : Option Email :=
  match best with
  | none => some e
  | some b => if b.rank < e.rank then some e else some b

/-- With one more address behind, the same leads unless the new one ranks higher. -/
theorem Leads.concat (h : Leads before e after) (x : Email) :
    if e.rank < x.rank then Leads (before ++ e :: after) x []
    else Leads before e (after ++ [x]) := by
  split
  next hx =>
    exact ⟨fun b hb => Nat.lt_of_le_of_lt (h.rank_le b hb) hx, by simp⟩
  next hx =>
    refine ⟨h.before, fun a ha => ?_⟩
    rcases List.mem_append.mp ha with ha | ha
    · exact h.after a ha
    · exact List.mem_singleton.mp ha ▸ Nat.le_of_not_lt hx

/-- Of any addresses one leads. -/
theorem exists_leads (h : es ≠ []) :
    ∃ before e after, es = before ++ e :: after ∧ Leads before e after := by
  induction es using List.reverseRecOn with
  | nil => exact absurd rfl h
  | append_singleton es x ih =>
    rcases eq_or_ne es [] with rfl | hes
    · exact ⟨[], x, [], rfl, by simp, by simp⟩
    · obtain ⟨before, e, after, rfl, hlead⟩ := ih hes
      have hconcat := hlead.concat x
      split at hconcat
      next => exact ⟨_, x, [], rfl, hconcat⟩
      next => exact ⟨before, e, after ++ [x], by simp, hconcat⟩

theorem primary?_eq_none : primary? es = none ↔ es = [] := by
  constructor
  · intro h
    by_contra hes
    obtain ⟨before, e, after, rfl, hlead⟩ := exists_leads hes
    rw [hlead.primary?] at h
    cases h
  · rintro rfl
    rfl

/-- The address to use is the one that leads. -/
theorem primary?_eq_some : primary? es = some e ↔
    ∃ before after, es = before ++ e :: after ∧ Leads before e after := by
  constructor
  · intro h
    have hes : es ≠ [] := by
      rintro rfl
      cases h
    obtain ⟨before, b, after, rfl, hlead⟩ := exists_leads hes
    rw [hlead.primary?] at h
    obtain rfl := Option.some.inj h
    exact ⟨before, after, rfl, hlead⟩
  · rintro ⟨before, after, rfl, hlead⟩
    exact hlead.primary?

theorem mem_of_primary? (h : primary? es = some e) : e ∈ es := by
  obtain ⟨before, after, rfl, -⟩ := primary?_eq_some.mp h
  simp

theorem primary?_concat (es : List Email) (x : Email) :
    primary? (es ++ [x]) = better (primary? es) x := by
  cases h : primary? es with
  | none =>
    obtain rfl := primary?_eq_none.mp h
    exact primary?_eq_some.mpr ⟨[], [], rfl, by simp, by simp⟩
  | some e =>
    obtain ⟨before, after, rfl, hlead⟩ := primary?_eq_some.mp h
    have hconcat := hlead.concat x
    rw [better]
    split at hconcat
    next hx => rw [if_pos hx, hconcat.primary?]
    next hx => rw [if_neg hx, ← hconcat.primary?, List.append_assoc, List.cons_append]

/-- The three searches are a single pass. -/
theorem primary?_eq_foldl (es : List Email) : primary? es = es.foldl better none := by
  induction es using List.reverseRecOn with
  | nil => rfl
  | append_singleton es x ih =>
    rw [primary?_concat, ih, List.foldl_append, List.foldl_cons, List.foldl_nil]

/-- One more address behind the others changes the choice just if it ranks higher. -/
theorem primary?_concat_iff (h : primary? es = some e) :
    primary? (es ++ [x]) = some e ↔ x.rank ≤ e.rank := by
  rw [primary?_concat, h, better]
  split
  next hx =>
    constructor
    · intro heq
      exact Nat.le_of_eq (congrArg rank (Option.some.inj heq))
    · intro hle
      exact absurd hx (Nat.not_lt.mpr hle)
  next hx => exact ⟨fun _ => Nat.le_of_not_lt hx, fun _ => rfl⟩

end SignOn.Email
