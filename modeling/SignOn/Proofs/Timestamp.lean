import SignOn.Proofs.Json.Records
import SignOn.Proofs.Text.Decimal
import SignOn.Timestamp

/-!
The text of a timestamp is read as the timestamp again, in every year that timestamps are read in:
with a sign where the year has one, with as many digits of a fraction as it has, and in a leap
second too.
-/
namespace SignOn.Timestamp

open Text.Decimal

variable {cs rest : List Char} {n width : Nat}

/-! ### Digits and what stands behind them -/

/-- A text that does not go on with a digit. -/
def Ends (rest : List Char) : Prop := ∀ c r, rest = c :: r → c.isDigit = false

theorem ends_cons {c : Char} (h : c.isDigit = false) (r : List Char) : Ends (c :: r) := by
  rintro d r' heq
  obtain ⟨rfl, -⟩ := List.cons.inj heq
  exact h

theorem takeWhile_digits (h : ∀ c ∈ cs, c.isDigit = true) (hr : Ends rest) :
    (cs ++ rest).takeWhile (fun c => (digit? c).isSome) = cs := by
  simp only [isSome_digit?]
  rw [List.takeWhile_append_of_pos h]
  cases rest with
  | nil => simp
  | cons c r => rw [List.takeWhile_cons_of_neg (by simp [hr c r rfl]), List.append_nil]

theorem not_isBlank_of_isDigit {c : Char} (h : c.isDigit = true) : Text.isBlank c = false := by
  have hrange : 48 ≤ c.toNat ∧ c.toNat ≤ 57 := by
    simpa [Char.isDigit, UInt32.le_iff_toNat_le] using h
  simp only [Text.isBlank, Bool.or_eq_false_iff, Bool.and_eq_false_iff, decide_eq_false_iff_not,
    beq_eq_false_iff_ne]
  omega

theorem skipBlanks_cons {c : Char} (h : Text.isBlank c = false) (r : List Char) :
    skipBlanks (c :: r) = c :: r := by rw [skipBlanks, List.dropWhile_cons_of_neg (by simp [h])]

/-- A number of some width begins with a digit. -/
theorem padded_eq_cons (width n : Nat) :
    ∃ c r, (padded width n).toList = c :: r ∧ c.isDigit = true := by
  obtain ⟨c, r, h⟩ := List.exists_cons_of_ne_nil (padded_ne_nil width n)
  have hdigit : c.isDigit = true := isDigit_of_mem_padded (h ▸ List.mem_cons_self)
  exact ⟨c, r, h, hdigit⟩

theorem skipBlanks_padded (width n : Nat) (rest : List Char) :
    skipBlanks ((padded width n).toList ++ rest) = (padded width n).toList ++ rest := by
  obtain ⟨c, r, h, hdigit⟩ := padded_eq_cons width n
  rw [h, List.cons_append, skipBlanks_cons (not_isBlank_of_isDigit hdigit)]

theorem number?_none_padded (width n : Nat) (hr : Ends rest) :
    number? none ((padded width n).toList ++ rest) = some (n, rest) := by
  simp only [number?, takeWhile_digits (fun c hc => isDigit_of_mem_padded hc) hr, digits?_padded,
    Option.map_some, List.drop_left]

theorem number?_some_padded (hwidth : 0 < width) (hn : n < 10 ^ width) (hr : Ends rest) :
    number? (some width) ((padded width n).toList ++ rest) = some (n, rest) := by
  have htake : ((padded width n).toList).take width = (padded width n).toList :=
    List.take_of_length_le (Nat.le_of_eq (length_padded hwidth hn))
  simp only [number?, takeWhile_digits (fun c hc => isDigit_of_mem_padded hc) hr, htake,
    digits?_padded, Option.map_some, List.drop_left]

/-! ### The parts of a timestamp -/

theorem field?_padded (hn : n < 100) (hr : Ends rest) :
    field? ((padded 2 n).toList ++ rest) = some (n, rest) := by
  rw [field?, skipBlanks_padded, number?_some_padded (by decide) hn hr]

theorem year?_yearChars (y : Int) (hr : Ends rest) :
    year? (yearChars y ++ rest) = some (y, rest) := by
  unfold yearChars
  split
  next h =>
    have hnum : number? (some 4) ((padded 4 y.toNat).toList ++ rest) = some (y.toNat, rest) :=
      number?_some_padded (by decide) (by omega) hr
    obtain ⟨c, r, hc, hdigit⟩ := padded_eq_cons 4 y.toNat
    have hminus : c ≠ '-' := by rintro rfl; cases hdigit
    have hplus : c ≠ '+' := by rintro rfl; cases hdigit
    rw [hc, List.cons_append] at hnum ⊢
    rw [year?, skipBlanks_cons (not_isBlank_of_isDigit hdigit)]
    split
    next heq => exact absurd (List.cons.inj heq).1 hminus
    next heq => exact absurd (List.cons.inj heq).1 hplus
    next =>
      rw [hnum, Option.map_some]
      simp only [Int.toNat_of_nonneg h.1]
  next h =>
    have hnum := number?_none_padded 4 y.natAbs hr
    split
    next hneg =>
      have hvalue : -(y.natAbs : Int) = y := by omega
      rw [List.cons_append, year?, skipBlanks_cons (by decide)]
      simp only [hnum, Option.map_some, hvalue]
    next hneg =>
      have hvalue : (y.natAbs : Int) = y := by omega
      rw [List.cons_append, year?, skipBlanks_cons (by decide)]
      simp only [hnum, Option.map_some, hvalue]

/-- A fraction of some digits counts as if zeros stood behind it, up to nine. -/
theorem fraction?_padded (hwidth : 0 < width) (hnine : width ≤ 9) (hn : n < 10 ^ width)
    (hr : Ends rest) : fraction? ('.' :: ((padded width n).toList ++ rest)) =
      some (n * 10 ^ (9 - width), rest) := by
  have hlength := length_padded hwidth hn
  have htake : ((padded width n).toList).take 9 = (padded width n).toList :=
    List.take_of_length_le (by omega)
  simp only [fraction?, takeWhile_digits (fun c hc => isDigit_of_mem_padded hc) hr, htake,
    digits?_padded, Option.bind_eq_bind, Option.bind_some, hlength, Nat.min_eq_right hnine,
    List.drop_left' hlength]

theorem fraction?_fractionChars (hn : n < 10 ^ 9) (hr : Ends rest)
    (hpoint : ∀ r, rest ≠ '.' :: r) :
    fraction? (fractionChars n ++ rest) = some (n, rest) := by
  unfold fractionChars
  split
  next h =>
    rw [h, List.nil_append, fraction?.eq_def]
    split
    next r => exact absurd rfl (hpoint r)
    next => rfl
  next =>
    split
    next h =>
      have hvalue : n / 10 ^ 6 * 10 ^ (9 - 3) = n := Nat.div_mul_cancel (Nat.dvd_of_mod_eq_zero h)
      rw [List.cons_append, fraction?_padded (by decide) (by decide) (by omega) hr, hvalue]
    next =>
      split
      next h =>
        have hvalue : n / 10 ^ 3 * 10 ^ (9 - 6) = n := Nat.div_mul_cancel (Nat.dvd_of_mod_eq_zero h)
        rw [List.cons_append, fraction?_padded (by decide) (by decide) (by omega) hr, hvalue]
      next =>
        have hvalue : n * 10 ^ (9 - 9) = n := Nat.mul_one n
        rw [List.cons_append, fraction?_padded (by decide) (by decide) hn hr, hvalue]

/-! ### Whole timestamps -/

/-- A timestamp of a year that timestamps are read in. -/
def InYears (t : Timestamp) : Prop := firstYear ≤ t.date.year ∧ t.date.year ≤ lastYear

theorem date_of? (d : Date) : Date.of? d.year d.month d.day = some d := dif_pos d.valid

theorem of?_eq (t : Timestamp) : of? t.date t.second t.nano = some t := dif_pos t.valid

theorem toUtc?_zero {t : Timestamp} (h : t.InYears) :
    toUtc? t.date t.second t.nano 0 = some t := by
  obtain ⟨hfirst, hlast⟩ := h
  have hsecond := t.valid.1
  have hmod : ((t.second : Int) % 86400).toNat = t.second := by omega
  have hyears : ¬ (t.date.year < firstYear ∨ lastYear < t.date.year) := by omega
  rw [toUtc?, Int.sub_zero]
  simp only
  rw [if_neg (by omega), if_neg (by omega), Option.bind_eq_bind, Option.bind_some, if_neg hyears,
    hmod, of?_eq]

/-- A leap second is written as the sixtieth second, all else as it is. -/
theorem second_written (t : Timestamp) :
    (if t.second % 60 + (if 10 ^ 9 ≤ t.nano then 1 else 0) = 60 then (59, t.nano % 10 ^ 9 + 10 ^ 9)
      else (t.second % 60 + (if 10 ^ 9 ≤ t.nano then 1 else 0), t.nano % 10 ^ 9)) =
      (t.second % 60, t.nano) := by
  obtain ⟨-, hnano, hleap⟩ := t.valid
  by_cases h : 10 ^ 9 ≤ t.nano
  · have h59 := hleap h
    rw [if_pos h, if_pos (by omega), Prod.mk.injEq]
    omega
  · rw [if_neg h, if_neg (by omega), Prod.mk.injEq]
    omega

/-- A mark between two parts is passed. -/
theorem char?_skipBlanks {c : Char} (h : Text.isBlank c = false) (r : List Char) :
    char? c (skipBlanks (c :: r)) = some r := by
  rw [skipBlanks_cons h, char?, if_pos rfl]

theorem ends_fraction (n : Nat) (r : List Char) : Ends (fractionChars n ++ 'Z' :: r) := by
  unfold fractionChars
  split
  · exact ends_cons rfl r
  · split
    · exact ends_cons rfl _
    · split <;> exact ends_cons rfl _

theorem bind_of_eq_some {α β : Type} {x : Option α} {a : α} (h : x = some a)
    {f : α → Option β} : x >>= f = f a := by
  rw [h]
  rfl

/-- A text in UTC is read where its parts are, one after the other. -/
theorem read?_of_parts {cs r₁ r₂ r₃ r₄ r₅ r₆ r₇ r₈ r₉ r₁₀ r₁₁ : List Char} {year : Int}
    {month day hour minute second second' nano nano' : Nat} {date : Date}
    (hyear : year? cs = some (year, r₁)) (h₁ : char? '-' (skipBlanks r₁) = some r₂)
    (hmonth : field? r₂ = some (month, r₃)) (h₂ : char? '-' (skipBlanks r₃) = some r₄)
    (hday : field? r₄ = some (day, 'T' :: r₅)) (hhour : field? r₅ = some (hour, r₆))
    (h₃ : char? ':' (skipBlanks r₆) = some r₇) (hminute : field? r₇ = some (minute, r₈))
    (h₄ : char? ':' (skipBlanks r₈) = some r₉) (hsecond : field? r₉ = some (second, r₁₀))
    (hfraction : fraction? r₁₀ = some (nano, r₁₁))
    (hoffset : offset? (skipBlanks r₁₁) = some (0, []))
    (hyears : ¬ (year < firstYear ∨ lastYear < year))
    (htime : ¬ (24 ≤ hour ∨ 60 ≤ minute ∨ 61 ≤ second))
    (hdate : Date.of? year month day = some date)
    (hleap : (if second = 60 then (59, nano + 10 ^ 9) else (second, nano)) = (second', nano')) :
    read? cs = toUtc? date (hour * 3600 + minute * 60 + second') nano' 0 := by
  rw [read?]
  refine (bind_of_eq_some hyear).trans ?_
  refine (bind_of_eq_some h₁).trans ?_
  refine (bind_of_eq_some hmonth).trans ?_
  refine (bind_of_eq_some h₂).trans ?_
  refine (bind_of_eq_some hday).trans ?_
  refine (bind_of_eq_some (a := r₅) rfl).trans ?_
  refine (bind_of_eq_some hhour).trans ?_
  refine (bind_of_eq_some h₃).trans ?_
  refine (bind_of_eq_some hminute).trans ?_
  refine (bind_of_eq_some h₄).trans ?_
  refine (bind_of_eq_some hsecond).trans ?_
  refine (bind_of_eq_some hfraction).trans ?_
  refine (bind_of_eq_some hoffset).trans ?_
  dsimp only
  rw [if_neg (by decide), if_neg hyears, if_neg htime, if_neg (by decide), bind_of_eq_some hdate,
    hleap]

theorem read?_chars {t : Timestamp} (h : t.InYears) : read? t.chars = some t := by
  obtain ⟨-, hmonth, -, hday⟩ := t.date.valid
  have hdays : daysInMonth t.date.year t.date.month ≤ 31 := by
    unfold daysInMonth
    split
    · split <;> omega
    · split <;> omega
  have hsecond := t.valid.1
  have field (n : Nat) (hn : n < 100) (c : Char) (hc : c.isDigit = false) (r : List Char) :
      field? ((padded 2 n).toList ++ c :: r) = some (n, c :: r) := field?_padded hn (ends_cons hc r)
  have minus := char?_skipBlanks (c := '-') (by decide)
  have colon := char?_skipBlanks (c := ':') (by decide)
  have seconds := field?_padded
    (n := t.second % 60 + if 10 ^ 9 ≤ t.nano then 1 else 0) (by split <;> omega)
    (ends_fraction (t.nano % 10 ^ 9) [])
  have fraction : fraction? (fractionChars (t.nano % 10 ^ 9) ++ ['Z']) =
      some (t.nano % 10 ^ 9, ['Z']) :=
    fraction?_fractionChars (Nat.mod_lt _ (by decide)) (ends_cons rfl []) (by simp)
  have offset : offset? (skipBlanks ['Z']) = some (0, []) := by
    rw [skipBlanks_cons (by decide)]; rfl
  have hyears : ¬ (t.date.year < firstYear ∨ lastYear < t.date.year) := by
    obtain ⟨hfirst, hlast⟩ := h
    omega
  have htime : ¬ (24 ≤ t.second / 3600 ∨ 60 ≤ t.second / 60 % 60 ∨
      61 ≤ t.second % 60 + if 10 ^ 9 ≤ t.nano then 1 else 0) := by split <;> omega
  have hsum : t.second / 3600 * 3600 + t.second / 60 % 60 * 60 + t.second % 60 = t.second := by
    omega
  simp only [chars, List.append_assoc, List.cons_append]
  rw [read?_of_parts (year?_yearChars _ (ends_cons rfl _)) (minus _)
    (field t.date.month (by omega) '-' rfl _) (minus _) (field t.date.day (by omega) 'T' rfl _)
    (field (t.second / 3600) (by omega) ':' rfl _) (colon _)
    (field (t.second / 60 % 60) (by omega) ':' rfl _) (colon _) seconds fraction offset hyears htime
    (date_of? t.date) (second_written t), hsum, toUtc?_zero h]

theorem parse?_text {t : Timestamp} (h : t.InYears) : parse? t.text = some t := by
  rw [parse?, text, String.toList_ofList, read?_chars h]

theorem reads {t : Timestamp} (h : t.InYears) : Json.Reads reader t.toJson t :=
  (Json.reads_string t.text).filterMap (parse?_text h)

end SignOn.Timestamp
