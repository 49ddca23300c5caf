import SignOn.Proofs.Json.Inversion

/-!
A value that can be read can also be passed over, and ends at the same byte. Reading goes down into
a value, passing over keeps a list of what is open instead, so the steps of the second are counted
and put together in the order of the first.
-/
namespace SignOn.Json

/-! ### Strings -/

theorem skipString_of_stringBytes {done bs s rest : List UInt8}
    (h : stringBytes done bs = .got s rest) : skipString bs = .got () rest := by
  fun_induction stringBytes done bs with
  | case2 =>
    cases h
    rfl
  | case6 _ _ _ _ _ _ hfirst _ _ _ _ _ _ _ _ hsecond _ _ ih =>
    -- a pair of surrogates is two escapes
    rw [skipString, hfirst]
    simp only
    rw [skipString, hsecond]
    exact ih h
  | case13 _ _ _ _ _ _ _ hhex _ _ ih =>
    rw [skipString, hhex]
    exact ih h
  | case15 _ _ _ _ hu _ he ih =>
    rw [skipString_simpleEscape hu he]
    exact ih h
  | case19 _ b r hquote _ _ hletter hlast hcontrol ih =>
    have hslash : b ≠ 0x5c := by
      intro hb
      cases r with
      | nil => exact hlast hb rfl
      | cons c r => exact hletter c r hb rfl
    rw [skipString_cons ⟨hquote, hslash, hcontrol⟩]
    exact ih h
  | _ => cases h

theorem length_of_skipString {bs rest : List UInt8} (h : skipString bs = .got () rest) :
    rest.length < bs.length := by
  fun_induction skipString bs with
  | case2 =>
    cases h
    simp
  | case4 _ _ _ _ _ _ _ ih | case6 _ _ _ _ _ _ ih | case10 _ _ _ _ _ _ _ _ ih =>
    have := ih h
    simp only [List.length_cons]
    omega
  | _ => cases h

theorem skipString_of_stringBody {bs rest : List UInt8} {s : String}
    (h : stringBody bs = .got s rest) : skipString bs = .got () rest := by
  obtain ⟨bytes, hbytes, -⟩ := Read.filterMap_eq_got.mp h
  exact skipString_of_stringBytes hbytes

/-! ### Numbers -/

theorem float_rest {negative : Bool} {n : Nat} {e : Int} {bs rest : List UInt8} {x : Number}
    (h : float negative n e bs = .got x rest) : rest = bs := by
  unfold float at h
  split at h <;> cases h
  rfl

theorem wholeDigits_rest (n moved : Nat) (bs : List UInt8) :
    (wholeDigits n moved bs).2.2 = bs.dropWhile isDigit := by
  fun_induction wholeDigits n moved bs <;> simp_all

theorem fractionDigits_rest (full : Bool) (n places : Nat) (bs : List UInt8) :
    (fractionDigits full n places bs).2.2 = bs.dropWhile isDigit := by
  fun_induction fractionDigits full n places bs <;> simp_all

/-- Exponent digits are read to their end, or up to the first that is too much. -/
theorem exponentDigits_rest (n : Nat) (bs : List UInt8) :
    (exponentDigits n bs).2.dropWhile isDigit = bs.dropWhile isDigit ∧
      ∀ e, (exponentDigits n bs).1 = some e → (exponentDigits n bs).2 = bs.dropWhile isDigit := by
  fun_induction exponentDigits n bs <;> simp_all

theorem skipExponent_of_exponentPart {negative : Bool} {n : Nat} {e : Int} {bs rest : List UInt8}
    {x : Number} (h : exponentPart negative n e bs = .got x rest) :
    skipExponent bs = .got () rest := by
  unfold exponentPart at h
  unfold skipExponent
  split at h
  next down digits hsigned =>
  have after : ∃ b r, digits = b :: r ∧ isDigit b = true ∧ rest = r.dropWhile isDigit := by
    clear hsigned
    cases digits with
    | nil => cases h
    | cons b r =>
      obtain ⟨hrest, hsome⟩ := exponentDigits_rest (b.toNat - 0x30) r
      simp only at h
      split at h
      next => cases h
      next hdigit =>
      refine ⟨b, r, rfl, by simpa using hdigit, ?_⟩
      split at h
      next e' rest' hexp => rw [float_rest h, ← hsome e' (by rw [hexp]), hexp]
      next rest' hexp =>
        split at h
        next => cases h
        next =>
          cases h
          rw [← hrest, hexp]
  clear h
  obtain ⟨b, r, rfl, hdigit, rfl⟩ := after
  split at hsigned <;> cases hsigned <;> simp only [hdigit, if_true]

/-- Passes over an exponent with its letter, if one stands here. -/
def skipTail : Reader Unit
  | [] => .got () []
  | b :: r => if isExponentLetter b then skipExponent r else .got () (b :: r)

/-- A number ends with the exponent behind its digits or behind its fraction. -/
theorem skipUnsigned_cons (b : UInt8) (r : List UInt8) : skipUnsigned (b :: r) =
    if !isDigit b then .stopped r
    else match if b = 0x30 then r else r.dropWhile isDigit with
      | [] => .got () []
      | c :: r =>
        if b = 0x30 ∧ isDigit c then .stopped (c :: r)
        else if c = 0x2e then
          match r with
          | [] => .stopped []
          | d :: r => if !isDigit d then .stopped (d :: r) else skipTail (r.dropWhile isDigit)
        else skipTail (c :: r) := rfl

theorem skipTail_of_letter {negative : Bool} {n : Nat} {e : Int} {b : UInt8} {r rest : List UInt8}
    {x : Number} (hb : isExponentLetter b = true) (h : exponentPart negative n e r = .got x rest) :
    skipTail (b :: r) = .got () rest := by rw [skipTail, if_pos hb, skipExponent_of_exponentPart h]

theorem skipTail_of_end {b : UInt8} {r : List UInt8} (hb : ¬ isExponentLetter b = true) :
    skipTail (b :: r) = .got () (b :: r) := by rw [skipTail, if_neg hb]

/-- A number ends where its digits, its fraction and its exponent do, whatever its size. -/
theorem skipUnsigned_of_unsigned {negative : Bool} {bs rest : List UInt8} {x : Number}
    (h : unsigned negative bs = .got x rest) : skipUnsigned bs = .got () rest := by
  cases bs with
  | nil => cases h
  | cons b r =>
    obtain ⟨n, moved, digits, hread, hskip⟩ : ∃ n moved digits,
        (if b = 0x30 then (0, 0, r) else wholeDigits (b.toNat - 0x30) 0 r) = (n, moved, digits) ∧
        (if b = 0x30 then r else r.dropWhile isDigit) = digits := by
      split
      next => exact ⟨_, _, _, rfl, rfl⟩
      next => exact ⟨_, _, _, rfl, (wholeDigits_rest ..).symm⟩
    rw [unsigned] at h
    rw [skipUnsigned_cons, hskip]
    simp only [hread] at h
    split at h
    next => cases h
    next hdigit =>
    rw [if_neg hdigit]
    cases digits with
    | nil =>
      simp only at h
      split at h
      next =>
        cases h
        rfl
      next => rw [float_rest h]
    | cons c r =>
      simp only at h ⊢
      split at h
      next => cases h
      next hzero =>
      rw [if_neg hzero]
      split at h
      next hpoint =>
        rw [if_pos hpoint]
        cases r with
        | nil => cases h
        | cons d r =>
          simp only at h ⊢
          split at h
          next => cases h
          next hd =>
          have hfraction := fractionDigits_rest false n 0 (d :: r)
          rw [List.dropWhile_cons_of_pos (by simpa using hd)] at hfraction
          rw [if_neg hd, ← hfraction]
          split at h
          next hnil => rw [hnil, float_rest h, skipTail]
          next hcons =>
            rw [hcons]
            split at h
            next he => exact skipTail_of_letter he h
            next he => rw [skipTail_of_end he, float_rest h]
      next hpoint =>
        rw [if_neg hpoint]
        split at h
        next he => exact skipTail_of_letter he h
        next he =>
          rw [skipTail_of_end he]
          split at h
          next =>
            cases h
            rfl
          next => rw [float_rest h]

theorem length_dropWhile_isDigit (bs : List UInt8) :
    (bs.dropWhile isDigit).length ≤ bs.length :=
  (List.dropWhile_suffix isDigit).length_le

theorem length_of_skipExponent {bs rest : List UInt8} (h : skipExponent bs = .got () rest) :
    rest.length < bs.length := by
  unfold skipExponent at h
  simp only at h
  split at h
  next => cases h
  next b r hsign =>
  have hdigits : (b :: r).length ≤ bs.length := by
    rw [← hsign]
    split
    next => exact Nat.le_succ _
    next => exact Nat.le_succ _
    next => exact Nat.le_refl _
  split at h
  next =>
    cases h
    exact Nat.lt_of_le_of_lt (length_dropWhile_isDigit r) hdigits
  next => cases h

theorem length_of_skipTail {bs rest : List UInt8} (h : skipTail bs = .got () rest) :
    rest.length ≤ bs.length := by
  cases bs with
  | nil =>
    cases h
    exact Nat.le_refl _
  | cons b r =>
    rw [skipTail] at h
    split at h
    next => exact Nat.le_succ_of_le (Nat.le_of_lt (length_of_skipExponent h))
    next =>
      cases h
      exact Nat.le_refl _

theorem length_of_skipUnsigned {bs rest : List UInt8} (h : skipUnsigned bs = .got () rest) :
    rest.length < bs.length := by
  cases bs with
  | nil => cases h
  | cons b r =>
    rw [skipUnsigned_cons] at h
    have hdigits : (if b = 0x30 then r else r.dropWhile isDigit).length ≤ r.length := by
      split
      next => exact Nat.le_refl _
      next => exact length_dropWhile_isDigit r
    generalize (if b = 0x30 then r else r.dropWhile isDigit) = digits at h hdigits
    refine Nat.lt_succ_of_le (Nat.le_trans ?_ hdigits)
    split at h
    next => cases h
    next =>
    cases digits with
    | nil =>
      cases h
      exact Nat.le_refl _
    | cons c r =>
      simp only at h
      split at h
      next => cases h
      next =>
      split at h
      next =>
        cases r with
        | nil => cases h
        | cons d r =>
          simp only at h
          split at h
          next => cases h
          next =>
          calc rest.length
              ≤ (r.dropWhile isDigit).length := length_of_skipTail h
            _ ≤ r.length := length_dropWhile_isDigit r
            _ ≤ (c :: d :: r).length := by simp; omega
      next => exact length_of_skipTail h

/-! ### Steps -/

/-- From a place to another a text can be passed over, whatever is open around it, in no more steps
than there are bytes. -/
def Passes (opened : List Nesting) (atValue : Bool) (bs rest : List UInt8) : Prop :=
  ∃ steps, steps + rest.length ≤ bs.length ∧ ∀ bound outer,
    skipNested (bound + steps) (opened ++ outer) atValue bs = skipNested bound outer false rest

section
variable {opened : List Nesting} {atValue atValue' : Bool} {bs mid rest r : List UInt8}

theorem Passes.step (inner : List Nesting)
    (h : ∀ bound outer, skipNested (bound + 1) (opened ++ outer) atValue bs =
      skipNested bound (inner ++ outer) atValue' mid) (shorter : mid.length < bs.length)
    (tail : Passes inner atValue' mid rest) : Passes opened atValue bs rest := by
  obtain ⟨steps, hsteps, hskip⟩ := tail
  refine ⟨steps + 1, by omega, fun bound outer => ?_⟩
  rw [← Nat.add_assoc, h, hskip]

theorem Passes.last (h : ∀ bound outer, skipNested (bound + 1) (opened ++ outer) atValue bs =
      skipNested bound outer false rest) (shorter : rest.length < bs.length) :
    Passes opened atValue bs rest :=
  .step [] h shorter ⟨0, by simp, fun _ _ => rfl⟩

theorem Passes.trans (first : Passes [] true bs mid) (second : Passes opened false mid rest) :
    Passes opened true bs rest := by
  obtain ⟨m, hm, hfirst⟩ := first
  obtain ⟨n, hn, hsecond⟩ := second
  refine ⟨n + m, by omega, fun bound outer => ?_⟩
  rw [← Nat.add_assoc]
  exact (hfirst _ _).trans (hsecond _ _)

/-! ### Words, strings and numbers in one step -/

theorem Passes.null (hbs : skipSpace bs = ascii 'n' :: r) (h : nullWord () r = .got () rest) :
    Passes [] true bs rest := by
  refine .last (fun bound outer => ?_)
    (Nat.lt_of_le_of_lt (word_eq_got h).2.2 (length_of_skipSpace hbs))
  rw [List.nil_append, skipNested.eq_def]
  simp only [if_true, hbs, h]

theorem Passes.yes (hbs : skipSpace bs = ascii 't' :: r) (h : trueWord () r = .got () rest) :
    Passes [] true bs rest := by
  refine .last (fun bound outer => ?_)
    (Nat.lt_of_le_of_lt (word_eq_got h).2.2 (length_of_skipSpace hbs))
  rw [List.nil_append, skipNested.eq_def]
  simp only [if_true, hbs]
  rw [if_neg (by decide)]
  simp only [h]

theorem Passes.no (hbs : skipSpace bs = ascii 'f' :: r) (h : falseWord () r = .got () rest) :
    Passes [] true bs rest := by
  refine .last (fun bound outer => ?_)
    (Nat.lt_of_le_of_lt (word_eq_got h).2.2 (length_of_skipSpace hbs))
  rw [List.nil_append, skipNested.eq_def]
  simp only [if_true, hbs]
  rw [if_neg (by decide), if_neg (by decide)]
  simp only [h]

theorem Passes.string (hbs : skipSpace bs = 0x22 :: r) (h : skipString r = .got () rest) :
    Passes [] true bs rest := by
  refine .last (fun bound outer => ?_)
    (Nat.lt_trans (length_of_skipString h) (length_of_skipSpace hbs))
  rw [List.nil_append, skipNested.eq_def]
  simp only [if_true, hbs]
  rw [if_neg (by decide), if_neg (by decide), if_neg (by decide)]
  simp only [h]

theorem Passes.negative (hbs : skipSpace bs = 0x2d :: r) (h : skipUnsigned r = .got () rest) :
    Passes [] true bs rest := by
  refine .last (fun bound outer => ?_)
    (Nat.lt_trans (length_of_skipUnsigned h) (length_of_skipSpace hbs))
  rw [List.nil_append, skipNested.eq_def]
  simp only [if_true, hbs]
  rw [if_neg (by decide), if_neg (by decide), if_neg (by decide), if_neg (by decide)]
  simp only [h]

theorem Passes.unsigned {b : UInt8} (hdigit : isDigit b = true) (hbs : skipSpace bs = b :: r)
    (h : skipUnsigned (b :: r) = .got () rest) : Passes [] true bs rest := by
  have hlength := length_skipSpace bs
  rw [hbs] at hlength
  refine .last (fun bound outer => ?_) (Nat.lt_of_lt_of_le (length_of_skipUnsigned h) hlength)
  have ne {c : UInt8} := ne_of_isDigit (c := c) hdigit
  rw [List.nil_append, skipNested.eq_def]
  simp only [if_true, hbs]
  rw [if_neg (ne (by decide)), if_neg (ne (by decide)), if_neg (ne (by decide)),
    if_neg (ne (by decide)), if_neg (ne (by decide)), if_pos hdigit]
  simp only [h]

theorem Passes.number {b : UInt8} {n : Number} (hbs : skipSpace bs = b :: r)
    (h : Json.number (b :: r) = .got n rest) : Passes [] true bs rest := by
  rcases number_eq_got h with ⟨rfl, hn⟩ | ⟨hdigit, hn⟩
  · exact .negative hbs (skipUnsigned_of_unsigned hn)
  · exact .unsigned hdigit hbs (skipUnsigned_of_unsigned hn)

/-! ### Lists, from bracket to bracket -/

theorem Passes.emptyList (hbs : skipSpace bs = 0x5b :: r) (hr : skipSpace r = 0x5d :: rest) :
    Passes [] true bs rest := by
  refine .last (fun bound outer => ?_)
    (Nat.lt_trans (length_of_skipSpace hr) (length_of_skipSpace hbs))
  rw [List.nil_append, skipNested.eq_def]
  simp only [if_true, hbs]
  rw [if_neg (by decide), if_neg (by decide), if_neg (by decide), if_neg (by decide),
    if_neg (by decide), if_neg (by decide)]
  simp only [hr]

theorem Passes.firstItem (hbs : skipSpace bs = 0x5b :: r) (hr : ∀ r₀, skipSpace r ≠ 0x5d :: r₀)
    (tail : Passes [.list] true (skipSpace r) rest) : Passes [] true bs rest := by
  refine .step [.list] (fun bound outer => ?_)
    (Nat.lt_of_le_of_lt (length_skipSpace r) (length_of_skipSpace hbs)) tail
  rw [List.nil_append, skipNested.eq_def]
  simp only [if_true, hbs]
  rw [if_neg (by decide), if_neg (by decide), if_neg (by decide), if_neg (by decide),
    if_neg (by decide), if_neg (by decide)]
  rfl

theorem Passes.nextItem (hbs : skipSpace bs = 0x2c :: r) (tail : Passes [.list] true r rest) :
    Passes [.list] false bs rest := by
  refine .step [.list] (fun bound outer => ?_) (length_of_skipSpace hbs) tail
  rw [List.singleton_append, skipNested]
  simp only [Bool.false_eq_true, if_false, hbs]

theorem Passes.endOfList (hbs : skipSpace bs = 0x5d :: rest) : Passes [.list] false bs rest := by
  refine .last (fun bound outer => ?_) (length_of_skipSpace hbs)
  rw [List.singleton_append, skipNested]
  simp only [Bool.false_eq_true, if_false, hbs]

/-! ### Objects, from brace to brace -/

theorem Passes.emptyObject (hbs : skipSpace bs = 0x7b :: r) (hr : skipSpace r = 0x7d :: rest) :
    Passes [] true bs rest := by
  refine .last (fun bound outer => ?_)
    (Nat.lt_trans (length_of_skipSpace hr) (length_of_skipSpace hbs))
  rw [List.nil_append, skipNested.eq_def]
  simp only [if_true, hbs]
  rw [if_neg (by decide), if_neg (by decide), if_neg (by decide), if_neg (by decide),
    if_neg (by decide), if_neg (by decide), if_neg (by decide)]
  simp only [hr]

section
variable {r₁ r₂ r₃ : List UInt8} (hname : skipString r₁ = .got () r₂)
  (hcolon : skipSpace r₂ = 0x3a :: r₃) (tail : Passes [.object] true r₃ rest)
include hname hcolon tail

theorem Passes.firstMember (hbs : skipSpace bs = 0x7b :: r) (hr : skipSpace r = 0x22 :: r₁) :
    Passes [] true bs rest := by
  have hlength : r₃.length < bs.length := by
    have := length_of_skipSpace hbs
    have := length_of_skipSpace hr
    have := length_of_skipString hname
    have := length_of_skipSpace hcolon
    omega
  refine .step [.object] (fun bound outer => ?_) hlength tail
  rw [List.nil_append, skipNested.eq_def]
  simp only [if_true, hbs]
  rw [if_neg (by decide), if_neg (by decide), if_neg (by decide), if_neg (by decide),
    if_neg (by decide), if_neg (by decide), if_neg (by decide)]
  simp only [hr, hname, hcolon, List.singleton_append]

theorem Passes.nextMember (hbs : skipSpace bs = 0x2c :: r) (hr : skipSpace r = 0x22 :: r₁) :
    Passes [.object] false bs rest := by
  have hlength : r₃.length < bs.length := by
    have := length_of_skipSpace hbs
    have := length_of_skipSpace hr
    have := length_of_skipString hname
    have := length_of_skipSpace hcolon
    omega
  refine .step [.object] (fun bound outer => ?_) hlength tail
  rw [List.singleton_append, skipNested]
  simp only [Bool.false_eq_true, if_false, hbs, hr, hname, hcolon]

end

theorem Passes.endOfObject (hbs : skipSpace bs = 0x7d :: rest) :
    Passes [.object] false bs rest := by
  refine .last (fun bound outer => ?_) (length_of_skipSpace hbs)
  rw [List.singleton_append, skipNested]
  simp only [Bool.false_eq_true, if_false, hbs]

/-- A value that passes with nothing open around it is all that is passed over. -/
theorem skipValue_of_passes (h : Passes [] true bs rest) : skipValue bs = .got () rest := by
  obtain ⟨steps, hsteps, hskip⟩ := h
  obtain ⟨bound, hbound⟩ : ∃ bound, 2 * bs.length + 2 = bound + 1 + steps :=
    ⟨2 * bs.length + 1 - steps, by omega⟩
  rw [skipValue, hbound]
  exact (hskip (bound + 1) []).trans (by rw [skipNested]; rfl)

end

/-! ### Lists and objects that are read -/

section
variable {depth bound : Nat} {bs rest r : List UInt8}
  (value : ∀ {bs rest : List UInt8} {v : Value}, rawValue depth bs = .got v rest →
    Passes [] true bs rest)
include value

/-- What comes in a list after an item. -/
theorem Passes.items {acc vs : List Value}
    (h : foldItems (fun acc r => (rawValue depth r).map (· :: acc)) bound false acc bs =
      .got vs rest) : Passes [.list] false bs rest := by
  induction bound generalizing acc bs with
  | zero => cases h
  | succ bound ih =>
    rcases foldItems_eq_got h with ⟨hbs, -⟩ | ⟨_, _, mid, ⟨r₀, hbs, rfl⟩, -, hitem, htail⟩
    · exact .endOfList hbs
    · obtain ⟨v, hv, rfl⟩ := Read.map_eq_got.mp hitem
      rw [rawValue_skipSpace] at hv
      exact .nextItem hbs ((value hv).trans (ih htail))

theorem Passes.array {vs : List Value} (hbs : skipSpace bs = 0x5b :: r)
    (h : Json.items (rawValue depth) r = .got vs rest) : Passes [] true bs rest := by
  obtain ⟨acc, hfold, -⟩ := Read.map_eq_got.mp h
  rcases foldItems_eq_got hfold with ⟨hr, -⟩ | ⟨_, _, mid, rfl, hne, hitem, htail⟩
  · exact .emptyList hbs hr
  · obtain ⟨v, hv, rfl⟩ := Read.map_eq_got.mp hitem
    exact .firstItem hbs hne ((value hv).trans (Passes.items value htail))

/-- What comes in an object after a member. -/
theorem Passes.members {acc ms : List (String × Value)}
    (h : foldMembers (fun name acc r => (rawValue depth r).map fun v => (name, v) :: acc) bound
      false acc bs = .got ms rest) : Passes [.object] false bs rest := by
  induction bound generalizing acc bs with
  | zero => cases h
  | succ bound ih =>
    rcases foldMembers_eq_got h with
      ⟨hbs, -⟩ | ⟨r, name, r₁, r₂, _, mid, ⟨r₀, hbs, hr⟩, hname, hcolon, hmember, htail⟩
    · exact .endOfObject hbs
    · obtain ⟨v, hv, rfl⟩ := Read.map_eq_got.mp hmember
      exact .nextMember (skipString_of_stringBody hname) hcolon ((value hv).trans (ih htail)) hbs hr

theorem Passes.object {ms : List (String × Value)} (hbs : skipSpace bs = 0x7b :: r)
    (h : Json.members (rawValue depth) r = .got ms rest) : Passes [] true bs rest := by
  obtain ⟨acc, hfold, -⟩ := Read.map_eq_got.mp h
  rcases foldMembers_eq_got hfold with
    ⟨hr, -⟩ | ⟨r', name, r₁, r₂, _, mid, hr, hname, hcolon, hmember, htail⟩
  · exact .emptyObject hbs hr
  · obtain ⟨v, hv, rfl⟩ := Read.map_eq_got.mp hmember
    exact .firstMember (skipString_of_stringBody hname) hcolon
      ((value hv).trans (Passes.members value htail)) hbs hr

end

/-! ### Values -/

theorem passes_value {depth : Nat} {bs rest : List UInt8} {v : Value}
    (h : rawValue depth bs = .got v rest) : Passes [] true bs rest := by
  induction depth using Nat.strongRecOn generalizing bs rest v with
  | _ depth ih =>
    have hvalue := valueAt_of_rawValue h
    generalize hbs : skipSpace bs = text at hvalue
    cases hvalue with
    | null hword => exact .null hbs hword
    | yes hword => exact .yes hbs hword
    | no hword => exact .no hbs hword
    | string hs => exact .string hbs (skipString_of_stringBody hs)
    | array hdepth hvs =>
      subst hdepth
      exact .array (ih _ (Nat.lt_succ_self _)) hbs hvs
    | object hdepth hms =>
      subst hdepth
      exact .object (ih _ (Nat.lt_succ_self _)) hbs hms
    | number hn => exact .number hbs hn

/-- A value that can be read is passed over up to the same place. -/
theorem skipValue_of_rawValue {depth : Nat} {bs rest : List UInt8} {v : Value}
    (h : rawValue depth bs = .got v rest) : skipValue bs = .got () rest :=
  skipValue_of_passes (passes_value h)

end SignOn.Json
