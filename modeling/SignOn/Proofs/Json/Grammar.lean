import SignOn.Proofs.Json.Skipping

/-!
The grammar of JSON texts, apart from all readers: a value of any depth, numbers of any size, strings
with any escapes and blanks wherever they may stand. What the grammar allows is passed over, up to
its end and no further.
-/
namespace SignOn.Json

open Text.Utf8

def IsBlank (bs : List UInt8) : Prop := ∀ b ∈ bs, isSpace b = true

theorem skipSpace_append {before : List UInt8} (h : IsBlank before) (r : List UInt8) :
    skipSpace (before ++ r) = skipSpace r := List.dropWhile_append_of_pos h

theorem skipSpace_blank {before : List UInt8} (h : IsBlank before) {b : UInt8}
    (hb : isSpace b = false) (r : List UInt8) : skipSpace (before ++ b :: r) = b :: r := by
  rw [skipSpace_append h, skipSpace_cons hb]

/-! ### Strings -/

/-- What stands between the quotation marks of a string. -/
inductive IsString : List UInt8 → Prop
  | nil : IsString []
  | plain {b : UInt8} {bs : List UInt8} (h : IsPlain b) (tail : IsString bs) : IsString (b :: bs)
  | letter {b e : UInt8} {bs : List UInt8} (h : simpleEscape? b = some e) (tail : IsString bs) :
      IsString (0x5c :: b :: bs)
  | number {a b c d : UInt8} {n : Nat} {bs : List UInt8} (h : hex4? a b c d = some n)
      (tail : IsString bs) : IsString (0x5c :: 0x75 :: a :: b :: c :: d :: bs)

theorem ne_of_simpleEscape? {b e : UInt8} (h : simpleEscape? b = some e) : b ≠ 0x75 := by
  rintro rfl
  cases h

theorem IsString.skipString {bs : List UInt8} (h : IsString bs) (rest : List UInt8) :
    skipString (bs ++ 0x22 :: rest) = .got () rest := by
  induction h with
  | nil => rfl
  | plain h _ ih => rw [List.cons_append, skipString_cons h, ih]
  | letter h _ ih =>
    rw [List.cons_append, List.cons_append, skipString_simpleEscape (ne_of_simpleEscape? h) h, ih]
  | number h _ ih =>
    simp only [List.cons_append]
    rw [Json.skipString, h]
    exact ih

/-- The spellings of a text between quotation marks: each character stands for itself or is escaped,
by a letter, by its number or by a pair of numbers. -/
inductive Spells : List UInt8 → List Char → Prop
  | nil : Spells [] []
  | plain {c : Char} {bs : List UInt8} {cs : List Char} (h : ∀ b ∈ encodeChar c, IsPlain b)
      (tail : Spells bs cs) : Spells (encodeChar c ++ bs) (c :: cs)
  | letter {b e : UInt8} {bs : List UInt8} {cs : List Char} (h : simpleEscape? b = some e)
      (tail : Spells bs cs) : Spells (0x5c :: b :: bs) (.ofNat e.toNat :: cs)
  | number {a b c d : UInt8} {n : Nat} {bs : List UInt8} {cs : List Char}
      (h : hex4? a b c d = some n) (single : n < 0xd800 ∨ 0xdfff < n) (tail : Spells bs cs) :
      Spells (0x5c :: 0x75 :: a :: b :: c :: d :: bs) (.ofNat n :: cs)
  | pair {a b c d a' b' c' d' : UInt8} {n m : Nat} {bs : List UInt8} {cs : List Char}
      (h : hex4? a b c d = some n) (high : 0xd800 ≤ n ∧ n ≤ 0xdbff)
      (h' : hex4? a' b' c' d' = some m) (low : 0xdc00 ≤ m ∧ m ≤ 0xdfff) (tail : Spells bs cs) :
      Spells (0x5c :: 0x75 :: a :: b :: c :: d :: 0x5c :: 0x75 :: a' :: b' :: c' :: d' :: bs)
        (.ofNat ((n - 0xd800) * 0x400 + (m - 0xdc00) + 0x10000) :: cs)

theorem spells_of_plain {cs : List Char} (h : ∀ b ∈ encodeChars cs, IsPlain b) :
    Spells (encodeChars cs) cs := by
  induction cs with
  | nil => exact .nil
  | cons c cs ih =>
    rw [encodeChars, List.flatMap_cons] at h ⊢
    exact .plain (fun b hb => h b (List.mem_append_left _ hb))
      (ih fun b hb => h b (List.mem_append_right _ hb))

/-- A text without marks and control characters is a spelling of itself. -/
theorem spells_encode {s : String} (h : ((encode s).all fun b => decide (IsPlain b)) = true) :
    Spells (encode s) s.toList :=
  spells_of_plain fun b hb => of_decide_eq_true (List.all_eq_true.mp h b hb)

theorem IsString.append {bs r : List UInt8} (h : ∀ b ∈ bs, IsPlain b) (hr : IsString r) :
    IsString (bs ++ r) := by
  induction bs with
  | nil => exact hr
  | cons b bs ih =>
    exact .plain (h b List.mem_cons_self) (ih fun c hc => h c (List.mem_cons_of_mem _ hc))

/-- What spells a text can stand between quotation marks. -/
theorem Spells.isString {bs : List UInt8} {cs : List Char} (h : Spells bs cs) : IsString bs := by
  induction h with
  | nil => exact .nil
  | plain h _ ih => exact .append h ih
  | letter h _ ih => exact .letter h ih
  | number h _ _ ih => exact .number h ih
  | pair h _ h' _ _ ih => exact .number h (.number h' ih)

theorem encodeChar_of_simpleEscape? {b e : UInt8} (h : simpleEscape? b = some e) :
    encodeChar (.ofNat e.toNat) = [e] := by
  unfold simpleEscape? at h
  split_ifs at h <;> cases h <;> subst_vars <;> decide

theorem Spells.stringBytes {bs : List UInt8} {cs : List Char} (h : Spells bs cs)
    (done rest : List UInt8) :
    stringBytes done (bs ++ 0x22 :: rest) = .got (done.reverse ++ encodeChars cs) rest := by
  induction h generalizing done with
  | nil => simp [Json.stringBytes, encodeChars]
  | plain h _ ih =>
    rw [List.append_assoc, stringBytes_plain h, ih]
    simp [encodeChars]
  | letter h _ ih =>
    rw [List.cons_append, List.cons_append, stringBytes_simpleEscape (ne_of_simpleEscape? h) h, ih]
    simp [encodeChars, encodeChar_of_simpleEscape? h]
  | number h single _ ih =>
    simp only [List.cons_append]
    rw [Json.stringBytes, h]
    simp only
    rw [if_neg (by omega), if_neg (by omega), ih]
    simp [encodeChars]
  | pair h high h' low _ ih =>
    simp only [List.cons_append]
    rw [Json.stringBytes, h]
    simp only
    rw [if_neg (by omega), if_pos high, h']
    simp only
    rw [if_pos low, ih]
    simp [encodeChars]

/-- A text is read from every spelling of it. -/
theorem Spells.stringBody {bs : List UInt8} {s : String} (h : Spells bs s.toList)
    (rest : List UInt8) : stringBody (bs ++ 0x22 :: rest) = .got s rest := by
  rw [Json.stringBody, h.stringBytes]
  simp [Read.filterMap, decode?_encodeChars]

/-! ### Numbers -/

structure IsDigits (ds : List UInt8) : Prop where
  ne_nil : ds ≠ []
  digits : ∀ d ∈ ds, isDigit d = true

inductive IsFraction : List UInt8 → Prop
  | none : IsFraction []
  | digits {ds : List UInt8} (h : IsDigits ds) : IsFraction (0x2e :: ds)

inductive IsExponent : List UInt8 → Prop
  | none : IsExponent []
  | digits {letter : UInt8} {sign ds : List UInt8} (hletter : isExponentLetter letter = true)
      (hsign : sign ∈ [[], [0x2b], [0x2d]]) (h : IsDigits ds) :
      IsExponent (letter :: (sign ++ ds))

/-- A number without its sign. A zero in front has no other digits behind it. -/
inductive IsUnsigned : List UInt8 → Prop
  | intro {b : UInt8} {ds fraction exponent : List UInt8} (h : IsDigits (b :: ds))
      (zero : b = 0x30 → ds = []) (hfraction : IsFraction fraction)
      (hexponent : IsExponent exponent) : IsUnsigned (b :: (ds ++ (fraction ++ exponent)))

/-- A text that does not go on with a digit. -/
def NoDigit (r : List UInt8) : Prop := ∀ b r', r = b :: r' → isDigit b = false

theorem dropWhile_digits {ds r : List UInt8} (h : ∀ d ∈ ds, isDigit d = true) (hr : NoDigit r) :
    (ds ++ r).dropWhile isDigit = r := by
  rw [List.dropWhile_append_of_pos h]
  cases r with
  | nil => rfl
  | cons b r => rw [List.dropWhile_cons_of_neg (by simp [hr b r rfl])]

section
variable {fraction exponent rest : List UInt8}

theorem skipExponent_append {sign ds : List UInt8} (hsign : sign ∈ [[], [0x2b], [0x2d]])
    (h : IsDigits ds) (hr : Ends rest) : skipExponent (sign ++ (ds ++ rest)) = .got () rest := by
  obtain ⟨d, ds, rfl⟩ := List.exists_cons_of_ne_nil h.ne_nil
  obtain ⟨hd, hds⟩ := List.forall_mem_cons.mp h.digits
  have hdrop := dropWhile_digits hds fun b r hb => (hr b r hb).1
  have hplus : d ≠ 0x2b := ne_of_isDigit hd (by decide)
  have hminus : d ≠ 0x2d := ne_of_isDigit hd (by decide)
  simp only [List.mem_cons, List.not_mem_nil, or_false] at hsign
  rcases hsign with rfl | rfl | rfl <;> simp [skipExponent, hd, hdrop, hplus, hminus]

/-- Behind its digits a number is over, or its exponent follows. -/
theorem IsExponent.skipTail (h : IsExponent exponent) (hr : Ends rest) :
    skipTail (exponent ++ rest) = .got () rest := by
  cases h with
  | none =>
    cases rest with
    | nil => rfl
    | cons b r => exact skipTail_of_end (by simp [(hr b r rfl).2.2])
  | digits hletter hsign h =>
    rw [List.cons_append, List.append_assoc, Json.skipTail, if_pos hletter,
      skipExponent_append hsign h hr]

/-- Neither digits nor a point follow. -/
theorem IsExponent.ends (h : IsExponent exponent) (hr : Ends rest) {b : UInt8} {r : List UInt8}
    (heq : exponent ++ rest = b :: r) : isDigit b = false ∧ b ≠ 0x2e := by
  cases h with
  | none =>
    obtain ⟨hdigit, hpoint, -⟩ := hr b r heq
    exact ⟨hdigit, hpoint⟩
  | digits hletter hsign h =>
    obtain ⟨rfl, -⟩ := List.cons.inj heq
    simp only [isExponentLetter, Bool.or_eq_true, beq_iff_eq] at hletter
    rcases hletter with rfl | rfl <;> decide

theorem IsUnsigned.skipUnsigned {bs : List UInt8} (h : IsUnsigned bs) (hr : Ends rest) :
    skipUnsigned (bs ++ rest) = .got () rest := by
  obtain @⟨b, ds, fraction, exponent, h, zero, hfraction, hexponent⟩ := h
  obtain ⟨hb, hds⟩ := List.forall_mem_cons.mp h.digits
  have noDigit : NoDigit (exponent ++ rest) := fun c r hc => (hexponent.ends hr hc).1
  have hwhole (tail : List UInt8) (htail : NoDigit tail) :
      (if b = 0x30 then ds ++ tail else (ds ++ tail).dropWhile isDigit) = tail := by
    split
    next hzero => rw [zero hzero, List.nil_append]
    next => exact dropWhile_digits hds htail
  rw [List.cons_append, List.append_assoc, List.append_assoc, skipUnsigned_cons,
    if_neg (by simp [hb])]
  have hskip := hexponent.skipTail hr
  cases hfraction with
  | none =>
    rw [List.nil_append, hwhole _ noDigit]
    cases htail : exponent ++ rest with
    | nil => rw [← hskip, htail]; rfl
    | cons c r =>
      obtain ⟨hdigit, hpoint⟩ := hexponent.ends hr htail
      rw [← hskip, htail]
      simp only [hdigit, Bool.false_eq_true, and_false, if_false, if_neg hpoint]
  | @digits fs hf =>
    obtain ⟨f, fs, rfl⟩ := List.exists_cons_of_ne_nil hf.ne_nil
    obtain ⟨hf, hfs⟩ := List.forall_mem_cons.mp hf.digits
    have hdot : isDigit 0x2e = false := by decide
    have hpoint : NoDigit (0x2e :: f :: fs ++ (exponent ++ rest)) := by
      rintro c r hc
      obtain ⟨rfl, -⟩ := List.cons.inj hc
      exact hdot
    rw [hwhole _ hpoint]
    simp only [List.cons_append, hdot, hf, dropWhile_digits hfs noDigit, Bool.false_eq_true,
      and_false, if_false, if_true, Bool.not_true]
    exact hskip

end

/-! ### Items and members -/

/-- A text with blanks around it. -/
structure Padded where
  before : List UInt8
  text : List UInt8
  after : List UInt8
  blank_before : IsBlank before
  blank_after : IsBlank after

def Padded.bytes (p : Padded) : List UInt8 := p.before ++ (p.text ++ p.after)

theorem Padded.bytes_append (p : Padded) (rest : List UInt8) :
    p.bytes ++ rest = p.before ++ (p.text ++ (p.after ++ rest)) := by
  simp [bytes]

/-- A member of an object: what stands between the quotation marks of its name, and its value. The
blanks of the name are those around the quotation marks. -/
structure Member where
  name : Padded
  value : Padded

def Member.bytes (m : Member) : List UInt8 :=
  m.name.before ++ 0x22 :: (m.name.text ++ 0x22 :: (m.name.after ++ 0x3a :: m.value.bytes))

theorem Member.bytes_append (m : Member) (rest : List UInt8) :
    m.bytes ++ rest = m.name.before ++ 0x22 :: (m.name.text ++ 0x22 :: (m.name.after ++
      0x3a :: (m.value.before ++ (m.value.text ++ (m.value.after ++ rest))))) := by
  simp [bytes, Padded.bytes]

/-- Texts with commas between them. -/
def separated : List (List UInt8) → List UInt8
  | [] => []
  | t :: ts => t ++ ts.flatMap (0x2c :: ·)

def listText (items : List Padded) : List UInt8 :=
  0x5b :: (separated (items.map Padded.bytes) ++ [0x5d])

def objectText (ms : List Member) : List UInt8 :=
  0x7b :: (separated (ms.map Member.bytes) ++ [0x7d])

theorem listText_append (i : Padded) (items : List Padded) (rest : List UInt8) :
    listText (i :: items) ++ rest =
      0x5b :: (i.bytes ++ ((items.flatMap fun j => 0x2c :: j.bytes) ++ 0x5d :: rest)) := by
  simp [listText, separated, List.flatMap_map]

theorem objectText_append (m : Member) (ms : List Member) (rest : List UInt8) :
    objectText (m :: ms) ++ rest =
      0x7b :: (m.bytes ++ ((ms.flatMap fun n => 0x2c :: n.bytes) ++ 0x7d :: rest)) := by
  simp [objectText, separated, List.flatMap_map]

/-! ### Values -/

def nullText : List UInt8 := [0x6e, 0x75, 0x6c, 0x6c]

inductive IsValue : List UInt8 → Prop
  | null : IsValue nullText
  | yes : IsValue [0x74, 0x72, 0x75, 0x65]
  | no : IsValue [0x66, 0x61, 0x6c, 0x73, 0x65]
  | string {bs : List UInt8} (h : IsString bs) : IsValue (0x22 :: (bs ++ [0x22]))
  | unsigned {bs : List UInt8} (h : IsUnsigned bs) : IsValue bs
  | negative {bs : List UInt8} (h : IsUnsigned bs) : IsValue (0x2d :: bs)
  | emptyList {blanks : List UInt8} (h : IsBlank blanks) : IsValue (0x5b :: (blanks ++ [0x5d]))
  | list {i : Padded} {items : List Padded} (h : ∀ j ∈ i :: items, IsValue j.text) :
      IsValue (listText (i :: items))
  | emptyObject {blanks : List UInt8} (h : IsBlank blanks) : IsValue (0x7b :: (blanks ++ [0x7d]))
  | object {m : Member} {ms : List Member} (names : ∀ n ∈ m :: ms, IsString n.name.text)
      (values : ∀ n ∈ m :: ms, IsValue n.value.text) : IsValue (objectText (m :: ms))

/-- The text of an object with these members, perhaps among blanks. -/
structure IsObject (bs : List UInt8) (ms : List Member) : Prop where
  text : ∃ p : Padded, p.bytes = bs ∧ p.text = objectText ms
  names : ∀ m ∈ ms, IsString m.name.text
  values : ∀ m ∈ ms, IsValue m.value.text

/-- A value begins with no blank and no closing bracket, and with an `n` only if it is `null`. -/
theorem IsValue.begins {text : List UInt8} (h : IsValue text) : ∃ b r, text = b :: r ∧
    isSpace b = false ∧ b ≠ 0x5d ∧ (b = 0x6e → text = nullText) := by
  cases h with
  | null => exact ⟨_, _, rfl, by decide, by decide, fun _ => rfl⟩
  | unsigned h =>
    obtain @⟨b, _, _, _, h, -, -, -⟩ := h
    have hb := h.digits b List.mem_cons_self
    exact ⟨b, _, rfl, not_isSpace_of_isDigit hb, ne_of_isDigit hb (by decide),
      fun hn => absurd hn (ne_of_isDigit hb (by decide))⟩
  | _ => exact ⟨_, _, rfl, by decide, by decide, fun hn => absurd hn (by decide)⟩

/-! ### Passing over -/

theorem ends_blank {blanks r : List UInt8} (h : IsBlank blanks) (hr : Ends r) :
    Ends (blanks ++ r) := by
  cases blanks with
  | nil => exact hr
  | cons b bs =>
    rintro c r' hc
    obtain ⟨rfl, -⟩ := List.cons.inj hc
    have hspace := h _ List.mem_cons_self
    simp only [isSpace, Bool.or_eq_true, beq_iff_eq] at hspace
    rcases hspace with ((rfl | rfl) | rfl) | rfl <;> decide

/-- Behind the first of the texts a comma or the closing bracket follows. -/
theorem ends_separated {α : Type} (f : α → List UInt8) (as : List α) {close : UInt8}
    (h : close = 0x5d ∨ close = 0x7d) (rest : List UInt8) :
    Ends ((as.flatMap fun a => 0x2c :: f a) ++ close :: rest) := by
  cases as with
  | nil => exact ends_cons (.inr h) _
  | cons a as => exact ends_cons (.inl rfl) _

/-- A text that is passed over as a value, whatever surrounds it. A number does not tell its own end,
so what follows must not go on with it. -/
def PassesAlways (text : List UInt8) : Prop :=
  ∀ before rest, IsBlank before → Ends rest → Passes [] true (before ++ (text ++ rest)) rest

theorem passes_items {items : List Padded} (h : ∀ i ∈ items, PassesAlways i.text)
    {after : List UInt8} (hafter : IsBlank after) (rest : List UInt8) :
    Passes [.list] false
      (after ++ ((items.flatMap fun i => 0x2c :: i.bytes) ++ 0x5d :: rest)) rest := by
  induction items generalizing after with
  | nil => exact .endOfList (skipSpace_blank hafter (by decide) rest)
  | cons i items ih =>
    obtain ⟨hi, hitems⟩ := List.forall_mem_cons.mp h
    have ends := ends_separated Padded.bytes items (.inl rfl) rest
    have first := hi i.before _ i.blank_before (ends_blank i.blank_after ends)
    rw [List.flatMap_cons, List.append_assoc, List.cons_append, Padded.bytes_append]
    exact .nextItem (skipSpace_blank hafter (by decide) _) (first.trans (ih hitems i.blank_after))

theorem passes_members {ms : List Member} (names : ∀ m ∈ ms, IsString m.name.text)
    (values : ∀ m ∈ ms, PassesAlways m.value.text) {after : List UInt8} (hafter : IsBlank after)
    (rest : List UInt8) :
    Passes [.object] false
      (after ++ ((ms.flatMap fun m => 0x2c :: m.bytes) ++ 0x7d :: rest)) rest := by
  induction ms generalizing after with
  | nil => exact .endOfObject (skipSpace_blank hafter (by decide) rest)
  | cons m ms ih =>
    obtain ⟨hname, hnames⟩ := List.forall_mem_cons.mp names
    obtain ⟨hvalue, hvalues⟩ := List.forall_mem_cons.mp values
    have ends := ends_separated Member.bytes ms (.inr rfl) rest
    have first := hvalue m.value.before _ m.value.blank_before (ends_blank m.value.blank_after ends)
    rw [List.flatMap_cons, List.append_assoc, List.cons_append, Member.bytes_append]
    exact .nextMember (hname.skipString _) (skipSpace_blank m.name.blank_after (by decide) _)
      (first.trans (ih hnames hvalues m.value.blank_after))
      (skipSpace_blank hafter (by decide) _) (skipSpace_blank m.name.blank_before (by decide) _)

/-- Every value of the grammar is passed over. -/
theorem IsValue.passes {text : List UInt8} (h : IsValue text) : PassesAlways text := by
  induction h with
  | null =>
    intro before rest blank _
    exact .null (skipSpace_blank blank (by decide) _) rfl
  | yes =>
    intro before rest blank _
    exact .yes (skipSpace_blank blank (by decide) _) rfl
  | no =>
    intro before rest blank _
    exact .no (skipSpace_blank blank (by decide) _) rfl
  | string h =>
    intro before rest blank _
    rw [List.cons_append, List.append_assoc]
    exact .string (skipSpace_blank blank (by decide) _) (h.skipString rest)
  | unsigned h =>
    intro before rest blank ends
    have hskip := h.skipUnsigned ends
    obtain @⟨b, _, _, _, h, -, -, -⟩ := h
    have hb := h.digits b List.mem_cons_self
    exact .unsigned hb (skipSpace_blank blank (not_isSpace_of_isDigit hb) _) hskip
  | negative h =>
    intro before rest blank ends
    exact .negative (skipSpace_blank blank (by decide) _) (h.skipUnsigned ends)
  | emptyList h =>
    intro before rest blank _
    rw [List.cons_append, List.append_assoc]
    exact .emptyList (skipSpace_blank blank (by decide) _) (skipSpace_blank h (by decide) rest)
  | @list i items h ih =>
    intro before rest blank _
    -- the blanks before the first item are taken with the bracket, so the item begins without them
    obtain ⟨hi, hitems⟩ := List.forall_mem_cons.mp ih
    obtain ⟨b, r, htext, hb, hclose, -⟩ := (h i List.mem_cons_self).begins
    have ends := ends_separated Padded.bytes items (.inl rfl) rest
    have first := hi [] _ nofun (ends_blank i.blank_after ends)
    have hskip (r : List UInt8) : skipSpace (i.before ++ (i.text ++ r)) = i.text ++ r := by
      rw [htext]
      exact skipSpace_blank i.blank_before hb _
    rw [listText_append, Padded.bytes_append]
    refine .firstItem (skipSpace_blank blank (by decide) _) (fun r₀ => ?_) ?_
    · rw [hskip, htext]
      exact fun hr => hclose (List.cons.inj hr).1
    · rw [hskip]
      exact first.trans (passes_items hitems i.blank_after rest)
  | emptyObject h =>
    intro before rest blank _
    rw [List.cons_append, List.append_assoc]
    exact .emptyObject (skipSpace_blank blank (by decide) _) (skipSpace_blank h (by decide) rest)
  | @object m ms names values ih =>
    intro before rest blank _
    obtain ⟨hname, hnames⟩ := List.forall_mem_cons.mp names
    obtain ⟨hvalue, hvalues⟩ := List.forall_mem_cons.mp ih
    have ends := ends_separated Member.bytes ms (.inr rfl) rest
    have first := hvalue m.value.before _ m.value.blank_before (ends_blank m.value.blank_after ends)
    rw [objectText_append, Member.bytes_append]
    exact .firstMember (hname.skipString _) (skipSpace_blank m.name.blank_after (by decide) _)
      (first.trans (passes_members hnames hvalues m.value.blank_after rest))
      (skipSpace_blank blank (by decide) _) (skipSpace_blank m.name.blank_before (by decide) _)

/-- What is passed over of a text that begins with a value is the value. -/
theorem IsValue.skipValue {text before rest : List UInt8} (h : IsValue text) (blank : IsBlank before)
    (ends : Ends rest) : skipValue (before ++ (text ++ rest)) = .got () rest :=
  skipValue_of_passes (h.passes before rest blank ends)

end SignOn.Json
