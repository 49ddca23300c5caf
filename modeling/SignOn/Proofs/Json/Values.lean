import SignOn.Json.Record
import SignOn.Proofs.Json.Numbers
import SignOn.Proofs.Json.Strings

/-!
Values as JSON writes them are read as what they were: whole numbers of 64 bits and everything made
of them, as deep as the reader goes.
-/
namespace SignOn.Json

open Text.Utf8

theorem skipSpace_cons {b : UInt8} (h : isSpace b = false) (r : List UInt8) :
    skipSpace (b :: r) = b :: r := by simp [skipSpace, h]

theorem ends_cons {b : UInt8} (h : b = 0x2c ∨ b = 0x5d ∨ b = 0x7d) (r : List UInt8) :
    Ends (b :: r) := by
  rintro c r' hc
  obtain ⟨rfl, rfl⟩ := List.cons.inj hc
  rcases h with rfl | rfl | rfl <;> decide

theorem ends_nil : Ends [] := nofun

/-! ### What stands between commas -/

theorem encodeChars_commaed (x : List Char) (xs : List (List Char)) :
    encodeChars (commaed (x :: xs)) =
      encodeChars x ++ xs.flatMap fun y => 0x2c :: encodeChars y := by
  have hcomma : encodeChar ',' = [0x2c] := by decide
  induction xs generalizing x with
  | nil => simp [commaed]
  | cons y ys ih =>
    have hsplit : encodeChars (commaed (x :: y :: ys)) =
        encodeChars x ++ 0x2c :: encodeChars (commaed (y :: ys)) := by
      simp [commaed, encodeChars, hcomma]
    rw [hsplit, ih]
    simp

/-- A step reads written members one after another, each with what came of those before it. -/
inductive ReadsMembers {σ : Type} (step : String → σ → Reader σ) :
    σ → List (String × List Char) → σ → Prop
  | nil {s : σ} : ReadsMembers step s [] s
  | cons {s s₁ s₂ : σ} {name : String} {v : List Char} {ms : List (String × List Char)}
      (head : ∀ rest, Ends rest → step name s (encodeChars v ++ rest) = .got s₁ rest)
      (tail : ReadsMembers step s₁ ms s₂) : ReadsMembers step s ((name, v) :: ms) s₂

/-- A member as it is written. -/
def memberText (m : String × List Char) : List Char := quote m.1 ++ ':' :: m.2

theorem encodeChars_memberText (m : String × List Char) : encodeChars (memberText m) =
    0x22 :: (encodeChars (m.1.toList.flatMap escapeChar) ++ 0x22 :: 0x3a :: encodeChars m.2) := by
  have hcolon : encodeChar ':' = [0x3a] := by decide
  have hquote := encodeChars_quote m.1
  simp only [encodeChars] at hquote
  simp [memberText, encodeChars, hcolon, hquote]

section
variable {σ : Type} {step : String → σ → Reader σ} {s s₁ s₂ : σ} {name : String} {v : List Char}
  {ms : List (String × List Char)}

/-- Reads one member, behind a comma if it is not the first. -/
theorem foldMembers_member (bound : Nat) (first : Bool) {rest : List UInt8}
    (head : step name s (encodeChars v ++ rest) = .got s₁ rest) :
    foldMembers step (bound + 1) first s
      ((if first then [] else [0x2c]) ++ encodeChars (memberText (name, v)) ++ rest) =
      foldMembers step bound false s₁ rest := by
  rw [encodeChars_memberText]
  cases first with
  | true =>
    simp only [if_true, List.nil_append, List.cons_append, List.append_assoc, foldMembers]
    rw [skipSpace_cons (by decide)]
    simp only [stringBody_quote]
    rw [skipSpace_cons (by decide)]
    simp only [head]
  | false =>
    simp only [Bool.false_eq_true, if_false, List.nil_append, List.cons_append, List.append_assoc,
      foldMembers]
    rw [skipSpace_cons (by decide)]
    simp only
    rw [skipSpace_cons (by decide)]
    simp only [stringBody_quote]
    rw [skipSpace_cons (by decide)]
    simp only [head]

theorem ends_members (ms : List (String × List Char)) (rest : List UInt8) :
    Ends ((ms.flatMap fun m => 0x2c :: encodeChars (memberText m)) ++ 0x7d :: rest) := by
  cases ms with
  | nil => exact ends_cons (by simp) _
  | cons m ms => exact ends_cons (by simp) _

theorem foldMembers_tail (h : ReadsMembers step s ms s₂) {bound : Nat} (hb : ms.length < bound)
    (rest : List UInt8) :
    foldMembers step bound false s
      ((ms.flatMap fun m => 0x2c :: encodeChars (memberText m)) ++ 0x7d :: rest) =
      .got s₂ rest := by
  induction h generalizing bound with
  | nil =>
    obtain ⟨bound, rfl⟩ := Nat.exists_eq_add_of_lt hb
    rw [List.flatMap_nil, List.nil_append, foldMembers, skipSpace_cons (by decide)]
    rfl
  | @cons s s₁ s₂ name v ms head tail ih =>
    obtain ⟨bound, rfl⟩ := Nat.exists_eq_add_of_lt hb
    have h := foldMembers_member (ms.length + 1 + bound) false (head _ (ends_members ms rest))
    rw [List.flatMap_cons, List.append_assoc]
    exact h.trans (ih (by omega))

theorem foldMembers_written (h : ReadsMembers step s ms s₂) {bound : Nat} (hb : ms.length < bound)
    (rest : List UInt8) :
    foldMembers step bound true s (encodeChars (commaed (ms.map memberText)) ++ 0x7d :: rest) =
      .got s₂ rest := by
  obtain ⟨bound, rfl⟩ := Nat.exists_eq_add_of_lt hb
  cases h with
  | nil =>
    rw [List.map_nil, foldMembers]
    rfl
  | @cons _ s₁ _ name v ms head tail =>
    have h := foldMembers_member (ms.length + 1 + bound) true (head _ (ends_members ms rest))
    rw [List.map_cons, encodeChars_commaed, List.flatMap_map, List.append_assoc]
    exact h.trans (foldMembers_tail tail (by omega) rest)

end

/-! ### Items -/

/-- A text that cannot be taken for the end of a list or for what stands between its items. -/
def Starts (cs : List Char) : Prop :=
  ∃ b r, encodeChars cs = b :: r ∧ isSpace b = false ∧ b ≠ 0x5d ∧ b ≠ 0x2c

/-- A step reads written items one after another, each with what came of those before it. -/
inductive ReadsItems {σ : Type} (step : σ → Reader σ) : σ → List (List Char) → σ → Prop
  | nil {s : σ} : ReadsItems step s [] s
  | cons {s s₁ s₂ : σ} {v : List Char} {vs : List (List Char)} (starts : Starts v)
      (head : ∀ rest, Ends rest → step s (encodeChars v ++ rest) = .got s₁ rest)
      (tail : ReadsItems step s₁ vs s₂) : ReadsItems step s (v :: vs) s₂

section
variable {σ : Type} {step : σ → Reader σ} {s s₁ s₂ : σ} {v : List Char} {vs : List (List Char)}

/-- Reads one item, behind a comma if it is not the first. -/
theorem foldItems_item (bound : Nat) (first : Bool) {rest : List UInt8} (starts : Starts v)
    (head : step s (encodeChars v ++ rest) = .got s₁ rest) :
    foldItems step (bound + 1) first s
      ((if first then [] else [0x2c]) ++ encodeChars v ++ rest) =
      foldItems step bound false s₁ rest := by
  obtain ⟨b, r, hv, hspace, hclose, hcomma⟩ := starts
  rw [hv] at head ⊢
  cases first with
  | true =>
    simp only [if_true, List.nil_append, List.cons_append, foldItems]
    rw [skipSpace_cons hspace]
    split
    next h => cases h
    next h => exact absurd (List.cons.inj h).1 hclose
    next h => exact absurd (List.cons.inj h).1 hcomma
    next h =>
      obtain ⟨rfl, rfl⟩ := List.cons.inj h
      rw [← List.cons_append, head]
  | false =>
    simp only [Bool.false_eq_true, if_false, List.nil_append, List.cons_append, foldItems]
    rw [skipSpace_cons (by decide)]
    simp only
    rw [skipSpace_cons hspace]
    split
    next h => cases h
    next h => exact absurd (List.cons.inj h).1 hclose
    next h =>
      obtain ⟨rfl, rfl⟩ := List.cons.inj h
      rw [← List.cons_append, head]

theorem ends_items (vs : List (List Char)) (rest : List UInt8) :
    Ends ((vs.flatMap fun v => 0x2c :: encodeChars v) ++ 0x5d :: rest) := by
  cases vs with
  | nil => exact ends_cons (by simp) _
  | cons v vs => exact ends_cons (by simp) _

theorem foldItems_tail (h : ReadsItems step s vs s₂) {bound : Nat} (hb : vs.length < bound)
    (rest : List UInt8) :
    foldItems step bound false s ((vs.flatMap fun v => 0x2c :: encodeChars v) ++ 0x5d :: rest) =
      .got s₂ rest := by
  induction h generalizing bound with
  | nil =>
    obtain ⟨bound, rfl⟩ := Nat.exists_eq_add_of_lt hb
    rw [List.flatMap_nil, List.nil_append, foldItems, skipSpace_cons (by decide)]
    rfl
  | @cons s s₁ s₂ v vs starts head tail ih =>
    obtain ⟨bound, rfl⟩ := Nat.exists_eq_add_of_lt hb
    have h := foldItems_item (vs.length + 1 + bound) false starts (head _ (ends_items vs rest))
    rw [List.flatMap_cons, List.append_assoc]
    exact h.trans (ih (by omega))

theorem foldItems_written (h : ReadsItems step s vs s₂) {bound : Nat} (hb : vs.length < bound)
    (rest : List UInt8) :
    foldItems step bound true s (encodeChars (commaed vs) ++ 0x5d :: rest) = .got s₂ rest := by
  obtain ⟨bound, rfl⟩ := Nat.exists_eq_add_of_lt hb
  cases h with
  | nil =>
    rw [foldItems]
    rfl
  | @cons _ s₁ _ v vs starts head tail =>
    have h := foldItems_item (vs.length + 1 + bound) true starts (head _ (ends_items vs rest))
    rw [encodeChars_commaed, List.append_assoc]
    exact h.trans (foldItems_tail tail (by omega) rest)

end

/-! ### Containers -/

theorem length_le_flatMap {α : Type} (f : α → List UInt8) (as : List α) :
    as.length ≤ (as.flatMap fun a => 0x2c :: f a).length := by
  induction as with
  | nil => simp
  | cons a as ih => simp only [List.flatMap_cons, List.length_append, List.length_cons]; omega

/-- There are no more texts than bytes, with one for the closing bracket. -/
theorem length_le_commaed (vs : List (List Char)) (b : UInt8) (rest : List UInt8) :
    vs.length < (encodeChars (commaed vs) ++ b :: rest).length + 1 := by
  cases vs with
  | nil => simp
  | cons v vs =>
    have := length_le_flatMap encodeChars vs
    simp only [encodeChars_commaed, List.length_append, List.length_cons]
    omega

section
variable {α : Type} {item : Reader α} {text : α → List Char}

/-- A list is read as what it was if each of its items is. -/
theorem items_written {as : List α} (h : ∀ a ∈ as, Starts (text a) ∧
      ∀ rest, Ends rest → item (encodeChars (text a) ++ rest) = .got a rest)
    (rest : List UInt8) :
    items item (encodeChars (commaed (as.map text)) ++ 0x5d :: rest) = .got as rest := by
  have reads (acc : List α) : ReadsItems (fun acc r => (item r).map (· :: acc)) acc (as.map text)
      (as.reverse ++ acc) := by
    induction as generalizing acc with
    | nil => exact .nil
    | cons a as ih =>
      obtain ⟨starts, head⟩ := h a List.mem_cons_self
      have tail := ih (fun b hb => h b (List.mem_cons_of_mem _ hb)) (a :: acc)
      rw [List.reverse_cons, List.append_assoc]
      exact .cons starts (fun rest hr => by rw [head rest hr]; rfl) tail
  have := foldItems_written (reads []) (length_le_commaed (as.map text) 0x5d rest) rest
  rw [items, this]
  simp [Read.map]

/-- Members are read as what they were if each of their values is. -/
theorem members_written {ms : List (String × α)} (h : ∀ m ∈ ms, ∀ rest, Ends rest →
      item (encodeChars (text m.2) ++ rest) = .got m.2 rest) (rest : List UInt8) :
    members item (encodeChars (commaed (ms.map fun m => memberText (m.1, text m.2))) ++
      0x7d :: rest) = .got ms rest := by
  have reads (acc : List (String × α)) :
      ReadsMembers (fun name acc r => (item r).map fun v => (name, v) :: acc) acc
        (ms.map fun m => (m.1, text m.2)) (ms.reverse ++ acc) := by
    induction ms generalizing acc with
    | nil => exact .nil
    | cons m ms ih =>
      have tail := ih (fun n hn => h n (List.mem_cons_of_mem _ hn)) (m :: acc)
      rw [List.reverse_cons, List.append_assoc]
      exact .cons (fun rest hr => by rw [h m List.mem_cons_self rest hr]; rfl) tail
  have hlength := length_le_commaed (ms.map fun m => memberText (m.1, text m.2)) 0x7d rest
  rw [List.length_map] at hlength
  have := foldMembers_written (reads []) (by rw [List.length_map]; exact hlength) rest
  rw [List.map_map] at this
  rw [members]
  simp only [Function.comp_def] at this
  rw [this]
  simp [Read.map]

end

/-! ### Values -/

/-- Values that are read as they are written: their numbers are whole and of 64 bits, and not too
many containers stand inside one another. -/
def Value.Fits : Nat → Value → Prop
  | _, .null => True
  | _, .bool _ => True
  | _, .number (.whole i) => -2 ^ 63 ≤ i ∧ i < 2 ^ 64
  | _, .number (.double _) => False
  | _, .string _ => True
  | 0, .array _ => False
  | 0, .object _ => False
  | depth + 1, .array vs => ∀ v ∈ vs, v.Fits depth
  | depth + 1, .object ms => ∀ m ∈ ms, m.2.Fits depth

theorem itemChars_eq (vs : List Value) : itemChars vs = vs.map Value.chars := by
  induction vs with
  | nil => rfl
  | cons v vs ih => rw [itemChars, ih]; rfl

theorem memberChars_eq (ms : List (String × Value)) :
    memberChars ms = ms.map fun m => memberText (m.1, m.2.chars) := by
  induction ms with
  | nil => rfl
  | cons m ms ih => rw [memberChars, ih]; rfl

theorem encodeChars_array (vs : List Value) : encodeChars (Value.array vs).chars =
    0x5b :: (encodeChars (commaed (vs.map Value.chars)) ++ [0x5d]) := by
  have hopen : encodeChar '[' = [0x5b] := by decide
  have hclose : encodeChar ']' = [0x5d] := by decide
  simp [Value.chars, itemChars_eq, encodeChars, hopen, hclose]

theorem encodeChars_object (ms : List (String × Value)) : encodeChars (Value.object ms).chars =
    0x7b :: (encodeChars (commaed (ms.map fun m => memberText (m.1, m.2.chars))) ++ [0x7d]) := by
  have hopen : encodeChar '{' = [0x7b] := by decide
  have hclose : encodeChar '}' = [0x7d] := by decide
  simp [Value.chars, memberChars_eq, encodeChars, hopen, hclose]

/-- A number begins with a digit or a minus sign. -/
theorem encodeChars_ofInt_cons (i : Int) : ∃ b r,
    encodeChars (Text.Decimal.ofInt i).toList = b :: r ∧ (b = 0x2d ∨ isDigit b = true) := by
  rw [encodeChars_ofInt]
  split
  · exact ⟨_, _, rfl, .inl rfl⟩
  · obtain ⟨b, r, hb, hdigit, -⟩ := digitBytes_eq_cons i.natAbs
    exact ⟨b, r, hb, .inr hdigit⟩

theorem not_isSpace_of_isDigit {b : UInt8} (h : isDigit b = true) : isSpace b = false := by
  cases hs : isSpace b with
  | false => rfl
  | true =>
    simp only [isSpace, Bool.or_eq_true, beq_iff_eq] at hs
    rcases hs with ((rfl | rfl) | rfl) | rfl <;> cases h

theorem skipSpace_ofInt (i : Int) (rest : List UInt8) :
    skipSpace (encodeChars (Text.Decimal.ofInt i).toList ++ rest) =
      encodeChars (Text.Decimal.ofInt i).toList ++ rest := by
  obtain ⟨b, r, hb, hkind⟩ := encodeChars_ofInt_cons i
  rw [hb, List.cons_append]
  rcases hkind with rfl | hdigit
  · exact skipSpace_cons (by decide) _
  · exact skipSpace_cons (not_isSpace_of_isDigit hdigit) _

/-- A whole number within the bounds of a reader is read as what it was. -/
theorem whole_ofInt {low high i : Int} (h : low ≤ i ∧ i < high) (h64 : -2 ^ 63 ≤ i ∧ i < 2 ^ 64)
    {rest : List UInt8} (hr : Ends rest) :
    whole low high (encodeChars (Text.Decimal.ofInt i).toList ++ rest) = .got i rest := by
  rw [whole, skipSpace_ofInt, number_ofInt h64 hr]
  simp only [Read.filterMap, if_pos h]

theorem ne_of_isDigit {b c : UInt8} (hb : isDigit b = true) (hc : isDigit c = false) : b ≠ c := by
  rintro rfl
  rw [hb] at hc
  cases hc

theorem starts_chars {depth : Nat} {v : Value} (h : v.Fits depth) : Starts v.chars := by
  cases v with
  | null => exact ⟨0x6e, [0x75, 0x6c, 0x6c], by decide, by decide, by decide, by decide⟩
  | bool b =>
    cases b with
    | true => exact ⟨0x74, [0x72, 0x75, 0x65], by decide, by decide, by decide, by decide⟩
    | false => exact ⟨0x66, [0x61, 0x6c, 0x73, 0x65], by decide, by decide, by decide, by decide⟩
  | number n =>
    cases n with
    | whole i =>
      obtain ⟨b, r, hb, hkind⟩ := encodeChars_ofInt_cons i
      refine ⟨b, r, hb, ?_⟩
      rcases hkind with rfl | hdigit
      · decide
      · exact ⟨not_isSpace_of_isDigit hdigit, ne_of_isDigit hdigit (by decide),
          ne_of_isDigit hdigit (by decide)⟩
    | double x => exact (by simp [Value.Fits] at h)
  | string s => exact ⟨0x22, _, encodeChars_quote s, by decide, by decide, by decide⟩
  | array vs => exact ⟨0x5b, _, encodeChars_array vs, by decide, by decide, by decide⟩
  | object ms => exact ⟨0x7b, _, encodeChars_object ms, by decide, by decide, by decide⟩

theorem rawValue_quote (depth : Nat) (r : List UInt8) :
    rawValue depth (0x22 :: r) = (stringBody r).map .string := by
  rw [rawValue, skipSpace_cons (by decide)]
  rfl

theorem rawValue_list (depth : Nat) (r : List UInt8) :
    rawValue (depth + 1) (0x5b :: r) = (items (rawValue depth) r).map .array := by
  rw [rawValue, skipSpace_cons (by decide)]
  rfl

theorem rawValue_object (depth : Nat) (r : List UInt8) :
    rawValue (depth + 1) (0x7b :: r) = (members (rawValue depth) r).map .object := by
  rw [rawValue, skipSpace_cons (by decide)]
  rfl

theorem rawValue_number (depth : Nat) {b : UInt8} (h : b = 0x2d ∨ isDigit b = true)
    (r : List UInt8) : rawValue depth (b :: r) = (number (b :: r)).map .number := by
  rcases h with rfl | h
  · rw [rawValue, skipSpace_cons (by decide)]
    rfl
  · rw [rawValue, skipSpace_cons (not_isSpace_of_isDigit h)]
    have ne {c : UInt8} := ne_of_isDigit (c := c) h
    simp only
    rw [if_neg (ne (by decide)), if_neg (ne (by decide)), if_neg (ne (by decide)),
      if_neg (ne (by decide)), if_neg (ne (by decide)), if_neg (ne (by decide))]

/-- A written value is read as what it was. -/
theorem rawValue_chars {depth : Nat} {v : Value} (h : v.Fits depth) {rest : List UInt8}
    (hr : Ends rest) : rawValue depth (encodeChars v.chars ++ rest) = .got v rest := by
  induction depth using Nat.strongRecOn generalizing v rest with
  | _ depth ih =>
    cases v with
    | null =>
      rw [rawValue]
      rfl
    | bool b =>
      rw [rawValue]
      cases b <;> rfl
    | number n =>
      cases n with
      | whole i =>
        obtain ⟨b, r, hb, hkind⟩ := encodeChars_ofInt_cons i
        have hread := number_ofInt (by simpa [Value.Fits] using h) hr
        change rawValue depth (encodeChars (Text.Decimal.ofInt i).toList ++ rest) = _
        rw [hb, List.cons_append] at hread ⊢
        rw [rawValue_number depth hkind, hread]
        rfl
      | double x => exact (by simp [Value.Fits] at h)
    | string s =>
      change rawValue depth (encodeChars (quote s) ++ rest) = _
      rw [encodeChars_quote, List.cons_append, List.append_assoc, rawValue_quote]
      simp only [List.singleton_append, stringBody_quote]
      rfl
    | array vs =>
      cases depth with
      | zero => exact (by simp [Value.Fits] at h)
      | succ depth =>
        have hitems (v : Value) (hv : v ∈ vs) : Starts v.chars ∧ ∀ rest, Ends rest →
            rawValue depth (encodeChars v.chars ++ rest) = .got v rest :=
          have hfits := h v hv
          ⟨starts_chars hfits, fun _ hr => ih depth (Nat.lt_succ_self _) hfits hr⟩
        rw [encodeChars_array, List.cons_append, List.append_assoc, List.singleton_append,
          rawValue_list, items_written hitems]
        rfl
    | object ms =>
      cases depth with
      | zero => exact (by simp [Value.Fits] at h)
      | succ depth =>
        rw [encodeChars_object, List.cons_append, List.append_assoc, List.singleton_append,
          rawValue_object, members_written fun m hm _ hr => ih depth (Nat.lt_succ_self _) (h m hm) hr]
        rfl

/-! ### Passing over -/

theorem skipValue_quote (s : String) (r : List UInt8) :
    skipValue (encodeChars (quote s) ++ r) = .got () r := by
  rw [encodeChars_quote, List.cons_append, List.append_assoc, List.singleton_append]
  generalize hbs : encodeChars (s.toList.flatMap escapeChar) ++ 0x22 :: r = bs
  rw [skipValue, List.length_cons, Nat.mul_succ, skipNested]
  simp only [if_true]
  rw [skipSpace_cons (by decide)]
  have hskip := skipString_escaped s.toList r
  rw [hbs] at hskip
  simp only [hskip]
  rfl

theorem skipValue_ofInt (i : Int) {rest : List UInt8} (hr : Ends rest) :
    skipValue (encodeChars (Text.Decimal.ofInt i).toList ++ rest) = .got () rest := by
  rw [encodeChars_ofInt]
  split
  next =>
    rw [List.cons_append, skipValue, List.length_cons, Nat.mul_succ, skipNested]
    simp only [if_true]
    rw [skipSpace_cons (by decide)]
    simp only [skipUnsigned_digitBytes i.natAbs hr]
    rfl
  next =>
    have hskip := skipUnsigned_digitBytes i.natAbs hr
    obtain ⟨b, r, hb, hdigit, hminus, -⟩ := digitBytes_eq_cons i.natAbs
    rw [hb, List.cons_append] at hskip ⊢
    have ne {c : UInt8} := ne_of_isDigit (c := c) hdigit
    rw [skipValue, List.length_cons, Nat.mul_succ, skipNested]
    simp only [if_true]
    rw [skipSpace_cons (not_isSpace_of_isDigit hdigit)]
    simp only
    rw [if_neg (ne (by decide)), if_neg (ne (by decide)), if_neg (ne (by decide)),
      if_neg (ne (by decide)), if_neg (ne (by decide)), if_pos hdigit]
    simp only [hskip]
    rfl

/-! ### Records -/

section
variable {α : Type} {fields : List (Field α)} {name : String} {d : Draft α}
  {bs rest : List UInt8}

theorem readMember_of_find {f : Field α} {a : α} (hf : fields.find? (·.name = name) = some f)
    (hseen : name ∉ d.seen) (hread : f.read d.value bs = .got a rest) :
    readMember fields name d bs = .got ⟨a, name :: d.seen⟩ rest := by
  simp only [readMember, hf, if_neg hseen, hread, Read.map]

/-- A member that is no field of the record is passed over. -/
theorem readMember_of_ne (h : ∀ f ∈ fields, f.name ≠ name)
    (hskip : skipValue bs = .got () rest) : readMember fields name d bs = .got d rest := by
  have hnone : fields.find? (·.name = name) = none :=
    List.find?_eq_none.mpr fun f hf => by simpa using h f hf
  simp only [readMember, hnone, hskip, Read.map]

theorem optional_quote (s : String) (rest : List UInt8) :
    optional string (encodeChars (quote s) ++ rest) = .got (some s) rest := by
  have hstring := string_quote s rest
  rw [encodeChars_quote, List.cons_append] at hstring ⊢
  rw [optional, skipSpace_cons (by decide)]
  exact congrArg (Read.map some) hstring

theorem optional_ofInt {r : Reader α} {i : Int} {a : α}
    (h : r (encodeChars (Text.Decimal.ofInt i).toList ++ bs) = .got a rest) :
    optional r (encodeChars (Text.Decimal.ofInt i).toList ++ bs) = .got (some a) rest := by
  rw [optional, skipSpace_ofInt]
  obtain ⟨b, tail, hb, hkind⟩ := encodeChars_ofInt_cons i
  have hne : b ≠ 0x6e := by
    rcases hkind with rfl | hdigit
    · decide
    · exact ne_of_isDigit hdigit (by decide)
  split
  next h' =>
    rw [hb] at h'
    exact absurd (List.cons.inj h').1 hne
  next => rw [h, Read.map]

theorem enum_quote {ofName : String → Option α} {s : String} {a : α} (h : ofName s = some a)
    (rest : List UInt8) : enum ofName (encodeChars (quote s) ++ rest) = .got a rest := by
  rw [encodeChars_quote, List.cons_append, List.append_assoc, List.singleton_append, enum,
    skipSpace_cons (by decide)]
  simp only [stringBody_quote, Read.filterMap, h]

end

/-- A written object is read as a record, if its members are and none is missing. -/
theorem record_written {α : Type} {fields : List (Field α)} {blank : α} {d : Draft α}
    {ms : List (String × Value)}
    (h : ReadsMembers (readMember fields) ⟨blank, []⟩ (ms.map fun m => (m.1, m.2.chars)) d)
    (hall : fields.all (fun f => f.presence ≠ .required || d.seen.contains f.name) = true)
    (rest : List UInt8) :
    record fields blank (encodeChars (Value.object ms).chars ++ rest) = .got d.value rest := by
  have hlength := length_le_commaed (ms.map fun m => memberText (m.1, m.2.chars)) 0x7d rest
  rw [List.length_map] at hlength
  have hread := foldMembers_written h (by rw [List.length_map]; exact hlength) rest
  rw [List.map_map] at hread
  simp only [Function.comp_def] at hread
  rw [encodeChars_object, List.cons_append, List.append_assoc, List.singleton_append, record,
    skipSpace_cons (by decide)]
  simp only [hread, Read.filterMap, if_pos hall]

end SignOn.Json
