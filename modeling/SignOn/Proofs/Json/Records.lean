import SignOn.Proofs.Json.Values

/-!
Reading back what was written, one reader at a time. A reader that reads a value as something reads
it so in front of whatever may follow; so readers of records are put together from those of their
fields.
-/
namespace SignOn.Json

open Text.Utf8

/-- A reader reads a written value as something, and stops where the value ends. -/
def Reads {α : Type} (r : Reader α) (v : Value) (a : α) : Prop :=
  ∀ rest, Ends rest → r (encodeChars v.chars ++ rest) = .got a rest

section
variable {α β : Type} {r : Reader α} {v : Value} {a : α}

theorem Reads.parse? (h : Reads r v a) : parse? r (encode v.text) = some a := by
  have hread := h [] ends_nil
  rw [List.append_nil] at hread
  rw [Json.parse?, encode, Value.text, String.toList_ofList]
  exact congrArg Read.complete hread

theorem Reads.map (h : Reads r v a) (f : α → β) : Reads (fun bs => (r bs).map f) v (f a) :=
  fun rest hr => congrArg (Read.map f) (h rest hr)

theorem Reads.filterMap (h : Reads r v a) {f : α → Option β} {b : β} (hf : f a = some b) :
    Reads (fun bs => (r bs).filterMap f) v b := by
  intro rest hr
  simp only [h rest hr, Read.filterMap, hf]

/-- A value that does not begin as `null` does is no missing one. -/
theorem Reads.optional (h : Reads r v a) {b : UInt8} {tail : List UInt8}
    (begins : encodeChars v.chars = b :: tail) (hspace : isSpace b = false) (hnull : b ≠ 0x6e) :
    Reads (optional r) v (some a) := by
  intro rest hr
  have hread := h rest hr
  rw [begins, List.cons_append] at hread ⊢
  rw [Json.optional, skipSpace_cons hspace]
  split
  next heq => exact absurd (List.cons.inj heq).1 hnull
  next => exact congrArg (Read.map some) hread

end

/-! ### Single values -/

theorem reads_string (s : String) : Reads string (.string s) s := fun rest _ => string_quote s rest

theorem reads_optional_string (s : String) : Reads (optional string) (.string s) (some s) :=
  fun rest _ => optional_quote s rest

theorem reads_boolean (b : Bool) : Reads boolean (.bool b) b := by
  intro rest _
  cases b <;> rfl

theorem reads_enum {α : Type} {ofName : String → Option α} {s : String} {a : α}
    (h : ofName s = some a) : Reads (enum ofName) (.string s) a := fun rest _ => enum_quote h rest

theorem reads_whole {low high i : Int} (h : low ≤ i ∧ i < high) (h64 : -2 ^ 63 ≤ i ∧ i < 2 ^ 64) :
    Reads (whole low high) (.int i) i := fun _ hr => whole_ofInt h h64 hr

theorem starts_object (ms : List (String × Value)) : Starts (Value.object ms).chars :=
  ⟨0x7b, _, encodeChars_object ms, by decide, by decide, by decide⟩

/-- A list is read as what it was if each of its items is. -/
theorem reads_list {α : Type} {item : Reader α} {toJson : α → Value} {as : List α}
    (h : ∀ a ∈ as, Starts (toJson a).chars ∧ Reads item (toJson a) a) :
    Reads (list item) (.array (as.map toJson)) as := by
  intro rest _
  have hread : items item (encodeChars (commaed (as.map fun a => (toJson a).chars)) ++
      0x5d :: rest) = .got as rest := items_written h rest
  rw [encodeChars_array, List.map_map, List.cons_append, List.append_assoc, List.singleton_append,
    list, skipSpace_cons (by decide)]
  exact hread

/-! ### Records -/

section
variable {α : Type} {fields : List (Field α)} {d d' : Draft α} {ms : List (String × Value)}

/-- The members of a record are read one after another, each into the field of its name. -/
inductive ReadsFields (fields : List (Field α)) : Draft α → List (String × Value) → Draft α → Prop
  | nil {d : Draft α} : ReadsFields fields d [] d
  | cons {d d' : Draft α} {f : Field α} {name : String} {v : Value} {a : α}
      {ms : List (String × Value)} (field : fields.find? (·.name = name) = some f)
      (new : name ∉ d.seen) (reads : Reads (f.read d.value) v a)
      (tail : ReadsFields fields ⟨a, name :: d.seen⟩ ms d') :
      ReadsFields fields d ((name, v) :: ms) d'

theorem ReadsFields.readsMembers (h : ReadsFields fields d ms d') :
    ReadsMembers (readMember fields) d (ms.map fun m => (m.1, m.2.chars)) d' := by
  induction h with
  | nil => exact .nil
  | cons field new reads _ ih =>
    exact .cons (fun rest hr => readMember_of_find field new (reads rest hr)) ih

theorem ReadsFields.reads {blank a : α} {seen : List String}
    (h : ReadsFields fields ⟨blank, []⟩ ms ⟨a, seen⟩)
    (complete : fields.all (fun f => f.presence ≠ .required || seen.contains f.name) = true) :
    Reads (record fields blank) (.object ms) a :=
  fun rest _ => record_written h.readsMembers complete rest

end

end SignOn.Json
