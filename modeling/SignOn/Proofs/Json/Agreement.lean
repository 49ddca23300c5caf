import SignOn.Proofs.Json.Skipping

/-!
Two readings of one object agree. What a record holds under a name is the value of the member of
that name, wherever it stands, however the name is spelled and whatever else there is: a record
refuses a name that comes twice, and passes over the names that it does not know.
-/
namespace SignOn.Json

/-! ### Typed values -/

/-- A reader reads what a value holds, up to the value's end. -/
def Agrees {α : Type} (r : Reader α) (toValue : α → Value) : Prop :=
  ∀ ⦃depth : Nat⦄ ⦃bs rest rest' : List UInt8⦄ ⦃a : α⦄ ⦃v : Value⦄, r bs = .got a rest →
    rawValue depth bs = .got v rest' → rest' = rest ∧ v = toValue a

theorem agrees_string : Agrees string .string := by
  intro depth bs rest rest' s v h hv
  unfold string at h
  split at h
  next r hbs =>
    rw [← rawValue_skipSpace, hbs, rawValue_quote] at hv
    obtain ⟨s', hs', rfl⟩ := Read.map_eq_got.mp hv
    obtain ⟨rfl, rfl⟩ := Read.got.inj (hs'.symm.trans h)
    exact ⟨rfl, rfl⟩
  next => cases h

theorem agrees_whole (low high : Int) : Agrees (whole low high) .int := by
  intro depth bs rest rest' i v h hv
  obtain ⟨n, hn, hi⟩ := Read.filterMap_eq_got.mp h
  rw [← rawValue_skipSpace] at hv
  cases hbs : skipSpace bs with
  | nil => rw [hbs] at hn; cases hn
  | cons b r =>
    rw [hbs] at hn hv
    have hb : b = 0x2d ∨ isDigit b = true := (number_eq_got hn).imp And.left And.left
    rw [rawValue_number depth hb, hn] at hv
    obtain ⟨rfl, rfl⟩ := Read.got.inj hv
    cases n with
    | whole j =>
      simp only at hi
      split at hi
      next => exact ⟨rfl, by rw [Option.some.inj hi]; rfl⟩
      next => cases hi
    | double x => cases hi

theorem agrees_optional {α : Type} {r : Reader α} {toValue : α → Value} (h : Agrees r toValue) :
    Agrees (optional r) fun a => (a.map toValue).getD .null := by
  intro depth bs rest rest' a v ha hv
  rw [← rawValue_skipSpace] at hv
  unfold optional at ha
  split at ha
  next tail hbs =>
    obtain ⟨rfl, hword, -⟩ := word_eq_got ha
    have hnull : rawValue depth (0x6e :: tail) = nullWord .null tail := by
      rw [rawValue, skipSpace_cons (by decide)]
      rfl
    rw [hbs, hnull] at hv
    obtain ⟨rfl, hword', -⟩ := word_eq_got hv
    obtain ⟨-, rfl⟩ := Read.got.inj (hword'.symm.trans hword)
    exact ⟨rfl, rfl⟩
  next =>
    obtain ⟨b, hb, rfl⟩ := Read.map_eq_got.mp ha
    exact h hb hv

/-! ### Fields -/

/-- A field reads a member up to its end, and puts it where it belongs: under its own name. -/
def Field.Agrees {α : Type} (f : Field α) (name : String) (get : α → Value) : Prop :=
  ∀ ⦃depth : Nat⦄ ⦃bs rest rest' : List UInt8⦄ ⦃a a' : α⦄ ⦃v : Value⦄, f.read a bs = .got a' rest →
    rawValue depth bs = .got v rest' → rest' = rest ∧ get a' = if f.name = name then v else get a

theorem Field.agrees_of_read {α β : Type} {f : Field α} {name : String} {get : α → Value}
    {r : Reader β} {toValue : β → Value} {set : α → β → α}
    (hread : f.read = fun a bs => (r bs).map (set a)) (h : Json.Agrees r toValue)
    (hset : ∀ a b, get (set a b) = if f.name = name then toValue b else get a) :
    f.Agrees name get := by
  intro depth bs rest rest' a a' v ha hv
  rw [hread] at ha
  obtain ⟨b, hb, rfl⟩ := Read.map_eq_got.mp ha
  obtain ⟨hrest, rfl⟩ := h hb hv
  exact ⟨hrest, hset a b⟩

section
variable {α : Type} {fields : List (Field α)} {name : String} {get : α → Value} {depth : Nat}

/-- A draft and the members that were read so far, the last of them first, tell the same. -/
def Tells (name : String) (get : α → Value) (d : Draft α) (ms : List (String × Value)) : Prop :=
  ms.lookup name = if name ∈ d.seen then some (get d.value) else none

variable (agree : ∀ f ∈ fields, f.Agrees name get) (isField : ∃ f ∈ fields, f.name = name)
include agree isField

theorem readMember_tells {member : String} {d d' : Draft α} {ms : List (String × Value)}
    {bs rest rest' : List UInt8} {v : Value} (tells : Tells name get d ms)
    (typed : readMember fields member d bs = .got d' rest)
    (raw : rawValue depth bs = .got v rest') :
    rest' = rest ∧ Tells name get d' ((member, v) :: ms) := by
  rcases readMember_eq_got typed with
    ⟨unknown, hskip, rfl⟩ | ⟨f, hf, hname, hseen, a, hread, rfl⟩
  · obtain ⟨-, rfl⟩ := Read.got.inj ((skipValue_of_rawValue raw).symm.trans hskip)
    obtain ⟨f, hf, rfl⟩ := isField
    refine ⟨rfl, ?_⟩
    rw [Tells, List.lookup_cons, beq_false_of_ne (unknown f hf)]
    exact tells
  · obtain ⟨hrest, hget⟩ := agree f hf hread raw
    refine ⟨hrest, ?_⟩
    rw [Tells, List.lookup_cons]
    by_cases hm : name = member
    · rw [beq_iff_eq.mpr hm, if_pos (by simp [hm]), hget, if_pos (hname.trans hm.symm)]
    · have hother : ¬ f.name = name := fun h => hm (h.symm.trans hname)
      rw [if_neg hother] at hget
      rw [beq_false_of_ne hm, hget]
      simp only [List.mem_cons, hm, false_or]
      exact tells

theorem foldMembers_tells {bound : Nat} {first : Bool} {d d' : Draft α}
    {ms ms' : List (String × Value)} {bs rest rest' : List UInt8} (tells : Tells name get d ms)
    (typed : foldMembers (readMember fields) bound first d bs = .got d' rest)
    (raw : foldMembers (fun name acc r => (rawValue depth r).map fun v => (name, v) :: acc) bound
      first ms bs = .got ms' rest') : Tells name get d' ms' := by
  induction bound generalizing first d ms bs with
  | zero => cases typed
  | succ bound ih =>
    rcases foldMembers_eq_got typed with
      ⟨hbs, rfl⟩ | ⟨r, member, r₁, r₂, d₁, mid, hbs, hmember, hcolon, hstep, htail⟩ <;>
    rcases foldMembers_eq_got raw with
      ⟨hbs', rfl⟩ | ⟨r', member', r₁', r₂', ms₁, mid', hbs', hmember', hcolon', hstep', htail'⟩
    · exact tells
    · exact absurd hbs hbs'.not_over
    · exact absurd hbs' hbs.not_over
    · obtain rfl := hbs.unique hbs'
      obtain ⟨rfl, rfl⟩ := Read.got.inj (hmember.symm.trans hmember')
      obtain ⟨-, rfl⟩ := List.cons.inj (hcolon.symm.trans hcolon')
      obtain ⟨v, hv, rfl⟩ := Read.map_eq_got.mp hstep'
      obtain ⟨rfl, tells⟩ := readMember_tells agree isField tells hstep hv
      exact ih tells htail htail'

/-- A field that an object must have is the member of its name, the last one if there are more. -/
theorem lookup_of_record {blank a : α} {bs rest rest' : List UInt8} {ms : List (String × Value)}
    (typed : record fields blank bs = .got a rest)
    (raw : rawValue depth bs = .got (.object ms) rest')
    (required : ∀ f ∈ fields, f.name = name → f.presence = .required) :
    ms.reverse.lookup name = some (get a) := by
  have hvalue := valueAt_of_rawValue raw
  unfold record at typed
  generalize skipSpace bs = text at typed hvalue
  cases hvalue with
  | @object inner r _ _ hdepth hms =>
    obtain ⟨d, hfold, hall⟩ := Read.filterMap_eq_got.mp typed
    obtain ⟨acc, hacc, rfl⟩ := Read.map_eq_got.mp hms
    have tells : Tells name get (⟨blank, []⟩ : Draft α) [] := by simp [Tells]
    have tells := foldMembers_tells agree isField tells hfold hacc
    split at hall
    next hseen =>
      cases hall
      obtain ⟨f, hf, hname⟩ := isField
      have hmem := List.all_eq_true.mp hseen f hf
      have hmem : name ∈ d.seen := by simpa [required f hf hname, hname] using hmem
      rw [List.reverse_reverse, tells, if_pos hmem]
    next => cases hall

end

/-! ### The members of a value -/

theorem lookup_lastWins {α : Type} (ms : List (String × α)) (name : String) :
    (lastWins ms).lookup name = ms.reverse.lookup name := by
  have fold (acc : List (String × α)) :
      (ms.foldl (fun acc m => put m.1 m.2 acc) acc).lookup name =
        (ms.reverse.lookup name).or (acc.lookup name) := by
    induction ms generalizing acc with
    | nil => simp
    | cons m ms ih =>
      rw [List.foldl_cons, ih, lookup_put, List.reverse_cons, List.lookup_append, Option.or_assoc,
        List.lookup_cons]
      by_cases h : name = m.1
      · simp [h]
      · rw [if_neg h, beq_false_of_ne h]
        simp
  simpa [lastWins] using fold []

theorem settleMembers_eq (ms : List (String × Value)) :
    settleMembers ms = ms.map fun m => (m.1, m.2.settle) := by
  induction ms with
  | nil => rfl
  | cons m ms ih => rw [settleMembers, ih]; rfl

theorem lookup_map_settle (ms : List (String × Value)) (name : String) :
    (ms.map fun m => (m.1, m.2.settle)).lookup name = (ms.lookup name).map Value.settle := by
  induction ms with
  | nil => rfl
  | cons m ms ih =>
    rw [List.map_cons, List.lookup_cons, List.lookup_cons]
    cases name == m.1 with
    | true => rfl
    | false => exact ih

/-- What an object holds under a name is the last member of that name. -/
theorem lookup_of_value {bs rest : List UInt8} {ms : List (String × Value)}
    (h : value bs = .got (.object ms) rest) : ∃ raw,
      rawValue maxDepth bs = .got (.object raw) rest ∧
      ∀ name, ms.lookup name = (raw.reverse.lookup name).map Value.settle := by
  obtain ⟨v, hv, hsettle⟩ := Read.map_eq_got.mp h
  cases v with
  | object raw =>
    rw [Value.settle] at hsettle
    cases hsettle
    refine ⟨raw, hv, fun name => ?_⟩
    rw [lookup_lastWins, settleMembers_eq, ← List.map_reverse, lookup_map_settle]
  | null | bool | number | string | array => simp [Value.settle] at hsettle

end SignOn.Json
