import SignOn.Proofs.Json.Grammar

/-!
Records that are read from objects of the grammar. What reads whole values takes the members one
after another, as they stand in the text, so a record has something to say of every member that
spells the name of a field: none of them is passed over, and none is read twice.
-/
namespace SignOn.Json

/-! ### Whole values -/

/-- A reader that ends where its value ends. -/
def ReadsWhole {α : Type} (r : Reader α) : Prop :=
  ∀ ⦃bs rest : List UInt8⦄ ⦃a : α⦄, r bs = .got a rest → skipValue bs = .got () rest

theorem ReadsWhole.map {α β : Type} {r : Reader α} (h : ReadsWhole r) (f : α → β) :
    ReadsWhole fun bs => (r bs).map f := by
  intro bs rest b hb
  obtain ⟨a, ha, -⟩ := Read.map_eq_got.mp hb
  exact h ha

theorem readsWhole_string : ReadsWhole string := by
  intro bs rest s h
  unfold string at h
  split at h
  next r hbs => exact skipValue_of_passes (.string hbs (skipString_of_stringBody h))
  next => cases h

theorem string_skipSpace (bs : List UInt8) : string (skipSpace bs) = string bs := by
  rw [string, skipSpace_skipSpace, string]

theorem ReadsWhole.optional {α : Type} {r : Reader α} (h : ReadsWhole r)
    (blanks : ∀ bs, r (skipSpace bs) = r bs) : ReadsWhole (optional r) := by
  intro bs rest a ha
  unfold Json.optional at ha
  split at ha
  next tail hbs =>
    obtain ⟨-, hword, -⟩ := word_eq_got ha
    exact skipValue_of_passes (.null hbs hword)
  next =>
    obtain ⟨b, hb, -⟩ := Read.map_eq_got.mp ha
    exact h ((blanks bs).symm.trans hb)

theorem readsWhole_readMember {α : Type} {fields : List (Field α)}
    (whole : ∀ f ∈ fields, ∀ a, ReadsWhole (f.read a)) (name : String) (d : Draft α) :
    ReadsWhole (readMember fields name d) := by
  intro bs rest d' h
  rcases readMember_eq_got h with ⟨-, hskip, -⟩ | ⟨f, hf, -, -, a, hread, -⟩
  · exact hskip
  · exact whole f hf d.value hread

/-! ### Members one after another -/

/-- A step takes members in their order, each with what came of those before it. -/
inductive Takes {σ : Type} (step : String → σ → Reader σ) : σ → List Member → σ → Prop
  | nil {s : σ} : Takes step s [] s
  | cons {s s₁ s₂ : σ} {m : Member} {ms : List Member} {name : String}
      {behind follow rest : List UInt8}
      (hname : stringBody (m.name.text ++ 0x22 :: behind) = .got name behind)
      (hvalue : step name s (m.value.before ++ (m.value.text ++ follow)) = .got s₁ rest)
      (tail : Takes step s₁ ms s₂) : Takes step s (m :: ms) s₂

section
variable {σ : Type} {step : String → σ → Reader σ} {s s' : σ} {bound : Nat} {ms : List Member}
  {rest rest' : List UInt8} (whole : ∀ name s, ReadsWhole (step name s))
include whole

/-- A member is taken from where it begins to where the next one begins. -/
theorem takes_cons {m : Member} {first : Bool} {bs follow : List UInt8}
    (hname : IsString m.name.text) (hvalue : IsValue m.value.text) (ends : Ends follow)
    (begins : MemberAt first bs (m.name.text ++ 0x22 :: (m.name.after ++
      0x3a :: (m.value.before ++ (m.value.text ++ (m.value.after ++ follow))))))
    (h : foldMembers step (bound + 1) first s bs = .got s' rest)
    (tail : ∀ s₁, foldMembers step bound false s₁ (m.value.after ++ follow) = .got s' rest →
      Takes step s₁ ms s') : Takes step s (m :: ms) s' := by
  rcases foldMembers_eq_got h with
    ⟨ended, -⟩ | ⟨r, name, r₁, r₂, s₁, mid, hr, hbody, hcolon, hstep, hrest⟩
  · exact absurd ended begins.not_over
  · obtain rfl := begins.unique hr
    have hskip := skipString_of_stringBody hbody
    obtain ⟨-, rfl⟩ := Read.got.inj ((hname.skipString _).symm.trans hskip)
    have hcolon' := skipSpace_blank m.name.blank_after (b := 0x3a) (by decide)
      (m.value.before ++ (m.value.text ++ (m.value.after ++ follow)))
    obtain ⟨-, rfl⟩ := List.cons.inj (hcolon'.symm.trans hcolon)
    -- the step ended where its value ends for the reader, which is where the value ends in the text
    have hmid := hvalue.skipValue m.value.blank_before (ends_blank m.value.blank_after ends)
    obtain ⟨-, rfl⟩ := Read.got.inj (hmid.symm.trans (whole name s hstep))
    exact .cons hbody hstep (tail s₁ hrest)

theorem takes_of_tail (names : ∀ m ∈ ms, IsString m.name.text)
    (values : ∀ m ∈ ms, IsValue m.value.text) {after : List UInt8} (hafter : IsBlank after)
    (h : foldMembers step bound false s
      (after ++ ((ms.flatMap fun m => 0x2c :: m.bytes) ++ 0x7d :: rest)) = .got s' rest') :
    Takes step s ms s' := by
  induction ms generalizing bound s after with
  | nil =>
    cases bound with
    | zero => cases h
    | succ bound =>
      have ended := skipSpace_blank hafter (b := 0x7d) (by decide) rest
      rcases foldMembers_eq_got h with ⟨-, rfl⟩ | ⟨r, _, _, _, _, _, begins, -⟩
      · exact .nil
      · exact absurd ended begins.not_over
  | cons m ms ih =>
    cases bound with
    | zero => cases h
    | succ bound =>
      obtain ⟨hname, hnames⟩ := List.forall_mem_cons.mp names
      obtain ⟨hvalue, hvalues⟩ := List.forall_mem_cons.mp values
      rw [List.flatMap_cons, List.append_assoc, List.cons_append, Member.bytes_append] at h
      refine takes_cons whole hname hvalue (ends_separated Member.bytes ms (.inr rfl) rest) ?_ h
        fun s₁ htail => ih hnames hvalues m.value.blank_after htail
      exact ⟨_, skipSpace_blank hafter (by decide) _,
        skipSpace_blank m.name.blank_before (by decide) _⟩

theorem takes_of_members (names : ∀ m ∈ ms, IsString m.name.text)
    (values : ∀ m ∈ ms, IsValue m.value.text)
    (h : foldMembers step bound true s (separated (ms.map Member.bytes) ++ 0x7d :: rest) =
      .got s' rest') : Takes step s ms s' := by
  cases bound with
  | zero => cases h
  | succ bound =>
  cases ms with
  | nil =>
    rcases foldMembers_eq_got h with ⟨-, rfl⟩ | ⟨r, _, _, _, _, _, begins, -⟩
    · exact .nil
    · exact absurd (skipSpace_cons (b := 0x7d) (by decide) rest) begins.not_over
  | cons m ms =>
    obtain ⟨hname, hnames⟩ := List.forall_mem_cons.mp names
    obtain ⟨hvalue, hvalues⟩ := List.forall_mem_cons.mp values
    rw [List.map_cons, separated, List.flatMap_map, List.append_assoc, Member.bytes_append] at h
    have begins (r : List UInt8) : MemberAt true (m.name.before ++ 0x22 :: r) r :=
      skipSpace_blank m.name.blank_before (by decide) r
    exact takes_cons whole hname hvalue (ends_separated Member.bytes ms (.inr rfl) rest) (begins _) h
      fun s₁ htail => takes_of_tail whole hnames hvalues m.value.blank_after htail

end

/-- A record that is read from an object has taken all its members. -/
theorem takes_of_record {α : Type} {fields : List (Field α)} {blank a : α} {bs rest : List UInt8}
    {ms : List Member} (whole : ∀ f ∈ fields, ∀ a, ReadsWhole (f.read a)) (object : IsObject bs ms)
    (h : record fields blank bs = .got a rest) :
    ∃ d, Takes (readMember fields) ⟨blank, []⟩ ms d ∧ d.value = a := by
  obtain ⟨p, rfl, htext⟩ := object.text
  unfold record at h
  rw [Padded.bytes, htext, objectText, List.cons_append, List.append_assoc,
    skipSpace_blank p.blank_before (by decide)] at h
  obtain ⟨d, hfold, hall⟩ := Read.filterMap_eq_got.mp h
  refine ⟨d, takes_of_members (readsWhole_readMember whole) object.names object.values hfold, ?_⟩
  split at hall
  next => exact Option.some.inj hall
  next => cases hall

/-! ### Members that spell the name of a field -/

/-- What `get` tells of a record comes from the members of one name: a field of that name leaves it
empty for `null` alone, and the others leave it as it is. -/
structure Field.Fills {α β : Type} (f : Field α) (name : String) (get : α → Option β) : Prop where
  own : f.name = name → ∀ ⦃a a' : α⦄ ⦃bs rest : List UInt8⦄, f.read a bs = .got a' rest →
    get a' = none → ∃ r, skipSpace bs = 0x6e :: r
  other : f.name ≠ name → ∀ ⦃a a' : α⦄ ⦃bs rest : List UInt8⦄, f.read a bs = .got a' rest →
    get a' = get a

theorem Field.fills_of_optional {α β : Type} {f : Field α} {name : String} {get : α → Option β}
    {r : Reader β} {set : α → Option β → α}
    (hread : f.read = fun a bs => (Json.optional r bs).map (set a))
    (hset : ∀ a b, get (set a b) = if f.name = name then b else get a) : f.Fills name get := by
  constructor
  · intro hname a a' bs rest ha hnone
    rw [hread] at ha
    obtain ⟨b, hb, rfl⟩ := Read.map_eq_got.mp ha
    rw [hset, if_pos hname] at hnone
    subst hnone
    unfold Json.optional at hb
    split at hb
    next tail hbs => exact ⟨tail, hbs⟩
    next =>
      obtain ⟨_, -, hsome⟩ := Read.map_eq_got.mp hb
      cases hsome
  · intro hname a a' bs rest ha
    rw [hread] at ha
    obtain ⟨b, -, rfl⟩ := Read.map_eq_got.mp ha
    rw [hset, if_neg hname]

section
variable {α β : Type} {fields : List (Field α)} {name : String} {get : α → Option β}
  {d d' : Draft α} {ms : List Member} (fills : ∀ f ∈ fields, f.Fills name get)
include fills

/-- Once a member of the name was read nothing that follows changes what it told. -/
theorem Takes.get_eq (takes : Takes (readMember fields) d ms d') (seen : name ∈ d.seen) :
    get d'.value = get d.value := by
  induction takes with
  | nil => rfl
  | cons _ hvalue _ ih =>
    rcases readMember_eq_got hvalue with ⟨-, -, rfl⟩ | ⟨f, hf, rfl, hseen, a, hread, rfl⟩
    · exact ih seen
    · have hne : f.name ≠ name := fun h => hseen (h ▸ seen)
      exact (ih (List.mem_cons_of_mem _ seen)).trans ((fills f hf).other hne hread)

/-- Where a record holds nothing under the name of a field all members that spell the name are
`null`. -/
theorem Takes.eq_null (isField : ∃ f ∈ fields, f.name = name)
    (takes : Takes (readMember fields) d ms d') (empty : get d'.value = none) {m : Member}
    (hm : m ∈ ms) (spelled : Spells m.name.text name.toList) (value : IsValue m.value.text) :
    m.value.text = nullText := by
  induction takes with
  | nil => cases hm
  | @cons d d₁ d₂ n ms member behind follow rest hname hvalue tail ih =>
    rcases List.mem_cons.mp hm with rfl | hm
    · -- the record still holds at its end what this member told, as no other may bear the name
      obtain ⟨rfl, -⟩ := Read.got.inj ((spelled.stringBody behind).symm.trans hname)
      rcases readMember_eq_got hvalue with ⟨unknown, -⟩ | ⟨f, hf, hfname, -, a, hread, rfl⟩
      · obtain ⟨f, hf, rfl⟩ := isField
        exact absurd rfl (unknown f hf)
      · have hget := tail.get_eq fills List.mem_cons_self
        obtain ⟨r, hr⟩ := (fills f hf).own hfname hread (hget.symm.trans empty)
        obtain ⟨b, t, htext, hb, -, hnull⟩ := value.begins
        rw [htext, List.cons_append, skipSpace_blank m.value.blank_before hb] at hr
        exact hnull (List.cons.inj hr).1
    · exact ih empty hm

end

end SignOn.Json
