import SignOn.Config.Redirects
import SignOn.Proofs.Text.Blank
import SignOn.Text.Utf8.Lemmas

/-!
Lists of allowed origins, as they may be written in a variable. Between commas stand items that are
blank, or an origin with slashes behind it and white space around both (`Lists`). However a list is
written, its origins are allowed in their order, and behind them that of the default page if it is
none of them.
-/
namespace SignOn.Config

open Text

variable {cs item rest lead trail : List Char} {origins : List String}

/-! ### Items between commas -/

theorem splitChars_eq_splitOn (sep : Char) (cs : List Char) :
    splitChars sep cs = cs.splitOn sep := by
  rw [List.splitOn_eq_splitOnP]
  induction cs with
  | nil => rfl
  | cons c r ih =>
    rw [splitChars, List.splitOnP_cons_eq_if_modifyHead, ih]
    by_cases hc : c = sep
    · rw [if_pos hc, if_pos (beq_iff_eq.mpr hc)]
    · rw [if_neg hc, if_neg (mt beq_iff_eq.mp hc)]
      cases hsplit : r.splitOnP (· == sep) with
      | nil => exact absurd hsplit (List.splitOnP_ne_nil _ _)
      | cons p ps => rfl

/-- What is read of an item: nothing if it is blank. -/
theorem splitList_item (h : ',' ∉ item) : splitList (String.ofList item) =
    [String.ofList (trimChars item)].filter fun s => !s.isEmpty := by
  rw [splitList, String.toList_ofList, splitChars_eq_splitOn, List.splitOn_eq_singleton h]
  rfl

theorem splitList_cons (h : ',' ∉ item) (rest : List Char) :
    splitList (String.ofList (item ++ ',' :: rest)) =
      splitList (String.ofList item) ++ splitList (String.ofList rest) := by
  rw [splitList_item h, splitList, splitList, String.toList_ofList, String.toList_ofList,
    splitChars_eq_splitOn, splitChars_eq_splitOn, List.splitOn_append_cons_self_of_not_mem h,
    ← List.filter_append]
  rfl

/-- What holds of single items and is kept with one more in front holds of all texts. -/
theorem commas_induction {holds : List Char → Prop} (single : ∀ item, ',' ∉ item → holds item)
    (more : ∀ item rest, ',' ∉ item → holds rest → holds (item ++ ',' :: rest))
    (cs : List Char) : holds cs := by
  by_cases h : ',' ∈ cs
  · obtain ⟨item, rest, hcs, hitem⟩ := List.eq_append_cons_of_mem h
    have shorter : rest.length < cs.length := by simp [hcs]; omega
    exact hcs ▸ more item rest hitem (commas_induction single more rest)
  · exact single cs h
termination_by cs.length

theorem allBlank_nil : AllBlank [] := by simp [AllBlank]

theorem comma_notMem_of_allBlank (h : AllBlank cs) : ',' ∉ cs := by
  intro hcomma
  exact absurd (h ',' hcomma) (by decide)

theorem splitList_lead (h : AllBlank lead) (cs : List Char) :
    splitList (String.ofList (lead ++ cs)) = splitList (String.ofList cs) := by
  have item {item : List Char} (hitem : ',' ∉ item) :
      splitList (String.ofList (lead ++ item)) = splitList (String.ofList item) := by
    have hmem : ',' ∉ lead ++ item := by
      simp [comma_notMem_of_allBlank h, hitem]
    have htrim := trimChars_blanks h allBlank_nil item
    rw [List.append_nil] at htrim
    rw [splitList_item hmem, splitList_item hitem, htrim]
  induction cs using commas_induction with
  | single cs hcs => exact item hcs
  | more cs rest hcs _ =>
    have hmem : ',' ∉ lead ++ cs := by
      simp [comma_notMem_of_allBlank h, hcs]
    rw [← List.append_assoc, splitList_cons hmem, splitList_cons hcs, item hcs]

theorem splitList_trail (h : AllBlank trail) (cs : List Char) :
    splitList (String.ofList (cs ++ trail)) = splitList (String.ofList cs) := by
  induction cs using commas_induction with
  | single cs hcs =>
    have hmem : ',' ∉ cs ++ trail := by
      simp [comma_notMem_of_allBlank h, hcs]
    have htrim := trimChars_blanks allBlank_nil h cs
    rw [List.nil_append] at htrim
    rw [splitList_item hmem, splitList_item hcs, htrim]
  | more cs rest hcs ih =>
    rw [List.append_assoc, List.cons_append, splitList_cons hcs, splitList_cons hcs, ih]

/-- White space around a list makes no difference. -/
theorem splitList_trim (s : String) : splitList (trim s) = splitList s := by
  obtain ⟨lead, trail, hlead, htrail, hs⟩ := exists_blanks s.toList
  calc splitList (trim s)
      = splitList (String.ofList (lead ++ trimChars s.toList)) := (splitList_lead hlead _).symm
    _ = splitList (String.ofList (lead ++ trimChars s.toList ++ trail)) :=
        (splitList_trail htrail _).symm
    _ = splitList s := by rw [← hs, String.ofList_toList]

/-! ### Written lists -/

/-- An origin as it may stand in a list. -/
structure IsEntry (origin : String) : Prop where
  ne_empty : origin ≠ ""
  noComma : ',' ∉ origin.toList
  trimmed : Trimmed origin.toList
  noSlash : origin.toList.getLast? ≠ some '/'

/-- An item of a list, and what it lists. -/
inductive Item : List Char → List String → Prop
  | blank {cs : List Char} (h : AllBlank cs) : Item cs []
  | origin {lead trail : List Char} (hlead : AllBlank lead) (origin : String) (slashes : Nat)
      (htrail : AllBlank trail) :
      Item (lead ++ (origin ++ String.ofList (List.replicate slashes '/')).toList ++ trail) [origin]

/-- A text of items with commas between them, and what it lists. -/
inductive Lists : List Char → List String → Prop
  | last {item : List Char} {origins : List String} (h : Item item origins) : Lists item origins
  | next {item rest : List Char} {origins others : List String} (h : Item item origins)
      (more : Lists rest others) : Lists (item ++ ',' :: rest) (origins ++ others)

theorem Item.noComma (h : Item item origins) (entries : ∀ o ∈ origins, IsEntry o) : ',' ∉ item := by
  cases h with
  | blank h => exact comma_notMem_of_allBlank h
  | origin hlead origin slashes htrail =>
    have horigin := (entries origin List.mem_cons_self).noComma
    simp [comma_notMem_of_allBlank hlead, comma_notMem_of_allBlank htrail, horigin]

/-- An origin with slashes behind it neither begins nor ends with white space. -/
theorem IsEntry.trimmed_slashes {origin : String} (h : IsEntry origin) (slashes : Nat) :
    Trimmed (origin ++ String.ofList (List.replicate slashes '/')).toList where
  first c hc := by
    have hne : origin.toList ≠ [] := fun hnil => h.ne_empty (String.toList_eq_nil_iff.mp hnil)
    rw [String.toList_append, List.head?_append_of_ne_nil _ hne] at hc
    exact h.trimmed.first c hc
  last c hc := by
    rw [String.toList_append, String.toList_ofList, List.getLast?_append] at hc
    cases slashes with
    | zero => exact h.trimmed.last c hc
    | succ n =>
      rw [List.getLast?_replicate, if_neg (Nat.succ_ne_zero n)] at hc
      obtain rfl := Option.some.inj hc
      decide

theorem Item.read (h : Item item origins) (entries : ∀ o ∈ origins, IsEntry o) :
    (splitList (String.ofList item)).map (trimEnd '/') = origins := by
  rw [splitList_item (h.noComma entries)]
  cases h with
  | blank h =>
    have htrim : trimChars item = [] := trimChars_eq_iff.mpr
      ⟨⟨by simp, by simp⟩, item, [], h, allBlank_nil, by simp⟩
    rw [htrim]
    rfl
  | origin hlead origin slashes htrail =>
    have hentry := entries origin List.mem_cons_self
    have hne : (origin ++ String.ofList (List.replicate slashes '/')).isEmpty = false := by
      rw [Bool.eq_false_iff, ne_eq, String.isEmpty_iff, String.append_eq_empty_iff]
      exact fun h => hentry.ne_empty h.1
    rw [trimChars_blanks hlead htrail, (hentry.trimmed_slashes slashes).trimChars,
      String.ofList_toList, List.filter_cons_of_pos (by rw [hne]; rfl), List.filter_nil,
      List.map_singleton, trimEnd_append_replicate hentry.noSlash]

theorem Lists.read (h : Lists cs origins) (entries : ∀ o ∈ origins, IsEntry o) :
    (splitList (String.ofList cs)).map (trimEnd '/') = origins := by
  induction h with
  | last h => exact h.read entries
  | next h more ih =>
    obtain ⟨hitem, hrest⟩ := List.forall_mem_append.mp entries
    rw [splitList_cons (h.noComma hitem), List.map_append, h.read hitem, ih hrest]

/-! ### The setting -/

variable {vs : Variables} {value : String} {page : Url}

/-- A list that is blank is as good as none. -/
theorem splitList_of_get? {name : String} (typed : vs name = some (Utf8.encode value)) :
    (match vs.get? name with
      | some s => splitList s
      | none => []) = splitList value := by
  have hget : vs.get? name = if (trim value).isEmpty then none else some (trim value) := by
    rw [Variables.get?, typed, Option.bind_some, Variables.setting?, Utf8.decode?_encode]
    rfl
  rw [hget, ← splitList_trim]
  split
  next s hs =>
    split at hs
    next => cases hs
    next => rw [Option.some.inj hs]
  next hs =>
    split at hs
    next hempty => rw [String.isEmpty_iff.mp hempty]; rfl
    next => cases hs

/-- A build that goes on always has a product, and one that stops has it where it fits. -/
theorem Overflow.isSome_mul? {overflow : Overflow} {m n : Nat} :
    (overflow.mul? m n).isSome ↔ (overflow = .stops → m * n < 2 ^ 64) := by
  cases overflow with
  | stops => simp [Overflow.mul?, Option.isSome_ite]
  | wraps => simp [Overflow.mul?]

/-- However a list of origins is written, these are allowed, in their order; and so is the origin of
the default page, which comes last unless it is listed. There are no settings only where the build
stops, at minutes of too many seconds. -/
theorem listed_origins_allowed (overflow : Overflow)
    (typed : vs "LOGIN_ALLOWED_REDIRECT_ORIGINS" = some (Utf8.encode value))
    (list : Lists value.toList origins) (entries : ∀ o ∈ origins, IsEntry o)
    (parsed : Url.parse (vs.getD "LOGIN_DEFAULT_REDIRECT" "http://localhost:3000/") = .ok page) :
    ∃ settings, Redirects.ofVariables overflow vs = .ok settings ∧
      (settings.isSome ↔ (overflow = .stops → Redirects.minutes vs * 60 < 2 ^ 64)) ∧
      ∀ r ∈ settings, r.default = page ∧
        r.origins = origins ++ if page.origin ∈ origins then [] else [page.origin] := by
  have hread := list.read entries
  rw [String.ofList_toList] at hread
  have hof : Redirects.ofVariables overflow vs =
      .ok ((overflow.mul? (Redirects.minutes vs) 60).map (.of page (splitList value))) := by
    rw [Redirects.ofVariables, parsed]
    exact congrArg (fun list => Except.ok (Option.map (Redirects.of page list) _))
      (splitList_of_get? typed)
  refine ⟨_, hof, ?_, fun r hr => ?_⟩
  · rw [Option.isSome_map, Overflow.isSome_mul?]
  · obtain ⟨patience, -, rfl⟩ := Option.map_eq_some_iff.mp hr
    refine ⟨rfl, ?_⟩
    rw [Redirects.of, hread]
    split <;> simp

/-- Two origins, the first with slashes behind it, and three blank items. -/
def sampleListed : Variables :=
  .ofList [("LOGIN_ALLOWED_REDIRECT_ORIGINS",
      Utf8.encode " https://a.example//,, \thttp://[::1]:3000 ,\n"),
    ("LOGIN_DEFAULT_REDIRECT", Utf8.encode "http://[::1]:8000/home")]

def sampleHome : Url :=
  ⟨"http".toList, some ⟨[], none, .ipv6 [0, 0, 0, 0, 0, 0, 0, 1], some 8000⟩, "/home".toList, none,
    none⟩

set_option maxRecDepth 100000 in
theorem listed_origins_allowed_sample :
    ∃ r, Redirects.ofVariables .stops sampleListed = .ok (some r) ∧
    r.origins = ["https://a.example", "http://[::1]:3000", "http://[::1]:8000"] := by
  have space : AllBlank [' '] := by decide
  have indent : AllBlank [' ', '\t'] := by decide
  have newline : AllBlank ['\n'] := by decide
  have list : Lists " https://a.example//,, \thttp://[::1]:3000 ,\n".toList
      ["https://a.example", "http://[::1]:3000"] :=
    .next (.origin space "https://a.example" 2 allBlank_nil) <| .next (.blank allBlank_nil) <|
      .next (.origin indent "http://[::1]:3000" 0 space) <| .last (.blank newline)
  have entry {origin : String} (hne : origin ≠ "") (hcomma : ',' ∉ origin.toList)
      (htrim : trimChars origin.toList = origin.toList)
      (hslash : origin.toList.getLast? ≠ some '/') : IsEntry origin :=
    ⟨hne, hcomma, htrim ▸ trimmed_trimChars _, hslash⟩
  have entries : ∀ o ∈ ["https://a.example", "http://[::1]:3000"], IsEntry o := by
    intro o ho
    rcases List.mem_pair.mp ho with rfl | rfl
    · exact entry (by decide) (by decide) (by decide) (by decide)
    · exact entry (by decide) (by decide) (by decide) (by decide)
  have parsed : Url.parse (sampleListed.getD "LOGIN_DEFAULT_REDIRECT" "http://localhost:3000/") =
      .ok sampleHome := by decide +kernel
  obtain ⟨settings, hsettings, isSome, allowed⟩ :=
    listed_origins_allowed .stops rfl list entries parsed
  have fits : Redirects.minutes sampleListed * 60 < 2 ^ 64 := by decide +kernel
  obtain ⟨r, rfl⟩ := Option.isSome_iff_exists.mp (isSome.mpr fun _ => fits)
  exact ⟨r, hsettings, (allowed r rfl).2.trans (by decide +kernel)⟩

end SignOn.Config
