import Mathlib.Data.List.TakeWhile
import SignOn.Proofs.Text.Blank
import SignOn.Proofs.Text.Decimal
import SignOn.Url.Parser

/-!
Texts that name a site of the web by its scheme, its host and perhaps a port. What is read from such
a text is the site's front page, and the origin of that page is the text itself if and only if every
part is written as origins are: the scheme in lower case, the host in the form that hosts are given,
and no port that the scheme implies.
-/
namespace SignOn.Url

theorem dropWhile_of_forall {α : Type} {p : α → Bool} {as : List α} (h : ∀ a ∈ as, p a = false) :
    as.dropWhile p = as := by
  cases as with
  | nil => rfl
  | cons a as => rw [List.dropWhile_cons_of_neg (by simp [h a List.mem_cons_self])]

/-! ### Schemes -/

theorem isLetter_of_toLower {c : Char} (h : isLetter c.toLower = true) : isLetter c = true := by
  unfold Char.toLower at h
  split at h
  next hupper =>
    simp only [isLetter, Bool.or_eq_true, Bool.and_eq_true, decide_eq_true_eq]
    exact .inr hupper
  next => exact h

theorem lt_toNat_of_isLetter {c : Char} (h : isLetter c = true) : 0x20 < c.toNat := by
  simp only [isLetter, Bool.or_eq_true, Bool.and_eq_true, decide_eq_true_eq, Char.le_def,
    UInt32.le_iff_toNat_le] at h
  have hc : c.toNat = c.val.toNat := rfl
  simp only [hc]
  rcases h with ⟨h, -⟩ | ⟨h, -⟩
  · exact Nat.lt_of_lt_of_le (by decide) h
  · exact Nat.lt_of_lt_of_le (by decide) h

/-- A scheme of letters is read up to its colon. -/
theorem scheme?_append {scheme : List Char} (ne : scheme ≠ [])
    (letters : ∀ c ∈ scheme, isLetter c = true) (r : List Char) :
    scheme? (scheme ++ ':' :: r) = some (scheme.map Char.toLower, r) := by
  have hscheme : ∀ c ∈ scheme, isSchemeChar c = true := fun c hc => by
    simp [isSchemeChar, letters c hc]
  obtain ⟨c, cs, rfl⟩ := List.exists_cons_of_ne_nil ne
  have hdrop : (c :: cs ++ ':' :: r).dropWhile isSchemeChar = ':' :: r := by
    rw [List.dropWhile_append_of_pos hscheme, List.dropWhile_cons_of_neg (by decide)]
  have htake : (c :: cs ++ ':' :: r).takeWhile isSchemeChar = c :: cs := by
    rw [List.takeWhile_append_of_pos hscheme, List.takeWhile_cons_of_neg (by decide),
      List.append_nil]
  rw [List.cons_append] at hdrop htake ⊢
  simp only [scheme?, hdrop, htake, letters c List.mem_cons_self, Bool.not_true, Bool.false_eq_true,
    if_false]

/-! ### Hosts and ports -/

/-- A host as it stands in a text: without a colon, or in brackets. -/
inductive IsHostText : List Char → Prop
  | plain {cs : List Char} (ne : cs ≠ []) (h : ∀ c ∈ cs, c ≠ ':' ∧ c ≠ '[') : IsHostText cs
  | bracketed {cs : List Char} (h : ∀ c ∈ cs, c ≠ '[' ∧ c ≠ ']') :
      IsHostText ('[' :: (cs ++ [']']))

theorem IsHostText.ne_nil {cs : List Char} (h : IsHostText cs) : cs ≠ [] := by
  cases h with
  | plain ne => exact ne
  | bracketed => simp

section
variable {cs port : List Char}

theorem hostText_outside (hport : port = [] ∨ ∃ r, port = ':' :: r)
    (h : ∀ c ∈ cs, c ≠ ':' ∧ c ≠ '[') : hostText false (cs ++ port) = (cs, port) := by
  induction cs with
  | nil => rcases hport with rfl | ⟨r, rfl⟩ <;> simp [hostText]
  | cons c cs ih =>
    obtain ⟨⟨hcolon, hopen⟩, hcs⟩ := List.forall_mem_cons.mp h
    rw [List.cons_append, hostText, if_neg (by simp [hcolon])]
    simp only [if_neg hopen, ite_self, ih hcs]

theorem hostText_inside (hport : port = [] ∨ ∃ r, port = ':' :: r)
    (h : ∀ c ∈ cs, c ≠ '[' ∧ c ≠ ']') :
    hostText true (cs ++ ']' :: port) = (cs ++ [']'], port) := by
  induction cs with
  | nil =>
    rw [List.nil_append, hostText, if_neg (by simp)]
    have := @hostText_outside [] port hport (by simp)
    rw [List.nil_append] at this
    simp [this]
  | cons c cs ih =>
    obtain ⟨⟨hopen, hclose⟩, hcs⟩ := List.forall_mem_cons.mp h
    rw [List.cons_append, hostText, if_neg (by simp)]
    simp only [if_neg hopen, if_neg hclose, ih hcs, List.cons_append]

/-- A host is read up to the colon of a port. -/
theorem IsHostText.hostText_append (h : IsHostText cs) (hport : port = [] ∨ ∃ r, port = ':' :: r) :
    hostText false (cs ++ port) = (cs, port) := by
  cases h with
  | plain ne h => exact hostText_outside hport h
  | bracketed h =>
    rw [List.cons_append, hostText, if_neg (by simp), List.append_assoc, List.singleton_append]
    simp only [if_true, hostText_inside hport h]

end

/-- The number that decimal digits stand for. -/
def portValue (digits : List Char) : Nat :=
  digits.foldl (fun n c => n * 10 + (Text.Decimal.digit? c).getD 0) 0

/-- The number of a port, unless there are no digits or the scheme implies it. -/
def portNumber? (scheme digits : List Char) : Option Nat :=
  if digits.isEmpty ∨ defaultPort? scheme = some (portValue digits) then none
  else some (portValue digits)

theorem port_of_digits (scheme : List Char) {digits : List Char}
    (decimal : ∀ c ∈ digits, c.isDigit = true) (small : portValue digits ≤ 65535) :
    port scheme digits = .ok (portNumber? scheme digits, []) := by
  have htake : (digits.takeWhile fun c => (Text.Decimal.digit? c).isSome) = digits :=
    List.takeWhile_eq_self_iff.mpr fun c hc => by rw [Text.Decimal.isSome_digit?, decimal c hc]
  have hread : port scheme digits =
      if 65535 < portValue digits then .error .port
      else if digits.isEmpty ∨ defaultPort? scheme = some (portValue digits) then .ok (none, [])
      else .ok (some (portValue digits), []) := by
    simp only [port, htake, List.drop_length, Bool.not_true, Bool.false_eq_true, or_false]
    rfl
  rw [hread, if_neg (Nat.not_lt.mpr small), portNumber?]
  split_ifs <;> rfl

/-! ### Sites -/

/-- The parts of a text that names a site. -/
structure Site where
  scheme : List Char
  host : List Char
  port : Option (List Char)

namespace Site

/-- The port with its colon. -/
def portChars (s : Site) : List Char :=
  match s.port with
  | some digits => ':' :: digits
  | none => []

def chars (s : Site) : List Char := s.scheme ++ ':' :: '/' :: '/' :: (s.host ++ s.portChars)

def text (s : Site) : String := String.ofList s.chars

def number? (s : Site) : Option Nat :=
  s.port.bind (portNumber? (s.scheme.map Char.toLower))

/-- The front page of the site. -/
def page (s : Site) (h : Host) : Url :=
  ⟨s.scheme.map Char.toLower, some ⟨[], none, h, s.number?⟩, ['/'], none, none⟩

/-- A text of the form `scheme://host[:port]` with the scheme `http` or `https`, whose host is read
and whose port is a number of 16 bits. -/
structure Names (s : Site) (h : Host) : Prop where
  web : s.scheme.map Char.toLower = "http".toList ∨ s.scheme.map Char.toLower = "https".toList
  host : IsHostText s.host
  visible : ∀ c ∈ s.host, 0x20 < c.toNat ∧ c ∉ ['/', '\\', '?', '#', '@']
  read : Host.ofDomain s.host = .ok h
  port : ∀ digits, s.port = some digits →
    (∀ c ∈ digits, c.isDigit = true) ∧ portValue digits ≤ 65535

/-- Every part of a site is written as origins are. -/
def IsNormal (s : Site) (h : Host) : Prop :=
  s.scheme = s.scheme.map Char.toLower ∧
    s.host ++ s.portChars = h.chars ++ Authority.portChars s.number?

theorem portChars_cases (s : Site) : s.portChars = [] ∨ ∃ r, s.portChars = ':' :: r := by
  unfold portChars
  cases s.port with
  | none => exact .inl rfl
  | some digits => exact .inr ⟨digits, rfl⟩

section
variable {s : Site} {h : Host}

theorem Names.scheme_ne_nil (names : s.Names h) : s.scheme ≠ [] := by
  intro hnil
  rcases names.web with hweb | hweb <;> rw [hnil] at hweb <;> cases hweb

theorem Names.letters (names : s.Names h) : ∀ c ∈ s.scheme, isLetter c = true := by
  have lower : ∀ c ∈ s.scheme.map Char.toLower, isLetter c = true := by
    rcases names.web with hweb | hweb <;> rw [hweb] <;> exact List.all_eq_true.mp (by decide)
  exact fun c hc => isLetter_of_toLower (lower _ (List.mem_map_of_mem hc))

/-- No character of the host and the port ends them or is dropped. -/
theorem Names.mem_rest (names : s.Names h) {c : Char} (hc : c ∈ s.host ++ s.portChars) :
    0x20 < c.toNat ∧ c ∉ ['/', '\\', '?', '#', '@'] := by
  rcases List.mem_append.mp hc with hc | hc
  · exact names.visible c hc
  · unfold portChars at hc
    cases hport : s.port with
    | none => simp [hport] at hc
    | some digits =>
      rw [hport] at hc
      rcases List.mem_cons.mp hc with rfl | hc
      · decide
      · have hdigit := (names.port digits hport).1 c hc
        simp only [Char.isDigit, ge_iff_le, Bool.and_eq_true, decide_eq_true_eq,
          UInt32.le_iff_toNat_le] at hdigit
        refine ⟨Nat.lt_of_lt_of_le (by decide) hdigit.1, fun hmem => ?_⟩
        simp only [List.mem_cons, List.not_mem_nil, or_false] at hmem
        rcases hmem with rfl | rfl | rfl | rfl | rfl <;> revert hdigit <;> decide

theorem Names.ne_of_mem_rest (names : s.Names h) {c : Char} (hc : c ∈ s.host ++ s.portChars) :
    c ≠ '/' ∧ c ≠ '\\' ∧ c ≠ '?' ∧ c ≠ '#' ∧ c ≠ '@' := by
  have := (names.mem_rest hc).2
  simpa only [List.mem_cons, List.not_mem_nil, or_false, not_or] using this

/-- The schemes of the web are among those that have a host and an origin of their own. -/
theorem Names.special (names : s.Names h) : isSpecial (s.scheme.map Char.toLower) = true ∧
    s.scheme.map Char.toLower ≠ "file".toList ∧ s.scheme.map Char.toLower ≠ "blob".toList := by
  rcases names.web with hweb | hweb <;> rw [hweb] <;> decide

/-! ### Reading -/

theorem Names.cleaned (names : s.Names h) : cleaned s.chars = s.chars := by
  have visible : ∀ c ∈ s.chars, 0x20 < c.toNat := by
    intro c hc
    rcases List.mem_append.mp hc with hc | hc
    · exact lt_toNat_of_isLetter (names.letters c hc)
    · rcases List.mem_cons.mp hc with rfl | hc
      · decide
      · rcases List.mem_cons.mp hc with rfl | hc
        · decide
        · rcases List.mem_cons.mp hc with rfl | hc
          · decide
          · exact (names.mem_rest hc).1
  have control : ∀ c ∈ s.chars, isControlOrSpace c = false := fun c hc => by
    simpa [isControlOrSpace] using visible c hc
  have lineEnd : ∀ c ∈ s.chars, (!isTabOrLineEnd c) = true := fun c hc => by
    have := visible c hc
    by_contra hline
    simp only [isTabOrLineEnd, Bool.not_eq_true', Bool.or_eq_false_iff, decide_eq_false_iff_not,
      not_and_or, not_not] at hline
    rcases hline with (rfl | rfl) | rfl <;> revert this <;> decide
  rw [Url.cleaned, dropWhile_of_forall control,
    dropWhile_of_forall fun c hc => control c (List.mem_reverse.mp hc), List.reverse_reverse,
    List.filter_eq_self.mpr lineEnd]

/-- What follows the scheme and its slashes is read as the host and the port. -/
theorem Names.afterSlashes (names : s.Names h) :
    afterSlashes (s.scheme.map Char.toLower) (s.host ++ s.portChars) = .ok (s.page h) := by
  obtain ⟨special, -⟩ := names.special
  have htake : ((s.host ++ s.portChars).takeWhile fun c => !endsAuthority true c) =
      s.host ++ s.portChars := by
    refine List.takeWhile_eq_self_iff.mpr fun c hc => ?_
    simp [endsAuthority, names.ne_of_mem_rest hc]
  have hat : lastAt? (s.host ++ s.portChars) = none := by
    have hdrop : (s.host ++ s.portChars).reverse.dropWhile (· ≠ '@') = [] := by
      refine List.dropWhile_eq_nil_iff.mpr fun c hc => ?_
      simp [names.ne_of_mem_rest (List.mem_reverse.mp hc)]
    simp only [lastAt?, hdrop]
  have hne : s.host.isEmpty = false := by simp [names.host.ne_nil]
  have hhost := names.host.hostText_append s.portChars_cases
  simp only [Url.afterSlashes, special, htake, List.drop_length, hat, hhost, hne, names.read, bind,
    Except.bind, if_true, Bool.false_eq_true, and_false, false_and, if_false]
  unfold page number? portChars
  cases hport : s.port with
  | none => rfl
  | some digits =>
    obtain ⟨decimal, small⟩ := names.port digits hport
    simp only [List.append_nil, port_of_digits _ decimal small]
    rfl

/-- The text of a site is read as its front page. -/
theorem Names.parse (names : s.Names h) : Url.parse s.text = .ok (s.page h) := by
  have slashes : ('/' :: '/' :: (s.host ++ s.portChars)).dropWhile (fun c => c = '/' || c = '\\') =
      s.host ++ s.portChars := by
    rw [List.dropWhile_cons_of_pos (by decide), List.dropWhile_cons_of_pos (by decide)]
    refine dropWhile_of_forall fun c hc => ?_
    simp [names.ne_of_mem_rest hc]
  obtain ⟨special, notFile, -⟩ := names.special
  rw [Url.parse, text, String.toList_ofList, ofChars, names.cleaned, chars,
    scheme?_append names.scheme_ne_nil names.letters]
  simp only [if_neg notFile, special, if_true, slashes, names.afterSlashes]

theorem Names.isWeb_page (names : s.Names h) : (s.page h).isWeb = true := by
  rw [isWeb, page, Bool.or_eq_true, decide_eq_true_eq, decide_eq_true_eq]
  exact names.web

theorem Names.origin_page (names : s.Names h) : (s.page h).origin = String.ofList
    (s.scheme.map Char.toLower ++
      ':' :: '/' :: '/' :: (h.chars ++ Authority.portChars s.number?)) := by
  obtain ⟨special, notFile, notBlob⟩ := names.special
  rw [origin, originChars, originOf.eq_def, page]
  simp only [if_neg notBlob, special, ne_eq, notFile, not_false_eq_true, decide_true, Bool.and_self,
    if_true, List.append_assoc]
  rfl

/-- The text of a site is its origin if and only if every part is written as origins are. -/
theorem Names.text_eq_origin (names : s.Names h) : s.text = (s.page h).origin ↔ s.IsNormal h := by
  rw [names.origin_page, text, String.ofList_inj, chars, IsNormal]
  constructor
  · intro heq
    obtain ⟨hscheme, hrest⟩ := List.append_inj heq (List.length_map _).symm
    simp only [List.cons.injEq, true_and] at hrest
    exact ⟨hscheme, hrest⟩
  · rintro ⟨hscheme, hrest⟩
    rw [hrest, ← hscheme]

/-- Slashes behind the text of a site are dropped, and nothing else. -/
theorem Names.trimEnd (names : s.Names h) (n : Nat) :
    Text.trimEnd '/' (s.text ++ String.ofList (List.replicate n '/')) = s.text := by
  refine Text.trimEnd_append_replicate (fun hlast => ?_) n
  have hne : s.host ++ s.portChars ≠ [] := by simp [names.host.ne_nil]
  have hrest : (s.host ++ s.portChars).getLast? = some '/' := by
    rwa [text, String.toList_ofList, chars, List.append_cons, List.append_cons, List.append_cons,
      List.getLast?_append_of_ne_nil _ hne] at hlast
  exact (names.ne_of_mem_rest (List.mem_of_getLast? hrest)).1 rfl

end
end Site
end SignOn.Url
