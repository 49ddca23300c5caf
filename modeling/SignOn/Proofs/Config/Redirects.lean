import SignOn.Config.Redirects
import SignOn.Proofs.Url.Site

/-!
Pages that people may be sent back to. A page is allowed by its origin, as origins are written; an
entry of the list counts as it is typed, but for the slashes at its end. So an entry opens the site
that it names if it is written as origins are, and else only if something besides it opens the site.
-/
namespace SignOn.Config.Redirects

open Url

variable {default u page : Url} {allowed : List String} {patience : Nat}

theorem allows_of : (Redirects.of default allowed patience).allows u = true ↔
    u.isWeb = true ∧ (u.origin ∈ allowed.map (Text.trimEnd '/') ∨ u.origin = default.origin) := by
  simp only [allows, Redirects.of, Bool.and_eq_true, List.contains_iff_mem]
  split
  next h =>
    have : u.origin = default.origin → u.origin ∈ allowed.map (Text.trimEnd '/') := fun hu => hu ▸ h
    tauto
  next h => simp

/-- The default page, or the page that a text is the address of, if it is allowed. -/
theorem resolve_cases (r : Redirects) (referrer : Option String) :
    r.resolve referrer = r.default ∨ ∃ text, referrer = some text ∧
      Url.parse? (Text.trim text) = some (r.resolve referrer) ∧
      r.allows (r.resolve referrer) = true := by
  unfold resolve
  cases h : referrer.bind fun s => Url.parse? (Text.trim s) with
  | none => exact .inl rfl
  | some u =>
    obtain ⟨text, rfl, hu⟩ := Option.bind_eq_some_iff.mp h
    cases ha : r.allows u with
    | true => exact .inr ⟨text, rfl, by simpa [ha] using hu, by simp [ha]⟩
    | false => exact .inl (by simp [ha])

/-- A site is open as a whole, or no page of it is. -/
theorem opens_iff (web : page.isWeb = true) :
    (∀ u, u.isWeb = true → u.origin = page.origin →
        (Redirects.of default allowed patience).allows u = true) ↔
      (∃ entry ∈ allowed, Text.trimEnd '/' entry = page.origin) ∨ default.origin = page.origin := by
  constructor
  · intro opened
    rcases (allows_of.mp (opened page web rfl)).2 with listed | own
    · exact .inl (List.mem_map.mp listed)
    · exact .inr own.symm
  · rintro (listed | own) u hweb horigin
    · exact allows_of.mpr ⟨hweb, .inl (horigin ▸ List.mem_map.mpr listed)⟩
    · exact allows_of.mpr ⟨hweb, .inr (horigin.trans own.symm)⟩

/-- An entry of the form `scheme://host[:port]`, with any number of slashes behind it, names a site
of the web. All pages of that site are allowed if and only if the entry is written as origins are, or
another entry is the site's origin, or the default page is one of the site's. -/
theorem opened_iff_written {s : Site} {h : Host} (names : s.Names h) {slashes : Nat}
    (listed : s.text ++ String.ofList (List.replicate slashes '/') ∈ allowed) :
    Url.parse s.text = .ok (s.page h) ∧
    ((∀ u, u.isWeb = true → u.origin = (s.page h).origin →
        (Redirects.of default allowed patience).allows u = true) ↔
      s.IsNormal h ∨
      (∃ entry ∈ allowed, Text.trimEnd '/' entry ≠ s.text ∧
        Text.trimEnd '/' entry = (s.page h).origin) ∨
      default.origin = (s.page h).origin) := by
  refine ⟨names.parse, (opens_iff names.isWeb_page).trans ?_⟩
  rw [← names.text_eq_origin]
  constructor
  · rintro (⟨entry, hentry, horigin⟩ | own)
    · by_cases hsame : Text.trimEnd '/' entry = s.text
      · exact .inl (hsame.symm.trans horigin)
      · exact .inr (.inl ⟨entry, hentry, hsame, horigin⟩)
    · exact .inr (.inr own)
  · rintro (written | ⟨entry, hentry, -, horigin⟩ | own)
    · exact .inl ⟨_, listed, (names.trimEnd slashes).trans written⟩
    · exact .inl ⟨entry, hentry, horigin⟩
    · exact .inr own

/-- A page of the machine itself. -/
def sampleLocal (port : Option Nat) (path : String) : Url :=
  ⟨"http".toList, some ⟨[], none, .ipv6 [0, 0, 0, 0, 0, 0, 0, 1], port⟩, path.toList, none, none⟩

/-- The machine itself, by a port. -/
def sampleSite (port : String) : Site := ⟨"http".toList, "[::1]".toList, some port.toList⟩

set_option maxRecDepth 100000 in
theorem opened_iff_written_sample :
    (Redirects.of (sampleLocal none "/") ["http://[::1]:3000//"] 600).allows
      (sampleLocal (some 3000) "/a") = true := by
  have names : (sampleSite "3000").Names (.ipv6 [0, 0, 0, 0, 0, 0, 0, 1]) := by
    have host : (sampleSite "3000").host = ['[', ':', ':', '1', ']'] := by decide
    refine ⟨.inl (by decide), ?_, by simp [host], by decide +kernel, fun digits hdigits => ?_⟩
    · exact @IsHostText.bracketed [':', ':', '1'] (by simp)
    · obtain rfl : ['3', '0', '0', '0'] = digits := Option.some.inj hdigits
      exact ⟨by simp, by decide⟩
  have normal : (sampleSite "3000").IsNormal (.ipv6 [0, 0, 0, 0, 0, 0, 0, 1]) :=
    ⟨by decide, by decide +kernel⟩
  have listed : (sampleSite "3000").text ++ String.ofList (List.replicate 2 '/') ∈
      ["http://[::1]:3000//"] := by decide +kernel
  exact (opened_iff_written names listed).2.mpr (.inl normal) _ (by decide) (by decide +kernel)

set_option maxRecDepth 100000 in
/-- The port that a scheme implies is no part of an origin, so an entry that writes it opens no page
of its own site. -/
theorem defaultPort_opens_nothing :
    Url.parse "http://[::1]:80" = .ok (sampleLocal none "/") ∧
    (sampleLocal none "/").isWeb = true ∧ (sampleLocal none "/").origin = "http://[::1]" ∧
    (Redirects.of (sampleLocal (some 3000) "/") ["http://[::1]:80"] 600).allows
      (sampleLocal none "/") = false := by
  decide +kernel

end SignOn.Config.Redirects
