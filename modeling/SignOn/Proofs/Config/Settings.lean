import SignOn.Config.Basic
import SignOn.Proofs.Text.Blank
import SignOn.Text.Utf8.Lemmas

/-!
What the settings are read from. White space around a value makes no difference, and a value that
is blank or not UTF-8 is as good as none: every setting is the same when the variables are tidied
first. This holds of the deployment too, whose variable is read as it stands.
-/
namespace SignOn.Config

variable {vs ws : Variables} {name : String}

/-! ### Tidied variables -/

/-- A value without the white space around it; none if it is blank or not UTF-8. -/
def tidy? (bytes : List UInt8) : Option (List UInt8) :=
  match Text.Utf8.decode? bytes with
  | none => none
  | some s => if Text.isBlankText s then none else some (Text.Utf8.encode (Text.trim s))

/-- The variables with each value tidied. -/
def Variables.tidied (vs : Variables) : Variables := fun name => (vs name).bind tidy?

theorem setting?_tidy? (bytes : List UInt8) :
    (tidy? bytes).bind Variables.setting? = Variables.setting? bytes := by
  unfold tidy? Variables.setting?
  cases Text.Utf8.decode? bytes with
  | none => rfl
  | some s =>
    cases hblank : Text.isBlankText s with
    | true => simp [Text.trim_eq_empty, hblank]
    | false =>
      simp [Text.trim_eq_empty, Text.isBlankText_trim, hblank, Text.Utf8.decode?_encode,
        Text.trim_trim]

/-! ### Single settings -/

@[simp] theorem get?_tidied (vs : Variables) (name : String) :
    vs.tidied.get? name = vs.get? name := by
  unfold Variables.get? Variables.tidied
  cases vs name with
  | none => rfl
  | some bytes => exact setting?_tidy? bytes

@[simp] theorem getD_tidied (vs : Variables) (name default : String) :
    vs.tidied.getD name default = vs.getD name default := by
  rw [Variables.getD, Variables.getD, get?_tidied]

@[simp] theorem require_tidied (vs : Variables) (name : String) :
    vs.tidied.require name = vs.require name := by
  rw [Variables.require, Variables.require, get?_tidied]

@[simp] theorem readD_tidied {α : Type} (vs : Variables) (name : String)
    (read? : String → Option α) (default : α) :
    vs.tidied.readD name read? default = vs.readD name read? default := by
  rw [Variables.readD, Variables.readD, get?_tidied]

/-! ### Groups of settings -/

/-- A word names the same deployment with white space around it. -/
theorem Deployment.ofText_trim (s : String) : ofText (Text.trim s) = ofText s := by
  rw [ofText, ofText, Text.trim_trim]

/-- No word at all names production, as an unset variable does. -/
theorem Deployment.ofText_of_isBlankText {s : String} (h : Text.isBlankText s = true) :
    ofText s = production := by
  rw [← ofText_trim, Text.trim_eq_empty.mpr h]
  decide

/-- The variable of the deployment is not read as the others are, yet comes to the same. -/
theorem Deployment.ofVariables_eq (vs : Variables) :
    ofVariables vs = ((vs.get? "ENVIRONMENT").map ofText).getD production := by
  have hnone : ofText "production" = production := by decide
  unfold ofVariables Variables.get?
  cases vs "ENVIRONMENT" with
  | none => exact hnone
  | some bytes =>
    simp only [Option.bind_some, Variables.setting?]
    cases Text.Utf8.decode? bytes with
    | none => exact hnone
    | some s =>
      cases hblank : Text.isBlankText s with
      | true => simp [Text.trim_eq_empty, hblank, ofText_of_isBlankText hblank]
      | false => simp [Text.trim_eq_empty, hblank, ofText_trim]

theorem Deployment.ofVariables_tidied (vs : Variables) :
    ofVariables vs.tidied = ofVariables vs := by
  rw [ofVariables_eq, ofVariables_eq, get?_tidied]

theorem Storage.ofVariables_tidied (vs : Variables) :
    ofVariables vs.tidied = ofVariables vs := by
  simp only [ofVariables, get?_tidied, getD_tidied]

theorem Registration.ofVariables_tidied (vs : Variables) :
    ofVariables vs.tidied = ofVariables vs := by
  simp only [ofVariables, require_tidied, get?_tidied, getD_tidied, readD_tidied]

theorem Redirects.ofVariables_tidied (overflow : Overflow) (vs : Variables) :
    ofVariables overflow vs.tidied = ofVariables overflow vs := by
  simp only [ofVariables, minutes, get?_tidied, getD_tidied, readD_tidied]

theorem TokenKeys.ofVariables_tidied (vs : Variables) :
    ofVariables vs.tidied = ofVariables vs := by
  simp only [ofVariables, get?_tidied, getD_tidied]

theorem ofVariables_tidied (overflow : Overflow) (vs : Variables) :
    Config.ofVariables overflow vs.tidied = Config.ofVariables overflow vs := by
  simp only [Config.ofVariables, Deployment.ofVariables_tidied, Storage.ofVariables_tidied,
    Registration.ofVariables_tidied, Redirects.ofVariables_tidied, TokenKeys.ofVariables_tidied]

theorem Server.ofVariables_tidied (vs : Variables) :
    ofVariables vs.tidied = ofVariables vs := by
  simp only [ofVariables, getD_tidied, readD_tidied]

theorem RateLimit.ofVariables_tidied (vs : Variables) :
    ofVariables vs.tidied = ofVariables vs := by
  simp only [ofVariables, readD_tidied]

theorem corsOrigins_tidied (vs : Variables) : corsOrigins vs.tidied = corsOrigins vs := by
  simp only [corsOrigins, get?_tidied]

/-- Variables that are the same when tidied make the same settings, or fail with the same message,
or stop either build alike. -/
theorem settings_of_tidied (overflow : Overflow) (h : vs.tidied = ws.tidied) :
    Config.ofVariables overflow vs = Config.ofVariables overflow ws ∧
    Server.ofVariables vs = Server.ofVariables ws ∧
    RateLimit.ofVariables vs = RateLimit.ofVariables ws ∧
    corsOrigins vs = corsOrigins ws := by
  refine ⟨?_, ?_, ?_, ?_⟩
  · rw [← ofVariables_tidied, h, ofVariables_tidied]
  · rw [← Server.ofVariables_tidied, h, Server.ofVariables_tidied]
  · rw [← RateLimit.ofVariables_tidied, h, RateLimit.ofVariables_tidied]
  · rw [← corsOrigins_tidied, h, corsOrigins_tidied]

/-- Variables as they may be typed, and the same written plainly. -/
def typedSample : Variables :=
  .ofList [("ENVIRONMENT", Text.Utf8.encode " dev\n"), ("GITHUB_CLIENT_ID", [0xff]),
    ("PORT", Text.Utf8.encode "\t80")]

def plainSample : Variables :=
  .ofList [("ENVIRONMENT", Text.Utf8.encode "dev"), ("REDIS_URL", Text.Utf8.encode "  "),
    ("PORT", Text.Utf8.encode "80")]

theorem settings_of_tidied_sample : typedSample.tidied = plainSample.tidied ∧
    Config.ofVariables .stops typedSample =
      .error ⟨.configuration, "GITHUB_CLIENT_ID must be set"⟩ ∧
    Server.ofVariables typedSample = ⟨"0.0.0.0", 80⟩ := by
  have same : typedSample.tidied = plainSample.tidied := by
    funext name
    unfold Variables.tidied typedSample plainSample Variables.ofList
    by_cases henvironment : name = "ENVIRONMENT"
    · subst henvironment; decide +kernel
    by_cases hid : name = "GITHUB_CLIENT_ID"
    · subst hid; decide +kernel
    by_cases hport : name = "PORT"
    · subst hport; decide +kernel
    by_cases hcache : name = "REDIS_URL"
    · subst hcache; decide +kernel
    · simp only [List.lookup_cons, beq_eq_false_iff_ne.mpr henvironment,
        beq_eq_false_iff_ne.mpr hid, beq_eq_false_iff_ne.mpr hport, beq_eq_false_iff_ne.mpr hcache]
  obtain ⟨config, server, -⟩ := settings_of_tidied .stops same
  exact ⟨same, config.trans (by decide +kernel), server.trans (by decide +kernel)⟩

end SignOn.Config
