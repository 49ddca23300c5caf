import SignOn.Proofs.Login.Course
import SignOn.Proofs.Token.Subject
import SignOn.Start

/-!
How long tokens can be set to live. Any positive word of 64 bits is taken for a number of hours, but
the seconds that it makes have to fit a duration when the service starts, and the end of a token has
to have a date when the token is issued.
-/
namespace SignOn.Service

open Login Token

/-- The first second of the year 10000. -/
def year10000 : Int := 253402300800

example : (Timestamp.ofMoment (.ofSeconds (year10000 - 1))).text = "9999-12-31T23:59:59Z" := by
  decide +kernel

section
variable {keys : Config.TokenKeys} {pair : KeyFiles.Pair} {base m : Manager} {h : Int}

theorem lifetime?_of_hours (set : keys.hours = some h) : keys.lifetime? =
    if h * 3600 ≤ Config.TokenKeys.maxSeconds then some (some (h * 3600)) else none := by
  simp only [Config.TokenKeys.lifetime?, set]

theorem privateKey_of (matching : Manager.of pair.publicKey pair.privateKey = .ok base) :
    base.privateKey = pair.privateKey := by
  unfold Manager.of at matching
  split at matching
  next => cases matching
  next =>
    split at matching
    next => cases matching
    next => rw [← Except.ok.inj matching]

theorem manager_of_hours (matching : Manager.of pair.publicKey pair.privateKey = .ok base)
    (set : keys.hours = some h) : manager keys pair =
      .ok (if h * 3600 ≤ Config.TokenKeys.maxSeconds then
        some { base with keyId := keys.keyId, lifetime := some (h * 3600) } else none) := by
  simp only [manager, matching, lifetime?_of_hours set, bind, Except.bind]
  split <;> rfl

end

theorem hours_pos {vs : Config.Variables} {h : Int}
    (set : (Config.TokenKeys.ofVariables vs).hours = some h) : 0 < h := by
  simp only [Config.TokenKeys.ofVariables, Option.bind_eq_bind, Option.bind_eq_some_iff] at set
  obtain ⟨s, -, h', -, hpos⟩ := set
  split at hpos
  next hp => rwa [← Option.some.inj hpos]
  next => cases hpos

theorem canDate_of_lifetime {m : Manager} {l : Int} {now : Moment} (hl : m.lifetime = some l)
    (clock : 0 ≤ now.seconds) (pos : 0 < l) :
    m.CanDate now ↔ now.seconds + l ≤ Manager.lastSecond := by
  simp only [Manager.CanDate, hl, Manager.firstSecond]
  omega

/-- A token is issued for the time that is told. -/
theorem run_issue (s : Service) (i : Identity) {σ : Type}
    (answer : (c : Call) → σ → c.Answer × σ) (x : σ) :
    ((s.issue i).run answer x).1 = s.issued i (answer .now x).1 := by
  have now : (ask .now).run answer x = answer .now x := rfl
  rw [issue, Routine.run_bind, now, issued]
  split
  next =>
    cases s.tokens.generate i (answer .now x).1 <;> rfl
  next => rfl

/-! ### Issuing -/

/-- Tokens are issued for the hours that are set, as long as those end at a second that has a date;
for some 250,000 years that is so whenever it is asked before the year 10000. Past it there is no
service, if the hours do not make a duration, and else a sign-on that ends without a token. -/
theorem issues_while_end_dated {vs : Config.Variables} {h : Int} {pair : KeyFiles.Pair}
    {base : Manager} {now : Moment} (set : (Config.TokenKeys.ofVariables vs).hours = some h)
    (matching : Manager.of pair.publicKey pair.privateKey = .ok base)
    (canSign : pair.privateKey.CanSign) (clock : 0 ≤ now.seconds ∧ now.seconds < year10000) :
    (manager (.ofVariables vs) pair = .ok none ↔ Config.TokenKeys.maxSeconds < h * 3600) ∧
    (h ≤ 2210240160 → now.seconds + h * 3600 ≤ Manager.lastSecond) ∧
    (now.seconds + h * 3600 ≤ Manager.lastSecond →
      (Config.TokenKeys.ofVariables vs).lifetime? = some (some (h * 3600)) ∧
      ∃ m, manager (.ofVariables vs) pair = .ok (some m)) ∧
    ∀ s : Service, manager (.ofVariables vs) pair = .ok (some s.tokens) →
      s.tokens.lifetime = some (h * 3600) ∧
      ∀ (σ : Type) (answer : (c : Call) → σ → c.Answer × σ) (x : σ), (answer .now x).1 = now →
        ∀ i : Identity,
          (now.seconds + h * 3600 ≤ Manager.lastSecond → ∃ token claims,
            ((s.issue i).run answer x).1 = .token token ∧
            s.tokens.generate i now = .ok token ∧ Manager.written? token = some claims ∧
            claims.claim? "iat" = some (.int now.seconds) ∧
            claims.claim? "exp" = some (.int (now.seconds + h * 3600))) ∧
          (Manager.lastSecond < now.seconds + h * 3600 →
            ((s.issue i).run answer x).1 = .undated) := by
  have pos := hours_pos set
  have hmanager := manager_of_hours matching set
  have hlast : Manager.lastSecond = 8210266876799 := rfl
  have hmax : Config.TokenKeys.maxSeconds = 9223372036854775 := by decide
  have hyears : year10000 = 253402300800 := rfl
  refine ⟨?_, fun hsmall => by omega, fun hend => ?_, fun s started => ?_⟩
  · rw [hmanager]
    split <;> simp <;> omega
  · have hfits : h * 3600 ≤ Config.TokenKeys.maxSeconds := by omega
    rw [lifetime?_of_hours set, hmanager, if_pos hfits]
    simp [hfits]
  · have hbase := privateKey_of matching
    have htokens : s.tokens.lifetime = some (h * 3600) ∧ s.tokens.privateKey = pair.privateKey := by
      rw [hmanager] at started
      split at started
      next =>
        rw [← Option.some.inj (Except.ok.inj started)]
        exact ⟨rfl, hbase⟩
      next => cases started
    obtain ⟨hl, hkey⟩ := htokens
    refine ⟨hl, fun σ answer x hnow i => ?_⟩
    have hdate := canDate_of_lifetime hl clock.1 (by omega)
    rw [run_issue, hnow, issued]
    refine ⟨fun hend => ?_, fun hend => if_neg (by rw [hdate]; omega)⟩
    have dated : s.tokens.Dated now :=
      ⟨by simp only [Manager.firstSecond]; omega, hdate.mpr hend⟩
    obtain ⟨token, hg⟩ := Manager.generate_iff.mpr (hkey ▸ canSign)
    refine ⟨token, _, ?_, hg, Manager.written?_generate dated hg, rfl, Manager.claim?_exp hl⟩
    rw [if_pos dated.ends, hg]

/-- Settings of nothing but the hours that tokens live. -/
def hoursSetting (s : String) : Config.Variables :=
  .ofList [("JWT_EXPIRATION_HOURS", Text.Utf8.encode s)]

def samplePair : KeyFiles.Pair := ⟨sampleKey.publicKey, sampleKey⟩

theorem matching_sample : Manager.of samplePair.publicKey samplePair.privateKey =
    .ok ⟨sampleKey, Manager.defaultKeyId, none⟩ := by
  obtain ⟨c, hc⟩ := Option.isSome_iff_exists.mp
    (show sampleKey.coefficient?.isSome = true by decide +kernel)
  simp only [Manager.of, samplePair, ne_eq, not_true_eq_false, if_false, hc]

theorem issues_while_end_dated_sample : ∃ m token claims,
    manager (.ofVariables (hoursSetting "24")) samplePair = .ok (some m) ∧
      m.generate (candidate sampleProfile [] .nil) (.ofSeconds 60) = .ok token ∧
      Manager.written? token = some claims ∧ claims.claim? "exp" = some (.int 86460) := by
  have set : (Config.TokenKeys.ofVariables (hoursSetting "24")).hours = some 24 := by
    decide +kernel
  have clock : 0 ≤ (Moment.ofSeconds 60).seconds ∧ (Moment.ofSeconds 60).seconds < year10000 := by
    decide
  obtain ⟨-, early, starts, issues⟩ :=
    issues_while_end_dated set matching_sample sampleKey_canSign clock
  have hend := early (by decide)
  obtain ⟨-, m, hm⟩ := starts hend
  obtain ⟨-, issues⟩ := issues ⟨sample.registration, sample.redirects, m⟩ hm
  obtain ⟨token, claims, -, hg, hwritten, -, hexp⟩ :=
    (issues _ (Store.Memory.answer sampleSurroundings) .empty rfl _).1 hend
  exact ⟨m, token, claims, hm, hg, hwritten, hexp⟩

/-- Hours that are taken although no token can end after them, and hours that are taken although no
service starts with them. -/
theorem hours_without_end :
    ((Config.TokenKeys.ofVariables (hoursSetting "2500000000")).hours = some 2500000000 ∧
      ∃ m, manager (.ofVariables (hoursSetting "2500000000")) samplePair = .ok (some m) ∧
        m.privateKey.CanSign ∧ ∀ now : Moment, 0 ≤ now.seconds → ¬ m.CanDate now) ∧
    (Config.TokenKeys.ofVariables (hoursSetting "9223372036854775807")).hours =
        some 9223372036854775807 ∧
      (Config.TokenKeys.ofVariables (hoursSetting "9223372036854775807")).lifetime? = none := by
  have set : (Config.TokenKeys.ofVariables (hoursSetting "2500000000")).hours =
      some 2500000000 := by
    decide +kernel
  have set' : (Config.TokenKeys.ofVariables (hoursSetting "9223372036854775807")).hours =
      some 9223372036854775807 := by
    decide +kernel
  refine ⟨⟨set, _, manager_of_hours matching_sample set, sampleKey_canSign, fun now clock => ?_⟩,
    set', lifetime?_of_hours set'⟩
  rw [canDate_of_lifetime rfl clock (by decide), Manager.lastSecond]
  omega

end SignOn.Service
