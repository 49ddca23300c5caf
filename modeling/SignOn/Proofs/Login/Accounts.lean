import SignOn.Proofs.Store.Accounts
import SignOn.Proofs.Token.Subject
import SignOn.Proofs.Visits
import SignOn.Store.Memory

/-!
One identity for each account. However many people sign on at the same time, and whichever calls to
the stores fail, an account gets one identity and one user, these stay as they are, and every token
for the account speaks of that identity. An identifier that was drawn is held by one visit until it
is put into a record, so every record that is stored stands under a new one.
-/
namespace SignOn

open Login Store Token

/-- The records of accounts that are kept in memory. -/
structure Accounts where
  identities : Identities
  users : Users

namespace Accounts

def empty : Accounts := ⟨.empty, .empty⟩

/-- The identifiers of all records. -/
def ids (x : Accounts) : List Uuid :=
  x.identities.rows.map (·.id) ++ x.users.rows.map (·.id)

end Accounts

def Store.Memory.accounts (m : Memory) : Accounts := ⟨m.identities, m.users⟩

/-- A call to the stores is answered at one moment or fails without effect. A clock tells moments
that have a date; all else may be answered in any way. -/
def MayFail : Rule services Accounts
  | _, .now, m, x, x' =>
    (Manager.firstSecond ≤ Moment.seconds m ∧ Moment.seconds m ≤ Manager.lastSecond) ∧ x' = x
  | _, .findIdentity a, r, x, x' => (r = .ok (x.identities.find a) ∨ ∃ e, r = .error e) ∧ x' = x
  | _, .createIdentity i, r, x, x' =>
    (r = .ok (x.identities.create i).1 ∧ x' = ⟨(x.identities.create i).2, x.users⟩) ∨
      (∃ e, r = .error e) ∧ x' = x
  | _, .createUser u, r, x, x' =>
    (r = .ok (x.users.create u).1 ∧ x' = ⟨x.identities, (x.users.create u).2⟩) ∨
      (∃ e, r = .error e) ∧ x' = x
  | _, _, _, x, x' => x' = x

/-- The stores in memory answer so, by a clock that tells moments with a date. -/
theorem mayFail_answer {x : Surroundings}
    (h : Manager.firstSecond ≤ x.now.seconds ∧ x.now.seconds ≤ Manager.lastSecond) (c : Call)
    (m : Memory) : MayFail x.now c (m.answer x c).1 m.accounts (m.answer x c).2.accounts := by
  cases c with
  | now => exact ⟨h, rfl⟩
  | findIdentity a => exact ⟨.inl rfl, rfl⟩
  | createIdentity i => exact .inl ⟨rfl, rfl⟩
  | createUser u => exact .inl ⟨rfl, rfl⟩
  | _ => exact rfl

/-- The identifier of the record that a call stores. -/
def newId? : Call → Option Uuid
  | .createIdentity i => some i.id
  | .createUser u => some u.id
  | _ => none

variable {ι : Type}

def drawnId? : Event services ι → Option Uuid
  | ⟨_, _, .drawId, id⟩ => some id
  | _ => none

/-! ### What one answer does -/

/-- Records stay as they are, but for one that is new with its identifier and its account. -/
inductive Grows : Call → Accounts → Accounts → Prop
  | same {c : Call} {x : Accounts} : Grows c x x
  | identity {x : Accounts} {i : Identity} (hid : i.id ∉ x.ids)
      (haccount : i.external ∉ x.identities.rows.map (·.external)) :
      Grows (.createIdentity i) x ⟨⟨x.identities.rows ++ [i]⟩, x.users⟩
  | user {x : Accounts} {u : User} (hid : u.id ∉ x.ids)
      (haccount : u.account ∉ x.users.rows.map User.account) :
      Grows (.createUser u) x ⟨x.identities, ⟨x.users.rows ++ [u]⟩⟩

section
variable {t : Moment} {c : Call} {a : c.Answer} {x x' : Accounts}

/-- A call leaves the stores as they are, or it stores what it brought. -/
theorem stores_of_answer (answered : MayFail t c a x x') : x' = x ∨
    (∃ i, c = .createIdentity i ∧ x' = ⟨(x.identities.create i).2, x.users⟩) ∨
      ∃ u, c = .createUser u ∧ x' = ⟨x.identities, (x.users.create u).2⟩ := by
  cases c with
  | createIdentity i =>
    rcases answered with ⟨-, hx⟩ | ⟨-, hx⟩
    · exact .inr (.inl ⟨i, rfl, hx⟩)
    · exact .inl hx
  | createUser u =>
    rcases answered with ⟨-, hx⟩ | ⟨-, hx⟩
    · exact .inr (.inr ⟨u, rfl, hx⟩)
    · exact .inl hx
  | now | findIdentity => exact .inl answered.2
  | _ => exact .inl answered

theorem grows_of_answer (answered : MayFail t c a x x')
    (hid : ∀ id, newId? c = some id → id ∉ x.ids)
    (haccount : ∀ i, c = .createIdentity i → ∃ a, i.external = some a) : Grows c x x' := by
  rcases stores_of_answer answered with rfl | ⟨i, rfl, rfl⟩ | ⟨u, rfl, rfl⟩
  · exact .same
  · obtain ⟨a, ha⟩ := haccount i rfl
    have hi := hid i.id rfl
    rcases Identities.create_cases ha fun h => hi (List.mem_append_left _ h) with
      ⟨j, -, hcreate⟩ | ⟨hnone, hcreate⟩
    · rw [hcreate]
      exact .same
    · rw [hcreate]
      exact .identity hi (ha ▸ Identities.find_eq_none.mp hnone)
  · have hu := hid u.id rfl
    rcases Users.create_cases fun h => hu (List.mem_append_right _ h) with
      ⟨v, -, -, hcreate⟩ | ⟨hnone, hcreate⟩
    · rw [hcreate]
      exact .same
    · rw [hcreate]
      exact .user hu hnone

theorem found_of_answer {b : Account} {i : Identity}
    (answered : MayFail t (.findIdentity b) (.ok (some i)) x x') :
    i ∈ x'.identities.rows ∧ i.external = some b := by
  obtain ⟨h | ⟨e, h⟩, rfl⟩ := answered
  · exact Identities.find_eq_some (Except.ok.inj h).symm
  · cases h

theorem created_of_answer {b : Account} {i j : Identity}
    (answered : MayFail t (.createIdentity j) (.ok i) x x') (hid : j.id ∉ x.ids)
    (hb : j.external = some b) : i ∈ x'.identities.rows ∧ i.external = some b := by
  rcases answered with ⟨h, rfl⟩ | ⟨⟨e, h⟩, -⟩
  · obtain rfl := Except.ok.inj h
    rcases Identities.create_cases hb fun h => hid (List.mem_append_left _ h) with
      ⟨i, hi, hcreate⟩ | ⟨-, hcreate⟩
    · rw [hcreate]
      exact Identities.find_eq_some hi
    · rw [hcreate]
      exact ⟨List.mem_append_right _ List.mem_cons_self, hb⟩
  · cases h

theorem Grows.identities_prefix (h : Grows c x x') : x.identities.rows <+: x'.identities.rows := by
  cases h with
  | same => exact List.prefix_rfl
  | identity => exact List.prefix_append ..
  | user => exact List.prefix_rfl

theorem Grows.users_prefix (h : Grows c x x') : x.users.rows <+: x'.users.rows := by
  cases h with
  | same => exact List.prefix_rfl
  | identity => exact List.prefix_rfl
  | user => exact List.prefix_append ..

theorem Grows.mem_ids (h : Grows c x x') {id : Uuid} (hid : id ∈ x'.ids) :
    id ∈ x.ids ∨ newId? c = some id := by
  cases h with
  | same => exact .inl hid
  | identity =>
    simp only [Accounts.ids, List.map_append, List.mem_append, List.map_cons, List.map_nil,
      List.mem_singleton] at hid ⊢
    rcases hid with (hid | rfl) | hid
    · exact .inl (.inl hid)
    · exact .inr rfl
    · exact .inl (.inr hid)
  | user =>
    simp only [Accounts.ids, List.map_append, List.mem_append, List.map_cons, List.map_nil,
      List.mem_singleton] at hid ⊢
    rcases hid with hid | hid | rfl
    · exact .inl (.inl hid)
    · exact .inl (.inr hid)
    · exact .inr rfl

end

/-! ### Who holds which identifier -/

/-- Records stand under identifiers that were drawn, and what a visit still holds is none of them. -/
structure Ledger [DecidableEq ι] (es : List (Event services ι)) (x : Accounts) : Prop where
  drawn : x.ids ⊆ es.filterMap drawnId?
  held : ∀ k id, Service.held (history k es) = some id →
    (∃ t, ⟨k, t, .drawId, id⟩ ∈ es) ∧ id ∉ x.ids

section
variable {es : List (Event services ι)} {x x' : Accounts} {k : ι} {t : Moment} {c : Call}
  {a : c.Answer}

theorem mem_drawn {id : Uuid} (h : ⟨k, t, .drawId, id⟩ ∈ es) :
    id ∈ es.filterMap drawnId? := List.mem_filterMap.mpr ⟨_, h, rfl⟩

/-- What a visit holds after an event of its own: what it drew, or what it held before if it has not
stored it. -/
theorem hold_eq_some {held : Option Uuid} {id : Uuid}
    (h : Service.hold held (⟨k, t, c, a⟩ : Event services ι) = some id) :
    (∃ d : Uuid, (⟨k, t, c, a⟩ : Event services ι) = ⟨k, t, .drawId, d⟩ ∧ d = id) ∨
      newId? c = none ∧ held = some id := by
  cases c with
  | drawId => exact .inl ⟨a, rfl, Option.some.inj h⟩
  | createIdentity i => cases h
  | createUser u => cases h
  | _ => exact .inr ⟨rfl, h⟩

theorem Ledger.step [DecidableEq ι] (h : Ledger es x) (grows : Grows c x x')
    (drawn : (List.filterMap drawnId? (es ++ [⟨k, t, c, a⟩])).Nodup)
    (hid : ∀ id, newId? c = some id → Service.held (history k es) = some id) :
    Ledger (es ++ [⟨k, t, c, a⟩]) x' where
  drawn := by
    intro id hm
    rw [List.filterMap_append]
    refine List.mem_append_left _ ?_
    rcases grows.mem_ids hm with hm | hnew
    · exact h.drawn hm
    · obtain ⟨⟨t', hd⟩, -⟩ := h.held k id (hid id hnew)
      exact mem_drawn hd
  held j id hj := by
    -- what is still held is no new record: its identifier would have been drawn twice, or stored
    have old (hj : Service.held (history j es) = some id) (hjk : j = k → newId? c = none) :
        (∃ t', ⟨j, t', .drawId, id⟩ ∈ es ++ [⟨k, t, c, a⟩]) ∧ id ∉ x'.ids := by
      obtain ⟨⟨t', hd⟩, hnot⟩ := h.held j id hj
      refine ⟨⟨t', List.mem_append_left _ hd⟩, fun hm => ?_⟩
      rcases grows.mem_ids hm with hm | hnew
      · exact hnot hm
      · obtain ⟨⟨t'', hd'⟩, -⟩ := h.held k id (hid id hnew)
        have heq := congrArg Event.who (eq_of_drew (nodup_left drawn) hd hd' rfl rfl)
        rw [hjk heq] at hnew
        cases hnew
    rw [history_append, history_singleton] at hj
    by_cases hk : k = j
    · subst hk
      rw [if_pos rfl, Service.held_concat] at hj
      rcases hold_eq_some hj with ⟨d, he, rfl⟩ | ⟨hnone, hj⟩
      · refine ⟨⟨t, by rw [he]; exact List.mem_append_right _ List.mem_cons_self⟩, fun hm => ?_⟩
        rw [he, List.filterMap_append] at drawn
        have hfresh := (List.nodup_append.mp drawn).2.2
        rcases grows.mem_ids hm with hm | hnew
        · exact hfresh d (h.drawn hm) d List.mem_cons_self rfl
        · injection he with _ _ hc
          rw [hc] at hnew
          cases hnew
      · exact old hj fun _ => hnone
    · rw [if_neg hk, List.append_nil] at hj
      exact old hj fun heq => absurd heq.symm hk

end

/-! ### What holds of the records -/

/-- Accounts have one identity and one user, users belong to the identities of their accounts, and
what a visit resolved is stored. -/
structure Sound [DecidableEq ι] (es : List (Event services ι)) (x : Accounts) : Prop where
  ledger : Ledger es x
  resolved : ∀ k p i, Service.Resolved k es p i →
    i ∈ x.identities.rows ∧ i.external = some p.account
  identities : (x.identities.rows.map (·.external)).Nodup
  ids : (x.identities.rows.map (·.id)).Nodup
  users : (x.users.rows.map User.account).Nodup
  owners : ∀ u ∈ x.users.rows, ∃ i ∈ x.identities.rows, i.id = u.identityId ∧
    i.external = some u.account

namespace Service

variable {s : Service} {v : Visit} {k : ι} {h : List (Event services ι)} {c : Call}

theorem held_of_asks (asks : s.visitAsks k v h c) {id : Uuid} (hid : newId? c = some id) :
    held h = some id := by
  cases v with
  | authorize referrer =>
    cases c with
    | createIdentity i => exact False.elim asks
    | createUser u => exact False.elim asks
    | _ => cases hid
  | callback q =>
    cases c with
    | createIdentity i => exact hid ▸ asks.1
    | createUser u => exact hid ▸ asks.1
    | _ => cases hid

theorem account_of_asks {i : Identity} (asks : s.visitAsks k v h (.createIdentity i)) :
    ∃ a, i.external = some a := by
  cases v with
  | authorize referrer => exact asks.elim
  | callback q =>
    obtain ⟨-, p, -, hp⟩ := asks
    exact ⟨p.account, hp⟩

theorem owner_of_asks {u : User} (asks : s.visitAsks k v h (.createUser u)) :
    ∃ p i, Resolved k h p i ∧ u.identityId = i.id ∧ u.account = p.account := by
  cases v with
  | authorize referrer => exact asks.elim
  | callback q =>
    obtain ⟨-, p, i, -, hi, hid, hprovider, hexternal⟩ := asks
    exact ⟨p, i, hi, hid, by rw [User.account, hprovider, hexternal]⟩

end Service

namespace Sound

variable [DecidableEq ι] {es : List (Event services ι)} {x x' : Accounts} {k : ι} {t : Moment}
  {c : Call} {a : c.Answer} {s : Service} {v : Visit}

theorem empty : Sound ([] : List (Event services ι)) .empty where
  ledger := ⟨by simp [Accounts.ids, Accounts.empty, Identities.empty, Users.empty],
    fun k id h => by cases h⟩
  resolved := by simp [Service.Resolved]
  identities := List.nodup_nil
  ids := List.nodup_nil
  users := List.nodup_nil
  owners := by simp [Accounts.empty, Users.empty]

theorem grows (h : Sound es x) (asks : s.visitAsks k v (history k es) c)
    (answered : MayFail t c a x x') : Grows c x x' :=
  grows_of_answer answered
    (fun id hnew => (h.ledger.held k id (Service.held_of_asks asks hnew)).2)
    fun _ hc => Service.account_of_asks (hc ▸ asks)

theorem step (h : Sound es x) (asks : s.visitAsks k v (history k es) c)
    (answered : MayFail t c a x x')
    (drawn : (List.filterMap drawnId? (es ++ [⟨k, t, c, a⟩])).Nodup) :
    Sound (es ++ [⟨k, t, c, a⟩]) x' := by
  have grows := h.grows asks answered
  have resolved : ∀ k' p i, Service.Resolved k' (es ++ [⟨k, t, c, a⟩]) p i →
      i ∈ x'.identities.rows ∧ i.external = some p.account := by
    intro k' p i hi
    rcases hi.concat with hi | ⟨t', he⟩ | ⟨t', j, hj, he⟩
    · exact (h.resolved k' p i hi).imp_left (grows.identities_prefix.subset ·)
    · cases he
      exact found_of_answer answered
    · cases he
      have hid := (h.ledger.held k j.id (Service.held_of_asks asks rfl)).2
      exact created_of_answer answered hid hj
  have ledger := h.ledger.step grows drawn fun id hnew => Service.held_of_asks asks hnew
  cases grows with
  | same => exact ⟨ledger, resolved, h.identities, h.ids, h.users, h.owners⟩
  | @identity x i hnew haccount =>
    have hnew : i.id ∉ x.identities.rows.map (·.id) := fun hm => hnew (List.mem_append_left _ hm)
    refine ⟨ledger, resolved, ?_, ?_, h.users, fun u hu => ?_⟩
    · rw [List.map_append]
      exact h.identities.append (List.nodup_singleton _) (List.disjoint_singleton.mpr haccount)
    · rw [List.map_append]
      exact h.ids.append (List.nodup_singleton _) (List.disjoint_singleton.mpr hnew)
    · obtain ⟨i, hi, howner⟩ := h.owners u hu
      exact ⟨i, List.mem_append_left _ hi, howner⟩
  | @user x u hnew haccount =>
    refine ⟨ledger, resolved, h.identities, h.ids, ?_, fun w hw => ?_⟩
    · rw [List.map_append]
      exact h.users.append (List.nodup_singleton _) (List.disjoint_singleton.mpr haccount)
    · rcases List.mem_append.mp hw with hw | hw
      · exact h.owners w hw
      · obtain rfl := List.mem_singleton.mp hw
        obtain ⟨p, i, hi, hid, hp⟩ := Service.owner_of_asks asks
        obtain ⟨hrow, hexternal⟩ := h.resolved k p i (hi.mono (List.filter_subset_self _))
        exact ⟨i, hrow, hid.symm, hp ▸ hexternal⟩

end Sound

/-! ### Runs -/

/-- The token in the address that a visit ends at. -/
def Login.Outcome.token? (o : Outcome) : Option String :=
  o.location?.bind fun u => u.queryPairs.lookup "token"

@[simp] theorem token?_ofEnding {page : Url} {e : Ending} {token : String} :
    (Outcome.ofEnding page e).token? = some token ↔ e = .token token := by
  have hnone : (page.queryPairs.filter fun p => !Url.isOutcome p.1).lookup "token" = none := by
    rw [List.lookup_eq_none_iff]
    intro p hp
    rw [bne_iff_ne]
    intro hname
    have hkept := (List.mem_filter.mp hp).2
    rw [← hname] at hkept
    cases hkept
  cases e with
  | token text =>
    simp only [Outcome.ofEnding, Outcome.token?, Outcome.location?, Option.bind_some,
      Url.queryPairs_withOutcome, List.lookup_append, hnone, Ending.token.injEq]
    exact Option.some_inj
  | failure f =>
    simp only [Outcome.ofEnding, Outcome.token?, Outcome.location?, Option.bind_some,
      Url.queryPairs_withOutcome, List.lookup_append, hnone]
    refine ⟨fun h => ?_, fun h => ?_⟩ <;> cases h
  | undated => refine ⟨fun h => ?_, fun h => ?_⟩ <;> cases h

theorem account_inj {p p' : GitHub.Profile} : p.account = p'.account ↔ p.id = p'.id := by
  refine ⟨fun h => ?_, fun h => by rw [GitHub.Profile.account, GitHub.Profile.externalId, h]; rfl⟩
  have hdigits := String.ofList_injective (congrArg Account.externalId h)
  have := congrArg (fun cs => Nat.ofDigitChars 10 cs 0) hdigits
  simpa using this

namespace Service

variable [DecidableEq ι] {s : Service} {visits : ι → Visit} {es es' : List (Event services ι)}
  {now mid : ι → Routine services Outcome} {x x' : Accounts}

theorem sound_of_run (run : Run MayFail (fun k => s.visit (visits k)) .empty es now x)
    (drawn : (es.filterMap drawnId?).Nodup) : Sound es x := by
  induction run with
  | nothing => exact .empty
  | @step es now x x' k t c next a before asks answered ih =>
    have ih := ih (nodup_left drawn)
    exact ih.step (before.allowed (fun k => s.visit_obeys k (visits k)) asks) answered drawn

/-- Whatever is stored stays as it is and in its place. -/
theorem prefix_of_run (run : Run MayFail (fun k => s.visit (visits k)) .empty es mid x)
    (later : Run MayFail mid x es' now x') (drawn : ((es ++ es').filterMap drawnId?).Nodup) :
    x.identities.rows <+: x'.identities.rows ∧ x.users.rows <+: x'.users.rows := by
  induction later with
  | nothing => exact ⟨List.prefix_rfl, List.prefix_rfl⟩
  | @step es' now x₁ x' k t c next a before asks answered ih =>
    rw [← List.append_assoc] at drawn
    have hdrawn := nodup_left drawn
    have whole := run.trans before
    have grows := (sound_of_run whole hdrawn).grows
      (whole.allowed (fun k => s.visit_obeys k (visits k)) asks) answered
    obtain ⟨hidentities, husers⟩ := ih hdrawn
    exact ⟨hidentities.trans grows.identities_prefix, husers.trans grows.users_prefix⟩

/-- A visit learns the profile of one person only. -/
theorem learnt_once (run : Run MayFail (fun k => s.visit (visits k)) .empty es now x)
    {p p' : GitHub.Profile} (hp : Learnt k es p) (hp' : Learnt k es p') : p = p' := by
  obtain ⟨t, token, hp⟩ := hp
  obtain ⟨t', token', hp'⟩ := hp'
  have heq := eq_of_never_again (fun e => ∃ t token p, e = ⟨k, t, .profile token, .ok p⟩)
    (fun pre e post hes he f hf hfk => ?_) hp hp' ⟨t, token, p, rfl⟩ ⟨t', token', p', rfl⟩
  · cases heq
    rfl
  · obtain ⟨t, token, p, rfl⟩ := he
    obtain ⟨t', token', p', rfl⟩ := hfk
    subst hes
    have asks := run.asked fun k => s.visit_obeys k (visits k)
    exact s.visit_of_profile k asks p' ⟨t', token', mem_history.mpr ⟨hf, rfl⟩⟩

theorem date_of_run (run : Run MayFail (fun k => s.visit (visits k)) .empty es now x) {t m : Moment}
    (hm : ⟨k, t, .now, m⟩ ∈ es) :
    Manager.firstSecond ≤ m.seconds ∧ m.seconds ≤ Manager.lastSecond := by
  obtain ⟨pre, post, rfl⟩ := List.append_of_mem hm
  obtain ⟨_, _, _, _, -, -, ⟨hdate, -⟩, -⟩ := run.cut
  exact hdate

/-- A token speaks of the identity that is stored for the account of the person who signed on. -/
theorem subject_of_token (run : Run MayFail (fun k => s.visit (visits k)) .empty es now x)
    (drawn : (es.filterMap drawnId?).Nodup) {q : Query} {o : Outcome} {token : String}
    (hk : visits k = .callback q) (ended : now k = .done o) (htoken : o.token? = some token) :
    ∃ p i, Learnt k es p ∧ x.identities.find p.account = some i ∧
      Manager.subject? token = some i.id := by
  have sound := sound_of_run run drawn
  have hends := run.ended (fun k => s.visit_obeys k (visits k)) ended
  rw [hk] at hends
  rcases hends with ⟨rfl, -⟩ | ⟨state, pending, e, -, hwarrants, rfl⟩
  · cases htoken
  · obtain rfl := token?_ofEnding.mp htoken
    obtain ⟨p, i, t, m, hp, hi, hm, hdate, hgenerate⟩ := hwarrants
    have hsub : history k es ⊆ es := List.filter_subset_self _
    obtain ⟨hrow, hexternal⟩ := sound.resolved k p i (hi.mono hsub)
    exact ⟨p, i, hp.mono hsub, Identities.find_of_mem sound.identities hrow hexternal,
      Manager.subject?_generate ⟨date_of_run run (hsub hm), hdate⟩ hgenerate⟩

/-! ### Newcomers -/

/-- The user that is stored beside an identity. -/
def newUser (p : GitHub.Profile) (i : Identity) (id : Uuid) (m : Moment) : User :=
  ⟨id, i.id, p.account.provider, p.account.externalId, p.login, userEmail p i, .ofMoment m⟩

/-- What a second visit without addresses has still to do once it has looked for an identity. -/
def settle (s : Service) (p : GitHub.Profile) (pending : Pending)
    (found : Except Error (Option Identity)) : Routine services Outcome := do
  let resolve : Routine services (Except Error Identity) := do
    match found with
    | .error e => return .error e
    | .ok (some i) => recordUser p i
    | .ok none =>
      let id ← ask .drawId
      match ← ask (.createIdentity (candidate p [] id)) with
      | .error e => return .error e
      | .ok i => recordUser p i
  let finish : Routine services Ending := do
    match ← resolve with
    | .error _ => return .failure .loginFailed
    | .ok i => s.issue i
  return .ofEnding (s.origin pending) (← finish)

theorem settle_eq (s : Service) (p : GitHub.Profile) (pending : Pending) :
    (((resolveIdentity p []).bind fun resolved =>
      match resolved with
      | .error _ => pure (.failure .loginFailed)
      | .ok i => s.issue i : Routine services Ending).bind fun e =>
        .done (.ofEnding (s.origin pending) e)) =
      .ask (.findIdentity p.account) (s.settle p pending) := by
  refine congrArg (Routine.ask _) (funext fun found => ?_)
  match found with
  | .error e => rfl
  | .ok (some i) => rfl
  | .ok none =>
    refine congrArg (Routine.ask _) (funext fun id => congrArg (Routine.ask _) ?_)
    funext stored
    cases stored <;> rfl

/-- The events of a second visit up to the search for an identity. -/
def arrivalEvents (k : ι) (t : Moment) (state code accessToken : String) (pending : Pending)
    (p : GitHub.Profile) (found : Except Error (Option Identity)) : List (Event services ι) :=
  [⟨k, t, .takePending state, .ok (some pending)⟩, ⟨k, t, .exchange code, .ok accessToken⟩,
    ⟨k, t, .profile accessToken, .ok p⟩, ⟨k, t, .addresses accessToken, .ok []⟩,
    ⟨k, t, .findIdentity p.account, found⟩]

/-- The events that follow where none was found, up to the token. -/
def enrolmentEvents (k : ι) (t m : Moment) (p : GitHub.Profile) (id : Uuid) (i : Identity)
    (userId : Uuid) (u : User) : List (Event services ι) :=
  [⟨k, t, .drawId, id⟩, ⟨k, t, .createIdentity (candidate p [] id), .ok i⟩,
    ⟨k, t, .drawId, userId⟩, ⟨k, t, .now, m⟩, ⟨k, t, .createUser (newUser p i userId m), .ok u⟩,
    ⟨k, t, .now, m⟩]

section
variable {start : ι → Routine services Outcome} {first x₁ x₂ : Accounts} {p : GitHub.Profile}
  {pending : Pending}

theorem run_arrival {state code : String}
    (before : Run MayFail start first es now x)
    (hk : now k = s.visit (.callback ⟨some state, some code, none, none⟩)) (hstate : state ≠ "")
    (hcode : Text.isBlankText code = false) (t : Moment) (accessToken : String) (pending : Pending)
    (found : Except Error (Option Identity))
    (search : MayFail t (.findIdentity p.account) found x x) :
    Run MayFail start first (es ++ arrivalEvents k t state code accessToken pending p found)
      (Function.update now k (s.settle p pending found)) x := by
  have hask : ∃ next next', s.visit (.callback ⟨some state, some code, none, none⟩) =
        .ask (.takePending state) next ∧
      next (.ok (some pending)) = .ask (.exchange code) next' ∧
      next' (.ok accessToken) =
        (s.signOnWith accessToken).bind fun e => .done (.ofEnding (s.origin pending) e) := by
    simp only [visit, callback, Option.getD_some, if_neg hstate, finish, hcode, Option.isSome_none,
      Bool.false_eq_true, if_false]
    exact ⟨_, _, rfl, rfl, rfl⟩
  obtain ⟨next, next', hask, hnext, hnext'⟩ := hask
  have r₀ : Run MayFail start first es (Function.update now k (.ask (.takePending state) next))
      x := by
    rw [← hask, ← hk, Function.update_eq_self]
    exact before
  have r₁ := r₀.again t (.ok (some pending)) rfl
  rw [hnext] at r₁
  have r₂ := r₁.again t (.ok accessToken) rfl
  rw [hnext'] at r₂
  have r₃ := r₂.again t (.ok p) rfl
  have r₄ : Run MayFail start first _ (Function.update now k
      (.ask (.findIdentity p.account) (s.settle p pending))) _ :=
    s.settle_eq p pending ▸ r₃.again t (.ok []) rfl
  have r₅ := r₄.again t found search
  simp only [List.append_assoc, List.cons_append, List.nil_append] at r₅
  exact r₅

theorem run_enrolled {i : Identity} {u : User} {token : String} {m : Moment}
    (before : Run MayFail start first es now x) (hk : now k = s.settle p pending (.ok none))
    (t : Moment) (id userId : Uuid)
    (created : MayFail t (.createIdentity (candidate p [] id)) (.ok i) x x₁)
    (hm : Manager.firstSecond ≤ m.seconds ∧ m.seconds ≤ Manager.lastSecond)
    (recorded : MayFail t (.createUser (newUser p i userId m)) (.ok u) x₁ x₂)
    (hdate : s.tokens.CanDate m) (htoken : s.tokens.generate i m = .ok token) :
    Run MayFail start first (es ++ enrolmentEvents k t m p id i userId u)
      (Function.update now k (.done (.ofEnding (s.origin pending) (.token token)))) x₂ := by
  have hissue : ∃ issued, s.issue i = .ask .now issued ∧ issued m = .done (.token token) := by
    refine ⟨_, rfl, ?_⟩
    simp only [Routine.bind, if_pos hdate, htoken]
    rfl
  obtain ⟨issued, hissue, hissued⟩ := hissue
  have r₀ : Run MayFail start first es (Function.update now k (s.settle p pending (.ok none)))
      x := by
    rw [← hk, Function.update_eq_self]
    exact before
  have r₁ := r₀.again t id rfl
  have r₂ := r₁.again t (.ok i) created
  have r₃ := r₂.again t userId rfl
  have r₄ := r₃.again t m ⟨hm, rfl⟩
  have r₅ : Run MayFail start first _ (Function.update now k
      ((s.issue i).bind fun e => .done (.ofEnding (s.origin pending) e))) _ :=
    r₄.again t (.ok u) recorded
  rw [hissue] at r₅
  have r₆ := r₅.again t m ⟨hm, rfl⟩
  simp only [List.append_assoc, List.cons_append, List.nil_append, hissued] at r₆
  exact r₆

end

def sampleProfile : GitHub.Profile := ⟨42, "newcomer", none, none, none⟩

/-! ### One identity for each account -/

/-- One identity for each account, where identifiers are drawn that all differ. Accounts have one
identity and one user, users belong to the identities of their accounts, what is stored stays as it
is, a token speaks of the one identity of the account that the person who got it signed on with, and
so two tokens speak of the same identity just if they were got with the same account. -/
theorem one_identity_per_account
    (run : Run MayFail (fun k => s.visit (visits k)) .empty es mid x)
    (later : Run MayFail mid x es' now x') (drawn : ((es ++ es').filterMap drawnId?).Nodup) :
    (x'.identities.rows.map (·.external)).Nodup ∧ (x'.users.rows.map User.account).Nodup ∧
    (∀ u ∈ x'.users.rows, ∃ i ∈ x'.identities.rows, i.id = u.identityId ∧
      i.external = some u.account) ∧
    (x.identities.rows <+: x'.identities.rows ∧ x.users.rows <+: x'.users.rows) ∧
    (∀ k q o token, visits k = .callback q → now k = .done o → o.token? = some token →
      ∃ p i, Learnt k (es ++ es') p ∧ (∀ p', Learnt k (es ++ es') p' → p' = p) ∧
        x'.identities.find p.account = some i ∧ Manager.subject? token = some i.id) ∧
    ∀ k₁ k₂ q₁ q₂ o₁ o₂ token₁ token₂ p₁ p₂, visits k₁ = .callback q₁ → visits k₂ = .callback q₂ →
      now k₁ = .done o₁ → now k₂ = .done o₂ → o₁.token? = some token₁ → o₂.token? = some token₂ →
      Learnt k₁ (es ++ es') p₁ → Learnt k₂ (es ++ es') p₂ →
      (Manager.subject? token₁ = Manager.subject? token₂ ↔ p₁.id = p₂.id) := by
  have whole := run.trans later
  have sound := sound_of_run whole drawn
  refine ⟨sound.identities, sound.users, sound.owners, prefix_of_run run later drawn, ?_, ?_⟩
  · intro k q o token hk ended htoken
    obtain ⟨p, i, hp, hi, hsubject⟩ := subject_of_token whole drawn hk ended htoken
    exact ⟨p, i, hp, fun p' hp' => learnt_once whole hp' hp, hi, hsubject⟩
  · intro k₁ k₂ q₁ q₂ o₁ o₂ token₁ token₂ p₁ p₂ hk₁ hk₂ ended₁ ended₂ htoken₁ htoken₂ hp₁ hp₂
    obtain ⟨p, i₁, hp, hi₁, hsubject₁⟩ := subject_of_token whole drawn hk₁ ended₁ htoken₁
    obtain rfl := learnt_once whole hp hp₁
    obtain ⟨p', i₂, hp', hi₂, hsubject₂⟩ := subject_of_token whole drawn hk₂ ended₂ htoken₂
    obtain rfl := learnt_once whole hp' hp₂
    rw [hsubject₁, hsubject₂, ← account_inj]
    obtain ⟨hrow₁, hexternal₁⟩ := Identities.find_eq_some hi₁
    obtain ⟨hrow₂, hexternal₂⟩ := Identities.find_eq_some hi₂
    constructor
    · intro hid
      have heq : i₁ = i₂ := List.inj_on_of_nodup_map sound.ids hrow₁ hrow₂ (Option.some.inj hid)
      subst heq
      exact Option.some.inj (hexternal₁.symm.trans hexternal₂)
    · intro haccount
      rw [haccount] at hi₁
      rw [Option.some.inj (hi₁.symm.trans hi₂)]

/-- Three people come back with one account, each with a state of their own. -/
def newcomers (k : Fin 3) : Visit :=
  .callback ⟨some (stateText (List.replicate 32 (.ofNat k))), some "code", none, none⟩

/-- The records of the first of them. -/
def firstIdentity : Identity := candidate sampleProfile [] .nil

def firstUser : User := newUser sampleProfile firstIdentity ⟨1⟩ (.ofSeconds 60)

def firstStored : Accounts := ⟨⟨[firstIdentity]⟩, ⟨[firstUser]⟩⟩

theorem firstIdentity_added : MayFail (.ofSeconds 60) (.createIdentity firstIdentity)
    (.ok firstIdentity) .empty ⟨firstStored.identities, .empty⟩ := .inl ⟨rfl, rfl⟩

theorem firstUser_added : MayFail (.ofSeconds 60) (.createUser firstUser) (.ok firstUser)
    ⟨firstStored.identities, .empty⟩ firstStored := .inl ⟨rfl, rfl⟩

theorem find_firstStored :
    firstStored.identities.find sampleProfile.account = some firstIdentity :=
  Identities.find_of_mem (List.nodup_singleton _) List.mem_cons_self rfl

/-- Two of them find no identity, and both have one stored; the third cannot look for one. -/
theorem run_newcomers : ∃ (es es' : List (Event services (Fin 3)))
    (mid now : Fin 3 → Routine services Outcome) (token token' : String),
    Run MayFail (fun k => sample.visit (newcomers k)) .empty es mid firstStored ∧
      Run MayFail mid firstStored es' now firstStored ∧
      (es ++ es').filterMap drawnId? = [.nil, ⟨1⟩, ⟨2⟩, ⟨3⟩] ∧
      Learnt 0 (es ++ es') sampleProfile ∧ Learnt 1 (es ++ es') sampleProfile ∧
      now 0 = .done (.ofEnding (samplePage "/") (.token token)) ∧
      now 1 = .done (.ofEnding (samplePage "/") (.token token')) ∧
      now 2 = .done (.ofEnding (samplePage "/") (.failure .loginFailed)) := by
  let pending : Pending := .of (samplePage "/") (.ofSeconds 0)
  have origin : sample.origin pending = samplePage "/" :=
    origin_of sample (readsBack_samplePage "/" (by decide)) _
  obtain ⟨token, htoken⟩ := generate_sample firstIdentity (.ofSeconds 60)
  obtain ⟨token', htoken'⟩ := generate_sample firstIdentity (.ofSeconds 61)
  have named (k : Fin 3) : stateText (List.replicate 32 (.ofNat k)) ≠ "" :=
    stateText_ne_empty (List.cons_ne_nil _ _)
  have start : Run MayFail (fun k => sample.visit (newcomers k)) .empty [] _ .empty := .nothing
  have r₁ := run_arrival start (k := 0) (p := sampleProfile) rfl (named 0) (by decide)
    (.ofSeconds 60) "access" pending (.ok none) ⟨.inl rfl, rfl⟩
  have r₂ := run_arrival r₁ (k := 1) (p := sampleProfile) rfl (named 1) (by decide)
    (.ofSeconds 60) "other" pending (.ok none) ⟨.inl rfl, rfl⟩
  have r₃ := run_enrolled r₂ (k := 0) (p := sampleProfile) rfl (.ofSeconds 60) .nil ⟨1⟩
    firstIdentity_added (by decide) firstUser_added trivial htoken
  have ⟨mid, run, settled, settling, coming⟩ := (⟨_, r₃, rfl, rfl, rfl⟩ : ∃ mid,
    Run MayFail (fun k => sample.visit (newcomers k)) .empty _ mid firstStored ∧
      mid 0 = .done (.ofEnding (sample.origin pending) (.token token)) ∧
      mid 1 = sample.settle sampleProfile pending (.ok none) ∧
      mid 2 = sample.visit (newcomers 2))
  -- the second finds the records of the first in the way of its own
  have created : MayFail (.ofSeconds 61) (.createIdentity (candidate sampleProfile [] ⟨2⟩))
      (.ok firstIdentity) firstStored firstStored := by
    refine .inl ?_
    rw [Identities.create_known rfl find_firstStored]
    exact ⟨rfl, rfl⟩
  have recorded : MayFail (.ofSeconds 61)
      (.createUser (newUser sampleProfile firstIdentity ⟨3⟩ (.ofSeconds 61))) (.ok firstUser)
      firstStored firstStored := by
    have existing : firstStored.users.existing?
        (newUser sampleProfile firstIdentity ⟨3⟩ (.ofSeconds 61)) = some firstUser := by
      simp [firstStored, firstUser, Users.existing?, newUser]
    refine .inl ?_
    rw [Users.create_known existing]
    exact ⟨rfl, rfl⟩
  have onward : Run MayFail mid firstStored [] mid firstStored := .nothing
  have r₄ := run_enrolled onward (k := 1) (p := sampleProfile) settling (.ofSeconds 61) ⟨2⟩ ⟨3⟩
    created (by decide) recorded trivial htoken'
  have r₅ := run_arrival r₄ (k := 2) (p := sampleProfile) coming (named 2) (by decide)
    (.ofSeconds 62) "third" pending (.error ⟨.database, "no connection"⟩) ⟨.inr ⟨_, rfl⟩, rfl⟩
  rw [← origin]
  refine ⟨_, _, mid, _, token, token', run, r₅, rfl, ⟨.ofSeconds 60, "access", ?_⟩,
    ⟨.ofSeconds 60, "other", ?_⟩, settled, rfl, rfl⟩
  · simp [arrivalEvents]
  · simp [arrivalEvents]

/-- Two who find no identity get tokens that speak of the one that is stored first. -/
theorem one_identity_per_account_sample : ∃ (es es' : List (Event services (Fin 3)))
    (mid now : Fin 3 → Routine services Outcome) (x x' : Accounts) (i : Identity)
    (token token' : String),
    Run MayFail (fun k => sample.visit (newcomers k)) .empty es mid x ∧
      Run MayFail mid x es' now x' ∧
      now 0 = .done (.ofEnding (samplePage "/") (.token token)) ∧
      now 1 = .done (.ofEnding (samplePage "/") (.token token')) ∧
      now 2 = .done (.ofEnding (samplePage "/") (.failure .loginFailed)) ∧
      x'.identities.find sampleProfile.account = some i ∧
      Manager.subject? token = some i.id ∧ Manager.subject? token' = some i.id := by
  obtain ⟨es, es', mid, now, token, token', run, later, hdrawn, learnt, learnt', ended, ended',
    failed⟩ := run_newcomers
  have drawn : ((es ++ es').filterMap drawnId?).Nodup := by
    rw [hdrawn]
    decide
  obtain ⟨-, -, -, -, tokens, -⟩ := one_identity_per_account run later drawn
  obtain ⟨p, i, -, only, hi, hsubject⟩ := tokens 0 _ _ token rfl ended (token?_ofEnding.mpr rfl)
  obtain rfl := only sampleProfile learnt
  obtain ⟨p', i', -, only', hi', hsubject'⟩ :=
    tokens 1 _ _ token' rfl ended' (token?_ofEnding.mpr rfl)
  obtain rfl := only' sampleProfile learnt'
  obtain rfl := Option.some.inj (hi.symm.trans hi')
  exact ⟨es, es', mid, now, _, _, i, token, token', run, later, ended, ended', failed, hi, hsubject,
    hsubject'⟩

end Service
end SignOn
