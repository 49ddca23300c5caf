import SignOn.Proofs.Login.Accounts

/-!
Accounts do not see each other. What a call to the stores is answered, and what becomes of the
records of an account, depends on the records of the account that the call is about and on no
others. So people who sign on with one account get what they would get if nobody signed on with
another, and sign-ons with different accounts may come in any order.
-/
namespace SignOn

open Login Store

/-! ### The records of one account -/

namespace Accounts

variable {x y d : Accounts} {b : Account}

/-- The records of one account. -/
def of (x : Accounts) (b : Account) : Accounts :=
  ⟨⟨x.identities.rows.filter (·.external = some b)⟩, ⟨x.users.rows.filter (·.account = b)⟩⟩

theorem find_of : (x.of b).identities.find b = x.identities.find b := by
  simp only [of, Identities.find, List.find?_filter]
  congr 1
  funext i
  simp [Identity.isExternal, beq_eq_decide]

theorem find_congr (h : y.of b = x.of b) : y.identities.find b = x.identities.find b := by
  rw [← find_of, h, find_of]

theorem existing?_of (u : User) : (x.of u.account).users.existing? u = x.users.existing? u := by
  simp only [of, Users.existing?, List.find?_filter]
  congr 1
  funext v
  simp [User.account, beq_eq_decide]

theorem of_addIdentity (i : Identity) : (Accounts.mk ⟨x.identities.rows ++ [i]⟩ x.users).of b =
    ⟨⟨(x.of b).identities.rows ++ [i].filter (·.external = some b)⟩, (x.of b).users⟩ := by
  simp [of]

theorem of_addUser (u : User) : (Accounts.mk x.identities ⟨x.users.rows ++ [u]⟩).of b =
    ⟨(x.of b).identities, ⟨(x.of b).users.rows ++ [u].filter (·.account = b)⟩⟩ := by
  simp [of]

/-- The records of both, one after the other. -/
instance : Append Accounts :=
  ⟨fun x d => ⟨⟨x.identities.rows ++ d.identities.rows⟩, ⟨x.users.rows ++ d.users.rows⟩⟩⟩

theorem append_empty : x ++ empty = x :=
  congrArg₂ Accounts.mk (congrArg Identities.mk (List.append_nil _))
    (congrArg Users.mk (List.append_nil _))

theorem mem_ids_append {id : Uuid} : id ∈ (x ++ d).ids ↔ id ∈ x.ids ∨ id ∈ d.ids := by
  change id ∈ (x.identities.rows ++ d.identities.rows).map (·.id) ++
    (x.users.rows ++ d.users.rows).map (·.id) ↔ _
  simp only [ids, List.map_append, List.mem_append]
  tauto

end Accounts

/-! ### What one answer depends on -/

/-- The account that a call to the stores is about. -/
def about? : Call → Option Account
  | .findIdentity a => some a
  | .createIdentity i => i.external
  | .createUser u => some u.account
  | _ => none

/-- A call stores at most a record of an account, under an identifier that no record has. -/
structure Novel (c : Call) (x : Accounts) : Prop where
  id : ∀ id, newId? c = some id → id ∉ x.ids
  account : ∀ i, c = .createIdentity i → ∃ a, i.external = some a

section
variable {t : Moment} {c : Call} {a : c.Answer} {x x' y : Accounts} {b : Account}

/-- The records of other accounts stay as they are. -/
theorem of_of_answer (answered : MayFail t c a x x') (novel : Novel c x) (hb : about? c ≠ some b) :
    x'.of b = x.of b := by
  cases grows_of_answer answered novel.id novel.account with
  | same => rfl
  | @identity x i =>
    have hi : [i].filter (·.external = some b) = [] := by simpa [about?] using hb
    rw [Accounts.of_addIdentity, hi, List.append_nil]
  | @user x u =>
    have hu : [u].filter (·.account = b) = [] := by simpa [about?] using hb
    rw [Accounts.of_addUser, hu, List.append_nil]

/-- What storing an identity answers and adds depends on the records of its account. -/
theorem createIdentity_of_same {i : Identity} (hb : i.external = some b) (hx : i.id ∉ x.ids)
    (hy : i.id ∉ y.ids) (same : y.of b = x.of b) :
    (y.identities.create i).1 = (x.identities.create i).1 ∧ ∀ b', y.of b' = x.of b' →
      (Accounts.mk (y.identities.create i).2 y.users).of b' =
        (Accounts.mk (x.identities.create i).2 x.users).of b' := by
  have hfind := Accounts.find_congr same
  cases hf : x.identities.find b with
  | some j =>
    rw [Identities.create_known hb hf, Identities.create_known hb (hfind.trans hf)]
    exact ⟨rfl, fun _ h => h⟩
  | none =>
    rw [Identities.create_new hb hf fun h => hx (List.mem_append_left _ h),
      Identities.create_new hb (hfind.trans hf) fun h => hy (List.mem_append_left _ h)]
    refine ⟨rfl, fun b' h => ?_⟩
    rw [Accounts.of_addIdentity, Accounts.of_addIdentity, h]

/-- What storing a user answers and adds depends on the records of its account. -/
theorem createUser_of_same {u : User} (hx : u.id ∉ x.ids) (hy : u.id ∉ y.ids)
    (same : y.of u.account = x.of u.account) :
    (y.users.create u).1 = (x.users.create u).1 ∧ ∀ b', y.of b' = x.of b' →
      (Accounts.mk y.identities (y.users.create u).2).of b' =
        (Accounts.mk x.identities (x.users.create u).2).of b' := by
  have hexisting : y.users.existing? u = x.users.existing? u := by
    rw [← Accounts.existing?_of, same, Accounts.existing?_of]
  cases he : x.users.existing? u with
  | some v =>
    rw [Users.create_known he, Users.create_known (hexisting.trans he)]
    exact ⟨rfl, fun _ h => h⟩
  | none =>
    rw [Users.create_new he fun h => hx (List.mem_append_right _ h),
      Users.create_new (hexisting.trans he) fun h => hy (List.mem_append_right _ h)]
    refine ⟨rfl, fun b' h => ?_⟩
    rw [Accounts.of_addUser, Accounts.of_addUser, h]

/-- Where the records of the account are the same, a call may be answered in the same way, and the
records of every account that were the same are so afterwards. -/
theorem answer_of_same (answered : MayFail t c a x x') (hx : Novel c x) (hy : Novel c y)
    (same : ∀ b, about? c = some b → y.of b = x.of b) :
    ∃ y', MayFail t c a y y' ∧ ∀ b, y.of b = x.of b → y'.of b = x'.of b := by
  cases c with
  | createIdentity i =>
    obtain ⟨b, hb⟩ := hx.account i rfl
    obtain ⟨hanswer, parts⟩ :=
      createIdentity_of_same hb (hx.id i.id rfl) (hy.id i.id rfl) (same b hb)
    rcases answered with ⟨ha, rfl⟩ | ⟨failed, rfl⟩
    · exact ⟨_, .inl ⟨hanswer ▸ ha, rfl⟩, parts⟩
    · exact ⟨y, .inr ⟨failed, rfl⟩, fun _ h => h⟩
  | createUser u =>
    obtain ⟨hanswer, parts⟩ :=
      createUser_of_same (hx.id u.id rfl) (hy.id u.id rfl) (same u.account rfl)
    rcases answered with ⟨ha, rfl⟩ | ⟨failed, rfl⟩
    · exact ⟨_, .inl ⟨hanswer ▸ ha, rfl⟩, parts⟩
    · exact ⟨y, .inr ⟨failed, rfl⟩, fun _ h => h⟩
  | findIdentity b =>
    obtain ⟨ha, rfl⟩ := answered
    exact ⟨y, ⟨Accounts.find_congr (same b rfl) ▸ ha, rfl⟩, fun _ h => h⟩
  | now =>
    obtain ⟨hm, rfl⟩ := answered
    exact ⟨y, ⟨hm, rfl⟩, fun _ h => h⟩
  | _ =>
    obtain rfl := answered
    exact ⟨y, rfl, fun _ h => h⟩

end

/-! ### What a visit asks -/

variable {ι : Type}

/-- Identifiers that are drawn are new: none is drawn twice, and no record had one before. -/
def Fresh (first : Accounts) (es : List (Event services ι)) : Prop :=
  (es.filterMap drawnId?).Nodup ∧ (es.filterMap drawnId?).Disjoint first.ids

section
variable {first : Accounts} {es es' : List (Event services ι)}

theorem Fresh.sublist (h : Fresh first es) (hes : es'.Sublist es) : Fresh first es' :=
  ⟨h.1.sublist (hes.filterMap _), List.disjoint_of_subset_left (hes.filterMap _).subset h.2⟩

theorem Fresh.left (h : Fresh first (es ++ es')) : Fresh first es :=
  h.sublist (List.sublist_append_left ..)

theorem Fresh.perm (h : Fresh first es) (hes : es'.Perm es) : Fresh first es' :=
  ⟨(hes.filterMap _).nodup_iff.mpr h.1, List.disjoint_of_subset_left (hes.filterMap _).subset h.2⟩

/-- What is stored beside the records from before stands in the ledger as if there were none. -/
theorem Grows.of_append {c : Call} {d x' : Accounts} (h : Grows c (first ++ d) x') :
    ∃ d', x' = first ++ d' ∧ Grows c d d' := by
  have hids {id : Uuid} (hid : id ∉ (first ++ d).ids) : id ∉ d.ids :=
    fun hm => hid (Accounts.mem_ids_append.mpr (.inr hm))
  cases h with
  | same => exact ⟨d, rfl, .same⟩
  | @identity _ i hid haccount =>
    refine ⟨⟨⟨d.identities.rows ++ [i]⟩, d.users⟩, ?_, .identity (hids hid) fun hm => ?_⟩
    · exact congrArg₂ Accounts.mk (congrArg Identities.mk (List.append_assoc ..)) rfl
    · exact haccount (List.map_append ▸ List.mem_append_right _ hm)
  | @user _ u hid haccount =>
    refine ⟨⟨d.identities, ⟨d.users.rows ++ [u]⟩⟩, ?_, .user (hids hid) fun hm => ?_⟩
    · exact congrArg₂ Accounts.mk rfl (congrArg Users.mk (List.append_assoc ..))
    · exact haccount (List.map_append ▸ List.mem_append_right _ hm)

end

namespace Service

variable {s : Service} {visits : ι → Visit} {v : Visit} {k : ι} {c : Call}

theorem about_of_asks {h : List (Event services ι)} (asks : s.visitAsks k v h c) {b : Account}
    (hb : about? c = some b) : ∃ p, Learnt k h p ∧ b = p.account := by
  cases v with
  | authorize referrer =>
    cases c with
    | findIdentity | createIdentity | createUser => exact False.elim asks
    | _ => cases hb
  | callback q =>
    cases c with
    | findIdentity a =>
      obtain rfl := Option.some.inj hb
      exact asks
    | createIdentity i =>
      obtain ⟨-, p, hp, hexternal⟩ := asks
      exact ⟨p, hp, Option.some.inj (hb.symm.trans hexternal)⟩
    | createUser u =>
      obtain ⟨-, p, i, hp, -, -, hprovider, hexternal⟩ := asks
      exact ⟨p, hp, by rw [← Option.some.inj hb, User.account, hprovider, hexternal]⟩
    | _ => cases hb

variable [DecidableEq ι] {es es' gs : List (Event services ι)} {first x x' y : Accounts}
  {now now' : ι → Routine services Outcome} {next : c.Answer → Routine services Outcome}

theorem novel_of_asks {d : Accounts} (ledger : Ledger es d) (fresh : Fresh first es)
    (asks : s.visitAsks k v (history k es) c) : Novel c (first ++ d) where
  id id hid hm := by
    obtain ⟨⟨t, hdrawn⟩, hnot⟩ := ledger.held k id (held_of_asks asks hid)
    rcases Accounts.mem_ids_append.mp hm with hm | hm
    · exact fresh.2 (mem_drawn hdrawn) hm
    · exact hnot hm
  account i hi := account_of_asks (hi ▸ asks)

theorem ledger_of_run (run : Run MayFail (fun k => s.visit (visits k)) first es now x)
    (fresh : Fresh first es) : ∃ d, x = first ++ d ∧ Ledger es d := by
  induction run with
  | nothing => exact ⟨.empty, Accounts.append_empty.symm, Sound.empty.ledger⟩
  | @step es now x x' k t c next a before asks answered ih =>
    obtain ⟨d, rfl, ledger⟩ := ih fresh.left
    have asks := before.allowed (fun k => s.visit_obeys k (visits k)) asks
    have novel := novel_of_asks ledger fresh.left asks
    obtain ⟨d', rfl, grows⟩ := (grows_of_answer answered novel.id novel.account).of_append
    exact ⟨d', rfl, ledger.step grows fresh.1 fun id hid => held_of_asks asks hid⟩

theorem novel_of_run (run : Run MayFail (fun k => s.visit (visits k)) first es now x)
    (fresh : Fresh first es) (asks : now k = .ask c next) : Novel c x := by
  obtain ⟨d, rfl, ledger⟩ := ledger_of_run run fresh
  exact novel_of_asks ledger fresh (run.allowed (fun k => s.visit_obeys k (visits k)) asks)

/-- A visit calls on the stores only about the account whose profile it has learnt. -/
theorem about_of_run (run : Run MayFail (fun k => s.visit (visits k)) first es now x)
    (asks : now k = .ask c next) {b : Account} (hb : about? c = some b) :
    ∃ p, Learnt k es p ∧ b = p.account := by
  obtain ⟨p, hp, hb⟩ :=
    about_of_asks (run.allowed (fun k => s.visit_obeys k (visits k)) asks) hb
  exact ⟨p, hp.mono (List.filter_subset_self _), hb⟩

/-! ### Without the others -/

/-- Where only those count that are kept, a change of one counts if that one is kept. -/
theorem ite_update {α : Type} (kept : ι → Bool) (f g : ι → α) (k : ι) (a : α) :
    (fun j => if kept j then Function.update f k a j else g j) =
      if kept k then Function.update (fun j => if kept j then f j else g j) k a
      else fun j => if kept j then f j else g j := by
  funext j
  by_cases hj : j = k
  · subst hj
    by_cases hk : kept j <;> simp [hk]
  · cases kept k <;> simp [Function.update_of_ne hj]

/-- Without the events of those who sign on with other accounts, a run goes on as it did. -/
theorem run_of_kept (run : Run MayFail (fun k => s.visit (visits k)) first es now x)
    (fresh : Fresh first es) {p : GitHub.Profile} {kept : ι → Bool}
    (hkept : ∀ k p', Learnt k es p' → (kept k = true ↔ p'.id = p.id)) :
    ∃ y, Run MayFail (fun k => s.visit (visits k)) first (es.filter (kept ·.who))
        (fun k => if kept k then now k else s.visit (visits k)) y ∧
      y.of p.account = x.of p.account := by
  induction run with
  | nothing =>
    simp only [List.filter_nil, ite_self]
    exact ⟨first, .nothing, rfl⟩
  | @step es now x x' k t c next a before asks answered ih =>
    have hkept {k' p'} (hp' : Learnt k' es p') : kept k' = true ↔ p'.id = p.id :=
      hkept k' p' (hp'.mono (List.subset_append_left ..))
    have novel := novel_of_run before fresh.left asks
    obtain ⟨y, run', hy⟩ := ih fresh.left fun k' p' => hkept
    rw [List.filter_append, List.filter_singleton]
    by_cases hk : kept k = true
    · have asks' : (if kept k then now k else s.visit (visits k)) = .ask c next := by
        rw [if_pos hk, asks]
      have novel' := novel_of_run run' (fresh.left.sublist List.filter_sublist) asks'
      have same (b : Account) (hb : about? c = some b) : y.of b = x.of b := by
        obtain ⟨p', hp', rfl⟩ := about_of_run before asks hb
        rw [account_inj.mpr ((hkept hp').mp hk)]
        exact hy
      obtain ⟨y', answered', hparts⟩ := answer_of_same answered novel novel' same
      refine ⟨y', ?_, hparts _ hy⟩
      rw [ite_update, if_pos hk]
      simpa [hk] using run'.step asks' answered'
    · have other : about? c ≠ some p.account := by
        intro hb
        obtain ⟨p', hp', haccount⟩ := about_of_run before asks hb
        exact hk ((hkept hp').mpr (account_inj.mp haccount.symm))
      refine ⟨y, ?_, hy.trans (of_of_answer answered novel other).symm⟩
      rw [ite_update, if_neg hk]
      simpa [hk] using run'

/-! ### In another order -/

/-- The last two events may change places, if they are of visits with different accounts. -/
theorem run_of_swap_last {e f : Event services ι}
    (run : Run MayFail (fun k => s.visit (visits k)) first (es ++ [e, f]) now x)
    (fresh : Fresh first (es ++ [e, f])) (hwho : e.who ≠ f.who)
    (hids : ∀ p p', Learnt e.who (es ++ [e, f]) p → Learnt f.who (es ++ [e, f]) p' →
      p.id ≠ p'.id) :
    ∃ y, Run MayFail (fun k => s.visit (visits k)) first (es ++ [f, e]) now y ∧
      ∀ b, y.of b = x.of b := by
  rw [List.append_cons] at run
  obtain ⟨now₁, nextf, x₁, run₁, hf, answeredf, rfl⟩ := run.last
  obtain ⟨now₀, nexte, x₀, run₀, he, answerede, rfl⟩ := run₁.last
  have hf₀ : now₀ f.who = .ask f.call nextf := by rwa [Function.update_of_ne hwho.symm] at hf
  have fresh₁ : Fresh first (es ++ [e]) := fresh.sublist (by simp)
  have fresh₁' : Fresh first (es ++ [f]) := fresh.sublist (by simp)
  have novele := novel_of_run run₀ fresh.left he
  have novelf := novel_of_run run₁ fresh₁ hf
  have novelf₀ := novel_of_run run₀ fresh.left hf₀
  have apart (b : Account) (hbe : about? e.call = some b) : about? f.call ≠ some b := by
    intro hbf
    obtain ⟨p, hp, rfl⟩ := about_of_run run₀ he hbe
    obtain ⟨p', hp', haccount⟩ := about_of_run run₀ hf₀ hbf
    exact hids p p' (hp.mono (List.subset_append_left ..))
      (hp'.mono (List.subset_append_left ..)) (account_inj.mp haccount)
  have samef (b : Account) (hb : about? f.call = some b) : x₀.of b = x₁.of b :=
    (of_of_answer answerede novele fun h => apart b h hb).symm
  obtain ⟨y₁, answeredf', partsf⟩ := answer_of_same answeredf novelf novelf₀ samef
  have run₁' : Run MayFail _ first (es ++ [f]) _ y₁ := run₀.step hf₀ answeredf'
  have he' : Function.update now₀ f.who (nextf f.answer) e.who = .ask e.call nexte := by
    rwa [Function.update_of_ne hwho]
  have novele' := novel_of_run run₁' fresh₁' he'
  have samee (b : Account) (hb : about? e.call = some b) : y₁.of b = x₀.of b :=
    of_of_answer answeredf' novelf₀ (apart b hb)
  obtain ⟨y, answerede', partse⟩ := answer_of_same answerede novele novele' samee
  refine ⟨y, ?_, fun b => ?_⟩
  · rw [Function.update_comm hwho]
    simpa using run₁'.step he' answerede'
  · by_cases hb : about? f.call = some b
    · rw [of_of_answer answerede' novele' fun h => apart b h hb]
      exact partsf b (samef b hb)
    · rw [of_of_answer answeredf novelf hb]
      exact partse b (of_of_answer answeredf' novelf₀ hb)

/-- What comes after the same records comes after them in whatever way they came about. -/
theorem run_of_same (run : Run MayFail (fun k => s.visit (visits k)) first es now x)
    (run' : Run MayFail (fun k => s.visit (visits k)) first es' now y)
    (later : Run MayFail now x gs now' x') (fresh : Fresh first (es ++ gs))
    (fresh' : Fresh first (es' ++ gs)) (same : ∀ b, y.of b = x.of b) :
    ∃ y', Run MayFail (fun k => s.visit (visits k)) first (es' ++ gs) now' y' ∧
      ∀ b, y'.of b = x'.of b := by
  induction later with
  | nothing => exact ⟨y, by simpa using run', same⟩
  | @step gs now' x₁ x' k t c next a before asks answered ih =>
    rw [← List.append_assoc] at fresh fresh' ⊢
    obtain ⟨y₁, before', same₁⟩ := ih fresh.left fresh'.left
    obtain ⟨y', answered', parts⟩ := answer_of_same answered
      (novel_of_run (run.trans before) fresh.left asks) (novel_of_run before' fresh'.left asks)
      fun b _ => same₁ b
    exact ⟨y', before'.step asks answered', fun b => parts b (same₁ b)⟩

/-- Neighbouring events may change places, if they are of visits with different accounts. -/
theorem run_of_swap {e f : Event services ι}
    (run : Run MayFail (fun k => s.visit (visits k)) first (es ++ e :: f :: gs) now x)
    (fresh : Fresh first (es ++ e :: f :: gs)) (hwho : e.who ≠ f.who)
    (hids : ∀ p p', Learnt e.who (es ++ e :: f :: gs) p → Learnt f.who (es ++ e :: f :: gs) p' →
      p.id ≠ p'.id) :
    ∃ y, Run MayFail (fun k => s.visit (visits k)) first (es ++ f :: e :: gs) now y ∧
      ∀ b, y.of b = x.of b := by
  have fresh' := fresh.perm ((List.Perm.swap e f gs).append_left es)
  have happend (e f : Event services ι) : es ++ e :: f :: gs = es ++ [e, f] ++ gs := by simp
  rw [happend] at run fresh fresh' hids
  rw [happend]
  obtain ⟨mid, x₁, run₁, later⟩ := run.split
  obtain ⟨y₁, run₁', same⟩ := run_of_swap_last run₁ fresh.left hwho fun p p' hp hp' =>
    hids p p' (hp.mono (List.subset_append_left ..)) (hp'.mono (List.subset_append_left ..))
  exact run_of_same run₁ run₁' later fresh fresh' same

/-- Accounts are isolated from each other, where identifiers are drawn that all are new. What those
do who sign on with one account, what they are answered and told, and the records of that account
are as they would be had nobody signed on with another. And whoever sign on with different accounts
may do so in any order: if each group of visits keeps its own, and those with one account are in one
group, every visit is answered and told the same, and the same records are there of every account. -/
theorem accounts_isolated
    (run : Run MayFail (fun k => s.visit (visits k)) first es now x) (fresh : Fresh first es) :
    (∀ (p : GitHub.Profile) (kept : ι → Bool),
      (∀ k p', Learnt k es p' → (kept k = true ↔ p'.id = p.id)) →
      ∃ y, Run MayFail (fun k => s.visit (visits k)) first (es.filter (kept ·.who))
          (fun k => if kept k then now k else s.visit (visits k)) y ∧
        y.of p.account = x.of p.account) ∧
    ∀ (γ : Type) [DecidableEq γ] (group : ι → γ),
      (∀ k k' p p', Learnt k es p → Learnt k' es p' → p.id = p'.id → group k = group k') →
      ∀ es', (∀ g, es'.filter (group ·.who = g) = es.filter (group ·.who = g)) →
      ∃ y, Run MayFail (fun k => s.visit (visits k)) first es' now y ∧ ∀ b, y.of b = x.of b := by
  refine ⟨fun p kept hkept => run_of_kept run fresh hkept, fun γ _ group hgroup es' same => ?_⟩
  refine (@good_of_same_order _ _ (group ·.who) (fun l => l.Perm es ∧ ∃ y,
    Run MayFail (fun k => s.visit (visits k)) first l now y ∧ ∀ b, y.of b = x.of b) _
    (fun pre e f post hgroups h => ?_) [] es es' same ⟨.refl es, x, run, fun _ => rfl⟩).2
  obtain ⟨perm, y, run, hy⟩ := h
  have hids (p p') (hp : Learnt e.who (pre ++ e :: f :: post) p)
      (hp' : Learnt f.who (pre ++ e :: f :: post) p') : p.id ≠ p'.id := fun hid =>
    hgroups (hgroup _ _ p p' (hp.mono perm.subset) (hp'.mono perm.subset) hid)
  obtain ⟨y', run', same'⟩ :=
    run_of_swap run (fresh.perm perm) (fun h => hgroups (congrArg group h)) hids
  exact ⟨((List.Perm.swap e f post).append_left pre).trans perm, y', run',
    fun b => (same' b).trans (hy b)⟩

def otherProfile : GitHub.Profile := ⟨43, "neighbour", none, none, none⟩

/-- Two people come back, each with a state of their own. -/
def sampleArrivals (k : Bool) : Visit :=
  .callback ⟨some (stateText (List.replicate 32 (if k then 1 else 0))), some "code", none, none⟩

/-- The records of the one who is there second. -/
def otherIdentity : Identity := candidate otherProfile [] ⟨2⟩

def otherUser : User := newUser otherProfile otherIdentity ⟨3⟩ (.ofSeconds 61)

def bothStored : Accounts := ⟨⟨[firstIdentity, otherIdentity]⟩, ⟨[firstUser, otherUser]⟩⟩

/-- Both look for their identities before either has one stored. -/
theorem run_arrivals : ∃ (es : List (Event services Bool)) (now : Bool → Routine services Outcome),
    Run MayFail (fun k => sample.visit (sampleArrivals k)) .empty es now bothStored ∧
      es.map (·.who) = [false, false, false, false, false, true, true, true, true, true,
        false, false, false, false, false, false, true, true, true, true, true, true] ∧
      es.filterMap drawnId? = [.nil, ⟨1⟩, ⟨2⟩, ⟨3⟩] ∧
      ∀ k p, Learnt k es p → p = if k then otherProfile else sampleProfile := by
  let pending : Pending := .of (samplePage "/") (.ofSeconds 0)
  obtain ⟨token, htoken⟩ := generate_sample firstIdentity (.ofSeconds 60)
  obtain ⟨token', htoken'⟩ := generate_sample otherIdentity (.ofSeconds 61)
  have named (k : Bool) : stateText (List.replicate 32 (if k then 1 else 0)) ≠ "" :=
    stateText_ne_empty (List.cons_ne_nil _ _)
  have start : Run MayFail (fun k => sample.visit (sampleArrivals k)) .empty [] _ .empty := .nothing
  have r₁ := run_arrival start (k := false) (p := sampleProfile) rfl (named false)
    (by decide) (.ofSeconds 60) "access" pending (.ok none) ⟨.inl rfl, rfl⟩
  have r₂ := run_arrival r₁ (k := true) (p := otherProfile) rfl (named true)
    (by decide) (.ofSeconds 60) "other" pending (.ok none) ⟨.inl rfl, rfl⟩
  have r₃ := run_enrolled r₂ (k := false) (p := sampleProfile) rfl (.ofSeconds 60) .nil ⟨1⟩
    firstIdentity_added (by decide) firstUser_added trivial htoken
  have added : MayFail (.ofSeconds 61) (.createIdentity otherIdentity) (.ok otherIdentity)
      firstStored ⟨bothStored.identities, firstStored.users⟩ := by
    have hfind : firstStored.identities.find otherProfile.account = none := by decide
    refine .inl ?_
    rw [Identities.create_new rfl hfind (by decide)]
    exact ⟨rfl, rfl⟩
  have noted : MayFail (.ofSeconds 61) (.createUser otherUser) (.ok otherUser)
      ⟨bothStored.identities, firstStored.users⟩ bothStored := by
    have hexisting : firstStored.users.existing? otherUser = none := by decide
    refine .inl ?_
    rw [Users.create_new hexisting (by decide)]
    exact ⟨rfl, rfl⟩
  have r₄ := run_enrolled r₃ (k := true) (p := otherProfile) rfl (.ofSeconds 61) ⟨2⟩ ⟨3⟩
    added (by decide) noted trivial htoken'
  refine ⟨_, _, r₄, rfl, rfl, fun k p hp => ?_⟩
  obtain ⟨t, accessToken, hp⟩ := hp
  simp [arrivalEvents, enrolmentEvents] at hp
  rcases hp with ⟨rfl, -, -, rfl⟩ | ⟨rfl, -, -, rfl⟩ <;> rfl

/-- Without the first of them the second fares the same; and so do both where the second comes and
goes before the first. -/
theorem accounts_isolated_sample : ∃ (es : List (Event services Bool))
    (now : Bool → Routine services Outcome) (y z : Accounts),
    Run MayFail (fun k => sample.visit (sampleArrivals k)) .empty es now bothStored ∧
    Run MayFail (fun k => sample.visit (sampleArrivals k)) .empty (es.filter (·.who))
      (fun k => if k then now k else sample.visit (sampleArrivals k)) y ∧
    y.of otherProfile.account = bothStored.of otherProfile.account ∧
    Run MayFail (fun k => sample.visit (sampleArrivals k)) .empty
      (es.filter (·.who = true) ++ es.filter (·.who = false)) now z ∧
    (es.filter (·.who = true) ++ es.filter (·.who = false)) ≠ es ∧
    ∀ b, z.of b = bothStored.of b := by
  obtain ⟨es, now, run, hwho, hdrawn, learnt⟩ := run_arrivals
  have fresh : Fresh .empty es := by
    refine ⟨?_, List.disjoint_nil_right _⟩
    rw [hdrawn]
    decide
  obtain ⟨without, reordered⟩ := accounts_isolated run fresh
  obtain ⟨y, alone, same⟩ := without otherProfile id fun k p hp => by
    obtain rfl := learnt k p hp
    cases k with
    | false => decide
    | true => decide
  have group (k k' : Bool) (p p' : GitHub.Profile) (hp : Learnt k es p) (hp' : Learnt k' es p')
      (hid : p.id = p'.id) : k = k' := by
    rw [learnt k p hp, learnt k' p' hp'] at hid
    clear hp hp'
    revert k k'
    decide
  obtain ⟨z, apart, same'⟩ := reordered Bool id group
    (es.filter (·.who = true) ++ es.filter (·.who = false)) fun g => by
      cases g <;> simp [List.filter_filter]
  have hfilter (b : Bool) : (es.filter (·.who = b)).map (·.who) =
      (es.map (·.who)).filter (· = b) := by
    rw [List.filter_map]
    rfl
  refine ⟨es, now, y, z, run, alone, same, apart, fun heq => ?_, same'⟩
  have horder := congrArg (List.map (·.who)) heq
  rw [List.map_append, hfilter, hfilter, hwho] at horder
  exact absurd horder (by decide)

end Service
end SignOn
