import SignOn.Proofs.Documents.Served
import SignOn.Proofs.Interleaving
import SignOn.Proofs.Store.Requests
import SignOn.Store.Remote

/-!
Any number of clients of one document server, each with one request; who asks for one thing after
another is several of them. Whatever the order in which their commands are answered, each request is
answered as it would be in memory if requests were served whole, one after the other, in the order
of the answers that settle them.
-/
namespace SignOn.Documents

open Store

/-! ### The records in memory as documents -/

/-- The server that has the documents of what is in memory. -/
def Server.of (m : Memory) : Server where
  rows
    | .identities => m.identities.rows.map identities.stored
    | .users => m.users.rows.map users.stored
  indexes
    | .identities => identifierIndex :: identityIndexes
    | .users => identifierIndex :: userIndexes

section
variable {m : Memory}

theorem picks_identity_id (h : m.Distinct) (u : Uuid) :
    identities.Picks (.of m) [("_id", u.text)] (m.identities.load u) :=
  .of_iff rfl (fun _ => get?_eq_some h.identities.ids) (fun i => (names_identity i).accepts_id)
    fun i _ => read?_identity i

theorem picks_account (h : m.Distinct) (a : Account) :
    identities.Picks (.of m) (accountFilter a) (m.identities.find a) :=
  .of_iff rfl (fun _ => Identities.find_iff h.identities)
    (fun i => (names_identity i).accepts_account) fun i _ => read?_identity i

/-- The filter that an identity is stored with picks what stands in its way. -/
theorem picks_identity (h : m.Distinct) (i : Identity) :
    identities.Picks (.of m) (identities.key i) (m.identities.existing? i) := by
  rw [Identities.existing?]
  obtain ⟨id, fullName, imageUrl, emails, external⟩ := i
  cases external with
  | none => exact picks_identity_id h id
  | some a => exact picks_account h a

theorem picks_user_id (h : m.Distinct) (dates : ∀ v ∈ m.users.rows, v.createdAt.InYears)
    (u : Uuid) : users.Picks (.of m) [("_id", u.text)] (m.users.load u) :=
  .of_iff rfl (fun _ => get?_eq_some h.users.ids) (fun v => (names_user v).accepts_id)
    fun v hv => read?_user (dates v hv)

theorem picks_user (h : m.Distinct) (dates : ∀ v ∈ m.users.rows, v.createdAt.InYears) (u : User) :
    users.Picks (.of m) (users.key u) (m.users.existing? u) :=
  .of_iff rfl (fun _ => Users.existing?_iff h.users)
    (fun v => (names_user v).accepts_account.trans (by simp [User.account]))
    fun v hv => read?_user (dates v hv)

/-- An identity that nothing stands in the way of agrees with no other on a unique index. -/
theorem apart_identity {i : Identity} (hnew : i.id ∉ m.identities.rows.map (·.id)) (h : m.Distinct)
    (hnone : m.identities.existing? i = none) :
    ∀ x ∈ (Server.of m).indexes .identities, ∀ d ∈ (Server.of m).rows .identities,
      x.clash (identities.stored i) d = false := by
  intro x hx d hd
  obtain ⟨j, hj, rfl⟩ := List.mem_map.mp hd
  refine Bool.eq_false_iff.mpr fun hclash => ?_
  rcases (names_identity i).clash_identities (names_identity j) hx hclash with hid | ⟨a, hi, hja⟩
  · exact hnew (hid ▸ List.mem_map_of_mem hj)
  · rw [(Identities.existing?_iff h.identities).mpr ⟨hj, by simp [hi, hja]⟩] at hnone
    cases hnone

theorem apart_user {u : User} (hnew : u.id ∉ m.users.rows.map (·.id)) (h : m.Distinct)
    (hnone : m.users.existing? u = none) :
    ∀ x ∈ (Server.of m).indexes .users, ∀ d ∈ (Server.of m).rows .users,
      x.clash (users.stored u) d = false := by
  intro x hx d hd
  obtain ⟨v, hv, rfl⟩ := List.mem_map.mp hd
  refine Bool.eq_false_iff.mpr fun hclash => ?_
  rcases (names_user u).clash_users (names_user v) hx hclash with hid | haccount
  · exact hnew (hid ▸ List.mem_map_of_mem hv)
  · rw [(Users.existing?_iff h.users).mpr ⟨hv, (Option.some.inj haccount).symm⟩] at hnone
    cases hnone

theorem of_createIdentity {i : Identity} (hnew : i.id ∉ m.identities.rows.map (·.id)) :
    Server.of (m.serve (.createIdentity i)).2 =
      if (m.identities.existing? i).isSome then .of m else
        (Server.of m).withRows .identities
          ((Server.of m).rows .identities ++ [identities.stored i]) := by
  rw [Memory.serve, Identities.create]
  cases m.identities.existing? i with
  | some e => rfl
  | none =>
    refine congrArg (Server.mk · _) (funext fun c => ?_)
    cases c with
    | identities =>
      change (put (·.id) i m.identities.rows).map identities.stored = _
      rw [put_of_notMem hnew, List.map_append]
      rfl
    | users => rfl

theorem of_createUser {u : User} (hnew : u.id ∉ m.users.rows.map (·.id)) :
    Server.of (m.serve (.createUser u)).2 =
      if (m.users.existing? u).isSome then .of m else
        (Server.of m).withRows .users ((Server.of m).rows .users ++ [users.stored u]) := by
  rw [Memory.serve, Users.create]
  cases m.users.existing? u with
  | some e => rfl
  | none =>
    refine congrArg (Server.mk · _) (funext fun c => ?_)
    cases c with
    | users =>
      change (put (·.id) u m.users.rows).map users.stored = _
      rw [put_of_notMem hnew, List.map_append]
      rfl
    | identities => rfl

end

/-! ### One request -/

/-- What was asked for, and what came of it. -/
abbrev Reply := (r : Request) × Except Error r.Answer

def work : (r : Request) → Routine documents (Except Error r.Answer)
  | .loadIdentity id => loadIdentity id
  | .findIdentity a => findIdentity a
  | .createIdentity i => createIdentity i
  | .loadUser id => loadUser id
  | .createUser u => createUser u

def client (r : Request) : Routine documents Reply := do return ⟨r, ← work r⟩

/-- What is left of a request once the server refused to add its record. -/
inductive Retries : Request → Routine documents Reply → Prop
  | identity (i : Identity) (cause : String) : Retries (.createIdentity i)
      (do return ⟨.createIdentity i, ← identities.reread i cause⟩)
  | user (u : User) (cause : String) : Retries (.createUser u)
      (do return ⟨.createUser u, ← users.reread u cause⟩)

section
variable {m : Memory} {r : Request} {t : Moment} {c : Command} {answer : c.Answer} {s : Server}
  {next : c.Answer → Routine documents Reply}

/-- The first answer settles a request, and it is what memory answers; or a record was not added
because another stands in its way. -/
theorem client_step (h : m.Distinct) (dates : ∀ u ∈ m.users.rows, u.createdAt.InYears)
    (hadmits : m.Admits r) (dated : ∀ u, r = .createUser u → u.createdAt.InYears)
    (hask : client r = .ask c next) (served : Serves t c answer (.of m) s) :
    (settles c answer = true ∧ next answer = .done ⟨r, .ok (m.serve r).1⟩ ∧
      s = .of (m.serve r).2) ∨
    settles c answer = false ∧ Retries r (next answer) ∧ s = .of m ∧ ∃ x, m.Keeps r x := by
  cases r with
  | loadIdentity id => exact .inl ((picks_identity_id h id).find_step hask served)
  | findIdentity a => exact .inl ((picks_account h a).find_step hask served)
  | loadUser id => exact .inl ((picks_user_id h dates id).find_step hask served)
  | createIdentity i =>
    rcases (picks_identity h i).create_step (read?_identity i) (apart_identity hadmits h) hask
      served with ⟨hsettles, hnext, hs⟩ | ⟨hsettles, ⟨cause, hnext⟩, hs, hfound⟩
    · refine .inl ⟨hsettles, ?_, hs.trans (of_createIdentity hadmits).symm⟩
      rw [hnext, Memory.serve, Identities.create]
      cases m.identities.existing? i <;> rfl
    · refine .inr ⟨hsettles, ?_, hs, hfound⟩
      rw [hnext]
      exact .identity i cause
  | createUser u =>
    rcases (picks_user h dates u).create_step (read?_user (dated u rfl)) (apart_user hadmits h) hask
      served with ⟨hsettles, hnext, hs⟩ | ⟨hsettles, ⟨cause, hnext⟩, hs, hfound⟩
    · refine .inl ⟨hsettles, ?_, hs.trans (of_createUser hadmits).symm⟩
      rw [hnext, Memory.serve, Users.create]
      cases m.users.existing? u <;> rfl
    · refine .inr ⟨hsettles, ?_, hs, hfound⟩
      rw [hnext]
      exact .user u cause

/-- The answer after that settles it. -/
theorem retries_step (h : m.Distinct) (dates : ∀ u ∈ m.users.rows, u.createdAt.InYears)
    {x : r.Answer} (hkeeps : m.Keeps r x) {left : Routine documents Reply} (hleft : Retries r left)
    (hask : left = .ask c next) (served : Serves t c answer (.of m) s) :
    settles c answer = true ∧ next answer = .done ⟨r, .ok (m.serve r).1⟩ ∧
      s = .of (m.serve r).2 := by
  cases hleft with
  | identity i cause =>
    have hpicks := picks_identity h i
    rw [show m.identities.existing? i = some x from hkeeps] at hpicks
    rw [Memory.serve, Identities.create_of_existing? hkeeps]
    exact hpicks.reread_step hask served
  | user u cause =>
    have hpicks := picks_user h dates u
    rw [show m.users.existing? u = some x from hkeeps] at hpicks
    rw [Memory.serve, Users.create_known hkeeps]
    exact hpicks.reread_step hask served

end

/-! ### Many requests -/

variable {ι : Type}

/-- Whose requests were settled, in the order in which they were. -/
def commits (es : List (Event documents ι)) : List ι :=
  (es.filter fun e => settles e.call e.answer).map (·.who)

theorem commits_concat (es : List (Event documents ι)) (e : Event documents ι) :
    commits (es ++ [e]) = commits es ++ if settles e.call e.answer then [e.who] else [] := by
  rw [commits, List.filter_append, List.map_append, ← commits, List.filter_singleton]
  cases settles e.call e.answer <;> rfl

/-- The memory after the requests that were settled. -/
def settled (requests : ι → Request) (es : List (Event documents ι)) : Memory :=
  .served ((commits es).map requests)

theorem settled_concat (requests : ι → Request) (es : List (Event documents ι))
    (e : Event documents ι) : settled requests (es ++ [e]) =
      if settles e.call e.answer then ((settled requests es).serve (requests e.who)).2
      else settled requests es := by
  rw [settled, commits_concat, List.map_append]
  cases settles e.call e.answer with
  | true => exact Memory.served_concat ..
  | false =>
    rw [if_neg Bool.false_ne_true, if_neg Bool.false_ne_true, List.map_nil, List.append_nil]
    rfl

section
variable {requests : ι → Request} {es : List (Event documents ι)} {k j : ι}

/-- No two requests are to store records with one identifier, and dates lie in the years that
timestamps have. -/
structure Proper (requests : ι → Request) : Prop where
  identities : ∀ k l i j, requests k = .createIdentity i → requests l = .createIdentity j →
    i.id = j.id → k = l
  users : ∀ k l u v, requests k = .createUser u → requests l = .createUser v → u.id = v.id → k = l
  dates : ∀ k u, requests k = .createUser u → u.createdAt.InYears

theorem Proper.dates_settled (h : Proper requests) :
    ∀ u ∈ (settled requests es).users.rows, u.createdAt.InYears := by
  intro u hu
  obtain ⟨l, -, hl⟩ := List.mem_map.mp ((Memory.mem_served _).2 u hu)
  exact h.dates l u hl

/-- What is not settled yet brings an identifier of its own. -/
theorem Proper.admits (h : Proper requests) (hk : k ∉ commits es) :
    (settled requests es).Admits (requests k) := by
  cases hr : requests k with
  | createIdentity i =>
    intro hid
    obtain ⟨j, hj, hij⟩ := List.mem_map.mp hid
    obtain ⟨l, hl, hlj⟩ := List.mem_map.mp ((Memory.mem_served _).1 j hj)
    exact hk (h.identities l k j i hlj hr hij ▸ hl)
  | createUser u =>
    intro hid
    obtain ⟨v, hv, huv⟩ := List.mem_map.mp hid
    obtain ⟨l, hl, hlv⟩ := List.mem_map.mp ((Memory.mem_served _).2 v hv)
    exact hk (h.users l k v u hlv hr huv ▸ hl)
  | _ => trivial

end

variable [DecidableEq ι]

/-- How far a client has come: it has asked nothing, its upsert was refused, or it has what memory
answered when it was its turn. -/
inductive Stage (requests : ι → Request) (es : List (Event documents ι)) (k : ι) :
    Routine documents Reply → Prop
  | begins (due : k ∉ commits es) (first : history k es = []) :
      Stage requests es k (client (requests k))
  | retries {left : Routine documents Reply} {x : (requests k).Answer} (due : k ∉ commits es)
      (second : (history k es).length = 1) (hleft : Retries (requests k) left)
      (keeps : (settled requests es).Keeps (requests k) x) : Stage requests es k left
  | ended (before after : List ι) (turn : commits es = before ++ k :: after)
      (keeps : (settled requests es).Keeps (requests k)
        ((Memory.served (before.map requests)).serve (requests k)).1) :
      Stage requests es k
        (.done ⟨requests k, .ok ((Memory.served (before.map requests)).serve (requests k)).1⟩)

/-- What carries a run: the server has what memory has after the requests that were settled. -/
structure InOrder (requests : ι → Request) (es : List (Event documents ι))
    (now : ι → Routine documents Reply) (s : Server) : Prop where
  once : (commits es).Nodup
  server : s = .of (settled requests es)
  stage : ∀ k, Stage requests es k (now k)

section
variable {requests : ι → Request} {es : List (Event documents ι)} {k j : ι}
  {now : ι → Routine documents Reply} {s s' : Server}

/-- What others are answered changes nothing for a client. -/
theorem Stage.later {left : Routine documents Reply} (h : Stage requests es j left)
    {e : Event documents ι} (hne : e.who ≠ j)
    (hadmits : (settled requests es).Admits (requests e.who)) :
    Stage requests (es ++ [e]) j left := by
  have hdue (due : j ∉ commits es) : j ∉ commits (es ++ [e]) := by
    rw [commits_concat]
    split <;> simp [due, hne.symm]
  have hhistory : history j (es ++ [e]) = history j es := by simp [hne]
  have hkeeps {x : (requests j).Answer} (hx : (settled requests es).Keeps (requests j) x) :
      (settled requests (es ++ [e])).Keeps (requests j) x := by
    rw [settled_concat]
    split
    · exact hx.serve hadmits
    · exact hx
  cases h with
  | begins due first => exact .begins (hdue due) (hhistory.trans first)
  | retries due second hleft keeps =>
    exact .retries (hdue due) (hhistory ▸ second) hleft (hkeeps keeps)
  | ended before after turn keeps =>
    -- its turn stays its turn: whoever settles now comes behind
    let rest := if settles e.call e.answer then [e.who] else []
    refine .ended before (after ++ rest) ?_ (hkeeps keeps)
    rw [commits_concat, turn, List.append_assoc, List.cons_append]

theorem InOrder.settle (h : InOrder requests es now s) {e : Event documents ι}
    (due : e.who ∉ commits es) (hadmits : (settled requests es).Admits (requests e.who))
    (hsettles : settles e.call e.answer = true) :
    InOrder requests (es ++ [e])
      (Function.update now e.who
        (.done ⟨requests e.who, .ok ((settled requests es).serve (requests e.who)).1⟩))
      (.of ((settled requests es).serve (requests e.who)).2) := by
  have hcommits : commits (es ++ [e]) = commits es ++ [e.who] := by
    rw [commits_concat, if_pos hsettles]
  have hsettled : settled requests (es ++ [e]) =
      ((settled requests es).serve (requests e.who)).2 := by
    rw [settled_concat, if_pos hsettles]
  refine ⟨?_, by rw [hsettled], fun j => ?_⟩
  · rw [hcommits, ← List.concat_eq_append]
    exact h.once.concat due
  · by_cases hj : e.who = j
    · subst hj
      rw [Function.update_self]
      refine .ended (commits es) [] hcommits ?_
      rw [hsettled]
      exact Memory.keeps_serve (Memory.distinct_served _) _
    · rw [Function.update_of_ne (Ne.symm hj)]
      exact (h.stage j).later hj hadmits

theorem InOrder.refuse (h : InOrder requests es now s) {e : Event documents ι}
    (due : e.who ∉ commits es) (first : history e.who es = [])
    (hadmits : (settled requests es).Admits (requests e.who))
    (hsettles : settles e.call e.answer = false) {left : Routine documents Reply}
    (hleft : Retries (requests e.who) left) {x : (requests e.who).Answer}
    (keeps : (settled requests es).Keeps (requests e.who) x) :
    InOrder requests (es ++ [e]) (Function.update now e.who left) (.of (settled requests es)) := by
  have hcommits : commits (es ++ [e]) = commits es := by
    rw [commits_concat, hsettles, if_neg Bool.false_ne_true, List.append_nil]
  have hsettled : settled requests (es ++ [e]) = settled requests es := by
    rw [settled, hcommits, settled]
  refine ⟨by rw [hcommits]; exact h.once, by rw [hsettled], fun j => ?_⟩
  by_cases hj : e.who = j
  · subst hj
    rw [Function.update_self]
    exact .retries (by rwa [hcommits]) (by simp [first]) hleft (by rwa [hsettled])
  · rw [Function.update_of_ne (Ne.symm hj)]
    exact (h.stage j).later hj hadmits

theorem InOrder.step (proper : Proper requests) (h : InOrder requests es now s) {t : Moment}
    {c : Command} {answer : c.Answer} {next : c.Answer → Routine documents Reply}
    (hask : now k = .ask c next) (served : Serves t c answer s s') :
    InOrder requests (es ++ [⟨k, t, c, answer⟩]) (Function.update now k (next answer)) s' := by
  have distinct : (settled requests es).Distinct := Memory.distinct_served _
  have dates : ∀ u ∈ (settled requests es).users.rows, u.createdAt.InYears := proper.dates_settled
  have hk := h.stage k
  rw [h.server] at served
  -- the client that asks settles its request or is refused; the others stay where they are
  generalize hnow : now k = left at hk
  rw [hnow] at hask
  cases hk with
  | begins due first =>
    have hadmits := proper.admits due
    rcases client_step distinct dates hadmits (proper.dates k) hask served with
      ⟨hsettles, hnext, rfl⟩ | ⟨hsettles, hleft, rfl, x, keeps⟩
    · rw [hnext]
      exact h.settle (e := ⟨k, t, c, answer⟩) due hadmits hsettles
    · exact h.refuse (e := ⟨k, t, c, answer⟩) due first hadmits hsettles hleft keeps
  | retries due second hleft keeps =>
    obtain ⟨hsettles, hnext, rfl⟩ := retries_step distinct dates keeps hleft hask served
    rw [hnext]
    exact h.settle (e := ⟨k, t, c, answer⟩) due (proper.admits due) hsettles
  | ended => cases hask

/-- A server with the indexes of the records and without any. -/
abbrev bare : Server := Remote.empty.documents

theorem inOrder_bare : InOrder requests [] (fun k => client (requests k)) bare where
  once := List.nodup_nil
  server := by
    refine congrArg₂ Server.mk (funext fun c => ?_) (funext fun c => ?_)
    · cases c <;> rfl
    · cases c <;> rfl
  stage k := .begins List.not_mem_nil rfl

theorem inOrder_run (proper : Proper requests)
    (run : Run Serves (fun k => client (requests k)) bare es now s) :
    InOrder requests es now s := by
  induction run with
  | nothing => exact inOrder_bare
  | step _ hask served ih => exact ih.step proper hask served

/-! ### What requests return -/

theorem client_asks (r : Request) : ∃ c next, client r = .ask c next := by
  cases r <;> exact ⟨_, _, rfl⟩

theorem Retries.asks {r : Request} {left : Routine documents Reply} (h : Retries r left) :
    ∃ c next, left = .ask c next := by
  cases h <;> exact ⟨_, _, rfl⟩

/-- A request has returned if and only if it was settled. -/
theorem Stage.done_iff {left : Routine documents Reply} (h : Stage requests es k left) :
    (∃ x, left = .done x) ↔ k ∈ commits es := by
  cases h with
  | begins due =>
    obtain ⟨c, next, hasks⟩ := client_asks (requests k)
    simp [hasks, due]
  | retries due _ hleft =>
    obtain ⟨c, next, hasks⟩ := hleft.asks
    simp [hasks, due]
  | ended _ _ turn => simp [turn]

theorem Stage.mem_of_two {left : Routine documents Reply} (h : Stage requests es k left)
    (two : 2 ≤ (history k es).length) : k ∈ commits es := by
  cases h with
  | begins _ first =>
    simp [first] at two
  | retries _ second =>
    simp [second] at two
  | ended _ _ turn => simp [turn]

namespace InOrder

theorem at_turn (h : InOrder requests es now s) {before after : List ι}
    (turn : commits es = before ++ k :: after) : now k =
      .done ⟨requests k, .ok ((Memory.served (before.map requests)).serve (requests k)).1⟩ := by
  have hk := h.stage k
  have hmem : k ∈ commits es := by simp [turn]
  generalize now k = left at hk
  cases hk with
  | begins due => exact absurd hmem due
  | retries due => exact absurd hmem due
  | ended _ _ turn' =>
    have once := h.once
    rw [turn, List.nodup_middle, List.nodup_cons, List.mem_append, not_or] at once
    rw [turn, List.append_cons_inj_of_notMem once.1.1 once.1.2] at turn'
    rw [turn'.1]

/-- What a request returned stays what its like will find. -/
theorem returned (h : InOrder requests es now s) {r : Request} (hr : requests k = r)
    (hk : k ∈ commits es) :
    ∃ x, now k = .done ⟨r, .ok x⟩ ∧ (settled requests es).Keeps r x := by
  subst hr
  have hstage := h.stage k
  generalize now k = left at hstage
  cases hstage with
  | begins due => exact absurd hk due
  | retries due => exact absurd hk due
  | ended _ _ _ keeps => exact ⟨_, rfl, keeps⟩

end InOrder

/-- In whatever order a server answers the commands of requests that bring identifiers of their own,
a request has returned once it is settled, which takes two answers at most. What it returned is what
memory answers when requests are served whole, in the order in which they were settled; so all that
store a record for one account return the same one. -/
theorem answers_in_order (proper : Proper requests)
    (run : Run Serves (fun k => client (requests k)) bare es now s) :
    (commits es).Nodup ∧
    (∀ k, (∃ x, now k = .done x) ↔ k ∈ commits es) ∧
    (∀ k, 2 ≤ (history k es).length → k ∈ commits es) ∧
    (∀ before k after, commits es = before ++ k :: after → now k =
      .done ⟨requests k, .ok ((Memory.served (before.map requests)).serve (requests k)).1⟩) ∧
    (∀ k ∈ commits es, ∀ l ∈ commits es, ∀ i j a, requests k = .createIdentity i →
      requests l = .createIdentity j → i.external = some a → j.external = some a →
      ∃ x, now k = .done ⟨.createIdentity i, .ok x⟩ ∧ now l = .done ⟨.createIdentity j, .ok x⟩) ∧
    ∀ k ∈ commits es, ∀ l ∈ commits es, ∀ u v, requests k = .createUser u →
      requests l = .createUser v → u.account = v.account →
      ∃ x, now k = .done ⟨.createUser u, .ok x⟩ ∧ now l = .done ⟨.createUser v, .ok x⟩ := by
  have h := inOrder_run proper run
  refine ⟨h.once, fun k => (h.stage k).done_iff, fun k => (h.stage k).mem_of_two,
    fun before k after => h.at_turn, ?_, ?_⟩
  · intro k hk l hl i j a hi hj hia hja
    obtain ⟨x, hx, hkeeps⟩ := h.returned hi hk
    obtain ⟨y, hy, hkeeps'⟩ := h.returned hj hl
    have hfound : (settled requests es).identities.find a = some x := by
      simpa only [Memory.Keeps, Identities.existing?, hia] using hkeeps
    have hfound' : (settled requests es).identities.find a = some y := by
      simpa only [Memory.Keeps, Identities.existing?, hja] using hkeeps'
    obtain rfl : x = y := Option.some.inj (hfound.symm.trans hfound')
    exact ⟨x, hx, hy⟩
  · intro k hk l hl u v hu hv huv
    obtain ⟨x, hx, hkeeps⟩ := h.returned hu hk
    obtain ⟨y, hy, hkeeps'⟩ := h.returned hv hl
    have hsame : some x = some y :=
      hkeeps.symm.trans ((Users.existing?_congr huv).trans hkeeps')
    obtain rfl : x = y := Option.some.inj hsame
    exact ⟨x, hx, hy⟩

end

/-- Two identities of one account. -/
def sampleIdentity (second : Bool) : Identity :=
  ⟨⟨if second then 1 else 0⟩, "Mona", "", [], some ⟨.github, "7"⟩⟩

def sampleRequests (second : Bool) : Request := .createIdentity (sampleIdentity second)

theorem proper_sampleRequests : Proper sampleRequests where
  identities k l i j hi hj hij := by
    obtain rfl := Request.createIdentity.inj hi
    obtain rfl := Request.createIdentity.inj hj
    cases k <;> cases l <;> first | rfl | exact absurd hij (by decide)
  users k l u v hu := by cases hu
  dates k u hu := by cases hu

/-- The second is refused as the first was stored meanwhile, and looks for it. -/
theorem answers_in_order_sample : ∃ es now s,
    Run Serves (fun k => client (sampleRequests k)) bare es now s ∧
    commits es = [false, true] ∧
    now true = .done ⟨sampleRequests true, .ok (sampleIdentity false)⟩ := by
  let stored := identities.stored (sampleIdentity false)
  have no (d : Document) : ¬ bare.Has .identities (identities.key (sampleIdentity false)) d :=
    fun hd => List.not_mem_nil hd.1
  have has : (bare.withRows .identities [stored]).Has .identities
      (identities.key (sampleIdentity true)) stored :=
    ⟨List.mem_singleton.mpr rfl, (names_identity (sampleIdentity false)).accepts_account.mpr rfl⟩
  have begun : Run Serves (fun k => client (sampleRequests k)) bare [] _ bare := .nothing
  have added := begun.step (k := false) (t := ⟨0⟩) rfl (.inserted no fun _ _ d hd => nomatch hd)
  have refused := added.step (k := true) (t := ⟨1⟩) rfl (.lost "E11000 duplicate key error" has)
  have looked := refused.again ⟨2⟩ _ (.found has)
  refine ⟨_, _, _, looked, rfl, ?_⟩
  exact (answers_in_order proper_sampleRequests looked).2.2.2.1 [false] true [] rfl

end SignOn.Documents
