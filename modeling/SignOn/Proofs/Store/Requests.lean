import SignOn.Proofs.Store.Permanence

/-!
What is asked of the tables of identities and users, answered one after the other. As long as no
identifier comes twice the tables only grow, and what is stored for an account is stored for good.
-/
namespace SignOn.Store

inductive Request where
  | loadIdentity (id : Uuid)
  | findIdentity (account : Account)
  | createIdentity (identity : Identity)
  | loadUser (id : Uuid)
  | createUser (user : User)

abbrev Request.Answer : Request → Type
  | loadIdentity _ => Option Identity
  | findIdentity _ => Option Identity
  | createIdentity _ => Identity
  | loadUser _ => Option User
  | createUser _ => User

theorem mem_of_mem_put {α : Type} {id : α → Uuid} {a b : α} {rows : List α}
    (h : b ∈ put id a rows) : b = a ∨ b ∈ rows := by
  induction rows with
  | nil => exact .inl (List.mem_singleton.mp h)
  | cons c rows ih =>
    rw [put] at h
    split at h
    · exact (List.mem_cons.mp h).imp_right (List.mem_cons_of_mem c)
    · rcases List.mem_cons.mp h with rfl | h
      · exact .inr List.mem_cons_self
      · exact (ih h).imp_right (List.mem_cons_of_mem c)

/-! ### Identities -/

namespace Identities

variable {s t : Identities} {i j : Identity}

/-- What stands in the way of a new identity is an identity of its account, or one of its identifier
where it has no account. -/
theorem existing?_iff (h : s.Distinct) : s.existing? i = some j ↔
    j ∈ s.rows ∧ if i.external = none then j.id = i.id else j.external = i.external := by
  rw [existing?]
  cases i.external with
  | none => exact (get?_eq_some h.ids).trans (by simp)
  | some a => exact (find_iff h).trans (by simp)

theorem existing?_of_prefix (h : s.rows <+: t.rows) (hs : s.existing? i = some j) :
    t.existing? i = some j := by
  rw [existing?] at hs ⊢
  cases ha : i.external with
  | none =>
    rw [ha] at hs
    exact h.find?_eq_some hs
  | some a =>
    rw [ha] at hs
    exact h.find?_eq_some hs

theorem create_of_existing? (h : s.existing? i = some j) : s.create i = (j, s) := by
  rw [create, h]

theorem existing?_create (h : s.Distinct) : (s.create i).2.existing? i = some (s.create i).1 := by
  cases he : s.existing? i with
  | some e => rwa [create_of_existing? he]
  | none =>
    refine (existing?_iff (h.create i)).mpr ⟨mem_create h i, ?_⟩
    rw [create, he]
    simp

theorem mem_of_create (h : j ∈ (s.create i).2.rows) : j = i ∨ j ∈ s.rows := by
  rw [create] at h
  cases he : s.existing? i with
  | some e => exact .inr (by rwa [he] at h)
  | none =>
    rw [he] at h
    exact mem_of_mem_put h

theorem prefix_create (hnew : i.id ∉ s.rows.map (·.id)) : s.rows <+: (s.create i).2.rows := by
  rw [create]
  cases s.existing? i with
  | some e => exact List.prefix_rfl
  | none => exact ⟨[i], (put_of_notMem hnew).symm⟩

end Identities

/-! ### Users -/

namespace Users

variable {s : Users} {u v : User}

theorem existing?_congr (h : u.account = v.account) : s.existing? u = s.existing? v := by
  obtain ⟨hprovider, hid⟩ := Account.mk.inj h
  rw [existing?, existing?, hprovider, hid]

theorem existing?_create (h : s.Distinct) : (s.create u).2.existing? u = some (s.create u).1 := by
  cases he : s.existing? u with
  | some e => rwa [create_known he]
  | none =>
    refine (existing?_iff (h.create u)).mpr ⟨mem_create h u, ?_⟩
    rw [create, he]

theorem mem_of_create (h : v ∈ (s.create u).2.rows) : v = u ∨ v ∈ s.rows := by
  rw [create] at h
  cases he : s.existing? u with
  | some e => exact .inr (by rwa [he] at h)
  | none =>
    rw [he] at h
    exact mem_of_mem_put h

theorem prefix_create (hnew : u.id ∉ s.rows.map (·.id)) : s.rows <+: (s.create u).2.rows := by
  rw [create]
  cases s.existing? u with
  | some e => exact List.prefix_rfl
  | none => exact ⟨[u], (put_of_notMem hnew).symm⟩

end Users

/-! ### Requests one after the other -/

namespace Memory

variable {m m' : Memory} {r r' : Request}

def serve (r : Request) (m : Memory) : r.Answer × Memory :=
  match r with
  | .loadIdentity id => (m.identities.load id, m)
  | .findIdentity a => (m.identities.find a, m)
  | .createIdentity i =>
    let (stored, identities) := m.identities.create i
    (stored, { m with identities := identities })
  | .loadUser id => (m.users.load id, m)
  | .createUser u =>
    let (stored, users) := m.users.create u
    (stored, { m with users := users })

/-- The memory after requests, which begins empty. -/
def served (rs : List Request) : Memory := rs.foldl (fun m r => (m.serve r).2) empty

@[simp] theorem served_concat (rs : List Request) (r : Request) :
    served (rs ++ [r]) = ((served rs).serve r).2 := by simp [served]

theorem Distinct.serve (h : m.Distinct) (r : Request) : (m.serve r).2.Distinct := by
  cases r with
  | createIdentity i => exact ⟨h.identities.create i, h.users⟩
  | createUser u => exact ⟨h.identities, h.users.create u⟩
  | _ => exact h

theorem distinct_served (rs : List Request) : (served rs).Distinct := by
  induction rs using List.reverseRecOn with
  | nil => exact distinct_empty
  | append_singleton rs r ih =>
    rw [served_concat]
    exact ih.serve r

theorem mem_identities_serve {i : Identity} (h : i ∈ (m.serve r).2.identities.rows) :
    r = .createIdentity i ∨ i ∈ m.identities.rows := by
  cases r with
  | createIdentity j => exact (Identities.mem_of_create h).imp_left fun hi => by rw [hi]
  | _ => exact .inr h

theorem mem_users_serve {u : User} (h : u ∈ (m.serve r).2.users.rows) :
    r = .createUser u ∨ u ∈ m.users.rows := by
  cases r with
  | createUser v => exact (Users.mem_of_create h).imp_left fun hu => by rw [hu]
  | _ => exact .inr h

/-- Only what was to be stored is. -/
theorem mem_served (rs : List Request) :
    (∀ i ∈ (served rs).identities.rows, .createIdentity i ∈ rs) ∧
      ∀ u ∈ (served rs).users.rows, .createUser u ∈ rs := by
  induction rs using List.reverseRecOn with
  | nil => exact ⟨List.forall_mem_nil _, List.forall_mem_nil _⟩
  | append_singleton rs r ih =>
    rw [served_concat]
    refine ⟨fun i hi => ?_, fun u hu => ?_⟩
    · rcases mem_identities_serve hi with rfl | hi
      · exact List.mem_append_right _ (List.mem_singleton.mpr rfl)
      · exact List.mem_append_left _ (ih.1 i hi)
    · rcases mem_users_serve hu with rfl | hu
      · exact List.mem_append_right _ (List.mem_singleton.mpr rfl)
      · exact List.mem_append_left _ (ih.2 u hu)

/-- A request brings no identifier that a record of its kind has. -/
def Admits (m : Memory) : Request → Prop
  | .createIdentity i => i.id ∉ m.identities.rows.map (·.id)
  | .createUser u => u.id ∉ m.users.rows.map (·.id)
  | _ => True

/-- What was answered to a request that creates a record is what its like will find. -/
def Keeps (m : Memory) : (r : Request) → r.Answer → Prop
  | .createIdentity i, x => m.identities.existing? i = some x
  | .createUser u, x => m.users.existing? u = some x
  | _, _ => True

theorem keeps_serve (h : m.Distinct) (r : Request) : (m.serve r).2.Keeps r (m.serve r).1 := by
  cases r with
  | createIdentity i => exact Identities.existing?_create h.identities
  | createUser u => exact Users.existing?_create h.users
  | _ => trivial

theorem Keeps.serve {x : r.Answer} (h : m.Keeps r x) (hadmits : m.Admits r') :
    (m.serve r').2.Keeps r x := by
  have hgrows : m.identities.rows <+: (m.serve r').2.identities.rows ∧
      m.users.rows <+: (m.serve r').2.users.rows := by
    cases r' with
    | createIdentity i => exact ⟨Identities.prefix_create hadmits, List.prefix_rfl⟩
    | createUser u => exact ⟨List.prefix_rfl, Users.prefix_create hadmits⟩
    | _ => exact ⟨List.prefix_rfl, List.prefix_rfl⟩
  cases r with
  | createIdentity i => exact Identities.existing?_of_prefix hgrows.1 h
  | createUser u => exact hgrows.2.find?_eq_some h
  | _ => trivial

end Memory
end SignOn.Store
