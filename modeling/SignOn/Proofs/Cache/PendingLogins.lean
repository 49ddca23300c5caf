import SignOn.Cache.PendingLogins
import SignOn.Proofs.Login.Pending
import SignOn.Proofs.Store.Lifetimes
import SignOn.Text.Utf8.Lemmas

/-!
Pending sign-ons in a cache are handed out just as those in memory. A cache need only keep its word
(`KeepsWord`): a value that is kept for some seconds is there until they are over or it is taken.
The keys are digests and the values texts; both tell apart what they were made of.
-/
namespace SignOn.Cache

open Store Text.Utf8

/-! ### Caches -/

/-- The command by which a cache does what an act says, where values are kept for some seconds. -/
def command (seconds : Nat) (c : Act String) : Command :=
  match c.value? with
  | some value => .set c.key value seconds
  | none => .take c.key

variable {σ : Type} (answer : Moment → (c : Command) → σ → c.Answer × σ)

/-- A cache after the commands of acts. -/
def afterCommands (seconds : Nat) (acts : List (Act String)) (s : σ) : σ :=
  acts.foldl (fun s c => (answer c.time (command seconds c) s).2) s

@[simp] theorem afterCommands_concat (seconds : Nat) (acts : List (Act String)) (c : Act String)
    (s : σ) : afterCommands answer seconds (acts ++ [c]) s =
      (answer c.time (command seconds c) (afterCommands answer seconds acts s)).2 := by
  simp [afterCommands]

/-- A cache takes in every value, keeps it for the seconds that it is told, and gives and takes it
away in one. -/
structure KeepsWord (seconds : Nat) (first : σ) : Prop where
  set : ∀ acts now key value, Chronological (acts ++ [⟨now, key, some value⟩]) →
    (answer now (.set key value seconds) (afterCommands answer seconds acts first)).1 = .ok ()
  take : ∀ acts now key, Chronological (acts ++ [⟨now, key, none⟩]) →
    ∃ found, (answer now (.take key) (afterCommands answer seconds acts first)).1 = .ok found ∧
      ∀ value, found = some value ↔ Held (seconds * 10 ^ 9) acts key value now

theorem tracks_afterCommands (seconds : Nat) (acts : List (Act String)) :
    Tracks (seconds * 10 ^ 9) (·.value) (·.expiry) acts
      (afterCommands Server.answer seconds acts .empty).entries := by
  induction acts using List.reverseRecOn with
  | nil => exact .empty
  | append_singleton acts c ih =>
    obtain ⟨now, key, value?⟩ := c
    rw [afterCommands_concat]
    cases value? with
    | none => exact ih.take now key
    | some value =>
      refine ih.keep (e := ⟨value, now.addSeconds seconds⟩) ?_ (fun e => e.1 != key) ?_ ?_
      · simp [Moment.addSeconds]
      · exact fun x hx => bne_iff_ne.mp hx
      · exact fun x hne _ => bne_iff_ne.mpr hne

theorem keepsWord_server (seconds : Nat) : KeepsWord Server.answer seconds .empty where
  set _ _ _ _ _ := rfl
  take acts now key h := by
    refine ⟨_, rfl, fun value => ?_⟩
    rw [← (tracks_afterCommands seconds acts).found_iff h.le_of_concat]
    generalize (afterCommands Server.answer seconds acts .empty).entries.lookup key = found
    cases found <;> simp [Option.filter, ite_eq_iff]

/-! ### What the cache sees -/

/-- States of one key have one digest. -/
theorem digest_of_key {state other : String} (h : key state = key other) :
    Digest.Sha256.digest (encode state) = Digest.Sha256.digest (encode other) := by
  have hchars := congrArg String.toList h
  simp only [key, String.toList_append, String.toList_ofList, List.append_cancel_left_eq] at hchars
  have hbytes := congrArg Text.Hex.toBytes? hchars
  simpa only [Text.Hex.toBytes?_ofBytes, Option.some.injEq] using hbytes

/-- An act on pending sign-ons, as a cache sees it. -/
def seen (c : Act Login.Pending) : Act String :=
  ⟨c.time, key c.key, c.value?.map fun p => p.toJson.text⟩

theorem chronological_seen {acts : List (Act Login.Pending)} :
    Chronological (acts.map seen) ↔ Chronological acts := List.pairwise_map

theorem held_seen {life : Nat} {acts : List (Act Login.Pending)} {state text : String}
    {now : Moment} (apart : ∀ c ∈ acts, key c.key = key state → c.key = state) :
    Held life (acts.map seen) (key state) text now ↔
      ∃ p, Held life acts state p now ∧ p.toJson.text = text := by
  have last (start : Moment) : LastKept (acts.map seen) (key state) text start ↔
      ∃ p, LastKept acts state p start ∧ p.toJson.text = text := lastKept_map (fun _ => rfl) apart
  simp only [Held, last]
  constructor
  · rintro ⟨start, ⟨p, hlast, htext⟩, hlive⟩
    exact ⟨p, ⟨start, hlast, hlive⟩, htext⟩
  · rintro ⟨p, ⟨start, hlast, hlive⟩, htext⟩
    exact ⟨start, ⟨p, hlast, htext⟩, hlive⟩

/-! ### Pending sign-ons in a cache -/

section
variable (answer : (c : Command) → σ → c.Answer × σ) (life : Nat) (state : String)
  (p : Login.Pending) (s : σ)

@[simp] theorem run_ask (c : Command) : (ask c).run answer s = answer c s := rfl

/-- Each is one command, whatever is answered to it. -/
theorem run_save_snd : ((save life state p).run answer s).2 =
    (answer (.set (key state) p.toJson.text (seconds life)) s).2 := by
  rw [save, Routine.run_bind, run_ask]
  split <;> rfl

theorem run_take_snd :
    ((take state).run answer s).2 = (answer (.take (key state)) s).2 := by
  rw [take, Routine.run_bind, run_ask]
  split
  · rfl
  · rfl
  · split <;> rfl

variable {answer life state p s}

theorem run_save_of_ok
    (h : (answer (.set (key state) p.toJson.text (seconds life)) s).1 = .ok ()) :
    ((save life state p).run answer s).1 = .ok () := by
  rw [save, Routine.run_bind, run_ask, h]
  rfl

theorem run_take_of_ok {p? : Option Login.Pending}
    (h : (answer (.take (key state)) s).1 = .ok (p?.map fun p => p.toJson.text))
    (dates : ∀ p, p? = some p → p.createdAt.InYears) :
    ((take state).run answer s).1 = .ok p? := by
  rw [take, Routine.run_bind, run_ask, h]
  cases p? with
  | none => rfl
  | some p =>
    simp only [Option.map_some, Login.Pending.parse?_text (dates p rfl)]
    rfl

end

/-- Does what an act says; what is handed out is a record that was taken. -/
def act (life : Nat) (c : Act Login.Pending) (s : σ) : Except Error (Option Login.Pending) × σ :=
  match c.value? with
  | some p =>
    let (saved, s) := (save life c.key p).run (answer c.time) s
    (saved.map fun () => none, s)
  | none => (take c.key).run (answer c.time) s

/-- A cache after acts on pending sign-ons. -/
def after (life : Nat) (acts : List (Act Login.Pending)) (s : σ) : σ :=
  acts.foldl (fun s c => (act answer life c s).2) s

theorem after_eq (life : Nat) (acts : List (Act Login.Pending)) (s : σ) :
    after answer life acts s = afterCommands answer (seconds life) (acts.map seen) s := by
  have hact (c : Act Login.Pending) (s : σ) : (act answer life c s).2 =
      (answer c.time (command (seconds life) (seen c)) s).2 := by
    obtain ⟨now, state, value?⟩ := c
    cases value? with
    | some p => exact run_save_snd ..
    | none => exact run_take_snd ..
  simp only [after, afterCommands, hact, List.foldl_map]
  rfl

variable {answer}

/-- What a cache that keeps its word has for a state is the text of what is there in memory. -/
theorem found_eq {n : Nat} {first : σ} (word : KeepsWord answer n first)
    {acts : List (Act Login.Pending)} {now : Moment} {state : String} {m : PendingLogins}
    (hm : PendingLogins.after (n * 10 ^ 9) acts = some m)
    (h : Chronological (acts ++ [⟨now, state, none⟩]))
    (apart : ∀ c ∈ acts, key c.key = key state → c.key = state) :
    (answer now (.take (key state)) (afterCommands answer n (acts.map seen) first)).1 =
      .ok ((m.take now state).1.map fun p => p.toJson.text) := by
  have hseen : Chronological (acts.map seen ++ [⟨now, key state, none⟩]) := by
    simpa [seen] using chronological_seen.mpr h
  obtain ⟨found, hanswer, hfound⟩ := word.take (acts.map seen) now (key state) hseen
  rw [hanswer]
  refine congrArg Except.ok (Option.ext fun text => ?_)
  rw [hfound, held_seen apart, Option.map_eq_some_iff]
  simp only [PendingLogins.take_after hm h]

/-- Pending sign-ons that are kept for whole seconds, whose end a clock can tell, in a cache that
keeps its word and under states whose digests differ, are handed out as they are in memory: act for
act the answer is the same, and none is an error. -/
theorem answers_as_memory {n : Nat} (hn : 1 ≤ n) {first : σ} (word : KeepsWord answer n first)
    {acts : List (Act Login.Pending)} (h : Chronological acts)
    (ends : PendingLogins.CanKeepAll (n * 10 ^ 9) acts)
    (apart : ∀ c ∈ acts, ∀ d ∈ acts,
      Digest.Sha256.digest (encode c.key) = Digest.Sha256.digest (encode d.key) → c.key = d.key)
    (dates : ∀ c ∈ acts, ∀ p, c.value? = some p →
      0 ≤ p.createdAt.date.year ∧ p.createdAt.date.year ≤ 9999) :
    ∀ before c rest, acts = before ++ c :: rest →
      ∃ m x m', PendingLogins.after (n * 10 ^ 9) before = some m ∧
        m.act (n * 10 ^ 9) c = some (x, m') ∧
        (act answer (n * 10 ^ 9) c (after answer (n * 10 ^ 9) before first)).1 = .ok x := by
  rintro before c rest rfl
  have hseconds : seconds (n * 10 ^ 9) = n := by
    rw [seconds, Nat.mul_div_cancel _ (by decide)]
    exact Nat.max_eq_left hn
  have hbefore : PendingLogins.CanKeepAll (n * 10 ^ 9) before := fun d hd =>
    ends d (List.mem_append_left _ hd)
  obtain ⟨m, hm⟩ := PendingLogins.exists_after_iff.mpr hbefore
  obtain ⟨⟨x, m'⟩, hact⟩ := PendingLogins.exists_act m (ends c (by simp))
  refine ⟨m, x, m', hm, hact, ?_⟩
  rw [after_eq, hseconds]
  obtain ⟨now, state, value?⟩ := c
  cases value? with
  | some p =>
    have hseen : Chronological (before.map seen ++ [⟨now, key state, some p.toJson.text⟩]) := by
      simpa [seen] using chronological_seen.mpr h.until
    have hsaved : ((save (n * 10 ^ 9) state p).run (answer now)
        (afterCommands answer n (before.map seen) first)).1 = .ok () := by
      refine run_save_of_ok ?_
      rw [hseconds]
      exact word.set (before.map seen) now (key state) p.toJson.text hseen
    obtain ⟨_, -, heq⟩ := Option.map_eq_some_iff.mp hact
    cases heq
    exact congrArg (Except.map fun () => none) hsaved
  | none =>
    cases hact
    refine run_take_of_ok (found_eq word hm h.until fun c hc hkey => ?_) fun p hp => ?_
    · exact apart c (List.mem_append_left _ hc) _ (List.mem_append_right _ List.mem_cons_self)
        (digest_of_key hkey)
    · obtain ⟨start, hlast, -⟩ := (PendingLogins.take_after hm h.until p).mp hp
      obtain ⟨hfirst, hlastYear⟩ := dates _ (List.mem_append_left _ hlast.mem) p rfl
      exact ⟨Int.le_trans (by decide) hfirst, Int.le_trans hlastYear (by decide)⟩

/-- Two sign-ons that are kept for ten minutes. The first comes back a second before they are over,
the other as they are. -/
def sampleActs : List (Act Login.Pending) :=
  [⟨.ofSeconds 0, "a", some default⟩, ⟨.ofSeconds 1, "b", some default⟩,
    ⟨.ofSeconds 599, "a", none⟩, ⟨.ofSeconds 601, "b", none⟩]

theorem answers_as_memory_sample :
    (act Server.answer (600 * 10 ^ 9) ⟨.ofSeconds 599, "a", none⟩
      (after Server.answer (600 * 10 ^ 9) (sampleActs.take 2) .empty)).1 = .ok (some default) ∧
    (act Server.answer (600 * 10 ^ 9) ⟨.ofSeconds 601, "b", none⟩
      (after Server.answer (600 * 10 ^ 9) (sampleActs.take 3) .empty)).1 = .ok none := by
  have differ : Digest.Sha256.digest (encode "a") ≠ Digest.Sha256.digest (encode "b") := by
    decide +kernel
  have states (c : Act Login.Pending) (hc : c ∈ sampleActs) : c.key = "a" ∨ c.key = "b" := by
    simp only [sampleActs, List.mem_cons, List.not_mem_nil, or_false] at hc
    rcases hc with rfl | rfl | rfl | rfl <;> simp
  have chronological : Chronological sampleActs := by
    simp [Chronological, sampleActs, Moment.ofSeconds]
  have answers := answers_as_memory (n := 600) (by decide) (keepsWord_server 600) chronological
    (by simp [PendingLogins.CanKeepAll, PendingLogins.CanKeep, PendingLogins.maxSeconds,
      sampleActs, Moment.ofSeconds])
    (fun c hc d hd hdigest => by
      rcases states c hc with hc | hc <;> rcases states d hd with hd | hd <;>
        rw [hc, hd] at hdigest ⊢
      · exact absurd hdigest differ
      · exact absurd hdigest differ.symm)
    (fun c hc p hp => by
      simp only [sampleActs, List.mem_cons, List.not_mem_nil, or_false] at hc
      rcases hc with rfl | rfl | rfl | rfl <;> cases hp <;> decide)
  constructor
  · obtain ⟨m, x, m', hm, hact, hanswer⟩ := answers (sampleActs.take 2) _ [_] rfl
    cases hm
    cases hact
    exact hanswer
  · obtain ⟨m, x, m', hm, hact, hanswer⟩ := answers (sampleActs.take 3) _ [] rfl
    cases hm
    cases hact
    exact hanswer

/-- A cache takes in what memory gives up on, where a clock cannot tell the end. -/
theorem kept_without_end : ∃ (n : Nat) (c : Act Login.Pending), 1 ≤ n ∧
    PendingLogins.empty.act (n * 10 ^ 9) c = none ∧
    (act Server.answer (n * 10 ^ 9) c .empty).1 = .ok none :=
  ⟨2 ^ 63 - 1, ⟨.ofSeconds 1, "a", some default⟩, by decide, rfl, rfl⟩

end SignOn.Cache
