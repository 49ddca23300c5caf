/-!
Base64 without padding over a choice of alphabet. `decode?` reads exactly what `encode` writes:
it refuses padding, foreign characters, a lone last digit and unused bits that are not zero.
-/
namespace SignOn.Text.Base64

/-- The digits for 62 and 63. -/
structure Alphabet where
  sixtyTwo : UInt8
  sixtyThree : UInt8
  deriving Repr, DecidableEq

/-- The alphabet with `+` and `/`. -/
def standard : Alphabet := ⟨0x2b, 0x2f⟩

/-- The alphabet with `-` and `_`, which may stand in a URL. -/
def urlSafe : Alphabet := ⟨0x2d, 0x5f⟩

/-- The digit for a value below 64. -/
def Alphabet.digit (a : Alphabet) (v : Nat) : UInt8 :=
  if v < 26 then .ofNat (0x41 + v)
  else if v < 52 then .ofNat (0x61 + (v - 26))
  else if v < 62 then .ofNat (0x30 + (v - 52))
  else if v = 62 then a.sixtyTwo
  else a.sixtyThree

/-- The value of a digit. -/
def Alphabet.value? (a : Alphabet) (b : UInt8) : Option Nat :=
  if 0x41 ≤ b && b ≤ 0x5a then some (b.toNat - 0x41)
  else if 0x61 ≤ b && b ≤ 0x7a then some (b.toNat - 0x61 + 26)
  else if 0x30 ≤ b && b ≤ 0x39 then some (b.toNat - 0x30 + 52)
  else if b == a.sixtyTwo then some 62
  else if b == a.sixtyThree then some 63
  else none

def encode (a : Alphabet) : List UInt8 → List UInt8
  | [] => []
  | [x] => [a.digit (x.toNat / 4), a.digit (x.toNat % 4 * 16)]
  | [x, y] =>
    [a.digit (x.toNat / 4), a.digit (x.toNat % 4 * 16 + y.toNat / 16), a.digit (y.toNat % 16 * 4)]
  | x :: y :: z :: r =>
    a.digit (x.toNat / 4) :: a.digit (x.toNat % 4 * 16 + y.toNat / 16) ::
      a.digit (y.toNat % 16 * 4 + z.toNat / 64) :: a.digit (z.toNat % 64) :: encode a r

/-- The bytes that a row of digit values stands for. -/
def bytesOf? : List Nat → Option (List UInt8)
  | [] => some []
  | [_] => none
  | [p, q] => if q % 16 = 0 then some [.ofNat (p * 4 + q / 16)] else none
  | [p, q, s] =>
    if s % 4 = 0 then some [.ofNat (p * 4 + q / 16), .ofNat (q % 16 * 16 + s / 4)] else none
  | p :: q :: s :: t :: r => do
    let bytes ← bytesOf? r
    some (.ofNat (p * 4 + q / 16) :: .ofNat (q % 16 * 16 + s / 4) :: .ofNat (s % 4 * 64 + t) ::
      bytes)

def decode? (a : Alphabet) (text : List UInt8) : Option (List UInt8) :=
  text.mapM a.value? >>= bytesOf?

example : encode urlSafe [0xfb, 0xff] = [0x2d, 0x5f, 0x38] := by decide
example : decode? urlSafe [0x2d, 0x5f, 0x38] = some [0xfb, 0xff] := by decide
example : decode? urlSafe [0x2d, 0x5f, 0x39] = none := by decide

/-! ### Reading what was written -/

/-- Digits stand for different values. -/
def Alphabet.Lawful (a : Alphabet) : Prop := ∀ v < 64, a.value? (a.digit v) = some v

theorem lawful_standard : standard.Lawful := by unfold Alphabet.Lawful; decide

theorem lawful_urlSafe : urlSafe.Lawful := by unfold Alphabet.Lawful; decide

/-- The digit values of a row of bytes. -/
def values : List UInt8 → List Nat
  | [] => []
  | [x] => [x.toNat / 4, x.toNat % 4 * 16]
  | [x, y] => [x.toNat / 4, x.toNat % 4 * 16 + y.toNat / 16, y.toNat % 16 * 4]
  | x :: y :: z :: r =>
    x.toNat / 4 :: (x.toNat % 4 * 16 + y.toNat / 16) :: (y.toNat % 16 * 4 + z.toNat / 64) ::
      z.toNat % 64 :: values r

theorem encode_eq_map (a : Alphabet) (bs : List UInt8) : encode a bs = (values bs).map a.digit := by
  fun_induction values bs with
  | case1 => rfl
  | case2 => rfl
  | case3 => rfl
  | case4 x y z r ih => simp [encode, ih]

theorem values_lt (bs : List UInt8) : ∀ v ∈ values bs, v < 64 := by
  fun_induction values bs with
  | case1 => simp
  | case2 x =>
    have := x.toNat_lt
    simp; omega
  | case3 x y =>
    have := x.toNat_lt
    have := y.toNat_lt
    simp; omega
  | case4 x y z r ih =>
    have := x.toNat_lt
    have := y.toNat_lt
    have := z.toNat_lt
    simp only [List.mem_cons, forall_eq_or_imp]
    exact ⟨by omega, by omega, by omega, by omega, ih⟩

theorem ofNat_eq {x : UInt8} {n : Nat} (h : n = x.toNat) : UInt8.ofNat n = x := by
  subst h; simp

theorem bytesOf?_values (bs : List UInt8) : bytesOf? (values bs) = some bs := by
  fun_induction values bs with
  | case1 => rfl
  | case2 x =>
    have := x.toNat_lt
    simp only [bytesOf?]
    rw [if_pos (by omega), ofNat_eq (x := x) (by omega)]
  | case3 x y =>
    have := x.toNat_lt
    have := y.toNat_lt
    simp only [bytesOf?]
    rw [if_pos (by omega), ofNat_eq (x := x) (by omega), ofNat_eq (x := y) (by omega)]
  | case4 x y z r ih =>
    have := x.toNat_lt
    have := y.toNat_lt
    have := z.toNat_lt
    simp only [bytesOf?, ih, Option.bind_eq_bind, Option.bind_some]
    rw [ofNat_eq (x := x) (by omega), ofNat_eq (x := y) (by omega), ofNat_eq (x := z) (by omega)]

theorem mapM_value? {a : Alphabet} (h : a.Lawful) {vs : List Nat} (hv : ∀ v ∈ vs, v < 64) :
    (vs.map a.digit).mapM a.value? = some vs := by
  induction vs with
  | nil => rfl
  | cons v r ih =>
    have hr : ∀ v ∈ r, v < 64 := fun w hw => hv w (List.mem_cons_of_mem _ hw)
    have hd := h v (hv v List.mem_cons_self)
    rw [List.map_cons, List.mapM_cons, hd, ih hr]
    rfl

/-- What is written is read back. -/
theorem decode?_encode {a : Alphabet} (h : a.Lawful) (bs : List UInt8) :
    decode? a (encode a bs) = some bs := by
  have hm := mapM_value? h (values_lt bs)
  unfold decode?
  rw [encode_eq_map, hm]
  exact bytesOf?_values bs

end SignOn.Text.Base64
