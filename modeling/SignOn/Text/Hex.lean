/-! Numbers and bytes written in base sixteen with lower-case digits. -/
namespace SignOn.Text.Hex

/-- The digit for a value below 16. -/
def digit (n : Nat) : Char := if n < 10 then .ofNat (0x30 + n) else .ofNat (0x57 + n)

/-- The value of a digit of either case. -/
def value? (c : Char) : Option Nat :=
  if '0' ≤ c && c ≤ '9' then some (c.toNat - 0x30)
  else if 'a' ≤ c && c ≤ 'f' then some (c.toNat - 0x57)
  else if 'A' ≤ c && c ≤ 'F' then some (c.toNat - 0x37)
  else none

def ofByte (b : UInt8) : List Char := [digit (b.toNat / 16), digit (b.toNat % 16)]

/-- Two digits for each byte. -/
def ofBytes (bs : List UInt8) : List Char := bs.flatMap ofByte

/-- Reads two digits for each byte. -/
def toBytes? : List Char → Option (List UInt8)
  | [] => some []
  | [_] => none
  | a :: b :: r => do
    let x ← value? a
    let y ← value? b
    let bytes ← toBytes? r
    some (.ofNat (x * 16 + y) :: bytes)

/-- The number with no leading zeros. -/
def ofNat (n : Nat) : String := String.ofList (Nat.toDigits 16 n)

theorem value?_digit : ∀ n < 16, value? (digit n) = some n := by decide

theorem toBytes?_ofBytes (bs : List UInt8) : toBytes? (ofBytes bs) = some bs := by
  induction bs with
  | nil => rfl
  | cons b bs ih =>
    have hb := b.toNat_lt
    have hread : toBytes? (ofBytes (b :: bs)) = some
        (.ofNat (b.toNat / 16 * 16 + b.toNat % 16) :: bs) := by
      change toBytes? (digit (b.toNat / 16) :: digit (b.toNat % 16) :: ofBytes bs) = _
      rw [toBytes?, value?_digit _ (by omega), value?_digit _ (by omega), ih]
      rfl
    rw [hread, Nat.div_add_mod', UInt8.ofNat_toNat]

end SignOn.Text.Hex
