import Mathlib.Data.List.Basic
import SignOn.Text.Decimal

/-! Decimal digits are read as the number that they were written for, zeros in front or not. -/
namespace SignOn.Text.Decimal

variable {c : Char} {cs : List Char} {width n : Nat}

theorem isSome_digit? (c : Char) : (digit? c).isSome = c.isDigit := by
  unfold digit?
  split
  next h => exact h.symm
  next h => exact (Bool.eq_false_iff.mpr h).symm

theorem digit?_of_isDigit (h : c.isDigit = true) : digit? c = some (c.toNat - '0'.toNat) := if_pos h

theorem continue?_of_isDigit (h : ∀ c ∈ cs, c.isDigit = true) (n : Nat) :
    continue? n cs = some (Nat.ofDigitChars 10 cs n) := by
  induction cs generalizing n with
  | nil => rfl
  | cons c cs ih =>
    rw [continue?, digit?_of_isDigit (h c List.mem_cons_self), Nat.ofDigitChars_cons, Nat.mul_comm]
    exact ih (fun d hd => h d (List.mem_cons_of_mem c hd)) _

/-! ### Numbers of some width -/

theorem toList_padded (width n : Nat) : (padded width n).toList =
    List.replicate (width - (Nat.toDigits 10 n).length) '0' ++ Nat.toDigits 10 n :=
  String.toList_ofList

theorem isDigit_of_mem_padded (h : c ∈ (padded width n).toList) : c.isDigit = true := by
  rw [toList_padded, List.mem_append] at h
  rcases h with h | h
  · rw [List.eq_of_mem_replicate h]
    rfl
  · exact Nat.isDigit_of_mem_toDigits (by decide) (by decide) h

theorem length_padded (hwidth : 0 < width) (h : n < 10 ^ width) :
    (padded width n).toList.length = width := by
  have := (Nat.length_toDigits_le_iff (b := 10) (by decide) hwidth).mpr h
  rw [toList_padded, List.length_append, List.length_replicate]
  omega

theorem padded_ne_nil (width n : Nat) : (padded width n).toList ≠ [] := by
  rw [toList_padded]
  exact List.append_ne_nil_of_right_ne_nil _ Nat.toDigits_ne_nil

theorem digits?_padded (width n : Nat) : digits? (padded width n).toList = some n := by
  have hread : continue? 0 (padded width n).toList = some n := by
    rw [continue?_of_isDigit fun c hc => isDigit_of_mem_padded hc, toList_padded,
      Nat.ofDigitChars_append, Nat.ofDigitChars_replicate_zero, Nat.mul_zero,
      Nat.ofDigitChars_ten_toDigits]
  cases hcs : (padded width n).toList with
  | nil => exact absurd hcs (padded_ne_nil width n)
  | cons c cs => rwa [hcs] at hread

end SignOn.Text.Decimal
