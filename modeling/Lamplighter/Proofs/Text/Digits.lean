import Mathlib.Data.List.Induction
import Mathlib.Tactic.Ring
import Lamplighter.Json.Reader
import Lamplighter.Json.Writer

/-!
# Digits: what is written in digits is read back

* `mem_toDigits_lt`, `head_toDigits`   the digits of a number, the first of which is no zero;
* `length_toDigits_le`, `ofDigits_lt`  a number has at most so many digits if it is that small;
* `map_digitChar_toDigits`   the digits of a number as characters are its usual numeral;
* `readUnit_hexPadded`   four hexadecimal digits are read as the number they were written for.
-/

namespace Lamplighter.Text

variable {base n k d : Nat}

/-! ### The digits of a number -/

lemma toDigits_ne_nil (base n : Nat) : toDigits base n ≠ [] := by
  rw [toDigits]
  split <;> simp

lemma mem_toDigits_lt (hb : 2 ≤ base) (hd : d ∈ toDigits base n) : d < base := by
  induction n using Nat.strong_induction_on with
  | _ n ih =>
    rcases Nat.lt_or_ge n base with h | h
    · rw [toDigits_of_lt h, List.mem_singleton] at hd
      omega
    · rw [toDigits_of_le hb h, List.mem_append, List.mem_singleton] at hd
      rcases hd with hd | rfl
      · exact ih (n / base) (Nat.div_lt_self (by omega) (by omega)) hd
      · exact Nat.mod_lt _ (by omega)

/-- only zero begins with a zero -/
lemma head_toDigits (hb : 2 ≤ base) (hn : 0 < n) :
    ∃ first rest, toDigits base n = first :: rest ∧ 0 < first := by
  induction n using Nat.strong_induction_on with
  | _ n ih =>
    rcases Nat.lt_or_ge n base with h | h
    · exact ⟨n, [], toDigits_of_lt h, hn⟩
    · obtain ⟨first, rest, heq, hfirst⟩ := ih (n / base)
        (Nat.div_lt_self (by omega) (by omega)) (Nat.div_pos h (by omega))
      refine ⟨first, rest ++ [n % base], ?_, hfirst⟩
      rw [toDigits_of_le hb h, heq]
      rfl

lemma length_toDigits_le (hb : 2 ≤ base) (hk : 0 < k) (h : n < base ^ k) :
    (toDigits base n).length ≤ k := by
  induction k generalizing n with
  | zero => omega
  | succ k ih =>
    rcases Nat.lt_or_ge n base with hlt | hge
    · rw [toDigits_of_lt hlt]
      simp
    · rw [toDigits_of_le hb hge, List.length_append, List.length_singleton]
      rw [pow_succ'] at h
      have hdiv : n / base < base ^ k := Nat.div_lt_of_lt_mul h
      cases k with
      | zero =>
        rw [pow_zero] at hdiv
        have := Nat.div_pos hge (by omega)
        omega
      | succ k =>
        have := ih (Nat.succ_pos k) hdiv
        omega

lemma ofDigits_lt {digits : List Nat} (hdigits : ∀ d ∈ digits, d < base) :
    ofDigits base digits < base ^ digits.length := by
  induction digits using List.reverseRecOn with
  | nil => simp [ofDigits]
  | append_singleton digits d ih =>
    rw [ofDigits_append_singleton, List.length_append, List.length_singleton, pow_succ]
    have hlt := ih fun d hd => hdigits d (List.mem_append_left _ hd)
    have hd : d < base := hdigits d (by simp)
    calc ofDigits base digits * base + d < ofDigits base digits * base + base := by omega
      _ = (ofDigits base digits + 1) * base := by ring
      _ ≤ base ^ digits.length * base := Nat.mul_le_mul_right _ hlt

/-! ### Decimal and hexadecimal characters -/

lemma isAsciiDigit_digitChar : ∀ d < 10, Json.isAsciiDigit (digitChar d) = true := by decide

lemma digitChar_ne_zero : ∀ d < 10, 0 < d → digitChar d ≠ '0' := by decide

lemma value_digitChar : ∀ d < 10, (digitChar d).toNat - '0'.toNat = d := by decide

lemma digitChar_eq : ∀ d < 16, digitChar d = Nat.digitChar d := by decide

/-- the digits of a number as characters are its usual numeral -/
lemma map_digitChar_toDigits (hb : 2 ≤ base) (hbase : base ≤ 16) (n : Nat) :
    (toDigits base n).map digitChar = Nat.toDigits base n := by
  induction n using Nat.strong_induction_on with
  | _ n ih =>
    rcases Nat.lt_or_ge n base with h | h
    · rw [toDigits_of_lt h, Nat.toDigits_of_lt_base h]
      exact congrArg (fun c => [c]) (digitChar_eq n (by omega))
    · have hdiv := ih (n / base) (Nat.div_lt_self (by omega) (by omega))
      have hmod : n % base < base := Nat.mod_lt _ (by omega)
      rw [toDigits_of_le hb h, Nat.toDigits_of_base_le hb h, List.map_append, hdiv]
      exact congrArg (fun c => _ ++ [c]) (digitChar_eq (n % base) (by omega))

lemma hexValue?_digitChar : ∀ d < 16, Json.hexValue? (digitChar d) = some d := by decide

lemma asciiDigits_decimal (n : Nat) : Json.asciiDigits (decimal n) = toDigits 10 n := by
  rw [Json.asciiDigits, decimal, List.map_map]
  refine (List.map_congr_left ?_).trans (List.map_id _)
  exact fun d hd => value_digitChar d (mem_toDigits_lt (by decide) hd)

lemma isAsciiDigit_decimal (n : Nat) : ∀ c ∈ decimal n, Json.isAsciiDigit c = true := by
  intro c hc
  obtain ⟨d, hd, rfl⟩ := List.mem_map.mp hc
  exact isAsciiDigit_digitChar d (mem_toDigits_lt (by decide) hd)

/-- four hexadecimal digits are read as the number they were written for -/
lemma readUnit_hexPadded (hn : n < 0x10000) (rest : List Char) :
    Json.readUnit (hexPadded 4 n ++ rest) = some (n, rest) := by
  have hdigit : ∀ m, Json.hexValue? (digitChar (m % 16)) = some (m % 16) :=
    fun m => hexValue?_digitChar _ (Nat.mod_lt _ (by decide))
  have hchars : hexPadded 4 n = [digitChar (n / 16 / 16 / 16 % 16), digitChar (n / 16 / 16 % 16),
      digitChar (n / 16 % 16), digitChar (n % 16)] := rfl
  rw [hchars]
  simp only [List.cons_append, List.nil_append, Json.readUnit, hdigit, Option.bind_eq_bind,
    Option.bind_some, Option.some.injEq, Prod.mk.injEq, and_true]
  omega

end Lamplighter.Text
