/-
Decimal digits stand for the number they were written for.

* `decimalChars_eq` — the digits of a number, last digit apart;
* `isDigit_of_mem_decimalChars`, `decimalChars_cons`, `decimalChars_head` —
  there are digits, only digits, and none is a zero in front of others;
* **`digitsValue_decimalChars`**, **`digitsValue_paddedChars`** — they stand for
  the number, with zeros in front or without;
* `digitsValue_append_zeros` — zeros behind them are powers of ten;
* `foldl_digits_lt`, `digitsValue_lt` — so many digits stand for less than that
  power of ten.
-/
import Mathlib.Algebra.Group.Nat.Defs
import Meetings.Text.Digits

namespace Meetings.Text

theorem decimalChars_eq (n : Nat) :
    decimalChars n = if n < 10 then [n.digitChar]
      else decimalChars (n / 10) ++ [(n % 10).digitChar] :=
  Nat.toDigits_eq_if (by decide)

theorem digit?_digitChar : ∀ n < 10, digit? n.digitChar = some n := by decide

theorem decimalChars_ne_nil (n : Nat) : decimalChars n ≠ [] := Nat.toDigits_ne_nil

theorem isDigit_of_mem_decimalChars (n : Nat) : ∀ c ∈ decimalChars n, isDigit c = true := by
  induction n using Nat.strongRecOn with
  | ind n ih =>
    intro c hc
    rw [decimalChars_eq] at hc
    by_cases h : n < 10
    · rw [if_pos h, List.mem_singleton] at hc
      rw [hc, isDigit, digit?_digitChar n h]
      rfl
    · rw [if_neg h, List.mem_append, List.mem_singleton] at hc
      rcases hc with hc | rfl
      · exact ih (n / 10) (by omega) c hc
      · rw [isDigit, digit?_digitChar (n % 10) (by omega)]
        rfl

/-- The digits of a number begin with a digit. -/
theorem decimalChars_cons (n : Nat) : ∃ c ds, decimalChars n = c :: ds ∧ isDigit c = true := by
  obtain ⟨c, ds, hcs⟩ := List.exists_cons_of_ne_nil (decimalChars_ne_nil n)
  exact ⟨c, ds, hcs, isDigit_of_mem_decimalChars n c (hcs ▸ List.mem_cons_self)⟩

theorem digitsValue_append (cs : List Char) (n : Nat) (h : n < 10) :
    digitsValue (cs ++ [n.digitChar]) = 10 * digitsValue cs + n := by
  rw [digitsValue, List.foldl_append]
  show 10 * digitsValue cs + (digit? n.digitChar).getD 0 = _
  rw [digit?_digitChar n h]
  rfl

/-- The digits of a number stand for it. -/
@[simp] theorem digitsValue_decimalChars (n : Nat) : digitsValue (decimalChars n) = n := by
  induction n using Nat.strongRecOn with
  | ind n ih =>
    rw [decimalChars_eq]
    by_cases h : n < 10
    · rw [if_pos h]
      have := digitsValue_append [] n h
      rw [List.nil_append] at this
      rw [this, digitsValue, List.foldl_nil]
      omega
    · rw [if_neg h, digitsValue_append _ _ (by omega), ih (n / 10) (by omega)]
      omega

/-- The first digit is a zero only if the number is. -/
theorem decimalChars_head {n : Nat} (h : 0 < n) : (decimalChars n).head? ≠ some '0' := by
  induction n using Nat.strongRecOn with
  | ind n ih =>
    rw [decimalChars_eq]
    by_cases hn : n < 10
    · rw [if_pos hn]
      simp only [List.head?_cons, ne_eq, Option.some.injEq, Nat.digitChar_eq_zero]
      omega
    · have hrest := ih (n / 10) (by omega) (by omega)
      obtain ⟨c, cs, hcs⟩ := List.exists_cons_of_ne_nil (decimalChars_ne_nil (n / 10))
      rw [if_neg hn, hcs]
      rw [hcs] at hrest
      exact hrest

/-! ### A fixed width -/

theorem length_decimalChars_le {n width : Nat} (hw : 0 < width) (h : n < 10 ^ width) :
    (decimalChars n).length ≤ width :=
  (Nat.length_toDigits_le_iff (by decide) hw).mpr h

theorem length_paddedChars {n width : Nat} (hw : 0 < width) (h : n < 10 ^ width) :
    (paddedChars width n).length = width := by
  have := length_decimalChars_le hw h
  simp only [paddedChars, List.length_append, List.length_replicate]
  omega

theorem isDigit_of_mem_paddedChars (width n : Nat) :
    ∀ c ∈ paddedChars width n, isDigit c = true := by
  intro c hc
  rw [paddedChars, List.mem_append] at hc
  rcases hc with hc | hc
  · rw [List.eq_of_mem_replicate hc]
    decide
  · exact isDigit_of_mem_decimalChars n c hc

theorem digitsValue_zeros (k : Nat) (cs : List Char) :
    digitsValue (List.replicate k '0' ++ cs) = digitsValue cs := by
  induction k with
  | zero => rfl
  | succ k ih => exact ih

/-- A zero behind makes it ten times as much. -/
theorem digitsValue_append_zeros (cs : List Char) (k : Nat) :
    digitsValue (cs ++ List.replicate k '0') = digitsValue cs * 10 ^ k := by
  induction k with
  | zero => rw [List.replicate_zero, List.append_nil, Nat.pow_zero, Nat.mul_one]
  | succ k ih =>
    have hlast := digitsValue_append (cs ++ List.replicate k '0') 0 (by decide)
    rw [List.replicate_succ', ← List.append_assoc, Nat.pow_succ, ← Nat.mul_assoc, ← ih,
      Nat.mul_comm _ 10]
    exact hlast

/-- Zeros in front change nothing. -/
@[simp] theorem digitsValue_paddedChars (width n : Nat) :
    digitsValue (paddedChars width n) = n := by
  rw [paddedChars, digitsValue_zeros, digitsValue_decimalChars]

/-! ### How large -/

theorem digit?_lt {c : Char} {d : Nat} (h : digit? c = some d) : d < 10 := by
  unfold digit? at h
  split at h
  · next hc =>
    cases h
    have hnine : c.toNat ≤ '9'.toNat := hc.2
    have : '9'.toNat = 57 := rfl
    omega
  · cases h

/-- Digits behind a number leave it below the next one, so many powers of ten up. -/
theorem foldl_digits_lt {ds : List Nat} (h : ∀ d ∈ ds, d < 10) (n : Nat) :
    ds.foldl (fun n d => 10 * n + d) n < (n + 1) * 10 ^ ds.length := by
  induction ds generalizing n with
  | nil =>
    rw [List.foldl_nil, List.length_nil, Nat.pow_zero, Nat.mul_one]
    exact Nat.lt_succ_self n
  | cons d rest ih =>
    rw [List.forall_mem_cons] at h
    rw [List.foldl_cons, List.length_cons, Nat.pow_succ', ← Nat.mul_assoc]
    refine Nat.lt_of_lt_of_le (ih h.2 (10 * n + d)) (Nat.mul_le_mul_right _ ?_)
    have := h.1
    omega

/-- So many digits stand for less than that power of ten. -/
theorem digitsValue_lt (cs : List Char) : digitsValue cs < 10 ^ cs.length := by
  have hdigits : ∀ d ∈ cs.map fun c => (digit? c).getD 0, d < 10 := by
    refine List.forall_mem_map.mpr fun c _ => ?_
    cases hd : digit? c with
    | none => exact Nat.zero_lt_succ 9
    | some d => exact digit?_lt hd
  have hlt := foldl_digits_lt hdigits 0
  rwa [List.foldl_map, List.length_map, Nat.zero_add, Nat.one_mul] at hlt

end Meetings.Text
