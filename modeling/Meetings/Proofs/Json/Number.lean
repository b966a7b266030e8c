/-
Numbers are read as they were written.

* `Ends` — what may stand behind a value;
* `number_signedChars` — whole numbers are read back;
* `number_parts`, `number_layout` — a number with a point or an exponent is read from its
  parts, and stands for its digits times a power of ten;
* **`scalar_signedChars`**, **`scalar_real`** — no number is taken for a word, so each
  is read back where a value may stand;
* `real_written` — the text of a number is a sign, and a word or digits.

Design notes: behind a value the printer puts nothing, a comma or a line break,
which is what `Ends` says and what stops the reader at the end of a number.
-/
import Meetings.Json.Printer
import Meetings.Json.Reader
import Meetings.Proofs.Number.Shortest
import Meetings.Proofs.Text.Digits

namespace Meetings.Json

open Meetings.Text

variable {rest : List Char}

/-- What may stand behind a value: nothing, a comma or a line break. -/
def Ends (rest : List Char) : Prop :=
  rest = [] ∨ (∃ t, rest = ',' :: t) ∨ ∃ t, rest = '\n' :: t

theorem Ends.takeWhile_isDigit (h : Ends rest) : rest.takeWhile isDigit = [] := by
  rcases h with rfl | ⟨t, rfl⟩ | ⟨t, rfl⟩
  · rfl
  · rfl
  · rfl

theorem Ends.splitFraction (h : Ends rest) : splitFraction rest = ([], rest) := by
  rcases h with rfl | ⟨t, rfl⟩ | ⟨t, rfl⟩
  · rfl
  · rfl
  · rfl

theorem Ends.splitExponent (h : Ends rest) : splitExponent rest = none := by
  rcases h with rfl | ⟨t, rfl⟩ | ⟨t, rfl⟩
  · rfl
  · rfl
  · rfl

theorem ne_of_isDigit {c d : Char} (hc : isDigit c = true) (hd : isDigit d = false) : c ≠ d := by
  rintro rfl
  rw [hc] at hd
  cases hd

/-- All digits of a number are read, as the first is no zero. -/
theorem wholeDigits_decimalChars (n : Nat) (h : Ends rest) :
    wholeDigits (decimalChars n ++ rest) = decimalChars n := by
  rcases Nat.eq_zero_or_pos n with rfl | hn
  · rfl
  · have hall : (decimalChars n ++ rest).takeWhile isDigit = decimalChars n := by
      rw [List.takeWhile_append_of_pos (isDigit_of_mem_decimalChars n), h.takeWhile_isDigit,
        List.append_nil]
    obtain ⟨c, ds, hcs⟩ := List.exists_cons_of_ne_nil (decimalChars_ne_nil n)
    have hzero : c ≠ '0' := by
      have hhead := decimalChars_head hn
      rw [hcs, List.head?_cons, ne_eq, Option.some.injEq] at hhead
      exact hhead
    rw [hcs, List.cons_append] at hall ⊢
    rw [wholeDigits, hall]
    rintro t ⟨⟩
    exact hzero rfl

theorem splitMinus_decimalChars (n : Nat) :
    splitMinus (decimalChars n ++ rest) = (false, decimalChars n ++ rest) := by
  obtain ⟨c, ds, hcs, hc⟩ := decimalChars_cons n
  have hminus : c ≠ '-' := ne_of_isDigit hc (by decide)
  rw [hcs, List.cons_append, splitMinus]
  rintro t ⟨⟩
  exact hminus rfl

/-- The numbers with no more digits than are written. -/
theorem overlong_eq_false_iff {n : Int} : overlong n = false ↔ n.natAbs < 10 ^ numeralLimit := by
  have hlength : (decimalChars n.natAbs).length ≤ numeralLimit ↔ n.natAbs < 10 ^ numeralLimit :=
    Nat.length_toDigits_le_iff (by decide) (by decide)
  rw [overlong, decide_eq_false_iff_not, Nat.not_lt, hlength]

theorem natAbs_ten_pow (k : Nat) : ((10 : Int) ^ k).natAbs = 10 ^ k :=
  Int.natAbs_pow 10 k

/-- A whole number is read as it was written, if it is not too long. -/
theorem number_signedChars {n : Int} (hn : overlong n = false) (h : Ends rest) :
    number (signedChars n ++ rest) = .ok (.int n, rest) := by
  have hsplit : splitMinus (signedChars n ++ rest) =
      (decide (n < 0), decimalChars n.natAbs ++ rest) := by
    cases n with
    | ofNat m => exact splitMinus_decimalChars m
    | negSucc m =>
      rw [decide_eq_true (Int.negSucc_lt_zero m)]
      rfl
  have hshort : ¬numeralLimit < (decimalChars n.natAbs).length := by
    simpa [overlong] using hn
  -- Once the sign and the digits are taken off, nothing of a number is left.
  have hdrop : (decimalChars n.natAbs ++ rest).drop (decimalChars n.natAbs).length = rest :=
    List.drop_left
  have hvalue : (if decide (n < 0) = true then -(n.natAbs : Int) else n.natAbs) = n := by
    by_cases hneg : n < 0
    · rw [if_pos (by simpa using hneg)]
      omega
    · rw [if_neg (by simpa using hneg)]
      omega
  unfold number
  rw [hsplit]
  simp only [wholeDigits_decimalChars _ h, List.isEmpty_eq_false_iff.mpr (decimalChars_ne_nil _),
    hdrop, h.splitFraction, h.splitExponent, List.isEmpty_nil, Option.isNone_none, Bool.and_self,
    if_true, if_neg hshort, digitsValue_decimalChars, hvalue, Bool.false_eq_true, if_false]

/-! ### Words -/

theorem scalar_null : scalar ("null".toList ++ rest) = .ok (.null, rest) := by
  rfl

theorem scalar_bool (b : Bool) :
    scalar ((if b then "true" else "false").toList ++ rest) = .ok (.bool b, rest) := by
  cases b
  · rfl
  · rfl

/-- No word starts with a digit, or with a minus sign and a digit. -/
theorem dropWord_digit {c : Char} (hc : isDigit c = true) :
    ∀ w ∈ words, dropWord w.1 (c :: rest) = none ∧ dropWord w.1 ('-' :: c :: rest) = none := by
  have hne (d : Char) (hd : isDigit d = false) : d ≠ c := (ne_of_isDigit hc hd).symm
  simp [words, dropWord, hne 'n' (by decide), hne 't' (by decide), hne 'f' (by decide),
    hne 'N' (by decide), hne 'I' (by decide), hne '-' (by decide)]

/-- Text that starts with a digit, or with a minus sign and a digit. -/
def StartsNumber (cs : List Char) : Prop :=
  ∃ c t, isDigit c = true ∧ (cs = c :: t ∨ cs = '-' :: c :: t)

/-- No word starts like a number. -/
theorem scalar_eq_number {cs : List Char} (h : StartsNumber cs) : scalar cs = number cs := by
  obtain ⟨c, t, hc, hcs⟩ := h
  have hwords (w : String × Json) (hw : w ∈ words) : dropWord w.1 cs = none := by
    rcases hcs with rfl | rfl
    · exact (dropWord_digit hc w hw).1
    · exact (dropWord_digit hc w hw).2
  unfold scalar
  split
  · next answer hfound =>
    obtain ⟨w, hw, hsome⟩ := List.exists_of_findSome?_eq_some hfound
    dsimp only at hsome
    rw [hwords w hw] at hsome
    cases hsome
  · rfl

theorem startsNumber_signedChars (n : Int) : StartsNumber (signedChars n ++ rest) := by
  cases n with
  | ofNat m =>
    obtain ⟨c, ds, hcs, hc⟩ := decimalChars_cons m
    exact ⟨c, ds ++ rest, hc, .inl (by rw [signedChars, hcs, List.cons_append])⟩
  | negSucc m =>
    obtain ⟨c, ds, hcs, hc⟩ := decimalChars_cons (m + 1)
    exact ⟨c, ds ++ rest, hc, .inr (by rw [signedChars, hcs, List.cons_append, List.cons_append])⟩

theorem scalar_signedChars {n : Int} (hn : overlong n = false) (h : Ends rest) :
    scalar (signedChars n ++ rest) = .ok (.int n, rest) :=
  (scalar_eq_number (startsNumber_signedChars n)).trans (number_signedChars hn h)

/-! ### Numbers with a point or an exponent -/

variable {negative : Bool} {cs body whole fraction ds tail tail' : List Char} {n m : Nat}
  {k e : Int}

theorem takeWhile_digits (hds : ∀ c ∈ ds, isDigit c = true) (htail : tail.takeWhile isDigit = []) :
    (ds ++ tail).takeWhile isDigit = ds := by
  rw [List.takeWhile_append_of_pos hds, htail, List.append_nil]

theorem dropWhile_digits (hds : ∀ c ∈ ds, isDigit c = true) (htail : tail.takeWhile isDigit = []) :
    (ds ++ tail).dropWhile isDigit = tail := by
  have hparts := @List.takeWhile_append_dropWhile _ isDigit tail
  rw [htail, List.nil_append] at hparts
  rw [List.dropWhile_append_of_pos hds, hparts]

/-- The whole part is all digits, if the first is no zero. -/
theorem wholeDigits_append (hds : ∀ c ∈ ds, isDigit c = true) (hne : ds ≠ [])
    (hzero : ds.head? ≠ some '0') (htail : tail.takeWhile isDigit = []) :
    wholeDigits (ds ++ tail) = ds := by
  have hall := takeWhile_digits hds htail
  obtain ⟨c, ds, rfl⟩ := List.exists_cons_of_ne_nil hne
  rw [List.head?_cons, ne_eq, Option.some.injEq] at hzero
  rw [List.cons_append] at hall ⊢
  rw [wholeDigits, hall]
  rintro t ⟨⟩
  exact hzero rfl

theorem splitFraction_point (hds : ∀ c ∈ ds, isDigit c = true) (hne : ds ≠ [])
    (htail : tail.takeWhile isDigit = []) : splitFraction ('.' :: (ds ++ tail)) = (ds, tail) := by
  rw [splitFraction, takeWhile_digits hds htail, dropWhile_digits hds htail]
  exact if_neg (by simpa using hne)

/-- An exponent with its sign. -/
def exponentChars (e : Int) : List Char :=
  (if e < 0 then '-' else '+') :: paddedChars 2 e.natAbs

theorem splitExponent_exponentChars (e : Int) (h : Ends rest) :
    splitExponent ('e' :: (exponentChars e ++ rest)) = some (e, rest) := by
  have hdigits := isDigit_of_mem_paddedChars 2 e.natAbs
  have hne : paddedChars 2 e.natAbs ≠ [] := by
    rw [paddedChars]
    exact List.append_ne_nil_of_right_ne_nil _ (decimalChars_ne_nil _)
  have hsign : splitSign ((if e < 0 then '-' else '+') :: (paddedChars 2 e.natAbs ++ rest)) =
      (decide (e < 0), paddedChars 2 e.natAbs ++ rest) := by
    by_cases hneg : e < 0
    · rw [if_pos hneg, decide_eq_true hneg]
      rfl
    · rw [if_neg hneg, decide_eq_false hneg]
      rfl
  have hvalue : (if decide (e < 0) = true then -(e.natAbs : Int) else e.natAbs) = e := by
    by_cases hneg : e < 0
    · rw [if_pos (decide_eq_true hneg)]
      omega
    · rw [if_neg (by simpa using hneg)]
      omega
  rw [exponentChars, List.cons_append, splitExponent, if_pos (by decide), hsign]
  simp only [takeWhile_digits hdigits h.takeWhile_isDigit, dropWhile_digits hdigits
    h.takeWhile_isDigit, digitsValue_paddedChars, hvalue, List.isEmpty_eq_false_iff.mpr hne,
    Bool.false_eq_true, if_false]

/-- A number that is not whole is read from its parts. -/
theorem number_parts (hsign : splitMinus cs = (negative, whole ++ tail))
    (hwhole : wholeDigits (whole ++ tail) = whole) (hne : whole ≠ [])
    (hfraction : splitFraction tail = (fraction, tail'))
    (hpower : (splitExponent tail').getD (0, tail') = (e, rest))
    (hreal : fraction ≠ [] ∨ splitExponent tail' ≠ none) :
    number cs = .ok (.real (.ofDecimal negative (digitsValue (whole ++ fraction))
      (e - fraction.length)), rest) := by
  have hreal' : (fraction.isEmpty && (splitExponent tail').isNone) = false := by
    rw [Bool.and_eq_false_iff, List.isEmpty_eq_false_iff, ← Bool.not_eq_true,
      Option.isNone_iff_eq_none]
    exact hreal
  unfold number
  rw [hsign]
  simp only [hwhole, List.isEmpty_eq_false_iff.mpr hne, List.drop_left, hfraction, hpower, hreal',
    Bool.false_eq_true, if_false]

/-- A number with a point: the digits behind it count in the power of ten. -/
theorem number_point (h : Ends rest)
    (hsign : splitMinus cs = (negative, whole ++ '.' :: (fraction ++ rest)))
    (hwhole : wholeDigits (whole ++ '.' :: (fraction ++ rest)) = whole) (hne : whole ≠ [])
    (hdigits : ∀ c ∈ fraction, isDigit c = true) (hsome : fraction ≠ []) :
    number cs = .ok (.real (.ofDecimal negative (digitsValue (whole ++ fraction))
      (-fraction.length)), rest) := by
  rw [← Int.zero_sub]
  exact number_parts hsign hwhole hne (splitFraction_point hdigits hsome h.takeWhile_isDigit)
    (by rw [h.splitExponent, Option.getD_none]) (.inl hsome)

/-- A number with an exponent: one digit, and the others behind a point. -/
theorem number_exponent {d : Char} (h : Ends rest)
    (hdigits : ∀ c ∈ d :: ds, isDigit c = true) (hzero : d ≠ '0')
    (hsign : splitMinus cs = (negative, [d] ++ ((if ds = [] then [] else '.' :: ds) ++
      'e' :: (exponentChars e ++ rest)))) :
    number cs =
      .ok (.real (.ofDecimal negative (digitsValue (d :: ds)) (e - ds.length)), rest) := by
  rw [List.forall_mem_cons] at hdigits
  have hwhole {tail : List Char} (htail : tail.takeWhile isDigit = []) :
      wholeDigits ([d] ++ tail) = [d] :=
    wholeDigits_append (by simpa using hdigits.1) (List.cons_ne_nil _ _) (by simpa using hzero)
      htail
  have hexponent := splitExponent_exponentChars e h
  have hpower : (splitExponent ('e' :: (exponentChars e ++ rest))).getD
      (0, 'e' :: (exponentChars e ++ rest)) = (e, rest) := by rw [hexponent, Option.getD_some]
  have hreal : splitExponent ('e' :: (exponentChars e ++ rest)) ≠ none := by
    rw [hexponent]
    exact Option.some_ne_none _
  by_cases hds : ds = []
  · subst hds
    rw [if_pos rfl, List.nil_append] at hsign
    have hfraction : splitFraction ('e' :: (exponentChars e ++ rest)) =
      ([], 'e' :: (exponentChars e ++ rest)) := rfl
    rw [number_parts hsign (hwhole rfl) (List.cons_ne_nil _ _) hfraction hpower (.inr hreal),
      List.append_nil]
  · rw [if_neg hds, List.cons_append] at hsign
    have hfraction := splitFraction_point hdigits.2 hds
      (show ('e' :: (exponentChars e ++ rest)).takeWhile isDigit = [] from rfl)
    rw [number_parts hsign (hwhole rfl) (List.cons_ne_nil _ _) hfraction hpower (.inr hreal),
      List.singleton_append]

/-! ### The four ways to write digits -/

open Binary64

variable {digits : List Char}

theorem isDigit_zero : ∀ c ∈ ['0'], isDigit c = true := by
  intro c hc
  rw [List.mem_singleton.mp hc]
  rfl

theorem isDigit_zeros_append (count : Nat) (hdigits : ∀ c ∈ digits, isDigit c = true) :
    (∀ c ∈ List.replicate count '0' ++ digits, isDigit c = true) ∧
      ∀ c ∈ digits ++ List.replicate count '0', isDigit c = true := by
  have hzero : ∀ c ∈ List.replicate count '0', isDigit c = true := by
    intro c hc
    rw [List.eq_of_mem_replicate hc]
    rfl
  exact ⟨List.forall_mem_append.mpr ⟨hzero, hdigits⟩, List.forall_mem_append.mpr ⟨hdigits, hzero⟩⟩

/-- No digit stands before the point. -/
theorem number_layout_behind (h : Ends rest) (hdigits : ∀ c ∈ digits, isDigit c = true)
    (hne : digits ≠ []) (hlow : -4 < (digits.length : Int) + k)
    (hhigh : (digits.length : Int) + k ≤ 0)
    (hsign : splitMinus cs = (negative, layout digits k ++ rest)) :
    number cs = .ok (.real (.ofDecimal negative (digitsValue digits) k), rest) := by
  have hlayout : layout digits k =
      ['0'] ++ '.' :: (List.replicate ((digits.length : Int) + k).natAbs '0' ++ digits) := by
    unfold layout
    dsimp only
    rw [if_pos ⟨hlow, by omega⟩, if_pos hhigh]
    rfl
  have hlength : -((((digits.length : Int) + k).natAbs + digits.length : ℕ) : Int) = k := by omega
  rw [hlayout, List.append_assoc, List.cons_append] at hsign
  have hnumber := number_point h hsign rfl (List.cons_ne_nil _ _)
    (isDigit_zeros_append _ hdigits).1 (List.append_ne_nil_of_right_ne_nil _ hne)
  rwa [← List.append_assoc, ← List.replicate_one, List.replicate_append_replicate,
    digitsValue_zeros, List.length_append, List.length_replicate, hlength] at hnumber

/-- The point stands between digits. -/
theorem number_layout_between (h : Ends rest) (hdigits : ∀ c ∈ digits, isDigit c = true)
    (hzero : digits.head? ≠ some '0') (hk : k < 0) (hlow : 0 < (digits.length : Int) + k)
    (hhigh : (digits.length : Int) + k ≤ 16)
    (hsign : splitMinus cs = (negative, layout digits k ++ rest)) :
    number cs = .ok (.real (.ofDecimal negative (digitsValue digits) k), rest) := by
  obtain ⟨count, hcount⟩ := Int.eq_ofNat_of_zero_le (Int.le_of_lt hlow)
  have hlayout : layout digits k = digits.take count ++ '.' :: digits.drop count := by
    unfold layout
    dsimp only
    rw [if_pos ⟨by omega, hhigh⟩, if_neg (by omega), hcount, Int.natAbs_natCast,
      if_neg (by omega)]
  have hbefore : digits.take count ≠ [] := by
    rw [ne_eq, ← List.length_eq_zero_iff, List.length_take]
    omega
  have hbehind : digits.drop count ≠ [] := by
    rw [ne_eq, ← List.length_eq_zero_iff, List.length_drop]
    omega
  have hhead : (digits.take count).head? ≠ some '0' := by
    rwa [List.head?_take, if_neg (by omega)]
  have hlength : -((digits.length - count : ℕ) : Int) = k := by omega
  rw [hlayout, List.append_assoc, List.cons_append] at hsign
  have hwhole := wholeDigits_append (fun c hc => hdigits c (List.mem_of_mem_take hc)) hbefore hhead
    (show ('.' :: (digits.drop count ++ rest)).takeWhile isDigit = [] from rfl)
  have hnumber := number_point h hsign hwhole hbefore
    (fun c hc => hdigits c (List.mem_of_mem_drop hc)) hbehind
  rwa [List.take_append_drop, List.length_drop, hlength] at hnumber

/-- No digit but a zero stands behind the point. -/
theorem number_layout_before (h : Ends rest) (hdigits : ∀ c ∈ digits, isDigit c = true)
    (hzero : digits.head? ≠ some '0') (hne : digits ≠ []) (hk : 0 ≤ k)
    (hhigh : (digits.length : Int) + k ≤ 16)
    (hsign : splitMinus cs = (negative, layout digits k ++ rest)) :
    number cs =
      .ok (.real (.ofDecimal negative (digitsValue digits * 10 ^ (k.natAbs + 1)) (-1)), rest) := by
  have hcount := List.length_pos_iff.mpr hne
  have hlayout : layout digits k = (digits ++ List.replicate k.natAbs '0') ++ '.' :: ['0'] := by
    have hzeros : ((digits.length : Int) + k).natAbs - digits.length = k.natAbs := by omega
    unfold layout
    dsimp only
    rw [if_pos ⟨by omega, hhigh⟩, if_neg (by omega), if_pos (by omega), hzeros]
  have hbefore := List.append_ne_nil_of_left_ne_nil hne (List.replicate k.natAbs '0')
  have hhead : (digits ++ List.replicate k.natAbs '0').head? ≠ some '0' := by
    rwa [List.head?_append_of_ne_nil _ hne]
  rw [hlayout, List.append_assoc, List.cons_append] at hsign
  have hwhole := wholeDigits_append (isDigit_zeros_append _ hdigits).2 hbefore hhead
    (show ('.' :: (['0'] ++ rest)).takeWhile isDigit = [] from rfl)
  have hnumber := number_point h hsign hwhole hbefore isDigit_zero (List.cons_ne_nil _ _)
  rwa [List.append_assoc, ← List.replicate_one, List.replicate_append_replicate,
    digitsValue_append_zeros] at hnumber

/-- One digit stands before the point, and an exponent behind the digits. -/
theorem number_layout_exponent (h : Ends rest) (hdigits : ∀ c ∈ digits, isDigit c = true)
    (hzero : digits.head? ≠ some '0') (hne : digits ≠ [])
    (hpoint : ¬(-4 < (digits.length : Int) + k ∧ (digits.length : Int) + k ≤ 16))
    (hsign : splitMinus cs = (negative, layout digits k ++ rest)) :
    number cs = .ok (.real (.ofDecimal negative (digitsValue digits) k), rest) := by
  obtain ⟨d, ds, rfl⟩ := List.exists_cons_of_ne_nil hne
  rw [List.head?_cons, ne_eq, Option.some.injEq] at hzero
  have hexponent : ((d :: ds).length : Int) + k - 1 = ds.length + k := by
    rw [List.length_cons]
    omega
  have hlayout : layout (d :: ds) k =
      [d] ++ ((if ds = [] then [] else '.' :: ds) ++ 'e' :: exponentChars (ds.length + k)) := by
    unfold layout
    dsimp only
    rw [if_neg hpoint, hexponent]
    cases ds with
    | nil => rfl
    | cons d' ds => rfl
  rw [hlayout, List.append_assoc, List.append_assoc, List.cons_append] at hsign
  have hnumber := number_exponent h hdigits hzero hsign
  rwa [add_sub_cancel_left] at hnumber

/-- **What is read of digits with a point or an exponent** is the number nearest to the
digits times a power of ten. -/
theorem number_layout (hn : 0 < n) (h : Ends rest)
    (hsign : splitMinus cs = (negative, layout (decimalChars n) k ++ rest)) :
    ∃ m e, number cs = .ok (.real (.ofDecimal negative m e), rest) ∧
      (m : ℚ) * 10 ^ e = n * 10 ^ k ∧ (e = k ∨ e = -1) := by
  have hdigits := isDigit_of_mem_decimalChars n
  have hzero := decimalChars_head hn
  have hne := decimalChars_ne_nil n
  have hvalue := digitsValue_decimalChars n
  by_cases hpoint : -4 < ((decimalChars n).length : Int) + k ∧
      ((decimalChars n).length : Int) + k ≤ 16
  · rcases lt_or_ge k 0 with hk | hk
    · rcases le_or_gt (((decimalChars n).length : Int) + k) 0 with hbehind | hbetween
      · have hnumber := number_layout_behind h hdigits hne hpoint.1 hbehind hsign
        rw [hvalue] at hnumber
        exact ⟨n, k, hnumber, rfl, .inl rfl⟩
      · have hnumber := number_layout_between h hdigits hzero hk hbetween hpoint.2 hsign
        rw [hvalue] at hnumber
        exact ⟨n, k, hnumber, rfl, .inl rfl⟩
    · have hnumber := number_layout_before h hdigits hzero hne hk hpoint.2 hsign
      obtain ⟨j, rfl⟩ := Int.eq_ofNat_of_zero_le hk
      rw [hvalue, Int.natAbs_natCast] at hnumber
      refine ⟨_, _, hnumber, ?_, .inr rfl⟩
      rw [zpow_natCast, zpow_neg_one]
      push_cast
      rw [pow_succ, mul_assoc, mul_assoc, mul_inv_cancel₀ (by norm_num), mul_one]
  · have hnumber := number_layout_exponent h hdigits hzero hne hpoint hsign
    rw [hvalue] at hnumber
    exact ⟨n, k, hnumber, rfl, .inl rfl⟩

/-! ### Numbers that are not whole -/

theorem layout_head (hdigits : ∀ c ∈ digits, isDigit c = true) (hne : digits ≠ []) (k : Int) :
    ∃ c t, layout digits k = c :: t ∧ isDigit c = true := by
  obtain ⟨d, ds, rfl⟩ := List.exists_cons_of_ne_nil hne
  have hd := hdigits d List.mem_cons_self
  unfold layout
  dsimp only
  split
  · split
    · exact ⟨'0', _, rfl, rfl⟩
    · split
      · exact ⟨d, _, rfl, hd⟩
      · next hpoint _ =>
        obtain ⟨count, hcount⟩ := Nat.exists_eq_add_one_of_ne_zero
          (show (((d :: ds).length : Int) + k).natAbs ≠ 0 by omega)
        exact ⟨d, _, by rw [hcount]; rfl, hd⟩
  · cases ds with
    | nil => exact ⟨d, _, rfl, hd⟩
    | cons d' ds => exact ⟨d, _, rfl, hd⟩

theorem shortestWith_zero (infinity nanText : String) (s : Bool) :
    ((finite s 0).shortestWith infinity nanText).toList =
      (if s then ['-'] else []) ++ ['0', '.', '0'] := by
  rw [shortestWith, String.toList_ofList]
  cases s with
  | false => rfl
  | true => rfl

/-- The digits of a finite number, behind its sign. -/
theorem shortestWith_finite (infinity nanText : String) {u : Nat} (hu : 0 < u)
    (hspacing : spacing u ∣ u) : ∃ (n : Nat) (k : Int), 0 < n ∧ -341 ≤ k ∧
      Rounds u (n * 10 ^ k * unitsPerOne) ∧
      ∀ s, ((finite s u).shortestWith infinity nanText).toList =
        (if s then ['-'] else []) ++ layout (decimalChars n) k := by
  obtain ⟨m, j, n, k, hshortest, hdigits, hk, hrounds⟩ := exists_digits hu hspacing
  refine ⟨n, k, ?_, hk, hrounds, ?_⟩
  · exact Nat.pos_of_ne_zero (hrounds.digits_ne_zero hu)
  · intro s
    rw [shortestWith, String.toList_ofList, if_neg (Nat.ne_of_gt hu), hshortest]
    dsimp only
    rw [hdigits]
    cases s with
    | false => rfl
    | true => rfl

/-- How the text of a number starts. -/
def HeadsNumber (c : Char) : Prop := isDigit c = true ∨ c ∈ ['-', 'N', 'I']

theorem HeadsNumber.ne {c d : Char} (h : HeadsNumber c) (hdigit : isDigit d = false)
    (hother : d ∉ ['-', 'N', 'I']) : c ≠ d := by
  rintro rfl
  rcases h with h | h
  · rw [h] at hdigit
    cases hdigit
  · exact hother h

theorem StartsNumber.head {cs : List Char} (h : StartsNumber cs) :
    ∃ c t, cs = c :: t ∧ HeadsNumber c := by
  obtain ⟨c, t, hc, rfl | rfl⟩ := h
  · exact ⟨c, t, rfl, .inl hc⟩
  · exact ⟨'-', c :: t, rfl, .inr List.mem_cons_self⟩

theorem int_head (n : Int) : ∃ c t, scalarChars (.int n) = c :: t ∧ HeadsNumber c := by
  have hstarts := @startsNumber_signedChars [] n
  rw [List.append_nil] at hstarts
  exact hstarts.head

theorem splitMinus_signed {body : List Char} (s : Bool)
    (h : ∃ c t, body = c :: t ∧ isDigit c = true) :
    splitMinus ((if s then ['-'] else []) ++ body) = (s, body) ∧
      StartsNumber ((if s then ['-'] else []) ++ body) := by
  obtain ⟨c, t, rfl, hc⟩ := h
  cases s with
  | true => exact ⟨rfl, c, t, hc, .inr rfl⟩
  | false =>
    refine ⟨?_, c, t, hc, .inl rfl⟩
    have hminus : c ≠ '-' := ne_of_isDigit hc (by decide)
    rw [if_neg Bool.false_ne_true, List.nil_append, splitMinus]
    rintro t ⟨⟩
    exact hminus rfl

/-- **A number of the format is read as it was written.** -/
theorem scalar_real {x : Binary64} (hx : x.Fits) (h : Ends rest) :
    scalar (scalarChars (.real x) ++ rest) = .ok (.real x, rest) := by
  rw [scalarChars]
  cases hx with
  | nan => rfl
  | @infinite s =>
    cases s with
    | false => rfl
    | true => rfl
  | @finite s u below multiple =>
    rcases Nat.eq_zero_or_pos u with rfl | hu
    · obtain ⟨hsign, hstarts⟩ := splitMinus_signed s ⟨'0', '.' :: '0' :: rest, rfl, rfl⟩
      have hnumber := @number_point rest s _ ['0'] ['0'] h hsign rfl (List.cons_ne_nil _ _)
        isDigit_zero (List.cons_ne_nil _ _)
      rw [shortestWith_zero, List.append_assoc]
      exact (scalar_eq_number hstarts).trans hnumber
    · obtain ⟨n, k, hn, hk, hrounds, hwritten⟩ :=
        shortestWith_finite "Infinity" "NaN" hu multiple
      obtain ⟨c, t, hlayout, hc⟩ :=
        layout_head (isDigit_of_mem_decimalChars n) (decimalChars_ne_nil n) k
      obtain ⟨hsign, hstarts⟩ := splitMinus_signed s
        ⟨c, t ++ rest, show layout (decimalChars n) k ++ rest = _ by rw [hlayout]; rfl, hc⟩
      obtain ⟨m, e, hnumber, hvalue, he⟩ := number_layout hn h hsign
      rw [hwritten, List.append_assoc, scalar_eq_number hstarts, hnumber,
        ofDecimal_eq hu below multiple (by omega) (by rwa [hvalue])]

/-- The text of a number of the format: a sign, and a word or digits. -/
theorem real_written {x : Binary64} (hx : x.Fits) :
    ∃ (s : Bool) (body : List Char), scalarChars (.real x) = (if s then ['-'] else []) ++ body ∧
      (body ∈ ["NaN".toList, "Infinity".toList, ['0', '.', '0']] ∨
        ∃ n k, body = layout (decimalChars n) k) := by
  rw [scalarChars]
  cases hx with
  | nan => exact ⟨false, "NaN".toList, rfl, .inl (by decide)⟩
  | @infinite s =>
    refine ⟨s, "Infinity".toList, ?_, .inl (by decide)⟩
    cases s with
    | false => rfl
    | true => rfl
  | @finite s u below multiple =>
    rcases Nat.eq_zero_or_pos u with rfl | hu
    · exact ⟨s, _, shortestWith_zero _ _ s, .inl (by decide)⟩
    · obtain ⟨n, k, -, -, -, hwritten⟩ := shortestWith_finite "Infinity" "NaN" hu multiple
      exact ⟨s, _, hwritten s, .inr ⟨n, k, rfl⟩⟩

theorem real_head {x : Binary64} (hx : x.Fits) :
    ∃ c t, scalarChars (.real x) = c :: t ∧ HeadsNumber c := by
  obtain ⟨s, body, hwritten, hbody⟩ := real_written hx
  have hhead : ∃ c t, body = c :: t ∧ HeadsNumber c := by
    rcases hbody with hword | ⟨n, k, rfl⟩
    · simp only [List.mem_cons, List.not_mem_nil, or_false] at hword
      rcases hword with rfl | rfl | rfl
      · exact ⟨'N', _, rfl, .inr (by decide)⟩
      · exact ⟨'I', _, rfl, .inr (by decide)⟩
      · exact ⟨'0', _, rfl, .inl rfl⟩
    · obtain ⟨c, t, hlayout, hc⟩ :=
        layout_head (isDigit_of_mem_decimalChars n) (decimalChars_ne_nil n) k
      exact ⟨c, t, hlayout, .inl hc⟩
  rw [hwritten]
  cases s with
  | false => exact hhead
  | true => exact ⟨'-', body, rfl, .inr List.mem_cons_self⟩

end Meetings.Json
