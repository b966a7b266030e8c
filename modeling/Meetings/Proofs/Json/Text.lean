/-
Text in quotation marks is read as it was written.

* `quotedText_plain`, `quotedText_letter`, `quotedText_unit`, `quotedText_pair` —
  one step of the reader for each way to write a character;
* `quotedText_escaped` — a character, however it is written;
* **`quotedText_textChars`** — the whole text.

Design notes: the reader decides on an escape of four digits only if something
follows it, so the steps for these ask for a text that goes on; behind every
character there is at least the closing mark.
-/
import Meetings.Json.Printer
import Meetings.Json.Reader

namespace Meetings.Json

open Meetings.Text

variable {opened : Nat} {found rest : List Char}

theorem hexDigit?_hexChar : ∀ n < 16, hexDigit? (hexChar n) = some n := by decide

/-- The four digits of a unit. -/
theorem hexChars_four (n : Nat) :
    hexChars 4 n = [hexChar (n / 4096 % 16), hexChar (n / 256 % 16), hexChar (n / 16 % 16),
      hexChar (n % 16)] := by
  simp only [hexChars, List.nil_append, List.cons_append, Nat.div_div_eq_div_mul]

theorem hexFour_hexChars {n : Nat} (h : n < 0x10000) :
    hexFour (hexChar (n / 4096 % 16)) (hexChar (n / 256 % 16)) (hexChar (n / 16 % 16))
      (hexChar (n % 16)) = some n := by
  unfold hexFour
  rw [hexDigit?_hexChar _ (by omega), hexDigit?_hexChar _ (by omega),
    hexDigit?_hexChar _ (by omega), hexDigit?_hexChar _ (by omega)]
  show some _ = some n
  congr 1
  omega

theorem quotedText_plain {c : Char} (hmark : c ≠ '\x22') (hslash : c ≠ '\\')
    (hcontrol : 0x20 ≤ c.toNat) :
    quotedText opened found (c :: rest) = quotedText opened (c :: found) rest := by
  rw [quotedText.eq_def opened found (c :: rest)]
  dsimp only
  rw [if_neg hmark, if_neg hslash, if_neg (Nat.not_lt.mpr hcontrol)]

theorem quotedText_letter {e plain : Char} (he : escapedChar? e = some plain) :
    quotedText opened found ('\\' :: e :: rest) = quotedText opened (plain :: found) rest := by
  have hu : e ≠ 'u' := by
    rintro rfl
    exact absurd he (by simp [escapedChar?])
  rw [quotedText, if_neg (by decide), if_pos rfl]
  · simp only [he]
  · exact fun _ _ _ _ _ _ h => absurd h hu
  · exact fun h => absurd h hu

theorem quotedText_unit {n : Nat} {next : Char} (h : n < 0x10000)
    (hplain : n < 0xD800 ∨ 0xDFFF < n) :
    quotedText opened found (unitEscape n ++ next :: rest) =
      quotedText opened (Char.ofNat n :: found) (next :: rest) := by
  have hhigh : (decide (0xD800 ≤ n) && decide (n ≤ 0xDBFF)) = false := by
    rw [Bool.and_eq_false_iff, decide_eq_false_iff_not, decide_eq_false_iff_not]
    omega
  have hchar : charOfUnit n = Char.ofNat n := by
    rw [charOfUnit, if_neg]
    rw [Bool.and_eq_true, decide_eq_true_iff, decide_eq_true_iff]
    omega
  rw [unitEscape, hexChars_four]
  simp only [List.cons_append, List.nil_append]
  rw [quotedText, if_neg (by decide), if_pos rfl]
  simp only [hexFour_hexChars h, hhigh, hchar, Bool.false_eq_true, if_false]

theorem quotedText_pair {high low : Nat} {next : Char} (hh : 0xD800 ≤ high) (hh' : high ≤ 0xDBFF)
    (hl : 0xDC00 ≤ low) (hl' : low ≤ 0xDFFF) :
    quotedText opened found (unitEscape high ++ unitEscape low ++ next :: rest) =
      quotedText opened (charOfPair high low :: found) (next :: rest) := by
  have hhigh : (decide (0xD800 ≤ high) && decide (high ≤ 0xDBFF)) = true := by
    rw [Bool.and_eq_true, decide_eq_true_iff, decide_eq_true_iff]
    exact ⟨hh, hh'⟩
  have hlow : (decide (0xDC00 ≤ low) && decide (low ≤ 0xDFFF)) = true := by
    rw [Bool.and_eq_true, decide_eq_true_iff, decide_eq_true_iff]
    exact ⟨hl, hl'⟩
  rw [unitEscape, unitEscape, hexChars_four, hexChars_four]
  simp only [List.cons_append, List.nil_append]
  rw [quotedText, if_neg (by decide), if_pos rfl]
  simp only [hexFour_hexChars (Nat.lt_of_le_of_lt hh' (by decide : 0xDBFF < 0x10000)),
    hexFour_hexChars (Nat.lt_of_le_of_lt hl' (by decide : 0xDFFF < 0x10000)), hhigh, hlow, lowHalf,
    if_true, List.drop_succ_cons, List.drop_zero]

/-- The surrogates of a character beyond the first plane stand for it. -/
theorem charOfPair_halves {c : Char} (h : 0x10000 ≤ c.toNat) :
    charOfPair (0xD800 + (c.toNat - 0x10000) / 0x400) (0xDC00 + (c.toNat - 0x10000) % 0x400) =
      c := by
  have hsum : 0x10000 + (0xD800 + (c.toNat - 0x10000) / 0x400 - 0xD800) * 0x400 +
      (0xDC00 + (c.toNat - 0x10000) % 0x400 - 0xDC00) = c.toNat := by omega
  rw [charOfPair, hsum, Char.ofNat_toNat]

/-- A character is read as it was written. -/
theorem quotedText_escaped (c : Char) {next : Char} :
    quotedText opened found (escaped c ++ next :: rest) =
      quotedText opened (c :: found) (next :: rest) := by
  unfold escaped
  by_cases hmark : c = '\x22'
  · subst hmark
    exact quotedText_letter rfl
  by_cases hslash : c = '\\'
  · subst hslash
    exact quotedText_letter rfl
  rw [if_neg (by simp [hmark, hslash])]
  by_cases hn : c = '\n'
  · subst hn
    exact quotedText_letter rfl
  by_cases hr : c = '\r'
  · subst hr
    exact quotedText_letter rfl
  by_cases ht : c = '\t'
  · subst ht
    exact quotedText_letter rfl
  by_cases hb : c = '\x08'
  · subst hb
    exact quotedText_letter rfl
  by_cases hf : c = '\x0c'
  · subst hf
    exact quotedText_letter rfl
  rw [if_neg hn, if_neg hr, if_neg ht, if_neg hb, if_neg hf]
  -- No letter stands for the character: it stands for itself, or is one unit or two.
  by_cases hascii : 0x20 ≤ c.toNat ∧ c.toNat < 0x7F
  · rw [if_pos (by simp [hascii])]
    exact quotedText_plain hmark hslash hascii.1
  rw [if_neg (by simpa using hascii)]
  by_cases hplane : c.toNat < 0x10000
  · rw [if_pos hplane, quotedText_unit hplane ?_, Char.ofNat_toNat]
    rcases c.valid with h | h
    · exact .inl h
    · exact .inr h.1
  · have hlast : c.toNat < 0x110000 := by
      rcases c.valid with h | h
      · exact Nat.lt_trans h (by decide)
      · exact h.2
    rw [if_neg hplane, quotedText_pair (by omega) (by omega) (by omega) (by omega),
      charOfPair_halves (by omega)]

/-- Text is read as it was written. -/
theorem quotedText_flatMap (cs : List Char) :
    quotedText opened found (cs.flatMap escaped ++ '\x22' :: rest) =
      .ok (String.ofList (found.reverse ++ cs), rest) := by
  induction cs generalizing found with
  | nil =>
    rw [List.flatMap_nil, List.nil_append, quotedText.eq_def, List.append_nil]
    rfl
  | cons c cs ih =>
    -- At least the closing mark follows, as the step for a character asks.
    have hstep : ∃ next tail, cs.flatMap escaped ++ '\x22' :: rest = next :: tail := by
      cases cs.flatMap escaped with
      | nil => exact ⟨_, _, rfl⟩
      | cons d ds => exact ⟨_, _, rfl⟩
    obtain ⟨next, tail, htail⟩ := hstep
    rw [List.flatMap_cons, List.append_assoc, htail, quotedText_escaped, ← htail, ih,
      List.reverse_cons, List.append_assoc]
    rfl

theorem textChars_append (s : String) :
    textChars s ++ rest = '\x22' :: (s.toList.flatMap escaped ++ '\x22' :: rest) := by
  simp [textChars]

/-- Text in quotation marks is read as it was written, and no further. -/
theorem quotedText_textChars (s : String) :
    quotedText opened [] (s.toList.flatMap escaped ++ '\x22' :: rest) = .ok (s, rest) := by
  rw [quotedText_flatMap, List.reverse_nil, List.nil_append, String.ofList_toList]

end Meetings.Json
