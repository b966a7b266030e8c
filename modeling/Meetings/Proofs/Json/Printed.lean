/-
A document is written in printable ASCII and line breaks.

* `IsPrinted` — the characters that a document is written in;
* **`Plain.printed`** — a plain value is written in them;
* **`decode_pretty`** — the bytes of its text can be taken for the text.
-/
import Meetings.Proofs.Json.RoundTrip
import Meetings.Proofs.Text.Utf8

namespace Meetings.Json

open Meetings.Text

/-- A line break or a printable character of ASCII. -/
def IsPrinted (c : Char) : Prop := c = '\n' ∨ 0x20 ≤ c.toNat ∧ c.toNat < 0x7F

instance (c : Char) : Decidable (IsPrinted c) :=
  inferInstanceAs (Decidable (c = '\n' ∨ 0x20 ≤ c.toNat ∧ c.toNat < 0x7F))

theorem IsPrinted.ascii {c : Char} (h : IsPrinted c) : c.toNat < 0x80 := by
  rcases h with rfl | h
  · decide
  · omega

theorem IsPrinted.ne_return {c : Char} (h : IsPrinted c) : c ≠ '\r' := by
  rintro rfl
  revert h
  decide

theorem isPrinted_of_isDigit {c : Char} (h : isDigit c = true) : IsPrinted c := by
  unfold isDigit digit? at h
  by_cases hc : '0' ≤ c ∧ c ≤ '9'
  · have hlow : '0'.toNat ≤ c.toNat := hc.1
    have hhigh : c.toNat ≤ '9'.toNat := hc.2
    exact .inr ⟨Nat.le_trans (by decide) hlow, Nat.lt_of_le_of_lt hhigh (by decide)⟩
  · rw [if_neg hc] at h
    cases h

theorem isPrinted_hexChar : ∀ n < 16, IsPrinted (hexChar n) := by decide

/-- Text in these characters only. -/
def Printed (cs : List Char) : Prop := ∀ c ∈ cs, IsPrinted c

instance (cs : List Char) : Decidable (Printed cs) := List.decidableBAll IsPrinted cs

@[simp] theorem printed_nil : Printed [] := fun _ hc => absurd hc List.not_mem_nil

@[simp] theorem printed_cons {c : Char} {cs : List Char} :
    Printed (c :: cs) ↔ IsPrinted c ∧ Printed cs :=
  List.forall_mem_cons

@[simp] theorem printed_append {cs ds : List Char} :
    Printed (cs ++ ds) ↔ Printed cs ∧ Printed ds :=
  List.forall_mem_append

theorem printed_unitEscape (n : Nat) : Printed (unitEscape n) := by
  have hdigit (k : Nat) : IsPrinted (hexChar (k % 16)) :=
    isPrinted_hexChar _ (Nat.mod_lt _ (by decide))
  rw [unitEscape, hexChars_four]
  simp only [printed_cons, hdigit, printed_nil, and_true]
  decide

theorem printed_escaped (c : Char) : Printed (escaped c) := by
  unfold escaped
  by_cases hmark : c = '\x22' ∨ c = '\\'
  · rw [if_pos (by simpa using hmark)]
    rcases hmark with rfl | rfl
    · decide
    · decide
  rw [if_neg (by simpa using hmark)]
  repeat' split
  -- The letters, a character for itself, and one or two units.
  · decide
  · decide
  · decide
  · decide
  · decide
  · next h =>
    rw [Bool.and_eq_true, decide_eq_true_iff, decide_eq_true_iff] at h
    exact printed_cons.mpr ⟨.inr h, printed_nil⟩
  · exact printed_unitEscape _
  · exact printed_append.mpr ⟨printed_unitEscape _, printed_unitEscape _⟩

theorem printed_textChars (s : String) : Printed (textChars s) := by
  have hmark : IsPrinted '\x22' := by decide
  have htext : Printed (s.toList.flatMap escaped) := by
    intro c hc
    obtain ⟨d, -, hd⟩ := List.mem_flatMap.mp hc
    exact printed_escaped d c hd
  simp only [textChars, List.cons_append, printed_cons, printed_append, hmark, htext, printed_nil,
    and_self]

theorem printed_newline (level : Nat) : Printed (newline level) := by
  refine printed_cons.mpr ⟨.inl rfl, fun c hc => ?_⟩
  rw [List.eq_of_mem_replicate hc]
  decide

theorem printed_decimalChars (n : Nat) : Printed (decimalChars n) :=
  fun c hc => isPrinted_of_isDigit (isDigit_of_mem_decimalChars n c hc)

theorem printed_signedChars (n : Int) : Printed (signedChars n) := by
  cases n with
  | ofNat m => exact printed_decimalChars m
  | negSucc m => exact printed_cons.mpr ⟨by decide, printed_decimalChars (m + 1)⟩

/-- Digits are written with zeros, a point, an exponent and its sign. -/
theorem printed_layout {digits : List Char} (h : Printed digits) (k : Int) :
    Printed (Binary64.layout digits k) := by
  have hzeros (count : Nat) : Printed (List.replicate count '0') := by
    intro c hc
    rw [List.eq_of_mem_replicate hc]
    decide
  have hzero : IsPrinted '0' := by decide
  have hpoint : IsPrinted '.' := by decide
  have hletter : IsPrinted 'e' := by decide
  unfold Binary64.layout
  dsimp only
  split
  · split
    · simp only [List.cons_append, printed_cons, printed_append, hzero, hpoint, hzeros, h, and_self]
    · split
      · simp only [printed_cons, printed_append, hzero, hpoint, hzeros, h, printed_nil, and_self]
      · exact printed_append.mpr ⟨fun c hc => h c (List.mem_of_mem_take hc),
          printed_cons.mpr ⟨hpoint, fun c hc => h c (List.mem_of_mem_drop hc)⟩⟩
  · have hexponent : Printed (paddedChars 2 ((digits.length : Int) + k - 1).natAbs) :=
      fun c hc => isPrinted_of_isDigit (isDigit_of_mem_paddedChars 2 _ c hc)
    have hsign : IsPrinted (if (digits.length : Int) + k - 1 < 0 then '-' else '+') := by
      split
      · decide
      · decide
    refine printed_append.mpr ⟨?_, printed_cons.mpr ⟨hletter, printed_cons.mpr ⟨hsign, hexponent⟩⟩⟩
    split
    · exact h
    · rw [printed_cons] at h
      simp only [printed_cons, hpoint, h, and_self]
    · exact printed_cons.mpr ⟨hzero, printed_nil⟩

theorem printed_real {x : Binary64} (hx : x.Fits) : Printed (scalarChars (.real x)) := by
  obtain ⟨s, body, hwritten, hbody⟩ := real_written hx
  have hprinted : Printed body := by
    rcases hbody with hword | ⟨n, k, rfl⟩
    · exact (by decide : ∀ w ∈ ["NaN".toList, "Infinity".toList, ['0', '.', '0']], Printed w)
        body hword
    · exact printed_layout (printed_decimalChars n) k
  rw [hwritten]
  cases s with
  | false => exact hprinted
  | true => exact printed_cons.mpr ⟨by decide, hprinted⟩

theorem printed_prettyItems {level : Nat} {items : List Json}
    (h : ∀ v ∈ items, Printed (prettyChars level v)) : Printed (prettyItems level items) := by
  induction items with
  | nil => exact printed_nil
  | cons item items ih =>
    rw [List.forall_mem_cons] at h
    have hcomma : IsPrinted ',' := by decide
    simp only [prettyItems, List.cons_append, printed_cons, printed_append, hcomma,
      printed_newline, h.1, ih h.2, and_self]

theorem printed_prettyFields {level : Nat} {fields : List (String × Json)}
    (h : ∀ f ∈ fields, Printed (prettyChars level f.2)) : Printed (prettyFields level fields) := by
  induction fields with
  | nil => exact printed_nil
  | cons f fields ih =>
    rw [List.forall_mem_cons] at h
    have hcomma : IsPrinted ',' := by decide
    have hcolon : IsPrinted ':' := by decide
    have hspace : IsPrinted ' ' := by decide
    simp only [prettyFields, List.cons_append, printed_cons, printed_append, hcomma, hcolon, hspace,
      printed_newline, printed_textChars, printed_nil, h.1, ih h.2, and_self]

/-- A plain value is written in printable ASCII and line breaks. -/
theorem Plain.printed {depth : Nat} {v : Json} (h : Plain depth v) (level : Nat) :
    Printed (prettyChars level v) := by
  induction h generalizing level with
  | null => exact (by decide : Printed "null".toList)
  | @bool _ b =>
    cases b
    · exact (by decide : Printed "false".toList)
    · exact (by decide : Printed "true".toList)
  | @int _ n short => exact printed_signedChars n
  | @real _ x fits => exact printed_real fits
  | @str _ s => exact printed_textChars s
  | @arr depth items each ih =>
    have hopen : IsPrinted '[' := by decide
    have hclose : IsPrinted ']' := by decide
    cases items with
    | nil => simp only [prettyChars, printed_cons, hopen, hclose, printed_nil, and_self]
    | cons item items =>
      rw [List.forall_mem_cons] at ih
      simp only [prettyChars, List.cons_append, printed_cons, printed_append, hopen, hclose,
        printed_newline, ih.1, printed_prettyItems fun v hv => ih.2 v hv (level + 1), printed_nil,
        and_self]
  | @obj depth fields keys each ih =>
    have hopen : IsPrinted '\x7b' := by decide
    have hclose : IsPrinted '\x7d' := by decide
    have hcolon : IsPrinted ':' := by decide
    have hspace : IsPrinted ' ' := by decide
    cases fields with
    | nil => simp only [prettyChars, printed_cons, hopen, hclose, printed_nil, and_self]
    | cons f fields =>
      obtain ⟨key, v⟩ := f
      rw [List.forall_mem_cons] at ih
      simp only [prettyChars, List.cons_append, printed_cons, printed_append, hopen, hclose, hcolon,
        hspace, printed_newline, printed_textChars, ih.1,
        printed_prettyFields fun f hf => ih.2 f hf (level + 1), printed_nil, and_self]

/-- The bytes of a plain value are taken for its text, and its text for the
value. -/
theorem decode_pretty {v : Json} (h : Plain depthLimit v) :
    decodeUtf8 (encodeUtf8 v.pretty) = .ok v.pretty ∧
      read (String.ofList (unifyLines v.pretty.toList)) = .ok v := by
  have hprinted : Printed v.pretty.toList := by
    rw [pretty, String.toList_ofList]
    exact h.printed 0
  constructor
  · exact decodeUtf8_encodeUtf8 fun c hc => (hprinted c hc).ascii
  · rw [unifyLines_of_ne fun c hc => (hprinted c hc).ne_return, String.ofList_toList]
    exact read_pretty h

end Meetings.Json
