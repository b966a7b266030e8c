/-
A moment in UTC is read leniently from its text.

* `IsoText` — the two texts of a moment in UTC, which differ in how the offset
  is written;
* `readRawDate_written`, `readRawTime_written` — the reading of a date and of a
  time that are followed by something;
* `RawDate.moment_written` — the moment of the date and the clock that are shown;
* **`lenientMoment_isoText`** — either text stands for the moment it was written
  for.

Design notes: a year below 1000 is written with zeros in front and microseconds
only when there are some, so both readings are stated for padded digits, and the
one of a time for a fraction that may be missing.
-/
import Mathlib.Data.List.Basic
import Meetings.Lenient.Moment
import Meetings.Proofs.Moment.Reading
import Meetings.Proofs.Text.Utf8

namespace Meetings

open Meetings.Text

/-- The texts of a moment in UTC: date, `T`, time, and the offset as `+00:00` or
as `Z`. -/
inductive IsoText (m : Utc) : String → Prop
  | offset : IsoText m m.iso
  | zulu : IsoText m (Utc.zulu m)

/-! ### Digits -/

theorem isDigit_ascii {c : Char} (h : isDigit c = true) : c.toNat < 0x80 := by
  obtain ⟨n, hn⟩ := Option.isSome_iff_exists.mp h
  unfold digit? at hn
  split at hn
  · next hrange =>
    have hle : c.toNat ≤ '9'.toNat := hrange.2
    exact Nat.lt_of_le_of_lt hle (by decide)
  · cases hn

/-- Four digits, as the characters they are. -/
theorem paddedChars_four {n : Nat} (h : n < 10000) :
    ∃ a b c d, paddedChars 4 n = [a, b, c, d] ∧ [a, b, c, d].all isDigit = true := by
  have hlength : (paddedChars 4 n).length = 4 := length_paddedChars (by decide) h
  obtain ⟨a, b, c, d, hcs⟩ := List.length_eq_four.mp hlength
  refine ⟨a, b, c, d, hcs, List.all_eq_true.mpr ?_⟩
  rw [← hcs]
  exact isDigit_of_mem_paddedChars 4 n

theorem readTwo_padded {limit n : Nat} (rest : List Char) (h : n < 100) (hn : n ≤ limit) :
    readTwo limit (paddedChars 2 n ++ rest) = some (n, rest) := by
  obtain ⟨a, b, hab, ha, hb⟩ := paddedChars_two h
  have hvalue : digitsValue [a, b] = n := hab ▸ digitsValue_paddedChars 2 n
  rw [hab]
  show (if isDigit a && isDigit b && digitsValue [a, b] ≤ limit then _ else _) = _
  rw [ha, hb, hvalue]
  simp [hn]

theorem microseconds_padded {n : Nat} (h : n < 10 ^ 6) : microseconds (paddedChars 6 n) = n := by
  have hlength : (paddedChars 6 n).length = 6 := length_paddedChars (by decide) h
  have hsix : (paddedChars 6 n).take 6 = paddedChars 6 n :=
    List.take_of_length_le (Nat.le_of_eq hlength)
  unfold microseconds
  simp only [hsix, hlength, digitsValue_paddedChars]
  exact Nat.mul_one n

/-! ### Dates and times -/

theorem readRawDate_written {d : Date} (rest : List Char) (hd : d.Valid) :
    readRawDate (paddedChars 4 d.year ++ '-' :: (paddedChars 2 d.month ++ '-' ::
      (paddedChars 2 d.day ++ rest))) = .ok (⟨d.year, d.month, d.day⟩, rest) := by
  obtain ⟨hy, hy', hm, hm', hday, hday'⟩ := hd
  have hdays : d.day < 100 := by
    have := monthLength_le d.year d.month
    omega
  obtain ⟨y₁, y₂, y₃, y₄, hyear, hyears⟩ := paddedChars_four (by omega : d.year < 10000)
  obtain ⟨m₁, m₂, hmonth, hm₁, hm₂⟩ := paddedChars_two (by omega : d.month < 100)
  obtain ⟨d₁, d₂, hdigits, hd₁, hd₂⟩ := paddedChars_two hdays
  have hyearValue : digitsValue [y₁, y₂, y₃, y₄] = d.year :=
    hyear ▸ digitsValue_paddedChars 4 d.year
  have hmonthValue : digitsValue [m₁, m₂] = d.month := hmonth ▸ digitsValue_paddedChars 2 d.month
  have hdayValue : digitsValue [d₁, d₂] = d.day := hdigits ▸ digitsValue_paddedChars 2 d.day
  have hmonthRange : ¬((decide (d.month < 1) || decide (12 < d.month)) = true) := by
    simp only [Bool.or_eq_true, decide_eq_true_eq]
    omega
  have hdayRange :
      ¬((decide (d.day < 1) || decide (monthLength d.year d.month < d.day)) = true) := by
    simp only [Bool.or_eq_true, decide_eq_true_eq]
    omega
  rw [hyear, hmonth, hdigits]
  simp only [readRawDate, List.cons_append, List.nil_append, hyears, hyearValue, hmonthValue,
    hdayValue, List.all_cons, List.all_nil, hm₁, hm₂, hd₁, hd₂, Bool.and_true, Bool.not_true,
    Bool.false_eq_true, if_false, bne_self_eq_false, if_neg hmonthRange, if_neg hdayRange]

/-- A time is read up to a character that continues neither the seconds nor a
fraction. -/
theorem readRawTime_written {hour minute second micro : Nat} {next : Char} (rest : List Char)
    (hh : hour < 24) (hm : minute < 60) (hs : second < 60) (hmicro : micro < 10 ^ 6)
    (hdigit : isDigit next = false) (hmark : ¬(next = '.' ∨ next = ',')) :
    readRawTime (paddedChars 2 hour ++ ':' :: (paddedChars 2 minute ++ ':' ::
      (paddedChars 2 second ++
        ((if micro = 0 then [] else '.' :: paddedChars 6 micro) ++ next :: rest)))) =
      some (((hour * 60 + minute) * 60 + second) * 1000000 + micro, next :: rest) := by
  unfold readRawTime
  simp only [readTwo_padded _ (by omega : hour < 100) (by omega : hour ≤ 23),
    readTwo_padded _ (by omega : minute < 100) (by omega : minute ≤ 59),
    readTwo_padded _ (by omega : second < 100) (by omega : second ≤ 59),
    Option.bind_eq_bind, Option.bind_some]
  by_cases hzero : micro = 0
  · rw [if_pos hzero, hzero, List.nil_append, Nat.add_zero]
    simp only [if_neg hmark]
    rfl
  · have htake : (paddedChars 6 micro ++ next :: rest).takeWhile isDigit = paddedChars 6 micro := by
      rw [List.takeWhile_append_of_pos (isDigit_of_mem_paddedChars 6 micro),
        List.takeWhile_cons_of_neg (by simp [hdigit]), List.append_nil]
    have hdrop : (paddedChars 6 micro ++ next :: rest).dropWhile isDigit = next :: rest := by
      rw [List.dropWhile_append_of_pos (isDigit_of_mem_paddedChars 6 micro),
        List.dropWhile_cons_of_neg (by simp [hdigit])]
    have hsome : (paddedChars 6 micro).isEmpty = false := by
      rw [List.isEmpty_eq_false_iff, ← List.length_pos_iff, length_paddedChars (by decide) hmicro]
      decide
    rw [if_neg hzero, List.cons_append]
    simp only [true_or, if_true, htake, hdrop, hsome, Bool.false_eq_true, if_false,
      microseconds_padded hmicro]
    rfl

/-- The date and the clock that are shown make up the moment. -/
theorem RawDate.moment_written (m : Utc) :
    RawDate.moment ⟨m.date.year, m.date.month, m.date.day⟩ 0
      (((m.hour * 60 + m.minute) * 60 + m.second) * 1000000 + m.microsecond) = .ok m.zoned := by
  have hwall : Moment.ofWall 0 m.wall = .ok m := Moment.ofWall_eq_ok_iff.mpr rfl
  unfold RawDate.moment Moment.ofDate?
  rw [if_pos m.date_valid, m.wall_eq, hwall]
  rfl

/-! ### Moments -/

/-- A date and a time are read as the moment, whatever way the offset of UTC is
written behind them. -/
theorem readDateTime_written (m : Utc) {next : Char} {rest : List Char}
    (hdigit : isDigit next = false) (hmark : ¬(next = '.' ∨ next = ','))
    (hoffset : readRawOffset (next :: rest) = some 0) :
    readDateTime (m.isoDate ++ "T" ++ m.isoTime ++ String.ofList (next :: rest)).toList =
      some (.ok m.zoned) := by
  obtain ⟨hh, hm, hs, hmicro⟩ := m.clock_lt
  rw [m.toList_written, String.toList_ofList]
  unfold readDateTime
  rw [readRawDate_written _ m.date_valid]
  simp only [Except.toOption, Option.bind_eq_bind, Option.bind_some,
    readRawTime_written rest hh hm hs hmicro hdigit hmark, hoffset, RawDate.moment_written]
  rfl

theorem byteChars_ascii {s : String} (h : ∀ c ∈ s.toList, c.toNat < 0x80) :
    byteChars s = s.toList := by
  have hchars (cs : List Char) (hcs : ∀ c ∈ cs, c.toNat < 0x80) :
      (cs.flatMap String.utf8EncodeChar).map (fun b => Char.ofNat b.toNat) = cs := by
    induction cs with
    | nil => rfl
    | cons c cs ih =>
      rw [List.forall_mem_cons] at hcs
      have hbyte : (UInt8.ofNat c.toNat).toNat = c.toNat := by
        rw [UInt8.toNat_ofNat']
        omega
      rw [List.flatMap_cons, utf8EncodeChar_ascii hcs.1, List.singleton_append, List.map_cons,
        hbyte, Char.ofNat_toNat, ih hcs.2]
  exact hchars s.toList h

/-- The text of a date and a time is ASCII if what follows it is. -/
theorem written_ascii (m : Utc) {tail : String} (h : ∀ c ∈ tail.toList, c.toNat < 0x80) :
    ∀ c ∈ (m.isoDate ++ "T" ++ m.isoTime ++ tail).toList, c.toNat < 0x80 := by
  have hdigits (width n : Nat) : ∀ c ∈ paddedChars width n, c.toNat < 0x80 :=
    fun c hc => isDigit_ascii (isDigit_of_mem_paddedChars width n c hc)
  rw [m.toList_written]
  simp only [List.forall_mem_append, List.forall_mem_cons]
  have hfraction : ∀ c ∈ (if m.microsecond = 0 then []
      else '.' :: paddedChars 6 m.microsecond), c.toNat < 0x80 := by
    split
    · exact fun c hc => absurd hc List.not_mem_nil
    · exact List.forall_mem_cons.mpr ⟨by decide, hdigits 6 m.microsecond⟩
  exact ⟨hdigits _ _, by decide, hdigits _ _, by decide, hdigits _ _, by decide, hdigits _ _,
    by decide, hdigits _ _, by decide, hdigits _ _, hfraction, h⟩

theorem lenientMoment_written (m : Utc) {next : Char} {rest : List Char}
    (hascii : (next :: rest).all (·.toNat < 0x80) = true) (hdigit : isDigit next = false)
    (hmark : ¬(next = '.' ∨ next = ',')) (hoffset : readRawOffset (next :: rest) = some 0) :
    lenientMoment (.str (m.isoDate ++ "T" ++ m.isoTime ++ String.ofList (next :: rest))) =
      .ok m.zoned := by
  have htail : ∀ c ∈ (String.ofList (next :: rest)).toList, c.toNat < 0x80 := by
    rw [String.toList_ofList]
    intro c hc
    exact of_decide_eq_true (List.all_eq_true.mp hascii c hc)
  have hbytes := byteChars_ascii (written_ascii m htail)
  unfold lenientMoment readTimestampText
  simp only [hbytes, readDateTime_written m hdigit hmark hoffset, ok_mapError]

/-- **A moment is read back from either of its texts.** -/
theorem lenientMoment_isoText {m : Utc} {text : String} (h : IsoText m text) :
    lenientMoment (.str text) = .ok m.zoned := by
  cases h with
  | offset =>
    have htail : Moment.isoOffset 0 = String.ofList ['+', '0', '0', ':', '0', '0'] := by rfl
    unfold Moment.iso
    rw [htail]
    exact lenientMoment_written m (by rfl) (by decide) (by decide) (by rfl)
  | zulu => exact lenientMoment_written m (by rfl) (by decide) (by decide) (by rfl)

end Meetings
