/-
A moment in UTC is read back from its text.

* `readDigits_padded`, `readFraction_written` — digits of a fixed number, and the
  fraction of a second;
* `readDate_written`, `readTime_written` — a date with hyphens, and a time with
  colons;
* `Moment.wall_eq` — the date and the parts of the clock make up a moment;
* **`readMoment_zulu`** — the moment itself.
-/
import Meetings.Moment.Reading
import Meetings.Moment.Written
import Meetings.Proofs.Calendar
import Meetings.Proofs.Moment
import Meetings.Proofs.Text.Digits

namespace Meetings

open Meetings.Text

theorem readDigits_padded {width n : Nat} (rest : List Char) (hw : 0 < width) (h : n < 10 ^ width) :
    readDigits width (paddedChars width n ++ rest) = some (n, rest) := by
  have hlength := length_paddedChars hw h
  have htake : (paddedChars width n ++ rest).take width = paddedChars width n :=
    List.take_left' hlength
  have hall : (paddedChars width n).all isDigit = true :=
    List.all_eq_true.mpr (isDigit_of_mem_paddedChars width n)
  unfold readDigits
  simp only [htake, hlength, hall, and_self, if_true, digitsValue_paddedChars,
    List.drop_left' hlength]

/-- Two digits, as the characters they are. -/
theorem paddedChars_two {n : Nat} (h : n < 100) :
    ∃ a b, paddedChars 2 n = [a, b] ∧ isDigit a = true ∧ isDigit b = true := by
  have hlength : (paddedChars 2 n).length = 2 := length_paddedChars (by decide) h
  have hdigits := isDigit_of_mem_paddedChars 2 n
  match hcs : paddedChars 2 n with
  | [] => rw [hcs] at hlength; cases hlength
  | [_] => rw [hcs] at hlength; cases hlength
  | [a, b] =>
    rw [hcs] at hdigits
    exact ⟨a, b, rfl, hdigits a (by simp), hdigits b (by simp)⟩
  | _ :: _ :: _ :: _ => rw [hcs] at hlength; cases hlength

theorem readDate_written {d : Date} (rest : List Char) (hd : d.Valid) :
    readDate (paddedChars 4 d.year ++ '-' :: (paddedChars 2 d.month ++ '-' ::
      (paddedChars 2 d.day ++ rest))) = some (d, true, rest) := by
  have hvalid := hd
  obtain ⟨hy, hy', hm, hm', hday, hday'⟩ := hd
  have hmonth : d.month < 100 := by omega
  have hdays : d.day < 100 := by
    have := monthLength_le d.year d.month
    omega
  obtain ⟨a, b, hab, ha, hb⟩ := paddedChars_two hmonth
  have hread : readDigits 2 (a :: b :: '-' :: (paddedChars 2 d.day ++ rest)) =
      some (d.month, '-' :: (paddedChars 2 d.day ++ rest)) := by
    have := readDigits_padded ('-' :: (paddedChars 2 d.day ++ rest)) (by decide : 0 < 2) hmonth
    rwa [hab] at this
  have hW : a ≠ 'W' := by
    rintro rfl
    exact absurd ha (by decide)
  unfold readDate
  rw [readDigits_padded _ (by decide) (by omega), hab]
  simp only [List.cons_append, List.nil_append, Option.bind_eq_bind, Option.bind_some]
  split
  · next heq =>
    cases heq
    exact absurd rfl hW
  · next heq =>
    cases heq
    simp only [hread, readDigits_padded rest (by decide : 0 < 2) hdays, Option.bind_some,
      calendarDate, hvalid, if_true]
    rfl
  · next heq => exact absurd (List.cons.inj heq).1 (by decide)
  · next hno _ => exact absurd rfl (hno _)

/-- The digits of a number below a million stand for as many microseconds. -/
theorem fractionValue_digits {n : Nat} (h : n < 10 ^ 6) :
    fractionValue ((paddedChars 6 n).filterMap digit?) = n := by
  have hdigits (cs : List Char) (hcs : ∀ c ∈ cs, isDigit c = true) (k : Nat) :
      (cs.filterMap digit?).length = cs.length ∧
        (cs.filterMap digit?).foldl (fun n d => 10 * n + d) k =
          cs.foldl (fun n c => 10 * n + (digit? c).getD 0) k := by
    induction cs generalizing k with
    | nil => exact ⟨rfl, rfl⟩
    | cons c cs ih =>
      obtain ⟨d, hd⟩ := Option.isSome_iff_exists.mp (hcs c List.mem_cons_self)
      obtain ⟨hlength, hvalue⟩ := ih (fun e he => hcs e (List.mem_cons_of_mem _ he)) (10 * k + d)
      rw [List.filterMap_cons, hd]
      refine ⟨by rw [List.length_cons, List.length_cons, hlength], ?_⟩
      rw [List.foldl_cons, List.foldl_cons, hd]
      exact hvalue
  obtain ⟨hlength, hvalue⟩ := hdigits (paddedChars 6 n) (isDigit_of_mem_paddedChars 6 n) 0
  rw [length_paddedChars (by decide) h] at hlength
  have hsix : ((paddedChars 6 n).filterMap digit?).take 6 = (paddedChars 6 n).filterMap digit? :=
    List.take_of_length_le (Nat.le_of_eq hlength)
  unfold fractionValue
  simp only [hsix, hlength, hvalue]
  show digitsValue (paddedChars 6 n) * 1 = n
  rw [digitsValue_paddedChars, Nat.mul_one]

/-- A fraction is read back, and nothing if there is none. -/
theorem readFraction_written {n : Nat} (h : n < 10 ^ 6) :
    readFraction ((if n = 0 then [] else '.' :: paddedChars 6 n) ++ ['Z']) = some (n, ['Z']) := by
  by_cases hn : n = 0
  · rw [if_pos hn, hn]
    rfl
  · have htake : (paddedChars 6 n ++ ['Z']).takeWhile isDigit = paddedChars 6 n := by
      rw [List.takeWhile_append_of_pos (isDigit_of_mem_paddedChars 6 n)]
      exact List.append_nil _
    have hdrop : (paddedChars 6 n ++ ['Z']).dropWhile isDigit = ['Z'] := by
      rw [List.dropWhile_append_of_pos (isDigit_of_mem_paddedChars 6 n)]
      rfl
    have hne : paddedChars 6 n ≠ [] := by
      intro hnil
      have := length_paddedChars (by decide) h
      rw [hnil] at this
      cases this
    rw [if_neg hn, List.cons_append, readFraction]
    simp only [htake, hdrop, List.isEmpty_eq_false_iff.mpr hne, fractionValue_digits h, true_or,
      if_true, Bool.false_eq_true, if_false]

theorem readTime_written {hour minute second micro : Nat} (hh : hour < 24) (hm : minute < 60)
    (hs : second < 60) (hmicro : micro < 10 ^ 6) :
    readTime true (paddedChars 2 hour ++ ':' :: (paddedChars 2 minute ++ ':' ::
      (paddedChars 2 second ++
        ((if micro = 0 then [] else '.' :: paddedChars 6 micro) ++ ['Z'])))) =
      some (((hour * 60 + minute) * 60 + second) * 1000000 + micro, ['Z']) := by
  unfold readTime
  simp only [readDigits_padded _ (by decide : 0 < 2) (by omega : hour < 10 ^ 2),
    readDigits_padded _ (by decide : 0 < 2) (by omega : minute < 10 ^ 2),
    readDigits_padded _ (by decide : 0 < 2) (by omega : second < 10 ^ 2),
    readFraction_written hmicro, clockTime, hh, hm, hs, and_self, if_true, Option.bind_eq_bind,
    Option.bind_some, Bool.not_true, Bool.false_eq_true, if_false]
  rfl

/-! ### Moments -/

namespace Moment

variable {offset : Int}

theorem date_valid (m : Moment offset) : m.date.Valid := by
  refine Date.ofDayNumber_valid ?_
  have h := m.wall_nonneg
  have h' := m.wall_lt
  unfold dayNumber calendarDays
  unfold calendarEnd at h'
  unfold daySpan
  omega

theorem clock_lt (m : Moment offset) :
    m.hour < 24 ∧ m.minute < 60 ∧ m.second < 60 ∧ m.microsecond < 10 ^ 6 := by
  unfold hour minute second microsecond sinceMidnight daySpan hourSpan minuteSpan secondSpan
  omega

/-- The date and the parts of the clock make up the reading. -/
theorem wall_eq (m : Moment offset) :
    (m.date.dayNumber : Int) * daySpan +
      ((((m.hour * 60 + m.minute) * 60 + m.second) * 1000000 + m.microsecond : Nat) : Int) =
      m.wall := by
  have h := m.wall_nonneg
  rw [date, Date.dayNumber_ofDayNumber]
  unfold dayNumber hour minute second microsecond sinceMidnight daySpan hourSpan minuteSpan
    secondSpan
  omega

/-- The characters of a date and a time, with what follows them. -/
theorem toList_written (m : Moment offset) (tail : String) :
    (m.isoDate ++ "T" ++ m.isoTime ++ tail).toList =
      paddedChars 4 m.date.year ++ '-' :: (paddedChars 2 m.date.month ++ '-' ::
        (paddedChars 2 m.date.day ++ 'T' :: (paddedChars 2 m.hour ++ ':' ::
          (paddedChars 2 m.minute ++ ':' :: (paddedChars 2 m.second ++
            ((if m.microsecond = 0 then []
              else '.' :: paddedChars 6 m.microsecond) ++ tail.toList)))))) := by
  unfold isoDate isoTime padded
  by_cases h : m.microsecond = 0
  · simp [h, String.toList_append]
  · simp [h, String.toList_append]

theorem toList_zulu (m : Utc) : (Utc.zulu m).toList =
    paddedChars 4 m.date.year ++ '-' :: (paddedChars 2 m.date.month ++ '-' ::
      (paddedChars 2 m.date.day ++ 'T' :: (paddedChars 2 m.hour ++ ':' ::
        (paddedChars 2 m.minute ++ ':' :: (paddedChars 2 m.second ++
          ((if m.microsecond = 0 then []
            else '.' :: paddedChars 6 m.microsecond) ++ ['Z'])))))) :=
  m.toList_written "Z"

end Moment

/-- The text of a moment in UTC is read in the first notation. -/
theorem readWritten_zulu (m : Utc) : (readWritten (Utc.zulu m).toList).bind Written.zoned? =
    some m.zoned := by
  obtain ⟨hh, hm, hs, hmicro⟩ := m.clock_lt
  have hread : readWritten (Utc.zulu m).toList = some ⟨m.date,
      some (((m.hour * 60 + m.minute) * 60 + m.second) * 1000000 + m.microsecond), some 0⟩ := by
    rw [Moment.toList_zulu]
    unfold readWritten
    simp only [readDate_written _ m.date_valid, readTime_written hh hm hs hmicro,
      Option.bind_eq_bind, Option.bind_some]
    rfl
  have hwall : Moment.ofWall 0 m.wall = .ok m := Moment.ofWall_eq_ok_iff.mpr rfl
  rw [hread, Option.bind_some, Written.zoned?]
  simp only [Option.getD_some, Moment.ofDate?, m.date_valid, if_true, m.wall_eq, hwall]
  rfl

/-- **A moment in UTC is read back from its text**, whatever the time is now. -/
theorem readMoment_zulu (now m : Utc) :
    readMoment now (Utc.zulu m) = .ok (.moment m.zoned) := by
  -- The text is not the word for the time of reading, as it holds a hyphen.
  have hnow : Utc.zulu m ≠ "now" := by
    intro h
    have hmem : '-' ∈ (Utc.zulu m).toList := by
      rw [Moment.toList_zulu]
      exact List.mem_append_right _ List.mem_cons_self
    rw [h] at hmem
    exact absurd hmem (by decide)
  unfold readMoment
  simp only [readWritten_zulu, hnow, if_false]
  rfl

end Meetings
