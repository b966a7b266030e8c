/-
What is printed after a command has worked has no faulty tags.

* `Markup.Bare` — text without an opening bracket and without a backslash;
* `pieces_bare`, `pieces_tag` — how such text, and how a tag, is cut off in front
  of what follows;
* **`plainText_bare`**, **`plainText_styled`** — bare text is printed, and so is
  bare text inside of a tag and behind it;
* `bare_signedDecimal`, `bare_display`, `bare_of_requested` — numbers, times and
  the names that are accepted are bare.

Design notes: a tag in a name would make the printing fail, after the store is
written.  No such name is accepted; a file written by hand may hold one.
-/
import Meetings.Booking
import Meetings.CommandLine.Markup
import Meetings.Proofs.Text.Digits
import Meetings.Request.Registration
import Meetings.Slot.Report

namespace Meetings

open Meetings.Text

namespace Markup

variable {cs mid rest content : List Char}

/-- Text without an opening bracket and without a backslash. -/
def Bare (cs : List Char) : Prop := (cs.all fun c => c != '[' && c != '\\') = true

instance (cs : List Char) : Decidable (Bare cs) := inferInstanceAs (Decidable (_ = true))

theorem bare_iff : Bare cs ↔ ∀ c ∈ cs, c ≠ '[' ∧ c ≠ '\\' := by
  simp [Bare]

theorem bare_append {cs ds : List Char} : Bare (cs ++ ds) ↔ Bare cs ∧ Bare ds := by
  rw [Bare, List.all_append, Bool.and_eq_true]
  rfl

/-- Bare text becomes part of the text that was found. -/
theorem pieces_bare (h : Bare mid) (fuel position : Nat) (found : List Char) :
    pieces (fuel + mid.length) position found (mid ++ rest) =
      pieces fuel (position + mid.length) (mid.reverse ++ found) rest := by
  induction mid generalizing position found with
  | nil => rfl
  | cons c mid ih =>
    have hc := List.forall_mem_cons.mp (bare_iff.mp h)
    have hslashes : ((c :: (mid ++ rest)).takeWhile (· = '\\')).length = 0 := by
      rw [List.takeWhile_cons_of_neg (by simpa using hc.1.2)]
      rfl
    have hhead : (c :: (mid ++ rest)).head? ≠ some '[' := by simpa using hc.1.1
    rw [List.cons_append, List.length_cons, ← Nat.add_assoc, pieces]
    simp only [hslashes, List.drop_zero, if_neg hhead]
    rw [ih (bare_iff.mpr hc.2), List.reverse_cons, List.append_assoc, Nat.add_assoc, Nat.add_comm 1]
    rfl

/-- A tag is cut off, behind the text that was found. -/
theorem pieces_tag (h : tagContent? (content ++ ']' :: rest) = some content)
    (fuel position : Nat) (found : List Char) :
    pieces (fuel + 1) position found ('[' :: (content ++ ']' :: rest)) =
      .text (dropSlashes found.reverse) :: .text [] :: .tag content position ::
        pieces fuel (position + (content.length + 2)) [] rest := by
  have hslashes : (('[' :: (content ++ ']' :: rest)).takeWhile (· = '\\')).length = 0 := rfl
  have hbehind : ('[' :: (content ++ ']' :: rest)).drop (content.length + 2) = rest := by
    rw [List.drop_succ_cons, List.append_cons, List.drop_left' (by simp)]
  rw [pieces]
  simp only [hslashes, List.drop_zero, List.head?_cons, if_true, List.drop_one, List.tail_cons, h,
    hbehind]
  rfl

/-- What a tag for a style holds: a name that may open a tag, and no brackets. -/
structure Style (content : List Char) : Prop where
  opens : ∃ c rest, content = c :: rest ∧ opensTag c = true ∧ c ≠ '/'
  closed : (content.all fun c => c != '[' && c != ']') = true
  named : (styleName (tagName content)).isEmpty = false

theorem tagContent_of_closed {c : Char} (hopens : opensTag c = true)
    (h : (content.all fun c => c != '[' && c != ']') = true) :
    tagContent? (c :: (content ++ ']' :: rest)) = some (c :: content) := by
  have htake : (content ++ ']' :: rest).takeWhile (fun c => c != '[' && c != ']') = content := by
    rw [List.takeWhile_append_of_pos (List.all_eq_true.mp h),
      List.takeWhile_cons_of_neg (by decide), List.append_nil]
  unfold tagContent?
  simp only [hopens, htake, List.drop_left]
  rfl

/-- A tag, and the tag that closes it, hold what is said. -/
theorem Style.tagContent (h : Style content) :
    tagContent? (content ++ ']' :: rest) = some content ∧
      tagContent? ('/' :: content ++ ']' :: rest) = some ('/' :: content) := by
  obtain ⟨c, more, rfl, hc, -⟩ := h.opens
  have hclosed := h.closed
  rw [List.all_cons, Bool.and_eq_true] at hclosed
  exact ⟨tagContent_of_closed hc hclosed.2, tagContent_of_closed rfl h.closed⟩

theorem Style.join_open (h : Style content) (opened : List (List Char)) (position : Nat)
    (ps : List Piece) : join opened (.tag content position :: ps) =
      join (styleName (tagName content) :: opened) ps := by
  obtain ⟨c, more, rfl, -, hslash⟩ := h.opens
  rw [join]
  exact fun closing hcons => hslash (List.cons.inj hcons).1

theorem Style.join_close (h : Style content) (opened : List (List Char)) (position : Nat)
    (ps : List Piece) : join (styleName (tagName content) :: opened)
      (.tag ('/' :: content) position :: ps) = join opened ps := by
  rw [join]
  simp only [h.named, close?, if_true]
  rfl

/-- Text between tags is joined to what follows it. -/
theorem join_text {opened : List (List Char)} {ps : List Piece}
    (h : ∃ out, join opened ps = .ok out) : ∃ out, join opened (.text cs :: ps) = .ok out := by
  obtain ⟨out, h⟩ := h
  rw [join, h]
  exact ⟨_, rfl⟩

/-- What ends with bare text is joined. -/
theorem join_bare (h : Bare cs) (fuel position : Nat) :
    ∃ out, join [] (pieces (fuel + cs.length) position [] cs) = .ok out := by
  have hpieces := @pieces_bare _ [] h fuel position []
  rw [List.append_nil, List.append_nil] at hpieces
  have hend : pieces fuel (position + cs.length) cs.reverse [] =
      [.text (dropSlashes cs.reverse.reverse)] := by
    cases fuel with
    | zero => rfl
    | succ fuel => rfl
  rw [hpieces, hend]
  exact join_text ⟨[], rfl⟩

/-- Bare text inside of a tag and behind it is joined. -/
theorem Style.join (h : Style content) (hmid : Bare mid) (hrest : Bare rest) (fuel : Nat) :
    ∃ out, Markup.join [] (pieces (fuel + rest.length + 1 + mid.length + 1) 0 []
      ('[' :: (content ++ ']' :: (mid ++ '[' :: ('/' :: content ++ ']' :: rest))))) = .ok out := by
  rw [pieces_tag h.tagContent.1, pieces_bare hmid, pieces_tag h.tagContent.2]
  refine join_text (join_text ?_)
  rw [h.join_open]
  refine join_text (join_text ?_)
  rw [h.join_close]
  exact join_bare hrest fuel _

end Markup

open Markup

theorem plainText_of_join {text : String}
    (h : ∃ out, join [] (pieces (text.toList.length + 1) 0 [] text.toList) = .ok out) :
    ∃ cs, plainText text = .ok cs := by
  obtain ⟨out, h⟩ := h
  unfold plainText
  dsimp only
  rw [h]
  exact ⟨_, rfl⟩

/-- **Bare text is printed.** -/
theorem plainText_bare {text : String} (h : Bare text.toList) : ∃ cs, plainText text = .ok cs :=
  plainText_of_join (Nat.add_comm 1 _ ▸ join_bare h 1 0)

/-- **Bare text inside of a tag and behind it is printed.** -/
theorem plainText_styled {style inside behind : String} (hstyle : Style style.toList)
    (hinside : Bare inside.toList) (hbehind : Bare behind.toList) :
    ∃ cs, plainText ("[" ++ style ++ "]" ++ inside ++ "[/" ++ style ++ "]" ++ behind) = .ok cs := by
  refine plainText_of_join ?_
  have htext : ("[" ++ style ++ "]" ++ inside ++ "[/" ++ style ++ "]" ++ behind).toList =
      '[' :: (style.toList ++ ']' :: (inside.toList ++
        '[' :: ('/' :: style.toList ++ ']' :: behind.toList))) := by
    simp
  have hlength : ('[' :: (style.toList ++ ']' :: (inside.toList ++
        '[' :: ('/' :: style.toList ++ ']' :: behind.toList)))).length + 1 =
      2 * style.toList.length + 4 + behind.toList.length + 1 + inside.toList.length + 1 := by
    simp only [List.length_append, List.length_cons]
    omega
  rw [htext, hlength]
  exact hstyle.join hinside hbehind _

/-! ### What is bare -/

theorem bare_of_digits (h : ∀ c ∈ cs, isDigit c = true) : Bare cs := by
  refine bare_iff.mpr fun c hc => ?_
  have hdigit := h c hc
  constructor
  · rintro rfl
    exact absurd hdigit (by decide)
  · rintro rfl
    exact absurd hdigit (by decide)

theorem bare_decimal (n : Nat) : Bare (decimal n).toList := by
  rw [decimal, String.toList_ofList]
  exact bare_of_digits (isDigit_of_mem_decimalChars n)

theorem bare_padded (width n : Nat) : Bare (padded width n).toList := by
  rw [padded, String.toList_ofList]
  exact bare_of_digits (isDigit_of_mem_paddedChars width n)

theorem bare_signedDecimal (n : Int) : Bare (signedDecimal n).toList := by
  rw [signedDecimal, String.toList_ofList]
  cases n with
  | ofNat n => exact bare_of_digits (isDigit_of_mem_decimalChars n)
  | negSucc n =>
    exact bare_append.mpr
      ⟨show Bare ['-'] from rfl, bare_of_digits (isDigit_of_mem_decimalChars (n + 1))⟩

theorem bare_displayOptional (n : Option Int) : Bare (displayOptional n).toList := by
  cases n with
  | none => decide
  | some n => exact bare_signedDecimal n

theorem bare_weekday (m : Utc) : Bare m.weekday.toList := by
  have hnames : ∀ i < 7, Bare (weekdayNames.getD i "").toList := by decide
  exact hnames _ (Nat.mod_lt _ (by decide))

theorem bare_dayMonthYear (m : Utc) : Bare m.dayMonthYear.toList := by
  unfold Moment.dayMonthYear
  simp only [String.toList_append, bare_append]
  exact ⟨⟨⟨⟨bare_padded 2 _, by decide⟩, bare_padded 2 _⟩, by decide⟩, bare_decimal _⟩

theorem bare_clock (m : Utc) : Bare m.clock.toList := by
  unfold Moment.clock
  simp only [String.toList_append, bare_append]
  exact ⟨⟨bare_padded 2 _, by decide⟩, bare_padded 2 _⟩

theorem bare_intercalate {names : List String} (h : ∀ name ∈ names, Bare name.toList) :
    Bare (", ".intercalate names).toList := by
  induction names with
  | nil => decide
  | cons name names ih =>
    rw [List.forall_mem_cons] at h
    cases names with
    | nil =>
      rw [String.intercalate_singleton]
      exact h.1
    | cons next names =>
      rw [String.intercalate_cons_cons, String.toList_append, String.toList_append, bare_append,
        bare_append]
      exact ⟨⟨h.1, by decide⟩, ih h.2⟩

/-- A meeting is shown bare if the names of its people are. -/
theorem bare_display {v : BookingView} (h : ∀ p ∈ v.participants, Bare p.name.toList) :
    Bare v.display.toList := by
  have hnames : Bare (", ".intercalate (v.participants.map (·.name))).toList := by
    refine bare_intercalate fun name hname => ?_
    obtain ⟨p, hp, rfl⟩ := List.mem_map.mp hname
    exact h p hp
  unfold BookingView.display
  simp only [String.toList_append, bare_append, bare_weekday, bare_dayMonthYear, bare_clock,
    bare_signedDecimal, hnames, true_and, and_true]
  decide

/-- A name that is accepted is bare. -/
theorem bare_of_requested {name : String} (h : requestedNameFault name = none) :
    Bare name.toList := by
  unfold requestedNameFault at h
  split at h
  · cases h
  split at h
  · cases h
  split at h
  · next hall =>
    refine bare_iff.mpr fun c hc => ?_
    have hchar := List.all_eq_true.mp hall c hc
    constructor
    · rintro rfl
      exact absurd hchar (by decide)
    · rintro rfl
      exact absurd hchar (by decide)
  · cases h

end Meetings
