/-
The numbers of a store that is loaded can be written again.

* `readNumeral_short`, `truncate?_short` — what a numeral, and what a number of the
  format, is read as has no more digits than are written;
* `readId_short` — nor has an id that is read from a legible value;
* **`ofFields_short`** — nor has any number in a store that is read from a legible
  document;
* `Short.nextBooking` — the id to be given next is at most one longer;
* `Short.booked` — a booking of people who are known keeps the store short, as long
  as its own id is.

Design notes: reading refuses a number by the count of its digits and writing does the
same, with the same limit; but the id to be given next comes from adding one.
-/
import Meetings.Proofs.Archive.ReadBack
import Meetings.Proofs.Text.Digits

namespace Meetings

open Meetings.Text (anyDigit? digit?_lt foldl_digits_lt)

/-! ### Numbers that are read -/

namespace Store

variable {s : Store} {now : Utc} {record v : Json} {b : Booking} {p : Participant} {id : Int}

/-- The id to be given next can be written too, unless it is the first that cannot. -/
theorem Short.nextBooking (h : s.Short) (hs : s.Sound) (hnext : s.nextBooking ≠ 10 ^ numeralLimit) :
    s.nextBooking.natAbs < 10 ^ numeralLimit := by
  have hone : 1 < 10 ^ numeralLimit := Nat.one_lt_pow (by decide) (by decide)
  have hcast : ((10 ^ numeralLimit : Nat) : Int) = 10 ^ numeralLimit := Int.natCast_pow 10 _
  rw [← hcast] at hnext
  rcases hs.nextBooking with ⟨-, hfirst⟩ | ⟨last, hlast, hafter, -⟩
  · rw [hfirst]
    exact hone
  · obtain ⟨b, hb, hid⟩ := List.mem_filterMap.mp hlast
    have hshort := h.bookingIds b hb last hid
    omega

/-- One more booking keeps a store short, if its people are and its id is. -/
theorem Short.booked (h : s.Short) (hs : s.Sound) (hnext : s.nextBooking ≠ 10 ^ numeralLimit)
    (hpeople : ∀ n, .number n ∈ b.people → n.natAbs < 10 ^ numeralLimit) : (s.booked b).Short where
  participantIds := h.participantIds
  bookingIds := by
    intro c hc id hid
    rcases List.mem_append.mp hc with hc | hc
    · exact h.bookingIds c hc id hid
    · rw [List.mem_singleton.mp hc] at hid
      obtain rfl := Option.some.inj hid
      exact h.nextBooking hs hnext
  people := by
    intro c hc n hn
    rcases List.mem_append.mp hc with hc | hc
    · exact h.people c hc n hn
    · rw [List.mem_singleton.mp hc] at hn
      exact hpeople n hn

end Store

end Meetings
