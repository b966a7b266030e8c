/-
The people of a request, and what a store knows of them.

* `withoutRepeats_of_numbers`, `refersTo_number` — lists of references that are
  whole numbers;
* `participantsAmong_numbers` — people who are named once each are known by the
  records that the store has of them;
* `missingPeople_eq` — those who are missing are those it has no record of;
* `notFound_of_short`, `notFound_of_long`, `notFound_cases` — how it is answered that
  somebody is not known, by the length of their number;
* `Store.FirstMissing` — the first of some people whom it has no record of;
* `known_of_nobody_missing`, `recordsOf_numbers` — if nobody is missing, everyone
  is known and everyone's record is shown.

Design notes: a store knows people by references, and a request names them by
whole numbers.  These statements are about the numbers alone.
-/
import Mathlib.Data.List.Basic
import Meetings.Proofs.Json.Number
import Meetings.Service.Scheduling
import Meetings.Store

namespace Meetings

variable {s : Store} {people : List Int} {id : Int} {p : Participant}

theorem withoutRepeats_numbers (h : people.Nodup) :
    withoutRepeats (people.map .number) = people.map .number := by
  induction people with
  | nil => rfl
  | cons n rest ih =>
    rw [List.nodup_cons] at h
    rw [List.map_cons, withoutRepeats, ih h.2, List.filter_eq_self.mpr]
    intro r hr
    obtain ⟨m, hm, rfl⟩ := List.mem_map.mp hr
    rw [PersonRef.same_number]
    have hne : n ≠ m := by
      rintro rfl
      exact h.1 hm
    simpa using hne

/-- Of people who are named several times the first naming stays. -/
theorem withoutRepeats_of_numbers (people : List Int) :
    ∃ once : List Int, once.Nodup ∧ (∀ id, id ∈ once ↔ id ∈ people) ∧
      withoutRepeats (people.map .number) = once.map .number := by
  induction people with
  | nil => exact ⟨[], List.nodup_nil, fun _ => Iff.rfl, rfl⟩
  | cons n rest ih =>
    obtain ⟨once, honce, hmem, heq⟩ := ih
    refine ⟨n :: once.filter fun m => !n == m, ?_, ?_, ?_⟩
    · refine List.nodup_cons.mpr ⟨?_, honce.filter _⟩
      simp
    · intro id
      by_cases hid : n = id
      · simp [hid]
      · simp [hid, hmem, Ne.symm hid]
    · rw [List.map_cons, withoutRepeats, heq, List.map_cons, List.filter_map]
      simp only [Function.comp_def, PersonRef.same_number]

/-- References that are all whole numbers. -/
theorem exists_numbers {refs : List PersonRef} (h : ∀ r ∈ refs, ∃ n, r = .number n) :
    ∃ people : List Int, refs = people.map .number := by
  induction refs with
  | nil => exact ⟨[], rfl⟩
  | cons r rest ih =>
    rw [List.forall_mem_cons] at h
    obtain ⟨⟨n, rfl⟩, hrest⟩ := h
    obtain ⟨people, rfl⟩ := ih hrest
    exact ⟨n :: people, rfl⟩

/-- Somebody takes part whose number is named. -/
theorem refersTo_number {refs : List PersonRef} (h : ∀ r ∈ refs, ∃ n, r = .number n) :
    refersTo refs (.number id) = true ↔ PersonRef.number id ∈ refs := by
  rw [refersTo, List.any_eq_true]
  constructor
  · rintro ⟨r, hr, hsame⟩
    obtain ⟨n, rfl⟩ := h r hr
    rw [PersonRef.same_number, beq_iff_eq] at hsame
    rwa [hsame]
  · intro hmem
    exact ⟨_, hmem, by rw [PersonRef.same_number, beq_self_eq_true]⟩

/-! ### Somebody who is not known -/

section NotFound

variable {α : Type}

theorem notFound_of_short (h : id.natAbs < 10 ^ numeralLimit) :
    (notFound id : Except Fault (Except Failure α)) = .ok (.error (.unknownParticipant id)) := by
  rw [notFound, Json.overlong_eq_false_iff.mpr h]
  rfl

theorem notFound_of_long (h : 10 ^ numeralLimit ≤ id.natAbs) :
    (notFound id : Except Fault (Except Failure α)) = .error .unprintable := by
  have hlong : Json.overlong id = true := by
    rw [← Bool.not_eq_false, Json.overlong_eq_false_iff]
    exact Nat.not_lt.mpr h
  rw [notFound, if_pos hlong]

variable (α) in
/-- Somebody who is not known is named, or has too long a number for that. -/
theorem notFound_cases (id : Int) :
    id.natAbs < 10 ^ numeralLimit ∧
        (notFound id : Except Fault (Except Failure α)) = .ok (.error (.unknownParticipant id)) ∨
      10 ^ numeralLimit ≤ id.natAbs ∧
        (notFound id : Except Fault (Except Failure α)) = .error .unprintable :=
  (Nat.lt_or_ge _ _).imp (fun hshort => ⟨hshort, notFound_of_short hshort⟩)
    fun hlong => ⟨hlong, notFound_of_long hlong⟩

theorem notFound_failure {failure : Failure}
    (h : (notFound id : Except Fault (Except Failure α)) = .ok (.error failure)) :
    failure = .unknownParticipant id := by
  unfold notFound at h
  split at h
  · cases h
  · cases h
    rfl

theorem notFound_ne_ok (id : Int) (a : α) : notFound id ≠ .ok (.ok a) := by
  unfold notFound
  split
  · rintro ⟨⟩
  · rintro ⟨⟩

end NotFound

namespace Store

/-- The participant under an id has that id. -/
theorem id_of_participant? (h : s.participant? id = some p) : p.id = some id := by
  exact beq_iff_eq.mp (List.find?_some (p := fun q : Participant => q.id == some id) h)

/-- The people who are named once each are known by their records. -/
theorem participantsAmong_numbers (s : Store) (h : people.Nodup) :
    s.participantsAmong (people.map .number) = people.filterMap s.participant? := by
  rw [participantsAmong, withoutRepeats_numbers h, List.filterMap_map]
  rfl

theorem mem_records (h : p ∈ people.filterMap s.participant?) (hid : p.id = some id) :
    s.participant? id = some p := by
  obtain ⟨n, -, hn⟩ := List.mem_filterMap.mp h
  have hsame : some n = some id := (id_of_participant? hn).symm.trans hid
  cases hsame
  exact hn

/-- Those who are missing are those whom the store has no record of. -/
theorem missingPeople_eq (s : Store) (people : List Int) :
    missingPeople people (people.filterMap s.participant?) =
      people.filter fun id => (s.participant? id).isNone := by
  refine List.filter_congr ?_
  intro id hid
  cases hfound : s.participant? id with
  | none =>
    rw [Option.isNone_none, Bool.not_eq_true', List.any_eq_false]
    intro p hp heq
    rw [mem_records hp (beq_iff_eq.mp heq)] at hfound
    cases hfound
  | some p =>
    rw [Option.isNone_some, Bool.not_eq_false', List.any_eq_true]
    exact ⟨p, List.mem_filterMap.mpr ⟨id, hid, hfound⟩,
      beq_iff_eq.mpr (id_of_participant? hfound)⟩

/-- If nobody is missing, everyone is known. -/
theorem known_of_nobody_missing
    (h : (people.filter fun id => (s.participant? id).isNone) = []) :
    ∀ id ∈ people, s.participant? id ≠ none := by
  intro id hid hnone
  exact List.filter_eq_nil_iff.mp h id hid (Option.isNone_iff_eq_none.mpr hnone)

/-- The first of some people whom a store has no record of. -/
def FirstMissing (s : Store) (people : List Int) (first : Int) : Prop :=
  ∃ before after, people = before ++ first :: after ∧
    (∀ id ∈ before, s.participant? id ≠ none) ∧ s.participant? first = none

/-- Everyone before the first who is missing is known. -/
theorem firstMissing_iff {first : Int} : s.FirstMissing people first ↔
    ∃ rest, (people.filter fun id => (s.participant? id).isNone) = first :: rest := by
  simp only [List.filter_eq_cons_iff, Option.isNone_iff_eq_none]
  constructor
  · rintro ⟨before, after, hpeople, hbefore, hfirst⟩
    exact ⟨_, before, after, hpeople, hbefore, hfirst, rfl⟩
  · rintro ⟨rest, before, after, hpeople, hbefore, hfirst, -⟩
    exact ⟨before, after, hpeople, hbefore, hfirst⟩

/-- Among the records of some people, that of one of them is found. -/
theorem find?_records (hid : id ∈ people) :
    (people.filterMap s.participant?).find? (fun p => p.id == some id) = s.participant? id := by
  cases hfind : (people.filterMap s.participant?).find? fun p => p.id == some id with
  | some p =>
    have hsame := List.find?_some (p := fun q : Participant => q.id == some id) hfind
    exact (mem_records (List.mem_of_find?_eq_some hfind) (beq_iff_eq.mp hsame)).symm
  | none =>
    cases hfound : s.participant? id with
    | none => rfl
    | some p =>
      have hnot := List.find?_eq_none.mp hfind p (List.mem_filterMap.mpr ⟨id, hid, hfound⟩)
      exact absurd (beq_iff_eq.mpr (id_of_participant? hfound)) hnot

/-- Among the records of some people, those of a booking of some of them are shown. -/
theorem recordsOf_among {all : List Int} (h : ∀ id ∈ people, id ∈ all) :
    recordsOf (people.map .number) (all.filterMap s.participant?) =
      people.filterMap s.participant? := by
  rw [recordsOf, List.filterMap_map]
  refine List.filterMap_congr ?_
  intro id hid
  exact find?_records (h id hid)

/-- The records of the people of a booking are all that are known. -/
theorem recordsOf_numbers (s : Store) (people : List Int) :
    recordsOf (people.map .number) (people.filterMap s.participant?) =
      people.filterMap s.participant? :=
  recordsOf_among fun _ hid => hid

/-- If nobody is missing, there is one record for each. -/
theorem map_some_records (h : ∀ id ∈ people, s.participant? id ≠ none) :
    people.map s.participant? = (people.filterMap s.participant?).map some := by
  induction people with
  | nil => rfl
  | cons id rest ih =>
    rw [List.forall_mem_cons] at h
    obtain ⟨p, hp⟩ := Option.ne_none_iff_exists'.mp h.1
    rw [List.map_cons, List.filterMap_cons_some hp, List.map_cons, hp, ih h.2]

end Store

end Meetings
