/-
What the checks of a request say of one that passes them.

* `peopleFault_eq_none_iff`, `durationFault_eq_none_iff` — the rules about people
  and duration, without the order in which they are checked;
* `Fields.request_eq_ok_iff` — the request of four fields, each of which is read
  and obeys its rules;
* **`ofFields_eq_ok_iff`** — a request passes if it is that of its fields and no
  rule about its window is broken;
* `ofFields_of_parse` — a raw request passes as the fields it is read as.
-/
import Meetings.Proofs.Except
import Meetings.Request.Meeting

namespace Meetings.MeetingRequest

variable {limit duration : Int} {people : List Int} {now : Option Zoned} {data : Json} {f : Fields}
  {r : MeetingRequest}

theorem peopleFault_eq_none_iff : peopleFault limit people = none ↔
    people ≠ [] ∧ (∀ id ∈ people, 0 < id) ∧ people.Nodup ∧ people.length ≤ limit := by
  unfold peopleFault
  by_cases hnobody : people.isEmpty = true
  · simp [List.isEmpty_iff.mp hnobody]
  by_cases hpositive : people.any (· ≤ 0) = true
  · rw [if_neg hnobody, if_pos hpositive]
    simp only [reduceCtorEq, false_iff]
    rintro ⟨-, hpos, -⟩
    obtain ⟨id, hid, hle⟩ := List.any_eq_true.mp hpositive
    have := hpos id hid
    have := of_decide_eq_true hle
    omega
  have hpos : ∀ id ∈ people, 0 < id := by simpa using hpositive
  have hsome : people ≠ [] := by simpa using hnobody
  rw [if_neg hnobody, if_neg hpositive]
  by_cases honce : people.Nodup
  · rw [if_neg (not_not_intro honce)]
    by_cases hmany : limit < people.length
    · rw [if_pos hmany]
      simp only [reduceCtorEq, false_iff]
      rintro ⟨-, -, -, hle⟩
      omega
    · rw [if_neg hmany]
      simp only [true_iff]
      exact ⟨hsome, hpos, honce, Int.not_lt.mp hmany⟩
  · rw [if_pos honce]
    simp [honce]

theorem durationFault_eq_none_iff : durationFault duration = none ↔
    shortestMeeting ≤ duration ∧ duration ≤ longestMeeting ∧ duration % standardQuantum = 0 := by
  unfold durationFault shortestMeeting longestMeeting standardQuantum
  repeat' split
  all_goals
    simp only [reduceCtorEq, false_iff, true_iff]
    omega

theorem checked_eq_ok_iff {α : Type} {field : RequestField} {rules : α → Option RequestFault}
    {x : Except LenientFault α} {v : α} :
    checked field rules x = .ok v ↔ x = .ok v ∧ rules v = none := by
  cases x with
  | error fault => simp [checked]
  | ok value =>
    rw [checked, Except.ok.injEq]
    constructor
    · intro h
      cases hrules : rules value with
      | some fault =>
        rw [hrules] at h
        cases h
      | none =>
        rw [hrules] at h
        cases h
        exact ⟨rfl, hrules⟩
    · rintro ⟨rfl, hrules⟩
      rw [hrules]

/-- The request of four fields: each is read and obeys its rules. -/
theorem Fields.request_eq_ok_iff : f.request limit = .ok r ↔
    (f.people = .ok r.people ∧ peopleFault limit r.people = none) ∧
      (f.duration = .ok r.duration ∧ durationFault r.duration = none) ∧
      f.earliest = .ok r.earliest ∧ f.latest = .ok r.latest := by
  unfold request
  simp only [bind_eq_ok, checked_eq_ok_iff, and_true]
  constructor
  · rintro ⟨people, hpeople, duration, hduration, earliest, hearliest, latest, hlatest, h⟩
    cases h
    exact ⟨hpeople, hduration, hearliest, hlatest⟩
  · rintro ⟨hpeople, hduration, hearliest, hlatest⟩
    exact ⟨_, hpeople, _, hduration, _, hearliest, _, hlatest, rfl⟩

/-- **A request passes** if it is that of its fields and no rule about its window
is broken. -/
theorem ofFields_eq_ok_iff : ofFields limit now f = .ok (.ok r) ↔
    f.request limit = .ok r ∧ windowFault now r = .ok none := by
  unfold ofFields
  cases f.request limit with
  | error fault => simp [pure, Except.pure]
  | ok r' =>
    dsimp only
    rw [bind_eq_ok]
    constructor
    · rintro ⟨_ | fault, hwindow, h⟩
      · cases h
        exact ⟨rfl, hwindow⟩
      · cases h
    · rintro ⟨h, hwindow⟩
      cases h
      exact ⟨none, hwindow, rfl⟩

/-- A raw request passes as the fields it is read as. -/
theorem ofFields_of_parse (h : parse limit now data = .ok (.ok r)) :
    ∃ f, ofFields limit now f = .ok (.ok r) := by
  unfold parse at h
  obtain ⟨m, -, h⟩ := bind_eq_ok.mp h
  have h := mapError_eq_ok.mp h
  unfold ofMapping at h
  obtain ⟨f, -, h⟩ := bind_eq_ok.mp h
  exact ⟨f, h⟩

end Meetings.MeetingRequest
