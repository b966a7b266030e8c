/-
Conflicts said with instants and people.

* `sharesPerson_iff` — two lists share a person when a reference of one refers
  to the same person as a reference of the other;
* `hasRepeat_eq_false_iff` — a list names nobody twice when the values that its
  references stand for are distinct;
* `overlaps_iff` — two half-open intervals meet;
* `conflicts_comm` — conflict has no direction;
* **`conflictsWithAny_eq_false_iff`** — a slot is free of a list of commitments
  iff none that shares a person meets it;
* **`conflicts_exact`** — two commitments that take up any time at all conflict
  iff some person is taken up by both at some point of time.

Design notes: a commitment that ends no later than it starts takes up nobody,
and yet conflicts with one that surrounds it.  So the meaning of a conflict is
said with `Commitment.Occupies` for intervals that are not empty, and with the
order of the four ends for all.
-/
import Meetings.Commitment

namespace Meetings

theorem PersonRef.same_comm (a b : PersonRef) : a.same b = b.same a := by
  rw [Bool.eq_iff_iff]
  simp only [PersonRef.same, beq_iff_eq]
  exact eq_comm

theorem sharesPerson_iff {a b : List PersonRef} :
    sharesPerson a b = true ↔ ∃ r ∈ a, ∃ r' ∈ b, r.same r' = true := by
  simp [sharesPerson, refersTo]

theorem sharesPerson_comm (a b : List PersonRef) : sharesPerson a b = sharesPerson b a := by
  rw [Bool.eq_iff_iff, sharesPerson_iff, sharesPerson_iff]
  constructor
  · rintro ⟨r, hr, r', hr', h⟩
    exact ⟨r', hr', r, hr, by rwa [PersonRef.same_comm]⟩
  · rintro ⟨r, hr, r', hr', h⟩
    exact ⟨r', hr', r, hr, by rwa [PersonRef.same_comm]⟩

theorem sharesPerson_iff_key {a b : List PersonRef} :
    sharesPerson a b = true ↔ ∃ p, p ∈ a.map PersonRef.key ∧ p ∈ b.map PersonRef.key := by
  rw [sharesPerson_iff]
  constructor
  · rintro ⟨r, hr, r', hr', hsame⟩
    refine ⟨r.key, List.mem_map_of_mem hr, ?_⟩
    rw [show r.key = r'.key from beq_iff_eq.mp hsame]
    exact List.mem_map_of_mem hr'
  · rintro ⟨p, ha, hb⟩
    obtain ⟨r, hr, hkey⟩ := List.mem_map.mp ha
    obtain ⟨r', hr', hkey'⟩ := List.mem_map.mp hb
    exact ⟨r, hr, r', hr', beq_iff_eq.mpr (hkey.trans hkey'.symm)⟩

theorem hasRepeat_eq_false_iff {refs : List PersonRef} :
    hasRepeat refs = false ↔ (refs.map PersonRef.key).Nodup := by
  induction refs with
  | nil => simp [hasRepeat]
  | cons r rest ih =>
    rw [hasRepeat, Bool.or_eq_false_iff, ih, List.map_cons, List.nodup_cons]
    have hrefers : refersTo rest r = false ↔ r.key ∉ rest.map PersonRef.key := by
      rw [refersTo, List.any_eq_false, List.mem_map]
      constructor
      · rintro hnone ⟨r', hr', hkey⟩
        exact hnone r' hr' (by simp [PersonRef.same, hkey])
      · intro hnot r' hr' hsame
        exact hnot ⟨r', hr', (beq_iff_eq.mp hsame).symm⟩
    rw [hrefers]

theorem hasRepeat_numbers_eq_false_iff {ids : List Int} :
    hasRepeat (ids.map .number) = false ↔ ids.Nodup := by
  simp only [hasRepeat_eq_false_iff, List.Nodup, List.pairwise_map, PersonRef.key, ne_eq,
    PersonKey.number.injEq]

theorem overlaps_iff {a b c d : Instant} : overlaps a b c d = true ↔ a < d ∧ c < b := by
  unfold overlaps
  rw [Bool.and_eq_true, decide_eq_true_iff, decide_eq_true_iff]

theorem Commitment.conflicts_iff {a b : Commitment} : a.conflicts b = true ↔
    (a.start < b.stop ∧ b.start < a.stop) ∧ sharesPerson a.people b.people = true := by
  unfold Commitment.conflicts
  rw [Bool.and_eq_true, overlaps_iff]

theorem Commitment.conflicts_comm (a b : Commitment) : a.conflicts b = b.conflicts a := by
  rw [Bool.eq_iff_iff, conflicts_iff, conflicts_iff, sharesPerson_comm]
  constructor
  · rintro ⟨⟨h, h'⟩, hs⟩
    exact ⟨⟨h', h⟩, hs⟩
  · rintro ⟨⟨h, h'⟩, hs⟩
    exact ⟨⟨h', h⟩, hs⟩

/-- Going through the commitments comes to asking of each whether it conflicts
with the slot. -/
theorem conflictsWithAny_eq_any (slot : Commitment) (existing : List (Option Commitment)) :
    conflictsWithAny slot existing = existing.any fun c => conflicts (some slot) c := by
  induction existing with
  | nil => rfl
  | cons c rest ih =>
    rw [List.any_cons, ← ih]
    cases c with
    | none => rfl
    | some c =>
      rw [conflictsWithAny, conflicts, Commitment.conflicts]
      cases overlaps slot.start slot.stop c.start c.stop with
      | false => rfl
      | true => rfl

theorem conflictsWithAny_eq_true_iff {slot : Commitment} {existing : List (Option Commitment)} :
    conflictsWithAny slot existing = true ↔
      ∃ c, some c ∈ existing ∧ slot.conflicts c = true := by
  rw [conflictsWithAny_eq_any, List.any_eq_true]
  constructor
  · rintro ⟨_ | c, hc, h⟩
    · cases h
    · exact ⟨c, hc, h⟩
  · rintro ⟨c, hc, h⟩
    exact ⟨some c, hc, h⟩

/-- A slot is free of all commitments: none with a person in common begins
before its end and ends after its start. -/
theorem conflictsWithAny_eq_false_iff {slot : Commitment} {existing : List (Option Commitment)} :
    conflictsWithAny slot existing = false ↔
      ∀ c, some c ∈ existing → sharesPerson slot.people c.people = true →
        ¬(slot.start < c.stop ∧ c.start < slot.stop) := by
  rw [← Bool.not_eq_true, conflictsWithAny_eq_true_iff]
  constructor
  · intro h c hc hs ho
    exact h ⟨c, hc, Commitment.conflicts_iff.mpr ⟨ho, hs⟩⟩
  · rintro h ⟨c, hc, hconf⟩
    obtain ⟨ho, hs⟩ := Commitment.conflicts_iff.mp hconf
    exact h c hc hs ho

/-! ### What a conflict means -/

/-- A person is taken up by a commitment at a point of time. -/
def Commitment.Occupies (c : Commitment) (p : PersonKey) (t : Instant) : Prop :=
  (c.start ≤ t ∧ t < c.stop) ∧ p ∈ c.people.map PersonRef.key

/-- Two intervals that are not empty meet iff they have a point in common, as is
the later of their starts. -/
theorem overlaps_iff_common {a b c d : Instant} (hab : a < b) (hcd : c < d) :
    overlaps a b c d = true ↔ ∃ t, (a ≤ t ∧ t < b) ∧ (c ≤ t ∧ t < d) := by
  rw [overlaps_iff]
  constructor
  · rintro ⟨had, hcb⟩
    exact ⟨max a c, ⟨Int.le_max_left a c, Int.max_lt.mpr ⟨hab, hcb⟩⟩,
      Int.le_max_right a c, Int.max_lt.mpr ⟨had, hcd⟩⟩
  · rintro ⟨t, ⟨hat, htb⟩, hct, htd⟩
    exact ⟨Int.lt_of_le_of_lt hat htd, Int.lt_of_le_of_lt hct htb⟩

theorem conflicts_comm (a b : Option Commitment) : conflicts a b = conflicts b a := by
  cases a with
  | none => cases b <;> rfl
  | some a =>
    cases b with
    | none => rfl
    | some b => exact Commitment.conflicts_comm a b

theorem Commitment.conflicts_iff_occupies {a b : Commitment} (ha : a.start < a.stop)
    (hb : b.start < b.stop) :
    a.conflicts b = true ↔ ∃ p t, a.Occupies p t ∧ b.Occupies p t := by
  unfold Commitment.conflicts
  rw [Bool.and_eq_true, overlaps_iff_common ha hb, sharesPerson_iff_key]
  constructor
  · rintro ⟨⟨t, hta, htb⟩, p, hpa, hpb⟩
    exact ⟨p, t, ⟨hta, hpa⟩, htb, hpb⟩
  · rintro ⟨p, t, ⟨hta, hpa⟩, htb, hpb⟩
    exact ⟨⟨t, hta, htb⟩, p, hpa, hpb⟩

/-- **Conflicts mean what they say.**  Conflict has no direction, and an absent
commitment conflicts with nothing; a slot collides with a list of commitments
iff it conflicts with one of those that are present; and two commitments of
intervals that are not empty conflict iff some person is taken up by both at
some point of time. -/
theorem conflicts_exact :
    (∀ a b : Option Commitment, conflicts a b = conflicts b a) ∧
    (∀ a : Option Commitment, conflicts a none = false ∧ conflicts none a = false) ∧
    (∀ (slot : Commitment) (existing : List (Option Commitment)),
      conflictsWithAny slot existing = true ↔
        ∃ c, some c ∈ existing ∧ conflicts (some slot) (some c) = true) ∧
    ∀ a b : Commitment, a.start < a.stop → b.start < b.stop →
      (conflicts (some a) (some b) = true ↔ ∃ p t, a.Occupies p t ∧ b.Occupies p t) := by
  refine ⟨conflicts_comm, fun a => ⟨?_, rfl⟩, fun slot existing => conflictsWithAny_eq_true_iff,
    fun a b ha hb => Commitment.conflicts_iff_occupies ha hb⟩
  rw [conflicts_comm]
  rfl

/-- Ada and Alan from nine to ten, and Alan and Grace from a minute before ten:
Alan is taken up twice in that minute. -/
theorem conflicts_exact_alan :
    9 * hourSpan < 10 * hourSpan ∧ 10 * hourSpan - minuteSpan < 11 * hourSpan ∧
      ∃ p t, (⟨[.number 1, .number 2], 9 * hourSpan, 10 * hourSpan⟩ : Commitment).Occupies p t ∧
        (⟨[.number 2, .number 3], 10 * hourSpan - minuteSpan, 11 * hourSpan⟩ :
          Commitment).Occupies p t := by
  have hada : 9 * hourSpan < 10 * hourSpan := by decide
  have hgrace : 10 * hourSpan - minuteSpan < 11 * hourSpan := by decide
  refine ⟨hada, hgrace, ?_⟩
  exact (conflicts_exact.2.2.2 ⟨[.number 1, .number 2], 9 * hourSpan, 10 * hourSpan⟩
    ⟨[.number 2, .number 3], 10 * hourSpan - minuteSpan, 11 * hourSpan⟩ hada hgrace).mp (by decide)

end Meetings
