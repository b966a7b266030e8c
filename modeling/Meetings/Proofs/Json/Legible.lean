/-
The numbers of a document that is read are ones of the format.

* `Legible` — no number in a value lies outside the format, and no whole one has
  more digits than are read;
* `scalar_legible` — so it is for a word or a number;
* `ReadsLegible`, `readsLegible` — and for values, arrays and objects, by the fuel;
* **`read_legible`** — and so for a whole document.

Design notes: a number is rounded when it is read, and only then.  The three readers call
each other with less fuel, so one induction on the fuel serves them all.
-/
import Meetings.Json.Reader
import Meetings.Proofs.Number.Binary64
import Meetings.Proofs.Text.Digits

namespace Meetings

/-- A sign does not change how large a number is. -/
theorem natAbs_signed (negative : Bool) (n : Nat) :
    (if negative then -(n : Int) else n).natAbs = n := by
  cases negative with
  | false => exact Int.natAbs_natCast n
  | true => exact (Int.natAbs_neg n).trans (Int.natAbs_natCast n)

namespace Json

open Meetings.Text (digitsValue_lt)

/-- All numbers in a value are of the format, or whole and of no more digits than
are read. -/
inductive Legible : Json → Prop where
  | null : Legible .null
  | bool {b : Bool} : Legible (.bool b)
  | int {n : Int} (short : n.natAbs < 10 ^ numeralLimit) : Legible (.int n)
  | real {x : Binary64} (fits : x.Fits) : Legible (.real x)
  | str {s : String} : Legible (.str s)
  | arr {items : List Json} (each : ∀ v ∈ items, Legible v) : Legible (.arr items)
  | obj {fields : List (String × Json)} (each : ∀ f ∈ fields, Legible f.2) :
    Legible (.obj fields)

variable {cs rest : List Char} {v : Json}

theorem words_legible : ∀ w ∈ words, w.2.Legible := by
  simp only [words, List.forall_mem_cons]
  exact ⟨.null, .bool, .bool, .real .nan, .real .infinite, .real .infinite,
    fun w hw => absurd hw List.not_mem_nil⟩

theorem number_legible (h : number cs = .ok (v, rest)) : v.Legible := by
  unfold number at h
  dsimp only at h
  split at h
  · cases h
  · split at h
    · split at h
      · cases h
      · next hlength =>
        cases h
        refine .int ?_
        rw [natAbs_signed]
        exact Nat.lt_of_lt_of_le (digitsValue_lt _)
          (Nat.pow_le_pow_right (by decide) (Nat.le_of_not_lt hlength))
    · cases h
      exact .real (Binary64.ofDecimal_fits _ _ _)

theorem scalar_legible (h : scalar cs = .ok (v, rest)) : v.Legible := by
  unfold scalar at h
  split at h
  · next answer hfound =>
    obtain ⟨w, hw, hword⟩ := List.exists_of_findSome?_eq_some hfound
    obtain ⟨rest', -, rfl⟩ := Option.map_eq_some_iff.mp hword
    cases h
    exact words_legible w hw
  · exact number_legible h

theorem putField_legible {fields : List (String × Json)}
    (hfields : ∀ f ∈ fields, f.2.Legible) (hv : v.Legible) (key : String) :
    ∀ f ∈ putField fields key v, f.2.Legible := by
  induction fields with
  | nil =>
    intro f hf
    rw [List.mem_singleton.mp hf]
    exact hv
  | cons g rest ih =>
    rw [List.forall_mem_cons] at hfields
    rw [putField]
    split
    · exact List.forall_mem_cons.mpr ⟨hv, hfields.2⟩
    · exact List.forall_mem_cons.mpr ⟨hfields.1, ih hfields.2⟩

/-- What the three readers give with so much fuel is legible, if what they found before
is. -/
structure ReadsLegible (fuel : Nat) : Prop where
  value : ∀ {depth cs v rest}, value fuel depth cs = .ok (v, rest) → v.Legible
  items : ∀ {depth found cs v rest}, (∀ w ∈ found, w.Legible) →
    items fuel depth found cs = .ok (v, rest) → v.Legible
  fields : ∀ {depth found cs v rest}, (∀ f ∈ found, f.2.Legible) →
    fields fuel depth found cs = .ok (v, rest) → v.Legible

namespace ReadsLegible

variable {fuel depth : Nat}

theorem value_step (h : ReadsLegible fuel) (hv : Json.value (fuel + 1) depth cs = .ok (v, rest)) :
    v.Legible := by
  rw [Json.value.eq_def] at hv
  dsimp only at hv
  -- A text, an array, an object, or a word or a number.
  split at hv
  · split at hv
    · cases hv
      exact .str
    · cases hv
  · split at hv
    · cases hv
    · split at hv
      · cases hv
        exact .arr fun w hw => absurd hw List.not_mem_nil
      · exact h.items (fun w hw => absurd hw List.not_mem_nil) hv
  · split at hv
    · cases hv
    · split at hv
      · cases hv
        exact .obj fun f hf => absurd hf List.not_mem_nil
      · exact h.fields (fun f hf => absurd hf List.not_mem_nil) hv
  · exact scalar_legible hv

theorem items_step {found : List Json} (h : ReadsLegible fuel) (hfound : ∀ w ∈ found, w.Legible)
    (hv : Json.items (fuel + 1) depth found cs = .ok (v, rest)) : v.Legible := by
  rw [Json.items.eq_def] at hv
  dsimp only at hv
  split at hv
  · cases hv
  · next item left hitem =>
    have hmore : ∀ w ∈ item :: found, w.Legible := List.forall_mem_cons.mpr ⟨h.value hitem, hfound⟩
    split at hv
    · cases hv
      exact .arr fun w hw => hmore w (List.mem_reverse.mp hw)
    · exact h.items hmore hv
    · cases hv

theorem fields_step {found : List (String × Json)} (h : ReadsLegible fuel)
    (hfound : ∀ f ∈ found, f.2.Legible)
    (hv : Json.fields (fuel + 1) depth found cs = .ok (v, rest)) : v.Legible := by
  rw [Json.fields.eq_def] at hv
  dsimp only at hv
  split at hv
  · split at hv
    · cases hv
    · split at hv
      · split at hv
        · cases hv
        · next hfield =>
          have hmore := putField_legible hfound (h.value hfield)
          split at hv
          · cases hv
            exact .obj (hmore _)
          · exact h.fields (hmore _) hv
          · cases hv
      · cases hv
  · cases hv

end ReadsLegible

theorem readsLegible (fuel : Nat) : ReadsLegible fuel := by
  induction fuel with
  | zero => exact ⟨nofun, nofun, nofun⟩
  | succ fuel ih => exact ⟨ih.value_step, ih.items_step, ih.fields_step⟩

/-- **The numbers of a document are ones of the format.** -/
theorem read_legible {text : String} (h : read text = .ok v) : v.Legible := by
  unfold read readChars at h
  split at h
  · cases h
  · split at h
    · cases h
    · next hvalue =>
      split at h
      · cases h
        exact (readsLegible _).value hvalue
      · cases h

end Json

end Meetings
