/-
Configurations that are read obey their rules.

* `Config.Accepted` — the configurations that are read: from the entries of a
  mapping, or from a file;
* `durationRule_eq_none_iff`, `windowRule_eq_none_iff`, `limitRule_eq_none_iff` —
  the rules of the numbers;
* `field_fst` — the value of a field is the usual one or one that is read;
* **`Accepted.valid`** — an accepted configuration is valid.

Design notes: a field with a fault has its usual value beside the fault, and the
usual values obey the rules, so that nothing has to be known of the faults.
-/
import Meetings.Config.File
import Meetings.Proofs.Except

namespace Meetings.Config

variable {config : Config} {entries : Entries} {n : Int}

/-- A configuration that is read, from the entries of a mapping or from a file. -/
inductive Accepted : Config → Prop
  | read {entries : Entries} {config : Config} (h : ofEntries entries = .ok config) :
      Accepted config
  | loaded {d : Disk} {file : Option Path} {config : Config} (h : load d file = .ok config) :
      Accepted config

/-! ### Numbers -/

theorem durationRule_eq_none_iff :
    durationRule n = none ↔ 0 < n ∧ n % standardQuantum = 0 := by
  unfold durationRule
  split
  · simp only [reduceCtorEq, false_iff]
    omega
  · split
    · simp only [reduceCtorEq, false_iff]
      omega
    · simp only [true_iff]
      omega

theorem windowRule_eq_none_iff : windowRule n = none ↔ 1 ≤ n ∧ n ≤ windowDaysLimit := by
  unfold windowRule
  split
  · next h => simp [h]
  · next h => simp [h]

theorem limitRule_eq_none_iff : limitRule n = none ↔ 0 < n := by
  unfold limitRule
  split
  · simp only [reduceCtorEq, false_iff]
    omega
  · simp only [true_iff]
    omega

theorem readNumber_rule {rule : Int → Option FieldProblem} {v : Yaml.Value}
    (h : readNumber rule v = .ok n) : rule n = none := by
  obtain ⟨k, -, h⟩ := bind_eq_ok.mp h
  cases hrule : rule k with
  | some problem =>
    rw [hrule] at h
    cases h
  | none =>
    rw [hrule] at h
    cases h
    exact hrule

/-! ### Fields -/

/-- The value of a field is the usual one or one that is read. -/
theorem field_fst {α : Type} {P : α → Prop} {place : List String} {usual : α}
    {read : Yaml.Value → Except FieldProblem α} (entries : Entries) (husual : P usual)
    (hread : ∀ v a, read v = .ok a → P a) : P (field place usual read entries).1 := by
  unfold field
  cases Yaml.Value.field? entries (place.getLastD "") with
  | none => exact husual
  | some v =>
    dsimp only
    cases h : read v with
    | ok a => exact hread v a h
    | error problem => exact husual

theorem field_number {rule : Int → Option FieldProblem} {place : List String} {usual : Int}
    (entries : Entries) (husual : rule usual = none) :
    rule (field place usual (readNumber rule) entries).1 = none :=
  field_fst (P := fun n => rule n = none) entries husual fun _ _ => readNumber_rule

/-! ### Configurations -/

theorem valid_of_ofEntries (h : ofEntries entries = .ok config) : config.Valid := by
  have hduration (defaults : Entries) : durationRule (field ["defaults", "duration_minutes"] 60
      (readNumber durationRule) defaults).1 = none := field_number defaults (by decide)
  have hwindow (defaults : Entries) : windowRule (field ["defaults", "window_days"] 7
      (readNumber windowRule) defaults).1 = none := field_number defaults (by decide)
  have hpeople (limits : Entries) : limitRule (field ["limits", "max_participants"] 50
      (readNumber limitRule) limits).1 = none := field_number limits (by decide)
  have hslow (limits : Entries) : limitRule (field ["limits", "slow_request_ms"] 1000
      (readNumber limitRule) limits).1 = none := field_number limits (by decide)
  unfold ofEntries at h
  dsimp only at h
  split at h
  · cases h
    obtain ⟨hpositive, hgrid⟩ := durationRule_eq_none_iff.mp (hduration _)
    obtain ⟨hfirst, hlast⟩ := windowRule_eq_none_iff.mp (hwindow _)
    exact ⟨hpositive, hgrid, hfirst, hlast, limitRule_eq_none_iff.mp (hpeople _),
      limitRule_eq_none_iff.mp (hslow _)⟩
  · cases h

theorem valid_of_decode {file : Path} {bytes : List UInt8} (h : decode file bytes = .ok config) :
    config.Valid := by
  unfold decode at h
  obtain ⟨text, -, h⟩ := bind_eq_ok.mp h
  obtain ⟨document, -, h⟩ := bind_eq_ok.mp h
  obtain ⟨root, -, h⟩ := bind_eq_ok.mp h
  exact valid_of_ofEntries (mapError_eq_ok.mp h)

/-- The place of the data is no matter of the rules. -/
theorem valid_of_ofFile {d : Disk} {file : Path} (h : ofFile d file = .ok config) :
    config.Valid := by
  unfold ofFile at h
  split at h
  · cases h
  · obtain ⟨bytes, -, h⟩ := bind_eq_ok.mp h
    obtain ⟨read, hread, h⟩ := bind_eq_ok.mp h
    cases h
    have hvalid : read.Valid := valid_of_decode hread
    exact hvalid

/-- **An accepted configuration is valid**, from wherever it is read. -/
theorem Accepted.valid (h : config.Accepted) : config.Valid := by
  cases h with
  | read h => exact valid_of_ofEntries h
  | @loaded d file _ h =>
    unfold load at h
    cases file with
    | some file => exact valid_of_ofFile h
    | none =>
      dsimp only at h
      split at h
      · exact valid_of_ofFile h
      · cases h
        decide

end Meetings.Config
