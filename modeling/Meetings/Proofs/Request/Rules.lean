/-
A raw request is accepted exactly by the stated rules.

* `Converted` — what the fields of a raw request are converted to, each by
  itself and the times as instants; `Converted.Allowed` — they all convert, to
  what is allowed;
* `Converted.rules` — the rules in the order of their checks, each with the kind
  and the message with which it is reported; `FirstBroken` — the first of them
  that is broken;
* `Settles` — checks in order stop at the first rule that is broken:
  `Settles.bind`, `checked_settles`, `windowFault_first`, `ofFields_settles`;
* **`parse_exact`** — a raw request leaves the calendar, or it is accepted if it
  is allowed and refused with the first rule that it breaks.

Design notes: the list of rules is written from the converted fields, without the
checks, and no rule about the window is in it unless all fields that it needs
convert.  The checks are then followed along the list, by one lemma for a
sequence and one for a single check.
-/
import Mathlib
import Meetings.Proofs.Lenient.Offset
import Meetings.Proofs.Moment
import Meetings.Proofs.Request.Meeting

namespace Meetings

/-! ### The rules -/

namespace MeetingRequest

open Meetings.Text

/-- What the fields of a raw request are converted to, each by itself. -/
structure Converted where
  people : Except LenientFault (List Int)
  duration : Except LenientFault Int
  earliest : Except LenientFault Instant
  latest : Except LenientFault Instant

/-- The fields of a mapping, converted. -/
def Converted.ofMapping (m : Mapping) : Converted where
  people := readField lenientIntegers m "participant_ids"
  duration := readField lenientInteger m "duration_minutes"
  earliest := (readField lenientMoment m "earliest_start").map Zoned.instant
  latest := (readField lenientMoment m "latest_end").map Zoned.instant

/-- People who may meet. -/
structure AllowedPeople (limit : Int) (people : List Int) : Prop where
  somebody : people ≠ []
  positive : ∀ id ∈ people, 0 < id
  once : people.Nodup
  atMost : people.length ≤ limit

/-- A duration, in minutes, that a meeting may have. -/
structure AllowedDuration (duration : Int) : Prop where
  shortest : 15 ≤ duration
  longest : duration ≤ 480
  onGrid : 15 ∣ duration

/-- A window that may be searched, as of a time that may be left open. -/
structure AllowedWindow (now : Option Instant) (duration : Int) (start stop : Instant) : Prop where
  ordered : start < stop
  holds : start + duration * minuteSpan ≤ stop
  atMost : stop - start ≤ 30 * daySpan
  notPast : ∀ n, now = some n → n - 5 * minuteSpan < start

/-- All fields convert, to what is allowed. -/
def Converted.Allowed (limit : Int) (now : Option Instant) (c : Converted) : Prop :=
  ∃ people duration start stop, c = ⟨.ok people, .ok duration, .ok start, .ok stop⟩ ∧
    AllowedPeople limit people ∧ AllowedDuration duration ∧ AllowedWindow now duration start stop

/-- A rule: the kind and the message with which it is reported, and whether it is
broken. -/
structure Rule where
  kind : FailureKind
  message : String
  broken : Prop

/-- The rules about people, in the order of their checks. -/
def peopleRules (limit : Int) (people : List Int) : List Rule :=
  [⟨.participants, "At least one participant is required", people = []⟩,
    ⟨.participants, "All participant IDs must be greater than 0", ∃ id ∈ people, id ≤ 0⟩,
    ⟨.participants, "Duplicate participants are not allowed", ¬people.Nodup⟩,
    ⟨.participants,
      "Cannot have more than " ++ signedDecimal limit ++ " participants in a meeting",
      limit < people.length⟩]

/-- The rules about a duration. -/
def durationRules (duration : Int) : List Rule :=
  [⟨.duration, "Duration must be greater than 0 minutes", duration ≤ 0⟩,
    ⟨.duration, "Minimum meeting duration is 15 minutes", duration < 15⟩,
    ⟨.duration, "Duration cannot exceed 480 minutes", 480 < duration⟩,
    ⟨.duration, "Duration must be in 15-minute increments", ¬15 ∣ duration⟩]

/-- The rules about a window. -/
def windowRules (now : Option Instant) (duration : Int) (start stop : Instant) : List Rule :=
  [⟨.timeRange, "Earliest start time must be before latest end time", stop ≤ start⟩,
    ⟨.timeRange, "The meeting duration must fit within the specified time range",
      stop < start + duration * minuteSpan⟩,
    ⟨.timeRange, "Time range cannot exceed 30 days", 30 * daySpan < stop - start⟩,
    ⟨.timeRange, "Earliest start time must be in the future",
      ∃ n, now = some n ∧ start ≤ n - 5 * minuteSpan⟩]

/-- The rules about a field: that it converts, and those about its value. -/
def fieldRules {α : Type} (kind : FailureKind) (rules : α → List Rule) :
    Except LenientFault α → List Rule
  | .error fault => [⟨kind, fault.message, True⟩]
  | .ok value => rules value

/-- The rules about the window of a request whose fields convert. -/
def Converted.windowRules (now : Option Instant) (c : Converted) : List Rule :=
  match c.duration, c.earliest, c.latest with
  | .ok duration, .ok start, .ok stop => MeetingRequest.windowRules now duration start stop
  | _, _, _ => []

/-- All rules about a request, in the order of their checks. -/
def Converted.rules (limit : Int) (now : Option Instant) (c : Converted) : List Rule :=
  fieldRules .participants (peopleRules limit) c.people ++
    (fieldRules .duration durationRules c.duration ++
      (fieldRules .timeRange (fun _ => []) c.earliest ++
        (fieldRules .timeRange (fun _ => []) c.latest ++ c.windowRules now)))

/-! ### The first rule that is broken -/

/-- The kind and the message of the first of some rules that is broken, or none. -/
inductive FirstBroken : List Rule → Option (FailureKind × String) → Prop
  | nil : FirstBroken [] none
  | here {rule : Rule} {rest : List Rule} (h : rule.broken) :
      FirstBroken (rule :: rest) (some (rule.kind, rule.message))
  | later {rule : Rule} {rest : List Rule} {found : Option (FailureKind × String)}
      (h : ¬rule.broken) (hrest : FirstBroken rest found) : FirstBroken (rule :: rest) found

/-- The kind and the message of a fault. -/
def reported (f : RequestFault) : FailureKind × String := (f.kind, f.message)

namespace FirstBroken

variable {rules after : List Rule} {found found' : Option (FailureKind × String)}
  {report : FailureKind × String}

theorem unique (h : FirstBroken rules found) (h' : FirstBroken rules found') : found = found' := by
  induction h with
  | nil =>
    cases h'
    rfl
  | here hbroken =>
    cases h' with
    | here => rfl
    | later hnot => exact absurd hbroken hnot
  | later hnot hrest ih =>
    cases h' with
    | here hbroken => exact absurd hbroken hnot
    | later hnot' hrest' => exact ih hrest'

theorem not_none (h : FirstBroken rules (some report)) : ¬FirstBroken rules none := by
  intro hnone
  cases h.unique hnone

theorem none_iff : FirstBroken rules none ↔ ∀ rule ∈ rules, ¬rule.broken := by
  induction rules with
  | nil => exact ⟨nofun, fun _ => .nil⟩
  | cons rule rest ih =>
    rw [List.forall_mem_cons, ← ih]
    constructor
    · rintro (_ | _ | ⟨hnot, hrest⟩)
      exact ⟨hnot, hrest⟩
    · rintro ⟨hnot, hrest⟩
      exact .later hnot hrest

theorem append_some (h : FirstBroken rules (some report)) :
    FirstBroken (rules ++ after) (some report) := by
  induction rules with
  | nil => cases h
  | cons rule rest ih =>
    cases h with
    | here hbroken => exact .here hbroken
    | later hnot hrest => exact .later hnot (ih hrest)

theorem append_none (h : FirstBroken rules none) (hafter : FirstBroken after found) :
    FirstBroken (rules ++ after) found := by
  induction rules with
  | nil => exact hafter
  | cons rule rest ih =>
    cases h with
    | later hnot hrest => exact .later hnot (ih hrest)

theorem of_append (h : FirstBroken (rules ++ after) (some report)) :
    FirstBroken rules (some report) ∨ FirstBroken rules none ∧ FirstBroken after (some report) := by
  induction rules with
  | nil => exact .inr ⟨.nil, h⟩
  | cons rule rest ih =>
    cases h with
    | here hbroken => exact .inl (.here hbroken)
    | later hnot hrest => exact (ih hrest).imp (.later hnot) (.imp_left (.later hnot))

theorem mem (h : FirstBroken rules (some report)) :
    ∃ rule ∈ rules, (rule.kind, rule.message) = report := by
  induction rules with
  | nil => cases h
  | cons rule rest ih =>
    cases h with
    | here hbroken => exact ⟨rule, List.mem_cons_self, rfl⟩
    | later hnot hrest =>
      obtain ⟨rule', hmem, hfault⟩ := ih hrest
      exact ⟨rule', List.mem_cons_of_mem _ hmem, hfault⟩

/-- A check of one rule before the others, whatever names a broken rule. -/
theorem ite {ν : Type} {report : ν → FailureKind × String} {condition broken : Prop}
    [Decidable condition] {kind : FailureKind} {message : String} {f : ν} {next : Option ν}
    (hf : report f = (kind, message)) (hiff : condition ↔ broken)
    (h : FirstBroken rules (next.map report)) :
    FirstBroken (⟨kind, message, broken⟩ :: rules)
      ((if condition then some f else next).map report) := by
  split
  · next hcondition =>
    show FirstBroken _ (some (report f))
    rw [hf]
    exact @here ⟨kind, message, broken⟩ rules (hiff.mp hcondition)
  · next hnot => exact .later (fun hbroken => hnot (hiff.mpr hbroken)) h

end FirstBroken

/-- What is refused is refused for the first rule that is broken, and what passes
breaks none. -/
def Settles {α : Type} (rules : List Rule) : Except RequestFault α → Prop
  | .ok _ => FirstBroken rules none
  | .error f => FirstBroken rules (some (reported f))

/-- Checks one after another. -/
theorem Settles.bind {α β : Type} {rules after : List Rule} {x : Except RequestFault α}
    {next : α → Except RequestFault β} (hx : Settles rules x)
    (hnext : ∀ v, x = .ok v → Settles after (next v)) : Settles (rules ++ after) (x >>= next) := by
  cases x with
  | error f => exact FirstBroken.append_some hx
  | ok v =>
    have hafter := hnext v rfl
    show Settles (rules ++ after) (next v)
    cases hv : next v with
    | error f =>
      rw [hv] at hafter
      exact FirstBroken.append_none hx hafter
    | ok w =>
      rw [hv] at hafter
      exact FirstBroken.append_none hx hafter

/-! ### The checks -/

theorem checked_settles {α : Type} {field : RequestField} {kind : FailureKind}
    {faultOf : α → Option RequestFault} {rules : α → List Rule}
    (hkind : ∀ fault, (RequestFault.unreadable field fault).kind = kind)
    (h : ∀ v, FirstBroken (rules v) ((faultOf v).map reported)) (x : Except LenientFault α) :
    Settles (fieldRules kind rules x) (checked field faultOf x) := by
  cases x with
  | error fault =>
    show FirstBroken _ (some ((RequestFault.unreadable field fault).kind, fault.message))
    rw [hkind]
    exact @FirstBroken.here ⟨kind, fault.message, True⟩ [] trivial
  | ok v =>
    have hv := h v
    unfold checked
    dsimp only
    cases hfault : faultOf v with
    | none =>
      rw [hfault] at hv
      exact hv
    | some f =>
      rw [hfault] at hv
      exact hv

theorem peopleFault_first (limit : Int) (people : List Int) :
    FirstBroken (peopleRules limit people) ((peopleFault limit people).map reported) := by
  refine .ite rfl List.isEmpty_iff (.ite rfl ?_ (.ite rfl Iff.rfl (.ite rfl Iff.rfl .nil)))
  simp

theorem durationFault_first (duration : Int) :
    FirstBroken (durationRules duration) ((durationFault duration).map reported) := by
  have hgrid : duration % standardQuantum ≠ 0 ↔ ¬15 ∣ duration := by
    unfold standardQuantum
    omega
  have hbrief : reported .tooBrief = (.duration, "Minimum meeting duration is 15 minutes") := by
    decide
  have hlengthy : reported .tooLengthy = (.duration, "Duration cannot exceed 480 minutes") := by
    decide
  have hoffGrid : reported .offGrid = (.duration, "Duration must be in 15-minute increments") := by
    decide
  exact .ite rfl Iff.rfl (.ite hbrief Iff.rfl (.ite hlengthy Iff.rfl (.ite hoffGrid hgrid .nil)))

theorem reported_windowTooLong :
    reported .windowTooLong = (.timeRange, "Time range cannot exceed 30 days") := by
  decide

/-- A check of one rule about the window before the others. -/
theorem FirstBroken.of_guard {condition broken : Prop} [Decidable condition] {kind : FailureKind}
    {message : String} {f : RequestFault} {next : Except TimeFault (Option RequestFault)}
    {rules : List Rule} {found : Option RequestFault}
    (h : (if condition then .ok (some f) else next) = .ok found)
    (hf : reported f = (kind, message)) (hiff : condition ↔ broken)
    (hnext : next = .ok found → FirstBroken rules (found.map reported)) :
    FirstBroken (⟨kind, message, broken⟩ :: rules) (found.map reported) := by
  split at h
  · next hcondition =>
    cases h
    rw [Option.map_some, hf]
    exact @here ⟨kind, message, broken⟩ rules (hiff.mp hcondition)
  · next hnot => exact .later (fun hbroken => hnot (hiff.mpr hbroken)) (hnext h)

/-- The checks of the window find the first rule broken, unless the calendar is left. -/
theorem windowFault_first {now : Option Zoned} {r : MeetingRequest} {found : Option RequestFault}
    (h : windowFault now r = .ok found) :
    FirstBroken (windowRules (now.map Zoned.instant) r.duration r.earliest.instant
      r.latest.instant) (found.map reported) := by
  rw [Moment.instant_utc, Moment.instant_utc]
  refine .of_guard h rfl Iff.rfl fun h => ?_
  obtain ⟨stop, hstop, h⟩ := bind_eq_ok.mp h
  rw [← Moment.plusMinutes_wall hstop]
  refine .of_guard h rfl Iff.rfl fun h => ?_
  refine .of_guard h reported_windowTooLong Iff.rfl fun h => ?_
  cases now with
  | none =>
    cases h
    exact .later (by rintro ⟨n, ⟨⟩, -⟩) .nil
  | some now =>
    obtain ⟨u, hu, h⟩ := bind_eq_ok.mp h
    obtain ⟨threshold, hthreshold, h⟩ := bind_eq_ok.mp h
    have hu : u.wall = now.instant := Moment.toUtc_wall hu
    have hthreshold := Moment.plusMinutes_wall hthreshold
    have hiff : r.earliest.wall ≤ threshold.wall ↔
        ∃ n, (some now).map Zoned.instant = some n ∧ r.earliest.wall ≤ n - 5 * minuteSpan := by
      rw [hthreshold, hu]
      unfold pastTolerance
      constructor
      · intro hle
        exact ⟨now.instant, rfl, by omega⟩
      · rintro ⟨n, ⟨⟩, hle⟩
        omega
    refine .of_guard h rfl hiff fun h => ?_
    cases h
    exact .nil

/-- Fields that are read, as they are converted. -/
def Fields.converted (f : Fields) : Converted :=
  ⟨f.people, f.duration, f.earliest.map Moment.instant, f.latest.map Moment.instant⟩

/-- The checks of four fields, before that of the window. -/
theorem request_settles (limit : Int) (f : Fields) :
    Settles (fieldRules .participants (peopleRules limit) f.people ++
      (fieldRules .duration durationRules f.duration ++
        (fieldRules .timeRange (fun _ => []) f.earliest ++
          (fieldRules .timeRange (fun _ => []) f.latest ++ [])))) (f.request limit) := by
  unfold Fields.request
  refine (checked_settles (fun _ => rfl) (peopleFault_first limit) f.people).bind fun people _ => ?_
  refine (checked_settles (fun _ => rfl) durationFault_first f.duration).bind fun duration _ => ?_
  refine (checked_settles (fun _ => rfl) (fun _ => .nil) f.earliest).bind fun earliest _ => ?_
  refine (checked_settles (fun _ => rfl) (fun _ => .nil) f.latest).bind fun latest _ => ?_
  exact .nil

/-- Whether a time is read does not depend on its form. -/
theorem fieldRules_map {α β : Type} (kind : FailureKind) (x : Except LenientFault α)
    (g : α → β) :
    fieldRules kind (fun _ => []) (x.map g) = fieldRules kind (fun _ => []) x := by
  cases x with
  | error fault => rfl
  | ok v => rfl

/-- **The checks of the fields and of the window** find the first rule broken. -/
theorem ofFields_settles {limit : Int} {now : Option Zoned} {f : Fields}
    {answer : Except RequestFault MeetingRequest} (h : ofFields limit now f = .ok answer) :
    Settles (f.converted.rules limit (now.map Zoned.instant)) answer := by
  have hrequest := request_settles limit f
  unfold Converted.rules Fields.converted
  rw [fieldRules_map, fieldRules_map]
  simp only [← List.append_assoc, List.append_nil] at hrequest ⊢
  unfold ofFields at h
  cases hr : f.request limit with
  | error fault =>
    rw [hr] at h hrequest
    cases h
    exact FirstBroken.append_some hrequest
  | ok r =>
    rw [hr] at h hrequest
    obtain ⟨found, hfound, h⟩ := bind_eq_ok.mp h
    obtain ⟨-, ⟨hduration, -⟩, hearliest, hlatest⟩ := Fields.request_eq_ok_iff.mp hr
    have hwindow := windowFault_first hfound
    have hrules : Converted.windowRules (now.map Zoned.instant) ⟨f.people, f.duration,
        f.earliest.map Moment.instant, f.latest.map Moment.instant⟩ =
        windowRules (now.map Zoned.instant) r.duration r.earliest.instant r.latest.instant := by
      unfold Converted.windowRules
      rw [hduration, hearliest, hlatest]
      rfl
    rw [hrules]
    cases found with
    | none =>
      cases h
      exact FirstBroken.append_none hrequest hwindow
    | some fault =>
      cases h
      exact FirstBroken.append_none hrequest hwindow

/-! ### What breaks no rule -/

theorem firstBroken_append_none_iff {rules after : List Rule} :
    FirstBroken (rules ++ after) none ↔ FirstBroken rules none ∧ FirstBroken after none := by
  simp only [FirstBroken.none_iff, List.forall_mem_append]

theorem fieldRules_none_iff {α : Type} {kind : FailureKind} {rules : α → List Rule}
    {x : Except LenientFault α} : FirstBroken (fieldRules kind rules x) none ↔
      ∃ v, x = .ok v ∧ FirstBroken (rules v) none := by
  cases x with
  | error fault => simp [fieldRules, FirstBroken.none_iff]
  | ok v => simp [fieldRules]

theorem peopleRules_none_iff {limit : Int} {people : List Int} :
    FirstBroken (peopleRules limit people) none ↔ AllowedPeople limit people := by
  rw [FirstBroken.none_iff]
  simp only [peopleRules, List.forall_mem_cons, not_exists, not_and, Decidable.not_not,
    Int.not_le, Int.not_lt]
  constructor
  · rintro ⟨hsome, hpositive, honce, hmost, -⟩
    exact ⟨hsome, hpositive, honce, hmost⟩
  · rintro ⟨hsome, hpositive, honce, hmost⟩
    exact ⟨hsome, hpositive, honce, hmost, nofun⟩

theorem durationRules_none_iff {duration : Int} :
    FirstBroken (durationRules duration) none ↔ AllowedDuration duration := by
  rw [FirstBroken.none_iff]
  simp only [durationRules, List.forall_mem_cons, Decidable.not_not, Int.not_le, Int.not_lt]
  constructor
  · rintro ⟨-, hshortest, hlongest, hgrid, -⟩
    exact ⟨hshortest, hlongest, hgrid⟩
  · rintro ⟨hshortest, hlongest, hgrid⟩
    exact ⟨by omega, hshortest, hlongest, hgrid, nofun⟩

theorem windowRules_none_iff {now : Option Instant} {duration : Int} {start stop : Instant} :
    FirstBroken (windowRules now duration start stop) none ↔
      AllowedWindow now duration start stop := by
  rw [FirstBroken.none_iff]
  simp only [windowRules, List.forall_mem_cons, not_exists, not_and, Int.not_le, Int.not_lt]
  constructor
  · rintro ⟨hordered, hholds, hmost, hpast, -⟩
    exact ⟨hordered, hholds, hmost, hpast⟩
  · rintro ⟨hordered, hholds, hmost, hpast⟩
    exact ⟨hordered, hholds, hmost, hpast, nofun⟩

/-- The people of a request are read, and may meet. -/
def Converted.PeoplePass (limit : Int) (c : Converted) : Prop :=
  ∃ people, c.people = .ok people ∧ AllowedPeople limit people

/-- The duration of a request is read, and a meeting may have it. -/
def Converted.DurationPass (c : Converted) : Prop :=
  ∃ duration, c.duration = .ok duration ∧ AllowedDuration duration

variable {limit : Int} {now : Option Instant} {c : Converted}
  {report : FailureKind × String}

theorem peoplePass_iff : c.PeoplePass limit ↔
    FirstBroken (fieldRules .participants (peopleRules limit) c.people) none := by
  simp only [fieldRules_none_iff, peopleRules_none_iff, Converted.PeoplePass]

theorem durationPass_iff : c.DurationPass ↔
    FirstBroken (fieldRules .duration durationRules c.duration) none := by
  simp only [fieldRules_none_iff, durationRules_none_iff, Converted.DurationPass]

/-- What breaks no rule is what is allowed. -/
theorem allowed_iff : c.Allowed limit now ↔ FirstBroken (c.rules limit now) none := by
  unfold Converted.rules
  simp only [firstBroken_append_none_iff, fieldRules_none_iff, peopleRules_none_iff,
    durationRules_none_iff]
  constructor
  · rintro ⟨people, duration, start, stop, rfl, hpeople, hduration, hwindow⟩
    exact ⟨⟨people, rfl, hpeople⟩, ⟨duration, rfl, hduration⟩, ⟨start, rfl, .nil⟩,
      ⟨stop, rfl, .nil⟩, windowRules_none_iff.mpr hwindow⟩
  · rintro ⟨⟨people, hpeople, hallowed⟩, ⟨duration, hduration, hallowed'⟩, ⟨start, hstart, -⟩,
      ⟨stop, hstop, -⟩, hwindow⟩
    unfold Converted.windowRules at hwindow
    rw [hduration, hstart, hstop] at hwindow
    refine ⟨people, duration, start, stop, ?_, hallowed, hallowed',
      windowRules_none_iff.mp hwindow⟩
    cases c
    simp only at hpeople hduration hstart hstop
    rw [hpeople, hduration, hstart, hstop]

/-! ### Kinds -/

theorem fieldRules_kind {α : Type} {kind : FailureKind} {rules : α → List Rule}
    {x : Except LenientFault α} (hrules : ∀ v, ∀ rule ∈ rules v, rule.kind = kind)
    (h : FirstBroken (fieldRules kind rules x) (some report)) : report.1 = kind := by
  obtain ⟨rule, hmem, rfl⟩ := h.mem
  cases x with
  | error fault => rw [List.mem_singleton.mp hmem]
  | ok v => exact hrules v rule hmem

theorem windowRules_kind (h : FirstBroken (c.windowRules now) (some report)) :
    report.1 = .timeRange := by
  obtain ⟨rule, hmem, rfl⟩ := h.mem
  unfold Converted.windowRules at hmem
  split at hmem
  · simp only [windowRules, List.mem_cons, List.not_mem_nil, or_false] at hmem
    rcases hmem with rfl | rfl | rfl | rfl <;> rfl
  · cases hmem

/-- The kind tells which field failed first. -/
theorem kind_of_firstBroken (h : FirstBroken (c.rules limit now) (some report)) :
    ¬c.PeoplePass limit ∧ report.1 = .participants ∨
      c.PeoplePass limit ∧ (¬c.DurationPass ∧ report.1 = .duration ∨
        c.DurationPass ∧ report.1 = .timeRange) := by
  rw [peoplePass_iff, durationPass_iff]
  rcases h.of_append with hpeople | ⟨hpass, h⟩
  · exact .inl ⟨hpeople.not_none, fieldRules_kind (by simp [peopleRules]) hpeople⟩
  refine .inr ⟨hpass, ?_⟩
  rcases h.of_append with hduration | ⟨hpass', h⟩
  · exact .inl ⟨hduration.not_none, fieldRules_kind (by simp [durationRules]) hduration⟩
  refine .inr ⟨hpass', ?_⟩
  rcases h.of_append with hearliest | ⟨-, h⟩
  · exact fieldRules_kind (by simp) hearliest
  rcases h.of_append with hlatest | ⟨-, hwindow⟩
  · exact fieldRules_kind (by simp) hlatest
  · exact windowRules_kind hwindow

/-! ### Raw requests -/

theorem readUtc_eq_ok {m : Mapping} {key : String} {x : Except LenientFault Utc}
    (h : readUtc m key = .ok x) :
    x.map Moment.instant = (readField lenientMoment m key).map Zoned.instant := by
  unfold readUtc at h
  split at h
  · next fault hread =>
    cases h
    rw [hread]
    rfl
  · next z hread =>
    obtain ⟨u, hu, rfl⟩ := map_eq_ok.mp h
    rw [hread]
    show Except.ok u.instant = Except.ok z.instant
    rw [Moment.instant_utc, Moment.toUtc_wall hu]
    rfl

/-- The fields of a mapping are read as they are converted. -/
theorem converted_of_ofMapping {m : Mapping} {fields : Fields}
    (h : Fields.ofMapping m = .ok fields) : fields.converted = .ofMapping m := by
  unfold Fields.ofMapping at h
  obtain ⟨earliest, hearliest, h⟩ := bind_eq_ok.mp h
  obtain ⟨latest, hlatest, h⟩ := bind_eq_ok.mp h
  cases h
  unfold Fields.converted Converted.ofMapping
  rw [readUtc_eq_ok hearliest, readUtc_eq_ok hlatest]

theorem readUtc_overflow {m : Mapping} {key : String} {fault : TimeFault}
    (h : readUtc m key = .error fault) : fault.Overflow := by
  unfold readUtc at h
  split at h
  · cases h
  · next z hread =>
    have hoffset : z.offset.natAbs < 86400 := by
      unfold readField at hread
      split at hread
      · cases hread
      · exact lenientMoment_offset hread
    cases hutc : z.toUtc with
    | ok u =>
      rw [hutc] at h
      cases h
    | error fault' =>
      rw [hutc] at h
      cases h
      rcases Moment.toUtc_overflow hutc with hover | ⟨-, hlarge⟩
      · exact hover
      · omega

theorem windowFault_overflow {now : Option Zoned} {r : MeetingRequest} {fault : TimeFault}
    (hnow : ∀ z, now = some z → z.offset.natAbs < 86400) (h : windowFault now r = .error fault) :
    fault.Overflow := by
  unfold windowFault at h
  split at h
  · cases h
  rcases bind_eq_error.mp h with h | ⟨stop, -, h⟩
  · exact Moment.plusMinutes_overflow h
  split at h
  · cases h
  split at h
  · cases h
  cases now with
  | none => cases h
  | some z =>
    rcases bind_eq_error.mp h with h | ⟨u, -, h⟩
    · rcases Moment.toUtc_overflow h with hover | ⟨-, hlarge⟩
      · exact hover
      · have := hnow z rfl
        omega
    · rcases bind_eq_error.mp h with h | ⟨threshold, -, h⟩
      · exact Moment.plusMinutes_overflow h
      · split at h
        · cases h
        · cases h

/-- A mapping is answered, unless the calendar is left. -/
theorem ofMapping_overflow {now : Option Zoned} {m : Mapping} {fault : TimeFault}
    (hnow : ∀ z, now = some z → z.offset.natAbs < 86400)
    (h : ofMapping limit now m = .error fault) : fault.Overflow := by
  unfold ofMapping at h
  rcases bind_eq_error.mp h with h | ⟨fields, -, h⟩
  · unfold Fields.ofMapping at h
    rcases bind_eq_error.mp h with h | ⟨earliest, -, h⟩
    · exact readUtc_overflow h
    · rcases bind_eq_error.mp h with h | ⟨latest, -, h⟩
      · exact readUtc_overflow h
      · cases h
  · unfold ofFields at h
    split at h
    · cases h
    · rcases bind_eq_error.mp h with h | ⟨found, -, h⟩
      · exact windowFault_overflow hnow h
      · split at h
        · cases h
        · cases h

/-- What the answer to a raw request is, by what its fields are converted to. -/
structure Exact (limit : Int) (now : Option Instant) (c : Converted)
    (answer : Except RequestFault MeetingRequest) : Prop where
  /-- It is accepted if its fields convert and obey the rules. -/
  accepted : (∃ r, answer = .ok r) ↔ c.Allowed limit now
  /-- People and duration are kept, and both times are the same instants in UTC. -/
  kept : ∀ r, answer = .ok r → c.people = .ok r.people ∧ c.duration = .ok r.duration ∧
    c.earliest = .ok r.earliest.instant ∧ c.latest = .ok r.latest.instant
  /-- Else it is refused with the kind and the message of the first rule it breaks. -/
  refused : ∀ kind message, (∃ f, answer = .error f ∧ f.kind = kind ∧ f.message = message) ↔
    FirstBroken (c.rules limit now) (some (kind, message))
  /-- The kind is that of the first field that fails. -/
  kind : ∀ f, answer = .error f →
    ¬c.PeoplePass limit ∧ f.kind = .participants ∨
      c.PeoplePass limit ∧ (¬c.DurationPass ∧ f.kind = .duration ∨
        c.DurationPass ∧ f.kind = .timeRange)

/-- The checks of fields that are read are exact. -/
theorem ofFields_exact {now : Option Zoned} {fields : Fields}
    {answer : Except RequestFault MeetingRequest} (h : ofFields limit now fields = .ok answer) :
    Exact limit (now.map Zoned.instant) fields.converted answer := by
  have hsettles := ofFields_settles h
  cases answer with
  | ok r =>
    have hnone : FirstBroken (fields.converted.rules limit (now.map Zoned.instant)) none :=
      hsettles
    refine ⟨iff_of_true ⟨r, rfl⟩ (allowed_iff.mpr hnone), ?_, fun kind message => ?_, nofun⟩
    · rintro r' ⟨⟩
      obtain ⟨hrequest, -⟩ := ofFields_eq_ok_iff.mp h
      obtain ⟨⟨hpeople, -⟩, ⟨hduration, -⟩, hearliest, hlatest⟩ :=
        Fields.request_eq_ok_iff.mp hrequest
      unfold Fields.converted
      rw [hpeople, hduration, hearliest, hlatest]
      exact ⟨rfl, rfl, rfl, rfl⟩
    · exact iff_of_false (by rintro ⟨f, ⟨⟩, -⟩) fun hf => absurd hnone hf.not_none
  | error f =>
    have hfirst : FirstBroken (fields.converted.rules limit (now.map Zoned.instant))
        (some (reported f)) := hsettles
    refine ⟨?_, ?_, fun kind message => ?_, ?_⟩
    · rw [allowed_iff]
      exact iff_of_false (by rintro ⟨r, ⟨⟩⟩) hfirst.not_none
    · rintro r ⟨⟩
    · constructor
      · rintro ⟨g, ⟨⟩, rfl, rfl⟩
        exact hfirst
      · intro hbroken
        cases Option.some.inj (hfirst.unique hbroken)
        exact ⟨f, rfl, rfl, rfl⟩
    · rintro g ⟨⟩
      exact kind_of_firstBroken hfirst

/-- **A raw request is accepted exactly by the stated rules.**  Unless a time
leaves the calendar, a mapping is accepted if its four fields convert and obey all
rules, and then people, duration and instants are those of the fields; else it is
refused with the kind and the message of the first rule that it breaks, in the order
of the fields. -/
theorem parse_exact (limit : Int) {now : Option Zoned}
    (hnow : ∀ z, now = some z → z.offset.natAbs < 86400) {data : Json} {m : Mapping}
    (hdata : Mapping.ofJson data = .ok m) :
    (∃ fault : TimeFault, fault.Overflow ∧ parse limit now data = .error (.time fault)) ∨
      ∃ answer, parse limit now data = .ok answer ∧
        Exact limit (now.map Zoned.instant) (.ofMapping m) answer := by
  have hparse : parse limit now data = (ofMapping limit now m).mapError .time := by
    unfold parse
    rw [hdata]
    rfl
  rw [hparse]
  cases hanswer : ofMapping limit now m with
  | error fault => exact .inl ⟨fault, ofMapping_overflow hnow hanswer, rfl⟩
  | ok answer =>
    refine .inr ⟨answer, rfl, ?_⟩
    unfold ofMapping at hanswer
    obtain ⟨fields, hfields, hanswer⟩ := bind_eq_ok.mp hanswer
    rw [← converted_of_ofMapping hfields]
    exact ofFields_exact hanswer

/-- Fields with a window that is written at two offsets. -/
def twoOffsets (people : List Json) (duration : Int) : Mapping :=
  [("participant_ids", .arr people), ("duration_minutes", .int duration),
    ("earliest_start", .str "2024-06-15T10:00+02:00"), ("latest_end", .str "2024-06-15T12:00Z")]

/-- A number and its digits are two people who may meet; the same person twice is
refused before seven minutes are. -/
theorem parse_exact_saturday :
    (∀ z, some (Moment.saturday 480).zoned = some z → z.offset.natAbs < 86400) ∧
    (∀ people duration,
      Mapping.ofJson (.obj (twoOffsets people duration)) = .ok (twoOffsets people duration)) ∧
    Exact 20 (some (Moment.saturday 480).instant) (.ofMapping (twoOffsets [.int 1, .str "2"] 30))
      (.ok ⟨[1, 2], 30, Moment.saturday 480, Moment.saturday 720⟩) ∧
    Exact 20 (some (Moment.saturday 480).instant) (.ofMapping (twoOffsets [.int 1, .str "1"] 7))
      (.error .repeatedParticipant) := by
  have hnow : ∀ z, some (Moment.saturday 480).zoned = some z → z.offset.natAbs < 86400 := by
    rintro z ⟨⟩
    decide
  have haccepted : parse 20 (some (Moment.saturday 480).zoned)
      (.obj (twoOffsets [.int 1, .str "2"] 30)) =
      .ok (.ok ⟨[1, 2], 30, Moment.saturday 480, Moment.saturday 720⟩) := by cbv
  have hrefused : parse 20 (some (Moment.saturday 480).zoned)
      (.obj (twoOffsets [.int 1, .str "1"] 7)) = .ok (.error .repeatedParticipant) := by cbv
  refine ⟨hnow, fun _ _ => rfl, ?_, ?_⟩
  · rcases parse_exact 20 hnow
        (show Mapping.ofJson (.obj (twoOffsets [.int 1, .str "2"] 30)) = .ok _ from rfl) with
      ⟨fault, -, h⟩ | ⟨answer, h, hexact⟩
    · cases haccepted.symm.trans h
    · cases haccepted.symm.trans h
      exact hexact
  · rcases parse_exact 20 hnow
        (show Mapping.ofJson (.obj (twoOffsets [.int 1, .str "1"] 7)) = .ok _ from rfl) with
      ⟨fault, -, h⟩ | ⟨answer, h, hexact⟩
    · cases hrefused.symm.trans h
    · cases hrefused.symm.trans h
      exact hexact

end MeetingRequest

end Meetings
