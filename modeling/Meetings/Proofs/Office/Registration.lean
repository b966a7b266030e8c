/-
Participants are registered exactly under the names of a stated grammar.

* `NameChar`, `ProperName` — the grammar of names; `properName_iff` — it is that
  of the pattern and of the test for blank text;
* `nameRules` — the rules of a name in the order of their checks, each with the
  message with which it is reported, from the raw field alone;
  `registrationName_first` — the first of them that is broken is reported;
* `ProperName.made` — a name that is accepted is one that participants may have;
* `Registered` — what is answered to a request, and what it leaves;
* **`register_exact`** — every request to register a participant ends like that.

Design notes: blank is what Unicode counts as space, together with the four
information separators.  The end of the pattern admits one line feed behind the
characters that it asks for, and a line feed is one of them.
-/
import Meetings.Proofs.Office.Perform
import Meetings.Proofs.Office.Refinement
import Meetings.Proofs.Request.Rules
import Meetings.Proofs.Store.Settled

namespace Meetings

open MeetingRequest (FirstBroken Rule)
open Meetings.Text

variable {name : String} {cs : List Char} {m : Mapping} {o : Office} {set : Settings} {data : Json}

/-! ### The grammar of names -/

/-- A character that a name may have: a letter of ASCII, a blank, a hyphen, an
apostrophe or a period. -/
inductive NameChar (c : Char) : Prop
  | upper (h : 'A' ≤ c ∧ c ≤ 'Z')
  | lower (h : 'a' ≤ c ∧ c ≤ 'z')
  | blank (h : isBlank c = true)
  | mark (h : c = '-' ∨ c = '\x27' ∨ c = '.')

/-- A name that a request may ask for. -/
structure ProperName (name : String) : Prop where
  notBlank : ∃ c ∈ name.toList, isBlank c = false
  length : name.length ≤ 100
  chars : ∀ c ∈ name.toList, NameChar c

/-- The text matches `^[a-zA-Z\s\-'.]+$`: characters of a name, one at least, and
then the end or a line feed before it. -/
def MatchesPattern (cs : List Char) : Prop :=
  ∃ body tail, cs = body ++ tail ∧ body ≠ [] ∧ (∀ c ∈ body, NameChar c) ∧
    (tail = [] ∨ tail = ['\n'])

theorem isAlpha_iff {c : Char} :
    c.isAlpha = true ↔ 'A' ≤ c ∧ c ≤ 'Z' ∨ 'a' ≤ c ∧ c ≤ 'z' := by
  simp only [Char.isAlpha, Char.isUpper, Char.isLower, Bool.or_eq_true, Bool.and_eq_true,
    decide_eq_true_eq]
  exact Iff.rfl

theorem isNameChar_iff {c : Char} : isNameChar c = true ↔ NameChar c := by
  unfold isNameChar
  simp only [Bool.or_eq_true, decide_eq_true_eq, isAlpha_iff]
  constructor
  · rintro (((((h | h) | h) | h) | h) | h)
    · exact .upper h
    · exact .lower h
    · exact .blank h
    · exact .mark (.inl h)
    · exact .mark (.inr (.inl h))
    · exact .mark (.inr (.inr h))
  · rintro (h | h | h | h)
    · exact .inl (.inl (.inl (.inl (.inl h))))
    · exact .inl (.inl (.inl (.inl (.inr h))))
    · exact .inl (.inl (.inl (.inr h)))
    · rcases h with h | h | h
      · exact .inl (.inl (.inr h))
      · exact .inl (.inr h)
      · exact .inr h

theorem matchesPattern_iff : MatchesPattern cs ↔ cs ≠ [] ∧ ∀ c ∈ cs, NameChar c := by
  constructor
  · rintro ⟨body, tail, rfl, hbody, hchars, htail⟩
    refine ⟨List.append_ne_nil_of_left_ne_nil hbody tail, ?_⟩
    rw [List.forall_mem_append]
    refine ⟨hchars, ?_⟩
    rcases htail with rfl | rfl
    · exact fun c hc => absurd hc List.not_mem_nil
    · rintro c hc
      rw [List.mem_singleton.mp hc]
      exact .blank (by decide)
  · rintro ⟨hsome, hchars⟩
    exact ⟨cs, [], (List.append_nil cs).symm, hsome, hchars, .inl rfl⟩

/-- Nothing is left of a text without the blanks at its ends iff it is blank. -/
theorem trim_eq_nil_iff : trim isBlank cs = [] ↔ ∀ c ∈ cs, isBlank c = true := by
  unfold trim
  rw [List.reverse_eq_nil_iff, List.dropWhile_eq_nil_iff]
  constructor
  · intro h
    -- What is dropped in front is blank, and so is all of the rest.
    have hrest : ∀ c ∈ cs.dropWhile isBlank, isBlank c = true := fun c hc =>
      h c (List.mem_reverse.mpr hc)
    have hnil : cs.dropWhile isBlank = [] := by
      by_contra hne
      have hhead := List.head_dropWhile_not isBlank hne
      rw [hrest _ (List.head_mem hne)] at hhead
      cases hhead
    exact List.dropWhile_eq_nil_iff.mp hnil
  · intro h
    rw [List.dropWhile_eq_nil_iff.mpr h]
    exact fun c hc => absurd hc List.not_mem_nil

/-- **The grammar of names** is that of the pattern and of the test for blank text. -/
theorem properName_iff : ProperName name ↔
    trim isBlank name.toList ≠ [] ∧ name.length ≤ 100 ∧ MatchesPattern name.toList := by
  have hblank : trim isBlank name.toList ≠ [] ↔ ∃ c ∈ name.toList, isBlank c = false := by
    rw [ne_eq, trim_eq_nil_iff]
    simp
  rw [hblank, matchesPattern_iff]
  constructor
  · rintro ⟨⟨c, hc, hblank⟩, hlength, hchars⟩
    exact ⟨⟨c, hc, hblank⟩, hlength, List.ne_nil_of_mem hc, hchars⟩
  · rintro ⟨hblank, hlength, -, hchars⟩
    exact ⟨hblank, hlength, hchars⟩

/-! ### The rules -/

/-- The rules of a name that is text. -/
def textNameRules (name : String) : List Rule :=
  [⟨.participantName, "Participant name is required", ∀ c ∈ name.toList, isBlank c = true⟩,
    ⟨.participantName, "Participant name cannot exceed 100 characters", 100 < name.length⟩,
    ⟨.participantName,
      "Participant name can only contain letters, spaces, hyphens, apostrophes, and periods",
      ∃ c ∈ name.toList, ¬NameChar c⟩]

/-- The rules of a name, in the order of their checks: it is there, it is text, and
those of text. -/
def nameRules : Option Json → List Rule
  | none => [⟨.participantName, "Field required", True⟩]
  | some (.str name) => textNameRules name
  | some _ => [⟨.participantName, "Input should be a valid string", True⟩]

/-- The kind and the message of a refusal of a name. -/
def reportedName (f : NameRequestFault) : FailureKind × String := (.participantName, f.message)

theorem requestedNameFault_first (name : String) :
    FirstBroken (textNameRules name) ((requestedNameFault name).map reportedName) := by
  have hblank : isBlankText name = true ↔ ∀ c ∈ name.toList, isBlank c = true := List.all_eq_true
  have hlong : reportedName .tooLong =
      (.participantName, "Participant name cannot exceed 100 characters") := by decide
  unfold requestedNameFault
  have hchars : ¬(name.toList.all isNameChar = true) ↔ ∃ c ∈ name.toList, ¬NameChar c := by
    simp [isNameChar_iff]
  have hlast : (if name.toList.all isNameChar = true then none
      else some NameRequestFault.badCharacter) =
      if ¬(name.toList.all isNameChar = true) then some .badCharacter else none := by
    simp only [ite_not]
  rw [hlast]
  exact .ite rfl hblank (.ite hlong Iff.rfl (.ite rfl hchars .nil))

theorem textNameRules_none_iff : FirstBroken (textNameRules name) none ↔ ProperName name := by
  rw [FirstBroken.none_iff]
  unfold textNameRules
  simp only [List.forall_mem_cons]
  constructor
  · rintro ⟨hblank, hlong, hchars, -⟩
    exact ⟨by simpa using hblank, Nat.not_lt.mp hlong, by simpa using hchars⟩
  · rintro ⟨hblank, hlength, hchars⟩
    refine ⟨by simpa using hblank, Nat.not_lt.mpr hlength, by simpa using hchars, ?_⟩
    exact fun rule hrule => absurd hrule List.not_mem_nil

/-- A name is read if it is proper, and else refused for the first rule that it
breaks. -/
theorem registrationName_first (m : Mapping) :
    match registrationName m with
    | .ok name => m.field? "name" = some (.str name) ∧ ProperName name
    | .error f => FirstBroken (nameRules (m.field? "name")) (some (reportedName f)) := by
  unfold registrationName
  cases hfield : m.field? "name" with
  | none => exact @FirstBroken.here ⟨.participantName, "Field required", True⟩ [] trivial
  | some value =>
    cases value with
    | str name =>
      have hfirst := requestedNameFault_first name
      dsimp only
      cases hfault : requestedNameFault name with
      | none =>
        rw [hfault] at hfirst
        exact ⟨rfl, textNameRules_none_iff.mp hfirst⟩
      | some f =>
        rw [hfault] at hfirst
        exact hfirst
    | _ =>
      exact @FirstBroken.here ⟨.participantName, "Input should be a valid string", True⟩ [] trivial

/-- The rules of a participant follow from those of a request. -/
theorem ProperName.made (h : ProperName name) (id : Option Int) :
    Participant.make id (.str name) = .ok ⟨id, name⟩ := by
  have hvalid : ValidName name := by
    refine ⟨?_, h.length⟩
    obtain ⟨c, hc, hblank⟩ := h.notBlank
    exact List.all_eq_false.mpr ⟨c, hc, by rw [hblank]; decide⟩
  show (checkNameText name).map _ = _
  rw [checkNameText_eq_ok_iff.mpr ⟨hvalid, rfl⟩]
  rfl

/-! ### Registering -/

/-- What is answered to a request with a raw field for the name, and the office that
it leaves. -/
structure Registered (o : Office) (field : Option Json) (answer : Except Failure Participant)
    (o' : Office) : Prop where
  /-- A participant is answered iff the field is text that is a proper name. -/
  accepted : (∃ p, answer = .ok p) ↔ ∃ name, field = some (.str name) ∧ ProperName name
  /-- It has the given name under the next id, and is the only thing that is new. -/
  stored : ∀ p, answer = .ok p → ∃ name, field = some (.str name) ∧
    p = ⟨some o.archive.store.nextParticipant, name⟩ ∧
    o'.archive.store = { o.archive.store with
      participants := o.archive.store.participants ++ [p]
      nextParticipant := o.archive.store.nextParticipant + 1 } ∧
    o'.outbox = o.outbox
  /-- Else the first broken rule is reported, and nothing has changed. -/
  refused : ∀ f, answer = .error f → o' = o ∧ f.kind = .participantName ∧
    FirstBroken (nameRules field) (some (f.kind, f.message))

/-- **Participants are registered exactly under proper names.**  As long as the file
is written, a request to register a participant is accepted if its name is text that
is a proper name, and is then stored unchanged under the next id; else the first rule
of the name that is broken is reported and nothing is stored.  No name that a request
may ask for is refused to a participant. -/
theorem register_exact (t : Ticks) (hvalid : o.archive.store.Valid)
    (hdata : Mapping.ofJson data = .ok m)
    (hsaved : ∀ name, m.field? "name" = some (.str name) → ProperName name →
      (Archive.replaced o.archive (o.archive.store.joined name)).1 = none) :
    (∃ answer o', (set.pipeline.register t data).Gives o (.ok answer) o' ∧
      Registered o (m.field? "name") answer o') ∧
    ∀ name, ProperName name → ∀ id, Participant.make id (.str name) = .ok ⟨id, name⟩ := by
  refine ⟨?_, fun name hname id => hname.made id⟩
  have hparse : parseRegistration data = .ok (registrationName m) := by
    unfold parseRegistration
    rw [hdata]
    rfl
  have hdoes := @does_register o set t data
  have hfirst := registrationName_first m
  unfold Action.Does Store.registering at hdoes
  rw [hparse] at hdoes
  cases hname : registrationName m with
  | error f =>
    rw [hname] at hdoes hfirst
    refine ⟨_, _, hdoes, ?_, fun p hp => ?_, ?_⟩
    · refine iff_of_false (by rintro ⟨p, ⟨⟩⟩) ?_
      rintro ⟨name, hfield, hproper⟩
      rw [hfield] at hfirst
      exact hfirst.not_none (textNameRules_none_iff.mpr hproper)
    · cases hp
    · rintro _ ⟨⟩
      exact ⟨rfl, rfl, hfirst⟩
  | ok name =>
    rw [hname] at hdoes hfirst
    obtain ⟨hfield, hproper⟩ := hfirst
    dsimp only at hdoes
    rw [hproper.made none] at hdoes
    dsimp only at hdoes
    rw [Change.apply_put_saved (hsaved name hfield hproper), List.append_nil] at hdoes
    refine ⟨_, _, hdoes, iff_of_true ⟨_, rfl⟩ ⟨name, hfield, hproper⟩, ?_, fun f hf => ?_⟩
    · rintro _ ⟨⟩
      refine ⟨name, hfield, rfl, ?_, rfl⟩
      have hstore : (Archive.replaced o.archive (o.archive.store.joined name)).2.store =
          o.archive.store.joined name := (Archive.kept_store _).1
      rw [hstore, ← hvalid.joined_participants name]
      rfl
    · cases hf

/-- A name with blanks in front and behind is stored as it is. -/
theorem register_exact_ada :
    let o : Office := ⟨⟨Store.empty, some Office.direct, Office.lone none⟩, []⟩
    let name := " Ada O'Neil\n"
    o.archive.store.Valid ∧
    Mapping.ofJson (.obj [("name", .str name)]) = .ok [("name", .str name)] ∧
    (Archive.replaced o.archive (o.archive.store.joined name)).1 = none ∧
    ∃ answer o', (Settings.saturday.pipeline.register .none (.obj [("name", .str name)])).Gives o
      (.ok answer) o' ∧ answer = .ok ⟨some 1, name⟩ ∧
      o'.archive.store.participants = [⟨some 1, name⟩] := by
  intro o name
  have hcut : (Store.empty.joined name).document.cut = none := by cbv
  have hsaved : (Archive.replaced o.archive (o.archive.store.joined name)).1 = none :=
    congrArg Prod.fst (Office.replaced_lone hcut)
  have hproper : ProperName name := by
    refine ⟨⟨'A', by decide, by decide⟩, by decide, fun c hc => isNameChar_iff.mp ?_⟩
    have hall : name.toList.all isNameChar = true := by decide
    exact List.all_eq_true.mp hall c hc
  obtain ⟨⟨answer, o', hgives, hregistered⟩, -⟩ := @register_exact [("name", .str name)] o
    .saturday (.obj [("name", .str name)]) .none Store.empty_valid rfl (by
      rintro other ⟨⟩ -
      exact hsaved)
  obtain ⟨p, rfl⟩ := hregistered.accepted.mpr ⟨name, rfl, hproper⟩
  obtain ⟨given, hgiven, rfl, hstore, -⟩ := hregistered.stored p rfl
  cases hgiven
  exact ⟨Store.empty_valid, rfl, hsaved, _, o', hgives, rfl, by rw [hstore]; rfl⟩

end Meetings
