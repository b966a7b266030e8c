/-
Requests of groups that have nobody in common.

* `Store.AlikeFor` — two stores look the same to some people: they hold the same
  participants, and the same bookings of these people;
* `AlikeFor.overlapping`, `AlikeFor.slot` — what such stores answer to them;
* `Agrees` — two stores decide the same on a request, and each gives a booking
  the id that is next with it: `scheduling_agrees`;
* **`answer_unmoved`** — in memory, requests of others leave the answer to a
  request as it was, however many they are;
* **`apart_in_either_order`** — two requests of groups that have nobody in common
  are answered alike in both orders, and leave the same bookings.

Design notes: a booking of others is not among the commitments that a search
looks up, so the searches on both sides are one and the same, step for step and
for every spacing of the grid.  All that others change is the next id.
-/
import Meetings.Proofs.Office.Agreement
import Meetings.Proofs.Service.Effects

namespace Meetings

variable {people : List Int} {s s' s'' : Store} {set : Settings} {r : MeetingRequest}

/-! ### What some people see of a store -/

/-- Two stores look the same to some people. -/
structure Store.AlikeFor (people : List Int) (s s' : Store) : Prop where
  participants : s'.participants = s.participants
  bookings : s'.bookings.filter (fun b => sharesPerson b.people (people.map .number)) =
    s.bookings.filter fun b => sharesPerson b.people (people.map .number)

namespace Store.AlikeFor

theorem refl (people : List Int) (s : Store) : s.AlikeFor people s := ⟨rfl, rfl⟩

theorem trans (h : s.AlikeFor people s') (h' : s'.AlikeFor people s'') :
    s.AlikeFor people s'' :=
  ⟨h'.participants.trans h.participants, h'.bookings.trans h.bookings⟩

/-- A booking of others is not seen. -/
theorem booked {b : Booking} (h : sharesPerson b.people (people.map .number) = false) :
    s.AlikeFor people (s.booked b) where
  participants := rfl
  bookings := by
    have hnew : [s.saved b].filter (fun b => sharesPerson b.people (people.map .number)) = [] :=
      List.filter_eq_nil_iff.mpr (by simpa [saved] using h)
    show (s.bookings ++ [s.saved b]).filter _ = _
    rw [List.filter_append, hnew, List.append_nil]

theorem participantsAmong (h : s.AlikeFor people s') (refs : List PersonRef) :
    s'.participantsAmong refs = s.participantsAmong refs := by
  have hreferent : s'.referent? = s.referent? := by
    funext ref
    unfold referent? participant?
    rw [h.participants]
  unfold Store.participantsAmong
  rw [hreferent]

theorem overlapping (h : s.AlikeFor people s') (start stop : Instant) :
    s'.overlapping (people.map .number) start stop =
      s.overlapping (people.map .number) start stop := by
  unfold Store.overlapping
  rw [← List.filter_filter, ← List.filter_filter, h.bookings]

/-- The search among what some people see. -/
theorem slot (h : s.AlikeFor people s') (g : Grid) (duration : Int) (start stop : Zoned) :
    s'.slot g people duration start stop = s.slot g people duration start stop := by
  unfold Store.slot inTheWay
  simp only [h.overlapping]

end Store.AlikeFor

/-- People who have nobody in common share no person, as references either. -/
theorem sharesPerson_of_apart {others : List Int} (h : ∀ id ∈ people, id ∉ others) :
    sharesPerson (others.map .number) (people.map .number) = false := by
  rw [← Bool.not_eq_true, sharesPerson_iff]
  rintro ⟨ref, href, ref', href', hsame⟩
  obtain ⟨m, hm, rfl⟩ := List.mem_map.mp href
  obtain ⟨n, hn, rfl⟩ := List.mem_map.mp href'
  rw [PersonRef.same_number, beq_iff_eq] at hsame
  exact h n hn (hsame ▸ hm)

/-! ### Decisions -/

/-- A shown booking without its id. -/
def BookingView.unnumbered (v : BookingView) : BookingView :=
  { v with booking := { v.booking with id := none } }

/-- Two answers to a request for a meeting are the same but for the id of the
booking. -/
def SameAnswer (x y : Except Fault (Except Failure BookingView)) : Prop :=
  x.map (·.map BookingView.unnumbered) = y.map (·.map BookingView.unnumbered)

/-- Changes of two stores by one decision on a request of some people: the same
answer and no booking, or the same booking, under the next id of each. -/
inductive Agrees (people : List Int) (s s' : Store) :
    Change (Except Failure BookingView) → Change (Except Failure BookingView) → Prop
  | answer (result : Except Fault (Except Failure BookingView)) :
      Agrees people s s' (.answer result) (.answer result)
  | put {b : Booking} (hpeople : b.people = people.map .number) (known : List Participant)
      (told told' : List Delivery) :
      Agrees people s s' (.put (s.booked b) told (.ok ⟨s.saved b, known⟩))
        (.put (s'.booked b) told' (.ok ⟨s'.saved b, known⟩))

theorem booking_agrees (s s' : Store) (set : Settings) (known : List Participant) (slot : Utc) :
    Agrees r.people s s' (s.booking set r known slot) (s'.booking set r known slot) := by
  unfold Store.booking
  cases slot.plusMinutes r.duration with
  | error fault => exact .answer _
  | ok stop =>
    dsimp only
    cases hbooking : Booking.ofUtc none (r.people.map .number) slot stop with
    | error fault => exact .answer _
    | ok b =>
      have hpeople : b.people = r.people.map .number := by
        rw [(Booking.ofUtc_eq_ok_iff.mp hbooking).1]
      exact .put hpeople _ _ _

/-- **Stores that look the same to some people decide the same on their
requests.** -/
theorem scheduling_agrees (h : s.AlikeFor r.people s') (set : Settings) :
    Agrees r.people s s' (s.scheduling set r) (s'.scheduling set r) := by
  unfold Store.scheduling
  rw [h.participantsAmong, h.slot]
  split
  · exact .answer _
  · unfold Change.onSlot
    split
    · exact .answer _
    · exact .answer _
    · exact booking_agrees s s' set _ _

/-! ### Requests in memory -/

/-- The answer of a change that need not write a file. -/
def Change.result {α : Type} : Change α → Except Fault α
  | .answer result => result
  | .put _ _ result => .ok result

/-- The store after a change. -/
def Change.store {α : Type} (s : Store) : Change α → Store
  | .answer _ => s
  | .put s' _ _ => s'

variable {o : Office} {asked : Asked}

theorem Change.apply_in_memory {α : Type} (h : o.archive.file = none) (c : Change α) :
    (c.apply o).1 = c.result ∧
      (c.apply o).2.archive = { o.archive with store := c.store o.archive.store } := by
  cases c with
  | answer result => exact ⟨rfl, rfl⟩
  | put store told result =>
    have hkept : Archive.replaced o.archive store = (none, { o.archive with store := store }) :=
      Archive.kept_of_memory h
    refine ⟨Change.apply_memory h, ?_⟩
    rw [Change.apply_put_saved (by rw [hkept]), hkept]
    rfl

/-- In memory a request is answered and carried out as its change says. -/
theorem schedule_in_memory (set : Settings) (t : Ticks) (asked : Asked)
    (h : o.archive.file = none) :
    let change := asked.change set.maxParticipants (o.archive.store.scheduling set)
    let run := (asked.schedule set.pipeline t).runFrom o
    run.1 = change.result ∧
      run.2.state.archive = { o.archive with store := change.store o.archive.store } := by
  intro change run
  have hdoes : (asked.schedule set.pipeline t).Does o change := by
    rw [Asked.schedule_eq]
    exact (does_request set asked (@does_schedule o set)).observed set.pipeline "schedule" t
  obtain ⟨hanswer, hstate⟩ := hdoes.runFrom
  obtain ⟨hresult, harchive⟩ := change.apply_in_memory h
  exact ⟨hanswer.trans hresult, (congrArg Office.archive hstate).trans harchive⟩

theorem Asked.change_of_parsed {limit : Int} (h : asked.parsed limit = .ok (.ok r))
    (change : MeetingRequest → Change (Except Failure BookingView)) :
    asked.change limit change = change r := by
  unfold Asked.change
  rw [h]

/-- What is decided does not show the id: the answers are the same. -/
theorem Agrees.sameAnswer {c c' : Change (Except Failure BookingView)}
    (h : Agrees people s s' c c') : SameAnswer c.result c'.result := by
  cases h with
  | answer result => rfl
  | put hpeople known told told' => rfl

/-- Others do not see what is decided on a request. -/
theorem Agrees.alikeFor {others : List Int} {c c' : Change (Except Failure BookingView)}
    (h : Agrees others s s' c c') (hapart : ∀ id ∈ people, id ∉ others) :
    s.AlikeFor people (c.store s) := by
  cases h with
  | answer result => exact .refl people s
  | put hpeople known told told' =>
    refine .booked ?_
    rw [hpeople]
    exact sharesPerson_of_apart hapart

/-- A request of others, whatever comes of it, is not seen. -/
theorem alikeFor_change {limit : Int} (asked : Asked)
    (hapart : ∀ r, asked.parsed limit = .ok (.ok r) → ∀ id ∈ people, id ∉ r.people) :
    s.AlikeFor people ((asked.change limit (s.scheduling set)).store s) := by
  unfold Asked.change
  split
  · exact .refl people s
  · exact .refl people s
  · next r hparsed => exact (scheduling_agrees (.refl r.people s) set).alikeFor (hapart r hparsed)

/-- Requests carried out one after another. -/
def Office.served (set : Settings) (o : Office) (requests : List (Ticks × Asked)) : Office :=
  requests.foldl (fun o q => ((q.2.schedule set.pipeline q.1).runFrom o).2.state) o

/-- Requests of others are not seen, however many they are. -/
theorem served_alikeFor (set : Settings) (requests : List (Ticks × Asked)) (o : Office)
    (hmemory : o.archive.file = none)
    (hapart : ∀ q ∈ requests, ∀ r, q.2.parsed set.maxParticipants = .ok (.ok r) →
      ∀ id ∈ people, id ∉ r.people) :
    (o.served set requests).archive.file = none ∧
      o.archive.store.AlikeFor people (o.served set requests).archive.store := by
  induction requests generalizing o with
  | nil => exact ⟨hmemory, .refl people _⟩
  | cons q rest ih =>
    rw [List.forall_mem_cons] at hapart
    obtain ⟨-, harchive⟩ := schedule_in_memory set q.1 q.2 hmemory
    have hstep : o.archive.store.AlikeFor people
        ((q.2.schedule set.pipeline q.1).runFrom o).2.state.archive.store := by
      rw [harchive]
      exact alikeFor_change q.2 hapart.1
    obtain ⟨hfile, hrest⟩ := ih ((q.2.schedule set.pipeline q.1).runFrom o).2.state
      (by rw [harchive]; exact hmemory) hapart.2
    exact ⟨hfile, hstep.trans hrest⟩

/-- **Requests of others leave an answer as it was**, but for the id of the
booking. -/
theorem answer_unmoved (set : Settings) (t t' : Ticks) (hmemory : o.archive.file = none)
    (h : asked.parsed set.maxParticipants = .ok (.ok r)) (requests : List (Ticks × Asked))
    (hapart : ∀ q ∈ requests, ∀ r', q.2.parsed set.maxParticipants = .ok (.ok r') →
      ∀ id ∈ r.people, id ∉ r'.people) :
    SameAnswer ((asked.schedule set.pipeline t).runFrom o).1
      ((asked.schedule set.pipeline t').runFrom (o.served set requests)).1 := by
  obtain ⟨hfile, halike⟩ := served_alikeFor set requests o hmemory hapart
  rw [(schedule_in_memory set t asked hmemory).1, (schedule_in_memory set t' asked hfile).1,
    Asked.change_of_parsed h, Asked.change_of_parsed h]
  exact (scheduling_agrees halike set).sameAnswer

/-! ### Two requests in both orders -/

/-- Two stores that come from one by bookings, the same ones in both but for
their order and the ids that they are given. -/
structure Store.SameAdditions (s t t' : Store) : Prop where
  participants : t.participants = s.participants ∧ t'.participants = s.participants
  nextParticipant : t.nextParticipant = s.nextParticipant ∧ t'.nextParticipant = s.nextParticipant
  nextBooking : t.nextBooking = t'.nextBooking
  bookings : ∃ added added' : List Booking,
    t.bookings = s.bookings ++ added ∧ t'.bookings = s.bookings ++ added' ∧
      added.map (·.id) = added'.map (·.id) ∧
      (added.map fun b => { b with id := none }).Perm
        (added'.map fun b => { b with id := none })

/-- One decision after another, in both orders. -/
theorem Agrees.sameAdditions {people' : List Int} {c d c' d' : Change (Except Failure BookingView)}
    (hc : Agrees people s (d.store s) c c') (hd : Agrees people' s (c.store s) d d') :
    s.SameAdditions (d'.store (c.store s)) (c'.store (d.store s)) := by
  cases hc with
  | answer result =>
    cases hd with
    | answer result' => exact ⟨⟨rfl, rfl⟩, ⟨rfl, rfl⟩, rfl, [], [], by simp [Change.store]⟩
    | @put b hb known told told' =>
      exact ⟨⟨rfl, rfl⟩, ⟨rfl, rfl⟩, rfl, [s.saved b], [s.saved b], rfl, rfl, rfl, .refl _⟩
  | @put a ha known told told' =>
    cases hd with
    | answer result' =>
      exact ⟨⟨rfl, rfl⟩, ⟨rfl, rfl⟩, rfl, [s.saved a], [s.saved a], rfl, rfl, rfl, .refl _⟩
    | @put b hb known' told₁ told₁' =>
      -- Whoever comes first gets the first of two ids.
      refine ⟨⟨rfl, rfl⟩, ⟨rfl, rfl⟩, rfl, [s.saved a, (s.booked a).saved b],
        [s.saved b, (s.booked b).saved a], ?_, ?_, rfl, .swap _ _ []⟩
      · exact List.append_assoc _ _ _
      · exact List.append_assoc _ _ _

/-- **Groups that have nobody in common do not influence each other.**  In memory,
two requests that pass their checks and name nobody in common are answered alike
in both orders, with the same fault, the same refusal or the same booking but for
its id; and the same bookings are left, but for their order and their ids. -/
theorem apart_in_either_order (set : Settings) (t₁ t₂ t₃ t₄ : Ticks) {o : Office}
    (hmemory : o.archive.file = none) {a b : Asked} {ra rb : MeetingRequest}
    (ha : a.parsed set.maxParticipants = .ok (.ok ra))
    (hb : b.parsed set.maxParticipants = .ok (.ok rb))
    (hapart : ∀ id ∈ ra.people, id ∉ rb.people) :
    let afterA := (a.schedule set.pipeline t₁).runFrom o
    let thenB := (b.schedule set.pipeline t₂).runFrom afterA.2.state
    let afterB := (b.schedule set.pipeline t₃).runFrom o
    let thenA := (a.schedule set.pipeline t₄).runFrom afterB.2.state
    SameAnswer afterA.1 thenA.1 ∧ SameAnswer afterB.1 thenB.1 ∧
      o.archive.store.SameAdditions thenB.2.state.archive.store
        thenA.2.state.archive.store := by
  intro afterA thenB afterB thenA
  have hapart' : ∀ id ∈ rb.people, id ∉ ra.people := fun id hid hid' => hapart id hid' hid
  obtain ⟨hanswerA, harchiveA⟩ := schedule_in_memory set t₁ a hmemory
  obtain ⟨hanswerB, harchiveB⟩ := schedule_in_memory set t₃ b hmemory
  rw [Asked.change_of_parsed ha] at hanswerA harchiveA
  rw [Asked.change_of_parsed hb] at hanswerB harchiveB
  obtain ⟨hanswerA', harchiveA'⟩ :=
    schedule_in_memory set t₄ a (o := afterB.2.state) (by rw [harchiveB]; exact hmemory)
  obtain ⟨hanswerB', harchiveB'⟩ :=
    schedule_in_memory set t₂ b (o := afterA.2.state) (by rw [harchiveA]; exact hmemory)
  rw [Asked.change_of_parsed ha, harchiveB] at hanswerA' harchiveA'
  rw [Asked.change_of_parsed hb, harchiveA] at hanswerB' harchiveB'
  -- Neither group sees what is decided for the other.
  have hseenA := ((scheduling_agrees (.refl rb.people o.archive.store) set).alikeFor hapart)
  have hseenB := ((scheduling_agrees (.refl ra.people o.archive.store) set).alikeFor hapart')
  have hagreesA := scheduling_agrees hseenA set
  have hagreesB := scheduling_agrees hseenB set
  refine ⟨?_, ?_, ?_⟩
  · rw [hanswerA, hanswerA']
    exact hagreesA.sameAnswer
  · rw [hanswerB, hanswerB']
    exact hagreesB.sameAnswer
  · rw [harchiveA', harchiveB']
    exact hagreesA.sameAdditions hagreesB

/-- The office of `Office.saturday`, where Alan is registered too. -/
def Office.saturdayOfTwo : Office :=
  { Office.saturday with archive :=
      { Office.saturday.archive with store := Office.saturday.archive.store.joined "Alan" } }

/-- Ada, who is busy from nine to ten, and Alan ask for the same morning. -/
theorem apart_in_either_order_saturday :
    (Asked.morning 1).parsed 20 =
      .ok (.ok ⟨[1], 30, Moment.saturday 480, Moment.saturday 720⟩) ∧
    (Asked.morning 2).parsed 20 =
      .ok (.ok ⟨[2], 30, Moment.saturday 480, Moment.saturday 720⟩) ∧
    let ada := (Asked.morning 1).schedule Settings.saturday.pipeline .none
    let alan := (Asked.morning 2).schedule Settings.saturday.pipeline .none
    let afterAda := ada.runFrom Office.saturdayOfTwo
    let afterAlan := alan.runFrom Office.saturdayOfTwo
    SameAnswer afterAda.1 (ada.runFrom afterAlan.2.state).1 ∧
      SameAnswer afterAlan.1 (alan.runFrom afterAda.2.state).1 ∧
      Office.saturdayOfTwo.archive.store.SameAdditions
        (alan.runFrom afterAda.2.state).2.state.archive.store
        (ada.runFrom afterAlan.2.state).2.state.archive.store := by
  have hada := Asked.parsed_morning (show (0 : Int) < 1 by decide)
  have halan := Asked.parsed_morning (show (0 : Int) < 2 by decide)
  refine ⟨hada, halan, ?_⟩
  exact apart_in_either_order .saturday .none .none .none .none rfl hada halan (by decide)

end Meetings
