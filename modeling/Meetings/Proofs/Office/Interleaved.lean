/-
Bookings of runs that interleave are accounted for.

* `Stage.Fits` — how far a run has come fits what has happened;
* `Traced` — the store holds what there was and what was added, and every run
  fits; `Traced.turn`, `Traced.join` and `Traced.after` keep this;
* `World.Accounted` — every booking that a run answers with is stored once, under
  an id of its own, and collides with another one only if both runs looked before
  the other one had added;
* **`interleaved_bookings_accounted`** — this holds at every point.

Design notes: what a run has looked up may be out of date when it comes to add.
So the invariant compares it with the bookings there were when the run looked,
and what has happened is a list whose beginnings are these points of time.
-/
import Meetings.Proofs.Archive.Calls
import Meetings.Proofs.Office.Growth
import Meetings.Proofs.Office.Runs

namespace Meetings

open Archive (replaced)

variable {sets : Nat → Settings} {w : World} {s : Store} {i j : Nat} {b c : Booking}
  {history more : List Mark} {stage : Stage}

/-! ### What has happened -/

/-- The bookings that were added. -/
def made (history : List Mark) : List Booking := history.filterMap Mark.booking?

@[simp] theorem made_append : made (history ++ more) = made history ++ made more :=
  List.filterMap_append

theorem mem_made : b ∈ made history ↔ ∃ i, .added i b ∈ history := by
  rw [made, List.mem_filterMap]
  constructor
  · rintro ⟨_ | ⟨i, c⟩, hm, hb⟩
    · cases hb
    · cases hb
      exact ⟨i, hm⟩
  · rintro ⟨i, hm⟩
    exact ⟨_, hm, rfl⟩

/-- A run has looked, and the bookings that were stored by then are as said. -/
def LookedAt (s : Store) (history : List Mark) (i : Nat) (stored : List Booking → Prop) : Prop :=
  ∃ before after, history = before ++ .looked i :: after ∧ stored (s.bookings ++ made before)

theorem LookedAt.append {stored : List Booking → Prop} (h : LookedAt s history i stored)
    (more : List Mark) : LookedAt s (history ++ more) i stored := by
  obtain ⟨before, after, rfl, hstored⟩ := h
  exact ⟨before, after ++ more, by rw [List.append_assoc, List.cons_append], hstored⟩

/-- How far a run has come fits what has happened, from a store on.  What a run
has found is, within its window, as good as the bookings there were when it
looked; and what it has made collides with none of these. -/
def Stage.Fits (s : Store) (history : List Mark) (i : Nat) : Stage → Prop
  | waiting _ | entered _ _ => .looked i ∉ history ∧ ∀ b, .added i b ∉ history
  | looked r _ found => (∀ b, .added i b ∉ history) ∧ LookedAt s history i fun stored =>
      SameWithin (r.people.map .number) r.earliest.zoned.instant r.latest.zoned.instant found
        (commitmentsOf stored)
  | ended (.ok (.ok view)) => .added i view.booking ∈ history ∧
      (∀ b, .added i b ∈ history → b = view.booking) ∧ LookedAt s history i fun stored =>
        ∀ c ∈ stored, c.commitment.conflicts view.booking.commitment = false
  | ended _ => ∀ b, .added i b ∉ history

theorem Stage.Fits.not_added (h : stage.Fits s history i)
    (hanswer : ∀ view, stage ≠ .ended (.ok (.ok view))) : ∀ b, .added i b ∉ history := by
  unfold Fits at h
  split at h
  · exact h.2
  · exact h.2
  · exact h.1
  · exact absurd rfl (hanswer _)
  · exact h

theorem Stage.Fits.append (h : stage.Fits s history i) (hmore : ∀ m ∈ more, m.run ≠ i) :
    stage.Fits s (history ++ more) i := by
  have hnot {m : Mark} (hrun : m.run = i) (hm : m ∈ history ++ more) : m ∈ history := by
    rcases List.mem_append.mp hm with hm | hm
    · exact hm
    · exact absurd hrun (hmore m hm)
  have hnone (h : ∀ b, .added i b ∉ history) : ∀ b, .added i b ∉ history ++ more :=
    fun b hb => h b (hnot rfl hb)
  unfold Fits at h ⊢
  split at h
  · exact ⟨fun hm => h.1 (hnot rfl hm), hnone h.2⟩
  · exact ⟨fun hm => h.1 (hnot rfl hm), hnone h.2⟩
  · exact ⟨hnone h.1, h.2.append more⟩
  · obtain ⟨hadded, honly, hlooked⟩ := h
    exact ⟨List.mem_append_left _ hadded, fun b hb => honly b (hnot rfl hb), hlooked.append more⟩
  · exact hnone h

/-- The store holds what there was and what was added, under ids that were given
one after another; nothing has happened twice; and every run fits. -/
structure Traced (s : Store) (w : World) : Prop where
  memory : w.office.archive.file = none
  bookings : w.bookings = s.bookings ++ made w.history
  counted : s.nextBooking ≤ w.office.archive.store.nextBooking
  ids : ∀ b ∈ made w.history, ∃ id, b.id = some id ∧ s.nextBooking ≤ id ∧
    id < w.office.archive.store.nextBooking
  distinct : ((made w.history).map (·.id)).Nodup
  once : w.history.Nodup
  fits : ∀ i, (w.runs i).Fits s w.history i

theorem traced_start (s : Store) (disk : Disk) (outbox : List Delivery)
    (requests : Nat → MeetingRequest) : Traced s (World.start s disk outbox requests) where
  memory := rfl
  bookings := (List.append_nil _).symm
  counted := Int.le_refl _
  ids := fun _ hb => absurd hb List.not_mem_nil
  distinct := List.nodup_nil
  once := List.nodup_nil
  fits := fun _ => ⟨List.not_mem_nil, fun _ => List.not_mem_nil⟩

theorem fits_update {runs : Nat → Stage} (h : ∀ j, (runs j).Fits s history j)
    (hmore : ∀ m ∈ more, m.run = i) (hstage : stage.Fits s (history ++ more) i) :
    ∀ j, (Function.update runs i stage j).Fits s (history ++ more) j := by
  intro j
  by_cases hj : j = i
  · subst hj
    rw [Function.update_self]
    exact hstage
  · rw [Function.update_of_ne hj]
    refine (h j).append ?_
    intro m hm hrun
    exact hj (hrun.symm.trans (hmore m hm))

theorem Traced.quiet (h : Traced s w) (hstage : stage.Fits s w.history i) :
    Traced s ⟨w.office, Function.update w.runs i stage, w.history ++ []⟩ := by
  have hfits : ∀ j, (Function.update w.runs i stage j).Fits s (w.history ++ []) j :=
    fits_update h.fits (by simp) (by rwa [List.append_nil])
  rw [List.append_nil] at hfits ⊢
  exact { h with fits := hfits }

/-- A run that looks leaves the bookings alone, and finds those there are. -/
theorem Traced.look {r : MeetingRequest} {known : List Participant}
    {found : List (Option Commitment)} (h : Traced s w)
    (hrun : (Stage.entered r known).Fits s w.history i)
    (hfound : w.office.archive.store.inTheWay r.people r.earliest.zoned r.latest.zoned =
      .ok found) :
    Traced s ⟨w.office, Function.update w.runs i (.looked r known found),
      w.history ++ [.looked i]⟩ := by
  obtain ⟨hlooked, hadded⟩ := hrun
  have hmade : made (w.history ++ [.looked i]) = made w.history := by
    rw [made_append]
    exact List.append_nil _
  exact {
    memory := h.memory
    bookings := hmade.symm ▸ h.bookings
    counted := h.counted
    ids := hmade.symm ▸ h.ids
    distinct := hmade.symm ▸ h.distinct
    once := h.once.append (List.nodup_singleton _) (by simpa using hlooked)
    fits := by
      refine fits_update h.fits (by simp [Mark.run]) ⟨?_, w.history, [], rfl, ?_⟩
      · simpa using hadded
      · -- The history so far is the point of time the run refers to from now on.
        rw [← h.bookings]
        exact Store.sameWithin_of_inTheWay hfound }

/-- The booking of a slot that is found among what was looked up: it collides with
nothing there was when the run looked. -/
theorem LookedAt.free {r : MeetingRequest} {found : List (Option Commitment)} {g : Grid}
    {slot stop : Utc} (hq : 0 < g.quantum)
    (h : LookedAt s history i fun stored =>
      SameWithin (r.people.map .number) r.earliest.zoned.instant r.latest.zoned.instant found
        (commitmentsOf stored))
    (hslot : slotAmong g r.people (some r.duration) r.earliest.zoned r.latest.zoned found =
      .ok (some slot))
    (hstop : slot.plusMinutes r.duration = .ok stop) :
    LookedAt s history i fun stored => ∀ c ∈ stored,
      c.commitment.conflicts (Booking.commitment ⟨none, r.people.map .number, slot, stop⟩) =
        false := by
  obtain ⟨before, after, hhistory, hsame⟩ := h
  refine ⟨before, after, hhistory, ?_⟩
  rw [slotAmong_congr hq hsame] at hslot
  obtain ⟨stop', hstop', hfree⟩ := slotAmong_free hslot
  rw [hstop] at hstop'
  cases hstop'
  exact hfree

/-- A run that adds a booking gives it the next id. -/
theorem Traced.book {set : Settings} {o' : Office} {r : MeetingRequest} {known : List Participant}
    {found : List (Option Commitment)} {slot stop : Utc} {view : BookingView} (h : Traced s w)
    (hq : 0 < set.grid.quantum) (hrun : (Stage.looked r known found).Fits s w.history i)
    (hslot : slotAmong set.grid r.people (some r.duration) r.earliest.zoned r.latest.zoned found =
      .ok (some slot))
    (hstop : slot.plusMinutes r.duration = .ok stop)
    (hview : view.booking =
      w.office.archive.store.saved ⟨none, r.people.map .number, slot, stop⟩)
    (hafter : o'.archive = { w.office.archive with
      store := w.office.archive.store.booked ⟨none, r.people.map .number, slot, stop⟩ }) :
    Traced s ⟨o', Function.update w.runs i (.ended (.ok (.ok view))),
      w.history ++ [.added i view.booking]⟩ := by
  obtain ⟨hadded, hlooked⟩ := hrun
  have hmade : made (w.history ++ [.added i view.booking]) = made w.history ++ [view.booking] :=
    made_append
  have hid : view.booking.id = some w.office.archive.store.nextBooking := by rw [hview]; rfl
  have hnext : o'.archive.store.nextBooking = w.office.archive.store.nextBooking + 1 := by
    rw [hafter]
    rfl
  exact {
    memory := by
      show o'.archive.file = none
      rw [hafter]
      exact h.memory
    bookings := by
      show o'.archive.store.bookings = _
      rw [hafter, hmade, ← List.append_assoc, ← h.bookings, hview]
      rfl
    counted := by
      show _ ≤ o'.archive.store.nextBooking
      rw [hnext]
      exact Int.le_trans h.counted (Int.le_of_lt (Int.lt_succ _))
    ids := by
      rw [hmade]
      show ∀ b ∈ _, ∃ id, _ ∧ _ ∧ id < o'.archive.store.nextBooking
      rw [hnext]
      intro b hb
      rcases List.mem_append.mp hb with hb | hb
      · obtain ⟨id, hid, hle, hlt⟩ := h.ids b hb
        exact ⟨id, hid, hle, Int.lt_trans hlt (Int.lt_succ _)⟩
      · rw [List.mem_singleton.mp hb]
        exact ⟨_, hid, h.counted, Int.lt_succ _⟩
    distinct := by
      rw [hmade, List.map_append]
      refine h.distinct.append (List.nodup_singleton _) ?_
      -- All ids that were given are below the next one.
      intro id hold hnew
      obtain ⟨b, hb, rfl⟩ := List.mem_map.mp hold
      obtain ⟨id, hbid, -, hlt⟩ := h.ids b hb
      have hsame : b.id = view.booking.id := List.mem_singleton.mp hnew
      rw [hbid, hid] at hsame
      exact absurd hlt (Option.some.inj hsame ▸ Int.lt_irrefl _)
    once := h.once.append (List.nodup_singleton _) (by simpa using hadded _)
    fits := by
      refine fits_update h.fits (by simp [Mark.run]) ⟨by simp, ?_, ?_⟩
      · intro b hb
        rcases List.mem_append.mp hb with hb | hb
        · exact absurd hb (hadded b)
        · exact (Mark.added.inj (List.mem_singleton.mp hb)).2
      · rw [hview]
        exact (hlooked.free hq hslot hstop).append _ }

/-- **A step of a run keeps a world traced.** -/
theorem Traced.turn {set : Settings} {o' : Office} {marks : List Mark} (h : Traced s w)
    (hq : 0 < set.grid.quantum)
    (hturn : Turn set w.office i (w.runs i) stage o' marks) :
    Traced s ⟨o', Function.update w.runs i stage, w.history ++ marks⟩ := by
  have hrun := h.fits i
  generalize w.runs i = before at hturn hrun
  cases hturn with
  | enter => exact h.quiet hrun
  | rest => exact h.quiet hrun
  | look hfound => exact h.look hrun hfound
  | book hslot hstop hview hafter => exact h.book hq hrun hslot hstop hview hafter
  | @stop _ answer hrunning hanswer =>
    refine h.quiet ?_
    -- Only a run that answers with a booking has added one.
    unfold Stage.Fits
    split
    · next heq => cases heq
    · next heq => cases heq
    · next heq => cases heq
    · next heq => exact absurd (Stage.ended.inj heq) (hanswer _)
    · exact hrun.not_added fun view => hrunning _

theorem Traced.advance (h : Traced s w) (hq : ∀ i, 0 < (sets i).grid.quantum) (i : Nat) :
    Traced s (w.moved sets (.advance i)) :=
  h.turn (hq i) (turn_next (sets i) i (w.runs i) h.memory)

theorem add_person (o : Office) (p : Participant) :
    let o' := ((Office.peopleStore.add p).runFrom o).2.state
    o'.archive.file = o.archive.file ∧
      o'.archive.store.bookings = o.archive.store.bookings ∧
      o'.archive.store.nextBooking = o.archive.store.nextBooking := by
  cases hid : p.id with
  | some id =>
    have hadd := gives_onArchive (Archive.gives_addParticipant_assigned o.archive hid)
    rw [Office.peopleStore, hadd.runFrom.2]
    exact ⟨rfl, rfl, rfl⟩
  | none =>
    have hadd := gives_onArchive (gives_addParticipant o.archive hid)
    rw [Office.peopleStore, hadd.runFrom.2]
    obtain ⟨hstore, hfile⟩ :=
      Archive.kept_store { o.archive with store := o.archive.store.joined p.name }
    dsimp only
    rw [replaced, hstore, hfile]
    exact ⟨rfl, rfl, rfl⟩

theorem Traced.join (h : Traced s w) (p : Participant) : Traced s (w.moved sets (.join p)) := by
  obtain ⟨hfile, hbookings, hnext⟩ := add_person w.office p
  exact { h with
    memory := hfile.trans h.memory
    bookings := hbookings.trans h.bookings
    counted := by
      show _ ≤ (w.moved sets (.join p)).office.archive.store.nextBooking
      rw [World.moved, hnext]
      exact h.counted
    ids := by
      intro b hb
      obtain ⟨id, hid, hle, hlt⟩ := h.ids b hb
      refine ⟨id, hid, hle, ?_⟩
      rw [World.moved, hnext]
      exact hlt }

theorem Traced.after (h : Traced s w) (hq : ∀ i, 0 < (sets i).grid.quantum) (moves : List Move) :
    Traced s (w.after sets moves) := by
  induction moves generalizing w with
  | nil => exact h
  | cons move rest ih =>
    cases move with
    | advance i => exact ih (h.advance hq i)
    | join p => exact ih (h.join p)

/-! ### What becomes of bookings -/

/-- One thing happened before another. -/
def Before (history : List Mark) (m m' : Mark) : Prop := [m, m'].Sublist history

/-- The bookings of runs, and those that were stored before, are accounted for. -/
structure World.Accounted (s : Store) (w : World) : Prop where
  /-- A booking that a run has made is stored exactly once. -/
  stored : ∀ i b, w.Made i b → w.bookings.count b = 1
  /-- It has an id that no other one has. -/
  distinct : ∀ i j b c, w.Made i b → w.Made j c → i ≠ j → b.id ≠ c.id
  new : ∀ i b, w.Made i b → ∀ c ∈ s.bookings, c.id ≠ b.id
  /-- It collides with none of those that were stored before. -/
  free : ∀ i b, w.Made i b → ∀ c ∈ s.bookings, c.commitment.conflicts b.commitment = false
  /-- Nothing happens twice, so that of two things one comes before the other. -/
  once : w.history.Nodup
  /-- If the bookings of two runs collide, each of them looked before the other
  one had added. -/
  races : ∀ i j b c, w.Made i b → w.Made j c → b.commitment.conflicts c.commitment = true →
    Before w.history (.looked i) (.added j c) ∧ Before w.history (.looked j) (.added i b)
  /-- If two stored bookings collide, two runs have made them. -/
  others : w.bookings.Pairwise fun b c => b.commitment.conflicts c.commitment = true →
    ∃ i j, i ≠ j ∧ w.Made i b ∧ w.Made j c

theorem Traced.made_iff (h : Traced s w) : w.Made i b ↔ .added i b ∈ w.history := by
  have hfits := h.fits i
  constructor
  · rintro ⟨view, hrun, rfl⟩
    rw [hrun] at hfits
    exact hfits.1
  · intro hadded
    by_cases hended : ∃ view, w.runs i = .ended (.ok (.ok view))
    · obtain ⟨view, hrun⟩ := hended
      rw [hrun] at hfits
      exact ⟨view, hrun, (hfits.2.1 b hadded).symm⟩
    · exact absurd hadded (hfits.not_added (fun view hrun => hended ⟨view, hrun⟩) b)

theorem Traced.lookedAt (h : Traced s w) (hb : w.Made i b) :
    LookedAt s w.history i fun stored =>
      ∀ c ∈ stored, c.commitment.conflicts b.commitment = false := by
  obtain ⟨view, hrun, rfl⟩ := hb
  have hfits := h.fits i
  rw [hrun] at hfits
  exact hfits.2.2

/-- A booking that collides with that of a run was added after the run looked. -/
theorem Traced.before (h : Traced s w) (hb : w.Made i b) (hc : w.Made j c)
    (hconf : c.commitment.conflicts b.commitment = true) :
    Before w.history (.looked i) (.added j c) := by
  obtain ⟨before, after, hhistory, hfree⟩ := h.lookedAt hb
  have hadded := h.made_iff.mp hc
  rw [hhistory] at hadded ⊢
  rcases List.mem_append.mp hadded with hearly | hlate
  · have hstored := hfree c (List.mem_append_right _ (mem_made.mpr ⟨j, hearly⟩))
    rw [hconf] at hstored
    cases hstored
  · rcases List.mem_cons.mp hlate with heq | hlate
    · cases heq
    · exact (List.cons_sublist_cons.mpr (List.singleton_sublist.mpr hlate)).trans
        (List.sublist_append_right _ _)

/-- What was added has two ids, if anything. -/
def Mark.Apart (m m' : Mark) : Prop := ∀ b ∈ m.booking?, ∀ c ∈ m'.booking?, b.id ≠ c.id

instance : Std.Symm Mark.Apart where
  symm _ _ h c hc b hb heq := h b hb c hc heq.symm

theorem Traced.id_ne (h : Traced s w) (hb : w.Made i b) (hc : w.Made j c) (hne : i ≠ j) :
    b.id ≠ c.id := by
  have hpairs : w.history.Pairwise Mark.Apart :=
    List.pairwise_filterMap.mp (List.pairwise_map.mp h.distinct)
  have hmarks : Mark.added i b ≠ .added j c := fun heq => hne (Mark.added.inj heq).1
  exact hpairs.forall (h.made_iff.mp hb) (h.made_iff.mp hc) hmarks b rfl c rfl

/-- The booking of a run is a new one. -/
theorem Traced.new (h : Traced s w) (hs : s.Valid) (hb : w.Made i b) :
    ∀ c ∈ s.bookings, c.id ≠ b.id := by
  intro c hc heq
  obtain ⟨id, hid, hlt⟩ := hs.bookingIds c hc
  obtain ⟨id', hid', hle, -⟩ := h.ids b (mem_made.mpr ⟨i, h.made_iff.mp hb⟩)
  rw [hid, hid'] at heq
  cases heq
  exact absurd hlt (Int.not_lt.mpr hle)

theorem Traced.free (h : Traced s w) (hb : w.Made i b) :
    ∀ c ∈ s.bookings, c.commitment.conflicts b.commitment = false := by
  obtain ⟨before, after, -, hstored⟩ := h.lookedAt hb
  intro c hc
  exact hstored c (List.mem_append_left _ hc)

theorem World.Made.eq (hb : w.Made i b) (hc : w.Made i c) : b = c := by
  obtain ⟨view, hrun, rfl⟩ := hb
  obtain ⟨view', hrun', rfl⟩ := hc
  rw [hrun] at hrun'
  cases hrun'
  rfl

theorem Traced.others (h : Traced s w) (hfree : s.ConflictFree) :
    w.bookings.Pairwise fun b c => b.commitment.conflicts c.commitment = true →
      ∃ i j, i ≠ j ∧ w.Made i b ∧ w.Made j c := by
  rw [h.bookings]
  refine List.pairwise_append.mpr ⟨?_, ?_, ?_⟩
  · refine hfree.imp ?_
    intro b c hnot hconf
    rw [hnot] at hconf
    cases hconf
  · refine (h.distinct.of_map _).pairwise_of_forall_ne ?_
    intro b hb c hc hne _
    obtain ⟨i, hi⟩ := mem_made.mp hb
    obtain ⟨j, hj⟩ := mem_made.mp hc
    refine ⟨i, j, ?_, h.made_iff.mpr hi, h.made_iff.mpr hj⟩
    -- A run makes one booking.
    rintro rfl
    exact hne ((h.made_iff.mpr hi).eq (h.made_iff.mpr hj))
  · intro b hb c hc hconf
    obtain ⟨i, hi⟩ := mem_made.mp hc
    rw [h.free (h.made_iff.mpr hi) b hb] at hconf
    cases hconf

theorem Traced.accounted (h : Traced s w) (hs : s.Valid) (hfree : s.ConflictFree) :
    w.Accounted s where
  stored := by
    intro i b hb
    have hnot : b ∉ s.bookings := fun hmem => h.new hs hb b hmem rfl
    rw [h.bookings, List.count_append, List.count_eq_zero_of_not_mem hnot,
      List.count_eq_one_of_mem (h.distinct.of_map _) (mem_made.mpr ⟨i, h.made_iff.mp hb⟩)]
  distinct := fun i j b c hb hc hne => h.id_ne hb hc hne
  new := fun i b hb => h.new hs hb
  free := fun i b hb => h.free hb
  once := h.once
  races := by
    intro i j b c hb hc hconf
    exact ⟨h.before hb hc (Commitment.conflicts_comm _ _ ▸ hconf), h.before hc hb hconf⟩
  others := h.others hfree

theorem World.history_prefix (sets : Nat → Settings) (w : World) (moves : List Move) :
    w.history <+: (w.after sets moves).history := by
  induction moves generalizing w with
  | nil => exact List.prefix_refl _
  | cons move rest ih =>
    refine List.IsPrefix.trans ?_ (ih (w.moved sets move))
    cases move with
    | advance i => exact List.prefix_append _ _
    | join p => exact List.prefix_refl _

/-- **Bookings of runs that interleave are accounted for.**  From a store in
memory without conflicts, whatever comes between the steps of a run: its booking
is stored exactly once, under an id of its own, and is never lost; it collides
with no booking that was stored before, and with that of another run only if
both had looked before the other one added. -/
theorem interleaved_bookings_accounted (hs : s.Valid) (hfree : s.ConflictFree)
    (hq : ∀ i, 0 < (sets i).grid.quantum) (disk : Disk) (outbox : List Delivery)
    (requests : Nat → MeetingRequest) (moves : List Move) :
    ((World.start s disk outbox requests).after sets moves).Accounted s ∧
      ∀ done, done <+: moves →
        ((World.start s disk outbox requests).after sets done).bookings <+:
          ((World.start s disk outbox requests).after sets moves).bookings := by
  have htraced (moves : List Move) :
      Traced s ((World.start s disk outbox requests).after sets moves) :=
    (traced_start s disk outbox requests).after hq moves
  refine ⟨(htraced moves).accounted hs hfree, ?_⟩
  rintro done ⟨rest, rfl⟩
  have hprefix : ((World.start s disk outbox requests).after sets done).history <+:
      ((World.start s disk outbox requests).after sets (done ++ rest)).history := by
    rw [World.after, World.after, List.foldl_append]
    exact World.history_prefix sets _ rest
  rw [(htraced done).bookings, (htraced (done ++ rest)).bookings, List.prefix_append_right_inj]
  exact hprefix.filterMap _

/-! ### A double booking -/

/-- An hour of a Saturday, between nine and twelve, for Ada. -/
def hourForAda : MeetingRequest := ⟨[1], 60, Moment.saturday 540, Moment.saturday 720⟩

/-- Two runs look for an hour for Ada, and then both book it. -/
def bothBookAda : World :=
  (World.start (Store.empty.joined "Ada") ⟨[], [], none, []⟩ [] fun _ => hourForAda).after
    (fun _ => .saturday)
    [.advance 0, .advance 0, .advance 1, .advance 1, .join ⟨none, "Bob"⟩, .advance 0, .advance 1]

/-- Ada is booked twice, and each run had looked before the other one added. -/
theorem interleaved_bookings_accounted_ada :
    let b : Booking := { Office.hourOfAda with id := some 1 }
    let c : Booking := { Office.hourOfAda with id := some 2 }
    bothBookAda.Made 0 b ∧ bothBookAda.Made 1 c ∧ b.commitment.conflicts c.commitment = true ∧
      Before bothBookAda.history (.looked 0) (.added 1 c) ∧
      Before bothBookAda.history (.looked 1) (.added 0 b) := by
  intro b c
  have hb : bothBookAda.Made 0 b := ⟨⟨b, [⟨some 1, "Ada"⟩]⟩, by cbv, rfl⟩
  have hc : bothBookAda.Made 1 c := ⟨⟨c, [⟨some 1, "Ada"⟩]⟩, by cbv, rfl⟩
  have hconf : b.commitment.conflicts c.commitment = true := by decide
  have haccounted : bothBookAda.Accounted (Store.empty.joined "Ada") :=
    (interleaved_bookings_accounted (Store.empty_valid.joined (by decide)) List.Pairwise.nil
      (fun _ => by decide) _ _ _ _).1
  exact ⟨hb, hc, hconf, haccounted.races 0 1 b c hb hc hconf⟩

end Meetings
