/-
Accepted requests are in normal form.

* `MeetingRequest.WrittenIn` — a mapping holds a request in normal form: plain
  whole numbers, and the times as their texts in UTC;
* `MeetingRequest.normal` — the raw value that holds only that;
* `Fields.ofMapping_writtenIn` — such a mapping is read as the request itself;
* **`parse_writtenIn`** — whatever forms the fields of an accepted request had,
  its normal form is accepted again as the same request.

Design notes: the checks of a request see its fields only as they are read, so
the same verdict is reached as soon as the fields are read alike.
-/
import Meetings.Proofs.Lenient.Written
import Meetings.Proofs.Request.Meeting

namespace Meetings.MeetingRequest

variable {limit : Int} {now : Option Zoned} {data : Json} {r : MeetingRequest} {m : Mapping}
  {f : Fields}

/-- A mapping holds a request in normal form: its ids and its duration as plain
whole numbers, its times as texts in UTC. -/
structure WrittenIn (r : MeetingRequest) (m : Mapping) : Prop where
  people : m.field? "participant_ids" = some (.arr (r.people.map .int))
  duration : m.field? "duration_minutes" = some (.int r.duration)
  earliest : ∃ text, IsoText r.earliest text ∧ m.field? "earliest_start" = some (.str text)
  latest : ∃ text, IsoText r.latest text ∧ m.field? "latest_end" = some (.str text)

/-- The fields of a request in normal form. -/
def normalFields (r : MeetingRequest) : Mapping :=
  [("participant_ids", .arr (r.people.map .int)), ("duration_minutes", .int r.duration),
    ("earliest_start", .str r.earliest.iso), ("latest_end", .str r.latest.iso)]

/-- A request in normal form. -/
def normal (r : MeetingRequest) : Json := .obj r.normalFields

theorem writtenIn_normalFields (r : MeetingRequest) : r.WrittenIn r.normalFields where
  people := rfl
  duration := rfl
  earliest := ⟨r.earliest.iso, .offset, rfl⟩
  latest := ⟨r.latest.iso, .offset, rfl⟩

/-- A time in normal form is read as itself. -/
theorem readUtc_isoText {key text : String} {u : Utc} (htext : IsoText u text)
    (hkey : m.field? key = some (.str text)) : readUtc m key = .ok (.ok u) := by
  have hread : readField lenientMoment m key = .ok u.zoned := by
    unfold readField
    rw [hkey]
    exact lenientMoment_isoText htext
  unfold readUtc
  rw [hread]
  show (u.toUtc).map Except.ok = _
  rw [Moment.toUtc_utc]
  rfl

/-- A request in normal form is read as itself. -/
theorem Fields.ofMapping_writtenIn (h : r.WrittenIn m) :
    ofMapping m = .ok (ofValues r.people r.duration r.earliest r.latest) := by
  obtain ⟨start, hstart, hearliest⟩ := h.earliest
  obtain ⟨stop, hstop, hlatest⟩ := h.latest
  have hpeople : readField lenientIntegers m "participant_ids" = .ok r.people := by
    unfold readField
    rw [h.people]
    exact mapM_map_ok fun _ _ => rfl
  have hduration : readField lenientInteger m "duration_minutes" = .ok r.duration := by
    unfold readField
    rw [h.duration]
    rfl
  unfold ofMapping
  rw [readUtc_isoText hstart hearliest, readUtc_isoText hstop hlatest, hpeople, hduration]
  rfl

/-- An accepted request passes the checks again when its fields need no reading. -/
theorem ofFields_ofValues (h : ofFields limit now f = .ok (.ok r)) :
    ofFields limit now (.ofValues r.people r.duration r.earliest r.latest) = .ok (.ok r) := by
  obtain ⟨hrequest, hwindow⟩ := ofFields_eq_ok_iff.mp h
  obtain ⟨⟨-, hpeople⟩, ⟨-, hduration⟩, -, -⟩ := Fields.request_eq_ok_iff.mp hrequest
  have hvalues : (Fields.ofValues r.people r.duration r.earliest r.latest).request limit = .ok r :=
    Fields.request_eq_ok_iff.mpr ⟨⟨rfl, hpeople⟩, ⟨rfl, hduration⟩, rfl, rfl⟩
  exact ofFields_eq_ok_iff.mpr ⟨hvalues, hwindow⟩

/-- **Accepted requests are in normal form.**  Whatever forms its fields had, a
request that was accepted is accepted again from its normal form, as of the same
time and under the same limit, and is the same request: the raw value that holds
nothing else, and every raw value whose fields hold it. -/
theorem parse_writtenIn (h : parse limit now data = .ok (.ok r)) :
    parse limit now r.normal = .ok (.ok r) ∧
      ∀ (again : Json) (m : Mapping), Mapping.ofJson again = .ok m → r.WrittenIn m →
        parse limit now again = .ok (.ok r) := by
  have hagain (again : Json) (m : Mapping) (hm : Mapping.ofJson again = .ok m)
      (hr : r.WrittenIn m) : parse limit now again = .ok (.ok r) := by
    obtain ⟨f, hf⟩ := ofFields_of_parse h
    unfold parse ofMapping
    rw [hm, ok_mapError, ok_bind, Fields.ofMapping_writtenIn hr, ok_bind, ofFields_ofValues hf]
    rfl
  exact ⟨hagain r.normal r.normalFields rfl r.writtenIn_normalFields, hagain⟩

/-- A numeral, a truth value and a number with a point as ids, a duration with a
fraction of zeros, a time two hours east and a count of milliseconds. -/
def laxForms : Json :=
  .obj [("participant_ids", .arr [.str " 2 ", .bool true, .real (.ofInt 3)]),
    ("duration_minutes", .str "+060.0"), ("earliest_start", .str "2024-06-15 11:00:00.5+02:00"),
    ("latest_end", .int 1718463600000)]

/-- What these forms stand for. -/
def laxRequest : MeetingRequest where
  people := [2, 1, 3]
  duration := 60
  earliest := ⟨(Moment.saturday 540).wall + 500000, by decide, by decide⟩
  latest := Moment.saturday 900

theorem parse_writtenIn_lax :
    parse 50 none laxForms = .ok (.ok laxRequest) ∧
    laxRequest.earliest.iso = "2024-06-15T09:00:00.500000+00:00" ∧
    Utc.zulu laxRequest.latest = "2024-06-15T15:00:00Z" ∧
    parse 50 none (.obj [("participant_ids", .arr [.int 2, .int 1, .int 3]),
        ("duration_minutes", .int 60), ("earliest_start", .str "2024-06-15T09:00:00.500000+00:00"),
        ("latest_end", .str "2024-06-15T15:00:00Z")]) = .ok (.ok laxRequest) := by
  have hlax : parse 50 none laxForms = .ok (.ok laxRequest) := by decide +kernel
  have hstart : laxRequest.earliest.iso = "2024-06-15T09:00:00.500000+00:00" := by decide +kernel
  have hstop : Utc.zulu laxRequest.latest = "2024-06-15T15:00:00Z" := by cbv
  refine ⟨hlax, hstart, hstop, (parse_writtenIn hlax).2 _ _ rfl ⟨rfl, rfl, ?_, ?_⟩⟩
  · exact ⟨_, .offset, by rw [hstart]; rfl⟩
  · exact ⟨_, .zulu, by rw [hstop]; rfl⟩

end Meetings.MeetingRequest
