/-
The offsets of times that are read.

* `readRawOffset_lt` — an offset in hours and minutes is below a day;
* **`lenientMoment_offset`** — so is that of every moment that is read, from a
  text or from a count, which is one of UTC.
-/
import Meetings.Lenient.Moment
import Meetings.Proofs.Except

namespace Meetings

theorem readRawOffset_lt {cs : List Char} {offset : Int} (h : readRawOffset cs = some offset) :
    offset.natAbs < 86400 := by
  unfold readRawOffset at h
  split at h
  · cases h
    decide
  · cases h
    decide
  · cases h
    decide
  · simp only [Option.bind_eq_bind, Option.bind_eq_some_iff] at h
    obtain ⟨⟨sign, cs₁⟩, hsign, ⟨hours, cs₂⟩, -, ⟨minutes, cs₃⟩, -, h⟩ := h
    have hsigns : sign = 1 ∨ sign = -1 := by
      unfold readOffsetSign at hsign
      split at hsign
      · cases hsign
        exact .inl rfl
      · cases hsign
        exact .inr rfl
      · cases hsign
        exact .inr rfl
      · cases hsign
    split at h
    · next htotal =>
      cases h
      rcases hsigns with rfl | rfl
      · omega
      · omega
    · cases h

theorem RawDate.moment_offset {d : RawDate} {offset : Int} {time : Nat} {z : Zoned}
    (h : d.moment offset time = .ok z) : z.offset = offset := by
  unfold RawDate.moment at h
  split at h
  · cases h
    rfl
  · cases h

theorem momentOfCount_offset {count : Int} {micro : Nat} {z : Zoned}
    (h : momentOfCount count micro = .ok z) : z.offset = 0 := by
  unfold momentOfCount at h
  split at h
  · cases h
  extract_lets total seconds at h
  split at h
  · cases h
  split at h
  · cases h
  split at h
  · cases h
    rfl
  · cases h

theorem momentOfReal_offset {x : Binary64} {z : Zoned} (h : momentOfReal x = .ok z) :
    z.offset = 0 := by
  unfold momentOfReal at h
  split at h
  · cases h
  · exact momentOfCount_offset h

theorem readTimestampText_offset {s : String} {z : Zoned} (h : readTimestampText s = .ok z) :
    z.offset.natAbs < 86400 := by
  have hzero (hz : z.offset = 0) : z.offset.natAbs < 86400 := by
    rw [hz]
    decide
  unfold readTimestampText at h
  dsimp only at h
  split at h
  · next answer hanswer =>
    subst h
    unfold readDateTime at hanswer
    simp only [Option.bind_eq_bind, Option.bind_eq_some_iff] at hanswer
    obtain ⟨⟨date, cs⟩, -, hanswer⟩ := hanswer
    dsimp only at hanswer
    split at hanswer
    · split at hanswer
      · simp at hanswer
      · simp only [Option.bind_eq_some_iff] at hanswer
        obtain ⟨⟨time, cs'⟩, -, offset, hoffset, hmoment⟩ := hanswer
        rw [RawDate.moment_offset (Option.some.inj hmoment)]
        exact readRawOffset_lt hoffset
    · cases hanswer
  · split at h
    · next count hcount =>
      unfold momentOfCountText at h
      split at h
      · exact hzero (momentOfCount_offset h)
      · exact hzero (momentOfCount_offset h)
    · unfold readDateOnly at h
      obtain ⟨⟨date, rest⟩, -, h⟩ := bind_eq_ok.mp h
      dsimp only at h
      split at h
      · exact hzero (RawDate.moment_offset h)
      · cases h

/-- Every moment that is read has an offset below a day. -/
theorem lenientMoment_offset {v : Json} {z : Zoned} (h : lenientMoment v = .ok z) :
    z.offset.natAbs < 86400 := by
  have hzero (hz : z.offset = 0) : z.offset.natAbs < 86400 := by
    rw [hz]
    decide
  unfold lenientMoment at h
  split at h
  · exact readTimestampText_offset (mapError_eq_ok.mp h)
  · split at h
    · exact hzero (momentOfCount_offset (mapError_eq_ok.mp h))
    · dsimp only at h
      split at h
      · exact hzero (momentOfReal_offset (mapError_eq_ok.mp h))
      · cases h
  · exact hzero (momentOfReal_offset (mapError_eq_ok.mp h))
  · cases h

end Meetings
