/-
Text in ASCII as bytes and as lines.

* `utf8EncodeChar_ascii`, `decodeFrom_ascii` — a character is one byte;
* **`decodeUtf8_encodeUtf8`** — text in ASCII is read back from its bytes;
* `unifyLines_of_ne` — text without the return character keeps its lines.
-/
import Meetings.Text.Lines
import Meetings.Text.Utf8

namespace Meetings.Text

theorem utf8EncodeChar_ascii {c : Char} (h : c.toNat < 0x80) :
    String.utf8EncodeChar c = [UInt8.ofNat c.toNat] := by
  have h : c.val.toNat ≤ 0x7F := Nat.le_of_lt_succ h
  simp only [String.utf8EncodeChar, if_pos h]
  rfl

theorem decodeFrom_ascii {c : Char} (h : c.toNat < 0x80) (found : List Char) (pos : Nat)
    (bytes : List UInt8) :
    decodeFrom found pos (UInt8.ofNat c.toNat :: bytes) =
      decodeFrom (c :: found) (pos + 1) bytes := by
  have hbyte : (UInt8.ofNat c.toNat).toNat = c.toNat := by
    rw [UInt8.toNat_ofNat']
    omega
  have hlength : sequenceLength (UInt8.ofNat c.toNat) = some 1 := by
    rw [sequenceLength, if_pos]
    rw [UInt8.lt_iff_toNat_lt, hbyte]
    exact h
  rw [decodeFrom, hlength]
  simp only [Nat.sub_self, List.take_zero, List.drop_zero, goodTail, Nat.zero_add, if_true,
    codePoint, hbyte, Char.ofNat_toNat]

/-- Text in ASCII is read back from its bytes. -/
theorem decodeUtf8_encodeUtf8 {s : String} (h : ∀ c ∈ s.toList, c.toNat < 0x80) :
    decodeUtf8 (encodeUtf8 s) = .ok s := by
  have hchars (cs found : List Char) (pos : Nat) (hcs : ∀ c ∈ cs, c.toNat < 0x80) :
      decodeFrom found pos (cs.flatMap String.utf8EncodeChar) = .ok (found.reverse ++ cs) := by
    induction cs generalizing found pos with
    | nil => rw [List.flatMap_nil, decodeFrom, List.append_nil]
    | cons c cs ih =>
      have hc := hcs c List.mem_cons_self
      rw [List.flatMap_cons, utf8EncodeChar_ascii hc, List.singleton_append, decodeFrom_ascii hc,
        ih _ _ fun d hd => hcs d (List.mem_cons_of_mem _ hd), List.reverse_cons, List.append_assoc]
      rfl
  rw [decodeUtf8, encodeUtf8, hchars s.toList [] 0 h]
  show Except.ok (String.ofList s.toList) = .ok s
  rw [String.ofList_toList]

/-- Text without the return character has no line breaks to unify. -/
theorem unifyLines_of_ne {cs : List Char} (h : ∀ c ∈ cs, c ≠ '\r') : unifyLines cs = cs := by
  induction cs with
  | nil => rfl
  | cons c cs ih =>
    have hc := h c List.mem_cons_self
    rw [unifyLines, ih fun d hd => h d (List.mem_cons_of_mem _ hd)]
    · rintro t rfl
      exact absurd rfl hc
    · rintro rfl
      exact absurd rfl hc

end Meetings.Text
