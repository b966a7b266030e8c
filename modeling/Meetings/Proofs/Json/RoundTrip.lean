/-
A document is read as it was written.

* `Plain` — the values that are read back, a derivation by the shape of a value;
* `ReadsBack` — a value is read back wherever its text stands;
* `items_prettyItems`, `fields_prettyFields` — arrays and objects, once their
  parts are read back;
* **`Plain.readsBack`**, **`read_pretty`** — every plain value is, and so is a
  whole document.

Design notes: the length of the text bounds the fuel that the reader needs.
-/
import Meetings.Proofs.Json.Number
import Meetings.Proofs.Json.Text

namespace Meetings.Json

open Meetings.Text

variable {rest : List Char}

/-! ### Values -/

/-- A value that is read back from its text: its whole numbers are not too long
and the others are numbers of the format, no object has a key twice, and it is
nested no deeper than `depth`. -/
inductive Plain : Nat → Json → Prop where
  | null {depth : Nat} : Plain depth .null
  | bool {depth : Nat} {b : Bool} : Plain depth (.bool b)
  | int {depth : Nat} {n : Int} (short : overlong n = false) : Plain depth (.int n)
  | real {depth : Nat} {x : Binary64} (fits : x.Fits) : Plain depth (.real x)
  | str {depth : Nat} {s : String} : Plain depth (.str s)
  | arr {depth : Nat} {items : List Json} (each : ∀ v ∈ items, Plain depth v) :
    Plain (depth + 1) (.arr items)
  | obj {depth : Nat} {fields : List (String × Json)} (keys : (fields.map (·.1)).Nodup)
    (each : ∀ f ∈ fields, Plain depth f.2) : Plain (depth + 1) (.obj fields)

/-- A value is read back at any level of nesting. -/
def ReadsBack (depth : Nat) (v : Json) : Prop :=
  ∀ level fuel rest, (prettyChars level v).length ≤ fuel → Ends rest →
    value fuel depth (prettyChars level v ++ rest) = .ok (v, rest)

theorem skipSpace_newline (level : Nat) : skipSpace (newline level ++ rest) = skipSpace rest := by
  have hspaces (k : Nat) : skipSpace (List.replicate k ' ' ++ rest) = skipSpace rest := by
    induction k with
    | zero => rfl
    | succ k ih => exact ih
  exact hspaces (2 * level)

theorem skipSpace_cons {c : Char} (h : isSpace c = false) : skipSpace (c :: rest) = c :: rest := by
  rw [skipSpace, List.dropWhile_cons, h]
  rfl

theorem HeadsNumber.notMark {c : Char} (h : HeadsNumber c) :
    isSpace c = false ∧ c ≠ ']' ∧ c ≠ '\ufeff' := by
  refine ⟨?_, h.ne (by decide) (by decide), h.ne (by decide) (by decide)⟩
  simp [isSpace, h.ne (by decide : isDigit ' ' = false) (by decide),
    h.ne (by decide : isDigit '\n' = false) (by decide),
    h.ne (by decide : isDigit '\r' = false) (by decide),
    h.ne (by decide : isDigit '\t' = false) (by decide)]

/-- The text of a value starts with no space, no closing bracket and no mark of
the byte order. -/
theorem Plain.head {depth : Nat} {v : Json} (h : Plain depth v) (level : Nat) :
    ∃ c t, prettyChars level v = c :: t ∧ isSpace c = false ∧ c ≠ ']' ∧ c ≠ '\ufeff' := by
  cases h with
  | null => exact ⟨'n', _, rfl, by decide, by decide, by decide⟩
  | @bool _ b =>
    cases b
    · exact ⟨'f', _, rfl, by decide, by decide, by decide⟩
    · exact ⟨'t', _, rfl, by decide, by decide, by decide⟩
  | @int _ n short =>
    obtain ⟨c, t, hn, hc⟩ := int_head n
    exact ⟨c, t, hn, hc.notMark⟩
  | @real _ x fits =>
    obtain ⟨c, t, hx, hc⟩ := real_head fits
    exact ⟨c, t, hx, hc.notMark⟩
  | str => exact ⟨'\x22', _, rfl, by decide, by decide, by decide⟩
  | @arr _ items each =>
    cases items with
    | nil => exact ⟨'[', _, rfl, by decide, by decide, by decide⟩
    | cons item rest => exact ⟨'[', _, rfl, by decide, by decide, by decide⟩
  | @obj _ fields keys each =>
    cases fields with
    | nil => exact ⟨'\x7b', _, rfl, by decide, by decide, by decide⟩
    | cons f rest => exact ⟨'\x7b', _, rfl, by decide, by decide, by decide⟩

/-- Behind an item or a field there is a comma, or the line break before the end. -/
theorem ends_prettyItems (level outer : Nat) (items : List Json) (close : List Char) :
    Ends (prettyItems level items ++ (newline outer ++ close)) := by
  cases items with
  | nil => exact .inr (.inr ⟨_, rfl⟩)
  | cons item rest => exact .inr (.inl ⟨_, by rw [prettyItems]; rfl⟩)

/-- The items of an array are read back one after another. -/
theorem items_prettyItems {depth : Nat} {item : Json} {items : List Json}
    (hplain : ∀ v ∈ items, Plain depth v) (hitem : ReadsBack depth item)
    (hback : ∀ v ∈ items, ReadsBack depth v) (level outer fuel : Nat) (found : List Json)
    (rest : List Char)
    (hfuel : (prettyChars level item ++ prettyItems level items).length < fuel) :
    Json.items fuel depth found (prettyChars level item ++
        (prettyItems level items ++ (newline outer ++ ']' :: rest))) =
      .ok (.arr (found.reverse ++ item :: items), rest) := by
  -- On the items that follow; each one read goes to `found` and takes one of the fuel.
  induction items generalizing item fuel found with
  | nil =>
    obtain ⟨fuel, rfl⟩ := Nat.exists_eq_add_one_of_ne_zero (Nat.ne_of_gt (Nat.zero_lt_of_lt hfuel))
    rw [List.length_append] at hfuel
    rw [Json.items, hitem level fuel _ (by omega) (ends_prettyItems level outer [] _)]
    rw [prettyItems, List.nil_append]
    dsimp only
    rw [skipSpace_newline, skipSpace_cons (by decide), List.reverse_cons]
    rfl
  | cons next items ih =>
    obtain ⟨fuel, rfl⟩ := Nat.exists_eq_add_one_of_ne_zero (Nat.ne_of_gt (Nat.zero_lt_of_lt hfuel))
    have hfuel' : (prettyChars level item).length +
        (prettyChars level next ++ prettyItems level items).length < fuel := by
      simp only [prettyItems, List.length_append, List.length_cons] at hfuel ⊢
      omega
    obtain ⟨c, t, hc, hspace, -⟩ := (hplain next List.mem_cons_self).head level
    rw [Json.items, hitem level fuel _ (by omega) (ends_prettyItems level outer (next :: items) _)]
    rw [prettyItems]
    dsimp only
    simp only [List.cons_append, List.append_assoc]
    rw [skipSpace_cons (by decide)]
    -- Behind the comma a line break is skipped, and nothing of the next item is.
    show Json.items fuel depth (item :: found) (skipSpace _) = _
    rw [skipSpace_newline, hc, List.cons_append, skipSpace_cons hspace, ← List.cons_append, ← hc,
      ih (fun v hv => hplain v (List.mem_cons_of_mem _ hv)) (hback next List.mem_cons_self)
        (fun v hv => hback v (List.mem_cons_of_mem _ hv)) fuel (item :: found) (by omega),
      List.reverse_cons, List.append_assoc]
    rfl

theorem putField_of_not_mem {α : Type} {fields : List (String × α)} {key : String} {v : α}
    (h : key ∉ fields.map (·.1)) : putField fields key v = fields ++ [(key, v)] := by
  induction fields with
  | nil => rfl
  | cons f rest ih =>
    rw [List.map_cons, List.mem_cons, not_or] at h
    rw [putField, if_neg (by simpa using Ne.symm h.1), ih h.2, List.cons_append]

theorem ends_prettyFields (level outer : Nat) (fields : List (String × Json)) (close : List Char) :
    Ends (prettyFields level fields ++ (newline outer ++ close)) := by
  cases fields with
  | nil => exact .inr (.inr ⟨_, rfl⟩)
  | cons f rest => exact .inr (.inl ⟨_, by rw [prettyFields]; rfl⟩)

theorem key_not_mem {found fields : List (String × Json)} {key : String} {v : Json}
    (h : ((found ++ (key, v) :: fields).map (·.1)).Nodup) : key ∉ found.map (·.1) := by
  rw [List.map_append, List.nodup_append] at h
  exact fun hkey => h.2.2 key hkey key List.mem_cons_self rfl

/-- One field is read back, and the object ends or goes on behind it. -/
theorem fields_field {depth fuel level : Nat} {key : String} {v : Json} {tail : List Char}
    {found : List (String × Json)} (hv : Plain depth v) (hback : ReadsBack depth v)
    (hkey : key ∉ found.map (·.1)) (hfuel : (prettyChars level v).length ≤ fuel)
    (hends : Ends tail) :
    let answer := Json.fields (fuel + 1) depth found
      (textChars key ++ ':' :: ' ' :: (prettyChars level v ++ tail))
    (∀ rest, skipSpace tail = '\x7d' :: rest → answer = .ok (.obj (found ++ [(key, v)]), rest)) ∧
      ∀ rest, skipSpace tail = ',' :: rest →
        answer = Json.fields fuel depth (found ++ [(key, v)]) (skipSpace rest) := by
  obtain ⟨c, t, hc, hspace, -⟩ := hv.head level
  have hskip : skipSpace (' ' :: (prettyChars level v ++ tail)) = prettyChars level v ++ tail := by
    show skipSpace (prettyChars level v ++ tail) = _
    rw [hc, List.cons_append, skipSpace_cons hspace]
  dsimp only
  rw [textChars_append, Json.fields, quotedText_textChars]
  dsimp only
  rw [skipSpace_cons (by decide)]
  simp only [hskip, hback level fuel tail hfuel hends, putField_of_not_mem hkey]
  constructor
  · intro rest htail
    rw [htail]
    rfl
  · intro rest htail
    rw [htail]
    rfl

/-- The fields of an object are read back one after another, in their order, as
no key is there before. -/
theorem fields_prettyFields {depth : Nat} {key : String} {v : Json} {fields : List (String × Json)}
    (hv : Plain depth v) (hplain : ∀ f ∈ fields, Plain depth f.2) (hback : ReadsBack depth v)
    (hbacks : ∀ f ∈ fields, ReadsBack depth f.2) (level outer fuel : Nat)
    (found : List (String × Json)) (hkeys : ((found ++ (key, v) :: fields).map (·.1)).Nodup)
    (rest : List Char)
    (hfuel : (prettyChars level v ++ prettyFields level fields).length < fuel) :
    Json.fields fuel depth found (textChars key ++ ':' :: ' ' :: (prettyChars level v ++
        (prettyFields level fields ++ (newline outer ++ '\x7d' :: rest)))) =
      .ok (.obj (found ++ (key, v) :: fields), rest) := by
  -- As for items, but the keys of `found` must not come up again.
  induction fields generalizing key v fuel found with
  | nil =>
    obtain ⟨fuel, rfl⟩ := Nat.exists_eq_add_one_of_ne_zero (Nat.ne_of_gt (Nat.zero_lt_of_lt hfuel))
    rw [List.length_append] at hfuel
    refine (fields_field hv hback (key_not_mem hkeys) (by omega)
      (ends_prettyFields level outer [] _)).1 rest ?_
    rw [prettyFields, List.nil_append, skipSpace_newline, skipSpace_cons (by decide)]
  | cons next fields ih =>
    obtain ⟨key', v'⟩ := next
    obtain ⟨fuel, rfl⟩ := Nat.exists_eq_add_one_of_ne_zero (Nat.ne_of_gt (Nat.zero_lt_of_lt hfuel))
    have hfuel' : (prettyChars level v).length +
        (prettyChars level v' ++ prettyFields level fields).length < fuel := by
      simp only [prettyFields, List.length_append, List.length_cons] at hfuel ⊢
      omega
    have hkeys' : (((found ++ [(key, v)]) ++ (key', v') :: fields).map (·.1)).Nodup := by
      rwa [List.append_assoc]
    have hrest := ih (hplain (key', v') List.mem_cons_self)
      (fun f hf => hplain f (List.mem_cons_of_mem _ hf)) (hbacks (key', v') List.mem_cons_self)
      (fun f hf => hbacks f (List.mem_cons_of_mem _ hf)) fuel (found ++ [(key, v)]) hkeys'
      (Nat.lt_of_le_of_lt (Nat.le_add_left _ _) hfuel')
    rw [List.append_assoc] at hrest
    have htail : skipSpace (prettyFields level ((key', v') :: fields) ++
        (newline outer ++ '\x7d' :: rest)) =
        ',' :: (newline level ++ (textChars key' ++ ':' :: ' ' :: (prettyChars level v' ++
          (prettyFields level fields ++ (newline outer ++ '\x7d' :: rest))))) := by
      rw [prettyFields]
      simp only [List.cons_append, List.append_assoc]
      exact skipSpace_cons (by decide)
    have hshort : (prettyChars level v).length ≤ fuel := by omega
    rw [(fields_field hv hback (key_not_mem hkeys) hshort
      (ends_prettyFields level outer ((key', v') :: fields) _)).2 _ htail, skipSpace_newline,
      textChars_append, skipSpace_cons (by decide), ← textChars_append]
    exact hrest

theorem value_scalar {fuel depth : Nat} {c : Char} (htext : c ≠ '\x22') (harr : c ≠ '[')
    (hobj : c ≠ '\x7b') : value (fuel + 1) depth (c :: rest) = scalar (c :: rest) := by
  rw [value]
  · rintro t ⟨⟩
    exact htext rfl
  · rintro t ⟨⟩
    exact harr rfl
  · rintro t ⟨⟩
    exact hobj rfl

/-- Where a number is written, a number is read. -/
theorem value_number {fuel depth : Nat} {cs : List Char}
    {answer : Except JsonStop (Json × List Char)} (hhead : ∃ c t, cs = c :: t ∧ HeadsNumber c)
    (hscalar : scalar (cs ++ rest) = answer) : value (fuel + 1) depth (cs ++ rest) = answer := by
  obtain ⟨c, t, rfl, hc⟩ := hhead
  rw [List.cons_append] at hscalar ⊢
  rw [value_scalar (hc.ne (by decide) (by decide)) (hc.ne (by decide) (by decide))
    (hc.ne (by decide) (by decide)), hscalar]

theorem value_textChars {fuel depth : Nat} (s : String) :
    value (fuel + 1) depth (textChars s ++ rest) = .ok (.str s, rest) := by
  rw [textChars_append, value, quotedText_textChars]

theorem value_items {fuel depth : Nat} {c : Char} {cs t : List Char} (h : skipSpace cs = c :: t)
    (hc : c ≠ ']') :
    value (fuel + 1) (depth + 1) ('[' :: cs) = items fuel depth [] (c :: t) := by
  rw [value, h]
  split
  · next heq =>
    cases heq
    exact absurd rfl hc
  · rfl

theorem value_fields {fuel depth : Nat} {cs t : List Char} (h : skipSpace cs = '\x22' :: t) :
    value (fuel + 1) (depth + 1) ('\x7b' :: cs) = fields fuel depth [] ('\x22' :: t) := by
  rw [value, h]
  rfl

/-- There is text of a value to be read, so the reader has fuel for a step. -/
theorem Plain.readsBack_of {depth : Nat} {v : Json} (h : Plain depth v)
    (hstep : ∀ level fuel rest, (prettyChars level v).length ≤ fuel + 1 → Ends rest →
      value (fuel + 1) depth (prettyChars level v ++ rest) = .ok (v, rest)) :
    ReadsBack depth v := by
  intro level fuel rest hfuel hends
  obtain ⟨c, t, hc, -⟩ := h.head level
  have hpos : fuel ≠ 0 := by
    rw [hc, List.length_cons] at hfuel
    omega
  obtain ⟨fuel, rfl⟩ := Nat.exists_eq_add_one_of_ne_zero hpos
  exact hstep level fuel rest hfuel hends

/-- An array is read back, once its items are. -/
theorem Plain.readsBack_arr {depth : Nat} {items : List Json} (each : ∀ v ∈ items, Plain depth v)
    (hback : ∀ v ∈ items, ReadsBack depth v) : ReadsBack (depth + 1) (.arr items) := by
  refine (Plain.arr each).readsBack_of fun level fuel rest hfuel hends => ?_
  cases items with
  | nil => rfl
  | cons item items =>
    obtain ⟨c, t, hc, hspace, hclose, -⟩ := (each item List.mem_cons_self).head (level + 1)
    have hfuel' :
        (prettyChars (level + 1) item ++ prettyItems (level + 1) items).length < fuel := by
      simp only [prettyChars, newline, List.length_append, List.length_cons] at hfuel ⊢
      omega
    have hitems := items_prettyItems (fun v hv => each v (List.mem_cons_of_mem _ hv))
      (hback item List.mem_cons_self) (fun v hv => hback v (List.mem_cons_of_mem _ hv))
      (level + 1) level fuel [] rest hfuel'
    simp only [prettyChars, List.cons_append, List.append_assoc]
    rw [value_items (by rw [skipSpace_newline, hc, List.cons_append, skipSpace_cons hspace])
      hclose, ← List.cons_append, ← hc]
    exact hitems

/-- So is an object, if it has no key twice. -/
theorem Plain.readsBack_obj {depth : Nat} {fields : List (String × Json)}
    (keys : (fields.map (·.1)).Nodup) (each : ∀ f ∈ fields, Plain depth f.2)
    (hback : ∀ f ∈ fields, ReadsBack depth f.2) : ReadsBack (depth + 1) (.obj fields) := by
  refine (Plain.obj keys each).readsBack_of fun level fuel rest hfuel hends => ?_
  cases fields with
  | nil => rfl
  | cons f fields =>
    obtain ⟨key, v⟩ := f
    have hfuel' :
        (prettyChars (level + 1) v ++ prettyFields (level + 1) fields).length < fuel := by
      simp only [prettyChars, newline, List.length_append, List.length_cons] at hfuel ⊢
      omega
    have hfields := fields_prettyFields (each (key, v) List.mem_cons_self)
      (fun f hf => each f (List.mem_cons_of_mem _ hf)) (hback (key, v) List.mem_cons_self)
      (fun f hf => hback f (List.mem_cons_of_mem _ hf)) (level + 1) level fuel [] keys rest hfuel'
    simp only [prettyChars, List.cons_append, List.append_assoc]
    rw [value_fields (by rw [skipSpace_newline, textChars_append, skipSpace_cons (by decide)]),
      ← textChars_append]
    exact hfields

/-- A plain value is read back from its text, and no further. -/
theorem Plain.readsBack {depth : Nat} {v : Json} (h : Plain depth v) : ReadsBack depth v := by
  induction h with
  | null =>
    refine Plain.null.readsBack_of fun level fuel rest _ _ => ?_
    exact (value_scalar (by decide) (by decide) (by decide)).trans scalar_null
  | @bool _ b =>
    refine Plain.bool.readsBack_of fun level fuel rest _ _ => ?_
    cases b
    · exact (value_scalar (by decide) (by decide) (by decide)).trans (scalar_bool false)
    · exact (value_scalar (by decide) (by decide) (by decide)).trans (scalar_bool true)
  | @int _ n short =>
    refine (Plain.int short).readsBack_of fun level fuel rest _ hends => ?_
    exact value_number (int_head n) (scalar_signedChars short hends)
  | @real _ x fits =>
    refine (Plain.real fits).readsBack_of fun level fuel rest _ hends => ?_
    exact value_number (real_head fits) (scalar_real fits hends)
  | str => exact Plain.str.readsBack_of fun level fuel rest _ _ => value_textChars _
  | arr each ih => exact Plain.readsBack_arr each ih
  | obj keys each ih => exact Plain.readsBack_obj keys each ih

/-- A plain value is read back from the text it is written as. -/
theorem read_pretty {v : Json} (h : Plain depthLimit v) : read v.pretty = .ok v := by
  obtain ⟨c, t, hc, hspace, -, hmark⟩ := h.head 0
  have hvalue := h.readsBack 0 (2 * (prettyChars 0 v).length + 2) [] (by omega) (.inl rfl)
  rw [List.append_nil] at hvalue
  unfold read pretty
  rw [String.toList_ofList]
  unfold readChars
  split
  · next heq =>
    rw [hc] at heq
    cases heq
    exact absurd rfl hmark
  · rw [hc, skipSpace_cons hspace, ← hc, hvalue]
    rfl

/-! ### Values that can be written -/

theorem cutItems_eq_none {level : Nat} {before : List Char} {items : List Json} :
    cutItems level before items = none ↔ ∀ v ∈ items, cutChars level v = none := by
  induction items generalizing before with
  | nil => simp [cutItems]
  | cons item items ih =>
    rw [cutItems, List.forall_mem_cons]
    cases hcut : cutChars level item with
    | none => simp [ih]
    | some written => simp

theorem cutFields_eq_none {level : Nat} {before : List Char} {fields : List (String × Json)} :
    cutFields level before fields = none ↔ ∀ f ∈ fields, cutChars level f.2 = none := by
  induction fields generalizing before with
  | nil => simp [cutFields]
  | cons f fields ih =>
    rw [cutFields, List.forall_mem_cons]
    cases hcut : cutChars level f.2 with
    | none => simp [ih]
    | some written => simp

end Meetings.Json
