import Yuml.Proofs.Boxes
import Yuml.Proofs.Wrapping

/-!
# Formatting: what is left of a label when it has been formatted

A label is formatted for a plain attribute in two steps, which change it in different ways: its fields
are broken at spaces, and then the whole label is escaped. When the escapes have been taken away again,
what is left is the label with line feeds for all of its semicolons and for some of its spaces, and
nothing else (`Label.Kept`): the text has the same length, it has the same divisors at the same places,
and a space has given way only in a field that has the width or more.

Breaking is followed place by place: first in one field (`getElem?_wrap`), then in a row of fields,
where the place lies in one of them (`brokenAt_joinWith`).
-/

namespace Yuml

/-! ## 1. Escaping and unescaping -/

/-- **Unescaping an escaped text gives it back**, but for the semicolons, all of which have become line
    feeds. This holds of any text, with backslashes anywhere, and also if escaping and unescaping are
    done in passes over the whole text. -/
theorem unescape_escape_eq_replace (s : Text) :
    Label.unescape (Label.escape s) = Text.replace [';'] ['\n'] s ∧
      Text.replaceEach Label.unescapes (Text.replaceEach Label.escapes s) =
        Text.replace [';'] ['\n'] s := by
  have hlined : Label.lined s = Text.replace [';'] ['\n'] s := by
    have hchar (c : Char) : (if c = ';' then ['\n'] else [c]) = [if c = ';' then '\n' else c] := by
      split <;> rfl
    rw [Text.replace_singleton, Label.lined, List.map_eq_flatMap]
    exact List.flatMap_congr fun c _ => (hchar c).symm
  refine ⟨(unescape_escape s).trans hlined, ?_⟩
  rw [← Label.escape_eq_replaceEach, ← Label.unescape_eq_replaceEach, unescape_escape, hlined]

/-- A text that is full of backslashes, in front of angle brackets and behind them. -/
example : Label.unescape (Label.escape "\\<\\\\>;\\".toList) = "\\<\\\\>\n\\".toList := by decide

/-! ## 2. Places of a label -/

namespace Label

/-- A field of a label and what stands around it, for a place in the label. The field is all that stands
    between two divisors, or between a divisor and an end; a label that is not divided is one field. -/
structure FieldAt (divided : Bool) (label : Text) (i : Nat) (before field after : Text) : Prop where
  text : label = before ++ field ++ after
  starts : before.length ≤ i
  ends : i < before.length + field.length
  whole : divided = true → '|' ∉ field
  opened : ∀ c ∈ before.getLast?, divided = true ∧ c = '|'
  closed : ∀ c ∈ after.head?, divided = true ∧ c = '|'

/-- A text that a label has been broken to at a width: at every place the character is what it was, or it
    is a line feed for a space in a field of the width or more. -/
def BrokenAt (width : Nat) (divided : Bool) (label broken : Text) (i : Nat) : Prop :=
  broken[i]? = label[i]? ∨
    label[i]? = some ' ' ∧ broken[i]? = some '\n' ∧
      ∃ before field after, FieldAt divided label i before field after ∧ width ≤ field.length

/-- A label that is not divided is the field of all its places. -/
theorem fieldAt_undivided {label : Text} {i : Nat} (h : i < label.length) :
    FieldAt false label i [] label [] where
  text := by simp
  starts := Nat.zero_le i
  ends := by simpa using h
  whole := nofun
  opened := nofun
  closed := nofun

/-- The places of the first field. -/
theorem fieldAt_first {field rest : Text} {i : Nat} (h : i < field.length) (hbar : '|' ∉ field)
    (hrest : ∀ c ∈ rest.head?, c = '|') : FieldAt true (field ++ rest) i [] field rest where
  text := by simp
  starts := Nat.zero_le i
  ends := by simpa using h
  whole _ := hbar
  opened := nofun
  closed c hc := ⟨rfl, hrest c hc⟩

/-- The places behind the first divisor, which lie one field and one divisor further on. -/
theorem FieldAt.behind {rest before field after : Text} {i : Nat}
    (h : FieldAt true rest i before field after) (first : Text) :
    FieldAt true (first ++ '|' :: rest) (first.length + 1 + i) (first ++ '|' :: before) field after where
  text := by rw [h.text]; simp
  starts := by
    have := h.starts
    simp only [List.length_append, List.length_cons]
    omega
  ends := by
    have := h.ends
    simp only [List.length_append, List.length_cons]
    omega
  whole := h.whole
  opened c hc := by
    cases hb : before.getLast? with
    | none =>
      obtain rfl := List.getLast?_eq_none_iff.mp hb
      rw [List.getLast?_concat] at hc
      exact ⟨rfl, (Option.some.inj hc).symm⟩
    | some d =>
      have hc' : before.getLast? = some c := by
        rw [List.getLast?_append_cons] at hc
        rw [hb]
        simpa [List.getLast?_cons, hb] using hc
      exact h.opened c hc'
  closed := h.closed

/-! ## 3. Breaking, place by place -/

variable {width : Nat}

theorem length_wrap (width : Nat) (field : Text) : (wrap width field).length = field.length :=
  (broken_wrap width field).length_eq

/-- A place of a broken field. -/
theorem getElem?_wrap (width : Nat) (field : Text) (i : Nat) :
    (wrap width field)[i]? = field[i]? ∨
      field[i]? = some ' ' ∧ (wrap width field)[i]? = some '\n' ∧ width ≤ field.length := by
  by_cases hw : field.length < width
  · rw [wrap_of_lt hw]
    exact .inl rfl
  · cases hd : (wrap width field)[i]? with
    | none =>
      have hi := List.getElem?_eq_none_iff.mp hd
      rw [length_wrap] at hi
      exact .inl (List.getElem?_eq_none hi).symm
    | some d =>
      obtain ⟨c, hc, hdc⟩ := exists_getElem?_of_forall₂ (broken_wrap width field) hd
      rw [hc]
      rcases hdc with rfl | ⟨rfl, rfl⟩
      · exact .inl rfl
      · exact .inr ⟨rfl, rfl, Nat.not_lt.mp hw⟩

/-- **Fields that are broken one by one**, at every place of the label: the induction is on the fields,
    and a place lies in the first one, on the divisor behind it, or in the rest. -/
theorem brokenAt_joinWith (width : Nat) {fields : List Text} (h : ∀ f ∈ fields, '|' ∉ f) (i : Nat) :
    BrokenAt width true (Text.joinWith ['|'] fields)
      (Text.joinWith ['|'] (fields.map (wrap width))) i := by
  induction fields generalizing i with
  | nil => exact .inl rfl
  | cons f fields ih =>
    obtain ⟨hf, hfields⟩ := List.forall_mem_cons.mp h
    cases fields with
    | nil =>
      rcases getElem?_wrap width f i with hsame | ⟨hspace, hnl, hw⟩
      · exact .inl hsame
      · obtain ⟨hi, -⟩ := List.getElem?_eq_some_iff.mp hspace
        have hfield : FieldAt true (f ++ []) i [] f [] := fieldAt_first hi hf nofun
        rw [List.append_nil] at hfield
        exact .inr ⟨hspace, hnl, [], f, [], hfield, hw⟩
    | cons f' fields =>
      have hlabel : Text.joinWith ['|'] (f :: f' :: fields) =
          f ++ '|' :: Text.joinWith ['|'] (f' :: fields) := by simp [Text.joinWith]
      have hbroken : Text.joinWith ['|'] ((f :: f' :: fields).map (wrap width)) =
          wrap width f ++ '|' :: Text.joinWith ['|'] ((f' :: fields).map (wrap width)) := by
        simp [Text.joinWith]
      have ih := ih hfields
      rw [hlabel, hbroken]
      generalize Text.joinWith ['|'] (f' :: fields) = rest at ih ⊢
      generalize Text.joinWith ['|'] ((f' :: fields).map (wrap width)) = restBroken at ih ⊢
      unfold BrokenAt
      by_cases hi : i < f.length
      · have hi' : i < (wrap width f).length := by rw [length_wrap]; exact hi
        rw [List.getElem?_append_left hi, List.getElem?_append_left hi']
        rcases getElem?_wrap width f i with hsame | ⟨hspace, hnl, hw⟩
        · exact .inl hsame
        · exact .inr ⟨hspace, hnl, [], f, _, fieldAt_first hi hf (by simp), hw⟩
      · obtain ⟨j, rfl⟩ := Nat.exists_eq_add_of_le (Nat.not_lt.mp hi)
        have hat : (f ++ '|' :: rest)[f.length + j]? = ('|' :: rest)[j]? := by
          simp [List.getElem?_append_right]
        have hat' : (wrap width f ++ '|' :: restBroken)[f.length + j]? = ('|' :: restBroken)[j]? := by
          rw [← length_wrap width f]
          simp [List.getElem?_append_right]
        rw [hat, hat']
        cases j with
        | zero => exact .inl rfl
        | succ j =>
          rcases ih j with hsame | ⟨hspace, hnl, before, field, after, hfield, hw⟩
          · exact .inl hsame
          · refine .inr ⟨hspace, hnl, f ++ '|' :: before, field, after, ?_, hw⟩
            have hplace : f.length + (j + 1) = f.length + 1 + j := by omega
            rw [hplace]
            exact hfield.behind f

/-- What is escaped when a label is formatted. -/
theorem exists_brokenAt (width : Nat) (divided : Bool) (label : Text) :
    ∃ s : Text, format width divided label = escape s ∧ ∀ i, BrokenAt width divided label s i := by
  cases divided with
  | false =>
    refine ⟨wrap width label, rfl, fun i => ?_⟩
    rcases getElem?_wrap width label i with hsame | ⟨hspace, hnl, hw⟩
    · exact .inl hsame
    · obtain ⟨hi, -⟩ := List.getElem?_eq_some_iff.mp hspace
      exact .inr ⟨hspace, hnl, [], label, [], fieldAt_undivided hi, hw⟩
  | true =>
    refine ⟨broken width label, rfl, fun i => ?_⟩
    have hfields : ∀ f ∈ Text.splitAt '|' label, '|' ∉ f := fun f hf => Text.not_mem_of_mem_splitAt hf
    have hat := brokenAt_joinWith width hfields i
    rwa [Text.joinWith_splitAt] at hat

/-! ## 4. Formatting -/

/-- What a label has become when it has been formatted at a width and unescaped. -/
structure Kept (width : Int) (divided : Bool) (label shown : Text) : Prop where
  length : shown.length = label.length
  /-- A character stays, unless it is a semicolon or a space. -/
  kept : ∀ (i : Nat) c, label[i]? = some c → c ≠ ';' → c ≠ ' ' → shown[i]? = some c
  /-- A semicolon becomes a line feed. -/
  semicolon : ∀ i : Nat, label[i]? = some ';' → shown[i]? = some '\n'
  /-- A space stays, or becomes a line feed in a field of the width or more. -/
  space : ∀ i : Nat, label[i]? = some ' ' → shown[i]? = some ' ' ∨ shown[i]? = some '\n' ∧
    ∃ before field after, FieldAt divided label i before field after ∧ width ≤ field.length
  /-- The divisors are where they were. -/
  divisor : ∀ i : Nat, shown[i]? = some '|' ↔ label[i]? = some '|'

end Label

/-- **Formatting a label loses nothing**: when the escapes are taken away again, the label is there place
    by place, with its fields, and only semicolons and spaces have become line feeds. A width below zero
    is a width of zero. -/
theorem unescape_format_kept (width : Int) (divided : Bool) (label : Text) :
    Label.Kept width divided label (Label.unescape (Label.format width.toNat divided label)) := by
  obtain ⟨s, hs, hbroken⟩ := Label.exists_brokenAt width.toNat divided label
  have hshown : Label.unescape (Label.format width.toNat divided label) = Label.lined s := by
    rw [hs, unescape_escape]
  have hat (i : Nat) : (Label.lined s)[i]? = s[i]?.map fun c => if c = ';' then '\n' else c :=
    List.getElem?_map
  have hnone (i : Nat) : s[i]? = none ↔ label[i]? = none := by
    rcases hbroken i with hsame | ⟨hspace, hnl, -⟩
    · rw [hsame]
    · simp [hspace, hnl]
  have hkept (i : Nat) {c : Char} (hc : label[i]? = some c) (hspace : c ≠ ' ') : s[i]? = some c := by
    rcases hbroken i with hsame | ⟨hspace', -, -⟩
    · rw [hsame, hc]
    · rw [hc] at hspace'
      exact absurd (Option.some.inj hspace') hspace
  rw [hshown]
  refine ⟨?length, fun i c hc hsemi hspace => ?kept, fun i hc => ?semicolon, fun i hc => ?space,
    fun i => ⟨fun hc => ?shown, fun hc => ?divisor⟩⟩
  case length =>
    have hle := List.getElem?_eq_none_iff.mp ((hnone _).mpr (List.getElem?_eq_none (Nat.le_refl _)))
    have hge := List.getElem?_eq_none_iff.mp ((hnone _).mp (List.getElem?_eq_none (Nat.le_refl _)))
    rw [Label.lined, List.length_map]
    exact Nat.le_antisymm hle hge
  case kept => simp [hat, hkept i hc hspace, hsemi]
  case semicolon => simp [hat, hkept i hc (by decide)]
  case space =>
    rcases hbroken i with hsame | ⟨-, hnl, before, field, after, hfield, hw⟩
    · exact .inl (by simp [hat, hsame, hc])
    · exact .inr ⟨by simp [hat, hnl], before, field, after, hfield, Int.toNat_le.mp hw⟩
  case shown =>
    rw [hat, Option.map_eq_some_iff] at hc
    obtain ⟨c, hc, hbar⟩ := hc
    have hcbar : c = '|' := by
      split at hbar
      · cases hbar
      · exact hbar
    subst hcbar
    rcases hbroken i with hsame | ⟨-, hnl, -⟩
    · rw [← hsame, hc]
    · rw [hc] at hnl
      cases hnl
  case divisor => simp [hat, hkept i hc (by decide)]

/-- A field of a label that is divided is too short to be broken; as a whole the label is not. -/
example : Label.unescape (Label.format 7 true "a b|c;\\< d".toList) = "a b|c\n\\< d".toList ∧
    Label.unescape (Label.format 7 false "a b|c;\\< d".toList) = "a b|c\n\\<\nd".toList := by decide

end Yuml
