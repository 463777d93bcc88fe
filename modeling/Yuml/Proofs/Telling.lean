import Yuml.Proofs.Escaping
import Yuml.Proofs.Numerals
import Yuml.Proofs.Parts
import Mathlib.Data.Option.Basic

/-!
# Telling attribute lists apart

A plain list of attributes is a row of ITEMS, each of which has a name and a value: a text in quotes, or a
number. This file shows that what is written tells the list, whatever texts stand in it, as long as they
hold no backslash:

* an item tells its name and its value, and where it ends in whatever stands behind it
  (`Item.written_append_inj`), so a row of items tells all of them (`rows_inj`);
* the names of a list are different, so the items tell the value of each attribute, and which of them are
  set (`told_itemList`);
* the values tell shapes, styles, arrow heads and whole numbers (`name_injective`, `styleText_injective`,
  `ofInt_injective`). A height or a width is told as far as it is printed.

Together: two lists are written alike exactly if they agree in every attribute (`plain_eq_iff_alike`).

A text that imitates an item is no exception: its quotes have backslashes in front of them, and a text
without backslashes of its own is read back from between its quotes.
-/

namespace Yuml

/-! ## 1. Texts in quotes -/

open Attributes (quoteFrom quoteValue textItem numberItem)

theorem sealed_of_not_mem {value : Text} (h : '\\' ∉ value) : Sealed value := by
  rw [sealed_iff]
  induction value with
  | nil => rfl
  | cons c value ih =>
    obtain ⟨hc, hvalue⟩ := List.ne_and_not_mem_of_not_mem_cons h
    by_cases hq : c = '"'
    · simp [sealedFrom, hq, ih hvalue]
    · simp [sealedFrom, hq, hc.symm, ih hvalue]

/-- A text without backslashes is what stands between its quotes, without the backslashes in front of
    quotes. -/
theorem unguard_quoteValue {value : Text} (h : '\\' ∉ value) :
    Label.unguard (· == '"') (quoteValue value) = value := by
  unfold quoteValue
  induction value with
  | nil => rfl
  | cons c value ih =>
    obtain ⟨hc, hvalue⟩ := List.ne_and_not_mem_of_not_mem_cons h
    have hrest : (c == '\\') = false := beq_eq_false_iff_ne.mpr hc.symm
    rw [quoteFrom, hrest]
    by_cases hq : c = '"'
    · subst hq
      have hwritten : (if '"' = '"' && !false then ['\\', '"'] else ['"']) ++ quoteFrom false value =
        '\\' :: '"' :: quoteFrom false value := rfl
      rw [hwritten, Label.unguard_guarded rfl, ih hvalue]
    · have hwritten : (if c = '"' && !false then ['\\', c] else [c]) ++ quoteFrom false value =
        c :: quoteFrom false value := by simp [hq]
      rw [hwritten, Label.unguard_cons fun e => absurd e.symm hc, ih hvalue]

/-- **A text in quotes tells itself and where it ends.** -/
theorem quoteValue_append_inj {v w s t : Text} (hv : '\\' ∉ v) (hw : '\\' ∉ w)
    (h : quoteValue v ++ '"' :: s = quoteValue w ++ '"' :: t) : v = w ∧ s = t := by
  have hreadv := (readQuoted_quoteValue_iff v s).mpr (sealed_of_not_mem hv)
  have hreadw := (readQuoted_quoteValue_iff w t).mpr (sealed_of_not_mem hw)
  rw [h, hreadw] at hreadv
  obtain ⟨hvalue, hrest⟩ := Prod.mk.inj (Option.some.inj hreadv)
  refine ⟨?_, hrest.symm⟩
  rw [← unguard_quoteValue hv, ← unguard_quoteValue hw, hvalue]

/-! ## 2. Items -/

/-- An item of an attribute list. -/
inductive Item where
  | text (name : String) (value : Text)
  | number (name : String) (value : Text)

namespace Item

/-- The name of an item. -/
def name : Item → String
  | .text n _ | .number n _ => n

/-- The value of an item. -/
def value : Item → Text
  | .text _ v | .number _ v => v

/-- An item as it is written. -/
def written : Item → Text
  | .text n v => textItem n v
  | .number n v => numberItem n v

/-- Whether an item can be told: its name ends where it is written to end, and so does its value. -/
def Legible : Item → Prop
  | .text n v => '=' ∉ n.toList ∧ '\\' ∉ v
  | .number n v => '=' ∉ n.toList ∧ ' ' ∉ v ∧ '"' ∉ v

theorem Legible.name {i : Item} (h : i.Legible) : '=' ∉ i.name.toList := by
  cases i <;> exact h.1

/-- What is written behind the name of an item. -/
def behind : Item → Text
  | .text _ v => '"' :: (quoteValue v ++ '"' :: Attributes.separator)
  | .number _ v => v ++ Attributes.separator

theorem written_eq (i : Item) : i.written = i.name.toList ++ '=' :: i.behind := by
  cases i <;> rfl

/-- **An item tells itself and where it ends**, whatever stands behind it. -/
theorem written_append_inj {i j : Item} (hi : i.Legible) (hj : j.Legible) {s t : Text}
    (h : i.written ++ s = j.written ++ t) : i = j ∧ s = t := by
  rw [written_eq, written_eq, List.append_assoc, List.append_assoc, List.cons_append,
    List.cons_append] at h
  obtain ⟨hname, hbehind⟩ := Text.append_cons_inj hi.name hj.name h
  have hname : i.name = j.name := String.toList_inj.mp hname
  have hnumber {v s t : Text} (hv : '"' ∉ v) : v ++ Attributes.separator ++ s ≠ '"' :: t := by
    intro e
    cases v with
    | nil => cases e
    | cons c v => exact hv (List.mem_cons.mpr (.inl (List.cons.inj e).1.symm))
  cases i with
  | text n v =>
    cases j with
    | text m w =>
      obtain ⟨-, hv⟩ := hi
      obtain ⟨-, hw⟩ := hj
      have hquoted : quoteValue v ++ '"' :: (Attributes.separator ++ s) =
          quoteValue w ++ '"' :: (Attributes.separator ++ t) := by
        simpa using (List.cons.inj hbehind).2
      obtain ⟨rfl, hrest⟩ := quoteValue_append_inj hv hw hquoted
      exact ⟨congrArg (Item.text · v) hname, List.append_cancel_left hrest⟩
    | number m w => exact absurd hbehind.symm (hnumber hj.2.2)
  | number n v =>
    cases j with
    | text m w => exact absurd hbehind (hnumber hi.2.2)
    | number m w =>
      have hspace {v s : Text} : v ++ Attributes.separator ++ s = v ++ ' ' :: (", ".toList ++ s) := by
        simp [Attributes.separator]
      have hbehind : v ++ Attributes.separator ++ s = w ++ Attributes.separator ++ t := hbehind
      rw [hspace, hspace] at hbehind
      obtain ⟨rfl, hrest⟩ := Text.append_cons_inj hi.2.1 hj.2.1 hbehind
      exact ⟨congrArg (Item.number · v) hname, List.append_cancel_left hrest⟩

/-- **A row of items tells all of them.** The row ends in a bracket, which is shorter than any item. -/
theorem rows_inj {is js : List Item} (hi : ∀ i ∈ is, i.Legible) (hj : ∀ j ∈ js, j.Legible)
    (h : is.flatMap written ++ [']'] = js.flatMap written ++ [']']) : is = js := by
  have hlong (i : Item) (s : Text) : [']'] ≠ i.written ++ s ++ [']'] := by
    intro e
    have hlength := congrArg List.length e
    rw [written_eq] at hlength
    simp only [List.length_append, List.length_cons, List.length_nil] at hlength
    omega
  induction is generalizing js with
  | nil =>
    cases js with
    | nil => rfl
    | cons j js => exact absurd h (hlong j _)
  | cons i is ih =>
    cases js with
    | nil => exact absurd h.symm (hlong i _)
    | cons j js =>
      obtain ⟨hi, his⟩ := List.forall_mem_cons.mp hi
      obtain ⟨hj, hjs⟩ := List.forall_mem_cons.mp hj
      rw [List.flatMap_cons, List.flatMap_cons, List.append_assoc, List.append_assoc] at h
      obtain ⟨rfl, hrest⟩ := written_append_inj hi hj h
      rw [ih his hjs hrest]

/-- The value of the first item with a name. -/
def valueOf (name : String) : List Item → Option Text
  | [] => none
  | i :: is => if i.name = name then some i.value else valueOf name is

theorem valueOf_append (n : String) (is js : List Item) :
    valueOf n (is ++ js) = (valueOf n is).or (valueOf n js) := by
  induction is with
  | nil => rfl
  | cons i is ih =>
    rw [List.cons_append, valueOf, valueOf, ih]
    split <;> rfl

theorem valueOf_text? (n m : String) (v : Option Text) :
    valueOf n (v.map (Item.text m)).toList = if m = n then v else none := by
  by_cases hm : m = n <;> cases v <;> simp [valueOf, name, value, hm]

theorem valueOf_number? (n m : String) (v : Option Text) :
    valueOf n (v.map (Item.number m)).toList = if m = n then v else none := by
  by_cases hm : m = n <;> cases v <;> simp [valueOf, name, value, hm]

end Item

/-! ## 3. The items of a list -/

namespace Attributes

/-- The items of a list, in their order; those of attributes that are not set are left out. -/
def itemList (a : Attributes) : List Item :=
  [.text "shape" a.shape.name] ++ (a.margin.map (Item.text "margin")).toList ++
  [.text "label" a.labelText, .text "style" a.styleText] ++
  (a.fillcolor.map (Item.text "fillcolor")).toList ++
  (a.fontcolor.map (Item.text "fontcolor")).toList ++ (a.dir.map (Item.text "dir")).toList ++
  [.text "arrowtail" (a.arrowtail.getD .none).name,
    .text "arrowhead" (a.arrowhead.getD .none).name] ++
  (a.taillabel.map (Item.text "taillabel")).toList ++
  (a.headlabel.map (Item.text "headlabel")).toList ++
  ((a.labeldistance.map Text.ofInt).map (Item.number "labeldistance")).toList ++
  ((a.height.map Binary64.general).map (Item.number "height")).toList ++
  ((a.width.map Binary64.general).map (Item.number "width")).toList ++
  ((a.fontsize.map Text.ofInt).map (Item.number "fontsize")).toList ++
  ((a.penwidth.map Text.ofInt).map (Item.number "penwidth")).toList

theorem textItem?_eq (n : String) (v : Option Text) :
    textItem? n v = (v.map (Item.text n)).toList.flatMap Item.written := by
  cases v with
  | none => rfl
  | some v => exact (List.append_nil _).symm

/-- A number of either kind, if it is set. -/
theorem numberItem?_eq {α : Type} (f : α → Text) (n : String) (v : Option α) :
    (v.map fun x => numberItem n (f x)).getD [] =
      ((v.map f).map (Item.number n)).toList.flatMap Item.written := by
  cases v with
  | none => rfl
  | some v => exact (List.append_nil _).symm

/-- **A plain list is the row of its items.** -/
theorem plain_eq_items (a : Attributes) :
    a.plain = '[' :: (a.itemList.flatMap Item.written ++ [']']) := by
  have htext (n : String) (v : Text) : textItem n v = [Item.text n v].flatMap Item.written :=
    (List.append_nil _).symm
  have hpair (i j : Item) : [i, j] = [i] ++ [j] := rfl
  simp only [plain, items, itemList, styleText, hpair, List.flatMap_append, htext, textItem?_eq,
    intItem?, floatItem?, numberItem?_eq, List.append_assoc]

/-- What the items of a list tell of its attributes: the values, and which attributes are set. -/
structure Told (a : Attributes) (is : List Item) : Prop where
  shape : Item.valueOf "shape" is = some a.shape.name
  label : Item.valueOf "label" is = some a.labelText
  style : Item.valueOf "style" is = some a.styleText
  margin : Item.valueOf "margin" is = a.margin
  fillcolor : Item.valueOf "fillcolor" is = a.fillcolor
  fontcolor : Item.valueOf "fontcolor" is = a.fontcolor
  dir : Item.valueOf "dir" is = a.dir
  arrowtail : Item.valueOf "arrowtail" is = some (a.arrowtail.getD .none).name
  arrowhead : Item.valueOf "arrowhead" is = some (a.arrowhead.getD .none).name
  taillabel : Item.valueOf "taillabel" is = a.taillabel
  headlabel : Item.valueOf "headlabel" is = a.headlabel
  labeldistance : Item.valueOf "labeldistance" is = a.labeldistance.map Text.ofInt
  height : Item.valueOf "height" is = a.height.map Binary64.general
  width : Item.valueOf "width" is = a.width.map Binary64.general
  fontsize : Item.valueOf "fontsize" is = a.fontsize.map Text.ofInt
  penwidth : Item.valueOf "penwidth" is = a.penwidth.map Text.ofInt

/-- **The names of a list are different**, so each attribute is told by the item with its name. -/
theorem told_itemList (a : Attributes) : a.Told a.itemList := by
  constructor <;>
    simp [-Option.map_map, itemList, Item.valueOf_append, Item.valueOf_text?, Item.valueOf_number?,
      Item.valueOf, Item.name, Item.value]

/-- Whether no text of a list holds a backslash. -/
structure Unescaped (a : Attributes) : Prop where
  label : ∀ v ∈ a.label, '\\' ∉ v
  margin : ∀ v ∈ a.margin, '\\' ∉ v
  fillcolor : ∀ v ∈ a.fillcolor, '\\' ∉ v
  fontcolor : ∀ v ∈ a.fontcolor, '\\' ∉ v
  dir : ∀ v ∈ a.dir, '\\' ∉ v
  taillabel : ∀ v ∈ a.taillabel, '\\' ∉ v
  headlabel : ∀ v ∈ a.headlabel, '\\' ∉ v

theorem Unescaped.labelText {a : Attributes} (h : a.Unescaped) : '\\' ∉ a.labelText := by
  unfold Attributes.labelText
  cases hl : a.label with
  | none => exact List.not_mem_nil
  | some v => exact h.label v hl

/-- **All items of a list without backslashes can be told.** -/
theorem Unescaped.legible {a : Attributes} (h : a.Unescaped) : ∀ i ∈ a.itemList, i.Legible := by
  have htext {n : String} {v : Option Text} (hn : '=' ∉ n.toList) (hv : ∀ t ∈ v, '\\' ∉ t) :
      ∀ i ∈ (v.map (Item.text n)).toList, i.Legible := by
    intro i hi
    obtain ⟨t, ht, rfl⟩ := Option.map_eq_some_iff.mp (Option.mem_toList.mp hi)
    exact ⟨hn, hv t ht⟩
  have hnumber {α : Type} {n : String} {f : α → Text} (hn : '=' ∉ n.toList)
      (hf : ∀ x, Text.Numeral (f x)) (v : Option α) :
      ∀ i ∈ ((v.map f).map (Item.number n)).toList, i.Legible := by
    intro i hi
    rw [Option.map_map] at hi
    obtain ⟨x, -, rfl⟩ := Option.map_eq_some_iff.mp (Option.mem_toList.mp hi)
    exact ⟨hn, (hf x).not_mem (by decide), (hf x).not_mem (by decide)⟩
  simp only [itemList, List.forall_mem_append, List.forall_mem_cons, List.not_mem_nil, false_imp_iff,
    implies_true, and_true, and_assoc]
  exact ⟨⟨by decide, (Shape.clean_name a.shape).2⟩, htext (by decide) h.margin,
    ⟨by decide, h.labelText⟩, ⟨by decide, (clean_styleText a).2⟩, htext (by decide) h.fillcolor,
    htext (by decide) h.fontcolor, htext (by decide) h.dir,
    ⟨by decide, (ArrowHead.clean_name _).2⟩, ⟨by decide, (ArrowHead.clean_name _).2⟩,
    htext (by decide) h.taillabel, htext (by decide) h.headlabel,
    hnumber (by decide) Text.numeral_ofInt a.labeldistance,
    hnumber (by decide) Binary64.numeral_general a.height,
    hnumber (by decide) Binary64.numeral_general a.width,
    hnumber (by decide) Text.numeral_ofInt a.fontsize,
    hnumber (by decide) Text.numeral_ofInt a.penwidth⟩

/-- **What is written tells the items**, if no text holds a backslash. -/
theorem plain_eq_iff_items {a b : Attributes} (ha : a.Unescaped) (hb : b.Unescaped) :
    a.plain = b.plain ↔ a.itemList = b.itemList := by
  rw [plain_eq_items, plain_eq_items]
  constructor
  · intro h
    exact Item.rows_inj ha.legible hb.legible (List.cons.inj h).2
  · intro h
    rw [h]

end Attributes

/-! ## 4. Values -/

/-- What is found by its name is told by it. -/
theorem eq_of_name_eq {α : Type} {name : α → Text} {ofName? : Text → Option α}
    (hread : ∀ x, ofName? (name x) = some x) {x y : α} (h : name x = name y) : x = y := by
  have hx := hread x
  rw [h, hread y] at hx
  exact (Option.some.inj hx).symm

theorem Shape.name_injective {s t : Shape} (h : s.name = t.name) : s = t := by
  have hread (s : Shape) : Shape.ofName? s.name = some s := by cases s <;> decide
  exact eq_of_name_eq hread h

theorem Style.name_injective {s t : Style} (h : s.name = t.name) : s = t := by
  have hread (s : Style) : Style.ofName? s.name = some s := by cases s <;> decide
  exact eq_of_name_eq hread h

theorem ArrowHead.name_injective {s t : ArrowHead} (h : s.name = t.name) : s = t := by
  have hread (s : ArrowHead) : ArrowHead.ofName? s.name = some s := by cases s <;> decide
  exact eq_of_name_eq hread h

namespace Attributes

theorem styleText_injective {a b : Attributes} (h : a.styleText = b.styleText) :
    a.style = b.style := by
  have hname (ss : List Style) : ∀ p ∈ ss.map Style.name, p ≠ [] ∧ ',' ∉ p := by
    intro p hp
    obtain ⟨s, -, rfl⟩ := List.mem_map.mp hp
    cases s <;> decide
  have hnames := Text.joinWith_inj (hname a.style) (hname b.style) h
  exact List.map_injective_iff.mpr (fun _ _ => Style.name_injective) hnames

/-! ## 5. Lists -/

/-- Whether two lists agree: a missing label counts as an empty one, a missing arrow head as `none`, and
    heights and widths agree as far as they are printed. -/
structure Alike (a b : Attributes) : Prop where
  shape : a.shape = b.shape
  label : a.labelText = b.labelText
  style : a.style = b.style
  margin : a.margin = b.margin
  fillcolor : a.fillcolor = b.fillcolor
  fontcolor : a.fontcolor = b.fontcolor
  dir : a.dir = b.dir
  arrowtail : a.arrowtail.getD .none = b.arrowtail.getD .none
  arrowhead : a.arrowhead.getD .none = b.arrowhead.getD .none
  taillabel : a.taillabel = b.taillabel
  headlabel : a.headlabel = b.headlabel
  labeldistance : a.labeldistance = b.labeldistance
  height : a.height.map Binary64.general = b.height.map Binary64.general
  width : a.width.map Binary64.general = b.width.map Binary64.general
  fontsize : a.fontsize = b.fontsize
  penwidth : a.penwidth = b.penwidth

/-- **Items that are the same come from lists that agree.** -/
theorem Told.alike {a b : Attributes} {is : List Item} (ha : a.Told is) (hb : b.Told is) :
    a.Alike b where
  shape := Shape.name_injective (Option.some.inj (ha.shape.symm.trans hb.shape))
  label := Option.some.inj (ha.label.symm.trans hb.label)
  style := styleText_injective (Option.some.inj (ha.style.symm.trans hb.style))
  margin := ha.margin.symm.trans hb.margin
  fillcolor := ha.fillcolor.symm.trans hb.fillcolor
  fontcolor := ha.fontcolor.symm.trans hb.fontcolor
  dir := ha.dir.symm.trans hb.dir
  arrowtail := ArrowHead.name_injective (Option.some.inj (ha.arrowtail.symm.trans hb.arrowtail))
  arrowhead := ArrowHead.name_injective (Option.some.inj (ha.arrowhead.symm.trans hb.arrowhead))
  taillabel := ha.taillabel.symm.trans hb.taillabel
  headlabel := ha.headlabel.symm.trans hb.headlabel
  labeldistance := Option.map_injective (fun _ _ => Text.ofInt_injective)
    (ha.labeldistance.symm.trans hb.labeldistance)
  height := ha.height.symm.trans hb.height
  width := ha.width.symm.trans hb.width
  fontsize := Option.map_injective (fun _ _ => Text.ofInt_injective)
    (ha.fontsize.symm.trans hb.fontsize)
  penwidth := Option.map_injective (fun _ _ => Text.ofInt_injective)
    (ha.penwidth.symm.trans hb.penwidth)

/-- Lists that agree have the same items. -/
theorem Alike.itemList {a b : Attributes} (h : a.Alike b) : a.itemList = b.itemList := by
  unfold Attributes.itemList styleText
  rw [h.shape, h.label, h.style, h.margin, h.fillcolor, h.fontcolor, h.dir, h.arrowtail, h.arrowhead,
    h.taillabel, h.headlabel, h.labeldistance, h.height, h.width, h.fontsize, h.penwidth]

end Attributes

/-- **What is written tells the list.** Two lists whose texts hold no backslash are written alike exactly
    if they agree in every attribute, whatever quotes, commas and equals signs stand in their texts. -/
theorem plain_eq_iff_alike {a b : Attributes} (ha : a.Unescaped) (hb : b.Unescaped) :
    a.plain = b.plain ↔ a.Alike b := by
  rw [Attributes.plain_eq_iff_items ha hb]
  constructor
  · intro h
    have hb := b.told_itemList
    rw [← h] at hb
    exact a.told_itemList.alike hb
  · exact fun h => h.itemList

/-- A label that imitates a style and a colour is not taken for them. -/
theorem plain_imitation :
    let imitating : Attributes :=
      { shape := .rectangle, label := some "x\" , style=\"\" , fillcolor=\"red".toList }
    let colored : Attributes :=
      { shape := .rectangle, label := some ['x'], fillcolor := some "red".toList }
    (imitating.Unescaped ∧ colored.Unescaped) ∧ imitating.plain ≠ colored.plain := by
  intro imitating colored
  have himitating : imitating.Unescaped := by constructor <;> simp [imitating]
  have hcolored : colored.Unescaped := by constructor <;> simp [colored]
  refine ⟨⟨himitating, hcolored⟩, fun h => ?_⟩
  have halike := (plain_eq_iff_alike himitating hcolored).mp h
  exact absurd halike.fillcolor (by decide)

/-- With a backslash in front of it, a quote is written as one that has none. -/
example : Attributes.quoteValue "a\"b".toList = Attributes.quoteValue "a\\\"b".toList := by decide

end Yuml
