import Yuml.Directive
import Yuml.Proofs.Success
import Mathlib.Data.List.Induction

/-!
# Headers: which directives are accepted and what the last of them decides

A directive is accepted by what its key and its value are, whatever the options are at that moment
(`apply_of_accepted`, `apply_of_not_accepted`). So a header is refused at its FIRST directive that
is not accepted (`foldlM_apply_refused`), and the type of chart is that of its LAST directive of
that key (`chartType_of_lastType`), as the direction is that of the last one that sets it
(`direction_of_foldlM`).
-/

namespace Yuml

/-! ## 1. Names -/

theorem ChartType.ofName?_eq_some_iff {s : Text} {t : ChartType} :
    ChartType.ofName? s = some t ↔ t.name = s := by
  constructor
  · intro h
    exact eq_of_beq (List.find?_some (p := fun t : ChartType => t.name == s) h)
  · rintro rfl
    cases t <;> decide

theorem Direction.ofName?_eq_some_iff {s : Text} {d : Direction} :
    Direction.ofName? s = some d ↔ d.name = s := by
  constructor
  · intro h
    exact eq_of_beq (List.find?_some (p := fun d : Direction => d.name == s) h)
  · rintro rfl
    cases d <;> decide

namespace Directive

theorem flag?_isSome_iff {s : Text} :
    (∃ b, flag? s = some b) ↔ s = "true".toList ∨ s = "false".toList := by
  unfold flag?
  by_cases ht : s = "true".toList
  · rw [if_pos ht]
    exact ⟨fun _ => .inl ht, fun _ => ⟨true, rfl⟩⟩
  rw [if_neg ht]
  by_cases hf : s = "false".toList
  · rw [if_pos hf]
    exact ⟨fun _ => .inr hf, fun _ => ⟨false, rfl⟩⟩
  · rw [if_neg hf]
    constructor
    · rintro ⟨_, h⟩
      cases h
    · exact fun h => absurd h (not_or.mpr ⟨ht, hf⟩)

/-! ## 2. Single directives -/

/-- A directive whose key sets no option, or takes the value that it is given. -/
structure Accepted (d : Directive) : Prop where
  type : d.key = "type".toList → ∃ t : ChartType, t.name = d.value
  direction : d.key = "direction".toList → ∃ x : Direction, x.name = d.value
  generate : d.key = "generate".toList → d.value = "true".toList ∨ d.value = "false".toList

/-- **An accepted directive is applied**, and it sets the type of chart if that is its key. -/
theorem apply_of_accepted {d : Directive} (h : d.Accepted) (o : Options) :
    ∃ o', d.apply o = .ok o' ∧ o'.chartType =
      if d.key = "type".toList then ChartType.ofName? d.value else o.chartType := by
  unfold apply
  by_cases h₁ : d.key = "type".toList
  · obtain ⟨t, ht⟩ := h.type h₁
    simp only [h₁, if_true, ChartType.ofName?_eq_some_iff.mpr ht]
    exact ⟨_, rfl, rfl⟩
  rw [if_neg h₁, if_neg h₁]
  by_cases h₂ : d.key = "direction".toList
  · obtain ⟨x, hx⟩ := h.direction h₂
    simp only [h₂, if_true, Direction.ofName?_eq_some_iff.mpr hx]
    exact ⟨_, rfl, rfl⟩
  rw [if_neg h₂]
  by_cases h₃ : d.key = "generate".toList
  · obtain ⟨b, hb⟩ := flag?_isSome_iff.mpr (h.generate h₃)
    simp only [h₃, if_true, hb]
    exact ⟨_, rfl, rfl⟩
  · rw [if_neg h₃]
    exact ⟨o, rfl, rfl⟩

/-- **A directive that is not accepted is refused**, whatever the options are. -/
theorem apply_of_not_accepted {d : Directive} (h : ¬ d.Accepted) (o : Options) :
    d.apply o = .error (.directive d.key d.value) := by
  unfold apply
  by_cases h₁ : d.key = "type".toList
  · rw [if_pos h₁]
    cases ht : ChartType.ofName? d.value with
    | none => rfl
    | some t =>
      refine absurd ⟨fun _ => ⟨t, ChartType.ofName?_eq_some_iff.mp ht⟩, fun e => ?_, fun e => ?_⟩ h
      all_goals exact absurd (h₁.symm.trans e) (by decide)
  rw [if_neg h₁]
  by_cases h₂ : d.key = "direction".toList
  · rw [if_pos h₂]
    cases hx : Direction.ofName? d.value with
    | none => rfl
    | some x =>
      refine absurd ⟨fun e => absurd e h₁, fun _ => ⟨x, Direction.ofName?_eq_some_iff.mp hx⟩,
        fun e => ?_⟩ h
      exact absurd (h₂.symm.trans e) (by decide)
  rw [if_neg h₂]
  by_cases h₃ : d.key = "generate".toList
  · rw [if_pos h₃]
    cases hb : flag? d.value with
    | none => rfl
    | some b =>
      exact absurd ⟨fun e => absurd e h₁, fun e => absurd e h₂,
        fun _ => flag?_isSome_iff.mp ⟨b, hb⟩⟩ h
  · exact absurd ⟨fun e => absurd e h₁, fun e => absurd e h₂, fun e => absurd e h₃⟩ h

/-! ## 3. Headers -/

/-- The last directive among some that names a type of chart names this one. -/
def LastType (ds : List Directive) (t : ChartType) : Prop :=
  ∃ front back, ds = front ++ ⟨"type".toList, t.name⟩ :: back ∧ ∀ d ∈ back, d.key ≠ "type".toList

theorem LastType.not_forall_ne {ds : List Directive} {t : ChartType} (h : LastType ds t) :
    ¬ ∀ d ∈ ds, d.key ≠ "type".toList := by
  obtain ⟨front, back, rfl, -⟩ := h
  exact fun hall => hall _ (List.mem_append_right _ List.mem_cons_self) rfl

/-- A header of one directive that names a type of chart names this one last. -/
theorem lastType_singleton_iff {t u : ChartType} :
    LastType [⟨"type".toList, t.name⟩] u ↔ u = t := by
  constructor
  · rintro ⟨front, back, hsplit, -⟩
    cases front with
    | nil =>
      have hname : t.name = u.name := (Directive.mk.inj (List.cons.inj hsplit).1).2
      have hu := ChartType.ofName?_eq_some_iff.mpr hname.symm
      exact Option.some.inj (hu.symm.trans (ChartType.ofName?_eq_some_iff.mpr rfl))
    | cons d front => exact absurd (List.cons.inj hsplit).2.symm (by simp)
  · rintro rfl
    exact ⟨[], [], rfl, fun _ hd => absurd hd List.not_mem_nil⟩

theorem foldlM_apply_accepted {ds : List Directive} (h : ∀ d ∈ ds, d.Accepted) (o : Options) :
    ∃ o', ds.foldlM (fun o d => d.apply o) o = .ok o' := by
  obtain ⟨o', ho', -⟩ := foldlM_ok (p := fun _ => True) (l := ds) (s := o)
    (fun o _ d hd => (apply_of_accepted (h d hd) o).imp fun _ ho => ⟨ho.1, trivial⟩) trivial
  exact ⟨o', ho'⟩

/-- **A header is refused at its first directive that is not accepted.** -/
theorem foldlM_apply_refused {front back : List Directive} {d : Directive}
    (hfront : ∀ p ∈ front, p.Accepted) (hd : ¬ d.Accepted) (o : Options) :
    (front ++ d :: back).foldlM (fun o d => d.apply o) o = .error (.directive d.key d.value) := by
  obtain ⟨o', ho'⟩ := foldlM_apply_accepted hfront o
  exact foldlM_eq_error ho' (apply_of_not_accepted hd o')

/-- Directives of other keys leave the type of chart as it is. -/
theorem chartType_of_no_type {ds : List Directive} (h : ∀ d ∈ ds, d.Accepted)
    (hkey : ∀ d ∈ ds, d.key ≠ "type".toList) {o o' : Options}
    (ho : ds.foldlM (fun o d => d.apply o) o = .ok o') : o'.chartType = o.chartType := by
  induction ds generalizing o with
  | nil => cases ho; rfl
  | cons d ds ih =>
    obtain ⟨hd, hds⟩ := List.forall_mem_cons.mp h
    obtain ⟨hkd, hkds⟩ := List.forall_mem_cons.mp hkey
    obtain ⟨o₁, h₁, ht⟩ := apply_of_accepted hd o
    rw [List.foldlM_cons, h₁] at ho
    rw [ih hds hkds ho, ht, if_neg hkd]

/-- **The last directive that names a type of chart decides it.** -/
theorem chartType_of_lastType {ds : List Directive} (h : ∀ d ∈ ds, d.Accepted) {t : ChartType}
    (ht : LastType ds t) {o o' : Options} (ho : ds.foldlM (fun o d => d.apply o) o = .ok o') :
    o'.chartType = some t := by
  obtain ⟨front, back, rfl, hback⟩ := ht
  obtain ⟨hfront, h⟩ := List.forall_mem_append.mp h
  obtain ⟨hd, hb⟩ := List.forall_mem_cons.mp h
  obtain ⟨o₁, h₁⟩ := foldlM_apply_accepted hfront o
  obtain ⟨o₂, h₂, hct⟩ := apply_of_accepted hd o₁
  rw [List.foldlM_append, h₁] at ho
  have ho' : back.foldlM (fun o d => d.apply o) o₂ = .ok o' := by
    rw [← ho]
    show _ = List.foldlM (fun o d => apply d o) o₁ (⟨"type".toList, t.name⟩ :: back)
    rw [List.foldlM_cons, h₂]
    rfl
  rw [chartType_of_no_type hb hback ho', hct, if_pos rfl, ChartType.ofName?_eq_some_iff.mpr rfl]

/-- A header of accepted directives names no type of chart, or names one last. -/
theorem no_type_or_lastType {ds : List Directive} (h : ∀ d ∈ ds, d.Accepted) :
    (∀ d ∈ ds, d.key ≠ "type".toList) ∨ ∃ t, LastType ds t := by
  induction ds with
  | nil => exact .inl fun _ hd => absurd hd List.not_mem_nil
  | cons d ds ih =>
    obtain ⟨hd, hds⟩ := List.forall_mem_cons.mp h
    rcases ih hds with hno | ⟨t, front, back, rfl, hback⟩
    · by_cases hk : d.key = "type".toList
      · obtain ⟨t, ht⟩ := hd.type hk
        refine .inr ⟨t, [], ds, ?_, hno⟩
        rw [ht, ← hk]
        rfl
      · exact .inl (List.forall_mem_cons.mpr ⟨hk, hno⟩)
    · exact .inr ⟨t, d :: front, back, rfl, hback⟩

/-! ## 4. The direction -/

/-- The direction that the last directive of that key names; without one the chart grows downwards. -/
def lastDirection (ds : List Directive) : Direction :=
  ((ds.filter fun d => d.key = "direction".toList).getLast?.bind fun d =>
    Direction.ofName? d.value).getD .topDown

/-- A directive sets the direction if that is its key, and never the theme. -/
theorem direction_of_apply {d : Directive} {o o' : Options} (h : d.apply o = .ok o') :
    o'.dark = o.dark ∧
      (d.key = "direction".toList → Direction.ofName? d.value = some o'.direction) ∧
      (d.key ≠ "direction".toList → o'.direction = o.direction) := by
  unfold apply at h
  split at h
  · rename_i hk
    split at h
    · cases h
      exact ⟨rfl, fun e => absurd (hk.symm.trans e) (by decide), fun _ => rfl⟩
    · cases h
  split at h
  · rename_i hk
    split at h
    · rename_i x hx
      cases h
      exact ⟨rfl, fun _ => hx, fun e => absurd hk e⟩
    · cases h
  · rename_i hk
    split at h
    · split at h
      · cases h
        exact ⟨rfl, fun e => absurd e hk, fun _ => rfl⟩
      · cases h
    · cases h
      exact ⟨rfl, fun e => absurd e hk, fun _ => rfl⟩

/-- **The last directive of that key decides the direction**, and none decides the theme. -/
theorem direction_of_foldlM {ds : List Directive} {dark : Bool} {o : Options}
    (h : ds.foldlM (fun o d => d.apply o) (Options.default dark) = .ok o) :
    o.dark = dark ∧ o.direction = lastDirection ds := by
  induction ds using List.reverseRecOn generalizing o with
  | nil =>
    cases h
    exact ⟨rfl, rfl⟩
  | append_singleton ds d ih =>
    rw [List.foldlM_append] at h
    obtain ⟨o₁, h₁, h⟩ := bind_eq_ok_iff.mp h
    obtain ⟨o₂, h₂, h⟩ := bind_eq_ok_iff.mp h
    cases h
    obtain ⟨hdark, hdirection⟩ := ih h₁
    obtain ⟨hdark', hset, hkeep⟩ := direction_of_apply h₂
    refine ⟨hdark'.trans hdark, ?_⟩
    unfold lastDirection
    rw [List.filter_append]
    by_cases hk : d.key = "direction".toList
    · rw [List.filter_singleton, decide_eq_true hk, cond_true, List.getLast?_concat]
      exact congrArg (Option.getD · Direction.topDown) (hset hk).symm
    · rw [List.filter_singleton, decide_eq_false hk, cond_false, List.append_nil, hkeep hk]
      exact hdirection

end Directive

end Yuml
