import Mathlib.Data.List.Forall2

/-!
# Success: when a row of steps that may fail goes through

A document is compiled by steps in `Except`: a line is read token by token, a header directive by
directive, a chart identity by identity. This file says once when such a row goes through:

* `mapM_eq_ok_iff`: every step succeeds, and the results stand in the order of the inputs;
* `mapM_eq_error`: the error is that of the FIRST step that fails;
* `foldlM_ok`: a property that every step keeps, and that lets every step succeed, carries a fold.
-/

namespace Yuml

variable {ε α β γ σ : Type}

theorem bind_eq_ok_iff {x : Except ε α} {f : α → Except ε β} {b : β} :
    x >>= f = .ok b ↔ ∃ a, x = .ok a ∧ f a = .ok b := by
  cases x with
  | error e =>
    constructor
    · intro h
      cases h
    · rintro ⟨_, h, -⟩
      cases h
  | ok a =>
    constructor
    · exact fun h => ⟨a, rfl, h⟩
    · rintro ⟨_, h, hf⟩
      cases h
      exact hf

theorem map_eq_ok_iff {x : Except ε α} {f : α → β} {b : β} :
    x.map f = .ok b ↔ ∃ a, x = .ok a ∧ f a = b := by
  cases x with
  | error e =>
    constructor
    · intro h
      cases h
    · rintro ⟨_, h, -⟩
      cases h
  | ok a =>
    constructor
    · exact fun h => ⟨a, rfl, Except.ok.inj h⟩
    · rintro ⟨_, h, hf⟩
      cases h
      exact congrArg Except.ok hf

/-- Whether a step succeeds with a result that has a property. -/
def okAnd (p : α → Bool) : Except ε α → Bool
  | .ok a => p a
  | .error _ => false

theorem exists_of_okAnd {p : α → Bool} {x : Except ε α} (h : okAnd p x = true) :
    ∃ a, x = .ok a ∧ p a = true := by
  cases x with
  | error e => cases h
  | ok a => exact ⟨a, rfl, h⟩

theorem mapM_cons_ok {f : α → Except ε β} {a : α} {l : List α} {b : β} {r : List β}
    (ha : f a = .ok b) (hl : l.mapM f = .ok r) : (a :: l).mapM f = .ok (b :: r) := by
  rw [List.mapM_cons, ha, hl]
  rfl

/-- **A row of steps succeeds where every step does**, each with its own result. -/
theorem mapM_eq_ok_iff {f : α → Except ε β} {l : List α} {r : List β} :
    l.mapM f = .ok r ↔ List.Forall₂ (fun a b => f a = .ok b) l r := by
  induction l generalizing r with
  | nil =>
    rw [List.forall₂_nil_left_iff]
    exact ⟨fun h => (Except.ok.inj h).symm, fun h => h ▸ rfl⟩
  | cons a l ih =>
    rw [List.forall₂_cons_left_iff]
    constructor
    · intro h
      rw [List.mapM_cons, bind_eq_ok_iff] at h
      obtain ⟨b, hb, h⟩ := h
      obtain ⟨bs, hbs, h⟩ := bind_eq_ok_iff.mp h
      exact ⟨b, bs, hb, ih.mp hbs, (Except.ok.inj h).symm⟩
    · rintro ⟨b, bs, hb, hbs, rfl⟩
      exact mapM_cons_ok hb (ih.mpr hbs)

/-- A row of steps with a change of each result. -/
theorem mapM_map_result {f : α → Except ε β} {f' : α → Except ε γ} {k : β → γ}
    (hk : ∀ a, f' a = (f a).map k) (l : List α) : l.mapM f' = (l.mapM f).map (List.map k) := by
  induction l with
  | nil => rfl
  | cons a l ih =>
    rw [List.mapM_cons, List.mapM_cons, ih, hk]
    cases f a with
    | error e => rfl
    | ok b => cases l.mapM f <;> rfl

theorem mapM_ok {f : α → Except ε β} {l : List α} (h : ∀ a ∈ l, ∃ b, f a = .ok b) :
    ∃ r, l.mapM f = .ok r := by
  induction l with
  | nil => exact ⟨[], rfl⟩
  | cons a l ih =>
    obtain ⟨b, hb⟩ := h a List.mem_cons_self
    obtain ⟨r, hr⟩ := ih fun a' ha' => h a' (List.mem_cons_of_mem a ha')
    exact ⟨b :: r, mapM_cons_ok hb hr⟩

theorem forall_of_forall₂ {R : α → β → Prop} {p : β → Prop} {l : List α} {r : List β}
    (h : List.Forall₂ R l r) (hp : ∀ a ∈ l, ∀ b, R a b → p b) : ∀ b ∈ r, p b := by
  induction h with
  | nil => exact fun _ hb => absurd hb List.not_mem_nil
  | cons hab _ ih =>
    refine List.forall_mem_cons.mpr ⟨hp _ List.mem_cons_self _ hab, ih fun a ha => ?_⟩
    exact hp a (List.mem_cons_of_mem _ ha)

theorem forall_iff_of_forall₂ {R : α → β → Prop} {p : α → Prop} {q : β → Prop} {l : List α}
    {r : List β} (h : List.Forall₂ R l r) (hpq : ∀ a b, R a b → (p a ↔ q b)) :
    (∀ a ∈ l, p a) ↔ ∀ b ∈ r, q b := by
  induction h with
  | nil =>
    exact ⟨fun _ _ hb => absurd hb List.not_mem_nil, fun _ _ ha => absurd ha List.not_mem_nil⟩
  | cons hab _ ih => rw [List.forall_mem_cons, List.forall_mem_cons, hpq _ _ hab, ih]

/-- What holds of the result of every step holds of every result of the row. -/
theorem forall_of_mapM_eq_ok {f : α → Except ε β} {p : β → Prop} {l : List α} {r : List β}
    (h : l.mapM f = .ok r) (hp : ∀ a ∈ l, ∀ b, f a = .ok b → p b) : ∀ b ∈ r, p b :=
  forall_of_forall₂ (mapM_eq_ok_iff.mp h) hp

/-- Two lists that agree step by step in what `f` and `g` read from them have the same readings. -/
theorem map_eq_map_of_forall₂ {R : α → β → Prop} {l : List α} {r : List β} {f : α → γ} {g : β → γ}
    (h : List.Forall₂ R l r) (hfg : ∀ a b, R a b → f a = g b) : l.map f = r.map g := by
  induction h with
  | nil => rfl
  | cons hab _ ih => rw [List.map_cons, List.map_cons, hfg _ _ hab, ih]

theorem forall₂_filter {R : α → β → Prop} {l : List α} {r : List β} {p : α → Bool} {q : β → Bool}
    (h : List.Forall₂ R l r) (hpq : ∀ a b, R a b → p a = q b) :
    List.Forall₂ R (l.filter p) (r.filter q) := by
  induction h with
  | nil => exact .nil
  | cons hab _ ih =>
    rw [List.filter_cons, List.filter_cons, hpq _ _ hab]
    split
    · exact .cons hab ih
    · exact ih

theorem forall₂_concat_left {R : α → β → Prop} {front : List α} {a : α} {r : List β}
    (h : List.Forall₂ R (front ++ [a]) r) :
    ∃ read b, r = read ++ [b] ∧ List.Forall₂ R front read ∧ R a b := by
  induction front generalizing r with
  | nil =>
    obtain ⟨b, r', hab, hr', rfl⟩ := List.forall₂_cons_left_iff.mp h
    obtain rfl := List.forall₂_nil_left_iff.mp hr'
    exact ⟨[], b, rfl, .nil, hab⟩
  | cons x front ih =>
    obtain ⟨y, r', hxy, hr', rfl⟩ := List.forall₂_cons_left_iff.mp h
    obtain ⟨read, b, rfl, hread, hab⟩ := ih hr'
    exact ⟨y :: read, b, rfl, .cons hxy hread, hab⟩

theorem exists_getElem?_of_forall₂ {R : α → β → Prop} {l : List α} {r : List β}
    (h : List.Forall₂ R l r) {k : Nat} {a : α} (ha : l[k]? = some a) :
    ∃ b, r[k]? = some b ∧ R a b := by
  induction h generalizing k with
  | nil => cases ha
  | cons hab _ ih =>
    cases k with
    | zero =>
      cases ha
      exact ⟨_, rfl, hab⟩
    | succ k => exact ih ha

/-- The first member that a check finds stands beside the first that the same check finds. -/
theorem find?_of_forall₂ {R : α → β → Prop} {l : List α} {r : List β} {p : α → Bool} {q : β → Bool}
    (h : List.Forall₂ R l r) (hpq : ∀ a b, R a b → p a = q b) {a : α} (ha : l.find? p = some a) :
    ∃ b, r.find? q = some b ∧ R a b := by
  induction h with
  | nil => cases ha
  | cons hab _ ih =>
    rw [List.find?_cons] at ha ⊢
    rw [← hpq _ _ hab]
    split at ha
    · cases ha
      exact ⟨_, rfl, hab⟩
    · exact ih ha

theorem forall₂_comp {R : α → β → Prop} {S : β → γ → Prop} {l : List α} {m : List β} {r : List γ}
    (h : List.Forall₂ R l m) (h' : List.Forall₂ S m r) :
    List.Forall₂ (fun a c => ∃ b, R a b ∧ S b c) l r := by
  induction h generalizing r with
  | nil =>
    cases h'
    exact .nil
  | cons hab _ ih =>
    cases h' with
    | cons hbc h' => exact .cons ⟨_, hab, hbc⟩ (ih h')

/-- Two lists that are related to the same list, side by side. -/
theorem forall₂_zip {R : α → β → Prop} {S : α → γ → Prop} {l : List α} {m : List β} {r : List γ}
    (h : List.Forall₂ R l m) (h' : List.Forall₂ S l r) :
    List.Forall₂ (fun p c => R p.1 p.2 ∧ S p.1 c) (l.zip m) r := by
  induction h generalizing r with
  | nil =>
    cases h'
    exact .nil
  | cons hab _ ih =>
    cases h' with
    | cons hac h' => exact .cons ⟨hab, hac⟩ (ih h')

/-- **The error of a row of steps is that of the first step that fails.** -/
theorem mapM_eq_error {f : α → Except ε β} {front back : List α} {a : α} {e : ε}
    (hfront : ∀ x ∈ front, ∃ b, f x = .ok b) (ha : f a = .error e) :
    (front ++ a :: back).mapM f = .error e := by
  obtain ⟨r, hr⟩ := mapM_ok hfront
  rw [List.mapM_append, hr, List.mapM_cons, ha]
  rfl

/-- A row of steps fails with the error of one of them. -/
theorem exists_of_mapM_eq_error {f : α → Except ε β} {l : List α} {e : ε}
    (h : l.mapM f = .error e) : ∃ a ∈ l, f a = .error e := by
  induction l with
  | nil => cases h
  | cons a l ih =>
    rw [List.mapM_cons] at h
    cases ha : f a with
    | error e' =>
      rw [ha] at h
      cases h
      exact ⟨a, List.mem_cons_self, ha⟩
    | ok b =>
      rw [ha] at h
      cases hl : l.mapM f with
      | error e' =>
        rw [hl] at h
        cases h
        obtain ⟨a', ha', he⟩ := ih hl
        exact ⟨a', List.mem_cons_of_mem a ha', he⟩
      | ok r =>
        rw [hl] at h
        cases h

/-- **A property that every step keeps carries a fold** in which no step fails while it holds. -/
theorem foldlM_ok {f : σ → α → Except ε σ} {p : σ → Prop} {l : List α}
    (hstep : ∀ s, p s → ∀ a ∈ l, ∃ s', f s a = .ok s' ∧ p s') {s : σ} (hs : p s) :
    ∃ s', l.foldlM f s = .ok s' ∧ p s' := by
  induction l generalizing s with
  | nil => exact ⟨s, rfl, hs⟩
  | cons a l ih =>
    obtain ⟨s₁, h₁, hs₁⟩ := hstep s hs a List.mem_cons_self
    obtain ⟨s₂, h₂, hs₂⟩ := ih (fun s hs a' ha' => hstep s hs a' (List.mem_cons_of_mem a ha')) hs₁
    refine ⟨s₂, ?_, hs₂⟩
    rw [List.foldlM_cons, h₁]
    exact h₂

/-- The error of a fold is that of the first step that fails. -/
theorem foldlM_eq_error {f : σ → α → Except ε σ} {front back : List α} {a : α} {e : ε}
    {s s' : σ} (hfront : front.foldlM f s = .ok s') (ha : f s' a = .error e) :
    (front ++ a :: back).foldlM f s = .error e := by
  rw [List.foldlM_append, hfront]
  show (a :: back).foldlM f s' = .error e
  rw [List.foldlM_cons, ha]
  rfl

/-- What the states of a fold gather: each step adds what passes the filter of what it takes, while a
    property holds that it keeps. -/
theorem foldlM_gathers {f : σ → α → Except ε σ} {p : σ → Prop} {m : σ → List α} {q : α → Bool}
    (hstep : ∀ s a s', p s → f s a = .ok s' → p s' ∧ m s' = m s ++ [a].filter q) {l : List α}
    {s s' : σ} (hs : p s) (hl : l.foldlM f s = .ok s') : p s' ∧ m s' = m s ++ l.filter q := by
  induction l generalizing s with
  | nil =>
    obtain rfl := Except.ok.inj hl
    exact ⟨hs, (List.append_nil _).symm⟩
  | cons a l ih =>
    obtain ⟨t, ht, hrest⟩ := bind_eq_ok_iff.mp hl
    obtain ⟨hpt, hmt⟩ := hstep s a t hs ht
    obtain ⟨hps, hms⟩ := ih hpt hrest
    refine ⟨hps, ?_⟩
    rw [hms, hmt, List.append_assoc, ← List.filter_append]
    rfl

/-- A fold whose steps all commute with a change of the state commutes with it. -/
theorem foldlM_map_state {f : σ → α → Except ε σ} {k : σ → σ}
    (hk : ∀ s a, f (k s) a = (f s a).map k) (l : List α) (s : σ) :
    l.foldlM f (k s) = (l.foldlM f s).map k := by
  induction l generalizing s with
  | nil => rfl
  | cons a l ih =>
    rw [List.foldlM_cons, List.foldlM_cons, hk]
    cases f s a with
    | error e => rfl
    | ok s' => exact ih s'

end Yuml
