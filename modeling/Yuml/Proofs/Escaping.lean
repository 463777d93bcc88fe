import Yuml.Label
import Yuml.Proofs.Cutting

/-!
# Escaping: one replacement after another

A label is escaped in one pass over its characters, and unescaped in one. The same can be done in
PASSES of one kind, each of which replaces one text by another wherever it occurs in the whole label
(`Text.replaceEach`): a pass for every character that is escaped, and a pass for every one that is
unescaped. This file shows that the two ways agree, on every text:

* a pass over single characters is a recursion on the text (`replace_singleton`), and passes after one
  another are one recursion, in which a character meets all of them (`escape_eq_replaceEach`);
* a pass that takes a backslash away from some characters leaves none behind that a later pass for
  OTHER characters takes for its own (`unguard_unguard`), so the passes of unescaping are one
  (`unescape_eq_replaceEach`).
-/

namespace Yuml

/-! ## 1. Replacing -/

namespace Text

/-- The text with every occurrence of a part replaced, found from the left and not overlapping. -/
def replace (part new s : Text) : Text := joinWith new (splitOnText part s)

/-- The text after some replacements, one behind the other. -/
def replaceEach (steps : List (Text × Text)) (s : Text) : Text :=
  steps.foldl (fun s step => replace step.1 step.2 s) s

variable {part new : Text}

@[simp] theorem replaceEach_nil (s : Text) : replaceEach [] s = s := rfl

@[simp] theorem replaceEach_cons (step : Text × Text) (steps : List (Text × Text)) (s : Text) :
    replaceEach (step :: steps) s = replaceEach steps (replace step.1 step.2 s) := rfl

/-- An occurrence at the front is replaced, and the search goes on behind it. -/
theorem replace_append (hne : part ≠ []) (r : Text) :
    replace part new (part ++ r) = new ++ replace part new r := by
  unfold replace
  rw [splitOnText_self_append hne]
  cases hr : splitOnText part r with
  | nil => exact absurd hr (splitOnText_ne_nil hne r)
  | cons p ps => rw [joinWith, List.nil_append]

/-- A character at which no occurrence begins stays. -/
theorem replace_cons {c : Char} {r : Text} (hne : part ≠ []) (h : ¬ part <+: c :: r) :
    replace part new (c :: r) = c :: replace part new r := by
  unfold replace
  rw [splitOnText_cons h]
  cases hr : splitOnText part r with
  | nil => exact absurd hr (splitOnText_ne_nil hne r)
  | cons p ps => cases ps <;> rfl

/-- A single character is replaced wherever it stands. -/
theorem replace_singleton (c : Char) (new s : Text) :
    replace [c] new s = s.flatMap fun d => if d = c then new else [d] := by
  induction s with
  | nil => rfl
  | cons d s ih =>
    by_cases hd : d = c
    · subst hd
      rw [List.flatMap_cons, if_pos rfl, ← ih]
      exact replace_append (List.cons_ne_nil d []) s
    · have hfront : ¬ [c] <+: d :: s := fun h => hd (List.cons_prefix_cons.mp h).1.symm
      rw [List.flatMap_cons, if_neg hd, ← ih, replace_cons (List.cons_ne_nil c []) hfront,
        List.singleton_append]

end Text

namespace Label

/-! ## 2. Escaping in passes -/

/-- The passes of escaping: a backslash in front of braces and angle brackets, and a line feed for a
    semicolon. -/
def escapes : List (Text × Text) :=
  [(['{'], ['\\', '{']), (['}'], ['\\', '}']), ([';'], ['\n']), (['<'], ['\\', '<']),
    (['>'], ['\\', '>'])]

/-- The passes of unescaping: the backslashes are taken away again. -/
def unescapes : List (Text × Text) := ['{', '}', '<', '>'].map fun c => (['\\', c], [c])

/-- **Escaping in passes is escaping.** No pass writes a character that a later one looks for. -/
theorem escape_eq_replaceEach (s : Text) : Label.escape s = Text.replaceEach escapes s := by
  simp only [escapes, Text.replaceEach_cons, Text.replaceEach_nil, Text.replace_singleton,
    List.flatMap_assoc]
  refine List.flatMap_congr fun c _ => ?_
  by_cases hopen : c = '{'
  · subst hopen
    rfl
  by_cases hclose : c = '}'
  · subst hclose
    rfl
  by_cases hsemi : c = ';'
  · subst hsemi
    rfl
  by_cases hless : c = '<'
  · subst hless
    rfl
  by_cases hgreater : c = '>'
  · subst hgreater
    rfl
  simp [escapeChar, isProtected, hopen, hclose, hsemi, hless, hgreater]

/-! ## 3. Unescaping in passes -/

/-- The text without the backslashes in front of some characters. -/
def unguard (p : Char → Bool) : Text → Text
  | [] => []
  | '\\' :: d :: r => if p d then d :: unguard p r else '\\' :: unguard p (d :: r)
  | c :: r => c :: unguard p r

variable {p q : Char → Bool}

theorem unescape_eq_unguard (s : Text) : Label.unescape s = unguard isProtected s := by
  fun_induction Label.unescape s with
  | case1 => rfl
  | case2 d r hd ih => rw [unguard, if_pos hd, ih]
  | case3 d r hd ih => rw [unguard, if_neg hd, ih]
  | case4 c r hc ih => rw [unguard, ih]; exact hc

theorem unguard_guarded {d : Char} (hd : p d = true) (r : Text) :
    unguard p ('\\' :: d :: r) = d :: unguard p r := by
  rw [unguard, if_pos hd]

/-- A character stays, unless it is the backslash in front of one of the characters. -/
theorem unguard_cons {c : Char} {r : Text} (h : c = '\\' → ∀ d ∈ r.head?, p d = false) :
    unguard p (c :: r) = c :: unguard p r := by
  by_cases hc : c = '\\'
  · subst hc
    cases r with
    | nil => rfl
    | cons d r =>
      have hd : ¬ p d = true := by simp [h rfl d rfl]
      rw [unguard, if_neg hd]
  · rw [unguard]
    intro d r e
    exact absurd e hc

theorem unguard_of_none (h : ∀ c, p c = false) (s : Text) : unguard p s = s := by
  induction s with
  | nil => rfl
  | cons c s ih => rw [unguard_cons fun _ d _ => h d, ih]

/-- What a text begins with when backslashes have been taken away: its first character, or the second
    one if this has lost its backslash. -/
theorem head?_unguard {s : Text} {c : Char} (h : c ∈ (unguard q s).head?) : c ∈ s.head? ∨ q c = true := by
  fun_cases unguard q s with
  | case1 => exact .inl h
  | case2 d r hd =>
    rw [unguard, if_pos hd] at h
    exact .inr (Option.some.inj h ▸ hd)
  | case3 d r hd =>
    rw [unguard, if_neg hd] at h
    exact .inl h
  | case4 e r he =>
    rw [unguard] at h
    · exact .inl h
    · exact he

/-- **Passes for different characters are one pass.** A backslash that the first pass leaves stands in
    front of the character that it stood in front of before, or of one that has lost its own: and this
    is none of the characters of the second pass. -/
theorem unguard_unguard (hpq : ∀ c, q c = true → p c = false) (hp : p '\\' = false)
    (hq : q '\\' = false) (s : Text) :
    unguard p (unguard q s) = unguard (fun c => p c || q c) s := by
  fun_induction unguard q s with
  | case1 => rfl
  | case2 d r hd ih =>
    have hne : d ≠ '\\' := fun e => by simp [e, hq] at hd
    have hboth : (p d || q d) = true := by simp [hd]
    rw [unguard_cons fun e => absurd e hne, ih, unguard_guarded hboth]
  | case3 d r hd ih =>
    by_cases hpd : p d = true
    · have hne : d ≠ '\\' := fun e => by simp [e, hp] at hpd
      have hkept : unguard q (d :: r) = d :: unguard q r := unguard_cons fun e => absurd e hne
      have hkept' : unguard (fun c => p c || q c) (d :: r) = d :: unguard (fun c => p c || q c) r :=
        unguard_cons fun e => absurd e hne
      rw [hkept, unguard_cons fun e => absurd e hne, hkept'] at ih
      rw [hkept, unguard_guarded hpd, (List.cons.inj ih).2, unguard_guarded (by simp [hpd])]
    · have hboth : ¬ (p d || q d) = true := by simp [hpd, hd]
      have hback : ∀ c ∈ (unguard q (d :: r)).head?, p c = false := by
        intro c hc
        rcases head?_unguard hc with h | h
        · obtain rfl := Option.some.inj h
          simpa using hpd
        · exact hpq c h
      rw [unguard_cons fun _ => hback, ih, unguard_cons (c := '\\') fun _ c hc => ?_]
      obtain rfl := Option.some.inj hc
      simpa using hboth
  | case4 c r hc ih =>
    have hcases : c = '\\' → r = [] := by
      rintro rfl
      cases r with
      | nil => rfl
      | cons d r => exact absurd rfl (hc d r rfl)
    have hnone : c = '\\' → ∀ d ∈ r.head?, (p d || q d) = false := by
      intro e d hd
      rw [hcases e] at hd
      cases hd
    have hnone' : c = '\\' → ∀ d ∈ (unguard q r).head?, p d = false := by
      intro e d hd
      rw [hcases e] at hd
      cases hd
    rw [unguard_cons hnone', ih, unguard_cons hnone]

/-- A pass of unescaping takes the backslashes away in front of one character. -/
theorem replace_eq_unguard {c : Char} (hc : c ≠ '\\') (s : Text) :
    Text.replace ['\\', c] [c] s = unguard (· == c) s := by
  have hne : ['\\', c] ≠ [] := List.cons_ne_nil _ _
  fun_induction unguard (· == c) s with
  | case1 => rfl
  | case2 d r hd ih =>
    obtain rfl : d = c := eq_of_beq hd
    exact (Text.replace_append hne r).trans (congrArg (d :: ·) ih)
  | case3 d r hd ih =>
    have hfront : ¬ ['\\', c] <+: '\\' :: d :: r := by
      intro h
      have hdc := (List.cons_prefix_cons.mp (List.cons_prefix_cons.mp h).2).1
      exact hd (beq_iff_eq.mpr hdc.symm)
    rw [Text.replace_cons hne hfront, ih]
  | case4 e r he ih =>
    have hfront : ¬ ['\\', c] <+: e :: r := by
      intro h
      obtain ⟨he', hr⟩ := List.cons_prefix_cons.mp h
      obtain ⟨rest, rfl⟩ := hr
      exact he _ _ he'.symm rfl
    rw [Text.replace_cons hne hfront, ih]

/-- A pass for each of some characters is one pass for all of them. -/
theorem replaceEach_eq_unguard {cs : List Char} (hcs : cs.Nodup) (hb : '\\' ∉ cs) (s : Text) :
    Text.replaceEach (cs.map fun c => (['\\', c], [c])) s = unguard cs.contains s := by
  induction cs generalizing s with
  | nil => exact (unguard_of_none (fun _ => rfl) s).symm
  | cons c cs ih =>
    obtain ⟨hc, hcs⟩ := List.nodup_cons.mp hcs
    obtain ⟨hcb, hb⟩ := List.ne_and_not_mem_of_not_mem_cons hb
    have hall : (c :: cs).contains = fun d => cs.contains d || d == c := by
      funext d
      rw [List.contains_cons, Bool.or_comm]
    have hother : ∀ d, (d == c) = true → cs.contains d = false := by
      intro d hd
      obtain rfl := eq_of_beq hd
      simpa using hc
    rw [List.map_cons, Text.replaceEach_cons, replace_eq_unguard hcb.symm, ih hcs hb, hall]
    exact unguard_unguard hother (by simpa using hb) (beq_eq_false_iff_ne.mpr hcb) s

/-- **Unescaping in passes is unescaping.** -/
theorem unescape_eq_replaceEach (s : Text) : Label.unescape s = Text.replaceEach unescapes s := by
  have hprotected : isProtected = ['{', '}', '<', '>'].contains := by
    funext c
    simp only [isProtected, List.contains_cons, List.contains_nil, Bool.or_false, Bool.or_assoc]
  rw [unescape_eq_unguard, hprotected]
  exact (replaceEach_eq_unguard (by decide) (by decide) s).symm

end Label

end Yuml
