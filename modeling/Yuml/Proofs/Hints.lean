import Mathlib
import Yuml.Fault
import Yuml.Proofs.Outcome
import Yuml.Proofs.SmallLetters

/-!
# Hints: which hint a bad expression gets

The hint of a fault is found by the first pattern that occurs in its message, and the message of a
bad expression holds the token of the user, in quotes. This file says what such a token can do to
the hint:

* `exists_infix_of_quoted`: a pattern that is found between the quotes stands in the token as it is;
* `occursIn_message_iff`: a pattern of the header is found in the message exactly if the token holds
  it, in any case of letters, and holds no double quote;
* `hint_expression`: so the hint is the one about brackets, unless the token IMITATES a fault of the
  header (`Imitates`).
-/

namespace Yuml

namespace Text

/-! ## 1. Occurrences -/

section Infix

variable {p ps a b s : Text} {x : Char}

/-- What does not hold a character stands before it or behind it. -/
theorem infix_append_cons_iff (h : x ∉ p) : p <:+: a ++ x :: b ↔ p <:+: a ∨ p <:+: b := by
  constructor
  · rintro ⟨front, back, hsplit⟩
    rcases List.append_eq_append_iff.mp hsplit with ⟨rest, rfl, -⟩ | ⟨rest, hfront, hback⟩
    · exact .inl ⟨front, rest, rfl⟩
    · cases rest with
      | nil => exact .inl ⟨front, [], by simpa using hfront⟩
      | cons y rest =>
        obtain ⟨rfl, rfl⟩ := List.cons.inj hback
        rcases List.append_eq_append_iff.mp hfront with ⟨r, rfl, hp⟩ | ⟨r, rfl, hp⟩
        · exact absurd (hp ▸ List.mem_append_right r List.mem_cons_self) h
        · cases r with
          | nil =>
            obtain rfl : x :: rest = p := hp
            exact absurd List.mem_cons_self h
          | cons y r =>
            obtain ⟨-, rfl⟩ := List.cons.inj hp
            exact .inr ⟨r, back, rfl⟩
  · rintro (h | h)
    · exact h.trans (List.prefix_append a _).isInfix
    · exact h.trans ((List.suffix_cons x b).trans (List.suffix_append a _)).isInfix

/-- What begins with another character begins behind the first one. -/
theorem infix_cons_of_ne {c : Char} (h : c ≠ x) : c :: ps <:+: x :: s ↔ c :: ps <:+: s := by
  refine List.infix_cons_iff.trans ⟨fun hi => hi.elim (fun hp => ?_) id, .inr⟩
  exact absurd (List.cons_prefix_cons.mp hp).1 h

/-- What begins with a character that a text does not hold begins behind that text. -/
theorem infix_append_of_not_mem {c : Char} (h : c ∉ a) (hi : c :: ps <:+: a ++ s) :
    c :: ps <:+: s := by
  induction a with
  | nil => exact hi
  | cons x a ih =>
    obtain ⟨hx, ha⟩ := not_or.mp (mt List.mem_cons.mpr h)
    exact ih ha ((infix_cons_of_ne hx).mp hi)

/-- All but the last character stands before the last character. -/
theorem infix_of_infix_concat {c : Char} (h : p ++ [c] <:+: s ++ [x]) : p <:+: s := by
  rcases List.infix_concat_iff.mp h with hs | hi
  · rcases List.suffix_concat_iff.mp hs with hnil | ⟨t, heq, ht⟩
    · exact absurd hnil (List.concat_ne_nil c p)
    · obtain ⟨rfl, -⟩ := List.append_inj' heq rfl
      exact ht.isInfix
  · exact (List.prefix_append p [c]).isInfix.trans hi

end Infix

/-! ## 2. Between quotes -/

/-- What may stand behind a backslash between quotes. -/
def escapeChars : Text := "\\'\"nrtxuU0123456789abcdef".toList

theorem mem_escapeChars_of_mem_toDigits {n : Nat} {c : Char} (h : c ∈ Nat.toDigits 16 n) :
    c ∈ escapeChars := by
  have hdigit : ∀ v < 16, Nat.digitChar v ∈ escapeChars := by decide
  induction n using Nat.strong_induction_on with
  | _ n ih =>
    rw [Nat.toDigits_eq_if (by decide)] at h
    split at h
    · rename_i hn
      obtain rfl := List.mem_singleton.mp h
      exact hdigit n hn
    · rename_i hn
      rcases List.mem_append.mp h with h | h
      · exact ih (n / 16) (Nat.div_lt_self (by omega) (by decide)) h
      · obtain rfl := List.mem_singleton.mp h
        exact hdigit (n % 16) (Nat.mod_lt n (by decide))

theorem mem_escapeChars_of_mem_hexPadded {width n : Nat} {c : Char} (h : c ∈ hexPadded width n) :
    c ∈ escapeChars := by
  rcases List.mem_append.mp h with h | h
  · obtain rfl := List.eq_of_mem_replicate h
    decide
  · exact mem_escapeChars_of_mem_toDigits h

/-- A character stands between quotes as it is, or it is escaped. -/
theorem quoteChar_cases {quote : Char} (hquote : quote ∈ ['\'', '"']) (c : Char) :
    (quoteChar quote c = [c] ∧ c ≠ quote) ∨
      ∃ tail, quoteChar quote c = '\\' :: tail ∧ ∀ d ∈ tail, d ∈ escapeChars := by
  have hhex : ∀ x ∈ escapeChars, ∀ width, ∀ d ∈ x :: hexPadded width c.toNat, d ∈ escapeChars :=
    fun x hx width => List.forall_mem_cons.mpr ⟨hx, fun _ => mem_escapeChars_of_mem_hexPadded⟩
  have hself : c = quote ∨ c = '\\' → c ∈ escapeChars := by
    have hall : ['\'', '"'].all (· ∈ escapeChars) = true := by decide
    rintro (rfl | rfl)
    · exact of_decide_eq_true (List.all_eq_true.mp hall c hquote)
    · decide
  unfold quoteChar
  split_ifs with hguard
  · exact .inr ⟨[c], rfl, List.forall_mem_singleton.mpr (hself hguard)⟩
  · exact .inr ⟨['n'], rfl, List.forall_mem_singleton.mpr (by decide)⟩
  · exact .inr ⟨['r'], rfl, List.forall_mem_singleton.mpr (by decide)⟩
  · exact .inr ⟨['t'], rfl, List.forall_mem_singleton.mpr (by decide)⟩
  · exact .inl ⟨rfl, fun h => hguard (.inl h)⟩
  · exact .inr ⟨_, rfl, hhex 'x' (by decide) 2⟩
  · exact .inr ⟨_, rfl, hhex 'u' (by decide) 4⟩
  · exact .inr ⟨_, rfl, hhex 'U' (by decide) 8⟩

section Quoted

variable {quote : Char} (hquote : quote ∈ ['\'', '"'])

include hquote

/-- What stands at the front between quotes and holds no backslash is not escaped. -/
theorem exists_prefix_of_quoted {p s : Text} (hp : '\\' ∉ p)
    (h : p <+: toLower (s.flatMap (quoteChar quote))) :
    ∃ u, u <+: s ∧ toLower u = p ∧ quote ∉ u := by
  induction s generalizing p with
  | nil =>
    obtain rfl : p = [] := List.prefix_nil.mp h
    exact ⟨[], List.nil_prefix, rfl, List.not_mem_nil⟩
  | cons c r ih =>
    cases p with
    | nil => exact ⟨[], List.nil_prefix, rfl, List.not_mem_nil⟩
    | cons x xs =>
      rw [List.flatMap_cons, toLower, List.map_append] at h
      obtain ⟨hx, hxs⟩ := not_or.mp (mt List.mem_cons.mpr hp)
      rcases quoteChar_cases hquote c with ⟨hc, hne⟩ | ⟨tail, hc, -⟩
      · rw [hc] at h
        obtain ⟨rfl, hr⟩ := List.cons_prefix_cons.mp h
        obtain ⟨u, hu, rfl, hquoted⟩ := ih hxs hr
        exact ⟨c :: u, List.cons_prefix_cons.mpr ⟨rfl, hu⟩, rfl, by simp [hquoted, Ne.symm hne]⟩
      · rw [hc] at h
        exact absurd (List.cons_prefix_cons.mp h).1 (Ne.symm hx)

/-- **What is found between quotes stands in the text as it is.** A backslash is in no pattern, and no
    pattern begins with what stands behind a backslash, so no part of an escape is found. -/
theorem exists_infix_of_quoted {x : Char} {xs s : Text}
    (hbegins : ∀ d ∈ escapeChars, lowerChar d ≠ x) (hp : '\\' ∉ x :: xs)
    (h : x :: xs <:+: toLower (s.flatMap (quoteChar quote))) :
    ∃ u, u <:+: s ∧ toLower u = x :: xs ∧ quote ∉ u := by
  induction s with
  | nil => exact absurd (List.infix_nil.mp h) (List.cons_ne_nil x xs)
  | cons c r ih =>
    have hbehind : x :: xs <:+: toLower (r.flatMap (quoteChar quote)) →
        ∃ u, u <:+: c :: r ∧ toLower u = x :: xs ∧ quote ∉ u := fun h => by
      obtain ⟨u, hu, heq, hquoted⟩ := ih h
      exact ⟨u, hu.trans (List.suffix_cons c r).isInfix, heq, hquoted⟩
    rcases quoteChar_cases hquote c with ⟨hc, -⟩ | ⟨tail, hc, htail⟩
    · have hcons : toLower ((c :: r).flatMap (quoteChar quote)) =
          lowerChar c :: toLower (r.flatMap (quoteChar quote)) := by
        rw [List.flatMap_cons, hc]
        rfl
      rcases List.infix_cons_iff.mp (hcons ▸ h) with hfront | h
      · obtain ⟨u, hu, heq, hquoted⟩ := exists_prefix_of_quoted hquote hp (hcons ▸ hfront)
        exact ⟨u, hu.isInfix, heq, hquoted⟩
      · exact hbehind h
    · rw [List.flatMap_cons, hc, toLower, List.map_append] at h
      have hx : x ≠ lowerChar '\\' := fun e => hp (e ▸ List.mem_cons_self)
      have hescape : x ∉ tail.map lowerChar := fun hmem => by
        obtain ⟨d, hd, rfl⟩ := List.mem_map.mp hmem
        exact hbegins d (htail d hd) rfl
      exact hbehind (infix_append_of_not_mem hescape ((infix_cons_of_ne hx).mp h))

end Quoted

/-! ## 3. What is shown as it is -/

/-- What has a printable ASCII character as its small letter is printable. -/
theorem isPrintable_of_lowerChar {c : Char} (h : 32 ≤ (lowerChar c).toNat)
    (h' : (lowerChar c).toNat ≤ 126) : isPrintable c = true := by
  by_cases hk : c = '\u212a'
  · subst hk
    decide +kernel
  · have hcode : 32 ≤ c.toNat ∧ c.toNat ≤ 126 := by
      rw [lowerChar, if_neg hk] at h h'
      by_cases hc : c.isUpper = true
      · have hupper : 65 ≤ c.toNat ∧ c.toNat ≤ 90 := by
          simpa [Char.isUpper, UInt32.le_iff_toNat_le, ← Char.toNat_val] using hc
        omega
      · rw [Char.toLower_eq_of_not_isUpper hc] at h h'
        exact ⟨h, h'⟩
    have hranges : ∀ r ∈ unprintableRanges, r.2 < 32 ∨ 126 < r.1 := by decide +kernel
    rw [isPrintable, any_range_eq_false hranges hcode.1 hcode.2]
    rfl

/-- A character whose small letter is printable ASCII is escaped only if it is the quote or a
    backslash. -/
theorem quoteChar_of_lowerChar {quote c : Char} (h : 32 ≤ (lowerChar c).toNat)
    (h' : (lowerChar c).toNat ≤ 126) (hquote : c ≠ quote) (hslash : c ≠ '\\') :
    quoteChar quote c = [c] := by
  have hcontrol : ∀ d : Char, (lowerChar d).toNat < 32 → c ≠ d := by
    rintro d hd rfl
    omega
  rw [quoteChar, if_neg (not_or.mpr ⟨hquote, hslash⟩), if_neg (hcontrol '\n' (by decide)),
    if_neg (hcontrol '\r' (by decide)), if_neg (hcontrol '\t' (by decide)),
    if_pos (isPrintable_of_lowerChar h h')]

/-- **A pattern in a text without the quote is found between quotes.** -/
theorem infix_quoted {p s : Text} {quote : Char} (hp : ∀ c ∈ p, 32 ≤ c.toNat ∧ c.toNat ≤ 126)
    (hslash : '\\' ∉ p) (hquote : quote ∉ s) (h : p <:+: toLower s) :
    p <:+: toLower (s.flatMap (quoteChar quote)) := by
  obtain ⟨u, ⟨front, back, rfl⟩, rfl⟩ := List.infix_map_iff.mp h
  have hkept : u.flatMap (quoteChar quote) = u := by
    have hchar : ∀ c ∈ u, quoteChar quote c = [c] := by
      intro c hc
      have hmem : lowerChar c ∈ u.map lowerChar := List.mem_map_of_mem hc
      obtain ⟨hlow, hhigh⟩ := hp _ hmem
      refine quoteChar_of_lowerChar hlow hhigh ?_ ?_
      · rintro rfl
        exact hquote (by simp [hc])
      · rintro rfl
        exact hslash hmem
    rw [List.flatMap_congr hchar, List.flatMap_singleton']
  have hsplit : toLower ((front ++ u ++ back).flatMap (quoteChar quote)) =
      toLower (front.flatMap (quoteChar quote)) ++ u.map lowerChar ++
        toLower (back.flatMap (quoteChar quote)) := by
    rw [List.flatMap_append, List.flatMap_append, hkept, toLower, List.map_append, List.map_append]
    rfl
  exact ⟨_, _, hsplit.symm⟩

end Text

/-! ## 4. Patterns of the header -/

/-- The reasons that are given for a bad expression. -/
def reasons : List Text := [invalidExpression, notOneConnector]

/-- The patterns that come before the one about expressions, with their hints. All of them are about
    the header. -/
def headerHints : List (Text × Text) := hints.take 4

/-- Behind the patterns of the header comes the one about expressions. -/
theorem hints_eq :
    hints = headerHints ++ ("invalid expression".toList, checkBrackets) :: hints.drop 5 := rfl

/-- How the patterns of the header are written: they begin with one of two letters, end in a quote
    that is not the only one, and are otherwise plain. -/
theorem headerHints_shape : ∀ h ∈ headerHints,
    (h.1.head? = some 'm' ∨ h.1.head? = some 'i') ∧ h.1.getLast? = some '\'' ∧
      '\'' ∈ h.1.dropLast ∧ ':' ∉ h.1 ∧ '"' ∉ h.1 ∧ '\\' ∉ h.1 ∧
      (h.1.all fun c => decide (32 ≤ c.toNat ∧ c.toNat ≤ 126)) = true ∧ h.2 ≠ checkBrackets := by
  decide +kernel

/-- A token that is quoted so that a fault of the header can be read in it. -/
def Imitates (token : Text) : Prop :=
  '"' ∉ token ∧ ∃ h ∈ headerHints, h.1 <:+: Text.toLower token

/-- The hint of a bad expression: that of the first pattern of the header which its token imitates, or
    the one about brackets. -/
def expressionHint (token : Text) : Text :=
  if '"' ∈ token then checkBrackets
  else ((headerHints.find? fun h => Text.occursIn h.1 (Text.toLower token)).map (·.2)).getD
    checkBrackets

/-- **A token gets the hint about brackets exactly if it imitates nothing.** -/
theorem expressionHint_eq_checkBrackets_iff {token : Text} :
    expressionHint token = checkBrackets ↔ ¬ Imitates token := by
  unfold expressionHint Imitates
  by_cases hquote : '"' ∈ token
  · simp [hquote]
  · rw [if_neg hquote]
    cases hfind : headerHints.find? fun h => Text.occursIn h.1 (Text.toLower token) with
    | none =>
      have hnone : ∀ h ∈ headerHints, ¬ h.1 <:+: Text.toLower token := fun h hh hocc =>
        List.find?_eq_none.mp hfind h hh (Text.occursIn_iff.mpr hocc)
      exact iff_of_true rfl fun himitates => himitates.2.elim fun h ⟨hh, hocc⟩ => hnone h hh hocc
    | some h =>
      have hh := List.mem_of_find?_eq_some hfind
      have hocc : h.1 <:+: Text.toLower token :=
        Text.occursIn_iff.mp (List.find?_some (p := fun h : Text × Text => Text.occursIn h.1 _) hfind)
      obtain ⟨-, -, -, -, -, -, -, hne⟩ := headerHints_shape h hh
      exact iff_of_false hne fun hnot => hnot ⟨hquote, h, hh, hocc⟩

/-! ## 5. Bad expressions -/

theorem quoteFor_mem (token : Text) : Text.quoteFor token ∈ ['\'', '"'] := by
  unfold Text.quoteFor
  split
  · exact List.mem_cons_of_mem _ List.mem_cons_self
  · exact List.mem_cons_self

/-- The message of a bad expression in small letters. -/
theorem toLower_message (token reason : Text) :
    Text.toLower (Fault.expression token reason).message =
      Text.toLower reason ++ ':' :: ' ' :: Text.quoteFor token ::
        (Text.toLower (token.flatMap (Text.quoteChar (Text.quoteFor token))) ++
          [Text.quoteFor token]) := by
  have hquote : Text.lowerChar (Text.quoteFor token) = Text.quoteFor token := by
    unfold Text.quoteFor
    split_ifs
    · decide
    · decide
  have hquoted : Text.toLower (Text.quoted token) = Text.quoteFor token ::
      (Text.toLower (token.flatMap (Text.quoteChar (Text.quoteFor token))) ++
        [Text.quoteFor token]) := by
    rw [Text.quoted, Text.toLower, List.map_cons, List.map_append, List.map_singleton, hquote]
    rfl
  have hcolon : Text.toLower ": ".toList = [':', ' '] := by decide
  have happend : ∀ s t, Text.toLower (s ++ t) = Text.toLower s ++ Text.toLower t := fun s t =>
    List.map_append
  have hmessage : (Fault.expression token reason).message =
      reason ++ ": ".toList ++ Text.quoted token := rfl
  rw [hmessage, happend, happend, hquoted, hcolon, List.append_assoc]
  rfl

section Message

variable {token reason : Text} (hreason : reason ∈ reasons)

include hreason

/-- **A pattern of the header is found in the message exactly if the token imitates it.** Between
    single quotes the first quote of a pattern would have a backslash in front, and the quote that
    opens the token stands behind a colon and a space. -/
theorem occursIn_message_iff {h : Text × Text} (hh : h ∈ headerHints) :
    Text.occursIn h.1 (Text.toLower (Fault.expression token reason).message) = true ↔
      '"' ∉ token ∧ h.1 <:+: Text.toLower token := by
  obtain ⟨p, hint⟩ := h
  obtain ⟨hhead, hlast, hinner, hcolon, hdouble, hslash, hplain, -⟩ := headerHints_shape _ hh
  dsimp only at hhead hlast hinner hcolon hdouble hslash hplain ⊢
  have hsingle : '\'' ∈ p := List.mem_of_mem_dropLast hinner
  have hreasons : ∀ r ∈ reasons, '\'' ∉ Text.toLower r := by decide
  have hnot : ¬ p <:+: Text.toLower reason := fun hocc => hreasons reason hreason (hocc.mem hsingle)
  obtain ⟨x, xs, rfl⟩ : ∃ x xs, p = x :: xs := by
    cases p with
    | nil => cases hsingle
    | cons x xs => exact ⟨x, xs, rfl⟩
  have hx : x = 'm' ∨ x = 'i' := hhead.imp Option.some.inj Option.some.inj
  have hspace : x ≠ ' ' := by
    rcases hx with rfl | rfl <;> decide
  have hopens : x ≠ Text.quoteFor token := by
    intro e
    have hmem := quoteFor_mem token
    rw [← e] at hmem
    revert hmem
    rcases hx with rfl | rfl <;> decide
  have hbegins : ∀ d ∈ Text.escapeChars, Text.lowerChar d ≠ x := by
    rcases hx with rfl | rfl
    · exact Text.forall_of_all (by decide)
    · exact Text.forall_of_all (by decide)
  rw [Text.occursIn_iff, toLower_message, Text.infix_append_cons_iff hcolon,
    or_iff_right hnot, Text.infix_cons_of_ne hspace, Text.infix_cons_of_ne hopens]
  by_cases hquote : '\'' ∈ token ∧ '"' ∉ token
  · have hfor : Text.quoteFor token = '"' := if_pos hquote
    rw [hfor, Text.infix_append_cons_iff hdouble, List.infix_nil,
      or_iff_left (List.cons_ne_nil x xs)]
    constructor
    · intro hocc
      obtain ⟨u, hu, heq, -⟩ := Text.exists_infix_of_quoted (by decide) hbegins hslash hocc
      exact ⟨hquote.2, heq ▸ hu.map Text.lowerChar⟩
    · rintro ⟨hdouble, hocc⟩
      exact Text.infix_quoted (Text.forall_of_all hplain) hslash hdouble hocc
  · have hfor : Text.quoteFor token = '\'' := if_neg hquote
    rw [hfor]
    refine iff_of_false (fun hocc => ?_) fun ⟨hdouble, hocc⟩ => ?_
    · obtain ⟨front, hfront⟩ : ∃ front, x :: xs = front ++ ['\''] :=
        ⟨_, (List.dropLast_append_getLast? _ hlast).symm⟩
      rw [hfront, List.dropLast_concat] at hinner
      rw [hfront] at hocc hslash
      obtain ⟨ys, rfl⟩ : ∃ ys, front = x :: ys := by
        cases front with
        | nil => cases hinner
        | cons y ys => exact ⟨ys, by rw [(List.cons.inj hfront).1]⟩
      obtain ⟨u, -, heq, hquoted⟩ := Text.exists_infix_of_quoted (by decide) hbegins
        (fun hmem => hslash (List.mem_append_left _ hmem)) (Text.infix_of_infix_concat hocc)
      rw [← heq] at hinner
      exact Text.not_mem_toLower (by decide) hquoted hinner
    · have hmem : '\'' ∈ Text.toLower token := hocc.mem hsingle
      refine Text.not_mem_toLower (by decide) (fun htoken => hquote ⟨htoken, hdouble⟩) hmem

/-- **The hint of a bad expression.** -/
theorem hint_expression : (Fault.expression token reason).hint = some (expressionHint token) := by
  have hown : Text.occursIn "invalid expression".toList
      (Text.toLower (Fault.expression token reason).message) = true := by
    have hreasons : ∀ r ∈ reasons, "invalid expression".toList <:+: Text.toLower r := by
      decide +kernel
    rw [Text.occursIn_iff, toLower_message]
    exact (hreasons reason hreason).trans (List.prefix_append _ _).isInfix
  have hhint : (Fault.expression token reason).hint =
      hintFor (Fault.expression token reason).message := rfl
  rw [hhint, hintFor, hints_eq, List.find?_append, List.find?_cons, hown, expressionHint]
  by_cases hquote : '"' ∈ token
  · have hnone : headerHints.find? (fun h => Text.occursIn h.1
        (Text.toLower (Fault.expression token reason).message)) = none :=
      List.find?_eq_none.mpr fun h hh hocc => ((occursIn_message_iff hreason hh).mp hocc).1 hquote
    rw [hnone, if_pos hquote]
    rfl
  · have hsame : headerHints.find? (fun h => Text.occursIn h.1
        (Text.toLower (Fault.expression token reason).message)) =
        headerHints.find? fun h => Text.occursIn h.1 (Text.toLower token) := by
      refine List.find?_congr fun h hh => Bool.eq_iff_iff.mpr ?_
      rw [occursIn_message_iff hreason hh, Text.occursIn_iff, and_iff_right hquote]
    rw [hsame, if_neg hquote]
    cases headerHints.find? fun h => Text.occursIn h.1 (Text.toLower token) <;> rfl

end Message

/-- A bad expression in a document has one of two reasons. -/
theorem reason_mem_of_compile {text token reason : Text} {dark : Bool}
    (h : Diagram.compile text dark = .error (.expression token reason)) : reason ∈ reasons := by
  have htext : compileText text dark = .error (.expression token reason) :=
    congrArg (Except.map _) h
  obtain ⟨o, ho⟩ := Outcome.exists_applies text
  have hdescribes := ho.describes dark
  rw [htext] at hdescribes
  cases o with
  | unread g token' =>
    obtain ⟨-, rfl⟩ := Fault.expression.inj (Except.error.inj hdescribes)
    unfold complaint
    split
    · exact List.mem_cons_of_mem _ List.mem_cons_self
    · exact List.mem_cons_self
  | drawn g =>
    obtain ⟨middle, hmiddle⟩ := hdescribes
    cases hmiddle
  | _ => cases hdescribes

end Yuml
