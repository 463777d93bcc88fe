import Yuml.Proofs.Layout
import Yuml.Proofs.Segments

/-!
# Seams: two lines written as one

A document may be broken into lines between tokens. A SEAM (`Seam`) is a place where a line may end: no
closer is awaited there and no backslash waits for a character, and either the line is empty or ends
with the closer of a bracket, or the next line begins with an opener.

* What a scan has found before it starts is carried along and changes nothing (`Scan.run_behind`).
* At a seam a scan stands as it does before the first character, but for what it has found
  (`Scan.run_seam`). So the tokens of the two lines as one are those of the first followed by those of
  the second (`tokenize_append`).
* So are their elements, and a document compiles alike with its lines joined at a seam
  (`tokenize_seam`).
-/

namespace Yuml

namespace Scan

variable {openers : List Char} {s : Scan}

/-! ## 1. What was found before -/

/-- The scan with tokens in front of those that it has found. -/
def behind (front : List Token) (s : Scan) : Scan := { s with tokens := front ++ s.tokens }

theorem plain_behind (front : List Token) (s : Scan) (c : Char) :
    plain openers (s.behind front) c = (plain openers s c).map (behind front) := by
  obtain ⟨tokens, word, pending, lifted⟩ := s
  cases pending with
  | none => by_cases hc : c ∈ openers <;> simp [plain, behind, hc, Except.map]
  | some o =>
    cases hb : Bracket.ofOpener? o with
    | none => simp [plain, behind, hb, Except.map]
    | some b => by_cases hc : c = b.closer <;> simp [plain, behind, hb, hc, Except.map]

theorem step_behind (escape : Text) (front : List Token) (s : Scan) (c : Char) :
    step openers escape (s.behind front) c = (step openers escape s c).map (behind front) := by
  unfold step
  show (if s.lifted = true then _ else _) = _
  split
  · rfl
  · split
    · rfl
    · exact plain_behind front s c

/-- **What a scan has found before changes nothing** in what it reads. -/
theorem run_behind (escape : Text) (front : List Token) (s : Scan) (line : Text) :
    (s.behind front).run openers escape line = (s.run openers escape line).map (behind front) :=
  foldlM_map_state (step_behind escape front) line s

theorem finish_behind (escape : Text) (front : List Token) (s : Scan) :
    (s.behind front).finish openers escape = (s.finish openers escape).map (front ++ ·) := by
  have hsettle : (s.behind front).settle openers escape =
      (s.settle openers escape).map (behind front) := by
    unfold settle
    show (if s.lifted = true then _ else _) = _
    split
    · exact foldlM_map_state (plain_behind front) escape { s with lifted := false }
    · rfl
  unfold finish
  rw [hsettle]
  cases s.settle openers escape with
  | error o => rfl
  | ok t => exact congrArg Except.ok (List.append_assoc front t.tokens _)

/-! ## 2. Where a line may end -/

/-- Whether a line ends with a closer that closes a bracket. -/
def EndsClosed (openers : List Char) (line : Text) : Prop :=
  ∃ front b s, line = front ++ [Bracket.closer b] ∧
    start.run openers defaultEscape front = .ok s ∧ s.pending = some b.opener ∧ s.lifted = false

theorem EndsClosed.word_eq {line : Text} (h : EndsClosed openers line)
    (hs : start.run openers defaultEscape line = .ok s) : s.word = [] := by
  obtain ⟨front, b, s₀, rfl, hfront, hpending, hlifted⟩ := h
  have hstep : step openers defaultEscape s₀ b.closer = plain openers s₀ b.closer :=
    step_plain hlifted (b.closer_ne (by decide))
  have hclose := hstep.trans (plain_closer hpending)
  rw [run_append, hfront] at hs
  obtain rfl := Except.ok.inj ((run_cons hclose []).symm.trans hs)
  rfl

/-- **At a seam a scan stands as before the first character**, but for what it has found. -/
theorem run_seam (ho : Closable openers) (hs : s.Between) {line : Text}
    (h : s.word = [] ∨ ∃ c ∈ line.head?, c ∈ openers) :
    s.run openers defaultEscape line =
      (start.run openers defaultEscape line).map (behind s.found) := by
  have hfound : ∀ s : Scan, s.found ++ start.found = s.found := fun s => List.append_nil s.found
  rcases h with hword | ⟨c, hc, hopens⟩
  -- nothing is left over: the scan is the first one, behind what it has found
  · have hcarried : s = start.behind s.found := by
      obtain ⟨tokens, word, pending, lifted⟩ := s
      obtain rfl : word = [] := hword
      obtain ⟨rfl, rfl⟩ := hs
      simp [behind, found, start, Token.ofPiece]
    rw [← run_behind, ← hcarried]
  -- the opener ends what is left over, and both scans have read nothing but it
  · cases line with
    | nil => cases hc
    | cons c' r =>
      obtain rfl : c' = c := Option.some.inj hc
      have hne : c' ≠ '\\' := fun e => ho.not_mem (by decide) (e ▸ hopens)
      have hopen : ∀ {s : Scan}, s.Between → step openers defaultEscape s c' =
          .ok ⟨s.found, [c'], some c', s.lifted⟩ := fun hs =>
        (step_plain hs.lifted hne).trans (plain_opener hs.pending hopens)
      rw [run_cons (hopen hs), run_cons (hopen (s := start) ⟨rfl, rfl⟩), ← run_behind, behind,
        hfound, hs.lifted]
      rfl

end Scan

/-- Two lines that may be written as one: the scan of the first waits for nothing, and it has nothing
    left over or the second ends what is left over. -/
structure Seam (openers : List Char) (a b : Text) : Prop where
  between : ∃ s, Scan.start.run openers defaultEscape a = .ok s ∧ s.Between
  apart : a = [] ∨ Scan.EndsClosed openers a ∨ ∃ c ∈ b.head?, c ∈ openers

/-- **The tokens of two lines as one** are those of the first and those of the second. -/
theorem tokenize_append {openers : List Char} (ho : Closable openers) {a b : Text}
    (h : Seam openers a b) :
    ∃ ta, tokenize a openers defaultEscape = .ok ta ∧
      tokenize (a ++ b) openers defaultEscape =
        (tokenize b openers defaultEscape).map (ta ++ ·) := by
  obtain ⟨s, hrun, hs⟩ := h.between
  have hword : s.word = [] ∨ ∃ c ∈ b.head?, c ∈ openers := by
    rcases h.apart with rfl | hclosed | hopens
    · exact .inl (Except.ok.inj hrun ▸ rfl)
    · exact .inl (hclosed.word_eq hrun)
    · exact .inr hopens
  refine ⟨s.found, ?_, ?_⟩
  · rw [tokenize, hrun]
    exact hs.finish_eq
  · rw [tokenize, Scan.run_append, hrun, tokenize]
    show (s.run openers defaultEscape b).bind _ = _
    rw [Scan.run_seam ho hs hword]
    cases Scan.start.run openers defaultEscape b with
    | error o => rfl
    | ok t => exact Scan.finish_behind defaultEscape s.found t

/-! ## 3. Elements -/

theorem lineTexts_append {g : Grammar} {a b : Text} (h : Seam g.openers a b) :
    lineTexts g (a ++ b) = lineTexts g a ++ lineTexts g b := by
  obtain ⟨ta, ha, hab⟩ := tokenize_append (openers_closable g) h
  obtain ⟨tb, hb, -⟩ := tokenize_sound (openers_closable g) defaultEscape b
  rw [hb] at hab
  simp only [lineTexts, lineTokens, ha, hb, hab, Except.map, List.filter_append, List.map_append]

theorem ofLine_append {g : Grammar} {a b : Text} (h : Seam g.openers a b) (d : Direction) :
    Element.ofLine (a ++ b) g d =
      Element.ofLine a g d >>= fun es => Element.ofLine b g d >>= fun fs => pure (es ++ fs) := by
  rw [ofLine_eq, ofLine_eq, ofLine_eq, lineTexts_append h, List.mapM_append]

/-- Lines with two of them written as one are read alike. -/
theorem ofLines_joined {g : Grammar} {a b : Text} (h : Seam g.openers a b) (front back : List Text)
    (d : Direction) :
    Element.ofLines (front ++ (a ++ b) :: back) g d = Element.ofLines (front ++ a :: b :: back) g d := by
  have htexts : bodyTexts g (front ++ (a ++ b) :: back) = bodyTexts g (front ++ a :: b :: back) := by
    simp only [bodyTexts, List.flatMap_append, List.flatMap_cons, lineTexts_append h,
      List.append_assoc]
  rw [ofLines_eq, ofLines_eq, htexts]

/-! ## 4. Documents -/

/-- Two lines of a body as one are a line of a body. -/
theorem BodyLine.append {openers : List Char} (ho : Closable openers) {a b : Text}
    (ha : BodyLine a) (hb : BodyLine b) (h : Seam openers a b) : BodyLine (a ++ b) where
  trimmed := by
    refine Text.trim_eq_self (fun c hc => ?_) fun c hc => ?_
    · rw [List.head?_append_of_ne_nil a ha.ne_nil, ← ha.trimmed] at hc
      exact Text.head?_trim hc
    · rw [List.getLast?_append_of_ne_nil a hb.ne_nil, ← hb.trimmed] at hc
      exact Text.getLast?_trim hc
  ne_nil e := ha.ne_nil (List.append_eq_nil_iff.mp e).1
  oneLine := List.forall_mem_append.mpr ⟨ha.oneLine, hb.oneLine⟩
  not_comment := by
    have hna := ha.not_comment
    rw [← Bool.not_eq_true] at hna ⊢
    intro hc
    obtain ⟨r, hprefix⟩ := List.isPrefixOf_iff_prefix.mp hc
    have hr : '/' :: '/' :: r = a ++ b := hprefix
    -- A comment that neither line is begins in the last character of the first.
    match a, ha.ne_nil with
    | c :: d :: a, _ =>
      obtain ⟨rfl, hrest⟩ := List.cons.inj hr
      obtain ⟨rfl, -⟩ := List.cons.inj hrest
      exact hna (List.isPrefixOf_iff_prefix.mpr ⟨a, rfl⟩)
    | [c], _ =>
      obtain ⟨rfl, rfl⟩ := List.cons.inj hr
      rcases h.apart with e | ⟨front, x, s, hsplit, hrun, hpending, -⟩ | ⟨o, hfirst, hopens⟩
      · cases e
      · cases front with
        | nil =>
          obtain rfl := Except.ok.inj hrun
          cases hpending
        | cons y front => exact absurd (List.cons.inj hsplit).2.symm (by simp)
      · obtain rfl : '/' = o := Option.some.inj hfirst
        exact ho.not_mem (by decide) hopens

/-- Documents of one header and joined bodies compile alike. -/
theorem compile_joined {g : Grammar} {a b : Text} (h : Seam g.openers a b) {front back : List Text}
    {text text' : Text} (hheader : headerOf text' = headerOf text)
    (hbody : bodyLines text = front ++ a :: b :: back)
    (hbody' : bodyLines text' = front ++ (a ++ b) :: back)
    (hg : ∀ t, Directive.LastType (headerOf text) t → ∀ f, t.grammar? = some f → f = g)
    (dark : Bool) : Diagram.compile text' dark = Diagram.compile text dark := by
  have hoptions := Outcome.documentOptions_congr hheader dark
  cases ho : documentOptions text dark with
  | error e =>
    rw [Diagram.compile, Diagram.compile, hoptions, ho]
    rfl
  | ok o =>
    rw [Outcome.compile_of_options ho (by simp [hbody]),
      Outcome.compile_of_options (hoptions.trans ho) (by simp [hbody'])]
    cases ht : o.chartType with
    | none => rfl
    | some t =>
      dsimp only
      cases hgrammar : t.grammar? with
      | none => rfl
      | some f =>
        obtain rfl := hg t (Outcome.lastType_of_options ho ht) f hgrammar
        simp only [hbody, hbody', ofLines_joined h]

/-- **Line breaks between tokens do not matter.** At a seam the tokens of two lines as one are those of
    the one followed by those of the other, and so are the elements, or the first fault of the two in
    order. A document in which the two stand one behind the other has the same outcome with them
    as one line, in any layout, if it is of this grammar or of none. -/
theorem tokenize_seam {g : Grammar} {a b : Text} (h : Seam g.openers a b) :
    (∃ ta tb, tokenize a g.openers defaultEscape = .ok ta ∧
      tokenize b g.openers defaultEscape = .ok tb ∧
      tokenize (a ++ b) g.openers defaultEscape = .ok (ta ++ tb)) ∧
    (∀ d, Element.ofLine (a ++ b) g d =
      Element.ofLine a g d >>= fun es => Element.ofLine b g d >>= fun fs => pure (es ++ fs)) ∧
    ∀ ds front back text, Layout ds (front ++ a :: b :: back) text →
      (∀ t, Directive.LastType (headerOf text) t → ∀ f, t.grammar? = some f → f = g) →
      (∃ text', Layout ds (front ++ (a ++ b) :: back) text') ∧
      ∀ text', Layout ds (front ++ (a ++ b) :: back) text' →
        ∀ dark, compileText text' dark = compileText text dark := by
  refine ⟨?_, ofLine_append h, fun ds front back text hl hg => ⟨?_, fun text' hl' dark => ?_⟩⟩
  · obtain ⟨ta, ha, hab⟩ := tokenize_append (openers_closable g) h
    obtain ⟨tb, hb, -⟩ := tokenize_sound (openers_closable g) defaultEscape b
    rw [hb] at hab
    exact ⟨ta, tb, ha, hb, hab⟩
  · obtain ⟨hds, hbs⟩ := hl.lines
    obtain ⟨hfront, hbs⟩ := List.forall_mem_append.mp hbs
    obtain ⟨ha, hbs⟩ := List.forall_mem_cons.mp hbs
    obtain ⟨hb, hback⟩ := List.forall_mem_cons.mp hbs
    have hab := ha.append (openers_closable g) hb h
    exact ⟨_, .plain hds
      (List.forall_mem_append.mpr ⟨hfront, List.forall_mem_cons.mpr ⟨hab, hback⟩⟩)⟩
  · have hheader := hl'.reads.1.trans hl.reads.1.symm
    exact congrArg (Except.map Diagram.render)
      (compile_joined h hheader hl.reads.2 hl'.reads.2 hg dark)

/-- The first line ends with a closer behind an escaped one, and the second begins with an edge. -/
theorem tokenize_seam_escaped :
    Seam Grammar.activity.openers "(start)->(a\\))".toList "->(end)".toList ∧
    (∃ ta tb, tokenize "(start)->(a\\))".toList Grammar.activity.openers defaultEscape = .ok ta ∧
      tokenize "->(end)".toList Grammar.activity.openers defaultEscape = .ok tb ∧
      tokenize ("(start)->(a\\))".toList ++ "->(end)".toList) Grammar.activity.openers defaultEscape =
        .ok (ta ++ tb)) ∧
    ∃ text text', Layout ["// {type:activity}".toList]
        ["(start)->(a\\))".toList, "->(end)".toList] text ∧
      Layout ["// {type:activity}".toList] ["(start)->(a\\))".toList ++ "->(end)".toList] text' ∧
      compileText text' false = compileText text false := by
  have h : Seam Grammar.activity.openers "(start)->(a\\))".toList "->(end)".toList :=
    ⟨⟨_, rfl, rfl, rfl⟩, .inr (.inl ⟨"(start)->(a\\)".toList, .paren, _, rfl, rfl, rfl, rfl⟩)⟩
  have ha : BodyLine "(start)->(a\\))".toList := ⟨by decide, by decide, by decide, by decide⟩
  have hb : BodyLine "->(end)".toList := ⟨by decide, by decide, by decide, by decide⟩
  have hl : Layout ["// {type:activity}".toList] ([] ++ _ :: _ :: []) _ :=
    .plain (List.forall_mem_singleton.mpr ⟨by decide, by decide +kernel⟩)
      (List.forall_mem_cons.mpr ⟨ha, List.forall_mem_singleton.mpr hb⟩)
  have hheader : ["// {type:activity}".toList].filterMap Directive.ofLine? =
      [⟨"type".toList, "activity".toList⟩] := by decide +kernel
  obtain ⟨htokens, -, hdocument⟩ := tokenize_seam h
  obtain ⟨⟨text', hl'⟩, hsame⟩ := hdocument _ [] [] _ hl fun t ht f hf => by
    rw [hl.reads.1, hheader] at ht
    obtain rfl : t = .activity := Directive.lastType_singleton_iff.mp ht
    exact (Option.some.inj hf).symm
  exact ⟨h, htokens, _, text', hl, hl', hsame text' hl' false⟩

end Yuml
