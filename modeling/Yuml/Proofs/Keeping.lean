import Yuml.Proofs.Outcome

/-!
# Keeping: options over a run of steps of which some fail

A caller may keep the options and go on after a directive that is refused. This file says what the
options are then, after any run of steps:

* `step_eq`: a step either assigns one option or fails, and a step that fails assigns nothing;
* `lastGiven`: what the last directive of a key gives, among those that are accepted;
* `step_settled`: the options hold what was given last, and every step keeps it so;
* `settled_swap`: steps of different keys do not see each other.
-/

namespace Yuml.Directive

/-! ## 1. Single steps -/

/-- **A step gives what applying the directive gives**, and where that is a fault, the options are
    those before the step. -/
theorem step_eq (d : Directive) (o : Options) :
    d.step o = match d.apply o with
      | .ok o' => (.ok (), o')
      | .error f => (.error f, o) := by
  unfold step update apply
  by_cases htype : d.key = "type".toList
  · rw [if_pos htype, if_pos htype]
    cases ChartType.ofName? d.value <;> rfl
  rw [if_neg htype, if_neg htype]
  by_cases hdirection : d.key = "direction".toList
  · rw [if_pos hdirection, if_pos hdirection]
    cases Direction.ofName? d.value <;> rfl
  rw [if_neg hdirection, if_neg hdirection]
  by_cases hgenerate : d.key = "generate".toList
  · rw [if_pos hgenerate, if_pos hgenerate]
    cases flag? d.value <;> rfl
  · rw [if_neg hgenerate, if_neg hgenerate]
    rfl

/-- A directive is refused if its key is known and does not take its value. -/
theorem key_mem_knownKeys_of_not_accepted {d : Directive} (h : ¬ d.Accepted) :
    d.key ∈ knownKeys := by
  by_contra hkey
  simp only [knownKeys, List.mem_cons, List.not_mem_nil, or_false, not_or] at hkey
  obtain ⟨htype, hdirection, hgenerate⟩ := hkey
  exact h ⟨fun e => absurd e htype, fun e => absurd e hdirection, fun e => absurd e hgenerate⟩

theorem step_of_not_accepted {d : Directive} (h : ¬ d.Accepted) (o : Options) :
    d.step o = (.error (.directive d.key d.value), o) := by
  rw [step_eq, apply_of_not_accepted h]

theorem step_of_accepted {d : Directive} (h : d.Accepted) (o : Options) :
    (d.step o).1 = .ok () := by
  obtain ⟨o', ho, -⟩ := apply_of_accepted h o
  rw [step_eq, ho]

/-- **A step fails exactly where a known key does not take its value.** -/
theorem step_eq_error_iff {d : Directive} {o : Options} :
    (∃ f, (d.step o).1 = .error f) ↔ d.key ∈ knownKeys ∧ ¬ d.Accepted := by
  constructor
  · rintro ⟨f, hf⟩
    have hrefused : ¬ d.Accepted := fun h => by
      rw [step_of_accepted h] at hf
      cases hf
    exact ⟨key_mem_knownKeys_of_not_accepted hrefused, hrefused⟩
  · rintro ⟨-, h⟩
    exact ⟨_, congrArg Prod.fst (step_of_not_accepted h o)⟩

theorem step_of_unknown {d : Directive} (h : d.key ∉ knownKeys) (o : Options) :
    d.step o = (.ok (), o) := by
  simp only [knownKeys, List.mem_cons, List.not_mem_nil, or_false, not_or] at h
  obtain ⟨htype, hdirection, hgenerate⟩ := h
  rw [step_eq, apply, if_neg htype, if_neg hdirection, if_neg hgenerate]

/-! ## 2. What was given last -/

/-- What the last directive of a key gives, among those whose value can be read. -/
def lastGiven {α : Type} (key : Text) (read : Text → Option α) (ds : List Directive) : Option α :=
  ((ds.filter fun d => d.key = key).filterMap fun d => read d.value).getLast?

/-- The options that hold what was given last; what was never given stays as it is. -/
def settled (o : Options) (ds : List Directive) : Options where
  chartType := (lastGiven "type".toList ChartType.ofName? ds).or o.chartType
  direction := (lastGiven "direction".toList Direction.ofName? ds).getD o.direction
  generate := (lastGiven "generate".toList flag? ds).getD o.generate
  dark := o.dark

section LastGiven

variable {α : Type} {key : Text} {read : Text → Option α}

theorem lastGiven_append (ds es : List Directive) :
    lastGiven key read (ds ++ es) = (lastGiven key read es).or (lastGiven key read ds) := by
  rw [lastGiven, List.filter_append, List.filterMap_append, List.getLast?_append]
  rfl

theorem lastGiven_self {d : Directive} (h : d.key = key) :
    lastGiven key read [d] = read d.value := by
  rw [lastGiven, List.filter_singleton, decide_eq_true h]
  cases hread : read d.value with
  | none => simp [hread]
  | some x => simp [hread]

theorem lastGiven_of_ne {d : Directive} (h : d.key ≠ key) : lastGiven key read [d] = none := by
  rw [lastGiven, List.filter_singleton, decide_eq_false h]
  rfl

/-- Two directives of different keys give the same in either order. -/
theorem lastGiven_pair {d e : Directive} (h : d.key ≠ e.key) :
    lastGiven key read [d, e] = lastGiven key read [e, d] := by
  rw [← List.singleton_append, lastGiven_append, ← List.singleton_append (l := [d]),
    lastGiven_append]
  by_cases hd : d.key = key
  · rw [lastGiven_of_ne fun he => h (hd.trans he.symm), Option.none_or, Option.or_none]
  · rw [lastGiven_of_ne hd, Option.none_or, Option.or_none]

end LastGiven

/-! ## 3. Runs of steps -/

/-- **A step settles what its directive gives**: the one option that its key names, if the value can
    be read, and no other. -/
theorem step_settled (d : Directive) (o : Options) : (d.step o).2 = settled o [d] := by
  rw [step_eq, apply, settled]
  by_cases htype : d.key = "type".toList
  · have hdirection : d.key ≠ "direction".toList := by rw [htype]; decide
    have hgenerate : d.key ≠ "generate".toList := by rw [htype]; decide
    rw [if_pos htype, lastGiven_self htype, lastGiven_of_ne hdirection, lastGiven_of_ne hgenerate]
    cases ChartType.ofName? d.value <;> rfl
  rw [if_neg htype, lastGiven_of_ne htype]
  by_cases hdirection : d.key = "direction".toList
  · have hgenerate : d.key ≠ "generate".toList := by rw [hdirection]; decide
    rw [if_pos hdirection, lastGiven_self hdirection, lastGiven_of_ne hgenerate]
    cases Direction.ofName? d.value <;> rfl
  rw [if_neg hdirection, lastGiven_of_ne hdirection]
  by_cases hgenerate : d.key = "generate".toList
  · rw [if_pos hgenerate, lastGiven_self hgenerate]
    cases flag? d.value <;> rfl
  · rw [if_neg hgenerate, lastGiven_of_ne hgenerate]
    rfl

/-- What was given in two runs is settled by the one and then by the other. -/
theorem settled_append (o : Options) (ds es : List Directive) :
    settled o (ds ++ es) = settled (settled o ds) es := by
  simp only [settled, lastGiven_append, Option.or_assoc, Option.getD_or]

/-- **Directives of different keys settle the same in either order.** -/
theorem settled_swap {d e : Directive} (h : d.key ≠ e.key) (o : Options)
    (front back : List Directive) :
    settled o (front ++ d :: e :: back) = settled o (front ++ e :: d :: back) := by
  have hcut : ∀ a b, settled o (front ++ a :: b :: back) =
      settled (settled (settled o front) [a, b]) back := fun a b => by
    rw [← settled_append, ← settled_append]
    rfl
  have hpair : settled (settled o front) [d, e] = settled (settled o front) [e, d] := by
    simp only [settled, lastGiven_pair h]
  rw [hcut, hcut, hpair]

/-- The options after a run of steps, of which some may have failed. -/
def kept (o : Options) (ds : List Directive) : Options := ds.foldl (fun o d => (d.step o).2) o

/-- **After a run the options hold what was given last.** -/
theorem kept_eq_settled (o : Options) (ds : List Directive) : kept o ds = settled o ds := by
  induction ds generalizing o with
  | nil => rfl
  | cons d ds ih =>
    have hfirst : kept o (d :: ds) = kept (d.step o).2 ds := rfl
    rw [hfirst, ih, step_settled, ← settled_append]
    rfl

/-- Each step of a run is taken on the options that the steps before it have left. -/
theorem getElem?_trace (ds : List Directive) (o : Options) (i : Nat) :
    (trace ds o)[i]? = ds[i]?.map fun d => d.step (kept o (ds.take i)) := by
  induction ds generalizing o i with
  | nil => rfl
  | cons d ds ih =>
    cases i with
    | zero => rfl
    | succ i => exact ih (d.step o).2 i

/-- A header whose directives are all accepted gives the options after the run. -/
theorem foldlM_apply_kept {ds : List Directive} (h : ∀ d ∈ ds, d.Accepted) (o : Options) :
    ds.foldlM (fun o d => d.apply o) o = .ok (kept o ds) := by
  induction ds generalizing o with
  | nil => rfl
  | cons d ds ih =>
    obtain ⟨hd, hds⟩ := List.forall_mem_cons.mp h
    obtain ⟨o', ho, -⟩ := apply_of_accepted hd o
    have hstep : (d.step o).2 = o' := by rw [step_eq, ho]
    rw [List.foldlM_cons, ho, ← hstep]
    exact ih hds (d.step o).2

/-! ## 4. Steps -/

/-- **Steps are atomic, and steps of different keys are independent.** After each step of a run the
    options hold what was given last up to there, and the theme is what it was. A step fails exactly
    where a known key does not take its value; then, and where the key is not known, it changes
    nothing. The header of a document is this run over the directives of its comments, up to the
    first that fails. -/
theorem trace_settles :
    (∀ (ds : List Directive) (o : Options) (i : Nat) (d : Directive), ds[i]? = some d →
      (trace ds o)[i]? = some ((d.step (kept o (ds.take i))).1, settled o (ds.take (i + 1)))) ∧
    (∀ (d : Directive) (o : Options),
      ((∃ f, (d.step o).1 = .error f) ↔ d.key ∈ knownKeys ∧ ¬ d.Accepted) ∧
      (¬ d.Accepted → d.step o = (.error (.directive d.key d.value), o)) ∧
      (d.key ∉ knownKeys → d.step o = (.ok (), o))) ∧
    (∀ (o : Options) (d e : Directive) (front back : List Directive), d.key ≠ e.key →
      kept o (front ++ d :: e :: back) = kept o (front ++ e :: d :: back)) ∧
    ∀ (lines : List Text) (dark : Bool),
      ((∀ d ∈ ofLines lines, d.Accepted) →
        Options.ofLines lines dark = .ok (kept (.default dark) (ofLines lines))) ∧
      ∀ d, FirstWithout Accepted (ofLines lines) d →
        Options.ofLines lines dark = .error (.directive d.key d.value) := by
  refine ⟨?_, fun d o => ⟨step_eq_error_iff, fun h => step_of_not_accepted h o,
    fun h => step_of_unknown h o⟩, ?_, fun lines dark => ⟨fun h => foldlM_apply_kept h _, ?_⟩⟩
  · intro ds o i d hd
    have htake : ds.take (i + 1) = ds.take i ++ [d] := by
      rw [List.take_add_one, hd]
      rfl
    rw [getElem?_trace, hd, htake, settled_append, ← step_settled, ← kept_eq_settled]
    rfl
  · intro o d e front back hkey
    rw [kept_eq_settled, kept_eq_settled, settled_swap hkey]
  · rintro d ⟨front, back, hsplit, hfront, hd⟩
    rw [Options.ofLines, hsplit]
    exact foldlM_apply_refused hfront hd _

/-- A run with a bad value and an unknown key, in two orders, and a header that is refused. -/
theorem trace_settles_mixed :
    let good : Directive := ⟨"type".toList, "class".toList⟩
    let bad : Directive := ⟨"type".toList, "castle".toList⟩
    let turned : Directive := ⟨"direction".toList, "leftToRight".toList⟩
    let unknown : Directive := ⟨"colour".toList, "red".toList⟩
    (trace [good, bad, unknown, turned] (.default true))[3]? =
        some (.ok (), ⟨some .classes, .leftToRight, false, true⟩) ∧
      bad.step (.default true) = (.error (.directive "type".toList "castle".toList), .default true) ∧
      unknown.step (.default true) = (.ok (), .default true) ∧
      kept (.default true) [good, bad, turned] = kept (.default true) [good, turned, bad] ∧
      Options.ofLines ["// \x7btype:class\x7d".toList, "// \x7btype:castle\x7d".toList] true =
        .error (.directive "type".toList "castle".toList) := by
  intro good bad turned unknown
  obtain ⟨htrace, hstep, hswap, hlines⟩ := trace_settles
  have hbad : ¬ bad.Accepted := fun h => by
    obtain ⟨t, ht⟩ := h.type rfl
    revert ht
    cases t <;> decide
  have hgood : good.Accepted := by
    refine ⟨fun _ => ⟨.classes, rfl⟩, fun h => absurd h (by decide), fun h => absurd h (by decide)⟩
  have hheader : ofLines ["// \x7btype:class\x7d".toList, "// \x7btype:castle\x7d".toList] =
      [good, bad] := by decide +kernel
  refine ⟨htrace [good, bad, unknown, turned] _ 3 turned rfl, (hstep bad _).2.1 hbad,
    (hstep unknown _).2.2 (by decide), hswap _ bad turned [good] [] (by decide), ?_⟩
  refine (hlines _ true).2 bad ⟨[good], [], hheader, ?_, hbad⟩
  exact List.forall_mem_singleton.mpr hgood

end Yuml.Directive
