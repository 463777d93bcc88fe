import Mathlib
import Yuml.Proofs.Cutting
import Yuml.World.Files

/-!
# Trees: what work on the files leaves behind

Storing a file at a path makes the directories on the way and then the file. This file says when
that succeeds and what the tree is like afterwards, whether it succeeds or not:

* `store_eq_ok_iff`: a file can be stored exactly where no file stands in place of a directory and no
  directory in place of the file (`Storable`), which is told from the tree before;
* `store_holds`: then the path leads to the bytes that were stored (`Holds`), and all that has changed
  elsewhere is that directories on the way to it are new (`GrowsTo`);
* `store_grows`: where storing fails, no file has changed and none is new.

A path is followed from its front, and directories are made from the last one that is there. So the
proofs here are by induction on a path from its end, and `follow_concat` says what one name more does.
-/

namespace Yuml.Files

variable {fs fs' fs'' : Files} {p q : Path} {root shown : Text} {before : List Text} {name : Text}
  {names : List Text} {bytes : List UInt8} {e : Entry} {f : Fault}

/-! ## 1. Following a path, name by name -/

/-- The directory in which a path with a root begins. -/
def origin (root : Text) : List Text := if root.isEmpty then [] else rootNames

/-- The names under which a path ends, if there is a directory at every name on the way. -/
def place (p : Path) : List Text := p.names.foldl descend (origin p.root)

theorem place_concat : place ⟨root, before ++ [name]⟩ = descend (place ⟨root, before⟩) name :=
  List.foldl_concat _ _ _ _

theorem get?_origin (fs : Files) (root : Text) : get? fs (origin root) = some .directory := by
  unfold get? origin
  split <;> rfl

/-- Where a path ends that goes one name further. -/
def further (fs : Files) (name : Text) : Found → Found
  | .entry here .directory =>
    match get? fs (descend here name) with
    | some e => .entry (descend here name) e
    | none => .free (descend here name)
  | .entry _ (.file _) => .blocked
  | .free _ => .lost
  | .lost => .lost
  | .blocked => .blocked

theorem followFrom_singleton (fs : Files) (here : List Text) (name : Text) :
    followFrom fs here [name] =
      match get? fs (descend here name) with
      | some e => .entry (descend here name) e
      | none => .free (descend here name) := rfl

theorem followFrom_cons_cons (fs : Files) (here : List Text) (first second : Text)
    (more : List Text) :
    followFrom fs here (first :: second :: more) =
      match get? fs (descend here first) with
      | some .directory => followFrom fs (descend here first) (second :: more)
      | some (.file _) => .blocked
      | none => .lost := rfl

theorem followFrom_concat (fs : Files) (here before : List Text) (name : Text) :
    followFrom fs here (before ++ [name]) = further fs name (followFrom fs here before) := by
  induction before generalizing here with
  | nil => rfl
  | cons first more ih =>
    cases more with
    | nil =>
      rw [List.cons_append, List.nil_append, followFrom_cons_cons, followFrom_singleton,
        followFrom_singleton]
      rcases get? fs (descend here first) with _ | _ | _ <;> rfl
    | cons second more =>
      have ih := ih (descend here first)
      rw [List.cons_append] at ih
      rw [List.cons_append, List.cons_append, followFrom_cons_cons, ih, followFrom_cons_cons]
      rcases get? fs (descend here first) with _ | _ | _ <;> rfl

theorem follow_concat (fs : Files) (root : Text) (before : List Text) (name : Text) :
    follow fs ⟨root, before ++ [name]⟩ = further fs name (follow fs ⟨root, before⟩) :=
  followFrom_concat _ _ _ _

/-- What following a path says about its place. -/
def Found.Agrees (fs : Files) (p : Path) : Found → Prop
  | .entry names e => names = place p ∧ get? fs names = some e
  | .free names => names = place p ∧ get? fs names = none
  | _ => True

/-- **Following a path ends at its place**, and says what stands there. -/
theorem follow_agrees (fs : Files) (root : Text) (names : List Text) :
    Found.Agrees fs ⟨root, names⟩ (follow fs ⟨root, names⟩) := by
  induction names using List.reverseRecOn with
  | nil => exact ⟨rfl, get?_origin fs root⟩
  | append_singleton before name ih =>
    rw [follow_concat]
    cases hfound : follow fs ⟨root, before⟩ with
    | entry here e =>
      rw [hfound] at ih
      obtain ⟨rfl, -⟩ := ih
      cases e with
      | file => trivial
      | directory =>
        rw [further, ← place_concat]
        cases hget : get? fs (place ⟨root, before ++ [name]⟩) with
        | none => exact ⟨rfl, hget⟩
        | some e => exact ⟨rfl, hget⟩
    | _ => trivial

theorem follow_entry (h : follow fs p = .entry names e) :
    names = place p ∧ get? fs names = some e := by
  have hagrees := follow_agrees fs p.root p.names
  rwa [show follow fs ⟨p.root, p.names⟩ = _ from h] at hagrees

theorem follow_free (h : follow fs p = .free names) : names = place p ∧ get? fs names = none := by
  have hagrees := follow_agrees fs p.root p.names
  rwa [show follow fs ⟨p.root, p.names⟩ = _ from h] at hagrees

/-! ## 2. Directories that stay -/

/-- A path along directories leads to the same one in a tree that has kept all directories. -/
theorem follow_directory_of_kept
    (hkept : ∀ n, get? fs n = some .directory → get? fs' n = some .directory)
    (h : follow fs p = .entry names .directory) : follow fs' p = .entry names .directory := by
  obtain ⟨root, ns⟩ := p
  induction ns using List.reverseRecOn generalizing names with
  | nil => exact h
  | append_singleton before name ih =>
    rw [follow_concat] at h ⊢
    cases hfound : follow fs ⟨root, before⟩ with
    | entry here e =>
      rw [hfound] at h
      cases e with
      | file => cases h
      | directory =>
        rw [ih hfound, further]
        rw [further] at h
        cases hget : get? fs (descend here name) with
        | none => rw [hget] at h; cases h
        | some e =>
          rw [hget] at h
          obtain ⟨rfl, rfl⟩ := Found.entry.inj h
          rw [hkept _ hget]
    | _ => rw [hfound] at h; cases h

/-- A path ends where a file can stand: at a file, or at a free name in a directory. -/
def EndsOpen (fs : Files) (p : Path) : Prop :=
  follow fs p = .free (place p) ∨ ∃ bytes, follow fs p = .entry (place p) (.file bytes)

theorem EndsOpen.get?_ne (h : EndsOpen fs p) : get? fs (place p) ≠ some .directory := by
  rcases h with h | ⟨bytes, h⟩
  · rw [(follow_free h).2]
    simp
  · rw [(follow_entry h).2]
    simp

theorem isFixed_of_get?_ne (h : get? fs names ≠ some .directory) : isFixed names = false := by
  by_contra hfixed
  exact h (if_pos (Bool.not_eq_false _ ▸ hfixed))

/-- The path before the last name of one that ends open is along directories. -/
theorem EndsOpen.exists_concat (h : EndsOpen fs p) :
    ∃ before name here, p.names = before ++ [name] ∧
      follow fs ⟨p.root, before⟩ = .entry here .directory := by
  obtain ⟨root, ns⟩ := p
  rcases List.eq_nil_or_concat' ns with rfl | ⟨before, name, rfl⟩
  · rcases h with h | ⟨bytes, h⟩ <;> cases h
  · refine ⟨before, name, ?_⟩
    unfold EndsOpen at h
    rw [follow_concat] at h
    cases hfound : follow fs ⟨root, before⟩ with
    | entry here e =>
      cases e with
      | directory => exact ⟨here, rfl, rfl⟩
      | file => rw [hfound] at h; rcases h with h | ⟨bytes, h⟩ <;> cases h
    | _ => rw [hfound] at h; rcases h with h | ⟨bytes, h⟩ <;> cases h

/-- **What is put at a path is found there.** -/
theorem EndsOpen.follow_put (h : EndsOpen fs p) (e : Entry) :
    follow (put fs (place p) e) p = .entry (place p) e := by
  have hfixed : isFixed (place p) = false := isFixed_of_get?_ne h.get?_ne
  have hkept (n : List Text) (hn : get? fs n = some .directory) :
      get? (put fs (place p) e) n = some .directory := by
    have hne : n ≠ place p := by
      rintro rfl
      exact h.get?_ne hn
    rw [get?_put_of_ne fs hne, hn]
  obtain ⟨before, name, here, hnames, hfollow⟩ := h.exists_concat
  obtain ⟨root, ns⟩ := p
  obtain rfl : ns = before ++ [name] := hnames
  have hbefore := follow_directory_of_kept hkept hfollow
  obtain ⟨rfl, -⟩ := follow_entry hfollow
  rw [follow_concat, hbefore, further, ← place_concat, get?_put_self fs hfixed]

/-! ## 3. Growth -/

/-- Some names are those at which a beginning of a path ends. -/
def OnTheWay (p : Path) (names : List Text) : Prop :=
  ∃ before, before <+: p.names ∧ names = place ⟨p.root, before⟩

theorem onTheWay_concat (h : OnTheWay ⟨root, before⟩ names) :
    OnTheWay ⟨root, before ++ [name]⟩ names := by
  obtain ⟨front, hfront, rfl⟩ := h
  exact ⟨front, hfront.trans (List.prefix_append _ _), rfl⟩

theorem onTheWay_place (p : Path) : OnTheWay p (place p) := ⟨p.names, List.prefix_rfl, rfl⟩

/-- A tree differs from an older one in new directories alone, which are all on the way to a path. -/
def GrowsTo (p : Path) (fs fs' : Files) : Prop :=
  ∀ names, get? fs' names = get? fs names ∨
    get? fs names = none ∧ get? fs' names = some .directory ∧ OnTheWay p names

theorem GrowsTo.refl (p : Path) (fs : Files) : GrowsTo p fs fs := fun _ => .inl rfl

theorem GrowsTo.trans (h : GrowsTo p fs fs') (h' : GrowsTo p fs' fs'') : GrowsTo p fs fs'' := by
  intro names
  rcases h' names with hsame | ⟨hnone, hnew, hway⟩
  · rw [hsame]
    exact h names
  · rcases h names with hsame | ⟨-, hsome, -⟩
    · exact .inr ⟨hsame ▸ hnone, hnew, hway⟩
    · rw [hnone] at hsome
      cases hsome

theorem GrowsTo.concat (h : GrowsTo ⟨root, before⟩ fs fs') :
    GrowsTo ⟨root, before ++ [name]⟩ fs fs' :=
  fun names => (h names).imp_right fun ⟨hnone, hnew, hway⟩ => ⟨hnone, hnew, onTheWay_concat hway⟩

theorem GrowsTo.file_iff (h : GrowsTo p fs fs') :
    get? fs' names = some (.file bytes) ↔ get? fs names = some (.file bytes) := by
  rcases h names with hsame | ⟨hnone, hnew, -⟩
  · rw [hsame]
  · rw [hnone, hnew]
    simp

theorem GrowsTo.directory (h : GrowsTo p fs fs') (hdir : get? fs names = some .directory) :
    get? fs' names = some .directory := by
  rcases h names with hsame | ⟨hnone, -⟩
  · rw [hsame, hdir]
  · rw [hdir] at hnone
    cases hnone

/-! ## 4. One step -/

/-- What making one directory does. -/
theorem makeLast_ok (h : makeLast fs p = .ok fs') :
    GrowsTo p fs fs' ∧ follow fs' p = .entry (place p) .directory := by
  unfold makeLast at h
  split at h
  · next names hfound =>
    obtain rfl := Except.ok.inj h
    obtain ⟨rfl, -⟩ := follow_entry hfound
    exact ⟨GrowsTo.refl p fs, hfound⟩
  · cases h
  · next names hfound =>
    obtain rfl := Except.ok.inj h
    obtain ⟨rfl, hnone⟩ := follow_free hfound
    have hopen : EndsOpen fs p := .inl hfound
    refine ⟨fun names => ?_, hopen.follow_put .directory⟩
    by_cases hne : names = place p
    · subst hne
      exact .inr ⟨hnone, get?_put_self fs (isFixed_of_get?_ne hopen.get?_ne) _, onTheWay_place p⟩
    · exact .inl (get?_put_of_ne fs hne _)
  · cases h
  · cases h

/-- A directory can be made where the one before it is and no file stands. -/
theorem exists_makeLast (hfile : ∀ bytes, get? fs (place p) ≠ some (.file bytes))
    (hlost : follow fs p ≠ .lost) (hblocked : follow fs p ≠ .blocked) :
    ∃ fs', makeLast fs p = .ok fs' := by
  unfold makeLast
  cases hfound : follow fs p with
  | entry names e =>
    cases e with
    | directory => exact ⟨fs, rfl⟩
    | file bytes =>
      obtain ⟨rfl, hget⟩ := follow_entry hfound
      exact absurd hget (hfile bytes)
  | free names => exact ⟨_, rfl⟩
  | lost => exact absurd hfound hlost
  | blocked => exact absurd hfound hblocked

/-- What writing a file does. -/
theorem write_ok (h : write fs p shown bytes = .ok fs') :
    EndsOpen fs p ∧ fs' = put fs (place p) (.file bytes) ∧ wantsDirectory shown = false := by
  unfold write at h
  split at h
  · cases h
  · next names old hfound =>
    obtain ⟨rfl, -⟩ := follow_entry hfound
    split at h
    · cases h
    · next hshown =>
      exact ⟨.inr ⟨old, hfound⟩, (Except.ok.inj h).symm, Bool.not_eq_true _ ▸ hshown⟩
  · next names hfound =>
    obtain ⟨rfl, -⟩ := follow_free hfound
    split at h
    · cases h
    split at h
    · cases h
    · next hshown => exact ⟨.inl hfound, (Except.ok.inj h).symm, Bool.not_eq_true _ ▸ hshown⟩
  · cases h
  · cases h

/-- A file can be written at a path that ends open. -/
theorem EndsOpen.write_eq (h : EndsOpen fs p) (hshown : wantsDirectory shown = false)
    (bytes : List UInt8) :
    write fs p shown bytes = .ok (put fs (place p) (.file bytes)) := by
  have hslash : Text.endsWith ['/'] shown = false := (Bool.or_eq_false_iff.mp hshown).1
  unfold write
  rcases h with hfound | ⟨old, hfound⟩
  · rw [hfound]
    simp only [hslash, hshown, Bool.false_eq_true, if_false]
  · rw [hfound]
    simp only [hshown, Bool.false_eq_true, if_false]

/-! ## 5. What work leaves -/

/-- Some work turns a tree into another one, whether it succeeds or not. -/
def Leaves {α : Type} (x : Work α) (fs fs' : Files) : Prop :=
  (∃ a, x.run fs = .ok a fs') ∨ ∃ f, x.run fs = .error f fs'

theorem run_bind_ok {α β : Type} {x : Work α} {k : α → Work β} {b : β}
    (h : (x >>= k).run fs = .ok b fs') :
    ∃ a mid, x.run fs = .ok a mid ∧ (k a).run mid = .ok b fs' := by
  rw [EStateM.run_bind] at h
  cases hx : x.run fs with
  | ok a mid => rw [hx] at h; exact ⟨a, mid, rfl, h⟩
  | error f mid => rw [hx] at h; cases h

theorem Leaves.bind {α β : Type} {x : Work α} {k : α → Work β} (h : Leaves (x >>= k) fs fs') :
    (∃ a mid, x.run fs = .ok a mid ∧ Leaves (k a) mid fs') ∨ ∃ f, x.run fs = .error f fs' := by
  unfold Leaves at h
  rw [EStateM.run_bind] at h
  cases hx : x.run fs with
  | ok a mid => rw [hx] at h; exact .inl ⟨a, mid, rfl, h⟩
  | error f mid =>
    rw [hx] at h
    rcases h with ⟨b, h⟩ | ⟨g, h⟩
    · cases h
    · obtain ⟨-, rfl⟩ := EStateM.Result.error.inj h
      exact .inr ⟨f, rfl⟩

theorem run_change_ok {g : Files → Except Fault Files} (h : g fs = .ok fs') :
    (Work.change g).run fs = .ok () fs' := by
  simp only [EStateM.run, Work.change, h]

theorem run_change_error {g : Files → Except Fault Files} (h : g fs = .error f) :
    (Work.change g).run fs = .error f fs := by
  simp only [EStateM.run, Work.change, h]

theorem change_run_ok {g : Files → Except Fault Files} {u : Unit}
    (h : (Work.change g).run fs = .ok u fs') : g fs = .ok fs' := by
  cases hg : g fs with
  | ok changed => rw [run_change_ok hg] at h; rw [(EStateM.Result.ok.inj h).2]
  | error e => rw [run_change_error hg] at h; cases h

theorem change_run_error {g : Files → Except Fault Files}
    (h : (Work.change g).run fs = .error f fs') : fs' = fs := by
  cases hg : g fs with
  | ok changed => rw [run_change_ok hg] at h; cases h
  | error e => rw [run_change_error hg] at h; exact (EStateM.Result.error.inj h).2.symm

/-- Making directories, by where the path to the last of them ends. -/
theorem run_makeAll_cons (fs : Files) (root name : Text) (before : List Text) :
    (Work.makeAll root (name :: before)).run fs =
      if follow fs ⟨root, (name :: before).reverse⟩ = .lost then
        (Work.makeAll root before >>= fun _ =>
          Work.change (·.makeLast ⟨root, (name :: before).reverse⟩)).run fs
      else (Work.change (·.makeLast ⟨root, (name :: before).reverse⟩)).run fs := by
  simp only [Work.makeAll, EStateM.run_bind, EStateM.run_get]
  split <;> rfl

theorem leaves_change {g : Files → Except Fault Files} (h : Leaves (Work.change g) fs fs') :
    g fs = .ok fs' ∨ fs' = fs := by
  rcases h with ⟨u, h⟩ | ⟨f, h⟩
  · exact .inl (change_run_ok h)
  · exact .inr (change_run_error h)

/-! ## 6. Making directories -/

theorem growsTo_of_leaves_makeLast (h : Leaves (Work.change (·.makeLast p)) fs fs') :
    GrowsTo p fs fs' := by
  rcases leaves_change h with h | rfl
  · exact (makeLast_ok h).1
  · exact GrowsTo.refl p fs'

/-- **Making directories leaves a tree that has grown on the way to them**, also where it fails. -/
theorem growsTo_of_leaves_makeAll {reversed : List Text}
    (h : Leaves (Work.makeAll root reversed) fs fs') :
    GrowsTo ⟨root, reversed.reverse⟩ fs fs' := by
  induction reversed generalizing fs' with
  | nil => exact growsTo_of_leaves_makeLast h
  | cons name before ih =>
    unfold Leaves at h
    rw [run_makeAll_cons] at h
    split at h
    · rcases Leaves.bind h with ⟨_, mid, hbefore, hlast⟩ | ⟨f, hbefore⟩
      · have hgrows := ih (.inl ⟨_, hbefore⟩)
        exact List.reverse_cons ▸ hgrows.concat.trans (List.reverse_cons ▸
          growsTo_of_leaves_makeLast hlast)
      · exact List.reverse_cons ▸ (ih (.inr ⟨f, hbefore⟩)).concat
    · exact growsTo_of_leaves_makeLast h

/-- Where making directories succeeds, there is a directory at the path. -/
theorem follow_of_makeAll {reversed : List Text}
    (h : (Work.makeAll root reversed).run fs = .ok () fs') :
    follow fs' ⟨root, reversed.reverse⟩ = .entry (place ⟨root, reversed.reverse⟩) .directory := by
  cases reversed with
  | nil => exact (makeLast_ok (change_run_ok h)).2
  | cons name before =>
    rw [run_makeAll_cons] at h
    split at h
    · obtain ⟨_, mid, -, hlast⟩ := run_bind_ok h
      exact (makeLast_ok (change_run_ok hlast)).2
    · exact (makeLast_ok (change_run_ok h)).2

/-- A path that is blocked leads over a file. -/
theorem exists_file_of_blocked (h : follow fs p = .blocked) :
    ∃ names bytes, OnTheWay p names ∧ get? fs names = some (.file bytes) := by
  obtain ⟨root, ns⟩ := p
  induction ns using List.reverseRecOn with
  | nil => cases h
  | append_singleton before name ih =>
    rw [follow_concat] at h
    cases hfound : follow fs ⟨root, before⟩ with
    | entry here e =>
      obtain ⟨rfl, hget⟩ := follow_entry hfound
      cases e with
      | file bytes => exact ⟨_, bytes, onTheWay_concat (onTheWay_place _), hget⟩
      | directory =>
        rw [hfound, further] at h
        split at h <;> cases h
    | blocked =>
      obtain ⟨names, bytes, hway, hget⟩ := ih hfound
      exact ⟨names, bytes, onTheWay_concat hway, hget⟩
    | free | lost => rw [hfound] at h; cases h

/-- **Directories can be made where no file stands on the way.** -/
theorem exists_makeAll {reversed : List Text}
    (hpass : ∀ names, OnTheWay ⟨root, reversed.reverse⟩ names →
      ∀ bytes, get? fs names ≠ some (.file bytes)) :
    ∃ fs', (Work.makeAll root reversed).run fs = .ok () fs' := by
  induction reversed with
  | nil => exact ⟨fs, run_change_ok rfl⟩
  | cons name before ih =>
    have hplace := hpass _ (onTheWay_place _)
    rw [run_makeAll_cons]
    split
    · obtain ⟨mid, hbefore⟩ := ih fun names hway => hpass names (List.reverse_cons ▸
        onTheWay_concat hway)
      have hgrows := growsTo_of_leaves_makeAll (.inl ⟨_, hbefore⟩)
      have hdirectory := follow_of_makeAll hbefore
      have hfound : follow mid ⟨root, (name :: before).reverse⟩ =
          further mid name (.entry (place ⟨root, before.reverse⟩) .directory) := by
        rw [List.reverse_cons, follow_concat, hdirectory]
      have hfile (bytes : List UInt8) :
          get? mid (place ⟨root, (name :: before).reverse⟩) ≠ some (.file bytes) :=
        fun hfile => hplace bytes (hgrows.file_iff.mp hfile)
      obtain ⟨fs', hlast⟩ := exists_makeLast hfile
        (by rw [hfound, further]; split <;> simp) (by rw [hfound, further]; split <;> simp)
      refine ⟨fs', ?_⟩
      rw [EStateM.run_bind, hbefore]
      exact run_change_ok hlast
    · next hlost =>
      have hblocked : follow fs ⟨root, (name :: before).reverse⟩ ≠ .blocked := by
        intro hblocked
        obtain ⟨names, bytes, hway, hfile⟩ := exists_file_of_blocked hblocked
        exact hpass names hway bytes hfile
      obtain ⟨fs', hlast⟩ := exists_makeLast hplace hlost hblocked
      exact ⟨fs', run_change_ok hlast⟩

/-- There are directories on the way to one. -/
theorem get?_onTheWay (h : follow fs p = .entry (place p) .directory) (hway : OnTheWay p names) :
    get? fs names = some .directory := by
  obtain ⟨root, ns⟩ := p
  obtain ⟨front, hfront, rfl⟩ := hway
  induction ns using List.reverseRecOn with
  | nil =>
    rw [List.prefix_nil.mp hfront]
    exact get?_origin fs root
  | append_singleton before name ih =>
    rcases List.prefix_concat_iff.mp hfront with rfl | hfront
    · exact (follow_entry h).2
    · rw [follow_concat] at h
      cases hfound : follow fs ⟨root, before⟩ with
      | entry here e =>
        obtain ⟨rfl, -⟩ := follow_entry hfound
        cases e with
        | directory => exact ih hfound hfront
        | file => rw [hfound] at h; cases h
      | _ => rw [hfound] at h; cases h

/-! ## 7. Storing a file -/

/-- A file can be stored at a path: no file stands in place of a directory on the way, and the path
    itself ends neither at a directory nor at one that has to be made on the way. -/
structure Storable (fs : Files) (p : Path) : Prop where
  passable : ∀ names, OnTheWay p.parent names → ∀ bytes, get? fs names ≠ some (.file bytes)
  noDirectory : get? fs (place p) ≠ some .directory
  apart : ¬ OnTheWay p.parent (place p)

/-- A path leads to a file of some bytes in a tree that is otherwise as an older one was, but for new
    directories on the way. -/
structure Holds (p : Path) (bytes : List UInt8) (fs fs' : Files) : Prop where
  found : follow fs' p = .entry (place p) (.file bytes)
  others : ∀ names, names ≠ place p → get? fs' names = get? fs names ∨
    get? fs names = none ∧ get? fs' names = some .directory ∧ OnTheWay p.parent names

theorem Holds.read_eq (h : Holds p bytes fs fs') (hshown : wantsDirectory shown = false) :
    read fs' p shown = .ok bytes := by
  rw [read, h.found]
  simp only [hshown, Bool.false_eq_true, if_false]

theorem growsTo_of_leaves_makeParent (h : Leaves (Work.makeParent p) fs fs') :
    GrowsTo p.parent fs fs' := by
  have hgrows := growsTo_of_leaves_makeAll h
  rwa [List.reverse_reverse] at hgrows

/-- Making the directory of a path makes those on the way to it. -/
theorem makeParent_ok (h : (Work.makeParent p).run fs = .ok () fs') :
    GrowsTo p.parent fs fs' ∧
      follow fs' p.parent = .entry (place p.parent) .directory := by
  have hfollow := follow_of_makeAll h
  rw [List.reverse_reverse] at hfollow
  exact ⟨growsTo_of_leaves_makeParent (.inl ⟨_, h⟩), hfollow⟩

theorem Storable.exists_makeParent (h : Storable fs p) :
    ∃ fs', (Work.makeParent p).run fs = .ok () fs' := by
  refine exists_makeAll fun names hway => h.passable names ?_
  rwa [List.reverse_reverse] at hway

/-- A path at which a file can be stored ends open once its directory has been made. -/
theorem Storable.endsOpen (h : Storable fs p) (hgrows : GrowsTo p.parent fs fs')
    (hparent : follow fs' p.parent = .entry (place p.parent) .directory) : EndsOpen fs' p := by
  obtain ⟨root, ns⟩ := p
  rcases List.eq_nil_or_concat' ns with rfl | ⟨before, name, rfl⟩
  · exact absurd (get?_origin fs root) h.noDirectory
  · have hbefore : Path.parent ⟨root, before ++ [name]⟩ = ⟨root, before⟩ := by
      rw [Path.parent, List.dropLast_concat]
    have hfollow : follow fs' ⟨root, before ++ [name]⟩ =
        match get? fs' (place ⟨root, before ++ [name]⟩) with
        | some e => .entry (place ⟨root, before ++ [name]⟩) e
        | none => .free (place ⟨root, before ++ [name]⟩) := by
      rw [hbefore] at hparent
      rw [follow_concat, hparent, further, ← place_concat]
    unfold EndsOpen
    rw [hfollow]
    rcases hget : get? fs' (place ⟨root, before ++ [name]⟩) with _ | _ | bytes
    · exact .inl rfl
    · -- A directory there would have been there before or be on the way.
      rcases hgrows (place ⟨root, before ++ [name]⟩) with hsame | ⟨-, -, hway⟩
      · exact absurd (hsame ▸ hget) h.noDirectory
      · exact absurd hway h.apart
    · exact .inr ⟨bytes, rfl⟩

/-- **When a file can be stored**, told from the tree before. -/
theorem store_eq_ok_iff (hshown : wantsDirectory shown = false) :
    (∃ fs', (Work.store p shown bytes).run fs = .ok () fs') ↔ Storable fs p := by
  constructor
  · rintro ⟨fs', hstore⟩
    obtain ⟨_, mid, hmake, hwrite⟩ := run_bind_ok hstore
    obtain ⟨hgrows, hparent⟩ := makeParent_ok hmake
    have hopen := (write_ok (change_run_ok hwrite)).1
    refine ⟨fun names hway bytes hfile => ?_, fun hdirectory => ?_, fun hway => ?_⟩
    · have hmid := hgrows.file_iff.mpr hfile
      rw [get?_onTheWay hparent hway] at hmid
      cases hmid
    · exact hopen.get?_ne (hgrows.directory hdirectory)
    · exact hopen.get?_ne (get?_onTheWay hparent hway)
  · intro h
    obtain ⟨mid, hmake⟩ := h.exists_makeParent
    obtain ⟨hgrows, hparent⟩ := makeParent_ok hmake
    have hwrite := (h.endsOpen hgrows hparent).write_eq hshown bytes
    refine ⟨put mid (place p) (.file bytes), ?_⟩
    rw [Work.store, EStateM.run_bind, hmake]
    exact run_change_ok hwrite

/-- **A file that has been stored is found at its path**, and nothing else has changed. -/
theorem store_holds (h : (Work.store p shown bytes).run fs = .ok () fs') : Holds p bytes fs fs' := by
  obtain ⟨_, mid, hmake, hwrite⟩ := run_bind_ok h
  obtain ⟨hopen, rfl, -⟩ := write_ok (change_run_ok hwrite)
  refine ⟨hopen.follow_put _, fun names hne => ?_⟩
  rw [get?_put_of_ne mid hne]
  exact (makeParent_ok hmake).1 names

/-- **Where storing a file fails, no file has changed.** -/
theorem store_grows (h : (Work.store p shown bytes).run fs = .error f fs') :
    GrowsTo p.parent fs fs' := by
  have hleaves : Leaves (Work.store p shown bytes) fs fs' := .inr ⟨f, h⟩
  rcases hleaves.bind with ⟨_, mid, hmake, -⟩ | ⟨g, hmake⟩
  · have hmid : fs' = mid := by
      rw [Work.store, EStateM.run_bind, hmake] at h
      exact change_run_error h
    exact hmid ▸ (makeParent_ok hmake).1
  · exact growsTo_of_leaves_makeParent (.inr ⟨g, hmake⟩)

/-! ## 8. Paths that are read from a text -/

/-- **The text of a path is not that of a directory**, however the path was written. -/
theorem wantsDirectory_text {s : Text} (h : (Path.ofText s).names ≠ []) :
    wantsDirectory (Path.ofText s).text = false := by
  obtain ⟨before, last, hnames⟩ := (List.eq_nil_or_concat' _).resolve_left h
  have hlast : last ∈ (Path.ofText s).names := by simp [hnames]
  obtain ⟨hpiece, hname⟩ := List.mem_filter.mp hlast
  have hslash : '/' ∉ last := Text.not_mem_of_mem_splitAt hpiece
  simp only [Bool.and_eq_true, Bool.not_eq_true', bne_iff_ne, List.isEmpty_eq_false_iff] at hname
  have htext : last <:+ (Path.ofText s).text := by
    have hsome : ((Path.ofText s).root.isEmpty && (Path.ofText s).names.isEmpty) = false := by
      rw [List.isEmpty_eq_false_iff.mpr h, Bool.and_false]
    rw [Path.text, hsome, hnames]
    exact (Text.suffix_joinWith _ _ _).trans (List.suffix_append _ _)
  -- A text and its last name end alike, as far as the shorter of them goes.
  have hends {part : Text} (hpart : '/' :: part <:+ (Path.ofText s).text) :
      last <:+ '/' :: part := by
    rcases List.suffix_or_suffix_of_suffix htext hpart with hsuffix | hsuffix
    · exact hsuffix
    · exact absurd (hsuffix.subset List.mem_cons_self) hslash
  have hslashless {part : Text} (hpart : '/' :: part <:+ (Path.ofText s).text) : last <:+ part := by
    rcases List.suffix_cons_iff.mp (hends hpart) with rfl | hsuffix
    · exact absurd List.mem_cons_self hslash
    · exact hsuffix
  refine Bool.or_eq_false_iff.mpr ⟨?_, ?_⟩
  · refine Bool.eq_false_iff.mpr fun hend => hname.1 ?_
    exact List.suffix_nil.mp (hslashless (List.isSuffixOf_iff_suffix.mp hend))
  · refine Bool.eq_false_iff.mpr fun hend => ?_
    rcases List.suffix_cons_iff.mp (hslashless (List.isSuffixOf_iff_suffix.mp hend)) with hdot | hnil
    · exact hname.2 hdot
    · exact hname.1 (List.suffix_nil.mp hnil)

theorem names_ne_nil_of_get?_ne (h : get? fs (place p) ≠ some .directory) : p.names ≠ [] := by
  intro hnames
  rw [place, hnames] at h
  exact h (get?_origin fs p.root)

/-- A file that has been stored at a path that is read from a text can be read there. -/
theorem Holds.read_text_eq {s : Text} (h : Holds (Path.ofText s) bytes fs fs')
    (hstorable : Storable fs (Path.ofText s)) :
    read fs' (Path.ofText s) (Path.ofText s).text = .ok bytes :=
  h.read_eq (wantsDirectory_text (names_ne_nil_of_get?_ne hstorable.noDirectory))

/-- When a file can be stored at a path that is read from a text. -/
theorem store_ofText_eq_ok_iff {s : Text} :
    (∃ fs', (Work.store (Path.ofText s) (Path.ofText s).text bytes).run fs = .ok () fs') ↔
      Storable fs (Path.ofText s) := by
  by_cases hnames : (Path.ofText s).names = []
  · constructor
    · rintro ⟨fs', hstore⟩
      obtain ⟨_, mid, -, hwrite⟩ := run_bind_ok hstore
      have hopen := (write_ok (change_run_ok hwrite)).1
      exact absurd hnames (names_ne_nil_of_get?_ne hopen.get?_ne)
    · exact fun h => absurd hnames (names_ne_nil_of_get?_ne h.noDirectory)
  · exact store_eq_ok_iff (wantsDirectory_text hnames)

end Yuml.Files
