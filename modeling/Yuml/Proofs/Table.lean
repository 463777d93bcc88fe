import Yuml.Identity
import Mathlib.Data.List.Nodup

/-!
# Identity tables: who owns which node

A table grows by one node after the other. `Claims ps t` says what it holds when the nodes `ps` have
claimed their keys, in this order:

* the identities are numbered from 1 without a gap (`ids`);
* their keys are the DISTINCT keys of the nodes, in the order of first occurrence (`keys`);
* each is owned by the first node that has its key (`owner`).

Every claim keeps this (`claim_claims`), so it is true of the table of every row
(`ofElements_claims`). What follows a row only adds to its table (`ofElements_prefix`). What a table
reports while it grows are the claims that came too late (`length_reuseEvents`).
-/

namespace Yuml.IdentityTable

/-- What a table holds when some nodes have claimed their keys in it, one after the other. -/
structure Claims (ps : List Placed) (t : IdentityTable) : Prop where
  ids : t.map (·.id) = (List.range t.length).map (· + 1)
  keys : t.map (·.key) = (ps.map Placed.key).eraseDups
  nodup : (t.map (·.key)).Nodup
  owner : ∀ i ∈ t, ps.find? (fun p => p.key == i.key) = some i.owner

/-! ## 1. Claiming -/

theorem has_iff {t : IdentityTable} {key : Text} : has t key = true ↔ key ∈ t.map (·.key) := by
  rw [has, List.any_eq_true, List.mem_map]
  constructor
  · rintro ⟨i, hi, h⟩
    exact ⟨i, hi, eq_of_beq h⟩
  · rintro ⟨i, hi, h⟩
    exact ⟨i, hi, beq_iff_eq.mpr h⟩

theorem claim_of_has {t : IdentityTable} {p : Placed} (h : has t p.key = true) : claim t p = t := by
  rw [claim, fresh?, if_pos h]
  exact List.append_nil t

theorem claim_of_not_has {t : IdentityTable} {p : Placed} (h : ¬ has t p.key = true) :
    claim t p = t ++ [⟨t.length + 1, p.key, p⟩] := by
  rw [claim, fresh?, if_neg h]
  rfl

theorem claims_nil : Claims [] [] where
  ids := rfl
  keys := rfl
  nodup := List.nodup_nil
  owner _ h := absurd h List.not_mem_nil

/-- A later node with another claim changes no owner. -/
theorem find?_append_of_some {ps qs : List Placed} {key : Text} {o : Placed}
    (h : ps.find? (fun p => p.key == key) = some o) :
    (ps ++ qs).find? (fun p => p.key == key) = some o := by
  rw [List.find?_append, h]
  rfl

/-- **A claim keeps what a table says**, whether it is the first of its key or not. -/
theorem claim_claims {ps : List Placed} {t : IdentityTable} (h : Claims ps t) (p : Placed) :
    Claims (ps ++ [p]) (claim t p) := by
  have hmem : has t p.key = true ↔ p.key ∈ ps.map Placed.key := by
    rw [has_iff, h.keys, List.mem_eraseDups]
  have hdups : ((ps ++ [p]).map Placed.key).eraseDups =
      (ps.map Placed.key).eraseDups ++ ([p.key].removeAll (ps.map Placed.key)).eraseDups := by
    rw [List.map_append, List.eraseDups_append]
    rfl
  by_cases hp : has t p.key = true
  · rw [claim_of_has hp]
    refine ⟨h.ids, ?_, h.nodup, fun i hi => find?_append_of_some (h.owner i hi)⟩
    have e : [p.key].removeAll (ps.map Placed.key) = [] := by
      simpa [List.removeAll] using hmem.mp hp
    rw [hdups, e, h.keys]
    exact (List.append_nil _).symm
  · rw [claim_of_not_has hp]
    have hnot : p.key ∉ ps.map Placed.key := fun e => hp (hmem.mpr e)
    refine ⟨?_, ?_, ?_, fun i hi => ?_⟩
    · rw [List.map_append, h.ids, List.length_append, List.length_singleton, List.range_succ,
        List.map_append]
      rfl
    · have e : [p.key].removeAll (ps.map Placed.key) = [p.key] := by
        simpa [List.removeAll] using hnot
      rw [hdups, e, List.map_append, h.keys]
      rfl
    · rw [List.map_append]
      refine List.nodup_append.mpr ⟨h.nodup, List.nodup_singleton _, ?_⟩
      rintro a ha b hb rfl
      obtain rfl : a = p.key := List.mem_singleton.mp hb
      exact hp (has_iff.mpr ha)
    · rcases List.mem_append.mp hi with hi | hi
      · exact find?_append_of_some (h.owner i hi)
      · obtain rfl := List.mem_singleton.mp hi
        have hnone : ps.find? (fun q => q.key == p.key) = none := by
          refine List.find?_eq_none.mpr fun q hq e => hnot ?_
          exact eq_of_beq e ▸ List.mem_map_of_mem hq
        rw [List.find?_append, hnone, List.find?_singleton, if_pos (beq_self_eq_true _)]
        rfl

theorem foldl_claims {ps : List Placed} {t : IdentityTable} (h : Claims ps t) (qs : List Placed) :
    Claims (ps ++ qs) (qs.foldl claim t) := by
  induction qs generalizing ps t with
  | nil => rwa [List.append_nil]
  | cons q qs ih =>
    have := ih (claim_claims h q)
    rwa [List.append_assoc] at this

/-- **The table of a row**: the nodes of the row have claimed their keys in order. -/
theorem ofElements_claims (row : List Placed) :
    Claims (row.filter fun p => !p.isEdge) (ofElements row) := foldl_claims claims_nil _

/-! ## 2. Finding -/

section Finding

variable {ps : List Placed} {t : IdentityTable}

theorem Claims.owner_mem (h : Claims ps t) {i : Identity} (hi : i ∈ t) : i.owner ∈ ps :=
  List.mem_of_find?_eq_some (h.owner i hi)

theorem Claims.owner_key (h : Claims ps t) {i : Identity} (hi : i ∈ t) : i.owner.key = i.key :=
  eq_of_beq (List.find?_some (p := fun p : Placed => p.key == i.key) (h.owner i hi))

theorem Claims.length (h : Claims ps t) : t.length = (ps.map Placed.key).eraseDups.length := by
  rw [← h.keys, List.length_map]

/-- Two identities with one key are one. -/
theorem Claims.eq_of_key (h : Claims ps t) {i j : Identity} (hi : i ∈ t) (hj : j ∈ t)
    (hk : i.key = j.key) : i = j := List.inj_on_of_nodup_map h.nodup hi hj hk

/-- The identity at a position has the number behind it. -/
theorem Claims.id_of_getElem? (h : Claims ps t) {k : Nat} {i : Identity} (hi : t[k]? = some i) :
    i.id = k + 1 := by
  have e : (t.map (·.id))[k]? = some i.id := by rw [List.getElem?_map, hi]; rfl
  rw [h.ids, List.getElem?_map] at e
  obtain ⟨j, hj, hji⟩ := Option.map_eq_some_iff.mp e
  obtain ⟨hk, hkj⟩ := List.getElem?_eq_some_iff.mp hj
  rw [List.getElem_range] at hkj
  rw [← hji, ← hkj]

/-- Two identities with one number are one. -/
theorem Claims.eq_of_id (h : Claims ps t) {i j : Identity} (hi : i ∈ t) (hj : j ∈ t)
    (he : i.id = j.id) : i = j := by
  obtain ⟨k, hk⟩ := List.mem_iff_getElem?.mp hi
  obtain ⟨l, hl⟩ := List.mem_iff_getElem?.mp hj
  rw [h.id_of_getElem? hk, h.id_of_getElem? hl] at he
  obtain rfl := Nat.succ.inj he
  exact Option.some.inj (hk.symm.trans hl)

/-- An identity is found by its number. -/
theorem Claims.find?_id (h : Claims ps t) {i : Identity} (hi : i ∈ t) :
    t.find? (fun j => (j.id : Int) == i.id) = some i := by
  have hsome : (t.find? fun j => (j.id : Int) == i.id).isSome = true :=
    List.find?_isSome.mpr ⟨i, hi, beq_self_eq_true _⟩
  obtain ⟨j, hj⟩ := Option.isSome_iff_exists.mp hsome
  have hid : (j.id : Int) = i.id :=
    eq_of_beq (List.find?_some (p := fun j : Identity => (j.id : Int) == i.id) hj)
  rw [hj, h.eq_of_id (List.mem_of_find?_eq_some hj) hi (Int.ofNat.inj hid)]

/-- **Every node that has claimed its key is found again.** -/
theorem Claims.lookup_isSome (h : Claims ps t) {p : Placed} (hp : p ∈ ps) :
    ∃ i, lookup t p = some i := by
  have hk : p.key ∈ t.map (·.key) := by
    rw [h.keys, List.mem_eraseDups]
    exact List.mem_map_of_mem hp
  obtain ⟨i, hi, e⟩ := List.mem_map.mp hk
  exact Option.isSome_iff_exists.mp (List.find?_isSome.mpr ⟨i, hi, beq_iff_eq.mpr e⟩)

end Finding

/-! ## 3. Growing -/

/-- Claims only add to a table. -/
theorem prefix_foldl_claim (t : IdentityTable) (ps : List Placed) : t <+: ps.foldl claim t := by
  induction ps generalizing t with
  | nil => exact List.prefix_rfl
  | cons p ps ih => exact (List.prefix_append t _).trans (ih (claim t p))

theorem ofElements_append (ps qs : List Placed) :
    ofElements (ps ++ qs) = (qs.filter fun p => !p.isEdge).foldl claim (ofElements ps) := by
  unfold ofElements
  rw [List.filter_append, List.foldl_append]

/-- **The table of a row is where the table of every longer row begins.** -/
theorem ofElements_prefix (ps qs : List Placed) : ofElements ps <+: ofElements (ps ++ qs) := by
  rw [ofElements_append]
  exact prefix_foldl_claim _ _

theorem ofElements_concat {ps : List Placed} {p : Placed} (hp : p.isEdge = false) :
    ofElements (ps ++ [p]) = claim (ofElements ps) p := by
  rw [ofElements_append, List.filter_cons_of_pos (by rw [hp]; rfl)]
  rfl

/-- A node whose key another node has claimed before leaves the table of a row as it is. -/
theorem claim_of_mem {ps : List Placed} {p q : Placed} (hq : q ∈ ps) (hnode : q.isEdge = false)
    (hkey : q.key = p.key) : claim (ofElements ps) p = ofElements ps := by
  have hmem : q ∈ ps.filter fun p => !p.isEdge := List.mem_filter.mpr ⟨hq, by rw [hnode]; rfl⟩
  refine claim_of_has (has_iff.mpr ?_)
  rw [(ofElements_claims ps).keys, List.mem_eraseDups, ← hkey]
  exact List.mem_map_of_mem hmem

theorem lookup_of_prefix {t t' : IdentityTable} (h : t <+: t') {p : Placed} {i : Identity}
    (hi : lookup t p = some i) : lookup t' p = some i := List.IsPrefix.find?_eq_some h hi

/-! ## 4. Late claims -/

/-- **Each node that claims its key either gets an identity or is reported.** -/
theorem length_reuseEvents (t : IdentityTable) (ps : List Placed) :
    (ps.foldl claim t).length + (reuseEvents t ps).length = t.length + ps.length := by
  induction ps generalizing t with
  | nil => rfl
  | cons p ps ih =>
    have := ih (claim t p)
    simp only [List.foldl_cons, reuseEvents, List.length_append, List.length_cons]
    by_cases hp : has t p.key = true
    · rw [claim_of_has hp] at this
      rw [if_pos hp, claim_of_has hp, List.length_singleton]
      omega
    · rw [claim_of_not_has hp, List.length_append, List.length_singleton] at this
      rw [if_neg hp, claim_of_not_has hp, List.length_nil]
      omega

end Yuml.IdentityTable
