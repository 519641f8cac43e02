import Mathlib
import PrintFarm.Store.Basic

/-!
# Rows with keys

Facts about lists of rows that have a key, apart from what the rows are.

* `changeRows` and what it leaves alone: a projection that the change keeps (`map_changeRows`), a
  filter that it respects (`filter_changeRows`) or that passes no selected row
  (`filter_changeRows_of_not`), and a list without a selected row (`changeRows_eq_self`).
  `changeRows_changeRows` is about two changes of the same rows.
  `filter_changeRows_perm` is about a row that passes a filter after the change and not before.
* Looking up a row by a key that no other row has (`find?_of_nodup`).
* `foldl_changeRows`: changes of one keyed row after the other are one change of all of them.
* `exists_of_forall₂` and `map_eq_of_forall₂`: rows that come from other rows one by one.
* `getLast?_filterMap_concat`: what was found last as a list grows.
* `inOrder` is a permutation (`inOrder_perm`), it respects changes that the order does not see
  (`map_inOrder`), and if the order is total and transitive, the rows are in order
  (`pairwise_inOrder`) and so are those that pass a filter (`filter_inOrder`).
* `pair_sublist_iff` tells which of two rows stands first.
-/

namespace PrintFarm

variable {ρ κ ε : Type}

/-! ## Changing selected rows -/

section Change

variable {selected : ρ → Bool} {change : ρ → ρ} {rows : List ρ}

theorem mem_changeRows {r : ρ} :
    r ∈ changeRows selected change rows ↔
      ∃ s ∈ rows, r = if selected s then change s else s := by
  simp only [changeRows, List.mem_map]
  exact exists_congr fun s => and_congr_right fun _ => eq_comm

/-- A projection that the change keeps has the same values as before. -/
theorem map_changeRows {f : ρ → κ} (hf : ∀ r ∈ rows, selected r = true → f (change r) = f r) :
    (changeRows selected change rows).map f = rows.map f := by
  rw [changeRows, List.map_map]
  refine List.map_congr_left fun r hr => ?_
  by_cases hs : selected r = true
  · simp [hs, hf r hr hs]
  · simp [hs]

/-- A filter that the change respects can be applied before it. -/
theorem filter_changeRows {p : ρ → Bool}
    (hp : ∀ r ∈ rows, selected r = true → p (change r) = p r) :
    (changeRows selected change rows).filter p = changeRows selected change (rows.filter p) := by
  rw [changeRows, changeRows, List.filter_map]
  congr 1
  refine List.filter_congr fun r hr => ?_
  by_cases hs : selected r = true
  · simp [hs, hp r hr hs]
  · simp [hs]

/-- A filter that passes no selected row does not see the change. -/
theorem filter_changeRows_of_not {p : ρ → Bool}
    (hp : ∀ r ∈ rows, selected r = true → p r = false ∧ p (change r) = false) :
    (changeRows selected change rows).filter p = rows.filter p := by
  induction rows with
  | nil => rfl
  | cons r rows ih =>
    have hrest := ih fun s hs => hp s (List.mem_cons_of_mem _ hs)
    rw [changeRows] at hrest ⊢
    rw [List.map_cons]
    by_cases hs : selected r = true
    · obtain ⟨hold, hnew⟩ := hp r List.mem_cons_self hs
      rw [if_pos hs, List.filter_cons_of_neg (by simpa using hnew),
        List.filter_cons_of_neg (by simpa using hold), hrest]
    · rw [if_neg hs, List.filter_cons, List.filter_cons, hrest]

/-- A search that the change respects finds the changed row in the place of the row. -/
theorem find?_changeRows {p : ρ → Bool} (hp : ∀ r ∈ rows, selected r = true → p (change r) = p r) :
    (changeRows selected change rows).find? p =
      (rows.find? p).map fun r => if selected r then change r else r := by
  induction rows with
  | nil => rfl
  | cons r rows ih =>
    have hrest := ih fun s hs => hp s (List.mem_cons_of_mem _ hs)
    rw [changeRows] at hrest ⊢
    have hsame : p (if selected r = true then change r else r) = p r := by
      by_cases hs : selected r = true
      · rw [if_pos hs]
        exact hp r List.mem_cons_self hs
      · rw [if_neg hs]
    rw [List.map_cons, List.find?_cons, List.find?_cons, hsame, hrest]
    cases p r <;> rfl

/-- Where no row is selected, nothing changes. -/
theorem changeRows_eq_self (h : ∀ r ∈ rows, selected r = true → change r = r) :
    changeRows selected change rows = rows := by
  rw [changeRows]
  conv_rhs => rw [← List.map_id rows]
  refine List.map_congr_left fun r hr => ?_
  by_cases hs : selected r = true
  · simp [hs, h r hr hs]
  · simp [hs]

/-- Rows that were in order stay in order if the change keeps what the order is about. -/
theorem forall_changeRows {p : ρ → Prop} (h : ∀ r ∈ rows, p r)
    (hc : ∀ r ∈ rows, selected r = true → p (change r)) :
    ∀ r ∈ changeRows selected change rows, p r := by
  intro r hr
  obtain ⟨s, hs, rfl⟩ := mem_changeRows.mp hr
  by_cases hsel : selected s = true
  · simp [hsel, hc s hs hsel]
  · simp [hsel, h s hs]

/-- Two changes of the same rows, one after the other, are one. -/
theorem changeRows_changeRows (first : ρ → ρ) {second : ρ → ρ}
    (hs : ∀ r, selected (first r) = selected r) (h : ∀ r, second (first r) = change r) :
    changeRows selected second (changeRows selected first rows) =
      changeRows selected change rows := by
  simp only [changeRows, List.map_map]
  refine List.map_congr_left fun r _ => ?_
  cases hr : selected r with
  | true => simp [hr, hs, h]
  | false => simp [hr]

/-- The same rows are selected, and they change in the same way. -/
theorem changeRows_congr {selected' : ρ → Bool} {change' : ρ → ρ}
    (hs : ∀ r ∈ rows, selected r = selected' r)
    (hc : ∀ r ∈ rows, selected r = true → change r = change' r) :
    changeRows selected change rows = changeRows selected' change' rows := by
  rw [changeRows, changeRows]
  refine List.map_congr_left fun r hr => ?_
  rw [← hs r hr]
  by_cases hsel : selected r = true
  · simp [hsel, hc r hr hsel]
  · simp [hsel]

end Change

/-! ## Rows with different keys -/

section Keys

variable {key : ρ → κ} {rows : List ρ}

/-- Two rows of a table with one key are one row. -/
theorem eq_of_key_eq (hnodup : (rows.map key).Nodup) {r s : ρ} (hr : r ∈ rows) (hs : s ∈ rows)
    (h : key r = key s) : r = s :=
  List.inj_on_of_nodup_map hnodup hr hs h

/-- A search that only the row `r` satisfies finds it. -/
theorem find?_of_unique {p : ρ → Bool} {r : ρ} (hr : r ∈ rows) (hp : p r = true)
    (hunique : ∀ s ∈ rows, p s = true → s = r) : rows.find? p = some r := by
  cases hf : rows.find? p with
  | none => exact absurd hp (by simpa using List.find?_eq_none.mp hf r hr)
  | some s =>
    rw [hunique s (List.mem_of_find?_eq_some hf) (List.find?_some hf)]

/-- A row is found by its key. -/
theorem find?_of_nodup [DecidableEq κ] (hnodup : (rows.map key).Nodup) {r : ρ} (hr : r ∈ rows) :
    rows.find? (fun s => key s = key r) = some r :=
  find?_of_unique hr (by simp) fun s hs h => eq_of_key_eq hnodup hs hr (by simpa using h)

/-- The row with a key is passed over where the other condition does not hold of it. -/
theorem find?_key_eq_none [DecidableEq κ] (hnodup : (rows.map key).Nodup) {r : ρ} (hr : r ∈ rows)
    {holds : ρ → Bool} :
    rows.find? (fun s => key s = key r && holds s) = none ↔ holds r = false := by
  rw [List.find?_eq_none]
  constructor
  · intro h
    simpa using h r hr
  · intro h s hs hsel
    obtain ⟨hkey, hholds⟩ := Bool.and_eq_true_iff.mp hsel
    obtain rfl := eq_of_key_eq hnodup hs hr (of_decide_eq_true hkey)
    rw [h] at hholds
    exact nomatch hholds

/-- A row is the only one with its key. -/
theorem filter_of_nodup [DecidableEq κ] (hnodup : (rows.map key).Nodup) {r : ρ} (hr : r ∈ rows) :
    rows.filter (fun s => key s = key r) = [r] := by
  induction rows with
  | nil => exact absurd hr List.not_mem_nil
  | cons s rows ih =>
    obtain ⟨hs, hrest⟩ := List.nodup_cons.mp (List.map_cons ▸ hnodup)
    rcases List.mem_cons.mp hr with rfl | hr
    · have hnone : rows.filter (fun s => key s = key r) = [] := by
        refine List.filter_eq_nil_iff.mpr fun q hq heq => hs ?_
        exact List.mem_map.mpr ⟨q, hq, of_decide_eq_true heq⟩
      rw [List.filter_cons_of_pos (by simp), hnone]
    · have hne : ¬key s = key r := fun heq => hs (List.mem_map.mpr ⟨r, hr, heq.symm⟩)
      rw [List.filter_cons_of_neg (by simpa using hne), ih hrest hr]

/-- Putting the changed row in place of the row with its key is changing the row with that key. -/
theorem changeRows_const [DecidableEq κ] (hnodup : (rows.map key).Nodup) {r : ρ} (hr : r ∈ rows)
    (change : ρ → ρ) :
    changeRows (fun s => key s = key r) (fun _ => change r) rows =
      changeRows (fun s => key s = key r) change rows :=
  changeRows_congr (fun _ _ => rfl) fun s hs hsel => by
    rw [eq_of_key_eq hnodup hs hr (by simpa using hsel)]

/-- Where the change lets a row through a filter that held it back, the row is added to those that
pass. -/
theorem filter_changeRows_perm [DecidableEq κ] {change : ρ → ρ} {p : ρ → Bool}
    (hnodup : (rows.map key).Nodup) {r : ρ} (hr : r ∈ rows) (hold : p r = false)
    (hnew : p (change r) = true) :
    ((changeRows (fun s => key s = key r) change rows).filter p).Perm
      (change r :: rows.filter p) := by
  induction rows with
  | nil => exact absurd hr List.not_mem_nil
  | cons s rows ih =>
    obtain ⟨hs, hrest⟩ := List.nodup_cons.mp (List.map_cons ▸ hnodup)
    rcases List.mem_cons.mp hr with rfl | hr
    · have hsame : changeRows (fun s => key s = key r) change rows = rows := by
        refine changeRows_eq_self fun q hq heq => absurd ?_ hs
        exact List.mem_map.mpr ⟨q, hq, of_decide_eq_true heq⟩
      rw [changeRows] at hsame ⊢
      rw [List.map_cons, hsame, if_pos (by simp), List.filter_cons_of_pos hnew,
        List.filter_cons_of_neg (by simp [hold])]
    · have hne : ¬key s = key r := fun heq => hs (List.mem_map.mpr ⟨r, hr, heq.symm⟩)
      have hperm := ih hrest hr
      rw [changeRows] at hperm ⊢
      rw [List.map_cons, if_neg (by simpa using hne)]
      cases hp : p s with
      | false =>
        rw [List.filter_cons_of_neg (by simp [hp]), List.filter_cons_of_neg (by simp [hp])]
        exact hperm
      | true =>
        rw [List.filter_cons_of_pos hp, List.filter_cons_of_pos hp]
        exact (List.Perm.cons s hperm).trans (List.Perm.swap _ _ _)

/-- A key that no row has can be added. -/
theorem nodup_map_concat (hnodup : (rows.map key).Nodup) {r : ρ} (hr : ∀ s ∈ rows, key s ≠ key r) :
    ((rows ++ [r]).map key).Nodup := by
  rw [List.map_append, List.nodup_append]
  refine ⟨hnodup, by simp, ?_⟩
  intro k hk l hl
  obtain ⟨s, hs, rfl⟩ := List.mem_map.mp hk
  obtain rfl : l = key r := by simpa using hl
  exact hr s hs

end Keys

/-! ## One change after the other -/

/-- Changing the row of one key after the other changes every row once, if the keys differ and stay
as they are. -/
theorem foldl_changeRows [DecidableEq κ] (key : ρ → κ) (keyOf : ε → κ) (change : ε → ρ → ρ)
    (hkey : ∀ e r, key (change e r) = key r) :
    ∀ (edits : List ε) (rows : List ρ), (edits.map keyOf).Nodup →
      edits.foldl (fun rows e => changeRows (fun r => key r = keyOf e) (change e) rows) rows =
        rows.map fun r =>
          match edits.find? fun e => keyOf e = key r with
          | some e => change e r
          | none => r
  | [], rows, _ => by simp
  | e :: edits, rows, hnodup => by
    obtain ⟨hnew, hrest⟩ := List.nodup_cons.mp (List.map_cons ▸ hnodup)
    rw [List.foldl_cons, foldl_changeRows key keyOf change hkey edits _ hrest, changeRows,
      List.map_map]
    refine List.map_congr_left fun r _ => ?_
    by_cases hr : key r = keyOf e
    · -- the later edits have other keys, so the first one is the only one for this row
      have hlater : edits.find? (fun e' => keyOf e' = keyOf e) = none := by
        refine List.find?_eq_none.mpr fun e' he' h => hnew ?_
        exact List.mem_map.mpr ⟨e', he', by simpa using h⟩
      simp [hr, hkey, hlater]
    · simp [hr, Ne.symm hr]

/-! ## Rows made from other rows -/

section Forall₂

variable {relates : ε → ρ → Prop} {xs : List ε} {rows : List ρ}

/-- Every row comes from somewhere. -/
theorem exists_of_forall₂ (h : List.Forall₂ relates xs rows) {r : ρ} (hr : r ∈ rows) :
    ∃ x ∈ xs, relates x r := by
  induction h with
  | nil => exact absurd hr List.not_mem_nil
  | cons hx _ ih =>
    rcases List.mem_cons.mp hr with rfl | hr
    · exact ⟨_, List.mem_cons_self, hx⟩
    · obtain ⟨x, hmem, hrel⟩ := ih hr
      exact ⟨x, List.mem_cons_of_mem _ hmem, hrel⟩

/-- A relation may be replaced by what follows from it for the rows that are there. -/
theorem forall₂_imp_of_mem {follows : ε → ρ → Prop} (h : List.Forall₂ relates xs rows)
    (himp : ∀ x, ∀ r ∈ rows, relates x r → follows x r) : List.Forall₂ follows xs rows := by
  induction h with
  | nil => exact List.Forall₂.nil
  | cons hx _ ih =>
    exact List.Forall₂.cons (himp _ _ List.mem_cons_self hx)
      (ih fun x r hr => himp x r (List.mem_cons_of_mem _ hr))

/-- Related rows with the same key have the same keys in the same order. -/
theorem map_eq_of_forall₂ {f : ε → κ} {g : ρ → κ} (hkey : ∀ x r, relates x r → g r = f x)
    (h : List.Forall₂ relates xs rows) : rows.map g = xs.map f := by
  induction h with
  | nil => rfl
  | cons hx _ ih => rw [List.map_cons, List.map_cons, hkey _ _ hx, ih]

end Forall₂

/-! ## The last of some rows -/

/-- The last that is found in a list with one more at its end. -/
theorem getLast?_filterMap_concat {f : ε → Option κ} {xs : List ε} {x : ε} :
    ((xs ++ [x]).filterMap f).getLast? = (f x).or (xs.filterMap f).getLast? := by
  rw [List.filterMap_append, List.filterMap_cons]
  cases f x with
  | none => rw [List.filterMap_nil, List.append_nil, Option.none_or]
  | some y => rw [List.filterMap_nil, List.getLast?_concat, Option.some_or]

/-! ## Ordering rows -/

theorem insertInOrder_perm (mayPrecede : ρ → ρ → Bool) (row : ρ) (rows : List ρ) :
    (insertInOrder mayPrecede row rows).Perm (row :: rows) := by
  induction rows with
  | nil => exact List.Perm.refl _
  | cons r rows ih =>
    rw [insertInOrder]
    split
    · exact List.Perm.refl _
    · exact (List.Perm.cons r ih).trans (List.Perm.swap row r rows)

/-- Ordering rows only moves them. -/
theorem inOrder_perm (mayPrecede : ρ → ρ → Bool) (rows : List ρ) :
    (inOrder mayPrecede rows).Perm rows := by
  induction rows with
  | nil => exact List.Perm.refl _
  | cons r rows ih => exact (insertInOrder_perm mayPrecede r _).trans (List.Perm.cons r ih)

section Change

variable {mayPrecede : ρ → ρ → Bool} {precedes : κ → κ → Bool} {f : ρ → κ}
  (hf : ∀ a b, precedes (f a) (f b) = mayPrecede a b)

include hf

theorem map_insertInOrder (row : ρ) (rows : List ρ) :
    (insertInOrder mayPrecede row rows).map f = insertInOrder precedes (f row) (rows.map f) := by
  induction rows with
  | nil => rfl
  | cons r rows ih =>
    rw [insertInOrder, List.map_cons, insertInOrder, hf]
    split
    · rfl
    · rw [List.map_cons, ih]

/-- Rows can be changed before they are ordered or after it, if the order does not see the
change. -/
theorem map_inOrder (rows : List ρ) :
    (inOrder mayPrecede rows).map f = inOrder precedes (rows.map f) := by
  induction rows with
  | nil => rfl
  | cons r rows ih =>
    show (insertInOrder mayPrecede r (inOrder mayPrecede rows)).map f =
      insertInOrder precedes (f r) (inOrder precedes (rows.map f))
    rw [map_insertInOrder hf, ih]

end Change

section Order

variable {mayPrecede : ρ → ρ → Bool}

theorem insertInOrder_of_forall {row : ρ} {rows : List ρ}
    (h : ∀ r ∈ rows, mayPrecede row r = true) :
    insertInOrder mayPrecede row rows = row :: rows := by
  cases rows with
  | nil => rfl
  | cons r rows => rw [insertInOrder, if_pos (h r List.mem_cons_self)]

variable (htotal : ∀ a b, mayPrecede a b = true ∨ mayPrecede b a = true)
  (htrans : ∀ a b c, mayPrecede a b = true → mayPrecede b c = true → mayPrecede a c = true)

include htotal htrans

theorem pairwise_insertInOrder {row : ρ} {rows : List ρ}
    (h : rows.Pairwise fun a b => mayPrecede a b = true) :
    (insertInOrder mayPrecede row rows).Pairwise fun a b => mayPrecede a b = true := by
  induction rows with
  | nil => exact List.pairwise_singleton _ _
  | cons r rows ih =>
    obtain ⟨hr, hrest⟩ := List.pairwise_cons.mp h
    rw [insertInOrder]
    split
    · rename_i hrow
      refine List.pairwise_cons.mpr ⟨List.forall_mem_cons.mpr ⟨hrow, fun s hs => ?_⟩, h⟩
      exact htrans _ _ _ hrow (hr s hs)
    · rename_i hrow
      have hback := (htotal row r).resolve_left hrow
      refine List.pairwise_cons.mpr ⟨fun s hs => ?_, ih hrest⟩
      rcases List.mem_cons.mp ((insertInOrder_perm mayPrecede row rows).mem_iff.mp hs) with rfl | hs
      · exact hback
      · exact hr s hs

theorem pairwise_inOrder (rows : List ρ) :
    (inOrder mayPrecede rows).Pairwise fun a b => mayPrecede a b = true := by
  induction rows with
  | nil => exact List.Pairwise.nil
  | cons r rows ih => exact pairwise_insertInOrder htotal htrans ih

omit htotal in
theorem filter_insertInOrder {p : ρ → Bool} {row : ρ} {rows : List ρ}
    (h : rows.Pairwise fun a b => mayPrecede a b = true) :
    (insertInOrder mayPrecede row rows).filter p =
      if p row then insertInOrder mayPrecede row (rows.filter p) else rows.filter p := by
  induction rows with
  | nil => rw [insertInOrder, List.filter_cons]; rfl
  | cons r rows ih =>
    obtain ⟨hr, hrest⟩ := List.pairwise_cons.mp h
    by_cases hrow : mayPrecede row r = true
    · have hall : ∀ s ∈ (r :: rows).filter p, mayPrecede row s = true := by
        intro s hs
        rcases List.mem_cons.mp (List.mem_of_mem_filter hs) with rfl | hs
        · exact hrow
        · exact htrans _ _ _ hrow (hr s hs)
      rw [insertInOrder, if_pos hrow, List.filter_cons, insertInOrder_of_forall hall]
    · have hih := ih hrest
      rw [insertInOrder, if_neg hrow, List.filter_cons, List.filter_cons, hih]
      cases p r <;> cases p row <;> simp [insertInOrder, hrow]

/-- The rows that pass a filter are in order among themselves. -/
theorem filter_inOrder (p : ρ → Bool) (rows : List ρ) :
    (inOrder mayPrecede rows).filter p = inOrder mayPrecede (rows.filter p) := by
  induction rows with
  | nil => rfl
  | cons r rows ih =>
    have hrest := pairwise_inOrder htotal htrans rows
    show (insertInOrder mayPrecede r (inOrder mayPrecede rows)).filter p = _
    rw [filter_insertInOrder htrans hrest, ih, List.filter_cons]
    cases p r <;> rfl

end Order

/-- Of two rows the one that is before the other stands first. -/
theorem pair_sublist_iff {relates : ρ → ρ → Prop} {rows : List ρ} (h : rows.Pairwise relates)
    {a b : ρ} (ha : a ∈ rows) (hb : b ∈ rows) (hne : a ≠ b)
    (hasymm : ¬(relates a b ∧ relates b a)) : [a, b].Sublist rows ↔ relates a b := by
  refine ⟨fun hsub => List.pairwise_pair.mp (h.sublist hsub), fun hab => ?_⟩
  obtain ⟨before, behind, rfl⟩ := List.append_of_mem ha
  rcases List.mem_append.mp hb with hb | hb
  · have hba := (List.pairwise_append.mp h).2.2 b hb a List.mem_cons_self
    exact absurd ⟨hab, hba⟩ hasymm
  · have hb := (List.mem_cons.mp hb).resolve_left hne.symm
    exact ((List.singleton_sublist.mpr hb).cons_cons a).trans (List.sublist_append_right _ _)

end PrintFarm
