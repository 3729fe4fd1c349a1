import Mathlib.Data.List.Nodup
import Mathlib.Data.List.Sort
import UnifiMcp.Lib.Offsets
/-!
# Pages of sorted rows

Every request reads the rows anew, perhaps in another order, sorts them by a key, keeps those that
match and hands out a page of them.

* `filter_sortByKey_eq`, `no_ties_of_reverse` — the order of the rows does not matter exactly when no two
  of the rows kept share a key.
* `orderFree` — if it does not matter, following the offsets gives every kept row once.
-/

namespace SortedPages

open Offsets

section
variable {ρ κ : Type} {key : ρ → κ} {l : List ρ}

/-! ## Ties -/

/-- In a list without repetitions only one of two rows comes first. -/
theorem not_both_first {a b : ρ} (hnodup : l.Nodup) (hab : [a, b].Sublist l) (hba : [b, a].Sublist l) : False := by
  obtain ⟨front, back, hl, ha, hb⟩ := List.cons_sublist_iff.1 hab
  obtain ⟨front', back', hl', hb', ha'⟩ := List.cons_sublist_iff.1 hba
  have hb := List.singleton_sublist.1 hb
  have ha' := List.singleton_sublist.1 ha'
  have hdisjoint := List.disjoint_of_nodup_append (hl ▸ hnodup)
  rcases List.append_eq_append_iff.1 (hl.symm.trans hl') with ⟨middle, -, hback⟩ | ⟨middle, hfront, -⟩
  · exact hdisjoint ha (hback ▸ List.mem_append_right _ ha')
  · exact hdisjoint (hfront ▸ List.mem_append_left _ hb') hb

/-- Two of the rows share a key. -/
theorem exists_tie (h : ¬(l.map key).Nodup) : ∃ a b, [a, b].Sublist l ∧ key a = key b := by
  simp only [List.nodup_iff_sublist, not_forall, not_not] at h
  obtain ⟨k, hk⟩ := h
  obtain ⟨pair, hpair, hkeys⟩ := List.sublist_map_iff.1 hk
  obtain ⟨a, b, rfl⟩ := List.length_eq_two.1 (by simpa using (congrArg List.length hkeys).symm)
  simp only [List.map_cons, List.map_nil, List.cons.injEq, and_true] at hkeys
  exact ⟨a, b, hpair, hkeys.1.symm.trans hkeys.2⟩

end

section
variable {ρ κ : Type} [LinearOrder κ] {key : ρ → κ} {rows l r : List ρ}

/-! ## Sorting -/

/-- The rows by their keys; equal keys stay as they came. -/
def sortByKey (key : ρ → κ) (rows : List ρ) : List ρ := rows.insertionSort fun a b => key a ≤ key b

theorem sortByKey_perm (key : ρ → κ) (rows : List ρ) : (sortByKey key rows).Perm rows := List.perm_insertionSort ..

instance totalByKey : Std.Total fun a b : ρ => key a ≤ key b := ⟨fun _ _ => le_total ..⟩

instance transByKey : IsTrans ρ fun a b : ρ => key a ≤ key b := ⟨fun _ _ _ => le_trans⟩

theorem sortByKey_sorted (key : ρ → κ) (rows : List ρ) : (sortByKey key rows).Pairwise fun a b => key a ≤ key b :=
  List.pairwise_insertionSort ..

/-- Rows with different keys have one order. -/
theorem eq_of_sorted (h : l.Perm r) (hl : l.Pairwise fun a b => key a ≤ key b)
    (hr : r.Pairwise fun a b => key a ≤ key b) (hkeys : (r.map key).Nodup) : l = r :=
  h.eq_of_pairwise (fun _ _ ha hb hab hba =>
    List.inj_on_of_nodup_map hkeys (h.mem_iff.1 ha) hb (le_antisymm hab hba)) hl hr

theorem sortByKey_eq (h : l.Perm r) (hkeys : (r.map key).Nodup) : sortByKey key l = sortByKey key r :=
  eq_of_sorted (((sortByKey_perm ..).trans h).trans (sortByKey_perm ..).symm) (sortByKey_sorted ..) (sortByKey_sorted ..)
    (((sortByKey_perm ..).map key).nodup_iff.2 hkeys)

/-- Rows with different keys are kept and then sorted in one order, however they were read. -/
theorem sortByKey_filter_eq (keep : ρ → Bool) (h : l.Perm r) (hkeys : (r.map key).Nodup) :
    sortByKey key (l.filter keep) = sortByKey key (r.filter keep) :=
  sortByKey_eq (h.filter _) (hkeys.sublist (List.filter_sublist.map key))

/-- Rows sorted and then kept come in one order, however they were read, when those kept have different keys. -/
theorem filter_sortByKey_eq (keep : ρ → Bool) (h : l.Perm r) (hkeys : ((r.filter keep).map key).Nodup) :
    (sortByKey key l).filter keep = (sortByKey key r).filter keep := by
  have hperm := ((sortByKey_perm key l).trans h).trans (sortByKey_perm key r).symm
  refine eq_of_sorted (hperm.filter _) ((sortByKey_sorted ..).filter _) ((sortByKey_sorted ..).filter _) ?_
  exact (((sortByKey_perm key r).filter _).map key).nodup_iff.2 hkeys

/-- **Two rows kept that share a key change places when the rows are read backwards.** -/
theorem no_ties_of_reverse {keep : ρ → Bool} (hrows : rows.Nodup)
    (h : (sortByKey key rows.reverse).filter keep = (sortByKey key rows).filter keep) :
    ((rows.filter keep).map key).Nodup := by
  by_contra hties
  obtain ⟨a, b, hab, hkey⟩ := exists_tie hties
  have hforth : [a, b].Sublist ((sortByKey key rows).filter keep) := by
    have hsorted := List.pair_sublist_insertionSort (r := fun a b => key a ≤ key b) (le_of_eq hkey) (hab.trans List.filter_sublist)
    have hkept : ∀ x ∈ [a, b], keep x = true := fun x hx => (List.mem_filter.1 (hab.subset hx)).2
    rw [← List.filter_eq_self.2 hkept]
    exact hsorted.filter _
  have hback : [b, a].Sublist ((sortByKey key rows.reverse).filter keep) := by
    have hreverse : [b, a].Sublist rows.reverse := (hab.trans List.filter_sublist).reverse
    have hsorted := List.pair_sublist_insertionSort (r := fun a b => key a ≤ key b) (le_of_eq hkey.symm) hreverse
    have hkept : ∀ x ∈ [b, a], keep x = true := fun x hx =>
      (List.mem_filter.1 (hab.subset (by simpa [or_comm] using hx))).2
    rw [← List.filter_eq_self.2 hkept]
    exact hsorted.filter _
  rw [h] at hback
  exact not_both_first (((sortByKey_perm key rows).nodup_iff.2 hrows).filter _) hforth hback

end

/-! ## Pages -/

section
variable {ρ σ τ ε : Type} {all l r : List σ} {limit : Nat}

/-- `skip` and `take`. -/
def page (all : List σ) (offset limit : Nat) : List σ := (all.drop offset).take limit

/-- The pages determine the list. -/
theorem eq_of_pages (hlimit : 0 < limit) (h : ∀ offset, page l offset limit = page r offset limit) : l = r := by
  apply List.ext_getElem?
  intro offset
  have hhead := congrArg List.head? (h offset)
  simpa [page, List.head?_take, Nat.ne_of_gt hlimit] using hhead

theorem covers_page (hlimit : 0 < limit) {offset : Nat} {next : Option Nat} (hnext : next =
    if offset + (page all offset limit).length < all.length then some (offset + (page all offset limit).length) else none) :
    Covers all offset ⟨page all offset limit, next⟩ where
  rows := by
    show page all offset limit = (all.drop offset).take (page all offset limit).length
    rw [page, List.length_take, List.take_eq_take_min]
  next := hnext
  progress hlt hnil := by
    have hlength : (page all offset limit).length = 0 := congrArg List.length hnil
    rw [page, List.length_take, List.length_drop] at hlength
    omega

/-- What a paged search over mutable rows should give: every read of the same rows has the same pages,
and following the offsets over any reads ends with every matching row once. -/
structure OrderFree (search : List ρ → Nat → Except ε τ) (part : τ → Offsets.Part σ) (rows : List ρ) (matching : List σ) : Prop where
  same : ∀ read : List ρ, read.Perm rows → ∀ offset, search read offset = search rows offset
  walked : ∀ reads : Nat → List ρ, (∀ request, (reads request).Perm rows) → ∀ fuel, rows.length < fuel →
    ∃ all, all.Perm matching ∧ walk (fun request offset => some ((search (reads request) offset).map part)) fuel 0 0 =
      some ((search rows 0).map fun _ => all)

/-- A search that hands out pages of what it found is free of the order when that does not depend on the order. -/
theorem orderFree {μ : Type} {search : List ρ → Nat → Except ε τ} {part : τ → Offsets.Part σ} {rows : List ρ} {matching : List σ}
    (found : List ρ → Except ε μ) (output : μ → Nat → τ)
    (hsearch : ∀ read offset, search read offset = (found read).map fun m => output m offset)
    (hfound : ∀ read : List ρ, read.Perm rows → found read = found rows)
    (hcovers : ∀ m, found rows = .ok m → ∃ all, all.Perm matching ∧ all.length ≤ rows.length ∧
      ∀ offset, offset ≤ all.length → Covers all offset (part (output m offset))) :
    OrderFree search part rows matching where
  same read hread offset := by rw [hsearch, hsearch, hfound read hread]
  walked reads hreads fuel hfuel := by
    cases hrows : found rows with
    | error error =>
      obtain ⟨fuel, rfl⟩ : ∃ n, fuel = n + 1 := ⟨fuel - 1, by omega⟩
      refine ⟨matching, List.Perm.refl _, ?_⟩
      rw [walk, hsearch, hsearch, hfound _ (hreads 0), hrows]
      rfl
    | ok m =>
      obtain ⟨all, hall, hlength, hpages⟩ := hcovers m hrows
      refine ⟨all, hall, ?_⟩
      have hanswer : ∀ request offset, offset ≤ all.length → ∃ p,
          some ((search (reads request) offset).map part) = some (Except.ok p) ∧ Covers all offset p := by
        intro request offset hle
        refine ⟨_, ?_, hpages offset hle⟩
        rw [hsearch, hfound _ (hreads request), hrows]
        rfl
      rw [walk_covers hanswer fuel 0 0 (Nat.zero_le _) (by omega), hsearch, hrows]
      rfl

end

end SortedPages
