import Mathlib.Algebra.Order.Ring.Nat
import Mathlib.Data.List.Nodup
import Mathlib.Order.Lattice
/-!
# Maps as sorted lists

A map is the list of its entries with strictly increasing keys, as an ordered tree iterates them.

* `find?_insert`, `find?_orInsert`, `find?_retain`, `find?_filterMap`, `find?_extendWith`,
  `find?_ofOptions` — what each operation does to a lookup.
* `lastKey_eq_some` — the last key is the greatest.
* `total_eq` — a sum over the entries is a sum over the names that may be keys.
* `eq_of_sorted` — two strictly sorted lists with the same members are equal.
-/

/-- A map from keys to values. -/
structure SortedMap (κ : Type) (β : Type) [LinearOrder κ] where
  entries : List (κ × β)
  sorted : entries.Pairwise fun a b => a.1 < b.1

namespace SortedMap

variable {κ β : Type} [LinearOrder κ]

/-! ## Entries -/

/-- The entries with `k ↦ v` among them. -/
def insertEntry (k : κ) (v : β) : List (κ × β) → List (κ × β)
  | [] => [(k, v)]
  | e :: es => if k < e.1 then (k, v) :: e :: es else if e.1 < k then e :: insertEntry k v es else (k, v) :: es

theorem mem_insertEntry {k : κ} {v : β} {a : κ × β} : ∀ {es : List (κ × β)}, a ∈ insertEntry k v es →
    a = (k, v) ∨ a ∈ es
  | [], h => Or.inl (by simpa [insertEntry] using h)
  | e :: es, h => by
    rw [insertEntry] at h
    split at h
    · simpa using h
    · split at h
      · rcases List.mem_cons.1 h with rfl | h
        · exact Or.inr List.mem_cons_self
        · exact (mem_insertEntry h).imp_right (List.mem_cons_of_mem _)
      · rcases List.mem_cons.1 h with h | h
        · exact Or.inl h
        · exact Or.inr (List.mem_cons_of_mem _ h)

theorem sorted_insertEntry (k : κ) (v : β) : ∀ {es : List (κ × β)}, es.Pairwise (fun a b => a.1 < b.1) →
    (insertEntry k v es).Pairwise fun a b => a.1 < b.1
  | [], _ => List.pairwise_singleton ..
  | e :: es, h => by
    obtain ⟨he, hes⟩ := List.pairwise_cons.1 h
    rw [insertEntry]
    split
    · rename_i hk
      refine List.pairwise_cons.2 ⟨fun a ha => ?_, h⟩
      rcases List.mem_cons.1 ha with rfl | ha
      · exact hk
      · exact lt_trans hk (he a ha)
    · split
      · rename_i hk
        refine List.pairwise_cons.2 ⟨fun a ha => ?_, sorted_insertEntry k v hes⟩
        rcases mem_insertEntry ha with rfl | ha
        · exact hk
        · exact he a ha
      · rename_i h1 h2
        have heq : e.1 = k := le_antisymm (not_lt.1 h1) (not_lt.1 h2)
        exact List.pairwise_cons.2 ⟨fun a ha => heq ▸ he a ha, hes⟩

/-- The greatest key comes last. -/
theorem insertEntry_last {k : κ} {v : β} : ∀ {es : List (κ × β)}, (∀ e ∈ es, e.1 < k) →
    insertEntry k v es = es ++ [(k, v)]
  | [], _ => rfl
  | e :: es, h => by
    have he : e.1 < k := h e List.mem_cons_self
    rw [insertEntry, if_neg (lt_asymm he), if_pos he, insertEntry_last fun a ha => h a (List.mem_cons_of_mem _ ha),
      List.cons_append]

/-! ## Operations -/

def empty : SortedMap κ β := ⟨[], List.Pairwise.nil⟩

def find? (m : SortedMap κ β) (k : κ) : Option β := (m.entries.find? fun e => e.1 == k).map Prod.snd

def insert (m : SortedMap κ β) (k : κ) (v : β) : SortedMap κ β :=
  ⟨insertEntry k v m.entries, sorted_insertEntry k v m.sorted⟩

/-- `entry(k).or_insert(v)`. -/
def orInsert (m : SortedMap κ β) (k : κ) (v : β) : SortedMap κ β :=
  if (m.find? k).isSome then m else m.insert k v

/-- Inserts the image of every entry of another map. -/
def extendWith {γ : Type} (f : γ → β) (m : SortedMap κ β) (other : SortedMap κ γ) : SortedMap κ β :=
  other.entries.foldl (fun m e => m.insert e.1 (f e.2)) m

/-- The entries that have a value; the last of each key counts. -/
def ofOptions (es : List (κ × Option β)) : SortedMap κ β :=
  es.foldl (fun m e => e.2.elim m (m.insert e.1)) empty

def retain (m : SortedMap κ β) (p : κ → Bool) : SortedMap κ β :=
  ⟨m.entries.filter fun e => p e.1, m.sorted.filter _⟩

/-- The entries whose value has an image, with it. -/
def filterMap {γ : Type} (m : SortedMap κ β) (f : β → Option γ) : SortedMap κ γ :=
  ⟨m.entries.filterMap fun e => (f e.2).map (Prod.mk e.1), m.sorted.filterMap _ fun a b hab c hc d hd => by
    obtain ⟨_, -, rfl⟩ := Option.map_eq_some_iff.1 hc
    obtain ⟨_, -, rfl⟩ := Option.map_eq_some_iff.1 hd
    exact hab⟩

def keys (m : SortedMap κ β) : List κ := m.entries.map Prod.fst

def length (m : SortedMap κ β) : Nat := m.entries.length

/-- The key of `last_key_value`. -/
def lastKey (m : SortedMap κ β) : Option κ := m.entries.getLast?.map Prod.fst

/-- `pop_first`. -/
def popFirst (m : SortedMap κ β) : Option ((κ × β) × SortedMap κ β) :=
  match m with
  | ⟨[], _⟩ => none
  | ⟨e :: es, h⟩ => some (e, ⟨es, (List.pairwise_cons.1 h).2⟩)

theorem insert_last {m : SortedMap κ β} {k : κ} {v : β} (h : ∀ e ∈ m.entries, e.1 < k) :
    (m.insert k v).entries = m.entries ++ [(k, v)] := insertEntry_last h

/-! ## Lookups -/

theorem find?_cons (k : κ) (e : κ × β) (es : List (κ × β)) :
    ((e :: es).find? fun e => e.1 == k).map Prod.snd =
      if e.1 = k then some e.2 else (es.find? fun e => e.1 == k).map Prod.snd := by
  by_cases h : e.1 = k <;> simp [h]

theorem find?_eq_some {m : SortedMap κ β} {k : κ} {v : β} : m.find? k = some v ↔ (k, v) ∈ m.entries := by
  obtain ⟨es, hs⟩ := m
  show (es.find? fun e => e.1 == k).map Prod.snd = some v ↔ (k, v) ∈ es
  induction es with
  | nil => simp
  | cons e es ih =>
    obtain ⟨he, hes⟩ := List.pairwise_cons.1 hs
    rw [find?_cons, List.mem_cons]
    split
    · rename_i hk
      constructor
      · rintro ⟨rfl⟩
        exact Or.inl (by rw [← hk])
      · rintro (h | h)
        · rw [← h]
        · exact absurd (hk ▸ he (k, v) h) (lt_irrefl _)
    · rename_i hk
      rw [ih hes]
      exact ⟨Or.inr, fun h => h.resolve_left fun h => hk (by rw [← h])⟩

theorem find?_eq_none {m : SortedMap κ β} {k : κ} : m.find? k = none ↔ ∀ v, (k, v) ∉ m.entries := by
  rw [Option.eq_none_iff_forall_ne_some]
  exact forall_congr' fun v => not_congr find?_eq_some

@[simp] theorem find?_empty (k : κ) : (empty : SortedMap κ β).find? k = none := rfl

theorem find?_insert (m : SortedMap κ β) (k : κ) (v : β) (x : κ) :
    (m.insert k v).find? x = if x = k then some v else m.find? x := by
  obtain ⟨es, hs⟩ := m
  show ((insertEntry k v es).find? fun e => e.1 == x).map Prod.snd =
    if x = k then some v else (es.find? fun e => e.1 == x).map Prod.snd
  induction es with
  | nil =>
    rw [insertEntry, find?_cons]
    simp only [eq_comm]
  | cons e es ih =>
    have ih := ih (List.pairwise_cons.1 hs).2
    rw [insertEntry]
    split
    · rw [find?_cons]
      simp only [eq_comm]
    · split
      · rename_i hlt
        rw [find?_cons, find?_cons, ih]
        by_cases hx : e.1 = x
        · rw [if_pos hx, if_pos hx, if_neg (hx ▸ ne_of_lt hlt)]
        · rw [if_neg hx, if_neg hx]
      · rename_i h1 h2
        have heq : e.1 = k := le_antisymm (not_lt.1 h1) (not_lt.1 h2)
        rw [find?_cons, find?_cons, heq]
        by_cases hx : x = k
        · simp [hx]
        · rw [if_neg (Ne.symm hx), if_neg hx, if_neg (Ne.symm hx)]

theorem find?_orInsert (m : SortedMap κ β) (k : κ) (v : β) (x : κ) :
    (m.orInsert k v).find? x = if x = k then some ((m.find? k).getD v) else m.find? x := by
  unfold orInsert
  cases h : m.find? k with
  | none =>
    rw [if_neg (by simp), find?_insert]
    rfl
  | some w =>
    rw [Option.isSome_some, if_pos rfl]
    split
    · rename_i hx
      rw [hx, h]
      rfl
    · rfl

/-- Every key that is not there yet is inserted. -/
theorem find?_foldl_orInsert (v : β) (x : κ) : ∀ (ks : List κ) (m : SortedMap κ β),
    (ks.foldl (fun m k => m.orInsert k v) m).find? x = if x ∈ ks then some ((m.find? x).getD v) else m.find? x
  | [], m => by simp
  | k :: ks, m => by
    rw [List.foldl_cons, find?_foldl_orInsert v x ks, find?_orInsert]
    by_cases hk : x = k
    · subst hk
      simp
    · simp [hk]

theorem find?_retain (m : SortedMap κ β) (p : κ → Bool) (x : κ) :
    (m.retain p).find? x = if p x then m.find? x else none := by
  cases hp : p x with
  | false =>
    rw [if_neg (by simp), find?_eq_none]
    intro v hv
    simp [retain, hp] at hv
  | true =>
    rw [if_pos rfl]
    apply Option.ext
    intro v
    rw [find?_eq_some, find?_eq_some]
    simp [retain, hp]

theorem find?_filterMap {γ : Type} (m : SortedMap κ β) (f : β → Option γ) (x : κ) :
    (m.filterMap f).find? x = (m.find? x).bind f := by
  apply Option.ext
  intro v
  rw [find?_eq_some, Option.bind_eq_some_iff]
  simp only [filterMap, List.mem_filterMap, Option.map_eq_some_iff, Prod.mk.injEq, find?_eq_some]
  constructor
  · rintro ⟨⟨k, w⟩, hmem, u, hu, rfl, rfl⟩
    exact ⟨w, hmem, hu⟩
  · rintro ⟨w, hmem, hu⟩
    exact ⟨(x, w), hmem, v, hu, rfl, rfl⟩

theorem find?_extendWith {γ : Type} (f : γ → β) (m : SortedMap κ β) (other : SortedMap κ γ) (x : κ) :
    (m.extendWith f other).find? x = ((other.find? x).map f).or (m.find? x) := by
  obtain ⟨es, hs⟩ := other
  show (es.foldl (fun m e => m.insert e.1 (f e.2)) m).find? x =
    (((es.find? fun e => e.1 == x).map Prod.snd).map f).or (m.find? x)
  induction es generalizing m with
  | nil => rfl
  | cons e es ih =>
    obtain ⟨he, hes⟩ := List.pairwise_cons.1 hs
    rw [List.foldl_cons, ih _ hes, find?_insert, find?_cons]
    by_cases hx : e.1 = x
    · -- the later entries have greater keys
      have hlater : (es.find? fun a => a.1 == x) = none := by
        rw [List.find?_eq_none]
        intro a ha heq
        exact absurd (he a ha) (by rw [hx, eq_of_beq heq]; exact lt_irrefl _)
      rw [hlater, if_pos hx.symm, if_pos hx]
      rfl
    · rw [if_neg (Ne.symm hx), if_neg hx]

theorem find?_foldl_options {x : κ} {v : β} : ∀ {es : List (κ × Option β)} {m : SortedMap κ β}, (es.map Prod.fst).Nodup →
    ((es.foldl (fun m e => e.2.elim m (m.insert e.1)) m).find? x = some v ↔
      (x, some v) ∈ es ∨ (∀ w, (x, some w) ∉ es) ∧ m.find? x = some v)
  | [], m, _ => by simp
  | (k, none) :: es, m, h => by
    rw [List.foldl_cons, find?_foldl_options (List.nodup_cons.1 h).2]
    simp
  | (k, some u) :: es, m, h => by
    obtain ⟨hk, hes⟩ := List.nodup_cons.1 h
    rw [List.foldl_cons, find?_foldl_options hes, Option.elim_some, find?_insert]
    by_cases hx : x = k
    · subst hx
      -- the key does not come again
      have hlater : ∀ w, (x, w) ∉ es := fun w hw => hk (List.mem_map.2 ⟨_, hw, rfl⟩)
      simp [hlater, eq_comm]
    · simp [hx]

theorem find?_ofOptions {es : List (κ × Option β)} (h : (es.map Prod.fst).Nodup) {x : κ} {v : β} :
    (ofOptions es).find? x = some v ↔ (x, some v) ∈ es := by
  rw [ofOptions, find?_foldl_options h]
  simp

theorem find?_ofOptions_of_mem {es : List (κ × Option β)} (h : (es.map Prod.fst).Nodup) {x : κ} {o : Option β}
    (hmem : (x, o) ∈ es) : (ofOptions es).find? x = o := by
  apply Option.ext
  intro v
  rw [find?_ofOptions h]
  constructor
  · intro hv
    exact congrArg Prod.snd (List.inj_on_of_nodup_map h hmem hv rfl)
  · rintro rfl
    exact hmem

theorem find?_ofOptions_of_not_mem {es : List (κ × Option β)} (h : (es.map Prod.fst).Nodup) {x : κ}
    (hx : x ∉ es.map Prod.fst) : (ofOptions es).find? x = none := by
  rw [Option.eq_none_iff_forall_ne_some]
  intro v hv
  exact hx (List.mem_map.2 ⟨_, (find?_ofOptions h).1 hv, rfl⟩)

theorem mem_keys {m : SortedMap κ β} {x : κ} : x ∈ m.keys ↔ m.find? x ≠ none := by
  rw [keys, List.mem_map, Option.ne_none_iff_exists']
  constructor
  · rintro ⟨⟨k, v⟩, hmem, rfl⟩
    exact ⟨v, find?_eq_some.2 hmem⟩
  · rintro ⟨v, hv⟩
    exact ⟨(x, v), find?_eq_some.1 hv, rfl⟩

/-- Two maps with the same lookups are the same. -/
theorem ext_find? {m n : SortedMap κ β} (h : ∀ k, m.find? k = n.find? k) : m = n := by
  obtain ⟨es, hes⟩ := m
  obtain ⟨fs, hfs⟩ := n
  have hmem : ∀ e, e ∈ es ↔ e ∈ fs := fun e => by
    have hlookup := h e.1
    exact (find?_eq_some (m := ⟨es, hes⟩)).symm.trans ((by rw [hlookup] : _ ↔ _).trans (find?_eq_some (m := ⟨fs, hfs⟩)))
  have hne : ∀ {a b : κ × β}, a.1 < b.1 → a ≠ b := fun hlt heq => lt_irrefl _ (heq ▸ hlt)
  have hperm : es.Perm fs := (List.perm_ext_iff_of_nodup (hes.imp hne) (hfs.imp hne)).2 hmem
  have heq : es = fs := hperm.eq_of_pairwise (fun a b _ _ hab hba => absurd hab (lt_asymm hba)) hes hfs
  subst heq
  rfl

/-! ## Sorted lists -/

/-- Two strictly sorted lists with the same members are equal. -/
theorem eq_of_sorted {l r : List κ} (hl : l.Pairwise (· < ·)) (hr : r.Pairwise (· < ·))
    (h : ∀ x, x ∈ l ↔ x ∈ r) : l = r := by
  have hperm : l.Perm r := (List.perm_ext_iff_of_nodup (hl.imp ne_of_lt) (hr.imp ne_of_lt)).2 h
  exact hperm.eq_of_pairwise (fun a b _ _ hab hba => absurd hab (not_lt.2 (le_of_lt hba))) hl hr

theorem keys_sorted (m : SortedMap κ β) : (m.entries.map Prod.fst).Pairwise (· < ·) :=
  List.pairwise_map.2 m.sorted

/-- A key that is there stays, and no other comes. -/
theorem keys_insert_of_mem {m : SortedMap κ β} {k : κ} (h : k ∈ m.keys) (v : β) : (m.insert k v).keys = m.keys := by
  refine eq_of_sorted (keys_sorted _) (keys_sorted _) fun x => ?_
  show x ∈ (m.insert k v).keys ↔ x ∈ m.keys
  rw [mem_keys, mem_keys, find?_insert]
  split
  · rename_i hx
    rw [hx, ← mem_keys]
    simpa using h
  · exact Iff.rfl

/-! ## The last key -/

theorem lastKey_eq_none {m : SortedMap κ β} : m.lastKey = none ↔ m.entries = [] := by
  simp [lastKey]

/-- The last key is the greatest. -/
theorem lastKey_eq_some {m : SortedMap κ β} {k : κ} (h : m.lastKey = some k) :
    (∃ v, m.find? k = some v) ∧ ∀ x v, m.find? x = some v → x ≤ k := by
  obtain ⟨e, he, rfl⟩ := Option.map_eq_some_iff.1 h
  obtain ⟨front, hfront⟩ := List.getLast?_eq_some_iff.1 he
  constructor
  · refine ⟨e.2, find?_eq_some.2 ?_⟩
    rw [hfront]
    exact List.mem_append_right _ List.mem_cons_self
  · intro x v hx
    have hmem := find?_eq_some.1 hx
    have hsorted := m.sorted
    rw [hfront] at hmem hsorted
    rcases List.mem_append.1 hmem with hmem | hmem
    · exact le_of_lt ((List.pairwise_append.1 hsorted).2.2 _ hmem e List.mem_cons_self)
    · rw [← List.mem_singleton.1 hmem]

/-! ## Sums -/

/-- The sum of a weight over the entries. -/
def total (weight : κ → β → Nat) (m : SortedMap κ β) : Nat := (m.entries.map fun e => weight e.1 e.2).sum

theorem le_total_of_find? {weight : κ → β → Nat} {m : SortedMap κ β} {k : κ} {v : β} (h : m.find? k = some v) :
    weight k v ≤ m.total weight := by
  obtain ⟨front, back, hsplit⟩ := List.append_of_mem (find?_eq_some.1 h)
  rw [total, hsplit, List.map_append, List.sum_append, List.map_cons, List.sum_cons]
  exact (Nat.le_add_right _ _).trans (Nat.le_add_left _ _)

theorem sum_filterMap {ι α : Type} {f : ι → Option α} {weight : α → Nat} (names : List ι) :
    ((names.filterMap f).map weight).sum = (names.map fun k => ((f k).map weight).getD 0).sum := by
  induction names with
  | nil => rfl
  | cons k names ih =>
    cases hk : f k with
    | none => simp [hk, ih]
    | some a => simp [hk, ih]

/-- A sum over names that hold every key. -/
theorem total_eq {weight : κ → β → Nat} {m : SortedMap κ β} {names : List κ} (hnodup : names.Nodup)
    (h : ∀ k, m.find? k ≠ none → k ∈ names) :
    m.total weight = (names.map fun k => ((m.find? k).map (weight k)).getD 0).sum := by
  have hperm : m.entries.Perm (names.filterMap fun k => (m.find? k).map (Prod.mk k)) := by
    refine (List.perm_ext_iff_of_nodup ?_ ?_).2 fun e => ?_
    · exact m.sorted.imp fun hab heq => absurd (heq ▸ hab) (lt_irrefl _)
    · refine hnodup.filterMap fun k l e hk hl => ?_
      obtain ⟨_, -, rfl⟩ := Option.map_eq_some_iff.1 hk
      obtain ⟨_, -, heq⟩ := Option.map_eq_some_iff.1 hl
      exact (congrArg Prod.fst heq).symm
    · rw [List.mem_filterMap]
      constructor
      · intro he
        have hfind := find?_eq_some.2 he
        exact ⟨e.1, h e.1 (by rw [hfind]; exact Option.some_ne_none _), by rw [hfind]; rfl⟩
      · rintro ⟨k, -, hk⟩
        obtain ⟨v, hv, rfl⟩ := Option.map_eq_some_iff.1 hk
        exact find?_eq_some.1 hv
  rw [total, (hperm.map fun e => weight e.1 e.2).sum_nat, sum_filterMap]
  simp [Option.map_map, Function.comp_def]
end SortedMap
