import UnifiMcp.Lib.JsonPath
/-!
# Records as JSON objects

A record type has a member for each of its fields, under a name of its own. What a field has no value
for is left out of the object.

* `get_object` — a member of the object is the value of its field.
* `object_inj` — two objects are equal when their fields are.
* `without_members` — a member taken out is a field without a value.
-/

namespace Json

open Text

/-- The fields of a record and their names. -/
structure Layout (F : Type) where
  all : List F
  name : F → Text
  complete : ∀ field, field ∈ all
  distinct : (all.map name).Nodup

namespace Layout

variable {F : Type} (layout : Layout F) {value other : F → Option Json}

def members (value : F → Option Json) : List (Text × Json) :=
  layout.all.filterMap fun field => (value field).map fun found => (layout.name field, found)

def object (value : F → Option Json) : Json := .object (layout.members value)

theorem name_inj {field other : F} (h : layout.name field = layout.name other) : field = other :=
  List.inj_on_of_nodup_map layout.distinct (layout.complete field) (layout.complete other) h

theorem mem_members {key : Text} {found : Json} :
    (key, found) ∈ layout.members value ↔ ∃ field, layout.name field = key ∧ value field = some found := by
  rw [members, List.mem_filterMap]
  constructor
  · rintro ⟨field, -, hfield⟩
    obtain ⟨_, hvalue, heq⟩ := Option.map_eq_some_iff.1 hfield
    cases heq
    exact ⟨field, rfl, hvalue⟩
  · rintro ⟨field, rfl, hvalue⟩
    exact ⟨field, layout.complete field, by rw [hvalue]; rfl⟩

theorem names_nodup (value : F → Option Json) : ((layout.members value).map Prod.fst).Nodup := by
  have hsublist : ∀ fields : List F,
      ((fields.filterMap fun field => (value field).map fun found => (layout.name field, found)).map Prod.fst).Sublist
        (fields.map layout.name) := by
    intro fields
    induction fields with
    | nil => exact List.Sublist.slnil
    | cons field fields ih =>
      cases hvalue : value field with
      | none =>
        rw [List.filterMap_cons_none (by rw [hvalue]; rfl), List.map_cons]
        exact ih.cons _
      | some found =>
        rw [List.filterMap_cons_some (by rw [hvalue]; rfl), List.map_cons, List.map_cons]
        exact ih.cons_cons _
  exact layout.distinct.sublist (hsublist layout.all)

/-- **A member of the object is the value of its field.** -/
theorem get_object (field : F) : (layout.object value).get (layout.name field) = value field := by
  cases hvalue : value field with
  | some found => exact get_of_mem (layout.names_nodup value) (layout.mem_members.2 ⟨field, rfl, hvalue⟩)
  | none =>
    refine get_eq_none.2 fun hmem => ?_
    obtain ⟨⟨key, found⟩, hfound, hkey⟩ := List.mem_map.1 hmem
    obtain ⟨same, hname, hsome⟩ := layout.mem_members.1 hfound
    rw [layout.name_inj (hname.trans hkey), hvalue] at hsome
    cases hsome

theorem object_inj : layout.object value = layout.object other ↔ ∀ field, value field = other field := by
  constructor
  · intro h field
    have hget := congrArg (fun object => object.get (layout.name field)) h
    rwa [layout.get_object, layout.get_object] at hget
  · intro h
    rw [funext h]

/-- A member taken out is a field without a value. -/
theorem without_members [DecidableEq F] (field : F) :
    ((layout.members value).filter fun entry => entry.1 != layout.name field) =
      layout.members fun found => if found = field then none else value found := by
  rw [members, List.filter_filterMap, members]
  congr 1
  funext found
  by_cases hfound : found = field
  · subst hfound
    cases value found <;> simp
  · have hname : (layout.name found != layout.name field) = true := bne_iff_ne.2 fun heq => hfound (layout.name_inj heq)
    cases value found <;> simp [hfound, hname]

end Layout

end Json
