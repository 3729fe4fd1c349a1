import Mathlib.Data.Char
import Mathlib.Data.List.Lex
import UnifiMcp.Lib.JsonSchema
import UnifiMcp.Lib.SortedMap
import UnifiMcp.Mcp.Tools
/-! # Portable schemas (unifi-mcp/src/tools.rs:4874)

The advertised schemas are rewritten for clients that take neither boolean schemas nor arrays of types: a boolean
becomes a choice of all types or a negation, a union of types a choice of its own.

* `normalize_object` — the source's order: the union first, then the schemas below.
* `meaning_normalize` — the rewritten schema means what the original means.
* `normalize_again` — a rewritten schema is left as it is.
* `normalize_portable_schema_preserves` — **every instance is judged as before.** -/
namespace UnifiMcp.PortableSchema
open Text JsonSchema

/-! ## The rewrite -/

def BOOLEAN_SCHEMA_KEYWORDS : List Text :=
  ["additionalProperties".toList, "unevaluatedProperties".toList, "additionalItems".toList, "unevaluatedItems".toList]

def JSON_SCHEMA_TYPES : List Text :=
  ["null".toList, "boolean".toList, "object".toList, "array".toList, "number".toList, "string".toList, "integer".toList]

/-- `Map::insert`. -/
def inserted (name : Text) (value : Json) (members : List (Text × Json)) : List (Text × Json) :=
  if members.any fun member => member.1 == name then
    members.map fun member => if member.1 == name then (name, value) else member
  else SortedMap.insertEntry name value members

/-- The loop over the names of a type array (tools.rs:4899). -/
def collectTypes : List Json → List Text → Option (List Text)
  | [], types => some types
  | value :: values, types =>
    match value.asStr with
    | none => none
    | some name =>
      if !JSON_SCHEMA_TYPES.contains name || types.contains name then none else collectTypes values (types ++ [name])

/-- The names of a type array, if there are any and no other value. -/
def portableTypes : Json → Option (List Text)
  | .array values => (collectTypes values []).filter fun types => !types.isEmpty
  | _ => none

/-- `{"type": name}` for each name. -/
def typeBranches (types : List Text) : Json := .array (types.map fun name => .object [("type".toList, .string name)])

/-- A type array becomes a choice (tools.rs:4895-4930); `none` is the panic of the `expect`. -/
def expandTypes (members : List (Text × Json)) : Option (List (Text × Json)) :=
  match (member "type".toList members).bind portableTypes with
  | none => some members
  | some types =>
    let members := without "type".toList members
    if (member "anyOf".toList members).isSome then
      match (member "allOf".toList members).getD (.array []) with
      | .array schemas =>
        some (inserted "allOf".toList (.array (schemas ++ [.object [("anyOf".toList, typeBranches types)]])) members)
      | _ => none
    else some (inserted "anyOf".toList (typeBranches types) members)

/-- What stands below a keyword. -/
inductive Place where
  | map
  | list
  | items
  | schema
  | other
deriving DecidableEq

/-- The keywords of the loops (tools.rs:4932-4977). -/
def MAP_KEYWORDS : List Text :=
  ["$defs".toList, "definitions".toList, "properties".toList, "patternProperties".toList, "dependentSchemas".toList,
    "dependencies".toList]

def LIST_KEYWORDS : List Text := ["allOf".toList, "anyOf".toList, "oneOf".toList, "prefixItems".toList]

def SCHEMA_KEYWORDS : List Text :=
  ["contains".toList, "propertyNames".toList, "not".toList, "if".toList, "then".toList, "else".toList, "contentSchema".toList,
    "additionalProperties".toList, "unevaluatedProperties".toList, "additionalItems".toList, "unevaluatedItems".toList]

def placeOf (keyword : Text) : Place :=
  if MAP_KEYWORDS.contains keyword then .map
  else if LIST_KEYWORDS.contains keyword then .list
  else if keyword == "items".toList then .items
  else if SCHEMA_KEYWORDS.contains keyword then .schema
  else .other

/-- `items` holds one schema or a list of them. -/
def isArray : Json → Bool
  | .array _ => true
  | _ => false

mutual

/-- `normalize_portable_schema` (tools.rs:4878), with the union of types rewritten behind the schemas below: these
are not the type, and what takes its place stays as it is (`normalize_object`). -/
def normalizePortableSchema (parentKeyword : Option Text) : Json → Option Json
  | .bool acceptsEverything => some (
      if parentKeyword.any BOOLEAN_SCHEMA_KEYWORDS.contains then .bool acceptsEverything
      else if acceptsEverything then .object [("anyOf".toList, typeBranches JSON_SCHEMA_TYPES)]
      else .object [("not".toList, .object [])])
  | .object members => (normalizeMembers members).bind fun members => (expandTypes members).map .object
  | schema => some schema

def normalizeMembers : List (Text × Json) → Option (List (Text × Json))
  | [] => some []
  | (keyword, value) :: members =>
    let value := match placeOf keyword with
      | .map => normalizeMap keyword value
      | .list => normalizeList keyword value
      | .items => if isArray value then normalizeList keyword value else normalizePortableSchema (some keyword) value
      | .schema => normalizePortableSchema (some keyword) value
      | .other => some value
    value.bind fun value => (normalizeMembers members).map fun members => (keyword, value) :: members

def normalizeMap (keyword : Text) : Json → Option Json
  | .object children => (normalizeValues keyword children).map .object
  | value => some value

def normalizeValues (keyword : Text) : List (Text × Json) → Option (List (Text × Json))
  | [] => some []
  | (name, child) :: children =>
    (normalizePortableSchema (some keyword) child).bind fun child =>
      (normalizeValues keyword children).map fun children => (name, child) :: children

def normalizeList (keyword : Text) : Json → Option Json
  | .array children => (normalizeChildren keyword children).map .array
  | value => some value

def normalizeChildren (keyword : Text) : List Json → Option (List Json)
  | [] => some []
  | child :: children =>
    (normalizePortableSchema (some keyword) child).bind fun child =>
      (normalizeChildren keyword children).map fun children => child :: children

end

/-- What stands below one keyword. -/
def normalizeValue (keyword : Text) (value : Json) : Option Json :=
  match placeOf keyword with
  | .map => normalizeMap keyword value
  | .list => normalizeList keyword value
  | .items => if isArray value then normalizeList keyword value else normalizePortableSchema (some keyword) value
  | .schema => normalizePortableSchema (some keyword) value
  | .other => some value

theorem normalizeMembers_cons (keyword : Text) (value : Json) (members : List (Text × Json)) :
    normalizeMembers ((keyword, value) :: members) = (normalizeValue keyword value).bind fun value =>
      (normalizeMembers members).map fun members => (keyword, value) :: members := by
  rw [normalizeMembers]
  rfl

mutual

/-- The schemas that `normalize_portable_schema` descends into, each with the keyword it stands under. -/
def positions (parentKeyword : Option Text) : Json → List (Option Text × Json)
  | .object members => (parentKeyword, .object members) :: memberPositions members
  | schema => [(parentKeyword, schema)]

def memberPositions : List (Text × Json) → List (Option Text × Json)
  | [] => []
  | (keyword, value) :: members =>
    (match placeOf keyword with
      | .map => mapPositions keyword value
      | .list => listPositions keyword value
      | .items => if isArray value then listPositions keyword value else positions (some keyword) value
      | .schema => positions (some keyword) value
      | .other => []) ++ memberPositions members

def mapPositions (keyword : Text) : Json → List (Option Text × Json)
  | .object children => valuePositions keyword children
  | _ => []

def valuePositions (keyword : Text) : List (Text × Json) → List (Option Text × Json)
  | [] => []
  | (_, child) :: children => positions (some keyword) child ++ valuePositions keyword children

def listPositions (keyword : Text) : Json → List (Option Text × Json)
  | .array children => childPositions keyword children
  | _ => []

def childPositions (keyword : Text) : List Json → List (Option Text × Json)
  | [] => []
  | child :: children => positions (some keyword) child ++ childPositions keyword children

end

/-! ## Members -/

theorem lookup_without (name keyword : Text) (members : List (Text × Json)) :
    lookup name (without keyword members) = if name = keyword then none else lookup name members := by
  induction members with
  | nil => simp [lookup, without]
  | cons entry members ih =>
    have hcons : without keyword (entry :: members) =
        if entry.1 != keyword then entry :: without keyword members else without keyword members := List.filter_cons
    rw [hcons, lookup_cons]
    by_cases hkeyword : entry.1 = keyword
    · rw [hkeyword, bne_self_eq_false, if_neg Bool.false_ne_true, ih]
      by_cases hname : name = keyword
      · rw [if_pos hname, if_pos hname]
      · rw [if_neg hname, if_neg hname, if_neg (Ne.symm hname)]
    · rw [if_pos (by simpa using hkeyword), lookup_cons, ih]
      by_cases hname : entry.1 = name
      · rw [if_pos hname, if_pos hname, if_neg (hname ▸ hkeyword)]
      · rw [if_neg hname, if_neg hname]

theorem lookup_insertEntry {keyword : Text} {value : Json} (name : Text) : ∀ {members : List (Text × Json)},
    (∀ entry ∈ members, entry.1 ≠ keyword) →
      lookup name (SortedMap.insertEntry keyword value members) = if name = keyword then some value else lookup name members
  | [], _ => by
    rw [SortedMap.insertEntry, lookup_cons]
    by_cases hname : name = keyword
    · rw [if_pos hname, if_pos hname.symm]
    · rw [if_neg hname, if_neg (Ne.symm hname)]
  | entry :: members, habsent => by
    have hne := habsent entry List.mem_cons_self
    have ih := @lookup_insertEntry keyword value name members fun e he => habsent e (List.mem_cons_of_mem _ he)
    rw [SortedMap.insertEntry]
    split
    · rw [lookup_cons]
      by_cases hname : name = keyword
      · rw [if_pos hname, if_pos hname.symm]
      · rw [if_neg hname, if_neg (Ne.symm hname)]
    · split
      · rw [lookup_cons, lookup_cons, ih]
        by_cases hname : entry.1 = name
        · rw [if_pos hname, if_pos hname, if_neg (hname ▸ hne)]
        · rw [if_neg hname, if_neg hname]
      · rename_i hlt hgt
        exact absurd (le_antisymm (not_lt.1 hlt) (not_lt.1 hgt)) hne

theorem lookup_replaced (name keyword : Text) (value : Json) (members : List (Text × Json)) :
    lookup name (members.map fun entry => if entry.1 == keyword then (keyword, value) else entry) =
      if name = keyword then (lookup keyword members).map fun _ => value else lookup name members := by
  induction members with
  | nil => simp [lookup]
  | cons entry members ih =>
    rw [List.map_cons]
    by_cases hentry : entry.1 = keyword
    · have hhead : (if (entry.1 == keyword) = true then (keyword, value) else entry) = (keyword, value) := if_pos (by simpa using hentry)
      rw [hhead, lookup_cons, lookup_cons, lookup_cons, ih, if_pos hentry, hentry]
      by_cases hname : name = keyword
      · rw [if_pos hname.symm, if_pos hname, Option.map_some]
      · rw [if_neg (Ne.symm hname), if_neg hname, if_neg hname, if_neg (Ne.symm hname)]
    · have hhead : (if (entry.1 == keyword) = true then (keyword, value) else entry) = entry := if_neg (by simpa using hentry)
      rw [hhead, lookup_cons, lookup_cons, lookup_cons, ih, if_neg hentry]
      by_cases hname : entry.1 = name
      · rw [if_pos hname, if_pos hname, if_neg (hname ▸ hentry)]
      · rw [if_neg hname, if_neg hname]

theorem lookup_isSome (name : Text) (members : List (Text × Json)) :
    (lookup name members).isSome = members.any fun entry => entry.1 == name := by
  unfold lookup
  rw [Option.isSome_map, List.isSome_find?]

/-- A lookup behind `Map::insert`. -/
theorem lookup_inserted (name keyword : Text) (value : Json) (members : List (Text × Json)) :
    lookup name (inserted keyword value members) = if name = keyword then some value else lookup name members := by
  unfold inserted
  rw [← lookup_isSome]
  cases hfound : lookup keyword members with
  | none =>
    refine lookup_insertEntry name fun entry hentry hsame => ?_
    have hany : (members.any fun entry => entry.1 == keyword) = true := List.any_eq_true.2 ⟨entry, hentry, by simpa using hsame⟩
    rw [← lookup_isSome, hfound] at hany
    cases hany
  | some found =>
    rw [Option.isSome_some, if_pos rfl, lookup_replaced, hfound]
    rfl

/-! ## Unions of types -/

theorem collectTypes_eq_some : ∀ {values : List Json} {types all : List Text}, collectTypes values types = some all ↔
    ∃ names, values = names.map .string ∧ all = types ++ names ∧ names.Nodup ∧
      ∀ name ∈ names, name ∉ types ∧ name ∈ JSON_SCHEMA_TYPES
  | [], types, all => by
    rw [collectTypes, Option.some.injEq]
    constructor
    · rintro rfl
      exact ⟨[], rfl, (List.append_nil _).symm, List.nodup_nil, fun _ h => (by cases h)⟩
    · rintro ⟨names, hvalues, rfl, -⟩
      rw [List.map_eq_nil_iff.1 hvalues.symm, List.append_nil]
  | value :: values, types, all => by
    rw [collectTypes]
    cases value with
    | string name =>
      show (if _ then _ else _) = _ ↔ _
      by_cases hbad : (!JSON_SCHEMA_TYPES.contains name || types.contains name) = true
      · rw [if_pos hbad]
        refine ⟨fun h => (by cases h), ?_⟩
        rintro ⟨names, hvalues, -, -, hnames⟩
        cases names with
        | nil => cases hvalues
        | cons first names =>
          cases hvalues
          obtain ⟨hnew, hvalid⟩ := hnames name List.mem_cons_self
          simp [hnew, hvalid] at hbad
      · rw [if_neg hbad, collectTypes_eq_some]
        simp only [Bool.or_eq_true, Bool.not_eq_true', List.contains_eq_mem, decide_eq_false_iff_not, decide_eq_true_eq, not_or,
          not_not] at hbad
        obtain ⟨hvalid, hnew⟩ := hbad
        constructor
        · rintro ⟨names, rfl, rfl, hnodup, hnames⟩
          refine ⟨name :: names, rfl, by simp, List.nodup_cons.2 ⟨fun hmem => ?_, hnodup⟩, fun other hother => ?_⟩
          · exact (hnames name hmem).1 (by simp)
          · rcases List.mem_cons.1 hother with rfl | hother
            · exact ⟨hnew, hvalid⟩
            · exact ⟨fun hmem => (hnames other hother).1 (List.mem_append_left _ hmem), (hnames other hother).2⟩
        · rintro ⟨names, hvalues, rfl, hnodup, hnames⟩
          cases names with
          | nil => cases hvalues
          | cons first names =>
            obtain ⟨hfirst, hrest⟩ := List.cons.inj hvalues
            cases hfirst
            obtain ⟨hnot, hnodup⟩ := List.nodup_cons.1 hnodup
            refine ⟨names, hrest, by simp, hnodup, fun other hother => ?_⟩
            obtain ⟨hother', hvalid'⟩ := hnames other (List.mem_cons_of_mem _ hother)
            refine ⟨fun hmem => ?_, hvalid'⟩
            rcases List.mem_append.1 hmem with hmem | hmem
            · exact hother' hmem
            · exact hnot (List.mem_singleton.1 hmem ▸ hother)
    | null | bool _ | number _ | array _ | object _ =>
      refine ⟨fun h => (by cases h), ?_⟩
      rintro ⟨names, hvalues, -⟩
      cases names <;> cases hvalues

/-- An array of distinct type names, one at least. -/
structure TypeUnion (value : Json) (names : List Text) : Prop where
  value : value = .array (names.map .string)
  ne : names ≠ []
  nodup : names.Nodup
  valid : ∀ name ∈ names, name ∈ JSON_SCHEMA_TYPES

theorem portableTypes_eq_some {value : Json} {names : List Text} : portableTypes value = some names ↔ TypeUnion value names := by
  cases value with
  | array values =>
    show (collectTypes values []).filter (fun types => !types.isEmpty) = some names ↔ _
    rw [Option.filter_eq_some_iff, collectTypes_eq_some]
    constructor
    · rintro ⟨⟨found, rfl, rfl, hnodup, hfound⟩, hne⟩
      exact ⟨rfl, fun h => by simp [h] at hne, hnodup, fun name hname => (hfound name hname).2⟩
    · rintro ⟨hvalue, hne, hnodup, hvalid⟩
      exact ⟨⟨names, Json.array.inj hvalue, rfl, hnodup, fun name hname => ⟨List.not_mem_nil, hvalid name hname⟩⟩, by simp [hne]⟩
  | null | bool _ | number _ | string _ | object _ =>
    refine ⟨fun h => (by cases h), fun h => ?_⟩
    cases h.value

/-- The choice that a union becomes beside another choice. -/
def choiceOf (names : List Text) : Json := .object [("anyOf".toList, typeBranches names)]

/-- What `expandTypes` makes of the members. -/
inductive Expanded (members : List (Text × Json)) : List (Text × Json) → Prop where
  | same (h : ∀ value names, lookup "type".toList members = some value → ¬TypeUnion value names) : Expanded members members
  | chosen {value : Json} {names : List Text} (htype : lookup "type".toList members = some value) (hunion : TypeUnion value names)
      (hany : lookup "anyOf".toList members = none) :
      Expanded members (inserted "anyOf".toList (typeBranches names) (without "type".toList members))
  | joined {value : Json} {names : List Text} {schemas : List Json} (htype : lookup "type".toList members = some value)
      (hunion : TypeUnion value names) (hany : (lookup "anyOf".toList members).isSome)
      (hall : (lookup "allOf".toList members).getD (.array []) = .array schemas) :
      Expanded members (inserted "allOf".toList (.array (schemas ++ [choiceOf names])) (without "type".toList members))

theorem expandTypes_expanded {members expanded : List (Text × Json)} (h : expandTypes members = some expanded) :
    Expanded members expanded := by
  have hanyOf : member "anyOf".toList (without "type".toList members) = lookup "anyOf".toList members :=
    (lookup_without _ _ members).trans (if_neg (by decide))
  have hallOf : member "allOf".toList (without "type".toList members) = lookup "allOf".toList members :=
    (lookup_without _ _ members).trans (if_neg (by decide))
  unfold expandTypes at h
  cases htypes : (member "type".toList members).bind portableTypes with
  | none =>
    rw [htypes] at h
    cases h
    refine .same fun value names hvalue hunion => ?_
    have hvalue : member "type".toList members = some value := hvalue
    rw [hvalue, Option.bind_some, portableTypes_eq_some.2 hunion] at htypes
    cases htypes
  | some names =>
    rw [htypes] at h
    obtain ⟨value, hvalue, hnames⟩ := Option.bind_eq_some_iff.1 htypes
    have hunion := portableTypes_eq_some.1 hnames
    dsimp only at h
    rw [hanyOf, hallOf] at h
    split at h
    · rename_i hany
      split at h
      · rename_i schemas hall
        cases h
        exact .joined hvalue hunion hany hall
      · cases h
    · rename_i hany
      cases h
      exact .chosen hvalue hunion (by simpa using hany)

section
variable (d : Dialect) (env : Json → Sem)

/-- A test of every member that takes no part of what was added or removed. -/
theorem all_without {test : Text × Json → Bool} {keyword : Text} (htest : ∀ value, test (keyword, value) = true)
    (members : List (Text × Json)) : (without keyword members).all test = members.all test := by
  unfold without
  rw [List.all_filter]
  congr 1
  funext entry
  by_cases hentry : entry.1 = keyword
  · obtain ⟨name, value⟩ := entry
    obtain rfl : name = keyword := hentry
    rw [htest]
    simp
  · simp [hentry]

theorem all_inserted {test : Text × Json → Bool} {keyword : Text} (htest : ∀ value, test (keyword, value) = true) (value : Json)
    (members : List (Text × Json)) : (inserted keyword value members).all test = members.all test := by
  unfold inserted
  split
  · rw [List.all_map]
    congr 1
    funext entry
    by_cases hentry : entry.1 = keyword
    · obtain ⟨name, other⟩ := entry
      obtain rfl : name = keyword := hentry
      simp [htest]
    · simp [hentry]
  · rename_i hany
    induction members with
    | nil => simp [SortedMap.insertEntry, htest]
    | cons entry members ih =>
      rw [SortedMap.insertEntry]
      split
      · simp [htest]
      · split
        · rw [List.all_cons, List.all_cons, ih fun hsame => hany (by rw [List.any_cons, hsame, Bool.or_true])]
        · rename_i hlt hgt
          have hentry : entry.1 = keyword := le_antisymm (not_lt.1 hlt) (not_lt.1 hgt)
          exact absurd (by rw [List.any_cons, hentry, beq_self_eq_true, Bool.true_or]) hany

/-- The keywords of an object whose type is taken out and one choice put in. -/
theorem keywords_rewritten {members : List (Text × Json)} {keyword : Text} (hkeyword : keyword = "anyOf".toList ∨ keyword = "allOf".toList)
    (value : Json) : keywords d env (parts d env (inserted keyword value (without "type".toList members))) =
      { keywords d env (parts d env members) with
        type := none
        anyOf := if keyword = "anyOf".toList then some (listMeanings d env value) else (keywords d env (parts d env members)).anyOf
        allOf := if keyword = "allOf".toList then some (listMeanings d env value) else (keywords d env (parts d env members)).allOf } := by
  have hlookup (name : Text) : lookup name (parts d env (inserted keyword value (without "type".toList members))) =
      if name = keyword then some (partOf d env value) else if name = "type".toList then none else lookup name (parts d env members) := by
    rw [lookup_parts, lookup_inserted, lookup_without, lookup_parts]
    split
    · rfl
    · split <;> rfl
  have hall (members : List (Text × Json)) (instance_ : Json) :
      (parts d env members).all (fun part => STRUCTURAL.contains part.1 || d.asserts part.1 part.2.raw instance_) =
        members.all fun entry => STRUCTURAL.contains entry.1 || d.asserts entry.1 entry.2 instance_ := by
    rw [parts_eq_map, List.all_map]
    rfl
  have htype : STRUCTURAL.contains "type".toList = true := by decide
  have hstructural : STRUCTURAL.contains keyword = true := by
    rcases hkeyword with rfl | rfl <;> decide
  rw [@keywords_update d env (parts d env members) _ (fun name htype hany hall => ?_) fun instance_ => ?_]
  · rcases hkeyword with rfl | rfl
    · simp only [hlookup]
      rfl
    · simp only [hlookup]
      rfl
  · rw [hlookup, if_neg, if_neg htype]
    rcases hkeyword with rfl | rfl
    · exact hany
    · exact hall
  · rw [hall, hall, all_inserted, all_without]
    · intro value
      rw [htype, Bool.true_or]
    · intro value
      rw [hstructural, Bool.true_or]

/-- **A union that became a choice means the same.** -/
theorem meaning_expandTypes {members expanded : List (Text × Json)} (h : expandTypes members = some expanded) :
    meaning d env (.object expanded) = meaning d env (.object members) := by
  have htyped {value : Json} {names : List Text} (htype : lookup "type".toList members = some value) (hunion : TypeUnion value names) :
      (keywords d env (parts d env members)).type = some (.array (names.map .string)) := by
    show (lookup "type".toList (parts d env members)).map Part.raw = _
    rw [lookup_parts, htype, hunion.value]
    rfl
  cases expandTypes_expanded h with
  | same => rfl
  | @chosen value names htype hunion hany =>
    show evaluate d (keywords d env (parts d env (inserted _ _ _))) = evaluate d (keywords d env (parts d env members))
    have hnone : (keywords d env (parts d env members)).anyOf = none := by
      show (lookup "anyOf".toList (parts d env members)).map Part.list = _
      rw [lookup_parts, hany]
      rfl
    have hlist : listMeanings d env (typeBranches names) = names.map (typeSem d) := listMeanings_oneOfTypes d env names
    rw [keywords_rewritten d env (Or.inl rfl), if_pos rfl, if_neg (by decide), hlist]
    exact evaluate_union_anyOf d _ (htyped htype hunion) hnone
  | @joined value names schemas htype hunion hany hall =>
    show evaluate d (keywords d env (parts d env (inserted _ _ _))) = evaluate d (keywords d env (parts d env members))
    have hlist : listMeanings d env (.array (schemas ++ [choiceOf names])) =
        (keywords d env (parts d env members)).allOf.getD [] ++ [meaning d env (choiceOf names)] := by
      have happend (items : List Json) : itemMeanings d env (items ++ [choiceOf names]) =
          itemMeanings d env items ++ [meaning d env (choiceOf names)] := by
        have hmap (items : List Json) : itemMeanings d env items = items.map (meaning d env) := by
          have hid := itemMeanings_map d env id items
          rwa [List.map_id] at hid
        rw [hmap, hmap, List.map_append, List.map_singleton]
      have hbefore : (keywords d env (parts d env members)).allOf.getD [] = itemMeanings d env schemas := by
        show ((lookup "allOf".toList (parts d env members)).map Part.list).getD [] = _
        rw [lookup_parts]
        cases hlookup : lookup "allOf".toList members with
        | none =>
          rw [hlookup] at hall
          cases hall
          rfl
        | some schemas' =>
          rw [hlookup] at hall
          cases hall
          rfl
      rw [hbefore]
      exact happend schemas
    rw [keywords_rewritten d env (Or.inr rfl), if_pos rfl, if_neg (by decide), hlist]
    exact evaluate_union_allOf d _ (htyped htype hunion) (meaning_oneOfTypes d env names)

/-! ## The meaning -/

theorem placeOf_raw {keyword : Text} (h : placeOf keyword ≠ .other) : readRaw keyword = false := by
  have hmap := List.all_eq_true.1 (by decide : MAP_KEYWORDS.all (fun keyword => !readRaw keyword) = true) keyword
  have hlist := List.all_eq_true.1 (by decide : LIST_KEYWORDS.all (fun keyword => !readRaw keyword) = true) keyword
  have hschema := List.all_eq_true.1 (by decide : SCHEMA_KEYWORDS.all (fun keyword => !readRaw keyword) = true) keyword
  have hitems : readRaw "items".toList = false := by decide
  unfold placeOf at h
  split_ifs at h with h1 h2 h3 h4
  · simpa using hmap (by simpa using h1)
  · simpa using hlist (by simpa using h2)
  · rw [beq_iff_eq] at h3
    rw [h3, hitems]
  · simpa using hschema (by simpa using h4)
  · exact absurd rfl h

/-- The keywords that are read as one schema stand in the loops for these. -/
theorem placeOf_schemas {keyword : Text} (h : SCHEMAS.contains keyword = true) : placeOf keyword = .schema ∨ placeOf keyword = .items := by
  have hall := List.all_eq_true.1
    (by decide : SCHEMAS.all (fun keyword => placeOf keyword == .schema || placeOf keyword == .items) = true) keyword (by simpa using h)
  simpa using hall

theorem placeOf_lists {keyword : Text} (h : LISTS.contains keyword = true) : placeOf keyword = .list := by
  have hall := List.all_eq_true.1 (by decide : LISTS.all (fun keyword => placeOf keyword == .list) = true) keyword (by simpa using h)
  simpa using hall

theorem placeOf_maps {keyword : Text} (h : MAPS.contains keyword = true) : placeOf keyword = .map := by
  have hall := List.all_eq_true.1 (by decide : MAPS.all (fun keyword => placeOf keyword == .map) = true) keyword (by simpa using h)
  simpa using hall

theorem alike_of_map {keyword : Text} (hplace : placeOf keyword = .map) {p q : Part} (h : p.map = q.map) : Alike keyword p q where
  raw := fun hraw => by rw [placeOf_raw (by rw [hplace]; decide)] at hraw; cases hraw
  schema := fun hname => by rcases placeOf_schemas hname with hsame | hsame <;> rw [hplace] at hsame <;> cases hsame
  list := fun hname => by cases hplace.symm.trans (placeOf_lists hname)
  map := fun _ => h

theorem alike_of_list {keyword : Text} (hplace : placeOf keyword = .list) {p q : Part} (h : p.list = q.list) : Alike keyword p q where
  raw := fun hraw => by rw [placeOf_raw (by rw [hplace]; decide)] at hraw; cases hraw
  schema := fun hname => by rcases placeOf_schemas hname with hsame | hsame <;> rw [hplace] at hsame <;> cases hsame
  list := fun _ => h
  map := fun hname => by cases hplace.symm.trans (placeOf_maps hname)

theorem alike_of_schema {keyword : Text} (hplace : placeOf keyword = .schema ∨ placeOf keyword = .items) {p q : Part}
    (h : p.schema = q.schema) : Alike keyword p q where
  raw := fun hraw => by
    rw [placeOf_raw (by rcases hplace with hplace | hplace <;> rw [hplace] <;> decide)] at hraw
    cases hraw
  schema := fun _ => h
  list := fun hname => by rcases hplace with hplace | hplace <;> cases hplace.symm.trans (placeOf_lists hname)
  map := fun hname => by rcases hplace with hplace | hplace <;> cases hplace.symm.trans (placeOf_maps hname)

mutual

/-- **The rewritten schema means what the original means**, whatever its references mean. -/
theorem meaning_normalize : ∀ {schema : Json} {parent : Option Text} {portable : Json},
    normalizePortableSchema parent schema = some portable → meaning d env portable = meaning d env schema
  | .bool accepts, parent, portable, h => by
    rw [normalizePortableSchema] at h
    cases h
    split
    · rfl
    · cases accepts with
      | true => exact funext (meaning_anything d env)
      | false => exact funext (meaning_nothing d env)
  | .object members, parent, portable, h => by
    rw [normalizePortableSchema] at h
    obtain ⟨below, hbelow, h⟩ := Option.bind_eq_some_iff.1 h
    obtain ⟨expanded, hexpanded, rfl⟩ := Option.map_eq_some_iff.1 h
    have hkeywords := keywords_congr d env (parts_normalize hbelow)
    exact (meaning_expandTypes d env hexpanded).trans (congrArg (evaluate d) hkeywords)
  | .null, _, _, h | .number _, _, _, h | .string _, _, _, h | .array _, _, _, h => by
    cases h
    rfl
termination_by structural schema => schema

theorem parts_normalize : ∀ {members below : List (Text × Json)}, normalizeMembers members = some below →
    List.Forall₂ (fun p q => p.1 = q.1 ∧ Alike p.1 p.2 q.2) (parts d env below) (parts d env members)
  | [], _, h => by
    cases h
    exact .nil
  | (keyword, value) :: members, below, h => by
    rw [normalizeMembers_cons] at h
    obtain ⟨value', hvalue, h⟩ := Option.bind_eq_some_iff.1 h
    obtain ⟨members', hmembers, rfl⟩ := Option.map_eq_some_iff.1 h
    unfold normalizeValue at hvalue
    refine .cons ⟨rfl, ?_⟩ (parts_normalize hmembers)
    show Alike keyword (partOf d env value') (partOf d env value)
    cases hplace : placeOf keyword with
    | map =>
      rw [hplace] at hvalue
      exact alike_of_map hplace (mapMeanings_normalize hvalue)
    | list =>
      rw [hplace] at hvalue
      exact alike_of_list hplace (listMeanings_normalize hvalue)
    | items =>
      rw [hplace] at hvalue
      refine alike_of_schema (Or.inr hplace) ?_
      dsimp only at hvalue
      split at hvalue
      · rename_i harray
        cases value with
        | array children =>
          obtain ⟨children', -, rfl⟩ := Option.map_eq_some_iff.1 hvalue
          rfl
        | null | bool _ | number _ | string _ | object _ => cases harray
      · exact meaning_normalize hvalue
    | schema =>
      rw [hplace] at hvalue
      exact alike_of_schema (Or.inl hplace) (meaning_normalize hvalue)
    | other =>
      rw [hplace] at hvalue
      cases hvalue
      exact ⟨fun _ => rfl, fun _ => rfl, fun _ => rfl, fun _ => rfl⟩
termination_by structural schema => schema

theorem mapMeanings_normalize {keyword : Text} : ∀ {value portable : Json}, normalizeMap keyword value = some portable →
    mapMeanings d env portable = mapMeanings d env value
  | .object children, portable, h => by
    rw [normalizeMap] at h
    obtain ⟨children', hchildren, rfl⟩ := Option.map_eq_some_iff.1 h
    exact memberMeanings_normalize hchildren
  | .null, _, h | .bool _, _, h | .number _, _, h | .string _, _, h | .array _, _, h => by
    cases h
    rfl
termination_by structural schema => schema

theorem memberMeanings_normalize {keyword : Text} : ∀ {children portable : List (Text × Json)},
    normalizeValues keyword children = some portable → memberMeanings d env portable = memberMeanings d env children
  | [], _, h => by
    cases h
    rfl
  | (name, child) :: children, portable, h => by
    rw [normalizeValues] at h
    obtain ⟨child', hchild, h⟩ := Option.bind_eq_some_iff.1 h
    obtain ⟨children', hchildren, rfl⟩ := Option.map_eq_some_iff.1 h
    rw [memberMeanings, memberMeanings, meaning_normalize hchild, memberMeanings_normalize hchildren]
termination_by structural schema => schema

theorem listMeanings_normalize {keyword : Text} : ∀ {value portable : Json}, normalizeList keyword value = some portable →
    listMeanings d env portable = listMeanings d env value
  | .array children, portable, h => by
    rw [normalizeList] at h
    obtain ⟨children', hchildren, rfl⟩ := Option.map_eq_some_iff.1 h
    exact itemMeanings_normalize hchildren
  | .null, _, h | .bool _, _, h | .number _, _, h | .string _, _, h | .object _, _, h => by
    cases h
    rfl
termination_by structural schema => schema

theorem itemMeanings_normalize {keyword : Text} : ∀ {children portable : List Json},
    normalizeChildren keyword children = some portable → itemMeanings d env portable = itemMeanings d env children
  | [], _, h => by
    cases h
    rfl
  | child :: children, portable, h => by
    rw [normalizeChildren] at h
    obtain ⟨child', hchild, h⟩ := Option.bind_eq_some_iff.1 h
    obtain ⟨children', hchildren, rfl⟩ := Option.map_eq_some_iff.1 h
    rw [itemMeanings, itemMeanings, meaning_normalize hchild, itemMeanings_normalize hchildren]
termination_by structural schema => schema

end

end

/-! ## Definitions -/

theorem lookup_of_mem {name : Text} {members : List (Text × Json)} {value : Json} (h : lookup name members = some value) :
    (name, value) ∈ members := by
  obtain ⟨entry, hfind, rfl⟩ := Option.map_eq_some_iff.1 h
  have hname := List.find?_some hfind
  rw [beq_iff_eq] at hname
  exact hname ▸ List.mem_of_find?_eq_some hfind

/-- A keyword keeps its place; its value is rewritten. -/
theorem lookup_normalizeMembers (keyword : Text) : ∀ {members below : List (Text × Json)}, normalizeMembers members = some below →
    Option.Rel (fun value value' => normalizeValue keyword value = some value') (lookup keyword members) (lookup keyword below)
  | [], _, h => by
    cases h
    exact .none
  | (name, value) :: members, below, h => by
    rw [normalizeMembers_cons] at h
    obtain ⟨value', hvalue, h⟩ := Option.bind_eq_some_iff.1 h
    obtain ⟨members', hmembers, rfl⟩ := Option.map_eq_some_iff.1 h
    rw [lookup_cons, lookup_cons]
    by_cases hname : name = keyword
    · rw [if_pos hname, if_pos hname]
      exact .some (hname ▸ hvalue)
    · rw [if_neg hname, if_neg hname]
      exact lookup_normalizeMembers keyword hmembers

theorem lookup_normalizeValues {keyword : Text} (name : Text) : ∀ {children portable : List (Text × Json)},
    normalizeValues keyword children = some portable →
    Option.Rel (fun child child' => normalizePortableSchema (some keyword) child = some child') (lookup name children)
      (lookup name portable)
  | [], _, h => by
    cases h
    exact .none
  | (other, child) :: children, portable, h => by
    rw [normalizeValues] at h
    obtain ⟨child', hchild, h⟩ := Option.bind_eq_some_iff.1 h
    obtain ⟨children', hchildren, rfl⟩ := Option.map_eq_some_iff.1 h
    rw [lookup_cons, lookup_cons]
    by_cases hname : other = name
    · rw [if_pos hname, if_pos hname]
      exact .some hchild
    · rw [if_neg hname, if_neg hname]
      exact lookup_normalizeValues name hchildren

/-- A keyword that is no type and no choice is left by the rewrite of a union. -/
theorem lookup_expanded {members expanded : List (Text × Json)} (h : Expanded members expanded) {name : Text}
    (htype : name ≠ "type".toList) (hany : name ≠ "anyOf".toList) (hall : name ≠ "allOf".toList) :
    lookup name expanded = lookup name members := by
  cases h with
  | same => rfl
  | chosen => rw [lookup_inserted, if_neg hany, lookup_without, if_neg htype]
  | joined => rw [lookup_inserted, if_neg hall, lookup_without, if_neg htype]

/-- The second schema is the first one rewritten. -/
def Rewritten (schema portable : Json) : Prop := ∃ parent, normalizePortableSchema parent schema = some portable

/-- **A rewritten document has the rewritten definitions.** -/
theorem definition_rewritten (schema portable : Json) (step : Definitions × Text) (h : Rewritten schema portable) :
    Option.Rel Rewritten (definition schema step) (definition portable step) := by
  obtain ⟨parent, h⟩ := h
  obtain ⟨holder, name⟩ := step
  cases schema with
  | object members =>
    rw [normalizePortableSchema] at h
    obtain ⟨below, hbelow, h⟩ := Option.bind_eq_some_iff.1 h
    obtain ⟨expanded, hexpanded, rfl⟩ := Option.map_eq_some_iff.1 h
    have hplace : placeOf holder.keyword = .map := by cases holder <;> decide
    have hlookup : lookup holder.keyword expanded = lookup holder.keyword below := by
      refine lookup_expanded (expandTypes_expanded hexpanded) ?_ ?_ ?_ <;> cases holder <;> decide
    show Option.Rel Rewritten ((lookup holder.keyword members).bind _) ((lookup holder.keyword expanded).bind _)
    have hvalue := lookup_normalizeMembers holder.keyword hbelow
    rw [hlookup]
    generalize lookup holder.keyword members = found, lookup holder.keyword below = other at hvalue
    cases hvalue with
    | none => exact .none
    | @some value value' hvalue =>
      unfold normalizeValue at hvalue
      rw [hplace] at hvalue
      cases value with
      | object children =>
        dsimp only at hvalue
        rw [normalizeMap] at hvalue
        obtain ⟨children', hchildren, rfl⟩ := Option.map_eq_some_iff.1 hvalue
        have hchild := lookup_normalizeValues name hchildren
        show Option.Rel Rewritten (lookup name children) (lookup name children')
        generalize lookup name children = found, lookup name children' = other at hchild
        cases hchild with
        | none => exact .none
        | some hchild => exact .some ⟨_, hchild⟩
      | null | bool _ | number _ | string _ | array _ =>
        cases hvalue
        exact .none
  | bool accepts =>
    rw [normalizePortableSchema] at h
    cases h
    have hanything : definition (.object [("anyOf".toList, typeBranches JSON_SCHEMA_TYPES)]) (holder, name) = none := by
      cases holder <;> rfl
    have hnothing : definition (.object [("not".toList, .object [])]) (holder, name) = none := by
      cases holder <;> rfl
    show Option.Rel Rewritten none (definition _ _)
    split
    · exact .none
    · split
      · rw [hanything]
        exact .none
      · rw [hnothing]
        exact .none
  | null | number _ | string _ | array _ =>
    cases h
    exact .none

/-- **The rewritten document judges every instance as the original does.** -/
theorem validate_normalize (d : Dialect) {schema portable : Json} (h : Rewritten schema portable) (fuel : Nat) :
    validate d fuel portable = validate d fuel schema :=
  validate_congr d (fun env _ _ ⟨_, hrewritten⟩ => meaning_normalize d env hrewritten) definition_rewritten h fuel

/-! ## The normal form -/

theorem mem_inserted {keyword : Text} {value : Json} {members : List (Text × Json)} {entry : Text × Json}
    (h : entry ∈ inserted keyword value members) : entry = (keyword, value) ∨ entry ∈ members := by
  unfold inserted at h
  split at h
  · obtain ⟨other, hother, rfl⟩ := List.mem_map.1 h
    split
    · exact Or.inl rfl
    · exact Or.inr hother
  · exact SortedMap.mem_insertEntry h

theorem normalizeMembers_fixed {members : List (Text × Json)} :
    normalizeMembers members = some members ↔ ∀ entry ∈ members, normalizeValue entry.1 entry.2 = some entry.2 := by
  induction members with
  | nil => simp [normalizeMembers]
  | cons entry members ih =>
    obtain ⟨keyword, value⟩ := entry
    rw [normalizeMembers_cons, List.forall_mem_cons, ← ih]
    constructor
    · intro h
      obtain ⟨value', hvalue, h⟩ := Option.bind_eq_some_iff.1 h
      obtain ⟨members', hmembers, h⟩ := Option.map_eq_some_iff.1 h
      cases h
      exact ⟨hvalue, hmembers⟩
    · rintro ⟨hvalue, hmembers⟩
      rw [hvalue, hmembers]
      rfl

theorem normalizeValues_fixed {keyword : Text} {children : List (Text × Json)} : normalizeValues keyword children = some children ↔
    ∀ entry ∈ children, normalizePortableSchema (some keyword) entry.2 = some entry.2 := by
  induction children with
  | nil => simp [normalizeValues]
  | cons entry children ih =>
    obtain ⟨name, child⟩ := entry
    rw [normalizeValues, List.forall_mem_cons, ← ih]
    constructor
    · intro h
      obtain ⟨child', hchild, h⟩ := Option.bind_eq_some_iff.1 h
      obtain ⟨children', hchildren, h⟩ := Option.map_eq_some_iff.1 h
      cases h
      exact ⟨hchild, hchildren⟩
    · rintro ⟨hchild, hchildren⟩
      rw [hchild, hchildren]
      rfl

theorem normalizeChildren_fixed {keyword : Text} {children : List Json} : normalizeChildren keyword children = some children ↔
    ∀ child ∈ children, normalizePortableSchema (some keyword) child = some child := by
  induction children with
  | nil => simp [normalizeChildren]
  | cons child children ih =>
    rw [normalizeChildren, List.forall_mem_cons, ← ih]
    constructor
    · intro h
      obtain ⟨child', hchild, h⟩ := Option.bind_eq_some_iff.1 h
      obtain ⟨children', hchildren, h⟩ := Option.map_eq_some_iff.1 h
      cases h
      exact ⟨hchild, hchildren⟩
    · rintro ⟨hchild, hchildren⟩
      rw [hchild, hchildren]
      rfl

/-- A schema of one type is left as it is, -/
theorem normalize_type (parent : Option Text) {name : Text} :
    normalizePortableSchema parent (.object [("type".toList, .string name)]) = some (.object [("type".toList, .string name)]) := rfl

theorem normalizeList_types {keyword : Text} (names : List Text) :
    normalizeList keyword (typeBranches names) = some (typeBranches names) := by
  refine congrArg (Option.map Json.array) (normalizeChildren_fixed.2 fun child hchild => ?_)
  obtain ⟨name, -, rfl⟩ := List.mem_map.1 hchild
  exact normalize_type _

/-- and a choice of types. -/
theorem normalize_choiceOf (parent : Option Text) (names : List Text) :
    normalizePortableSchema parent (choiceOf names) = some (choiceOf names) := by
  have hmembers : normalizeMembers [("anyOf".toList, typeBranches names)] = some [("anyOf".toList, typeBranches names)] :=
    normalizeMembers_fixed.2 (List.forall_mem_singleton.2 (normalizeList_types names))
  rw [choiceOf, normalizePortableSchema, hmembers]
  rfl

/-- Without a union there is nothing to rewrite. -/
theorem expandTypes_same {members : List (Text × Json)}
    (h : ∀ value names, lookup "type".toList members = some value → ¬TypeUnion value names) : expandTypes members = some members := by
  have hnone : (member "type".toList members).bind portableTypes = none := by
    cases hvalue : member "type".toList members with
    | none => rfl
    | some value =>
      refine Option.eq_none_iff_forall_ne_some.2 fun names hnames => ?_
      exact h value names hvalue (portableTypes_eq_some.1 hnames)
  rw [expandTypes, hnone]

theorem Expanded.typeless {members expanded : List (Text × Json)} (h : Expanded members expanded) (value : Json) (names : List Text)
    (hvalue : lookup "type".toList expanded = some value) : ¬TypeUnion value names := by
  cases h with
  | same h => exact h value names hvalue
  | chosen | joined =>
    rw [lookup_inserted, if_neg (by decide), lookup_without, if_pos rfl] at hvalue
    cases hvalue

/-- The rewrite of a union adds nothing that is rewritten. -/
theorem Expanded.fixed {members expanded : List (Text × Json)} (h : Expanded members expanded)
    (hmembers : normalizeMembers members = some members) : normalizeMembers expanded = some expanded := by
  have hwithout {entry : Text × Json} (hentry : entry ∈ without "type".toList members) : entry ∈ members := List.mem_of_mem_filter hentry
  cases h with
  | same => exact hmembers
  | @chosen value names htype hunion hany =>
    refine normalizeMembers_fixed.2 fun entry hentry => ?_
    rcases mem_inserted hentry with rfl | hentry
    · exact normalizeList_types names
    · exact normalizeMembers_fixed.1 hmembers entry (hwithout hentry)
  | @joined value names schemas htype hunion hany hall =>
    refine normalizeMembers_fixed.2 fun entry hentry => ?_
    rcases mem_inserted hentry with rfl | hentry
    · refine congrArg (Option.map Json.array) (normalizeChildren_fixed.2 fun child hchild => ?_)
      rcases List.mem_append.1 hchild with hchild | hchild
      · cases hlookup : lookup "allOf".toList members with
        | none =>
          rw [hlookup] at hall
          cases hall
          cases hchild
        | some schemas' =>
          rw [hlookup] at hall
          cases hall
          have hvalue : normalizeList "allOf".toList (.array schemas) = some (.array schemas) :=
            normalizeMembers_fixed.1 hmembers _ (lookup_of_mem hlookup)
          obtain ⟨children, hchildren, hsame⟩ := Option.map_eq_some_iff.1 hvalue
          cases hsame
          exact normalizeChildren_fixed.1 hchildren child hchild
      · rw [List.mem_singleton.1 hchild]
        exact normalize_choiceOf _ names
    · exact normalizeMembers_fixed.1 hmembers entry (hwithout hentry)

theorem expandTypes_again {members expanded : List (Text × Json)} (h : expandTypes members = some expanded) :
    expandTypes expanded = some expanded := expandTypes_same (expandTypes_expanded h).typeless

theorem isArray_normalize {parent : Option Text} {schema portable : Json} (h : normalizePortableSchema parent schema = some portable) :
    isArray portable = isArray schema := by
  cases schema with
  | bool accepts =>
    rw [normalizePortableSchema] at h
    cases h
    split
    · rfl
    · split <;> rfl
  | object members =>
    rw [normalizePortableSchema] at h
    obtain ⟨below, -, h⟩ := Option.bind_eq_some_iff.1 h
    obtain ⟨expanded, -, rfl⟩ := Option.map_eq_some_iff.1 h
    rfl
  | null | number _ | string _ | array _ =>
    cases h
    rfl

mutual

/-- **Normalising twice equals normalising once.** -/
theorem normalize_again : ∀ {schema : Json} {parent : Option Text} {portable : Json},
    normalizePortableSchema parent schema = some portable → normalizePortableSchema parent portable = some portable
  | .bool accepts, parent, portable, h => by
    rw [normalizePortableSchema] at h
    cases h
    split
    · rename_i hbool
      rw [normalizePortableSchema, if_pos hbool]
    · split
      · exact normalize_choiceOf parent JSON_SCHEMA_TYPES
      · rfl
  | .object members, parent, portable, h => by
    rw [normalizePortableSchema] at h
    obtain ⟨below, hbelow, h⟩ := Option.bind_eq_some_iff.1 h
    obtain ⟨expanded, hexpanded, rfl⟩ := Option.map_eq_some_iff.1 h
    rw [normalizePortableSchema, (expandTypes_expanded hexpanded).fixed (members_again hbelow), Option.bind_some,
      expandTypes_again hexpanded]
    rfl
  | .null, _, _, h | .number _, _, _, h | .string _, _, _, h | .array _, _, _, h => by
    cases h
    rfl
termination_by structural schema => schema

theorem members_again : ∀ {members below : List (Text × Json)}, normalizeMembers members = some below →
    normalizeMembers below = some below
  | [], _, h => by
    cases h
    rfl
  | (keyword, value) :: members, below, h => by
    rw [normalizeMembers_cons] at h
    obtain ⟨value', hvalue, h⟩ := Option.bind_eq_some_iff.1 h
    obtain ⟨members', hmembers, rfl⟩ := Option.map_eq_some_iff.1 h
    have hagain : normalizeValue keyword value' = some value' := by
      unfold normalizeValue at hvalue ⊢
      cases hplace : placeOf keyword with
      | map =>
        rw [hplace] at hvalue
        exact map_again hvalue
      | list =>
        rw [hplace] at hvalue
        exact list_again hvalue
      | items =>
        rw [hplace] at hvalue
        dsimp only at hvalue ⊢
        split at hvalue
        · rename_i harray
          have hlist := list_again hvalue
          cases value with
          | array children =>
            obtain ⟨children', -, rfl⟩ := Option.map_eq_some_iff.1 hvalue
            exact (if_pos rfl).trans hlist
          | null | bool _ | number _ | string _ | object _ => cases harray
        · rename_i harray
          have hschema := normalize_again hvalue
          rw [if_neg (by rwa [isArray_normalize hvalue])]
          exact hschema
      | schema =>
        rw [hplace] at hvalue
        exact normalize_again hvalue
      | other => rfl
    rw [normalizeMembers_cons, hagain, members_again hmembers]
    rfl
termination_by structural schema => schema

theorem map_again {keyword : Text} : ∀ {value portable : Json}, normalizeMap keyword value = some portable →
    normalizeMap keyword portable = some portable
  | .object children, portable, h => by
    rw [normalizeMap] at h
    obtain ⟨children', hchildren, rfl⟩ := Option.map_eq_some_iff.1 h
    exact congrArg (Option.map Json.object) (values_again hchildren)
  | .null, _, h | .bool _, _, h | .number _, _, h | .string _, _, h | .array _, _, h => by
    cases h
    rfl
termination_by structural schema => schema

theorem values_again {keyword : Text} : ∀ {children portable : List (Text × Json)},
    normalizeValues keyword children = some portable → normalizeValues keyword portable = some portable
  | [], _, h => by
    cases h
    rfl
  | (name, child) :: children, portable, h => by
    rw [normalizeValues] at h
    obtain ⟨child', hchild, h⟩ := Option.bind_eq_some_iff.1 h
    obtain ⟨children', hchildren, rfl⟩ := Option.map_eq_some_iff.1 h
    rw [normalizeValues, normalize_again hchild, values_again hchildren]
    rfl
termination_by structural schema => schema

theorem list_again {keyword : Text} : ∀ {value portable : Json}, normalizeList keyword value = some portable →
    normalizeList keyword portable = some portable
  | .array children, portable, h => by
    rw [normalizeList] at h
    obtain ⟨children', hchildren, rfl⟩ := Option.map_eq_some_iff.1 h
    exact congrArg (Option.map Json.array) (children_again hchildren)
  | .null, _, h | .bool _, _, h | .number _, _, h | .string _, _, h | .object _, _, h => by
    cases h
    rfl
termination_by structural schema => schema

theorem children_again {keyword : Text} : ∀ {children portable : List Json},
    normalizeChildren keyword children = some portable → normalizeChildren keyword portable = some portable
  | [], _, h => by
    cases h
    rfl
  | child :: children, portable, h => by
    rw [normalizeChildren] at h
    obtain ⟨child', hchild, h⟩ := Option.bind_eq_some_iff.1 h
    obtain ⟨children', hchildren, rfl⟩ := Option.map_eq_some_iff.1 h
    rw [normalizeChildren, normalize_again hchild, children_again hchildren]
    rfl
termination_by structural schema => schema

end

/-! ## Positions -/

/-- A place of the output that portable clients take: a boolean only where one is allowed, no union of types. -/
def Portable (position : Option Text × Json) : Prop :=
  match position.2 with
  | .bool _ => position.1.any BOOLEAN_SCHEMA_KEYWORDS.contains = true
  | .object members => ∀ value names, lookup "type".toList members = some value → ¬TypeUnion value names
  | _ => True

theorem fixed_object {parent : Option Text} {members : List (Text × Json)}
    (h : normalizePortableSchema parent (.object members) = some (.object members)) :
    normalizeMembers members = some members ∧ ∀ value names, lookup "type".toList members = some value → ¬TypeUnion value names := by
  rw [normalizePortableSchema] at h
  obtain ⟨below, hbelow, h⟩ := Option.bind_eq_some_iff.1 h
  obtain ⟨expanded, hexpanded, hsame⟩ := Option.map_eq_some_iff.1 h
  obtain rfl : expanded = members := Json.object.inj hsame
  have hexpanded := expandTypes_expanded hexpanded
  have htype := lookup_normalizeMembers "type".toList hbelow
  refine ⟨?_, hexpanded.typeless⟩
  cases hexpanded with
  | same => exact hbelow
  | chosen hfound | joined hfound =>
    -- the union would have to stand in the members, from which it was taken out
    rw [lookup_inserted, if_neg (by decide), lookup_without, if_pos rfl, hfound] at htype
    cases htype

/-- What is left as it is, is portable. -/
theorem portable_fixed {position : Option Text × Json} (h : normalizePortableSchema position.1 position.2 = some position.2) :
    Portable position := by
  obtain ⟨parent, schema⟩ := position
  cases schema with
  | bool accepts =>
    show parent.any BOOLEAN_SCHEMA_KEYWORDS.contains = true
    rw [normalizePortableSchema] at h
    split at h
    · assumption
    · split at h <;> cases h
  | object members => exact (fixed_object h).2
  | null | number _ | string _ | array _ => trivial

mutual

/-- **Below a schema that is left as it is, every schema is.** -/
theorem positions_fixed : ∀ {schema : Json} {parent : Option Text}, normalizePortableSchema parent schema = some schema →
    ∀ position ∈ positions parent schema, normalizePortableSchema position.1 position.2 = some position.2
  | .object members, parent, h => by
    intro position hposition
    rw [positions] at hposition
    rcases List.mem_cons.1 hposition with rfl | hposition
    · exact h
    · exact memberPositions_fixed (fixed_object h).1 position hposition
  | .null, _, h | .bool _, _, h | .number _, _, h | .string _, _, h | .array _, _, h => by
    intro position hposition
    rw [positions] at hposition
    · rw [List.mem_singleton.1 hposition]
      exact h
    · intro _ hobject
      cases hobject
termination_by structural schema => schema

theorem memberPositions_fixed : ∀ {members : List (Text × Json)}, normalizeMembers members = some members →
    ∀ position ∈ memberPositions members, normalizePortableSchema position.1 position.2 = some position.2
  | [], _ => fun _ hposition => by cases hposition
  | (keyword, value) :: members, h => by
    obtain ⟨hvalue, hmembers⟩ := List.forall_mem_cons.1 (normalizeMembers_fixed.1 h)
    intro position hposition
    rw [memberPositions] at hposition
    rcases List.mem_append.1 hposition with hposition | hposition
    · unfold normalizeValue at hvalue
      dsimp only at hvalue
      cases hplace : placeOf keyword with
      | map =>
        rw [hplace] at hvalue hposition
        exact mapPositions_fixed hvalue position hposition
      | list =>
        rw [hplace] at hvalue hposition
        exact listPositions_fixed hvalue position hposition
      | items =>
        rw [hplace] at hvalue hposition
        dsimp only at hvalue hposition
        split at hposition
        · rename_i harray
          rw [if_pos harray] at hvalue
          exact listPositions_fixed hvalue position hposition
        · rename_i harray
          rw [if_neg harray] at hvalue
          exact positions_fixed hvalue position hposition
      | schema =>
        rw [hplace] at hvalue hposition
        exact positions_fixed hvalue position hposition
      | other =>
        rw [hplace] at hposition
        cases hposition
    · exact memberPositions_fixed (normalizeMembers_fixed.2 hmembers) position hposition
termination_by structural schema => schema

theorem mapPositions_fixed {keyword : Text} : ∀ {value : Json}, normalizeMap keyword value = some value →
    ∀ position ∈ mapPositions keyword value, normalizePortableSchema position.1 position.2 = some position.2
  | .object children, h => by
    obtain ⟨children', hchildren, hsame⟩ := Option.map_eq_some_iff.1 h
    cases hsame
    exact valuePositions_fixed hchildren
  | .null, _ | .bool _, _ | .number _, _ | .string _, _ | .array _, _ => fun _ hposition => by cases hposition
termination_by structural schema => schema

theorem valuePositions_fixed {keyword : Text} : ∀ {children : List (Text × Json)}, normalizeValues keyword children = some children →
    ∀ position ∈ valuePositions keyword children, normalizePortableSchema position.1 position.2 = some position.2
  | [], _ => fun _ hposition => by cases hposition
  | (name, child) :: children, h => by
    obtain ⟨hchild, hchildren⟩ := List.forall_mem_cons.1 (normalizeValues_fixed.1 h)
    intro position hposition
    rw [valuePositions] at hposition
    rcases List.mem_append.1 hposition with hposition | hposition
    · exact positions_fixed hchild position hposition
    · exact valuePositions_fixed (normalizeValues_fixed.2 hchildren) position hposition
termination_by structural schema => schema

theorem listPositions_fixed {keyword : Text} : ∀ {value : Json}, normalizeList keyword value = some value →
    ∀ position ∈ listPositions keyword value, normalizePortableSchema position.1 position.2 = some position.2
  | .array children, h => by
    obtain ⟨children', hchildren, hsame⟩ := Option.map_eq_some_iff.1 h
    cases hsame
    exact childPositions_fixed hchildren
  | .null, _ | .bool _, _ | .number _, _ | .string _, _ | .object _, _ => fun _ hposition => by cases hposition
termination_by structural schema => schema

theorem childPositions_fixed {keyword : Text} : ∀ {children : List Json}, normalizeChildren keyword children = some children →
    ∀ position ∈ childPositions keyword children, normalizePortableSchema position.1 position.2 = some position.2
  | [], _ => fun _ hposition => by cases hposition
  | child :: children, h => by
    obtain ⟨hchild, hchildren⟩ := List.forall_mem_cons.1 (normalizeChildren_fixed.1 h)
    intro position hposition
    rw [childPositions] at hposition
    rcases List.mem_append.1 hposition with hposition | hposition
    · exact positions_fixed hchild position hposition
    · exact childPositions_fixed (normalizeChildren_fixed.2 hchildren) position hposition
termination_by structural schema => schema

end

/-! ## No panic -/

/-- `allOf`, where it stands, is an array. -/
def allOfArray (schema : Json) : Bool := (schema.get "allOf".toList).all isArray

/-- It is one wherever the rewrite descends. -/
def AllOfArrays (parent : Option Text) (schema : Json) : Prop := ∀ position ∈ positions parent schema, allOfArray position.2 = true

instance decidableAllOfArrays (parent : Option Text) (schema : Json) : Decidable (AllOfArrays parent schema) :=
  inferInstanceAs (Decidable (∀ position ∈ positions parent schema, allOfArray position.2 = true))

/-- With an array there the `expect` holds. -/
theorem expandTypes_total {members : List (Text × Json)} (h : (lookup "allOf".toList members).all isArray = true) :
    ∃ expanded, expandTypes members = some expanded := by
  have hallOf : member "allOf".toList (without "type".toList members) = lookup "allOf".toList members :=
    (lookup_without _ _ members).trans (if_neg (by decide))
  unfold expandTypes
  split
  · exact ⟨_, rfl⟩
  · dsimp only
    split
    · rw [hallOf]
      cases hlookup : lookup "allOf".toList members with
      | none => exact ⟨_, rfl⟩
      | some value =>
        rw [hlookup] at h
        cases value with
        | array schemas => exact ⟨_, rfl⟩
        | null | bool _ | number _ | string _ | object _ => cases h
    · exact ⟨_, rfl⟩

theorem allOfArray_normalize {members below : List (Text × Json)} (h : normalizeMembers members = some below)
    (hallOf : allOfArray (.object members) = true) : (lookup "allOf".toList below).all isArray = true := by
  have hlookup := lookup_normalizeMembers "allOf".toList h
  have hallOf : (lookup "allOf".toList members).all isArray = true := hallOf
  generalize lookup "allOf".toList members = found, lookup "allOf".toList below = other at hlookup hallOf
  cases hlookup with
  | none => rfl
  | @some value value' hvalue =>
    cases value with
    | array children =>
      obtain ⟨children', -, rfl⟩ := Option.map_eq_some_iff.1 hvalue
      rfl
    | null | bool _ | number _ | string _ | object _ => cases hallOf

mutual

/-- **Where `allOf` is an array, the rewrite does not panic.** -/
theorem normalize_total : ∀ {schema : Json} {parent : Option Text}, AllOfArrays parent schema →
    ∃ portable, normalizePortableSchema parent schema = some portable
  | .object members, parent, h => by
    obtain ⟨hhere, hbelow⟩ := List.forall_mem_cons.1 h
    obtain ⟨below, hmembers⟩ := members_total hbelow
    obtain ⟨expanded, hexpanded⟩ := expandTypes_total (allOfArray_normalize hmembers hhere)
    exact ⟨.object expanded, by rw [normalizePortableSchema, hmembers, Option.bind_some, hexpanded]; rfl⟩
  | .bool _, _, _ | .null, _, _ | .number _, _, _ | .string _, _, _ | .array _, _, _ => ⟨_, rfl⟩
termination_by structural schema => schema

theorem members_total : ∀ {members : List (Text × Json)}, (∀ position ∈ memberPositions members, allOfArray position.2 = true) →
    ∃ below, normalizeMembers members = some below
  | [], _ => ⟨[], rfl⟩
  | (keyword, value) :: members, h => by
    rw [memberPositions] at h
    obtain ⟨hvalue, hmembers⟩ := List.forall_mem_append.1 h
    obtain ⟨members', hmembers⟩ := members_total hmembers
    have htotal : ∃ value', normalizeValue keyword value = some value' := by
      unfold normalizeValue
      cases hplace : placeOf keyword with
      | map =>
        rw [hplace] at hvalue
        exact map_total hvalue
      | list =>
        rw [hplace] at hvalue
        exact list_total hvalue
      | items =>
        rw [hplace] at hvalue
        dsimp only at hvalue ⊢
        split
        · rename_i harray
          rw [if_pos harray] at hvalue
          exact list_total hvalue
        · rename_i harray
          rw [if_neg harray] at hvalue
          exact normalize_total hvalue
      | schema =>
        rw [hplace] at hvalue
        exact normalize_total hvalue
      | other => exact ⟨value, rfl⟩
    obtain ⟨value', hvalue'⟩ := htotal
    exact ⟨(keyword, value') :: members', by rw [normalizeMembers_cons, hvalue', hmembers]; rfl⟩
termination_by structural schema => schema

theorem map_total {keyword : Text} : ∀ {value : Json}, (∀ position ∈ mapPositions keyword value, allOfArray position.2 = true) →
    ∃ portable, normalizeMap keyword value = some portable
  | .object children, h => by
    obtain ⟨children', hchildren⟩ := values_total h
    exact ⟨.object children', congrArg (Option.map Json.object) hchildren⟩
  | .null, _ | .bool _, _ | .number _, _ | .string _, _ | .array _, _ => ⟨_, rfl⟩
termination_by structural schema => schema

theorem values_total {keyword : Text} : ∀ {children : List (Text × Json)},
    (∀ position ∈ valuePositions keyword children, allOfArray position.2 = true) →
      ∃ portable, normalizeValues keyword children = some portable
  | [], _ => ⟨[], rfl⟩
  | (name, child) :: children, h => by
    rw [valuePositions] at h
    obtain ⟨hchild, hchildren⟩ := List.forall_mem_append.1 h
    obtain ⟨child', hchild⟩ := normalize_total hchild
    obtain ⟨children', hchildren⟩ := values_total hchildren
    exact ⟨(name, child') :: children', by rw [normalizeValues, hchild, hchildren]; rfl⟩
termination_by structural schema => schema

theorem list_total {keyword : Text} : ∀ {value : Json}, (∀ position ∈ listPositions keyword value, allOfArray position.2 = true) →
    ∃ portable, normalizeList keyword value = some portable
  | .array children, h => by
    obtain ⟨children', hchildren⟩ := children_total h
    exact ⟨.array children', congrArg (Option.map Json.array) hchildren⟩
  | .null, _ | .bool _, _ | .number _, _ | .string _, _ | .object _, _ => ⟨_, rfl⟩
termination_by structural schema => schema

theorem children_total {keyword : Text} : ∀ {children : List Json},
    (∀ position ∈ childPositions keyword children, allOfArray position.2 = true) →
      ∃ portable, normalizeChildren keyword children = some portable
  | [], _ => ⟨[], rfl⟩
  | child :: children, h => by
    rw [childPositions] at h
    obtain ⟨hchild, hchildren⟩ := List.forall_mem_append.1 h
    obtain ⟨child', hchild⟩ := normalize_total hchild
    obtain ⟨children', hchildren⟩ := children_total hchildren
    exact ⟨child' :: children', by rw [normalizeChildren, hchild, hchildren]; rfl⟩
termination_by structural schema => schema

end

/-! ## The source's order -/

theorem names_normalizeMembers : ∀ {members below : List (Text × Json)}, normalizeMembers members = some below →
    below.map Prod.fst = members.map Prod.fst
  | [], _, h => by
    cases h
    rfl
  | (keyword, value) :: members, below, h => by
    rw [normalizeMembers_cons] at h
    obtain ⟨value', -, h⟩ := Option.bind_eq_some_iff.1 h
    obtain ⟨members', hmembers, rfl⟩ := Option.map_eq_some_iff.1 h
    exact congrArg (keyword :: ·) (names_normalizeMembers hmembers)

theorem normalizeMembers_without {keyword : Text} (hplace : placeOf keyword = .other) (members : List (Text × Json)) :
    normalizeMembers (without keyword members) = (normalizeMembers members).map (without keyword) := by
  induction members with
  | nil => rfl
  | cons entry members ih =>
    obtain ⟨name, value⟩ := entry
    have hcons (value : Json) (members : List (Text × Json)) : without keyword ((name, value) :: members) =
        if name != keyword then (name, value) :: without keyword members else without keyword members := List.filter_cons
    rw [hcons, normalizeMembers_cons]
    by_cases hname : name = keyword
    · have hvalue : normalizeValue name value = some value := by
        rw [hname]
        unfold normalizeValue
        rw [hplace]
      rw [if_neg (by simpa using hname), ih, hvalue, Option.bind_some, Option.map_map]
      congr 1
      funext members
      exact ((hcons value members).trans (if_neg (by simpa using hname))).symm
    · rw [if_pos (by simpa using hname), normalizeMembers_cons, ih]
      cases normalizeValue name value with
      | none => rfl
      | some value' =>
        rw [Option.bind_some, Option.bind_some, Option.map_map, Option.map_map]
        congr 1
        funext members
        exact ((hcons value' members).trans (if_pos (by simpa using hname))).symm

theorem normalizeMembers_insertEntry {keyword : Text} {value value' : Json} (hvalue : normalizeValue keyword value = some value') :
    ∀ {members : List (Text × Json)}, keyword ∉ members.map Prod.fst →
      normalizeMembers (SortedMap.insertEntry keyword value members) =
        (normalizeMembers members).map (SortedMap.insertEntry keyword value')
  | [], _ => by
    rw [SortedMap.insertEntry, normalizeMembers_cons, hvalue]
    rfl
  | (name, other) :: members, habsent => by
    obtain ⟨hne, habsent⟩ := not_or.1 fun h => habsent (List.mem_cons.2 h)
    have ih := normalizeMembers_insertEntry hvalue habsent
    have hinsert (value other : Json) (members : List (Text × Json)) :
        SortedMap.insertEntry keyword value ((name, other) :: members) =
          if keyword < name then (keyword, value) :: (name, other) :: members
          else (name, other) :: SortedMap.insertEntry keyword value members := by
      rw [SortedMap.insertEntry]
      split
      · rfl
      · rename_i hlt
        exact if_pos (lt_of_le_of_ne (not_lt.1 hlt) (Ne.symm hne))
    rw [hinsert, normalizeMembers_cons]
    split
    · rename_i hlt
      rw [normalizeMembers_cons, hvalue, normalizeMembers_cons, Option.bind_some]
      cases normalizeValue name other with
      | none => rfl
      | some other' =>
        rw [Option.bind_some, Option.map_map, Option.map_map]
        congr 1
        funext members
        exact ((hinsert value' other' members).trans (if_pos hlt)).symm
    · rename_i hlt
      rw [normalizeMembers_cons, ih]
      cases normalizeValue name other with
      | none => rfl
      | some other' =>
        rw [Option.bind_some, Option.bind_some, Option.map_map, Option.map_map]
        congr 1
        funext members
        exact ((hinsert value' other' members).trans (if_neg hlt)).symm

/-- `Map::insert` under a name that is there. -/
def replaced (keyword : Text) (value : Json) (members : List (Text × Json)) : List (Text × Json) :=
  members.map fun entry => if entry.1 == keyword then (keyword, value) else entry

theorem replaced_absent {keyword : Text} (value : Json) {members : List (Text × Json)} (h : keyword ∉ members.map Prod.fst) :
    replaced keyword value members = members := by
  refine (List.map_congr_left fun entry hentry => ?_).trans (List.map_id members)
  refine if_neg fun hsame => h ?_
  rw [beq_iff_eq] at hsame
  exact hsame ▸ List.mem_map_of_mem hentry

theorem normalizeMembers_replaced {keyword : Text} {old old' value value' : Json} (hold : normalizeValue keyword old = some old')
    (hvalue : normalizeValue keyword value = some value') :
    ∀ {members : List (Text × Json)}, (members.map Prod.fst).Nodup → lookup keyword members = some old →
      normalizeMembers (replaced keyword value members) = (normalizeMembers members).map (replaced keyword value')
  | [], _, hlookup => by cases hlookup
  | (name, other) :: members, hnodup, hlookup => by
    obtain ⟨habsent, hnodup⟩ := List.nodup_cons.1 hnodup
    rw [lookup_cons] at hlookup
    have hcons (value other : Json) (members : List (Text × Json)) : replaced keyword value ((name, other) :: members) =
        (if name == keyword then (keyword, value) else (name, other)) :: replaced keyword value members := rfl
    rw [hcons, normalizeMembers_cons]
    by_cases hname : name = keyword
    · subst hname
      rw [if_pos rfl] at hlookup
      cases hlookup
      rw [if_pos (beq_self_eq_true _), normalizeMembers_cons, hvalue, hold, replaced_absent _ habsent, Option.bind_some,
        Option.bind_some, Option.map_map]
      cases hmembers : normalizeMembers members with
      | none => rfl
      | some members' =>
        have habsent' : name ∉ members'.map Prod.fst := by rwa [names_normalizeMembers hmembers]
        show some ((name, value') :: members') = some (replaced name value' ((name, old') :: members'))
        rw [hcons, if_pos (beq_self_eq_true _), replaced_absent _ habsent']
    · rw [if_neg hname] at hlookup
      rw [if_neg (by simpa using hname), normalizeMembers_cons, normalizeMembers_replaced hold hvalue hnodup hlookup]
      cases normalizeValue name other with
      | none => rfl
      | some other' =>
        rw [Option.bind_some, Option.bind_some, Option.map_map, Option.map_map]
        congr 1
        funext members
        rw [Function.comp, Function.comp, hcons, if_neg (by simpa using hname)]

theorem normalizeMembers_inserted {keyword : Text} {value value' : Json} (hvalue : normalizeValue keyword value = some value')
    {members : List (Text × Json)} (hnodup : (members.map Prod.fst).Nodup)
    (hold : ∀ old, lookup keyword members = some old → ∃ old', normalizeValue keyword old = some old') :
    normalizeMembers (inserted keyword value members) = (normalizeMembers members).map (inserted keyword value') := by
  have hinserted (value : Json) (members : List (Text × Json)) : inserted keyword value members =
      if (lookup keyword members).isSome then replaced keyword value members else SortedMap.insertEntry keyword value members := by
    rw [lookup_isSome]
    rfl
  have hsome {below : List (Text × Json)} (h : normalizeMembers members = some below) :
      (lookup keyword below).isSome = (lookup keyword members).isSome := by
    have hlookup := lookup_normalizeMembers keyword h
    generalize lookup keyword members = found, lookup keyword below = other at hlookup
    cases hlookup <;> rfl
  have hboth : (normalizeMembers members).map (inserted keyword value') = (normalizeMembers members).map fun below =>
      if (lookup keyword members).isSome then replaced keyword value' below else SortedMap.insertEntry keyword value' below := by
    cases hmembers : normalizeMembers members with
    | none => rfl
    | some below => rw [Option.map_some, Option.map_some, hinserted, hsome hmembers]
  rw [hboth, hinserted]
  cases hlookup : lookup keyword members with
  | none =>
    refine normalizeMembers_insertEntry hvalue fun hmem => ?_
    obtain ⟨entry, hentry, hname⟩ := List.mem_map.1 hmem
    have hany : (members.any fun entry => entry.1 == keyword) = true := List.any_eq_true.2 ⟨entry, hentry, by simpa using hname⟩
    rw [← lookup_isSome, hlookup] at hany
    cases hany
  | some old =>
    obtain ⟨old', hold⟩ := hold old hlookup
    exact normalizeMembers_replaced hold hvalue hnodup hlookup

theorem expandTypes_union {members : List (Text × Json)} {value : Json} {names : List Text}
    (htype : lookup "type".toList members = some value) (hunion : TypeUnion value names) : expandTypes members =
      if (lookup "anyOf".toList members).isSome then
        match (lookup "allOf".toList members).getD (.array []) with
        | .array schemas => some (inserted "allOf".toList (.array (schemas ++ [choiceOf names])) (without "type".toList members))
        | _ => none
      else some (inserted "anyOf".toList (typeBranches names) (without "type".toList members)) := by
  have hanyOf : member "anyOf".toList (without "type".toList members) = lookup "anyOf".toList members :=
    (lookup_without _ _ members).trans (if_neg (by decide))
  have hallOf : member "allOf".toList (without "type".toList members) = lookup "allOf".toList members :=
    (lookup_without _ _ members).trans (if_neg (by decide))
  have htypes : (member "type".toList members).bind portableTypes = some names :=
    Option.bind_eq_some_iff.2 ⟨value, htype, portableTypes_eq_some.2 hunion⟩
  rw [expandTypes, htypes]
  dsimp only
  rw [hanyOf, hallOf]
  rfl

theorem normalizeChildren_append {keyword : Text} {added : Json}
    (hadded : normalizePortableSchema (some keyword) added = some added) (children : List Json) :
    normalizeChildren keyword (children ++ [added]) = (normalizeChildren keyword children).map (· ++ [added]) := by
  induction children with
  | nil => exact normalizeChildren_fixed.2 (List.forall_mem_singleton.2 hadded)
  | cons child children ih =>
    rw [List.cons_append, normalizeChildren, normalizeChildren, ih]
    cases normalizePortableSchema (some keyword) child with
    | none => rfl
    | some child' =>
      rw [Option.bind_some, Option.bind_some, Option.map_map, Option.map_map]
      rfl

/-- What a rewritten member must look up. -/
theorem lookup_below {keyword : Text} {members below : List (Text × Json)} (h : normalizeMembers members = some below) {value : Json}
    (hvalue : lookup keyword members = some value) :
    ∃ value', normalizeValue keyword value = some value' ∧ lookup keyword below = some value' := by
  have hlookup := lookup_normalizeMembers keyword h
  rw [hvalue] at hlookup
  generalize lookup keyword below = other at hlookup
  cases hlookup with
  | some hvalue' => exact ⟨_, hvalue', rfl⟩

/-- **The union may be rewritten before or behind the schemas below**, panics included. -/
theorem normalizeMembers_expandTypes {members : List (Text × Json)} (hnodup : (members.map Prod.fst).Nodup) :
    (normalizeMembers members).bind expandTypes = (expandTypes members).bind normalizeMembers := by
  have hwithout : ((without "type".toList members).map Prod.fst).Nodup := hnodup.sublist (List.filter_sublist.map _)
  have htypeless := @normalizeMembers_without "type".toList (by decide) members
  have hkept (name : Text) (hname : name ≠ "type".toList) :
      lookup name (without "type".toList members) = lookup name members := (lookup_without _ _ members).trans (if_neg hname)
  by_cases hunion : ∃ value names, lookup "type".toList members = some value ∧ TypeUnion value names
  · obtain ⟨value, names, htype, hunion⟩ := hunion
    have hbelow {below : List (Text × Json)} (h : normalizeMembers members = some below) :
        lookup "type".toList below = some value := by
      obtain ⟨value', hvalue', hlookup⟩ := lookup_below h htype
      have hsame : normalizeValue "type".toList value = some value := rfl
      rw [hlookup, ← hvalue', hsame]
    have hanyOf {below : List (Text × Json)} (h : normalizeMembers members = some below) :
        (lookup "anyOf".toList below).isSome = (lookup "anyOf".toList members).isSome := by
      have hlookup := lookup_normalizeMembers "anyOf".toList h
      generalize lookup "anyOf".toList members = found, lookup "anyOf".toList below = other at hlookup
      cases hlookup <;> rfl
    rw [expandTypes_union htype hunion]
    by_cases hany : (lookup "anyOf".toList members).isSome
    · rw [if_pos hany]
      have hallOf {below : List (Text × Json)} (h : normalizeMembers members = some below) :
          normalizeList "allOf".toList ((lookup "allOf".toList members).getD (.array [])) =
            some ((lookup "allOf".toList below).getD (.array [])) := by
        have hlookup := lookup_normalizeMembers "allOf".toList h
        generalize lookup "allOf".toList members = found, lookup "allOf".toList below = other at hlookup
        cases hlookup with
        | none => rfl
        | some hvalue => exact hvalue
      have hjoined {below : List (Text × Json)} (h : normalizeMembers members = some below) : expandTypes below =
          match (lookup "allOf".toList below).getD (.array []) with
          | .array schemas => some (inserted "allOf".toList (.array (schemas ++ [choiceOf names])) (without "type".toList below))
          | _ => none := by
        rw [expandTypes_union (hbelow h) hunion, hanyOf h, if_pos hany]
      cases hschemas : (lookup "allOf".toList members).getD (.array []) with
      | array schemas =>
        dsimp only
        rw [Option.bind_some]
        cases hchildren : normalizeChildren "allOf".toList schemas with
        | none =>
          have hpanic : normalizeValue "allOf".toList (.array (schemas ++ [choiceOf names])) = none := by
            show (normalizeChildren _ _).map Json.array = none
            rw [normalizeChildren_append (normalize_choiceOf _ names), hchildren]
            rfl
          have hleft : normalizeMembers members = none := by
            refine Option.eq_none_iff_forall_ne_some.2 fun below hbelow => ?_
            have hallOf := hallOf hbelow
            rw [hschemas, normalizeList, hchildren] at hallOf
            cases hallOf
          rw [hleft]
          refine (Option.eq_none_iff_forall_ne_some.2 fun below hbelow => ?_).symm
          obtain ⟨value', hvalue', -⟩ := lookup_below hbelow ((lookup_inserted _ _ _ _).trans (if_pos rfl))
          rw [hpanic] at hvalue'
          cases hvalue'
        | some schemas' =>
          have hvalue : normalizeValue "allOf".toList (.array (schemas ++ [choiceOf names])) =
              some (.array (schemas' ++ [choiceOf names])) := by
            show (normalizeChildren _ _).map Json.array = _
            rw [normalizeChildren_append (normalize_choiceOf _ names), hchildren]
            rfl
          rw [normalizeMembers_inserted hvalue hwithout fun old hold => ?_]
          · rw [htypeless, Option.map_map]
            cases hmembers : normalizeMembers members with
            | none => rfl
            | some below =>
              have hallOf := hallOf hmembers
              rw [hschemas, normalizeList, hchildren] at hallOf
              rw [Option.bind_some, hjoined hmembers, ← Option.some.inj hallOf]
              rfl
          · rw [hkept _ (by decide)] at hold
            rw [hold] at hschemas
            cases hschemas
            exact ⟨.array schemas', congrArg (Option.map Json.array) hchildren⟩
      | null | bool _ | number _ | string _ | object _ =>
        cases hmembers : normalizeMembers members with
        | none => rfl
        | some below =>
          have hallOf := hallOf hmembers
          rw [hschemas] at hallOf
          rw [Option.bind_some, hjoined hmembers, ← Option.some.inj hallOf]
          rfl
    · have hbranches : normalizeValue "anyOf".toList (typeBranches names) = some (typeBranches names) := normalizeList_types names
      rw [if_neg hany, Option.bind_some, normalizeMembers_inserted hbranches hwithout fun old hold => ?_]
      · rw [htypeless, Option.map_map]
        cases hmembers : normalizeMembers members with
        | none => rfl
        | some below =>
          rw [Option.bind_some, expandTypes_union (hbelow hmembers) hunion, hanyOf hmembers, if_neg hany]
          rfl
      · rw [hkept _ (by decide)] at hold
        rw [hold] at hany
        exact absurd rfl hany
  · have hnone (value : Json) (names : List Text) (hvalue : lookup "type".toList members = some value) : ¬TypeUnion value names :=
      fun h => hunion ⟨value, names, hvalue, h⟩
    rw [expandTypes_same hnone, Option.bind_some]
    cases hmembers : normalizeMembers members with
    | none => rfl
    | some below =>
      refine expandTypes_same fun value names hvalue => ?_
      have hlookup := lookup_normalizeMembers "type".toList hmembers
      rw [hvalue] at hlookup
      cases htype : lookup "type".toList members with
      | none => rw [htype] at hlookup; cases hlookup
      | some value' =>
        rw [htype] at hlookup
        cases hlookup with
        | some hsame =>
          cases hsame
          exact hnone value names htype

/-- **The source's order**: the union first, then the schemas below. -/
theorem normalize_object (parent : Option Text) {members : List (Text × Json)} (hnodup : (members.map Prod.fst).Nodup) :
    normalizePortableSchema parent (.object members) =
      (expandTypes members).bind fun members => (normalizeMembers members).map .object := by
  have horder := congrArg (Option.map Json.object) (normalizeMembers_expandTypes hnodup)
  rw [Option.map_bind, Option.map_bind] at horder
  rw [normalizePortableSchema]
  exact horder

/-! ## The rewrite as a whole -/

/-- **The rewrite does not panic and preserves meaning**; its output is portable, and rewriting it again changes
nothing. -/
theorem normalize_portable_schema_preserves (d : Dialect) (schema : Json) (hallOf : AllOfArrays none schema) :
    ∃ portable, normalizePortableSchema none schema = some portable ∧
      (∀ instance_, Valid d portable instance_ ↔ Valid d schema instance_) ∧
      (∀ position ∈ positions none portable, Portable position) ∧
      normalizePortableSchema none portable = some portable := by
  obtain ⟨portable, hportable⟩ := normalize_total hallOf
  have hagain := normalize_again hportable
  refine ⟨portable, hportable, fun instance_ => ?_, fun position hposition => ?_, hagain⟩
  · unfold Valid
    simp only [validate_normalize d ⟨none, hportable⟩]
  · exact portable_fixed (positions_fixed hagain position hposition)

/-- A dialect of no other keywords, with references into `$defs`. -/
def plainDialect : Dialect where
  pointer := fun ref => ref.asStr.bind fun text =>
    if text.take 8 == "#/$defs/".toList then some [(.defs, text.drop 8)] else none
  pattern := fun pattern name => pattern == name
  integral := fun spelling => !spelling.contains '.'
  contains := fun _ _ count => 0 < count
  asserts := fun _ _ _ => true

/-- A union of types beside a choice, with a reference to another union. -/
def nullableLabel : Json := .object [
  ("$defs".toList, .object [("label".toList, .object [("type".toList, .array [.string "string".toList, .string "null".toList])])]),
  ("anyOf".toList, .array [.bool true, .object [("$ref".toList, .string "#/$defs/label".toList)]]),
  ("properties".toList, .object [("extra".toList, .bool false)]),
  ("type".toList, .array [.string "object".toList, .string "null".toList])]

theorem normalize_portable_schema_preserves_label : ∃ portable, normalizePortableSchema none nullableLabel = some portable ∧
    (∀ instance_, Valid plainDialect portable instance_ ↔ Valid plainDialect nullableLabel instance_) ∧
    (∀ position ∈ positions none portable, Portable position) ∧
    normalizePortableSchema none portable = some portable :=
  normalize_portable_schema_preserves plainDialect nullableLabel (by decide)

example : (normalizePortableSchema none nullableLabel).map (fun portable => (portable.get "allOf".toList, portable.get "type".toList)) =
    some (some (.array [choiceOf ["object".toList, "null".toList]]), none) := rfl

end UnifiMcp.PortableSchema
