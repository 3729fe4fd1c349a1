import UnifiMcp.Lib.Json
/-!
# JSON Schema validation (draft 2020-12)

What a schema means: the instances it accepts, and the properties and items it evaluates on the way, which
`unevaluatedProperties` and `unevaluatedItems` ask for. The meaning of a schema is a function of the meanings of
its subschemas (`evaluate`), so a rewrite that keeps what `evaluate` is given keeps the meaning.

A `$ref` leads into `$defs` or `definitions`, below the root or below a schema found there. It may lead back, so a
meaning is given a number of references to follow (`validate`).

* `keywords_congr` — schemas with the same keywords, up to meaning, mean the same.
* `evaluate_union_anyOf`, `evaluate_union_allOf` — a union of types is a choice between them.
* `validate_congr` — documents with corresponding definitions judge alike.
-/
namespace JsonSchema

open Text

/-! ## Verdicts -/

/-- The properties and items that were evaluated. -/
structure Notes where
  props : List Text
  items : List Nat

/-- `none` rejects the instance. -/
abbrev Verdict := Option Notes

/-- The meaning of a schema; `none` when a reference does not end. -/
abbrev Sem := Json → Option Verdict

def accept : Verdict := some ⟨[], []⟩

def guard (accepts : Bool) : Verdict := if accepts then accept else none

def both : Verdict → Verdict → Verdict
  | some a, some b => some ⟨a.props ++ b.props, a.items ++ b.items⟩
  | _, _ => none

def allVerdicts (verdicts : List Verdict) : Verdict := verdicts.foldr both accept

def anyVerdict (verdicts : List Verdict) : Verdict :=
  if verdicts.any Option.isSome then allVerdicts (verdicts.filter Option.isSome) else none

def oneVerdict (verdicts : List Verdict) : Verdict :=
  match verdicts.filter Option.isSome with
  | [verdict] => verdict
  | _ => none

/-- A verdict about a part of the instance, with what it says of the whole. -/
def noted (notes : Notes) (verdict : Verdict) : Verdict := verdict.map fun _ => notes

@[simp] theorem both_accept (v : Verdict) : both v accept = v := by
  cases v with
  | none => rfl
  | some v => simp [both, accept]

@[simp] theorem accept_both (v : Verdict) : both accept v = v := by
  cases v with
  | none => rfl
  | some v => simp [both, accept]

theorem both_assoc (a b c : Verdict) : both (both a b) c = both a (both b c) := by
  cases a <;> cases b <;> cases c <;> simp [both]

/-- What notes nothing may stand anywhere. -/
theorem guard_both (accepts : Bool) (v : Verdict) : both (guard accepts) v = both v (guard accepts) := by
  cases accepts with
  | true => simp [guard]
  | false => cases v <;> rfl

theorem both_guard_both (accepts : Bool) (v w : Verdict) : both v (both (guard accepts) w) = both (guard accepts) (both v w) := by
  rw [← both_assoc, ← guard_both, both_assoc]

theorem allVerdicts_append (vs ws : List Verdict) : allVerdicts (vs ++ ws) = both (allVerdicts vs) (allVerdicts ws) := by
  induction vs with
  | nil => rw [List.nil_append, allVerdicts, allVerdicts, List.foldr_nil, accept_both]
  | cons v vs ih =>
    have ih : List.foldr both accept (vs ++ ws) = both (List.foldr both accept vs) (List.foldr both accept ws) := ih
    rw [List.cons_append, allVerdicts, allVerdicts, allVerdicts, List.foldr_cons, List.foldr_cons, ih, both_assoc]

@[simp] theorem allVerdicts_singleton (v : Verdict) : allVerdicts [v] = v := both_accept v

/-- A choice between tests. -/
theorem anyVerdict_guards (tests : List Bool) : anyVerdict (tests.map guard) = guard (tests.any id) := by
  have hall : ∀ tests : List Bool, allVerdicts ((tests.map guard).filter Option.isSome) = accept := by
    intro tests
    induction tests with
    | nil => rfl
    | cons test tests ih =>
      cases test with
      | true => exact (accept_both _).trans ih
      | false => exact ih
  have hsome : (tests.map guard).any Option.isSome = tests.any id := by
    rw [List.any_map]
    congr 1
    funext test
    cases test <;> rfl
  unfold anyVerdict
  rw [hsome, hall]
  rfl

/-! ## Dialects -/

/-- The keywords that a reference leads through. -/
inductive Definitions where
  | defs
  | definitions
deriving DecidableEq

def Definitions.keyword : Definitions → Text
  | .defs => "$defs".toList
  | .definitions => "definitions".toList

/-- What validation leaves to other standards, and the keywords that hold no schema. -/
structure Dialect where
  /-- The definitions that a `$ref` names, outermost first; `none` when it leads elsewhere. -/
  pointer : Json → Option (List (Definitions × Text))
  /-- The regular expression matches. -/
  pattern : Text → Text → Bool
  /-- The number has no fraction. -/
  integral : Text → Bool
  /-- `minContains` and `maxContains` allow so many. -/
  contains : Option Json → Option Json → Nat → Bool
  /-- The keyword with that value holds of the instance. -/
  asserts : Text → Json → Json → Bool

/-- The names that `type` may have. -/
def TYPES : List Text :=
  ["null".toList, "boolean".toList, "object".toList, "array".toList, "number".toList, "string".toList, "integer".toList]

section
variable (d : Dialect)

/-- The type that an instance has for sure. -/
def primitive : Json → Text
  | .null => "null".toList
  | .bool _ => "boolean".toList
  | .object _ => "object".toList
  | .array _ => "array".toList
  | .number _ => "number".toList
  | .string _ => "string".toList

def hasType (instance_ : Json) (name : Text) : Bool :=
  name == primitive instance_ ||
    match instance_ with
    | .number spelling => name == "integer".toList && d.integral spelling
    | _ => false

/-- `type` with a name, or with several. -/
def typeHolds (type : Json) (instance_ : Json) : Bool :=
  match type with
  | .string name => hasType d instance_ name
  | .array names => names.any fun name => name.asStr.any (hasType d instance_)
  | _ => false

/-! ## Keywords -/

/-- What the keywords of a schema object mean, each by the meanings of its subschemas. -/
structure Keywords where
  type : Option Json
  ref : Option Sem
  asserted : Json → Bool
  allOf : Option (List Sem)
  anyOf : Option (List Sem)
  oneOf : Option (List Sem)
  negated : Option Sem
  condition : Option Sem
  consequent : Option Sem
  alternative : Option Sem
  dependentSchemas : Option (List (Text × Sem))
  properties : Option (List (Text × Sem))
  patternProperties : Option (List (Text × Sem))
  additionalProperties : Option Sem
  propertyNames : Option Sem
  prefixItems : Option (List Sem)
  items : Option Sem
  contains : Option Sem
  minContains : Option Json
  maxContains : Option Json
  unevaluatedItems : Option Sem
  unevaluatedProperties : Option Sem

/-- A verdict where the keyword stands. -/
def whenPresent {α : Type} (keyword : Option α) (verdict : α → Option Verdict) : Option Verdict :=
  match keyword with
  | none => some accept
  | some value => verdict value

/-- Each member of an object by the schemas selected for it. -/
def onMembers (select : Text → List Sem) : Sem
  | .object members =>
    ((members.flatMap fun member => (select member.1).map fun sem => (member, sem)).mapM
      fun (pair : (Text × Json) × Sem) => (pair.2 pair.1.2).map (noted ⟨[pair.1.1], []⟩)).map allVerdicts
  | _ => some accept

/-- Each item of an array by the schemas selected for its index. -/
def onItems (select : Nat → List Sem) : Sem
  | .array items =>
    ((items.zipIdx.flatMap fun item => (select item.2).map fun sem => (item, sem)).mapM
      fun (pair : (Json × Nat) × Sem) => (pair.2 pair.1.1).map (noted ⟨[], [pair.1.2]⟩)).map allVerdicts
  | _ => some accept

def onNames (sem : Sem) : Sem
  | .object members => (members.mapM fun member => (sem (.string member.1)).map (noted ⟨[], []⟩)).map allVerdicts
  | _ => some accept

/-- How many items match, which they are noted. -/
def onContained (sem : Sem) (allowed : Nat → Bool) : Sem
  | .array items =>
    (items.zipIdx.mapM fun item => (sem item.1).map (noted ⟨[], [item.2]⟩)).map fun verdicts =>
      let matching := verdicts.filter Option.isSome
      both (guard (allowed matching.length)) (allVerdicts matching)
  | _ => some accept

def named (schemas : List (Text × Sem)) (name : Text) : List Sem := (schemas.filter fun entry => entry.1 == name).map Prod.snd

def matching (schemas : List (Text × Sem)) (name : Text) : List Sem :=
  (schemas.filter fun entry => d.pattern entry.1 name).map Prod.snd

/-- The schemas of the dependent names that the instance has. -/
def dependent (schemas : List (Text × Sem)) (instance_ : Json) : List Sem :=
  (schemas.filter fun entry => (instance_.get entry.1).isSome).map Prod.snd

/-- `if`, with `then` or `else`. -/
def conditional (condition : Sem) (consequent alternative : Option Sem) : Sem := fun instance_ => do
  match ← condition instance_ with
  | some notes => (whenPresent consequent fun sem => sem instance_).map (both (some notes))
  | none => whenPresent alternative fun sem => sem instance_

/-- Each schema on the instance itself. -/
def each (sems : List Sem) (instance_ : Json) : Option (List Verdict) := sems.mapM fun sem => sem instance_

/-- `oneOf`, `not`, `if` and `dependentSchemas`. -/
def choices (k : Keywords) : Sem := fun instance_ => do
  let oneOf ← whenPresent k.oneOf fun sems => (each sems instance_).map oneVerdict
  let negated ← whenPresent k.negated fun sem => (sem instance_).map fun verdict => guard verdict.isNone
  let conditioned ← whenPresent k.condition fun sem => conditional sem k.consequent k.alternative instance_
  let dependents ← whenPresent k.dependentSchemas fun schemas => (each (dependent schemas instance_) instance_).map allVerdicts
  return both oneOf (both negated (both conditioned dependents))

/-- The verdicts of the keywords that apply to the instance itself. -/
def placed (ref allOf anyOf others : Option Verdict) : Option Verdict := do
  return both (← ref) (both (← allOf) (both (← anyOf) (← others)))

def inPlace (k : Keywords) : Sem := fun instance_ =>
  placed (whenPresent k.ref fun sem => sem instance_) (whenPresent k.allOf fun sems => (each sems instance_).map allVerdicts)
    (whenPresent k.anyOf fun sems => (each sems instance_).map anyVerdict) (choices k instance_)

/-- The keywords that apply to members and items. -/
def onParts (k : Keywords) : Sem := fun instance_ => do
  let known := k.properties.getD []
  let patterns := k.patternProperties.getD []
  let front := k.prefixItems.getD []
  let properties ← onMembers (named known) instance_
  let patternProperties ← onMembers (matching d patterns) instance_
  let additional ← whenPresent k.additionalProperties fun sem =>
    onMembers (fun name => if (named known name).isEmpty && (matching d patterns name).isEmpty then [sem] else []) instance_
  let names ← whenPresent k.propertyNames fun sem => onNames sem instance_
  let prefixItems ← onItems (fun index => (front[index]?).toList) instance_
  let items ← whenPresent k.items fun sem => onItems (fun index => if index < front.length then [] else [sem]) instance_
  let contained ← whenPresent k.contains fun sem => onContained sem (d.contains k.minContains k.maxContains) instance_
  return both properties (both patternProperties (both additional (both names (both prefixItems (both items contained)))))

/-- The keywords that ask for what the others have not evaluated. -/
def onRest (k : Keywords) (verdict : Verdict) : Sem := fun instance_ =>
  match verdict with
  | none => some none
  | some notes => do
    let items ← whenPresent k.unevaluatedItems fun sem =>
      onItems (fun index => if notes.items.contains index then [] else [sem]) instance_
    let members ← whenPresent k.unevaluatedProperties fun sem =>
      onMembers (fun name => if notes.props.contains name then [] else [sem]) instance_
    return both (some notes) (both items members)

/-- The type and the keywords that hold no schema. -/
def tested (k : Keywords) (instance_ : Json) : Bool := k.type.all (typeHolds d · instance_) && k.asserted instance_

/-- **What the keywords of a schema object mean together.** -/
def evaluate (k : Keywords) : Sem := fun instance_ => do
  let placed ← inPlace k instance_
  let parts ← onParts d k instance_
  onRest k (both (guard (tested d k instance_)) (both placed parts)) instance_

/-! ## Schemas -/

/-- A member of a schema object: its value, and what it means as a schema, a list of them, or a map of them. -/
structure Part where
  raw : Json
  schema : Sem
  list : List Sem
  map : List (Text × Sem)

def lookup {α : Type} (name : Text) (members : List (Text × α)) : Option α :=
  (members.find? fun member => member.1 == name).map Prod.snd

theorem lookup_cons {α : Type} (name : Text) (entry : Text × α) (members : List (Text × α)) :
    lookup name (entry :: members) = if entry.1 = name then some entry.2 else lookup name members := by
  unfold lookup
  rw [List.find?_cons]
  by_cases h : entry.1 = name
  · simp [h]
  · rw [beq_false_of_ne h, if_neg h]

/-- The keywords that `evaluate` reads, and those that hold schemas for other reasons. -/
def STRUCTURAL : List Text :=
  ["type".toList, "$ref".toList, "allOf".toList, "anyOf".toList, "oneOf".toList, "not".toList, "if".toList, "then".toList,
    "else".toList, "dependentSchemas".toList, "properties".toList, "patternProperties".toList, "additionalProperties".toList,
    "propertyNames".toList, "prefixItems".toList, "items".toList, "contains".toList, "minContains".toList,
    "maxContains".toList, "unevaluatedItems".toList, "unevaluatedProperties".toList, "$defs".toList, "definitions".toList,
    "dependencies".toList, "additionalItems".toList, "contentSchema".toList]

def keywords (env : Json → Sem) (parts : List (Text × Part)) : Keywords where
  type := (lookup "type".toList parts).map Part.raw
  ref := (lookup "$ref".toList parts).map fun part => env part.raw
  asserted := fun instance_ => parts.all fun part => STRUCTURAL.contains part.1 || d.asserts part.1 part.2.raw instance_
  allOf := (lookup "allOf".toList parts).map Part.list
  anyOf := (lookup "anyOf".toList parts).map Part.list
  oneOf := (lookup "oneOf".toList parts).map Part.list
  negated := (lookup "not".toList parts).map Part.schema
  condition := (lookup "if".toList parts).map Part.schema
  consequent := (lookup "then".toList parts).map Part.schema
  alternative := (lookup "else".toList parts).map Part.schema
  dependentSchemas := (lookup "dependentSchemas".toList parts).map Part.map
  properties := (lookup "properties".toList parts).map Part.map
  patternProperties := (lookup "patternProperties".toList parts).map Part.map
  additionalProperties := (lookup "additionalProperties".toList parts).map Part.schema
  propertyNames := (lookup "propertyNames".toList parts).map Part.schema
  prefixItems := (lookup "prefixItems".toList parts).map Part.list
  items := (lookup "items".toList parts).map Part.schema
  contains := (lookup "contains".toList parts).map Part.schema
  minContains := (lookup "minContains".toList parts).map Part.raw
  maxContains := (lookup "maxContains".toList parts).map Part.raw
  unevaluatedItems := (lookup "unevaluatedItems".toList parts).map Part.schema
  unevaluatedProperties := (lookup "unevaluatedProperties".toList parts).map Part.schema

mutual

/-- What a schema means, given what its references mean. -/
def meaning (env : Json → Sem) : Json → Sem
  | .bool true => fun _ => some accept
  | .bool false => fun _ => some none
  | .object members => evaluate d (keywords d env (parts env members))
  | _ => fun _ => none

def parts (env : Json → Sem) : List (Text × Json) → List (Text × Part)
  | [] => []
  | (name, value) :: members =>
    (name, ⟨value, meaning env value, listMeanings env value, mapMeanings env value⟩) :: parts env members

def listMeanings (env : Json → Sem) : Json → List Sem
  | .array items => itemMeanings env items
  | _ => []

def itemMeanings (env : Json → Sem) : List Json → List Sem
  | [] => []
  | item :: items => meaning env item :: itemMeanings env items

def mapMeanings (env : Json → Sem) : Json → List (Text × Sem)
  | .object members => memberMeanings env members
  | _ => []

def memberMeanings (env : Json → Sem) : List (Text × Json) → List (Text × Sem)
  | [] => []
  | (name, value) :: members => (name, meaning env value) :: memberMeanings env members

end

/-- One member. -/
def partOf (env : Json → Sem) (value : Json) : Part :=
  ⟨value, meaning d env value, listMeanings d env value, mapMeanings d env value⟩

theorem parts_eq_map (env : Json → Sem) (members : List (Text × Json)) :
    parts d env members = members.map fun member => (member.1, partOf d env member.2) := by
  induction members with
  | nil => rfl
  | cons member members ih =>
    rw [List.map_cons, ← ih]
    rfl

theorem lookup_parts (env : Json → Sem) (name : Text) (members : List (Text × Json)) :
    lookup name (parts d env members) = (lookup name members).map (partOf d env) := by
  rw [parts_eq_map]
  induction members with
  | nil => rfl
  | cons member members ih =>
    rw [List.map_cons, lookup_cons, lookup_cons, ih]
    split <;> rfl

/-- The definition below a schema. -/
def definition (schema : Json) (step : Definitions × Text) : Option Json := (schema.get step.1.keyword).bind (Json.get step.2)

def walk (schema : Json) (steps : List (Definitions × Text)) : Option Json := steps.foldlM definition schema

/-- What a `$ref` means, following so many references. -/
def resolve (root : Json) : Nat → Json → Sem
  | 0, _ => fun _ => none
  | fuel + 1, ref =>
    match (d.pointer ref).bind (walk root) with
    | none => fun _ => none
    | some schema => meaning d (resolve root fuel) schema

/-- What a document says of an instance, following so many references in a row. -/
def validate (fuel : Nat) (root : Json) : Sem := meaning d (resolve d root fuel) root

/-- **The instance is valid against the document.** -/
def Valid (root instance_ : Json) : Prop := ∃ fuel notes, validate d fuel root instance_ = some (some notes)

/-! ## The same keywords -/

/-- The keywords whose value is read as a schema. -/
def SCHEMAS : List Text :=
  ["not".toList, "if".toList, "then".toList, "else".toList, "additionalProperties".toList, "propertyNames".toList,
    "items".toList, "contains".toList, "unevaluatedItems".toList, "unevaluatedProperties".toList]

/-- As a list of schemas. -/
def LISTS : List Text := ["allOf".toList, "anyOf".toList, "oneOf".toList, "prefixItems".toList]

/-- As a map of schemas. -/
def MAPS : List Text := ["dependentSchemas".toList, "properties".toList, "patternProperties".toList]

/-- As they are. -/
def readRaw (name : Text) : Bool :=
  !STRUCTURAL.contains name || ["type".toList, "$ref".toList, "minContains".toList, "maxContains".toList].contains name

/-- Two members of that name read alike. -/
structure Alike (name : Text) (p q : Part) : Prop where
  raw : readRaw name = true → p.raw = q.raw
  schema : SCHEMAS.contains name = true → p.schema = q.schema
  list : LISTS.contains name = true → p.list = q.list
  map : MAPS.contains name = true → p.map = q.map

theorem lookup_congr {ps qs : List (Text × Part)} (h : List.Forall₂ (fun p q => p.1 = q.1 ∧ Alike p.1 p.2 q.2) ps qs)
    {α : Type} (name : Text) (read : Part → α) (hread : ∀ p q, Alike name p q → read p = read q) :
    (lookup name ps).map read = (lookup name qs).map read := by
  induction h with
  | nil => rfl
  | @cons p q ps qs hpq _ ih =>
    obtain ⟨hname, halike⟩ := hpq
    unfold lookup at ih ⊢
    rw [List.find?_cons, List.find?_cons, ← hname]
    cases hsame : p.1 == name with
    | true =>
      rw [beq_iff_eq] at hsame
      rw [hsame] at halike
      exact congrArg some (hread _ _ halike)
    | false => exact ih

theorem asserted_congr {ps qs : List (Text × Part)} (h : List.Forall₂ (fun p q => p.1 = q.1 ∧ Alike p.1 p.2 q.2) ps qs)
    (instance_ : Json) : ps.all (fun part => STRUCTURAL.contains part.1 || d.asserts part.1 part.2.raw instance_) =
      qs.all fun part => STRUCTURAL.contains part.1 || d.asserts part.1 part.2.raw instance_ := by
  induction h with
  | nil => rfl
  | @cons p q ps qs hpq _ ih =>
    obtain ⟨hname, halike⟩ := hpq
    rw [List.all_cons, List.all_cons, ← hname, ih]
    congr 1
    cases hstructural : STRUCTURAL.contains p.1 with
    | true => rfl
    | false => rw [halike.raw (by rw [readRaw, hstructural]; rfl)]

/-- **Members that read alike are the same keywords.** -/
theorem keywords_congr (env : Json → Sem) {ps qs : List (Text × Part)}
    (h : List.Forall₂ (fun p q => p.1 = q.1 ∧ Alike p.1 p.2 q.2) ps qs) : keywords d env ps = keywords d env qs := by
  have hraw {name : Text} (hname : readRaw name = true) : (lookup name ps).map Part.raw = (lookup name qs).map Part.raw :=
    lookup_congr h name _ fun _ _ ha => ha.raw hname
  have hschema {name : Text} (hname : SCHEMAS.contains name = true) :
      (lookup name ps).map Part.schema = (lookup name qs).map Part.schema := lookup_congr h name _ fun _ _ ha => ha.schema hname
  have hlist {name : Text} (hname : LISTS.contains name = true) :
      (lookup name ps).map Part.list = (lookup name qs).map Part.list := lookup_congr h name _ fun _ _ ha => ha.list hname
  have hmap {name : Text} (hname : MAPS.contains name = true) :
      (lookup name ps).map Part.map = (lookup name qs).map Part.map := lookup_congr h name _ fun _ _ ha => ha.map hname
  have href : (lookup "$ref".toList ps).map (fun part => env part.raw) = (lookup "$ref".toList qs).map fun part => env part.raw :=
    lookup_congr h _ _ fun _ _ ha => congrArg env (ha.raw (by decide))
  simp (disch := decide) only [keywords, asserted_congr d h, href, hraw, hschema, hlist, hmap]

/-- Members that differ in the type and the choices beside it. -/
theorem keywords_update (env : Json → Sem) {ps qs : List (Text × Part)}
    (hother : ∀ name, name ≠ "type".toList → name ≠ "anyOf".toList → name ≠ "allOf".toList → lookup name qs = lookup name ps)
    (hasserted : ∀ instance_, qs.all (fun part => STRUCTURAL.contains part.1 || d.asserts part.1 part.2.raw instance_) =
      ps.all fun part => STRUCTURAL.contains part.1 || d.asserts part.1 part.2.raw instance_) :
    keywords d env qs = { keywords d env ps with
      type := (lookup "type".toList qs).map Part.raw
      anyOf := (lookup "anyOf".toList qs).map Part.list
      allOf := (lookup "allOf".toList qs).map Part.list } := by
  have h {name : Text} (hname : (["type".toList, "anyOf".toList, "allOf".toList].contains name) = false) :
      lookup name qs = lookup name ps := by
    simp only [List.contains_cons, List.contains_nil, Bool.or_false, Bool.or_eq_false_iff, beq_eq_false_iff_ne] at hname
    exact hother name hname.1 hname.2.1 hname.2.2
  simp (disch := decide) only [keywords, hasserted, h]

/-! ## Unions of types -/

/-- `type` with one name. -/
def typeSem (name : Text) : Sem := fun instance_ => some (guard (hasType d instance_ name))

theorem mapM_some {α β : Type} (f : α → β) (l : List α) : l.mapM (fun a => some (f a)) = some (l.map f) := by
  induction l with
  | nil => rfl
  | cons a l ih => rw [List.mapM_cons, ih]; rfl

theorem each_types (names : List Text) (instance_ : Json) :
    (each (names.map (typeSem d)) instance_).map anyVerdict = some (guard (names.any (hasType d instance_))) := by
  unfold each
  rw [List.mapM_map]
  have hmap : names.mapM ((fun sem => sem instance_) ∘ typeSem d) = some (names.map fun name => guard (hasType d instance_ name)) :=
    mapM_some _ names
  rw [hmap, Option.map_some]
  have hguards := anyVerdict_guards (names.map (hasType d instance_))
  rw [List.map_map, List.any_map] at hguards
  exact congrArg some hguards

theorem each_append (sems : List Sem) (sem : Sem) (instance_ : Json) {verdict : Verdict} (h : sem instance_ = some verdict) :
    (each (sems ++ [sem]) instance_).map allVerdicts = ((each sems instance_).map allVerdicts).map fun all => both all verdict := by
  unfold each
  rw [List.mapM_append, List.mapM_cons, h]
  cases sems.mapM fun sem => sem instance_ with
  | none => rfl
  | some verdicts =>
    show some (allVerdicts (verdicts ++ [verdict])) = some (both (allVerdicts verdicts) verdict)
    rw [allVerdicts_append, allVerdicts_singleton]

theorem typeHolds_union (names : List Text) (instance_ : Json) :
    typeHolds d (.array (names.map .string)) instance_ = names.any (hasType d instance_) := by
  show (names.map Json.string).any (fun name => name.asStr.any (hasType d instance_)) = names.any (hasType d instance_)
  rw [List.any_map]
  rfl

theorem placed_guard_anyOf (ref allOf others : Option Verdict) (test : Bool) :
    placed ref allOf (some (guard test)) others = (placed ref allOf (some accept) others).map (both (guard test)) := by
  cases ref <;> cases allOf <;> cases others <;> try rfl
  simp [placed, both_guard_both]

theorem placed_guard_allOf (ref allOf anyOf others : Option Verdict) (test : Bool) :
    placed ref (allOf.map fun all => both all (guard test)) anyOf others =
      (placed ref allOf anyOf others).map (both (guard test)) := by
  cases ref <;> cases allOf <;> cases anyOf <;> cases others <;> try rfl
  simp [placed, ← guard_both, both_assoc, both_guard_both]

/-- A test that moves from the type to the keywords beside it. -/
theorem evaluate_moved {k moved : Keywords} {instance_ : Json} {test : Bool}
    (htype : k.type.all (typeHolds d · instance_) = test) (hmoved : moved.type = none) (hasserted : moved.asserted = k.asserted)
    (hplaced : inPlace moved instance_ = (inPlace k instance_).map (both (guard test)))
    (hparts : onParts d moved instance_ = onParts d k instance_) (hrest : onRest moved = onRest k) :
    evaluate d moved instance_ = evaluate d k instance_ := by
  have htested : tested d k instance_ = (test && k.asserted instance_) := by rw [tested, htype]
  have hleft : tested d moved instance_ = k.asserted instance_ := by
    rw [tested, hmoved, hasserted]
    rfl
  have hguard : guard (test && k.asserted instance_) = both (guard (k.asserted instance_)) (guard test) := by
    cases test <;> cases k.asserted instance_ <;> rfl
  unfold evaluate
  rw [hplaced, hparts, hrest, htested, hleft, hguard]
  cases inPlace k instance_ with
  | none => rfl
  | some placed =>
    cases onParts d k instance_ with
    | none => rfl
    | some parts =>
      show onRest k (both _ (both (both _ placed) parts)) instance_ = onRest k (both (both _ _) (both placed parts)) instance_
      rw [both_assoc, both_assoc]

/-- **A union of types is a choice between them**, beside no other choice, -/
theorem evaluate_union_anyOf (k : Keywords) {names : List Text} (htype : k.type = some (.array (names.map .string)))
    (hany : k.anyOf = none) :
    evaluate d { k with type := none, anyOf := some (names.map (typeSem d)) } = evaluate d k := by
  funext instance_
  refine @evaluate_moved d _ _ _ (names.any (hasType d instance_)) ?_ rfl rfl ?_ rfl rfl
  · rw [htype]
    exact typeHolds_union d names instance_
  · show placed _ _ ((each (names.map (typeSem d)) instance_).map anyVerdict) _ =
      (placed _ _ (whenPresent k.anyOf fun sems => (each sems instance_).map anyVerdict) _).map _
    rw [each_types, hany, placed_guard_anyOf]
    rfl

/-- and beside another one, which then stands among the schemas of `allOf`. -/
theorem evaluate_union_allOf (k : Keywords) {names : List Text} (htype : k.type = some (.array (names.map .string)))
    {sem : Sem} (hsem : ∀ instance_, sem instance_ = some (guard (names.any (hasType d instance_)))) :
    evaluate d { k with type := none, allOf := some (k.allOf.getD [] ++ [sem]) } = evaluate d k := by
  funext instance_
  refine @evaluate_moved d _ _ _ (names.any (hasType d instance_)) ?_ rfl rfl ?_ rfl rfl
  · rw [htype]
    exact typeHolds_union d names instance_
  · show placed _ ((each (k.allOf.getD [] ++ [sem]) instance_).map allVerdicts) _ _ =
      (placed _ (whenPresent k.allOf fun sems => (each sems instance_).map allVerdicts) _ _).map _
    rw [each_append _ _ _ (hsem instance_), placed_guard_allOf]
    cases k.allOf <;> rfl

/-! ## Small schemas -/

/-- No keyword. -/
def blank : Keywords :=
  ⟨none, none, fun _ => true, none, none, none, none, none, none, none, none, none, none, none, none, none, none, none, none, none,
    none, none⟩

theorem onMembers_nil (instance_ : Json) : onMembers (fun _ => []) instance_ = some accept := by
  cases instance_ with
  | object members =>
    have hnil : (members.flatMap fun member => (([] : List Sem).map fun sem => (member, sem))) = [] := by simp
    show Option.map allVerdicts (List.mapM _ (members.flatMap fun member => ([] : List Sem).map fun sem => (member, sem))) = _
    rw [hnil]
    rfl
  | _ => rfl

theorem onItems_nil (instance_ : Json) : onItems (fun _ => []) instance_ = some accept := by
  cases instance_ with
  | array items =>
    have hnil : (items.zipIdx.flatMap fun item => (([] : List Sem).map fun sem => (item, sem))) = [] := by simp
    show Option.map allVerdicts (List.mapM _ (items.zipIdx.flatMap fun item => ([] : List Sem).map fun sem => (item, sem))) = _
    rw [hnil]
    rfl
  | _ => rfl

/-- Only a type, a choice and a negation. -/
def small (type : Option Json) (anyOf : Option (List Sem)) (negated : Option Sem) : Keywords :=
  { blank with type, anyOf, negated }

theorem evaluate_small (type : Option Json) (anyOf : Option (List Sem)) (negated : Option Sem) (instance_ : Json) :
    evaluate d (small type anyOf negated) instance_ = do
      let anyOf ← whenPresent anyOf fun sems => (each sems instance_).map anyVerdict
      let negated ← whenPresent negated fun sem => (sem instance_).map fun verdict => guard verdict.isNone
      return both (guard (type.all (typeHolds d · instance_))) (both anyOf negated) := by
  have hparts : onParts d (small type anyOf negated) instance_ = some accept := by
    have hmembers : onMembers (named []) instance_ = some accept := onMembers_nil instance_
    have hpatterns : onMembers (matching d []) instance_ = some accept := onMembers_nil instance_
    have hitems : onItems (fun index => (([] : List Sem)[index]?).toList) instance_ = some accept := onItems_nil instance_
    show (do
      let properties ← onMembers (named []) instance_
      let patternProperties ← onMembers (matching d []) instance_
      let additional ← some accept
      let names ← some accept
      let prefixItems ← onItems (fun index => (([] : List Sem)[index]?).toList) instance_
      let items ← some accept
      let contained ← some accept
      return both properties (both patternProperties (both additional (both names (both prefixItems (both items contained)))))) = _
    rw [hmembers, hpatterns, hitems]
    rfl
  have hrest (verdict : Verdict) : onRest (small type anyOf negated) verdict instance_ = some verdict := by
    cases verdict with
    | none => rfl
    | some notes =>
      show some (both (some notes) (both accept accept)) = some (some notes)
      rw [both_accept, both_accept]
  have htested : tested d (small type anyOf negated) instance_ = type.all (typeHolds d · instance_) := Bool.and_true _
  have hplaced : inPlace (small type anyOf negated) instance_ = do
      let anyOf ← whenPresent anyOf fun sems => (each sems instance_).map anyVerdict
      let negated ← whenPresent negated fun sem => (sem instance_).map fun verdict => guard verdict.isNone
      return both anyOf negated := by
    show placed (some accept) (some accept) (whenPresent anyOf fun sems => (each sems instance_).map anyVerdict) (do
      let oneOf ← some accept
      let negated ← whenPresent negated fun sem => (sem instance_).map fun verdict => guard verdict.isNone
      let conditioned ← some accept
      let dependents ← some accept
      return both oneOf (both negated (both conditioned dependents))) = _
    cases whenPresent anyOf fun sems => (each sems instance_).map anyVerdict with
    | none => rfl
    | some chosen =>
      cases whenPresent negated fun sem => (sem instance_).map fun verdict => guard verdict.isNone with
      | none => rfl
      | some negated => simp [placed]
  unfold evaluate
  rw [hparts, htested, hplaced]
  cases whenPresent anyOf fun sems => (each sems instance_).map anyVerdict with
  | none => rfl
  | some chosen =>
    cases whenPresent negated fun sem => (sem instance_).map fun verdict => guard verdict.isNone with
    | none => rfl
    | some denied =>
      show onRest _ (both _ (both (both chosen denied) accept)) instance_ = some _
      rw [hrest, both_accept]

/-- A schema of one type. -/
theorem meaning_type (env : Json → Sem) (name : Text) :
    meaning d env (.object [("type".toList, .string name)]) = typeSem d name := by
  funext instance_
  have hkeywords : keywords d env (parts d env [("type".toList, .string name)]) = small (some (.string name)) none none := rfl
  show evaluate d (keywords d env (parts d env [("type".toList, .string name)])) instance_ = _
  rw [hkeywords, evaluate_small]
  exact congrArg some (both_accept _)

theorem itemMeanings_map (env : Json → Sem) {α : Type} (f : α → Json) (l : List α) :
    itemMeanings d env (l.map f) = l.map fun a => meaning d env (f a) := by
  induction l with
  | nil => rfl
  | cons a l ih => rw [List.map_cons, itemMeanings, ih, List.map_cons]

/-- A schema of several types. -/
def oneOfTypes (names : List Text) : Json := .array (names.map fun name => .object [("type".toList, .string name)])

theorem listMeanings_oneOfTypes (env : Json → Sem) (names : List Text) :
    listMeanings d env (oneOfTypes names) = names.map (typeSem d) := by
  rw [oneOfTypes, listMeanings, itemMeanings_map]
  exact congrArg names.map (funext (meaning_type d env))

theorem meaning_oneOfTypes (env : Json → Sem) (names : List Text) (instance_ : Json) :
    meaning d env (.object [("anyOf".toList, oneOfTypes names)]) instance_ = some (guard (names.any (hasType d instance_))) := by
  have hkeywords : keywords d env (parts d env [("anyOf".toList, oneOfTypes names)]) =
      small none (some (listMeanings d env (oneOfTypes names))) none := rfl
  show evaluate d (keywords d env (parts d env [("anyOf".toList, oneOfTypes names)])) instance_ = _
  rw [hkeywords, evaluate_small, listMeanings_oneOfTypes]
  show ((each (names.map (typeSem d)) instance_).map anyVerdict).bind _ = _
  rw [each_types]
  show some (both accept (both (guard _) accept)) = _
  rw [accept_both, both_accept]

/-- Every instance has a type. -/
theorem meaning_anything (env : Json → Sem) (instance_ : Json) :
    meaning d env (.object [("anyOf".toList, oneOfTypes TYPES)]) instance_ = some accept := by
  have hany : TYPES.any (hasType d instance_) = true := by
    cases instance_ <;> rfl
  rw [meaning_oneOfTypes, hany]
  rfl

/-- The negation of the schema without keywords. -/
theorem meaning_nothing (env : Json → Sem) (instance_ : Json) :
    meaning d env (.object [("not".toList, .object [])]) instance_ = some none := by
  have hblank : keywords d env (parts d env []) = small none none none := rfl
  have hkeywords : keywords d env (parts d env [("not".toList, .object [])]) =
      small none none (some (meaning d env (.object []))) := rfl
  show evaluate d (keywords d env (parts d env [("not".toList, .object [])])) instance_ = _
  rw [hkeywords, evaluate_small]
  show ((evaluate d (keywords d env (parts d env [])) instance_).map fun verdict => guard verdict.isNone).bind _ = _
  rw [hblank, evaluate_small]
  rfl

/-! ## Documents -/

/-- **A pointer leads to corresponding definitions.** -/
theorem walk_rel {R : Json → Json → Prop}
    (hdefinition : ∀ s t step, R s t → Option.Rel R (definition s step) (definition t step)) :
    ∀ (steps : List (Definitions × Text)) {s t : Json}, R s t → Option.Rel R (walk s steps) (walk t steps)
  | [], _, _, h => .some h
  | step :: steps, s, t, h => by
    have hstep := hdefinition s t step h
    unfold walk at *
    rw [List.foldlM_cons, List.foldlM_cons]
    generalize definition s step = found, definition t step = other at hstep
    cases hstep with
    | none => exact .none
    | some hfound => exact walk_rel hdefinition steps hfound

/-- **Documents with corresponding definitions say the same.** The relation keeps the meaning of a schema, whatever
its references mean, and the definitions below it. -/
theorem validate_congr {R : Json → Json → Prop} (hmeaning : ∀ env s t, R s t → meaning d env t = meaning d env s)
    (hdefinition : ∀ s t step, R s t → Option.Rel R (definition s step) (definition t step)) {s t : Json} (h : R s t)
    (fuel : Nat) : validate d fuel t = validate d fuel s := by
  have hresolve : ∀ fuel, resolve d t fuel = resolve d s fuel := by
    intro fuel
    induction fuel with
    | zero => rfl
    | succ fuel ih =>
      funext ref
      unfold resolve
      cases d.pointer ref with
      | none => rfl
      | some steps =>
        have hwalk := walk_rel hdefinition steps h
        rw [Option.bind_some, Option.bind_some]
        generalize walk s steps = found, walk t steps = other at hwalk
        cases hwalk with
        | none => rfl
        | some hfound =>
          rw [ih]
          exact hmeaning _ _ _ hfound
  unfold validate
  rw [hresolve]
  exact hmeaning _ _ _ h

end

end JsonSchema
