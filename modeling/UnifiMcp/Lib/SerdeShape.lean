import UnifiMcp.Lib.JsonPath
/-!
# Derived readers and writers

A type whose reader and writer are derived from its fields, over JSON values. A record is read from an
object, or from an array of its fields in order; a unit variant from its name, or from an object with that
one member. An option without a value is skipped or shown as null; a nullable one keeps a null that is there.

* `holds_of_read` — what is read is a value of the shape.
* `mem_writeFields` — what a record writes, field by field.
* `read_write` — **what is read is written again as the value without its nulls**, nullable ones apart.
* `restates_record` — and so it is of a record some of whose nulls are taken out after it is written.
* `named_of_plain` — records that are objects and variants that are names are left as they are.
* `lookup_patched` — what is left of a value was there before.
-/

namespace Serde

open Text Json

/-- How a field is read and written. -/
inductive Rule where
  /-- `T`. -/
  | required
  /-- `Option<T>`, not written when it is `None`. -/
  | skipped
  /-- `Option<T>`, written as null when it is `None`. -/
  | shown
  /-- `Option<T>` of a type that keeps a null: `default`, read when present, not written when it is `None`. -/
  | nullable
deriving DecidableEq

/-- What a type is made of. -/
inductive Shape where
  | bool
  | string
  | u8
  | number
  /-- Unit variants. -/
  | choice (names : List Text)
  | list (item : Shape)
  /-- Fields by name; no other member may be there. -/
  | record (fields : List (Text × Rule × Shape))

/-- A value of such a type. -/
inductive Held where
  /-- A null that is kept. -/
  | clear
  | bool (value : Bool)
  | string (value : Text)
  | u8 (value : Nat)
  | number (spelling : Text)
  | choice (name : Text)
  | list (items : List Held)
  | record (members : List (Text × Option Held))

namespace Held

/-- The field of that name, when it has a value. -/
def get (name : Text) : Held → Option Held
  | record members => (members.find? fun member => member.1 == name).bind Prod.snd
  | _ => none

def asNumber : Held → Option Text
  | number spelling => some spelling
  | _ => none

def asU8 : Held → Option Nat
  | u8 value => some value
  | _ => none

def asString : Held → Option Text
  | string value => some value
  | _ => none

def asList : Held → Option (List Held)
  | list items => some items
  | _ => none

end Held

/-! ## Reading -/

/-- An integer of 8 bits without a sign; `-0` is one. -/
def readU8 (spelling : Text) : Option Nat :=
  if spelling = ['-', '0'] then some 0
  else if spelling ≠ [] ∧ spelling.all Char.isDigit ∧ natOf spelling ≤ 255 then some (natOf spelling)
  else none

/-- A field, from what the source has under its name. -/
def Rule.read : Rule → (Json → Option Held) → Option Json → Option (Option Held)
  | .required, _, none => none
  | _, _, none => some none
  | .required, read, some value => (read value).map some
  | .nullable, _, some .null => some (some .clear)
  | _, _, some .null => some none
  | _, read, some value => (read value).map some

section
variable (buffer : Text → Option Text)

mutual

/-- A value of the shape. `buffer` is a number behind the buffer of a tagged enumeration. -/
def Shape.read : Shape → Json → Option Held
  | .bool, .bool value => some (.bool value)
  | .string, .string value => some (.string value)
  | .u8, .number spelling => (readU8 spelling).map .u8
  | .number, .number spelling => (buffer spelling).map .number
  | .choice names, .string name => if names.contains name then some (.choice name) else none
  | .choice names, .object [(name, inner)] =>
    if names.contains name ∧ (inner = .null ∨ inner = .object []) then some (.choice name) else none
  | .list item, .array items => (items.mapM (Shape.read item)).map .list
  | .record fields, .object members =>
    if members.all fun member => fields.any fun field => field.1 = member.1 then
      (readFields fields (.object members)).map .record
    else none
  | .record fields, .array items =>
    if items.length ≤ fields.length ∧ (fields.drop items.length).all fun field => field.2.1 = .nullable then
      (readFields fields (.object ((fields.map Prod.fst).zip items))).map .record
    else none
  | _, _ => none

/-- Fields in order, from the members of an object. -/
def readFields : List (Text × Rule × Shape) → Json → Option (List (Text × Option Held))
  | [], _ => some []
  | (name, rule, shape) :: fields, source =>
    match rule.read (Shape.read shape) (source.get name) with
    | none => none
    | some held => (readFields fields source).map ((name, held) :: ·)

end

end

/-! ## Values of a shape -/

def Rule.holds : Rule → (Held → Bool) → Option Held → Bool
  | .required, _, none => false
  | _, _, none => true
  | .nullable, _, some .clear => true
  | _, holds, some held => holds held

mutual

/-- Whether a value is one of the shape. -/
def Shape.holds : Shape → Held → Bool
  | .bool, .bool _ => true
  | .string, .string _ => true
  | .u8, .u8 value => value ≤ 255
  | .number, .number _ => true
  | .choice names, .choice name => names.contains name
  | .list item, .list items => items.all (Shape.holds item)
  | .record fields, .record members => fieldsHold fields members
  | _, _ => false

def fieldsHold : List (Text × Rule × Shape) → List (Text × Option Held) → Bool
  | [], [] => true
  | (name, rule, shape) :: fields, (key, held) :: members =>
    key = name && rule.holds (Shape.holds shape) held && fieldsHold fields members
  | _, _ => false

end

/-! ## Writing -/

/-- A field; nothing for one that is skipped. -/
def Rule.write : Rule → (Held → Json) → Option Held → Option Json
  | _, write, some held => some (write held)
  | .shown, _, none => some .null
  | _, _, none => none

mutual

def Shape.write : Shape → Held → Json
  | .bool, .bool value => .bool value
  | .string, .string value => .string value
  | .u8, .u8 value => .number (dec value)
  | .number, .number spelling => .number spelling
  | .choice _, .choice name => .string name
  | .list item, .list items => .array (items.map (Shape.write item))
  | .record fields, .record members => .object (writeFields fields members)
  | _, _ => .null

def writeFields : List (Text × Rule × Shape) → List (Text × Option Held) → List (Text × Json)
  | (name, rule, shape) :: fields, (_, held) :: members =>
    match rule.write (Shape.write shape) held with
    | some value => (name, value) :: writeFields fields members
    | none => writeFields fields members
  | _, _ => []

end

/-! ## Patches -/

section
variable (explicit : Text → Bool)

mutual

/-- A value without its null members, the explicit ones apart. -/
def patched : Json → Json
  | .array items => .array (patchedItems items)
  | .object members => .object (patchedMembers members)
  | value => value

def patchedItems : List Json → List Json
  | [] => []
  | item :: items => patched item :: patchedItems items

def patchedMembers : List (Text × Json) → List (Text × Json)
  | [] => []
  | (name, value) :: members =>
    if value = .null ∧ explicit name = false then patchedMembers members
    else (name, patched value) :: patchedMembers members

end

mutual

/-- The nullable fields of the shape are the explicit ones; `shown` fields are not below the root. -/
def Shape.respects : Shape → Bool
  | .list item => item.respects
  | .record fields => decide ((fields.map Prod.fst).Nodup) && fieldsRespect false fields
  | _ => true

def fieldsRespect (root : Bool) : List (Text × Rule × Shape) → Bool
  | [] => true
  | (name, rule, shape) :: fields =>
    (decide (rule = .nullable) == explicit name) && (root || rule ≠ .shown) && shape.respects && fieldsRespect root fields

end

end

mutual

/-- The value with each record as an object and each variant by its name. -/
def Shape.named : Shape → Json → Json
  | .choice _, .object [(name, _)] => .string name
  | .list item, .array items => .array (items.map (Shape.named item))
  | .record fields, .array items =>
    .object (((fields.map Prod.fst).zip items).map fun member => (member.1, namedAt fields member.1 member.2))
  | .record fields, .object members => .object (members.map fun member => (member.1, namedAt fields member.1 member.2))
  | _, value => value

/-- A member of a record, by the field of its name. -/
def namedAt : List (Text × Rule × Shape) → Text → Json → Json
  | [], _, value => value
  | (name, _, shape) :: fields, key, value => if key = name then Shape.named shape value else namedAt fields key value

end

mutual

/-- Records are objects and variants are names. -/
def Shape.plain : Shape → Json → Bool
  | .choice _, .object _ => false
  | .list item, .array items => items.all (Shape.plain item)
  | .record _, .array _ => false
  | .record fields, .object members => members.all fun member => plainAt fields member.1 member.2
  | _, _ => true

def plainAt : List (Text × Rule × Shape) → Text → Json → Bool
  | [], _, _ => true
  | (name, _, shape) :: fields, key, value => if key = name then Shape.plain shape value else plainAt fields key value

end

/-! ## Members -/

theorem getElem?_patchedItems (explicit : Text → Bool) : ∀ (items : List Json) (i : Nat),
    (patchedItems explicit items)[i]? = items[i]?.map (patched explicit)
  | [], _ => rfl
  | _ :: _, 0 => rfl
  | _ :: items, i + 1 => getElem?_patchedItems explicit items i

theorem length_patchedItems (explicit : Text → Bool) : ∀ items : List Json, (patchedItems explicit items).length = items.length
  | [] => rfl
  | _ :: items => congrArg (· + 1) (length_patchedItems explicit items)

theorem mem_patchedMembers {explicit : Text → Bool} {name : Text} {value : Json} : ∀ {members : List (Text × Json)},
    (name, value) ∈ patchedMembers explicit members ↔
      ∃ original, (name, original) ∈ members ∧ (original = .null → explicit name = true) ∧ value = patched explicit original
  | [] => by simp [patchedMembers]
  | (key, original) :: members => by
    have ih := @mem_patchedMembers explicit name value members
    rw [patchedMembers]
    split
    · rename_i hdropped
      rw [ih]
      constructor
      · rintro ⟨found, hmem, hrest⟩
        exact ⟨found, List.mem_cons_of_mem _ hmem, hrest⟩
      · rintro ⟨found, hmem, hnull, hvalue⟩
        rcases List.mem_cons.1 hmem with heq | hmem
        · cases heq
          exact absurd (hnull hdropped.1) (by rw [hdropped.2]; exact Bool.false_ne_true)
        · exact ⟨found, hmem, hnull, hvalue⟩
    · rename_i hkept
      rw [List.mem_cons, ih]
      constructor
      · rintro (heq | ⟨found, hmem, hrest⟩)
        · cases heq
          refine ⟨original, List.mem_cons_self, fun hnull => ?_, rfl⟩
          cases hexplicit : explicit name with
          | true => rfl
          | false => exact absurd ⟨hnull, hexplicit⟩ hkept
        · exact ⟨found, List.mem_cons_of_mem _ hmem, hrest⟩
      · rintro ⟨found, hmem, hnull, rfl⟩
        rcases List.mem_cons.1 hmem with heq | hmem
        · cases heq
          exact Or.inl rfl
        · exact Or.inr ⟨found, hmem, hnull, rfl⟩

theorem patchedMembers_sublist (explicit : Text → Bool) : ∀ members : List (Text × Json),
    ((patchedMembers explicit members).map Prod.fst).Sublist (members.map Prod.fst)
  | [] => List.Sublist.slnil
  | (name, value) :: members => by
    rw [patchedMembers]
    split
    · exact (patchedMembers_sublist explicit members).cons _
    · exact (patchedMembers_sublist explicit members).cons_cons _

@[simp] theorem read_null (buffer : Text → Option Text) (shape : Shape) : shape.read buffer .null = none := by
  cases shape <;> simp [Shape.read]

theorem readU8_le {spelling : Text} {value : Nat} (h : readU8 spelling = some value) : value ≤ 255 := by
  unfold readU8 at h
  split at h
  · cases h
    exact Nat.zero_le _
  · split at h
    · rename_i hbound
      cases h
      exact hbound.2.2
    · cases h

theorem Rule.read_of_ne_null {rule : Rule} {read : Json → Option Held} {value : Json} (h : value ≠ .null) :
    rule.read read (some value) = (read value).map some := by
  cases rule <;> cases value <;> first | rfl | exact absurd rfl h

theorem Rule.holds_of_read {rule : Rule} {read : Json → Option Held} {holds : Held → Bool} {found : Option Json}
    {held : Option Held} (hnull : read .null = none) (hbelow : ∀ value inner, read value = some inner → holds inner = true)
    (h : rule.read read found = some held) : rule.holds holds held = true := by
  cases found with
  | none => cases rule <;> cases h <;> rfl
  | some value =>
    by_cases hvalue : value = .null
    · subst hvalue
      cases rule with
      | required =>
        rw [Rule.read, hnull] at h
        cases h
      | skipped | shown | nullable =>
        cases h
        rfl
    · rw [Rule.read_of_ne_null hvalue] at h
      obtain ⟨inner, hinner, rfl⟩ := Option.map_eq_some_iff.1 h
      have hholds := hbelow value inner hinner
      unfold Rule.holds
      split
      · contradiction
      · contradiction
      · rfl
      · rename_i heq
        cases heq
        exact hholds

/-- A variant is read by its name. -/
theorem read_choice {buffer : Text → Option Text} {names : List Text} {value : Json} {held : Held}
    (h : (Shape.choice names).read buffer value = some held) :
    ∃ name, names.contains name = true ∧ held = .choice name ∧ (Shape.choice names).named value = .string name := by
  match value, h with
  | .string name, h =>
    rw [Shape.read] at h
    split at h
    · rename_i hmem
      cases h
      exact ⟨name, hmem, rfl, rfl⟩
    · cases h
  | .object [(name, inner)], h =>
    rw [Shape.read] at h
    split at h
    · rename_i hmem
      cases h
      exact ⟨name, hmem.1, rfl, by rw [Shape.named]⟩
    · cases h

theorem read_items {read : Json → Option Held} {items : List Json} {held : List Held} (h : items.mapM read = some held) :
    List.Forall₂ (fun value inner => read value = some inner) items held := by
  induction items generalizing held with
  | nil =>
    cases h
    exact .nil
  | cons value items ih =>
    rw [List.mapM_cons] at h
    obtain ⟨inner, hinner, h⟩ := Option.bind_eq_some_iff.1 h
    obtain ⟨rest, hrest, h⟩ := Option.bind_eq_some_iff.1 h
    cases h
    exact .cons hinner (ih hrest)

mutual

/-- What is read is a value of the shape. -/
theorem holds_of_read {buffer : Text → Option Text} : ∀ (shape : Shape) {value : Json} {held : Held},
    shape.read buffer value = some held → shape.holds held = true
  | .bool, .bool b, _, h | .string, .string t, _, h => by
    cases h
    rfl
  | .u8, .number spelling, _, h => by
    obtain ⟨n, hn, rfl⟩ := Option.map_eq_some_iff.1 h
    exact decide_eq_true (readU8_le hn)
  | .number, .number spelling, _, h => by
    obtain ⟨n, -, rfl⟩ := Option.map_eq_some_iff.1 h
    rfl
  | .choice names, value, held, h => by
    obtain ⟨name, hmem, rfl, -⟩ := read_choice h
    exact hmem
  | .list item, .array items, held, h => by
    rw [Shape.read] at h
    obtain ⟨inners, hinners, rfl⟩ := Option.map_eq_some_iff.1 h
    rw [Shape.holds, List.all_eq_true]
    intro inner hmem
    obtain ⟨i, hi, rfl⟩ := List.getElem_of_mem hmem
    have hall := read_items hinners
    exact holds_of_read item (hall.get (hall.length_eq ▸ hi) hi)
  | .record fields, .object members, held, h | .record fields, .array items, held, h => by
    rw [Shape.read] at h
    split at h
    · obtain ⟨members, hmembers, rfl⟩ := Option.map_eq_some_iff.1 h
      exact fieldsHold_of_read fields hmembers
    · cases h

theorem fieldsHold_of_read {buffer : Text → Option Text} : ∀ (fields : List (Text × Rule × Shape)) {source : Json}
    {members : List (Text × Option Held)}, readFields buffer fields source = some members → fieldsHold fields members = true
  | [], _, _, h => by
    cases h
    rfl
  | (name, rule, shape) :: fields, source, members, h => by
    rw [readFields] at h
    split at h
    · cases h
    · rename_i held hheld
      obtain ⟨rest, hrest, rfl⟩ := Option.map_eq_some_iff.1 h
      rw [fieldsHold, Bool.and_eq_true, Bool.and_eq_true, decide_eq_true_eq]
      exact ⟨⟨rfl, Rule.holds_of_read (read_null buffer shape) (fun _ _ => holds_of_read shape) hheld⟩,
        fieldsHold_of_read fields hrest⟩

end

/-- What a record writes, field by field. -/
theorem mem_writeFields {buffer : Text → Option Text} {source : Json} {name : Text} {value : Json} :
    ∀ {fields : List (Text × Rule × Shape)} {members : List (Text × Option Held)},
      readFields buffer fields source = some members →
      ((name, value) ∈ writeFields fields members ↔ ∃ rule shape, (name, rule, shape) ∈ fields ∧
        ∃ held, rule.read (shape.read buffer) (source.get name) = some held ∧ rule.write shape.write held = some value)
  | [], members, h => by
    cases h
    simp [writeFields]
  | (key, rule, shape) :: fields, members, h => by
    rw [readFields] at h
    split at h
    · cases h
    · rename_i held hheld
      obtain ⟨rest, hrest, rfl⟩ := Option.map_eq_some_iff.1 h
      have ih := @mem_writeFields buffer source name value _ _ hrest
      have hmem : (name, value) ∈ writeFields ((key, rule, shape) :: fields) ((key, held) :: rest) ↔
          (name = key ∧ rule.write shape.write held = some value) ∨ (name, value) ∈ writeFields fields rest := by
        rw [writeFields]
        cases hwrite : rule.write shape.write held with
        | none => simp
        | some written => simp [eq_comm]
      rw [hmem, ih]
      constructor
      · rintro (⟨rfl, hwrite⟩ | ⟨rule', shape', hfield, hrest⟩)
        · exact ⟨rule, shape, List.mem_cons_self, held, hheld, hwrite⟩
        · exact ⟨rule', shape', List.mem_cons_of_mem _ hfield, hrest⟩
      · rintro ⟨rule', shape', hfield, held', hread, hwrite⟩
        rcases List.mem_cons.1 hfield with heq | hfield
        · cases heq
          rw [hheld] at hread
          cases hread
          exact Or.inl ⟨rfl, hwrite⟩
        · exact Or.inr ⟨rule', shape', hfield, held', hread, hwrite⟩

theorem writeFields_sublist : ∀ (fields : List (Text × Rule × Shape)) (members : List (Text × Option Held)),
    ((writeFields fields members).map Prod.fst).Sublist (fields.map Prod.fst)
  | [], _ => by simp [writeFields]
  | _ :: _, [] => by simp [writeFields]
  | (name, rule, shape) :: fields, (_, held) :: members => by
    rw [writeFields]
    split
    · exact (writeFields_sublist fields members).cons_cons _
    · exact (writeFields_sublist fields members).cons _

@[simp] theorem write_clear (shape : Shape) : shape.write .clear = .null := by
  cases shape <;> simp [Shape.write]

/-- Where a written field comes from: it is shown, it is a null that is kept, or it was read. -/
theorem found_of_write {rule : Rule} {read : Json → Option Held} {write : Held → Json} {found : Option Json} {held : Option Held}
    {value : Json} (hnull : read .null = none) (hread : rule.read read found = some held)
    (hwrite : rule.write write held = some value) :
    (rule = .shown ∧ value = .null) ∨ (found = some .null ∧ rule = .nullable ∧ value = write .clear) ∨
      ∃ original inner, found = some original ∧ original ≠ .null ∧ read original = some inner ∧ value = write inner := by
  cases found with
  | none =>
    cases rule with
    | required => cases hread
    | shown =>
      cases hread
      cases hwrite
      exact Or.inl ⟨rfl, rfl⟩
    | skipped | nullable =>
      cases hread
      cases hwrite
  | some original =>
    by_cases hcase : original = .null
    · subst hcase
      cases rule with
      | required =>
        rw [Rule.read, hnull] at hread
        cases hread
      | shown =>
        cases hread
        cases hwrite
        exact Or.inl ⟨rfl, rfl⟩
      | skipped =>
        cases hread
        cases hwrite
      | nullable =>
        cases hread
        cases hwrite
        exact Or.inr (Or.inl ⟨rfl, rfl, rfl⟩)
    · rw [Rule.read_of_ne_null hcase] at hread
      obtain ⟨inner, hinner, rfl⟩ := Option.map_eq_some_iff.1 hread
      have hvalue : write inner = value := by cases rule <;> exact Option.some.inj hwrite
      exact Or.inr (Or.inr ⟨original, inner, rfl, hcase, hinner, hvalue.symm⟩)

/-- A member that is there is written, unless it is a null that is not kept. -/
theorem write_of_found {rule : Rule} {read : Json → Option Held} {write : Held → Json} {original : Json} {held : Option Held}
    (hkept : original = .null → rule = .nullable) (hread : rule.read read (some original) = some held) :
    (original = .null ∧ rule.write write held = some (write .clear)) ∨
      ∃ inner, original ≠ .null ∧ read original = some inner ∧ rule.write write held = some (write inner) := by
  by_cases hcase : original = .null
  · subst hcase
    obtain rfl := hkept rfl
    cases hread
    exact Or.inl ⟨rfl, rfl⟩
  · rw [Rule.read_of_ne_null hcase] at hread
    obtain ⟨inner, hinner, rfl⟩ := Option.map_eq_some_iff.1 hread
    exact Or.inr ⟨inner, hcase, hinner, by cases rule <;> rfl⟩

/-- Each field of a record that was read was read. -/
theorem read_of_mem {buffer : Text → Option Text} {source : Json} {field : Text × Rule × Shape} :
    ∀ {fields : List (Text × Rule × Shape)} {members : List (Text × Option Held)},
      readFields buffer fields source = some members →
      field ∈ fields → ∃ held, field.2.1.read (field.2.2.read buffer) (source.get field.1) = some held
  | [], _, _, hmem => nomatch hmem
  | (name, rule, shape) :: fields, members, h, hmem => by
    rw [readFields] at h
    split at h
    · cases h
    · rename_i held hheld
      obtain ⟨rest, hrest, -⟩ := Option.map_eq_some_iff.1 h
      rcases List.mem_cons.1 hmem with rfl | hmem
      · exact ⟨held, hheld⟩
      · exact read_of_mem hrest hmem

/-! ## Written again -/

/-- How numbers go through a buffer and through an integer of 8 bits. -/
structure Exact (p : Text → Prop) (number : Text → Text → Prop) (buffer : Text → Option Text) : Prop where
  buffered : ∀ spelling kept, p spelling → buffer spelling = some kept → number kept spelling
  octet : ∀ spelling value, p spelling → readU8 spelling = some value → number (dec value) spelling

/-- A member that is sent: explicit, or not null. -/
def sent (explicit : Text → Bool) (member : Text × Json) : Bool := explicit member.1 || member.2 ≠ .null

/-- A value as it is written again. -/
def Rewritten (number : Text → Text → Prop) (buffer : Text → Option Text) (explicit : Text → Bool) (shape : Shape)
    (value : Json) : Prop :=
  ∀ held, shape.read buffer value = some held → Restates number (shape.write held) (patched explicit (shape.named value))

theorem named_eq_null {shape : Shape} {value : Json} : shape.named value = .null ↔ value = .null := by
  cases value with
  | object members =>
    refine ⟨fun h => ?_, nofun⟩
    unfold Shape.named at h
    split at h <;> cases h
  | array items => cases shape <;> simp [Shape.named]
  | null | bool | number | string => cases shape <;> simp [Shape.named]

theorem namedAt_eq_null {name : Text} {value : Json} : ∀ {fields : List (Text × Rule × Shape)},
    namedAt fields name value = .null ↔ value = .null
  | [] => Iff.rfl
  | (key, rule, shape) :: fields => by
    rw [namedAt]
    split
    · exact named_eq_null
    · exact namedAt_eq_null

theorem namedAt_of_mem {name : Text} {rule : Rule} {shape : Shape} {value : Json} : ∀ {fields : List (Text × Rule × Shape)},
    (fields.map Prod.fst).Nodup → (name, rule, shape) ∈ fields → namedAt fields name value = shape.named value
  | (key, rule', shape') :: fields, hnames, hmem => by
    rw [List.map_cons, List.nodup_cons] at hnames
    rw [namedAt]
    rcases List.mem_cons.1 hmem with heq | hrest
    · cases heq
      rw [if_pos rfl]
    · have hne : name ≠ key := fun heq => hnames.1 (heq ▸ List.mem_map.2 ⟨_, hrest, rfl⟩)
      rw [if_neg hne]
      exact namedAt_of_mem hnames.2 hrest

/-- What is written of a value of the shape is no null. -/
theorem write_ne_null {shape : Shape} {held : Held} (h : shape.holds held = true) : shape.write held ≠ .null := by
  unfold Shape.holds at h
  split at h <;> first | exact absurd h Bool.false_ne_true | exact nofun

section
variable {p : Text → Prop} {number : Text → Text → Prop} {buffer : Text → Option Text} {explicit : Text → Bool}

theorem fieldsRespect_iff {root : Bool} : ∀ {fields : List (Text × Rule × Shape)}, fieldsRespect explicit root fields = true ↔
    ∀ field ∈ fields, (field.2.1 = .nullable ↔ explicit field.1 = true) ∧ (root = true ∨ field.2.1 ≠ .shown) ∧
      field.2.2.respects explicit = true
  | [] => by simp [fieldsRespect]
  | (name, rule, shape) :: fields => by
    have ih := @fieldsRespect_iff root fields
    rw [fieldsRespect, Bool.and_eq_true, ih, List.forall_mem_cons]
    cases explicit name <;> cases rule <;> simp

theorem fieldsRespect_tail {root : Bool} {field : Text × Rule × Shape} {fields : List (Text × Rule × Shape)}
    (h : fieldsRespect explicit root (field :: fields) = true) : fieldsRespect explicit root fields = true :=
  fieldsRespect_iff.2 fun field hmem => fieldsRespect_iff.1 h field (List.mem_cons_of_mem _ hmem)

/-- **The members of a record written again** are those of the patch. -/
theorem restates_fields {fields : List (Text × Rule × Shape)} {members : List (Text × Json)} {held : List (Text × Option Held)}
    (hnames : (members.map Prod.fst).Nodup) (hknown : ∀ member ∈ members, member.1 ∈ fields.map Prod.fst)
    (hfields : (fields.map Prod.fst).Nodup) (hrules : ∀ field ∈ fields, field.2.1 = .nullable ↔ explicit field.1 = true)
    (hvalues : ∀ field ∈ fields, ∀ member ∈ members, Rewritten number buffer explicit field.2.2 member.2)
    (hread : readFields buffer fields (.object members) = some held) :
    Restates number (.object ((writeFields fields held).filter (sent explicit)))
      (.object (patchedMembers explicit (members.map fun member => (member.1, namedAt fields member.1 member.2)))) := by
  -- A member that is sent comes from a member that is patched, and the two say the same.
  have hforward : ∀ {name : Text} {value : Json}, (name, value) ∈ (writeFields fields held).filter (sent explicit) →
      ∃ original, (name, original) ∈ members ∧ (original = .null → explicit name = true) ∧
        Restates number value (patched explicit (namedAt fields name original)) := by
    intro name value hmem
    obtain ⟨hwritten, hsent⟩ := List.mem_filter.1 hmem
    obtain ⟨rule, shape, hfield, inner, hinner, hwrite⟩ := (mem_writeFields hread).1 hwritten
    rcases found_of_write (read_null buffer shape) hinner hwrite with
      ⟨rfl, rfl⟩ | ⟨hfound, rfl, rfl⟩ | ⟨original, deeper, hfound, hne, hdeeper, rfl⟩
    · have hnot : explicit name = false := Bool.eq_false_iff.2 fun h => by cases (hrules _ hfield).2 h
      simp [sent, hnot] at hsent
    · rw [write_clear]
      refine ⟨.null, mem_of_get hfound, fun _ => (hrules _ hfield).1 rfl, ?_⟩
      rw [namedAt_eq_null.2 rfl]
      exact .null
    · refine ⟨original, mem_of_get hfound, fun h => absurd h hne, ?_⟩
      rw [namedAt_of_mem hfields hfield]
      exact hvalues _ hfield _ (mem_of_get hfound) deeper hdeeper
  -- A member that is patched is sent.
  have hbackward : ∀ {name : Text} {original : Json}, (name, original) ∈ members → (original = .null → explicit name = true) →
      ∃ value, (name, value) ∈ (writeFields fields held).filter (sent explicit) := by
    intro name original hmem hnull
    obtain ⟨⟨name', rule, shape⟩, hfield, heq⟩ := List.mem_map.1 (hknown _ hmem)
    obtain rfl : name' = name := heq
    have hget := get_of_mem hnames hmem
    obtain ⟨inner, hinner⟩ := read_of_mem hread hfield
    have hfound := hinner
    rw [hget] at hfound
    rcases @write_of_found _ _ shape.write _ _ (fun h => (hrules _ hfield).2 (hnull h)) hfound with
      ⟨rfl, hwrite⟩ | ⟨deeper, hne, hdeeper, hwrite⟩
    · refine ⟨_, List.mem_filter.2 ⟨(mem_writeFields hread).2 ⟨rule, shape, hfield, inner, hinner, hwrite⟩, ?_⟩⟩
      simp [sent, hnull rfl]
    · refine ⟨_, List.mem_filter.2 ⟨(mem_writeFields hread).2 ⟨rule, shape, hfield, inner, hinner, hwrite⟩, ?_⟩⟩
      simp [sent, write_ne_null (holds_of_read _ hdeeper)]
  have hsentNodup : (((writeFields fields held).filter (sent explicit)).map Prod.fst).Nodup :=
    hfields.sublist ((List.filter_sublist.map _).trans (writeFields_sublist fields held))
  have hnamed : (members.map fun member => (member.1, namedAt fields member.1 member.2)).map Prod.fst = members.map Prod.fst := by
    rw [List.map_map]
    rfl
  have hpatchedNodup := (hnamed ▸ hnames).sublist (patchedMembers_sublist explicit _)
  have hpatched : ∀ {name : Text} {value : Json}, (name, value) ∈ patchedMembers explicit
      (members.map fun member => (member.1, namedAt fields member.1 member.2)) ↔
      ∃ original, (name, original) ∈ members ∧ (original = .null → explicit name = true) ∧
        value = patched explicit (namedAt fields name original) := by
    intro name value
    rw [mem_patchedMembers]
    constructor
    · rintro ⟨named, hmem, hnull, rfl⟩
      obtain ⟨⟨name', original⟩, horiginal, heq⟩ := List.mem_map.1 hmem
      cases heq
      exact ⟨original, horiginal, fun h => hnull (namedAt_eq_null.2 h), rfl⟩
    · rintro ⟨original, hmem, hnull, rfl⟩
      exact ⟨_, List.mem_map.2 ⟨_, hmem, rfl⟩, fun h => hnull (namedAt_eq_null.1 h), rfl⟩
  refine .object ((List.perm_ext_iff_of_nodup hsentNodup hpatchedNodup).2 fun name => ?_) fun name value other hvalue hother => ?_
  · constructor
    · intro hmem
      obtain ⟨⟨name', value⟩, hvalue, rfl⟩ := List.mem_map.1 hmem
      obtain ⟨original, horiginal, hnull, -⟩ := hforward hvalue
      exact List.mem_map.2 ⟨(name', _), hpatched.2 ⟨original, horiginal, hnull, rfl⟩, rfl⟩
    · intro hmem
      obtain ⟨⟨name', value⟩, hvalue, rfl⟩ := List.mem_map.1 hmem
      obtain ⟨original, horiginal, hnull, -⟩ := hpatched.1 hvalue
      obtain ⟨written, hwritten⟩ := hbackward horiginal hnull
      exact List.mem_map.2 ⟨(name', written), hwritten, rfl⟩
  · obtain ⟨original, horiginal, -, hrestates⟩ := hforward hvalue
    obtain ⟨original', horiginal', -, rfl⟩ := hpatched.1 hother
    obtain rfl : original = original' := congrArg Prod.snd (List.inj_on_of_nodup_map hnames horiginal horiginal' rfl)
    exact hrestates

/-- Below the root every member that is written is sent. -/
theorem filter_sent {fields : List (Text × Rule × Shape)} {source : Json} {held : List (Text × Option Held)}
    (hrespect : fieldsRespect explicit false fields = true) (hread : readFields buffer fields source = some held) :
    (writeFields fields held).filter (sent explicit) = writeFields fields held := by
  refine List.filter_eq_self.2 fun ⟨name, value⟩ hmem => ?_
  obtain ⟨rule, shape, hfield, inner, hinner, hwrite⟩ := (mem_writeFields hread).1 hmem
  obtain ⟨hnullable, hshown, -⟩ := fieldsRespect_iff.1 hrespect _ hfield
  rcases found_of_write (read_null buffer shape) hinner hwrite with
    ⟨rfl, -⟩ | ⟨-, rfl, -⟩ | ⟨original, deeper, hfound, -, hdeeper, rfl⟩
  · exact absurd rfl (hshown.resolve_left Bool.false_ne_true)
  · simp [sent, hnullable.1 rfl]
  · simp [sent, write_ne_null (holds_of_read _ hdeeper)]

/-- Numbers, at the root and one step down. -/
theorem numbers_iff {value : Json} : value.Numbers p ↔
    (∀ spelling, value = .number spelling → p spelling) ∧ ∀ step below, value.child step = some below → below.Numbers p := by
  constructor
  · intro h
    refine ⟨fun spelling heq => h [] spelling (by rw [heq]; rfl), fun step below hbelow path spelling hlookup => ?_⟩
    exact h (step :: path) spelling (by rw [lookup_cons, hbelow]; exact hlookup)
  · rintro ⟨hroot, hbelow⟩ path spelling hlookup
    cases path with
    | nil => exact hroot spelling (Option.some.inj hlookup)
    | cons step path =>
      rw [lookup_cons] at hlookup
      obtain ⟨inner, hinner, hlookup⟩ := Option.bind_eq_some_iff.1 hlookup
      exact hbelow step inner hinner path spelling hlookup

theorem numbers_child {value below : Json} (step : Step) (h : value.Numbers p) (hbelow : value.child step = some below) :
    below.Numbers p :=
  (numbers_iff.1 h).2 step below hbelow

theorem numbers_object {members : List (Text × Json)} (h : ∀ member ∈ members, member.2.Numbers p) : (object members).Numbers p := by
  refine numbers_iff.2 ⟨nofun, fun step below hbelow => ?_⟩
  cases step with
  | key name => exact h _ (mem_of_get hbelow)
  | index i => cases hbelow

theorem distinctItems_iff : ∀ {items : List Json}, DistinctItems items ↔ ∀ item ∈ items, item.Distinct
  | [] => by simp [DistinctItems]
  | item :: items => by rw [DistinctItems, distinctItems_iff, List.forall_mem_cons]

theorem distinctMembers_iff : ∀ {members : List (Text × Json)}, DistinctMembers members ↔ ∀ member ∈ members, member.2.Distinct
  | [] => by simp [DistinctMembers]
  | member :: members => by rw [DistinctMembers, distinctMembers_iff, List.forall_mem_cons]

theorem distinct_child {value below : Json} (step : Step) (h : value.Distinct) (hbelow : value.child step = some below) :
    below.Distinct := by
  cases value with
  | array items =>
    cases step with
    | key name => cases hbelow
    | index i => exact distinctItems_iff.1 h _ (List.mem_of_getElem? hbelow)
  | object members =>
    cases step with
    | index i => cases hbelow
    | key name => exact distinctMembers_iff.1 h.2 _ (mem_of_get hbelow)
  | null | bool | number | string => cases step <;> cases hbelow

theorem known_iff {fields : List (Text × Rule × Shape)} {members : List (Text × Json)} :
    (members.all fun member => fields.any fun field => field.1 = member.1) = true ↔
      ∀ member ∈ members, member.1 ∈ fields.map Prod.fst := by
  simp only [List.all_eq_true, List.any_eq_true, decide_eq_true_eq, List.mem_map]

theorem zip_sublist : ∀ (names : List Text) (items : List Json), ((names.zip items).map Prod.fst).Sublist names
  | [], _ => by simp
  | _ :: _, [] => by simp
  | _ :: names, _ :: items => (zip_sublist names items).cons_cons _

/-- A record is read as the object that it is, or that its array stands for. -/
theorem read_record {fields : List (Text × Rule × Shape)} {value : Json} {held : Held} (hfields : (fields.map Prod.fst).Nodup)
    (hdistinct : value.Distinct) (hnumbers : value.Numbers p) (h : (Shape.record fields).read buffer value = some held) :
    ∃ source members, held = .record members ∧ readFields buffer fields (.object source) = some members ∧
      (Shape.record fields).named value = .object (source.map fun member => (member.1, namedAt fields member.1 member.2)) ∧
      (source.map Prod.fst).Nodup ∧ ∀ member ∈ source,
        member.1 ∈ fields.map Prod.fst ∧ member.2.Distinct ∧ member.2.Numbers p := by
  cases value with
  | object source =>
    rw [Shape.read] at h
    split at h
    · rename_i hknown
      obtain ⟨members, hmembers, rfl⟩ := Option.map_eq_some_iff.1 h
      refine ⟨source, members, rfl, hmembers, by rw [Shape.named], hdistinct.1, fun member hmem => ?_⟩
      have hget : (Json.object source).child (.key member.1) = some member.2 := get_of_mem hdistinct.1 hmem
      exact ⟨known_iff.1 hknown member hmem, distinct_child _ hdistinct hget, numbers_child _ hnumbers hget⟩
    · cases h
  | array items =>
    rw [Shape.read] at h
    split at h
    · rename_i hlength
      obtain ⟨members, hmembers, rfl⟩ := Option.map_eq_some_iff.1 h
      refine ⟨_, members, rfl, hmembers, by rw [Shape.named], hfields.sublist (zip_sublist _ items), fun member hmem => ?_⟩
      obtain ⟨i, hi⟩ := List.mem_iff_getElem?.1 (List.of_mem_zip hmem).2
      exact ⟨(List.of_mem_zip hmem).1, distinct_child (.index i) hdistinct hi, numbers_child (.index i) hnumbers hi⟩
    · cases h
  | null | bool | number | string => cases h

/-- **A record written again**: what is sent of it is its patch. -/
theorem restates_record {root : Bool} {fields : List (Text × Rule × Shape)} {value : Json} {held : Held}
    (hrespect : fieldsRespect explicit root fields = true) (hfields : (fields.map Prod.fst).Nodup) (hdistinct : value.Distinct)
    (hnumbers : value.Numbers p)
    (hvalues : ∀ field ∈ fields, ∀ value, value.Distinct → value.Numbers p → Rewritten number buffer explicit field.2.2 value)
    (hread : (Shape.record fields).read buffer value = some held) :
    ∃ source members, held = .record members ∧ readFields buffer fields source = some members ∧
      Restates number (.object ((writeFields fields members).filter (sent explicit)))
        (patched explicit ((Shape.record fields).named value)) := by
  obtain ⟨source, members, rfl, hmembers, hnamed, hnames, hsource⟩ := read_record hfields hdistinct hnumbers hread
  refine ⟨_, members, rfl, hmembers, ?_⟩
  rw [hnamed, patched]
  exact restates_fields hnames (fun member hmem => (hsource member hmem).1) hfields
    (fun field hfield => (fieldsRespect_iff.1 hrespect field hfield).1)
    (fun field hfield member hmem => hvalues field hfield _ (hsource member hmem).2.1 (hsource member hmem).2.2) hmembers

/-- Items written again, one by one. -/
theorem restates_items {shape : Shape} {items : List Json} {held : List Held}
    (hitems : ∀ value ∈ items, Rewritten number buffer explicit shape value)
    (hread : items.mapM (shape.read buffer) = some held) :
    Restates number (.array (held.map shape.write)) (.array (patchedItems explicit (items.map shape.named))) := by
  have hall := read_items hread
  refine .array (by rw [List.length_map, length_patchedItems, List.length_map, hall.length_eq]) fun i value other hvalue hother => ?_
  rw [List.getElem?_map] at hvalue
  rw [getElem?_patchedItems, List.getElem?_map, Option.map_map] at hother
  obtain ⟨inner, hinner, rfl⟩ := Option.map_eq_some_iff.1 hvalue
  obtain ⟨original, horiginal, rfl⟩ := Option.map_eq_some_iff.1 hother
  obtain ⟨hi, rfl⟩ := List.getElem?_eq_some_iff.1 hinner
  obtain ⟨hj, rfl⟩ := List.getElem?_eq_some_iff.1 horiginal
  exact hitems _ (List.getElem_mem hj) _ (hall.get hj hi)

mutual

/-- **What is read is written again as the value without its nulls**, its records as objects and its variants by name. -/
theorem read_write (hexact : Exact p number buffer) : ∀ (shape : Shape) {value : Json}, shape.respects explicit = true →
    value.Distinct → value.Numbers p → Rewritten number buffer explicit shape value
  | .bool, value, _, _, _ => by
    intro held hread
    cases value with
    | bool b =>
      cases hread
      exact .bool b
    | null | number | string | array | object => cases hread
  | .string, value, _, _, _ => by
    intro held hread
    cases value with
    | string t =>
      cases hread
      exact .string t
    | null | bool | number | array | object => cases hread
  | .u8, value, _, _, hnumbers => by
    intro held hread
    cases value with
    | number spelling =>
      obtain ⟨n, hn, rfl⟩ := Option.map_eq_some_iff.1 hread
      exact .number (hexact.octet _ _ (hnumbers [] _ rfl) hn)
    | null | bool | string | array | object => cases hread
  | .number, value, _, _, hnumbers => by
    intro held hread
    cases value with
    | number spelling =>
      obtain ⟨kept, hkept, rfl⟩ := Option.map_eq_some_iff.1 hread
      exact .number (hexact.buffered _ _ (hnumbers [] _ rfl) hkept)
    | null | bool | string | array | object => cases hread
  | .choice names, value, _, _, _ => by
    intro held hread
    obtain ⟨name, -, rfl, hnamed⟩ := read_choice hread
    rw [hnamed]
    exact .string name
  | .list item, value, hrespect, hdistinct, hnumbers => by
    intro held hread
    cases value with
    | array items =>
      rw [Shape.read] at hread
      obtain ⟨rest, hrest, rfl⟩ := Option.map_eq_some_iff.1 hread
      rw [Shape.write, Shape.named, patched]
      refine restates_items (fun value hmem => ?_) hrest
      obtain ⟨i, hi⟩ := List.mem_iff_getElem?.1 hmem
      exact read_write hexact item (by simpa [Shape.respects] using hrespect) (distinct_child (.index i) hdistinct hi)
        (numbers_child (.index i) hnumbers hi)
    | null | bool | number | string | object => cases hread
  | .record fields, value, hrespect, hdistinct, hnumbers => by
    intro held hread
    rw [Shape.respects, Bool.and_eq_true, decide_eq_true_eq] at hrespect
    obtain ⟨source, members, rfl, hmembers, hrestates⟩ := restates_record hrespect.2 hrespect.1 hdistinct hnumbers
      (read_write_fields hexact fields hrespect.2) hread
    rwa [filter_sent hrespect.2 hmembers] at hrestates

theorem read_write_fields (hexact : Exact p number buffer) {root : Bool} :
    ∀ (fields : List (Text × Rule × Shape)), fieldsRespect explicit root fields = true →
      ∀ field ∈ fields, ∀ value, value.Distinct → value.Numbers p → Rewritten number buffer explicit field.2.2 value
  | [], _ => nofun
  | (name, rule, shape) :: fields, hrespect => by
    have hhere := (fieldsRespect_iff.1 hrespect _ List.mem_cons_self).2.2
    intro field hmem value hdistinct hnumbers
    rcases List.mem_cons.1 hmem with rfl | hmem
    · exact read_write hexact shape hhere hdistinct hnumbers
    · exact read_write_fields hexact fields (fieldsRespect_tail hrespect) field hmem value hdistinct hnumbers

end

mutual

/-- A value without the other forms is left as it is. -/
theorem named_of_plain : ∀ (shape : Shape) {value : Json}, shape.plain value = true → shape.named value = value
  | .bool, _, _ | .string, _, _ | .u8, _, _ | .number, _, _ => by simp [Shape.named]
  | .choice names, value, h => by
    cases value with
    | object members => simp [Shape.plain] at h
    | null | bool | number | string | array => rfl
  | .list item, value, h => by
    cases value with
    | array items =>
      rw [Shape.plain, List.all_eq_true] at h
      rw [Shape.named, List.map_congr_left fun inner hmem => named_of_plain item (h inner hmem), List.map_id']
    | null | bool | number | string | object => rfl
  | .record fields, value, h => by
    cases value with
    | object members =>
      rw [Shape.plain, List.all_eq_true] at h
      rw [Shape.named, List.map_congr_left fun member hmem =>
        congrArg (Prod.mk member.1) (namedAt_of_plain fields (h member hmem)), List.map_id']
    | array items => simp [Shape.plain] at h
    | null | bool | number | string => rfl

theorem namedAt_of_plain : ∀ (fields : List (Text × Rule × Shape)) {name : Text} {value : Json},
    plainAt fields name value = true → namedAt fields name value = value
  | [], _, _, _ => rfl
  | (key, rule, shape) :: fields, name, value, h => by
    rw [plainAt] at h
    rw [namedAt]
    split
    · rename_i heq
      rw [if_pos heq] at h
      exact named_of_plain shape h
    · rename_i hne
      rw [if_neg hne] at h
      exact namedAt_of_plain fields h

end

theorem distinct_record {fields : List (Text × Rule × Shape)} {value : Json} (hfields : (fields.map Prod.fst).Nodup)
    (hvalues : ∀ name value, value.Distinct → (namedAt fields name value).Distinct) (h : value.Distinct) :
    ((Shape.record fields).named value).Distinct := by
  cases value with
  | object members =>
    rw [Shape.named]
    refine ⟨by rw [List.map_map]; exact h.1, distinctMembers_iff.2 fun member hmem => ?_⟩
    obtain ⟨original, horiginal, rfl⟩ := List.mem_map.1 hmem
    exact hvalues _ _ (distinctMembers_iff.1 h.2 original horiginal)
  | array items =>
    rw [Shape.named]
    refine ⟨by rw [List.map_map]; exact hfields.sublist (zip_sublist _ items), distinctMembers_iff.2 fun member hmem => ?_⟩
    obtain ⟨original, horiginal, rfl⟩ := List.mem_map.1 hmem
    exact hvalues _ _ (distinctItems_iff.1 h _ (List.of_mem_zip horiginal).2)
  | null | bool | number | string => exact h

mutual

/-- Names stay distinct. -/
theorem distinct_named : ∀ (shape : Shape) {value : Json}, shape.respects explicit = true → value.Distinct →
    (shape.named value).Distinct
  | .bool, _, _, h | .string, _, _, h | .u8, _, _, h | .number, _, _, h => by simpa [Shape.named] using h
  | .choice names, value, _, h => by
    match value, h with
    | .object [(name, inner)], _ => trivial
    | .object [], h | .object (_ :: _ :: _), h => exact h
    | .null, h | .bool _, h | .number _, h | .string _, h | .array _, h => exact h
  | .list item, value, hrespect, h => by
    cases value with
    | array items =>
      rw [Shape.named]
      refine distinctItems_iff.2 fun inner hmem => ?_
      obtain ⟨original, horiginal, rfl⟩ := List.mem_map.1 hmem
      exact distinct_named item (by simpa [Shape.respects] using hrespect) (distinctItems_iff.1 h original horiginal)
    | null | bool | number | string | object => exact h
  | .record fields, value, hrespect, h => by
    rw [Shape.respects, Bool.and_eq_true, decide_eq_true_eq] at hrespect
    exact distinct_record hrespect.1 (fun _ _ => distinct_namedAt fields hrespect.2) h

theorem distinct_namedAt {root : Bool} : ∀ (fields : List (Text × Rule × Shape)) {name : Text} {value : Json},
    fieldsRespect explicit root fields = true → value.Distinct → (namedAt fields name value).Distinct
  | [], _, _, _, h => h
  | (key, rule, shape) :: fields, name, value, hrespect, h => by
    rw [namedAt]
    split
    · exact distinct_named shape (fieldsRespect_iff.1 hrespect _ List.mem_cons_self).2.2 h
    · exact distinct_namedAt fields (fieldsRespect_tail hrespect) h

end

theorem child_patched {value below : Json} {step : Step} (hdistinct : value.Distinct)
    (h : (patched explicit value).child step = some below) :
    ∃ original, value.child step = some original ∧ below = patched explicit original := by
  cases value with
  | array items =>
    cases step with
    | key name => cases h
    | index i =>
      rw [patched, child, getElem?_patchedItems] at h
      obtain ⟨original, horiginal, rfl⟩ := Option.map_eq_some_iff.1 h
      exact ⟨original, horiginal, rfl⟩
  | object members =>
    cases step with
    | index i => cases h
    | key name =>
      obtain ⟨original, hmem, -, rfl⟩ := mem_patchedMembers.1 (mem_of_get h)
      exact ⟨original, get_of_mem hdistinct.1 hmem, rfl⟩
  | null | bool | number | string => cases step <;> cases h

/-- **What is left of a value was there before.** -/
theorem lookup_patched {value below : Json} {path : List Step} (hdistinct : value.Distinct)
    (h : (patched explicit value).lookup path = some below) :
    ∃ original, value.lookup path = some original ∧ below = patched explicit original := by
  induction path generalizing value with
  | nil =>
    cases h
    exact ⟨value, rfl, rfl⟩
  | cons step path ih =>
    rw [lookup_cons] at h
    obtain ⟨inner, hinner, h⟩ := Option.bind_eq_some_iff.1 h
    obtain ⟨original, horiginal, rfl⟩ := child_patched hdistinct hinner
    obtain ⟨found, hfound, hbelow⟩ := ih (distinct_child step hdistinct horiginal) h
    exact ⟨found, by rw [lookup_cons, horiginal]; exact hfound, hbelow⟩

end

end Serde
