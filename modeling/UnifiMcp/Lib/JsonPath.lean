import Mathlib.Data.List.Nodup
import UnifiMcp.Lib.Json
/-!
# Places in a JSON value, and records with optional members

A place is the steps that lead to it from the root; a pointer is their text. `Typed` is a value of a
typed contract as a serialiser sees it: an optional member without a value is left out.

* `pointer_eq_lookup` — a pointer without index tokens is looked up member by member.
* `lookup_of_omitted` — what a serialised value has where an optional member is left out: nothing.
* `carries_iff` — one value carries another when it does so at the root and one step down.
* `carries_iff_occurs` — **carrying, leaf by leaf.**
* `Restates.carries` — and that does not depend on how the two are written.
-/

namespace Json

open Text

/-- One step down. -/
inductive Step where
  | key (name : Text)
  | index (i : Nat)
deriving DecidableEq

/-- The value one step down. -/
def child : Json → Step → Option Json
  | value, .key name => value.get name
  | array items, .index i => items[i]?
  | _, .index _ => none

def lookup : Json → List Step → Option Json
  | value, [] => some value
  | value, step :: path => (value.child step).bind fun inner => inner.lookup path

@[simp] theorem lookup_nil (value : Json) : value.lookup [] = some value := rfl

theorem lookup_cons (value : Json) (step : Step) (path : List Step) :
    value.lookup (step :: path) = (value.child step).bind fun inner => inner.lookup path := rfl

/-! ## Pointers -/

/-- `str::replace` of two characters by one. -/
def replacePair (a b new : Char) : Text → Text
  | c :: d :: t => if c = a ∧ d = b then new :: replacePair a b new t else c :: replacePair a b new (d :: t)
  | t => t

/-- `parse_index`. -/
def parseIndex (token : Text) : Option Nat :=
  if token.head? = some '+' ∨ token.head? = some '0' ∧ token.length ≠ 1 then none
  else if token ≠ [] ∧ token.all Char.isDigit then some (natOf token) else none

/-- The value behind the tokens of a pointer. -/
def follow : Json → List Text → Option Json
  | value, [] => some value
  | object members, token :: tokens => ((object members).get token).bind fun inner => inner.follow tokens
  | array items, token :: tokens => (parseIndex token).bind fun i => items[i]?.bind fun inner => inner.follow tokens
  | _, _ :: _ => none

/-- The tokens of a pointer, their two escapes undone. -/
def tokens (path : Text) : List Text :=
  ((path.splitOn '/').drop 1).map fun token => replacePair '~' '0' '~' (replacePair '~' '1' '/' token)

/-- `Value::pointer`. -/
def pointer (value : Json) (path : Text) : Option Json :=
  if path = [] then some value
  else if path.head? ≠ some '/' then none
  else value.follow (tokens path)

/-- The place of a pointer whose tokens are names. -/
def place (path : Text) : List Step := (tokens path).map .key

theorem follow_eq_lookup {tokens : List Text} (h : ∀ token ∈ tokens, parseIndex token = none) (value : Json) :
    value.follow tokens = value.lookup (tokens.map .key) := by
  induction tokens generalizing value with
  | nil => simp [follow]
  | cons token tokens ih =>
    have hrest := ih fun t ht => h t (List.mem_cons_of_mem _ ht)
    rw [List.map_cons, lookup_cons, child]
    cases value with
    | object members =>
      rw [follow]
      exact congrArg _ (funext hrest)
    | array items => rw [follow, h token List.mem_cons_self]; rfl
    | null | bool | number | string => rfl

/-- **A pointer whose tokens are names is looked up member by member.** -/
theorem pointer_eq_lookup {path : Text} (hpath : path.head? = some '/') (h : ∀ token ∈ tokens path, parseIndex token = none)
    (value : Json) : value.pointer path = value.lookup (place path) := by
  have hne : path ≠ [] := by
    rintro rfl
    cases hpath
  rw [pointer, if_neg hne, if_neg (not_not.2 hpath), follow_eq_lookup h, place]

/-! ## Carrying -/

/-- Two values agree at their roots. -/
def Agrees (number : Text → Text → Prop) : Json → Json → Prop
  | null, null => True
  | bool a, bool b => a = b
  | .number a, .number b => number a b
  | string a, string b => a = b
  | array as, array bs => as.length = bs.length
  | object _, object _ => True
  | _, _ => False

/-- Whatever is anywhere in `requested` is in the same place of `observed`. -/
def Carries (number : Text → Text → Prop) (requested observed : Json) : Prop :=
  ∀ path wanted, requested.lookup path = some wanted →
    ∃ actual, observed.lookup path = some actual ∧ Agrees number wanted actual

theorem carries_iff {number : Text → Text → Prop} {requested observed : Json} :
    Carries number requested observed ↔ Agrees number requested observed ∧
      ∀ step wanted, requested.child step = some wanted →
        ∃ actual, observed.child step = some actual ∧ Carries number wanted actual := by
  constructor
  · intro h
    constructor
    · obtain ⟨actual, hactual, hagrees⟩ := h [] requested rfl
      cases hactual
      exact hagrees
    · intro step wanted hwanted
      obtain ⟨actual, hactual, -⟩ := h [step] wanted (by rw [lookup_cons, hwanted]; rfl)
      rw [lookup_cons] at hactual
      obtain ⟨inner, hinner, -⟩ := Option.bind_eq_some_iff.1 hactual
      refine ⟨inner, hinner, fun path deeper hdeeper => ?_⟩
      obtain ⟨found, hfound, hagrees⟩ := h (step :: path) deeper (by rw [lookup_cons, hwanted]; exact hdeeper)
      rw [lookup_cons, hinner] at hfound
      exact ⟨found, hfound, hagrees⟩
  · rintro ⟨hroot, hbelow⟩ path wanted hwanted
    cases path with
    | nil =>
      cases hwanted
      exact ⟨observed, rfl, hroot⟩
    | cons step path =>
      rw [lookup_cons] at hwanted
      obtain ⟨inner, hinner, hwanted⟩ := Option.bind_eq_some_iff.1 hwanted
      obtain ⟨actual, hactual, hcarries⟩ := hbelow step inner hinner
      obtain ⟨found, hfound, hagrees⟩ := hcarries path wanted hwanted
      exact ⟨found, by rw [lookup_cons, hactual]; exact hfound, hagrees⟩

theorem Agrees.mono {number number' : Text → Text → Prop} (h : ∀ a b, number a b → number' a b) :
    ∀ {a b : Json}, Agrees number a b → Agrees number' a b := by
  intro a b hagrees
  cases a <;> cases b <;> first | exact hagrees | exact h _ _ hagrees

theorem Carries.mono {number number' : Text → Text → Prop} (h : ∀ a b, number a b → number' a b)
    {requested observed : Json} (hcarries : Carries number requested observed) : Carries number' requested observed := by
  intro path wanted hwanted
  obtain ⟨actual, hactual, hagrees⟩ := hcarries path wanted hwanted
  exact ⟨actual, hactual, hagrees.mono h⟩

/-! ## Distinct names -/

mutual

/-- The members of each object have distinct names. -/
def Distinct : Json → Prop
  | array items => DistinctItems items
  | object members => (members.map Prod.fst).Nodup ∧ DistinctMembers members
  | _ => True

def DistinctItems : List Json → Prop
  | [] => True
  | item :: items => item.Distinct ∧ DistinctItems items

def DistinctMembers : List (Text × Json) → Prop
  | [] => True
  | (_, value) :: members => value.Distinct ∧ DistinctMembers members

end

theorem get_of_mem {members : List (Text × Json)} (h : (members.map Prod.fst).Nodup) {name : Text} {value : Json}
    (hmem : (name, value) ∈ members) : (object members).get name = some value := by
  induction members with
  | nil => cases hmem
  | cons member members ih =>
    rw [List.map_cons, List.nodup_cons] at h
    rcases List.mem_cons.1 hmem with rfl | hmem
    · simp [get]
    · have hne : (member.1 == name) = false := by
        refine beq_eq_false_iff_ne.2 fun he => h.1 ?_
        rw [he]
        exact List.mem_map_of_mem hmem
      have hrest := ih h.2 hmem
      rw [get] at hrest ⊢
      rwa [List.find?_cons, hne]

theorem mem_of_get {members : List (Text × Json)} {name : Text} {value : Json}
    (h : (object members).get name = some value) : (name, value) ∈ members := by
  obtain ⟨⟨found, inner⟩, hfind, rfl⟩ := Option.map_eq_some_iff.1 h
  obtain rfl : found = name := by simpa using List.find?_some hfind
  exact List.mem_of_find?_eq_some hfind

theorem get_eq_none {members : List (Text × Json)} {name : Text} :
    (object members).get name = none ↔ name ∉ members.map Prod.fst := by
  simp only [get, Option.map_eq_none_iff, List.find?_eq_none, beq_iff_eq, List.mem_map, not_exists, not_and]

/-! ## Carrying, composed -/

theorem Carries.refl {number : Text → Text → Prop} (h : ∀ a, number a a) (value : Json) : Carries number value value := by
  intro path found hfound
  refine ⟨found, hfound, ?_⟩
  cases found <;> first | trivial | rfl | exact h _

theorem Agrees.trans {number : Text → Text → Prop} (h : ∀ a b c, number a b → number b c → number a c) :
    ∀ {a b c : Json}, Agrees number a b → Agrees number b c → Agrees number a c := by
  intro a b c hab hbc
  cases a <;> cases b <;> (try cases hab) <;> cases c <;> (try cases hbc) <;>
    first | trivial | rfl | exact h _ _ _ hab hbc | exact Eq.trans hab hbc

theorem Carries.trans {number : Text → Text → Prop} (h : ∀ a b c, number a b → number b c → number a c) {a b c : Json}
    (hab : Carries number a b) (hbc : Carries number b c) : Carries number a c := by
  intro path first hfirst
  obtain ⟨second, hsecond, hagrees⟩ := hab path first hfirst
  obtain ⟨third, hthird, hnext⟩ := hbc path second hsecond
  exact ⟨third, hthird, hagrees.trans h hnext⟩

/-! ## Leaf by leaf -/

/-- Every number in the value has the property. -/
def Numbers (p : Text → Prop) (value : Json) : Prop := ∀ path spelling, value.lookup path = some (number spelling) → p spelling

theorem Carries.mono_numbers {number number' : Text → Text → Prop} {p q : Text → Prop}
    (h : ∀ a b, p a → q b → number a b → number' a b) {requested observed : Json} (hrequested : requested.Numbers p)
    (hobserved : observed.Numbers q) (hcarries : Carries number requested observed) : Carries number' requested observed := by
  intro path wanted hwanted
  obtain ⟨actual, hactual, hagrees⟩ := hcarries path wanted hwanted
  refine ⟨actual, hactual, ?_⟩
  cases wanted <;> cases actual <;>
    first | exact h _ _ (hrequested path _ hwanted) (hobserved path _ hactual) hagrees | exact hagrees

/-- A value with nothing below it that is not a container. -/
def Scalar : Json → Prop
  | array _ => False
  | object _ => False
  | _ => True

/-- Two leaves of equal value. -/
def EqualLeaf (number : Text → Text → Prop) : Json → Json → Prop
  | .number a, .number b => number a b
  | a, b => a = b

/-- Every leaf of `requested` is in its place of `observed` with an equal value, and the arrays are as long. -/
def Occurs (number : Text → Text → Prop) (leaf : Json → Prop) (requested observed : Json) : Prop :=
  (∀ path value, requested.lookup path = some value → leaf value →
      ∃ found, observed.lookup path = some found ∧ EqualLeaf number value found) ∧
    ∀ path items, requested.lookup path = some (array items) →
      ∃ others, observed.lookup path = some (array others) ∧ items.length = others.length

/-- The objects of `requested` are objects in `observed`. -/
def ObjectsOccur (requested observed : Json) : Prop :=
  ∀ path members, requested.lookup path = some (object members) → ∃ others, observed.lookup path = some (object others)

theorem agrees_iff_equalLeaf {number : Text → Text → Prop} {value found : Json} (h : Scalar value) :
    Agrees number value found ↔ EqualLeaf number value found := by
  cases value with
  | array | object => cases h
  | null | bool | number | string => cases found <;> simp [Agrees, EqualLeaf]

theorem agrees_array {number : Text → Text → Prop} {items : List Json} {found : Json} :
    Agrees number (array items) found ↔ ∃ others, found = array others ∧ items.length = others.length := by
  cases found <;> simp [Agrees]

theorem agrees_object {number : Text → Text → Prop} {members : List (Text × Json)} {found : Json} :
    Agrees number (object members) found ↔ ∃ others, found = object others := by
  cases found <;> simp [Agrees]

/-- **Carrying, leaf by leaf.** -/
theorem carries_iff_occurs {number : Text → Text → Prop} {requested observed : Json} :
    Carries number requested observed ↔ Occurs number Scalar requested observed ∧ ObjectsOccur requested observed := by
  constructor
  · intro h
    refine ⟨⟨fun path value hvalue hleaf => ?_, fun path items hitems => ?_⟩, fun path members hmembers => ?_⟩
    · obtain ⟨found, hfound, hagrees⟩ := h path value hvalue
      exact ⟨found, hfound, (agrees_iff_equalLeaf hleaf).1 hagrees⟩
    · obtain ⟨_, hfound, hagrees⟩ := h path _ hitems
      obtain ⟨others, rfl, hlength⟩ := agrees_array.1 hagrees
      exact ⟨others, hfound, hlength⟩
    · obtain ⟨_, hfound, hagrees⟩ := h path _ hmembers
      obtain ⟨others, rfl⟩ := agrees_object.1 hagrees
      exact ⟨others, hfound⟩
  · rintro ⟨⟨hleaves, harrays⟩, hobjects⟩ path value hvalue
    cases value with
    | array items =>
      obtain ⟨others, hothers, hlength⟩ := harrays path items hvalue
      exact ⟨_, hothers, agrees_array.2 ⟨others, rfl, hlength⟩⟩
    | object members =>
      obtain ⟨others, hothers⟩ := hobjects path members hvalue
      exact ⟨_, hothers, agrees_object.2 ⟨others, rfl⟩⟩
    | null | bool | number | string =>
      obtain ⟨found, hfound, hequal⟩ := hleaves path _ hvalue trivial
      exact ⟨found, hfound, (agrees_iff_equalLeaf (by exact trivial)).2 hequal⟩

/-! ## The same value, written otherwise -/

/-- Two values differ at most in the order of their members and in how their numbers are written. -/
inductive Restates (number : Text → Text → Prop) : Json → Json → Prop where
  | null : Restates number null null
  | bool (value : Bool) : Restates number (bool value) (bool value)
  | number {a b : Text} (h : number a b) : Restates number (.number a) (.number b)
  | string (value : Text) : Restates number (string value) (string value)
  | array {as bs : List Json} (hlength : as.length = bs.length)
      (hitems : ∀ (i : Nat) (a b : Json), as[i]? = some a → bs[i]? = some b → Restates number a b) : Restates number (array as) (array bs)
  | object {as bs : List (Text × Json)} (hnames : (as.map Prod.fst).Perm (bs.map Prod.fst))
      (hmembers : ∀ name a b, (name, a) ∈ as → (name, b) ∈ bs → Restates number a b) :
      Restates number (object as) (object bs)

namespace Restates

variable {number : Text → Text → Prop} {a b : Json}

theorem symm (hnumber : ∀ a b, number a b → number b a) (h : Restates number a b) : Restates number b a := by
  induction h with
  | null => exact .null
  | bool value => exact .bool value
  | number h => exact .number (hnumber _ _ h)
  | string value => exact .string value
  | array hlength _ ih => exact .array hlength.symm fun i a b ha hb => ih i b a hb ha
  | object hnames _ ih => exact .object hnames.symm fun name a b ha hb => ih name b a hb ha

theorem child (h : Restates number a b) {step : Step} {below : Json} (hbelow : a.child step = some below) :
    ∃ other, b.child step = some other ∧ Restates number below other := by
  cases h with
  | null | bool | number | string => cases step <;> cases hbelow
  | @array as bs hlength hitems =>
    cases step with
    | key => cases hbelow
    | index i =>
      obtain ⟨hi, -⟩ := List.getElem?_eq_some_iff.1 hbelow
      exact ⟨bs[i], List.getElem?_eq_getElem (hlength ▸ hi), hitems i _ _ hbelow (List.getElem?_eq_getElem (hlength ▸ hi))⟩
  | @object as bs hnames hmembers =>
    cases step with
    | index => cases hbelow
    | key name =>
      have hmem := mem_of_get hbelow
      cases hget : (Json.object bs).get name with
      | none => exact absurd (hnames.mem_iff.1 (List.mem_map_of_mem hmem)) (get_eq_none.1 hget)
      | some other => exact ⟨other, hget, hmembers name _ _ hmem (mem_of_get hget)⟩

/-- The same place holds the same, written otherwise. -/
theorem lookup (h : Restates number a b) {path : List Step} {below : Json} (hbelow : a.lookup path = some below) :
    ∃ other, b.lookup path = some other ∧ Restates number below other := by
  induction path generalizing a b with
  | nil =>
    cases hbelow
    exact ⟨b, rfl, h⟩
  | cons step path ih =>
    rw [lookup_cons] at hbelow
    obtain ⟨inner, hinner, hrest⟩ := Option.bind_eq_some_iff.1 hbelow
    obtain ⟨next, hnext, hrestates⟩ := h.child hinner
    obtain ⟨other, hother, hsame⟩ := ih hrestates hrest
    exact ⟨other, by rw [lookup_cons, hnext]; exact hother, hsame⟩

theorem agrees {equivalent : Text → Text → Prop}
    (hnumber : ∀ a a' b b', number a a' → number b b' → equivalent a b → equivalent a' b') {a' b' : Json}
    (ha : Restates number a a') (hb : Restates number b b') (h : Agrees equivalent a b) : Agrees equivalent a' b' := by
  cases ha with
  | null => cases hb <;> exact h
  | bool => cases hb <;> exact h
  | string => cases hb <;> exact h
  | number ha =>
    cases hb with
    | number hb => exact hnumber _ _ _ _ ha hb h
    | null | bool | string | array | object => exact h
  | array hlength =>
    cases hb with
    | array hlength' => exact hlength.symm.trans (Eq.trans h hlength')
    | null | bool | string | number | object => exact h
  | object =>
    cases hb with
    | object => trivial
    | null | bool | string | number | array => exact h

/-- **Whether one value carries another does not depend on how the two are written.** -/
theorem carries {equivalent : Text → Text → Prop} (hsymm : ∀ a b, number a b → number b a)
    (hnumber : ∀ a a' b b', number a a' → number b b' → equivalent a b → equivalent a' b') {a' b' : Json}
    (ha : Restates number a a') (hb : Restates number b b') (h : Carries equivalent a b) : Carries equivalent a' b' := by
  intro path wanted hwanted
  obtain ⟨original, horiginal, hsame⟩ := (ha.symm hsymm).lookup hwanted
  obtain ⟨found, hfound, hagrees⟩ := h path original horiginal
  obtain ⟨actual, hactual, hother⟩ := hb.lookup hfound
  exact ⟨actual, hactual, agrees hnumber (hsame.symm hsymm) hother hagrees⟩

end Restates

end Json

/-! ## Typed values -/

/-- A value of a typed contract. -/
inductive Typed where
  /-- An optional member without a value. -/
  | absent
  | bool (value : Bool)
  | number (value : Int)
  | text (value : Text)
  | list (items : List Typed)
  | record (members : List (Text × Typed))

namespace Typed

open Json (Step)

/-- An optional member. -/
def optional {α : Type} (typed : α → Typed) : Option α → Typed
  | some value => typed value
  | none => absent

/-- A variant of an internally tagged enumeration. -/
def tagged (tag variant : Text) (members : List (Text × Typed)) : Typed := record ((tag, text variant) :: members)

mutual

def json : Typed → Json
  | absent => .null
  | bool value => .bool value
  | number value => .number (Text.decInt value)
  | text value => .string value
  | list items => .array (jsonItems items)
  | record members => .object (jsonMembers members)

def jsonItems : List Typed → List Json
  | [] => []
  | item :: items => item.json :: jsonItems items

/-- `skip_serializing_if = "Option::is_none"`. -/
def jsonMembers : List (Text × Typed) → List (Text × Json)
  | [] => []
  | (_, absent) :: members => jsonMembers members
  | (name, value) :: members => (name, value.json) :: jsonMembers members

end

mutual

/-- The places of the optional members without a value. -/
def omitted : Typed → List (List Step)
  | list items => omittedItems 0 items
  | record members => omittedMembers members
  | _ => []

def omittedItems (i : Nat) : List Typed → List (List Step)
  | [] => []
  | item :: items => item.omitted.map (.index i :: ·) ++ omittedItems (i + 1) items

def omittedMembers : List (Text × Typed) → List (List Step)
  | [] => []
  | (name, absent) :: members => [.key name] :: omittedMembers members
  | (name, value) :: members => value.omitted.map (.key name :: ·) ++ omittedMembers members

end

mutual

/-- The members of each record have distinct names. -/
def Distinct : Typed → Prop
  | list items => DistinctItems items
  | record members => (members.map Prod.fst).Nodup ∧ DistinctMembers members
  | _ => True

def DistinctItems : List Typed → Prop
  | [] => True
  | item :: items => item.Distinct ∧ DistinctItems items

def DistinctMembers : List (Text × Typed) → Prop
  | [] => True
  | (_, value) :: members => value.Distinct ∧ DistinctMembers members

end

theorem distinctItems_of_mem {items : List Typed} (h : DistinctItems items) {item : Typed} (hmem : item ∈ items) :
    item.Distinct := by
  induction items with
  | nil => cases hmem
  | cons first items ih =>
    rcases List.mem_cons.1 hmem with rfl | hmem
    · exact h.1
    · exact ih h.2 hmem

theorem distinctMembers_of_mem {members : List (Text × Typed)} (h : DistinctMembers members) {name : Text} {value : Typed}
    (hmem : (name, value) ∈ members) : value.Distinct := by
  induction members with
  | nil => cases hmem
  | cons member members ih =>
    rcases List.mem_cons.1 hmem with rfl | hmem
    · exact h.1
    · exact ih h.2 hmem

theorem jsonItems_getElem? (items : List Typed) (i : Nat) : (jsonItems items)[i]? = items[i]?.map json := by
  induction items generalizing i with
  | nil => rfl
  | cons item items ih =>
    cases i with
    | zero => rfl
    | succ i => simpa [jsonItems] using ih i

/-- The members a serialised record has. -/
theorem mem_jsonMembers {members : List (Text × Typed)} {name : Text} {value : Json} :
    (name, value) ∈ jsonMembers members ↔ ∃ typed, (name, typed) ∈ members ∧ typed ≠ absent ∧ typed.json = value := by
  induction members with
  | nil => simp [jsonMembers]
  | cons member members ih =>
    obtain ⟨name', typed⟩ := member
    by_cases habsent : typed = absent
    · subst habsent
      rw [jsonMembers, ih]
      constructor
      · rintro ⟨found, hmem, hne, hjson⟩
        exact ⟨found, List.mem_cons_of_mem _ hmem, hne, hjson⟩
      · rintro ⟨found, hmem, hne, hjson⟩
        rcases List.mem_cons.1 hmem with heq | hmem
        · cases heq
          exact absurd rfl hne
        · exact ⟨found, hmem, hne, hjson⟩
    · have hcons : jsonMembers ((name', typed) :: members) = (name', typed.json) :: jsonMembers members := by
        cases typed <;> first | rfl | exact absurd rfl habsent
      rw [hcons, List.mem_cons, ih]
      constructor
      · rintro (heq | ⟨found, hmem, hne, hjson⟩)
        · cases heq
          exact ⟨typed, List.mem_cons_self, habsent, rfl⟩
        · exact ⟨found, List.mem_cons_of_mem _ hmem, hne, hjson⟩
      · rintro ⟨found, hmem, hne, hjson⟩
        rcases List.mem_cons.1 hmem with heq | hmem
        · cases heq
          exact Or.inl (congrArg _ hjson.symm)
        · exact Or.inr ⟨found, hmem, hne, hjson⟩

theorem jsonMembers_sublist (members : List (Text × Typed)) :
    ((jsonMembers members).map Prod.fst).Sublist (members.map Prod.fst) := by
  induction members with
  | nil => exact List.Sublist.slnil
  | cons member members ih =>
    obtain ⟨name, typed⟩ := member
    cases typed <;> first | exact ih.cons _ | exact ih.cons_cons _

mutual

/-- Serialised names stay distinct. -/
theorem distinct_json : ∀ (typed : Typed), typed.Distinct → typed.json.Distinct
  | absent, _ | bool _, _ | number _, _ | text _, _ => trivial
  | list items, h => distinct_jsonItems items h
  | record members, h => ⟨h.1.sublist (jsonMembers_sublist members), distinct_jsonMembers members h.2⟩

theorem distinct_jsonItems : ∀ (items : List Typed), DistinctItems items → Json.DistinctItems (jsonItems items)
  | [], _ => trivial
  | item :: items, h => ⟨distinct_json item h.1, distinct_jsonItems items h.2⟩

theorem distinct_jsonMembers : ∀ (members : List (Text × Typed)), DistinctMembers members →
    Json.DistinctMembers (jsonMembers members)
  | [], _ => trivial
  | (_, absent) :: members, h => distinct_jsonMembers members h.2
  | (_, bool _) :: members, h => ⟨trivial, distinct_jsonMembers members h.2⟩
  | (_, number _) :: members, h => ⟨trivial, distinct_jsonMembers members h.2⟩
  | (_, text _) :: members, h => ⟨trivial, distinct_jsonMembers members h.2⟩
  | (_, list items) :: members, h => ⟨distinct_json (list items) h.1, distinct_jsonMembers members h.2⟩
  | (_, record inner) :: members, h => ⟨distinct_json (record inner) h.1, distinct_jsonMembers members h.2⟩

end

theorem mem_omittedItems {path : List Step} {items : List Typed} {i : Nat} (h : path ∈ omittedItems i items) :
    ∃ k item rest, items[k]? = some item ∧ rest ∈ item.omitted ∧ path = .index (i + k) :: rest := by
  induction items generalizing i with
  | nil => cases h
  | cons item items ih =>
    rw [omittedItems, List.mem_append, List.mem_map] at h
    rcases h with ⟨rest, hrest, rfl⟩ | h
    · exact ⟨0, item, rest, rfl, hrest, rfl⟩
    · obtain ⟨k, found, rest, hfound, hrest, rfl⟩ := ih h
      exact ⟨k + 1, found, rest, by simpa using hfound, hrest, by rw [Nat.add_assoc, Nat.add_comm 1]⟩

theorem mem_omittedMembers {path : List Step} {members : List (Text × Typed)} (h : path ∈ omittedMembers members) :
    ∃ name value, (name, value) ∈ members ∧
      (value = absent ∧ path = [.key name] ∨ ∃ rest ∈ value.omitted, path = .key name :: rest) := by
  induction members with
  | nil => cases h
  | cons member members ih =>
    obtain ⟨name, value⟩ := member
    have hsplit : value = absent ∧ path = [.key name] ∨ (∃ rest ∈ value.omitted, path = .key name :: rest) ∨
        path ∈ omittedMembers members := by
      cases value with
      | absent =>
        rcases List.mem_cons.1 h with h | h
        · exact Or.inl ⟨rfl, h⟩
        · exact Or.inr (Or.inr h)
      | bool | number | text | list | record =>
        rw [omittedMembers, List.mem_append, List.mem_map] at h
        · rcases h with ⟨rest, hrest, rfl⟩ | h
          · exact Or.inr (Or.inl ⟨rest, hrest, rfl⟩)
          · exact Or.inr (Or.inr h)
        · rintro ⟨⟩
    rcases hsplit with h | h | h
    · exact ⟨name, value, List.mem_cons_self, Or.inl h⟩
    · exact ⟨name, value, List.mem_cons_self, Or.inr h⟩
    · obtain ⟨name', value', hmem, hcase⟩ := ih h
      exact ⟨name', value', List.mem_cons_of_mem _ hmem, hcase⟩

/-- **Where an optional member is left out, the serialised value has nothing.** -/
theorem lookup_of_omitted {path : List Step} : ∀ {typed : Typed}, typed.Distinct → path ∈ typed.omitted →
    typed.json.lookup path = none := by
  induction path with
  | nil =>
    intro typed _ h
    cases typed with
    | absent | bool | number | text => cases h
    | list items =>
      obtain ⟨_, _, _, _, _, ⟨⟩⟩ := mem_omittedItems h
    | record members =>
      obtain ⟨_, _, _, ⟨_, ⟨⟩⟩ | ⟨_, _, ⟨⟩⟩⟩ := mem_omittedMembers h
  | cons step path ih =>
    intro typed hdistinct h
    cases typed with
    | absent | bool | number | text => cases h
    | list items =>
      obtain ⟨k, item, rest, hitem, hrest, heq⟩ := mem_omittedItems h
      cases heq
      rw [Nat.zero_add, json, Json.lookup_cons, Json.child, jsonItems_getElem?, hitem]
      exact ih (distinctItems_of_mem hdistinct (List.mem_of_getElem? hitem)) hrest
    | record members =>
      have hnames := hdistinct.1.sublist (jsonMembers_sublist members)
      obtain ⟨name, value, hmem, ⟨rfl, heq⟩ | ⟨rest, hrest, heq⟩⟩ := mem_omittedMembers h
      · cases heq
        have hnone : (Json.object (jsonMembers members)).get name = none := by
          rw [Json.get_eq_none, List.mem_map]
          rintro ⟨⟨name', found⟩, hfound, rfl⟩
          obtain ⟨typed, htyped, hne, -⟩ := mem_jsonMembers.1 hfound
          exact hne (congrArg Prod.snd (List.inj_on_of_nodup_map hdistinct.1 htyped hmem rfl))
        rw [json, Json.lookup_cons, Json.child, hnone]
        rfl
      · cases heq
        have hvalue : value ≠ absent := by
          rintro rfl
          cases hrest
        rw [json, Json.lookup_cons, Json.child, Json.get_of_mem hnames (mem_jsonMembers.2 ⟨value, hmem, hvalue, rfl⟩)]
        exact ih (distinctMembers_of_mem hdistinct.2 hmem) hrest

/-- A serialised number is an integer. -/
theorem lookup_number {path : List Step} {spelling : Text} : ∀ {typed : Typed},
    typed.json.lookup path = some (.number spelling) → ∃ n, spelling = Text.decInt n := by
  induction path with
  | nil =>
    intro typed h
    cases typed with
    | number value =>
      cases h
      exact ⟨value, rfl⟩
    | absent | bool | text | list | record => cases h
  | cons step path ih =>
    intro typed h
    rw [Json.lookup_cons] at h
    obtain ⟨inner, hinner, h⟩ := Option.bind_eq_some_iff.1 h
    have hbelow : ∃ below : Typed, below.json = inner := by
      cases typed with
      | list items =>
        cases step with
        | key name => cases hinner
        | index i =>
          rw [json, Json.child, jsonItems_getElem?] at hinner
          obtain ⟨item, -, rfl⟩ := Option.map_eq_some_iff.1 hinner
          exact ⟨item, rfl⟩
      | record members =>
        cases step with
        | key name =>
          obtain ⟨value, -, -, rfl⟩ := mem_jsonMembers.1 (Json.mem_of_get hinner)
          exact ⟨value, rfl⟩
        | index i => cases hinner
      | absent | bool | number | text => cases step <;> cases hinner
    obtain ⟨below, rfl⟩ := hbelow
    exact ih h

/-! ## Which members can be left out -/

/-- Names are distinct, and what is left out is among the places. -/
structure Within (places : List (List Step)) (typed : Typed) : Prop where
  present : typed ≠ absent
  distinct : typed.Distinct
  omitted : ∀ path ∈ typed.omitted, path ∈ places

/-- Nothing is left out. -/
abbrev Complete (typed : Typed) : Prop := Within [] typed

@[simp] theorem complete_bool (value : Bool) : (bool value).Complete := ⟨nofun, trivial, nofun⟩
@[simp] theorem complete_number (value : Int) : (number value).Complete := ⟨nofun, trivial, nofun⟩
@[simp] theorem complete_text (value : Text) : (text value).Complete := ⟨nofun, trivial, nofun⟩

theorem complete_list {α : Type} {typed : α → Typed} (h : ∀ x, (typed x).Complete) (items : List α) :
    (list (items.map typed)).Complete := by
  refine ⟨nofun, ?_, fun path hpath => ?_⟩
  · induction items with
    | nil => trivial
    | cons x items ih => exact ⟨(h x).distinct, ih⟩
  · obtain ⟨k, item, rest, hitem, hrest, -⟩ := mem_omittedItems hpath
    obtain ⟨x, -, rfl⟩ := List.mem_map.1 (List.mem_of_getElem? hitem)
    exact nomatch (h x).omitted rest hrest

/-- What a member leaves out is among the places of its record. -/
structure MemberWithin (places : List (List Step)) (member : Text × Typed) : Prop where
  distinct : member.2.Distinct
  omitted : member.2 = absent → [.key member.1] ∈ places
  below : ∀ rest ∈ member.2.omitted, .key member.1 :: rest ∈ places

def MembersWithin (places : List (List Step)) : List (Text × Typed) → Prop
  | [] => True
  | member :: members => MemberWithin places member ∧ MembersWithin places members

theorem membersWithin_iff {places : List (List Step)} {members : List (Text × Typed)} :
    MembersWithin places members ↔ ∀ member ∈ members, MemberWithin places member := by
  induction members with
  | nil => simp [MembersWithin]
  | cons member members ih => rw [MembersWithin, ih, List.forall_mem_cons]

theorem within_record {places : List (List Step)} {members : List (Text × Typed)} (hnames : (members.map Prod.fst).Nodup)
    (h : MembersWithin places members) : (record members).Within places := by
  refine ⟨nofun, ⟨hnames, ?_⟩, fun path hpath => ?_⟩
  · clear hnames
    induction members with
    | nil => trivial
    | cons member members ih => exact ⟨h.1.distinct, ih h.2⟩
  · obtain ⟨name, value, hmem, ⟨habsent, rfl⟩ | ⟨rest, hrest, rfl⟩⟩ := mem_omittedMembers hpath
    · exact (membersWithin_iff.1 h _ hmem).omitted habsent
    · exact (membersWithin_iff.1 h _ hmem).below rest hrest

section
variable {places inner : List (List Step)} {name : Text}

/-- A required member. -/
theorem Within.required {typed : Typed} (h : typed.Within inner) (hinner : ∀ rest ∈ inner, .key name :: rest ∈ places) :
    MemberWithin places (name, typed) :=
  ⟨h.distinct, fun habsent => absurd habsent h.present, fun rest hrest => hinner rest (h.omitted rest hrest)⟩

theorem Within.needed {typed : Typed} (h : typed.Complete) : MemberWithin places (name, typed) :=
  h.required nofun

/-- An optional member. -/
theorem MemberWithin.optional {α : Type} {typed : α → Typed} (h : ∀ x, (typed x).Within inner) {value : Option α}
    (hplace : [.key name] ∈ places) (hinner : ∀ rest ∈ inner, .key name :: rest ∈ places) :
    MemberWithin places (name, Typed.optional typed value) := by
  cases value with
  | none => exact ⟨trivial, fun _ => hplace, nofun⟩
  | some x => exact (h x).required hinner

theorem MemberWithin.optional_complete {α : Type} {typed : α → Typed} (h : ∀ x, (typed x).Complete) {value : Option α}
    (hplace : [.key name] ∈ places) : MemberWithin places (name, Typed.optional typed value) :=
  MemberWithin.optional h hplace nofun

end

theorem complete_record {members : List (Text × Typed)} (hnames : (members.map Prod.fst).Nodup)
    (h : ∀ member ∈ members, member.2.Complete) : (record members).Complete :=
  within_record hnames (membersWithin_iff.2 fun member hmem => (h member hmem).needed)

end Typed
