import Mathlib.Data.Char
import Mathlib.Data.List.Dedup
import Mathlib.Data.List.Lex
import Mathlib.Data.List.Sort
import UnifiMcp.Lib.SortedMap
import UnifiMcp.Mcp.Tools
/-! # How a write is judged (unifi-mcp/src/mutation.rs, unifi-api/src/legacy.rs)

A confirmed write is judged by reading the record back: each requested field is looked up in the
readback's projection, and every property that moved without being asked for is named.

* `judge_verified_iff` — **verified means: every requested field holds, nothing else moved.**
* `mem_judge_unexpected` — the unexpected changes are exactly the other properties that moved. -/
namespace UnifiMcp
open Text

/-! ## `mutation.rs` -/

inductive FieldStatus where
  | persisted
  | dropped
  | coerced
deriving DecidableEq

structure FieldOutcome where
  field : Text
  status : FieldStatus
  previous : Option Json
  requested : Option Json
  observed : Option Json
deriving DecidableEq

structure PlannedChange where
  field : Text
  from_ : Option Json
  to_ : Option Json
deriving DecidableEq

/-- `plan` (mutation.rs:51). -/
def plan (requested : SortedMap Text Json) (current : Json) : List PlannedChange :=
  (requested.entries.filter fun entry => current.get entry.1 != some entry.2).map fun entry =>
    ⟨entry.1, some ((current.get entry.1).getD .null), some entry.2⟩

/-- One field of `verify`. -/
def fieldOutcome (before after : Json) (field : Text) (wanted : Json) : FieldOutcome :=
  let observed := (after.get field).getD .null
  let previous := (before.get field).getD .null
  let status := if observed = wanted then .persisted else if observed = previous then .dropped else .coerced
  ⟨field, status, some previous, some wanted, some observed⟩

/-- `verify` (mutation.rs:64). -/
def verify (requested : SortedMap Text Json) (before after : Json) : List FieldOutcome :=
  requested.entries.map fun entry => fieldOutcome before after entry.1 entry.2

/-- An `Option<bool>` as `json!` writes it. -/
def optionalBool (value : Option Bool) : Json := value.elim .null .bool

/-- An `Option<String>` as `json!` writes it. -/
def optionalText (value : Option Text) : Json := value.elim .null .string

theorem asBool_eq_some {value : Json} {b : Bool} : value.asBool = some b ↔ value = .bool b := by
  cases value <;> simp [Json.asBool]

theorem asStr_eq_some {value : Json} {t : Text} : value.asStr = some t ↔ value = .string t := by
  cases value <;> simp [Json.asStr]

/-! ## `RecordFingerprint` -/

/-- `RecordFingerprint` (legacy.rs:159): every property of one record. -/
abbrev RecordFingerprint := SortedMap Text Json

/-- `from_raw_record` (legacy.rs:176): each property as its text. -/
def fromRawRecord (record : SortedMap Text Text) : RecordFingerprint :=
  record.filterMap fun text => some (.string text)

/-- `changed_properties` (legacy.rs:194). -/
def changedProperties (this other : RecordFingerprint) : List Text :=
  (((this.keys ++ other.keys).filter fun property => this.find? property != other.find? property).insertionSort
    (· ≤ ·)).dedup

/-- `wire_name` (tools.rs:13362). -/
def wireName (wireNames : List (Text × Text)) (field : Text) : Option Text :=
  (wireNames.find? fun entry => entry.1 == field).map Prod.snd

/-- `unrequested_changes` (tools.rs:13322). -/
def unrequestedChanges (before after : RecordFingerprint) (requested : SortedMap Text Json)
    (wireNames : List (Text × Text)) : List Text :=
  let askedFor := requested.keys.filterMap (wireName wireNames)
  (changedProperties before after).filter fun property => !askedFor.contains property

/-! ## The verdict -/

/-- How the read behind an accepted write ended: no time was left for it, it ran out of time, or it
was answered. -/
inductive Readback (ε α : Type) where
  | skipped
  | timedOut
  | answered (answer : Except ε α)

/-- What a readback yields. -/
structure Verdict where
  fields : List FieldOutcome
  unexpectedChanges : List Text
  verified : Bool
deriving DecidableEq

/-- The lines behind every readback: `verify`, `unrequested_changes` and `verified`
(tools.rs:9424-9440, 9535-9550, 9787-9793). -/
def judge (requested : SortedMap Text Json) (wireNames : List (Text × Text)) (before after : Json)
    (beforeDigest afterDigest : RecordFingerprint) : Verdict :=
  let fields := verify requested before after
  let unexpected := unrequestedChanges beforeDigest afterDigest requested wireNames
  ⟨fields, unexpected, unexpected.isEmpty && fields.all fun outcome => outcome.status = .persisted⟩

/-- Some requested field is stored under the property. -/
def Requested (requested : SortedMap Text Json) (wireNames : List (Text × Text)) (property : Text) : Prop :=
  ∃ field wanted, requested.find? field = some wanted ∧ wireName wireNames field = some property

/-- The projection has every requested value. -/
def Holds (requested : SortedMap Text Json) (projection : Json) : Prop :=
  ∀ field wanted, requested.find? field = some wanted → (projection.get field).getD .null = wanted

/-- Every property that was not requested is the same in both records, or in neither. -/
def Untouched {β : Type} (requested : SortedMap Text Json) (wireNames : List (Text × Text))
    (before after : SortedMap Text β) : Prop :=
  ∀ property, ¬Requested requested wireNames property → before.find? property = after.find? property

/-! ## Lemmas -/

section
variable {requested : SortedMap Text Json} {wireNames : List (Text × Text)} {property : Text}

theorem mem_changedProperties {this other : RecordFingerprint} :
    property ∈ changedProperties this other ↔ this.find? property ≠ other.find? property := by
  rw [changedProperties, List.mem_dedup, (List.perm_insertionSort _ _).mem_iff, List.mem_filter, List.mem_append,
    SortedMap.mem_keys, SortedMap.mem_keys, bne_iff_ne]
  constructor
  · exact And.right
  · intro hne
    refine ⟨?_, hne⟩
    by_contra habsent
    rw [not_or, not_not, not_not] at habsent
    exact hne (habsent.1.trans habsent.2.symm)

theorem mem_askedFor : property ∈ requested.keys.filterMap (wireName wireNames) ↔
    Requested requested wireNames property := by
  rw [List.mem_filterMap]
  constructor
  · rintro ⟨field, hfield, hwire⟩
    obtain ⟨wanted, hwanted⟩ := Option.ne_none_iff_exists'.1 (SortedMap.mem_keys.1 hfield)
    exact ⟨field, wanted, hwanted, hwire⟩
  · rintro ⟨field, wanted, hwanted, hwire⟩
    exact ⟨field, SortedMap.mem_keys.2 (by simp [hwanted]), hwire⟩

theorem mem_unrequestedChanges {before after : RecordFingerprint} :
    property ∈ unrequestedChanges before after requested wireNames ↔
      ¬Requested requested wireNames property ∧ before.find? property ≠ after.find? property := by
  rw [unrequestedChanges, List.mem_filter, mem_changedProperties, Bool.not_eq_true', ← Bool.not_eq_true,
    List.contains_iff_mem, mem_askedFor]
  exact and_comm

theorem unrequestedChanges_eq_nil {before after : RecordFingerprint} :
    unrequestedChanges before after requested wireNames = [] ↔ Untouched requested wireNames before after := by
  rw [List.eq_nil_iff_forall_not_mem]
  refine forall_congr' fun property => ?_
  rw [mem_unrequestedChanges, not_and, not_not]

theorem verify_persisted {before after : Json} :
    (∀ outcome ∈ verify requested before after, outcome.status = .persisted) ↔ Holds requested after := by
  simp only [verify, List.forall_mem_map, fieldOutcome, Holds]
  constructor
  · intro h field wanted hwanted
    have hstatus := h _ (SortedMap.find?_eq_some.1 hwanted)
    by_contra hne
    rw [if_neg hne] at hstatus
    split at hstatus <;> cases hstatus
  · intro h entry hentry
    rw [if_pos (h entry.1 entry.2 (SortedMap.find?_eq_some.2 hentry))]

section
variable {before after : Json} {beforeDigest afterDigest : RecordFingerprint}

/-- **Verified means: every requested field holds and nothing else moved.** -/
theorem judge_verified_iff :
    (judge requested wireNames before after beforeDigest afterDigest).verified = true ↔
      Holds requested after ∧ Untouched requested wireNames beforeDigest afterDigest := by
  simp only [judge, Bool.and_eq_true, List.isEmpty_iff, List.all_eq_true, decide_eq_true_eq]
  rw [unrequestedChanges_eq_nil, verify_persisted, and_comm]

theorem judge_unverified_of_not_holds (h : ¬Holds requested after) :
    (judge requested wireNames before after beforeDigest afterDigest).verified = false :=
  Bool.eq_false_iff.2 fun hv => h (judge_verified_iff.1 hv).1

theorem mem_judge_unexpected :
    property ∈ (judge requested wireNames before after beforeDigest afterDigest).unexpectedChanges ↔
      ¬Requested requested wireNames property ∧ beforeDigest.find? property ≠ afterDigest.find? property :=
  mem_unrequestedChanges

theorem judge_unverified_of_moved (hother : ¬Requested requested wireNames property)
    (hmoved : beforeDigest.find? property ≠ afterDigest.find? property) :
    (judge requested wireNames before after beforeDigest afterDigest).verified = false :=
  Bool.eq_false_iff.2 fun hv => hmoved ((judge_verified_iff.1 hv).2 property hother)

end

@[simp] theorem find?_fromRawRecord (record : SortedMap Text Text) (property : Text) :
    (fromRawRecord record).find? property = (record.find? property).map .string := by
  rw [fromRawRecord, SortedMap.find?_filterMap]
  cases record.find? property <;> rfl

end

/-! ## One table for each tool -/

/-- A field a tool can change: its input name, the property the controller stores it under, and the
requested value. -/
structure FieldRow where
  field : Text
  wire : Text
  value : Option Json

/-- The requested map, the body and the table of names are three columns of the same rows. -/
structure Columns (rows : List FieldRow) (requested body : SortedMap Text Json) (wireNames : List (Text × Text)) :
    Prop where
  requested : requested = .ofOptions (rows.map fun row => (row.field, row.value))
  body : body = .ofOptions (rows.map fun row => (row.wire, row.value))
  wireNames : wireNames = rows.map fun row => (row.field, row.wire)
  fields_nodup : (rows.map FieldRow.field).Nodup
  wires_nodup : (rows.map FieldRow.wire).Nodup

namespace Columns
variable {rows : List FieldRow} {requested body : SortedMap Text Json} {wireNames : List (Text × Text)}

theorem find?_requested (h : Columns rows requested body wireNames) {field : Text} {wanted : Json} :
    requested.find? field = some wanted ↔ ∃ wire, ⟨field, wire, some wanted⟩ ∈ rows := by
  rw [h.requested, SortedMap.find?_ofOptions (by rw [List.map_map]; exact h.fields_nodup), List.mem_map]
  constructor
  · rintro ⟨⟨f, wire, v⟩, hmem, heq⟩
    cases heq
    exact ⟨wire, hmem⟩
  · rintro ⟨wire, hmem⟩
    exact ⟨_, hmem, rfl⟩

theorem find?_body (h : Columns rows requested body wireNames) {property : Text} {wanted : Json} :
    body.find? property = some wanted ↔ ∃ field, ⟨field, property, some wanted⟩ ∈ rows := by
  rw [h.body, SortedMap.find?_ofOptions (by rw [List.map_map]; exact h.wires_nodup), List.mem_map]
  constructor
  · rintro ⟨⟨field, w, v⟩, hmem, heq⟩
    cases heq
    exact ⟨field, hmem⟩
  · rintro ⟨field, hmem⟩
    exact ⟨_, hmem, rfl⟩

/-- What the body says of each property. -/
theorem find?_body_of_mem (h : Columns rows requested body wireNames) {row : FieldRow} (hrow : row ∈ rows) :
    body.find? row.wire = row.value := by
  rw [h.body]
  exact SortedMap.find?_ofOptions_of_mem (by rw [List.map_map]; exact h.wires_nodup) (List.mem_map.2 ⟨row, hrow, rfl⟩)

theorem find?_body_of_not_mem (h : Columns rows requested body wireNames) {property : Text}
    (hother : property ∉ rows.map FieldRow.wire) : body.find? property = none := by
  rw [h.body]
  exact SortedMap.find?_ofOptions_of_not_mem (by rw [List.map_map]; exact h.wires_nodup) (by rw [List.map_map]; exact hother)

theorem wireName_of_mem (h : Columns rows requested body wireNames) {row : FieldRow} (hrow : row ∈ rows) :
    wireName wireNames row.field = some row.wire := by
  have hfind : ∀ {rows : List FieldRow}, (rows.map FieldRow.field).Nodup → row ∈ rows →
      wireName (rows.map fun row => (row.field, row.wire)) row.field = some row.wire := by
    intro rows hnodup hrow
    induction rows with
    | nil => cases hrow
    | cons first rows ih =>
      obtain ⟨hfirst, hrest⟩ := List.nodup_cons.1 hnodup
      rcases List.mem_cons.1 hrow with rfl | hlater
      · simp [wireName]
      · have hne : first.field ≠ row.field := fun heq => hfirst (heq ▸ List.mem_map_of_mem hlater)
        rw [List.map_cons, wireName, List.find?_cons_of_neg (by simpa using hne)]
        exact ih hrest hlater
  rw [h.wireNames]
  exact hfind h.fields_nodup hrow

/-- The properties the table excludes are those of the body. -/
theorem requested_iff (h : Columns rows requested body wireNames) {property : Text} :
    Requested requested wireNames property ↔ body.find? property ≠ none := by
  rw [Option.ne_none_iff_exists']
  constructor
  · rintro ⟨field, wanted, hwanted, hwire⟩
    obtain ⟨wire, hrow⟩ := h.find?_requested.1 hwanted
    have hsame : wire = property := Option.some.inj ((h.wireName_of_mem hrow).symm.trans hwire)
    exact ⟨wanted, h.find?_body.2 ⟨field, hsame ▸ hrow⟩⟩
  · rintro ⟨wanted, hwanted⟩
    obtain ⟨field, hrow⟩ := h.find?_body.1 hwanted
    exact ⟨field, wanted, h.find?_requested.2 ⟨property, hrow⟩, h.wireName_of_mem hrow⟩

end Columns

/-! ## Judged readbacks -/

/-- The part of an output that judges the write. -/
structure Report where
  unexpectedChanges : Option (List Text)
  verified : Option Bool
  readbackError : Option Text

/-- A report against the records before and after the write. `wire` is what was requested under the
controller's names, `value` reads a stored property, `applied` is the record with exactly the sent
body applied, and `projection` is there when the reader accepts the record. -/
structure Judged {β : Type} (requested wire : SortedMap Text Json) (value : β → Option Json)
    (before after applied : SortedMap Text β) (projection : Option Json) (report : Report) : Prop where
  /-- Verified exactly when every requested value shows and every other property is the same. -/
  verified_iff : report.verified = some true ↔ (∃ shown, projection = some shown ∧ Holds requested shown) ∧
    ∀ property, wire.find? property = none → before.find? property = after.find? property
  /-- A controller that does what it was told is verified. -/
  exact : after = applied → report.verified = some true
  /-- Every requested value is sent. -/
  sent : ∀ field wanted, requested.find? field = some wanted → ∃ property, wire.find? property = some wanted
  /-- A requested field that shows another value is not verified. -/
  shows : ∀ shown, projection = some shown → ¬Holds requested shown → report.verified = some false
  /-- Nor is a requested property left at another value. -/
  left : projection ≠ none → ∀ property wanted, wire.find? property = some wanted →
    (after.find? property).bind value ≠ some wanted → report.verified = some false
  /-- Another property that moved is named. -/
  moved : projection ≠ none → ∀ property, wire.find? property = none →
    before.find? property ≠ after.find? property →
      report.verified = some false ∧ ∃ named, report.unexpectedChanges = some named ∧ property ∈ named
  /-- A refused record is not judged. -/
  refused : projection = none → report.verified = none ∧ report.readbackError ≠ none

/-- A report that follows `judge`, over a table of one set of rows, judges. -/
theorem judged_of_columns {β : Type} {rows : List FieldRow} {requested wire : SortedMap Text Json}
    {wireNames : List (Text × Text)} (hcolumns : Columns rows requested wire wireNames) {value : β → Option Json}
    {before after applied : SortedMap Text β} {projection : Option Json} {report : Report} (previous : Json)
    (beforeDigest afterDigest : RecordFingerprint)
    (hdigest : ∀ property, beforeDigest.find? property = afterDigest.find? property ↔
      before.find? property = after.find? property)
    (hrefused : projection = none → report.verified = none ∧ report.readbackError ≠ none)
    (hjudged : ∀ shown, projection = some shown →
      report.unexpectedChanges = some (judge requested wireNames previous shown beforeDigest afterDigest).unexpectedChanges ∧
      report.verified = some (judge requested wireNames previous shown beforeDigest afterDigest).verified)
    (hshown : ∀ shown, projection = some shown → ∀ field property wanted, ⟨field, property, some wanted⟩ ∈ rows →
      (shown.get field).getD .null = wanted → (after.find? property).bind value = some wanted)
    (hexact : after = applied → ∃ shown, projection = some shown ∧ Holds requested shown ∧
      ∀ property, wire.find? property = none → before.find? property = after.find? property) :
    Judged requested wire value before after applied projection report := by
  have huntouched : Untouched requested wireNames beforeDigest afterDigest ↔
      ∀ property, wire.find? property = none → before.find? property = after.find? property := by
    refine forall_congr' fun property => ?_
    rw [hcolumns.requested_iff, not_not, hdigest]
  have hverified : report.verified = some true ↔ (∃ shown, projection = some shown ∧ Holds requested shown) ∧
      ∀ property, wire.find? property = none → before.find? property = after.find? property := by
    constructor
    · intro htrue
      cases hprojection : projection with
      | none => rw [(hrefused hprojection).1] at htrue; cases htrue
      | some shown =>
        rw [(hjudged shown hprojection).2] at htrue
        obtain ⟨hholds, hrest⟩ := judge_verified_iff.1 (Option.some.inj htrue)
        exact ⟨⟨shown, rfl, hholds⟩, huntouched.1 hrest⟩
    · rintro ⟨⟨shown, hprojection, hholds⟩, hrest⟩
      rw [(hjudged shown hprojection).2, judge_verified_iff.2 ⟨hholds, huntouched.2 hrest⟩]
  refine ⟨hverified, fun heq => ?_, fun field wanted hwanted => ?_, fun shown hprojection hholds => ?_, fun haccepted property wanted hwanted hleft => ?_,
    fun haccepted property hother hmoved => ?_, hrefused⟩
  · obtain ⟨shown, hprojection, hholds, hrest⟩ := hexact heq
    exact hverified.2 ⟨⟨shown, hprojection, hholds⟩, hrest⟩
  · obtain ⟨wire, hrow⟩ := hcolumns.find?_requested.1 hwanted
    exact ⟨wire, hcolumns.find?_body.2 ⟨field, hrow⟩⟩
  · rw [(hjudged shown hprojection).2, judge_unverified_of_not_holds hholds]
  · obtain ⟨shown, hprojection⟩ := Option.ne_none_iff_exists'.1 haccepted
    obtain ⟨field, hrow⟩ := hcolumns.find?_body.1 hwanted
    rw [(hjudged shown hprojection).2]
    refine congrArg some (judge_unverified_of_not_holds fun hholds => hleft ?_)
    exact hshown shown hprojection field property wanted hrow
      (hholds field wanted (hcolumns.find?_requested.2 ⟨property, hrow⟩))
  · obtain ⟨shown, hprojection⟩ := Option.ne_none_iff_exists'.1 haccepted
    have hunasked : ¬Requested requested wireNames property := by rw [hcolumns.requested_iff, hother]; simp
    have hdiffers : beforeDigest.find? property ≠ afterDigest.find? property := fun h => hmoved ((hdigest property).1 h)
    rw [(hjudged shown hprojection).1, (hjudged shown hprojection).2]
    exact ⟨congrArg some (judge_unverified_of_moved hunasked hdiffers), _, rfl, mem_judge_unexpected.2 ⟨hunasked, hdiffers⟩⟩

end UnifiMcp
