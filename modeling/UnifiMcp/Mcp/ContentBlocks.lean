import UnifiMcp.Lib.Fallible
import UnifiMcp.Lib.LabelledBlocks
import UnifiMcp.Mcp.Mutation
/-! # Large fields in content blocks (unifi-mcp/src/tools.rs, unifi-mcp/src/tools/legacy_configuration.rs)

A result whose structured object is too long moves named fields into labelled blocks of text beside it and
marks them in the object.

* `content_blocks_lossless` — **every field can be read back from the object or from its one block, unless
  a field of the legacy result is a string that itself reads as JSON.**
* `content_blocks_ambiguous` — two legacy results, one with a list and one with its text, look the same, and so do two
  without a body and with the body `null`. -/
namespace UnifiMcp.ContentBlocks
open Text

/-! ## Results -/

/-- `STRUCTURED_CONTENT_TARGET_BYTES` (tools.rs:84). -/
def STRUCTURED_CONTENT_TARGET_BYTES : Nat := 48 * 1024

/-- `Value::to_string` of an object. -/
def objectText (object : SortedMap Text Json) : Text := (Json.object object.entries).write

/-- The structured text is longer than the target. -/
def tooLong (object : SortedMap Text Json) : Bool := STRUCTURED_CONTENT_TARGET_BYTES < byteLen (objectText object)

/-- What a member takes of the text of an object. -/
def memberSize (name : Text) (value : Json) : Nat := byteLen (Json.quote name) + byteLen value.write + 2

theorem byteLen_writeMembers (member : Text × Json) (members : List (Text × Json)) :
    byteLen (Json.writeMembers (member :: members)) + 1 =
      ((member :: members).map fun e => memberSize e.1 e.2).sum := by
  have hcolon : Char.utf8Size ':' = 1 := by decide
  have hcomma : Char.utf8Size ',' = 1 := by decide
  induction members generalizing member with
  | nil =>
    simp only [Json.writeMembers, memberSize, byteLen_append, byteLen_cons, List.map_cons, List.map_nil, List.sum_cons, List.sum_nil]
    omega
  | cons next members ih =>
    have hnext := ih next
    rw [List.map_cons, List.sum_cons, ← hnext]
    simp only [Json.writeMembers, memberSize, byteLen_append, byteLen_cons]
    omega

theorem byteLen_objectText {object : SortedMap Text Json} (h : object.entries ≠ []) :
    byteLen (objectText object) = 1 + object.total memberSize := by
  obtain ⟨entries, hsorted⟩ := object
  cases entries with
  | nil => exact absurd rfl h
  | cons member members =>
    have hmembers := byteLen_writeMembers member members
    simp only [objectText, Json.write, byteLen_cons, byteLen_append, byteLen_nil, SortedMap.total, ← hmembers]
    have hopen : Char.utf8Size '{' = 1 := by decide
    have hclose : Char.utf8Size '}' = 1 := by decide
    omega

/-- An object with a long member is too long. -/
theorem tooLong_of_find? {object : SortedMap Text Json} {name : Text} {value : Json} (hfound : object.find? name = some value)
    (hlong : STRUCTURED_CONTENT_TARGET_BYTES < value.write.length) : tooLong object = true := by
  have hmem : (name, value) ∈ object.entries := SortedMap.find?_eq_some.1 hfound
  have hmember : memberSize name value ≤ object.total memberSize := SortedMap.le_total_of_find? hfound
  have hwrite : value.write.length ≤ memberSize name value :=
    (length_le_byteLen _).trans (by unfold memberSize; omega)
  refine decide_eq_true ?_
  rw [byteLen_objectText (List.ne_nil_of_mem hmem)]
  omega

/-- `CallToolResult`: the structured object and the blocks of text. -/
structure CallToolResult where
  structuredContent : SortedMap Text Json
  content : List Text

/-- `CallToolResult::structured`, extended by labelled blocks. -/
def structuredWith (object : SortedMap Text Json) (blocks : List (Text × Text)) : CallToolResult :=
  ⟨object, objectText object :: blocks.map fun block => block.1 ++ ": ".toList ++ block.2⟩

/-! ## What a reader and the functions use of serde_json -/

/-- The types of `LegacyConfigurationResult`, each in an `Option`. -/
inductive FieldType where
  | value
  | flag
  | u16
  | u32
  | usize
  | string
  | operation
deriving DecidableEq

/-- The trees a `Value` can be and `from_str` with its law; a field of a type read by `from_value` and
serialized again. -/
structure SerdeJson where
  IsValue : Json → Prop
  fromStr : Text → Option Json
  fromStr_write : ∀ value, IsValue value → fromStr value.write = some value
  recode : FieldType → Json → Except Text Json
  recode_flag : ∀ value, recode .flag (.bool value) = .ok (.bool value)

/-- What the output declares a field to be: a `String`, a list or a record, or a `Value`. -/
inductive Declared where
  | string
  | json
  | value

/-- The text of a block, read as that type. -/
def Declared.read (serde : SerdeJson) : Declared → Text → Option Json
  | string, text => some (.string text)
  | json, text => serde.fromStr text
  | value, text => (serde.fromStr text).or (some (.string text))

/-- A field that may be moved, and how a block shows it. -/
structure LargeField where
  name : Text
  declared : Declared
  render : Json → Option Text

/-- `format!("\x7bfield\x7dInContent")`. -/
def LargeField.marker (field : LargeField) : Text := field.name ++ "InContent".toList

def LargeField.move (field : LargeField) : Blocks.Move Text Json Text := ⟨field.name, field.marker, field.render⟩

/-- `to_string`. -/
def jsonText (value : Json) : Option Text := some value.write

/-- `as_str`, or `to_string`. -/
def plainText (value : Json) : Option Text := some (value.asStr.getD value.write)

/-- What the moves leave of an output. -/
def moveFields (fields : List LargeField) (output : SortedMap Text Json) : Blocks.Moved Text Json Text :=
  Blocks.run tooLong (.bool true) (fields.map LargeField.move) ⟨output, []⟩

/-! ## The four functions -/

def ACCEPTED_FIELDS : List LargeField :=
  [⟨"responseBody".toList, .string, Json.asStr⟩, ⟨"readbackError".toList, .string, Json.asStr⟩]

/-- `structured_with_accepted_response` (tools.rs:13482), on the serialized output. -/
def structuredWithAcceptedResponse (output : SortedMap Text Json) : CallToolResult :=
  let moved := moveFields ACCEPTED_FIELDS output
  structuredWith moved.kept moved.blocks

def VOUCHER_FIELDS : List LargeField :=
  [⟨"responseBody".toList, .string, Json.asStr⟩, ⟨"readbackErrors".toList, .json, jsonText⟩,
    ⟨"vouchers".toList, .json, jsonText⟩]

/-- `structured_with_mutation_readback_errors` (tools.rs:13505), on the serialized output. -/
def structuredWithMutationReadbackErrors (output : SortedMap Text Json) : CallToolResult :=
  let moved := moveFields VOUCHER_FIELDS output
  structuredWith moved.kept moved.blocks

/-- `has_source_errors` (tools.rs:13396). -/
def hasSourceErrors (output : SortedMap Text Json) : Bool :=
  match output.find? "sourceErrors".toList with
  | some (.array errors) => !errors.isEmpty
  | _ => false

def statsFields (output : SortedMap Text Json) : List LargeField :=
  (if hasSourceErrors output then [⟨"sourceErrors".toList, .json, jsonText⟩] else []) ++
    [⟨"activity".toList, .json, jsonText⟩]

/-- `structured_stats` (tools.rs:13395), on the serialized output. -/
def structuredStats (output : SortedMap Text Json) : CallToolResult :=
  let moved := moveFields (statsFields output) output
  structuredWith moved.kept moved.blocks

/-- `LegacyConfigurationResult` (legacy_configuration.rs:29). -/
def LEGACY_RESULT : List (Text × FieldType) :=
  [("response".toList, .value), ("responseInContent".toList, .flag), ("offset".toList, .u32), ("limit".toList, .usize),
    ("totalCount".toList, .usize), ("nextOffset".toList, .usize), ("operation".toList, .operation), ("id".toList, .string),
    ("requested".toList, .value), ("requestedInContent".toList, .flag), ("submitted".toList, .flag),
    ("responseStatus".toList, .u16), ("responseBody".toList, .string), ("responseBodyInContent".toList, .flag),
    ("after".toList, .value), ("afterInContent".toList, .flag), ("verified".toList, .flag), ("verifiedAbsent".toList, .flag),
    ("readbackError".toList, .string), ("readbackErrorInContent".toList, .flag)]

def LEGACY_FIELDS : List LargeField :=
  [⟨"response".toList, .value, plainText⟩, ⟨"requested".toList, .value, plainText⟩, ⟨"responseBody".toList, .string, plainText⟩,
    ⟨"after".toList, .value, plainText⟩, ⟨"readbackError".toList, .string, plainText⟩]

/-- One field through `from_value` and `to_value`; a null is an absent field. -/
def recodeField (serde : SerdeJson) (object : SortedMap Text Json) (entry : Text × FieldType) :
    Except Text (Text × Option Json) :=
  match object.find? entry.1 with
  | none => .ok (entry.1, none)
  | some .null => .ok (entry.1, none)
  | some value => (serde.recode entry.2 value).map fun value => (entry.1, some value)

/-- `from_value` to `LegacyConfigurationResult` and back; a field it does not declare is dropped. -/
def recodeObject (serde : SerdeJson) (object : SortedMap Text Json) : Except Text (SortedMap Text Json) :=
  (LEGACY_RESULT.mapM (recodeField serde object)).map .ofOptions

/-- `result` (legacy_configuration.rs:520). -/
def result (serde : SerdeJson) (output : SortedMap Text Json) : Except McpError CallToolResult :=
  let moved := Blocks.loop tooLong (.bool true) (LEGACY_FIELDS.map LargeField.move) ⟨output, []⟩
  match recodeObject serde moved.kept with
  | .error error => .error (.internalError error)
  | .ok object => .ok (structuredWith object moved.blocks)

/-! ## Reading a result -/

/-- Null counts as absent. -/
def present : Option Json → Option Json
  | some .null => none
  | value => value

/-- The text of a block that carries the label. -/
def afterLabel (name block : Text) : Option Text :=
  if (name ++ ": ".toList).isPrefixOf block then some (block.drop (name.length + 2)) else none

/-- The texts under a label. -/
def labelled (result : CallToolResult) (name : Text) : List Text := result.content.filterMap (afterLabel name)

/-- A field from the structured object or, when it is marked there, from its block. -/
def readBack (serde : SerdeJson) (field : LargeField) (result : CallToolResult) : Option Json :=
  if result.structuredContent.find? field.marker = some (.bool true) then
    (labelled result field.name).head?.bind (field.declared.read serde)
  else result.structuredContent.find? field.name

/-- What a result keeps of an output. `settle` is what the function makes of an output it moves nothing from. -/
structure Lossless (serde : SerdeJson) (fields : List LargeField) (settle : SortedMap Text Json → SortedMap Text Json)
    (output : SortedMap Text Json) (result : CallToolResult) : Prop where
  reconstructs : ∀ field ∈ fields, present (readBack serde field result) = present (output.find? field.name)
  others : ∀ key, key ∉ Blocks.names (fields.map LargeField.move) →
    present (result.structuredContent.find? key) = present (output.find? key)
  marked : ∀ field ∈ fields, labelled result field.name ≠ [] ↔
    result.structuredContent.find? field.marker = some (.bool true) ∧ result.structuredContent.find? field.name = none
  single : ∀ field ∈ fields, (labelled result field.name).length ≤ 1
  needed : ∀ front field back, fields = front ++ field :: back → labelled result field.name ≠ [] →
    tooLong (moveFields front output).kept = true
  within : tooLong output = false → result = structuredWith (settle output) []

/-! ## Labels -/

/-- A name that no other label starts with. -/
structure PlainName (name : Text) : Prop where
  noColon : ':' ∉ name
  start : name.head? ≠ none ∧ name.head? ≠ some '\x7b'

instance (name : Text) : Decidable (PlainName name) :=
  decidable_of_iff (':' ∉ name ∧ name.head? ≠ none ∧ name.head? ≠ some '\x7b') ⟨fun h => ⟨h.1, h.2⟩, fun h => ⟨h.noColon, h.start⟩⟩

theorem afterLabel_label {name label text : Text} (hname : ':' ∉ name) (hlabel : ':' ∉ label) :
    afterLabel name (label ++ ": ".toList ++ text) = if label = name then some text else none := by
  have hlong : label ++ ": ".toList ++ text = label ++ ':' :: (' ' :: text) := by simp
  unfold afterLabel
  split_ifs with hprefix heq heq
  · rw [← heq, List.append_assoc, List.drop_append]
    simp
  · obtain ⟨rest, hrest⟩ := List.isPrefixOf_iff_prefix.1 hprefix
    have hsplit : name ++ ':' :: (' ' :: rest) = label ++ ':' :: (' ' :: text) := by
      rw [← hlong, ← hrest]
      simp
    have hfront := congrArg (List.takeWhile (· ≠ ':')) hsplit
    rw [takeWhile_append_of_not_mem hname, takeWhile_append_of_not_mem hlabel] at hfront
    exact absurd hfront.symm heq
  · refine absurd (List.isPrefixOf_iff_prefix.2 ?_) hprefix
    rw [heq]
    exact List.prefix_append _ _
  · rfl

theorem afterLabel_object {name : Text} (hname : PlainName name) (object : SortedMap Text Json) :
    afterLabel name (objectText object) = none := by
  refine if_neg fun hprefix => ?_
  obtain ⟨rest, hrest⟩ := List.isPrefixOf_iff_prefix.1 hprefix
  obtain ⟨hne, hbrace⟩ := hname.start
  cases name with
  | nil => exact hne rfl
  | cons c name =>
    have hhead := congrArg List.head? hrest
    simp only [objectText, Json.write, List.cons_append, List.head?_cons, Option.some.injEq] at hhead
    exact hbrace (by rw [List.head?_cons, hhead])

theorem labelled_structuredWith {name : Text} {object : SortedMap Text Json} {moved : Blocks.Moved Text Json Text}
    (hname : PlainName name) (hlabels : ∀ block ∈ moved.blocks, ':' ∉ block.1) :
    labelled (structuredWith object moved.blocks) name = moved.texts name := by
  rw [labelled, structuredWith, List.filterMap_cons, afterLabel_object hname, List.filterMap_map]
  refine List.filterMap_congr fun block hblock => (afterLabel_label hname.noColon (hlabels block hblock)).trans ?_
  by_cases hlabel : block.1 = name
  · rw [if_pos hlabel, if_pos hlabel]
  · rw [if_neg hlabel, if_neg hlabel]

/-! ## Moves -/

/-- The block of a value reads as the value; a value without a block is null. -/
def LargeField.Faithful (serde : SerdeJson) (field : LargeField) (value : Json) : Prop :=
  match field.render value with
  | some text => present (field.declared.read serde text) = present (some value)
  | none => value = .null

/-- What the names of a list of fields must be like. -/
structure Distinguished (fields : List LargeField) : Prop where
  apart : Blocks.Apart (fields.map LargeField.move)
  plain : ∀ field ∈ fields, PlainName field.name

section
variable {serde : SerdeJson} {fields : List LargeField} {output object : SortedMap Text Json}

theorem present_mark {found : Option Json} (h : present found = some (.bool true)) : found = some (.bool true) := by
  cases found with
  | none => cases h
  | some value => cases value <;> first | exact h | cases h

/-- **Moving fields loses nothing**, when every value reads back from its block. `object` is what the kept
fields become. -/
theorem lossless_of_faithful {settle : SortedMap Text Json → SortedMap Text Json} (hfields : Distinguished fields)
    (hmarkers : ∀ field ∈ fields, output.find? field.marker = none)
    (hfaithful : ∀ field ∈ fields, ∀ value, output.find? field.name = some value → field.Faithful serde value)
    (hobject : ∀ key, present (object.find? key) = present ((moveFields fields output).kept.find? key))
    (habsent : ∀ key, (moveFields fields output).kept.find? key = none → object.find? key = none)
    (hwithin : (moveFields fields output).kept = output → object = settle output) :
    Lossless serde fields settle output (structuredWith object (moveFields fields output).blocks) := by
  have hlabelled : ∀ field ∈ fields,
      labelled (structuredWith object (moveFields fields output).blocks) field.name = (moveFields fields output).texts field.name := by
    intro field hfield
    refine labelled_structuredWith (hfields.plain field hfield) fun block hblock => ?_
    rcases Blocks.run_labels _ hblock with hnil | ⟨move, hmove, hname⟩
    · cases hnil
    · obtain ⟨other, hother, rfl⟩ := List.mem_map.1 hmove
      rw [hname]
      exact (hfields.plain other hother).noColon
  have houtcome : ∀ field ∈ fields, Blocks.Outcome (.bool true) output (moveFields fields output) field.move :=
    fun field hfield => Blocks.run_outcome hfields.apart (List.mem_map_of_mem hfield) (hmarkers field hfield)
  have hunmarked : ∀ key, (moveFields fields output).kept.find? key = none → object.find? key ≠ some (.bool true) := by
    intro key hnone
    rw [habsent key hnone]
    exact nofun
  have hmarked : ∀ key, (moveFields fields output).kept.find? key = some (.bool true) → object.find? key = some (.bool true) := by
    intro key hmark
    refine present_mark ?_
    rw [hobject, hmark]
    rfl
  have hstatus : ∀ field ∈ fields, labelled (structuredWith object (moveFields fields output).blocks) field.name ≠ [] ↔
      object.find? field.marker = some (.bool true) ∧ object.find? field.name = none := by
    intro field hfield
    rw [hlabelled field hfield]
    rcases houtcome field hfield with ⟨-, hmarker, htexts⟩ | ⟨value, text, -, -, hname, hmarker, htexts⟩ | ⟨-, -, -, -, hmarker, htexts⟩
    · exact iff_of_false (fun h => h htexts) fun h => hunmarked _ hmarker h.1
    · have htexts : (moveFields fields output).texts field.name = [text] := htexts
      exact iff_of_true (by rw [htexts]; simp) ⟨hmarked _ hmarker, habsent _ hname⟩
    · exact iff_of_false (fun h => h htexts) fun h => hunmarked _ hmarker h.1
  constructor
  · intro field hfield
    unfold readBack
    rw [hlabelled field hfield]
    rcases houtcome field hfield with ⟨hname, hmarker, -⟩ | ⟨value, text, horiginal, hrender, -, hmarker, htexts⟩ |
      ⟨value, horiginal, hrender, hname, hmarker, -⟩
    · exact (congrArg present (if_neg (hunmarked _ hmarker))).trans ((hobject _).trans (congrArg present hname))
    · have hread := hfaithful field hfield value horiginal
      have hrender : field.render value = some text := hrender
      have htexts : (moveFields fields output).texts field.name = [text] := htexts
      have horiginal : output.find? field.name = some value := horiginal
      rw [LargeField.Faithful, hrender] at hread
      rw [horiginal, htexts]
      exact (congrArg present (if_pos (hmarked _ hmarker))).trans hread
    · have hnull := hfaithful field hfield value horiginal
      have hrender : field.render value = none := hrender
      have horiginal : output.find? field.name = some value := horiginal
      rw [LargeField.Faithful, hrender] at hnull
      rw [horiginal, hnull]
      have hnone : readBack serde field (structuredWith object (moveFields fields output).blocks) = none :=
        (if_neg (hunmarked _ hmarker)).trans (habsent _ hname)
      rw [← hlabelled field hfield]
      exact (congrArg present hnone).trans rfl
  · intro key hkey
    refine (hobject key).trans (congrArg present (Blocks.run_frame _ fun move hmove => ?_))
    exact ⟨fun h => hkey (List.mem_flatMap.2 ⟨move, hmove, by simp [h]⟩), fun h => hkey (List.mem_flatMap.2 ⟨move, hmove, by simp [h]⟩)⟩
  · exact hstatus
  · intro field hfield
    rw [hlabelled field hfield]
    rcases houtcome field hfield with ⟨-, -, htexts⟩ | ⟨value, text, -, -, -, -, htexts⟩ | ⟨-, -, -, -, -, htexts⟩
    · exact (congrArg List.length htexts).trans_le (Nat.zero_le _)
    · exact (congrArg List.length htexts).le
    · exact (congrArg List.length htexts).trans_le (Nat.zero_le _)
  · intro front field back hsplit hblock
    have hfield : field ∈ fields := by simp [hsplit]
    have hapart := hfields.apart
    have hmarker := hmarkers field hfield
    have hmoved : (moveFields fields output).kept.find? field.marker ≠ none := fun hnone =>
      hunmarked _ hnone ((hstatus field hfield).1 hblock).1
    rw [moveFields, hsplit, List.map_append, List.map_cons] at hmoved
    rw [hsplit, List.map_append, List.map_cons] at hapart
    exact Blocks.run_needed hapart hmarker hmoved
  · intro hsmall
    have hsame : moveFields fields output = ⟨output, []⟩ := Blocks.run_small hsmall _
    rw [hwithin (by rw [hsame]), hsame]

end

/-! ## Values that read back -/

section
variable {serde : SerdeJson} {field : LargeField} {value : Json}

theorem faithful_string (hdeclared : field.declared = .string) (hrender : field.render = Json.asStr)
    (h : value = .null ∨ ∃ text, value = .string text) : field.Faithful serde value := by
  rw [LargeField.Faithful, hdeclared, hrender]
  rcases h with rfl | ⟨text, rfl⟩ <;> rfl

theorem faithful_json (hdeclared : field.declared = .json) (hrender : field.render = jsonText) (h : serde.IsValue value) :
    field.Faithful serde value := by
  rw [LargeField.Faithful, hdeclared, hrender]
  exact congrArg present (serde.fromStr_write value h)

theorem faithful_plain_string (hdeclared : field.declared = .string) (hrender : field.render = plainText) (text : Text) :
    field.Faithful serde (.string text) := by
  rw [LargeField.Faithful, hdeclared, hrender]
  rfl

theorem faithful_plain_value (hdeclared : field.declared = .value) (hrender : field.render = plainText)
    (hvalue : serde.IsValue value) (htext : ∀ text, value = .string text → serde.fromStr text = none) :
    field.Faithful serde value := by
  rw [LargeField.Faithful, hdeclared, hrender]
  cases hstring : value.asStr with
  | some text =>
    obtain rfl := asStr_eq_some.1 hstring
    have hread : Declared.value.read serde text = some (.string text) := by
      rw [Declared.read, htext text rfl]
      rfl
    exact congrArg present hread
  | none =>
    have hread : Declared.value.read serde value.write = some value := by
      rw [Declared.read, serde.fromStr_write value hvalue]
      rfl
    have hplain : plainText value = some value.write := by rw [plainText, hstring]; rfl
    rw [hplain]
    exact congrArg present hread

end

/-! ## The outputs -/

/-- No field is marked before the function runs, as the callers pass it. -/
def Unmarked (fields : List LargeField) (output : SortedMap Text Json) : Prop :=
  ∀ field ∈ fields, output.find? field.marker = none

/-- The field holds a string, or a null for none. -/
def HoldsString (output : SortedMap Text Json) (name : Text) : Prop :=
  ∀ value, output.find? name = some value → value = .null ∨ ∃ text, value = .string text

/-- The field holds what a `Value` can be. -/
def HoldsValue (serde : SerdeJson) (output : SortedMap Text Json) (name : Text) : Prop :=
  ∀ value, output.find? name = some value → serde.IsValue value

/-- An output with the fields of `structured_with_accepted_response` as they are declared. -/
structure AcceptedOutput (output : SortedMap Text Json) : Prop where
  unmarked : Unmarked ACCEPTED_FIELDS output
  responseBody : HoldsString output "responseBody".toList
  readbackError : HoldsString output "readbackError".toList

/-- `VouchersCreateOutput` (tools.rs:4165). -/
structure VouchersCreateOutput (serde : SerdeJson) (output : SortedMap Text Json) : Prop where
  unmarked : Unmarked VOUCHER_FIELDS output
  responseBody : HoldsString output "responseBody".toList
  readbackErrors : HoldsValue serde output "readbackErrors".toList
  vouchers : HoldsValue serde output "vouchers".toList

/-- `StatsQueryOutput` (tools.rs:4572). -/
structure StatsQueryOutput (serde : SerdeJson) (output : SortedMap Text Json) : Prop where
  unmarked : Unmarked (statsFields output) output
  sourceErrors : HoldsValue serde output "sourceErrors".toList
  activity : HoldsValue serde output "activity".toList

/-- A value for `LegacyConfigurationResult` (legacy_configuration.rs:29): declared fields only, each with a
value of its type or null. -/
structure LegacyOutput (serde : SerdeJson) (output : SortedMap Text Json) : Prop where
  unmarked : Unmarked LEGACY_FIELDS output
  declared : ∀ name, output.find? name ≠ none → ∃ type, (name, type) ∈ LEGACY_RESULT
  typed : ∀ entry ∈ LEGACY_RESULT, ∀ value, output.find? entry.1 = some value → value ≠ .null →
    serde.recode entry.2 value = .ok value
  values : ∀ name ∈ ["response".toList, "requested".toList, "after".toList], HoldsValue serde output name
  texts : ∀ name ∈ ["responseBody".toList, "readbackError".toList], ∀ value, output.find? name = some value →
    ∃ text, value = .string text

/-- No `Value` of the legacy result is a string with the text of a JSON value. -/
def NoJsonStrings (serde : SerdeJson) (output : SortedMap Text Json) : Prop :=
  ∀ name ∈ ["response".toList, "requested".toList, "after".toList], ∀ text, output.find? name = some (.string text) →
    serde.fromStr text = none

/-- The object without its nulls. -/
def withoutNulls (object : SortedMap Text Json) : SortedMap Text Json := object.filterMap fun value => present (some value)

/-! ## The legacy result -/

theorem find?_withoutNulls (object : SortedMap Text Json) (key : Text) :
    (withoutNulls object).find? key = present (object.find? key) := by
  rw [withoutNulls, SortedMap.find?_filterMap]
  cases object.find? key <;> rfl

/-- Values of the declared types go through `from_value` and `to_value` unchanged; nulls go. -/
theorem recodeObject_ok {serde : SerdeJson} {object : SortedMap Text Json}
    (hdeclared : ∀ name, object.find? name ≠ none → ∃ type, (name, type) ∈ LEGACY_RESULT)
    (htyped : ∀ entry ∈ LEGACY_RESULT, ∀ value, object.find? entry.1 = some value → value ≠ .null →
      serde.recode entry.2 value = .ok value) :
    recodeObject serde object = .ok (withoutNulls object) := by
  have hfields : ∀ entry ∈ LEGACY_RESULT, recodeField serde object entry = .ok (entry.1, present (object.find? entry.1)) := by
    intro entry hentry
    unfold recodeField
    split
    · rename_i hnone
      rw [hnone]
      rfl
    · rename_i hnull
      rw [hnull]
      rfl
    · rename_i value hnull hvalue
      rw [htyped entry hentry value hvalue hnull, hvalue]
      cases value <;> first | rfl | exact absurd rfl hnull
  rw [recodeObject, Fallible.mapM_ok hfields]
  refine congrArg Except.ok (SortedMap.ext_find? fun key => ?_)
  have hnodup : ((LEGACY_RESULT.map fun entry => (entry.1, present (object.find? entry.1))).map Prod.fst).Nodup := by
    rw [List.map_map]
    show (LEGACY_RESULT.map Prod.fst).Nodup
    decide
  rw [find?_withoutNulls]
  by_cases hkey : ∃ type, (key, type) ∈ LEGACY_RESULT
  · obtain ⟨type, htype⟩ := hkey
    exact SortedMap.find?_ofOptions_of_mem hnodup (List.mem_map.2 ⟨(key, type), htype, rfl⟩)
  · have hnone : object.find? key = none := by
      by_contra hfound
      exact hkey (hdeclared key hfound)
    rw [hnone]
    refine SortedMap.find?_ofOptions_of_not_mem hnodup fun hmem => hkey ?_
    rw [List.map_map] at hmem
    obtain ⟨entry, hentry, rfl⟩ := List.mem_map.1 hmem
    exact ⟨entry.2, hentry⟩

theorem distinguished {fields : List LargeField} (hapart : (Blocks.names (fields.map LargeField.move)).Nodup)
    (hplain : (fields.all fun field => decide (PlainName field.name)) = true) : Distinguished fields :=
  ⟨hapart, fun field hfield => of_decide_eq_true (List.all_eq_true.1 hplain field hfield)⟩

theorem distinguished_accepted : Distinguished ACCEPTED_FIELDS := distinguished (by decide) (by decide +kernel)

theorem distinguished_vouchers : Distinguished VOUCHER_FIELDS := distinguished (by decide) (by decide +kernel)

theorem distinguished_stats (output : SortedMap Text Json) : Distinguished (statsFields output) := by
  unfold statsFields
  cases hasSourceErrors output
  · exact distinguished (by decide) (by decide +kernel)
  · exact distinguished (by decide) (by decide +kernel)

theorem distinguished_legacy : Distinguished LEGACY_FIELDS := distinguished (by decide) (by decide +kernel)

/-- A function that keeps what its moves leave. -/
theorem lossless_of_kept {serde : SerdeJson} {fields : List LargeField} {output : SortedMap Text Json}
    (hfields : Distinguished fields) (hunmarked : Unmarked fields output)
    (hfaithful : ∀ field ∈ fields, ∀ value, output.find? field.name = some value → field.Faithful serde value) :
    Lossless serde fields id output (structuredWith (moveFields fields output).kept (moveFields fields output).blocks) :=
  lossless_of_faithful hfields hunmarked hfaithful (fun _ => rfl) (fun _ h => h) (fun h => h)

theorem accepted_lossless {serde : SerdeJson} {output : SortedMap Text Json} (h : AcceptedOutput output) :
    Lossless serde ACCEPTED_FIELDS id output (structuredWithAcceptedResponse output) := by
  refine lossless_of_kept distinguished_accepted h.unmarked ?_
  simp only [ACCEPTED_FIELDS, List.forall_mem_cons]
  exact ⟨fun value hvalue => faithful_string rfl rfl (h.responseBody value hvalue),
    fun value hvalue => faithful_string rfl rfl (h.readbackError value hvalue), nofun⟩

theorem vouchers_lossless {serde : SerdeJson} {output : SortedMap Text Json} (h : VouchersCreateOutput serde output) :
    Lossless serde VOUCHER_FIELDS id output (structuredWithMutationReadbackErrors output) := by
  refine lossless_of_kept distinguished_vouchers h.unmarked ?_
  simp only [VOUCHER_FIELDS, List.forall_mem_cons]
  exact ⟨fun value hvalue => faithful_string rfl rfl (h.responseBody value hvalue),
    fun value hvalue => faithful_json rfl rfl (h.readbackErrors value hvalue),
    fun value hvalue => faithful_json rfl rfl (h.vouchers value hvalue), nofun⟩

theorem stats_lossless {serde : SerdeJson} {output : SortedMap Text Json} (h : StatsQueryOutput serde output) :
    Lossless serde (statsFields output) id output (structuredStats output) := by
  refine lossless_of_kept (distinguished_stats output) h.unmarked ?_
  unfold statsFields
  cases hasSourceErrors output
  · simp only [Bool.false_eq_true, if_false, List.nil_append, List.forall_mem_cons]
    exact ⟨fun value hvalue => faithful_json rfl rfl (h.activity value hvalue), nofun⟩
  · simp only [if_true, List.cons_append, List.nil_append, List.forall_mem_cons]
    exact ⟨fun value hvalue => faithful_json rfl rfl (h.sourceErrors value hvalue),
      fun value hvalue => faithful_json rfl rfl (h.activity value hvalue), nofun⟩

theorem result_eq (serde : SerdeJson) (output : SortedMap Text Json) : result serde output =
    match recodeObject serde (moveFields LEGACY_FIELDS output).kept with
    | .error error => .error (.internalError error)
    | .ok object => .ok (structuredWith object (moveFields LEGACY_FIELDS output).blocks) := by
  have hmoved : Blocks.loop tooLong (.bool true) (LEGACY_FIELDS.map LargeField.move) ⟨output, []⟩ =
      moveFields LEGACY_FIELDS output := Blocks.loop_eq_run _ _
  simp only [result, hmoved]

theorem result_of_recode {serde : SerdeJson} {output object : SortedMap Text Json}
    (h : recodeObject serde (moveFields LEGACY_FIELDS output).kept = .ok object) :
    result serde output = .ok (structuredWith object (moveFields LEGACY_FIELDS output).blocks) := by
  rw [result_eq, h]

theorem present_present (found : Option Json) : present (present found) = present found := by
  cases found with
  | none => rfl
  | some value => cases value <;> rfl

theorem legacy_markers : ∀ field ∈ LEGACY_FIELDS, (field.marker, FieldType.flag) ∈ LEGACY_RESULT :=
  fun field hfield => of_decide_eq_true (List.all_eq_true.1
    (by decide : (LEGACY_FIELDS.all fun field => decide ((field.marker, FieldType.flag) ∈ LEGACY_RESULT)) = true) field hfield)

theorem legacy_types {name : Text} {first second : FieldType} (hfirst : (name, first) ∈ LEGACY_RESULT)
    (hsecond : (name, second) ∈ LEGACY_RESULT) : first = second := by
  have hnodup : (LEGACY_RESULT.map Prod.fst).Nodup := by decide
  exact congrArg Prod.snd (List.inj_on_of_nodup_map hnodup hfirst hsecond rfl)

theorem legacy_lossless {serde : SerdeJson} {output : SortedMap Text Json} (h : LegacyOutput serde output)
    (hstrings : NoJsonStrings serde output) :
    ∃ shown, result serde output = .ok shown ∧ Lossless serde LEGACY_FIELDS withoutNulls output shown := by
  have hkept : ∀ key value, (moveFields LEGACY_FIELDS output).kept.find? key = some value →
      output.find? key = some value ∨ value = .bool true ∧ (key, FieldType.flag) ∈ LEGACY_RESULT := by
    intro key value hvalue
    rcases Blocks.run_kept _ hvalue with hsame | ⟨hmark, move, hmove, hkey⟩
    · exact Or.inl hsame
    · obtain ⟨field, hfield, rfl⟩ := List.mem_map.1 hmove
      exact Or.inr ⟨hmark, hkey ▸ legacy_markers field hfield⟩
  have hrecode : recodeObject serde (moveFields LEGACY_FIELDS output).kept =
      .ok (withoutNulls (moveFields LEGACY_FIELDS output).kept) := by
    refine recodeObject_ok ?_ ?_
    · intro name hname
      obtain ⟨value, hvalue⟩ := Option.ne_none_iff_exists'.1 hname
      rcases hkept name value hvalue with hsame | ⟨-, hflag⟩
      · exact h.declared name (by rw [hsame]; exact nofun)
      · exact ⟨.flag, hflag⟩
    · intro entry hentry value hvalue hnull
      rcases hkept entry.1 value hvalue with hsame | ⟨rfl, hflag⟩
      · exact h.typed entry hentry value hsame hnull
      · rw [@legacy_types _ entry.2 .flag hentry hflag]
        exact serde.recode_flag true
  have hvalues : ∀ name ∈ ["response".toList, "requested".toList, "after".toList], ∀ value,
      output.find? name = some value → LargeField.Faithful serde ⟨name, .value, plainText⟩ value := by
    intro name hname value hfound
    refine faithful_plain_value rfl rfl (h.values name hname value hfound) fun text htext => ?_
    exact hstrings name hname text (htext ▸ hfound)
  have htexts : ∀ name ∈ ["responseBody".toList, "readbackError".toList], ∀ value,
      output.find? name = some value → LargeField.Faithful serde ⟨name, .string, plainText⟩ value := by
    intro name hname value hfound
    obtain ⟨text, rfl⟩ := h.texts name hname value hfound
    exact faithful_plain_string rfl rfl text
  have hfaithful : ∀ field ∈ LEGACY_FIELDS, ∀ value, output.find? field.name = some value → field.Faithful serde value := by
    simp only [LEGACY_FIELDS, List.forall_mem_cons]
    exact ⟨hvalues _ (by simp), hvalues _ (by simp), htexts _ (by simp), hvalues _ (by simp), htexts _ (by simp), nofun⟩
  refine ⟨_, result_of_recode hrecode, lossless_of_faithful distinguished_legacy h.unmarked hfaithful ?_ ?_ ?_⟩
  · intro key
    rw [find?_withoutNulls, present_present]
  · intro key hnone
    rw [find?_withoutNulls, hnone]
    rfl
  · intro hsame
    rw [hsame]

/-- **No field is lost in content blocks**: each reads back from the object or from its one block, a block
stands for a marked field that is gone, and a field moves only out of an object that is too long. For the
legacy result, no value may be a string with the text of a JSON value. -/
theorem content_blocks_lossless (serde : SerdeJson) :
    (∀ output, AcceptedOutput output → Lossless serde ACCEPTED_FIELDS id output (structuredWithAcceptedResponse output)) ∧
    (∀ output, VouchersCreateOutput serde output →
      Lossless serde VOUCHER_FIELDS id output (structuredWithMutationReadbackErrors output)) ∧
    (∀ output, StatsQueryOutput serde output → Lossless serde (statsFields output) id output (structuredStats output)) ∧
    ∀ output, LegacyOutput serde output → NoJsonStrings serde output →
      ∃ shown, result serde output = .ok shown ∧ Lossless serde LEGACY_FIELDS withoutNulls output shown :=
  ⟨fun _ => accepted_lossless, fun _ => vouchers_lossless, fun _ => stats_lossless, fun _ => legacy_lossless⟩

/-! ## A list and its text -/

/-- An object with one member. -/
def single (name : Text) (value : Json) : SortedMap Text Json := ⟨[(name, value)], List.pairwise_singleton _ _⟩

theorem find?_single {name key : Text} {value : Json} : (single name value).find? key = if name = key then some value else none := by
  by_cases h : name = key
  · rw [if_pos h]
    exact SortedMap.find?_eq_some.2 (List.mem_singleton.2 (by rw [h]))
  · rw [if_neg h]
    exact SortedMap.find?_eq_none.2 fun value hmem => h (congrArg Prod.fst (List.mem_singleton.1 hmem)).symm

theorem length_lt_quote (t : Text) : t.length < (Json.quote t).length := by
  have hescape : ∀ c : Char, 1 ≤ (Json.escapeChar c).length := by
    intro c
    unfold Json.escapeChar
    split_ifs <;> simp
  have hbody : t.length ≤ (t.flatMap Json.escapeChar).length := by
    induction t with
    | nil => rfl
    | cons c t ih =>
      rw [List.flatMap_cons, List.length_append, List.length_cons]
      have := hescape c
      omega
  simp only [Json.quote, List.length_cons, List.length_append]
  omega

theorem step_single {name marker : Text} {render : Json → Option Text} {value : Json} {text : Text}
    (hlong : STRUCTURED_CONTENT_TARGET_BYTES < value.write.length) (htext : render value = some text) :
    Blocks.step tooLong (.bool true) ⟨single name value, []⟩ ⟨name, marker, render⟩ =
      ⟨single marker (.bool true), [(name, text)]⟩ := by
  have hfound : (single name value).find? name = some value := by rw [find?_single, if_pos rfl]
  rw [Blocks.step, if_pos (tooLong_of_find? hfound hlong)]
  simp only [Blocks.Moved.take, hfound, htext, List.nil_append]
  refine congrArg₂ Blocks.Moved.mk (SortedMap.ext_find? fun key => ?_) rfl
  rw [SortedMap.find?_insert, SortedMap.find?_retain, find?_single, find?_single]
  by_cases hmarker : key = marker
  · rw [if_pos hmarker, if_pos hmarker.symm]
  · rw [if_neg hmarker, if_neg (Ne.symm hmarker)]
    by_cases hname : key = name
    · rw [if_neg (by simp [hname])]
    · rw [if_neg (Ne.symm hname), ite_self]

/-- A legacy result that is only a long response. -/
theorem result_response {serde : SerdeJson} {value : Json} {text : Text} (hlong : STRUCTURED_CONTENT_TARGET_BYTES < value.write.length)
    (htext : plainText value = some text) :
    result serde (single "response".toList value) =
      .ok (structuredWith (withoutNulls (single "responseInContent".toList (.bool true))) [("response".toList, text)]) := by
  have hsmall : tooLong (single "responseInContent".toList (.bool true)) = false := by decide
  have hmoved : moveFields LEGACY_FIELDS (single "response".toList value) =
      ⟨single "responseInContent".toList (.bool true), [("response".toList, text)]⟩ := by
    have hmove : LargeField.move ⟨"response".toList, .value, plainText⟩ = ⟨"response".toList, "responseInContent".toList, plainText⟩ :=
      congrArg (Blocks.Move.mk "response".toList · plainText) (by decide)
    have hfields : LEGACY_FIELDS = ⟨"response".toList, .value, plainText⟩ :: LEGACY_FIELDS.tail := rfl
    rw [moveFields, hfields, List.map_cons, hmove, Blocks.run, List.foldl_cons, step_single hlong htext]
    exact Blocks.run_small hsmall _
  have hrecode : recodeObject serde (single "responseInContent".toList (.bool true)) =
      .ok (withoutNulls (single "responseInContent".toList (.bool true))) := by
    have hflag : ("responseInContent".toList, FieldType.flag) ∈ LEGACY_RESULT := by decide
    have hvalue : ∀ {key : Text} {value : Json}, (single "responseInContent".toList (.bool true)).find? key = some value →
        key = "responseInContent".toList ∧ value = .bool true := by
      intro key value hfound
      rw [find?_single] at hfound
      split at hfound
      · exact ⟨Eq.symm ‹_›, (Option.some.inj hfound).symm⟩
      · cases hfound
    refine recodeObject_ok (fun name hname => ?_) fun entry hentry value hfound _ => ?_
    · obtain ⟨value, hfound⟩ := Option.ne_none_iff_exists'.1 hname
      exact ⟨.flag, (hvalue hfound).1 ▸ hflag⟩
    · obtain ⟨hkey, rfl⟩ := hvalue hfound
      rw [@legacy_types _ entry.2 .flag hentry (hkey ▸ hflag)]
      exact serde.recode_flag true
  rw [result_of_recode (by rw [hmoved]; exact hrecode), hmoved]

def longText : Text := List.replicate STRUCTURED_CONTENT_TARGET_BYTES 'x'

/-- A list with a long string, longer than the target. -/
def listed : Json := .array [.string longText]

theorem listed_long : STRUCTURED_CONTENT_TARGET_BYTES < listed.write.length := by
  have hquote := length_lt_quote longText
  have hlong : longText.length = STRUCTURED_CONTENT_TARGET_BYTES := List.length_replicate
  have hwrite : listed.write = '[' :: (Json.quote longText ++ [']']) := rfl
  rw [hwrite, List.length_cons, List.length_append]
  omega

/-- `serde_json` on the list and on its text as a string. -/
def listedSerde : SerdeJson where
  IsValue value := value = listed ∨ value = .string listed.write
  fromStr text :=
    if text = listed.write then some listed
    else if text = Json.quote listed.write then some (.string listed.write)
    else none
  fromStr_write := by
    rintro value (rfl | rfl)
    · exact if_pos rfl
    · have hlonger : Json.quote listed.write ≠ listed.write := fun h =>
        absurd (congrArg List.length h) (length_lt_quote listed.write).ne'
      exact (if_neg hlonger).trans (if_pos rfl)
  recode _ value := .ok value
  recode_flag _ := rfl

theorem unmarked_single {fields : List LargeField} {name : Text} {value : Json}
    (h : (fields.all fun field => decide (name ≠ field.marker)) = true) : Unmarked fields (single name value) := by
  intro field hfield
  rw [find?_single, if_neg (of_decide_eq_true (List.all_eq_true.1 h field hfield))]

theorem eq_of_find?_single {name key : Text} {value found : Json} (h : (single name value).find? key = some found) :
    name = key ∧ value = found := by
  rw [find?_single] at h
  split at h
  · exact ⟨‹_›, Option.some.inj h⟩
  · cases h

theorem legacyOutput_response {value : Json} (hvalue : listedSerde.IsValue value) :
    LegacyOutput listedSerde (single "response".toList value) where
  unmarked := unmarked_single (by decide)
  declared name hname := by
    obtain ⟨found, hfound⟩ := Option.ne_none_iff_exists'.1 hname
    exact ⟨.value, (eq_of_find?_single hfound).1 ▸ List.mem_cons_self⟩
  typed _ _ _ _ _ := rfl
  values name _ found hfound := (eq_of_find?_single hfound).2 ▸ hvalue
  texts name hname found hfound := by
    have hother : "response".toList ∉ ["responseBody".toList, "readbackError".toList] := by decide
    exact absurd ((eq_of_find?_single hfound).1 ▸ hname) hother

/-- The lossless results at a long string and a long list. -/
theorem content_blocks_lossless_sample :
    Lossless listedSerde ACCEPTED_FIELDS id (single "responseBody".toList (.string longText))
      (structuredWithAcceptedResponse (single "responseBody".toList (.string longText))) ∧
    Lossless listedSerde VOUCHER_FIELDS id (single "vouchers".toList listed)
      (structuredWithMutationReadbackErrors (single "vouchers".toList listed)) ∧
    Lossless listedSerde (statsFields (single "activity".toList listed)) id (single "activity".toList listed)
      (structuredStats (single "activity".toList listed)) ∧
    ∃ shown, result listedSerde (single "response".toList listed) = .ok shown ∧
      Lossless listedSerde LEGACY_FIELDS withoutNulls (single "response".toList listed) shown := by
  have hvalue : ∀ {name key : Text}, HoldsValue listedSerde (single name listed) key := fun _ hfound =>
    Or.inl (eq_of_find?_single hfound).2.symm
  have hstring : ∀ {name key : Text} {value : Json}, (name = key → value = .string longText) →
      HoldsString (single name value) key := by
    intro name key value h found hfound
    obtain ⟨hkey, rfl⟩ := eq_of_find?_single hfound
    exact Or.inr ⟨longText, h hkey⟩
  have hactivity : hasSourceErrors (single "activity".toList listed) = false := rfl
  obtain ⟨haccepted, hvouchers, hstats, hlegacy⟩ := content_blocks_lossless listedSerde
  refine ⟨haccepted _ ⟨unmarked_single (by decide), hstring fun _ => rfl, hstring fun _ => rfl⟩,
    hvouchers _ ⟨unmarked_single (by decide), hstring fun h => absurd h (by decide +kernel), hvalue, hvalue⟩,
    hstats _ ⟨unmarked_single ?_, hvalue, hvalue⟩, hlegacy _ (legacyOutput_response (Or.inl rfl)) ?_⟩
  · rw [statsFields, hactivity]
    decide
  · intro name _ text hfound
    cases (eq_of_find?_single hfound).2

/-- A null body moves into a block as the text of a null would. -/
theorem result_body_null {serde : SerdeJson} {rest : SortedMap Text Json} {name : Text} {value : Json}
    (hresponse : rest.find? "response".toList = none) (hrequested : rest.find? "requested".toList = none)
    (hfound : rest.find? name = some value) (hname : name ≠ "responseBody".toList)
    (hlong : STRUCTURED_CONTENT_TARGET_BYTES < value.write.length) :
    result serde (rest.insert "responseBody".toList .null) =
      result serde (rest.insert "responseBody".toList (.string "null".toList)) := by
  have hmoves (body : Json) (hbody : plainText body = some "null".toList) :
      moveFields LEGACY_FIELDS (rest.insert "responseBody".toList body) =
        Blocks.run tooLong (.bool true) ((LEGACY_FIELDS.drop 3).map LargeField.move)
          ⟨Blocks.given (.bool true) rest (LargeField.move ⟨"responseBody".toList, .string, plainText⟩),
            [("responseBody".toList, "null".toList)]⟩ := by
    have hlonger : tooLong (rest.insert "responseBody".toList body) = true :=
      tooLong_of_find? (by rw [SortedMap.find?_insert, if_neg hname, hfound]) hlong
    have habsent (name : Text) (hne : name ≠ "responseBody".toList) (hnone : rest.find? name = none) :
        Blocks.step tooLong (.bool true) ⟨rest.insert "responseBody".toList body, []⟩ (LargeField.move ⟨name, .value, plainText⟩) =
          ⟨rest.insert "responseBody".toList body, []⟩ := by
      refine Blocks.step_of_absent ?_
      show (rest.insert "responseBody".toList body).find? name = none
      rw [SortedMap.find?_insert, if_neg hne, hnone]
    have hshown := @Blocks.step_insert Text Json Text _ tooLong (.bool true)
      (LargeField.move ⟨"responseBody".toList, .string, plainText⟩) rest [] body "null".toList hlonger hbody
    have hfields : LEGACY_FIELDS.map LargeField.move =
        LargeField.move ⟨"response".toList, .value, plainText⟩ :: LargeField.move ⟨"requested".toList, .value, plainText⟩ ::
          LargeField.move ⟨"responseBody".toList, .string, plainText⟩ :: (LEGACY_FIELDS.drop 3).map LargeField.move := rfl
    rw [moveFields, hfields, Blocks.run, List.foldl_cons, List.foldl_cons, List.foldl_cons,
      habsent "response".toList (by decide) hresponse, habsent "requested".toList (by decide) hrequested]
    exact congrArg (List.foldl _ · _) hshown
  rw [result_eq, result_eq, hmoves .null rfl, hmoves (.string "null".toList) rfl]

/-- **A list and its text as a string give the same result, and so do no body and the body `null`**: no reader tells
which of them it was. -/
theorem content_blocks_ambiguous :
    (LegacyOutput listedSerde (single "response".toList listed) ∧
      LegacyOutput listedSerde (single "response".toList (.string listed.write)) ∧
      result listedSerde (single "response".toList listed) = result listedSerde (single "response".toList (.string listed.write)) ∧
      present ((single "response".toList listed).find? "response".toList) ≠
        present ((single "response".toList (.string listed.write)).find? "response".toList)) ∧
    result listedSerde ((single "after".toList listed).insert "responseBody".toList .null) =
      result listedSerde ((single "after".toList listed).insert "responseBody".toList (.string "null".toList)) ∧
    present (((single "after".toList listed).insert "responseBody".toList .null).find? "responseBody".toList) ≠
      present (((single "after".toList listed).insert "responseBody".toList (.string "null".toList)).find? "responseBody".toList) := by
  have hstring : STRUCTURED_CONTENT_TARGET_BYTES < (Json.string listed.write).write.length :=
    listed_long.trans (length_lt_quote listed.write)
  have habsent (name : Text) (hname : "after".toList ≠ name) : (single "after".toList listed).find? name = none := by
    rw [find?_single, if_neg hname]
  refine ⟨⟨legacyOutput_response (Or.inl rfl), legacyOutput_response (Or.inr rfl), ?_, ?_⟩, ?_, ?_⟩
  · have hlist : plainText listed = some listed.write := rfl
    have htext : plainText (.string listed.write) = some listed.write := rfl
    rw [result_response listed_long hlist, result_response hstring htext]
  · rw [find?_single, find?_single, if_pos rfl, if_pos rfl]
    exact nofun
  · have hafter : (single "after".toList listed).find? "after".toList = some listed := by rw [find?_single, if_pos rfl]
    exact result_body_null (habsent _ (by decide)) (habsent _ (by decide)) hafter (by decide) listed_long
  · rw [SortedMap.find?_insert, SortedMap.find?_insert, if_pos rfl, if_pos rfl]
    exact nofun

end UnifiMcp.ContentBlocks
