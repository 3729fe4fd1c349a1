import UnifiMcp.Lib.JsonReader
import UnifiMcp.Mcp.FirewallUpdate
/-! # The coverage report of a policy deletion (unifi-mcp/src/tools.rs:9841-9875, 12288-12358)

A deletion preview holds a bounded summary of the policy, the details that fit a byte budget, and the
names of the properties that are in neither.

* `left_out_or_shown` — a property that parses is shown in full or counted as left out.
* `policy_preview_accounts` — **the report is true of every record whose properties parse**, and of others exactly when
  each property that does not parse is hidden behind the names of others. -/
namespace UnifiMcp
open Text

/-! ## The report -/

/-- `PolicyPreviewCoverage` (tools.rs:3896). -/
structure PolicyPreviewCoverage where
  details : SortedMap Text Json
  complete : Bool
  omittedFields : List Text
  omittedFieldsTruncated : Bool

def DETAIL_FIELDS : List Text :=
  ["source".toList, "destination".toList, "ipProtocolScope".toList, "connectionStateFilter".toList,
    "ipsecFilter".toList, "schedule".toList, "loggingEnabled".toList, "description".toList, "metadata".toList]

def SUMMARY_FIELDS : List Text :=
  ["id".toList, "name".toList, "enabled".toList, "action".toList, "index".toList]

def FIELD_LIMIT : Nat := 16

def DETAIL_BUDGET : Nat := 16 * 1024

/-- What the loop over `DETAIL_FIELDS` changes. -/
structure PreviewDetails where
  details : SortedMap Text Json
  detailBytes : Nat
  omittedDetails : List Text

/-- One name of `DETAIL_FIELDS` (tools.rs:12308-12318). -/
def PreviewDetails.add (record : SortedMap Text Json) (shown : PreviewDetails) (name : Text) : PreviewDetails :=
  match record.find? name with
  | none => shown
  | some value =>
    let bytes := byteLen name + byteLen value.write
    if shown.detailBytes + bytes ≤ DETAIL_BUDGET then
      { shown with detailBytes := shown.detailBytes + bytes, details := shown.details.insert name value }
    else { shown with omittedDetails := shown.omittedDetails ++ [name] }

def previewDetails (record : SortedMap Text Json) : PreviewDetails :=
  DETAIL_FIELDS.foldl (PreviewDetails.add record) ⟨.empty, 0, []⟩

/-- What the closure `add` changes. -/
structure OmittedFields where
  fields : List Text
  truncated : Bool

/-- `add` (tools.rs:12321). -/
def OmittedFields.add (omitted : OmittedFields) (name : Text) : OmittedFields :=
  if omitted.fields.length < FIELD_LIMIT then { omitted with fields := omitted.fields ++ [boundedText name] }
  else { omitted with truncated := true }

/-- The summary does not hold the value (tools.rs:12335-12348). -/
def unsummarized (name : Text) (value : Json) : Bool :=
  ((name = "name".toList || name = "action".toList) && value.asStr.any fun text => EVENT_MESSAGE_CEILING < text.length) ||
    !SUMMARY_FIELDS.any (· = name) ||
    (value ≠ .null &&
      if name = "enabled".toList then value.asBool.isNone
      else if name = "index".toList then ((asI64 value).bind toI32).isNone
      else value.asStr.isNone)

/-- One property of the record (tools.rs:12331-12351). -/
def OmittedFields.addProperty (omitted : OmittedFields) (property : Text × Json) : OmittedFields :=
  if DETAIL_FIELDS.any (· = property.1) then omitted
  else if unsummarized property.1 property.2 then omitted.add property.1 else omitted

/-- `policy_preview_coverage` (tools.rs:12290). -/
def policyPreviewCoverage (record : SortedMap Text Json) : PolicyPreviewCoverage :=
  let shown := previewDetails record
  let omitted := record.entries.foldl OmittedFields.addProperty (shown.omittedDetails.foldl OmittedFields.add ⟨[], false⟩)
  { details := shown.details
    complete := omitted.fields.isEmpty && !omitted.truncated
    omittedFields := omitted.fields
    omittedFieldsTruncated := omitted.truncated }

/-- The part of `FirewallPoliciesDeleteOutput` that describes the policy (tools.rs:9853-9855). -/
structure PolicyDeletionPreview where
  policy : PolicyView
  preview : PolicyPreviewCoverage

/-- The preview of the record that was read. -/
def policyDeletionPreview (fromStr : Text → Option Json) (policy : Text) (raw : SortedMap Text Text) :
    PolicyDeletionPreview :=
  let record := parsedRecord fromStr raw
  ⟨boundedPolicyView (policyViewFromRecord policy record), policyPreviewCoverage record⟩

/-! ## What a preview shows -/

/-- The summary gives the value back; it has no place for a null, which is an absent field. -/
def Summarizes (view : PolicyView) (name : Text) (value : Json) : Prop :=
  (name = "id".toList ∧ (value = .string view.id ∨ value = .null)) ∨
  (name = "name".toList ∧ value = optionalText view.name) ∨
  (name = "enabled".toList ∧ value = optionalBool view.enabled) ∨
  (name = "action".toList ∧ value = optionalText view.action) ∨
  (name = "index".toList ∧ (value = .null ∧ view.index = none ∨ ∃ index, view.index = some index ∧ asI64 value = some index))

/-- The property is in the preview: unchanged in the details, or in the summary. -/
def ShownInFull (fromStr : Text → Option Json) (output : PolicyDeletionPreview) (name text : Text) : Prop :=
  ∃ value, fromStr text = some value ∧
    (output.preview.details.find? name = some value ∨ Summarizes output.policy name value)

/-- What the report promises of the record that was read. -/
structure Accounted (fromStr : Text → Option Json) (raw : SortedMap Text Text) (output : PolicyDeletionPreview) : Prop where
  complete : output.preview.complete = true → ∀ name text, raw.find? name = some text →
    fromStr text ≠ some .null → ShownInFull fromStr output name text
  incomplete : output.preview.complete = false → ∀ name text, raw.find? name = some text →
    ¬ShownInFull fromStr output name text →
      boundedText name ∈ output.preview.omittedFields ∨ output.preview.omittedFieldsTruncated = true

/-- The names behind the report: the details over the budget, then the properties the summary does not
hold. -/
def leftOut (record : SortedMap Text Json) : List Text :=
  (previewDetails record).omittedDetails ++
    (record.entries.filter fun property =>
      !DETAIL_FIELDS.any (· = property.1) && unsummarized property.1 property.2).map Prod.fst

/-! ## The loops -/

section
variable {record : SortedMap Text Json}

theorem addDetail_keeps {shown : PreviewDetails} {name : Text} {value : Json} (hrecord : record.find? name = some value)
    (other : Text) (h : shown.details.find? name = some value ∨ name ∈ shown.omittedDetails) :
    (shown.add record other).details.find? name = some value ∨ name ∈ (shown.add record other).omittedDetails := by
  unfold PreviewDetails.add
  split
  · exact h
  · rename_i found hfound
    dsimp only
    split
    · refine h.imp_left fun hshown => ?_
      rw [SortedMap.find?_insert]
      split_ifs with hname
      · rw [← hrecord, hname, hfound]
      · exact hshown
    · exact h.imp_right (List.mem_append_left _)

theorem addDetail_accounts {shown : PreviewDetails} {name : Text} {value : Json} (hrecord : record.find? name = some value) :
    (shown.add record name).details.find? name = some value ∨ name ∈ (shown.add record name).omittedDetails := by
  simp only [PreviewDetails.add, hrecord]
  split
  · exact Or.inl (by rw [SortedMap.find?_insert, if_pos rfl])
  · exact Or.inr (List.mem_append_right _ List.mem_cons_self)

theorem foldl_addDetail_keeps {name : Text} {value : Json} (hrecord : record.find? name = some value) :
    ∀ (fields : List Text) {shown : PreviewDetails},
      shown.details.find? name = some value ∨ name ∈ shown.omittedDetails →
      (fields.foldl (.add record) shown).details.find? name = some value ∨
        name ∈ (fields.foldl (.add record) shown).omittedDetails
  | [], _, h => h
  | field :: fields, _, h => foldl_addDetail_keeps hrecord fields (addDetail_keeps hrecord field h)

/-- Every detail field of the record is shown unchanged, or named as over the budget. -/
theorem previewDetails_accounts {name : Text} {value : Json} (hrecord : record.find? name = some value)
    (hname : name ∈ DETAIL_FIELDS) :
    (previewDetails record).details.find? name = some value ∨ name ∈ (previewDetails record).omittedDetails := by
  obtain ⟨before, after, hfields⟩ := List.append_of_mem hname
  rw [previewDetails, hfields, List.foldl_append, List.foldl_cons]
  exact foldl_addDetail_keeps hrecord after (addDetail_accounts hrecord)

theorem foldl_addOmitted (names : List Text) : names.foldl OmittedFields.add ⟨[], false⟩ =
    ⟨(names.take FIELD_LIMIT).map boundedText, decide (FIELD_LIMIT < names.length)⟩ := by
  induction names using List.reverseRecOn with
  | nil => rfl
  | append_singleton names name ih =>
    rw [List.foldl_append, ih, List.foldl_cons, List.foldl_nil, OmittedFields.add, List.length_append,
      List.length_singleton, List.length_map, List.length_take]
    by_cases hroom : names.length < FIELD_LIMIT
    · rw [if_pos (by omega), List.take_of_length_le (by omega), List.take_of_length_le (by simp; omega)]
      simp
      omega
    · rw [if_neg (by omega), List.take_append_of_le_length (by omega)]
      simp
      omega

theorem foldl_addProperty (properties : List (Text × Json)) (omitted : OmittedFields) :
    properties.foldl OmittedFields.addProperty omitted = ((properties.filter fun property =>
      !DETAIL_FIELDS.any (· = property.1) && unsummarized property.1 property.2).map Prod.fst).foldl OmittedFields.add omitted := by
  rw [List.foldl_map, List.foldl_filter]
  congr 1
  funext omitted property
  rw [OmittedFields.addProperty]
  cases DETAIL_FIELDS.any (· = property.1) <;> simp

/-- The report names the first of the left out properties, and says when there are more. -/
theorem policyPreviewCoverage_eq : policyPreviewCoverage record =
    { details := (previewDetails record).details
      complete := (leftOut record).isEmpty
      omittedFields := ((leftOut record).take FIELD_LIMIT).map boundedText
      omittedFieldsTruncated := decide (FIELD_LIMIT < (leftOut record).length) } := by
  have homitted : record.entries.foldl OmittedFields.addProperty
      ((previewDetails record).omittedDetails.foldl OmittedFields.add ⟨[], false⟩) =
        ⟨((leftOut record).take FIELD_LIMIT).map boundedText, decide (FIELD_LIMIT < (leftOut record).length)⟩ := by
    rw [foldl_addProperty, ← List.foldl_append, ← leftOut, foldl_addOmitted]
  rw [policyPreviewCoverage]
  simp only [homitted, PolicyPreviewCoverage.mk.injEq, and_true, true_and]
  cases leftOut record <;> simp [FIELD_LIMIT]

/-! ## The report -/

theorem eq_string_of_asStr {value : Json} (h : value.asStr.isNone = false) : ∃ text, value = .string text := by
  obtain ⟨text, htext⟩ := Option.isSome_iff_exists.1 (Option.isNone_eq_false_iff.1 h)
  exact ⟨text, asStr_eq_some.1 htext⟩

/-- A short text, or a null, survives the bound. -/
theorem optionalText_bounded {value : Json} (hlong : (value.asStr.any fun text => EVENT_MESSAGE_CEILING < text.length) = false)
    (htyped : value = .null ∨ ∃ text, value = .string text) : value = optionalText (value.asStr.map boundedText) := by
  rcases htyped with rfl | ⟨text, rfl⟩
  · rfl
  · have hfits : text.length ≤ EVENT_MESSAGE_CEILING := not_lt.1 (of_decide_eq_false hlong)
    exact congrArg Json.string (if_pos hfits).symm

/-- A summary field with a readable value is in the summary. -/
theorem summarizes_of_not_unsummarized {policy name : Text} {value : Json} (hrecord : record.find? name = some value)
    (h : unsummarized name value = false) :
    Summarizes (boundedPolicyView (policyViewFromRecord policy record)) name value := by
  rw [unsummarized, Bool.or_eq_false_iff, Bool.or_eq_false_iff] at h
  obtain ⟨⟨hlong, hsummary⟩, htyped⟩ := h
  have hname : name ∈ SUMMARY_FIELDS := by simpa using hsummary
  simp only [SUMMARY_FIELDS, List.mem_cons, List.not_mem_nil, or_false] at hname
  simp only [Bool.and_eq_false_iff, decide_eq_false_iff_not, not_not] at htyped
  rcases hname with rfl | rfl | rfl | rfl | rfl
  · refine Or.inl ⟨rfl, htyped.symm.imp (fun hstring => ?_) id⟩
    rw [if_neg (by decide), if_neg (by decide)] at hstring
    obtain ⟨text, rfl⟩ := eq_string_of_asStr hstring
    have hid : (boundedPolicyView (policyViewFromRecord policy record)).id =
        ((record.find? "id".toList).bind Json.asStr).getD policy := rfl
    rw [hid, hrecord]
    rfl
  · rw [if_neg (by decide), if_neg (by decide)] at htyped
    refine Or.inr (Or.inl ⟨rfl, ?_⟩)
    have hview : (boundedPolicyView (policyViewFromRecord policy record)).name =
        ((record.find? "name".toList).bind Json.asStr).map boundedText := rfl
    rw [hview, hrecord]
    exact optionalText_bounded hlong (htyped.imp_right eq_string_of_asStr)
  · rw [if_pos rfl] at htyped
    refine Or.inr (Or.inr (Or.inl ⟨rfl, ?_⟩))
    have hview : (boundedPolicyView (policyViewFromRecord policy record)).enabled =
        (record.find? "enabled".toList).bind Json.asBool := rfl
    rw [hview, hrecord, Option.bind_some]
    rcases htyped with rfl | hbool
    · rfl
    · obtain ⟨b, hb⟩ := Option.isSome_iff_exists.1 (Option.isNone_eq_false_iff.1 hbool)
      rw [hb, asBool_eq_some.1 hb]
      rfl
  · rw [if_neg (by decide), if_neg (by decide)] at htyped
    have htyped := htyped.imp_right eq_string_of_asStr
    refine Or.inr (Or.inr (Or.inr (Or.inl ⟨rfl, ?_⟩)))
    have hview : (boundedPolicyView (policyViewFromRecord policy record)).action =
        ((record.find? "action".toList).bind (firewallAttributeName · "type".toList)).map boundedText := rfl
    have hattribute : firewallAttributeName value "type".toList = value.asStr := by
      rcases htyped with rfl | ⟨text, rfl⟩ <;> rfl
    rw [hview, hrecord, Option.bind_some, hattribute]
    exact optionalText_bounded hlong htyped
  · rw [if_neg (by decide), if_pos rfl] at htyped
    refine Or.inr (Or.inr (Or.inr (Or.inr ⟨rfl, ?_⟩)))
    have hview : (boundedPolicyView (policyViewFromRecord policy record)).index =
        ((record.find? "index".toList).bind asI64).bind toI32 := rfl
    rw [hview, hrecord, Option.bind_some]
    rcases htyped with rfl | hindex
    · exact Or.inl ⟨rfl, rfl⟩
    · obtain ⟨index, hindex⟩ := Option.isSome_iff_exists.1 (Option.isNone_eq_false_iff.1 hindex)
      obtain ⟨number, hnumber, hcast⟩ := Option.bind_eq_some_iff.1 hindex
      have hsame : number = index := by
        rw [toI32] at hcast
        split at hcast
        · exact Option.some.inj hcast
        · cases hcast
      exact Or.inr ⟨index, hindex, hsame ▸ hnumber⟩

/-- **A property that parses is shown in full or counted as left out.** -/
theorem left_out_or_shown {fromStr : Text → Option Json} {policy : Text} {raw : SortedMap Text Text} {name text : Text}
    {value : Json} (hraw : raw.find? name = some text) (hvalue : fromStr text = some value) :
    name ∈ leftOut (parsedRecord fromStr raw) ∨
      ShownInFull fromStr (policyDeletionPreview fromStr policy raw) name text := by
  have hrecord : (parsedRecord fromStr raw).find? name = some value := by
    rw [find?_parsedRecord, hraw, Option.bind_some, hvalue]
  by_cases hdetail : name ∈ DETAIL_FIELDS
  · rcases previewDetails_accounts hrecord hdetail with hshown | homitted
    · refine Or.inr ⟨value, hvalue, Or.inl ?_⟩
      rw [policyDeletionPreview, policyPreviewCoverage_eq]
      exact hshown
    · exact Or.inl (List.mem_append_left _ homitted)
  · cases hsummary : unsummarized name value with
    | true =>
      refine Or.inl (List.mem_append_right _ (List.mem_map.2 ⟨(name, value), List.mem_filter.2 ⟨?_, ?_⟩, rfl⟩))
      · exact SortedMap.find?_eq_some.1 hrecord
      · have hany : DETAIL_FIELDS.any (· = name) = false := List.any_eq_false.2 fun field hfield heq =>
          hdetail (of_decide_eq_true heq ▸ hfield)
        simp [hany, hsummary]
    | false => exact Or.inr ⟨value, hvalue, Or.inr (summarizes_of_not_unsummarized hrecord hsummary)⟩

end

theorem accounted_iff (fromStr : Text → Option Json) (policy : Text) (raw : SortedMap Text Text) :
    Accounted fromStr raw (policyDeletionPreview fromStr policy raw) ↔
      ∀ name text, raw.find? name = some text → fromStr text = none →
        FIELD_LIMIT < (leftOut (parsedRecord fromStr raw)).length ∨
          ∃ other ∈ leftOut (parsedRecord fromStr raw), boundedText other = boundedText name := by
  have hcoverage := @policyPreviewCoverage_eq (parsedRecord fromStr raw)
  have hpreview : (policyDeletionPreview fromStr policy raw).preview = policyPreviewCoverage (parsedRecord fromStr raw) := rfl
  constructor
  · rintro haccounted name text hraw hunread
    have hhidden : ¬ShownInFull fromStr (policyDeletionPreview fromStr policy raw) name text := by
      rintro ⟨value, hvalue, -⟩
      cases hunread.symm.trans hvalue
    cases hcomplete : (policyDeletionPreview fromStr policy raw).preview.complete with
    | true => exact absurd (haccounted.complete hcomplete name text hraw (hunread ▸ nofun)) hhidden
    | false =>
      have hnamed := haccounted.incomplete hcomplete name text hraw hhidden
      rw [hpreview, hcoverage] at hnamed
      refine hnamed.symm.imp of_decide_eq_true fun hmem => ?_
      obtain ⟨other, hother, heq⟩ := List.mem_map.1 hmem
      exact ⟨other, List.mem_of_mem_take hother, heq⟩
  · intro hunread
    have haccounted : ∀ name text, raw.find? name = some text →
        ¬ShownInFull fromStr (policyDeletionPreview fromStr policy raw) name text →
        FIELD_LIMIT < (leftOut (parsedRecord fromStr raw)).length ∨
          ∃ other ∈ leftOut (parsedRecord fromStr raw), boundedText other = boundedText name := by
      intro name text hraw hhidden
      cases hvalue : fromStr text with
      | none => exact hunread name text hraw hvalue
      | some value => exact Or.inr ⟨name, (left_out_or_shown hraw hvalue).resolve_right hhidden, rfl⟩
    refine ⟨fun hcomplete name text hraw _ => ?_, fun _ name text hraw hhidden => ?_⟩
    · rw [hpreview, hcoverage, List.isEmpty_iff] at hcomplete
      by_contra hhidden
      have hnamed := haccounted name text hraw hhidden
      simp [hcomplete] at hnamed
    · rw [hpreview, hcoverage]
      have hnamed := haccounted name text hraw hhidden
      by_cases hmore : FIELD_LIMIT < (leftOut (parsedRecord fromStr raw)).length
      · exact Or.inr (decide_eq_true hmore)
      · obtain ⟨other, hother, heq⟩ := hnamed.resolve_left hmore
        refine Or.inl (List.mem_map.2 ⟨other, ?_, heq⟩)
        rwa [List.take_of_length_le (not_lt.1 hmore)]

/-- **The report of a preview is true of a record whose properties all parse**, and of any other exactly when no property
that does not parse goes unmentioned: more than sixteen others are left out, or one of those has its name once shortened. -/
theorem policy_preview_accounts (fromStr : Text → Option Json) (policy : Text) (raw : SortedMap Text Text) :
    ((∀ name text, raw.find? name = some text → fromStr text ≠ none) →
      Accounted fromStr raw (policyDeletionPreview fromStr policy raw)) ∧
    (Accounted fromStr raw (policyDeletionPreview fromStr policy raw) ↔
      ∀ name text, raw.find? name = some text → fromStr text = none →
        FIELD_LIMIT < (leftOut (parsedRecord fromStr raw)).length ∨
          ∃ other ∈ leftOut (parsedRecord fromStr raw), boundedText other = boundedText name) := by
  refine ⟨fun hparsed => (accounted_iff fromStr policy raw).2 fun name text hraw hunread => ?_, accounted_iff fromStr policy raw⟩
  exact absurd hunread (hparsed name text hraw)

/-- `serde_json::from_str` of a property's text. -/
def propertyValue (text : Text) : Option Json := JsonReader.fromSlice (utf8 text)

/-- A policy whose properties all parse. -/
def parsedSnapshot : SortedMap Text Text :=
  (SortedMap.empty.insert "id".toList "\"p\"".toList).insert "schedule".toList "\x7b\"mode\":\"ALWAYS\"\x7d".toList

theorem policy_preview_accounts_parsed :
    Accounted propertyValue parsedSnapshot (policyDeletionPreview propertyValue "p".toList parsedSnapshot) := by
  refine (policy_preview_accounts propertyValue "p".toList _).1 fun name text hraw => ?_
  rw [parsedSnapshot, SortedMap.find?_insert, SortedMap.find?_insert] at hraw
  split at hraw
  · cases hraw
    decide +kernel
  · split at hraw
    · cases hraw
      decide +kernel
    · cases hraw

/-- A policy whose description is a lone surrogate: the client keeps such a text, and no reader gives it a value. -/
def surrogateSnapshot : SortedMap Text Text :=
  (SortedMap.empty.insert "id".toList "\"p\"".toList).insert "description".toList "\"\\ud83d\"".toList

/-- The preview of it is called complete, and neither shows nor names the description. -/
theorem policy_preview_silent :
    let output := policyDeletionPreview propertyValue "p".toList surrogateSnapshot
    output.preview.complete = true ∧ output.preview.omittedFields = [] ∧ output.preview.omittedFieldsTruncated = false ∧
      surrogateSnapshot.find? "description".toList = some "\"\\ud83d\"".toList ∧
      ¬ShownInFull propertyValue output "description".toList "\"\\ud83d\"".toList ∧
      ¬Accounted propertyValue surrogateSnapshot output := by
  intro output
  have hcomplete : output.preview.complete = true := by decide +kernel
  have hraw : surrogateSnapshot.find? "description".toList = some "\"\\ud83d\"".toList := by decide +kernel
  have hunread : propertyValue "\"\\ud83d\"".toList = none := by decide +kernel
  have hhidden : ¬ShownInFull propertyValue output "description".toList "\"\\ud83d\"".toList := by
    rintro ⟨value, hvalue, -⟩
    cases hunread.symm.trans hvalue
  refine ⟨hcomplete, by decide +kernel, by decide +kernel, hraw, hhidden, fun haccounted => hhidden ?_⟩
  exact haccounted.complete hcomplete _ _ hraw (hunread ▸ nofun)

end UnifiMcp
