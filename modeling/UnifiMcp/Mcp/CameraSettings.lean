import UnifiMcp.Lib.JsonRecord
import UnifiMcp.Mcp.RequestedJson
import UnifiMcp.Mcp.Tools
/-! # Camera settings and their verification (unifi-mcp/src/tools.rs)

`camera_settings_match` compares a readback with the patch and with the settings before it, as JSON trees.
`Verified` says leaf by leaf what it is for.

* `objectsMatch_iff` — what the comparison of three objects decides, field by field.
* `cameraSettingsMatch_iff` — **it holds when the leaves are right and the settings objects are there.** -/
namespace UnifiMcp
open Text

/-! ## Settings -/

inductive OsdField where
  | isNameEnabled
  | isDateEnabled
  | isLogoEnabled
  | isDebugEnabled
  | overlayLocation
deriving DecidableEq

inductive LedField where
  | isEnabled
  | welcomeLed
  | floodLed
deriving DecidableEq

inductive SmartDetectField where
  | objectTypes
  | audioTypes
deriving DecidableEq

/-- The fields of `CameraSettingsState`; those of the patch are among them. -/
inductive CameraField where
  | cameraId
  | name
  | micVolume
  | videoMode
  | hdrType
  | osdSettings
  | ledSettings
  | lcdMessage
  | smartDetectSettings
deriving DecidableEq

def osdLayout : Json.Layout OsdField where
  all := [.isNameEnabled, .isDateEnabled, .isLogoEnabled, .isDebugEnabled, .overlayLocation]
  name
    | .isNameEnabled => "isNameEnabled".toList
    | .isDateEnabled => "isDateEnabled".toList
    | .isLogoEnabled => "isLogoEnabled".toList
    | .isDebugEnabled => "isDebugEnabled".toList
    | .overlayLocation => "overlayLocation".toList
  complete field := by cases field <;> decide
  distinct := by decide

def ledLayout : Json.Layout LedField where
  all := [.isEnabled, .welcomeLed, .floodLed]
  name
    | .isEnabled => "isEnabled".toList
    | .welcomeLed => "welcomeLed".toList
    | .floodLed => "floodLed".toList
  complete field := by cases field <;> decide
  distinct := by decide

def smartDetectLayout : Json.Layout SmartDetectField where
  all := [.objectTypes, .audioTypes]
  name
    | .objectTypes => "objectTypes".toList
    | .audioTypes => "audioTypes".toList
  complete field := by cases field <;> decide
  distinct := by decide

def cameraLayout : Json.Layout CameraField where
  all := [.cameraId, .name, .micVolume, .videoMode, .hdrType, .osdSettings, .ledSettings, .lcdMessage, .smartDetectSettings]
  name
    | .cameraId => "cameraId".toList
    | .name => "name".toList
    | .micVolume => "micVolume".toList
    | .videoMode => "videoMode".toList
    | .hdrType => "hdrType".toList
    | .osdSettings => "osdSettings".toList
    | .ledSettings => "ledSettings".toList
    | .lcdMessage => "lcdMessage".toList
    | .smartDetectSettings => "smartDetectSettings".toList
  complete field := by cases field <;> decide
  distinct := by decide

/-- `ProtectOsdSettings` (protect.rs:152), and `CameraOsdChanges` with the same members. -/
structure OsdSettings where
  isNameEnabled : Option Bool
  isDateEnabled : Option Bool
  isLogoEnabled : Option Bool
  isDebugEnabled : Option Bool
  overlayLocation : Option Text

/-- `ProtectLedSettings` (protect.rs:168), and `CameraLedChanges`. -/
structure LedSettings where
  isEnabled : Option Bool
  welcomeLed : Option Bool
  floodLed : Option Bool

/-- `ProtectSmartDetectSettings` (protect.rs:180), and `CameraSmartDetectChanges`. -/
structure SmartDetectSettings where
  objectTypes : Option (List Text)
  audioTypes : Option (List Text)

/-- `ProtectCameraSettingsPatch` (protect.rs:189). -/
structure ProtectCameraSettingsPatch where
  name : Option Text
  osdSettings : Option OsdSettings
  ledSettings : Option LedSettings
  lcdMessage : Option Json
  micVolume : Option Nat
  videoMode : Option Text
  hdrType : Option Text
  smartDetectSettings : Option SmartDetectSettings

/-- `CameraSettingsState` (tools.rs:1704). -/
structure CameraSettingsState where
  cameraId : Text
  name : Option Text
  micVolume : Option Nat
  videoMode : Option Text
  hdrType : Option Text
  osdSettings : Option OsdSettings
  ledSettings : Option LedSettings
  lcdMessage : Option Json
  smartDetectSettings : Option SmartDetectSettings

/-! ## Serialization -/

def numberJson (n : Nat) : Json := .number (dec n)

def textsJson (texts : List Text) : Json := .array (texts.map .string)

def OsdSettings.value (settings : OsdSettings) : OsdField → Option Json
  | .isNameEnabled => settings.isNameEnabled.map .bool
  | .isDateEnabled => settings.isDateEnabled.map .bool
  | .isLogoEnabled => settings.isLogoEnabled.map .bool
  | .isDebugEnabled => settings.isDebugEnabled.map .bool
  | .overlayLocation => settings.overlayLocation.map .string

def LedSettings.value (settings : LedSettings) : LedField → Option Json
  | .isEnabled => settings.isEnabled.map .bool
  | .welcomeLed => settings.welcomeLed.map .bool
  | .floodLed => settings.floodLed.map .bool

def SmartDetectSettings.value (settings : SmartDetectSettings) : SmartDetectField → Option Json
  | .objectTypes => settings.objectTypes.map textsJson
  | .audioTypes => settings.audioTypes.map textsJson

/-- Members without a value are skipped. -/
def OsdSettings.toValue (settings : OsdSettings) : Json := osdLayout.object settings.value

def LedSettings.toValue (settings : LedSettings) : Json := ledLayout.object settings.value

def SmartDetectSettings.toValue (settings : SmartDetectSettings) : Json := smartDetectLayout.object settings.value

def ProtectCameraSettingsPatch.value (patch : ProtectCameraSettingsPatch) : CameraField → Option Json
  | .cameraId => none
  | .name => patch.name.map .string
  | .micVolume => patch.micVolume.map numberJson
  | .videoMode => patch.videoMode.map .string
  | .hdrType => patch.hdrType.map .string
  | .osdSettings => patch.osdSettings.map OsdSettings.toValue
  | .ledSettings => patch.ledSettings.map LedSettings.toValue
  | .lcdMessage => patch.lcdMessage
  | .smartDetectSettings => patch.smartDetectSettings.map SmartDetectSettings.toValue

/-- The members of a serialized patch; those without a value are skipped. -/
def ProtectCameraSettingsPatch.members (patch : ProtectCameraSettingsPatch) : List (Text × Json) :=
  cameraLayout.members patch.value

def CameraSettingsState.value (state : CameraSettingsState) : CameraField → Option Json
  | .cameraId => some (.string state.cameraId)
  | .name => state.name.map .string
  | .micVolume => state.micVolume.map numberJson
  | .videoMode => state.videoMode.map .string
  | .hdrType => state.hdrType.map .string
  | .osdSettings => state.osdSettings.map OsdSettings.toValue
  | .ledSettings => state.ledSettings.map LedSettings.toValue
  | .lcdMessage => state.lcdMessage
  | .smartDetectSettings => state.smartDetectSettings.map SmartDetectSettings.toValue

/-- The members of a serialized state; one without a value is null. -/
def CameraSettingsState.members (state : CameraSettingsState) : List (Text × Json) :=
  cameraLayout.members fun field => some ((state.value field).getD .null)

/-! ## The comparison -/

mutual

/-- `camera_settings_values_match` (tools.rs:11379), for a value that is requested. -/
def requestedValueMatches : Json → Json → Json → Bool
  | .object fields, .object old, .object new =>
    fieldsMatch fields (.object old) (.object new) &&
      (old.all fun entry => fields.any (·.1 = entry.1) || decide ((Json.object new).get entry.1 = some entry.2)) &&
      (new.all fun entry => fields.any (·.1 = entry.1) || decide ((Json.object old).get entry.1 = some entry.2))
  | .object _, _, _ => false
  | value, _, after => after = value

/-- Each requested member is there and matches. -/
def fieldsMatch : List (Text × Json) → Json → Json → Bool
  | [], _, _ => true
  | (key, wanted) :: fields, old, new =>
    (match new.get key with
      | some observed => requestedValueMatches wanted ((old.get key).getD .null) observed
      | none => false) && fieldsMatch fields old new

end

/-- `camera_settings_values_match` (tools.rs:11379). -/
def cameraSettingsValuesMatch (requested : Option Json) (before after : Json) : Bool :=
  match requested with
  | some requested => requestedValueMatches requested before after
  | none => before = after

/-- `camera_settings_match` (tools.rs:11347). -/
def cameraSettingsMatch (patch : ProtectCameraSettingsPatch) (before after : CameraSettingsState) : Bool :=
  let requestedLcd := (Json.object patch.members).get "lcdMessage".toList
  let requested := without "lcdMessage".toList patch.members
  let lcdMatches := requestedLcd.all fun wanted => after.lcdMessage.any fun observed => requestedJsonMatches wanted observed
  let beforeMembers := if requestedLcd.isSome then without "lcdMessage".toList before.members else before.members
  let afterMembers := if requestedLcd.isSome then without "lcdMessage".toList after.members else after.members
  lcdMatches && cameraSettingsValuesMatch (some (.object requested)) (.object beforeMembers) (.object afterMembers)

/-! ## Field by field -/

/-- What the comparison asks of one field of three objects. -/
def FieldMatches (wanted before after : Option Json) : Prop :=
  match wanted with
  | some wanted => ∃ observed, after = some observed ∧ requestedValueMatches wanted (before.getD .null) observed = true
  | none => before = after

theorem fieldsMatch_iff (fields : List (Text × Json)) (old new : Json) : fieldsMatch fields old new = true ↔
    ∀ key wanted, (key, wanted) ∈ fields →
      ∃ observed, new.get key = some observed ∧ requestedValueMatches wanted ((old.get key).getD .null) observed = true := by
  induction fields with
  | nil => simp [fieldsMatch]
  | cons field fields ih =>
    obtain ⟨key, wanted⟩ := field
    have hfirst : (match new.get key with
        | some observed => requestedValueMatches wanted ((old.get key).getD .null) observed
        | none => false) = true ↔
        ∃ observed, new.get key = some observed ∧ requestedValueMatches wanted ((old.get key).getD .null) observed = true := by
      cases new.get key <;> simp
    rw [fieldsMatch, Bool.and_eq_true, hfirst, ih]
    constructor
    · rintro ⟨hhead, htail⟩ key' wanted' hmem
      rcases List.mem_cons.1 hmem with heq | hmem
      · cases heq
        exact hhead
      · exact htail key' wanted' hmem
    · intro hall
      exact ⟨hall key wanted List.mem_cons_self, fun key' wanted' hmem => hall key' wanted' (List.mem_cons_of_mem _ hmem)⟩

section
variable {F : Type} (layout : Json.Layout F) {wanted before after : F → Option Json}

theorem any_members (field : F) :
    ((layout.members wanted).any fun entry => entry.1 = layout.name field) = true ↔ wanted field ≠ none := by
  rw [List.any_eq_true]
  constructor
  · rintro ⟨⟨key, value⟩, hmem, hkey⟩
    obtain ⟨found, hname, hvalue⟩ := layout.mem_members.1 hmem
    rw [layout.name_inj (hname.trans (of_decide_eq_true hkey))] at hvalue
    simp [hvalue]
  · intro hne
    obtain ⟨value, hvalue⟩ := Option.ne_none_iff_exists'.1 hne
    exact ⟨_, layout.mem_members.2 ⟨field, rfl, hvalue⟩, decide_eq_true rfl⟩

/-- The members that are not requested are in the other object too. -/
theorem rest_iff : ((layout.members before).all fun entry =>
      (layout.members wanted).any (·.1 = entry.1) || decide ((layout.object after).get entry.1 = some entry.2)) = true ↔
    ∀ field, wanted field = none → ∀ value, before field = some value → after field = some value := by
  rw [List.all_eq_true]
  constructor
  · intro h field hwanted value hvalue
    have hentry := h _ (layout.mem_members.2 ⟨field, rfl, hvalue⟩)
    rw [Bool.or_eq_true, any_members, decide_eq_true_eq, layout.get_object] at hentry
    exact hentry.resolve_left (not_not.2 hwanted)
  · rintro h ⟨key, value⟩ hmem
    obtain ⟨field, rfl, hvalue⟩ := layout.mem_members.1 hmem
    rw [Bool.or_eq_true, any_members, decide_eq_true_eq, layout.get_object]
    by_cases hwanted : wanted field = none
    · exact Or.inr (h field hwanted value hvalue)
    · exact Or.inl hwanted

/-- **The comparison of three objects, field by field.** -/
theorem objectsMatch_iff :
    requestedValueMatches (layout.object wanted) (layout.object before) (layout.object after) = true ↔
      ∀ field, FieldMatches (wanted field) (before field) (after field) := by
  have hobject : requestedValueMatches (layout.object wanted) (layout.object before) (layout.object after) =
      (fieldsMatch (layout.members wanted) (layout.object before) (layout.object after) &&
        ((layout.members before).all fun entry =>
          (layout.members wanted).any (·.1 = entry.1) || decide ((layout.object after).get entry.1 = some entry.2)) &&
        ((layout.members after).all fun entry =>
          (layout.members wanted).any (·.1 = entry.1) || decide ((layout.object before).get entry.1 = some entry.2))) := by
    rw [Json.Layout.object, Json.Layout.object, Json.Layout.object, requestedValueMatches]
  rw [hobject, Bool.and_eq_true, Bool.and_eq_true, fieldsMatch_iff, rest_iff, rest_iff]
  constructor
  · rintro ⟨⟨hfields, hold⟩, hnew⟩ field
    cases hwanted : wanted field with
    | some value =>
      have hfield := hfields _ value (layout.mem_members.2 ⟨field, rfl, hwanted⟩)
      rwa [layout.get_object, layout.get_object] at hfield
    | none =>
      show before field = after field
      cases hbefore : before field with
      | some value => exact (hold field hwanted value hbefore).symm
      | none =>
        cases hafter : after field with
        | none => rfl
        | some value => rw [hnew field hwanted value hafter] at hbefore; cases hbefore
  · intro h
    refine ⟨⟨fun key value hmem => ?_, fun field hwanted value hvalue => ?_⟩, fun field hwanted value hvalue => ?_⟩
    · obtain ⟨field, rfl, hvalue⟩ := layout.mem_members.1 hmem
      have hfield := h field
      rw [hvalue] at hfield
      rwa [layout.get_object, layout.get_object]
    · have hfield := h field
      rw [hwanted] at hfield
      exact hfield.symm.trans hvalue
    · have hfield := h field
      rw [hwanted] at hfield
      exact Eq.trans hfield hvalue

end

/-! ## Leaf by leaf -/

/-- What is asked of one leaf: the requested value, or no change. An absent value counts as null. -/
def LeafHolds (wanted before after : Option Json) : Prop :=
  match wanted with
  | some wanted => after.getD .null = wanted
  | none => after.getD .null = before.getD .null

/-- A value that a settings member can have: neither null nor an object. -/
def Plain : Json → Prop
  | .null => False
  | .object _ => False
  | _ => True

theorem requestedValueMatches_plain {wanted before after : Json} (h : Plain wanted) :
    requestedValueMatches wanted before after = true ↔ after = wanted := by
  cases wanted with
  | null | object => cases h
  | bool | number | string | array => simp [requestedValueMatches]

/-- With plain values, an absent value is not mistaken for another. -/
theorem getD_null_inj {a b : Option Json} (ha : ∀ value ∈ a, Plain value) (hb : ∀ value ∈ b, Plain value) :
    a.getD .null = b.getD .null ↔ a = b := by
  refine ⟨fun h => ?_, fun h => by rw [h]⟩
  cases a with
  | none =>
    cases b with
    | none => rfl
    | some value =>
      have hnull : Json.null = value := h
      have hplain := hb value rfl
      rw [← hnull] at hplain
      cases hplain
  | some value =>
    cases b with
    | none =>
      have hnull : value = Json.null := h
      have hplain := ha value rfl
      rw [hnull] at hplain
      cases hplain
    | some other => exact congrArg some h

theorem fieldMatches_plain {wanted before after : Option Json} (hwanted : ∀ value ∈ wanted, Plain value)
    (hbefore : ∀ value ∈ before, Plain value) (hafter : ∀ value ∈ after, Plain value) :
    FieldMatches wanted before after ↔ LeafHolds wanted before after := by
  cases wanted with
  | some value =>
    have hplain := hwanted value rfl
    have hequal : LeafHolds (some value) before after ↔ after = some value := getD_null_inj (b := some value) hafter hwanted
    rw [hequal]
    constructor
    · rintro ⟨observed, rfl, hmatch⟩
      rw [(requestedValueMatches_plain hplain).1 hmatch]
    · rintro rfl
      exact ⟨value, rfl, (requestedValueMatches_plain hplain).2 rfl⟩
  | none => exact eq_comm.trans (getD_null_inj hafter hbefore).symm

/-- A member of the state that is not a settings object. -/
theorem fieldMatches_scalar {wanted before after : Option Json} (hwanted : ∀ value ∈ wanted, Plain value) :
    FieldMatches wanted (some (before.getD .null)) (some (after.getD .null)) ↔ LeafHolds wanted before after := by
  cases wanted with
  | some value => simp [FieldMatches, LeafHolds, requestedValueMatches_plain (hwanted value rfl)]
  | none => exact ⟨fun h => (Option.some.inj h).symm, fun h => congrArg some h.symm⟩

/-- A settings object that is requested is there before and after; any other is there before if it is after. -/
def Reported {S : Type} (wanted before after : Option S) : Prop :=
  match wanted with
  | some _ => before.isSome ∧ after.isSome
  | none => before.isSome ↔ after.isSome

/-- A settings object: its leaves hold, and it is there. -/
theorem fieldMatches_settings {F S : Type} (layout : Json.Layout F) {value : S → F → Option Json}
    (hplain : ∀ settings field, ∀ found ∈ value settings field, Plain found) (wanted before after : Option S) :
    FieldMatches (wanted.map fun settings => layout.object (value settings))
        (some ((before.map fun settings => layout.object (value settings)).getD .null))
        (some ((after.map fun settings => layout.object (value settings)).getD .null)) ↔
      (∀ field, LeafHolds (wanted.bind fun settings => value settings field) (before.bind fun settings => value settings field)
        (after.bind fun settings => value settings field)) ∧ Reported wanted before after := by
  cases wanted with
  | some settings =>
    have hwanted : FieldMatches (some (layout.object (value settings)))
        (some ((before.map fun settings => layout.object (value settings)).getD .null))
        (some ((after.map fun settings => layout.object (value settings)).getD .null)) ↔
        requestedValueMatches (layout.object (value settings))
          ((before.map fun settings => layout.object (value settings)).getD .null)
          ((after.map fun settings => layout.object (value settings)).getD .null) = true := by
      simp [FieldMatches]
    rw [Option.map_some, hwanted]
    cases before with
    | none => simp [requestedValueMatches, Reported, Json.Layout.object]
    | some old =>
      cases after with
      | none => simp [requestedValueMatches, Reported, Json.Layout.object]
      | some new =>
        rw [Option.map_some, Option.map_some, Option.getD_some, Option.getD_some, objectsMatch_iff]
        have hfield (field : F) := fieldMatches_plain (hplain settings field) (hplain old field) (hplain new field)
        simp only [hfield, Reported, Option.isSome_some, and_self, and_true, Option.bind_some]
  | none =>
    cases before with
    | none => cases after <;> simp [FieldMatches, LeafHolds, Reported, Json.Layout.object]
    | some old =>
      cases after with
      | none => simp [FieldMatches, Reported, Json.Layout.object]
      | some new =>
        have hfield (field : F) := @fieldMatches_plain none _ _ (by simp) (hplain old field) (hplain new field)
        show some (layout.object (value old)) = some (layout.object (value new)) ↔ _
        rw [Option.some_inj, layout.object_inj]
        simp only [← hfield, FieldMatches, Reported, Option.isSome_some, iff_self, and_true, Option.bind_some, Option.bind_none]

theorem OsdSettings.value_plain (settings : OsdSettings) (field : OsdField) : ∀ found ∈ settings.value field, Plain found := by
  intro found hfound
  cases field <;> obtain ⟨_, -, rfl⟩ := Option.map_eq_some_iff.1 hfound <;> trivial

theorem LedSettings.value_plain (settings : LedSettings) (field : LedField) : ∀ found ∈ settings.value field, Plain found := by
  intro found hfound
  cases field <;> obtain ⟨_, -, rfl⟩ := Option.map_eq_some_iff.1 hfound <;> trivial

theorem SmartDetectSettings.value_plain (settings : SmartDetectSettings) (field : SmartDetectField) :
    ∀ found ∈ settings.value field, Plain found := by
  intro found hfound
  cases field <;> obtain ⟨_, -, rfl⟩ := Option.map_eq_some_iff.1 hfound <;> trivial

/-! ## What the verification is for -/

/-- The fields of the state that are single leaves, without the LCD message. -/
def CameraField.IsScalar (field : CameraField) : Prop :=
  field ≠ .osdSettings ∧ field ≠ .ledSettings ∧ field ≠ .lcdMessage ∧ field ≠ .smartDetectSettings

/-- What is asked of the LCD message: the requested members with an equivalent value each, or no change. -/
def LcdHolds (wanted before after : Option Json) : Prop :=
  match wanted with
  | some wanted => Matched wanted (after.getD .null)
  | none => LeafHolds none before after

/-- Every leaf the patch names holds the requested value, and every other leaf is as it was. -/
structure Verified (patch : ProtectCameraSettingsPatch) (before after : CameraSettingsState) : Prop where
  scalars : ∀ field : CameraField, field.IsScalar → LeafHolds (patch.value field) (before.value field) (after.value field)
  osdSettings : ∀ field, LeafHolds (patch.osdSettings.bind fun settings => settings.value field)
    (before.osdSettings.bind fun settings => settings.value field) (after.osdSettings.bind fun settings => settings.value field)
  ledSettings : ∀ field, LeafHolds (patch.ledSettings.bind fun settings => settings.value field)
    (before.ledSettings.bind fun settings => settings.value field) (after.ledSettings.bind fun settings => settings.value field)
  smartDetectSettings : ∀ field, LeafHolds (patch.smartDetectSettings.bind fun settings => settings.value field)
    (before.smartDetectSettings.bind fun settings => settings.value field)
    (after.smartDetectSettings.bind fun settings => settings.value field)
  lcdMessage : LcdHolds patch.lcdMessage before.lcdMessage after.lcdMessage

/-- The settings objects, and an LCD message that is requested, are there. -/
structure ObjectsReported (patch : ProtectCameraSettingsPatch) (before after : CameraSettingsState) : Prop where
  osdSettings : Reported patch.osdSettings before.osdSettings after.osdSettings
  ledSettings : Reported patch.ledSettings before.ledSettings after.ledSettings
  smartDetectSettings : Reported patch.smartDetectSettings before.smartDetectSettings after.smartDetectSettings
  lcdMessage : patch.lcdMessage ≠ none → after.lcdMessage ≠ none

/-- What the code compares the LCD message by. -/
def LcdMatches (wanted before after : Option Json) : Prop :=
  match wanted with
  | some wanted => ∃ observed, after = some observed ∧ requestedJsonMatches wanted observed = true
  | none => before.getD .null = after.getD .null

/-- The comparison, field by field. -/
theorem cameraSettingsMatch_fields (patch : ProtectCameraSettingsPatch) (before after : CameraSettingsState) :
    cameraSettingsMatch patch before after = true ↔ LcdMatches patch.lcdMessage before.lcdMessage after.lcdMessage ∧
      ∀ field ≠ CameraField.lcdMessage, FieldMatches (patch.value field) (some ((before.value field).getD .null))
        (some ((after.value field).getD .null)) := by
  have hlcd : (Json.object patch.members).get "lcdMessage".toList = patch.lcdMessage := cameraLayout.get_object .lcdMessage
  have hwithout (value : CameraField → Option Json) : without "lcdMessage".toList (cameraLayout.members value) =
      cameraLayout.members fun found => if found = .lcdMessage then none else value found := cameraLayout.without_members .lcdMessage
  unfold cameraSettingsMatch
  dsimp only
  rw [hlcd, ProtectCameraSettingsPatch.members, hwithout, cameraSettingsValuesMatch, Bool.and_eq_true]
  cases hrequested : patch.lcdMessage with
  | some wanted =>
    have hfound : (some wanted).isSome = true := rfl
    rw [if_pos hfound, if_pos hfound, CameraSettingsState.members, CameraSettingsState.members, hwithout, hwithout]
    refine and_congr (by cases after.lcdMessage <;> simp [LcdMatches]) ((objectsMatch_iff cameraLayout).trans ?_)
    constructor
    · intro h field hfield
      have hmatch := h field
      rwa [if_neg hfield, if_neg hfield, if_neg hfield] at hmatch
    · intro h field
      by_cases hfield : field = .lcdMessage
      · rw [if_pos hfield, if_pos hfield, if_pos hfield]
        rfl
      · rw [if_neg hfield, if_neg hfield, if_neg hfield]
        exact h field hfield
  | none =>
    have hfound : ¬ (none : Option Json).isSome = true := by decide
    rw [if_neg hfound, if_neg hfound, CameraSettingsState.members, CameraSettingsState.members]
    refine (and_iff_right rfl).trans ((objectsMatch_iff cameraLayout).trans ?_)
    constructor
    · intro h
      refine ⟨Option.some.inj (h .lcdMessage), fun field hfield => ?_⟩
      have hmatch := h field
      rwa [if_neg hfield] at hmatch
    · rintro ⟨hsame, h⟩ field
      by_cases hfield : field = .lcdMessage
      · rw [if_pos hfield, hfield]
        exact congrArg some hsame
      · rw [if_neg hfield]
        exact h field hfield

theorem lcdMatches_iff {wanted before after : Option Json} (h : ∀ message ∈ wanted, message.Distinct) :
    LcdMatches wanted before after ↔ LcdHolds wanted before after ∧ (wanted ≠ none → after ≠ none) := by
  cases wanted with
  | some message =>
    have hmatch (observed : Json) := requestedJsonMatches_iff message observed (h message rfl)
    cases after <;> simp [LcdMatches, LcdHolds, hmatch]
  | none => simp [LcdMatches, LcdHolds, LeafHolds, eq_comm]

/-- **The comparison holds when the leaves are right and the settings objects are there.** -/
theorem cameraSettingsMatch_iff (patch : ProtectCameraSettingsPatch) (before after : CameraSettingsState)
    (h : ∀ message ∈ patch.lcdMessage, message.Distinct) :
    cameraSettingsMatch patch before after = true ↔ Verified patch before after ∧ ObjectsReported patch before after := by
  have hosd := fieldMatches_settings osdLayout OsdSettings.value_plain patch.osdSettings before.osdSettings after.osdSettings
  have hled := fieldMatches_settings ledLayout LedSettings.value_plain patch.ledSettings before.ledSettings after.ledSettings
  have hsmart := fieldMatches_settings smartDetectLayout SmartDetectSettings.value_plain patch.smartDetectSettings
    before.smartDetectSettings after.smartDetectSettings
  have hplain (field : CameraField) (hfield : field.IsScalar) : ∀ found ∈ patch.value field, Plain found := by
    intro found hfound
    obtain ⟨hosd, hled, hlcd, hsmart⟩ := hfield
    cases field with
    | cameraId => cases hfound
    | osdSettings => exact absurd rfl hosd
    | ledSettings => exact absurd rfl hled
    | lcdMessage => exact absurd rfl hlcd
    | smartDetectSettings => exact absurd rfl hsmart
    | name | micVolume | videoMode | hdrType =>
      obtain ⟨_, -, rfl⟩ := Option.map_eq_some_iff.1 hfound
      trivial
  rw [cameraSettingsMatch_fields, lcdMatches_iff h]
  constructor
  · rintro ⟨⟨hlcd, hlcdReported⟩, hfields⟩
    obtain ⟨hosdLeaves, hosdReported⟩ := hosd.1 (hfields .osdSettings (by decide))
    obtain ⟨hledLeaves, hledReported⟩ := hled.1 (hfields .ledSettings (by decide))
    obtain ⟨hsmartLeaves, hsmartReported⟩ := hsmart.1 (hfields .smartDetectSettings (by decide))
    refine ⟨⟨fun field hfield => ?_, hosdLeaves, hledLeaves, hsmartLeaves, hlcd⟩, hosdReported, hledReported, hsmartReported,
      hlcdReported⟩
    exact (fieldMatches_scalar (hplain field hfield)).1 (hfields field hfield.2.2.1)
  · rintro ⟨hverified, hreported⟩
    refine ⟨⟨hverified.lcdMessage, hreported.lcdMessage⟩, fun field hlcd => ?_⟩
    by_cases hfield : field.IsScalar
    · exact (fieldMatches_scalar (hplain field hfield)).2 (hverified.scalars field hfield)
    · cases field with
      | lcdMessage => exact absurd rfl hlcd
      | osdSettings => exact hosd.2 ⟨hverified.osdSettings, hreported.osdSettings⟩
      | ledSettings => exact hled.2 ⟨hverified.ledSettings, hreported.ledSettings⟩
      | smartDetectSettings => exact hsmart.2 ⟨hverified.smartDetectSettings, hreported.smartDetectSettings⟩
      | cameraId | name | micVolume | videoMode | hdrType => exact absurd (by simp [CameraField.IsScalar]) hfield

/-- **The comparison decides the verification exactly when a verified readback reports the settings objects.** -/
theorem camera_settings_match_decides (patch : ProtectCameraSettingsPatch) (before after : CameraSettingsState)
    (h : ∀ message ∈ patch.lcdMessage, message.Distinct) :
    (cameraSettingsMatch patch before after = true ↔ Verified patch before after) ↔
      (Verified patch before after → ObjectsReported patch before after) := by
  rw [cameraSettingsMatch_iff patch before after h]
  exact ⟨fun hdecides hverified => (hdecides.2 hverified).2, fun hreported => ⟨And.left, fun hverified => ⟨hverified, hreported hverified⟩⟩⟩

/-- A camera that reports no settings objects. -/
def bareState : CameraSettingsState := ⟨"front".toList, none, none, none, none, none, none, none, none⟩

/-- The name overlay is asked for. -/
def osdPatch : ProtectCameraSettingsPatch :=
  ⟨none, some ⟨some true, none, none, none, none⟩, none, none, none, none, none, none⟩

/-- The overlay is asked for, and a message for the door. -/
def doorPatch : ProtectCameraSettingsPatch :=
  { osdPatch with
    lcdMessage := some (.object [("text".toList, .string "Back soon".toList), ("type".toList, .string "CUSTOM_MESSAGE".toList)]) }

/-- A camera that keeps reporting its overlay settings, had no message, and shows what was asked for with a default of
its own. -/
def doorBefore : CameraSettingsState := { bareState with osdSettings := some ⟨some false, none, none, none, none⟩ }

def doorAfter : CameraSettingsState :=
  { bareState with
    osdSettings := some ⟨some true, none, none, none, none⟩
    lcdMessage := some (.object [("resetAt".toList, .number "0".toList), ("text".toList, .string "Back soon".toList),
      ("type".toList, .string "CUSTOM_MESSAGE".toList)]) }

theorem camera_settings_match_decides_message :
    cameraSettingsMatch doorPatch doorBefore doorAfter = true ∧ Verified doorPatch doorBefore doorAfter := by
  have hmatch : cameraSettingsMatch doorPatch doorBefore doorAfter = true := by decide +kernel
  have hdistinct : ∀ message ∈ doorPatch.lcdMessage, message.Distinct := by
    rintro message ⟨⟩
    simp [Json.Distinct, Json.DistinctMembers]
  have hreported : ObjectsReported doorPatch doorBefore doorAfter := ⟨⟨rfl, rfl⟩, Iff.rfl, Iff.rfl, fun _ => nofun⟩
  exact ⟨hmatch, ((camera_settings_match_decides _ _ _ hdistinct).2 fun _ => hreported).1 hmatch⟩

/-- A camera that reported no overlay settings before, and stores what was asked for. -/
theorem camera_settings_match_new_object :
    cameraSettingsMatch osdPatch bareState { bareState with osdSettings := some ⟨some true, none, none, none, none⟩ } = false ∧
      Verified osdPatch bareState { bareState with osdSettings := some ⟨some true, none, none, none, none⟩ } := by
  refine ⟨by decide +kernel, fun field hfield => ?_, fun field => ?_, fun field => ?_, fun field => ?_, rfl⟩
  · cases field <;> rfl
  · cases field <;> rfl
  · cases field <;> rfl
  · cases field <;> rfl

end UnifiMcp
