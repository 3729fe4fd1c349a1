import UnifiMcp.Lib.SerdeShape
import UnifiMcp.Mcp.NumberEquivalence
import UnifiMcp.Mcp.NumberRange
import UnifiMcp.Mcp.Tools
/-! # Device settings (unifi-mcp/src/tools.rs)

A tool call names the settings of a device that it changes; the request carries these and nothing else. An
absent setting, one that is null and one that has a value stay apart: only three may be cleared with a null.

* `octet_exact` — an integer of 8 bits keeps its value.
* `deviceSettingsRequest_eq_ok` — what a request that goes out has passed.
* `device_settings_patch` — **the body is what was named, without its nulls.** -/
namespace UnifiMcp
open Text
open Serde (Rule Shape Held)

/-! ## Settings -/

/-- `ProtectDeviceKind` (tools.rs:604). -/
inductive ProtectDeviceKind where
  | light
  | sensor
  | chime
  | siren
  | fob
  | relay
  | speaker
  | bridge
  | linkStation
  | alarmHub
deriving DecidableEq

namespace ProtectDeviceKind

/-- The tag of the variant. -/
def tag : ProtectDeviceKind → Text
  | light => "light".toList
  | sensor => "sensor".toList
  | chime => "chime".toList
  | siren => "siren".toList
  | fob => "fob".toList
  | relay => "relay".toList
  | speaker => "speaker".toList
  | bridge => "bridge".toList
  | linkStation => "linkStation".toList
  | alarmHub => "alarmHub".toList

def all : List ProtectDeviceKind := [light, sensor, chime, siren, fob, relay, speaker, bridge, linkStation, alarmHub]

def ofTag (tag : Text) : Option ProtectDeviceKind := all.find? fun kind => kind.tag = tag

end ProtectDeviceKind

/-- `ProtectLightModeSettings` (tools.rs:741), with `ProtectLightMode` and `ProtectLightEnableAt`. -/
def protectLightModeSettings : Shape := .record [
  ("mode".toList, .skipped, .choice ["always".toList, "motion".toList, "off".toList]),
  ("enableAt".toList, .skipped, .choice ["fulltime".toList, "dark".toList])]

/-- `ProtectLightDeviceSettings` (tools.rs:767). -/
def protectLightDeviceSettings : Shape := .record [
  ("isIndicatorEnabled".toList, .skipped, .bool),
  ("pirDuration".toList, .skipped, .number),
  ("pirSensitivity".toList, .skipped, .number),
  ("ledLevel".toList, .skipped, .number)]

/-- `ProtectSirenLedSettings` (tools.rs:780). -/
def protectSirenLedSettings : Shape := .record [("isEnabled".toList, .required, .bool)]

/-- `ProtectRelayLedSettings` (tools.rs:786). -/
def protectRelayLedSettings : Shape := .record [("isEnabled".toList, .skipped, .bool)]

/-- `ProtectSensorThresholdSettings` (tools.rs:834). -/
def protectSensorThresholdSettings : Shape := .record [
  ("isEnabled".toList, .skipped, .bool),
  ("margin".toList, .skipped, .number),
  ("lowThreshold".toList, .nullable, .number),
  ("highThreshold".toList, .nullable, .number)]

/-- `ProtectSensorMotionSettings` (tools.rs:855). -/
def protectSensorMotionSettings : Shape := .record [
  ("isEnabled".toList, .skipped, .bool),
  ("sensitivity".toList, .skipped, .number),
  ("sensitivityWhenArmed".toList, .skipped, .number)]

/-- `ProtectSensorAlarmSettings` (tools.rs:866). -/
def protectSensorAlarmSettings : Shape := .record [("isEnabled".toList, .skipped, .bool)]

/-- `ProtectSensorScheduleMode` (tools.rs:873). -/
def protectSensorScheduleMode : Shape := .choice ["always".toList, "when_armed".toList]

/-- `ProtectChimeRingSettings` (tools.rs:880). -/
def protectChimeRingSettings : Shape := .record [
  ("cameraId".toList, .required, .string),
  ("repeatTimes".toList, .required, .number),
  ("ringtoneId".toList, .required, .string),
  ("volume".toList, .required, .number)]

namespace ProtectDeviceKind

/-- The fields of the variants of `ProtectDeviceSettingsChanges` (tools.rs:895). -/
def fields : ProtectDeviceKind → List (Text × Rule × Shape)
  | light => [
    ("name".toList, .shown, .string),
    ("isLightForceEnabled".toList, .shown, .bool),
    ("lightModeSettings".toList, .shown, protectLightModeSettings),
    ("lightDeviceSettings".toList, .shown, protectLightDeviceSettings)]
  | sensor => [
    ("name".toList, .shown, .string),
    ("lightSettings".toList, .shown, protectSensorThresholdSettings),
    ("humiditySettings".toList, .shown, protectSensorThresholdSettings),
    ("temperatureSettings".toList, .shown, protectSensorThresholdSettings),
    ("motionSettings".toList, .shown, protectSensorMotionSettings),
    ("glassBreakSettings".toList, .shown, protectSensorMotionSettings),
    ("scheduleMode".toList, .shown, protectSensorScheduleMode),
    ("armProfileIds".toList, .nullable, .list .string),
    ("hasCustomSensitivityWhenArmed".toList, .shown, .bool),
    ("alarmSettings".toList, .shown, protectSensorAlarmSettings)]
  | chime => [
    ("name".toList, .shown, .string),
    ("cameraIds".toList, .shown, .list .string),
    ("ringSettings".toList, .shown, .list protectChimeRingSettings)]
  | siren => [
    ("name".toList, .shown, .string),
    ("volume".toList, .shown, .u8),
    ("ledSettings".toList, .shown, protectSirenLedSettings)]
  | relay => [
    ("name".toList, .shown, .string),
    ("ledSettings".toList, .shown, protectRelayLedSettings)]
  | speaker => [
    ("name".toList, .shown, .string),
    ("volume".toList, .shown, .u8),
    ("micVolume".toList, .shown, .u8),
    ("isMicEnabled".toList, .shown, .bool)]
  | fob | bridge | linkStation | alarmHub => [("name".toList, .shown, .string)]

/-- The settings of a variant, as a record. -/
def settings (kind : ProtectDeviceKind) : Shape := .record kind.fields

end ProtectDeviceKind

/-- `ProtectDeviceSettingsChanges` (tools.rs:895): a variant and values of its fields. -/
structure ProtectDeviceSettingsChanges where
  kind : ProtectDeviceKind
  fields : List (Text × Option Held)
  typed : Serde.fieldsHold kind.fields fields = true

/-- The field of that name, when the variant has it with a value. -/
def ProtectDeviceSettingsChanges.get (changes : ProtectDeviceSettingsChanges) (name : String) : Option Held :=
  (Held.record changes.fields).get name.toList

/-! ## Reading -/

/-- The tag of an internally tagged enumeration, and what is buffered behind it. -/
def splitTag : Json → Option (Text × Json)
  | .object members =>
    match (Json.object members).get "kind".toList with
    | some (.string tag) => some (tag, .object (without "kind".toList members))
    | _ => none
  | .array (.string tag :: items) => some (tag, .array items)
  | _ => none

/-- The derived reader of `ProtectDeviceSettingsChanges`; `buffer` is a number behind the tag's buffer. -/
def readChanges (buffer : Text → Option Text) (changes : Json) : Option ProtectDeviceSettingsChanges :=
  (splitTag changes).bind fun (tag, settings) =>
    (ProtectDeviceKind.ofTag tag).bind fun kind =>
      match h : kind.settings.read buffer settings with
      | some (.record fields) =>
        some ⟨kind, fields, by simpa [ProtectDeviceKind.settings, Shape.holds] using Serde.holds_of_read _ h⟩
      | _ => none

/-! ## The request -/

/-- The number of that name among settings. -/
def numberOf (name : String) (settings : Held) : Option Text := (settings.get name.toList).bind Held.asNumber

def outside (minimum maximum : Int) (value : Text) : Bool := !numberInRange value minimum maximum

/-- `low_threshold` of a sensor (tools.rs:13746-13768). -/
def thresholdRefused (changes : ProtectDeviceSettingsChanges) (field : String) (minimum maximum : Int) : Bool × Text :=
  ((changes.get field).any fun settings => (numberOf "lowThreshold" settings).any (outside minimum maximum),
    field.toList ++ ".lowThreshold is outside the documented range".toList)

/-- The sensitivities of a sensor (tools.rs:13769-13789). -/
def sensitivityRefused (changes : ProtectDeviceSettingsChanges) (field : String) : Bool × Text :=
  ((changes.get field).any fun settings =>
    (numberOf "sensitivity" settings).any (outside 0 100) || (numberOf "sensitivityWhenArmed" settings).any (outside 0 100),
    field.toList ++ " sensitivity must be 0-100".toList)

/-- The checks of `device_settings_request` in their order (tools.rs:13711-13826), with their messages. -/
def refusals (changes : ProtectDeviceSettingsChanges) : List (Bool × Text) :=
  match changes.kind with
  | .light => [
    ((changes.get "lightDeviceSettings").any fun settings =>
      (numberOf "pirDuration" settings).any numberIsNegative || (numberOf "pirSensitivity" settings).any (outside 0 100) ||
        (numberOf "ledLevel" settings).any (outside 1 6),
      "light pirDuration must be nonnegative, pirSensitivity 0-100, and ledLevel 1-6".toList)]
  | .sensor => [
    thresholdRefused changes "lightSettings" 1 503192,
    thresholdRefused changes "humiditySettings" 1 99,
    thresholdRefused changes "temperatureSettings" (-39) 124,
    sensitivityRefused changes "motionSettings",
    sensitivityRefused changes "glassBreakSettings",
    (((changes.get "armProfileIds").bind Held.asList).any fun ids =>
      decide (ids.length > 32) || ids.any fun id => id.asString.any fun id => decide (id.length > 64),
      "armProfileIds accepts at most 32 ids of at most 64 characters each".toList)]
  | .chime => [
    (((changes.get "ringSettings").bind Held.asList).any fun rows => rows.any fun row =>
      (numberOf "repeatTimes" row).any (outside 1 10) || (numberOf "volume" row).any (outside 0 100),
      "ringSettings repeatTimes must be 1-10 and volume 0-100".toList)]
  | .siren => [
    (((changes.get "volume").bind Held.asU8).any fun value => !(1 ≤ value && value ≤ 100), "siren volume must be 1-100".toList)]
  | .speaker => [
    (((changes.get "volume").bind Held.asU8).any (· > 100) || ((changes.get "micVolume").bind Held.asU8).any (· > 100),
      "speaker volume and micVolume must be 0-100".toList)]
  | .relay | .fob | .bridge | .linkStation | .alarmHub => []

/-- `serde_json::to_value(changes)`. -/
def toValue (changes : ProtectDeviceSettingsChanges) : List (Text × Json) :=
  ("kind".toList, .string changes.kind.tag) :: Serde.writeFields changes.kind.fields changes.fields

/-- The members of the request: no tag, and no null but that of `armProfileIds`. -/
def requestMembers (changes : ProtectDeviceSettingsChanges) : List (Text × Json) :=
  (without "kind".toList (toValue changes)).filter fun member => member.1 = "armProfileIds".toList || member.2 ≠ .null

/-- `device_settings_request` (tools.rs:13708). -/
def deviceSettingsRequest (changes : ProtectDeviceSettingsChanges) : Except McpError (ProtectDeviceKind × Json) :=
  match (refusals changes).find? Prod.fst with
  | some (_, message) => .error (.invalidParams message)
  | none =>
    let request := requestMembers changes
    if request = [] then .error (.invalidParams "changes names no field to change".toList)
    else if byteLen (Json.write (.object request)) > 1024 * 1024 then
      .error (.invalidParams "device settings request exceeds 1 MiB".toList)
    else .ok (changes.kind, .object request)

/-! ## Numbers -/

theorem isNumber_dec (n : Nat) : IsNumber (dec n) :=
  ⟨⟨false, dec n, none, none, List.ne_nil_of_length_pos Nat.length_toDigits_pos, digits_dec n, dec_head, nofun⟩,
    by simp [JsonNumber.text, JsonNumber.unsigned, JsonNumber.mantissa]⟩

theorem sameNumber_iff {a b : Text} : SameNumber a b ↔ IsNumber a ∧ IsNumber b ∧ decimalValue a = decimalValue b := by
  constructor
  · rintro ⟨m, n, rfl, rfl, h⟩
    exact ⟨⟨m, rfl⟩, ⟨n, rfl⟩, by rw [m.decimalValue_text, n.decimalValue_text, h]⟩
  · rintro ⟨⟨m, rfl⟩, ⟨n, rfl⟩, h⟩
    rw [m.decimalValue_text, n.decimalValue_text] at h
    exact ⟨m, n, rfl, rfl, Option.some.inj h⟩

theorem sameNumber_refl {a : Text} (h : IsNumber a) : SameNumber a a := sameNumber_iff.2 ⟨h, h, rfl⟩

/-- **An integer of 8 bits keeps its value.** -/
theorem octet_exact {spelling : Text} {value : Nat} (hnumber : IsNumber spelling) (h : Serde.readU8 spelling = some value) :
    SameNumber (dec value) spelling := by
  refine sameNumber_iff.2 ⟨isNumber_dec value, hnumber, ?_⟩
  unfold Serde.readU8 at h
  split at h
  · rename_i hzero
    cases h
    rw [hzero]
    rfl
  · split at h
    · rename_i hbounds
      cases h
      have hdigits : ∀ c ∈ spelling, c.isDigit = true := List.all_eq_true.1 hbounds.2.1
      have hminus : '-' ∉ spelling := fun hmem => Bool.false_ne_true (hdigits _ hmem)
      rw [decimalValue_of_digits (stripSign_of_ne hminus) hdigits,
        decimalValue_of_digits (stripSign_of_ne (not_mem_dec rfl)) fun _ => isDigit_of_mem_dec, natOf_dec]
    · cases h

/-! ## What is sent -/

/-- The settings that a null clears. -/
def clearable (name : Text) : Bool := name = "armProfileIds".toList || name = "lowThreshold".toList || name = "highThreshold".toList

namespace ProtectDeviceKind

theorem fields_nodup (kind : ProtectDeviceKind) : (kind.fields.map Prod.fst).Nodup := by cases kind <;> decide

theorem fields_respect (kind : ProtectDeviceKind) : Serde.fieldsRespect clearable true kind.fields = true := by
  cases kind <;> decide

theorem kind_not_mem_fields (kind : ProtectDeviceKind) : "kind".toList ∉ kind.fields.map Prod.fst := by cases kind <;> decide

/-- Of the fields of a variant one is cleared by a null. -/
theorem clearable_of_mem (kind : ProtectDeviceKind) :
    ∀ name ∈ kind.fields.map Prod.fst, clearable name = decide (name = "armProfileIds".toList) := by
  cases kind <;> decide

theorem tag_of_ofTag {tag : Text} {kind : ProtectDeviceKind} (h : ofTag tag = some kind) : kind.tag = tag := by
  simpa using List.find?_some h

end ProtectDeviceKind

theorem readChanges_eq_some {buffer : Text → Option Text} {changes : Json} {typed : ProtectDeviceSettingsChanges}
    (h : readChanges buffer changes = some typed) :
    ∃ settings, splitTag changes = some (typed.kind.tag, settings) ∧
      typed.kind.settings.read buffer settings = some (.record typed.fields) := by
  obtain ⟨⟨tag, settings⟩, hsplit, h⟩ := Option.bind_eq_some_iff.1 h
  obtain ⟨kind, hkind, h⟩ := Option.bind_eq_some_iff.1 h
  split at h
  · rename_i fields hread
    cases h
    exact ⟨settings, by rw [hsplit, ProtectDeviceKind.tag_of_ofTag hkind], hread⟩
  · cases h

/-- What a request that goes out has passed. -/
theorem deviceSettingsRequest_eq_ok {changes : ProtectDeviceSettingsChanges} {kind : ProtectDeviceKind} {body : Json} :
    deviceSettingsRequest changes = .ok (kind, body) ↔ (∀ refusal ∈ refusals changes, refusal.1 = false) ∧
      requestMembers changes ≠ [] ∧ byteLen (Json.write (.object (requestMembers changes))) ≤ 1024 * 1024 ∧
      kind = changes.kind ∧ body = .object (requestMembers changes) := by
  unfold deviceSettingsRequest
  split
  · rename_i message hfind
    refine ⟨nofun, fun h => ?_⟩
    have hrefused := List.find?_some hfind
    rw [h.1 _ (List.mem_of_find?_eq_some hfind)] at hrefused
    cases hrefused
  · rename_i hfind
    have hpassed : ∀ refusal ∈ refusals changes, refusal.1 = false := by simpa using List.find?_eq_none.1 hfind
    dsimp only
    split
    · rename_i hempty
      exact ⟨nofun, fun h => absurd hempty h.2.1⟩
    · rename_i hnonempty
      split
      · rename_i hlong
        exact ⟨nofun, fun h => absurd hlong (Nat.not_lt.2 h.2.2.1)⟩
      · rename_i hshort
        refine ⟨fun h => ?_, fun h => ?_⟩
        · cases h
          exact ⟨hpassed, hnonempty, Nat.not_lt.1 hshort, rfl, rfl⟩
        · rw [h.2.2.2.1, h.2.2.2.2]

/-- No tag, and no null but the cleared. -/
theorem requestMembers_eq (changes : ProtectDeviceSettingsChanges) :
    requestMembers changes = (Serde.writeFields changes.kind.fields changes.fields).filter (Serde.sent clearable) := by
  have hname : ∀ member ∈ Serde.writeFields changes.kind.fields changes.fields, member.1 ∈ changes.kind.fields.map Prod.fst :=
    fun member hmem => (Serde.writeFields_sublist _ _).subset (List.mem_map_of_mem hmem)
  have hkind : without "kind".toList (toValue changes) = Serde.writeFields changes.kind.fields changes.fields := by
    rw [toValue, without, List.filter_cons_of_neg (by simp), List.filter_eq_self]
    intro member hmem
    have hne : member.1 ≠ "kind".toList := fun heq => changes.kind.kind_not_mem_fields (heq ▸ hname member hmem)
    simpa using hne
  rw [requestMembers, hkind]
  refine List.filter_congr fun member hmem => ?_
  rw [Serde.sent, changes.kind.clearable_of_mem _ (hname member hmem)]

theorem child_without {key : Text} {members : List (Text × Json)} {step : Json.Step} {below : Json}
    (hnames : (members.map Prod.fst).Nodup) (h : (Json.object (without key members)).child step = some below) :
    (Json.object members).child step = some below := by
  cases step with
  | index i => cases h
  | key name => exact Json.get_of_mem hnames (List.mem_of_mem_filter (Json.mem_of_get h))

theorem splitTag_object {members : List (Text × Json)} {tag : Text} {settings : Json}
    (h : splitTag (.object members) = some (tag, settings)) : settings = .object (without "kind".toList members) := by
  rw [splitTag] at h
  split at h <;> cases h
  rfl

/-- What is behind the tag is one step below the whole, where a step is the same or an item on. -/
theorem child_of_splitTag {changes settings below : Json} {tag : Text} {step : Json.Step} (hdistinct : changes.Distinct)
    (hsplit : splitTag changes = some (tag, settings)) (h : settings.child step = some below) :
    ∃ step, changes.child step = some below := by
  unfold splitTag at hsplit
  split at hsplit
  · split at hsplit
    · cases hsplit
      exact ⟨step, child_without hdistinct.1 h⟩
    · cases hsplit
  · cases hsplit
    cases step with
    | key name => cases h
    | index i => exact ⟨.index (i + 1), h⟩
  · cases hsplit

theorem distinct_of_splitTag {changes settings : Json} {tag : Text} (hdistinct : changes.Distinct)
    (hsplit : splitTag changes = some (tag, settings)) : settings.Distinct := by
  unfold splitTag at hsplit
  split at hsplit
  · split at hsplit
    · cases hsplit
      exact ⟨hdistinct.1.sublist (List.filter_sublist.map _),
        Serde.distinctMembers_iff.2 fun member hmem =>
          Serde.distinctMembers_iff.1 hdistinct.2 member (List.mem_of_mem_filter hmem)⟩
    · cases hsplit
  · cases hsplit
    exact hdistinct.2
  · cases hsplit

theorem numbers_of_splitTag {p : Text → Prop} {changes settings : Json} {tag : Text} (hdistinct : changes.Distinct)
    (hnumbers : changes.Numbers p) (hsplit : splitTag changes = some (tag, settings)) : settings.Numbers p := by
  refine Serde.numbers_iff.2 ⟨fun spelling heq => ?_, fun step below hbelow => ?_⟩
  · subst heq
    unfold splitTag at hsplit
    split at hsplit
    · split at hsplit <;> cases hsplit
    · cases hsplit
    · cases hsplit
  · obtain ⟨step', hstep⟩ := child_of_splitTag hdistinct hsplit hbelow
    exact Serde.numbers_child step' hnumbers hstep

/-- **The body of a request** is what was named, without its nulls but those that clear a setting. -/
theorem device_settings_patch {buffer : Text → Option Text}
    (hbuffer : ∀ spelling kept, IsNumber spelling → buffer spelling = some kept → SameNumber kept spelling)
    {changes : Json} (hdistinct : changes.Distinct) (hnumbers : changes.Numbers IsNumber)
    {typed : ProtectDeviceSettingsChanges} (hread : readChanges buffer changes = some typed)
    {kind : ProtectDeviceKind} {body : Json} (haccepted : deviceSettingsRequest typed = .ok (kind, body)) :
    ∃ settings sent, splitTag changes = some (kind.tag, settings) ∧ body = .object sent ∧ sent ≠ [] ∧
      Json.Restates SameNumber body (Serde.patched clearable (kind.settings.named settings)) ∧
      (∀ path, body.lookup path ≠ none → (kind.settings.named settings).lookup path ≠ none) ∧
      (∀ members, changes = .object members → kind.settings.plain settings = true →
        Json.Restates SameNumber body (Serde.patched clearable (.object (without "kind".toList members))) ∧
        ∀ path, body.lookup path ≠ none → changes.lookup path ≠ none) := by
  obtain ⟨settings, hsplit, hsettings⟩ := readChanges_eq_some hread
  obtain ⟨-, hnonempty, -, rfl, rfl⟩ := deviceSettingsRequest_eq_ok.1 haccepted
  have hdistinct' := distinct_of_splitTag hdistinct hsplit
  have hnumbers' := numbers_of_splitTag hdistinct hnumbers hsplit
  have hexact : Serde.Exact IsNumber SameNumber buffer := ⟨hbuffer, fun _ _ => octet_exact⟩
  have hrestates : Json.Restates SameNumber (.object (requestMembers typed))
      (Serde.patched clearable (typed.kind.settings.named settings)) := by
    obtain ⟨_, fields, heq, -, h⟩ := Serde.restates_record typed.kind.fields_respect typed.kind.fields_nodup hdistinct'
      hnumbers' (Serde.read_write_fields hexact _ typed.kind.fields_respect) hsettings
    cases heq
    rwa [requestMembers_eq]
  have hnamed : (typed.kind.settings.named settings).Distinct :=
    Serde.distinct_record typed.kind.fields_nodup (fun _ _ => Serde.distinct_namedAt _ typed.kind.fields_respect) hdistinct'
  have hlookup : ∀ path, (Json.object (requestMembers typed)).lookup path ≠ none →
      (typed.kind.settings.named settings).lookup path ≠ none := by
    intro path hpath
    obtain ⟨below, hbelow⟩ := Option.ne_none_iff_exists'.1 hpath
    obtain ⟨other, hother, -⟩ := hrestates.lookup hbelow
    obtain ⟨original, horiginal, -⟩ := Serde.lookup_patched hnamed hother
    rw [horiginal]
    exact Option.some_ne_none original
  refine ⟨settings, _, hsplit, rfl, hnonempty, hrestates, hlookup, ?_⟩
  rintro members rfl hplain
  obtain rfl := splitTag_object hsplit
  rw [Serde.named_of_plain _ hplain] at hrestates hlookup
  refine ⟨hrestates, fun path hpath => ?_⟩
  obtain ⟨below, hbelow⟩ := Option.ne_none_iff_exists'.1 (hlookup path hpath)
  cases path with
  | nil => exact Option.some_ne_none _
  | cons step path =>
    rw [Json.lookup_cons] at hbelow ⊢
    obtain ⟨inner, hinner, hrest⟩ := Option.bind_eq_some_iff.1 hbelow
    rw [child_without hdistinct.1 hinner, Option.bind_some, hrest]
    exact Option.some_ne_none below

/-- A sensor whose low threshold is cleared and whose name is left alone. -/
def sensorChanges : List (Text × Json) := [
  ("kind".toList, .string "sensor".toList),
  ("name".toList, .null),
  ("lightSettings".toList, .object [
    ("margin".toList, .null), ("lowThreshold".toList, .null), ("highThreshold".toList, .number (dec 7))]),
  ("armProfileIds".toList, .null)]

def sensorTyped : ProtectDeviceSettingsChanges where
  kind := .sensor
  fields := [
    ("name".toList, none),
    ("lightSettings".toList, some (.record [
      ("isEnabled".toList, none), ("margin".toList, none), ("lowThreshold".toList, some .clear),
      ("highThreshold".toList, some (.number (dec 7)))])),
    ("humiditySettings".toList, none),
    ("temperatureSettings".toList, none),
    ("motionSettings".toList, none),
    ("glassBreakSettings".toList, none),
    ("scheduleMode".toList, none),
    ("armProfileIds".toList, some .clear),
    ("hasCustomSensitivityWhenArmed".toList, none),
    ("alarmSettings".toList, none)]
  typed := by decide

def sensorBody : Json := .object [
  ("lightSettings".toList, .object [("lowThreshold".toList, .null), ("highThreshold".toList, .number (dec 7))]),
  ("armProfileIds".toList, .null)]

/-- What `sensorChanges` asks for. -/
theorem device_settings_patch_sensor :
    ∃ settings sent, splitTag (.object sensorChanges) = some ("sensor".toList, settings) ∧ sensorBody = .object sent ∧
      sent ≠ [] ∧
      Json.Restates SameNumber sensorBody (Serde.patched clearable (ProtectDeviceKind.sensor.settings.named settings)) := by
  have hbuffer : ∀ spelling kept, IsNumber spelling → some spelling = some kept → SameNumber kept spelling := by
    rintro spelling _ hnumber ⟨⟩
    exact sameNumber_refl hnumber
  have hscalar {value : Json} (hbelow : ∀ step, value.child step = none)
      (hvalue : ∀ spelling, value = .number spelling → IsNumber spelling) : value.Numbers IsNumber :=
    Serde.numbers_iff.2 ⟨hvalue, fun step below h => by rw [hbelow step] at h; cases h⟩
  have hnull : Json.Numbers IsNumber .null := hscalar (fun step => by cases step <;> rfl) nofun
  have hnumbers : (Json.object sensorChanges).Numbers IsNumber := by
    refine Serde.numbers_object fun member hmem => ?_
    fin_cases hmem
    · exact hscalar (fun step => by cases step <;> rfl) nofun
    · exact hnull
    · refine Serde.numbers_object fun member hmem => ?_
      fin_cases hmem
      · exact hnull
      · exact hnull
      · exact hscalar (fun step => by cases step <;> rfl) (by rintro _ ⟨⟩; exact isNumber_dec 7)
    · exact hnull
  have hdistinct : (Json.object sensorChanges).Distinct :=
    ⟨by decide, trivial, trivial, ⟨by decide, trivial, trivial, trivial, trivial⟩, trivial, trivial⟩
  obtain ⟨settings, sent, hsplit, hbody, hne, hrestates, -⟩ :=
    @device_settings_patch some hbuffer (.object sensorChanges) hdistinct hnumbers sensorTyped rfl .sensor sensorBody rfl
  exact ⟨settings, sent, hsplit, hbody, hne, hrestates⟩

/-- A siren whose LED settings are an array of their fields. -/
def sirenChanges : List (Text × Json) :=
  [("kind".toList, .string "siren".toList), ("ledSettings".toList, .array [.bool true])]

/-- A record may be named as an array of its fields; it is sent as an object. -/
theorem device_settings_array_record :
    ∃ typed body, readChanges some (.object sirenChanges) = some typed ∧ deviceSettingsRequest typed = .ok (.siren, body) ∧
      body = .object [("ledSettings".toList, .object [("isEnabled".toList, .bool true)])] ∧
      ¬ Json.Restates SameNumber body (Serde.patched clearable (.object (without "kind".toList sirenChanges))) := by
  refine ⟨⟨.siren, [("name".toList, none), ("volume".toList, none),
    ("ledSettings".toList, some (.record [("isEnabled".toList, some (.bool true))]))], by decide⟩, _, rfl, rfl, rfl, fun h => ?_⟩
  have hpatched : Serde.patched clearable (.object (without "kind".toList sirenChanges)) =
      .object [("ledSettings".toList, .array [.bool true])] := rfl
  rw [hpatched] at h
  cases h with
  | object hnames hmembers => cases hmembers "ledSettings".toList _ _ List.mem_cons_self List.mem_cons_self

end UnifiMcp
