import UnifiMcp.Api.LegacyClient
import UnifiMcp.Lib.Base64
import UnifiMcp.Lib.JsonReader
import UnifiMcp.Mcp.ContentBlocks
import UnifiMcp.Mcp.RequestedJson
/-! # Writing a legacy configuration record (unifi-mcp/src/tools/legacy_configuration.rs:396)

A confirmed write is sent once. What the controller answered is reported with the record read back: the body as
text, and read a second time for the identifier of a created record. The client has read it as an envelope, where
unknown members are skipped; the second reader builds every value.

* `legacyRecordEnvelope_data` — a record read back has its rows, so the second `expect` holds.
* `tooLong_recordReport` — when the record read back is too long to stand in the report, in the sizes of its members.
* `accepted_write_is_kept_iff` — **an accepted write is reported exactly when its body parses again**, and the record
  read back passes the last conversion or is too long to stand in the report.
* `accepted_write_is_lost` — a skipped member that no `Value` can hold takes the report away. -/
namespace UnifiMcp.LegacyWrite
open Text ContentBlocks Legacy

/-! ## The request -/

/-- `NetworkPolicyWriteOperation` (tools.rs:2764). -/
inductive NetworkPolicyWriteOperation where
  | create
  | update
  | delete
deriving DecidableEq

def NetworkPolicyWriteOperation.name : NetworkPolicyWriteOperation → Text
  | .create => "create".toList
  | .update => "update".toList
  | .delete => "delete".toList

/-- `ConfigurationFamily` (legacy_configuration.rs:153). -/
inductive ConfigurationFamily where
  | portForward
  | wlan
deriving DecidableEq

def ConfigurationFamily.label : ConfigurationFamily → Text
  | .portForward => "port-forward".toList
  | .wlan => "WLAN".toList

/-- The collection of a family (legacy.rs:537-731). -/
def ConfigurationFamily.collection : ConfigurationFamily → List Text
  | .portForward => ["rest".toList, "portforward".toList]
  | .wlan => ["rest".toList, "wlanconf".toList]

structure ConfigurationRequest where
  operation : NetworkPolicyWriteOperation
  id : Option Text
  requested : Option Json
  confirm : Bool
  family : ConfigurationFamily

def MAXIMUM_POLICY_REQUEST_BYTES : Nat := 1024 * 1024

/-- `validate_id` (legacy_configuration.rs:174). -/
def validateId (id : Text) : Except McpError Unit :=
  if id = [] ∨ 256 < byteLen id ∨ id = ['.'] ∨ id = ['.', '.'] then
    .error (.invalidParams "id must be nonempty, non-dot, and at most 256 bytes".toList)
  else .ok ()

def hasConfiguration : Option Json → Bool
  | some (.object members) => !members.isEmpty
  | _ => false

def ConfigurationRequest.validShape (request : ConfigurationRequest) : Bool :=
  match request.operation with
  | .create => request.id.isNone && hasConfiguration request.requested
  | .update => request.id.isSome && hasConfiguration request.requested
  | .delete => request.id.isSome && request.requested.isNone

/-- `ConfigurationRequest::validate` (legacy_configuration.rs:185). -/
def ConfigurationRequest.validate (request : ConfigurationRequest) : Except McpError Unit :=
  match (request.id.map validateId).getD (.ok ()) with
  | .error error => .error error
  | .ok () =>
    if !request.validShape then
      .error (.invalidParams ("create requires configuration without id; update requires id and configuration; ".toList ++
        "delete requires id without configuration".toList))
    else if request.requested.any fun value => MAXIMUM_POLICY_REQUEST_BYTES < byteLen value.write then
      .error (.invalidParams "configuration exceeds the 1 MiB request bound".toList)
    else .ok ()

/-- The request of `ConfigurationRequest::submit` (legacy_configuration.rs:216), one of the six of legacy.rs:537-731;
`none` is the panic of an `expect`. -/
def ConfigurationRequest.submit (request : ConfigurationRequest) (site : Text) (decode : Bytes → Except Text (LegacyEnvelope Json)) :
    Option (LegacyRequest Json) :=
  match request.operation with
  | .create => request.requested.map fun requested =>
    ⟨.mutation, "POST".toList, site, request.family.collection, some requested.write, decode⟩
  | .update => request.id.bind fun id => request.requested.map fun requested =>
    ⟨.mutation, "PUT".toList, site, request.family.collection ++ [id], some requested.write, decode⟩
  | .delete => request.id.map fun id => ⟨.mutation, "DELETE".toList, site, request.family.collection ++ [id], none, decode⟩

/-! ## The readback -/

/-- The readers: `from_slice` with the text of its error, `from_value`, and the `Display` text of an error. -/
structure Readers where
  codecs : Codecs
  refusal : Bytes → Text
  serde : SerdeJson
  display : McpError → Text

/-- `legacy_record_envelope` (legacy.rs:1683). -/
def legacyRecordEnvelope (r : Readers) (bytes : Bytes) : Except ApiError Json :=
  match r.codecs.fromSlice bytes with
  | none => .error (decodeFailure r.codecs.base64 (r.refusal bytes) bytes)
  | some envelope =>
    match envelope.get "data".toList with
    | some (.array _) => .ok envelope
    | _ => .error (decodeFailure r.codecs.base64 "record envelope contains no data array".toList bytes)

/-- `configuration_record` (legacy_configuration.rs:381) behind the request, which ends in the bytes of the answer. -/
def configurationRecord (r : Readers) : Except ApiError Bytes → Except ApiError Json
  | .error error => .error error
  | .ok bytes => legacyRecordEnvelope r bytes

/-! ## The bytes as text -/

/-- The second byte that may follow a leading byte, and how many follow it. -/
def continuation (lead : UInt8) : Option (UInt8 × UInt8 × Nat) :=
  if 0xC2 ≤ lead && lead ≤ 0xDF then some (0x80, 0xBF, 0)
  else if lead = 0xE0 then some (0xA0, 0xBF, 1)
  else if lead = 0xED then some (0x80, 0x9F, 1)
  else if 0xE1 ≤ lead && lead ≤ 0xEF then some (0x80, 0xBF, 1)
  else if lead = 0xF0 then some (0x90, 0xBF, 2)
  else if lead = 0xF4 then some (0x80, 0x8F, 2)
  else if 0xF1 ≤ lead && lead ≤ 0xF3 then some (0x80, 0xBF, 2)
  else none

/-- The bytes behind a leading byte that belong to it. -/
def following (lead : UInt8) (bytes : Bytes) : Nat :=
  match continuation lead, bytes with
  | some (low, high, more), second :: bytes =>
    if low ≤ second && second ≤ high then 1 + ((bytes.take more).takeWhile fun byte => 0x80 ≤ byte && byte ≤ 0xBF).length else 0
  | _, _ => 0

/-- Each character, and U+FFFD for each part that is none. -/
def replaced : Nat → Bytes → Text
  | 0, _ => []
  | _, [] => []
  | fuel + 1, lead :: bytes =>
    let length := following lead bytes
    (match fromUtf8 (lead :: bytes.take length) with
      | some [c] => c
      | _ => Char.ofNat 0xFFFD) :: replaced fuel (bytes.drop length)

/-- `String::from_utf8_lossy`. -/
def fromUtf8Lossy (bytes : Bytes) : Text := (fromUtf8 bytes).getD (replaced bytes.length bytes)

theorem fromUtf8Lossy_utf8 (text : Text) : fromUtf8Lossy (utf8 text) = text := by
  rw [fromUtf8Lossy, fromUtf8_utf8]
  rfl

/-! ## The write -/

/-- In milliseconds. -/
def NETWORK_POLICY_READBACK_BUDGET : Nat := 5000

def NETWORK_POLICY_RESPONSE_RESERVE : Nat := 500

/-- What is left for the readback. -/
def readbackBudget (requestTimeout elapsed : Nat) : Nat :=
  min (requestTimeout - elapsed - NETWORK_POLICY_RESPONSE_RESERVE) NETWORK_POLICY_READBACK_BUDGET

/-- The call ends with a result or an error, unless it panics. -/
inductive Outcome where
  | panicked
  | returned (result : Except McpError CallToolResult)

/-- The output before the write. -/
def preview (request : ConfigurationRequest) : SortedMap Text Json :=
  (((SortedMap.empty.insert "operation".toList (.string request.operation.name)).insert "id".toList
    ((request.id.map Json.string).getD .null)).insert "requested".toList (request.requested.getD .null)).insert
      "submitted".toList (.bool false)

/-- The output behind an accepted write. -/
def accepted (request : ConfigurationRequest) (status : Nat) (body : Bytes) : SortedMap Text Json :=
  (((preview request).insert "submitted".toList (.bool true)).insert "responseStatus".toList (.number (dec status))).insert
    "responseBody".toList (.string (fromUtf8Lossy body))

/-- The `_id` of the only row. -/
def acceptedId (envelope : Json) : Option Text :=
  match envelope.get "data".toList with
  | some (.array [row]) => (row.get "_id".toList).bind Json.asStr
  | _ => none

/-- `verified` of a created or updated record; `none` is the panic of the `expect`. -/
def verified (requested : Option Json) (id : Text) (acceptedId : Option Text) : List Json → Option Bool
  | [row] =>
    if (row.get "_id".toList).bind Json.asStr = some id ∧ acceptedId.all (· = id) then
      requested.map fun requested => requestedJsonMatches requested row
    else some false
  | _ => some false

def isNotFound : ApiError → Bool
  | .status 404 _ => true
  | .rejected (some 404) _ _ => true
  | _ => false

/-- The output behind the readback (legacy_configuration.rs:441-484); `none` is a panic, and no readback is one that
timed out. -/
def readBackInto (request : ConfigurationRequest) (id : Text) (acceptedId : Option Text)
    (output : SortedMap Text Json) : Option (Except ApiError Json) → Option (SortedMap Text Json)
  | none => some (output.insert "readbackError".toList (.string (request.family.label ++ " readback timed out".toList)))
  | some (.ok after) =>
    match after.get "data".toList with
    | some (.array rows) =>
      let output := if request.operation = .delete then some (output.insert "verifiedAbsent".toList (.bool rows.isEmpty))
        else (verified request.requested id acceptedId rows).map fun verified => output.insert "verified".toList (.bool verified)
      output.map fun output => output.insert "after".toList after
    | _ => none
  | some (.error error) =>
    let output := if isNotFound error ∧ request.operation = .delete then output.insert "verifiedAbsent".toList (.bool true) else output
    some (output.insert "readbackError".toList (.string error.display))

/-- The output behind an accepted body (legacy_configuration.rs:412-485). -/
def report (r : Readers) (request : ConfigurationRequest) (envelope : Json) (budget : Nat)
    (readback : Option (Except ApiError Json)) (output : SortedMap Text Json) : Option (SortedMap Text Json) :=
  match request.id.or (acceptedId envelope) with
  | none => some (output.insert "readbackError".toList (.string
      ("accepted response contains no single ".toList ++ request.family.label ++ " identifier".toList)))
  | some id =>
    let output := output.insert "id".toList (.string id)
    match validateId id with
    | .error error => some (output.insert "readbackError".toList (.string (r.display error)))
    | .ok () =>
      if budget = 0 then
        some (output.insert "readbackError".toList
          (.string (request.family.label ++ " readback skipped near request deadline".toList)))
      else readBackInto request id (acceptedId envelope) output readback

/-- `legacy_configuration_write` (legacy_configuration.rs:396). `submitted` is what `submit` returns, `readback` what the
request for the record ends in, or nothing when it times out. -/
def legacyConfigurationWrite (r : Readers) (request : ConfigurationRequest) (submitted : Except ApiError (Nat × Bytes))
    (requestTimeout elapsed : Nat) (readback : Option (Except ApiError Bytes)) : Outcome :=
  match request.validate with
  | .error error => .returned (.error error)
  | .ok () =>
    if !request.confirm then .returned (result r.serde (preview request))
    else match submitted with
    | .error error => .returned (.error (apiError error))
    | .ok (status, body) =>
      match r.codecs.fromSlice body with
      | none => .panicked
      | some envelope =>
        match report r request envelope (readbackBudget requestTimeout elapsed) (readback.map (configurationRecord r))
          (accepted request status body) with
        | none => .panicked
        | some output => .returned (result r.serde output)

/-! ## No other panic -/

/-- **A record read back has its rows.** -/
theorem legacyRecordEnvelope_data {r : Readers} {bytes : Bytes} {envelope : Json} (h : legacyRecordEnvelope r bytes = .ok envelope) :
    ∃ rows, envelope.get "data".toList = some (.array rows) := by
  unfold legacyRecordEnvelope at h
  split at h
  · cases h
  · split at h
    · rename_i hdata
      cases h
      exact ⟨_, hdata⟩
    · cases h

theorem configurationRecord_data {r : Readers} {answer : Except ApiError Bytes} {envelope : Json}
    (h : configurationRecord r answer = .ok envelope) : ∃ rows, envelope.get "data".toList = some (.array rows) := by
  cases answer with
  | error error => cases h
  | ok bytes => exact legacyRecordEnvelope_data h

theorem validShape_of_valid {request : ConfigurationRequest} (h : request.validate = .ok ()) : request.validShape = true := by
  unfold ConfigurationRequest.validate at h
  split at h
  · cases h
  · split at h
    · cases h
    · rename_i hshape
      simpa using hshape

/-- A request that is no deletion has a configuration. -/
theorem requested_of_valid {request : ConfigurationRequest} (h : request.validate = .ok ()) (hwrite : request.operation ≠ .delete) :
    ∃ requested, request.requested = some requested := by
  have hshape := validShape_of_valid h
  have hconfiguration : hasConfiguration request.requested = true := by
    unfold ConfigurationRequest.validShape at hshape
    cases hoperation : request.operation with
    | delete => exact absurd hoperation hwrite
    | create | update =>
      rw [hoperation] at hshape
      exact (Bool.and_eq_true_iff.1 hshape).2
  cases hrequested : request.requested with
  | none =>
    rw [hrequested] at hconfiguration
    cases hconfiguration
  | some requested => exact ⟨requested, rfl⟩

/-- A valid request is sent as a mutation. -/
theorem submit_of_valid {request : ConfigurationRequest} (h : request.validate = .ok ()) (site : Text)
    (decode : Bytes → Except Text (LegacyEnvelope Json)) :
    ∃ write, request.submit site decode = some write ∧ write.class_ = .mutation := by
  have hshape := validShape_of_valid h
  unfold ConfigurationRequest.validShape at hshape
  unfold ConfigurationRequest.submit
  cases hoperation : request.operation with
  | create =>
    obtain ⟨requested, hrequested⟩ := requested_of_valid h (by rw [hoperation]; decide)
    rw [hrequested]
    exact ⟨_, rfl, rfl⟩
  | update =>
    obtain ⟨requested, hrequested⟩ := requested_of_valid h (by rw [hoperation]; decide)
    rw [hoperation] at hshape
    obtain ⟨id, hid⟩ := Option.isSome_iff_exists.1 (Bool.and_eq_true_iff.1 hshape).1
    rw [hrequested, hid]
    exact ⟨_, rfl, rfl⟩
  | delete =>
    rw [hoperation] at hshape
    obtain ⟨id, hid⟩ := Option.isSome_iff_exists.1 (Bool.and_eq_true_iff.1 hshape).1
    rw [hid]
    exact ⟨_, rfl, rfl⟩

theorem verified_of_requested {requested : Json} (id : Text) (acceptedId : Option Text) (rows : List Json) :
    ∃ value, verified (some requested) id acceptedId rows = some value := by
  unfold verified
  split
  · split
    · exact ⟨_, rfl⟩
    · exact ⟨_, rfl⟩
  · exact ⟨_, rfl⟩

/-- **Behind a body that parses nothing panics.** -/
theorem report_total {r : Readers} {request : ConfigurationRequest} (h : request.validate = .ok ()) (envelope : Json) (budget : Nat)
    (readback : Option (Except ApiError Bytes)) (output : SortedMap Text Json) :
    ∃ shown, report r request envelope budget (readback.map (configurationRecord r)) output = some shown := by
  unfold report
  split
  · exact ⟨_, rfl⟩
  · dsimp only
    split
    · exact ⟨_, rfl⟩
    · split
      · exact ⟨_, rfl⟩
      · rename_i id hid _ _ _
        cases readback with
        | none => exact ⟨_, rfl⟩
        | some answer =>
          rw [Option.map_some]
          cases hrecord : configurationRecord r answer with
          | error error => exact ⟨_, rfl⟩
          | ok after =>
            obtain ⟨rows, hrows⟩ := configurationRecord_data hrecord
            unfold readBackInto
            dsimp only
            rw [hrows]
            dsimp only
            split
            · exact ⟨_, rfl⟩
            · rename_i hwrite
              obtain ⟨requested, hrequested⟩ := requested_of_valid h hwrite
              obtain ⟨value, hvalue⟩ := @verified_of_requested requested id (acceptedId envelope) rows
              rw [hrequested, hvalue]
              exact ⟨_, rfl⟩

/-! ## What a report holds -/

/-- The fields of a report, each with the values it may have. -/
inductive Field (request : ConfigurationRequest) (status : Nat) (body : Bytes) (readback : Option (Except ApiError Json)) :
    Text → Json → Prop
  | operation : Field request status body readback "operation".toList (.string request.operation.name)
  | noId : Field request status body readback "id".toList .null
  | id (id : Text) : Field request status body readback "id".toList (.string id)
  | noRequested : Field request status body readback "requested".toList .null
  | requested {requested : Json} (h : request.requested = some requested) : Field request status body readback "requested".toList requested
  | submitted : Field request status body readback "submitted".toList (.bool true)
  | status : Field request status body readback "responseStatus".toList (.number (dec status))
  | body : Field request status body readback "responseBody".toList (.string (fromUtf8Lossy body))
  | error (text : Text) : Field request status body readback "readbackError".toList (.string text)
  | verified (verified : Bool) : Field request status body readback "verified".toList (.bool verified)
  | absent (absent : Bool) : Field request status body readback "verifiedAbsent".toList (.bool absent)
  | after {after : Json} (h : readback = some (.ok after)) : Field request status body readback "after".toList after

/-- What the readback may add. -/
def ADDED : List Text :=
  ["id".toList, "readbackError".toList, "verified".toList, "verifiedAbsent".toList, "after".toList]

section
variable {request : ConfigurationRequest} {status : Nat} {body : Bytes} {readback : Option (Except ApiError Json)}
  {output shown : SortedMap Text Json}

/-- Fields were added to an output. -/
def Grows (request : ConfigurationRequest) (status : Nat) (body : Bytes) (readback : Option (Except ApiError Json))
    (output shown : SortedMap Text Json) : Prop :=
  ∀ key, shown.find? key = output.find? key ∨
    ADDED.contains key = true ∧ ∃ value, shown.find? key = some value ∧ Field request status body readback key value

theorem Grows.insert (h : Grows request status body readback output shown) {key : Text} {value : Json}
    (hkey : ADDED.contains key = true) (hvalue : Field request status body readback key value) :
    Grows request status body readback output (shown.insert key value) := by
  intro other
  rw [SortedMap.find?_insert]
  by_cases hother : other = key
  · rw [if_pos hother, hother]
    exact Or.inr ⟨hkey, value, rfl, hvalue⟩
  · rw [if_neg hother]
    exact h other

theorem readBackInto_grows {id : Text} {acceptedId : Option Text} {base : SortedMap Text Json}
    (hbase : Grows request status body readback base output)
    (h : readBackInto request id acceptedId output readback = some shown) : Grows request status body readback base shown := by
  cases readback with
  | none =>
    cases h
    exact hbase.insert (by decide) (.error _)
  | some answer =>
    cases answer with
    | error error =>
      cases h
      refine Grows.insert ?_ (by decide) (.error _)
      split
      · exact hbase.insert (by decide) (.absent _)
      · exact hbase
    | ok after =>
      unfold readBackInto at h
      dsimp only at h
      split at h
      · obtain ⟨judged, hjudged, rfl⟩ := Option.map_eq_some_iff.1 h
        refine Grows.insert ?_ (by decide) (.after rfl)
        split at hjudged
        · cases hjudged
          exact hbase.insert (by decide) (.absent _)
        · obtain ⟨value, -, rfl⟩ := Option.map_eq_some_iff.1 hjudged
          exact hbase.insert (by decide) (.verified _)
      · cases h

theorem report_grows {r : Readers} {envelope : Json} {budget : Nat}
    (h : report r request envelope budget readback output = some shown) : Grows request status body readback output shown := by
  have hsame : Grows request status body readback output output := fun _ => Or.inl rfl
  unfold report at h
  split at h
  · cases h
    exact hsame.insert (by decide) (.error _)
  · have hid := fun id : Text => hsame.insert (by decide) (.id id)
    dsimp only at h
    split at h
    · cases h
      exact (hid _).insert (by decide) (.error _)
    · split at h
      · cases h
        exact (hid _).insert (by decide) (.error _)
      · exact readBackInto_grows (hid _) h

/-- The fields before the readback. -/
theorem accepted_field {key : Text} {value : Json} (h : (accepted request status body).find? key = some value) :
    Field request status body readback key value := by
  unfold accepted preview at h
  simp only [SortedMap.find?_insert] at h
  split_ifs at h with hbody hstatus hsubmitted hrequested hid hoperation
  · cases h
    exact hbody ▸ .body
  · cases h
    exact hstatus ▸ .status
  · cases h
    exact hsubmitted ▸ .submitted
  · cases h
    subst hrequested
    cases hvalue : request.requested with
    | none => exact .noRequested
    | some requested => exact .requested hvalue
  · cases h
    subst hid
    cases hvalue : request.id with
    | none => exact .noId
    | some id => exact .id id
  · cases h
    exact hoperation ▸ .operation
  · cases h

end

/-! ## The last conversion -/

theorem recodeField_name {serde : SerdeJson} {object : SortedMap Text Json} {entry : Text × FieldType} {field : Text × Option Json}
    (h : recodeField serde object entry = .ok field) : field.1 = entry.1 := by
  unfold recodeField at h
  split at h
  · cases h
    rfl
  · cases h
    rfl
  · cases hrecode : serde.recode entry.2 _ with
    | error error => rw [hrecode] at h; cases h
    | ok value =>
      rw [hrecode] at h
      cases h
      rfl

theorem fields_of_recoded {serde : SerdeJson} {object shown : SortedMap Text Json} (h : recodeObject serde object = .ok shown) :
    ∃ fields, LEGACY_RESULT.mapM (recodeField serde object) = .ok fields ∧ shown = SortedMap.ofOptions fields := by
  unfold recodeObject at h
  cases hfields : LEGACY_RESULT.mapM (recodeField serde object) with
  | error error => rw [hfields] at h; cases h
  | ok fields =>
    rw [hfields] at h
    exact ⟨fields, rfl, (Except.ok.inj h).symm⟩

theorem recodeField_some {serde : SerdeJson} {object : SortedMap Text Json} {entry : Text × FieldType} {value : Json}
    (hvalue : object.find? entry.1 = some value) (hnull : value ≠ .null) :
    recodeField serde object entry = (serde.recode entry.2 value).map fun value => (entry.1, some value) := by
  unfold recodeField
  rw [hvalue]
  cases value <;> first | rfl | exact absurd rfl hnull

/-- `from_value` decodes an object when it decodes each declared field. -/
theorem recodeObject_ok_iff {serde : SerdeJson} {object : SortedMap Text Json} :
    (∃ shown, recodeObject serde object = .ok shown) ↔ ∀ entry ∈ LEGACY_RESULT, ∀ value, object.find? entry.1 = some value →
      value ≠ .null → ∃ recoded, serde.recode entry.2 value = .ok recoded := by
  constructor
  · rintro ⟨shown, hshown⟩ entry hentry value hvalue hnull
    obtain ⟨fields, hfields, -⟩ := fields_of_recoded hshown
    obtain ⟨field, -, hfield⟩ := Fallible.mem_of_mapM hfields hentry
    rw [recodeField_some hvalue hnull] at hfield
    cases hrecode : serde.recode entry.2 value with
    | ok recoded => exact ⟨recoded, rfl⟩
    | error error => rw [hrecode] at hfield; cases hfield
  · intro h
    have hfields : ∀ entry ∈ LEGACY_RESULT, ∃ field, recodeField serde object entry = .ok field := by
      intro entry hentry
      unfold recodeField
      split
      · exact ⟨_, rfl⟩
      · exact ⟨_, rfl⟩
      · rename_i value hnull hvalue
        obtain ⟨recoded, hrecoded⟩ := h entry hentry value hvalue hnull
        rw [hrecoded]
        exact ⟨_, rfl⟩
    choose! field hfield using hfields
    exact ⟨_, by rw [recodeObject, Fallible.mapM_ok hfield]; rfl⟩

/-- A field behind the conversion. -/
theorem find?_recoded {serde : SerdeJson} {object shown : SortedMap Text Json} (h : recodeObject serde object = .ok shown)
    {name : Text} {type : FieldType} (hentry : (name, type) ∈ LEGACY_RESULT) :
    recodeField serde object (name, type) = .ok (name, shown.find? name) := by
  obtain ⟨fields, hfields, rfl⟩ := fields_of_recoded h
  have hnames : fields.map Prod.fst = LEGACY_RESULT.map Prod.fst := by
    have hsame : List.Forall₂ (fun field entry => field = entry) (fields.map Prod.fst) (LEGACY_RESULT.map Prod.fst) := by
      rw [List.forall₂_map_left_iff, List.forall₂_map_right_iff]
      exact ((Fallible.mapM_eq_ok.1 hfields).imp fun _ _ hfield => recodeField_name hfield).flip
    exact List.forall₂_eq_eq_eq ▸ hsame
  obtain ⟨⟨other, found⟩, hmem, hfield⟩ := Fallible.mem_of_mapM hfields hentry
  obtain rfl : other = name := recodeField_name hfield
  have hnodup : (fields.map Prod.fst).Nodup := by
    rw [hnames]
    decide
  rw [hfield, SortedMap.find?_ofOptions_of_mem hnodup hmem]

/-- What `from_value` makes of the fields that are no `Value`. -/
structure Recodes (serde : SerdeJson) : Prop where
  text : ∀ text, serde.recode .string (.string text) = .ok (.string text)
  status : ∀ n < 65536, serde.recode .u16 (.number (dec n)) = .ok (.number (dec n))
  operation : ∀ operation : NetworkPolicyWriteOperation,
    serde.recode .operation (.string operation.name) = .ok (.string operation.name)

/-- A field that keeps its value. -/
theorem find?_kept {serde : SerdeJson} {object shown : SortedMap Text Json} (h : recodeObject serde object = .ok shown)
    {name : Text} {type : FieldType} {value : Json} (hentry : (name, type) ∈ LEGACY_RESULT) (hvalue : object.find? name = some value)
    (hnull : value ≠ .null) (hrecode : serde.recode type value = .ok value) : shown.find? name = some value := by
  have hfield := find?_recoded h hentry
  rw [@recodeField_some _ _ (name, type) _ hvalue hnull, hrecode] at hfield
  exact (congrArg Prod.snd (Except.ok.inj hfield)).symm

/-! ## What the conversion meets -/

/-- The value of the field decodes, unless it stands in a block by then. -/
def Met (serde : SerdeJson) (front : List LargeField) (name : Text) (output : SortedMap Text Json) : Prop :=
  ∀ value, output.find? name = some value → value ≠ .null →
    tooLong (moveFields front output).kept = true ∨ ∃ recoded, serde.recode .value value = .ok recoded

theorem kept_requested (output : SortedMap Text Json) : (moveFields LEGACY_FIELDS output).kept.find? "requested".toList =
    if tooLong (moveFields (LEGACY_FIELDS.take 1) output).kept then none else output.find? "requested".toList :=
  @Blocks.run_field _ _ _ _ tooLong (.bool true) output (LargeField.move ⟨"requested".toList, .value, plainText⟩)
    ((LEGACY_FIELDS.take 1).map LargeField.move) ((LEGACY_FIELDS.drop 2).map LargeField.move) distinguished_legacy.apart

theorem kept_after (output : SortedMap Text Json) : (moveFields LEGACY_FIELDS output).kept.find? "after".toList =
    if tooLong (moveFields (LEGACY_FIELDS.take 3) output).kept then none else output.find? "after".toList :=
  @Blocks.run_field _ _ _ _ tooLong (.bool true) output (LargeField.move ⟨"after".toList, .value, plainText⟩)
    ((LEGACY_FIELDS.take 3).map LargeField.move) ((LEGACY_FIELDS.drop 4).map LargeField.move) distinguished_legacy.apart

theorem result_ok {serde : SerdeJson} {output : SortedMap Text Json} {shown : CallToolResult} (h : result serde output = .ok shown) :
    ∃ object, recodeObject serde (moveFields LEGACY_FIELDS output).kept = .ok object ∧
      shown = structuredWith object (moveFields LEGACY_FIELDS output).blocks := by
  have hmoved : Blocks.loop tooLong (.bool true) (LEGACY_FIELDS.map LargeField.move) ⟨output, []⟩ =
      moveFields LEGACY_FIELDS output := Blocks.loop_eq_run _ _
  unfold result at h
  dsimp only at h
  rw [hmoved] at h
  split at h
  · cases h
  · rename_i object hobject
    cases h
    exact ⟨object, hobject, rfl⟩

section
variable {request : ConfigurationRequest} {status : Nat} {body : Bytes} {readback : Option (Except ApiError Json)}
  {output : SortedMap Text Json} {serde : SerdeJson}

/-- Only the two values may be refused. -/
theorem Field.recodes (hserde : Recodes serde) (hstatus : status < 65536) {key : Text} {value : Json}
    (h : Field request status body readback key value) {type : FieldType} (htype : (key, type) ∈ LEGACY_RESULT) (hnull : value ≠ .null) :
    serde.recode type value = .ok value ∨ type = .value ∧ (key = "requested".toList ∨ key = "after".toList) := by
  have hmember (name : Text) (other : FieldType) (h : LEGACY_RESULT.contains (name, other) = true) : (name, other) ∈ LEGACY_RESULT := by
    simpa using h
  cases h with
  | operation => exact Or.inl (legacy_types htype (hmember _ .operation (by decide)) ▸ hserde.operation _)
  | noId | noRequested => exact absurd rfl hnull
  | id | body | error => exact Or.inl (legacy_types htype (hmember _ .string (by decide)) ▸ hserde.text _)
  | submitted | verified | absent => exact Or.inl (legacy_types htype (hmember _ .flag (by decide)) ▸ serde.recode_flag _)
  | status => exact Or.inl (legacy_types htype (hmember _ .u16 (by decide)) ▸ hserde.status status hstatus)
  | requested => exact Or.inr ⟨legacy_types htype (hmember _ .value (by decide)), Or.inl rfl⟩
  | after => exact Or.inr ⟨legacy_types htype (hmember _ .value (by decide)), Or.inr rfl⟩

/-- **The conversion succeeds exactly when the values it meets decode.** -/
theorem result_ok_iff (hserde : Recodes serde) (hstatus : status < 65536)
    (hfields : ∀ key value, output.find? key = some value → Field request status body readback key value) :
    (∃ shown, result serde output = .ok shown) ↔
      Met serde (LEGACY_FIELDS.take 1) "requested".toList output ∧ Met serde (LEGACY_FIELDS.take 3) "after".toList output := by
  have hresult : (∃ shown, result serde output = .ok shown) ↔
      ∃ object, recodeObject serde (moveFields LEGACY_FIELDS output).kept = .ok object :=
    ⟨fun ⟨_, h⟩ => (result_ok h).imp fun _ h => h.1, fun ⟨_, h⟩ => ⟨_, result_of_recode h⟩⟩
  rw [hresult, recodeObject_ok_iff]
  have hmet {front : List LargeField} {name : Text}
      (hkept : (moveFields LEGACY_FIELDS output).kept.find? name =
        if tooLong (moveFields front output).kept then none else output.find? name)
      (hentry : (name, FieldType.value) ∈ LEGACY_RESULT)
      (h : ∀ entry ∈ LEGACY_RESULT, ∀ value, (moveFields LEGACY_FIELDS output).kept.find? entry.1 = some value →
        value ≠ .null → ∃ recoded, serde.recode entry.2 value = .ok recoded) : Met serde front name output := by
    intro value hvalue hnull
    cases hlong : tooLong (moveFields front output).kept with
    | true => exact Or.inl rfl
    | false =>
      rw [hlong, if_neg Bool.false_ne_true] at hkept
      exact Or.inr (h (name, .value) hentry value (hkept.trans hvalue) hnull)
  constructor
  · intro h
    exact ⟨hmet (kept_requested output) (by decide) h, hmet (kept_after output) (by decide) h⟩
  · rintro ⟨hrequested, hafter⟩ ⟨name, type⟩ hentry value hvalue hnull
    rcases Blocks.run_kept _ hvalue with hsame | ⟨rfl, move, hmove, hname⟩
    · rcases (hfields name value hsame).recodes hserde hstatus hentry hnull with hrecode | ⟨rfl, rfl | rfl⟩
      · exact ⟨value, hrecode⟩
      · rcases hrequested value hsame hnull with hlong | hrecoded
        · rw [show (moveFields LEGACY_FIELDS output).kept.find? "requested".toList = none from
            (kept_requested output).trans (if_pos hlong)] at hvalue
          cases hvalue
        · exact hrecoded
      · rcases hafter value hsame hnull with hlong | hrecoded
        · rw [show (moveFields LEGACY_FIELDS output).kept.find? "after".toList = none from
            (kept_after output).trans (if_pos hlong)] at hvalue
          cases hvalue
        · exact hrecoded
    · obtain ⟨field, hfield, rfl⟩ := List.mem_map.1 hmove
      have hflag := legacy_markers field hfield
      obtain rfl : name = field.marker := hname
      rw [show type = .flag from legacy_types hentry hflag]
      exact ⟨_, serde.recode_flag true⟩

end

/-! ## The size of a report -/

def requestedMove : Blocks.Move Text Json Text := LargeField.move ⟨"requested".toList, .value, plainText⟩

def bodyMove : Blocks.Move Text Json Text := LargeField.move ⟨"responseBody".toList, .string, plainText⟩

/-- Whether the object is too long at the turn of `after`: with both the configuration and the body, with the mark of
the one, and with both marks. -/
theorem tooLong_front {output : SortedMap Text Json} {requested body : Json} (hresponse : output.find? "response".toList = none)
    (hrequested : output.find? "requested".toList = some requested) (hbody : output.find? "responseBody".toList = some body) :
    tooLong (moveFields (LEGACY_FIELDS.take 3) output).kept = (tooLong output &&
      tooLong (Blocks.given (.bool true) output requestedMove) &&
      tooLong (Blocks.given (.bool true) (Blocks.given (.bool true) output requestedMove) bodyMove)) := by
  have hfields : LEGACY_FIELDS.take 3 = [⟨"response".toList, .value, plainText⟩, ⟨"requested".toList, .value, plainText⟩,
      ⟨"responseBody".toList, .string, plainText⟩] := rfl
  have habsent : Blocks.step tooLong (.bool true) (⟨output, []⟩ : Blocks.Moved Text Json Text)
      (LargeField.move ⟨"response".toList, .value, plainText⟩) = ⟨output, []⟩ := Blocks.step_of_absent hresponse
  have hrun : moveFields (LEGACY_FIELDS.take 3) output =
      Blocks.step tooLong (.bool true) (Blocks.step tooLong (.bool true) ⟨output, []⟩ requestedMove) bodyMove := by
    rw [moveFields, hfields, requestedMove, bodyMove]
    simp only [List.map_cons, List.map_nil, Blocks.run, List.foldl_cons, List.foldl_nil]
    rw [habsent]
  have hfirst := @Blocks.step_shown _ _ _ _ tooLong (.bool true) ⟨output, []⟩ requestedMove _ _ hrequested rfl
  have hkept : (Blocks.step tooLong (.bool true) ⟨output, []⟩ requestedMove).kept.find? "responseBody".toList = some body := by
    rw [hfirst]
    split
    · rw [Blocks.find?_given, if_neg (by decide), if_neg (by decide), hbody]
    · exact hbody
  rw [hrun, @Blocks.big_step_shown _ _ _ _ tooLong (.bool true) _ bodyMove _ _ hkept rfl, hfirst]
  cases hlong : tooLong output with
  | false => simp [hlong]
  | true => simp

/-- What the call says of the rows it read back. -/
def verdictName (request : ConfigurationRequest) : Text :=
  if request.operation = .delete then "verifiedAbsent".toList else "verified".toList

def verdict (request : ConfigurationRequest) (id : Text) (acceptedId : Option Text) (rows : List Json) : Bool :=
  if request.operation = .delete then rows.isEmpty else (verified request.requested id acceptedId rows).getD false

/-- The bytes of a report with a record read back, but for the configuration and the body. -/
def recordSize (request : ConfigurationRequest) (status : Nat) (id : Text) (verdict : Bool) (after : Json) : Nat :=
  1 + memberSize "operation".toList (.string request.operation.name) + memberSize "id".toList (.string id) +
    memberSize "submitted".toList (.bool true) + memberSize "responseStatus".toList (.number (dec status)) +
    memberSize (verdictName request) (.bool verdict) + memberSize "after".toList after

def requestedSize (request : ConfigurationRequest) : Nat := memberSize "requested".toList (request.requested.getD .null)

def bodySize (body : Bytes) : Nat := memberSize "responseBody".toList (.string (fromUtf8Lossy body))

def markSize (name : Text) : Nat := memberSize (name ++ "InContent".toList) (.bool true)

/-- The report of a record that was read back. -/
def recordReport (request : ConfigurationRequest) (status : Nat) (body : Bytes) (id : Text) (verdict : Bool) (after : Json) :
    SortedMap Text Json :=
  (((accepted request status body).insert "id".toList (.string id)).insert (verdictName request) (.bool verdict)).insert
    "after".toList after

section
variable {request : ConfigurationRequest} {status : Nat} {body : Bytes} {id : Text} {verdict : Bool} {after : Json}

/-- The members that may be moved, with their marks. -/
def movedNames : List Text :=
  ["requested".toList, "requestedInContent".toList, "responseBody".toList, "responseBodyInContent".toList]

/-- The names of its members. -/
def recordNames (request : ConfigurationRequest) : List Text :=
  ["operation".toList, "id".toList, "submitted".toList, "responseStatus".toList, verdictName request, "after".toList] ++ movedNames

theorem verdictName_cases (request : ConfigurationRequest) :
    verdictName request = "verifiedAbsent".toList ∨ verdictName request = "verified".toList := by
  unfold verdictName
  split
  · exact Or.inl rfl
  · exact Or.inr rfl

theorem find?_recordReport (key : Text) : (recordReport request status body id verdict after).find? key =
    if key = "after".toList then some after
    else if key = verdictName request then some (.bool verdict)
    else if key = "id".toList then some (.string id)
    else if key = "responseBody".toList then some (.string (fromUtf8Lossy body))
    else if key = "responseStatus".toList then some (.number (dec status))
    else if key = "submitted".toList then some (.bool true)
    else if key = "requested".toList then some (request.requested.getD .null)
    else if key = "operation".toList then some (.string request.operation.name) else none := by
  simp only [recordReport, accepted, preview, SortedMap.find?_insert, SortedMap.find?_empty]
  split_ifs <;> rfl

/-- A member that is no verdict. -/
theorem find?_recordReport_plain {key : Text} (h1 : key ≠ "verifiedAbsent".toList) (h2 : key ≠ "verified".toList) :
    (recordReport request status body id verdict after).find? key = if key = "after".toList then some after
      else if key = "id".toList then some (.string id)
      else if key = "responseBody".toList then some (.string (fromUtf8Lossy body))
      else if key = "responseStatus".toList then some (.number (dec status))
      else if key = "submitted".toList then some (.bool true)
      else if key = "requested".toList then some (request.requested.getD .null)
      else if key = "operation".toList then some (.string request.operation.name) else none := by
  rw [find?_recordReport, if_neg (c := key = verdictName request)]
  obtain h | h := verdictName_cases request <;> rw [h] <;> assumption

theorem nodup_recordNames (request : ConfigurationRequest) : (recordNames request).Nodup := by
  unfold recordNames
  obtain h | h := verdictName_cases request <;> rw [h] <;> decide

theorem mem_recordNames {key : Text} (h : (recordReport request status body id verdict after).find? key ≠ none) :
    key ∈ recordNames request := by
  rw [find?_recordReport] at h
  split_ifs at h with h1 h2 h3 h4 h5 h6 h7 h8
  · simp [h1, recordNames]
  · simp [h2, recordNames]
  · simp [h3, recordNames]
  · simp [h4, recordNames, movedNames]
  · simp [h5, recordNames]
  · simp [h6, recordNames]
  · simp [h7, recordNames, movedNames]
  · simp [h8, recordNames]
  · exact absurd rfl h

theorem find?_recordReport_verdict :
    (recordReport request status body id verdict after).find? (verdictName request) = some (.bool verdict) := by
  rw [find?_recordReport, if_neg (by obtain h | h := verdictName_cases request <;> rw [h] <;> decide), if_pos rfl]

/-- The bytes of an object that has the fixed members of a report, and perhaps the others. -/
theorem byteLen_of_parts {object : SortedMap Text Json} {moved : Nat}
    (hfixed : ∀ key ∉ movedNames, object.find? key = (recordReport request status body id verdict after).find? key)
    (hmoved : (movedNames.map fun key => ((object.find? key).map (memberSize key)).getD 0).sum = moved) :
    byteLen (objectText object) = recordSize request status id verdict after + moved := by
  have hkeys : ∀ key, object.find? key ≠ none → key ∈ recordNames request := by
    intro key hkey
    by_cases hpart : key ∈ movedNames
    · exact List.mem_append_right _ hpart
    · exact mem_recordNames (hfixed key hpart ▸ hkey)
  have hsize {key : Text} {value : Json} (hfind : (recordReport request status body id verdict after).find? key = some value)
      (hpart : key ∉ movedNames) : ((object.find? key).map (memberSize key)).getD 0 = memberSize key value := by
    rw [hfixed key hpart, hfind]
    rfl
  have hplain (key : Text) := @find?_recordReport_plain request status body id verdict after key
  have hoperation := hsize ((hplain "operation".toList (by decide) (by decide)).trans rfl) (by decide)
  have hid := hsize ((hplain "id".toList (by decide) (by decide)).trans rfl) (by decide)
  have hsubmitted := hsize ((hplain "submitted".toList (by decide) (by decide)).trans rfl) (by decide)
  have hstatus := hsize ((hplain "responseStatus".toList (by decide) (by decide)).trans rfl) (by decide)
  have hafter := hsize ((hplain "after".toList (by decide) (by decide)).trans rfl) (by decide)
  have hverdict := hsize find?_recordReport_verdict (by obtain h | h := verdictName_cases request <;> rw [h] <;> decide)
  have hfound : object.find? "after".toList = some after := by
    rw [hfixed _ (by decide), find?_recordReport, if_pos rfl]
  have hentries : object.entries ≠ [] := List.ne_nil_of_mem (SortedMap.find?_eq_some.1 hfound)
  rw [byteLen_objectText hentries, SortedMap.total_eq (nodup_recordNames request) hkeys, recordNames, List.map_append,
    List.sum_append, hmoved]
  simp only [List.map_cons, List.map_nil, List.sum_cons, List.sum_nil, hoperation, hid, hsubmitted, hstatus, hafter, hverdict,
    recordSize]
  omega

/-- The report is over the target when the record's turn comes: with the configuration and the body, with the mark of the
one, and with the marks of both. -/
def OverTarget (request : ConfigurationRequest) (status : Nat) (body : Bytes) (id : Text) (verdict : Bool) (after : Json) : Prop :=
  ∀ moved ∈ [requestedSize request + bodySize body, markSize "requested".toList + bodySize body,
      markSize "requested".toList + markSize "responseBody".toList],
    STRUCTURED_CONTENT_TARGET_BYTES < recordSize request status id verdict after + moved

/-- The members that may stand in blocks at that turn. -/
structure Movable (requested body : Json) (report : SortedMap Text Json) : Prop where
  response : report.find? "response".toList = none
  requested : report.find? "requested".toList = some requested
  requestedMark : report.find? "requestedInContent".toList = none
  body : report.find? "responseBody".toList = some body
  bodyMark : report.find? "responseBodyInContent".toList = none

theorem movable_recordReport : Movable (request.requested.getD .null) (.string (fromUtf8Lossy body))
    (recordReport request status body id verdict after) where
  response := (find?_recordReport_plain (by decide) (by decide)).trans rfl
  requested := (find?_recordReport_plain (by decide) (by decide)).trans rfl
  requestedMark := (find?_recordReport_plain (by decide) (by decide)).trans rfl
  body := (find?_recordReport_plain (by decide) (by decide)).trans rfl
  bodyMark := (find?_recordReport_plain (by decide) (by decide)).trans rfl

/-- With the configuration in a block, and with the body too. -/
theorem find?_requestedGiven (object : SortedMap Text Json) (key : Text) :
    (Blocks.given (.bool true) object requestedMove).find? key = if key = "requestedInContent".toList then some (.bool true)
      else if key = "requested".toList then none else object.find? key := by
  rw [Blocks.find?_given]
  congr

theorem find?_bodyGiven (object : SortedMap Text Json) (key : Text) :
    (Blocks.given (.bool true) object bodyMove).find? key = if key = "responseBodyInContent".toList then some (.bool true)
      else if key = "responseBody".toList then none else object.find? key := by
  rw [Blocks.find?_given]
  congr

/-- **The record's turn, in sizes.** -/
theorem tooLong_recordReport : tooLong (moveFields (LEGACY_FIELDS.take 3) (recordReport request status body id verdict after)).kept = true ↔
    OverTarget request status body id verdict after := by
  have hparts := @movable_recordReport request status body id verdict after
  have hwhole : byteLen (objectText (recordReport request status body id verdict after)) =
      recordSize request status id verdict after + (requestedSize request + bodySize body) := by
    refine @byteLen_of_parts request status body id verdict after _ _ (fun _ _ => rfl) ?_
    simp only [movedNames, List.map_cons, List.map_nil, List.sum_cons, List.sum_nil, hparts.requested, hparts.requestedMark, hparts.body,
      hparts.bodyMark]
    simp [requestedSize, bodySize]
  have hone : byteLen (objectText (Blocks.given (.bool true) (recordReport request status body id verdict after) requestedMove)) =
      recordSize request status id verdict after + (markSize "requested".toList + bodySize body) := by
    refine @byteLen_of_parts request status body id verdict after _ _ (fun key hkey => ?_) ?_
    · simp only [movedNames, List.mem_cons, not_or] at hkey
      rw [find?_requestedGiven, if_neg hkey.2.1, if_neg hkey.1]
    · simp only [movedNames, List.map_cons, List.map_nil, List.sum_cons, List.sum_nil, find?_requestedGiven, hparts.body, hparts.bodyMark]
      simp [markSize, bodySize]
  have htwo : byteLen (objectText (Blocks.given (.bool true)
      (Blocks.given (.bool true) (recordReport request status body id verdict after) requestedMove) bodyMove)) =
      recordSize request status id verdict after + (markSize "requested".toList + markSize "responseBody".toList) := by
    refine @byteLen_of_parts request status body id verdict after _ _ (fun key hkey => ?_) ?_
    · simp only [movedNames, List.mem_cons, not_or] at hkey
      rw [find?_bodyGiven, if_neg hkey.2.2.2.1, if_neg hkey.2.2.1, find?_requestedGiven, if_neg hkey.2.1, if_neg hkey.1]
    · simp only [movedNames, List.map_cons, List.map_nil, List.sum_cons, List.sum_nil, find?_bodyGiven, find?_requestedGiven]
      simp [markSize]
  rw [tooLong_front hparts.response hparts.requested hparts.body]
  simp only [Bool.and_eq_true, tooLong, decide_eq_true_eq, hwhole, hone, htwo, OverTarget, List.forall_mem_cons]
  simp [and_assoc]

end

/-! ## The record read back -/

/-- The request or the accepted row names a record, there is time for it, and it is read with its rows. -/
structure ReadBack (request : ConfigurationRequest) (envelope : Json) (budget : Nat) (readback : Option (Except ApiError Json))
    (id : Text) (after : Json) (rows : List Json) : Prop where
  named : request.id.or (acceptedId envelope) = some id
  valid : validateId id = .ok ()
  inTime : budget ≠ 0
  read : readback = some (.ok after)
  rows : after.get "data".toList = some (.array rows)

section
variable {r : Readers} {request : ConfigurationRequest} {status : Nat} {body : Bytes} {envelope : Json} {budget : Nat}
  {readback : Option (Except ApiError Json)} {output : SortedMap Text Json} {id : Text} {after : Json} {rows : List Json}

/-- What the call says of the record. -/
theorem report_of_readBack (hvalid : request.validate = .ok ()) (h : ReadBack request envelope budget readback id after rows) :
    report r request envelope budget readback (accepted request status body) =
      some (recordReport request status body id (verdict request id (acceptedId envelope) rows) after) := by
  unfold report readBackInto
  rw [h.named]
  dsimp only
  rw [h.valid, h.read]
  dsimp only
  rw [if_neg h.inTime, h.rows]
  dsimp only
  unfold recordReport verdictName verdict
  by_cases hdelete : request.operation = .delete
  · rw [if_pos hdelete, if_pos hdelete, if_pos hdelete]
    rfl
  · obtain ⟨requested, hrequested⟩ := requested_of_valid hvalid hdelete
    obtain ⟨value, hvalue⟩ := @verified_of_requested requested id (acceptedId envelope) rows
    rw [if_neg hdelete, if_neg hdelete, if_neg hdelete, hrequested, hvalue]
    rfl

/-- A report with a record has read one back. -/
theorem readBack_of_after (h : report r request envelope budget readback (accepted request status body) = some output)
    (hafter : output.find? "after".toList = some after) :
    ∃ id rows, ReadBack request envelope budget readback id after rows := by
  have hnone : (accepted request status body).find? "after".toList = none := by
    unfold accepted preview
    simp only [SortedMap.find?_insert, SortedMap.find?_empty]
    rfl
  have hplain {key : Text} {value : Json} (hkey : "after".toList ≠ key) {object : SortedMap Text Json}
      (hobject : object.find? "after".toList = none) : (object.insert key value).find? "after".toList = none := by
    rw [SortedMap.find?_insert, if_neg hkey, hobject]
  unfold report at h
  split at h
  · cases h
    rw [hplain (by decide) hnone] at hafter
    cases hafter
  · rename_i id hid
    dsimp only at h
    split at h
    · cases h
      rw [hplain (by decide) (hplain (by decide) hnone)] at hafter
      cases hafter
    · rename_i hvalidId
      split at h
      · cases h
        rw [hplain (by decide) (hplain (by decide) hnone)] at hafter
        cases hafter
      · rename_i htime
        unfold readBackInto at h
        split at h
        · cases h
          rw [hplain (by decide) (hplain (by decide) hnone)] at hafter
          cases hafter
        · rename_i record
          split at h
          · rename_i rows hrows
            obtain ⟨judged, -, rfl⟩ := Option.map_eq_some_iff.1 h
            rw [SortedMap.find?_insert, if_pos rfl] at hafter
            cases hafter
            exact ⟨id, rows, hid, hvalidId, htime, rfl, hrows⟩
          · cases h
        · cases h
          rw [hplain (by decide)] at hafter
          · cases hafter
          · split
            · exact hplain (by decide) (hplain (by decide) hnone)
            · exact hplain (by decide) hnone

end

/-! ## An accepted write -/

/-- The call returns a result that says the write was submitted, with the status and the whole body. -/
def Carries (status : Nat) (body : Bytes) (outcome : Outcome) : Prop :=
  ∃ shown text, outcome = .returned (.ok shown) ∧
    shown.structuredContent.find? "submitted".toList = some (.bool true) ∧
    shown.structuredContent.find? "responseStatus".toList = some (.number (dec status)) ∧
    utf8 text = body ∧
    (shown.structuredContent.find? "responseBody".toList = some (.string text) ∨ labelled shown "responseBody".toList = [text])

/-- The body parses, and a record that is read back decodes or is too long to stand in the report. -/
def Reportable (r : Readers) (request : ConfigurationRequest) (status : Nat) (body : Bytes) (requestTimeout elapsed : Nat)
    (readback : Option (Except ApiError Bytes)) : Prop :=
  ∃ envelope, r.codecs.fromSlice body = some envelope ∧
    ∀ id after rows, ReadBack request envelope (readbackBudget requestTimeout elapsed) (readback.map (configurationRecord r)) id after rows →
      (∃ recoded, r.serde.recode .value after = .ok recoded) ∨
        OverTarget request status body id (verdict request id (acceptedId envelope) rows) after

section
variable {request : ConfigurationRequest} {status : Nat} {body : Bytes} {readback : Option (Except ApiError Json)}
  {output : SortedMap Text Json} {serde : SerdeJson}

theorem status_of_accepted {c : Codecs} {write : LegacyRequest Json} {answer : Answer} {rows : List Json}
    (h : executeWithStatusBytes c write answer = .ok (rows, status, body)) : status < 65536 := by
  unfold executeWithStatusBytes executeRequestBytes at h
  split at h
  · cases h
  · rename_i hrequest
    split at hrequest
    · cases hrequest
    · split at hrequest
      · cases hrequest
      · split at hrequest
        · cases hrequest
        · split at hrequest
          · rename_i hsuccess
            cases hrequest
            split at h
            · cases h
            · split at h
              · cases h
                simp only [isSuccess, Bool.and_eq_true, decide_eq_true_eq] at hsuccess
                omega
              · cases h
          · cases hrequest

/-- **A result of a report carries the write.** -/
theorem carries_of_result (hserde : Recodes serde) (hstatus : status < 65536) {text : Text} (hbody : utf8 text = body)
    (hgrows : Grows request status body readback (accepted request status body) output) {shown : CallToolResult}
    (h : result serde output = .ok shown) : Carries status body (.returned (.ok shown)) := by
  obtain ⟨object, hobject, rfl⟩ := result_ok h
  have hlossy : fromUtf8Lossy body = text := hbody ▸ fromUtf8Lossy_utf8 text
  have hsame {key : Text} (hkey : ADDED.contains key = false) : output.find? key = (accepted request status body).find? key := by
    rcases hgrows key with hsame | ⟨hadded, -⟩
    · exact hsame
    · rw [hkey] at hadded
      cases hadded
  have hframe {key : Text} (hkey : (Blocks.names (LEGACY_FIELDS.map LargeField.move)).contains key = false) :
      (moveFields LEGACY_FIELDS output).kept.find? key = output.find? key := by
    have hkey : key ∉ Blocks.names (LEGACY_FIELDS.map LargeField.move) := by simpa using hkey
    refine Blocks.run_frame _ fun move hmove => ⟨?_, ?_⟩
    · rintro rfl
      exact hkey (List.mem_flatMap.2 ⟨move, hmove, List.mem_cons_self⟩)
    · rintro rfl
      exact hkey (List.mem_flatMap.2 ⟨move, hmove, List.mem_cons_of_mem _ List.mem_cons_self⟩)
  have hfound (key : Text) : (accepted request status body).find? key =
      if key = "responseBody".toList then some (.string (fromUtf8Lossy body))
      else if key = "responseStatus".toList then some (.number (dec status))
      else if key = "submitted".toList then some (.bool true) else (preview request).find? key := by
    unfold accepted
    rw [SortedMap.find?_insert, SortedMap.find?_insert, SortedMap.find?_insert]
    split_ifs <;> rfl
  have hsubmitted : (moveFields LEGACY_FIELDS output).kept.find? "submitted".toList = some (.bool true) := by
    rw [hframe (by decide), hsame (by decide), hfound, if_neg (by decide), if_neg (by decide), if_pos rfl]
  have hcode : (moveFields LEGACY_FIELDS output).kept.find? "responseStatus".toList = some (.number (dec status)) := by
    rw [hframe (by decide), hsame (by decide), hfound, if_neg (by decide), if_pos rfl]
  have hresponse : output.find? "responseBody".toList = some (.string text) := by
    rw [hsame (by decide), hfound, if_pos rfl, hlossy]
  have hmarker : output.find? "responseBodyInContent".toList = none := by
    rw [hsame (by decide), hfound, if_neg (by decide), if_neg (by decide), if_neg (by decide)]
    rfl
  have hmove : LargeField.move ⟨"responseBody".toList, .string, plainText⟩ ∈ LEGACY_FIELDS.map LargeField.move :=
    List.mem_map_of_mem (List.mem_cons_of_mem _ (List.mem_cons_of_mem _ List.mem_cons_self))
  refine ⟨_, text, rfl, find?_kept hobject (by decide) hsubmitted (by decide) (serde.recode_flag true),
    find?_kept hobject (by decide) hcode (fun h => (by cases h)) (hserde.status status hstatus), hbody, ?_⟩
  rcases @Blocks.run_outcome _ _ _ _ tooLong (.bool true) output _ _ distinguished_legacy.apart hmove hmarker with
    ⟨hfield, -, -⟩ | ⟨value, block, horiginal, hrender, -, -, htexts⟩ | ⟨value, horiginal, hrender, -, -, -⟩
  · refine Or.inl (find?_kept hobject (by decide) (hfield.trans hresponse) (fun h => (by cases h)) (hserde.text text))
  · refine Or.inr ?_
    cases horiginal.symm.trans hresponse
    cases hrender
    refine (labelled_structuredWith (distinguished_legacy.plain ⟨"responseBody".toList, .string, plainText⟩ ?_) fun label hlabel => ?_).trans htexts
    · exact List.mem_cons_of_mem _ (List.mem_cons_of_mem _ List.mem_cons_self)
    · rcases Blocks.run_labels _ hlabel with hnil | ⟨move, hmove, hname⟩
      · cases hnil
      · obtain ⟨field, hfield, rfl⟩ := List.mem_map.1 hmove
        rw [hname]
        exact (distinguished_legacy.plain field hfield).noColon
  · cases hrender

end

/-- The values of a report decode when the configuration does and the record does or is too long. -/
theorem met_iff {r : Readers} {request : ConfigurationRequest} (hvalid : request.validate = .ok ()) {status : Nat} {body : Bytes}
    {envelope : Json} {budget : Nat} {readback : Option (Except ApiError Json)} {output : SortedMap Text Json}
    (hrequested : ∀ requested, request.requested = some requested → ∃ recoded, r.serde.recode .value requested = .ok recoded)
    (h : report r request envelope budget readback (accepted request status body) = some output) :
    (Met r.serde (LEGACY_FIELDS.take 1) "requested".toList output ∧ Met r.serde (LEGACY_FIELDS.take 3) "after".toList output) ↔
      ∀ id after rows, ReadBack request envelope budget readback id after rows →
        (∃ recoded, r.serde.recode .value after = .ok recoded) ∨
          OverTarget request status body id (verdict request id (acceptedId envelope) rows) after := by
  have hmet : Met r.serde (LEGACY_FIELDS.take 1) "requested".toList output := by
    intro value hvalue hnull
    have hsame : output.find? "requested".toList = (accepted request status body).find? "requested".toList := by
      rcases @report_grows request status body _ _ _ _ _ _ h "requested".toList with hsame | ⟨hadded, -⟩
      · exact hsame
      · exact absurd hadded (by decide)
    have hfound : (accepted request status body).find? "requested".toList = some (request.requested.getD .null) := by
      unfold accepted preview
      simp only [SortedMap.find?_insert]
      rfl
    rw [hsame, hfound] at hvalue
    cases hrequest : request.requested with
    | none =>
      rw [hrequest] at hvalue
      cases hvalue
      exact absurd rfl hnull
    | some requested =>
      rw [hrequest] at hvalue
      cases hvalue
      exact Or.inr (hrequested _ hrequest)
  rw [and_iff_right hmet]
  constructor
  · intro hafter id after rows hread
    cases h.symm.trans (report_of_readBack hvalid hread)
    have hnull : after ≠ .null := by
      rintro rfl
      cases hread.rows
    rcases hafter after ((find?_recordReport _).trans (if_pos rfl)) hnull with hlong | hrecoded
    · exact Or.inr (tooLong_recordReport.1 hlong)
    · exact Or.inl hrecoded
  · intro hall after hafter _
    obtain ⟨id, rows, hread⟩ := readBack_of_after h hafter
    cases h.symm.trans (report_of_readBack hvalid hread)
    rcases hall id after rows hread with hrecoded | hlong
    · exact Or.inr hrecoded
    · exact Or.inl (tooLong_recordReport.2 hlong)

/-- **When an accepted write is reported.** The client has accepted the answer, and the configuration decodes, as
`to_value` of a `PortForwardConfiguration` or a `WlanConfiguration` does. The call returns a result that carries the
write exactly when the body also parses as a `Value`, and a record that is read back decodes or is too long to stand
in the report. -/
theorem accepted_write_is_kept_iff (r : Readers) (hserde : Recodes r.serde)
    (hutf8 : ∀ bytes value, r.codecs.fromSlice bytes = some value → ∃ text, utf8 text = bytes)
    (request : ConfigurationRequest) (hvalid : request.validate = .ok ()) (hconfirm : request.confirm = true)
    (hrequested : ∀ requested, request.requested = some requested → ∃ recoded, r.serde.recode .value requested = .ok recoded)
    (write : LegacyRequest Json) (answer : Answer) (rows : List Json) (status : Nat) (body : Bytes)
    (haccepted : executeWithStatusBytes r.codecs write answer = .ok (rows, status, body)) (requestTimeout elapsed : Nat)
    (readback : Option (Except ApiError Bytes)) :
    Carries status body (legacyConfigurationWrite r request (.ok (status, body)) requestTimeout elapsed readback) ↔
      Reportable r request status body requestTimeout elapsed readback := by
  have hstatus := status_of_accepted haccepted
  unfold legacyConfigurationWrite
  rw [hvalid, hconfirm]
  dsimp only
  rw [if_neg (by decide)]
  cases hparse : r.codecs.fromSlice body with
  | none =>
    constructor
    · rintro ⟨shown, text, hshown, -⟩
      cases hshown
    · rintro ⟨envelope, henvelope, -⟩
      rw [hparse] at henvelope
      cases henvelope
  | some envelope =>
    obtain ⟨output, houtput⟩ := report_total hvalid envelope (readbackBudget requestTimeout elapsed) readback
      (accepted request status body)
    obtain ⟨text, htext⟩ := hutf8 body envelope hparse
    have hgrows := @report_grows request status body _ _ _ _ _ _ houtput
    have hfields : ∀ key value, output.find? key = some value →
        Field request status body (readback.map (configurationRecord r)) key value := by
      intro key value hvalue
      rcases hgrows key with hsame | ⟨-, other, hother, hfield⟩
      · exact accepted_field (hsame.symm.trans hvalue)
      · cases hother.symm.trans hvalue
        exact hfield
    have hiff := (result_ok_iff hserde hstatus hfields).trans (met_iff hvalid hrequested houtput)
    dsimp only
    rw [houtput]
    constructor
    · rintro ⟨shown, -, hshown, -⟩
      have hresult : result r.serde output = .ok shown := by injection hshown
      exact ⟨envelope, hparse, hiff.1 ⟨shown, hresult⟩⟩
    · rintro ⟨other, hother, hall⟩
      cases hparse.symm.trans hother
      obtain ⟨shown, hshown⟩ := hiff.2 hall
      dsimp only
      rw [hshown]
      exact carries_of_result hserde hstatus htext hgrows hshown

/-! ## Plain readers -/

section
open JsonReader

/-- `LegacyMeta`; the members of a struct may be skipped, the others come once. -/
def readMeta (bytes : Bytes) : Option (LegacyMeta × Bytes) :=
  let member := fun (found : Option Text × Option (Option Text)) name bytes =>
    if name = "rc".toList then
      if found.1.isSome then none else (readText bytes).map fun (rc, rest) => ((some rc, found.2), rest)
    else if name = "msg".toList then
      if found.2.isSome then none else (readOption readText bytes).map fun (msg, rest) => ((found.1, some msg), rest)
    else ignored found bytes
  (readObject readString member (none, none) bytes).bind fun (found, rest) =>
    found.1.map fun rc => (⟨rc, found.2.getD none⟩, rest)

/-- `LegacyEnvelope` of values. -/
def readEnvelope (bytes : Bytes) : Option (LegacyEnvelope Json × Bytes) :=
  let member := fun (found : Option LegacyMeta × Option (List Json)) name bytes =>
    if name = "meta".toList then
      if found.1.isSome then none else (readMeta bytes).map fun (value, rest) => ((some value, found.2), rest)
    else if name = "data".toList then
      if found.2.isSome then none
      else (readValue 127 bytes).bind fun (value, rest) =>
        match value with
        | .array rows => some ((found.1, some rows), rest)
        | _ => none
    else ignored found bytes
  (readObject readString member (none, none) bytes).bind fun (found, rest) =>
    found.1.map fun value => (⟨value, found.2.getD []⟩, rest)

end

def plainRecode : FieldType → Json → Except Text Json := fun _ value => .ok value

theorem plainRecode_flag (value : Bool) : plainRecode .flag (.bool value) = .ok (.bool value) := rfl

/-- Readers of whole bodies. -/
def plainReaders : Readers where
  codecs := ⟨Base64.encode, JsonReader.fromSlice, urlPush⟩
  refusal := fun _ => "invalid JSON".toList
  serde := ⟨fun _ => False, fun _ => none, fun _ h => h.elim, plainRecode, plainRecode_flag⟩
  display := fun error => match error with
    | .invalidParams message => "-32602: ".toList ++ message
    | .internalError message => "-32603: ".toList ++ message

def plainDecode (bytes : Bytes) : Except Text (LegacyEnvelope Json) :=
  match JsonReader.readAll readEnvelope bytes with
  | some envelope => .ok envelope
  | none => .error "invalid JSON".toList

/-- The confirmed deletion of one record. -/
def deletion : ConfigurationRequest := ⟨.delete, some "5f0c".toList, none, true, .wlan⟩

def deletionWrite : LegacyRequest Json :=
  ⟨.mutation, "DELETE".toList, "default".toList, ["rest".toList, "wlanconf".toList, "5f0c".toList], none, plainDecode⟩

theorem recodes_plain : Recodes plainReaders.serde := ⟨fun _ => rfl, fun _ _ => rfl, fun _ => rfl⟩

theorem utf8_plain (bytes : Bytes) (value : Json) (h : plainReaders.codecs.fromSlice bytes = some value) :
    ∃ text, utf8 text = bytes := by
  have h : JsonReader.fromSlice bytes = some value := h
  unfold JsonReader.fromSlice at h
  split at h
  · rename_i hsome
    obtain ⟨text, htext⟩ := Option.isSome_iff_exists.1 hsome
    exact ⟨text, utf8_of_fromUtf8 htext⟩
  · cases h

/-- The confirmed update of that record, and the bodies behind the write and behind the readback. -/
def update : ConfigurationRequest :=
  ⟨.update, some "5f0c".toList, some (.object [("enabled".toList, .bool true)]), true, .wlan⟩

def updateWrite : LegacyRequest Json :=
  ⟨.mutation, "PUT".toList, "default".toList, ["rest".toList, "wlanconf".toList, "5f0c".toList],
    some "\x7b\"enabled\":true\x7d".toList, plainDecode⟩

def updatedBody : Bytes := utf8 "\x7b\"meta\":\x7b\"rc\":\"ok\"\x7d,\"data\":[\x7b\"_id\":\"5f0c\"\x7d],\"x\":[1e400]\x7d".toList

def recordBody : Bytes := utf8 "\x7b\"meta\":\x7b\"rc\":\"ok\"\x7d,\"data\":[\x7b\"_id\":\"5f0c\",\"enabled\":true\x7d]\x7d".toList

/-- The update is reported, with the record read back. -/
theorem accepted_write_is_kept_update :
    Carries 200 updatedBody (legacyConfigurationWrite plainReaders update (.ok (200, updatedBody)) 30000 0 (some (.ok recordBody))) :=
  (accepted_write_is_kept_iff plainReaders recodes_plain utf8_plain update rfl rfl (fun requested _ => ⟨requested, rfl⟩) updateWrite
    (.response ⟨200, none, none, [.ok updatedBody]⟩) [.object [("_id".toList, .string "5f0c".toList)]] 200 updatedBody rfl 30000 0
    (some (.ok recordBody))).2 ⟨_, rfl, fun _ after _ _ => Or.inl ⟨after, rfl⟩⟩

/-! ## A write that is lost -/

/-- An envelope with a member that no reader of envelopes looks at: half of a surrogate pair. -/
def lostBody : Bytes := utf8 "\x7b\"meta\":\x7b\"rc\":\"ok\"\x7d,\"data\":[],\"x\":\"\\ud800\"\x7d".toList

/-- **The client accepts the deletion, and the call panics.** -/
theorem accepted_write_is_lost : deletion.validate = .ok () ∧ deletion.confirm = true ∧
    deletion.submit "default".toList plainDecode = some deletionWrite ∧
    executeWithStatusBytes plainReaders.codecs deletionWrite (.response ⟨200, none, none, [.ok lostBody]⟩) = .ok ([], 200, lostBody) ∧
    ¬Carries 200 lostBody (legacyConfigurationWrite plainReaders deletion (.ok (200, lostBody)) 30000 0 none) := by
  refine ⟨rfl, rfl, rfl, rfl, ?_⟩
  have hpanic : legacyConfigurationWrite plainReaders deletion (.ok (200, lostBody)) 30000 0 none = .panicked := rfl
  rw [hpanic]
  rintro ⟨shown, text, hshown, -⟩
  cases hshown

end UnifiMcp.LegacyWrite
