import Mathlib.Data.Char
import Mathlib.Data.List.Lex
import Mathlib.Data.List.Sort
import UnifiMcp.Api.ProtectEvents
import UnifiMcp.Lib.Lowercase
import UnifiMcp.Lib.SortedMap
import UnifiMcp.Mcp.Paging
/-! # `protect.events` and its cursors (unifi-mcp/src/tools.rs)

A first call names a window, a camera and a detection filter; each page may hand out a cursor that
carries the resolved question to the next call.

* `event_cursors_closed` — **a cursor resolves to the question it came from exactly when the filter,
  trimmed and lower-cased, still fits the limit of a raw one.**
* `grown_filter_refused` — a filter of 128 bytes that grows past it is refused as a cursor. -/
namespace UnifiMcp
open Text

/-! ## Cameras -/

def MAXIMUM_DEVICE_IDENTIFIER_BYTES : Nat := 256

/-- `ProtectCamera` (protect.rs:123), the fields its id and its names come from. -/
structure ProtectCamera where
  id : Text
  modelKey : Text
  name : Option Text
  guid : Option Text
  mac : Option Text

/-- `ProtectLocalCamera` (protect.rs:320), likewise. -/
structure ProtectLocalCamera where
  id : Text
  guid : Option Text
  mac : Option Text
  name : Option Text
  deviceType : Option Text
  marketName : Option Text

/-- `validate_identifier` (protect.rs:1725) passes. -/
def ValidIdentifier (id : Text) : Prop := id ≠ [] ∧ byteLen id ≤ MAXIMUM_DEVICE_IDENTIFIER_BYTES

instance (id : Text) : Decidable (ValidIdentifier id) := inferInstanceAs (Decidable (_ ∧ _))

/-- A camera the client passed on. -/
structure ValidCamera where
  camera : ProtectCamera
  valid : ValidIdentifier camera.id

/-- The validation of `cameras_with_response` (protect.rs:690), behind the cameras with the ids `seen`. -/
def validateCameras : List Text → List ProtectCamera → Except ApiError (List ValidCamera)
  | _, [] => .ok []
  | seen, camera :: cameras =>
    if camera.modelKey ≠ "camera".toList then .error (.schemaMismatch "cameras".toList "modelKey".toList none)
    else if hid : ValidIdentifier camera.id then
      if seen.any (· = camera.id) then .error (.schemaMismatch "cameras".toList "duplicate id".toList none)
      else match validateCameras (camera.id :: seen) cameras with
        | .error error => .error error
        | .ok rest => .ok (⟨camera, hid⟩ :: rest)
    else .error (.schemaMismatch "cameras".toList "id".toList none)

/-- `CameraView` (tools.rs:2020), the fields a selector reads. -/
structure CameraView where
  id : Text
  name : Option Text
  displayName : Text
  valid : ValidIdentifier id

/-- `bounded_nonblank_text` (tools.rs:11682). -/
def boundedNonblankText (text : Text) : Option Text := if trim text ≠ [] then some (boundedText text) else none

/-- `camera_names` (tools.rs:12631): the public name and the display name. -/
def cameraNames (camera : ProtectCamera) (localCamera : Option ProtectLocalCamera) : Option Text × Text :=
  let publicName := camera.name.map boundedText
  let localName := (localCamera.bind ProtectLocalCamera.name).bind boundedNonblankText
  let localModel := (localCamera.bind ProtectLocalCamera.marketName).bind boundedNonblankText
  let localType := (localCamera.bind ProtectLocalCamera.deviceType).bind boundedNonblankText
  (publicName, ((((publicName.filter fun name => trim name ≠ []).or localName).or localModel).or localType).getD
    (boundedText camera.id))

/-- `camera_view` (tools.rs:12536). -/
def cameraView (camera : ValidCamera) (localCamera : Option ProtectLocalCamera) : CameraView :=
  ⟨camera.camera.id, (cameraNames camera.camera localCamera).1, (cameraNames camera.camera localCamera).2, camera.valid⟩

/-- `CameraInventoryScope`, as far as `protect.events` asks. -/
inductive CameraInventoryScope where
  | publicOnly
  | cameraNames
deriving DecidableEq

inductive LocalEnrichmentState where
  | available
  | partial_
  | notConfigured
  | unavailable
deriving DecidableEq

/-- `CameraInventory` (tools.rs:2363). -/
structure CameraInventory where
  cameras : List CameraView
  localState : LocalEnrichmentState
  localError : Option ApiError

/-- What surrounds one call: the clock, the answers to each inventory read, the local session's camera
list (when one is configured) and its events, and the properties lower-casing reads. -/
structure ProtectConsole where
  casing : Casing
  base64 : Bytes → Text
  clock : Except McpError Nat
  availability : CameraInventoryScope → Except ApiError Unit
  cameras : CameraInventoryScope → Except ApiError (List ProtectCamera × Bytes)
  localCameras : Option (Except ApiError (List ProtectLocalCamera × Bytes))
  events : Option EventSource

/-- `str::eq_ignore_ascii_case`. -/
def eqIgnoreAsciiCase (a b : Text) : Bool := toAsciiLowercase a = toAsciiLowercase b

/-- `conflicting_optional_identity` (tools.rs:13087). -/
def conflictingOptionalIdentity : Option Text → Option Text → Bool
  | some known, some found => !eqIgnoreAsciiCase known found
  | _, _ => false

/-- `conflicting_protect_identity_error` (tools.rs:13073), for cameras. -/
def conflictingCameraError (base64 : Bytes → Text) (publicResponse localResponse : Bytes) : McpError :=
  .internalError ("public Protect controller response: ".toList ++ fromControllerBytes base64 publicResponse ++
    "; local Protect controller response: ".toList ++ fromControllerBytes base64 localResponse ++
    "; validation error: Protect public and local camera identities conflict".toList)

/-- The cameras by id; of several with one id the last counts. -/
def localById (cameras : List ProtectLocalCamera) : SortedMap Text ProtectLocalCamera :=
  .ofOptions (cameras.map fun camera => (camera.id, some camera))

/-- `camera_inventory` (tools.rs:5713) for the two scopes. -/
def cameraInventory (console : ProtectConsole) (scope : CameraInventoryScope) : Except McpError CameraInventory :=
  match console.availability scope with
  | .error error => .error (apiError error)
  | .ok () =>
    match console.cameras scope with
    | .error error => .error (apiError error)
    | .ok (found, publicResponse) =>
      match validateCameras [] found with
      | .error error => .error (apiError (error.withControllerResponse console.base64 publicResponse))
      | .ok cameras =>
        let localCameras := if scope = .publicOnly then none else console.localCameras
        let byId := (localCameras.bind Except.toOption).elim .empty fun rows => localById rows.1
        let localState : LocalEnrichmentState :=
          match localCameras with
          | none => .notConfigured
          | some (.error _) => .unavailable
          | some (.ok _) =>
            if cameras.length = byId.length ∧ cameras.all fun camera => (byId.find? camera.camera.id).isSome then .available
            else .partial_
        let conflict := cameras.any fun camera => (byId.find? camera.camera.id).any fun found =>
          conflictingOptionalIdentity camera.camera.guid found.guid || conflictingOptionalIdentity camera.camera.mac found.mac
        let localError := localCameras.bind fun | .error error => some error | .ok _ => none
        let views := (cameras.map fun camera => cameraView camera (byId.find? camera.camera.id)).insertionSort
          fun left right => left.displayName ≤ right.displayName
        if conflict then
          .error (conflictingCameraError console.base64 publicResponse (((localCameras.bind Except.toOption).map Prod.snd).getD []))
        else .ok ⟨views, localState, localError⟩

/-- `local_inventory_error` (tools.rs:13101). -/
def localInventoryError (error : Option ApiError) (fallback : Text) : McpError :=
  error.elim (.invalidParams fallback) apiError

/-! ## Queries -/

/-- `ProtectEventsCursor` (tools.rs:2389). -/
structure ProtectEventsCursor where
  windowStart : Nat
  windowEnd : Nat
  nextEnd : Nat
  cameraId : Option Text
  detection : Option Text
deriving DecidableEq

/-- `ProtectEventsInput` (tools.rs:2409); `stop` is the source's `end`. -/
structure ProtectEventsInput where
  lastHours : Option Nat
  start : Option Nat
  stop : Option Nat
  camera : Option Text
  detection : Option Text
  cursor : Option ProtectEventsCursor
  limit : Nat
  includeDetails : Option Bool
  detailFields : Option (List Text)

/-- `ResolvedProtectEventQuery`. -/
structure ResolvedProtectEventQuery where
  windowStart : Nat
  windowEnd : Nat
  cameraId : Option Text
  detection : Option Text
  continuation : Option ProtectEventContinuation
deriving DecidableEq

def MAXIMUM_QUERY_LENGTH : Nat := 128
def MAXIMUM_CAMERA_SELECTOR_CHARACTERS : Nat := EVENT_MESSAGE_CEILING
def MAXIMUM_CAMERA_SELECTOR_BYTES : Nat := MAXIMUM_CAMERA_SELECTOR_CHARACTERS * 4
def DEFAULT_EVENT_WINDOW_HOURS : Nat := 24

/-- `validate_filter` (tools.rs:11644). -/
def validateFilter (casing : Casing) : Option Text → Except McpError (Option Text)
  | none => .ok none
  | some raw =>
    if (trim raw).isEmpty ∨ MAXIMUM_QUERY_LENGTH < byteLen (trim raw) then
      .error (.invalidParams ("filters must be 1-".toList ++ dec MAXIMUM_QUERY_LENGTH ++ " characters".toList))
    else .ok (some (casing.toLowercase (trim raw)))

/-- `validate_protect_window` (tools.rs:11037). -/
def validateProtectWindow (start stop : Nat) : Except McpError Unit :=
  if stop < start then .error (.invalidParams "Protect event start is after end".toList) else .ok ()

/-- `camera_selector` (tools.rs:11410). -/
def cameraSelector (raw : Text) : Except McpError Text :=
  let selector := trim raw
  if selector.isEmpty ∨ MAXIMUM_CAMERA_SELECTOR_BYTES < byteLen selector ∨
      MAXIMUM_CAMERA_SELECTOR_CHARACTERS < selector.length then
    .error (.invalidParams "camera selector must be an id or exact name of at most 256 characters".toList)
  else .ok selector

/-- `camera_name_matches` (tools.rs:11097). -/
def cameraNameMatches (casing : Casing) (candidate normalizedSelector : Text) : Bool :=
  casing.toLowercase (trim candidate) = normalizedSelector

/-- The cameras a selector means (tools.rs:11065-11083): those with that id, else those with that name. -/
def matchingCameras (casing : Casing) (selector : Text) (inventory : List CameraView) : List CameraView :=
  let byId := inventory.filter fun camera => camera.id = selector
  if byId.isEmpty then
    inventory.filter fun camera =>
      camera.name.any (cameraNameMatches casing · (casing.toLowercase selector)) ||
        cameraNameMatches casing camera.displayName (casing.toLowercase selector)
  else byId

/-- `resolve_camera_id` (tools.rs:11057). -/
def resolveCameraId (casing : Casing) (raw : Option Text) (inventory : List CameraView) : Except McpError (Option Text) :=
  match raw with
  | none => .ok none
  | some raw =>
    match cameraSelector raw with
    | .error error => .error error
    | .ok selector =>
      match matchingCameras casing selector inventory with
      | [] => .error (.invalidParams "no camera on this console has that id or name".toList)
      | [camera] => .ok (some camera.id)
      | cameras => .error (.invalidParams (dec cameras.length ++ " cameras share that name; select by id".toList))

/-- The window of a first call (tools.rs:11008-11025). -/
def protectWindow (clock : Except McpError Nat) (input : ProtectEventsInput) : Except McpError (Nat × Nat) :=
  match input.start, input.stop, input.lastHours with
  | some start, some stop, none => .ok (start, stop)
  | none, none, lastHours =>
    if lastHours.getD DEFAULT_EVENT_WINDOW_HOURS = 0 then .error (.invalidParams "lastHours must be positive".toList)
    else match clock with
      | .error error => .error error
      | .ok now => .ok (now - lastHours.getD DEFAULT_EVENT_WINDOW_HOURS * 3600000, now)
  | _, _, _ => .error (.invalidParams
      "start and end must be supplied together and cannot be combined with lastHours".toList)

/-- The cursor branch of `resolve_protect_event_query` (tools.rs:10971-11005). -/
def resolveCursor (casing : Casing) (input : ProtectEventsInput) (cursor : ProtectEventsCursor) :
    Except McpError ResolvedProtectEventQuery :=
  if input.lastHours.isSome ∨ input.start.isSome ∨ input.stop.isSome ∨ input.camera.isSome ∨ input.detection.isSome then
    .error (.invalidParams "cursor cannot be combined with window or filter fields".toList)
  else match validateProtectWindow cursor.windowStart cursor.windowEnd with
    | .error error => .error error
    | .ok () =>
      if cursor.nextEnd < cursor.windowStart ∨ cursor.windowEnd < cursor.nextEnd ∨
          cursor.cameraId.any fun camera => camera.isEmpty || EVENT_MESSAGE_CEILING < byteLen camera then
        .error (.invalidParams "Protect event cursor is invalid".toList)
      else match validateFilter casing cursor.detection with
        | .error error => .error error
        | .ok detection => .ok ⟨cursor.windowStart, cursor.windowEnd, cursor.cameraId, detection, some ⟨cursor.nextEnd⟩⟩

/-- `resolve_protect_event_query` (tools.rs:10967). -/
def resolveProtectEventQuery (casing : Casing) (clock : Except McpError Nat) (input : ProtectEventsInput)
    (inventory : List CameraView) : Except McpError ResolvedProtectEventQuery :=
  match input.cursor with
  | some cursor => resolveCursor casing input cursor
  | none =>
    match validateFilter casing input.detection with
    | .error error => .error error
    | .ok detection =>
      match protectWindow clock input with
      | .error error => .error error
      | .ok (windowStart, windowEnd) =>
        match validateProtectWindow windowStart windowEnd with
        | .error error => .error error
        | .ok () =>
          match resolveCameraId casing input.camera inventory with
          | .error error => .error error
          | .ok cameraId => .ok ⟨windowStart, windowEnd, cameraId, detection, none⟩

/-! ## Pages -/

/-- `ProtectEventView` (tools.rs:2440), without the controller's own record of the event. -/
structure ProtectEventView where
  id : Text
  kind : Text
  start : Nat
  stop : Option Nat
  score : Option Nat
  cameraId : Option Text
  cameraName : Option Text
  detectionTypes : List Text

/-- `ProtectEventsOutput` (tools.rs:2462). -/
structure ProtectEventsOutput where
  pageCounts : PageCounts
  rows : List ProtectEventView
  windowStart : Nat
  windowEnd : Nat
  scannedRows : Nat
  complete : Bool
  nextCursor : Option ProtectEventsCursor

/-- `event_detail_selection` (tools.rs:10932). -/
def eventDetailSelection (input : ProtectEventsInput) : Except McpError (Bool × Option (List Text)) :=
  if input.detailFields.any fun fields => 64 < fields.length || fields.any fun field => field.isEmpty || 256 < byteLen field then
    .error (.invalidParams "detailFields accepts at most 64 nonempty field names of at most 256 bytes".toList)
  else .ok (input.includeDetails.getD false || input.detailFields.isSome, input.detailFields)

/-- `protect_limit` (tools.rs:103). -/
def protectLimit (requested : Nat) : Nat := min requested MAXIMUM_PROTECT_EVENT_PAGE_LIMIT

/-- The event passes the camera and detection filters (tools.rs:7493-7505). -/
def eventSelected (query : ResolvedProtectEventQuery) (event : ProtectEvent) : Bool :=
  (query.cameraId.all fun camera => event.camera = some camera) &&
    query.detection.all fun wanted => eqIgnoreAsciiCase event.kind wanted ||
      event.smartDetectTypes.any fun kind => eqIgnoreAsciiCase kind wanted

/-- The row of one event (tools.rs:7506-7533). -/
def eventView (names : SortedMap Text Text) (event : ProtectEvent) : ProtectEventView :=
  ⟨event.id, boundedText event.kind, event.start, event.stop, event.score, event.camera.map boundedText,
    event.camera.bind names.find?, event.smartDetectTypes.map boundedText⟩

/-- `protect_events_api_error` (tools.rs:13552). -/
def protectEventsApiError (error : ApiError) : McpError :=
  match error with
  | .decodeResponse _ diagnostic =>
    if diagnostic = "Protect event page boundary exceeds the requested limit; retry with a higher limit".toList then
      .invalidParams error.display
    else apiError error
  | _ => apiError error

/-- The selector of the call, checked. -/
def inputSelector : Option Text → Except McpError (Option Text)
  | none => .ok none
  | some raw => (cameraSelector raw).map some

/-- The cameras a call is resolved against: the named inventory when the selector is no id of the public
one. -/
def searchInventory (console : ProtectConsole) (input : ProtectEventsInput) (selector : Option Text) :
    Except McpError (List CameraView) :=
  match cameraInventory console .publicOnly with
  | .error error => .error error
  | .ok found =>
    if input.cursor.isNone ∧ selector.any fun selector => !found.cameras.any fun camera => camera.id = selector then
      match cameraInventory console .cameraNames with
      | .error error => .error error
      | .ok named =>
        if named.localState ≠ .available then .error (localInventoryError named.localError
          "camera name selection requires complete local Protect inventory; select by id".toList)
        else .ok named.cameras
    else .ok found.cameras

/-- `protect_events_search` up to the resolved query (tools.rs:7453-7483). -/
def searchQuery (console : ProtectConsole) (input : ProtectEventsInput) :
    Except McpError (ResolvedProtectEventQuery × List CameraView) := do
  let _ ← eventDetailSelection input
  let _ ← validatePage input.limit
  let selector ← inputSelector input.camera
  let inventory ← searchInventory console input selector
  let query ← resolveProtectEventQuery console.casing console.clock input inventory
  .ok (query, inventory)

/-- `protect_events_search` behind the resolved query (tools.rs:7484-7557). -/
def searchPage (console : ProtectConsole) (limit : Nat) (query : ResolvedProtectEventQuery) (inventory : List CameraView) :
    Except McpError ProtectEventsOutput :=
  match console.events with
  | none => .error (.invalidParams ("no local Protect session is configured on this server, so ".toList ++
      "historical detections cannot be read; configure the ".toList ++ "dedicated Protect username and password".toList))
  | some fetch =>
    match protectEvents console.base64 fetch query.windowStart query.windowEnd (protectLimit limit) query.continuation with
    | .error error => .error (protectEventsApiError error)
    | .ok page =>
      let names : SortedMap Text Text := .ofOptions (inventory.filterMap fun camera => camera.name.map fun name => (camera.id, some name))
      let rows := (page.events.filter (eventSelected query)).map (eventView names)
      let nextCursor := page.next.map fun next =>
        ⟨query.windowStart, query.windowEnd, next.nextEnd, query.cameraId, query.detection⟩
      .ok ⟨⟨limit, protectLimit limit, rows.length⟩, rows, query.windowStart, query.windowEnd, page.scannedRows,
        nextCursor.isNone, nextCursor⟩

/-- `protect_events_search` (tools.rs:7449). -/
def protectEventsSearch (console : ProtectConsole) (input : ProtectEventsInput) : Except McpError ProtectEventsOutput :=
  match searchQuery console input with
  | .error error => .error error
  | .ok (query, inventory) => searchPage console input.limit query inventory

/-! ## Descending keys -/

open NewestFirst in
/-- The order check accepts only newest-first rows. -/
theorem sorted_of_zip_tail {events : List ProtectEvent}
    (h : (events.zip events.tail).any (fun pair => pair.1.start < pair.2.start) = false) :
    Sorted ProtectEvent.start events := by
  induction events with
  | nil => exact List.Pairwise.nil
  | cons a events ih =>
    cases events with
    | nil => exact List.pairwise_singleton ..
    | cons b events =>
      rw [List.tail_cons, List.zip_cons_cons, List.any_cons, Bool.or_eq_false_iff, decide_eq_false_iff_not] at h
      have hrest := ih h.2
      have hab : b.start ≤ a.start := Nat.le_of_not_lt h.1
      refine List.pairwise_cons.2 ⟨fun x hx => ?_, hrest⟩
      rcases List.mem_cons.1 hx with rfl | hx
      · omega
      · have := (List.pairwise_cons.1 hrest).1 x hx
        omega

/-- What the checks leave: rows newest first, none after the requested end. -/
theorem pageError_eq_none {stop limit : Nat} {events : List ProtectEvent} (h : pageError stop limit events = none) :
    NewestFirst.Sorted ProtectEvent.start events ∧ ∀ event ∈ events, event.start ≤ stop := by
  unfold pageError at h
  split at h
  · cases h
  split at h
  · cases h
  rename_i hend
  split at h
  · cases h
  rename_i horder
  refine ⟨sorted_of_zip_tail (Bool.eq_false_iff.2 horder), fun event he => ?_⟩
  by_contra hlate
  exact hend (List.any_eq_true.2 ⟨event, he, decide_eq_true (Nat.lt_of_not_le hlate)⟩)

/-- The continuation of a full page, when no row of it is older than the window. -/
theorem cutAtBoundary_next {start stop n : Nat} {rows : List ProtectEvent} {look : ProtectEvent} {page : ProtectEventPage}
    {next : ProtectEventContinuation} (hsorted : NewestFirst.Sorted ProtectEvent.start (rows ++ [look]))
    (hstop : ∀ event ∈ rows, event.start ≤ stop) (hrows : ∀ event ∈ rows, start ≤ event.start) (hlook : start ≤ look.start)
    (h : cutAtBoundary n look.start rows = .ok page) (hnext : page.next = some next) :
    start ≤ next.nextEnd ∧ next.nextEnd < stop := by
  obtain ⟨hrowsSorted, -, hbefore⟩ := NewestFirst.Sorted.append_iff.1 hsorted
  unfold cutAtBoundary at h
  split at h
  · cases h
  rename_i last hlast
  have hmem := List.mem_of_getLast? hlast
  have hle := hrowsSorted.last_le hlast
  have hlookLe := hbefore last hmem look (by simp)
  split at h
  · dsimp only at h
    split at h
    · cases h
    · -- a kept row is strictly newer than the group at the end
      rename_i hkept
      cases h
      cases hnext
      rw [NewestFirst.rdropWhile_eq_filter hrowsSorted hle] at hkept
      obtain ⟨event, hevent⟩ := List.exists_mem_of_ne_nil _ fun hnil => hkept (List.isEmpty_iff.2 hnil)
      obtain ⟨hin, hnewer⟩ := List.mem_filter.1 hevent
      have hbound := hstop event hin
      have hnewer := of_decide_eq_true hnewer
      exact ⟨hrows last hmem, by dsimp only; omega⟩
  · split at h
    · cases h
      cases hnext
    · cases h
      cases hnext
      have hbound := hstop last hmem
      exact ⟨by dsimp only; omega, by dsimp only; omega⟩

/-- Whatever the controller answers, a continuation stays in the window and below the end just read. -/
theorem finish_next {start stop limit : Nat} {events : List ProtectEvent} {page : ProtectEventPage}
    {next : ProtectEventContinuation} (h : finishProtectEventPage start stop limit events = .ok page)
    (hnext : page.next = some next) : start ≤ next.nextEnd ∧ next.nextEnd < stop := by
  unfold finishProtectEventPage at h
  split at h
  · cases h
  rename_i hchecks
  obtain ⟨hsorted, hstop⟩ := pageError_eq_none hchecks
  dsimp only at h
  split at h
  · cases h
    cases hnext
  rename_i hidx
  by_cases hfull : limit < events.length
  · rw [if_pos hfull, if_pos hfull] at h
    rw [if_pos hfull] at hidx
    rcases List.eq_nil_or_concat events with rfl | ⟨rows, look, rfl⟩
    · cases hfull
    · rw [List.concat_eq_append] at *
      rw [List.getLast?_concat, List.dropLast_concat] at h
      rw [List.dropLast_concat] at hidx
      dsimp only at h
      split at h
      · cases h
        cases hnext
      · rename_i hlook
        refine cutAtBoundary_next hsorted (fun event he => hstop event (by simp [he])) (fun event he => ?_) (by omega) h hnext
        have := List.findIdx?_eq_none_iff.1 hidx event he
        simpa using this
  · rw [if_neg hfull] at h
    cases h
    cases hnext

/-! ## Closure -/

/-- The filter fits the limit of a raw one. -/
def Fits (detection : Option Text) : Prop := ∀ wanted, detection = some wanted → byteLen wanted ≤ MAXIMUM_QUERY_LENGTH

/-- The end of the page a query reads. -/
def pageEnd (query : ResolvedProtectEventQuery) : Nat := (query.continuation.map (·.nextEnd)).getD query.windowEnd

/-- A call that supplies a cursor and no other field of the question. -/
def cursorInput (cursor : ProtectEventsCursor) (limit : Nat) (includeDetails : Option Bool)
    (detailFields : Option (List Text)) : ProtectEventsInput :=
  ⟨none, none, none, none, none, some cursor, limit, includeDetails, detailFields⟩

/-- The same question, read up to the cursor. -/
def ResolvedProtectEventQuery.continueAt (query : ResolvedProtectEventQuery) (nextEnd : Nat) : ResolvedProtectEventQuery :=
  { query with continuation := some ⟨nextEnd⟩ }

/-- What a cursor owes its caller: supplied alone, at any time and against any inventory, it resolves to
the question it came from, and its page ends below the one just read. -/
def Continues (casing : Casing) (query : ResolvedProtectEventQuery) (cursor : ProtectEventsCursor) : Prop :=
  cursor.nextEnd < pageEnd query ∧
    ∀ clock limit includeDetails detailFields inventory,
      resolveProtectEventQuery casing clock (cursorInput cursor limit includeDetails detailFields) inventory =
        .ok (query.continueAt cursor.nextEnd)

/-- What a resolved query satisfies. -/
structure Resolved (casing : Casing) (query : ResolvedProtectEventQuery) : Prop where
  window : query.windowStart ≤ query.windowEnd
  camera : ∀ camera, query.cameraId = some camera → ValidIdentifier camera
  detection : ∀ wanted, query.detection = some wanted → ∃ raw, Trimmed raw ∧ raw ≠ [] ∧ casing.toLowercase raw = wanted
  continuation : ∀ next, query.continuation = some next → query.windowStart ≤ next.nextEnd ∧ next.nextEnd ≤ query.windowEnd

section
variable {casing : Casing} {clock : Except McpError Nat} {input : ProtectEventsInput} {inventory : List CameraView}
  {query : ResolvedProtectEventQuery}

theorem validateFilter_ok {raw detection : Option Text} (h : validateFilter casing raw = .ok detection) :
    ∀ wanted, detection = some wanted → ∃ t, Trimmed t ∧ t ≠ [] ∧ casing.toLowercase t = wanted := by
  unfold validateFilter at h
  split at h
  · cases h
    intro wanted hwanted
    cases hwanted
  · rename_i raw
    split at h
    · cases h
    · rename_i hvalid
      cases h
      rintro wanted ⟨⟩
      exact ⟨trim raw, trimmed_trim raw, fun hnil => hvalid (Or.inl (List.isEmpty_iff.2 hnil)), rfl⟩

/-- A lower-cased filter passes the check again exactly when it still fits. -/
theorem validateFilter_again {detection : Option Text}
    (h : ∀ wanted, detection = some wanted → ∃ t, Trimmed t ∧ t ≠ [] ∧ casing.toLowercase t = wanted) :
    validateFilter casing detection = .ok detection ↔ Fits detection := by
  cases detection with
  | none => exact ⟨fun _ wanted h => (by cases h), fun _ => rfl⟩
  | some wanted =>
    obtain ⟨t, htrimmed, hne, rfl⟩ := h wanted rfl
    have htrim := trim_eq_self (@trimmed_toLowercase casing t htrimmed)
    rw [validateFilter, htrim, toLowercase_idem]
    constructor
    · intro hok wanted hwanted
      cases hwanted
      split at hok
      · cases hok
      · rename_i hvalid
        exact Nat.le_of_not_lt fun hlong => hvalid (Or.inr hlong)
    · intro hfits
      rw [if_neg]
      rintro (hempty | hlong)
      · exact toLowercase_ne_nil hne (List.isEmpty_iff.1 hempty)
      · exact absurd (hfits _ rfl) (Nat.not_le_of_lt hlong)

theorem validateProtectWindow_ok {start stop : Nat} : validateProtectWindow start stop = .ok () ↔ start ≤ stop := by
  unfold validateProtectWindow
  split
  · exact ⟨fun h => (by cases h), fun h => absurd h (by omega)⟩
  · exact ⟨fun _ => (by omega), fun _ => rfl⟩

theorem resolveCameraId_ok {raw cameraId : Option Text} (h : resolveCameraId casing raw inventory = .ok cameraId) :
    ∀ camera, cameraId = some camera → ValidIdentifier camera := by
  unfold resolveCameraId at h
  split at h
  · cases h
    intro camera hcamera
    cases hcamera
  · split at h
    · cases h
    · split at h
      · cases h
      · cases h
        rintro camera ⟨⟩
        rename_i found _
        exact found.valid
      · cases h

theorem resolveCursor_ok {cursor : ProtectEventsCursor} (h : resolveCursor casing input cursor = .ok query) :
    Resolved casing query := by
  unfold resolveCursor at h
  split at h
  · cases h
  split at h
  · cases h
  rename_i hwindow
  split at h
  · cases h
  rename_i hcursor
  split at h
  · cases h
  rename_i hfilter
  cases h
  rw [not_or, not_or] at hcursor
  obtain ⟨hlow, hhigh, hcamera⟩ := hcursor
  refine ⟨validateProtectWindow_ok.1 hwindow, fun camera hc => ?_, validateFilter_ok hfilter, ?_⟩
  · dsimp only at hc
    rw [hc, Option.any_some, Bool.not_eq_true, Bool.or_eq_false_iff, decide_eq_false_iff_not] at hcamera
    exact ⟨List.isEmpty_eq_false_iff.1 hcamera.1, Nat.le_of_not_lt hcamera.2⟩
  · rintro next ⟨⟩
    exact ⟨Nat.le_of_not_lt hlow, Nat.le_of_not_lt hhigh⟩

theorem resolve_ok (h : resolveProtectEventQuery casing clock input inventory = .ok query) : Resolved casing query := by
  unfold resolveProtectEventQuery at h
  split at h
  · exact resolveCursor_ok h
  split at h
  · cases h
  rename_i hfilter
  split at h
  · cases h
  split at h
  · cases h
  rename_i hwindow
  split at h
  · cases h
  rename_i hcamera
  cases h
  exact ⟨validateProtectWindow_ok.1 hwindow, resolveCameraId_ok hcamera, validateFilter_ok hfilter, fun next hn => (by cases hn)⟩

/-- The cursor of a page resolves to the page's question exactly when the filter fits. -/
theorem resolve_cursor_iff (hquery : Resolved casing query) {nextEnd : Nat} (hlow : query.windowStart ≤ nextEnd)
    (hhigh : nextEnd ≤ query.windowEnd) (limit : Nat) (includeDetails : Option Bool) (detailFields : Option (List Text)) :
    resolveProtectEventQuery casing clock (cursorInput ⟨query.windowStart, query.windowEnd, nextEnd, query.cameraId, query.detection⟩
      limit includeDetails detailFields) inventory = .ok (query.continueAt nextEnd) ↔ Fits query.detection := by
  have hcamera : (query.cameraId.any fun camera => camera.isEmpty || EVENT_MESSAGE_CEILING < byteLen camera) = false := by
    cases hc : query.cameraId with
    | none => rfl
    | some camera =>
      obtain ⟨hne, hlen⟩ := hquery.camera camera hc
      rw [Option.any_some, Bool.or_eq_false_iff, decide_eq_false_iff_not]
      exact ⟨List.isEmpty_eq_false_iff.2 hne, Nat.not_lt_of_le hlen⟩
  have hcursor : ¬(nextEnd < query.windowStart ∨ query.windowEnd < nextEnd ∨
      (query.cameraId.any fun camera => camera.isEmpty || EVENT_MESSAGE_CEILING < byteLen camera) = true) := by
    rw [hcamera]
    simp only [Bool.false_eq_true, or_false]
    omega
  rw [← validateFilter_again hquery.detection]
  show resolveCursor casing _ _ = _ ↔ _
  rw [resolveCursor, if_neg (by simp [cursorInput]), validateProtectWindow_ok.2 hquery.window]
  dsimp only
  rw [if_neg hcursor]
  cases validateFilter casing query.detection with
  | error error => exact ⟨fun h => (by cases h), fun h => (by cases h)⟩
  | ok detection =>
    dsimp only
    constructor
    · intro h
      exact congrArg (Except.map ResolvedProtectEventQuery.detection) h
    · intro h
      cases h
      rfl

theorem bind_eq_ok {ε α β : Type} {x : Except ε α} {f : α → Except ε β} {b : β} (h : (x >>= f) = .ok b) :
    ∃ a, x = .ok a ∧ f a = .ok b := by
  cases x with
  | error error => cases h
  | ok a => exact ⟨a, rfl, h⟩

theorem searchQuery_ok {console : ProtectConsole} (h : searchQuery console input = .ok (query, inventory)) :
    resolveProtectEventQuery console.casing console.clock input inventory = .ok query := by
  unfold searchQuery at h
  obtain ⟨details, -, h⟩ := bind_eq_ok h
  obtain ⟨page, -, h⟩ := bind_eq_ok h
  obtain ⟨selector, -, h⟩ := bind_eq_ok h
  obtain ⟨used, -, h⟩ := bind_eq_ok h
  obtain ⟨resolved, hresolve, h⟩ := bind_eq_ok h
  cases h
  exact hresolve

/-- What a page hands out: the resolved question, up to a key in the window and below the end read. -/
theorem searchPage_ok {console : ProtectConsole} {limit : Nat} {output : ProtectEventsOutput}
    (h : searchPage console limit query inventory = .ok output) : output.complete = output.nextCursor.isNone ∧
    ∀ cursor, output.nextCursor = some cursor → cursor = ⟨query.windowStart, query.windowEnd, cursor.nextEnd, query.cameraId, query.detection⟩ ∧
        query.windowStart ≤ cursor.nextEnd ∧ cursor.nextEnd < pageEnd query := by
  unfold searchPage at h
  split at h
  · cases h
  split at h
  · cases h
  rename_i page hread
  cases h
  refine ⟨rfl, fun cursor hcursor => ?_⟩
  obtain ⟨next, hnext, rfl⟩ := Option.map_eq_some_iff.1 hcursor
  unfold protectEvents at hread
  split at hread
  · cases hread
  split at hread
  · cases hread
  split at hread
  · cases hread
  dsimp only at hread
  split at hread
  · cases hread
  split at hread
  · cases hread
  rename_i hfinish
  cases hread
  exact ⟨rfl, finish_next hfinish hnext⟩

theorem pageEnd_le (hquery : Resolved casing query) : pageEnd query ≤ query.windowEnd := by
  unfold pageEnd
  cases hc : query.continuation with
  | none => exact Nat.le_refl _
  | some next => exact (hquery.continuation next hc).2

/-- A cursor a page hands out continues the question exactly when the filter fits. -/
theorem continues_iff {console : ProtectConsole} {limit : Nat} {output : ProtectEventsOutput} {cursor : ProtectEventsCursor}
    (hquery : Resolved casing query) (h : searchPage console limit query inventory = .ok output)
    (hcursor : output.nextCursor = some cursor) : Continues casing query cursor ↔ Fits query.detection := by
  obtain ⟨hsame, hlow, hbelow⟩ := (searchPage_ok h).2 cursor hcursor
  have hhigh : cursor.nextEnd ≤ query.windowEnd := Nat.le_of_lt (Nat.lt_of_lt_of_le hbelow (pageEnd_le hquery))
  constructor
  · intro hcontinues
    have hresolve := hcontinues.2 (.ok 0) 0 none none []
    rw [hsame] at hresolve
    exact (resolve_cursor_iff hquery hlow hhigh 0 none none).1 hresolve
  · intro hfits
    refine ⟨hbelow, fun clock limit includeDetails detailFields inventory => ?_⟩
    rw [hsame]
    exact (resolve_cursor_iff hquery hlow hhigh limit includeDetails detailFields).2 hfits

end

/-- The queries of a chain: the first one, and each that a cursor of the one before resolves to. -/
inductive Chain (casing : Casing) (first : ResolvedProtectEventQuery) : Nat → ResolvedProtectEventQuery → Prop
  | first : Chain casing first 0 first
  | next {n limit limit' : Nat} {query query' : ResolvedProtectEventQuery} {console : ProtectConsole}
      {clock : Except McpError Nat} {inventory inventory' : List CameraView} {output : ProtectEventsOutput}
      {cursor : ProtectEventsCursor} {includeDetails : Option Bool} {detailFields : Option (List Text)}
      (h : Chain casing first n query) (hpage : searchPage console limit query inventory = .ok output)
      (hcursor : output.nextCursor = some cursor)
      (hresolve : resolveProtectEventQuery casing clock (cursorInput cursor limit' includeDetails detailFields) inventory' = .ok query') :
      Chain casing first (n + 1) query'

/-- Two queries that ask the same question. -/
def SameQuestion (a b : ResolvedProtectEventQuery) : Prop :=
  a.windowStart = b.windowStart ∧ a.windowEnd = b.windowEnd ∧ a.cameraId = b.cameraId ∧ a.detection = b.detection

/-- A cursor that resolves at all resolves to the question it came from. -/
theorem resolve_cursor_same {casing : Casing} {clock : Except McpError Nat} {inventory : List CameraView}
    {query query' : ResolvedProtectEventQuery} (hquery : Resolved casing query) {nextEnd : Nat}
    (hlow : query.windowStart ≤ nextEnd) (hhigh : nextEnd ≤ query.windowEnd) {limit : Nat} {includeDetails : Option Bool}
    {detailFields : Option (List Text)}
    (h : resolveProtectEventQuery casing clock (cursorInput ⟨query.windowStart, query.windowEnd, nextEnd, query.cameraId,
      query.detection⟩ limit includeDetails detailFields) inventory = .ok query') : query' = query.continueAt nextEnd := by
  have hfits : Fits query.detection := by
    have hcursor : resolveCursor casing (cursorInput _ limit includeDetails detailFields) _ = .ok query' := h
    unfold resolveCursor at hcursor
    split at hcursor
    · cases hcursor
    split at hcursor
    · cases hcursor
    split at hcursor
    · cases hcursor
    intro wanted hwanted
    rw [hwanted] at hcursor
    obtain ⟨t, htrimmed, -, rfl⟩ := hquery.detection wanted hwanted
    by_contra hlong
    rw [validateFilter, trim_eq_self (@trimmed_toLowercase casing t htrimmed),
      if_pos (Or.inr (Nat.lt_of_not_le hlong))] at hcursor
    cases hcursor
  have hsame := (@resolve_cursor_iff casing clock inventory query hquery nextEnd hlow hhigh limit includeDetails
    detailFields).2 hfits
  rw [hsame] at h
  cases h
  rfl

/-- What one call of a chain leaves: the same question, read up to a lower key. -/
theorem chain_descends {casing : Casing} {first query : ResolvedProtectEventQuery} {n : Nat} (hfirst : Resolved casing first)
    (h : Chain casing first n query) : Resolved casing query ∧ SameQuestion query first ∧ pageEnd query + n ≤ pageEnd first := by
  induction h with
  | first => exact ⟨hfirst, ⟨rfl, rfl, rfl, rfl⟩, Nat.le_refl _⟩
  | @next n limit limit' query query' console clock inventory inventory' output cursor includeDetails detailFields h hpage
      hcursor hresolve ih =>
    obtain ⟨hquery, hquestion, hdescends⟩ := ih
    obtain ⟨hsame, hlow, hbelow⟩ := (searchPage_ok hpage).2 cursor hcursor
    have hhigh := Nat.le_of_lt (Nat.lt_of_lt_of_le hbelow (pageEnd_le hquery))
    have hresolved := resolve_ok hresolve
    rw [hsame] at hresolve
    obtain rfl := resolve_cursor_same hquery hlow hhigh hresolve
    refine ⟨hresolved, hquestion, ?_⟩
    show cursor.nextEnd + (n + 1) ≤ pageEnd first
    omega

/-- The filter of the call, trimmed and lower-cased, fits the limit of a raw one. -/
def FilterFits (casing : Casing) (detection : Option Text) : Prop :=
  ∀ raw, detection = some raw → byteLen (casing.toLowercase (trim raw)) ≤ MAXIMUM_QUERY_LENGTH

theorem first_fits_iff {casing : Casing} {clock : Except McpError Nat} {input : ProtectEventsInput}
    {inventory : List CameraView} {query : ResolvedProtectEventQuery} (hfirst : input.cursor = none)
    (h : resolveProtectEventQuery casing clock input inventory = .ok query) :
    Fits query.detection ↔ FilterFits casing input.detection := by
  unfold resolveProtectEventQuery at h
  rw [hfirst] at h
  dsimp only at h
  split at h
  · cases h
  rename_i hfilter
  split at h
  · cases h
  split at h
  · cases h
  split at h
  · cases h
  cases h
  generalize input.detection = detection at hfilter ⊢
  unfold validateFilter at hfilter
  split at hfilter
  · cases hfilter
    exact ⟨fun _ raw hraw => (by cases hraw), fun _ wanted hwanted => (by cases hwanted)⟩
  · split at hfilter
    · cases hfilter
    · cases hfilter
      constructor
      · rintro hfits raw ⟨⟩
        exact hfits _ rfl
      · rintro hfits wanted ⟨⟩
        exact hfits _ rfl

/-- **A cursor continues the question of the first call exactly when the filter of that call, trimmed
and lower-cased, fits the limit of a raw one**; no chain of cursors changes the question or goes on
for ever. -/
theorem event_cursors_closed (console : ProtectConsole) (input : ProtectEventsInput) (first query : ResolvedProtectEventQuery)
    (inventory : List CameraView) (n : Nat) (hinput : input.cursor = none)
    (hfirst : searchQuery console input = .ok (first, inventory)) (hchain : Chain console.casing first n query) :
    SameQuestion query first ∧ pageEnd query + n ≤ first.windowEnd ∧
    ∀ (console' : ProtectConsole) (limit : Nat) (inventory' : List CameraView) (output : ProtectEventsOutput),
      searchPage console' limit query inventory' = .ok output →
      (output.complete = true ↔ output.nextCursor = none) ∧
      ∀ cursor, output.nextCursor = some cursor →
        (Continues console.casing query cursor ↔ FilterFits console.casing input.detection) := by
  have hresolve := searchQuery_ok hfirst
  have hresolved := resolve_ok hresolve
  obtain ⟨hlast, hsame, hdescends⟩ := chain_descends hresolved hchain
  have hle := pageEnd_le hresolved
  refine ⟨hsame, by omega, fun console' limit inventory' output hpage => ⟨?_, fun cursor hcursor => ?_⟩⟩
  · rw [(searchPage_ok hpage).1, Option.isNone_iff_eq_none]
  · rw [continues_iff hlast hpage hcursor, hsame.2.2.2]
    exact first_fits_iff hinput hresolve

/-! ## Two first calls -/

/-- A console with one camera and two events in its history. -/
def doorConsole : ProtectConsole where
  casing := ⟨Char.isAlpha, fun _ => false⟩
  base64 _ := []
  clock := .ok 20
  availability _ := .ok ()
  cameras _ := .ok ([⟨"c1".toList, "camera".toList, some "Door".toList, none, none⟩], [])
  localCameras := none
  events := some fun _ _ _ => .ok ([⟨"e1".toList, "ring".toList, 10, none, none, none, []⟩,
    ⟨"e0".toList, "ring".toList, 5, none, none, none, []⟩], [])

/-- The first call for one event of the history. -/
def doorInput (detection : Text) : ProtectEventsInput :=
  ⟨none, some 0, some 20, none, some detection, none, 1, none, none⟩

/-- The question of `doorInput " RING "`. -/
def ringQuery : ResolvedProtectEventQuery := ⟨0, 20, none, some "ring".toList, none⟩

def doorInventory : List CameraView :=
  match cameraInventory doorConsole .publicOnly with
  | .ok inventory => inventory.cameras
  | .error _ => []

/-- The page the first call reads for a filter. -/
def doorOutput (wanted : Text) (rows : List ProtectEventView) : ProtectEventsOutput :=
  ⟨⟨1, 1, rows.length⟩, rows, 0, 20, 1, false, some ⟨0, 20, 9, none, some wanted⟩⟩

theorem event_cursors_closed_ring :
    ∃ output cursor, protectEventsSearch doorConsole (doorInput " RING ".toList) = .ok output ∧
      output.nextCursor = some cursor ∧ Continues doorConsole.casing ringQuery cursor := by
  have hpage : searchPage doorConsole 1 ringQuery doorInventory = .ok (doorOutput "ring".toList
      [⟨"e1".toList, "ring".toList, 10, none, none, none, none, []⟩]) := by rfl
  have h := event_cursors_closed doorConsole (doorInput " RING ".toList) ringQuery ringQuery doorInventory 0 rfl (by rfl) .first
  refine ⟨_, _, hpage, rfl, ((h.2.2 doorConsole 1 doorInventory _ hpage).2 _ rfl).2 ?_⟩
  rintro raw ⟨⟩
  decide +kernel

/-- **A filter of 64 letters Ⱥ is admitted with its 128 bytes; the cursor carries the 192 bytes of its
lower case and is refused.** -/
theorem grown_filter_refused :
    ∃ output cursor, protectEventsSearch doorConsole (doorInput (List.replicate 64 'Ⱥ')) = .ok output ∧
      output.nextCursor = some cursor ∧
      resolveProtectEventQuery doorConsole.casing doorConsole.clock (cursorInput cursor 1 none none) doorInventory =
        .error (.invalidParams "filters must be 1-128 characters".toList) := by
  have hnext : (protectEventsSearch doorConsole (doorInput (List.replicate 64 'Ⱥ'))).toOption.bind ProtectEventsOutput.nextCursor =
      some ⟨0, 20, 9, none, some (List.replicate 64 'ⱥ')⟩ := by decide +kernel
  obtain ⟨output, hsearch, hcursor⟩ := Option.bind_eq_some_iff.1 hnext
  refine ⟨output, _, ?_, hcursor, by rfl⟩
  cases h : protectEventsSearch doorConsole (doorInput (List.replicate 64 'Ⱥ')) with
  | error error =>
    rw [h] at hsearch
    cases hsearch
  | ok output =>
    rw [h] at hsearch
    cases hsearch
    rfl

end UnifiMcp
