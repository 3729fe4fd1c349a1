import Mathlib.Data.Prod.Lex
import Mathlib.Order.WithBot
import UnifiMcp.Api.Collection
import UnifiMcp.Lib.SortedPages
import UnifiMcp.Mcp.EventSearch
/-! # Locally paged searches (unifi-mcp/src/tools.rs, unifi-mcp/src/tools/activity.rs)

Four tools read a whole list, keep the rows that match, sort them and hand out a page. The controller may
return the rows in another order each time.

* `local_pages_order_free` — **clients, devices and activity rows page independently of that order; cameras
  do so exactly when no two that match share a display name.** -/
namespace UnifiMcp.LocalSearch
open Text Offsets SortedPages

/-! ## What the tools share -/

/-- A `Vec`: its length is a `usize`. -/
structure Rows (ρ : Type) where
  items : List ρ
  fits : items.length ≤ MAXIMUM_U64

/-- `next_offset` (tools.rs:11663). -/
def nextOffset (offset returned total : Nat) : Option Nat :=
  let consumed := saturatingAdd offset returned
  if consumed < total then some consumed else none

/-- `sort_key` (tools.rs:11690). -/
def sortKey (casing : Casing) (name : Option Text) : Text := casing.toLowercase (name.getD [])

/-- `normalize_mac` (tools.rs:11686). -/
def normalizeMac (mac : Text) : Text := toAsciiLowercase (trim mac)

/-- `str::contains`. -/
def contains (needle : Text) : Text → Bool
  | [] => needle.isEmpty
  | c :: text => needle.isPrefixOf (c :: text) || contains needle text

/-- The lower-cased value contains the query. -/
def mentions (casing : Casing) (query : Text) (value : Option Text) : Bool :=
  value.any fun value => contains query (casing.toLowercase value)

/-- A filter that asks for one word, case-insensitively; an absent value has none. -/
def wordMatches (casing : Casing) (wanted value : Option Text) : Bool :=
  wanted.all fun wanted => value.any fun value => casing.toLowercase value = wanted

/-! ## `clients.search` -/

/-- `ActiveClient` (models.rs:509), the fields a row shows or a filter reads. -/
structure ActiveClient where
  mac : Option Text
  name : Option Text
  hostname : Option Text
  oui : Option Text
  ip : Option Text
  essid : Option Text
  vlan : Option Nat
  network : Option Text
  apMac : Option Text
  signal : Option Int
  txBytes : Option Nat
  rxBytes : Option Nat
  wiredTxBytes : Option Nat
  wiredRxBytes : Option Nat
  uptime : Option Nat
  isWired : Option Bool
  fixedIp : Option Text
deriving DecidableEq

inductive ConnectionKind where
  | wired
  | wireless
deriving DecidableEq

inductive DetailLevel where
  | concise
  | full
deriving DecidableEq

/-- `ClientsSearchInput` (tools.rs:221). -/
structure ClientsSearchInput where
  query : Option Text
  ssid : Option Text
  vlan : Option Nat
  connection : Option ConnectionKind
  offset : Nat
  limit : Nat
  detail : DetailLevel

inductive CoverageStatus where
  | reported
  | unavailable
  | partial_
deriving DecidableEq

structure ClientCounterCoverage where
  status : CoverageStatus
  fields : Text
deriving DecidableEq

/-- `ClientRow` (tools.rs:374). -/
structure ClientRow where
  counterCoverage : Option ClientCounterCoverage
  name : Option Text
  hostname : Option Text
  mac : Option Text
  ip : Option Text
  connection : Text
  ssid : Option Text
  vlan : Option Nat
  apName : Option Text
  signalDbm : Option Int
  network : Option Text
  oui : Option Text
  uptimeSeconds : Option Nat
  txBytes : Option Nat
  rxBytes : Option Nat
  fixedIp : Option Text

structure ClientsSearchOutput where
  clients : List ClientRow
  totalMatches : Nat
  nextOffset : Option Nat
  apLookupTruncated : Option Bool

/-- The device read behind a page that carries access points: their names by address, and whether it was cut. -/
structure DeviceNames where
  byMac : Text → Option Text
  truncated : Bool

/-- `client_matches` (tools.rs:11703). -/
def clientMatches (casing : Casing) (query ssid : Option Text) (vlan : Option Nat) (client : ActiveClient) : Bool :=
  (query.all fun query => [client.name, client.hostname, client.mac, client.ip].any (mentions casing query)) &&
    wordMatches casing ssid client.essid && vlan.all fun vlan => client.vlan = some vlan

/-- `connection_matches` (tools.rs:11742). -/
def connectionMatches (connection : Option ConnectionKind) (client : ActiveClient) : Bool :=
  match connection with
  | none => true
  | some .wired => client.isWired = some true
  | some .wireless => client.isWired = some false

/-- The order of `sort_clients` (tools.rs:11842): the name or the host name, then the address. -/
def clientKey (casing : Casing) (client : ActiveClient) : Text ×ₗ WithBot Text :=
  toLex (sortKey casing (client.name.or client.hostname), client.mac)

/-- `client_counters` (traffic.rs:92). -/
def clientCounters (client : ActiveClient) : Option Nat × Option Nat × ClientCounterCoverage :=
  let (tx, rx, fields) :=
    if client.isWired = some true ∧ (client.wiredTxBytes.isSome ∨ client.wiredRxBytes.isSome) then
      (client.wiredTxBytes, client.wiredRxBytes, "wired-tx_bytes, wired-rx_bytes".toList)
    else (client.txBytes, client.rxBytes, "tx_bytes, rx_bytes".toList)
  let status : CoverageStatus :=
    match tx, rx with
    | some _, some _ => .reported
    | none, none => .unavailable
    | _, _ => .partial_
  (tx, rx, ⟨status, fields⟩)

/-- `connection_word` (tools.rs:11694). -/
def connectionWord : Option Bool → Text
  | some true => "wired".toList
  | some false => "wireless".toList
  | none => "unknown".toList

/-- `client_row` (tools.rs:11852). -/
def clientRow (names : Text → Option Text) (detail : DetailLevel) (client : ActiveClient) : ClientRow :=
  let full := decide (detail = .full)
  let (txBytes, rxBytes, counterCoverage) := clientCounters client
  { counterCoverage := if full then some counterCoverage else none
    name := client.name.or client.hostname
    hostname := client.hostname
    mac := client.mac
    ip := client.ip
    connection := connectionWord client.isWired
    ssid := client.essid
    vlan := client.vlan
    apName := client.apMac.bind fun mac => names (normalizeMac mac)
    signalDbm := client.signal.filter fun _ => full
    network := client.network.filter fun _ => full
    oui := client.oui.filter fun _ => full
    uptimeSeconds := client.uptime.filter fun _ => full
    txBytes := txBytes.filter fun _ => full
    rxBytes := rxBytes.filter fun _ => full
    fixedIp := client.fixedIp.filter fun _ => full }

/-- The checks before the read (tools.rs:5194-5197): the lower-cased filters. -/
def clientsFilters (casing : Casing) (input : ClientsSearchInput) : Except McpError (Option Text × Option Text) :=
  match validatePage input.limit with
  | .error error => .error error
  | .ok () =>
    match validateFilter casing input.query with
    | .error error => .error error
    | .ok query =>
      match validateFilter casing input.ssid with
      | .error error => .error error
      | .ok ssid => .ok (query, ssid)

/-- The rows that match, in order (tools.rs:5204-5208). -/
def clientsMatched (casing : Casing) (input : ClientsSearchInput) (filters : Option Text × Option Text)
    (clients : List ActiveClient) : List ActiveClient :=
  sortByKey (clientKey casing) (clients.filter fun client =>
    clientMatches casing filters.1 filters.2 input.vlan client && connectionMatches input.connection client)

/-- A page of the matches (tools.rs:5210-5232). -/
def clientsPage (names : DeviceNames) (input : ClientsSearchInput) (clients : List ActiveClient) : ClientsSearchOutput :=
  let page := page clients input.offset input.limit
  let (apNames, truncated) :=
    if page.any fun client => client.apMac.isSome then (names.byMac, names.truncated) else (fun _ => none, false)
  ⟨page.map (clientRow apNames input.detail), clients.length, nextOffset input.offset page.length clients.length,
    if truncated then some true else none⟩

/-- `clients_search` (tools.rs:5190). -/
def clientsSearch (casing : Casing) (names : DeviceNames) (input : ClientsSearchInput) (clients : List ActiveClient) :
    Except McpError ClientsSearchOutput :=
  (clientsFilters casing input).map fun filters => clientsPage names input (clientsMatched casing input filters clients)

/-! ## `devices.search` -/

/-- `DeviceSummary` (models.rs:57). -/
structure DeviceSummary where
  id : Text
  name : Option Text
  model : Option Text
  macAddress : Option Text
  ipAddress : Option Text
  state : Option Text
  firmwareVersion : Option Text
deriving DecidableEq

/-- `DevicesSearchInput` (tools.rs:255). -/
structure DevicesSearchInput where
  query : Option Text
  state : Option Text
  offset : Nat
  limit : Nat

structure DeviceRow where
  id : Text
  name : Option Text
  model : Option Text
  mac : Option Text
  ip : Option Text
  state : Option Text
  firmwareVersion : Option Text

structure DevicesSearchOutput where
  devices : List DeviceRow
  totalMatches : Nat
  nextOffset : Option Nat
  inventoryTruncated : Option Bool

/-- `device_matches` (tools.rs:11776). -/
def deviceMatches (casing : Casing) (query state : Option Text) (device : DeviceSummary) : Bool :=
  (query.all fun query => [device.name, device.model, device.macAddress, device.ipAddress].any (mentions casing query)) &&
    wordMatches casing state device.state

/-- The order of `devices_search` (tools.rs:5357): the name, then the id. -/
def deviceKey (casing : Casing) (device : DeviceSummary) : Text ×ₗ Text := toLex (sortKey casing device.name, device.id)

/-- `device_row` (tools.rs:11885). -/
def deviceRow (device : DeviceSummary) : DeviceRow :=
  ⟨device.id, device.name, device.model, device.macAddress, device.ipAddress, device.state, device.firmwareVersion⟩

/-- The checks before the read (tools.rs:5350-5352). -/
def devicesFilters (casing : Casing) (input : DevicesSearchInput) : Except McpError (Option Text × Option Text) :=
  match validatePage input.limit with
  | .error error => .error error
  | .ok () =>
    match validateFilter casing input.query with
    | .error error => .error error
    | .ok query =>
      match validateFilter casing input.state with
      | .error error => .error error
      | .ok state => .ok (query, state)

def devicesMatched (casing : Casing) (filters : Option Text × Option Text) (devices : List DeviceSummary) :
    List DeviceSummary :=
  sortByKey (deviceKey casing) (devices.filter (deviceMatches casing filters.1 filters.2))

def devicesPage (truncated : Bool) (input : DevicesSearchInput) (devices : List DeviceSummary) : DevicesSearchOutput :=
  let page := page devices input.offset input.limit
  ⟨page.map deviceRow, devices.length, nextOffset input.offset page.length devices.length,
    if truncated then some true else none⟩

/-- `devices_search` (tools.rs:5345); `truncated` is what the inventory read says of itself. -/
def devicesSearch (casing : Casing) (truncated : Bool) (input : DevicesSearchInput) (devices : List DeviceSummary) :
    Except McpError DevicesSearchOutput :=
  (devicesFilters casing input).map fun filters => devicesPage truncated input (devicesMatched casing filters devices)

/-! ## `cameras.search` -/

/-- The functional classes (tools.rs:12760). -/
inductive CameraClass where
  | doorbell
  | ptz
  | thirdParty
  | packageCamera
  | aiPaired
  | speaker
  | microphone
  | twoK
  | fourK
  | wifi
  | smartDetect
  | opticalZoom
deriving DecidableEq

def CameraClass.name : CameraClass → Text
  | doorbell => "doorbell".toList
  | ptz => "ptz".toList
  | thirdParty => "third-party".toList
  | packageCamera => "package-camera".toList
  | aiPaired => "ai-paired".toList
  | speaker => "speaker".toList
  | microphone => "microphone".toList
  | twoK => "2k".toList
  | fourK => "4k".toList
  | wifi => "wifi".toList
  | smartDetect => "smart-detect".toList
  | opticalZoom => "optical-zoom".toList

/-- The candidates of `camera_classes`, in its order. -/
def CameraClass.candidates : List CameraClass :=
  [doorbell, ptz, thirdParty, packageCamera, aiPaired, speaker, microphone, twoK, fourK, wifi, smartDetect, opticalZoom]

/-- `ProtectCamera` (protect.rs:123), the fields a search reads. -/
structure SearchedCamera where
  camera : ValidCamera
  state : Text

/-- `ProtectLocalCamera` (protect.rs:320), likewise; `reported` are its class flags. -/
structure SearchedLocalCamera where
  camera : ProtectLocalCamera
  reported : CameraClass → Option Bool

/-- `CameraView` (tools.rs:2020), the fields a search reads; `reported` stands for the class flags in
`features` and `audio`. -/
structure CameraRow where
  view : CameraView
  hardwareModel : Option Text
  classes : Option (List Text)
  state : Text
  reported : CameraClass → Option Bool

/-- `CamerasSearchInput` (tools.rs:560). -/
structure CamerasSearchInput where
  query : Option Text
  model : Option Text
  classFilter : Option Text
  state : Option Text
  offset : Nat
  limit : Nat

/-- The answer of the local session when one is configured. -/
abbrev LocalCameras := Option (Except ApiError (List SearchedLocalCamera))

/-- `ProtectCapabilitiesView` (tools.rs:13035), what varies in it. -/
structure ProtectCapabilities where
  localEnrichment : Text
  localInventorySource : Option Text
  historicalEventsConfigured : Bool
  localUnavailableReason : Option Text

structure CamerasSearchOutput where
  cameras : List CameraRow
  total : Nat
  nextOffset : Option Nat
  capabilities : ProtectCapabilities

/-- `local_by_id` (tools.rs:5770). -/
def localCamerasById (localCameras : LocalCameras) : SortedMap Text SearchedLocalCamera :=
  (localCameras.bind Except.toOption).elim .empty fun rows => .ofOptions (rows.map fun row => (row.camera.id, some row))

/-- `local_state` (tools.rs:5779). -/
def localState (localCameras : LocalCameras) (cameras : List SearchedCamera) : LocalEnrichmentState :=
  match localCameras with
  | none => .notConfigured
  | some (.error _) => .unavailable
  | some (.ok _) =>
    let byId := localCamerasById localCameras
    if cameras.length = byId.length ∧ cameras.all fun camera => (byId.find? camera.camera.camera.id).isSome then .available
    else .partial_

def localError (localCameras : LocalCameras) : Option ApiError :=
  localCameras.bind fun | .error error => some error | .ok _ => none

/-- `camera_classes` (tools.rs:12760). -/
def cameraClasses (reported : CameraClass → Option Bool) : Option (List Text) :=
  if CameraClass.candidates.any fun candidate => (reported candidate).isSome then
    some ((CameraClass.candidates.filter fun candidate => reported candidate = some true).map CameraClass.name)
  else none

/-- `camera_view` (tools.rs:12536). -/
def cameraRow (byId : SortedMap Text SearchedLocalCamera) (camera : SearchedCamera) : CameraRow :=
  let found := byId.find? camera.camera.camera.id
  let reported := fun candidate => found.bind fun found => found.reported candidate
  { view := cameraView camera.camera (found.map SearchedLocalCamera.camera)
    hardwareModel := (found.bind fun found => found.camera.marketName).bind boundedNonblankText
    classes := cameraClasses reported
    state := boundedText camera.state
    reported := reported }

/-- The rows of `camera_inventory` (tools.rs:5819-5826): by display name, and nothing else. -/
def cameraRows (localCameras : LocalCameras) (cameras : List SearchedCamera) : List CameraRow :=
  sortByKey (fun row => row.view.displayName) (cameras.map (cameraRow (localCamerasById localCameras)))

structure CameraFilters where
  query : Option Text
  model : Option Text
  classFilter : Option Text
  state : Option Text

/-- The checks before the read (tools.rs:5837-5842). -/
def camerasFilters (casing : Casing) (input : CamerasSearchInput) : Except McpError CameraFilters :=
  match validatePage input.limit with
  | .error error => .error error
  | .ok () =>
    match validateFilter casing input.query with
    | .error error => .error error
    | .ok query =>
      match validateFilter casing input.model with
      | .error error => .error error
      | .ok model =>
        match validateFilter casing input.classFilter with
        | .error error => .error error
        | .ok classFilter =>
          match validateFilter casing input.state with
          | .error error => .error error
          | .ok state => .ok ⟨query, model, classFilter, state⟩

/-- `unavailable_camera_filter` (tools.rs:13092), or the error of the local session. -/
def unavailableCameraFilter (localCameras : LocalCameras) (field : Text) : McpError :=
  (localError localCameras).elim (.invalidParams ("camera ".toList ++ field ++
    " filtering is unavailable because this console supplied no complete ".toList ++ field ++ " data".toList)) apiError

/-- `class_filter_available` (tools.rs:12835). -/
def classFilterAvailable (rows : List CameraRow) (wanted : Text) : Except McpError Bool :=
  match CameraClass.candidates.find? fun candidate => candidate.name = wanted with
  | none => .error (.invalidParams ("class must be doorbell, ptz, third-party, package-camera, ai-paired, speaker, ".toList ++
      "microphone, 2k, 4k, wifi, smart-detect, or optical-zoom".toList))
  | some candidate => .ok (rows.all fun row => (row.reported candidate).isSome)

/-- The filters that the inventory cannot answer (tools.rs:5844-5866). -/
def camerasRefusal (localCameras : LocalCameras) (filters : CameraFilters) (cameras : List SearchedCamera) :
    Option McpError :=
  let rows := cameraRows localCameras cameras
  let available := decide (localState localCameras cameras = .available)
  if filters.model.isSome && (!available || rows.any fun row => row.hardwareModel.isNone) then
    some (unavailableCameraFilter localCameras "model".toList)
  else filters.classFilter.bind fun wanted =>
    match classFilterAvailable rows wanted with
    | .error error => some error
    | .ok complete =>
      if !available || !complete then some (unavailableCameraFilter localCameras "class".toList) else none

/-- The filter of `cameras_search` (tools.rs:5873-5895). -/
def cameraMatches (casing : Casing) (filters : CameraFilters) (row : CameraRow) : Bool :=
  (filters.query.all fun query => [some row.view.id, row.view.name, some row.view.displayName].any (mentions casing query)) &&
    (filters.model.all fun model => mentions casing model row.hardwareModel) &&
    (filters.classFilter.all fun wanted => row.classes.any fun classes => classes.any (· = wanted)) &&
    wordMatches casing filters.state (some row.state)

def camerasMatched (casing : Casing) (localCameras : LocalCameras) (filters : CameraFilters) (cameras : List SearchedCamera) :
    List CameraRow :=
  (cameraRows localCameras cameras).filter (cameraMatches casing filters)

/-- `protect_capabilities` (tools.rs:13013). -/
def protectCapabilities (state : LocalEnrichmentState) (error : Option ApiError) : ProtectCapabilities :=
  let (enrichment, source, reason) : Text × Option Text × Option Text :=
    match state with
    | .available => ("available".toList, some "authenticatedLocalBootstrap".toList, none)
    | .partial_ => ("partial".toList, some "authenticatedLocalBootstrap".toList,
        some "the local Protect inventory did not contain every public camera".toList)
    | .notConfigured => ("notConfigured".toList, none, some "local Protect credentials are not configured".toList)
    | .unavailable => ("unavailable".toList, none, some "the configured local Protect session could not be read".toList)
  ⟨enrichment, source, decide (state ≠ .notConfigured), (error.map ApiError.display).or reason⟩

def camerasPage (capabilities : ProtectCapabilities) (input : CamerasSearchInput) (rows : List CameraRow) :
    CamerasSearchOutput :=
  let page := page rows input.offset input.limit
  ⟨page, rows.length, nextOffset input.offset page.length rows.length, capabilities⟩

/-- `cameras_search` (tools.rs:5831), behind the reads and their identity checks. -/
def camerasSearch (casing : Casing) (localCameras : LocalCameras) (input : CamerasSearchInput)
    (cameras : List SearchedCamera) : Except McpError CamerasSearchOutput :=
  match camerasFilters casing input with
  | .error error => .error error
  | .ok filters =>
    match camerasRefusal localCameras filters cameras with
    | some error => .error error
    | none =>
      .ok (camerasPage (protectCapabilities (localState localCameras cameras) (localError localCameras)) input
        (camerasMatched casing localCameras filters cameras))

/-! ## The activity client pages -/

/-- `ActivityDetails`, the client page in it. -/
structure ActivityClients where
  clients : List UnifiMcp.ClientRow
  totalClients : Nat
  nextOffset : Option Nat

/-- The check of `activity_stats` (activity.rs:130). -/
def activityRefused (input : StatsQueryInput) : Bool :=
  input.top.getD 10 = 0 || input.limit.getD 50 = 0 || (input.report = .clientWanHistory && input.top.isSome) ||
    (input.report = .dpiApplications && (input.limit.isSome || input.offset.isSome))

def activityCheck (input : StatsQueryInput) : Except McpError Unit :=
  if activityRefused input then
    .error (.invalidParams ("positive top applies only to dpiApplications; positive limit and nonnegative offset ".toList ++
      "apply only to clientWanHistory".toList))
  else .ok ()

/-- The order of the rows (activity.rs:162): most bytes first, then the address. -/
def activityKey (row : UnifiMcp.ClientRow) : ℕᵒᵈ ×ₗ Text :=
  toLex (OrderDual.toDual (row.bytes.rxBytes + row.bytes.txBytes), row.mac)

/-- The part of `ActivityDetails` with the client page (activity.rs:167-175), over the sorted rows. -/
def activityClients (input : StatsQueryInput) (clients : List UnifiMcp.ClientRow) : ActivityClients :=
  let offset := input.offset.getD 0
  let limit := input.limit.getD 50
  let next := saturatingAdd offset limit
  if input.report = .clientWanHistory then
    ⟨page clients offset limit, clients.length, if next < clients.length then some next else none⟩
  else ⟨[], clients.length, none⟩

/-- `activity_stats` (activity.rs:117) over the rows of the totals, as far as the client page. -/
def activityStats (input : StatsQueryInput) (clients : List UnifiMcp.ClientRow) : Except McpError ActivityClients :=
  (activityCheck input).map fun () => activityClients input (sortByKey activityKey clients)

/-! ## Pages -/

section
variable {σ : Type} {all : List σ} {offset limit : Nat}

/-- The next offset of a page, when the matches fit a `usize`. -/
theorem nextOffset_eq (hfits : all.length ≤ MAXIMUM_U64) :
    nextOffset offset (page all offset limit).length all.length =
      if offset + (page all offset limit).length < all.length then some (offset + (page all offset limit).length) else none := by
  unfold nextOffset saturatingAdd
  by_cases hlt : offset + (page all offset limit).length < all.length
  · rw [if_pos hlt, min_eq_left (by omega), if_pos hlt]
  · rw [if_neg hlt, if_neg]
    omega

/-- The next offset of the activity page, which counts the limit in place of the rows. -/
theorem nextOffset_limit (hfits : all.length ≤ MAXIMUM_U64) (hoffset : offset ≤ all.length) :
    (if saturatingAdd offset limit < all.length then some (saturatingAdd offset limit) else none) =
      if offset + (page all offset limit).length < all.length then some (offset + (page all offset limit).length) else none := by
  have hlength : (page all offset limit).length = min limit (all.length - offset) := by
    rw [page, List.length_take, List.length_drop]
  unfold saturatingAdd
  by_cases hlt : offset + limit < all.length
  · rw [min_eq_left (by omega), if_pos hlt, if_pos (by omega)]
    congr 1
    omega
  · rw [if_neg (by omega), if_neg (by omega)]

/-- A page of the matches, each row as it is shown. -/
theorem covers_shown {ρ : Type} (f : ρ → σ) {rows : List ρ} (hlimit : 0 < limit) (hfits : rows.length ≤ MAXIMUM_U64) :
    Covers (rows.map f) offset ⟨(page rows offset limit).map f, nextOffset offset (page rows offset limit).length rows.length⟩ := by
  have hpage : (page rows offset limit).map f = page (rows.map f) offset limit := by
    rw [page, page, List.map_take, List.map_drop]
  have hlength : (page rows offset limit).length = (page (rows.map f) offset limit).length := by
    rw [← hpage, List.length_map]
  rw [hpage]
  refine covers_page hlimit ?_
  rw [hlength, ← List.length_map f]
  exact nextOffset_eq (by rwa [List.length_map])

end

/-! ## Order -/

section
variable {casing : Casing}

theorem clientsFilters_limit {input : ClientsSearchInput} {filters : Option Text × Option Text}
    (h : clientsFilters casing input = .ok filters) : 0 < input.limit := by
  unfold clientsFilters at h
  split at h
  · cases h
  · exact validatePage_ok ‹_›

theorem devicesFilters_limit {input : DevicesSearchInput} {filters : Option Text × Option Text}
    (h : devicesFilters casing input = .ok filters) : 0 < input.limit := by
  unfold devicesFilters at h
  split at h
  · cases h
  · exact validatePage_ok ‹_›

theorem camerasFilters_limit {input : CamerasSearchInput} {filters : CameraFilters}
    (h : camerasFilters casing input = .ok filters) : 0 < input.limit := by
  unfold camerasFilters at h
  split at h
  · cases h
  · exact validatePage_ok ‹_›

/-- A key that ends in an identity has no ties. -/
theorem nodup_key {ρ κ μ : Type} {rows : List ρ} {key : ρ → κ} {id : ρ → μ} (hkey : ∀ a b, key a = key b → id a = id b)
    (h : (rows.map id).Nodup) : (rows.map key).Nodup :=
  List.pairwise_map.2 ((List.pairwise_map.1 h).imp fun hne heq => hne (hkey _ _ heq))

/-- A search that filters the rows, sorts them by a key without ties and pages them is free of the order. -/
theorem orderFree_sorted {ρ σ τ φ κ : Type} [LinearOrder κ] (filters : Except McpError φ) (keep : φ → ρ → Bool) {key : ρ → κ}
    (view : ρ → σ) (output : List ρ → Nat → τ) {part : τ → Offsets.Part σ} {rows : Rows ρ} (hkeys : (rows.items.map key).Nodup)
    (hcovers : ∀ f, filters = .ok f → ∀ (matched : List ρ) offset, matched.length ≤ MAXIMUM_U64 →
      offset ≤ matched.length → Covers (matched.map view) offset (part (output matched offset))) :
    OrderFree (fun read offset => filters.map fun f => output (sortByKey key (read.filter (keep f))) offset) part rows.items
      (filters.toOption.elim [] fun f => (rows.items.filter (keep f)).map view) := by
  refine orderFree (fun read => filters.map fun f => sortByKey key (read.filter (keep f))) output ?_ ?_ ?_
  · intro read offset
    cases filters <;> rfl
  · intro read hread
    exact congrArg (fun found => filters.map found) (funext fun f => sortByKey_filter_eq _ hread hkeys)
  · intro matched hmatched
    cases hfilters : filters with
    | error error =>
      rw [hfilters] at hmatched
      cases hmatched
    | ok f =>
      rw [hfilters] at hmatched
      cases hmatched
      have hperm : (sortByKey key (rows.items.filter (keep f))).Perm _ := sortByKey_perm ..
      have hlength := hperm.length_eq.trans_le (List.length_filter_le ..)
      refine ⟨_, hperm.map view, by rwa [List.length_map], fun offset hoffset => ?_⟩
      exact hcovers f hfilters _ offset (hlength.trans rows.fits) (by rwa [List.length_map] at hoffset)

/-! ## Clients, devices and activity -/

/-- The rows a request matches, as it shows them. -/
def clientsMatching (casing : Casing) (names : DeviceNames) (input : ClientsSearchInput) (clients : List ActiveClient) :
    List ClientRow :=
  (clientsFilters casing input).toOption.elim [] fun filters =>
    (clients.filter fun client => clientMatches casing filters.1 filters.2 input.vlan client &&
      connectionMatches input.connection client).map (clientRow names.byMac input.detail)

/-- Access point names are looked up only for a page that carries one; another page has none to show. -/
theorem clientsPage_rows (names : DeviceNames) (input : ClientsSearchInput) (clients : List ActiveClient) :
    (clientsPage names input clients).clients =
      (page clients input.offset input.limit).map (clientRow names.byMac input.detail) := by
  by_cases hap : ((page clients input.offset input.limit).any fun client => client.apMac.isSome) = true
  · simp [clientsPage, hap]
  · have hnone : ∀ client ∈ page clients input.offset input.limit, client.apMac = none := by simpa using hap
    simp only [clientsPage, hap]
    refine List.map_congr_left fun client hclient => ?_
    simp [clientRow, hnone client hclient]

theorem clients_order_free (names : DeviceNames) (input : ClientsSearchInput) (clients : Rows ActiveClient)
    (hmacs : (clients.items.map ActiveClient.mac).Nodup) :
    OrderFree (fun read offset => clientsSearch casing names { input with offset := offset } read)
      (fun output => ⟨output.clients, output.nextOffset⟩) clients.items
      (clientsMatching casing names input clients.items) := by
  have hkeys : (clients.items.map (clientKey casing)).Nodup :=
    nodup_key (fun _ _ h => congrArg (fun key => (ofLex key).2) h) hmacs
  refine orderFree_sorted (clientsFilters casing input)
    (fun filters client => clientMatches casing filters.1 filters.2 input.vlan client && connectionMatches input.connection client)
    (clientRow names.byMac input.detail) (fun matched offset => clientsPage names { input with offset := offset } matched) hkeys ?_
  intro filters hfilters matched offset hfits _
  rw [clientsPage_rows]
  exact covers_shown _ (clientsFilters_limit hfilters) hfits

/-- The rows a request matches, as it shows them. -/
def devicesMatching (casing : Casing) (input : DevicesSearchInput) (devices : List DeviceSummary) : List DeviceRow :=
  (devicesFilters casing input).toOption.elim [] fun filters =>
    (devices.filter (deviceMatches casing filters.1 filters.2)).map deviceRow

theorem devices_order_free (truncated : Bool) (input : DevicesSearchInput) (devices : Rows DeviceSummary)
    (hids : (devices.items.map DeviceSummary.id).Nodup) :
    OrderFree (fun read offset => devicesSearch casing truncated { input with offset := offset } read)
      (fun output => ⟨output.devices, output.nextOffset⟩) devices.items (devicesMatching casing input devices.items) := by
  have hkeys : (devices.items.map (deviceKey casing)).Nodup :=
    nodup_key (fun _ _ h => congrArg (fun key => (ofLex key).2) h) hids
  refine orderFree_sorted (devicesFilters casing input) (fun filters => deviceMatches casing filters.1 filters.2) deviceRow
    (fun matched offset => devicesPage truncated { input with offset := offset } matched) hkeys ?_
  intro filters hfilters matched offset hfits _
  exact covers_shown _ (devicesFilters_limit hfilters) hfits

/-- The rows of the client pages: all of them, unless the request is refused. -/
def activityMatching (input : StatsQueryInput) (clients : List UnifiMcp.ClientRow) : List UnifiMcp.ClientRow :=
  (activityCheck input).toOption.elim [] fun () => clients

theorem activity_order_free (input : StatsQueryInput) (hreport : input.report = .clientWanHistory)
    (clients : Rows UnifiMcp.ClientRow) (hmacs : (clients.items.map UnifiMcp.ClientRow.mac).Nodup) :
    OrderFree (fun read offset => activityStats { input with offset := some offset } read)
      (fun output => ⟨output.clients, output.nextOffset⟩) clients.items (activityMatching input clients.items) := by
  have hkeys : (clients.items.map activityKey).Nodup := nodup_key (fun _ _ h => congrArg (fun key => (ofLex key).2) h) hmacs
  have hcheck : ∀ offset, activityCheck { input with offset := some offset } = activityCheck input := by
    intro offset
    have hrefused : activityRefused { input with offset := some offset } = activityRefused input := by
      simp [activityRefused, hreport]
    rw [activityCheck, activityCheck, hrefused]
  have hall : ∀ rows : List UnifiMcp.ClientRow, rows.filter (fun _ => true) = rows := fun rows =>
    List.filter_eq_self.2 fun _ _ => rfl
  have hsearch : (fun read offset => activityStats { input with offset := some offset } read) = fun read offset =>
      (activityCheck input).map fun () =>
        activityClients { input with offset := some offset } (sortByKey activityKey (read.filter fun _ => true)) := by
    funext read offset
    rw [activityStats, hcheck, hall]
  have hmatching : activityMatching input clients.items =
      (activityCheck input).toOption.elim [] fun () => (clients.items.filter fun _ => true).map id := by
    rw [activityMatching, hall, List.map_id]
  rw [hsearch, hmatching]
  refine orderFree_sorted (activityCheck input) (fun _ _ => true) id
    (fun matched offset => activityClients { input with offset := some offset } matched) hkeys ?_
  intro _ hok matched offset hfits hoffset
  have hlimit : 0 < input.limit.getD 50 := by
    have hrefused : activityRefused input = false := by
      unfold activityCheck at hok
      split at hok
      · cases hok
      · exact Bool.eq_false_iff.2 ‹_›
    simp only [activityRefused, Bool.or_eq_false_iff, decide_eq_false_iff_not] at hrefused
    exact Nat.pos_of_ne_zero hrefused.1.1.2
  simp only [activityClients, hreport, if_true]
  simpa using covers_page hlimit (nextOffset_limit hfits hoffset)

/-! ## Cameras -/

/-- The rows the filters match, as they came. -/
def camerasKept (casing : Casing) (localCameras : LocalCameras) (filters : CameraFilters) (cameras : List SearchedCamera) :
    List CameraRow :=
  (cameras.map (cameraRow (localCamerasById localCameras))).filter (cameraMatches casing filters)

/-- The rows a request matches. -/
def camerasMatching (casing : Casing) (localCameras : LocalCameras) (input : CamerasSearchInput)
    (cameras : List SearchedCamera) : List CameraRow :=
  (camerasFilters casing input).toOption.elim [] fun filters => camerasKept casing localCameras filters cameras

/-- The answered filters and the matches, before a page is cut. -/
def camerasFound (casing : Casing) (localCameras : LocalCameras) (input : CamerasSearchInput)
    (cameras : List SearchedCamera) : Except McpError (ProtectCapabilities × List CameraRow) :=
  match camerasFilters casing input with
  | .error error => .error error
  | .ok filters =>
    match camerasRefusal localCameras filters cameras with
    | some error => .error error
    | none => .ok (protectCapabilities (localState localCameras cameras) (localError localCameras),
        camerasMatched casing localCameras filters cameras)

variable {localCameras : LocalCameras} {cameras read : List SearchedCamera}

theorem localState_perm (h : read.Perm cameras) : localState localCameras read = localState localCameras cameras := by
  unfold localState
  split
  · rfl
  · rfl
  · simp only [h.length_eq, h.all_eq]

theorem cameraRows_perm (h : read.Perm cameras) : (cameraRows localCameras read).Perm (cameraRows localCameras cameras) :=
  ((sortByKey_perm ..).trans (h.map _)).trans (sortByKey_perm ..).symm

theorem camerasRefusal_perm {filters : CameraFilters} (h : read.Perm cameras) :
    camerasRefusal localCameras filters read = camerasRefusal localCameras filters cameras := by
  have hrows : (cameraRows localCameras read).Perm (cameraRows localCameras cameras) := cameraRows_perm h
  have havailable : ∀ wanted, classFilterAvailable (cameraRows localCameras read) wanted =
      classFilterAvailable (cameraRows localCameras cameras) wanted := by
    intro wanted
    unfold classFilterAvailable
    split
    · rfl
    · rw [hrows.all_eq]
  unfold camerasRefusal
  simp only [localState_perm h, hrows.any_eq, havailable]

theorem camerasSearch_eq (casing : Casing) (input : CamerasSearchInput) (offset : Nat) :
    camerasSearch casing localCameras { input with offset := offset } cameras =
      (camerasFound casing localCameras input cameras).map fun found => camerasPage found.1 { input with offset := offset } found.2 := by
  have hfilters : camerasFilters casing { input with offset := offset } = camerasFilters casing input := rfl
  rw [camerasSearch, camerasFound, hfilters]
  cases camerasFilters casing input with
  | error error => rfl
  | ok filters =>
    simp only
    cases camerasRefusal localCameras filters cameras <;> rfl

/-- What the filters match when they are answered. -/
theorem camerasFound_ok {casing : Casing} {input : CamerasSearchInput} {found : ProtectCapabilities × List CameraRow}
    (h : camerasFound casing localCameras input cameras = .ok found) :
    ∃ filters, camerasFilters casing input = .ok filters ∧ camerasRefusal localCameras filters cameras = none ∧
      found.2 = camerasMatched casing localCameras filters cameras := by
  unfold camerasFound at h
  split at h
  · cases h
  · rename_i filters hfilters
    split at h
    · cases h
    · rename_i hrefusal
      cases h
      exact ⟨filters, hfilters, hrefusal, rfl⟩

/-- **A camera search is free of the order exactly when no two cameras that match share a display name.** -/
theorem cameras_order_free_iff (localCameras : LocalCameras) (input : CamerasSearchInput) (cameras : Rows SearchedCamera)
    (hids : (cameras.items.map fun camera => camera.camera.camera.id).Nodup) :
    OrderFree (fun read offset => camerasSearch casing localCameras { input with offset := offset } read)
        (fun output => ⟨output.cameras, output.nextOffset⟩) cameras.items (camerasMatching casing localCameras input cameras.items) ↔
      ∀ filters, camerasFilters casing input = .ok filters → camerasRefusal localCameras filters cameras.items = none →
        ((camerasKept casing localCameras filters cameras.items).map fun row => row.view.displayName).Nodup := by
  have hrows : (cameras.items.map (cameraRow (localCamerasById localCameras))).Nodup :=
    nodup_key (fun _ _ h => congrArg (fun row => row.view.id) h) hids
  constructor
  · intro hfree filters hfilters hrefusal
    have hreverse := List.reverse_perm cameras.items
    have hpages : ∀ offset, page (camerasMatched casing localCameras filters cameras.items.reverse) offset input.limit =
        page (camerasMatched casing localCameras filters cameras.items) offset input.limit := by
      intro offset
      have hsame := hfree.same _ hreverse offset
      simp only [camerasSearch_eq, camerasFound, hfilters, camerasRefusal_perm hreverse, hrefusal] at hsame
      exact congrArg CamerasSearchOutput.cameras (Except.ok.inj hsame)
    have hmatched := eq_of_pages (camerasFilters_limit hfilters) hpages
    rw [camerasMatched, cameraRows, List.map_reverse] at hmatched
    exact no_ties_of_reverse hrows hmatched
  · intro hnames
    refine orderFree (camerasFound casing localCameras input)
      (fun found offset => camerasPage found.1 { input with offset := offset } found.2) ?_ ?_ ?_
    · intro read offset
      exact camerasSearch_eq ..
    · intro read hread
      unfold camerasFound
      split
      · rfl
      · rename_i filters hfilters
        rw [camerasRefusal_perm hread, localState_perm hread]
        split
        · rfl
        · rename_i hrefusal
          have hmatched : camerasMatched casing localCameras filters read = camerasMatched casing localCameras filters cameras.items :=
            filter_sortByKey_eq _ (hread.map _) (hnames filters hfilters hrefusal)
          rw [hmatched]
    · intro found hfound
      obtain ⟨filters, hfilters, -, hmatched⟩ := camerasFound_ok hfound
      have hperm : found.2.Perm (camerasKept casing localCameras filters cameras.items) := by
        rw [hmatched]
        exact (sortByKey_perm ..).filter _
      have hlength : found.2.length ≤ cameras.items.length := by
        rw [hperm.length_eq]
        exact (List.length_filter_le ..).trans_eq (List.length_map _)
      refine ⟨found.2, ?_, hlength, fun offset _ => ?_⟩
      · rw [camerasMatching, hfilters]
        exact hperm
      · exact covers_page (camerasFilters_limit hfilters) (nextOffset_eq (hlength.trans cameras.fits))

end

/-! ## The four tools -/

/-- **The order in which the controller returns the rows does not show in the pages of clients, devices and
activity rows, and every walk over them ends with each matching row once. For cameras that is so exactly
when no two that match share a display name.** -/
theorem local_pages_order_free (casing : Casing) :
    (∀ (names : DeviceNames) (input : ClientsSearchInput) (clients : Rows ActiveClient),
      (clients.items.map ActiveClient.mac).Nodup →
        OrderFree (fun read offset => clientsSearch casing names { input with offset := offset } read)
          (fun output => ⟨output.clients, output.nextOffset⟩) clients.items
          (clientsMatching casing names input clients.items)) ∧
    (∀ (truncated : Bool) (input : DevicesSearchInput) (devices : Rows DeviceSummary),
      (devices.items.map DeviceSummary.id).Nodup →
        OrderFree (fun read offset => devicesSearch casing truncated { input with offset := offset } read)
          (fun output => ⟨output.devices, output.nextOffset⟩) devices.items (devicesMatching casing input devices.items)) ∧
    (∀ (input : StatsQueryInput) (clients : Rows UnifiMcp.ClientRow), input.report = .clientWanHistory →
      (clients.items.map UnifiMcp.ClientRow.mac).Nodup →
        OrderFree (fun read offset => activityStats { input with offset := some offset } read)
          (fun output => ⟨output.clients, output.nextOffset⟩) clients.items (activityMatching input clients.items)) ∧
    (∀ (localCameras : LocalCameras) (input : CamerasSearchInput) (cameras : Rows SearchedCamera),
      (cameras.items.map fun camera => camera.camera.camera.id).Nodup →
        (OrderFree (fun read offset => camerasSearch casing localCameras { input with offset := offset } read)
            (fun output => ⟨output.cameras, output.nextOffset⟩) cameras.items
            (camerasMatching casing localCameras input cameras.items) ↔
          ∀ filters, camerasFilters casing input = .ok filters → camerasRefusal localCameras filters cameras.items = none →
            ((camerasKept casing localCameras filters cameras.items).map fun row => row.view.displayName).Nodup)) :=
  ⟨fun names input clients h => clients_order_free names input clients h,
    fun truncated input devices h => devices_order_free truncated input devices h,
    fun input clients hreport h => activity_order_free input hreport clients h,
    fun localCameras input cameras h => cameras_order_free_iff localCameras input cameras h⟩

/-- A casing without the final sigma. -/
def plainCasing : Casing := ⟨fun _ => false, fun _ => false⟩

/-- A request without filters, one row a page. -/
def everyCamera : CamerasSearchInput := ⟨none, none, none, none, 0, 1⟩

def sampleCamera (id name : Text) (h : ValidIdentifier id) : SearchedCamera :=
  ⟨⟨⟨id, "camera".toList, some name, none, none⟩, h⟩, "CONNECTED".toList⟩

/-- Two cameras of one name. -/
def twinCameras : Rows SearchedCamera :=
  ⟨[sampleCamera "1".toList "Door".toList (by decide), sampleCamera "2".toList "Door".toList (by decide)], by decide⟩

/-- Two cameras with names of their own. -/
def namedCameras : Rows SearchedCamera :=
  ⟨[sampleCamera "1".toList "Door".toList (by decide), sampleCamera "2".toList "Yard".toList (by decide)], by decide⟩

def sampleClient (mac : Text) : ActiveClient :=
  ⟨some mac, some "phone".toList, none, none, none, none, none, none, none, none, none, none, none, none, none, none, none⟩

/-- Two clients of one name. -/
def twinClients : Rows ActiveClient := ⟨[sampleClient "02:00:00:00:00:01".toList, sampleClient "02:00:00:00:00:02".toList], by decide⟩

theorem local_pages_order_free_sample :
    OrderFree (fun read offset => clientsSearch plainCasing ⟨fun _ => none, false⟩
        ⟨some "phone".toList, none, none, none, offset, 1, .concise⟩ read)
      (fun output => ⟨output.clients, output.nextOffset⟩) twinClients.items
      (clientsMatching plainCasing ⟨fun _ => none, false⟩ ⟨some "phone".toList, none, none, none, 0, 1, .concise⟩ twinClients.items) ∧
    OrderFree (fun read offset => camerasSearch plainCasing none { everyCamera with offset := offset } read)
      (fun output => ⟨output.cameras, output.nextOffset⟩) namedCameras.items
      (camerasMatching plainCasing none everyCamera namedCameras.items) := by
  have hfree := local_pages_order_free plainCasing
  refine ⟨hfree.1 ⟨fun _ => none, false⟩ ⟨some "phone".toList, none, none, none, 0, 1, .concise⟩ twinClients (by decide),
    (hfree.2.2.2 none everyCamera namedCameras (by decide)).2 ?_⟩
  rintro filters ⟨⟩ -
  decide

/-- Two cameras of one name, read the other way round for the second page: the first is shown twice and the
second never. -/
theorem camera_walk_repeats :
    (twinCameras.items.map fun camera => camera.camera.camera.id).Nodup ∧
    (walk (fun request offset => some ((camerasSearch plainCasing none { everyCamera with offset := offset }
        (if request = 0 then twinCameras.items else twinCameras.items.reverse)).map fun output =>
          (⟨output.cameras.map fun row => row.view.id, output.nextOffset⟩ : Offsets.Part Text))) 3 0 0).bind Except.toOption =
      some ["1".toList, "1".toList] ∧
    ¬OrderFree (fun read offset => camerasSearch plainCasing none { everyCamera with offset := offset } read)
      (fun output => ⟨output.cameras, output.nextOffset⟩) twinCameras.items
      (camerasMatching plainCasing none everyCamera twinCameras.items) := by
  refine ⟨by decide, by decide, fun hfree => ?_⟩
  have hsame := hfree.same _ (List.reverse_perm _) 0
  have hids := congrArg (fun output => (output.toOption.map fun output => output.cameras.map fun row => row.view.id)) hsame
  revert hids
  decide

end UnifiMcp.LocalSearch
