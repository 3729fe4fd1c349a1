import UnifiMcp.Api.Collection
import UnifiMcp.Lib.Base64
import UnifiMcp.Lib.LineProtocol
import UnifiMcp.Lib.Packing
/-! # `Publication::build` (unifi-server/src/collector/sink.rs)

A snapshot becomes lines: its JSON text in base64 parts, one line for each client, one for the
interval. The lines are packed into batches; a marker names the revision, which is the digest of
the JSON text.

* `archiveLine_point`, `clientLine_point`, `intervalLine_point` — the lines as points. -/
namespace UnifiMcp.Collector
open Text LineProtocol

/-- `MAX_ARCHIVE_BYTES` (collector.rs:26). -/
def MAX_ARCHIVE_BYTES : Nat := 32 * 1024 * 1024

def ARCHIVE_CHUNK : Nat := 12000

def MAX_LINE_BYTES : Nat := 64 * 1024

def MAX_BATCH_BYTES : Nat := 256 * 1024

def MAX_BATCHES : Nat := 256

/-- The collector identity, as `CollectionSettings::read` accepts it (config.rs:71-78). -/
structure Identity where
  text : Text
  nonempty : text ≠ []
  short : byteLen text ≤ 128
  chars : ∀ c ∈ text, c.isAlphanum = true ∨ c = '-' ∨ c = '_' ∨ c = '.'

/-- The functions `build` takes from crates and from the formatting of `f64`: the report parsers,
`format!("{:x}", Sha256::digest(_))`, and `{}`, `as f64` and `-` of floats. -/
structure Crates where
  reports : Reports
  sha256Hex : Bytes → Text
  f64Display : F64 → Text
  f64OfU64 : Nat → F64
  f64Sub : F64 → F64 → F64

/-- A digest is 64 hexadecimal digits; a float is written with digits, letters, dots and signs, in
at most 2000 characters. -/
structure Crates.Lawful (x : Crates) : Prop where
  digest_length : ∀ bytes, (x.sha256Hex bytes).length = 64
  digest_chars : ∀ bytes, ∀ c ∈ x.sha256Hex bytes, isHexDigit c = true
  display_chars : ∀ f, ∀ c ∈ x.f64Display f, c.isAlphanum = true ∨ c = '.' ∨ c = '-' ∨ c = '+'
  display_length : ∀ f, (x.f64Display f).length ≤ 2000

inductive BuildError where
  /-- "collection archive exceeds bound" -/
  | archiveBound
  /-- "collected source has no data" -/
  | noData
  /-- The report does not parse. -/
  | decode
  /-- "collection line exceeds bound" -/
  | lineBound
  /-- "collection publication exceeds request bound" -/
  | requestBound
deriving DecidableEq

structure Publication where
  batches : List Text
  marker : Text
  records : Nat
deriving DecidableEq

/-! ## The JSON text of a snapshot -/

/-- The `snake_case` name of a status. -/
def statusName : SourceStatus → Text
  | .collected => "collected".toList
  | .unsupported => "unsupported".toList
  | .unrecognized => "unrecognized".toList
  | .failed => "failed".toList

/-- `serde_json::to_string(&status)`. -/
def statusJson (status : SourceStatus) : Text := Json.quote (statusName status)

/-- A source report; raw data goes in as it is, an absent error is skipped. -/
def sourceJson (source : SourceReport) : Text :=
  "\x7b\"status\":".toList ++ statusJson source.status ++ ",\"data\":".toList ++ source.data.getD "null".toList ++
    (match source.error with
      | none => []
      | some error => ",\"error\":".toList ++ Json.quote error) ++ "\x7d".toList

def snapshotJson (snapshot : TrafficSnapshot) : Text :=
  "\x7b\"start_ms\":".toList ++ dec snapshot.startMs ++ ",\"end_ms\":".toList ++ dec snapshot.endMs ++
    ",\"activity\":".toList ++ sourceJson snapshot.activity ++ ",\"graph\":".toList ++ sourceJson snapshot.graph ++
    ",\"wan\":".toList ++ sourceJson snapshot.wan ++ "\x7d".toList

/-- `serde_json::to_vec(snapshot)`. -/
def toVec (snapshot : TrafficSnapshot) : Bytes := utf8 (snapshotJson snapshot)

/-! ## Lines -/

/-- `string` (sink.rs:28). -/
def string (value : Text) : Text :=
  let escaped := (value.flatMap fun c => if c = '\\' then ['\\', '\\'] else [c]).flatMap fun c =>
    if c = '"' then ['\\', '"'] else [c]
  '"' :: (escaped ++ ['"'])

/-- `serde_json::to_string(&client.name)`. -/
def nameJson : Option Text → Text
  | none => "null".toList
  | some name => Json.quote name

def tagText (identity : Identity) (revision : Text) : Text :=
  "collector=".toList ++ identity.text ++ ",revision=".toList ++ revision

/-- An archive part (sink.rs:53-58), without its newline, as the other lines below. -/
def archiveLine (tags timestamp : Text) (index : Nat) (chunk : Bytes) : Text :=
  "unifi_archive,".toList ++ tags ++ ",part=".toList ++ dec index ++ " data=\"".toList ++ Base64.encode chunk ++
    "\" ".toList ++ timestamp

/-- `prefix` (sink.rs:94). -/
def clientFront (tags : Text) (client : ClientRow) : Text :=
  "unifi_client,".toList ++ tags ++ ",client=".toList ++ client.mac ++ " rx_bytes=".toList ++
    dec client.bytes.rxBytes ++ "u,tx_bytes=".toList ++ dec client.bytes.txBytes ++ "u,".toList

/-- A client line (sink.rs:92-105); a name that makes it too long stays in the archive. -/
def clientLine (tags timestamp : Text) (client : ClientRow) : Text :=
  let line := clientFront tags client ++ "name_json=".toList ++ string (nameJson client.name) ++ " ".toList ++ timestamp
  if byteLen line + 1 ≤ MAX_LINE_BYTES then line
  else clientFront tags client ++ "name_in_archive=true ".toList ++ timestamp

/-- What the activity source adds: client lines, fields of the summary, the total. -/
structure ActivityPart where
  clients : List ClientRow
  summary : Text
  total : Option ByteTotals

/-- The activity projection (sink.rs:74-115). -/
def activityPart (x : Crates) (snapshot : TrafficSnapshot) : Except BuildError ActivityPart :=
  if snapshot.activity.status = .collected then
    match snapshot.activity.data with
    | none => .error .noData
    | some data =>
      match x.reports.activityReport data with
      | none => .error .decode
      | some report =>
        match activityTotals report with
        | .ok (clients, total, applications) =>
          .ok ⟨clients, ",client_rx_bytes=".toList ++ dec total.rxBytes ++ "u,client_tx_bytes=".toList ++
            dec total.txBytes ++ "u,application_rx_bytes=".toList ++ dec applications.rxBytes ++
            "u,application_tx_bytes=".toList ++ dec applications.txBytes ++
            "u,totals_status=\"calculated\"".toList, some total⟩
        | .error _ => .ok ⟨[], ",totals_status=\"invalid_counters\"".toList, none⟩
  else .ok ⟨[], [], none⟩

/-- The one WAN row of the hour with both counters usable (sink.rs:129-144). -/
def siteCounters (snapshot : TrafficSnapshot) (wan : WanReport) : Option (F64 × F64) :=
  match wan.data.filter fun row => row.time.any fun t => snapshot.startMs ≤ t && t < snapshot.endMs with
  | [row] =>
    if row.time = some snapshot.startMs then
      match row.wanRxBytes, row.wanTxBytes with
      | some rx, some tx =>
        if rx.isFinite && tx.isFinite && rx.isNonnegative && tx.isNonnegative then some (rx, tx) else none
      | _, _ => none
    else none
  | _ => none

/-- The WAN projection (sink.rs:118-157). -/
def wanPart (x : Crates) (snapshot : TrafficSnapshot) (total : Option ByteTotals) : Except BuildError Text :=
  if snapshot.wan.status = .collected then
    match snapshot.wan.data with
    | none => .error .noData
    | some data =>
      match x.reports.wanReport data with
      | none => .error .decode
      | some wan =>
        match siteCounters snapshot wan with
        | none => .ok []
        | some (rx, tx) =>
          .ok (",site_rx_bytes=".toList ++ x.f64Display rx ++ ",site_tx_bytes=".toList ++ x.f64Display tx ++
            match total with
            | none => []
            | some total =>
              ",unmatched_rx_bytes=".toList ++ x.f64Display (x.f64Sub rx (x.f64OfU64 total.rxBytes)) ++
                ",unmatched_tx_bytes=".toList ++ x.f64Display (x.f64Sub tx (x.f64OfU64 total.txBytes)))
  else .ok []

def boolText (b : Bool) : Text := if b then "true".toList else "false".toList

/-- The beginning of the summary (sink.rs:59-73). -/
def summaryFront (snapshot : TrafficSnapshot) (parts : Nat) : Text :=
  "start_ms=".toList ++ dec snapshot.startMs ++ "u,end_ms=".toList ++ dec snapshot.endMs ++ "u,collected=".toList ++
    boolText snapshot.collected ++ ",archive_parts=".toList ++ dec parts ++ "u,schema=1i".toList ++
    ",activity_status=".toList ++ statusJson snapshot.activity.status ++
    ",graph_status=".toList ++ statusJson snapshot.graph.status ++
    ",wan_status=".toList ++ statusJson snapshot.wan.status

def intervalLine (tags summary timestamp : Text) : Text :=
  "unifi_interval,".toList ++ tags ++ " ".toList ++ summary ++ " ".toList ++ timestamp

def archiveLines (tags timestamp : Text) (bytes : Bytes) : List Text :=
  (Packing.chunks ARCHIVE_CHUNK bytes).zipIdx.map fun (chunk, index) => archiveLine tags timestamp index chunk

/-- The lines in the order `build` pushes them. -/
def publicationLines (x : Crates) (identity : Identity) (snapshot : TrafficSnapshot) : Except BuildError (List Text) :=
  let bytes := toVec snapshot
  let tags := tagText identity (x.sha256Hex bytes)
  let timestamp := dec snapshot.startMs
  match activityPart x snapshot with
  | .error error => .error error
  | .ok activity =>
    match wanPart x snapshot activity.total with
    | .error error => .error error
    | .ok wan =>
      .ok (archiveLines tags timestamp bytes ++ activity.clients.map (clientLine tags timestamp) ++
        [intervalLine tags
          (summaryFront snapshot (Packing.chunks ARCHIVE_CHUNK bytes).length ++ activity.summary ++ wan) timestamp])

/-! ## Batches -/

/-- The line with its newline. -/
def ended (line : Text) : Text := line ++ ['\n']

/-- The batching loop (sink.rs:160-170). -/
def packLines : Text → List Text → Except BuildError (List Text)
  | batch, [] => .ok (if batch.isEmpty then [] else [batch])
  | batch, line :: lines =>
    if MAX_LINE_BYTES < byteLen (ended line) then .error .lineBound
    else if MAX_BATCH_BYTES < byteLen batch + byteLen (ended line) then
      (packLines (ended line) lines).map (batch :: ·)
    else packLines (batch ++ ended line) lines

/-- The selector line (sink.rs:177-179), with its newline. -/
def markerLine (identity : Identity) (revision timestamp : Text) : Text :=
  ended ("unifi_publication,collector=".toList ++ identity.text ++ " revision=\"".toList ++ revision ++ "\" ".toList ++
    timestamp)

/-- `Publication::build` (sink.rs:37). -/
def build (x : Crates) (identity : Identity) (snapshot : TrafficSnapshot) : Except BuildError Publication :=
  if MAX_ARCHIVE_BYTES < (toVec snapshot).length then .error .archiveBound
  else match publicationLines x identity snapshot with
    | .error error => .error error
    | .ok lines =>
      match packLines [] lines with
      | .error error => .error error
      | .ok batches =>
        if MAX_BATCHES < batches.length then .error .requestBound
        else .ok ⟨batches, markerLine identity (x.sha256Hex (toVec snapshot)) (dec snapshot.startMs), lines.length⟩

/-! ## The lines as points -/

/-- The tags every point carries. -/
def baseTags (identity : Identity) (revision : Text) : List (Text × Text) :=
  [("collector".toList, identity.text), ("revision".toList, revision)]

def archivePoint (identity : Identity) (revision timestamp : Text) (index : Nat) (chunk : Bytes) : Point :=
  ⟨"unifi_archive".toList, baseTags identity revision ++ [("part".toList, dec index)],
    "data=\"".toList ++ Base64.encode chunk ++ ['"'], timestamp⟩

/-- The tags as `build` formats them are the base tags of a key. -/
theorem tagText_eq (identity : Identity) (revision : Text) : ',' :: tagText identity revision =
    (baseTags identity revision).flatMap fun tag => ',' :: tag.1 ++ '=' :: tag.2 := by
  have h1 : "collector=".toList = "collector".toList ++ ['='] := rfl
  have h2 : ",revision=".toList = ',' :: ("revision".toList ++ ['=']) := rfl
  unfold tagText baseTags
  rw [h1, h2]
  generalize "collector".toList = collector
  generalize "revision".toList = revision
  simp

/-- A line whose key is the base tags and one more. -/
theorem write_tagged (measurement name value fields timestamp : Text) (identity : Identity) (revision : Text) :
    measurement ++ (',' :: tagText identity revision) ++ (',' :: (name ++ '=' :: value)) ++ (' ' :: fields) ++
        (' ' :: timestamp) =
      write ⟨measurement, baseTags identity revision ++ [(name, value)], fields, timestamp⟩ := by
  rw [tagText_eq]
  simp [write, writeKey]

theorem archiveLine_point (identity : Identity) (revision timestamp : Text) (index : Nat) (chunk : Bytes) :
    archiveLine (tagText identity revision) timestamp index chunk =
      write (archivePoint identity revision timestamp index chunk) := by
  have h1 : "unifi_archive,".toList = "unifi_archive".toList ++ [','] := rfl
  have h2 : ",part=".toList = ',' :: ("part".toList ++ ['=']) := rfl
  have h3 : " data=\"".toList = ' ' :: "data=\"".toList := rfl
  have h4 : "\" ".toList = ['"', ' '] := rfl
  unfold archiveLine archivePoint
  rw [← write_tagged, h1, h2, h3, h4]
  generalize "unifi_archive".toList = measurement
  generalize "part".toList = name
  generalize "data=\"".toList = front
  simp only [List.append_assoc, List.cons_append, List.nil_append]

/-- The counters and the name of a client. -/
def clientFields (tags timestamp : Text) (client : ClientRow) : Text :=
  let front := "rx_bytes=".toList ++ dec client.bytes.rxBytes ++ "u,tx_bytes=".toList ++ dec client.bytes.txBytes ++
    "u,".toList
  if byteLen (clientFront tags client ++ "name_json=".toList ++ string (nameJson client.name) ++ " ".toList ++
      timestamp) + 1 ≤ MAX_LINE_BYTES then
    front ++ "name_json=".toList ++ string (nameJson client.name)
  else front ++ "name_in_archive=true".toList

def clientPoint (identity : Identity) (revision timestamp : Text) (client : ClientRow) : Point :=
  ⟨"unifi_client".toList, baseTags identity revision ++ [("client".toList, client.mac)],
    clientFields (tagText identity revision) timestamp client, timestamp⟩

theorem clientLine_point (identity : Identity) (revision timestamp : Text) (client : ClientRow) :
    clientLine (tagText identity revision) timestamp client =
      write (clientPoint identity revision timestamp client) := by
  have h1 : "unifi_client,".toList = "unifi_client".toList ++ [','] := rfl
  have h2 : ",client=".toList = ',' :: ("client".toList ++ ['=']) := rfl
  have h3 : " rx_bytes=".toList = ' ' :: "rx_bytes=".toList := rfl
  have h4 : "name_in_archive=true ".toList = "name_in_archive=true".toList ++ [' '] := rfl
  have h5 : " ".toList = [' '] := rfl
  unfold clientLine clientPoint clientFields clientFront
  rw [← write_tagged]
  dsimp only
  split
  · rw [h1, h2, h3, h5]
    generalize "unifi_client".toList = measurement
    generalize "client".toList = name
    generalize "rx_bytes=".toList = rx
    generalize "u,tx_bytes=".toList = tx
    generalize "u,".toList = u
    generalize "name_json=".toList = field
    simp only [List.append_assoc, List.cons_append, List.nil_append]
  · rw [h1, h2, h3, h4]
    generalize "unifi_client".toList = measurement
    generalize "client".toList = name
    generalize "rx_bytes=".toList = rx
    generalize "u,tx_bytes=".toList = tx
    generalize "u,".toList = u
    generalize "name_in_archive=true".toList = field
    simp only [List.append_assoc, List.cons_append, List.nil_append]

def intervalPoint (identity : Identity) (revision summary timestamp : Text) : Point :=
  ⟨"unifi_interval".toList, baseTags identity revision, summary, timestamp⟩

theorem intervalLine_point (identity : Identity) (revision summary timestamp : Text) :
    intervalLine (tagText identity revision) summary timestamp =
      write (intervalPoint identity revision summary timestamp) := by
  have h1 : "unifi_interval,".toList = "unifi_interval".toList ++ [','] := rfl
  have h2 : " ".toList = [' '] := rfl
  unfold intervalLine intervalPoint write writeKey
  rw [← tagText_eq, h1, h2]
  generalize "unifi_interval".toList = measurement
  simp only [List.append_assoc, List.cons_append, List.nil_append]

end UnifiMcp.Collector
