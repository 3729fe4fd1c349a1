import UnifiMcp.Server.Worker
/-! # When a publication can be built (unifi-server/src/collector/sink.rs)

The sizes of the archive and of the lines, added up from the snapshot, and the two limits a
snapshot that the client returns can run into.

* `pending_reached_iff` — the worker gets to the pending write exactly when it stays within them.
* `flood_fails` — two answers of 4 MiB that do not. -/
namespace UnifiMcp.Collector
open Text

/-- The digits of a decimal numeral. -/
def digits (n : Nat) : Nat := (dec n).length

/-! ## The archive -/

def statusSize : SourceStatus → Nat
  | .collected => 9
  | .unsupported => 11
  | .unrecognized => 12
  | .failed => 6

/-- A source in the JSON text: its data as it is, its error escaped. -/
def sourceSize (source : SourceReport) : Nat :=
  21 + statusSize source.status + source.data.elim 4 byteLen +
    source.error.elim 0 fun error => 11 + Json.escapedLen error

def archiveSize (snapshot : TrafficSnapshot) : Nat :=
  51 + digits snapshot.startMs + digits snapshot.endMs + sourceSize snapshot.activity + sourceSize snapshot.graph +
    sourceSize snapshot.wan

theorem byteLen_statusJson (status : SourceStatus) : byteLen (statusJson status) = statusSize status + 2 := by
  cases status <;> rfl

theorem byteLen_sourceJson (source : SourceReport) : byteLen (sourceJson source) = sourceSize source := by
  have h1 : byteLen "\x7b\"status\":".toList = 10 := rfl
  have h2 : byteLen ",\"data\":".toList = 8 := rfl
  have h3 : byteLen ",\"error\":".toList = 9 := rfl
  have h4 : byteLen "null".toList = 4 := rfl
  have h5 : byteLen "\x7d".toList = 1 := rfl
  unfold sourceJson sourceSize
  generalize "\x7b\"status\":".toList = status at h1 ⊢
  generalize ",\"data\":".toList = data at h2 ⊢
  generalize ",\"error\":".toList = error at h3 ⊢
  generalize "null".toList = null at h4 ⊢
  generalize "\x7d".toList = close at h5 ⊢
  rcases source with ⟨s, _ | d, _ | e⟩ <;>
    simp only [byteLen_append, byteLen_nil, byteLen_statusJson, Json.byteLen_quote, Option.getD_none,
      Option.getD_some, Option.elim_none, Option.elim_some, h1, h2, h3, h4, h5] <;>
    omega

theorem byteLen_snapshotJson (snapshot : TrafficSnapshot) : byteLen (snapshotJson snapshot) = archiveSize snapshot := by
  have h1 : byteLen "\x7b\"start_ms\":".toList = 12 := rfl
  have h2 : byteLen ",\"end_ms\":".toList = 10 := rfl
  have h3 : byteLen ",\"activity\":".toList = 12 := rfl
  have h4 : byteLen ",\"graph\":".toList = 9 := rfl
  have h5 : byteLen ",\"wan\":".toList = 7 := rfl
  have h6 : byteLen "\x7d".toList = 1 := rfl
  unfold snapshotJson archiveSize digits
  generalize "\x7b\"start_ms\":".toList = start at h1 ⊢
  generalize ",\"end_ms\":".toList = end_ at h2 ⊢
  generalize ",\"activity\":".toList = activity at h3 ⊢
  generalize ",\"graph\":".toList = graph at h4 ⊢
  generalize ",\"wan\":".toList = wan at h5 ⊢
  generalize "\x7d".toList = close at h6 ⊢
  simp only [byteLen_append, byteLen_dec, byteLen_sourceJson, h1, h2, h3, h4, h5, h6]
  omega

theorem length_toVec (snapshot : TrafficSnapshot) : (toVec snapshot).length = archiveSize snapshot := by
  rw [toVec, byteLen_utf8, byteLen_snapshotJson]

/-! ## The lines -/

/-- The tags of every line. -/
def tagSize (identity : Identity) : Nat := 84 + byteLen identity.text

def partSize (identity : Identity) (startMs index length : Nat) : Nat :=
  30 + tagSize identity + digits index + 4 * ((length + 2) / 3) + digits startMs

/-- The archive lines of `size` bytes of JSON text. -/
def partSizes (identity : Identity) (startMs size : Nat) : List Nat :=
  (List.range ((size + ARCHIVE_CHUNK - 1) / ARCHIVE_CHUNK)).map fun k =>
    partSize identity startMs k (min ARCHIVE_CHUNK (size - k * ARCHIVE_CHUNK))

/-- A character in a quoted field. -/
def quotedSize (c : Char) : Nat := if c = '"' ∨ c = '\\' then 2 else c.utf8Size

/-- A character of a name, escaped as JSON text, and that in a quoted field. -/
def projectedSize (c : Char) : Nat :=
  if c = '"' ∨ c = '\\' then 4
  else if c.toNat = 8 ∨ c.toNat = 9 ∨ c.toNat = 10 ∨ c.toNat = 12 ∨ c.toNat = 13 then 3
  else if c.toNat < 32 then 7
  else c.utf8Size

def nameSize : Option Text → Nat
  | none => 6
  | some name => 6 + Packing.total projectedSize name

def frontSize (identity : Identity) (client : ClientRow) : Nat :=
  61 + tagSize identity + digits client.bytes.rxBytes + digits client.bytes.txBytes

/-- A client line, with its name while that fits. -/
def clientSize (identity : Identity) (startMs : Nat) (client : ClientRow) : Nat :=
  if frontSize identity client + nameSize client.name + 12 + digits startMs ≤ MAX_LINE_BYTES then
    frontSize identity client + nameSize client.name + 12 + digits startMs
  else frontSize identity client + 22 + digits startMs

/-- The client rows and totals of the activity report, where it was collected. -/
def counted (x : Crates) (snapshot : TrafficSnapshot) : Option (List ClientRow × ByteTotals × ByteTotals) :=
  (snapshot.activity.data.bind x.reports.activityReport).bind fun report => (activityTotals report).toOption

/-- The client lines, the size of the summary fields, and the total, of the activity source. -/
def activitySizes (x : Crates) (snapshot : TrafficSnapshot) : List ClientRow × Nat × Option ByteTotals :=
  if snapshot.activity.status = .collected then
    match counted x snapshot with
    | some (clients, total, applications) =>
      (clients, 109 + digits total.rxBytes + digits total.txBytes + digits applications.rxBytes +
        digits applications.txBytes, some total)
    | none => ([], 33, none)
  else ([], 0, none)

def floatSize (x : Crates) (f : F64) : Nat := byteLen (x.f64Display f)

/-- The site counters of the summary. -/
def wanSize (x : Crates) (snapshot : TrafficSnapshot) (total : Option ByteTotals) : Nat :=
  if snapshot.wan.status = .collected then
    match (snapshot.wan.data.bind x.reports.wanReport).bind (siteCounters snapshot) with
    | none => 0
    | some (rx, tx) => 30 + floatSize x rx + floatSize x tx + total.elim 0 fun total =>
      40 + floatSize x (x.f64Sub rx (x.f64OfU64 total.rxBytes)) + floatSize x (x.f64Sub tx (x.f64OfU64 total.txBytes))
  else 0

def intervalSize (x : Crates) (identity : Identity) (snapshot : TrafficSnapshot) : Nat :=
  123 + tagSize identity + 2 * digits snapshot.startMs + digits snapshot.endMs +
    (if snapshot.collected then 4 else 5) +
    digits ((archiveSize snapshot + ARCHIVE_CHUNK - 1) / ARCHIVE_CHUNK) + statusSize snapshot.activity.status +
    statusSize snapshot.graph.status + statusSize snapshot.wan.status + (activitySizes x snapshot).2.1 +
    wanSize x snapshot (activitySizes x snapshot).2.2

/-- The sizes of all lines, newlines included. -/
def lineSizes (x : Crates) (identity : Identity) (snapshot : TrafficSnapshot) : List Nat :=
  partSizes identity snapshot.startMs (archiveSize snapshot) ++
    (activitySizes x snapshot).1.map (clientSize identity snapshot.startMs) ++ [intervalSize x identity snapshot]

/-- The archive is within its bound, and the lines can be cut into as many requests as are
allowed. -/
def Fits (x : Crates) (identity : Identity) (snapshot : TrafficSnapshot) : Prop :=
  archiveSize snapshot ≤ MAX_ARCHIVE_BYTES ∧ Packing.CanPack MAX_BATCHES MAX_BATCH_BYTES (lineSizes x identity snapshot)

theorem utf8Size_of_display {c : Char} (h : c.isAlphanum = true ∨ c = '.' ∨ c = '-' ∨ c = '+') : c.utf8Size = 1 := by
  rcases h with h | rfl | rfl | rfl
  · have h9 : '9'.val.toNat = 57 := rfl
    have hz : 'z'.val.toNat = 122 := rfl
    have hZ : 'Z'.val.toNat = 90 := rfl
    have h127 : (127 : UInt32).toNat = 127 := rfl
    have h : ((decide ('A'.val ≤ c.val ∧ c.val ≤ 'Z'.val) || decide ('a'.val ≤ c.val) && decide (c.val ≤ 'z'.val)) ||
        decide ('0'.val ≤ c.val) && decide (c.val ≤ '9'.val)) = true := h
    simp only [Bool.or_eq_true, Bool.and_eq_true, decide_eq_true_eq, UInt32.le_iff_toNat_le] at h
    rw [Char.utf8Size_eq_one_iff, UInt32.le_iff_toNat_le]
    omega
  · rfl
  · rfl
  · rfl

section
variable {x : Crates} {identity : Identity} {snapshot : TrafficSnapshot}

theorem byteLen_tagText (hx : x.Lawful) (bytes : Bytes) :
    byteLen (tagText identity (x.sha256Hex bytes)) = tagSize identity := by
  have h1 : byteLen "collector=".toList = 10 := rfl
  have h2 : byteLen ",revision=".toList = 10 := rfl
  have hdigest : byteLen (x.sha256Hex bytes) = 64 := by
    rw [byteLen_ascii fun c hc => utf8Size_of_isHexDigit (hx.digest_chars bytes c hc), hx.digest_length]
  unfold tagText tagSize
  generalize "collector=".toList = collector at h1 ⊢
  generalize ",revision=".toList = revision at h2 ⊢
  simp only [byteLen_append, hdigest, h1, h2]
  omega

theorem endedLen_archiveLine (hx : x.Lawful) (bytes : Bytes) (startMs index : Nat) (chunk : Bytes) :
    endedLen (archiveLine (tagText identity (x.sha256Hex bytes)) (dec startMs) index chunk) =
      partSize identity startMs index chunk.length := by
  have h1 : byteLen "unifi_archive,".toList = 14 := rfl
  have h2 : byteLen ",part=".toList = 6 := rfl
  have h3 : byteLen " data=\"".toList = 7 := rfl
  have h4 : byteLen "\" ".toList = 2 := rfl
  have h5 : byteLen ['\n'] = 1 := rfl
  have htags : byteLen (tagText identity (x.sha256Hex bytes)) = tagSize identity := byteLen_tagText hx bytes
  unfold endedLen ended archiveLine partSize digits
  generalize "unifi_archive,".toList = archive at h1 ⊢
  generalize ",part=".toList = part at h2 ⊢
  generalize " data=\"".toList = data at h3 ⊢
  generalize "\" ".toList = close at h4 ⊢
  simp only [byteLen_append, byteLen_dec, htags, Base64.byteLen_encode, h1, h2, h3, h4, h5]
  omega

theorem byteLen_string (value : Text) : byteLen (string value) =
    2 + Packing.total quotedSize value := by
  have hquote : '"'.utf8Size = 1 := rfl
  have hchars : byteLen ((value.flatMap fun c => if c = '\\' then ['\\', '\\'] else [c]).flatMap fun c =>
      if c = '"' then ['\\', '"'] else [c]) =
        Packing.total quotedSize value := by
    induction value with
    | nil => rfl
    | cons c value ih =>
      rw [List.flatMap_cons, List.flatMap_append, byteLen_append, ih, Packing.total]
      congr 1
      by_cases hb : c = '\\'
      · subst hb
        rfl
      by_cases hq : c = '"'
      · subst hq
        rfl
      simp [quotedSize, hb, hq]
  rw [string, byteLen_cons, byteLen_append, hchars, byteLen_cons, byteLen_nil, hquote]
  omega

theorem quotedSize_lowerHexDigit : ∀ {n : Nat}, n < 16 → quotedSize (Json.lowerHexDigit n) = 1 := by decide

theorem total_escapeChar (c : Char) : Packing.total quotedSize (Json.escapeChar c) = projectedSize c := by
  unfold Json.escapeChar projectedSize
  by_cases h1 : c = '"'
  · simp [h1]; rfl
  by_cases h2 : c = '\\'
  · simp [h2]; rfl
  simp only [h1, h2, if_false, or_self]
  by_cases h3 : c.toNat = 8 ∨ c.toNat = 9 ∨ c.toNat = 10 ∨ c.toNat = 12 ∨ c.toNat = 13
  · rcases h3 with h | h | h | h | h <;> simp [h] <;> rfl
  · simp only [not_or] at h3
    simp only [h3, if_false, or_self]
    by_cases h4 : c.toNat < 32
    · have hhi : quotedSize (Json.lowerHexDigit (c.toNat / 16)) = 1 := quotedSize_lowerHexDigit (by omega)
      have hlo : quotedSize (Json.lowerHexDigit (c.toNat % 16)) = 1 := quotedSize_lowerHexDigit (by omega)
      simp only [h4, if_true, Packing.total, hhi, hlo]
      rfl
    · simp [h4, Packing.total, quotedSize, h1, h2]

theorem total_flatMap_escapeChar (t : Text) :
    Packing.total quotedSize (t.flatMap Json.escapeChar) = Packing.total projectedSize t := by
  induction t with
  | nil => rfl
  | cons c t ih => rw [List.flatMap_cons, Packing.total_append, total_escapeChar, ih, Packing.total]

theorem byteLen_string_nameJson (name : Option Text) : byteLen (string (nameJson name)) = nameSize name := by
  have hquote : quotedSize '"' = 2 := rfl
  rw [byteLen_string]
  cases name with
  | none => rfl
  | some name =>
    rw [nameJson, Json.quote, Packing.total, Packing.total_append, total_flatMap_escapeChar, Packing.total,
      Packing.total, hquote, nameSize]
    omega

theorem byteLen_clientFront (hx : x.Lawful) (bytes : Bytes) {client : ClientRow} (hmac : validMac client.mac = true) :
    byteLen (clientFront (tagText identity (x.sha256Hex bytes)) client) = frontSize identity client := by
  have h1 : byteLen "unifi_client,".toList = 13 := rfl
  have h2 : byteLen ",client=".toList = 8 := rfl
  have h3 : byteLen " rx_bytes=".toList = 10 := rfl
  have h4 : byteLen "u,tx_bytes=".toList = 11 := rfl
  have h5 : byteLen "u,".toList = 2 := rfl
  have htags : byteLen (tagText identity (x.sha256Hex bytes)) = tagSize identity := byteLen_tagText hx bytes
  have hmac := validMac_length hmac
  unfold clientFront frontSize digits
  generalize "unifi_client,".toList = measurement at h1 ⊢
  generalize ",client=".toList = name at h2 ⊢
  generalize " rx_bytes=".toList = rx at h3 ⊢
  generalize "u,tx_bytes=".toList = tx at h4 ⊢
  generalize "u,".toList = u at h5 ⊢
  simp only [byteLen_append, byteLen_dec, htags, hmac, h1, h2, h3, h4, h5]
  omega

theorem endedLen_clientLine (hx : x.Lawful) (bytes : Bytes) (startMs : Nat) {client : ClientRow}
    (hmac : validMac client.mac = true) :
    endedLen (clientLine (tagText identity (x.sha256Hex bytes)) (dec startMs) client) =
      clientSize identity startMs client := by
  have h1 : byteLen "name_json=".toList = 10 := rfl
  have h2 : byteLen "name_in_archive=true ".toList = 21 := rfl
  have h3 : byteLen " ".toList = 1 := rfl
  have h4 : byteLen ['\n'] = 1 := rfl
  have hfront : byteLen (clientFront (tagText identity (x.sha256Hex bytes)) client) = frontSize identity client :=
    byteLen_clientFront hx bytes hmac
  have hname := byteLen_string_nameJson client.name
  have hstart : byteLen (dec startMs) = digits startMs := byteLen_dec startMs
  unfold endedLen ended clientLine clientSize
  generalize "name_json=".toList = field at h1 ⊢
  generalize "name_in_archive=true ".toList = fallback at h2 ⊢
  generalize " ".toList = space at h3 ⊢
  generalize clientFront (tagText identity (x.sha256Hex bytes)) client = front at hfront ⊢
  dsimp only
  have hlong : byteLen (front ++ field ++ string (nameJson client.name) ++ space ++ dec startMs) + 1 =
      frontSize identity client + nameSize client.name + 12 + digits startMs := by
    simp only [byteLen_append, hfront, hname, hstart, h1, h3]
    omega
  rw [hlong, byteLen_append, h4]
  split
  · rw [hlong]
  · simp only [byteLen_append, hfront, hstart, h2]
    omega

/-! ## The interval line -/

theorem byteLen_boolText (b : Bool) : byteLen (boolText b) = if b then 4 else 5 := by
  cases b <;> rfl

theorem byteLen_summaryFront (parts : Nat) : byteLen (summaryFront snapshot parts) =
    105 + digits snapshot.startMs + digits snapshot.endMs + (if snapshot.collected then 4 else 5) + digits parts +
      statusSize snapshot.activity.status + statusSize snapshot.graph.status + statusSize snapshot.wan.status := by
  have h1 : byteLen "start_ms=".toList = 9 := rfl
  have h2 : byteLen "u,end_ms=".toList = 9 := rfl
  have h3 : byteLen "u,collected=".toList = 12 := rfl
  have h4 : byteLen ",archive_parts=".toList = 15 := rfl
  have h5 : byteLen "u,schema=1i".toList = 11 := rfl
  have h6 : byteLen ",activity_status=".toList = 17 := rfl
  have h7 : byteLen ",graph_status=".toList = 14 := rfl
  have h8 : byteLen ",wan_status=".toList = 12 := rfl
  unfold summaryFront digits
  generalize "start_ms=".toList = a1 at h1 ⊢
  generalize "u,end_ms=".toList = a2 at h2 ⊢
  generalize "u,collected=".toList = a3 at h3 ⊢
  generalize ",archive_parts=".toList = a4 at h4 ⊢
  generalize "u,schema=1i".toList = a5 at h5 ⊢
  generalize ",activity_status=".toList = a6 at h6 ⊢
  generalize ",graph_status=".toList = a7 at h7 ⊢
  generalize ",wan_status=".toList = a8 at h8 ⊢
  simp only [byteLen_append, byteLen_dec, byteLen_boolText, byteLen_statusJson, h1, h2, h3, h4, h5, h6, h7, h8]
  omega

/-- Collected sources that parse, as `collect_traffic` returns them. -/
structure Reported (r : Reports) (snapshot : TrafficSnapshot) : Prop where
  activity : snapshot.activity.status = .collected → ∃ data report, snapshot.activity.data = some data ∧
    r.activityReport data = some report
  wan : snapshot.wan.status = .collected → ∃ data report, snapshot.wan.data = some data ∧
    r.wanReport data = some report

theorem activityPart_sizes (h : Reported x.reports snapshot) : ∃ activity, activityPart x snapshot = .ok activity ∧
    (activity.clients, byteLen activity.summary, activity.total) = activitySizes x snapshot := by
  have h1 : byteLen ",client_rx_bytes=".toList = 17 := rfl
  have h2 : byteLen "u,client_tx_bytes=".toList = 18 := rfl
  have h3 : byteLen "u,application_rx_bytes=".toList = 23 := rfl
  have h4 : byteLen "u,application_tx_bytes=".toList = 23 := rfl
  have h5 : byteLen "u,totals_status=\"calculated\"".toList = 28 := rfl
  have h6 : byteLen ",totals_status=\"invalid_counters\"".toList = 33 := rfl
  unfold activityPart activitySizes counted
  by_cases hs : snapshot.activity.status = .collected
  · obtain ⟨data, report, hdata, hreport⟩ := h.activity hs
    simp only [hs, if_true, hdata, hreport, Option.bind_some]
    cases htotals : activityTotals report with
    | error error => exact ⟨_, rfl, by rw [h6]; rfl⟩
    | ok totals =>
      obtain ⟨clients, total, applications⟩ := totals
      refine ⟨_, rfl, ?_⟩
      dsimp only [Except.toOption]
      generalize ",client_rx_bytes=".toList = a1 at h1 ⊢
      generalize "u,client_tx_bytes=".toList = a2 at h2 ⊢
      generalize "u,application_rx_bytes=".toList = a3 at h3 ⊢
      generalize "u,application_tx_bytes=".toList = a4 at h4 ⊢
      generalize "u,totals_status=\"calculated\"".toList = a5 at h5 ⊢
      simp only [byteLen_append, byteLen_dec, h1, h2, h3, h4, h5, digits, Prod.mk.injEq, and_true, true_and]
      omega
  · rw [if_neg hs, if_neg hs]
    exact ⟨_, rfl, rfl⟩

theorem wanPart_sizes (h : Reported x.reports snapshot) (total : Option ByteTotals) :
    ∃ wan, wanPart x snapshot total = .ok wan ∧ byteLen wan = wanSize x snapshot total := by
  have h1 : byteLen ",site_rx_bytes=".toList = 15 := rfl
  have h2 : byteLen ",site_tx_bytes=".toList = 15 := rfl
  have h3 : byteLen ",unmatched_rx_bytes=".toList = 20 := rfl
  have h4 : byteLen ",unmatched_tx_bytes=".toList = 20 := rfl
  unfold wanPart wanSize
  by_cases hs : snapshot.wan.status = .collected
  · obtain ⟨data, report, hdata, hreport⟩ := h.wan hs
    simp only [hs, if_true, hdata, hreport, Option.bind_some]
    cases siteCounters snapshot report with
    | none => exact ⟨_, rfl, rfl⟩
    | some counters =>
      obtain ⟨rx, tx⟩ := counters
      refine ⟨_, rfl, ?_⟩
      dsimp only [floatSize]
      generalize ",site_rx_bytes=".toList = a1 at h1 ⊢
      generalize ",site_tx_bytes=".toList = a2 at h2 ⊢
      generalize ",unmatched_rx_bytes=".toList = a3 at h3 ⊢
      generalize ",unmatched_tx_bytes=".toList = a4 at h4 ⊢
      cases total with
      | none =>
        simp only [byteLen_append, byteLen_nil, h1, h2, Option.elim_none]
        omega
      | some total =>
        simp only [byteLen_append, h1, h2, h3, h4, Option.elim_some]
        omega
  · rw [if_neg hs, if_neg hs]
    exact ⟨_, rfl, rfl⟩

/-! ## All lines -/

theorem length_chunks (snapshot : TrafficSnapshot) : (Packing.chunks ARCHIVE_CHUNK (toVec snapshot)).length =
    (archiveSize snapshot + ARCHIVE_CHUNK - 1) / ARCHIVE_CHUNK := by
  rw [Packing.chunks, List.length_map, List.length_range, length_toVec]

theorem archiveLines_sizes (hx : x.Lawful) (startMs : Nat) :
    (archiveLines (tagText identity (x.sha256Hex (toVec snapshot))) (dec startMs) (toVec snapshot)).map endedLen =
      partSizes identity startMs (archiveSize snapshot) := by
  rw [archiveLines, Packing.zipIdx_chunks, List.map_map, List.map_map, partSizes, length_toVec]
  refine List.map_congr_left fun k _ => ?_
  simp only [Function.comp_apply]
  rw [endedLen_archiveLine hx, List.length_take, List.length_drop, length_toVec]

theorem clientLines_sizes (hx : x.Lawful) (bytes : Bytes) (startMs : Nat) {clients : List ClientRow}
    (h : ∀ client ∈ clients, validMac client.mac = true) :
    (clients.map (clientLine (tagText identity (x.sha256Hex bytes)) (dec startMs))).map endedLen =
      clients.map (clientSize identity startMs) := by
  rw [List.map_map]
  refine List.map_congr_left fun client hc => ?_
  rw [Function.comp_apply, endedLen_clientLine hx bytes startMs (h client hc)]

theorem endedLen_intervalLine (hx : x.Lawful) (bytes : Bytes) (summary : Text) (startMs : Nat) :
    endedLen (intervalLine (tagText identity (x.sha256Hex bytes)) summary (dec startMs)) =
      18 + tagSize identity + byteLen summary + digits startMs := by
  have h1 : byteLen "unifi_interval,".toList = 15 := rfl
  have h2 : byteLen " ".toList = 1 := rfl
  have h3 : byteLen ['\n'] = 1 := rfl
  have htags : byteLen (tagText identity (x.sha256Hex bytes)) = tagSize identity := byteLen_tagText hx bytes
  unfold endedLen ended intervalLine digits
  generalize "unifi_interval,".toList = measurement at h1 ⊢
  generalize " ".toList = space at h2 ⊢
  simp only [byteLen_append, byteLen_dec, htags, h1, h2, h3]
  omega

/-- The lines of a snapshot that the client returns have the sizes added up above. -/
theorem publicationLines_sizes (hx : x.Lawful) (h : Reported x.reports snapshot) :
    ∃ lines, publicationLines x identity snapshot = .ok lines ∧
      lines.map endedLen = lineSizes x identity snapshot := by
  obtain ⟨activity, hactivity, hsizes⟩ := activityPart_sizes h
  obtain ⟨wan, hwan, hwanSize⟩ := wanPart_sizes h activity.total
  refine ⟨_, by rw [publicationLines, hactivity]; dsimp only; rw [hwan], ?_⟩
  rw [List.map_append, List.map_append, archiveLines_sizes hx, clientLines_sizes hx _ _ (activityPart_macs hactivity).2,
    List.map_singleton, endedLen_intervalLine hx, byteLen_append, byteLen_append, byteLen_summaryFront, length_chunks,
    hwanSize, lineSizes, intervalSize, ← hsizes]
  dsimp only
  congr 2
  omega

/-! ## No line is too long -/

theorem digits_le {n : Nat} (h : n ≤ MAXIMUM_U64) : digits n ≤ 20 := by
  rw [digits, dec, Nat.length_toDigits_le_iff (by decide) (by decide)]
  exact Nat.lt_of_le_of_lt h (by decide)

theorem statusSize_le (status : SourceStatus) : statusSize status ≤ 12 := by
  cases status <;> decide

theorem activitySizes_bounded : (∀ client ∈ (activitySizes x snapshot).1, client.bytes.Bounded) ∧
    (activitySizes x snapshot).2.1 ≤ 189 := by
  unfold activitySizes
  split
  · split
    · rename_i clients total applications hcounted
      obtain ⟨report, -, htotals⟩ := Option.bind_eq_some_iff.1 hcounted
      have htotals : activityTotals report = .ok (clients, total, applications) := by
        cases h : activityTotals report <;> simp_all [Except.toOption]
      obtain ⟨hclients, ⟨hrx, htx⟩, harx, hatx⟩ := activityTotals_bounded htotals
      refine ⟨hclients, ?_⟩
      have h1 := digits_le hrx
      have h2 := digits_le htx
      have h3 := digits_le harx
      have h4 := digits_le hatx
      dsimp only
      omega
    · exact ⟨fun _ h => (by cases h), (by decide : 33 ≤ 189)⟩
  · exact ⟨fun _ h => (by cases h), Nat.zero_le _⟩

theorem wanSize_le (hx : x.Lawful) (total : Option ByteTotals) : wanSize x snapshot total ≤ 8070 := by
  have hfloat (f : F64) : floatSize x f ≤ 2000 := by
    have hascii : byteLen (x.f64Display f) = (x.f64Display f).length :=
      byteLen_ascii fun c hc => utf8Size_of_display (hx.display_chars f c hc)
    rw [floatSize, hascii]
    exact hx.display_length f
  unfold wanSize
  split
  · split
    · exact Nat.zero_le _
    · rename_i rx tx _
      have h1 := hfloat rx
      have h2 := hfloat tx
      cases total with
      | none =>
        simp only [Option.elim_none]
        omega
      | some total =>
        have h3 := hfloat (x.f64Sub rx (x.f64OfU64 total.rxBytes))
        have h4 := hfloat (x.f64Sub tx (x.f64OfU64 total.txBytes))
        simp only [Option.elim_some]
        omega
  · exact Nat.zero_le _

theorem tagSize_le (identity : Identity) : tagSize identity ≤ 212 := by
  have := identity.short
  unfold tagSize
  omega

/-- **No line of a snapshot within the archive bound is too long.** -/
theorem lineSizes_le (hx : x.Lawful) (hstart : snapshot.startMs ≤ MAXIMUM_U64) (hend : snapshot.endMs ≤ MAXIMUM_U64)
    (harchive : archiveSize snapshot ≤ MAX_ARCHIVE_BYTES) :
    ∀ size ∈ lineSizes x identity snapshot, size ≤ MAX_LINE_BYTES := by
  have htags := tagSize_le identity
  have hs := digits_le hstart
  have he := digits_le hend
  have hmax : MAX_LINE_BYTES = 65536 := rfl
  have hchunk : ARCHIVE_CHUNK = 12000 := rfl
  have hbound : MAX_ARCHIVE_BYTES = 33554432 := rfl
  have hu64 : MAXIMUM_U64 = 18446744073709551615 := rfl
  have hparts : (archiveSize snapshot + ARCHIVE_CHUNK - 1) / ARCHIVE_CHUNK ≤ MAXIMUM_U64 :=
    Nat.le_trans (Nat.div_le_self ..) (by omega)
  intro size hsize
  simp only [lineSizes, partSizes, List.mem_append, List.mem_map, List.mem_singleton, List.mem_range] at hsize
  rcases hsize with (⟨k, hk, rfl⟩ | ⟨client, hclient, rfl⟩) | rfl
  · have hdigits : digits k ≤ 20 := digits_le (by omega)
    unfold partSize
    omega
  · obtain ⟨hrx, htx⟩ := activitySizes_bounded.1 client hclient
    have h1 := digits_le hrx
    have h2 := digits_le htx
    unfold clientSize
    split
    · assumption
    · unfold frontSize
      omega
  · have h1 : digits ((archiveSize snapshot + ARCHIVE_CHUNK - 1) / ARCHIVE_CHUNK) ≤ 20 := digits_le (by omega)
    have h2 := (activitySizes_bounded : _ ∧ (activitySizes x snapshot).2.1 ≤ 189).2
    have h3 : wanSize x snapshot (activitySizes x snapshot).2.2 ≤ 8070 := wanSize_le hx _
    have h4 := statusSize_le snapshot.activity.status
    have h5 := statusSize_le snapshot.graph.status
    have h6 := statusSize_le snapshot.wan.status
    unfold intervalSize
    split <;> omega

theorem build_ok_iff (hx : x.Lawful) (h : Reported x.reports snapshot) (hstart : snapshot.startMs ≤ MAXIMUM_U64)
    (hend : snapshot.endMs ≤ MAXIMUM_U64) :
    (∃ p, build x identity snapshot = .ok p) ↔ Fits x identity snapshot := by
  obtain ⟨lines, hlines, hsizes⟩ : ∃ lines, publicationLines x identity snapshot = .ok lines ∧
    lines.map endedLen = lineSizes x identity snapshot := publicationLines_sizes hx h
  constructor
  · rintro ⟨p, hp⟩
    obtain ⟨harchive, lines', hlines', hshort, hfew, -⟩ := build_eq_ok.1 hp
    rw [hlines] at hlines'
    cases hlines'
    refine ⟨length_toVec snapshot ▸ harchive, ?_⟩
    rw [← hsizes]
    exact (Packing.pack_length_le_iff fun line hl => Nat.le_trans (hshort line hl) (by decide)).1 hfew
  · rintro ⟨harchive, hpack⟩
    have hshort : ∀ line ∈ lines, endedLen line ≤ MAX_LINE_BYTES := fun line hl =>
      lineSizes_le hx hstart hend harchive _ (hsizes ▸ List.mem_map_of_mem hl)
    rw [← hsizes] at hpack
    have hfew := (Packing.pack_length_le_iff fun line hl => Nat.le_trans (hshort line hl) (by decide)).2 hpack
    exact ⟨_, build_eq_ok.2 ⟨length_toVec snapshot ▸ harchive, lines, hlines, hshort, hfew, rfl⟩⟩

end

theorem collectTraffic_reported {r : Reports} {start end_ : Nat} {reads : SourceReads} {snapshot : TrafficSnapshot}
    (h : collectTraffic r start end_ reads = .ok snapshot) : Reported r snapshot :=
  ⟨(collectTraffic_ok h).2.2.1, (collectTraffic_ok h).2.2.2⟩

/-- **The worker gets to the pending write exactly when the snapshot fits.** -/
theorem pending_reached_iff {x : Crates} (hx : x.Lawful) {settings : CollectionSettings} {w : World} {start : Nat}
    {rest : List Nat} (hphase : w.phase = .reading start rest) (hstart : start + HOUR ≤ MAXIMUM_U64)
    {reads : SourceReads} {snapshot : TrafficSnapshot}
    (hcollect : collectTraffic x.reports start (start + HOUR) reads = .ok snapshot) :
    (∃ p, build x settings.identity snapshot = .ok p) ∧
        step x settings w (.collected reads) = some { w with phase := .storing snapshot rest } ↔
      Fits x settings.identity snapshot := by
  obtain ⟨hs, he, -⟩ := collectTraffic_ok hcollect
  have hbuild : (∃ p, build x settings.identity snapshot = .ok p) ↔ Fits x settings.identity snapshot :=
    build_ok_iff hx (collectTraffic_reported hcollect) (by omega) (by omega)
  rw [← hbuild]
  refine ⟨And.left, fun h => ⟨h, ?_⟩⟩
  obtain ⟨p, hp⟩ := h
  exact collected_step hphase hcollect hp

theorem pending_reached_blank :
    (∃ p, build sampleCrates sampleIdentity (blankSnapshot 3600000) = .ok p) ∧
        step sampleCrates sampleSettings { World.empty sampleSettings with phase := .reading 3600000 [] }
            (.collected blankReads) =
          some { World.empty sampleSettings with phase := .storing (blankSnapshot 3600000) [] } ↔
      Fits sampleCrates sampleIdentity (blankSnapshot 3600000) :=
  @pending_reached_iff sampleCrates sampleCrates_lawful sampleSettings
    { World.empty sampleSettings with phase := .reading 3600000 [] } 3600000 [] rfl (by decide) blankReads
    (blankSnapshot 3600000) rfl

/-! ## A snapshot that does not fit -/

/-- A body of that many bytes 01. -/
def floodBody (n : Nat) : Bytes := List.replicate n 1

theorem utf8_replicate (n : Nat) : utf8 (List.replicate n '\x01') = floodBody n := by
  induction n with
  | zero => rfl
  | succ n ih =>
    rw [List.replicate_succ, utf8, List.flatMap_cons]
    exact congrArg (List.cons 1) ih

theorem escapedLen_replicate (n : Nat) : Json.escapedLen (List.replicate n '\x01') = 6 * n := by
  have hsize : Json.escapedSize '\x01' = 6 := by decide
  induction n with
  | zero => rfl
  | succ n ih =>
    rw [List.replicate_succ, Json.escapedLen, hsize, ih]
    omega

theorem escapedLen_append (s t : Text) : Json.escapedLen (s ++ t) = Json.escapedLen s + Json.escapedLen t := by
  induction s with
  | nil => simp [Json.escapedLen]
  | cons c s ih => rw [List.cons_append, Json.escapedLen, Json.escapedLen, ih, Nat.add_assoc]

/-- The client's functions: no body of bytes 01 is JSON. -/
def floodCodecs : Codecs := ⟨Base64.encode, fun _ => none, urlPush⟩

/-- An HTTP 500 answer with that body. -/
def floodAnswer (n : Nat) : Answer := .response ⟨500, none, none, [.ok (floodBody n)]⟩

/-- Both activity reads answered with it; the controller has no WAN report. -/
def floodReads (n : Nat) : SourceReads :=
  .ofAnswers floodCodecs (fun _ => .error []) (floodAnswer n) (floodAnswer n) (.response ⟨404, none, none, []⟩)

def floodSource (n : Nat) : SourceReport :=
  ⟨.failed, none, some (ApiError.display (.status 500 (List.replicate n '\x01')))⟩

def floodSnapshot (n : Nat) : TrafficSnapshot :=
  ⟨3600000, 7200000, floodSource n, floodSource n, ⟨.unsupported, none, some (ApiError.display (.status 404 []))⟩⟩

theorem finishActivity_flood {n : Nat} (hn : n ≤ MAXIMUM_RESPONSE_BYTES) :
    finishActivity floodCodecs (fun _ => .error []) (floodAnswer n) =
      .error (.status 500 (List.replicate n '\x01')) := by
  have hbody : readBoundedBody ⟨500, none, none, [.ok (floodBody n)]⟩ = .ok (floodBody n) := by
    have hlen : (floodBody n).length = n := List.length_replicate
    rw [readBoundedBody, readChunks, if_neg (by rw [hlen]; simpa using hn)]
    rfl
  have htext : fromControllerBytes floodCodecs.base64 (floodBody n) = List.replicate n '\x01' := by
    rw [fromControllerBytes, ← utf8_replicate, fromUtf8_utf8]
  have htranslate : translateFailure floodCodecs 500 (floodBody n) = .status 500 (List.replicate n '\x01') := by
    rw [translateFailure, if_neg (by decide), htext]
    rfl
  have hstatus : ¬(500 : Nat) = TOO_MANY_REQUESTS := by decide
  rw [floodAnswer, finishActivity, if_neg hstatus, hbody]
  dsimp only
  rw [if_neg (by decide), if_neg (by decide), htranslate]

theorem collectTraffic_flood {n : Nat} (hn : n ≤ MAXIMUM_RESPONSE_BYTES) :
    collectTraffic sampleCrates.reports 3600000 (3600000 + HOUR) (floodReads n) = .ok (floodSnapshot n) := by
  rw [floodReads, SourceReads.ofAnswers, finishActivity_flood hn]
  rfl

theorem sourceSize_flood (n : Nat) : 6 * n ≤ sourceSize (floodSource n) := by
  obtain ⟨front, hfront⟩ : ∃ front, ∀ message, ApiError.display (.status 500 message) = front ++ message :=
    ⟨_, fun _ => rfl⟩
  rw [floodSource, hfront]
  simp only [sourceSize, Option.elim_some, escapedLen_append, escapedLen_replicate]
  omega

theorem build_flood {n : Nat} (h : MAX_ARCHIVE_BYTES < 12 * n) :
    build sampleCrates sampleIdentity (floodSnapshot n) = .error .archiveBound := by
  have hsize := sourceSize_flood n
  rw [build, if_pos]
  rw [length_toVec]
  simp only [archiveSize, floodSnapshot]
  omega

/-- **Two answers of 4 MiB are too much.** -/
theorem flood_fails :
    collectTraffic sampleCrates.reports 3600000 (3600000 + HOUR) (floodReads 4194304) = .ok (floodSnapshot 4194304) ∧
      build sampleCrates sampleIdentity (floodSnapshot 4194304) = .error .archiveBound ∧
      ¬∃ p, build sampleCrates sampleIdentity (floodSnapshot 4194304) = .ok p := by
  have hflood {n : Nat} (hn : n ≤ MAXIMUM_RESPONSE_BYTES) (hlarge : MAX_ARCHIVE_BYTES < 12 * n) :
      collectTraffic sampleCrates.reports 3600000 (3600000 + HOUR) (floodReads n) = .ok (floodSnapshot n) ∧
        build sampleCrates sampleIdentity (floodSnapshot n) = .error .archiveBound ∧
        ¬∃ p, build sampleCrates sampleIdentity (floodSnapshot n) = .ok p := by
    refine ⟨collectTraffic_flood hn, build_flood hlarge, fun ⟨p, hp⟩ => ?_⟩
    rw [build_flood hlarge] at hp
    cases hp
  exact hflood (by decide) (by decide)

end UnifiMcp.Collector
