import UnifiMcp.Lib.JsonReader
import UnifiMcp.Server.PublicationBound
/-! # The files of the collector (unifi-server/src/collector.rs, unifi-api/src/collection.rs)

What `from_slice` reads in `pending.json` and `status.json`. A draft holds the members a derived
reader has met. The array form of a struct, which such a reader takes too and nothing writes, is left
out.

* `readSnapshot_toVec` — **a written snapshot reads back**, raw data `null` as absent data.
* `readStatus_savedJson` — **a written status reads back.** -/
namespace UnifiMcp.Collector
open Text JsonReader

/-! ## `pending.json` -/

/-- `SourceStatus` (collection.rs:39), by its `snake_case` names. -/
def sourceStatus (name : Text) : Option SourceStatus :=
  if name = "collected".toList then some .collected
  else if name = "unsupported".toList then some .unsupported
  else if name = "unrecognized".toList then some .unrecognized
  else if name = "failed".toList then some .failed
  else none

inductive SourceField where
  | status | data | error | other
deriving DecidableEq

def SourceField.of (name : Text) : SourceField :=
  if name = "status".toList then .status
  else if name = "data".toList then .data
  else if name = "error".toList then .error
  else .other

structure SourceDraft where
  status : Option SourceStatus
  data : Option (Option Text)
  error : Option (Option Text)

def sourceField (draft : SourceDraft) (field : SourceField) (bytes : Bytes) : Option (SourceDraft × Bytes) :=
  match field with
  | .status => once draft.status (readVariant sourceStatus bytes) fun status => { draft with status := some status }
  | .data => once draft.data (readOption readRaw bytes) fun data => { draft with data := some data }
  | .error => once draft.error (readOption readText bytes) fun error => { draft with error := some error }
  | .other => ignored draft bytes

/-- A missing option is `None`. -/
def SourceDraft.finish (draft : SourceDraft) : Option SourceReport :=
  draft.status.map fun status => ⟨status, draft.data.join, draft.error.join⟩

def readSource (bytes : Bytes) : Option (SourceReport × Bytes) :=
  (readObject (readKey SourceField.of) sourceField ⟨none, none, none⟩ bytes).bind fun (draft, rest) =>
    draft.finish.map fun source => (source, rest)

inductive SnapshotField where
  | startMs | endMs | activity | graph | wan | other
deriving DecidableEq

def SnapshotField.of (name : Text) : SnapshotField :=
  if name = "start_ms".toList then .startMs
  else if name = "end_ms".toList then .endMs
  else if name = "activity".toList then .activity
  else if name = "graph".toList then .graph
  else if name = "wan".toList then .wan
  else .other

structure SnapshotDraft where
  startMs : Option Nat
  endMs : Option Nat
  activity : Option SourceReport
  graph : Option SourceReport
  wan : Option SourceReport

def snapshotField (draft : SnapshotDraft) (field : SnapshotField) (bytes : Bytes) : Option (SnapshotDraft × Bytes) :=
  match field with
  | .startMs => once draft.startMs (readU64 bytes) fun startMs => { draft with startMs := some startMs }
  | .endMs => once draft.endMs (readU64 bytes) fun endMs => { draft with endMs := some endMs }
  | .activity => once draft.activity (readSource bytes) fun activity => { draft with activity := some activity }
  | .graph => once draft.graph (readSource bytes) fun graph => { draft with graph := some graph }
  | .wan => once draft.wan (readSource bytes) fun wan => { draft with wan := some wan }
  | .other => ignored draft bytes

def SnapshotDraft.finish (draft : SnapshotDraft) : Option TrafficSnapshot :=
  draft.startMs.bind fun startMs => draft.endMs.bind fun endMs => draft.activity.bind fun activity =>
    draft.graph.bind fun graph => draft.wan.map fun wan => ⟨startMs, endMs, activity, graph, wan⟩

/-- `from_slice::<TrafficSnapshot>` (collector.rs:208). -/
def readSnapshot (bytes : Bytes) : Option TrafficSnapshot :=
  (readAll (readObject (readKey SnapshotField.of) snapshotField ⟨none, none, none, none, none⟩) bytes).bind
    SnapshotDraft.finish

/-! ### Reading back -/

theorem sourceStatus_name (status : SourceStatus) : sourceStatus (statusName status) = some status := by
  cases status <;> decide

/-- The members of a source report. -/
def sourceMembers (source : SourceReport) : List (Text × Text) :=
  [("status".toList, statusJson source.status), ("data".toList, source.data.getD "null".toList)] ++
    source.error.toList.map fun error => ("error".toList, Json.quote error)

theorem sourceJson_members (source : SourceReport) : sourceJson source = objectText (sourceMembers source) := by
  have h1 : '{' :: (Json.quote "status".toList ++ [':']) = "\x7b\"status\":".toList := by decide +kernel
  have h2 : ',' :: (Json.quote "data".toList ++ [':']) = ",\"data\":".toList := by decide +kernel
  have h3 : ',' :: (Json.quote "error".toList ++ [':']) = ",\"error\":".toList := by decide +kernel
  have h4 : "\x7d".toList = ['}'] := rfl
  unfold sourceJson sourceMembers
  rw [h4, ← h1, ← h2, ← h3]
  generalize "status".toList = status
  generalize "data".toList = data
  generalize "error".toList = name
  generalize "null".toList = null
  cases source.error <;> simp [objectText, tailText, memberText]

theorem reads_source {source : SourceReport} (h : ∀ data ∈ source.data, RawText data) :
    Reads readSource (sourceJson source) (SourceReport.reread source) := by
  intro rest _
  have hfills : Fills (readKey SourceField.of) sourceField ⟨none, none, none⟩ (sourceMembers source)
      ⟨some source.status, some (SourceReport.reread source).data, source.error.map some⟩ := by
    refine .cons (k := SourceField.status) (readKey_quote (by decide)) (once_reads (reads_variant (sourceStatus_name _)) _) ?_
    refine .cons (k := SourceField.data) (readKey_quote (by decide)) (once_reads (reads_rawOption h) _) ?_
    cases source.error with
    | none => exact .nil
    | some error =>
      exact .cons (k := SourceField.error) (readKey_quote (by decide)) (once_reads ((reads_text error).some (starts_quote error)) _) .nil
  rw [readSource, sourceJson_members, readObject_write hfills, Option.bind_some]
  cases source with
  | mk status data error => cases error <;> rfl

/-- The members of a snapshot. -/
def snapshotMembers (snapshot : TrafficSnapshot) : List (Text × Text) :=
  [("start_ms".toList, dec snapshot.startMs), ("end_ms".toList, dec snapshot.endMs),
    ("activity".toList, sourceJson snapshot.activity), ("graph".toList, sourceJson snapshot.graph),
    ("wan".toList, sourceJson snapshot.wan)]

theorem snapshotJson_members (snapshot : TrafficSnapshot) :
    snapshotJson snapshot = objectText (snapshotMembers snapshot) := by
  have h1 : '{' :: (Json.quote "start_ms".toList ++ [':']) = "\x7b\"start_ms\":".toList := by decide +kernel
  have h2 : ',' :: (Json.quote "end_ms".toList ++ [':']) = ",\"end_ms\":".toList := by decide +kernel
  have h3 : ',' :: (Json.quote "activity".toList ++ [':']) = ",\"activity\":".toList := by decide +kernel
  have h4 : ',' :: (Json.quote "graph".toList ++ [':']) = ",\"graph\":".toList := by decide +kernel
  have h5 : ',' :: (Json.quote "wan".toList ++ [':']) = ",\"wan\":".toList := by decide +kernel
  have h6 : "\x7d".toList = ['}'] := rfl
  unfold snapshotJson snapshotMembers
  rw [h6, ← h1, ← h2, ← h3, ← h4, ← h5]
  generalize "start_ms".toList = startMs
  generalize "end_ms".toList = endMs
  generalize "activity".toList = activity
  generalize "graph".toList = graph
  generalize "wan".toList = wan
  simp [objectText, tailText, memberText]

/-- The raw data of a snapshot is JSON text. -/
structure Raw (snapshot : TrafficSnapshot) : Prop where
  activity : ∀ data ∈ snapshot.activity.data, RawText data
  graph : ∀ data ∈ snapshot.graph.data, RawText data
  wan : ∀ data ∈ snapshot.wan.data, RawText data

/-- **A written snapshot reads back**, raw data `null` as absent data. -/
theorem readSnapshot_toVec {snapshot : TrafficSnapshot} (h : Raw snapshot) (hstart : snapshot.startMs ≤ MAX_U64)
    (hend : snapshot.endMs ≤ MAX_U64) : readSnapshot (toVec snapshot) = some (reread snapshot) := by
  have hfills : Fills (readKey SnapshotField.of) snapshotField ⟨none, none, none, none, none⟩ (snapshotMembers snapshot)
      ⟨some snapshot.startMs, some snapshot.endMs, some (SourceReport.reread snapshot.activity),
        some (SourceReport.reread snapshot.graph), some (SourceReport.reread snapshot.wan)⟩ := by
    refine .cons (k := SnapshotField.startMs) (readKey_quote (by decide)) (once_reads (reads_dec hstart) _) ?_
    refine .cons (k := SnapshotField.endMs) (readKey_quote (by decide)) (once_reads (reads_dec hend) _) ?_
    refine .cons (k := SnapshotField.activity) (readKey_quote (by decide)) (once_reads (reads_source h.activity) _) ?_
    refine .cons (k := SnapshotField.graph) (readKey_quote (by decide)) (once_reads (reads_source h.graph) _) ?_
    exact .cons (k := SnapshotField.wan) (readKey_quote (by decide)) (once_reads (reads_source h.wan) _) .nil
  have hread := readObject_write hfills []
  rw [List.append_nil] at hread
  rw [readSnapshot, toVec, snapshotJson_members, readAll, hread]
  rfl

/-! ## `status.json` -/

/-- `Option`: `null` for `None`. -/
def optionJson {α : Type} (write : α → Text) (value : Option α) : Text := value.elim "null".toList write

/-- The map of the intervals; an integer key is written as a string. -/
def intervalsJson (intervals : SortedMap Nat Bool) : Text :=
  objectText (intervals.entries.map fun (time, complete) => (dec time, boolText complete))

/-- The members of `Status` (collector.rs:30), as they are declared. -/
def statusMembers (status : Status) : List (Text × Text) :=
  [("binding".toList, Json.quote status.binding),
    ("last_collected_interval".toList, optionJson dec status.lastCollectedInterval),
    ("last_published_interval".toList, optionJson dec status.lastPublishedInterval),
    ("updated_ms".toList, dec status.updatedMs),
    ("lag_ms".toList, optionJson dec status.lagMs),
    ("records".toList, dec status.records),
    ("error".toList, optionJson Json.quote status.error),
    ("sink_available".toList, optionJson boolText status.sinkAvailable),
    ("intervals".toList, intervalsJson status.intervals),
    ("expired_gaps".toList, dec status.expiredGaps),
    ("cursor".toList, optionJson dec status.cursor)]

/-- `serde_json::to_vec(&self.status)` (collector.rs:160). -/
def Status.toVec (status : Status) : Bytes := utf8 (objectText (statusMembers status))

inductive StatusField where
  | binding | lastCollectedInterval | lastPublishedInterval | updatedMs | lagMs | records | error | sinkAvailable
  | intervals | expiredGaps | cursor | other
deriving DecidableEq

def StatusField.of (name : Text) : StatusField :=
  if name = "binding".toList then .binding
  else if name = "last_collected_interval".toList then .lastCollectedInterval
  else if name = "last_published_interval".toList then .lastPublishedInterval
  else if name = "updated_ms".toList then .updatedMs
  else if name = "lag_ms".toList then .lagMs
  else if name = "records".toList then .records
  else if name = "error".toList then .error
  else if name = "sink_available".toList then .sinkAvailable
  else if name = "intervals".toList then .intervals
  else if name = "expired_gaps".toList then .expiredGaps
  else if name = "cursor".toList then .cursor
  else .other

structure StatusDraft where
  binding : Option Text
  lastCollectedInterval : Option (Option Nat)
  lastPublishedInterval : Option (Option Nat)
  updatedMs : Option Nat
  lagMs : Option (Option Nat)
  records : Option Nat
  error : Option (Option Text)
  sinkAvailable : Option (Option Bool)
  intervals : Option (SortedMap Nat Bool)
  expiredGaps : Option Nat
  cursor : Option (Option Nat)

def StatusDraft.empty : StatusDraft := ⟨none, none, none, none, none, none, none, none, none, none, none⟩

def intervalEntry (intervals : SortedMap Nat Bool) (time : Nat) (bytes : Bytes) : Option (SortedMap Nat Bool × Bytes) :=
  (readBool bytes).map fun (complete, rest) => (intervals.insert time complete, rest)

def readIntervals (bytes : Bytes) : Option (SortedMap Nat Bool × Bytes) :=
  readObject readNumericKey intervalEntry .empty bytes

def statusField (draft : StatusDraft) (field : StatusField) (bytes : Bytes) : Option (StatusDraft × Bytes) :=
  match field with
  | .binding => once draft.binding (readText bytes) fun binding => { draft with binding := some binding }
  | .lastCollectedInterval =>
    once draft.lastCollectedInterval (readOption readU64 bytes) fun time => { draft with lastCollectedInterval := some time }
  | .lastPublishedInterval =>
    once draft.lastPublishedInterval (readOption readU64 bytes) fun time => { draft with lastPublishedInterval := some time }
  | .updatedMs => once draft.updatedMs (readU64 bytes) fun updatedMs => { draft with updatedMs := some updatedMs }
  | .lagMs => once draft.lagMs (readOption readU64 bytes) fun lagMs => { draft with lagMs := some lagMs }
  | .records => once draft.records (readU64 bytes) fun records => { draft with records := some records }
  | .error => once draft.error (readOption readText bytes) fun error => { draft with error := some error }
  | .sinkAvailable =>
    once draft.sinkAvailable (readOption readBool bytes) fun available => { draft with sinkAvailable := some available }
  | .intervals => once draft.intervals (readIntervals bytes) fun intervals => { draft with intervals := some intervals }
  | .expiredGaps => once draft.expiredGaps (readU64 bytes) fun gaps => { draft with expiredGaps := some gaps }
  | .cursor => once draft.cursor (readOption readU64 bytes) fun cursor => { draft with cursor := some cursor }
  | .other => ignored draft bytes

def StatusDraft.finish (draft : StatusDraft) : Option Status :=
  draft.binding.bind fun binding => draft.updatedMs.bind fun updatedMs => draft.records.bind fun records =>
    draft.intervals.bind fun intervals => draft.expiredGaps.map fun expiredGaps =>
      ⟨binding, draft.lastCollectedInterval.join, draft.lastPublishedInterval.join, updatedMs, draft.lagMs.join, records,
        draft.error.join, draft.sinkAvailable.join, intervals, expiredGaps, draft.cursor.join⟩

/-- `from_slice::<Status>` (collector.rs:126). -/
def readStatus (bytes : Bytes) : Option Status :=
  (readAll (readObject (readKey StatusField.of) statusField .empty) bytes).bind StatusDraft.finish

/-! ### Reading back -/

/-- The numbers of a status are `u64`. -/
structure Numeric (status : Status) : Prop where
  lastCollected : ∀ n ∈ status.lastCollectedInterval, n ≤ MAX_U64
  lastPublished : ∀ n ∈ status.lastPublishedInterval, n ≤ MAX_U64
  updatedMs : status.updatedMs ≤ MAX_U64
  lagMs : ∀ n ∈ status.lagMs, n ≤ MAX_U64
  records : status.records ≤ MAX_U64
  intervals : ∀ entry ∈ status.intervals.entries, entry.1 ≤ MAX_U64
  expiredGaps : status.expiredGaps ≤ MAX_U64
  cursor : ∀ n ∈ status.cursor, n ≤ MAX_U64

theorem reads_optionJson {α : Type} {read : Bytes → Option (α × Bytes)} {write : α → Text} {value : Option α}
    (h : ∀ a ∈ value, Reads read (write a) a) (hstarts : ∀ a, Starts (write a)) :
    Reads (readOption read) (optionJson write value) value := by
  cases value with
  | none => exact reads_null read
  | some a => exact (h a rfl).some (hstarts a)

theorem reads_optionDec {value : Option Nat} (h : ∀ n ∈ value, n ≤ MAX_U64) :
    Reads (readOption readU64) (optionJson dec value) value :=
  reads_optionJson (fun n hn => reads_dec (h n hn)) starts_dec

/-- The entries behind those that are read already. -/
theorem fills_intervals {final : SortedMap Nat Bool} : ∀ {left : List (Nat × Bool)} {done : SortedMap Nat Bool},
    final.entries = done.entries ++ left → (∀ entry ∈ left, entry.1 ≤ MAX_U64) →
    Fills readNumericKey intervalEntry done (left.map fun (time, complete) => (dec time, boolText complete)) final
  | [], done, hentries, _ => by
    obtain rfl : final = done := by
      cases final
      cases done
      simpa using hentries
    exact .nil
  | (time, complete) :: left, done, hentries, hbound => by
    have hsorted := final.sorted
    rw [hentries] at hsorted
    have hlast : (done.insert time complete).entries = done.entries ++ [(time, complete)] := by
      refine SortedMap.insert_last fun entry hentry => ?_
      exact (List.pairwise_append.1 hsorted).2.2 entry hentry _ List.mem_cons_self
    have hread (rest : Bytes) (hrest : Closes rest) : intervalEntry done time (utf8 (boolText complete) ++ rest) =
        some (done.insert time complete, rest) := by
      rw [intervalEntry, boolText, reads_bool complete rest hrest]
      rfl
    have htail : final.entries = (done.insert time complete).entries ++ left := by
      rw [hentries, hlast, List.append_assoc, List.singleton_append]
    exact .cons (readNumericKey_dec (hbound _ List.mem_cons_self)) hread
      (fills_intervals htail fun entry hentry => hbound entry (List.mem_cons_of_mem _ hentry))

theorem reads_intervals {intervals : SortedMap Nat Bool} (h : ∀ entry ∈ intervals.entries, entry.1 ≤ MAX_U64) :
    Reads readIntervals (intervalsJson intervals) intervals :=
  reads_object (fills_intervals rfl h)

/-- **A written status reads back.** -/
theorem readStatus_toVec {status : Status} (h : Numeric status) : readStatus status.toVec = some status := by
  have hfills : Fills (readKey StatusField.of) statusField .empty (statusMembers status)
      ⟨some status.binding, some status.lastCollectedInterval, some status.lastPublishedInterval, some status.updatedMs,
        some status.lagMs, some status.records, some status.error, some status.sinkAvailable, some status.intervals,
        some status.expiredGaps, some status.cursor⟩ := by
    refine .cons (k := StatusField.binding) (readKey_quote (by decide)) (once_reads (reads_text _) _) ?_
    refine .cons (k := StatusField.lastCollectedInterval) (readKey_quote (by decide))
      (once_reads (reads_optionDec h.lastCollected) _) ?_
    refine .cons (k := StatusField.lastPublishedInterval) (readKey_quote (by decide))
      (once_reads (reads_optionDec h.lastPublished) _) ?_
    refine .cons (k := StatusField.updatedMs) (readKey_quote (by decide)) (once_reads (reads_dec h.updatedMs) _) ?_
    refine .cons (k := StatusField.lagMs) (readKey_quote (by decide)) (once_reads (reads_optionDec h.lagMs) _) ?_
    refine .cons (k := StatusField.records) (readKey_quote (by decide)) (once_reads (reads_dec h.records) _) ?_
    refine .cons (k := StatusField.error) (readKey_quote (by decide))
      (once_reads (reads_optionJson (fun error _ => reads_text error) starts_quote) _) ?_
    refine .cons (k := StatusField.sinkAvailable) (readKey_quote (by decide))
      (once_reads (reads_optionJson (fun available _ => reads_bool available) starts_bool) _) ?_
    refine .cons (k := StatusField.intervals) (readKey_quote (by decide)) (once_reads (reads_intervals h.intervals) _) ?_
    refine .cons (k := StatusField.expiredGaps) (readKey_quote (by decide)) (once_reads (reads_dec h.expiredGaps) _) ?_
    exact .cons (k := StatusField.cursor) (readKey_quote (by decide)) (once_reads (reads_optionDec h.cursor) _) .nil
  have hread := readObject_write hfills []
  rw [List.append_nil] at hread
  rw [readStatus, Status.toVec, readAll, hread]
  rfl

/-! ### The size -/

theorem byteLen_optionDec {value : Option Nat} (h : ∀ n ∈ value, n ≤ MAX_U64) : byteLen (optionJson dec value) ≤ 20 := by
  cases value with
  | none => exact (by decide : 4 ≤ 20)
  | some n =>
    show byteLen (dec n) ≤ 20
    rw [byteLen_dec]
    exact digits_le (h n rfl)

theorem byteLen_intervalsJson {intervals : SortedMap Nat Bool} (h : ∀ entry ∈ intervals.entries, entry.1 ≤ MAX_U64) :
    byteLen (intervalsJson intervals) ≤ 2 + intervals.length * 29 := by
  have hmembers : ∀ member ∈ intervals.entries.map (fun (time, complete) => (dec time, boolText complete)),
      byteLen (memberText member.1 member.2) < 29 := by
    intro member hm
    obtain ⟨⟨time, complete⟩, hentry, rfl⟩ := List.mem_map.1 hm
    have htime : (dec time).length ≤ 20 := digits_le (h _ hentry)
    have hbool : byteLen (boolText complete) ≤ 5 := by cases complete <;> decide
    have hkey : byteLen (Json.quote (dec time)) = (dec time).length + 2 := by
      rw [Json.quote, flatMap_escapeChar_dec, byteLen_cons, byteLen_append, byteLen_dec]
      show 1 + ((dec time).length + 1) = _
      omega
    show byteLen (memberText (dec time) (boolText complete)) < 29
    rw [byteLen_memberText, hkey]
    omega
  have htail := byteLen_tailText_le hmembers
  rw [List.length_map] at htail
  have hobject := byteLen_objectText_le (intervals.entries.map fun (time, complete) => (dec time, boolText complete))
  unfold intervalsJson SortedMap.length
  omega

/-- A status of at most 168 intervals keeps within what `Worker::new` reads. -/
theorem length_statusVec {status : Status} (h : Numeric status) (hbinding : status.binding.length ≤ 64)
    (herror : ∀ error ∈ status.error, error.length ≤ 64) (hcount : status.intervals.length ≤ 168) :
    status.toVec.length ≤ 128 * 1024 := by
  have hquote {t : Text} (ht : t.length ≤ 64) : byteLen (Json.quote t) ≤ 386 := by
    have hescaped := Json.escapedLen_le t
    rw [Json.byteLen_quote]
    omega
  have hnumber {n : Nat} (hn : n ≤ MAX_U64) : byteLen (dec n) ≤ 20 := by
    rw [byteLen_dec]
    exact digits_le hn
  have hbinding := hquote hbinding
  have herror : byteLen (optionJson Json.quote status.error) ≤ 386 := by
    cases hcase : status.error with
    | none => exact (by decide : 4 ≤ 386)
    | some error => exact hquote (herror error hcase)
  have havailable : byteLen (optionJson boolText status.sinkAvailable) ≤ 5 := by
    cases status.sinkAvailable with
    | none => decide
    | some available => cases available <;> decide
  have hmembers : ∀ member ∈ statusMembers status, byteLen (memberText member.1 member.2) < 5000 := by
    have hintervals := byteLen_intervalsJson h.intervals
    have hvalue (name : Text) {value : Text} (hname : byteLen (Json.quote name) ≤ 30) (hvalue : byteLen value ≤ 4900) :
        byteLen (memberText name value) < 5000 := by
      rw [byteLen_memberText]
      omega
    have hsmall {t : Text} (ht : byteLen t ≤ 386) : byteLen t ≤ 4900 := Nat.le_trans ht (by decide)
    have hu64 {n : Nat} (hn : n ≤ MAX_U64) : byteLen (dec n) ≤ 4900 := Nat.le_trans (hnumber hn) (by decide)
    have hoption {value : Option Nat} (hn : ∀ n ∈ value, n ≤ MAX_U64) : byteLen (optionJson dec value) ≤ 4900 :=
      Nat.le_trans (byteLen_optionDec hn) (by decide)
    have hflag : byteLen (optionJson boolText status.sinkAvailable) ≤ 4900 := Nat.le_trans havailable (by decide)
    have hmap : byteLen (intervalsJson status.intervals) ≤ 4900 := by omega
    rw [statusMembers]
    refine List.forall_mem_cons.2 ⟨hvalue "binding".toList (by decide) (hsmall hbinding), ?_⟩
    refine List.forall_mem_cons.2 ⟨hvalue "last_collected_interval".toList (by decide) (hoption h.lastCollected), ?_⟩
    refine List.forall_mem_cons.2 ⟨hvalue "last_published_interval".toList (by decide) (hoption h.lastPublished), ?_⟩
    refine List.forall_mem_cons.2 ⟨hvalue "updated_ms".toList (by decide) (hu64 h.updatedMs), ?_⟩
    refine List.forall_mem_cons.2 ⟨hvalue "lag_ms".toList (by decide) (hoption h.lagMs), ?_⟩
    refine List.forall_mem_cons.2 ⟨hvalue "records".toList (by decide) (hu64 h.records), ?_⟩
    refine List.forall_mem_cons.2 ⟨hvalue "error".toList (by decide) (hsmall herror), ?_⟩
    refine List.forall_mem_cons.2 ⟨hvalue "sink_available".toList (by decide) (hflag), ?_⟩
    refine List.forall_mem_cons.2 ⟨hvalue "intervals".toList (by decide) (hmap), ?_⟩
    refine List.forall_mem_cons.2 ⟨hvalue "expired_gaps".toList (by decide) (hu64 h.expiredGaps), ?_⟩
    exact List.forall_mem_cons.2 ⟨hvalue "cursor".toList (by decide) (hoption h.cursor), fun _ hm => (by cases hm)⟩
  have htail := byteLen_tailText_le hmembers
  have hlength : (statusMembers status).length = 11 := rfl
  have hobject := byteLen_objectText_le (statusMembers status)
  rw [Status.toVec, byteLen_utf8]
  omega

end UnifiMcp.Collector
