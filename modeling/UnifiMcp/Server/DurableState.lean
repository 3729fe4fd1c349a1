import UnifiMcp.Server.Hours
import UnifiMcp.Server.StateFiles
/-! # What the collector leaves on disk (unifi-server/src/collector.rs)

A pending file holds the bytes that were tried before it was written, and a saved status the hours of the
last window. Both are read back by the worker that starts next.

* `pending_restores` — a written snapshot is read back and publishes as it would have.
* `durable_step` — every step keeps what the files are good for.
* `durable_state_closed` — **no file of a run holds the worker back.** -/
namespace UnifiMcp.Collector
open Text JsonReader

/-! ## `pending.json` -/

/-- What a source reports is the raw value of a body. -/
def ReceivedRead (read : Except ApiError (ActivityRead Text)) : Prop :=
  ∀ data, read = .ok (.reported data) → ∃ body : Bytes, readAll readRaw body = some data

structure Received (reads : SourceReads) : Prop where
  activity : ReceivedRead reads.activity
  graph : ReceivedRead reads.graph
  wan : ReceivedRead reads.wan

/-- A report is read from an object: `null` is none. -/
structure RefuseNull (x : Crates) : Prop where
  activity : x.reports.activityReport "null".toList = none
  wan : x.reports.wanReport "null".toList = none

theorem source_raw {recognized : Text → Bool} {read : Except ApiError (ActivityRead Text)} (h : ReceivedRead read) :
    ∀ data ∈ (source recognized read).data, RawText data := by
  intro data hdata
  match read, h with
  | .ok (.reported data'), h =>
    cases hdata
    obtain ⟨body, hbody⟩ := h _ rfl
    exact rawText_of_readAll hbody
  | .ok (.unsupported _), _ | .ok .unrecognized, _ | .error _, _ => cases hdata

/-- What `collect_traffic` returns, source by source. -/
theorem collectTraffic_sources {r : Reports} {start end_ : Nat} {reads : SourceReads} {snapshot : TrafficSnapshot}
    (h : collectTraffic r start end_ reads = .ok snapshot) :
    snapshot.activity = source (fun data => (r.activityReport data).isSome) reads.activity ∧
      snapshot.graph = source r.activityBuckets reads.graph ∧
      snapshot.wan = source (fun data => (r.wanReport data).any fun report => report.rc == "ok".toList) reads.wan := by
  unfold collectTraffic activityWindow at h
  split at h
  · cases h
  · cases h
    exact ⟨rfl, rfl, rfl⟩

theorem raw_of_collect {r : Reports} {start end_ : Nat} {reads : SourceReads} {snapshot : TrafficSnapshot}
    (hreads : Received reads) (h : collectTraffic r start end_ reads = .ok snapshot) : Raw snapshot := by
  obtain ⟨hactivity, hgraph, hwan⟩ := collectTraffic_sources h
  constructor
  · rw [hactivity]
    exact source_raw hreads.activity
  · rw [hgraph]
    exact source_raw hreads.graph
  · rw [hwan]
    exact source_raw hreads.wan

theorem sourceJson_reread (source : SourceReport) : sourceJson (SourceReport.reread source) = sourceJson source := by
  have hdata : (source.data.filter (· ≠ "null".toList)).getD "null".toList = source.data.getD "null".toList := by
    cases source.data with
    | none => rfl
    | some data =>
      by_cases hnull : data = "null".toList
      · rw [hnull]
        rfl
      · rw [Option.filter_some, if_pos (decide_eq_true hnull)]
  unfold sourceJson SourceReport.reread
  rw [hdata]

/-- Writing what was read back gives the same bytes. -/
theorem toVec_reread (snapshot : TrafficSnapshot) : toVec (reread snapshot) = toVec snapshot := by
  unfold toVec snapshotJson reread
  rw [sourceJson_reread, sourceJson_reread, sourceJson_reread]

theorem reread_reread (snapshot : TrafficSnapshot) : reread (reread snapshot) = reread snapshot := by
  have hsource (source : SourceReport) :
      SourceReport.reread (SourceReport.reread source) = SourceReport.reread source := by
    unfold SourceReport.reread
    rw [Option.filter_filter]
    simp
  unfold reread
  rw [hsource, hsource, hsource]

@[simp] theorem collected_reread (snapshot : TrafficSnapshot) : (reread snapshot).collected = snapshot.collected := rfl

/-- A report that was read is not of raw data `null`, so it is read again. -/
theorem data_reread {source : SourceReport} {α : Type} {report : Text → Option α} (hnull : report "null".toList = none)
    {data : Text} (hdata : source.data = some data) (hreport : report data ≠ none) :
    (SourceReport.reread source).data = source.data := by
  have hne : data ≠ "null".toList := by
    rintro rfl
    exact hreport hnull
  unfold SourceReport.reread
  dsimp only
  rw [hdata, Option.filter_some, if_pos (decide_eq_true hne)]

section
variable {x : Crates} {identity : Identity} {start end_ : Nat} {reads : SourceReads} {snapshot : TrafficSnapshot}

theorem activityPart_reread (hnull : RefuseNull x) (hcollect : collectTraffic x.reports start end_ reads = .ok snapshot) :
    activityPart x (reread snapshot) = activityPart x snapshot := by
  obtain ⟨-, -, hactivity, -⟩ := collectTraffic_ok hcollect
  have hstatus : (reread snapshot).activity.status = snapshot.activity.status := rfl
  unfold activityPart
  rw [hstatus]
  split
  · rename_i hcollected
    obtain ⟨data, report, hdata, hreport⟩ := hactivity hcollected
    have hsame : (reread snapshot).activity.data = snapshot.activity.data :=
      data_reread hnull.activity hdata (by rw [hreport]; exact Option.some_ne_none report)
    rw [hsame]
  · rfl

theorem wanPart_reread (hnull : RefuseNull x) (hcollect : collectTraffic x.reports start end_ reads = .ok snapshot)
    (total : Option ByteTotals) : wanPart x (reread snapshot) total = wanPart x snapshot total := by
  obtain ⟨-, -, -, hwan⟩ := collectTraffic_ok hcollect
  have hstatus : (reread snapshot).wan.status = snapshot.wan.status := rfl
  unfold wanPart
  rw [hstatus]
  split
  · rename_i hcollected
    obtain ⟨data, report, hdata, hreport⟩ := hwan hcollected
    have hsame : (reread snapshot).wan.data = snapshot.wan.data :=
      data_reread hnull.wan hdata (by rw [hreport]; exact Option.some_ne_none report)
    rw [hsame]
    rfl
  · rfl

/-- **The publication of what was read back is that of what was collected.** -/
theorem build_reread (hnull : RefuseNull x) (hcollect : collectTraffic x.reports start end_ reads = .ok snapshot) :
    build x identity (reread snapshot) = build x identity snapshot := by
  have hlines : publicationLines x identity (reread snapshot) = publicationLines x identity snapshot := by
    unfold publicationLines
    rw [toVec_reread, activityPart_reread hnull hcollect]
    split
    · rfl
    · rw [wanPart_reread hnull hcollect]
      rfl
  unfold build
  rw [toVec_reread, hlines]
  rfl

/-- What a pending file of the snapshot is good for. -/
structure Restores (x : Crates) (identity : Identity) (snapshot : TrafficSnapshot) (publication : Publication) : Prop where
  /-- It is what the collected value itself publishes as. -/
  collected : Collector.build x identity snapshot = .ok publication
  read : readSnapshot (toVec snapshot) = some (reread snapshot)
  size : (toVec snapshot).length ≤ MAX_ARCHIVE_BYTES
  valid : validPending (reread snapshot) = true
  build : Collector.build x identity (reread snapshot) = .ok publication
  /-- Reading and writing it any number of times changes nothing more. -/
  again : toVec (reread snapshot) = toVec snapshot ∧ reread (reread snapshot) = reread snapshot

/-- **A written snapshot is read back and publishes as it would have.** -/
theorem pending_restores (hnull : RefuseNull x) (hreads : Received reads) (haligned : start % HOUR = 0)
    (hfits : start + HOUR ≤ MAX_U64) (hcollect : collectTraffic x.reports start (start + HOUR) reads = .ok snapshot)
    {publication : Publication} (hbuild : build x identity snapshot = .ok publication) :
    Restores x identity snapshot publication := by
  obtain ⟨hstart, hend, -, -⟩ := collectTraffic_ok hcollect
  refine ⟨hbuild, readSnapshot_toVec (raw_of_collect hreads hcollect) ?_ ?_, (build_eq_ok.1 hbuild).1, ?_,
    (build_reread hnull hcollect).trans hbuild, toVec_reread snapshot, reread_reread snapshot⟩
  · rw [hstart]
    exact Nat.le_trans (Nat.le_add_right start HOUR) hfits
  · rw [hend]
    exact hfits
  · have hs : (reread snapshot).startMs = start := hstart
    have he : (reread snapshot).endMs = start + HOUR := hend
    simp [validPending, hs, he, haligned]

end

/-! ## What a step does to a status -/

/-- The errors a cycle reports. -/
def Known (error : Option Text) : Prop :=
  error = none ∨ error = some COLLECTION_OR_PUBLICATION_FAILED ∨ error = some CYCLE_TIMEOUT

/-- The status behind a step. -/
inductive StatusStep (settings : CollectionSettings) (w : World) : Status → Prop where
  | same : StatusStep settings w w.status
  | restarted {status : Status} (hsaved : w.saved = some status ∨ status = .fresh settings.binding) :
      StatusStep settings w status
  | rejected : StatusStep settings w { w.status with sinkAvailable := some false }
  | acknowledged {snapshot : TrafficSnapshot} {publication : Publication} {body : Text} {resume : Resume}
      (hphase : w.phase = .awaiting snapshot publication body [] resume) :
      StatusStep settings w (acknowledge w.status snapshot publication.records)
  | scheduled {now : Nat} (hnow : now ≤ MAXIMUM_U64) : StatusStep settings w (schedule settings w.status now).1
  | stored {snapshot : TrafficSnapshot} {rest : List Nat} {lastCollectedInterval : Option Nat}
      (hphase : w.phase = .storing snapshot rest)
      (hlast : lastCollectedInterval = laterOf w.status.lastCollectedInterval snapshot.startMs ∨
        lastCollectedInterval = w.status.lastCollectedInterval) :
      StatusStep settings w { w.status with lastCollectedInterval }
  | reported {error : Option Text} {now : Nat} (hphase : w.phase = .reporting error) (hnow : now ≤ MAXIMUM_U64) :
      StatusStep settings w { w.status with
        error := error.or w.status.error
        updatedMs := now
        lagMs := w.status.lastPublishedInterval.map fun time => now - (time + HOUR) }

/-- What a step makes of the status, of its file, of the report and of what is about to be stored. -/
structure StepFacts (x : Crates) (settings : CollectionSettings) (w : World) (event : Event) (w' : World) : Prop where
  status : StatusStep settings w w'.status
  saved : w'.saved = w.saved ∨ w'.saved = some w'.status
  reporting : ∀ error, w'.phase = .reporting error → w.phase = .reporting error ∨ Known error
  storing : ∀ snapshot rest, w'.phase = .storing snapshot rest → w.phase = .storing snapshot rest ∨
    ∃ start reads publication, event = .collected reads ∧ w.phase = .reading start rest ∧
      collectTraffic x.reports start (start + HOUR) reads = .ok snapshot ∧ build x settings.identity snapshot = .ok publication

section
variable {x : Crates} {settings : CollectionSettings} {w w' : World} {event : Event}

theorem known_failed : Known (some COLLECTION_OR_PUBLICATION_FAILED) := Or.inr (Or.inl rfl)

/-- No snapshot to store, and only a known error to report. -/
def Phase.Plain : Phase → Prop
  | .reporting error => Known error
  | .storing .. => False
  | _ => True

theorem Resume.plain (resume : Resume) : resume.phase.Plain := by
  cases resume <;> trivial

theorem plain_failed : (Phase.reporting (some COLLECTION_OR_PUBLICATION_FAILED)).Plain := known_failed

theorem StepFacts.of_plain (hstatus : StatusStep settings w w'.status)
    (hsaved : w'.saved = w.saved ∨ w'.saved = some w'.status) (hphase : w'.phase.Plain) : StepFacts x settings w event w' := by
  refine ⟨hstatus, hsaved, fun error h => Or.inr ?_, fun snapshot rest h => ?_⟩
  · rwa [h] at hphase
  · rw [h] at hphase
    exact hphase.elim

/-- A phase alone. -/
theorem StepFacts.turn {next : Phase} (hphase : next.Plain) : StepFacts x settings w event { w with phase := next } :=
  .of_plain .same (Or.inl rfl) hphase

theorem saveThen_facts {next : Phase} (hnext : next.Plain) (outcome : Outcome) :
    StepFacts x settings w event (w.saveThen next outcome) := by
  cases outcome with
  | done => exact .of_plain .same (Or.inr rfl) hnext
  | failed => exact .turn plain_failed
  | unsynced => exact .of_plain .same (Or.inr rfl) plain_failed

theorem written_facts {outcome : Outcome} (h : written w outcome = some w') : StepFacts x settings w event w' := by
  unfold written at h
  split at h
  · cases outcome <;> cases h
    · exact .of_plain .same (Or.inr rfl) (by trivial)
    · exact .turn (by trivial)
    · exact .of_plain .same (Or.inr rfl) (by trivial)
  · cases h
    exact saveThen_facts (by trivial) outcome
  · rename_i resume _
    cases outcome <;> cases h
    · exact .of_plain .same (Or.inl rfl) resume.plain
    · exact .turn plain_failed
    · exact .of_plain .same (Or.inl rfl) plain_failed
  · cases h
    exact saveThen_facts (by trivial) outcome
  · rename_i snapshot rest hphase
    cases outcome <;> cases h
    · refine .of_plain (.stored hphase ?_) (Or.inl rfl) (by trivial)
      split
      · exact Or.inl rfl
      · exact Or.inr rfl
    · exact .turn plain_failed
    · exact .of_plain .same (Or.inl rfl) plain_failed
  · cases h
    exact saveThen_facts (by trivial) outcome
  · cases h

theorem publishPending_facts {resume : Resume} : StepFacts x settings w event (publishPending x settings w resume) := by
  unfold publishPending
  split
  · exact .turn resume.plain
  · split
    · exact .turn plain_failed
    · split
      · exact .turn plain_failed
      · exact .turn (by trivial)

theorem collect_facts {start : Nat} {rest : List Nat} (hphase : w.phase = .reading start rest) (reads : SourceReads) :
    StepFacts x settings w (.collected reads) (collect x settings w start rest reads) := by
  unfold collect
  cases hcollect : collectTraffic x.reports start (start + HOUR) reads with
  | error error => exact .turn plain_failed
  | ok snapshot =>
    unfold tryBuild
    dsimp only
    split
    · exact .turn plain_failed
    · rename_i publication hbuild
      refine ⟨.same, Or.inl rfl, nofun, ?_⟩
      rintro _ _ ⟨⟩
      exact Or.inr ⟨start, reads, publication, rfl, hphase, hcollect, hbuild⟩

/-- **What a step does**, event by event. -/
theorem step_facts (h : step x settings w event = some w') : StepFacts x settings w event w' := by
  cases event <;> simp only [step] at h
  case start =>
    split at h
    · unfold openWorker at h
      split at h
      · cases h
        exact .of_plain (.restarted (Or.inr rfl)) (Or.inl rfl) (by trivial)
      · rename_i hsaved
        split at h
        · cases h
        · cases h
          exact .of_plain (.restarted (Or.inl hsaved)) (Or.inl rfl) (by trivial)
    · cases h
  case crash =>
    split at h <;> cases h
    exact .turn (by trivial)
  case read ok =>
    split at h <;> cases h
    cases ok
    · exact .turn plain_failed
    · exact publishPending_facts
  case post =>
    split at h <;> cases h
    exact .of_plain .same (Or.inl rfl) (by trivial)
  case answer ok =>
    split at h <;> cases h
    rename_i todo _ hphase
    cases ok
    · exact .of_plain .rejected (Or.inl rfl) plain_failed
    · cases todo
      · exact .of_plain (.acknowledged hphase) (Or.inl rfl) (by trivial)
      · exact .of_plain .same (Or.inl rfl) (by trivial)
  case arrive line =>
    split at h <;> cases h
    exact ⟨.same, Or.inl rfl, fun _ => Or.inl, fun _ _ => Or.inl⟩
  case write outcome => exact written_facts h
  case schedule now =>
    split at h
    · split at h <;> cases h
      rename_i hnow
      exact .of_plain (.scheduled hnow) (Or.inl rfl) (by trivial)
    · cases h
  case unclocked =>
    split at h <;> cases h
    exact .turn plain_failed
  case request =>
    split at h <;> cases h
    · exact .turn (Or.inl rfl)
    · exact .of_plain .same (Or.inl rfl) (by trivial)
  case collected reads =>
    split at h <;> cases h
    rename_i hphase
    exact collect_facts hphase reads
  case wake =>
    split at h <;> cases h
    exact .turn (by trivial)
  case timeout =>
    split at h <;> cases h
    exact .turn (Or.inr (Or.inr rfl))
  case report now outcome =>
    split at h
    · rename_i error hphase
      split at h <;> cases h
      rename_i hnow
      cases outcome
      · exact .of_plain (.reported hphase hnow) (Or.inr rfl) (by trivial)
      · exact .of_plain (.reported hphase hnow) (Or.inl rfl) (by trivial)
      · exact .of_plain (.reported hphase hnow) (Or.inr rfl) (by trivial)
    · cases h
  case begin_ =>
    split at h <;> cases h
    exact .turn (by trivial)

end

/-! ## Statuses -/

/-- A line takes at least its newline. -/
theorem length_le_total : ∀ lines : List Text, lines.length ≤ Packing.total endedLen lines
  | [] => Nat.le_refl _
  | line :: lines => by
    have ih := length_le_total lines
    have hline : 1 ≤ endedLen line := by
      unfold endedLen ended
      rw [byteLen_append]
      exact Nat.le_add_left 1 _
    rw [Packing.total, List.length_cons]
    omega

/-- No publication has more lines than its batches have bytes. -/
theorem records_le {x : Crates} {identity : Identity} {snapshot : TrafficSnapshot} {publication : Publication}
    (h : build x identity snapshot = .ok publication) : publication.records ≤ MAX_BATCHES * MAX_BATCH_BYTES := by
  obtain ⟨-, lines, -, hshort, hcount, rfl⟩ := build_eq_ok.1 h
  have hfit : ∀ line ∈ lines, endedLen line ≤ MAX_BATCH_BYTES := fun line hl => Nat.le_trans (hshort line hl) (by decide)
  have hgroups : ∀ group ∈ Packing.pack MAX_BATCH_BYTES endedLen [] lines, group.length ≤ MAX_BATCH_BYTES := fun group hg =>
    Nat.le_trans (length_le_total group) (Packing.total_le_of_mem_pack hfit (Nat.zero_le _) hg)
  have hflat : (Packing.pack MAX_BATCH_BYTES endedLen [] lines).flatten.length = lines.length := by
    rw [Packing.flatten_pack, List.nil_append]
  have hlength : ∀ groups : List (List Text), (∀ group ∈ groups, group.length ≤ MAX_BATCH_BYTES) →
      groups.flatten.length ≤ groups.length * MAX_BATCH_BYTES := by
    intro groups hgroups
    induction groups with
    | nil => exact Nat.zero_le _
    | cons group groups ih =>
      have hrest := ih fun group hg => hgroups group (List.mem_cons_of_mem _ hg)
      have hfirst := hgroups group List.mem_cons_self
      rw [List.flatten_cons, List.length_append, List.length_cons, Nat.add_mul, Nat.one_mul]
      omega
  have hle := hlength _ hgroups
  rw [hflat] at hle
  exact Nat.le_trans hle (Nat.mul_le_mul_right _ hcount)

/-- What every status of a run is like. -/
structure StatusFits (settings : CollectionSettings) (status : Status) : Prop where
  binding : status.binding = settings.binding
  numeric : Numeric status
  error : ∀ error ∈ status.error, error.length ≤ 64

theorem fits_fresh (settings : CollectionSettings) : StatusFits settings (.fresh settings.binding) where
  binding := rfl
  numeric := ⟨nofun, nofun, Nat.zero_le _, nofun, Nat.zero_le _, nofun, Nat.zero_le _, nofun⟩
  error := nofun

theorem laterOf_le {before : Option Nat} {time bound : Nat} (hbefore : ∀ t ∈ before, t ≤ bound) (htime : time ≤ bound) :
    ∀ t ∈ laterOf before time, t ≤ bound := by
  rintro _ ⟨⟩
  cases before with
  | none => exact Nat.max_le.2 ⟨Nat.zero_le _, htime⟩
  | some t => exact Nat.max_le.2 ⟨hbefore t rfl, htime⟩

section
variable {settings : CollectionSettings} {status : Status}

theorem Windowed.numeric {intervals : SortedMap Nat Bool} (h : Windowed settings intervals) :
    ∀ entry ∈ intervals.entries, entry.1 ≤ MAX_U64 := fun _ hentry =>
  Nat.le_trans (Nat.le_add_right _ HOUR) (h.hour (List.mem_map_of_mem hentry)).2

theorem counted_fits (h : StatusFits settings status) {gaps : Nat} (hgaps : gaps ≤ MAX_U64) {intervals : SortedMap Nat Bool}
    (hintervals : Windowed settings intervals) : StatusFits settings (status.counted gaps intervals) :=
  ⟨h.binding, { h.numeric with intervals := hintervals.numeric, expiredGaps := hgaps }, h.error⟩

theorem schedule_fits (h : StatusFits settings status) {now : Nat}
    (hwindowed : Windowed settings (schedule settings status now).1.intervals) :
    StatusFits settings (schedule settings status now).1 := by
  rw [schedule_status] at hwindowed ⊢
  exact counted_fits h (wrappingU64_le _) hwindowed

theorem acknowledge_fits (h : StatusFits settings status) (hwindowed : Windowed settings status.intervals)
    {snapshot : TrafficSnapshot} (hmem : snapshot.startMs ∈ status.intervals.keys) {records : Nat}
    (hrecords : records ≤ MAX_BATCHES * MAX_BATCH_BYTES) : StatusFits settings (acknowledge status snapshot records) := by
  have htime : snapshot.startMs ≤ MAX_U64 := Nat.le_trans (Nat.le_add_right _ _) (hwindowed.hour hmem).2
  refine ⟨h.binding, ⟨?_, laterOf_le h.numeric.lastPublished htime, h.numeric.updatedMs, h.numeric.lagMs,
    Nat.le_trans hrecords (by decide), (acknowledge_windowed hwindowed hmem records).numeric, ?_, ?_⟩, ?_⟩
  · unfold acknowledge
    dsimp only
    split
    · exact laterOf_le h.numeric.lastCollected htime
    · exact h.numeric.lastCollected
  · rw [(acknowledge_of_mem hwindowed hmem records).2]
    exact h.numeric.expiredGaps
  · rintro _ ⟨⟩
    exact htime
  · unfold acknowledge
    dsimp only
    split
    · exact nofun
    · rintro _ ⟨⟩
      decide

theorem reported_fits (h : StatusFits settings status) {error : Option Text} (herror : Known error) {now : Nat} (hnow : now ≤ MAX_U64) :
    StatusFits settings { status with
      error := error.or status.error
      updatedMs := now
      lagMs := status.lastPublishedInterval.map fun time => now - (time + HOUR) } := by
  refine ⟨h.binding, { h.numeric with updatedMs := hnow, lagMs := ?_ }, ?_⟩
  · intro lag hlag
    obtain ⟨time, -, rfl⟩ := Option.map_eq_some_iff.1 hlag
    exact Nat.le_trans (Nat.sub_le _ _) hnow
  · rcases herror with rfl | rfl | rfl
    · exact h.error
    · rintro _ ⟨⟩
      decide
    · rintro _ ⟨⟩
      decide

/-- **A status is read back**, within the bounds of the reader. -/
theorem StatusFits.readable (h : StatusFits settings status) (hwindowed : Windowed settings status.intervals)
    (hbinding : settings.binding.length ≤ 64) :
    readStatus status.toVec = some status ∧ status.toVec.length ≤ 128 * 1024 ∧ status.binding = settings.binding ∧
      status.intervals.length ≤ 168 :=
  ⟨readStatus_toVec h.numeric, length_statusVec h.numeric (h.binding ▸ hbinding) h.error hwindowed.length_le, h.binding,
    hwindowed.length_le⟩

end

/-! ## What is on disk in every state -/

/-- What is being published. -/
def Phase.publication : Phase → Option (TrafficSnapshot × Publication)
  | .sending snapshot publication _ _ | .awaiting snapshot publication _ _ _ => some (snapshot, publication)
  | _ => none

structure Durable (x : Crates) (settings : CollectionSettings) (w : World) : Prop where
  timely : Timely settings w
  memory : StatusFits settings w.status
  saved : ∀ status, w.saved = some status → StatusFits settings status
  /-- What was stored can be restored. -/
  stored : ∀ original, .stored original ∈ w.log → ∃ publication, Restores x settings.identity original publication
  pending : ∀ snapshot, w.pending = some snapshot → ∃ original, .stored original ∈ w.log ∧ snapshot = reread original
  publication : ∀ snapshot publication, w.phase.publication = some (snapshot, publication) →
    build x settings.identity snapshot = .ok publication
  storing : ∀ snapshot rest, w.phase = .storing snapshot rest → ∃ publication, Restores x settings.identity snapshot publication
  reporting : ∀ error, w.phase = .reporting error → Known error

section
variable {x : Crates} {settings : CollectionSettings} {w w' : World} {event : Event}

/-- Nothing leaves the log. -/
theorem log_grows (h : Move x settings w w') : ∀ entry ∈ w.log, entry ∈ w'.log := by
  intro entry hentry
  cases h with
  | turns | posts | answered | rejected | arrives | clears => exact hentry
  | restarts | saves | acknowledges | schedules | selects | stores => exact List.mem_cons_of_mem _ hentry
  | reports _ hsaved =>
    rcases hsaved with ⟨-, rfl⟩ | ⟨-, rfl⟩
    · exact hentry
    · exact List.mem_cons_of_mem _ hentry

theorem stored_of_move (h : Move x settings w w') {snapshot : TrafficSnapshot} (hstored : .stored snapshot ∈ w'.log) :
    .stored snapshot ∈ w.log ∨ ∃ rest, w.phase = .storing snapshot rest := by
  cases h with
  | turns | posts | answered | rejected | arrives | clears => exact Or.inl hstored
  | restarts | saves | acknowledges | schedules | selects => exact Or.inl (List.mem_of_ne_of_mem (by nofun) hstored)
  | stores hphase =>
    rcases List.mem_cons.1 hstored with heq | hstored
    · cases heq
      exact Or.inr ⟨_, hphase⟩
    · exact Or.inl hstored
  | reports _ hsaved =>
    rcases hsaved with ⟨-, rfl⟩ | ⟨-, rfl⟩
    · exact Or.inl hstored
    · exact Or.inl (List.mem_of_ne_of_mem (by nofun) hstored)

theorem pending_of_move (h : Move x settings w w') {snapshot : TrafficSnapshot} (hpending : w'.pending = some snapshot) :
    w.pending = some snapshot ∨ ∃ original, .stored original ∈ w'.log ∧ snapshot = reread original := by
  cases h with
  | restarts | turns | saves | posts | answered | acknowledges | rejected | arrives | schedules | selects | reports =>
    exact Or.inl hpending
  | clears => cases hpending
  | stores =>
    cases hpending
    exact Or.inr ⟨_, List.mem_cons_self, rfl⟩

theorem Turn.publication {before next : Phase} (h : Turn x settings w before next) {snapshot : TrafficSnapshot}
    {publication : Publication} (hpublication : next.publication = some (snapshot, publication)) :
    build x settings.identity snapshot = .ok publication := by
  cases h with
  | crashed | ended | collected | woken | begun => cases hpublication
  | @nothing resume => cases resume <;> cases hpublication
  | sends _ hbuild =>
    cases hpublication
    exact hbuild

theorem Saves.publication {before next : Phase} (h : Saves before next) : next.publication = none := by
  cases h <;> rfl

theorem publication_of_move (h : Move x settings w w') {snapshot : TrafficSnapshot} {publication : Publication}
    (hpublication : w'.phase.publication = some (snapshot, publication)) :
    w.phase.publication = some (snapshot, publication) ∨ build x settings.identity snapshot = .ok publication := by
  cases h with
  | restarts | acknowledges | rejected | schedules | selects | reports => cases hpublication
  | turns hturn => exact Or.inr (hturn.publication hpublication)
  | @saves next hsave =>
    have hpublication : next.publication = some (snapshot, publication) := hpublication
    rw [hsave.publication] at hpublication
    cases hpublication
  | posts hphase | answered hphase =>
    rw [hphase]
    exact Or.inl hpublication
  | arrives => exact Or.inl hpublication
  | @clears resume next _ hnext =>
    have hpublication : next.publication = some (snapshot, publication) := hpublication
    rcases hnext with rfl | ⟨error, rfl⟩
    · cases resume <;> cases hpublication
    · cases hpublication
  | @stores _ _ _ next _ hnext =>
    have hpublication : next.publication = some (snapshot, publication) := hpublication
    rcases hnext with rfl | ⟨error, rfl⟩ <;> cases hpublication

/-- **The status behind a step fits.** -/
theorem StatusStep.fits (h : Durable x settings w) {status : Status} (hwindowed : Windowed settings status.intervals)
    (hs : StatusStep settings w status) : StatusFits settings status := by
  cases hs with
  | same => exact h.memory
  | restarted hsaved =>
    rcases hsaved with hsaved | rfl
    · exact h.saved _ hsaved
    · exact fits_fresh settings
  | rejected => exact ⟨h.memory.binding, { h.memory.numeric with }, h.memory.error⟩
  | acknowledged hphase =>
    have hrecords := records_le (h.publication _ _ (by rw [hphase]; rfl))
    exact acknowledge_fits h.memory h.timely.memory (h.timely.publishing hphase).1 hrecords
  | scheduled => exact schedule_fits h.memory hwindowed
  | @stored snapshot rest last hphase hlast =>
    have hcover : Covered w snapshot.startMs := h.timely.hourly.current _ (by rw [hphase]; rfl)
    have htime := Nat.le_trans (Nat.le_add_right _ _) (h.timely.memory.hour hcover.1).2
    refine ⟨h.memory.binding, { h.memory.numeric with lastCollected := ?_ }, h.memory.error⟩
    rcases hlast with rfl | rfl
    · exact laterOf_le h.memory.numeric.lastCollected htime
    · exact h.memory.numeric.lastCollected
  | reported hphase hnow => exact reported_fits h.memory (h.reporting _ hphase) hnow

/-- **Every step keeps what the files are good for.** -/
theorem durable_step (hnull : RefuseNull x) (h : Durable x settings w) (hreads : ∀ reads, event = .collected reads → Received reads)
    (hstep : step x settings w event = some w') : Durable x settings w' := by
  have hfacts := step_facts hstep
  have hmove := step_move hstep
  have htimely := timely_move h.timely hmove
  have hmemory := hfacts.status.fits h htimely.memory
  refine ⟨htimely, hmemory, fun status hstatus => ?_, fun original hstored => ?_, fun snapshot hpending => ?_,
    fun snapshot publication hpublication => ?_, fun snapshot rest hphase => ?_, fun error hphase => ?_⟩
  · rcases hfacts.saved with hsame | hsaved
    · exact h.saved status (hsame ▸ hstatus)
    · rw [hsaved] at hstatus
      cases hstatus
      exact hmemory
  · rcases stored_of_move hmove hstored with hstored | ⟨rest, hphase⟩
    · exact h.stored original hstored
    · exact h.storing original rest hphase
  · rcases pending_of_move hmove hpending with hpending | hstored
    · obtain ⟨original, hstored, hsame⟩ := h.pending snapshot hpending
      exact ⟨original, log_grows hmove _ hstored, hsame⟩
    · exact hstored
  · exact (publication_of_move hmove hpublication).elim (h.publication _ _) id
  · rcases hfacts.storing snapshot rest hphase with hbefore | ⟨start, reads, publication, hevent, hbefore, hcollect, hbuild⟩
    · exact h.storing snapshot rest hbefore
    · have hcover : Covered w start := h.timely.hourly.current _ (by rw [hbefore]; rfl)
      obtain ⟨haligned, hend⟩ := h.timely.memory.hour hcover.1
      exact ⟨publication, pending_restores hnull (hreads reads hevent) haligned hend hcollect hbuild⟩
  · exact (hfacts.reporting error hphase).elim (h.reporting error) id

theorem durable_empty (x : Crates) (settings : CollectionSettings) : Durable x settings (.empty settings) where
  timely := timely_empty settings
  memory := fits_fresh settings
  saved := fun _ h => (by cases h)
  stored := fun _ h => (by cases h)
  pending := fun _ h => (by cases h)
  publication := fun _ _ h => (by cases h)
  storing := fun _ _ h => (by cases h)
  reporting := fun _ h => (by cases h)

theorem durable_run (hnull : RefuseNull x) {events : List Event} (hreads : ∀ reads, .collected reads ∈ events → Received reads)
    (hrun : (worker x settings).Reaches events w) : Durable x settings w := by
  refine (worker x settings).run_invariant_along (durable_empty x settings)
    (fun s e t hs hreads hstep => durable_step hnull hs hreads hstep)
    ((worker x settings).along_of_forall (C := fun e => ∀ reads, e = .collected reads → Received reads) ?_) hrun
  rintro _ hmem reads rfl
  exact hreads reads hmem

/-- What `publish_pending` makes of a restored snapshot: nothing but the sink is left. -/
theorem publishPending_restores {original : TrafficSnapshot} {publication : Publication} (hpending : w.pending = some (reread original))
    (h : Restores x settings.identity original publication) (resume : Resume) : publishPending x settings w resume =
      { w with phase := .sending (reread original) publication (publication.batches ++ [publication.marker]) resume } := by
  have hchecked : ¬(MAX_ARCHIVE_BYTES < (toVec (reread original)).length ∨ !validPending (reread original)) := by
    rw [h.again.1, h.valid]
    simpa using h.size
  unfold publishPending
  rw [hpending]
  dsimp only
  rw [if_neg hchecked, h.build]

theorem openWorker_fits {status : Status} (hsaved : w.saved = some status) (h : StatusFits settings status)
    (hwindowed : Windowed settings status.intervals) :
    openWorker settings w = some { w with phase := .opening, status, log := .restarted :: w.log } := by
  have hchecked : ¬(status.binding ≠ settings.binding ∨ 168 < status.intervals.length) := by
    simpa [h.binding] using hwindowed.length_le
  unfold openWorker
  rw [hsaved]
  dsimp only
  rw [if_neg hchecked]

/-- **No file of a run holds the worker back.** A snapshot of an aligned hour that can be published is restored
from its file. In every state of a run the pending file is one of these, so that its publication only needs the
sink, and `Worker::new` accepts the status file. -/
theorem durable_state_closed (hx : x.Lawful) (hnull : RefuseNull x) {bytes : Bytes} (hbinding : settings.binding = x.sha256Hex bytes) :
    (∀ start reads snapshot publication, start % HOUR = 0 → start + HOUR ≤ MAX_U64 → Received reads →
      collectTraffic x.reports start (start + HOUR) reads = .ok snapshot →
      build x settings.identity snapshot = .ok publication → Restores x settings.identity snapshot publication) ∧
    ∀ events w, (worker x settings).Reaches events w → (∀ reads, .collected reads ∈ events → Received reads) →
      (∀ pending, w.pending = some pending → ∃ original publication, .stored original ∈ w.log ∧ pending = reread original ∧
        Restores x settings.identity original publication ∧
        ∀ resume, publishPending x settings w resume =
          { w with phase := .sending pending publication (publication.batches ++ [publication.marker]) resume }) ∧
      ∀ status, w.saved = some status → readStatus status.toVec = some status ∧ status.toVec.length ≤ 128 * 1024 ∧
        status.binding = settings.binding ∧ status.intervals.length ≤ 168 ∧
        openWorker settings w = some { w with phase := .opening, status, log := .restarted :: w.log } := by
  refine ⟨fun _ _ _ _ haligned hfits hreads hcollect hbuild => pending_restores hnull hreads haligned hfits hcollect hbuild,
    fun events w hrun hreads => ?_⟩
  have hdurable := durable_run hnull hreads hrun
  have hshort : settings.binding.length ≤ 64 := by
    rw [hbinding, hx.digest_length]
  refine ⟨fun pending hpending => ?_, fun status hsaved => ?_⟩
  · obtain ⟨original, hstored, rfl⟩ := hdurable.pending pending hpending
    obtain ⟨publication, hrestores⟩ := hdurable.stored original hstored
    exact ⟨original, publication, hstored, rfl, hrestores, publishPending_restores hpending hrestores⟩
  · have hfits := hdurable.saved status hsaved
    have hwindowed := hdurable.timely.saved status hsaved
    obtain ⟨hread, hsize, hsame, hlength⟩ := hfits.readable hwindowed hshort
    exact ⟨hread, hsize, hsame, hlength, openWorker_fits hsaved hfits hwindowed⟩

end

/-- The settings of the small run, with their digest. -/
def digestSettings : CollectionSettings :=
  { sampleSettings with binding := sampleCrates.sha256Hex [] }

theorem sampleCrates_refuseNull : RefuseNull sampleCrates := ⟨by decide +kernel, rfl⟩

theorem blankCrates_refuseNull : RefuseNull blankCrates := ⟨sampleCrates_refuseNull.activity, sampleCrates_refuseNull.wan⟩

theorem blankReads_received : Received blankReads := ⟨nofun, nofun, nofun⟩

/-- A crash behind the pending write: the next worker opens, and goes on with what was collected. -/
theorem durable_state_closed_crash : ∃ w, (worker sampleCrates digestSettings).Reaches
    (firstSelection ++ [.collected blankReads, .write .done, .crash]) w ∧
      (∃ publication, ∀ resume, publishPending sampleCrates digestSettings w resume =
        { w with phase := .sending (blankSnapshot 0) publication (publication.batches ++ [publication.marker]) resume }) ∧
      (openWorker digestSettings w).isSome := by
  have hworld : ((worker sampleCrates digestSettings).runFrom (.empty digestSettings)
      (firstSelection ++ [.collected blankReads, .write .done, .crash])).map (fun w => (w.pending, w.saved.isSome)) =
        some (some (blankSnapshot 0), true) := by
    decide +kernel
  obtain ⟨w, hrun, hworld⟩ := Option.map_eq_some_iff.1 hworld
  obtain ⟨hpending, hsaved⟩ := Prod.mk.inj hworld
  obtain ⟨status, hsaved⟩ := Option.isSome_iff_exists.1 hsaved
  have hreads : ∀ reads, .collected reads ∈ firstSelection ++ [.collected blankReads, .write .done, .crash] → Received reads := by
    intro reads hmem
    have hsame : reads = blankReads := by simpa [firstSelection] using hmem
    rw [hsame]
    exact blankReads_received
  obtain ⟨hfile, hstatus⟩ := (@durable_state_closed sampleCrates digestSettings sampleCrates_lawful sampleCrates_refuseNull [] rfl).2
    _ w hrun hreads
  obtain ⟨original, publication, -, -, -, hpublish⟩ := hfile _ hpending
  obtain ⟨-, -, -, -, hopen⟩ := hstatus status hsaved
  exact ⟨w, hrun, ⟨publication, hpublish⟩, by rw [hopen]; rfl⟩

end UnifiMcp.Collector
