import Mathlib.Data.Char
import Mathlib.Data.List.Lex
import UnifiMcp.Lib.Machine
import UnifiMcp.Lib.RoundRobin
import UnifiMcp.Lib.SortedMap
import UnifiMcp.Server.PublicationSound
/-! # The collector worker (unifi-server/src/collector.rs)

One worker, its two files and the sink. Each event is the worker's next step with its outcome, the
end of an await by a timeout, a crash, a restart, or a line of an unacknowledged write that gets to
the sink after all. A file write is done, fails before the rename, or fails behind it.

`pending.json` stands for the snapshot it parses to, `status.json` for its fields. The `log` of a
run, newest entry first, is what the properties speak of; no step reads it. -/
namespace UnifiMcp.Collector
open Text LineProtocol

/-! ## Settings and status -/

/-- `CollectionSettings` (config.rs:7) as `read` accepts them, and the `binding` digest of
`Worker::new`. -/
structure CollectionSettings where
  identity : Identity
  binding : Text
  delayMs : Nat
  historyHours : Nat
  correctionHours : Nat
  intervalsPerCycle : Nat
  delay : delayMs ≤ 86400000
  history : 1 ≤ historyHours ∧ historyHours ≤ 168
  correction : 1 ≤ correctionHours ∧ correctionHours ≤ historyHours
  perCycle : 1 ≤ intervalsPerCycle ∧ intervalsPerCycle ≤ 24

/-- `Status` (collector.rs:30). -/
structure Status where
  binding : Text
  lastCollectedInterval : Option Nat
  lastPublishedInterval : Option Nat
  updatedMs : Nat
  lagMs : Option Nat
  records : Nat
  error : Option Text
  sinkAvailable : Option Bool
  /-- Start time and whether all sources were retrieved and published. -/
  intervals : SortedMap Nat Bool
  expiredGaps : Nat
  cursor : Option Nat

/-- `Status { binding, ..Status::default() }`. -/
def Status.fresh (binding : Text) : Status :=
  ⟨binding, none, none, 0, none, 0, none, none, .empty, 0, none⟩

/-! ## `schedule` -/

def windowEnd (settings : CollectionSettings) (now : Nat) : Nat := (now - settings.delayMs) / HOUR * HOUR

def windowStart (settings : CollectionSettings) (now : Nat) : Nat :=
  windowEnd settings now - settings.historyHours * HOUR

/-- `(start..end).step_by(HOUR)`. -/
def hours (start end_ : Nat) : List Nat :=
  (List.range ((end_ - start + HOUR - 1) / HOUR)).map fun k => start + k * HOUR

/-- `+=` on a `u64` of a release build. -/
def wrappingU64 (n : Nat) : Nat := n % (MAXIMUM_U64 + 1)

theorem wrappingU64_le (n : Nat) : wrappingU64 n ≤ MAXIMUM_U64 := Nat.le_of_lt_succ (Nat.mod_lt _ (Nat.succ_pos _))

/-- Hours that no window covered (collector.rs:171). -/
def skippedGaps (intervals : SortedMap Nat Bool) (start : Nat) : Nat :=
  match intervals.lastKey with
  | none => 0
  | some last => (start - (last + HOUR)) / HOUR

/-- Incomplete hours that leave the window (collector.rs:174). -/
def expiringGaps (intervals : SortedMap Nat Bool) (start : Nat) : Nat :=
  (intervals.entries.filter fun (time, complete) => time < start && !complete).length

/-- The hours of the window, new ones incomplete (collector.rs:180-185). -/
def refill (intervals : SortedMap Nat Bool) (start end_ : Nat) : SortedMap Nat Bool :=
  (hours start end_).foldl (fun m time => m.orInsert time false)
    (intervals.retain fun time => start ≤ time && time < end_)

/-- The hours to collect: incomplete, or from `correctionStart` on (collector.rs:187-193). -/
def candidatesOf (intervals : SortedMap Nat Bool) (correctionStart : Nat) : List Nat :=
  (intervals.entries.filter fun (time, complete) => !complete || correctionStart ≤ time).map Prod.fst

/-- One call of `schedule`: the window, the cursor, all candidates and the chosen ones. -/
structure Call where
  start : Nat
  end_ : Nat
  cursor : Option Nat
  candidates : List Nat
  chosen : List Nat
deriving DecidableEq

def Status.counted (status : Status) (expiredGaps : Nat) (intervals : SortedMap Nat Bool) : Status :=
  { status with expiredGaps, intervals }

@[simp] theorem Status.counted_cursor (status : Status) (expiredGaps : Nat) (intervals : SortedMap Nat Bool) :
    (status.counted expiredGaps intervals).cursor = status.cursor := rfl

@[simp] theorem Status.counted_expiredGaps (status : Status) (expiredGaps : Nat) (intervals : SortedMap Nat Bool) :
    (status.counted expiredGaps intervals).expiredGaps = expiredGaps := rfl

@[simp] theorem Status.counted_intervals (status : Status) (expiredGaps : Nat) (intervals : SortedMap Nat Bool) :
    (status.counted expiredGaps intervals).intervals = intervals := rfl

/-- `schedule` (collector.rs:165): the status it leaves, and the call. -/
def schedule (settings : CollectionSettings) (status : Status) (now : Nat) : Status × Call :=
  let end_ := windowEnd settings now
  let start := windowStart settings now
  let expiredGaps :=
    wrappingU64 (status.expiredGaps + skippedGaps status.intervals start + expiringGaps status.intervals start)
  let intervals := refill status.intervals start end_
  let candidates := candidatesOf intervals (end_ - settings.correctionHours * HOUR)
  (status.counted expiredGaps intervals,
    ⟨start, end_, status.cursor, candidates,
      (RoundRobin.rotate status.cursor candidates).take settings.intervalsPerCycle⟩)

theorem schedule_status (settings : CollectionSettings) (status : Status) (now : Nat) :
    (schedule settings status now).1 = status.counted
      (wrappingU64 (status.expiredGaps + skippedGaps status.intervals (windowStart settings now) +
        expiringGaps status.intervals (windowStart settings now)))
      (refill status.intervals (windowStart settings now) (windowEnd settings now)) := rfl

/-! ## The acknowledgement -/

/-- `while self.status.intervals.len() > 168` (collector.rs:236), as often as there are entries too
many. -/
def evict : Nat → SortedMap Nat Bool → Nat → SortedMap Nat Bool × Nat
  | 0, intervals, gaps => (intervals, gaps)
  | n + 1, intervals, gaps =>
    match intervals.popFirst with
    | none => (intervals, gaps)
    | some ((_, complete), rest) => evict n rest (if complete then gaps else wrappingU64 (gaps + 1))

/-- The later of a time and one before. -/
def laterOf (before : Option Nat) (time : Nat) : Option Nat := some (max (before.getD 0) time)

/-- `publish_pending` behind the last 204 (collector.rs:218-248). -/
def acknowledge (status : Status) (snapshot : TrafficSnapshot) (records : Nat) : Status :=
  let intervals := status.intervals.insert snapshot.startMs snapshot.collected
  let evicted := evict (intervals.length - 168) intervals status.expiredGaps
  { status with
    sinkAvailable := some true
    lastPublishedInterval := laterOf status.lastPublishedInterval snapshot.startMs
    records
    intervals := evicted.1
    lastCollectedInterval :=
      if snapshot.collected then laterOf status.lastCollectedInterval snapshot.startMs
      else status.lastCollectedInterval
    expiredGaps := evicted.2
    cursor := some snapshot.startMs
    error := if snapshot.collected then none else some "source_incomplete".toList }

/-! ## The snapshot on disk -/

/-- Reading a source back: raw data `null` is absent data. -/
def SourceReport.reread (source : SourceReport) : SourceReport :=
  { source with data := source.data.filter (· ≠ "null".toList) }

/-- `from_slice` of `to_vec` of a snapshot. -/
def reread (snapshot : TrafficSnapshot) : TrafficSnapshot :=
  { snapshot with
    activity := SourceReport.reread snapshot.activity
    graph := SourceReport.reread snapshot.graph
    wan := SourceReport.reread snapshot.wan }

/-- The check of a pending snapshot (collector.rs:211). -/
def validPending (snapshot : TrafficSnapshot) : Bool :=
  snapshot.startMs + HOUR == snapshot.endMs && snapshot.startMs % HOUR == 0

/-! ## The machine -/

/-- What a file operation ends in. -/
inductive Outcome where
  | done
  /-- An error; the file is as it was. -/
  | failed
  /-- An error behind the rename or the removal. -/
  | unsynced
deriving DecidableEq

/-- Where `publish_pending` returns to. -/
inductive Resume where
  | schedule
  | pause (rest : List Nat)

/-- The place in `Worker::new`, `cycle` and `run` that the worker has reached. -/
inductive Phase where
  | down
  /-- `worker.save()` of `Worker::new`. -/
  | opening
  | publishing (resume : Resume)
  /-- Writes to post, the marker last. -/
  | sending (snapshot : TrafficSnapshot) (publication : Publication) (todo : List Text) (resume : Resume)
  | awaiting (snapshot : TrafficSnapshot) (publication : Publication) (body : Text) (todo : List Text)
      (resume : Resume)
  /-- `self.save()` behind an acknowledgement. -/
  | checkpoint (resume : Resume)
  /-- `remove_file` of the pending snapshot. -/
  | clearing (resume : Resume)
  | scheduling
  | savingSchedule (candidates : List Nat)
  /-- The head of the loop over the candidates. -/
  | looping (candidates : List Nat)
  | reading (start : Nat) (rest : List Nat)
  /-- `atomic_write` of the pending snapshot. -/
  | storing (snapshot : TrafficSnapshot) (rest : List Nat)
  | savingCollected (rest : List Nat)
  | pausing (rest : List Nat)
  /-- The cycle is over, with an error or not. -/
  | reporting (error : Option Text)
  | resting

inductive Event where
  | start
  | crash
  /-- `read_bounded` of `pending.json` succeeds or not. -/
  | read (ok : Bool)
  | post
  /-- The sink answers 204, or anything else. -/
  | answer (acknowledged : Bool)
  /-- A line of a write without a 204 is ingested. -/
  | arrive (line : Text)
  | write (outcome : Outcome)
  | schedule (now : Nat)
  /-- `now_ms` of a cycle fails. -/
  | unclocked
  /-- The loop takes its next candidate, or ends. -/
  | request
  | collected (reads : SourceReads)
  | wake
  | timeout
  | report (now : Nat) (outcome : Outcome)
  | begin_

inductive Entry where
  | scheduled (call : Call)
  | selected (start : Nat)
  /-- The snapshot is in `pending.json`. -/
  | stored (snapshot : TrafficSnapshot)
  | acknowledged (start : Nat) (complete : Bool)
  /-- The status is in `status.json`. -/
  | saved
  | restarted
deriving DecidableEq

structure World where
  phase : Phase
  /-- The status in the worker's memory. -/
  status : Status
  /-- `status.json`. -/
  saved : Option Status
  /-- `pending.json`. -/
  pending : Option TrafficSnapshot
  sink : List Point
  /-- Lines of writes that may be ingested without a 204. -/
  lost : List Text
  /-- The time that was read last; it may go either way. -/
  clock : Nat
  log : List Entry

/-- The empty state: no file, nothing in the sink. -/
def World.empty (settings : CollectionSettings) : World :=
  ⟨.down, .fresh settings.binding, none, none, [], [], 0, []⟩

def COLLECTION_OR_PUBLICATION_FAILED : Text := "collection_or_publication_failed".toList

def CYCLE_TIMEOUT : Text := "cycle_timeout".toList

/-- The cycle returns an error. -/
def World.fail (w : World) : World := { w with phase := .reporting (some COLLECTION_OR_PUBLICATION_FAILED) }

/-- `publish_pending` returns. -/
def Resume.phase : Resume → Phase
  | .schedule => .scheduling
  | .pause rest => .pausing rest

/-- The status is written to `status.json`. -/
def World.save (w : World) : World := { w with saved := some w.status, log := .saved :: w.log }

/-- A save whose success leads to `next`; an error ends the cycle. -/
def World.saveThen (w : World) (next : Phase) : Outcome → World
  | .done => { w.save with phase := next }
  | .failed => w.fail
  | .unsynced => w.save.fail

/-- `Worker::new` up to its save (collector.rs:123-157). -/
def openWorker (settings : CollectionSettings) (w : World) : Option World :=
  match w.saved with
  | none =>
    some { w with phase := .opening, status := .fresh settings.binding, log := .restarted :: w.log }
  | some status =>
    if status.binding ≠ settings.binding ∨ 168 < status.intervals.length then none
    else some { w with phase := .opening, status, log := .restarted :: w.log }

/-- `publish_pending` up to its first write (collector.rs:203-214). -/
def publishPending (x : Crates) (settings : CollectionSettings) (w : World) (resume : Resume) : World :=
  match w.pending with
  | none => { w with phase := resume.phase }
  | some snapshot =>
    if MAX_ARCHIVE_BYTES < (toVec snapshot).length ∨ !validPending snapshot then w.fail
    else match build x settings.identity snapshot with
      | .error _ => w.fail
      | .ok publication =>
        { w with phase := .sending snapshot publication (publication.batches ++ [publication.marker]) resume }

/-- A 204 for `body`. -/
def acknowledged (w : World) (snapshot : TrafficSnapshot) (publication : Publication) (body : Text)
    (todo : List Text) (resume : Resume) : World :=
  let w := { w with sink := ingest w.sink (readLines body) }
  match todo with
  | [] =>
    { w with
      phase := .checkpoint resume
      status := acknowledge w.status snapshot publication.records
      log := .acknowledged snapshot.startMs snapshot.collected :: w.log }
  | _ :: _ => { w with phase := .sending snapshot publication todo resume }

/-- The snapshot is in `pending.json`. -/
def World.store (w : World) (snapshot : TrafficSnapshot) : World :=
  { w with pending := some (reread snapshot), log := .stored snapshot :: w.log }

/-- The trial `build` of what `collect_traffic` returned (collector.rs:261-269). -/
def tryBuild (x : Crates) (settings : CollectionSettings) (w : World) (rest : List Nat) :
    Except ApiError TrafficSnapshot → World
  | .error _ => w.fail
  | .ok snapshot =>
    match build x settings.identity snapshot with
    | .error _ => w.fail
    | .ok _ => { w with phase := .storing snapshot rest }

/-- `collect_traffic` for the hour of `start`. -/
def collect (x : Crates) (settings : CollectionSettings) (w : World) (start : Nat) (rest : List Nat)
    (reads : SourceReads) : World :=
  tryBuild x settings w rest (collectTraffic x.reports start (start + HOUR) reads)

/-- `run` behind a cycle (collector.rs:293-310); where `now_ms` fails, `now` is the time of the last report. -/
def report (w : World) (error : Option Text) (now : Nat) (outcome : Outcome) : World :=
  let status := { w.status with
    error := error.or w.status.error
    updatedMs := now
    lagMs := w.status.lastPublishedInterval.map fun time => now - (time + HOUR) }
  let w := { w with status, clock := now }
  match outcome with
  | .failed => { w with phase := .resting }
  | .done | .unsynced => { w.save with phase := .resting }

/-- A file operation of the worker ends. -/
def written (w : World) (outcome : Outcome) : Option World :=
  match w.phase with
  | .opening =>
    match outcome with
    | .done => some { w.save with phase := .publishing .schedule }
    | .failed => some { w with phase := .down }
    | .unsynced => some { w.save with phase := .down }
  | .checkpoint resume => some (w.saveThen (.clearing resume) outcome)
  | .clearing resume =>
    match outcome with
    | .done => some { w with pending := none, phase := resume.phase }
    | .failed => some w.fail
    | .unsynced => some { w with pending := none }.fail
  | .savingSchedule candidates => some (w.saveThen (.looping candidates) outcome)
  | .storing snapshot rest =>
    match outcome with
    | .done =>
      let lastCollectedInterval :=
        if snapshot.collected then laterOf w.status.lastCollectedInterval snapshot.startMs
        else w.status.lastCollectedInterval
      some { w.store snapshot with status := { w.status with lastCollectedInterval }, phase := .savingCollected rest }
    | .failed => some w.fail
    | .unsynced => some (w.store snapshot).fail
  | .savingCollected rest => some (w.saveThen (.publishing (.pause rest)) outcome)
  | _ => none

/-- The phases in which the worker awaits something inside a cycle. -/
def Phase.awaits : Phase → Bool
  | .awaiting .. | .reading .. | .pausing .. => true
  | _ => false

def step (x : Crates) (settings : CollectionSettings) (w : World) : Event → Option World
  | .start =>
    match w.phase with
    | .down => openWorker settings w
    | _ => none
  | .crash =>
    match w.phase with
    | .down => none
    | _ => some { w with phase := .down }
  | .read ok =>
    match w.phase with
    | .publishing resume => some (if ok then publishPending x settings w resume else w.fail)
    | _ => none
  | .post =>
    match w.phase with
    | .sending snapshot publication (body :: todo) resume =>
      some { w with phase := .awaiting snapshot publication body todo resume, lost := readLines body ++ w.lost }
    | _ => none
  | .answer ok =>
    match w.phase with
    | .awaiting snapshot publication body todo resume =>
      some (if ok then Collector.acknowledged w snapshot publication body todo resume
        else { w with status := { w.status with sinkAvailable := some false } }.fail)
    | _ => none
  | .arrive line => if line ∈ w.lost then some { w with sink := ingest w.sink [line] } else none
  | .write outcome => written w outcome
  | .schedule now =>
    match w.phase with
    | .scheduling =>
      if now ≤ MAXIMUM_U64 then
        let (status, call) := Collector.schedule settings w.status now
        some { w with phase := .savingSchedule call.chosen, status, clock := now, log := .scheduled call :: w.log }
      else none
    | _ => none
  | .unclocked =>
    match w.phase with
    | .scheduling => some w.fail
    | _ => none
  | .request =>
    match w.phase with
    | .looping [] => some { w with phase := .reporting none }
    | .looping (start :: rest) => some { w with phase := .reading start rest, log := .selected start :: w.log }
    | _ => none
  | .collected reads =>
    match w.phase with
    | .reading start rest => some (collect x settings w start rest reads)
    | _ => none
  | .wake =>
    match w.phase with
    | .pausing rest => some { w with phase := .looping rest }
    | _ => none
  | .timeout => if w.phase.awaits then some { w with phase := .reporting (some CYCLE_TIMEOUT) } else none
  | .report now outcome =>
    match w.phase with
    | .reporting error =>
      if now ≤ MAXIMUM_U64 then some (Collector.report w error now outcome) else none
    | _ => none
  | .begin_ =>
    match w.phase with
    | .resting => some { w with phase := .publishing .schedule }
    | _ => none

/-- The worker of a run from the empty state. -/
def worker (x : Crates) (settings : CollectionSettings) : Machine World Event := ⟨.empty settings, step x settings⟩

/-! ## What a step does -/

section
variable (x : Crates) (settings : CollectionSettings) (w : World)

/-- Changes of the phase alone. -/
inductive Turn : Phase → Phase → Prop where
  | crashed {before : Phase} : Turn before .down
  /-- An error, a timeout, or the end of the loop. -/
  | ended {before : Phase} {error : Option Text} : Turn before (.reporting error)
  | nothing {resume : Resume} (hpending : w.pending = none) : Turn (.publishing resume) resume.phase
  | sends {snapshot : TrafficSnapshot} {publication : Publication} {resume : Resume}
      (hpending : w.pending = some snapshot) (hbuild : build x settings.identity snapshot = .ok publication) :
      Turn (.publishing resume)
        (.sending snapshot publication (publication.batches ++ [publication.marker]) resume)
  | collected {start : Nat} {rest : List Nat} {reads : SourceReads} {snapshot : TrafficSnapshot}
      {publication : Publication} (hcollect : collectTraffic x.reports start (start + HOUR) reads = .ok snapshot)
      (hbuild : build x settings.identity snapshot = .ok publication) :
      Turn (.reading start rest) (.storing snapshot rest)
  | woken {rest : List Nat} : Turn (.pausing rest) (.looping rest)
  | begun : Turn .resting (.publishing .schedule)

/-- The phases around a save that went through. -/
inductive Saves : Phase → Phase → Prop where
  | opened : Saves .opening (.publishing .schedule)
  | published {resume : Resume} : Saves (.checkpoint resume) (.clearing resume)
  | scheduled {candidates : List Nat} : Saves (.savingSchedule candidates) (.looping candidates)
  | collected {rest : List Nat} : Saves (.savingCollected rest) (.publishing (.pause rest))
  | closed {before : Phase} : Saves before .down
  | ended {before : Phase} {error : Option Text} : Saves before (.reporting error)

/-- What one step makes of a world. -/
inductive Move : World → Prop where
  | restarts {status : Status} (hphase : w.phase = .down)
      (hsaved : w.saved = some status ∨ w.saved = none ∧ status = .fresh settings.binding) :
      Move { w with phase := .opening, status, log := .restarted :: w.log }
  | turns {next : Phase} (h : Turn x settings w w.phase next) : Move { w with phase := next }
  | saves {next : Phase} (h : Saves w.phase next) : Move { w.save with phase := next }
  | posts {snapshot : TrafficSnapshot} {publication : Publication} {body : Text} {todo : List Text} {resume : Resume}
      (hphase : w.phase = .sending snapshot publication (body :: todo) resume) :
      Move { w with phase := .awaiting snapshot publication body todo resume, lost := readLines body ++ w.lost }
  | answered {snapshot : TrafficSnapshot} {publication : Publication} {body next : Text} {todo : List Text}
      {resume : Resume} (hphase : w.phase = .awaiting snapshot publication body (next :: todo) resume) :
      Move { w with
        phase := .sending snapshot publication (next :: todo) resume, sink := ingest w.sink (readLines body) }
  | acknowledges {snapshot : TrafficSnapshot} {publication : Publication} {body : Text} {resume : Resume}
      (hphase : w.phase = .awaiting snapshot publication body [] resume) :
      Move { w with
        phase := .checkpoint resume
        sink := ingest w.sink (readLines body)
        status := acknowledge w.status snapshot publication.records
        log := .acknowledged snapshot.startMs snapshot.collected :: w.log }
  | rejected {error : Option Text} :
      Move { w with phase := .reporting error, status := { w.status with sinkAvailable := some false } }
  | arrives {line : Text} (hlost : line ∈ w.lost) : Move { w with sink := ingest w.sink [line] }
  | clears {resume : Resume} {next : Phase} (hphase : w.phase = .clearing resume)
      (hnext : next = resume.phase ∨ ∃ error, next = .reporting error) :
      Move { w with pending := none, phase := next }
  | schedules {now : Nat} (hphase : w.phase = .scheduling) (hnow : now ≤ MAXIMUM_U64) :
      Move { w with
        phase := .savingSchedule (schedule settings w.status now).2.chosen
        status := (schedule settings w.status now).1
        clock := now
        log := .scheduled (schedule settings w.status now).2 :: w.log }
  | selects {start : Nat} {rest : List Nat} (hphase : w.phase = .looping (start :: rest)) :
      Move { w with phase := .reading start rest, log := .selected start :: w.log }
  | stores {snapshot : TrafficSnapshot} {rest : List Nat} {lastCollectedInterval : Option Nat} {next : Phase}
      (hphase : w.phase = .storing snapshot rest)
      (hnext : next = .savingCollected rest ∨ ∃ error, next = .reporting error) :
      Move { w.store snapshot with status := { w.status with lastCollectedInterval }, phase := next }
  | reports {status : Status} {saved : Option Status} {log : List Entry} {now : Nat}
      (hstatus : status.intervals = w.status.intervals ∧ status.expiredGaps = w.status.expiredGaps ∧
        status.cursor = w.status.cursor)
      (hsaved : saved = w.saved ∧ log = w.log ∨ saved = some status ∧ log = .saved :: w.log) :
      Move { w with status, saved, log, clock := now, phase := .resting }

end

section
variable {x : Crates} {settings : CollectionSettings} {w w' : World}

theorem saveThen_move {next : Phase} (h : Saves w.phase next) (outcome : Outcome) :
    Move x settings w (w.saveThen next outcome) := by
  cases outcome with
  | done => exact .saves h
  | failed => exact .turns .ended
  | unsynced => exact .saves .ended

theorem openWorker_move (hphase : w.phase = .down) (h : openWorker settings w = some w') : Move x settings w w' := by
  unfold openWorker at h
  split at h
  · rename_i hsaved
    cases h
    exact .restarts hphase (Or.inr ⟨hsaved, rfl⟩)
  · rename_i hsaved
    split at h
    · cases h
    · cases h
      exact .restarts hphase (Or.inl hsaved)

theorem publishPending_move {resume : Resume} (hphase : w.phase = .publishing resume) :
    Move x settings w (publishPending x settings w resume) := by
  unfold publishPending
  split
  · rename_i hpending
    exact .turns (by rw [hphase]; exact .nothing hpending)
  · rename_i hpending
    split
    · exact .turns .ended
    · split
      · exact .turns .ended
      · rename_i hbuild
        exact .turns (by rw [hphase]; exact .sends hpending hbuild)

theorem collect_move {start : Nat} {rest : List Nat} (hphase : w.phase = .reading start rest) (reads : SourceReads) :
    Move x settings w (collect x settings w start rest reads) := by
  unfold collect
  cases hcollect : collectTraffic x.reports start (start + HOUR) reads with
  | error error => exact .turns .ended
  | ok snapshot =>
    unfold tryBuild
    dsimp only
    split
    · exact .turns .ended
    · rename_i hbuild
      exact .turns (by rw [hphase]; exact .collected hcollect hbuild)

/-- A read that can be published goes on to the pending write. -/
theorem collected_step {start : Nat} {rest : List Nat} {reads : SourceReads} {snapshot : TrafficSnapshot}
    {p : Publication} (hphase : w.phase = .reading start rest)
    (hcollect : collectTraffic x.reports start (start + HOUR) reads = .ok snapshot)
    (hbuild : build x settings.identity snapshot = .ok p) :
    step x settings w (.collected reads) = some { w with phase := .storing snapshot rest } := by
  have hstep : step x settings w (.collected reads) = some (collect x settings w start rest reads) := by
    unfold step
    rw [hphase]
  rw [hstep, collect, hcollect]
  unfold tryBuild
  dsimp only
  rw [hbuild]

theorem written_move {outcome : Outcome} (h : written w outcome = some w') : Move x settings w w' := by
  unfold written at h
  split at h
  · rename_i hphase
    cases outcome <;> cases h
    · exact .saves (by rw [hphase]; exact .opened)
    · exact .turns .crashed
    · exact .saves .closed
  · rename_i hphase
    cases h
    exact saveThen_move (by rw [hphase]; exact .published) outcome
  · rename_i hphase
    cases outcome <;> cases h
    · exact .clears hphase (Or.inl rfl)
    · exact .turns .ended
    · exact .clears hphase (Or.inr ⟨_, rfl⟩)
  · rename_i hphase
    cases h
    exact saveThen_move (by rw [hphase]; exact .scheduled) outcome
  · rename_i hphase
    cases outcome <;> cases h
    · exact .stores hphase (Or.inl rfl)
    · exact .turns .ended
    · exact .stores hphase (Or.inr ⟨_, rfl⟩)
  · rename_i hphase
    cases h
    exact saveThen_move (by rw [hphase]; exact .collected) outcome
  · cases h

/-- **Every step is one of the moves.** -/
theorem step_move {event : Event} (h : step x settings w event = some w') : Move x settings w w' := by
  cases event <;> simp only [step] at h
  case start =>
    split at h
    · rename_i hphase
      exact openWorker_move hphase h
    · cases h
  case crash =>
    split at h <;> cases h
    exact .turns .crashed
  case read ok =>
    split at h <;> cases h
    rename_i hphase
    cases ok
    · exact .turns .ended
    · exact publishPending_move hphase
  case post =>
    split at h <;> cases h
    rename_i hphase
    exact .posts hphase
  case answer ok =>
    split at h <;> cases h
    rename_i todo _ hphase
    cases ok
    · exact .rejected
    · cases todo
      · exact .acknowledges hphase
      · exact .answered hphase
  case arrive line =>
    split at h <;> cases h
    rename_i hlost
    exact .arrives hlost
  case write outcome => exact written_move h
  case schedule now =>
    split at h
    · rename_i hphase
      split at h <;> cases h
      rename_i hnow
      exact .schedules hphase hnow
    · cases h
  case unclocked =>
    split at h <;> cases h
    exact .turns .ended
  case request =>
    split at h <;> cases h
    · exact .turns .ended
    · rename_i hphase
      exact .selects hphase
  case collected reads =>
    split at h <;> cases h
    rename_i hphase
    exact collect_move hphase reads
  case wake =>
    split at h <;> cases h
    rename_i hphase
    exact .turns (by rw [hphase]; exact .woken)
  case timeout =>
    split at h <;> cases h
    exact .turns .ended
  case report now outcome =>
    split at h
    · split at h <;> cases h
      cases outcome
      · exact .reports ⟨rfl, rfl, rfl⟩ (Or.inr ⟨rfl, rfl⟩)
      · exact .reports ⟨rfl, rfl, rfl⟩ (Or.inl ⟨rfl, rfl⟩)
      · exact .reports ⟨rfl, rfl, rfl⟩ (Or.inr ⟨rfl, rfl⟩)
    · cases h
  case begin_ =>
    split at h <;> cases h
    rename_i hphase
    exact .turns (by rw [hphase]; exact .begun)

/-- **Invariant rule**, by moves. -/
theorem worker_invariant {I : World → Prop} (hempty : I (.empty settings))
    (hmove : ∀ w w', I w → Move x settings w w' → I w') {events : List Event}
    (hrun : (worker x settings).Reaches events w) : I w :=
  (worker x settings).run_invariant hempty (fun s _ t hs hstep => hmove s t hs (step_move hstep)) hrun

end

/-! ## Settings and steps of a small run -/

def sampleSettings : CollectionSettings where
  identity := sampleIdentity
  binding := []
  delayMs := 0
  historyHours := 2
  correctionHours := 1
  intervalsPerCycle := 2
  delay := by decide
  history := by decide
  correction := by decide
  perCycle := by decide

/-- No source is recognized. -/
def blankReads : SourceReads := ⟨.ok .unrecognized, .ok .unrecognized, .ok .unrecognized⟩

/-- The snapshot of an hour from them. -/
def blankSnapshot (start : Nat) : TrafficSnapshot :=
  ⟨start, start + HOUR, ⟨.unrecognized, none, none⟩, ⟨.unrecognized, none, none⟩, ⟨.unrecognized, none, none⟩⟩

/-- From nothing to the selection of the first hour of a window of two. -/
def firstSelection : List Event :=
  [.start, .write .done, .read true, .schedule 7200000, .write .done, .request]

/-- From a selected hour to its acknowledgement; the publication has one batch. -/
def blankPublication : List Event :=
  [.collected blankReads, .write .done, .write .done, .read true, .post, .answer true, .post, .answer true,
    .write .done, .write .done, .wake]

/-- SHA-256 of the snapshots of the first two hours from them. -/
def blankCrates : Crates :=
  { sampleCrates with
    sha256Hex := fun bytes =>
      if bytes = toVec (blankSnapshot 0) then "c663a047dc2503a3f7ecd3d263201428291480f43c7d5244d562c8a6d5fba2e7".toList
      else if bytes = toVec (blankSnapshot 3600000) then "197efd84d3c0eadab8217a329bc66c917cff274f3eff6cfc2001b9e7d487e225".toList
      else sampleCrates.sha256Hex bytes }

theorem blankCrates_lawful : blankCrates.Lawful where
  digest_length := fun bytes => by
    unfold blankCrates
    dsimp only
    split_ifs
    · rfl
    · rfl
    · exact sampleCrates_lawful.digest_length bytes
  digest_chars := fun bytes => by
    unfold blankCrates
    dsimp only
    split_ifs
    · exact List.all_eq_true.1 rfl
    · exact List.all_eq_true.1 rfl
    · exact sampleCrates_lawful.digest_chars bytes
  display_chars := sampleCrates_lawful.display_chars
  display_length := sampleCrates_lawful.display_length

/-- The first hour is acknowledged, the worker crashes before it saves that, publishes the hour once more and then the
second one. -/
def restartedRun : List Event :=
  firstSelection ++ (blankPublication.take 8 ++ ([.crash, .start, .write .done] ++ ((blankPublication.drop 3).take 7 ++
    ([.schedule 7200000, .write .done, .request] ++ blankPublication))))

/-- From the end of a cycle to a selection of the next. -/
def nextCycle : List Event :=
  [.report 7200000 .done, .begin_, .read true, .schedule 7200000, .write .done, .request]

end UnifiMcp.Collector
