import UnifiMcp.Server.Selector
/-! # From the pending file to the sink (unifi-server/src/collector.rs)

The worker stops and waits: it holds one snapshot, sends it until the sink has taken the marker, and only
then collects another. A crash between any two steps repeats a publication and loses none.

* `stop_and_wait` — **a stored snapshot is on disk until it is acknowledged**, and only it is.
* `published_is_acknowledged` — without a pending snapshot both statuses say what was acknowledged.
* `pending_is_delivered` — from every state the worker can get its snapshot through. -/
namespace UnifiMcp.Collector
open Text LineProtocol

/-- The first hour is published. -/
theorem publishedHour : ∃ w, (worker sampleCrates sampleSettings).Reaches (firstSelection ++ blankPublication) w ∧
    (∀ reads, .collected reads ∈ firstSelection ++ blankPublication → Received reads) ∧ NoCollision sampleCrates w.log ∧
    w.pending = none ∧ w.log = [.saved, .acknowledged 0 false, .saved, .stored (blankSnapshot 0), .selected 0, .saved,
      .scheduled (sampleCall none), .saved, .restarted] := by
  have hworld : ((worker sampleCrates sampleSettings).runFrom (.empty sampleSettings) (firstSelection ++ blankPublication)).map
      (fun w => (w.pending, w.log)) =
        some (none, [.saved, .acknowledged 0 false, .saved, .stored (blankSnapshot 0), .selected 0, .saved,
          .scheduled (sampleCall none), .saved, .restarted]) := by
    decide +kernel
  obtain ⟨w, hrun, hworld⟩ := Option.map_eq_some_iff.1 hworld
  obtain ⟨hpending, hlog⟩ := Prod.mk.inj hworld
  refine ⟨w, hrun, fun reads hmem => ?_, fun s t hs ht _ => ?_, hpending, hlog⟩
  · have hsame : reads = blankReads := by simpa [firstSelection, blankPublication] using hmem
    rw [hsame]
    exact blankReads_received
  · rw [hlog] at hs ht
    have hs : s = blankSnapshot 0 := by simpa using hs
    have ht : t = blankSnapshot 0 := by simpa using ht
    rw [hs, ht]

/-- What the run with the crash logs behind its second hour, and what it logs up to the first acknowledgement. -/
def restartedNewer : List Entry :=
  [.saved, .acknowledged 3600000 false, .saved, .stored (blankSnapshot 3600000), .selected 3600000, .saved,
    .scheduled { sampleCall (some 0) with chosen := [3600000, 0] }]

def restartedOlder : List Entry :=
  [.saved, .stored (blankSnapshot 0), .selected 0, .saved, .scheduled (sampleCall none), .saved, .restarted]

/-- The first hour is published twice, for the crash, and then the second one. -/
theorem restartedRun_world : ∃ w, (worker blankCrates sampleSettings).Reaches restartedRun w ∧
    (∀ reads, .collected reads ∈ restartedRun → Received reads) ∧ NoCollision blankCrates w.log ∧ w.pending = none ∧
    w.log = restartedNewer ++ [.saved, .acknowledged 0 false, .saved, .restarted] ++ .acknowledged 0 false :: restartedOlder := by
  have hworld : ((worker blankCrates sampleSettings).runFrom (.empty sampleSettings) restartedRun).map
      (fun w => (w.pending, w.log)) =
        some (none, restartedNewer ++ [.saved, .acknowledged 0 false, .saved, .restarted] ++ .acknowledged 0 false :: restartedOlder) := by
    decide +kernel
  obtain ⟨w, hrun, hworld⟩ := Option.map_eq_some_iff.1 hworld
  obtain ⟨hpending, hlog⟩ := Prod.mk.inj hworld
  refine ⟨w, hrun, fun reads hmem => ?_, fun s t hs ht hrevision => ?_, hpending, hlog⟩
  · have hsame : reads = blankReads := by simpa [restartedRun, firstSelection, blankPublication] using hmem
    rw [hsame]
    exact blankReads_received
  · have hdiffer : revisionOf blankCrates (blankSnapshot 0) ≠ revisionOf blankCrates (blankSnapshot 3600000) := by decide +kernel
    have hstored (snapshot : TrafficSnapshot) (h : .stored snapshot ∈ w.log) :
        snapshot = blankSnapshot 3600000 ∨ snapshot = blankSnapshot 0 := by
      rw [hlog] at h
      simpa [restartedNewer, restartedOlder] using h
    rcases hstored s hs with rfl | rfl <;> rcases hstored t ht with rfl | rfl
    · rfl
    · exact absurd hrevision.symm hdiffer
    · exact absurd hrevision hdiffer
    · rfl

/-! ## One snapshot at a time -/

/-- The snapshot that was stored last. -/
def lastStored : List Entry → Option TrafficSnapshot
  | [] => none
  | .stored snapshot :: _ => some snapshot
  | _ :: log => lastStored log

/-- The snapshot that was stored last has been acknowledged since. -/
def Settled : List Entry → Prop
  | [] => True
  | .stored _ :: _ => False
  | .acknowledged .. :: _ => True
  | _ :: log => Settled log

/-- A snapshot is stored when nothing is owed, and an acknowledgement is of the snapshot stored last. -/
def StopAndWait : List Entry → Prop
  | [] => True
  | .stored _ :: log => Settled log ∧ StopAndWait log
  | .acknowledged start complete :: log =>
    (∃ snapshot, lastStored log = some snapshot ∧ snapshot.startMs = start ∧ snapshot.collected = complete) ∧ StopAndWait log
  | _ :: log => StopAndWait log

/-- The greatest hour that was acknowledged. -/
def published : List Entry → Option Nat
  | [] => none
  | .acknowledged start _ :: log => laterOf (published log) start
  | _ :: log => published log

/-- The greatest hour that was acknowledged before the last snapshot was stored. -/
def publishedBefore : List Entry → Option Nat
  | [] => none
  | .stored _ :: log => published log
  | _ :: log => publishedBefore log

theorem laterOf_laterOf (before : Option Nat) (time : Nat) : laterOf (laterOf before time) time = laterOf before time := by
  unfold laterOf
  rw [Option.getD_some, Nat.max_assoc, Nat.max_self]

/-- What was stored last is the only hour acknowledged since. -/
theorem published_cases {log : List Entry} {snapshot : TrafficSnapshot} (h : StopAndWait log)
    (hlast : lastStored log = some snapshot) :
    published log = publishedBefore log ∨ published log = laterOf (publishedBefore log) snapshot.startMs := by
  induction log with
  | nil => cases hlast
  | cons entry log ih =>
    cases entry with
    | stored _ => exact Or.inl rfl
    | acknowledged start complete =>
      obtain ⟨⟨found, hfound, rfl, -⟩, hlog⟩ := h
      obtain rfl := Option.some.inj (hfound.symm.trans hlast)
      right
      show laterOf (published log) found.startMs = laterOf (publishedBefore log) found.startMs
      rcases ih hlog hfound with hsame | hlater
      · rw [hsame]
      · rw [hlater, laterOf_laterOf]
    | scheduled _ | selected _ | saved | restarted => exact ih h hlast

/-- The last published hour of `status.json`. -/
def World.savedPublished (w : World) : Option Nat := w.saved.bind Status.lastPublishedInterval

/-- Since when a status may date: before the last snapshot was stored, or now. -/
def Dates (log : List Entry) (time : Option Nat) : Prop := time = published log ∨ time = publishedBefore log

/-- An acknowledged snapshot is checkpointed before it is removed. -/
def AcknowledgedAt (w : World) : Phase → Prop
  | .checkpoint _ => Settled w.log ∧ w.status.lastPublishedInterval = published w.log
  | .clearing _ => Settled w.log ∧ w.status.lastPublishedInterval = published w.log ∧ w.savedPublished = published w.log
  | _ => True

structure Delivering (w : World) : Prop where
  waits : StopAndWait w.log
  pending : ∀ snapshot, w.pending = some snapshot → ∃ original, lastStored w.log = some original ∧ snapshot = reread original
  idle : w.pending = none → Settled w.log ∧ w.status.lastPublishedInterval = published w.log ∧ w.savedPublished = published w.log
  memory : Dates w.log w.status.lastPublishedInterval
  file : Dates w.log w.savedPublished
  acknowledged : AcknowledgedAt w w.phase

section
variable {x : Crates} {settings : CollectionSettings} {w w' : World} {event : Event}

/-- An acknowledgement brings a status up to date. -/
theorem Dates.acknowledge {log : List Entry} {time : Option Nat} {snapshot : TrafficSnapshot} (h : Dates log time)
    (hwaits : StopAndWait log) (hlast : lastStored log = some snapshot) :
    laterOf time snapshot.startMs = laterOf (published log) snapshot.startMs := by
  rcases h with rfl | rfl
  · rfl
  · rcases published_cases hwaits hlast with hsame | hlater
    · rw [hsame]
    · rw [hlater, laterOf_laterOf]

theorem Dates.acknowledged {log : List Entry} {time : Option Nat} {snapshot : TrafficSnapshot} (h : Dates log time)
    (hwaits : StopAndWait log) (hlast : lastStored log = some snapshot) (complete : Bool) :
    Dates (.acknowledged snapshot.startMs complete :: log) time := by
  rcases h with rfl | rfl
  · rcases published_cases hwaits hlast with hsame | hlater
    · exact Or.inr hsame
    · left
      show published log = laterOf (published log) snapshot.startMs
      rw [hlater, laterOf_laterOf]
  · exact Or.inr rfl

/-- An entry that is neither stored nor acknowledged. -/
structure Quiet (log log' : List Entry) : Prop where
  waits : StopAndWait log' ↔ StopAndWait log
  settled : Settled log' ↔ Settled log
  last : lastStored log' = lastStored log
  published : published log' = published log
  before : publishedBefore log' = publishedBefore log

theorem Quiet.refl (log : List Entry) : Quiet log log := ⟨.rfl, .rfl, rfl, rfl, rfl⟩

theorem Quiet.dates {log log' : List Entry} (h : Quiet log log') {time : Option Nat} : Dates log' time ↔ Dates log time := by
  unfold Dates
  rw [h.published, h.before]

/-- The snapshot and what was published stay, and the statuses are as before or one as the other. -/
theorem Delivering.carry (h : Delivering w) (hlog : Quiet w.log w'.log) (hpending : w'.pending = w.pending)
    (hmemory : w'.status.lastPublishedInterval = w.status.lastPublishedInterval ∨
      w'.status.lastPublishedInterval = w.savedPublished)
    (hfile : w'.savedPublished = w.savedPublished ∨ w'.savedPublished = w.status.lastPublishedInterval)
    (hphase : AcknowledgedAt w' w'.phase) : Delivering w' := by
  refine ⟨hlog.waits.2 h.waits, ?_, ?_, ?_, ?_, hphase⟩
  · rw [hpending, hlog.last]
    exact h.pending
  · rw [hpending, hlog.settled, hlog.published]
    intro hnone
    obtain ⟨hsettled, hmem, hsaved⟩ := h.idle hnone
    refine ⟨hsettled, ?_, ?_⟩
    · rcases hmemory with hsame | hsame
      · exact hsame.trans hmem
      · exact hsame.trans hsaved
    · rcases hfile with hsame | hsame
      · exact hsame.trans hsaved
      · exact hsame.trans hmem
  · rw [hlog.dates]
    rcases hmemory with hsame | hsame
    · exact hsame ▸ h.memory
    · exact hsame ▸ h.file
  · rw [hlog.dates]
    rcases hfile with hsame | hsame
    · exact hsame ▸ h.file
    · exact hsame ▸ h.memory

/-- No acknowledgement waits for its checkpoint. -/
def Phase.Checkpointed : Phase → Prop
  | .checkpoint _ | .clearing _ => False
  | _ => True

theorem Phase.Checkpointed.acknowledgedAt {phase : Phase} (h : phase.Checkpointed) (w : World) : AcknowledgedAt w phase := by
  cases phase <;> trivial

theorem Turn.checkpointed {before next : Phase} (h : Turn x settings w before next) : next.Checkpointed := by
  cases h with
  | crashed | ended | sends | collected | woken | begun => trivial
  | @nothing resume => cases resume <;> trivial

theorem Delivering.saves (h : Delivering w) {next : Phase} (hsave : Saves w.phase next) :
    Delivering { w.save with phase := next } := by
  refine h.carry (Quiet.mk .rfl .rfl rfl rfl rfl) rfl (Or.inl rfl) (Or.inr rfl) ?_
  have hbefore := h.acknowledged
  generalize w.phase = phase at hsave hbefore
  cases hsave with
  | opened | scheduled | collected | closed | ended => trivial
  | published =>
    obtain ⟨hsettled, hmemory⟩ := hbefore
    exact ⟨hsettled, hmemory, hmemory⟩

theorem Delivering.acknowledges (h : Delivering w) (ho : Orderly w) {snapshot : TrafficSnapshot} {publication : Publication}
    {body : Text} {resume : Resume} (hphase : w.phase = .awaiting snapshot publication body [] resume) :
    Delivering { w with
      phase := .checkpoint resume
      sink := ingest w.sink (readLines body)
      status := acknowledge w.status snapshot publication.records
      log := .acknowledged snapshot.startMs snapshot.collected :: w.log } := by
  have hpending := ho.pending
  rw [hphase] at hpending
  obtain ⟨original, hlast, rfl⟩ := h.pending snapshot hpending
  have hmemory : laterOf w.status.lastPublishedInterval original.startMs = laterOf (published w.log) original.startMs :=
    h.memory.acknowledge h.waits hlast
  refine ⟨⟨⟨original, hlast, rfl, rfl⟩, h.waits⟩, fun found hfound => ⟨original, hlast, ?_⟩, fun hnone => ?_,
    Or.inl hmemory, h.file.acknowledged h.waits hlast _, trivial, hmemory⟩
  · exact (Option.some.inj (hpending.symm.trans hfound)).symm
  · have hnone : w.pending = none := hnone
    rw [hpending] at hnone
    cases hnone

@[simp] theorem Status.counted_lastPublishedInterval (status : Status) (expiredGaps : Nat) (intervals : SortedMap Nat Bool) :
    (status.counted expiredGaps intervals).lastPublishedInterval = status.lastPublishedInterval := rfl

theorem Delivering.schedules (h : Delivering w) {status : Status} {call : Call} {now : Nat}
    (hsame : status.lastPublishedInterval = w.status.lastPublishedInterval) :
    Delivering { w with phase := .savingSchedule call.chosen, status, clock := now, log := .scheduled call :: w.log } :=
  h.carry ⟨.rfl, .rfl, rfl, rfl, rfl⟩ rfl (Or.inl hsame) (Or.inl rfl) trivial

theorem Delivering.stores (h : Delivering w) (hnone : w.pending = none) (snapshot : TrafficSnapshot)
    {lastCollectedInterval : Option Nat} {next : Phase} (hphase : ∀ s : World, AcknowledgedAt s next) :
    Delivering { w.store snapshot with status := { w.status with lastCollectedInterval }, phase := next } := by
  obtain ⟨hsettled, hmemory, hfile⟩ := h.idle hnone
  refine ⟨⟨hsettled, h.waits⟩, fun found hfound => ⟨snapshot, rfl, ?_⟩, nofun, Or.inr hmemory, Or.inr hfile, hphase _⟩
  cases hfound
  rfl

/-- **Every move keeps the order of delivery.** -/
theorem delivering_move (h : Delivering w) (ho : Orderly w) (hm : Move x settings w w')
    (hreport : w'.phase = .resting → w'.status.lastPublishedInterval = w.status.lastPublishedInterval) : Delivering w' := by
  cases hm with
  | @restarts status _ hsaved =>
    refine h.carry ⟨.rfl, .rfl, rfl, rfl, rfl⟩ rfl (Or.inr ?_) (Or.inl rfl) trivial
    rcases hsaved with hsaved | ⟨hsaved, rfl⟩
    · unfold World.savedPublished
      rw [hsaved]
      rfl
    · unfold World.savedPublished
      rw [hsaved]
      rfl
  | turns hturn =>
    exact h.carry (.refl _) rfl (Or.inl rfl) (Or.inl rfl) (hturn.checkpointed.acknowledgedAt _)
  | saves hsave => exact h.saves hsave
  | posts | answered | rejected => exact h.carry (.refl _) rfl (Or.inl rfl) (Or.inl rfl) trivial
  | acknowledges hphase => exact h.acknowledges ho hphase
  | arrives => exact h.carry (.refl _) rfl (Or.inl rfl) (Or.inl rfl) h.acknowledged
  | @clears resume next hphase hnext =>
    have hat := h.acknowledged
    rw [hphase] at hat
    refine ⟨h.waits, fun _ hfound => (by cases hfound), fun _ => hat, h.memory, h.file, ?_⟩
    rcases hnext with rfl | ⟨error, rfl⟩
    · cases resume <;> trivial
    · trivial
  | @schedules now =>
    have hsame : (schedule settings w.status now).1.lastPublishedInterval = w.status.lastPublishedInterval := by
      rw [schedule_status, Status.counted_lastPublishedInterval]
    exact h.schedules hsame
  | selects => exact h.carry ⟨.rfl, .rfl, rfl, rfl, rfl⟩ rfl (Or.inl rfl) (Or.inl rfl) trivial
  | stores hphase hnext =>
    have hnone := ho.pending
    rw [hphase] at hnone
    refine h.stores hnone _ fun s => ?_
    rcases hnext with rfl | ⟨error, rfl⟩ <;> trivial
  | reports hstatus hsaved =>
    have hsame := hreport rfl
    rcases hsaved with ⟨rfl, rfl⟩ | ⟨rfl, rfl⟩
    · exact h.carry (.refl _) rfl (Or.inl hsame) (Or.inl rfl) trivial
    · exact h.carry ⟨.rfl, .rfl, rfl, rfl, rfl⟩ rfl (Or.inl hsame) (Or.inr hsame) trivial

theorem publishPending_status (w : World) (resume : Resume) : (publishPending x settings w resume).status = w.status := by
  unfold publishPending
  split
  · rfl
  · split
    · rfl
    · split <;> rfl

theorem collect_status (w : World) (start : Nat) (rest : List Nat) (reads : SourceReads) :
    (collect x settings w start rest reads).status = w.status := by
  unfold collect
  cases collectTraffic x.reports start (start + HOUR) reads with
  | error error => rfl
  | ok snapshot =>
    unfold tryBuild
    dsimp only
    split <;> rfl

/-- A report leaves the published hour. -/
theorem resting_published (h : step x settings w event = some w') (hphase : w'.phase = .resting) :
    w'.status.lastPublishedInterval = w.status.lastPublishedInterval := by
  cases event <;> simp only [step] at h
  case start =>
    split at h
    · obtain ⟨status, hopen⟩ : ∃ status, w' = { w with phase := .opening, status, log := .restarted :: w.log } := by
        unfold openWorker at h
        split at h
        · exact ⟨_, (Option.some.inj h).symm⟩
        · split at h
          · cases h
          · exact ⟨_, (Option.some.inj h).symm⟩
      rw [hopen] at hphase
      cases hphase
    · cases h
  case report now outcome =>
    split at h
    · split at h <;> cases h
      cases outcome <;> rfl
    · cases h
  case answer ok =>
    split at h <;> cases h
    rename_i todo _ _
    cases ok
    · cases hphase
    · cases todo <;> cases hphase
  case schedule now =>
    split at h
    · split at h <;> cases h
      cases hphase
    · cases h
  case write outcome =>
    unfold written at h
    split at h
    · cases outcome <;> cases h <;> cases hphase
    · cases outcome <;> cases h <;> cases hphase
    · cases outcome <;> cases h <;> rfl
    · cases outcome <;> cases h <;> cases hphase
    · cases outcome <;> cases h <;> cases hphase
    · cases outcome <;> cases h <;> cases hphase
    · cases h
  case read ok =>
    split at h <;> cases h
    cases ok
    · rfl
    · rw [if_pos rfl, publishPending_status]
  case collected reads =>
    split at h <;> cases h
    rw [collect_status]
  all_goals
    split at h <;> cases h <;> rfl

theorem delivering_empty (settings : CollectionSettings) : Delivering (.empty settings) :=
  ⟨trivial, fun _ h => (by cases h), fun _ => ⟨trivial, rfl, rfl⟩, Or.inl rfl, Or.inl rfl, trivial⟩

theorem orderly_empty (settings : CollectionSettings) : Orderly (.empty settings) := (timely_empty settings).orderly

/-- **Every run delivers in order.** -/
theorem delivering_run {events : List Event} (hrun : (worker x settings).Reaches events w) : Delivering w ∧ Orderly w := by
  refine (worker x settings).run_invariant (I := fun w => Delivering w ∧ Orderly w)
    ⟨delivering_empty settings, orderly_empty settings⟩ ?_ hrun
  rintro s e t ⟨h, ho⟩ hstep
  have hmove := step_move hstep
  exact ⟨delivering_move h ho hmove (resting_published hstep), orderly_move ho hmove⟩

/-! ## What the order says of a log -/

theorem StopAndWait.tail : ∀ {newer log : List Entry}, StopAndWait (newer ++ log) → StopAndWait log
  | [], _, h => h
  | entry :: newer, log, h => by
    refine @StopAndWait.tail newer log ?_
    cases entry with
    | stored _ | acknowledged _ _ => exact h.2
    | scheduled _ | selected _ | saved | restarted => exact h

/-- No snapshot was stored in between. -/
def Unstored (between : List Entry) : Prop := ∀ snapshot, .stored snapshot ∉ between

theorem Unstored.tail {entry : Entry} {between : List Entry} (h : Unstored (entry :: between)) : Unstored between :=
  fun snapshot hmem => h snapshot (List.mem_cons_of_mem _ hmem)

theorem lastStored_append {snapshot : TrafficSnapshot} {older : List Entry} : ∀ {between : List Entry}, Unstored between →
    lastStored (between ++ .stored snapshot :: older) = some snapshot
  | [], _ => rfl
  | entry :: between, h => by
    have ih := @lastStored_append snapshot older between h.tail
    cases entry with
    | stored other => exact absurd List.mem_cons_self (h other)
    | acknowledged _ _ | scheduled _ | selected _ | saved | restarted => exact ih

/-- Settled since it was stored means acknowledged since. -/
theorem acknowledged_of_settled {snapshot : TrafficSnapshot} {older : List Entry} : ∀ {between : List Entry}, Unstored between →
    StopAndWait (between ++ .stored snapshot :: older) → Settled (between ++ .stored snapshot :: older) →
    .acknowledged snapshot.startMs snapshot.collected ∈ between
  | [], _, _, hsettled => hsettled.elim
  | entry :: between, h, hwaits, hsettled => by
    have ih := @acknowledged_of_settled snapshot older between h.tail
    cases entry with
    | stored other => exact absurd List.mem_cons_self (h other)
    | acknowledged start complete =>
      obtain ⟨⟨found, hfound, rfl, rfl⟩, -⟩ := hwaits
      obtain rfl := Option.some.inj ((@lastStored_append snapshot older between h.tail).symm.trans hfound)
      exact List.mem_cons_self
    | scheduled _ | selected _ | saved | restarted => exact List.mem_cons_of_mem _ (ih hwaits hsettled)

/-- What was stored last is in the pending file or was acknowledged. -/
theorem Delivering.pending_or_acknowledged (h : Delivering w) {snapshot : TrafficSnapshot} {between older : List Entry}
    (hlog : w.log = between ++ .stored snapshot :: older) (hbetween : Unstored between) :
    w.pending = some (reread snapshot) ∨ .acknowledged snapshot.startMs snapshot.collected ∈ between := by
  have hwaits := h.waits
  cases hpending : w.pending with
  | some pending =>
    obtain ⟨original, hlast, rfl⟩ := h.pending pending hpending
    rw [hlog, lastStored_append hbetween] at hlast
    cases hlast
    exact Or.inl rfl
  | none =>
    have hsettled := (h.idle hpending).1
    rw [hlog] at hwaits hsettled
    exact Or.inr (acknowledged_of_settled hbetween hwaits hsettled)

/-- **A stored snapshot is on disk until it is acknowledged.** In every state of a run: an acknowledgement is of the
snapshot that was stored last; a snapshot is stored over another only when that one was acknowledged since; and the
last one is in the pending file, or was acknowledged. -/
theorem stop_and_wait {events : List Event} (hrun : (worker x settings).Reaches events w) :
    (∀ newer start complete older, w.log = newer ++ .acknowledged start complete :: older →
      ∃ snapshot, lastStored older = some snapshot ∧ snapshot.startMs = start ∧ snapshot.collected = complete) ∧
    (∀ newer next between snapshot older, w.log = newer ++ .stored next :: (between ++ .stored snapshot :: older) →
      Unstored between → .acknowledged snapshot.startMs snapshot.collected ∈ between) ∧
    ∀ between snapshot older, w.log = between ++ .stored snapshot :: older → Unstored between →
      w.pending = some (reread snapshot) ∨ .acknowledged snapshot.startMs snapshot.collected ∈ between := by
  obtain ⟨h, -⟩ := delivering_run hrun
  have hwaits := h.waits
  refine ⟨fun newer start complete older hlog => ?_, fun newer next between snapshot older hlog hbetween => ?_,
    fun between snapshot older hlog hbetween => ?_⟩
  · rw [hlog] at hwaits
    exact hwaits.tail.1
  · rw [hlog] at hwaits
    obtain ⟨hsettled, hrest⟩ := hwaits.tail
    exact acknowledged_of_settled hbetween hrest hsettled
  · exact h.pending_or_acknowledged hlog hbetween

/-- The run with the crash: both acknowledgements of the first hour are of its snapshot, the second hour is stored behind
them, and is acknowledged too. -/
theorem stop_and_wait_restart : ∃ w, (worker blankCrates sampleSettings).Reaches restartedRun w ∧ ∃ newer between older,
    w.log = newer ++ .stored (blankSnapshot 3600000) :: (between ++ .stored (blankSnapshot 0) :: older) ∧
      .acknowledged 3600000 false ∈ newer ∧ .acknowledged 0 false ∈ between := by
  obtain ⟨w, hrun, -, -, hpending, hlog⟩ := restartedRun_world
  obtain ⟨-, hover, hlast⟩ := stop_and_wait hrun
  have hsplit : w.log = [.saved, .acknowledged 3600000 false, .saved] ++ .stored (blankSnapshot 3600000) ::
      ([.selected 3600000, .saved, .scheduled { sampleCall (some 0) with chosen := [3600000, 0] }, .saved, .acknowledged 0 false,
        .saved, .restarted, .acknowledged 0 false, .saved] ++ .stored (blankSnapshot 0) :: restartedOlder.drop 2) := hlog
  refine ⟨w, hrun, _, _, _, hsplit, ?_, hover _ _ _ _ _ hsplit fun _ h => by simp at h⟩
  rcases hlast _ _ _ hsplit fun _ h => by simp at h with hfile | hmem
  · rw [hpending] at hfile
    cases hfile
  · exact hmem

/-! ## What the statuses say -/

theorem mem_of_published : ∀ {log : List Entry} {time : Nat}, published log = some time →
    ∃ complete, Entry.acknowledged time complete ∈ log
  | [], _, h => by cases h
  | entry :: log, time, h => by
    have ih := @mem_of_published log time
    cases entry with
    | acknowledged start complete =>
      have hmax : max ((published log).getD 0) start = time := Option.some.inj h
      rcases Nat.le_total ((published log).getD 0) start with hle | hle
      · rw [Nat.max_eq_right hle] at hmax
        exact ⟨complete, hmax ▸ List.mem_cons_self⟩
      · cases hbefore : published log with
        | none =>
          rw [hbefore, Option.getD_none, Nat.zero_max] at hmax
          exact ⟨complete, hmax ▸ List.mem_cons_self⟩
        | some before =>
          rw [Nat.max_eq_left hle, hbefore, Option.getD_some] at hmax
          obtain ⟨other, hmem⟩ := ih (hmax ▸ hbefore)
          exact ⟨other, List.mem_cons_of_mem _ hmem⟩
    | stored _ | scheduled _ | selected _ | saved | restarted =>
      obtain ⟨complete, hmem⟩ := ih h
      exact ⟨complete, List.mem_cons_of_mem _ hmem⟩

theorem le_published : ∀ {log : List Entry} {start : Nat} {complete : Bool}, .acknowledged start complete ∈ log →
    ∃ time, published log = some time ∧ start ≤ time
  | entry :: log, start, complete, h => by
    rcases List.mem_cons.1 h with rfl | h
    · exact ⟨_, rfl, Nat.le_max_right _ _⟩
    · obtain ⟨time, hbefore, hle⟩ := le_published h
      cases entry with
      | acknowledged later _ =>
        refine ⟨max ((published log).getD 0) later, rfl, ?_⟩
        rw [hbefore, Option.getD_some]
        exact Nat.le_trans hle (Nat.le_max_left _ _)
      | stored _ | scheduled _ | selected _ | saved | restarted => exact ⟨time, hbefore, hle⟩

/-- The hours that were acknowledged. -/
def AcknowledgedHours (log : List Entry) : Set Nat := { start | ∃ complete, Entry.acknowledged start complete ∈ log }

theorem published_iff {log : List Entry} {time : Nat} : published log = some time ↔ IsGreatest (AcknowledgedHours log) time := by
  constructor
  · intro h
    refine ⟨mem_of_published h, fun start hstart => ?_⟩
    obtain ⟨complete, hmem⟩ := hstart
    obtain ⟨latest, hlatest, hle⟩ := le_published hmem
    rw [h] at hlatest
    cases hlatest
    exact hle
  · rintro ⟨⟨complete, hmem⟩, hgreatest⟩
    obtain ⟨latest, hlatest, hle⟩ := le_published hmem
    rw [hlatest, Nat.le_antisymm (hgreatest (mem_of_published hlatest)) hle]

theorem mem_of_publishedBefore : ∀ {log : List Entry} {time : Nat}, publishedBefore log = some time →
    time ∈ AcknowledgedHours log
  | [], _, h => by cases h
  | entry :: log, time, h => by
    have ih := @mem_of_publishedBefore log time
    have hmore : time ∈ AcknowledgedHours log → time ∈ AcknowledgedHours (entry :: log) := by
      rintro ⟨complete, hmem⟩
      exact ⟨complete, List.mem_cons_of_mem _ hmem⟩
    cases entry with
    | stored _ => exact hmore (mem_of_published h)
    | acknowledged _ _ | scheduled _ | selected _ | saved | restarted => exact hmore (ih h)

theorem Dates.mem {log : List Entry} {time : Nat} (h : Dates log (some time)) : time ∈ AcknowledgedHours log :=
  h.elim (fun h => mem_of_published h.symm) fun h => mem_of_publishedBefore h.symm

/-- **Without a pending snapshot both statuses say what was acknowledged.** The published hour in memory and the one
in `status.json` are the greatest hour acknowledged in the run; while a snapshot is pending, each is an hour that was. -/
theorem published_is_acknowledged {events : List Event} (hrun : (worker x settings).Reaches events w) (time : Nat) :
    (w.pending = none → (w.status.lastPublishedInterval = some time ↔ IsGreatest (AcknowledgedHours w.log) time) ∧
      (w.savedPublished = some time ↔ IsGreatest (AcknowledgedHours w.log) time)) ∧
    (w.status.lastPublishedInterval = some time → time ∈ AcknowledgedHours w.log) ∧
    (w.savedPublished = some time → time ∈ AcknowledgedHours w.log) := by
  obtain ⟨h, -⟩ := delivering_run hrun
  refine ⟨fun hnone => ?_, fun hmemory => ?_, fun hfile => ?_⟩
  · obtain ⟨-, hmemory, hfile⟩ := h.idle hnone
    rw [hmemory, hfile]
    exact ⟨published_iff, published_iff⟩
  · exact Dates.mem (hmemory ▸ h.memory)
  · exact Dates.mem (hfile ▸ h.file)

/-- After the crash and both hours the statuses say the second one. -/
theorem published_is_acknowledged_restart : ∃ w, (worker blankCrates sampleSettings).Reaches restartedRun w ∧
    w.status.lastPublishedInterval = some 3600000 ∧ w.savedPublished = some 3600000 := by
  obtain ⟨w, hrun, -, -, hpending, hlog⟩ := restartedRun_world
  have hgreatest : IsGreatest (AcknowledgedHours w.log) 3600000 := by
    rw [hlog]
    refine ⟨⟨false, by decide⟩, fun start hstart => ?_⟩
    obtain ⟨complete, hmem⟩ := hstart
    have hstart : start = 3600000 ∧ complete = false ∨ start = 0 ∧ complete = false := by
      simpa [restartedNewer, restartedOlder] using hmem
    rcases hstart with ⟨rfl, -⟩ | ⟨rfl, -⟩ <;> decide
  obtain ⟨hmemory, hfile⟩ := (published_is_acknowledged hrun 3600000).1 hpending
  exact ⟨w, hrun, hmemory.2 hgreatest, hfile.2 hgreatest⟩

/-! ## Getting it through -/

/-- What is sent is the rest of the publication, the marker last. -/
def Phase.Marked : Phase → Prop
  | .sending _ publication todo _ => todo ≠ [] ∧ ∃ done, publication.batches ++ [publication.marker] = done ++ todo
  | .awaiting _ publication body todo _ => ∃ done, publication.batches ++ [publication.marker] = done ++ body :: todo
  | _ => True

theorem Resume.marked (resume : Resume) : resume.phase.Marked := by
  cases resume <;> trivial

theorem Turn.marked {before next : Phase} (h : Turn x settings w before next) : next.Marked := by
  cases h with
  | crashed | ended | collected | woken | begun => trivial
  | nothing => exact Resume.marked _
  | sends => exact ⟨List.append_ne_nil_of_right_ne_nil _ (List.cons_ne_nil _ _), [], rfl⟩

theorem marked_move (h : w.phase.Marked) (hm : Move x settings w w') : w'.phase.Marked := by
  cases hm with
  | restarts | acknowledges | rejected | schedules | selects | reports => trivial
  | turns hturn => exact hturn.marked
  | @saves next hsave =>
    show next.Marked
    generalize w.phase = phase at hsave
    cases hsave <;> trivial
  | posts hphase =>
    rw [hphase] at h
    exact h.2
  | answered hphase =>
    rw [hphase] at h
    obtain ⟨done, hdone⟩ := h
    exact ⟨List.cons_ne_nil _ _, done ++ [_], by rw [hdone, List.append_assoc, List.singleton_append]⟩
  | arrives => exact h
  | @clears resume next _ hnext =>
    rcases hnext with rfl | ⟨error, rfl⟩
    · exact resume.marked
    · trivial
  | stores _ hnext => rcases hnext with rfl | ⟨error, rfl⟩ <;> trivial

theorem marked_run {events : List Event} (hrun : (worker x settings).Reaches events w) : w.phase.Marked :=
  worker_invariant (I := fun w => w.phase.Marked) trivial (fun _ _ => marked_move) hrun

/-- A step in which nothing fails, of a worker that has a snapshot. -/
def Event.Undisturbed : Event → Prop
  | .start | .begin_ | .read true | .post | .answer true | .write .done | .report _ .done => True
  | _ => False

/-- Undisturbed steps get the pending snapshot out of the way. -/
def Delivers (x : Crates) (settings : CollectionSettings) (w : World) : Prop :=
  ∃ events done newer, (∀ event ∈ events, event.Undisturbed) ∧ (worker x settings).runFrom w events = some done ∧
    done.pending = none ∧ done.log = newer ++ w.log ∧ Unstored newer

theorem delivers_of_step (hstep : step x settings w event = some w') (hevent : event.Undisturbed) (newer : List Entry)
    (hlog : w'.log = newer ++ w.log) (hnewer : Unstored newer) (h : Delivers x settings w') : Delivers x settings w := by
  obtain ⟨events, done, later, hevents, hrun, hpending, hdone, hlater⟩ := h
  refine ⟨event :: events, done, later ++ newer, ?_, ?_, hpending, by rw [hdone, hlog, List.append_assoc], fun snapshot hmem => ?_⟩
  · intro e he
    rcases List.mem_cons.1 he with rfl | he
    · exact hevent
    · exact hevents e he
  · rw [Machine.runFrom_cons]
    show (step x settings w event).bind _ = _
    rw [hstep]
    exact hrun
  · rcases List.mem_append.1 hmem with hmem | hmem
    · exact hlater snapshot hmem
    · exact hnewer snapshot hmem

theorem delivers_of_none (h : w.pending = none) : Delivers x settings w :=
  ⟨[], w, [], fun _ he => (by cases he), rfl, h, rfl, fun _ he => (by cases he)⟩

theorem unstored_nil : Unstored [] := fun _ h => (by cases h)

theorem unstored_singleton {entry : Entry} (h : ∀ snapshot, entry ≠ .stored snapshot) : Unstored [entry] :=
  fun snapshot hmem => h snapshot (List.mem_singleton.1 hmem).symm

theorem unstored_saved : Unstored [.saved] := unstored_singleton fun _ h => (by cases h)

theorem unstored_restarted : Unstored [.restarted] := unstored_singleton fun _ h => (by cases h)

theorem clearing_delivers {resume : Resume} (hphase : w.phase = .clearing resume) : Delivers x settings w := by
  have hstep : step x settings w (.write .done) = some { w with pending := none, phase := resume.phase } := by
    simp only [step, written, hphase]
  exact delivers_of_step hstep trivial [] rfl unstored_nil (delivers_of_none rfl)

theorem checkpoint_delivers {resume : Resume} (hphase : w.phase = .checkpoint resume) : Delivers x settings w := by
  have hstep : step x settings w (.write .done) = some { w.save with phase := .clearing resume } := by
    simp only [step, written, hphase, World.saveThen]
  exact delivers_of_step hstep trivial [.saved] rfl unstored_saved (clearing_delivers rfl)

/-- A write is acknowledged, and those behind it get through. -/
theorem awaiting_delivers {snapshot : TrafficSnapshot} {publication : Publication} {body : Text} {todo : List Text} {resume : Resume}
    (hrest : ∀ t : World, todo ≠ [] → t.phase = .sending snapshot publication todo resume → Delivers x settings t)
    (hphase : w.phase = .awaiting snapshot publication body todo resume) : Delivers x settings w := by
  have hanswered : step x settings w (.answer true) = some (Collector.acknowledged w snapshot publication body todo resume) := by
    simp only [step, hphase, if_true]
  cases todo with
  | nil =>
    exact delivers_of_step hanswered trivial [.acknowledged _ _] rfl (unstored_singleton fun _ h => (by cases h)) (checkpoint_delivers rfl)
  | cons next todo =>
    exact delivers_of_step hanswered trivial [] rfl unstored_nil (hrest _ (List.cons_ne_nil next todo) rfl)

theorem sending_delivers {snapshot : TrafficSnapshot} {publication : Publication} {resume : Resume} : ∀ {todo : List Text} {w : World},
    todo ≠ [] → w.phase = .sending snapshot publication todo resume → Delivers x settings w
  | [], _, h, _ => absurd rfl h
  | body :: todo, w, _, hphase => by
    have hposted : step x settings w .post =
        some { w with phase := .awaiting snapshot publication body todo resume, lost := readLines body ++ w.lost } := by
      simp only [step, hphase]
    exact delivers_of_step hposted trivial [] rfl unstored_nil
      (awaiting_delivers (fun _ => sending_delivers) rfl)

theorem publishing_delivers {original : TrafficSnapshot} {publication : Publication} {resume : Resume}
    (hpending : w.pending = some (reread original)) (h : Restores x settings.identity original publication)
    (hphase : w.phase = .publishing resume) : Delivers x settings w := by
  have hsends : step x settings w (.read true) = some { w with
      phase := .sending (reread original) publication (publication.batches ++ [publication.marker]) resume } := by
    simp only [step, hphase]
    rw [if_pos trivial, publishPending_restores hpending h]
  have hne : publication.batches ++ [publication.marker] ≠ [] := List.append_ne_nil_of_right_ne_nil _ (List.cons_ne_nil _ _)
  exact delivers_of_step hsends trivial [] rfl unstored_nil
      (sending_delivers hne rfl)

/-- From any phase, with a snapshot that can be restored. -/
theorem pending_delivers (hd : Durable x settings w) (hmarked : w.phase.Marked) {original : TrafficSnapshot} {publication : Publication}
    (hpending : w.pending = some (reread original)) (h : Restores x settings.identity original publication) :
    Delivers x settings w := by
  have hat := hd.timely.orderly.pending
  have hopening {t : World} (hphase : t.phase = .opening) (hsame : t.pending = w.pending) : Delivers x settings t := by
    have hstep : step x settings t (.write .done) = some { t.save with phase := .publishing .schedule } := by
      simp only [step, written, hphase]
    exact delivers_of_step hstep trivial [.saved] rfl unstored_saved
      (publishing_delivers (hsame.trans hpending) h rfl)
  have hresting {t : World} (hphase : t.phase = .resting) (hsame : t.pending = w.pending) : Delivers x settings t := by
    have hstep : step x settings t .begin_ = some { t with phase := .publishing .schedule } := by
      simp only [step, hphase]
    exact delivers_of_step hstep trivial [] rfl unstored_nil
      (publishing_delivers (hsame.trans hpending) h rfl)
  have hidle (hnone : w.pending = none) : Delivers x settings w := by
    rw [hpending] at hnone
    cases hnone
  cases hphase : w.phase with
  | down =>
    cases hsaved : w.saved with
    | none =>
      have hstep : step x settings w .start = some { w with
          phase := .opening, status := .fresh settings.binding, log := .restarted :: w.log } := by
        simp only [step, hphase, openWorker, hsaved]
      exact delivers_of_step hstep trivial [.restarted] rfl unstored_restarted (hopening rfl rfl)
    | some status =>
      have hstep : step x settings w .start = some { w with phase := .opening, status, log := .restarted :: w.log } := by
        simp only [step, hphase]
        exact openWorker_fits hsaved (hd.saved status hsaved) (hd.timely.saved status hsaved)
      exact delivers_of_step hstep trivial [.restarted] rfl unstored_restarted (hopening rfl rfl)
  | opening => exact hopening hphase rfl
  | publishing => exact publishing_delivers hpending h hphase
  | sending =>
    rw [hphase] at hmarked
    exact sending_delivers hmarked.1 hphase
  | awaiting snapshot publication body todo resume =>
    exact awaiting_delivers (fun _ => sending_delivers) hphase
  | checkpoint => exact checkpoint_delivers hphase
  | clearing => exact clearing_delivers hphase
  | savingCollected rest =>
    have hstep : step x settings w (.write .done) = some { w.save with phase := .publishing (.pause rest) } := by
      simp only [step, written, hphase, World.saveThen]
    exact delivers_of_step hstep trivial [.saved] rfl unstored_saved
      (publishing_delivers hpending h rfl)
  | reporting error =>
    obtain ⟨status, hreport⟩ : ∃ status, step x settings w (.report 0 .done) =
        some { w with phase := .resting, status, saved := some status, clock := 0, log := .saved :: w.log } := by
      simp only [step, hphase]
      rw [if_pos (Nat.zero_le _)]
      exact ⟨_, rfl⟩
    exact delivers_of_step hreport trivial [.saved] rfl unstored_saved (hresting rfl rfl)
  | resting => exact hresting hphase rfl
  | scheduling | savingSchedule | looping | reading | storing | pausing =>
    rw [hphase] at hat
    exact hidle hat

/-- What a log stored last stands in it. -/
theorem exists_lastStored : ∀ {log : List Entry} {snapshot : TrafficSnapshot}, lastStored log = some snapshot →
    ∃ between older, log = between ++ .stored snapshot :: older ∧ Unstored between
  | [], _, h => by cases h
  | entry :: log, snapshot, h => by
    have ih := @exists_lastStored log snapshot
    cases entry with
    | stored other =>
      cases h
      exact ⟨[], log, rfl, unstored_nil⟩
    | acknowledged _ _ | scheduled _ | selected _ | saved | restarted =>
      obtain ⟨between, older, rfl, hbetween⟩ := ih h
      refine ⟨_ :: between, older, rfl, fun other hmem => ?_⟩
      rcases List.mem_cons.1 hmem with heq | hmem
      · cases heq
      · exact hbetween other hmem

/-- **From every state the worker can get its snapshot through.** Wherever a run has stopped, a crash included, steps
in which nothing fails lead to the removal of the pending snapshot's file before anything else is stored; and by then
the snapshot has been acknowledged since it was stored. -/
theorem pending_is_delivered (hnull : RefuseNull x) {events : List Event} (hreads : ∀ reads, .collected reads ∈ events → Received reads)
    (hrun : (worker x settings).Reaches events w) {snapshot : TrafficSnapshot} (hpending : w.pending = some snapshot) :
    ∃ more done newer between original older, (∀ event ∈ more, event.Undisturbed) ∧
      (worker x settings).runFrom w more = some done ∧ done.pending = none ∧ done.log = newer ++ w.log ∧
      w.log = between ++ .stored original :: older ∧ snapshot = reread original ∧ Unstored (newer ++ between) ∧
      .acknowledged snapshot.startMs snapshot.collected ∈ newer ++ between := by
  have hd := durable_run hnull hreads hrun
  obtain ⟨original, hlast, rfl⟩ := (delivering_run hrun).1.pending snapshot hpending
  obtain ⟨between, older, hlog, hbetween⟩ := exists_lastStored hlast
  obtain ⟨publication, hrestores⟩ := hd.stored original (by rw [hlog]; exact List.mem_append_right _ List.mem_cons_self)
  obtain ⟨more, done, newer, hmore, hdone, hnone, hgrown, hnewer⟩ := pending_delivers hd (marked_run hrun) hpending hrestores
  have hreached : (worker x settings).Reaches (events ++ more) done := by
    unfold Machine.Reaches
    rw [Machine.runFrom_append, show (worker x settings).runFrom _ events = some w from hrun]
    exact hdone
  have hsplit : done.log = (newer ++ between) ++ .stored original :: older := by
    rw [hgrown, hlog, List.append_assoc]
  have hunstored : Unstored (newer ++ between) := by
    intro other hmem
    exact (List.mem_append.1 hmem).elim (hnewer other) (hbetween other)
  refine ⟨more, done, newer, between, original, older, hmore, hdone, hnone, hgrown, hlog, rfl, hunstored, ?_⟩
  rcases (delivering_run hreached).1.pending_or_acknowledged hsplit hunstored with hpending | hmem
  · rw [hnone] at hpending
    cases hpending
  · exact hmem

end

/-- A crash behind the pending write, and how its snapshot gets through. -/
theorem pending_is_delivered_crash : ∃ w, (worker sampleCrates sampleSettings).Reaches
    (firstSelection ++ [.collected blankReads, .write .done, .crash]) w ∧ .acknowledged 0 false ∉ w.log ∧
      ∃ more done newer, (worker sampleCrates sampleSettings).runFrom w more = some done ∧ done.pending = none ∧
        done.log = newer ++ w.log ∧ .acknowledged 0 false ∈ newer := by
  have hworld : ((worker sampleCrates sampleSettings).runFrom (.empty sampleSettings)
      (firstSelection ++ [.collected blankReads, .write .done, .crash])).map
        (fun w => (w.pending, decide (.acknowledged 0 false ∉ w.log))) = some (some (blankSnapshot 0), true) := by
    decide +kernel
  obtain ⟨w, hrun, hworld⟩ := Option.map_eq_some_iff.1 hworld
  obtain ⟨hpending, hfresh⟩ := Prod.mk.inj hworld
  have hfresh := of_decide_eq_true hfresh
  have hreads : ∀ reads, .collected reads ∈ firstSelection ++ [.collected blankReads, .write .done, .crash] → Received reads := by
    intro reads hmem
    have hsame : reads = blankReads := by simpa [firstSelection] using hmem
    rw [hsame]
    exact blankReads_received
  obtain ⟨more, done, newer, between, _, _, -, hdone, hnone, hgrown, hlog, -, -, hmem⟩ :=
    pending_is_delivered sampleCrates_refuseNull hreads hrun hpending
  have hnew : .acknowledged 0 false ∈ newer := (List.mem_append.1 hmem).resolve_right fun hold =>
    hfresh (hlog ▸ List.mem_append_left _ hold)
  exact ⟨w, hrun, hfresh, more, done, newer, hdone, hnone, hgrown, hnew⟩

end UnifiMcp.Collector
