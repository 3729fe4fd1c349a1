import UnifiMcp.Server.Fairness
/-! # The hours of the collector (unifi-server/src/collector.rs)

The map of a status holds hours of one window, and the hours the worker is about are in the map of the memory
and in that of the file.

* `schedule_windowed`, `acknowledge_windowed` — the map stays within a window.
* `timely_move` — **every move keeps the hours.** -/
namespace UnifiMcp.Collector
open Text

/-! ## Windows -/

section
variable (settings : CollectionSettings)

theorem windowEnd_aligned (now : Nat) : windowEnd settings now % HOUR = 0 := Nat.mul_mod_left _ _

theorem windowStart_aligned (now : Nat) : windowStart settings now % HOUR = 0 := by
  unfold windowStart windowEnd
  rw [← Nat.sub_mul]
  exact Nat.mul_mod_left _ _

theorem windowEnd_le (now : Nat) : windowEnd settings now ≤ now :=
  Nat.le_trans (Nat.div_mul_le_self _ _) (Nat.sub_le _ _)

end

theorem hour_le {time later : Nat} (htime : time % HOUR = 0) (hlater : later % HOUR = 0) (h : time < later) :
    time + HOUR ≤ later := by
  unfold HOUR at *
  omega

/-- Whole hours between two times, in order: no more than fit. -/
theorem length_hours_le : ∀ {times : List Nat} {lo hi : Nat}, times.Pairwise (· < ·) →
    (∀ time ∈ times, time % HOUR = 0 ∧ lo ≤ time ∧ time < hi) → hi % HOUR = 0 → times.length * HOUR ≤ hi - lo
  | [], _, _, _, _, _ => by simp
  | time :: times, lo, hi, hsorted, htimes, hhi => by
    obtain ⟨hfirst, hrest⟩ := List.pairwise_cons.1 hsorted
    obtain ⟨haligned, hlo, hlt⟩ := htimes time List.mem_cons_self
    have htail : ∀ later ∈ times, later % HOUR = 0 ∧ time + HOUR ≤ later ∧ later < hi := by
      intro later hmem
      obtain ⟨hlater, -, hend⟩ := htimes later (List.mem_cons_of_mem _ hmem)
      exact ⟨hlater, hour_le haligned hlater (hfirst later hmem), hend⟩
    have ih := length_hours_le hrest htail hhi
    have hnext := hour_le haligned hhi hlt
    rw [List.length_cons, Nat.add_mul, Nat.one_mul]
    omega

/-- The hours are of one window. -/
def Windowed (settings : CollectionSettings) (intervals : SortedMap Nat Bool) : Prop :=
  ∃ now ≤ MAXIMUM_U64, ∀ time ∈ intervals.keys,
    time % HOUR = 0 ∧ windowStart settings now ≤ time ∧ time < windowEnd settings now

section
variable {settings : CollectionSettings} {intervals : SortedMap Nat Bool}

theorem Windowed.hour (h : Windowed settings intervals) {time : Nat} (hmem : time ∈ intervals.keys) :
    time % HOUR = 0 ∧ time + HOUR ≤ MAXIMUM_U64 := by
  obtain ⟨now, hnow, hkeys⟩ := h
  obtain ⟨haligned, -, hlt⟩ := hkeys time hmem
  have hnext := hour_le haligned (windowEnd_aligned settings now) hlt
  exact ⟨haligned, Nat.le_trans hnext (Nat.le_trans (windowEnd_le settings now) hnow)⟩

theorem Windowed.length_le (h : Windowed settings intervals) : intervals.length ≤ 168 := by
  obtain ⟨now, -, hkeys⟩ := h
  have hlength := length_hours_le (SortedMap.keys_sorted intervals) hkeys (windowEnd_aligned settings now)
  rw [List.length_map] at hlength
  have hhistory := settings.history.2
  have hstart : windowEnd settings now - windowStart settings now ≤ settings.historyHours * HOUR := by
    unfold windowStart
    omega
  unfold SortedMap.length
  unfold HOUR at *
  omega

end

/-! ## The schedule -/

theorem mem_hours {start end_ time : Nat} (h : time ∈ hours start end_) : start ≤ time ∧ time < end_ := by
  obtain ⟨k, hk, rfl⟩ := List.mem_map.1 h
  have hk := List.mem_range.1 hk
  refine ⟨Nat.le_add_right _ _, ?_⟩
  unfold HOUR at *
  omega

theorem hours_aligned {start end_ time : Nat} (hstart : start % HOUR = 0) (h : time ∈ hours start end_) : time % HOUR = 0 := by
  obtain ⟨k, -, rfl⟩ := List.mem_map.1 h
  unfold HOUR at *
  omega

theorem mem_keys_refill {intervals : SortedMap Nat Bool} {start end_ time : Nat} :
    time ∈ (refill intervals start end_).keys ↔
      time ∈ hours start end_ ∨ time ∈ intervals.keys ∧ start ≤ time ∧ time < end_ := by
  rw [SortedMap.mem_keys, refill, SortedMap.find?_foldl_orInsert, SortedMap.find?_retain]
  by_cases hmem : time ∈ hours start end_
  · simp [hmem]
  · by_cases hwindow : start ≤ time ∧ time < end_
    · simp [hmem, hwindow, SortedMap.mem_keys]
    · simp [hmem, hwindow]

section
variable {settings : CollectionSettings} {status : Status}

theorem schedule_windowed (settings : CollectionSettings) (status : Status) {now : Nat} (hnow : now ≤ MAXIMUM_U64)
    (h : Windowed settings status.intervals) : Windowed settings (schedule settings status now).1.intervals := by
  obtain ⟨before, -, hkeys⟩ := h
  refine ⟨now, hnow, fun time hmem => ?_⟩
  rw [schedule_status, Status.counted_intervals, mem_keys_refill] at hmem
  rcases hmem with hmem | ⟨hmem, hlo, hhi⟩
  · exact ⟨hours_aligned (windowStart_aligned settings now) hmem, mem_hours hmem⟩
  · exact ⟨(hkeys time hmem).1, hlo, hhi⟩

theorem chosen_mem_keys {now time : Nat} (h : time ∈ (schedule settings status now).2.chosen) :
    time ∈ (schedule settings status now).1.intervals.keys := by
  have hmem := RoundRobin.mem_rotate.1 (List.mem_of_mem_take h)
  obtain ⟨entry, hentry, rfl⟩ := List.mem_map.1 hmem
  exact List.mem_map_of_mem (List.mem_of_mem_filter hentry)

/-! ## The acknowledgement -/

/-- The hour is there, so nothing is evicted. -/
theorem acknowledge_of_mem (h : Windowed settings status.intervals) {snapshot : TrafficSnapshot}
    (hmem : snapshot.startMs ∈ status.intervals.keys) (records : Nat) :
    (acknowledge status snapshot records).intervals = status.intervals.insert snapshot.startMs snapshot.collected ∧
      (acknowledge status snapshot records).expiredGaps = status.expiredGaps := by
  have hkeys := SortedMap.keys_insert_of_mem hmem snapshot.collected
  have hlength : (status.intervals.insert snapshot.startMs snapshot.collected).length - 168 = 0 := by
    have hlength := congrArg List.length hkeys
    rw [SortedMap.keys, SortedMap.keys, List.length_map, List.length_map] at hlength
    have hle := h.length_le
    unfold SortedMap.length at *
    omega
  unfold acknowledge
  dsimp only
  rw [hlength]
  exact ⟨rfl, rfl⟩

theorem acknowledge_windowed (h : Windowed settings status.intervals) {snapshot : TrafficSnapshot}
    (hmem : snapshot.startMs ∈ status.intervals.keys) (records : Nat) :
    Windowed settings (acknowledge status snapshot records).intervals := by
  rw [(acknowledge_of_mem h hmem records).1]
  obtain ⟨now, hnow, hkeys⟩ := h
  exact ⟨now, hnow, by rwa [SortedMap.keys_insert_of_mem hmem]⟩

end

/-! ## The hours the worker is about -/

/-- The hour is one of the status in memory and of the one in the file. -/
def Covered (w : World) (time : Nat) : Prop :=
  time ∈ w.status.intervals.keys ∧ ∃ status, w.saved = some status ∧ time ∈ status.intervals.keys

/-- The candidates that are not in `status.json` yet. -/
def Phase.unsaved : Phase → Option (List Nat)
  | .savingSchedule candidates => some candidates
  | _ => none

@[simp] theorem Resume.phase_unsaved (resume : Resume) : resume.phase.unsaved = none := by cases resume <;> rfl

/-- Candidates, the current hour and the pending one are hours of the statuses. -/
structure Hourly (w : World) : Prop where
  unsaved : ∀ candidates, w.phase.unsaved = some candidates → ∀ time ∈ candidates, time ∈ w.status.intervals.keys
  rest : w.phase.unsaved = none → ∀ rest, w.phase.rest = some rest → ∀ time ∈ rest, Covered w time
  current : ∀ time, w.phase.current = some time → Covered w time
  pending : ∀ snapshot, w.pending = some snapshot → Covered w snapshot.startMs

structure Timely (settings : CollectionSettings) (w : World) : Prop where
  orderly : Orderly w
  memory : Windowed settings w.status.intervals
  saved : ∀ status, w.saved = some status → Windowed settings status.intervals
  hourly : Hourly w

section
variable {x : Crates} {settings : CollectionSettings} {w w' : World}

/-- A phase that comes with no hours or with those of the one before. -/
structure Follows (before next : Phase) : Prop where
  unsaved : next.unsaved = none
  rest : next.rest = none ∨ next.rest = before.rest ∧ before.unsaved = none
  current : next.current = none ∨ next.current = before.current

theorem Follows.ended {before next : Phase} (hunsaved : next.unsaved = none) (hrest : next.rest = none)
    (hcurrent : next.current = none) : Follows before next :=
  ⟨hunsaved, Or.inl hrest, Or.inl hcurrent⟩

theorem Follows.resumed {before : Phase} {resume : Resume} (hrest : before.rest = resume.rest)
    (hunsaved : before.unsaved = none) : Follows before resume.phase :=
  ⟨by simp, Or.inr ⟨by simp [hrest], hunsaved⟩, Or.inl (by simp)⟩

theorem Turn.follows {before next : Phase} (h : Turn x settings w before next) : Follows before next := by
  cases h with
  | crashed | ended | begun => exact .ended rfl rfl rfl
  | nothing => exact .resumed rfl rfl
  | sends | woken => exact ⟨rfl, Or.inr ⟨rfl, rfl⟩, Or.inl rfl⟩
  | collected hcollect => exact ⟨rfl, Or.inr ⟨rfl, rfl⟩, Or.inr (congrArg some (collectTraffic_ok hcollect).1)⟩

theorem Hourly.carry (h : Hourly w) (hcovered : ∀ time, Covered w time → Covered w' time)
    (hpending : ∀ snapshot, w'.pending = some snapshot → w.pending = some snapshot)
    (hphase : Follows w.phase w'.phase) : Hourly w' where
  unsaved := fun candidates hc => by
    rw [hphase.unsaved] at hc
    cases hc
  rest := fun _ rest hrest time hmem => by
    rcases hphase.rest with hnone | ⟨hsame, hunsaved⟩
    · rw [hnone] at hrest
      cases hrest
    · exact hcovered time (h.rest hunsaved rest (hsame ▸ hrest) time hmem)
  current := fun time hcurrent => by
    rcases hphase.current with hnone | hsame
    · rw [hnone] at hcurrent
      cases hcurrent
    · exact hcovered time (h.current time (hsame ▸ hcurrent))
  pending := fun snapshot hsnapshot => hcovered _ (h.pending snapshot (hpending snapshot hsnapshot))

theorem covered_save {time : Nat} (h : Covered w time) : Covered w.save time := ⟨h.1, w.status, rfl, h.1⟩

theorem hourly_saves (h : Hourly w) {next : Phase} (hsave : Saves w.phase next) : Hourly { w.save with phase := next } := by
  have hcarry (hphase : Follows w.phase next) : Hourly { w.save with phase := next } :=
    h.carry (fun _ => covered_save) (fun _ => id) hphase
  generalize hbefore : w.phase = before at hsave hcarry
  cases hsave with
  | opened | closed | ended => exact hcarry (.ended rfl rfl rfl)
  | published | collected => exact hcarry ⟨rfl, Or.inr ⟨rfl, rfl⟩, Or.inl rfl⟩
  | @scheduled candidates =>
    -- the candidates are hours of the status that is in the file now
    have hkeys := h.unsaved candidates (by rw [hbefore]; rfl)
    refine ⟨fun _ hc => (by cases hc), fun _ rest hrest time hmem => ?_, fun _ hc => (by cases hc),
      fun snapshot hsnapshot => ?_⟩
    · cases hrest
      exact ⟨hkeys time hmem, w.status, rfl, hkeys time hmem⟩
    · have hcover := h.pending snapshot hsnapshot
      exact ⟨hcover.1, w.status, rfl, hcover.1⟩

theorem hourly_schedules (hpending : w.pending = none) (now : Nat) :
    Hourly { w with
      phase := .savingSchedule (schedule settings w.status now).2.chosen
      status := (schedule settings w.status now).1
      clock := now
      log := .scheduled (schedule settings w.status now).2 :: w.log } := by
  have hkeys : ∀ time ∈ (schedule settings w.status now).2.chosen,
      time ∈ (schedule settings w.status now).1.intervals.keys := fun _ => chosen_mem_keys
  generalize (schedule settings w.status now).1 = status at hkeys
  generalize (schedule settings w.status now).2 = call at hkeys
  refine ⟨fun candidates hc time hmem => ?_, fun h => (by cases h), fun _ h => (by cases h), fun snapshot h => ?_⟩
  · cases hc
    exact hkeys time hmem
  · have hsnapshot : w.pending = some snapshot := h
    rw [hpending] at hsnapshot
    cases hsnapshot

theorem hourly_selects (h : Hourly w) {start : Nat} {rest : List Nat} (hphase : w.phase = .looping (start :: rest)) :
    Hourly { w with phase := .reading start rest, log := .selected start :: w.log } := by
  have hrest := h.rest (by rw [hphase]; rfl) (start :: rest) (by rw [hphase]; rfl)
  refine ⟨fun _ hc => (by cases hc), fun _ left hleft time hmem => ?_, fun time htime => ?_, h.pending⟩
  · cases hleft
    exact hrest time (List.mem_cons_of_mem _ hmem)
  · cases htime
    exact hrest start List.mem_cons_self

theorem hourly_stores (h : Hourly w) {snapshot : TrafficSnapshot} {rest : List Nat} (hphase : w.phase = .storing snapshot rest) :
    Hourly (w.store snapshot) := by
  have hcover : Covered w snapshot.startMs := h.current _ (by rw [hphase]; rfl)
  refine ⟨h.unsaved, h.rest, h.current, fun pending hpending => ?_⟩
  cases hpending
  exact hcover

/-- The hour of a publication is known, so an acknowledgement adds none. -/
theorem Timely.publishing (h : Timely settings w) {snapshot : TrafficSnapshot} {publication : Publication} {body : Text}
    {todo : List Text} {resume : Resume} (hphase : w.phase = .awaiting snapshot publication body todo resume) :
    Covered w snapshot.startMs := by
  have hpending := h.orderly.pending
  rw [hphase] at hpending
  exact h.hourly.pending snapshot hpending

theorem hourly_move (h : Timely settings w) (hm : Move x settings w w') : Hourly w' := by
  have hhourly := h.hourly
  cases hm with
  | @restarts status hphase hsaved =>
    have hsame : ∀ time, Covered w time → time ∈ status.intervals.keys := by
      rintro time ⟨-, saved, hstatus, hmem⟩
      rcases hsaved with hsaved | ⟨hsaved, -⟩
      · rw [hsaved] at hstatus
        cases hstatus
        exact hmem
      · rw [hsaved] at hstatus
        cases hstatus
    exact hhourly.carry (fun time hcover => ⟨hsame time hcover, hcover.2⟩) (fun _ => id) (.ended rfl rfl rfl)
  | turns hturn => exact hhourly.carry (fun _ => id) (fun _ => id) hturn.follows
  | saves hsave => exact hourly_saves hhourly hsave
  | posts hphase | answered hphase =>
    refine hhourly.carry (fun _ => id) (fun _ => id) ?_
    rw [hphase]
    exact ⟨rfl, Or.inr ⟨rfl, rfl⟩, Or.inl rfl⟩
  | @acknowledges snapshot publication body resume hphase =>
    have hkey := (h.publishing hphase).1
    have hkeys : (acknowledge w.status snapshot publication.records).intervals.keys = w.status.intervals.keys := by
      rw [(acknowledge_of_mem h.memory hkey _).1, SortedMap.keys_insert_of_mem hkey]
    refine hhourly.carry (fun time hcover => ⟨?_, hcover.2⟩) (fun _ => id) ?_
    · rw [hkeys]
      exact hcover.1
    · rw [hphase]
      exact ⟨rfl, Or.inr ⟨rfl, rfl⟩, Or.inl rfl⟩
  | rejected => exact hhourly.carry (fun _ => id) (fun _ => id) (.ended rfl rfl rfl)
  | arrives => exact ⟨hhourly.unsaved, hhourly.rest, hhourly.current, hhourly.pending⟩
  | clears hphase hnext =>
    refine hhourly.carry (fun _ => id) (fun _ hpending => by cases hpending) ?_
    rcases hnext with rfl | ⟨error, rfl⟩
    · rw [hphase]
      exact .resumed rfl rfl
    · exact .ended rfl rfl rfl
  | schedules hphase =>
    have hpending := h.orderly.pending
    rw [hphase] at hpending
    exact hourly_schedules hpending _
  | selects hphase => exact hourly_selects hhourly hphase
  | stores hphase hnext =>
    refine (hourly_stores hhourly hphase).carry (fun _ => id) (fun _ => id) ?_
    show Follows w.phase _
    rcases hnext with rfl | ⟨error, rfl⟩
    · rw [hphase]
      exact ⟨rfl, Or.inr ⟨rfl, rfl⟩, Or.inl rfl⟩
    · exact .ended rfl rfl rfl
  | reports hstatus hsaved =>
    refine hhourly.carry (fun time hcover => ?_) (fun _ => id) (.ended rfl rfl rfl)
    refine ⟨by rw [hstatus.1]; exact hcover.1, ?_⟩
    rcases hsaved with ⟨rfl, -⟩ | ⟨rfl, -⟩
    · exact hcover.2
    · exact ⟨_, rfl, by rw [hstatus.1]; exact hcover.1⟩

theorem windowed_empty (settings : CollectionSettings) : Windowed settings .empty := ⟨0, Nat.zero_le _, nofun⟩

/-- The maps stay within windows. -/
theorem windowed_move (h : Timely settings w) (hm : Move x settings w w') :
    Windowed settings w'.status.intervals ∧ ∀ status, w'.saved = some status → Windowed settings status.intervals := by
  cases hm with
  | restarts _ hsaved =>
    refine ⟨?_, h.saved⟩
    rcases hsaved with hsaved | ⟨-, rfl⟩
    · exact h.saved _ hsaved
    · exact windowed_empty settings
  | turns | posts | answered | rejected | arrives | clears | selects | stores => exact ⟨h.memory, h.saved⟩
  | saves =>
    refine ⟨h.memory, fun status hstatus => ?_⟩
    cases hstatus
    exact h.memory
  | acknowledges hphase => exact ⟨acknowledge_windowed h.memory (h.publishing hphase).1 _, h.saved⟩
  | schedules hphase hnow => exact ⟨schedule_windowed settings w.status hnow h.memory, h.saved⟩
  | reports hstatus hsaved =>
    refine ⟨by rw [hstatus.1]; exact h.memory, fun status hs => ?_⟩
    rcases hsaved with ⟨rfl, -⟩ | ⟨rfl, -⟩
    · exact h.saved status hs
    · cases hs
      rw [hstatus.1]
      exact h.memory

/-- **Every move keeps the hours.** -/
theorem timely_move (h : Timely settings w) (hm : Move x settings w w') : Timely settings w' :=
  ⟨orderly_move h.orderly hm, (windowed_move h hm).1, (windowed_move h hm).2, hourly_move h hm⟩

theorem timely_empty (settings : CollectionSettings) : Timely settings (.empty settings) where
  orderly := ⟨fun _ h => (by cases h), trivial, fun _ => rfl⟩
  memory := windowed_empty settings
  saved := fun _ h => (by cases h)
  hourly := ⟨fun _ h => (by cases h), fun _ _ h => (by cases h), fun _ h => (by cases h), fun _ h => (by cases h)⟩

end

end UnifiMcp.Collector
