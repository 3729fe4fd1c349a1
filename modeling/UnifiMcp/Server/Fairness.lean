import UnifiMcp.Server.Worker
/-! # The round robin of the collector (unifi-server/src/collector.rs)

The cursor moves to an hour when its publication is acknowledged, and the next call of `schedule`
starts behind it. A selection that was cut off before the pending write moves nothing, so the same
hour is selected again; one that got there takes the cursor along.

* `selection_is_fair` — after such a selection of `t`, an hour that stays a candidate is selected
  before `t` is again.
* `selection_repeats` — without the pending write it need not be. -/
namespace UnifiMcp.Collector
open RoundRobin

/-! ## The log -/

/-- The latest call of `schedule`. -/
def latestCall : List Entry → Option Call
  | [] => none
  | .scheduled call :: _ => some call
  | _ :: log => latestCall log

/-- The latest call offers `u`. -/
def Offered (u : Nat) (log : List Entry) : Prop := ∃ call, latestCall log = some call ∧ u ∈ call.candidates

/-- Since a selection of `t` that got to `pending.json`, and in the call that it was from, `u` was a
candidate in every call; and it has not been selected. -/
def Waits (t u : Nat) : List Entry → Prop
  | [] => False
  | .stored snapshot :: log =>
    if snapshot.startMs = t then Offered u log else Waits t u log
  | .scheduled call :: log => Waits t u log ∧ u ∈ call.candidates
  | .selected start :: log => Waits t u log ∧ start ≠ u
  | _ :: log => Waits t u log

/-- No selection while another hour waits for one. -/
def Fair : List Entry → Prop
  | [] => True
  | .selected t :: log => (∀ u, u ≠ t → ¬Waits t u log) ∧ Fair log
  | _ :: log => Fair log

/-! ## Where the worker is in its candidates -/

def Resume.rest : Resume → Option (List Nat)
  | .schedule => none
  | .pause rest => some rest

/-- The candidates that are left. -/
def Phase.rest : Phase → Option (List Nat)
  | .publishing resume | .sending _ _ _ resume | .awaiting _ _ _ _ resume | .checkpoint resume
  | .clearing resume => resume.rest
  | .savingSchedule candidates | .looping candidates => some candidates
  | .reading _ rest | .storing _ rest | .savingCollected rest | .pausing rest => some rest
  | _ => none

/-- The hour that is read or stored. -/
def Phase.current : Phase → Option Nat
  | .reading start _ => some start
  | .storing snapshot _ => some snapshot.startMs
  | _ => none

/-- The next phase goes on with the same candidates, or drops them. -/
def Keeps (before next : Phase) : Prop :=
  next.current = none ∧ (next.rest = none ∨ next.rest = before.rest) ∨
    next.current = before.current ∧ next.rest = before.rest

@[simp] theorem Resume.phase_rest (resume : Resume) : resume.phase.rest = resume.rest := by cases resume <;> rfl

@[simp] theorem Resume.phase_current (resume : Resume) : resume.phase.current = none := by cases resume <;> rfl

section
variable {x : Crates} {settings : CollectionSettings} {w w' : World}

theorem Turn.keeps {before next : Phase} (h : Turn x settings w before next) : Keeps before next := by
  cases h with
  | crashed | ended => exact Or.inl ⟨rfl, Or.inl rfl⟩
  | nothing => exact Or.inl ⟨Resume.phase_current _, Or.inr (Resume.phase_rest _)⟩
  | sends | woken => exact Or.inl ⟨rfl, Or.inr rfl⟩
  | collected hcollect => exact Or.inr ⟨congrArg some (collectTraffic_ok hcollect).1, rfl⟩
  | begun => exact Or.inl ⟨rfl, Or.inl rfl⟩

theorem Saves.keeps {before next : Phase} (h : Saves before next) : Keeps before next := by
  cases h with
  | opened | closed | ended => exact Or.inl ⟨rfl, Or.inl rfl⟩
  | published | scheduled | collected => exact Or.inl ⟨rfl, Or.inr rfl⟩

/-! ## Order -/

/-- The candidates of a call are sorted; the chosen ones are the first behind the cursor. -/
structure Turned (call : Call) : Prop where
  sorted : call.candidates.Pairwise (· < ·)
  chosen : ∃ cut, call.chosen ++ cut = rotate call.cursor call.candidates

theorem schedule_turned (settings : CollectionSettings) (status : Status) (now : Nat) :
    Turned (schedule settings status now).2 where
  sorted := by
    refine List.Pairwise.sublist ?_ (SortedMap.keys_sorted (refill status.intervals (windowStart settings now)
      (windowEnd settings now)))
    exact List.filter_sublist.map Prod.fst
  chosen := ⟨_, List.take_append_drop ..⟩

/-- What is left is the end of what the latest call chose, behind the current hour. -/
def Remaining (log : List Entry) (phase : Phase) : Prop :=
  ∀ rest, phase.rest = some rest → ∃ call done, latestCall log = some call ∧ Turned call ∧
    call.chosen = done ++ rest ∧ ∀ start, phase.current = some start → ∃ front, done = front ++ [start]

theorem Remaining.keeps {log : List Entry} {before next : Phase} (h : Remaining log before)
    (hk : Keeps before next) : Remaining log next := by
  intro rest hrest
  rcases hk with ⟨hcurrent, hnone | hsame⟩ | ⟨hcurrent, hsame⟩
  · rw [hnone] at hrest
    cases hrest
  · obtain ⟨call, done, hcall, hturned, hchosen, -⟩ := h rest (hsame ▸ hrest)
    exact ⟨call, done, hcall, hturned, hchosen, fun start hs => by rw [hcurrent] at hs; cases hs⟩
  · obtain ⟨call, done, hcall, hturned, hchosen, hfront⟩ := h rest (hsame ▸ hrest)
    exact ⟨call, done, hcall, hturned, hchosen, fun start hs => hfront start (hcurrent ▸ hs)⟩

/-- The cursor of `status.json`. -/
def World.savedCursor (w : World) : Option Nat := w.saved.bind Status.cursor

/-- What the pending snapshot is in each phase. -/
def PendingAt (w : World) : Phase → Prop
  | .sending snapshot _ _ _ | .awaiting snapshot _ _ _ _ => w.pending = some snapshot
  | .checkpoint _ => ∃ snapshot, w.pending = some snapshot ∧ w.status.cursor = some snapshot.startMs
  | .clearing _ => ∃ snapshot, w.pending = some snapshot ∧ w.status.cursor = some snapshot.startMs ∧
      w.savedCursor = some snapshot.startMs
  | .scheduling | .savingSchedule _ | .looping _ | .reading _ _ | .storing _ _ | .pausing _ => w.pending = none
  | _ => True

/-- The state between any two steps. -/
structure Orderly (w : World) : Prop where
  remaining : Remaining w.log w.phase
  pending : PendingAt w w.phase
  /-- Without a pending snapshot the cursor of the file is that of the memory. -/
  cursor : w.pending = none → w.savedCursor = w.status.cursor

theorem Turn.pendingAt {before next : Phase} (h : Turn x settings w before next) (hp : PendingAt w before) :
    PendingAt w next := by
  cases h with
  | crashed | ended | begun => trivial
  | @nothing resume hpending => cases resume <;> exact hpending
  | sends hpending => exact hpending
  | collected | woken => exact hp

/-- **Every move keeps the order.** -/
theorem orderly_move (ho : Orderly w) (h : Move x settings w w') : Orderly w' := by
  obtain ⟨hremaining, hpending, hcursor⟩ := ho
  cases h with
  | restarts hphase hsaved =>
    refine ⟨fun _ h => (by cases h), trivial, fun _ => ?_⟩
    rcases hsaved with hsaved | ⟨hsaved, rfl⟩
    · simp [World.savedCursor, hsaved]
    · simp [World.savedCursor, hsaved, Status.fresh]
  | turns h => exact ⟨hremaining.keeps h.keeps, h.pendingAt hpending, hcursor⟩
  | saves h =>
    refine ⟨hremaining.keeps h.keeps, ?_, fun _ => rfl⟩
    generalize hbefore : w.phase = before at h hpending
    cases h with
    | opened | closed | ended => trivial
    | published =>
      obtain ⟨snapshot, hp, hc⟩ := hpending
      exact ⟨snapshot, hp, hc, hc⟩
    | scheduled => exact hpending
    | collected => trivial
  | posts hphase | answered hphase =>
    rw [hphase] at hpending hremaining
    exact ⟨hremaining, hpending, hcursor⟩
  | acknowledges hphase =>
    rw [hphase] at hpending hremaining
    have hpending : w.pending = some _ := hpending
    exact ⟨hremaining, ⟨_, hpending, rfl⟩, fun h => by rw [hpending] at h; cases h⟩
  | rejected => exact ⟨fun _ h => (by cases h), trivial, hcursor⟩
  | arrives => exact ⟨hremaining, hpending, hcursor⟩
  | clears hphase hnext =>
    rw [hphase] at hpending hremaining
    obtain ⟨snapshot, -, hc, hs⟩ := hpending
    rcases hnext with rfl | ⟨error, rfl⟩
    · refine ⟨hremaining.keeps (Or.inl ⟨Resume.phase_current _, Or.inr (Resume.phase_rest _)⟩), ?_, fun _ => hs.trans hc.symm⟩
      rename_i resume
      cases resume <;> rfl
    · exact ⟨fun _ h => (by cases h), trivial, fun _ => hs.trans hc.symm⟩
  | @schedules now hphase =>
    rw [hphase] at hpending
    have hturned := schedule_turned settings w.status now
    have hsame : (schedule settings w.status now).1.cursor = w.status.cursor := by
      rw [schedule_status, Status.counted_cursor]
    generalize schedule settings w.status now = scheduled at hturned hsame ⊢
    refine ⟨?_, hpending, fun hp => (hcursor hp).trans hsame.symm⟩
    rintro rest ⟨⟩
    exact ⟨scheduled.2, [], rfl, hturned, rfl, fun _ h => by cases h⟩
  | @selects start rest hphase =>
    rw [hphase] at hpending hremaining
    refine ⟨?_, hpending, hcursor⟩
    rintro _ ⟨⟩
    obtain ⟨call, done, hcall, hturned, hchosen, -⟩ := hremaining _ rfl
    exact ⟨call, done ++ [start], hcall, hturned, by rw [hchosen]; simp, fun _ h => by cases h; exact ⟨done, rfl⟩⟩
  | @stores snapshot rest _ _ hphase hnext =>
    rw [hphase] at hremaining
    rcases hnext with rfl | ⟨error, rfl⟩
    · have hk : Keeps (.storing snapshot rest) (.savingCollected rest) := Or.inl ⟨rfl, Or.inr rfl⟩
      exact ⟨hremaining.keeps hk, trivial, fun h => by cases h⟩
    · exact ⟨fun _ h => (by cases h), trivial, fun h => by cases h⟩
  | reports hstatus hsaved =>
    refine ⟨fun _ h => (by cases h), trivial, fun hp => ?_⟩
    rcases hsaved with ⟨rfl, -⟩ | ⟨rfl, -⟩
    · exact (hcursor hp).trans hstatus.2.2.symm
    · rfl

/-! ## Debts -/

/-- The cursor is at `t`, or behind it and not behind `u`. -/
def Passed (t u e : Nat) : Prop := e = t ∨ Before (some t) e u

/-- Where the worker is while `u` waits: the next cursor has not passed `u`, and all that is still
to be selected before `u` lies between `t` and `u`. -/
structure Tracked (t u : Nat) (w : World) : Prop where
  pending : ∀ snapshot, w.pending = some snapshot → Passed t u snapshot.startMs
  cursor : w.pending = none → ∃ e, w.status.cursor = some e ∧ Passed t u e
  rest : ∀ rest, w.phase.rest = some rest → Clear t u rest
  current : ∀ start, w.phase.current = some start → Before (some t) start u

/-- The phase changes and keeps its candidates; the next cursor stays. -/
theorem Tracked.keeps {t u : Nat} {w w' : World} (h : Tracked t u w) (hk : Keeps w.phase w'.phase)
    (hpending : w'.pending = w.pending) (hcursor : w.pending = none → w'.status.cursor = w.status.cursor) :
    Tracked t u w' := by
  refine ⟨fun s hs => h.pending s (hpending ▸ hs), fun hn => ?_, fun rest hr => ?_, fun start hs => ?_⟩
  · have hn : w.pending = none := hpending ▸ hn
    rw [hcursor hn]
    exact h.cursor hn
  · rcases hk with ⟨-, hnone | hsame⟩ | ⟨-, hsame⟩
    · rw [hnone] at hr
      cases hr
    · exact h.rest rest (hsame ▸ hr)
    · exact h.rest rest (hsame ▸ hr)
  · rcases hk with ⟨hnone, -⟩ | ⟨hsame, -⟩
    · rw [hnone] at hs
      cases hs
    · exact h.current start (hsame ▸ hs)

/-- A phase without candidates. -/
theorem keeps_of_none {before next : Phase} (hc : next.current = none) (hr : next.rest = none) : Keeps before next :=
  Or.inl ⟨hc, Or.inl hr⟩

/-- A phase with the same candidates. -/
theorem keeps_of_rest {before next : Phase} (hc : next.current = none) (hr : next.rest = before.rest) :
    Keeps before next :=
  Or.inl ⟨hc, Or.inr hr⟩

/-- Every waiting hour is tracked, and no selection was unfair. -/
structure FairInv (w : World) : Prop where
  orderly : Orderly w
  tracked : ∀ t u, u ≠ t → Waits t u w.log → Tracked t u w
  fair : Fair w.log

/-- A move that adds nothing to the log that counts. -/
theorem FairInv.quiet {w w' : World} (h : FairInv w) (ho : Orderly w') (hwaits : ∀ t u, Waits t u w'.log → Waits t u w.log)
    (hfair : Fair w.log → Fair w'.log) (hk : Keeps w.phase w'.phase) (hpending : w'.pending = w.pending)
    (hcursor : w.pending = none → w'.status.cursor = w.status.cursor) : FairInv w' :=
  ⟨ho, fun t u hne hw => (h.tracked t u hne (hwaits t u hw)).keeps hk hpending hcursor, hfair h.fair⟩

/-- A selection while another hour waits is not of the hour it waits behind. -/
theorem Tracked.not_selected {t u start : Nat} {rest : List Nat} (h : Tracked t u w)
    (hphase : w.phase = .looping (start :: rest)) (hne : u ≠ t) : start ≠ t := by
  rintro rfl
  have hclear : Clear start u (start :: rest) := h.rest _ (by rw [hphase]; rfl)
  exact not_before_self start u (hclear.head (Ne.symm hne))

theorem selects_fair {start : Nat} {rest : List Nat} (h : FairInv w) (hphase : w.phase = .looping (start :: rest))
    (ho : Orderly { w with phase := .reading start rest, log := .selected start :: w.log }) :
    FairInv { w with phase := .reading start rest, log := .selected start :: w.log } := by
  refine ⟨ho, fun t u hne hw => ?_, fun u hne hw => ?_, h.fair⟩
  · have htracked := h.tracked t u hne hw.1
    have hclear : Clear t u (start :: rest) := htracked.rest _ (by rw [hphase]; rfl)
    refine ⟨htracked.pending, htracked.cursor, ?_, ?_⟩
    · rintro _ ⟨⟩
      exact hclear.tail hw.2
    · rintro _ ⟨⟩
      exact hclear.head hw.2
  · exact (h.tracked start u hne hw).not_selected hphase hne rfl

theorem schedules_fair {status : Status} {call : Call} {now : Nat} (h : FairInv w) (hphase : w.phase = .scheduling)
    (hcursor : status.cursor = w.status.cursor) (hfrom : call.cursor = w.status.cursor) (hturned : Turned call)
    (ho : Orderly { w with
      phase := .savingSchedule call.chosen, status, clock := now, log := .scheduled call :: w.log }) :
    FairInv { w with phase := .savingSchedule call.chosen, status, clock := now, log := .scheduled call :: w.log } := by
  refine ⟨ho, fun t u hne hw => ?_, h.fair⟩
  have hpending : w.pending = none := by
    have := h.orderly.pending
    rw [hphase] at this
    exact this
  have htracked := h.tracked t u hne hw.1
  obtain ⟨e, he, hpassed⟩ := htracked.cursor hpending
  obtain ⟨cut, hcut⟩ := hturned.chosen
  refine ⟨htracked.pending, fun _ => ⟨e, hcursor.trans he, hpassed⟩, ?_, fun _ h => (by cases h)⟩
  rintro _ ⟨⟩
  have hsorted : (call.chosen ++ cut).Pairwise (Before (some e)) := by
    rw [hcut, hfrom, he]
    exact rotate_sorted hturned.sorted
  exact clear_of_cursor hpassed hsorted (by rw [hcut, mem_rotate]; exact hw.2)

theorem stores_fair {snapshot : TrafficSnapshot} {rest : List Nat} {lastCollectedInterval : Option Nat} {next : Phase}
    (h : FairInv w) (hphase : w.phase = .storing snapshot rest) (hcurrent : next.current = none)
    (hrest : next.rest = none ∨ next.rest = some rest)
    (ho : Orderly { w.store snapshot with status := { w.status with lastCollectedInterval }, phase := next }) :
    FairInv { w.store snapshot with status := { w.status with lastCollectedInterval }, phase := next } := by
  refine ⟨ho, fun t u hne hw => ?_, h.fair⟩
  have hw : if snapshot.startMs = t then Offered u w.log else Waits t u w.log := hw
  have hremaining := h.orderly.remaining
  rw [hphase] at hremaining
  obtain ⟨call, done, hcall, hturned, hchosen, hfront⟩ := hremaining rest rfl
  obtain ⟨front, rfl⟩ := hfront _ rfl
  have hkey : Passed t u snapshot.startMs ∧ Clear t u rest := by
    split at hw
    · rename_i hstart
      obtain ⟨call', hcall', hu⟩ := hw
      obtain rfl : call = call' := Option.some.inj (hcall.symm.trans hcall')
      obtain ⟨cut, hcut⟩ := hturned.chosen
      have hlist : rotate call.cursor call.candidates = front ++ t :: (rest ++ cut) := by
        rw [← hcut, hchosen, hstart]
        simp
      have hsorted : (front ++ t :: (rest ++ cut)).Pairwise (Before call.cursor) := by
        rw [← hlist]
        exact rotate_sorted hturned.sorted
      exact ⟨Or.inl hstart, clear_of_taken hne hsorted (by rw [← hlist, mem_rotate]; exact hu)⟩
    · have htracked := h.tracked t u hne hw
      exact ⟨Or.inr (htracked.current _ (by rw [hphase]; rfl)), htracked.rest rest (by rw [hphase]; rfl)⟩
  refine ⟨?_, fun hn => (by cases hn), fun r hr => ?_, fun start hs => ?_⟩
  · rintro _ ⟨⟩
    exact hkey.1
  · have hr : next.rest = some r := hr
    rcases hrest with hnone | hsame
    · rw [hnone] at hr
      cases hr
    · rw [hsame] at hr
      cases hr
      exact hkey.2
  · have hs : next.current = some start := hs
    rw [hcurrent] at hs
    cases hs

theorem clears_fair {resume : Resume} {next : Phase} (h : FairInv w) (hphase : w.phase = .clearing resume)
    (hk : Keeps w.phase next) (ho : Orderly { w with pending := none, phase := next }) :
    FairInv { w with pending := none, phase := next } := by
  refine ⟨ho, fun t u hne hw => ?_, h.fair⟩
  have htracked := h.tracked t u hne hw
  have hpending := h.orderly.pending
  rw [hphase] at hpending
  obtain ⟨snapshot, hp, hc, -⟩ := hpending
  have hbase : Tracked t u { w with phase := next } := htracked.keeps hk rfl fun _ => rfl
  exact ⟨fun _ h => (by cases h), fun _ => ⟨_, hc, htracked.pending snapshot hp⟩, hbase.rest, hbase.current⟩

/-- **Every move keeps the round robin fair.** -/
theorem fairInv_move (h : FairInv w) (hm : Move x settings w w') : FairInv w' := by
  have ho := orderly_move h.orderly hm
  cases hm with
  | restarts hphase hsaved =>
    refine h.quiet ho (fun _ _ => id) id (keeps_of_none rfl rfl) rfl fun hp => ?_
    rw [← h.orderly.cursor hp]
    rcases hsaved with hsaved | ⟨hsaved, rfl⟩
    · simp [World.savedCursor, hsaved]
    · simp [World.savedCursor, hsaved, Status.fresh]
  | turns hturn => exact h.quiet ho (fun _ _ => id) id hturn.keeps rfl fun _ => rfl
  | saves hsave => exact h.quiet ho (fun _ _ => id) id hsave.keeps rfl fun _ => rfl
  | posts hphase | answered hphase =>
    exact h.quiet ho (fun _ _ => id) id (keeps_of_rest rfl (by rw [hphase]; rfl)) rfl fun _ => rfl
  | acknowledges hphase =>
    have hpending := h.orderly.pending
    rw [hphase] at hpending
    have hpending : w.pending = some _ := hpending
    refine h.quiet ho (fun _ _ => id) id (keeps_of_rest rfl (by rw [hphase]; rfl)) rfl fun hp => ?_
    rw [hpending] at hp
    cases hp
  | rejected => exact h.quiet ho (fun _ _ => id) id (keeps_of_none rfl rfl) rfl fun _ => rfl
  | arrives => exact h.quiet ho (fun _ _ => id) id (Or.inr ⟨rfl, rfl⟩) rfl fun _ => rfl
  | clears hphase hnext =>
    refine clears_fair h hphase ?_ ho
    rw [hphase]
    rcases hnext with rfl | ⟨error, rfl⟩
    · exact keeps_of_rest (Resume.phase_current _) (Resume.phase_rest _)
    · exact keeps_of_none rfl rfl
  | @schedules now hphase =>
    have hturned := schedule_turned settings w.status now
    have hsame : (schedule settings w.status now).1.cursor = w.status.cursor := by
      rw [schedule_status, Status.counted_cursor]
    have hfrom : (schedule settings w.status now).2.cursor = w.status.cursor := rfl
    generalize schedule settings w.status now = scheduled at hturned hsame hfrom ho ⊢
    exact schedules_fair h hphase hsame hfrom hturned ho
  | selects hphase => exact selects_fair h hphase ho
  | stores hphase hnext =>
    refine stores_fair h hphase ?_ ?_ ho
    · rcases hnext with rfl | ⟨error, rfl⟩ <;> rfl
    · rcases hnext with rfl | ⟨error, rfl⟩
      · exact Or.inr rfl
      · exact Or.inl rfl
  | reports hstatus hsaved =>
    refine h.quiet ho (fun t u hw => ?_) (fun hf => ?_) (keeps_of_none rfl rfl) rfl fun _ => hstatus.2.2
    · rcases hsaved with ⟨-, rfl⟩ | ⟨-, rfl⟩ <;> exact hw
    · rcases hsaved with ⟨-, rfl⟩ | ⟨-, rfl⟩ <;> exact hf

theorem fairInv_empty (settings : CollectionSettings) : FairInv (.empty settings) where
  orderly := ⟨fun _ h => (by cases h), trivial, fun _ => rfl⟩
  tracked := fun _ _ _ h => h.elim
  fair := trivial

/-! ## Selections -/

theorem offered_append {u : Nat} {log : List Entry} (h : Offered u log) : ∀ {entries : List Entry},
    (∀ call, .scheduled call ∈ entries → u ∈ call.candidates) → Offered u (entries ++ log)
  | [], _ => h
  | entry :: entries, hc => by
    have ih : Offered u (entries ++ log) := offered_append h fun call hm => hc call (List.mem_cons_of_mem _ hm)
    cases entry with
    | scheduled call => exact ⟨call, rfl, hc call List.mem_cons_self⟩
    | selected | stored | acknowledged | saved | restarted => exact ih

/-- Entries with all calls offering `u` and no selection of it keep it waiting. -/
theorem waits_append {t u : Nat} {log : List Entry} (h : Waits t u log) (ho : Offered u log) :
    ∀ {entries : List Entry}, (∀ call, .scheduled call ∈ entries → u ∈ call.candidates) →
      .selected u ∉ entries → Waits t u (entries ++ log)
  | [], _, _ => h
  | entry :: entries, hc, hs => by
    have hcalls : ∀ call, .scheduled call ∈ entries → u ∈ call.candidates := fun call hm =>
      hc call (List.mem_cons_of_mem _ hm)
    have ih := waits_append h ho hcalls fun hm => hs (List.mem_cons_of_mem _ hm)
    cases entry with
    | scheduled call => exact ⟨ih, hc call List.mem_cons_self⟩
    | selected start => exact ⟨ih, fun he => hs (he ▸ List.mem_cons_self)⟩
    | stored snapshot =>
      show if snapshot.startMs = t then Offered u (entries ++ log) else Waits t u (entries ++ log)
      split
      · exact offered_append ho hcalls
      · exact ih
    | acknowledged | saved | restarted => exact ih

theorem Fair.suffix {log : List Entry} : ∀ {entries : List Entry}, Fair (entries ++ log) → Fair log
  | [], h => h
  | entry :: entries, h => by
    cases entry with
    | selected => exact Fair.suffix h.2
    | scheduled | stored | acknowledged | saved | restarted => exact @Fair.suffix log entries h

/-- **The round robin is fair.** Between a selection of `t` that got to `pending.json` and a later one,
an hour that every call offered is selected. -/
theorem selection_is_fair {events : List Event} (hrun : (worker x settings).Reaches events w) {t u : Nat}
    (hne : u ≠ t) {later between older : List Entry} {snapshot : TrafficSnapshot} (hstart : snapshot.startMs = t)
    (hlog : w.log = later ++ .selected t :: (between ++ .stored snapshot :: .selected t :: older))
    (hfirst : Offered u older) (hcalls : ∀ call, .scheduled call ∈ between → u ∈ call.candidates) :
    .selected u ∈ between := by
  have hfair : Fair w.log := (worker_invariant (fairInv_empty settings) (fun _ _ => fairInv_move) hrun).fair
  rw [hlog] at hfair
  by_contra hnone
  have hoffered : Offered u (.stored snapshot :: .selected t :: older) := hfirst
  have hwaits : Waits t u (.stored snapshot :: .selected t :: older) := (if_pos hstart).mpr hfirst
  exact hfair.suffix.1 u hne (waits_append hwaits hoffered hcalls hnone)

end

/-- The calls of the small run: all of the window, from the cursor on. -/
def sampleCall (cursor : Option Nat) : Call := ⟨0, 7200000, cursor, [0, 3600000], [0, 3600000]⟩

/-- What the small run logs between the two selections of its first hour. -/
def sampleBetween : List Entry :=
  [.saved, .scheduled (sampleCall (some 3600000)), .saved, .saved, .acknowledged 3600000 false, .saved,
    .stored (blankSnapshot 3600000), .selected 3600000, .saved, .acknowledged 0 false, .saved]

theorem sampleBetween_offers (call : Call) (h : .scheduled call ∈ sampleBetween) : 3600000 ∈ call.candidates := by
  have hcall : call = sampleCall (some 3600000) := by simpa [sampleBetween] using h
  rw [hcall]
  decide

theorem selection_is_fair_sample : Entry.selected 3600000 ∈ sampleBetween := by
  have hlog : ((worker sampleCrates sampleSettings).runFrom (.empty sampleSettings)
      (firstSelection ++ blankPublication ++ [.request] ++ blankPublication ++ [.request] ++ nextCycle)).map World.log =
        some ([] ++ .selected 0 :: (sampleBetween ++ .stored (blankSnapshot 0) :: .selected 0 ::
            [.saved, .scheduled (sampleCall none), .saved, .restarted])) := by
    decide +kernel
  obtain ⟨w, hrun, hlog⟩ := Option.map_eq_some_iff.1 hlog
  have hoffered : Offered 3600000 [.saved, .scheduled (sampleCall none), .saved, .restarted] :=
    ⟨sampleCall none, rfl, by decide⟩
  have hstart : (blankSnapshot 0).startMs = 0 := rfl
  exact selection_is_fair hrun (by decide) hstart hlog hoffered sampleBetween_offers

/-- **A selection that is cut off is repeated.** The read of the first hour times out; the next cycle starts
with it again, though the other hour was offered both times. -/
theorem selection_repeats : ∃ (w : World) (between older : List Entry),
    (worker sampleCrates sampleSettings).Reaches (firstSelection ++ [.timeout] ++ nextCycle) w ∧
      w.log = .selected 0 :: (between ++ .selected 0 :: older) ∧ Offered 3600000 older ∧
      (∀ call, .scheduled call ∈ between → 3600000 ∈ call.candidates) ∧ .selected 3600000 ∉ between := by
  have hlog : ((worker sampleCrates sampleSettings).runFrom (.empty sampleSettings)
      (firstSelection ++ [.timeout] ++ nextCycle)).map World.log =
        some (.selected 0 :: ([.saved, .scheduled (sampleCall none), .saved] ++ .selected 0 ::
          [.saved, .scheduled (sampleCall none), .saved, .restarted])) := by
    decide +kernel
  obtain ⟨w, hrun, hlog⟩ := Option.map_eq_some_iff.1 hlog
  refine ⟨w, [.saved, .scheduled (sampleCall none), .saved], _, hrun, hlog, ⟨sampleCall none, rfl, by decide⟩,
    fun call hc => ?_, by decide⟩
  have hcall : call = sampleCall none := by simpa using hc
  rw [hcall]
  decide

end UnifiMcp.Collector
