import UnifiMcp.Server.Hours
/-! # The expired gaps (unifi-server/src/collector.rs)

A status goes back to some calls of `schedule`: those that it was in memory for, or that were in the file it was
read from. A call that a crash cut off from the file is none of them.

* `tallied_schedule` — a call adds the hours that its window leaves behind.
* `tally_move` — every move keeps the count.
* `expired_gaps_counts` — **the count is that of the hours without a complete publication**, between the first
  window that the status goes back to and the latest one. -/
namespace UnifiMcp.Collector
open Text

/-! ## Whole hours -/

theorem mem_hours_iff {start end_ time : Nat} (hstart : start % HOUR = 0) :
    time ∈ hours start end_ ↔ time % HOUR = 0 ∧ start ≤ time ∧ time < end_ := by
  refine ⟨fun h => ⟨hours_aligned hstart h, mem_hours h⟩, fun ⟨haligned, hle, hlt⟩ => ?_⟩
  refine List.mem_map.2 ⟨(time - start) / HOUR, List.mem_range.2 ?_, ?_⟩
  · unfold HOUR at *
    omega
  · unfold HOUR at *
    omega

theorem hours_sorted (start end_ : Nat) : (hours start end_).Pairwise (· < ·) := by
  refine List.pairwise_map.2 (List.pairwise_lt_range.imp fun {a b} hlt => ?_)
  unfold HOUR
  omega

theorem hours_append {lo mid hi : Nat} (hlo : lo % HOUR = 0) (hmid : mid % HOUR = 0) (hle : lo ≤ mid) (hle' : mid ≤ hi) :
    hours lo hi = hours lo mid ++ hours mid hi := by
  refine SortedMap.eq_of_sorted (hours_sorted lo hi) (List.pairwise_append.2 ⟨hours_sorted lo mid, hours_sorted mid hi, ?_⟩) ?_
  · intro a ha b hb
    exact Nat.lt_of_lt_of_le (mem_hours ha).2 (mem_hours hb).1
  · intro time
    rw [List.mem_append, mem_hours_iff hlo, mem_hours_iff hlo, mem_hours_iff hmid]
    omega

theorem length_hours {start end_ : Nat} (hstart : start % HOUR = 0) (hend : end_ % HOUR = 0) :
    (hours start end_).length = (end_ - start) / HOUR := by
  rw [hours, List.length_map, List.length_range]
  unfold HOUR at *
  omega

theorem hours_self (time : Nat) : hours time time = [] :=
  List.eq_nil_iff_forall_not_mem.2 fun _ h => absurd (mem_hours h) fun ⟨hle, hlt⟩ => absurd hlt (Nat.not_lt.2 hle)

/-! ## What a log says -/

/-- Whether the last acknowledged publication of the hour was fully collected. -/
def lastAck (hour : Nat) : List Entry → Option Bool
  | [] => none
  | .acknowledged start complete :: log => if start = hour then some complete else lastAck hour log
  | _ :: log => lastAck hour log

/-- The calls of `schedule` that the status in memory goes back to, and those of the one in the file, latest first. -/
def knownCalls : List Entry → List Call × List Call
  | [] => ([], [])
  | .scheduled call :: log => (call :: (knownCalls log).1, (knownCalls log).2)
  | .saved :: log => ((knownCalls log).1, (knownCalls log).1)
  | .restarted :: log => ((knownCalls log).2, (knownCalls log).2)
  | _ :: log => knownCalls log

/-- From the start of a first window to the latest window. -/
structure Span where
  first : Nat
  start : Nat
  end_ : Nat
deriving DecidableEq

/-- The first window is the first one that has an hour. -/
def spanOf : List Call → Option Span
  | [] => none
  | call :: calls =>
    match spanOf calls with
    | some span => some ⟨span.first, call.start, call.end_⟩
    | none => if call.start < call.end_ then some ⟨call.start, call.start, call.end_⟩ else none

/-- The whole hours from one window start to the other whose last acknowledged publication was not fully
collected, or that have none. -/
def missedHours (log : List Entry) (first start : Nat) : List Nat :=
  (hours first start).filter fun hour => lastAck hour log ≠ some true

/-- The hours that calls left behind without a complete publication. -/
def missedBehind (log : List Entry) (calls : List Call) : Nat :=
  match spanOf calls with
  | none => 0
  | some span => (missedHours log span.first span.start).length

/-! ## A status and its span -/

/-- The latest window is one of `windowStart`, not after the clock. -/
structure Span.Proper (settings : CollectionSettings) (clock : Nat) (span : Span) : Prop where
  aligned : span.first % HOUR = 0
  before : span.first ≤ span.start
  hour : span.start < span.end_
  window : ∃ now ≤ clock, span.start = windowStart settings now ∧ span.end_ = windowEnd settings now

/-- A map and a count of gaps say what the log says; of one hour the map may say something else. -/
def Tallied (settings : CollectionSettings) (clock : Nat) (log : List Entry) (unsure : Option Nat)
    (intervals : SortedMap Nat Bool) (gaps : Nat) : Option Span → Prop
  | none => intervals.keys = [] ∧ gaps = 0
  | some span => span.Proper settings clock ∧ intervals.keys = hours span.start span.end_ ∧
      (∀ hour ∈ hours span.start span.end_, unsure ≠ some hour →
        (intervals.find? hour = some true ↔ lastAck hour log = some true)) ∧
      gaps = (missedHours log span.first span.start).length

section
variable {settings : CollectionSettings} {clock now : Nat} {log log' : List Entry} {unsure : Option Nat}
  {intervals : SortedMap Nat Bool} {gaps : Nat} {span : Span} {found : Option Span}

theorem windowEnd_mono {later : Nat} (h : now ≤ later) : windowEnd settings now ≤ windowEnd settings later :=
  Nat.mul_le_mul_right _ (Nat.div_le_div_right (Nat.sub_le_sub_right h _))

theorem windowStart_mono {later : Nat} (h : now ≤ later) : windowStart settings now ≤ windowStart settings later :=
  Nat.sub_le_sub_right (windowEnd_mono h) _

theorem windowStart_le (now : Nat) : windowStart settings now ≤ windowEnd settings now := Nat.sub_le _ _

theorem Span.Proper.start_aligned (h : span.Proper settings clock) : span.start % HOUR = 0 := by
  obtain ⟨now, -, hstart, -⟩ := h.window
  rw [hstart]
  exact windowStart_aligned settings now

theorem Span.Proper.end_aligned (h : span.Proper settings clock) : span.end_ % HOUR = 0 := by
  obtain ⟨now, -, -, hend⟩ := h.window
  rw [hend]
  exact windowEnd_aligned settings now

/-- A later window starts and ends later. -/
theorem Span.Proper.le_window (h : span.Proper settings clock) (hnow : clock ≤ now) :
    span.start ≤ windowStart settings now ∧ span.end_ ≤ windowEnd settings now := by
  obtain ⟨before, hbefore, hstart, hend⟩ := h.window
  rw [hstart, hend]
  exact ⟨windowStart_mono (Nat.le_trans hbefore hnow), windowEnd_mono (Nat.le_trans hbefore hnow)⟩

theorem Tallied.clock_mono (h : Tallied settings clock log unsure intervals gaps found) (hle : clock ≤ now) :
    Tallied settings now log unsure intervals gaps found := by
  cases found with
  | none => exact h
  | some span =>
    obtain ⟨hproper, hrest⟩ := h
    obtain ⟨before, hbefore, hwindow⟩ := hproper.window
    exact ⟨{ hproper with window := ⟨before, Nat.le_trans hbefore hle, hwindow⟩ }, hrest⟩

theorem Tallied.weaken (h : Tallied settings clock log none intervals gaps found) (unsure : Option Nat) :
    Tallied settings clock log unsure intervals gaps found := by
  cases found with
  | none => exact h
  | some span =>
    obtain ⟨hproper, hkeys, hvalues, hgaps⟩ := h
    exact ⟨hproper, hkeys, fun hour hmem _ => hvalues hour hmem nofun, hgaps⟩

theorem Tallied.log_congr (h : Tallied settings clock log unsure intervals gaps found)
    (hlog : ∀ hour, lastAck hour log' = lastAck hour log) : Tallied settings clock log' unsure intervals gaps found := by
  cases found with
  | none => exact h
  | some span =>
    obtain ⟨hproper, hkeys, hvalues, hgaps⟩ := h
    refine ⟨hproper, hkeys, fun hour hmem hne => ?_, ?_⟩
    · rw [hlog]
      exact hvalues hour hmem hne
    · rw [hgaps]
      unfold missedHours
      simp only [hlog]

/-! ## An acknowledgement -/

theorem missedHours_acknowledged {hour first start : Nat} (hle : start ≤ hour) (complete : Bool) :
    missedHours (.acknowledged hour complete :: log) first start = missedHours log first start := by
  refine List.filter_congr fun time hmem => ?_
  have hne : hour ≠ time := Nat.ne_of_gt (Nat.lt_of_lt_of_le (mem_hours hmem).2 hle)
  rw [lastAck, if_neg hne]

/-- The acknowledged hour is known for sure again. -/
theorem tallied_acknowledged {hour : Nat} (h : Tallied settings clock log unsure intervals gaps found)
    (hunsure : ∀ time, unsure = some time → time = hour) (hmem : hour ∈ intervals.keys) (complete : Bool) :
    Tallied settings clock (.acknowledged hour complete :: log) none (intervals.insert hour complete) gaps found := by
  cases found with
  | none =>
    rw [h.1] at hmem
    cases hmem
  | some span =>
    obtain ⟨hproper, hkeys, hvalues, hgaps⟩ := h
    refine ⟨hproper, by rw [SortedMap.keys_insert_of_mem hmem, hkeys], fun time htime _ => ?_, ?_⟩
    · rw [SortedMap.find?_insert, lastAck]
      by_cases heq : time = hour
      · rw [if_pos heq, if_pos heq.symm]
      · rw [if_neg heq, if_neg (Ne.symm heq)]
        exact hvalues time htime fun hu => heq (hunsure time hu)
    · rw [hkeys] at hmem
      rw [hgaps, missedHours_acknowledged (mem_hours hmem).1]

/-- The file does not know of it yet. -/
theorem Tallied.acknowledged_unsaved {hour : Nat} (h : Tallied settings clock log (some hour) intervals gaps found)
    (hmem : hour ∈ intervals.keys) (complete : Bool) :
    Tallied settings clock (.acknowledged hour complete :: log) (some hour) intervals gaps found := by
  cases found with
  | none => exact h
  | some span =>
    obtain ⟨hproper, hkeys, hvalues, hgaps⟩ := h
    rw [hkeys] at hmem
    refine ⟨hproper, hkeys, fun time htime hne => ?_, ?_⟩
    · have hne' : hour ≠ time := fun heq => hne (congrArg some heq)
      rw [lastAck, if_neg hne']
      exact hvalues time htime hne
    · rw [hgaps, missedHours_acknowledged (mem_hours hmem).1]

/-! ## A call of `schedule` -/

/-- The hours that leave the map incomplete are those that the log misses. -/
theorem expiringGaps_eq {start end_ bound : Nat} (hkeys : intervals.keys = hours start end_)
    (hvalues : ∀ hour ∈ hours start end_, intervals.find? hour = some true ↔ lastAck hour log = some true) :
    expiringGaps intervals bound =
      ((hours start end_).filter fun hour => hour < bound ∧ lastAck hour log ≠ some true).length := by
  rw [← hkeys, SortedMap.keys, List.filter_map, List.length_map, expiringGaps]
  refine congrArg List.length (List.filter_congr fun entry hentry => ?_)
  obtain ⟨time, complete⟩ := entry
  have hfind : intervals.find? time = some complete := SortedMap.find?_eq_some.2 hentry
  have hmem : time ∈ hours start end_ := hkeys ▸ List.mem_map_of_mem hentry
  have hvalue := hvalues time hmem
  rw [hfind, Option.some.injEq] at hvalue
  cases complete <;> simp_all

theorem skippedGaps_eq {start end_ bound : Nat} (hstart : start % HOUR = 0) (hend : end_ % HOUR = 0) (hlt : start < end_)
    (hkeys : intervals.keys = hours start end_) : skippedGaps intervals bound = (bound - end_) / HOUR := by
  have hmem (time : Nat) : time ∈ hours start end_ ↔ intervals.find? time ≠ none := by rw [← hkeys, SortedMap.mem_keys]
  -- the last hour of the window
  have hend' : end_ - HOUR ∈ hours start end_ := by
    refine (mem_hours_iff hstart).2 ⟨?_, ?_, ?_⟩ <;> unfold HOUR at * <;> omega
  obtain ⟨v, hv⟩ := Option.ne_none_iff_exists'.1 ((hmem _).1 hend')
  unfold skippedGaps
  split
  · rename_i hlast
    have hnone := SortedMap.find?_eq_some.1 hv
    rw [SortedMap.lastKey_eq_none.1 hlast] at hnone
    cases hnone
  · rename_i last hlast
    obtain ⟨⟨u, hu⟩, hgreatest⟩ := SortedMap.lastKey_eq_some hlast
    have hle := hgreatest _ v hv
    obtain ⟨haligned, -, hbefore⟩ := (mem_hours_iff hstart).1 ((hmem last).2 (by rw [hu]; exact Option.some_ne_none u))
    have hsame : last + HOUR = end_ := by
      unfold HOUR at *
      omega
    rw [hsame]

/-- **What a call counts is what the log misses** between two window starts. -/
theorem gaps_eq {start end_ bound : Nat} (hstart : start % HOUR = 0) (hend : end_ % HOUR = 0) (hbound : bound % HOUR = 0)
    (hlt : start < end_) (hle : start ≤ bound) (hkeys : intervals.keys = hours start end_)
    (hvalues : ∀ hour ∈ hours start end_, intervals.find? hour = some true ↔ lastAck hour log = some true)
    (hacks : ∀ hour, lastAck hour log ≠ none → hour < end_) :
    skippedGaps intervals bound + expiringGaps intervals bound = (missedHours log start bound).length := by
  have hmidMod : (min end_ bound) % HOUR = 0 := by
    rcases Nat.le_total end_ bound with h | h
    · rwa [Nat.min_eq_left h]
    · rwa [Nat.min_eq_right h]
  have hmid : start ≤ min end_ bound := Nat.le_min.2 ⟨Nat.le_of_lt hlt, hle⟩
  have hexpiring : (hours start end_).filter (fun hour => hour < bound ∧ lastAck hour log ≠ some true) =
      missedHours log start (min end_ bound) := by
    rw [hours_append hstart hmidMod hmid (Nat.min_le_left _ _), List.filter_append, missedHours]
    have hleft : (hours (min end_ bound) end_).filter (fun hour => hour < bound ∧ lastAck hour log ≠ some true) = [] := by
      refine List.filter_eq_nil_iff.2 fun hour hmem => ?_
      have hin := mem_hours hmem
      have hlate : ¬hour < bound := by omega
      simp [hlate]
    rw [hleft, List.append_nil]
    refine List.filter_congr fun hour hmem => ?_
    have hearly : hour < bound := Nat.lt_of_lt_of_le (mem_hours hmem).2 (Nat.min_le_right _ _)
    simp [hearly]
  have hskipped : missedHours log (min end_ bound) bound = hours (min end_ bound) bound := by
    refine List.filter_eq_self.2 fun hour hmem => ?_
    have hin := mem_hours hmem
    have hnone : lastAck hour log = none := by
      by_contra hack
      have := hacks hour hack
      omega
    simp [hnone]
  have hlength : (hours (min end_ bound) bound).length = (bound - end_) / HOUR := by
    rw [length_hours hmidMod hbound]
    congr 1
    omega
  have hsplit : missedHours log start bound = missedHours log start (min end_ bound) ++ missedHours log (min end_ bound) bound := by
    unfold missedHours
    rw [hours_append hstart hmidMod hmid (Nat.min_le_right _ _), List.filter_append]
  rw [skippedGaps_eq hstart hend hlt hkeys, expiringGaps_eq hkeys hvalues, hexpiring, hsplit, List.length_append, hskipped, hlength,
    Nat.add_comm]

theorem find?_refill {start end_ hour : Nat} (hmem : hour ∈ hours start end_) :
    (refill intervals start end_).find? hour = some ((intervals.find? hour).getD false) := by
  have hin := mem_hours hmem
  rw [refill, SortedMap.find?_foldl_orInsert, if_pos hmem, SortedMap.find?_retain]
  simp [hin.1, hin.2]

theorem keys_refill {start end_ : Nat} (hstart : start % HOUR = 0)
    (hkeys : ∀ time ∈ intervals.keys, time % HOUR = 0) : (refill intervals start end_).keys = hours start end_ := by
  refine SortedMap.eq_of_sorted (SortedMap.keys_sorted _) (hours_sorted start end_) fun time => ?_
  show time ∈ (refill intervals start end_).keys ↔ _
  rw [mem_keys_refill]
  refine ⟨fun h => h.elim id fun ⟨hmem, hle, hlt⟩ => ?_, Or.inl⟩
  exact (mem_hours_iff hstart).2 ⟨hkeys time hmem, hle, hlt⟩

/-- No more gaps than whole hours. -/
theorem length_missedHours_le {first start : Nat} (hfirst : first % HOUR = 0) (hstart : start % HOUR = 0) :
    (missedHours log first start).length ≤ start := by
  have hlength := List.length_filter_le (fun hour => decide (lastAck hour log ≠ some true)) (hours first start)
  rw [length_hours hfirst hstart] at hlength
  have hdiv := Nat.div_le_self (start - first) HOUR
  unfold missedHours
  omega

theorem missedHours_append {first mid start : Nat} (hfirst : first % HOUR = 0) (hmid : mid % HOUR = 0) (hle : first ≤ mid)
    (hle' : mid ≤ start) : missedHours log first start = missedHours log first mid ++ missedHours log mid start := by
  unfold missedHours
  rw [hours_append hfirst hmid hle hle', List.filter_append]

/-- The window of a call. -/
theorem schedule_call (settings : CollectionSettings) (status : Status) (now : Nat) :
    (schedule settings status now).2.start = windowStart settings now ∧
      (schedule settings status now).2.end_ = windowEnd settings now := ⟨rfl, rfl⟩

/-- **A call adds the hours that its window leaves behind.** -/
theorem tallied_schedule {status : Status} {calls : List Call}
    (h : Tallied settings clock log none status.intervals status.expiredGaps (spanOf calls)) (hclock : clock ≤ now)
    (hnow : now ≤ MAXIMUM_U64) (hacks : ∀ hour, lastAck hour log ≠ none → ∃ span, spanOf calls = some span ∧ hour < span.end_)
    {call : Call} (hcall : call.start = windowStart settings now ∧ call.end_ = windowEnd settings now) :
    Tallied settings now log none (refill status.intervals (windowStart settings now) (windowEnd settings now))
      (wrappingU64 (status.expiredGaps + skippedGaps status.intervals (windowStart settings now) +
        expiringGaps status.intervals (windowStart settings now))) (spanOf (call :: calls)) := by
  have hstart := windowStart_aligned settings now
  have hend := windowEnd_aligned settings now
  rw [spanOf, hcall.1, hcall.2]
  cases hspan : spanOf calls with
  | none =>
    rw [hspan] at h
    obtain ⟨hempty, hgaps⟩ := h
    have hentries : status.intervals.entries = [] := List.map_eq_nil_iff.1 hempty
    have hskipped : skippedGaps status.intervals (windowStart settings now) = 0 := by
      unfold skippedGaps
      rw [SortedMap.lastKey_eq_none.2 hentries]
    have hexpiring : expiringGaps status.intervals (windowStart settings now) = 0 := by
      unfold expiringGaps
      rw [hentries]
      rfl
    have hkeys := @keys_refill status.intervals _ (windowEnd settings now) hstart
      (fun time hmem => by rw [hempty] at hmem; cases hmem)
    have hzero : wrappingU64 (status.expiredGaps + skippedGaps status.intervals (windowStart settings now) +
        expiringGaps status.intervals (windowStart settings now)) = 0 := by
      rw [hgaps, hskipped, hexpiring]
      exact Nat.zero_mod _
    dsimp only
    split
    · rename_i hhour
      refine ⟨⟨hstart, Nat.le_refl _, hhour, now, Nat.le_refl now, rfl, rfl⟩, hkeys, fun hour hmem _ => ?_, ?_⟩
      · have hfind : status.intervals.find? hour = none := by
          by_contra hne
          have hmem' := SortedMap.mem_keys.2 hne
          rw [hempty] at hmem'
          cases hmem'
        have hack : lastAck hour log = none := by
          by_contra hne
          obtain ⟨span, hsome, -⟩ := hacks hour hne
          rw [hspan] at hsome
          cases hsome
        rw [find?_refill hmem, hfind, hack]
        simp
      · rw [hzero, missedHours, hours_self]
        rfl
    · rename_i hnone
      have hsame : windowStart settings now = windowEnd settings now := Nat.le_antisymm (windowStart_le now) (Nat.not_lt.1 hnone)
      rw [hsame, hours_self] at hkeys
      exact ⟨by rw [hsame]; exact hkeys, hzero⟩
  | some span =>
    rw [hspan] at h
    obtain ⟨hproper, hkeys, hvalues, hgaps⟩ := h
    obtain ⟨hle, hle'⟩ := hproper.le_window hclock
    have hacks' : ∀ hour, lastAck hour log ≠ none → hour < span.end_ := by
      intro hour hne
      obtain ⟨found, hfound, hlt⟩ := hacks hour hne
      rw [hspan] at hfound
      obtain rfl := Option.some.inj hfound
      exact hlt
    have hvalues' : ∀ hour ∈ hours span.start span.end_,
        status.intervals.find? hour = some true ↔ lastAck hour log = some true := fun hour hmem => hvalues hour hmem nofun
    have hadded := gaps_eq hproper.start_aligned hproper.end_aligned hstart hproper.hour hle hkeys hvalues' hacks'
    have htotal : status.expiredGaps + skippedGaps status.intervals (windowStart settings now) +
        expiringGaps status.intervals (windowStart settings now) =
          (missedHours log span.first (windowStart settings now)).length := by
      rw [missedHours_append hproper.aligned hproper.start_aligned hproper.before hle, List.length_append, ← hgaps, ← hadded,
        Nat.add_assoc]
    refine ⟨⟨hproper.aligned, Nat.le_trans hproper.before hle, ?_, now, Nat.le_refl now, rfl, rfl⟩, ?_, fun hour hmem _ => ?_, ?_⟩
    · show windowStart settings now < windowEnd settings now
      have hpositive := hproper.hour
      have hhistory := settings.history.1
      unfold windowStart HOUR
      omega
    · refine keys_refill hstart fun time hmem => ?_
      rw [hkeys] at hmem
      exact hours_aligned hproper.start_aligned hmem
    · rw [find?_refill hmem, Option.some.injEq]
      by_cases hin : hour ∈ hours span.start span.end_
      · rw [← hvalues' hour hin]
        cases status.intervals.find? hour <;> simp
      · have hfind : status.intervals.find? hour = none := by
          by_contra hne
          have hmem' := SortedMap.mem_keys.2 hne
          rw [hkeys] at hmem'
          exact hin hmem'
        have hack : lastAck hour log = none := by
          by_contra hne
          have hbounds := (mem_hours_iff hstart).1 hmem
          exact hin ((mem_hours_iff hproper.start_aligned).2 ⟨hbounds.1, Nat.le_trans hle hbounds.2.1, hacks' hour hne⟩)
        rw [hfind, hack]
        simp
    · have hsmall := @length_missedHours_le log span.first (windowStart settings now) hproper.aligned hstart
      have hbound : windowStart settings now ≤ MAXIMUM_U64 :=
        Nat.le_trans (windowStart_le now) (Nat.le_trans (windowEnd_le settings now) hnow)
      rw [htotal]
      exact Nat.mod_eq_of_lt (Nat.lt_succ_of_le (Nat.le_trans hsmall hbound))

end

/-! ## The count of a run -/

/-- The hour that is being published. -/
def World.pendingHour (w : World) : Option Nat := w.pending.map TrafficSnapshot.startMs

/-- Behind an acknowledgement the memory is sure of the hour. -/
def Phase.unsureMemory (hour : Option Nat) : Phase → Option Nat
  | .checkpoint _ | .clearing _ => none
  | _ => hour

/-- Behind the save the file is. -/
def Phase.unsureFile (hour : Option Nat) : Phase → Option Nat
  | .clearing _ => none
  | _ => hour

/-- No hour was just acknowledged. -/
def Phase.Open (phase : Phase) : Prop := ∀ hour, phase.unsureMemory hour = hour ∧ phase.unsureFile hour = hour

structure Tally (settings : CollectionSettings) (w : World) : Prop where
  memory : Tallied settings w.clock w.log (w.phase.unsureMemory w.pendingHour) w.status.intervals w.status.expiredGaps
    (spanOf (knownCalls w.log).1)
  file : ∀ status, w.saved = some status → Tallied settings w.clock w.log (w.phase.unsureFile w.pendingHour) status.intervals
    status.expiredGaps (spanOf (knownCalls w.log).2)
  fresh : w.saved = none → (knownCalls w.log).2 = []
  /-- An acknowledged hour is not behind the window of the file. -/
  acked : ∀ hour, lastAck hour w.log ≠ none → ∃ span, spanOf (knownCalls w.log).2 = some span ∧ hour < span.end_
  /-- The memory is not behind the file. -/
  later : ∀ span, spanOf (knownCalls w.log).2 = some span →
    ∃ found, spanOf (knownCalls w.log).1 = some found ∧ span.end_ ≤ found.end_

section
variable {x : Crates} {settings : CollectionSettings} {w w' : World}

theorem Tallied.open_ {clock : Nat} {log : List Entry} {unsure hour : Option Nat} {intervals : SortedMap Nat Bool} {gaps : Nat}
    {found : Option Span} (h : Tallied settings clock log unsure intervals gaps found) (hunsure : unsure = none ∨ unsure = hour) :
    Tallied settings clock log hour intervals gaps found := by
  rcases hunsure with rfl | rfl
  · exact h.weaken hour
  · exact h

theorem Phase.unsureMemory_cases (phase : Phase) (hour : Option Nat) :
    phase.unsureMemory hour = none ∨ phase.unsureMemory hour = hour := by
  cases phase <;> simp [Phase.unsureMemory]

theorem Phase.unsureFile_cases (phase : Phase) (hour : Option Nat) :
    phase.unsureFile hour = none ∨ phase.unsureFile hour = hour := by
  cases phase <;> simp [Phase.unsureFile]

theorem Tally.memory_open (h : Tally settings w) : Tallied settings w.clock w.log w.pendingHour w.status.intervals
    w.status.expiredGaps (spanOf (knownCalls w.log).1) :=
  h.memory.open_ (w.phase.unsureMemory_cases _)

theorem Tally.file_open (h : Tally settings w) {status : Status} (hsaved : w.saved = some status) :
    Tallied settings w.clock w.log w.pendingHour status.intervals status.expiredGaps (spanOf (knownCalls w.log).2) :=
  (h.file status hsaved).open_ (w.phase.unsureFile_cases _)

/-- Maps, counts and what the log says of them stay. -/
theorem Tally.carry (h : Tally settings w) (hclock : w.clock ≤ w'.clock)
    (hstatus : w'.status.intervals = w.status.intervals ∧ w'.status.expiredGaps = w.status.expiredGaps)
    (hsaved : w'.saved = w.saved) (hacks : ∀ hour, lastAck hour w'.log = lastAck hour w.log)
    (hcalls : knownCalls w'.log = knownCalls w.log) (hpending : w.pending = none ∨ w'.pending = w.pending)
    (hopen : w'.phase.Open) : Tally settings w' := by
  have hhour : w.pendingHour = none ∨ w.pendingHour = w'.pendingHour := by
    unfold World.pendingHour
    rcases hpending with hnone | hsame
    · rw [hnone]
      exact Or.inl rfl
    · rw [hsame]
      exact Or.inr rfl
  refine ⟨?_, fun status hstatus => ?_, ?_, ?_, ?_⟩
  · rw [(hopen _).1, hstatus.1, hstatus.2, hcalls]
    exact ((h.memory_open.open_ hhour).clock_mono hclock).log_congr hacks
  · rw [(hopen _).2, hcalls]
    exact (((h.file_open (hsaved ▸ hstatus)).open_ hhour).clock_mono hclock).log_congr hacks
  · rw [hsaved, hcalls]
    exact h.fresh
  · rw [hcalls]
    exact fun hour hne => h.acked hour (by rwa [hacks] at hne)
  · rw [hcalls]
    exact h.later

theorem Turn.open_ {before next : Phase} (h : Turn x settings w before next) : next.Open := by
  cases h with
  | crashed | ended | sends | collected | woken | begun => exact fun _ => ⟨rfl, rfl⟩
  | @nothing resume => cases resume <;> exact fun _ => ⟨rfl, rfl⟩

theorem Resume.open_ (resume : Resume) : resume.phase.Open := by cases resume <;> exact fun _ => ⟨rfl, rfl⟩

/-- What the memory was sure of, memory and file are sure of. -/
def Secures (before next : Phase) : Prop := ∀ hour, next.unsureMemory hour = next.unsureFile hour ∧
  (before.unsureMemory hour = none ∨ before.unsureMemory hour = next.unsureFile hour)

theorem Saves.secures {before next : Phase} (h : Saves before next) : Secures before next := by
  intro hour
  cases h with
  | opened | scheduled | collected => exact ⟨rfl, Or.inr rfl⟩
  | published => exact ⟨rfl, Or.inl rfl⟩
  | closed | ended => exact ⟨rfl, before.unsureMemory_cases _⟩

/-- The status in memory is in the file. -/
theorem tally_saves (h : Tally settings w) {next : Phase} (hsecures : Secures w.phase next) :
    Tally settings { w.save with phase := next } := by
  have hsure := hsecures w.pendingHour
  have hmemory : Tallied settings w.clock (.saved :: w.log) (next.unsureFile w.pendingHour) w.status.intervals
      w.status.expiredGaps (spanOf (knownCalls w.log).1) :=
    (h.memory.open_ hsure.2).log_congr fun _ => rfl
  refine ⟨?_, fun status hstatus => ?_, fun hnone => ?_, fun hour hne => ?_, fun span hspan => ⟨span, hspan, Nat.le_refl _⟩⟩
  · show Tallied settings w.clock (.saved :: w.log) (next.unsureMemory w.pendingHour) _ _ _
    rw [hsure.1]
    exact hmemory
  · cases hstatus
    exact hmemory
  · cases hnone
  · obtain ⟨span, hspan, hlt⟩ := h.acked hour hne
    obtain ⟨found, hfound, hle⟩ := h.later span hspan
    exact ⟨found, hfound, Nat.lt_of_lt_of_le hlt hle⟩

theorem tally_restarts (h : Tally settings w) {status : Status}
    (hsaved : w.saved = some status ∨ w.saved = none ∧ status = .fresh settings.binding) :
    Tally settings { w with phase := .opening, status, log := .restarted :: w.log } := by
  refine ⟨?_, fun file hfile => ?_, h.fresh, h.acked, fun span hspan => ⟨span, hspan, Nat.le_refl _⟩⟩
  · show Tallied settings w.clock (.restarted :: w.log) w.pendingHour status.intervals status.expiredGaps
      (spanOf (knownCalls w.log).2)
    rcases hsaved with hsaved | ⟨hsaved, rfl⟩
    · exact (h.file_open hsaved).log_congr fun _ => rfl
    · rw [h.fresh hsaved]
      exact ⟨rfl, rfl⟩
  · exact (h.file_open hfile).log_congr fun _ => rfl

theorem tally_schedules (ht : Timely settings w) (h : Tally settings w) {now : Nat} (hphase : w.phase = .scheduling)
    (hnow : now ≤ MAXIMUM_U64) (hclock : w.clock ≤ now) : Tally settings { w with
      phase := .savingSchedule (schedule settings w.status now).2.chosen
      status := (schedule settings w.status now).1
      clock := now
      log := .scheduled (schedule settings w.status now).2 :: w.log } := by
  have hpending := ht.orderly.pending
  rw [hphase] at hpending
  have hhour : w.pendingHour = none := by
    unfold World.pendingHour
    rw [show w.pending = none from hpending]
    rfl
  have hmemory := h.memory_open
  rw [hhour] at hmemory
  have hacks : ∀ hour, lastAck hour w.log ≠ none → ∃ span, spanOf (knownCalls w.log).1 = some span ∧ hour < span.end_ := by
    intro hour hne
    obtain ⟨span, hspan, hlt⟩ := h.acked hour hne
    obtain ⟨found, hfound, hle⟩ := h.later span hspan
    exact ⟨found, hfound, Nat.lt_of_lt_of_le hlt hle⟩
  have hnext := tallied_schedule hmemory hclock hnow hacks (schedule_call settings w.status now)
  have hcall := schedule_call settings w.status now
  have hstatus := schedule_status settings w.status now
  generalize (schedule settings w.status now).1 = status at hstatus
  generalize (schedule settings w.status now).2 = call at hcall hnext
  refine ⟨?_, fun file hfile => ?_, h.fresh, h.acked, fun span hspan => ?_⟩
  · show Tallied settings now (.scheduled call :: w.log) w.pendingHour status.intervals status.expiredGaps
      (spanOf (call :: (knownCalls w.log).1))
    rw [hhour, hstatus, Status.counted_intervals, Status.counted_expiredGaps]
    exact hnext.log_congr fun _ => rfl
  · exact ((h.file_open hfile).clock_mono hclock).log_congr fun _ => rfl
  · obtain ⟨found, hfound, hle⟩ := h.later span hspan
    rw [hfound] at hmemory
    refine ⟨⟨found.first, call.start, call.end_⟩, ?_, ?_⟩
    · show spanOf (call :: (knownCalls w.log).1) = _
      rw [spanOf, hfound]
    · rw [show (Span.mk found.first call.start call.end_).end_ = call.end_ from rfl, hcall.2]
      exact Nat.le_trans hle (hmemory.1.le_window hclock).2

/-- The file knows the hour that is acknowledged. -/
theorem Tally.span_of_covered (h : Tally settings w) {hour : Nat} (hcover : Covered w hour) :
    ∃ span, spanOf (knownCalls w.log).2 = some span ∧ hour < span.end_ := by
  obtain ⟨-, status, hsaved, hmem⟩ := hcover
  have hfile := h.file status hsaved
  cases hspan : spanOf (knownCalls w.log).2 with
  | none =>
    rw [hspan] at hfile
    rw [hfile.1] at hmem
    cases hmem
  | some span =>
    rw [hspan] at hfile
    rw [hfile.2.1] at hmem
    exact ⟨span, rfl, (mem_hours hmem).2⟩

theorem tally_acknowledges (ht : Timely settings w) (h : Tally settings w) {snapshot : TrafficSnapshot} {publication : Publication}
    {body : Text} {resume : Resume} (hphase : w.phase = .awaiting snapshot publication body [] resume) :
    Tally settings { w with
      phase := .checkpoint resume
      sink := LineProtocol.ingest w.sink (readLines body)
      status := acknowledge w.status snapshot publication.records
      log := .acknowledged snapshot.startMs snapshot.collected :: w.log } := by
  have hcover := ht.publishing hphase
  have hpending := ht.orderly.pending
  rw [hphase] at hpending
  have hhour : w.pendingHour = some snapshot.startMs := by
    unfold World.pendingHour
    rw [show w.pending = some snapshot from hpending]
    rfl
  obtain ⟨hintervals, hgaps⟩ := acknowledge_of_mem ht.memory hcover.1 publication.records
  refine ⟨?_, fun status hstatus => ?_, h.fresh, fun hour hne => ?_, h.later⟩
  · show Tallied settings w.clock (.acknowledged snapshot.startMs snapshot.collected :: w.log) none _ _ _
    rw [hintervals, hgaps]
    refine tallied_acknowledged h.memory_open (fun time htime => ?_) hcover.1 _
    rw [hhour] at htime
    exact (Option.some.inj htime).symm
  · show Tallied settings w.clock (.acknowledged snapshot.startMs snapshot.collected :: w.log) w.pendingHour _ _ _
    obtain ⟨-, file, hfile, hmem⟩ := hcover
    obtain rfl := Option.some.inj (hfile.symm.trans hstatus)
    have hbefore := h.file_open hfile
    rw [hhour] at hbefore ⊢
    exact hbefore.acknowledged_unsaved hmem _
  · have hne : lastAck hour (.acknowledged snapshot.startMs snapshot.collected :: w.log) ≠ none := hne
    rw [lastAck] at hne
    split at hne
    · rename_i heq
      rw [← heq]
      exact h.span_of_covered hcover
    · exact h.acked hour hne

/-- **Every move keeps the count.** -/
theorem tally_move (ht : Timely settings w) (h : Tally settings w) (hclock : w.clock ≤ w'.clock) (hm : Move x settings w w') :
    Tally settings w' := by
  cases hm with
  | restarts _ hsaved => exact tally_restarts h hsaved
  | turns hturn => exact h.carry (Nat.le_refl _) ⟨rfl, rfl⟩ rfl (fun _ => rfl) rfl (Or.inr rfl) hturn.open_
  | saves hsave => exact tally_saves h hsave.secures
  | posts | answered | rejected | selects =>
    exact h.carry (Nat.le_refl _) ⟨rfl, rfl⟩ rfl (fun _ => rfl) rfl (Or.inr rfl) fun _ => ⟨rfl, rfl⟩
  | acknowledges hphase => exact tally_acknowledges ht h hphase
  | arrives => exact ⟨h.memory, h.file, h.fresh, h.acked, h.later⟩
  | @clears resume next hphase hnext =>
    have hopen : next.Open := by
      rcases hnext with rfl | ⟨error, rfl⟩
      · exact resume.open_
      · exact fun _ => ⟨rfl, rfl⟩
    have hmemory := h.memory
    rw [hphase] at hmemory
    refine ⟨?_, fun status hstatus => ?_, h.fresh, h.acked, h.later⟩
    · rw [(hopen _).1]
      exact hmemory
    · have hfile := h.file status hstatus
      rw [hphase] at hfile
      rw [(hopen _).2]
      exact hfile
  | schedules hphase hnow => exact tally_schedules ht h hphase hnow hclock
  | @stores snapshot rest last next hphase hnext =>
    have hpending := ht.orderly.pending
    rw [hphase] at hpending
    refine h.carry (Nat.le_refl _) ⟨rfl, rfl⟩ rfl (fun _ => rfl) rfl (Or.inl hpending) ?_
    rcases hnext with rfl | ⟨error, rfl⟩ <;> exact fun _ => ⟨rfl, rfl⟩
  | @reports status saved log now hstatus hsaved =>
    rcases hsaved with ⟨rfl, rfl⟩ | ⟨rfl, rfl⟩
    · exact h.carry hclock ⟨hstatus.1, hstatus.2.1⟩ rfl (fun _ => rfl) rfl (Or.inr rfl) fun _ => ⟨rfl, rfl⟩
    · have hsame : Tally settings { w with status, clock := now, phase := .resting } :=
        h.carry hclock ⟨hstatus.1, hstatus.2.1⟩ rfl (fun _ => rfl) rfl (Or.inr rfl) fun _ => ⟨rfl, rfl⟩
      exact @tally_saves settings _ hsame .resting fun _ => ⟨rfl, Or.inr rfl⟩

theorem tally_empty (settings : CollectionSettings) : Tally settings (.empty settings) where
  memory := ⟨rfl, rfl⟩
  file := fun _ h => (by cases h)
  fresh := fun _ => rfl
  acked := fun _ h => absurd rfl h
  later := fun _ h => (by cases h)

theorem Tallied.gaps_eq {clock : Nat} {log : List Entry} {unsure : Option Nat} {intervals : SortedMap Nat Bool} {gaps : Nat}
    {calls : List Call} (h : Tallied settings clock log unsure intervals gaps (spanOf calls)) : gaps = missedBehind log calls := by
  unfold missedBehind
  cases hspan : spanOf calls with
  | none =>
    rw [hspan] at h
    exact h.2
  | some span =>
    rw [hspan] at h
    exact h.2.2.2

/-! ## The windows of the acknowledgements -/

/-- Every acknowledgement came while its hour was in the window of the status in memory. -/
def AckedInside : List Entry → Prop
  | [] => True
  | .acknowledged hour _ :: log =>
    (∃ span, spanOf (knownCalls log).1 = some span ∧ span.start ≤ hour ∧ hour < span.end_) ∧ AckedInside log
  | _ :: log => AckedInside log

/-- The window of the memory holds its hours. -/
theorem Tally.span_of_mem (h : Tally settings w) {hour : Nat} (hmem : hour ∈ w.status.intervals.keys) :
    ∃ span, spanOf (knownCalls w.log).1 = some span ∧ span.start ≤ hour ∧ hour < span.end_ := by
  have hmemory := h.memory
  cases hspan : spanOf (knownCalls w.log).1 with
  | none =>
    rw [hspan] at hmemory
    rw [hmemory.1] at hmem
    cases hmem
  | some span =>
    rw [hspan] at hmemory
    rw [hmemory.2.1] at hmem
    exact ⟨span, rfl, mem_hours hmem⟩

theorem inside_move (ht : Timely settings w) (h : Tally settings w) (hinside : AckedInside w.log) (hm : Move x settings w w') :
    AckedInside w'.log := by
  cases hm with
  | restarts | turns | saves | posts | answered | rejected | arrives | clears | schedules | selects | stores => exact hinside
  | acknowledges hphase => exact ⟨h.span_of_mem (ht.publishing hphase).1, hinside⟩
  | reports _ hsaved =>
    rcases hsaved with ⟨-, rfl⟩ | ⟨-, rfl⟩ <;> exact hinside

/-! ## The clock -/

/-- The time that an event reads. -/
def Event.time : Event → Option Nat
  | .schedule now | .report now _ => some now
  | _ => none

theorem collect_clock (start : Nat) (rest : List Nat) (reads : SourceReads) :
    (collect x settings w start rest reads).clock = w.clock := by
  unfold collect
  cases collectTraffic x.reports start (start + HOUR) reads with
  | error error => rfl
  | ok snapshot =>
    unfold tryBuild
    dsimp only
    split <;> rfl

/-- Only a reading moves the clock. -/
theorem step_clock {event : Event} (h : step x settings w event = some w') : w'.clock = event.time.getD w.clock := by
  have hsave (next : Phase) (outcome : Outcome) : (w.saveThen next outcome).clock = w.clock := by cases outcome <;> rfl
  cases event <;> simp only [step] at h
  case start =>
    split at h
    · unfold openWorker at h
      split at h
      · cases h
        rfl
      · split at h <;> cases h
        rfl
    · cases h
  case crash =>
    split at h <;> cases h
    rfl
  case read ok =>
    split at h <;> cases h
    cases ok
    · rfl
    · show (publishPending x settings w _).clock = _
      unfold publishPending
      split
      · rfl
      · split
        · rfl
        · split <;> rfl
  case post =>
    split at h <;> cases h
    rfl
  case answer ok =>
    split at h <;> cases h
    rename_i todo _ _
    cases ok
    · rfl
    · cases todo <;> rfl
  case arrive line =>
    split at h <;> cases h
    rfl
  case write outcome =>
    show w'.clock = w.clock
    unfold written at h
    split at h
    · cases outcome <;> cases h <;> rfl
    · cases h
      exact hsave _ outcome
    · cases outcome <;> cases h <;> rfl
    · cases h
      exact hsave _ outcome
    · cases outcome <;> cases h <;> rfl
    · cases h
      exact hsave _ outcome
    · cases h
  case schedule now =>
    split at h
    · split at h <;> cases h
      rfl
    · cases h
  case unclocked =>
    split at h <;> cases h
    rfl
  case request => split at h <;> cases h <;> rfl
  case collected reads =>
    split at h <;> cases h
    exact collect_clock _ _ reads
  case wake =>
    split at h <;> cases h
    rfl
  case timeout =>
    split at h <;> cases h
    rfl
  case report now outcome =>
    split at h
    · split at h <;> cases h
      cases outcome <;> rfl
    · cases h
  case begin_ =>
    split at h <;> cases h
    rfl

/-- The clock does not go back. -/
theorem along_steady : ∀ {events : List Event} {w : World}, (events.filterMap Event.time).Pairwise (· ≤ ·) →
    (∀ time ∈ events.filterMap Event.time, w.clock ≤ time) →
    (worker x settings).Along (fun w e => ∀ t, step x settings w e = some t → w.clock ≤ t.clock) w events
  | [], _, _, _ => trivial
  | e :: events, w, hsorted, hlater => by
    have hstep : ∀ t, step x settings w e = some t → w.clock ≤ t.clock ∧ ∀ time ∈ events.filterMap Event.time, t.clock ≤ time := by
      intro t ht
      rw [step_clock ht]
      rw [List.filterMap_cons] at hsorted hlater
      cases htime : e.time with
      | none =>
        rw [htime] at hlater
        exact ⟨Nat.le_refl _, hlater⟩
      | some now =>
        rw [htime] at hsorted hlater
        exact ⟨hlater now List.mem_cons_self, (List.pairwise_cons.1 hsorted).1⟩
    have hrest : (events.filterMap Event.time).Pairwise (· ≤ ·) := hsorted.sublist ((List.sublist_cons_self e events).filterMap _)
    exact ⟨fun t ht => (hstep t ht).1, fun t ht => along_steady hrest (hstep t ht).2⟩

/-! ## The count -/

/-- **The count of the gaps is that of the hours without a complete publication**, of those that the windows have
left behind from the first call that the status goes back to. So it is in memory, and in the file. No hour is
acknowledged behind its window, so its last acknowledgement is the last before it left. -/
theorem expired_gaps_counts {events : List Event} (hclock : (events.filterMap Event.time).Pairwise (· ≤ ·))
    (hrun : (worker x settings).Reaches events w) :
    w.status.expiredGaps = missedBehind w.log (knownCalls w.log).1 ∧
      (∀ status, w.saved = some status → status.expiredGaps = missedBehind w.log (knownCalls w.log).2) ∧ AckedInside w.log := by
  have hall : Timely settings w ∧ Tally settings w ∧ AckedInside w.log := by
    refine (worker x settings).run_invariant_along (C := fun w e => ∀ t, step x settings w e = some t → w.clock ≤ t.clock)
      (I := fun w => Timely settings w ∧ Tally settings w ∧ AckedInside w.log)
      ⟨timely_empty settings, tally_empty settings, trivial⟩ ?_ (along_steady hclock fun _ _ => Nat.zero_le _) hrun
    rintro s e t ⟨ht, h, hinside⟩ hsteady hstep
    have hmove := step_move hstep
    exact ⟨timely_move ht hmove, tally_move ht h (hsteady t hstep) hmove, inside_move ht h hinside hmove⟩
  exact ⟨hall.2.1.memory.gaps_eq, fun status hstatus => (hall.2.1.file status hstatus).gaps_eq, hall.2.2⟩

end

/-! ## Two outages -/

/-- The window of the small run four hours later. -/
def outageCall : Call := ⟨14400000, 21600000, none, [14400000, 18000000], [14400000, 18000000]⟩

/-- The crash behind the save of the first call. -/
def outage : List Event :=
  [.start, .write .done, .read true, .schedule 7200000, .write .done, .crash, .start, .write .done, .read true,
    .schedule 21600000]

theorem expired_gaps_counts_outage : ∃ w, (worker sampleCrates sampleSettings).Reaches outage w ∧ w.status.expiredGaps = 4 := by
  have hlog : ((worker sampleCrates sampleSettings).runFrom (.empty sampleSettings) outage).map World.log =
      some [.scheduled outageCall, .saved, .restarted, .saved, .scheduled (sampleCall none), .saved, .restarted] := by
    decide +kernel
  obtain ⟨w, hrun, hlog⟩ := Option.map_eq_some_iff.1 hlog
  refine ⟨w, hrun, ?_⟩
  rw [(expired_gaps_counts (by decide) hrun).1, hlog]
  decide +kernel

/-- All calls of a run, latest first. -/
def allCalls : List Entry → List Call
  | [] => []
  | .scheduled call :: log => call :: allCalls log
  | _ :: log => allCalls log

/-- **A call that is cut off from the file is forgotten.** The crash comes before the first save: the hours from the
first call of the run to the latest one are not counted. -/
theorem expired_gaps_cut_off : ∃ (events : List Event) (w : World), (events.filterMap Event.time).Pairwise (· ≤ ·) ∧
    (worker sampleCrates sampleSettings).Reaches events w ∧ allCalls w.log = [outageCall, sampleCall none] ∧
      w.status.expiredGaps ≠ (missedHours w.log (sampleCall none).start outageCall.start).length := by
  have hworld : ((worker sampleCrates sampleSettings).runFrom (.empty sampleSettings)
      [.start, .write .done, .read true, .schedule 7200000, .crash, .start, .write .done, .read true,
        .schedule 21600000]).map (fun w => (w.log, w.status.expiredGaps)) =
      some ([.scheduled outageCall, .saved, .restarted, .scheduled (sampleCall none), .saved, .restarted], 0) := by
    decide +kernel
  obtain ⟨w, hrun, hworld⟩ := Option.map_eq_some_iff.1 hworld
  obtain ⟨hlog, hgaps⟩ := Prod.mk.inj hworld
  refine ⟨_, w, by decide, hrun, ?_, ?_⟩
  · rw [hlog]
    rfl
  · rw [hgaps, hlog]
    decide +kernel

end UnifiMcp.Collector
