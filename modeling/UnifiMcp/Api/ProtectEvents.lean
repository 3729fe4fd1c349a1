import UnifiMcp.Api.Error
import UnifiMcp.Lib.NewestFirst
/-! # Historical Protect events: one page and the walk over all pages (unifi-api/src/legacy.rs)

`finishProtectEventPage` turns one controller answer into a page and the time key of the next
request; `protectEvents` checks its arguments and asks for one row more than the page holds,
the lookahead that tells whether the page end splits a group of simultaneous events.

* `finish_spec` — one page: exactly the events newer than the next key, or an equal-timestamp
  group larger than the page.
* `follow_complete` — following the continuations terminates with every event of the window,
  once each and newest first, or with the equal-timestamp-group error. -/
namespace UnifiMcp
open Text NewestFirst

def MAXIMUM_RECORD_LIMIT : Nat := 1000
def MAXIMUM_PROTECT_EVENT_PAGE_LIMIT : Nat := MAXIMUM_RECORD_LIMIT - 1
def MAXIMUM_EVENT_IDENTIFIER_BYTES : Nat := 256

/-- `ProtectEvent` (protect.rs:498); `stop` is the source's `end`. -/
structure ProtectEvent where
  id : Text
  kind : Text
  start : Nat
  stop : Option Nat
  score : Option Nat
  camera : Option Text
  smartDetectTypes : List Text
deriving DecidableEq

/-- `ProtectEventContinuation` (protect.rs:547). -/
structure ProtectEventContinuation where
  nextEnd : Nat
deriving DecidableEq

/-- `ProtectEventPage` (protect.rs:556). -/
structure ProtectEventPage where
  events : List ProtectEvent
  scannedRows : Nat
  next : Option ProtectEventContinuation
deriving DecidableEq

/-! ## One page -/

/-- The error of a page whose rows all share one start time. -/
def boundaryError : ApiError :=
  .decode "Protect event page boundary exceeds the requested limit; retry with a higher limit".toList

/-- The checks `finish_protect_event_page` makes on the rows (legacy.rs:1927-1955), in order. -/
def pageError (stop limit : Nat) (events : List ProtectEvent) : Option ApiError :=
  if events.any fun event => event.id.isEmpty || MAXIMUM_EVENT_IDENTIFIER_BYTES < byteLen event.id then
    some (.decode "Protect event response contains an invalid event id".toList)
  else if events.any fun event => stop < event.start then
    some (.decode "Protect event response exceeded its requested end".toList)
  else if (events.zip events.tail).any fun pair => pair.1.start < pair.2.start then
    some (.decode "Protect event response was not ordered newest first".toList)
  else if limit + 1 < events.length then
    some (.decode "Protect event response exceeded its requested limit".toList)
  else none

/-- The part of `finish_protect_event_page` after a full page without a row older than the
window, whose lookahead row starts at `lookaheadStart` (legacy.rs:1978-2011). -/
def cutAtBoundary (scannedRows lookaheadStart : Nat) (events : List ProtectEvent) :
    Except ApiError ProtectEventPage :=
  match events.getLast? with
  | none => .error (.decode "Protect event page could not establish a continuation".toList)
  | some last =>
    if last.start = lookaheadStart then
      -- the lookahead belongs to the last group: leave the whole group to the next page
      let kept := events.rdropWhile fun event => event.start = last.start
      if kept.isEmpty then .error boundaryError else .ok ⟨kept, scannedRows, some ⟨last.start⟩⟩
    else if last.start = 0 then .ok ⟨events, scannedRows, none⟩
    else .ok ⟨events, scannedRows, some ⟨last.start - 1⟩⟩

/-- `finish_protect_event_page` (legacy.rs:1921). -/
def finishProtectEventPage (start stop limit : Nat) (events : List ProtectEvent) :
    Except ApiError ProtectEventPage :=
  match pageError stop limit events with
  | some error => .error error
  | none =>
    let lookahead := if limit < events.length then events.getLast? else none
    let rows := if limit < events.length then events.dropLast else events
    match rows.findIdx? (fun event => event.start < start) with
    | some firstOlder => .ok ⟨rows.take firstOlder, rows.length, none⟩
    | none =>
      match lookahead with
      | none => .ok ⟨rows, rows.length, none⟩
      | some row =>
        if row.start < start then .ok ⟨rows, rows.length, none⟩
        else cutAtBoundary rows.length row.start rows

/-- What one page read owes its caller, when the source holds `all` and the page end is `stop`. -/
def PageSpec (all : List ProtectEvent) (start stop limit : Nat) : Except ApiError ProtectEventPage → Prop
  | .error error => error = boundaryError ∧
      ∃ t, start ≤ t ∧ t ≤ stop ∧ limit < (all.filter fun event => event.start = t).length
  | .ok page => Sorted ProtectEvent.start page.events ∧
      match page.next with
      | none => page.events.Perm (all.filter fun event => start ≤ event.start ∧ event.start ≤ stop)
      | some next => start ≤ next.nextEnd ∧ next.nextEnd < stop ∧
          page.events.Perm (all.filter fun event => next.nextEnd < event.start ∧ event.start ≤ stop)

section page
variable {all events : List ProtectEvent} {start stop limit : Nat}

/-- The ids the client accepts. -/
def ValidId (event : ProtectEvent) : Prop :=
  event.id ≠ [] ∧ byteLen event.id ≤ MAXIMUM_EVENT_IDENTIFIER_BYTES

/-- An answer to `(start, stop, limit + 1)`: the newest `limit + 1` events not after `stop`. -/
abbrev Answers (all : List ProtectEvent) (stop limit : Nat) (events : List ProtectEvent) : Prop :=
  Newest ProtectEvent.start (limit + 1) (all.filter fun event => event.start ≤ stop) events

theorem Answers.le_stop (h : Answers all stop limit events) {event : ProtectEvent} (he : event ∈ events) :
    event.start ≤ stop := by
  have := h.mem he
  simpa using (List.mem_filter.1 this).2

theorem zip_tail_sorted (h : Sorted ProtectEvent.start events) :
    (events.zip events.tail).any (fun pair => pair.1.start < pair.2.start) = false := by
  induction events with
  | nil => rfl
  | cons a l ih =>
    cases l with
    | nil => rfl
    | cons b l =>
      rw [Sorted, List.pairwise_cons] at h
      have hab := h.1 b (by simp)
      rw [List.tail_cons, List.zip_cons_cons, List.any_cons]
      have := ih h.2
      rw [List.tail_cons] at this
      rw [this, Bool.or_false]
      simpa using hab

/-- An honest answer passes every check. -/
theorem pageError_none (hv : ∀ event ∈ all, ValidId event) (h : Answers all stop limit events) :
    pageError stop limit events = none := by
  have hid : events.any (fun event =>
      event.id.isEmpty || MAXIMUM_EVENT_IDENTIFIER_BYTES < byteLen event.id) = false := by
    rw [List.any_eq_false]
    intro event he
    obtain ⟨h1, h2⟩ := hv event (List.mem_filter.1 (h.mem he)).1
    simp [h1]; omega
  have hstop : events.any (fun event => stop < event.start) = false := by
    rw [List.any_eq_false]
    intro event he
    have := h.le_stop he
    simp; omega
  have hlen : ¬ limit + 1 < events.length := by
    have := h.length
    omega
  unfold pageError
  rw [hid, hstop, zip_tail_sorted h.sorted]
  simp [hlen]

/-- A filter by time on the page rows against the same filter on the whole source. -/
theorem filter_window_perm (h : Answers all stop limit events) (b : Nat)
    (hb : ∀ x, (∀ r ∈ events, x ≤ r.start) → x ≤ b) :
    (events.filter fun event => b < event.start).Perm
      (all.filter fun event => b < event.start ∧ event.start ≤ stop) := by
  have := h.filter_perm (fun event => b < event.start) fun x _ hx => by
    have := hb x.start hx
    simp; omega
  rw [List.filter_filter] at this
  simpa only [Bool.decide_and] using this

/-- The page is all of the window once the answer reaches a row before it, or is all there is. -/
theorem exhausted_perm (h : Answers all stop limit events)
    (hend : events.length < limit + 1 ∨ ∃ row ∈ events, row.start < start) :
    (events.filter fun event => start ≤ event.start).Perm
      (all.filter fun event => start ≤ event.start ∧ event.start ≤ stop) := by
  rcases hend with hlt | ⟨row, hr, hrow⟩
  · have := (h.perm_of_short hlt).filter fun event => decide (start ≤ event.start)
    rw [List.filter_filter] at this
    simpa only [Bool.decide_and] using this
  · have := h.filter_perm (fun event => start ≤ event.start) fun x _ hx => by
      have := hx row hr
      simp; omega
    rw [List.filter_filter] at this
    simpa only [Bool.decide_and] using this

/-- A lookahead row outside a window does not count towards it. -/
theorem filter_concat_of_neg {rows : List ProtectEvent} {look : ProtectEvent} {p : ProtectEvent → Bool}
    (hp : p look = false) : (rows ++ [look]).filter p = rows.filter p := by
  simp [hp]

/-- **The boundary of a full page.** `rows ++ [look]` is the answer, `look` its lookahead row. -/
theorem cutAtBoundary_spec {rows : List ProtectEvent} {look : ProtectEvent} (n : Nat)
    (h : Answers all stop limit (rows ++ [look])) (hlen : rows.length = limit) (hlim : 0 < limit)
    (hrows : ∀ event ∈ rows, start ≤ event.start) (hlook : start ≤ look.start) :
    PageSpec all start stop limit (cutAtBoundary n look.start rows) := by
  obtain ⟨hsort, _, hgt⟩ := Sorted.append_iff.1 h.sorted
  obtain ⟨last, hlast⟩ : ∃ last, rows.getLast? = some last := by
    cases hg : rows.getLast? with
    | none => rw [List.getLast?_eq_none_iff] at hg; subst hg; simp at hlen; omega
    | some last => exact ⟨last, rfl⟩
  have hmem : last ∈ rows := List.mem_of_getLast? hlast
  have hle := hsort.last_le hlast
  have hlook_le : look.start ≤ last.start := hgt last hmem look (by simp)
  have hstart := hrows last hmem
  have hstop : last.start ≤ stop := h.le_stop (by simp [hmem])
  simp only [cutAtBoundary, hlast]
  split
  · rename_i heq
    have hkept : rows.rdropWhile (fun event => event.start = last.start) =
        rows.filter fun event => last.start < event.start := rdropWhile_eq_filter hsort hle
    rw [hkept]
    split
    · -- the whole page and its lookahead share one start time
      rename_i hempty
      have hall : ∀ event ∈ rows ++ [look], event.start = last.start := by
        intro event he
        rcases List.mem_append.1 he with he | he
        · have := hle event he
          have hno := List.filter_eq_nil_iff.1 (List.isEmpty_iff.1 hempty) event he
          simp at hno; omega
        · rw [List.mem_singleton.1 he, heq]
      have hcount := h.length_le_of_all_eq hall
      rw [List.filter_filter, List.length_append, List.length_singleton] at hcount
      refine ⟨rfl, last.start, hstart, hstop, ?_⟩
      have hsub : (all.filter fun event => decide (event.start = last.start) && decide (event.start ≤ stop)).length ≤
          (all.filter fun event => event.start = last.start).length := by
        rw [← List.filter_filter]
        exact (List.filter_sublist.filter _).length_le
      omega
    · rename_i hne
      obtain ⟨x, hx⟩ := List.exists_mem_of_ne_nil _ (by simpa using hne :
        (rows.filter fun event => last.start < event.start) ≠ [])
      obtain ⟨hx1, hx2⟩ := List.mem_filter.1 hx
      have hxstop : x.start ≤ stop := h.le_stop (by simp [hx1])
      have hwin := filter_window_perm h last.start fun y hy => hy last (by simp [hmem])
      rw [filter_concat_of_neg (by simp [heq])] at hwin
      refine ⟨hsort.filter _, hstart, ?_, hwin⟩
      simp only [decide_eq_true_eq] at hx2 ⊢
      omega
  · rename_i hne
    have hlt : look.start < last.start := by omega
    rw [if_neg (by omega)]
    have hwin := filter_window_perm h (last.start - 1) fun y hy => by
      have := hy look (by simp)
      omega
    rw [filter_concat_of_neg (by simp; omega), List.filter_eq_self.2] at hwin
    swap
    · intro event he
      have := hle event he
      simp; omega
    exact ⟨hsort, by simp only; omega, by simp only; omega, hwin⟩

/-- **One page.** On an honest answer the page is exactly the events of the window newer than
the next key (all of the window when there is none), and it fails only on an equal-timestamp
group larger than the page. -/
theorem finish_spec (hv : ∀ event ∈ all, ValidId event) (h : Answers all stop limit events)
    (hlim : 0 < limit) :
    PageSpec all start stop limit (finishProtectEventPage start stop limit events) := by
  have hpos : events.length ≤ limit + 1 := by have := h.length; omega
  simp only [finishProtectEventPage, pageError_none hv h]
  by_cases hfull : limit < events.length
  · -- a full page: the last row is the lookahead
    simp only [hfull, if_true]
    obtain ⟨rows, look, rfl⟩ : ∃ rows look, events = rows ++ [look] := by
      rcases List.eq_nil_or_concat events with rfl | ⟨rows, look, rfl⟩
      · simp at hfull
      · exact ⟨rows, look, by simp⟩
    have hlen : rows.length = limit := by simp at hfull hpos; omega
    obtain ⟨hsort, _, hgt⟩ := Sorted.append_iff.1 h.sorted
    rw [List.dropLast_concat, List.getLast?_concat]
    split
    · rename_i firstOlder hidx
      obtain ⟨row, hr, hrow⟩ : ∃ row ∈ rows, row.start < start := by
        rw [List.findIdx?_eq_some_iff_getElem] at hidx
        obtain ⟨hi, hp, _⟩ := hidx
        exact ⟨_, List.getElem_mem hi, by simpa using hp⟩
      have hwin := exhausted_perm h (Or.inr ⟨row, by simp [hr], hrow⟩)
      have hold : look.start < start := Nat.lt_of_le_of_lt (hgt row hr look (by simp)) hrow
      rw [filter_concat_of_neg (by simpa using hold)] at hwin
      rw [take_findIdx_eq_filter hsort hidx]
      exact ⟨hsort.filter _, hwin⟩
    · rename_i hidx
      have hrows : ∀ event ∈ rows, start ≤ event.start := by
        intro event he
        have := List.findIdx?_eq_none_iff.1 hidx event he
        simpa using this
      by_cases hold : look.start < start
      · simp only [hold, if_true]
        have hwin := exhausted_perm h (Or.inr ⟨look, by simp, hold⟩)
        rw [filter_concat_of_neg (by simpa using hold), List.filter_eq_self.2 (by simpa using hrows)] at hwin
        exact ⟨hsort, hwin⟩
      · simp only [hold, if_false]
        exact cutAtBoundary_spec _ h hlen hlim hrows (by omega)
  · simp only [hfull, if_false]
    have hwin : (events.filter fun event => start ≤ event.start).Perm _ := exhausted_perm h (Or.inl (by omega))
    split
    · rename_i firstOlder hidx
      rw [take_findIdx_eq_filter h.sorted hidx]
      exact ⟨h.sorted.filter _, hwin⟩
    · rename_i hidx
      have hrows : ∀ event ∈ events, start ≤ event.start := by
        intro event he
        have := List.findIdx?_eq_none_iff.1 hidx event he
        simpa using this
      rw [List.filter_eq_self.2 (by simpa using hrows)] at hwin
      exact ⟨h.sorted, hwin⟩

end page

/-! ## `protect_events` and its continuations -/

/-- What the controller answers to `(start, end, limit)`: the rows it decoded and the body they
came in, or the failure of the session or the request. -/
abbrev EventSource := Nat → Nat → Nat → Except ApiError (List ProtectEvent × Bytes)

/-- `LegacyClient::protect_events` (legacy.rs:867). `fetch` is `protect_events_with_reauth`. -/
def protectEvents (base64 : Bytes → Text) (fetch : EventSource) (start stop limit : Nat)
    (continuation : Option ProtectEventContinuation) : Except ApiError ProtectEventPage :=
  if stop < start then .error (.config "Protect event start is after end".toList)
  else if ¬ (1 ≤ limit ∧ limit ≤ MAXIMUM_PROTECT_EVENT_PAGE_LIMIT) then
    .error (.config ("Protect event page limit must be between 1 and ".toList ++
      dec MAXIMUM_PROTECT_EVENT_PAGE_LIMIT))
  else if continuation.any fun cursor => cursor.nextEnd < start || stop < cursor.nextEnd then
    .error (.config "Protect event continuation is invalid".toList)
  else
    let requestEnd := (continuation.map (·.nextEnd)).getD stop
    match fetch start requestEnd (limit + 1) with
    | .error error => .error error
    | .ok (events, bytes) =>
      match finishProtectEventPage start requestEnd limit events with
      | .error error => .error (error.withControllerResponse base64 bytes)
      | .ok page => .ok page

/-- One accepted call of a walk: the page end it asked for and the page it got. -/
structure Call where
  requestEnd : Nat
  page : ProtectEventPage

/-- A walk over the pages; `outcome` is `none` when it was still going when its fuel ran out. -/
structure Walk where
  calls : List Call
  outcome : Option (Except ApiError Unit)

def Walk.events (walk : Walk) : List ProtectEvent := walk.calls.flatMap (·.page.events)

/-- A caller that hands each continuation back until there is none. The `k`-th call is answered
by `fetch k`, so equally old events may be ordered differently from call to call. -/
def follow (base64 : Bytes → Text) (fetch : Nat → EventSource) (start stop limit : Nat) :
    Nat → Nat → Option ProtectEventContinuation → Walk
  | 0, _, _ => ⟨[], none⟩
  | fuel + 1, k, continuation =>
    match protectEvents base64 (fetch k) start stop limit continuation with
    | .error error => ⟨[], some (.error error)⟩
    | .ok page =>
      let call : Call := ⟨(continuation.map (·.nextEnd)).getD stop, page⟩
      match page.next with
      | none => ⟨[call], some (.ok ())⟩
      | some next =>
        let rest := follow base64 fetch start stop limit fuel (k + 1) (some next)
        ⟨call :: rest.calls, rest.outcome⟩

/-- A controller holding `all` answers every request `(start, e, limit + 1)` honestly. -/
def Honest (all : List ProtectEvent) (start limit : Nat) (fetch : EventSource) : Prop :=
  ∀ e, ∃ events bytes, fetch start e (limit + 1) = .ok (events, bytes) ∧ Answers all e limit events

/-- The two ways a walk over the window up to `stop` may end. -/
def WalkEnds (base64 : Bytes → Text) (all : List ProtectEvent) (start stop limit : Nat) (walk : Walk) : Prop :=
  ((∃ bytes, walk.outcome = some (.error (boundaryError.withControllerResponse base64 bytes))) ∧
    ∃ t, start ≤ t ∧ t ≤ stop ∧ limit < (all.filter fun event => event.start = t).length) ∨
  (walk.outcome = some (.ok ()) ∧ Sorted ProtectEvent.start walk.events ∧
    walk.events.Perm (all.filter fun event => start ≤ event.start ∧ event.start ≤ stop))

/-- Every continuation handed out stays in the window and below the end just asked for. -/
def KeysDescend (start : Nat) (walk : Walk) : Prop :=
  ∀ call ∈ walk.calls, ∀ next, call.page.next = some next →
    start ≤ next.nextEnd ∧ next.nextEnd < call.requestEnd

section walk
variable {all : List ProtectEvent} {start stop limit : Nat}

/-- A call with a continuation in the window asks the controller for the page up to it. -/
theorem protectEvents_spec (base64 : Bytes → Text) {fetch : EventSource} {continuation : Option ProtectEventContinuation} {r : Nat}
    (hv : ∀ event ∈ all, ValidId event) (hf : Honest all start limit fetch)
    (hlim : 1 ≤ limit ∧ limit ≤ MAXIMUM_PROTECT_EVENT_PAGE_LIMIT)
    (hr : (continuation.map (·.nextEnd)).getD stop = r) (hlo : start ≤ r) (hhi : r ≤ stop) :
    (∃ page, protectEvents base64 fetch start stop limit continuation = .ok page ∧
        PageSpec all start r limit (.ok page)) ∨
      ∃ bytes, protectEvents base64 fetch start stop limit continuation =
          .error (boundaryError.withControllerResponse base64 bytes) ∧
        PageSpec all start r limit (.error boundaryError) := by
  have hcursor : (continuation.any fun cursor => cursor.nextEnd < start || stop < cursor.nextEnd) = false := by
    cases continuation with
    | none => rfl
    | some cursor =>
      simp only [Option.map_some, Option.getD_some] at hr
      simp [hr]; omega
  obtain ⟨events, bytes, hfetch, hans⟩ := hf r
  have hspec : PageSpec all start r limit (finishProtectEventPage start r limit events) := finish_spec hv hans hlim.1
  rw [protectEvents, if_neg (by omega), if_neg (by simp [hlim]), if_neg (by simp [hcursor])]
  simp only [hr, hfetch]
  cases hfin : finishProtectEventPage start r limit events with
  | ok page => exact Or.inl ⟨page, rfl, hfin ▸ hspec⟩
  | error error =>
    rw [hfin] at hspec
    obtain ⟨rfl, hgroup⟩ := hspec
    exact Or.inr ⟨bytes, rfl, rfl, hgroup⟩

/-- The walk from any continuation in the window, by induction on the page end. -/
theorem follow_from (base64 : Bytes → Text) (fetch : Nat → EventSource) (hv : ∀ event ∈ all, ValidId event)
    (hf : ∀ k, Honest all start limit (fetch k))
    (hlim : 1 ≤ limit ∧ limit ≤ MAXIMUM_PROTECT_EVENT_PAGE_LIMIT) :
    ∀ (fuel k : Nat) (continuation : Option ProtectEventContinuation) (r : Nat),
      (continuation.map (·.nextEnd)).getD stop = r → start ≤ r → r ≤ stop → r - start < fuel →
      WalkEnds base64 all start r limit (follow base64 fetch start stop limit fuel k continuation) ∧
        KeysDescend start (follow base64 fetch start stop limit fuel k continuation)
  | 0, _, _, _, _, _, _, h => by omega
  | fuel + 1, k, continuation, r, hr, hlo, hhi, hfuel => by
    rcases protectEvents_spec base64 hv (hf k) hlim hr hlo hhi with
      ⟨page, hpage, hsort, hnext⟩ | ⟨bytes, herr, -, hgroup⟩
    · simp only [follow, hpage]
      cases hn : page.next with
      | none =>
        rw [hn] at hnext
        refine ⟨Or.inr ⟨rfl, by simpa [Walk.events] using hsort, by simpa [Walk.events] using hnext⟩, ?_⟩
        intro call hc next hnx
        rw [List.mem_singleton.1 hc] at hnx
        simp [hn] at hnx
      | some next =>
        rw [hn] at hnext
        obtain ⟨hlo', hlt, hperm⟩ := hnext
        obtain ⟨hends, hkeys⟩ := follow_from base64 fetch hv hf hlim fuel (k + 1) (some next) next.nextEnd rfl hlo'
          (by omega) (by omega)
        refine ⟨?_, ?_⟩
        · rcases hends with ⟨hb, t, ht1, ht2, ht3⟩ | ⟨hok, hsorted, hrest⟩
          · exact Or.inl ⟨hb, t, ht1, by omega, ht3⟩
          · refine Or.inr ⟨hok, ?_, ?_⟩
            · -- later pages are older than the key, this page is newer
              refine Sorted.append_iff.2 ⟨hsort, hsorted, fun a ha c hc => ?_⟩
              have h1 := (List.mem_filter.1 (hperm.subset ha)).2
              have h2 := (List.mem_filter.1 (hrest.subset hc)).2
              simp at h1 h2; omega
            · refine (hperm.append hrest).trans ?_
              have hsplit := List.filter_append_perm (fun event => decide (next.nextEnd < event.start))
                (all.filter fun event => decide (start ≤ event.start ∧ event.start ≤ r))
              rw [List.filter_filter, List.filter_filter] at hsplit
              refine Eq.subst (motive := fun l => List.Perm l _) ?_ hsplit
              congr 1 <;> apply List.filter_congr <;> intro event _ <;> simp <;> grind
        · intro call hc nx hnx
          rcases List.mem_cons.1 hc with rfl | hc
          · simp only [hn, Option.some.injEq] at hnx
            subst hnx
            exact ⟨hlo', by simpa [hr] using hlt⟩
          · exact hkeys call hc nx hnx
    · simp only [follow, herr]
      exact ⟨Or.inl ⟨⟨bytes, rfl⟩, hgroup⟩, by intro call hc; simp at hc⟩

/-- **Following the continuations.** Against any honest controller, over any window and page
limit, the walk ends within `stop - start + 1` calls: with the equal-timestamp-group error,
and then some time of the window really has more events than a page holds, or with pages that
together are every event of the window once, newest first. No continuation leaves the window
or fails to move the page end down. -/
theorem follow_complete (fetch : Nat → EventSource) (hv : ∀ event ∈ all, ValidId event)
    (hf : ∀ k, Honest all start limit (fetch k)) (hse : start ≤ stop)
    (hlim : 1 ≤ limit ∧ limit ≤ MAXIMUM_PROTECT_EVENT_PAGE_LIMIT) :
    WalkEnds base64 all start stop limit (follow base64 fetch start stop limit (stop - start + 1) 0 none) ∧
      KeysDescend start (follow base64 fetch start stop limit (stop - start + 1) 0 none) :=
  follow_from base64 fetch hv hf hlim _ 0 none stop rfl hse (Nat.le_refl _) (by omega)

/-- A controller that keeps its events newest first and answers with the first rows is honest. -/
theorem honest_of_sorted (hs : Sorted ProtectEvent.start all) :
    Honest all start limit fun _ e n => .ok ((all.filter fun event => event.start ≤ e).take n, []) :=
  fun _ => ⟨_, [], rfl, Newest.take (hs.filter _) _⟩

end walk

/-- Four events, two of them simultaneous, read two at a time. -/
theorem follow_complete_sample :
    let event (id : Text) (start : Nat) : ProtectEvent := ⟨id, "motion".toList, start, none, none, none, []⟩
    let all := [event ['a'] 30, event ['b'] 20, event ['c'] 20, event ['d'] 10]
    let fetch : Nat → EventSource :=
      fun _ _ e n => .ok ((all.filter fun event => event.start ≤ e).take n, [])
    WalkEnds (fun _ => []) all 10 30 2 (follow (fun _ => []) fetch 10 30 2 21 0 none) ∧
      KeysDescend 10 (follow (fun _ => []) fetch 10 30 2 21 0 none) := by
  intro event all fetch
  exact follow_complete fetch (by simp [all, event, ValidId]; decide)
    (fun _ => honest_of_sorted (by simp [all, event, Sorted])) (by decide) (by decide)

end UnifiMcp
