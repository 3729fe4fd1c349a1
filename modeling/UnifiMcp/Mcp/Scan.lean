import UnifiMcp.Api.Collection
import UnifiMcp.Mcp.Tools
/-! # Multi-page scans (unifi-mcp/src/tools.rs)

A scan asks page after page until an empty one, the reported total or its ceiling.

* `scan_flagged_iff` — a scan that stops short of the total says so, unless a page is empty
  before its own total. -/
namespace UnifiMcp

/-! ## Pages -/

/-- `Page` (models.rs:16). -/
structure Page (α : Type) where
  offset : Nat
  limit : Nat
  count : Nat
  totalCount : Nat
  data : List α
  totalCount_le : totalCount ≤ MAXIMUM_U64
deriving DecidableEq

/-- `PageRequest` (models.rs:27). -/
structure PageRequest where
  offset : Nat
  limit : Nat
deriving DecidableEq

def MAXIMUM_INTEGRATION_LIMIT : Nat := 200

/-- `integration_limit` (tools.rs:93). -/
def integrationLimit (requested : Nat) : Nat := min requested MAXIMUM_INTEGRATION_LIMIT

/-- `u64::saturating_add`. -/
def saturatingAdd (a b : Nat) : Nat := min (a + b) MAXIMUM_U64

/-! ## Scans -/

section
variable {α ε : Type}

/-- The offset behind a page. -/
def advance (offset : Nat) (page : Page α) : Nat := saturatingAdd offset page.data.length

/-- The loop of both scans, for at most so many requests; `cut` is its ceiling test, `fetch` answers
the request of that number. -/
def gather (fetch : Nat → Nat → Except ε (Page α)) (cut : Nat → Bool) :
    Nat → Nat → Nat → List α → Option (Except ε (List α × Bool))
  | 0, _, _, _ => none
  | fuel + 1, request, offset, items =>
    match fetch request offset with
    | .error error => some (.error error)
    | .ok page =>
      if page.data.length = 0 ∨ page.totalCount ≤ advance offset page then some (.ok (items ++ page.data, false))
      else if cut (advance offset page) then some (.ok (items ++ page.data, true))
      else gather fetch cut fuel (request + 1) (advance offset page) (items ++ page.data)

/-- `paged_gather` (tools.rs:11926), for at most so many requests. -/
def pagedGather (fetch : Nat → Nat → Except ε (Page α)) (start ceiling fuel : Nat) :
    Option (Except ε (List α × Bool)) :=
  gather fetch (fun offset => ceiling ≤ offset - start) fuel 0 start []

def DEVICE_INVENTORY_CEILING : Nat := 1000

/-- `device_inventory` (tools.rs:10832), for at most so many requests. -/
def deviceInventory (devices : Nat → PageRequest → Except ε (Page α)) (fuel : Nat) :
    Option (Except ε (List α × Bool)) :=
  gather (fun request offset => devices request ⟨offset, 100⟩) (fun offset => DEVICE_INVENTORY_CEILING ≤ offset)
    fuel 0 0 []

/-- The requests of a scan from request `first` at `start` on. -/
inductive Asked (fetch : Nat → Nat → Except ε (Page α)) (cut : Nat → Bool) (first start : Nat) : Nat → Nat → Prop
  | first : Asked fetch cut first start first start
  | next {request offset : Nat} {page : Page α} (h : Asked fetch cut first start request offset)
      (hfetch : fetch request offset = .ok page) (hrows : page.data.length ≠ 0)
      (hleft : advance offset page < page.totalCount) (hcut : cut (advance offset page) = false) :
      Asked fetch cut first start (request + 1) (advance offset page)

/-- The last request of a scan. -/
def LastAsked (fetch : Nat → Nat → Except ε (Page α)) (cut : Nat → Bool) (first start request offset : Nat) : Prop :=
  Asked fetch cut first start request offset ∧ ∀ next, ¬Asked fetch cut first start (request + 1) next

/-- An error, a flag, or as many rows as the last page says there are. -/
def Flagged (fetch : Nat → Nat → Except ε (Page α)) (cut : Nat → Bool) (first start base : Nat) :
    Except ε (List α × Bool) → Prop
  | .error _ => True
  | .ok (items, truncated) => truncated = true ∨ ∀ request offset page,
      LastAsked fetch cut first start request offset → fetch request offset = .ok page →
        page.totalCount ≤ base + items.length

/-- No page of the scan is empty before its own total. -/
def NoneEmpty (fetch : Nat → Nat → Except ε (Page α)) (cut : Nat → Bool) (first start : Nat) : Prop :=
  ∀ request offset page, Asked fetch cut first start request offset → fetch request offset = .ok page →
    page.data.length = 0 → page.totalCount ≤ offset

variable {fetch : Nat → Nat → Except ε (Page α)} {cut : Nat → Bool}

theorem Asked.le {first start request offset : Nat} (h : Asked fetch cut first start request offset) :
    first ≤ request := by
  induction h with
  | first => exact Nat.le_refl _
  | next _ _ _ _ _ ih => exact Nat.le_succ_of_le ih

/-- After a page that goes on, the other requests are those of the scan from there. -/
theorem asked_step {first start : Nat} {page : Page α} (hfetch : fetch first start = .ok page)
    (hrows : page.data.length ≠ 0) (hleft : advance start page < page.totalCount)
    (hcut : cut (advance start page) = false) {request offset : Nat} :
    Asked fetch cut first start request offset ↔
      request = first ∧ offset = start ∨ Asked fetch cut (first + 1) (advance start page) request offset := by
  constructor
  · intro h
    induction h with
    | first => exact Or.inl ⟨rfl, rfl⟩
    | @next request offset page' h hfetch' hrows' hleft' hcut' ih =>
      rcases ih with ⟨rfl, rfl⟩ | ih
      · cases hfetch.symm.trans hfetch'
        exact Or.inr .first
      · exact Or.inr (.next ih hfetch' hrows' hleft' hcut')
  · rintro (⟨rfl, rfl⟩ | h)
    · exact .first
    · induction h with
      | first => exact .next .first hfetch hrows hleft hcut
      | next _ hfetch' hrows' hleft' hcut' ih => exact .next ih hfetch' hrows' hleft' hcut'

/-- A page that does not go on is the only one. -/
theorem asked_only {first start : Nat} (h : ∀ page, fetch first start = .ok page →
      page.data.length = 0 ∨ page.totalCount ≤ advance start page ∨ cut (advance start page) = true)
    {request offset : Nat} (hasked : Asked fetch cut first start request offset) : request = first ∧ offset = start := by
  induction hasked with
  | first => exact ⟨rfl, rfl⟩
  | next _ hfetch hrows hleft hcut ih =>
    obtain ⟨rfl, rfl⟩ := ih
    rcases h _ hfetch with h | h | h
    · exact absurd h hrows
    · omega
    · rw [hcut] at h
      cases h

/-- The scan ends in time: every page that goes on moves the offset, and the ceiling stops it. -/
theorem gather_isSome (bound : Nat) (hcut : ∀ offset, cut offset = false → offset < bound) :
    ∀ (fuel request offset : Nat) (items : List α), bound < offset + fuel → 0 < fuel →
      (gather fetch cut fuel request offset items).isSome = true
  | fuel + 1, request, offset, items, hfuel, _ => by
    rw [gather]
    split
    · rfl
    · rename_i page _
      split
      · rfl
      · rename_i hgo
        split
        · rfl
        · rename_i hc
          have hb := hcut _ (Bool.eq_false_iff.2 hc)
          have hle := page.totalCount_le
          simp only [not_or, Nat.not_le] at hgo
          have hmove : offset < advance offset page := by
            unfold advance saturatingAdd at *
            omega
          exact gather_isSome bound hcut fuel _ _ _ (by omega) (by omega)

/-- A scan that goes on is flagged when the rest of it is. -/
theorem flagged_step {base first start : Nat} {page : Page α} (hfetch : fetch first start = .ok page)
    (hrows : page.data.length ≠ 0) (hleft : advance start page < page.totalCount)
    (hcut : cut (advance start page) = false) (result : Except ε (List α × Bool)) :
    Flagged fetch cut first start base result ↔ Flagged fetch cut (first + 1) (advance start page) base result := by
  have hlast (request offset : Nat) : LastAsked fetch cut first start request offset ↔
      LastAsked fetch cut (first + 1) (advance start page) request offset := by
    unfold LastAsked
    simp only [asked_step hfetch hrows hleft hcut]
    constructor
    · rintro ⟨⟨rfl, rfl⟩ | h, hn⟩
      · exact absurd (Or.inr .first) (hn (advance offset page))
      · exact ⟨h, fun next hnext => hn next (Or.inr hnext)⟩
    · rintro ⟨h, hn⟩
      refine ⟨Or.inr h, fun next => ?_⟩
      have := h.le
      rintro (⟨hr, -⟩ | hnext)
      · omega
      · exact hn next hnext
  cases result with
  | error => exact Iff.rfl
  | ok found =>
    refine or_congr_right (forall_congr' fun request => forall_congr' fun offset => forall_congr' fun page' => ?_)
    rw [hlast]

/-- Whether some page of a scan that goes on is empty too early, the rest decides. -/
theorem noneEmpty_step {first start : Nat} {page : Page α} (hfetch : fetch first start = .ok page)
    (hrows : page.data.length ≠ 0) (hleft : advance start page < page.totalCount)
    (hcut : cut (advance start page) = false) :
    NoneEmpty fetch cut first start ↔ NoneEmpty fetch cut (first + 1) (advance start page) := by
  constructor
  · intro h request offset page' hasked
    exact h request offset page' ((asked_step hfetch hrows hleft hcut).2 (Or.inr hasked))
  · intro h request offset page' hasked hfetch' hempty
    rcases (asked_step hfetch hrows hleft hcut).1 hasked with ⟨rfl, rfl⟩ | hasked
    · cases hfetch.symm.trans hfetch'
      exact absurd hempty hrows
    · exact h request offset page' hasked hfetch' hempty

/-- One scan: by induction on the requests it makes. The rows so far reach from `base` to the
offset. -/
theorem gather_flagged_iff (base : Nat) : ∀ {fuel first start : Nat} {items : List α}
    {result : Except ε (List α × Bool)}, gather fetch cut fuel first start items = some result →
    min start MAXIMUM_U64 = min (base + items.length) MAXIMUM_U64 →
    (Flagged fetch cut first start base result ↔ NoneEmpty fetch cut first start)
  | fuel + 1, first, start, items, result, h, hbase => by
    rw [gather] at h
    cases hfetch : fetch first start with
    | error error =>
      simp only [hfetch, Option.some.injEq] at h
      subst h
      refine ⟨fun _ request offset page hasked hpage => ?_, fun _ => trivial⟩
      obtain ⟨rfl, rfl⟩ := asked_only (fun page hp => by rw [hfetch] at hp; cases hp) hasked
      rw [hfetch] at hpage
      cases hpage
    | ok page =>
      have htotal := page.totalCount_le
      have honly (hstop : page.data.length = 0 ∨ page.totalCount ≤ advance start page ∨
          cut (advance start page) = true) {request offset : Nat} (hasked : Asked fetch cut first start request offset) :
          request = first ∧ offset = start :=
        asked_only (fun page' hp => by cases hfetch.symm.trans hp; exact hstop) hasked
      have hlast (hstop : page.data.length = 0 ∨ page.totalCount ≤ advance start page ∨
          cut (advance start page) = true) : LastAsked fetch cut first start first start :=
        ⟨.first, fun next hn => by have := (honly hstop hn).1; omega⟩
      simp only [hfetch] at h
      split at h
      · rename_i hstop
        have hstop' : page.data.length = 0 ∨ page.totalCount ≤ advance start page ∨
          cut (advance start page) = true := hstop.imp_right Or.inl
        cases h
        constructor
        · rintro (h | h) request offset page' hasked hp hempty
          · cases h
          · obtain ⟨rfl, rfl⟩ := honly hstop' hasked
            have hle := h _ _ _ (hlast hstop') hp
            cases hfetch.symm.trans hp
            rw [List.length_append, hempty, Nat.add_zero] at hle
            omega
        · intro h
          refine Or.inr fun request offset page' hasked hp => ?_
          obtain ⟨rfl, rfl⟩ := honly hstop' hasked.1
          cases hfetch.symm.trans hp
          have hreach : page.totalCount ≤ advance offset page := by
            rcases hstop with hempty | hle
            · have := h _ _ _ .first hfetch hempty
              unfold advance saturatingAdd
              omega
            · exact hle
          unfold advance saturatingAdd at hreach
          rw [List.length_append]
          omega
      · rename_i hgo
        split at h
        · rename_i hc
          cases h
          refine ⟨fun _ request offset page' hasked hp hempty => ?_, fun _ => Or.inl rfl⟩
          obtain ⟨rfl, rfl⟩ := honly (Or.inr (Or.inr hc)) hasked
          cases hfetch.symm.trans hp
          exact absurd (Or.inl hempty) hgo
        · rename_i hc
          simp only [not_or, Nat.not_le] at hgo
          have hcut := Bool.eq_false_iff.2 hc
          rw [flagged_step hfetch hgo.1 hgo.2 hcut, noneEmpty_step hfetch hgo.1 hgo.2 hcut]
          refine gather_flagged_iff base h ?_
          rw [List.length_append]
          unfold advance saturatingAdd
          omega

end

/-- What a scan owes its caller: it ends within one request more than its ceiling, and its result is
flagged. -/
def Honors {α ε : Type} (fetch : Nat → Nat → Except ε (Page α)) (cut : Nat → Bool) (start : Nat)
    (result : Option (Except ε (List α × Bool))) : Prop :=
  ∃ found, result = some found ∧ Flagged fetch cut 0 start start found

/-- **A scan that stops short of the total says so**, exactly when none of its pages is empty before
its own total. -/
theorem scan_flagged_iff {α ε : Type} :
    (∀ (fetch : Nat → Nat → Except ε (Page α)) (start ceiling : Nat),
      Honors fetch (fun offset => ceiling ≤ offset - start) start (pagedGather fetch start ceiling (ceiling + 1)) ↔
        NoneEmpty fetch (fun offset => ceiling ≤ offset - start) 0 start) ∧
    ∀ devices : Nat → PageRequest → Except ε (Page α),
      Honors (fun request offset => devices request ⟨offset, 100⟩) (fun offset => DEVICE_INVENTORY_CEILING ≤ offset) 0
          (deviceInventory devices (DEVICE_INVENTORY_CEILING + 1)) ↔
        NoneEmpty (fun request offset => devices request ⟨offset, 100⟩)
          (fun offset => DEVICE_INVENTORY_CEILING ≤ offset) 0 0 := by
  constructor
  · intro fetch start ceiling
    have hsome : (pagedGather fetch start ceiling (ceiling + 1)).isSome = true :=
      gather_isSome (start + ceiling) (fun offset h => by simp at h; omega) _ _ _ _ (by omega) (by omega)
    obtain ⟨found, hfound⟩ := Option.isSome_iff_exists.1 hsome
    have hiff := gather_flagged_iff start hfound rfl
    refine ⟨fun ⟨found', h, hflag⟩ => ?_, fun h => ⟨found, hfound, hiff.2 h⟩⟩
    cases hfound.symm.trans h
    exact hiff.1 hflag
  · intro devices
    have hsome : (deviceInventory devices (DEVICE_INVENTORY_CEILING + 1)).isSome = true :=
      gather_isSome DEVICE_INVENTORY_CEILING (fun offset h => by simpa using h) _ _ _ _ (by omega) (by omega)
    obtain ⟨found, hfound⟩ := Option.isSome_iff_exists.1 hsome
    have hiff := gather_flagged_iff 0 hfound rfl
    refine ⟨fun ⟨found', h, hflag⟩ => ?_, fun h => ⟨found, hfound, hiff.2 h⟩⟩
    cases hfound.symm.trans h
    exact hiff.1 hflag

/-- A page without rows that says there are five. -/
def emptyPage (offset : Nat) : Page Nat := ⟨offset, 200, 0, 5, [], by decide⟩

/-- **An empty page ends a scan as if it were complete.** -/
theorem empty_page_unflagged :
    ¬Honors (fun _ offset => (.ok (emptyPage offset) : Except ApiError (Page Nat))) (fun offset => 400 ≤ offset - 0) 0
      (pagedGather (fun _ offset => (.ok (emptyPage offset) : Except ApiError (Page Nat))) 0 400 401) := by
  rintro ⟨found, hfound, hflag⟩
  have hresult : found = .ok ([], false) := (Option.some.inj hfound).symm
  subst hresult
  rcases hflag with h | h
  · cases h
  · have honly := fun request offset => @asked_only Nat ApiError (fun _ offset => .ok (emptyPage offset))
      (fun offset => 400 ≤ offset - 0) 0 0 (fun page hp => by cases hp; exact Or.inl rfl) request offset
    have := h 0 0 (emptyPage 0) ⟨.first, fun next hn => by have := (honly _ _ hn).1; omega⟩ rfl
    exact absurd this (by decide)

end UnifiMcp
