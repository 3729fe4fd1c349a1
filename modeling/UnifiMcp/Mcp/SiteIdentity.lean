import UnifiMcp.Api.Integration
import UnifiMcp.Mcp.Paging
import UnifiMcp.Mcp.Tools
/-! # The site identity (unifi-mcp/src/handler.rs:202)

Every Network tool addresses one site. Its id is looked up in the paged catalog of the controller, by the configured
internal reference, once: the cell keeps the first success, and one call at a time scans.

* `scanSites_atMost` — against any controller, at most 20 000 requests.
* `scanSites_found` — a scan names only a site that a page showed.
* `site_scan_resolves` — on a controller that pages one catalog, **the scan finds the configured site among the first
  10 000 rows**, and refuses only what is not there or lies beyond. -/
namespace UnifiMcp.Integration
open Text Dialogue

def SITES_PAGE_LIMIT : Nat := 100

def SITES_SCAN_CEILING : Nat := 10000

/-- The refusal at the ceiling (handler.rs:247). -/
def ceilingError : McpError := .internalError ("the configured site was not found within the ".toList ++
  "site-scan ceiling; refusing to page further ".toList ++ "through the catalog the controller reports".toList)

/-- The refusal behind the last page (handler.rs:256). -/
def notFoundError : McpError := .internalError "configured site was not found on the controller".toList

/-- The row the configuration names (handler.rs:223). -/
def configured (legacySite : Text) (rows : List SiteSummary) : Option SiteSummary :=
  rows.find? fun site => site.internalReference == some legacySite

/-- The only row of a catalog of one (handler.rs:228). -/
def soleSite (offset : Nat) (page : Page SiteSummary) (sole : Option Text) : Option Text :=
  if offset = 0 ∧ page.totalCount = 1 then
    match page.data with
    | [only] => some only.id
    | _ => sole
  else sole

/-- The loop of `site_id` (handler.rs:214-255). -/
def scanSites (c : Client) (legacySite : Text) (offset : Nat) (sole : Option Text) : Talk (Except McpError Text) :=
  (c.sites ⟨offset, SITES_PAGE_LIMIT⟩).bind fun answer =>
    match answer with
    | .error error => .done (.error (apiError error))
    | .ok page =>
      match configured legacySite page.data with
      | some site => .done (.ok site.id)
      | none =>
        if _hlast : page.data = [] ∨ page.totalCount ≤ offset + page.data.length then
          .done (match soleSite offset page sole with
            | some only => .ok only
            | none => .error notFoundError)
        else if _hceiling : SITES_SCAN_CEILING ≤ offset + page.data.length then .done (.error ceilingError)
        else scanSites c legacySite (offset + page.data.length) (soleSite offset page sole)
termination_by SITES_SCAN_CEILING - offset
decreasing_by
  have hrows : 0 < page.data.length := List.length_pos_iff.2 (not_or.1 _hlast).1
  omega

/-- `site_id`, over `OnceCell::get_or_try_init` (handler.rs:202). -/
def siteId (c : Client) (legacySite : Text) : Talk (Except McpError Text) :=
  (Dialogue.put Ask.enter : Talk (Option Text)).bind fun kept =>
    match kept with
    | some site => .done (.ok site)
    | none => (scanSites c legacySite 0 none).bind fun found =>
      match found with
      | .ok site => (Dialogue.put (Ask.fill site) : Talk Unit).bind fun _ => .done (.ok site)
      | .error error => (Dialogue.put Ask.leave : Talk Unit).bind fun _ => .done (.error error)

/-! ## One turn of the scan -/

section
variable {c : Client} {legacySite : Text} {offset : Nat} {sole : Option Text} {log : Log}

/-- Behind a page: the scan ends, or goes on behind its rows. -/
def turn (c : Client) (legacySite : Text) (offset : Nat) (sole : Option Text) :
    Except ApiError (Page SiteSummary) → Talk (Except McpError Text)
  | .error error => .done (.error (apiError error))
  | .ok page =>
    match configured legacySite page.data with
    | some site => .done (.ok site.id)
    | none =>
      if page.data = [] ∨ page.totalCount ≤ offset + page.data.length then
        .done (match soleSite offset page sole with
          | some only => .ok only
          | none => .error notFoundError)
      else if SITES_SCAN_CEILING ≤ offset + page.data.length then .done (.error ceilingError)
      else scanSites c legacySite (offset + page.data.length) (soleSite offset page sole)

theorem scanSites_eq : scanSites c legacySite offset sole =
    (c.sites ⟨offset, SITES_PAGE_LIMIT⟩).bind (turn c legacySite offset sole) := by
  rw [scanSites]
  congr 1

/-- A page that is not the last has no sole row. -/
theorem soleSite_none {page : Page SiteSummary} (hlast : ¬(page.data = [] ∨ page.totalCount ≤ offset + page.data.length)) :
    soleSite offset page none = none := by
  unfold soleSite
  split
  · rename_i hfirst
    split
    · rename_i only honly
      refine absurd (Or.inr ?_) hlast
      rw [hfirst.2, honly]
      exact Nat.le_add_left _ _
    · rfl
  · rfl

/-! ## Against any controller -/

/-- **The scan is bounded by its ceiling**, whatever the controller reports. -/
theorem scanSites_atMost (hoffset : offset < SITES_SCAN_CEILING) :
    AtMost Ask.isSend (2 * (SITES_SCAN_CEILING - offset)) (scanSites c legacySite offset sole) := by
  induction hleft : SITES_SCAN_CEILING - offset using Nat.strong_induction_on generalizing offset sole with
  | h left ih =>
    have hturn : ∀ answer, AtMost Ask.isSend (2 * (left - 1)) (turn c legacySite offset sole answer) := by
      intro answer
      cases answer with
      | error error => exact .done
      | ok page =>
        simp only [turn]
        split
        · exact .done
        · split
          · exact .done
          · rename_i hlast
            have hrows : 0 < page.data.length := List.length_pos_iff.2 (not_or.1 hlast).1
            split
            · exact .done
            · exact (ih (SITES_SCAN_CEILING - (offset + page.data.length)) (by omega) (by omega) rfl).mono (by omega)
    rw [scanSites_eq]
    exact (AtMost.bind (m := 2) (AtMost.map _ Client.get_atMost_two) hturn).mono (by omega)

/-- The scan reads the catalog, and waits when it is told to. -/
theorem guarded_scan {rule : Log → Ask → Prop} {before : Log} (hsleep : ∀ log delay, rule log (.sleep delay))
    (hsend : ∀ log url page, c.endpoint ["sites".toList] (pageQuery page) = .ok url → rule log (.send ⟨.get, url, none⟩)) :
    Guarded rule before (scanSites c legacySite offset sole) := by
  induction hleft : SITES_SCAN_CEILING - offset using Nat.strong_induction_on generalizing offset sole before with
  | h left ih =>
    rw [scanSites_eq]
    refine Guarded.bind (Guarded.map _ (Client.guarded_get hsleep fun log url hurl => hsend log url _ hurl))
      fun log answer _ => ?_
    cases answer with
    | error error => exact .done
    | ok page =>
      simp only [turn]
      split
      · exact .done
      · split
        · exact .done
        · rename_i hlast
          have hrows : 0 < page.data.length := List.length_pos_iff.2 (not_or.1 hlast).1
          split
          · exact .done
          · exact ih (SITES_SCAN_CEILING - (offset + page.data.length)) (by omega) rfl

/-- A page in the log names the site: a configured row, or the only row there is. -/
def FoundIn (c : Client) (legacySite : Text) (log : Log) (site : Text) : Prop :=
  ∃ offset url answer page, c.endpoint ["sites".toList] (pageQuery ⟨offset, SITES_PAGE_LIMIT⟩) = .ok url ∧
    sent ⟨.get, url, none⟩ answer ∈ log ∧
    ((c.received answer).bind (c.decoded c.readSites)).map Prod.fst = .ok page ∧
    ((∃ row, configured legacySite page.data = some row ∧ row.id = site) ∨
      (page.totalCount = 1 ∧ ∃ only, page.data = [only] ∧ only.id = site))

theorem FoundIn.append {first rest : Log} {site : Text} (h : FoundIn c legacySite rest site) :
    FoundIn c legacySite (first ++ rest) site := by
  obtain ⟨o, url, answer, page, hurl, hsent, hpage, hsite⟩ := h
  exact ⟨o, url, answer, page, hurl, List.mem_append_right _ hsent, hpage, hsite⟩

theorem runs_sites {page : PageRequest} {r : Except ApiError (Page SiteSummary)} (h : Runs (c.sites page) log r) :
    (∃ error, c.endpoint ["sites".toList] (pageQuery page) = .error error ∧ r = .error error) ∨
    ∃ url answer, c.endpoint ["sites".toList] (pageQuery page) = .ok url ∧ sent ⟨.get, url, none⟩ answer ∈ log ∧
      r = ((c.received answer).bind (c.decoded c.readSites)).map Prod.fst := by
  obtain ⟨error, herror, -, rfl⟩ | ⟨url, before, answer, hurl, -, rfl, rfl⟩ := Client.runs_getJson h
  · exact Or.inl ⟨error, herror, rfl⟩
  · exact Or.inr ⟨url, answer, hurl, List.mem_append_right _ (List.mem_singleton_self _), rfl⟩

/-- **A scan names only a site that a page showed.** -/
theorem scanSites_found {site : Text} (h : Runs (scanSites c legacySite offset none) log (.ok site)) :
    FoundIn c legacySite log site := by
  induction hleft : SITES_SCAN_CEILING - offset using Nat.strong_induction_on generalizing offset log with
  | h left ih =>
    rw [scanSites_eq] at h
    obtain ⟨first, rest, answer, rfl, hread, hrest⟩ := runs_bind_iff.1 h
    cases answer with
    | error error => cases (runs_done_iff.1 hrest).2
    | ok page =>
      obtain ⟨error, -, heq⟩ | ⟨url, answer, hurl, hsent, heq⟩ := runs_sites hread
      · cases heq
      have hshown : ∀ {rest : Log}, ((∃ row, configured legacySite page.data = some row ∧ row.id = site) ∨
          (page.totalCount = 1 ∧ ∃ only, page.data = [only] ∧ only.id = site)) →
          FoundIn c legacySite (first ++ rest) site := fun hsite =>
        ⟨offset, url, answer, page, hurl, List.mem_append_left _ hsent, heq.symm, hsite⟩
      simp only [turn] at hrest
      split at hrest
      · rename_i row hfound
        obtain ⟨rfl, hrow⟩ := runs_done_iff.1 hrest
        exact hshown (Or.inl ⟨row, hfound, (Except.ok.inj hrow).symm⟩)
      · split at hrest
        · have hsole := (runs_done_iff.1 hrest).2
          unfold soleSite at hsole
          split at hsole
          · rename_i only hfirst
            split at hfirst
            · rename_i hone
              split at hfirst
              · rename_i last hdata
                cases hfirst
                exact hshown (Or.inr ⟨hone.2, last, hdata, (Except.ok.inj hsole).symm⟩)
              · cases hfirst
            · cases hfirst
          · cases hsole
        · rename_i hlast
          have hrows : 0 < page.data.length := List.length_pos_iff.2 (not_or.1 hlast).1
          split at hrest
          · cases (runs_done_iff.1 hrest).2
          · rw [soleSite_none hlast] at hrest
            exact (ih (SITES_SCAN_CEILING - (offset + page.data.length)) (by omega) hrest rfl).append

/-! ## Against a controller that pages one catalog -/

/-- Every page answered is a slice of the catalog, and is empty only behind its end. -/
def Paged (c : Client) (catalog : List SiteSummary) (log : Log) : Prop :=
  ∀ offset url answer page, c.endpoint ["sites".toList] (pageQuery ⟨offset, SITES_PAGE_LIMIT⟩) = .ok url →
    sent ⟨.get, url, none⟩ answer ∈ log →
    ((c.received answer).bind (c.decoded c.readSites)).map Prod.fst = .ok page →
    page.totalCount = catalog.length ∧ page.data <+: catalog.drop offset ∧ (page.data = [] → catalog.length ≤ offset)

/-- A read of the catalog failed. -/
def ReadRefused (c : Client) (log : Log) (error : ApiError) : Prop :=
  (∃ offset, c.endpoint ["sites".toList] (pageQuery ⟨offset, SITES_PAGE_LIMIT⟩) = .error error) ∨
  ∃ request answer, sent request answer ∈ log ∧
    ((c.received answer).bind (c.decoded c.readSites)).map Prod.fst = .error error

/-- The site a catalog resolves to: the configured row, or the only one. -/
def resolved (legacySite : Text) (catalog : List SiteSummary) : Except McpError Text :=
  match configured legacySite catalog with
  | some site => .ok site.id
  | none => match catalog with
    | [only] => .ok only.id
    | _ => .error notFoundError

/-- How a scan of a catalog may end. -/
inductive Scanned (c : Client) (legacySite : Text) (catalog : List SiteSummary) (log : Log) : Except McpError Text → Prop
  | refused (error : ApiError) (h : ReadRefused c log error) : Scanned c legacySite catalog log (.error (apiError error))
  | resolved : Scanned c legacySite catalog log (resolved legacySite catalog)
  | ceiling (hlong : SITES_SCAN_CEILING < catalog.length)
      (habsent : configured legacySite (catalog.take SITES_SCAN_CEILING) = none) :
      Scanned c legacySite catalog log (.error ceilingError)

theorem readRefused_of_runs {error : ApiError} (h : Runs (c.sites ⟨offset, SITES_PAGE_LIMIT⟩) log (.error error)) :
    ReadRefused c log error := by
  obtain ⟨error', herror, heq⟩ | ⟨url, answer, -, hsent, heq⟩ := runs_sites h
  · cases heq
    exact Or.inl ⟨offset, herror⟩
  · exact Or.inr ⟨_, answer, hsent, heq.symm⟩

theorem page_of_runs {catalog : List SiteSummary} {page : Page SiteSummary}
    (h : Runs (c.sites ⟨offset, SITES_PAGE_LIMIT⟩) log (.ok page)) (hpaged : Paged c catalog log) :
    page.totalCount = catalog.length ∧ page.data <+: catalog.drop offset ∧ (page.data = [] → catalog.length ≤ offset) := by
  obtain ⟨error, -, heq⟩ | ⟨url, answer, hurl, hsent, heq⟩ := runs_sites h
  · cases heq
  · exact hpaged offset url answer page hurl hsent heq.symm

section
variable {catalog : List SiteSummary}

theorem configured_append {front back : List SiteSummary} : configured legacySite (front ++ back) =
    (configured legacySite front).or (configured legacySite back) := by
  rw [configured, List.find?_append]
  rfl

/-- The rows read so far, and those of the next page. -/
theorem take_page {rows : List SiteSummary} (h : rows <+: catalog.drop offset) :
    catalog.take (offset + rows.length) = catalog.take offset ++ rows := by
  rw [List.take_add, ← List.prefix_iff_eq_take.1 h]

theorem configured_of_page {rows : List SiteSummary} {site : SiteSummary} (hfront : configured legacySite (catalog.take offset) = none)
    (h : rows <+: catalog.drop offset) (hfound : configured legacySite rows = some site) :
    configured legacySite catalog = some site := by
  rw [← List.take_append_drop (offset + rows.length) catalog, take_page h, configured_append, configured_append,
    hfront, hfound]
  rfl

theorem resolved_of_found {site : SiteSummary} (h : configured legacySite catalog = some site) :
    resolved legacySite catalog = .ok site.id := by
  unfold resolved
  rw [h]

/-- What the last page leaves is what the catalog resolves to. -/
theorem resolved_of_last {page : Page SiteSummary} (hnone : configured legacySite catalog = none)
    (hcount : page.totalCount = catalog.length) (hpage : page.data <+: catalog.drop offset)
    (hempty : page.data = [] → catalog.length ≤ offset) (hoffset : offset = 0 ∨ offset < catalog.length) :
    (match soleSite offset page none with
      | some only => .ok only
      | none => .error notFoundError) = resolved legacySite catalog := by
  unfold resolved
  rw [hnone, soleSite, hcount]
  by_cases hsole : offset = 0 ∧ catalog.length = 1
  · obtain ⟨only, rfl⟩ := List.length_eq_one_iff.1 hsole.2
    obtain ⟨rfl, -⟩ := hsole
    rw [List.drop_zero] at hpage
    have hdata : page.data = [only] := by
      cases hrows : page.data with
      | nil => exact absurd (hempty hrows) (by simp)
      | cons row rows =>
        rw [hrows, List.cons_prefix_cons, List.prefix_nil] at hpage
        rw [hpage.1, hpage.2]
    simp [hdata]
  · rw [if_neg hsole]
    match catalog, hsole, hoffset with
    | [], _, _ => rfl
    | [only], hsole, hoffset =>
      rw [List.length_singleton] at hsole hoffset
      exact absurd ⟨by omega, rfl⟩ hsole
    | _ :: _ :: _, _, _ => rfl

theorem scanned_mono {first rest : Log} {r : Except McpError Text} (h : Scanned c legacySite catalog rest r) :
    Scanned c legacySite catalog (first ++ rest) r := by
  cases h with
  | refused error h =>
    refine .refused error ?_
    obtain h | ⟨request, answer, hsent, h⟩ := h
    · exact Or.inl h
    · exact Or.inr ⟨request, answer, List.mem_append_right _ hsent, h⟩
  | resolved => exact .resolved
  | ceiling hlong habsent => exact .ceiling hlong habsent

/-- The scan from an offset that the configured site is not before. -/
theorem scanned_from {r : Except McpError Text} (h : Runs (scanSites c legacySite offset none) log r)
    (hpaged : Paged c catalog log) (hfront : configured legacySite (catalog.take offset) = none)
    (hoffset : offset = 0 ∨ offset < catalog.length) : Scanned c legacySite catalog log r := by
  induction hleft : SITES_SCAN_CEILING - offset using Nat.strong_induction_on generalizing offset log with
  | h left ih =>
    rw [scanSites_eq] at h
    obtain ⟨first, rest, answer, rfl, hread, hrest⟩ := runs_bind_iff.1 h
    have hfirst : Paged c catalog first := fun o url answer page hurl hsent =>
      hpaged o url answer page hurl (List.mem_append_left _ hsent)
    cases answer with
    | error error =>
      obtain ⟨rfl, rfl⟩ := runs_done_iff.1 hrest
      rw [List.append_nil]
      exact .refused error (readRefused_of_runs hread)
    | ok page =>
      obtain ⟨hcount, hpage, hempty⟩ := page_of_runs hread hfirst
      simp only [turn] at hrest
      split at hrest
      · rename_i site hfound
        obtain ⟨rfl, rfl⟩ := runs_done_iff.1 hrest
        rw [← resolved_of_found (configured_of_page hfront hpage hfound)]
        exact .resolved
      · rename_i habsent
        have htaken : configured legacySite (catalog.take (offset + page.data.length)) = none := by
          rw [take_page hpage, configured_append, hfront, habsent]
          rfl
        split at hrest
        · rename_i hlast
          have hwhole : catalog.length ≤ offset + page.data.length := by
            obtain hnil | htotal := hlast
            · have := hempty hnil
              omega
            · omega
          rw [List.take_of_length_le hwhole] at htaken
          obtain ⟨rfl, rfl⟩ := runs_done_iff.1 hrest
          rw [resolved_of_last htaken hcount hpage hempty hoffset]
          exact .resolved
        · rename_i hlast
          have hrows : 0 < page.data.length := List.length_pos_iff.2 (not_or.1 hlast).1
          have hmore : offset + page.data.length < catalog.length := by
            have := (not_or.1 hlast).2
            omega
          split at hrest
          · rename_i hceiling
            obtain ⟨rfl, rfl⟩ := runs_done_iff.1 hrest
            refine .ceiling (by omega) ?_
            rw [← Nat.add_sub_cancel' hceiling, List.take_add, configured_append, Option.or_eq_none_iff] at htaken
            exact htaken.1
          · rw [soleSite_none hlast] at hrest
            exact scanned_mono (ih (SITES_SCAN_CEILING - (offset + page.data.length)) (by omega) hrest
              (fun o url answer page hurl hsent => hpaged o url answer page hurl (List.mem_append_right _ hsent))
              htaken (Or.inr hmore) rfl)

end

/-! ## The cell -/

/-- A site comes out of the cell, or out of a scan that then fills it. -/
theorem runs_siteId_ok_iff {site : Text} : Runs (siteId c legacySite) log (.ok site) ↔
    log = [⟨.enter, some site⟩] ∨ ∃ scan, log = ⟨.enter, none⟩ :: (scan ++ [⟨.fill site, ()⟩]) ∧
      Runs (scanSites c legacySite 0 none) scan (.ok site) := by
  rw [siteId, runs_bind_iff]
  constructor
  · rintro ⟨first, rest, kept, rfl, henter, hrest⟩
    obtain rfl := runs_put_iff.1 henter
    cases kept with
    | some kept =>
      obtain ⟨rfl, heq⟩ := runs_done_iff.1 hrest
      cases heq
      exact Or.inl rfl
    | none =>
      obtain ⟨scan, last, found, rfl, hscan, hlast⟩ := runs_bind_iff.1 hrest
      cases found with
      | ok found =>
        obtain ⟨fill, done, _, rfl, hfill, hdone⟩ := runs_bind_iff.1 hlast
        obtain rfl := runs_put_iff.1 hfill
        obtain ⟨rfl, heq⟩ := runs_done_iff.1 hdone
        cases heq
        exact Or.inr ⟨scan, rfl, hscan⟩
      | error error =>
        obtain ⟨leave, done, _, rfl, -, hdone⟩ := runs_bind_iff.1 hlast
        cases (runs_done_iff.1 hdone).2
  · rintro (rfl | ⟨scan, rfl, hscan⟩)
    · exact ⟨[⟨.enter, some site⟩], [], some site, rfl, runs_put_iff.2 rfl, .refl _⟩
    · refine ⟨[⟨.enter, none⟩], _, none, rfl, runs_put_iff.2 rfl, runs_bind_iff.2 ⟨scan, _, .ok site, rfl, hscan, ?_⟩⟩
      exact .step (.refl _)

/-! ## A console with two sites -/

section
open JsonReader

def textAt (record : Json) (name : Text) : Option Text := (record.get name).bind Json.asStr

/-- A text that may be absent. -/
def textIfAny (record : Json) (name : Text) : Option (Option Text) :=
  match record.get name with
  | none => some none
  | some .null => some none
  | some (.string value) => some (some value)
  | some _ => none

/-- `from_slice` of a type, by way of the value. -/
def plainRead {α : Type} (read : Json → Option α) (bytes : Bytes) : Except Text α :=
  match (fromSlice bytes).bind read with
  | some value => .ok value
  | none => .error "invalid JSON".toList

def plainSite (record : Json) : Option SiteSummary :=
  (textAt record "id".toList).bind fun id => (textIfAny record "internalReference".toList).map fun reference => ⟨id, reference⟩

def plainSites (bytes : Bytes) : Except Text (Page SiteSummary) :=
  (plainPage bytes).bind fun page => match page.data.mapM plainSite with
    | some rows => .ok ⟨page.offset, page.limit, page.count, page.totalCount, rows, page.totalCount_le⟩
    | none => .error "invalid page".toList

def plainVoucher (record : Json) : Option VoucherDetails :=
  match textAt record "id".toList, textAt record "code".toList, textAt record "name".toList, record.get "expired".toList,
      record.get "authorizedGuestCount".toList with
  | some id, some code, some name, some (.bool expired), some (.number count) =>
    (parseU64 count).map fun count => ⟨id, code, name, expired, count⟩
  | _, _, _, _, _ => none

/-- `VoucherCreateResponse`. -/
def plainCreated (record : Json) : Option (List Voucher) :=
  match record.get "vouchers".toList with
  | some (.array rows) => rows.mapM fun row =>
    (textIfAny row "id".toList).bind fun id => (textIfAny row "code".toList).map fun code => ⟨id, code⟩
  | _ => none

/-- A client whose readers read the bodies. -/
def consoleClient : Client where
  base := ⟨false, [], []⟩
  codecs := ⟨Base64.encode, fromSlice, urlPush⟩
  refusal := fun _ => "invalid JSON".toList
  readSites := plainSites
  readVoucher := plainRead plainVoucher
  readVouchers := plainPage
  readCreated := plainRead plainCreated

end

/-- An answer with a body, and one without. -/
def answered (body : Bytes) : Answer := .response ⟨200, none, none, [.ok body]⟩

def accepted : Answer := .response ⟨200, none, none, []⟩

/-- A request under the API root. -/
def underRoot (method : Method) (segments : List Text) (query : List (Text × Text)) (body : Option Json) : Request :=
  ⟨method, ⟨false, ["proxy", "network", "integration", "v1"].map String.toList ++ segments, query⟩, body⟩

def consoleRecords : List Json :=
  [.object [("id".toList, .string "away".toList), ("internalReference".toList, .string "branch".toList)],
    .object [("id".toList, .string "home".toList), ("internalReference".toList, .string "default".toList)]]

def consoleRows : List SiteSummary := [⟨"away".toList, some "branch".toList⟩, ⟨"home".toList, some "default".toList⟩]

/-- A page of the catalog: one row of it. -/
def sitesRequest (offset : Nat) : Request := underRoot .get ["sites".toList] (pageQuery ⟨offset, SITES_PAGE_LIMIT⟩) none

def sitesPage (offset : Nat) : Page SiteSummary := singleRow consoleRows (by decide) ⟨offset, SITES_PAGE_LIMIT⟩

def sitesAnswer (offset : Nat) : Answer := answered (rowBody consoleRecords "[]".toList ⟨offset, SITES_PAGE_LIMIT⟩)

/-- The scan finds the site on its second page. -/
def consoleScan : Log := [sent (sitesRequest 0) (sitesAnswer 0), sent (sitesRequest 1) (sitesAnswer 1)]

theorem sites_read {offset : Nat} (h : offset ≤ 1) :
    ((consoleClient.received (sitesAnswer offset)).bind (consoleClient.decoded consoleClient.readSites)).map Prod.fst =
      .ok (sitesPage offset) := by
  obtain rfl | rfl : offset = 0 ∨ offset = 1 := by omega
  · decide +kernel
  · decide +kernel

theorem runs_console_sites {offset : Nat} (h : offset ≤ 1) :
    Runs (consoleClient.sites ⟨offset, SITES_PAGE_LIMIT⟩) [sent (sitesRequest offset) (sitesAnswer offset)] (.ok (sitesPage offset)) := by
  rw [← sites_read h]
  exact .step (.refl _)

theorem console_scan : Runs (scanSites consoleClient "default".toList 0 none) consoleScan (.ok "home".toList) := by
  rw [scanSites_eq]
  refine runs_bind_iff.2 ⟨[_], [_], _, rfl, runs_console_sites (Nat.zero_le _), ?_⟩
  have habsent : configured "default".toList (sitesPage 0).data = none := by decide
  have hlast : ¬((sitesPage 0).data = [] ∨ (sitesPage 0).totalCount ≤ 0 + (sitesPage 0).data.length) := by decide
  have hceiling : ¬SITES_SCAN_CEILING ≤ 0 + (sitesPage 0).data.length := by decide
  simp only [turn]
  rw [habsent]
  dsimp only
  rw [if_neg hlast, if_neg hceiling, soleSite_none hlast, show 0 + (sitesPage 0).data.length = 1 from rfl, scanSites_eq]
  exact runs_bind_iff.2 ⟨[_], [], _, rfl, runs_console_sites (Nat.le_refl _), .refl _⟩

def consoleSite : Log := ⟨.enter, none⟩ :: (consoleScan ++ [⟨.fill "home".toList, ()⟩])

theorem console_site : Runs (siteId consoleClient "default".toList) consoleSite (.ok "home".toList) :=
  runs_siteId_ok_iff.2 (Or.inr ⟨consoleScan, rfl, console_scan⟩)

/-- The address of a page names its offset. -/
theorem sitesRequest_offset {offset shown : Nat}
    (h : consoleClient.endpoint ["sites".toList] (pageQuery ⟨offset, SITES_PAGE_LIMIT⟩) = .ok (sitesRequest shown).url) :
    offset = shown := by
  have hendpoint : consoleClient.endpoint ["sites".toList] (pageQuery ⟨offset, SITES_PAGE_LIMIT⟩) =
      .ok (sitesRequest offset).url := rfl
  rw [hendpoint] at h
  have hquery := congrArg Url.query (Except.ok.inj h)
  simp only [sitesRequest, underRoot, pageQuery, List.cons.injEq, Prod.mk.injEq, true_and, and_true] at hquery
  exact dec_inj hquery

theorem console_paged : Paged consoleClient consoleRows (consoleScan ++ [⟨.fill "home".toList, ()⟩]) := by
  intro offset url answer page hurl hsent hpage
  obtain ⟨shown, hshown, heq⟩ : ∃ shown ≤ 1, sent ⟨.get, url, none⟩ answer = sent (sitesRequest shown) (sitesAnswer shown) := by
    simp only [consoleScan, List.mem_append, List.mem_cons, List.not_mem_nil, or_false] at hsent
    rcases hsent with (heq | heq) | heq
    · exact ⟨0, Nat.zero_le _, heq⟩
    · exact ⟨1, Nat.le_refl _, heq⟩
    · cases heq
  cases heq
  obtain rfl := sitesRequest_offset hurl
  rw [sites_read hshown] at hpage
  cases hpage
  obtain rfl | rfl : offset = 0 ∨ offset = 1 := by omega
  · exact ⟨rfl, by decide, fun hnil => (by cases hnil)⟩
  · exact ⟨rfl, by decide, fun hnil => (by cases hnil)⟩

/-! ## The scan -/

/-- The exchange that closes a scan: only a success is kept. -/
def keptOf : Except McpError Text → Exchange Ask.Reply
  | .ok site => ⟨.fill site, ()⟩
  | .error _ => ⟨.leave, ()⟩

/-- **The scan behind the cell**: of a controller that pages one catalog, whatever its page sizes (a page is empty only
behind the catalog's end), it keeps the site the catalog resolves to, or refuses what is not among the first rows; it
never puts more than twice as many requests as the ceiling has rows. -/
theorem site_scan_resolves {catalog : List SiteSummary} {r : Except McpError Text}
    (h : Runs (siteId c legacySite) (⟨.enter, none⟩ :: log) r) (hpaged : Paged c catalog log) :
    ∃ scan, log = scan ++ [keptOf r] ∧ Scanned c legacySite catalog scan r ∧
      (scan.filter fun x => x.1.isSend).length ≤ 2 * SITES_SCAN_CEILING := by
  obtain ⟨first, rest, kept, hlog, henter, hrest⟩ := runs_bind_iff.1 h
  obtain rfl := runs_put_iff.1 henter
  obtain ⟨heq, rfl⟩ := List.cons.inj hlog
  cases heq
  obtain ⟨scan, last, found, rfl, hscan, hlast⟩ := runs_bind_iff.1 hrest
  have hbound : (scan.filter fun x => x.1.isSend).length ≤ 2 * SITES_SCAN_CEILING := by
    have hasked := (scanSites_atMost (by decide)).asked_le hscan
    rw [asked, pending, Option.toList_none, List.append_nil, List.filter_map, List.length_map] at hasked
    exact hasked
  have hscanned : Scanned c legacySite catalog scan found :=
    scanned_from hscan (fun o url answer page hurl hsent => hpaged o url answer page hurl (List.mem_append_left _ hsent))
      (by rw [List.take_zero]; rfl) (Or.inl rfl)
  have hkept : last = [keptOf found] ∧ r = found := by
    cases found with
    | ok site =>
      obtain ⟨fill, done, _, rfl, hfill, hdone⟩ := runs_bind_iff.1 hlast
      obtain rfl := runs_put_iff.1 hfill
      obtain ⟨rfl, rfl⟩ := runs_done_iff.1 hdone
      exact ⟨rfl, rfl⟩
    | error error =>
      obtain ⟨leave, done, _, rfl, hleave, hdone⟩ := runs_bind_iff.1 hlast
      obtain rfl := runs_put_iff.1 hleave
      obtain ⟨rfl, rfl⟩ := runs_done_iff.1 hdone
      exact ⟨rfl, rfl⟩
  obtain ⟨rfl, rfl⟩ := hkept
  exact ⟨scan, rfl, hscanned, hbound⟩

/-- A scan of two pages. -/
theorem site_scan_resolves_pages : ∃ scan,
    consoleScan ++ [⟨.fill "home".toList, ()⟩] = scan ++ [keptOf (.ok "home".toList)] ∧
    Scanned consoleClient "default".toList consoleRows scan (.ok "home".toList) ∧
    (scan.filter fun x => x.1.isSend).length ≤ 2 * SITES_SCAN_CEILING :=
  site_scan_resolves console_site console_paged

end

end UnifiMcp.Integration
