import UnifiMcp.Server.Delivery
/-! # Reading the sink (unifi-server/src/collector/sink.rs, docs/traffic-collection.md:195)

A reader takes the selector of an hour and joins the other measurements with it on time, collector and revision.
Writes are repeated, cut off and delayed; the join is the points of one publication, each once.

* `present_mem` — the points of a whole publication are in the sink.
* `acknowledged_present` — what was acknowledged stays in the sink.
* `retrieval_is_exact` — **the selector of an hour retrieves one stored snapshot.** -/
namespace UnifiMcp.Collector
open Text LineProtocol JsonReader

/-! ## The reader -/

/-- The selector of an hour. -/
def isSelector (identity : Identity) (start : Nat) (p : Point) : Bool :=
  p.measurement == "unifi_publication".toList && p.timestamp == dec start &&
    p.tags.contains ("collector".toList, identity.text)

/-- The revision that the selector of an hour names. -/
def selectedRevision (identity : Identity) (sink : List Point) (start : Nat) : Option Text :=
  (sink.find? (isSelector identity start)).bind fun p => dataField p.fields

/-- `join` with the selector on `_time`, `collector` and `revision`. -/
def joined (identity : Identity) (sink : List Point) (start : Nat) (revision : Text) : List Point :=
  sink.filter fun p => p.timestamp == dec start && p.tags.contains ("collector".toList, identity.text) &&
    p.tags.contains ("revision".toList, revision)

/-- The archive of an hour. -/
def readHour (identity : Identity) (sink : List Point) (start : Nat) : Option Bytes :=
  (selectedRevision identity sink start).bind fun revision => readArchive (joined identity sink start revision)

section
variable {x : Crates} {identity : Identity} {snapshot : TrafficSnapshot} {publication : Publication} {p q : Point}
  {start : Nat} {sink : List Point}

theorem isSelector_iff : isSelector identity start p = true ↔ p.measurement = "unifi_publication".toList ∧
    p.timestamp = dec start ∧ ("collector".toList, identity.text) ∈ p.tags := by
  unfold isSelector
  simp only [Bool.and_eq_true, beq_iff_eq, List.contains_iff_mem, and_assoc]

theorem isSelector_selectorOf (x : Crates) (identity : Identity) (snapshot : TrafficSnapshot) :
    isSelector identity snapshot.startMs (selectorOf x identity snapshot) = true :=
  isSelector_iff.2 ⟨rfl, rfl, List.mem_cons_self⟩

theorem isSelector_of_same (h : SamePoint p q) (hq : isSelector identity start q = true) : isSelector identity start p = true := by
  obtain ⟨hmeasurement, htimestamp, htag⟩ := isSelector_iff.1 hq
  exact isSelector_iff.2 ⟨h.1.trans hmeasurement, h.2.2.trans htimestamp, h.2.1.mem_iff.2 htag⟩

theorem mem_joined {revision : Text} : p ∈ joined identity sink start revision ↔ p ∈ sink ∧ p.timestamp = dec start ∧
    ("collector".toList, identity.text) ∈ p.tags ∧ ("revision".toList, revision) ∈ p.tags := by
  unfold joined
  rw [List.mem_filter]
  simp only [Bool.and_eq_true, beq_iff_eq, List.contains_iff_mem, and_assoc]

/-- The field of a selector is its revision. -/
theorem dataField_selectorOf (hx : x.Lawful) (identity : Identity) (snapshot : TrafficSnapshot) :
    dataField (selectorOf x identity snapshot).fields = some (revisionOf x snapshot) := by
  have hquote : '"' ∉ revisionOf x snapshot := fun h => by
    have hhex := hx.digest_chars _ _ h
    revert hhex
    decide
  have hfront : "revision=\"".toList = "revision=".toList ++ ['"'] := rfl
  have hcut : '"' ∉ "revision=".toList := by decide
  unfold selectorOf selectorPoint
  dsimp only
  rw [hfront, List.append_assoc, List.append_assoc, List.singleton_append, dataField, cut_append hcut]
  simp only [Option.bind_some]
  rw [cut_append hquote, Option.map_some]

theorem DataPoint.keys (h : DataPoint x identity snapshot p) : p.timestamp = dec snapshot.startMs ∧
    ("collector".toList, identity.text) ∈ p.tags ∧ ("revision".toList, revisionOf x snapshot) ∈ p.tags := by
  have hrevision := h.revision.2 rfl
  obtain ⟨activity, wan, -, -, hp⟩ := h
  refine ⟨(point_of_publication p hp).1, ?_, hrevision⟩
  have hbase : ("collector".toList, identity.text) ∈ baseTags identity (x.sha256Hex (toVec snapshot)) := List.mem_cons_self
  simp only [publicationPoints, archivePoints, List.mem_append, List.mem_map, List.mem_singleton] at hp
  rcases hp with (⟨_, -, rfl⟩ | ⟨_, -, rfl⟩) | rfl
  · exact List.mem_append_left _ hbase
  · exact List.mem_append_left _ hbase
  · exact hbase

/-- **The points of a whole publication are in the sink.** -/
theorem present_mem (hx : x.Lawful) (hbuild : build x identity snapshot = .ok publication) (hpresent : Present sink publication)
    (hp : DataPoint x identity snapshot p) : p ∈ sink := by
  obtain ⟨-, lines, hlines, -, -, rfl⟩ := build_eq_ok.1 hbuild
  obtain ⟨activity, wan, ha, hw, rfl⟩ := publicationLines_points hlines
  have hneat : ∀ point ∈ publicationPoints x identity snapshot activity wan, Neat point := neat_publicationPoints hx ha hw
  obtain ⟨activity', wan', ha', hw', hp⟩ := hp
  obtain rfl := Except.ok.inj (ha.symm.trans ha')
  obtain rfl := Except.ok.inj (hw.symm.trans hw')
  have hmem : write p ∈ (Packing.pack MAX_BATCH_BYTES endedLen []
      ((publicationPoints x identity snapshot activity wan).map write)).flatten := by
    rw [Packing.flatten_pack, List.nil_append]
    exact List.mem_map_of_mem hp
  obtain ⟨group, hgroup, hline⟩ := List.mem_flatten.1 hmem
  have hclean : ∀ line ∈ [group].flatten, '\n' ∉ line := by
    intro line hl
    have hflat := List.mem_flatten.2 ⟨group, hgroup, by simpa using hl⟩
    rw [Packing.flatten_pack, List.nil_append] at hflat
    obtain ⟨point, hpoint, rfl⟩ := List.mem_map.1 hflat
    exact (hneat point hpoint).newline
  have hread := readLines_join hclean
  rw [List.map_singleton, List.flatten_singleton, List.flatten_singleton] at hread
  obtain ⟨found, hfound, hsame⟩ := hpresent (join group) (List.mem_map_of_mem hgroup) (write p) (hread.symm ▸ hline)
  rw [read_write (hneat p hp).plain] at hsame
  cases hsame
  exact hfound

end

/-! ## What stays in the sink -/

section
variable {x : Crates} {settings : CollectionSettings} {w w' : World} {event : Event} {p q : Point}

/-- A step writes lines that were sent, or none. -/
theorem sink_of_move (h : Posting w w.phase) (hm : Move x settings w w') :
    ∃ lines, (∀ line ∈ lines, line ∈ w.lost) ∧ w'.sink = ingest w.sink lines := by
  cases hm with
  | restarts | turns | saves | posts | rejected | clears | schedules | selects | stores | reports =>
    exact ⟨[], fun _ h => (by cases h), rfl⟩
  | answered hphase | acknowledges hphase =>
    rw [hphase] at h
    exact ⟨_, h.1, rfl⟩
  | arrives hlost => exact ⟨_, fun line hline => List.mem_singleton.1 hline ▸ hlost, rfl⟩

/-- What an acknowledgement behind `older` leaves behind: the selector of its hour, and the publication of the snapshot
that was stored last. -/
structure Kept (x : Crates) (settings : CollectionSettings) (w : World) (start : Nat) (complete : Bool) (older : List Entry) :
    Prop where
  selector : ∃ p ∈ w.sink, isSelector settings.identity start p = true
  whole : ∃ original publication, lastStored older = some original ∧ .stored original ∈ w.log ∧ original.startMs = start ∧
    original.collected = complete ∧ Restores x settings.identity original publication ∧ Present w.sink publication

/-- Nothing that was sent replaces it. -/
theorem Kept.ingests (hx : x.Lawful) (hcollide : NoCollision x w.log) (h : Exposed x settings w) {start : Nat} {complete : Bool}
    {older : List Entry} (hkept : Kept x settings w start complete older) (hlog : ∀ entry ∈ w.log, entry ∈ w'.log)
    {lines : List Text} (hlines : ∀ line ∈ lines, line ∈ w.lost) (hsink : w'.sink = ingest w.sink lines) :
    Kept x settings w' start complete older := by
  obtain ⟨hselector, original, publication, hlast, hmem, hstart, hcomplete, hrestores, hpresent⟩ := hkept
  have hstored : Stored x settings w.log (reread original) := ⟨original, publication, hmem, rfl, hrestores⟩
  refine ⟨?_, original, publication, hlast, hlog _ hmem, hstart, hcomplete, hrestores, fun batch hbatch => ?_⟩
  · rw [hsink]
    exact exists_mem_ingest (fun _ _ => isSelector_of_same) hselector
  · rw [hsink]
    exact batchIn_keeps hcollide h hlines hx hstored hrestores.build hbatch (hpresent batch hbatch)

/-- The write that is acknowledged last is the marker. -/
theorem marker_of_marked {snapshot : TrafficSnapshot} {publication : Publication} {body : Text} {resume : Resume}
    (h : (Phase.awaiting snapshot publication body [] resume).Marked) : body = publication.marker := by
  obtain ⟨done, hdone⟩ := h
  exact (List.cons.inj (List.append_inj' hdone rfl).2).1.symm

/-- The acknowledgement of a marker. -/
theorem kept_acknowledges (hx : x.Lawful) (hd : Durable x settings w) (hdelivering : Delivering w) (hmarked : w.phase.Marked)
    (hcollide : NoCollision x w.log) (h : Exposed x settings w) {snapshot : TrafficSnapshot} {publication : Publication}
    {body : Text} {resume : Resume}
    (hphase : w.phase = .awaiting snapshot publication body [] resume) :
    Kept x settings { w with sink := ingest w.sink (readLines body) } snapshot.startMs snapshot.collected w.log := by
  obtain ⟨hstored, hbuild⟩ := @Durable.publishing _ _ _ hd snapshot publication (by rw [hphase]; rfl)
  -- what is sent is the pending snapshot, and that is the one stored last
  have hpending := hd.timely.orderly.pending
  rw [hphase] at hpending
  obtain ⟨original, hlast, rfl⟩ := hdelivering.pending snapshot hpending
  obtain ⟨between, older, hlog, -⟩ := exists_lastStored hlast
  have hmem : .stored original ∈ w.log := hlog ▸ List.mem_append_right _ List.mem_cons_self
  obtain ⟨restored, hrestores⟩ := hd.stored original hmem
  obtain rfl := Except.ok.inj (hrestores.build.symm.trans hbuild)
  have hposting := h.posting
  rw [hphase] at hposting hmarked
  obtain rfl := marker_of_marked hmarked
  obtain ⟨hlost, -⟩ := hposting
  have hlines := readLines_marker hx hbuild
  have hread := read_write (neat_selectorOf hx settings.identity (reread original)).plain
  have hline : write (selectorOf x settings.identity (reread original)) ∈ w.lost := hlost _ (by rw [hlines]; exact List.mem_cons_self)
  -- the marker was sent behind its lines
  obtain ⟨found, hfound, hdata | ⟨hselector, publication', hbuild', hpresent⟩⟩ := h.traced _ (Or.inr ⟨_, hline, hread⟩)
  · exact absurd rfl hdata.measurement_ne
  have hrevision : revisionOf x found = revisionOf x (reread original) := by
    have hfields : dataField (selectorOf x settings.identity (reread original)).fields =
        dataField (selectorOf x settings.identity found).fields := by rw [hselector]
    rw [dataField_selectorOf hx, dataField_selectorOf hx] at hfields
    exact (Option.some.inj hfields).symm
  obtain rfl := stored_eq hcollide hfound hstored hrevision
  obtain rfl := Except.ok.inj (hbuild'.symm.trans hbuild)
  refine ⟨⟨selectorOf x settings.identity (reread original), ?_, isSelector_selectorOf x settings.identity (reread original)⟩,
    original, publication', hlast, hmem, rfl, rfl, hrestores, fun batch hbatch => ?_⟩
  · show _ ∈ ingest w.sink (readLines publication'.marker)
    rw [hlines]
    unfold ingest
    rw [hread]
    exact mem_put.2 (Or.inl rfl)
  · exact batchIn_keeps hcollide h hlost hx hstored hbuild hbatch (hpresent batch hbatch)

/-- An entry in a longer log is the new one or stands where it stood. -/
theorem split_cons {entry added : Entry} {log newer older : List Entry} (h : added :: log = newer ++ entry :: older) :
    added = entry ∧ log = older ∨ ∃ newer, log = newer ++ entry :: older := by
  cases newer with
  | nil => exact Or.inl (List.cons.inj h)
  | cons first newer => exact Or.inr ⟨newer, (List.cons.inj h).2⟩

/-- An acknowledgement in the log is an old one or that of the marker just sent. -/
theorem acknowledged_of_move (hm : Move x settings w w') {start : Nat} {complete : Bool} {newer older : List Entry}
    (hlog : w'.log = newer ++ .acknowledged start complete :: older) : (∃ newer, w.log = newer ++ .acknowledged start complete :: older) ∨
      ∃ snapshot publication body resume, w.phase = .awaiting snapshot publication body [] resume ∧ w.log = older ∧
        start = snapshot.startMs ∧ complete = snapshot.collected ∧ w'.sink = ingest w.sink (readLines body) := by
  have hother {entry : Entry} (hentry : entry ≠ .acknowledged start complete)
      (h : entry :: w.log = newer ++ .acknowledged start complete :: older) :
      ∃ newer, w.log = newer ++ .acknowledged start complete :: older :=
    (split_cons h).resolve_left fun heq => hentry heq.1
  cases hm with
  | turns | posts | answered | rejected | arrives | clears => exact Or.inl ⟨newer, hlog⟩
  | restarts | saves | schedules | selects | stores => exact Or.inl (hother (fun h => (by cases h)) hlog)
  | acknowledges hphase =>
    rcases split_cons hlog with ⟨heq, hsame⟩ | hold
    · cases heq
      exact Or.inr ⟨_, _, _, _, hphase, hsame, rfl, rfl, rfl⟩
    · exact Or.inl hold
  | reports _ hsaved =>
    rcases hsaved with ⟨-, rfl⟩ | ⟨-, rfl⟩
    · exact Or.inl ⟨newer, hlog⟩
    · exact Or.inl (hother (fun h => (by cases h)) hlog)

/-- What a reader of the sink relies on. -/
structure Readable (x : Crates) (settings : CollectionSettings) (w : World) : Prop where
  durable : Durable x settings w
  delivering : Delivering w
  marked : w.phase.Marked
  distinct : Distinct w.sink
  exposed : Exposed x settings w
  kept : ∀ newer start complete older, w.log = newer ++ .acknowledged start complete :: older →
    Kept x settings w start complete older

theorem readable_empty (x : Crates) (settings : CollectionSettings) : Readable x settings (.empty settings) :=
  ⟨durable_empty x settings, delivering_empty settings, trivial, List.Pairwise.nil, exposed_empty x settings,
    fun newer _ _ _ h => (by cases newer <;> cases h)⟩

/-- **Every step leaves the sink readable.** -/
theorem readable_step (hx : x.Lawful) (hnull : RefuseNull x) (hcollide : NoCollision x w.log) (h : Readable x settings w)
    (hreads : ∀ reads, event = .collected reads → Received reads) (hstep : step x settings w event = some w') :
    Readable x settings w' := by
  have hmove := step_move hstep
  have hlog := log_grows hmove
  obtain ⟨lines, hlines, hsink⟩ := sink_of_move h.exposed.posting hmove
  refine ⟨durable_step hnull h.durable hreads hstep,
    delivering_move h.delivering h.durable.timely.orderly hmove (resting_published hstep), marked_move h.marked hmove,
    by rw [hsink]; exact h.distinct.ingest, exposed_step hx h.durable hcollide h.exposed hmove,
    fun newer start complete older hsplit => ?_⟩
  rcases acknowledged_of_move hmove hsplit with ⟨before, hbefore⟩ | ⟨snapshot, publication, body, resume, hphase, rfl, rfl, rfl, hsink⟩
  · exact (h.kept before start complete older hbefore).ingests hx hcollide h.exposed hlog hlines hsink
  · obtain ⟨hselector, original, publication, hlast, hmem, hstart, hcomplete, hrestores, hpresent⟩ :=
      kept_acknowledges hx h.durable h.delivering h.marked hcollide h.exposed hphase
    refine ⟨by rw [hsink]; exact hselector, original, publication, hlast, hlog _ hmem, hstart, hcomplete, hrestores, ?_⟩
    rw [hsink]
    exact hpresent

/-- What a run has kept, if no two of its snapshots share a revision. -/
theorem readable_run (hx : x.Lawful) (hnull : RefuseNull x) {events : List Event}
    (hreads : ∀ reads, .collected reads ∈ events → Received reads) (hrun : (worker x settings).Reaches events w)
    (hcollide : NoCollision x w.log) : Readable x settings w := by
  refine (worker x settings).run_invariant_along (C := fun _ e => ∀ reads, e = .collected reads → Received reads)
    (I := fun w => NoCollision x w.log → Readable x settings w) (fun _ => readable_empty x settings) ?_ ?_ hrun hcollide
  · intro s e t h hreads hstep hcollide
    have hbefore := hcollide.mono (log_grows (step_move hstep))
    exact readable_step hx hnull hbefore (h hbefore) hreads hstep
  · refine (worker x settings).along_of_forall ?_
    rintro _ hmem reads rfl
    exact hreads reads hmem

/-! ## What is retrieved -/

/-- The selector that a reader finds is that of a stored snapshot whose publication is whole. -/
theorem selected_stored (hx : x.Lawful) (h : Readable x settings w) {start : Nat} {revision : Text}
    (hselected : selectedRevision settings.identity w.sink start = some revision) :
    ∃ snapshot publication, Stored x settings w.log snapshot ∧ snapshot.startMs = start ∧ revision = revisionOf x snapshot ∧
      build x settings.identity snapshot = .ok publication ∧ Present w.sink publication := by
  obtain ⟨p, hfind, hfield⟩ := Option.bind_eq_some_iff.1 hselected
  obtain ⟨hmeasurement, htimestamp, -⟩ := isSelector_iff.1 (List.find?_some hfind)
  obtain ⟨snapshot, hstored, hdata | ⟨rfl, publication, hbuild, hpresent⟩⟩ :=
    h.exposed.traced p (Or.inl (List.mem_of_find?_eq_some hfind))
  · exact absurd hmeasurement hdata.measurement_ne
  · rw [dataField_selectorOf hx] at hfield
    cases hfield
    exact ⟨snapshot, publication, hstored, dec_inj htimestamp, rfl, hbuild, hpresent⟩

/-- **The join is one publication**, each point once. -/
theorem joined_publication (hx : x.Lawful) (hcollide : NoCollision x w.log) (h : Readable x settings w) {snapshot : TrafficSnapshot}
    {publication : Publication} (hstored : Stored x settings w.log snapshot)
    (hbuild : build x settings.identity snapshot = .ok publication) (hpresent : Present w.sink publication)
    {activity : ActivityPart} {wan : Text} (ha : activityPart x snapshot = .ok activity)
    (hw : wanPart x snapshot activity.total = .ok wan) :
    (joined settings.identity w.sink snapshot.startMs (revisionOf x snapshot)).Perm
      (publicationPoints x settings.identity snapshot activity wan) := by
  have hpoints : (publicationPoints x settings.identity snapshot activity wan).Pairwise fun p q => ¬SamePoint p q :=
    publicationPoints_pairwise wan ha
  have hnodup : (joined settings.identity w.sink snapshot.startMs (revisionOf x snapshot)).Nodup := h.distinct.nodup.filter _
  refine (List.perm_ext_iff_of_nodup hnodup (Distinct.nodup hpoints)).2 fun p => ?_
  rw [mem_joined]
  constructor
  · rintro ⟨hmem, -, -, hrevision⟩
    obtain ⟨found, hfound, hdata | ⟨rfl, -⟩⟩ := h.exposed.traced p (Or.inl hmem)
    · obtain rfl := stored_eq hcollide hfound hstored (hdata.revision.1 hrevision).symm
      obtain ⟨activity', wan', ha', hw', hp⟩ := hdata
      obtain rfl := Except.ok.inj (ha.symm.trans ha')
      obtain rfl := Except.ok.inj (hw.symm.trans hw')
      exact hp
    · -- a selector has no revision tag
      have hname : "revision".toList ≠ "collector".toList := by decide
      exact absurd (Prod.mk.inj (List.mem_singleton.1 hrevision)).1 hname
  · intro hp
    have hdata : DataPoint x settings.identity snapshot p := ⟨activity, wan, ha, hw, hp⟩
    exact ⟨present_mem hx hbuild hpresent hdata, hdata.keys⟩

/-- An acknowledged hour has a selector. -/
theorem selected_of_acknowledged (hx : x.Lawful) (h : Readable x settings w) {start : Nat} {complete : Bool}
    (hack : .acknowledged start complete ∈ w.log) : (selectedRevision settings.identity w.sink start).isSome := by
  obtain ⟨newer, older, hlog⟩ := List.append_of_mem hack
  obtain ⟨p, hmem, hselector⟩ := (h.kept newer start complete older hlog).selector
  cases hfind : w.sink.find? (isSelector settings.identity start) with
  | none => exact absurd hselector (List.find?_eq_none.1 hfind p hmem)
  | some found =>
    obtain ⟨hmeasurement, -, -⟩ := isSelector_iff.1 (List.find?_some hfind)
    obtain ⟨source, -, hdata | ⟨rfl, -⟩⟩ := h.exposed.traced found (Or.inl (List.mem_of_find?_eq_some hfind))
    · exact absurd hmeasurement hdata.measurement_ne
    · rw [selectedRevision, hfind, Option.bind_some, dataField_selectorOf hx]
      rfl

/-- **What was acknowledged stays in the sink.** However often its writes are repeated, and whatever is sent before,
between and after them: behind every acknowledgement, the publication of the snapshot that was stored last before it is
whole in every later state, and its hour has a selector. -/
theorem acknowledged_present (hx : x.Lawful) (hnull : RefuseNull x) {events : List Event}
    (hreads : ∀ reads, .collected reads ∈ events → Received reads) (hrun : (worker x settings).Reaches events w)
    (hcollide : NoCollision x w.log) {start : Nat} {complete : Bool} {newer older : List Entry}
    (hlog : w.log = newer ++ .acknowledged start complete :: older) :
    (selectedRevision settings.identity w.sink start).isSome ∧
      ∃ original publication, lastStored older = some original ∧ original.startMs = start ∧ original.collected = complete ∧
        build x settings.identity original = .ok publication ∧ Present w.sink publication := by
  have h := readable_run hx hnull hreads hrun hcollide
  have hack : .acknowledged start complete ∈ w.log := hlog ▸ List.mem_append_right _ List.mem_cons_self
  refine ⟨selected_of_acknowledged hx h hack, ?_⟩
  obtain ⟨-, original, publication, hlast, -, hstart, hcomplete, hrestores, hpresent⟩ := h.kept newer start complete older hlog
  exact ⟨original, publication, hlast, hstart, hcomplete, hrestores.collected, hpresent⟩

/-- The first of two acknowledgements of an hour, behind the crash, the second one and another hour. -/
theorem acknowledged_present_again : ∃ w publication, (worker blankCrates sampleSettings).Reaches restartedRun w ∧
    (selectedRevision sampleIdentity w.sink 0).isSome ∧
    build blankCrates sampleIdentity (blankSnapshot 0) = .ok publication ∧ Present w.sink publication := by
  obtain ⟨w, hrun, hreads, hcollide, -, hlog⟩ := restartedRun_world
  obtain ⟨hselected, original, publication, hlast, -, -, hbuild, hpresent⟩ :=
    @acknowledged_present _ _ _ blankCrates_lawful blankCrates_refuseNull _ hreads hrun hcollide 0 false
      (restartedNewer ++ [.saved, .acknowledged 0 false, .saved, .restarted]) _ (hlog.trans rfl)
  cases hlast
  exact ⟨w, publication, hrun, hselected, hbuild, hpresent⟩

/-- **The selector of an hour retrieves one stored snapshot.** In every state of a run, what a reader joins with the
selector of an hour is exactly the publication of a snapshot that was stored for that hour, each of its points once;
its archive decodes to the bytes of `pending.json`, which parse to that snapshot. -/
theorem retrieval_is_exact (hx : x.Lawful) (hnull : RefuseNull x) {events : List Event}
    (hreads : ∀ reads, .collected reads ∈ events → Received reads) (hrun : (worker x settings).Reaches events w)
    (hcollide : NoCollision x w.log) {start : Nat} {revision : Text}
    (hselected : selectedRevision settings.identity w.sink start = some revision) :
    ∃ original publication activity wan, .stored original ∈ w.log ∧ original.startMs = start ∧
      revision = x.sha256Hex (toVec original) ∧ build x settings.identity original = .ok publication ∧
      activityPart x (reread original) = .ok activity ∧ wanPart x (reread original) activity.total = .ok wan ∧
      (joined settings.identity w.sink start revision).Perm
        (publicationPoints x settings.identity (reread original) activity wan) ∧
      (joined settings.identity w.sink start revision).length = publication.records ∧
      readHour settings.identity w.sink start = some (toVec original) ∧
      readSnapshot (toVec original) = some (reread original) := by
  have h := readable_run hx hnull hreads hrun hcollide
  obtain ⟨snapshot, publication, hstored, rfl, rfl, hbuild, hpresent⟩ := selected_stored hx h hselected
  obtain ⟨-, lines, hlines, -, -, hpublication⟩ := build_eq_ok.1 hbuild
  obtain ⟨activity, wan, ha, hw, hwritten⟩ := publicationLines_points hlines
  have hperm := joined_publication hx hcollide h hstored hbuild hpresent ha hw
  have hread := readArchive_publicationPoints hperm
  have hlength := hperm.length_eq
  obtain ⟨original, other, hlog, rfl, hrestores⟩ := id hstored
  obtain rfl := Except.ok.inj (hbuild.symm.trans hrestores.build)
  refine ⟨original, publication, activity, wan, hlog, rfl, ?_, hrestores.collected, ha, hw, hperm, ?_, ?_, hrestores.read⟩
  · exact congrArg x.sha256Hex (toVec_reread original)
  · rw [hlength, hpublication, hwritten, List.length_map]
  · rw [readHour, hselected, Option.bind_some, hread, toVec_reread]

end

/-- The hour is there, and it is the snapshot that was stored. -/
theorem retrieval_is_exact_blank : ∃ w, (worker sampleCrates sampleSettings).Reaches (firstSelection ++ blankPublication) w ∧
    readHour sampleIdentity w.sink 0 = some (toVec (blankSnapshot 0)) := by
  obtain ⟨w, hrun, hreads, hcollide, -, hlog⟩ := publishedHour
  have hack : .acknowledged 0 false ∈ w.log := by
    rw [hlog]
    decide
  have hselected : (selectedRevision sampleIdentity w.sink 0).isSome :=
    selected_of_acknowledged sampleCrates_lawful
      (readable_run sampleCrates_lawful sampleCrates_refuseNull hreads hrun hcollide) hack
  obtain ⟨revision, hselected⟩ := Option.isSome_iff_exists.1 hselected
  obtain ⟨original, -, -, -, hstored, -, -, -, -, -, -, -, hread, -⟩ :=
    retrieval_is_exact sampleCrates_lawful sampleCrates_refuseNull hreads hrun hcollide hselected
  rw [hlog] at hstored
  have hone : original = blankSnapshot 0 := by simpa using hstored
  rw [hone] at hread
  exact ⟨w, hrun, hread⟩

end UnifiMcp.Collector
