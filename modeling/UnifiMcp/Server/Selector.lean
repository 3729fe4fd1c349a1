import UnifiMcp.Server.DurableState
/-! # The selector of a revision (unifi-server/src/collector.rs, collector/sink.rs)

The marker is posted behind the last acknowledged batch, and what the sink holds of a publication is only
replaced by itself: its points carry the revision, and the marker is none of them.

* `same_point_eq` — what replaces a point of a stored publication is that point.
* `exposed_step` — every step keeps a marker behind its lines.
* `selector_exposes_whole` — **a selector never exposes a part of its revision.** -/
namespace UnifiMcp.Collector
open Text LineProtocol

/-! ## The points of a snapshot -/

def selectorPoint (identity : Identity) (revision timestamp : Text) : Point :=
  ⟨"unifi_publication".toList, [("collector".toList, identity.text)], "revision=\"".toList ++ revision ++ ['"'], timestamp⟩

theorem markerLine_point (identity : Identity) (revision timestamp : Text) :
    markerLine identity revision timestamp = ended (write (selectorPoint identity revision timestamp)) := by
  have h1 : "unifi_publication,collector=".toList = "unifi_publication".toList ++ ',' :: ("collector".toList ++ ['=']) := rfl
  have h2 : " revision=\"".toList = ' ' :: "revision=\"".toList := rfl
  have h3 : "\" ".toList = ['"', ' '] := rfl
  unfold markerLine selectorPoint write writeKey
  rw [h1, h2, h3]
  generalize "unifi_publication".toList = measurement
  generalize "collector".toList = name
  generalize "revision=\"".toList = front
  simp

/-- The revision of a snapshot. -/
def revisionOf (x : Crates) (snapshot : TrafficSnapshot) : Text := x.sha256Hex (toVec snapshot)

/-- The selector of a snapshot. -/
def selectorOf (x : Crates) (identity : Identity) (snapshot : TrafficSnapshot) : Point :=
  selectorPoint identity (revisionOf x snapshot) (dec snapshot.startMs)

/-- A point of the batches of a snapshot. -/
def DataPoint (x : Crates) (identity : Identity) (snapshot : TrafficSnapshot) (p : Point) : Prop :=
  ∃ activity wan, activityPart x snapshot = .ok activity ∧ wanPart x snapshot activity.total = .ok wan ∧
    p ∈ publicationPoints x identity snapshot activity wan

section
variable {x : Crates} {identity : Identity} {snapshot : TrafficSnapshot} {publication : Publication} {p q : Point}

theorem neat_selectorOf (hx : x.Lawful) (identity : Identity) (snapshot : TrafficSnapshot) : Neat (selectorOf x identity snapshot) where
  measurement := clean_word rfl
  tags := by
    intro tag htag
    obtain rfl := List.mem_singleton.1 htag
    exact ⟨clean_word rfl, identity.clean⟩
  timestamp := clean_dec _
  fields := by
    have hrevision : '\n' ∉ revisionOf x snapshot := (clean_hex (hx.digest_chars _)).newline
    unfold selectorOf selectorPoint
    simp only [List.mem_append, not_or, and_assoc]
    exact ⟨by decide, hrevision, by decide⟩

/-- The marker is the line of the selector. -/
theorem readLines_marker (hx : x.Lawful) (hbuild : build x identity snapshot = .ok publication) :
    readLines publication.marker = [write (selectorOf x identity snapshot)] := by
  obtain ⟨-, lines, -, -, -, rfl⟩ := build_eq_ok.1 hbuild
  have hline : ∀ line ∈ [write (selectorOf x identity snapshot)], '\n' ∉ line := by
    intro line hl
    obtain rfl := List.mem_singleton.1 hl
    exact (neat_selectorOf hx identity snapshot).newline
  have hread := readLines_flatten hline
  rw [List.map_singleton, List.flatten_singleton] at hread
  show readLines (markerLine identity (revisionOf x snapshot) (dec snapshot.startMs)) = _
  rw [markerLine_point]
  exact hread

/-- A line of a batch is that of a point. -/
theorem dataPoint_of_batch (hx : x.Lawful) (hbuild : build x identity snapshot = .ok publication) {batch line : Text}
    (hbatch : batch ∈ publication.batches) (hline : line ∈ readLines batch) :
    ∃ p, DataPoint x identity snapshot p ∧ read line = some p := by
  obtain ⟨-, lines, hlines, -, -, rfl⟩ := build_eq_ok.1 hbuild
  obtain ⟨activity, wan, ha, hw, rfl⟩ := publicationLines_points hlines
  have hneat : ∀ point ∈ publicationPoints x identity snapshot activity wan, Neat point := neat_publicationPoints hx ha hw
  obtain ⟨group, hgroup, rfl⟩ := List.mem_map.1 hbatch
  have hmem : ∀ l ∈ group, ∃ p ∈ publicationPoints x identity snapshot activity wan, write p = l := by
    intro l hl
    have hflat := List.mem_flatten.2 ⟨group, hgroup, hl⟩
    rw [Packing.flatten_pack, List.nil_append] at hflat
    exact List.mem_map.1 hflat
  have hgroups : readLines ([group].map join).flatten = [group].flatten := by
    refine readLines_join fun l hl => ?_
    obtain ⟨point, hp, rfl⟩ := hmem l (by simpa using hl)
    exact (hneat point hp).newline
  rw [List.map_singleton, List.flatten_singleton, List.flatten_singleton] at hgroups
  obtain ⟨point, hp, rfl⟩ := hmem line (hgroups ▸ hline)
  exact ⟨point, ⟨activity, wan, ha, hw, hp⟩, read_write (hneat point hp).plain⟩

/-! ## The same point -/

theorem DataPoint.measurement_ne (h : DataPoint x identity snapshot p) : p.measurement ≠ "unifi_publication".toList := by
  obtain ⟨activity, wan, -, -, hp⟩ := h
  simp only [publicationPoints, archivePoints, List.mem_append, List.mem_map, List.mem_singleton] at hp
  rcases hp with (⟨_, -, rfl⟩ | ⟨_, -, rfl⟩) | rfl
  · exact fun h => absurd h (by decide : "unifi_archive".toList ≠ "unifi_publication".toList)
  · exact fun h => absurd h (by decide : "unifi_client".toList ≠ "unifi_publication".toList)
  · exact fun h => absurd h (by decide : "unifi_interval".toList ≠ "unifi_publication".toList)

/-- A point names one revision. -/
theorem DataPoint.revision (h : DataPoint x identity snapshot p) {revision : Text} :
    ("revision".toList, revision) ∈ p.tags ↔ revision = revisionOf x snapshot := by
  obtain ⟨activity, wan, -, -, hp⟩ := h
  have hcollector : "revision".toList ≠ "collector".toList := by decide
  have hpart : "revision".toList ≠ "part".toList := by decide
  have hclient : "revision".toList ≠ "client".toList := by decide
  have hbase : ("revision".toList, revision) ∈ baseTags identity (x.sha256Hex (toVec snapshot)) ↔
      revision = revisionOf x snapshot := by
    rw [baseTags, List.mem_cons, List.mem_singleton, Prod.mk.injEq, Prod.mk.injEq]
    exact ⟨fun h => h.elim (fun h => absurd h.1 hcollector) And.right, fun h => Or.inr ⟨rfl, h⟩⟩
  have hother {name value : Text} (hname : "revision".toList ≠ name) :
      ("revision".toList, revision) ∈ baseTags identity (x.sha256Hex (toVec snapshot)) ++ [(name, value)] ↔
        revision = revisionOf x snapshot := by
    rw [List.mem_append, hbase, List.mem_singleton, Prod.mk.injEq]
    exact ⟨fun h => h.elim id fun h => absurd h.1 hname, Or.inl⟩
  rw [publicationPoints, List.mem_append, List.mem_append, List.mem_singleton] at hp
  rcases hp with (hp | hp) | rfl
  · obtain ⟨_, -, rfl⟩ := List.mem_map.1 hp
    exact hother hpart
  · obtain ⟨_, -, rfl⟩ := List.mem_map.1 hp
    exact hother hclient
  · exact hbase

theorem DataPoint.eq_of_same (hp : DataPoint x identity snapshot p) (hq : DataPoint x identity snapshot q) (h : SamePoint q p) :
    q = p := by
  obtain ⟨activity, wan, ha, hw, hp⟩ := hp
  obtain ⟨activity', wan', ha', hw', hq⟩ := hq
  obtain rfl := Except.ok.inj (ha.symm.trans ha')
  obtain rfl := Except.ok.inj (hw.symm.trans hw')
  exact LineProtocol.eq_of_same (publicationPoints_pairwise wan ha) hq hp h

end


/-! ## What a run stores -/

/-- The snapshot was read back from a pending file of the run. -/
def Stored (x : Crates) (settings : CollectionSettings) (log : List Entry) (snapshot : TrafficSnapshot) : Prop :=
  ∃ original publication, .stored original ∈ log ∧ snapshot = reread original ∧ Restores x settings.identity original publication

/-- No two stored snapshots have one revision. -/
def NoCollision (x : Crates) (log : List Entry) : Prop :=
  ∀ s t, .stored s ∈ log → .stored t ∈ log → revisionOf x s = revisionOf x t → toVec s = toVec t

section
variable {x : Crates} {settings : CollectionSettings} {log log' : List Entry} {s t : TrafficSnapshot} {p q : Point}

theorem Stored.mono (h : Stored x settings log s) (hlog : ∀ entry ∈ log, entry ∈ log') : Stored x settings log' s := by
  obtain ⟨original, publication, hstored, hrest⟩ := h
  exact ⟨original, publication, hlog _ hstored, hrest⟩

theorem NoCollision.mono (h : NoCollision x log') (hlog : ∀ entry ∈ log, entry ∈ log') : NoCollision x log :=
  fun s t hs ht => h s t (hlog _ hs) (hlog _ ht)

/-- One revision, one snapshot: the bytes are read back. -/
theorem stored_eq (hcollide : NoCollision x log) (hs : Stored x settings log s) (ht : Stored x settings log t)
    (h : revisionOf x s = revisionOf x t) : s = t := by
  obtain ⟨original, _, hstored, rfl, hrestores⟩ := hs
  obtain ⟨original', _, hstored', rfl, hrestores'⟩ := ht
  unfold revisionOf at h
  rw [hrestores.again.1, hrestores'.again.1] at h
  have hbytes := hcollide original original' hstored hstored' h
  have hread := hrestores.read
  rw [hbytes, hrestores'.read] at hread
  exact (Option.some.inj hread).symm

/-! ## What the sink holds -/

/-- Every line of a batch is in the sink. -/
def BatchIn (sink : List Point) (batch : Text) : Prop := ∀ line ∈ readLines batch, ∃ p ∈ sink, read line = some p

/-- **The publication is whole.** -/
def Present (sink : List Point) (publication : Publication) : Prop := ∀ batch ∈ publication.batches, BatchIn sink batch

/-- The point is in the sink or may still get there. -/
def Written (w : World) (p : Point) : Prop := p ∈ w.sink ∨ ∃ line ∈ w.lost, read line = some p

/-- A point of a stored snapshot, or its selector behind the whole publication. -/
def Traced (x : Crates) (settings : CollectionSettings) (w : World) (p : Point) : Prop :=
  ∃ snapshot, Stored x settings w.log snapshot ∧ (DataPoint x settings.identity snapshot p ∨
    p = selectorOf x settings.identity snapshot ∧
      ∃ publication, build x settings.identity snapshot = .ok publication ∧ Present w.sink publication)

/-- The batches before the next write are in the sink. -/
def Posting (w : World) : Phase → Prop
  | .sending _ publication todo _ => ∃ done rest, publication.batches = done ++ rest ∧
      todo = rest ++ [publication.marker] ∧ ∀ batch ∈ done, BatchIn w.sink batch
  | .awaiting _ publication body todo _ => (∀ line ∈ readLines body, line ∈ w.lost) ∧
      (todo ≠ [] → ∃ done rest, publication.batches = done ++ body :: rest ∧
        todo = rest ++ [publication.marker] ∧ ∀ batch ∈ done, BatchIn w.sink batch)
  | _ => True

structure Exposed (x : Crates) (settings : CollectionSettings) (w : World) : Prop where
  traced : ∀ p, Written w p → Traced x settings w p
  posting : Posting w w.phase

variable {w w' : World}

/-- **What replaces a point of a stored publication is that point.** -/
theorem same_point_eq (hcollide : NoCollision x w.log) (hq : Traced x settings w q) (hs : Stored x settings w.log s)
    (hp : DataPoint x settings.identity s p) (hsame : SamePoint q p) : q = p := by
  obtain ⟨snapshot, hsnapshot, hdata | ⟨rfl, -⟩⟩ := hq
  · have hrevision : revisionOf x snapshot = revisionOf x s :=
      hp.revision.1 ((hsame.2.1.mem_iff).1 (hdata.revision.2 rfl))
    obtain rfl := stored_eq hcollide hsnapshot hs hrevision
    exact hp.eq_of_same hdata hsame
  · exact absurd hsame.1.symm hp.measurement_ne

/-- The sink and what may get there stay. -/
theorem Exposed.carry (h : Exposed x settings w) (hsink : w'.sink = w.sink) (hlost : w'.lost = w.lost)
    (hlog : ∀ entry ∈ w.log, entry ∈ w'.log) (hposting : Posting w' w'.phase) : Exposed x settings w' := by
  refine ⟨fun p hp => ?_, hposting⟩
  unfold Written at hp
  rw [hsink, hlost] at hp
  obtain ⟨snapshot, hstored, hpoint⟩ := h.traced p hp
  refine ⟨snapshot, hstored.mono hlog, ?_⟩
  rwa [hsink]

/-! ## Writes -/

section
variable (hcollide : NoCollision x w.log) (h : Exposed x settings w) {lines : List Text} (hlines : ∀ line ∈ lines, line ∈ w.lost)
include hcollide h hlines

/-- A point of a stored snapshot stays in the sink. -/
theorem ingest_keeps (hs : Stored x settings w.log s) (hp : DataPoint x settings.identity s p) (hmem : p ∈ w.sink) :
    p ∈ ingest w.sink lines :=
  mem_ingest_of_mem hmem fun line hl _ hq hsame =>
    same_point_eq hcollide (h.traced _ (Or.inr ⟨line, hlines line hl, hq⟩)) hs hp hsame

theorem ingest_adds (hs : Stored x settings w.log s) (hp : DataPoint x settings.identity s p) {line : Text} (hl : line ∈ lines)
    (hread : read line = some p) : p ∈ ingest w.sink lines :=
  mem_ingest hl hread fun l hl _ hq hsame => same_point_eq hcollide (h.traced _ (Or.inr ⟨l, hlines l hl, hq⟩)) hs hp hsame

theorem batchIn_keeps (hx : x.Lawful) (hs : Stored x settings w.log s) {publication : Publication}
    (hbuild : build x settings.identity s = .ok publication) {batch : Text} (hbatch : batch ∈ publication.batches)
    (hin : BatchIn w.sink batch) : BatchIn (ingest w.sink lines) batch := by
  intro line hline
  obtain ⟨point, hpoint, hread⟩ := dataPoint_of_batch hx hbuild hbatch hline
  obtain ⟨found, hfound, hsame⟩ := hin line hline
  obtain rfl := Option.some.inj (hread.symm.trans hsame)
  exact ⟨point, ingest_keeps hcollide h hlines hs hpoint hfound, hread⟩

theorem batchIn_adds (hx : x.Lawful) (hs : Stored x settings w.log s) {publication : Publication}
    (hbuild : build x settings.identity s = .ok publication) {batch : Text} (hbatch : batch ∈ publication.batches)
    (hbody : lines = readLines batch) : BatchIn (ingest w.sink lines) batch := by
  intro line hline
  obtain ⟨point, hpoint, hread⟩ := dataPoint_of_batch hx hbuild hbatch hline
  exact ⟨point, ingest_adds hcollide h hlines hs hpoint (hbody ▸ hline) hread, hread⟩

theorem traced_ingest (hx : x.Lawful) : ∀ p, Written { w with sink := ingest w.sink lines } p →
    Traced x settings { w with sink := ingest w.sink lines } p := by
  intro p hp
  have hbefore : Written w p := by
    rcases hp with hp | hp
    · rcases of_mem_ingest hp with hp | ⟨line, hl, hread⟩
      · exact Or.inl hp
      · exact Or.inr ⟨line, hlines line hl, hread⟩
    · exact Or.inr hp
  obtain ⟨snapshot, hstored, hdata | ⟨hselector, publication, hbuild, hpresent⟩⟩ := h.traced p hbefore
  · exact ⟨snapshot, hstored, Or.inl hdata⟩
  · exact ⟨snapshot, hstored, Or.inr ⟨hselector, publication, hbuild, fun batch hbatch =>
      batchIn_keeps hcollide h hlines hx hstored hbuild hbatch (hpresent batch hbatch)⟩⟩

end

end

/-! ## Every step -/

section
variable {x : Crates} {settings : CollectionSettings} {w w' : World} {event : Event}

theorem Turn.posting {before next : Phase} (h : Turn x settings w before next) : Posting w next := by
  cases h with
  | crashed | ended | collected | woken | begun => trivial
  | @nothing resume => cases resume <;> trivial
  | @sends _ publication => exact ⟨[], publication.batches, rfl, rfl, fun _ hb => by cases hb⟩

theorem Saves.posting {before next : Phase} (h : Saves before next) : Posting w next := by
  cases h <;> trivial

/-- What is being published is stored. -/
theorem Durable.publishing (h : Durable x settings w) {snapshot : TrafficSnapshot} {publication : Publication}
    (hphase : w.phase.publication = some (snapshot, publication)) :
    Stored x settings w.log snapshot ∧ build x settings.identity snapshot = .ok publication := by
  refine ⟨?_, h.publication _ _ hphase⟩
  have hpending : w.pending = some snapshot := by
    have hat := h.timely.orderly.pending
    generalize w.phase = phase at hphase hat
    cases phase <;> cases hphase <;> exact hat
  obtain ⟨original, hstored, rfl⟩ := h.pending snapshot hpending
  obtain ⟨publication, hrestores⟩ := h.stored original hstored
  exact ⟨original, publication, hstored, rfl, hrestores⟩

/-- The sink takes lines it was sent. -/
theorem Exposed.ingests (hx : x.Lawful) (hd : Durable x settings w) (hcollide : NoCollision x w.log) (h : Exposed x settings w)
    {lines : List Text} (hlines : ∀ line ∈ lines, line ∈ w.lost) : Exposed x settings { w with sink := ingest w.sink lines } := by
  refine ⟨traced_ingest hcollide h hlines hx, ?_⟩
  have hposting := h.posting
  have hkeeps {snapshot : TrafficSnapshot} {publication : Publication} {done rest : List Text}
      (hphase : w.phase.publication = some (snapshot, publication)) (hbatches : publication.batches = done ++ rest)
      (hdone : ∀ batch ∈ done, BatchIn w.sink batch) : ∀ batch ∈ done, BatchIn (ingest w.sink lines) batch := by
    obtain ⟨hstored, hbuild⟩ := hd.publishing hphase
    intro batch hbatch
    have hmem : batch ∈ publication.batches := hbatches ▸ List.mem_append_left _ hbatch
    exact batchIn_keeps hcollide h hlines hx hstored hbuild hmem (hdone batch hbatch)
  show Posting _ w.phase
  generalize w.phase = phase at hposting hkeeps
  cases phase with
  | sending snapshot publication todo resume =>
    obtain ⟨done, rest, hbatches, htodo, hdone⟩ := hposting
    exact ⟨done, rest, hbatches, htodo, hkeeps rfl hbatches hdone⟩
  | awaiting snapshot publication body todo resume =>
    obtain ⟨hlost, hrest⟩ := hposting
    refine ⟨hlost, fun htodo => ?_⟩
    obtain ⟨done, rest, hbatches, hsplit, hdone⟩ := hrest htodo
    exact ⟨done, rest, hbatches, hsplit, hkeeps rfl hbatches hdone⟩
  | _ => trivial

/-- A write is sent: a batch, or the marker behind the last batch. -/
theorem exposed_posts (hx : x.Lawful) (hd : Durable x settings w) (h : Exposed x settings w) {snapshot : TrafficSnapshot}
    {publication : Publication} {body : Text} {todo : List Text} {resume : Resume}
    (hphase : w.phase = .sending snapshot publication (body :: todo) resume) :
    Exposed x settings { w with phase := .awaiting snapshot publication body todo resume, lost := readLines body ++ w.lost } := by
  obtain ⟨hstored, hbuild⟩ := @Durable.publishing _ _ _ hd snapshot publication (by rw [hphase]; rfl)
  have hposting := h.posting
  rw [hphase] at hposting
  obtain ⟨done, rest, hbatches, htodo, hdone⟩ := hposting
  have hbody : ∀ line ∈ readLines body, ∀ p, read line = some p → Traced x settings w p := by
    intro line hline p hread
    refine ⟨snapshot, hstored, ?_⟩
    cases rest with
    | nil =>
      -- the marker: all batches are done
      obtain ⟨rfl, rfl⟩ := List.cons.inj htodo
      rw [readLines_marker hx hbuild, List.mem_singleton] at hline
      rw [hline, read_write (neat_selectorOf hx _ _).plain] at hread
      exact Or.inr ⟨(Option.some.inj hread).symm, publication, hbuild, fun batch hbatch =>
        hdone batch (by rwa [hbatches, List.append_nil] at hbatch)⟩
    | cons batch rest =>
      obtain ⟨rfl, rfl⟩ := List.cons.inj htodo
      have hmem : body ∈ publication.batches := hbatches ▸ List.mem_append_right _ List.mem_cons_self
      obtain ⟨point, hpoint, hpread⟩ := dataPoint_of_batch hx hbuild hmem hline
      obtain rfl := Option.some.inj (hpread.symm.trans hread)
      exact Or.inl hpoint
  refine ⟨fun p hp => ?_, fun line hline => List.mem_append_left _ hline, fun hne => ?_⟩
  · rcases hp with hp | ⟨line, hline, hread⟩
    · exact h.traced p (Or.inl hp)
    · rcases List.mem_append.1 hline with hline | hline
      · exact hbody line hline p hread
      · exact h.traced p (Or.inr ⟨line, hline, hread⟩)
  · cases rest with
    | nil =>
      obtain ⟨-, rfl⟩ := List.cons.inj htodo
      exact absurd rfl hne
    | cons batch rest =>
      obtain ⟨rfl, rfl⟩ := List.cons.inj htodo
      exact ⟨done, rest, hbatches, rfl, hdone⟩

/-- A batch is acknowledged. -/
theorem exposed_answered (hx : x.Lawful) (hd : Durable x settings w) (hcollide : NoCollision x w.log) (h : Exposed x settings w)
    {snapshot : TrafficSnapshot} {publication : Publication} {body next : Text} {todo : List Text} {resume : Resume}
    (hphase : w.phase = .awaiting snapshot publication body (next :: todo) resume) :
    Exposed x settings { w with
      phase := .sending snapshot publication (next :: todo) resume, sink := ingest w.sink (readLines body) } := by
  obtain ⟨hstored, hbuild⟩ := @Durable.publishing _ _ _ hd snapshot publication (by rw [hphase]; rfl)
  have hposting := h.posting
  rw [hphase] at hposting
  obtain ⟨hlost, -⟩ := hposting
  have hingested := h.ingests hx hd hcollide hlost
  refine hingested.carry rfl rfl (fun _ => id) ?_
  have hposting : Posting { w with sink := ingest w.sink (readLines body) } w.phase := hingested.posting
  rw [hphase] at hposting
  obtain ⟨done, rest, hbatches, htodo, hdone⟩ := hposting.2 (List.cons_ne_nil _ _)
  refine ⟨done ++ [body], rest, by rw [hbatches, List.append_assoc, List.singleton_append], htodo, fun batch hbatch => ?_⟩
  rcases List.mem_append.1 hbatch with hbatch | hbatch
  · exact hdone batch hbatch
  · obtain rfl := List.mem_singleton.1 hbatch
    exact batchIn_adds hcollide h hlost hx hstored hbuild (hbatches ▸ List.mem_append_right _ List.mem_cons_self) rfl

/-- **Every step keeps a marker behind its lines.** -/
theorem exposed_step (hx : x.Lawful) (hd : Durable x settings w) (hcollide : NoCollision x w.log) (h : Exposed x settings w)
    (hmove : Move x settings w w') : Exposed x settings w' := by
  have hlog := log_grows hmove
  cases hmove with
  | restarts | rejected | schedules | selects | reports => exact h.carry rfl rfl hlog trivial
  | turns hturn => exact h.carry rfl rfl hlog hturn.posting
  | saves hsave => exact h.carry rfl rfl hlog hsave.posting
  | posts hphase => exact exposed_posts hx hd h hphase
  | answered hphase => exact exposed_answered hx hd hcollide h hphase
  | @acknowledges snapshot publication body resume hphase =>
    have hposting := h.posting
    rw [hphase] at hposting
    exact (h.ingests hx hd hcollide hposting.1).carry rfl rfl hlog trivial
  | arrives hlost =>
    refine h.ingests hx hd hcollide fun line hline => ?_
    rwa [List.mem_singleton.1 hline]
  | @clears resume _ _ hnext =>
    refine h.carry rfl rfl hlog ?_
    rcases hnext with rfl | ⟨error, rfl⟩
    · cases resume <;> trivial
    · trivial
  | stores _ hnext =>
    refine h.carry rfl rfl hlog ?_
    rcases hnext with rfl | ⟨error, rfl⟩ <;> trivial

theorem exposed_empty (x : Crates) (settings : CollectionSettings) : Exposed x settings (.empty settings) where
  traced := by
    rintro p (hp | ⟨line, hline, -⟩)
    · cases hp
    · cases hline
  posting := trivial

/-- What a run has kept. -/
theorem exposed_run (hx : x.Lawful) (hnull : RefuseNull x) {events : List Event}
    (hreads : ∀ reads, .collected reads ∈ events → Received reads) (hrun : (worker x settings).Reaches events w) :
    Durable x settings w ∧ (NoCollision x w.log → Exposed x settings w) := by
  refine (worker x settings).run_invariant_along (C := fun _ e => ∀ reads, e = .collected reads → Received reads)
    (I := fun w => Durable x settings w ∧ (NoCollision x w.log → Exposed x settings w))
    ⟨durable_empty x settings, fun _ => exposed_empty x settings⟩ ?_ ?_ hrun
  · rintro s e t ⟨hd, h⟩ hreads hstep
    have hmove := step_move hstep
    refine ⟨durable_step hnull hd hreads hstep, fun hcollide => ?_⟩
    have hbefore := hcollide.mono (log_grows hmove)
    exact exposed_step hx hd hbefore (h hbefore) hmove
  · refine (worker x settings).along_of_forall ?_
    rintro _ hmem reads rfl
    exact hreads reads hmem

/-- **A selector never exposes a part of its revision.** In every state of a run, a selector in the sink names the
revision of a stored snapshot, and every line of every batch that a snapshot of this revision publishes as is in
the sink. -/
theorem selector_exposes_whole (hx : x.Lawful) (hnull : RefuseNull x) {events : List Event}
    (hreads : ∀ reads, .collected reads ∈ events → Received reads) (hrun : (worker x settings).Reaches events w)
    (hcollide : NoCollision x w.log) {p : Point} (hp : p ∈ w.sink) (hselector : p.measurement = "unifi_publication".toList) :
    ∃ original, .stored original ∈ w.log ∧ p = selectorOf x settings.identity original ∧
      ∀ snapshot, .stored snapshot ∈ w.log → revisionOf x snapshot = revisionOf x original →
        ∃ publication, build x settings.identity snapshot = .ok publication ∧ Present w.sink publication := by
  obtain ⟨hdurable, hexposed⟩ := exposed_run hx hnull hreads hrun
  obtain ⟨found, hfound, hdata | ⟨rfl, publication, hbuild, hpresent⟩⟩ := (hexposed hcollide).traced p (Or.inl hp)
  · exact absurd hselector hdata.measurement_ne
  have hrevision (snapshot : TrafficSnapshot) : revisionOf x (reread snapshot) = revisionOf x snapshot :=
    congrArg x.sha256Hex (toVec_reread snapshot)
  obtain ⟨original, _, hstored, rfl, -⟩ := id hfound
  have hsame : selectorOf x settings.identity (reread original) = selectorOf x settings.identity original := by
    unfold selectorOf
    rw [hrevision]
    rfl
  refine ⟨original, hstored, hsame, fun snapshot hsnapshot heq => ?_⟩
  obtain ⟨other, hrestores⟩ := hdurable.stored snapshot hsnapshot
  have hread : reread snapshot = reread original := by
    refine stored_eq hcollide ⟨snapshot, other, hsnapshot, rfl, hrestores⟩ hfound ?_
    rw [hrevision, hrevision, heq]
  have hbuilt := hrestores.build
  rw [hread, hbuild] at hbuilt
  obtain rfl := Except.ok.inj hbuilt
  exact ⟨publication, hrestores.collected, hpresent⟩

end

/-- One hour is published: its selector is in the sink, and all of it. -/
theorem selector_exposes_whole_blank : ∃ w publication,
    (worker sampleCrates sampleSettings).Reaches (firstSelection ++ blankPublication) w ∧
      selectorOf sampleCrates sampleIdentity (blankSnapshot 0) ∈ w.sink ∧
      build sampleCrates sampleIdentity (blankSnapshot 0) = .ok publication ∧ Present w.sink publication := by
  have hworld : ((worker sampleCrates sampleSettings).runFrom (.empty sampleSettings) (firstSelection ++ blankPublication)).map
      (fun w => (decide (selectorOf sampleCrates sampleIdentity (blankSnapshot 0) ∈ w.sink), w.log)) =
        some (true, [.saved, .acknowledged 0 false, .saved, .stored (blankSnapshot 0), .selected 0, .saved,
          .scheduled (sampleCall none), .saved, .restarted]) := by
    decide +kernel
  obtain ⟨w, hrun, hworld⟩ := Option.map_eq_some_iff.1 hworld
  obtain ⟨hsink, hlog⟩ := Prod.mk.inj hworld
  have hmem := of_decide_eq_true hsink
  have hreads : ∀ reads, .collected reads ∈ firstSelection ++ blankPublication → Received reads := by
    intro reads hmem
    have hsame : reads = blankReads := by simpa [firstSelection, blankPublication] using hmem
    rw [hsame]
    exact blankReads_received
  have hone (s : TrafficSnapshot) (hs : .stored s ∈ w.log) : s = blankSnapshot 0 := by
    rw [hlog] at hs
    simpa using hs
  have hcollide : NoCollision sampleCrates w.log := fun s t hs ht _ => by rw [hone s hs, hone t ht]
  obtain ⟨original, hstored, -, hwhole⟩ :=
    selector_exposes_whole sampleCrates_lawful sampleCrates_refuseNull hreads hrun hcollide hmem rfl
  obtain ⟨publication, hbuild, hpresent⟩ := hwhole original hstored rfl
  rw [hone original hstored] at hbuild
  exact ⟨w, publication, hrun, hmem, hbuild, hpresent⟩

end UnifiMcp.Collector
