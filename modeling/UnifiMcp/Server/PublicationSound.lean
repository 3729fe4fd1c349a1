import Mathlib.Data.List.Nodup
import UnifiMcp.Server.Publication
/-! # What a publication says (unifi-server/src/collector/sink.rs)

A reader that takes the batches apart at the newlines and the lines apart by the line protocol
finds every line once, the archive of the whole snapshot, and pairwise different points.

* `build_decodes` — that, for every snapshot of which a publication is built. -/
namespace UnifiMcp.Collector
open Text LineProtocol

/-! ## Characters of the parts -/

/-- No character with a meaning in a key, and no newline. -/
def Clean (t : Text) : Prop := ∀ c ∈ t, c ≠ ' ' ∧ c ≠ ',' ∧ c ≠ '=' ∧ c ≠ '\n'

theorem Clean.plain {t : Text} (h : Clean t) : LineProtocol.Plain t :=
  ⟨fun hc => (h _ hc).1 rfl, fun hc => (h _ hc).2.1 rfl, fun hc => (h _ hc).2.2.1 rfl⟩

theorem Clean.newline {t : Text} (h : Clean t) : '\n' ∉ t := fun hc => (h _ hc).2.2.2 rfl

/-- A text all of whose characters pass a test that the four characters fail. -/
theorem Clean.of_all {t : Text} (test : Char → Bool) (ht : ∀ c ∈ t, test c = true) (h1 : test ' ' = false)
    (h2 : test ',' = false) (h3 : test '=' = false) (h4 : test '\n' = false) : Clean t := by
  intro c hc
  have := ht c hc
  refine ⟨?_, ?_, ?_, ?_⟩ <;> rintro rfl <;> simp_all

theorem clean_dec (n : Nat) : Clean (dec n) :=
  .of_all Char.isDigit (fun _ hc => isDigit_of_mem_dec hc) rfl rfl rfl rfl

theorem clean_hex {t : Text} (h : ∀ c ∈ t, isHexDigit c = true) : Clean t :=
  .of_all isHexDigit h (by decide) (by decide) (by decide) (by decide)

theorem clean_mac {t : Text} (h : validMac t = true) : Clean t :=
  .of_all (fun c => isHexDigit c || c == ':') (fun c hc => by simpa using validMac_chars h c hc)
    (by decide) (by decide) (by decide) (by decide)

theorem Identity.clean (identity : Identity) : Clean identity.text :=
  .of_all (fun c => c.isAlphanum || c == '-' || c == '_' || c == '.')
    (fun c hc => by simpa [or_assoc] using identity.chars c hc) (by decide) (by decide) (by decide) (by decide)

section
variable {x : Crates} {identity : Identity} {snapshot : TrafficSnapshot}

/-! ## The points of a publication -/

/-- The parts of the archive, numbered from zero. -/
def archivePoints (identity : Identity) (revision timestamp : Text) (bytes : Bytes) : List Point :=
  (Packing.chunks ARCHIVE_CHUNK bytes).zipIdx.map fun (chunk, index) =>
    archivePoint identity revision timestamp index chunk

/-- The points `publicationLines` writes. -/
def publicationPoints (x : Crates) (identity : Identity) (snapshot : TrafficSnapshot) (activity : ActivityPart)
    (wan : Text) : List Point :=
  archivePoints identity (x.sha256Hex (toVec snapshot)) (dec snapshot.startMs) (toVec snapshot) ++
    activity.clients.map (clientPoint identity (x.sha256Hex (toVec snapshot)) (dec snapshot.startMs)) ++
    [intervalPoint identity (x.sha256Hex (toVec snapshot))
      (summaryFront snapshot (Packing.chunks ARCHIVE_CHUNK (toVec snapshot)).length ++ activity.summary ++ wan)
      (dec snapshot.startMs)]

theorem publicationLines_points {lines : List Text} (h : publicationLines x identity snapshot = .ok lines) :
    ∃ activity wan, activityPart x snapshot = .ok activity ∧ wanPart x snapshot activity.total = .ok wan ∧
      lines = (publicationPoints x identity snapshot activity wan).map write := by
  unfold publicationLines at h
  split at h
  · cases h
  · rename_i activity hactivity
    split at h
    · cases h
    · rename_i wan hwan
      cases h
      have harchive : archiveLines (tagText identity (x.sha256Hex (toVec snapshot))) (dec snapshot.startMs)
          (toVec snapshot) = (archivePoints identity (x.sha256Hex (toVec snapshot)) (dec snapshot.startMs)
            (toVec snapshot)).map write := by
        rw [archivePoints, List.map_map]
        exact List.map_congr_left fun _ _ => archiveLine_point ..
      have hclients : activity.clients.map (clientLine (tagText identity (x.sha256Hex (toVec snapshot)))
          (dec snapshot.startMs)) = (activity.clients.map (clientPoint identity (x.sha256Hex (toVec snapshot))
            (dec snapshot.startMs))).map write := by
        rw [List.map_map]
        exact List.map_congr_left fun _ _ => clientLine_point ..
      refine ⟨activity, wan, hactivity, hwan, ?_⟩
      rw [harchive, hclients, intervalLine_point, publicationPoints, List.map_append, List.map_append]
      rfl

/-- The clients of a part have valid, pairwise distinct addresses. -/
theorem activityPart_macs {activity : ActivityPart} (h : activityPart x snapshot = .ok activity) :
    (activity.clients.map ClientRow.mac).Nodup ∧ ∀ client ∈ activity.clients, validMac client.mac = true := by
  unfold activityPart at h
  split at h
  · split at h
    · cases h
    · split at h
      · cases h
      · split at h
        · rename_i htotals
          cases h
          exact activityTotals_macs htotals
        · cases h
          exact ⟨List.nodup_nil, fun _ h => by cases h⟩
  · cases h
    exact ⟨List.nodup_nil, fun _ h => by cases h⟩

/-! ## Batches are runs of whole lines -/

/-- A batch of those lines. -/
def join (group : List Text) : Text := (group.map ended).flatten

/-- The bytes a line takes in a batch. -/
def endedLen (line : Text) : Nat := byteLen (ended line)

theorem join_isEmpty (group : List Text) : (join group).isEmpty = group.isEmpty := by
  cases group with
  | nil => rfl
  | cons line group => simp [join, ended]

theorem byteLen_join (group : List Text) : byteLen (join group) = Packing.total endedLen group := by
  induction group with
  | nil => rfl
  | cons line group ih =>
    rw [Packing.total, ← ih, join, join, List.map_cons, List.flatten_cons, byteLen_append]
    rfl

theorem join_append (group : List Text) (line : Text) : join (group ++ [line]) = join group ++ ended line := by
  simp [join]

/-- The batching loop packs greedily, unless a line is too long. -/
theorem packLines_eq {lines : List Text} : ∀ {group : List Text} {batches : List Text},
    packLines (join group) lines = .ok batches ↔ (∀ line ∈ lines, endedLen line ≤ MAX_LINE_BYTES) ∧
      batches = (Packing.pack MAX_BATCH_BYTES endedLen group lines).map join := by
  induction lines with
  | nil =>
    intro group batches
    rw [packLines, Packing.pack, join_isEmpty]
    cases group <;> simp [eq_comm]
  | cons line lines ih =>
    intro group batches
    have hone : ended line = join [line] := by simp [join]
    have hlen : byteLen (ended line) = endedLen line := rfl
    rw [packLines, Packing.pack, byteLen_join, hlen]
    by_cases hlong : MAX_LINE_BYTES < endedLen line
    · rw [if_pos hlong]
      refine ⟨fun h => (by cases h), fun h => ?_⟩
      exact absurd (h.1 line (by simp)) (Nat.not_le.2 hlong)
    · have hline : endedLen line ≤ MAX_LINE_BYTES := Nat.not_lt.1 hlong
      rw [if_neg hlong]
      by_cases hfull : MAX_BATCH_BYTES < Packing.total endedLen group + endedLen line
      · rw [if_pos hfull, if_pos hfull]
        cases hrest : packLines (ended line) lines with
        | error error =>
          refine ⟨fun h => (by cases h), fun h => ?_⟩
          have := (@ih [line] _).2 ⟨fun l hl => h.1 l (by simp [hl]), rfl⟩
          rw [← hone, hrest] at this
          cases this
        | ok rest =>
          rw [hone] at hrest
          obtain ⟨hlines, hpack⟩ := ih.1 hrest
          rw [hpack]
          constructor
          · intro h
            cases h
            exact ⟨by simpa [hline] using hlines, rfl⟩
          · rintro ⟨-, rfl⟩
            rfl
      · rw [if_neg hfull, if_neg hfull, ← join_append, ih]
        simp [hline]

/-- What `build` returns, from its lines. -/
theorem build_eq_ok {p : Publication} : build x identity snapshot = .ok p ↔
    (toVec snapshot).length ≤ MAX_ARCHIVE_BYTES ∧ ∃ lines, publicationLines x identity snapshot = .ok lines ∧
      (∀ line ∈ lines, endedLen line ≤ MAX_LINE_BYTES) ∧
      (Packing.pack MAX_BATCH_BYTES endedLen [] lines).length ≤ MAX_BATCHES ∧
      p = ⟨(Packing.pack MAX_BATCH_BYTES endedLen [] lines).map join,
        markerLine identity (x.sha256Hex (toVec snapshot)) (dec snapshot.startMs), lines.length⟩ := by
  unfold build
  by_cases hbig : MAX_ARCHIVE_BYTES < (toVec snapshot).length
  · rw [if_pos hbig]
    exact ⟨fun h => (by cases h), fun h => absurd h.1 (Nat.not_le.2 hbig)⟩
  rw [if_neg hbig]
  cases hlines : publicationLines x identity snapshot with
  | error error => exact ⟨fun h => (by cases h), fun ⟨_, _, h, _⟩ => (by cases h)⟩
  | ok lines =>
    dsimp only
    cases hpack : packLines [] lines with
    | error error =>
      refine ⟨fun h => (by cases h), ?_⟩
      rintro ⟨-, _, ⟨⟩, hshort, -, -⟩
      have := (@packLines_eq lines [] _).2 ⟨hshort, rfl⟩
      rw [show join [] = [] from rfl, hpack] at this
      cases this
    | ok batches =>
      obtain ⟨hshort, rfl⟩ := (@packLines_eq lines [] _).1 hpack
      dsimp only
      rw [List.length_map]
      split
      · rename_i hmany
        refine ⟨fun h => (by cases h), ?_⟩
        rintro ⟨-, _, ⟨⟩, -, hfew, -⟩
        exact absurd hfew (Nat.not_le.2 hmany)
      · rename_i hfew
        constructor
        · intro h
          cases h
          exact ⟨Nat.not_lt.1 hbig, lines, rfl, hshort, Nat.not_lt.1 hfew, rfl⟩
        · rintro ⟨-, _, ⟨⟩, -, -, rfl⟩
          rfl

/-! ## Every point reads back from its line -/

theorem clean_word {t : Text} (h : (t.all fun c => c.isAlpha || c == '_') = true) : Clean t :=
  .of_all (fun c => c.isAlpha || c == '_') (List.all_eq_true.1 h) rfl rfl rfl rfl

/-- A point with clean names, values and timestamp, and fields without a newline. -/
structure Neat (p : Point) : Prop where
  measurement : Clean p.measurement
  tags : ∀ tag ∈ p.tags, Clean tag.1 ∧ Clean tag.2
  timestamp : Clean p.timestamp
  fields : '\n' ∉ p.fields

theorem Neat.plain {p : Point} (h : Neat p) : p.Plain :=
  ⟨h.measurement.plain, fun tag ht => ⟨(h.tags tag ht).1.plain, (h.tags tag ht).2.plain⟩, h.timestamp.plain.1⟩

theorem Neat.newline {p : Point} (h : Neat p) : '\n' ∉ write p :=
  newline_not_mem_write h.measurement.newline
    (fun tag ht => ⟨(h.tags tag ht).1.newline, (h.tags tag ht).2.newline⟩) h.fields h.timestamp.newline

theorem clean_baseTags (hx : x.Lawful) (bytes : Bytes) :
    ∀ tag ∈ baseTags identity (x.sha256Hex bytes), Clean tag.1 ∧ Clean tag.2 := by
  intro tag htag
  simp only [baseTags, List.mem_cons, List.not_mem_nil, or_false] at htag
  rcases htag with rfl | rfl
  · exact ⟨clean_word rfl, identity.clean⟩
  · exact ⟨clean_word rfl, clean_hex (hx.digest_chars bytes)⟩

/-- One more clean tag. -/
theorem clean_tags (hx : x.Lawful) (bytes : Bytes) {name value : Text} (hn : Clean name) (hv : Clean value) :
    ∀ tag ∈ baseTags identity (x.sha256Hex bytes) ++ [(name, value)], Clean tag.1 ∧ Clean tag.2 := by
  intro tag htag
  rcases List.mem_append.1 htag with h | h
  · exact clean_baseTags hx bytes tag h
  · rw [List.mem_singleton] at h
    subst h
    exact ⟨hn, hv⟩

theorem newline_not_mem_string {value : Text} (h : '\n' ∉ value) : '\n' ∉ string value := by
  intro hc
  simp only [string, List.mem_cons, List.mem_append, List.mem_flatMap, List.not_mem_nil, or_false] at hc
  rcases hc with hc | ⟨d, ⟨e, he, hd⟩, hc⟩ | hc
  · cases hc
  · -- doubling a character brings in backslashes only
    have hd : d = e ∨ d = '\\' := by split at hd <;> simp_all
    have hc : d = '\n' := by
      split at hc
      · simp at hc
      · simpa [eq_comm] using hc
    rcases hd with rfl | rfl
    · exact h (hc ▸ he)
    · cases hc
  · cases hc

theorem newline_not_mem_nameJson (name : Option Text) : '\n' ∉ nameJson name := by
  cases name with
  | none => decide
  | some name => exact Json.newline_not_mem_quote name

theorem neat_archivePoint (hx : x.Lawful) (bytes : Bytes) (startMs index : Nat) (chunk : Bytes) :
    Neat (archivePoint identity (x.sha256Hex bytes) (dec startMs) index chunk) where
  measurement := clean_word rfl
  tags := clean_tags hx bytes (clean_word rfl) (clean_dec index)
  timestamp := clean_dec startMs
  fields := by
    have hdata : '\n' ∉ Base64.encode chunk := fun h => by have := Base64.mem_encode h; cases this
    unfold archivePoint
    simp only [List.mem_append, not_or, and_assoc]
    exact ⟨by decide, hdata, by decide⟩

theorem newline_not_mem_clientFields (tags timestamp : Text) (client : ClientRow) :
    '\n' ∉ clientFields tags timestamp client := by
  have hrx := (clean_dec client.bytes.rxBytes).newline
  have htx := (clean_dec client.bytes.txBytes).newline
  have hname := newline_not_mem_string (newline_not_mem_nameJson client.name)
  unfold clientFields
  dsimp only
  split <;> simp only [List.mem_append, not_or, and_assoc]
  · exact ⟨by decide, hrx, by decide, htx, by decide, by decide, hname⟩
  · exact ⟨by decide, hrx, by decide, htx, by decide, by decide⟩

theorem neat_clientPoint (hx : x.Lawful) (bytes : Bytes) (startMs : Nat) {client : ClientRow}
    (hmac : validMac client.mac = true) :
    Neat (clientPoint identity (x.sha256Hex bytes) (dec startMs) client) where
  measurement := clean_word rfl
  tags := clean_tags hx bytes (clean_word rfl) (clean_mac hmac)
  timestamp := clean_dec startMs
  fields := by
    unfold clientPoint
    dsimp only
    exact newline_not_mem_clientFields _ _ _

/-! ## The summary -/

theorem newline_not_mem_activity {activity : ActivityPart} (h : activityPart x snapshot = .ok activity) :
    '\n' ∉ activity.summary := by
  have hdec (n : Nat) := (clean_dec n).newline
  unfold activityPart at h
  split at h
  · split at h
    · cases h
    · split at h
      · cases h
      · split at h
        · cases h
          simp only [List.mem_append, not_or, and_assoc]
          exact ⟨by decide, hdec _, by decide, hdec _, by decide, hdec _, by decide, hdec _, by decide⟩
        · cases h
          show '\n' ∉ ",totals_status=\"invalid_counters\"".toList
          decide
  · cases h
    exact List.not_mem_nil

theorem newline_not_mem_wan (hx : x.Lawful) {total : Option ByteTotals} {wan : Text}
    (h : wanPart x snapshot total = .ok wan) : '\n' ∉ wan := by
  have hfloat (f : F64) : '\n' ∉ x.f64Display f := fun hc => by
    rcases hx.display_chars f _ hc with h | h | h | h <;> cases h
  unfold wanPart at h
  split at h
  · split at h
    · cases h
    · split at h
      · cases h
      · split at h
        · cases h
          exact List.not_mem_nil
        · cases h
          simp only [List.mem_append, not_or, and_assoc]
          refine ⟨by decide, hfloat _, by decide, hfloat _, ?_⟩
          cases total with
          | none => exact List.not_mem_nil
          | some total =>
            simp only [List.mem_append, not_or, and_assoc]
            exact ⟨by decide, hfloat _, by decide, hfloat _⟩
  · cases h
    exact List.not_mem_nil

theorem newline_not_mem_statusJson (status : SourceStatus) : '\n' ∉ statusJson status :=
  Json.newline_not_mem_quote _

theorem newline_not_mem_summaryFront (parts : Nat) : '\n' ∉ summaryFront snapshot parts := by
  have hdec (n : Nat) := (clean_dec n).newline
  have hbool (b : Bool) : '\n' ∉ boolText b := by cases b <;> decide
  have hstatus := newline_not_mem_statusJson
  unfold summaryFront
  simp only [List.mem_append, not_or, and_assoc]
  exact ⟨by decide, hdec _, by decide, hdec _, by decide, hbool _, by decide, hdec _, by decide, by decide,
    hstatus _, by decide, hstatus _, by decide, hstatus _⟩

/-- **Every point of a publication is neat.** -/
theorem neat_publicationPoints (hx : x.Lawful) {activity : ActivityPart} {wan : Text}
    (ha : activityPart x snapshot = .ok activity) (hw : wanPart x snapshot activity.total = .ok wan) :
    ∀ p ∈ publicationPoints x identity snapshot activity wan, Neat p := by
  intro p hp
  simp only [publicationPoints, archivePoints, List.mem_append, List.mem_map, List.mem_singleton] at hp
  rcases hp with (⟨⟨chunk, index⟩, -, rfl⟩ | ⟨client, hclient, rfl⟩) | rfl
  · exact neat_archivePoint hx ..
  · exact neat_clientPoint hx _ _ ((activityPart_macs ha).2 client hclient)
  · refine ⟨clean_word rfl, clean_baseTags hx _, clean_dec _, ?_⟩
    unfold intervalPoint
    simp only [List.mem_append, not_or, and_assoc]
    exact ⟨newline_not_mem_summaryFront _, newline_not_mem_activity ha, newline_not_mem_wan hx hw⟩

/-! ## Different points -/

theorem value_eq_of_same {p q : Point} {base : List (Text × Text)} {name v w : Text}
    (hp : p.tags = base ++ [(name, v)]) (hq : q.tags = base ++ [(name, w)]) (h : SamePoint p q) : v = w := by
  have hperm := h.2.1
  rw [hp, hq, List.perm_append_left_iff, List.singleton_perm_singleton] at hperm
  exact congrArg Prod.snd hperm

theorem measurement_archivePoint (revision timestamp : Text) (index : Nat) (chunk : Bytes) :
    (archivePoint identity revision timestamp index chunk).measurement = "unifi_archive".toList := rfl

theorem measurement_clientPoint (revision timestamp : Text) (client : ClientRow) :
    (clientPoint identity revision timestamp client).measurement = "unifi_client".toList := rfl

theorem measurement_intervalPoint (revision summary timestamp : Text) :
    (intervalPoint identity revision summary timestamp).measurement = "unifi_interval".toList := rfl

theorem archivePoints_pairwise (revision timestamp : Text) (bytes : Bytes) :
    (archivePoints identity revision timestamp bytes).Pairwise fun p q => ¬SamePoint p q := by
  have hindex : ((Packing.chunks ARCHIVE_CHUNK bytes).zipIdx.map Prod.snd).Pairwise (· < ·) := by
    rw [List.zipIdx_map_snd]
    exact List.pairwise_lt_range'
  rw [archivePoints, List.pairwise_map]
  refine (List.pairwise_map.1 hindex).imp fun {a b} hlt hsame => ?_
  have := dec_inj (value_eq_of_same rfl rfl hsame)
  omega

theorem clientPoints_pairwise (revision timestamp : Text) {clients : List ClientRow}
    (h : (clients.map ClientRow.mac).Nodup) :
    (clients.map (clientPoint identity revision timestamp)).Pairwise fun p q => ¬SamePoint p q := by
  rw [List.pairwise_map]
  exact (List.pairwise_map.1 h).imp fun hne hsame => hne (value_eq_of_same rfl rfl hsame)

/-- **No two points of a publication are the same point.** -/
theorem publicationPoints_pairwise {activity : ActivityPart} (wan : Text)
    (ha : activityPart x snapshot = .ok activity) :
    (publicationPoints x identity snapshot activity wan).Pairwise fun p q => ¬SamePoint p q := by
  have hac : "unifi_archive".toList ≠ "unifi_client".toList := by decide
  have hai : "unifi_archive".toList ≠ "unifi_interval".toList := by decide
  have hci : "unifi_client".toList ≠ "unifi_interval".toList := by decide
  rw [publicationPoints, List.pairwise_append, List.pairwise_append]
  refine ⟨⟨archivePoints_pairwise .., clientPoints_pairwise _ _ (activityPart_macs ha).1, ?_⟩,
    List.pairwise_singleton .., ?_⟩
  · intro p hp q hq hsame
    obtain ⟨_, _, rfl⟩ := List.mem_map.1 hp
    obtain ⟨_, _, rfl⟩ := List.mem_map.1 hq
    exact hac hsame.1
  · intro p hp q hq hsame
    rw [List.mem_singleton] at hq
    subst hq
    rcases List.mem_append.1 hp with hp | hp
    · obtain ⟨_, _, rfl⟩ := List.mem_map.1 hp
      exact hai hsame.1
    · obtain ⟨_, _, rfl⟩ := List.mem_map.1 hp
      exact hci hsame.1

/-! ## Reading the archive -/

/-- The part an archive point says it is. -/
def partOf (p : Point) : Nat :=
  natOf (((p.tags.find? fun tag => tag.1 == "part".toList).map Prod.snd).getD [])

/-- What stands between the first two quotes. -/
def dataField (fields : Text) : Option Text :=
  (cut '"' fields).bind fun (_, rest) => (cut '"' rest).map Prod.fst

/-- The archive points in the order of their parts, their data decoded and joined. -/
def readArchive (points : List Point) : Option Bytes :=
  (((points.filter fun p => p.measurement == "unifi_archive".toList).mergeSort fun p q => partOf p ≤ partOf q).mapM
    fun p => (dataField p.fields).bind Base64.decode).map List.flatten

theorem partOf_archivePoint (revision timestamp : Text) (index : Nat) (chunk : Bytes) :
    partOf (archivePoint identity revision timestamp index chunk) = index := by
  have h1 : ("collector".toList == "part".toList) = false := by decide
  have h2 : ("revision".toList == "part".toList) = false := by decide
  unfold partOf archivePoint baseTags
  generalize "part".toList = part at h1 h2 ⊢
  generalize "collector".toList = collector at h1 ⊢
  generalize "revision".toList = revision at h2 ⊢
  simp [h1, h2]

theorem data_archivePoint (revision timestamp : Text) (index : Nat) (chunk : Bytes) :
    (dataField (archivePoint identity revision timestamp index chunk).fields).bind Base64.decode = some chunk := by
  have hquote : '"' ∉ Base64.encode chunk := fun h => by have := Base64.mem_encode h; cases this
  have hfront : "data=\"".toList = "data=".toList ++ ['"'] := rfl
  have hcut : '"' ∉ "data=".toList := by decide
  unfold archivePoint
  rw [hfront, List.append_assoc, List.append_assoc, List.singleton_append, dataField, cut_append hcut]
  simp only [Option.bind_some]
  rw [cut_append hquote, Option.map_some, Option.bind_some, Base64.decode_encode]

/-- The archive points are in the order of their parts already, and a part has one point. -/
theorem archivePoints_sorted (revision timestamp : Text) (bytes : Bytes) :
    (archivePoints identity revision timestamp bytes).Pairwise fun p q => partOf p < partOf q := by
  have hindex : ((Packing.chunks ARCHIVE_CHUNK bytes).zipIdx.map Prod.snd).Pairwise (· < ·) := by
    rw [List.zipIdx_map_snd]
    exact List.pairwise_lt_range'
  rw [archivePoints, List.pairwise_map]
  refine (List.pairwise_map.1 hindex).imp fun hlt => ?_
  rw [partOf_archivePoint, partOf_archivePoint]
  exact hlt

theorem filter_publicationPoints (activity : ActivityPart) (wan : Text) :
    (publicationPoints x identity snapshot activity wan).filter (fun p => p.measurement == "unifi_archive".toList) =
      archivePoints identity (x.sha256Hex (toVec snapshot)) (dec snapshot.startMs) (toVec snapshot) := by
  have hca : ("unifi_client".toList == "unifi_archive".toList) = false := by decide
  have hia : ("unifi_interval".toList == "unifi_archive".toList) = false := by decide
  rw [publicationPoints, List.filter_append, List.filter_append]
  rw [List.filter_eq_self.2, List.filter_eq_nil_iff.2, List.filter_eq_nil_iff.2, List.append_nil, List.append_nil]
  · intro p hp
    rw [List.mem_singleton] at hp
    subst hp
    rw [measurement_intervalPoint, hia]
    exact Bool.false_ne_true
  · intro p hp
    obtain ⟨client, -, rfl⟩ := List.mem_map.1 hp
    rw [measurement_clientPoint, hca]
    exact Bool.false_ne_true
  · intro p hp
    obtain ⟨chunk, -, rfl⟩ := List.mem_map.1 hp
    rw [measurement_archivePoint]
    exact beq_self_eq_true _

/-- **The archive comes back**, in whatever order the points are found. -/
theorem readArchive_publicationPoints {activity : ActivityPart} {wan : Text} {points : List Point}
    (h : points.Perm (publicationPoints x identity snapshot activity wan)) :
    readArchive points = some (toVec snapshot) := by
  have hperm := h.filter fun p => p.measurement == "unifi_archive".toList
  rw [filter_publicationPoints] at hperm
  have hsorted : (archivePoints identity (x.sha256Hex (toVec snapshot)) (dec snapshot.startMs)
      (toVec snapshot)).Pairwise fun p q => partOf p < partOf q := archivePoints_sorted ..
  -- a sorted list with these points is the list of them
  have heq : (points.filter fun p => p.measurement == "unifi_archive".toList).mergeSort
      (fun p q => partOf p ≤ partOf q) =
        archivePoints identity (x.sha256Hex (toVec snapshot)) (dec snapshot.startMs) (toVec snapshot) := by
    refine @List.Perm.eq_of_pairwise _ (fun p q => partOf p ≤ partOf q) _ _ ?_ ?_ (hsorted.imp Nat.le_of_lt)
      ((List.mergeSort_perm ..).trans hperm)
    · intro p q hp hq hle hge
      have hp := hperm.mem_iff.1 ((List.mergeSort_perm ..).mem_iff.1 hp)
      have hnodup : ((archivePoints identity (x.sha256Hex (toVec snapshot)) (dec snapshot.startMs)
          (toVec snapshot)).map partOf).Nodup := List.pairwise_map.2 (hsorted.imp Nat.ne_of_lt)
      exact List.inj_on_of_nodup_map hnodup hp hq (Nat.le_antisymm hle hge)
    · exact (List.pairwise_mergeSort (by simp; omega) (by simp; omega) _).imp (by simp)
  rw [readArchive, heq, archivePoints, mapM_map_some (g := Prod.fst) fun a _ => data_archivePoint .., Option.map_some,
    List.zipIdx_map_fst, Packing.flatten_chunks (by decide)]

/-! ## The whole publication -/

/-- What a reader finds in the batches of a publication of `snapshot`. -/
structure Decodes (x : Crates) (identity : Identity) (snapshot : TrafficSnapshot) (p : Publication) : Prop where
  /-- A batch is a run of whole lines, each with one newline, at its end. -/
  whole : ∃ groups : List (List Text), p.batches = groups.map join ∧ (∀ line ∈ groups.flatten, '\n' ∉ line) ∧
    readLines p.batches.flatten = groups.flatten
  /-- The lines are those that `build` made, in order. -/
  lines : publicationLines x identity snapshot = .ok (readLines p.batches.flatten)
  records : p.records = (readLines p.batches.flatten).length
  batches : ∀ batch ∈ p.batches, batch ≠ [] ∧ byteLen batch ≤ MAX_BATCH_BYTES
  /-- The lines are pairwise different points of one time and revision; in any order they hold the
  archive of the snapshot. -/
  points : ∃ points, (readLines p.batches.flatten).mapM read = some points ∧
    (points.Pairwise fun a b => ¬SamePoint a b) ∧
    (∀ point ∈ points, point.timestamp = dec snapshot.startMs ∧
      ("revision".toList, x.sha256Hex (toVec snapshot)) ∈ point.tags) ∧
    ∀ shuffled : List Point, shuffled.Perm points → readArchive shuffled = some (toVec snapshot)

theorem point_of_publication {activity : ActivityPart} {wan : Text} :
    ∀ p ∈ publicationPoints x identity snapshot activity wan, p.timestamp = dec snapshot.startMs ∧
      ("revision".toList, x.sha256Hex (toVec snapshot)) ∈ p.tags := by
  have hbase : ("revision".toList, x.sha256Hex (toVec snapshot)) ∈ baseTags identity (x.sha256Hex (toVec snapshot)) :=
    List.mem_cons_of_mem _ List.mem_cons_self
  intro p hp
  rcases List.mem_append.1 hp with hp | hp
  · rcases List.mem_append.1 hp with hp | hp
    · obtain ⟨_, _, rfl⟩ := List.mem_map.1 hp
      exact ⟨rfl, List.mem_append_left _ hbase⟩
    · obtain ⟨_, _, rfl⟩ := List.mem_map.1 hp
      exact ⟨rfl, List.mem_append_left _ hbase⟩
  · rw [List.mem_singleton] at hp
    subst hp
    exact ⟨rfl, hbase⟩

/-- The lines of a batch list are the lines of its groups. -/
theorem readLines_join {groups : List (List Text)} (h : ∀ line ∈ groups.flatten, '\n' ∉ line) :
    readLines (groups.map join).flatten = groups.flatten := by
  have hflat : (groups.map join).flatten = (groups.flatten.map ended).flatten := by
    induction groups with
    | nil => rfl
    | cons group groups ih =>
      rw [List.map_cons, List.flatten_cons, ih fun line hl => h line (by simp [hl]), List.flatten_cons,
        List.map_append, List.flatten_append]
      rfl
  rw [hflat]
  exact readLines_flatten h

end

/-- **A publication says what the snapshot says, each thing once.** -/
theorem build_decodes {x : Crates} (hx : x.Lawful) {identity : Identity} {snapshot : TrafficSnapshot}
    {p : Publication} (h : build x identity snapshot = .ok p) : Decodes x identity snapshot p := by
  obtain ⟨-, lines, hlines, hshort, -, rfl⟩ := build_eq_ok.1 h
  obtain ⟨activity, wan, ha, hw, rfl⟩ := publicationLines_points hlines
  have hneat : ∀ point ∈ publicationPoints x identity snapshot activity wan, Neat point :=
    neat_publicationPoints hx ha hw
  generalize hpoints : publicationPoints x identity snapshot activity wan = points at hlines hshort hneat ⊢
  have hnewline : ∀ line ∈ points.map write, '\n' ∉ line := by
    intro line hl
    obtain ⟨point, hp, rfl⟩ := List.mem_map.1 hl
    exact (hneat point hp).newline
  have hflat : (Packing.pack MAX_BATCH_BYTES endedLen [] (points.map write)).flatten = points.map write := by
    rw [Packing.flatten_pack, List.nil_append]
  have hread : readLines ((Packing.pack MAX_BATCH_BYTES endedLen [] (points.map write)).map join).flatten =
      points.map write := by
    rw [readLines_join (by rwa [hflat]), hflat]
  have hfit : ∀ line ∈ points.map write, endedLen line ≤ MAX_BATCH_BYTES := fun line hl =>
    Nat.le_trans (hshort line hl) (by decide)
  constructor
  case whole => exact ⟨_, rfl, by rwa [hflat], by rw [hread, hflat]⟩
  case lines => rw [hread, hlines]
  case records => rw [hread]
  case batches =>
    intro batch hb
    obtain ⟨group, hg, rfl⟩ := List.mem_map.1 hb
    refine ⟨fun he => Packing.ne_nil_of_mem_pack hfit hg ?_, ?_⟩
    · have := join_isEmpty group
      rw [he] at this
      exact List.isEmpty_iff.1 this.symm
    · rw [byteLen_join]
      exact Packing.total_le_of_mem_pack hfit (Nat.zero_le _) hg
  case points =>
    refine ⟨points, ?_, ?_, ?_, ?_⟩
    · rw [hread]
      have := mapM_map_some (l := points) (g := id) fun point hp => read_write (hneat point hp).plain
      rwa [List.map_id] at this
    · exact hpoints ▸ publicationPoints_pairwise wan ha
    · exact hpoints ▸ point_of_publication
    · intro shuffled hs
      exact readArchive_publicationPoints (hpoints ▸ hs)

/-! ## One publication -/

def sampleIdentity : Identity where
  text := "test".toList
  nonempty := by decide
  short := by decide
  chars := by
    have h : ("test".toList.all fun c => c.isAlphanum) = true := by decide
    intro c hc
    exact Or.inl (List.all_eq_true.1 h c hc)

def sampleActivity : Text :=
  "\x7b\"client_usage_by_app\":[".toList ++
    "\x7b\"client\":\x7b\"mac\":\"02:00:00:00:00:01\",\"name\":\"tv\"\x7d,".toList ++
    "\"usage_by_app\":[".toList ++
    "\x7b\"application\":1,\"category\":2,".toList ++
    "\"bytes_received\":10,\"bytes_transmitted\":20\x7d]\x7d],".toList ++
    "\"total_usage_by_app\":[".toList ++
    "\x7b\"application\":1,\"category\":2,".toList ++
    "\"bytes_received\":10,\"bytes_transmitted\":20\x7d]\x7d".toList

def sampleReport : ActivityReport :=
  ⟨[⟨"02:00:00:00:00:01".toList, some "tv".toList, [⟨1, 2, 10, 20⟩]⟩], [⟨1, 2, 10, 20⟩]⟩

/-- Activity and graph retrieved, the WAN report too large. -/
def sampleSnapshot : TrafficSnapshot :=
  ⟨3600000, 7200000, ⟨.collected, some sampleActivity, none⟩, ⟨.collected, some "[]".toList, none⟩,
    ⟨.failed, none, some (ApiError.responseTooLarge MAXIMUM_RESPONSE_BYTES).display⟩⟩

/-- The functions from crates, right on what the sample gives them. -/
def sampleCrates : Crates where
  reports := {
    activityReport := fun data => if data = sampleActivity then some sampleReport else none
    activityBuckets := fun data => data == "[]".toList
    wanReport := fun _ => none }
  sha256Hex := fun _ => "8ae410ca26af3a286cda82f85f46a014d68a8c14937735ce38abceace950e3af".toList
  f64Display := fun _ => "0".toList
  f64OfU64 := fun _ => ⟨0⟩
  f64Sub := fun _ _ => ⟨0⟩

theorem sampleCrates_lawful : sampleCrates.Lawful where
  digest_length := fun _ => rfl
  digest_chars := fun _ => List.all_eq_true.1 rfl
  display_chars := fun _ c hc => Or.inl (by rw [List.mem_singleton.1 hc]; rfl)
  display_length := fun _ => (by decide : 1 ≤ 2000)

theorem build_decodes_sample : ∃ p, build sampleCrates sampleIdentity sampleSnapshot = .ok p ∧ p.records = 3 ∧
    Decodes sampleCrates sampleIdentity sampleSnapshot p := by
  have hrecords : (build sampleCrates sampleIdentity sampleSnapshot).toOption.map Publication.records = some 3 := by
    decide +kernel
  cases hbuild : build sampleCrates sampleIdentity sampleSnapshot with
  | error error => simp [hbuild, Except.toOption] at hrecords
  | ok p =>
    rw [hbuild] at hrecords
    exact ⟨p, rfl, Option.some.inj hrecords, build_decodes sampleCrates_lawful hbuild⟩

end UnifiMcp.Collector
