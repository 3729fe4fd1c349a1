import Mathlib.Data.List.Pairwise
import UnifiMcp.Lib.Text
/-!
# Line protocol

A point is a measurement, tags, fields and a timestamp. `write` puts one on a line; `read` takes a
line apart at its first and its last space, and its key at the commas. Names and tag values are
plain: no space, comma or equals sign, so nothing is escaped in a key.

Two points are the same point of a series when measurement, tag set and timestamp agree; a store
keeps the fields of the last one written.

* `read_write` — a plain point reads back.
* `newline_not_mem_write` — no newline, if no part has one.
* `mem_ingest`, `mem_ingest_of_mem` — what a store holds after writes.
-/

namespace LineProtocol
open Text

structure Point where
  measurement : Text
  tags : List (Text × Text)
  fields : Text
  timestamp : Text
deriving DecidableEq

/-- The same measurement, tag set and timestamp. -/
def SamePoint (p q : Point) : Prop :=
  p.measurement = q.measurement ∧ p.tags.Perm q.tags ∧ p.timestamp = q.timestamp

instance (p q : Point) : Decidable (SamePoint p q) := by unfold SamePoint; infer_instance

theorem SamePoint.refl (p : Point) : SamePoint p p := ⟨rfl, .refl _, rfl⟩

theorem SamePoint.symm {p q : Point} (h : SamePoint p q) : SamePoint q p := ⟨h.1.symm, h.2.1.symm, h.2.2.symm⟩

/-- Among pairwise different points the same point is an equal one. -/
theorem eq_of_same {points : List Point} (hpoints : points.Pairwise fun a b => ¬SamePoint a b) {p q : Point} (hp : p ∈ points)
    (hq : q ∈ points) (h : SamePoint p q) : p = q := by
  have hsymm : Std.Symm fun a b : Point => ¬SamePoint a b := ⟨fun _ _ hab hba => hab hba.symm⟩
  by_contra hne
  exact hpoints.forall hp hq hne h

/-- The measurement and the tags. -/
def writeKey (measurement : Text) (tags : List (Text × Text)) : Text :=
  measurement ++ tags.flatMap fun tag => ',' :: tag.1 ++ '=' :: tag.2

def write (p : Point) : Text := writeKey p.measurement p.tags ++ ' ' :: p.fields ++ ' ' :: p.timestamp

/-! ## Reading -/

/-- The text before the first `c` and the text behind it. -/
def cut (c : Char) : Text → Option (Text × Text)
  | [] => none
  | d :: t => if d = c then some ([], t) else (cut c t).map fun (front, back) => (d :: front, back)

/-- The text before the last `c` and the text behind it. -/
def cutLast (c : Char) (t : Text) : Option (Text × Text) :=
  (cut c t.reverse).map fun (back, front) => (front.reverse, back.reverse)

def readTag (t : Text) : Option (Text × Text) := cut '=' t

def readKey (key : Text) : Option (Text × List (Text × Text)) :=
  match key.splitOn ',' with
  | [] => none
  | measurement :: tags => (tags.mapM readTag).map fun tags => (measurement, tags)

def read (line : Text) : Option Point :=
  (cut ' ' line).bind fun (key, rest) => (readKey key).bind fun (measurement, tags) =>
    (cutLast ' ' rest).map fun (fields, timestamp) => ⟨measurement, tags, fields, timestamp⟩

/-! ## The round trip -/

/-- A name or value that needs no escape. -/
def Plain (t : Text) : Prop := ' ' ∉ t ∧ ',' ∉ t ∧ '=' ∉ t

structure Point.Plain (p : Point) : Prop where
  measurement : LineProtocol.Plain p.measurement
  tags : ∀ tag ∈ p.tags, LineProtocol.Plain tag.1 ∧ LineProtocol.Plain tag.2
  timestamp : ' ' ∉ p.timestamp

theorem cut_append {c : Char} : ∀ {front : Text} {back : Text}, c ∉ front →
    cut c (front ++ c :: back) = some (front, back)
  | [], _, _ => by simp [cut]
  | d :: front, back, h => by
    have hd : d ≠ c := fun e => h (by simp [e])
    have hf : c ∉ front := fun e => h (by simp [e])
    rw [List.cons_append, cut, if_neg hd, cut_append hf]
    rfl

theorem cutLast_append {c : Char} {front back : Text} (h : c ∉ back) :
    cutLast c (front ++ c :: back) = some (front, back) := by
  have hr : (front ++ c :: back).reverse = back.reverse ++ c :: front.reverse := by simp
  rw [cutLast, hr, cut_append (by simpa using h)]
  simp

theorem writeKey_cons (measurement : Text) (tag : Text × Text) (tags : List (Text × Text)) :
    writeKey measurement (tag :: tags) = measurement ++ ',' :: writeKey (tag.1 ++ '=' :: tag.2) tags := by
  simp [writeKey]

/-- The parts of a key, by induction on the tags. -/
theorem splitOn_writeKey {measurement : Text} {tags : List (Text × Text)} (hm : ',' ∉ measurement)
    (ht : ∀ tag ∈ tags, ',' ∉ tag.1 ++ '=' :: tag.2) :
    (writeKey measurement tags).splitOn ',' = measurement :: tags.map fun tag => tag.1 ++ '=' :: tag.2 := by
  induction tags generalizing measurement with
  | nil =>
    rw [writeKey, List.flatMap_nil, List.append_nil, List.splitOn_eq_singleton hm]
    rfl
  | cons tag tags ih =>
    rw [writeKey_cons, List.splitOn_append_cons_self_of_not_mem hm,
      ih (ht tag (by simp)) fun x hx => ht x (by simp [hx])]
    rfl

theorem mapM_readTag {tags : List (Text × Text)} (h : ∀ tag ∈ tags, '=' ∉ tag.1) :
    (tags.map fun tag => tag.1 ++ '=' :: tag.2).mapM readTag = some tags := by
  induction tags with
  | nil => rfl
  | cons tag tags ih =>
    rw [List.map_cons, List.mapM_cons, ih fun x hx => h x (by simp [hx]), readTag, cut_append (h tag (by simp))]
    rfl

theorem readKey_writeKey {measurement : Text} {tags : List (Text × Text)} (hm : Plain measurement)
    (ht : ∀ tag ∈ tags, Plain tag.1 ∧ Plain tag.2) : readKey (writeKey measurement tags) = some (measurement, tags) := by
  have hcomma : ∀ tag ∈ tags, ',' ∉ tag.1 ++ '=' :: tag.2 := fun tag h => by
    simp [(ht tag h).1.2.1, (ht tag h).2.2.1]
  simp only [readKey, splitOn_writeKey hm.2.1 hcomma, mapM_readTag fun tag h => (ht tag h).1.2.2]
  rfl

theorem space_not_mem_writeKey {measurement : Text} {tags : List (Text × Text)} (hm : Plain measurement)
    (ht : ∀ tag ∈ tags, Plain tag.1 ∧ Plain tag.2) : ' ' ∉ writeKey measurement tags := by
  intro h
  rcases List.mem_append.1 h with h | h
  · exact hm.1 h
  · obtain ⟨tag, htag, h⟩ := List.mem_flatMap.1 h
    have := ht tag htag
    simp [this.1.1, this.2.1] at h

/-- **A plain point reads back.** -/
theorem read_write {p : Point} (h : p.Plain) : read (write p) = some p := by
  have hline : write p = writeKey p.measurement p.tags ++ ' ' :: (p.fields ++ ' ' :: p.timestamp) := by
    simp [write]
  rw [read, hline, cut_append (space_not_mem_writeKey h.measurement h.tags)]
  simp only [Option.bind_some, readKey_writeKey h.measurement h.tags, cutLast_append h.timestamp]
  rfl

/-- No newline, if no part has one. -/
theorem newline_not_mem_write {p : Point} (hm : '\n' ∉ p.measurement) (ht : ∀ tag ∈ p.tags, '\n' ∉ tag.1 ∧ '\n' ∉ tag.2)
    (hf : '\n' ∉ p.fields) (hs : '\n' ∉ p.timestamp) : '\n' ∉ write p := by
  have hkey : '\n' ∉ writeKey p.measurement p.tags := by
    intro h
    rcases List.mem_append.1 h with h | h
    · exact hm h
    · obtain ⟨tag, htag, h⟩ := List.mem_flatMap.1 h
      simp [ht tag htag] at h
  simp [write, hkey, hf, hs]

/-! ## A store -/

/-- A point replaces the one that is the same point. -/
def put (store : List Point) (p : Point) : List Point := p :: store.filter fun q => ¬SamePoint p q

/-- Lines written in order; one that does not read is dropped. -/
def ingest (store : List Point) : List Text → List Point
  | [] => store
  | line :: lines =>
    match read line with
    | none => ingest store lines
    | some p => ingest (put store p) lines

/-- No two points of a store are the same point. -/
def Distinct (store : List Point) : Prop := store.Pairwise fun p q => ¬SamePoint p q

theorem mem_put {store : List Point} {p q : Point} : q ∈ put store p ↔ q = p ∨ q ∈ store ∧ ¬SamePoint p q := by
  simp [put]

/-- What stays in a store while points are written that are the same point only if they are equal. -/
theorem mem_ingest_of_mem {q : Point} : ∀ {lines : List Text} {store : List Point}, q ∈ store →
    (∀ line ∈ lines, ∀ p, read line = some p → SamePoint p q → p = q) → q ∈ ingest store lines
  | [], _, hq, _ => hq
  | line :: lines, store, hq, h => by
    have hrest := fun l hl => h l (List.mem_cons_of_mem _ hl)
    rw [ingest]
    split
    · exact mem_ingest_of_mem hq hrest
    · rename_i p hp
      refine mem_ingest_of_mem (mem_put.2 ?_) hrest
      by_cases hsame : SamePoint p q
      · exact Or.inl (h line List.mem_cons_self p hp hsame).symm
      · exact Or.inr ⟨hq, hsame⟩

/-- A line just written is there. -/
theorem mem_ingest {p : Point} {line : Text} : ∀ {lines : List Text} {store : List Point}, line ∈ lines →
    read line = some p → (∀ l ∈ lines, ∀ q, read l = some q → SamePoint q p → q = p) → p ∈ ingest store lines
  | l :: lines, store, hl, hp, h => by
    have hrest := fun l' hl' => h l' (List.mem_cons_of_mem _ hl')
    rcases List.mem_cons.1 hl with rfl | hl
    · simp only [ingest, hp]
      exact mem_ingest_of_mem (mem_put.2 (Or.inl rfl)) hrest
    · rw [ingest]
      split
      · exact mem_ingest hl hp hrest
      · exact mem_ingest hl hp hrest

/-- What is in a store was there or was written. -/
theorem of_mem_ingest {q : Point} : ∀ {lines : List Text} {store : List Point}, q ∈ ingest store lines →
    q ∈ store ∨ ∃ line ∈ lines, read line = some q
  | [], _, h => Or.inl h
  | line :: lines, store, h => by
    rw [ingest] at h
    split at h
    · rcases of_mem_ingest h with h | ⟨l, hl, hq⟩
      · exact Or.inl h
      · exact Or.inr ⟨l, List.mem_cons_of_mem _ hl, hq⟩
    · rename_i p hp
      rcases of_mem_ingest h with h | ⟨l, hl, hq⟩
      · rcases mem_put.1 h with rfl | h
        · exact Or.inr ⟨line, List.mem_cons_self, hp⟩
        · exact Or.inl h.1
      · exact Or.inr ⟨l, List.mem_cons_of_mem _ hl, hq⟩

theorem Distinct.put {store : List Point} (h : Distinct store) (p : Point) : Distinct (put store p) := by
  refine List.pairwise_cons.2 ⟨fun q hq => ?_, h.sublist List.filter_sublist⟩
  simpa using (List.mem_filter.1 hq).2

/-- **Writing keeps a store free of doubles.** -/
theorem Distinct.ingest : ∀ {lines : List Text} {store : List Point}, Distinct store → Distinct (ingest store lines)
  | [], _, h => h
  | line :: lines, store, h => by
    rw [LineProtocol.ingest]
    split
    · exact Distinct.ingest h
    · exact Distinct.ingest (h.put _)

theorem Distinct.nodup {store : List Point} (h : Distinct store) : store.Nodup := by
  refine h.imp fun {p q} hne heq => hne ?_
  rw [heq]
  exact SamePoint.refl q

/-- A kind of points that a store has is one it goes on to have. -/
theorem exists_mem_ingest {K : Point → Prop} (hkind : ∀ p q, SamePoint p q → K q → K p) :
    ∀ {lines : List Text} {store : List Point}, (∃ q ∈ store, K q) → ∃ q ∈ ingest store lines, K q
  | [], _, h => h
  | line :: lines, store, h => by
    rw [LineProtocol.ingest]
    split
    · exact exists_mem_ingest hkind h
    · rename_i p _
      refine exists_mem_ingest hkind ?_
      obtain ⟨q, hq, hk⟩ := h
      by_cases hsame : SamePoint p q
      · exact ⟨p, mem_put.2 (Or.inl rfl), hkind p q hsame hk⟩
      · exact ⟨q, mem_put.2 (Or.inr ⟨hq, hsame⟩), hk⟩

end LineProtocol
