import UnifiMcp.Api.Error
import UnifiMcp.Lib.Percent
/-! # `http::build_url`: identifiers as path segments (unifi-api/src/http.rs)

The guard of `build_url` reads the raw segment; the url crate strips tab, LF and CR from it
before it applies the path rules. `PathPush` is that crate's `PathSegmentsMut::push`, with the
rules it documents as `Lawful`; `urlPush` is one that obeys them.

* `buildUrl_addresses_iff` — the accepted path is the base path and one segment per input
  exactly when no input carries a tab, LF or CR (or some input is rejected).
* `buildUrl_strips` — an identifier `.⇥.` climbs out of its collection. -/
namespace UnifiMcp
open Text

/-- A parsed URL as far as its path and query go: `path` holds the encoded segments, and is empty
for a bare `/`. -/
structure Url where
  cannotBeABase : Bool
  path : List Text
  query : List (Text × Text)
deriving DecidableEq

/-- ASCII tab, LF and CR, which the URL parser discards. -/
def isStripped (c : Char) : Bool := c == '\t' || c == '\n' || c == '\r'

def strip (s : Text) : Text := s.filter fun c => !isStripped c

/-- What a path segment decodes to. -/
def segmentText (s : Text) : Option Text := fromUtf8 (Percent.decode s)

/-- `PathSegmentsMut::push`, with the characters it leaves unencoded. -/
structure PathPush where
  keep : Char → Bool
  push : List Text → Text → List Text

/-- The WHATWG path-segment rules. A dot segment adds nothing of its own: it may leave an empty
last segment, and `..` first removes one. -/
structure PathPush.Lawful (p : PathPush) : Prop where
  separators : ∀ c ∈ "/?#%".toList, p.keep c = false
  plain : ∀ path s, strip s ≠ [] → strip s ≠ ['.'] → strip s ≠ ['.', '.'] →
    p.push path s = path ++ [Percent.encode p.keep (strip s)]
  empty : ∀ path s, strip s = [] ∨ strip s = ['.'] →
    p.push path s = path ∨ p.push path s = path ++ [[]]
  parent : ∀ path s, strip s = ['.', '.'] →
    p.push path s = path.dropLast ∨ p.push path s = path.dropLast ++ [[]]

/-- `pop_if_empty`. -/
def popIfEmpty (path : List Text) : List Text :=
  if path.getLast? = some [] then path.dropLast else path

/-- The segments `build_url` refuses (http.rs:57). -/
def refused (segment : Text) : Bool := segment.isEmpty || segment == ['.'] || segment == ['.', '.']

/-- `format!("invalid path segment {segment:?}")`; a refused segment has nothing to escape. -/
def segmentError (segment : Text) : ApiError :=
  .config ("invalid path segment \"".toList ++ segment ++ "\"".toList)

/-- The `for segment in segments` loop (http.rs:56-63). -/
def pushSegments (p : PathPush) : List Text → List Text → Except ApiError (List Text)
  | path, [] => .ok path
  | path, segment :: segments =>
    if refused segment then .error (segmentError segment)
    else pushSegments p (p.push path segment) segments

/-- `build_url` (http.rs:46). -/
def buildUrl (p : PathPush) (base : Url) (segments : List Text) (query : List (Text × Text)) :
    Except ApiError Url :=
  if base.cannotBeABase then .error (.config "base URL cannot carry API paths".toList)
  else match pushSegments p (popIfEmpty base.path) segments with
    | .error error => .error error
    | .ok path => .ok { base with path := path, query := base.query ++ query }

/-- The result addresses what was asked: the base path and then one segment per input, in order,
each decoding to its input; a refusal is a `Config` error. -/
def Addresses (base : Url) (segments : List Text) : Except ApiError Url → Prop
  | .ok url => ∃ added, url.path = popIfEmpty base.path ++ added ∧
      added.map segmentText = segments.map some
  | .error error => ∃ detail, error = .config detail

/-- No character of the segment is discarded by the URL parser. -/
def Unstripped (s : Text) : Prop := ∀ c ∈ s, isStripped c = false

theorem strip_eq_self {s : Text} (h : Unstripped s) : strip s = s :=
  List.filter_eq_self.2 fun c hc => by simp [h c hc]

theorem unstripped_strip (s : Text) : Unstripped (strip s) := by
  intro c hc
  simpa using (List.mem_filter.1 hc).2

section
variable {p : PathPush} {path : List Text} {segments : List Text}

theorem segmentText_encode (hp : p.Lawful) (t : Text) : segmentText (Percent.encode p.keep t) = some t := by
  rw [segmentText, Percent.decode_encode (hp.separators '%' (by decide)), fromUtf8_utf8]

theorem segmentText_nil : segmentText [] = some [] := fromUtf8_utf8 []

/-- An unstripped, unrefused segment becomes one segment that decodes to it. -/
theorem push_unstripped (hp : p.Lawful) {s : Text} (hs : Unstripped s) (hr : refused s = false) :
    p.push path s = path ++ [Percent.encode p.keep s] := by
  simp only [refused, Bool.or_eq_false_iff, List.isEmpty_eq_false_iff, beq_eq_false_iff_ne] at hr
  have := hp.plain path s
  rw [strip_eq_self hs] at this
  exact this hr.1.1 hr.1.2 hr.2

theorem pushSegments_unstripped (hp : p.Lawful) (hs : ∀ s ∈ segments, Unstripped s)
    (hr : ∀ s ∈ segments, refused s = false) :
    pushSegments p path segments = .ok (path ++ segments.map (Percent.encode p.keep)) := by
  induction segments generalizing path with
  | nil => simp [pushSegments]
  | cons s segments ih =>
    rw [pushSegments, hr s (by simp), if_neg (by simp), push_unstripped hp (hs s (by simp)) (hr s (by simp)),
      ih (fun x hx => hs x (by simp [hx])) fun x hx => hr x (by simp [hx])]
    simp

/-- Every refusal of the loop is a `Config` error. -/
theorem pushSegments_error {error : ApiError} (h : pushSegments p path segments = .error error) :
    ∃ detail, error = .config detail := by
  induction segments generalizing path with
  | nil => cases h
  | cons s segments ih =>
    rw [pushSegments] at h
    split at h
    · cases h
      exact ⟨_, rfl⟩
    · exact ih h

/-- The loop accepts exactly the lists without a refused segment. -/
theorem pushSegments_ok_iff : (∃ out, pushSegments p path segments = .ok out) ↔
    ∀ s ∈ segments, refused s = false := by
  induction segments generalizing path with
  | nil => simp [pushSegments]
  | cons s segments ih =>
    rw [pushSegments]
    cases hr : refused s with
    | true => simp [hr]
    | false => simp [hr, ih]

/-- `build_url` fails with nothing but `Config`. -/
theorem buildUrl_error {base : Url} {query : List (Text × Text)} {error : ApiError}
    (h : buildUrl p base segments query = .error error) : ∃ detail, error = .config detail := by
  unfold buildUrl at h
  split at h
  · cases h
    exact ⟨_, rfl⟩
  · split at h
    · rename_i hpush
      cases h
      exact pushSegments_error hpush
    · cases h

/-! ### What any push can leave behind -/

/-- A segment that decodes to a text without stripped characters. -/
def Decodes (t : Text) : Prop := ∃ x, Unstripped x ∧ segmentText t = some x

/-- `out` is the base path cut short somewhere, and then at most `n` segments that decode to
unstripped texts. -/
def Grown (path : List Text) (n : Nat) (out : List Text) : Prop :=
  ∃ k tail, out = path.take k ++ tail ∧ tail.length ≤ n ∧ ∀ t ∈ tail, Decodes t

theorem Grown.concat {n : Nat} {out : List Text} {t : Text} (h : Grown path n out) (ht : Decodes t) :
    Grown path (n + 1) (out ++ [t]) := by
  obtain ⟨k, tail, rfl, hlen, hall⟩ := h
  refine ⟨k, tail ++ [t], by simp, by simp; omega, fun x hx => ?_⟩
  rcases List.mem_append.1 hx with hx | hx
  · exact hall x hx
  · exact List.mem_singleton.1 hx ▸ ht

theorem Grown.dropLast {n : Nat} {out : List Text} (h : Grown path n out) : Grown path n out.dropLast := by
  obtain ⟨k, tail, rfl, hlen, hall⟩ := h
  rcases List.eq_nil_or_concat tail with rfl | ⟨tail, t, rfl⟩
  · rw [List.append_nil, List.dropLast_eq_take, List.take_take]
    exact ⟨_, [], (List.append_nil _).symm, by simp, by simp⟩
  · refine ⟨k, tail, by simp, by simp at hlen; omega, fun x hx => hall x (by simp [hx])⟩

theorem Grown.mono {m n : Nat} {out : List Text} (h : Grown path m out) (hmn : m ≤ n) : Grown path n out := by
  obtain ⟨k, tail, he, hlen, hall⟩ := h
  exact ⟨k, tail, he, by omega, hall⟩

theorem decodes_nil : Decodes [] := ⟨[], by simp [Unstripped], segmentText_nil⟩

theorem Grown.push (hp : p.Lawful) {n : Nat} {out : List Text} (h : Grown path n out) (s : Text) :
    Grown path (n + 1) (p.push out s) := by
  by_cases h2 : strip s = ['.', '.']
  · rcases hp.parent out s h2 with he | he <;> rw [he]
    · exact h.dropLast.mono (by omega)
    · exact h.dropLast.concat decodes_nil
  by_cases h1 : strip s = [] ∨ strip s = ['.']
  · rcases hp.empty out s h1 with he | he <;> rw [he]
    · exact h.mono (by omega)
    · exact h.concat decodes_nil
  · rw [hp.plain out s (fun e => h1 (Or.inl e)) (fun e => h1 (Or.inr e)) h2]
    exact h.concat ⟨strip s, unstripped_strip s, segmentText_encode hp _⟩

theorem Grown.pushSegments (hp : p.Lawful) {n : Nat} {out res : List Text} (h : Grown path n out)
    (hok : pushSegments p out segments = .ok res) : Grown path (n + segments.length) res := by
  induction segments generalizing out n with
  | nil => cases hok; exact h
  | cons s segments ih =>
    rw [UnifiMcp.pushSegments] at hok
    split at hok
    · cases hok
    · exact (ih (h.push hp s) hok).mono (by simp; omega)

/-- The added part of a path with one segment per input lies in what the pushes wrote. -/
theorem Grown.decodes_added {added : List Text} {n : Nat} (h : Grown path n (path ++ added))
    (hn : added.length = n) : ∀ t ∈ added, Decodes t := by
  obtain ⟨k, tail, he, hlen, hall⟩ := h
  -- both sides have the same length, so the cut takes the whole base
  have hl := congrArg List.length he
  rw [List.length_append, List.length_append, List.length_take] at hl
  have hk : path.take k = path := List.take_of_length_le (by omega)
  rw [hk] at he
  rw [List.append_cancel_left he]
  exact hall

end

/-- **Exactly when `build_url` addresses what it was asked.** The path is the base path followed
by one segment per input, each decoding to that input, if and only if no input carries a
character the URL parser discards; a list with an empty or dot segment, and a base that carries
no path, are refused with a `Config` error. -/
theorem buildUrl_addresses_iff (p : PathPush) (hp : p.Lawful) (base : Url) (segments : List Text)
    (query : List (Text × Text)) :
    Addresses base segments (buildUrl p base segments query) ↔
      base.cannotBeABase = true ∨ (∃ s ∈ segments, refused s = true) ∨ ∀ s ∈ segments, Unstripped s := by
  unfold buildUrl
  cases hb : base.cannotBeABase with
  | true => simp [Addresses]
  | false =>
    simp only [Bool.false_eq_true, if_false, false_or]
    by_cases hr : ∀ s ∈ segments, refused s = false
    · obtain ⟨out, hout⟩ : ∃ out, pushSegments p (popIfEmpty base.path) segments = .ok out := pushSegments_ok_iff.2 hr
      rw [hout]
      constructor
      · rintro ⟨added, hpath, hdec⟩
        refine Or.inr fun s hs => ?_
        simp only at hpath
        have hlen : added.length = segments.length := by simpa using congrArg List.length hdec
        have hg : Grown (popIfEmpty base.path) segments.length out := by
          have h0 : Grown (popIfEmpty base.path) 0 (popIfEmpty base.path) :=
            ⟨(popIfEmpty base.path).length, [], by simp, by simp, by simp⟩
          simpa using h0.pushSegments hp hout
        rw [hpath] at hg
        have hmem : some s ∈ added.map segmentText := by rw [hdec]; exact List.mem_map_of_mem hs
        obtain ⟨t, ht, hts⟩ := List.mem_map.1 hmem
        obtain ⟨x, hx, htx⟩ := hg.decodes_added hlen t ht
        rw [hts] at htx
        cases htx
        exact hx
      · rintro (⟨s, hs, hrs⟩ | hs)
        · rw [hr s hs] at hrs; cases hrs
        · rw [pushSegments_unstripped hp hs hr] at hout
          cases hout
          refine ⟨_, rfl, ?_⟩
          rw [List.map_map]
          exact List.map_congr_left fun s _ => segmentText_encode hp s
    · have hex : ∃ s ∈ segments, refused s = true := by simpa using hr
      cases hres : pushSegments p (popIfEmpty base.path) segments with
      | ok out => exact absurd (pushSegments_ok_iff.1 ⟨out, hres⟩) hr
      | error error => exact ⟨fun _ => Or.inl hex, fun _ => pushSegments_error hres⟩

/-! ## A push that obeys the rules -/

/-- The printable ASCII characters that the url crate (2.5.8) keeps in a path segment: those outside its
`SPECIAL_PATH_SEGMENT`. -/
def pathSegmentKeep (c : Char) : Bool :=
  '!' ≤ c && c ≤ '~' && !("\"#<>?`{}/%\\".toList.contains c)

/-- The path-segment rules as the url crate applies them to a path that already ends somewhere:
a dot segment leaves an empty last segment, except at the root. -/
def urlPush : PathPush where
  keep := pathSegmentKeep
  push := fun path s =>
    let t := strip s
    let closed (path : List Text) : List Text := if path.isEmpty then path else path ++ [[]]
    if t = [] ∨ t = ['.'] then closed path
    else if t = ['.', '.'] then closed path.dropLast
    else path ++ [Percent.encode pathSegmentKeep t]

theorem urlPush_lawful : urlPush.Lawful where
  separators := by
    have h : ("/?#%".toList.all fun c => !pathSegmentKeep c) = true := by decide
    simpa [urlPush] using h
  plain := fun path s h0 h1 h2 => by simp [urlPush, h0, h1, h2]
  empty := fun path s h => by
    simp only [urlPush, h, if_true]
    split
    · exact Or.inl rfl
    · exact Or.inr rfl
  parent := fun path s h => by
    simp only [urlPush, h]
    simp only [reduceCtorEq, List.cons.injEq, and_false, or_self, if_false, if_true]
    split
    · exact Or.inl rfl
    · exact Or.inr rfl

/-- The console origin, whose path is a bare `/`. -/
def console : Url := ⟨false, [], []⟩

/-- The route of one stored record, as `delete_legacy_configuration` and its siblings build it. -/
def recordRoute (id : Text) : List Text :=
  ["api", "s", "default", "rest", "networkconf"].map String.toList ++ [id]

theorem buildUrl_addresses_record :
    Addresses console (recordRoute "a/../b%2e".toList) (buildUrl urlPush console (recordRoute "a/../b%2e".toList) []) := by
  refine (buildUrl_addresses_iff urlPush urlPush_lawful console _ []).2 (Or.inr (Or.inr ?_))
  have h : ((recordRoute "a/../b%2e".toList).all fun s => s.all fun c => !isStripped c) = true := by decide
  simpa [Unstripped] using h

/-- **The stripped identifier.** The identifier `.⇥.` passes the guard and the request goes to the
parent of its collection. -/
theorem buildUrl_strips :
    buildUrl urlPush console (recordRoute ".\t.".toList) [] =
        .ok ⟨false, ["api", "s", "default", "rest", ""].map String.toList, []⟩ ∧
      ¬ Addresses console (recordRoute ".\t.".toList) (buildUrl urlPush console (recordRoute ".\t.".toList) []) := by
  have hurl : buildUrl urlPush console (recordRoute ".\t.".toList) [] =
      .ok ⟨false, ["api", "s", "default", "rest", ""].map String.toList, []⟩ := by decide
  refine ⟨hurl, fun h => ?_⟩
  rw [hurl] at h
  obtain ⟨added, hpath, hdec⟩ := h
  -- six inputs, five segments
  have hlen : added.length = 6 := by simpa [recordRoute] using congrArg List.length hdec
  have := congrArg List.length hpath
  rw [List.length_append, hlen] at this
  simp at this

end UnifiMcp
