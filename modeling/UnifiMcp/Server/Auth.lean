import UnifiMcp.Lib.Machine
import UnifiMcp.Lib.Text
import Mathlib.Logic.Function.Basic
/-! # `IdentityVerifier::key`: JWKS fetches under concurrent verifications (unifi-server/src/auth.rs)

Any number of verifications run `key` on one verifier. A step of the machine is what one of them
does between two await points; a verification may be dropped at any of them. Times are in
milliseconds. The log records what the JWKS endpoint and the callers see, newest first.

* `undropped_fetches_apart` — in every run that drops no verification between the start of its
  fetch and the write of the attempt, fetches start at least the cooldown apart, one at a time, and
  every key used comes from a set fetched less than `cacheTtl` before.
* `dropped_fetch_refetches` — a verification dropped during its fetch leaves the cooldown unarmed. -/
namespace UnifiMcp.Auth

abbrev TaskId := Nat

/-- `JWKS_REFRESH_COOLDOWN`, 30 s. -/
def JWKS_REFRESH_COOLDOWN : Nat := 30000

def MAXIMUM_JWKS_BYTES : Nat := 64 * 1024

/-- A key of a set: its id and its material. -/
structure Jwk where
  kid : Option Text
  material : Text
deriving DecidableEq

abbrev JwkSet := List Jwk

/-- `JwkSet::find`: the first key with that id. -/
def JwkSet.find (set : JwkSet) (keyId : Text) : Option Jwk :=
  List.find? (fun jwk => jwk.kid == some keyId) set

inductive IdentityError where
  | invalid
  | keyUnavailable
  | unavailable
deriving DecidableEq

structure CachedKeys where
  keys : JwkSet
  expiresAt : Nat
deriving DecidableEq

/-- `CacheState` (auth.rs:130). -/
structure CacheState where
  keys : Option CachedKeys
  lastAttempt : Option Nat
deriving DecidableEq

inductive CacheLookup where
  | found (key : Jwk)
  | missInCooldown
  | refreshable
deriving DecidableEq

/-- `cached_lookup` (auth.rs:322). -/
def cachedLookup (cache : CacheState) (now : Nat) (keyId : Text) : CacheLookup :=
  match (cache.keys.filter fun cached => now < cached.expiresAt).bind fun cached => JwkSet.find cached.keys keyId with
  | some key => .found key
  | none =>
    match cache.lastAttempt with
    | some attempt => if now < attempt + JWKS_REFRESH_COOLDOWN then .missInCooldown else .refreshable
    | none => .refreshable

/-! ## `fetch_keys` -/

/-- What the endpoint answers: a transport failure, or a status and body chunks of which one may
fail (`none`). -/
inductive JwksAnswer where
  | failed
  | response (success : Bool) (chunks : List (Option Bytes))

/-- The `while let Some(chunk)` loop (auth.rs:350-359). -/
def readJwks : Bytes → List (Option Bytes) → Except IdentityError Bytes
  | body, [] => .ok body
  | _, none :: _ => .error .unavailable
  | body, some chunk :: chunks =>
    if MAXIMUM_JWKS_BYTES < body.length + chunk.length then .error .unavailable
    else readJwks (body ++ chunk) chunks

/-- `fetch_keys` (auth.rs:339); `parse` is `serde_json::from_slice::<JwkSet>`. -/
def fetchKeys (parse : Bytes → Option JwkSet) : JwksAnswer → Except IdentityError JwkSet
  | .failed => .error .unavailable
  | .response false _ => .error .unavailable
  | .response true chunks =>
    match readJwks [] chunks with
    | .error error => .error error
    | .ok body =>
      match parse body with
      | some set => .ok set
      | none => .error .unavailable

/-! ## The machine -/

/-- Where a call of `key` stands. -/
inductive Pc where
  | start
  /-- Waiting for the refresh mutex. -/
  | waiting
  /-- Holds the mutex, before its second lookup. -/
  | holding
  /-- Holds the mutex, its fetch is in flight. -/
  | fetching
  /-- Holds the mutex; the fetch returned at `now` and the cache lock is still to be taken. -/
  | storing (result : Except IdentityError JwkSet) (now : Nat)
  | done (result : Except IdentityError Jwk)
  | dropped

/-- What happened, with the time it happened at. -/
inductive Obs where
  | fetchStarted (at_ : Nat)
  | fetched (set : JwkSet) (at_ : Nat)
  | used (task : TaskId) (key : Jwk) (at_ : Nat)

structure Verifier where
  cache : CacheState
  /-- The holder of the refresh mutex. -/
  refresh : Option TaskId
  now : Nat
  tasks : TaskId → Pc
  log : List Obs

/-- One step: time passes, or task `i` goes on to its next await point. -/
inductive Event where
  | advance (ms : Nat)
  | lookup (i : TaskId)
  | acquire (i : TaskId)
  | relookup (i : TaskId)
  | fetched (i : TaskId) (answer : JwksAnswer)
  | store (i : TaskId)
  | drop (i : TaskId)

def Verifier.goto (s : Verifier) (i : TaskId) (pc : Pc) : Verifier :=
  { s with tasks := Function.update s.tasks i pc }

/-- `Ok(*key)`: the caller goes on to verify with `key`. -/
def Verifier.use (s : Verifier) (i : TaskId) (key : Jwk) : Verifier :=
  { s.goto i (.done (.ok key)) with log := .used i key s.now :: s.log }

/-- The second half of `key`, once the fetch returned (auth.rs:303-319). -/
def Verifier.storeKeys (ttl : Nat) (s : Verifier) (i : TaskId) (keyId : Text)
    (result : Except IdentityError JwkSet) (fetchedAt : Nat) : Verifier :=
  let cache : CacheState := { s.cache with lastAttempt := some fetchedAt }
  match result with
  | .error error => { s.goto i (.done (.error error)) with cache := cache, refresh := none }
  | .ok set =>
    let cache := { cache with keys := some ⟨set, fetchedAt + ttl⟩ }
    match JwkSet.find set keyId with
    | some key => { s.use i key with cache := cache, refresh := none }
    | none => { s.goto i (.done (.error .keyUnavailable)) with cache := cache, refresh := none }

section machine
variable (parse : Bytes → Option JwkSet) (ttl : Nat) (keyIds : TaskId → Text)

/-- `key` (auth.rs:289), cut at its await points. Task `i` asks for the key id `keyIds i`. -/
def step (s : Verifier) : Event → Option Verifier
  | .advance ms => some { s with now := s.now + ms }
  | .lookup i =>
    match s.tasks i with
    | .start =>
      match cachedLookup s.cache s.now (keyIds i) with
      | .found key => some (s.use i key)
      | .missInCooldown => some (s.goto i (.done (.error .keyUnavailable)))
      | .refreshable => some (s.goto i .waiting)
    | _ => none
  | .acquire i =>
    match s.tasks i, s.refresh with
    | .waiting, none => some { s.goto i .holding with refresh := some i }
    | _, _ => none
  | .relookup i =>
    match s.tasks i with
    | .holding =>
      match cachedLookup s.cache s.now (keyIds i) with
      | .found key => some { s.use i key with refresh := none }
      | .missInCooldown => some { s.goto i (.done (.error .keyUnavailable)) with refresh := none }
      | .refreshable => some { s.goto i .fetching with log := .fetchStarted s.now :: s.log }
    | _ => none
  | .fetched i answer =>
    match s.tasks i with
    | .fetching =>
      match fetchKeys parse answer with
      | .ok set => some { s.goto i (.storing (.ok set) s.now) with log := .fetched set s.now :: s.log }
      | .error error => some (s.goto i (.storing (.error error) s.now))
    | _ => none
  | .store i =>
    match s.tasks i with
    | .storing result fetchedAt => some (s.storeKeys ttl i (keyIds i) result fetchedAt)
    | _ => none
  | .drop i =>
    match s.tasks i with
    | .done _ => none
    | .dropped => none
    | _ => some { s.goto i .dropped with refresh := if s.refresh = some i then none else s.refresh }

/-- A new verifier and callers that have not begun. -/
def initial : Verifier := ⟨⟨none, none⟩, none, 0, fun _ => .start, []⟩

def verifier : Machine Verifier Event := ⟨initial, step parse ttl keyIds⟩

end machine

/-! ## What is asked of a state -/

/-- Start times of the fetches, newest first. -/
def starts (log : List Obs) : List Nat :=
  log.filterMap fun | .fetchStarted t => some t | _ => none

/-- The task holds the refresh mutex. -/
def Pc.Holds : Pc → Prop
  | .holding | .fetching | .storing _ _ => True
  | _ => False

/-- The task has started a fetch whose attempt is not yet recorded. -/
def Pc.InFetch : Pc → Prop
  | .fetching | .storing _ _ => True
  | _ => False

/-- Two fetches start at least the cooldown apart. -/
def FetchesApart (s : Verifier) : Prop :=
  (starts s.log).Pairwise fun newer older => older + JWKS_REFRESH_COOLDOWN ≤ newer

/-- One fetch at a time. -/
def OneFetch (s : Verifier) : Prop :=
  ∀ i j, s.tasks i = .fetching → s.tasks j = .fetching → i = j

/-- Every key used was found in a set fetched less than `ttl` before. -/
def KeysFresh (ttl : Nat) (keyIds : TaskId → Text) (s : Verifier) : Prop :=
  ∀ i key t, Obs.used i key t ∈ s.log →
    ∃ set f, Obs.fetched set f ∈ s.log ∧ JwkSet.find set (keyIds i) = some key ∧ f ≤ t ∧ t < f + ttl

/-- Every fetch that is over has armed the cooldown. -/
def CooldownArmed (s : Verifier) : Prop :=
  (∀ i, ¬ (s.tasks i).InFetch) → ∀ t ∈ starts s.log, ∃ attempt, s.cache.lastAttempt = some attempt ∧ t ≤ attempt

def Throttled (ttl : Nat) (keyIds : TaskId → Text) (s : Verifier) : Prop :=
  FetchesApart s ∧ OneFetch s ∧ KeysFresh ttl keyIds s ∧ CooldownArmed s

/-- The step drops no verification that has a fetch unrecorded, and the cache lock comes less than
`ttl` after a fetch whose key is used. -/
def Undropped (ttl : Nat) (keyIds : TaskId → Text) (s : Verifier) : Event → Prop
  | .drop i => ¬ (s.tasks i).InFetch
  | .store i => ∀ set fetchedAt, s.tasks i = .storing (.ok set) fetchedAt →
      (JwkSet.find set (keyIds i)).isSome → s.now < fetchedAt + ttl
  | _ => True

/-! ## The invariant -/

theorem cachedLookup_found {c : CacheState} {now : Nat} {keyId : Text} {key : Jwk}
    (h : cachedLookup c now keyId = .found key) :
    ∃ cached, c.keys = some cached ∧ now < cached.expiresAt ∧ JwkSet.find cached.keys keyId = some key := by
  unfold cachedLookup at h
  split at h
  · rename_i found hf
    cases h
    obtain ⟨cached, hc, hk⟩ := Option.bind_eq_some_iff.1 hf
    obtain ⟨hc, hlt⟩ := Option.filter_eq_some_iff.1 hc
    exact ⟨cached, hc, by simpa using hlt, hk⟩
  · split at h
    · split at h <;> cases h
    · cases h

theorem cachedLookup_refreshable {c : CacheState} {now : Nat} {keyId : Text}
    (h : cachedLookup c now keyId = .refreshable) {attempt : Nat} (ha : c.lastAttempt = some attempt) :
    attempt + JWKS_REFRESH_COOLDOWN ≤ now := by
  unfold cachedLookup at h
  split at h
  · cases h
  · rw [ha] at h
    by_cases hlt : now < attempt + JWKS_REFRESH_COOLDOWN
    · simp [hlt] at h
    · omega

theorem Pc.InFetch.holds {pc : Pc} (h : pc.InFetch) : pc.Holds := by
  cases pc <;> trivial

/-- What every state reached without a dropped fetch has. -/
structure Inv (ttl : Nat) (keyIds : TaskId → Text) (s : Verifier) : Prop where
  holder : ∀ i, (s.tasks i).Holds → s.refresh = some i
  started : ∀ t ∈ starts s.log, t ≤ s.now
  storing : ∀ i result t, s.tasks i = .storing result t → t ≤ s.now ∧ (∀ x ∈ starts s.log, x ≤ t) ∧
    ∀ set, result = .ok set → Obs.fetched set t ∈ s.log
  cached : ∀ c, s.cache.keys = some c → ∃ f, Obs.fetched c.keys f ∈ s.log ∧ c.expiresAt = f + ttl ∧ f ≤ s.now
  apart : FetchesApart s
  fresh : KeysFresh ttl keyIds s
  armed : CooldownArmed s

section
variable {parse : Bytes → Option JwkSet} {ttl : Nat} {keyIds : TaskId → Text} {s t : Verifier} {i : TaskId}

theorem inv_initial : Inv ttl keyIds initial where
  holder := fun _ h => h.elim
  started := fun _ h => by cases h
  storing := fun _ _ _ h => by cases h
  cached := fun _ h => by cases h
  apart := List.Pairwise.nil
  fresh := fun _ _ _ h => by cases h
  armed := fun _ _ h => by cases h

/-- The mutex: two holders are one. -/
theorem Inv.holder_unique (hi : Inv ttl keyIds s) {j : TaskId} (h : (s.tasks i).Holds) (h' : (s.tasks j).Holds) :
    i = j := by
  have := hi.holder i h
  rw [hi.holder j h'] at this
  exact (Option.some.inj this).symm

/-- Time passes. -/
theorem Inv.advance (hi : Inv ttl keyIds s) (ms : Nat) : Inv ttl keyIds { s with now := s.now + ms } where
  holder := hi.holder
  started := fun t ht => Nat.le_add_right_of_le (hi.started t ht)
  storing := fun i result t h => ⟨Nat.le_add_right_of_le (hi.storing i result t h).1, (hi.storing i result t h).2⟩
  cached := fun c hc => by
    obtain ⟨f, hf, he, hle⟩ := hi.cached c hc
    exact ⟨f, hf, he, Nat.le_add_right_of_le hle⟩
  apart := hi.apart
  fresh := hi.fresh
  armed := hi.armed

/-- A task with no unrecorded fetch moves to a place without the mutex, which it gives back if it
had it. -/
theorem Inv.leave (hi : Inv ttl keyIds s) {pc : Pc} {r : Option TaskId} (hold : ¬ (s.tasks i).InFetch)
    (hpc : ¬ pc.Holds) (hr : ∀ j, j ≠ i → (s.tasks j).Holds → r = some j) :
    Inv ttl keyIds { s.goto i pc with refresh := r } where
  holder := fun j h => by
    by_cases hj : j = i
    · subst hj; simp [Verifier.goto] at h; exact absurd h hpc
    · simp [Verifier.goto, hj] at h; exact hr j hj h
  started := hi.started
  storing := fun j result t h => by
    by_cases hj : j = i
    · subst hj; simp [Verifier.goto] at h; subst h; exact absurd trivial hpc
    · simp [Verifier.goto, hj] at h; exact hi.storing j result t h
  cached := hi.cached
  apart := hi.apart
  fresh := hi.fresh
  armed := fun h => hi.armed fun j => by
    by_cases hj : j = i
    · subst hj; exact hold
    · have := h j
      simpa [Verifier.goto, hj] using this

/-- A key of a fresh set is used. -/
theorem Inv.logUsed (hi : Inv ttl keyIds s) {key : Jwk} {set : JwkSet} {f : Nat}
    (hf : Obs.fetched set f ∈ s.log) (hk : JwkSet.find set (keyIds i) = some key) (hle : f ≤ s.now)
    (hlt : s.now < f + ttl) : Inv ttl keyIds { s with log := .used i key s.now :: s.log } where
  holder := hi.holder
  started := hi.started
  storing := fun j result t h => by
    obtain ⟨hn, hs, hm⟩ := hi.storing j result t h
    exact ⟨hn, hs, fun set h => List.mem_cons_of_mem _ (hm set h)⟩
  cached := fun c hc => by
    obtain ⟨f, hf, h⟩ := hi.cached c hc
    exact ⟨f, List.mem_cons_of_mem _ hf, h⟩
  apart := hi.apart
  fresh := fun j key' t h => by
    rcases List.mem_cons.1 h with he | h
    · cases he
      exact ⟨set, f, List.mem_cons_of_mem _ hf, hk, hle, hlt⟩
    · obtain ⟨set, f, hf, h⟩ := hi.fresh j key' t h
      exact ⟨set, f, List.mem_cons_of_mem _ hf, h⟩
  armed := hi.armed

/-- The cache only answers with keys of a fresh set. -/
theorem Inv.useCached (hi : Inv ttl keyIds s) {key : Jwk} (h : cachedLookup s.cache s.now (keyIds i) = .found key) :
    Inv ttl keyIds { s with log := .used i key s.now :: s.log } := by
  obtain ⟨cached, hc, hlt, hk⟩ := cachedLookup_found h
  obtain ⟨f, hf, he, hle⟩ := hi.cached cached hc
  exact hi.logUsed hf hk hle (by omega)

/-- The free mutex is taken. -/
theorem Inv.acquire (hi : Inv ttl keyIds s) (hpc : s.tasks i = .waiting) (hr : s.refresh = none) :
    Inv ttl keyIds { s.goto i .holding with refresh := some i } where
  holder := fun j h => by
    by_cases hj : j = i
    · rw [hj]
    · simp [Verifier.goto, hj] at h
      rw [hi.holder j h] at hr
      cases hr
  started := hi.started
  storing := fun j result t h => by
    by_cases hj : j = i
    · subst hj; simp [Verifier.goto] at h
    · simp [Verifier.goto, hj] at h; exact hi.storing j result t h
  cached := hi.cached
  apart := hi.apart
  fresh := hi.fresh
  armed := fun h => hi.armed fun j => by
    by_cases hj : j = i
    · rw [hj, hpc]; exact id
    · have := h j
      simpa [Verifier.goto, hj] using this

/-- A fetch starts: no other one is under way, so every earlier one has armed the cooldown, and
the second lookup found it elapsed. -/
theorem Inv.fetchStart (hi : Inv ttl keyIds s) (hpc : s.tasks i = .holding)
    (h : cachedLookup s.cache s.now (keyIds i) = .refreshable) :
    Inv ttl keyIds { s.goto i .fetching with log := .fetchStarted s.now :: s.log } := by
  have hquiet : ∀ j, ¬ (s.tasks j).InFetch := fun j hj => by
    have := hi.holder_unique (i := i) (by rw [hpc]; trivial) hj.holds
    rw [← this, hpc] at hj
    exact hj
  have hapart : ∀ x ∈ starts s.log, x + JWKS_REFRESH_COOLDOWN ≤ s.now := fun x hx => by
    obtain ⟨attempt, ha, hle⟩ := hi.armed hquiet x hx
    have := cachedLookup_refreshable h ha
    omega
  constructor
  case holder =>
    intro j hj
    by_cases hji : j = i
    · subst hji; exact hi.holder j (by rw [hpc]; trivial)
    · simp [Verifier.goto, hji] at hj; exact hi.holder j hj
  case started =>
    intro x hx
    rcases List.mem_cons.1 hx with rfl | hx
    · exact Nat.le_refl _
    · exact hi.started x hx
  case storing =>
    intro j result x hj
    by_cases hji : j = i
    · subst hji; simp [Verifier.goto] at hj
    · simp [Verifier.goto, hji] at hj
      exact absurd (by rw [hj]; trivial) (hquiet j)
  case cached =>
    intro c hc
    obtain ⟨f, hf, hle⟩ := hi.cached c hc
    exact ⟨f, List.mem_cons_of_mem _ hf, hle⟩
  case apart => exact List.Pairwise.cons hapart hi.apart
  case fresh =>
    intro j key x hx
    obtain ⟨set, f, hf, h⟩ := hi.fresh j key x (by simpa using hx)
    exact ⟨set, f, List.mem_cons_of_mem _ hf, h⟩
  case armed =>
    intro hno
    exact absurd (by simp [Verifier.goto]; trivial) (hno i)

/-- The fetch returns. -/
theorem Inv.fetched (hi : Inv ttl keyIds s) {result : Except IdentityError JwkSet} {log : List Obs}
    (hpc : s.tasks i = .fetching) (hstarts : starts log = starts s.log)
    (hused : ∀ j key x, Obs.used j key x ∈ log → Obs.used j key x ∈ s.log)
    (hsub : ∀ o ∈ s.log, o ∈ log) (hok : ∀ set, result = .ok set → Obs.fetched set s.now ∈ log) :
    Inv ttl keyIds { s.goto i (.storing result s.now) with log := log } where
  holder := fun j hj => by
    by_cases hji : j = i
    · subst hji; exact hi.holder j (by rw [hpc]; trivial)
    · simp [Verifier.goto, hji] at hj; exact hi.holder j hj
  started := fun x hx => hi.started x (hstarts ▸ hx)
  storing := fun j result' x hj => by
    by_cases hji : j = i
    · subst hji
      simp [Verifier.goto] at hj
      obtain ⟨rfl, rfl⟩ := hj
      exact ⟨Nat.le_refl _, fun y hy => hi.started y (hstarts ▸ hy), hok⟩
    · simp [Verifier.goto, hji] at hj
      obtain ⟨hn, hs, hm⟩ := hi.storing j result' x hj
      exact ⟨hn, fun y hy => hs y (hstarts ▸ hy), fun set h => hsub _ (hm set h)⟩
  cached := fun c hc => by
    obtain ⟨f, hf, hle⟩ := hi.cached c hc
    exact ⟨f, hsub _ hf, hle⟩
  apart := by
    show (starts log).Pairwise _
    rw [hstarts]
    exact hi.apart
  fresh := fun j key x hx => by
    obtain ⟨set, f, hf, h⟩ := hi.fresh j key x (hused j key x hx)
    exact ⟨set, f, hsub _ hf, h⟩
  armed := fun hno => absurd (by simp [Verifier.goto]; trivial) (hno i)

/-- The attempt is recorded and the mutex given back. -/
theorem Inv.stored (hi : Inv ttl keyIds s) {result : Except IdentityError JwkSet} {f : Nat}
    {outcome : Except IdentityError Jwk} {keys : Option CachedKeys} (hpc : s.tasks i = .storing result f)
    (hkeys : keys = s.cache.keys ∨ ∃ set, result = .ok set ∧ keys = some ⟨set, f + ttl⟩) :
    Inv ttl keyIds { s.goto i (.done outcome) with cache := ⟨keys, some f⟩, refresh := none } := by
  obtain ⟨hn, hs, hm⟩ := hi.storing i result f hpc
  have hother : ∀ j, j ≠ i → ¬ (s.tasks j).Holds := fun j hj h =>
    hj (hi.holder_unique h (by rw [hpc]; trivial))
  constructor
  case holder =>
    intro j hj
    by_cases hji : j = i
    · subst hji; simp [Verifier.goto, Pc.Holds] at hj
    · simp [Verifier.goto, hji] at hj; exact absurd hj (hother j hji)
  case started => exact hi.started
  case storing =>
    intro j result' x hj
    by_cases hji : j = i
    · subst hji; simp [Verifier.goto] at hj
    · simp [Verifier.goto, hji] at hj
      exact absurd (by rw [hj]; trivial) (hother j hji)
  case cached =>
    intro c hc
    rcases hkeys with rfl | ⟨set, rfl, rfl⟩
    · exact hi.cached c hc
    · cases hc
      exact ⟨f, hm set rfl, rfl, hn⟩
  case apart => exact hi.apart
  case fresh => exact hi.fresh
  case armed => exact fun _ x hx => ⟨f, rfl, hs x hx⟩

/-- **Every step but a dropped fetch keeps the invariant.** -/
theorem Inv.step {e : Event} (hi : Inv ttl keyIds s) (hc : Undropped ttl keyIds s e)
    (hs : Auth.step parse ttl keyIds s e = some t) : Inv ttl keyIds t := by
  cases e with
  | advance ms => cases hs; exact hi.advance ms
  | lookup i =>
    cases hpc : s.tasks i <;> simp only [Auth.step, hpc, reduceCtorEq] at hs
    have hquiet : ¬ (s.tasks i).InFetch := by rw [hpc]; exact id
    have hleave : ∀ (s' : Verifier) {pc : Pc}, s'.tasks = s.tasks → s'.refresh = s.refresh → Inv ttl keyIds s' →
        ¬ pc.Holds → Inv ttl keyIds (s'.goto i pc) := fun s' {pc} ht hr hi' hp =>
      hi'.leave (i := i) (r := s'.refresh) (ht ▸ hquiet) hp fun j _ hj => hr ▸ hi.holder j (ht ▸ hj)
    cases hl : cachedLookup s.cache s.now (keyIds i) with
    | found key =>
      rw [hl] at hs
      cases hs
      exact hleave { s with log := .used i key s.now :: s.log } rfl rfl (hi.useCached hl) id
    | missInCooldown => rw [hl] at hs; cases hs; exact hleave s rfl rfl hi id
    | refreshable => rw [hl] at hs; cases hs; exact hleave s rfl rfl hi id
  | acquire i =>
    cases hpc : s.tasks i <;> cases hr : s.refresh <;> simp only [Auth.step, hpc, hr, reduceCtorEq] at hs
    cases hs
    exact hi.acquire hpc hr
  | relookup i =>
    cases hpc : s.tasks i <;> simp only [Auth.step, hpc, reduceCtorEq] at hs
    have hquiet : ¬ (s.tasks i).InFetch := by rw [hpc]; exact id
    have hfree : ∀ j, j ≠ i → (s.tasks j).Holds → none = some j := fun j hj h =>
      absurd (hi.holder_unique h (by rw [hpc]; trivial)) hj
    cases hl : cachedLookup s.cache s.now (keyIds i) with
    | found key => rw [hl] at hs; cases hs; exact (hi.useCached hl).leave hquiet id hfree
    | missInCooldown => rw [hl] at hs; cases hs; exact hi.leave hquiet id hfree
    | refreshable => rw [hl] at hs; cases hs; exact hi.fetchStart hpc hl
  | fetched i answer =>
    cases hpc : s.tasks i <;> simp only [Auth.step, hpc, reduceCtorEq] at hs
    cases hf : fetchKeys parse answer with
    | ok set =>
      rw [hf] at hs
      cases hs
      exact hi.fetched hpc rfl (fun j key x hx => by simpa using hx) (fun o ho => List.mem_cons_of_mem _ ho)
        fun set' h => by cases h; exact List.mem_cons_self
    | error error =>
      rw [hf] at hs
      cases hs
      exact hi.fetched hpc rfl (fun _ _ _ hx => hx) (fun _ ho => ho) fun set' h => by cases h
  | store i =>
    cases hpc : s.tasks i <;> simp only [Auth.step, hpc, reduceCtorEq] at hs
    rename_i result f
    cases hs
    cases result with
    | error error => exact hi.stored hpc (Or.inl rfl)
    | ok set =>
      simp only [Verifier.storeKeys]
      cases hk : JwkSet.find set (keyIds i) with
      | none => exact hi.stored hpc (Or.inr ⟨set, rfl, rfl⟩)
      | some key =>
        obtain ⟨hn, -, hm⟩ := hi.storing i _ f hpc
        have hlt := hc set f hpc (by rw [hk]; rfl)
        exact (hi.logUsed (hm set rfl) hk hn hlt).stored (i := i) hpc (Or.inr ⟨set, rfl, rfl⟩)
  | drop i =>
    have hleave : Inv ttl keyIds { s.goto i .dropped with refresh := if s.refresh = some i then none else s.refresh } := by
      refine hi.leave hc id fun j hj h => ?_
      rw [hi.holder j h, if_neg (by simpa using hj)]
    cases hpc : s.tasks i <;> simp only [Auth.step, hpc, reduceCtorEq] at hs <;> cases hs <;> exact hleave

/-- Two unrecorded fetches belong to one task. -/
theorem Inv.throttled (hi : Inv ttl keyIds s) : Throttled ttl keyIds s :=
  ⟨hi.apart, fun _ _ h h' => hi.holder_unique (by rw [h]; trivial) (by rw [h']; trivial), hi.fresh, hi.armed⟩

end

/-- **Fetches are throttled in every run that drops no unrecorded fetch.** However verifications
interleave, are dropped elsewhere, and whatever the endpoint answers: fetches start at least the
cooldown apart, one at a time, a key is used only from a set fetched less than `ttl` before, and
every fetch that is over has armed the cooldown. -/
theorem undropped_fetches_apart (parse : Bytes → Option JwkSet) (ttl : Nat) (keyIds : TaskId → Text)
    (es : List Event) (s : Verifier) (hrun : (verifier parse ttl keyIds).Reaches es s)
    (hc : (verifier parse ttl keyIds).Along (Undropped ttl keyIds) initial es) : Throttled ttl keyIds s :=
  ((verifier parse ttl keyIds).run_invariant_along inv_initial (fun _ _ _ hi hc hs => hi.step hc hs) hc hrun).throttled

/-! ## A dropped fetch -/

def sampleKey : Jwk := ⟨some "k1".toList, "material".toList⟩

/-- An endpoint that serves the one key. -/
def sampleParse : Bytes → Option JwkSet := fun _ => some [sampleKey]

def sampleKeyIds : TaskId → Text := fun _ => "k1".toList

/-- Two callers, of which the second is dropped while it waits. -/
def undroppedRun : List Event :=
  [.lookup 0, .lookup 1, .acquire 0, .relookup 0, .drop 1, .advance 500, .fetched 0 (.response true []), .store 0,
    .lookup 2]

theorem undropped_fetches_apart_sample : ∃ s, (verifier sampleParse 60000 sampleKeyIds).Reaches undroppedRun s ∧
    s.log = [.used 2 sampleKey 500, .used 0 sampleKey 500, .fetched [sampleKey] 500, .fetchStarted 0] ∧
    Throttled 60000 sampleKeyIds s := by
  refine ⟨_, rfl, rfl, undropped_fetches_apart sampleParse 60000 sampleKeyIds undroppedRun _ rfl ?_⟩
  simp [Machine.Along, undroppedRun, verifier, Undropped, Auth.step, initial, cachedLookup, Verifier.goto,
    Pc.InFetch, fetchKeys, readJwks, sampleParse]

/-- The client goes away while its fetch is in flight, and the next verification begins at once. -/
def droppedRun : List Event :=
  [.lookup 0, .acquire 0, .relookup 0, .drop 0, .lookup 1, .acquire 1, .relookup 1]

/-- **A dropped fetch leaves the cooldown unarmed.** Two fetches start at the same instant. -/
theorem dropped_fetch_refetches : ∃ s, (verifier sampleParse 60000 sampleKeyIds).Reaches droppedRun s ∧
    starts s.log = [0, 0] ∧ ¬ FetchesApart s := by
  refine ⟨_, rfl, rfl, fun h => ?_⟩
  have := List.pairwise_cons.1 (show List.Pairwise _ [0, 0] from h)
  exact absurd (this.1 0 (by simp)) (by decide)

end UnifiMcp.Auth
