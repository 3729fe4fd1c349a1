import UnifiMcp.Lib.Lines
/-! # The bounded stdio transport (unifi-server/src/portable.rs)

`receive` collects the bytes of a line in `pending` and parses it when its newline arrives. Its only
await is `fill_buf`, where a caller may drop the call and make it again.

* `turn_spec` — what one pass of the loop does with the bytes still to be read.
* `bounded_stdio_delivers` — **the messages do not depend on how the stream is cut or when calls are
  dropped**, no byte is lost, and `pending` stays within the limit. -/
namespace UnifiMcp
open Text

/-- What a poll of the inner reader gives. -/
inductive Poll where
  | pending
  /-- Bytes; none at the end of the input. -/
  | ready (bytes : Bytes)
  | failed

/-- `tokio::io::BufReader`: the bytes read and not consumed, and what further polls give. After the
last poll the input is at its end. -/
structure BufReader where
  buffer : Bytes
  source : List Poll

/-- The transport (portable.rs:233); its writer has no part in receiving. -/
structure BoundedStdio where
  reader : BufReader
  pending : Bytes

/-- How one pass of the loop ends. -/
inductive Turn (α : Type) where
  /-- `fill_buf` waits. -/
  | waiting
  /-- The loop goes on. -/
  | again
  | message (message : α)
  | closed

namespace BufReader

/-- `fill_buf`, polled once. -/
def fillBuf (reader : BufReader) : Poll × BufReader :=
  if reader.buffer ≠ [] then (.ready reader.buffer, reader)
  else match reader.source with
    | [] => (.ready [], reader)
    | .pending :: source => (.pending, ⟨[], source⟩)
    | .ready bytes :: source => (.ready bytes, ⟨bytes, source⟩)
    | .failed :: source => (.failed, ⟨[], source⟩)

def consume (reader : BufReader) (count : Nat) : BufReader := ⟨reader.buffer.drop count, reader.source⟩

/-- The bytes of the polls, up to the end of the input or a failure. -/
def stream : List Poll → Bytes
  | [] => []
  | .pending :: source => stream source
  | .ready bytes :: source => if bytes = [] then [] else bytes ++ stream source
  | .failed :: _ => []

/-- All bytes still to be consumed. -/
def bytes (reader : BufReader) : Bytes := reader.buffer ++ stream reader.source

/-- How many polls can still change the reader. -/
def fuel (reader : BufReader) : Nat := reader.source.length + if reader.buffer = [] then 0 else 1

/-- What a poll of `fill_buf` does: it waits, or what it gives is in the buffer. -/
theorem fillBuf_spec (reader : BufReader) :
    (reader.fillBuf.1 = .pending ∧ reader.fillBuf.2.bytes = reader.bytes ∧ reader.fillBuf.2.fuel < reader.fuel) ∨
      (reader.fillBuf.1 = .failed ∧ reader.bytes = []) ∨
      (reader.fillBuf.1 = .ready [] ∧ reader.bytes = []) ∨
      (reader.fillBuf.1 = .ready reader.fillBuf.2.buffer ∧ reader.fillBuf.2.buffer ≠ [] ∧
        reader.fillBuf.2.bytes = reader.bytes ∧ reader.fillBuf.2.fuel ≤ reader.fuel) := by
  obtain ⟨buffer, source⟩ := reader
  by_cases hbuffer : buffer = []
  · subst hbuffer
    match source with
    | [] => exact Or.inr (Or.inr (Or.inl ⟨rfl, rfl⟩))
    | .pending :: source => exact Or.inl ⟨rfl, rfl, Nat.lt_succ_self _⟩
    | .failed :: source => exact Or.inr (Or.inl ⟨rfl, rfl⟩)
    | .ready bytes :: source =>
      by_cases hbytes : bytes = []
      · subst hbytes
        exact Or.inr (Or.inr (Or.inl ⟨rfl, rfl⟩))
      · refine Or.inr (Or.inr (Or.inr ⟨rfl, hbytes, ?_, ?_⟩))
        · show bytes ++ stream source = [] ++ stream (.ready bytes :: source)
          rw [stream, if_neg hbytes, List.nil_append]
        · show source.length + (if bytes = [] then 0 else 1) ≤ _
          rw [if_neg hbytes]
          exact Nat.le_refl _
  · have hfill : fillBuf ⟨buffer, source⟩ = (.ready buffer, ⟨buffer, source⟩) := if_pos hbuffer
    rw [hfill]
    exact Or.inr (Or.inr (Or.inr ⟨rfl, hbuffer, rfl, Nat.le_refl _⟩))

end BufReader

/-- Up to and including the first newline, or all that is there. -/
def lineCount (available : Bytes) : Nat :=
  match available.findIdx? (· = newline) with
  | some index => index + 1
  | none => available.length

namespace BoundedStdio

variable {α : Type} (parse : Bytes → Option α) (limit : Nat)

/-- The rest of the loop body, once `fill_buf` has given `available`. -/
def collect (t : BoundedStdio) (available : Bytes) : Turn α × BoundedStdio :=
  if limit < t.pending.length + lineCount available then (.closed, t)
  else
    let pending := t.pending ++ available.take (lineCount available)
    let reader := t.reader.consume (lineCount available)
    if (available.findIdx? (· = newline)).isSome then
      match parse pending with
      | some message => (.message message, ⟨reader, []⟩)
      | none => (.closed, ⟨reader, []⟩)
    else (.again, ⟨reader, pending⟩)

/-- One pass of the loop of `receive` (portable.rs:262). -/
def turn (t : BoundedStdio) : Turn α × BoundedStdio :=
  match t.reader.fillBuf with
  | (.pending, reader) => (.waiting, { t with reader })
  | (.failed, reader) => (.closed, { t with reader })
  | (.ready available, reader) =>
    if available = [] then (.closed, { t with reader }) else collect parse limit { t with reader } available

/-- `pending` when it is longest in a pass. -/
def held (t : BoundedStdio) (available : Bytes) : Bytes :=
  if limit < t.pending.length + lineCount available then t.pending
  else t.pending ++ available.take (lineCount available)

/-- What the transport still has to deliver. -/
def unread (t : BoundedStdio) : Bytes := t.pending ++ t.reader.bytes

/-- A line within the limit, parsed whole. -/
def accepts (line : Bytes) : Option α := if line.length ≤ limit then parse line else none

/-- The messages of a stream. -/
def messagesOf (stream : Bytes) : List α := accepted (accepts parse limit) (lines stream)

/-- `pending` holds the start of one line, within the limit. -/
structure Sound (t : BoundedStdio) : Prop where
  unfinished : newline ∉ t.pending
  within : t.pending.length ≤ limit

/-- A first line beyond the limit is refused. -/
theorem messagesOf_oversize {front rest : Bytes} (hnewline : newline ∉ front) (h : limit < front.length + 1) :
    messagesOf parse limit (front ++ rest) = [] := by
  unfold messagesOf
  cases hlines : lines (front ++ rest) with
  | nil => rfl
  | cons line more =>
    have hlength := length_le_of_lines hnewline hlines
    have hrefused : accepts parse limit line = none := if_neg (by omega)
    rw [accepted, hrefused]

theorem messagesOf_line {front rest : Bytes} (hnewline : newline ∉ front) (h : front.length + 1 ≤ limit) :
    messagesOf parse limit (front ++ newline :: rest) =
      match parse (front ++ [newline]) with
      | some message => message :: messagesOf parse limit rest
      | none => [] := by
  have haccepts : accepts parse limit (front ++ [newline]) = parse (front ++ [newline]) :=
    if_pos (by rw [List.length_append]; exact h)
  rw [messagesOf, lines_append hnewline, accepted, haccepts]
  rfl

/-! ## One pass -/

/-- What a pass may do to a transport: it waits or goes on with the same bytes to read, it delivers the
first line, or it closes where no message is left. -/
def Turned (t : BoundedStdio) : Turn α × BoundedStdio → Prop
  | (.waiting, t') => t'.Sound limit ∧ t'.unread = t.unread ∧ t'.reader.fuel < t.reader.fuel
  | (.again, t') => t'.Sound limit ∧ t'.unread = t.unread ∧ t'.reader.fuel < t.reader.fuel
  | (.message message, t') => t'.Sound limit ∧ t'.reader.fuel ≤ t.reader.fuel ∧
      messagesOf parse limit t.unread = message :: messagesOf parse limit t'.unread ∧
      ∃ line, parse line = some message ∧ lines t.unread = line :: lines t'.unread ∧ t.unread = line ++ t'.unread
  | (.closed, t') => t'.Sound limit ∧ messagesOf parse limit t.unread = []

theorem Turned.congr {t s : BoundedStdio} {result : Turn α × BoundedStdio} (hunread : s.unread = t.unread)
    (hfuel : s.reader.fuel ≤ t.reader.fuel) (h : Turned parse limit s result) : Turned parse limit t result := by
  obtain ⟨turn, t'⟩ := result
  cases turn with
  | waiting | again => exact ⟨h.1, h.2.1.trans hunread, h.2.2.trans_le hfuel⟩
  | message => exact ⟨h.1, h.2.1.trans hfuel, hunread ▸ h.2.2⟩
  | closed => exact ⟨h.1, hunread ▸ h.2⟩

theorem collect_spec {t : BoundedStdio} {available : Bytes} (h : t.Sound limit) (hbuffer : t.reader.buffer = available)
    (hne : available ≠ []) : Turned parse limit t (collect parse limit t available) := by
  have hfuel : t.reader.fuel = t.reader.source.length + 1 := by rw [BufReader.fuel, hbuffer, if_neg hne]
  have hunread : t.unread = t.pending ++ available ++ BufReader.stream t.reader.source := by
    rw [unread, BufReader.bytes, hbuffer, List.append_assoc]
  unfold collect
  rcases newline_position available with ⟨hnone, hnewline⟩ | ⟨front, rest, rfl, hnewline, hsome⟩
  · have hcount : lineCount available = available.length := by rw [lineCount, hnone]
    have hpending : newline ∉ t.pending ++ available := fun hmem => (List.mem_append.1 hmem).elim h.unfinished hnewline
    rw [hcount, hnone]
    split
    · rename_i hover
      refine ⟨h, ?_⟩
      rw [hunread]
      exact messagesOf_oversize parse limit hpending (by rw [List.length_append]; omega)
    · rename_i hfits
      rw [List.take_length]
      refine ⟨⟨hpending, by rw [List.length_append]; exact Nat.le_of_not_lt hfits⟩, ?_, ?_⟩
      · rw [hunread, unread, BufReader.bytes, BufReader.consume, hbuffer, List.drop_length, List.nil_append]
      · rw [hfuel, BufReader.fuel, BufReader.consume, hbuffer, List.drop_length, if_pos rfl]
        exact Nat.lt_succ_self _
  · have hcount : lineCount (front ++ newline :: rest) = front.length + 1 := by rw [lineCount, hsome]
    have hpending : newline ∉ t.pending ++ front := fun hmem => (List.mem_append.1 hmem).elim h.unfinished hnewline
    have htake : (front ++ newline :: rest).take (front.length + 1) = front ++ [newline] := by
      rw [List.take_append, List.take_of_length_le (Nat.le_succ _), Nat.add_sub_cancel_left]
      rfl
    have hdrop : (front ++ newline :: rest).drop (front.length + 1) = rest := by
      rw [List.drop_append, List.drop_of_length_le (Nat.le_succ _), Nat.add_sub_cancel_left]
      rfl
    have hsplit : t.unread = (t.pending ++ front) ++ newline :: (rest ++ BufReader.stream t.reader.source) := by
      rw [hunread]
      simp
    rw [hcount, hsome, htake]
    split
    · rename_i hover
      refine ⟨h, ?_⟩
      rw [hsplit]
      exact messagesOf_oversize parse limit hpending (by rw [List.length_append]; omega)
    · rename_i hfits
      have hmessages := @messagesOf_line _ parse limit _ (rest ++ BufReader.stream t.reader.source) hpending
        (by rw [List.length_append]; omega)
      have hsound : Sound limit ⟨t.reader.consume (front.length + 1), []⟩ := ⟨List.not_mem_nil, Nat.zero_le _⟩
      have hrest : unread ⟨t.reader.consume (front.length + 1), []⟩ = rest ++ BufReader.stream t.reader.source := by
        rw [unread, BufReader.bytes, BufReader.consume, hbuffer, hdrop, List.nil_append]
      rw [← hsplit] at hmessages
      have hfound : (some front.length).isSome = true := rfl
      dsimp only
      rw [if_pos hfound, ← List.append_assoc]
      cases hparse : parse (t.pending ++ front ++ [newline]) with
      | none =>
        rw [hparse] at hmessages
        exact ⟨hsound, hmessages⟩
      | some message =>
        rw [hparse] at hmessages
        refine ⟨hsound, ?_, by rw [hrest, hmessages], _, hparse, ?_, ?_⟩
        · rw [hfuel, BufReader.fuel, BufReader.consume]
          exact Nat.add_le_add_left (by split <;> omega) _
        · rw [hrest, hsplit, lines_append hpending]
        · rw [hrest, hsplit, List.append_assoc _ [newline], List.singleton_append]

/-- **What a pass does.** -/
theorem turn_spec {t : BoundedStdio} (h : t.Sound limit) : Turned parse limit t (turn parse limit t) := by
  have hsound (reader : BufReader) : Sound limit { t with reader } := ⟨h.unfinished, h.within⟩
  have hpending (hend : t.reader.bytes = []) : messagesOf parse limit t.unread = [] := by
    rw [unread, hend, List.append_nil, messagesOf, lines_unfinished h.unfinished]
    rfl
  unfold turn
  rcases t.reader.fillBuf_spec with ⟨hfill, hbytes, hfuel⟩ | ⟨hfill, hend⟩ | ⟨hfill, hend⟩ | ⟨hfill, hne, hbytes, hfuel⟩
  · rw [show t.reader.fillBuf = (.pending, t.reader.fillBuf.2) from Prod.ext hfill rfl]
    exact ⟨hsound _, congrArg (t.pending ++ ·) hbytes, hfuel⟩
  · rw [show t.reader.fillBuf = (.failed, t.reader.fillBuf.2) from Prod.ext hfill rfl]
    exact ⟨hsound _, hpending hend⟩
  · rw [show t.reader.fillBuf = (.ready [], t.reader.fillBuf.2) from Prod.ext hfill rfl]
    exact ⟨hsound _, hpending hend⟩
  · rw [show t.reader.fillBuf = (.ready t.reader.fillBuf.2.buffer, t.reader.fillBuf.2) from Prod.ext hfill rfl]
    dsimp only
    rw [if_neg hne]
    have hunread : unread { t with reader := t.reader.fillBuf.2 } = t.unread := congrArg (t.pending ++ ·) hbytes
    exact (collect_spec parse limit (hsound t.reader.fillBuf.2) rfl hne).congr parse limit hunread hfuel

/-! ## Calls -/

/-- How a call of `receive` ends. -/
inductive Received (α : Type) where
  /-- The caller drops it while `fill_buf` waits. -/
  | dropped
  | message (message : α)
  | closed

/-- A pass that goes on has emptied the buffer. -/
theorem collect_fuel {t t' : BoundedStdio} {available : Bytes} (hbuffer : t.reader.buffer = available) (hne : available ≠ [])
    (h : collect parse limit t available = (.waiting, t') ∨ collect parse limit t available = (.again, t')) :
    t'.reader.fuel < t.reader.fuel := by
  unfold collect at h
  dsimp only at h
  split at h
  · rcases h with h | h <;> cases h
  · split at h
    · split at h <;> rcases h with h | h <;> cases h
    · rename_i hnewline
      have hnone : available.findIdx? (· = newline) = none := Option.not_isSome_iff_eq_none.1 hnewline
      have hcount : lineCount available = available.length := by rw [lineCount, hnone]
      rcases h with h | h <;> cases h
      rw [BufReader.fuel, BufReader.fuel, BufReader.consume, hbuffer, hcount, List.drop_length, if_pos rfl, if_neg hne]
      exact Nat.lt_succ_self _

theorem turn_fuel {t t' : BoundedStdio} (h : turn parse limit t = (.waiting, t') ∨ turn parse limit t = (.again, t')) :
    t'.reader.fuel < t.reader.fuel := by
  unfold turn at h
  rcases t.reader.fillBuf_spec with ⟨hfill, -, hfuel⟩ | ⟨hfill, -⟩ | ⟨hfill, -⟩ | ⟨hfill, hne, -, hfuel⟩
  · rw [show t.reader.fillBuf = (.pending, t.reader.fillBuf.2) from Prod.ext hfill rfl] at h
    rcases h with h | h <;> cases h
    exact hfuel
  · rw [show t.reader.fillBuf = (.failed, t.reader.fillBuf.2) from Prod.ext hfill rfl] at h
    rcases h with h | h <;> cases h
  · rw [show t.reader.fillBuf = (.ready [], t.reader.fillBuf.2) from Prod.ext hfill rfl] at h
    rcases h with h | h <;> cases h
  · rw [show t.reader.fillBuf = (.ready t.reader.fillBuf.2.buffer, t.reader.fillBuf.2) from Prod.ext hfill rfl] at h
    dsimp only at h
    rw [if_neg hne] at h
    exact (collect_fuel parse limit rfl hne h).trans_le hfuel

/-- `receive`, whose caller drops it when `fill_buf` waits once more than `patience` times. -/
def receive (patience : Nat) (t : BoundedStdio) : Received α × BoundedStdio :=
  match _h : turn parse limit t with
  | (.waiting, t') =>
    match patience with
    | 0 => (.dropped, t')
    | patience + 1 => receive patience t'
  | (.again, t') => receive patience t'
  | (.message message, t') => (.message message, t')
  | (.closed, t') => (.closed, t')
termination_by t.reader.fuel
decreasing_by
  · exact turn_fuel parse limit (Or.inl _h)
  · exact turn_fuel parse limit (Or.inr _h)

/-- What a row of calls has delivered, whether the transport reported closed, and what it is then. -/
structure Served (α : Type) where
  messages : List α
  closed : Bool
  transport : BoundedStdio

/-- Calls one after the other, each with its patience, until the transport reports closed. -/
def serve : List Nat → BoundedStdio → Served α
  | [], t => ⟨[], false, t⟩
  | patience :: calls, t =>
    match receive parse limit patience t with
    | (.dropped, t') => serve calls t'
    | (.message message, t') =>
      let served := serve calls t'
      { served with messages := message :: served.messages }
    | (.closed, t') => ⟨[], true, t'⟩

/-! ## Rows of calls -/

/-- What a call does: dropped, it changes nothing that is still to be read. -/
def Called (t : BoundedStdio) : Received α × BoundedStdio → Prop
  | (.dropped, t') => Turned parse limit t (.waiting, t')
  | (.message message, t') => Turned parse limit t (.message message, t')
  | (.closed, t') => Turned parse limit t (.closed, t')

theorem receive_spec (patience : Nat) (t : BoundedStdio) (h : t.Sound limit) :
    Called parse limit t (receive parse limit patience t) := by
  induction hfuel : t.reader.fuel using Nat.strong_induction_on generalizing patience t with
  | _ fuel ih =>
    have hturn := turn_spec parse limit h
    have hnext {patience : Nat} {t' : BoundedStdio} (h' : t'.Sound limit) (hunread : t'.unread = t.unread)
        (hless : t'.reader.fuel < t.reader.fuel) : Called parse limit t (receive parse limit patience t') := by
      have hrest := ih _ (hfuel ▸ hless) patience t' h' rfl
      generalize receive parse limit patience t' = result at hrest
      obtain ⟨received, u⟩ := result
      cases received with
      | dropped =>
        have hturned : Turned parse limit t' (.waiting, u) := hrest
        exact hturned.congr parse limit hunread hless.le
      | message message =>
        have hturned : Turned parse limit t' (.message message, u) := hrest
        exact hturned.congr parse limit hunread hless.le
      | closed =>
        have hturned : Turned parse limit t' (.closed, u) := hrest
        exact hturned.congr parse limit hunread hless.le
    rw [receive]
    split
    · rename_i t' heq
      rw [heq] at hturn
      cases patience with
      | zero => exact hturn
      | succ patience => exact hnext hturn.1 hturn.2.1 hturn.2.2
    · rename_i t' heq
      rw [heq] at hturn
      exact hnext hturn.1 hturn.2.1 hturn.2.2
    · rename_i message t' heq
      rw [heq] at hturn
      exact hturn
    · rename_i t' heq
      rw [heq] at hturn
      exact hturn

/-- What a row of calls leaves: the messages are those of the lines taken, and what is not taken is still
to be read unless the transport has closed. -/
structure Delivers (t : BoundedStdio) (calls : List Nat) (served : Served α) : Prop where
  sound : served.transport.Sound limit
  closed : served.closed = true → served.messages = messagesOf parse limit t.unread
  waiting : served.closed = false →
    messagesOf parse limit t.unread = served.messages ++ messagesOf parse limit served.transport.unread
  taken : ∃ taken, taken <+: lines t.unread ∧ taken.map parse = served.messages.map some ∧
    (served.closed = false → t.unread = taken.flatten ++ served.transport.unread)
  closes : (messagesOf parse limit t.unread).length + t.reader.fuel < calls.length → served.closed = true

theorem serve_spec (calls : List Nat) (t : BoundedStdio) (h : t.Sound limit) :
    Delivers parse limit t calls (serve parse limit calls t) := by
  induction calls generalizing t with
  | nil => exact ⟨h, by rintro ⟨⟩, fun _ => rfl, ⟨[], List.nil_prefix, rfl, fun _ => rfl⟩, fun hlength => absurd hlength (Nat.not_lt_zero _)⟩
  | cons patience calls ih =>
    have hcall := receive_spec parse limit patience t h
    unfold serve
    generalize receive parse limit patience t = result at hcall
    obtain ⟨received, t'⟩ := result
    cases received with
    | dropped =>
      obtain ⟨hsound, hunread, hfuel⟩ := hcall
      have hrest := ih t' hsound
      refine ⟨hrest.sound, hunread ▸ hrest.closed, hunread ▸ hrest.waiting, hunread ▸ hrest.taken, fun hlength => hrest.closes ?_⟩
      rw [hunread]
      rw [List.length_cons] at hlength
      omega
    | message message =>
      obtain ⟨hsound, hfuel, hmessages, line, hparse, hlines, hline⟩ := hcall
      have hrest := ih t' hsound
      refine ⟨hrest.sound, fun hclosed => ?_, fun hopen => ?_, ?_, fun hlength => hrest.closes ?_⟩
      · rw [hmessages, ← hrest.closed hclosed]
      · rw [hmessages, hrest.waiting hopen, List.cons_append]
      · obtain ⟨taken, hprefix, hmap, hconserved⟩ := hrest.taken
        refine ⟨line :: taken, ?_, ?_, fun hopen => ?_⟩
        · rw [hlines]
          exact List.prefix_cons_inj _ |>.2 hprefix
        · rw [List.map_cons, List.map_cons, hparse, hmap]
        · rw [List.flatten_cons, List.append_assoc, ← hconserved hopen, hline]
      · rw [hmessages, List.length_cons, List.length_cons] at hlength
        omega
    | closed =>
      obtain ⟨hsound, hmessages⟩ := hcall
      exact ⟨hsound, fun _ => hmessages.symm, by rintro ⟨⟩, ⟨[], List.nil_prefix, rfl, by rintro ⟨⟩⟩, fun _ => rfl⟩

/-- A transport before its first call. -/
def fresh (source : List Poll) : BoundedStdio := ⟨⟨[], source⟩, []⟩

/-- The transport after some passes. -/
inductive Reached (source : List Poll) : BoundedStdio → Prop where
  | fresh : Reached source (fresh source)
  | turn {t : BoundedStdio} (h : Reached source t) : Reached source (turn parse limit t).2

theorem sound_of_turned {t : BoundedStdio} {result : Turn α × BoundedStdio} (h : Turned parse limit t result) :
    result.2.Sound limit := by
  obtain ⟨turn, t'⟩ := result
  cases turn with
  | waiting | again | message | closed => exact h.1

theorem Reached.sound {source : List Poll} {t : BoundedStdio} (h : Reached parse limit source t) : t.Sound limit := by
  induction h with
  | fresh => exact ⟨List.not_mem_nil, Nat.zero_le _⟩
  | turn _ ih => exact sound_of_turned parse limit (turn_spec parse limit ih)

theorem length_held {t : BoundedStdio} (h : t.Sound limit) (available : Bytes) : (held limit t available).length ≤ limit := by
  unfold held
  split
  · exact h.within
  · rename_i hfits
    rw [List.length_append, List.length_take]
    omega

/-- **The messages are those of the stream, however it is cut and whenever calls are dropped**: the lines
in order, each parsed whole, up to the first beyond the limit or not a message; there, or at the end of
the input, the transport reports closed. No byte is lost, and `pending` stays within the limit. -/
theorem bounded_stdio_delivers (source : List Poll) (calls : List Nat) :
    Delivers parse limit (fresh source) calls (serve parse limit calls (fresh source)) ∧
      (fresh source).unread = BufReader.stream source ∧ (fresh source).reader.fuel = source.length ∧
      ∀ t, Reached parse limit source t → t.pending.length ≤ limit ∧ ∀ available, (held limit t available).length ≤ limit :=
  ⟨serve_spec parse limit calls _ ⟨List.not_mem_nil, Nat.zero_le _⟩, rfl, rfl,
    fun _ h => ⟨h.sound.within, length_held limit h.sound⟩⟩

end BoundedStdio

end UnifiMcp
