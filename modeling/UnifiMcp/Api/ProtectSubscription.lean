import Mathlib.Algebra.Order.Ring.Nat
import UnifiMcp.Api.Error
/-! # Finite Protect observation (unifi-api/src/protect/subscription.rs)

`observe_updates` reads a socket until a budget, the stream or the deadline ends it. What the socket and
the clock do is a row of events; behind the last one the deadline passes.

* `pass_spec` — what one pass of the loop does to a batch within its budgets.
* `observe_updates_true_reason` — **the batch holds the data messages received, and its end is the true
  reason.** -/
namespace UnifiMcp
open Text

/-- `ProtectSubscriptionEnd`. -/
inductive ProtectSubscriptionEnd where
  | windowComplete
  | messageLimit
  | byteLimit
  | closed
  | failed
deriving DecidableEq

/-- `ProtectSubscriptionMessage`. -/
inductive ProtectSubscriptionMessage where
  | text (text : Text)
  | binary (bytes : Bytes)
deriving DecidableEq

/-- Its length in bytes. -/
def ProtectSubscriptionMessage.size : ProtectSubscriptionMessage → Nat
  | text t => byteLen t
  | binary bytes => bytes.length

/-- `CloseFrame`. -/
structure CloseFrame where
  code : Nat
  reason : Text

/-- `timeout_at(deadline, socket.flush())`. -/
inductive Flushed where
  | elapsed
  | failed (error : Text)
  | done

/-- `Message`, as a socket reads it: raw frames are not exposed while reading. A ping comes with the
outcome of the flush that answers it. -/
inductive SocketMessage where
  | text (text : Text)
  | binary (bytes : Bytes)
  | close (frame : Option CloseFrame)
  | ping (flushed : Flushed)
  | pong

/-- `timeout_at(deadline, socket.next())`. -/
inductive SocketEvent where
  | elapsed
  | ended
  /-- An error, with whether it is `Error::Capacity`. -/
  | error (capacity : Bool) (text : Text)
  | message (message : SocketMessage)

/-- `ProtectSubscriptionBatch`. -/
structure ProtectSubscriptionBatch where
  messages : List ProtectSubscriptionMessage
  ending : ProtectSubscriptionEnd
  receivedBytes : Nat
  omittedMessageBytes : Option Nat
  closeCode : Option Nat
  closeReason : Option Text
  error : Option Text
deriving DecidableEq

/-! ## The loop -/

/-- Whether a pass goes on to the next or breaks the loop. -/
inductive Flow where
  | next
  | stop

/-- The end of the loop body, for a data message (subscription.rs:148). Without a result when the
subtraction underflows. -/
def collectMessage (maxMessages maxBytes : Nat) (batch : ProtectSubscriptionBatch) (message : ProtectSubscriptionMessage) :
    Option (Flow × ProtectSubscriptionBatch) :=
  if maxBytes < batch.receivedBytes then none
  else if maxBytes - batch.receivedBytes < message.size then
    some (.stop, { batch with
      ending := .byteLimit
      omittedMessageBytes := some message.size
      error := some (boundedMessage
        "the next complete upstream message exceeds the remaining subscription byte budget".toList) })
  else
    let batch := { batch with
      receivedBytes := batch.receivedBytes + message.size
      messages := batch.messages ++ [message] }
    if batch.messages.length = maxMessages then some (.stop, { batch with ending := .messageLimit })
    else if batch.receivedBytes = maxBytes then some (.stop, { batch with ending := .byteLimit })
    else some (.next, batch)

/-- One pass of the loop (subscription.rs:97). -/
def pass (maxMessages maxBytes : Nat) (batch : ProtectSubscriptionBatch) : SocketEvent → Option (Flow × ProtectSubscriptionBatch)
  | .elapsed => some (.stop, batch)
  | .ended => some (.stop, { batch with ending := .closed })
  | .error capacity text =>
    some (.stop, { batch with ending := if capacity then .byteLimit else .failed, error := some (boundedMessage text) })
  | .message (.text t) => collectMessage maxMessages maxBytes batch (.text t)
  | .message (.binary bytes) => collectMessage maxMessages maxBytes batch (.binary bytes)
  | .message (.close frame) =>
    some (.stop, { batch with
      ending := .closed
      closeCode := frame.elim batch.closeCode fun frame => some frame.code
      closeReason := frame.elim batch.closeReason fun frame => some frame.reason })
  | .message (.ping .elapsed) => some (.stop, batch)
  | .message (.ping (.failed error)) => some (.stop, { batch with ending := .failed, error := some (boundedMessage error) })
  | .message (.ping .done) => some (.next, batch)
  | .message .pong => some (.next, batch)

/-- The loop over the events; behind the last one the deadline passes. -/
def observe (maxMessages maxBytes : Nat) : ProtectSubscriptionBatch → List SocketEvent → Option ProtectSubscriptionBatch
  | batch, [] => some batch
  | batch, event :: events =>
    match pass maxMessages maxBytes batch event with
    | none => none
    | some (.next, batch) => observe maxMessages maxBytes batch events
    | some (.stop, batch) => some batch

def emptyBatch : ProtectSubscriptionBatch := ⟨[], .windowComplete, 0, none, none, none, none⟩

/-- `observe_updates` (subscription.rs:65). The duration is in nanoseconds; `connection` is what setting up
the socket comes to before the deadline, if it does. -/
def observeUpdates (duration maxMessages maxBytes : Nat) (connection : Option (Except ApiError Unit))
    (events : List SocketEvent) : Option (Except ApiError ProtectSubscriptionBatch) :=
  if duration = 0 ∨ 20 * 10 ^ 9 < duration ∨ ¬ (1 ≤ maxMessages ∧ maxMessages ≤ 200) ∨
      ¬ (1 ≤ maxBytes ∧ maxBytes ≤ MAXIMUM_RESPONSE_BYTES) then
    some (.error (.config
      "subscription duration must be positive and at most 20 seconds, maxMessages 1-200, and maxBytes 1-4194304".toList))
  else match connection with
    | none => some (.error (.transport (boundedMessage
        "subscription connection exceeded the requested observation window".toList)))
    | some (.error error) => some (.error error)
    | some (.ok ()) => (observe maxMessages maxBytes emptyBatch events).map .ok

/-! ## What an observation says -/

namespace SocketEvent

/-- The data message of an event. -/
def data : SocketEvent → Option ProtectSubscriptionMessage
  | message (.text t) => some (.text t)
  | message (.binary bytes) => some (.binary bytes)
  | _ => none

/-- An event after which the stream is still open: a data message, a pong, or an answered ping. -/
def Quiet : SocketEvent → Prop
  | message (.text _) => True
  | message (.binary _) => True
  | message (.ping .done) => True
  | message .pong => True
  | _ => False

end SocketEvent

/-- The data messages among the events. -/
def dataOf (events : List SocketEvent) : List ProtectSubscriptionMessage := events.filterMap SocketEvent.data

def totalSize (messages : List ProtectSubscriptionMessage) : Nat := (messages.map ProtectSubscriptionMessage.size).sum

/-- Events after which neither the stream nor a budget has ended. -/
structure StillOpen (maxMessages maxBytes : Nat) (before : List SocketEvent) : Prop where
  quiet : ∀ event ∈ before, event.Quiet
  number : (dataOf before).length < maxMessages
  size : totalSize (dataOf before) < maxBytes

/-- The batch of an observation that was open after `before` and stopped at `last`. -/
structure StoppedAt (maxMessages maxBytes : Nat) (before : List SocketEvent) (last : SocketEvent)
    (batch : ProtectSubscriptionBatch) : Prop where
  stillOpen : StillOpen maxMessages maxBytes before
  messages : batch.messages ++ (if batch.omittedMessageBytes = none then [] else last.data.toList) = dataOf (before ++ [last])
  received : batch.receivedBytes = totalSize batch.messages
  size : batch.receivedBytes ≤ maxBytes
  number : batch.messages.length ≤ maxMessages
  omitted : ∀ n, batch.omittedMessageBytes = some n ↔
    ∃ message, last.data = some message ∧ message.size = n ∧ maxBytes < totalSize (dataOf before) + n
  exceeds : ∀ n, batch.omittedMessageBytes = some n → maxBytes - batch.receivedBytes < n
  messageLimit : batch.ending = .messageLimit ↔ batch.messages.length = maxMessages
  byteLimit : batch.ending = .byteLimit ↔ (batch.messages.length < maxMessages ∧ batch.receivedBytes = maxBytes) ∨
    batch.omittedMessageBytes ≠ none ∨ ∃ text, last = .error true text
  closed : batch.ending = .closed ↔ last = .ended ∨ ∃ frame, last = .message (.close frame)
  failed : batch.ending = .failed ↔ (∃ text, last = .error false text) ∨ ∃ text, last = .message (.ping (.failed text))
  windowComplete : batch.ending = .windowComplete ↔ last = .elapsed ∨ last = .message (.ping .elapsed)
  closeFrame : ∀ code reason, (batch.closeCode = some code ∧ batch.closeReason = some reason) ↔
    last = .message (.close (some ⟨code, reason⟩))

/-- The batch while the loop goes on. -/
def openBatch (before : List SocketEvent) : ProtectSubscriptionBatch :=
  { emptyBatch with messages := dataOf before, receivedBytes := totalSize (dataOf before) }

theorem dataOf_append (before : List SocketEvent) (event : SocketEvent) :
    dataOf (before ++ [event]) = dataOf before ++ event.data.toList := by
  rw [dataOf, List.filterMap_append, dataOf]
  cases h : event.data <;> simp [h]

theorem totalSize_append (messages : List ProtectSubscriptionMessage) (message : ProtectSubscriptionMessage) :
    totalSize (messages ++ [message]) = totalSize messages + message.size := by
  simp [totalSize]

/-! ## One pass -/

section
variable {maxMessages maxBytes : Nat} {before : List SocketEvent} {event : SocketEvent}

theorem StillOpen.append (h : StillOpen maxMessages maxBytes before) (hquiet : event.Quiet)
    (hnumber : (dataOf (before ++ [event])).length < maxMessages) (hsize : totalSize (dataOf (before ++ [event])) < maxBytes) :
    StillOpen maxMessages maxBytes (before ++ [event]) := by
  refine ⟨fun found hfound => ?_, hnumber, hsize⟩
  rcases List.mem_append.1 hfound with hfound | hfound
  · exact h.quiet found hfound
  · rw [List.mem_singleton.1 hfound]
    exact hquiet

/-- An event without data adds nothing. -/
theorem StillOpen.append_control (h : StillOpen maxMessages maxBytes before) (hquiet : event.Quiet) (hdata : event.data = none) :
    openBatch (before ++ [event]) = openBatch before ∧ StillOpen maxMessages maxBytes (before ++ [event]) := by
  have hsame : dataOf (before ++ [event]) = dataOf before := by
    rw [dataOf_append, hdata]
    exact List.append_nil _
  exact ⟨by rw [openBatch, hsame, openBatch], h.append hquiet (hsame ▸ h.number) (hsame ▸ h.size)⟩

/-- An observation that an event without data stops. -/
theorem stoppedAt_control (h : StillOpen maxMessages maxBytes before) (hdata : event.data = none)
    {ending : ProtectSubscriptionEnd} {closeCode : Option Nat} {closeReason error : Option Text}
    (hreason : ending ≠ .messageLimit ∧ (ending = .byteLimit ↔ ∃ text, event = .error true text) ∧
      (ending = .closed ↔ event = .ended ∨ ∃ frame, event = .message (.close frame)) ∧
      (ending = .failed ↔ (∃ text, event = .error false text) ∨ ∃ text, event = .message (.ping (.failed text))) ∧
      (ending = .windowComplete ↔ event = .elapsed ∨ event = .message (.ping .elapsed)) ∧
      ∀ code reason, (closeCode = some code ∧ closeReason = some reason) ↔ event = .message (.close (some ⟨code, reason⟩))) :
    StoppedAt maxMessages maxBytes before event { openBatch before with ending, closeCode, closeReason, error } := by
  obtain ⟨hmessage, hbyte, hclosed, hfailed, hwindow, hframe⟩ := hreason
  have hnumber := h.number
  have hsize := h.size
  refine ⟨h, ?_, rfl, hsize.le, hnumber.le, fun n => ?_, fun n hn => ?_, ?_, ?_, hclosed, hfailed, hwindow, hframe⟩
  · rw [dataOf_append, hdata]
    rfl
  · constructor
    · intro hn
      cases hn
    · rintro ⟨_, hfound, -⟩
      rw [hdata] at hfound
      cases hfound
  · cases hn
  · exact ⟨fun heq => absurd heq hmessage, fun heq => absurd heq hnumber.ne⟩
  · rw [hbyte]
    refine ⟨fun htext => Or.inr (Or.inr htext), ?_⟩
    rintro (⟨-, heq⟩ | hne | htext)
    · exact absurd heq hsize.ne
    · exact absurd rfl hne
    · exact htext

/-- An event with data is none of those that end the stream. -/
theorem SocketEvent.of_data {message : ProtectSubscriptionMessage} (hdata : event.data = some message) :
    event.Quiet ∧ event ≠ .elapsed ∧ event ≠ .ended ∧ (∀ capacity text, event ≠ .error capacity text) ∧
      (∀ frame, event ≠ .message (.close frame)) ∧ ∀ flushed, event ≠ .message (.ping flushed) := by
  match event with
  | .message (.text _) | .message (.binary _) => simp [SocketEvent.Quiet]

/-- A data message. -/
theorem collectMessage_spec (h : StillOpen maxMessages maxBytes before) {message : ProtectSubscriptionMessage}
    (hdata : event.data = some message) :
    (collectMessage maxMessages maxBytes (openBatch before) message = some (.next, openBatch (before ++ [event])) ∧
        StillOpen maxMessages maxBytes (before ++ [event])) ∨
      ∃ batch, collectMessage maxMessages maxBytes (openBatch before) message = some (.stop, batch) ∧
        StoppedAt maxMessages maxBytes before event batch := by
  obtain ⟨hquiet, helapsed, hended, herror, hclose, hping⟩ := SocketEvent.of_data hdata
  have hnumber := h.number
  have hsize := h.size
  have happend : dataOf (before ++ [event]) = dataOf before ++ [message] := by
    rw [dataOf_append, hdata]
    rfl
  have hlength : (dataOf before ++ [message]).length = (dataOf before).length + 1 := by
    rw [List.length_append]
    rfl
  have htotal := totalSize_append (dataOf before) message
  have hroom : ¬ maxBytes < (openBatch before).receivedBytes := Nat.not_lt.2 hsize.le
  have hstart : collectMessage maxMessages maxBytes (openBatch before) message =
      if maxBytes - totalSize (dataOf before) < message.size then
        some (.stop, { openBatch before with
          ending := .byteLimit
          omittedMessageBytes := some message.size
          error := some (boundedMessage
            "the next complete upstream message exceeds the remaining subscription byte budget".toList) })
      else if (dataOf before ++ [message]).length = maxMessages then
        some (.stop, { openBatch (before ++ [event]) with ending := .messageLimit })
      else if totalSize (dataOf before) + message.size = maxBytes then
        some (.stop, { openBatch (before ++ [event]) with ending := .byteLimit })
      else some (.next, openBatch (before ++ [event])) := by
    rw [collectMessage, if_neg hroom, openBatch, openBatch, happend, htotal]
  rw [hstart]
  split
  · rename_i hover
    refine Or.inr ⟨_, rfl, h, ?_, rfl, hsize.le, hnumber.le, fun n => ?_, fun n hn => ?_, ?_, ?_, ?_, ?_, ?_, ?_⟩
    · rw [happend, hdata]
      rfl
    · constructor
      · intro hn
        cases hn
        exact ⟨message, hdata, rfl, by omega⟩
      · rintro ⟨found, hfound, rfl, -⟩
        rw [hdata] at hfound
        cases hfound
        rfl
    · cases hn
      exact hover
    · simp [openBatch, hnumber.ne]
    · simp
    · simp [hended, hclose]
    · simp [herror, hping]
    · simp [helapsed, hping]
    · simp [openBatch, emptyBatch, hclose]
  · rename_i hfits
    have hwithin : totalSize (dataOf before) + message.size ≤ maxBytes := by omega
    have homitted (n : Nat) : (openBatch (before ++ [event])).omittedMessageBytes = some n ↔
        ∃ message, event.data = some message ∧ message.size = n ∧ maxBytes < totalSize (dataOf before) + n := by
      constructor
      · intro hn
        cases hn
      · rintro ⟨found, hfound, rfl, hover⟩
        rw [hdata] at hfound
        cases hfound
        omega
    have hmessages : (openBatch (before ++ [event])).messages = dataOf before ++ [message] := happend
    have hreceived : (openBatch (before ++ [event])).receivedBytes = totalSize (dataOf before) + message.size := by
      rw [← htotal, ← happend]
      rfl
    -- a budget ends the observation with the message taken
    have hstopped {ending : ProtectSubscriptionEnd} (hlimits : ending = .messageLimit ∨ ending = .byteLimit)
        (hmessage : ending = .messageLimit ↔ (dataOf before ++ [message]).length = maxMessages)
        (hbyte : ending = .byteLimit ↔ (dataOf before ++ [message]).length < maxMessages ∧
          totalSize (dataOf before) + message.size = maxBytes) :
        StoppedAt maxMessages maxBytes before event { openBatch (before ++ [event]) with ending } := by
      have hother : ending ≠ .closed ∧ ending ≠ .failed ∧ ending ≠ .windowComplete := by
        rcases hlimits with rfl | rfl <;> simp
      refine ⟨h, List.append_nil _, rfl, hreceived ▸ hwithin, ?_, homitted, fun n hn => (by cases hn), ?_, ?_, ?_, ?_, ?_, ?_⟩
      · show (openBatch (before ++ [event])).messages.length ≤ maxMessages
        rw [hmessages, hlength]
        exact hnumber
      · show _ ↔ (openBatch (before ++ [event])).messages.length = maxMessages
        rw [hmessages]
        exact hmessage
      · show _ ↔ ((openBatch (before ++ [event])).messages.length < maxMessages ∧
          (openBatch (before ++ [event])).receivedBytes = maxBytes) ∨ _
        rw [hmessages, hreceived]
        simp [hbyte, herror, openBatch, emptyBatch]
      · simp [hother, hended, hclose]
      · simp [hother, herror, hping]
      · simp [hother, helapsed, hping]
      · simp [openBatch, emptyBatch, hclose]
    split
    · rename_i hfull
      exact Or.inr ⟨_, rfl, hstopped (Or.inl rfl) ⟨fun _ => hfull, fun _ => rfl⟩
        ⟨(by rintro ⟨⟩), fun hless => absurd hfull hless.1.ne⟩⟩
    · rename_i hfull
      split
      · rename_i hspent
        exact Or.inr ⟨_, rfl, hstopped (Or.inr rfl) ⟨(by rintro ⟨⟩), fun heq => absurd heq hfull⟩
          ⟨fun _ => ⟨by omega, hspent⟩, fun _ => rfl⟩⟩
      · rename_i hspent
        refine Or.inl ⟨rfl, h.append hquiet ?_ ?_⟩
        · rw [happend]
          omega
        · rw [happend, htotal]
          omega

/-- **What one pass does to an open batch.** -/
theorem pass_spec (h : StillOpen maxMessages maxBytes before) (event : SocketEvent) :
    (pass maxMessages maxBytes (openBatch before) event = some (.next, openBatch (before ++ [event])) ∧
        StillOpen maxMessages maxBytes (before ++ [event])) ∨
      ∃ batch, pass maxMessages maxBytes (openBatch before) event = some (.stop, batch) ∧
        StoppedAt maxMessages maxBytes before event batch := by
  match event with
  | .elapsed =>
    exact Or.inr ⟨_, rfl, stoppedAt_control h rfl (by simp [emptyBatch])⟩
  | .ended => exact Or.inr ⟨_, rfl, stoppedAt_control h rfl (by simp [openBatch, emptyBatch])⟩
  | .error true text =>
    exact Or.inr ⟨_, rfl, stoppedAt_control h rfl (by simp [openBatch, emptyBatch])⟩
  | .error false text =>
    exact Or.inr ⟨_, rfl, stoppedAt_control h rfl (by simp [openBatch, emptyBatch])⟩
  | .message (.text t) => exact collectMessage_spec h rfl
  | .message (.binary bytes) => exact collectMessage_spec h rfl
  | .message (.close none) =>
    exact Or.inr ⟨_, rfl, stoppedAt_control h rfl (by simp [openBatch, emptyBatch])⟩
  | .message (.close (some ⟨code, reason⟩)) =>
    exact Or.inr ⟨_, rfl, stoppedAt_control h rfl (by simp [openBatch, emptyBatch])⟩
  | .message (.ping .elapsed) =>
    exact Or.inr ⟨_, rfl, stoppedAt_control h rfl (by simp [emptyBatch])⟩
  | .message (.ping (.failed error)) =>
    exact Or.inr ⟨_, rfl, stoppedAt_control h rfl (by simp [openBatch, emptyBatch])⟩
  | .message (.ping .done) =>
    obtain ⟨hsame, hopen⟩ := @StillOpen.append_control _ _ _ (.message (.ping .done)) h trivial rfl
    exact Or.inl ⟨by rw [hsame]; rfl, hopen⟩
  | .message .pong =>
    obtain ⟨hsame, hopen⟩ := @StillOpen.append_control _ _ _ (.message .pong) h trivial rfl
    exact Or.inl ⟨by rw [hsame]; rfl, hopen⟩

/-- What the loop makes of the events behind an open batch. -/
theorem observe_spec (events : List SocketEvent) (h : StillOpen maxMessages maxBytes before) :
    ∃ batch, observe maxMessages maxBytes (openBatch before) events = some batch ∧
      ∃ taken last rest, events ++ [.elapsed] = taken ++ last :: rest ∧
        StoppedAt maxMessages maxBytes (before ++ taken) last batch := by
  induction events generalizing before with
  | nil =>
    rcases pass_spec h .elapsed with ⟨hnext, -⟩ | ⟨batch, hstop, hstopped⟩
    · cases hnext
    · cases hstop
      exact ⟨_, rfl, [], .elapsed, [], rfl, by rw [List.append_nil]; exact hstopped⟩
  | cons event events ih =>
    rw [observe]
    rcases pass_spec h event with ⟨hnext, hopen⟩ | ⟨batch, hstop, hstopped⟩
    · obtain ⟨batch, hrun, taken, last, rest, hsplit, hstopped⟩ := ih hopen
      rw [hnext]
      refine ⟨batch, hrun, event :: taken, last, rest, by rw [List.cons_append, hsplit]; rfl, ?_⟩
      rwa [List.append_assoc, List.singleton_append] at hstopped
    · rw [hstop]
      exact ⟨batch, rfl, [], event, events ++ [.elapsed], rfl, by rw [List.append_nil]; exact hstopped⟩

end

/-- The limits that are let through. -/
def Admitted (duration maxMessages maxBytes : Nat) : Prop :=
  (0 < duration ∧ duration ≤ 20 * 10 ^ 9) ∧ (1 ≤ maxMessages ∧ maxMessages ≤ 200) ∧
    1 ≤ maxBytes ∧ maxBytes ≤ MAXIMUM_RESPONSE_BYTES

/-- **An observation ends with a batch whenever its limits are admitted and the socket opens**; the batch holds the data
messages received up to the point it stopped, within both budgets, and its end is the true reason. The subtraction from
the byte budget never underflows. -/
theorem observe_updates_true_reason (duration maxMessages maxBytes : Nat) (connection : Option (Except ApiError Unit))
    (events : List SocketEvent) :
    observeUpdates duration maxMessages maxBytes connection events ≠ none ∧
      ((∃ batch, observeUpdates duration maxMessages maxBytes connection events = some (.ok batch)) ↔
        Admitted duration maxMessages maxBytes ∧ connection = some (.ok ())) ∧
      ∀ batch, observeUpdates duration maxMessages maxBytes connection events = some (.ok batch) →
        ∃ taken last rest, events ++ [.elapsed] = taken ++ last :: rest ∧ StoppedAt maxMessages maxBytes taken last batch := by
  unfold observeUpdates
  split
  · rename_i hrefused
    have hlimits : ¬Admitted duration maxMessages maxBytes := by
      rintro ⟨⟨hpositive, hduration⟩, hmessages, hbytes⟩
      omega
    exact ⟨by simp, by simp [hlimits], by simp⟩
  · rename_i hadmitted
    have hlimits : Admitted duration maxMessages maxBytes := by
      unfold Admitted
      omega
    have hopen : StillOpen maxMessages maxBytes [] :=
      ⟨fun _ hmem => (by cases hmem), show 0 < maxMessages by omega, show 0 < maxBytes by omega⟩
    obtain ⟨batch, hrun, taken, last, rest, hsplit, hstopped⟩ := observe_spec events hopen
    have hstart : openBatch [] = emptyBatch := rfl
    rw [hstart] at hrun
    match connection with
    | none => exact ⟨by simp, by simp, by simp⟩
    | some (.error error) => exact ⟨by simp, by simp, by simp⟩
    | some (.ok ()) =>
      dsimp only
      rw [hrun]
      refine ⟨by simp, by simp [hlimits], fun found hfound => ?_⟩
      cases hfound
      exact ⟨taken, last, rest, hsplit, hstopped⟩

/-- Two messages of two bytes in a budget of three: the second is left out. -/
theorem observe_updates_true_reason_omitted :
    ∃ taken last rest, [SocketEvent.message .pong, .message (.text ['o', 'k']), .message (.binary [1, 2])] ++ [.elapsed] =
      taken ++ last :: rest ∧ StoppedAt 5 3 taken last
        ⟨[.text ['o', 'k']], .byteLimit, 2, some 2, none, none, some
          "the next complete upstream message exceeds the remaining subscription byte budget".toList⟩ :=
  (observe_updates_true_reason 1 5 3 (some (.ok ())) _).2.2 _ (by decide +kernel)

end UnifiMcp
