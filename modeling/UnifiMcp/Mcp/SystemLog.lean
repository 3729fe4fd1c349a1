import Mathlib.Data.List.Nodup
import UnifiMcp.Lib.Slices
import UnifiMcp.Mcp.Tools
/-! # System-log messages (unifi-mcp/src/tools/system_log.rs)

`message` fills the entity names into a template by byte offsets and stops early once the text is longer
than it may be shown. `expand` is what the template stands for, character by character.

* `messageLoop_eq` — the loop yields the start of the expansion, and never cuts inside a character.
* `message_exact` — **the message is the bounded expansion of the chosen template.** -/
namespace UnifiMcp
open Text

/-- `SystemLogEntity`. -/
structure SystemLogEntity where
  id : Option Text
  name : Option Text

/-- `SystemLogParameters`. -/
structure SystemLogParameters where
  client : Option SystemLogEntity
  device : Option SystemLogEntity
  deviceFrom : Option SystemLogEntity
  deviceTo : Option SystemLogEntity
  wlan : Option SystemLogEntity
  network : Option SystemLogEntity

/-- What `message` reads of a `SystemLogEntry`. -/
structure SystemLogEntry where
  messageRaw : Option Text
  titleRaw : Option Text
  parameters : SystemLogParameters

/-! ## The renderer -/

def SystemLogParameters.entities (parameters : SystemLogParameters) : List (Text × Option SystemLogEntity) :=
  [("CLIENT".toList, parameters.client), ("DEVICE".toList, parameters.device),
    ("DEVICE_FROM".toList, parameters.deviceFrom), ("DEVICE_TO".toList, parameters.deviceTo),
    ("WLAN".toList, parameters.wlan), ("NETWORK".toList, parameters.network)]

/-- The name of an entity, or its id. -/
def SystemLogEntity.shown (entity : SystemLogEntity) : Option Text :=
  (entity.name.filter fun name => !name.isEmpty).or (entity.id.filter fun id => !id.isEmpty)

/-- `replacement` (system_log.rs:155). -/
def replacement (parameters : SystemLogParameters) (name : Text) : Option Text :=
  ((parameters.entities.find? fun entity => entity.1 = name).bind Prod.snd).bind SystemLogEntity.shown

/-- The next part to show, and what remains of the template (system_log.rs:151). Slices are checked: a cut
inside a character has no result. -/
def nextPart (parameters : SystemLogParameters) (rest : Text) : Option (Text × Text) :=
  match rest with
  | '\x7b' :: token =>
    match find '\x7d' token with
    | some last =>
      (splitAtByte token last).bind fun name =>
        (splitAtByte rest (last + 2)).map fun group => ((replacement parameters name.1).getD group.1, group.2)
    | none => some (rest, [])
  | rest => splitAtByte rest ((find '\x7b' rest).getD (byteLen rest))

/-- `EVENT_MESSAGE_CEILING + 1 - output.chars().count()`, without a result when it underflows. -/
def remainingCharacters (output : Text) : Option Nat :=
  if output.length ≤ EVENT_MESSAGE_CEILING + 1 then some (EVENT_MESSAGE_CEILING + 1 - output.length) else none

/-- The loop of `message` (system_log.rs:150). -/
def messageLoop (parameters : SystemLogParameters) : Nat → Text → Text → Option Text
  | fuel, rest, output =>
    if rest = [] ∨ EVENT_MESSAGE_CEILING < output.length then some output
    else match fuel with
      | 0 => none
      | fuel + 1 =>
        (nextPart parameters rest).bind fun (part, remaining) =>
          (remainingCharacters output).bind fun count => messageLoop parameters fuel remaining (output ++ part.take count)

def SystemLogEntry.template (entry : SystemLogEntry) : Option Text :=
  (entry.messageRaw.filter fun text => !text.isEmpty).or entry.titleRaw

/-- `message` (system_log.rs:134). A run that panics or does not end has no result. -/
def message (entry : SystemLogEntry) : Option (Option Text) :=
  match entry.template with
  | none => some none
  | some template => (messageLoop entry.parameters template.length template []).map fun output => some (boundedText output)

/-! ## The expansion -/

/-- The full expansion; `group` is the text since an opening brace that is not closed yet. -/
def expandFrom (inserted : Text → Option Text) : Option Text → Text → Text
  | none, [] => []
  | none, c :: t => if c = '\x7b' then expandFrom inserted (some []) t else c :: expandFrom inserted none t
  | some name, [] => '\x7b' :: name
  | some name, c :: t =>
    if c = '\x7d' then (inserted name).getD ('\x7b' :: name ++ ['\x7d']) ++ expandFrom inserted none t
    else expandFrom inserted (some (name ++ [c])) t

/-- Each group in braces whose name is known is replaced, once. -/
def expand (inserted : Text → Option Text) (template : Text) : Text := expandFrom inserted none template

variable {inserted : Text → Option Text}

theorem expand_plain {front : Text} (h : '\x7b' ∉ front) (rest : Text) :
    expand inserted (front ++ rest) = front ++ expand inserted rest := by
  induction front with
  | nil => rfl
  | cons c front ih =>
    have hc : c ≠ '\x7b' := fun heq => h (heq ▸ List.mem_cons_self)
    have hfront := ih fun hmem => h (List.mem_cons_of_mem _ hmem)
    unfold expand at hfront ⊢
    rw [List.cons_append, expandFrom, if_neg hc, hfront, List.cons_append]

theorem expandFrom_group {name front : Text} (h : '\x7d' ∉ front) (rest : Text) :
    expandFrom inserted (some name) (front ++ '\x7d' :: rest) =
      (inserted (name ++ front)).getD ('\x7b' :: (name ++ front) ++ ['\x7d']) ++ expand inserted rest := by
  induction front generalizing name with
  | nil => simp [expandFrom, expand]
  | cons c front ih =>
    have hc : c ≠ '\x7d' := fun heq => h (heq ▸ List.mem_cons_self)
    rw [List.cons_append, expandFrom, if_neg hc, ih fun hmem => h (List.mem_cons_of_mem _ hmem), List.append_assoc,
      List.singleton_append]

theorem expandFrom_open {name front : Text} (h : '\x7d' ∉ front) :
    expandFrom inserted (some name) front = '\x7b' :: (name ++ front) := by
  induction front generalizing name with
  | nil => simp [expandFrom]
  | cons c front ih =>
    have hc : c ≠ '\x7d' := fun heq => h (heq ▸ List.mem_cons_self)
    rw [expandFrom, if_neg hc, ih fun hmem => h (List.mem_cons_of_mem _ hmem), List.append_assoc, List.singleton_append]

/-! ## The loop -/

/-- The next part is what its place of the template stands for. -/
theorem nextPart_spec (parameters : SystemLogParameters) {rest : Text} (hrest : rest ≠ []) :
    ∃ part remaining, nextPart parameters rest = some (part, remaining) ∧ remaining.length < rest.length ∧
      expand (replacement parameters) rest = part ++ expand (replacement parameters) remaining := by
  obtain ⟨c, token, rfl⟩ := List.exists_cons_of_ne_nil hrest
  by_cases hc : c = '\x7b'
  · subst hc
    have hexpand : expand (replacement parameters) ('\x7b' :: token) = expandFrom (replacement parameters) (some []) token := rfl
    by_cases hclosed : '\x7d' ∈ token
    · obtain ⟨name, remaining, rfl, hname⟩ := List.eq_append_cons_of_mem hclosed
      have hgroup : splitAtByte ('\x7b' :: (name ++ '\x7d' :: remaining)) (byteLen name + 2) =
          some ('\x7b' :: name ++ ['\x7d'], remaining) := by
        have hsize : byteLen ('\x7b' :: name ++ ['\x7d']) = byteLen name + 2 := by
          rw [byteLen_append, byteLen_cons, byteLen_cons, byteLen_nil]
          show 1 + byteLen name + 1 = byteLen name + 2
          omega
        have hsplit := splitAtByte_append ('\x7b' :: name ++ ['\x7d']) remaining
        rw [hsize] at hsplit
        simpa using hsplit
      refine ⟨(replacement parameters name).getD ('\x7b' :: name ++ ['\x7d']), remaining, ?_, ?_, ?_⟩
      · rw [nextPart, find_append hname]
        dsimp only
        rw [splitAtByte_append, Option.bind_some, hgroup]
        rfl
      · simp only [List.length_cons, List.length_append]
        omega
      · rw [hexpand, expandFrom_group hname, List.nil_append]
    · refine ⟨'\x7b' :: token, [], ?_, Nat.succ_pos _, ?_⟩
      · rw [nextPart, find_eq_none hclosed]
      · rw [hexpand, expandFrom_open hclosed, List.nil_append]
        exact (List.append_nil _).symm
  · have hnext : nextPart parameters (c :: token) = splitAtByte (c :: token) ((find '\x7b' (c :: token)).getD (byteLen (c :: token))) := by
      unfold nextPart
      split
      · rename_i heq
        exact absurd (List.cons.inj heq).1 hc
      · rfl
    rw [hnext]
    by_cases hopen : '\x7b' ∈ c :: token
    · obtain ⟨front, back, hsplit, hfront⟩ := List.eq_append_cons_of_mem hopen
      have hne : front ≠ [] := by
        rintro rfl
        exact hc (List.cons.inj hsplit).1
      rw [hsplit, find_append hfront]
      refine ⟨front, '\x7b' :: back, splitAtByte_append .., ?_, expand_plain hfront _⟩
      rw [List.length_append]
      exact Nat.lt_add_of_pos_left (List.length_pos_of_ne_nil hne)
    · rw [find_eq_none hopen]
      refine ⟨c :: token, [], ?_, Nat.succ_pos _, ?_⟩
      · have hwhole := splitAtByte_append (c :: token) []
        rwa [List.append_nil] at hwhole
      · have hplain := @expand_plain (replacement parameters) _ hopen []
        rwa [List.append_nil] at hplain

/-- What an early cut takes away, the last cut takes away. -/
theorem take_take_append {α : Type} (n : Nat) (a b : List α) : (a.take n ++ b).take n = (a ++ b).take n := by
  rw [List.take_append, List.take_append, List.take_take, Nat.min_self, List.length_take]
  congr 2
  omega

/-- **The loop yields the start of the expansion**: it ends, cuts between characters only, and its
subtraction does not underflow. -/
theorem messageLoop_eq (parameters : SystemLogParameters) (fuel : Nat) (rest output : Text) (hfuel : rest.length ≤ fuel)
    (houtput : output.length ≤ EVENT_MESSAGE_CEILING + 1) : messageLoop parameters fuel rest output =
      some ((output ++ expand (replacement parameters) rest).take (EVENT_MESSAGE_CEILING + 1)) := by
  induction fuel generalizing rest output with
  | zero =>
    obtain rfl : rest = [] := List.eq_nil_of_length_eq_zero (Nat.le_zero.1 hfuel)
    rw [messageLoop, if_pos (Or.inl rfl)]
    show some output = some ((output ++ []).take _)
    rw [List.append_nil, List.take_of_length_le houtput]
  | succ fuel ih =>
    rw [messageLoop]
    split
    · rename_i hdone
      rcases hdone with rfl | hlong
      · show some output = some ((output ++ []).take _)
        rw [List.append_nil, List.take_of_length_le houtput]
      · have hlength : output.length = EVENT_MESSAGE_CEILING + 1 := Nat.le_antisymm houtput hlong
        rw [← hlength, List.take_left]
    · rename_i hmore
      obtain ⟨hrest, hshort⟩ := not_or.1 hmore
      obtain ⟨part, remaining, hnext, hless, hexpand⟩ := nextPart_spec parameters hrest
      have hcount : remainingCharacters output = some (EVENT_MESSAGE_CEILING + 1 - output.length) := if_pos houtput
      have hprefix : (output ++ part.take (EVENT_MESSAGE_CEILING + 1 - output.length)) =
          (output ++ part).take (EVENT_MESSAGE_CEILING + 1) := by
        rw [List.take_append, List.take_of_length_le houtput]
      have hbound : ((output ++ part).take (EVENT_MESSAGE_CEILING + 1)).length ≤ EVENT_MESSAGE_CEILING + 1 :=
        List.length_take_le ..
      rw [hnext, Option.bind_some]
      dsimp only
      rw [hcount, Option.bind_some, hprefix, ih remaining _ (by omega) hbound, hexpand, ← List.append_assoc, take_take_append]

/-- The early cut changes nothing. -/
theorem boundedText_take (text : Text) : boundedText (text.take (EVENT_MESSAGE_CEILING + 1)) = boundedText text := by
  unfold boundedText
  by_cases hshort : text.length ≤ EVENT_MESSAGE_CEILING
  · rw [List.take_of_length_le (Nat.le_succ_of_le hshort)]
  · have hlength : (text.take (EVENT_MESSAGE_CEILING + 1)).length = EVENT_MESSAGE_CEILING + 1 := by
      rw [List.length_take]
      omega
    have hmin : min (EVENT_MESSAGE_CEILING - 1) (EVENT_MESSAGE_CEILING + 1) = EVENT_MESSAGE_CEILING - 1 := by omega
    rw [hlength, if_neg (Nat.not_succ_le_self _), if_neg hshort, List.take_take, hmin]

/-- Keys that are distinct find their entries. -/
theorem find?_of_distinct {α β : Type} [DecidableEq α] {entries : List (α × β)} (h : (entries.map Prod.fst).Nodup)
    {key : α} {value : β} (hmem : (key, value) ∈ entries) :
    (entries.find? fun entry => entry.1 = key) = some (key, value) := by
  cases hfind : entries.find? fun entry => entry.1 = key with
  | none =>
    have hmiss := List.find?_eq_none.1 hfind _ hmem
    exact absurd (decide_eq_true rfl) hmiss
  | some found =>
    have hkey : found.1 = key := by simpa using List.find?_some hfind
    rw [List.inj_on_of_nodup_map h (List.mem_of_find?_eq_some hfind) hmem hkey]

theorem SystemLogParameters.distinct_entities (parameters : SystemLogParameters) :
    (parameters.entities.map Prod.fst).Nodup := by
  show ["CLIENT".toList, "DEVICE".toList, "DEVICE_FROM".toList, "DEVICE_TO".toList, "WLAN".toList, "NETWORK".toList].Nodup
  decide

/-- What is inserted for a name: the text of the known entity of that name, its name before its id. -/
theorem replacement_eq_some (parameters : SystemLogParameters) (name text : Text) :
    replacement parameters name = some text ↔ text ≠ [] ∧ ∃ entity, (name, some entity) ∈ parameters.entities ∧
      (entity.name = some text ∨ (entity.name = none ∨ entity.name = some []) ∧ entity.id = some text) := by
  have hshown (entity : SystemLogEntity) : entity.shown = some text ↔ text ≠ [] ∧
      (entity.name = some text ∨ (entity.name = none ∨ entity.name = some []) ∧ entity.id = some text) := by
    obtain ⟨id, name⟩ := entity
    unfold SystemLogEntity.shown
    rcases name with _ | _ | ⟨c, t⟩ <;> rcases id with _ | _ | ⟨d, s⟩ <;> simp [Option.filter] <;> grind
  unfold replacement
  constructor
  · intro h
    obtain ⟨entity, hfind, hentity⟩ := Option.bind_eq_some_iff.1 h
    obtain ⟨⟨key, _⟩, hfind, rfl⟩ := Option.bind_eq_some_iff.1 hfind
    obtain rfl : key = name := by simpa using List.find?_some hfind
    exact ⟨((hshown entity).1 hentity).1, entity, List.mem_of_find?_eq_some hfind, ((hshown entity).1 hentity).2⟩
  · rintro ⟨hne, entity, hmem, htext⟩
    rw [find?_of_distinct parameters.distinct_entities hmem]
    exact (hshown entity).2 ⟨hne, htext⟩

theorem template_eq_none (entry : SystemLogEntry) :
    entry.template = none ↔ (entry.messageRaw = none ∨ entry.messageRaw = some []) ∧ entry.titleRaw = none := by
  obtain ⟨messageRaw, titleRaw, parameters⟩ := entry
  unfold SystemLogEntry.template
  rcases messageRaw with _ | _ | ⟨c, t⟩ <;> simp [Option.filter]

theorem message_of_template {entry : SystemLogEntry} {template : Text} (h : entry.template = some template) :
    message entry = some (some (boundedText (expand (replacement entry.parameters) template))) := by
  rw [message, h]
  dsimp only
  rw [messageLoop_eq entry.parameters _ template [] (Nat.le_refl _) (Nat.zero_le _), Option.map_some, List.nil_append,
    boundedText_take]

theorem length_boundedText (text : Text) : (boundedText text).length ≤ EVENT_MESSAGE_CEILING := by
  unfold boundedText
  split
  · rename_i hshort
    exact hshort
  · rw [List.length_append, List.length_take]
    show min 255 text.length + 1 ≤ 256
    omega

/-- **The message is the bounded expansion of the chosen template**: it has at most as many characters as may
be shown, and is cut, with the mark at its end, when the expansion has more. -/
theorem message_exact (entry : SystemLogEntry) :
    (message entry = some none ↔ (entry.messageRaw = none ∨ entry.messageRaw = some []) ∧ entry.titleRaw = none) ∧
    (∀ template, entry.template = some template →
      message entry = some (some (boundedText (expand (replacement entry.parameters) template)))) ∧
    (∀ name text, replacement entry.parameters name = some text ↔
      text ≠ [] ∧ ∃ entity, (name, some entity) ∈ entry.parameters.entities ∧
        (entity.name = some text ∨ (entity.name = none ∨ entity.name = some []) ∧ entity.id = some text)) ∧
    (∀ text : Text, (boundedText text).length ≤ EVENT_MESSAGE_CEILING ∧
      (text.length ≤ EVENT_MESSAGE_CEILING → boundedText text = text) ∧
      (EVENT_MESSAGE_CEILING < text.length → boundedText text = text.take (EVENT_MESSAGE_CEILING - 1) ++ ['…'])) := by
  refine ⟨?_, fun _ => message_of_template, replacement_eq_some entry.parameters,
    fun text => ⟨length_boundedText text, fun h => if_pos h, fun h => if_neg (Nat.not_le.2 h)⟩⟩
  rw [← template_eq_none]
  cases h : entry.template with
  | none => simp [message, h]
  | some template => simp [message_of_template h]

/-- A client whose name looks like a group. -/
theorem message_exact_wlan :
    message ⟨some "\x7bCLIENT\x7d joined \x7bWLAN\x7d".toList, none,
      ⟨some ⟨none, some "\x7bWLAN\x7d".toList⟩, none, none, none, some ⟨none, some "Guest".toList⟩, none⟩⟩ =
      some (some "\x7bWLAN\x7d joined Guest".toList) :=
  ((message_exact _).2.1 _ rfl).trans (by decide +kernel)

/-- A template that ends in the mark is shown as it is, and an empty template counts as missing. -/
theorem message_mark_without_cut :
    (¬ ∀ (entry : SystemLogEntry) (template rendered : Text), entry.template = some template →
      message entry = some (some rendered) →
        (rendered.getLast? = some '…' ↔ EVENT_MESSAGE_CEILING < (expand (replacement entry.parameters) template).length)) ∧
    ¬ ∀ entry : SystemLogEntry, message entry = some none → entry.messageRaw = none ∧ entry.titleRaw = none := by
  refine ⟨fun h => ?_, fun h => ?_⟩
  · have hmark := (h ⟨some ['…'], none, ⟨none, none, none, none, none, none⟩⟩ ['…'] ['…'] rfl (by decide)).1 rfl
    exact absurd hmark (by decide)
  · have hmissing := (h ⟨some [], none, ⟨none, none, none, none, none, none⟩⟩ rfl).1
    exact absurd hmissing nofun

end UnifiMcp
