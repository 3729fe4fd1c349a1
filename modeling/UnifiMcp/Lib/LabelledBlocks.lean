import UnifiMcp.Lib.SortedMap
/-!
# Members moved out of an object

An object that is too big gives members away one after the other. Each becomes a block under its name, and
a mark in the object says so; a member that cannot be shown is only taken out.

* `run_outcome` — what became of each member that may be moved.
* `run_frame` — every other member stays.
* `run_needed`, `run_field` — a member is moved out of an object that is still too big at its turn.
* `big_step_shown` — whether the object is still too big behind a member that can be shown.
-/

namespace Blocks

variable {κ β τ : Type} [LinearOrder κ]

/-- One member that may be moved: its name, the name of its mark, and how its value is shown. -/
structure Move (κ β τ : Type) where
  field : κ
  marker : κ
  render : β → Option τ

/-- The object and the blocks so far. -/
structure Moved (κ β τ : Type) [LinearOrder κ] where
  kept : SortedMap κ β
  blocks : List (κ × τ)

/-- Take the member out, into a block when it can be shown. -/
def Moved.take (mark : β) (s : Moved κ β τ) (move : Move κ β τ) : Moved κ β τ :=
  match s.kept.find? move.field with
  | none => s
  | some value =>
    let rest := s.kept.retain fun key => key ≠ move.field
    match move.render value with
    | none => { s with kept := rest }
    | some text => ⟨rest.insert move.marker mark, s.blocks ++ [(move.field, text)]⟩

section
variable (big : SortedMap κ β → Bool) (mark : β)

def step (s : Moved κ β τ) (move : Move κ β τ) : Moved κ β τ := if big s.kept then s.take mark move else s

def run (moves : List (Move κ β τ)) (s : Moved κ β τ) : Moved κ β τ := moves.foldl (step big mark) s

/-- The same as a loop that stops at an object that is small enough. -/
def loop : List (Move κ β τ) → Moved κ β τ → Moved κ β τ
  | [], s => s
  | move :: moves, s => if big s.kept then loop moves (s.take mark move) else s

end

/-- The texts of the blocks of that name. -/
def Moved.texts (s : Moved κ β τ) (name : κ) : List τ :=
  s.blocks.filterMap fun block => if block.1 = name then some block.2 else none

/-- The names the moves use. -/
def names (moves : List (Move κ β τ)) : List κ := moves.flatMap fun move => [move.field, move.marker]

/-- No two names of the moves are the same. -/
def Apart (moves : List (Move κ β τ)) : Prop := (names moves).Nodup

/-- What became of a member. -/
inductive Outcome (mark : β) (original : SortedMap κ β) (s : Moved κ β τ) (move : Move κ β τ) : Prop
  | kept (hfield : s.kept.find? move.field = original.find? move.field) (hmarker : s.kept.find? move.marker = none)
      (htexts : s.texts move.field = [])
  | moved (value : β) (text : τ) (horiginal : original.find? move.field = some value) (hrender : move.render value = some text)
      (hfield : s.kept.find? move.field = none) (hmarker : s.kept.find? move.marker = some mark)
      (htexts : s.texts move.field = [text])
  | dropped (value : β) (horiginal : original.find? move.field = some value) (hrender : move.render value = none)
      (hfield : s.kept.find? move.field = none) (hmarker : s.kept.find? move.marker = none) (htexts : s.texts move.field = [])

/-! ## One step -/

section
variable {big : SortedMap κ β → Bool} {mark : β} {original : SortedMap κ β} {s : Moved κ β τ} {move other : Move κ β τ}

/-- A step that does not say otherwise leaves a member alone. -/
theorem take_frame {key : κ} (hfield : key ≠ move.field) (hmarker : key ≠ move.marker) :
    (s.take mark move).kept.find? key = s.kept.find? key := by
  unfold Moved.take
  split
  · rfl
  · split
    · simp [SortedMap.find?_retain, hfield]
    · simp [SortedMap.find?_insert, SortedMap.find?_retain, hfield, hmarker]

theorem take_texts {name : κ} (hname : name ≠ move.field) : (s.take mark move).texts name = s.texts name := by
  unfold Moved.take
  split
  · rfl
  · split
    · rfl
    · simp [Moved.texts, hname.symm]

theorem step_frame {key : κ} (hfield : key ≠ move.field) (hmarker : key ≠ move.marker) :
    (step big mark s move).kept.find? key = s.kept.find? key := by
  unfold step
  split
  · exact take_frame hfield hmarker
  · rfl

theorem step_texts {name : κ} (hname : name ≠ move.field) : (step big mark s move).texts name = s.texts name := by
  unfold step
  split
  · exact take_texts hname
  · rfl

theorem step_labels {block : κ × τ} (h : block ∈ (step big mark s move).blocks) : block ∈ s.blocks ∨ block.1 = move.field := by
  unfold step Moved.take at h
  split at h
  · split at h
    · exact Or.inl h
    · split at h
      · exact Or.inl h
      · rcases List.mem_append.1 h with h | h
        · exact Or.inl h
        · exact Or.inr (by rw [List.mem_singleton.1 h])
  · exact Or.inl h

theorem step_kept {key : κ} {value : β} (h : (step big mark s move).kept.find? key = some value) :
    s.kept.find? key = some value ∨ value = mark ∧ key = move.marker := by
  have hretain : ∀ {p : κ → Bool}, (s.kept.retain p).find? key = some value → s.kept.find? key = some value := by
    intro p h
    rw [SortedMap.find?_retain] at h
    split at h
    · exact h
    · cases h
  unfold step Moved.take at h
  split at h
  · split at h
    · exact Or.inl h
    · split at h
      · exact Or.inl (hretain h)
      · rw [SortedMap.find?_insert] at h
        split at h
        · exact Or.inr ⟨(Option.some.inj h).symm, ‹_›⟩
        · exact Or.inl (hretain h)
  · exact Or.inl h

/-- The object with the member's mark in its place. -/
def given (mark : β) (object : SortedMap κ β) (move : Move κ β τ) : SortedMap κ β :=
  (object.retain fun key => key ≠ move.field).insert move.marker mark

theorem find?_given (object : SortedMap κ β) (key : κ) : (given mark object move).find? key =
    if key = move.marker then some mark else if key = move.field then none else object.find? key := by
  rw [given, SortedMap.find?_insert, SortedMap.find?_retain]
  by_cases hkey : key = move.field <;> simp [hkey]

theorem step_of_absent (h : s.kept.find? move.field = none) : step big mark s move = s := by
  unfold step Moved.take
  rw [h]
  exact ite_self _

/-- The object behind the turn of a member that can be shown. -/
theorem step_shown {value : β} {text : τ} (hvalue : s.kept.find? move.field = some value)
    (hrender : move.render value = some text) :
    (step big mark s move).kept = if big s.kept then given mark s.kept move else s.kept := by
  unfold step Moved.take
  rw [hvalue]
  dsimp only
  rw [hrender]
  split <;> rfl

/-- A shown member leaves nothing of its value but the block. -/
theorem step_insert {object : SortedMap κ β} {blocks : List (κ × τ)} {value : β} {text : τ}
    (hbig : big (object.insert move.field value) = true) (hrender : move.render value = some text) :
    step big mark ⟨object.insert move.field value, blocks⟩ move = ⟨given mark object move, blocks ++ [(move.field, text)]⟩ := by
  have hretain : (object.insert move.field value).retain (fun key => key ≠ move.field) =
      object.retain fun key => key ≠ move.field := by
    refine SortedMap.ext_find? fun key => ?_
    rw [SortedMap.find?_retain, SortedMap.find?_retain, SortedMap.find?_insert]
    by_cases hkey : key = move.field <;> simp [hkey]
  unfold step Moved.take
  simp only [hbig, if_true, SortedMap.find?_insert, hrender, hretain, given]

/-- Whether it is still too big. -/
theorem big_step_shown {value : β} {text : τ} (hvalue : s.kept.find? move.field = some value)
    (hrender : move.render value = some text) :
    big (step big mark s move).kept = (big s.kept && big (given mark s.kept move)) := by
  rw [step_shown hvalue hrender]
  cases hbig : big s.kept with
  | false => rw [if_neg Bool.false_ne_true, hbig, Bool.false_and]
  | true => rw [if_pos rfl, Bool.true_and]

/-- The step of a member still in place. -/
theorem take_outcome (h : Outcome mark original s move) (hnames : move.field ≠ move.marker) :
    Outcome mark original (s.take mark move) move := by
  cases hfound : s.kept.find? move.field with
  | none =>
    have hsame : s.take mark move = s := by rw [Moved.take, hfound]
    rwa [hsame]
  | some value =>
    cases h with
    | kept hfield hmarker htexts =>
      cases hrender : move.render value with
      | none =>
        have htaken : s.take mark move = { s with kept := s.kept.retain fun key => key ≠ move.field } := by
          simp only [Moved.take, hfound, hrender]
        rw [htaken]
        refine .dropped value (hfield.symm.trans hfound) hrender ?_ ?_ htexts
        · simp [SortedMap.find?_retain]
        · simp [SortedMap.find?_retain, hmarker]
      | some text =>
        have htaken : s.take mark move = ⟨(s.kept.retain fun key => key ≠ move.field).insert move.marker mark,
            s.blocks ++ [(move.field, text)]⟩ := by
          simp only [Moved.take, hfound, hrender]
        rw [htaken]
        refine .moved value text (hfield.symm.trans hfound) hrender ?_ ?_ ?_
        · simp [SortedMap.find?_insert, SortedMap.find?_retain, hnames]
        · simp [SortedMap.find?_insert]
        · have hblocks : s.blocks.filterMap (fun block => if block.1 = move.field then some block.2 else none) = [] := htexts
          simp [Moved.texts, hblocks]
    | moved _ _ _ _ hfield => cases hfound.symm.trans hfield
    | dropped _ _ _ hfield => cases hfound.symm.trans hfield

theorem step_outcome (h : Outcome mark original s move) (hnames : move.field ≠ move.marker) :
    Outcome mark original (step big mark s move) move := by
  unfold step
  split
  · exact take_outcome h hnames
  · exact h

/-- What became of a member shows in its two names and its blocks alone. -/
theorem Outcome.congr {t : Moved κ β τ} (h : Outcome mark original s move)
    (hfield : t.kept.find? move.field = s.kept.find? move.field)
    (hmarker : t.kept.find? move.marker = s.kept.find? move.marker) (htexts : t.texts move.field = s.texts move.field) :
    Outcome mark original t move := by
  cases h with
  | kept h₁ h₂ h₃ => exact .kept (hfield.trans h₁) (hmarker.trans h₂) (htexts.trans h₃)
  | moved value text horiginal hrender h₁ h₂ h₃ =>
    exact .moved value text horiginal hrender (hfield.trans h₁) (hmarker.trans h₂) (htexts.trans h₃)
  | dropped value horiginal hrender h₁ h₂ h₃ =>
    exact .dropped value horiginal hrender (hfield.trans h₁) (hmarker.trans h₂) (htexts.trans h₃)

/-- The names of a move are not among the names of others. -/
structure Clear (move : Move κ β τ) (others : List (Move κ β τ)) : Prop where
  field : ∀ other ∈ others, move.field ≠ other.field ∧ move.field ≠ other.marker
  marker : ∀ other ∈ others, move.marker ≠ other.field ∧ move.marker ≠ other.marker

omit [LinearOrder κ] in
theorem Clear.of_names {others : List (Move κ β τ)} (hfield : move.field ∉ names others) (hmarker : move.marker ∉ names others) :
    Clear move others := by
  have hnames : ∀ other ∈ others, other.field ∈ names others ∧ other.marker ∈ names others := fun other hother =>
    ⟨List.mem_flatMap.2 ⟨other, hother, by simp⟩, List.mem_flatMap.2 ⟨other, hother, by simp⟩⟩
  exact ⟨fun other hother => ⟨fun h => hfield (h ▸ (hnames other hother).1), fun h => hfield (h ▸ (hnames other hother).2)⟩,
    fun other hother => ⟨fun h => hmarker (h ▸ (hnames other hother).1), fun h => hmarker (h ▸ (hnames other hother).2)⟩⟩

omit [LinearOrder κ] in
theorem Apart.clear {front back : List (Move κ β τ)} (h : Apart (front ++ move :: back)) :
    move.field ≠ move.marker ∧ Clear move front ∧ Clear move back := by
  have hnames : names (front ++ move :: back) = names front ++ (move.field :: move.marker :: names back) := by
    simp [names]
  rw [Apart, hnames, List.nodup_append] at h
  obtain ⟨-, hmove, hfront⟩ := h
  simp only [List.nodup_cons, List.mem_cons, not_or] at hmove
  obtain ⟨⟨hself, hfieldBack⟩, hmarkerBack, -⟩ := hmove
  have hfieldFront : move.field ∉ names front := fun h => hfront _ h _ (by simp) rfl
  have hmarkerFront : move.marker ∉ names front := fun h => hfront _ h _ (by simp) rfl
  exact ⟨hself, .of_names hfieldFront hmarkerFront, .of_names hfieldBack hmarkerBack⟩

end

/-! ## The whole run -/

section
variable {big : SortedMap κ β → Bool} {mark : β} {original : SortedMap κ β} {s : Moved κ β τ} {move : Move κ β τ}

/-- A loop that stops at an object that is small enough goes through the same steps. -/
theorem loop_eq_run : ∀ (moves : List (Move κ β τ)) (s : Moved κ β τ), loop big mark moves s = run big mark moves s
  | [], _ => rfl
  | move :: moves, s => by
    rw [loop, run, List.foldl_cons, step]
    split
    · exact loop_eq_run moves _
    · rw [← run, ← loop_eq_run moves s]
      cases moves with
      | nil => rfl
      | cons => rw [loop, if_neg ‹_›]

/-- An object that is small enough stays as it is. -/
theorem run_small (hsmall : big s.kept = false) : ∀ moves : List (Move κ β τ), run big mark moves s = s
  | [] => rfl
  | move :: moves => by
    rw [run, List.foldl_cons, step, hsmall]
    exact run_small hsmall moves

theorem run_frame {key : κ} : ∀ (moves : List (Move κ β τ)) {s : Moved κ β τ},
    (∀ move ∈ moves, key ≠ move.field ∧ key ≠ move.marker) → (run big mark moves s).kept.find? key = s.kept.find? key
  | [], _, _ => rfl
  | move :: moves, s, h => by
    obtain ⟨hmove, hmoves⟩ := List.forall_mem_cons.1 h
    exact (run_frame moves hmoves).trans (step_frame hmove.1 hmove.2)

theorem run_texts {name : κ} : ∀ (moves : List (Move κ β τ)) {s : Moved κ β τ},
    (∀ move ∈ moves, name ≠ move.field) → (run big mark moves s).texts name = s.texts name
  | [], _, _ => rfl
  | move :: moves, s, h => by
    obtain ⟨hmove, hmoves⟩ := List.forall_mem_cons.1 h
    exact (run_texts moves hmoves).trans (step_texts hmove)

/-- A block is that of a member that may be moved. -/
theorem run_labels {block : κ × τ} : ∀ (moves : List (Move κ β τ)) {s : Moved κ β τ},
    block ∈ (run big mark moves s).blocks → block ∈ s.blocks ∨ ∃ move ∈ moves, block.1 = move.field
  | [], _, h => Or.inl h
  | move :: moves, s, h => by
    rcases run_labels moves h with h | ⟨other, hother, heq⟩
    · rcases step_labels h with h | heq
      · exact Or.inl h
      · exact Or.inr ⟨move, List.mem_cons_self, heq⟩
    · exact Or.inr ⟨other, List.mem_cons_of_mem _ hother, heq⟩

/-- What is kept was there, or is a mark. -/
theorem run_kept {key : κ} {value : β} : ∀ (moves : List (Move κ β τ)) {s : Moved κ β τ},
    (run big mark moves s).kept.find? key = some value →
      s.kept.find? key = some value ∨ value = mark ∧ ∃ move ∈ moves, key = move.marker
  | [], _, h => Or.inl h
  | move :: moves, s, h => by
    rcases run_kept moves h with h | ⟨hvalue, other, hother, heq⟩
    · rcases step_kept h with h | ⟨hvalue, heq⟩
      · exact Or.inl h
      · exact Or.inr ⟨hvalue, move, List.mem_cons_self, heq⟩
    · exact Or.inr ⟨hvalue, other, List.mem_cons_of_mem _ hother, heq⟩

/-- Moves of others leave what became of a member. -/
theorem Outcome.others {moves : List (Move κ β τ)} (h : Outcome mark original s move) (hclear : Clear move moves) :
    Outcome mark original (run big mark moves s) move :=
  h.congr (run_frame moves hclear.field) (run_frame moves hclear.marker) (run_texts moves fun other hother =>
    (hclear.field other hother).1)

/-- **What became of each member that may be moved.** -/
theorem run_outcome {moves : List (Move κ β τ)} (hapart : Apart moves) (hmove : move ∈ moves)
    (hmarker : original.find? move.marker = none) :
    Outcome mark original (run big mark moves ⟨original, []⟩) move := by
  obtain ⟨front, back, rfl⟩ := List.append_of_mem hmove
  obtain ⟨hnames, hfront, hback⟩ := hapart.clear
  have hstart : Outcome mark original (⟨original, []⟩ : Moved κ β τ) move := .kept rfl hmarker rfl
  rw [run, List.foldl_append, List.foldl_cons]
  exact (step_outcome (hstart.others hfront) hnames).others hback

/-- **A member is moved only out of an object that was still too big.** -/
theorem run_needed {front back : List (Move κ β τ)} (hapart : Apart (front ++ move :: back))
    (hmarker : original.find? move.marker = none)
    (hmoved : (run big mark (front ++ move :: back) ⟨original, []⟩).kept.find? move.marker ≠ none) :
    big (run big mark front (⟨original, []⟩ : Moved κ β τ)).kept = true := by
  obtain ⟨-, hfront, hback⟩ := hapart.clear
  by_contra hsmall
  refine hmoved ?_
  have hstep : ∀ t : Moved κ β τ, big t.kept ≠ true → step big mark t move = t := fun t ht => if_neg ht
  rw [run, List.foldl_append, List.foldl_cons, ← run, ← run, hstep _ hsmall, run_frame back hback.marker,
    run_frame front hfront.marker]
  exact hmarker

theorem take_field (hnames : move.field ≠ move.marker) : (s.take mark move).kept.find? move.field = none := by
  unfold Moved.take
  split
  · assumption
  · split
    · simp [SortedMap.find?_retain]
    · simp [SortedMap.find?_insert, SortedMap.find?_retain, hnames]

/-- A member stays unless the object is too big at its turn. -/
theorem run_field {front back : List (Move κ β τ)} (hapart : Apart (front ++ move :: back)) :
    (run big mark (front ++ move :: back) ⟨original, []⟩).kept.find? move.field =
      if big (run big mark front (⟨original, []⟩ : Moved κ β τ)).kept then none else original.find? move.field := by
  obtain ⟨hnames, hfront, hback⟩ := hapart.clear
  rw [run, List.foldl_append, List.foldl_cons, ← run, ← run, run_frame back hback.field, step]
  split
  · exact take_field hnames
  · exact run_frame front hfront.field

end

end Blocks
