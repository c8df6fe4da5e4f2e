import DataShape.Proofs.Position
import DataShape.Proofs.Validation

/-!
# The trials of a match

A match is run with trials that are recorded and that may answer as they like, also
by what was tried before them. What the match reports and what it tries are then
characterised together: one round of trials for each element in its turn, through
the alternatives in their order and up to the first that finds no errors, and one
error for each round without such an alternative. What a trial finds is only ever
looked at for being empty. The path of the array is written into the paths of its
elements; where it cannot be, the first element without a match ends the run.
-/

namespace DataShape.Matching

open Entries (option? isOn)

/-! ## Trials on record -/

/-- One trial: a value against a field, under a name and the path of the parent. -/
structure Call where
  value : Value
  field : Value
  name : Value
  parent : Value

/-- What each trial finds, given the trials before it. -/
abbrev Answers := (before : List Call) → Call → ErrorSet

/-- Trials that are recorded one after the other. -/
def recording (answers : Answers) : Trial (StateT (List Call) (Except Fault)) :=
  fun value field name parent => do
    let before ← get
    set (before ++ [⟨value, field, name, parent⟩])
    pure (answers before ⟨value, field, name, parent⟩)

/-- The trial of an element against an alternative. -/
def trialOf (path element : Value) (i : Nat) (choice : Value) : Call :=
  ⟨element, choice, segment i, path⟩

/-- Every one of the trials finds errors, each asked after the ones before it. -/
def FindErrors (answers : Answers) (before calls : List Call) : Prop :=
  ∀ earlier call later, calls = earlier ++ call :: later → answers (before ++ earlier) call ≠ []

/-! ## Rounds -/

/-- The trials of one element, and whether some alternative matched it. -/
structure Round where
  calls : List Call
  matched : Bool

/-- How the round of an element goes: up to the first alternative that matches, or
through all alternatives if none does. -/
inductive Tries (answers : Answers) (choices : List Value) (path element : Value) (i : Nat)
    (before : List Call) : Round → Prop
  | matched (failed later : List Value) (choice : Value)
      (order : choices = failed ++ choice :: later)
      (errors : FindErrors answers before (failed.map (trialOf path element i)))
      (clean : answers (before ++ failed.map (trialOf path element i))
        (trialOf path element i choice) = []) :
      Tries answers choices path element i before
        ⟨(failed ++ [choice]).map (trialOf path element i), true⟩
  | unmatched (errors : FindErrors answers before (choices.map (trialOf path element i))) :
      Tries answers choices path element i before
        ⟨choices.map (trialOf path element i), false⟩

/-- One round for each element, in turn and counted from `i`. -/
inductive InTurn (answers : Answers) (choices : List Value) (path : Value) :
    (i : Nat) → (before : List Call) → (elements : List Value) → List Round → Prop
  | nil {i : Nat} {before : List Call} : InTurn answers choices path i before [] []
  | cons {i : Nat} {before : List Call} {element : Value} {elements : List Value}
      {round : Round} {rounds : List Round}
      (first : Tries answers choices path element i before round)
      (rest : InTurn answers choices path (i + 1) (before ++ round.calls) elements rounds) :
      InTurn answers choices path i before (element :: elements) (round :: rounds)

/-- The path of the element at an index. -/
def elementPath (path : Value) (i : Nat) : Value :=
  .text (Path.join (some (Path.shown path)) (Path.index i))

/-- One error for each round, counted from `i`, in which no alternative matched. -/
def unmatchedErrors (path : Value) (i : Nat) (rounds : List Round) : ErrorSet :=
  ((rounds.zipIdx i).filter fun round => !round.1.matched).map
    fun round => (elementPath path round.2, noMatch)

/-- The path is the front of further paths and cannot be written. -/
def isBlocked (path : Value) : Bool := path.isTrue && !path.isWritable

/-- The alternatives that the schema of an array declares: what a walk through its
`child` meets, and none where that is absent or counts as false. -/
def Declares (options : Entries) (choices : List Value) : Prop :=
  if ((option? options "child").getD .null).isTrue then
    ((option? options "child").getD .null).walk = .ok choices
  else choices = []

variable {answers : Answers} {choices : List Value} {path element : Value} {i : Nat}
  {before calls : List Call}

theorem findErrors_nil : FindErrors answers before [] := by
  intro earlier call later h
  simp at h

theorem findErrors_cons {call : Call} :
    FindErrors answers before (call :: calls) ↔
      answers before call ≠ [] ∧ FindErrors answers (before ++ [call]) calls := by
  constructor
  · intro h
    refine ⟨by simpa using h [] call calls rfl, fun earlier call' later hcalls => ?_⟩
    rw [List.append_assoc]
    exact h (call :: earlier) call' later (by rw [hcalls]; rfl)
  · rintro ⟨hfirst, hrest⟩ earlier call' later hcalls
    cases earlier with
    | nil =>
        obtain ⟨rfl, -⟩ := List.cons.inj hcalls
        rwa [List.append_nil]
    | cons first earlier =>
        obtain ⟨rfl, htail⟩ := List.cons.inj hcalls
        rw [List.append_cons]
        exact hrest earlier call' later htail

/-- An alternative that finds errors is passed over. -/
theorem Tries.cons {choice : Value} {round : Round}
    (hfailed : answers before (trialOf path element i choice) ≠ [])
    (h : Tries answers choices path element i (before ++ [trialOf path element i choice]) round) :
    Tries answers (choice :: choices) path element i before
      ⟨trialOf path element i choice :: round.calls, round.matched⟩ := by
  cases h with
  | matched failed later last order errors clean =>
      rw [List.append_assoc] at clean
      exact .matched (choice :: failed) later last (congrArg (List.cons choice) order)
        (findErrors_cons.mpr ⟨hfailed, errors⟩) clean
  | unmatched errors => exact .unmatched (findErrors_cons.mpr ⟨hfailed, errors⟩)

/-! ## Paths of elements -/

theorem separator_index (i : Nat) : Path.separator (Path.index i) = "" := by
  simp [Path.separator, Path.index]

theorem elementPath_eq (path : Value) (i : Nat) :
    elementPath path i = .text (Path.shown path ++ Path.index i) := by
  rw [elementPath, Path.join, separator_index, String.append_empty]
  split
  · rename_i hroot
    rw [String.isEmpty_iff.mp hroot, String.empty_append]
  · rfl

theorem joinValue_segment (path : Value) (i : Nat) :
    Path.joinValue path (segment i)
      = if isBlocked path then .error .integerTooLong else .ok (elementPath path i) := by
  have hjoin : Path.joinValue path (segment i) =
      if !path.isTrue then .ok (segment i)
      else path.checkWritable >>= fun _ =>
        .ok (.text (path.filled ++ Path.separator (Path.index i) ++ Path.index i)) := rfl
  rw [elementPath_eq, hjoin, separator_index, String.append_empty, Path.shown, isBlocked,
    Value.checkWritable]
  cases path.isTrue with
  | false => rfl
  | true =>
      cases path.isWritable with
      | false => rfl
      | true => rfl

/-- Different elements have different paths. -/
theorem elementPath_fresh {j : Nat} (hne : j ≠ i) :
    (elementPath path i).sameKey (elementPath path j) = false := by
  rw [elementPath_eq, elementPath_eq, Value.sameKey_of_text? rfl, Value.text?_text]
  refine beq_eq_false_iff_ne.mpr fun heq => hne ?_
  have hchars := congrArg String.toList (Option.some.inj heq)
  rw [String.toList_append, String.toList_append] at hchars
  have hindex : (Segment.index j).chars = (Segment.index i).chars := by
    have htail := List.append_cancel_left hchars
    simpa [Path.index, Segment.chars, Segment.mark, Segment.body] using htail
  exact Segment.index.inj (Segment.chars_injective hindex)

/-! ## What a match reports and what it tries -/

/-- The round of one element. -/
theorem matchesAny_recording (answers : Answers) (path element : Value) (i : Nat) :
    ∀ (choices : List Value) (before : List Call), ∃ round,
      Tries answers choices path element i before round ∧
        (matchesAny (recording answers) element i path choices).run before
          = .ok (round.matched, before ++ round.calls)
  | [], before => ⟨⟨[], false⟩, .unmatched findErrors_nil, by
      rw [List.append_nil]
      rfl⟩
  | choice :: rest, before => by
      have hrun : (matchesAny (recording answers) element i path (choice :: rest)).run before
          = (if (answers before (trialOf path element i choice)).isEmpty then pure true
            else matchesAny (recording answers) element i path rest).run
              (before ++ [trialOf path element i choice]) := rfl
      rw [hrun]
      by_cases hclean : answers before (trialOf path element i choice) = []
      · refine ⟨⟨[trialOf path element i choice], true⟩, ?_, ?_⟩
        · exact .matched [] rest choice rfl findErrors_nil (by simpa using hclean)
        · rw [hclean]
          rfl
      · obtain ⟨round, htries, hrest⟩ := matchesAny_recording answers path element i rest
          (before ++ [trialOf path element i choice])
        refine ⟨_, .cons hclean htries, ?_⟩
        rw [if_neg (by simpa using hclean), hrest, List.append_assoc]
        rfl

theorem unmatchedErrors_cons (path : Value) (i : Nat) (round : Round) (rounds : List Round) :
    unmatchedErrors path i (round :: rounds)
      = (if round.matched then [] else [(elementPath path i, noMatch)])
        ++ unmatchedErrors path (i + 1) rounds := by
  rw [unmatchedErrors, List.zipIdx_cons]
  cases hmatched : round.matched with
  | true =>
      rw [List.filter_cons_of_neg (by simp [hmatched])]
      rfl
  | false =>
      rw [List.filter_cons_of_pos (by simp [hmatched])]
      rfl

/-- The errors after a round, where the ones before stand at earlier elements, unless
the path of an element without a match cannot be written. -/
theorem matchElements_cons {errors : ErrorSet} {round : Round} {rest : List Value}
    (hearlier : ∀ e ∈ errors, ∃ j < i, e.1 = elementPath path j)
    (hround : (matchesAny (recording answers) element i path choices).run before
      = .ok (round.matched, before ++ round.calls)) :
    (matchElements (recording answers) choices path i errors (element :: rest)).run before
      = if isBlocked path && !round.matched then .error .integerTooLong
        else (matchElements (recording answers) choices path (i + 1)
          (errors ++ if round.matched then [] else [(elementPath path i, noMatch)])
          rest).run (before ++ round.calls) := by
  have hrun : (matchElements (recording answers) choices path i errors (element :: rest)).run before
      = ((matchesAny (recording answers) element i path choices).run before >>= fun found =>
        (if found.1 then matchElements (recording answers) choices path (i + 1) errors rest
          else lift (Path.joinValue path (segment i)) >>= fun place =>
            matchElements (recording answers) choices path (i + 1) (errors.put place noMatch)
              rest).run found.2) := rfl
  have hput : errors.put (elementPath path i) noMatch = errors ++ [(elementPath path i, noMatch)] := by
    refine ErrorSet.put_of_fresh _ fun e he => ?_
    obtain ⟨j, hj, hpath⟩ := hearlier e he
    rw [hpath, elementPath_fresh (Nat.ne_of_lt hj)]
  rw [hrun, hround, joinValue_segment]
  cases hmatched : round.matched with
  | true =>
      rw [Bool.not_true, Bool.and_false, if_neg Bool.false_ne_true, if_pos rfl, List.append_nil]
      rfl
  | false =>
      rw [Bool.not_false, Bool.and_true, if_neg Bool.false_ne_true, ← hput]
      cases isBlocked path with
      | true => rfl
      | false => rfl

/-- The rounds of all elements. -/
theorem matchElements_recording (answers : Answers) (choices : List Value) (path : Value) :
    ∀ (elements : List Value) (i : Nat) (before : List Call) (errors : ErrorSet),
      (∀ e ∈ errors, ∃ j < i, e.1 = elementPath path j) →
      ∃ rounds, InTurn answers choices path i before elements rounds ∧
        (matchElements (recording answers) choices path i errors elements).run before
          = if isBlocked path && rounds.any (!·.matched) then .error .integerTooLong
            else .ok (errors ++ unmatchedErrors path i rounds,
              before ++ rounds.flatMap Round.calls)
  | [], i, before, errors, _ => ⟨[], .nil, by
      rw [List.any_nil, Bool.and_false, if_neg Bool.false_ne_true, unmatchedErrors,
        List.zipIdx_nil, List.filter_nil, List.map_nil, List.flatMap_nil, List.append_nil,
        List.append_nil]
      rfl⟩
  | element :: rest, i, before, errors, hearlier => by
      obtain ⟨round, htries, hround⟩ :=
        matchesAny_recording answers path element i choices before
      -- the error of this round, if there is one, stands at this element
      have hsofar : ∀ e ∈ errors ++ (if round.matched then [] else
          [(elementPath path i, noMatch)]), ∃ j < i + 1, e.1 = elementPath path j := by
        intro e he
        rcases List.mem_append.mp he with he | he
        · obtain ⟨j, hj, hpath⟩ := hearlier e he
          exact ⟨j, Nat.lt_succ_of_lt hj, hpath⟩
        · split at he
          · simp at he
          · exact ⟨i, Nat.lt_succ_self i, congrArg Prod.fst (List.mem_singleton.mp he)⟩
      obtain ⟨rounds, hturns, hrest⟩ := matchElements_recording answers choices path rest
        (i + 1) (before ++ round.calls) _ hsofar
      refine ⟨round :: rounds, .cons htries hturns, ?_⟩
      rw [matchElements_cons hearlier hround, hrest, unmatchedErrors_cons, List.flatMap_cons,
        List.append_assoc, List.append_assoc, List.any_cons, Bool.and_or_distrib_left]
      -- the first element without a match ends the run, or a later one does
      cases isBlocked path && !round.matched with
      | true => rfl
      | false => rfl

section

variable {kind : SequenceKind} {items : List Value} {schemaKind : MappingKind}
  {options : Entries}

/-- There are alternatives exactly where the `child` counts as true. -/
theorem Declares.cases (h : Declares options choices) :
    (((option? options "child").getD .null).isTrue = false ∧ choices = []) ∨
    (((option? options "child").getD .null).isTrue = true ∧ choices ≠ [] ∧
      ((option? options "child").getD .null).walk = .ok choices) := by
  unfold Declares at h
  split at h
  · rename_i htrue
    exact Or.inr ⟨htrue, Validation.members_ne_nil htrue h, h⟩
  · rename_i hfalse
    exact Or.inl ⟨by simpa using hfalse, h⟩

theorem matchArray_leftEmpty (hrequired : isOn options "required" = true) :
    (matchArray (recording answers) (.sequence kind []) (.mapping schemaKind options)
      path).run before = path.checkWritable.map fun _ => ([(path, emptyArray path)], before) := by
  have hrun : (matchArray (recording answers) (.sequence kind []) (.mapping schemaKind options)
      path).run before
      = (lift path.checkWritable >>= fun _ => pure [(path, emptyArray path)] :
          StateT (List Call) (Except Fault) ErrorSet).run before := by
    unfold matchArray
    simp only [Capability.isSequence, hrequired]
    rfl
  rw [hrun]
  cases path.checkWritable with
  | ok => rfl
  | error fault => rfl

/-- A sequence that is not left empty is matched with what the schema declares. -/
theorem matchArray_given (hgiven : ¬ (isOn options "required" = true ∧ items = [])) :
    matchArray (recording answers) (.sequence kind items) (.mapping schemaKind options) path =
      if !((option? options "child").getD .null).isTrue then pure []
      else if items.isEmpty then pure []
      else lift ((option? options "child").getD .null).walk >>= fun choices =>
        matchElements (recording answers) choices path 0 [] items := by
  -- the sequence is counted only where it is required, and then it is not empty
  have hleft : ∀ next : Bool → StateT (List Call) (Except Fault) ErrorSet,
      (if isOn options "required" then
        ((· == 0) <$> lift (Value.sequence kind items).length) >>= next
        else pure false >>= next) = next false := by
    intro next
    cases hrequired : isOn options "required" with
    | false => rfl
    | true =>
        cases items with
        | nil => exact absurd ⟨hrequired, rfl⟩ hgiven
        | cons item rest => rfl
  simp only [matchArray, Capability.isSequence, hleft]
  rfl

end

/-- **A match is a union for each element, found by trials in order.** Whatever the
trials find: a sequence that is required and empty has one error at its own path, and
without alternatives there are no errors, both without a trial. Otherwise the elements
are gone through in turn, each with a round of trials under its own index: the
alternatives in their order, up to and including the first that finds no errors, and
all of them if none does. The errors are one for each element whose alternatives all
find errors, in the order of the elements, and nothing of what the trials found. A path
with an integer that is too long to be written, which no text is, is told in no error:
the run then fails where one is due. -/
theorem matchArray_recording (answers : Answers) (kind : SequenceKind) (items : List Value)
    (schemaKind : MappingKind) {options : Entries} {choices : List Value} (path : Value)
    (before : List Call) (hchoices : Declares options choices) :
    (isOn options "required" = true → items = [] →
      (matchArray (recording answers) (.sequence kind items) (.mapping schemaKind options)
        path).run before
        = path.checkWritable.map fun _ => ([(path, emptyArray path)], before)) ∧
    (¬ (isOn options "required" = true ∧ items = []) → choices = [] →
      (matchArray (recording answers) (.sequence kind items) (.mapping schemaKind options)
        path).run before = .ok ([], before)) ∧
    (¬ (isOn options "required" = true ∧ items = []) → choices ≠ [] →
      ∃ rounds, InTurn answers choices path 0 before items rounds ∧
        (matchArray (recording answers) (.sequence kind items) (.mapping schemaKind options)
          path).run before
          = if isBlocked path && rounds.any (!·.matched) then .error .integerTooLong
            else .ok (unmatchedErrors path 0 rounds, before ++ rounds.flatMap Round.calls)) := by
  refine ⟨?_, fun hgiven hnone => ?_, fun hgiven hsome => ?_⟩
  · rintro hrequired rfl
    exact matchArray_leftEmpty hrequired
  · rcases hchoices.cases with ⟨hfalse, -⟩ | ⟨-, hsome, -⟩
    · rw [matchArray_given hgiven, hfalse]
      rfl
    · exact absurd hnone hsome
  · rcases hchoices.cases with ⟨-, hnone⟩ | ⟨htrue, -, hwalk⟩
    · exact absurd hnone hsome
    · obtain ⟨rounds, hturns, hrun⟩ := matchElements_recording answers choices path items 0
        before [] (List.forall_mem_nil _)
      refine ⟨rounds, hturns, ?_⟩
      rw [matchArray_given hgiven, htrue, hwalk]
      cases items with
      | nil =>
          cases hturns
          exact hrun
      | cons item rest => exact hrun

/-- Trials that find errors in everything but texts. Under the first alternative a text
passes only if nothing was tried before it. -/
def fussy : Answers := fun before call =>
  match call.value, call.field with
  | .text _, .int 1 => if before.isEmpty then [] else [(.text "lost", "dropped")]
  | .text _, _ => []
  | _, _ => [(.text "lost", "dropped")]

/-- Two texts and a number against two alternatives, with three kinds of rounds. -/
theorem matchArray_recording_fussy :
    Declares [(.text "child", .list [.int 1, .int 2])] [.int 1, .int 2] ∧
    ∃ rounds, InTurn fussy [.int 1, .int 2] (.text "tags") 0 []
        [.text "a", .text "b", .int 3] rounds ∧
      (matchArray (recording fussy) (.list [.text "a", .text "b", .int 3])
        (.dict [(.text "child", .list [.int 1, .int 2])]) (.text "tags")).run []
        = .ok (unmatchedErrors (.text "tags") 0 rounds, rounds.flatMap Round.calls) := by
  have hdeclares : Declares [(.text "child", .list [.int 1, .int 2])] [.int 1, .int 2] := by
    simp [Declares, Entries.option?_cons, Value.isTrue, Value.walk]
  exact ⟨hdeclares, (matchArray_recording fussy .list [.text "a", .text "b", .int 3] .plain
    (.text "tags") [] hdeclares).2.2 (by simp) (by simp)⟩

example : (matchArray (recording fussy) (.list [.text "a", .text "b", .int 3])
    (.dict [(.text "child", .list [.int 1, .int 2])]) (.text "tags")).run [] =
      .ok ([(.text "tags[2]", noMatch)],
        [trialOf (.text "tags") (.text "a") 0 (.int 1), trialOf (.text "tags") (.text "b") 1 (.int 1),
          trialOf (.text "tags") (.text "b") 1 (.int 2), trialOf (.text "tags") (.int 3) 2 (.int 1),
          trialOf (.text "tags") (.int 3) 2 (.int 2)]) := by
  cbv

end DataShape.Matching
