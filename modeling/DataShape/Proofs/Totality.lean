import DataShape.Schema
import DataShape.Proofs.FixedPoint
import DataShape.Proofs.Forms
import DataShape.Proofs.Validation

/-!
# What compiles can be checked

The check of a value has preconditions that it does not test: the type of a
field is registered, its verdict is defined, names can be put into paths, the
child of a field has parts of the right kind, and what is accepted as an object
or an array can be counted and walked through. The canonical form of a compiled
schema grants all of them, so that a check returns for every value, and so does
each trial of an alternative in it.

Three things in a value stop a check: an array of no dimension, which is
accepted as an array and has no rows, a machine span where a date is asked for
its seconds, and a key that holds an integer too long to be written.
-/

namespace DataShape

open Entries (option? keys fields alternatives isOn)

/-! ## Computations that return -/

/-- The computation returns, and it returns something with the property. -/
def Returns {ε α : Type} (x : Except ε α) (P : α → Prop) : Prop :=
  ∃ a, x = .ok a ∧ P a

namespace Returns

variable {ε α β : Type} {P : α → Prop} {Q : β → Prop} {x : Except ε α}

theorem pure {a : α} (h : P a) : Returns (Pure.pure a : Except ε α) P := ⟨a, rfl, h⟩

theorem bind {f : α → Except ε β} (hx : Returns x P)
    (hf : ∀ a, P a → Returns (f a) Q) : Returns (x >>= f) Q := by
  obtain ⟨a, rfl, ha⟩ := hx
  exact hf a ha

theorem map {f : α → β} (hx : Returns x P) (hf : ∀ a, P a → Q (f a)) :
    Returns (f <$> x) Q := by
  obtain ⟨a, rfl, ha⟩ := hx
  exact ⟨f a, rfl, hf a ha⟩

/-- A step that is taken under a condition only. -/
theorem ite_pure {p : Prop} [Decidable p] {a : α} (hx : p → Returns x P) (ha : P a) :
    Returns (if p then x else Pure.pure a) P := by
  split
  · rename_i hp
    exact hx hp
  · exact pure ha

end Returns

/-! ## Values that can be gone through -/

namespace Value

/-- Nothing about the value itself stops a check: it is no array of no
dimension, a machine span gives its seconds, and the keys of a mapping can be
written. -/
def Suits : Value → Prop
  | .point .. => False
  | .mapping _ entries => ∀ key ∈ keys entries, key.isWritable = true
  | v => Capability.noSeconds? v = none

/-- Nothing inside the value stops a check. -/
def IsUsable (v : Value) : Prop := ∀ inner : Value, inner.Inside v → inner.Suits

namespace IsUsable

/-- A value that is no mapping and no sequence is usable if it gives its seconds. -/
theorem of_leaf {v : Value} (hmapping : v.isMapping = false)
    (hsequence : Capability.isSequence v = false)
    (hseconds : Capability.noSeconds? v = none) : v.IsUsable := by
  intro inner hinside
  obtain rfl := hinside.eq_of_leaf hmapping hsequence
  cases inner with
  | mapping => cases hmapping
  | point => cases hsequence
  | _ => exact hseconds

theorem mapping_iff {kind : MappingKind} {entries : Entries} :
    (Value.mapping kind entries).IsUsable ↔
      (∀ key ∈ keys entries, key.isWritable = true) ∧ ∀ e ∈ entries, e.2.IsUsable := by
  constructor
  · exact fun h => ⟨h _ (.self _), fun e he inner hinside => h inner (.entry he hinside)⟩
  · rintro ⟨hhere, hbelow⟩ inner hinside
    cases hinside with
    | self => exact hhere
    | entry among below => exact hbelow _ among inner below

theorem sequence_iff {kind : SequenceKind} {items : List Value} :
    (Value.sequence kind items).IsUsable ↔ ∀ v ∈ items, v.IsUsable := by
  constructor
  · exact fun h v hv inner hinside => h inner (.item hv hinside)
  · intro h inner hinside
    cases hinside with
    | self => exact rfl
    | item among below => exact h _ among inner below

theorem array_iff {packing : Packing} {rows : List Value} :
    (Value.array packing rows).IsUsable ↔ ∀ v ∈ rows, v.IsUsable := by
  constructor
  · exact fun h v hv inner hinside => h inner (.row hv hinside)
  · intro h inner hinside
    cases hinside with
    | self => exact rfl
    | row among below => exact h _ among inner below

theorem part {v : Value} (h : v.IsUsable) (name : Value) : (v.part name).IsUsable := by
  intro inner hinside
  rcases hinside.of_part with rfl | hinside
  · exact rfl
  · exact h inner hinside

theorem noSeconds?_eq_none {v : Value} (h : v.IsUsable) : Capability.noSeconds? v = none := by
  have hhere : v.Suits := h v (.self v)
  cases v with
  | point => exact hhere.elim
  | mapping => rfl
  | _ => exact hhere

/-- What is accepted as a sequence can be counted and walked through. -/
theorem walk {v : Value} (h : v.IsUsable) (hsequence : Capability.isSequence v = true) :
    Returns v.walk (fun elements => ∀ element ∈ elements, element.IsUsable) ∧
      Returns v.length fun _ => True := by
  cases v with
  | sequence kind items => exact ⟨⟨items, rfl, sequence_iff.mp h⟩, _, rfl, trivial⟩
  | array packing rows => exact ⟨⟨rows, rfl, array_iff.mp h⟩, _, rfl, trivial⟩
  | point packing element => exact (h _ (.self _)).elim
  | _ => simp [Capability.isSequence] at hsequence

end IsUsable

end Value

/-! ## Paths that are texts -/

theorem Value.areWritable_iff :
    ∀ {items : List Value}, Value.areWritable items = true ↔ ∀ v ∈ items, v.isWritable = true
  | [] => by simp [Value.areWritable]
  | v :: rest => by
      simp only [Value.areWritable, Bool.and_eq_true, areWritable_iff, List.forall_mem_cons]

theorem Value.IsText.isWritable {v : Value} (h : v.IsText) : v.isWritable = true := by
  obtain ⟨s, hs⟩ := h
  exact isWritable_of_text? hs

theorem Value.IsText.checkWritable {v : Value} (h : v.IsText) : v.checkWritable = .ok () :=
  Value.checkWritable_eq_ok.mpr h.isWritable

/-- A part with a text for its name has a text for its path, below any parent that
can be written. -/
theorem Path.returns_joinValue {name parent : Value} (h : name.IsText)
    (hparent : parent.isWritable = true) : Returns (joinValue parent name) Value.IsText := by
  obtain ⟨s, hs⟩ := h
  unfold joinValue
  split
  · exact ⟨name, rfl, s, hs⟩
  · rw [hs]
    dsimp only
    rw [Value.checkWritable_eq_ok.mpr hparent]
    exact ⟨_, rfl, Value.isText_text _⟩

namespace ErrorSet

/-- Every error stands at a text. -/
def TextPaths (errors : ErrorSet) : Prop := ∀ e ∈ errors, e.1.IsText

namespace TextPaths

variable {errors more : ErrorSet} {path : Value}

theorem nil : TextPaths [] := List.forall_mem_nil _

theorem single (hpath : path.IsText) (message : String) : TextPaths [(path, message)] :=
  List.forall_mem_singleton.mpr hpath

theorem put (h : errors.TextPaths) (hpath : path.IsText) (message : String) :
    (errors.put path message).TextPaths := by
  induction errors with
  | nil => exact single hpath message
  | cons e rest ih =>
      obtain ⟨hhead, hrest⟩ := List.forall_mem_cons.mp h
      rw [ErrorSet.put]
      split
      · exact List.forall_mem_cons.mpr ⟨hhead, hrest⟩
      · exact List.forall_mem_cons.mpr ⟨hhead, ih hrest⟩

theorem merge (h : errors.TextPaths) (hmore : more.TextPaths) :
    (errors.merge more).TextPaths := by
  induction more generalizing errors with
  | nil => exact h
  | cons e rest ih =>
      obtain ⟨hhead, hrest⟩ := List.forall_mem_cons.mp hmore
      exact ih (h.put hhead e.2) hrest

end TextPaths

end ErrorSet

/-! ## Verdicts that are defined -/

/-- What the check of a field asks of the type of the field. -/
structure Capability.Serves (c : Capability) (field : Entries) : Prop where
  accepts : ∀ v, noSeconds? v = none → Returns (c.accepts v field) fun _ => True
  isEmpty : ∀ v, noSeconds? v = none → Returns (c.isEmpty v field) fun _ => True
  /-- Where options are listed, values of the type can be compared. -/
  compares : (option? field "enum").isSome → ∀ v, c.accepts v field = .ok true →
    v.isArray = false

/-- The options that are listed for a field can be written. -/
def WritableOptions (field : Entries) : Prop :=
  ∀ options, option? field "enum" = some options → options.isWritable = true

/-- A node that a check can go through: canonical, with a type that serves it,
texts for the names of its fields and options that can be told. -/
structure IsCheckable (r : Registry) (tag : String) (c : Capability) (node : Entries) :
    Prop where
  canonical : IsCanonical r tag c node
  serves : c.Serves node
  names : TextKeys (fields node)
  options : WritableOptions node
  object : tag = Capability.objectTag → ∀ v, c.accepts v node = .ok true → v.isMapping = true
  array : tag = Capability.arrayTag → ∀ v, c.accepts v node = .ok true →
    Capability.isSequence v = true

namespace Validation

variable {r : Registry} {check : Check} {tag : String} {c : Capability}
  {value parent path : Value} {field : Entries} {kind : MappingKind}

/-- The check returns for every usable value and every text as a name, below a
parent that can be written. -/
def Answers (check : Check) (field : Value) : Prop :=
  ∀ value name parent, value.IsUsable → name.IsText → parent.isWritable = true →
    Returns (check value field name parent) ErrorSet.TextPaths

/-! ## Objects -/

theorem returns_checkFields {entries : Entries} (hparent : parent.isWritable = true)
    (hvalue : (Value.mapping kind entries).IsUsable) :
    ∀ {schema : Entries} {acc : ErrorSet}, TextKeys schema →
      (∀ e ∈ schema, Answers check e.2) → acc.TextPaths →
      Returns (checkFields check entries parent acc schema) ErrorSet.TextPaths
  | [], _, _, _, hacc => .pure hacc
  | (name, _) :: rest, acc, hnames, hanswers, hacc => by
      obtain ⟨hname, hrest⟩ := List.forall_mem_cons.mp hnames
      obtain ⟨hfield, hfields⟩ := List.forall_mem_cons.mp hanswers
      refine (hfield _ name parent (hvalue.part name) hname hparent).bind fun more hmore => ?_
      exact returns_checkFields hparent hvalue hrest hfields (hacc.merge hmore)

theorem returns_checkKeys {schema : Entries} (hparent : parent.isWritable = true) :
    ∀ {names : List Value} {acc : ErrorSet}, (∀ key ∈ names, key.isWritable = true) →
      acc.TextPaths → Returns (checkKeys schema parent acc names) ErrorSet.TextPaths
  | [], _, _, hacc => .pure hacc
  | key :: rest, acc, hnames, hacc => by
      obtain ⟨hkey, hrest⟩ := List.forall_mem_cons.mp hnames
      rw [checkKeys]
      split
      · exact returns_checkKeys hparent hrest hacc
      -- an unknown key stands for itself by its text, whatever value it is
      · rw [Value.checkWritable_eq_ok.mpr hkey]
        refine (Path.returns_joinValue (Value.isText_text _) hparent).bind fun path hpath => ?_
        exact returns_checkKeys hparent hrest (hacc.put hpath _)

theorem returns_checkObject {schemaKind : MappingKind} {schema : Entries}
    (hmapping : value.isMapping = true) (hvalue : value.IsUsable) (hnames : TextKeys schema)
    (hparent : parent.isWritable = true) (hanswers : ∀ e ∈ schema, Answers check e.2) :
    Returns (checkObject check value (.mapping schemaKind schema) parent)
      ErrorSet.TextPaths := by
  cases value with
  | mapping kind entries =>
      refine (returns_checkFields hparent hvalue hnames hanswers .nil).bind
        fun errors herrors => ?_
      exact returns_checkKeys hparent (Value.IsUsable.mapping_iff.mp hvalue).1 herrors
  | _ => simp [Value.isMapping, Value.entries?] at hmapping

/-! ## Arrays -/

theorem returns_matchesAny {element : Value} (helement : element.IsUsable)
    (hpath : path.isWritable = true) {i : Nat} :
    ∀ {choices : List Value}, (∀ choice ∈ choices, Answers check choice) →
      Returns (Matching.matchesAny check element i path choices) fun _ => True
  | [], _ => .pure trivial
  | choice :: rest, hanswers => by
      obtain ⟨hchoice, hrest⟩ := List.forall_mem_cons.mp hanswers
      rw [Matching.matchesAny]
      refine (hchoice element _ path helement (Value.isText_text _) hpath).bind fun errors _ => ?_
      split
      · exact .pure trivial
      · exact returns_matchesAny helement hpath hrest

theorem returns_matchElements {choices : List Value} (hpath : path.isWritable = true)
    (hanswers : ∀ choice ∈ choices, Answers check choice) :
    ∀ {elements : List Value} {i : Nat} {acc : ErrorSet},
      (∀ element ∈ elements, element.IsUsable) → acc.TextPaths →
      Returns (Matching.matchElements check choices path i acc elements)
        ErrorSet.TextPaths
  | [], _, _, _, hacc => .pure hacc
  | element :: rest, i, acc, helements, hacc => by
      obtain ⟨helement, hrest⟩ := List.forall_mem_cons.mp helements
      rw [Matching.matchElements]
      refine (returns_matchesAny helement hpath hanswers).bind fun found _ => ?_
      split
      · exact returns_matchElements hpath hanswers hrest hacc
      · rw [lift_eq]
        refine (Path.returns_joinValue (Value.isText_text _) hpath).bind fun place hplace => ?_
        exact returns_matchElements hpath hanswers hrest (hacc.put hplace _)

theorem returns_matchArray {choices : List Value} (hvalue : value.IsUsable)
    (hsequence : Capability.isSequence value = true) (hpath : path.IsText)
    (hchild : option? field "child" = some (.list choices))
    (hanswers : ∀ choice ∈ choices, Answers check choice) :
    Returns (Matching.matchArray check value (.mapping kind field) path)
      ErrorSet.TextPaths := by
  obtain ⟨hwalk, hlength⟩ := hvalue.walk hsequence
  unfold Matching.matchArray
  simp only [hsequence, Bool.not_true, Bool.false_eq_true, if_false, lift_eq, ite_bind,
    hchild, Option.getD_some]
  refine (Returns.ite_pure (P := fun _ => True) (fun _ => hlength.map fun _ _ => trivial)
    trivial).bind fun isLeftEmpty _ => ?_
  split
  · rw [hpath.checkWritable]
    exact .pure (.single hpath _)
  · split
    · exact .pure .nil
    · refine hwalk.bind fun elements helements => ?_
      split
      · exact .pure .nil
      · exact returns_matchElements hpath.isWritable hanswers helements .nil

/-! ## One level of checking -/

theorem returns_anyEquals (hvalue : value.isArray = false) :
    ∀ {options : List Value}, (∀ option ∈ options, option.isArray = false) →
      Returns (value.anyEquals options) fun _ => True
  | [], _ => .pure trivial
  | option :: rest, hoptions => by
      obtain ⟨hoption, hrest⟩ := List.forall_mem_cons.mp hoptions
      rw [Value.anyEquals, Value.equals, hoption, hvalue]
      refine Returns.bind (P := fun _ => True) ⟨_, rfl, trivial⟩ fun same _ => ?_
      split
      · exact .pure trivial
      · exact returns_anyEquals hvalue hrest

theorem returns_checkOption (hfield : IsCheckable r tag c field) (hpath : path.IsText)
    (haccepted : c.accepts value field = .ok true) :
    Returns (checkOption value field path) fun found =>
      ∀ errors, found = some errors → errors.TextPaths := by
  unfold checkOption
  cases henum : option? field "enum" with
  | none => exact .pure (by simp)
  | some v =>
      obtain ⟨options, rfl, hoptions⟩ := hfield.canonical.enum v henum
      have hcompare := hfield.serves.compares (by simp [henum])
      refine (returns_anyEquals (hcompare value haccepted) fun option hoption =>
        hcompare option (hoptions option hoption)).bind fun listed _ => ?_
      split
      · exact .pure (by simp)
      · have htold : (Value.list options).checkWritable = .ok () :=
          Value.checkWritable_eq_ok.mpr (hfield.options _ henum)
        show Returns ((Value.list options).checkWritable >>= fun _ => _) _
        rw [htold]
        refine .pure ?_
        rintro errors ⟨⟩
        exact .single hpath _

/-- The parts of a value that its own field accepts can be checked. -/
theorem returns_checkParts (hfield : IsCheckable r tag c field)
    (hanswers : ∀ part ∈ Entries.parts field, Answers check part) (hvalue : value.IsUsable)
    (hpath : path.IsText) (haccepted : c.accepts value field = .ok true) :
    Returns (checkParts check value kind field path) ErrorSet.TextPaths := by
  have htype := hfield.canonical.type
  have htag := hfield.canonical.tag?_eq
  by_cases hobject : tag = Capability.objectTag
  · subst hobject
    have hmapping := hfield.object rfl value haccepted
    have hlength : Returns value.length fun _ => True := by
      cases value with
      | mapping => exact ⟨_, rfl, trivial⟩
      | _ => simp [Value.isMapping, Value.entries?] at hmapping
    obtain ⟨fs, hchild⟩ := hfield.canonical.object rfl
    have hfields : fields field = fs := Entries.fields_of_child htag hchild
    rw [checkParts_object htype, hchild, Option.getD_some]
    refine (Returns.ite_pure (P := fun _ => True) (fun _ => hlength.map fun _ _ => trivial)
      trivial).bind fun isLeftEmpty _ => ?_
    split
    · rw [hpath.checkWritable]
      exact .pure (.single hpath _)
    · refine returns_checkObject hmapping hvalue (hfields ▸ hfield.names) hpath.isWritable
        fun e he => ?_
      exact hanswers _ (List.mem_append_left _ (List.mem_map_of_mem (hfields ▸ he)))
  · by_cases harray : tag = Capability.arrayTag
    · subst harray
      obtain ⟨choices, hchild⟩ := hfield.canonical.array rfl
      have halternatives := Entries.alternatives_of_child htag hchild
      rw [checkParts_array htype]
      refine returns_matchArray hvalue (hfield.array rfl value haccepted) hpath hchild
        fun choice hchoice => ?_
      exact hanswers _ (List.mem_append_right _ (halternatives ▸ hchoice))
    · rw [checkParts_leaf htype hobject harray]
      exact .pure .nil

theorem returns_checkValue (hfield : IsCheckable r tag c field)
    (hanswers : ∀ part ∈ Entries.parts field, Answers check part) (hvalue : value.IsUsable)
    (hpath : path.IsText) :
    Returns (checkValue check c value kind field path) ErrorSet.TextPaths := by
  unfold checkValue
  rw [ite_bind]
  refine (Returns.ite_pure (fun _ => hfield.serves.isEmpty value hvalue.noSeconds?_eq_none)
    trivial).bind
    fun isNotGiven _ => ?_
  dsimp only
  split
  · exact .pure (.single hpath _)
  · refine Returns.bind (P := fun b => c.accepts value field = .ok b)
      ((hfield.serves.accepts value hvalue.noSeconds?_eq_none).imp fun b h => ⟨h.1, h.1⟩)
      fun isAccepted haccepted => ?_
    cases isAccepted with
    | false => exact .pure (.single hpath _)
    | true =>
        refine (returns_checkOption hfield hpath haccepted).bind fun found hfound => ?_
        cases found with
        | some errors => exact .pure (hfound errors rfl)
        | none => exact returns_checkParts hfield hanswers hvalue hpath haccepted

/-- A node can be checked if all its parts can be checked at the level below. -/
theorem answers_succ (hfield : IsCheckable r tag c field) {levels : Nat}
    (hanswers : ∀ part ∈ Entries.parts field, Answers (checkWithin r levels) part) :
    Answers (checkWithin r (levels + 1)) (.mapping kind field) := by
  intro value name parent hvalue hname hparent
  have hknown : r.lookup? ((option? field "type").getD .null) = some c := by
    rw [hfield.canonical.type, Option.getD_some, Registry.lookup?,
      Compilation.resolve?_of_registered hfield.canonical.registered]
    exact hfield.canonical.registered
  rw [checkWithin]
  refine (Path.returns_joinValue hname hparent).bind fun path hpath => ?_
  dsimp only
  split
  · exact .pure .nil
  · rw [hknown]
    exact returns_checkValue hfield hanswers hvalue hpath

/-- A tree of checkable nodes can be checked with as many levels as it is high.
The induction is on the levels; the tree goes down with them. -/
theorem answers_checkWithin : ∀ {levels : Nat} {path : Option String} {v : Value},
    EveryNode (fun _ node => ∃ tag c, IsCheckable r tag c node) path v →
    v.height ≤ levels → Answers (checkWithin r levels) v
  | 0, _, v, _, hlow => absurd (Value.one_le_height v) (by omega)
  | levels + 1, path, _, h, hlow => by
      cases h with
      | @node _ field here below =>
          obtain ⟨tag, c, hnode⟩ := here
          have hparts : ∀ part ∈ Entries.parts field,
              part.height ≤ levels → Answers (checkWithin r levels) part :=
            (Entries.forall_mem_parts_iff path).mpr fun part hpart hle =>
              answers_checkWithin (below part hpart) hle
          refine answers_succ hnode fun part hpart => hparts part hpart ?_
          have hlower : part.height < (Value.dict field).height :=
            Entries.height_lt_of_mem_parts hpart
          exact Nat.le_of_lt_succ (Nat.lt_of_lt_of_le hlower hlow)

theorem everyNode_answers {path : Option String} {v : Value}
    (h : EveryNode (fun _ node => ∃ tag c, IsCheckable r tag c node) path v) :
    EveryNode (fun _ node => Answers (validateField r) (.dict node)) path v := by
  induction h with
  | node here below ih =>
      exact .node (answers_checkWithin (.node here below) (Nat.le_refl _)) ih

end Validation

/-! ## The built-in types -/

namespace Capability

/-- A pattern in the `test` option searches texts and not bytes. -/
def SearchesText (field : Entries) : Prop :=
  ∀ p, option? field "test" = some (.pattern p) → p.source.isText = true

theorem isArray_of_text? {v : Value} {s : String} (h : v.text? = some s) :
    v.isArray = false := by
  rcases Value.eq_of_text?_eq_some h with rfl | rfl
  · rfl
  · rfl

theorem isArray_of_isNumber {v : Value} (h : isNumber v = true) : v.isArray = false := by
  cases v with
  | array | point => simp [isNumber] at h
  | _ => rfl

theorem isArray_of_isBool {v : Value} (h : v.isBool = true) : v.isArray = false := by
  cases v with
  | array | point => simp [Value.isBool] at h
  | _ => rfl

theorem returns_string_accepts {field : Entries}
    (htest : ∀ v, option? field "test" = some v → ∃ p, v = .pattern p)
    (htext : SearchesText field) (v : Value) :
    Returns (string.accepts v field) fun _ => True := by
  simp only [string]
  cases v.text? with
  | none => exact ⟨false, rfl, trivial⟩
  | some s =>
      dsimp only
      cases hv : option? field "test" with
      | none => exact ⟨true, rfl, trivial⟩
      | some test =>
          obtain ⟨p, rfl⟩ := htest test hv
          rw [Option.getD_some, passesTest, if_pos (htext p hv)]
          exact ⟨_, rfl, trivial⟩

theorem string_serves {field : Entries}
    (htest : ∀ v, option? field "test" = some v → ∃ p, v = .pattern p)
    (htext : SearchesText field) : string.Serves field where
  accepts v _ := returns_string_accepts htest htext v
  isEmpty v _ := ⟨_, rfl, trivial⟩
  compares := by
    intro _ v haccepted
    cases hv : v.text? with
    | none => simp [string, hv] at haccepted
    | some s => exact isArray_of_text? hv

theorem number_serves (field : Entries) : number.Serves field where
  accepts v _ := ⟨_, rfl, trivial⟩
  isEmpty v _ := by cases v <;> exact ⟨_, rfl, trivial⟩
  compares := by
    intro _ v haccepted
    simp only [number, Except.ok.injEq] at haccepted
    split at haccepted
    · rename_i htext
      exact isArray_of_text? htext
    · exact isArray_of_isNumber haccepted

theorem boolean_serves (field : Entries) : boolean.Serves field where
  accepts v _ := ⟨_, rfl, trivial⟩
  isEmpty v _ := by cases v <;> exact ⟨_, rfl, trivial⟩
  compares := fun _ v haccepted => isArray_of_isBool (Except.ok.inj haccepted)

/-- A value that gives its seconds is a date or none. -/
theorem date_accepts {v : Value} (h : noSeconds? v = none) (field : Entries) :
    date.accepts v field = .ok (isDate v) := by
  unfold date
  dsimp only
  rw [h]

/-- A type without listed options serves a field if its verdict is defined. -/
theorem serves_of_unlisted {c : Capability} {field : Entries} {verdict : Value → Bool}
    (hunlisted : option? field "enum" = none)
    (haccepts : ∀ v, noSeconds? v = none → c.accepts v field = .ok (verdict v))
    (hempty : c.isEmpty = fun v field => match v with
      | .missing => .ok true
      | _ => (c.accepts v field).map not) : c.Serves field where
  accepts v hseconds := ⟨_, haccepts v hseconds, trivial⟩
  isEmpty v hseconds := by
    rw [hempty]
    cases v with
    | missing => exact ⟨_, rfl, trivial⟩
    | _ => exact ⟨_, congrArg (Except.map not) (haccepts _ hseconds), trivial⟩
  compares h := by simp [hunlisted] at h

/-- Where a type does not know the option, a canonical node of it has none. -/
theorem option?_eq_none_of_not_declared {c : Capability} {field : Entries} {name : String}
    (hknown : ∀ key ∈ keys field, c.Declares key) (htype : name ≠ "type")
    (hname : name ∉ c.properties) : option? field name = none := by
  by_contra hsome
  obtain ⟨v, hv⟩ := Option.ne_none_iff_exists'.mp hsome
  obtain ⟨key, hkey, htext⟩ := Entries.exists_key_of_option? hv
  obtain ⟨other, hother, hdeclared⟩ := hknown key hkey
  obtain rfl : other = name := Option.some.inj (hother.symm.trans htext)
  exact hdeclared.elim htype hname

end Capability

namespace Registry

/-- What is found among the built-in types is one of them under its own name. -/
theorem of_capability?_builtin {tag : String} {c : Capability}
    (h : Registry.builtin.capability? tag = some c) :
    c ∈ Capability.builtins ∧ tag = c.name :=
  mem_types_builtin (mem_types_of_capability? h)

end Registry

open Capability in
theorem serves_of_builtin {tag : String} {c : Capability} {node : Entries}
    (h : IsCanonical .builtin tag c node) (htext : SearchesText node) : c.Serves node := by
  have hmem := (Registry.of_capability?_builtin h.registered).1
  have hunlisted : "enum" ∉ c.properties → option? node "enum" = none :=
    option?_eq_none_of_not_declared h.known (by decide)
  cases hmem using builtins_cases with
  | string => exact string_serves (h.test rfl) htext
  | number => exact number_serves node
  | boolean => exact boolean_serves node
  | date =>
      exact serves_of_unlisted (hunlisted (by decide)) (fun v h => date_accepts h node) rfl
  | object | array =>
      exact serves_of_unlisted (hunlisted (by decide)) (fun _ _ => rfl) rfl

open Capability in
/-- A canonical node of a built-in type can be checked if its names are texts,
its pattern searches texts and its options can be written. -/
theorem isCheckable_of_builtin {tag : String} {c : Capability} {node : Entries}
    (h : IsCanonical .builtin tag c node) (hnames : TextKeys (fields node))
    (htext : SearchesText node) (hoptions : WritableOptions node) :
    IsCheckable .builtin tag c node where
  canonical := h
  serves := serves_of_builtin h htext
  names := hnames
  options := hoptions
  object := by
    rintro rfl v haccepted
    obtain rfl : object = c := Option.some.inj h.registered
    exact Except.ok.inj haccepted
  array := by
    rintro rfl v haccepted
    obtain rfl : array = c := Option.some.inj h.registered
    exact Except.ok.inj haccepted

/-! ## Compiled schemas -/

namespace Compilation

/-- The names of the fields in a form are texts, a pattern in it searches texts,
and its options can be written. -/
structure IsTextual (form : Entries) : Prop where
  names : TextKeys (formFields form)
  pattern : Capability.SearchesText form
  options : WritableOptions form

variable {path : Option String} {tag : String} {c : Capability} {form out : Entries}
  {compile : FieldCompiler}

theorem textKeys_fields_out {r : Registry} (houtcome : Outcome r compile path tag c form out)
    (hnames : TextKeys (formFields form)) : TextKeys (fields out) := by
  by_cases htag : tag = Capability.objectTag
  · rw [TextKeys, keys_compileFields (houtcome.fields htag)]
    exact hnames
  · rw [Entries.fields_of_tag_ne (by simpa [houtcome.canonical.tag?_eq] using htag)]
    exact List.forall_mem_nil _

/-- A source that is read for a `test` is a text, so the pattern searches texts. -/
theorem searchesText_out {r : Registry} (houtcome : Outcome r compile path tag c form out)
    (hpattern : Capability.SearchesText form) : Capability.SearchesText out := by
  intro p hp
  rcases houtcome.keeps.test with hsame | ⟨-, v, source, p', -, -, hread, hp'⟩
  · exact hpattern p (hsame ▸ hp)
  · obtain rfl : p' = p := by simpa using hp'.symm.trans hp
    rw [Pattern.source_of_read hread]
    rfl

/-- A list of options is kept item by item, and can be written as before. -/
theorem writableOptions_out {r : Registry} (houtcome : Outcome r compile path tag c form out)
    (hoptions : WritableOptions form) : WritableOptions out := by
  intro v hv
  rcases houtcome.keeps.enum with ⟨-, hnone⟩ | ⟨kind, options, hform, hout⟩
  · simp [hnone] at hv
  · obtain rfl : .list options = v := Option.some.inj (hout.symm.trans hv)
    exact hoptions (.sequence kind options) hform

theorem checkable_of_compileField {limit : Int} {levels : Nat} {raw : Value}
    (hraw : EveryForm .builtin IsTextual raw)
    (h : compileField .builtin limit levels path raw = .ok out) :
    EveryNode (fun _ node => ∃ tag c, IsCheckable .builtin tag c node) path (.dict out) := by
  refine everyNode_of_everyForm (Registry.Reachable.seeded).regular ?_ hraw h
  intro levels path tag c form out hform houtcome
  exact ⟨tag, c, isCheckable_of_builtin houtcome.canonical
    (textKeys_fields_out houtcome hform.names) (searchesText_out houtcome hform.pattern)
    (writableOptions_out houtcome hform.options)⟩

end Compilation

namespace Schema

open Compilation

variable {kind : MappingKind} {raw : Entries} {maxDepth : Int} {s : Schema}

theorem textKeys_of_compile (hnames : TextKeys raw)
    (h : compile .builtin maxDepth (.mapping kind raw) = .ok s) : TextKeys s.fields := by
  obtain ⟨fs, hfs, rfl⟩ := map_eq_ok.mp h
  rw [TextKeys, keys_compileFields hfs]
  exact hnames

theorem checkable_of_compile (hforms : ∀ e ∈ raw, EveryForm .builtin IsTextual e.2)
    (h : compile .builtin maxDepth (.mapping kind raw) = .ok s) :
    ∀ e ∈ s.fields, EveryNode (fun _ node => ∃ tag c, IsCheckable .builtin tag c node)
      (some (Path.join none e.1.display)) e.2 := by
  obtain ⟨fs, hfs, rfl⟩ := map_eq_ok.mp h
  intro e he
  obtain ⟨e', he', -, out, hout, rfl⟩ := exists_of_forall₂ (compileFields_eq_ok.mp hfs) he
  exact checkable_of_compileField (hforms e' he') hout

theorem returns_errors {value parent : Value} (hnames : TextKeys raw)
    (hforms : ∀ e ∈ raw, EveryForm .builtin IsTextual e.2)
    (hcompile : compile .builtin maxDepth (.mapping kind raw) = .ok s)
    (hmapping : value.isMapping = true) (hvalue : value.IsUsable)
    (hparent : parent.isWritable = true) :
    Returns (s.errors .builtin value .null parent) ErrorSet.TextPaths := by
  refine Validation.returns_checkObject hmapping hvalue
    (textKeys_of_compile hnames hcompile) hparent fun e he => ?_
  refine Validation.answers_checkWithin (checkable_of_compile hforms hcompile e he) ?_
  exact Nat.le_succ_of_le (Value.height_le_maxEntryHeight he).2

/-- **What the compiler accepts, a check goes through.** Under a schema compiled
with the built-in types from fields whose names are texts at every level, with
no pattern for bytes and no option that cannot be written, every usable mapping
has a set of errors, and all errors stand at texts. No fault is met on the way:
each node of the schema, however deep, answers for every usable value, as a
field and as an alternative that is tried. -/
theorem errors_returns {value parent : Value} (hnames : TextKeys raw)
    (hforms : ∀ e ∈ raw, EveryForm .builtin IsTextual e.2)
    (hcompile : compile .builtin maxDepth (.mapping kind raw) = .ok s)
    (hmapping : value.isMapping = true) (hvalue : value.IsUsable)
    (hparent : parent.isWritable = true) :
    (∃ errors, s.errors .builtin value .null parent = .ok errors ∧
      ∀ e ∈ errors, e.1.IsText) ∧
    ∀ e ∈ s.fields, EveryNode (fun _ node => ∀ value name parent, value.IsUsable →
      name.IsText → parent.isWritable = true →
        ∃ errors, validateField .builtin value (.dict node) name parent = .ok errors ∧
          ∀ e ∈ errors, e.1.IsText) (some (Path.join none e.1.display)) e.2 :=
  ⟨returns_errors hnames hforms hcompile hmapping hvalue hparent, fun e he =>
    Validation.everyNode_answers (checkable_of_compile hforms hcompile e he)⟩

/-- A list of texts, against a list that holds a list beside a name that is no
text. -/
theorem errors_returns_list :
    ∃ errors, Schema.errors .builtin ⟨[(.text "a", .dict [(.text "type", .text "array"),
        (.text "child", .list [.dict [(.text "type", .text "string")]])])], 2⟩
      (.dict [(.text "a", .list [.text "b", .list []]), (.int 1, .null)]) .null .null
        = .ok errors ∧ ∀ e ∈ errors, e.1.IsText := by
  have htext : EveryForm .builtin IsTextual (.classObject .text) := by
    refine .of_contains (by rw [Registry.builtin_eq]; cbv) ⟨?_, ?_, ?_⟩
    all_goals
      simp [formFields, TextKeys, Capability.SearchesText, WritableOptions, keys,
        Entries.option?_cons, Entries.option?_nil, Value.entries?]
  have hlist : EveryForm .builtin IsTextual (.list [.classObject .text]) := by
    have hexpand : expand? .builtin (.list [.classObject .text])
        = some [(.text "type", .text "array"), (.text "child", .list [.classObject .text])] := by
      rw [Registry.builtin_eq]
      cbv
    refine .form hexpand ⟨?_, ?_, ?_⟩ ?_
    all_goals
      simp [formParts, formFields, formAlternatives, TextKeys, Capability.SearchesText,
        WritableOptions, keys, Entries.option?_cons, Entries.option?_nil, Value.entries?,
        Value.items?, htext]
  have hcompile : compile .builtin 2 (.dict [(.text "a", .list [.classObject .text])])
      = .ok ⟨[(.text "a", .dict [(.text "type", .text "array"),
        (.text "child", .list [.dict [(.text "type", .text "string")]])])], 2⟩ := by
    rw [Registry.builtin_eq]
    cbv
  have hnames : TextKeys [(.text "a", .list [.classObject .text])] :=
    List.forall_mem_singleton.mpr (Value.isText_text _)
  refine (errors_returns hnames (List.forall_mem_singleton.mpr hlist) hcompile rfl ?_ rfl).1
  simp only [Value.IsUsable.mapping_iff, Value.IsUsable.sequence_iff, List.forall_mem_cons]
  refine ⟨?_, ⟨.of_leaf rfl rfl rfl, List.forall_mem_nil _, List.forall_mem_nil _⟩,
    .of_leaf rfl rfl rfl, List.forall_mem_nil _⟩
  simp [keys, Value.isWritable, Text.isTooLong_of_natAbs_lt]

/-- A check stops at a machine span in a field for a date, which has no seconds to
give, and at a key inside a field that is too long to be put into a path. -/
theorem errors_fail_of_span_or_longKey :
    (∃ s, compile .builtin 1 (.dict [(.text "d", .text "date")]) = .ok s ∧
      s.errors .builtin (.dict [(.text "d", .scalar (.span .second 5))]) .null .null
        = .error (.noFloat (.duration 5000000))) ∧
    ∃ s, compile .builtin 1 (.dict [(.text "a", .dict [])]) = .ok s ∧
      s.errors .builtin (.dict [(.text "a", .dict [(.int Text.firstTooLong, .null)])]) .null .null
        = .error .integerTooLong := by
  constructor
  · refine ⟨⟨[(.text "d", .dict [(.text "type", .text "date")])], 1⟩, ?_, ?_⟩
    · rw [Registry.builtin_eq]
      cbv
    · rw [Registry.builtin_eq]
      cbv
  · refine ⟨⟨[(.text "a", .dict [(.text "type", .text "object"), (.text "child", .dict [])])], 1⟩,
      by rw [Registry.builtin_eq]; cbv, ?_⟩
    rw [Registry.builtin_eq]
    cbv

end Schema

end DataShape
