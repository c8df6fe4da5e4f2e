import DataShape.Proofs.Agreement
import DataShape.Proofs.Relaxation
import DataShape.Proofs.SameKey

/-!
# Values and their representations

One content can be written in several ways: a sequence as a tuple, a list or a packed
array, a number as a machine scalar or a plain one, a mapping in one of its kinds. The
built-in types test for each of these ways on their own, and they agree: a check finds the
same errors in whatever way a value is written. Keys are kept, since they are parts of the
paths.
-/

namespace DataShape

open Capability (isNumber isDate noSeconds? isSequence)
open Entries (option? keys fields alternatives parts isOn)

/-! ## Entries under the same keys -/

namespace Entries

/-- The same keys in the same order, with related values under them. -/
inductive Pointwise (R : Value → Value → Prop) : Entries → Entries → Prop
  | nil : Pointwise R [] []
  | cons {key v v' : Value} {entries entries' : Entries} (value : R v v')
      (rest : Pointwise R entries entries') :
      Pointwise R ((key, v) :: entries) ((key, v') :: entries')

namespace Pointwise

variable {R : Value → Value → Prop} {entries entries' : Entries}

theorem keys_eq (h : Pointwise R entries entries') : keys entries' = keys entries := by
  induction h with
  | nil => rfl
  | cons value rest ih => exact congrArg (List.cons _) ih

theorem refl (hR : ∀ v, R v v) : ∀ entries : Entries, Pointwise R entries entries
  | [] => .nil
  | (_, v) :: rest => .cons (hR v) (refl hR rest)

/-- Under each key are related values, or none in both. -/
theorem getD_get? (h : Pointwise R entries entries') {v : Value} (hv : R v v) (key : Value) :
    R ((get? entries key).getD v) ((get? entries' key).getD v) := by
  unfold get?
  induction h with
  | nil => exact hv
  | @cons name w w' entries entries' value rest ih =>
      rw [List.find?_cons, List.find?_cons]
      cases key.sameKey name with
      | true => exact value
      | false => exact ih

end Pointwise

end Entries

/-! ## One content in two representations -/

/-- The second value is the first one with parts rewritten, at any places and at any
depth: machine numbers, truth values and texts as plain ones, sequences and arrays as
lists, and mappings as plain ones with the same keys. -/
inductive Recast : Value → Value → Prop
  | refl (v : Value) : Recast v v
  | item {s : Scalar} (timeless : s.timing? = none) : Recast (.scalar s) s.item
  | sequence {kind kind' : SequenceKind} {items items' : List Value}
      (kinds : kind' = kind ∨ kind' = .list) (each : List.Forall₂ Recast items items') :
      Recast (.sequence kind items) (.sequence kind' items')
  | array {packing : Packing} {rows rows' : List Value} (each : List.Forall₂ Recast rows rows') :
      Recast (.array packing rows) (.array packing rows')
  | toList {packing : Packing} {rows rows' : List Value}
      (each : List.Forall₂ Recast rows rows') : Recast (.array packing rows) (.list rows')
  | set {frozen : Bool} {items items' : List Value} (each : List.Forall₂ Recast items items') :
      Recast (.set frozen items) (.set frozen items')
  | mapping {kind kind' : MappingKind} {entries entries' : Entries}
      (kinds : kind' = kind ∨ kind' = .plain)
      (each : Entries.Pointwise Recast entries entries') :
      Recast (.mapping kind entries) (.mapping kind' entries')

/-- What the built-in types look at in a value, apart from its parts. -/
structure Alike (v v' : Value) : Prop where
  missing : v = .missing ↔ v' = .missing
  null : v = .null ↔ v' = .null
  text : v.text? = v'.text?
  number : isNumber v = isNumber v'
  bool : v.isBool = v'.isBool
  date : isDate v = isDate v'
  seconds : noSeconds? v = noSeconds? v'
  mapping : v.isMapping = v'.isMapping
  sequence : isSequence v = isSequence v'

namespace Capability

theorem string_isEmpty {v : Value} (hmissing : v ≠ .missing) (hnull : v ≠ .null)
    (field : Entries) : string.isEmpty v field = .ok (v.text? == some "") := by
  cases v with
  | missing => exact absurd rfl hmissing
  | null => exact absurd rfl hnull
  | _ => rfl

/-- A value of another type counts as not given where it is not of the type. -/
theorem isEmpty_eq {c : Capability} (hc : c ∈ builtins) (hstring : c ≠ string) {v : Value}
    (hmissing : v ≠ .missing) (field : Entries) :
    c.isEmpty v field = (c.accepts v field).map not := by
  cases hc using Capability.builtins_cases with
  | string => exact absurd rfl hstring
  | _ =>
      cases v with
      | missing => exact absurd rfl hmissing
      | _ => rfl

end Capability

namespace Alike

open Capability (builtins)

variable {v v' : Value} {c : Capability}

theorem accepts (h : Alike v v') (hc : c ∈ builtins) (field : Entries) :
    c.accepts v field = c.accepts v' field := by
  cases hc using Capability.builtins_cases with
  | string => simp only [Capability.string, h.text]
  | number => simp only [Capability.number, h.text, h.number]
  | boolean => simp only [Capability.boolean, h.bool]
  | date => simp only [Capability.date, h.date, h.seconds]
  | object => simp only [Capability.object, h.mapping]
  | array => simp only [Capability.array, h.sequence]

theorem isEmpty (h : Alike v v') (hc : c ∈ builtins) (field : Entries) :
    c.isEmpty v field = c.isEmpty v' field := by
  by_cases hmissing : v = .missing
  · rw [hmissing, h.missing.mp hmissing]
  · by_cases hstring : c = Capability.string
    · subst hstring
      by_cases hnull : v = .null
      · rw [hnull, h.null.mp hnull]
      · rw [Capability.string_isEmpty hmissing hnull, h.text, Capability.string_isEmpty
          (h.missing.not.mp hmissing) (h.null.not.mp hnull)]
    · rw [Capability.isEmpty_eq hc hstring hmissing,
        Capability.isEmpty_eq hc hstring (h.missing.not.mp hmissing), h.accepts hc]

end Alike

namespace Recast

variable {v v' : Value}

theorem alike (h : Recast v v') : Alike v v' := by
  cases h with
  | refl => exact ⟨Iff.rfl, Iff.rfl, rfl, rfl, rfl, rfl, rfl, rfl, rfl⟩
  | @item s timeless =>
      cases s with
      | moment | span | never => cases timeless
      | _ =>
          exact ⟨by simp [Scalar.item], by simp [Scalar.item], rfl, rfl, rfl, rfl, rfl, rfl, rfl⟩
  | sequence | array | toList | set | mapping =>
      exact ⟨by simp, by simp, rfl, rfl, rfl, rfl, rfl, rfl, rfl⟩

/-- The elements and their number, where the values are walked through. -/
theorem walk (h : Recast v v') (hsequence : isSequence v = true) :
    (v = v') ∨ ∃ elements elements', v.walk = .ok elements ∧ v'.walk = .ok elements' ∧
      List.Forall₂ Recast elements elements' ∧ v.length = v'.length := by
  cases h with
  | refl => exact Or.inl rfl
  | item timeless => simp [isSequence] at hsequence
  | sequence kinds each =>
      exact Or.inr ⟨_, _, rfl, rfl, each, congrArg Except.ok each.length_eq⟩
  | array each => exact Or.inr ⟨_, _, rfl, rfl, each, congrArg Except.ok each.length_eq⟩
  | toList each => exact Or.inr ⟨_, _, rfl, rfl, each, congrArg Except.ok each.length_eq⟩
  | set each => simp [isSequence] at hsequence
  | mapping kinds each => simp [isSequence] at hsequence

theorem entries (h : Recast v v') (hmapping : v.isMapping = true) :
    ∃ kind kind' es es', v = .mapping kind es ∧ v' = .mapping kind' es' ∧
      Entries.Pointwise Recast es es' := by
  cases h with
  | refl =>
      cases v with
      | mapping kind es => exact ⟨kind, kind, es, es, rfl, rfl, .refl .refl es⟩
      | _ => simp [Value.isMapping, Value.entries?] at hmapping
  | mapping kinds each => exact ⟨_, _, _, _, rfl, rfl, each⟩
  | _ => simp [Value.isMapping, Value.entries?] at hmapping

theorem length_eq (h : Recast v v') (hmapping : v.isMapping = true) : v.length = v'.length := by
  obtain ⟨kind, kind', es, es', rfl, rfl, heach⟩ := h.entries hmapping
  have hlength := congrArg List.length heach.keys_eq
  simp only [keys, List.length_map] at hlength
  exact congrArg Except.ok hlength.symm

/-! ## Listed options -/

theorem equal_item_text (a : Value) (s : String) :
    a.equal (.scalar (.text s)) = a.equal (.text s) := by
  unfold Value.equal
  rw [Value.sameAs_of_isPartless_right rfl, Value.sameAs_of_isPartless_right rfl]
  unfold Value.sameLeaf
  cases a with
  | scalar x => cases x <;> rfl
  | _ => rfl

/-- A truth value is a number of every format. -/
theorem roundTo_bool (width : FloatWidth) (b : Bool) :
    Value.Amount.roundTo width.format (.rational b.toNat) = some (.rational b.toNat) := by
  cases width with
  | _ =>
      cases b with
      | _ => decide +kernel

theorem equal_item_bool (a : Value) (b : Bool) :
    a.equal (.scalar (.bool b)) = a.equal (.bool b) := by
  unfold Value.equal
  rw [Value.sameAs_of_isPartless_right rfl, Value.sameAs_of_isPartless_right rfl]
  unfold Value.sameLeaf
  cases a with
  | scalar x =>
      cases x with
      | float width x =>
          -- the plain value takes the format of the machine number that it meets
          show Value.Quantity.same _ ⟨some (.rational b.toNat), some (.rational 0)⟩
            = Value.Quantity.same _ ⟨Value.Amount.roundTo width.format (.rational b.toNat),
                some (.rational 0)⟩
          rw [roundTo_bool]
          rfl
      | _ => rfl
  | _ => rfl

/-- Texts and truth values are equal to the same values in both representations. -/
theorem equal_eq (h : Recast v v') (hlisted : v.text?.isSome ∨ v.isBool = true) (a : Value) :
    a.equal v = a.equal v' := by
  cases h with
  | refl => rfl
  | @item s timeless =>
      cases s with
      | text s => exact equal_item_text a s
      | bool b => exact equal_item_bool a b
      | _ => simp [Value.text?, Value.isBool] at hlisted
  | _ => simp [Value.text?, Value.isBool] at hlisted

theorem isArray_eq_false (hlisted : v.text?.isSome ∨ v.isBool = true) : v.isArray = false := by
  rcases hlisted with htext | hbool
  · obtain ⟨s, hs⟩ := Option.isSome_iff_exists.mp htext
    exact Capability.isArray_of_text? hs
  · exact Capability.isArray_of_isBool hbool

theorem anyEquals_eq (h : Recast v v') (hlisted : v.text?.isSome ∨ v.isBool = true) :
    ∀ {options : List Value}, (∀ o ∈ options, o.text?.isSome ∨ o.isBool = true) →
      v.anyEquals options = v'.anyEquals options
  | [], _ => rfl
  | o :: rest, hoptions => by
      obtain ⟨ho, hrest⟩ := List.forall_mem_cons.mp hoptions
      have hlisted' : v'.text?.isSome ∨ v'.isBool = true := by
        rwa [← h.alike.text, ← h.alike.bool]
      have heq : o.equals v = o.equals v' := by
        rw [Value.equals, Value.equals, isArray_eq_false ho, isArray_eq_false hlisted,
          isArray_eq_false hlisted', h.equal_eq hlisted]
        rfl
      rw [Value.anyEquals, Value.anyEquals, heq, h.anyEquals_eq hlisted hrest]

end Recast

/-! ## Checks that do not depend on the representation -/

namespace Validation

open Capability (builtins)

/-- Under the field the check finds the same in all representations. -/
def Insensitive (check : Check) (field : Value) : Prop :=
  ∀ v v' name parent, Recast v v' → check v field name parent = check v' field name parent

variable {check : Check} {tag : String} {c : Capability} {v v' parent path : Value}
  {field : Entries} {kind : MappingKind}

/-- A canonical node of a built-in type; no options are listed for numbers, which one
machine format may take for equal and another not. -/
structure IsPlainNode (node : Entries) : Prop where
  canonical : IsCanonicalNode .builtin node
  unlisted : Entries.tag? node = some Capability.number.name → option? node "enum" = none

theorem text_or_bool_of_accepts (hfield : IsCanonical .builtin tag c field)
    (hnumber : c = Capability.number → option? field "enum" = none)
    (henum : (option? field "enum").isSome) {w : Value} (haccepted : c.accepts w field = .ok true) :
    w.text?.isSome ∨ w.isBool = true := by
  have hmem := (Registry.of_capability?_builtin hfield.registered).1
  have hunlisted : "enum" ∉ c.properties → option? field "enum" = none :=
    Capability.option?_eq_none_of_not_declared hfield.known (by decide)
  cases hmem using Capability.builtins_cases with
  | string =>
      refine Or.inl ?_
      cases htext : w.text? with
      | none => simp [Capability.string, htext] at haccepted
      | some s => rfl
  | number => simp [hnumber rfl] at henum
  | boolean => exact Or.inr (Except.ok.inj haccepted)
  | _ =>
      rw [hunlisted (by decide)] at henum
      simp at henum

theorem checkOption_eq (hfield : IsCanonical .builtin tag c field)
    (hnumber : c = Capability.number → option? field "enum" = none)
    (haccepted : c.accepts v field = .ok true) (h : Recast v v') :
    checkOption v field path = checkOption v' field path := by
  unfold checkOption
  cases henum : option? field "enum" with
  | none => rfl
  | some w =>
      obtain ⟨options, rfl, hoptions⟩ := hfield.enum w henum
      have hsome : (option? field "enum").isSome := by simp [henum]
      have hlisted := text_or_bool_of_accepts hfield hnumber hsome haccepted
      have hin : v.isIn (.list options) = v'.isIn (.list options) :=
        h.anyEquals_eq hlisted fun o ho =>
          text_or_bool_of_accepts hfield hnumber hsome (hoptions o ho)
      simp only [hin]

theorem checkFields_eq {entries entries' : Entries}
    (h : Entries.Pointwise Recast entries entries') :
    ∀ {schema : Entries} {acc : ErrorSet}, (∀ e ∈ schema, Insensitive check e.2) →
      checkFields check entries parent acc schema = checkFields check entries' parent acc schema
  | [], _, _ => rfl
  | (name, field) :: rest, acc, hfields => by
      obtain ⟨hfield, hrest⟩ := List.forall_mem_cons.mp hfields
      rw [checkFields, checkFields, hfield _ _ name parent (h.getD_get? (.refl _) name)]
      exact bind_congr fun more _ => checkFields_eq h hrest

theorem checkObject_eq {schema : Entries} (h : Recast v v') (hmapping : v.isMapping = true)
    (hfields : ∀ e ∈ schema, Insensitive check e.2) :
    checkObject check v (.dict schema) path = checkObject check v' (.dict schema) path := by
  obtain ⟨kind, kind', es, es', rfl, rfl, heach⟩ := h.entries hmapping
  show (checkFields check es path [] schema >>= fun errors => _) =
    (checkFields check es' path [] schema >>= fun errors => _)
  rw [checkFields_eq heach hfields, heach.keys_eq]

theorem matchesAny_eq {i : Nat} (h : Recast v v') :
    ∀ {choices : List Value}, (∀ choice ∈ choices, Insensitive check choice) →
      Matching.matchesAny check v i path choices = Matching.matchesAny check v' i path choices
  | [], _ => rfl
  | choice :: rest, hchoices => by
      obtain ⟨hchoice, hrest⟩ := List.forall_mem_cons.mp hchoices
      rw [Matching.matchesAny, Matching.matchesAny, hchoice _ _ _ _ h, matchesAny_eq h hrest]

theorem matchElements_eq {choices elements elements' : List Value} {i : Nat} {acc : ErrorSet}
    (h : List.Forall₂ Recast elements elements')
    (hchoices : ∀ choice ∈ choices, Insensitive check choice) :
    Matching.matchElements check choices path i acc elements
      = Matching.matchElements check choices path i acc elements' := by
  induction h generalizing i acc with
  | nil => rfl
  | cons hfirst hrest ih =>
      rw [Matching.matchElements, Matching.matchElements, matchesAny_eq hfirst hchoices]
      refine bind_congr fun matched _ => ?_
      split
      · exact ih
      · exact bind_congr fun place _ => ih

theorem matchArray_eq (h : Recast v v') (hsequence : isSequence v = true)
    {items : List Value} (hchild : option? field "child" = some (.list items))
    (hchoices : ∀ choice ∈ items, Insensitive check choice) :
    Matching.matchArray check v (.mapping kind field) path
      = Matching.matchArray check v' (.mapping kind field) path := by
  have hsequence' : isSequence v' = true := h.alike.sequence ▸ hsequence
  rcases h.walk hsequence with rfl | ⟨elements, elements', hwalk, hwalk', heach, hlength⟩
  · rfl
  · have hempty : elements.isEmpty = elements'.isEmpty := by
      cases heach with
      | nil => rfl
      | cons => rfl
    have hrounds : Matching.matchElements check items path 0 [] elements
        = Matching.matchElements check items path 0 [] elements' :=
      matchElements_eq heach hchoices
    have hmatch : ((Value.list items).walk >>= fun choices =>
        Matching.matchElements check choices path 0 [] elements)
        = (Value.list items).walk >>= fun choices =>
          Matching.matchElements check choices path 0 [] elements' := hrounds
    have hwalks : (v.walk >>= fun elements => if elements.isEmpty then pure [] else
        (Value.list items).walk >>= fun choices =>
          Matching.matchElements check choices path 0 [] elements)
        = (v'.walk >>= fun elements => if elements.isEmpty then pure [] else
        (Value.list items).walk >>= fun choices =>
          Matching.matchElements check choices path 0 [] elements) := by
      rw [hwalk, hwalk']
      show (if elements.isEmpty then pure [] else _) = (if elements'.isEmpty then pure [] else _)
      rw [hempty, hmatch]
    simp only [Matching.matchArray, hsequence, hsequence', Bool.not_true, Bool.false_eq_true,
      if_false, hlength, hchild, lift_eq, Option.getD_some, hwalks]

theorem checkParts_eq (hfield : IsCanonical .builtin tag c field)
    (haccepted : c.accepts v field = .ok true) (h : Recast v v')
    (hparts : ∀ part ∈ parts field, Insensitive check part) :
    checkParts check v kind field path = checkParts check v' kind field path := by
  by_cases hobject : tag = Capability.objectTag
  · subst hobject
    obtain rfl : Capability.object = c := Option.some.inj hfield.registered
    have hmapping : v.isMapping = true := Except.ok.inj haccepted
    obtain ⟨fs, hchild⟩ := hfield.object rfl
    have hfields : fields field = fs := Entries.fields_of_child hfield.tag?_eq hchild
    have hobjects : checkObject check v (.dict fs) path = checkObject check v' (.dict fs) path := by
      refine checkObject_eq h hmapping fun e he => ?_
      exact hparts _ (List.mem_append_left _ (List.mem_map_of_mem (hfields ▸ he)))
    rw [checkParts_object hfield.type, checkParts_object hfield.type, hchild, Option.getD_some,
      h.length_eq hmapping, hobjects]
  · by_cases harray : tag = Capability.arrayTag
    · subst harray
      obtain rfl : Capability.array = c := Option.some.inj hfield.registered
      obtain ⟨items, hchild⟩ := hfield.array rfl
      have halternatives := Entries.alternatives_of_child hfield.tag?_eq hchild
      rw [checkParts_array hfield.type, checkParts_array hfield.type]
      refine matchArray_eq h (Except.ok.inj haccepted) hchild fun choice hchoice => ?_
      exact hparts _ (List.mem_append_right _ (halternatives ▸ hchoice))
    · rw [checkParts_leaf hfield.type hobject harray, checkParts_leaf hfield.type hobject harray]

theorem checkValue_eq (hfield : IsCanonical .builtin tag c field)
    (hnumber : c = Capability.number → option? field "enum" = none) (h : Recast v v')
    (hparts : ∀ part ∈ parts field, Insensitive check part) :
    checkValue check c v kind field path = checkValue check c v' kind field path := by
  have hmem := (Registry.of_capability?_builtin hfield.registered).1
  unfold checkValue
  rw [h.alike.isEmpty hmem, h.alike.accepts hmem, ite_bind, ite_bind]
  refine bind_congr fun isNotGiven _ => ?_
  dsimp only
  split
  · rfl
  · refine bind_congr fun isAccepted haccepted => ?_
    cases isAccepted with
    | false => rfl
    | true =>
        rw [← h.alike.accepts hmem] at haccepted
        rw [checkOption_eq hfield hnumber haccepted h, checkParts_eq hfield haccepted h hparts]

/-- The induction is on the levels: a node decides by what is alike in both values, and
its parts are below. -/
theorem insensitive_checkWithin : ∀ {levels : Nat} {place : Option String} {field : Value},
    EveryNode (fun _ node => IsPlainNode node) place field →
    Insensitive (checkWithin .builtin levels) field
  | 0, _, _, _ => fun _ _ _ _ _ => rfl
  | levels + 1, place, _, hnode => by
      cases hnode with
      | @node _ field here below =>
          obtain ⟨⟨tag, c, hfield⟩, hunlisted⟩ := here
          intro v v' name parent h
          have hparts : ∀ part ∈ parts field, Insensitive (checkWithin .builtin levels) part :=
            (Entries.forall_mem_parts_iff place).mpr fun part hpart =>
              insensitive_checkWithin (below part hpart)
          have hnumber : c = Capability.number → option? field "enum" = none := by
            rintro rfl
            obtain ⟨-, rfl⟩ := Registry.of_capability?_builtin hfield.registered
            exact hunlisted hfield.tag?_eq
          have hmissing : isMissing v = isMissing v' := by
            rw [Bool.eq_iff_iff, isMissing_iff, isMissing_iff]
            exact h.alike.missing
          rw [checkWithin, checkWithin]
          refine bind_congr fun path _ => ?_
          dsimp only
          rw [hmissing, hfield.type, Option.getD_some, Registry.lookup?_text, hfield.registered]
          dsimp only
          rw [checkValue_eq hfield hnumber h hparts]

end Validation

/-! ## The errors of a value in two representations -/

/-- No options are listed for the numbers in a schema. -/
def ListsNoNumbers (schema : Entries) : Prop :=
  ∀ e ∈ schema, EveryNode (fun _ node =>
    Entries.tag? node = some Capability.number.name → option? node "enum" = none)
    (some (Path.join none e.1.display)) e.2

/-- A word or a truth value is never too long, so every option that a plain node lists
can be told. -/
theorem Validation.IsPlainNode.writableOptions {node : Entries} (h : IsPlainNode node) :
    WritableOptions node := by
  obtain ⟨⟨tag, c, hfield⟩, hunlisted⟩ := h
  intro options henum
  obtain ⟨listed, rfl, haccepted⟩ := hfield.enum options henum
  have hnumber : c = Capability.number → option? node "enum" = none := by
    rintro rfl
    obtain ⟨-, rfl⟩ := Registry.of_capability?_builtin hfield.registered
    exact hunlisted hfield.tag?_eq
  refine Value.areWritable_iff.mpr fun o ho => ?_
  have hsome : (option? node "enum").isSome := by simp [henum]
  rcases text_or_bool_of_accepts hfield hnumber hsome (haccepted o ho) with htext | hbool
  · obtain ⟨s, hs⟩ := Option.isSome_iff_exists.mp htext
    exact Value.isWritable_of_text? hs
  · cases o with
    | bool => rfl
    | scalar x => rfl
    | _ => cases hbool

/-- **Errors depend on what a value says and not on how it is written.** Under a
canonical schema of the built-in types that lists no numbers, let parts of a mapping be
rewritten, as many as one likes and at any depth: tuples as lists, arrays as lists of
their rows, machine numbers, truth values and texts as plain ones, mappings of any kind
as plain ones. The check of the one value ends as that of the other, with the same errors
in the same order; and a value that nothing stops the check of has errors. -/
theorem Schema.errors_eq_of_recast {s : Schema} {value value' parent : Value}
    (hs : IsPlain s.fields) (hnumbers : ListsNoNumbers s.fields)
    (hmapping : value.isMapping = true) (h : Recast value value') :
    s.errors .builtin value' .null parent = s.errors .builtin value .null parent ∧
      (value.IsUsable → parent.isWritable = true →
        ∃ errors, s.errors .builtin value .null parent = .ok errors) := by
  have hnodes : ∀ e ∈ s.fields, EveryNode (fun _ node => Validation.IsPlainNode node)
      (some (Path.join none e.1.display)) e.2 := fun e he =>
    ((hs.canonical e he).and (hnumbers e he)).mono fun _ _ hnode => ⟨hnode.1, hnode.2⟩
  constructor
  · refine (Validation.checkObject_eq h hmapping fun e he => ?_).symm
    exact Validation.insensitive_checkWithin (hnodes e he)
  · intro hvalue hparent
    have htellable : IsTellable s.fields :=
      ⟨hs, fun e he => (hnodes e he).mono fun _ _ hnode => hnode.writableOptions⟩
    obtain ⟨errors, herrors, -⟩ :=
      returns_errors_of_isTellable htellable hmapping hvalue hparent
    exact ⟨errors, herrors⟩

/-- An array with a word that is not listed and a machine integer, and the list and the
integer that say the same. -/
theorem Schema.errors_eq_of_recast_words :
    Schema.errors .builtin ⟨wordSchema, 64⟩ (.dict [(.text "a", .list [.text "x", .text "z"]),
        (.text "b", .int 1)]) .null .null
      = Schema.errors .builtin ⟨wordSchema, 64⟩ (.mapping .ordered
        [(.text "a", .array .text [.scalar (.text "x"), .scalar (.text "z")]),
          (.text "b", .scalar (.int .int8 1))]) .null .null ∧
    ∃ errors, Schema.errors .builtin ⟨wordSchema, 64⟩ (.mapping .ordered
        [(.text "a", .array .text [.scalar (.text "x"), .scalar (.text "z")]),
          (.text "b", .scalar (.int .int8 1))]) .null .null = .ok errors := by
  have hnumbers : ListsNoNumbers wordSchema := by
    refine everyNode_wordSchema ?_ ?_ ?_
    all_goals
      simp [wordNode, oneOf, Entries.tag?, Entries.option?_cons, Entries.option?_nil,
        Capability.number]
  have hrecast : Recast
      (.mapping .ordered [(.text "a", .array .text [.scalar (.text "x"), .scalar (.text "z")]),
        (.text "b", .scalar (.int .int8 1))])
      (.dict [(.text "a", .list [.text "x", .text "z"]), (.text "b", .int 1)]) := by
    refine .mapping (Or.inr rfl) (.cons (.toList ?_) (.cons (.item rfl) .nil))
    exact .cons (.item rfl) (.cons (.item rfl) .nil)
  obtain ⟨hsame, hreturns⟩ := @errors_eq_of_recast ⟨wordSchema, 64⟩ _ _ .null
    isTellable_wordSchema.toIsPlain hnumbers rfl hrecast
  refine ⟨hsame, hreturns ?_ rfl⟩
  simp only [Value.IsUsable.mapping_iff, Value.IsUsable.array_iff, List.forall_mem_cons]
  exact ⟨by simp [keys, Value.isWritable],
    ⟨.of_leaf rfl rfl rfl, .of_leaf rfl rfl rfl, List.forall_mem_nil _⟩,
    .of_leaf rfl rfl rfl, List.forall_mem_nil _⟩

/-- A machine moment is no date where the day that it plainly is one, and a machine number
as a key is told in fewer digits than the plain number. -/
theorem Schema.errors_ne_of_recast_day :
    Schema.errors .builtin ⟨[(.text "d", .dict [(.text "type", .text "date")])], 64⟩
        (.dict [(.text "d", .scalar (.moment .day 0))]) .null .null
      = .ok [(.text "d", "field is not of the correct type")] ∧
    Schema.errors .builtin ⟨[(.text "d", .dict [(.text "type", .text "date")])], 64⟩
        (.dict [(.text "d", Scalar.item (.moment .day 0))]) .null .null = .ok [] ∧
    Schema.errors .builtin ⟨[], 64⟩
        (.dict [(.scalar (.float .float32 (.finite false 13421773 (-27))), .null)]) .null .null
      = .ok [(.text "0.1", "unknown property")] ∧
    Schema.errors .builtin ⟨[], 64⟩
        (.dict [(Scalar.item (.float .float32 (.finite false 13421773 (-27))), .null)]) .null .null
      = .ok [(.text "0.10000000149011612", "unknown property")] := by
  have hkey : ∀ key : Value, key.isWritable = true →
      Schema.errors .builtin ⟨[], 64⟩ (.dict [(key, .null)]) .null .null
        = .ok [(.text key.display, "unknown property")] := by
    intro key hkey
    show (key.checkWritable >>= _) = _
    rw [Value.checkWritable_eq_ok.mpr hkey]
    rfl
  have hmachine : (Value.scalar (.float .float32 (.finite false 13421773 (-27)))).display
      = "0.1" := by
    decide +kernel
  have hplain : (Value.float (.finite false 13421773 (-27))).display
      = "0.10000000149011612" := by
    decide +kernel
  have hday : Scalar.item (.moment .day 0) = .date ⟨1970, 1, 1⟩ := rfl
  refine ⟨?_, ?_, ?_, ?_⟩
  · rw [Registry.builtin_eq]
    cbv
  · rw [Registry.builtin_eq, hday]
    cbv
  · rw [hkey _ rfl, hmachine]
  · rw [Scalar.item, hkey _ rfl, hplain]

end DataShape
