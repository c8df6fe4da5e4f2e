import DataShape.Proofs.Compilation
import DataShape.Proofs.Validation

/-!
# What a check asks the registry

The check of a value asks the registry for the types of the nodes of the schema
and for nothing else. In a canonical schema these are given by their tags, so
that two registries with the same capabilities under these tags find the same
errors in every value, and fail in the same way. A check hands its own check of
the level below to the parts of a node alone; the rest of it does not look at the
registry.
-/

namespace DataShape

open Entries (option? fields alternatives parts)

/-! ## Tags in a tree -/

namespace Value

/-- Every node of the tree names its type by a tag with the property. -/
def EveryTag (P : String → Prop) (v : Value) : Prop :=
  ∃ path, EveryNode (fun _ node => ∃ tag, option? node "type" = some (.text tag) ∧ P tag) path v

namespace EveryTag

variable {P Q : String → Prop} {v : Value}

theorem at_root (h : v.EveryTag P) :
    ∃ field tag, v = .dict field ∧ option? field "type" = some (.text tag) ∧ P tag := by
  obtain ⟨path, h⟩ := h
  cases h with
  | @node _ field here below =>
      obtain ⟨tag, htype, hP⟩ := here
      exact ⟨field, tag, rfl, htype, hP⟩

theorem of_mem_parts {field : Entries} (h : (Value.dict field).EveryTag P) :
    ∀ part ∈ parts field, part.EveryTag P := by
  obtain ⟨path, h⟩ := h
  exact (Entries.forall_mem_parts_iff path).mpr fun part hpart => ⟨part.1, h.at_parts part hpart⟩

theorem mono (hPQ : ∀ tag, P tag → Q tag) (h : v.EveryTag P) : v.EveryTag Q := by
  obtain ⟨path, h⟩ := h
  refine ⟨path, h.mono fun _ field here => ?_⟩
  obtain ⟨tag, htype, hP⟩ := here
  exact ⟨tag, htype, hPQ tag hP⟩

end EveryTag

end Value

/-! ## Checks that agree on the parts of a node -/

namespace Validation

/-- The checks find the same under the field, whatever the value and the path. -/
def AgreeOn (check check' : Check) (field : Value) : Prop :=
  ∀ value name parent, check value field name parent = check' value field name parent

theorem bind_congr {α β : Type} {x : Except Fault α} {f g : α → Except Fault β}
    (h : ∀ a, x = .ok a → f a = g a) : (x >>= f) = (x >>= g) := by
  cases x with
  | error fault => rfl
  | ok a => exact h a rfl

variable {check check' : Check} {c : Capability} {value path parent : Value} {field : Entries}
  {kind : MappingKind} {acc : ErrorSet}

theorem checkFields_congr {entries schema : Entries}
    (hfields : ∀ e ∈ schema, AgreeOn check check' e.2) :
    checkFields check entries parent acc schema = checkFields check' entries parent acc schema := by
  induction schema generalizing acc with
  | nil => rfl
  | cons e rest ih =>
      obtain ⟨hhead, hrest⟩ := List.forall_mem_cons.mp hfields
      rw [checkFields, checkFields, hhead]
      exact bind_congr fun more _ => ih hrest

theorem checkObject_congr {schema : Entries} (hfields : ∀ e ∈ schema, AgreeOn check check' e.2) :
    checkObject check value (.mapping kind schema) path
      = checkObject check' value (.mapping kind schema) path := by
  cases value with
  | mapping valueKind entries =>
      show (checkFields check entries path [] schema >>= fun errors => _) =
        (checkFields check' entries path [] schema >>= fun errors => _)
      rw [checkFields_congr hfields]
  | _ => rfl

/-- An object is checked with the fields that its node has. -/
theorem checkChild_congr (htag : Entries.tag? field = some Capability.objectTag)
    (hfields : ∀ e ∈ fields field, AgreeOn check check' e.2) :
    checkObject check value ((option? field "child").getD (.dict [])) path
      = checkObject check' value ((option? field "child").getD (.dict [])) path := by
  rw [fields, if_pos htag] at hfields
  cases hchild : option? field "child" with
  | none => exact checkObject_congr (List.forall_mem_nil _)
  | some child =>
      rw [hchild] at hfields
      cases child with
      | mapping schemaKind schema => exact checkObject_congr hfields
      -- a schema that is no mapping is at fault before any check
      | _ => cases value <;> rfl

theorem matchesAny_congr {element : Value} {i : Nat} {choices : List Value}
    (hchoices : ∀ choice ∈ choices, AgreeOn check check' choice) :
    Matching.matchesAny check element i path choices
      = Matching.matchesAny check' element i path choices := by
  induction choices with
  | nil => rfl
  | cons choice rest ih =>
      obtain ⟨hhead, hrest⟩ := List.forall_mem_cons.mp hchoices
      rw [Matching.matchesAny, Matching.matchesAny, hhead, ih hrest]

theorem matchElements_congr {choices elements : List Value} {i : Nat}
    (hchoices : ∀ choice ∈ choices, AgreeOn check check' choice) :
    Matching.matchElements check choices path i acc elements
      = Matching.matchElements check' choices path i acc elements := by
  induction elements generalizing i acc with
  | nil => rfl
  | cons element rest ih =>
      rw [Matching.matchElements, Matching.matchElements, matchesAny_congr hchoices]
      refine bind_congr fun matched _ => ?_
      split
      · exact ih
      · exact bind_congr fun place _ => ih

/-- A sequence is matched with the alternatives that its node has. -/
theorem matchArray_congr (htag : Entries.tag? field = some Capability.arrayTag)
    (hchoices : ∀ choice ∈ alternatives field, AgreeOn check check' choice) :
    Matching.matchArray check value (.mapping kind field) path
      = Matching.matchArray check' value (.mapping kind field) path := by
  rw [alternatives_of_tag htag] at hchoices
  have helements : ∀ elements,
      (((option? field "child").getD .null).walk >>= fun choices =>
        Matching.matchElements check choices path 0 [] elements) =
      (((option? field "child").getD .null).walk >>= fun choices =>
        Matching.matchElements check' choices path 0 [] elements) := by
    intro elements
    refine bind_congr fun choices hwalk => ?_
    rw [Value.members_of_walk hwalk] at hchoices
    exact matchElements_congr hchoices
  simp only [Matching.matchArray, lift_eq, helements]

/-- The parts of a value are checked with the parts of its node alone. -/
theorem checkParts_congr (hparts : ∀ part ∈ parts field, AgreeOn check check' part) :
    checkParts check value kind field path = checkParts check' value kind field path := by
  have hfields : ∀ e ∈ fields field, AgreeOn check check' e.2 := fun e he =>
    hparts _ (List.mem_append_left _ (List.mem_map_of_mem he))
  have hchoices : ∀ choice ∈ alternatives field, AgreeOn check check' choice := fun _ hmem =>
    hparts _ (List.mem_append_right _ hmem)
  refine bind_congr fun tag htag => ?_
  dsimp only
  rw [← tagOf_eq_ok htag]
  by_cases hobject : Entries.tag? field = some Capability.objectTag
  · rw [if_pos hobject, if_pos hobject, checkChild_congr hobject hfields]
  · rw [if_neg hobject, if_neg hobject]
    by_cases harray : Entries.tag? field = some Capability.arrayTag
    · rw [if_pos harray, if_pos harray, matchArray_congr harray hchoices]
    · rw [if_neg harray, if_neg harray]

theorem checkValue_congr (hparts : ∀ part ∈ parts field, AgreeOn check check' part) :
    checkValue check c value kind field path = checkValue check' c value kind field path := by
  simp only [checkValue, checkParts_congr hparts]

/-! ## Registries that agree on the tags of a tree -/

/-- The induction is on the levels: a level asks for the type of its node, and the
parts of the node are below. -/
theorem agreeOn_checkWithin {r r' : Registry} : ∀ {levels : Nat} {field : Value},
    field.EveryTag (fun tag => r.capability? tag = r'.capability? tag) →
    AgreeOn (checkWithin r levels) (checkWithin r' levels) field
  | 0, _, _ => fun _ _ _ => rfl
  | levels + 1, field, h => by
      intro value name parent
      obtain ⟨node, tag, rfl, htype, hagree⟩ := h.at_root
      have hknown : r.lookup? ((option? node "type").getD .null)
          = r'.lookup? ((option? node "type").getD .null) := by
        rw [htype, Option.getD_some, r.lookup?_text, r'.lookup?_text, hagree]
      rw [checkWithin, checkWithin]
      refine bind_congr fun path _ => ?_
      dsimp only
      rw [hknown]
      have hparts : ∀ part ∈ parts node,
          AgreeOn (checkWithin r levels) (checkWithin r' levels) part :=
        fun part hpart => agreeOn_checkWithin (h.of_mem_parts part hpart)
      simp only [checkValue_congr hparts]

end Validation

open Validation

/-- The errors of a mapping depend on the registry through the capabilities under
the tags in the schema. -/
theorem validateObject_congr {r r' : Registry} {schema : Entries}
    (h : ∀ e ∈ schema, e.2.EveryTag fun tag => r.capability? tag = r'.capability? tag)
    (value parent : Value) :
    validateObject r value (.dict schema) parent = validateObject r' value (.dict schema) parent :=
  checkObject_congr fun e he => agreeOn_checkWithin (h e he)

end DataShape
