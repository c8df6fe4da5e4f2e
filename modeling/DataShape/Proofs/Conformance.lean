import DataShape.Schema
import DataShape.Proofs.Registry
import DataShape.Proofs.Validation
import Mathlib

/-!
# Which values conform to a schema

Conformance says what a valid value is, with no mention of paths, messages or
the order of checks. A check that returns decides it: no errors are found
exactly in the values that conform.

The check of a value and the trials of the elements in it call each other. Both
only ever ask whether a set of errors is empty, so the step from one level to
the next is stated for any check that decides conformance at the level below.
-/

namespace DataShape

open Entries (fields alternatives isOn keys)

/-! ## The relation -/

mutual

/-- The value, or its absence, conforms to a field. -/
inductive Conforms (r : Registry) : (value field : Value) → Prop
  | absent {kind : MappingKind} {field : Entries}
      (optional : isOn field "required" = false) :
      Conforms r .missing (.mapping kind field)
  | present {kind : MappingKind} {value : Value} {field : Entries} {c : Capability}
      (there : value ≠ .missing) (passes : Passes r c value field)
      (filled : Entries.tag? field = some Capability.objectTag ∨
        Entries.tag? field = some Capability.arrayTag → ¬ IsLeftEmpty value field)
      (object : Entries.tag? field = some Capability.objectTag →
        ConformsToObject r value (fields field))
      (array : Entries.tag? field = some Capability.arrayTag → alternatives field ≠ [] →
        ∀ element ∈ value.members, ConformsToSome r element (alternatives field)) :
      Conforms r value (.mapping kind field)

/-- The value is a mapping of declared names, and under each of them it holds
what conforms to the field. -/
inductive ConformsToObject (r : Registry) : (value : Value) → (schema : Entries) → Prop
  | mapping {kind : MappingKind} {entries schema : Entries}
      (known : ∀ key ∈ keys entries, Entries.contains schema key = true)
      (declared : ∀ e ∈ schema,
        Conforms r ((Entries.get? entries e.1).getD .missing) e.2) :
      ConformsToObject r (.mapping kind entries) schema

/-- The element conforms to one of the alternatives. -/
inductive ConformsToSome (r : Registry) : (element : Value) → (choices : List Value) → Prop
  | alternative {element field : Value} {choices : List Value} (among : field ∈ choices)
      (conforms : Conforms r element field) : ConformsToSome r element choices

end

variable {r : Registry}

theorem conforms_missing_iff {kind : MappingKind} {field : Entries} :
    Conforms r .missing (.mapping kind field) ↔ isOn field "required" = false := by
  constructor
  · intro h
    cases h with
    | absent optional => exact optional
    | present there => exact absurd rfl there
  · exact .absent

theorem conformsToObject_iff {kind : MappingKind} {entries schema : Entries} :
    ConformsToObject r (.mapping kind entries) schema ↔
      (∀ key ∈ keys entries, Entries.contains schema key = true) ∧
      ∀ e ∈ schema, Conforms r ((Entries.get? entries e.1).getD .missing) e.2 := by
  constructor
  · intro h
    cases h with
    | mapping known declared => exact ⟨known, declared⟩
  · exact fun h => .mapping h.1 h.2

theorem conformsToSome_iff {element : Value} {choices : List Value} :
    ConformsToSome r element choices ↔ ∃ field ∈ choices, Conforms r element field := by
  constructor
  · intro h
    cases h with
    | alternative among conforms => exact ⟨_, among, conforms⟩
  · rintro ⟨field, among, conforms⟩
    exact .alternative among conforms

/-- A value that is there passes the check of its own field if it conforms. -/
theorem Conforms.passes {kind : MappingKind} {value : Value} {field : Entries}
    (h : Conforms r value (.mapping kind field)) (there : value ≠ .missing) :
    ∃ c, Passes r c value field := by
  cases h with
  | absent => exact absurd rfl there
  | present _ passes => exact ⟨_, passes⟩

/-- A value that is there and left empty does not conform to a field for parts. -/
theorem Conforms.not_leftEmpty {kind : MappingKind} {value : Value} {field : Entries}
    (h : Conforms r value (.mapping kind field)) (there : value ≠ .missing)
    (htag : Entries.tag? field = some Capability.objectTag ∨
      Entries.tag? field = some Capability.arrayTag) : ¬ IsLeftEmpty value field := by
  cases h with
  | absent => exact absurd rfl there
  | present _ _ filled => exact filled htag

/-! ## No errors among several -/

namespace ErrorSet

theorem merge_eq_nil_iff {errors more : ErrorSet} :
    errors.merge more = [] ↔ errors = [] ∧ more = [] := by
  induction more generalizing errors with
  | nil => simp [merge_nil]
  | cons e rest ih =>
      rw [merge, List.foldl_cons]
      change (errors.put e.1 e.2).merge rest = [] ↔ _
      rw [ih]
      simp [put_ne_nil]

end ErrorSet

namespace Validation

/-- The check returns no errors exactly for values that conform. -/
def Decides (r : Registry) (check : Check) : Prop :=
  ∀ value field name parent errors, check value field name parent = .ok errors →
    (errors = [] ↔ Conforms r value field)

variable {check : Check} {parent path : Value} {acc errors : ErrorSet}

theorem checkFields_eq_nil_iff (hc : Decides r check) {entries : Entries} :
    ∀ {schema : Entries} {acc : ErrorSet},
      checkFields check entries parent acc schema = .ok errors →
      (errors = [] ↔ acc = [] ∧
        ∀ e ∈ schema, Conforms r ((Entries.get? entries e.1).getD .missing) e.2)
  | [], acc, h => by
      rw [checkFields, Except.ok.injEq] at h
      simp [h]
  | (name, field) :: rest, acc, h => by
      rw [checkFields] at h
      obtain ⟨more, hmore, h⟩ := bind_eq_ok.mp h
      rw [checkFields_eq_nil_iff hc h, ErrorSet.merge_eq_nil_iff,
        hc _ _ _ _ _ hmore, List.forall_mem_cons, and_assoc]

theorem checkKeys_eq_nil_iff {schema : Entries} :
    ∀ {names : List Value} {acc : ErrorSet},
      checkKeys schema parent acc names = .ok errors →
      (errors = [] ↔ acc = [] ∧ ∀ key ∈ names, Entries.contains schema key = true)
  | [], acc, h => by
      rw [checkKeys, Except.ok.injEq] at h
      simp [h]
  | key :: rest, acc, h => by
      rw [checkKeys] at h
      rw [List.forall_mem_cons]
      split at h
      · rename_i hknown
        rw [checkKeys_eq_nil_iff h]
        simp [hknown]
      · rename_i hunknown
        obtain ⟨-, -, h⟩ := bind_eq_ok.mp h
        obtain ⟨place, -, h⟩ := bind_eq_ok.mp h
        rw [checkKeys_eq_nil_iff h]
        simp [hunknown, ErrorSet.put_ne_nil]

theorem checkObject_eq_nil_iff (hc : Decides r check) {value : Value}
    {kind : MappingKind} {schema : Entries}
    (h : checkObject check value (.mapping kind schema) parent = .ok errors) :
    errors = [] ↔ ConformsToObject r value schema := by
  cases value with
  | mapping valueKind entries =>
      rw [checkObject] at h
      obtain ⟨found, hfound, h⟩ := bind_eq_ok.mp h
      rw [conformsToObject_iff, checkKeys_eq_nil_iff h, checkFields_eq_nil_iff hc hfound]
      simp only [true_and]
      exact and_comm
  | _ => simp [checkObject] at h

theorem matchesAny_iff (hc : Decides r check) {element : Value} {i : Nat} :
    ∀ {choices : List Value} {b : Bool},
      Matching.matchesAny check element i path choices = .ok b →
      (b = true ↔ ConformsToSome r element choices)
  | [], b, h => by
      rw [Matching.matchesAny, pure_eq_ok] at h
      simp [conformsToSome_iff, ← h]
  | field :: rest, b, h => by
      rw [Matching.matchesAny] at h
      obtain ⟨errors, herrors, h⟩ := bind_eq_ok.mp h
      have hfield := hc _ _ _ _ _ herrors
      rw [conformsToSome_iff]
      split at h
      -- the alternatives after the first match are not tried
      · rename_i hempty
        rw [pure_eq_ok] at h
        have hconforms := hfield.mp (List.isEmpty_iff.mp hempty)
        simp [← h, hconforms]
      · rename_i hsome
        have hnot : ¬ Conforms r element field := fun hconforms =>
          hsome (List.isEmpty_iff.mpr (hfield.mpr hconforms))
        rw [matchesAny_iff hc h, conformsToSome_iff]
        simp [hnot]

theorem matchElements_eq_nil_iff (hc : Decides r check) {choices : List Value} :
    ∀ {elements : List Value} {i : Nat} {acc : ErrorSet},
      Matching.matchElements check choices path i acc elements = .ok errors →
      (errors = [] ↔ acc = [] ∧ ∀ element ∈ elements, ConformsToSome r element choices)
  | [], i, acc, h => by
      rw [Matching.matchElements, pure_eq_ok] at h
      simp [h]
  | element :: rest, i, acc, h => by
      rw [Matching.matchElements] at h
      obtain ⟨found, hfound, h⟩ := bind_eq_ok.mp h
      have hmatch := matchesAny_iff hc hfound
      rw [List.forall_mem_cons, ← hmatch]
      cases found with
      | true =>
          rw [matchElements_eq_nil_iff hc h]
          simp
      | false =>
          rw [if_neg Bool.false_ne_true, lift_eq] at h
          obtain ⟨place, -, h⟩ := bind_eq_ok.mp h
          rw [matchElements_eq_nil_iff hc h]
          simp [ErrorSet.put_ne_nil]

/-! ## From one level to the next -/

variable {value path : Value} {kind : MappingKind} {field : Entries}

/-- A value that passes its own field conforms as far as its parts do. -/
theorem conforms_of_passes {c : Capability} (there : value ≠ .missing)
    (passes : Passes r c value field)
    (hobject : Entries.tag? field = some Capability.objectTag →
      ¬ IsLeftEmpty value field ∧ ConformsToObject r value (fields field))
    (harray : Entries.tag? field = some Capability.arrayTag →
      ¬ IsLeftEmpty value field ∧ (alternatives field ≠ [] →
        ∀ element ∈ value.members, ConformsToSome r element (alternatives field))) :
    Conforms r value (.mapping kind field) :=
  .present there passes
    (fun htag => htag.elim (fun h => (hobject h).1) (fun h => (harray h).1))
    (fun h => (hobject h).2) (fun h => (harray h).2)

/-- A value that is there has no errors exactly if it conforms, rung by rung. -/
theorem eq_nil_iff_of_outcome (hc : Decides r check) (there : value ≠ .missing)
    (h : Outcome r check value kind field path errors) :
    errors = [] ↔ Conforms r value (.mapping kind field) := by
  -- a rung that ends with an error contradicts one of the demands on the value
  cases h with
  | absent missing => exact absurd missing there
  | notGiven known required empty =>
      refine iff_of_false (List.cons_ne_nil _ _) fun hconforms => ?_
      obtain ⟨c, hpasses⟩ := hconforms.passes there
      obtain rfl : c = _ := Option.some.inj (hpasses.known.symm.trans known)
      simpa [empty] using hpasses.given required
  | wrongType known given refused =>
      refine iff_of_false (List.cons_ne_nil _ _) fun hconforms => ?_
      obtain ⟨c, hpasses⟩ := hconforms.passes there
      obtain rfl : c = _ := Option.some.inj (hpasses.known.symm.trans known)
      simpa [refused] using hpasses.accepted
  | notListed known given accepted enum notNull unlisted walk =>
      refine iff_of_false (List.cons_ne_nil _ _) fun hconforms => ?_
      obtain ⟨c, hpasses⟩ := hconforms.passes there
      rcases hpasses.listed with hnone | hnull | ⟨options, hsome, hlisted⟩
      · simp [enum] at hnone
      · exact notNull (Option.some.inj (enum.symm.trans hnull))
      · obtain rfl : _ = options := Option.some.inj (enum.symm.trans hsome)
        simp [unlisted] at hlisted
  | emptyObject passes tag left =>
      exact iff_of_false (List.cons_ne_nil _ _) fun hconforms =>
        hconforms.not_leftEmpty there (Or.inl tag) left
  | object passes tag notLeft parts =>
      rw [checkObject_eq_nil_iff hc parts]
      constructor
      · intro hparts
        exact conforms_of_passes there passes (fun _ => ⟨notLeft, hparts⟩)
          fun harray => absurd harray (Entries.tag?_ne_array tag)
      · intro hconforms
        cases hconforms with
        | absent => exact absurd rfl there
        | present _ _ _ object => exact object tag
  | emptyArray passes tag left =>
      exact iff_of_false (List.cons_ne_nil _ _) fun hconforms =>
        hconforms.not_leftEmpty there (Or.inr tag) left
  | anyElements passes tag notLeft free =>
      refine iff_of_true rfl (conforms_of_passes there passes
        (fun hobject => absurd tag (Entries.tag?_ne_array hobject))
        fun _ => ⟨notLeft, fun hbound element hmem => ?_⟩)
      rcases free with hnone | hnone
      · exact absurd hnone hbound
      · simp [hnone] at hmem
  | array passes tag sequence notLeft bound parts =>
      rw [matchElements_eq_nil_iff hc parts]
      constructor
      · rintro ⟨-, helements⟩
        exact conforms_of_passes there passes
          (fun hobject => absurd tag (Entries.tag?_ne_array hobject))
          fun _ => ⟨notLeft, fun _ => helements⟩
      · intro hconforms
        cases hconforms with
        | absent => exact absurd rfl there
        | present _ _ _ _ array => exact ⟨rfl, array tag bound⟩
  | leaf passes notObject notArray =>
      exact iff_of_true rfl (conforms_of_passes there passes
        (fun hobject => absurd hobject notObject) fun harray => absurd harray notArray)

/-- A missing value of a required field is not given, so it never passes. -/
theorem ne_nil_of_missing_required
    (hr : ∀ c, r.lookup? ((Entries.option? field "type").getD .null) = some c →
      c.isEmpty .missing field = .ok true)
    (required : isOn field "required" = true)
    (h : Outcome r check .missing kind field path errors) : errors ≠ [] := by
  -- no type takes a missing value for a given one
  have hgiven : ∀ {c}, Passes r c .missing field → False := fun hpasses => by
    simpa [hr _ hpasses.known] using hpasses.given required
  cases h with
  | absent _ optional => simp [required] at optional
  | notGiven => exact List.cons_ne_nil _ _
  | wrongType => exact List.cons_ne_nil _ _
  | notListed => exact List.cons_ne_nil _ _
  | emptyObject => exact List.cons_ne_nil _ _
  | emptyArray => exact List.cons_ne_nil _ _
  | object passes | anyElements passes | array passes | leaf passes =>
      exact (hgiven passes).elim

end Validation

/-! ## Whole schemas -/

/-- Every registered type takes the missing value for one that is not given. -/
def Registry.SeesMissing (r : Registry) : Prop :=
  ∀ tag c field, r.capability? tag = some c → c.isEmpty .missing field = .ok true

theorem Capability.sees_missing_of_builtin {c : Capability} (h : c ∈ builtins)
    (field : Entries) : c.isEmpty .missing field = .ok true := by
  cases h using Capability.builtins_cases with
  | _ => rfl

theorem Registry.Reachable.seesMissing
    (hr : r.Reachable fun c => ∀ field, c.isEmpty .missing field = .ok true) :
    r.SeesMissing := by
  intro tag c field h
  rcases hr.of_mem_types (mem_types_of_capability? h) with h | h
  · exact Capability.sees_missing_of_builtin h field
  · exact h field

theorem Registry.SeesMissing.of_lookup? (hr : r.SeesMissing) {v : Value} {c : Capability}
    (h : r.lookup? v = some c) (field : Entries) :
    c.isEmpty .missing field = .ok true := by
  obtain ⟨tag, -, htag⟩ := Option.bind_eq_some_iff.mp h
  exact hr tag c field htag

open Validation in
/-- The induction is on the levels that are left; the schema goes down with them. -/
theorem decides_checkWithin (hr : r.SeesMissing) :
    ∀ levels, Decides r (checkWithin r levels)
  | 0, _, _, _, _, _, h => absurd h checkWithin_zero_ne_ok
  | levels + 1, value, schema, name, parent, errors, h => by
      obtain ⟨kind, field, path, rfl, -, hoptional, houtcome⟩ := outcome_of_checkWithin h
      by_cases hmissing : value = .missing
      · subst hmissing
        rw [conforms_missing_iff]
        cases hrequired : isOn field "required" with
        | false => exact iff_of_true (hoptional rfl hrequired) rfl
        | true =>
            refine iff_of_false ?_ Bool.noConfusion
            exact ne_nil_of_missing_required (fun c hc => hr.of_lookup? hc field)
              hrequired houtcome
      · exact eq_nil_iff_of_outcome (decides_checkWithin hr levels) hmissing houtcome

/-- **A schema finds no errors exactly in the values that conform to it.** The
registry may hold any types that see when a value is missing, under the tags of
objects and arrays too, and the fields of the schema may have been written by
hand as well as compiled. -/
theorem Schema.errors_eq_nil_iff (hr : r.SeesMissing) (s : Schema)
    (value parent : Value) (errors : ErrorSet)
    (h : s.errors r value .null parent = .ok errors) :
    errors = [] ↔ ConformsToObject r value s.fields :=
  Validation.checkObject_eq_nil_iff (decides_checkWithin hr _) h

/-- A required list of texts and numbers, under a name that nothing else has: a
number among the texts conforms, an empty list and a truth value do not. -/
theorem Schema.errors_eq_nil_iff_list :
    ∃ s : Schema,
      Schema.compile Registry.builtin 3 (.dict [(.text "tags", .dict
        [(.text "type", .text "array"), (.text "required", .bool true),
          (.text "child", .list [.classObject .text, .classObject .int])])]) = .ok s ∧
      ConformsToObject Registry.builtin
        (.dict [(.text "tags", .list [.text "a", .int 1])]) s.fields ∧
      ¬ ConformsToObject Registry.builtin (.dict [(.text "tags", .list [])]) s.fields ∧
      ¬ ConformsToObject Registry.builtin
        (.dict [(.text "tags", .list [.bool true])]) s.fields := by
  have hiff := fun s value errors =>
    Schema.errors_eq_nil_iff Registry.Reachable.seeded.seesMissing s value .null errors
  refine ⟨⟨[(.text "tags", .dict [(.text "type", .text "array"),
    (.text "required", .bool true), (.text "child", .list
      [.dict [(.text "type", .text "string")], .dict [(.text "type", .text "number")]])])], 3⟩,
    by rw [Registry.builtin_eq]; cbv, ?_, ?_, ?_⟩
  · exact (hiff _ _ [] (by rw [Registry.builtin_eq]; cbv)).mp rfl
  · intro h
    have herrors := (hiff _ _
      [(.text "tags", "array \"tags\" is required, but left empty")]
      (by rw [Registry.builtin_eq]; cbv)).mpr h
    exact List.cons_ne_nil _ _ herrors
  · intro h
    have herrors := (hiff _ _ [(.text "tags[0]", Matching.noMatch)]
      (by rw [Registry.builtin_eq]; cbv)).mpr h
    exact List.cons_ne_nil _ _ herrors

end DataShape
