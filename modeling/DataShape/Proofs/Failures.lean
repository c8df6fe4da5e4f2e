import DataShape.Schema
import DataShape.Proofs.Keys
import DataShape.Proofs.Validation

/-!
# The failures of a value

What is wrong with a value, position by position, as a reader of the schema
finds it: the declared fields in their order, then the keys that are not
declared, and nothing below a field that fails itself. No paths are rendered,
no sets of errors merged and no levels counted here.

Under distinct plain names no failure is on the way to another one.
-/

namespace DataShape

open Entries (option? fields alternatives isOn keys)

/-! ## Problems at positions -/

inductive Problem where
  | required
  | wrongType
  | notAnOption (options : List Value)
  | emptyObject
  | emptyArray
  | unknown
  | noMatch

def Problem.message (path : String) : Problem → String
  | required => Validation.required
  | wrongType => Validation.wrongType
  | notAnOption options => Validation.notAnOption options
  | emptyObject => Validation.emptyObject (.text path)
  | emptyArray => Matching.emptyArray (.text path)
  | unknown => Validation.unknownProperty
  | noMatch => Matching.noMatch

structure Failure where
  position : Position
  problem : Problem

namespace Failure

/-- The failure of a part as one of the whole. -/
def under (s : Segment) (f : Failure) : Failure := { f with position := s :: f.position }

/-- The path and the message that tell of the failure. -/
def report (place : String) (f : Failure) : String × String :=
  (f.position.pathFrom place, f.problem.message (f.position.pathFrom place))

end Failure

/-! ## The walk through a value -/

/-- Whether the answer is yes. -/
def affirms : Except Fault Bool → Bool
  | .ok b => b
  | .error _ => false

@[simp] theorem affirms_ok (b : Bool) : affirms (.ok b) = b := rfl

/-- The options of a field that a value is not among. -/
def unlisted? (value : Value) (field : Entries) : Option (List Value) :=
  match option? field "enum" with
  | none | some .null => none
  | some options => if affirms (value.isIn options) then none else some options.members

/-- The problem of a field itself: the first one in the order of the rungs. -/
def ownProblem? (r : Registry) (value : Value) (field : Entries) : Option Problem :=
  match r.lookup? ((option? field "type").getD .null) with
  | none => none
  | some c =>
    if isOn field "required" && affirms (c.isEmpty value field) then some .required
    else if !affirms (c.accepts value field) then some .wrongType
    else match unlisted? value field with
      | some options => some (.notAnOption options)
      | none =>
        if IsLeftEmpty value field then
          if Entries.tag? field = some Capability.objectTag then some .emptyObject
          else if Entries.tag? field = some Capability.arrayTag then some .emptyArray
          else none
        else none

/-- One failure for each key that a schema does not declare. -/
def keyFailures (schema : Entries) (names : List Value) : List Failure :=
  (names.filter fun key => !Entries.contains schema key).map
    fun key => ⟨[.name key.display], .unknown⟩

/-- The failures of a value under a field. -/
def failures (r : Registry) (value : Value) : (field : Value) → List Failure
  | .mapping _ field =>
    if Validation.isMissing value && !isOn field "required" then []
    else match ownProblem? r value field with
      | some problem => [⟨[], problem⟩]
      | none =>
        if Entries.tag? field = some Capability.objectTag then
          ((fields field).attach.flatMap fun e =>
            (failures r (value.part e.1.1) e.1.2).map (.under (.name e.1.1.display)))
            ++ keyFailures (fields field) (keys (value.entries?.getD []))
        else if alternatives field = [] then []
        else
          (value.members.zipIdx.filter fun e =>
            (alternatives field).attach.all fun choice =>
              !(failures r e.1 choice.1).isEmpty).map
            fun e => ⟨[.index e.2], .noMatch⟩
  | _ => []
termination_by field => field.height
decreasing_by
  · exact Entries.height_lt_of_mem_parts
      (List.mem_append_left _ (List.mem_map_of_mem e.2))
  · exact Entries.height_lt_of_mem_parts (List.mem_append_right _ choice.2)

/-- The failures of the declared fields, each under its name. -/
def fieldFailures (find : Value → Value → List Failure) (value : Value)
    (schema : Entries) : List Failure :=
  schema.flatMap fun e => (find (value.part e.1) e.2).map (.under (.name e.1.display))

/-- The failures in a mapping: those of the declared fields and the keys that
are not declared. -/
def objectFailures (find : Value → Value → List Failure) (value : Value)
    (schema : Entries) : List Failure :=
  fieldFailures find value schema ++ keyFailures schema (keys (value.entries?.getD []))

/-- One failure for each element, counted from `i`, in which every alternative
fails. -/
def elementFailures (find : Value → Value → List Failure) (choices : List Value)
    (i : Nat) (elements : List Value) : List Failure :=
  ((elements.zipIdx i).filter fun e =>
    choices.all fun choice => !(find e.1 choice).isEmpty).map
    fun e => ⟨[.index e.2], .noMatch⟩

theorem failures_mapping (r : Registry) (value : Value) (kind : MappingKind)
    (field : Entries) :
    failures r value (.mapping kind field) =
      if Validation.isMissing value && !isOn field "required" then []
      else match ownProblem? r value field with
        | some problem => [⟨[], problem⟩]
        | none =>
          if Entries.tag? field = some Capability.objectTag then
            objectFailures (failures r) value (fields field)
          else if alternatives field = [] then []
          else elementFailures (failures r) (alternatives field) 0 value.members := by
  rw [failures]
  simp only [List.flatMap_subtype, List.all_subtype, List.unattach_attach,
    objectFailures, fieldFailures, elementFailures]

/-- The failures of a value are none, its own problem, or those of its parts. -/
theorem failures_cases (r : Registry) (value : Value) (kind : MappingKind)
    (field : Entries) :
    failures r value (.mapping kind field) = [] ∨
    (∃ problem, failures r value (.mapping kind field) = [⟨[], problem⟩]) ∨
    failures r value (.mapping kind field)
      = objectFailures (failures r) value (fields field) ∨
    failures r value (.mapping kind field)
      = elementFailures (failures r) (alternatives field) 0 value.members := by
  rw [failures_mapping]
  split
  · exact Or.inl rfl
  · split
    · exact Or.inr (Or.inl ⟨_, rfl⟩)
    · split
      · exact Or.inr (Or.inr (Or.inl rfl))
      · split
        · exact Or.inl rfl
        · exact Or.inr (Or.inr (Or.inr rfl))

/-! ## Where failures are -/

/-- Neither failure is on the way to the other. -/
def Failure.Apart (f g : Failure) : Prop := f.position.Apart g.position

section Objects

variable {find : Value → Value → List Failure} {value : Value} {schema : Entries}

theorem mem_objectFailures {f : Failure} (h : f ∈ objectFailures find value schema) :
    (∃ e ∈ schema, ∃ g ∈ find (value.part e.1) e.2, f = g.under (.name e.1.display)) ∨
    ∃ key ∈ keys (value.entries?.getD []), Entries.contains schema key = false ∧
      f = ⟨[.name key.display], .unknown⟩ := by
  rcases List.mem_append.mp h with h | h
  · obtain ⟨e, he, h⟩ := List.mem_flatMap.mp h
    obtain ⟨g, hg, rfl⟩ := List.mem_map.mp h
    exact Or.inl ⟨e, he, g, hg, rfl⟩
  · obtain ⟨key, hkey, rfl⟩ := List.mem_map.mp h
    obtain ⟨hmem, hunknown⟩ := List.mem_filter.mp hkey
    exact Or.inr ⟨key, hmem, by simpa using hunknown, rfl⟩

theorem startsWithName_of_mem_objectFailures {f : Failure}
    (h : f ∈ objectFailures find value schema) : f.position.StartsWithName := by
  rcases mem_objectFailures h with ⟨e, -, g, -, rfl⟩ | ⟨key, -, -, rfl⟩
  · exact ⟨_, _, rfl⟩
  · exact ⟨_, _, rfl⟩

/-- A key that a schema does not declare is the same as none of its names. -/
theorem sameKey_of_not_contains {key : Value} (h : Entries.contains schema key = false) :
    ∀ e ∈ schema, key.sameKey e.1 = false := by
  intro e he
  unfold Entries.contains Entries.get? at h
  simp only [Option.isSome_map, Option.isSome_eq_false_iff, Option.isNone_iff_eq_none,
    List.find?_eq_none] at h
  simpa using h e he

theorem pairwise_objectFailures (hschema : Named schema)
    (hentries : Named (value.entries?.getD []))
    (hparts : ∀ e ∈ schema, (find (value.part e.1) e.2).Pairwise Failure.Apart) :
    (objectFailures find value schema).Pairwise Failure.Apart := by
  refine List.pairwise_append.mpr ⟨?_, ?_, ?_⟩
  -- two fields go apart at their names
  · refine List.pairwise_flatMap.mpr ⟨fun e he => ?_, ?_⟩
    · exact List.pairwise_map.mpr ((hparts e he).imp fun h => h.cons _)
    · refine (List.pairwise_map.mp hschema.pairwise_display_ne).imp fun hne => ?_
      intro f hf g hg
      obtain ⟨f, -, rfl⟩ := List.mem_map.mp hf
      obtain ⟨g, -, rfl⟩ := List.mem_map.mp hg
      exact Position.apart_of_ne (fun h => hne (Segment.name.inj h)) _ _
  -- so do two keys
  · refine List.pairwise_map.mpr (hentries.pairwise_display_ne.filter _ |>.imp fun hne => ?_)
    exact Position.apart_of_ne (fun h => hne (Segment.name.inj h)) _ _
  -- and a field and a key, which would be declared otherwise
  · intro f hf g hg
    obtain ⟨e, he, hf⟩ := List.mem_flatMap.mp hf
    obtain ⟨f, -, rfl⟩ := List.mem_map.mp hf
    obtain ⟨key, hkey, rfl⟩ := List.mem_map.mp hg
    obtain ⟨hmem, hunknown⟩ := List.mem_filter.mp hkey
    obtain ⟨s, hs, -⟩ := hschema.plain e.1 (List.mem_map_of_mem he)
    obtain ⟨t, ht, -⟩ := hentries.plain key hmem
    have hne := display_ne_of_plain ht hs
      (sameKey_of_not_contains (by simpa using hunknown) e he)
    exact Position.apart_of_ne (fun h => hne (Segment.name.inj h).symm) _ _

theorem isPlain_of_mem_objectFailures (hschema : PlainKeys schema)
    (hentries : PlainKeys (value.entries?.getD []))
    (hparts : ∀ e ∈ schema, ∀ f ∈ find (value.part e.1) e.2, f.position.IsPlain) :
    ∀ f ∈ objectFailures find value schema, f.position.IsPlain := by
  intro f hf
  rcases mem_objectFailures hf with ⟨e, he, g, hg, rfl⟩ | ⟨key, hkey, -, rfl⟩
  · obtain ⟨s, hs, hplain⟩ := hschema e.1 (List.mem_map_of_mem he)
    refine List.forall_mem_cons.mpr ⟨?_, hparts e he g hg⟩
    rwa [Value.display_of_text? hs]
  · obtain ⟨s, hs, hplain⟩ := hentries key hkey
    refine List.forall_mem_cons.mpr ⟨?_, List.forall_mem_nil _⟩
    rwa [Value.display_of_text? hs]

end Objects

theorem pairwise_elementFailures {find : Value → Value → List Failure}
    {choices elements : List Value} {i : Nat} :
    (elementFailures find choices i elements).Pairwise Failure.Apart := by
  have hindices : (elements.zipIdx i).Pairwise fun a b => a.2 < b.2 := by
    have hrange := List.pairwise_lt_range' (s := i) (n := elements.length) 1
    rw [← List.zipIdx_map_snd] at hrange
    exact List.pairwise_map.mp hrange
  refine List.pairwise_map.mpr ((hindices.filter _).imp fun hlt => ?_)
  exact Position.apart_of_ne (fun h => Nat.ne_of_lt hlt (Segment.index.inj h)) _ _

theorem isPlain_of_mem_elementFailures {find : Value → Value → List Failure}
    {choices elements : List Value} {i : Nat} :
    ∀ f ∈ elementFailures find choices i elements, f.position.IsPlain := by
  intro f hf
  obtain ⟨e, -, rfl⟩ := List.mem_map.mp hf
  exact List.forall_mem_singleton.mpr trivial

/-- What holds for the failures of a mapping once it holds for its parts holds
for all failures. The induction is on the objects of the schema; nothing below
an element of an array is a failure of its own. -/
theorem failures_induction {r : Registry} {K : List Failure → Prop} (none : K [])
    (own : ∀ problem, K [⟨[], problem⟩])
    (object : ∀ (value : Value) (schema : Entries), Named schema →
      Named (value.entries?.getD []) →
      (∀ e ∈ schema, K (failures r (value.part e.1) e.2)) →
      K (objectFailures (failures r) value schema))
    (elements : ∀ choices elements, K (elementFailures (failures r) choices 0 elements))
    {field : Value} (hfield : field.EveryObject Named) :
    ∀ {value : Value}, value.EveryMapping Named → K (failures r value field) := by
  induction hfield with
  | @node field here below ih =>
      intro value hvalue
      rcases failures_cases r value .plain field with h | ⟨problem, h⟩ | h | h
      · rw [h]
        exact none
      · rw [h]
        exact own problem
      · rw [h]
        refine object value (fields field) here hvalue.named_entries fun e he => ?_
        exact ih e.2 (List.mem_append_left _ (List.mem_map_of_mem he)) (hvalue.part e.1)
      · rw [h]
        exact elements _ _

/-- **No failure is on the way to another one**, where names are distinct and
plain. -/
theorem pairwise_failures {r : Registry} {field value : Value}
    (hfield : field.EveryObject Named) (hvalue : value.EveryMapping Named) :
    (failures r value field).Pairwise Failure.Apart :=
  failures_induction List.Pairwise.nil (fun _ => List.pairwise_singleton _ _)
    (fun _ _ hschema hentries hparts => pairwise_objectFailures hschema hentries hparts)
    (fun _ _ => pairwise_elementFailures) hfield hvalue

theorem isPlain_of_mem_failures {r : Registry} {field value : Value}
    (hfield : field.EveryObject Named) (hvalue : value.EveryMapping Named) :
    ∀ f ∈ failures r value field, f.position.IsPlain :=
  failures_induction (K := fun found => ∀ f ∈ found, f.position.IsPlain)
    (List.forall_mem_nil _)
    (fun _ => List.forall_mem_singleton.mpr (List.forall_mem_nil _))
    (fun _ _ hschema hentries hparts =>
      isPlain_of_mem_objectFailures hschema.plain hentries.plain hparts)
    (fun _ _ => isPlain_of_mem_elementFailures) hfield hvalue

/-! ## The rungs of a field -/

section Rungs

variable {r : Registry} {c : Capability} {value : Value} {field : Entries}

theorem not_empty_of_isGiven (h : IsGiven c value field) :
    (isOn field "required" && affirms (c.isEmpty value field)) = false := by
  cases hrequired : isOn field "required" with
  | false => rfl
  | true => simp [h hrequired]

theorem ownProblem?_of_notGiven
    (known : r.lookup? ((option? field "type").getD .null) = some c)
    (required : isOn field "required" = true) (empty : c.isEmpty value field = .ok true) :
    ownProblem? r value field = some .required := by
  simp [ownProblem?, known, required, empty]

theorem ownProblem?_of_wrongType
    (known : r.lookup? ((option? field "type").getD .null) = some c)
    (given : IsGiven c value field) (refused : c.accepts value field = .ok false) :
    ownProblem? r value field = some .wrongType := by
  simp only [ownProblem?, known, not_empty_of_isGiven given, refused, affirms_ok,
    Bool.false_eq_true, if_false, Bool.not_false, if_true]

theorem ownProblem?_of_notListed {options : Value} {items : List Value}
    (known : r.lookup? ((option? field "type").getD .null) = some c)
    (given : IsGiven c value field) (accepted : c.accepts value field = .ok true)
    (enum : option? field "enum" = some options) (notNull : options ≠ .null)
    (unlisted : value.isIn options = .ok false) (walk : options.walk = .ok items) :
    ownProblem? r value field = some (.notAnOption items) := by
  have hoptions : unlisted? value field = some items := by
    unfold unlisted?
    rw [enum]
    cases options with
    | null => exact absurd rfl notNull
    | _ => simp [unlisted, Value.members_of_walk walk]
  simp only [ownProblem?, known, not_empty_of_isGiven given, accepted, affirms_ok,
    Bool.false_eq_true, if_false, Bool.not_true, hoptions]

/-- A value that passes its own field has no problem of its own but being left
empty. -/
theorem ownProblem?_of_passes (h : Passes r c value field) :
    ownProblem? r value field =
      if IsLeftEmpty value field then
        if Entries.tag? field = some Capability.objectTag then some .emptyObject
        else if Entries.tag? field = some Capability.arrayTag then some .emptyArray
        else none
      else none := by
  have hoptions : unlisted? value field = none := by
    unfold unlisted?
    rcases h.listed with hnone | hnull | ⟨options, hsome, hlisted⟩
    · rw [hnone]
    · rw [hnull]
    · rw [hsome]
      cases options with
      | null => rfl
      | _ => simp [hlisted]
  simp only [ownProblem?, h.known, not_empty_of_isGiven h.given, h.accepted, affirms_ok,
    Bool.false_eq_true, if_false, Bool.not_true, hoptions]

end Rungs

end DataShape
