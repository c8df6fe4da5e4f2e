import DataShape.Validation
import DataShape.Proofs.SchemaTree

/-!
# How the check of a field ends

A check that returns has gone through one of a few rungs: the value is absent
and may be, it counts as not given, it is of the wrong type, it is not listed,
it has no parts where some are required, or its parts are checked. `Outcome`
names the rungs with everything that was decided on the way. Later proofs go by
its cases and do not open the checks again.
-/

namespace DataShape

open Entries (option? keys fields alternatives isOn)

/-! ## What is decided on the way -/

/-- The value counts as given where the field requires one. -/
def IsGiven (c : Capability) (value : Value) (field : Entries) : Prop :=
  isOn field "required" = true → c.isEmpty value field = .ok false

/-- The value is among the options of the field, if there are any. -/
def IsListed (value : Value) (field : Entries) : Prop :=
  option? field "enum" = none ∨ option? field "enum" = some .null ∨
    ∃ options, option? field "enum" = some options ∧ value.isIn options = .ok true

/-- The value has no parts although the field requires it. -/
def IsLeftEmpty (value : Value) (field : Entries) : Prop :=
  isOn field "required" = true ∧ value.length = .ok 0

instance (value : Value) (field : Entries) : Decidable (IsLeftEmpty value field) :=
  have : Decidable (value.length = .ok 0) :=
    match value.length with
    | .ok n => decidable_of_iff (n = 0) (Except.ok.injEq n 0 ▸ Iff.rfl)
    | .error _ => .isFalse (fun h => nomatch h)
  inferInstanceAs (Decidable (_ ∧ _))

/-- The value passes the check of the field itself, its parts apart. -/
structure Passes (r : Registry) (c : Capability) (value : Value) (field : Entries) :
    Prop where
  known : r.lookup? ((option? field "type").getD .null) = some c
  given : IsGiven c value field
  accepted : c.accepts value field = .ok true
  listed : IsListed value field

namespace Validation

variable {r : Registry} {check : Check} {c : Capability} {value : Value}
  {field : Entries} {kind : MappingKind} {path parent : Value} {errors acc : ErrorSet}

/-- The rungs at which the check of a field can end, with the errors found. -/
inductive Outcome (r : Registry) (check : Check) (value : Value) (kind : MappingKind)
    (field : Entries) (path : Value) : ErrorSet → Prop
  | absent (missing : value = .missing) (optional : isOn field "required" = false) :
      Outcome r check value kind field path []
  | notGiven {c : Capability} (known : r.lookup? ((option? field "type").getD .null) = some c)
      (required : isOn field "required" = true) (empty : c.isEmpty value field = .ok true) :
      Outcome r check value kind field path [(path, Validation.required)]
  | wrongType {c : Capability} (known : r.lookup? ((option? field "type").getD .null) = some c)
      (given : IsGiven c value field) (refused : c.accepts value field = .ok false) :
      Outcome r check value kind field path [(path, Validation.wrongType)]
  | notListed {c : Capability} {options : Value} {items : List Value}
      (known : r.lookup? ((option? field "type").getD .null) = some c)
      (given : IsGiven c value field) (accepted : c.accepts value field = .ok true)
      (enum : option? field "enum" = some options) (notNull : options ≠ .null)
      (unlisted : value.isIn options = .ok false) (walk : options.walk = .ok items) :
      Outcome r check value kind field path [(path, notAnOption items)]
  | emptyObject {c : Capability} (passes : Passes r c value field)
      (tag : Entries.tag? field = some Capability.objectTag)
      (left : IsLeftEmpty value field) :
      Outcome r check value kind field path [(path, Validation.emptyObject path)]
  | object {c : Capability} {schemaKind : MappingKind} {errors : ErrorSet}
      (passes : Passes r c value field)
      (tag : Entries.tag? field = some Capability.objectTag)
      (notLeft : ¬ IsLeftEmpty value field)
      (parts : checkObject check value (.mapping schemaKind (fields field)) path
        = .ok errors) :
      Outcome r check value kind field path errors
  | emptyArray {c : Capability} (passes : Passes r c value field)
      (tag : Entries.tag? field = some Capability.arrayTag)
      (left : IsLeftEmpty value field) :
      Outcome r check value kind field path [(path, Matching.emptyArray path)]
  | anyElements {c : Capability} (passes : Passes r c value field)
      (tag : Entries.tag? field = some Capability.arrayTag)
      (notLeft : ¬ IsLeftEmpty value field)
      (free : alternatives field = [] ∨ value.members = []) :
      Outcome r check value kind field path []
  | array {c : Capability} {errors : ErrorSet} (passes : Passes r c value field)
      (tag : Entries.tag? field = some Capability.arrayTag)
      (sequence : Capability.isSequence value = true)
      (notLeft : ¬ IsLeftEmpty value field) (bound : alternatives field ≠ [])
      (parts : Matching.matchElements check (alternatives field) path 0 [] value.members
        = .ok errors) :
      Outcome r check value kind field path errors
  | leaf {c : Capability} (passes : Passes r c value field)
      (notObject : Entries.tag? field ≠ some Capability.objectTag)
      (notArray : Entries.tag? field ≠ some Capability.arrayTag) :
      Outcome r check value kind field path []

/-! ## The rungs one by one -/

theorem leftEmpty_eq_ok {b : Bool}
    (h : (if isOn field "required" then (· == 0) <$> value.length else pure false)
      = .ok b) : b = true ↔ IsLeftEmpty value field := by
  unfold IsLeftEmpty
  split at h
  · rename_i hrequired
    obtain ⟨n, hn, rfl⟩ := map_eq_ok.mp h
    simp [hrequired, hn]
  · rename_i hrequired
    rw [pure_eq_ok] at h
    simp [hrequired, ← h]

theorem given_eq_ok {b : Bool}
    (h : (if isOn field "required" then c.isEmpty value field else pure false)
      = .ok b) :
    (b = true ∧ isOn field "required" = true ∧ c.isEmpty value field = .ok true) ∨
      (b = false ∧ IsGiven c value field) := by
  unfold IsGiven
  split at h
  · rename_i hrequired
    cases b with
    | true => exact Or.inl ⟨rfl, hrequired, h⟩
    | false => exact Or.inr ⟨rfl, fun _ => h⟩
  · rename_i hrequired
    rw [pure_eq_ok] at h
    exact Or.inr ⟨h.symm, fun hr => absurd hr hrequired⟩

theorem checkOption_eq_ok {found : Option ErrorSet}
    (h : checkOption value field path = .ok found) :
    (found = none ∧ IsListed value field) ∨
    ∃ options items, option? field "enum" = some options ∧ options ≠ .null ∧
      value.isIn options = .ok false ∧ options.walk = .ok items ∧
      found = some [(path, notAnOption items)] := by
  unfold checkOption at h
  split at h
  · rename_i henum
    exact Or.inl ⟨(Except.ok.inj h).symm, Or.inl henum⟩
  · rename_i henum
    exact Or.inl ⟨(Except.ok.inj h).symm, Or.inr (Or.inl henum)⟩
  · rename_i options hnull henum
    obtain ⟨listed, hlisted, h⟩ := bind_eq_ok.mp h
    cases listed with
    | true =>
        exact Or.inl ⟨(pure_eq_ok.mp h).symm, Or.inr (Or.inr ⟨options, henum, hlisted⟩)⟩
    | false =>
        obtain ⟨items, hitems, h⟩ := bind_eq_ok.mp h
        obtain ⟨⟨⟩, -, h⟩ := bind_eq_ok.mp h
        exact Or.inr ⟨options, items, henum, hnull, hlisted, hitems,
          (pure_eq_ok.mp h).symm⟩

/-- The schema of an object that is checked is the mapping of its fields. -/
theorem child_of_checkObject (htag : Entries.tag? field = some Capability.objectTag)
    (h : checkObject check value ((option? field "child").getD (.dict [])) path
      = .ok errors) :
    ∃ schemaKind, (option? field "child").getD (.dict [])
      = .mapping schemaKind (fields field) := by
  rw [fields, if_pos htag]
  cases value with
  | mapping valueKind entries =>
      cases hchild : option? field "child" with
      | none => exact ⟨.plain, rfl⟩
      | some child =>
          rw [hchild] at h
          cases child with
          | mapping schemaKind schema => exact ⟨schemaKind, rfl⟩
          | _ => simp [checkObject] at h
  | _ => simp [checkObject] at h

theorem lift_eq {α : Type} (x : Except Fault α) :
    (Matching.lift x : Except Fault α) = x := by
  cases x with
  | ok a => rfl
  | error fault => rfl

/-- A value that counts as true and can be walked through is not empty. -/
theorem members_ne_nil {v : Value} {items : List Value} (htrue : v.isTrue = true)
    (hwalk : v.walk = .ok items) : items ≠ [] := by
  rintro rfl
  cases v with
  | text s => simp_all [Value.isTrue, Value.walk]
  | bytes b => simp_all [Value.isTrue, Value.walk]
  | range stop => simp_all [Value.isTrue, Value.walk]; omega
  | scalar x => cases x <;> simp_all [Value.isTrue, Value.walk]
  | sequence kind xs => simp_all [Value.isTrue, Value.walk]
  | set frozen xs => simp_all [Value.isTrue, Value.walk]
  | array packing xs => simp_all [Value.isTrue, Value.walk]
  | mapping kind es => simp_all [Value.isTrue, Value.walk]
  | _ => simp [Value.walk] at hwalk

/-- A value that does not count as true has no members. -/
theorem members_eq_nil {v : Value} (hfalse : v.isTrue = false) : v.members = [] := by
  unfold Value.members
  cases v with
  | text s => simp_all [Value.isTrue, Value.walk, Except.toOption]
  | bytes b => simp_all [Value.isTrue, Value.walk, Except.toOption]
  | range stop => simp_all [Value.isTrue, Value.walk, Except.toOption]
  | scalar x => cases x <;> simp_all [Value.isTrue, Value.walk, Except.toOption]
  | sequence kind xs => simp_all [Value.isTrue, Value.walk, Except.toOption]
  | set frozen xs => simp_all [Value.isTrue, Value.walk, Except.toOption]
  | array packing xs => simp_all [Value.isTrue, Value.walk, Except.toOption]
  | mapping kind es => simp_all [Value.isTrue, Value.walk, Except.toOption]
  | _ => simp [Value.walk, Except.toOption]

theorem alternatives_of_tag (htag : Entries.tag? field = some Capability.arrayTag) :
    alternatives field = ((option? field "child").getD .null).members := by
  rw [alternatives, if_pos htag]

/-- How the check of a sequence ends. -/
theorem matchArray_eq_ok (htag : Entries.tag? field = some Capability.arrayTag)
    (h : Matching.matchArray check value (.mapping kind field) path = .ok errors) :
    (IsLeftEmpty value field ∧ errors = [(path, Matching.emptyArray path)]) ∨
    (¬ IsLeftEmpty value field ∧ (alternatives field = [] ∨ value.members = []) ∧
      errors = []) ∨
    (Capability.isSequence value = true ∧ ¬ IsLeftEmpty value field ∧
      alternatives field ≠ [] ∧
      Matching.matchElements check (alternatives field) path 0 [] value.members
        = .ok errors) := by
  rw [alternatives_of_tag htag]
  unfold Matching.matchArray at h
  cases hsequence : Capability.isSequence value with
  | false =>
      simp only [hsequence, Bool.not_false, if_true, lift_eq] at h
      obtain ⟨⟨⟩, -, h⟩ := bind_eq_ok.mp h
      cases h
  | true =>
      simp only [hsequence, Bool.not_true, Bool.false_eq_true, if_false, lift_eq,
        ite_bind] at h
      obtain ⟨left, hleft, h⟩ := bind_eq_ok.mp h
      have hempty := leftEmpty_eq_ok hleft
      cases left with
      | true =>
          rw [if_pos rfl] at h
          obtain ⟨⟨⟩, -, h⟩ := bind_eq_ok.mp h
          exact Or.inl ⟨hempty.mp rfl, (pure_eq_ok.mp h).symm⟩
      | false =>
          have hnot : ¬ IsLeftEmpty value field := fun hl => by simpa using hempty.mpr hl
          refine Or.inr ?_
          simp only [Bool.false_eq_true, if_false] at h
          cases htrue : ((option? field "child").getD .null).isTrue with
          | false =>
              simp only [htrue, Bool.not_false, if_true] at h
              exact Or.inl ⟨hnot, Or.inl (members_eq_nil htrue), (pure_eq_ok.mp h).symm⟩
          | true =>
              simp only [htrue, Bool.not_true, Bool.false_eq_true, if_false] at h
              -- the elements are walked before the alternatives are
              obtain ⟨elements, helements, h⟩ := bind_eq_ok.mp h
              rw [Value.members_of_walk helements]
              by_cases hnone : elements = []
              · subst hnone
                exact Or.inl ⟨hnot, Or.inr rfl, (pure_eq_ok.mp h).symm⟩
              · have hsome : elements.isEmpty = false := by simpa using hnone
                simp only [hsome, Bool.false_eq_true, if_false] at h
                obtain ⟨alternatives, halternatives, h⟩ := bind_eq_ok.mp h
                rw [Value.members_of_walk halternatives]
                exact Or.inr ⟨rfl, hnot, members_ne_nil htrue halternatives, h⟩

theorem tagOf_eq_ok {tag : Value} (h : tagOf field = .ok tag) :
    Entries.tag? field = tag.text? := by
  unfold tagOf at h
  unfold Entries.tag?
  cases htype : option? field "type" with
  | none => simp [htype] at h
  | some v =>
      rw [htype] at h
      cases h
      rfl

theorem checkParts_object (h : option? field "type" = some (.text Capability.objectTag)) :
    checkParts check value kind field path =
      (if isOn field "required" then (· == 0) <$> value.length else pure false) >>=
        fun isLeftEmpty =>
          if isLeftEmpty then path.checkWritable >>= fun _ => pure [(path, emptyObject path)]
          else checkObject check value ((option? field "child").getD (.dict [])) path := by
  rw [checkParts, tagOf, h]
  exact ite_bind

theorem checkParts_array (h : option? field "type" = some (.text Capability.arrayTag)) :
    checkParts check value kind field path
      = Matching.matchArray check value (.mapping kind field) path := by
  rw [checkParts, tagOf, h]
  rfl

theorem checkParts_leaf {tag : String} (h : option? field "type" = some (.text tag))
    (hobject : tag ≠ Capability.objectTag) (harray : tag ≠ Capability.arrayTag) :
    checkParts check value kind field path = pure [] := by
  have hnotObject : some tag ≠ some Capability.objectTag := by simpa using hobject
  have hnotArray : some tag ≠ some Capability.arrayTag := by simpa using harray
  rw [checkParts, tagOf, h]
  exact (if_neg hnotObject).trans (if_neg hnotArray)

/-- A value that passes its own field ends at one of the rungs for its parts. -/
theorem outcome_of_checkParts (passes : Passes r c value field)
    (h : checkParts check value kind field path = .ok errors) :
    Outcome r check value kind field path errors := by
  unfold checkParts at h
  obtain ⟨tag, htag, h⟩ := bind_eq_ok.mp h
  have htag? := tagOf_eq_ok htag
  dsimp only at h
  rw [← htag?] at h
  by_cases hobject : Entries.tag? field = some Capability.objectTag
  · rw [if_pos hobject, ite_bind] at h
    obtain ⟨left, hleft, h⟩ := bind_eq_ok.mp h
    have hempty := leftEmpty_eq_ok hleft
    cases left with
    | true =>
        rw [if_pos rfl] at h
        obtain ⟨⟨⟩, -, h⟩ := bind_eq_ok.mp h
        cases pure_eq_ok.mp h
        exact .emptyObject passes hobject (hempty.mp rfl)
    | false =>
        obtain ⟨schemaKind, hchild⟩ := child_of_checkObject hobject h
        rw [if_neg Bool.false_ne_true, hchild] at h
        exact .object passes hobject (fun hl => by simpa using hempty.mpr hl) h
  · rw [if_neg hobject] at h
    by_cases harray : Entries.tag? field = some Capability.arrayTag
    · rw [if_pos harray] at h
      rcases matchArray_eq_ok harray h with ⟨hleft, rfl⟩ | ⟨hnot, hfree, rfl⟩ |
        ⟨hsequence, hnot, hbound, hparts⟩
      · exact .emptyArray passes harray hleft
      · exact .anyElements passes harray hnot hfree
      · exact .array passes harray hsequence hnot hbound hparts
    · rw [if_neg harray] at h
      cases pure_eq_ok.mp h
      exact .leaf passes hobject harray

theorem outcome_of_checkValue
    (known : r.lookup? ((option? field "type").getD .null) = some c)
    (h : checkValue check c value kind field path = .ok errors) :
    Outcome r check value kind field path errors := by
  unfold checkValue at h
  rw [ite_bind] at h
  obtain ⟨notGiven, hnotGiven, h⟩ := bind_eq_ok.mp h
  -- the rungs in their order: given, of the type, listed, then the parts
  rcases given_eq_ok hnotGiven with ⟨rfl, hrequired, hempty⟩ | ⟨rfl, hgiven⟩
  · cases pure_eq_ok.mp h
    exact .notGiven known hrequired hempty
  · simp only [Bool.false_eq_true, if_false] at h
    obtain ⟨accepted, haccepted, h⟩ := bind_eq_ok.mp h
    cases accepted with
    | false =>
        cases pure_eq_ok.mp h
        exact .wrongType known hgiven haccepted
    | true =>
        simp only [Bool.not_true, Bool.false_eq_true, if_false] at h
        obtain ⟨found, hfound, h⟩ := bind_eq_ok.mp h
        rcases checkOption_eq_ok hfound with ⟨rfl, hlisted⟩ |
          ⟨options, items, henum, hnull, hout, hwalk, rfl⟩
        · exact outcome_of_checkParts ⟨known, hgiven, haccepted, hlisted⟩ h
        · cases pure_eq_ok.mp h
          exact .notListed known hgiven haccepted henum hnull hout hwalk

/-! ## One level of checking -/

theorem isMissing_iff : isMissing value = true ↔ value = .missing := by
  cases value <;> simp [isMissing]

/-- A check that returns had a usable path and a mapping for its field, and it
ended at one of the rungs. -/
theorem outcome_of_checkWithin {levels : Nat} {schema name : Value}
    (h : checkWithin r (levels + 1) value schema name parent = .ok errors) :
    ∃ kind field path, schema = .mapping kind field ∧
      Path.joinValue parent name = .ok path ∧
      (value = .missing → isOn field "required" = false → errors = []) ∧
      Outcome r (checkWithin r levels) value kind field path errors := by
  rw [checkWithin] at h
  obtain ⟨path, hpath, h⟩ := bind_eq_ok.mp h
  cases schema with
  | mapping kind field =>
      refine ⟨kind, field, path, rfl, hpath, ?_⟩
      dsimp only at h
      split at h
      · rename_i habsent
        obtain ⟨hmissing, hoptional⟩ := Bool.and_eq_true_iff.mp habsent
        cases pure_eq_ok.mp h
        exact ⟨fun _ _ => rfl, .absent (isMissing_iff.mp hmissing) (by simpa using hoptional)⟩
      · rename_i hthere
        split at h
        · obtain ⟨⟨⟩, -, h⟩ := bind_eq_ok.mp h
          cases h
        · rename_i c hknown
          refine ⟨fun hmissing hoptional => ?_, outcome_of_checkValue hknown h⟩
          exact absurd (by simp [isMissing_iff.mpr hmissing, hoptional]) hthere
  | _ => simp at h

theorem checkWithin_zero_ne_ok {schema name : Value} :
    checkWithin r 0 value schema name parent ≠ .ok errors := by
  simp [checkWithin]

end Validation

end DataShape
