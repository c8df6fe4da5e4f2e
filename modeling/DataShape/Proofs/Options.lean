import DataShape.Proofs.Agreement
import DataShape.Proofs.ReorderedSchema

/-!
# Listed options

The compiler judges the options of a field one by one, on a node whose list is still the
one that was written. A check judges a value on the finished node, first by what is
required, then by the type, last by equality with the options. The two agree: each option
passes the check unless it counts as not given where the field is required, and what
passes is a value of the type and equal to an option.

What the types with options accept are texts, values that denote a number, and machine
spans, which are integers of their own. A value is one with itself as a content, so that
an option is found in its own list, and it does not matter which side is asked. A machine
span that is none is one with itself and equal to nothing.
-/

namespace DataShape

open Entries (option? keys isOn)

/-! ## Texts, numbers and times -/

namespace Value

/-- A text, a value that denotes a number, or a machine time. -/
inductive IsListable : Value → Prop
  | text {v : Value} {s : String} (chars : v.text? = some s) : IsListable v
  | number {v : Value} {re im : Amount} (quantity : v.quantity? = some ⟨some re, some im⟩) :
      IsListable v
  | time {v : Value} {t : Timing} (timing : v.timing? = some t) : IsListable v

variable {a b v : Value}

theorem quantity?_of_text? {s : String} (h : v.text? = some s) : v.quantity? = none := by
  rcases eq_of_text?_eq_some h with rfl | rfl
  · rfl
  · rfl

theorem timing?_of_text? {s : String} (h : v.text? = some s) : v.timing? = none := by
  rcases eq_of_text?_eq_some h with rfl | rfl
  · rfl
  · rfl

theorem timing?_of_quantity? {q : Quantity} (h : v.quantity? = some q) : v.timing? = none := by
  cases v with
  | scalar x =>
      cases x with
      | moment | span | never => cases h
      | _ => rfl
  | _ => rfl

theorem IsListable.isPartless (h : v.IsListable) : v.isPartless = true := by
  cases h with
  | text chars => exact isPartless_of_text? chars
  | number quantity =>
      cases v with
      | sequence | set | array | point | mapping => simp [quantity?] at quantity
      | _ => rfl
  | time timing =>
      cases v with
      | scalar => rfl
      | _ => cases timing

theorem IsListable.ne_missing (h : v.IsListable) : v ≠ .missing := by
  rintro rfl
  cases h with
  | text chars => simp [text?] at chars
  | number quantity => simp [quantity?] at quantity
  | time timing => cases timing

theorem isArray_of_isPartless (h : v.isPartless = true) : v.isArray = false := by
  cases v with
  | array | point => simp [isPartless] at h
  | _ => rfl

theorem IsListable.equal_eq (h : a.IsListable) (b : Value) : a.equal b = sameLeaf false a b :=
  sameAs_of_isPartless h.isPartless false b

/-- Between values that can be listed, equality as a condition asks it is equality of
contents. -/
theorem IsListable.equals_eq (ha : a.IsListable) (hb : b.IsListable) :
    a.equals b = .ok (a.equal b) := by
  rw [equals, isArray_of_isPartless ha.isPartless, isArray_of_isPartless hb.isPartless]
  rfl

/-! ## Equality of texts, numbers and times -/

theorem sameContent_texts {s t : String} (ha : a.text? = some s) (hb : b.text? = some t) :
    sameContent false a b = (s == t) := by
  rcases eq_of_text?_eq_some ha with rfl | rfl
  · rcases eq_of_text?_eq_some hb with rfl | rfl <;> rfl
  · rcases eq_of_text?_eq_some hb with rfl | rfl <;> rfl

theorem sameContent_numbers {p q : Quantity} (ha : a.quantity? = some p)
    (hb : b.quantity? = some q) :
    sameContent false a b = (meeting b a p).same (meeting a b q) := by
  simp [sameContent, ha, hb]

theorem sameLeaf_of_timeless (ha : a.timing? = none) (hb : b.timing? = none) :
    sameLeaf false a b = sameContent false a b := by
  rw [sameLeaf, ha, hb]

/-- It does not matter which of two values is asked, if one of them is a machine time. -/
theorem sameLeaf_comm_of_timing (h : a.timing?.isSome ∨ b.timing?.isSome) :
    sameLeaf false a b = sameLeaf false b a := by
  unfold sameLeaf
  cases ha : a.timing? with
  | some s =>
      cases b.timing? with
      | some t => exact BEq.comm
      | none => rfl
  | none =>
      cases hb : b.timing? with
      | some t => rfl
      | none => simp [ha, hb] at h

/-- A number meets itself as it is. -/
theorem meeting_self (v : Value) (q : Quantity) : meeting v v q = q := by
  cases v with
  | scalar x => cases x <;> rfl
  | _ => rfl

theorem Quantity.same_comm (p q : Quantity) : p.same q = q.same p := by
  rw [Bool.eq_iff_iff, same_iff, same_iff]
  constructor
  · rintro ⟨hsome, heq⟩
    exact ⟨heq ▸ hsome, heq.symm⟩
  · rintro ⟨hsome, heq⟩
    exact ⟨heq ▸ hsome, heq.symm⟩

theorem IsListable.equal_self (h : v.IsListable) : v.equal v = true := by
  rw [h.equal_eq]
  cases h with
  | text chars =>
      have htimeless := timing?_of_text? chars
      rw [sameLeaf_of_timeless htimeless htimeless, sameContent_texts chars chars, beq_self_eq_true]
  | number quantity =>
      have htimeless := timing?_of_quantity? quantity
      rw [sameLeaf_of_timeless htimeless htimeless, sameContent_numbers quantity quantity,
        meeting_self]
      simp [Quantity.same]
  | time timing => simp [sameLeaf, timing]

theorem IsListable.equal_comm (ha : a.IsListable) (hb : b.IsListable) :
    a.equal b = b.equal a := by
  rw [ha.equal_eq, hb.equal_eq]
  by_cases htime : a.timing?.isSome ∨ b.timing?.isSome
  · exact sameLeaf_comm_of_timing htime
  · simp only [not_or, Option.not_isSome_iff_eq_none] at htime
    obtain ⟨hatimeless, hbtimeless⟩ := htime
    rw [sameLeaf_of_timeless hatimeless hbtimeless, sameLeaf_of_timeless hbtimeless hatimeless]
    cases ha with
    | text chars =>
        cases hb with
        | text chars' =>
            rw [sameContent_texts chars chars', sameContent_texts chars' chars]
            exact BEq.comm
        | number quantity => simp [sameContent, quantity, quantity?_of_text? chars]
        | time timing => simp [hbtimeless] at timing
    | number quantity =>
        cases hb with
        | text chars => simp [sameContent, quantity, quantity?_of_text? chars]
        | number quantity' =>
            rw [sameContent_numbers quantity quantity', sameContent_numbers quantity' quantity]
            exact Quantity.same_comm _ _
        | time timing => simp [hbtimeless] at timing
    | time timing => simp [hatimeless] at timing

/-! ## Lists of options -/

theorem anyEquals_eq_any (hv : v.IsListable) : ∀ {options : List Value},
    (∀ o ∈ options, o.IsListable) → v.anyEquals options = .ok (options.any fun o => o.equal v)
  | [], _ => rfl
  | o :: rest, hoptions => by
      obtain ⟨ho, hrest⟩ := List.forall_mem_cons.mp hoptions
      rw [anyEquals, ho.equals_eq hv, List.any_cons]
      cases o.equal v with
      | true => rfl
      | false => exact anyEquals_eq_any hv hrest

/-- A value that is one with a content is equal to it, unless it is equal to nothing. -/
theorem isEqual_of_equals (ha : a.IsListable) (hb : b.IsListable) (h : a.equals b = .ok true)
    (hever : a.isNever = false) : a.isEqual b = true := by
  rw [ha.equals_eq hb, Except.ok.injEq] at h
  rw [isEqual, hever, h]
  rfl

/-- A list holds exactly the values that are one with one of its members. -/
theorem isIn_list_iff (hv : v.IsListable) {options : List Value}
    (hoptions : ∀ o ∈ options, o.IsListable) :
    v.isIn (.list options) = .ok true ↔ ∃ o ∈ options, v.equals o = .ok true := by
  rw [isIn, anyEquals_eq_any hv hoptions, Except.ok.injEq, List.any_eq_true]
  constructor
  · rintro ⟨o, ho, hequal⟩
    refine ⟨o, ho, ?_⟩
    rw [hv.equals_eq (hoptions o ho), hv.equal_comm (hoptions o ho), hequal]
  · rintro ⟨o, ho, hequals⟩
    rw [hv.equals_eq (hoptions o ho), Except.ok.injEq] at hequals
    exact ⟨o, ho, (hoptions o ho).equal_comm hv ▸ hequals⟩

end Value

/-! ## Types with options -/

theorem Floating.exists_amount? {x : Floating} (h : x.isNan = false) :
    ∃ amount, x.amount? = some amount := by
  cases x with
  | nan => simp [isNan] at h
  | infinite negative => exact ⟨_, rfl⟩
  | finite negative mantissa exponent => exact ⟨_, rfl⟩

namespace Capability

variable {c : Capability} {field : Entries} {v : Value}

theorem isListable_of_isNumber (h : isNumber v = true) : v.IsListable := by
  have hfloat {x : Floating} (hx : (!x.isNan) = true) :
      ∃ amount, x.amount? = some amount := Floating.exists_amount? (by simpa using hx)
  cases v with
  | int n => exact .number rfl
  | float x =>
      obtain ⟨amount, hamount⟩ := hfloat h
      exact .number (by rw [Value.quantity?, hamount])
  | scalar x =>
      cases x with
      | int width n => exact .number rfl
      | float width x =>
          obtain ⟨amount, hamount⟩ := hfloat h
          exact .number (by rw [Value.quantity?, hamount])
      | span | never => exact .time rfl
      | _ => simp [isNumber] at h
  | _ => simp [isNumber] at h

theorem isListable_of_isBool (h : v.isBool = true) : v.IsListable := by
  cases v with
  | bool b => exact .number rfl
  | scalar x =>
      cases x with
      | bool b => exact .number rfl
      | _ => simp [Value.isBool] at h
  | _ => simp [Value.isBool] at h

/-- The built-in types that know options. -/
theorem eq_of_lists (hc : c ∈ builtins) (henum : "enum" ∈ c.properties) :
    c = string ∨ c = number ∨ c = boolean := by
  cases hc using Capability.builtins_cases with
  | string => exact .inl rfl
  | number => exact .inr (.inl rfl)
  | boolean => exact .inr (.inr rfl)
  | _ => exact absurd henum (by decide)

section

variable (hc : c ∈ builtins) (henum : "enum" ∈ c.properties)

include hc henum

theorem isListable_of_accepts (h : c.accepts v field = .ok true) : v.IsListable := by
  rcases eq_of_lists hc henum with rfl | rfl | rfl
  · cases htext : v.text? with
    | none => simp [string, htext] at h
    | some s => exact .text htext
  · cases htext : v.text? with
    | none => exact isListable_of_isNumber (by simpa [number, htext] using h)
    | some s => exact .text htext
  · exact isListable_of_isBool (Except.ok.inj h)

/-- Of the accepted values only the empty text counts as not given, and only where texts
are asked for. -/
theorem isEmpty_of_lists (h : c.accepts v field = .ok true) :
    ∃ isEmpty, c.isEmpty v field = .ok isEmpty ∧
      (isEmpty = true ↔ c.name = string.name ∧ v.text? = some "") := by
  rcases eq_of_lists hc henum with rfl | rfl | rfl
  · obtain ⟨s, hs⟩ : ∃ s, v.text? = some s := by
      cases htext : v.text? with
      | none => simp [string, htext] at h
      | some s => exact ⟨s, rfl⟩
    refine ⟨s == "", ?_, by simp [hs]⟩
    rcases Value.eq_of_text?_eq_some hs with rfl | rfl
    · rfl
    · rfl
  -- the other two go by the verdict, which is positive
  all_goals
    refine ⟨false, ?_, iff_of_false Bool.false_ne_true fun hname => absurd hname.1 (by decide)⟩
    have hnot : (Except.ok true : Except Fault Bool).map not = .ok false := rfl
    cases v with
    | missing => simp [number, boolean, Value.text?, isNumber, Value.isBool] at h
    | _ => exact (congrArg (Except.map not) h).trans hnot

theorem name_ne_of_lists : c.name ≠ objectTag ∧ c.name ≠ arrayTag := by
  rcases eq_of_lists hc henum with rfl | rfl | rfl
  · exact ⟨by decide, by decide⟩
  · exact ⟨by decide, by decide⟩
  · exact ⟨by decide, by decide⟩

end

end Capability

/-! ## The check of a field with options -/

namespace Validation

variable {r : Registry} {check : Check} {c : Capability} {tag : String} {v path options : Value}
  {field : Entries} {kind : MappingKind}

theorem checkValue_of_notGiven (hrequired : isOn field "required" = true)
    (hempty : c.isEmpty v field = .ok true) :
    checkValue check c v kind field path = .ok [(path, required)] := by
  rw [checkValue, if_pos hrequired, hempty]
  rfl

/-- A value that passes the three questions has no errors, as it has no parts. -/
theorem checkValue_of_listed (hgiven : IsGiven c v field)
    (haccepts : c.accepts v field = .ok true) (henum : option? field "enum" = some options)
    (hlisted : v.isIn options = .ok true) (htype : option? field "type" = some (.text tag))
    (hobject : tag ≠ Capability.objectTag) (harray : tag ≠ Capability.arrayTag) :
    checkValue check c v kind field path = .ok [] := by
  have hnotGiven : (if isOn field "required" then c.isEmpty v field else pure false)
      = .ok false := by
    cases hrequired : isOn field "required" with
    | false => rfl
    | true => exact hgiven hrequired
  have hoption : checkOption v field path = .ok none := by
    unfold checkOption
    rw [henum]
    split
    · rfl
    · rfl
    · rename_i hsome
      cases hsome
      rw [hlisted]
      rfl
  rw [checkValue, ite_bind, hnotGiven]
  show (c.accepts v field >>= _) = _
  rw [haccepts]
  show (checkOption v field path >>= _) = _
  rw [hoption]
  exact checkParts_leaf htype hobject harray

/-- A value that is there is checked at its path by the type of the field. -/
theorem validateField_eq_checkValue
    (hknown : r.lookup? ((option? field "type").getD .null) = some c) (hthere : v ≠ .missing)
    (name parent : Value) :
    validateField r v (.mapping kind field) name parent =
      Path.joinValue parent name >>=
        checkValue (checkWithin r (Value.maxEntryHeight field)) c v kind field := by
  have hmissing : isMissing v = false := by
    rw [Bool.eq_false_iff]
    exact fun h => hthere (isMissing_iff.mp h)
  rw [validateField, Value.height, checkWithin]
  refine bind_congr fun place _ => ?_
  simp only [hmissing, Bool.false_and, Bool.false_eq_true, if_false, hknown]

end Validation

/-! ## Compiled fields with options -/

section

variable {tag : String} {c : Capability} {field : Entries} {options : List Value} {o v : Value}

/-- A canonical node of a built-in type that lists options. -/
structure IsListing (tag : String) (c : Capability) (field : Entries) (options : List Value) :
    Prop where
  canonical : IsCanonical .builtin tag c field
  enum : option? field "enum" = some (.list options)

namespace IsListing

theorem of_compileField {limit : Int} {levels : Nat} {path : Option String} {raw enum : Value}
    (hcompile : compileField .builtin limit levels path raw = .ok field)
    (henum : option? field "enum" = some enum) :
    ∃ tag c options, enum = .list options ∧ IsListing tag c field options := by
  obtain ⟨tag, c, hcanonical⟩ := (Compilation.canonical_of_compileField
    (Registry.Reachable.seeded).regular hcompile).at_root
  obtain ⟨options, rfl, -⟩ := hcanonical.enum enum henum
  exact ⟨tag, c, options, rfl, hcanonical, henum⟩

theorem mem_builtins (h : IsListing tag c field options) : c ∈ Capability.builtins :=
  (Registry.of_capability?_builtin h.canonical.registered).1

theorem tag_eq (h : IsListing tag c field options) : tag = c.name :=
  (Registry.of_capability?_builtin h.canonical.registered).2

theorem knows_enum (h : IsListing tag c field options) : "enum" ∈ c.properties :=
  Compilation.declares_of_option? h.canonical.known (by decide) h.enum

theorem accepts (h : IsListing tag c field options) (ho : o ∈ options) :
    c.accepts o field = .ok true := by
  obtain ⟨options', hoptions, haccepts⟩ := h.canonical.enum _ h.enum
  cases hoptions
  exact haccepts o ho

theorem isListable (h : IsListing tag c field options) (haccepts : c.accepts v field = .ok true) :
    v.IsListable :=
  Capability.isListable_of_accepts h.mem_builtins h.knows_enum haccepts

theorem lookup?_type (h : IsListing tag c field options) :
    Registry.builtin.lookup? ((option? field "type").getD .null) = some c := by
  rw [h.canonical.type, Option.getD_some, Registry.lookup?_text]
  exact h.canonical.registered

/-- Among the values of the type, the listed ones are those that are one with an option. -/
theorem isIn_iff (h : IsListing tag c field options) (haccepts : c.accepts v field = .ok true) :
    v.isIn (.list options) = .ok true ↔ ∃ o ∈ options, v.equals o = .ok true :=
  Value.isIn_list_iff (h.isListable haccepts) fun _ ho => h.isListable (h.accepts ho)

theorem equals_self (h : IsListing tag c field options) (ho : o ∈ options) :
    o.equals o = .ok true := by
  have hlistable := h.isListable (h.accepts ho)
  rw [hlistable.equals_eq hlistable, hlistable.equal_self]

open Validation

variable {check : Check} {path : Value} {kind : MappingKind}

theorem checkValue_eq_nil (h : IsListing tag c field options) (hgiven : IsGiven c v field)
    (haccepts : c.accepts v field = .ok true) (hequal : ∃ o ∈ options, v.equals o = .ok true) :
    checkValue check c v kind field path = .ok [] := by
  obtain ⟨hobject, harray⟩ := Capability.name_ne_of_lists h.mem_builtins h.knows_enum
  exact checkValue_of_listed hgiven haccepts h.enum ((h.isIn_iff haccepts).mpr hequal)
    h.canonical.type (h.tag_eq ▸ hobject) (h.tag_eq ▸ harray)

/-- An option has no errors, or it counts as not given where the field is required. -/
theorem checkValue_option (h : IsListing tag c field options) (ho : o ∈ options) {isEmpty : Bool}
    (hempty : c.isEmpty o field = .ok isEmpty) :
    checkValue check c o kind field path =
      .ok (if isOn field "required" && isEmpty then [(path, required)] else []) := by
  cases hboth : isOn field "required" && isEmpty with
  | true =>
      obtain ⟨hrequired, rfl⟩ := Bool.and_eq_true_iff.mp hboth
      exact checkValue_of_notGiven hrequired hempty
  | false =>
      refine h.checkValue_eq_nil (fun hrequired => ?_) (h.accepts ho) ⟨o, ho, h.equals_self ho⟩
      rw [hrequired, Bool.true_and] at hboth
      rw [hempty, hboth]

/-- What has no errors has passed all three questions. -/
theorem passes_of_eq_nil (h : IsListing tag c field options) (hthere : v ≠ .missing)
    {name parent : Value}
    (hnil : validateField .builtin v (.mapping kind field) name parent = .ok []) :
    (∃ place, Path.joinValue parent name = .ok place) ∧ Passes .builtin c v field := by
  rw [validateField, Value.height] at hnil
  obtain ⟨kind', field', place, hfield, hplace, -, houtcome⟩ := outcome_of_checkWithin hnil
  cases hfield
  obtain ⟨hobject, harray⟩ := Capability.name_ne_of_lists h.mem_builtins h.knows_enum
  have hpasses {c' : Capability} (hpasses : Passes .builtin c' v field) :
      Passes .builtin c v field := by
    obtain rfl : c' = c := Option.some.inj (hpasses.known.symm.trans h.lookup?_type)
    exact hpasses
  refine ⟨⟨place, hplace⟩, ?_⟩
  cases houtcome with
  | absent missing => exact absurd missing hthere
  | object passes | anyElements passes | array passes | leaf passes => exact hpasses passes

end IsListing

end

open Validation in
/-- **The compiler and the check agree on listed options.** Take any raw field that is
compiled with the built-in types to one that lists options.

An option has no errors, under any name and below any parent, unless the field is required
and the option counts as not given; then the one error is that the field is required. The
only option that counts as not given is the empty text, in a field of texts.

A value that is there has no errors exactly if it is one with an option, of the type under
the `test` and `coerce` of the field, and given where the field is required. It is equal
to the option unless it is a machine span that is none, which is one with itself alone.

A text is a name below every parent that can be told. What is no name below the parent is
a fault, for values of any kind. -/
theorem options_agree {limit : Int} {levels : Nat} {path : Option String} {raw enum : Value}
    {field : Entries} (hcompile : compileField .builtin limit levels path raw = .ok field)
    (henum : option? field "enum" = some enum) :
    ∃ tag c options, option? field "type" = some (.text tag) ∧
      Registry.builtin.capability? tag = some c ∧ enum = .list options ∧
      (∀ o ∈ options, ∃ isEmpty, c.isEmpty o field = .ok isEmpty ∧
        (isEmpty = true ↔ tag = Capability.string.name ∧ o.text? = some "") ∧
        ∀ name parent, (name.IsText → parent.isWritable = true →
            ∃ place, Path.joinValue parent name = .ok place) ∧
          validateField .builtin o (.dict field) name parent =
            (Path.joinValue parent name).map fun place =>
              if isOn field "required" && isEmpty then [(place, required)] else []) ∧
      ∀ v name parent, v ≠ .missing →
        (validateField .builtin v (.dict field) name parent = .ok [] ↔
          (∃ place, Path.joinValue parent name = .ok place) ∧
          (∃ o ∈ options, v.equals o = .ok true ∧ (v.isNever = false → v.isEqual o = true)) ∧
          c.accepts v field = .ok true ∧
          (isOn field "required" = true → c.isEmpty v field = .ok false)) := by
  obtain ⟨tag, c, options, rfl, h⟩ := IsListing.of_compileField hcompile henum
  refine ⟨tag, c, options, h.canonical.type, h.canonical.registered, rfl, ?_, ?_⟩
  · intro o ho
    obtain ⟨isEmpty, hempty, hiff⟩ :=
      Capability.isEmpty_of_lists h.mem_builtins h.knows_enum (h.accepts ho)
    refine ⟨isEmpty, hempty, h.tag_eq ▸ hiff, fun name parent => ⟨fun hname hparent => ?_, ?_⟩⟩
    · obtain ⟨place, hplace, -⟩ := Path.returns_joinValue hname hparent
      exact ⟨place, hplace⟩
    · rw [validateField_eq_checkValue h.lookup?_type (h.isListable (h.accepts ho)).ne_missing]
      cases Path.joinValue parent name with
      | error fault => rfl
      | ok place => exact h.checkValue_option ho hempty
  · intro v name parent hthere
    constructor
    · intro hnil
      obtain ⟨hplace, hpasses⟩ := h.passes_of_eq_nil hthere hnil
      refine ⟨hplace, ?_, hpasses.accepted, hpasses.given⟩
      rcases hpasses.listed with hnone | hnull | ⟨listed, hlisted, hin⟩
      · simp [h.enum] at hnone
      · simp [h.enum] at hnull
      · cases h.enum.symm.trans hlisted
        obtain ⟨o, ho, hequals⟩ := (h.isIn_iff hpasses.accepted).mp hin
        exact ⟨o, ho, hequals, Value.isEqual_of_equals (h.isListable hpasses.accepted)
          (h.isListable (h.accepts ho)) hequals⟩
    · rintro ⟨⟨place, hplace⟩, ⟨o, ho, hequals, -⟩, haccepts, hgiven⟩
      rw [validateField_eq_checkValue h.lookup?_type hthere, hplace]
      exact h.checkValue_eq_nil hgiven haccepts ⟨o, ho, hequals⟩

/-- A required text, which is empty or the one letter that its pattern knows. -/
def letterForm : Value :=
  .dict [(.text "type", .text "string"), (.text "required", .bool true),
    (.text "test", .text "^a?$"), (.text "enum", .sequence .tuple [.text "", .text "a"])]

/-- The field as it is compiled. -/
def letterField : Entries :=
  [(.text "type", .text "string"), (.text "required", .bool true),
    (.text "test", .pattern ⟨.text "^a?$", { unicode := true }, .sequence [.anchor .textStart,
      .repeated .most 0 (some 1) (.code 97 .exact), .anchor .lastLineEnd]⟩),
    (.text "enum", .list [.text "", .text "a"])]

/-- Below a parent the empty option is not given, the other one passes in any
representation, and no other text does. -/
theorem options_agree_letter :
    compileField .builtin 1 1 none letterForm = .ok letterField ∧
      validateField .builtin (.text "") (.dict letterField) (.text "f") (.text "p")
        = .ok [(.text "p.f", Validation.required)] ∧
      validateField .builtin (.scalar (.text "a")) (.dict letterField) (.text "f") (.text "p")
        = .ok [] ∧
      validateField .builtin (.text "b") (.dict letterField) (.text "f") (.text "p")
        ≠ .ok [] := by
  have hcompile : compileField .builtin 1 1 none letterForm = .ok letterField := by
    rw [Registry.builtin_eq]
    cbv
  have henum : option? letterField "enum" = some (.list [.text "", .text "a"]) := by cbv
  have hplace : Path.joinValue (.text "p") (.text "f") = .ok (.text "p.f") := by cbv
  obtain ⟨tag, c, options, htype, hc, heq, hoptions, hvalues⟩ := options_agree hcompile henum
  cases heq
  obtain rfl : "string" = tag := by simpa [letterField, Entries.option?_cons] using htype
  obtain rfl : Capability.string = c := Option.some.inj hc
  refine ⟨hcompile, ?_, ?_, fun hnil => ?_⟩
  · obtain ⟨isEmpty, -, hiff, hcheck⟩ := hoptions (.text "") (by simp)
    have hempty : isEmpty = true := hiff.mpr ⟨rfl, rfl⟩
    have hrequired : isOn letterField "required" = true := by cbv
    rw [(hcheck _ _).2, hplace, hempty, hrequired]
    rfl
  · have hletter : (Value.scalar (.text "a")).equals (.text "a") = .ok true := by cbv
    refine (hvalues _ _ _ (by simp)).mpr ⟨⟨_, hplace⟩, ⟨.text "a", by simp, hletter, ?_⟩, ?_, ?_⟩
    · exact fun _ => by cbv
    · cbv
    · exact fun _ => by cbv
  · obtain ⟨-, ⟨o, ho, hequals, -⟩, -⟩ := (hvalues _ _ _ (by simp)).mp hnil
    have hempty : (Value.text "b").equals (.text "") = .ok false := by cbv
    have hletter : (Value.text "b").equals (.text "a") = .ok false := by cbv
    rcases List.mem_pair.mp ho with rfl | rfl
    · simp [hempty] at hequals
    · simp [hletter] at hequals

/-- A machine span that is none is found among the options by being the same object, while
it is equal to nothing; and an option has no errors only under what is a name. -/
theorem options_disagree_of_never :
    compileField .builtin 1 1 none (.dict [(.text "type", .text "number"),
        (.text "enum", .list [.scalar (.never true .second 0)])])
      = .ok [(.text "type", .text "number"),
        (.text "enum", .list [.scalar (.never true .second 0)])] ∧
    validateField .builtin (.scalar (.never true .second 0)) (.dict [(.text "type", .text "number"),
        (.text "enum", .list [.scalar (.never true .second 0)])]) (.text "f") .null = .ok [] ∧
    (Value.scalar (.never true .second 0)).isEqual (.scalar (.never true .second 0)) = false ∧
    compileField .builtin 1 1 none (.dict [(.text "type", .text "string"),
        (.text "enum", .list [.text "a"])])
      = .ok [(.text "type", .text "string"), (.text "enum", .list [.text "a"])] ∧
    validateField .builtin (.text "a") (.dict [(.text "type", .text "string"),
        (.text "enum", .list [.text "a"])]) (.int 1) (.text "p")
      = .error (.noMember (.int 1) "startswith") := by
  rw [Registry.builtin_eq]
  refine ⟨?_, ?_, ?_, ?_, ?_⟩
  all_goals cbv

end DataShape
