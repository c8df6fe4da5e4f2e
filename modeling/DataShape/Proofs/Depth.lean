import DataShape.Proofs.Extension

/-!
# The limit on nesting

The limit of the compiler cuts off what nests too deeply and does nothing else.
Without it, a raw field is compiled level by level down to its leaves, and with it
the same comes out, as long as the result has no more levels than are allowed. The
validator goes down one level of the schema with each nested check, so that the
limit bounds how deeply checks nest, whatever value is checked.
-/

namespace DataShape

open Entries (option? setOption fields alternatives parts)

/-! ## Levels and height -/

theorem Value.one_le_nesting (field : Value) : 1 ≤ field.nesting := by
  unfold Value.nesting
  split
  · exact Nat.le_add_left _ _
  · exact Nat.le_refl _

theorem Value.nesting_le_height (field : Value) : field.nesting ≤ field.height := by
  cases field with
  | mapping kind node =>
      rw [Value.height, Value.nesting_mapping_le_iff]
      intro part hpart
      have hlt : part.height < (Value.mapping kind node).height :=
        Entries.height_lt_of_mem_parts hpart
      have hle : part.nesting ≤ part.height := nesting_le_height part
      rw [Value.height] at hlt
      omega
  | _ => simpa [Value.nesting] using Value.one_le_height _
termination_by field.height

theorem Entries.nesting_le_height (fs : Entries) : fs.nesting ≤ (Value.dict fs).height := by
  rw [Entries.nesting_le_iff]
  intro e he
  have hle : e.2.nesting ≤ e.2.height := e.2.nesting_le_height
  have hentry := (Value.height_le_maxEntryHeight he).2
  rw [Value.height]
  omega

namespace Compilation

/-! ## Compilation without a limit -/

/-- Compiles a field without a limit on nesting. There are never more levels in a
raw field than it is high. -/
def compileFreely (r : Registry) : FieldCompiler := fun path raw =>
  compileField r 0 raw.height path raw

/-- Compiles the fields of an object schema without a limit on nesting. -/
def compileSchemaFreely (r : Registry) (path : Option String) (raw : Value) :
    Except Fault Entries :=
  match raw with
  | .mapping _ entries => compileFields (compileFreely r) path entries
  | _ => reject path .notMapping

section

variable {r : Registry} {compile compile' : FieldCompiler} {path : Option String}
  {raw : Value} {form field : Entries} {tag : String}

/-- The compilers do the same with a raw field wherever it stands. -/
def SameOn (compile compile' : FieldCompiler) (raw : Value) : Prop :=
  ∀ path, compile path raw = compile' path raw

theorem compileFields_of_sameOn {entries : Entries}
    (h : ∀ e ∈ entries, SameOn compile compile' e.2) :
    compileFields compile path entries = compileFields compile' path entries := by
  induction entries with
  | nil => rfl
  | cons e rest ih =>
      obtain ⟨hhead, hrest⟩ := List.forall_mem_cons.mp h
      rw [compileFields, compileFields, hhead, ih hrest]

theorem compileAlternatives_of_sameOn {items : List Value} {i : Nat}
    (h : ∀ item ∈ items, SameOn compile compile' item) :
    compileAlternatives compile path i items = compileAlternatives compile' path i items := by
  induction items generalizing i with
  | nil => rfl
  | cons item rest ih =>
      obtain ⟨hhead, hrest⟩ := List.forall_mem_cons.mp h
      rw [compileAlternatives, compileAlternatives, hhead, ih hrest]

theorem compileChildren_of_sameOn (h : ∀ part ∈ formParts field, SameOn compile compile' part) :
    compileChildren compile path tag field = compileChildren compile' path tag field := by
  have hfields : ∀ e ∈ formFields field, SameOn compile compile' e.2 := fun e he =>
    h _ (List.mem_append_left _ (List.mem_map_of_mem he))
  have halternatives : ∀ item ∈ formAlternatives field, SameOn compile compile' item :=
    fun item hitem => h item (List.mem_append_right _ hitem)
  unfold formFields at hfields
  unfold formAlternatives at halternatives
  unfold compileChildren
  split
  · split
    · rename_i kind entries hchild
      rw [hchild] at hfields
      have hsame : compileFields compile path entries = compileFields compile' path entries :=
        compileFields_of_sameOn hfields
      rw [hsame]
    · rfl
  · split
    · split
      · rename_i kind items hchild
        rw [hchild] at halternatives
        have hsame : compileAlternatives compile path 0 items
            = compileAlternatives compile' path 0 items :=
          compileAlternatives_of_sameOn halternatives
        rw [hsame]
      · rfl
    · rfl

theorem formParts_setOption_type (type : Value) :
    formParts (setOption form "type" type) = formParts form := by
  rw [formParts, formFields, formAlternatives,
    Entries.option?_setOption_of_ne _ _ (show "child" ≠ "type" by decide)]
  rfl

/-- A level looks at the parts of the form alone. -/
theorem compileLevel_of_sameOn
    (h : ∀ form, expand? r raw = some form →
      ∀ part ∈ formParts form, SameOn compile compile' part) :
    compileLevel r compile path raw = compileLevel r compile' path raw := by
  unfold compileLevel
  cases hform : expand? r raw with
  | none => rfl
  | some form =>
      dsimp only
      cases htag : r.resolve? ((option? form "type").getD .null) with
      | none => rfl
      | some tag =>
          have hparts := h form hform
          rw [← formParts_setOption_type (.text tag)] at hparts
          dsimp only
          rw [compileChildren_of_sameOn hparts]

theorem height_lt_of_mem_form {part : Value} (hform : expand? r raw = some form)
    (hpart : part ∈ formParts form) : part.height < raw.height := by
  obtain ⟨child, hchild, hlt⟩ := height_lt_of_mem_formParts hpart
  exact Nat.lt_of_lt_of_le hlt (height_child_le hform hchild)

/-- Two compilers that go down level by level do the same with every raw field. The
induction is on the height. -/
theorem sameOn_of_levels (h : ∀ path raw, compile path raw = compileLevel r compile path raw)
    (h' : ∀ path raw, compile' path raw = compileLevel r compile' path raw) (raw : Value) :
    SameOn compile compile' raw := by
  intro path
  rw [h, h']
  exact compileLevel_of_sameOn fun form hform part hpart =>
    have : part.height < raw.height := height_lt_of_mem_form hform hpart
    sameOn_of_levels h h' part
termination_by raw.height

/-- Where there are levels for the whole height of a raw field, neither their number
nor the limit shows. -/
theorem sameOn_of_height_le {limit limit' : Int} : ∀ {levels levels' : Nat} {raw : Value},
    raw.height ≤ levels → raw.height ≤ levels' →
      SameOn (compileField r limit levels) (compileField r limit' levels') raw
  | 0, _, raw, hle, _ => absurd hle (Nat.not_le.mpr raw.one_le_height)
  | _ + 1, 0, raw, _, hle => absurd hle (Nat.not_le.mpr raw.one_le_height)
  | levels + 1, levels' + 1, raw, hle, hle' => by
      intro path
      rw [compileField_succ, compileField_succ]
      refine compileLevel_of_sameOn fun form hform part hpart => ?_
      have hlt := height_lt_of_mem_form hform hpart
      exact sameOn_of_height_le (by omega) (by omega)

theorem compileFreely_eq (path : Option String) (raw : Value) :
    compileFreely r path raw = compileLevel r (compileFreely r) path raw := by
  obtain ⟨levels, hlevels⟩ : ∃ levels, raw.height = levels + 1 :=
    ⟨raw.height - 1, by have := raw.one_le_height; omega⟩
  rw [compileFreely, hlevels, compileField_succ]
  refine compileLevel_of_sameOn fun form hform part hpart => ?_
  have hlt := height_lt_of_mem_form hform hpart
  exact sameOn_of_height_le (by omega) (Nat.le_refl _)

/-- The compiler without a limit is the one that goes down level by level and never
asks how many levels there are. -/
theorem eq_compileFreely_iff :
    compile = compileFreely r ↔ ∀ path raw, compile path raw = compileLevel r compile path raw := by
  constructor
  · rintro rfl
    exact compileFreely_eq
  · intro h
    funext path raw
    exact sameOn_of_levels h compileFreely_eq raw path

/-! ## The limit cuts -/

variable {limit : Int} {levels : Nat} {out : Entries}

theorem forall₂_imp_of_mem_right {α β : Type} {R Q : α → β → Prop} {as : List α}
    {bs : List β} (hRQ : ∀ b ∈ bs, ∀ a, R a b → Q a b) (h : List.Forall₂ R as bs) :
    List.Forall₂ Q as bs := by
  have hall := (List.forall₂_and_left _ _).mpr ⟨hRQ, h.flip⟩
  exact hall.flip.imp fun a _ h => h.1 a h.2

/-- What the parts of the result were compiled from may be compiled by any other
compiler that does the same with them. -/
theorem Step.of_parts (hr : r.KeepsShape) (h : Step r compile path raw out)
    (hcompile : ∀ place raw' out', .dict out' ∈ parts out → compile place raw' = .ok out' →
      compile' place raw' = .ok out') : Step r compile' path raw out := by
  obtain ⟨form, tag, c, node, kept, hform, htag, hc, hnode, hknown, hrequired, hkept,
    hout⟩ := h
  obtain ⟨htype, hchild⟩ := shape_out hr hc hnode hkept hout
  have htag? : Entries.tag? out = some tag := by
    rw [Entries.tag?, htype]
    rfl
  refine ⟨form, tag, c, node, kept, hform, htag, hc, ?_, hknown, hrequired, hkept, hout⟩
  by_cases hobject : tag = Capability.objectTag
  · subst hobject
    obtain ⟨kind, entries, fs, hraw, hfs, rfl⟩ := compileChildren_object.mp hnode
    refine compileChildren_object.mpr ⟨kind, entries, fs, hraw, ?_, rfl⟩
    have hfields : fields out = fs := Entries.fields_of_child htag?
      ((hchild (Or.inl rfl)).trans (Entries.option?_setOption_self _ _ _))
    refine compileFields_eq_ok.mpr (forall₂_imp_of_mem_right ?_ (compileFields_eq_ok.mp hfs))
    rintro field hfield e ⟨hwritable, out', hout', rfl⟩
    refine ⟨hwritable, out', hcompile _ _ _ (List.mem_append_left _ ?_) hout', rfl⟩
    rw [hfields]
    exact List.mem_map_of_mem hfield
  · by_cases harray : tag = Capability.arrayTag
    · subst harray
      obtain ⟨kind, items, choices, hraw, hchoices, rfl⟩ := compileChildren_array.mp hnode
      refine compileChildren_array.mpr ⟨kind, items, choices, hraw, ?_, rfl⟩
      have halternatives : alternatives out = choices := Entries.alternatives_of_child htag?
        ((hchild (Or.inr rfl)).trans (Entries.option?_setOption_self _ _ _))
      refine compileAlternatives_eq_ok.mpr
        (forall₂_imp_of_mem_right ?_ (compileAlternatives_eq_ok.mp hchoices))
      rintro field hfield a ⟨out', hout', rfl⟩
      refine ⟨out', hcompile _ _ _ (List.mem_append_right _ ?_) hout', rfl⟩
      rw [halternatives]
      exact hfield
    · exact (compileChildren_leaf hobject harray).mpr
        ((compileChildren_leaf hobject harray).mp hnode)

/-- What is compiled within so many levels is compiled without a limit, and has no
more levels itself. -/
theorem freely_of_compileField (hr : r.KeepsShape) : ∀ {levels : Nat} {path : Option String}
    {raw : Value} {out : Entries}, compileField r limit levels path raw = .ok out →
      compileFreely r path raw = .ok out ∧ (Value.dict out).nesting ≤ levels
  | 0, _, _, _, h => absurd h compileField_zero_ne_ok
  | levels + 1, path, raw, out, h => by
      have hstep := compileField_succ_eq_ok.mp h
      constructor
      · rw [compileFreely_eq]
        refine compileLevel_eq_ok.mpr (hstep.of_parts hr fun place raw' out' _ hout' => ?_)
        exact (freely_of_compileField hr hout').1
      · rw [Value.nesting_mapping_le_iff, Entries.forall_mem_parts_iff path]
        intro part hpart
        obtain ⟨raw', out', hout', hdict⟩ := (hstep.typed hr).2 part hpart
        rw [hdict]
        exact (freely_of_compileField hr hout').2

/-- What is compiled without a limit is compiled within as many levels as it has. -/
theorem compileField_of_freely (hr : r.KeepsShape) : ∀ {levels : Nat} {path : Option String}
    {raw : Value} {out : Entries}, compileFreely r path raw = .ok out →
      (Value.dict out).nesting ≤ levels → compileField r limit levels path raw = .ok out
  | 0, _, _, _, _, hle => by
      rw [Value.nesting_mapping] at hle
      exact absurd hle (Nat.not_succ_le_zero _)
  | levels + 1, path, raw, out, h, hle => by
      rw [compileFreely_eq] at h
      refine compileField_succ_eq_ok.mpr
        ((compileLevel_eq_ok.mp h).of_parts hr fun place raw' out' hpart hout' => ?_)
      exact compileField_of_freely hr hout' (Value.nesting_mapping_le_iff.mp hle _ hpart)

theorem compileField_eq_ok_iff (hr : r.KeepsShape) :
    compileField r limit levels path raw = .ok out ↔
      compileFreely r path raw = .ok out ∧ (Value.dict out).nesting ≤ levels :=
  ⟨freely_of_compileField hr, fun h => compileField_of_freely hr h.1 h.2⟩

theorem compileSchema_eq_ok_iff (hr : r.KeepsShape) {fs : Entries} :
    compileSchema r limit path raw = .ok fs ↔
      compileSchemaFreely r path raw = .ok fs ∧ fs.nesting ≤ limit.toNat := by
  cases raw with
  | mapping kind entries =>
      have hfield : ∀ {path raw out}, compileField r limit limit.toNat path raw = .ok out ↔
          compileFreely r path raw = .ok out ∧ (Value.dict out).nesting ≤ limit.toNat :=
        compileField_eq_ok_iff hr
      show compileFields (compileField r limit limit.toNat) path entries = .ok fs ↔
        compileFields (compileFreely r) path entries = .ok fs ∧ _
      simp only [compileFields_eq_ok, Entries.nesting_le_iff, hfield]
      constructor
      · intro h
        refine ⟨h.imp fun e field => ?_, fun field hmem => ?_⟩
        · rintro ⟨hname, out, hout, rfl⟩
          exact ⟨hname, out, hout.1, rfl⟩
        · obtain ⟨e, -, -, out, hout, rfl⟩ := exists_of_forall₂ h hmem
          exact hout.2
      · rintro ⟨h, hle⟩
        refine forall₂_imp_of_mem_right ?_ h
        rintro field hmem e ⟨hname, out, hout, rfl⟩
        exact ⟨hname, out, ⟨hout, hle _ hmem⟩, rfl⟩
  | _ =>
      constructor
      · exact fun h => absurd h reject_ne_ok
      · exact fun h => absurd h.1 reject_ne_ok

end

end Compilation

/-! ## Checks under a bound -/

namespace Validation

/-- One level of the check of a field, given how its parts are checked. -/
def checkLevel (r : Registry) (check : Check) : Check := fun value field name parent => do
  let path ← Path.joinValue parent name
  match field with
  | .mapping kind options =>
    if isMissing value && !Entries.isOn options "required" then pure []
    else match r.lookup? ((option? options "type").getD .null) with
      | none => do
        path.checkWritable
        throw (.rejected .unknownType path)
      | some c => checkValue check c value kind options path
  | v => .error (.notAsked v "get")

/-- So many levels of checks above a check that is used for what nests deeper. -/
def checkAbove (r : Registry) (deeper : Check) : (levels : Nat) → Check
  | 0 => deeper
  | levels + 1 => checkLevel r (checkAbove r deeper levels)

section

variable {r : Registry} {check check' deeper deeper' : Check}

theorem checkWithin_eq_checkAbove (levels : Nat) :
    checkWithin r levels = checkAbove r (fun _ _ _ _ => .error .tooManyLevels) levels := by
  induction levels with
  | zero => rfl
  | succ levels ih =>
      rw [checkAbove, ← ih]
      rfl

theorem checkLevel_congr {field : Value}
    (h : ∀ kind node, field = .mapping kind node →
      ∀ part ∈ parts node, AgreeOn check check' part) :
    AgreeOn (checkLevel r check) (checkLevel r check') field := by
  intro value name parent
  refine bind_congr fun path _ => ?_
  cases field with
  | mapping kind node => simp only [checkValue_congr (h kind node rfl)]
  | _ => rfl

/-- No check of a field nests deeper than the field does. The induction is on the
levels: the parts of a node have one level less. -/
theorem agreeOn_checkAbove : ∀ {levels levels' : Nat} {field : Value},
    field.nesting ≤ levels → field.nesting ≤ levels' →
      AgreeOn (checkAbove r deeper levels) (checkAbove r deeper' levels') field
  | 0, _, field, hle, _ => absurd hle (Nat.not_le.mpr field.one_le_nesting)
  | _ + 1, 0, field, _, hle => absurd hle (Nat.not_le.mpr field.one_le_nesting)
  | levels + 1, levels' + 1, field, hle, hle' => by
      refine checkLevel_congr fun kind node hfield part hpart => ?_
      subst hfield
      exact agreeOn_checkAbove (Value.nesting_mapping_le_iff.mp hle part hpart)
        (Value.nesting_mapping_le_iff.mp hle' part hpart)

theorem agreeOn_validateField {levels : Nat} {field : Value} (hle : field.nesting ≤ levels) :
    AgreeOn (checkWithin r levels) (validateField r) field := by
  intro value name parent
  rw [validateField, checkWithin_eq_checkAbove, checkWithin_eq_checkAbove]
  exact agreeOn_checkAbove hle field.nesting_le_height value name parent

/-- The check of a field is one level of checks above itself. -/
theorem agreeOn_checkLevel (field : Value) :
    AgreeOn (validateField r) (checkLevel r (validateField r)) field := by
  intro value name parent
  obtain ⟨levels, hlevels⟩ : ∃ levels, field.height = levels + 1 :=
    ⟨field.height - 1, by have := field.one_le_height; omega⟩
  rw [validateField, hlevels]
  refine checkLevel_congr (fun kind node hfield part hpart => agreeOn_validateField ?_)
    value name parent
  subst hfield
  have hlt : part.height < (Value.mapping kind node).height :=
    Entries.height_lt_of_mem_parts hpart
  have hle := part.nesting_le_height
  omega

theorem validateObject_eq (value parent : Value) (fs : Entries) :
    validateObject r value (.dict fs) parent
      = checkObject (validateField r) value (.dict fs) parent :=
  checkObject_congr fun e he =>
    agreeOn_validateField (Entries.nesting_le_iff.mp (Entries.nesting_le_height fs) e he)

theorem validateArray_eq {node : Entries} (htag : Entries.tag? node = some Capability.arrayTag)
    (sequence path : Value) :
    validateArray r sequence (.dict node) path
      = Matching.matchArray (validateField r) sequence (.dict node) path := by
  refine matchArray_congr htag fun choice hchoice => agreeOn_validateField ?_
  have hlt : choice.height < (Value.dict node).height :=
    Entries.height_lt_of_mem_parts (List.mem_append_right _ hchoice)
  exact Nat.le_trans choice.nesting_le_height (Nat.le_of_lt hlt)

/-- Checks of a mapping under a schema nest as deep as the schema at most. -/
theorem checkObject_checkAbove {fs : Entries} {levels : Nat} (hle : fs.nesting ≤ levels)
    (value parent : Value) :
    checkObject (checkAbove r deeper levels) value (.dict fs) parent
      = validateObject r value (.dict fs) parent := by
  refine checkObject_congr fun e he => ?_
  rw [checkWithin_eq_checkAbove]
  exact agreeOn_checkAbove (Entries.nesting_le_iff.mp hle e he)
    (Entries.nesting_le_iff.mp (Entries.nesting_le_height fs) e he)

end

end Validation

namespace Registry

/-- The checks of options leave the type of a field as it is; they are there to refuse
it or to settle its other options. -/
def KeepsTypes (r : Registry) : Prop :=
  ∀ tag c, r.capability? tag = some c → ∀ field path kept, c.checkField field path = .ok kept →
    option? kept "type" = option? field "type"

/-- Objects and arrays keep all of a field that they check. -/
theorem KeepsTypes.keepsShape {r : Registry} (hr : r.KeepsTypes)
    (hobject : r.capability? Capability.objectTag = some .object)
    (harray : r.capability? Capability.arrayTag = some .array) : r.KeepsShape := by
  intro tag c hc field path kept hkept
  refine ⟨hr tag c hc field path kept hkept, ?_⟩
  rintro (rfl | rfl)
  · obtain rfl : Capability.object = c := Option.some.inj (hobject.symm.trans hc)
    obtain rfl : field = kept := Except.ok.inj hkept
    rfl
  · obtain rfl : Capability.array = c := Option.some.inj (harray.symm.trans hc)
    obtain rfl : field = kept := Except.ok.inj hkept
    rfl

theorem Regular.keepsTypes {r : Registry} (hr : r.Regular) : r.KeepsTypes :=
  fun tag c hc field path kept hkept => (hr.keepsParts tag c hc field path kept hkept).1

end Registry

open Compilation Validation

/-- **The limit on nesting only cuts, and it bounds checks too.** Over every registry
in which objects and arrays have their own types, and whose types leave the type of a
field alone when they check its options: a raw schema is compiled under a limit exactly
if it is compiled without one and what comes out nests within the limit, and it is the
same that comes out; so no larger limit changes it. Where it has come out, a check of
any value nests no deeper than the limit: whatever a check would do that is nested
deeper, the report is the same. -/
theorem compileSchema_limit_cuts {r : Registry}
    (hobject : r.capability? Capability.objectTag = some .object)
    (harray : r.capability? Capability.arrayTag = some .array)
    (htypes : r.KeepsTypes) (limit : Int) (path : Option String) (raw : Value) :
    (∀ compile, compile = compileFreely r ↔
      ∀ path raw, compile path raw = compileLevel r compile path raw) ∧
    (∀ fs, compileSchema r limit path raw = .ok fs ↔
      compileSchemaFreely r path raw = .ok fs ∧ fs.nesting ≤ limit.toNat) ∧
    ∀ fs, compileSchema r limit path raw = .ok fs →
      (∀ larger, limit ≤ larger → compileSchema r larger path raw = .ok fs) ∧
      ∀ deeper value parent, checkObject (checkAbove r deeper limit.toNat) value (.dict fs) parent
        = validateObject r value (.dict fs) parent := by
  have hr : r.KeepsShape := htypes.keepsShape hobject harray
  refine ⟨fun _ => eq_compileFreely_iff, fun fs => compileSchema_eq_ok_iff hr, fun fs h => ?_⟩
  obtain ⟨hfreely, hle⟩ := (compileSchema_eq_ok_iff hr).mp h
  constructor
  · intro larger hlarger
    have hmono : limit.toNat ≤ larger.toNat := Int.toNat_le_toNat hlarger
    exact (compileSchema_eq_ok_iff hr).mpr ⟨hfreely, Nat.le_trans hle hmono⟩
  · intro deeper value parent
    exact checkObject_checkAbove hle value parent

/-- A list of texts has two levels: no larger limit changes it, and nothing that a third
level of checks would do shows. -/
theorem compileSchema_limit_cuts_list :
    Registry.builtin.capability? Capability.objectTag = some .object ∧
      Registry.builtin.capability? Capability.arrayTag = some .array ∧
      Registry.builtin.KeepsTypes ∧
      ∃ fs, compileSchema .builtin 2 none (.dict [(.text "a", .list [.classObject .text])]) = .ok fs ∧
        (∀ larger, 2 ≤ larger →
          compileSchema .builtin larger none (.dict [(.text "a", .list [.classObject .text])])
            = .ok fs) ∧
        ∀ deeper value parent, checkObject (checkAbove .builtin deeper 2) value (.dict fs) parent
          = validateObject .builtin value (.dict fs) parent := by
  have hobject : Registry.builtin.capability? Capability.objectTag = some .object := rfl
  have harray : Registry.builtin.capability? Capability.arrayTag = some .array := rfl
  have htypes : Registry.builtin.KeepsTypes := Registry.Reachable.seeded.regular.keepsTypes
  have hcompile : compileSchema .builtin 2 none (.dict [(.text "a", .list [.classObject .text])])
      = .ok [(.text "a", .dict [(.text "type", .text "array"),
        (.text "child", .list [.dict [(.text "type", .text "string")]])])] := by
    rw [Registry.builtin_eq]
    cbv
  obtain ⟨-, -, hcut⟩ := compileSchema_limit_cuts hobject harray htypes 2 none
    (.dict [(.text "a", .list [.classObject .text])])
  exact ⟨hobject, harray, htypes, _, hcompile, hcut _ hcompile⟩

/-- A type whose check turns a field into an object. -/
def retyping : Capability where
  label := "RetypingType"
  name := "retyping"
  properties := ["required"]
  accepts _ _ := .ok true
  checkField _ _ := .ok [(.text "type", .text Capability.objectTag),
    (.text "child", .dict [(.text "a", .dict [(.text "type", .text "string")])])]

/-- The built-in types, with objects under a second tag. -/
def withRecords : Registry :=
  (Registry.builtin.register (.text "record") (.capability .object) (.list [])).1

/-- A check of options that changes the type of a field can go past the limit. So can an
object under another tag than its own: its fields are not compiled, and no level is counted
for them. -/
theorem exceeds_limit_of_retyping :
    (∃ raw fs, compileSchema (Registry.builtin.add retyping) 1 none raw = .ok fs ∧
      ¬ fs.nesting ≤ 1) ∧
    ∃ field, compileSchema withRecords 1 none (.dict [(.text "f", .dict field)])
        = .ok [(.text "f", .dict field)] ∧
      option? field "type" = some (.text "record") ∧
      withRecords.capability? "record" = some .object ∧
      option? field "child" = some (.dict [(.text "a", .dict [(.text "type", .text "string")])]) := by
  constructor
  · refine ⟨.dict [(.text "f", .text "retyping")], _, by rw [Registry.builtin_eq]; cbv, ?_⟩
    rw [Entries.nesting_le_iff, List.forall_mem_singleton, Value.nesting_mapping_le_iff]
    intro h
    have hpart := h (.dict [(.text "type", .text "string")]) (by simp [parts, fields, Entries.tag?,
      Entries.option?_cons, Value.entries?, Capability.objectTag])
    exact absurd hpart (Nat.not_le.mpr (Value.one_le_nesting _))
  · refine ⟨[(.text "type", .text "record"),
      (.text "child", .dict [(.text "a", .dict [(.text "type", .text "string")])])],
      ?_, by simp [Entries.option?_cons], rfl, by simp [Entries.option?_cons]⟩
    unfold withRecords
    rw [Registry.builtin_eq]
    cbv

end DataShape
