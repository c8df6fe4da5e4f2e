import DataShape.Compilation
import DataShape.Proofs.SchemaTree
import Mathlib.Data.List.Forall2

/-!
# What a successful compilation has done

Each check of the compiler is characterised by what it accepts, and one level
of compilation by everything that it did to the field it returns. Later proofs
use these facts and do not open the compiler again.
-/

namespace DataShape

/-- A field of the type may have the key. -/
def Capability.Declares (c : Capability) (key : Value) : Prop :=
  ∃ name, key.text? = some name ∧ (name = "type" ∨ name ∈ c.properties)

/-- A tag leads to its own capability. -/
theorem Registry.lookup?_text (r : Registry) (tag : String) :
    r.lookup? (.text tag) = r.capability? tag := by
  unfold lookup? resolve? capability?
  dsimp only [Value.text?_text]
  split
  · rfl
  · rename_i hunknown
    refine (List.lookup_eq_none_iff.mpr fun e he => ?_).symm
    have hne : e.1 ≠ tag := by
      rintro rfl
      exact hunknown (by simpa [tags] using ⟨e.2, he⟩)
    simpa using Ne.symm hne

namespace Compilation

open Entries (option? setOption keys)

variable {r : Registry} {c : Capability} {path : Option String} {field out : Entries}

/-! ## The checks of one node -/

theorem reject_ne_ok {α : Type} {defect : Defect} {a : α} :
    reject path defect ≠ .ok a := by
  simp [reject]

theorem declares_iff {key : Value} :
    (key.text?.any fun name => name == "type" || c.properties.contains name) = true ↔
      c.Declares key := by
  unfold Capability.Declares
  cases key.text? with
  | none => simp
  | some name => simp

theorem checkProperties_eq_ok :
    checkProperties c path field = .ok () ↔ ∀ key ∈ keys field, c.Declares key := by
  induction field with
  | nil => simp [checkProperties, keys]
  | cons e rest ih =>
      rw [checkProperties]
      by_cases h : c.Declares e.1
      · rw [if_pos (declares_iff.mpr h), ih]
        simp [keys, h]
      · rw [if_neg (fun hd => h (declares_iff.mp hd))]
        -- the path of the property may itself be a fault; neither way is accepted
        constructor
        · intro hok
          obtain ⟨property, -, hreject⟩ := bind_eq_ok.mp hok
          exact absurd hreject reject_ne_ok
        · intro hall
          exact absurd (hall e.1 (by simp [keys])) h

theorem checkRequired_eq_ok :
    checkRequired path field = .ok () ↔
      ∀ v, option? field "required" = some v → ∃ b, v = .bool b := by
  unfold checkRequired
  cases option? field "required" with
  | none => simp
  | some v =>
      cases v with
      | bool b => simp
      | _ => simp [reject]

theorem checkOptions_eq_ok {options : List Value} {i : Nat} :
    checkOptions c path field i options = .ok () ↔
      ∀ v ∈ options, c.accepts v field = .ok true := by
  induction options generalizing i with
  | nil => simp [checkOptions]
  | cons v rest ih =>
      rw [checkOptions, bind_eq_ok]
      constructor
      · rintro ⟨accepted, haccepts, hrest⟩
        cases accepted with
        | false => exact absurd hrest reject_ne_ok
        | true =>
            intro w hw
            rcases List.mem_cons.mp hw with rfl | hw
            · exact haccepts
            · exact ih.mp hrest w hw
      · intro hall
        refine ⟨true, hall v List.mem_cons_self, ?_⟩
        exact ih.mpr fun w hw => hall w (List.mem_cons_of_mem _ hw)

/-- Where the type is registered, its options are checked by it. -/
theorem checkListed_of_lookup? {tag : Value} {options : List Value}
    (htype : option? field "type" = some tag) (hlookup : r.lookup? tag = some c) :
    checkListed r path field options = checkOptions c path field 0 options := by
  rw [checkListed, htype]
  simp only [hlookup]

theorem checkListed_eq_ok {options : List Value} :
    checkListed r path field options = .ok () ↔ ∃ tag, option? field "type" = some tag ∧
      ∀ v ∈ options, ∃ c, r.lookup? tag = some c ∧ c.accepts v field = .ok true := by
  cases htype : option? field "type" with
  | none => simp [checkListed, htype]
  | some tag =>
      cases hlookup : r.lookup? tag with
      | some c =>
          rw [checkListed_of_lookup? htype hlookup, checkOptions_eq_ok]
          simp [hlookup]
      | none => cases options <;> simp [checkListed, htype, hlookup]

/-- An `enum` that is accepted is a sequence of values of the type, and it is
kept as a list. -/
theorem checkEnum_eq_ok :
    checkEnum r path field = .ok out ↔
      (option? field "enum" = none ∧ out = field) ∨
      ∃ kind options tag, option? field "enum" = some (.sequence kind options) ∧
        option? field "type" = some tag ∧
        (∀ v ∈ options, ∃ c, r.lookup? tag = some c ∧ c.accepts v field = .ok true) ∧
        out = setOption field "enum" (.list options) := by
  unfold checkEnum
  cases option? field "enum" with
  | none => simp [eq_comm]
  | some v =>
      cases v with
      | sequence kind options =>
          show (checkListed r path field options >>= fun _ => _) = _ ↔ _
          rw [bind_eq_ok]
          constructor
          · rintro ⟨⟨⟩, hlisted, hout⟩
            obtain ⟨tag, htype, haccepts⟩ := checkListed_eq_ok.mp hlisted
            exact Or.inr ⟨kind, options, tag, rfl, htype, haccepts, (pure_eq_ok.mp hout).symm⟩
          · rintro (⟨h, -⟩ | ⟨kind', options', tag, h, htype, haccepts, rfl⟩)
            · simp at h
            · cases h
              exact ⟨(), checkListed_eq_ok.mpr ⟨tag, htype, haccepts⟩, rfl⟩
      | _ => simp [reject]

/-- The options of a field whose type is registered are values of that type. -/
theorem checkEnum_eq_ok_of_lookup? {tag : Value} (htype : option? field "type" = some tag)
    (hlookup : r.lookup? tag = some c) :
    checkEnum r path field = .ok out ↔
      (option? field "enum" = none ∧ out = field) ∨
      ∃ kind options, option? field "enum" = some (.sequence kind options) ∧
        (∀ v ∈ options, c.accepts v field = .ok true) ∧
        out = setOption field "enum" (.list options) := by
  rw [checkEnum_eq_ok]
  refine or_congr_right ⟨?_, ?_⟩
  · rintro ⟨kind, options, tag', hsome, htype', haccepts, hout⟩
    obtain rfl := Option.some.inj (htype.symm.trans htype')
    refine ⟨kind, options, hsome, fun v hv => ?_, hout⟩
    obtain ⟨c', hlookup', haccepted⟩ := haccepts v hv
    rwa [Option.some.inj (hlookup.symm.trans hlookup')]
  · rintro ⟨kind, options, hsome, haccepts, hout⟩
    exact ⟨kind, options, tag, hsome, htype, fun v hv => ⟨c, hlookup, haccepts v hv⟩, hout⟩

theorem checkField_eq_ok :
    checkField r c path field = .ok out ↔
      (∀ key ∈ keys field, c.Declares key) ∧
      (∀ v, option? field "required" = some v → ∃ b, v = .bool b) ∧
      ∃ kept, c.checkField field path = .ok kept ∧ checkEnum r path kept = .ok out := by
  unfold checkField
  rw [bind_eq_ok]
  constructor
  · rintro ⟨⟨⟩, hknown, h⟩
    obtain ⟨⟨⟩, hrequired, h⟩ := bind_eq_ok.mp h
    exact ⟨checkProperties_eq_ok.mp hknown, checkRequired_eq_ok.mp hrequired,
      bind_eq_ok.mp h⟩
  · rintro ⟨hknown, hrequired, h⟩
    refine ⟨(), checkProperties_eq_ok.mpr hknown, ?_⟩
    exact bind_eq_ok.mpr ⟨(), checkRequired_eq_ok.mpr hrequired, bind_eq_ok.mpr h⟩

/-! ## Fields and alternatives -/

variable {compile : FieldCompiler}

/-- Each field is compiled at its own path and keeps its name, which can be written, and its
place. -/
theorem compileFields_eq_ok {entries fields : Entries} :
    compileFields compile path entries = .ok fields ↔
      List.Forall₂ (fun raw field => raw.1.isWritable = true ∧ ∃ out,
        compile (some (Path.join path raw.1.display)) raw.2 = .ok out ∧
          field = (raw.1, .dict out)) entries fields := by
  induction entries generalizing fields with
  | nil => rw [compileFields, List.forall₂_nil_left_iff, Except.ok.injEq, eq_comm]
  | cons e rest ih =>
      obtain ⟨name, raw⟩ := e
      rw [compileFields, List.forall₂_cons_left_iff, bind_eq_ok]
      constructor
      · rintro ⟨⟨⟩, hwritable, h⟩
        obtain ⟨out, hout, h⟩ := bind_eq_ok.mp h
        obtain ⟨others, hothers, h⟩ := bind_eq_ok.mp h
        exact ⟨_, others, ⟨Value.checkWritable_eq_ok.mp hwritable, out, hout, rfl⟩,
          ih.mp hothers, (pure_eq_ok.mp h).symm⟩
      · rintro ⟨field, others, ⟨hwritable, out, hout, rfl⟩, hothers, rfl⟩
        refine ⟨(), Value.checkWritable_eq_ok.mpr hwritable, bind_eq_ok.mpr ⟨out, hout, ?_⟩⟩
        exact bind_eq_ok.mpr ⟨others, ih.mpr hothers, rfl⟩

/-- Each alternative is compiled at the path of its index and keeps its place. -/
theorem compileAlternatives_eq_ok {items alternatives : List Value} {i : Nat} :
    compileAlternatives compile path i items = .ok alternatives ↔
      List.Forall₂ (fun raw field => ∃ out,
        compile (some (Path.join path (Path.index raw.2))) raw.1 = .ok out ∧
          field = .dict out) (items.zipIdx i) alternatives := by
  induction items generalizing i alternatives with
  | nil => simp [compileAlternatives, eq_comm]
  | cons raw rest ih =>
      rw [compileAlternatives, List.zipIdx_cons, List.forall₂_cons_left_iff, bind_eq_ok]
      constructor
      · rintro ⟨out, hout, h⟩
        obtain ⟨others, hothers, h⟩ := bind_eq_ok.mp h
        exact ⟨_, others, ⟨out, hout, rfl⟩, ih.mp hothers, (pure_eq_ok.mp h).symm⟩
      · rintro ⟨field, others, ⟨out, hout, rfl⟩, hothers, rfl⟩
        exact ⟨out, hout, bind_eq_ok.mpr ⟨others, ih.mpr hothers, rfl⟩⟩

theorem objectTag_ne_arrayTag : Capability.objectTag ≠ Capability.arrayTag := by
  decide

theorem compileChildren_object :
    compileChildren compile path Capability.objectTag field = .ok out ↔
      ∃ kind entries fields,
        (option? field "child").getD (.dict []) = .mapping kind entries ∧
        compileFields compile path entries = .ok fields ∧
        out = setOption field "child" (.dict fields) := by
  rw [compileChildren, if_pos rfl]
  cases hchild : (option? field "child").getD (.dict []) with
  | mapping kind entries =>
      show (compileFields compile path entries >>= fun fields => _) = _ ↔ _
      rw [bind_eq_ok]
      constructor
      · rintro ⟨fields, hfields, h⟩
        exact ⟨kind, entries, fields, rfl, hfields, (pure_eq_ok.mp h).symm⟩
      · rintro ⟨kind', entries', fields, h, hfields, rfl⟩
        cases h
        exact ⟨fields, hfields, rfl⟩
  | _ => simp [reject]

theorem compileChildren_array :
    compileChildren compile path Capability.arrayTag field = .ok out ↔
      ∃ kind items alternatives,
        (option? field "child").getD (.list []) = .sequence kind items ∧
        compileAlternatives compile path 0 items = .ok alternatives ∧
        out = setOption field "child" (.list alternatives) := by
  rw [compileChildren, if_neg objectTag_ne_arrayTag.symm, if_pos rfl]
  cases hchild : (option? field "child").getD (.list []) with
  | sequence kind items =>
      show (compileAlternatives compile path 0 items >>= fun alternatives => _) = _ ↔ _
      rw [bind_eq_ok]
      constructor
      · rintro ⟨alternatives, halternatives, h⟩
        exact ⟨kind, items, alternatives, rfl, halternatives, (pure_eq_ok.mp h).symm⟩
      · rintro ⟨kind', items', alternatives, h, halternatives, rfl⟩
        cases h
        exact ⟨alternatives, halternatives, rfl⟩
  | _ => simp [reject]

theorem compileChildren_leaf {tag : String} (hobject : tag ≠ Capability.objectTag)
    (harray : tag ≠ Capability.arrayTag) :
    compileChildren compile path tag field = .ok out ↔ out = field := by
  rw [compileChildren, if_neg hobject, if_neg harray, Except.ok.injEq, eq_comm]

/-! ## One level of compilation -/

/-- Everything that one level of compilation does: the form that the raw field
stands for, its tag, its compiled parts and the checks that it passed. -/
inductive Step (r : Registry) (compile : FieldCompiler) (path : Option String)
    (raw : Value) (out : Entries) : Prop
  | intro (form : Entries) (tag : String) (c : Capability) (parts kept : Entries)
    (expands : expand? r raw = some form)
    (resolves : r.resolve? ((option? form "type").getD .null) = some tag)
    (registered : r.capability? tag = some c)
    (children : compileChildren compile path tag (setOption form "type" (.text tag))
      = .ok parts)
    (known : ∀ key ∈ keys parts, c.Declares key)
    (required : ∀ v, option? parts "required" = some v → ∃ b, v = .bool b)
    (accepted : c.checkField parts path = .ok kept)
    (listed : checkEnum r path kept = .ok out)

/-- One level of compilation, given how the parts of a field are compiled. -/
def compileLevel (r : Registry) (compile : FieldCompiler) : FieldCompiler := fun path raw =>
  match expand? r raw with
  | none => reject path .unknownType
  | some form =>
    match r.resolve? ((option? form "type").getD .null) with
    | none => reject path .unknownType
    | some tag =>
      match r.capability? tag with
      | none => reject path .unknownType
      | some c => do
        let field := setOption form "type" (.text tag)
        checkField r c path (← compileChildren compile path tag field)

theorem compileField_succ (r : Registry) (limit : Int) (levels : Nat) :
    compileField r limit (levels + 1) = compileLevel r (compileField r limit levels) := rfl

theorem compileLevel_eq_ok {raw : Value} :
    compileLevel r compile path raw = .ok out ↔ Step r compile path raw out := by
  rw [compileLevel]
  constructor
  · intro h
    split at h
    · exact absurd h reject_ne_ok
    · rename_i form hform
      split at h
      · exact absurd h reject_ne_ok
      · rename_i tag htag
        split at h
        · exact absurd h reject_ne_ok
        · rename_i c hc
          obtain ⟨parts, hparts, h⟩ := bind_eq_ok.mp h
          obtain ⟨hknown, hrequired, kept, hkept, hout⟩ := checkField_eq_ok.mp h
          exact ⟨form, tag, c, parts, kept, hform, htag, hc, hparts, hknown,
            hrequired, hkept, hout⟩
  · rintro ⟨form, tag, c, parts, kept, hform, htag, hc, hparts, hknown,
      hrequired, hkept, hout⟩
    rw [hform]
    simp only [htag, hc]
    exact bind_eq_ok.mpr ⟨parts, hparts, checkField_eq_ok.mpr
      ⟨hknown, hrequired, kept, hkept, hout⟩⟩

theorem compileField_succ_eq_ok {limit : Int} {levels : Nat} {raw : Value} :
    compileField r limit (levels + 1) path raw = .ok out ↔
      Step r (compileField r limit levels) path raw out :=
  compileLevel_eq_ok

theorem compileField_zero_ne_ok {limit : Int} {raw : Value} :
    compileField r limit 0 path raw ≠ .ok out := by
  rw [compileField, rejectDepth]
  split
  · exact nofun
  · exact reject_ne_ok

end Compilation

end DataShape
