import DataShape.Proofs.Canonical

/-!
# Canonical schemas are the fixed points of compilation

What the compiler returns it takes back and returns unchanged, and it returns
nothing else unchanged: a schema is a fixed point exactly if it is canonical at
every node, with options that the type of the node accepts and with names that
can be written, and nests no deeper than the limit.
-/

namespace DataShape

open Entries (option? setOption keys fields alternatives parts partsAt)

/-! ## Types whose verdict outlasts compilation -/

namespace Capability

/-- A conservative type whose check of options is about options of its own. The
form of the `enum` is left to the compiler, so that an accepted field is also
accepted once its `enum` is kept as a list. -/
structure Steady (c : Capability) : Prop extends c.Conservative where
  relists : ∀ field path kind options,
    option? field "enum" = some (.sequence kind options) →
    c.checkField field path = .ok field →
    c.checkField (setOption field "enum" (.list options)) path
      = .ok (setOption field "enum" (.list options))

theorem steady_of_defaults {c : Capability}
    (hcheck : c.checkField = fun field _ => .ok field)
    (haccepts : ∀ v field field', c.accepts v field = c.accepts v field') :
    c.Steady where
  toConservative := conservative_of_defaults hcheck haccepts
  relists := by
    intro field path kind options _ _
    rw [hcheck]

theorem number_steady : Steady number where
  toConservative := number_conservative
  relists := by
    intro field path kind options _ h
    have hcoerce := number_checkField h
    simp only [number]
    rw [Entries.option?_setOption_of_ne _ _ (by decide)]
    cases hv : option? field "coerce" with
    | none => rfl
    | some v =>
        obtain ⟨b, rfl⟩ := hcoerce v hv
        rfl

end Capability

namespace Registry

/-- Every type that is found in the registry keeps its verdict on what it led
to. -/
def Steady (r : Registry) : Prop :=
  ∀ tag c, r.capability? tag = some c → c = Capability.string ∨ c.Steady

theorem Steady.regular {r : Registry} (hr : r.Steady) : r.Regular := by
  intro tag c h
  rcases hr tag c h with hstring | hc
  · exact Or.inl hstring
  · exact Or.inr hc.toConservative

theorem Reachable.steady {r : Registry} (hr : r.Reachable Capability.Steady) :
    r.Steady := by
  intro tag c h
  rcases hr.of_mem_types (mem_types_of_capability? h) with h | h
  · cases h using Capability.builtins_cases with
    | string => exact Or.inl rfl
    | number => exact Or.inr Capability.number_steady
    | _ => exact Or.inr (Capability.steady_of_defaults rfl fun _ _ _ => rfl)
  · exact Or.inr h

end Registry

/-! ## Nodes that compilation leaves alone -/

/-- The names of the fields can be written. -/
def Entries.AreWritable (fields : Entries) : Prop := ∀ e ∈ fields, e.1.isWritable = true

/-- A canonical node whose options the type accepts at the path of the node, and
whose fields have names that can be written. -/
def IsSettledNode (r : Registry) (path : Option String) (field : Entries) : Prop :=
  ∃ tag c, IsCanonical r tag c field ∧ c.checkField field path = .ok field ∧
    (fields field).AreWritable

/-- A schema that is canonical at every node, given the path of its fields. -/
def IsSettled (r : Registry) (path : Option String) (fields : Entries) : Prop :=
  fields.AreWritable ∧
    ∀ e ∈ fields, EveryNode (IsSettledNode r) (some (Path.join path e.1.display)) e.2

namespace Compilation

variable {r : Registry} {compile : FieldCompiler} {path : Option String}
  {raw : Value} {field kept out : Entries} {tag : String} {c : Capability} {limit : Int}

/-- The check of options accepts what the checks lead to. -/
theorem checkField_out (hc : c = Capability.string ∨ c.Steady)
    (hkept : c.checkField field path = .ok kept) (hout : checkEnum r path kept = .ok out)
    (htest : c = Capability.string →
      ∀ v, option? out "test" = some v → ∃ p, v = .pattern p) :
    c.checkField out path = .ok out := by
  rcases hc with rfl | hc
  · exact Capability.compileTest_of_pattern path (htest rfl)
  · have hsame : kept = field := hc.keeps field path kept hkept
    subst hsame
    rcases checkEnum_eq_ok.mp hout with ⟨-, rfl⟩ | ⟨kind, options, type, henum, -, -, rfl⟩
    · exact hkept
    -- the check has seen the options as they were given, not as they are kept
    · exact hc.relists _ path kind options henum hkept

theorem areWritable_of_compileFields {entries fs : Entries}
    (h : compileFields compile path entries = .ok fs) : fs.AreWritable := by
  intro e he
  obtain ⟨raw', -, hwritable, out, -, rfl⟩ := exists_of_forall₂ (compileFields_eq_ok.mp h) he
  exact hwritable

theorem Step.isSettledNode (hr : r.Steady) (h : Step r compile path raw out) :
    IsSettledNode r path out := by
  obtain ⟨form, tag, c, parts, kept, hform, htag, hregistered, hparts, hknown,
    hrequired, hkept, hout⟩ := h
  have hcanonical := isCanonical_out (hr.regular tag c hregistered) hparts hkept hout
    hregistered hknown hrequired
  refine ⟨tag, c, hcanonical,
    checkField_out (hr tag c hregistered) hkept hout hcanonical.test, ?_⟩
  by_cases hobject : tag = Capability.objectTag
  · exact areWritable_of_compileFields
      (fields_out (hr.regular tag c hregistered) hparts hkept hout hobject).1
  · rw [Entries.fields_of_tag_ne (by simpa [hcanonical.tag?_eq] using hobject)]
    exact nofun

theorem settled_of_compileField (hr : r.Steady) {levels : Nat}
    (h : compileField r limit levels path raw = .ok out) :
    EveryNode (IsSettledNode r) path (.dict out) :=
  everyNode_of_compileField (Q := fun _ => True) hr.regular (fun _ _ _ _ => trivial)
    (fun _ hstep => hstep.isSettledNode hr) trivial h

theorem nesting_le_of_compileField (hr : r.Regular) :
    ∀ {levels : Nat} {path : Option String} {raw : Value} {out : Entries},
      compileField r limit levels path raw = .ok out → (Value.dict out).nesting ≤ levels
  | 0, _, _, _, h => absurd h compileField_zero_ne_ok
  | levels + 1, path, raw, out, h => by
      obtain ⟨form, tag, c, -, houtcome⟩ := (compileField_succ_eq_ok.mp h).outcome hr
      rw [Value.nesting_mapping_le_iff, Entries.forall_mem_parts_iff path]
      intro part hpart
      obtain ⟨raw', -, out', hout', hdict⟩ := houtcome.compiled_of_mem_partsAt hpart
      rw [hdict]
      exact nesting_le_of_compileField hr hout'

/-! ## Settled fields come back unchanged -/

theorem expand?_of_type {v : Value} (h : option? field "type" = some v) :
    expand? r (.dict field) = some field := by
  have hcontains : r.contains (.dict field) = false := rfl
  simp [expand?, hcontains, h]

theorem resolve?_of_registered (h : r.capability? tag = some c) :
    r.resolve? (.text tag) = some tag := by
  have hmem : tag ∈ r.tags :=
    List.mem_map.mpr ⟨(tag, c), Registry.mem_types_of_capability? h, rfl⟩
  simp [Registry.resolve?, hmem]

/-- Fields are what the mapping compiles to that has something else in place of
each of them, if that compiles to the field. -/
theorem compileFields_map {f : Value → Value} {fs : Entries} (hnames : fs.AreWritable)
    (h : ∀ e ∈ fs, ∃ out, e.2 = .dict out ∧
      compile (some (Path.join path e.1.display)) (f e.2) = .ok out) :
    compileFields compile path (fs.map fun e => (e.1, f e.2)) = .ok fs := by
  rw [compileFields_eq_ok, List.forall₂_map_left_iff, List.forall₂_same]
  intro e he
  obtain ⟨out, hdict, hout⟩ := h e he
  exact ⟨hnames e he, out, hout, by rw [← hdict]⟩

theorem forall₂_zipIdx_self {α : Type} {R : α × Nat → α → Prop} :
    ∀ {items : List α} {i : Nat}, (∀ a ∈ items.zipIdx i, R a a.1) →
      List.Forall₂ R (items.zipIdx i) items
  | [], _, _ => .nil
  | a :: items, i, h => by
      rw [List.zipIdx_cons] at h ⊢
      exact .cons (h (a, i) List.mem_cons_self)
        (forall₂_zipIdx_self fun b hb => h b (List.mem_cons_of_mem _ hb))

theorem compileAlternatives_map {f : Value → Value} {items : List Value}
    (h : ∀ a ∈ items.zipIdx, ∃ out, a.1 = .dict out ∧
      compile (some (Path.join path (Path.index a.2))) (f a.1) = .ok out) :
    compileAlternatives compile path 0 (items.map f) = .ok items := by
  rw [compileAlternatives_eq_ok, List.zipIdx_map, List.forall₂_map_left_iff]
  refine forall₂_zipIdx_self fun a ha => ?_
  obtain ⟨out, hdict, hout⟩ := h a ha
  exact ⟨out, hout, hdict⟩

theorem checkEnum_self (h : IsCanonical r tag c field) :
    checkEnum r path field = .ok field := by
  cases henum : option? field "enum" with
  | none => exact checkEnum_eq_ok.mpr (Or.inl ⟨henum, rfl⟩)
  | some v =>
      obtain ⟨options, rfl, haccepts⟩ := h.enum v henum
      have hlookup : r.lookup? (.text tag) = some c := (r.lookup?_text tag).trans h.registered
      exact (checkEnum_eq_ok_of_lookup? h.type hlookup).mpr (Or.inr ⟨.list, options, henum,
        haccepts, (Entries.setOption_of_option? henum).symm⟩)

section

variable {P : Option String → Entries → Prop} {f : Value → Value} {levels : Nat}

/-- A node with the property is what it compiles to after `f` has rewritten it,
if each of its parts is. -/
def Restores (r : Registry) (P : Option String → Entries → Prop) (f : Value → Value) : Prop :=
  ∀ ⦃compile : FieldCompiler⦄ ⦃path : Option String⦄ ⦃field : Entries⦄, P path field →
    (∀ part ∈ partsAt path field, ∃ out, part.2 = .dict out ∧
      compile part.1 (f part.2) = .ok out) →
    Step r compile path (f (.dict field)) field

/-- A tree of such nodes is restored within the levels that it nests. -/
theorem Restores.compileField_eq (h : Restores r P f) :
    ∀ {levels : Nat} {path : Option String} {v : Value}, EveryNode P path v →
      v.nesting ≤ levels →
      ∃ out, v = .dict out ∧ compileField r limit levels path (f v) = .ok out
  | 0, _, _, .node _ _, hnesting => by
      rw [Value.nesting_mapping] at hnesting
      omega
  | levels + 1, path, _, @EveryNode.node _ _ field here below, hnesting => by
      -- the parts nest one level less, so the levels left suffice for them
      rw [Value.nesting_mapping_le_iff, Entries.forall_mem_parts_iff path] at hnesting
      exact ⟨field, rfl, compileField_succ_eq_ok.mpr (h here fun part hpart =>
        h.compileField_eq (below part hpart) (hnesting part hpart))⟩

theorem Restores.compileFields_eq (h : Restores r P f) {fs : Entries} (hnames : fs.AreWritable)
    (hnodes : ∀ e ∈ fs, EveryNode P (some (Path.join path e.1.display)) e.2)
    (hnesting : fs.nesting ≤ levels) :
    compileFields (compileField r limit levels) path (fs.map fun e => (e.1, f e.2)) = .ok fs :=
  compileFields_map hnames fun e he =>
    h.compileField_eq (hnodes e he) (Entries.nesting_le_iff.mp hnesting e he)

end

/-! ## Whole schemas -/

theorem compileSchema_dict {entries : Entries} :
    compileSchema r limit path (.dict entries)
      = compileFields (compileField r limit limit.toNat) path entries := rfl

theorem of_compileSchema_eq_ok {fs : Entries}
    (h : compileSchema r limit path raw = .ok fs) :
    ∃ kind entries, raw = .mapping kind entries ∧
      compileFields (compileField r limit limit.toNat) path entries = .ok fs := by
  cases raw with
  | mapping kind entries => exact ⟨kind, entries, rfl, h⟩
  | _ => exact absurd h reject_ne_ok

theorem settled_of_compileSchema (hr : r.Steady) {fs : Entries}
    (h : compileSchema r limit path raw = .ok fs) :
    IsSettled r path fs ∧ fs.nesting ≤ limit.toNat := by
  obtain ⟨kind, entries, -, hfields⟩ := of_compileSchema_eq_ok h
  have hall := compileFields_eq_ok.mp hfields
  refine ⟨⟨areWritable_of_compileFields hfields, ?_⟩, ?_⟩
  · intro e he
    obtain ⟨raw', -, -, out, hout, rfl⟩ := exists_of_forall₂ hall he
    exact settled_of_compileField hr hout
  · rw [Entries.nesting_le_iff]
    intro e he
    obtain ⟨raw', -, -, out, hout, rfl⟩ := exists_of_forall₂ hall he
    exact nesting_le_of_compileField hr.regular hout

end Compilation

open Compilation

end DataShape
