import DataShape.Proofs.Totality

/-!
# The grammar of raw fields

Which raw fields the compiler accepts with the built-in types, as a grammar: a
name of a type, a sequence of alternatives, a mapping of fields, or a verbose
node whose options are legal for its type. Where a raw field is not well formed
there is a first defect. A node is looked at twice: its shape comes before its
parts, and its options come after them.

The compiler decides the grammar and rejects at the first defect, as long as
the options of verbose nodes are named by texts, the names of fields can be put
into paths, and sources of patterns are either read or refused as malformed.
-/

namespace DataShape

open Entries (option? setOption keys)

/-! ## Names of built-in types -/

namespace Registry

/-- What names a type leads to a tag with a capability. -/
theorem exists_capability_of_resolve?_builtin {v : Value} {tag : String}
    (h : Registry.builtin.resolve? v = some tag) :
    ∃ c, Registry.builtin.capability? tag = some c := by
  have htag : tag ∈ Registry.builtin.tags := by
    unfold resolve? at h
    split at h
    · split at h
      · rename_i hcontains
        cases h
        simpa using hcontains
      · simp at h
    · split at h
      · obtain ⟨e, he, rfl⟩ := Option.map_eq_some_iff.mp h
        have hmem := List.mem_of_find?_eq_some he
        rw [builtin_eq] at hmem
        obtain ⟨c, hc, hmem⟩ := List.mem_flatMap.mp hmem
        obtain ⟨w, -, rfl⟩ := List.mem_map.mp hmem
        rw [tags, builtin_eq]
        simpa using ⟨c, hc, rfl⟩
      · simp at h
  obtain ⟨e, he, rfl⟩ := List.mem_map.mp htag
  cases hc : Registry.builtin.capability? e.1 with
  | some c => exact ⟨c, rfl⟩
  | none => simpa using List.lookup_eq_none_iff.mp hc e he

theorem lookup?_builtin_eq_some_iff {v : Value} {c : Capability} :
    Registry.builtin.lookup? v = some c ↔
      Registry.builtin.resolve? v = some c.name ∧
        Registry.builtin.capability? c.name = some c := by
  constructor
  · intro h
    obtain ⟨tag, htag, hc⟩ := Option.bind_eq_some_iff.mp h
    obtain rfl := (of_capability?_builtin hc).2
    exact ⟨htag, hc⟩
  · rintro ⟨htag, hc⟩
    rw [lookup?, htag]
    exact hc

theorem lookup?_builtin_text {c : Capability} (hc : c ∈ Capability.builtins) :
    Registry.builtin.lookup? (.text c.name) = some c := by
  rw [lookup?_text, builtin_eq]
  cases hc using Capability.builtins_cases with
  | _ => rfl

theorem eq_object_of_lookup?_builtin {v : Value} {c : Capability}
    (h : Registry.builtin.lookup? v = some c) (hname : c.name = Capability.objectTag) :
    c = Capability.object := by
  have hc := (lookup?_builtin_eq_some_iff.mp h).2
  rw [hname] at hc
  exact (Option.some.inj hc).symm

theorem eq_array_of_lookup?_builtin {v : Value} {c : Capability}
    (h : Registry.builtin.lookup? v = some c) (hname : c.name = Capability.arrayTag) :
    c = Capability.array := by
  have hc := (lookup?_builtin_eq_some_iff.mp h).2
  rw [hname] at hc
  exact (Option.some.inj hc).symm

/-- The aliases of built-in types are classes, and no sequence is one. -/
theorem contains_builtin_sequence (kind : SequenceKind) (items : List Value) :
    Registry.builtin.contains (.sequence kind items) = false := by
  have hclass : ∀ k, (Value.sequence kind items).sameKey (.classObject k) = false := by
    intro k
    simp [Value.sameKey, Value.sameAs, Value.sameLeaf, Value.timing?, Value.sameContent,
      Value.quantity?, Value.text?]
  have hnone : Registry.builtin.aliases.find?
      (fun e => (Value.sequence kind items).sameKey e.1) = none := by
    simp [builtin_eq, Capability.builtins, Capability.string, Capability.number,
      Capability.boolean, Capability.date, Capability.object, Capability.array, hclass]
  simp [contains, resolve?, Value.text?, hnone]

end Registry

namespace Compilation

/-! ## Well-formed raw fields -/

/-- The value can be searched for: a pattern, or a text that is read as one. -/
def IsPattern (v : Value) : Prop :=
  (∃ p, v = .pattern p) ∨
    ∃ source p, v.text? = some source ∧ Pattern.read (.text source) = .ok p

/-- The options of a node are legal for its type, its parts apart. The listed
options are values of the type under the node's own `test` and `coerce`. -/
structure IsLegal (c : Capability) (node : Entries) : Prop where
  known : ∀ key ∈ keys node, c.Declares key
  required : ∀ v, option? node "required" = some v → ∃ b, v = .bool b
  coerce : ∀ v, option? node "coerce" = some v → ∃ b, v = .bool b
  test : ∀ v, option? node "test" = some v → IsPattern v
  enum : ∀ v, option? node "enum" = some v →
    ∃ kind options, v = .sequence kind options ∧ ∀ o ∈ options, c.accepts o node = .ok true

/-- The raw fields of the built-in types, nested less deep than so many levels. -/
inductive WellFormed : (levels : Nat) → (raw : Value) → Prop
  | name {levels : Nat} {raw : Value} {c : Capability}
      (names : Registry.builtin.lookup? raw = some c) : WellFormed (levels + 1) raw
  | alternatives {levels : Nat} {kind : SequenceKind} {items : List Value}
      (each : ∀ item ∈ items, WellFormed levels item) :
      WellFormed (levels + 1) (.sequence kind items)
  | fields {levels : Nat} {kind : MappingKind} {entries : Entries}
      (untyped : option? entries "type" = none)
      (each : ∀ e ∈ entries, WellFormed levels e.2) :
      WellFormed (levels + 1) (.mapping kind entries)
  | leaf {levels : Nat} {kind : MappingKind} {node : Entries} {type : Value} {c : Capability}
      (typed : option? node "type" = some type)
      (names : Registry.builtin.lookup? type = some c)
      (notObject : c.name ≠ Capability.objectTag) (notArray : c.name ≠ Capability.arrayTag)
      (legal : IsLegal c node) : WellFormed (levels + 1) (.mapping kind node)
  | object {levels : Nat} {kind childKind : MappingKind} {node entries : Entries} {type : Value}
      (typed : option? node "type" = some type)
      (names : Registry.builtin.lookup? type = some Capability.object)
      (child : (option? node "child").getD (.dict []) = .mapping childKind entries)
      (each : ∀ e ∈ entries, WellFormed levels e.2)
      (legal : IsLegal Capability.object node) : WellFormed (levels + 1) (.mapping kind node)
  | array {levels : Nat} {kind : MappingKind} {childKind : SequenceKind} {node : Entries}
      {items : List Value} {type : Value}
      (typed : option? node "type" = some type)
      (names : Registry.builtin.lookup? type = some Capability.array)
      (child : (option? node "child").getD (.list []) = .sequence childKind items)
      (each : ∀ item ∈ items, WellFormed levels item)
      (legal : IsLegal Capability.array node) : WellFormed (levels + 1) (.mapping kind node)

/-! ## The first defect -/

/-- The raw field is written as a form of a type, with parts of the right kind
where the type has parts. -/
structure HasShape (raw : Value) (c : Capability) (form : Entries) : Prop where
  expands : expand? .builtin raw = some form
  names : Registry.builtin.lookup? ((option? form "type").getD .null) = some c
  object : c.name = Capability.objectTag →
    ∃ kind entries, (option? form "child").getD (.dict []) = .mapping kind entries
  array : c.name = Capability.arrayTag →
    ∃ kind items, (option? form "child").getD (.list []) = .sequence kind items

def fieldsAt (path : Option String) (entries : Entries) : List (Option String × Value) :=
  entries.map fun e => (some (Path.join path e.1.display), e.2)

def alternativesAt (path : Option String) (items : List Value) :
    List (Option String × Value) :=
  items.zipIdx.map fun a => (some (Path.join path (Path.index a.2)), a.1)

/-- The parts of a form of a type, each with its own path. -/
def formPartsAt (c : Capability) (path : Option String) (form : Entries) :
    List (Option String × Value) :=
  if c.name = Capability.objectTag then fieldsAt path (formFields form)
  else if c.name = Capability.arrayTag then alternativesAt path (formAlternatives form)
  else []

/-- The place of the first node with a defect in a raw field at a path. -/
inductive FirstDefect : (levels : Nat) → (path : Option String) → (raw : Value) →
    (place : Option String) → Prop
  | tooDeep {path : Option String} {raw : Value} : FirstDefect 0 path raw path
  | shape {levels : Nat} {path : Option String} {raw : Value}
      (shapeless : ∀ c form, ¬ HasShape raw c form) : FirstDefect (levels + 1) path raw path
  | part {levels : Nat} {path place : Option String} {raw : Value} {c : Capability}
      {form : Entries} {before after : List (Option String × Value)}
      {part : Option String × Value} (shape : HasShape raw c form)
      (split : formPartsAt c path form = before ++ part :: after)
      (fine : ∀ earlier ∈ before, WellFormed levels earlier.2)
      (inside : FirstDefect levels part.1 part.2 place) :
      FirstDefect (levels + 1) path raw place
  | options {levels : Nat} {path : Option String} {raw : Value} {c : Capability}
      {form : Entries} (shape : HasShape raw c form)
      (fine : ∀ part ∈ formPartsAt c path form, WellFormed levels part.2)
      (illegal : ¬ IsLegal c form) : FirstDefect (levels + 1) path raw path

/-! ## The grammar through forms -/

section

variable {levels : Nat} {path place : Option String} {raw : Value} {c c' : Capability}
  {form form' : Entries}

theorem HasShape.unique (h : HasShape raw c form) (h' : HasShape raw c' form') :
    c = c' ∧ form = form' := by
  obtain rfl : form = form' := Option.some.inj (h.expands.symm.trans h'.expands)
  exact ⟨Option.some.inj (h.names.symm.trans h'.names), rfl⟩

/-- The options of a short form are its type and its parts. -/
theorem isLegal_of_short {v : Value} (hchild : "child" ∈ c.properties) :
    IsLegal c [(.text "type", .text c.name), (.text "child", v)] := by
  constructor
  · simp [keys, Capability.Declares, hchild]
  all_goals simp [Entries.option?_cons, Entries.option?_nil]

theorem isLegal_of_name {v : Value} : IsLegal c [(.text "type", v)] := by
  constructor
  · simp [keys, Capability.Declares]
  all_goals simp [Entries.option?_cons, Entries.option?_nil]

theorem forall_fieldsAt {P : Value → Prop} {entries : Entries} :
    (∀ part ∈ fieldsAt path entries, P part.2) ↔ ∀ e ∈ entries, P e.2 :=
  List.forall_mem_map

theorem forall_alternativesAt {P : Value → Prop} {items : List Value} :
    (∀ part ∈ alternativesAt path items, P part.2) ↔ ∀ item ∈ items, P item := by
  have hitems : (alternativesAt path items).map Prod.snd = items := by
    rw [alternativesAt, List.map_map]
    exact List.zipIdx_map_fst 0 _
  conv_rhs => rw [← hitems]
  exact List.forall_mem_map.symm

theorem formPartsAt_object {kind : MappingKind} {entries : Entries}
    (hchild : (option? form "child").getD (.dict []) = .mapping kind entries) :
    formPartsAt .object path form = fieldsAt path entries := by
  show fieldsAt path (formFields form) = _
  rw [formFields, hchild]
  rfl

theorem formPartsAt_array {kind : SequenceKind} {items : List Value}
    (hchild : (option? form "child").getD (.list []) = .sequence kind items) :
    formPartsAt .array path form = alternativesAt path items := by
  show alternativesAt path (formAlternatives form) = _
  rw [formAlternatives, hchild]
  rfl

theorem formPartsAt_leaf (hobject : c.name ≠ Capability.objectTag)
    (harray : c.name ≠ Capability.arrayTag) : formPartsAt c path form = [] := by
  rw [formPartsAt, if_neg hobject, if_neg harray]

/-- A name of a type stands for a form without parts. -/
theorem hasShape_of_name (h : Registry.builtin.lookup? raw = some c) :
    HasShape raw c [(.text "type", raw)] ∧ formPartsAt c path [(.text "type", raw)] = [] := by
  have hchild : option? [(.text "type", raw)] "child" = none := by
    simp [Entries.option?_cons, Entries.option?_nil]
  have hcontains : Registry.builtin.contains raw = true := by
    rw [Registry.contains, (Registry.lookup?_builtin_eq_some_iff.mp h).1]
    rfl
  refine ⟨⟨?_, ?_, fun _ => ⟨.plain, [], by rw [hchild]; rfl⟩,
    fun _ => ⟨.list, [], by rw [hchild]; rfl⟩⟩, ?_⟩
  · exact expand?_of_contains hcontains
  · simpa [Entries.option?_cons] using h
  · simp [formPartsAt, formFields, formAlternatives, hchild, fieldsAt, alternativesAt,
      Value.entries?, Value.items?]

theorem hasShape_object {kind : MappingKind} {entries : Entries}
    (hexpand : expand? .builtin raw = some form)
    (hnames : Registry.builtin.lookup? ((option? form "type").getD .null)
      = some Capability.object)
    (hchild : (option? form "child").getD (.dict []) = .mapping kind entries) :
    HasShape raw .object form :=
  ⟨hexpand, hnames, fun _ => ⟨kind, entries, hchild⟩, fun h => absurd h (by decide)⟩

theorem hasShape_array {kind : SequenceKind} {items : List Value}
    (hexpand : expand? .builtin raw = some form)
    (hnames : Registry.builtin.lookup? ((option? form "type").getD .null)
      = some Capability.array)
    (hchild : (option? form "child").getD (.list []) = .sequence kind items) :
    HasShape raw .array form :=
  ⟨hexpand, hnames, fun h => absurd h (by decide), fun _ => ⟨kind, items, hchild⟩⟩

/-- A well-formed field has a form of the right shape, well-formed parts and
legal options. -/
theorem WellFormed.exists_form (path : Option String) (h : WellFormed (levels + 1) raw) :
    ∃ c form, HasShape raw c form ∧
      (∀ part ∈ formPartsAt c path form, WellFormed levels part.2) ∧ IsLegal c form := by
  cases h with
  | @name _ _ c names =>
      obtain ⟨hshape, hparts⟩ : HasShape raw c [(.text "type", raw)] ∧
          formPartsAt c path [(.text "type", raw)] = [] := hasShape_of_name names
      exact ⟨c, _, hshape, hparts ▸ List.forall_mem_nil _, isLegal_of_name⟩
  | @alternatives _ kind items each =>
      have hchild : (option? ([(.text "type", .text Capability.arrayTag),
          (.text "child", .list items)] : Entries) "child").getD (.list []) = .list items := by
        rw [option?_child_short]
        rfl
      refine ⟨.array, _, hasShape_array
        (expand?_sequence (Registry.contains_builtin_sequence kind items)) ?_ hchild, ?_,
        isLegal_of_short (by decide)⟩
      · rw [option?_type_short]
        rfl
      · rw [formPartsAt_array hchild]
        exact forall_alternativesAt.mpr each
  | @fields _ kind entries untyped each =>
      have hchild : (option? ([(.text "type", .text Capability.objectTag),
          (.text "child", .dict entries)] : Entries) "child").getD (.dict []) = .dict entries := by
        rw [option?_child_short]
        rfl
      refine ⟨.object, _, hasShape_object (expand?_untyped untyped) ?_ hchild, ?_,
        isLegal_of_short (by decide)⟩
      · rw [option?_type_short]
        rfl
      · rw [formPartsAt_object hchild]
        exact forall_fieldsAt.mpr each
  | @leaf _ kind node type c typed names notObject notArray legal =>
      refine ⟨c, node, ⟨expand?_typed typed, ?_, fun h => absurd h notObject,
        fun h => absurd h notArray⟩, ?_, legal⟩
      · rw [typed]
        exact names
      · rw [formPartsAt_leaf notObject notArray]
        exact List.forall_mem_nil _
  | @object _ kind childKind node entries type typed names child each legal =>
      refine ⟨.object, node, hasShape_object (expand?_typed typed) ?_ child, ?_,
        legal⟩
      · rw [typed]
        exact names
      · rw [formPartsAt_object child]
        exact forall_fieldsAt.mpr each
  | @array _ kind childKind node items type typed names child each legal =>
      refine ⟨.array, node, hasShape_array (expand?_typed typed) ?_ child, ?_,
        legal⟩
      · rw [typed]
        exact names
      · rw [formPartsAt_array child]
        exact forall_alternativesAt.mpr each

/-- A verbose node of the right shape, with well-formed parts and legal options. -/
theorem wellFormed_of_verbose {kind : MappingKind} {type : Value} {node : Entries}
    (typed : option? node "type" = some type) (hshape : HasShape (.mapping kind node) c node)
    (hparts : ∀ part ∈ formPartsAt c path node, WellFormed levels part.2)
    (hlegal : IsLegal c node) : WellFormed (levels + 1) (.mapping kind node) := by
  have names := hshape.names
  rw [typed, Option.getD_some] at names
  by_cases hobject : c.name = Capability.objectTag
  · obtain ⟨childKind, entries, hchild⟩ := hshape.object hobject
    obtain rfl := Registry.eq_object_of_lookup?_builtin names hobject
    rw [formPartsAt_object hchild] at hparts
    exact .object typed names hchild (forall_fieldsAt.mp hparts) hlegal
  · by_cases harray : c.name = Capability.arrayTag
    · obtain ⟨childKind, items, hchild⟩ := hshape.array harray
      obtain rfl := Registry.eq_array_of_lookup?_builtin names harray
      rw [formPartsAt_array hchild] at hparts
      exact .array typed names hchild (forall_alternativesAt.mp hparts) hlegal
    · exact .leaf typed names hobject harray hlegal

theorem HasShape.wellFormed (hshape : HasShape raw c form)
    (hparts : ∀ part ∈ formPartsAt c path form, WellFormed levels part.2)
    (hlegal : IsLegal c form) : WellFormed (levels + 1) raw := by
  have hexpand := hshape.expands
  have names := hshape.names
  unfold expand? at hexpand
  split at hexpand
  · cases hexpand
    exact .name (by simpa [Entries.option?_cons] using names)
  · split at hexpand
    · rename_i kind items hplain
      cases hexpand
      rw [option?_type_short] at names
      obtain rfl : Capability.array = c := Option.some.inj names
      rw [formPartsAt_array (by rw [option?_child_short]; rfl)] at hparts
      exact .alternatives (forall_alternativesAt.mp hparts)
    · rename_i kind entries hplain
      split at hexpand
      · rename_i htyped
        obtain ⟨type, htype⟩ := Option.isSome_iff_exists.mp htyped
        cases hexpand
        exact wellFormed_of_verbose htype hshape hparts hlegal
      · rename_i huntyped
        cases hexpand
        rw [option?_type_short] at names
        obtain rfl : Capability.object = c := Option.some.inj names
        rw [formPartsAt_object (by rw [option?_child_short]; rfl)] at hparts
        exact .fields (by simpa using huntyped) (forall_fieldsAt.mp hparts)
    · simp at hexpand

end

/-! ## The check of the options decides legality -/

/-- What the check of the options asks of a form beforehand: they are named by
texts, and what it searches for is a pattern for texts or a source that is read
or refused as malformed. -/
structure IsReadable (form : Entries) : Prop where
  options : TextKeys form
  pattern : Capability.SearchesText form
  source : ∀ v source, option? form "test" = some v → v.text? = some source →
    (∃ p, Pattern.read (.text source) = .ok p) ∨
      ∃ cause position, Pattern.read (.text source) = .error (.fault cause position)

/-- What the grammar asks of a form beforehand: its options can be checked, and the
names of its fields can be put into paths. -/
structure IsLegible (form : Entries) : Prop extends IsReadable form where
  names : ∀ name ∈ keys (formFields form), name.isWritable = true

/-- A check of a node returns, or it rejects the node at its own path. -/
def Settles {α : Type} (path : Option String) (x : Except Fault α) : Prop :=
  (∃ a, x = .ok a) ∨ ∃ defect, x = .error (.rejected defect (Path.toValue path))

namespace Settles

variable {α β : Type} {path : Option String}

theorem ok (a : α) : Settles path (.ok a : Except Fault α) := Or.inl ⟨a, rfl⟩

theorem reject (defect : Defect) :
    Settles path (reject path defect : Except Fault α) := Or.inr ⟨defect, rfl⟩

theorem bind {x : Except Fault α} {f : α → Except Fault β} (hx : Settles path x)
    (hf : ∀ a, x = .ok a → Settles path (f a)) : Settles path (x >>= f) := by
  rcases hx with ⟨a, rfl⟩ | ⟨defect, rfl⟩
  · exact hf a rfl
  · exact Or.inr ⟨defect, rfl⟩

end Settles

section

variable {path : Option String} {c : Capability} {field kept : Entries}

theorem isWritable_toValue (path : Option String) : (Path.toValue path).isWritable = true := by
  cases path with
  | none => rfl
  | some => rfl

/-- A property that is named by a text has a path. -/
theorem propertyPath_of_isText (path : Option String) {name : Value} (h : name.IsText) :
    ∃ place, propertyPath path name = .ok place := by
  obtain ⟨place, hplace, htext⟩ := Path.returns_joinValue h (isWritable_toValue path)
  refine ⟨place.filled, ?_⟩
  rw [propertyPath, hplace]
  exact congrArg (· >>= fun _ => Except.ok place.filled) htext.checkWritable

theorem settles_checkProperties (htexts : TextKeys field) :
    Settles path (checkProperties c path field) := by
  induction field with
  | nil => exact .ok _
  | cons e rest ih =>
      obtain ⟨hkey, hrest⟩ := List.forall_mem_cons.mp htexts
      rw [checkProperties]
      split
      · exact ih hrest
      · obtain ⟨place, hplace⟩ := propertyPath_of_isText path hkey
        rw [hplace]
        exact .reject _

theorem settles_checkRequired : Settles path (checkRequired path field) := by
  unfold checkRequired
  split
  · exact .ok _
  · exact .ok _
  · exact .reject _

theorem settles_compileTest (hreadable : IsReadable field) :
    Settles path (Capability.compileTest field path) := by
  unfold Capability.compileTest
  split
  · exact .ok _
  · exact .ok _
  · rename_i v _ htest
    split
    · exact .reject _
    · rename_i source hsource
      rcases hreadable.source v source htest hsource with ⟨p, hread⟩ | ⟨cause, position, hread⟩
      · rw [hread]
        exact .ok _
      · rw [hread]
        exact .reject _

theorem settles_number_checkField :
    Settles path (Capability.number.checkField field path) := by
  simp only [Capability.number]
  split
  · exact .ok _
  · exact .ok _
  · exact .reject _

theorem settles_checkField_type (hc : c ∈ Capability.builtins) (hreadable : IsReadable field) :
    Settles path (c.checkField field path) := by
  cases hc using Capability.builtins_cases with
  | string => exact settles_compileTest hreadable
  | number => exact settles_number_checkField
  | _ => exact .ok _

/-- The verdict of a built-in type is read off `test` and `coerce` alone. -/
theorem accepts_congr (hc : c ∈ Capability.builtins) {field' : Entries}
    (htest : option? field "test" = option? field' "test")
    (hcoerce : option? field "coerce" = option? field' "coerce") (v : Value) :
    c.accepts v field = c.accepts v field' := by
  cases hc using Capability.builtins_cases with
  | string => simp only [Capability.string, htest]
  | number => simp only [Capability.number, Entries.isOn, hcoerce]
  | _ => rfl

/-- A text passes a source exactly if it passes the pattern that is read from it. -/
theorem passesTest_of_read {v : Value} {source : String} {p : Pattern}
    (hv : v.text? = some source) (hread : Pattern.read (.text source) = .ok p) (s : String) :
    Capability.passesTest (.pattern p) s = Capability.passesTest v s := by
  have hp : p.source.isText = true := by
    rw [Pattern.source_of_read hread]
    rfl
  rcases Value.eq_of_text?_eq_some hv with rfl | rfl
  all_goals simp [Capability.passesTest, hp, Value.text?, hread]

/-- The check of its options leaves the verdict of a type alone. -/
theorem accepts_checkField (hc : c ∈ Capability.builtins)
    (hkept : c.checkField field path = .ok kept) (v : Value) :
    c.accepts v kept = c.accepts v field := by
  rcases Capability.regular_of_builtin hc with rfl | hconservative
  · rcases Capability.of_compileTest_eq_ok hkept with ⟨rfl, -⟩ |
      ⟨w, source, p, htest, hsource, hread, rfl⟩
    · rfl
    · simp only [Capability.string, Entries.option?_setOption_self, htest, Option.getD_some]
      cases v.text? with
      | none => rfl
      | some s => exact passesTest_of_read hsource hread s
  · rw [hconservative.keeps field path kept hkept]

/-- The verdict on kept options is defined, where options can be listed. -/
theorem returns_accepts_kept (hc : c ∈ Capability.builtins) (hreadable : IsReadable field)
    (hlists : "enum" ∈ c.properties) (hkept : c.checkField field path = .ok kept) (v : Value) :
    Returns (c.accepts v kept) fun _ => True := by
  cases hc using Capability.builtins_cases with
  | string =>
      rcases Capability.of_compileTest_eq_ok hkept with ⟨rfl, hpattern⟩ |
        ⟨w, source, p, -, -, hread, rfl⟩
      · exact Capability.returns_string_accepts hpattern hreadable.pattern v
      · have htest := Entries.option?_setOption_self field "test" (.pattern p)
        refine Capability.returns_string_accepts (fun u hu => ⟨p, ?_⟩) (fun q hq => ?_) v
        · exact Option.some.inj (hu.symm.trans htest)
        · obtain rfl : q = p := by simpa using hq.symm.trans htest
          rw [Pattern.source_of_read hread]
          rfl
  | date | object | array => exact absurd hlists (by decide)
  | _ => exact ⟨_, rfl, trivial⟩

theorem settles_checkOptions {options : List Value}
    (haccepts : ∀ v, Returns (c.accepts v field) fun _ => True) {i : Nat} :
    Settles path (checkOptions c path field i options) := by
  induction options generalizing i with
  | nil => exact .ok _
  | cons v rest ih =>
      obtain ⟨accepted, haccepted, -⟩ := haccepts v
      rw [checkOptions, haccepted]
      cases accepted with
      | true => exact ih
      | false => exact .reject _

theorem settles_checkEnum (hc : c ∈ Capability.builtins)
    (htype : option? field "type" = some (.text c.name))
    (haccepts : (option? field "enum").isSome → ∀ v, Returns (c.accepts v field) fun _ => True) :
    Settles path (checkEnum .builtin path field) := by
  unfold checkEnum
  split
  · exact .ok _
  · rename_i kind options henum
    rw [checkListed_of_lookup? htype (Registry.lookup?_builtin_text hc)]
    exact (settles_checkOptions (haccepts (by simp [henum]))).bind fun _ _ => .ok _
  · exact .reject _

theorem settles_checkField (hc : c ∈ Capability.builtins) (hreadable : IsReadable field)
    (htype : option? field "type" = some (.text c.name)) :
    Settles path (checkField .builtin c path field) := by
  unfold checkField
  refine (settles_checkProperties hreadable.options).bind fun _ hknown => ?_
  refine settles_checkRequired.bind fun _ _ => ?_
  refine (settles_checkField_type hc hreadable).bind fun kept hkept => ?_
  have hc' : c.Regular := Capability.regular_of_builtin hc
  refine settles_checkEnum hc ?_ fun henum => ?_
  · rw [hc'.option?_checkField hkept (by decide)]
    exact htype
  -- a type under which options can be listed gives a verdict on each of them
  · rw [hc'.option?_checkField hkept (by decide)] at henum
    refine returns_accepts_kept hc hreadable (by_contra fun hlists => ?_) hkept
    rw [Capability.option?_eq_none_of_not_declared (checkProperties_eq_ok.mp hknown) (by decide)
      hlists] at henum
    cases henum

theorem exists_string_checkField_iff :
    (∃ kept, Capability.string.checkField field path = .ok kept) ↔
      ∀ v, option? field "test" = some v → IsPattern v := by
  constructor
  · rintro ⟨kept, hkept⟩ v hv
    rcases Capability.of_compileTest_eq_ok hkept with ⟨-, hpattern⟩ |
      ⟨w, source, p, htest, hsource, hread, -⟩
    · exact Or.inl (hpattern v hv)
    · obtain rfl : w = v := Option.some.inj (htest.symm.trans hv)
      exact Or.inr ⟨source, p, hsource, hread⟩
  · intro h
    simp only [Capability.string, Capability.compileTest]
    cases htest : option? field "test" with
    | none => exact ⟨_, rfl⟩
    | some v =>
        rcases h v htest with ⟨p, rfl⟩ | ⟨source, p, hsource, hread⟩
        · exact ⟨_, rfl⟩
        · rcases Value.eq_of_text?_eq_some hsource with rfl | rfl
          all_goals
            simp only [Value.text?, hread]
            exact ⟨_, rfl⟩

theorem exists_number_checkField_iff :
    (∃ kept, Capability.number.checkField field path = .ok kept) ↔
      ∀ v, option? field "coerce" = some v → ∃ b, v = .bool b := by
  constructor
  · rintro ⟨kept, hkept⟩
    exact Capability.number_checkField hkept
  · intro h
    simp only [Capability.number]
    cases hcoerce : option? field "coerce" with
    | none => exact ⟨_, rfl⟩
    | some v =>
        obtain ⟨b, rfl⟩ := h v hcoerce
        exact ⟨_, rfl⟩

/-- What the own check of a type accepts: a pattern for texts, a truth value for
numbers. The other types have no options of their own. -/
theorem exists_checkField_iff (hc : c ∈ Capability.builtins)
    (hknown : ∀ key ∈ keys field, c.Declares key) :
    (∃ kept, c.checkField field path = .ok kept) ↔
      (∀ v, option? field "coerce" = some v → ∃ b, v = .bool b) ∧
      ∀ v, option? field "test" = some v → IsPattern v := by
  have hcoerce : "coerce" ∉ c.properties → option? field "coerce" = none :=
    Capability.option?_eq_none_of_not_declared hknown (by decide)
  have htest : "test" ∉ c.properties → option? field "test" = none :=
    Capability.option?_eq_none_of_not_declared hknown (by decide)
  cases hc using Capability.builtins_cases with
  | string => simpa [hcoerce (by decide)] using @exists_string_checkField_iff path field
  | number => simpa [htest (by decide)] using @exists_number_checkField_iff path field
  | _ =>
      rw [hcoerce (by decide), htest (by decide)]
      exact iff_of_true ⟨_, rfl⟩ (by simp)

/-- The checks of a node accept exactly legal options. -/
theorem exists_checkField_iff_isLegal (hc : c ∈ Capability.builtins)
    (htype : option? field "type" = some (.text c.name)) :
    (∃ out, checkField .builtin c path field = .ok out) ↔ IsLegal c field := by
  have hsame : ∀ {kept name}, c.checkField field path = .ok kept → name ≠ "test" →
      option? kept name = option? field name := fun hkept hname =>
    (Capability.regular_of_builtin hc).option?_checkField hkept hname
  have henum : ∀ {kept}, c.checkField field path = .ok kept →
      option? kept "enum" = option? field "enum" := fun hkept => hsame hkept (by decide)
  have hlisted_iff : ∀ {kept out}, c.checkField field path = .ok kept →
      (checkEnum .builtin path kept = .ok out ↔ _) := fun {kept out} hkept =>
    checkEnum_eq_ok_of_lookup? ((hsame hkept (by decide)).trans htype)
      (Registry.lookup?_builtin_text hc)
  constructor
  · rintro ⟨out, hout⟩
    obtain ⟨hknown, hrequired, kept, hkept, hlisted⟩ := checkField_eq_ok.mp hout
    obtain ⟨hcoerce, htest⟩ := (exists_checkField_iff hc hknown).mp ⟨kept, hkept⟩
    refine ⟨hknown, hrequired, hcoerce, htest, fun v hv => ?_⟩
    rw [← henum hkept] at hv
    rcases (hlisted_iff hkept).mp hlisted with
      ⟨hnone, -⟩ | ⟨kind, options, hsome, haccepts, -⟩
    · simp [hnone] at hv
    · refine ⟨kind, options, Option.some.inj (hv.symm.trans hsome), fun o ho => ?_⟩
      rw [← accepts_checkField hc hkept]
      exact haccepts o ho
  · intro h
    obtain ⟨kept, hkept⟩ : ∃ kept, c.checkField field path = .ok kept :=
      (exists_checkField_iff hc h.known).mpr ⟨h.coerce, h.test⟩
    have hlisted : ∃ out, checkEnum .builtin path kept = .ok out := by
      cases hv : option? field "enum" with
      | none => exact ⟨kept, (hlisted_iff hkept).mpr (Or.inl ⟨(henum hkept).trans hv, rfl⟩)⟩
      | some v =>
          obtain ⟨kind, options, rfl, haccepts⟩ := h.enum v hv
          refine ⟨_, (hlisted_iff hkept).mpr (Or.inr ⟨kind, options, (henum hkept).trans hv,
            fun o ho => ?_, rfl⟩)⟩
          rw [accepts_checkField hc hkept]
          exact haccepts o ho
    obtain ⟨out, hout⟩ := hlisted
    exact ⟨out, checkField_eq_ok.mpr ⟨h.known, h.required, kept, hkept, hout⟩⟩

end

/-! ## Parts are compiled in their order -/

/-- All parts are compiled, or those before the first one that ends in a fault. -/
inductive InOrder (compile : FieldCompiler) {α : Type} :
    (parts : List (Option String × Value)) → Except Fault α → Prop
  | all {parts : List (Option String × Value)} {a : α}
      (each : ∀ part ∈ parts, ∃ out, compile part.1 part.2 = .ok out) :
      InOrder compile parts (.ok a)
  | upTo {before after : List (Option String × Value)} {part : Option String × Value}
      {fault : Fault} (fine : ∀ earlier ∈ before, ∃ out, compile earlier.1 earlier.2 = .ok out)
      (stops : compile part.1 part.2 = .error fault) :
      InOrder compile (before ++ part :: after) (.error fault)

namespace InOrder

variable {compile : FieldCompiler} {α β : Type} {parts : List (Option String × Value)}
  {path : Option String}

theorem map {x : Except Fault α} {f : α → β} (h : InOrder compile parts x) :
    InOrder compile parts (x >>= fun a => pure (f a)) := by
  cases h with
  | all each => exact .all each
  | upTo fine stops => exact .upTo fine stops

theorem cons {part : Option String × Value} {f : Entries → α → β} {x : Except Fault α}
    (h : InOrder compile parts x) :
    InOrder compile (part :: parts)
      (compile part.1 part.2 >>= fun out => x >>= fun a => pure (f out a)) := by
  cases hpart : compile part.1 part.2 with
  | error fault =>
      show InOrder compile ([] ++ part :: parts) _
      exact .upTo (List.forall_mem_nil _) hpart
  | ok out =>
      cases h with
      | all each => exact .all (List.forall_mem_cons.mpr ⟨⟨out, hpart⟩, each⟩)
      | @upTo before after _ _ fine stops =>
          show InOrder compile ((part :: before) ++ _ :: after) _
          exact .upTo (List.forall_mem_cons.mpr ⟨⟨out, hpart⟩, fine⟩) stops

theorem compileFields {entries : Entries} (hnames : ∀ name ∈ keys entries, name.isWritable = true) :
    InOrder compile (fieldsAt path entries) (compileFields compile path entries) := by
  induction entries with
  | nil => exact .all (List.forall_mem_nil _)
  | cons e rest ih =>
      obtain ⟨hname, hrest⟩ := List.forall_mem_cons.mp hnames
      rw [Compilation.compileFields, Value.checkWritable_eq_ok.mpr hname]
      exact (ih hrest).cons

theorem compileAlternatives (items : List Value) :
    InOrder compile (alternativesAt path items) (compileAlternatives compile path 0 items) := by
  unfold alternativesAt
  generalize 0 = i
  induction items generalizing i with
  | nil => exact .all (List.forall_mem_nil _)
  | cons item rest ih => exact (ih (i + 1)).cons

end InOrder

section

variable {levels : Nat} {limit : Int} {path place place' : Option String} {raw : Value}
  {c : Capability} {form parts : Entries} {compile : FieldCompiler}

theorem HasShape.inOrder (h : HasShape raw c form)
    (hnames : c.name = Capability.objectTag →
      ∀ name ∈ keys (formFields form), name.isWritable = true) :
    InOrder compile (formPartsAt c path form)
      (compileChildren compile path c.name (setOption form "type" (.text c.name))) := by
  have hother := Entries.option?_setOption_of_ne form (.text c.name)
    (show "child" ≠ "type" by decide)
  by_cases hobject : c.name = Capability.objectTag
  · obtain ⟨kind, entries, hchild⟩ := h.object hobject
    obtain rfl := Registry.eq_object_of_lookup?_builtin h.names hobject
    rw [formFields, hchild] at hnames
    rw [formPartsAt_object hchild, compileChildren, if_pos hobject, hother, hchild]
    exact (InOrder.compileFields (hnames rfl)).map
  · by_cases harray : c.name = Capability.arrayTag
    · obtain ⟨kind, items, hchild⟩ := h.array harray
      obtain rfl := Registry.eq_array_of_lookup?_builtin h.names harray
      rw [formPartsAt_array hchild, compileChildren, if_neg hobject, if_pos harray, hother, hchild]
      exact (InOrder.compileAlternatives items).map
    · rw [formPartsAt_leaf hobject harray, compileChildren, if_neg hobject, if_neg harray]
      exact .all (List.forall_mem_nil _)

/-- A form whose `child` is of the wrong kind is rejected before its parts. -/
theorem compileChildren_of_shapeless (hexpand : expand? .builtin raw = some form)
    (hnames : Registry.builtin.lookup? ((option? form "type").getD .null) = some c)
    (hshape : ¬ HasShape raw c form) :
    ∃ defect, compileChildren compile path c.name (setOption form "type" (.text c.name))
      = reject path defect := by
  have hother := Entries.option?_setOption_of_ne form (.text c.name)
    (show "child" ≠ "type" by decide)
  rw [compileChildren]
  by_cases hobject : c.name = Capability.objectTag
  · rw [if_pos hobject, hother]
    obtain rfl := Registry.eq_object_of_lookup?_builtin hnames hobject
    cases hchild : (option? form "child").getD (.dict []) with
    | mapping kind entries => exact absurd (hasShape_object hexpand hnames hchild) hshape
    | _ => exact ⟨_, rfl⟩
  · by_cases harray : c.name = Capability.arrayTag
    · rw [if_neg hobject, if_pos harray, hother]
      obtain rfl := Registry.eq_array_of_lookup?_builtin hnames harray
      cases hchild : (option? form "child").getD (.list []) with
      | sequence kind items => exact absurd (hasShape_array hexpand hnames hchild) hshape
      | _ => exact ⟨_, rfl⟩
    · exact absurd ⟨hexpand, hnames, fun h => absurd h hobject, fun h => absurd h harray⟩ hshape

theorem declares_child (hc : c ∈ Capability.builtins)
    (h : c.name = Capability.objectTag ∨ c.name = Capability.arrayTag) :
    c.Declares (.text "child") := by
  cases hc using Capability.builtins_cases with
  | object | array => exact ⟨"child", rfl, Or.inr (by decide)⟩
  | _ => exact absurd h (by decide)

section

variable (hexpand : expand? .builtin raw = some form)
  (hparts : compileChildren compile path c.name (setOption form "type" (.text c.name))
    = .ok parts)

include hparts

theorem option?_parts {name : String} (htype : name ≠ "type") (hchild : name ≠ "child") :
    option? parts name = option? form name := by
  rw [option?_compileChildren hparts hchild, Entries.option?_setOption_of_ne _ _ htype]

include hexpand

/-- Compiling the parts adds at most a `child` to the options. -/
theorem keys_parts : keys parts = keys form ++
    if (c.name = Capability.objectTag ∨ c.name = Capability.arrayTag) ∧
      option? form "child" = none then [.text "child"] else [] := by
  rw [keys_compileChildren hparts, Entries.option?_setOption_of_ne _ _ (by decide),
    Entries.keys_setOption_of_isSome _ (isSome_type_of_expand? hexpand)]

theorem isReadable_parts (h : IsReadable form) : IsReadable parts where
  options := by
    rw [TextKeys, keys_parts hexpand hparts]
    refine List.forall_mem_append.mpr ⟨h.options, ?_⟩
    split
    · exact List.forall_mem_singleton.mpr (Value.isText_text _)
    · exact List.forall_mem_nil _
  pattern := by
    rw [Capability.SearchesText, option?_parts hparts (by decide) (by decide)]
    exact h.pattern
  source := by
    rw [option?_parts hparts (by decide) (by decide)]
    exact h.source

theorem isLegal_parts_iff (hc : c ∈ Capability.builtins) :
    IsLegal c parts ↔ IsLegal c form := by
  have hknown : (∀ key ∈ keys parts, c.Declares key) ↔ ∀ key ∈ keys form, c.Declares key := by
    rw [keys_parts hexpand hparts, List.forall_mem_append, and_iff_left]
    split
    · rename_i hadded
      exact List.forall_mem_singleton.mpr (declares_child hc hadded.1)
    · exact List.forall_mem_nil _
  have hother : ∀ {name}, name ≠ "type" → name ≠ "child" →
      option? parts name = option? form name := option?_parts hparts
  have haccepts := accepts_congr hc (hother (by decide) (by decide))
    (hother (by decide) (by decide))
  constructor
  · rintro ⟨known, required, coerce, test, enum⟩
    rw [hother (by decide) (by decide)] at required coerce test enum
    simp only [haccepts] at enum
    exact ⟨hknown.mp known, required, coerce, test, enum⟩
  · rintro ⟨known, required, coerce, test, enum⟩
    rw [← hother (by decide) (by decide)] at required coerce test enum
    simp only [← haccepts] at enum
    exact ⟨hknown.mpr known, required, coerce, test, enum⟩

end

/-! ## The compiler decides the grammar -/

/-- How the compilation of a raw field ends, and why. -/
inductive Verdict (levels : Nat) (path : Option String) (raw : Value) :
    Except Fault Entries → Prop
  | accepts {out : Entries} (wellFormed : WellFormed levels raw) :
      Verdict levels path raw (.ok out)
  | rejects {defect : Defect} {place : Option String}
      (first : FirstDefect levels path raw place) :
      Verdict levels path raw (.error (.rejected defect (Path.toValue place)))

theorem mem_formParts_of_mem_formPartsAt {part : Option String × Value}
    (h : part ∈ formPartsAt c path form) : part.2 ∈ formParts form := by
  unfold formPartsAt at h
  split at h
  · exact List.mem_append_left _
      ((forall_fieldsAt (P := (· ∈ (formFields form).map Prod.snd))).mpr
        (fun e he => List.mem_map_of_mem he) part h)
  · split at h
    · exact List.mem_append_right _
        ((forall_alternativesAt (P := (· ∈ formAlternatives form))).mpr
          (fun item hitem => hitem) part h)
    · simp at h

theorem Verdict.wellFormed {x : Except Fault Entries} {out : Entries}
    (h : Verdict levels path raw x) (hx : x = .ok out) : WellFormed levels raw := by
  cases h with
  | accepts wellFormed => exact wellFormed
  | rejects => simp at hx

theorem Verdict.firstDefect {x : Except Fault Entries} {fault : Fault}
    (h : Verdict levels path raw x) (hx : x = .error fault) :
    ∃ defect place, fault = .rejected defect (Path.toValue place) ∧
      FirstDefect levels path raw place := by
  cases h with
  | accepts => simp at hx
  | rejects first => exact ⟨_, _, (Except.error.inj hx).symm, first⟩

/-- A form of the right shape is judged by its parts and then by its options. -/
theorem HasShape.verdict (h : HasShape raw c form) (hc : c ∈ Capability.builtins)
    (hlegible : IsLegible form)
    (hbelow : ∀ part ∈ formPartsAt c path form,
      Verdict levels part.1 part.2 (compile part.1 part.2)) :
    Verdict (levels + 1) path raw
      (compileChildren compile path c.name (setOption form "type" (.text c.name)) >>=
        fun parts => checkField .builtin c path parts) := by
  have horder : InOrder compile (formPartsAt c path form)
      (compileChildren compile path c.name (setOption form "type" (.text c.name))) :=
    h.inOrder fun _ => hlegible.names
  generalize hparts : formPartsAt c path form = parts at horder hbelow
  generalize hresult : compileChildren compile path c.name _ = result at horder
  cases horder with
  | @all _ out each =>
      have hfine : ∀ part ∈ formPartsAt c path form, WellFormed levels part.2 := by
        intro part hpart
        obtain ⟨out, hout⟩ := each part (hparts ▸ hpart)
        exact (hbelow part (hparts ▸ hpart)).wellFormed hout
      have hlegal : (∃ kept, checkField .builtin c path out = .ok kept) ↔ IsLegal c form :=
        (exists_checkField_iff_isLegal hc (type_compileChildren hresult)).trans
          (isLegal_parts_iff h.expands hresult hc)
      have hsettles : Settles path (checkField .builtin c path out) :=
        settles_checkField hc (isReadable_parts h.expands hresult hlegible.toIsReadable)
          (type_compileChildren hresult)
      rcases hsettles with ⟨kept, hkept⟩ | ⟨defect, hdefect⟩
      · change Verdict _ _ _ (checkField .builtin c path out)
        rw [hkept]
        exact .accepts (h.wellFormed hfine (hlegal.mp ⟨kept, hkept⟩))
      · change Verdict _ _ _ (checkField .builtin c path out)
        rw [hdefect]
        refine .rejects (.options h hfine fun hl => ?_)
        obtain ⟨kept, hkept⟩ := hlegal.mpr hl
        simp [hdefect] at hkept
  | @upTo before after part fault fine stops =>
      obtain ⟨defect, place, rfl, hfirst⟩ := (hbelow part (by simp)).firstDefect stops
      refine .rejects (.part h hparts (fun earlier hearlier => ?_) hfirst)
      obtain ⟨out, hout⟩ := fine earlier hearlier
      exact (hbelow earlier (List.mem_append_left _ hearlier)).wellFormed hout

/-- One level of the compiler continues the verdicts of the level below. -/
theorem verdict_succ (hraw : EveryForm .builtin IsLegible raw)
    (hbelow : ∀ path raw, EveryForm .builtin IsLegible raw →
      Verdict levels path raw (compileField .builtin limit levels path raw)) :
    Verdict (levels + 1) path raw (compileField .builtin limit (levels + 1) path raw) := by
  rw [compileField]
  cases hexpand : expand? .builtin raw with
  | none => exact .rejects (.shape fun c form h => by simpa [hexpand] using h.expands)
  | some form =>
      dsimp only
      cases hresolve : Registry.builtin.resolve? ((option? form "type").getD .null) with
      | none =>
          refine .rejects (.shape fun c form' h => ?_)
          obtain rfl : form = form' := Option.some.inj (hexpand.symm.trans h.expands)
          simpa [hresolve] using (Registry.lookup?_builtin_eq_some_iff.mp h.names).1
      | some tag =>
          obtain ⟨c, hregistered⟩ := Registry.exists_capability_of_resolve?_builtin hresolve
          obtain ⟨hc, rfl⟩ := Registry.of_capability?_builtin hregistered
          have hnames := Registry.lookup?_builtin_eq_some_iff.mpr ⟨hresolve, hregistered⟩
          simp only [hregistered]
          by_cases hshape : HasShape raw c form
          · refine hshape.verdict hc (hraw.at_root hexpand) fun part hpart => ?_
            exact hbelow part.1 part.2
              (hraw.of_mem_formParts hexpand _ (mem_formParts_of_mem_formPartsAt hpart))
          · obtain ⟨defect, hdefect⟩ : ∃ defect,
                compileChildren (compileField .builtin limit levels) path c.name
                  (setOption form "type" (.text c.name)) = reject path defect :=
              compileChildren_of_shapeless hexpand hnames hshape
            rw [hdefect]
            refine .rejects (.shape fun c' form' h => hshape ?_)
            obtain rfl : form = form' := Option.some.inj (hexpand.symm.trans h.expands)
            obtain rfl : c = c' := Option.some.inj (hnames.symm.trans h.names)
            exact h

/-- The induction is on the levels: each raw field is judged by its grammar. -/
theorem verdict_compileField (hlimit : Text.isTooLong limit = false) :
    ∀ {levels : Nat} {path : Option String} {raw : Value}, EveryForm .builtin IsLegible raw →
    Verdict levels path raw (compileField .builtin limit levels path raw)
  | 0, path, raw, _ => by
      rw [compileField, rejectDepth, hlimit, if_neg Bool.false_ne_true]
      exact .rejects .tooDeep
  | _ + 1, _, _, hraw => verdict_succ hraw fun _ _ => verdict_compileField hlimit

/-! ## There is one first defect -/

/-- Two ways to split a list at the first element without a property agree. -/
theorem first_unique {α : Type} {P : α → Prop} {x y : α} {after after' : List α} :
    ∀ {before before' : List α}, before ++ x :: after = before' ++ y :: after' →
      (∀ a ∈ before, P a) → ¬ P x → (∀ a ∈ before', P a) → ¬ P y → x = y
  | [], [], h, _, _, _, _ => (List.cons.inj h).1
  | [], a :: _, h, _, hx, hbefore', _ => by
      obtain rfl : x = a := (List.cons.inj h).1
      exact absurd (hbefore' x List.mem_cons_self) hx
  | a :: _, [], h, hbefore, _, _, hy => by
      obtain rfl : a = y := (List.cons.inj h).1
      exact absurd (hbefore a List.mem_cons_self) hy
  | _ :: _, _ :: _, h, hbefore, hx, hbefore', hy =>
      first_unique (List.cons.inj h).2 (fun a ha => hbefore a (List.mem_cons_of_mem _ ha)) hx
        (fun a ha => hbefore' a (List.mem_cons_of_mem _ ha)) hy

/-- What has a defect is not well formed. -/
theorem FirstDefect.not_wellFormed (h : FirstDefect levels path raw place) :
    ¬ WellFormed levels raw := by
  induction h with
  | tooDeep => exact nofun
  | @shape levels path raw shapeless =>
      intro hwellFormed
      obtain ⟨c, form, hshape, -⟩ := hwellFormed.exists_form path
      exact shapeless c form hshape
  | @part levels path place raw c form before after part shape split fine inside ih =>
      intro hwellFormed
      obtain ⟨c', form', hshape, hparts, -⟩ := hwellFormed.exists_form path
      obtain ⟨rfl, rfl⟩ := shape.unique hshape
      exact ih (hparts part (by simp [split]))
  | @options levels path raw c form shape fine illegal =>
      intro hwellFormed
      obtain ⟨c', form', hshape, -, hlegal⟩ := hwellFormed.exists_form path
      obtain ⟨rfl, rfl⟩ := shape.unique hshape
      exact illegal hlegal

theorem FirstDefect.unique (h : FirstDefect levels path raw place)
    (h' : FirstDefect levels path raw place') : place = place' := by
  induction h generalizing place' with
  | tooDeep =>
      cases h'
      rfl
  | shape shapeless =>
      cases h' with
      | shape => rfl
      | part shape => exact absurd shape (shapeless _ _)
      | options => rfl
  | part shape split fine inside ih =>
      cases h' with
      | shape shapeless => exact absurd shape (shapeless _ _)
      | part shape' split' fine' inside' =>
          obtain ⟨rfl, rfl⟩ := shape.unique shape'
          obtain rfl := first_unique (split.symm.trans split') fine inside.not_wellFormed fine'
            inside'.not_wellFormed
          exact ih inside'
      | options shape' fine' =>
          obtain ⟨rfl, rfl⟩ := shape.unique shape'
          exact absurd (fine' _ (by simp [split])) inside.not_wellFormed
  | options shape fine illegal =>
      cases h' with
      | shape => rfl
      | part shape' split' fine' inside' =>
          obtain ⟨rfl, rfl⟩ := shape.unique shape'
          exact absurd (fine _ (by simp [split'])) inside'.not_wellFormed
      | options => rfl

/-- **The compiler accepts exactly the grammar and rejects at the first defect.**
With the built-in types, at every path and with any levels left, a raw field of
legible forms is compiled if and only if it is well formed; otherwise the schema
is rejected at the place of the first defect, and there is one such place. Only
a limit that is too long to be told stands against that. -/
theorem compileField_decides_grammar (hlimit : Text.isTooLong limit = false)
    (hraw : EveryForm .builtin IsLegible raw) :
    ((∃ field, compileField .builtin limit levels path raw = .ok field) ↔
      WellFormed levels raw) ∧
    (¬ WellFormed levels raw → ∃ defect place,
      compileField .builtin limit levels path raw
        = .error (.rejected defect (Path.toValue place)) ∧
      ∀ other, FirstDefect levels path raw other ↔ other = place) := by
  have hverdict : Verdict levels path raw (compileField .builtin limit levels path raw) :=
    verdict_compileField hlimit hraw
  cases hresult : compileField .builtin limit levels path raw with
  | ok field =>
      have hwellFormed := hverdict.wellFormed hresult
      exact ⟨iff_of_true ⟨field, rfl⟩ hwellFormed, fun h => absurd hwellFormed h⟩
  | error fault =>
      obtain ⟨defect, place, rfl, hfirst⟩ := hverdict.firstDefect hresult
      refine ⟨iff_of_false (by simp) hfirst.not_wellFormed, fun _ =>
        ⟨defect, place, rfl, fun other => ⟨fun h => h.unique hfirst, ?_⟩⟩⟩
      rintro rfl
      exact hfirst

/-- An option of the wrong type comes before a later field of no type. -/
theorem compileField_decides_grammar_enum :
    FirstDefect 2 none (.dict [
      (.text "a", .dict [(.text "type", .classObject .text),
        (.text "enum", .sequence .tuple [.text "x", .int 1])]),
      (.text "b", .text "nope")]) (some "a") := by
  have hfield : EveryForm .builtin IsLegible (.dict [(.text "type", .classObject .text),
      (.text "enum", .sequence .tuple [.text "x", .int 1])]) := by
    have hexpand : expand? .builtin (.dict [(.text "type", .classObject .text),
        (.text "enum", .sequence .tuple [.text "x", .int 1])])
          = some [(.text "type", .classObject .text),
            (.text "enum", .sequence .tuple [.text "x", .int 1])] := by
      rw [Registry.builtin_eq]
      cbv
    refine .form hexpand ⟨⟨?_, ?_, ?_⟩, ?_⟩ ?_
    all_goals
      simp [formParts, formFields, formAlternatives, TextKeys, Capability.SearchesText, keys,
        Entries.option?_cons, Entries.option?_nil, Value.entries?, Value.items?,
        Value.isText_text]
  have hraw : EveryForm .builtin IsLegible (.dict [
      (.text "a", .dict [(.text "type", .classObject .text),
        (.text "enum", .sequence .tuple [.text "x", .int 1])]),
      (.text "b", .text "nope")]) := by
    have hexpand : expand? .builtin (.dict [
        (.text "a", .dict [(.text "type", .classObject .text),
          (.text "enum", .sequence .tuple [.text "x", .int 1])]),
        (.text "b", .text "nope")])
          = some [(.text "type", .text "object"), (.text "child", .dict [
            (.text "a", .dict [(.text "type", .classObject .text),
              (.text "enum", .sequence .tuple [.text "x", .int 1])]),
            (.text "b", .text "nope")])] := by
      rw [Registry.builtin_eq]
      cbv
    refine .form hexpand ⟨⟨?_, ?_, ?_⟩, ?_⟩ ?_
    all_goals
      simp [formParts, formFields, formAlternatives, TextKeys, Capability.SearchesText, keys,
        Entries.option?_cons, Entries.option?_nil, Value.entries?, Value.items?,
        Value.isText_text, Value.isWritable, hfield]
    exact .formless (by rw [Registry.builtin_eq]; cbv)
  have hresult : compileField .builtin 2 2 none (.dict [
      (.text "a", .dict [(.text "type", .classObject .text),
        (.text "enum", .sequence .tuple [.text "x", .int 1])]),
      (.text "b", .text "nope")]) = .error (.rejected (.enumMismatch 1) (.text "a")) := by
    rw [Registry.builtin_eq]
    cbv
  obtain ⟨hiff, hfirst⟩ := @compileField_decides_grammar 2 2 none _
    (Text.isTooLong_of_natAbs_lt (by decide)) hraw
  obtain ⟨defect, place, hplace, hunique⟩ := hfirst fun hwellFormed => by
    obtain ⟨field, hfield⟩ := hiff.mpr hwellFormed
    simp [hresult] at hfield
  rw [hresult] at hplace
  cases place with
  | none => cases hplace
  | some s =>
      cases hplace
      exact (hunique _).mpr rfl

/-- A field named by an integer too long to be written is well formed, but it has
no path. -/
theorem compileField_fails_of_longName :
    WellFormed 2 (.dict [(.int Text.firstTooLong, .text "string")]) ∧
    compileField .builtin 2 2 none (.dict [(.int Text.firstTooLong, .text "string")])
      = .error .integerTooLong := by
  have hstring : Registry.builtin.lookup? (.text "string") = some Capability.string :=
    Registry.lookup?_builtin_text List.mem_cons_self
  refine ⟨.fields ?_ (List.forall_mem_singleton.mpr (.name hstring)), ?_⟩
  · simp [Entries.option?_cons, Entries.option?_nil, Value.text?]
  · rw [Registry.builtin_eq]
    cbv

end

end Compilation

end DataShape
