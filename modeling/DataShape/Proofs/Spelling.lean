import DataShape.Capability.Custom
import DataShape.Proofs.Forms

/-!
# Spellings of a raw field

The same field can be written in many ways: by a tag or an alias of it, in a
short form or in full, with a list or a tuple of alternatives, with a mapping of
any kind. The compiler does not tell them apart. Whatever the spelling, at any
depth, it returns one field or rejects the schema with one defect at one path.

One thing stands in the way of rewriting a raw field from the inside. A tuple
can be an alias itself, and then it stands for its type and its items are no raw
fields. A tuple may be rewritten inside as long as it is no alias before and
none after.
-/

namespace DataShape

open Entries (option? setOption keys)

namespace Compilation

/-- One raw field is another spelling of the other. -/
inductive Rewrites (r : Registry) : (raw raw' : Value) → Prop
  /-- Two names of one type, such as an alias and its tag. -/
  | name {v w : Value} {tag : String} (left : r.resolve? v = some tag)
      (right : r.resolve? w = some tag) : Rewrites r v w
  | type {kind : MappingKind} {node : Entries} {v w : Value} {tag : String}
      (typed : option? node "type" = some v) (left : r.resolve? v = some tag)
      (right : r.resolve? w = some tag) :
      Rewrites r (.mapping kind node) (.mapping kind (setOption node "type" w))
  | verbose {v : Value} (name : r.contains v = true) :
      Rewrites r v (.dict [(.text "type", v)])
  | alternatives {kind : SequenceKind} {items : List Value}
      (noName : r.contains (.sequence kind items) = false) :
      Rewrites r (.sequence kind items) (.dict [(.text "type", .text Capability.arrayTag),
        (.text "child", .sequence kind items)])
  | fields {kind : MappingKind} {entries : Entries}
      (untyped : option? entries "type" = none) :
      Rewrites r (.mapping kind entries) (.dict [(.text "type", .text Capability.objectTag),
        (.text "child", .mapping kind entries)])
  | noFields {kind : MappingKind} {node : Entries} {v : Value}
      (typed : option? node "type" = some v)
      (object : r.resolve? v = some Capability.objectTag)
      (childless : option? node "child" = none) :
      Rewrites r (.mapping kind node) (.mapping kind (node ++ [(.text "child", .dict [])]))
  | noAlternatives {kind : MappingKind} {node : Entries} {v : Value}
      (typed : option? node "type" = some v)
      (array : r.resolve? v = some Capability.arrayTag)
      (childless : option? node "child" = none) :
      Rewrites r (.mapping kind node) (.mapping kind (node ++ [(.text "child", .list [])]))
  | tuple {kind : MappingKind} {node : Entries} {v : Value} {items : List Value}
      (typed : option? node "type" = some v)
      (array : r.resolve? v = some Capability.arrayTag)
      (child : option? node "child" = some (.list items)) :
      Rewrites r (.mapping kind node)
        (.mapping kind (setOption node "child" (.sequence .tuple items)))
  | kind {kind kind' : MappingKind} {entries : Entries} :
      Rewrites r (.mapping kind entries) (.mapping kind' entries)
  | childKind {kind childKind childKind' : MappingKind} {node entries : Entries} {v : Value}
      (typed : option? node "type" = some v)
      (object : r.resolve? v = some Capability.objectTag)
      (child : option? node "child" = some (.mapping childKind entries)) :
      Rewrites r (.mapping kind node)
        (.mapping kind (setOption node "child" (.mapping childKind' entries)))

/-- One raw field is spelled differently somewhere inside the other. Short
sequences of alternatives are rewritten inside only if they are free. -/
inductive Respells (r : Registry) (free : Value → Prop) : (raw raw' : Value) → Prop
  | here {raw raw' : Value} (rewrites : Rewrites r raw raw') : Respells r free raw raw'
  | field {kind : MappingKind} {before after : Entries} {name raw raw' : Value}
      (untyped : option? (before ++ (name, raw) :: after) "type" = none)
      (inside : Respells r free raw raw') :
      Respells r free (.mapping kind (before ++ (name, raw) :: after))
        (.mapping kind (before ++ (name, raw') :: after))
  | item {kind : SequenceKind} {before after : List Value} {raw raw' : Value}
      (left : free (.sequence kind (before ++ raw :: after)))
      (right : free (.sequence kind (before ++ raw' :: after)))
      (inside : Respells r free raw raw') :
      Respells r free (.sequence kind (before ++ raw :: after))
        (.sequence kind (before ++ raw' :: after))
  | objectField {kind childKind : MappingKind} {node before after : Entries}
      {name raw raw' v : Value} (typed : option? node "type" = some v)
      (object : r.resolve? v = some Capability.objectTag)
      (child : option? node "child"
        = some (.mapping childKind (before ++ (name, raw) :: after)))
      (inside : Respells r free raw raw') :
      Respells r free (.mapping kind node) (.mapping kind (setOption node "child"
        (.mapping childKind (before ++ (name, raw') :: after))))
  | arrayItem {kind : MappingKind} {childKind : SequenceKind} {node : Entries}
      {before after : List Value} {raw raw' v : Value} (typed : option? node "type" = some v)
      (array : r.resolve? v = some Capability.arrayTag)
      (child : option? node "child" = some (.sequence childKind (before ++ raw :: after)))
      (inside : Respells r free raw raw') :
      Respells r free (.mapping kind node) (.mapping kind (setOption node "child"
        (.sequence childKind (before ++ raw' :: after))))

/-! ## Forms that compile alike -/

section

variable {r : Registry} {limit : Int} {levels : Nat} {path : Option String}
  {raw raw' : Value} {form form' : Entries} {compile : FieldCompiler}

/-- Raw fields are compiled alike if their forms have types of one name, and the
parts of the forms are compiled alike. -/
theorem compileField_congr
    (hform : expand? r raw = some form) (hform' : expand? r raw' = some form')
    (htype : r.resolve? ((option? form "type").getD .null)
      = r.resolve? ((option? form' "type").getD .null))
    (hparts : ∀ levels tag, r.resolve? ((option? form "type").getD .null) = some tag →
      compileChildren (compileField r limit levels) path tag
          (setOption form "type" (.text tag))
        = compileChildren (compileField r limit levels) path tag
          (setOption form' "type" (.text tag))) :
    compileField r limit levels path raw = compileField r limit levels path raw' := by
  cases levels with
  | zero => rfl
  | succ levels =>
      rw [compileField, compileField, hform, hform']
      dsimp only
      rw [← htype]
      cases htag : r.resolve? ((option? form "type").getD .null) with
      | none => rfl
      | some tag =>
          dsimp only
          rw [hparts levels tag htag]

theorem compileField_of_expand?_eq (h : expand? r raw = expand? r raw') :
    compileField r limit levels path raw = compileField r limit levels path raw' := by
  cases levels with
  | zero => rfl
  | succ levels => rw [compileField, compileField, h]

theorem resolve?_text {s tag : String} (h : r.resolve? (.text s) = some tag) : tag = s := by
  simp only [Registry.resolve?, Value.text?_text] at h
  split at h
  · exact (Option.some.inj h).symm
  · simp at h

/-- The fields of an object are all that is read of its `child`. -/
theorem compileChildren_object_congr {field entries entries' : Entries}
    {kind kind' : MappingKind}
    (hchild : (option? field "child").getD (.dict []) = .mapping kind entries)
    (hfields : compileFields compile path entries = compileFields compile path entries') :
    compileChildren compile path Capability.objectTag field
      = compileChildren compile path Capability.objectTag
        (setOption field "child" (.mapping kind' entries')) := by
  rw [compileChildren, if_pos rfl, compileChildren, if_pos rfl, hchild,
    Entries.option?_setOption_self]
  simp only [hfields, Option.getD_some, Entries.setOption_setOption_self]

/-- The alternatives of an array are all that is read of its `child`. -/
theorem compileChildren_array_congr {field : Entries} {items items' : List Value}
    {kind kind' : SequenceKind}
    (hchild : (option? field "child").getD (.list []) = .sequence kind items)
    (hitems : compileAlternatives compile path 0 items
      = compileAlternatives compile path 0 items') :
    compileChildren compile path Capability.arrayTag field
      = compileChildren compile path Capability.arrayTag
        (setOption field "child" (.sequence kind' items')) := by
  rw [compileChildren, if_neg objectTag_ne_arrayTag.symm, if_pos rfl, compileChildren,
    if_neg objectTag_ne_arrayTag.symm, if_pos rfl, hchild, Entries.option?_setOption_self]
  simp only [hitems, Option.getD_some, Entries.setOption_setOption_self]

section

variable {kind : MappingKind} {node : Entries} {v w : Value}
  (typed : option? node "type" = some v)

include typed

/-- A node may be given another `child` if the node with its tag may. -/
theorem compileField_setChild
    (hchild : ∀ levels tag, r.resolve? v = some tag →
      compileChildren (compileField r limit levels) path tag (setOption node "type" (.text tag))
        = compileChildren (compileField r limit levels) path tag
          (setOption (setOption node "type" (.text tag)) "child" w)) :
    compileField r limit levels path (.mapping kind node)
      = compileField r limit levels path (.mapping kind (setOption node "child" w)) := by
  have htype := Entries.option?_setOption_of_ne node w (show "type" ≠ "child" by decide)
  refine compileField_congr (expand?_typed typed) (expand?_typed (htype.trans typed))
    (by rw [htype]) fun levels tag htag => ?_
  rw [typed, Option.getD_some] at htag
  rw [Entries.setOption_comm_of_isSome (by decide) (by simp [typed])]
  exact hchild levels tag htag

theorem compileField_object_congr {childKind childKind' : MappingKind}
    {entries entries' : Entries}
    (object : ∀ tag, r.resolve? v = some tag → tag = Capability.objectTag)
    (hchild : (option? node "child").getD (.dict []) = .mapping childKind entries)
    (hfields : ∀ levels, compileFields (compileField r limit levels) path entries
      = compileFields (compileField r limit levels) path entries') :
    compileField r limit levels path (.mapping kind node)
      = compileField r limit levels path
        (.mapping kind (setOption node "child" (.mapping childKind' entries'))) := by
  refine compileField_setChild typed fun levels tag htag => ?_
  obtain rfl := object tag htag
  have hchild' : (option? (setOption node "type" (.text Capability.objectTag)) "child").getD
      (.dict []) = .mapping childKind entries := by
    rw [Entries.option?_setOption_of_ne _ _ (by decide)]
    exact hchild
  exact compileChildren_object_congr hchild' (hfields levels)

theorem compileField_array_congr {childKind childKind' : SequenceKind}
    {items items' : List Value}
    (array : ∀ tag, r.resolve? v = some tag → tag = Capability.arrayTag)
    (hchild : (option? node "child").getD (.list []) = .sequence childKind items)
    (hitems : ∀ levels, compileAlternatives (compileField r limit levels) path 0 items
      = compileAlternatives (compileField r limit levels) path 0 items') :
    compileField r limit levels path (.mapping kind node)
      = compileField r limit levels path
        (.mapping kind (setOption node "child" (.sequence childKind' items'))) := by
  refine compileField_setChild typed fun levels tag htag => ?_
  obtain rfl := array tag htag
  have hchild' : (option? (setOption node "type" (.text Capability.arrayTag)) "child").getD
      (.list []) = .sequence childKind items := by
    rw [Entries.option?_setOption_of_ne _ _ (by decide)]
    exact hchild
  exact compileChildren_array_congr hchild' (hitems levels)

end

/-- A short form is compiled as the node that it stands for, whatever kind of
mapping holds its fields. -/
theorem compileField_untyped {kind childKind : MappingKind} {entries entries' : Entries}
    (untyped : option? entries "type" = none)
    (hfields : ∀ levels, compileFields (compileField r limit levels) path entries
      = compileFields (compileField r limit levels) path entries') :
    compileField r limit levels path (.mapping kind entries)
      = compileField r limit levels path (.dict [(.text "type", .text Capability.objectTag),
        (.text "child", .mapping childKind entries')]) := by
  have htype := option?_type_short (.text Capability.objectTag) (.dict entries)
  have hchild := option?_child_short (.text Capability.objectTag) (.dict entries)
  calc compileField r limit levels path (.mapping kind entries)
      = compileField r limit levels path (.dict [(.text "type", .text Capability.objectTag),
          (.text "child", .dict entries)]) :=
        compileField_of_expand?_eq ((expand?_untyped untyped).trans (expand?_typed htype).symm)
    _ = compileField r limit levels path (.dict (setOption
          [(.text "type", .text Capability.objectTag), (.text "child", .dict entries)] "child"
          (.mapping childKind entries'))) :=
        compileField_object_congr htype (fun _ => resolve?_text) (by rw [hchild]; rfl) hfields
    _ = _ := by simp [Entries.setOption_cons]

/-- A short form is compiled as the node that it stands for, whatever kind of
sequence holds its alternatives. -/
theorem compileField_sequence {kind childKind : SequenceKind} {items items' : List Value}
    (noName : r.contains (.sequence kind items) = false)
    (hitems : ∀ levels, compileAlternatives (compileField r limit levels) path 0 items
      = compileAlternatives (compileField r limit levels) path 0 items') :
    compileField r limit levels path (.sequence kind items)
      = compileField r limit levels path (.dict [(.text "type", .text Capability.arrayTag),
        (.text "child", .sequence childKind items')]) := by
  have htype := option?_type_short (.text Capability.arrayTag) (.list items)
  have hchild := option?_child_short (.text Capability.arrayTag) (.list items)
  calc compileField r limit levels path (.sequence kind items)
      = compileField r limit levels path (.dict [(.text "type", .text Capability.arrayTag),
          (.text "child", .list items)]) :=
        compileField_of_expand?_eq ((expand?_sequence noName).trans (expand?_typed htype).symm)
    _ = compileField r limit levels path (.dict (setOption
          [(.text "type", .text Capability.arrayTag), (.text "child", .list items)] "child"
          (.sequence childKind items'))) :=
        compileField_array_congr htype (fun _ => resolve?_text) (by rw [hchild]; rfl) hitems
    _ = _ := by simp [Entries.setOption_cons]

/-! ## One rewriting -/

theorem contains_of_resolve? {v : Value} {tag : String} (h : r.resolve? v = some tag) :
    r.contains v = true := by
  rw [Registry.contains, h]
  rfl

/-- A node that resolves to a tag has no other tag. -/
theorem eq_of_resolve? {v : Value} {tag : String} (h : r.resolve? v = some tag) :
    ∀ other, r.resolve? v = some other → other = tag :=
  fun _ hother => Option.some.inj (hother.symm.trans h)

theorem compileField_eq_of_rewrites (h : Rewrites r raw raw') :
    compileField r limit levels path raw = compileField r limit levels path raw' := by
  cases h with
  | @name v w tag left right =>
      have htype : ∀ u : Value, option? [(.text "type", u)] "type" = some u := fun u => by
        simp [Entries.option?_cons]
      refine compileField_congr (expand?_of_contains (contains_of_resolve? left))
        (expand?_of_contains (contains_of_resolve? right)) ?_ fun levels tag htag => ?_
      · rw [htype, htype, Option.getD_some, Option.getD_some, left, right]
      · simp [Entries.setOption_cons]
  | @type kind node v w tag typed left right =>
      have htype := Entries.option?_setOption_self node "type" w
      refine compileField_congr (expand?_typed typed) (expand?_typed htype) ?_
        fun levels tag htag => ?_
      · rw [typed, htype, Option.getD_some, Option.getD_some, left, right]
      · rw [Entries.setOption_setOption_self]
  | verbose name =>
      refine compileField_of_expand?_eq ((expand?_of_contains name).trans ?_)
      have htype : option? [(.text "type", raw)] "type" = some raw := by
        simp [Entries.option?_cons]
      exact (expand?_typed htype).symm
  | alternatives noName => exact compileField_sequence noName fun _ => rfl
  | fields untyped => exact compileField_untyped untyped fun _ => rfl
  | noFields typed object childless =>
      rw [← Entries.setOption_of_option?_eq_none childless]
      exact compileField_object_congr typed (eq_of_resolve? object)
        (by rw [childless]; rfl) fun _ => rfl
  | noAlternatives typed array childless =>
      rw [← Entries.setOption_of_option?_eq_none childless]
      exact compileField_array_congr typed (eq_of_resolve? array)
        (by rw [childless]; rfl) fun _ => rfl
  | tuple typed array child =>
      exact compileField_array_congr typed (eq_of_resolve? array) (by rw [child]; rfl)
        fun _ => rfl
  | @kind kind kind' entries =>
      refine compileField_of_expand?_eq ?_
      cases htype : option? entries "type" with
      | none => rw [expand?_untyped htype, expand?_untyped htype]
      | some v => rw [expand?_typed htype, expand?_typed htype]
  | childKind typed object child =>
      exact compileField_object_congr typed (eq_of_resolve? object) (by rw [child]; rfl)
        fun _ => rfl

/-! ## Rewriting at any depth -/

theorem forall₂_replace {α : Type} {R : α → α → Prop} (hrefl : ∀ a, R a a) {a b : α}
    {after : List α} (h : R a b) :
    ∀ before : List α, List.Forall₂ R (before ++ a :: after) (before ++ b :: after)
  | [] => .cons h (List.forall₂_same.mpr fun a _ => hrefl a)
  | c :: before => .cons (hrefl c) (forall₂_replace hrefl h before)

theorem compileFields_congr {entries entries' : Entries}
    (h : List.Forall₂ (fun e e' => e.1 = e'.1 ∧ ∀ path, compile path e.2 = compile path e'.2)
      entries entries') :
    compileFields compile path entries = compileFields compile path entries' := by
  induction h with
  | nil => rfl
  | @cons e e' rest rest' he _ ih =>
      rw [compileFields, compileFields, he.1, ih]
      simp only [he.2]

theorem compileAlternatives_congr {items items' : List Value} {i : Nat}
    (h : List.Forall₂ (fun raw raw' => ∀ path, compile path raw = compile path raw')
      items items') :
    compileAlternatives compile path i items = compileAlternatives compile path i items' := by
  induction h generalizing i with
  | nil => rfl
  | @cons raw raw' rest rest' hraw _ ih =>
      rw [compileAlternatives, compileAlternatives, hraw, ih]

/-- The induction is on the place of the rewriting; the level goes down with it. -/
theorem compileField_eq_of_respells (h : Respells r (fun v => r.contains v = false) raw raw') :
    ∀ {levels : Nat} {path : Option String},
      compileField r limit levels path raw = compileField r limit levels path raw' := by
  induction h with
  | here rewrites => exact compileField_eq_of_rewrites rewrites
  | @field kind before after name raw raw' untyped inside ih =>
      intro levels path
      have untyped' : option? (before ++ (name, raw') :: after) "type" = none := by
        rw [Entries.option?_eq_none_iff] at untyped ⊢
        simpa [keys] using untyped
      calc compileField r limit levels path (.mapping kind (before ++ (name, raw) :: after))
          = compileField r limit levels path (.dict [(.text "type", .text Capability.objectTag),
              (.text "child", .dict (before ++ (name, raw') :: after))]) :=
            compileField_untyped untyped fun _ => compileFields_congr
              (forall₂_replace (fun _ => ⟨rfl, fun _ => rfl⟩) ⟨rfl, fun _ => ih⟩ _)
        _ = _ := (compileField_untyped untyped' fun _ => rfl).symm
  | @item kind before after raw raw' left right inside ih =>
      intro levels path
      calc compileField r limit levels path (.sequence kind (before ++ raw :: after))
          = compileField r limit levels path (.dict [(.text "type", .text Capability.arrayTag),
              (.text "child", .list (before ++ raw' :: after))]) :=
            compileField_sequence left fun _ => compileAlternatives_congr
              (forall₂_replace (fun _ _ => rfl) (fun _ => ih) _)
        _ = _ := (compileField_sequence right fun _ => rfl).symm
  | objectField typed object child inside ih =>
      intro levels path
      refine compileField_object_congr typed (eq_of_resolve? object) (by rw [child]; rfl)
        fun levels => compileFields_congr ?_
      exact forall₂_replace (fun _ => ⟨rfl, fun _ => rfl⟩) ⟨rfl, fun _ => ih⟩ _
  | arrayItem typed array child inside ih =>
      intro levels path
      refine compileField_array_congr typed (eq_of_resolve? array) (by rw [child]; rfl)
        fun levels => compileAlternatives_congr ?_
      exact forall₂_replace (fun _ _ => rfl) (fun _ => ih) _

theorem compileField_eq_of_eqvGen
    (h : Relation.EqvGen (Respells r fun v => r.contains v = false) raw raw') :
    compileField r limit levels path raw = compileField r limit levels path raw' := by
  induction h with
  | rel raw raw' h => exact compileField_eq_of_respells h
  | refl raw => rfl
  | symm raw raw' _ ih => exact ih.symm
  | trans raw raw' raw'' _ _ ih ih' => exact ih.trans ih'

/-- **The compiler does not tell spellings apart.** Over any registry, raw fields
that are rewritten into each other step by step, at any depth, are compiled to
one field or rejected with one defect at one path, at every path and with any
levels left; and so are schemas whose fields are rewritten under their names. -/
theorem compile_eq_of_respelled (r : Registry) (limit : Int) (path : Option String) :
    (∀ levels raw raw',
      Relation.EqvGen (Respells r fun v => r.contains v = false) raw raw' →
      compileField r limit levels path raw = compileField r limit levels path raw') ∧
    ∀ kind kind' entries entries',
      List.Forall₂ (fun e e' => e.1 = e'.1 ∧
        Relation.EqvGen (Respells r fun v => r.contains v = false) e.2 e'.2)
        entries entries' →
      compileSchema r limit path (.mapping kind entries)
        = compileSchema r limit path (.mapping kind' entries') := by
  refine ⟨fun _ _ _ h => compileField_eq_of_eqvGen h, fun _ _ _ _ h => ?_⟩
  exact compileFields_congr (h.imp fun e e' he =>
    ⟨he.1, fun _ => compileField_eq_of_eqvGen he.2⟩)

end

/-- A list of texts in short form and in full. -/
theorem compile_eq_of_respelled_full :
    compileField .builtin 3 3 none (.dict [(.text "a", .list [.classObject .text])])
      = compileField .builtin 3 3 none (.dict [(.text "a", .dict [(.text "type", .text "array"),
          (.text "child", .list [.dict [(.text "type", .classObject .text)]])])]) := by
  refine (compile_eq_of_respelled .builtin 3 none).1 3 _ _ (.trans _ (.dict [(.text "a",
    .list [.dict [(.text "type", .classObject .text)]])]) _ (.rel _ _ ?_) (.rel _ _ ?_))
  · have hitem : Respells .builtin (fun v => Registry.builtin.contains v = false)
        (.list [.classObject .text]) (.list [.dict [(.text "type", .classObject .text)]]) :=
      @Respells.item _ _ .list [] [] _ _ (by rw [Registry.builtin_eq]; cbv)
        (by rw [Registry.builtin_eq]; cbv)
        (.here (.verbose (by rw [Registry.builtin_eq]; cbv)))
    exact @Respells.field _ _ .plain [] [] (.text "a") _ _
      (by simp [Entries.option?_cons, Entries.option?_nil]) hitem
  · exact @Respells.field _ _ .plain [] [] (.text "a") _ _
      (by simp [Entries.option?_cons, Entries.option?_nil]) (.here
        (.alternatives (by rw [Registry.builtin_eq]; cbv)))

/-- The built-in types and one for pairs of a text and a number, whose alias is
the tuple that such a pair would be written with. -/
def pairs : Registry :=
  (Registry.builtin.register (.text "pair") (.capability .anything)
    (.list [.sequence .tuple [.classObject .text, .text "number"]])).1

/-- A tuple that becomes an alias when it is rewritten inside stands for another
type then. -/
theorem compile_ne_of_respelled_alias :
    ¬ ∀ r : Registry, r.Reachable (fun _ => True) →
      r.capability? Capability.objectTag = some Capability.object →
      r.capability? Capability.arrayTag = some Capability.array →
      ∀ limit levels path raw raw', Relation.EqvGen (Respells r fun _ => True) raw raw' →
        compileField r limit levels path raw = compileField r limit levels path raw' := by
  intro h
  have hstep : Respells pairs (fun _ => True)
      (.sequence .tuple [.classObject .text, .classObject .int])
      (.sequence .tuple [.classObject .text, .text "number"]) :=
    @Respells.item _ _ .tuple [.classObject .text] [] _ _ trivial trivial
      (.here (@Rewrites.name _ _ _ "number" (by rw [pairs, Registry.builtin_eq]; cbv)
        (by rw [pairs, Registry.builtin_eq]; cbv)))
  have hleft : compileField pairs 2 2 none
      (.sequence .tuple [.classObject .text, .classObject .int]) = .ok
        [(.text "type", .text "array"), (.text "child", .list
          [.dict [(.text "type", .text "string")], .dict [(.text "type", .text "number")]])] := by
    rw [pairs, Registry.builtin_eq]
    cbv
  have hright : compileField pairs 2 2 none
      (.sequence .tuple [.classObject .text, .text "number"])
        = .ok [(.text "type", .text "pair")] := by
    rw [pairs, Registry.builtin_eq]
    cbv
  have heq := h pairs (.register .seeded _ _ _ fun _ _ => Or.inr trivial) rfl rfl 2 2 none _ _
    (.rel _ _ hstep)
  simp [hleft, hright] at heq

end Compilation

end DataShape
