import DataShape.Proofs.Grammar

/-!
# How a schema is refused

What comes out of the compiler when no schema does. A rejection names a node: the
one that is given or one nested in it, reached through the parts of well-shaped
forms alone. There are other ways out. Three are in the check of the options of one
node: a property that is no text may have no path, the source of a pattern may be
refused by another complaint than a malformed one, and a pattern of bytes is not
searched for in the texts that a node lists. The others come from integers that are
too long to be written, as the name of a field or as the limit on nesting.

Nothing is asked of the raw schema here.
-/

namespace DataShape

open Entries (option? setOption keys)

namespace Compilation

/-! ## Nodes nested in a raw field -/

/-- A raw field at a place in the raw field at a path: that one itself, or one in
a part of its form. -/
inductive Nested : (path : Option String) → (raw : Value) → (place : Option String) →
    (node : Value) → Prop
  | here {path : Option String} {raw : Value} : Nested path raw path raw
  | inside {path place : Option String} {raw node : Value} {c : Capability} {form : Entries}
      {part : Option String × Value} (shape : HasShape raw c form)
      (among : part ∈ formPartsAt c path form) (below : Nested part.1 part.2 place node) :
      Nested path raw place node

/-- How the check of the options of a form breaks down instead of rejecting it. -/
inductive BreaksDown (place : Option String) (c : Capability) (form : Entries) : Fault → Prop
  /-- A property that is no text has no path: it cannot be put below another one, or
  it is too long to be written. -/
  | name {key : Value} {fault : Fault} (among : key ∈ keys form) (noText : ¬ key.IsText)
      (placeless : propertyPath place key = .error fault) : BreaksDown place c form fault
  /-- The source of a pattern is not malformed, but is refused all the same. -/
  | source {v : Value} {source : String} {complaint : Pattern.Complaint}
      (searches : c = Capability.string) (test : option? form "test" = some v)
      (text : v.text? = some source) (refused : Pattern.read (.text source) = .error complaint)
      (notMalformed : complaint.kind ≠ .pattern) :
      BreaksDown place c form (.badPattern source.toList complaint)
  /-- A text is listed beside a pattern that searches bytes. -/
  | bytes {p : Pattern} {kind : SequenceKind} {options : List Value} {o : Value}
      (searches : c = Capability.string) (test : option? form "test" = some (.pattern p))
      (notForText : p.source.isText = false)
      (listed : option? form "enum" = some (.sequence kind options)) (among : o ∈ options)
      (text : o.IsText) : BreaksDown place c form .bytesPattern

/-- A node is rejected at its place, or the check of its options breaks down, or an
integer is too long for a message about it. -/
inductive Refuses (limit : Int) (place : Option String) (node : Value) : Fault → Prop
  | rejects {defect : Defect} : Refuses limit place node (.rejected defect (Path.toValue place))
  | breaks {c : Capability} {form : Entries} {fault : Fault} (shape : HasShape node c form)
      (breaksDown : BreaksDown place c form fault) : Refuses limit place node fault
  | longName {c : Capability} {form : Entries} {name : Value} (shape : HasShape node c form)
      (object : c.name = Capability.objectTag) (among : name ∈ keys (formFields form))
      (tooLong : name.isWritable = false) : Refuses limit place node .integerTooLong
  | longLimit (tooLong : Text.isTooLong limit = true) : Refuses limit place node .integerTooLong

section

variable {limit : Int} {levels : Nat} {path place : Option String} {raw node : Value}
  {c : Capability} {field form parts : Entries} {fault : Fault} {compile : FieldCompiler}

/-! ## The check of the options -/

/-- The check of a node rejects it at its own path, or breaks down. -/
def ChecksOrBreaks {α : Type} (path : Option String) (c : Capability) (form : Entries)
    (x : Except Fault α) : Prop :=
  FailsOnly x fun fault =>
    (∃ defect, fault = .rejected defect (Path.toValue path)) ∨ BreaksDown path c form fault

theorem failsOnly_reject {α : Type} (defect : Defect) :
    ChecksOrBreaks path c form (reject path defect : Except Fault α) :=
  .error (Or.inl ⟨defect, rfl⟩)

theorem failsOnly_of_settles {α : Type} {x : Except Fault α} (h : Settles path x) :
    ChecksOrBreaks path c form x := by
  rcases h with ⟨a, rfl⟩ | ⟨defect, rfl⟩
  · exact .ok
  · exact failsOnly_reject defect

/-- The induction is on the options, of which the form may have more. -/
theorem failsOnly_checkProperties (hkeys : ∀ key ∈ keys field, key ∈ keys form) :
    ChecksOrBreaks path c form (checkProperties c path field) := by
  induction field with
  | nil => exact .ok
  | cons e rest ih =>
      obtain ⟨hkey, hrest⟩ := List.forall_mem_cons.mp hkeys
      rw [checkProperties]
      split
      · exact ih hrest
      · refine .bind (fun fault hfault => Or.inr (.name hkey (fun htext => ?_) hfault))
          fun _ _ => failsOnly_reject _
        obtain ⟨place, hplace⟩ := propertyPath_of_isText path htext
        simp [hplace] at hfault

theorem failsOnly_compileTest :
    ChecksOrBreaks path .string field (Capability.compileTest field path) := by
  unfold Capability.compileTest
  split
  · exact .ok
  · exact .ok
  · rename_i v _ htest
    split
    · exact failsOnly_reject _
    · rename_i source hsource
      split
      · exact .ok
      · exact failsOnly_reject _
      · rename_i complaint hcomplaint hread
        refine .error (Or.inr (.source rfl htest hsource hread fun hkind => ?_))
        cases complaint with
        | fault cause position => exact hcomplaint cause position rfl
        | _ => cases hkind

theorem failsOnly_checkField_type (hc : c ∈ Capability.builtins) :
    ChecksOrBreaks path c field (c.checkField field path) := by
  cases hc using Capability.builtins_cases with
  | string => exact failsOnly_compileTest
  | number => exact failsOnly_of_settles settles_number_checkField
  | _ => exact .ok

/-- The verdict on a value under kept options is undefined only for a text that
is searched by a pattern of bytes. -/
theorem failsOnly_string_accepts {kept : Entries}
    (hkept : Capability.string.checkField field path = .ok kept) (v : Value) :
    FailsOnly (Capability.string.accepts v kept) fun fault => fault = .bytesPattern ∧ v.IsText ∧
      ∃ p, option? field "test" = some (.pattern p) ∧ p.source.isText = false := by
  simp only [Capability.string]
  cases hv : v.text? with
  | none => exact .ok
  | some s =>
      dsimp only
      rcases Capability.of_compileTest_eq_ok hkept with ⟨rfl, hpattern⟩ |
        ⟨w, source, p, -, -, hread, rfl⟩
      · cases htest : option? kept "test" with
        | none => exact .ok
        | some w =>
            obtain ⟨p, rfl⟩ := hpattern w htest
            simp only [Option.getD_some, Capability.passesTest]
            split
            · exact .ok
            · rename_i hbytes
              exact .error ⟨rfl, ⟨s, hv⟩, p, rfl, by simpa using hbytes⟩
      · have hp : p.source.isText = true := by
          rw [Pattern.source_of_read hread]
          rfl
        simp only [Entries.option?_setOption_self, Option.getD_some, Capability.passesTest, hp,
          if_true]
        exact .ok

theorem failsOnly_checkOptions {options : List Value} {E : Fault → Prop}
    (hrejected : ∀ defect, E (.rejected defect (Path.toValue path)))
    (haccepts : ∀ o ∈ options, FailsOnly (c.accepts o field) E) {i : Nat} :
    FailsOnly (checkOptions c path field i options) E := by
  induction options generalizing i with
  | nil => exact .ok
  | cons v rest ih =>
      obtain ⟨hv, hrest⟩ := List.forall_mem_cons.mp haccepts
      rw [checkOptions]
      refine hv.bind fun accepted _ => ?_
      split
      · exact ih hrest
      · exact .error (hrejected _)

theorem failsOnly_accepts {kept : Entries} (hc : c ∈ Capability.builtins)
    (hlists : "enum" ∈ c.properties) (hkept : c.checkField field path = .ok kept)
    {kind : SequenceKind} {options : List Value}
    (hoptions : option? kept "enum" = some (.sequence kind options)) :
    ∀ o ∈ options, ChecksOrBreaks path c field (c.accepts o kept) := by
  have henum : option? kept "enum" = option? field "enum" :=
    (Capability.regular_of_builtin hc).option?_checkField hkept (by decide)
  intro o ho
  cases hc using Capability.builtins_cases with
  | string =>
      intro fault hfault
      obtain ⟨rfl, htext, p, htest, hp⟩ := failsOnly_string_accepts hkept o fault hfault
      exact Or.inr (.bytes rfl htest hp (henum.symm.trans hoptions) ho htext)
  | date | object | array => exact absurd hlists (by decide)
  | _ => exact .ok

theorem failsOnly_checkEnum {kept : Entries} (hc : c ∈ Capability.builtins)
    (hknown : ∀ key ∈ keys field, c.Declares key)
    (htype : option? field "type" = some (.text c.name))
    (hkept : c.checkField field path = .ok kept) :
    ChecksOrBreaks path c field (checkEnum .builtin path kept) := by
  have hsame : ∀ {name}, name ≠ "test" → option? kept name = option? field name :=
    (Capability.regular_of_builtin hc).option?_checkField hkept
  unfold checkEnum
  split
  · exact .ok
  · rename_i kind options hoptions
    have hlists : "enum" ∈ c.properties := by
      by_contra hunlisted
      rw [hsame (by decide), Capability.option?_eq_none_of_not_declared hknown (by decide)
        hunlisted] at hoptions
      cases hoptions
    rw [checkListed_of_lookup? ((hsame (by decide)).trans htype)
      (Registry.lookup?_builtin_text hc)]
    exact .bind (failsOnly_checkOptions (fun defect => Or.inl ⟨defect, rfl⟩)
      (failsOnly_accepts hc hlists hkept hoptions)) fun _ _ => .ok
  · exact failsOnly_reject _

theorem failsOnly_checkField (hc : c ∈ Capability.builtins)
    (htype : option? field "type" = some (.text c.name)) :
    ChecksOrBreaks path c field (checkField .builtin c path field) := by
  unfold checkField
  refine (failsOnly_checkProperties fun _ hkey => hkey).bind fun _ hknown => ?_
  refine (failsOnly_of_settles settles_checkRequired).bind fun _ _ => ?_
  exact (failsOnly_checkField_type hc).bind fun kept hkept =>
    failsOnly_checkEnum hc (checkProperties_eq_ok.mp hknown) htype hkept

/-- The options of a form with compiled parts break down as those of the form do. -/
theorem BreaksDown.of_parts (hexpand : expand? .builtin raw = some form)
    (hparts : compileChildren compile path c.name (setOption form "type" (.text c.name))
      = .ok parts) (h : BreaksDown path c parts fault) : BreaksDown path c form fault := by
  have hother : ∀ {name}, name ≠ "type" → name ≠ "child" →
      option? parts name = option? form name := option?_parts hparts
  cases h with
  | @name key _ among noText placeless =>
      refine .name ?_ noText placeless
      rw [keys_parts hexpand hparts] at among
      refine (List.mem_append.mp among).resolve_right fun hchild => noText ?_
      split at hchild
      · rw [List.mem_singleton.mp hchild]
        exact Value.isText_text _
      · simp at hchild
  | source searches test text refused notMalformed =>
      rw [hother (by decide) (by decide)] at test
      exact .source searches test text refused notMalformed
  | bytes searches test notForText listed among text =>
      rw [hother (by decide) (by decide)] at test listed
      exact .bytes searches test notForText listed among text

/-! ## What comes out instead of a schema -/

/-- A fault comes from a node nested in the raw field. -/
def RefusedWithin (limit : Int) (path : Option String) (raw : Value) (fault : Fault) : Prop :=
  ∃ place node, Nested path raw place node ∧ Refuses limit place node fault

theorem RefusedWithin.rejects {defect : Defect} :
    RefusedWithin limit path raw (.rejected defect (Path.toValue path)) :=
  ⟨path, raw, .here, .rejects⟩

theorem RefusedWithin.inside {part : Option String × Value} (hshape : HasShape raw c form)
    (hpart : part ∈ formPartsAt c path form) (h : RefusedWithin limit part.1 part.2 fault) :
    RefusedWithin limit path raw fault := by
  obtain ⟨place, node, hnested, hrefuses⟩ := h
  exact ⟨place, node, .inside hshape hpart hnested, hrefuses⟩

/-- A computation over parts in their order fails as one of the parts does. -/
theorem InOrder.failsOnly {α : Type} {x : Except Fault α} {E : Fault → Prop}
    {parts : List (Option String × Value)} (h : InOrder compile parts x)
    (hparts : ∀ part ∈ parts, FailsOnly (compile part.1 part.2) E) : FailsOnly x E := by
  cases h with
  | all each => exact .ok
  | @upTo before after part fault fine stops => exact .error (hparts part (by simp) fault stops)

/-- A value that is asked for its text refuses only because of a long integer in it. -/
theorem failsOnly_checkWritable {E : Fault → Prop} {v : Value}
    (hlong : v.isWritable = false → E .integerTooLong) : FailsOnly v.checkWritable E := by
  unfold Value.checkWritable
  split
  · exact .ok
  · rename_i htold
    exact .error (hlong (by simpa using htold))

/-- The fields of an object fail as one of them does, unless a name is too long. -/
theorem failsOnly_compileFields {E : Fault → Prop} : ∀ {entries : Entries},
    (∀ name ∈ keys entries, name.isWritable = false → E .integerTooLong) →
    (∀ part ∈ fieldsAt path entries, FailsOnly (compile part.1 part.2) E) →
    FailsOnly (compileFields compile path entries) E
  | [], _, _ => .ok
  | (name, _) :: rest, hlong, hparts => by
      obtain ⟨hname, hnames⟩ := List.forall_mem_cons.mp hlong
      obtain ⟨hpart, hrest⟩ := List.forall_mem_cons.mp hparts
      exact (failsOnly_checkWritable hname).bind fun _ _ => hpart.bind fun _ _ =>
        (failsOnly_compileFields hnames hrest).bind fun _ _ => .ok

/-- The parts of a well-shaped form fail as one of them does, unless a name is too long. -/
theorem HasShape.failsOnly_children {E : Fault → Prop} (hshape : HasShape raw c form)
    (hlong : c.name = Capability.objectTag → ∀ name ∈ keys (formFields form),
      name.isWritable = false → E .integerTooLong)
    (hbelow : ∀ part ∈ formPartsAt c path form, FailsOnly (compile part.1 part.2) E) :
    FailsOnly (compileChildren compile path c.name (setOption form "type" (.text c.name))) E := by
  by_cases hobject : c.name = Capability.objectTag
  · obtain ⟨kind, entries, hchild⟩ := hshape.object hobject
    obtain rfl := Registry.eq_object_of_lookup?_builtin hshape.names hobject
    have hnames := hlong rfl
    rw [formFields, hchild] at hnames
    rw [formPartsAt_object hchild] at hbelow
    rw [compileChildren, if_pos hobject,
      Entries.option?_setOption_of_ne form _ (show "child" ≠ "type" by decide), hchild]
    exact (failsOnly_compileFields hnames hbelow).bind fun _ _ => .ok
  · exact (hshape.inOrder fun h => absurd h hobject).failsOnly hbelow

/-- A well-shaped form fails within its parts or at its own options. -/
theorem HasShape.failsOnly (hshape : HasShape raw c form) (hc : c ∈ Capability.builtins)
    (hbelow : ∀ part ∈ formPartsAt c path form,
      FailsOnly (compile part.1 part.2) (RefusedWithin limit part.1 part.2)) :
    FailsOnly
      (compileChildren compile path c.name (setOption form "type" (.text c.name)) >>=
        fun parts => checkField .builtin c path parts) (RefusedWithin limit path raw) := by
  refine .bind (hshape.failsOnly_children (fun hobject name hname hlong => ?_)
    fun part hpart fault hfault => ?_) fun parts hparts fault hfault => ?_
  · exact ⟨path, raw, .here, .longName hshape hobject hname hlong⟩
  · exact (hbelow part hpart fault hfault).inside hshape hpart
  · rcases failsOnly_checkField hc (type_compileChildren hparts) fault hfault with
      ⟨defect, rfl⟩ | hbreaks
    · exact .rejects
    · exact ⟨path, raw, .here, .breaks hshape (hbreaks.of_parts hshape.expands hparts)⟩

/-- The induction is on the levels: a fault is one of the node or of a part. -/
theorem failsOnly_compileField : ∀ {levels : Nat} {path : Option String} {raw : Value},
    FailsOnly (compileField .builtin limit levels path raw) (RefusedWithin limit path raw)
  | 0, path, raw => by
      rw [compileField, rejectDepth]
      split
      · rename_i hlong
        exact .error ⟨path, raw, .here, .longLimit hlong⟩
      · exact .error .rejects
  | levels + 1, path, raw => by
      rw [compileField]
      split
      · exact .error .rejects
      · rename_i form hexpand
        split
        · exact .error .rejects
        · rename_i tag hresolve
          split
          · exact .error .rejects
          · rename_i c hregistered
            obtain ⟨hc, rfl⟩ := Registry.of_capability?_builtin hregistered
            have hnames := Registry.lookup?_builtin_eq_some_iff.mpr ⟨hresolve, hregistered⟩
            by_cases hshape : HasShape raw c form
            · exact hshape.failsOnly hc fun part _ => failsOnly_compileField
            · obtain ⟨defect, hdefect⟩ :
                  ∃ defect, compileChildren (compileField .builtin limit levels) path c.name
                    (setOption form "type" (.text c.name)) = reject path defect :=
                compileChildren_of_shapeless hexpand hnames hshape
              dsimp only
              rw [hdefect]
              exact .error .rejects

/-- **A schema that is not compiled is rejected at a node, or something about a node
cannot be told.** With the built-in types, for every raw value, path, limit and
number of levels: a fault of the compiler for fields is a rejection at the path or
at the path of a nested node, unless the options of such a node break down, or the
name of a field in it or the limit is too long to be written. The compiler for
schemas fails in the same way within one of its fields or for the name of one; it
rejects what is no mapping at the path itself. -/
theorem refused_within (limit : Int) (path : Option String) (raw : Value) :
    (∀ levels fault, compileField .builtin limit levels path raw = .error fault →
      ∃ place node, Nested path raw place node ∧ Refuses limit place node fault) ∧
    ∀ fault, compileSchema .builtin limit path raw = .error fault →
      (raw.entries? = none ∧ fault = .rejected .notMapping (Path.toValue path)) ∨
      ∃ kind entries, raw = .mapping kind entries ∧
        ((∃ name ∈ keys entries, name.isWritable = false ∧ fault = .integerTooLong) ∨
          ∃ part ∈ fieldsAt path entries,
            ∃ place node, Nested part.1 part.2 place node ∧ Refuses limit place node fault) := by
  refine ⟨fun levels fault hfault => failsOnly_compileField fault hfault, fun fault hfault => ?_⟩
  cases raw with
  | mapping kind entries =>
      have hfields : FailsOnly (compileSchema .builtin limit path (.mapping kind entries))
          fun fault => (∃ name ∈ keys entries, name.isWritable = false ∧ fault = .integerTooLong) ∨
            ∃ part ∈ fieldsAt path entries, RefusedWithin limit part.1 part.2 fault :=
        failsOnly_compileFields (fun name hname hlong => Or.inl ⟨name, hname, hlong, rfl⟩)
          fun part hpart fault hfault =>
            Or.inr ⟨part, hpart, failsOnly_compileField fault hfault⟩
      exact Or.inr ⟨kind, entries, rfl, hfields fault hfault⟩
  | _ => exact Or.inl ⟨rfl, (Except.error.inj hfault).symm⟩

/-- A property that is a number breaks a field that stands below the outermost
level, where one that is a text is rejected. -/
theorem not_rejected_of_numbered_property :
    compileSchema .builtin 64 none (.dict [(.text "f", .dict [(.text "type", .text "string"),
        (.int 1, .int 2)])]) = .error (.noMember (.int 1) "startswith") ∧
      compileSchema .builtin 64 none (.dict [(.text "f", .dict [(.text "type", .text "string"),
        (.text "1", .int 2)])]) = .error (.rejected (.unknownProperty "f.1") (.text "f")) := by
  constructor
  · rw [Registry.builtin_eq]
    cbv
  · rw [Registry.builtin_eq]
    cbv

end

end Compilation

end DataShape
