import DataShape.Proofs.Conformance
import DataShape.Proofs.FixedPoint
import DataShape.Proofs.Totality

/-!
# Relaxing a schema

A schema is relaxed by changes that only take demands back: a field is no longer
required or no longer limited to options or to a pattern, numbers may be given as
texts, an object may hold one more field, an array has further alternatives or none
at all. A change may be made at any depth, in the fields of objects and in the
alternatives of arrays.

Each single change keeps the values that conform. It need not lead to a canonical
schema, only the last one has to: there the check of a value goes through, and finds
nothing.
-/

namespace DataShape

open Entries (option? setOption keys fields alternatives isOn)

/-! ## Fields without an option -/

namespace Entries

/-- A field without an option. -/
def without (field : Entries) (name : String) : Entries :=
  field.filter fun e => e.1.text? ≠ some name

@[simp] theorem option?_without_self (field : Entries) (name : String) :
    option? (without field name) name = none := by
  refine option?_eq_none_iff.mpr fun key hkey => ?_
  obtain ⟨e, he, rfl⟩ := List.mem_map.mp hkey
  simpa using (List.mem_filter.mp he).2

theorem option?_without_of_ne (field : Entries) {name other : String} (hne : other ≠ name) :
    option? (without field name) other = option? field other := by
  induction field with
  | nil => rfl
  | cons e rest ih =>
      rw [without, List.filter_cons]
      split
      · rw [option?_cons, option?_cons]
        split
        · rfl
        · exact ih
      · rename_i hdropped
        have hname : e.1.text? = some name := by simpa using hdropped
        rw [option?_cons, hname, if_neg (by simpa using hne.symm)]
        exact ih

theorem isOn_of_option?_eq {field field' : Entries} {name : String}
    (h : option? field' name = option? field name) : isOn field' name = isOn field name := by
  rw [isOn, isOn, h]

end Entries

/-! ## Changes -/

/-- A demand on the value itself, or on the number of alternatives, is taken back. -/
inductive Widens (field : Entries) : (field' : Entries) → Prop
  | dropRequired : Widens field (field.without "required")
  | makeOptional : Widens field (setOption field "required" (.bool false))
  | dropEnum : Widens field (field.without "enum")
  | appendOptions {options more : List Value} (listed : option? field "enum" = some (.list options)) :
      Widens field (setOption field "enum" (.list (options ++ more)))
  | dropTest : Widens field (field.without "test")
  | coerce : Widens field (setOption field "coerce" (.bool true))
  | appendAlternatives {items more : List Value}
      (array : Entries.tag? field = some Capability.arrayTag)
      (child : option? field "child" = some (.list items)) (bound : items ≠ []) :
      Widens field (setOption field "child" (.list (items ++ more)))
  | anyElements (array : Entries.tag? field = some Capability.arrayTag) :
      Widens field (setOption field "child" (.list []))

mutual

/-- One change to a field, or to a field in it. -/
inductive Relaxes : (field field' : Entries) → Prop
  | here {field field' : Entries} (widens : Widens field field') : Relaxes field field'
  | inObject {field fs fs' : Entries} (object : Entries.tag? field = some Capability.objectTag)
      (child : option? field "child" = some (.dict fs)) (change : RelaxesFields fs fs') :
      Relaxes field (setOption field "child" (.dict fs'))
  | inArray {field choice choice' : Entries} {before after : List Value}
      (array : Entries.tag? field = some Capability.arrayTag)
      (child : option? field "child" = some (.list (before ++ .dict choice :: after)))
      (change : Relaxes choice choice') :
      Relaxes field (setOption field "child" (.list (before ++ .dict choice' :: after)))

/-- One change to the fields of an object: a further field that is not required is
declared, or one of the fields is changed. -/
inductive RelaxesFields : (schema schema' : Entries) → Prop
  | declare {before after extra : Entries} {key : Value} {name : String}
      (text : key.text? = some name) (new : option? (before ++ after) name = none)
      (optional : isOn extra "required" = false) :
      RelaxesFields (before ++ after) (before ++ (key, .dict extra) :: after)
  | inField {before after field field' : Entries} {key : Value} (change : Relaxes field field') :
      RelaxesFields (before ++ (key, .dict field) :: after) (before ++ (key, .dict field') :: after)

end

/-! ## What a change keeps -/

section

variable {c : Capability} {field field' : Entries} {value : Value} {kind : MappingKind}

/-- A field demands no more than another one, of a value and of its parts. -/
structure DemandsNoMore (field' field : Entries) : Prop where
  type : option? field' "type" = option? field "type"
  required : isOn field' "required" = true → isOn field "required" = true
  accepts : ∀ c ∈ Capability.builtins, ∀ v, c.accepts v field = .ok true →
    c.accepts v field' = .ok true
  listed : ∀ v, IsListed v field → IsListed v field'
  object : Entries.tag? field = some Capability.objectTag → ∀ v,
    ConformsToObject .builtin v (fields field) → ConformsToObject .builtin v (fields field')
  array : Entries.tag? field = some Capability.arrayTag → alternatives field' ≠ [] →
    alternatives field ≠ [] ∧ ∀ element, ConformsToSome .builtin element (alternatives field) →
      ConformsToSome .builtin element (alternatives field')

/-- What counts as given goes by the verdict of the type, or looks at the value alone. -/
theorem isEmpty_of_accepts (hc : c ∈ Capability.builtins)
    (haccepts : c.accepts value field = .ok true → c.accepts value field' = .ok true)
    (h : c.isEmpty value field = .ok false) : c.isEmpty value field' = .ok false := by
  have hdefault : ∀ {accepted accepted' : Except Fault Bool},
      (accepted = .ok true → accepted' = .ok true) →
      accepted.map not = .ok false → accepted'.map not = .ok false := by
    intro accepted accepted' himp hnot
    cases accepted with
    | error fault => simp [Except.map] at hnot
    | ok b =>
        cases b with
        | false => simp [Except.map] at hnot
        | true =>
            rw [himp rfl]
            rfl
  cases hc using Capability.builtins_cases with
  | string => exact h
  | _ =>
      cases value with
      | missing => simp [Capability.number, Capability.boolean, Capability.date,
          Capability.object, Capability.array] at h
      | _ => exact hdefault haccepts h

theorem DemandsNoMore.tag?_eq (h : DemandsNoMore field' field) :
    Entries.tag? field' = Entries.tag? field := by
  rw [Entries.tag?, Entries.tag?, h.type]

/-- Less demands let no value fail. -/
theorem DemandsNoMore.conforms (h : DemandsNoMore field' field)
    (hv : Conforms .builtin value (.mapping kind field)) :
    Conforms .builtin value (.mapping kind field') := by
  cases hv with
  | absent optional =>
      refine .absent ?_
      cases hrequired : isOn field' "required" with
      | false => rfl
      | true => simp [h.required hrequired] at optional
  | @present _ _ _ c there passes filled object array =>
      obtain ⟨tag, -, hregistered⟩ := Option.bind_eq_some_iff.mp passes.known
      have hc := (Registry.of_capability?_builtin hregistered).1
      have hpasses : Passes .builtin c value field' :=
        { known := h.type ▸ passes.known
          given := fun hrequired => isEmpty_of_accepts hc (h.accepts c hc value)
            (passes.given (h.required hrequired))
          accepted := h.accepts c hc value passes.accepted
          listed := h.listed value passes.listed }
      refine .present there hpasses ?_ ?_ ?_
      · rw [h.tag?_eq]
        exact fun htag hleft => filled htag ⟨h.required hleft.1, hleft.2⟩
      · rw [h.tag?_eq]
        exact fun htag => h.object htag value (object htag)
      · rw [h.tag?_eq]
        intro htag hbound element hmem
        obtain ⟨hbefore, hsome⟩ := h.array htag hbound
        exact hsome element (array htag hbefore element hmem)

/-- The built-in types look at `test` and `coerce`: no test is passed by every text,
and the class of numbers does not matter where texts may denote them. -/
theorem accepts_of_options (hc : c ∈ Capability.builtins)
    (htest : option? field' "test" = none ∨ option? field' "test" = option? field "test")
    (hcoerce : isOn field' "coerce" = true ∨ isOn field' "coerce" = isOn field "coerce")
    (h : c.accepts value field = .ok true) : c.accepts value field' = .ok true := by
  cases hc using Capability.builtins_cases with
  | string =>
      simp only [Capability.string] at h ⊢
      cases htext : value.text? with
      | none => simp [htext] at h
      | some s =>
          rw [htext] at h
          rcases htest with hnone | hsame
          · rw [hnone]
            rfl
          · rw [hsame]
            exact h
  | number =>
      rcases hcoerce with hon | hsame
      · simp only [Capability.number, hon, Except.ok.injEq] at h ⊢
        cases htext : value.text? with
        -- a value that is no text is judged by its class, with `coerce` or without
        | none => cases hbefore : isOn field "coerce" <;> simpa [hbefore, htext] using h
        | some s =>
            cases hbefore : isOn field "coerce" with
            | true => simpa [hbefore, htext] using h
            | false =>
                have hnumber : Capability.isNumber value = true := by simpa [hbefore] using h
                rcases Value.eq_of_text?_eq_some htext with rfl | rfl
                all_goals simp [Capability.isNumber] at hnumber
      · simp only [Capability.number, hsame] at h ⊢
        exact h
  | _ => exact h

/-- A change to one option other than the type and the parts. -/
theorem demandsNoMore_of_option (name : String) (htype : "type" ≠ name) (hchild : "child" ≠ name)
    (hother : ∀ other, other ≠ name → option? field' other = option? field other)
    (hrequired : name = "required" → isOn field' "required" = false)
    (htest : name = "test" → option? field' "test" = none)
    (hcoerce : name = "coerce" → isOn field' "coerce" = true)
    (hlisted : name = "enum" → ∀ v, IsListed v field → IsListed v field') :
    DemandsNoMore field' field where
  type := hother _ htype
  required := by
    intro h
    by_cases hname : "required" = name
    · simp [hrequired hname.symm] at h
    · rwa [← Entries.isOn_of_option?_eq (hother _ hname)]
  accepts := by
    intro c hc v
    refine accepts_of_options hc ?_ ?_
    · by_cases hname : "test" = name
      · exact Or.inl (htest hname.symm)
      · exact Or.inr (hother _ hname)
    · by_cases hname : "coerce" = name
      · exact Or.inl (hcoerce hname.symm)
      · exact Or.inr (Entries.isOn_of_option?_eq (hother _ hname))
  listed := by
    intro v hv
    by_cases hname : "enum" = name
    · exact hlisted hname.symm v hv
    · rwa [IsListed, hother _ hname]
  object := by
    intro _ v hv
    rwa [fields, Entries.tag?, hother _ htype, hother _ hchild]
  array := by
    intro _ hbound
    have hsame : alternatives field' = alternatives field := by
      rw [alternatives, alternatives, Entries.tag?, Entries.tag?, hother _ htype, hother _ hchild]
    rw [hsame] at hbound ⊢
    exact ⟨hbound, fun _ helement => helement⟩

/-- A change to the parts of a field. -/
theorem demandsNoMore_of_child {v : Value}
    (hobject : Entries.tag? field = some Capability.objectTag → ∀ w,
      ConformsToObject .builtin w (fields field) →
        ConformsToObject .builtin w (fields (setOption field "child" v)))
    (harray : Entries.tag? field = some Capability.arrayTag →
      alternatives (setOption field "child" v) ≠ [] →
      alternatives field ≠ [] ∧ ∀ element, ConformsToSome .builtin element (alternatives field) →
        ConformsToSome .builtin element (alternatives (setOption field "child" v))) :
    DemandsNoMore (setOption field "child" v) field := by
  have hother : ∀ {name}, name ≠ "child" →
      option? (setOption field "child" v) name = option? field name :=
    fun hne => Entries.option?_setOption_of_ne field v hne
  refine ⟨hother (by decide), fun h => ?_, fun c hc w => ?_, fun w hw => ?_, hobject, harray⟩
  · rwa [← Entries.isOn_of_option?_eq (hother (show "required" ≠ "child" by decide))]
  · exact accepts_of_options hc (Or.inr (hother (by decide)))
      (Or.inr (Entries.isOn_of_option?_eq (hother (by decide))))
  · rwa [IsListed, hother (by decide)]

theorem anyEquals_append {v : Value} {more : List Value} : ∀ {options : List Value},
    v.anyEquals options = .ok true → v.anyEquals (options ++ more) = .ok true
  | [], h => by simp [Value.anyEquals] at h
  | option :: rest, h => by
      rw [Value.anyEquals] at h
      rw [List.cons_append, Value.anyEquals]
      obtain ⟨same, hsame, h⟩ := bind_eq_ok.mp h
      refine bind_eq_ok.mpr ⟨same, hsame, ?_⟩
      cases same with
      | true => rfl
      | false => exact anyEquals_append h

theorem isListed_of_appended {v : Value} {options more : List Value}
    (h : option? field "enum" = some (.list options))
    (h' : option? field' "enum" = some (.list (options ++ more))) (hv : IsListed v field) :
    IsListed v field' := by
  rcases hv with hnone | hnull | ⟨listed, hlisted, hmem⟩
  · simp [h] at hnone
  · simp [h] at hnull
  · obtain rfl : Value.list options = listed := Option.some.inj (h.symm.trans hlisted)
    exact Or.inr (Or.inr ⟨_, h', anyEquals_append hmem⟩)

theorem alternatives_setOption_child {items : List Value}
    (htag : Entries.tag? field = some Capability.arrayTag) :
    alternatives (setOption field "child" (.list items)) = items := by
  refine Entries.alternatives_of_child ?_ (Entries.option?_setOption_self _ _ _)
  rwa [Entries.tag?, Entries.option?_setOption_of_ne _ _ (by decide)]

theorem fields_setOption_child {fs : Entries}
    (htag : Entries.tag? field = some Capability.objectTag) :
    fields (setOption field "child" (.dict fs)) = fs := by
  refine Entries.fields_of_child ?_ (Entries.option?_setOption_self _ _ _)
  rwa [Entries.tag?, Entries.option?_setOption_of_ne _ _ (by decide)]

/-- Other alternatives demand no more if they are none, or if there were some and
what matched one of them still matches one. -/
theorem demandsNoMore_of_alternatives {items items' : List Value}
    (htag : Entries.tag? field = some Capability.arrayTag)
    (hchild : option? field "child" = some (.list items))
    (h : items' ≠ [] → items ≠ [] ∧ ∀ element, ConformsToSome .builtin element items →
      ConformsToSome .builtin element items') :
    DemandsNoMore (setOption field "child" (.list items')) field := by
  refine demandsNoMore_of_child (fun hobject => absurd htag (Entries.tag?_ne_array hobject))
    fun _ => ?_
  rw [alternatives_setOption_child htag, Entries.alternatives_of_child htag hchild]
  exact h

theorem ConformsToSome.append {element : Value} {choices more : List Value}
    (h : ConformsToSome .builtin element choices) :
    ConformsToSome .builtin element (choices ++ more) := by
  obtain ⟨choice, hmem, hconforms⟩ := conformsToSome_iff.mp h
  exact .alternative (List.mem_append_left _ hmem) hconforms

/-- Each demand that is taken back leaves the others as they were. -/
theorem Widens.demandsNoMore (h : Widens field field') : DemandsNoMore field' field := by
  have hwithout : ∀ {name} other, other ≠ name →
      option? (field.without name) other = option? field other :=
    fun _ hne => Entries.option?_without_of_ne field hne
  have hset : ∀ {name v} other, other ≠ name →
      option? (setOption field name v) other = option? field other :=
    fun _ hne => Entries.option?_setOption_of_ne field _ hne
  cases h with
  | dropRequired =>
      refine demandsNoMore_of_option "required" (by decide) (by decide) hwithout
        (fun _ => ?_) (absurd · (by decide)) (absurd · (by decide)) (absurd · (by decide))
      rw [isOn, Entries.option?_without_self]
  | makeOptional =>
      refine demandsNoMore_of_option "required" (by decide) (by decide) hset
        (fun _ => ?_) (absurd · (by decide)) (absurd · (by decide)) (absurd · (by decide))
      rw [isOn, Entries.option?_setOption_self]
  | dropEnum =>
      exact demandsNoMore_of_option "enum" (by decide) (by decide) hwithout
        (absurd · (by decide)) (absurd · (by decide)) (absurd · (by decide))
        fun _ _ _ => Or.inl (Entries.option?_without_self _ _)
  | appendOptions listed =>
      exact demandsNoMore_of_option "enum" (by decide) (by decide) hset
        (absurd · (by decide)) (absurd · (by decide)) (absurd · (by decide))
        fun _ _ => isListed_of_appended listed (Entries.option?_setOption_self _ _ _)
  | dropTest =>
      exact demandsNoMore_of_option "test" (by decide) (by decide) hwithout
        (absurd · (by decide)) (fun _ => Entries.option?_without_self _ _)
        (absurd · (by decide)) (absurd · (by decide))
  | coerce =>
      refine demandsNoMore_of_option "coerce" (by decide) (by decide) hset
        (absurd · (by decide)) (absurd · (by decide)) (fun _ => ?_) (absurd · (by decide))
      rw [isOn, Entries.option?_setOption_self]
  | appendAlternatives array child bound =>
      exact demandsNoMore_of_alternatives array child fun _ =>
        ⟨bound, fun _ helement => helement.append⟩
  | anyElements array =>
      refine demandsNoMore_of_child (fun hobject => absurd array (Entries.tag?_ne_array hobject))
        fun _ hbound => ?_
      exact absurd (alternatives_setOption_child array) hbound

end

/-! ## All changes -/

section

variable {schema schema' field field' : Entries} {value : Value}

theorem contains_iff {entries : Entries} {key : Value} :
    Entries.contains entries key = true ↔ ∃ e ∈ entries, key.sameKey e.1 = true := by
  rw [Entries.contains, Entries.get?, Option.isSome_map, List.find?_isSome]

/-- A conforming value holds nothing under a name that is not declared. -/
theorem get?_eq_none_of_new {entries : Entries} {key : Value} {name : String}
    (htext : key.text? = some name) (hnew : option? schema name = none)
    (hknown : ∀ k ∈ keys entries, Entries.contains schema k = true) :
    Entries.get? entries key = none := by
  rw [Entries.get?, Option.map_eq_none_iff, List.find?_eq_none]
  intro e he hsame
  have hname : e.1.text? = some name := by
    simpa [Value.sameKey_of_text? htext] using hsame
  obtain ⟨e', he', hkey⟩ := contains_iff.mp (hknown e.1 (List.mem_map_of_mem he))
  rw [Value.sameKey_of_text? hname] at hkey
  exact Entries.option?_eq_none_iff.mp hnew e'.1 (List.mem_map_of_mem he') (by simpa using hkey)

theorem conformsToObject_of_declared {before after extra : Entries} {key : Value} {name : String}
    (htext : key.text? = some name) (hnew : option? (before ++ after) name = none)
    (hoptional : isOn extra "required" = false)
    (h : ConformsToObject .builtin value (before ++ after)) :
    ConformsToObject .builtin value (before ++ (key, .dict extra) :: after) := by
  cases h with
  | @mapping kind entries _ known declared =>
      refine .mapping (fun k hk => ?_) fun e he => ?_
      · obtain ⟨e, he, hsame⟩ := contains_iff.mp (known k hk)
        refine contains_iff.mpr ⟨e, ?_, hsame⟩
        rcases List.mem_append.mp he with he | he
        · exact List.mem_append_left _ he
        · exact List.mem_append_right _ (List.mem_cons_of_mem _ he)
      · rcases List.mem_append.mp he with he | he
        · exact declared e (List.mem_append_left _ he)
        · rcases List.mem_cons.mp he with rfl | he
          · rw [get?_eq_none_of_new htext hnew known]
            exact .absent hoptional
          · exact declared e (List.mem_append_right _ he)

/-- A change to the fields under one name leaves the names as they are. -/
theorem conformsToObject_of_changed {before after : Entries} {key part part' : Value}
    (hchange : ∀ v, Conforms .builtin v part → Conforms .builtin v part')
    (h : ConformsToObject .builtin value (before ++ (key, part) :: after)) :
    ConformsToObject .builtin value (before ++ (key, part') :: after) := by
  cases h with
  | @mapping kind entries _ known declared =>
      refine .mapping (fun k hk => ?_) fun e he => ?_
      · obtain ⟨e, he, hsame⟩ := contains_iff.mp (known k hk)
        rcases List.mem_append.mp he with he | he
        · exact contains_iff.mpr ⟨e, List.mem_append_left _ he, hsame⟩
        · rcases List.mem_cons.mp he with rfl | he
          · exact contains_iff.mpr ⟨(key, part'), by simp, hsame⟩
          · exact contains_iff.mpr ⟨e, by simp [he], hsame⟩
      · rcases List.mem_append.mp he with he | he
        · exact declared e (List.mem_append_left _ he)
        · rcases List.mem_cons.mp he with rfl | he
          · exact hchange _ (declared (key, part) (by simp))
          · exact declared e (by simp [he])

theorem conformsToSome_of_changed {before after : List Value} {element choice choice' : Value}
    (hchange : Conforms .builtin element choice → Conforms .builtin element choice')
    (h : ConformsToSome .builtin element (before ++ choice :: after)) :
    ConformsToSome .builtin element (before ++ choice' :: after) := by
  obtain ⟨found, hmem, hconforms⟩ := conformsToSome_iff.mp h
  rcases List.mem_append.mp hmem with hmem | hmem
  · exact .alternative (List.mem_append_left _ hmem) hconforms
  · rcases List.mem_cons.mp hmem with rfl | hmem
    · exact .alternative (by simp) (hchange hconforms)
    · exact .alternative (by simp [hmem]) hconforms

mutual

/-- The induction is on the change: a part demands no more, and so does what holds it. -/
theorem Relaxes.demandsNoMore {field field' : Entries} :
    Relaxes field field' → DemandsNoMore field' field
  | .here widens => widens.demandsNoMore
  | .inObject object child change => by
      refine demandsNoMore_of_child (fun _ v hv => ?_)
        fun harray => absurd object (Entries.tag?_ne_object harray)
      rw [fields_setOption_child object]
      rw [Entries.fields_of_child object child] at hv
      exact change.conforms hv
  | .inArray array child change =>
      demandsNoMore_of_alternatives array child fun _ => ⟨by simp, fun _ =>
        conformsToSome_of_changed change.demandsNoMore.conforms⟩

theorem RelaxesFields.conforms {schema schema' : Entries} {value : Value} :
    RelaxesFields schema schema' → ConformsToObject .builtin value schema →
      ConformsToObject .builtin value schema'
  | .declare text new optional, h => conformsToObject_of_declared text new optional h
  | .inField change, h =>
      conformsToObject_of_changed (fun _ hv => change.demandsNoMore.conforms hv) h

end

/-! ## No errors under the relaxed schema -/

/-- A canonical schema of the built-in types whose names are texts at every level
and whose patterns search texts. -/
structure IsPlain (schema : Entries) : Prop where
  names : TextKeys schema
  canonical : ∀ e ∈ schema, EveryNode (fun _ node => IsCanonicalNode .builtin node)
    (some (Path.join none e.1.display)) e.2
  textual : ∀ e ∈ schema, EveryNode (fun _ node => TextKeys (fields node) ∧
    Capability.SearchesText node) (some (Path.join none e.1.display)) e.2

/-- A plain schema whose listed options can be told. -/
structure IsTellable (schema : Entries) : Prop extends IsPlain schema where
  told : ∀ e ∈ schema, EveryNode (fun _ node => WritableOptions node)
    (some (Path.join none e.1.display)) e.2

/-- Under a plain schema with options that can be told every usable mapping has errors. -/
theorem Schema.returns_errors_of_isTellable {s : Schema} (h : IsTellable s.fields)
    {parent : Value} (hmapping : value.isMapping = true) (hvalue : value.IsUsable)
    (hparent : parent.isWritable = true) :
    Returns (s.errors .builtin value .null parent) ErrorSet.TextPaths := by
  refine Validation.returns_checkObject hmapping hvalue h.names hparent fun e he => ?_
  have hnode : EveryNode (fun _ node => ∃ tag c, IsCheckable .builtin tag c node)
      (some (Path.join none e.1.display)) e.2 := by
    refine (((h.canonical e he).and (h.textual e he)).and (h.told e he)).mono
      fun _ node hnode => ?_
    obtain ⟨⟨⟨tag, c, hcanonical⟩, hnames, htext⟩, htold⟩ := hnode
    exact ⟨tag, c, isCheckable_of_builtin hcanonical hnames htext htold⟩
  exact Validation.answers_checkWithin hnode
    (Nat.le_succ_of_le (Value.height_le_maxEntryHeight he).2)

/-- Any number of changes keeps what conforms, whatever schemas they pass through. -/
theorem conformsToObject_of_changes (h : Relation.ReflTransGen RelaxesFields schema schema')
    (hv : ConformsToObject .builtin value schema) : ConformsToObject .builtin value schema' := by
  induction h with
  | refl => exact hv
  | tail _ change ih => exact change.conforms ih

/-- **Relaxing a schema never rejects a value that it accepted.** Let a schema of the
built-in types be changed any number of times, at any depth, by taking back a demand:
dropping `required` or making it false, dropping `enum` or appending options to it,
dropping `test`, turning `coerce` on, declaring a further field that is not required,
appending alternatives where there are some or taking all of them away. If the schema
found no errors in a usable mapping, then the canonical schema at the end, whose options
can be told, goes through its check and finds none either. -/
theorem Schema.errors_eq_nil_of_relaxed {s s' : Schema} {value parent : Value}
    (hchanges : Relation.ReflTransGen RelaxesFields s.fields s'.fields)
    (hs' : IsTellable s'.fields) (hmapping : value.isMapping = true) (hvalue : value.IsUsable)
    (hparent : parent.isWritable = true) (h : s.errors .builtin value .null parent = .ok []) :
    s'.errors .builtin value .null parent = .ok [] := by
  have hdecides : ∀ {s : Schema} {errors}, s.errors .builtin value .null parent = .ok errors →
      (errors = [] ↔ ConformsToObject .builtin value s.fields) :=
    fun herrors => errors_eq_nil_iff Registry.Reachable.seeded.seesMissing _ value parent _ herrors
  have hafter : ConformsToObject .builtin value s'.fields :=
    conformsToObject_of_changes hchanges ((hdecides h).mp rfl)
  obtain ⟨errors, herrors, -⟩ := returns_errors_of_isTellable hs' hmapping hvalue hparent
  rw [herrors, (hdecides herrors).mpr hafter]

/-- An array of some alternatives. -/
def oneOf (choices : List Value) : Entries :=
  [(.text "type", .text "array"), (.text "child", .list choices)]

section

variable {choices choices' : List Value}

theorem tag?_oneOf : Entries.tag? (oneOf choices) = some Capability.arrayTag := by
  simp [oneOf, Entries.tag?, Entries.option?_cons, Capability.arrayTag]

theorem option?_oneOf : option? (oneOf choices) "child" = some (.list choices) := by
  simp [oneOf, Entries.option?_cons]

theorem setOption_oneOf :
    setOption (oneOf choices) "child" (.list choices') = oneOf choices' := by
  simp [oneOf, Entries.setOption_cons]

theorem alternatives_oneOf : alternatives (oneOf choices) = choices :=
  Entries.alternatives_of_child tag?_oneOf option?_oneOf

end

def word : Value := .dict [(.text "type", .text "string")]

def quantity : Value := .dict [(.text "type", .text "number")]

/-- A field for one number, which is too long to be written. -/
def longNumber : Value :=
  .dict [(.text "type", .text "number"), (.text "enum", .list [.int Text.firstTooLong])]

/-- A list of words, required or not, under a choice of words. -/
def wordList (required : Entries) (choice : List Value) : Value :=
  .dict ((.text "type", .text "array") :: required ++ [(.text "child", .list
    [.dict [(.text "type", .text "string"), (.text "enum", .list choice)]])])

/-- The demand for a list of words is dropped, a further word is allowed in it, and a
number may stand beside it. -/
theorem relaxes_wordList : Relation.ReflTransGen RelaxesFields
    [(.text "a", wordList [(.text "required", .bool true)] [.text "x"])]
    [(.text "a", wordList [] [.text "x", .text "y"]),
      (.text "b", .dict [(.text "type", .text "number")])] := by
  have hdrop : RelaxesFields [(.text "a", wordList [(.text "required", .bool true)] [.text "x"])]
      [(.text "a", wordList [] [.text "x"])] :=
    @RelaxesFields.inField [] [] _ _ _ (.here .dropRequired)
  have hchild : Relaxes [(.text "type", .text "string"), (.text "enum", .list [.text "x"])]
      [(.text "type", .text "string"), (.text "enum", .list [.text "x", .text "y"])] := by
    have hwidens := @Widens.appendOptions
      [(.text "type", .text "string"), (.text "enum", .list [.text "x"])] [.text "x"] [.text "y"]
      (by simp [Entries.option?_cons])
    rw [Entries.setOption_cons, Entries.setOption_cons] at hwidens
    exact .here (by simpa using hwidens)
  have happend : RelaxesFields [(.text "a", wordList [] [.text "x"])]
      [(.text "a", wordList [] [.text "x", .text "y"])] := by
    have hlist := @Relaxes.inArray
      (oneOf [.dict [(.text "type", .text "string"), (.text "enum", .list [.text "x"])]])
      _ _ [] [] tag?_oneOf option?_oneOf hchild
    rw [setOption_oneOf] at hlist
    exact @RelaxesFields.inField [] [] _ _ _ hlist
  have hdeclare : RelaxesFields [(.text "a", wordList [] [.text "x", .text "y"])]
      [(.text "a", wordList [] [.text "x", .text "y"]),
        (.text "b", .dict [(.text "type", .text "number")])] :=
    @RelaxesFields.declare [_] [] _ (.text "b") "b" rfl
      (by simp [Entries.option?_cons, Entries.option?_nil])
      (by simp [isOn, Entries.option?_cons, Entries.option?_nil])
  exact ((Relation.ReflTransGen.single hdrop).tail happend).tail hdeclare

/-- Words that may be chosen, and a number beside a list of them. -/
def wordNode : Entries :=
  [(.text "type", .text "string"), (.text "enum", .list [.text "x", .text "y"])]

def wordSchema : Entries :=
  [(.text "a", wordList [] [.text "x", .text "y"]),
    (.text "b", .dict [(.text "type", .text "number")])]

/-- The nodes are the list, the words in it and the number. -/
theorem everyNode_wordSchema {P : Entries → Prop}
    (hlist : P (oneOf [.dict wordNode])) (hwordNode : P wordNode) (hnumber : P [(.text "type", .text "number")]) :
    ∀ e ∈ wordSchema, EveryNode (fun _ node => P node) (some (Path.join none e.1.display)) e.2 := by
  have hwords : Entries.tag? wordNode = some "string" := by
    simp [wordNode, Entries.tag?, Entries.option?_cons]
  have hbare : Entries.tag? [(.text "type", .text "number")] = some "number" := by
    simp [Entries.tag?, Entries.option?_cons]
  have hnode : ∀ path,
      EveryNode (fun _ node => P node) path (.dict (oneOf [.dict wordNode])) := by
    refine fun path => .node hlist ?_
    rw [Entries.partsAt, Entries.fields_of_tag_ne (Entries.tag?_ne_object tag?_oneOf),
      alternatives_oneOf]
    exact List.forall_mem_singleton.mpr (.leaf hwords (by decide) (by decide) hwordNode)
  exact List.forall_mem_cons.mpr ⟨hnode _,
    List.forall_mem_singleton.mpr (.leaf hbare (by decide) (by decide) hnumber)⟩

theorem isTellable_wordSchema : IsTellable wordSchema := by
  have hcompile : compileSchema Registry.builtin 64 none (.dict wordSchema) = .ok wordSchema := by
    rw [Registry.builtin_eq]
    cbv
  have hsettled :=
    (Compilation.settled_of_compileSchema Registry.Reachable.seeded.steady hcompile).1
  refine ⟨⟨?_, fun e he => (hsettled.2 e he).mono fun _ node hnode => ?_,
    everyNode_wordSchema ⟨?_, ?_⟩ ⟨?_, ?_⟩ ⟨?_, ?_⟩⟩, everyNode_wordSchema ?_ ?_ ?_⟩
  · simp [wordSchema, TextKeys, keys, Value.isText_text]
  · obtain ⟨tag, c, hcanonical, -⟩ := hnode
    exact ⟨tag, c, hcanonical⟩
  all_goals
    simp [wordNode, oneOf, TextKeys, fields, keys, Capability.SearchesText, WritableOptions,
      Entries.tag?,
      Entries.option?_cons, Entries.option?_nil, Capability.objectTag, Value.isWritable,
      Value.areWritable]

/-- The list of words that was accepted is accepted still. -/
theorem Schema.errors_eq_nil_of_relaxed_words :
    Schema.errors .builtin
      ⟨[(.text "a", wordList [(.text "required", .bool true)] [.text "x"])], 64⟩
      (.dict [(.text "a", .list [.text "x"])]) .null .null = .ok [] ∧
    Schema.errors .builtin
      ⟨wordSchema, 64⟩ (.dict [(.text "a", .list [.text "x"])]) .null .null = .ok [] := by
  have hbefore : Schema.errors .builtin
      ⟨[(.text "a", wordList [(.text "required", .bool true)] [.text "x"])], 64⟩
      (.dict [(.text "a", .list [.text "x"])]) .null .null = .ok [] := by
    rw [Registry.builtin_eq]
    cbv
  refine ⟨hbefore, errors_eq_nil_of_relaxed relaxes_wordList isTellable_wordSchema rfl ?_ rfl
    hbefore⟩
  simp only [Value.IsUsable.mapping_iff, Value.IsUsable.sequence_iff, List.forall_mem_cons]
  exact ⟨by simp [keys, Value.isWritable], ⟨.of_leaf rfl rfl rfl, List.forall_mem_nil _⟩,
    List.forall_mem_nil _⟩

/-- Lists of lists with some alternatives, or of any lists. -/
def nestedLists (choices : List Value) : Entries :=
  [(.text "x", .dict (oneOf [.dict (oneOf choices), .dict (oneOf [])]))]

theorem relaxes_nestedLists {choices more : List Value} (hsome : choices ≠ []) :
    RelaxesFields (nestedLists choices) (nestedLists (choices ++ more)) := by
  have hwidens := @Widens.appendAlternatives _ _ more (@tag?_oneOf choices) option?_oneOf hsome
  rw [setOption_oneOf] at hwidens
  have hlist := @Relaxes.inArray (oneOf [.dict (oneOf choices), .dict (oneOf [])]) _ _ []
    [.dict (oneOf [])] tag?_oneOf option?_oneOf (.here hwidens)
  rw [setOption_oneOf] at hlist
  exact @RelaxesFields.inField [] [] _ _ _ hlist

/-- A long number is allowed beside the texts in the lists. A list of another number was
found by the second alternative; now the first one, which cannot say what number it
allows, ends the check. -/
theorem Schema.errors_fail_of_longOption :
    RelaxesFields (nestedLists [word]) (nestedLists [word, longNumber]) ∧
    compileSchema .builtin 64 none (.dict (nestedLists [word, longNumber]))
      = .ok (nestedLists [word, longNumber]) ∧
    Schema.errors .builtin ⟨nestedLists [word], 64⟩
      (.dict [(.text "x", .list [.list [.int 2]])]) .null .null = .ok [] ∧
    Schema.errors .builtin ⟨nestedLists [word, longNumber], 64⟩
      (.dict [(.text "x", .list [.list [.int 2]])]) .null .null = .error .integerTooLong := by
  refine ⟨relaxes_nestedLists (List.cons_ne_nil _ _), ?_, ?_, ?_⟩
  · unfold longNumber
    generalize (Text.firstTooLong : Int) = n
    rw [Registry.builtin_eq]
    cbv
  · rw [Registry.builtin_eq]
    cbv
  · rw [Registry.builtin_eq]
    cbv

end

end DataShape
