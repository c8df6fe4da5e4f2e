import DataShape.Command
import DataShape.Proofs.Documents
import DataShape.Proofs.JsonText

/-!
# Canonical schemas are restored from what is printed

A schema that was compiled from a document is printed as JSON. Everything in it
has a form in JSON but the patterns, which are printed as their sources. What is
printed is read back with texts in place of the patterns, and compiling it puts
the patterns in place again and leaves the rest as it is.
-/

namespace DataShape

open Entries (option? setOption keys fields alternatives parts partsAt)
open Value (IsDocument IsJson)
open Compilation

/-! ## Nodes that come from documents -/

/-- Keys that are all plain texts, none of them twice. -/
theorem TextNames.of_names {entries : Entries} (htext : ∀ key ∈ keys entries, ∃ s, key = .text s)
    (hnodup : (Entries.names entries).Nodup) : TextNames entries := by
  refine ⟨Entries.names entries, ?_, hnodup⟩
  unfold Entries.names
  generalize keys entries = ks at htext
  induction ks with
  | nil => rfl
  | cons key rest ih =>
      obtain ⟨⟨s, rfl⟩, hrest⟩ := List.forall_mem_cons.mp htext
      rw [List.filterMap_cons_some (Value.text?_text s), List.map_cons, ← ih hrest]

theorem Value.IsDocument.textNames {entries : Entries} (h : (Value.dict entries).IsDocument)
    (htext : TextKeys entries) : TextNames entries := by
  obtain ⟨-, hnodup, heach⟩ := Value.IsDocument.mapping_iff.mp h
  refine .of_names (fun key hkey => ?_) hnodup
  obtain ⟨s, hs⟩ := htext key hkey
  obtain ⟨e, he, rfl⟩ := List.mem_map.mp hkey
  exact ⟨s, (heach e he).1.eq_text hs⟩

namespace Capability

/-- Which built-in types know which properties. -/
theorem of_mem_properties {c : Capability} (hc : c ∈ builtins) {name : String}
    (h : name ∈ c.properties) :
    name = "required" ∨ name = "enum" ∧ (c = string ∨ c = number ∨ c = boolean) ∨
      name = "test" ∧ c = string ∨ name = "coerce" ∧ c = number ∨
      name = "child" ∧ (c = object ∨ c = array) := by
  cases hc using Capability.builtins_cases with
  | string =>
      have hname : name = "required" ∨ name = "enum" ∨ name = "test" := by
        simpa [string] using h
      tauto
  | number =>
      have hname : name = "required" ∨ name = "enum" ∨ name = "coerce" := by
        simpa [number] using h
      tauto
  | boolean =>
      have hname : name = "required" ∨ name = "enum" := by
        simpa [boolean] using h
      tauto
  | date => exact .inl (by simpa [date] using h)
  | object | array =>
      have hname : name = "required" ∨ name = "child" := by
        simpa [object, array] using h
      tauto

/-- What a document gives as an option of texts, numbers or truth values has a
form in JSON. -/
theorem isJson_of_accepts {c : Capability} {field : Entries} {v : Value}
    (hc : c = string ∨ c = number ∨ c = boolean) (h : c.accepts v field = .ok true)
    (hv : v.IsDocument) : v.IsJson := by
  have htext {s : String} (hs : v.text? = some s) : v.IsJson := by
    rw [hv.eq_text hs]
    exact .text s
  rcases hc with rfl | rfl | rfl
  · cases hs : v.text? with
    | none => simp [string, hs] at h
    | some s => exact htext hs
  · cases hs : v.text? with
    | some s => exact htext hs
    | none =>
        have hnumber : isNumber v = true := by simpa [number, hs] using h
        cases v with
        | int n => exact .int n
        | float x =>
            cases hv with
            | plain isPlain => cases isPlain
            | float double => exact .float double
        | scalar x =>
            cases hv with
            | plain isPlain => cases isPlain
        | _ => cases hnumber
  · have hbool : v.isBool = true := by simpa [boolean] using h
    cases v with
    | bool b => exact .bool b
    | scalar x =>
        cases hv with
        | plain isPlain => cases isPlain
    | _ => cases hbool

end Capability

/-- A node that can be restored from what is printed for it: its names are plain
texts, its pattern is read from a text, and all but that and its parts has a form
in JSON. -/
structure IsRestorable (field : Entries) : Prop where
  options : TextNames field
  names : TextNames (fields field)
  child : ∀ v, option? field "child" = some v →
    v = .dict (fields field) ∨ v = .list (alternatives field)
  test : ∀ v, option? field "test" = some v →
    ∃ source p, v = .pattern p ∧ Pattern.read (.text source) = .ok p
  other : ∀ name v, name ≠ "child" → name ≠ "test" → option? field name = some v → v.IsJson

namespace Compilation

variable {compile : FieldCompiler} {path : Option String} {tag : String} {c : Capability}
  {form field out : Entries}

theorem property_of_option? (h : IsCanonical .builtin tag c field) {name : String} {v : Value}
    (htype : name ≠ "type") (hv : option? field name = some v) :
    name = "required" ∨ name = "enum" ∧ (c = .string ∨ c = .number ∨ c = .boolean) ∨
      name = "test" ∧ c = .string ∨ name = "coerce" ∧ c = .number ∨
      name = "child" ∧ (c = .object ∨ c = .array) := by
  obtain ⟨hmem, -⟩ := Registry.of_capability?_builtin h.registered
  refine Capability.of_mem_properties hmem ?_
  by_contra hname
  rw [Capability.option?_eq_none_of_not_declared h.known htype hname] at hv
  cases hv

theorem eq_string_of_test (h : IsCanonical .builtin tag c field) {v : Value}
    (hv : option? field "test" = some v) : c = .string ∧ tag = "string" := by
  obtain ⟨-, rfl⟩ := Registry.of_capability?_builtin h.registered
  obtain rfl : c = .string := by simpa using property_of_option? h (by decide) hv
  exact ⟨rfl, rfl⟩

/-- The parts of a canonical node are all that its `child` holds. -/
theorem child_of_isCanonical (h : IsCanonical .builtin tag c field) {v : Value}
    (hv : option? field "child" = some v) :
    tag = Capability.objectTag ∧ v = .dict (fields field) ∨
      tag = Capability.arrayTag ∧ v = .list (alternatives field) := by
  obtain ⟨-, rfl⟩ := Registry.of_capability?_builtin h.registered
  obtain rfl | rfl : c = .object ∨ c = .array := by simpa using property_of_option? h (by decide) hv
  · obtain ⟨fs, hfs⟩ := h.object rfl
    rw [Entries.fields_of_child h.tag?_eq hfs]
    exact .inl ⟨rfl, Option.some.inj (hv.symm.trans hfs)⟩
  · obtain ⟨items, hitems⟩ := h.array rfl
    rw [Entries.alternatives_of_child h.tag?_eq hitems]
    exact .inr ⟨rfl, Option.some.inj (hv.symm.trans hitems)⟩

namespace Outcome

variable (h : Outcome .builtin compile path tag c form out)
  (hdocument : (Value.dict form).IsDocument)

include h hdocument

theorem textNames : TextNames out := by
  obtain ⟨-, hnodup, heach⟩ := Value.IsDocument.mapping_iff.mp hdocument
  have hkeys := h.keeps.keys
  refine .of_names (fun key hkey => ?_) ?_
  · obtain ⟨name, hname, -⟩ := h.canonical.known key hkey
    rw [hkeys] at hkey
    rcases List.mem_append.mp hkey with hkey | hkey
    · obtain ⟨e, he, rfl⟩ := List.mem_map.mp hkey
      exact ⟨name, (heach e he).1.eq_text hname⟩
    · split at hkey
      · exact ⟨"child", List.mem_singleton.mp hkey⟩
      · cases hkey
  · rw [Entries.names, hkeys, List.filterMap_append]
    refine List.Nodup.append hnodup ?_ ?_
    · split
      · exact List.nodup_singleton "child"
      · exact List.nodup_nil
    · split
      -- the `child` is added only where there was none
      · rename_i hnone
        refine List.disjoint_singleton.mpr fun hchild => ?_
        obtain ⟨key, hkey, hname⟩ := List.mem_filterMap.mp hchild
        exact Entries.option?_eq_none_iff.mp hnone.2 key hkey hname
      · exact List.disjoint_nil_right _

theorem textNames_fields (hnames : TextKeys (formFields form)) :
    TextNames (Entries.fields out) := by
  by_cases htag : tag = Capability.objectTag
  · obtain ⟨names, hkeys, hnodup⟩ := (isDocument_formFields hdocument).textNames hnames
    exact ⟨names, (keys_compileFields (h.fields htag)).trans hkeys, hnodup⟩
  · rw [Entries.fields_of_tag_ne (by simpa [h.canonical.tag?_eq] using htag)]
    exact ⟨[], rfl, List.nodup_nil⟩

theorem test_isRead {v : Value} (hv : option? out "test" = some v) :
    ∃ source p, v = .pattern p ∧ Pattern.read (.text source) = .ok p := by
  obtain ⟨rfl, -⟩ := eq_string_of_test h.canonical hv
  rcases h.keeps.test with hsame | ⟨-, w, source, p, -, -, hread, hp⟩
  -- no pattern stands in a document
  · obtain ⟨p, rfl⟩ := h.canonical.test rfl v hv
    cases hdocument.option? (hsame ▸ hv) with
    | plain isPlain => cases isPlain
  · exact ⟨source, p, Option.some.inj (hv.symm.trans hp), hread⟩

theorem isJson_other {name : String} {v : Value} (hchild : name ≠ "child") (htest : name ≠ "test")
    (hv : option? out name = some v) : v.IsJson := by
  by_cases htype : name = "type"
  · subst htype
    obtain rfl := Option.some.inj (h.canonical.type.symm.trans hv)
    exact .text tag
  · rcases property_of_option? h.canonical htype hv with
      rfl | ⟨rfl, hc⟩ | ⟨rfl, -⟩ | ⟨rfl, rfl⟩ | ⟨rfl, -⟩
    · obtain ⟨b, rfl⟩ := h.canonical.required v hv
      exact .bool b
    · obtain ⟨options, rfl, haccepts⟩ := h.canonical.enum v hv
      rcases h.keeps.enum with ⟨-, hnone⟩ | ⟨kind, given, hgiven, hkept⟩
      · rw [hnone] at hv
        cases hv
      · obtain rfl : given = options := by
          rw [hv] at hkept
          cases hkept
          rfl
        have heach := Value.IsDocument.sequence_iff.mp (hdocument.option? hgiven)
        exact .list fun o ho => Capability.isJson_of_accepts hc (haccepts o ho) (heach o ho)
    · exact absurd rfl htest
    · obtain ⟨b, rfl⟩ := h.canonical.coerce rfl v hv
      exact .bool b
    · exact absurd rfl hchild

theorem isRestorable (hnames : TextKeys (formFields form)) : IsRestorable out where
  options := h.textNames hdocument
  names := h.textNames_fields hdocument hnames
  child _ hv := (child_of_isCanonical h.canonical hv).imp And.right And.right
  test _ hv := h.test_isRead hdocument hv
  other _ _ hchild htest hv := h.isJson_other hdocument hchild htest hv

end Outcome

/-- Every node that was compiled from a document with texts for names can be
restored. -/
theorem restorable_of_compileField {limit : Int} {levels : Nat} {raw : Value}
    (hraw : raw.IsDocument)
    (hnames : EveryForm .builtin (fun form => TextKeys (formFields form)) raw)
    (h : compileField .builtin limit levels path raw = .ok out) :
    EveryNode (fun _ node => IsRestorable node) path (.dict out) := by
  refine everyNode_of_compileField
    (Q := fun raw => raw.IsDocument ∧
      EveryForm .builtin (fun form => TextKeys (formFields form)) raw)
    Registry.Reachable.seeded.regular (fun hform hraw part hpart => ?_) (fun hraw hstep => ?_)
    ⟨hraw, hnames⟩ h
  · exact ⟨isDocument_of_mem_formParts (isDocument_form hform hraw.1) part hpart,
      hraw.2.of_mem_formParts hform part hpart⟩
  · obtain ⟨form, tag, c, hform, houtcome⟩ := hstep.outcome Registry.Reachable.seeded.regular
    exact houtcome.isRestorable (isDocument_form hform hraw.1) (hraw.2.at_root hform)

end Compilation

/-! ## What is read back -/

mutual

/-- The value that is read back where this one is printed: a pattern is printed as
its source. -/
def Value.written : Value → Value
  | .pattern p => match p.source with
    | .text s => .text s
    | .bytes b => .bytes b
  | .sequence kind items => .sequence kind (writtenItems items)
  | .mapping .plain entries => .dict (writtenEntries entries)
  | v => v

def Value.writtenItems : List Value → List Value
  | [] => []
  | v :: rest => v.written :: writtenItems rest

def Value.writtenEntries : List (Value × Value) → List (Value × Value)
  | [] => []
  | (key, v) :: rest => (key, v.written) :: writtenEntries rest

end

/-- Entries with the values that are read back. -/
def Entries.written (entries : Entries) : Entries := entries.map fun e => (e.1, e.2.written)

namespace Value

theorem written_sequence (kind : SequenceKind) (items : List Value) :
    (Value.sequence kind items).written = .sequence kind (items.map written) := by
  have hitems : writtenItems items = items.map written := by
    induction items with
    | nil => rfl
    | cons v rest ih => rw [writtenItems, ih, List.map_cons]
  rw [written, hitems]

theorem written_dict (entries : Entries) :
    (Value.dict entries).written = .dict entries.written := by
  have hentries : writtenEntries entries = entries.written := by
    induction entries with
    | nil => rfl
    | cons e rest ih =>
        rw [writtenEntries, ih]
        rfl
  rw [written, hentries]

/-- What has a form in JSON is read back as it is. -/
theorem written_of_isJson {v : Value} (h : v.IsJson) : v.written = v := by
  induction h with
  | null | bool | int | float | text => rfl
  | list each ih =>
      rw [written_sequence, List.map_congr_left ih, List.map_id']
  | dict names each ih =>
      rw [written_dict, Entries.written, List.map_congr_left (g := id) fun e he => ?_, List.map_id]
      rw [ih e he]
      rfl

theorem written_cases (v : Value) :
    (∃ p, v = .pattern p) ∨ (∃ kind items, v = .sequence kind items) ∨
      (∃ entries, v = .dict entries) ∨ v.written = v := by
  cases v with
  | pattern p => exact .inl ⟨p, rfl⟩
  | sequence kind items => exact .inr (.inl ⟨kind, items, rfl⟩)
  | mapping kind entries =>
      cases kind with
      | plain => exact .inr (.inr (.inl ⟨entries, rfl⟩))
      | _ => exact .inr (.inr (.inr rfl))
  | _ => exact .inr (.inr (.inr rfl))

theorem inside_written {n : ℤ} {v : Value} (h : (Value.int n).Inside v) :
    (Value.int n).Inside v.written := by
  generalize hn : Value.int n = part at h ⊢
  induction h with
  | self =>
      subst hn
      exact .self _
  | @entry kind entries e among below ih =>
      cases kind with
      | plain =>
          rw [written_dict]
          exact .entry (List.mem_map_of_mem among) ih
      | _ => exact .entry among below
  | item among below ih =>
      rw [written_sequence]
      exact .item (List.mem_map_of_mem among) ih
  | row among below ih => exact .row among below

/-- The integers that are read back stand in the value. The parts get lower on the
way. -/
theorem inside_of_inside_written {n : ℤ} {v : Value} (h : (Value.int n).Inside v.written) :
    (Value.int n).Inside v := by
  rcases v.written_cases with ⟨p, rfl⟩ | ⟨kind, items, rfl⟩ | ⟨entries, rfl⟩ | hself
  · obtain ⟨source, options, node⟩ := p
    cases source <;> cases h
  · rw [written_sequence] at h
    cases h with
    | item among below =>
        obtain ⟨item, hitem, rfl⟩ := List.mem_map.mp among
        have hlower : item.height < (Value.sequence kind items).height :=
          Nat.lt_succ_of_le (height_le_maxHeight hitem)
        exact .item hitem (inside_of_inside_written below)
  · rw [written_dict] at h
    cases h with
    | entry among below =>
        obtain ⟨e, he, rfl⟩ := List.mem_map.mp among
        have hlower : e.2.height < (Value.dict entries).height :=
          Nat.lt_succ_of_le (height_le_maxEntryHeight he).2
        exact .entry he (inside_of_inside_written below)
  · rwa [hself] at h
termination_by v.height

/-- What is read back has the integers of the value. -/
theorem hasLongInteger_written_iff {v : Value} :
    Json.HasLongInteger v.written ↔ Json.HasLongInteger v :=
  ⟨fun ⟨n, hinside, hlong⟩ => ⟨n, inside_of_inside_written hinside, hlong⟩,
    fun ⟨n, hinside, hlong⟩ => ⟨n, inside_written hinside, hlong⟩⟩

end Value

namespace Entries

theorem keys_written (entries : Entries) : keys entries.written = keys entries := by
  simp [keys, written]

theorem option?_written (entries : Entries) (name : String) :
    option? entries.written name = (option? entries name).map Value.written := by
  induction entries with
  | nil => rfl
  | cons e rest ih =>
      show option? ((e.1, e.2.written) :: written rest) name = _
      rw [option?_cons, option?_cons, ih]
      split <;> rfl

end Entries

namespace Json

mutual

theorem printAt_written (level : Nat) (v : Value) : printAt level v.written = printAt level v := by
  cases v with
  | pattern p =>
      obtain ⟨source, options, node⟩ := p
      cases source with
      | text s => rfl
      | bytes b => rfl
  | sequence kind items =>
      rw [Value.written, printAt, printAt, printItems_written (level + 1) items]
  | mapping kind entries =>
      cases kind with
      | plain =>
          rw [Value.written, printAt, printAt, printMembers_written (level + 1) entries]
      | _ => rfl
  | _ => rfl

theorem printItems_written (level : Nat) :
    ∀ items : List Value, printItems level (Value.writtenItems items) = printItems level items
  | [] => rfl
  | v :: rest => by
      rw [Value.writtenItems, printItems, printItems, printAt_written level v,
        printItems_written level rest]

theorem printMembers_written (level : Nat) :
    ∀ entries : List (Value × Value),
      printMembers level (Value.writtenEntries entries) = printMembers level entries
  | [] => rfl
  | (key, v) :: rest => by
      rw [Value.writtenEntries, printMembers, printMembers, printAt_written level v,
        printMembers_written level rest]

end

end Json

/-! ## What is read back of a node -/

theorem TextNames.isJson_written {entries : Entries} (h : TextNames entries)
    (each : ∀ e ∈ entries, e.2.written.IsJson) : (Value.dict entries).written.IsJson := by
  rw [Value.written_dict]
  refine .dict ?_ (List.forall_mem_map.mpr each)
  rw [TextNames, Entries.keys_written]
  exact h

/-- What is read back is the field again where one option is put back and the
others are as they were. -/
theorem TextNames.setOption_written {field : Entries} (h : TextNames field) {name : String}
    {v : Value} (hv : option? field name = some v)
    (hrest : ∀ other, other ≠ name → option? field.written other = option? field other) :
    setOption field.written name v = field := by
  have hkept : (option? field.written name).isSome := by
    rw [Entries.option?_written, hv]
    rfl
  refine h.ext ?_ fun other => ?_
  · rw [Entries.keys_setOption_of_isSome v hkept, Entries.keys_written]
  · by_cases hother : other = name
    · rw [hother, Entries.option?_setOption_self, hv]
    · rw [Entries.option?_setOption_of_ne _ _ hother, hrest other hother]

namespace IsRestorable

variable {field : Entries}

/-- All options but the parts and the pattern are read back as they are. -/
theorem option?_written (h : IsRestorable field) {name : String} (hchild : name ≠ "child")
    (htest : name ≠ "test") : option? field.written name = option? field name := by
  rw [Entries.option?_written]
  cases hv : option? field name with
  | none => rfl
  | some v => rw [Option.map_some, Value.written_of_isJson (h.other name v hchild htest hv)]

/-- A pattern is read back as a text from which it is read. -/
theorem option?_test_written (h : IsRestorable field) {v : Value}
    (hv : option? field "test" = some v) :
    ∃ source p, v = .pattern p ∧ Pattern.read (.text source) = .ok p ∧
      option? field.written "test" = some (.text source) := by
  obtain ⟨source, p, rfl, hread⟩ := h.test v hv
  refine ⟨source, p, rfl, hread, ?_⟩
  rw [Entries.option?_written, hv, Option.map_some, Value.written, Pattern.source_of_read hread]

/-- A node of a built-in type has no pattern beside parts. -/
theorem option?_test_of_child {tag : String} {c : Capability}
    (h : IsCanonical .builtin tag c field) {v : Value} (hv : option? field "child" = some v) :
    option? field "test" = none := by
  by_contra htest
  obtain ⟨w, hw⟩ := Option.ne_none_iff_exists'.mp htest
  obtain ⟨-, rfl⟩ := eq_string_of_test h hw
  rcases child_of_isCanonical h hv with ⟨htag, -⟩ | ⟨htag, -⟩
  · exact absurd htag (by decide)
  · exact absurd htag (by decide)

/-- The children of a node are compiled from what is read back of them. -/
theorem compileChildren_written (h : IsRestorable field) {tag : String} {c : Capability}
    {compile : FieldCompiler} {path : Option String} (hcanonical : IsCanonical .builtin tag c field)
    {v : Value} (hv : option? field "child" = some v) (hnames : (fields field).AreWritable)
    (hparts : ∀ part ∈ partsAt path field, ∃ out, part.2 = .dict out ∧
      compile part.1 part.2.written = .ok out) :
    compileChildren compile path tag field.written = .ok field := by
  have hback : setOption field.written "child" v = field := by
    refine h.options.setOption_written hv fun other hother => ?_
    by_cases htest : other = "test"
    · rw [htest, Entries.option?_written, option?_test_of_child hcanonical hv]
      rfl
    · exact h.option?_written hother htest
  have hwritten : option? field.written "child" = some v.written := by
    rw [Entries.option?_written, hv]
    rfl
  rcases child_of_isCanonical hcanonical hv with ⟨rfl, rfl⟩ | ⟨rfl, rfl⟩
  · rw [Value.written_dict] at hwritten
    refine compileChildren_object.mpr ⟨.plain, _, _, by rw [hwritten]; rfl, ?_, hback.symm⟩
    refine compileFields_map hnames fun e he =>
      hparts (some (Path.join path e.1.display), e.2) ?_
    exact List.mem_append_left _ (List.mem_map.mpr ⟨e, he, rfl⟩)
  · rw [Value.written_sequence] at hwritten
    refine compileChildren_array.mpr ⟨.list, _, _, by rw [hwritten]; rfl, ?_, hback.symm⟩
    refine compileAlternatives_map fun a ha =>
      hparts (some (Path.join path (Path.index a.2)), a.1) ?_
    exact List.mem_append_right _ (List.mem_map.mpr ⟨a, ha, rfl⟩)

/-- The check of options puts the pattern back. -/
theorem checkField_written (h : IsRestorable field) {tag : String} {c : Capability}
    {path : Option String} (hcanonical : IsCanonical .builtin tag c field)
    (haccepted : c.checkField field path = .ok field) (hchild : option? field "child" = none) :
    c.checkField field.written path = .ok field := by
  have hother (name : String) (htest : name ≠ "test") :
      option? field.written name = option? field name := by
    by_cases hname : name = "child"
    · rw [hname, Entries.option?_written, hchild]
      rfl
    · exact h.option?_written hname htest
  cases htest : option? field "test" with
  | none =>
      have hself : field.written = field := by
        refine h.options.ext (Entries.keys_written field) fun name => ?_
        by_cases hname : name = "test"
        · rw [hname, Entries.option?_written, htest]
          rfl
        · exact hother name hname
      rw [hself]
      exact haccepted
  | some v =>
      obtain ⟨rfl, -⟩ := eq_string_of_test hcanonical htest
      obtain ⟨source, p, rfl, hread, hwritten⟩ := h.option?_test_written htest
      have hback := h.options.setOption_written htest hother
      simp only [Capability.string, Capability.compileTest, hwritten, Value.text?_text, hread,
        hback]

end IsRestorable

namespace Compilation

variable {compile : FieldCompiler} {path : Option String} {field : Entries} {limit : Int}

theorem Step.of_written (h : IsSettledNode .builtin path field) (hrestorable : IsRestorable field)
    (hparts : ∀ part ∈ partsAt path field, ∃ out, part.2 = .dict out ∧
      compile part.1 part.2.written = .ok out) :
    Step .builtin compile path (.dict field.written) field := by
  obtain ⟨tag, c, hcanonical, haccepted, hnames⟩ := h
  have htype : option? field.written "type" = some (.text tag) := by
    rw [hrestorable.option?_written (by decide) (by decide), hcanonical.type]
  -- the children bring back what has parts, and the check of options what has a pattern
  obtain ⟨parts, hchildren, hkeys, hrequired, hkept⟩ : ∃ parts,
      compileChildren compile path tag field.written = .ok parts ∧ keys parts = keys field ∧
        option? parts "required" = option? field "required" ∧
        c.checkField parts path = .ok field := by
    cases hchild : option? field "child" with
    | some v =>
        exact ⟨field, hrestorable.compileChildren_written hcanonical hchild hnames hparts, rfl,
          rfl, haccepted⟩
    | none =>
        refine ⟨field.written, (compileChildren_leaf ?_ ?_).mpr rfl, Entries.keys_written field,
          hrestorable.option?_written (by decide) (by decide),
          hrestorable.checkField_written hcanonical haccepted hchild⟩
        · intro htag
          obtain ⟨fs, hfs⟩ := hcanonical.object htag
          simp [hchild] at hfs
        · intro htag
          obtain ⟨items, hitems⟩ := hcanonical.array htag
          simp [hchild] at hitems
  refine ⟨field.written, tag, c, parts, field, expand?_of_type htype, ?_, hcanonical.registered,
    ?_, ?_, ?_, hkept, checkEnum_self hcanonical⟩
  · rw [htype]
    exact resolve?_of_registered hcanonical.registered
  · rw [Entries.setOption_of_option? htype]
    exact hchildren
  · rw [hkeys]
    exact hcanonical.known
  · rw [hrequired]
    exact hcanonical.required

/-- A node that is accepted as it is and can be restored from what is printed. -/
def IsRestored (path : Option String) (field : Entries) : Prop :=
  IsSettledNode .builtin path field ∧ IsRestorable field

/-- What is read back of a compiled field compiles to it again. -/
theorem restores_written : Restores .builtin IsRestored Value.written := by
  rintro compile path field ⟨hsettled, hrestorable⟩ hparts
  rw [Value.written_dict]
  exact .of_written hsettled hrestorable hparts

/-- What is read back of a compiled field has a form in JSON at every node. -/
theorem isJson_written {v : Value} (h : EveryNode IsRestored path v) : v.written.IsJson := by
  induction h with
  | @node path field here below ih =>
      have hparts : ∀ part ∈ parts field, part.written.IsJson :=
        (Entries.forall_mem_parts_iff path).mpr ih
      obtain ⟨-, hrestorable⟩ := here
      refine hrestorable.options.isJson_written fun e he => ?_
      obtain ⟨name, hname⟩ := hrestorable.options.exists_eq e he
      have hv : option? field name = some e.2 := hrestorable.options.option?_of_mem (hname ▸ he)
      by_cases hchild : name = "child"
      · rcases hrestorable.child e.2 (hchild ▸ hv) with h | h
        · rw [h]
          exact hrestorable.names.isJson_written fun part hpart =>
            hparts part.2 (List.mem_append_left _ (List.mem_map_of_mem hpart))
        · rw [h, Value.written_sequence]
          exact .list (List.forall_mem_map.mpr fun part hpart =>
            hparts part (List.mem_append_right _ hpart))
      · by_cases htest : name = "test"
        · obtain ⟨source, p, hp, hread, -⟩ := hrestorable.option?_test_written (htest ▸ hv)
          rw [hp, Value.written, Pattern.source_of_read hread]
          exact .text source
        · have hjson := hrestorable.other name e.2 hchild htest hv
          rw [Value.written_of_isJson hjson]
          exact hjson

/-! ## Whole schemas -/

variable {entries fs : Entries}

theorem restored_of_compileSchema (hdocument : (Value.dict entries).IsDocument)
    (hnames : ∀ e ∈ entries, EveryForm .builtin (fun form => TextKeys (formFields form)) e.2)
    (h : compileSchema .builtin limit path (.dict entries) = .ok fs) :
    ∀ e ∈ fs, EveryNode IsRestored (some (Path.join path e.1.display)) e.2 := by
  intro e he
  obtain ⟨raw, hraw, -, out, hout, rfl⟩ := exists_of_forall₂ (compileFields_eq_ok.mp h) he
  have hbelow := (Value.IsDocument.mapping_iff.mp hdocument).2.2 raw hraw
  exact (settled_of_compileField Registry.Reachable.seeded.steady hout).and
    (restorable_of_compileField hbelow.2 (hnames raw hraw) hout)

theorem compileSchema_written (hnames : fs.AreWritable)
    (h : ∀ e ∈ fs, EveryNode IsRestored (some (Path.join path e.1.display)) e.2)
    (hnesting : fs.nesting ≤ limit.toNat) :
    compileSchema .builtin limit path (Value.dict fs).written = .ok fs := by
  rw [Value.written_dict, compileSchema_dict]
  exact restores_written.compileFields_eq hnames h hnesting

end Compilation

/-- A mapping of the kinds that JSON has is loaded from its printed text. -/
theorem Document.loadSchema_of_print {entries : Entries} {text : String}
    (h : (Value.dict entries).IsJson) (htext : Json.print (.dict entries) = .ok text) :
    Document.loadSchema "json" (text ++ "\n") = .ok (.dict entries) := by
  have hread : Json.read (text ++ "\n").toList = .ok (.dict entries) := by
    rw [String.toList_append]
    exact (Json.readsBack_printAt h htext).read
  exact bind_eq_ok.mpr ⟨_, mapError_eq_ok.mpr hread, rfl⟩

namespace Command

/-- Wherever the schema is loaded from, the run that prints it ends so. -/
def Prints (schema : Schema) (outcome : Outcome) : Prop :=
  ∀ files env r, loadSchema files env r = .ok schema → (compile files env r).2 = outcome

theorem prints_of_ok {schema : Schema} {text : String} (h : Json.print schema.toValue = .ok text) :
    Prints schema { output := text ++ "\n", ending := .exit 0 } := by
  intro files env r hschema
  simp only [compile, hschema, h]

theorem prints_of_error {schema : Schema} {fault : Fault}
    (h : Json.print schema.toValue = .error fault) :
    Prints schema { ending := .crash (.fault fault) } := by
  intro files env r hschema
  simp only [compile, hschema, h]

end Command

/-- **What is printed for a schema is the schema.** Take a document in YAML or JSON
in which all names of fields are texts, and which compiles. Unless there is an
integer in the compiled schema that is too long to be written, the JSON that the
program prints for it is loaded as a document again, and under the same depth this
compiles to the same schema, with the keys in the same order and the same patterns,
and hence with the same errors for every value. If there is such an integer,
nothing is printed. -/
theorem Schema.reload_of_printed {format source : String} {entries : Entries} {maxDepth : Int}
    {schema : Schema} (hload : Document.loadSchema format source = .ok (.dict entries))
    (hnames : TextKeys entries)
    (hbelow : ∀ e ∈ entries, EveryForm .builtin (fun form => TextKeys (formFields form)) e.2)
    (hcompile : Schema.compile .builtin maxDepth (.dict entries) = .ok schema) :
    (¬Json.HasLongInteger schema.toValue → ∃ text again reloaded,
      Json.print schema.toValue = .ok text ∧
      Command.Prints schema { output := text ++ "\n", ending := .exit 0 } ∧
      Document.loadSchema "json" (text ++ "\n") = .ok again ∧
      Schema.compile .builtin maxDepth again = .ok reloaded ∧ reloaded = schema ∧
      ∀ value canonical parent, reloaded.errors .builtin value canonical parent
        = schema.errors .builtin value canonical parent) ∧
    (Json.HasLongInteger schema.toValue →
      Command.Prints schema { ending := .crash (.fault .integerTooLong) }) := by
  have hdocument := (Document.yields_loadSchema format source _ hload).1
  obtain ⟨fs, hfs, rfl⟩ := map_eq_ok.mp hcompile
  have hrestored := restored_of_compileSchema hdocument hbelow hfs
  obtain ⟨⟨hwritable, -⟩, hnesting⟩ :=
    settled_of_compileSchema Registry.Reachable.seeded.steady hfs
  have hkeys : TextNames fs := by
    rw [TextNames, keys_compileFields hfs]
    exact hdocument.textNames hnames
  have hjson : (Value.dict fs).written.IsJson :=
    hkeys.isJson_written fun e he => isJson_written (hrestored e he)
  have hsame : Json.print (Value.dict fs).written = Json.print (Value.dict fs) :=
    Json.printAt_written 0 _
  cases hprint : Json.print (Value.dict fs) with
  | ok text =>
      have htext : Json.printAt 0 (Value.dict fs).written = .ok text := hsame.trans hprint
      have hagain : Document.loadSchema "json" (text ++ "\n") = .ok (Value.dict fs).written := by
        rw [Value.written_dict] at hjson htext ⊢
        exact Document.loadSchema_of_print hjson htext
      refine ⟨fun _ => ⟨text, _, ⟨fs, maxDepth⟩, hprint, Command.prints_of_ok hprint, hagain,
        map_eq_ok.mpr ⟨fs, compileSchema_written hwritable hrestored hnesting, rfl⟩, rfl,
        fun _ _ _ => rfl⟩,
        fun hlong => ?_⟩
      exact absurd (Value.hasLongInteger_written_iff.mpr hlong)
        (Json.not_hasLongInteger hjson htext)
  | error fault =>
      obtain ⟨rfl, hlong⟩ := Json.failsOnly_printAt hjson fault (hsame.trans hprint)
      exact ⟨fun hshort => absurd (Value.hasLongInteger_written_iff.mp hlong) hshort,
        fun _ => Command.prints_of_error hprint⟩

/-- A list of texts in short form, as it is written. -/
def lettersText : String :=
  "\x7b\"a\": [\x7b\"type\": \"string\", \"test\": \"b+\"\x7d]\x7d"

def letters : Entries :=
  [(.text "a", .list [.dict [(.text "type", .text "string"), (.text "test", .text "b+")]])]

/-- The list as it is compiled. -/
def lettersSchema : Schema where
  fields := [(.text "a", .dict [(.text "type", .text "array"), (.text "child", .list
    [.dict [(.text "type", .text "string"), (.text "test", .pattern ⟨.text "b+",
      { unicode := true }, .sequence [.repeated .most 1 none (.code 98 .exact)]⟩)]])])]

/-- The list as it is printed. -/
def lettersPrinted : String :=
  "\x7b\n  \"a\": \x7b\n    \"type\": \"array\",\n    \"child\": [\n      \x7b\n"
    ++ "        \"type\": \"string\",\n        \"test\": \"b+\"\n      \x7d\n    ]\n  \x7d\n\x7d"

theorem not_hasLongInteger_letters : ¬Json.HasLongInteger lettersSchema.toValue := by
  rintro ⟨n, hinside, -⟩
  cases hinside with
  | entry among below =>
  obtain rfl := List.mem_singleton.mp among
  cases below with
  | entry among below =>
  rcases List.mem_pair.mp among with rfl | rfl
  · cases below
  cases below with
  | item among below =>
  obtain rfl := List.mem_singleton.mp among
  cases below with
  | entry among below =>
  rcases List.mem_pair.mp among with rfl | rfl <;> cases below

theorem everyForm_letters : ∀ e ∈ letters,
    EveryForm .builtin (fun form => TextKeys (formFields form)) e.2 := by
  refine List.forall_mem_singleton.mpr (.form (expand?_sequence rfl) ?_ fun part hpart => ?_)
  · simp [formFields, TextKeys, keys, Entries.option?_cons, Value.entries?]
  obtain rfl : part = .dict [(.text "type", .text "string"), (.text "test", .text "b+")] := by
    simpa [formParts, formFields, formAlternatives, Entries.option?_cons, Value.entries?,
      Value.items?] using hpart
  have htype : option? ([(.text "type", .text "string"), (.text "test", .text "b+")] : Entries)
      "type" = some (.text "string") := by simp [Entries.option?_cons]
  refine .form (expand?_typed htype) ?_ fun part hpart => ?_
  · simp [formFields, TextKeys, keys, Entries.option?_cons, Entries.option?_nil, Value.entries?]
  · simp [formParts, formFields, formAlternatives, Entries.option?_cons, Entries.option?_nil,
      Value.entries?, Value.items?] at hpart

/-- The printed list has a pattern that is read from the text again. -/
theorem Schema.reload_of_printed_letters :
    ∃ again, Document.loadSchema "json" (lettersPrinted ++ "\n") = .ok again ∧
      Schema.compile .builtin 64 again = .ok lettersSchema := by
  have hload : Document.loadSchema "json" lettersText = .ok (.dict letters) := by cbv
  have hnames : TextKeys letters := by
    simp [letters, TextKeys, keys, Value.isText_text]
  have hschema : Schema.compile .builtin 64 (.dict letters) = .ok lettersSchema := by
    rw [Registry.builtin_eq]
    cbv
  have hprint : Json.print lettersSchema.toValue = .ok lettersPrinted := by cbv
  obtain ⟨text, again, reloaded, htext, -, hagain, hcompile, rfl, -⟩ :=
    (Schema.reload_of_printed hload hnames everyForm_letters hschema).1 not_hasLongInteger_letters
  obtain rfl : lettersPrinted = text := Except.ok.inj (hprint.symm.trans htext)
  exact ⟨again, hagain, hcompile⟩

end DataShape
