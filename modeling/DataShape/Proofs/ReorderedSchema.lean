import DataShape.Proofs.Grammar
import DataShape.Proofs.Reordering
import DataShape.Proofs.Spelling

/-!
# Schemas written in another order

With the built-in types, whether a schema compiles does not depend on how the entries of
its mappings are ordered, neither the fields of objects nor the options of verbose nodes,
and the compiled schemas differ in the order of entries alone. The checks of a node look
its options up, and each field is compiled apart from the others.
-/

namespace DataShape

open Entries (option? setOption keys fields alternatives Rearranges Pointwise)
open Capability (builtins)

/-! ## Options in another order -/

namespace Entries.Rearranges

variable {entries entries' : Entries} {name : String}

theorem exists_right (h : Rearranges Reorders entries entries')
    (hdistinct : DistinctTexts entries) {v : Value} (hv : option? entries name = some v) :
    ∃ v', option? entries' name = some v' ∧ Reorders v v' := by
  have hrel := h.option?_rel hdistinct name
  rw [hv] at hrel
  generalize option? entries' name = found' at hrel ⊢
  cases hrel with
  | some value => exact ⟨_, rfl, value⟩

theorem exists_left (h : Rearranges Reorders entries entries')
    (hdistinct : DistinctTexts entries) {v' : Value} (hv' : option? entries' name = some v') :
    ∃ v, option? entries name = some v ∧ Reorders v v' := by
  have hrel := h.option?_rel hdistinct name
  rw [hv'] at hrel
  generalize option? entries name = found at hrel ⊢
  cases hrel with
  | some value => exact ⟨_, rfl, value⟩

/-- An option without parts is the same in every order. -/
theorem option?_eq (h : Rearranges Reorders entries entries')
    (hdistinct : DistinctTexts entries)
    (hpartless : ∀ v, option? entries name = some v → v.isPartless = true) :
    option? entries' name = option? entries name := by
  have hrel := h.option?_rel hdistinct name
  generalize option? entries' name = found' at hrel ⊢
  generalize option? entries name = found at hrel hpartless ⊢
  cases hrel with
  | none => rfl
  | some value => rw [value.eq_of_isPartless (hpartless _ rfl)]

theorem getD_option? (h : Rearranges Reorders entries entries')
    (hdistinct : DistinctTexts entries) (name : String) (default : Value) :
    Reorders ((option? entries name).getD default) ((option? entries' name).getD default) := by
  have hrel := h.option?_rel hdistinct name
  generalize option? entries' name = found' at hrel ⊢
  generalize option? entries name = found at hrel ⊢
  cases hrel with
  | none => exact .refl default
  | some value => exact value

end Entries.Rearranges

namespace Value

theorem isPartless_of_text? {v : Value} {s : String} (h : v.text? = some s) :
    v.isPartless = true := by
  rcases eq_of_text?_eq_some h with rfl | rfl
  · rfl
  · rfl

end Value

/-- Where options can be listed, the values of the type have no parts. -/
theorem Capability.isPartless_of_accepts {c : Capability} {field : Entries} {v : Value}
    (hc : c ∈ builtins) (henum : "enum" ∈ c.properties) (h : c.accepts v field = .ok true) :
    v.isPartless = true := by
  cases hc using Capability.builtins_cases with
  | string =>
      cases htext : v.text? with
      | none => simp [Capability.string, htext] at h
      | some s => exact Value.isPartless_of_text? htext
  | number =>
      cases htext : v.text? with
      | some s => exact Value.isPartless_of_text? htext
      | none =>
          have hnumber : isNumber v = true := by simpa [Capability.number, htext] using h
          cases v with
          | sequence | set | array | point | mapping => simp [isNumber] at hnumber
          | _ => rfl
  | boolean =>
      have hbool : v.isBool = true := Except.ok.inj h
      cases v with
      | sequence | set | array | point | mapping => simp [Value.isBool] at hbool
      | _ => rfl
  | _ => exact absurd henum (by decide)

namespace Reorders

variable {v v' : Value}

/-- What names a type has no parts. -/
theorem eq_of_resolve? (h : Reorders v v') {tag : String}
    (htag : Registry.builtin.resolve? v = some tag) : v' = v := by
  have hcontains := Compilation.contains_of_resolve? htag
  cases h with
  | refl => rfl
  | @mapping kind entries =>
      rw [Registry.contains_mapping] at hcontains
      simp at hcontains
  | @sequence kind items =>
      rw [Registry.contains_builtin_sequence] at hcontains
      simp at hcontains
  | array | point => exact absurd hcontains Bool.false_ne_true

theorem of_mapping {kind : MappingKind} {entries : Entries}
    (h : Reorders (.mapping kind entries) v') :
    ∃ entries', v' = .mapping kind entries' ∧ Rearranges Reorders entries entries' := by
  cases h with
  | refl => exact ⟨entries, rfl, .refl .refl entries⟩
  | mapping each order => exact ⟨_, rfl, _, each, order⟩

theorem of_sequence {kind : SequenceKind} {items : List Value}
    (h : Reorders (.sequence kind items) v') :
    ∃ items', v' = .sequence kind items' ∧ List.Forall₂ Reorders items items' := by
  cases h with
  | refl => exact ⟨items, rfl, List.forall₂_same.mpr fun v _ => .refl v⟩
  | sequence each => exact ⟨_, rfl, each⟩

theorem dict {entries entries' : Entries} (h : Rearranges Reorders entries entries') :
    Reorders (.dict entries) (.dict entries') := by
  obtain ⟨mid, heach, horder⟩ := h
  exact .mapping heach horder

end Reorders

namespace Compilation

variable {compile : FieldCompiler} {path : Option String} {raw raw' : Value}
  {form form' out out' parts fs entries entries' : Entries} {tag : String} {c : Capability}

/-! ## Forms -/

theorem distinctTexts_form (hraw : raw.EveryMapping DistinctTexts)
    (hform : expand? .builtin raw = some form) : DistinctTexts form := by
  have hshort : ∀ child : Value, DistinctTexts [(.text "type", child)] ∧
      ∀ v : Value, DistinctTexts [(.text "type", v), (.text "child", child)] := by
    intro child
    simp [DistinctTexts, keys]
  unfold expand? at hform
  split at hform
  · cases hform
    exact (hshort raw).1
  · split at hform
    · cases hform
      exact (hshort _).2 _
    · split at hform
      · cases hform
        exact (Value.EveryMapping.mapping_iff.mp hraw).1
      · cases hform
        exact (hshort _).2 _
    · simp at hform

/-- A raw field in another order stands for the form in another order. -/
theorem exists_form_of_reorders (hraw : raw.EveryMapping DistinctTexts) (h : Reorders raw raw')
    (hform : expand? .builtin raw = some form) :
    ∃ form', expand? .builtin raw' = some form' ∧ Rearranges Reorders form form' := by
  have hshort : ∀ {type child child' : Value}, Reorders child child' →
      Rearranges Reorders [(.text "type", type), (.text "child", child)]
        [(.text "type", type), (.text "child", child')] := fun hchild =>
    ⟨_, .cons (.refl _) (.cons hchild .nil), .refl _⟩
  cases h with
  | refl => exact ⟨form, hform, .refl .refl form⟩
  | @mapping kind entries mid entries' each order =>
      have hentries : Rearranges Reorders entries entries' := ⟨mid, each, order⟩
      have hdistinct := (Value.EveryMapping.mapping_iff.mp hraw).1
      cases htype : option? entries "type" with
      | some type =>
          rw [expand?_typed htype] at hform
          cases hform
          obtain ⟨type', htype', -⟩ := hentries.exists_right hdistinct htype
          exact ⟨entries', expand?_typed htype', hentries⟩
      | none =>
          rw [expand?_untyped htype] at hform
          cases hform
          have hnone : option? entries' "type" = none :=
            (hentries.option?_eq hdistinct (by simp [htype])).trans htype
          exact ⟨_, expand?_untyped hnone, hshort (.mapping each order)⟩
  | @sequence kind items items' each =>
      rw [expand?_sequence (Registry.contains_builtin_sequence kind items)] at hform
      cases hform
      exact ⟨_, expand?_sequence (Registry.contains_builtin_sequence kind items'),
        hshort (.sequence each)⟩
  | array | point =>
      simp [expand?, Registry.contains, Registry.resolve?, Value.text?, Value.isHashable,
        Value.unhashable?] at hform

/-! ## Legal options -/

theorem IsPattern.isPartless {v : Value} (h : IsPattern v) : v.isPartless = true := by
  rcases h with ⟨p, rfl⟩ | ⟨source, p, hsource, -⟩
  · rfl
  · exact Value.isPartless_of_text? hsource

theorem isPartless_of_isBool {v : Value} (h : ∃ b, v = .bool b) : v.isPartless = true := by
  obtain ⟨b, rfl⟩ := h
  rfl

theorem declares_of_option? (hknown : ∀ key ∈ keys form, c.Declares key) {name : String}
    (htype : name ≠ "type") {v : Value} (hv : option? form name = some v) :
    name ∈ c.properties := by
  by_contra hundeclared
  simp [Capability.option?_eq_none_of_not_declared hknown htype hundeclared] at hv

theorem IsLegal.of_rearranges (hc : c ∈ builtins) (hforms : Rearranges Reorders form form')
    (hdistinct : DistinctTexts form) (h : IsLegal c form) : IsLegal c form' := by
  have hrequired : option? form' "required" = option? form "required" :=
    hforms.option?_eq hdistinct fun v hv => isPartless_of_isBool (h.required v hv)
  have hcoerce : option? form' "coerce" = option? form "coerce" :=
    hforms.option?_eq hdistinct fun v hv => isPartless_of_isBool (h.coerce v hv)
  have htest : option? form' "test" = option? form "test" :=
    hforms.option?_eq hdistinct fun v hv => (h.test v hv).isPartless
  refine ⟨fun key hkey => h.known key (hforms.keys_perm.mem_iff.mpr hkey), hrequired ▸ h.required,
    hcoerce ▸ h.coerce, htest ▸ h.test, fun v' hv' => ?_⟩
  obtain ⟨v, hv, hreorders⟩ := hforms.exists_left hdistinct hv'
  obtain ⟨kind, options, rfl, haccepts⟩ := h.enum v hv
  obtain ⟨options', rfl, heach⟩ := hreorders.of_sequence
  refine ⟨kind, options', rfl, fun o' ho' => ?_⟩
  obtain ⟨o, ho, hoption⟩ := exists_of_forall₂ heach ho'
  -- a listed option has no parts, so that the type judges the same value
  have henum := declares_of_option? h.known (by decide) hv
  rw [hoption.eq_of_isPartless (Capability.isPartless_of_accepts hc henum (haccepts o ho)),
    accepts_congr hc htest hcoerce]
  exact haccepts o ho

/-! ## Parts in another order -/

/-- Whatever the order inside the raw field, it is compiled, and the fields differ in the
order of entries alone. -/
def Stable (compile : FieldCompiler) (raw : Value) : Prop :=
  ∀ path raw' out, Reorders raw raw' → compile path raw = .ok out →
    ∃ out', compile path raw' = .ok out' ∧ Rearranges Reorders out out'

theorem compileFields_of_pointwise (h : Pointwise Reorders entries entries') :
    ∀ {fs : Entries}, (∀ e ∈ entries, Stable compile e.2) →
      compileFields compile path entries = .ok fs →
      ∃ fs', compileFields compile path entries' = .ok fs' ∧ Pointwise Reorders fs fs' := by
  induction h with
  | nil => exact fun _ hfs => ⟨[], rfl, by cases hfs; exact .nil⟩
  | @cons key v v' entries entries' value rest ih =>
      intro fs hstable hfs
      obtain ⟨hhere, hrest⟩ := List.forall_mem_cons.mp hstable
      obtain ⟨⟨⟩, hname, hfs⟩ := bind_eq_ok.mp hfs
      obtain ⟨out, hout, hfs⟩ := bind_eq_ok.mp hfs
      obtain ⟨others, hothers, hfs⟩ := bind_eq_ok.mp hfs
      cases hfs
      obtain ⟨out', hout', hreorders⟩ := hhere _ _ _ value hout
      obtain ⟨others', hothers', heach⟩ := ih hrest hothers
      refine ⟨(key, .dict out') :: others', ?_, .cons (.dict hreorders) heach⟩
      rw [compileFields, hname, hout', hothers']
      rfl

/-- Each field is compiled at its own path, so that the fields may come in any order. -/
theorem compileFields_of_rearranges (h : Rearranges Reorders entries entries')
    (hstable : ∀ e ∈ entries, Stable compile e.2)
    (hfs : compileFields compile path entries = .ok fs) :
    ∃ fs', compileFields compile path entries' = .ok fs' ∧ Rearranges Reorders fs fs' := by
  obtain ⟨mid, heach, horder⟩ := h
  obtain ⟨fsMid, hmid, hfields⟩ := compileFields_of_pointwise heach hstable hfs
  obtain ⟨fs', hfs', horder'⟩ :=
    List.perm_comp_forall₂ horder.symm (compileFields_eq_ok.mp hmid)
  exact ⟨fs', compileFields_eq_ok.mpr hfs', fsMid, hfields, horder'.symm⟩

theorem compileAlternatives_of_reorders {items items' : List Value}
    (h : List.Forall₂ Reorders items items') :
    ∀ {i : Nat} {outs : List Value}, (∀ item ∈ items, Stable compile item) →
      compileAlternatives compile path i items = .ok outs →
      ∃ outs', compileAlternatives compile path i items' = .ok outs' ∧
        List.Forall₂ Reorders outs outs' := by
  induction h with
  | nil => exact fun _ houts => ⟨[], rfl, by cases houts; exact .nil⟩
  | @cons item item' items items' here rest ih =>
      intro i outs hstable houts
      obtain ⟨hhere, hrest⟩ := List.forall_mem_cons.mp hstable
      obtain ⟨out, hout, houts⟩ := bind_eq_ok.mp houts
      obtain ⟨others, hothers, houts⟩ := bind_eq_ok.mp houts
      cases houts
      obtain ⟨out', hout', hreorders⟩ := hhere _ _ _ here hout
      obtain ⟨others', hothers', heach⟩ := ih hrest hothers
      refine ⟨.dict out' :: others', ?_, .cons (.dict hreorders) heach⟩
      rw [compileAlternatives, hout', hothers']
      rfl

theorem formFields_of_rearranges (h : Rearranges Reorders form form')
    (hdistinct : DistinctTexts form) :
    Rearranges Reorders (formFields form) (formFields form') :=
  (h.getD_option? hdistinct "child" (.dict [])).entries

theorem formAlternatives_of_rearranges (h : Rearranges Reorders form form')
    (hdistinct : DistinctTexts form) :
    List.Forall₂ Reorders (formAlternatives form) (formAlternatives form') :=
  (h.getD_option? hdistinct "child" (.list [])).items

theorem stable_of_mem_formFields (hstable : ∀ part ∈ formParts form, Stable compile part) :
    ∀ e ∈ formFields form, Stable compile e.2 := fun _ he =>
  hstable _ (List.mem_append_left _ (List.mem_map_of_mem he))

theorem stable_of_mem_formAlternatives (hstable : ∀ part ∈ formParts form, Stable compile part) :
    ∀ item ∈ formAlternatives form, Stable compile item := fun _ hitem =>
  hstable _ (List.mem_append_right _ hitem)

theorem compileChildren_of_rearranges (hforms : Rearranges Reorders form form')
    (hdistinct : DistinctTexts form) (hstable : ∀ part ∈ formParts form, Stable compile part)
    (hparts : compileChildren compile path tag (setOption form "type" (.text tag)) = .ok parts) :
    ∃ parts', compileChildren compile path tag (setOption form' "type" (.text tag))
      = .ok parts' := by
  have hchild : ∀ form : Entries, option? (setOption form "type" (.text tag)) "child"
      = option? form "child" := fun form => Entries.option?_setOption_of_ne _ _ (by decide)
  by_cases hobject : tag = Capability.objectTag
  · subst hobject
    obtain ⟨kind, entries, fs, hentries, hfs, -⟩ := compileChildren_object.mp hparts
    rw [hchild] at hentries
    have hreorders := hforms.getD_option? hdistinct "child" (.dict [])
    rw [hentries] at hreorders
    obtain ⟨entries', hentries', hrearranges⟩ := hreorders.of_mapping
    have hfields : formFields form = entries := by
      rw [formFields, hentries]
      rfl
    obtain ⟨fs', hfs', -⟩ := compileFields_of_rearranges hrearranges
      (hfields ▸ stable_of_mem_formFields hstable) hfs
    exact ⟨_, compileChildren_object.mpr
      ⟨kind, entries', fs', by rw [hchild, hentries'], hfs', rfl⟩⟩
  · by_cases harray : tag = Capability.arrayTag
    · subst harray
      obtain ⟨kind, items, outs, hitems, houts, -⟩ := compileChildren_array.mp hparts
      rw [hchild] at hitems
      have hreorders := hforms.getD_option? hdistinct "child" (.list [])
      rw [hitems] at hreorders
      obtain ⟨items', hitems', heach⟩ := hreorders.of_sequence
      have halternatives : formAlternatives form = items := by
        rw [formAlternatives, hitems]
        rfl
      obtain ⟨outs', houts', -⟩ := compileAlternatives_of_reorders heach
        (halternatives ▸ stable_of_mem_formAlternatives hstable) houts
      exact ⟨_, compileChildren_array.mpr
        ⟨kind, items', outs', by rw [hchild, hitems'], houts', rfl⟩⟩
    · exact ⟨_, (compileChildren_leaf hobject harray).mpr rfl⟩

/-! ## The outcome of one level -/

theorem distinctTexts_out (hdistinct : DistinctTexts form)
    (h : Outcome .builtin compile path tag c form out) : DistinctTexts out := by
  rw [DistinctTexts, h.keeps.keys, List.filterMap_append]
  refine List.Nodup.append hdistinct ?_ ?_
  · split
    · simp
    · simp
  · split
    · rename_i hadded
      -- the child is added where the form has none
      refine List.disjoint_singleton.mpr fun hmem => ?_
      obtain ⟨key, hkey, htext⟩ := List.mem_filterMap.mp hmem
      exact Entries.option?_eq_none_iff.mp hadded.2 key hkey htext
    · simp

theorem keys_perm_out (hforms : Rearranges Reorders form form')
    (h : Outcome .builtin compile path tag c form out)
    (h' : Outcome .builtin compile path tag c form' out') : (keys out).Perm (keys out') := by
  have hchild : option? form "child" = none ↔ option? form' "child" = none := by
    rw [Entries.option?_eq_none_iff, Entries.option?_eq_none_iff]
    simp only [hforms.keys_perm.mem_iff]
  rw [h.keeps.keys, h'.keeps.keys]
  simp only [hchild]
  exact hforms.keys_perm.append_right _

section

variable (hforms : Rearranges Reorders form form') (hdistinct : DistinctTexts form)
  (hstable : ∀ part ∈ formParts form, Stable compile part)
  (h : Outcome .builtin compile path tag c form out)
  (h' : Outcome .builtin compile path tag c form' out')

include hforms hdistinct h h'

theorem enum_out_rel : Option.Rel Reorders (option? out "enum") (option? out' "enum") := by
  rcases h.keeps.enum with ⟨hnone, hout⟩ | ⟨kind, options, hoptions, hout⟩
  · have hnone' : option? form' "enum" = none :=
      (hforms.option?_eq hdistinct (by simp [hnone])).trans hnone
    rcases h'.keeps.enum with ⟨-, hout'⟩ | ⟨kind', options', hoptions', -⟩
    · rw [hout, hout']
      exact .none
    · simp [hnone'] at hoptions'
  · rcases h'.keeps.enum with ⟨hnone', -⟩ | ⟨kind', options', hoptions', hout'⟩
    · have hrel := hforms.option?_rel hdistinct "enum"
      rw [hoptions, hnone'] at hrel
      cases hrel
    · obtain ⟨v, hv, hreorders⟩ := hforms.exists_left hdistinct hoptions'
      obtain rfl : _ = v := Option.some.inj (hoptions.symm.trans hv)
      obtain ⟨items, hitems, heach⟩ := hreorders.of_sequence
      cases hitems
      rw [hout, hout']
      exact .some (.sequence heach)

theorem test_out_rel : Option.Rel Reorders (option? out "test") (option? out' "test") := by
  have hrel := hforms.option?_rel hdistinct "test"
  rcases h.keeps.test with hsame | ⟨hstring, v, source, p, hv, hsource, hread, hout⟩
  · rcases h'.keeps.test with hsame' | ⟨hstring, v', source, p, hv', hsource, -, -⟩
    · rw [hsame, hsame']
      exact hrel
    -- a pattern in the one order is no text in the other
    · obtain ⟨v, hv, hreorders⟩ := hforms.exists_left hdistinct hv'
      obtain ⟨p, rfl⟩ := h.canonical.test hstring v (hsame.trans hv)
      rw [hreorders.eq_of_isPartless rfl] at hsource
      simp [Value.text?] at hsource
  · have hv' : option? form' "test" = some v :=
      (hforms.option?_eq hdistinct fun w hw => by
        obtain rfl : v = w := Option.some.inj (hv.symm.trans hw)
        exact Value.isPartless_of_text? hsource).trans hv
    rcases h'.keeps.test with hsame' | ⟨-, w, source', p', hw, hsource', hread', hout'⟩
    · obtain ⟨q, rfl⟩ := h'.canonical.test hstring v (hsame'.trans hv')
      simp [Value.text?] at hsource
    · obtain rfl : v = w := Option.some.inj (hv'.symm.trans hw)
      obtain rfl : source = source' := Option.some.inj (hsource.symm.trans hsource')
      obtain rfl : p = p' := Except.ok.inj (hread.symm.trans hread')
      rw [hout, hout']
      exact .some (.refl _)

include hstable

theorem child_out_rel : Option.Rel Reorders (option? out "child") (option? out' "child") := by
  by_cases hobject : tag = Capability.objectTag
  · obtain ⟨fs, hchild⟩ := h.canonical.object hobject
    obtain ⟨fs', hchild'⟩ := h'.canonical.object hobject
    have htag : Entries.tag? out = some Capability.objectTag := hobject ▸ h.canonical.tag?_eq
    have htag' : Entries.tag? out' = some Capability.objectTag := hobject ▸ h'.canonical.tag?_eq
    obtain ⟨gs, hgs, hrearranges⟩ := compileFields_of_rearranges
      (formFields_of_rearranges hforms hdistinct) (stable_of_mem_formFields hstable)
      (h.fields hobject)
    rw [h'.fields hobject, Except.ok.injEq, Entries.fields_of_child htag' hchild'] at hgs
    rw [Entries.fields_of_child htag hchild, ← hgs] at hrearranges
    rw [hchild, hchild']
    exact .some (.dict hrearranges)
  · by_cases harray : tag = Capability.arrayTag
    · obtain ⟨items, hchild⟩ := h.canonical.array harray
      obtain ⟨items', hchild'⟩ := h'.canonical.array harray
      have htag : Entries.tag? out = some Capability.arrayTag := harray ▸ h.canonical.tag?_eq
      have htag' : Entries.tag? out' = some Capability.arrayTag := harray ▸ h'.canonical.tag?_eq
      obtain ⟨outs, houts, heach⟩ := compileAlternatives_of_reorders
        (formAlternatives_of_rearranges hforms hdistinct) (stable_of_mem_formAlternatives hstable)
        (h.alternatives harray)
      rw [h'.alternatives harray, Except.ok.injEq,
        Entries.alternatives_of_child htag' hchild'] at houts
      rw [Entries.alternatives_of_child htag hchild, ← houts] at heach
      rw [hchild, hchild']
      exact .some (.sequence heach)
    · rw [h.keeps.child hobject harray, h'.keeps.child hobject harray]
      exact hforms.option?_rel hdistinct "child"

theorem option?_out_rel (name : String) :
    Option.Rel Reorders (option? out name) (option? out' name) := by
  by_cases htype : name = "type"
  · rw [htype, h.canonical.type, h'.canonical.type]
    exact .some (.refl _)
  · by_cases hchild : name = "child"
    · rw [hchild]
      exact child_out_rel hforms hdistinct hstable h h'
    · by_cases htest : name = "test"
      · rw [htest]
        exact test_out_rel hforms hdistinct h h'
      · by_cases henum : name = "enum"
        · rw [henum]
          exact enum_out_rel hforms hdistinct h h'
        · rw [h.keeps.other name htype hchild htest henum,
            h'.keeps.other name htype hchild htest henum]
          exact hforms.option?_rel hdistinct name

theorem rearranges_out : Rearranges Reorders out out' := by
  have hkeys := keys_perm_out hforms h h'
  have hout := distinctTexts_out hdistinct h
  refine .of_keys hkeys fun e he e' he' hkey => ?_
  obtain ⟨name, hname, -⟩ := h.canonical.known e.1 (List.mem_map_of_mem he)
  have hrel := option?_out_rel hforms hdistinct hstable h h' name
  rw [Entries.option?_of_mem hout he hname,
    Entries.option?_of_mem (hout.perm hkeys) he' (hkey ▸ hname)] at hrel
  cases hrel with
  | some value => exact value

end

/-! ## All levels -/

/-- The checks of a node accept it in the other order too. -/
theorem exists_step_of_reorders (hraw : raw.EveryMapping DistinctTexts)
    (h : Reorders raw raw') (hstable : ∀ form, expand? .builtin raw = some form →
      ∀ part ∈ formParts form, Stable compile part)
    (hs : Step .builtin compile path raw out) : ∃ out', Step .builtin compile path raw' out' := by
  obtain ⟨form, tag, c, parts, kept, hform, htag, hregistered, hparts, hknown, hrequired, hkept,
    hout⟩ := hs
  obtain ⟨form', hform', hforms⟩ := exists_form_of_reorders hraw h hform
  have hdistinct := distinctTexts_form hraw hform
  obtain ⟨hc, rfl⟩ := Registry.of_capability?_builtin hregistered
  have htype := hforms.getD_option? hdistinct "type" .null
  obtain ⟨parts', hparts'⟩ :=
    compileChildren_of_rearranges hforms hdistinct (hstable form hform) hparts
  have hlegal : IsLegal c form :=
    (isLegal_parts_iff hform hparts hc).mp
      ((exists_checkField_iff_isLegal hc (type_compileChildren hparts)).mp
        ⟨out, checkField_eq_ok.mpr ⟨hknown, hrequired, kept, hkept, hout⟩⟩)
  obtain ⟨out', hout'⟩ := (exists_checkField_iff_isLegal hc (type_compileChildren hparts')).mpr
    ((isLegal_parts_iff hform' hparts' hc).mpr (hlegal.of_rearranges hc hforms hdistinct))
  obtain ⟨hknown', hrequired', kept', hkept', hlisted'⟩ := checkField_eq_ok.mp hout'
  refine ⟨out', form', c.name, c, parts', kept', hform', ?_, hregistered, hparts', hknown',
    hrequired', hkept', hlisted'⟩
  rw [htype.eq_of_resolve? htag]
  exact htag

/-- The induction is on the levels: each node has the same options in both orders, and its
parts are below. -/
theorem stable_compileField {limit : Int} : ∀ {levels : Nat} {raw : Value},
    raw.EveryMapping DistinctTexts → Stable (compileField .builtin limit levels) raw
  | 0, _, _ => fun _ _ _ _ h => absurd h compileField_zero_ne_ok
  | levels + 1, raw, hraw => by
      intro path raw' out h hout
      have hstable : ∀ form, expand? .builtin raw = some form →
          ∀ part ∈ formParts form, Stable (compileField .builtin limit levels) part :=
        fun form hform part hpart => stable_compileField (everyMapping_of_mem_formParts
          (fun _ hchild => everyMapping_child hform hraw hchild) part hpart)
      have hs := compileField_succ_eq_ok.mp hout
      obtain ⟨out', hs'⟩ := exists_step_of_reorders hraw h hstable hs
      obtain ⟨form, tag, c, hform, houtcome⟩ := hs.outcome Registry.Reachable.seeded.regular
      obtain ⟨found, tag', c', hfound, houtcome'⟩ := hs'.outcome Registry.Reachable.seeded.regular
      obtain ⟨form', hform', hforms⟩ := exists_form_of_reorders hraw h hform
      obtain rfl : form' = found := Option.some.inj (hform'.symm.trans hfound)
      have hdistinct := distinctTexts_form hraw hform
      -- both forms are of one type
      have htype := (hforms.getD_option? hdistinct "type" .null).eq_of_resolve? houtcome.keeps.type
      have htag := houtcome'.keeps.type
      rw [htype, houtcome.keeps.type] at htag
      obtain rfl : tag = tag' := Option.some.inj htag
      obtain rfl : c = c' := Option.some.inj
        (houtcome.canonical.registered.symm.trans houtcome'.canonical.registered)
      exact ⟨out', compileField_succ_eq_ok.mpr hs',
        rearranges_out hforms hdistinct (hstable form hform) houtcome houtcome'⟩

end Compilation

open Compilation

namespace Schema

variable {maxDepth : Int} {raw raw' : Value} {s : Schema}

/-- A schema that compiles also compiles in another order, to the same fields in another
order. -/
theorem exists_compile_of_reorders (hraw : raw.EveryMapping DistinctTexts)
    (h : Reorders raw raw') (hs : compile .builtin maxDepth raw = .ok s) :
    ∃ s', compile .builtin maxDepth raw' = .ok s' ∧ Reorders s.toValue s'.toValue := by
  obtain ⟨fs, hfs, rfl⟩ := map_eq_ok.mp hs
  cases raw with
  | mapping kind entries =>
      obtain ⟨entries', rfl, hentries⟩ := h.of_mapping
      obtain ⟨fs', hfs', hfields⟩ := compileFields_of_rearranges hentries
        (fun e he => stable_compileField ((Value.EveryMapping.mapping_iff.mp hraw).2 e he)) hfs
      exact ⟨⟨fs', maxDepth⟩, map_eq_ok.mpr ⟨fs', hfs', rfl⟩, .dict hfields⟩
  | _ => exact absurd hfs reject_ne_ok

end Schema

end DataShape
