import DataShape.Proofs.ReorderedFailures

/-!
# The order of entries is irrelevant

Reordering the mappings of a raw schema and of a value changes the order of the errors and
nothing else. A check that returns in one order returns in the other, since every field of an
object is checked in any order and the alternatives of an array come in one order; and what
it reports are the failures of the value, which are the same in both.
-/

namespace DataShape

open Entries (option? keys fields alternatives parts isOn Rearranges Pointwise)

namespace Validation

variable {check : Check} {parent path : Value} {place : String} {errors : ErrorSet}
  {v v' : Value} {field field' schema schema' : Entries} {tag : String} {c : Capability}

/-- In another order the check of a part returns too, and finds errors in both orders or in
none. -/
def Stays (check : Check) (part part' : Value) : Prop :=
  ∀ ⦃v v' name parent : Value⦄ ⦃place : String⦄ ⦃s : Segment⦄ ⦃errors : ErrorSet⦄,
    Reorders v v' → v.EveryMapping Named → Stands parent place → name.text? = some s.text →
    s.IsPlain → check v part name parent = .ok errors →
    ∃ errors', check v' part' name parent = .ok errors' ∧ errors'.isEmpty = errors.isEmpty

/-- One step is the same for both, and what follows it returns for both. -/
theorem exists_bind {α β : Type} {x : Except Fault α} {f g : α → Except Fault β} {b : β}
    (h : (x >>= f) = .ok b)
    (hfg : ∀ a b, x = .ok a → f a = .ok b → ∃ b', g a = .ok b') : ∃ b', (x >>= g) = .ok b' := by
  obtain ⟨a, ha, h⟩ := bind_eq_ok.mp h
  obtain ⟨b', hb'⟩ := hfg a b ha h
  exact ⟨b', bind_eq_ok.mpr ⟨a, ha, hb'⟩⟩

/-! ## The parts of an object -/

/-- All fields are checked, in whatever order they come. -/
theorem exists_checkFields_iff {entries : Entries} :
    ∀ {schema : Entries} {acc : ErrorSet},
      (∃ errors, checkFields check entries parent acc schema = .ok errors) ↔
        ∀ e ∈ schema, ∃ more,
          check ((Entries.get? entries e.1).getD .missing) e.2 e.1 parent = .ok more
  | [], acc => iff_of_true ⟨acc, rfl⟩ (List.forall_mem_nil _)
  | (name, part) :: rest, acc => by
      rw [List.forall_mem_cons, checkFields]
      constructor
      · rintro ⟨errors, h⟩
        obtain ⟨more, hmore, h⟩ := bind_eq_ok.mp h
        exact ⟨⟨more, hmore⟩, exists_checkFields_iff.mp ⟨errors, h⟩⟩
      · rintro ⟨⟨more, hmore⟩, hrest⟩
        obtain ⟨errors, herrors⟩ := exists_checkFields_iff.mpr hrest
        exact ⟨errors, bind_eq_ok.mpr ⟨more, hmore, herrors⟩⟩

theorem exists_checkKeys (schema : Entries) (hparent : Stands parent place) :
    ∀ {names : List Value} (acc : ErrorSet), (∀ key ∈ names, key.IsText) →
      ∃ errors, checkKeys schema parent acc names = .ok errors
  | [], acc, _ => ⟨acc, rfl⟩
  | key :: rest, acc, hnames => by
      obtain ⟨hkey, hrest⟩ := List.forall_mem_cons.mp hnames
      rw [checkKeys]
      split
      · exact exists_checkKeys schema hparent acc hrest
      · obtain ⟨path, hpath⟩ :=
          exists_joinValue_of_stands hparent (Value.text?_text key.display)
        obtain ⟨errors, herrors⟩ :=
          exists_checkKeys schema hparent (acc.put path unknownProperty) hrest
        exact ⟨errors, bind_eq_ok.mpr
          ⟨(), hkey.checkWritable, bind_eq_ok.mpr ⟨path, hpath, herrors⟩⟩⟩

theorem exists_checkObject (hstays : ∀ e ∈ schema, ∀ part', SameDemands e.2 part' →
      Stays check e.2 part') (hschema : Named schema)
    (hrearranges : Rearranges SameDemands schema schema') (h : Reorders v v')
    (hv : v.EveryMapping Named) (hparent : Stands parent place)
    (hcheck : checkObject check v (.dict schema) parent = .ok errors) :
    ∃ errors', checkObject check v' (.dict schema') parent = .ok errors' := by
  cases v with
  | mapping kind entries =>
      obtain ⟨entries', rfl, hentries⟩ := h.of_mapping
      obtain ⟨found, hfound, -⟩ := bind_eq_ok.mp hcheck
      obtain ⟨found', hfound'⟩ : ∃ found', checkFields check entries' parent [] schema'
          = .ok found' := by
        refine exists_checkFields_iff.mpr fun e' he' => ?_
        obtain ⟨e, he, hname, hdemands⟩ := hrearranges.mem he'
        obtain ⟨more, hmore⟩ := exists_checkFields_iff.mp ⟨found, hfound⟩ e he
        obtain ⟨s, hs, hplain⟩ := hschema.plain e.1 (List.mem_map_of_mem he)
        have hpart := h.part hv ⟨s, hs⟩
        obtain ⟨more', hmore', -⟩ := hstays e he e'.2 hdemands (s := .name s) hpart (hv.part e.1)
          hparent hs hplain hmore
        exact ⟨more', hname ▸ hmore'⟩
      have hnames : ∀ key ∈ keys entries', key.IsText := by
        intro key hkey
        obtain ⟨s, hs, -⟩ := (Value.EveryMapping.mapping_iff.mp hv).1.plain key
          (hentries.keys_perm.mem_iff.mpr hkey)
        exact ⟨s, hs⟩
      obtain ⟨errors', herrors'⟩ := exists_checkKeys schema' hparent found' hnames
      exact ⟨errors', bind_eq_ok.mpr ⟨found', hfound', herrors'⟩⟩
  | _ => simp [checkObject] at hcheck

/-! ## The elements of an array -/

/-- The alternatives are tried up to the same one. -/
theorem matchesAny_eq_ok_of_stays {choices choices' : List Value} {i : Nat} {b : Bool}
    (hchoices : List.Forall₂ (Stays check) choices choices') (h : Reorders v v')
    (hv : v.EveryMapping Named) (hpath : Stands path place) :
    Matching.matchesAny check v i path choices = .ok b →
      Matching.matchesAny check v' i path choices' = .ok b := by
  induction hchoices with
  | nil => exact id
  | cons here rest ih =>
      intro hmatch
      rw [Matching.matchesAny] at hmatch ⊢
      obtain ⟨errors, herrors, hmatch⟩ := bind_eq_ok.mp hmatch
      obtain ⟨errors', herrors', hempty⟩ := here (s := .index i) h hv hpath rfl trivial herrors
      refine bind_eq_ok.mpr ⟨errors', herrors', ?_⟩
      rw [hempty]
      split at hmatch
      · rename_i hnone
        rw [if_pos hnone]
        exact hmatch
      · rename_i hsome
        rw [if_neg hsome]
        exact ih hmatch

theorem exists_matchElements {choices choices' elements elements' : List Value}
    (hchoices : List.Forall₂ (Stays check) choices choices')
    (helements : List.Forall₂ Reorders elements elements') (hpath : Stands path place) :
    ∀ {i : Nat} {acc acc' : ErrorSet}, (∀ element ∈ elements, element.EveryMapping Named) →
      Matching.matchElements check choices path i acc elements = .ok errors →
      ∃ errors', Matching.matchElements check choices' path i acc' elements' = .ok errors' := by
  induction helements with
  | nil => exact fun {_ _ acc'} _ _ => ⟨acc', rfl⟩
  | @cons element element' rest rest' here below ih =>
      intro i acc acc' hnamed hmatch
      obtain ⟨hhere, hrest⟩ := List.forall_mem_cons.mp hnamed
      rw [Matching.matchElements] at hmatch ⊢
      obtain ⟨found, hfound, hmatch⟩ := bind_eq_ok.mp hmatch
      have hfound' := matchesAny_eq_ok_of_stays hchoices here hhere hpath hfound
      cases found with
      | true =>
          obtain ⟨errors', herrors'⟩ := ih hrest hmatch
          exact ⟨errors', bind_eq_ok.mpr ⟨true, hfound', herrors'⟩⟩
      | false =>
          obtain ⟨place, hplace, hmatch⟩ := bind_eq_ok.mp hmatch
          obtain ⟨errors', herrors'⟩ := ih hrest hmatch
          exact ⟨errors', bind_eq_ok.mpr ⟨false, hfound', bind_eq_ok.mpr ⟨place, hplace, herrors'⟩⟩⟩

theorem exists_matchArray (h : Reorders v v') (hsequence : Capability.isSequence v = true)
    (hv : v.EveryMapping Named) {kind : MappingKind} {items items' : List Value}
    (hrequired : isOn field' "required" = isOn field "required")
    (hchild : option? field "child" = some (.list items))
    (hchild' : option? field' "child" = some (.list items'))
    (hchoices : List.Forall₂ (Stays check) items items') (hpath : Stands path place)
    (hmatch : Matching.matchArray check v (.mapping kind field) path = .ok errors) :
    ∃ errors', Matching.matchArray check v' (.mapping kind field') path = .ok errors' := by
  have hsequence' : Capability.isSequence v' = true := h.alike.sequence ▸ hsequence
  unfold Matching.matchArray at hmatch ⊢
  simp only [hsequence, hsequence', Bool.not_true, Bool.false_eq_true, if_false, lift_eq, ite_bind,
    hchild, hchild', hrequired, h.length_eq, Option.getD_some] at hmatch ⊢
  refine exists_bind hmatch fun isLeftEmpty errors _ hmatch => ?_
  have htrue : (Value.list items').isTrue = (Value.list items).isTrue := by
    cases hchoices with
    | nil => rfl
    | cons => rfl
  rw [htrue]
  split at hmatch
  · rename_i hleft
    rw [if_pos hleft]
    exact ⟨errors, hmatch⟩
  · rename_i hleft
    rw [if_neg hleft]
    split at hmatch
    · rename_i hfree
      rw [if_pos hfree]
      exact ⟨_, rfl⟩
    · rename_i hbound
      rw [if_neg hbound]
      obtain ⟨elements, hwalk, hmatch⟩ := bind_eq_ok.mp hmatch
      obtain ⟨elements', hwalk', heach⟩ := h.walk hsequence hwalk
      have hnamed : ∀ element ∈ elements, element.EveryMapping Named :=
        Value.members_of_walk hwalk ▸ hv.of_mem_members hsequence
      rw [hwalk']
      cases heach with
      | nil => exact ⟨_, rfl⟩
      | cons here rest => exact exists_matchElements hchoices (.cons here rest) hpath hnamed hmatch

/-! ## One level of checking -/

section

variable (hdemands : SameDemands (.dict field) (.dict field')) (h : Reorders v v')
  (hv : v.EveryMapping Named) (hpath : Stands path place)
  (hstays : ∀ part ∈ parts field, ∀ part', SameDemands part part' → Stays check part part')
  (hnamed : Named (fields field))

include hdemands h hv hpath hstays hnamed

/-- What its own field accepts has its parts checked in both orders. -/
theorem exists_checkParts (hfield : IsCanonical .builtin tag c field)
    (haccepted : c.accepts v field = .ok true)
    (hcheck : checkParts check v .plain field path = .ok errors) :
    ∃ errors', checkParts check v' .plain field' path = .ok errors' := by
  cases hdemands with
  | @node tag' c' _ mid _ left right options each order choices =>
      obtain rfl : tag = tag' := Option.some.inj (hfield.tag?_eq.symm.trans left.tag?_eq)
      have hrequired : isOn field' "required" = isOn field "required" :=
        Entries.isOn_of_option?_eq (options _ (by decide))
      by_cases hobject : tag = Capability.objectTag
      · subst hobject
        obtain ⟨fs, hchild⟩ := left.object rfl
        obtain ⟨fs', hchild'⟩ := right.object rfl
        have hfields := Entries.fields_of_child left.tag?_eq hchild
        rw [hfields] at each hnamed
        rw [Entries.fields_of_child right.tag?_eq hchild'] at order
        rw [checkParts_object left.type, hchild] at hcheck
        rw [checkParts_object right.type, hchild', hrequired, h.length_eq]
        refine exists_bind hcheck fun isLeftEmpty errors _ hcheck => ?_
        cases isLeftEmpty with
        | true => exact ⟨errors, hcheck⟩
        | false =>
            refine exists_checkObject (fun e he => hstays _ ?_) hnamed ⟨mid, each, order⟩ h hv
              hpath hcheck
            exact List.mem_append_left _ (List.mem_map_of_mem (hfields ▸ he))
      · by_cases harray : tag = Capability.arrayTag
        · subst harray
          obtain rfl : Capability.array = c := Option.some.inj hfield.registered
          obtain ⟨items, hchild⟩ := left.array rfl
          obtain ⟨items', hchild'⟩ := right.array rfl
          have halternatives := Entries.alternatives_of_child left.tag?_eq hchild
          rw [halternatives, Entries.alternatives_of_child right.tag?_eq hchild'] at choices
          have hchoices : List.Forall₂ (Stays check) items items' :=
            forall₂_imp_of_mem (fun choice hmem =>
              hstays choice (List.mem_append_right _ (halternatives ▸ hmem))) choices
          rw [checkParts_array left.type] at hcheck
          rw [checkParts_array right.type]
          exact exists_matchArray h (Except.ok.inj haccepted) hv hrequired hchild hchild' hchoices
            hpath hcheck
        · exact ⟨[], checkParts_leaf right.type hobject harray⟩

theorem exists_checkValue (hfield : IsCanonical .builtin tag c field)
    (hcheck : checkValue check c v .plain field path = .ok errors) :
    ∃ errors', checkValue check c v' .plain field' path = .ok errors' := by
  have hparts : c.accepts v field = .ok true → ∀ errors,
      checkParts check v .plain field path = .ok errors →
      ∃ errors', checkParts check v' .plain field' path = .ok errors' := fun haccepted _ =>
    exists_checkParts hdemands h hv hpath hstays hnamed hfield haccepted
  cases hdemands with
  | @node _ _ _ mid _ left right options each order choices =>
      have hrequired : isOn field' "required" = isOn field "required" :=
        Entries.isOn_of_option?_eq (options _ (by decide))
      unfold checkValue at hcheck ⊢
      rw [ite_bind] at hcheck ⊢
      rw [hrequired, isEmpty_eq_of_reorders hfield options h,
        accepts_eq_of_reorders hfield options h]
      refine exists_bind hcheck fun isNotGiven errors _ hcheck => ?_
      cases isNotGiven with
      | true => exact ⟨_, rfl⟩
      | false =>
          refine exists_bind hcheck fun isAccepted errors haccepted hcheck => ?_
          cases isAccepted with
          | false => exact ⟨_, rfl⟩
          | true =>
              have hoption : checkOption v' field' path = checkOption v field path := by
                rw [checkOption, checkOption, options "enum" (by decide)]
                cases henum : option? field "enum" with
                | none => rfl
                | some w => rw [eq_of_enum hfield h henum haccepted]
              simp only [Bool.not_true, Bool.false_eq_true, if_false, hoption] at hcheck ⊢
              refine exists_bind hcheck fun found errors _ hcheck => ?_
              cases found with
              | some errors => exact ⟨_, rfl⟩
              | none => exact hparts haccepted errors hcheck

end

/-! ## All levels -/

/-- The induction is on the levels. What is reported are the failures, so that errors are
found in both orders or in none. -/
theorem stays_checkWithin : ∀ {levels : Nat} {part part' : Value}, part.EveryObject Named →
    SameDemands part part' → Stays (checkWithin .builtin levels) part part'
  | 0, _, _, _, _ => fun _ _ _ _ _ _ _ _ _ _ _ _ hcheck => absurd hcheck checkWithin_zero_ne_ok
  | levels + 1, part, part', hpart, hdemands => by
      intro v v' name parent place s errors h hv hparent hname hs hcheck
      obtain ⟨errors', hcheck'⟩ :
          ∃ errors', checkWithin .builtin (levels + 1) v' part' name parent = .ok errors' := by
        have hall := hdemands
        cases hdemands with
        | @node tag c field mid field' left right options each order choices =>
            have hrequired : isOn field' "required" = isOn field "required" :=
              Entries.isOn_of_option?_eq (options _ (by decide))
            rw [checkWithin] at hcheck ⊢
            refine exists_bind hcheck fun path errors hpath hcheck => ?_
            have hplace : Stands path (Path.join (some place) s.text) :=
              Or.inr ⟨Position.join_ne_empty hs, text?_of_joinValue hparent hname hpath⟩
            dsimp only at hcheck ⊢
            rw [left.type, Option.getD_some, Registry.lookup?_text, left.registered] at hcheck
            rw [right.type, Option.getD_some, Registry.lookup?_text, right.registered, hrequired,
              isMissing_eq_of_reorders h]
            split at hcheck
            · rename_i habsent
              rw [if_pos habsent]
              exact ⟨_, rfl⟩
            · rename_i hthere
              rw [if_neg hthere]
              exact exists_checkValue hall h hv hplace (fun part hmem part' hsame =>
                stays_checkWithin (hpart.of_mem_parts part hmem) hsame) hpart.at_root left hcheck
      refine ⟨errors', hcheck', ?_⟩
      have hshows := reports_checkWithin (levels + 1) hcheck hpart hv hparent hname hs
      have hshows' := reports_checkWithin (levels + 1) hcheck'
        (hdemands.everyObject Named.perm hpart) (h.everyMapping Named.perm hv) hparent hname hs
      rw [hshows.isEmpty_eq, hshows'.isEmpty_eq, List.isEmpty_map, List.isEmpty_map,
        (failures_perm hpart hdemands h hv).isEmpty_eq]

end Validation

/-! ## Whole schemas -/

/-- The same messages at the same paths, in some order, and no path twice. -/
def ErrorSet.SameMessages (errors errors' : ErrorSet) : Prop :=
  ∃ reports reports' : List (String × String), errors.Shows reports ∧ errors'.Shows reports' ∧
    (reports.map Prod.fst).Nodup ∧ reports.Perm reports'

namespace Schema

open Value.EveryMapping (mapping_iff of_leaf)

variable {maxDepth : Int} {raw raw' value value' : Value} {s s' : Schema} {errors : ErrorSet}

/-- The nodes of a schema can be checked, and no two options of one have the same name. -/
def Canonical (s : Schema) : Prop :=
  ∀ e ∈ s.fields, EveryNode (fun _ node => IsCanonicalNode .builtin node ∧ DistinctTexts node)
    (some (Path.join none e.1.display)) e.2

theorem canonical_of_compile (hraw : raw.EveryMapping DistinctTexts)
    (hs : compile .builtin maxDepth raw = .ok s) :
    s.Canonical := by
  obtain ⟨fs, hfs, rfl⟩ := map_eq_ok.mp hs
  cases raw with
  | mapping kind entries =>
      intro e he
      obtain ⟨raw', hmem, -, out, hout, rfl⟩ :=
        Compilation.exists_of_forall₂ (Compilation.compileFields_eq_ok.mp hfs) he
      refine Compilation.everyNode_of_compileField (Q := Value.EveryMapping DistinctTexts)
        Registry.Reachable.seeded.regular (fun hform hevery =>
          Compilation.everyMapping_of_mem_formParts fun _ hchild =>
            Compilation.everyMapping_child hform hevery hchild) (fun hevery hstep => ?_)
        ((Value.EveryMapping.mapping_iff.mp hraw).2 raw' hmem) hout
      obtain ⟨form, tag, c, hform, houtcome⟩ := hstep.outcome Registry.Reachable.seeded.regular
      exact ⟨⟨tag, c, houtcome.canonical⟩,
        Compilation.distinctTexts_out (Compilation.distinctTexts_form hevery hform) houtcome⟩
  | _ => exact absurd hfs Compilation.reject_ne_ok

theorem sameDemands_of_reorders (hnodes : s.Canonical) (h : Reorders s.toValue s'.toValue) :
    Rearranges SameDemands s.fields s'.fields := by
  obtain ⟨fs', hfs', mid, heach, horder⟩ := h.of_mapping
  obtain rfl : s'.fields = fs' := (Value.mapping.inj hfs').2
  exact ⟨mid, heach.imp_of_mem fun e he _ hpart => hpart.sameDemands (hnodes e he), horder⟩

theorem named_of_reorders (hnodes : s.Canonical) (h : Reorders s.toValue s'.toValue)
    (hs : s.fields.EveryObject Named) : s'.fields.EveryObject Named := by
  have hdemands := sameDemands_of_reorders hnodes h
  refine ⟨hs.1.perm hdemands.keys_perm, fun e' he' => ?_⟩
  obtain ⟨e, he, -, hsame⟩ := hdemands.mem he'
  exact hsame.everyObject Named.perm (hs.2 e he)

/-- What has errors under a schema has the same ones in another order. -/
theorem exists_errors_of_reorders (hnodes : s.Canonical) (hschema : Reorders s.toValue s'.toValue)
    (hs : s.fields.EveryObject Named) (h : Reorders value value')
    (hvalue : value.EveryMapping Named)
    (herrors : s.errors .builtin value .null .null = .ok errors) :
    ∃ errors', s'.errors .builtin value' .null .null = .ok errors' ∧
      errors.SameMessages errors' := by
  have hdemands := sameDemands_of_reorders hnodes hschema
  have hs' := named_of_reorders hnodes hschema hs
  have hroot : Stands .null "" := Or.inl ⟨rfl, rfl⟩
  obtain ⟨errors', herrors'⟩ := Validation.exists_checkObject
    (fun e he _ hsame => Validation.stays_checkWithin (hs.2 e he) hsame) hs.1 hdemands h hvalue
    hroot herrors
  rw [← hschema.height_eq] at herrors'
  have hfailures : (s.failures .builtin value).Perm (s'.failures .builtin value') :=
    objectFailures_perm hdemands h hvalue fun e he _ hsame =>
      failures_perm (hs.2 e he) hsame
        (h.part hvalue (hs.1.plain.textKeys e.1 (List.mem_map_of_mem he))) (hvalue.part e.1)
  refine ⟨errors', herrors', _, _, ?_, ?_, (distinctPaths_failures hs hvalue).nodup_reports,
    hfailures.map _⟩
  · exact Validation.shows_checkObject (Validation.reports_checkWithin _) hroot herrors hs.1 hs.2
      hvalue
  · exact Validation.shows_checkObject (Validation.reports_checkWithin _) hroot herrors' hs'.1
      hs'.2 (h.everyMapping Named.perm hvalue)

/-- **The order of entries is irrelevant.** With the built-in types, let the entries of
mappings in a raw schema and in a value come in other orders, at any places and at any
depth. The schema compiles in both orders or in none, the compiled schemas differ in the
order of entries alone, and where names and keys are plain and the value has errors in one
order, it has errors in the other, the same messages at the same paths. -/
theorem sameMessages_of_reorders (hraw : raw.EveryMapping DistinctKeys)
    (hschema : Reorders raw raw') :
    ((∃ s, compile .builtin maxDepth raw = .ok s) ↔
      ∃ s', compile .builtin maxDepth raw' = .ok s') ∧
    ∀ s s', compile .builtin maxDepth raw = .ok s → compile .builtin maxDepth raw' = .ok s' →
      Reorders s.toValue s'.toValue ∧
      ∀ value value', s.fields.EveryObject PlainKeys → value.EveryMapping Named →
        Reorders value value' →
        ((∃ errors, s.errors .builtin value .null .null = .ok errors) ↔
          ∃ errors', s'.errors .builtin value' .null .null = .ok errors') ∧
        ∀ errors errors', s.errors .builtin value .null .null = .ok errors →
          s'.errors .builtin value' .null .null = .ok errors' → errors.SameMessages errors' := by
  have hdistinct : raw.EveryMapping DistinctTexts := hraw.mono fun _ h => h.distinctTexts
  have hdistinct' : raw'.EveryMapping DistinctTexts :=
    hschema.everyMapping DistinctTexts.perm hdistinct
  refine ⟨⟨?_, ?_⟩, ?_⟩
  · rintro ⟨s, hs⟩
    obtain ⟨s', hs', -⟩ := exists_compile_of_reorders hdistinct hschema hs
    exact ⟨s', hs'⟩
  · rintro ⟨s', hs'⟩
    obtain ⟨s, hs, -⟩ := exists_compile_of_reorders hdistinct' hschema.symm hs'
    exact ⟨s, hs⟩
  · intro s s' hs hs'
    obtain ⟨t, ht, hreorders⟩ := exists_compile_of_reorders hdistinct hschema hs
    obtain rfl : t = s' := Except.ok.inj (ht.symm.trans hs')
    have hnodes := canonical_of_compile hdistinct hs
    refine ⟨hreorders, fun value value' hplain hvalue h => ?_⟩
    have hnamed : s.fields.EveryObject Named :=
      named_of_compile Registry.Reachable.seeded.regular hraw hs hplain
    have hforth : ∀ errors, s.errors .builtin value .null .null = .ok errors →
        ∃ errors', t.errors .builtin value' .null .null = .ok errors' ∧
          errors.SameMessages errors' := fun _ =>
      exists_errors_of_reorders hnodes hreorders hnamed h hvalue
    refine ⟨⟨?_, ?_⟩, fun errors errors' herrors herrors' => ?_⟩
    · rintro ⟨errors, herrors⟩
      obtain ⟨errors', herrors', -⟩ := hforth errors herrors
      exact ⟨errors', herrors'⟩
    · rintro ⟨errors', herrors'⟩
      obtain ⟨errors, herrors, -⟩ := exists_errors_of_reorders
        (canonical_of_compile hdistinct' hs') hreorders.symm
        (named_of_reorders hnodes hreorders hnamed) h.symm (h.everyMapping Named.perm hvalue)
        herrors'
      exact ⟨errors, herrors⟩
    · obtain ⟨found, hfound, hsame⟩ := hforth errors herrors
      obtain rfl : found = errors' := Except.ok.inj (hfound.symm.trans herrors')
      exact hsame

/-- Fields, options and keys in two orders, with an error at each of three places. -/
theorem sameMessages_of_reorders_nested :
    ErrorSet.SameMessages
      [(.text "a.b", Validation.required), (.text "a.c", Validation.wrongType),
        (.text "a.d", Validation.unknownProperty)]
      [(.text "a.c", Validation.wrongType), (.text "a.b", Validation.required),
        (.text "a.d", Validation.unknownProperty)] := by
  have hraw : (Value.dict [(.text "a", .dict [
      (.text "b", .dict [(.text "type", .text "string"), (.text "required", .bool true)]),
      (.text "c", .text "number")])]).EveryMapping Named := by
    simp only [mapping_iff, List.forall_mem_cons]
    exact ⟨.of_texts ["a"] rfl (by decide) (by decide),
      ⟨.of_texts ["b", "c"] rfl (by decide) (by decide),
        ⟨.of_texts ["type", "required"] rfl (by decide) (by decide), of_leaf rfl rfl,
          of_leaf rfl rfl, List.forall_mem_nil _⟩, of_leaf rfl rfl, List.forall_mem_nil _⟩,
      List.forall_mem_nil _⟩
  have hvalue : (Value.dict [(.text "a", .dict [(.text "c", .null),
      (.text "d", .null)])]).EveryMapping Named := by
    simp only [mapping_iff, List.forall_mem_cons]
    exact ⟨.of_texts ["a"] rfl (by decide) (by decide),
      ⟨.of_texts ["c", "d"] rfl (by decide) (by decide), of_leaf rfl rfl, of_leaf rfl rfl,
        List.forall_mem_nil _⟩, List.forall_mem_nil _⟩
  have hschema : Reorders
      (.dict [(.text "a", .dict [
        (.text "b", .dict [(.text "type", .text "string"), (.text "required", .bool true)]),
        (.text "c", .text "number")])])
      (.dict [(.text "a", .dict [(.text "c", .text "number"), (.text "b", .dict
        [(.text "required", .bool true), (.text "type", .text "string")])])]) := by
    refine .dict ⟨_, .cons (.dict ⟨_, .cons (.dict ⟨_, .refl .refl _, .swap _ _ _⟩) ?_,
      .swap _ _ _⟩) .nil, .refl _⟩
    exact .cons (.refl _) .nil
  have hvalues : Reorders
      (.dict [(.text "a", .dict [(.text "c", .null), (.text "d", .null)])])
      (.dict [(.text "a", .dict [(.text "d", .null), (.text "c", .null)])]) :=
    .dict ⟨_, .cons (.dict ⟨_, .refl .refl _, .swap _ _ _⟩) .nil, .refl _⟩
  obtain ⟨-, hboth⟩ :=
    @sameMessages_of_reorders 3 _ _ (hraw.mono fun _ h => h.distinct) hschema
  obtain ⟨-, herrors⟩ := hboth _ _ (by rw [Registry.builtin_eq]; cbv)
    (by rw [Registry.builtin_eq]; cbv)
  have hnone : PlainKeys [] := List.forall_mem_nil _
  refine (herrors _ _ ⟨?_, ?_⟩ hvalue hvalues).2 _ _
    (by rw [Registry.builtin_eq]; cbv) (by rw [Registry.builtin_eq]; cbv)
  · exact (Named.of_texts ["a"] rfl (by decide) (by decide)).plain
  · refine List.forall_mem_singleton.mpr (.object (by cbv) (show _ = some (Value.dict _) by cbv)
      ⟨(Named.of_texts ["b", "c"] rfl (by decide) (by decide)).plain, ?_⟩)
    refine List.forall_mem_cons.mpr ⟨?_, List.forall_mem_singleton.mpr ?_⟩
    · exact .leaf (show _ = some "string" by cbv) (by decide) (by decide) hnone
    · exact .leaf (show _ = some "number" by cbv) (by decide) (by decide) hnone

end Schema

end DataShape
