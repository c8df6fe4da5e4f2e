import DataShape.Proofs.Report
import DataShape.Proofs.ReorderedSchema

/-!
# Failures in another order

Two fields of compiled schemas demand the same if they have the same options and the same
parts, those of objects in some order. Under such fields the failures of two values that
differ in the order of entries are the same up to their own order: an option is looked up,
a part is found under its name, and an element fails all alternatives in both orders or in
none.
-/

namespace DataShape

open Entries (option? keys fields alternatives parts isOn Rearranges Pointwise)
open Capability (builtins)

/-! ## Fields that demand the same -/

/-- Canonical fields with the same options, and with the same parts in some order. -/
inductive SameDemands : (field field' : Value) → Prop
  | node {tag : String} {c : Capability} {field mid field' : Entries}
      (left : IsCanonical .builtin tag c field) (right : IsCanonical .builtin tag c field')
      (options : ∀ name, name ≠ "child" → option? field' name = option? field name)
      (each : Pointwise SameDemands (fields field) mid) (order : mid.Perm (fields field'))
      (choices : List.Forall₂ SameDemands (alternatives field) (alternatives field')) :
      SameDemands (.dict field) (.dict field')

theorem IsCanonical.isPartless_option {tag : String} {c : Capability} {field : Entries}
    (h : IsCanonical .builtin tag c field) {name : String} (hchild : name ≠ "child")
    (henum : name ≠ "enum") {v : Value} (hv : option? field name = some v) :
    v.isPartless = true := by
  by_cases htype : name = "type"
  · subst htype
    rw [h.type, Option.some.injEq] at hv
    exact hv ▸ rfl
  · by_cases hrequired : name = "required"
    · subst hrequired
      exact Compilation.isPartless_of_isBool (h.required v hv)
    · have hdeclared := Compilation.declares_of_option? h.known htype hv
      have hmem := (Registry.of_capability?_builtin h.registered).1
      cases hmem using Capability.builtins_cases with
      | string =>
          obtain rfl : name = "test" := by
            simpa [Capability.string, hrequired, henum] using hdeclared
          obtain ⟨p, rfl⟩ := h.test rfl v hv
          rfl
      | number =>
          obtain rfl : name = "coerce" := by
            simpa [Capability.number, hrequired, henum] using hdeclared
          exact Compilation.isPartless_of_isBool (h.coerce rfl v hv)
      | _ =>
          exact absurd hdeclared (by simp [Capability.boolean, Capability.date,
            Capability.object, Capability.array, hrequired, henum, hchild])

theorem forall₂_eq_of_isPartless {items items' : List Value}
    (h : List.Forall₂ Reorders items items') (hpartless : ∀ v ∈ items, v.isPartless = true) :
    items' = items := by
  have hequal : List.Forall₂ (· = ·) items items' :=
    forall₂_imp_of_mem (fun v hv _ h => (h.eq_of_isPartless (hpartless v hv)).symm) h
  rw [List.forall₂_eq_eq_eq] at hequal
  exact hequal.symm

section

variable {tag : String} {c : Capability} {field field' : Entries}

/-- Canonical fields that differ in the order of entries have the same options. -/
theorem IsCanonical.option?_eq (h : IsCanonical .builtin tag c field)
    (hrearranges : Rearranges Reorders field field') (hdistinct : DistinctTexts field)
    {name : String} (hchild : name ≠ "child") : option? field' name = option? field name := by
  by_cases henum : name = "enum"
  · subst henum
    cases hv : option? field "enum" with
    | none => exact (hrearranges.option?_eq hdistinct (by simp [hv])).trans hv
    | some v =>
        obtain ⟨options, rfl, haccepts⟩ := h.enum v hv
        obtain ⟨v', hv', hreorders⟩ := hrearranges.exists_right hdistinct hv
        obtain ⟨options', rfl, heach⟩ := hreorders.of_sequence
        have hdeclared := Compilation.declares_of_option? h.known (by decide) hv
        rw [hv', forall₂_eq_of_isPartless heach fun o ho => Capability.isPartless_of_accepts
          (Registry.of_capability?_builtin h.registered).1 hdeclared (haccepts o ho)]
  · exact hrearranges.option?_eq hdistinct fun v hv => h.isPartless_option hchild henum hv

theorem IsCanonical.of_rearranges (h : IsCanonical .builtin tag c field)
    (hrearranges : Rearranges Reorders field field') (hdistinct : DistinctTexts field) :
    IsCanonical .builtin tag c field' := by
  have hsame : ∀ name, name ≠ "child" → option? field' name = option? field name :=
    fun name => h.option?_eq hrearranges hdistinct
  constructor
  · exact h.registered
  · exact (hsame "type" (by decide)).trans h.type
  · exact fun key hkey => h.known key (hrearranges.keys_perm.mem_iff.mpr hkey)
  · exact hsame "required" (by decide) ▸ h.required
  · intro v hv
    obtain ⟨options, rfl, haccepts⟩ := h.enum v ((hsame "enum" (by decide)).symm.trans hv)
    refine ⟨options, rfl, fun o ho => ?_⟩
    rw [Compilation.accepts_congr (Registry.of_capability?_builtin h.registered).1
      (hsame "test" (by decide)) (hsame "coerce" (by decide))]
    exact haccepts o ho
  · exact fun hstring => hsame "test" (by decide) ▸ h.test hstring
  · exact fun hnumber => hsame "coerce" (by decide) ▸ h.coerce hnumber
  · intro htag
    obtain ⟨fs, hchild⟩ := h.object htag
    obtain ⟨child', hchild', hreorders⟩ := hrearranges.exists_right hdistinct hchild
    obtain ⟨fs', rfl, -⟩ := hreorders.of_mapping
    exact ⟨fs', hchild'⟩
  · intro htag
    obtain ⟨items, hchild⟩ := h.array htag
    obtain ⟨child', hchild', hreorders⟩ := hrearranges.exists_right hdistinct hchild
    obtain ⟨items', rfl, -⟩ := hreorders.of_sequence
    exact ⟨items', hchild'⟩

theorem IsCanonical.rearranges_fields (h : IsCanonical .builtin tag c field)
    (hrearranges : Rearranges Reorders field field') (hdistinct : DistinctTexts field) :
    Rearranges Reorders (fields field) (fields field') := by
  have htag' := (h.of_rearranges hrearranges hdistinct).tag?_eq
  by_cases hobject : tag = Capability.objectTag
  · subst hobject
    obtain ⟨fs, hchild⟩ := h.object rfl
    obtain ⟨child', hchild', hreorders⟩ := hrearranges.exists_right hdistinct hchild
    obtain ⟨fs', rfl, hfields⟩ := hreorders.of_mapping
    rw [Entries.fields_of_child h.tag?_eq hchild, Entries.fields_of_child htag' hchild']
    exact hfields
  · rw [Entries.fields_of_tag_ne (by simpa [h.tag?_eq] using hobject),
      Entries.fields_of_tag_ne (by simpa [htag'] using hobject)]
    exact .refl .refl []

theorem IsCanonical.reorders_alternatives (h : IsCanonical .builtin tag c field)
    (hrearranges : Rearranges Reorders field field') (hdistinct : DistinctTexts field) :
    List.Forall₂ Reorders (alternatives field) (alternatives field') := by
  have htag' := (h.of_rearranges hrearranges hdistinct).tag?_eq
  by_cases harray : tag = Capability.arrayTag
  · subst harray
    obtain ⟨items, hchild⟩ := h.array rfl
    obtain ⟨child', hchild', hreorders⟩ := hrearranges.exists_right hdistinct hchild
    obtain ⟨items', rfl, heach⟩ := hreorders.of_sequence
    rw [Entries.alternatives_of_child h.tag?_eq hchild,
      Entries.alternatives_of_child htag' hchild']
    exact heach
  · rw [Entries.alternatives_of_tag_ne (by simpa [h.tag?_eq] using harray),
      Entries.alternatives_of_tag_ne (by simpa [htag'] using harray)]
    exact .nil

end

/-- A canonical field in another order demands the same. -/
theorem Reorders.sameDemands {path : Option String} {v : Value}
    (hnodes : EveryNode (fun _ node => IsCanonicalNode .builtin node ∧ DistinctTexts node) path v) :
    ∀ {v' : Value}, Reorders v v' → SameDemands v v' := by
  induction hnodes with
  | @node path field here below ih =>
      intro v' h
      obtain ⟨hcanonical, hdistinct⟩ := here
      obtain ⟨tag, c, hfield⟩ := hcanonical
      obtain ⟨field', rfl, hrearranges⟩ := h.of_mapping
      obtain ⟨mid, heach, horder⟩ := hfield.rearranges_fields hrearranges hdistinct
      have hchoices := hfield.reorders_alternatives hrearranges hdistinct
      have hparts : ∀ part ∈ parts field, ∀ v', Reorders part v' → SameDemands part v' :=
        (Entries.forall_mem_parts_iff path).mpr fun part hpart v' => ih part hpart
      refine .node hfield (hfield.of_rearranges hrearranges hdistinct) (fun name hchild =>
        hfield.option?_eq hrearranges hdistinct hchild) ?_ horder ?_
      · exact heach.imp_of_mem fun e he =>
          hparts _ (List.mem_append_left _ (List.mem_map_of_mem he))
      · exact forall₂_imp_of_mem (fun choice hmem =>
          hparts choice (List.mem_append_right _ hmem)) hchoices

/-- Names keep what they have in every order. -/
theorem SameDemands.everyObject {P : Entries → Prop}
    (hP : ∀ {names names'}, (keys names).Perm (keys names') → P names → P names')
    {v : Value} (hv : v.EveryObject P) : ∀ {v' : Value}, SameDemands v v' → v'.EveryObject P := by
  induction hv with
  | @node field here below ih =>
      intro v' h
      cases h with
      | @node _ _ _ mid field' left right options each order choices =>
          refine .node (hP (Rearranges.keys_perm ⟨mid, each, order⟩) here) ?_
          refine List.forall_mem_append.mpr ⟨List.forall_mem_map.mpr fun e' he' => ?_,
            fun choice' hchoice' => ?_⟩
          · obtain ⟨e, he, -, hdemands⟩ := Rearranges.mem ⟨mid, each, order⟩ he'
            exact ih _ (List.mem_append_left _ (List.mem_map_of_mem he)) hdemands
          · obtain ⟨choice, hchoice, hdemands⟩ := Compilation.exists_of_forall₂ choices hchoice'
            exact ih _ (List.mem_append_right _ hchoice) hdemands

/-! ## The failures of a node -/

theorem affirms_iff {x : Except Fault Bool} : affirms x = true ↔ x = .ok true := by
  cases x with
  | error fault => simp [affirms]
  | ok b => simp

section

variable {tag : String} {c : Capability} {field field' : Entries} {v v' : Value}

theorem Capability.isEmpty_congr (hc : c ∈ builtins)
    (htest : option? field "test" = option? field' "test")
    (hcoerce : option? field "coerce" = option? field' "coerce") (v : Value) :
    c.isEmpty v field = c.isEmpty v field' := by
  by_cases hmissing : v = .missing
  · rw [hmissing, sees_missing_of_builtin hc, sees_missing_of_builtin hc]
  · by_cases hstring : c = string
    · rw [hstring]
      rfl
    · rw [isEmpty_eq hc hstring hmissing, isEmpty_eq hc hstring hmissing,
        Compilation.accepts_congr hc htest hcoerce]

variable (hfield : IsCanonical .builtin tag c field)
  (options : ∀ name, name ≠ "child" → option? field' name = option? field name)
  (h : Reorders v v')

include hfield h

/-- Where options are listed, a value that is accepted is the same in every order. -/
theorem eq_of_enum {w : Value} (henum : option? field "enum" = some w)
    (haccepts : c.accepts v field = .ok true) : v' = v := by
  have hdeclared := Compilation.declares_of_option? hfield.known (by decide) henum
  exact h.eq_of_isPartless (Capability.isPartless_of_accepts
    (Registry.of_capability?_builtin hfield.registered).1 hdeclared haccepts)

include options

theorem accepts_eq_of_reorders : c.accepts v' field' = c.accepts v field := by
  have hc := (Registry.of_capability?_builtin hfield.registered).1
  rw [← h.alike.accepts hc]
  exact Compilation.accepts_congr hc (options _ (by decide)) (options _ (by decide)) v

theorem isEmpty_eq_of_reorders : c.isEmpty v' field' = c.isEmpty v field := by
  have hc := (Registry.of_capability?_builtin hfield.registered).1
  rw [← h.alike.isEmpty hc]
  exact Capability.isEmpty_congr hc (options _ (by decide)) (options _ (by decide)) v

theorem ownProblem?_eq_of_reorders :
    ownProblem? .builtin v' field' = ownProblem? .builtin v field := by
  have htag : Entries.tag? field' = Entries.tag? field := by
    rw [Entries.tag?, Entries.tag?, options _ (by decide)]
  have hrequired : isOn field' "required" = isOn field "required" :=
    Entries.isOn_of_option?_eq (options _ (by decide))
  have hleft : IsLeftEmpty v' field' ↔ IsLeftEmpty v field := by
    rw [IsLeftEmpty, IsLeftEmpty, hrequired, h.length_eq]
  have hunlisted : affirms (c.accepts v field) = true →
      unlisted? v' field' = unlisted? v field := by
    intro haffirms
    unfold unlisted?
    rw [options "enum" (by decide)]
    cases henum : option? field "enum" with
    | none => rfl
    | some w => rw [eq_of_enum hfield h henum (affirms_iff.mp haffirms)]
  unfold ownProblem?
  rw [options "type" (by decide), hfield.type, Option.getD_some, Registry.lookup?_text,
    hfield.registered]
  dsimp only
  rw [hrequired, htag, isEmpty_eq_of_reorders hfield options h,
    accepts_eq_of_reorders hfield options h]
  cases haffirms : affirms (c.accepts v field) with
  | false => rfl
  | true =>
      rw [hunlisted haffirms]
      simp only [hleft]

end

/-! ## The failures of parts -/

section

variable {v v' : Value} {schema schema' : Entries}

/-- A key is declared in every order of the names. -/
theorem contains_of_keys_perm (hkeys : (keys schema).Perm (keys schema')) {key : Value}
    (hkey : key.IsText) : Entries.contains schema' key = Entries.contains schema key := by
  obtain ⟨s, hs⟩ := hkey
  have hnone : option? schema' s = none ↔ option? schema s = none := by
    rw [Entries.option?_eq_none_iff, Entries.option?_eq_none_iff]
    simp only [hkeys.mem_iff]
  rw [Entries.contains, Entries.contains, Entries.get?_of_text? hs, Entries.get?_of_text? hs,
    Bool.eq_iff_iff, Option.isSome_iff_ne_none, Option.isSome_iff_ne_none, ne_eq, hnone]

theorem keyFailures_perm (hkeys : (keys schema).Perm (keys schema')) {names names' : List Value}
    (hnames : names.Perm names') (htexts : ∀ key ∈ names, key.IsText) :
    (keyFailures schema names).Perm (keyFailures schema' names') := by
  have hunknown : (names.filter fun key => !Entries.contains schema key)
      = names.filter fun key => !Entries.contains schema' key :=
    List.filter_congr fun key hkey => by rw [contains_of_keys_perm hkeys (htexts key hkey)]
  rw [keyFailures, hunknown]
  exact (hnames.filter _).map _

theorem fieldFailures_perm (each : Pointwise SameDemands schema schema') :
    (∀ e ∈ schema, ∀ field', SameDemands e.2 field' →
      (failures .builtin (v.part e.1) e.2).Perm (failures .builtin (v'.part e.1) field')) →
    (fieldFailures (failures .builtin) v schema).Perm
      (fieldFailures (failures .builtin) v' schema') := by
  induction each with
  | nil => exact fun _ => .refl _
  | cons value rest ih =>
      intro hparts
      obtain ⟨hhere, hrest⟩ := List.forall_mem_cons.mp hparts
      rw [fieldFailures, fieldFailures, List.flatMap_cons, List.flatMap_cons]
      exact ((hhere _ value).map _).append (ih hrest)

theorem all_eq_of_forall₂ {α β : Type} {R : α → β → Prop} {p : α → Bool} {q : β → Bool}
    {as : List α} {bs : List β} (h : List.Forall₂ R as bs) :
    (∀ a ∈ as, ∀ b, R a b → p a = q b) → as.all p = bs.all q := by
  induction h with
  | nil => exact fun _ => rfl
  | cons here rest ih =>
      intro hpq
      obtain ⟨hhead, htail⟩ := List.forall_mem_cons.mp hpq
      rw [List.all_cons, List.all_cons, hhead _ here, ih htail]

/-- An element fails all alternatives in both orders or in none. -/
theorem elementFailures_eq {choices choices' elements elements' : List Value}
    (hchoices : List.Forall₂ SameDemands choices choices')
    (helements : List.Forall₂ Reorders elements elements') :
    ∀ {i : Nat}, (∀ element ∈ elements, ∀ choice ∈ choices, ∀ element' choice',
      Reorders element element' → SameDemands choice choice' →
      (failures .builtin element choice).Perm (failures .builtin element' choice')) →
    elementFailures (failures .builtin) choices i elements
      = elementFailures (failures .builtin) choices' i elements' := by
  induction helements with
  | nil => exact fun _ => rfl
  | @cons element element' rest rest' here below ih =>
      intro i hfails
      obtain ⟨hhere, hrest⟩ := List.forall_mem_cons.mp hfails
      have hall : (choices.all fun choice => !(failures .builtin element choice).isEmpty)
          = choices'.all fun choice => !(failures .builtin element' choice).isEmpty :=
        all_eq_of_forall₂ hchoices fun choice hmem choice' hdemands => by
          rw [Bool.eq_iff_iff, Bool.not_eq_true', Bool.not_eq_true',
            (hhere choice hmem element' choice' here hdemands).isEmpty_eq]
      have htail := ih (i := i + 1) hrest
      rw [elementFailures, elementFailures, List.zipIdx_cons, List.zipIdx_cons, List.filter_cons,
        List.filter_cons]
      dsimp only
      rw [hall]
      unfold elementFailures at htail
      split
      · rw [List.map_cons, List.map_cons, htail]
      · exact htail

theorem objectFailures_perm (hdeclared : Rearranges SameDemands schema schema')
    (h : Reorders v v') (hv : v.EveryMapping Named)
    (hparts : ∀ e ∈ schema, ∀ field', SameDemands e.2 field' →
      (failures .builtin (v.part e.1) e.2).Perm (failures .builtin (v'.part e.1) field')) :
    (objectFailures (failures .builtin) v schema).Perm
      (objectFailures (failures .builtin) v' schema') := by
  obtain ⟨mid, heach, horder⟩ := hdeclared
  refine ((fieldFailures_perm heach hparts).trans (horder.flatMap_right _)).append ?_
  exact keyFailures_perm (Rearranges.keys_perm ⟨mid, heach, horder⟩) h.entries.keys_perm
    hv.named_entries.plain.textKeys

end

theorem isMissing_eq_of_reorders {v v' : Value} (h : Reorders v v') :
    Validation.isMissing v' = Validation.isMissing v := by
  rw [Bool.eq_iff_iff, Validation.isMissing_iff, Validation.isMissing_iff]
  exact h.alike.missing.symm

/-- A value without a problem of its own is of the type of its field. -/
theorem accepts_of_ownProblem?_eq_none {tag : String} {c : Capability} {field : Entries}
    {v : Value} (hfield : IsCanonical .builtin tag c field)
    (h : ownProblem? .builtin v field = none) : c.accepts v field = .ok true := by
  unfold ownProblem? at h
  rw [hfield.type, Option.getD_some, Registry.lookup?_text, hfield.registered] at h
  dsimp only at h
  rw [← affirms_iff]
  cases haffirms : affirms (c.accepts v field) with
  | true => rfl
  | false =>
      rw [haffirms] at h
      split at h
      · simp at h
      · simp at h

theorem isSequence_of_ownProblem?_eq_none {tag : String} {c : Capability} {field : Entries}
    {v : Value} (hfield : IsCanonical .builtin tag c field) (hbound : alternatives field ≠ [])
    (h : ownProblem? .builtin v field = none) : Capability.isSequence v = true := by
  have harray : tag = Capability.arrayTag := by
    by_contra hne
    exact hbound (Entries.alternatives_of_tag_ne (by simpa [hfield.tag?_eq] using hne))
  subst harray
  obtain rfl : Capability.array = c := Option.some.inj hfield.registered
  exact Except.ok.inj (accepts_of_ownProblem?_eq_none hfield h)

/-- **The failures of a value are the same in every order.** The induction is on the
objects of the schema: a node finds its own problem in both values or in none, and the
failures of its parts are below. -/
theorem failures_perm {field : Value} (hfield : field.EveryObject Named) :
    ∀ {field' v v' : Value}, SameDemands field field' → Reorders v v' → v.EveryMapping Named →
      (failures .builtin v field).Perm (failures .builtin v' field') := by
  induction hfield with
  | @node field here below ih =>
      intro found v v' hdemands h hv
      cases hdemands with
      | @node tag c _ mid field' hcanonical right options each order choices =>
          have htag : Entries.tag? field' = Entries.tag? field := by
            rw [Entries.tag?, Entries.tag?, options _ (by decide)]
          have hrequired : isOn field' "required" = isOn field "required" :=
            Entries.isOn_of_option?_eq (options _ (by decide))
          rw [failures_mapping, failures_mapping, isMissing_eq_of_reorders h, hrequired, htag,
            ownProblem?_eq_of_reorders hcanonical options h]
          split
          · exact .refl _
          · cases hown : ownProblem? .builtin v field with
            | some problem => exact .refl _
            | none =>
                dsimp only
                by_cases hobject : Entries.tag? field = some Capability.objectTag
                · rw [if_pos hobject, if_pos hobject]
                  refine objectFailures_perm ⟨mid, each, order⟩ h hv fun e he field' hsame => ?_
                  have hname : e.1.IsText := here.plain.textKeys e.1 (List.mem_map_of_mem he)
                  exact ih _ (List.mem_append_left _ (List.mem_map_of_mem he)) hsame
                    (h.part hv hname) (hv.part e.1)
                · rw [if_neg hobject, if_neg hobject]
                  by_cases hfree : alternatives field = []
                  · rw [hfree, List.forall₂_nil_left_iff] at choices
                    rw [if_pos hfree, if_pos choices]
                  · have hfree' : alternatives field' ≠ [] := fun hnone => hfree
                      (List.forall₂_nil_right_iff.mp (hnone ▸ choices))
                    have hsequence := isSequence_of_ownProblem?_eq_none hcanonical hfree hown
                    rw [if_neg hfree, if_neg hfree', elementFailures_eq choices
                      (h.members hsequence) fun element helement choice hchoice _ _ h hsame =>
                        ih choice (List.mem_append_right _ hchoice) hsame h
                          (hv.of_mem_members hsequence element helement)]

end DataShape
