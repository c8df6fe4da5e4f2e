import DataShape.Proofs.Compilation
import DataShape.Proofs.Registry
import Mathlib

/-!
# Compiled fields are canonical and say what was written

Two facts about every field that the compiler returns, over every reachable
registry. Each node of it is in canonical form: a registered tag, children
where the tag asks for them, known properties, options of the right kind. And
it follows the raw field node by node: the same names and alternatives in the
same order, the same properties, with nothing rewritten but the tag, the
children, the list of options and the pattern.
-/

namespace DataShape

open Entries (option? setOption keys fields alternatives partsAt)

/-! ## Canonical form -/

/-- What the compiler grants of a node, given its tag and the capability of the
tag. -/
structure IsCanonical (r : Registry) (tag : String) (c : Capability)
    (field : Entries) : Prop where
  registered : r.capability? tag = some c
  type : option? field "type" = some (.text tag)
  known : ∀ key ∈ keys field, c.Declares key
  required : ∀ v, option? field "required" = some v → ∃ b, v = .bool b
  enum : ∀ v, option? field "enum" = some v →
    ∃ options, v = .list options ∧ ∀ o ∈ options, c.accepts o field = .ok true
  test : c = Capability.string →
    ∀ v, option? field "test" = some v → ∃ p, v = .pattern p
  coerce : c = Capability.number →
    ∀ v, option? field "coerce" = some v → ∃ b, v = .bool b
  object : tag = Capability.objectTag →
    ∃ fs, option? field "child" = some (.dict fs)
  array : tag = Capability.arrayTag →
    ∃ items, option? field "child" = some (.list items)

/-- A node in canonical form, whatever its tag. -/
def IsCanonicalNode (r : Registry) (field : Entries) : Prop :=
  ∃ tag c, IsCanonical r tag c field

theorem IsCanonical.tag?_eq {r : Registry} {tag : String} {c : Capability}
    {field : Entries} (h : IsCanonical r tag c field) :
    Entries.tag? field = some tag := by
  rw [Entries.tag?, h.type]
  rfl

/-! ## What a compiled field keeps -/

namespace Compilation

/-- The fields that an object is written with. -/
def formFields (form : Entries) : Entries :=
  ((option? form "child").getD (.dict [])).entries?.getD []

/-- The alternatives that an array is written with. -/
def formAlternatives (form : Entries) : List Value :=
  ((option? form "child").getD (.list [])).items?.getD []

def formParts (form : Entries) : List Value :=
  (formFields form).map Prod.snd ++ formAlternatives form

/-- What a compiled field keeps of the form that it was written in, its
children apart. A missing `child` of an object or an array goes last. -/
structure Keeps (r : Registry) (tag : String) (c : Capability)
    (form field : Entries) : Prop where
  type : r.resolve? ((option? form "type").getD .null) = some tag
  keys : keys field = keys form ++
    if (tag = Capability.objectTag ∨ tag = Capability.arrayTag) ∧
      option? form "child" = none then [.text "child"] else []
  other : ∀ name, name ≠ "type" → name ≠ "child" → name ≠ "test" → name ≠ "enum" →
    option? field name = option? form name
  child : tag ≠ Capability.objectTag → tag ≠ Capability.arrayTag →
    option? field "child" = option? form "child"
  enum : (option? form "enum" = none ∧ option? field "enum" = none) ∨
    ∃ kind options, option? form "enum" = some (.sequence kind options) ∧
      option? field "enum" = some (.list options)
  test : option? field "test" = option? form "test" ∨
    c = Capability.string ∧ ∃ v source p, option? form "test" = some v ∧
      v.text? = some source ∧ Pattern.read (.text source) = .ok p ∧
      option? field "test" = some (.pattern p)

end Compilation

open Compilation

/-- A compiled field says what the raw field says: the form that the raw field
stands for is kept, and the parts follow the raw parts one by one. -/
inductive Follows (r : Registry) : (raw field : Value) → Prop
  | node {raw : Value} {form field : Entries} {tag : String} {c : Capability}
      (expands : expand? r raw = some form)
      (registered : r.capability? tag = some c)
      (keeps : Keeps r tag c form field)
      (names : tag = Capability.objectTag → keys (fields field) = keys (formFields form))
      (fields : tag = Capability.objectTag →
        ∀ e ∈ (formFields form).zip (fields field), Follows r e.1.2 e.2.2)
      (count : tag = Capability.arrayTag →
        (alternatives field).length = (formAlternatives form).length)
      (alternatives : tag = Capability.arrayTag →
        ∀ e ∈ (formAlternatives form).zip (alternatives field), Follows r e.1 e.2) :
      Follows r raw (.dict field)

/-! ## One level of compilation -/

namespace Compilation

variable {r : Registry} {compile : FieldCompiler} {path : Option String}
  {raw : Value} {form field parts kept out : Entries} {tag : String} {c : Capability}

theorem isSome_type_of_expand? (h : expand? r raw = some form) :
    (option? form "type").isSome := by
  unfold expand? at h
  split at h
  · cases h
    simp [Entries.option?_cons]
  · split at h
    · cases h
      simp [Entries.option?_cons]
    · split at h
      -- a mapping with a type stands for itself
      · rename_i htype
        cases h
        exact htype
      · cases h
        simp [Entries.option?_cons]
    · simp at h

theorem compileChildren_cases
    (h : compileChildren compile path tag field = .ok parts) :
    (tag = Capability.objectTag ∧ ∃ fs, parts = setOption field "child" (.dict fs)) ∨
    (tag = Capability.arrayTag ∧ ∃ items, parts = setOption field "child" (.list items)) ∨
    (tag ≠ Capability.objectTag ∧ tag ≠ Capability.arrayTag ∧ parts = field) := by
  by_cases hobject : tag = Capability.objectTag
  · subst hobject
    obtain ⟨-, -, fs, -, -, hparts⟩ := compileChildren_object.mp h
    exact Or.inl ⟨rfl, fs, hparts⟩
  · by_cases harray : tag = Capability.arrayTag
    · subst harray
      obtain ⟨-, -, items, -, -, hparts⟩ := compileChildren_array.mp h
      exact Or.inr (Or.inl ⟨rfl, items, hparts⟩)
    · exact Or.inr (Or.inr ⟨hobject, harray,
        (compileChildren_leaf hobject harray).mp h⟩)

theorem option?_compileChildren (h : compileChildren compile path tag field = .ok parts)
    {name : String} (hne : name ≠ "child") :
    option? parts name = option? field name := by
  rcases compileChildren_cases h with ⟨-, fs, rfl⟩ | ⟨-, items, rfl⟩ | ⟨-, -, rfl⟩
  · exact Entries.option?_setOption_of_ne _ _ hne
  · exact Entries.option?_setOption_of_ne _ _ hne
  · rfl

/-- The parts are compiled under the tag that was set. -/
theorem type_compileChildren {form : Entries} {v : Value}
    (h : compileChildren compile path tag (setOption form "type" v) = .ok parts) :
    option? parts "type" = some v := by
  rw [option?_compileChildren h (by decide), Entries.option?_setOption_self]

theorem keys_compileChildren (h : compileChildren compile path tag field = .ok parts) :
    keys parts = keys field ++
      if (tag = Capability.objectTag ∨ tag = Capability.arrayTag) ∧
        option? field "child" = none then [.text "child"] else [] := by
  have hset : ∀ v : Value, keys (setOption field "child" v) = keys field ++
      if option? field "child" = none then [.text "child"] else [] := by
    intro v
    rw [Entries.keys_setOption]
    cases option? field "child" with
    | none => rfl
    | some w => exact (List.append_nil _).symm
  rcases compileChildren_cases h with ⟨htag, fs, rfl⟩ | ⟨htag, items, rfl⟩ |
    ⟨hobject, harray, rfl⟩
  · rw [hset]
    simp only [htag, true_or, true_and]
  · rw [hset]
    simp only [htag, or_true, true_and]
  · rw [if_neg (by simp [hobject, harray]), List.append_nil]

theorem option?_checkEnum (h : checkEnum r path field = .ok out) {name : String}
    (hne : name ≠ "enum") : option? out name = option? field name := by
  rcases checkEnum_eq_ok.mp h with ⟨-, rfl⟩ | ⟨kind, options, type, -, -, -, rfl⟩
  · rfl
  · exact Entries.option?_setOption_of_ne _ _ hne

theorem keys_checkEnum (h : checkEnum r path field = .ok out) :
    keys out = keys field := by
  rcases checkEnum_eq_ok.mp h with ⟨-, rfl⟩ | ⟨kind, options, type, henum, -, -, rfl⟩
  · rfl
  · exact Entries.keys_setOption_of_isSome _ (by simp [henum])

/-- The options that are kept are values of the type under the kept field. -/
theorem enum_checkEnum (hc : c.Regular) (htype : option? field "type" = some (.text tag))
    (hregistered : r.capability? tag = some c) (h : checkEnum r path field = .ok out) :
    (option? field "enum" = none ∧ option? out "enum" = none) ∨
    ∃ kind options, option? field "enum" = some (.sequence kind options) ∧
      option? out "enum" = some (.list options) ∧
      ∀ o ∈ options, c.accepts o out = .ok true := by
  rw [← r.lookup?_text] at hregistered
  rcases (checkEnum_eq_ok_of_lookup? htype hregistered).mp h with
    ⟨hnone, rfl⟩ | ⟨kind, options, henum, haccepts, rfl⟩
  · exact Or.inl ⟨hnone, hnone⟩
  · refine Or.inr ⟨kind, options, henum, Entries.option?_setOption_self _ _ _, ?_⟩
    intro o ho
    rw [hc.accepts_setOption_enum]
    exact haccepts o ho

/-- What one level of compilation makes of the form of a field. -/
structure Outcome (r : Registry) (compile : FieldCompiler) (path : Option String)
    (tag : String) (c : Capability) (form out : Entries) : Prop where
  canonical : IsCanonical r tag c out
  keeps : Keeps r tag c form out
  fields : tag = Capability.objectTag →
    compileFields compile path (formFields form) = .ok (fields out)
  alternatives : tag = Capability.arrayTag →
    compileAlternatives compile path 0 (formAlternatives form) = .ok (alternatives out)

theorem compileChildren_fields
    (h : compileChildren compile path Capability.objectTag field = .ok parts) :
    ∃ fs, compileFields compile path (formFields field) = .ok fs ∧
      option? parts "child" = some (.dict fs) := by
  obtain ⟨kind, entries, fs, hchild, hfields, rfl⟩ := compileChildren_object.mp h
  refine ⟨fs, ?_, Entries.option?_setOption_self _ _ _⟩
  rw [formFields, hchild]
  exact hfields

theorem compileChildren_alternatives
    (h : compileChildren compile path Capability.arrayTag field = .ok parts) :
    ∃ items, compileAlternatives compile path 0 (formAlternatives field) = .ok items ∧
      option? parts "child" = some (.list items) := by
  obtain ⟨kind, raws, items, hchild, halternatives, rfl⟩ := compileChildren_array.mp h
  refine ⟨items, ?_, Entries.option?_setOption_self _ _ _⟩
  rw [formAlternatives, hchild]
  exact halternatives

section

variable (hc : c.Regular) (hform : expand? r raw = some form)
  (hparts : compileChildren compile path tag (setOption form "type" (.text tag))
    = .ok parts)
  (hkept : c.checkField parts path = .ok kept) (hout : checkEnum r path kept = .ok out)
  (hregistered : r.capability? tag = some c)

include hc hkept hout

/-- The checks after the children rewrite `test` and `enum` alone. -/
theorem option?_out {name : String} (htest : name ≠ "test") (henum : name ≠ "enum") :
    option? out name = option? parts name := by
  rw [option?_checkEnum hout henum, hc.option?_checkField hkept htest]

theorem keys_out : keys out = keys parts := by
  rw [keys_checkEnum hout, hc.keys_checkField hkept]

theorem test_out :
    (option? out "test" = option? parts "test" ∧
      (c = Capability.string → ∀ v, option? parts "test" = some v → ∃ p, v = .pattern p)) ∨
    c = Capability.string ∧ ∃ v source p, option? parts "test" = some v ∧
      v.text? = some source ∧ Pattern.read (.text source) = .ok p ∧
      option? out "test" = some (.pattern p) := by
  rw [option?_checkEnum hout (show "test" ≠ "enum" by decide)]
  exact hc.test_checkField hkept

include hparts

theorem type_out : option? out "type" = some (.text tag) := by
  rw [option?_out hc hkept hout (by decide) (by decide), type_compileChildren hparts]

include hregistered in
theorem enum_out :
    (option? parts "enum" = none ∧ option? out "enum" = none) ∨
    ∃ kind options, option? parts "enum" = some (.sequence kind options) ∧
      option? out "enum" = some (.list options) ∧
      ∀ o ∈ options, c.accepts o out = .ok true := by
  rw [← hc.option?_checkField hkept (show "enum" ≠ "test" by decide)]
  refine enum_checkEnum hc ?_ hregistered hout
  rw [← option?_checkEnum hout (show "type" ≠ "enum" by decide)]
  exact type_out hc hparts hkept hout

theorem tag?_out : Entries.tag? out = some tag := by
  rw [Entries.tag?, type_out hc hparts hkept hout]
  rfl

theorem fields_out (htag : tag = Capability.objectTag) :
    compileFields compile path (formFields form) = .ok (fields out) ∧
      option? out "child" = some (.dict (fields out)) := by
  have htag? := tag?_out hc hparts hkept hout
  subst htag
  obtain ⟨fs, hfields, hfs⟩ := compileChildren_fields hparts
  have hchild : option? out "child" = some (.dict fs) := by
    rw [option?_out hc hkept hout (by decide) (by decide), hfs]
  -- setting the type has left the child of the form alone
  rw [formFields, Entries.option?_setOption_of_ne _ _ (by decide)] at hfields
  rw [Entries.fields_of_child htag? hchild]
  exact ⟨hfields, hchild⟩

theorem alternatives_out (htag : tag = Capability.arrayTag) :
    compileAlternatives compile path 0 (formAlternatives form) = .ok (alternatives out) ∧
      option? out "child" = some (.list (alternatives out)) := by
  have htag? := tag?_out hc hparts hkept hout
  subst htag
  obtain ⟨items, halternatives, hitems⟩ := compileChildren_alternatives hparts
  have hchild : option? out "child" = some (.list items) := by
    rw [option?_out hc hkept hout (by decide) (by decide), hitems]
  rw [formAlternatives, Entries.option?_setOption_of_ne _ _ (by decide)] at halternatives
  rw [Entries.alternatives_of_child htag? hchild]
  exact ⟨halternatives, hchild⟩

include hregistered in
theorem isCanonical_out
    (hknown : ∀ key ∈ keys parts, c.Declares key)
    (hrequired : ∀ v, option? parts "required" = some v → ∃ b, v = .bool b) :
    IsCanonical r tag c out where
  registered := hregistered
  type := type_out hc hparts hkept hout
  known := by
    rw [keys_out hc hkept hout]
    exact hknown
  required := by
    rw [option?_out hc hkept hout (by decide) (by decide)]
    exact hrequired
  enum := by
    intro v hv
    rcases enum_out hc hparts hkept hout hregistered with
      ⟨-, hnone⟩ | ⟨kind, options, -, hlist, haccepts⟩
    · rw [hnone] at hv
      simp at hv
    · rw [hlist, Option.some.injEq] at hv
      exact ⟨options, hv.symm, haccepts⟩
  test := by
    intro hstring v hv
    rcases test_out hc hkept hout with ⟨hsame, hpattern⟩ | ⟨-, w, source, p, -, -, -, hp⟩
    · exact hpattern hstring v (hsame ▸ hv)
    · rw [hp, Option.some.injEq] at hv
      exact ⟨p, hv.symm⟩
  coerce := by
    rintro rfl
    rw [option?_out hc hkept hout (by decide) (by decide)]
    exact Capability.number_checkField hkept
  object := fun htag => ⟨_, (fields_out hc hparts hkept hout htag).2⟩
  array := fun htag => ⟨_, (alternatives_out hc hparts hkept hout htag).2⟩

include hform hregistered

theorem keeps_out (htag : r.resolve? ((option? form "type").getD .null) = some tag) :
    Keeps r tag c form out where
  type := htag
  keys := by
    rw [keys_out hc hkept hout, keys_compileChildren hparts,
      Entries.option?_setOption_of_ne _ _ (show "child" ≠ "type" by decide),
      Entries.keys_setOption_of_isSome _ (isSome_type_of_expand? hform)]
  other := by
    intro name htype hchild htest henum
    rw [option?_out hc hkept hout htest henum, option?_compileChildren hparts hchild,
      Entries.option?_setOption_of_ne _ _ htype]
  child := by
    intro hobject harray
    rw [option?_out hc hkept hout (by decide) (by decide),
      (compileChildren_leaf hobject harray).mp hparts,
      Entries.option?_setOption_of_ne _ _ (by decide)]
  enum := by
    have h := enum_out hc hparts hkept hout hregistered
    rw [option?_compileChildren hparts (show "enum" ≠ "child" by decide),
      Entries.option?_setOption_of_ne _ _ (by decide)] at h
    rcases h with h | ⟨kind, options, hoptions, hlist, -⟩
    · exact Or.inl h
    · exact Or.inr ⟨kind, options, hoptions, hlist⟩
  test := by
    have h := test_out hc hkept hout
    rw [option?_compileChildren hparts (show "test" ≠ "child" by decide),
      Entries.option?_setOption_of_ne _ _ (by decide)] at h
    rcases h with ⟨hsame, -⟩ | hread
    · exact Or.inl hsame
    · exact Or.inr hread

end

/-- A step over a reliable type ends in canonical form, with the parts compiled
from the parts of the form. -/
theorem Step.outcome (hr : r.Regular) (h : Step r compile path raw out) :
    ∃ form tag c, expand? r raw = some form ∧ Outcome r compile path tag c form out := by
  obtain ⟨form, tag, c, parts, kept, hform, htag, hregistered, hparts, hknown,
    hrequired, hkept, hout⟩ := h
  have hc : c.Regular := hr tag c hregistered
  exact ⟨form, tag, c, hform,
    { canonical := isCanonical_out hc hparts hkept hout hregistered hknown hrequired
      keeps := keeps_out hc hform hparts hkept hout hregistered htag
      fields := fun h => (fields_out hc hparts hkept hout h).1
      alternatives := fun h => (alternatives_out hc hparts hkept hout h).1 }⟩

/-! ## All levels -/

theorem exists_of_forall₂_zipIdx {α β : Type} {R : α × Nat → β → Prop} :
    ∀ {items : List α} {i : Nat} {bs : List β}, List.Forall₂ R (items.zipIdx i) bs →
      ∀ b ∈ bs.zipIdx i, ∃ a ∈ items, R (a, b.2) b.1
  | [], i, _, .nil, b, hb => by simp at hb
  | a :: items, i, _, .cons (b := b') hab hrest, b, hb => by
      rw [List.zipIdx_cons] at hb
      rcases List.mem_cons.mp hb with rfl | hb
      · exact ⟨a, List.mem_cons_self, hab⟩
      · obtain ⟨a', ha', hab'⟩ := exists_of_forall₂_zipIdx hrest b hb
        exact ⟨a', List.mem_cons_of_mem _ ha', hab'⟩

theorem exists_of_forall₂ {α β : Type} {R : α → β → Prop} {as : List α} {bs : List β}
    (h : List.Forall₂ R as bs) {b : β} (hb : b ∈ bs) : ∃ a ∈ as, R a b := by
  induction h with
  | nil => simp at hb
  | cons hab hrest ih =>
      rcases List.mem_cons.mp hb with rfl | hb
      · exact ⟨_, List.mem_cons_self, hab⟩
      · obtain ⟨a, ha, hab⟩ := ih hb
        exact ⟨a, List.mem_cons_of_mem _ ha, hab⟩

theorem forall₂_of_zipIdx {α β : Type} {R : α × Nat → β → Prop} :
    ∀ {items : List α} {i : Nat} {bs : List β}, List.Forall₂ R (items.zipIdx i) bs →
      List.Forall₂ (fun a b => ∃ i, R (a, i) b) items bs
  | [], _, _, .nil => .nil
  | _ :: _, i, _, .cons hab hrest => .cons ⟨i, hab⟩ (forall₂_of_zipIdx hrest)

theorem keys_compileFields {entries fs : Entries}
    (h : compileFields compile path entries = .ok fs) : keys fs = keys entries := by
  have hall := compileFields_eq_ok.mp h
  induction hall with
  | nil => rfl
  | cons hfield hrest ih =>
      obtain ⟨-, out, -, rfl⟩ := hfield
      exact congrArg (List.cons _) (ih (compileFields_eq_ok.mpr hrest))

/-- Each part of a compiled field was compiled at its own path, from a part of
the form. -/
theorem Outcome.compiled_of_mem_partsAt (h : Outcome r compile path tag c form out)
    {part : Option String × Value} (hpart : part ∈ partsAt path out) :
    ∃ raw' ∈ formParts form, ∃ out', compile part.1 raw' = .ok out' ∧
      part.2 = .dict out' := by
  rcases List.mem_append.mp hpart with hpart | hpart
  · obtain ⟨e, he, rfl⟩ := List.mem_map.mp hpart
    by_cases htag : tag = Capability.objectTag
    · obtain ⟨raw', hraw', -, out', hout', rfl⟩ :=
        exists_of_forall₂ (compileFields_eq_ok.mp (h.fields htag)) he
      exact ⟨raw'.2, List.mem_append_left _ (List.mem_map_of_mem hraw'), out', hout', rfl⟩
    · rw [Entries.fields_of_tag_ne (by simpa [h.canonical.tag?_eq] using htag)] at he
      simp at he
  · obtain ⟨a, ha, rfl⟩ := List.mem_map.mp hpart
    by_cases htag : tag = Capability.arrayTag
    · obtain ⟨raw', hraw', out', hout', hdict⟩ :=
        exists_of_forall₂_zipIdx (compileAlternatives_eq_ok.mp (h.alternatives htag)) a ha
      exact ⟨raw', List.mem_append_right _ hraw', out', hout', hdict⟩
    · rw [Entries.alternatives_of_tag_ne (by simpa [h.canonical.tag?_eq] using htag)] at ha
      simp at ha

/-- What every step establishes for the node that it returns holds at every
node of a compiled field, where the steps may use what raw fields hand down to
the parts of their forms. -/
theorem everyNode_of_compileField {P : Option String → Entries → Prop}
    {Q : Value → Prop} {limit : Int} (hr : r.Regular)
    (hdown : ∀ {raw form}, expand? r raw = some form → Q raw →
      ∀ part ∈ formParts form, Q part)
    (hstep : ∀ {levels path raw out}, Q raw →
      Step r (compileField r limit levels) path raw out → P path out) :
    ∀ {levels : Nat} {path : Option String} {raw : Value} {out : Entries}, Q raw →
      compileField r limit levels path raw = .ok out → EveryNode P path (.dict out)
  | 0, _, _, _, _, h => absurd h compileField_zero_ne_ok
  | levels + 1, path, raw, out, hq, h => by
      -- down one level: from the raw field to the parts of its form
      have hs := compileField_succ_eq_ok.mp h
      obtain ⟨form, tag, c, hform, houtcome⟩ := hs.outcome hr
      refine .node (hstep hq hs) fun part hpart => ?_
      obtain ⟨raw', hraw', out', hout', hdict⟩ := houtcome.compiled_of_mem_partsAt hpart
      rw [hdict]
      exact everyNode_of_compileField hr hdown hstep (hdown hform hq raw' hraw') hout'

theorem Outcome.follows (h : Outcome r compile path tag c form out)
    (hform : expand? r raw = some form)
    (hcompile : ∀ {path raw out}, compile path raw = .ok out → Follows r raw (.dict out)) :
    Follows r raw (.dict out) := by
  refine .node hform h.canonical.registered h.keeps ?_ ?_ ?_ ?_
  · intro htag
    exact keys_compileFields (h.fields htag)
  · intro htag e he
    obtain ⟨-, out', hout', hdict⟩ :=
      List.forall₂_zip (compileFields_eq_ok.mp (h.fields htag)) he
    rw [hdict]
    exact hcompile hout'
  · intro htag
    have hlength := (compileAlternatives_eq_ok.mp (h.alternatives htag)).length_eq
    simpa using hlength.symm
  · intro htag e he
    have hall := forall₂_of_zipIdx (compileAlternatives_eq_ok.mp (h.alternatives htag))
    obtain ⟨i, out', hout', hdict⟩ := List.forall₂_zip hall he
    rw [hdict]
    exact hcompile hout'

theorem follows_of_compileField {limit : Int} (hr : r.Regular) :
    ∀ {levels : Nat} {path : Option String} {raw : Value} {out : Entries},
      compileField r limit levels path raw = .ok out → Follows r raw (.dict out)
  | 0, _, _, _, h => absurd h compileField_zero_ne_ok
  | levels + 1, path, raw, out, h => by
      obtain ⟨form, tag, c, hform, houtcome⟩ := (compileField_succ_eq_ok.mp h).outcome hr
      exact houtcome.follows hform fun h => follows_of_compileField hr h

theorem canonical_of_compileField {limit : Int} (hr : r.Regular) {levels : Nat}
    (h : compileField r limit levels path raw = .ok out) :
    EveryNode (fun _ field => IsCanonicalNode r field) path (.dict out) := by
  refine everyNode_of_compileField (Q := fun _ => True) hr (fun _ _ _ _ => trivial)
    (fun _ hstep => ?_) trivial h
  obtain ⟨form, tag, c, -, houtcome⟩ := hstep.outcome hr
  exact ⟨tag, c, houtcome.canonical⟩

end Compilation

/-- **The compiler returns canonical fields and changes no meaning.** Over every
reachable registry, whatever the raw field, its path and the levels allowed:
each node of a compiled field is in canonical form, and the field follows the
raw one name by name, alternative by alternative and property by property. -/
theorem compileField_canonical_and_follows {r : Registry}
    (hr : r.Reachable Capability.Conservative) {limit : Int} {levels : Nat}
    {path : Option String} {raw : Value} {field : Entries}
    (h : compileField r limit levels path raw = .ok field) :
    EveryNode (fun _ node => IsCanonicalNode r node) path (.dict field) ∧
      Follows r raw (.dict field) :=
  ⟨canonical_of_compileField hr.regular h, follows_of_compileField hr.regular h⟩

/-- An object in short form, with an alias and a tuple of options inside. -/
theorem compileField_canonical_and_follows_short :
    EveryNode (fun _ node => IsCanonicalNode Registry.builtin node) none
        (.dict [(.text "type", .text "object"), (.text "child", .dict
          [(.text "a", .dict [(.text "type", .text "array"), (.text "child", .list
            [.dict [(.text "type", .text "string")],
              .dict [(.text "type", .text "number"), (.text "enum", .list [.int 1])]])])])]) ∧
      Follows Registry.builtin
        (.dict [(.text "a", .list [.classObject .text,
          .dict [(.text "type", .classObject .int), (.text "enum", .sequence .tuple [.int 1])]])])
        (.dict [(.text "type", .text "object"), (.text "child", .dict
          [(.text "a", .dict [(.text "type", .text "array"), (.text "child", .list
            [.dict [(.text "type", .text "string")],
              .dict [(.text "type", .text "number"), (.text "enum", .list [.int 1])]])])])]) :=
  compileField_canonical_and_follows .seeded
    (show compileField Registry.builtin 3 3 none _ = .ok _ by rw [Registry.builtin_eq]; cbv)

end DataShape
