import DataShape.Capability.Custom
import DataShape.Proofs.Agreement
import DataShape.Proofs.Grammar

/-!
# Registering further types

A registry is extended by registrations that touch nothing in it: under tags that
it does not have, with aliases that lead nowhere in it. Aliases that are tuples are
left out, since a tuple in a schema is read as a list of alternatives unless it
is an alias. What the smaller registry knows the larger one knows too, so a schema
that compiles over the one compiles over the other to the same fields, and these
find the same errors over both.
-/

namespace DataShape

open Entries (option? setOption fields alternatives partsAt)

/-! ## Keys of different kinds -/

namespace Value

/-- A value is one key with a text only if it is that text. -/
theorem sameKey_text {b : Value} {s : String} (h : b.text? = some s) (a : Value) :
    a.sameKey b = (a.text? == some s) := by
  rcases eq_of_text?_eq_some h with rfl | rfl
  all_goals
    unfold sameKey
    rw [sameAs.eq_def]
    cases a with
    | scalar x =>
        cases x <;> simp [sameLeaf, timing?, Scalar.timing?, sameContent, quantity?, text?]
    | _ => simp [sameLeaf, timing?, Scalar.timing?, sameContent, quantity?, text?]

theorem not_sameKey_tuple {key : Value} (hkey : ∀ items, key ≠ .sequence .tuple items)
    (items : List Value) : (Value.sequence .tuple items).sameKey key = false := by
  unfold sameKey
  rw [sameAs.eq_def]
  cases key with
  | sequence kind ys =>
      cases kind with
      | list => rfl
      | tuple => exact absurd rfl (hkey ys)
  | scalar x =>
      cases x <;> simp [sameLeaf, timing?, Scalar.timing?, sameContent, quantity?, text?]
  | _ => simp [sameLeaf, timing?, sameContent, quantity?, text?]

end Value

namespace Registry

/-! ## Assignments beside what is there -/

section

variable {κ α : Type} {same : κ → κ → Bool} {key : κ} {v : α} {p : κ → Bool} {e : κ × α}

/-- An entry under another key is found as before. -/
theorem find?_assign_of_some {entries : List (κ × α)}
    (h : entries.find? (fun e => p e.1) = some e) (hother : same key e.1 = false) :
    (assign same key v entries).find? (fun e => p e.1) = some e := by
  induction entries with
  | nil => simp at h
  | cons e' rest ih =>
      rw [List.find?_cons] at h
      rw [assign]
      cases hp : p e'.1 with
      | true =>
          obtain rfl : e' = e := by simpa [hp] using h
          rw [hother, if_neg Bool.false_ne_true, List.find?_cons, hp]
      | false =>
          have hrest : rest.find? (fun e => p e.1) = some e := by simpa [hp] using h
          split
          · rw [List.find?_cons, hp]
            exact hrest
          · rw [List.find?_cons, hp]
            exact ih hrest

/-- An assignment adds no key but its own. -/
theorem find?_assign_of_none {entries : List (κ × α)}
    (h : entries.find? (fun e => p e.1) = none) (hkey : p key = false) :
    (assign same key v entries).find? (fun e => p e.1) = none := by
  induction entries with
  | nil => simp [assign, hkey]
  | cons e' rest ih =>
      rw [List.find?_cons] at h
      rw [assign]
      cases hp : p e'.1 with
      | true => simp [hp] at h
      | false =>
          have hrest : rest.find? (fun e => p e.1) = none := by simpa [hp] using h
          split
          · rw [List.find?_cons, hp]
            exact hrest
          · rw [List.find?_cons, hp]
            exact ih hrest

end

theorem mem_tags_iff {r : Registry} {tag : String} :
    tag ∈ r.tags ↔ ∃ c, r.capability? tag = some c := by
  constructor
  · intro h
    cases hc : r.capability? tag with
    | some c => exact ⟨c, rfl⟩
    | none =>
        obtain ⟨e, he, rfl⟩ := List.mem_map.mp h
        simpa using List.lookup_eq_none_iff.mp hc e he
  · rintro ⟨c, hc⟩
    exact List.mem_map.mpr ⟨(tag, c), mem_types_of_capability? hc, rfl⟩

/-- Another tag has the capability that it had. -/
theorem capability?_setType_of_ne {r : Registry} {tag name : String} {c : Capability}
    (hne : tag ≠ name) : (r.setType name c).capability? tag = r.capability? tag := by
  show (assign (· == ·) name c r.types).lookup tag = r.types.lookup tag
  have hbeq : (tag == name) = false := by simpa using hne
  generalize r.types = types
  induction types with
  | nil => simp [assign, List.lookup, hbeq]
  | cons e rest ih =>
      obtain ⟨key, old⟩ := e
      rw [assign]
      split
      · rename_i heq
        obtain rfl : name = key := by simpa using heq
        rw [List.lookup_cons, List.lookup_cons, hbeq]
      · rw [List.lookup_cons, List.lookup_cons, ih]

/-! ## Registries within others -/

/-- What the first registry knows the second one knows: capabilities stay under
their tags and aliases lead where they led. No further tuple is an alias. -/
structure Within (r r' : Registry) : Prop where
  capabilities : ∀ {tag : String} {c : Capability}, r.capability? tag = some c →
    r'.capability? tag = some c
  aliases : ∀ {v : Value} {e : Value × String}, v.text? = none →
    r.aliases.find? (fun e => v.sameKey e.1) = some e →
    r'.aliases.find? (fun e => v.sameKey e.1) = some e
  tuples : ∀ {items : List Value},
    r.aliases.find? (fun e => (Value.sequence .tuple items).sameKey e.1) = none →
    r'.aliases.find? (fun e => (Value.sequence .tuple items).sameKey e.1) = none

/-- A value that may be made an alias beside a registry. One that cannot be an alias
at all, such as a list or a mapping, may be tried too. -/
structure IsFresh (r : Registry) (v : Value) : Prop where
  unresolved : r.resolve? v = none
  noTuple : ∀ items, v ≠ .sequence .tuple items

/-- The registries that registrations beside a registry lead to, the failing ones
among them. Each uses a tag that the registry does not have and aliases that are
fresh for it. -/
inductive Extends (r : Registry) : Registry → Prop
  | refl : r.Extends r
  | register {r' : Registry} (before : r.Extends r') (tag : Value) (candidate : Candidate)
      (aliases : Value) (newTag : ∀ name, tag.text? = some name → name ∉ r.tags)
      (fresh : ∀ vs, aliases.walk = .ok vs → ∀ v ∈ vs, r.IsFresh v) :
      r.Extends (r'.register tag candidate aliases).1

namespace Within

variable {r r' r'' : Registry}

theorem refl : r.Within r := ⟨id, fun _ => id, id⟩

theorem setType (h : r.Within r') {name : String} {c : Capability} (hnew : name ∉ r.tags) :
    r.Within (r'.setType name c) where
  capabilities := by
    intro tag c' hc
    rw [capability?_setType_of_ne]
    · exact h.capabilities hc
    · rintro rfl
      exact hnew (mem_tags_iff.mpr ⟨c', hc⟩)
  aliases := h.aliases
  tuples := h.tuples

theorem setAlias (h : r.Within r') {tag : String} {v : Value} (hv : r.IsFresh v)
    (hset : r'.setAlias tag v = .ok r'') : r.Within r'' := by
  unfold Registry.setAlias at hset
  split at hset
  · simp at hset
  · rename_i hhashable
    cases hset
    refine ⟨h.capabilities, fun {w e} hw hfind => ?_, fun hfind => ?_⟩
    · -- the entry that is found belongs to the smaller registry, where `v` leads nowhere
      refine find?_assign_of_some (h.aliases hw hfind) ?_
      cases htext : v.text? with
      | some s =>
          have hfound := List.find?_some hfind
          rw [Value.sameKey_of_text? htext]
          cases hkey : (e.1.text? == some s) with
          | false => rfl
          | true =>
              rw [Value.sameKey_text (by simpa using hkey), hw] at hfound
              simp at hfound
      | none =>
          have hnone := hv.unresolved
          simp only [Registry.resolve?, htext, Value.isHashable, hhashable] at hnone
          have hfresh : r.aliases.find? (fun e => v.sameKey e.1) = none := by simpa using hnone
          simpa using List.find?_eq_none.mp hfresh e (List.mem_of_find?_eq_some hfind)
    · exact find?_assign_of_none (h.tuples hfind) (Value.not_sameKey_tuple hv.noTuple _)

theorem setAliases {tag : String} : ∀ {vs : List Value} {r' : Registry}, r.Within r' →
    (∀ v ∈ vs, r.IsFresh v) → r.Within (Registry.setAliases tag vs r').1
  | [], _, h, _ => h
  | v :: rest, r', h, hfresh => by
      obtain ⟨hv, hrest⟩ := List.forall_mem_cons.mp hfresh
      rw [Registry.setAliases]
      split
      · rename_i hset
        exact setAliases (h.setAlias hv hset) hrest
      · exact h

/-- One registration beside the smaller registry keeps it within the other one,
whether the registration fails or not. -/
theorem register (h : r.Within r') {tag aliases : Value} {candidate : Candidate}
    (hnew : ∀ name, tag.text? = some name → name ∉ r.tags)
    (hfresh : ∀ vs, aliases.walk = .ok vs → ∀ v ∈ vs, r.IsFresh v) :
    r.Within (r'.register tag candidate aliases).1 := by
  unfold Registry.register
  split
  · exact h
  · rename_i name htag
    split
    · exact h
    · cases candidate with
      | other v => exact h
      | capability c =>
          dsimp only
          split
          · rename_i vs hwalk
            exact setAliases (h.setType (hnew name htag)) (hfresh vs hwalk)
          · exact h.setType (hnew name htag)

theorem resolve? (h : r.Within r') {v : Value} {tag : String} (hv : r.resolve? v = some tag) :
    r'.resolve? v = some tag := by
  unfold Registry.resolve? at hv ⊢
  cases htext : v.text? with
  | some s =>
      simp only [htext] at hv ⊢
      split at hv
      · rename_i hknown
        obtain ⟨c, hc⟩ := mem_tags_iff.mp (List.contains_iff_mem.mp hknown)
        rw [if_pos (List.contains_iff_mem.mpr (mem_tags_iff.mpr ⟨c, h.capabilities hc⟩))]
        exact hv
      · simp at hv
  | none =>
      simp only [htext] at hv ⊢
      split at hv
      · rename_i hhashable
        obtain ⟨e, he, rfl⟩ := Option.map_eq_some_iff.mp hv
        rw [if_pos hhashable, h.aliases htext he]
        rfl
      · simp at hv

theorem contains (h : r.Within r') {v : Value} (hv : r.contains v = true) :
    r'.contains v = true := by
  obtain ⟨tag, htag⟩ := Option.isSome_iff_exists.mp hv
  exact Option.isSome_iff_exists.mpr ⟨tag, h.resolve? htag⟩

theorem lookup? (h : r.Within r') {v : Value} {c : Capability} (hv : r.lookup? v = some c) :
    r'.lookup? v = some c := by
  obtain ⟨tag, htag, hc⟩ := Option.bind_eq_some_iff.mp hv
  exact Option.bind_eq_some_iff.mpr ⟨tag, h.resolve? htag, h.capabilities hc⟩

/-- No sequence becomes the name of a type. -/
theorem not_contains_sequence (h : r.Within r') {kind : SequenceKind} {items : List Value}
    (hv : r.contains (.sequence kind items) = false) :
    r'.contains (.sequence kind items) = false := by
  cases kind with
  | list => rfl
  | tuple =>
      unfold Registry.contains Registry.resolve? at hv ⊢
      simp only [Value.text?] at hv ⊢
      split
      · rename_i hhashable
        rw [if_pos hhashable] at hv
        rw [h.tuples (by simpa using hv)]
        rfl
      · rfl

end Within

theorem Extends.within {r r' : Registry} (h : r.Extends r') : r.Within r' := by
  induction h with
  | refl => exact .refl
  | register before tag candidate aliases newTag fresh ih => exact ih.register newTag fresh

/-- The checks of options leave the type and the parts of a field as they are. -/
def KeepsParts (r : Registry) : Prop :=
  ∀ tag c, r.capability? tag = some c → ∀ field path kept, c.checkField field path = .ok kept →
    option? kept "type" = option? field "type" ∧ option? kept "child" = option? field "child"

theorem Regular.keepsParts {r : Registry} (hr : r.Regular) : r.KeepsParts :=
  fun tag c hc _ _ _ hkept =>
    ⟨(hr tag c hc).option?_checkField hkept (by decide),
      (hr tag c hc).option?_checkField hkept (by decide)⟩

/-- The checks of options leave the type of a field as it is, and the parts of objects
and arrays. -/
def KeepsShape (r : Registry) : Prop :=
  ∀ tag c, r.capability? tag = some c → ∀ field path kept, c.checkField field path = .ok kept →
    option? kept "type" = option? field "type" ∧
      (tag = Capability.objectTag ∨ tag = Capability.arrayTag →
        option? kept "child" = option? field "child")

theorem KeepsParts.keepsShape {r : Registry} (hr : r.KeepsParts) : r.KeepsShape := by
  intro tag c hc field path kept hkept
  obtain ⟨htype, hchild⟩ := hr tag c hc field path kept hkept
  exact ⟨htype, fun _ => hchild⟩

end Registry

namespace Compilation

variable {r r' : Registry} {compile compile' : FieldCompiler} {path : Option String}
  {raw : Value} {form field kept parts out : Entries} {tag : String} {c : Capability}
  {limit : Int} {levels : Nat}

/-! ## Compilation over a larger registry -/

/-- Every raw field that stands for a form stands for the same form. -/
theorem expand?_of_within (h : r.Within r') (hform : expand? r raw = some form) :
    expand? r' raw = some form := by
  cases hcontains : r.contains raw with
  | true =>
      rw [expand?_of_contains hcontains] at hform
      rw [expand?_of_contains (h.contains hcontains)]
      exact hform
  | false =>
      cases raw with
      | sequence kind items =>
          rw [expand?_sequence hcontains] at hform
          rw [expand?_sequence (h.not_contains_sequence hcontains)]
          exact hform
      | mapping kind entries =>
          unfold expand? at hform ⊢
          rw [Registry.contains_mapping] at hform ⊢
          exact hform
      | _ => simp [expand?, hcontains] at hform

theorem compileFields_mono
    (hcompile : ∀ {path raw out}, compile path raw = .ok out → compile' path raw = .ok out)
    {entries fs : Entries} (h : compileFields compile path entries = .ok fs) :
    compileFields compile' path entries = .ok fs := by
  refine compileFields_eq_ok.mpr ((compileFields_eq_ok.mp h).imp fun raw' field' hfield => ?_)
  obtain ⟨hwritable, out, hout, hdict⟩ := hfield
  exact ⟨hwritable, out, hcompile hout, hdict⟩

theorem compileAlternatives_mono
    (hcompile : ∀ {path raw out}, compile path raw = .ok out → compile' path raw = .ok out)
    {items choices : List Value} {i : Nat}
    (h : compileAlternatives compile path i items = .ok choices) :
    compileAlternatives compile' path i items = .ok choices := by
  refine compileAlternatives_eq_ok.mpr
    ((compileAlternatives_eq_ok.mp h).imp fun raw' field' hfield => ?_)
  obtain ⟨out, hout, hdict⟩ := hfield
  exact ⟨out, hcompile hout, hdict⟩

theorem compileChildren_mono
    (hcompile : ∀ {path raw out}, compile path raw = .ok out → compile' path raw = .ok out)
    (h : compileChildren compile path tag field = .ok parts) :
    compileChildren compile' path tag field = .ok parts := by
  by_cases hobject : tag = Capability.objectTag
  · subst hobject
    obtain ⟨kind, entries, fs, hchild, hfields, rfl⟩ := compileChildren_object.mp h
    exact compileChildren_object.mpr
      ⟨kind, entries, fs, hchild, compileFields_mono hcompile hfields, rfl⟩
  · by_cases harray : tag = Capability.arrayTag
    · subst harray
      obtain ⟨kind, items, choices, hchild, hchoices, rfl⟩ := compileChildren_array.mp h
      exact compileChildren_array.mpr
        ⟨kind, items, choices, hchild, compileAlternatives_mono hcompile hchoices, rfl⟩
    · exact (compileChildren_leaf hobject harray).mpr ((compileChildren_leaf hobject harray).mp h)

/-- Options are accepted by a capability that the larger registry finds as well. -/
theorem checkEnum_of_within (h : r.Within r') (henum : checkEnum r path field = .ok out) :
    checkEnum r' path field = .ok out := by
  rcases checkEnum_eq_ok.mp henum with hnone | ⟨kind, options, type, hsome, htype, haccepts, rfl⟩
  · exact checkEnum_eq_ok.mpr (Or.inl hnone)
  · refine checkEnum_eq_ok.mpr (Or.inr ⟨kind, options, type, hsome, htype, fun v hv => ?_, rfl⟩)
    obtain ⟨c, hc, haccepted⟩ := haccepts v hv
    exact ⟨c, h.lookup? hc, haccepted⟩

/-- The induction is on the levels: each one expands, names and checks a node as
over the smaller registry. -/
theorem compileField_of_within (h : r.Within r') : ∀ {levels : Nat} {path : Option String}
    {raw : Value} {out : Entries}, compileField r limit levels path raw = .ok out →
      compileField r' limit levels path raw = .ok out
  | 0, _, _, _, hout => absurd hout compileField_zero_ne_ok
  | levels + 1, path, raw, out, hout => by
      obtain ⟨form, tag, c, parts, kept, hform, htag, hc, hparts, hknown, hrequired, hkept,
        henum⟩ := compileField_succ_eq_ok.mp hout
      exact compileField_succ_eq_ok.mpr ⟨form, tag, c, parts, kept, expand?_of_within h hform,
        h.resolve? htag, h.capabilities hc,
        compileChildren_mono (fun hpart => compileField_of_within h hpart) hparts,
        hknown, hrequired, hkept, checkEnum_of_within h henum⟩

theorem compileSchema_of_within (h : r.Within r') {fs : Entries}
    (hfs : compileSchema r limit path raw = .ok fs) :
    compileSchema r' limit path raw = .ok fs := by
  obtain ⟨kind, entries, rfl, hfields⟩ := of_compileSchema_eq_ok hfs
  exact compileFields_mono (fun hpart => compileField_of_within h hpart) hfields

/-! ## Compiled fields name registered types -/

/-- A node whose type is the tag of a registered capability. -/
def IsTyped (r : Registry) (node : Entries) : Prop :=
  ∃ tag, option? node "type" = some (.text tag) ∧ ∃ c, r.capability? tag = some c

/-- Over types that keep the shape of a field, the checks leave its tag and its parts. -/
theorem shape_out (hr : r.KeepsShape) (hc : r.capability? tag = some c)
    (hparts : compileChildren compile path tag (setOption form "type" (.text tag)) = .ok parts)
    (hkept : c.checkField parts path = .ok kept) (henum : checkEnum r path kept = .ok out) :
    option? out "type" = some (.text tag) ∧
      (tag = Capability.objectTag ∨ tag = Capability.arrayTag →
        option? out "child" = option? parts "child") := by
  obtain ⟨hkeptType, hkeptChild⟩ := hr tag c hc parts path kept hkept
  constructor
  · rw [option?_checkEnum henum (by decide), hkeptType, type_compileChildren hparts]
  · intro htag
    rw [option?_checkEnum henum (by decide), hkeptChild htag]

/-- A step over types that keep the shape names its type by a tag, and each part was
compiled at its own path. -/
theorem Step.typed (hr : r.KeepsShape) (h : Step r compile path raw out) :
    IsTyped r out ∧ ∀ part ∈ partsAt path out, ∃ raw' out', compile part.1 raw' = .ok out' ∧
      part.2 = .dict out' := by
  obtain ⟨form, tag, c, parts, kept, hform, htag, hc, hparts, -, -, hkept, henum⟩ := h
  obtain ⟨htype, hchild⟩ := shape_out hr hc hparts hkept henum
  have htag? : Entries.tag? out = some tag := by
    rw [Entries.tag?, htype]
    rfl
  refine ⟨⟨tag, htype, c, hc⟩, fun part hpart => ?_⟩
  rcases List.mem_append.mp hpart with hpart | hpart
  · obtain ⟨e, he, rfl⟩ := List.mem_map.mp hpart
    by_cases hobject : tag = Capability.objectTag
    · subst hobject
      obtain ⟨fs, hfields, hfs⟩ := compileChildren_fields hparts
      rw [Entries.fields_of_child htag? ((hchild (Or.inl rfl)).trans hfs)] at he
      obtain ⟨raw', -, -, out', hout', rfl⟩ := exists_of_forall₂ (compileFields_eq_ok.mp hfields) he
      exact ⟨raw'.2, out', hout', rfl⟩
    · rw [Entries.fields_of_tag_ne (by simpa [htag?] using hobject)] at he
      simp at he
  · obtain ⟨a, ha, rfl⟩ := List.mem_map.mp hpart
    by_cases harray : tag = Capability.arrayTag
    · subst harray
      obtain ⟨items, hitems, hlist⟩ := compileChildren_alternatives hparts
      rw [Entries.alternatives_of_child htag? ((hchild (Or.inr rfl)).trans hlist)] at ha
      obtain ⟨raw', -, out', hout', hdict⟩ :=
        exists_of_forall₂_zipIdx (compileAlternatives_eq_ok.mp hitems) a ha
      exact ⟨raw', out', hout', hdict⟩
    · rw [Entries.alternatives_of_tag_ne (by simpa [htag?] using harray)] at ha
      simp at ha

theorem everyNode_isTyped (hr : r.KeepsParts) : ∀ {levels : Nat} {path : Option String}
    {raw : Value} {out : Entries}, compileField r limit levels path raw = .ok out →
      EveryNode (fun _ node => IsTyped r node) path (.dict out)
  | 0, _, _, _, h => absurd h compileField_zero_ne_ok
  | levels + 1, path, raw, out, h => by
      obtain ⟨htyped, hparts⟩ := (compileField_succ_eq_ok.mp h).typed hr.keepsShape
      refine .node htyped fun part hpart => ?_
      obtain ⟨raw', out', hout', hdict⟩ := hparts part hpart
      rw [hdict]
      exact everyNode_isTyped hr hout'

theorem everyTag_of_compileSchema (hr : r.KeepsParts) {fs : Entries}
    (h : compileSchema r limit path raw = .ok fs) :
    ∀ e ∈ fs, e.2.EveryTag fun tag => ∃ c, r.capability? tag = some c := by
  obtain ⟨kind, entries, rfl, hfields⟩ := of_compileSchema_eq_ok h
  intro e he
  obtain ⟨raw', -, -, out, hout, rfl⟩ := exists_of_forall₂ (compileFields_eq_ok.mp hfields) he
  exact ⟨_, everyNode_isTyped hr hout⟩

end Compilation

namespace Registry

open Compilation

theorem Within.agree {r r' : Registry} (h : r.Within r') {v : Value}
    (hv : v.EveryTag fun tag => ∃ c, r.capability? tag = some c) :
    v.EveryTag fun tag => r'.capability? tag = r.capability? tag := by
  refine hv.mono fun tag hc => ?_
  obtain ⟨c, hc⟩ := hc
  rw [hc, h.capabilities hc]

/-- **Registering further types is conservative.** Over a registry that extends
another one every raw field and every schema that compiled before compiles to the
same result. What was compiled has the same outcome for every value, be it a set of
errors or a fault, wherever checks of options leave the type and the parts of a
field alone; so has every canonical schema, in which each node names a registered
type by its tag. The registry matters to such a schema only through the
capabilities under its tags: any two registries that agree on these have the same
outcomes. -/
theorem Extends.conservative {r r' : Registry} (h : r.Extends r') :
    (∀ limit levels path raw field, compileField r limit levels path raw = .ok field →
      compileField r' limit levels path raw = .ok field) ∧
    (∀ limit path raw schema, compileSchema r limit path raw = .ok schema →
      compileSchema r' limit path raw = .ok schema) ∧
    (r.KeepsParts → ∀ limit path raw schema, compileSchema r limit path raw = .ok schema →
      ∀ value parent, validateObject r' value (.dict schema) parent
        = validateObject r value (.dict schema) parent) ∧
    (∀ schema : Entries,
      (∀ e ∈ schema, e.2.EveryTag fun tag => ∃ c, r.capability? tag = some c) →
      ∀ value parent, validateObject r' value (.dict schema) parent
        = validateObject r value (.dict schema) parent) ∧
    ∀ (r₁ r₂ : Registry),
      (∀ field : Value, (field.EveryTag fun tag => r₁.capability? tag = r₂.capability? tag) →
        ∀ value name parent, validateField r₁ value field name parent
          = validateField r₂ value field name parent) ∧
      ∀ schema : Entries,
        (∀ e ∈ schema, e.2.EveryTag fun tag => r₁.capability? tag = r₂.capability? tag) →
        ∀ value parent, validateObject r₁ value (.dict schema) parent
          = validateObject r₂ value (.dict schema) parent := by
  have hwithin := h.within
  have houtcomes : ∀ schema : Entries,
      (∀ e ∈ schema, e.2.EveryTag fun tag => ∃ c, r.capability? tag = some c) →
      ∀ value parent, validateObject r' value (.dict schema) parent
        = validateObject r value (.dict schema) parent :=
    fun schema hschema => validateObject_congr fun e he => hwithin.agree (hschema e he)
  refine ⟨?_, ?_, ?_, houtcomes, fun r₁ r₂ => ⟨?_, ?_⟩⟩
  · exact fun _ _ _ _ _ hfield => compileField_of_within hwithin hfield
  · exact fun _ _ _ _ hschema => compileSchema_of_within hwithin hschema
  · exact fun hr _ _ _ schema hschema =>
      houtcomes schema (everyTag_of_compileSchema hr hschema)
  · exact fun field hfield => Validation.agreeOn_checkWithin hfield
  · exact fun schema hschema => validateObject_congr hschema

/-- The built-in registry with even numbers, under a class that names no built-in
type. The second alias is a list, with which the registration fails. -/
def withEven : Registry :=
  (Registry.builtin.register (.text "even") (.capability .even)
    (.list [.classObject .any, .list []])).1

theorem extends_withEven : Registry.builtin.Extends withEven := by
  refine .register .refl _ _ _ ?_ ?_
  · rintro name ⟨⟩
    rw [tags, builtin_eq]
    decide
  · rintro vs ⟨⟩
    refine List.forall_mem_cons.mpr ⟨⟨by decide +kernel, ?_⟩, ?_⟩
    · rintro items ⟨⟩
    · refine List.forall_mem_singleton.mpr ⟨rfl, ?_⟩
      rintro items ⟨⟩

/-- A tuple of a class is a list of alternatives over both registries, and all values
have the same outcome. -/
theorem conservative_withEven :
    Registry.builtin.Extends withEven ∧
      compileSchema withEven 64 none (.dict [(.text "a", .sequence .tuple [.classObject .text])])
        = .ok [(.text "a", .dict [(.text "type", .text "array"),
          (.text "child", .list [.dict [(.text "type", .text "string")]])])] ∧
      ∀ value parent, validateObject withEven value (.dict [(.text "a", .dict
          [(.text "type", .text "array"),
            (.text "child", .list [.dict [(.text "type", .text "string")]])])]) parent
        = validateObject Registry.builtin value (.dict [(.text "a", .dict
          [(.text "type", .text "array"),
            (.text "child", .list [.dict [(.text "type", .text "string")]])])]) parent := by
  have hcompile : compileSchema Registry.builtin 64 none
      (.dict [(.text "a", .sequence .tuple [.classObject .text])])
        = .ok [(.text "a", .dict [(.text "type", .text "array"),
          (.text "child", .list [.dict [(.text "type", .text "string")]])])] := by
    rw [Registry.builtin_eq]
    cbv
  have hall := Extends.conservative extends_withEven
  exact ⟨extends_withEven, hall.2.1 _ _ _ _ hcompile,
    hall.2.2.1 Reachable.seeded.regular.keepsParts _ _ _ _ hcompile⟩

end Registry

end DataShape
