import DataShape.Proofs.Canonical
import DataShape.Proofs.Position

/-!
# The keys of mappings

No two keys of a mapping are the same, and so it is with the names of fields
wherever a schema was compiled from mappings. Keys that are plain names are
told apart by how they are displayed.
-/

namespace DataShape

open Entries (keys fields)

/-! ## Mappings inside a value -/

/-- The part is met on a way down into the whole. -/
inductive Value.Inside : (part whole : Value) → Prop
  | self (v : Value) : Inside v v
  | entry {part : Value} {kind : MappingKind} {entries : Entries} {e : Value × Value}
      (among : e ∈ entries) (below : Inside part e.2) : Inside part (.mapping kind entries)
  | item {part item : Value} {kind : SequenceKind} {items : List Value}
      (among : item ∈ items) (below : Inside part item) : Inside part (.sequence kind items)
  | row {part row : Value} {packing : Packing} {rows : List Value}
      (among : row ∈ rows) (below : Inside part row) : Inside part (.array packing rows)

/-- The value of a part of a mapping, missing where there is none. -/
def Value.part (v name : Value) : Value :=
  (Entries.get? (v.entries?.getD []) name).getD .missing

namespace Value.Inside

variable {inner v : Value}

/-- A value that is no mapping and no sequence has nothing inside but itself. -/
theorem eq_of_leaf (h : inner.Inside v) (hmapping : v.isMapping = false)
    (hsequence : Capability.isSequence v = false) : inner = v := by
  cases h with
  | self => rfl
  | entry => simp [Value.isMapping, Value.entries?] at hmapping
  | item => simp [Capability.isSequence] at hsequence
  | row => simp [Capability.isSequence] at hsequence

/-- What is inside a part that is there is inside the whole. -/
theorem of_part {name : Value} (h : inner.Inside (v.part name)) :
    inner = .missing ∨ inner.Inside v := by
  unfold Value.part at h
  cases v with
  | mapping kind entries =>
      cases hget : Entries.get? entries name with
      | none =>
          rw [Value.entries?, Option.getD_some, hget] at h
          exact .inl (h.eq_of_leaf rfl rfl)
      | some w =>
          obtain ⟨key, hmem⟩ := Entries.mem_of_get? hget
          rw [Value.entries?, Option.getD_some, hget] at h
          exact .inr (.entry hmem h)
  | _ => exact .inl (h.eq_of_leaf rfl rfl)

end Value.Inside

/-- Something holds for every mapping inside a value. -/
def Value.EveryMapping (P : Entries → Prop) (v : Value) : Prop :=
  ∀ kind entries, (Value.mapping kind entries).Inside v → P entries

namespace Value.EveryMapping

variable {P : Entries → Prop}

theorem mapping_iff {kind : MappingKind} {entries : Entries} :
    (Value.mapping kind entries).EveryMapping P ↔
      P entries ∧ ∀ e ∈ entries, e.2.EveryMapping P := by
  constructor
  · intro h
    exact ⟨h kind entries (.self _), fun e he k es hinside => h k es (.entry he hinside)⟩
  · rintro ⟨hhere, hbelow⟩ k es hinside
    cases hinside with
    | self => exact hhere
    | entry among below => exact hbelow _ among k es below

theorem sequence_iff {kind : SequenceKind} {items : List Value} :
    (Value.sequence kind items).EveryMapping P ↔ ∀ v ∈ items, v.EveryMapping P := by
  constructor
  · exact fun h v hv k es hinside => h k es (.item hv hinside)
  · intro h k es hinside
    cases hinside with
    | item among below => exact h _ among k es below

theorem mono {Q : Entries → Prop} (hPQ : ∀ entries, P entries → Q entries) {v : Value}
    (h : v.EveryMapping P) : v.EveryMapping Q :=
  fun kind entries hinside => hPQ entries (h kind entries hinside)

theorem array_iff {packing : Packing} {rows : List Value} :
    (Value.array packing rows).EveryMapping P ↔ ∀ v ∈ rows, v.EveryMapping P := by
  constructor
  · exact fun h v hv k es hinside => h k es (.row hv hinside)
  · intro h k es hinside
    cases hinside with
    | row among below => exact h _ among k es below

/-- Nothing is met inside an array of no dimension. -/
theorem of_point {packing : Packing} {element : Value} :
    (Value.point packing element).EveryMapping P := by
  intro k es hinside
  cases hinside

/-- There is no mapping inside a value that is none and no sequence. -/
theorem of_leaf {v : Value} (hmapping : v.isMapping = false)
    (hsequence : Capability.isSequence v = false) : v.EveryMapping P := by
  intro k es hinside
  obtain rfl := hinside.eq_of_leaf hmapping hsequence
  cases hmapping

/-- What holds inside a mapping holds inside its parts, missing ones included. -/
theorem part {v : Value} (h : v.EveryMapping P) (name : Value) :
    (v.part name).EveryMapping P := by
  intro k es hinside
  rcases hinside.of_part with hmissing | hinside
  · cases hmissing
  · exact h k es hinside

/-- What holds inside a sequence holds inside its elements. -/
theorem of_mem_members {v : Value} (h : v.EveryMapping P)
    (hsequence : Capability.isSequence v = true) :
    ∀ element ∈ v.members, element.EveryMapping P := by
  cases v with
  | sequence kind items => exact sequence_iff.mp h
  | array packing rows => exact array_iff.mp h
  | point packing element => exact fun _ hmem => absurd hmem List.not_mem_nil
  | _ => simp [Capability.isSequence] at hsequence

end Value.EveryMapping

/-! ## Distinct keys -/

/-- No two keys are the same, as in every mapping that a program can hold. -/
def DistinctKeys (entries : Entries) : Prop :=
  (keys entries).Pairwise fun a b => a.sameKey b = false

namespace Compilation

variable {r : Registry}

/-- Where the `child` of a form comes from: it is the raw sequence or mapping
itself, or it is written in the raw mapping. -/
theorem child_cases {raw child : Value} {form : Entries} (hform : expand? r raw = some form)
    (hchild : Entries.option? form "child" = some child) :
    (∃ kind items, raw = .sequence kind items ∧ child = .list items) ∨
    ∃ kind entries, raw = .mapping kind entries ∧
      (child = .dict entries ∨ Entries.option? entries "child" = some child) := by
  unfold expand? at hform
  split at hform
  -- a bare tag or alias has no child
  · cases hform
    simp [Entries.option?_cons, Entries.option?_nil] at hchild
  · split at hform
    · cases hform
      obtain rfl : _ = child := by simpa [Entries.option?_cons] using hchild
      exact .inl ⟨_, _, rfl, rfl⟩
    · split at hform
      · cases hform
        exact .inr ⟨_, _, rfl, .inr hchild⟩
      · cases hform
        obtain rfl : _ = child := by simpa [Entries.option?_cons] using hchild
        exact .inr ⟨_, _, rfl, .inl rfl⟩
    · simp at hform

/-- The parts of a form are what its `child` consists of. -/
theorem exists_child_of_mem_formParts {part : Value} {form : Entries}
    (h : part ∈ formParts form) : ∃ child, Entries.option? form "child" = some child ∧
      ((∃ kind entries, child = .mapping kind entries ∧ ∃ e ∈ entries, e.2 = part) ∨
        ∃ kind items, child = .sequence kind items ∧ part ∈ items) := by
  unfold formParts formFields formAlternatives at h
  cases hchild : Entries.option? form "child" with
  | none => simp [hchild, Value.entries?, Value.items?] at h
  | some child =>
      rw [hchild, Option.getD_some] at h
      refine ⟨child, rfl, ?_⟩
      cases child with
      | mapping kind entries =>
          exact .inl ⟨_, _, rfl, by simpa [Value.entries?, Value.items?] using h⟩
      | sequence kind items =>
          exact .inr ⟨_, _, rfl, by simpa [Value.entries?, Value.items?] using h⟩
      | _ => simp [Value.entries?, Value.items?] at h

/-- What holds for the mappings in a raw field holds in the `child` of its form. -/
theorem everyMapping_child {P : Entries → Prop} {raw child : Value} {form : Entries}
    (hform : expand? r raw = some form) (hraw : raw.EveryMapping P)
    (hchild : Entries.option? form "child" = some child) : child.EveryMapping P := by
  rcases child_cases hform hchild with
    ⟨kind, items, rfl, rfl⟩ | ⟨kind, entries, rfl, rfl | hchild⟩
  · exact Value.EveryMapping.sequence_iff.mpr (Value.EveryMapping.sequence_iff.mp hraw)
  · exact Value.EveryMapping.mapping_iff.mpr (Value.EveryMapping.mapping_iff.mp hraw)
  · obtain ⟨key, hkey⟩ := Entries.mem_of_get? hchild
    exact (Value.EveryMapping.mapping_iff.mp hraw).2 _ hkey

theorem everyMapping_of_mem_formParts {P : Entries → Prop} {form : Entries}
    (h : ∀ child, Entries.option? form "child" = some child → child.EveryMapping P) :
    ∀ part ∈ formParts form, part.EveryMapping P := by
  intro part hpart
  obtain ⟨child, hchild, ⟨kind, entries, rfl, e, he, rfl⟩ | ⟨kind, items, rfl, hitem⟩⟩ :=
    exists_child_of_mem_formParts hpart
  · exact (Value.EveryMapping.mapping_iff.mp (h _ hchild)).2 e he
  · exact Value.EveryMapping.sequence_iff.mp (h _ hchild) part hitem

/-- What holds for the mappings in a raw field holds for the fields of its form. -/
theorem formFields_of_everyMapping {P : Entries → Prop} (hnone : P []) {form : Entries}
    (h : ∀ child, Entries.option? form "child" = some child → child.EveryMapping P) :
    P (formFields form) := by
  unfold formFields
  cases hchild : Entries.option? form "child" with
  | none => exact hnone
  | some child =>
      cases child with
      | mapping kind entries => exact (Value.EveryMapping.mapping_iff.mp (h _ hchild)).1
      | _ => exact hnone

/-- **Compilation keeps names distinct** in a field and all fields below it. -/
theorem distinctKeys_of_compileField {limit : Int} {levels : Nat} {path : Option String}
    {raw : Value} {out : Entries} (hr : r.Regular) (hraw : raw.EveryMapping DistinctKeys)
    (h : compileField r limit levels path raw = .ok out) :
    (Value.dict out).EveryObject DistinctKeys := by
  refine (everyNode_of_compileField (P := fun _ node => DistinctKeys (fields node))
    (Q := Value.EveryMapping DistinctKeys) hr
    (fun hform hevery => everyMapping_of_mem_formParts fun _ hchild =>
      everyMapping_child hform hevery hchild) (fun hevery hstep => ?_) hraw h).everyObject
  obtain ⟨form, tag, c, hform, houtcome⟩ := hstep.outcome hr
  by_cases htag : tag = Capability.objectTag
  · rw [DistinctKeys, keys_compileFields (houtcome.fields htag)]
    exact formFields_of_everyMapping (P := DistinctKeys) List.Pairwise.nil fun _ hchild =>
      everyMapping_child hform hevery hchild
  · rw [Entries.fields_of_tag_ne (by simpa [houtcome.canonical.tag?_eq] using htag)]
    exact List.Pairwise.nil

theorem distinctKeys_of_compileSchema {limit : Int} {path : Option String}
    {raw : Value} {fs : Entries} (hr : r.Regular) (hraw : raw.EveryMapping DistinctKeys)
    (h : compileSchema r limit path raw = .ok fs) : fs.EveryObject DistinctKeys := by
  cases raw with
  | mapping kind entries =>
      obtain ⟨hhere, hbelow⟩ := Value.EveryMapping.mapping_iff.mp hraw
      constructor
      · rw [DistinctKeys, keys_compileFields h]
        exact hhere
      · intro e he
        obtain ⟨raw', hmem, -, out, hout, rfl⟩ := exists_of_forall₂ (compileFields_eq_ok.mp h) he
        exact distinctKeys_of_compileField hr (hbelow raw' hmem) hout
  | _ => exact absurd h reject_ne_ok

end Compilation

/-! ## Plain keys -/

/-- Every key is a plain name. -/
def PlainKeys (entries : Entries) : Prop :=
  ∀ key ∈ keys entries, ∃ name, key.text? = some name ∧ IsPlainName name

/-- Plain keys that are not the same are displayed differently. -/
theorem display_ne_of_plain {a b : Value} {s t : String} (ha : a.text? = some s)
    (hb : b.text? = some t) (hne : a.sameKey b = false) : a.display ≠ b.display := by
  rw [Value.display_of_text? ha, Value.display_of_text? hb]
  rintro rfl
  rw [Value.sameKey_of_text? ha, hb] at hne
  simp at hne

/-- The keys are plain names and no two of them are the same. -/
structure Named (entries : Entries) : Prop where
  plain : PlainKeys entries
  distinct : DistinctKeys entries

theorem Named.of_texts {entries : Entries} (names : List String)
    (h : keys entries = names.map Value.text) (hplain : ∀ name ∈ names, IsPlainName name)
    (hdistinct : names.Nodup) : Named entries where
  plain := by
    intro key hkey
    rw [h] at hkey
    obtain ⟨name, hname, rfl⟩ := List.mem_map.mp hkey
    exact ⟨name, rfl, hplain name hname⟩
  distinct := by
    rw [DistinctKeys, h]
    refine List.pairwise_map.mpr (hdistinct.imp fun hne => ?_)
    rw [Value.sameKey_of_text? rfl]
    simpa using Ne.symm hne

theorem Named.pairwise_display_ne {entries : Entries} (h : Named entries) :
    (keys entries).Pairwise fun a b => a.display ≠ b.display := by
  refine List.Pairwise.imp_of_mem (fun {a b} ha hb hne => ?_) h.distinct
  obtain ⟨s, hs, -⟩ := h.plain a ha
  obtain ⟨t, ht, -⟩ := h.plain b hb
  exact display_ne_of_plain hs ht hne

theorem Value.EveryMapping.named_entries {v : Value} (h : v.EveryMapping Named) :
    Named (v.entries?.getD []) := by
  cases v with
  | mapping kind entries => exact (mapping_iff.mp h).1
  | _ => exact ⟨fun _ hkey => absurd hkey List.not_mem_nil, List.Pairwise.nil⟩

end DataShape
