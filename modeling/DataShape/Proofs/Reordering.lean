import DataShape.Proofs.Representation

/-!
# The order of entries

A mapping is a set of entries, and values that differ only in how the entries of their
mappings are ordered say the same. Options are looked up by texts, and no two keys are one
text, so that a look-up does not depend on the order either.
-/

namespace DataShape

open Entries (get? option? keys Pointwise)

theorem forall₂_imp_of_mem {α β : Type} {R Q : α → β → Prop} {as : List α} {bs : List β}
    (hRQ : ∀ a ∈ as, ∀ b, R a b → Q a b) (h : List.Forall₂ R as bs) : List.Forall₂ Q as bs := by
  have hall := (List.forall₂_and_left _ _).mpr ⟨hRQ, h⟩
  exact hall.imp fun _ _ h => h.1 _ h.2

/-! ## Entries in some order -/

namespace Entries

/-- Related values under the same keys, in some order. -/
def Rearranges (R : Value → Value → Prop) (entries entries' : Entries) : Prop :=
  ∃ mid, Pointwise R entries mid ∧ mid.Perm entries'

namespace Pointwise

variable {R Q : Value → Value → Prop} {entries entries' : Entries}

theorem iff_forall₂ : Pointwise R entries entries' ↔
    List.Forall₂ (fun e e' => e.1 = e'.1 ∧ R e.2 e'.2) entries entries' := by
  constructor
  · intro h
    induction h with
    | nil => exact .nil
    | cons value rest ih => exact .cons ⟨rfl, value⟩ ih
  · intro h
    induction h with
    | nil => exact .nil
    | @cons e e' _ _ here rest ih =>
        obtain ⟨key, v⟩ := e
        obtain ⟨key', v'⟩ := e'
        obtain ⟨rfl, hv⟩ := here
        exact .cons hv ih

theorem imp_of_mem (hRQ : ∀ e ∈ entries, ∀ v', R e.2 v' → Q e.2 v')
    (h : Pointwise R entries entries') : Pointwise Q entries entries' := by
  induction h with
  | nil => exact .nil
  | cons value rest ih =>
      obtain ⟨hhere, hrest⟩ := List.forall_mem_cons.mp hRQ
      exact .cons (hhere _ value) (ih hrest)

theorem mono (hRQ : ∀ v v', R v v' → Q v v') (h : Pointwise R entries entries') :
    Pointwise Q entries entries' :=
  h.imp_of_mem fun e _ => hRQ e.2

theorem flip (h : Pointwise R entries entries') : Pointwise (flip R) entries' entries := by
  induction h with
  | nil => exact .nil
  | cons value rest ih => exact .cons value ih

theorem option?_rel (h : Pointwise R entries entries') (name : String) :
    Option.Rel R (option? entries name) (option? entries' name) := by
  induction h with
  | nil => exact .none
  | @cons key v v' entries entries' value rest ih =>
      rw [option?_cons, option?_cons]
      by_cases hname : key.text? = some name
      · rw [if_pos hname, if_pos hname]
        exact .some value
      · rw [if_neg hname, if_neg hname]
        exact ih

/-- A value that the second entries hold stands under the same key as in the first ones. -/
theorem exists_of_mem (h : Pointwise R entries entries') {e' : Value × Value}
    (he' : e' ∈ entries') : ∃ e ∈ entries, e.1 = e'.1 ∧ R e.2 e'.2 :=
  Compilation.exists_of_forall₂ (iff_forall₂.mp h) he'

end Pointwise

/-- The same keys in some order, and related values wherever two keys are equal. -/
theorem Rearranges.of_keys {R : Value → Value → Prop} {entries entries' : Entries}
    (hkeys : (keys entries).Perm (keys entries'))
    (hvalues : ∀ e ∈ entries, ∀ e' ∈ entries', e.1 = e'.1 → R e.2 e'.2) :
    Rearranges R entries entries' := by
  have hself : List.Forall₂ (fun key e => e.1 = key) (keys entries') entries' := by
    rw [keys, List.forall₂_map_left_iff]
    exact List.forall₂_same.mpr fun _ _ => rfl
  -- the second entries in the order of the first ones
  obtain ⟨mid, hmid, horder⟩ := List.perm_comp_forall₂ hkeys hself
  refine ⟨mid, Pointwise.iff_forall₂.mpr ?_, horder⟩
  rw [keys, List.forall₂_map_left_iff] at hmid
  refine (List.forall₂_iff_zip.mpr ⟨hmid.length_eq, fun {e e'} hzip => ?_⟩)
  have hkey : e'.1 = e.1 := List.forall₂_zip hmid hzip
  have hmem := List.of_mem_zip hzip
  exact ⟨hkey.symm, hvalues e hmem.1 e' (horder.mem_iff.mp hmem.2) hkey.symm⟩

end Entries

/-! ## Distinct texts as keys -/

/-- No two keys are one text. -/
def DistinctTexts (entries : Entries) : Prop := ((keys entries).filterMap Value.text?).Nodup

theorem DistinctKeys.distinctTexts {entries : Entries} (h : DistinctKeys entries) :
    DistinctTexts entries := by
  refine List.pairwise_filterMap.mpr (h.imp fun {a b} hne s hs t ht => ?_)
  rw [Value.sameKey_of_text? hs, ht] at hne
  rintro rfl
  simp at hne

theorem DistinctTexts.perm {entries entries' : Entries}
    (hkeys : (keys entries).Perm (keys entries')) (h : DistinctTexts entries) :
    DistinctTexts entries' :=
  (hkeys.filterMap _).nodup_iff.mp h

theorem DistinctTexts.of_cons {e : Value × Value} {entries : Entries}
    (h : DistinctTexts (e :: entries)) : DistinctTexts entries :=
  h.sublist ((List.sublist_cons_self e.1 (keys entries)).filterMap _)

theorem DistinctTexts.ne_of_cons {e : Value × Value} {entries : Entries} {name : String}
    (h : DistinctTexts (e :: entries)) (he : e.1.text? = some name) :
    ∀ e' ∈ entries, e'.1.text? ≠ some name := by
  intro e' he' hname
  have hnodup : ((e.1 :: keys entries).filterMap Value.text?).Nodup := h
  rw [List.filterMap_cons_some he] at hnodup
  exact (List.nodup_cons.mp hnodup).1
    (List.mem_filterMap.mpr ⟨e'.1, List.mem_map_of_mem he', hname⟩)

/-- Keys that are texts are different keys if they are different texts. -/
theorem DistinctTexts.distinctKeys {entries : Entries} (h : DistinctTexts entries)
    (htexts : TextKeys entries) : DistinctKeys entries := by
  refine (List.pairwise_filterMap.mp h).imp_of_mem fun {a b} ha hb hne => ?_
  obtain ⟨s, hs⟩ := htexts a ha
  obtain ⟨t, ht⟩ := htexts b hb
  rw [Value.sameKey_of_text? hs, ht]
  simpa using (hne s hs t ht).symm

namespace Entries

variable {entries entries' : Entries}

theorem option?_perm (h : entries.Perm entries') (hdistinct : DistinctTexts entries)
    (name : String) : option? entries name = option? entries' name := by
  induction h with
  | nil => rfl
  | cons e rest ih => rw [option?_cons, option?_cons, ih hdistinct.of_cons]
  | swap e e' rest =>
      simp only [option?_cons]
      by_cases he' : e'.1.text? = some name
      · rw [if_pos he', if_neg (hdistinct.ne_of_cons he' e List.mem_cons_self), if_pos he']
      · rw [if_neg he', if_neg he']
  | trans first second ih ih' =>
      rw [ih hdistinct, ih' (hdistinct.perm (first.map _))]

/-- The entry under a text is the one that is looked up. -/
theorem option?_of_mem (hdistinct : DistinctTexts entries) {e : Value × Value} (he : e ∈ entries)
    {name : String} (hname : e.1.text? = some name) : option? entries name = some e.2 := by
  obtain ⟨before, after, rfl⟩ := List.append_of_mem he
  rw [option?_perm List.perm_middle hdistinct, option?_cons, if_pos hname]

theorem get?_of_text? {key : Value} {name : String} (h : key.text? = some name) :
    ∀ entries : Entries, get? entries key = option? entries name
  | [] => rfl
  | e :: rest => by rw [get?_cons_of_text? h, option?_cons, get?_of_text? h rest]

namespace Rearranges

variable {R : Value → Value → Prop}

theorem refl (hR : ∀ v, R v v) (entries : Entries) : Rearranges R entries entries :=
  ⟨entries, .refl hR entries, .refl entries⟩

theorem keys_perm (h : Rearranges R entries entries') : (keys entries).Perm (keys entries') := by
  obtain ⟨mid, heach, horder⟩ := h
  rw [← heach.keys_eq]
  exact horder.map _

/-- The order may change before the values do. -/
theorem of_perm {mid : Entries} (order : entries.Perm mid) (each : Pointwise R mid entries') :
    Rearranges R entries entries' := by
  obtain ⟨mid', heach, horder⟩ := List.perm_comp_forall₂ order (Pointwise.iff_forall₂.mp each)
  exact ⟨mid', Pointwise.iff_forall₂.mpr heach, horder⟩

theorem mem (h : Rearranges R entries entries') {e' : Value × Value} (he' : e' ∈ entries') :
    ∃ e ∈ entries, e.1 = e'.1 ∧ R e.2 e'.2 := by
  obtain ⟨mid, heach, horder⟩ := h
  exact heach.exists_of_mem (horder.mem_iff.mpr he')

theorem option?_rel (h : Rearranges R entries entries') (hdistinct : DistinctTexts entries)
    (name : String) : Option.Rel R (option? entries name) (option? entries' name) := by
  obtain ⟨mid, heach, horder⟩ := h
  rw [← option?_perm horder (hdistinct.perm (heach.keys_eq ▸ .refl _))]
  exact heach.option?_rel name

theorem length_eq (h : Rearranges R entries entries') : entries.length = entries'.length := by
  have hlength := h.keys_perm.length_eq
  simpa only [keys, List.length_map] using hlength

end Rearranges

end Entries

/-! ## Heights -/

namespace Value

theorem maxHeight_eq {items items' : List Value}
    (h : List.Forall₂ (fun v v' : Value => v'.height = v.height) items items') :
    maxHeight items' = maxHeight items := by
  induction h with
  | nil => rfl
  | cons here rest ih => rw [maxHeight, maxHeight, here, ih]

theorem maxEntryHeight_eq {entries entries' : Entries}
    (h : Pointwise (fun v v' : Value => v'.height = v.height) entries entries') :
    maxEntryHeight entries' = maxEntryHeight entries := by
  induction h with
  | nil => rfl
  | cons here rest ih => rw [maxEntryHeight, maxEntryHeight, here, ih]

theorem maxEntryHeight_perm {entries entries' : Entries} (h : entries.Perm entries') :
    maxEntryHeight entries' = maxEntryHeight entries := by
  induction h with
  | nil => rfl
  | cons e rest ih => rw [maxEntryHeight, maxEntryHeight, ih]
  | swap e e' rest =>
      simp only [maxEntryHeight]
      exact Nat.max_left_comm _ _ _
  | trans first second ih ih' => rw [ih', ih]

end Value

/-! ## Values in some order -/

/-- The second value is the first one with the entries of mappings in other orders, at any
places and at any depth. -/
inductive Reorders : Value → Value → Prop
  | refl (v : Value) : Reorders v v
  | mapping {kind : MappingKind} {entries mid entries' : Entries}
      (each : Pointwise Reorders entries mid) (order : mid.Perm entries') :
      Reorders (.mapping kind entries) (.mapping kind entries')
  | sequence {kind : SequenceKind} {items items' : List Value}
      (each : List.Forall₂ Reorders items items') :
      Reorders (.sequence kind items) (.sequence kind items')
  | array {packing : Packing} {rows rows' : List Value} (each : List.Forall₂ Reorders rows rows') :
      Reorders (.array packing rows) (.array packing rows')
  | point {packing : Packing} {element element' : Value} (inside : Reorders element element') :
      Reorders (.point packing element) (.point packing element')

open Entries (Rearranges)

namespace Reorders

variable {v v' : Value}

/-- What holds for the parts holds for the whole. The relation goes through lists of parts,
so that its own induction would ask for a statement about these as well. -/
theorem induction {motive : ∀ v v', Reorders v v' → Prop} (refl : ∀ v, motive v v (.refl v))
    (mapping : ∀ {kind : MappingKind} {entries mid entries' : Entries}
      (each : Pointwise Reorders entries mid) (order : mid.Perm entries'),
      Pointwise (fun v v' => ∃ h, motive v v' h) entries mid →
      motive (.mapping kind entries) (.mapping kind entries') (.mapping each order))
    (sequence : ∀ {kind : SequenceKind} {items items' : List Value}
      (each : List.Forall₂ Reorders items items'),
      List.Forall₂ (fun v v' => ∃ h, motive v v' h) items items' →
      motive (.sequence kind items) (.sequence kind items') (.sequence each))
    (array : ∀ {packing : Packing} {rows rows' : List Value}
      (each : List.Forall₂ Reorders rows rows'),
      List.Forall₂ (fun v v' => ∃ h, motive v v' h) rows rows' →
      motive (.array packing rows) (.array packing rows') (.array each))
    (point : ∀ {packing : Packing} {element element' : Value} (inside : Reorders element element'),
      motive element element' inside →
      motive (.point packing element) (.point packing element') (.point inside))
    (h : Reorders v v') : motive v v' h :=
  @Reorders.rec motive
    (fun entries entries' _ => Pointwise (fun v v' => ∃ h, motive v v' h) entries entries')
    (fun items items' _ => List.Forall₂ (fun v v' => ∃ h, motive v v' h) items items')
    refl mapping sequence array point .nil (fun value _ here rest => .cons ⟨value, here⟩ rest) .nil
    (fun value _ here rest => .cons ⟨value, here⟩ rest) v v' h

theorem symm (h : Reorders v v') : Reorders v' v := by
  induction h using Reorders.induction with
  | refl v => exact .refl v
  | mapping each order ih =>
      obtain ⟨mid, heach, horder⟩ := Rearranges.of_perm order.symm ih.flip
      exact .mapping (heach.mono fun _ _ h => h.2) horder
  | sequence each ih => exact .sequence (ih.imp fun _ _ h => h.2).flip
  | array each ih => exact .array (ih.imp fun _ _ h => h.2).flip
  | point inside ih => exact .point ih

theorem height_eq (h : Reorders v v') : v'.height = v.height := by
  induction h using Reorders.induction with
  | refl v => rfl
  | mapping each order ih =>
      rw [Value.height, Value.height, Value.maxEntryHeight_perm order,
        Value.maxEntryHeight_eq (ih.mono fun _ _ h => h.2)]
  | sequence each ih | array each ih =>
      rw [Value.height, Value.height, Value.maxHeight_eq (ih.imp fun _ _ h => h.2)]
  | point inside ih => rw [Value.height, Value.height, ih]

/-- What holds for every mapping because of its keys holds in any order. -/
theorem everyMapping {P : Entries → Prop}
    (hP : ∀ {entries entries'}, (keys entries).Perm (keys entries') → P entries → P entries')
    (h : Reorders v v') : v.EveryMapping P → v'.EveryMapping P := by
  induction h using Reorders.induction with
  | refl v => exact id
  | mapping each order ih =>
      intro hv
      obtain ⟨hhere, hbelow⟩ := Value.EveryMapping.mapping_iff.mp hv
      refine Value.EveryMapping.mapping_iff.mpr
        ⟨hP (Rearranges.keys_perm ⟨_, each, order⟩) hhere, fun e' he' => ?_⟩
      obtain ⟨e, he, -, -, hkeeps⟩ := Rearranges.mem ⟨_, ih, order⟩ he'
      exact hkeeps (hbelow e he)
  | sequence each ih =>
      intro hv
      refine Value.EveryMapping.sequence_iff.mpr fun item' hitem' => ?_
      obtain ⟨item, hitem, -, hkeeps⟩ := Compilation.exists_of_forall₂ ih hitem'
      exact hkeeps (Value.EveryMapping.sequence_iff.mp hv item hitem)
  | array each ih =>
      intro hv
      refine Value.EveryMapping.array_iff.mpr fun row' hrow' => ?_
      obtain ⟨row, hrow, -, hkeeps⟩ := Compilation.exists_of_forall₂ ih hrow'
      exact hkeeps (Value.EveryMapping.array_iff.mp hv row hrow)
  | point inside ih => exact fun _ => .of_point

/-- What has no parts has no order inside. -/
theorem eq_of_isPartless (h : Reorders v v') (hv : v.isPartless = true) : v' = v := by
  cases h with
  | refl => rfl
  | mapping | sequence | array | point => simp [Value.isPartless] at hv

theorem alike (h : Reorders v v') : Alike v v' := by
  cases h with
  | refl => exact ⟨Iff.rfl, Iff.rfl, rfl, rfl, rfl, rfl, rfl, rfl, rfl⟩
  | mapping | sequence | array | point =>
      exact ⟨by simp, by simp, rfl, rfl, rfl, rfl, rfl, rfl, rfl⟩

theorem length_eq (h : Reorders v v') : v'.length = v.length := by
  cases h with
  | refl | point => rfl
  | mapping each order =>
      have hlength := Rearranges.length_eq ⟨_, each, order⟩
      simp only [Value.length, hlength]
  | sequence each | array each => simp only [Value.length, each.length_eq]

/-- The elements come in the same order. -/
theorem walk (h : Reorders v v') (hsequence : Capability.isSequence v = true)
    {elements : List Value} (hwalk : v.walk = .ok elements) :
    ∃ elements', v'.walk = .ok elements' ∧ List.Forall₂ Reorders elements elements' := by
  cases h with
  | refl => exact ⟨elements, hwalk, List.forall₂_same.mpr fun v _ => .refl v⟩
  | mapping => simp [Capability.isSequence] at hsequence
  | sequence each | array each =>
      obtain rfl : _ = elements := Except.ok.inj hwalk
      exact ⟨_, rfl, each⟩
  | point => simp [Value.walk] at hwalk

theorem members (h : Reorders v v') (hsequence : Capability.isSequence v = true) :
    List.Forall₂ Reorders v.members v'.members := by
  cases h with
  | refl => exact List.forall₂_same.mpr fun v _ => .refl v
  | mapping => simp [Capability.isSequence] at hsequence
  | sequence each | array each => exact each
  | point => exact .nil

theorem entries (h : Reorders v v') :
    Rearranges Reorders (v.entries?.getD []) (v'.entries?.getD []) := by
  cases h with
  | refl => exact .refl .refl _
  | mapping each order => exact ⟨_, each, order⟩
  | sequence | array | point => exact .refl .refl []

theorem items (h : Reorders v v') :
    List.Forall₂ Reorders (v.items?.getD []) (v'.items?.getD []) := by
  cases h with
  | refl => exact List.forall₂_same.mpr fun v _ => .refl v
  | sequence each => exact each
  | mapping | array | point => exact .nil

end Reorders

/-! ## Named entries in some order -/

theorem PlainKeys.textKeys {entries : Entries} (h : PlainKeys entries) : TextKeys entries :=
  fun key hkey => (h key hkey).imp fun _ h => h.1

theorem Named.perm {entries entries' : Entries} (hkeys : (keys entries).Perm (keys entries'))
    (h : Named entries) : Named entries' := by
  have hplain : PlainKeys entries' := fun key hkey => h.plain key (hkeys.mem_iff.mpr hkey)
  exact ⟨hplain, (h.distinct.distinctTexts.perm hkeys).distinctKeys hplain.textKeys⟩

/-- The parts under one name say the same. -/
theorem Reorders.part {v v' name : Value} (h : Reorders v v') (hv : v.EveryMapping Named)
    (hname : name.IsText) : Reorders (v.part name) (v'.part name) := by
  obtain ⟨s, hs⟩ := hname
  unfold Value.part
  rw [Entries.get?_of_text? hs, Entries.get?_of_text? hs]
  have hrel := h.entries.option?_rel hv.named_entries.distinct.distinctTexts s
  generalize Entries.option? _ s = found at hrel ⊢
  generalize Entries.option? _ s = found' at hrel ⊢
  cases hrel with
  | none => exact .refl _
  | some value => exact value

end DataShape
