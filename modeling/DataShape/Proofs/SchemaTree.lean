import DataShape.Capability.Builtin
import DataShape.Proofs.Entries

/-!
# Schemas as trees

A canonical field is a mapping whose `child` holds its parts: the fields of an
object under their names, or the alternatives of an array. Here are the parts
of a field, the height of the tree that they span, and what it means that
something holds at every node of it.
-/

namespace DataShape

/-! ## Parts of a field -/

/-- The values that a walk through a value meets; none where it is refused. -/
def Value.members (v : Value) : List Value := v.walk.toOption.getD []

theorem Value.members_of_walk {v : Value} {items : List Value}
    (h : v.walk = .ok items) : v.members = items := by
  rw [Value.members, h]
  rfl

namespace Entries

def tag? (field : Entries) : Option String :=
  (option? field "type").bind Value.text?

/-- The fields of an object; a field of another type has none. -/
def fields (field : Entries) : Entries :=
  if tag? field = some Capability.objectTag then
    ((option? field "child").bind Value.entries?).getD []
  else []

/-- The alternatives of an array; a field of another type has none. -/
def alternatives (field : Entries) : List Value :=
  if tag? field = some Capability.arrayTag then
    ((option? field "child").getD .null).members
  else []

def parts (field : Entries) : List Value :=
  (fields field).map Prod.snd ++ alternatives field

/-- The parts of the field at a path, each with its own path. -/
def partsAt (path : Option String) (field : Entries) : List (Option String × Value) :=
  (fields field).map (fun e => (some (Path.join path e.1.display), e.2)) ++
    (alternatives field).zipIdx.map fun a => (some (Path.join path (Path.index a.2)), a.1)

theorem map_snd_partsAt (path : Option String) (field : Entries) :
    (partsAt path field).map Prod.snd = parts field := by
  unfold partsAt parts
  rw [List.map_append, List.map_map, List.map_map]
  congr 1
  exact List.zipIdx_map_fst 0 _

/-- What is said of the parts alone can be said of them wherever they stand. -/
theorem forall_mem_parts_iff (path : Option String) {field : Entries} {Q : Value → Prop} :
    (∀ part ∈ parts field, Q part) ↔ ∀ part ∈ partsAt path field, Q part.2 := by
  rw [← map_snd_partsAt path]
  exact List.forall_mem_map

theorem fields_of_tag_ne {field : Entries}
    (h : tag? field ≠ some Capability.objectTag) : fields field = [] := by
  rw [fields, if_neg h]

theorem alternatives_of_tag_ne {field : Entries}
    (h : tag? field ≠ some Capability.arrayTag) : alternatives field = [] := by
  rw [alternatives, if_neg h]

theorem tag?_ne_array {field : Entries} (h : tag? field = some Capability.objectTag) :
    tag? field ≠ some Capability.arrayTag := by
  rw [h]
  decide

theorem tag?_ne_object {field : Entries} (h : tag? field = some Capability.arrayTag) :
    tag? field ≠ some Capability.objectTag := by
  rw [h]
  decide

theorem fields_of_child {field fs : Entries} {kind : MappingKind}
    (htag : tag? field = some Capability.objectTag)
    (hchild : option? field "child" = some (.mapping kind fs)) : fields field = fs := by
  rw [fields, if_pos htag, hchild]
  rfl

theorem alternatives_of_child {field : Entries} {kind : SequenceKind}
    {items : List Value} (htag : tag? field = some Capability.arrayTag)
    (hchild : option? field "child" = some (.sequence kind items)) :
    alternatives field = items := by
  rw [alternatives, if_pos htag, hchild]
  rfl

end Entries

/-! ## Parts are lower -/

namespace Value

theorem one_le_height (v : Value) : 1 ≤ v.height := by
  cases v <;> simp [height]

theorem height_le_maxHeight {v : Value} :
    ∀ {items : List Value}, v ∈ items → v.height ≤ maxHeight items
  | item :: items, h => by
      rw [maxHeight]
      rcases List.mem_cons.mp h with rfl | h
      · exact Nat.le_max_left _ _
      · exact Nat.le_trans (height_le_maxHeight h) (Nat.le_max_right _ _)

theorem height_le_maxEntryHeight {e : Value × Value} :
    ∀ {entries : Entries}, e ∈ entries →
      e.1.height ≤ maxEntryHeight entries ∧ e.2.height ≤ maxEntryHeight entries
  | e' :: entries, h => by
      rw [maxEntryHeight]
      rcases List.mem_cons.mp h with rfl | h
      · omega
      · have := height_le_maxEntryHeight h
        omega

/-- What a walk through a value meets is no higher than the value. -/
theorem height_le_of_mem_walk {v w : Value} {items : List Value}
    (hwalk : v.walk = .ok items) (hmem : w ∈ items) : w.height ≤ v.height := by
  -- characters and numbers are as low as a value can be
  have hleaf : ∀ u : Value, u.height = 1 → u.height ≤ v.height := fun u hu =>
    hu ▸ one_le_height v
  cases v with
  | sequence kind xs | set frozen xs | array packing xs =>
      rw [walk, Except.ok.injEq] at hwalk
      subst hwalk
      rw [height]
      exact Nat.le_succ_of_le (height_le_maxHeight hmem)
  | mapping kind es =>
      rw [walk, Except.ok.injEq] at hwalk
      subst hwalk
      obtain ⟨e, he, rfl⟩ := List.mem_map.mp hmem
      rw [height]
      exact Nat.le_succ_of_le (height_le_maxEntryHeight he).1
  | text s =>
      rw [walk, Except.ok.injEq] at hwalk
      subst hwalk
      obtain ⟨c, -, rfl⟩ := List.mem_map.mp hmem
      exact hleaf _ rfl
  | bytes b =>
      rw [walk, Except.ok.injEq] at hwalk
      subst hwalk
      obtain ⟨c, -, rfl⟩ := List.mem_map.mp hmem
      exact hleaf _ rfl
  | range stop =>
      rw [walk, Except.ok.injEq] at hwalk
      subst hwalk
      obtain ⟨c, -, rfl⟩ := List.mem_map.mp hmem
      exact hleaf _ rfl
  | scalar s =>
      cases s with
      | text s =>
          rw [walk, Except.ok.injEq] at hwalk
          subst hwalk
          obtain ⟨c, -, rfl⟩ := List.mem_map.mp hmem
          exact hleaf _ rfl
      | _ => simp [walk] at hwalk
  | _ => simp [walk] at hwalk

end Value

namespace Entries

open Value (maxEntryHeight)

theorem height_option?_le {field : Entries} {name : String} {v : Value}
    (h : option? field name = some v) : v.height ≤ maxEntryHeight field := by
  obtain ⟨k, hk⟩ := mem_of_get? h
  exact (Value.height_le_maxEntryHeight hk).2

theorem height_le_of_mem_fields {field : Entries} {e : Value × Value}
    (h : e ∈ fields field) : e.2.height ≤ maxEntryHeight field := by
  unfold fields at h
  split at h
  · cases hchild : option? field "child" with
    | none => simp [hchild] at h
    | some child =>
        rw [hchild] at h
        cases child with
        | mapping kind es =>
            have hle := height_option?_le hchild
            have he : e.2.height ≤ maxEntryHeight es := (Value.height_le_maxEntryHeight h).2
            rw [Value.height] at hle
            omega
        | _ => simp [Value.entries?] at h
  · simp at h

theorem height_le_of_mem_alternatives {field : Entries} {v : Value}
    (h : v ∈ alternatives field) : v.height ≤ maxEntryHeight field := by
  unfold alternatives at h
  split at h
  · cases hchild : option? field "child" with
    | none => simp [hchild, Value.members, Value.walk, Except.toOption] at h
    | some child =>
        rw [hchild, Option.getD_some] at h
        cases hwalk : child.walk with
        | error fault => simp [Value.members, hwalk, Except.toOption] at h
        | ok items =>
            rw [Value.members_of_walk hwalk] at h
            exact Nat.le_trans (Value.height_le_of_mem_walk hwalk h)
              (height_option?_le hchild)
  · simp at h

theorem height_lt_of_mem_parts {field : Entries} {kind : MappingKind} {v : Value}
    (h : v ∈ parts field) : v.height < (Value.mapping kind field).height := by
  rw [Value.height]
  rcases List.mem_append.mp h with h | h
  · obtain ⟨e, he, rfl⟩ := List.mem_map.mp h
    exact Nat.lt_succ_of_le (height_le_of_mem_fields he)
  · exact Nat.lt_succ_of_le (height_le_of_mem_alternatives h)

end Entries

/-! ## Nodes of a tree -/

/-- The levels of fields in a field: one for a field without parts, one more
than the highest part otherwise. -/
def Value.nesting : Value → Nat
  | .mapping _ field =>
    ((Entries.parts field).attach.map fun part => part.1.nesting).foldr max 0 + 1
  | _ => 1
termination_by v => v.height
decreasing_by exact Entries.height_lt_of_mem_parts part.2

theorem Value.nesting_mapping (kind : MappingKind) (field : Entries) :
    (Value.mapping kind field).nesting
      = ((Entries.parts field).map Value.nesting).foldr max 0 + 1 := by
  rw [Value.nesting, List.attach_map_val]

/-- The levels of fields in the fields of an object. -/
def Entries.nesting (fields : Entries) : Nat :=
  (fields.map fun e => e.2.nesting).foldr max 0

theorem foldr_max_le_iff {ns : List Nat} {bound : Nat} :
    ns.foldr max 0 ≤ bound ↔ ∀ n ∈ ns, n ≤ bound := by
  induction ns with
  | nil => simp
  | cons n rest ih => rw [List.foldr_cons, Nat.max_le, ih, List.forall_mem_cons]

theorem Value.nesting_mapping_le_iff {kind : MappingKind} {field : Entries} {n : Nat} :
    (Value.mapping kind field).nesting ≤ n + 1 ↔
      ∀ part ∈ Entries.parts field, part.nesting ≤ n := by
  rw [Value.nesting_mapping, Nat.add_le_add_iff_right, foldr_max_le_iff]
  exact List.forall_mem_map

theorem Entries.nesting_le_iff {fields : Entries} {n : Nat} :
    fields.nesting ≤ n ↔ ∀ e ∈ fields, e.2.nesting ≤ n := by
  rw [Entries.nesting, foldr_max_le_iff]
  exact List.forall_mem_map

/-- Something holds at every node of a tree, given the path of the node. -/
inductive EveryNode (P : Option String → Entries → Prop) : Option String → Value → Prop
  | node {path : Option String} {field : Entries} (here : P path field)
      (below : ∀ part ∈ Entries.partsAt path field, EveryNode P part.1 part.2) :
      EveryNode P path (.dict field)

namespace EveryNode

variable {P : Option String → Entries → Prop}

theorem at_root {path : Option String} {field : Entries}
    (h : EveryNode P path (.dict field)) : P path field := by
  cases h with
  | node here below => exact here

theorem at_parts {path : Option String} {field : Entries}
    (h : EveryNode P path (.dict field)) :
    ∀ part ∈ Entries.partsAt path field, EveryNode P part.1 part.2 := by
  cases h with
  | node here below => exact below

theorem mono {Q : Option String → Entries → Prop} (hPQ : ∀ path field, P path field → Q path field)
    {path : Option String} {v : Value} (h : EveryNode P path v) : EveryNode Q path v := by
  induction h with
  | node here below ih => exact .node (hPQ _ _ here) ih

theorem and {Q : Option String → Entries → Prop} {path : Option String} {v : Value}
    (hP : EveryNode P path v) (hQ : EveryNode Q path v) :
    EveryNode (fun path field => P path field ∧ Q path field) path v := by
  induction hP with
  | node here below ih =>
      exact .node ⟨here, hQ.at_root⟩ fun part hpart => ih part hpart (hQ.at_parts part hpart)

theorem leaf {path : Option String} {field : Entries} {tag : String}
    (htag : Entries.tag? field = some tag) (hobject : tag ≠ Capability.objectTag)
    (harray : tag ≠ Capability.arrayTag) (here : P path field) : EveryNode P path (.dict field) := by
  refine .node here ?_
  rw [Entries.partsAt, Entries.fields_of_tag_ne (by simpa [htag] using hobject),
    Entries.alternatives_of_tag_ne (by simpa [htag] using harray)]
  exact List.forall_mem_nil _

end EveryNode

/-- Something holds for the names in a field and in all the fields below it,
wherever the field stands. -/
inductive Value.EveryObject (P : Entries → Prop) : Value → Prop
  | node {field : Entries} (here : P (Entries.fields field))
      (below : ∀ part ∈ Entries.parts field, EveryObject P part) :
      EveryObject P (.dict field)

/-- Something holds for the names in a schema and in all the fields below it. -/
def Entries.EveryObject (P : Entries → Prop) (schema : Entries) : Prop :=
  P schema ∧ ∀ e ∈ schema, e.2.EveryObject P

theorem EveryNode.everyObject {P : Entries → Prop} {path : Option String} {v : Value}
    (h : EveryNode (fun _ node => P (Entries.fields node)) path v) : v.EveryObject P := by
  induction h with
  | @node path field here below ih =>
      exact .node here ((Entries.forall_mem_parts_iff path).mpr ih)

namespace Value.EveryObject

variable {P Q : Entries → Prop} {field : Entries}

theorem at_root (h : (Value.dict field).EveryObject P) : P (Entries.fields field) := by
  cases h with
  | node here below => exact here

theorem of_mem_parts (h : (Value.dict field).EveryObject P) :
    ∀ part ∈ Entries.parts field, part.EveryObject P := by
  cases h with
  | node here below => exact below

theorem of_mem_fields (h : (Value.dict field).EveryObject P) :
    ∀ e ∈ Entries.fields field, e.2.EveryObject P :=
  fun _ he => h.of_mem_parts _ (List.mem_append_left _ (List.mem_map_of_mem he))

theorem of_mem_alternatives (h : (Value.dict field).EveryObject P) :
    ∀ choice ∈ Entries.alternatives field, choice.EveryObject P :=
  fun _ hmem => h.of_mem_parts _ (List.mem_append_right _ hmem)

theorem leaf {tag : String} (htag : Entries.tag? field = some tag)
    (hobject : tag ≠ Capability.objectTag) (harray : tag ≠ Capability.arrayTag)
    (here : P []) : (Value.dict field).EveryObject P := by
  have hfields : Entries.fields field = [] :=
    Entries.fields_of_tag_ne (by simpa [htag] using hobject)
  have halternatives : Entries.alternatives field = [] :=
    Entries.alternatives_of_tag_ne (by simpa [htag] using harray)
  refine .node (hfields ▸ here) ?_
  rw [Entries.parts, hfields, halternatives]
  exact List.forall_mem_nil _

theorem object {fs : Entries} {kind : MappingKind}
    (htag : Entries.tag? field = some Capability.objectTag)
    (hchild : Entries.option? field "child" = some (.mapping kind fs))
    (h : fs.EveryObject P) : (Value.dict field).EveryObject P := by
  have hfields := Entries.fields_of_child htag hchild
  refine .node (hfields ▸ h.1) ?_
  rw [Entries.parts, hfields, Entries.alternatives_of_tag_ne (Entries.tag?_ne_array htag),
    List.append_nil]
  exact List.forall_mem_map.mpr h.2

theorem array {items : List Value} {kind : SequenceKind}
    (htag : Entries.tag? field = some Capability.arrayTag)
    (hchild : Entries.option? field "child" = some (.sequence kind items)) (here : P [])
    (h : ∀ v ∈ items, v.EveryObject P) : (Value.dict field).EveryObject P := by
  have hfields := Entries.fields_of_tag_ne (Entries.tag?_ne_object htag)
  refine .node (hfields ▸ here) ?_
  rw [Entries.parts, hfields, Entries.alternatives_of_child htag hchild]
  exact h

theorem mono {v : Value} (hPQ : ∀ names, P names → Q names) (h : v.EveryObject P) :
    v.EveryObject Q := by
  induction h with
  | node here below ih => exact .node (hPQ _ here) ih

theorem and {v : Value} (hp : v.EveryObject P) (hq : v.EveryObject Q) :
    v.EveryObject fun names => P names ∧ Q names := by
  induction hp with
  | node here below ih =>
      exact .node ⟨here, hq.at_root⟩ fun part hpart =>
        ih part hpart (hq.of_mem_parts part hpart)

end Value.EveryObject

end DataShape
