import DataShape.Proofs.Depth
import DataShape.Proofs.Matching
import DataShape.Proofs.Relaxation
import DataShape.Proofs.ReorderedFailures

/-!
# Alternatives as a set

The alternatives of an array are tried in their order, and the first one that fits ends
the trials of an element. Where every trial comes back, what is reported does not tell
in which order they ran or how often: an element matches if one of the alternatives
fits it. So alternatives may be put in another order, repeated, and freed of
repetitions, at any depth of a schema, also inside other alternatives.
-/

namespace DataShape

open Entries (option? setOption keys fields alternatives parts isOn)
open Matching (segment elementPath noMatch matchesAny matchElements matchArray)

/-! ## Schemas with the same alternatives -/

mutual

/-- The alternatives of one array in a field are given in another way: the same ones, in
any order and any number. -/
inductive Regroups : (field field' : Entries) → Prop
  | here {field : Entries} {items items' : List Value}
      (array : Entries.tag? field = some Capability.arrayTag)
      (child : option? field "child" = some (.list items))
      (same : ∀ choice, choice ∈ items ↔ choice ∈ items') :
      Regroups field (setOption field "child" (.list items'))
  | inObject {field fs fs' : Entries} (object : Entries.tag? field = some Capability.objectTag)
      (child : option? field "child" = some (.dict fs)) (change : RegroupsFields fs fs') :
      Regroups field (setOption field "child" (.dict fs'))
  | inArray {field choice choice' : Entries} {before after : List Value}
      (array : Entries.tag? field = some Capability.arrayTag)
      (child : option? field "child" = some (.list (before ++ .dict choice :: after)))
      (change : Regroups choice choice') :
      Regroups field (setOption field "child" (.list (before ++ .dict choice' :: after)))

/-- The alternatives of one array in the fields of an object are given in another way. -/
inductive RegroupsFields : (schema schema' : Entries) → Prop
  | inField {before after field field' : Entries} {key : Value} (change : Regroups field field') :
      RegroupsFields (before ++ (key, .dict field) :: after)
        (before ++ (key, .dict field') :: after)

end

/-! ## Nodes that can be told -/

/-- A canonical node of a built-in type whose fields have texts as names, whose pattern
searches texts and whose options can be told. -/
structure IsTellableNode (node : Entries) : Prop where
  canonical : IsCanonicalNode .builtin node
  names : TextKeys (fields node)
  text : Capability.SearchesText node
  told : WritableOptions node

/-- All nodes of the tree can be told. -/
def IsTellableTree (v : Value) : Prop := EveryNode (fun _ node => IsTellableNode node) none v

/-- What holds at every node wherever the node stands holds from any path on. -/
theorem EveryNode.at_path {P : Entries → Prop} {path : Option String} {v : Value}
    (h : EveryNode (fun _ node => P node) path v) :
    ∀ path', EveryNode (fun _ node => P node) path' v := by
  induction h with
  | @node path field here below ih =>
      intro path'
      have hparts : ∀ part ∈ Entries.parts field,
          ∀ path', EveryNode (fun _ node => P node) path' part :=
        (Entries.forall_mem_parts_iff path).mpr ih
      exact .node here fun part hpart =>
        (Entries.forall_mem_parts_iff path').mp hparts part hpart part.1

namespace IsTellableTree

variable {node : Entries}

theorem root (h : IsTellableTree (.dict node)) : IsTellableNode node := EveryNode.at_root h

theorem of_mem_parts (h : IsTellableTree (.dict node)) :
    ∀ part ∈ parts node, IsTellableTree part :=
  (Entries.forall_mem_parts_iff none).mpr fun part hpart =>
    (EveryNode.at_parts h part hpart).at_path none

theorem of_mem_fields (h : IsTellableTree (.dict node)) :
    ∀ e ∈ fields node, IsTellableTree e.2 := fun _ he =>
  h.of_mem_parts _ (List.mem_append_left _ (List.mem_map_of_mem he))

theorem of_mem_alternatives (h : IsTellableTree (.dict node)) :
    ∀ choice ∈ alternatives node, IsTellableTree choice := fun _ hmem =>
  h.of_mem_parts _ (List.mem_append_right _ hmem)

theorem of_parts (here : IsTellableNode node) (below : ∀ part ∈ parts node, IsTellableTree part) :
    IsTellableTree (.dict node) :=
  .node here fun part hpart =>
    EveryNode.at_path ((Entries.forall_mem_parts_iff none).mp below part hpart) part.1

/-- Every usable value can be checked. -/
theorem answers {v : Value} (h : IsTellableTree v) :
    Validation.Answers (validateField .builtin) v := by
  refine Validation.answers_checkWithin (EveryNode.mono (fun _ node hnode => ?_) h)
    (Nat.le_refl _)
  obtain ⟨tag, c, hcanonical⟩ := hnode.canonical
  exact ⟨tag, c, isCheckable_of_builtin hcanonical hnode.names hnode.text hnode.told⟩

theorem answers_alternatives (h : IsTellableTree (.dict node)) :
    ∀ choice ∈ alternatives node, Validation.Answers (validateField .builtin) choice :=
  fun choice hchoice => (h.of_mem_alternatives choice hchoice).answers

/-- A node with a tag is in canonical form for it. -/
theorem canonical {tag : String} (h : IsTellableTree (.dict node))
    (htag : Entries.tag? node = some tag) : ∃ c, IsCanonical .builtin tag c node := by
  obtain ⟨tag', c, hcanonical⟩ := h.root.canonical
  obtain rfl : tag' = tag := Option.some.inj (hcanonical.tag?_eq.symm.trans htag)
  exact ⟨c, hcanonical⟩

end IsTellableTree

theorem isTellable_iff {schema : Entries} :
    IsTellable schema ↔ TextKeys schema ∧ ∀ e ∈ schema, IsTellableTree e.2 := by
  constructor
  · intro h
    refine ⟨h.names, fun e he => EveryNode.at_path (EveryNode.mono (fun _ _ hnode => ?_)
      (((h.canonical e he).and (h.textual e he)).and (h.told e he))) none⟩
    obtain ⟨⟨hcanonical, hnames, htext⟩, htold⟩ := hnode
    exact ⟨hcanonical, hnames, htext, htold⟩
  · rintro ⟨hnames, htree⟩
    exact ⟨⟨hnames, fun e he => EveryNode.at_path ((htree e he).mono fun _ _ h => h.canonical) _,
      fun e he => EveryNode.at_path ((htree e he).mono fun _ _ h => ⟨h.names, h.text⟩) _⟩,
      fun e he => EveryNode.at_path ((htree e he).mono fun _ _ h => h.told) _⟩

section

variable {node : Entries} {tag : String} {c : Capability} {child : Value}

/-- A node with other children of the same kind is canonical as it was. -/
theorem IsCanonical.setOption_child (h : IsCanonical .builtin tag c node)
    (hchild : (option? node "child").isSome)
    (hobject : tag = Capability.objectTag → ∃ fs, child = .dict fs)
    (harray : tag = Capability.arrayTag → ∃ items, child = .list items) :
    IsCanonical .builtin tag c (setOption node "child" child) := by
  have hother : ∀ {name}, name ≠ "child" →
      option? (setOption node "child" child) name = option? node name :=
    fun hne => Entries.option?_setOption_of_ne node child hne
  have hc := (Registry.of_capability?_builtin h.registered).1
  refine ⟨h.registered, (hother (by decide)).trans h.type, ?_, ?_, ?_, ?_, ?_, ?_, ?_⟩
  · rw [Entries.keys_setOption_of_isSome _ hchild]
    exact h.known
  · rw [hother (by decide)]
    exact h.required
  · intro v hv
    rw [hother (by decide)] at hv
    obtain ⟨options, hoptions, haccepts⟩ := h.enum v hv
    refine ⟨options, hoptions, fun o ho => ?_⟩
    rw [Compilation.accepts_congr hc (hother (by decide)) (hother (by decide))]
    exact haccepts o ho
  · rw [hother (by decide)]
    exact h.test
  · rw [hother (by decide)]
    exact h.coerce
  · intro htag
    obtain ⟨fs, rfl⟩ := hobject htag
    exact ⟨fs, Entries.option?_setOption_self _ _ _⟩
  · intro htag
    obtain ⟨items, rfl⟩ := harray htag
    exact ⟨items, Entries.option?_setOption_self _ _ _⟩

theorem searchesText_setOption_child (h : Capability.SearchesText node) :
    Capability.SearchesText (setOption node "child" child) := by
  unfold Capability.SearchesText at h ⊢
  rwa [Entries.option?_setOption_of_ne _ _ (by decide)]

theorem writableOptions_setOption_child (h : WritableOptions node) :
    WritableOptions (setOption node "child" child) := by
  unfold WritableOptions at h ⊢
  rwa [Entries.option?_setOption_of_ne _ _ (by decide)]

/-- An array with other alternatives that can be told can be told as it was. -/
theorem IsTellableTree.setOption_items {items items' : List Value} (h : IsTellableTree (.dict node))
    (htag : Entries.tag? node = some Capability.arrayTag)
    (hchild : option? node "child" = some (.list items))
    (hitems : ∀ choice ∈ items', IsTellableTree choice) :
    IsTellableTree (.dict (setOption node "child" (.list items'))) := by
  obtain ⟨c, hcanonical⟩ := h.canonical htag
  have htag' : Entries.tag? (setOption node "child" (.list items')) = some Capability.arrayTag := by
    rwa [Entries.tag?, Entries.option?_setOption_of_ne _ _ (by decide)]
  have hfields := Entries.fields_of_tag_ne (Entries.tag?_ne_object htag')
  refine .of_parts ⟨⟨_, c, hcanonical.setOption_child (by simp [hchild])
    (fun h => absurd h (by decide)) fun _ => ⟨_, rfl⟩⟩, ?_,
    searchesText_setOption_child h.root.text, writableOptions_setOption_child h.root.told⟩ ?_
  · rw [hfields]
    exact List.forall_mem_nil _
  · rw [parts, hfields, alternatives_setOption_child htag]
    exact hitems

/-- An object with other fields that can be told, under texts, can be told as it was. -/
theorem IsTellableTree.setOption_fields {fs fs' : Entries} (h : IsTellableTree (.dict node))
    (htag : Entries.tag? node = some Capability.objectTag)
    (hchild : option? node "child" = some (.dict fs)) (hplain : IsTellable fs') :
    IsTellableTree (.dict (setOption node "child" (.dict fs'))) := by
  obtain ⟨hnames, hfields⟩ := isTellable_iff.mp hplain
  obtain ⟨c, hcanonical⟩ := h.canonical htag
  have htag' : Entries.tag? (setOption node "child" (.dict fs')) = some Capability.objectTag := by
    rwa [Entries.tag?, Entries.option?_setOption_of_ne _ _ (by decide)]
  have halternatives := Entries.alternatives_of_tag_ne (Entries.tag?_ne_array htag')
  refine .of_parts ⟨⟨_, c, hcanonical.setOption_child (by simp [hchild])
    (fun _ => ⟨_, rfl⟩) fun h => absurd h (by decide)⟩, ?_,
    searchesText_setOption_child h.root.text, writableOptions_setOption_child h.root.told⟩ ?_
  · rw [fields_setOption_child htag]
    exact hnames
  · rw [parts, halternatives, fields_setOption_child htag, List.append_nil]
    exact List.forall_mem_map.mpr hfields

end

/-! ## Trials that come back -/

/-- The elements of a usable sequence are usable. -/
theorem Value.IsUsable.members {v : Value} (h : v.IsUsable)
    (hsequence : Capability.isSequence v = true) : ∀ element ∈ v.members, element.IsUsable := by
  obtain ⟨⟨elements, hwalk, helements⟩, -⟩ := h.walk hsequence
  rwa [Value.members_of_walk hwalk]

namespace Validation

variable {check : Check} {items items' : List Value} {element path : Value} {i : Nat}

/-- An alternative fits an element at an index of the array at a path: the trial comes
back and finds nothing. -/
def fits (check : Check) (element : Value) (i : Nat) (path choice : Value) : Bool :=
  match check element choice (segment i) path with
  | .ok errors => errors.isEmpty
  | .error _ => false

/-- Where every trial comes back, their order and number do not matter. -/
theorem matchesAny_eq_any (helement : element.IsUsable) (hpath : path.isWritable = true) :
    ∀ {items : List Value}, (∀ choice ∈ items, Answers check choice) →
      matchesAny check element i path items = .ok (items.any (fits check element i path))
  | [], _ => rfl
  | choice :: rest, hanswers => by
      obtain ⟨hchoice, hrest⟩ := List.forall_mem_cons.mp hanswers
      obtain ⟨errors, herrors, -⟩ :=
        hchoice element (segment i) path helement (Value.isText_text _) hpath
      have hfits : fits check element i path choice = errors.isEmpty := by
        rw [fits, herrors]
      rw [matchesAny, herrors, List.any_cons, hfits]
      show (if errors.isEmpty then _ else _) = _
      cases errors.isEmpty with
      | true => rfl
      | false =>
          rw [if_neg Bool.false_ne_true, Bool.false_or]
          exact matchesAny_eq_any helement hpath hrest

/-- An element matches under both lists of alternatives or under neither. -/
def MatchAlike (check : Check) (items items' : List Value) : Prop :=
  ∀ element i path, element.IsUsable → path.isWritable = true →
    matchesAny check element i path items = matchesAny check element i path items'

theorem matchAlike_of_mem_iff (hanswers : ∀ choice ∈ items, Answers check choice)
    (same : ∀ choice, choice ∈ items ↔ choice ∈ items') : MatchAlike check items items' := by
  intro element i path helement hpath
  rw [matchesAny_eq_any helement hpath hanswers, matchesAny_eq_any helement hpath
    fun choice hchoice => hanswers choice ((same choice).mpr hchoice)]
  congr 1
  rw [Bool.eq_iff_iff, List.any_eq_true, List.any_eq_true]
  simp only [same]

theorem matchElements_of_matchAlike (h : MatchAlike check items items')
    (hpath : path.isWritable = true) :
    ∀ {elements : List Value} {i : Nat} {acc : ErrorSet},
      (∀ element ∈ elements, element.IsUsable) →
      matchElements check items path i acc elements
        = matchElements check items' path i acc elements
  | [], _, _, _ => rfl
  | element :: rest, i, acc, helements => by
      obtain ⟨helement, hrest⟩ := List.forall_mem_cons.mp helements
      rw [matchElements, matchElements, h element i path helement hpath]
      refine bind_congr fun matched _ => ?_
      split
      · exact matchElements_of_matchAlike h hpath hrest
      · exact bind_congr fun place _ => matchElements_of_matchAlike h hpath hrest

/-- What the match of a sequence comes down to. -/
theorem matchArray_list {node : Entries} {value : Value} (hvalue : value.IsUsable)
    (hsequence : Capability.isSequence value = true) (hpath : path.isWritable = true)
    (hchild : option? node "child" = some (.list items)) :
    matchArray check value (.dict node) path =
      if isOn node "required" && value.members.isEmpty then
        .ok [(path, Matching.emptyArray path)]
      else if items.isEmpty then .ok []
      else matchElements check items path 0 [] value.members := by
  obtain ⟨elements, hwalk, hlength⟩ : ∃ elements, value.walk = .ok elements ∧
      value.length = .ok elements.length := by
    cases value with
    | sequence kind xs => exact ⟨xs, rfl, rfl⟩
    | array packing rows => exact ⟨rows, rfl, rfl⟩
    | point packing element => exact (hvalue _ (.self _)).elim
    | _ => simp [Capability.isSequence] at hsequence
  have hitems : (Value.list items).walk = .ok items := rfl
  rw [Value.members_of_walk hwalk]
  simp only [matchArray, lift_eq, hsequence, hchild, hwalk, hlength, hitems, Option.getD_some,
    Value.isTrue, Bool.not_true, Bool.not_not, Bool.false_eq_true, if_false]
  cases hrequired : isOn node "required" with
  | false =>
      show (if items.isEmpty then _ else _) = _
      cases elements with
      | nil => cases items <;> rfl
      | cons element rest => rfl
  | true =>
      cases elements with
      | nil =>
          show (path.checkWritable >>= _) = _
          rw [Value.checkWritable_eq_ok.mpr hpath]
          rfl
      | cons element rest => rfl

theorem matchArray_of_matchAlike {node node' : Entries} {value : Value}
    (hrequired : isOn node' "required" = isOn node "required")
    (hchild : option? node "child" = some (.list items))
    (hchild' : option? node' "child" = some (.list items'))
    (hnil : items = [] ↔ items' = []) (h : MatchAlike check items items')
    (hvalue : value.IsUsable) (hsequence : Capability.isSequence value = true)
    (hpath : path.isWritable = true) :
    matchArray check value (.dict node) path = matchArray check value (.dict node') path := by
  have hempty : items.isEmpty = items'.isEmpty := by
    rw [Bool.eq_iff_iff, List.isEmpty_iff, List.isEmpty_iff]
    exact hnil
  rw [matchArray_list hvalue hsequence hpath hchild,
    matchArray_list hvalue hsequence hpath hchild', hrequired, hempty,
    matchElements_of_matchAlike h hpath (hvalue.members hsequence)]

/-- The indices, counted from `i`, of the elements that no alternative fits. -/
def unmatched (check : Check) (items : List Value) (path : Value) (i : Nat)
    (elements : List Value) : List Nat :=
  ((elements.zipIdx i).filter fun e => !items.any (fits check e.1 e.2 path)).map Prod.snd

theorem unmatched_cons {rest : List Value} :
    unmatched check items path i (element :: rest)
      = (if items.any (fits check element i path) then [] else [i])
        ++ unmatched check items path (i + 1) rest := by
  rw [unmatched, List.zipIdx_cons]
  cases hfits : items.any (fits check element i path) with
  | true =>
      rw [List.filter_cons_of_neg (by simp [hfits])]
      rfl
  | false =>
      rw [List.filter_cons_of_pos (by simp [hfits])]
      rfl

theorem mem_unmatched {elements : List Value} :
    i ∈ unmatched check items path 0 elements ↔
      ∃ element, elements[i]? = some element ∧ items.any (fits check element i path) = false := by
  simp only [unmatched, List.mem_map, List.mem_filter, Prod.exists, List.mk_mem_zipIdx_iff_getElem?,
    Bool.not_eq_true']
  constructor
  · rintro ⟨element, j, hmem, rfl⟩
    exact ⟨element, hmem⟩
  · rintro ⟨element, hmem⟩
    exact ⟨element, i, hmem, rfl⟩

/-- Every alternative finds errors in the element at an index. -/
def FitsNone (check : Check) (items : List Value) (path : Value) (elements : List Value)
    (i : Nat) : Prop :=
  ∃ element, elements[i]? = some element ∧ ∀ choice ∈ items,
    ∃ errors, check element choice (segment i) path = .ok errors ∧ errors ≠ []

/-- What fits none of the alternatives fits none of some of them. -/
theorem FitsNone.of_subset {elements : List Value} (h : ∀ choice ∈ items, choice ∈ items')
    (hnone : FitsNone check items' path elements i) : FitsNone check items path elements i := by
  obtain ⟨element, helement, hfails⟩ := hnone
  exact ⟨element, helement, fun choice hchoice => hfails choice (h choice hchoice)⟩

theorem mem_unmatched_iff {elements : List Value}
    (helements : ∀ element ∈ elements, element.IsUsable) (hpath : path.isWritable = true)
    (hanswers : ∀ choice ∈ items, Answers check choice) :
    i ∈ unmatched check items path 0 elements ↔ FitsNone check items path elements i := by
  rw [mem_unmatched]
  refine exists_congr fun element => and_congr_right fun helement => ?_
  rw [List.any_eq_false]
  refine forall₂_congr fun choice hchoice => ?_
  obtain ⟨errors, herrors, -⟩ := hanswers choice hchoice element (segment i) path
    (helements element (List.mem_of_getElem? helement)) (Value.isText_text _) hpath
  rw [fits, herrors]
  simp

/-- Where every trial comes back, each unmatched element has its error, and there are no
others. -/
theorem matchElements_eq_unmatched (hpath : path.isWritable = true)
    (hanswers : ∀ choice ∈ items, Answers check choice) :
    ∀ {elements : List Value} {i : Nat} {acc : ErrorSet},
      (∀ element ∈ elements, element.IsUsable) →
      (∀ e ∈ acc, ∃ j < i, e.1 = elementPath path j) →
      matchElements check items path i acc elements
        = .ok (acc ++ (unmatched check items path i elements).map
            fun j => (elementPath path j, noMatch))
  | [], i, acc, _, _ => congrArg Except.ok (List.append_nil acc).symm
  | element :: rest, i, acc, helements, hearlier => by
      obtain ⟨helement, hrest⟩ := List.forall_mem_cons.mp helements
      rw [matchElements, matchesAny_eq_any helement hpath hanswers, unmatched_cons]
      show (if items.any (fits check element i path) then _ else _) = _
      cases items.any (fits check element i path) with
      | true =>
          refine matchElements_eq_unmatched hpath hanswers hrest fun e he => ?_
          obtain ⟨j, hj, hplace⟩ := hearlier e he
          exact ⟨j, Nat.lt_succ_of_lt hj, hplace⟩
      | false =>
          have hfree : Matching.isBlocked path = false := by simp [Matching.isBlocked, hpath]
          rw [Matching.joinValue_segment, hfree]
          show matchElements check items path (i + 1) (acc.put (elementPath path i) noMatch) rest
            = _
          have hfresh : ∀ e ∈ acc, (elementPath path i).sameKey e.1 = false := by
            intro e he
            obtain ⟨j, hj, hplace⟩ := hearlier e he
            rw [hplace, Matching.elementPath_fresh (Nat.ne_of_lt hj)]
          rw [ErrorSet.put_of_fresh _ hfresh, matchElements_eq_unmatched hpath hanswers hrest,
            List.append_assoc]
          · rfl
          · intro e he
            rcases List.mem_append.mp he with he | he
            · obtain ⟨j, hj, hplace⟩ := hearlier e he
              exact ⟨j, Nat.lt_succ_of_lt hj, hplace⟩
            · exact ⟨i, Nat.lt_succ_self i, congrArg Prod.fst (List.mem_singleton.mp he)⟩

theorem elementPath_inj {j : Nat} (h : elementPath path j = elementPath path i) : j = i := by
  by_contra hne
  have hfresh : (elementPath path i).sameKey (elementPath path j) = false :=
    Matching.elementPath_fresh hne
  have hsame : (elementPath path i).sameKey (elementPath path i) = true := by
    rw [Matching.elementPath_eq, Value.sameKey_of_text? rfl, Value.text?_text, beq_self_eq_true]
  rw [h, hsame] at hfresh
  cases hfresh

theorem noMatch_ne_emptyArray : noMatch ≠ Matching.emptyArray path := by
  intro h
  have hhead := congrArg (fun message => message.toList.head?) h
  simp [noMatch, Matching.emptyArray] at hhead

/-! ## One level of the check -/

/-- The check finds the same under both fields, in every usable value. -/
def Interchangeable (field field' : Value) : Prop :=
  ∀ value name parent, value.IsUsable → name.IsText → parent.isWritable = true →
    validateField .builtin value field name parent
      = validateField .builtin value field' name parent

/-- Nodes that differ in their parts are interchangeable if the parts of a value that
the type accepts are found to be the same. -/
theorem interchangeable_of_parts {node node' : Entries} {tag : String} {c : Capability}
    (hnode : IsCanonical .builtin tag c node)
    (hother : ∀ name, name ≠ "child" → option? node' name = option? node name)
    (hparts : ∀ value path, value.IsUsable → path.IsText → c.accepts value node = .ok true →
      checkParts (validateField .builtin) value .plain node path
        = checkParts (validateField .builtin) value .plain node' path) :
    Interchangeable (.dict node) (.dict node') := by
  intro value name parent hvalue hname hparent
  have hc := (Registry.of_capability?_builtin hnode.registered).1
  have hrequired : isOn node' "required" = isOn node "required" :=
    Entries.isOn_of_option?_eq (hother _ (by decide))
  have haccepts : c.accepts value node' = c.accepts value node :=
    Compilation.accepts_congr hc (hother _ (by decide)) (hother _ (by decide)) value
  have hempty : c.isEmpty value node' = c.isEmpty value node :=
    Capability.isEmpty_congr hc (hother _ (by decide)) (hother _ (by decide)) value
  have hknown : Registry.builtin.lookup? ((option? node "type").getD .null) = some c := by
    rw [hnode.type, Option.getD_some, Registry.lookup?_text]
    exact hnode.registered
  rw [agreeOn_checkLevel (.dict node) value name parent,
    agreeOn_checkLevel (.dict node') value name parent]
  obtain ⟨path, hpath, htext⟩ := Path.returns_joinValue hname hparent
  unfold checkLevel
  rw [hpath]
  show (if _ then _ else _) = (if _ then _ else _)
  rw [hrequired]
  split
  · rfl
  · rw [hother _ (by decide), hknown]
    have hoption : checkOption value node' path = checkOption value node path := by
      rw [checkOption, checkOption, hother _ (by decide)]
    show checkValue _ c value .plain node path = checkValue _ c value .plain node' path
    unfold checkValue
    rw [hrequired, haccepts, hempty, hoption, ite_bind, ite_bind]
    refine bind_congr fun isNotGiven _ => ?_
    cases isNotGiven with
    | true => rfl
    | false =>
        refine bind_congr fun isAccepted haccepted => ?_
        cases isAccepted with
        | false => rfl
        | true =>
            refine bind_congr fun found _ => ?_
            cases found with
            | some errors => rfl
            | none => exact hparts value path hvalue htext haccepted

theorem interchangeable_of_items {node : Entries} (h : IsTellableTree (.dict node))
    (htag : Entries.tag? node = some Capability.arrayTag)
    (hchild : option? node "child" = some (.list items)) (hnil : items = [] ↔ items' = [])
    (halike : MatchAlike (validateField .builtin) items items') :
    Interchangeable (.dict node) (.dict (setOption node "child" (.list items'))) := by
  obtain ⟨c, hcanonical⟩ := h.canonical htag
  have hother : ∀ name, name ≠ "child" →
      option? (setOption node "child" (.list items')) name = option? node name :=
    fun _ hne => Entries.option?_setOption_of_ne node _ hne
  refine interchangeable_of_parts hcanonical hother fun value path hvalue htext haccepted => ?_
  have hsequence : Capability.isSequence value = true :=
    (isCheckable_of_builtin hcanonical h.root.names h.root.text h.root.told).array rfl value
      haccepted
  rw [checkParts_array hcanonical.type,
    checkParts_array ((hother _ (by decide)).trans hcanonical.type)]
  exact matchArray_of_matchAlike (Entries.isOn_of_option?_eq (hother _ (by decide))) hchild
    (Entries.option?_setOption_self _ _ _) hnil halike hvalue hsequence htext.isWritable

/-- The fields of two objects are found to be the same. -/
def SameObject (schema schema' : Entries) : Prop :=
  ∀ value parent, value.IsUsable → parent.isWritable = true →
    checkObject (validateField .builtin) value (.dict schema) parent
      = checkObject (validateField .builtin) value (.dict schema') parent

theorem interchangeable_of_fields {node fs fs' : Entries} (h : IsTellableTree (.dict node))
    (htag : Entries.tag? node = some Capability.objectTag)
    (hchild : option? node "child" = some (.dict fs)) (hsame : SameObject fs fs') :
    Interchangeable (.dict node) (.dict (setOption node "child" (.dict fs'))) := by
  obtain ⟨c, hcanonical⟩ := h.canonical htag
  have hother : ∀ name, name ≠ "child" →
      option? (setOption node "child" (.dict fs')) name = option? node name :=
    fun _ hne => Entries.option?_setOption_of_ne node _ hne
  have hrequired : isOn (setOption node "child" (.dict fs')) "required" = isOn node "required" :=
    Entries.isOn_of_option?_eq (hother _ (by decide))
  refine interchangeable_of_parts hcanonical hother fun value path hvalue htext _ => ?_
  rw [checkParts_object hcanonical.type,
    checkParts_object ((hother _ (by decide)).trans hcanonical.type), hrequired, hchild,
    Entries.option?_setOption_self, Option.getD_some, Option.getD_some,
    hsame value path hvalue htext.isWritable]

/-! ## One field of an object -/

section

variable {before after : Entries} {key part part' parent : Value}

theorem checkFields_of_interchangeable (hkey : key.IsText) (h : Interchangeable part part')
    (hparent : parent.isWritable = true) {kind : MappingKind} {entries : Entries}
    (hvalue : (Value.mapping kind entries).IsUsable) :
    ∀ {before : Entries} {acc : ErrorSet},
      checkFields (validateField .builtin) entries parent acc (before ++ (key, part) :: after)
        = checkFields (validateField .builtin) entries parent acc
            (before ++ (key, part') :: after)
  | [], acc => by
      have hpart := h ((Entries.get? entries key).getD .missing) key parent (hvalue.part key)
        hkey hparent
      rw [List.nil_append, List.nil_append, checkFields, checkFields, hpart]
  | e :: before, acc => by
      rw [List.cons_append, List.cons_append, checkFields, checkFields]
      exact bind_congr fun more _ => checkFields_of_interchangeable hkey h hparent hvalue

theorem contains_of_replaced (name : Value) :
    Entries.contains (before ++ (key, part) :: after) name
      = Entries.contains (before ++ (key, part') :: after) name := by
  have hkeys : ∀ entries : Entries, Entries.contains entries name = true ↔
      ∃ k ∈ keys entries, name.sameKey k = true := by
    intro entries
    rw [contains_iff]
    simp [keys]
  rw [Bool.eq_iff_iff, hkeys, hkeys]
  simp [keys]

theorem checkKeys_of_contains {schema schema' : Entries}
    (h : ∀ name, Entries.contains schema name = Entries.contains schema' name) :
    ∀ {names : List Value} {acc : ErrorSet},
      checkKeys schema parent acc names = checkKeys schema' parent acc names
  | [], _ => rfl
  | name :: rest, acc => by
      rw [checkKeys, checkKeys, h]
      split
      · exact checkKeys_of_contains h
      · exact bind_congr fun _ _ => bind_congr fun path _ => checkKeys_of_contains h

theorem sameObject_of_interchangeable (hkey : key.IsText) (h : Interchangeable part part') :
    SameObject (before ++ (key, part) :: after) (before ++ (key, part') :: after) := by
  intro value parent hvalue hparent
  cases value with
  | mapping kind entries =>
      show (checkFields _ entries parent [] _ >>= fun errors => checkKeys _ parent errors _)
        = (checkFields _ entries parent [] _ >>= fun errors => checkKeys _ parent errors _)
      rw [checkFields_of_interchangeable hkey h hparent hvalue]
      exact bind_congr fun errors _ => checkKeys_of_contains contains_of_replaced
  | _ => rfl

end

/-- Changing one alternative for an interchangeable one keeps what matches. -/
theorem matchAlike_of_interchangeable {before after : List Value} {choice choice' : Value}
    (h : Interchangeable choice choice') :
    MatchAlike (validateField .builtin) (before ++ choice :: after)
      (before ++ choice' :: after) := by
  intro element i path helement hpath
  induction before with
  | nil =>
      rw [List.nil_append, List.nil_append, matchesAny, matchesAny,
        h element (segment i) path helement (Value.isText_text _) hpath]
  | cons v before ih => rw [List.cons_append, List.cons_append, matchesAny, matchesAny, ih]

end Validation

open Validation

/-! ## All changes -/

mutual

/-- The induction is on the change: what holds the changed field can be told as before,
and the check finds the same in it. -/
theorem Regroups.keeps {field field' : Entries} : Regroups field field' →
    IsTellableTree (.dict field) →
    IsTellableTree (.dict field') ∧ Interchangeable (.dict field) (.dict field')
  | @Regroups.here _ items items' array child same, h => by
      have hitems : ∀ choice ∈ items, IsTellableTree choice := by
        rw [← Entries.alternatives_of_child array child]
        exact h.of_mem_alternatives
      have hnil : items = [] ↔ items' = [] := by
        simp only [List.eq_nil_iff_forall_not_mem, same]
      refine ⟨h.setOption_items array child fun choice hchoice =>
        hitems choice ((same choice).mpr hchoice), ?_⟩
      exact interchangeable_of_items h array child hnil
        (matchAlike_of_mem_iff (fun choice hchoice => (hitems choice hchoice).answers) same)
  | .inObject object child change, h => by
      have hfields := Entries.fields_of_child object child
      obtain ⟨hplain, hsame⟩ := change.keeps
        (isTellable_iff.mpr ⟨hfields ▸ h.root.names, hfields ▸ h.of_mem_fields⟩)
      exact ⟨h.setOption_fields object child hplain,
        interchangeable_of_fields h object child hsame⟩
  | .inArray array child change, h => by
      have hitems := h.of_mem_alternatives
      rw [Entries.alternatives_of_child array child, List.forall_mem_append,
        List.forall_mem_cons] at hitems
      obtain ⟨hbefore, hchoice, hafter⟩ := hitems
      obtain ⟨hplain, hsame⟩ := change.keeps hchoice
      refine ⟨h.setOption_items array child ?_, interchangeable_of_items h array child (by simp)
        (matchAlike_of_interchangeable hsame)⟩
      exact List.forall_mem_append.mpr ⟨hbefore, List.forall_mem_cons.mpr ⟨hplain, hafter⟩⟩

theorem RegroupsFields.keeps {schema schema' : Entries} : RegroupsFields schema schema' →
    IsTellable schema → IsTellable schema' ∧ SameObject schema schema'
  | @RegroupsFields.inField before after field field' key change, h => by
      obtain ⟨hnames, hplain⟩ := isTellable_iff.mp h
      have hkeys : keys (before ++ (key, .dict field) :: after)
          = keys (before ++ (key, .dict field') :: after) := by
        simp [keys]
      rw [List.forall_mem_append, List.forall_mem_cons] at hplain
      obtain ⟨hbefore, hfield, hafter⟩ := hplain
      obtain ⟨hfield', hsame⟩ := change.keeps hfield
      refine ⟨isTellable_iff.mpr ⟨fun k hk => hnames k (hkeys ▸ hk), ?_⟩,
        sameObject_of_interchangeable ?_ hsame⟩
      · exact List.forall_mem_append.mpr ⟨hbefore, List.forall_mem_cons.mpr ⟨hfield', hafter⟩⟩
      · exact hnames key (by simp [keys])

end

/-- Any number of changes keeps what the check finds. -/
theorem sameObject_of_changes {schema schema' : Entries}
    (h : Relation.ReflTransGen RegroupsFields schema schema') (hplain : IsTellable schema) :
    IsTellable schema' ∧ SameObject schema schema' := by
  induction h with
  | refl => exact ⟨hplain, fun _ _ _ _ => rfl⟩
  | tail _ change ih =>
      obtain ⟨hplain, hsofar⟩ := ih
      obtain ⟨hplain, hlast⟩ := change.keeps hplain
      exact ⟨hplain, fun value parent hvalue hparent =>
        (hsofar value parent hvalue hparent).trans (hlast value parent hvalue hparent)⟩

/-- What is found in a sequence under an array with alternatives. -/
theorem validateArray_eq_unmatched {node : Entries} {sequence path : Value}
    (h : IsTellableTree (.dict node)) (htag : Entries.tag? node = some Capability.arrayTag)
    (hsome : alternatives node ≠ []) (hsequence : Capability.isSequence sequence = true)
    (hvalue : sequence.IsUsable) (hpath : path.isWritable = true) :
    validateArray .builtin sequence (.dict node) path = .ok
      (if isOn node "required" && sequence.members.isEmpty then
        [(path, Matching.emptyArray path)]
      else (unmatched (validateField .builtin) (alternatives node) path 0 sequence.members).map
        fun i => (elementPath path i, noMatch)) := by
  obtain ⟨c, hcanonical⟩ := h.canonical htag
  obtain ⟨items, hchild⟩ := hcanonical.array rfl
  have hitems := Entries.alternatives_of_child htag hchild
  have hanswers := h.answers_alternatives
  rw [hitems] at hsome hanswers ⊢
  rw [validateArray_eq htag, matchArray_list hvalue hsequence hpath hchild,
    List.isEmpty_eq_false_iff.mpr hsome, if_neg Bool.false_ne_true,
    matchElements_eq_unmatched hpath hanswers (hvalue.members hsequence) (List.forall_mem_nil _),
    List.nil_append]
  split
  · rfl
  · rfl

/-- In a sequence under an array with alternatives, the elements that are reported are
those in which every alternative finds errors. -/
theorem returns_unmatched {node : Entries} {sequence path : Value}
    (h : IsTellableTree (.dict node)) (htag : Entries.tag? node = some Capability.arrayTag)
    (hsome : alternatives node ≠ []) (hsequence : Capability.isSequence sequence = true)
    (hvalue : sequence.IsUsable) (hpath : path.isWritable = true) :
    ∃ errors, validateArray .builtin sequence (.dict node) path = .ok errors ∧
      ∀ i, (elementPath path i, noMatch) ∈ errors ↔
        FitsNone (validateField .builtin) (alternatives node) path sequence.members i := by
  refine ⟨_, validateArray_eq_unmatched h htag hsome hsequence hvalue hpath, fun i => ?_⟩
  rw [← mem_unmatched_iff (hvalue.members hsequence) hpath h.answers_alternatives]
  split
  · -- a sequence that is left empty has another error, and no elements
    rename_i hempty
    obtain ⟨-, hempty⟩ := Bool.and_eq_true_iff.mp hempty
    rw [List.isEmpty_iff.mp hempty, List.mem_singleton]
    constructor
    · intro h
      exact absurd (Prod.mk.inj h).2 noMatch_ne_emptyArray
    · exact fun h => absurd h List.not_mem_nil
  · rw [List.mem_map]
    constructor
    · rintro ⟨j, hj, hplace⟩
      rwa [elementPath_inj (Prod.mk.inj hplace).1] at hj
    · exact fun hi => ⟨i, hi, rfl⟩

/-! ## Alternatives of a list in a list -/

theorem isTellableTree_oneOf {choices : List Value}
    (h : ∀ choice ∈ choices, IsTellableTree choice) :
    IsTellableTree (.dict (oneOf choices)) := by
  have hfields := Entries.fields_of_tag_ne (Entries.tag?_ne_object (@tag?_oneOf choices))
  refine .of_parts ⟨⟨Capability.arrayTag, .array, ?_⟩, ?_, ?_, ?_⟩ ?_
  · refine ⟨rfl, ?_, ?_, ?_, ?_, ?_, ?_, fun h => absurd h (by decide),
      fun _ => ⟨choices, option?_oneOf⟩⟩
    · simp [oneOf, Entries.option?_cons, Capability.arrayTag]
    · simp [oneOf, keys, Capability.Declares, Capability.array]
    all_goals simp [oneOf, Entries.option?_cons, Entries.option?_nil]
  · rw [hfields]
    exact List.forall_mem_nil _
  · simp [oneOf, Capability.SearchesText, Entries.option?_cons, Entries.option?_nil]
  · simp [oneOf, WritableOptions, Entries.option?_cons, Entries.option?_nil]
  · rw [parts, hfields, alternatives_oneOf]
    exact h

/-- A field of nothing but a type without parts can be told. -/
theorem isTellableTree_bare {c : Capability} (hc : Registry.builtin.capability? c.name = some c)
    (hobject : c.name ≠ Capability.objectTag) (harray : c.name ≠ Capability.arrayTag) :
    IsTellableTree (.dict [(.text "type", .text c.name)]) := by
  have htag : Entries.tag? [(.text "type", .text c.name)] = some c.name := by
    simp [Entries.tag?, Entries.option?_cons]
  refine .leaf htag hobject harray ⟨⟨c.name, c, ?_⟩, ?_, ?_, ?_⟩
  · refine ⟨hc, ?_, ?_, ?_, ?_, ?_, ?_, fun h => absurd h hobject, fun h => absurd h harray⟩
    all_goals simp [keys, Capability.Declares, Entries.option?_cons, Entries.option?_nil]
  · rw [Entries.fields_of_tag_ne (by simpa [htag] using hobject)]
    exact List.forall_mem_nil _
  · simp [Capability.SearchesText, Entries.option?_cons, Entries.option?_nil]
  · simp [WritableOptions, Entries.option?_cons, Entries.option?_nil]

theorem isTellableTree_word : IsTellableTree word :=
  @isTellableTree_bare .string rfl (by decide) (by decide)

theorem isTellableTree_quantity : IsTellableTree quantity :=
  @isTellableTree_bare .number rfl (by decide) (by decide)

/-- The alternatives of the inner list are reordered, and one of them is repeated. -/
theorem regroups_oneOf :
    RegroupsFields [(.text "a", .dict (oneOf [.dict (oneOf [word, quantity]), word]))]
      [(.text "a", .dict (oneOf [.dict (oneOf [quantity, word, quantity]), word]))] := by
  have hinner := @Regroups.here (oneOf [word, quantity]) [word, quantity]
    [quantity, word, quantity] tag?_oneOf option?_oneOf (by simp [or_comm])
  have houter := @Regroups.inArray (oneOf [.dict (oneOf [word, quantity]), word]) _ _ [] [word]
    tag?_oneOf option?_oneOf hinner
  rw [setOption_oneOf, setOption_oneOf] at houter
  exact @RegroupsFields.inField [] [] _ _ _ houter

/-! ## The set of alternatives -/

/-- **The alternatives of an array form a set.** Let the alternatives of arrays anywhere
in a canonical schema of the built-in types, with options that can be told, be given in
another way any number of times, each time as the same ones in any order and any number.
Then both schemas find the same errors in every usable mapping, in the same order. An
array with alternatives reports the elements of a sequence in which every alternative
finds errors; so where all its alternatives occur in another array, no element is reported
under that one but not under this one. -/
theorem alternatives_form_set :
    (∀ {s s' : Schema} {value parent : Value}, IsTellable s.fields →
      Relation.ReflTransGen RegroupsFields s.fields s'.fields →
      value.isMapping = true → value.IsUsable → parent.isWritable = true →
      ∃ errors, s.errors .builtin value .null parent = .ok errors ∧
        s'.errors .builtin value .null parent = .ok errors) ∧
    ∀ {node node' : Entries} {sequence path : Value},
      IsTellableTree (.dict node) → IsTellableTree (.dict node') →
      Entries.tag? node = some Capability.arrayTag →
      Entries.tag? node' = some Capability.arrayTag →
      alternatives node ≠ [] → (∀ choice ∈ alternatives node, choice ∈ alternatives node') →
      Capability.isSequence sequence = true → sequence.IsUsable → path.isWritable = true →
      ∃ errors errors', validateArray .builtin sequence (.dict node) path = .ok errors ∧
        validateArray .builtin sequence (.dict node') path = .ok errors' ∧
        (∀ i, (elementPath path i, noMatch) ∈ errors ↔
          FitsNone (validateField .builtin) (alternatives node) path sequence.members i) ∧
        (∀ i, (elementPath path i, noMatch) ∈ errors' ↔
          FitsNone (validateField .builtin) (alternatives node') path sequence.members i) ∧
        ∀ i, (elementPath path i, noMatch) ∈ errors' → (elementPath path i, noMatch) ∈ errors := by
  refine ⟨fun {s s' value parent} hplain hchanges hmapping hvalue hparent => ?_,
    fun {node node' sequence path} h h' htag htag' hsome hmem hsequence hvalue hpath => ?_⟩
  · obtain ⟨errors, herrors, -⟩ :=
      Schema.returns_errors_of_isTellable hplain hmapping hvalue hparent
    obtain ⟨-, hsame⟩ := sameObject_of_changes hchanges hplain
    refine ⟨errors, herrors, ?_⟩
    calc validateObject .builtin value (.dict s'.fields) parent
        = checkObject (validateField .builtin) value (.dict s'.fields) parent :=
          validateObject_eq value parent _
      _ = checkObject (validateField .builtin) value (.dict s.fields) parent :=
          (hsame value parent hvalue hparent).symm
      _ = validateObject .builtin value (.dict s.fields) parent :=
          (validateObject_eq value parent _).symm
      _ = .ok errors := herrors
  · have hsome' : alternatives node' ≠ [] := by
      obtain ⟨choice, hchoice⟩ := List.exists_mem_of_ne_nil _ hsome
      exact List.ne_nil_of_mem (hmem choice hchoice)
    obtain ⟨errors, herrors, hreports⟩ := returns_unmatched h htag hsome hsequence hvalue hpath
    obtain ⟨errors', herrors', hreports'⟩ :=
      returns_unmatched h' htag' hsome' hsequence hvalue hpath
    refine ⟨errors, errors', herrors, herrors', hreports, hreports', fun i hi => ?_⟩
    exact (hreports i).mpr (((hreports' i).mp hi).of_subset hmem)

/-- A list in a list whose alternatives are given in another way, and a list of words
that allows numbers as well. -/
theorem alternatives_form_set_lists :
    Schema.errors .builtin ⟨[(.text "a", .dict (oneOf [.dict (oneOf [word, quantity]), word]))], 64⟩
        (.dict [(.text "a", .list [.list [.text "x", .int 1], .text "y", .list [.null]])])
        .null .null = .ok [(.text "a[2]", noMatch)] ∧
    Schema.errors .builtin
        ⟨[(.text "a", .dict (oneOf [.dict (oneOf [quantity, word, quantity]), word]))], 64⟩
        (.dict [(.text "a", .list [.list [.text "x", .int 1], .text "y", .list [.null]])])
        .null .null = .ok [(.text "a[2]", noMatch)] ∧
    ∃ errors errors',
      validateArray .builtin (.list [.int 1, .null, .text "x"]) (.dict (oneOf [word])) (.text "b")
        = .ok errors ∧
      validateArray .builtin (.list [.int 1, .null, .text "x"]) (.dict (oneOf [quantity, word]))
        (.text "b") = .ok errors' ∧
      ∀ i, (elementPath (.text "b") i, noMatch) ∈ errors' →
        (elementPath (.text "b") i, noMatch) ∈ errors := by
  have hplain : IsTellable [(.text "a", .dict (oneOf [.dict (oneOf [word, quantity]), word]))] := by
    have hinner : IsTellableTree (.dict (oneOf [word, quantity])) :=
      isTellableTree_oneOf (by simp [isTellableTree_word, isTellableTree_quantity])
    have houter : IsTellableTree (.dict (oneOf [.dict (oneOf [word, quantity]), word])) :=
      isTellableTree_oneOf (by simp [hinner, isTellableTree_word])
    exact isTellable_iff.mpr ⟨by simp [TextKeys, keys, Value.isText_text], by simpa using houter⟩
  have hnested : (Value.dict [(.text "a", .list
      [.list [.text "x", .int 1], .text "y", .list [.null]])]).IsUsable := by
    simp only [Value.IsUsable.mapping_iff, Value.IsUsable.sequence_iff, List.forall_mem_cons]
    exact ⟨by simp [keys, Value.isWritable],
      ⟨⟨.of_leaf rfl rfl rfl, .of_leaf rfl rfl rfl, List.forall_mem_nil _⟩, .of_leaf rfl rfl rfl,
        ⟨.of_leaf rfl rfl rfl, List.forall_mem_nil _⟩, List.forall_mem_nil _⟩,
      List.forall_mem_nil _⟩
  have hbefore : Schema.errors .builtin
      ⟨[(.text "a", .dict (oneOf [.dict (oneOf [word, quantity]), word]))], 64⟩
      (.dict [(.text "a", .list [.list [.text "x", .int 1], .text "y", .list [.null]])])
      .null .null = .ok [(.text "a[2]", noMatch)] := by
    rw [Registry.builtin_eq]
    cbv
  obtain ⟨hregroup, hsubset⟩ := alternatives_form_set
  obtain ⟨errors, herrors, hafter⟩ := @hregroup ⟨_, 64⟩ ⟨_, 64⟩ _ .null hplain
    (.single regroups_oneOf) rfl hnested rfl
  obtain rfl : [(.text "a[2]", noMatch)] = errors := Except.ok.inj (hbefore.symm.trans herrors)
  have hwords : IsTellableTree (.dict (oneOf [word])) :=
    isTellableTree_oneOf (by simp [isTellableTree_word])
  have hmore : IsTellableTree (.dict (oneOf [quantity, word])) :=
    isTellableTree_oneOf (by simp [isTellableTree_word, isTellableTree_quantity])
  have hflat : (Value.list [.int 1, .null, .text "x"]).IsUsable := by
    simp only [Value.IsUsable.sequence_iff, List.forall_mem_cons]
    exact ⟨.of_leaf rfl rfl rfl, .of_leaf rfl rfl rfl, .of_leaf rfl rfl rfl,
      List.forall_mem_nil _⟩
  obtain ⟨found, found', hfound, hfound', -, -, hfewer⟩ :=
    @hsubset _ _ _ (.text "b") hwords hmore tag?_oneOf tag?_oneOf
      (by simp [alternatives_oneOf]) (by simp [alternatives_oneOf]) rfl hflat rfl
  exact ⟨hbefore, hafter, found, found', hfound, hfound', hfewer⟩

/-- A number that any number matches is reported by an alternative that comes first and
cannot say what number it allows. -/
theorem alternatives_differ_of_longOption :
    (∀ choice, choice ∈ [quantity, longNumber] ↔ choice ∈ [longNumber, quantity]) ∧
    compileSchema .builtin 64 none (.dict [(.text "a", .dict (oneOf [quantity, longNumber]))])
      = .ok [(.text "a", .dict (oneOf [quantity, longNumber]))] ∧
    Schema.errors .builtin ⟨[(.text "a", .dict (oneOf [quantity, longNumber]))], 64⟩
      (.dict [(.text "a", .list [.int 2])]) .null .null = .ok [] ∧
    Schema.errors .builtin ⟨[(.text "a", .dict (oneOf [longNumber, quantity]))], 64⟩
      (.dict [(.text "a", .list [.int 2])]) .null .null = .error .integerTooLong := by
  refine ⟨by simp [or_comm], ?_, ?_, ?_⟩
  · unfold longNumber
    generalize (Text.firstTooLong : Int) = n
    rw [Registry.builtin_eq]
    cbv
  · rw [Registry.builtin_eq]
    cbv
  · rw [Registry.builtin_eq]
    cbv

end DataShape
