import DataShape.Proofs.Relocation
import DataShape.Proofs.Report

/-!
# Validation at another place

The path of the parent is carried down through the validator and shows up in the
report alone: as the path of each error, and inside two messages that quote it. Where
a value lies below a path, its report is that of the value on its own with every path
joined to the path above. Paths that were one key stay one key and others stay apart,
so that reports are merged in the same way in both runs.
-/

namespace DataShape

open Entries (option? fields alternatives parts)

/-! ## Reports seen from above -/

namespace Path

variable {p : String}

/-- Joining to a path tells different names apart. -/
theorem join_injective (hp : p ≠ "") {s t : String}
    (h : join (some p) s = join (some p) t) : s = t := by
  rw [join_of_ne_empty hp, join_of_ne_empty hp] at h
  have hchars := congrArg String.toList h
  simp only [String.toList_append, List.append_assoc] at hchars
  have htail := List.append_cancel_left hchars
  apply String.toList_injective
  by_cases hs : s.toList.head? = some '['
  · by_cases ht : t.toList.head? = some '['
    · simpa [separator, hs, ht] using htail
    -- an index begins with its bracket, where a name has a dot before it
    · have hdot : s.toList = '.' :: t.toList := by simpa [separator, hs, ht] using htail
      simp [hdot] at hs
  · by_cases ht : t.toList.head? = some '['
    · have hdot : '.' :: s.toList = t.toList := by simpa [separator, hs, ht] using htail
      simp [← hdot] at ht
    · simpa [separator, hs, ht] using htail

/-- The path of an error, seen from above the path `p`. -/
def keyUnder (p : String) (key : Value) : Value := .text (join (some p) key.filled)

theorem keyUnder_of_text? {key : Value} {q : String} (h : key.text? = some q) :
    keyUnder p key = .text (join (some p) q) := by
  rw [keyUnder, Value.filled_of_text? h]

theorem checkWritable_keyUnder (p : String) {key : Value} {q : String} (h : key.text? = some q) :
    (keyUnder p key).checkWritable = .ok () := by
  rw [keyUnder_of_text? h]
  rfl

theorem sameKey_keyUnder (hp : p ≠ "") {a b : Value} (ha : a.IsText) (hb : b.IsText) :
    (keyUnder p a).sameKey (keyUnder p b) = a.sameKey b := by
  obtain ⟨s, hs⟩ := ha
  obtain ⟨t, ht⟩ := hb
  rw [keyUnder_of_text? hs, keyUnder_of_text? ht, Value.sameKey_of_text? rfl,
    Value.sameKey_of_text? hs, ht, Value.text?_text, Bool.eq_iff_iff]
  simp only [beq_iff_eq, Option.some.injEq]
  constructor
  · exact fun h => join_injective hp h
  · rintro rfl
    rfl

end Path

namespace ErrorSet

variable {p : String} {errors more : ErrorSet} {path : Value} {message : String}

/-- The message of an error at a path, seen from above. Two messages quote the path. -/
def messageUnder (p : String) (path : Value) (message : String) : String :=
  if message = Validation.emptyObject path then Validation.emptyObject (Path.keyUnder p path)
  else if message = Matching.emptyArray path then Matching.emptyArray (Path.keyUnder p path)
  else message

/-- A report seen from above the path `p`: the same errors in the same order, each at its
path joined to `p`. -/
def under (p : String) (errors : ErrorSet) : ErrorSet :=
  errors.map fun e => (Path.keyUnder p e.1, messageUnder p e.1 e.2)

theorem isEmpty_under : (errors.under p).isEmpty = errors.isEmpty := List.isEmpty_map

/-- A message that begins in another way than the two quotes no path. -/
theorem messageUnder_of_head (hobject : message.toList.head? ≠ some 'o')
    (harray : message.toList.head? ≠ some 'a') : messageUnder p path message = message := by
  rw [messageUnder, if_neg, if_neg]
  · rintro rfl
    exact harray (by simp [Matching.emptyArray])
  · rintro rfl
    exact hobject (by simp [Validation.emptyObject])

theorem messageUnder_emptyObject :
    messageUnder p path (Validation.emptyObject path)
      = Validation.emptyObject (Path.keyUnder p path) := if_pos rfl

theorem messageUnder_emptyArray :
    messageUnder p path (Matching.emptyArray path)
      = Matching.emptyArray (Path.keyUnder p path) := by
  rw [messageUnder, if_neg, if_pos rfl]
  intro h
  have hhead := congrArg (fun s => s.toList.head?) h
  simp [Matching.emptyArray, Validation.emptyObject] at hhead

theorem messageUnder_of_sameKey {other : Value} (hpath : path.IsText)
    (h : path.sameKey other = true) :
    messageUnder p other message = messageUnder p path message := by
  obtain ⟨q, hq⟩ := hpath
  rw [Value.sameKey_of_text? hq, beq_iff_eq] at h
  have hfilled : other.filled = path.filled := by
    rw [Value.filled_of_text? h, Value.filled_of_text? hq]
  have hobject : Validation.emptyObject other = Validation.emptyObject path := by
    rw [Validation.emptyObject, Validation.emptyObject, hfilled]
  have harray : Matching.emptyArray other = Matching.emptyArray path := by
    rw [Matching.emptyArray, Matching.emptyArray, hfilled]
  have hkey : Path.keyUnder p other = Path.keyUnder p path := by
    rw [Path.keyUnder, Path.keyUnder, hfilled]
  rw [messageUnder, messageUnder, hobject, harray, hkey]

theorem under_put (hp : p ≠ "") (herrors : errors.TextPaths) (hpath : path.IsText) :
    (errors.put path message).under p
      = (errors.under p).put (Path.keyUnder p path) (messageUnder p path message) := by
  induction errors with
  | nil => rfl
  | cons e rest ih =>
      obtain ⟨he, hrest⟩ := List.forall_mem_cons.mp herrors
      show under p (put path message (e :: rest))
        = put _ _ ((Path.keyUnder p e.1, messageUnder p e.1 e.2) :: under p rest)
      rw [put, put, Path.sameKey_keyUnder hp hpath he]
      cases hsame : path.sameKey e.1 with
      | true =>
          rw [if_pos rfl, if_pos rfl]
          show (_, messageUnder p e.1 message) :: _ = _
          rw [messageUnder_of_sameKey hpath hsame]
          rfl
      | false =>
          rw [if_neg Bool.false_ne_true, if_neg Bool.false_ne_true]
          show _ :: under p (put path message rest) = _
          rw [ih hrest]

theorem under_merge (hp : p ≠ "") (herrors : errors.TextPaths) (hmore : more.TextPaths) :
    (errors.merge more).under p = (errors.under p).merge (more.under p) := by
  induction more generalizing errors with
  | nil => rfl
  | cons e rest ih =>
      obtain ⟨he, hrest⟩ := List.forall_mem_cons.mp hmore
      show under p ((errors.put e.1 e.2).merge rest) = _
      rw [ih (herrors.put he e.2) hrest, under_put hp herrors he]
      rfl

end ErrorSet

/-! ## Runs that end alike -/

/-- Both runs return, with related results, or neither does. -/
inductive EndAlike {α β : Type} (R : α → β → Prop) : Except Fault α → Except Fault β → Prop
  | returns {a : α} {b : β} (related : R a b) : EndAlike R (.ok a) (.ok b)
  | fails {fault fault' : Fault} : EndAlike R (.error fault) (.error fault')

namespace EndAlike

variable {α β γ δ : Type} {R : α → β → Prop} {Q : γ → δ → Prop} {x : Except Fault α}
  {y : Except Fault β} {f : α → Except Fault γ} {g : β → Except Fault δ}

theorem bind (h : EndAlike R x y) (hfg : ∀ a b, R a b → EndAlike Q (f a) (g b)) :
    EndAlike Q (x >>= f) (y >>= g) := by
  cases h with
  | returns related => exact hfg _ _ related
  | fails => exact .fails

/-- A step that is the same in both runs. -/
theorem bind_same {g : α → Except Fault δ} (hfg : ∀ a, EndAlike Q (f a) (g a)) :
    EndAlike Q (x >>= f) (x >>= g) := by
  cases x with
  | error fault => exact .fails
  | ok a => exact hfg a

end EndAlike

/-- The second report is the first one seen from above, whose paths are texts. -/
def SeenFrom (p : String) (errors errors' : ErrorSet) : Prop :=
  errors.TextPaths ∧ errors' = errors.under p

namespace SeenFrom

variable {p : String} {errors errors' more more' : ErrorSet} {path path' : Value}
  {message : String}

theorem nil : SeenFrom p [] [] := ⟨.nil, rfl⟩

theorem single (hpath : path.IsText) (message : String) :
    SeenFrom p [(path, message)]
      [(Path.keyUnder p path, ErrorSet.messageUnder p path message)] :=
  ⟨.single hpath message, rfl⟩

theorem put (hp : p ≠ "") (h : SeenFrom p errors errors') (hpath : path.IsText)
    (message : String) :
    SeenFrom p (errors.put path message)
      (errors'.put (Path.keyUnder p path) (ErrorSet.messageUnder p path message)) := by
  obtain ⟨htexts, rfl⟩ := h
  exact ⟨htexts.put hpath message, (ErrorSet.under_put hp htexts hpath).symm⟩

theorem merge (hp : p ≠ "") (h : SeenFrom p errors errors') (hmore : SeenFrom p more more') :
    SeenFrom p (errors.merge more) (errors'.merge more') := by
  obtain ⟨htexts, rfl⟩ := h
  obtain ⟨hmoreTexts, rfl⟩ := hmore
  exact ⟨htexts.merge hmoreTexts, (ErrorSet.under_merge hp htexts hmoreTexts).symm⟩

end SeenFrom

/-! ## Parents at both places -/

/-- The parent in the second run is the parent in the first one, seen from above. -/
def Rerooted (p : String) (parent parent' : Value) : Prop :=
  ∃ place : Option String, place ≠ some "" ∧ Stands parent (place.getD "") ∧
    parent'.text? = Path.under p place

theorem rerooted_root {p : String} {parent : Value} (h : parent.text? = some p) :
    Rerooted p .null parent :=
  ⟨none, nofun, Or.inl ⟨rfl, rfl⟩, h⟩

theorem rerooted_path {p q : String} {path : Value} (hq : q ≠ "")
    (hpath : path.text? = some q) : Rerooted p path (Path.keyUnder p path) := by
  refine ⟨some q, by simpa using hq, Or.inr ⟨hq, hpath⟩, ?_⟩
  rw [Path.keyUnder_of_text? hpath]
  rfl

theorem Path.joinValue_of_text? {parent name : Value} {r s : String}
    (hparent : parent.text? = some r) (hr : r ≠ "") (hname : name.text? = some s) :
    joinValue parent name = .ok (.text (join (some r) s)) := by
  have htrue : parent.isTrue = true := by
    rw [Value.isTrue_of_text? hparent]
    simpa using hr
  simp only [joinValue, htrue, hname, Value.filled_of_text? hparent,
    Value.checkWritable_of_text? hparent]
  rw [join_of_ne_empty hr]
  rfl

theorem Path.under_ne_empty {p r : String} (hp : p ≠ "") {place : Option String}
    (hplace : place ≠ some "") (h : under p place = some r) : r ≠ "" := by
  cases place with
  | none =>
      obtain rfl : p = r := Option.some.inj h
      exact hp
  | some q =>
      obtain rfl : join (some p) q = r := Option.some.inj h
      exact join_ne_empty (by simpa using hplace) _

/-- A part has a path in both runs, and they go together. -/
theorem Rerooted.joinValue {p s : String} {parent parent' name : Value} (hp : p ≠ "")
    (h : Rerooted p parent parent') (hname : name.text? = some s) :
    ∃ path q, path.text? = some q ∧ (s ≠ "" → q ≠ "") ∧
      Path.joinValue parent name = .ok path ∧
      Path.joinValue parent' name = .ok (Path.keyUnder p path) := by
  obtain ⟨place, hplace, hparent, hparent'⟩ := h
  obtain ⟨path, hpath⟩ := exists_joinValue_of_stands hparent hname
  have htext : path.text? = some (Path.join place s) := by
    rw [text?_of_joinValue hparent hname hpath]
    cases place with
    | none => rw [Option.getD_none, Path.join_empty, Path.join_none]
    | some q => rfl
  obtain ⟨r, hr⟩ : ∃ r, Path.under p place = some r := by
    cases place with
    | none => exact ⟨_, rfl⟩
    | some q => exact ⟨_, rfl⟩
  refine ⟨path, _, htext, fun hs => Path.join_ne_empty hs place, hpath, ?_⟩
  have hbelow : Path.join (some p) (Path.join place s) = Path.join (Path.under p place) s :=
    Option.some.inj (Path.under_join hplace s)
  rw [Path.keyUnder_of_text? htext, hbelow, hr]
  exact Path.joinValue_of_text? (hparent'.trans hr) (Path.under_ne_empty hp hplace hr) hname

namespace Validation

variable {r : Registry} {p : String} {check : Check} {c : Capability}
  {value parent parent' path : Value} {field : Entries} {kind : MappingKind}

/-- The check of a field reports the same at both places. -/
def Equivariant (p : String) (check : Check) (field : Value) : Prop :=
  ∀ value name parent parent', (∃ s, name.text? = some s ∧ s ≠ "") → Rerooted p parent parent' →
    EndAlike (SeenFrom p) (check value field name parent) (check value field name parent')

/-! ## Objects -/

theorem checkFields_rerooted (hp : p ≠ "") (hparent : Rerooted p parent parent')
    {entries : Entries} : ∀ {schema : Entries} {acc acc' : ErrorSet}, NonemptyNames schema →
      (∀ e ∈ schema, Equivariant p check e.2) → SeenFrom p acc acc' →
      EndAlike (SeenFrom p) (checkFields check entries parent acc schema)
        (checkFields check entries parent' acc' schema)
  | [], _, _, _, _, hacc => .returns hacc
  | (name, _) :: rest, acc, acc', hnames, hfields, hacc => by
      obtain ⟨hname, hrest⟩ := List.forall_mem_cons.mp hnames
      obtain ⟨hfield, hothers⟩ := List.forall_mem_cons.mp hfields
      refine (hfield _ name parent parent' hname hparent).bind fun more more' hmore => ?_
      exact checkFields_rerooted hp hparent hrest hothers (hacc.merge hp hmore)

theorem checkKeys_rerooted (hp : p ≠ "") (hparent : Rerooted p parent parent')
    {schema : Entries} : ∀ {names : List Value} {acc acc' : ErrorSet}, SeenFrom p acc acc' →
      EndAlike (SeenFrom p) (checkKeys schema parent acc names)
        (checkKeys schema parent' acc' names)
  | [], _, _, hacc => .returns hacc
  | key :: rest, acc, acc', hacc => by
      rw [checkKeys, checkKeys]
      split
      · exact checkKeys_rerooted hp hparent hacc
      · have hname : (Value.text key.display).text? = some key.display := rfl
        obtain ⟨path, q, hq, -, hpath, hpath'⟩ := hparent.joinValue hp hname
        rw [hpath, hpath']
        refine .bind_same fun _ => checkKeys_rerooted hp hparent ?_
        have hput := hacc.put hp ⟨q, hq⟩ unknownProperty
        rwa [ErrorSet.messageUnder_of_head (by decide) (by decide)] at hput

theorem checkObject_rerooted (hp : p ≠ "") (hparent : Rerooted p parent parent')
    {schema : Entries} (hnames : NonemptyNames schema)
    (hfields : ∀ e ∈ schema, Equivariant p check e.2) :
    EndAlike (SeenFrom p) (checkObject check value (.mapping kind schema) parent)
      (checkObject check value (.mapping kind schema) parent') := by
  cases value with
  | mapping valueKind entries =>
      refine (checkFields_rerooted hp hparent hnames hfields .nil).bind
        fun errors errors' herrors => ?_
      exact checkKeys_rerooted hp hparent herrors
  | _ => exact .fails

/-- An object is checked with the fields that its node has. -/
theorem checkChild_rerooted (hp : p ≠ "") (hparent : Rerooted p parent parent')
    (htag : Entries.tag? field = some Capability.objectTag)
    (hnames : NonemptyNames (fields field))
    (hfields : ∀ e ∈ fields field, Equivariant p check e.2) :
    EndAlike (SeenFrom p)
      (checkObject check value ((option? field "child").getD (.dict [])) parent)
      (checkObject check value ((option? field "child").getD (.dict [])) parent') := by
  rw [fields, if_pos htag] at hnames hfields
  cases hchild : option? field "child" with
  | none =>
      exact checkObject_rerooted hp hparent (fun _ hkey => absurd hkey List.not_mem_nil)
        (List.forall_mem_nil _)
  | some child =>
      rw [hchild] at hnames hfields
      cases child with
      | mapping schemaKind schema => exact checkObject_rerooted hp hparent hnames hfields
      | _ =>
          cases value with
          | _ => exact .fails

/-! ## Arrays -/

theorem matchesAny_rerooted (hparent : Rerooted p parent parent') {element : Value} {i : Nat} :
    ∀ {choices : List Value}, (∀ choice ∈ choices, Equivariant p check choice) →
      EndAlike Eq (Matching.matchesAny check element i parent choices)
        (Matching.matchesAny check element i parent' choices)
  | [], _ => .returns rfl
  | choice :: rest, hchoices => by
      obtain ⟨hchoice, hrest⟩ := List.forall_mem_cons.mp hchoices
      have hname : ∃ s, (Matching.segment i).text? = some s ∧ s ≠ "" :=
        ⟨_, rfl, Path.index_ne_empty i⟩
      rw [Matching.matchesAny, Matching.matchesAny]
      refine (hchoice element _ parent parent' hname hparent).bind ?_
      rintro errors _ ⟨-, rfl⟩
      -- a trial is only asked whether it has found anything
      rw [ErrorSet.isEmpty_under]
      split
      · exact .returns rfl
      · exact matchesAny_rerooted hparent hrest

theorem matchElements_rerooted (hp : p ≠ "") (hparent : Rerooted p parent parent')
    {choices : List Value} (hchoices : ∀ choice ∈ choices, Equivariant p check choice) :
    ∀ {elements : List Value} {i : Nat} {acc acc' : ErrorSet}, SeenFrom p acc acc' →
      EndAlike (SeenFrom p) (Matching.matchElements check choices parent i acc elements)
        (Matching.matchElements check choices parent' i acc' elements)
  | [], _, _, _, hacc => .returns hacc
  | element :: rest, i, acc, acc', hacc => by
      rw [Matching.matchElements, Matching.matchElements]
      refine (matchesAny_rerooted hparent hchoices).bind ?_
      rintro matched _ rfl
      split
      · exact matchElements_rerooted hp hparent hchoices hacc
      · have hname : (Matching.segment i).text? = some (Path.index i) := rfl
        obtain ⟨path, q, hq, -, hpath, hpath'⟩ := hparent.joinValue hp hname
        rw [lift_eq, lift_eq, hpath, hpath']
        refine matchElements_rerooted hp hparent hchoices ?_
        have hput := hacc.put hp ⟨q, hq⟩ Matching.noMatch
        rwa [ErrorSet.messageUnder_of_head (by decide) (by decide)] at hput

theorem matchArray_rerooted (hp : p ≠ "") {q : String} (hq : q ≠ "")
    (hpath : path.text? = some q) (htag : Entries.tag? field = some Capability.arrayTag)
    (hchoices : ∀ choice ∈ alternatives field, Equivariant p check choice) :
    EndAlike (SeenFrom p) (Matching.matchArray check value (.mapping kind field) path)
      (Matching.matchArray check value (.mapping kind field) (Path.keyUnder p path)) := by
  rw [alternatives_of_tag htag] at hchoices
  have hparent : Rerooted p path (Path.keyUnder p path) := rerooted_path hq hpath
  simp only [Matching.matchArray, lift_eq]
  have hpath' := Path.checkWritable_keyUnder p hpath
  cases hsequence : Capability.isSequence value with
  | false => exact .bind_same fun _ => .fails
  | true =>
      simp only [Bool.not_true, Bool.false_eq_true, if_false, ite_bind]
      refine .bind_same fun isLeftEmpty => ?_
      cases isLeftEmpty with
      | true =>
          have hempty := SeenFrom.single (p := p) ⟨q, hpath⟩ (Matching.emptyArray path)
          rw [ErrorSet.messageUnder_emptyArray] at hempty
          simp only [if_true, Value.checkWritable_of_text? hpath, hpath']
          exact .returns hempty
      | false =>
          simp only [Bool.false_eq_true, if_false]
          split
          · exact .returns .nil
          · refine .bind_same fun elements => ?_
            split
            · exact .returns .nil
            · cases hwalk : ((option? field "child").getD .null).walk with
              | error fault => exact .fails
              | ok choices =>
                  rw [Value.members_of_walk hwalk] at hchoices
                  exact matchElements_rerooted hp hparent hchoices .nil

/-! ## One level of checking -/

theorem head?_append_of_head? {s t : String} {c : Char} (h : s.toList.head? = some c) :
    (s ++ t).toList.head? = some c := by
  rw [String.toList_append, List.head?_append, h]
  rfl

theorem head?_notAnOption (options : List Value) :
    (notAnOption options).toList.head? = some 'f' :=
  head?_append_of_head? (by simp)

/-- Messages that quote no path are the same at both places. -/
theorem seenFrom_single {q message : String} (hpath : path.text? = some q)
    (hobject : message.toList.head? ≠ some 'o') (harray : message.toList.head? ≠ some 'a') :
    SeenFrom p [(path, message)] [(Path.keyUnder p path, message)] := by
  have h := SeenFrom.single (p := p) ⟨q, hpath⟩ message
  rwa [ErrorSet.messageUnder_of_head hobject harray] at h

theorem checkOption_rerooted {q : String} (hpath : path.text? = some q) :
    EndAlike (Option.Rel (SeenFrom p)) (checkOption value field path)
      (checkOption value field (Path.keyUnder p path)) := by
  unfold checkOption
  cases option? field "enum" with
  | none => exact .returns .none
  | some options =>
      cases options with
      | null => exact .returns .none
      | _ =>
          refine .bind_same fun listed => ?_
          cases listed with
          | true => exact .returns .none
          | false =>
              refine .bind_same fun items => .bind_same fun _ =>
                .returns (.some (seenFrom_single hpath ?_ ?_))
              · simp [head?_notAnOption]
              · simp [head?_notAnOption]

theorem checkParts_rerooted (hp : p ≠ "") {q : String} (hq : q ≠ "")
    (hpath : path.text? = some q) (hnames : NonemptyNames (fields field))
    (hparts : ∀ part ∈ parts field, Equivariant p check part) :
    EndAlike (SeenFrom p) (checkParts check value kind field path)
      (checkParts check value kind field (Path.keyUnder p path)) := by
  have hparent : Rerooted p path (Path.keyUnder p path) := rerooted_path hq hpath
  have hpath' := Path.checkWritable_keyUnder p hpath
  have hfields : ∀ e ∈ fields field, Equivariant p check e.2 := fun e he =>
    hparts _ (List.mem_append_left _ (List.mem_map_of_mem he))
  have hchoices : ∀ choice ∈ alternatives field, Equivariant p check choice := fun _ hmem =>
    hparts _ (List.mem_append_right _ hmem)
  unfold checkParts
  cases htype : tagOf field with
  | error fault => exact .fails
  | ok tag =>
      show EndAlike _ (if tag.text? = _ then _ else _) (if tag.text? = _ then _ else _)
      rw [← tagOf_eq_ok htype]
      by_cases hobject : Entries.tag? field = some Capability.objectTag
      · rw [if_pos hobject, if_pos hobject, ite_bind, ite_bind]
        refine .bind_same fun isLeftEmpty => ?_
        cases isLeftEmpty with
        | true =>
            have hempty := SeenFrom.single (p := p) ⟨q, hpath⟩ (emptyObject path)
            rw [ErrorSet.messageUnder_emptyObject] at hempty
            simp only [if_true, Value.checkWritable_of_text? hpath, hpath']
            exact .returns hempty
        | false => exact checkChild_rerooted hp hparent hobject hnames hfields
      · rw [if_neg hobject, if_neg hobject]
        by_cases harray : Entries.tag? field = some Capability.arrayTag
        · rw [if_pos harray, if_pos harray]
          exact matchArray_rerooted hp hq hpath harray hchoices
        · rw [if_neg harray, if_neg harray]
          exact .returns .nil

theorem checkValue_rerooted (hp : p ≠ "") {q : String} (hq : q ≠ "")
    (hpath : path.text? = some q) (hnames : NonemptyNames (fields field))
    (hparts : ∀ part ∈ parts field, Equivariant p check part) :
    EndAlike (SeenFrom p) (checkValue check c value kind field path)
      (checkValue check c value kind field (Path.keyUnder p path)) := by
  unfold checkValue
  rw [ite_bind, ite_bind]
  refine .bind_same fun isNotGiven => ?_
  cases isNotGiven with
  | true => exact .returns (seenFrom_single hpath (by decide) (by decide))
  | false =>
      refine .bind_same fun isAccepted => ?_
      cases isAccepted with
      | false => exact .returns (seenFrom_single hpath (by decide) (by decide))
      | true =>
          refine (checkOption_rerooted hpath).bind fun found found' hfound => ?_
          cases hfound with
          | some h => exact .returns h
          | none => exact checkParts_rerooted hp hq hpath hnames hparts

/-- The induction is on the levels: the parts of a node lie below its path in both runs. -/
theorem equivariant_checkWithin (hp : p ≠ "") : ∀ {levels : Nat} {field : Value},
    field.EveryObject NonemptyNames → Equivariant p (checkWithin r levels) field
  | 0, _, _ => fun _ _ _ _ _ _ => .fails
  | levels + 1, _, h => by
      intro value name parent parent' hname hparent
      obtain ⟨s, hs, hne⟩ := hname
      obtain ⟨path, q, hq, hqne, hpath, hpath'⟩ := hparent.joinValue hp hs
      cases h with
      | @node node here below =>
          rw [checkWithin, checkWithin, hpath, hpath']
          show EndAlike _ (if _ then _ else _) (if _ then _ else _)
          split
          · exact .returns .nil
          · cases r.lookup? ((option? node "type").getD .null) with
            | none =>
                dsimp only
                rw [Value.checkWritable_of_text? hq, Path.checkWritable_keyUnder p hq]
                exact .fails
            | some c =>
                exact checkValue_rerooted hp (hqne hne) hq here fun part hpart =>
                  equivariant_checkWithin hp (below part hpart)

end Validation

open Validation

/-- **Validation is equivariant in the path of the parent.** Over every registry, for
schemas whose fields have nonempty texts as names and every nonempty path `p`: below `p`
the validation of a mapping returns exactly if it returns on its own, and then it reports
the same errors in the same order, each path joined to `p`, with the same messages but for
the two that quote the path, which quote the new one. The same holds for the check of a
field under a nonempty name, also where it is run on a part of a schema with any number of
levels that suffices, and for the match of an array at a nonempty path. -/
theorem validation_equivariant (r : Registry) {p : String} (hp : p ≠ "") :
    (∀ fs value parent, fs.EveryObject NonemptyNames → parent.text? = some p → ∀ errors',
      validateObject r value (.dict fs) parent = .ok errors' ↔
        ∃ errors, validateObject r value (.dict fs) .null = .ok errors ∧
          errors' = errors.under p) ∧
    (∀ field value name parent, field.EveryObject NonemptyNames →
      (∃ s, name.text? = some s ∧ s ≠ "") → parent.text? = some p → ∀ errors',
      (validateField r value field name parent = .ok errors' ↔
        ∃ errors, validateField r value field name .null = .ok errors ∧
          errors' = errors.under p) ∧
      ∀ levels, field.nesting ≤ levels →
        (checkWithin r levels value field name parent = .ok errors' ↔
          ∃ errors, validateField r value field name .null = .ok errors ∧
            errors' = errors.under p)) ∧
    ∀ node sequence q path, (Value.dict node).EveryObject NonemptyNames →
      Entries.tag? node = some Capability.arrayTag → q ≠ "" → path.text? = some q → ∀ errors',
      validateArray r sequence (.dict node) (.text (Path.join (some p) q)) = .ok errors' ↔
        ∃ errors, validateArray r sequence (.dict node) path = .ok errors ∧
          errors' = errors.under p := by
  have hiff : ∀ {run run' : Except Fault ErrorSet}, EndAlike (SeenFrom p) run run' →
      ∀ errors', run' = .ok errors' ↔ ∃ errors, run = .ok errors ∧ errors' = errors.under p := by
    intro run run' h errors'
    cases h with
    | returns related => simp [related.2, eq_comm]
    | fails => simp
  refine ⟨?_, ?_, ?_⟩
  · intro fs value parent hfs hparent
    exact hiff (checkObject_rerooted hp (rerooted_root hparent) hfs.1 fun e he =>
      equivariant_checkWithin hp (hfs.2 e he))
  · intro field value name parent hfield hname hparent errors'
    have hcheck : Equivariant p (validateField r) field := equivariant_checkWithin hp hfield
    have hrun := hiff (hcheck value name _ _ hname (rerooted_root hparent)) errors'
    refine ⟨hrun, fun levels hlevels => ?_⟩
    rw [agreeOn_validateField hlevels]
    exact hrun
  · intro node sequence q path hnode htag hq hpath
    have hrun : EndAlike (SeenFrom p) (validateArray r sequence (.dict node) path)
        (validateArray r sequence (.dict node) (Path.keyUnder p path)) :=
      matchArray_rerooted hp hq hpath htag fun choice hchoice =>
        equivariant_checkWithin hp (hnode.of_mem_alternatives choice hchoice)
    rw [Path.keyUnder_of_text? hpath] at hrun
    exact hiff hrun

/-- An unmatched element, a list that is left empty and an unknown key, on their own and
below another path. -/
theorem validation_equivariant_lists :
    ∃ fs : Entries, fs.EveryObject NonemptyNames ∧ "p" ≠ "" ∧
      validateObject .builtin (.dict [(.text "a", .list [.int 1]), (.text "b", .list []),
          (.text "c", .null)]) (.dict fs) .null
        = .ok [(.text "a[0]", Matching.noMatch),
          (.text "b", Matching.emptyArray (.text "b")),
          (.text "c", unknownProperty)] ∧
      validateObject .builtin (.dict [(.text "a", .list [.int 1]), (.text "b", .list []),
          (.text "c", .null)]) (.dict fs) (.text "p")
        = .ok [(.text "p.a[0]", Matching.noMatch),
          (.text "p.b", Matching.emptyArray (.text "p.b")),
          (.text "p.c", unknownProperty)] := by
  have hnil : NonemptyNames [] := fun _ hkey => absurd hkey List.not_mem_nil
  have hstring : Entries.tag? [(.text "type", .text "string")] = some "string" := by
    simp [Entries.tag?, Entries.option?_cons]
  have hleaf : (Value.dict [(.text "type", .text "string")]).EveryObject NonemptyNames :=
    .leaf hstring (by decide) (by decide) hnil
  have harray : ∀ node, Entries.tag? node = some Capability.arrayTag →
      option? node "child" = some (.list [.dict [(.text "type", .text "string")]]) →
      (Value.dict node).EveryObject NonemptyNames := fun node htag hchild =>
    .array htag hchild hnil (List.forall_mem_singleton.mpr hleaf)
  have hfs : Entries.EveryObject NonemptyNames
      [(.text "a", .dict [(.text "type", .text "array"),
        (.text "child", .list [.dict [(.text "type", .text "string")]])]),
      (.text "b", .dict [(.text "type", .text "array"), (.text "required", .bool true),
        (.text "child", .list [.dict [(.text "type", .text "string")]])])] := by
    refine ⟨by simp [NonemptyNames, Entries.keys], ?_⟩
    rintro e (_ | ⟨_, _ | ⟨_, ⟨⟩⟩⟩)
    · refine harray _ ?_ ?_
      · simp [Entries.tag?, Entries.option?_cons, Capability.arrayTag]
      · simp [Entries.option?_cons]
    · refine harray _ ?_ ?_
      · simp [Entries.tag?, Entries.option?_cons, Capability.arrayTag]
      · simp [Entries.option?_cons]
  have hp : "p" ≠ "" := by decide
  obtain ⟨hobject, -⟩ := validation_equivariant .builtin hp
  have halone : validateObject .builtin (.dict [(.text "a", .list [.int 1]), (.text "b", .list []),
      (.text "c", .null)]) (.dict [(.text "a", .dict [(.text "type", .text "array"),
        (.text "child", .list [.dict [(.text "type", .text "string")]])]),
      (.text "b", .dict [(.text "type", .text "array"), (.text "required", .bool true),
        (.text "child", .list [.dict [(.text "type", .text "string")]])])]) .null
        = .ok [(.text "a[0]", Matching.noMatch),
          (.text "b", Matching.emptyArray (.text "b")),
          (.text "c", unknownProperty)] := by
    rw [Registry.builtin_eq]
    cbv
  have hkey : ∀ q, Path.keyUnder "p" (.text q) = .text (Path.join (some "p") q) :=
    fun _ => Path.keyUnder_of_text? rfl
  refine ⟨_, hfs, hp, halone, (hobject _ _ (.text "p") hfs rfl _).mpr ⟨_, halone, ?_⟩⟩
  simp only [ErrorSet.under, List.map_cons, List.map_nil, ErrorSet.messageUnder_emptyArray, hkey]
  rw [ErrorSet.messageUnder_of_head (by decide) (by decide),
    ErrorSet.messageUnder_of_head (by decide) (by decide)]
  simp [Path.join, Path.separator]

end DataShape
