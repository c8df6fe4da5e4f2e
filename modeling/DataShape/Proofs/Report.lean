import DataShape.Proofs.Failures

/-!
# The report of a check

The errors that a check returns are the failures of the value, one entry for
each, in the order of the walk. Entries are collected by merging, which loses
an entry wherever two paths are equal. Under distinct plain names that never
happens: failures stand apart from each other, positions apart have different
paths, and so every merge appends.
-/

namespace DataShape

open Entries (fields alternatives isOn keys)

/-! ## Entries that show failures -/

namespace ErrorSet

/-- The entries are the given paths and messages, one by one. -/
def Shows (errors : ErrorSet) (reports : List (String × String)) : Prop :=
  List.Forall₂ (fun e t => e.1.text? = some t.1 ∧ e.2 = t.2) errors reports

namespace Shows

variable {errors more : ErrorSet} {reports others : List (String × String)}
  {path : Value} {place : String}

theorem single (hpath : path.text? = some place) (message : String) :
    Shows [(path, message)] [(place, message)] :=
  .cons ⟨hpath, rfl⟩ .nil

theorem append (h : errors.Shows reports) (hmore : Shows more others) :
    Shows (errors ++ more) (reports ++ others) :=
  List.rel_append h hmore

theorem isEmpty_eq (h : errors.Shows reports) : errors.isEmpty = reports.isEmpty := by
  cases h with
  | nil => rfl
  | cons _ _ => rfl

/-- A path that is not there yet goes last. -/
theorem put_eq_append (h : errors.Shows reports) (hpath : path.text? = some place)
    (hfresh : place ∉ reports.map Prod.fst) (message : String) :
    errors.put path message = errors ++ [(path, message)] := by
  refine put_of_fresh message fun e he => ?_
  obtain ⟨t, ht, hplace, -⟩ := Compilation.exists_of_forall₂ h.flip he
  have hne : t.1 ≠ place := fun heq => hfresh (heq ▸ List.mem_map_of_mem ht)
  rw [Value.sameKey_of_text? hpath, hplace]
  simpa using hne

theorem put (h : errors.Shows reports) (hpath : path.text? = some place)
    (hfresh : place ∉ reports.map Prod.fst) (message : String) :
    Shows (errors.put path message) (reports ++ [(place, message)]) := by
  rw [h.put_eq_append hpath hfresh]
  exact h.append (single hpath message)

/-- Entries at new paths are appended by a merge. -/
theorem merge : ∀ {more : ErrorSet} {errors : ErrorSet}
    {reports others : List (String × String)}, errors.Shows reports →
      Shows more others → ((reports ++ others).map Prod.fst).Nodup →
      Shows (errors.merge more) (reports ++ others)
  | [], errors, reports, _, h, .nil, _ => by
      rw [List.append_nil]
      exact h
  | e :: more, errors, reports, t :: others, h, .cons he hmore, hnodup => by
      have hfresh : t.1 ∉ reports.map Prod.fst := by
        intro hmem
        rw [List.map_append, List.nodup_append] at hnodup
        exact hnodup.2.2 _ hmem _ List.mem_cons_self rfl
      -- the first entry goes last, and the rest is merged into what this gives
      have hput : Shows (errors.put e.1 e.2) (reports ++ [t]) := by
        rw [he.2]
        exact h.put he.1 hfresh t.2
      rw [List.append_cons] at hnodup ⊢
      show Shows ((errors.put e.1 e.2).merge more) _
      exact merge hput hmore hnodup

end Shows

end ErrorSet

/-! ## Paths of parts -/

/-- The value is the place as a path, where nothing and the empty text are the
root. -/
def Stands (parent : Value) (place : String) : Prop :=
  (place = "" ∧ parent.isTrue = false) ∨ (place ≠ "" ∧ parent.text? = some place)

theorem text?_of_joinValue {parent name path : Value} {place s : String}
    (hparent : Stands parent place) (hname : name.text? = some s)
    (h : Path.joinValue parent name = .ok path) :
    path.text? = some (Path.join (some place) s) := by
  unfold Path.joinValue at h
  rcases hparent with ⟨rfl, hfalse⟩ | ⟨hplace, htext⟩
  · simp only [hfalse, Bool.not_false, if_true] at h
    cases h
    rw [hname, Path.join_empty]
  · have hempty : place.isEmpty = false := by simpa using hplace
    simp only [Value.isTrue_of_text? htext, hempty, Bool.not_false, Bool.not_true,
      Bool.false_eq_true, if_false, hname, Value.filled_of_text? htext,
      Value.checkWritable_of_text? htext] at h
    cases h
    simp [Path.join, hempty]

/-- A text is a name below every parent that stands for a place. -/
theorem exists_joinValue_of_stands {parent name : Value} {place s : String}
    (hparent : Stands parent place) (hname : name.text? = some s) :
    ∃ path, Path.joinValue parent name = .ok path := by
  rcases hparent with ⟨-, hfalse⟩ | ⟨hplace, htext⟩
  · exact ⟨name, by simp [Path.joinValue, hfalse]⟩
  · have htrue : parent.isTrue = true := by
      rw [Value.isTrue_of_text? htext]
      simpa using hplace
    simp only [Path.joinValue, htrue, hname, Value.checkWritable_of_text? htext]
    exact ⟨_, rfl⟩

/-- Below a place no two of the failures have the same path. -/
def DistinctPaths (place : String) (found : List Failure) : Prop :=
  (found.map fun f => f.position.pathFrom place).Nodup

namespace DistinctPaths

variable {place : String} {found before after : List Failure} {f : Failure}

/-- Failures that stand apart have different paths. -/
theorem of_apart (happart : found.Pairwise Failure.Apart)
    (hplain : ∀ f ∈ found, f.position.IsPlain)
    (hroot : place = "" → ∀ f ∈ found, f.position.StartsWithName) :
    DistinctPaths place found := by
  refine List.pairwise_map.mpr (happart.imp_of_mem fun {f g} hf hg h heq => h.ne ?_)
  exact Position.pathFrom_injective (hplain f hf) (hplain g hg)
    (fun hplace => ⟨hroot hplace f hf, hroot hplace g hg⟩) heq

theorem left (h : DistinctPaths place (before ++ after)) : DistinctPaths place before := by
  rw [DistinctPaths, List.map_append] at h
  exact (List.nodup_append.mp h).1

theorem nodup_reports (h : DistinctPaths place found) :
    ((found.map (Failure.report place)).map Prod.fst).Nodup := by
  rw [List.map_map]
  exact h

theorem notMem_before (h : DistinctPaths place (before ++ [f] ++ after)) :
    f.position.pathFrom place ∉ (before.map (Failure.report place)).map Prod.fst := by
  have hnodup := h.left.nodup_reports
  rw [List.map_append, List.map_append] at hnodup
  exact fun hmem => (List.nodup_append.mp hnodup).2.2 _ hmem _ List.mem_cons_self rfl

end DistinctPaths

namespace Validation

/-- The errors that the check returns are the failures, at nodes with distinct
plain names. -/
def Reports (r : Registry) (check : Check) : Prop :=
  ∀ ⦃value field name parent : Value⦄ ⦃errors : ErrorSet⦄ ⦃place : String⦄ ⦃s : Segment⦄,
    check value field name parent = .ok errors → field.EveryObject Named →
    value.EveryMapping Named → Stands parent place →
    name.text? = some s.text → s.IsPlain →
    errors.Shows
      ((failures r value field).map (Failure.report (Path.join (some place) s.text)))

variable {r : Registry} {check : Check} {parent : Value} {place : String}
  {errors acc : ErrorSet}

/-! ## The parts of an object -/

theorem shows_checkFields (hc : Reports r check) (hparent : Stands parent place)
    {kind : MappingKind} {entries : Entries}
    (hvalue : (Value.mapping kind entries).EveryMapping Named) :
    ∀ {schema : Entries} {acc : ErrorSet} {before : List Failure},
      checkFields check entries parent acc schema = .ok errors → PlainKeys schema →
      (∀ e ∈ schema, e.2.EveryObject Named) →
      acc.Shows (before.map (Failure.report place)) →
      DistinctPaths place
        (before ++ fieldFailures (failures r) (.mapping kind entries) schema) →
      errors.Shows ((before ++ fieldFailures (failures r) (.mapping kind entries) schema).map
        (Failure.report place))
  | [], acc, before, h, _, _, hacc, _ => by
      rw [checkFields, Except.ok.injEq] at h
      rw [← h, fieldFailures, List.flatMap_nil, List.append_nil]
      exact hacc
  | (name, field) :: rest, acc, before, h, hplain, hnodes, hacc, hnodup => by
      rw [checkFields] at h
      obtain ⟨more, hmore, h⟩ := bind_eq_ok.mp h
      rw [fieldFailures, List.flatMap_cons, ← List.append_assoc] at hnodup ⊢
      obtain ⟨s, hs, hsplain⟩ := hplain name List.mem_cons_self
      have hdisplay : name.display = s := Value.display_of_text? hs
      have hfound := hc (s := .name name.display) hmore (hnodes _ List.mem_cons_self)
        (hvalue.part name) hparent (by rw [hs, hdisplay]; rfl) (by rw [hdisplay]; exact hsplain)
      refine shows_checkFields hc hparent hvalue h
        (fun key hkey => hplain key (List.mem_cons_of_mem _ hkey))
        (fun e he => hnodes e (List.mem_cons_of_mem _ he)) ?_ hnodup
      -- the paths so far are among all the paths, and so distinct too
      have hsofar := hnodup.left.nodup_reports
      rw [List.map_append, List.map_map] at hsofar ⊢
      exact hacc.merge hfound hsofar

theorem shows_checkKeys (hparent : Stands parent place) {schema : Entries} :
    ∀ {names : List Value} {acc : ErrorSet} {before : List Failure},
      checkKeys schema parent acc names = .ok errors →
      acc.Shows (before.map (Failure.report place)) →
      DistinctPaths place (before ++ keyFailures schema names) →
      errors.Shows ((before ++ keyFailures schema names).map (Failure.report place))
  | [], acc, before, h, hacc, _ => by
      rw [checkKeys, Except.ok.injEq] at h
      rw [← h, keyFailures, List.filter_nil, List.map_nil, List.append_nil]
      exact hacc
  | key :: rest, acc, before, h, hacc, hnodup => by
      rw [checkKeys] at h
      cases hknown : Entries.contains schema key with
      | true =>
          rw [hknown, if_pos rfl] at h
          have hskip : keyFailures schema (key :: rest) = keyFailures schema rest := by
            simp [keyFailures, hknown]
          rw [hskip] at hnodup ⊢
          exact shows_checkKeys hparent h hacc hnodup
      | false =>
          rw [hknown, if_neg Bool.false_ne_true] at h
          obtain ⟨-, -, h⟩ := bind_eq_ok.mp h
          obtain ⟨path, hpath, h⟩ := bind_eq_ok.mp h
          have hcons : keyFailures schema (key :: rest)
              = ⟨[.name key.display], .unknown⟩ :: keyFailures schema rest := by
            simp [keyFailures, hknown]
          rw [hcons, List.append_cons] at hnodup ⊢
          refine shows_checkKeys hparent h ?_ hnodup
          rw [List.map_append]
          exact hacc.put (text?_of_joinValue hparent rfl hpath) hnodup.notMem_before _

/-- The check of a mapping reports the failures in it. -/
theorem shows_checkObject (hc : Reports r check) (hparent : Stands parent place)
    {value : Value} {schema : Entries} {kind : MappingKind}
    (h : checkObject check value (.mapping kind schema) parent = .ok errors)
    (hschema : Named schema)
    (hnodes : ∀ e ∈ schema, e.2.EveryObject Named)
    (hvalue : value.EveryMapping Named) :
    errors.Shows ((objectFailures (failures r) value schema).map (Failure.report place)) := by
  -- distinct paths for the whole mapping, before any merge is looked at
  have happart : (objectFailures (failures r) value schema).Pairwise Failure.Apart :=
    pairwise_objectFailures hschema hvalue.named_entries fun e he =>
      pairwise_failures (hnodes e he) (hvalue.part e.1)
  have hplain : ∀ f ∈ objectFailures (failures r) value schema, f.position.IsPlain :=
    isPlain_of_mem_objectFailures hschema.plain hvalue.named_entries.plain fun e he =>
      isPlain_of_mem_failures (hnodes e he) (hvalue.part e.1)
  have hnodup : DistinctPaths place (objectFailures (failures r) value schema) :=
    .of_apart happart hplain fun _ f hf => startsWithName_of_mem_objectFailures hf
  cases value with
  | mapping valueKind entries =>
      rw [checkObject] at h
      obtain ⟨found, hfound, h⟩ := bind_eq_ok.mp h
      have hstart : ErrorSet.Shows [] (([] : List Failure).map (Failure.report place)) := .nil
      refine shows_checkKeys hparent h ?_ hnodup
      exact shows_checkFields hc hparent hvalue hfound hschema.plain hnodes hstart hnodup.left
  | _ => simp [checkObject] at h

/-! ## The elements of an array -/

theorem matchesAny_eq_ok (hc : Reports r check) {element path : Value} {i : Nat}
    (hpath : Stands path place) (helement : element.EveryMapping Named) :
    ∀ {choices : List Value} {b : Bool},
      Matching.matchesAny check element i path choices = .ok b →
      (∀ choice ∈ choices, choice.EveryObject Named) →
      b = !(choices.all fun choice => !(failures r element choice).isEmpty)
  | [], b, h, _ => by
      rw [Matching.matchesAny, pure_eq_ok] at h
      exact h.symm
  | choice :: rest, b, h, hnodes => by
      rw [Matching.matchesAny] at h
      obtain ⟨found, hfound, h⟩ := bind_eq_ok.mp h
      -- the errors of a trial are dropped; whether there were any is what counts
      have hempty : found.isEmpty = (failures r element choice).isEmpty := by
        have hshows := hc (s := .index i) hfound (hnodes _ List.mem_cons_self) helement
          hpath rfl trivial
        rw [hshows.isEmpty_eq, List.isEmpty_map]
      rw [hempty] at h
      rw [List.all_cons]
      cases hchoice : (failures r element choice).isEmpty with
      | true =>
          rw [hchoice, if_pos rfl, pure_eq_ok] at h
          simp [← h]
      | false =>
          rw [hchoice, if_neg Bool.false_ne_true] at h
          rw [matchesAny_eq_ok hc hpath helement h
            fun c hmem => hnodes c (List.mem_cons_of_mem _ hmem)]
          simp

theorem shows_matchElements (hc : Reports r check) {path : Value}
    (hpath : Stands path place) {choices : List Value}
    (hnodes : ∀ choice ∈ choices, choice.EveryObject Named) :
    ∀ {elements : List Value} {i : Nat} {acc : ErrorSet} {before : List Failure},
      Matching.matchElements check choices path i acc elements = .ok errors →
      (∀ element ∈ elements, element.EveryMapping Named) →
      acc.Shows (before.map (Failure.report place)) →
      DistinctPaths place (before ++ elementFailures (failures r) choices i elements) →
      errors.Shows ((before ++ elementFailures (failures r) choices i elements).map
        (Failure.report place))
  | [], i, acc, before, h, _, hacc, _ => by
      rw [Matching.matchElements, pure_eq_ok] at h
      rw [← h, elementFailures, List.zipIdx_nil, List.filter_nil, List.map_nil,
        List.append_nil]
      exact hacc
  | element :: rest, i, acc, before, h, helements, hacc, hnodup => by
      rw [Matching.matchElements] at h
      obtain ⟨found, hfound, h⟩ := bind_eq_ok.mp h
      obtain ⟨helement, hrest⟩ := List.forall_mem_cons.mp helements
      have hmatch := matchesAny_eq_ok hc hpath helement hfound hnodes
      cases found with
      | true =>
          have hskip : elementFailures (failures r) choices i (element :: rest)
              = elementFailures (failures r) choices (i + 1) rest := by
            rw [elementFailures, List.zipIdx_cons, List.filter_cons_of_neg (by simpa using hmatch)]
            rfl
          rw [if_pos rfl] at h
          rw [hskip] at hnodup ⊢
          exact shows_matchElements hc hpath hnodes h hrest hacc hnodup
      | false =>
          have hcons : elementFailures (failures r) choices i (element :: rest)
              = ⟨[.index i], .noMatch⟩ ::
                elementFailures (failures r) choices (i + 1) rest := by
            rw [elementFailures, List.zipIdx_cons, List.filter_cons_of_pos (by simpa using hmatch)]
            rfl
          rw [if_neg Bool.false_ne_true, lift_eq] at h
          obtain ⟨end_, hend, h⟩ := bind_eq_ok.mp h
          rw [hcons, List.append_cons] at hnodup ⊢
          refine shows_matchElements hc hpath hnodes h hrest ?_ hnodup
          rw [List.map_append]
          exact hacc.put (text?_of_joinValue hpath rfl hend) hnodup.notMem_before _

/-! ## All levels -/

theorem failures_of_absent {field : Entries} (hoptional : isOn field "required" = false) :
    failures r .missing (.dict field) = [] := by
  rw [failures_mapping]
  simp [isMissing, hoptional]

/-- A check that ends at one of the rungs reports the failures of the value. -/
theorem shows_of_outcome (hc : Reports r check) {value path : Value} {field : Entries}
    (hthere : (isMissing value && !isOn field "required") = false)
    (hfield : (Value.dict field).EveryObject Named) (hvalue : value.EveryMapping Named)
    (hplace : place ≠ "") (hpath : path.text? = some place)
    (h : Outcome r check value .plain field path errors) :
    errors.Shows ((failures r value (.dict field)).map (Failure.report place)) := by
  have hstands : Stands path place := Or.inr ⟨hplace, hpath⟩
  rw [failures_mapping, hthere, if_neg Bool.false_ne_true]
  cases h with
  | absent missing optional =>
      subst missing
      simp [isMissing, optional] at hthere
  | notGiven known required empty =>
      rw [ownProblem?_of_notGiven known required empty]
      exact .single hpath _
  | wrongType known given refused =>
      rw [ownProblem?_of_wrongType known given refused]
      exact .single hpath _
  | notListed known given accepted enum notNull unlisted walk =>
      rw [ownProblem?_of_notListed known given accepted enum notNull unlisted walk]
      exact .single hpath _
  | emptyObject passes tag left =>
      rw [ownProblem?_of_passes passes, if_pos left, if_pos tag]
      have hmessage : Validation.emptyObject path = Validation.emptyObject (.text place) := by
        rw [Validation.emptyObject, Value.filled_of_text? hpath]
        rfl
      rw [hmessage]
      exact .single hpath _
  | object passes tag notLeft parts =>
      rw [ownProblem?_of_passes passes, if_neg notLeft]
      dsimp only
      rw [if_pos tag]
      exact shows_checkObject hc hstands parts hfield.at_root hfield.of_mem_fields hvalue
  | emptyArray passes tag left =>
      rw [ownProblem?_of_passes passes, if_pos left, if_neg (Entries.tag?_ne_object tag),
        if_pos tag]
      have hmessage : Matching.emptyArray path = Matching.emptyArray (.text place) := by
        rw [Matching.emptyArray, Value.filled_of_text? hpath]
        rfl
      rw [hmessage]
      exact .single hpath _
  | anyElements passes tag notLeft free =>
      rw [ownProblem?_of_passes passes, if_neg notLeft]
      dsimp only
      rw [if_neg (Entries.tag?_ne_object tag)]
      -- nothing is tried without alternatives or without elements
      rcases free with hnone | hnone
      · rw [if_pos hnone]
        exact .nil
      · rw [hnone]
        split
        · exact .nil
        · exact .nil
  | array passes tag sequence notLeft bound parts =>
      rw [ownProblem?_of_passes passes, if_neg notLeft]
      dsimp only
      rw [if_neg (Entries.tag?_ne_object tag), if_neg bound]
      have hstart : ErrorSet.Shows [] (([] : List Failure).map (Failure.report place)) := .nil
      refine shows_matchElements hc hstands hfield.of_mem_alternatives parts
        (hvalue.of_mem_members sequence) hstart ?_
      exact .of_apart pairwise_elementFailures isPlain_of_mem_elementFailures
        fun hroot => absurd hroot hplace
  | leaf passes notObject notArray =>
      rw [ownProblem?_of_passes passes, if_neg notObject, if_neg notArray, ite_self]
      dsimp only
      rw [if_neg notObject, if_pos (Entries.alternatives_of_tag_ne notArray)]
      exact .nil

theorem reports_checkWithin : ∀ levels, Reports r (checkWithin r levels)
  | 0 => fun _ _ _ _ _ _ _ h => absurd h checkWithin_zero_ne_ok
  | levels + 1 => by
      intro value schema name parent errors place s h hschema hvalue hparent hname hs
      obtain ⟨kind, field, path, rfl, hpath, hoptional, houtcome⟩ := outcome_of_checkWithin h
      cases hschema with
      | node here below =>
          -- an absent value may have no usable type; it has no failures either way
          cases hthere : isMissing value && !isOn field "required" with
          | true =>
              obtain ⟨hmissing, hoff⟩ := Bool.and_eq_true_iff.mp hthere
              obtain rfl := isMissing_iff.mp hmissing
              have hrequired : isOn field "required" = false := by simpa using hoff
              rw [hoptional rfl hrequired, failures_of_absent hrequired]
              exact .nil
          | false =>
              exact shows_of_outcome (reports_checkWithin levels) hthere
                (.node here below) hvalue (Position.join_ne_empty hs)
                (text?_of_joinValue hparent hname hpath) houtcome

end Validation

/-! ## Whole schemas -/

namespace Schema

open Value.EveryMapping (mapping_iff sequence_iff of_leaf)

variable {r : Registry} {s : Schema} {value : Value}

/-- All failures of a value under a schema. -/
def failures (r : Registry) (s : Schema) (value : Value) : List Failure :=
  objectFailures (DataShape.failures r) value s.fields

theorem named_of_compile {maxDepth : Int} {raw : Value} (hr : r.Regular)
    (hraw : raw.EveryMapping DistinctKeys) (hcompile : compile r maxDepth raw = .ok s)
    (hplain : s.fields.EveryObject PlainKeys) : s.fields.EveryObject Named := by
  obtain ⟨fs, hfs, rfl⟩ := map_eq_ok.mp hcompile
  have hdistinct := Compilation.distinctKeys_of_compileSchema hr hraw hfs
  refine ⟨⟨hplain.1, hdistinct.1⟩, fun e he => ?_⟩
  exact ((hplain.2 e he).and (hdistinct.2 e he)).mono fun _ h => ⟨h.1, h.2⟩

theorem pairwise_failures (hs : s.fields.EveryObject Named)
    (hvalue : value.EveryMapping Named) : (s.failures r value).Pairwise Failure.Apart :=
  pairwise_objectFailures hs.1 hvalue.named_entries fun e he =>
    DataShape.pairwise_failures (hs.2 e he) (hvalue.part e.1)

theorem distinctPaths_failures (hs : s.fields.EveryObject Named)
    (hvalue : value.EveryMapping Named) : DistinctPaths "" (s.failures r value) :=
  .of_apart (pairwise_failures hs hvalue)
    (isPlain_of_mem_objectFailures hs.1.plain hvalue.named_entries.plain fun e he =>
      isPlain_of_mem_failures (hs.2 e he) (hvalue.part e.1))
    fun _ _ hf => startsWithName_of_mem_objectFailures hf

/-- **The errors are the failures, one for one and in their order.** No failure
is on the way to another one, no two are reported at one path, and none is lost
or made up by a merge. -/
theorem errors_eq_failures {maxDepth : Int} {raw : Value} {errors : ErrorSet}
    (hr : r.Reachable Capability.Conservative) (hraw : raw.EveryMapping DistinctKeys)
    (hcompile : compile r maxDepth raw = .ok s)
    (hplain : s.fields.EveryObject PlainKeys) (hvalue : value.EveryMapping Named)
    (h : s.errors r value .null .null = .ok errors) :
    errors.Shows ((s.failures r value).map (Failure.report "")) ∧
      (s.failures r value).Pairwise Failure.Apart ∧
      ((s.failures r value).map fun f => f.position.pathFrom "").Nodup ∧
      errors.length = (s.failures r value).length := by
  have hs := named_of_compile hr.regular hraw hcompile hplain
  have hshows : errors.Shows ((s.failures r value).map (Failure.report "")) :=
    Validation.shows_checkObject (Validation.reports_checkWithin _) (Or.inl ⟨rfl, rfl⟩)
      h hs.1 hs.2 hvalue
  refine ⟨hshows, pairwise_failures hs hvalue, distinctPaths_failures hs hvalue, ?_⟩
  rw [hshows.length_eq, List.length_map]

/-- A name that is missing, one that is not declared and an element of the
wrong type, each at its own depth. -/
theorem errors_eq_failures_nested :
    ErrorSet.Shows
      [(.text "home.city", Validation.required),
        (.text "home.street", Validation.unknownProperty), (.text "tags[1]", Matching.noMatch)]
      ((failures Registry.builtin ⟨[
          (.text "home", .dict [(.text "type", .text "object"), (.text "child", .dict
            [(.text "city", .dict [(.text "type", .text "string"),
              (.text "required", .bool true)])])]),
          (.text "tags", .dict [(.text "type", .text "array"), (.text "child", .list
            [.dict [(.text "type", .text "string")]])])], 3⟩
        (.dict [(.text "home", .dict [(.text "street", .int 1)]),
          (.text "tags", .list [.text "a", .int 1])])).map (Failure.report "")) := by
  have hraw : (Value.dict [(.text "home", .dict [(.text "city", .dict
      [(.text "type", .text "string"), (.text "required", .bool true)])]),
      (.text "tags", .list [.classObject .text])]).EveryMapping Named := by
    simp only [mapping_iff, sequence_iff, List.forall_mem_cons]
    exact ⟨.of_texts ["home", "tags"] rfl (by decide) (by decide),
      ⟨.of_texts ["city"] rfl (by decide) (by decide),
        ⟨.of_texts ["type", "required"] rfl (by decide) (by decide), of_leaf rfl rfl,
          of_leaf rfl rfl, List.forall_mem_nil _⟩, List.forall_mem_nil _⟩,
      ⟨of_leaf rfl rfl, List.forall_mem_nil _⟩, List.forall_mem_nil _⟩
  have hvalue : (Value.dict [(.text "home", .dict [(.text "street", .int 1)]),
      (.text "tags", .list [.text "a", .int 1])]).EveryMapping Named := by
    simp only [mapping_iff, sequence_iff, List.forall_mem_cons]
    exact ⟨.of_texts ["home", "tags"] rfl (by decide) (by decide),
      ⟨.of_texts ["street"] rfl (by decide) (by decide), of_leaf rfl rfl,
        List.forall_mem_nil _⟩,
      ⟨of_leaf rfl rfl, of_leaf rfl rfl, List.forall_mem_nil _⟩, List.forall_mem_nil _⟩
  have hnone : PlainKeys [] := List.forall_mem_nil _
  refine (errors_eq_failures .seeded (hraw.mono fun _ h => h.distinct)
    (show compile Registry.builtin 3 _ = .ok _ by rw [Registry.builtin_eq]; cbv) ⟨?_, ?_⟩ hvalue
    (by rw [Registry.builtin_eq]; cbv)).1
  · exact (Named.of_texts ["home", "tags"] rfl (by decide) (by decide)).plain
  · refine List.forall_mem_cons.mpr ⟨?_, List.forall_mem_singleton.mpr ?_⟩
    · refine .object (by cbv) (show _ = some (Value.dict _) by cbv) ⟨?_, ?_⟩
      · exact (Named.of_texts ["city"] rfl (by decide) (by decide)).plain
      · exact List.forall_mem_singleton.mpr
          (.leaf (show _ = some "string" by cbv) (by decide) (by decide) hnone)
    · refine .array (by cbv) (show _ = some (Value.list _) by cbv) hnone ?_
      exact List.forall_mem_singleton.mpr
        (.leaf (show _ = some "string" by cbv) (by decide) (by decide) hnone)
end Schema

end DataShape
