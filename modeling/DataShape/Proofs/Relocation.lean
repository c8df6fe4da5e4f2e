import DataShape.Proofs.Depth
import DataShape.Proofs.Rejection

/-!
# Compilation at another place

The path of a field is carried down through the compiler and shows up in a
rejection alone. Where a field lies below a path, its compilation ends as that of
the field on its own does, and a rejection names the same place seen from further
above. Joining paths is associative as long as no name on the way is empty; an
empty name below the root would be taken for the root itself.
-/

namespace DataShape

open Entries (option? setOption keys)

/-! ## Places below a path -/

namespace Path

variable {p : String}

theorem join_of_ne_empty (hp : p ≠ "") (name : String) :
    join (some p) name = p ++ separator name ++ name := by
  rw [join, if_neg (by simpa using hp)]

theorem join_ne_empty {name : String} (hname : name ≠ "") (path : Option String) :
    join path name ≠ "" := by
  cases path with
  | none => exact hname
  | some q =>
      by_cases hq : q = ""
      · rwa [hq, join_empty]
      · rw [join_of_ne_empty hq]
        simp [hname]

/-- What stands before a path depends on where the path begins. -/
theorem separator_append {q : String} (hq : q ≠ "") (rest : String) :
    separator (q ++ rest) = separator q := by
  have hchars : q.toList ≠ [] := by simpa using hq
  unfold separator
  rw [String.toList_append, List.head?_append_of_ne_nil _ hchars]

theorem join_join {q : String} (hq : q ≠ "") (name : String) :
    join (some (join (some p) q)) name = join (some p) (join (some q) name) := by
  by_cases hp : p = ""
  · rw [hp, join_empty, join_empty]
  · have hbegin : separator (q ++ (separator name ++ name)) = separator q :=
      separator_append hq _
    rw [join_of_ne_empty (join_ne_empty hq _), join_of_ne_empty hp, join_of_ne_empty hq,
      join_of_ne_empty hp]
    simp only [String.append_assoc, hbegin]

theorem index_ne_empty (i : Nat) : index i ≠ "" := by
  simp [index]

/-- A place seen from above the path `p` that it lies below. -/
def under (p : String) : Option String → Option String
  | none => some p
  | some q => some (join (some p) q)

/-- Going down from a place and seeing it from above commute. -/
theorem under_join {path : Option String} (hpath : path ≠ some "") (name : String) :
    under p (some (join path name)) = some (join (under p path) name) := by
  cases path with
  | none => rfl
  | some q => exact congrArg some (join_join (by simpa using hpath) name).symm

/-- A path as a value, seen from above the path `p`. -/
def valueUnder (p : String) : Value → Value
  | .null => .text p
  | .text q => .text (join (some p) q)
  | place => place

theorem toValue_under (p : String) (path : Option String) :
    toValue (under p path) = valueUnder p (toValue path) := by
  cases path with
  | none => rfl
  | some q => rfl

end Path

/-- A defect seen from above: a property that is given by its path changes with it. -/
def Defect.under (p : String) : Defect → Defect
  | .unknownProperty property => .unknownProperty (Path.join (some p) property)
  | defect => defect

/-- A fault seen from above: a rejection names its place from there. -/
def Fault.under (p : String) : Fault → Fault
  | .rejected defect place => .rejected (defect.under p) (Path.valueUnder p place)
  | fault => fault

/-- Every key is a text with at least one character. -/
def NonemptyNames (entries : Entries) : Prop :=
  ∀ key ∈ keys entries, ∃ name, key.text? = some name ∧ name ≠ ""

theorem NonemptyNames.setOption {entries : Entries} (h : NonemptyNames entries)
    {name : String} (hname : name ≠ "") (v : Value) :
    NonemptyNames (setOption entries name v) := by
  intro key hkey
  rw [Entries.keys_setOption] at hkey
  split at hkey
  · exact h key hkey
  · rcases List.mem_append.mp hkey with hkey | hkey
    · exact h key hkey
    · exact ⟨name, by rw [List.mem_singleton.mp hkey]; rfl, hname⟩

/-- A run whose fault is changed, step by step. -/
theorem mapError_bind {ε ε' α β : Type} {g : ε → ε'} {x : Except ε α} {f : α → Except ε β} :
    (x >>= f).mapError g = x.mapError g >>= fun a => (f a).mapError g := by
  cases x with
  | error fault => rfl
  | ok a => rfl

namespace Compilation

/-! ## The checks of one node -/

section

variable {p : String} {path : Option String} {c : Capability} {field : Entries}

theorem reject_under {α : Type} (p : String) (path : Option String) (defect : Defect) :
    (reject (Path.under p path) (defect.under p) : Except Fault α)
      = (reject path defect).mapError (Fault.under p) := by
  rw [reject, Path.toValue_under]
  rfl

theorem propertyPath_of_text? {property : Value} {name : String}
    (h : property.text? = some name) (path : Option String) :
    propertyPath path property = .ok (Path.join path name) := by
  cases path with
  | none =>
      show (property.checkWritable >>= fun _ => Except.ok property.filled) = _
      rw [Value.checkWritable_of_text? h, Value.filled_of_text? h]
      rfl
  | some q =>
      by_cases hq : q = ""
      · subst hq
        show (property.checkWritable >>= fun _ => Except.ok property.filled) = _
        rw [Value.checkWritable_of_text? h, Value.filled_of_text? h, Path.join_empty]
        rfl
      · have htrue : (Value.text q).isTrue = true := by simpa [Value.isTrue] using hq
        simp only [propertyPath, Path.toValue, Path.joinValue, htrue, h]
        rw [Path.join_of_ne_empty hq]
        rfl

theorem checkProperties_under (hpath : path ≠ some "")
    (hnames : NonemptyNames field) :
    checkProperties c (Path.under p path) field
      = (checkProperties c path field).mapError (Fault.under p) := by
  induction field with
  | nil => rfl
  | cons e rest ih =>
      obtain ⟨⟨name, hname, -⟩, hrest⟩ := List.forall_mem_cons.mp hnames
      rw [checkProperties, checkProperties]
      split
      · exact ih hrest
      · rw [propertyPath_of_text? hname, propertyPath_of_text? hname]
        have hjoin : Path.join (some p) (Path.join path name)
            = Path.join (Path.under p path) name :=
          Option.some.inj (Path.under_join hpath name)
        show reject _ (.unknownProperty (Path.join (Path.under p path) name)) = _
        rw [← hjoin]
        exact reject_under p path (.unknownProperty (Path.join path name))

theorem checkRequired_under :
    checkRequired (Path.under p path) field
      = (checkRequired path field).mapError (Fault.under p) := by
  unfold checkRequired
  split
  · rfl
  · rfl
  · exact reject_under p path (.notBoolean "required")

/-- A span without seconds is no defect of a schema. -/
theorem Capability.under_of_noSeconds? {v : Value} {fault : Fault}
    (h : Capability.noSeconds? v = some fault) : fault.under p = fault := by
  unfold Capability.noSeconds? at h
  repeat' split at h
  all_goals
    cases h
    try rfl

/-- The verdict of a built-in type on a value rejects no schema. -/
theorem accepts_under (hc : c ∈ Capability.builtins) (v : Value) :
    (c.accepts v field).mapError (Fault.under p) = c.accepts v field := by
  cases hc using Capability.builtins_cases with
  | string =>
      simp only [Capability.string]
      cases v.text? with
      | none => rfl
      | some s =>
          dsimp only
          unfold Capability.passesTest
          repeat' split
          all_goals rfl
  | date =>
      simp only [Capability.date]
      cases hseconds : Capability.noSeconds? v with
      | none => rfl
      | some fault => exact congrArg Except.error (Capability.under_of_noSeconds? hseconds)
  | _ => rfl

theorem checkOptions_under (hc : c ∈ Capability.builtins) {options : List Value} {i : Nat} :
    checkOptions c (Path.under p path) field i options
      = (checkOptions c path field i options).mapError (Fault.under p) := by
  induction options generalizing i with
  | nil => rfl
  | cons v rest ih =>
      rw [checkOptions, checkOptions, mapError_bind, accepts_under hc]
      congr 1
      funext accepted
      cases accepted with
      | true => exact ih
      | false => exact reject_under p path (.enumMismatch i)

theorem checkListed_under {options : List Value} :
    checkListed .builtin (Path.under p path) field options
      = (checkListed .builtin path field options).mapError (Fault.under p) := by
  unfold checkListed
  split
  · rfl
  · split
    · rename_i c _ hlookup
      obtain ⟨tag, -, hregistered⟩ := Option.bind_eq_some_iff.mp hlookup
      exact checkOptions_under (Registry.of_capability?_builtin hregistered).1
    · rfl
    · rfl

theorem checkEnum_under :
    checkEnum .builtin (Path.under p path) field
      = (checkEnum .builtin path field).mapError (Fault.under p) := by
  unfold checkEnum
  split
  · rfl
  · rw [mapError_bind, checkListed_under]
    rfl
  · exact reject_under p path .enumNotList

theorem compileTest_under :
    Capability.compileTest field (Path.under p path)
      = (Capability.compileTest field path).mapError (Fault.under p) := by
  unfold Capability.compileTest
  split
  · rfl
  · rfl
  · split
    · exact reject_under p path .testNotPattern
    · split
      · rfl
      · exact reject_under p path (.badTest _)
      · rfl

theorem checkField_type_under (hc : c ∈ Capability.builtins) :
    c.checkField field (Path.under p path)
      = (c.checkField field path).mapError (Fault.under p) := by
  cases hc using Capability.builtins_cases with
  | string => exact compileTest_under
  | number =>
      simp only [Capability.number]
      split
      · rfl
      · rfl
      · exact reject_under p path (.notBoolean "coerce")
  | _ => rfl

theorem checkField_under (hpath : path ≠ some "")
    (hc : c ∈ Capability.builtins) (hnames : NonemptyNames field) :
    checkField .builtin c (Path.under p path) field
      = (checkField .builtin c path field).mapError (Fault.under p) := by
  unfold checkField
  rw [mapError_bind, checkProperties_under hpath hnames]
  congr 1
  funext _
  rw [mapError_bind, checkRequired_under]
  congr 1
  funext _
  rw [mapError_bind, checkField_type_under hc]
  congr 1
  funext kept
  exact checkEnum_under

/-! ## The parts of a node -/

/-- Compiling a raw field at a place and at the place seen from above end alike. -/
def Relocates (p : String) (compile : FieldCompiler) (raw : Value) : Prop :=
  ∀ path, path ≠ some "" →
    compile (Path.under p path) raw = (compile path raw).mapError (Fault.under p)

variable {compile : FieldCompiler}

theorem compileFields_under (hpath : path ≠ some "") {entries : Entries}
    (hnames : NonemptyNames entries) (h : ∀ e ∈ entries, Relocates p compile e.2) :
    compileFields compile (Path.under p path) entries
      = (compileFields compile path entries).mapError (Fault.under p) := by
  induction entries with
  | nil => rfl
  | cons e rest ih =>
      obtain ⟨name, raw⟩ := e
      obtain ⟨⟨s, hs, hne⟩, hrestNames⟩ := List.forall_mem_cons.mp hnames
      obtain ⟨hraw, hrest⟩ := List.forall_mem_cons.mp h
      have hplace : some (Path.join path name.display) ≠ some "" := by
        rw [Value.display_of_text? hs]
        simpa using Path.join_ne_empty hne path
      rw [compileFields, compileFields, Value.checkWritable_of_text? hs, ← Path.under_join hpath,
        hraw _ hplace]
      show ((compile (some (Path.join path name.display)) raw).mapError (Fault.under p) >>= _)
        = (compile (some (Path.join path name.display)) raw >>= _).mapError (Fault.under p)
      rw [mapError_bind]
      congr 1
      funext field
      rw [mapError_bind, ih hrestNames hrest]
      rfl

theorem compileAlternatives_under (hpath : path ≠ some "")
    {items : List Value} {i : Nat} (h : ∀ raw ∈ items, Relocates p compile raw) :
    compileAlternatives compile (Path.under p path) i items
      = (compileAlternatives compile path i items).mapError (Fault.under p) := by
  induction items generalizing i with
  | nil => rfl
  | cons raw rest ih =>
      obtain ⟨hraw, hrest⟩ := List.forall_mem_cons.mp h
      have hplace : some (Path.join path (Path.index i)) ≠ some "" := by
        simpa using Path.join_ne_empty (Path.index_ne_empty i) path
      rw [compileAlternatives, compileAlternatives, mapError_bind, ← Path.under_join hpath,
        hraw _ hplace]
      congr 1
      funext field
      rw [mapError_bind, ih hrest]
      rfl

theorem compileChildren_under (hpath : path ≠ some "") {tag : String}
    (hnames : NonemptyNames (formFields field))
    (hparts : ∀ part ∈ formParts field, Relocates p compile part) :
    compileChildren compile (Path.under p path) tag field
      = (compileChildren compile path tag field).mapError (Fault.under p) := by
  unfold compileChildren
  by_cases hobject : tag = Capability.objectTag
  · rw [if_pos hobject, if_pos hobject]
    have hfields : ∀ e ∈ formFields field, Relocates p compile e.2 := fun e he =>
      hparts _ (List.mem_append_left _ (List.mem_map_of_mem he))
    unfold formFields at hnames hfields
    cases hchild : (option? field "child").getD (.dict []) with
    | mapping kind entries =>
        rw [hchild] at hnames hfields
        have hrun : compileFields compile (Path.under p path) entries
            = (compileFields compile path entries).mapError (Fault.under p) :=
          compileFields_under hpath hnames hfields
        show (compileFields compile (Path.under p path) entries >>= fun fs => _)
          = (compileFields compile path entries >>= fun fs => _).mapError _
        rw [mapError_bind, hrun]
        rfl
    | _ => exact reject_under p path .childNotMapping
  · rw [if_neg hobject, if_neg hobject]
    by_cases harray : tag = Capability.arrayTag
    · rw [if_pos harray, if_pos harray]
      have halternatives : ∀ raw ∈ formAlternatives field, Relocates p compile raw :=
        fun raw hraw => hparts raw (List.mem_append_right _ hraw)
      unfold formAlternatives at halternatives
      cases hchild : (option? field "child").getD (.list []) with
      | sequence kind items =>
          rw [hchild] at halternatives
          have hrun : compileAlternatives compile (Path.under p path) 0 items
              = (compileAlternatives compile path 0 items).mapError (Fault.under p) :=
            compileAlternatives_under hpath halternatives
          show (compileAlternatives compile (Path.under p path) 0 items >>= fun vs => _)
            = (compileAlternatives compile path 0 items >>= fun vs => _).mapError _
          rw [mapError_bind, hrun]
          rfl
      | _ => exact reject_under p path .childNotList
    · rw [if_neg harray, if_neg harray]
      rfl

end

/-! ## All levels -/

section

variable {p : String} {limit : Int} {raw : Value} {form : Entries}

theorem nonemptyNames_form {r : Registry} (hform : expand? r raw = some form)
    (hraw : raw.EveryMapping NonemptyNames) : NonemptyNames form := by
  have hshort : ∀ entries : Entries, (∀ key ∈ keys entries, key = .text "type" ∨
      key = .text "child") → NonemptyNames entries := by
    intro entries hkeys key hkey
    rcases hkeys key hkey with rfl | rfl
    · exact ⟨"type", rfl, by decide⟩
    · exact ⟨"child", rfl, by decide⟩
  unfold expand? at hform
  split at hform
  · cases hform
    exact hshort _ (by simp [keys])
  · split at hform
    · cases hform
      exact hshort _ (by simp [keys])
    · split at hform
      · cases hform
        exact (Value.EveryMapping.mapping_iff.mp hraw).1
      · cases hform
        exact hshort _ (by simp [keys])
    · simp at hform

theorem nonemptyNames_parts {compile : FieldCompiler} {path : Option String} {tag : String}
    {field parts : Entries} (hnames : NonemptyNames field)
    (h : compileChildren compile path tag field = .ok parts) : NonemptyNames parts := by
  rcases compileChildren_cases h with ⟨-, fs, rfl⟩ | ⟨-, items, rfl⟩ | ⟨-, -, rfl⟩
  · exact hnames.setOption (by decide) _
  · exact hnames.setOption (by decide) _
  · exact hnames

theorem rejectDepth_under {α : Type} (p : String) (path : Option String) :
    (rejectDepth (Path.under p path) limit : Except Fault α)
      = (rejectDepth path limit).mapError (Fault.under p) := by
  unfold rejectDepth
  split
  · rfl
  · exact reject_under p path (.tooDeep limit)

/-- The induction is on the levels: a part lies below the place that the node does. -/
theorem relocates_compileField : ∀ {levels : Nat} {raw : Value},
    raw.EveryMapping NonemptyNames → Relocates p (compileField .builtin limit levels) raw
  | 0, _, _ => fun path _ => rejectDepth_under p path
  | levels + 1, raw, hraw => by
      intro path hpath
      rw [compileField, compileField]
      cases hexpand : expand? .builtin raw with
      | none => exact reject_under p path .unknownType
      | some form =>
          dsimp only
          cases hresolve : Registry.builtin.resolve? ((option? form "type").getD .null) with
          | none => exact reject_under p path .unknownType
          | some tag =>
              dsimp only
              cases hregistered : Registry.builtin.capability? tag with
              | none => exact reject_under p path .unknownType
              | some c =>
                  obtain ⟨hc, rfl⟩ := Registry.of_capability?_builtin hregistered
                  have hchild : ∀ child, option? form "child" = some child →
                      child.EveryMapping NonemptyNames :=
                    fun _ => everyMapping_child hexpand hraw
                  have hnames : NonemptyNames (setOption form "type" (.text c.name)) :=
                    (nonemptyNames_form hexpand hraw).setOption (by decide) _
                  have hother : option? (setOption form "type" (.text c.name)) "child"
                      = option? form "child" :=
                    Entries.option?_setOption_of_ne _ _ (by decide)
                  rw [← hother] at hchild
                  have hbelow := everyMapping_of_mem_formParts hchild
                  have hnil : NonemptyNames [] := fun _ hkey => absurd hkey List.not_mem_nil
                  dsimp only
                  rw [mapError_bind, compileChildren_under hpath
                    (formFields_of_everyMapping hnil hchild)
                    fun part hpart => relocates_compileField (hbelow part hpart)]
                  -- the checks follow only where the parts are compiled
                  cases hparts : compileChildren (compileField .builtin limit levels) path c.name
                    (setOption form "type" (.text c.name)) with
                  | error fault => rfl
                  | ok parts =>
                      exact checkField_under hpath hc (nonemptyNames_parts hnames hparts)

/-! ## A field on its own -/

/-- Compiles a field on its own, and names the place of a rejection from above where the
field lies below a path. -/
def compileAlone (limit : Int) (levels : Nat) : FieldCompiler
  | none, raw => compileField .builtin limit levels none raw
  | some p, raw => (compileField .builtin limit levels none raw).mapError (Fault.under p)

theorem compileField_eq_compileAlone {levels : Nat} (hraw : raw.EveryMapping NonemptyNames) :
    SameOn (compileField .builtin limit levels) (compileAlone limit levels) raw
  | none => rfl
  | some _ => relocates_compileField hraw none nofun

theorem compileLevel_compileAlone {levels : Nat} (hraw : raw.EveryMapping NonemptyNames)
    (path : Option String) :
    compileField .builtin limit (levels + 1) path raw
      = compileLevel .builtin (compileAlone limit levels) path raw := by
  rw [compileField_succ]
  refine compileLevel_of_sameOn fun form hform part hpart => compileField_eq_compileAlone ?_
  exact everyMapping_of_mem_formParts (fun _ => everyMapping_child hform hraw) part hpart

/-- A property without a path rejects nothing. -/
theorem failsOnly_propertyPath {path : Option String} {property : Value} :
    FailsOnly (propertyPath path property) fun fault => fault.kind ≠ .schema := by
  have hwritable : ∀ v : Value, FailsOnly v.checkWritable fun fault => fault.kind ≠ .schema :=
    fun _ => failsOnly_checkWritable fun _ => nofun
  have hjoin : FailsOnly (Path.joinValue (Path.toValue path) property)
      fun fault => fault.kind ≠ .schema := by
    unfold Path.joinValue
    split
    · exact .ok
    · split
      · exact (hwritable _).bind fun _ _ => .ok
      all_goals exact .error nofun
  exact hjoin.bind fun _ _ => (hwritable _).bind fun _ _ => .ok

/-- A rejection names a place in every case. -/
theorem exists_place_of_refuses {place : Option String} {node value : Value} {defect : Defect}
    (h : Refuses limit place node (.rejected defect value)) : ∃ q, value = Path.toValue q := by
  generalize hfault : Fault.rejected defect value = fault at h
  cases h with
  | rejects =>
      cases hfault
      exact ⟨place, rfl⟩
  | breaks shape breaksDown =>
      cases breaksDown with
      | name among noText placeless =>
          subst hfault
          exact absurd rfl (failsOnly_propertyPath _ placeless)
      | source => cases hfault
      | bytes => cases hfault
  | longName => cases hfault
  | longLimit => cases hfault

theorem exists_place_of_compileField {levels : Nat} {path : Option String} {defect : Defect}
    {value : Value}
    (h : compileField .builtin limit levels path raw = .error (.rejected defect value)) :
    ∃ q, value = Path.toValue q := by
  obtain ⟨place, node, -, hrefuses⟩ := failsOnly_compileField _ h
  exact exists_place_of_refuses hrefuses

end

end Compilation

open Compilation

/-- The second run ends as the first, below a path: with the same result, with a
rejection whose place is seen from above the path, or with the same other fault. -/
structure EndsUnder (p : String) (run run' : Except Fault Entries) : Prop where
  returns : ∀ out, run' = .ok out ↔ run = .ok out
  rejects : ∀ defect place, run = .error (.rejected defect place) →
    ∃ q, place = Path.toValue q ∧
      run' = .error (.rejected (defect.under p) (Path.toValue (Path.under p q)))
  fails : ∀ fault, fault.kind ≠ .schema → run = .error fault → run' = .error fault

theorem EndsUnder.of_mapError {p : String} {run run' : Except Fault Entries}
    (h : run' = run.mapError (Fault.under p))
    (hplace : ∀ defect place, run = .error (.rejected defect place) →
      ∃ q, place = Path.toValue q) : EndsUnder p run run' := by
  subst h
  refine ⟨fun out => ?_, ?_, ?_⟩
  · cases run with
    | error fault => simp [Except.mapError]
    | ok field => simp [Except.mapError]
  · rintro defect place rfl
    obtain ⟨q, rfl⟩ := hplace defect place rfl
    exact ⟨q, rfl, by rw [Path.toValue_under]; rfl⟩
  · rintro fault hkind rfl
    cases fault with
    | rejected => exact absurd rfl hkind
    | _ => rfl

/-- **Compilation is equivariant in the path.** With the built-in types, for every raw
value whose mappings have nonempty texts as keys and every limit: a field compiles below
a path exactly as on its own, to the same result, and a rejection below the path names
the path itself or, where it lay deeper, the place joined to the path. So it is with
schemas. Hence a level of a field is compiled from its parts compiled alone, each with
its rejection seen from above its position. -/
theorem compilation_equivariant (limit : Int) (p : String) {raw : Value}
    (hraw : raw.EveryMapping NonemptyNames) :
    (∀ levels, EndsUnder p (compileField .builtin limit levels none raw)
      (compileField .builtin limit levels (some p) raw)) ∧
    EndsUnder p (compileSchema .builtin limit none raw)
      (compileSchema .builtin limit (some p) raw) ∧
    (∀ levels path, compileField .builtin limit (levels + 1) path raw
      = compileLevel .builtin (compileAlone limit levels) path raw) ∧
    ∀ kind entries path, raw = .mapping kind entries →
      compileSchema .builtin limit path raw
        = compileFields (compileAlone limit limit.toNat) path entries := by
  refine ⟨fun levels => ?_, ?_, fun levels path => compileLevel_compileAlone hraw path, ?_⟩
  · exact .of_mapError (relocates_compileField hraw none nofun) fun _ _ =>
      exists_place_of_compileField
  · cases raw with
    | mapping kind entries =>
        obtain ⟨hnames, hbelow⟩ := Value.EveryMapping.mapping_iff.mp hraw
        refine .of_mapError ?_ fun defect place h => ?_
        · have hroot : (none : Option String) ≠ some "" := nofun
          exact compileFields_under hroot hnames fun e he =>
            relocates_compileField (hbelow e he)
        · rcases (refused_within limit none _).2 _ h with ⟨-, hreject⟩ |
            ⟨kind', entries', -, ⟨name, -, -, hlong⟩ | ⟨part, -, place', node, -, hrefuses⟩⟩
          · cases hreject
            exact ⟨none, rfl⟩
          · cases hlong
          · exact exists_place_of_refuses hrefuses
    | _ =>
        refine .of_mapError (reject_under p none .notMapping) fun defect place h => ?_
        cases h
        exact ⟨none, rfl⟩
  · rintro kind entries path rfl
    obtain ⟨-, hbelow⟩ := Value.EveryMapping.mapping_iff.mp hraw
    exact compileFields_of_sameOn fun e he => compileField_eq_compileAlone (hbelow e he)

/-- An unknown property three levels down, seen from above another path. -/
theorem compilation_equivariant_nested :
    ∃ raw : Value, raw.EveryMapping NonemptyNames ∧
      compileField .builtin 64 4 none raw
        = .error (.rejected (.unknownProperty "a[0].b.c") (.text "a[0].b")) ∧
      compileField .builtin 64 4 (some "p") raw
        = .error (.rejected (.unknownProperty "p.a[0].b.c") (.text "p.a[0].b")) := by
  have hinner : (Value.dict [(.text "type", .text "string"), (.text "c", .null)]).EveryMapping
      NonemptyNames := by
    refine Value.EveryMapping.mapping_iff.mpr ⟨?_, ?_⟩
    · simp [NonemptyNames, keys]
    · rintro e (_ | ⟨_, _ | ⟨_, ⟨⟩⟩⟩)
      · exact .of_leaf rfl rfl
      · exact .of_leaf rfl rfl
  have hnames : ∀ name raw, name ≠ "" → raw.EveryMapping NonemptyNames →
      (Value.dict [(.text name, raw)]).EveryMapping NonemptyNames := by
    intro name raw hname hraw
    refine Value.EveryMapping.mapping_iff.mpr ⟨?_, by simpa using hraw⟩
    simpa [NonemptyNames, keys] using hname
  have hraw : (Value.dict [(.text "a", .list [.dict [(.text "b", .dict
      [(.text "type", .text "string"), (.text "c", .null)])]])]).EveryMapping NonemptyNames := by
    refine hnames "a" _ (by decide) (Value.EveryMapping.sequence_iff.mpr ?_)
    rw [List.forall_mem_singleton]
    exact hnames "b" _ (by decide) hinner
  obtain ⟨hfield, -⟩ := compilation_equivariant 64 "p" hraw
  have halone : compileField .builtin 64 4 none (.dict [(.text "a", .list [.dict [(.text "b", .dict
      [(.text "type", .text "string"), (.text "c", .null)])]])])
        = .error (.rejected (.unknownProperty "a[0].b.c") (.text "a[0].b")) := by
    rw [Registry.builtin_eq]
    cbv
  obtain ⟨q, hq, hunder⟩ := (hfield 4).rejects _ _ halone
  obtain rfl : q = some "a[0].b" := by
    cases q with
    | none => cases hq
    | some q => rw [Value.text.inj hq]
  have hdefect : (Defect.unknownProperty "a[0].b.c").under "p"
      = .unknownProperty "p.a[0].b.c" := by
    simp [Defect.under, Path.join, Path.separator]
  have hplace : Path.toValue (Path.under "p" (some "a[0].b")) = .text "p.a[0].b" := by
    simp [Path.under, Path.toValue, Path.join, Path.separator]
  rw [hdefect, hplace] at hunder
  exact ⟨_, hraw, halone, hunder⟩

end DataShape
