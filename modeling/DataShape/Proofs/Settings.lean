import DataShape.Settings
import DataShape.Proofs.Documents

/-!
# Where settings come from

One place is looked at for a settings file: the one that the caller names, else the one
that the environment names, else the working folder. What is there decides whether the
settings are loaded; nothing at any other place does, and a file that cannot be used is a
failure that no other source makes up for. A file that can be used holds a section, which
may be empty, and the settings are what the section and the depth of the environment say.

`Consults`, `Unusable` and `Holds` say this of files and environment alone. The statements
about the program are that it fails on what is unusable, that it reads off what is held,
and that there is nothing between the two. They hold whatever texts are read as and
whatever integers the values stand for.
-/

namespace DataShape.Settings

open Entries (option? setOption keys)

variable {Node : Type}

/-! ## Sources -/

section

variable (reader : Reader Node) (files : Files) (env : Environment)

/-- The file that is consulted. The one in the working folder is, if it is there. -/
inductive Consults : (path? : Option String) → (path : String) → Prop
  | argument {path : String} : Consults (some path) path
  | environment {path : String} (set : env.value? fileVariable = some path) : Consults none path
  | workingFolder (unset : env.value? fileVariable = none)
      (there : (files defaultFile).isSome) : Consults none defaultFile

/-- The file at a path holds a document. -/
def Reads (path : String) (document : Node) : Prop :=
  ∃ content, files (FilePath.normal path) = some (.file content) ∧
    reader.read (Files.unifyLines content.toList) = .ok document

/-- The file at a path holds a mapping that does not count as false. -/
structure ReadsMapping (path : String) (document : Node) (entries : List (Value × Node)) :
    Prop where
  reads : Reads reader files path document
  filled : reader.isTrue document = true
  mapping : reader.entries? document = some entries

/-- What is at a path is no settings file, and the problem with it. -/
inductive Unusable (path : String) : (problem : Problem) → Prop
  | missing (nothing : files (FilePath.normal path) = none) :
      Unusable path (.missing (FilePath.normal path))
  | folder (folder : files (FilePath.normal path) = some .folder) :
      Unusable path (.folder (FilePath.normal path))
  | malformed {content : String} (file : files (FilePath.normal path) = some (.file content))
      (refused : reader.read (Files.unifyLines content.toList) = .error .malformed) :
      Unusable path (.unreadable (FilePath.normal path))
  | unread {content : String} {problem : Yaml.Problem}
      (file : files (FilePath.normal path) = some (.file content))
      (refused : reader.read (Files.unifyLines content.toList) = .error problem)
      (wellFormed : problem ≠ .malformed) : Unusable path (.yaml problem)
  | noMapping {document : Node} (reads : Reads reader files path document)
      (filled : reader.isTrue document = true) (other : reader.entries? document = none) :
      Unusable path (.notMapping (FilePath.normal path))
  | noSection {document v : Node} {entries : List (Value × Node)}
      (reads : ReadsMapping reader files path document entries)
      (found : option? entries sectionKey = some v) (filled : reader.isTrue v = true)
      (other : reader.entries? v = none) :
      Unusable path (.sectionNotMapping (FilePath.normal path))

/-- The options in the section of a settings file. A document or a section that counts as
false holds none. -/
inductive Holds (path : String) : (options : List (Value × Node)) → Prop
  | emptyDocument {document : Node} (reads : Reads reader files path document)
      (empty : reader.isTrue document = false) : Holds path []
  | emptySection {document : Node} {entries : List (Value × Node)}
      (reads : ReadsMapping reader files path document entries)
      (empty : ∀ v, option? entries sectionKey = some v → reader.isTrue v = false) :
      Holds path []
  | options {document v : Node} {entries options : List (Value × Node)}
      (reads : ReadsMapping reader files path document entries)
      (found : option? entries sectionKey = some v) (filled : reader.isTrue v = true)
      (mapping : reader.entries? v = some options) : Holds path options

/-- The options that a caller is given by the consulted file; none without one. -/
inductive Grants (path? : Option String) : (options : List (Value × Node)) → Prop
  | unconsulted (none : ∀ path, ¬ Consults files env path? path) : Grants path? []
  | file {path : String} {options : List (Value × Node)} (consults : Consults files env path? path)
      (holds : Holds reader files path options) : Grants path? options

end

/-- The place where a settings file is looked for. -/
def place (env : Environment) (path? : Option String) : String :=
  path?.getD ((env.value? fileVariable).getD defaultFile)

/-- The depth that is asked for: that of the environment, else that of the options, else
the default. -/
def wantedDepth (reader : Reader Node) (env : Environment) (options : List (Value × Node)) :
    Except DepthIssue Int :=
  match env.value? depthVariable, option? options depthKey with
  | some depth, _ => reader.integer (reader.ofText depth)
  | none, some v => reader.integer v
  | none, none => .ok defaultDepth

variable {reader : Reader Node} {files files' : Files} {env env' : Environment}
  {path? : Option String} {path : String} {options : List (Value × Node)} {s : Settings}

/-! ## The consulted file -/

theorem source?_eq_some_iff :
    source? files env path? = some path ↔ Consults files env path? path := by
  unfold source?
  constructor
  · intro h
    split at h
    · cases h
      exact .argument
    · rename_i set
      cases h
      exact .environment set
    · rename_i unset
      split at h
      · rename_i there
        cases h
        exact .workingFolder unset there
      · cases h
  · intro h
    cases h with
    | argument => rfl
    | environment set => rw [set]
    | workingFolder unset there => rw [unset]; exact if_pos there

theorem Consults.unique {path' : String} (h : Consults files env path? path)
    (h' : Consults files env path? path') : path = path' :=
  Option.some.inj ((source?_eq_some_iff.mpr h).symm.trans (source?_eq_some_iff.mpr h'))

theorem Consults.eq_place (h : Consults files env path? path) : path = place env path? := by
  cases h with
  | argument => rfl
  | environment set => rw [place, set]; rfl
  | workingFolder unset there => rw [place, unset]; rfl

theorem normal_defaultFile : FilePath.normal defaultFile = defaultFile := by
  decide +kernel

/-- The environments name the same settings file, as far as the caller leaves it to them. -/
def SameVariable (path? : Option String) (env env' : Environment) : Prop :=
  path? = none → env'.value? fileVariable = env.value? fileVariable

/-- The same is found at the place where a settings file is looked for. -/
def SamePlace (path? : Option String) (env : Environment) (files files' : Files) : Prop :=
  files' (FilePath.normal (place env path?)) = files (FilePath.normal (place env path?))

theorem source?_congr (hvariable : SameVariable path? env env')
    (hplace : SamePlace path? env files files') :
    source? files' env' path? = source? files env path? := by
  unfold source?
  cases path? with
  | some path => rfl
  | none =>
      rw [hvariable rfl]
      cases hset : env.value? fileVariable with
      | some path => rfl
      | none =>
          have hdefault : files' defaultFile = files defaultFile := by
            unfold SamePlace at hplace
            rwa [place, hset, Option.getD_none, Option.getD_none, normal_defaultFile] at hplace
          dsimp only
          rw [hdefault]

theorem fileOptions_congr (hvariable : SameVariable path? env env')
    (hplace : SamePlace path? env files files') :
    fileOptions reader files' env' path? = fileOptions reader files env path? := by
  unfold fileOptions
  rw [source?_congr hvariable hplace]
  cases hsource : source? files env path? with
  | none => rfl
  | some path =>
      obtain rfl := (source?_eq_some_iff.mp hsource).eq_place
      have hread : readDocument reader files' (place env path?)
          = readDocument reader files (place env path?) := by
        unfold readDocument
        dsimp only
        rw [hplace]
      dsimp only
      rw [hread]

/-! ## What the file holds -/

theorem readDocument_eq_ok {document : Node} :
    readDocument reader files path = .ok document ↔ Reads reader files path document := by
  unfold readDocument Reads
  dsimp only
  split
  · rename_i hnone
    simp [hnone]
  · rename_i hfolder
    simp [hfolder]
  · rename_i content hcontent
    simp [hcontent, mapError_eq_ok]

section

variable {document v : Node} {entries : List (Value × Node)} {shown : String}

theorem optionsOf_of_empty (empty : reader.isTrue document = false) :
    optionsOf reader shown document = .ok [] := by
  unfold optionsOf
  rw [empty]
  rfl

theorem optionsOf_of_noMapping (filled : reader.isTrue document = true)
    (other : reader.entries? document = none) :
    optionsOf reader shown document = .error (.notMapping shown) := by
  unfold optionsOf
  rw [filled, other]
  rfl

theorem Reads.bind_eq (h : Reads reader files path document) :
    readDocument reader files path >>= optionsOf reader (FilePath.normal path)
      = optionsOf reader (FilePath.normal path) document := by
  rw [readDocument_eq_ok.mpr h]
  rfl

namespace ReadsMapping

variable (h : ReadsMapping reader files path document entries)

include h

theorem optionsOf_of_emptySection
    (empty : ∀ v, option? entries sectionKey = some v → reader.isTrue v = false) :
    optionsOf reader shown document = .ok [] := by
  cases hfound : option? entries sectionKey with
  | none => simp [optionsOf, h.filled, h.mapping, hfound]
  | some v => simp [optionsOf, h.filled, h.mapping, hfound, empty v hfound]

theorem optionsOf_of_found (found : option? entries sectionKey = some v)
    (filled : reader.isTrue v = true) (mapping : reader.entries? v = some options) :
    optionsOf reader shown document = .ok options := by
  simp [optionsOf, h.filled, h.mapping, found, filled, mapping]

theorem optionsOf_of_noSection (found : option? entries sectionKey = some v)
    (filled : reader.isTrue v = true) (other : reader.entries? v = none) :
    optionsOf reader shown document = .error (.sectionNotMapping shown) := by
  simp [optionsOf, h.filled, h.mapping, found, filled, other]

end ReadsMapping

end

/-- What is held is read off. -/
theorem Holds.bind_eq_ok (h : Holds reader files path options) :
    readDocument reader files path >>= optionsOf reader (FilePath.normal path) = .ok options := by
  cases h with
  | emptyDocument reads empty => exact reads.bind_eq.trans (optionsOf_of_empty empty)
  | emptySection reads empty =>
      exact reads.reads.bind_eq.trans (reads.optionsOf_of_emptySection empty)
  | options reads found filled mapping =>
      exact reads.reads.bind_eq.trans (reads.optionsOf_of_found found filled mapping)

/-- What is unusable fails with the problem that there is with it. -/
theorem Unusable.bind_eq_error {problem : Problem} (h : Unusable reader files path problem) :
    readDocument reader files path >>= optionsOf reader (FilePath.normal path)
      = .error problem := by
  have hstop {problem : Problem} (h : readDocument reader files path = .error problem) :
      readDocument reader files path >>= optionsOf reader (FilePath.normal path)
        = .error problem := by
    rw [h]
    rfl
  cases h with
  | missing nothing => exact hstop (by rw [readDocument, nothing])
  | folder folder => exact hstop (by rw [readDocument, folder])
  | malformed file refused =>
      refine hstop ?_
      rw [readDocument, file]
      dsimp only
      rw [refused]
      rfl
  | @unread _ problem file refused wellFormed =>
      refine hstop ?_
      rw [readDocument, file]
      dsimp only
      rw [refused]
      cases problem with
      | malformed => exact absurd rfl wellFormed
      | _ => rfl
  | noMapping reads filled other =>
      exact reads.bind_eq.trans (optionsOf_of_noMapping filled other)
  | noSection reads found filled other =>
      exact reads.reads.bind_eq.trans (reads.optionsOf_of_noSection found filled other)

/-- A mapping that is read holds options, or its section is none of settings. -/
theorem ReadsMapping.unusable_or_holds {document : Node} {entries : List (Value × Node)}
    (h : ReadsMapping reader files path document entries) :
    (∃ problem, Unusable reader files path problem) ∨
      ∃ options, Holds reader files path options := by
  cases hfound : option? entries sectionKey with
  | none => exact .inr ⟨[], .emptySection h fun v hv => by simp [hfound] at hv⟩
  | some v =>
      cases hfilled : reader.isTrue v with
      | false =>
          refine .inr ⟨[], .emptySection h fun w hw => ?_⟩
          obtain rfl : v = w := Option.some.inj (hfound.symm.trans hw)
          exact hfilled
      | true =>
          cases hmapping : reader.entries? v with
          | none => exact .inl ⟨_, .noSection h hfound hfilled hmapping⟩
          | some options => exact .inr ⟨options, .options h hfound hfilled hmapping⟩

/-- A document that is read holds options, or it is none of settings. -/
theorem Reads.unusable_or_holds {document : Node} (h : Reads reader files path document) :
    (∃ problem, Unusable reader files path problem) ∨
      ∃ options, Holds reader files path options := by
  cases hfilled : reader.isTrue document with
  | false => exact .inr ⟨[], .emptyDocument h hfilled⟩
  | true =>
      cases hmapping : reader.entries? document with
      | none => exact .inl ⟨_, .noMapping h hfilled hmapping⟩
      | some entries => exact ReadsMapping.unusable_or_holds ⟨h, hfilled, hmapping⟩

theorem unusable_or_holds (reader : Reader Node) (files : Files) (path : String) :
    (∃ problem, Unusable reader files path problem) ∨
      ∃ options, Holds reader files path options := by
  cases hentry : files (FilePath.normal path) with
  | none => exact .inl ⟨_, .missing hentry⟩
  | some entry =>
      cases entry with
      | folder => exact .inl ⟨_, .folder hentry⟩
      | file content =>
          cases hread : reader.read (Files.unifyLines content.toList) with
          | error problem =>
              by_cases hmalformed : problem = .malformed
              · exact .inl ⟨_, .malformed hentry (hmalformed ▸ hread)⟩
              · exact .inl ⟨_, .unread hentry hread hmalformed⟩
          | ok document => exact Reads.unusable_or_holds ⟨content, hentry, hread⟩

theorem unusable_or_grants (reader : Reader Node) (files : Files) (env : Environment)
    (path? : Option String) :
    (∃ path problem, Consults files env path? path ∧ Unusable reader files path problem) ∨
      ∃ options, Grants reader files env path? options := by
  cases hsource : source? files env path? with
  | none =>
      refine .inr ⟨[], .unconsulted fun path hconsults => ?_⟩
      simp [source?_eq_some_iff.mpr hconsults] at hsource
  | some path =>
      have hconsults := source?_eq_some_iff.mp hsource
      rcases unusable_or_holds reader files path with ⟨problem, hunusable⟩ | ⟨options, hholds⟩
      · exact .inl ⟨path, problem, hconsults, hunusable⟩
      · exact .inr ⟨options, .file hconsults hholds⟩

theorem Grants.fileOptions_eq_ok (h : Grants reader files env path? options) :
    fileOptions reader files env path? = .ok options := by
  unfold fileOptions
  cases h with
  | unconsulted none =>
      cases hsource : source? files env path? with
      | none => rfl
      | some path => exact absurd (source?_eq_some_iff.mp hsource) (none path)
  | file consults holds =>
      rw [source?_eq_some_iff.mpr consults]
      exact holds.bind_eq_ok

/-! ## Options as settings -/

theorem issueOfKey_eq_none_iff {key : Value} :
    issueOfKey key = none ↔ key.text? = some depthKey := by
  unfold issueOfKey
  cases key.text? with
  | none => simp
  | some name => simp

theorem isEmpty_issues_iff :
    ((keys options).filterMap issueOfKey).isEmpty = true ↔
      ∀ key ∈ keys options, key.text? = some depthKey := by
  rw [List.isEmpty_iff, List.filterMap_eq_nil_iff]
  exact forall₂_congr fun key _ => issueOfKey_eq_none_iff

theorem depthOf_eq_ok_iff {v : Node} {n : Int} :
    depthOf reader v = .ok n ↔ reader.integer v = .ok n ∧ 1 ≤ n := by
  unfold depthOf
  rw [bind_eq_ok]
  constructor
  · rintro ⟨m, hm, h⟩
    split at h
    · cases h
    · obtain rfl := pure_eq_ok.mp h
      exact ⟨hm, by omega⟩
  · rintro ⟨hn, hpositive⟩
    refine ⟨n, hn, ?_⟩
    rw [if_neg (by omega)]
    rfl

/-- Options are settings if no option but the depth is among them, and the depth is a
positive number. An absent depth is as good as the default one. -/
theorem ofOptions_eq_ok_iff :
    ofOptions reader options = .ok s ↔ (∀ key ∈ keys options, key.text? = some depthKey) ∧
      (match option? options depthKey with
        | some v => reader.integer v
        | none => .ok defaultDepth) = .ok s.maxDepth ∧ 1 ≤ s.maxDepth := by
  obtain ⟨depth⟩ := s
  rw [← isEmpty_issues_iff]
  unfold ofOptions
  generalize (keys options).filterMap issueOfKey = issues
  cases option? options depthKey with
  | none =>
      cases issues with
      | nil =>
          simp only [List.isEmpty_nil, if_true, Except.ok.injEq, Settings.mk.injEq, true_and]
          exact ⟨fun h => ⟨h, h ▸ by decide⟩, fun h => h.1⟩
      | cons issue rest => simp
  | some v =>
      simp only [← depthOf_eq_ok_iff]
      cases depthOf reader v with
      | error issue => simp
      | ok n => cases issues <;> simp

/-- The options with the depth of the environment in the place of theirs. -/
def overridden (reader : Reader Node) (env : Environment) (options : List (Value × Node)) :
    List (Value × Node) :=
  match env.value? depthVariable with
  | some depth => setOption options depthKey (reader.ofText depth)
  | none => options

theorem wantedDepth_eq (reader : Reader Node) (env : Environment)
    (options : List (Value × Node)) :
    (match option? (overridden reader env options) depthKey with
      | some v => reader.integer v
      | none => .ok defaultDepth) = wantedDepth reader env options := by
  unfold wantedDepth overridden
  cases env.value? depthVariable with
  | none => cases option? options depthKey <;> rfl
  | some depth =>
      dsimp only
      rw [Entries.option?_setOption_self]

theorem forall_keys_overridden (reader : Reader Node) (env : Environment)
    (options : List (Value × Node)) :
    (∀ key ∈ keys (overridden reader env options), key.text? = some depthKey) ↔
      ∀ key ∈ keys options, key.text? = some depthKey := by
  unfold overridden
  cases env.value? depthVariable with
  | none => exact Iff.rfl
  | some depth =>
      dsimp only
      rw [Entries.keys_setOption]
      split
      · exact Iff.rfl
      · constructor
        · intro h key hkey
          exact h key (List.mem_append_left _ hkey)
        · intro h key hkey
          rcases List.mem_append.mp hkey with hkey | hkey
          · exact h key hkey
          · obtain rfl := List.mem_singleton.mp hkey
            rfl

theorem loadWith_eq_ok_iff (h : fileOptions reader files env path? = .ok options) :
    loadWith reader files env path? = .ok s ↔
      (∀ key ∈ keys options, key.text? = some depthKey) ∧
        wantedDepth reader env options = .ok s.maxDepth ∧ 1 ≤ s.maxDepth ∧
          Text.isTooLong s.maxDepth = false := by
  have hload : loadWith reader files env path?
      = (ofOptions reader (overridden reader env options)).mapError .invalid >>= fun settings =>
        if Text.isTooLong settings.maxDepth then .error .tooLong else .ok settings := by
    unfold loadWith
    rw [h]
    rfl
  rw [hload, ← wantedDepth_eq, ← forall_keys_overridden reader env, bind_eq_ok]
  constructor
  · rintro ⟨settings, hsettings, htold⟩
    split at htold
    · cases htold
    · rename_i hlong
      cases htold
      obtain ⟨hkeys, hdepth, hpos⟩ := ofOptions_eq_ok_iff.mp (mapError_eq_ok.mp hsettings)
      exact ⟨hkeys, hdepth, hpos, by simpa using hlong⟩
  · rintro ⟨hkeys, hdepth, hpos, hlong⟩
    exact ⟨s, mapError_eq_ok.mpr (ofOptions_eq_ok_iff.mpr ⟨hkeys, hdepth, hpos⟩),
      if_neg (by simp [hlong])⟩

theorem loadWith_eq_error {problem : Problem}
    (h : fileOptions reader files env path? = .error problem) :
    loadWith reader files env path? = .error problem := by
  unfold loadWith
  rw [h]
  rfl

theorem loadWith_congr (hvariable : SameVariable path? env env')
    (hplace : SamePlace path? env files files')
    (hdepth : env'.value? depthVariable = env.value? depthVariable) :
    loadWith reader files' env' path? = loadWith reader files env path? := by
  unfold loadWith
  rw [fileOptions_congr hvariable hplace, hdepth]

/-- **One source, and no other in its place.** Whatever texts are read as and whatever
integers values stand for, whatever the files and the environment, and whether or not the
caller names a file:

* one file at most is consulted, and all other files make no difference, nor does what
  the environment names where the caller names a file;
* if the consulted file is unusable, the problem with it is the result, whatever the other
  files hold and whatever depth the environment asks for;
* otherwise options are held, perhaps none, and there are settings exactly if no option
  but the depth is among them and the depth that is asked for is a positive integer which
  can be told; it is then the depth of the settings. -/
theorem load_from_one_source (reader : Reader Node) (files : Files) (env : Environment)
    (path? : Option String) :
    (∀ path path', Consults files env path? path → Consults files env path? path' →
      path = path') ∧
    (∀ files' env', SamePlace path? env files files' → SameVariable path? env env' →
      env'.value? depthVariable = env.value? depthVariable →
      loadWith reader files' env' path? = loadWith reader files env path?) ∧
    (∀ path problem, Consults files env path? path → Unusable reader files path problem →
      ∀ files' env', SamePlace path? env files files' → SameVariable path? env env' →
        loadWith reader files' env' path? = .error problem) ∧
    ((∃ path problem, Consults files env path? path ∧ Unusable reader files path problem) ∨
      ∃ options, Grants reader files env path? options) ∧
    ∀ options, Grants reader files env path? options → ∀ s : Settings,
      (loadWith reader files env path? = .ok s ↔
        (∀ key ∈ keys options, key.text? = some depthKey) ∧
          wantedDepth reader env options = .ok s.maxDepth ∧ 1 ≤ s.maxDepth ∧
            Text.isTooLong s.maxDepth = false) := by
  refine ⟨fun path path' h h' => h.unique h',
    fun files' env' hplace hvariable hdepth => loadWith_congr hvariable hplace hdepth, ?_,
    unusable_or_grants reader files env path?,
    fun options h s => loadWith_eq_ok_iff h.fileOptions_eq_ok⟩
  intro path problem hconsults hunusable files' env' hplace hvariable
  refine loadWith_eq_error ?_
  rw [fileOptions_congr hvariable hplace, fileOptions, source?_eq_some_iff.mpr hconsults]
  exact hunusable.bind_eq_error

/-- There is just an empty settings file, in the working folder. -/
def onlyEmpty : Files
  | "fieldcheck.yaml" => some (.file "")
  | _ => none

/-- A file that is named and not there is missed, whatever the depth, and the file of the
working folder does not take its place. That one counts where no file is named. -/
theorem load_from_one_source_empty :
    (∀ depth, load onlyEmpty [(fileVariable, "gone.yaml"), (depthVariable, depth)] none
      = .error (.missing "gone.yaml")) ∧
    load onlyEmpty [(depthVariable, "7")] none = .ok ⟨7⟩ := by
  refine ⟨fun depth => ?_, ?_⟩
  · have hgone : FilePath.normal "gone.yaml" = "gone.yaml" := by decide +kernel
    have hunusable : Unusable Settings.reader onlyEmpty "gone.yaml"
        (.missing (FilePath.normal "gone.yaml")) :=
      .missing (congrArg onlyEmpty hgone)
    rw [hgone] at hunusable
    obtain ⟨-, -, hfails, -⟩ := load_from_one_source Settings.reader onlyEmpty
      [(fileVariable, "gone.yaml"), (depthVariable, depth)] none
    exact hfails _ _ (.environment rfl) hunusable _ _ rfl fun _ => rfl
  · have hreads : Reads Settings.reader onlyEmpty defaultFile .null :=
      ⟨"", congrArg onlyEmpty normal_defaultFile, rfl⟩
    obtain ⟨-, -, -, -, hloads⟩ :=
      load_from_one_source Settings.reader onlyEmpty [(depthVariable, "7")] none
    refine (hloads _ (.file (.workingFolder rfl rfl) (.emptyDocument hreads rfl)) ⟨7⟩).mpr ?_
    exact ⟨List.forall_mem_nil _, rfl, by decide, Text.isTooLong_of_natAbs_lt (by decide)⟩

/-- The reader of the program, to which every text asks for one depth. -/
def depthReader (n : Int) : Reader Value :=
  { Settings.reader with
    read := fun _ => .ok (.dict [(.text sectionKey, .dict [(.text depthKey, .int n)])]) }

theorem grants_depthReader (n : Int) :
    Grants (depthReader n) onlyEmpty [] none [(.text depthKey, .int n)] := by
  have hreads : ReadsMapping (depthReader n) onlyEmpty defaultFile
      (.dict [(.text sectionKey, .dict [(.text depthKey, .int n)])])
      [(.text sectionKey, .dict [(.text depthKey, .int n)])] :=
    ⟨⟨"", congrArg onlyEmpty normal_defaultFile, rfl⟩, rfl, rfl⟩
  have hfound : option? ([(.text sectionKey, .dict [(.text depthKey, .int n)])] : Entries)
      sectionKey = some (.dict [(.text depthKey, .int n)]) := by
    cbv
  exact .file (.workingFolder rfl rfl) (.options hreads hfound rfl rfl)

theorem wantedDepth_depthReader (n : Int) :
    wantedDepth (depthReader n) [] [(.text depthKey, .int n)] = .ok n := by
  cbv

/-- A positive depth is asked for, and there are no settings, as it cannot be told. -/
theorem no_settings_of_longDepth :
    Grants (depthReader Text.firstTooLong) onlyEmpty [] none
      [(.text depthKey, .int Text.firstTooLong)] ∧
    wantedDepth (depthReader Text.firstTooLong) [] [(.text depthKey, .int Text.firstTooLong)]
      = .ok (Text.firstTooLong : Int) ∧
    (1 : Int) ≤ Text.firstTooLong ∧
    ∀ s, loadWith (depthReader Text.firstTooLong) onlyEmpty [] none ≠ .ok s := by
  have hpositive : (1 : Int) ≤ Text.firstTooLong := by
    exact_mod_cast Nat.le_trans (by decide) Text.million_le_firstTooLong
  have htooLong : Text.isTooLong Text.firstTooLong = true := by simp [Text.isTooLong]
  generalize (Text.firstTooLong : Int) = n at hpositive htooLong ⊢
  refine ⟨grants_depthReader n, wantedDepth_depthReader n, hpositive, fun s hs => ?_⟩
  obtain ⟨-, hdepth, -, htold⟩ :=
    (loadWith_eq_ok_iff (grants_depthReader n).fileOptions_eq_ok).mp hs
  rw [wantedDepth_depthReader] at hdepth
  obtain rfl := Except.ok.inj hdepth
  simp [htooLong] at htold

end DataShape.Settings
