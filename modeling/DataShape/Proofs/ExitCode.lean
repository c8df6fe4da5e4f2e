import DataShape.Command
import DataShape.Proofs.Documents
import DataShape.Proofs.Report

/-!
# How a check ends

The program tells a document that does not match from an input that cannot be
read by the code that it ends with. A failure is reported with code 2 only if it
is of a kind that the program expects, and any other one leaves the program. So
the codes mean what they say as long as all failures are of expected kinds: the
readers find fault with the content of a text and do not break down on it, the
compiler rejects what it does not accept, and the check of a compiled schema
goes through.

The last two hold where the names and options in the schema document are texts, the
sources of its patterns are read or refused as malformed, and nothing that a message may
ask for is a number too long to be told.
-/

namespace DataShape

open Compilation (IsLegible IsTextual EveryForm)

/-! ## Texts and files that are read or refused -/

/-- The reader takes the text or finds fault with its content. -/
def Yaml.Judges (text : List Char) : Prop := FailsOnly (read text) fun p => p.kind = .value

/-- There is a file at the path, and what is in it is judged by its format. -/
def Document.IsOrdinary (files : Files) (path : String) : Prop :=
  ∃ content, files (FilePath.normal path) = some (.file content) ∧
    ∀ format, DocumentFormat.ofSuffix? (FilePath.suffix (FilePath.normal path)) = some format →
      FailsOnly (Document.read format (Files.unifyLines content.toList)) fun p => p.kind = .value

namespace Document

variable {files : Files} {path : String}

theorem failsOnly_loadFile (h : IsOrdinary files path) :
    FailsOnly (loadFile files path) fun p => p.kind = .value := by
  obtain ⟨content, hcontent, hjudged⟩ := h
  unfold loadFile
  dsimp only
  rw [hcontent]
  cases hformat : DocumentFormat.ofSuffix? (FilePath.suffix (FilePath.normal path)) with
  | none => exact .error rfl
  | some format => exact hjudged format hformat

theorem failsOnly_loadSchemaFile (h : IsOrdinary files path) :
    FailsOnly (loadSchemaFile files path) fun p => p.kind = .value := by
  refine (failsOnly_loadFile h).bind fun v _ => ?_
  unfold asSchema
  split
  · exact .ok
  · exact .error rfl

end Document

/-- The file that is consulted for settings is no folder, and the YAML in it is
judged. There may be no such file. -/
def Settings.IsOrdinary (files : Files) (env : Environment) (path? : Option String) : Prop :=
  ∀ path, source? files env path? = some path → files (FilePath.normal path) ≠ some .folder ∧
    ∀ content, files (FilePath.normal path) = some (.file content) →
      Yaml.Judges (Files.unifyLines content.toList)

namespace Settings

/-- The kind of a problem with settings that is reported. -/
def IsReported (p : Problem) : Prop := p.kind = .value ∨ p.kind = .missingFile

variable {files : Files} {env : Environment} {path? : Option String} {path : String}

theorem failsOnly_readDocument (hfolder : files (FilePath.normal path) ≠ some .folder)
    (hjudges : ∀ content, files (FilePath.normal path) = some (.file content) →
      Yaml.Judges (Files.unifyLines content.toList)) :
    FailsOnly (readDocument reader files path) IsReported := by
  unfold readDocument
  dsimp only
  split
  · exact .error (.inr rfl)
  · contradiction
  · rename_i content hcontent
    refine (hjudges content hcontent).mapError fun p hp => ?_
    split
    · exact .inl rfl
    · exact .inl hp

theorem failsOnly_optionsOf (v : Value) : FailsOnly (optionsOf reader path v) IsReported := by
  unfold optionsOf
  repeat' split
  all_goals first | exact .ok | exact .error (.inl rfl)

/-- Settings are loaded, or what is wrong with them is reported. -/
theorem failsOnly_load (h : IsOrdinary files env path?) :
    FailsOnly (load files env path?) IsReported := by
  have hoptions : FailsOnly (fileOptions reader files env path?) IsReported := by
    unfold fileOptions
    split
    · exact .ok
    · rename_i path hpath
      obtain ⟨hfolder, hjudges⟩ := h path hpath
      exact (failsOnly_readDocument hfolder hjudges).bind fun v _ => failsOnly_optionsOf v
  refine hoptions.bind fun options _ => .bind ?_ fun settings _ => ?_
  · exact .mapError (E := fun _ => True) (fun _ _ => trivial) fun _ _ => .inl rfl
  · split
    · exact .error (.inl rfl)
    · exact .ok

/-- The depth of settings that were loaded can be told. -/
theorem isTooLong_eq_false_of_load {settings : Settings}
    (h : load files env path? = .ok settings) : Text.isTooLong settings.maxDepth = false := by
  obtain ⟨options, -, h⟩ := bind_eq_ok.mp h
  obtain ⟨found, -, h⟩ := bind_eq_ok.mp h
  split at h
  · cases h
  · rename_i htold
    cases h
    simpa using htold

end Settings

/-! ## Compilation -/

/-- A schema of legible forms is compiled or rejected. -/
theorem Schema.failsOnly_compile {kind : MappingKind} {raw : Entries} {maxDepth : Int}
    (hlimit : Text.isTooLong maxDepth = false) (hnames : TextKeys raw)
    (hforms : ∀ e ∈ raw, EveryForm .builtin IsLegible e.2) :
    FailsOnly (compile .builtin maxDepth (.mapping kind raw)) fun f => f.kind = .schema := by
  have hfields : FailsOnly (Compilation.compileFields
      (compileField .builtin maxDepth maxDepth.toNat) none raw) fun f => f.kind = .schema := by
    intro fault hfault
    have horder : Compilation.InOrder (compileField .builtin maxDepth maxDepth.toNat)
        (Compilation.fieldsAt none raw) _ :=
      Compilation.InOrder.compileFields fun name hname => (hnames name hname).isWritable
    rw [hfault] at horder
    generalize hparts : Compilation.fieldsAt none raw = parts at horder
    cases horder with
    | @upTo before after part _ fine stops =>
        have hmem : part ∈ Compilation.fieldsAt none raw := by simp [hparts]
        have hpart : EveryForm .builtin IsLegible part.2 :=
          Compilation.forall_fieldsAt.mpr hforms part hmem
        obtain ⟨defect, place, rfl, -⟩ :=
          (Compilation.verdict_compileField hlimit hpart).firstDefect stops
        rfl
  exact hfields.map

/-! ## Reports -/

namespace ErrorSet

variable {errors : ErrorSet} {reports : List (String × String)}

/-- Errors at texts can be shown. -/
theorem TextPaths.exists_shows (h : errors.TextPaths) : ∃ reports, errors.Shows reports := by
  induction errors with
  | nil => exact ⟨[], .nil⟩
  | cons e rest ih =>
      obtain ⟨⟨place, hplace⟩, hrest⟩ := List.forall_mem_cons.mp h
      obtain ⟨reports, hreports⟩ := ih hrest
      exact ⟨(place, e.2) :: reports, .cons ⟨hplace, rfl⟩ hreports⟩

/-- No two errors stand at one path. -/
def Distinct (errors : ErrorSet) : Prop := errors.Pairwise fun e e' => e'.1.sameKey e.1 = false

theorem mem_put {path : Value} {message : String} {e : Value × String}
    (h : e ∈ errors.put path message) : e.1 = path ∨ ∃ e' ∈ errors, e'.1 = e.1 := by
  induction errors with
  | nil =>
      obtain rfl := List.mem_singleton.mp h
      exact .inl rfl
  | cons e' rest ih =>
      rw [put] at h
      split at h
      · rcases List.mem_cons.mp h with rfl | h
        · exact .inr ⟨e', List.mem_cons_self, rfl⟩
        · exact .inr ⟨e, List.mem_cons_of_mem _ h, rfl⟩
      · rcases List.mem_cons.mp h with rfl | h
        · exact .inr ⟨e, List.mem_cons_self, rfl⟩
        · rcases ih h with hpath | ⟨e'', hmem, heq⟩
          · exact .inl hpath
          · exact .inr ⟨e'', List.mem_cons_of_mem _ hmem, heq⟩

namespace Distinct

theorem put (h : errors.Distinct) (path : Value) (message : String) :
    (errors.put path message).Distinct := by
  induction errors with
  | nil => exact List.pairwise_singleton _ _
  | cons e rest ih =>
      obtain ⟨hhead, hrest⟩ := List.pairwise_cons.mp h
      rw [ErrorSet.put]
      split
      · exact List.pairwise_cons.mpr ⟨hhead, hrest⟩
      · rename_i hnew
        refine List.pairwise_cons.mpr ⟨fun e' he' => ?_, ih hrest⟩
        rcases mem_put he' with hpath | ⟨e'', hmem, heq⟩
        · rw [hpath]
          simpa using hnew
        · rw [← heq]
          exact hhead e'' hmem

theorem merge (h : errors.Distinct) (more : ErrorSet) : (errors.merge more).Distinct := by
  induction more generalizing errors with
  | nil => exact h
  | cons e rest ih => exact ih (h.put e.1 e.2)

/-- Distinct errors are shown at distinct places. -/
theorem nodup_places (h : errors.Distinct) (hshows : errors.Shows reports) :
    (reports.map Prod.fst).Nodup := by
  induction hshows with
  | nil => exact List.nodup_nil
  | @cons e t errors reports he hrest ih =>
      obtain ⟨hhead, htail⟩ := List.pairwise_cons.mp h
      refine List.nodup_cons.mpr ⟨fun hmem => ?_, ih htail⟩
      obtain ⟨t', ht', hplace⟩ := List.mem_map.mp hmem
      obtain ⟨e', he', htext, -⟩ := Compilation.exists_of_forall₂ hrest ht'
      have hfresh := hhead e' he'
      rw [Value.sameKey_of_text? htext, he.1, hplace] at hfresh
      simp at hfresh

end Distinct

end ErrorSet

namespace Validation

variable {check : Check} {parent : Value}

theorem yields_checkFields {entries schema : Entries} {acc : ErrorSet} (hacc : acc.Distinct) :
    Yields (checkFields check entries parent acc schema) ErrorSet.Distinct := by
  induction schema generalizing acc with
  | nil => exact .ok hacc
  | cons e rest ih => exact .after fun more => ih (hacc.merge more)

theorem yields_checkKeys {schema : Entries} {names : List Value} {acc : ErrorSet}
    (hacc : acc.Distinct) : Yields (checkKeys schema parent acc names) ErrorSet.Distinct := by
  induction names generalizing acc with
  | nil => exact .ok hacc
  | cons key rest ih =>
      rw [checkKeys]
      split
      · exact ih hacc
      · exact .after fun _ => .after fun path => ih (hacc.put path _)

/-- The errors of a mapping stand at distinct paths. -/
theorem yields_checkObject {value schema : Value} :
    Yields (checkObject check value schema parent) ErrorSet.Distinct := by
  unfold checkObject
  split
  · exact (yields_checkFields List.Pairwise.nil).bind fun errors herrors =>
      yields_checkKeys herrors
  · exact .error
  · exact .error

end Validation

namespace Command

/-- The lines that tell of paths and messages. -/
def linesOf (reports : List (String × String)) : String :=
  if reports.isEmpty then "OK\n"
  else String.join (reports.map fun t => t.1 ++ ": " ++ t.2 ++ "\n")

/-- The mapping that tells of paths and messages. -/
def objectOf (reports : List (String × String)) : Value :=
  .dict [(.text "status", .text (if reports.isEmpty then "ok" else "invalid")),
    (.text "errors", .dict (reports.map fun t => (.text t.1, .text t.2)))]

/-- The output tells of the paths and messages in their order, as lines without what
would steer a terminal or as JSON. -/
def Tells (asJson : Bool) (reports : List (String × String)) (output : String) : Prop :=
  if asJson then ∃ text, Json.print (objectOf reports) = .ok text ∧ output = text ++ "\n"
  else output = echoed (linesOf reports)

variable {errors : ErrorSet} {reports : List (String × String)}

theorem textReport_eq (h : errors.Shows reports) : textReport errors = linesOf reports := by
  rw [textReport, linesOf, h.isEmpty_eq]
  congr 2
  induction h with
  | nil => rfl
  | cons he hrest ih =>
      rw [List.map_cons, List.map_cons, ih, Value.filled_of_text? he.1, he.2]

/-- Errors are printed as the texts that they stand at. -/
theorem printMembers_eq (h : errors.Shows reports) (level : Nat) :
    Json.printMembers level (errors.map fun e => (e.1, Value.text e.2)) =
      Json.printMembers level (reports.map fun t => (Value.text t.1, Value.text t.2)) := by
  induction h with
  | nil => rfl
  | @cons e t errors reports he hrest ih =>
      have hname : Json.name e.1 = Json.name (.text t.1) := by
        rcases Value.eq_of_text?_eq_some he.1 with hpath | hpath
        · rw [hpath]
        · rw [hpath]
          rfl
      rw [List.map_cons, List.map_cons, Json.printMembers, Json.printMembers, hname, he.2, ih]

theorem returns_printMembers (level : Nat) : ∀ reports : List (String × String),
    Returns (Json.printMembers level (reports.map fun t => (Value.text t.1, Value.text t.2)))
      fun _ => True
  | [] => .pure trivial
  | _ :: rest => .bind (P := fun _ => True) (.pure trivial) fun _ _ =>
      .bind (P := fun _ => True) (.pure trivial) fun _ _ =>
        (returns_printMembers level rest).bind fun _ _ => .pure trivial

theorem exists_print_objectOf (reports : List (String × String)) :
    ∃ text, Json.print (objectOf reports) = .ok text := by
  obtain ⟨lines, hlines, -⟩ := returns_printMembers 2 reports
  simp only [objectOf, Json.print, Json.printAt, Json.printMembers]
  rw [hlines]
  exact ⟨_, rfl⟩

/-- The report tells of the errors and ends with 0 or 1, in both modes. -/
theorem tells_reportErrors (h : errors.Shows reports) (asJson : Bool) :
    (reportErrors asJson errors).ending = .exit (exitCode errors) ∧
      Tells asJson reports (reportErrors asJson errors).output := by
  cases asJson with
  | false =>
      have htold : errors.all (fun e => e.1.isWritable) = true := by
        refine List.all_eq_true.mpr fun e he => ?_
        obtain ⟨t, -, hplace, -⟩ := Compilation.exists_of_forall₂ h.flip he
        exact Value.isWritable_of_text? hplace
      rw [reportErrors, if_neg Bool.false_ne_true, if_pos htold]
      exact ⟨rfl, congrArg echoed (textReport_eq h)⟩
  | true =>
      have hprint : jsonReport errors = Json.print (objectOf reports) := by
        simp only [jsonReport, objectOf, Json.print, Json.printAt, Json.printMembers,
          printMembers_eq h, h.isEmpty_eq]
      obtain ⟨text, htext⟩ := exists_print_objectOf reports
      rw [reportErrors, if_pos rfl, hprint, htext]
      exact ⟨rfl, text, htext, rfl⟩

/-! ## Runs -/

/-- What a check may take for granted: what it consults for settings and the two
documents are files, the readers judge what is in them, the names and forms in the schema
document are ordinary, and the keys in the other one can be told. -/
structure Orderly (files : Files) (env : Environment) (r : Request) (dataFile : String) : Prop where
  settings : Settings.IsOrdinary files env r.configFile
  schema : Document.IsOrdinary files r.schemaFile
  document : Document.IsOrdinary files dataFile
  names : ∀ entries, Document.loadSchemaFile files r.schemaFile = .ok (.dict entries) →
    TextKeys entries
  forms : ∀ entries, Document.loadSchemaFile files r.schemaFile = .ok (.dict entries) →
    ∀ e ∈ entries, EveryForm .builtin IsOrdinary e.2
  keys : ∀ document, Document.loadFile files dataFile = .ok document →
    document.EveryMapping WritableKeys

variable {files : Files} {env : Environment} {r : Request} {dataFile : String} {schema : Schema}
  {document : Value}

namespace Orderly

theorem legible {entries : Entries} (h : Orderly files env r dataFile)
    (hload : Document.loadSchemaFile files r.schemaFile = .ok (.dict entries)) :
    ∀ e ∈ entries, EveryForm .builtin IsLegible e.2 ∧ EveryForm .builtin IsTextual e.2 := by
  intro e he
  have hdata := Document.yields_loadFile _ _ _ (Document.loadSchemaFile_eq_ok.mp hload).1
  cases hdata with
  | atom isAtom => simp [Value.isAtom] at isAtom
  | mapping each => exact Compilation.everyForm_of_isOrdinary (each e he) (h.forms _ hload e he)

/-- A schema is loaded, or what is wrong is reported. -/
theorem failsOnly_loadSchema (h : Orderly files env r dataFile) :
    FailsOnly (loadSchema files env r) fun f => isSchemaError f = true := by
  unfold loadSchema
  refine ((Settings.failsOnly_load h.settings).mapError fun p hp => ?_).bind
    fun settings hsettings => ?_
  · rcases hp with hp | hp <;> simp [isSchemaError, Failure.kind, hp, FailureKind.isValue]
  refine ((Document.failsOnly_loadSchemaFile h.schema).mapError fun p hp => ?_).bind
    fun raw hraw => ?_
  · simp [isSchemaError, Failure.kind, hp, FailureKind.isValue]
  have hload := mapError_eq_ok.mp hraw
  obtain ⟨-, entries, rfl⟩ := Document.loadSchemaFile_eq_ok.mp hload
  have hlimit := Settings.isTooLong_eq_false_of_load (mapError_eq_ok.mp hsettings)
  refine (Schema.failsOnly_compile hlimit (h.names _ hload) fun e he =>
    (h.legible hload e he).1).mapError fun f hf => ?_
  simp [isSchemaError, Failure.kind, hf, FailureKind.isValue]

end Orderly

theorem loadSchema_eq_ok (h : loadSchema files env r = .ok schema) :
    ∃ maxDepth entries, Document.loadSchemaFile files r.schemaFile = .ok (.dict entries) ∧
      Schema.compile .builtin maxDepth (.dict entries) = .ok schema := by
  obtain ⟨settings, -, h⟩ := bind_eq_ok.mp h
  obtain ⟨raw, hraw, h⟩ := bind_eq_ok.mp h
  have hload := mapError_eq_ok.mp hraw
  obtain ⟨-, entries, rfl⟩ := Document.loadSchemaFile_eq_ok.mp hload
  exact ⟨settings.maxDepth, entries, hload, mapError_eq_ok.mp h⟩

/-- Under a schema that was loaded every mapping in a document has its errors. -/
theorem Orderly.returns_errors (h : Orderly files env r dataFile)
    (hschema : loadSchema files env r = .ok schema)
    (hdocument : Document.loadFile files dataFile = .ok document)
    (hmapping : document.isMapping = true) :
    Returns (schema.errors .builtin document .null .null) ErrorSet.TextPaths := by
  obtain ⟨maxDepth, entries, hload, hcompile⟩ := loadSchema_eq_ok hschema
  exact Schema.returns_errors (h.names _ hload) (fun e he => (h.legible hload e he).2) hcompile
    hmapping ((Document.yields_loadFile _ _ _ hdocument).isUsable (h.keys _ hdocument)) rfl

/-- What is no mapping has no errors but is at fault itself. -/
theorem errors_of_noMapping (hmapping : document.isMapping = false) :
    schema.errors .builtin document .null .null = .error (.notMapping document) := by
  cases document with
  | mapping => simp [Value.isMapping, Value.entries?] at hmapping
  | _ => rfl

/-- A document has errors, or what is wrong is reported. -/
theorem Orderly.failsOnly_documentErrors (h : Orderly files env r dataFile)
    (hschema : loadSchema files env r = .ok schema) :
    FailsOnly (documentErrors files schema dataFile) fun f => isDocumentError f = true := by
  refine ((Document.failsOnly_loadFile h.document).mapError fun p hp => ?_).bind fun v hv => ?_
  · simp [isDocumentError, Failure.kind, hp, FailureKind.isValue]
  cases hmapping : v.isMapping with
  | true =>
      obtain ⟨errors, herrors, -⟩ := h.returns_errors hschema (mapError_eq_ok.mp hv) hmapping
      rw [herrors]
      exact .ok
  | false =>
      rw [errors_of_noMapping hmapping]
      exact .error rfl

theorem documentErrors_eq_ok {path : String} (h : documentErrors files schema path = .ok errors) :
    ∃ document, Document.loadFile files path = .ok document ∧ document.isMapping = true ∧
      schema.errors .builtin document .null .null = .ok errors := by
  obtain ⟨document, hload, h⟩ := bind_eq_ok.mp h
  have herrors := mapError_eq_ok.mp h
  refine ⟨document, mapError_eq_ok.mp hload, ?_, herrors⟩
  by_contra hmapping
  rw [errors_of_noMapping (by simpa using hmapping)] at herrors
  cases herrors

/-! ## The ending of a run -/

/-- Notes on a run change nothing but the log. -/
theorem run_eq_check (env : Environment) {arguments : List String} {asJson : Bool}
    (h : Action.ofArguments files arguments = .ok (.check r dataFile asJson)) :
    (run files env arguments).ending = (check files env r dataFile asJson).2.ending ∧
      (run files env arguments).output = (check files env r dataFile asJson).2.output := by
  rw [run, h]
  unfold perform
  dsimp only
  split
  · exact ⟨rfl, rfl⟩
  · exact ⟨rfl, rfl⟩

theorem ending_failed {isReported : Failure → Bool} {failure : Failure}
    (h : isReported failure = true) : (failed isReported failure).ending = .exit 2 := by
  rw [failed, if_pos h]

/-- A check that gets as far as the errors of the document reports them. -/
theorem check_of_errors {asJson : Bool} (hschema : loadSchema files env r = .ok schema)
    (hdocument : Document.loadFile files dataFile = .ok document)
    (herrors : schema.errors .builtin document .null .null = .ok errors) :
    (check files env r dataFile asJson).2 = reportErrors asJson errors := by
  have hfound : documentErrors files schema dataFile = .ok errors :=
    bind_eq_ok.mpr ⟨document, mapError_eq_ok.mpr hdocument, mapError_eq_ok.mpr herrors⟩
  rw [check, hschema]
  dsimp only
  rw [hfound]

/-- A check that does not get as far ends with 2. -/
theorem Orderly.ending_check (h : Orderly files env r dataFile) {asJson : Bool}
    (hnone : ∀ schema document, loadSchema files env r = .ok schema →
      Document.loadFile files dataFile = .ok document → document.isMapping = false) :
    (check files env r dataFile asJson).2.ending = .exit 2 := by
  unfold check
  cases hschema : loadSchema files env r with
  | error failure => exact ending_failed (h.failsOnly_loadSchema failure hschema)
  | ok schema =>
      dsimp only
      cases hfound : documentErrors files schema dataFile with
      | error failure => exact ending_failed (h.failsOnly_documentErrors hschema failure hfound)
      | ok errors =>
          obtain ⟨document, hload, hmapping, -⟩ := documentErrors_eq_ok hfound
          rw [hnone schema document hschema hload] at hmapping
          cases hmapping

/-- **The code that a check ends with says what came out.** Where nothing but
malformed content can go wrong in reading, and the schema document is legible,
every run of a check ends with a code. If the schema is loaded and the document
is a mapping, the document has a set of errors, and the run ends with 0 if the
set is empty and with 1 if it is not; in both modes the output tells of the same
paths, all of them different, and messages in the same order. In all other cases
the run ends with 2. -/
theorem exitCode_of_check (h : Orderly files env r dataFile) :
    (∀ schema document, loadSchema files env r = .ok schema →
      Document.loadFile files dataFile = .ok document → document.isMapping = true →
      ∃ errors reports, schema.errors .builtin document .null .null = .ok errors ∧
        errors.Shows reports ∧ (reports.map Prod.fst).Nodup ∧ ∀ arguments asJson,
          Action.ofArguments files arguments = .ok (.check r dataFile asJson) →
          (run files env arguments).ending = .exit (if errors.isEmpty then 0 else 1) ∧
            Tells asJson reports (run files env arguments).output) ∧
    ((∀ schema document, loadSchema files env r = .ok schema →
        Document.loadFile files dataFile = .ok document → document.isMapping = false) →
      ∀ arguments asJson,
        Action.ofArguments files arguments = .ok (.check r dataFile asJson) →
        (run files env arguments).ending = .exit 2) := by
  constructor
  · intro schema document hschema hdocument hmapping
    obtain ⟨errors, herrors, htexts⟩ := h.returns_errors hschema hdocument hmapping
    obtain ⟨reports, hshows⟩ := htexts.exists_shows
    have hplaces := ErrorSet.Distinct.nodup_places
      (Validation.yields_checkObject errors herrors) hshows
    refine ⟨errors, reports, herrors, hshows, hplaces, fun arguments asJson harguments => ?_⟩
    obtain ⟨hending, houtput⟩ := run_eq_check env harguments
    rw [hending, houtput, check_of_errors hschema hdocument herrors]
    exact tells_reportErrors hshows asJson
  · intro hnone arguments asJson harguments
    rw [(run_eq_check env harguments).1]
    exact h.ending_check hnone

/-- A schema that asks for a text, and a document that gives nothing. -/
def samples : Files
  | "s.json" => some (.file "\x7b\"a\": \"string\"\x7d")
  | "d.json" => some (.file "\x7b\"a\": null\x7d")
  | _ => none

theorem loadFile_samples :
    Document.loadFile samples "s.json" = .ok (.dict [(.text "a", .text "string")]) ∧
      Document.loadFile samples "d.json" = .ok (.dict [(.text "a", .null)]) := by
  have hschema : FilePath.normal "s.json" = "s.json" ∧
      DocumentFormat.ofSuffix? (FilePath.suffix "s.json") = some .json := by decide +kernel
  have hdata : FilePath.normal "d.json" = "d.json" ∧
      DocumentFormat.ofSuffix? (FilePath.suffix "d.json") = some .json := by decide +kernel
  simp only [Document.loadFile, hschema, hdata, samples]
  exact ⟨by cbv, by cbv⟩

theorem orderly_samples : Orderly samples [] { schemaFile := "s.json" } "d.json" := by
  have hload {entries : Entries}
      (h : Document.loadSchemaFile samples "s.json" = .ok (.dict entries)) :
      entries = [(.text "a", .text "string")] := by
    cases loadFile_samples.1.symm.trans (Document.loadSchemaFile_eq_ok.mp h).1
    rfl
  have hschema : FilePath.normal "s.json" = "s.json" := by decide +kernel
  have hdata : FilePath.normal "d.json" = "d.json" := by decide +kernel
  have hjson {path : String} {format : DocumentFormat} (hpath : path = "s.json" ∨ path = "d.json")
      (h : DocumentFormat.ofSuffix? (FilePath.suffix (FilePath.normal path)) = some format) :
      format = .json := by
    rcases hpath with rfl | rfl
    · exact Option.some.inj (h.symm.trans (by decide +kernel))
    · exact Option.some.inj (h.symm.trans (by decide +kernel))
  have hread : Document.read .json (Files.unifyLines "\x7b\"a\": \"string\"\x7d".toList)
      = .ok (.dict [(.text "a", .text "string")]) ∧
      Document.read .json (Files.unifyLines "\x7b\"a\": null\x7d".toList)
      = .ok (.dict [(.text "a", .null)]) := ⟨by cbv, by cbv⟩
  have hnone : Settings.source? samples [] none = none := rfl
  refine ⟨fun path hpath => absurd (hnone.symm.trans hpath) (by simp),
    ⟨_, congrArg samples hschema, fun format hformat => ?_⟩,
    ⟨_, congrArg samples hdata, fun format hformat => ?_⟩, ?_, ?_, ?_⟩
  · rw [hjson (.inl rfl) hformat, hread.1]
    exact .ok
  · rw [hjson (.inr rfl) hformat, hread.2]
    exact .ok
  · intro entries h
    rw [hload h]
    exact List.forall_mem_singleton.mpr (Value.isText_text _)
  · intro entries h
    rw [hload h]
    refine List.forall_mem_singleton.mpr (.of_contains rfl ⟨?_, ?_, ?_, ?_⟩)
    all_goals
      simp [Compilation.formFields, TextKeys, WritableOptions, Entries.keys, Entries.option?_cons,
        Entries.option?_nil, Value.entries?, Value.isText_text]
  · intro document h
    cases loadFile_samples.2.symm.trans h
    refine Value.EveryMapping.mapping_iff.mpr ⟨?_, by simpa using .of_leaf rfl rfl⟩
    simp [WritableKeys, Entries.keys, Value.isWritable]

/-- The document does not match, which both modes tell by the code. -/
theorem exitCode_of_check_mismatch :
    (run samples [] ["check", "s.json", "d.json"]).ending = .exit 1 ∧
      (run samples [] ["check", "--json-output", "s.json", "d.json"]).ending = .exit 1 := by
  have hschema : loadSchema samples [] { schemaFile := "s.json" }
      = .ok ⟨[(.text "a", .dict [(.text "type", .text "string")])], 64⟩ := by
    have hload := Document.loadSchemaFile_eq_ok.mpr ⟨loadFile_samples.1, _, rfl⟩
    have hsettings : Settings.load samples [] none = .ok ⟨64⟩ := by cbv
    rw [loadSchema, hsettings, hload]
    show Except.mapError Failure.fault (Schema.compile .builtin 64 _) = _
    rw [Registry.builtin_eq]
    cbv
  obtain ⟨errors, reports, herrors, -, -, hruns⟩ :=
    (exitCode_of_check orderly_samples).1 _ _ hschema loadFile_samples.2 rfl
  have hwrong : errors = [(.text "a", Validation.wrongType)] := by
    refine Except.ok.inj (herrors.symm.trans ?_)
    rw [Registry.builtin_eq]
    cbv
  subst hwrong
  exact ⟨(hruns _ false (by cbv)).1, (hruns _ true (by cbv)).1⟩

/-- Whether a failure leaves the program. -/
def Ending.isCrash : Ending → Bool
  | .crash _ => true
  | .exit _ => false

/-- A schema in which the field of an object is named by a number, and a document
that matches it. -/
def numbered : Files
  | "s.yaml" => some (.file "a:\n  1: string\n")
  | "d.json" => some (.file "\x7b\"a\": \x7b\x7d\x7d")
  | _ => none

/-- Where names are no texts a check may end without a code: the schema is
compiled, but the number cannot be put into a path. -/
theorem isCrash_of_numbered_name :
    (loadSchema numbered [] { schemaFile := "s.yaml" }).isOk = true ∧
      (Document.loadFile numbered "d.json").isOk = true ∧
      (run numbered [] ["check", "s.yaml", "d.json"]).ending.isCrash = true := by
  decide +kernel

end Command

end DataShape
