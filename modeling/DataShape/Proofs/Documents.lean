import DataShape.Document
import DataShape.Proofs.Grammar
import DataShape.Proofs.Rounding

/-!
# What documents hold

A document in JSON or YAML denotes plain values, sequences, sets and mappings. None
of them is a compiled pattern, a machine scalar or a packed array, so that whatever is
read from a file can be checked if its keys can be told, and a `test` in it is at most the
source of a pattern. Its numbers are integers and data of double precision, and no name
stands twice in a mapping. A schema document can be compiled and checked with if its keys
are texts, its options can be told and the sources in it are read or refused as malformed.
-/

namespace DataShape

open Entries (option? keys)
open Compilation (IsReadable IsTextual EveryForm expand? formFields)

/-! ## Computations that yield -/

theorem mapError_eq_ok {ε ε' α : Type} {x : Except ε α} {f : ε → ε'} {a : α} :
    x.mapError f = .ok a ↔ x = .ok a := by
  cases x <;> simp [Except.mapError]

/-- Whatever the computation returns has the property. -/
def Yields {ε α : Type} (x : Except ε α) (P : α → Prop) : Prop := ∀ a, x = .ok a → P a

namespace Yields

variable {ε ε' α β : Type} {P : α → Prop} {Q : β → Prop} {x : Except ε α}

theorem ok {a : α} (h : P a) : Yields (.ok a : Except ε α) P := by
  rintro a' ⟨⟩
  exact h

theorem error {e : ε} : Yields (.error e : Except ε α) P := nofun

theorem bind {f : α → Except ε β} (hx : Yields x P) (hf : ∀ a, P a → Yields (f a) Q) :
    Yields (x >>= f) Q := by
  intro b hb
  obtain ⟨a, ha, hb⟩ := bind_eq_ok.mp hb
  exact hf a (hx a ha) b hb

/-- A step whose result does not matter. -/
theorem after {f : α → Except ε β} (hf : ∀ a, Yields (f a) Q) : Yields (x >>= f) Q :=
  bind (P := fun _ => True) (fun _ _ => trivial) fun a _ => hf a

theorem map {f : α → β} (hx : Yields x P) (hf : ∀ a, P a → Q (f a)) : Yields (x.map f) Q := by
  intro b hb
  obtain ⟨a, ha, rfl⟩ := map_eq_ok.mp hb
  exact hf a (hx a ha)

/-- Where the last step makes the result what it is. -/
theorem build {f : α → β} (hf : ∀ a, Q (f a)) : Yields (x.map f) Q :=
  map (P := fun _ => True) (fun _ _ => trivial) fun a _ => hf a

theorem mapError {f : ε → ε'} (hx : Yields x P) : Yields (x.mapError f) P :=
  fun a ha => hx a (mapError_eq_ok.mp ha)

end Yields

/-! ## Values of documents -/

/-- Whether the value has no parts and is no pattern and no machine scalar. -/
def Value.isAtom : Value → Bool
  | .sequence .. | .array .. | .point .. | .mapping .. | .pattern _ | .scalar _ => false
  | _ => true

theorem Value.noParts_of_isAtom {v : Value} (h : v.isAtom = true) :
    v.isMapping = false ∧ Capability.isSequence v = false := by
  cases v with
  | sequence | array | point | mapping => simp [isAtom] at h
  | _ => exact ⟨rfl, rfl⟩

/-- Every key of a mapping can be told. -/
def WritableKeys (entries : Entries) : Prop := ∀ key ∈ keys entries, key.isWritable = true

/-- A value as documents hold it: atoms, sets among them, and sequences and
mappings of such values. -/
inductive Value.IsData : Value → Prop
  | atom {v : Value} (isAtom : v.isAtom = true) : IsData v
  | sequence {kind : SequenceKind} {items : List Value} (each : ∀ v ∈ items, IsData v) :
      IsData (.sequence kind items)
  | mapping {kind : MappingKind} {entries : Entries} (each : ∀ e ∈ entries, IsData e.2) :
      IsData (.mapping kind entries)

namespace Value.IsData

/-- Nothing in data stops a check but a key that cannot be told. -/
theorem isUsable {v : Value} (h : v.IsData) (hkeys : v.EveryMapping WritableKeys) :
    v.IsUsable := by
  induction h with
  | @atom v hatom =>
      obtain ⟨noMapping, noSequence⟩ := noParts_of_isAtom hatom
      refine .of_leaf noMapping noSequence ?_
      cases v with
      | scalar => simp [isAtom] at hatom
      | _ => rfl
  | sequence each ih =>
      exact IsUsable.sequence_iff.mpr fun v hv => ih v hv (EveryMapping.sequence_iff.mp hkeys v hv)
  | mapping each ih =>
      obtain ⟨hhere, hbelow⟩ := EveryMapping.mapping_iff.mp hkeys
      exact IsUsable.mapping_iff.mpr ⟨hhere, fun e he => ih e he (hbelow e he)⟩

/-- No option of a node in a document is a compiled pattern. -/
theorem searchesText {v : Value} (h : v.IsData) :
    v.EveryMapping Capability.SearchesText := by
  induction h with
  | atom hatom =>
      obtain ⟨noMapping, noSequence⟩ := noParts_of_isAtom hatom
      exact .of_leaf noMapping noSequence
  | sequence each ih => exact EveryMapping.sequence_iff.mpr ih
  | mapping each ih =>
      refine EveryMapping.mapping_iff.mpr ⟨fun p hp => ?_, ih⟩
      obtain ⟨key, hkey⟩ := Entries.mem_of_get? hp
      have hpattern : IsData (.pattern p) := each _ hkey
      cases hpattern with
      | atom hatom => simp [Value.isAtom] at hatom

end Value.IsData

namespace Entries

/-- What putting one entry after the other keeps is true of entries put
together. -/
theorem ofList_induction {M : Entries → Prop} {es : List (Value × Value)} (hnil : M [])
    (hinsert : ∀ e ∈ es, ∀ entries, M entries → M (insert e.1 e.2 entries)) : M (ofList es) := by
  unfold ofList
  suffices ∀ (es : List (Value × Value)) (entries : Entries),
      (∀ e ∈ es, ∀ entries, M entries → M (insert e.1 e.2 entries)) → M entries →
        M (es.foldl (fun es e => Entries.insert e.1 e.2 es) entries) from this es [] hinsert hnil
  intro es
  induction es with
  | nil => exact fun entries _ hentries => hentries
  | cons e rest ih =>
      intro entries hinsert hentries
      obtain ⟨hhead, hrest⟩ := List.forall_mem_cons.mp hinsert
      exact ih _ hrest (hhead entries hentries)

theorem forall_insert {K P : Value → Prop} {key v : Value} {entries : Entries}
    (h : ∀ e ∈ entries, K e.1 ∧ P e.2) (hkey : K key) (hv : P v) :
    ∀ e ∈ insert key v entries, K e.1 ∧ P e.2 := by
  induction entries with
  | nil => exact List.forall_mem_singleton.mpr ⟨hkey, hv⟩
  | cons e rest ih =>
      obtain ⟨hhead, hrest⟩ := List.forall_mem_cons.mp h
      rw [insert]
      split
      · exact List.forall_mem_cons.mpr ⟨⟨hhead.1, hv⟩, hrest⟩
      · exact List.forall_mem_cons.mpr ⟨hhead, ih hrest⟩

/-- Putting entries together keeps what holds for their keys and values. -/
theorem forall_ofList {K P : Value → Prop} {es : List (Value × Value)}
    (h : ∀ e ∈ es, K e.1 ∧ P e.2) : ∀ e ∈ ofList es, K e.1 ∧ P e.2 :=
  ofList_induction (M := fun entries => ∀ e ∈ entries, K e.1 ∧ P e.2) (List.forall_mem_nil _)
    fun e he _ hentries => forall_insert hentries (h e he).1 (h e he).2

/-- The texts among the keys. -/
def names (entries : Entries) : List String := (keys entries).filterMap Value.text?

theorem mem_names_insert {key v : Value} {entries : Entries} {name : String}
    (h : name ∈ names (insert key v entries)) : key.text? = some name ∨ name ∈ names entries := by
  induction entries with
  | nil =>
      left
      simpa [names, insert, keys] using h
  | cons e rest ih =>
      have hcons (e : Value × Value) (rest : Entries) :
          name ∈ names (e :: rest) ↔ e.1.text? = some name ∨ name ∈ names rest := by
        simp [names, keys]
      rw [insert] at h
      split at h
      · exact .inr h
      · rcases (hcons e _).mp h with hname | h
        · exact .inr ((hcons e rest).mpr (.inl hname))
        · exact (ih h).imp_right fun h => (hcons e rest).mpr (.inr h)

theorem nodup_names_insert {key v : Value} {entries : Entries} (h : (names entries).Nodup) :
    (names (insert key v entries)).Nodup := by
  induction entries with
  | nil => cases hkey : key.text? <;> simp [names, insert, keys, hkey]
  | cons e rest ih =>
      rw [insert]
      split
      · exact h
      · rename_i hne
        cases hname : e.1.text? with
        | none =>
            have hdrop (rest : Entries) : names (e :: rest) = names rest := by
              simp [names, keys, hname]
            rw [hdrop] at h ⊢
            exact ih h
        | some name =>
            have hkeep (rest : Entries) : names (e :: rest) = name :: names rest := by
              simp [names, keys, hname]
            rw [hkeep, List.nodup_cons] at h
            rw [hkeep, List.nodup_cons]
            refine ⟨fun hmem => ?_, ih h.2⟩
            rcases mem_names_insert hmem with hkey | hmem
            · rw [Value.sameKey_of_text? hkey, hname] at hne
              simp at hne
            · exact h.1 hmem

/-- No text is twice among the keys of entries that were put together. -/
theorem nodup_names_ofList (es : List (Value × Value)) : (names (ofList es)).Nodup :=
  ofList_induction (M := fun entries => (names entries).Nodup) List.nodup_nil
    fun _ _ _ hentries => nodup_names_insert hentries

end Entries

/-- Whether the value is an atom, but no machine scalar and no floating-point
number. -/
def Value.isPlain : Value → Bool
  | .float _ | .scalar _ => false
  | v => v.isAtom

/-- A value as it is read from a document. -/
inductive Value.IsDocument : Value → Prop
  | plain {v : Value} (isPlain : v.isPlain = true) : IsDocument v
  | float {x : Floating} (double : Floating.Format.double.Holds x) : IsDocument (.float x)
  | sequence {kind : SequenceKind} {items : List Value} (each : ∀ v ∈ items, IsDocument v) :
      IsDocument (.sequence kind items)
  | mapping {entries : Entries} (names : (Entries.names entries).Nodup)
      (keys : ∀ e ∈ entries, IsDocument e.1) (each : ∀ e ∈ entries, IsDocument e.2) :
      IsDocument (.dict entries)

namespace Value.IsDocument

theorem isData {v : Value} (h : v.IsDocument) : v.IsData := by
  induction h with
  | @plain v isPlain =>
      refine .atom ?_
      cases v with
      | float => rfl
      | _ => exact isPlain
  | float double => exact .atom rfl
  | sequence each ih => exact .sequence ih
  | mapping names keys each _ ih => exact .mapping ih

theorem sequence_iff {kind : SequenceKind} {items : List Value} :
    (Value.sequence kind items).IsDocument ↔ ∀ v ∈ items, v.IsDocument := by
  constructor
  · intro h
    cases h with
    | plain isPlain => cases isPlain
    | sequence each => exact each
  · exact .sequence

theorem mapping_iff {kind : MappingKind} {entries : Entries} :
    (Value.mapping kind entries).IsDocument ↔ kind = .plain ∧ (Entries.names entries).Nodup ∧
      ∀ e ∈ entries, e.1.IsDocument ∧ e.2.IsDocument := by
  constructor
  · intro h
    cases h with
    | plain isPlain => cases isPlain
    | mapping names keys each => exact ⟨rfl, names, fun e he => ⟨keys e he, each e he⟩⟩
  · rintro ⟨rfl, names, each⟩
    exact .mapping names (fun e he => (each e he).1) fun e he => (each e he).2

/-- A text in a document is no machine scalar. -/
theorem eq_text {v : Value} {s : String} (h : v.IsDocument) (htext : v.text? = some s) :
    v = .text s := by
  rcases eq_of_text?_eq_some htext with rfl | rfl
  · rfl
  · cases h with
    | plain isPlain => cases isPlain

/-- The options of a mapping in a document are documents. -/
theorem option? {entries : Entries} {name : String} {v : Value}
    (h : (Value.dict entries).IsDocument) (hv : Entries.option? entries name = some v) :
    v.IsDocument := by
  obtain ⟨key, hkey⟩ := Entries.mem_of_get? hv
  exact ((mapping_iff.mp h).2.2 _ hkey).2

theorem ofList {es : List (Value × Value)} (h : ∀ e ∈ es, e.1.IsDocument ∧ e.2.IsDocument) :
    (Value.dict (Entries.ofList es)).IsDocument :=
  .mapping (Entries.nodup_names_ofList es) (fun e he => (Entries.forall_ofList h e he).1)
    fun e he => (Entries.forall_ofList h e he).2

end Value.IsDocument

/-! ## JSON -/

namespace Json

open Value (IsDocument)
open Floating.Format (double Holds)

/-- Whatever a number is made of, what is read is an integer or a floating-point
number. -/
theorem yields_readNumber (cs : List Char) : Yields (readNumber cs) fun r => r.1.IsDocument := by
  unfold readNumber
  dsimp only
  repeat' split
  all_goals
    first
    | exact .error
    | exact .ok (.plain rfl)
    | exact .ok (.float (Floating.Format.holds_ofDecimal (by decide) _ _ _))

theorem isDocument_of_mem_words : ∀ word ∈ words, word.2.IsDocument := by
  simp only [words, List.forall_mem_cons]
  refine ⟨.plain rfl, .plain rfl, .plain rfl, ?_, ?_, ?_, List.forall_mem_nil _⟩
  all_goals exact .float trivial

theorem yields_readAtom (cs : List Char) : Yields (readAtom cs) fun r => r.1.IsDocument := by
  unfold readAtom
  split
  · rename_i found hfound
    obtain ⟨word, hword, hafter⟩ := List.exists_of_findSome?_eq_some hfound
    obtain ⟨left, -, rfl⟩ := Option.map_eq_some_iff.mp hafter
    exact .ok (isDocument_of_mem_words word hword)
  · exact yields_readNumber cs

/-- Whatever is read within a bound is data. -/
structure ReadsDocuments (bound : Nat) : Prop where
  value : ∀ cs, Yields (readValue bound cs) fun r => r.1.IsDocument
  items : ∀ cs, Yields (readItems bound cs) fun r => ∀ v ∈ r.1, v.IsDocument
  members : ∀ cs, Yields (readMembers bound cs) fun r =>
    ∀ e ∈ r.1, e.1.IsDocument ∧ e.2.IsDocument

section

variable {bound : Nat}

theorem yields_readValue (below : ReadsDocuments bound) (cs : List Char) :
    Yields (readValue (bound + 1) cs) fun r => r.1.IsDocument := by
  unfold readValue
  split
  · exact .error
  · exact .build fun _ => .plain rfl
  · obtain rfl : bound = _ := Nat.succ.inj ‹_›
    split
    · exact .ok (.sequence (List.forall_mem_nil _))
    · exact (below.items _).map fun _ hitems => .sequence hitems
  · obtain rfl : bound = _ := Nat.succ.inj ‹_›
    split
    · exact .ok (.mapping List.nodup_nil (List.forall_mem_nil _) (List.forall_mem_nil _))
    · exact (below.members _).map fun _ hmembers => .ofList hmembers
  · exact yields_readAtom _

theorem yields_readItems (below : ReadsDocuments bound) (cs : List Char) :
    Yields (readItems (bound + 1) cs) fun r => ∀ v ∈ r.1, v.IsDocument := by
  rw [readItems]
  refine (below.value cs).bind fun (v, rest) hv => ?_
  dsimp only
  split
  · exact .ok (List.forall_mem_singleton.mpr hv)
  · exact (below.items _).map fun _ hitems => List.forall_mem_cons.mpr ⟨hv, hitems⟩
  · exact .error

theorem yields_readMembers (below : ReadsDocuments bound) (cs : List Char) :
    Yields (readMembers (bound + 1) cs) fun r =>
    ∀ e ∈ r.1, e.1.IsDocument ∧ e.2.IsDocument := by
  rw [readMembers]
  refine .after fun (name, rest) => (below.value rest).bind fun (v, rest) hv => ?_
  dsimp only
  split
  · exact .ok (List.forall_mem_singleton.mpr ⟨.plain rfl, hv⟩)
  · exact (below.members _).map fun _ hmembers =>
      List.forall_mem_cons.mpr ⟨⟨.plain rfl, hv⟩, hmembers⟩
  · exact .error

end

/-- The three readers go down together. -/
theorem readsDocuments : ∀ bound, ReadsDocuments bound
  | 0 => ⟨fun _ => .error, fun _ => .error, fun _ => .error⟩
  | bound + 1 =>
      ⟨yields_readValue (readsDocuments bound), yields_readItems (readsDocuments bound),
        yields_readMembers (readsDocuments bound)⟩

theorem yields_read (cs : List Char) : Yields (read cs) IsDocument := by
  unfold read
  dsimp only
  split
  · exact .error
  · refine ((readsDocuments _).value _).bind fun (v, rest) hv => ?_
    dsimp only
    split
    · exact .ok hv
    · exact .error

end Json

/-! ## YAML -/

namespace Yaml

open Value (IsDocument)
open Floating.Format (double Holds)

namespace Timed

variable {α β : Type} {P : α → Prop} {Q : β → Prop}

theorem yields_both {a : Timed α} {b : Timed β} (ha : Yields a P) (hb : Yields b Q) :
    Yields (both a b) fun r => P r.1 ∧ Q r.2 := by
  cases a with
  | error e => cases b <;> exact .error
  | ok x =>
      cases b with
      | error e => exact .error
      | ok y => exact .ok ⟨ha x rfl, hb y rfl⟩

theorem yields_all : ∀ {results : List (Timed α)}, (∀ x ∈ results, Yields x P) →
    Yields (all results) fun values => ∀ v ∈ values, P v
  | [], _ => .ok (List.forall_mem_nil _)
  | _ :: _, h => by
      obtain ⟨hfirst, hrest⟩ := List.forall_mem_cons.mp h
      exact (yields_both hfirst (yields_all hrest)).map fun _ hr => List.forall_mem_cons.mpr hr

end Timed

theorem yields_readTimestamp (text : List Char) : Yields (readTimestamp text) IsDocument := by
  unfold readTimestamp
  dsimp only
  split
  · split
    · exact .after fun _ => .ok (.plain rfl)
    · split
      all_goals exact .after fun _ => .after fun _ => .after fun _ => .ok (.plain rfl)
  · exact .error

theorem holds_ofWord? {cs : List Char} {x : Floating} (h : Floating.ofWord? cs = some x) :
    double.Holds x := by
  unfold Floating.ofWord? at h
  dsimp only at h
  split at h
  · cases h
    trivial
  · split at h
    · cases h
      trivial
    · cases h

theorem holds_read? {s : String} {x : Floating} (h : Floating.read? s = some x) :
    double.Holds x := by
  unfold Floating.read? at h
  obtain ⟨cs, -, h⟩ := Option.bind_eq_some_iff.mp h
  split at h
  · cases h
    exact Floating.Format.holds_ofDecimal (by decide) _ _ _
  · exact holds_ofWord? h

theorem holds_floatOf (cs : List Char) : Yields (floatOf cs) double.Holds := by
  unfold floatOf
  split
  · exact .ok (holds_read? ‹_›)
  · exact .error

theorem holds_sixtyfoldFloat {digits : List Floating} {unit : Nat} {sum : Floating}
    (hsum : double.Holds sum) : double.Holds (sixtyfoldFloat digits unit sum) := by
  induction digits generalizing unit sum with
  | nil => exact hsum
  | cons d rest ih =>
      exact ih (Floating.Format.holds_add (by decide) hsum
        (Floating.Format.holds_mul (by decide) _ _))

/-- Numbers with a point, words and sums of powers of sixty are all rounded to
double precision. -/
theorem holds_readFloat (text : List Char) : Yields (readFloat text) double.Holds := by
  unfold readFloat
  refine .after fun (negative, cs) => ?_
  dsimp only
  have hsigned (x : Floating) (hx : double.Holds x) :
      Yields (pure (if negative then x.negate else x) : Except Problem Floating) double.Holds := by
    refine .ok ?_
    split
    · exact Floating.Format.holds_negate hx
    · exact hx
  split
  · exact Yields.bind (.ok trivial) hsigned
  · split
    · exact Yields.bind (.ok trivial) hsigned
    · split
      · exact .after fun _ =>
          Yields.bind (.ok (holds_sixtyfoldFloat Floating.Format.holds_zero)) hsigned
      · exact (holds_floatOf cs).bind hsigned

/-- A scalar is read as a value without parts. -/
theorem yields_scalarValue {tag : Tag} {valueOf : List Char → Except Problem Value}
    (h : scalarValue? tag = some valueOf) (text : List Char) : Yields (valueOf text) IsDocument := by
  unfold scalarValue? at h
  repeat' split at h
  all_goals cases h
  -- in the order of the tags: nothing, truth values, numbers, bytes, moments, texts
  · exact .ok (.plain rfl)
  · dsimp only
    split
    · exact .ok (.plain rfl)
    · exact .error
  · exact .build fun _ => .plain rfl
  · exact (holds_readFloat text).map fun _ hx => .float hx
  · exact .build fun _ => .plain rfl
  · exact yields_readTimestamp text
  · exact .ok (.plain rfl)

theorem yields_scalarAt {node : Node} {valueOf : List Char → Except Problem Value}
    (h : ∀ text, Yields (valueOf text) IsDocument) : Yields (scalarAt node valueOf) IsDocument := by
  have htext : Yields (scalarAt.scalarText node valueOf) IsDocument := by
    unfold scalarAt.scalarText
    cases node.text? with
    | none => exact .error
    | some text => exact h text
  unfold scalarAt
  split
  · exact .error
  · split
    · exact .error
    · exact htext
  · exact htext

theorem yields_valueAt : ∀ (height round : Nat) (node : Node),
    Yields (valueAt height round node) IsDocument
  | 0, _, _ => .error
  | height + 1, round, node => by
      have below := yields_valueAt height (round + 1)
      -- a pair holds documents, and so does an entry
      have hpair (k v : Node) : Yields ((Timed.both (valueAt height (round + 1) k)
          (valueAt height (round + 1) v)).map fun r => Value.sequence .tuple [r.1, r.2]) IsDocument :=
        (Timed.yields_both (below k) (below v)).map fun r hr => .sequence (by simpa using hr)
      have hkey (k : Node) : Yields (if k.tag.isCollection then .error (round + 1, .malformed)
          else valueAt height (round + 1) k : Timed Value) IsDocument := by
        split
        · exact .error
        · exact below k
      rw [valueAt.eq_def]
      dsimp only
      split
      · rename_i valueOf hvalueOf
        have hscalar : Yields (scalarAt node valueOf) IsDocument :=
          yields_scalarAt (yields_scalarValue hvalueOf)
        exact hscalar.mapError
      split
      -- a sequence
      · split
        · exact (Timed.yields_all (List.forall_mem_map.mpr fun item _ => below item)).map
            fun _ hitems => .sequence hitems
        · exact .error
      split
      -- an ordered mapping or a list of pairs
      · split
        · refine (Timed.yields_all (P := IsDocument) (List.forall_mem_map.mpr fun item _ => ?_)).map
            fun _ hitems => .sequence hitems
          split
          · exact hpair _ _
          · exact .error
        · exact .error
      split
      -- a mapping
      · refine .map (P := fun es => ∀ e ∈ es, e.1.IsDocument ∧ e.2.IsDocument) ?_
          fun es hes => .ofList hes
        split
        · exact .error
        · exact Timed.yields_all (List.forall_mem_map.mpr fun entry _ =>
            Timed.yields_both (hkey entry.1) (below entry.2))
      split
      -- a set
      · exact .build fun _ => .plain rfl
      · exact .error

theorem yields_read (text : List Char) : Yields (read text) IsDocument := by
  unfold read
  refine .after fun node? => ?_
  split
  · exact .ok (.plain rfl)
  · split
    · rename_i v hv
      exact .ok (yields_valueAt _ _ _ v hv)
    · exact .error

end Yaml

/-! ## Files -/

namespace Document

open Value (IsData IsDocument)

theorem yields_read (format : DocumentFormat) (text : List Char) :
    Yields (read format text) IsDocument := by
  cases format with
  | yaml => exact (Yaml.yields_read text).mapError
  | json => exact (Json.yields_read text).mapError

/-- A schema document is a mapping that is read from the text. -/
theorem yields_loadSchema (format : String) (text : String) :
    Yields (loadSchema format text) fun v => v.IsDocument ∧ ∃ entries, v = .dict entries := by
  have hload : Yields (load format text) IsDocument := by
    unfold load
    split
    · exact yields_read _ _
    · exact .error
  refine hload.bind fun v hv => ?_
  unfold asSchema
  split
  · exact .ok ⟨hv, _, rfl⟩
  · exact .error

/-- What a file holds is data. -/
theorem yields_loadFile (files : Files) (path : String) : Yields (loadFile files path) IsData := by
  unfold loadFile
  dsimp only
  split
  · exact .error
  · split
    · exact .error
    · exact .error
    · exact fun v hv => (yields_read _ _ v hv).isData

/-- A schema document is the mapping that its file holds. -/
theorem loadSchemaFile_eq_ok {files : Files} {path : String} {v : Value} :
    loadSchemaFile files path = .ok v ↔
      loadFile files path = .ok v ∧ ∃ entries, v = .mapping .plain entries := by
  unfold loadSchemaFile
  rw [bind_eq_ok]
  constructor
  · rintro ⟨w, hw, h⟩
    unfold asSchema at h
    split at h
    · cases h
      exact ⟨hw, _, rfl⟩
    · cases h
  · rintro ⟨hload, entries, rfl⟩
    exact ⟨_, hload, rfl⟩

end Document

/-! ## Schema documents -/

/-- The options of a form and the names of its fields are texts, what it lists can be
told, and a text under `test` is read as a pattern or refused as malformed, for more than
the name that it gives a character. -/
structure IsOrdinary (form : Entries) : Prop where
  options : TextKeys form
  names : TextKeys (formFields form)
  told : WritableOptions form
  source : ∀ v source, option? form "test" = some v → v.text? = some source →
    (∃ p, Pattern.read (.text source) = .ok p) ∨
      ∃ cause position, Pattern.read (.text source) = .error (.fault cause position) ∧
        ∀ name, cause ≠ .undefinedCharacter name

namespace Compilation

variable {r : Registry} {raw : Value} {form : Entries}

/-- A raw field is written as the form that it stands for, or the form has no
options but its type and its children. -/
theorem form_cases (h : expand? r raw = some form) :
    (∃ kind, raw = .mapping kind form) ∨
      ∀ name, name ≠ "type" → name ≠ "child" → option? form name = none := by
  have hshort (type child : Value) (name : String) (htype : name ≠ "type")
      (hchild : name ≠ "child") :
      option? [(.text "type", type), (.text "child", child)] name = none := by
    simp [Entries.option?_cons, Entries.option?_nil, htype.symm, hchild.symm]
  unfold expand? at h
  split at h
  · cases h
    refine .inr fun name htype _ => ?_
    simp [Entries.option?_cons, Entries.option?_nil, htype.symm]
  · split at h
    · cases h
      exact .inr (hshort _ _)
    · split at h
      · cases h
        exact .inl ⟨_, rfl⟩
      · cases h
        exact .inr (hshort _ _)
    · simp at h

/-- No form in a document has a compiled pattern. -/
theorem everyForm_searchesText (hdata : raw.IsData) :
    EveryForm r Capability.SearchesText raw := by
  refine .of_everyMapping (fun raw form hform hraw => ?_) hdata.searchesText
  rcases form_cases hform with ⟨kind, rfl⟩ | hnone
  · exact (Value.EveryMapping.mapping_iff.mp hraw).1
  · intro p hp
    simp [hnone "test" (by decide) (by decide)] at hp

/-- The form of a document is one, and so are its parts. -/
theorem isDocument_form (hform : expand? r raw = some form) (h : raw.IsDocument) :
    (Value.dict form).IsDocument := by
  have htext (s : String) : (Value.text s).IsDocument := .plain rfl
  have hshort {child : Value} (tag : String) (hchild : child.IsDocument) :
      (Value.dict [(.text "type", .text tag), (.text "child", child)]).IsDocument := by
    refine Value.IsDocument.mapping_iff.mpr ⟨rfl, ?_, by simp [hchild, htext]⟩
    show ["type", "child"].Nodup
    decide
  unfold expand? at hform
  split at hform
  · cases hform
    exact Value.IsDocument.mapping_iff.mpr
      ⟨rfl, List.nodup_singleton "type", by simp [h, htext]⟩
  · split at hform
    · cases hform
      exact hshort _ (.sequence (Value.IsDocument.sequence_iff.mp h))
    · obtain rfl := (Value.IsDocument.mapping_iff.mp h).1
      split at hform
      · cases hform
        exact h
      · cases hform
        exact hshort _ h
    · cases hform

theorem isDocument_of_mem_formParts (h : (Value.dict form).IsDocument) :
    ∀ part ∈ formParts form, part.IsDocument := by
  intro part hpart
  obtain ⟨child, hchild, ⟨kind, entries, rfl, e, he, rfl⟩ | ⟨kind, items, rfl, hitem⟩⟩ :=
    exists_child_of_mem_formParts hpart
  · exact ((Value.IsDocument.mapping_iff.mp (h.option? hchild)).2.2 e he).2
  · exact Value.IsDocument.sequence_iff.mp (h.option? hchild) part hitem

theorem isDocument_formFields (h : (Value.dict form).IsDocument) :
    (Value.dict (formFields form)).IsDocument := by
  have hnone : (Value.dict []).IsDocument :=
    .mapping List.nodup_nil (List.forall_mem_nil _) (List.forall_mem_nil _)
  unfold formFields
  cases hchild : option? form "child" with
  | none => exact hnone
  | some child =>
      cases child with
      | mapping kind entries =>
          have hdocument := h.option? hchild
          obtain rfl := (Value.IsDocument.mapping_iff.mp hdocument).1
          exact hdocument
      | _ => exact hnone

/-- Ordinary forms of a document can be compiled and checked with. -/
theorem everyForm_of_isOrdinary (hdata : raw.IsData) (hraw : EveryForm r IsOrdinary raw) :
    EveryForm r IsLegible raw ∧ EveryForm r IsTextual raw := by
  have hforms := hraw.and (everyForm_searchesText hdata)
  constructor
  · refine hforms.mono fun form ⟨h, hpattern⟩ => ⟨⟨h.options, hpattern, fun v source hv htext => ?_⟩,
      fun name hname => (h.names name hname).isWritable⟩
    rcases h.source v source hv htext with hread | ⟨cause, position, hread, -⟩
    · exact .inl hread
    · exact .inr ⟨cause, position, hread⟩
  · exact hforms.mono fun form ⟨h, hpattern⟩ => ⟨h.names, hpattern, h.told⟩

end Compilation

end DataShape
