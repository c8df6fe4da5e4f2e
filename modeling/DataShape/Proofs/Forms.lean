import DataShape.Proofs.Keys

/-!
# The forms in a raw field

A raw field stands for a form, and the parts of the form are raw fields again.
What is asked of a raw field is asked of the form at every level of it. Wherever
the compiler accepts a raw field, what holds for its forms can be used at the
nodes of the compiled field.
-/

namespace DataShape

open Entries (option? keys fields)

/-! ## Texts as keys -/

/-- The value is a text, machine scalars included. -/
def Value.IsText (v : Value) : Prop := ∃ s, v.text? = some s

theorem Value.isText_text (s : String) : (Value.text s).IsText := ⟨s, rfl⟩

/-- Every key is a text. -/
def TextKeys (entries : Entries) : Prop := ∀ key ∈ keys entries, key.IsText

namespace Entries

/-- An option is there if some key has the characters of its name. -/
theorem option?_eq_none_iff {field : Entries} {name : String} :
    option? field name = none ↔ ∀ key ∈ keys field, key.text? ≠ some name := by
  induction field with
  | nil => simp [option?_nil, keys]
  | cons e rest ih =>
      rw [option?_cons]
      show _ ↔ ∀ key ∈ e.1 :: keys rest, key.text? ≠ some name
      rw [List.forall_mem_cons, ← ih]
      by_cases hname : e.1.text? = some name
      · simp [hname]
      · simp [hname]

theorem exists_key_of_option? {field : Entries} {name : String} {v : Value}
    (h : option? field name = some v) : ∃ key ∈ keys field, key.text? = some name := by
  by_contra hnone
  have := option?_eq_none_iff.mpr fun key hkey htext => hnone ⟨key, hkey, htext⟩
  simp [h] at this

end Entries

/-- A pattern keeps what it was read from. -/
theorem Pattern.source_of_read {source : Source} {options : Options} {p : Pattern}
    (h : read source options = .ok p) : p.source = source := by
  obtain ⟨result, -, rfl⟩ := map_eq_ok.mp h
  rfl

/-! ## What raw fields stand for -/

theorem Registry.contains_mapping (r : Registry) (kind : MappingKind) (entries : Entries) :
    r.contains (.mapping kind entries) = false := by
  cases kind <;> rfl

namespace Compilation

variable {r : Registry}

theorem expand?_of_contains {raw : Value} (h : r.contains raw = true) :
    expand? r raw = some [(.text "type", raw)] := by
  unfold expand?
  exact if_pos h

theorem expand?_sequence {kind : SequenceKind} {items : List Value}
    (h : r.contains (.sequence kind items) = false) :
    expand? r (.sequence kind items) =
      some [(.text "type", .text Capability.arrayTag), (.text "child", .list items)] := by
  rw [expand?, h, if_neg Bool.false_ne_true]

theorem expand?_typed {kind : MappingKind} {node : Entries} {type : Value}
    (h : option? node "type" = some type) : expand? r (.mapping kind node) = some node := by
  rw [expand?, r.contains_mapping, if_neg Bool.false_ne_true, h]
  rfl

theorem expand?_untyped {kind : MappingKind} {entries : Entries}
    (h : option? entries "type" = none) : expand? r (.mapping kind entries) =
      some [(.text "type", .text Capability.objectTag), (.text "child", .dict entries)] := by
  rw [expand?, r.contains_mapping, if_neg Bool.false_ne_true, h]
  rfl

/-- The options of the form that a short form stands for. -/
theorem option?_type_short (type child : Value) :
    option? [(.text "type", type), (.text "child", child)] "type" = some type := by
  simp [Entries.option?_cons]

theorem option?_child_short (type child : Value) :
    option? [(.text "type", type), (.text "child", child)] "child" = some child := by
  simp [Entries.option?_cons]

/-! ## Every form in a raw field -/

/-- Something holds for the form that a raw field stands for and for the forms
of all raw fields in it. -/
inductive EveryForm (r : Registry) (P : Entries → Prop) : Value → Prop
  | formless {raw : Value} (expands : expand? r raw = none) : EveryForm r P raw
  | form {raw : Value} {form : Entries} (expands : expand? r raw = some form)
      (here : P form) (below : ∀ part ∈ formParts form, EveryForm r P part) :
      EveryForm r P raw

namespace EveryForm

variable {r : Registry} {P : Entries → Prop} {raw : Value} {form : Entries}

theorem at_root (h : EveryForm r P raw) (hform : expand? r raw = some form) : P form := by
  cases h with
  | formless expands => simp [expands] at hform
  | form expands here below =>
      obtain rfl : _ = form := Option.some.inj (expands.symm.trans hform)
      exact here

theorem of_mem_formParts (h : EveryForm r P raw) (hform : expand? r raw = some form) :
    ∀ part ∈ formParts form, EveryForm r P part := by
  cases h with
  | formless expands => simp [expands] at hform
  | form expands here below =>
      obtain rfl : _ = form := Option.some.inj (expands.symm.trans hform)
      exact below

/-- The name of a type stands for a form without parts. -/
theorem of_contains (h : r.contains raw = true) (here : P [(.text "type", raw)]) :
    EveryForm r P raw := by
  refine .form (expand?_of_contains h) here fun part hpart => ?_
  simp [formParts, formFields, formAlternatives, Entries.option?_cons, Entries.option?_nil,
    Value.entries?, Value.items?] at hpart

theorem mono {Q : Entries → Prop} (hPQ : ∀ form, P form → Q form) (h : EveryForm r P raw) :
    EveryForm r Q raw := by
  induction h with
  | formless expands => exact .formless expands
  | form expands here below ih => exact .form expands (hPQ _ here) ih

theorem and {Q : Entries → Prop} (hP : EveryForm r P raw) (hQ : EveryForm r Q raw) :
    EveryForm r (fun form => P form ∧ Q form) raw := by
  induction hP with
  | formless expands => exact .formless expands
  | form expands here below ih =>
      exact .form expands ⟨here, hQ.at_root expands⟩ fun part hpart =>
        ih part hpart (hQ.of_mem_formParts expands part hpart)

end EveryForm

theorem height_child_le {r : Registry} {raw child : Value} {form : Entries}
    (hform : expand? r raw = some form) (hchild : option? form "child" = some child) :
    child.height ≤ raw.height := by
  rcases child_cases hform hchild with
    ⟨kind, items, rfl, rfl⟩ | ⟨kind, entries, rfl, rfl | hchild⟩
  · simp [Value.height]
  · simp [Value.height]
  · exact Nat.le_succ_of_le (Entries.height_option?_le hchild)

theorem height_lt_of_mem_formParts {form : Entries} {part : Value}
    (h : part ∈ formParts form) :
    ∃ child, option? form "child" = some child ∧ part.height < child.height := by
  obtain ⟨child, hchild, ⟨kind, entries, rfl, e, he, rfl⟩ | ⟨kind, items, rfl, hitem⟩⟩ :=
    exists_child_of_mem_formParts h
  · exact ⟨_, hchild, Nat.lt_succ_of_le (Value.height_le_maxEntryHeight he).2⟩
  · exact ⟨_, hchild, Nat.lt_succ_of_le (Value.height_le_maxHeight hitem)⟩

/-- What holds for the form of a raw field because something holds for all
mappings in it is true for every form. The raw fields get lower on the way. -/
theorem EveryForm.of_everyMapping {r : Registry} {P Q : Entries → Prop}
    (hform : ∀ raw form, expand? r raw = some form → raw.EveryMapping P → Q form)
    {raw : Value} (hraw : raw.EveryMapping P) : EveryForm r Q raw := by
  cases hexpand : expand? r raw with
  | none => exact .formless hexpand
  | some form =>
      refine .form hexpand (hform raw form hexpand hraw) fun part hpart => ?_
      have hlower : part.height < raw.height := by
        obtain ⟨child, hchild, hlt⟩ := height_lt_of_mem_formParts hpart
        exact Nat.lt_of_lt_of_le hlt (height_child_le hexpand hchild)
      exact of_everyMapping hform (everyMapping_of_mem_formParts
        (fun _ hchild => everyMapping_child hexpand hraw hchild) part hpart)
termination_by raw.height

/-- What every step makes of a form for which something holds is true at every
node of the compiled field, if it holds for every form in the raw one. -/
theorem everyNode_of_everyForm {r : Registry} {P : Entries → Prop}
    {N : Option String → Entries → Prop} {limit : Int} (hr : r.Regular)
    (hstep : ∀ {levels path tag c form out}, P form →
      Outcome r (compileField r limit levels) path tag c form out → N path out)
    {levels : Nat} {path : Option String} {raw : Value} {out : Entries}
    (hraw : EveryForm r P raw) (h : compileField r limit levels path raw = .ok out) :
    EveryNode N path (.dict out) := by
  refine everyNode_of_compileField (Q := EveryForm r P) hr
    (fun hform hevery => hevery.of_mem_formParts hform) (fun hevery hs => ?_) hraw h
  obtain ⟨form, tag, c, hform, houtcome⟩ := hs.outcome hr
  exact hstep (hevery.at_root hform) houtcome

end Compilation

end DataShape
