import DataShape.Registry
import DataShape.Proofs.Entries
import Mathlib

/-!
# Reachable registries and the types in them

A registry is reached by registrations, successful or not, from the empty one
or from the one with the built-in types. Whatever was registered, a capability
that is found in it is a built-in one or one that was handed in.

A type that somebody adds may do anything. What the compiler relies on is that
its check of options keeps the field and that membership does not look at the
options' own list; among the built-in types only texts keep another field.
-/

namespace DataShape

open Entries (option? setOption)

/-! ## What a type does to a field -/

namespace Capability

/-- The check of options keeps a field that it accepts, and membership does not
read the `enum` of the field. -/
structure Conservative (c : Capability) : Prop where
  keeps : ∀ field path kept, c.checkField field path = .ok kept → kept = field
  ignoresEnum : ∀ v field options,
    c.accepts v (setOption field "enum" options) = c.accepts v field

/-- A type that the compiler can rely on. -/
def Regular (c : Capability) : Prop := c = Capability.string ∨ c.Conservative

theorem number_conservative : Conservative number where
  keeps := by
    intro field path kept h
    simp only [number] at h
    split at h
    · exact (Except.ok.inj h).symm
    · exact (Except.ok.inj h).symm
    · simp at h
  ignoresEnum := by
    intro v field options
    simp only [number, Entries.isOn]
    rw [Entries.option?_setOption_of_ne _ _ (by decide)]

theorem conservative_of_defaults {c : Capability}
    (hcheck : c.checkField = fun field _ => .ok field)
    (haccepts : ∀ v field field', c.accepts v field = c.accepts v field') :
    c.Conservative where
  keeps := by
    intro field path kept h
    rw [hcheck] at h
    exact (Except.ok.inj h).symm
  ignoresEnum := fun v field options => haccepts v _ _

/-- What holds for each of the built-in types holds for all of them. -/
@[elab_as_elim]
theorem builtins_cases {motive : (c : Capability) → c ∈ builtins → Prop}
    (string : ∀ h, motive string h) (number : ∀ h, motive number h)
    (boolean : ∀ h, motive boolean h) (date : ∀ h, motive date h)
    (object : ∀ h, motive object h) (array : ∀ h, motive array h)
    {c : Capability} (h : c ∈ builtins) : motive c h := by
  have hc := h
  simp only [builtins, List.mem_cons, List.not_mem_nil, or_false] at hc
  rcases hc with rfl | rfl | rfl | rfl | rfl | rfl
  · exact string h
  · exact number h
  · exact boolean h
  · exact date h
  · exact object h
  · exact array h

theorem regular_of_builtin {c : Capability} (h : c ∈ builtins) : c.Regular := by
  cases h using builtins_cases with
  | string => exact Or.inl rfl
  | number => exact Or.inr number_conservative
  | _ => exact Or.inr (conservative_of_defaults rfl fun _ _ _ => rfl)

/-- Texts keep a field as it is, or with the source in `test` read as a
pattern. -/
theorem of_compileTest_eq_ok {field kept : Entries} {path : Option String}
    (h : compileTest field path = .ok kept) :
    (kept = field ∧ ∀ v, option? field "test" = some v → ∃ p, v = .pattern p) ∨
    ∃ v source p, option? field "test" = some v ∧ v.text? = some source ∧
      Pattern.read (.text source) = .ok p ∧
      kept = setOption field "test" (.pattern p) := by
  unfold compileTest at h
  split at h
  · rename_i htest
    exact Or.inl ⟨(Except.ok.inj h).symm, fun v hv => by simp [htest] at hv⟩
  · rename_i p htest
    refine Or.inl ⟨(Except.ok.inj h).symm, fun v hv => ⟨p, ?_⟩⟩
    rw [htest, Option.some.injEq] at hv
    exact hv.symm
  · rename_i v _ htest
    split at h
    · simp at h
    · rename_i source hsource
      split at h
      · rename_i p hread
        exact Or.inr ⟨v, source, p, htest, hsource, hread, (Except.ok.inj h).symm⟩
      · simp at h
      · simp at h

theorem compileTest_of_pattern {field : Entries} (path : Option String)
    (h : ∀ v, option? field "test" = some v → ∃ p, v = .pattern p) :
    compileTest field path = .ok field := by
  unfold compileTest
  cases htest : option? field "test" with
  | none => rfl
  | some v =>
      obtain ⟨p, rfl⟩ := h v htest
      rfl

namespace Regular

variable {c : Capability} (hc : c.Regular)

include hc

theorem accepts_setOption_enum (v options : Value) (field : Entries) :
    c.accepts v (setOption field "enum" options) = c.accepts v field := by
  rcases hc with rfl | hc
  · simp only [string]
    rw [Entries.option?_setOption_of_ne _ _ (by decide)]
  · exact hc.ignoresEnum v field options

theorem checkField_cases {field kept : Entries} {path : Option String}
    (h : c.checkField field path = .ok kept) :
    kept = field ∨ c = Capability.string ∧ ∃ p, (option? field "test").isSome ∧
      kept = setOption field "test" (.pattern p) := by
  rcases hc with rfl | hc
  · rcases of_compileTest_eq_ok h with ⟨rfl, -⟩ | ⟨v, source, p, hv, -, -, rfl⟩
    · exact Or.inl rfl
    · exact Or.inr ⟨rfl, p, by simp [hv], rfl⟩
  · exact Or.inl (hc.keeps field path kept h)

theorem keys_checkField {field kept : Entries} {path : Option String}
    (h : c.checkField field path = .ok kept) :
    Entries.keys kept = Entries.keys field := by
  rcases hc.checkField_cases h with rfl | ⟨-, p, hsome, rfl⟩
  · rfl
  · exact Entries.keys_setOption_of_isSome _ hsome

theorem option?_checkField {field kept : Entries} {path : Option String}
    (h : c.checkField field path = .ok kept) {name : String} (hne : name ≠ "test") :
    option? kept name = option? field name := by
  rcases hc.checkField_cases h with rfl | ⟨-, p, -, rfl⟩
  · rfl
  · exact Entries.option?_setOption_of_ne _ _ hne

/-- The pattern of a kept field is the one that was given or is read from the
given source. -/
theorem test_checkField {field kept : Entries} {path : Option String}
    (h : c.checkField field path = .ok kept) :
    (option? kept "test" = option? field "test" ∧
      (c = Capability.string → ∀ v, option? field "test" = some v → ∃ p, v = .pattern p)) ∨
    c = Capability.string ∧ ∃ v source p, option? field "test" = some v ∧
      v.text? = some source ∧ Pattern.read (.text source) = .ok p ∧
      option? kept "test" = some (.pattern p) := by
  by_cases hstring : c = Capability.string
  · subst hstring
    rcases of_compileTest_eq_ok h with ⟨rfl, hpattern⟩ |
      ⟨v, source, p, hv, hsource, hread, rfl⟩
    · exact Or.inl ⟨rfl, fun _ => hpattern⟩
    · exact Or.inr ⟨rfl, v, source, p, hv, hsource, hread,
        Entries.option?_setOption_self _ _ _⟩
  · rcases hc.checkField_cases h with rfl | ⟨hstring', -⟩
    · exact Or.inl ⟨rfl, fun hstring' => absurd hstring' hstring⟩
    · exact absurd hstring' hstring

end Regular

theorem number_checkField {field kept : Entries} {path : Option String}
    (h : number.checkField field path = .ok kept) :
    ∀ v, option? field "coerce" = some v → ∃ b, v = .bool b := by
  intro v hv
  cases v with
  | bool b => exact ⟨b, rfl⟩
  | _ => simp [number, hv] at h

end Capability

/-! ## What registrations leave in a registry -/

namespace Registry

theorem mem_assign {κ α : Type} {same : κ → κ → Bool} {key k : κ} {v w : α} :
    ∀ {entries : List (κ × α)}, (k, w) ∈ assign same key v entries →
      w = v ∨ (k, w) ∈ entries
  | [], h => by
      rw [assign, List.mem_singleton] at h
      exact Or.inl (congrArg Prod.snd h)
  | e :: rest, h => by
      rw [assign] at h
      split at h
      · rcases List.mem_cons.mp h with h | h
        · exact Or.inl (congrArg Prod.snd h)
        · exact Or.inr (List.mem_cons_of_mem _ h)
      · rcases List.mem_cons.mp h with h | h
        · exact Or.inr (h ▸ List.mem_cons_self)
        · rcases mem_assign h with h | h
          · exact Or.inl h
          · exact Or.inr (List.mem_cons_of_mem _ h)

theorem types_setAliases (tag : String) :
    ∀ (vs : List Value) (r : Registry), (setAliases tag vs r).1.types = r.types
  | [], r => rfl
  | v :: rest, r => by
      rw [setAliases, setAlias]
      cases v.unhashable? with
      | none => exact types_setAliases tag rest _
      | some name => rfl

theorem mem_types_register {r : Registry} {tag aliases : Value}
    {candidate : Candidate} {name : String} {c : Capability}
    (h : (name, c) ∈ (r.register tag candidate aliases).1.types) :
    candidate = .capability c ∨ (name, c) ∈ r.types := by
  unfold register at h
  split at h
  · exact Or.inr h
  · split at h
    · exact Or.inr h
    · cases candidate with
      | other v => exact Or.inr h
      | capability c' =>
          -- the aliases leave the types alone, also where one cannot be recorded
          have hset : ∀ {name' : String}, (name, c) ∈ (r.setType name' c').types →
              Candidate.capability c' = .capability c ∨ (name, c) ∈ r.types := by
            intro name' h
            rcases mem_assign h with rfl | h
            · exact Or.inl rfl
            · exact Or.inr h
          dsimp only at h
          split at h
          · rw [types_setAliases] at h
            exact hset h
          · exact hset h

/-- The registry of the built-in types: each under its own name, and its aliases with
that name. -/
theorem builtin_eq : Registry.builtin =
    { types := Capability.builtins.map fun c => (c.name, c),
      aliases := Capability.builtins.flatMap fun c => c.aliases.map fun v => (v, c.name) } := by
  cbv

theorem mem_types_builtin {tag : String} {c : Capability}
    (h : (tag, c) ∈ Registry.builtin.types) : c ∈ Capability.builtins ∧ tag = c.name := by
  rw [builtin_eq] at h
  obtain ⟨c', hc', heq⟩ := List.mem_map.mp h
  cases heq
  exact ⟨hc', rfl⟩

theorem mem_types_of_capability? {r : Registry} {tag : String} {c : Capability}
    (h : r.capability? tag = some c) : (tag, c) ∈ r.types := by
  obtain ⟨before, after, htypes, -⟩ := List.lookup_eq_some_iff.mp h
  rw [htypes]
  exact List.mem_append_right _ List.mem_cons_self

/-- The registries that registrations lead to, the failing ones among them,
where the types that are handed in satisfy `P`. -/
inductive Reachable (P : Capability → Prop) : Registry → Prop
  | unseeded : Reachable P {}
  | seeded : Reachable P Registry.builtin
  | register {r : Registry} (before : Reachable P r) (tag : Value)
      (candidate : Candidate) (aliases : Value)
      (handedIn : ∀ c, candidate = .capability c → c ∈ Capability.builtins ∨ P c) :
      Reachable P (r.register tag candidate aliases).1

theorem Reachable.of_mem_types {P : Capability → Prop} {r : Registry}
    (hr : Reachable P r) {tag : String} {c : Capability} (h : (tag, c) ∈ r.types) :
    c ∈ Capability.builtins ∨ P c := by
  induction hr with
  | unseeded => simp at h
  | seeded => exact Or.inl (mem_types_builtin h).1
  | register before tag' candidate aliases handedIn ih =>
      rcases mem_types_register h with h | h
      · exact handedIn c h
      · exact ih h

/-- Every type that is found in the registry is one to rely on. -/
def Regular (r : Registry) : Prop :=
  ∀ tag c, r.capability? tag = some c → c.Regular

theorem Reachable.regular {r : Registry}
    (hr : Reachable Capability.Conservative r) : r.Regular := by
  intro tag c h
  rcases hr.of_mem_types (mem_types_of_capability? h) with h | h
  · exact Capability.regular_of_builtin h
  · exact Or.inr h

end Registry

end DataShape
