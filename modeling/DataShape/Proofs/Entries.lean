import DataShape.Capability

/-!
# Entries under text keys

The options of a field and the fields of a schema are entries whose keys are
texts. A text key meets exactly the keys with the same characters, so that
looking up and setting options obey the laws of a finite map that keeps the
order of its keys.
-/

namespace DataShape

/-! ## Results in sequence -/

theorem bind_eq_ok {ε α β : Type} {x : Except ε α} {f : α → Except ε β} {b : β} :
    (x >>= f) = .ok b ↔ ∃ a, x = .ok a ∧ f a = .ok b := by
  cases x with
  | error fault => simp [bind, Except.bind]
  | ok a => simp [bind, Except.bind]

theorem map_eq_ok {ε α β : Type} {x : Except ε α} {f : α → β} {b : β} :
    (f <$> x) = .ok b ↔ ∃ a, x = .ok a ∧ f a = b := by
  cases x with
  | error fault => simp [Functor.map, Except.map]
  | ok a => simp [Functor.map, Except.map]

theorem pure_eq_ok {ε α : Type} {a b : α} :
    (pure a : Except ε α) = .ok b ↔ a = b := by
  simp [pure, Except.pure]

/-- A step that a condition chooses comes before what follows it. -/
theorem ite_bind {ε α β : Type} {p : Prop} [Decidable p] {x y : Except ε α}
    {f : α → Except ε β} :
    (if p then x >>= f else y >>= f) = (if p then x else y) >>= f := by
  split <;> rfl

/-! ## Computations that fail -/

/-- Whatever the computation fails with has the property. -/
def FailsOnly {ε α : Type} (x : Except ε α) (E : ε → Prop) : Prop := ∀ e, x = .error e → E e

namespace FailsOnly

variable {ε ε' α β : Type} {E : ε → Prop} {E' : ε' → Prop} {x : Except ε α}

theorem ok {a : α} : FailsOnly (.ok a : Except ε α) E := nofun

theorem error {e : ε} (h : E e) : FailsOnly (.error e : Except ε α) E := by
  rintro e' ⟨⟩
  exact h

theorem bind {f : α → Except ε β} (hx : FailsOnly x E) (hf : ∀ a, x = .ok a → FailsOnly (f a) E) :
    FailsOnly (x >>= f) E := by
  cases x with
  | error e => exact error (hx e rfl)
  | ok a => exact hf a rfl

theorem map {f : α → β} (hx : FailsOnly x E) : FailsOnly (x.map f) E := by
  cases x with
  | error e => exact error (hx e rfl)
  | ok a => exact ok

theorem mapError {f : ε → ε'} (hx : FailsOnly x E) (hf : ∀ e, E e → E' (f e)) :
    FailsOnly (x.mapError f) E' := by
  cases x with
  | error e => exact error (hf e (hx e rfl))
  | ok a => exact ok

end FailsOnly

/-! ## Integers that are too long -/

namespace Text

theorem million_le_firstTooLong : 1000000 ≤ firstTooLong := by
  unfold firstTooLong
  decide

/-- An integer below a million is not too long to be written. -/
theorem isTooLong_of_natAbs_lt {n : Int} (h : n.natAbs < 1000000) : isTooLong n = false := by
  simpa [isTooLong] using Nat.lt_of_lt_of_le h million_le_firstTooLong

end Text

/-! ## Texts as values -/

namespace Value

@[simp] theorem text?_text (s : String) : (Value.text s).text? = some s := rfl

theorem eq_of_text?_eq_some {v : Value} {s : String} (h : v.text? = some s) :
    v = .text s ∨ v = .scalar (.text s) := by
  cases v with
  | text t =>
      rw [text?, Option.some.injEq] at h
      exact Or.inl (by rw [h])
  | scalar x =>
      cases x with
      | text t =>
          rw [text?, Option.some.injEq] at h
          exact Or.inr (by rw [h])
      | _ => simp [text?] at h
  | _ => simp [text?] at h

/-- A text is one key with the values of the same characters and with no
other value. -/
theorem sameKey_of_text? {a : Value} {s : String} (h : a.text? = some s)
    (b : Value) : a.sameKey b = (b.text? == some s) := by
  have hsymm : ∀ t : String, (s == t) = (t == s) := fun t => BEq.comm
  rcases eq_of_text?_eq_some h with rfl | rfl
  all_goals
    unfold sameKey
    rw [sameAs.eq_def]
    cases b with
    | scalar x =>
        cases x <;>
          simp [sameLeaf, timing?, Scalar.timing?, sameContent, quantity?, text?, hsymm]
    | text t => simp [sameLeaf, timing?, Scalar.timing?, sameContent, quantity?, text?, hsymm]
    | _ => simp [sameLeaf, timing?, Scalar.timing?, sameContent, quantity?, text?]

theorem display_of_text? {v : Value} {s : String} (h : v.text? = some s) :
    v.display = s := by
  rcases eq_of_text?_eq_some h with rfl | rfl
  · rfl
  · rfl

theorem filled_of_text? {v : Value} {s : String} (h : v.text? = some s) :
    v.filled = s := by
  rcases eq_of_text?_eq_some h with rfl | rfl
  · rfl
  · rfl

/-- A text can be written, whatever it holds. -/
theorem isWritable_of_text? {v : Value} {s : String} (h : v.text? = some s) :
    v.isWritable = true := by
  rcases eq_of_text?_eq_some h with rfl | rfl
  · rfl
  · rfl

theorem checkWritable_of_text? {v : Value} {s : String} (h : v.text? = some s) :
    v.checkWritable = .ok () :=
  if_pos (isWritable_of_text? h)

@[simp] theorem checkWritable_text (s : String) : (Value.text s).checkWritable = .ok () := rfl

theorem checkWritable_eq_ok {v : Value} : v.checkWritable = .ok () ↔ v.isWritable = true := by
  unfold checkWritable
  split
  · rename_i h
    simp [h]
  · rename_i h
    simp [h]

theorem isTrue_of_text? {v : Value} {s : String} (h : v.text? = some s) :
    v.isTrue = !s.isEmpty := by
  rcases eq_of_text?_eq_some h with rfl | rfl
  · rfl
  · rfl

end Value

/-! ## Options of a field -/

namespace Entries

variable {α : Type}

theorem get?_cons_of_text? {key : Value} {s : String} (h : key.text? = some s)
    (e : Value × α) (rest : List (Value × α)) :
    get? (e :: rest) key = if e.1.text? = some s then some e.2 else get? rest key := by
  unfold get?
  rw [List.find?_cons, Value.sameKey_of_text? h]
  by_cases hs : e.1.text? = some s
  · simp [hs]
  · have hne : (e.1.text? == some s) = false := by simpa using hs
    rw [hne, if_neg hs]

theorem option?_nil (name : String) : option? ([] : List (Value × α)) name = none := rfl

theorem option?_cons (e : Value × α) (rest : List (Value × α)) (name : String) :
    option? (e :: rest) name
      = if e.1.text? = some name then some e.2 else option? rest name :=
  get?_cons_of_text? rfl e rest

theorem setOption_nil (name : String) (v : α) :
    setOption [] name v = [(.text name, v)] := rfl

theorem setOption_cons (e : Value × α) (rest : List (Value × α)) (name : String)
    (v : α) :
    setOption (e :: rest) name v
      = if e.1.text? = some name then (e.1, v) :: rest
        else e :: setOption rest name v := by
  unfold setOption
  rw [insert, Value.sameKey_of_text? (s := name) rfl]
  by_cases h : e.1.text? = some name
  · simp [h]
  · simp [h]

@[simp] theorem option?_setOption_self (field : List (Value × α)) (name : String) (v : α) :
    option? (setOption field name v) name = some v := by
  induction field with
  | nil => simp [setOption_nil, option?_cons]
  | cons e rest ih =>
      rw [setOption_cons]
      by_cases h : e.1.text? = some name
      · rw [if_pos h, option?_cons, if_pos h]
      · rw [if_neg h, option?_cons, if_neg h, ih]

theorem option?_setOption_of_ne (field : Entries) {name other : String} (v : Value)
    (hne : other ≠ name) :
    option? (setOption field name v) other = option? field other := by
  induction field with
  | nil =>
      rw [setOption_nil, option?_cons, if_neg (by simpa using hne.symm)]
  | cons e rest ih =>
      rw [setOption_cons]
      by_cases h : e.1.text? = some name
      · have hother : e.1.text? ≠ some other := by
          rw [h]
          simpa using hne.symm
        rw [if_pos h, option?_cons, option?_cons, if_neg hother, if_neg hother]
      · rw [if_neg h, option?_cons, option?_cons, ih]

/-- Setting an option to the value that it has changes nothing. -/
theorem setOption_of_option? {field : Entries} {name : String} {v : Value}
    (h : option? field name = some v) : setOption field name v = field := by
  induction field with
  | nil => simp [option?_nil] at h
  | cons e rest ih =>
      rw [option?_cons] at h
      rw [setOption_cons]
      by_cases hname : e.1.text? = some name
      · rw [if_pos hname, Option.some.injEq] at h
        rw [if_pos hname, ← h]
      · rw [if_neg hname] at h
        rw [if_neg hname, ih h]

@[simp] theorem setOption_setOption_self (field : Entries) (name : String) (v w : Value) :
    setOption (setOption field name v) name w = setOption field name w := by
  induction field with
  | nil => simp [setOption_nil, setOption_cons]
  | cons e rest ih =>
      rw [setOption_cons, setOption_cons]
      by_cases h : e.1.text? = some name
      · rw [if_pos h, if_pos h, setOption_cons, if_pos h]
      · rw [if_neg h, if_neg h, setOption_cons, if_neg h, ih]

/-- An option that is there keeps its place whatever other option is set. -/
theorem setOption_comm_of_isSome {field : Entries} {name other : String} {v w : Value}
    (hne : other ≠ name) (h : (option? field name).isSome) :
    setOption (setOption field other w) name v
      = setOption (setOption field name v) other w := by
  induction field with
  | nil => simp [option?_nil] at h
  | cons e rest ih =>
      rw [setOption_cons e rest other, setOption_cons e rest name]
      by_cases hname : e.1.text? = some name
      · have hother : e.1.text? ≠ some other := by
          rw [hname]
          simpa using hne.symm
        rw [if_neg hother, if_pos hname, setOption_cons, if_pos hname, setOption_cons,
          if_neg hother]
      · rw [option?_cons, if_neg hname] at h
        by_cases hother : e.1.text? = some other
        · rw [if_pos hother, if_neg hname, setOption_cons, if_neg hname, setOption_cons,
            if_pos hother]
        · rw [if_neg hother, if_neg hname, setOption_cons, if_neg hname, setOption_cons,
            if_neg hother, ih h]

/-- An option that is not there goes last. -/
theorem setOption_of_option?_eq_none {field : Entries} {name : String} {v : Value}
    (h : option? field name = none) : setOption field name v = field ++ [(.text name, v)] := by
  induction field with
  | nil => rfl
  | cons e rest ih =>
      rw [option?_cons] at h
      rw [setOption_cons]
      by_cases hname : e.1.text? = some name
      · simp [hname] at h
      · rw [if_neg hname] at h
        rw [if_neg hname, ih h]
        rfl

/-- An option that is there keeps its place, and another one goes last. -/
theorem keys_setOption (field : List (Value × α)) (name : String) (v : α) :
    keys (setOption field name v)
      = if (option? field name).isSome then keys field
        else keys field ++ [.text name] := by
  induction field with
  | nil => rfl
  | cons e rest ih =>
      rw [setOption_cons, option?_cons]
      by_cases h : e.1.text? = some name
      · rw [if_pos h, if_pos h]
        rfl
      · rw [if_neg h, if_neg h]
        show e.1 :: keys (setOption rest name v) = _
        rw [ih]
        split
        · rfl
        · rfl

theorem keys_setOption_of_isSome {field : Entries} {name : String} (v : Value)
    (h : (option? field name).isSome) : keys (setOption field name v) = keys field := by
  rw [keys_setOption, if_pos h]

theorem mem_of_get? {entries : Entries} {key v : Value}
    (h : get? entries key = some v) : ∃ k, (k, v) ∈ entries := by
  unfold get? at h
  obtain ⟨e, he, rfl⟩ := Option.map_eq_some_iff.mp h
  exact ⟨e.1, List.mem_of_find?_eq_some he⟩

end Entries

end DataShape
