import DataShape.Proofs.Entries
import Mathlib.Data.List.Forall2

/-!
# Values as keys

On the values that can be keys, being one key is symmetric and transitive. It is not
reflexive, since no number is equal to one that is none. Values without parts are one
key where they have the same contents; tuples where their items are, and sets where each
member of the one is one key with a member of the other, as both have equally many.
-/

namespace DataShape

/-- Where every element of a list is related to one of another list of the same length
and no two of them to the same one, none of the others is left over. -/
theorem exists_related_of_distinct {α β : Type} {R : α → β → Prop} :
    ∀ {xs : List α} {ys : List β}, xs.length = ys.length → (∀ x ∈ xs, ∃ y ∈ ys, R x y) →
      xs.Pairwise (fun x x' => ∀ y ∈ ys, R x y → ¬ R x' y) → ∀ y ∈ ys, ∃ x ∈ xs, R x y
  | [], ys, hlength, _, _, y, hy => by
      obtain rfl := List.length_eq_zero_iff.mp hlength.symm
      exact absurd hy List.not_mem_nil
  | x :: xs, ys, hlength, hrelated, hdistinct, y, hy => by
      obtain ⟨hfirst, hrest⟩ := List.pairwise_cons.mp hdistinct
      obtain ⟨partner, hmem, hpartner⟩ := hrelated x List.mem_cons_self
      obtain ⟨before, after, rfl⟩ := List.append_of_mem hmem
      -- without the partner of the first element the others still have theirs
      have hothers : ∀ x' ∈ xs, ∃ y ∈ before ++ after, R x' y := by
        intro x' hx'
        obtain ⟨y', hy', hrel⟩ := hrelated x' (List.mem_cons_of_mem _ hx')
        rcases List.mem_append.mp hy' with hbefore | hafter
        · exact ⟨y', List.mem_append_left _ hbefore, hrel⟩
        · rcases List.mem_cons.mp hafter with rfl | hafter
          · exact absurd hrel (hfirst x' hx' y' hmem hpartner)
          · exact ⟨y', List.mem_append_right _ hafter, hrel⟩
      have hsub : ∀ y' ∈ before ++ after, y' ∈ before ++ partner :: after := by
        intro y' hy'
        rcases List.mem_append.mp hy' with hbefore | hafter
        · exact List.mem_append_left _ hbefore
        · exact List.mem_append_right _ (List.mem_cons_of_mem _ hafter)
      have hsize : xs.length = (before ++ after).length := by
        simp only [List.length_cons, List.length_append] at hlength ⊢
        omega
      have hcovered := exists_related_of_distinct hsize hothers
        (hrest.imp fun hapart y' hy' => hapart y' (hsub y' hy'))
      rcases List.mem_append.mp hy with hbefore | hafter
      · obtain ⟨x', hx', hrel⟩ := hcovered y (List.mem_append_left _ hbefore)
        exact ⟨x', List.mem_cons_of_mem _ hx', hrel⟩
      · rcases List.mem_cons.mp hafter with rfl | hafter
        · exact ⟨x, List.mem_cons_self, hpartner⟩
        · obtain ⟨x', hx', hrel⟩ := hcovered y (List.mem_append_right _ hafter)
          exact ⟨x', List.mem_cons_of_mem _ hx', hrel⟩

section

variable {α : Type} {R : α → α → Prop}

theorem forall₂_trans {xs ys zs : List α} (h : List.Forall₂ R xs ys) (h' : List.Forall₂ R ys zs)
    (htrans : ∀ x ∈ xs, ∀ y ∈ ys, ∀ z, R x y → R y z → R x z) : List.Forall₂ R xs zs := by
  induction h generalizing zs with
  | nil => exact h'
  | cons hfirst hrest ih =>
      cases h' with
      | cons hfirst' hrest' =>
          refine .cons (htrans _ List.mem_cons_self _ List.mem_cons_self _ hfirst hfirst')
            (ih hrest' fun x hx y hy => ?_)
          exact htrans x (List.mem_cons_of_mem _ hx) y (List.mem_cons_of_mem _ hy)

theorem forall₂_symm {xs ys : List α} (h : List.Forall₂ R xs ys)
    (hsymm : ∀ x ∈ xs, ∀ y ∈ ys, R x y → R y x) : List.Forall₂ R ys xs := by
  induction h with
  | nil => exact .nil
  | cons hfirst hrest ih =>
      refine .cons (hsymm _ List.mem_cons_self _ List.mem_cons_self hfirst)
        (ih fun x hx y hy => ?_)
      exact hsymm x (List.mem_cons_of_mem _ hx) y (List.mem_cons_of_mem _ hy)

end

namespace Value

/-! ## Values without parts -/

/-- What tells one key without parts from another. -/
inductive LeafKey where
  | null
  | missing
  | notATime
  | number (re im : Amount)
  | text (s : String)
  | bytes (b : List UInt8)
  | date (d : Date)
  | time (placed : Bool) (second : Int) (part : Nat) (microsecond : Int)
  | moment (placed : Bool) (instant : Int) (nanosecond : Nat)
  | duration (d : Duration)
  | timing (t : Timing)
  | classObject (k : Kind)
  | pattern (source : Pattern.Source) (options : Pattern.Options)
  | range (length : Nat)

def Quantity.contentKey? (q : Quantity) : Option LeafKey :=
  q.re.bind fun re => q.im.map fun im => .number re im

/-- The key of a value without parts that is no machine time; none for what is not even equal to
itself. -/
def contentKey? (v : Value) : Option LeafKey :=
  match v.quantity? with
  | some q => q.contentKey?
  | none =>
    match v with
    | .null => some .null
    | .missing => some .missing
    | .notATime => some .notATime
    | .bytes b => some (.bytes b)
    | .date d => some (.date d)
    | .time t => some (.time t.offset.isSome t.universalSecond t.clock.microsecond
        t.universalMicrosecond)
    | .moment m | .stamp m => some (.moment m.offset.isSome m.instant m.nanosecond)
    | .duration d => some (.duration d)
    | .classObject k => some (.classObject k)
    | .pattern p => some (.pattern p.source p.options)
    | .range stop => some (.range stop.toNat)
    | v => v.text?.map .text

/-- The key of a value without parts. -/
def leafKey? (v : Value) : Option LeafKey :=
  match v.timing? with
  | some t => some (.timing t)
  | none => v.contentKey?

theorem Quantity.same_iff {p q : Quantity} :
    p.same q = true ↔ p.contentKey?.isSome ∧ p.contentKey? = q.contentKey? := by
  obtain ⟨re, im⟩ := p
  obtain ⟨re', im'⟩ := q
  cases re with
  | none => simp [Quantity.same, Quantity.contentKey?]
  | some re =>
      cases im with
      | none => simp [Quantity.same, Quantity.contentKey?]
      | some im =>
          cases re' with
          | none => simp [Quantity.same, Quantity.contentKey?]
          | some re' =>
              cases im' with
              | none => simp [Quantity.same, Quantity.contentKey?]
              | some im' => simp [Quantity.same, Quantity.contentKey?]

theorem Quantity.eq_number {q : Quantity} {k : LeafKey} (h : q.contentKey? = some k) :
    ∃ re im, k = .number re im := by
  obtain ⟨re, -, h⟩ := Option.bind_eq_some_iff.mp h
  obtain ⟨im, -, rfl⟩ := Option.map_eq_some_iff.mp h
  exact ⟨re, im, rfl⟩

theorem contentKey?_of_quantity? {v : Value} {q : Quantity} (h : v.quantity? = some q) :
    v.contentKey? = q.contentKey? := by
  unfold contentKey?
  rw [h]

theorem ne_number {v : Value} {k : LeafKey} (hnone : v.quantity? = none)
    (h : v.contentKey? = some k) (re im : Amount) : k ≠ .number re im := by
  rintro rfl
  unfold contentKey? at h
  rw [hnone] at h
  cases v with
  | scalar x => cases x <;> simp [text?] at h
  | _ => simp [text?] at h

/-- A number and a value that is none have different keys. -/
theorem contentKey?_ne {a b : Value} {p : Quantity} (ha : a.quantity? = some p)
    (hb : b.quantity? = none) (hsome : a.contentKey?.isSome) : a.contentKey? ≠ b.contentKey? := by
  intro heq
  obtain ⟨k, hk⟩ := Option.isSome_iff_exists.mp hsome
  obtain ⟨re, im, rfl⟩ := Quantity.eq_number ((contentKey?_of_quantity? ha).symm.trans hk)
  exact ne_number hb (heq.symm.trans hk) re im rfl

theorem sameContent_iff {a b : Value} :
    sameContent true a b = true ↔ a.contentKey?.isSome ∧ a.contentKey? = b.contentKey? := by
  cases ha : a.quantity? with
  | some p =>
      cases hb : b.quantity? with
      | some q =>
          rw [contentKey?_of_quantity? ha, contentKey?_of_quantity? hb, ← Quantity.same_iff]
          simp [sameContent, ha, hb]
      | none =>
          refine iff_of_false (by simp [sameContent, ha, hb]) ?_
          rintro ⟨hsome, heq⟩
          exact contentKey?_ne ha hb hsome heq
  | none =>
      cases hb : b.quantity? with
      | some q =>
          refine iff_of_false (by simp [sameContent, ha, hb]) ?_
          rintro ⟨hsome, heq⟩
          exact contentKey?_ne hb ha (heq ▸ hsome) heq.symm
      | none =>
          simp only [sameContent, contentKey?, ha, hb]
          clear ha hb
          cases a with
          | scalar x =>
              cases x with
              | text s =>
                  cases b with
                  | scalar y => cases y <;> simp [text?]
                  | _ => simp [text?]
              | _ => simp [text?]
          | _ =>
              cases b with
              | scalar y => cases y <;> simp [text?]
              | _ => simp [text?, TimeOfDay.sameKey, TimeOfDay.same, Moment.same,
                  Pattern.same, and_assoc]

theorem ne_timing {v : Value} (t : Timing) : v.contentKey? ≠ some (.timing t) := by
  unfold contentKey?
  cases hquantity : v.quantity? with
  | some q =>
      intro h
      obtain ⟨re, im, heq⟩ := Quantity.eq_number h
      cases heq
  | none =>
      cases v with
      | scalar x => cases x <;> simp [text?]
      | _ => simp [text?]

theorem sameLeaf_iff {a b : Value} :
    sameLeaf true a b = true ↔ a.leafKey?.isSome ∧ a.leafKey? = b.leafKey? := by
  unfold sameLeaf leafKey?
  cases a.timing? with
  | some s =>
      cases b.timing? with
      | some t => simp
      | none => simpa using (ne_timing s).symm
  | none =>
      cases b.timing? with
      | some t =>
          refine iff_of_false (by simp) ?_
          rintro ⟨-, heq⟩
          exact ne_timing t heq
      | none => exact sameContent_iff

/-! ## Values with parts -/

/-- Whether a value is built from no other values. -/
def isPartless : Value → Bool
  | .sequence .. | .set .. | .array .. | .point .. | .mapping .. => false
  | _ => true

/-- The members of each set inside the value can be keys, and no two of them are one
key, as in every set that a program can hold. -/
inductive ProperSets : Value → Prop
  | partless {v : Value} (partless : v.isPartless = true) : ProperSets v
  | sequence {kind : SequenceKind} {items : List Value}
      (each : ∀ v ∈ items, ProperSets v) : ProperSets (.sequence kind items)
  | set {frozen : Bool} {items : List Value} (each : ∀ v ∈ items, ProperSets v)
      (hashable : ∀ v ∈ items, v.isHashable = true)
      (distinct : items.Pairwise fun a b => a.sameKey b = false) : ProperSets (.set frozen items)
  | array {packing : Packing} {rows : List Value}
      (each : ∀ v ∈ rows, ProperSets v) : ProperSets (.array packing rows)
  | point {packing : Packing} {element : Value} (inside : ProperSets element) :
      ProperSets (.point packing element)
  | mapping {kind : MappingKind} {entries : Entries} (keys : ∀ e ∈ entries, ProperSets e.1)
      (values : ∀ e ∈ entries, ProperSets e.2) : ProperSets (.mapping kind entries)

/-- What a walk through a value meets has proper sets where the value has. -/
theorem ProperSets.of_mem_walk {v : Value} {items : List Value} (h : v.ProperSets)
    (hwalk : v.walk = .ok items) : ∀ item ∈ items, item.ProperSets := by
  cases h with
  | sequence each => exact Except.ok.inj hwalk ▸ each
  | set each => exact Except.ok.inj hwalk ▸ each
  | array each => exact Except.ok.inj hwalk ▸ each
  | point => simp [walk] at hwalk
  | mapping keys =>
      obtain rfl := Except.ok.inj hwalk
      exact List.forall_mem_map.mpr keys
  | partless hpartless =>
      -- texts, bytes and ranges are met as values without parts
      intro item hitem
      refine .partless ?_
      cases v with
      | text s =>
          obtain rfl := Except.ok.inj hwalk
          obtain ⟨c, -, rfl⟩ := List.mem_map.mp hitem
          rfl
      | scalar x =>
          cases x with
          | text s =>
              obtain rfl := Except.ok.inj hwalk
              obtain ⟨c, -, rfl⟩ := List.mem_map.mp hitem
              rfl
          | _ => simp [walk] at hwalk
      | bytes b =>
          obtain rfl := Except.ok.inj hwalk
          obtain ⟨x, -, rfl⟩ := List.mem_map.mp hitem
          rfl
      | range stop =>
          obtain rfl := Except.ok.inj hwalk
          obtain ⟨n, -, rfl⟩ := List.mem_map.mp hitem
          rfl
      | sequence | set | array | point | mapping => simp [isPartless] at hpartless
      | _ => simp [walk] at hwalk

theorem isHashable_tuple_iff {items : List Value} :
    (Value.sequence .tuple items).isHashable = true ↔ ∀ v ∈ items, v.isHashable = true := by
  show (anyUnhashable? items).isNone = true ↔ _
  induction items with
  | nil => simp [anyUnhashable?]
  | cons v rest ih =>
      rw [anyUnhashable?, List.forall_mem_cons, ← ih]
      cases h : v.unhashable? with
      | none => simp [isHashable, h]
      | some name => simp [isHashable, h]

theorem sameItems_iff {exact : Bool} : ∀ {xs ys : List Value},
    sameItems exact xs ys = true ↔ List.Forall₂ (fun x y => x.sameAs exact y = true) xs ys
  | [], [] => by simp [sameItems]
  | [], _ :: _ => by simp [sameItems]
  | _ :: _, [] => by simp [sameItems]
  | x :: xs, y :: ys => by
      rw [sameItems, Bool.and_eq_true, List.forall₂_cons, sameItems_iff]

theorem allAmong_iff {exact : Bool} {ys : List Value} : ∀ {xs : List Value},
    allAmong exact xs ys = true ↔ ∀ x ∈ xs, ∃ y ∈ ys, x.sameAs exact y = true
  | [] => by simp [allAmong]
  | x :: xs => by
      rw [allAmong, Bool.and_eq_true, List.any_eq_true, allAmong_iff, List.forall_mem_cons]

theorem leafKey?_eq_none {v : Value} (h : v.isPartless = false) : v.leafKey? = none := by
  cases v with
  | sequence | set | array | point | mapping => rfl
  | _ => simp [isPartless] at h

theorem sameAs_of_isPartless {a : Value} (ha : a.isPartless = true) (exact : Bool) (b : Value) :
    a.sameAs exact b = sameLeaf exact a b := by
  rw [sameAs.eq_def]
  cases a with
  | sequence | set | array | point | mapping => simp [isPartless] at ha
  | _ => rfl

theorem sameAs_of_isPartless_right {b : Value} (hb : b.isPartless = true) (exact : Bool)
    (a : Value) : a.sameAs exact b = sameLeaf exact a b := by
  rw [sameAs.eq_def]
  cases b with
  | sequence | set | array | point | mapping => simp [isPartless] at hb
  | _ => cases a <;> rfl

/-- The ways in which a hashable value is one key with another one. -/
inductive KeyForm : Value → Value → Prop
  | partless {a b : Value} (left : a.isPartless = true) (right : b.isPartless = true)
      (known : a.leafKey?.isSome) (same : a.leafKey? = b.leafKey?) : KeyForm a b
  | tuple {xs ys : List Value}
      (items : List.Forall₂ (fun x y => x.sameKey y = true) xs ys) :
      KeyForm (.sequence .tuple xs) (.sequence .tuple ys)
  | set {frozen frozen' : Bool} {xs ys : List Value} (size : xs.length = ys.length)
      (among : ∀ x ∈ xs, ∃ y ∈ ys, x.sameKey y = true) :
      KeyForm (.set frozen xs) (.set frozen' ys)

theorem sameLeaf_eq_false_of_parts {a b : Value}
    (h : a.isPartless = false ∨ b.isPartless = false) : sameLeaf true a b = false := by
  refine Bool.eq_false_iff.mpr fun hsame => ?_
  obtain ⟨hsome, heq⟩ := sameLeaf_iff.mp hsame
  rcases h with h | h
  · simp [leafKey?_eq_none h] at hsome
  · simp [heq, leafKey?_eq_none h] at hsome

theorem keyForm_of_sameKey {a b : Value} (ha : a.isHashable = true)
    (h : a.sameKey b = true) : KeyForm a b := by
  cases hleft : a.isPartless with
  | true =>
      rw [sameKey, sameAs_of_isPartless hleft] at h
      cases hright : b.isPartless with
      | true =>
          obtain ⟨hsome, heq⟩ := sameLeaf_iff.mp h
          exact .partless hleft hright hsome heq
      | false => simp [sameLeaf_eq_false_of_parts (Or.inr hright)] at h
  | false =>
      have hfalse := sameLeaf_eq_false_of_parts (a := a) (b := b) (Or.inl hleft)
      unfold sameKey at h
      rw [sameAs.eq_def] at h
      cases a with
      | sequence kind xs =>
          cases b with
          | sequence kind' ys =>
              obtain ⟨hkind, hitems⟩ := (Bool.and_eq_true _ _).mp h
              cases kind with
              | list => simp [isHashable, unhashable?] at ha
              | tuple =>
                  obtain rfl : .tuple = kind' := by simpa using hkind
                  exact .tuple (sameItems_iff.mp hitems)
          | _ => simp [hfalse] at h
      | set frozen xs =>
          cases b with
          | set frozen' ys =>
              obtain ⟨hsize, hamong⟩ := (Bool.and_eq_true _ _).mp h
              exact .set (by simpa using hsize) (allAmong_iff.mp hamong)
          | _ => simp [hfalse] at h
      | array | point => simp [isHashable, unhashable?] at ha
      | mapping kind entries => cases kind <;> simp [isHashable, unhashable?] at ha
      | _ => simp [isPartless] at hleft

theorem KeyForm.sameKey {a b : Value} (h : KeyForm a b) : a.sameKey b = true := by
  cases h with
  | partless left right known same =>
      rw [Value.sameKey, sameAs_of_isPartless left]
      exact sameLeaf_iff.mpr ⟨known, same⟩
  | tuple items =>
      unfold Value.sameKey
      rw [sameAs, Bool.and_eq_true]
      exact ⟨by decide, sameItems_iff.mpr items⟩
  | set size among =>
      unfold Value.sameKey
      rw [sameAs, Bool.and_eq_true]
      exact ⟨by simpa using size, allAmong_iff.mpr among⟩

namespace KeyForm

theorem of_isPartless {a b : Value} (ha : a.isPartless = true) (h : KeyForm a b) :
    b.isPartless = true ∧ a.leafKey?.isSome ∧ a.leafKey? = b.leafKey? := by
  cases h with
  | partless left right known same => exact ⟨right, known, same⟩
  | tuple => simp [isPartless] at ha
  | set => simp [isPartless] at ha

theorem of_tuple {xs : List Value} {b : Value} (h : KeyForm (.sequence .tuple xs) b) :
    ∃ ys, b = .sequence .tuple ys ∧ List.Forall₂ (fun x y => x.sameKey y = true) xs ys := by
  cases h with
  | partless left => simp [isPartless] at left
  | tuple items => exact ⟨_, rfl, items⟩

theorem of_set {frozen : Bool} {xs : List Value} {b : Value} (h : KeyForm (.set frozen xs) b) :
    ∃ frozen' ys, b = .set frozen' ys ∧ xs.length = ys.length ∧
      ∀ x ∈ xs, ∃ y ∈ ys, x.sameKey y = true := by
  cases h with
  | partless left => simp [isPartless] at left
  | set size among => exact ⟨_, _, rfl, size, among⟩

end KeyForm

/-! ## Symmetry and transitivity -/

/-- A value that can be a key. -/
structure IsKey (v : Value) : Prop where
  sets : v.ProperSets
  hashable : v.isHashable = true

namespace IsKey

theorem items {items : List Value} (h : (Value.sequence .tuple items).IsKey) :
    ∀ v ∈ items, v.IsKey := by
  intro v hv
  refine ⟨?_, isHashable_tuple_iff.mp h.hashable v hv⟩
  cases h.sets with
  | partless partless => simp [isPartless] at partless
  | sequence each => exact each v hv

theorem members {frozen : Bool} {items : List Value} (h : (Value.set frozen items).IsKey) :
    (∀ v ∈ items, v.IsKey) ∧ items.Pairwise fun a b => a.sameKey b = false := by
  cases h.sets with
  | partless partless => simp [isPartless] at partless
  | set each hashable distinct => exact ⟨fun v hv => ⟨each v hv, hashable v hv⟩, distinct⟩

/-- A property of keys that holds of the values without parts, of tuples with their
items and of sets with their members. -/
theorem induction {motive : (v : Value) → v.IsKey → Prop}
    (partless : ∀ v key, v.isPartless = true → motive v key)
    (tuple : ∀ items key, (∀ v (hv : v ∈ items), motive v (IsKey.items key v hv)) →
      motive (.sequence .tuple items) key)
    (set : ∀ frozen items key, (∀ v (hv : v ∈ items), motive v ((members key).1 v hv)) →
      motive (.set frozen items) key)
    (v : Value) (h : v.IsKey) : motive v h := by
  obtain ⟨hsets, hhashable⟩ := h
  induction hsets with
  | partless hpartless => exact partless _ _ hpartless
  | @sequence kind items each ih =>
      cases kind with
      | list => simp [isHashable, unhashable?] at hhashable
      | tuple =>
          exact tuple items _ fun v hv => ih v hv (isHashable_tuple_iff.mp hhashable v hv)
  | @set frozen items each hashable distinct ih =>
      exact set frozen items _ fun v hv => ih v hv (hashable v hv)
  | array => simp [isHashable, unhashable?] at hhashable
  | point => simp [isHashable, unhashable?] at hhashable
  | @mapping kind => cases kind <;> simp [isHashable, unhashable?] at hhashable

theorem sameKey_trans {a b c : Value} (ha : a.IsKey) (hb : b.IsKey)
    (hab : a.sameKey b = true) (hbc : b.sameKey c = true) : a.sameKey c = true := by
  have hform := keyForm_of_sameKey ha.hashable hab
  have hform' := keyForm_of_sameKey hb.hashable hbc
  induction a, ha using IsKey.induction generalizing b c with
  | partless a ha hpartless =>
      obtain ⟨hb', hknown, hsame⟩ := hform.of_isPartless hpartless
      obtain ⟨hc', -, hsame'⟩ := hform'.of_isPartless hb'
      exact (KeyForm.partless hpartless hc' hknown (hsame.trans hsame')).sameKey
  | tuple xs ha ih =>
      obtain ⟨ys, rfl, hitems⟩ := hform.of_tuple
      obtain ⟨zs, rfl, hitems'⟩ := hform'.of_tuple
      refine (KeyForm.tuple (forall₂_trans hitems hitems' fun x hx y hy z hxy hyz => ?_)).sameKey
      have hy' := hb.items y hy
      exact ih x hx hy' hxy hyz (keyForm_of_sameKey (ha.items x hx).hashable hxy)
        (keyForm_of_sameKey hy'.hashable hyz)
  | set frozen xs ha ih =>
      obtain ⟨frozen', ys, rfl, hsize, hamong⟩ := hform.of_set
      obtain ⟨frozen'', zs, rfl, hsize', hamong'⟩ := hform'.of_set
      refine (KeyForm.set (hsize.trans hsize') fun x hx => ?_).sameKey
      obtain ⟨y, hy, hxy⟩ := hamong x hx
      obtain ⟨z, hz, hyz⟩ := hamong' y hy
      have hy' := hb.members.1 y hy
      exact ⟨z, hz, ih x hx hy' hxy hyz (keyForm_of_sameKey (ha.members.1 x hx).hashable hxy)
        (keyForm_of_sameKey hy'.hashable hyz)⟩

theorem sameKey_symm {a b : Value} (ha : a.IsKey) (hb : b.IsKey)
    (hab : a.sameKey b = true) : b.sameKey a = true := by
  have hform := keyForm_of_sameKey ha.hashable hab
  induction a, ha using IsKey.induction generalizing b with
  | partless a ha hpartless =>
      obtain ⟨hb', hknown, hsame⟩ := hform.of_isPartless hpartless
      exact (KeyForm.partless hb' hpartless (hsame ▸ hknown) hsame.symm).sameKey
  | tuple xs ha ih =>
      obtain ⟨ys, rfl, hitems⟩ := hform.of_tuple
      refine (KeyForm.tuple (forall₂_symm hitems fun x hx y hy hxy => ?_)).sameKey
      exact ih x hx (hb.items y hy) hxy (keyForm_of_sameKey (ha.items x hx).hashable hxy)
  | set frozen xs ha ih =>
      obtain ⟨frozen', ys, rfl, hsize, hamong⟩ := hform.of_set
      obtain ⟨hxs, hdistinct⟩ := ha.members
      have hys := hb.members.1
      have hsymm : ∀ x ∈ xs, ∀ y ∈ ys, x.sameKey y = true → y.sameKey x = true :=
        fun x hx y hy hxy =>
          ih x hx (hys y hy) hxy (keyForm_of_sameKey (hxs x hx).hashable hxy)
      -- two members of a set with one partner would be one key, so every partner is met
      have hmet := exists_related_of_distinct hsize hamong <|
        hdistinct.imp_of_mem fun {x x'} hx hx' hapart y hy hxy hx'y => by
          have hone := (hxs x hx).sameKey_trans (hys y hy) hxy (hsymm x' hx' y hy hx'y)
          simp [hapart] at hone
      refine (KeyForm.set hsize.symm fun y hy => ?_).sameKey
      obtain ⟨x, hx, hxy⟩ := hmet y hy
      exact ⟨x, hx, hsymm x hx y hy hxy⟩

/-- Two keys that are one key are one key with the same values. -/
theorem sameKey_congr {a b x : Value} (ha : a.IsKey) (hb : b.IsKey) (hx : x.IsKey)
    (hab : a.sameKey b = true) : x.sameKey a = x.sameKey b := by
  refine Bool.eq_iff_iff.mpr ⟨fun h => hx.sameKey_trans ha h hab, fun h => ?_⟩
  exact hx.sameKey_trans hb h (ha.sameKey_symm hb hab)

end IsKey

end Value

end DataShape
