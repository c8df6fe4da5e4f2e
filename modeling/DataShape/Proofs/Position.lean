import DataShape.Path

/-!
# Positions and the paths that show them

A position leads from a place to a part of it, by the names of fields and the
indices of elements, and a path shows it as a text. A path begins each segment
with a dot or a bracket. Where no name is empty or has one of these characters,
a path is cut into its segments in one way, so that different positions never
share a path.
-/

namespace DataShape

/-- A step from a place to a part of it. -/
inductive Segment where
  | name (s : String)
  | index (i : Nat)
deriving Repr, DecidableEq

abbrev Position := List Segment

/-- A name that cannot be mistaken for another segment or for several. -/
structure IsPlainName (s : String) : Prop where
  nonempty : s ≠ ""
  noDot : '.' ∉ s.toList
  noBracket : '[' ∉ s.toList

instance (s : String) : Decidable (IsPlainName s) :=
  decidable_of_iff (s ≠ "" ∧ '.' ∉ s.toList ∧ '[' ∉ s.toList)
    ⟨fun h => ⟨h.1, h.2.1, h.2.2⟩, fun h => ⟨h.nonempty, h.noDot, h.noBracket⟩⟩

/-! ## Segments -/

namespace Segment

def text : Segment → String
  | name s => s
  | index i => Path.index i

def IsPlain : Segment → Prop
  | name s => IsPlainName s
  | index _ => True

/-- The character that begins the segment in a path. -/
def mark : Segment → Char
  | name _ => '.'
  | index _ => '['

/-- What follows the mark in a path. -/
def body : Segment → List Char
  | name s => s.toList
  | index i => Nat.toDigits 10 i ++ [']']

def chars (s : Segment) : List Char := s.mark :: s.body

theorem body_index_injective {i j : Nat} (h : (index i).body = (index j).body) :
    i = j := by
  have hdigits : Nat.toDigits 10 i = Nat.toDigits 10 j := List.append_cancel_right h
  rw [← Nat.ofDigitChars_ten_toDigits (n := i), hdigits, Nat.ofDigitChars_ten_toDigits]

theorem chars_injective {s t : Segment} (h : s.chars = t.chars) : s = t := by
  obtain ⟨hmark, hbody⟩ := List.cons.inj h
  cases s with
  | name s =>
      cases t with
      | name t => rw [String.toList_injective hbody]
      | index j => exact absurd hmark (show '.' ≠ '[' by decide)
  | index i =>
      cases t with
      | name t => exact absurd hmark (show '[' ≠ '.' by decide)
      | index j => rw [body_index_injective hbody]

end Segment

/-- A character that begins a segment. -/
def IsMark (c : Char) : Prop := c = '.' ∨ c = '['

namespace Segment

theorem isMark_mark (s : Segment) : IsMark s.mark := by
  cases s with
  | name s => exact Or.inl rfl
  | index i => exact Or.inr rfl

theorem not_isMark_of_isDigit {c : Char} (h : c.isDigit) : ¬ IsMark c := by
  rintro (rfl | rfl)
  · exact absurd h (by decide)
  · exact absurd h (by decide)

/-- Marks stand at the beginning of a segment only. -/
theorem not_isMark_of_mem_body {s : Segment} (hs : s.IsPlain) :
    ∀ c ∈ s.body, ¬ IsMark c := by
  intro c hc
  cases s with
  | name s =>
      rintro (rfl | rfl)
      · exact hs.noDot hc
      · exact hs.noBracket hc
  | index i =>
      rcases List.mem_append.mp hc with hc | hc
      · exact not_isMark_of_isDigit
          (Nat.isDigit_of_mem_toDigits (by decide) (by decide) hc)
      · rw [List.mem_singleton.mp hc]
        rintro (h | h)
        · exact absurd h (by decide)
        · exact absurd h (by decide)

/-- Below a place, a plain segment adds its mark and its body. -/
theorem toList_join {place : String} (hplace : place ≠ "") {s : Segment} (hs : s.IsPlain) :
    (Path.join (some place) s.text).toList = place.toList ++ s.chars := by
  have hempty : place.isEmpty = false := by simpa using hplace
  simp only [Path.join, hempty, Bool.false_eq_true, if_false, String.toList_append,
    List.append_assoc]
  congr 1
  cases s with
  | name s =>
      -- a plain name is never taken for an index
      have hhead : s.toList.head? ≠ some '[' := fun h =>
        hs.noBracket (List.mem_of_mem_head? h)
      simp [text, Path.separator, hhead, chars, mark, body]
  | index i =>
      simp [text, Path.separator, Path.index, chars, mark, body]

end Segment

/-! ## Paths -/

namespace Position

/-- The path of a position below a place, where the empty text is the root. -/
def pathFrom (place : String) : Position → String
  | [] => place
  | s :: rest => pathFrom (Path.join (some place) s.text) rest

def IsPlain (p : Position) : Prop := ∀ s ∈ p, s.IsPlain

theorem join_ne_empty {place : String} {s : Segment} (hs : s.IsPlain) :
    Path.join (some place) s.text ≠ "" := by
  by_cases hplace : place = ""
  · subst hplace
    rw [Path.join_empty]
    cases s with
    | name s => exact hs.nonempty
    | index i => simp [Segment.text, Path.index]
  · intro h
    have hchars := Segment.toList_join hplace hs
    rw [h] at hchars
    simp [Segment.chars] at hchars

theorem toList_pathFrom : ∀ {p : Position} {place : String}, place ≠ "" → p.IsPlain →
    (p.pathFrom place).toList = place.toList ++ p.flatMap Segment.chars
  | [], place, _, _ => by simp [pathFrom]
  | s :: rest, place, hplace, hp => by
      obtain ⟨hs, hrest⟩ := List.forall_mem_cons.mp hp
      rw [pathFrom, toList_pathFrom (join_ne_empty hs) hrest,
        Segment.toList_join hplace hs, List.flatMap_cons, List.append_assoc]

/-- At the root the first name goes without its mark. -/
theorem toList_pathFrom_root {name : String} {rest : Position}
    (hp : IsPlain (.name name :: rest)) :
    '.' :: (pathFrom "" (.name name :: rest)).toList
      = (Segment.name name :: rest).flatMap Segment.chars := by
  obtain ⟨hname, hrest⟩ := List.forall_mem_cons.mp hp
  rw [pathFrom, Path.join_empty, Segment.text, toList_pathFrom hname.nonempty hrest]
  rfl

/-- Characters without a mark end where the next mark stands. -/
theorem append_inj_of_marks {rest rest' : List Char}
    (hrest : ∀ c ∈ rest.head?, IsMark c) (hrest' : ∀ c ∈ rest'.head?, IsMark c) :
    ∀ {body body' : List Char}, (∀ c ∈ body, ¬ IsMark c) → (∀ c ∈ body', ¬ IsMark c) →
      body ++ rest = body' ++ rest' → body = body' ∧ rest = rest'
  | [], [], _, _, h => ⟨rfl, h⟩
  | [], c :: body', _, hbody', h => by
      refine absurd (hrest c ?_) (hbody' c List.mem_cons_self)
      rw [List.nil_append] at h
      simp [h]
  | c :: body, [], hbody, _, h => by
      refine absurd (hrest' c ?_) (hbody c List.mem_cons_self)
      rw [List.nil_append] at h
      simp [← h]
  | c :: body, c' :: body', hbody, hbody', h => by
      obtain ⟨rfl, htail⟩ := List.cons.inj h
      obtain ⟨rfl, hrests⟩ := append_inj_of_marks hrest hrest'
        (fun c hc => hbody c (List.mem_cons_of_mem _ hc))
        (fun c hc => hbody' c (List.mem_cons_of_mem _ hc)) htail
      exact ⟨rfl, hrests⟩

theorem isMark_head_flatMap_chars (p : Position) :
    ∀ c ∈ (p.flatMap Segment.chars).head?, IsMark c := by
  intro c hc
  cases p with
  | nil => simp at hc
  | cons s rest =>
      obtain rfl : s.mark = c := by simpa [Segment.chars] using hc
      exact s.isMark_mark

theorem flatMap_chars_injective : ∀ {p q : Position}, p.IsPlain → q.IsPlain →
    p.flatMap Segment.chars = q.flatMap Segment.chars → p = q
  | [], [], _, _, _ => rfl
  | [], t :: q, _, _, h => by simp [Segment.chars] at h
  | s :: p, [], _, _, h => by simp [Segment.chars] at h
  | s :: p, t :: q, hp, hq, h => by
      obtain ⟨hs, hp⟩ := List.forall_mem_cons.mp hp
      obtain ⟨ht, hq⟩ := List.forall_mem_cons.mp hq
      obtain ⟨hmark, h⟩ := List.cons.inj h
      -- both bodies reach up to the next mark
      obtain ⟨hbody, hrest⟩ := append_inj_of_marks (isMark_head_flatMap_chars p)
        (isMark_head_flatMap_chars q) (Segment.not_isMark_of_mem_body hs)
        (Segment.not_isMark_of_mem_body ht) h
      rw [Segment.chars_injective (show s.chars = t.chars by
        rw [Segment.chars, Segment.chars, hmark, hbody]), flatMap_chars_injective hp hq hrest]

/-- The first step is by a name, as every step from the root is. -/
def StartsWithName (p : Position) : Prop := ∃ name rest, p = .name name :: rest

/-- **Different positions have different paths.** -/
theorem pathFrom_injective {place : String} {p q : Position} (hp : p.IsPlain)
    (hq : q.IsPlain) (hroot : place = "" → p.StartsWithName ∧ q.StartsWithName)
    (h : p.pathFrom place = q.pathFrom place) : p = q := by
  refine flatMap_chars_injective hp hq ?_
  by_cases hplace : place = ""
  · subst hplace
    obtain ⟨⟨name, rest, rfl⟩, ⟨name', rest', rfl⟩⟩ := hroot rfl
    rw [← toList_pathFrom_root hp, ← toList_pathFrom_root hq, h]
  · have hchars := congrArg String.toList h
    rw [toList_pathFrom hplace hp, toList_pathFrom hplace hq] at hchars
    exact List.append_cancel_left hchars

/-! ## Positions apart -/

/-- Neither position is on the way to the other. -/
def Apart (p q : Position) : Prop := ¬ p <+: q ∧ ¬ q <+: p

theorem Apart.ne {p q : Position} (h : p.Apart q) : p ≠ q := by
  rintro rfl
  exact h.1 List.prefix_rfl

theorem Apart.cons {p q : Position} (h : p.Apart q) (s : Segment) :
    Apart (s :: p) (s :: q) :=
  ⟨fun hpre => h.1 (List.cons_prefix_cons.mp hpre).2,
    fun hpre => h.2 (List.cons_prefix_cons.mp hpre).2⟩

theorem apart_of_ne {s t : Segment} (hne : s ≠ t) (p q : Position) :
    Apart (s :: p) (t :: q) :=
  ⟨fun hpre => hne (List.cons_prefix_cons.mp hpre).1,
    fun hpre => hne (List.cons_prefix_cons.mp hpre).1.symm⟩

end Position

end DataShape
