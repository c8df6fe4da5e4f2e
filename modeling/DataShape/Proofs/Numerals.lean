import DataShape.Json.Printer
import DataShape.Json.Reader
import DataShape.Proofs.Shortest
import Mathlib.Data.Nat.Digits.Defs

/-!
# Numbers in JSON

An integer is written with its digits and a datum of double precision with its
shortest decimal, laid out in one of several ways. Whatever the layout, the
reader gets the same number back.
-/

namespace DataShape

/-! ## Digits -/

namespace Text

/-- Every character is a Latin digit. -/
def AreDigits (cs : List Char) : Prop := ∀ c ∈ cs, isLatinDigit c = true

/-- A text that no digit starts. -/
def NoDigit (cs : List Char) : Prop := ∀ c ∈ cs.head?, isLatinDigit c = false

theorem AreDigits.append {xs ys : List Char} (hx : AreDigits xs) (hy : AreDigits ys) :
    AreDigits (xs ++ ys) := List.forall_mem_append.mpr ⟨hx, hy⟩

theorem AreDigits.ne_minus {d : Char} {ds : List Char} (h : AreDigits (d :: ds)) : d ≠ '-' := by
  rintro rfl
  exact absurd (h '-' List.mem_cons_self) (by decide)

theorem areDigits_replicate_zero (n : ℕ) : AreDigits (List.replicate n '0') := by
  intro c hc
  rw [List.eq_of_mem_replicate hc]
  rfl

theorem areDigits_decimal (n : ℕ) : AreDigits (decimal n) := by
  intro c hc
  have := Nat.isDigit_of_mem_toDigits (by norm_num) (by norm_num) hc
  simpa [isLatinDigit, Char.isDigit, Char.le_def] using this

theorem decimal_ne_nil (n : ℕ) : decimal n ≠ [] := Nat.toDigits_ne_nil

theorem hexDigit?_digitChar {d : ℕ} (h : d < 16) : hexDigit? (Nat.digitChar d) = some d := by
  have : ∀ d : Fin 16, hexDigit? (Nat.digitChar d) = some d.val := by decide
  exact this ⟨d, h⟩

theorem valueOf_append (base : ℕ) (xs ys : List ℕ) :
    valueOf base (xs ++ ys) = valueOf base xs * base ^ ys.length + valueOf base ys := by
  induction ys using List.reverseRecOn with
  | nil => simp [valueOf]
  | append_singleton ys y ih =>
      have hlast (zs : List ℕ) : valueOf base (zs ++ [y]) = valueOf base zs * base + y := by
        simp [valueOf]
      rw [← List.append_assoc, hlast, hlast, ih, List.length_append, List.length_singleton]
      ring

theorem readBase_append (base : ℕ) (xs ys : List Char) :
    readBase base (xs ++ ys) = readBase base xs * base ^ ys.length + readBase base ys := by
  rw [readBase, List.map_append, valueOf_append, List.length_map]
  rfl

@[simp] theorem readBase_replicate_zero (base n : ℕ) :
    readBase base (List.replicate n '0') = 0 := by
  induction n with
  | zero => rfl
  | succ n ih =>
      rw [List.replicate_succ', readBase_append, ih]
      simp [readBase, valueOf, hexDigit?]

theorem readBase_digitChar {base d : ℕ} (h : d < 16) : readBase base [Nat.digitChar d] = d := by
  simp [readBase, valueOf, hexDigit?_digitChar h]

/-- A numeral is read as the number that it is written for. -/
theorem readBase_decimal (n : ℕ) : readBase 10 (decimal n) = n := by
  induction n using Nat.strongRecOn with
  | ind n ih =>
      unfold decimal at *
      rw [Nat.toDigits_eq_if (by norm_num)]
      split
      · exact readBase_digitChar (by omega)
      · rw [readBase_append, ih (n / 10) (by omega), readBase_digitChar (by omega)]
        rw [List.length_singleton, pow_one]
        omega

/-- The numeral of a positive number starts with a digit that is not zero. -/
theorem head?_decimal {n : ℕ} (h : n ≠ 0) : ∃ d rest, decimal n = d :: rest ∧ d ≠ '0' := by
  induction n using Nat.strongRecOn with
  | ind n ih =>
      unfold decimal at *
      rw [Nat.toDigits_eq_if (by norm_num)]
      split
      · refine ⟨_, _, rfl, ?_⟩
        have : ∀ d : Fin 10, d.val ≠ 0 → Nat.digitChar d ≠ '0' := by decide
        exact this ⟨n, by omega⟩ h
      · obtain ⟨d, rest, hd, hne⟩ := ih (n / 10) (by omega) (by omega)
        exact ⟨d, rest ++ [_], by rw [hd]; rfl, hne⟩

theorem readBase_atLeast (width n : ℕ) : readBase 10 (atLeast width n) = n := by
  unfold atLeast
  dsimp only
  rw [readBase_append, readBase_replicate_zero, zero_mul, zero_add, readBase_decimal]

theorem areDigits_atLeast (width n : ℕ) : AreDigits (atLeast width n) :=
  (areDigits_replicate_zero _).append (areDigits_decimal n)

theorem atLeast_ne_nil (width n : ℕ) : atLeast width n ≠ [] := by
  unfold atLeast
  simp [decimal_ne_nil]

theorem spanDigits_append {digits rest : List Char} (hdigits : AreDigits digits)
    (hrest : NoDigit rest) : Numeral.spanDigits (digits ++ rest) = (digits, rest) := by
  rw [Numeral.spanDigits, List.span_eq_takeWhile_dropWhile, List.takeWhile_append_of_pos hdigits,
    List.dropWhile_append_of_pos hdigits]
  cases rest with
  | nil => simp
  | cons c rest =>
      have := hrest c rfl
      simp [this]

end Text

namespace Json

open Text

/-! ## The parts of a number -/

/-- What may follow a value in printed text: nothing, a comma or the end of the
line. -/
def Closes (rest : List Char) : Prop := ∀ c ∈ rest.head?, c = ',' ∨ c = '\n'

theorem Closes.noDigit {rest : List Char} (h : Closes rest) : NoDigit rest := by
  intro c hc
  rcases h c hc with rfl | rfl <;> rfl

theorem readExponent?_of_closes {rest : List Char} (h : Closes rest) : readExponent? rest = none := by
  cases rest with
  | nil => rfl
  | cons c rest => rcases h c rfl with rfl | rfl <;> rfl

theorem readExponent?_written {power : ℤ} {digits rest : List Char} (hdigits : AreDigits digits)
    (hne : digits ≠ []) (hvalue : readBase 10 digits = power.natAbs) (hrest : NoDigit rest) :
    readExponent? ('e' :: (if power < 0 then '-' else '+') :: digits ++ rest)
      = some (power, rest) := by
  have hspan := spanDigits_append hdigits hrest
  have hempty : digits.isEmpty = false := by simpa using hne
  by_cases hnegative : power < 0
  · rw [if_pos hnegative]
    simp only [readExponent?, List.cons_append, true_or, if_true, Numeral.sign, hspan, hempty,
      hvalue, Bool.false_eq_true, if_false, Option.some.injEq, Prod.mk.injEq, and_true]
    omega
  · rw [if_neg hnegative]
    simp only [readExponent?, List.cons_append, true_or, if_true, Numeral.sign, hspan, hempty,
      hvalue, Bool.false_eq_true, if_false, Option.some.injEq, Prod.mk.injEq, and_true]
    omega

theorem readFraction_written {digits rest : List Char} (hdigits : AreDigits digits)
    (hne : digits ≠ []) (hrest : NoDigit rest) :
    readFraction ('.' :: digits ++ rest) = (digits, rest) := by
  have hspan := spanDigits_append hdigits hrest
  rw [List.cons_append, readFraction, hspan]
  split
  · rename_i h
    exact absurd (Prod.mk.inj h).1 hne
  · rfl

theorem readFraction_none {rest : List Char} (h : ∀ c ∈ rest.head?, c ≠ '.') :
    readFraction rest = ([], rest) := by
  cases rest with
  | nil => rfl
  | cons c rest =>
      unfold readFraction
      split
      · rename_i heq
        exact absurd (List.cons.inj heq).1 (h c rfl)
      · rfl

theorem readWhole_written {d : Char} {digits rest : List Char} (hdigits : AreDigits (d :: digits))
    (hd : d ≠ '0') (hrest : NoDigit rest) :
    readWhole (d :: digits ++ rest) = (d :: digits, rest) := by
  unfold readWhole
  split
  · rename_i heq
    exact absurd (List.cons.inj heq).1 hd
  · exact spanDigits_append hdigits hrest

/-- The characters of a sign. -/
def signed (negative : Bool) : List Char := if negative then ['-'] else []

/-- A sign is split off a number. -/
theorem readNumber_signed {negative : Bool} {body whole fraction rest rest' : List Char}
    (hwhole : readWhole body = (whole, rest)) (hne : whole ≠ [])
    (hsign : ∀ c ∈ body.head?, c ≠ '-') (hfraction : readFraction rest = (fraction, rest')) :
    readNumber (signed negative ++ body) =
      if fraction.isEmpty && (readExponent? rest').isNone then
        if digitLimit < whole.length then .error (.tooManyDigits whole.length)
        else .ok (.int (if negative then -(readBase 10 whole : ℤ) else readBase 10 whole), rest')
      else .ok (.float (.ofNumeral .double ⟨negative, readBase 10 (whole ++ fraction),
        ((readExponent? rest').getD (0, rest')).1 - fraction.length⟩),
          ((readExponent? rest').getD (0, rest')).2) := by
  have hempty : whole.isEmpty = false := by simpa using hne
  unfold readNumber signed
  cases negative with
  | true =>
      simp only [if_true, List.singleton_append, hwhole, hfraction, hempty]
      rfl
  | false =>
      simp only [Bool.false_eq_true, if_false, List.nil_append]
      split
      · exact absurd rfl (hsign '-' rfl)
      · simp only [hwhole, hfraction, hempty]
        rfl

/-! ## Layouts of decimals -/

/-- The reader takes the text, whatever follows it, for a number written with a
point or an exponent that denotes `± digits · 10 ^ place`. -/
def Denotes (body : List Char) (digits : ℕ) (place : ℤ) : Prop :=
  ∀ negative rest, Closes rest → ∃ digits' place',
    readNumber (signed negative ++ (body ++ rest))
      = .ok (.float (.ofNumeral .double ⟨negative, digits', place'⟩), rest) ∧
    (digits' : ℚ) * 10 ^ place' = digits * 10 ^ place

theorem noDigit_point (rest : List Char) : NoDigit ('.' :: rest) := by
  rintro c ⟨⟩
  rfl

theorem noDigit_exponent (rest : List Char) : NoDigit ('e' :: rest) := by
  rintro c ⟨⟩
  rfl

/-- A whole part, a point and a fraction. -/
theorem denotes_fraction {whole fraction : List Char} {digits : ℕ} {place : ℤ}
    (hwhole : AreDigits whole) (hhead : whole = ['0'] ∨ ∃ d ds, whole = d :: ds ∧ d ≠ '0')
    (hfraction : AreDigits fraction) (hne : fraction ≠ [])
    (hvalue : (readBase 10 (whole ++ fraction) : ℚ) * 10 ^ (-(fraction.length : ℤ))
      = digits * 10 ^ place) : Denotes (whole ++ '.' :: fraction) digits place := by
  intro negative rest hrest
  have hread : readWhole (whole ++ '.' :: fraction ++ rest) = (whole, '.' :: fraction ++ rest) := by
    rw [List.append_assoc]
    rcases hhead with rfl | ⟨d, ds, rfl, hd⟩
    · rfl
    · exact readWhole_written hwhole hd (noDigit_point _)
  have hwholene : whole ≠ [] := by
    rcases hhead with rfl | ⟨d, ds, rfl, -⟩ <;> simp
  have hsign : ∀ c ∈ (whole ++ '.' :: fraction ++ rest).head?, c ≠ '-' := by
    obtain ⟨d, ds, rfl⟩ := List.exists_cons_of_ne_nil hwholene
    rintro c ⟨⟩
    exact hwhole.ne_minus
  refine ⟨_, _, ?_, hvalue⟩
  rw [readNumber_signed hread hwholene hsign (readFraction_written hfraction hne hrest.noDigit),
    readExponent?_of_closes hrest, if_neg (by simpa using hne)]
  simp

/-- Digits with a power of ten, and a fraction unless there is one digit. -/
theorem denotes_power {d : Char} {fraction exponent : List Char} {power : ℤ} {digits : ℕ}
    {place : ℤ} (hdigits : AreDigits (d :: fraction)) (hd : d ≠ '0')
    (hexponent : AreDigits exponent) (hne : exponent ≠ [])
    (hpower : readBase 10 exponent = power.natAbs)
    (hvalue : (readBase 10 (d :: fraction) : ℚ) * 10 ^ (power - fraction.length)
      = digits * 10 ^ place) :
    Denotes ((if fraction = [] then [d] else d :: '.' :: fraction) ++
      'e' :: (if power < 0 then '-' else '+') :: exponent) digits place := by
  intro negative rest hrest
  have hread := readExponent?_written hexponent hne hpower hrest.noDigit
  have hfirst : AreDigits [d] := fun c hc => hdigits c (by simp_all)
  have hsign (more : List Char) : ∀ c ∈ (d :: more).head?, c ≠ '-' := by
    rintro c ⟨⟩
    exact hfirst.ne_minus
  generalize hpowered : 'e' :: (if power < 0 then '-' else '+') :: exponent ++ rest = powered at *
  have hnodigit : NoDigit powered := hpowered ▸ noDigit_exponent _
  refine ⟨readBase 10 (d :: fraction), power - fraction.length, ?_, hvalue⟩
  rw [List.append_assoc, hpowered]
  split
  · subst fraction
    have hwhole : readWhole ([d] ++ powered) = ([d], powered) := readWhole_written hfirst hd hnodigit
    have hnone : readFraction powered = ([], powered) :=
      readFraction_none (hpowered ▸ by rintro c ⟨⟩; decide)
    rw [readNumber_signed hwhole (by simp) (hsign _) hnone, hread]
    rfl
  · rename_i hfraction
    have hwhole : readWhole (d :: '.' :: fraction ++ powered) = ([d], '.' :: fraction ++ powered) :=
      readWhole_written hfirst hd (noDigit_point _)
    have hread' : readFraction ('.' :: fraction ++ powered) = (fraction, powered) :=
      readFraction_written (fun c hc => hdigits c (List.mem_cons_of_mem _ hc)) hfraction hnodigit
    rw [readNumber_signed hwhole (by simp) (hsign _) hread', hread]
    simp

/-- Positional notation, wherever the point stands. -/
theorem denotes_positional {n : ℕ} (hn : n ≠ 0) (place : ℤ) :
    Denotes (Floating.positional (decimal n) (place + (decimal n).length) true) n place := by
  have hten : (10 : ℚ) ≠ 0 := by norm_num
  obtain ⟨d, ds, hdecimal, hd⟩ := head?_decimal hn
  have hdigits := areDigits_decimal n
  have hvalue := readBase_decimal n
  have hlength : (decimal n).length = ds.length + 1 := by rw [hdecimal]; rfl
  generalize hpoint : place + ((decimal n).length : ℤ) = point
  unfold Floating.positional
  split
  · -- zeros stand between the point and the digits
    have h : Denotes (['0'] ++ '.' :: (List.replicate (-point).toNat '0' ++ decimal n)) n place := by
      refine denotes_fraction (areDigits_replicate_zero 1) (.inl rfl)
        ((areDigits_replicate_zero _).append hdigits) (by simp [decimal_ne_nil]) ?_
      rw [readBase_append, readBase_append, readBase_replicate_zero, hvalue, List.length_append,
        List.length_replicate, show readBase 10 ['0'] = 0 from rfl, zero_mul, zero_mul, zero_add,
        zero_add]
      congr 2
      push_cast
      omega
    exact h
  · dsimp only
    split
    · -- zeros stand between the digits and the point
      rename_i hnone
      have hlong : (decimal n).length ≤ point.toNat := by simpa using hnone
      rw [List.take_of_length_le hlong]
      refine denotes_fraction (hdigits.append (areDigits_replicate_zero _))
        (.inr ⟨d, ds ++ _, by rw [hdecimal]; rfl, hd⟩) (areDigits_replicate_zero 1) (by simp) ?_
      rw [readBase_append, readBase_append, readBase_replicate_zero, hvalue, List.length_replicate,
        show readBase 10 ['0'] = 0 from rfl]
      have hplace : place = ((point.toNat - (decimal n).length : ℕ) : ℤ) := by omega
      rw [hplace, zpow_natCast]
      push_cast
      field_simp
      simp
    · -- the point stands among the digits
      rename_i hsome
      have hshort : point.toNat < (decimal n).length := by simpa using hsome
      rw [Nat.sub_eq_zero_of_le hshort.le, List.replicate_zero, List.append_nil]
      obtain ⟨k, hk⟩ := Nat.exists_eq_succ_of_ne_zero (show point.toNat ≠ 0 by omega)
      refine denotes_fraction (fun c hc => hdigits c (List.mem_of_mem_take hc))
        (.inr ⟨d, ds.take k, by rw [hdecimal, hk]; rfl, hd⟩)
        (fun c hc => hdigits c (List.mem_of_mem_drop hc)) (by simpa using hsome) ?_
      rw [List.take_append_drop, hvalue, List.length_drop]
      congr 2
      omega

/-- Scientific notation, with one digit before the point. -/
theorem denotes_scientific {n : ℕ} (hn : n ≠ 0) (place : ℤ) :
    Denotes (Floating.scientific (decimal n) (place + (decimal n).length - 1)) n place := by
  obtain ⟨d, ds, hdecimal, hd⟩ := head?_decimal hn
  have hdigits := areDigits_decimal n
  have hvalue := readBase_decimal n
  rw [hdecimal] at hdigits hvalue ⊢
  generalize hpower : place + ((d :: ds).length : ℤ) - 1 = power
  have hvalue' : (readBase 10 (d :: ds) : ℚ) * 10 ^ (power - ds.length) = n * 10 ^ place := by
    rw [hvalue, ← hpower, List.length_cons]
    congr 2
    push_cast
    ring
  have h := denotes_power hdigits hd (areDigits_atLeast 2 power.natAbs) (atLeast_ne_nil _ _)
    (readBase_atLeast _ _) hvalue'
  unfold Floating.scientific
  cases ds with
  | nil => exact h
  | cons d' ds => exact h

/-- **A number reads back from its text**, if it is a datum of double precision. -/
theorem readNumber_finite {negative : Bool} {mantissa : ℕ} {exponent : ℤ}
    (h : Floating.Format.double.Holds (.finite negative mantissa exponent)) {rest : List Char}
    (hrest : Closes rest) :
    readNumber ((number (.finite negative mantissa exponent)).toList ++ rest)
      = .ok (.float (.finite negative mantissa exponent), rest) := by
  rcases h with ⟨rfl, rfl⟩ | h
  · have hzero : Denotes (['0'] ++ '.' :: ['0']) 0 0 :=
      denotes_fraction (areDigits_replicate_zero 1) (.inl rfl) (areDigits_replicate_zero 1)
        (by simp) (by rw [show readBase 10 (['0'] ++ ['0']) = 0 from rfl]; simp)
    obtain ⟨digits, place, hread, hvalue⟩ := hzero negative rest hrest
    have hne : (10 : ℚ) ^ place ≠ 0 := (Floating.zpow_ten_pos place).ne'
    obtain rfl : digits = 0 := by simpa [hne] using hvalue
    have htext : (number (.finite negative 0 0)).toList = signed negative ++ (['0'] ++ '.' :: ['0']) :=
      String.toList_ofList
    rw [htext, List.append_assoc, hread]
    rfl
  · obtain ⟨hnonzero, hcontains⟩ := Floating.Format.shortest_spec h
    generalize hshortest : Floating.Format.double.shortest mantissa exponent = shortest at *
    obtain ⟨n, place⟩ := shortest
    obtain ⟨k, rfl⟩ := Nat.exists_eq_succ_of_ne_zero (show mantissa ≠ 0 by have := h.odd; omega)
    -- whatever the layout, it denotes the shortest decimal
    have hlayout : ∃ body, Denotes body n place ∧
        (number (.finite negative (k + 1) exponent)).toList = signed negative ++ body := by
      have htext : number (.finite negative (k + 1) exponent) =
          Floating.render .double true (.finite negative (k + 1) exponent) := rfl
      simp only [htext, Floating.render, hshortest, String.toList_ofList]
      by_cases hpoint : -4 < place + ((decimal n).length : ℤ) ∧
          place + (decimal n).length ≤ Floating.Format.double.wholeDigits
      · rw [if_pos hpoint]
        exact ⟨_, denotes_positional hnonzero place, rfl⟩
      · rw [if_neg hpoint]
        exact ⟨_, denotes_scientific hnonzero place, rfl⟩
    obtain ⟨body, hbody, htext⟩ := hlayout
    obtain ⟨digits, place', hread, hvalue⟩ := hbody negative rest hrest
    rw [htext, List.append_assoc, hread]
    rw [← hvalue] at hcontains
    rw [Floating.ofNumeral, Floating.Format.ofDecimal_of_contains h hcontains]

/-! ## Integers -/

theorem toList_toString (n : ℤ) : (toString n).toList = signed (n < 0) ++ decimal n.natAbs := by
  cases n with
  | ofNat m =>
      show (Nat.repr m).toList = _
      rw [Nat.repr_eq_ofList_toDigits, String.toList_ofList]
      simp [signed, decimal]
  | negSucc m =>
      show ("-" ++ Nat.repr (m + 1)).toList = _
      rw [Nat.repr_eq_ofList_toDigits, String.toList_append, String.toList_ofList]
      simp [signed, decimal, Int.negSucc_lt_zero]

theorem readFraction_of_closes {rest : List Char} (h : Closes rest) :
    readFraction rest = ([], rest) :=
  readFraction_none fun c hc => by rcases h c hc with rfl | rfl <;> decide

theorem firstTooLong_eq : firstTooLong = 10 ^ digitLimit := by
  have hsplit : ∀ base m n limit : ℕ, m * n = limit →
      Nat.pow (Nat.pow base m) n = base ^ limit := by
    rintro base m n _ rfl
    exact (Nat.pow_mul base m n).symm
  unfold firstTooLong
  exact hsplit 10 100 43 digitLimit rfl

/-- An integer that is not too long has no more digits than are read. -/
theorem length_decimal_le {n : ℤ} (h : isTooLong n = false) :
    (decimal n.natAbs).length ≤ digitLimit := by
  have hsmall : n.natAbs < firstTooLong := by simpa [isTooLong] using h
  have hpositive : 0 < digitLimit := by decide
  rw [firstTooLong_eq] at hsmall
  -- the limit itself plays no part, and its power is too large to be worked out
  generalize digitLimit = limit at hsmall hpositive ⊢
  exact Nat.toDigits_length 10 n.natAbs limit hpositive hsmall

/-- **An integer reads back from its text**, if it is not too long for one. -/
theorem readNumber_integer {n : ℤ} {text : String} (h : integer n = .ok text) {rest : List Char}
    (hrest : Closes rest) : readNumber (text.toList ++ rest) = .ok (.int n, rest) := by
  unfold integer at h
  split at h
  · cases h
  rename_i hshort
  cases h
  have hlimit : ¬ digitLimit < (decimal n.natAbs).length :=
    Nat.not_lt.mpr (length_decimal_le (Bool.eq_false_iff.mpr hshort))
  have hwhole : readWhole (decimal n.natAbs ++ rest) = (decimal n.natAbs, rest) := by
    by_cases hzero : n.natAbs = 0
    · rw [hzero]
      rfl
    · obtain ⟨d, ds, hdecimal, hd⟩ := head?_decimal hzero
      have hdigits := areDigits_decimal n.natAbs
      rw [hdecimal] at hdigits ⊢
      exact readWhole_written hdigits hd hrest.noDigit
  have hsign : ∀ c ∈ (decimal n.natAbs ++ rest).head?, c ≠ '-' := by
    obtain ⟨d, ds, hdecimal⟩ := List.exists_cons_of_ne_nil (decimal_ne_nil n.natAbs)
    have hdigits := areDigits_decimal n.natAbs
    rw [hdecimal] at hdigits ⊢
    rintro c ⟨⟩
    exact hdigits.ne_minus
  rw [toList_toString, List.append_assoc, readNumber_signed hwhole (decimal_ne_nil _) hsign
    (readFraction_of_closes hrest), readExponent?_of_closes hrest]
  simp only [List.isEmpty_nil, Option.isNone_none, Bool.and_self, if_true, if_neg hlimit,
    readBase_decimal, decide_eq_true_eq]
  congr 3
  split <;> omega

end Json

end DataShape
