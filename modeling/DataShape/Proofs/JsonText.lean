import DataShape.Proofs.Forms
import DataShape.Proofs.Numerals

/-!
# JSON that is printed reads back

A value of the kinds that JSON has is read back from its printed text, whatever
the level at which it is printed.
-/

namespace DataShape

open Entries (keys)

/-- The keys are plain texts and no two of them are equal. -/
def TextNames (entries : Entries) : Prop :=
  ∃ names : List String, keys entries = names.map Value.text ∧ names.Nodup

theorem TextNames.exists_eq {entries : Entries} (h : TextNames entries) :
    ∀ e ∈ entries, ∃ name, e.1 = .text name := by
  obtain ⟨names, hkeys, -⟩ := h
  intro e he
  have hmem : e.1 ∈ names.map Value.text := hkeys ▸ List.mem_map_of_mem he
  obtain ⟨name, -, hname⟩ := List.mem_map.mp hmem
  exact ⟨name, hname.symm⟩

namespace TextNames

variable {entries form : Entries}

theorem option?_of_mem (h : TextNames entries) {name : String} {v : Value}
    (he : (.text name, v) ∈ entries) : Entries.option? entries name = some v := by
  obtain ⟨names, hkeys, hnodup⟩ := h
  induction entries generalizing names with
  | nil => cases he
  | cons e rest ih =>
      cases names with
      | nil => cases hkeys
      | cons first names =>
          obtain ⟨hkey, hrest⟩ := List.cons.inj hkeys
          obtain ⟨hfirst, hnodup⟩ := List.nodup_cons.mp hnodup
          rw [Entries.option?_cons, hkey, Value.text?_text]
          rcases List.mem_cons.mp he with rfl | he
          · obtain rfl : name = first := by simpa using hkey
            rw [if_pos rfl]
          · have hmem : Value.text name ∈ names.map Value.text :=
              hrest ▸ List.mem_map_of_mem (f := Prod.fst) he
            have hname : name ∈ names := by simpa using hmem
            rw [if_neg (by rintro ⟨⟩; exact hfirst hname), ih he names hrest hnodup]

/-- Entries are told by the order of their keys and the value of each. -/
theorem eq_map (h : TextNames entries) :
    entries = (keys entries).map fun key => (key, (Entries.get? entries key).getD .null) := by
  rw [keys, List.map_map]
  conv_lhs => rw [← List.map_id entries]
  refine List.map_congr_left fun e he => ?_
  obtain ⟨name, hname⟩ := h.exists_eq e he
  have hv : Entries.get? entries e.1 = some e.2 := by
    rw [hname]
    exact h.option?_of_mem (by rwa [← hname])
  simp [hv]

theorem ext (h : TextNames entries) (hkeys : keys form = keys entries)
    (hoptions : ∀ name, Entries.option? form name = Entries.option? entries name) :
    form = entries := by
  have hform : TextNames form := by
    rwa [TextNames, hkeys]
  rw [hform.eq_map, h.eq_map, hkeys]
  refine List.map_congr_left fun key hkey => ?_
  obtain ⟨e, he, rfl⟩ := List.mem_map.mp hkey
  obtain ⟨name, hname⟩ := h.exists_eq e he
  have hget : Entries.get? form (.text name) = Entries.get? entries (.text name) := hoptions name
  rw [hname, hget]

end TextNames

/-- A value of the kinds that JSON has. -/
inductive Value.IsJson : Value → Prop
  | null : IsJson .null
  | bool (b : Bool) : IsJson (.bool b)
  | int (n : ℤ) : IsJson (.int n)
  | float {x : Floating} (double : Floating.Format.double.Holds x) : IsJson (.float x)
  | text (s : String) : IsJson (.text s)
  | list {items : List Value} (each : ∀ v ∈ items, IsJson v) : IsJson (.list items)
  | dict {entries : Entries} (names : TextNames entries) (each : ∀ e ∈ entries, IsJson e.2) :
      IsJson (.dict entries)

namespace Json

open Text

/-! ## Texts -/

/-- The codes that a character is written with. -/
def codes (c : Char) : List ℕ :=
  if c.toNat < 0x10000 then [c.toNat]
  else [0xd800 + (c.toNat - 0x10000) / 0x400, 0xdc00 + (c.toNat - 0x10000) % 0x400]

theorem codes_of_lt {c : Char} (h : c.toNat < 0x10000) : codes c = [c.toNat] := if_pos h

theorem codes_of_not_lt {c : Char} (h : ¬c.toNat < 0x10000) :
    codes c = [0xd800 + (c.toNat - 0x10000) / 0x400, 0xdc00 + (c.toNat - 0x10000) % 0x400] :=
  if_neg h

theorem isHalf_toNat (c : Char) : isHalf c.toNat = false := by
  have hvalid := c.valid
  simp only [UInt32.isValidChar, Nat.isValidChar] at hvalid
  simp only [isHalf, isHighHalf, isLowHalf, Char.toNat, Bool.or_eq_false_iff, Bool.and_eq_false_iff,
    decide_eq_false_iff_not]
  omega

theorem characters?_cons {n : ℕ} (h : isHalf n = false) (rest : List ℕ) :
    characters? (n :: rest) = (characters? rest).map (Char.ofNat n :: ·) := by
  obtain ⟨hhigh, -⟩ := Bool.or_eq_false_iff.mp h
  cases rest with
  | nil => simp [characters?, h]
  | cons m rest => simp [characters?, h, hhigh]

/-- Codes make the characters that they are written for. -/
theorem characters?_flatMap (cs : List Char) : characters? (cs.flatMap codes) = some cs := by
  induction cs with
  | nil => rfl
  | cons c cs ih =>
      rw [List.flatMap_cons]
      by_cases hsmall : c.toNat < 0x10000
      · rw [codes_of_lt hsmall, List.singleton_append, characters?_cons (isHalf_toNat c), ih,
          Option.map_some, Char.ofNat_toNat]
      · have hvalid := c.valid
        simp only [UInt32.isValidChar, Nat.isValidChar] at hvalid
        have hc : c.val.toNat = c.toNat := rfl
        have hcode : 0x10000 + (0xd800 + (c.toNat - 0x10000) / 0x400 - 0xd800) * 0x400
            + (0xdc00 + (c.toNat - 0x10000) % 0x400 - 0xdc00) = c.toNat := by omega
        rw [codes_of_not_lt hsmall, List.cons_append, List.singleton_append, characters?, if_pos,
          ih, Option.map_some, hcode, Char.ofNat_toNat]
        · simp only [isHighHalf, isLowHalf, Bool.and_eq_true, decide_eq_true_eq]
          omega

theorem hex_four (n : ℕ) : hex 4 n = [Nat.digitChar (n / 16 / 16 / 16 % 16),
    Nat.digitChar (n / 16 / 16 % 16), Nat.digitChar (n / 16 % 16), Nat.digitChar (n % 16)] := rfl

theorem readCodes_hex {opening n : ℕ} {rest : List Char} (hn : n < 0x10000) (hrest : rest ≠ []) :
    readCodes opening ('\\' :: 'u' :: hex 4 n ++ rest)
      = (readCodes opening rest).map fun r => (n :: r.1, r.2) := by
  have hdigit (m : ℕ) : hexDigit? (Nat.digitChar (m % 16)) = some (m % 16) :=
    hexDigit?_digitChar (Nat.mod_lt _ (by norm_num))
  have hvalue : valueOf 16 [n / 16 / 16 / 16 % 16, n / 16 / 16 % 16, n / 16 % 16, n % 16] = n := by
    simp only [valueOf, List.foldl_cons, List.foldl_nil]
    omega
  rw [hex_four]
  simp only [List.cons_append, List.nil_append, readCodes, hdigit, hvalue]
  rw [if_neg (by simpa using hrest)]

theorem readCodes_plain {opening : ℕ} {c : Char} (hquote : c ≠ '"') (hbackslash : c ≠ '\\')
    (hvisible : ' ' ≤ c) (rest : List Char) :
    readCodes opening (c :: rest) = (readCodes opening rest).map fun r => (c.toNat :: r.1, r.2) := by
  rw [readCodes.eq_def]
  split
  · rename_i h
    cases h
  · rename_i h
    exact absurd (List.cons.inj h).1 hbackslash
  · rename_i h
    exact absurd (List.cons.inj h).1 hquote
  · rename_i h
    exact absurd (List.cons.inj h).1 hbackslash
  · rename_i h
    exact absurd (List.cons.inj h).1 hbackslash
  · rename_i h
    exact absurd (List.cons.inj h).1 hbackslash
  · rename_i h
    obtain ⟨rfl, rfl⟩ := List.cons.inj h
    rw [if_neg (Char.not_lt.mpr hvisible)]

theorem readCodes_coded {opening : ℕ} (c : Char) {rest : List Char} (hrest : rest ≠ []) :
    readCodes opening (coded c.toNat ++ rest)
      = (readCodes opening rest).map fun r => (codes c ++ r.1, r.2) := by
  unfold coded
  by_cases hsmall : c.toNat < 0x10000
  · rw [if_pos hsmall, codes_of_lt hsmall, readCodes_hex hsmall hrest]
    rfl
  · have hvalid := c.valid
    simp only [UInt32.isValidChar, Nat.isValidChar] at hvalid
    have hc : c.val.toNat = c.toNat := rfl
    rw [if_neg hsmall, codes_of_not_lt hsmall]
    dsimp only
    rw [List.append_assoc, readCodes_hex (by omega) (by simp), readCodes_hex (by omega) hrest]
    cases readCodes opening rest <;> rfl

/-- A character is read from what it is escaped to. -/
theorem readCodes_escaped {opening : ℕ} (c : Char) {rest : List Char} (hrest : rest ≠ []) :
    readCodes opening (escaped c ++ rest)
      = (readCodes opening rest).map fun r => (codes c ++ r.1, r.2) := by
  unfold escaped
  split_ifs with hquote hn hr ht hf hb hvisible
  · rcases hquote with rfl | rfl <;> rfl
  · subst hn; rfl
  · subst hr; rfl
  · subst ht; rfl
  · subst hf; rfl
  · subst hb; rfl
  · obtain ⟨hquote, hbackslash⟩ := not_or.mp hquote
    have hle : c.toNat ≤ 0x7e := hvisible.2
    rw [codes_of_lt (by omega)]
    exact readCodes_plain hquote hbackslash hvisible.1 rest
  · exact readCodes_coded c hrest

theorem readCodes_flatMap (opening : ℕ) (cs rest : List Char) :
    readCodes opening (cs.flatMap escaped ++ '"' :: rest) = .ok (cs.flatMap codes, rest) := by
  induction cs with
  | nil => rw [List.flatMap_nil, List.nil_append, readCodes]; rfl
  | cons c cs ih =>
      rw [List.flatMap_cons, List.append_assoc, readCodes_escaped c (by simp), ih]
      rfl

/-- **A text reads back from its quoted form.** -/
theorem readText_quoted (s : String) (rest : List Char) :
    readText (s.toList.flatMap escaped ++ '"' :: rest) = .ok (s, rest) := by
  rw [readText, readCodes_flatMap]
  dsimp only [bind, Except.bind]
  rw [characters?_flatMap]
  exact congrArg (fun s => Except.ok (s, rest)) String.ofList_toList

theorem toList_quoted (s : String) :
    (quoted s).toList = '"' :: (s.toList.flatMap escaped ++ ['"']) := String.toList_ofList

/-! ## Atoms -/

/-- A text that starts neither a text nor a collection is a word or a number. -/
theorem readValue_atom {bound : ℕ} {c : Char} {cs : List Char} (hquote : c ≠ '"') (hlist : c ≠ '[')
    (hdict : c ≠ '\x7b') : readValue (bound + 1) (c :: cs) = readAtom (c :: cs) := by
  rw [readValue.eq_def]
  split
  · rename_i h
    cases h
  · rename_i h
    exact absurd (List.cons.inj h).1 hquote
  · rename_i h
    exact absurd (List.cons.inj h).1 hlist
  · rename_i h
    exact absurd (List.cons.inj h).1 hdict
  · rfl

/-- A text that a number is read from starts with a digit, after a sign. -/
theorem exists_digit_of_readNumber {cs : List Char} {r : Value × List Char}
    (h : readNumber cs = .ok r) :
    ∃ negative d rest, cs = signed negative ++ d :: rest ∧ isLatinDigit d = true := by
  have hwhole (body : List Char) (hne : (readWhole body).1.isEmpty = false) :
      ∃ d rest, body = d :: rest ∧ isLatinDigit d = true := by
    unfold readWhole at hne
    split at hne
    · exact ⟨_, _, rfl, rfl⟩
    · rw [Numeral.spanDigits, List.span_eq_takeWhile_dropWhile] at hne
      cases body with
      | nil => simp at hne
      | cons d rest =>
          refine ⟨d, rest, rfl, ?_⟩
          by_contra hd
          simp [hd] at hne
  have hnonempty {α : Type} {x : Except Problem α} {y : Problem} {whole : List Char} {a : α}
      (h : (if whole.isEmpty then .error y else x) = .ok a) : whole.isEmpty = false := by
    cases hwhole : whole.isEmpty with
    | true => simp [hwhole] at h
    | false => rfl
  unfold readNumber at h
  split at h
  rename_i negative body hbody
  obtain ⟨d, rest, rfl, hd⟩ := hwhole body (hnonempty h)
  split at hbody
  · obtain ⟨rfl, rfl⟩ := Prod.mk.inj hbody
    exact ⟨true, d, rest, rfl, hd⟩
  · obtain ⟨rfl, rfl⟩ := Prod.mk.inj hbody
    exact ⟨false, d, rest, rfl, hd⟩

theorem after?_of_ne {word : String} {w c : Char} {ws cs : List Char} (hword : word.toList = w :: ws)
    (h : w ≠ c) : after? word (c :: cs) = none := by
  unfold after?
  rw [hword]
  simp [List.isPrefixOf, h]

/-- No word starts like a number. -/
theorem readAtom_number {cs : List Char} {r : Value × List Char} (h : readNumber cs = .ok r) :
    readAtom cs = .ok r := by
  obtain ⟨negative, d, rest, rfl, hd⟩ := exists_digit_of_readNumber h
  have hne (c : Char) (hc : isLatinDigit c = false) : c ≠ d := by
    rintro rfl
    simp [hc] at hd
  have hnone : ∀ word ∈ words, after? word.1 (signed negative ++ d :: rest) = none := by
    simp only [words, List.forall_mem_cons]
    cases negative with
    | true =>
        have hminus : after? "-Infinity" ('-' :: d :: rest) = none := by
          unfold after?
          rw [if_neg]
          simp [List.isPrefixOf, hne 'I' rfl]
        exact ⟨after?_of_ne rfl (by decide), after?_of_ne rfl (by decide),
          after?_of_ne rfl (by decide), after?_of_ne rfl (by decide),
          after?_of_ne rfl (by decide), hminus, List.forall_mem_nil _⟩
    | false =>
        exact ⟨after?_of_ne rfl (hne 'n' rfl), after?_of_ne rfl (hne 't' rfl),
          after?_of_ne rfl (hne 'f' rfl), after?_of_ne rfl (hne 'N' rfl),
          after?_of_ne rfl (hne 'I' rfl), after?_of_ne rfl (hne '-' rfl), List.forall_mem_nil _⟩
  unfold readAtom
  rw [List.findSome?_eq_none_iff.mpr fun (word, v) hword => by
    simp only [hnone (word, v) hword, Option.map_none]]
  exact h

/-! ## Blanks and separators -/

/-- The text starts a value or a name: with no blank, no closing bracket and no
mark of the order of bytes. -/
def Starts (cs : List Char) : Prop :=
  ∃ c rest, cs = c :: rest ∧ isBlank c = false ∧ c ≠ ']' ∧ c ≠ '\x7d' ∧ c ≠ '\ufeff'

theorem Starts.append {cs : List Char} (h : Starts cs) (rest : List Char) : Starts (cs ++ rest) := by
  obtain ⟨c, more, rfl, hc⟩ := h
  exact ⟨c, more ++ rest, rfl, hc⟩

theorem skip_cons {c : Char} (h : isBlank c = false) (rest : List Char) :
    skip (c :: rest) = c :: rest := by
  simp [skip, h]

theorem Starts.skip_eq {cs : List Char} (h : Starts cs) : skip cs = cs := by
  obtain ⟨c, rest, rfl, hblank, -⟩ := h
  exact skip_cons hblank rest

theorem toList_newline (level : ℕ) :
    (newline level).toList = '\n' :: List.replicate (2 * level) ' ' := String.toList_ofList

theorem skip_newline (level : ℕ) (cs : List Char) : skip ((newline level).toList ++ cs) = skip cs := by
  rw [toList_newline, skip, List.dropWhile_append_of_pos]
  · rfl
  · intro c hc
    rcases List.mem_cons.mp hc with rfl | hc
    · rfl
    · rw [List.eq_of_mem_replicate hc]
      rfl

/-- The text of the parts after the first, with the closing bracket. -/
def continued (level : ℕ) (closing : Char) : List (List Char) → List Char
  | [] => (newline level).toList ++ [closing]
  | part :: rest => ',' :: (newline (level + 1)).toList ++ part ++ continued level closing rest

theorem closes_continued (level : ℕ) (closing : Char) (parts : List (List Char))
    (rest : List Char) : Closes (continued level closing parts ++ rest) := by
  cases parts with
  | nil =>
      rw [continued, toList_newline]
      rintro c ⟨⟩
      exact .inr rfl
  | cons part parts =>
      rintro c ⟨⟩
      exact .inl rfl

theorem toList_block (opening closing : Char) (level : ℕ) (part : String) (parts : List String) :
    (block (String.singleton opening) (String.singleton closing) level (part :: parts)).toList
      = opening :: (newline (level + 1)).toList ++ part.toList
        ++ continued level closing (parts.map String.toList) := by
  have hjoined : ∀ (part : String) (parts : List String),
      (("," ++ newline (level + 1)).intercalate (part :: parts)).toList
          ++ (newline level).toList ++ [closing]
        = part.toList ++ continued level closing (parts.map String.toList) := by
    intro part parts
    induction parts generalizing part with
    | nil => simp [continued]
    | cons next parts ih =>
        rw [String.toList_intercalate, List.map_cons, List.map_cons, List.intercalate_cons_cons,
          ← List.map_cons, ← String.toList_intercalate]
        simp only [List.append_assoc] at ih ⊢
        rw [ih]
        simp [continued]
  unfold block
  simp only [List.isEmpty_cons, Bool.false_eq_true, if_false, String.toList_append,
    String.toList_singleton]
  simp only [List.append_assoc] at hjoined ⊢
  rw [hjoined]
  rfl

/-! ## Values -/

/-- The text starts a value, and the value is what is read from it. -/
structure ReadsBack (v : Value) (text : List Char) : Prop where
  starts : Starts text
  reads : ∀ bound rest, text.length ≤ bound → Closes rest →
    readValue bound (text ++ rest) = .ok (v, rest)

/-- The character starts a word or a number. -/
def startsAtom (c : Char) : Bool :=
  !isBlank c && !(['"', '[', ']', '\x7b', '\x7d', '\ufeff'].contains c)

theorem startsAtom_of_digit {d : Char} (h : isLatinDigit d = true) : startsAtom d = true := by
  have hne (c : Char) (hc : isLatinDigit c = false) : d ≠ c := by
    rintro rfl
    simp [h] at hc
  simp [startsAtom, isBlank, hne ' ' rfl, hne '\t' rfl, hne '\n' rfl, hne '\r' rfl, hne '"' rfl,
    hne '[' rfl, hne ']' rfl, hne '\x7b' rfl, hne '\x7d' rfl, hne '\ufeff' rfl]

theorem ReadsBack.of_atom {v : Value} {text cs : List Char} {c : Char} (htext : text = c :: cs)
    (hc : startsAtom c = true)
    (h : ∀ rest, Closes rest → readAtom (text ++ rest) = .ok (v, rest)) : ReadsBack v text := by
  subst htext
  simp only [startsAtom, Bool.and_eq_true, Bool.not_eq_true', List.contains_eq_mem,
    decide_eq_false_iff_not, List.mem_cons, List.not_mem_nil, or_false, not_or] at hc
  obtain ⟨hblank, hquote, hlist, hlist', hdict, hdict', hmark⟩ := hc
  refine ⟨⟨c, cs, rfl, hblank, hlist', hdict', hmark⟩, fun bound rest hbound hrest => ?_⟩
  obtain ⟨bound, rfl⟩ := Nat.exists_eq_succ_of_ne_zero (show bound ≠ 0 by
    rw [List.length_cons] at hbound
    omega)
  rw [← h rest hrest]
  exact readValue_atom hquote hlist hdict

theorem ReadsBack.of_number {v : Value} {text : List Char}
    (h : ∀ rest, Closes rest → readNumber (text ++ rest) = .ok (v, rest)) : ReadsBack v text := by
  have hempty : Closes [] := fun c hc => by cases hc
  obtain ⟨negative, d, more, htext, hd⟩ := exists_digit_of_readNumber (h [] hempty)
  rw [List.append_nil] at htext
  have hread (rest : List Char) (hrest : Closes rest) := readAtom_number (h rest hrest)
  cases negative with
  | true => exact .of_atom htext rfl hread
  | false => exact .of_atom htext (startsAtom_of_digit hd) hread

theorem readsBack_quoted (s : String) : ReadsBack (.text s) (quoted s).toList := by
  rw [toList_quoted]
  refine ⟨⟨'"', _, rfl, rfl, by decide, by decide, by decide⟩, fun bound rest hbound hrest => ?_⟩
  obtain ⟨bound, rfl⟩ := Nat.exists_eq_succ_of_ne_zero (show bound ≠ 0 by
    rw [List.length_cons] at hbound
    omega)
  rw [List.cons_append, List.append_assoc, List.singleton_append, readValue, readText_quoted]
  rfl

/-- A value without parts reads back from its text. -/
theorem readsBack_leaf {v : Value} (h : v.IsJson) {text : String} (htext : leaf v = .ok text)
    (hlist : v.items? = none) (hdict : v.entries? = none) : ReadsBack v text.toList := by
  cases h with
  | null =>
      cases htext
      exact .of_atom rfl rfl fun rest _ => rfl
  | bool b =>
      cases htext
      cases b with
      | true => exact .of_atom rfl rfl fun rest _ => rfl
      | false => exact .of_atom rfl rfl fun rest _ => rfl
  | int n => exact .of_number fun rest hrest => readNumber_integer htext hrest
  | @float x double =>
      cases htext
      cases x with
      | nan => exact .of_atom rfl rfl fun rest _ => rfl
      | infinite negative =>
          cases negative with
          | true => exact .of_atom rfl rfl fun rest _ => rfl
          | false => exact .of_atom rfl rfl fun rest _ => rfl
      | finite negative mantissa exponent =>
          exact .of_number fun rest hrest => readNumber_finite double hrest
  | text s =>
      rw [← Except.ok.inj htext]
      exact readsBack_quoted s
  | list each => cases hlist
  | dict names each => cases hdict

/-! ## Collections -/

theorem skip_continued_nil (level : ℕ) {closing : Char} (h : isBlank closing = false)
    (rest : List Char) : skip (continued level closing [] ++ rest) = closing :: rest := by
  rw [continued, List.append_assoc, skip_newline, List.singleton_append, skip_cons h]

theorem skip_continued_cons (level : ℕ) (closing : Char) (part : List Char)
    (parts : List (List Char)) (rest : List Char) :
    skip (continued level closing (part :: parts) ++ rest)
      = ',' :: ((newline (level + 1)).toList ++ (part ++ (continued level closing parts ++ rest))) := by
  simp only [continued, List.cons_append, List.append_assoc]
  rw [skip_cons rfl]

theorem length_continued_pos (level : ℕ) (closing : Char) (parts : List (List Char)) :
    0 < (continued level closing parts).length := by
  cases parts with
  | nil => simp [continued]
  | cons part parts => simp [continued]

theorem length_le_continued_cons (level : ℕ) (closing : Char) (part : List Char)
    (parts : List (List Char)) : (part ++ continued level closing parts).length + 1
      ≤ (continued level closing (part :: parts)).length := by
  simp only [continued, List.length_append, List.length_cons]
  omega

/-- A step of a reader leaves enough of the bound for the part and for the rest. -/
theorem exists_bound {bound level : ℕ} {closing : Char} {text : List Char}
    {texts : List (List Char)} (h : (text ++ continued level closing texts).length ≤ bound) :
    ∃ left, bound = left + 1 ∧ text.length ≤ left ∧
      (continued level closing texts).length ≤ left + 1 := by
  have hpos := length_continued_pos level closing texts
  rw [List.length_append] at h
  exact ⟨bound - 1, by omega, by omega, by omega⟩

theorem readItems_continued {level : ℕ} {v : Value} {vs : List Value} {text : List Char}
    {texts : List (List Char)} (hfirst : ReadsBack v text) (hrest : List.Forall₂ ReadsBack vs texts)
    {bound : ℕ} (hbound : (text ++ continued level ']' texts).length ≤ bound) (rest : List Char) :
    readItems bound (text ++ (continued level ']' texts ++ rest)) = .ok (v :: vs, rest) := by
  induction hrest generalizing v text bound with
  | nil =>
      obtain ⟨bound, rfl, hlength, -⟩ := exists_bound hbound
      rw [readItems, hfirst.reads bound _ hlength (closes_continued _ _ _ _)]
      simp only [bind, Except.bind, skip_continued_nil level (show isBlank ']' = false from rfl)]
  | @cons next nexttext vs texts hnext hrest ih =>
      obtain ⟨bound, rfl, hlength, hleft⟩ := exists_bound hbound
      have hshort := length_le_continued_cons level ']' nexttext texts
      rw [readItems, hfirst.reads bound _ hlength (closes_continued _ _ _ _)]
      simp only [bind, Except.bind, skip_continued_cons, skip_newline,
        (hnext.starts.append _).skip_eq]
      rw [ih hnext (by omega)]
      rfl

/-- The text of a member: its name, a colon and its value. -/
def member (name : String) (text : List Char) : List Char :=
  (quoted name).toList ++ ':' :: ' ' :: text

theorem readName_member {name : String} {text rest : List Char} (h : Starts text) :
    readName (member name text ++ rest) = .ok (name, text ++ rest) := by
  have htext : skip (' ' :: (text ++ rest)) = text ++ rest := (h.append rest).skip_eq
  rw [member, toList_quoted]
  simp only [List.cons_append, List.append_assoc, List.nil_append]
  rw [readName, readText_quoted]
  simp only [bind, Except.bind, skip_cons (show isBlank ':' = false from rfl), htext]

/-- The text of a member whose value reads back. -/
def MemberReadsBack (e : Value × Value) (text : List Char) : Prop :=
  ∃ name body, e.1 = .text name ∧ ReadsBack e.2 body ∧ text = member name body

theorem MemberReadsBack.starts {e : Value × Value} {text : List Char} (h : MemberReadsBack e text) :
    Starts text := by
  obtain ⟨name, body, -, -, htext⟩ := h
  rw [htext, member, toList_quoted]
  exact ⟨'"', _, rfl, rfl, by decide, by decide, by decide⟩

theorem readMembers_continued {level : ℕ} {e : Value × Value} {es : Entries} {text : List Char}
    {texts : List (List Char)} (hfirst : MemberReadsBack e text)
    (hrest : List.Forall₂ MemberReadsBack es texts) {bound : ℕ}
    (hbound : (text ++ continued level '\x7d' texts).length ≤ bound) (rest : List Char) :
    readMembers bound (text ++ (continued level '\x7d' texts ++ rest)) = .ok (e :: es, rest) := by
  induction hrest generalizing e text bound with
  | nil =>
      obtain ⟨bound, rfl, hlength, -⟩ := exists_bound hbound
      obtain ⟨key, v⟩ := e
      obtain ⟨name, body, rfl, hbody, htext⟩ := hfirst
      rw [htext] at hlength ⊢
      have hbodylength : body.length ≤ bound := by
        simp only [member, List.length_append, List.length_cons] at hlength
        omega
      rw [readMembers, readName_member hbody.starts]
      simp only [bind, Except.bind, hbody.reads bound _ hbodylength (closes_continued _ _ _ _),
        skip_continued_nil level (show isBlank '\x7d' = false from rfl)]
  | @cons next nexttext es texts hnext hrest ih =>
      obtain ⟨bound, rfl, hlength, hleft⟩ := exists_bound hbound
      have hshort := length_le_continued_cons level '\x7d' nexttext texts
      obtain ⟨key, v⟩ := e
      obtain ⟨name, body, rfl, hbody, htext⟩ := hfirst
      rw [htext] at hlength ⊢
      have hbodylength : body.length ≤ bound := by
        simp only [member, List.length_append, List.length_cons] at hlength
        omega
      rw [readMembers, readName_member hbody.starts]
      simp only [bind, Except.bind, hbody.reads bound _ hbodylength (closes_continued _ _ _ _),
        skip_continued_cons, skip_newline, (hnext.starts.append _).skip_eq]
      rw [ih hnext (by omega)]
      rfl

theorem ofList_of_textNames {entries : Entries} (h : TextNames entries) :
    Entries.ofList entries = entries := by
  obtain ⟨names, hkeys, hnodup⟩ := h
  unfold Entries.ofList
  suffices ∀ (names : List String) (entries before : Entries), keys entries = names.map Value.text →
      names.Nodup → (∀ name ∈ names, Entries.option? before name = none) →
      entries.foldl (fun es e => Entries.insert e.1 e.2 es) before = before ++ entries from
    this names entries [] hkeys hnodup fun _ _ => rfl
  intro names
  induction names with
  | nil =>
      intro entries before hkeys _ _
      obtain rfl : entries = [] := List.map_eq_nil_iff.mp hkeys
      exact (List.append_nil before).symm
  | cons name names ih =>
      intro entries before hkeys hnodup hnew
      obtain ⟨hname, hnodup⟩ := List.nodup_cons.mp hnodup
      obtain ⟨e, entries, rfl⟩ : ∃ e rest, entries = e :: rest := by
        cases entries with
        | nil => cases hkeys
        | cons e rest => exact ⟨e, rest, rfl⟩
      obtain ⟨key, v⟩ := e
      obtain ⟨hkey, hrest⟩ := List.cons.inj hkeys
      obtain rfl : key = .text name := hkey
      rw [List.foldl_cons]
      have hlast := Entries.setOption_of_option?_eq_none (v := v) (hnew name List.mem_cons_self)
      rw [Entries.setOption] at hlast
      rw [hlast, ih entries _ hrest hnodup, List.append_assoc]
      · rfl
      · intro other hother
        rw [← hlast]
        refine (Entries.option?_setOption_of_ne _ _ ?_).trans
          (hnew other (List.mem_cons_of_mem _ hother))
        rintro rfl
        exact hname hother

theorem printItems_eq_ok {level : ℕ} {items : List Value} {texts : List String} :
    printItems level items = .ok texts ↔
      List.Forall₂ (fun v text => printAt level v = .ok text) items texts := by
  induction items generalizing texts with
  | nil => simp [printItems, pure, Except.pure, eq_comm]
  | cons v rest ih =>
      rw [printItems, List.forall₂_cons_left_iff, bind_eq_ok]
      constructor
      · rintro ⟨text, htext, h⟩
        obtain ⟨texts', htexts, h⟩ := bind_eq_ok.mp h
        exact ⟨text, texts', htext, ih.mp htexts, (pure_eq_ok.mp h).symm⟩
      · rintro ⟨text, texts', htext, htexts, rfl⟩
        exact ⟨text, htext, bind_eq_ok.mpr ⟨texts', ih.mpr htexts, rfl⟩⟩

theorem printMembers_eq_ok {level : ℕ} {entries : Entries} {texts : List String} :
    printMembers level entries = .ok texts ↔
      List.Forall₂ (fun e text => ∃ key body, name e.1 = .ok key ∧ printAt level e.2 = .ok body ∧
        text = quoted key ++ ": " ++ body) entries texts := by
  induction entries generalizing texts with
  | nil => simp [printMembers, pure, Except.pure, eq_comm]
  | cons e rest ih =>
      obtain ⟨k, v⟩ := e
      rw [printMembers, List.forall₂_cons_left_iff, bind_eq_ok]
      constructor
      · rintro ⟨key, hkey, h⟩
        obtain ⟨body, hbody, h⟩ := bind_eq_ok.mp h
        obtain ⟨texts', htexts, h⟩ := bind_eq_ok.mp h
        exact ⟨_, texts', ⟨key, body, hkey, hbody, rfl⟩, ih.mp htexts, (pure_eq_ok.mp h).symm⟩
      · rintro ⟨text, texts', ⟨key, body, hkey, hbody, rfl⟩, htexts, rfl⟩
        exact ⟨key, hkey, bind_eq_ok.mpr ⟨body, hbody, bind_eq_ok.mpr ⟨texts', ih.mpr htexts, rfl⟩⟩⟩

theorem readValue_list {bound : ℕ} {cs rest : List Char} (hskip : skip cs = rest)
    (h : Starts rest) : readValue (bound + 1) ('[' :: cs)
      = (readItems bound rest).map fun r => (.list r.1, r.2) := by
  obtain ⟨c, more, rfl, -, hclosing, -, -⟩ := h
  rw [readValue]
  split
  · rename_i heq
    rw [hskip] at heq
    exact absurd (List.cons.inj heq).1 hclosing
  · rw [hskip]

theorem readValue_dict {bound : ℕ} {cs rest : List Char} (hskip : skip cs = rest)
    (h : Starts rest) : readValue (bound + 1) ('\x7b' :: cs)
      = (readMembers bound rest).map fun r => (.dict (Entries.ofList r.1), r.2) := by
  obtain ⟨c, more, rfl, -, -, hclosing, -⟩ := h
  rw [readValue]
  split
  · rename_i heq
    rw [hskip] at heq
    exact absurd (List.cons.inj heq).1 hclosing
  · rw [hskip]

/-- The text of a collection reads back if its parts are read after the opening
bracket. -/
theorem readsBack_block {v : Value} {opening closing : Char} {level : ℕ} {part : String}
    {parts : List String}
    (hopening : isBlank opening = false ∧ opening ≠ ']' ∧ opening ≠ '\x7d' ∧ opening ≠ '\ufeff')
    (hreads : ∀ bound rest, (part.toList ++ continued level closing (parts.map String.toList)).length
        ≤ bound →
      readValue (bound + 1) (opening :: ((newline (level + 1)).toList ++ (part.toList ++
        (continued level closing (parts.map String.toList) ++ rest)))) = .ok (v, rest)) :
    ReadsBack v (block (String.singleton opening) (String.singleton closing) level
      (part :: parts)).toList := by
  rw [toList_block]
  refine ⟨⟨opening, _, rfl, hopening⟩, fun bound rest hbound hrest => ?_⟩
  simp only [List.cons_append, List.length_cons, List.length_append, List.append_assoc] at hbound ⊢
  obtain ⟨bound, rfl⟩ := Nat.exists_eq_succ_of_ne_zero (show bound ≠ 0 by omega)
  exact hreads bound rest (by rw [List.length_append]; omega)

theorem readsBack_list {items : List Value} {texts : List String} {level : ℕ}
    (h : List.Forall₂ (fun v text => ReadsBack v text.toList) items texts) :
    ReadsBack (.list items) (block "[" "]" level texts).toList := by
  cases h with
  | nil =>
      rw [show (block "[" "]" level []).toList = ['[', ']'] from String.toList_append]
      refine ⟨⟨'[', [']'], rfl, rfl, by decide, by decide, by decide⟩, fun bound rest hbound _ => ?_⟩
      obtain ⟨bound, rfl⟩ := Nat.exists_eq_succ_of_ne_zero (Nat.ne_of_gt
        (Nat.lt_of_lt_of_le Nat.two_pos hbound))
      rfl
  | @cons v text items texts hfirst hrest =>
      show ReadsBack _ (block (String.singleton '[') (String.singleton ']') level _).toList
      refine readsBack_block ⟨rfl, by decide, by decide, by decide⟩ fun bound rest hbound => ?_
      have hstarts := hfirst.starts.append
        (continued level ']' (texts.map String.toList) ++ rest)
      rw [readValue_list ((skip_newline _ _).trans hstarts.skip_eq) hstarts,
        readItems_continued hfirst (List.forall₂_map_right_iff.mpr hrest) hbound]
      rfl

theorem readsBack_dict {entries : Entries} {texts : List String} {level : ℕ}
    (names : TextNames entries)
    (h : List.Forall₂ (fun e text => MemberReadsBack e text.toList) entries texts) :
    ReadsBack (.dict entries) (block "\x7b" "\x7d" level texts).toList := by
  cases h with
  | nil =>
      rw [show (block "\x7b" "\x7d" level []).toList = ['\x7b', '\x7d'] from String.toList_append]
      refine ⟨⟨'\x7b', ['\x7d'], rfl, rfl, by decide, by decide, by decide⟩,
        fun bound rest hbound _ => ?_⟩
      obtain ⟨bound, rfl⟩ := Nat.exists_eq_succ_of_ne_zero (Nat.ne_of_gt
        (Nat.lt_of_lt_of_le Nat.two_pos hbound))
      rfl
  | @cons e text entries texts hfirst hrest =>
      show ReadsBack _ (block (String.singleton '\x7b') (String.singleton '\x7d') level _).toList
      refine readsBack_block ⟨rfl, by decide, by decide, by decide⟩ fun bound rest hbound => ?_
      have hstarts := hfirst.starts.append
        (continued level '\x7d' (texts.map String.toList) ++ rest)
      rw [readValue_dict ((skip_newline _ _).trans hstarts.skip_eq) hstarts,
        readMembers_continued hfirst (List.forall₂_map_right_iff.mpr hrest) hbound]
      exact congrArg (fun es => Except.ok (Value.dict es, rest)) (ofList_of_textNames names)

/-- **A value of the kinds that JSON has reads back from its printed text.** -/
theorem readsBack_printAt {v : Value} (h : v.IsJson) :
    ∀ {level : ℕ} {text : String}, printAt level v = .ok text → ReadsBack v text.toList := by
  induction h with
  | null => exact fun h => readsBack_leaf .null (by simpa [printAt] using h) rfl rfl
  | bool b => exact fun h => readsBack_leaf (.bool b) (by simpa [printAt] using h) rfl rfl
  | int n => exact fun h => readsBack_leaf (.int n) (by simpa [printAt] using h) rfl rfl
  | float double =>
      exact fun h => readsBack_leaf (.float double) (by simpa [printAt] using h) rfl rfl
  | text s => exact fun h => readsBack_leaf (.text s) (by simpa [printAt] using h) rfl rfl
  | @list items each ih =>
      intro level text h
      rw [printAt] at h
      obtain ⟨texts, htexts, h⟩ := bind_eq_ok.mp h
      obtain rfl := pure_eq_ok.mp h
      have hall := (List.forall₂_and_left _ _).mpr ⟨fun _ h => h, printItems_eq_ok.mp htexts⟩
      exact readsBack_list (hall.imp fun v text h => ih v h.1 h.2)
  | @dict entries names each ih =>
      intro level text h
      rw [printAt] at h
      obtain ⟨texts, htexts, h⟩ := bind_eq_ok.mp h
      obtain rfl := pure_eq_ok.mp h
      have hall := (List.forall₂_and_left _ _).mpr ⟨fun _ h => h, printMembers_eq_ok.mp htexts⟩
      refine readsBack_dict names (hall.imp ?_)
      rintro e text ⟨he, key, body, hkey, hbody, rfl⟩
      obtain ⟨ns, hkeys, -⟩ := names
      have hmem : e.1 ∈ ns.map Value.text := hkeys ▸ List.mem_map_of_mem he
      obtain ⟨n, -, hn⟩ := List.mem_map.mp hmem
      rw [← hn] at hkey
      cases hkey
      exact ⟨key, body.toList, hn.symm, ih e he hbody, by simp [member]⟩

/-- A printed value is what a whole text holds that ends with its line. -/
theorem ReadsBack.read {v : Value} {text : List Char} (h : ReadsBack v text) :
    read (text ++ ['\n']) = .ok v := by
  have hcloses : Closes ['\n'] := by
    rintro c ⟨⟩
    exact .inr rfl
  have hmark : (text ++ ['\n']).head? ≠ some '\ufeff' := by
    obtain ⟨c, rest, rfl, -, -, -, hmark⟩ := h.starts
    simpa using hmark
  unfold Json.read
  rw [if_neg hmark, (h.starts.append _).skip_eq,
    h.reads _ _ (by rw [List.length_append]; omega) hcloses]
  rfl

/-! ## Values that cannot be printed -/

/-- Some integer in the value has more digits than are written. -/
def HasLongInteger (v : Value) : Prop :=
  ∃ n : ℤ, (Value.int n).Inside v ∧ isTooLong n = true

theorem failsOnly_printItems {level : ℕ} {items : List Value} {E : Fault → Prop}
    (h : ∀ v ∈ items, FailsOnly (printAt level v) E) : FailsOnly (printItems level items) E := by
  induction items with
  | nil => exact .ok
  | cons v rest ih =>
      obtain ⟨hfirst, hrest⟩ := List.forall_mem_cons.mp h
      rw [printItems]
      exact hfirst.bind fun _ _ => (ih hrest).bind fun _ _ => .ok

theorem failsOnly_printMembers {level : ℕ} {entries : Entries} {E : Fault → Prop}
    (names : ∀ e ∈ entries, ∃ name, e.1 = .text name)
    (h : ∀ e ∈ entries, FailsOnly (printAt level e.2) E) :
    FailsOnly (printMembers level entries) E := by
  induction entries with
  | nil => exact .ok
  | cons e rest ih =>
      obtain ⟨hname, hnames⟩ := List.forall_mem_cons.mp names
      obtain ⟨hfirst, hrest⟩ := List.forall_mem_cons.mp h
      obtain ⟨key, v⟩ := e
      obtain ⟨name, rfl⟩ := hname
      rw [printMembers]
      exact FailsOnly.bind .ok fun _ _ => hfirst.bind fun _ _ => (ih hnames hrest).bind fun _ _ => .ok

/-- Nothing but an integer that is too long stops the printing. -/
theorem failsOnly_printAt {v : Value} (h : v.IsJson) : ∀ {level : ℕ},
    FailsOnly (printAt level v) fun fault => fault = .integerTooLong ∧ HasLongInteger v := by
  induction h with
  | null | bool | float | text =>
      intro level
      simp only [printAt, leaf]
      exact .ok
  | int n =>
      intro level
      simp only [printAt, leaf, integer]
      split
      · exact .error ⟨rfl, n, .self _, ‹_›⟩
      · exact .ok
  | @list items each ih =>
      intro level
      rw [printAt]
      refine FailsOnly.bind (failsOnly_printItems fun v hv fault hfault => ?_) fun _ _ => .ok
      obtain ⟨rfl, n, hinside, hlong⟩ := ih v hv fault hfault
      exact ⟨rfl, n, .item hv hinside, hlong⟩
  | @dict entries names each ih =>
      intro level
      rw [printAt]
      refine FailsOnly.bind (failsOnly_printMembers names.exists_eq fun e he fault hfault => ?_)
        fun _ _ => .ok
      obtain ⟨rfl, n, hinside, hlong⟩ := ih e he fault hfault
      exact ⟨rfl, n, .entry he hinside, hlong⟩

/-- What is printed holds no integer that is too long. -/
theorem not_hasLongInteger {v : Value} (h : v.IsJson) : ∀ {level : ℕ} {text : String},
    printAt level v = .ok text → ¬HasLongInteger v := by
  induction h with
  | null | bool | float | text =>
      rintro level text - ⟨n, hinside, -⟩
      cases hinside
  | int n =>
      rintro level text htext ⟨m, hinside, hlong⟩
      cases hinside
      simp only [printAt, leaf, integer, if_pos hlong] at htext
      cases htext
  | @list items each ih =>
      rintro level text htext ⟨n, hinside, hlong⟩
      rw [printAt] at htext
      obtain ⟨texts, htexts, -⟩ := bind_eq_ok.mp htext
      cases hinside with
      | item hitem hbelow =>
          obtain ⟨text, -, htext⟩ :=
            Compilation.exists_of_forall₂ (printItems_eq_ok.mp htexts).flip hitem
          exact ih _ hitem htext ⟨n, hbelow, hlong⟩
  | @dict entries names each ih =>
      rintro level text htext ⟨n, hinside, hlong⟩
      rw [printAt] at htext
      obtain ⟨texts, htexts, -⟩ := bind_eq_ok.mp htext
      cases hinside with
      | entry he hbelow =>
          obtain ⟨text, -, key, body, -, hbody, -⟩ :=
            Compilation.exists_of_forall₂ (printMembers_eq_ok.mp htexts).flip he
          exact ih _ he hbody ⟨n, hbelow, hlong⟩

end Json

end DataShape
