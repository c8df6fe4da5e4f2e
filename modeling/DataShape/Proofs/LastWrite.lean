import DataShape.Proofs.Extension
import DataShape.Proofs.SameKey

/-!
# The last registration wins

A registry is the outcome of a history of calls, the failing ones among them: the
calls for the built-in types, where there are any, and all later ones. What a tag or
an alias leads to is settled by the last call of the history that assigned the tag or
recorded the alias, and the calls before it leave no trace but the places of their tags.
-/

namespace DataShape

/-- One call that registers a candidate. -/
structure Registration where
  tag : Value
  candidate : Candidate
  aliases : Value

namespace Registration

/-- The registry that a call leaves, whether it fails or not. -/
def perform (r : Registry) (call : Registration) : Registry :=
  (r.register call.tag call.candidate call.aliases).1

/-- The tag and the capability that a call puts under it. A call that is refused for
its tag or for its candidate assigns nothing. -/
def assigned? (call : Registration) : Option (String × Capability) :=
  match call.tag.text?, call.candidate with
  | some name, .capability c => if name.isEmpty then none else some (name, c)
  | _, _ => none

def tag? (call : Registration) : Option String := call.assigned?.map Prod.fst

/-- The aliases that a call comes to: those before the first that cannot be a key. -/
def reached (call : Registration) : List Value :=
  call.aliases.members.takeWhile Value.isHashable

/-- The tag that a call makes a value an alias of, under the same key. -/
def aliased? (x : Value) (call : Registration) : Option String :=
  if call.reached.any x.sameKey then call.tag? else none

/-- The capability that a call puts under a tag. -/
def capability? (tag : String) (call : Registration) : Option Capability :=
  call.assigned?.bind fun assigned => if assigned.1 = tag then some assigned.2 else none

/-- The last call of a history for which there is an answer gives this one. -/
def Last {α : Type} (answer? : Registration → Option α) (history : List Registration)
    (a : α) : Prop :=
  ∃ before call after, history = before ++ call :: after ∧ answer? call = some a ∧
    ∀ later ∈ after, answer? later = none

theorem last_iff {α : Type} {answer? : Registration → Option α} {history : List Registration}
    {a : α} : Last answer? history a ↔ history.reverse.findSome? answer? = some a := by
  rw [List.findSome?_eq_some_iff]
  constructor
  · rintro ⟨before, call, after, rfl, hcall, hafter⟩
    exact ⟨after.reverse, call, before.reverse, by simp, hcall, by simpa using hafter⟩
  · rintro ⟨after, call, before, hhistory, hcall, hafter⟩
    refine ⟨before.reverse, call, after.reverse, ?_, hcall, by simpa using hafter⟩
    rw [← List.reverse_reverse history, hhistory]
    simp

end Registration

namespace Registry

open Registration (Last)

/-- Makes values aliases of a tag, one after the other. -/
def recordAll (tag : String) (vs : List Value) (r : Registry) : Registry :=
  { r with aliases := vs.foldl (fun aliases v => assign Value.sameKey v tag aliases) r.aliases }

theorem recordAll_cons (tag : String) (v : Value) (vs : List Value) (r : Registry) :
    recordAll tag (v :: vs) r
      = recordAll tag vs { r with aliases := assign Value.sameKey v tag r.aliases } := rfl

/-- The registry that a history of calls leads to. -/
def after (history : List Registration) : Registry := history.foldl Registration.perform {}

/-- The calls with which a registry starts: those for the built-in types, or none. -/
def seeds (seeded : Bool) : List Registration :=
  if seeded then
    Capability.builtins.map fun c => ⟨.text c.name, .capability c, .list c.aliases⟩
  else []

/-- How a call ends, with what it leaves behind. -/
inductive Ending (r : Registry) (call : Registration) : Registry × Option Fault → Prop
  | badTag (tag : ∀ name, call.tag.text? = some name → name = "")
      (told : call.tag.isWritable = true) : Ending r call (r, some (.badTag call.tag))
  | longTag (tag : call.tag.text? = none) (untold : call.tag.isWritable = false) :
      Ending r call (r, some .integerTooLong)
  | notCapability {name : String} {v : Value} (tag : call.tag.text? = some name)
      (named : name ≠ "") (candidate : call.candidate = .other v) :
      Ending r call (r, some (.notCapability name v))
  | complete {name : String} {c : Capability} {vs : List Value}
      (assigned : call.assigned? = some (name, c)) (walk : call.aliases.walk = .ok vs)
      (hashable : ∀ v ∈ vs, v.isHashable = true) :
      Ending r call (recordAll name vs (r.setType name c), none)
  | unhashable {name : String} {reason : Unhashable} {c : Capability} {vs rest : List Value}
      {v : Value}
      (assigned : call.assigned? = some (name, c))
      (walk : call.aliases.walk = .ok (vs ++ v :: rest))
      (hashable : ∀ v ∈ vs, v.isHashable = true) (failing : v.unhashable? = some reason) :
      Ending r call (recordAll name vs (r.setType name c), some (.unhashable reason))
  | notIterable {name : String} {c : Capability} {fault : Fault}
      (assigned : call.assigned? = some (name, c)) (walk : call.aliases.walk = .error fault) :
      Ending r call (r.setType name c, some fault)

/-! ## What one call does -/

theorem setAliases_cases (tag : String) : ∀ (vs : List Value) (r : Registry),
    ((∀ v ∈ vs, v.isHashable = true) ∧ setAliases tag vs r = (recordAll tag vs r, none)) ∨
    ∃ good v rest reason, vs = good ++ v :: rest ∧ (∀ v ∈ good, v.isHashable = true) ∧
      v.unhashable? = some reason ∧
      setAliases tag vs r = (recordAll tag good r, some (.unhashable reason))
  | [], r => Or.inl ⟨by simp, rfl⟩
  | v :: vs, r => by
      rw [setAliases, setAlias]
      cases hv : v.unhashable? with
      | some reason => exact Or.inr ⟨[], v, vs, reason, rfl, by simp, hv, rfl⟩
      | none =>
          have hhashable : v.isHashable = true := by simp [Value.isHashable, hv]
          rcases setAliases_cases tag vs { r with aliases := assign Value.sameKey v tag r.aliases }
            with ⟨hall, hset⟩ | ⟨good, bad, rest, reason, rfl, hgood, hbad, hset⟩
          · exact Or.inl ⟨List.forall_mem_cons.mpr ⟨hhashable, hall⟩, hset⟩
          · exact Or.inr ⟨v :: good, bad, rest, reason, rfl,
              List.forall_mem_cons.mpr ⟨hhashable, hgood⟩, hbad, hset⟩

theorem ending_register (r : Registry) (call : Registration) :
    Ending r call (r.register call.tag call.candidate call.aliases) := by
  unfold register
  cases htag : call.tag.text? with
  | none =>
      cases htold : call.tag.isWritable with
      | true => exact .badTag (by simp [htag]) htold
      | false => exact .longTag htag htold
  | some name =>
      dsimp only
      split
      · rename_i hempty
        exact .badTag (by simpa [htag] using hempty) (Value.isWritable_of_text? htag)
      · rename_i hname
        cases hcandidate : call.candidate with
        | other v => exact .notCapability htag (by simpa using hname) hcandidate
        | capability c =>
            have hassigned : call.assigned? = some (name, c) := by
              simp [Registration.assigned?, htag, hcandidate, hname]
            cases hwalk : call.aliases.walk with
            | error fault => exact .notIterable hassigned hwalk
            | ok vs =>
                dsimp only
                rcases setAliases_cases name vs (r.setType name c)
                  with ⟨hall, hset⟩ | ⟨good, v, rest, reason, rfl, hgood, hbad, hset⟩
                · rw [hset]
                  exact .complete hassigned hwalk hall
                · rw [hset]
                  exact .unhashable hassigned hwalk hgood hbad

/-- A call that assigns nothing leaves the registry as it is; another one also records
the aliases that it comes to. -/
theorem perform_eq (r : Registry) (call : Registration) :
    call.perform r = match call.assigned? with
      | none => r
      | some (name, c) => recordAll name call.reached (r.setType name c) := by
  unfold Registration.perform Registration.reached
  generalize hend : r.register call.tag call.candidate call.aliases = result
  have hending : Ending r call result := hend ▸ ending_register r call
  cases hending with
  | badTag tag =>
      have hnone : call.assigned? = none := by
        unfold Registration.assigned?
        split
        · rename_i htag _
          simp [tag _ htag]
        · rfl
      rw [hnone]
  | longTag tag =>
      have hnone : call.assigned? = none := by simp [Registration.assigned?, tag]
      rw [hnone]
  | notCapability tag named candidate =>
      have hnone : call.assigned? = none := by simp [Registration.assigned?, tag, candidate]
      rw [hnone]
  | complete assigned walk hashable =>
      rw [assigned, Value.members_of_walk walk]
      dsimp only
      rw [List.takeWhile_eq_self_iff.mpr hashable]
  | unhashable assigned walk hashable failing =>
      rw [assigned, Value.members_of_walk walk]
      dsimp only
      rw [List.takeWhile_append_of_pos hashable,
        List.takeWhile_cons_of_neg (by simp [Value.isHashable, failing]), List.append_nil]
  | notIterable assigned walk =>
      rw [assigned, Value.members, walk]
      rfl

/-! ## What a history leaves -/

theorem after_concat (history : List Registration) (call : Registration) :
    after (history ++ [call]) = call.perform (after history) :=
  List.foldl_concat ..

theorem builtin_eq_after : Registry.builtin = after (seeds true) := by
  rw [after, seeds, if_pos rfl, List.foldl_map]
  rfl

theorem tags_setType (r : Registry) (name : String) (c : Capability) :
    (r.setType name c).tags = if name ∈ r.tags then r.tags else r.tags ++ [name] := by
  show (assign (· == ·) name c r.types).map Prod.fst = _
  unfold tags
  generalize r.types = types
  induction types with
  | nil => rfl
  | cons e rest ih =>
      rw [assign]
      by_cases heq : name = e.1
      · simp [heq]
      · rw [if_neg (by simpa using heq), List.map_cons, ih]
        simp only [List.map_cons, List.mem_cons, heq, false_or]
        split
        · rfl
        · rfl

theorem capability?_setType_self (r : Registry) (name : String) (c : Capability) :
    (r.setType name c).capability? name = some c := by
  show (assign (· == ·) name c r.types).lookup name = some c
  generalize r.types = types
  induction types with
  | nil => simp [assign]
  | cons e rest ih =>
      obtain ⟨key, old⟩ := e
      rw [assign]
      by_cases heq : name = key
      · simp [heq]
      · have hne : (name == key) = false := by simpa using heq
        rw [if_neg (by simpa using heq), List.lookup_cons, hne]
        exact ih

theorem eraseDups_concat (known : List String) (name : String) :
    (known ++ [name]).eraseDups
      = if name ∈ known.eraseDups then known.eraseDups else known.eraseDups ++ [name] := by
  rw [List.eraseDups_append, List.removeAll, List.filter_cons]
  by_cases h : name ∈ known
  · simp [h]
  · simp [h, List.eraseDups_cons]

theorem nodup_eraseDups (known : List String) : known.eraseDups.Nodup := by
  induction known using List.reverseRecOn with
  | nil => exact List.nodup_nil
  | append_singleton known name ih =>
      rw [eraseDups_concat]
      split
      · exact ih
      · rename_i hnew
        exact List.nodup_append.mpr ⟨ih, List.nodup_singleton name,
          fun a ha b hb => by rintro rfl; exact hnew (List.mem_singleton.mp hb ▸ ha)⟩

/-- The tags stand in the order in which they were first assigned. -/
theorem tags_after (history : List Registration) :
    (after history).tags = (history.filterMap Registration.tag?).eraseDups := by
  induction history using List.reverseRecOn with
  | nil => rfl
  | append_singleton history call ih =>
      rw [after_concat, perform_eq, List.filterMap_append]
      cases hassigned : call.assigned? with
      | none =>
          rw [List.filterMap_cons_none (by simp [Registration.tag?, hassigned]),
            List.filterMap_nil, List.append_nil]
          exact ih
      | some assigned =>
          obtain ⟨name, c⟩ := assigned
          rw [List.filterMap_cons_some (b := name) (by simp [Registration.tag?, hassigned]),
            List.filterMap_nil]
          show ((after history).setType name c).tags = _
          rw [tags_setType, ih, eraseDups_concat]

/-- A tag has the capability that was assigned to it last. -/
theorem capability?_after (tag : String) (history : List Registration) :
    (after history).capability? tag
      = history.reverse.findSome? (Registration.capability? tag) := by
  induction history using List.reverseRecOn with
  | nil => rfl
  | append_singleton history call ih =>
      rw [after_concat, perform_eq, List.reverse_concat, List.findSome?_cons, ← ih,
        Registration.capability?]
      cases call.assigned? with
      | none => rfl
      | some assigned =>
          obtain ⟨name, c⟩ := assigned
          show ((after history).setType name c).capability? tag = _
          by_cases heq : name = tag
          · subst heq
            simp [capability?_setType_self]
          · simp [heq, capability?_setType_of_ne (Ne.symm heq)]

/-- A value is under the key of an assignment or of an entry that was there. -/
theorem key_assign {κ α : Type} {same : κ → κ → Bool} {key : κ} {v : α} {e : κ × α} :
    ∀ {entries : List (κ × α)}, e ∈ assign same key v entries →
      e.1 = key ∨ ∃ e' ∈ entries, e'.1 = e.1
  | [], h => by
      obtain rfl := List.mem_singleton.mp h
      exact Or.inl rfl
  | first :: rest, h => by
      rw [assign] at h
      split at h
      · rcases List.mem_cons.mp h with rfl | h
        · exact Or.inr ⟨first, List.mem_cons_self, rfl⟩
        · exact Or.inr ⟨e, List.mem_cons_of_mem _ h, rfl⟩
      · rcases List.mem_cons.mp h with rfl | h
        · exact Or.inr ⟨e, List.mem_cons_self, rfl⟩
        · rcases key_assign h with hkey | ⟨e', he', hkey⟩
          · exact Or.inl hkey
          · exact Or.inr ⟨e', List.mem_cons_of_mem _ he', hkey⟩

/-- The tag that stands under a key. -/
def aliasTag? (r : Registry) (x : Value) : Option String :=
  (r.aliases.find? fun e => x.sameKey e.1).map Prod.snd

/-- An assignment of an alias is found under the keys that are one with the alias, and
under the others what was there. -/
theorem find?_assign {x key : Value} {tag : String} (hx : x.IsKey) (hkey : key.IsKey) :
    ∀ {aliases : List (Value × String)}, (∀ e ∈ aliases, e.1.IsKey) →
      ((assign Value.sameKey key tag aliases).find? fun e => x.sameKey e.1).map Prod.snd
        = if x.sameKey key then some tag
          else (aliases.find? fun e => x.sameKey e.1).map Prod.snd
  | [], _ => by
      cases h : x.sameKey key with
      | true => simp [assign, h]
      | false => simp [assign, h]
  | e :: rest, hkeys => by
      obtain ⟨he, hrest⟩ := List.forall_mem_cons.mp hkeys
      rw [assign]
      split
      · rename_i hone
        have hcongr := Value.IsKey.sameKey_congr hkey he hx hone
        cases h : x.sameKey e.1 with
        | true => simp [h, hcongr]
        | false => simp [h, hcongr]
      · rename_i hother
        cases h : x.sameKey e.1 with
        | true =>
            -- a key that is one with both would make them one
            have hapart : x.sameKey key = false := by
              refine Bool.eq_false_iff.mpr fun hsame => hother ?_
              exact hkey.sameKey_trans hx (hx.sameKey_symm hkey hsame) h
            simp [h, hapart]
        | false =>
            rw [List.find?_cons, h, List.find?_cons, h]
            exact find?_assign hx hkey hrest

/-- Every alias can be a key. -/
def KeysOnly (r : Registry) : Prop := ∀ e ∈ r.aliases, e.1.IsKey

theorem KeysOnly.recordAll {tag : String} : ∀ {vs : List Value} {r : Registry}, r.KeysOnly →
    (∀ v ∈ vs, v.IsKey) → (recordAll tag vs r).KeysOnly
  | [], r, hr, _ => hr
  | v :: vs, r, hr, hvs => by
      obtain ⟨hv, hrest⟩ := List.forall_mem_cons.mp hvs
      rw [recordAll_cons]
      refine KeysOnly.recordAll (fun e he => ?_) hrest
      rcases key_assign he with hkey | ⟨e', he', hkey⟩
      · exact hkey ▸ hv
      · exact hkey ▸ hr e' he'

theorem aliasTag?_recordAll {x : Value} {tag : String} (hx : x.IsKey) :
    ∀ {vs : List Value} {r : Registry}, r.KeysOnly → (∀ v ∈ vs, v.IsKey) →
      (recordAll tag vs r).aliasTag? x = if vs.any x.sameKey then some tag else r.aliasTag? x
  | [], r, _, _ => rfl
  | v :: vs, r, hr, hvs => by
      obtain ⟨hv, hrest⟩ := List.forall_mem_cons.mp hvs
      have hone : KeysOnly (recordAll tag [v] r) :=
        hr.recordAll (List.forall_mem_singleton.mpr hv)
      change KeysOnly { r with aliases := assign Value.sameKey v tag r.aliases } at hone
      rw [recordAll_cons, aliasTag?_recordAll hx hone hrest, aliasTag?, find?_assign hx hv hr,
        List.any_cons]
      cases vs.any x.sameKey with
      | true => simp
      | false => simp [aliasTag?]

theorem isKey_of_mem_reached {call : Registration} (h : call.aliases.ProperSets) :
    ∀ v ∈ call.reached, v.IsKey := by
  intro v hv
  unfold Registration.reached at hv
  cases hwalk : call.aliases.walk with
  | error fault => simp [Value.members, hwalk, Except.toOption] at hv
  | ok items =>
      rw [Value.members_of_walk hwalk] at hv
      exact ⟨h.of_mem_walk hwalk v ((List.takeWhile_sublist _).mem hv), List.mem_takeWhile_imp hv⟩

theorem keysOnly_after {history : List Registration}
    (h : ∀ call ∈ history, call.aliases.ProperSets) : (after history).KeysOnly := by
  induction history using List.reverseRecOn with
  | nil => intro e he; simp [after] at he
  | append_singleton history call ih =>
      obtain ⟨hbefore, hcall⟩ := List.forall_mem_append.mp h
      rw [after_concat, perform_eq]
      cases call.assigned? with
      | none => exact ih hbefore
      | some assigned =>
          exact KeysOnly.recordAll (ih hbefore)
            (isKey_of_mem_reached (hcall call List.mem_cons_self))

/-- A key leads to the tag of the last call that recorded it. -/
theorem aliasTag?_after {x : Value} (hx : x.IsKey) {history : List Registration}
    (h : ∀ call ∈ history, call.aliases.ProperSets) :
    (after history).aliasTag? x = history.reverse.findSome? (Registration.aliased? x) := by
  induction history using List.reverseRecOn with
  | nil => rfl
  | append_singleton history call ih =>
      obtain ⟨hbefore, hcall⟩ := List.forall_mem_append.mp h
      have hreached := isKey_of_mem_reached (hcall call List.mem_cons_self)
      rw [after_concat, perform_eq, List.reverse_concat, List.findSome?_cons, ← ih hbefore,
        Registration.aliased?, Registration.tag?]
      cases call.assigned? with
      | none => simp
      | some assigned =>
          obtain ⟨name, c⟩ := assigned
          have hkeys : ((after history).setType name c).KeysOnly := keysOnly_after hbefore
          dsimp only
          rw [aliasTag?_recordAll hx hkeys hreached]
          cases call.reached.any x.sameKey with
          | true => simp
          | false => simp [aliasTag?, setType]

theorem mem_aliases_recordAll {tag : String} {e : Value × String} :
    ∀ {vs : List Value} {r : Registry}, e ∈ (recordAll tag vs r).aliases →
      e.2 = tag ∨ e ∈ r.aliases
  | [], _, h => Or.inr h
  | v :: vs, r, h => by
      rw [recordAll_cons] at h
      rcases mem_aliases_recordAll h with h | h
      · exact Or.inl h
      · exact mem_assign h

/-- Every alias leads to a tag. -/
theorem mem_tags_of_mem_aliases (history : List Registration) :
    ∀ e ∈ (after history).aliases, e.2 ∈ (after history).tags := by
  induction history using List.reverseRecOn with
  | nil => intro e he; simp [after] at he
  | append_singleton history call ih =>
      rw [after_concat, perform_eq]
      cases call.assigned? with
      | none => exact ih
      | some assigned =>
          obtain ⟨name, c⟩ := assigned
          intro e he
          show e.2 ∈ ((after history).setType name c).tags
          rw [tags_setType]
          have hname : e.2 = name ∨ e.2 ∈ (after history).tags :=
            (mem_aliases_recordAll he).imp_right (ih e)
          split
          · rename_i hknown
            exact hname.elim (fun h => h ▸ hknown) id
          · exact List.mem_append.mpr (hname.symm.imp_right List.mem_singleton.mpr)

/-! ## The last write wins -/

/-- A registry knows what the calls of a history said last. Keys are asked for by
their content, which a number that is none and is not equal to itself does not have. -/
structure LastWins (history : List Registration) (r : Registry) : Prop where
  aliases_lead : ∀ e ∈ r.aliases, e.2 ∈ r.tags
  lookup_none : ∀ x, r.lookup? x = none ↔ r.resolve? x = none
  not_contained : ∀ x, r.contains x = false ↔ r.resolve? x = none
  of_text : ∀ x s tag, x.text? = some s →
    (r.resolve? x = some tag ↔ tag = s ∧ ∃ call ∈ history, call.tag? = some s)
  of_key : ∀ x tag, x.text? = none → x.IsKey → x.sameKey x = true →
    (r.resolve? x = some tag ↔ Last (Registration.aliased? x) history tag)
  of_unhashable : ∀ x, x.isHashable = false → r.resolve? x = none
  lookup_last : ∀ x tag, r.resolve? x = some tag →
    ∃ c, r.lookup? x = some c ∧ Last (Registration.capability? tag) history c
  tags_in_order : r.tags = (history.filterMap Registration.tag?).eraseDups
  tags_nodup : r.tags.Nodup

theorem mem_tags_after {history : List Registration} {tag : String} :
    tag ∈ (after history).tags ↔ ∃ call ∈ history, call.tag? = some tag := by
  rw [tags_after, List.mem_eraseDups, List.mem_filterMap]

/-- What a value resolves to is a tag. -/
theorem mem_tags_of_resolve?_after {history : List Registration} {x : Value} {tag : String}
    (h : (after history).resolve? x = some tag) : tag ∈ (after history).tags := by
  unfold resolve? at h
  split at h
  · split at h
    · rename_i hknown
      obtain rfl := Option.some.inj h
      simpa using hknown
    · simp at h
  · split at h
    · obtain ⟨e, he, rfl⟩ := Option.map_eq_some_iff.mp h
      exact mem_tags_of_mem_aliases history e (List.mem_of_find?_eq_some he)
    · simp at h

theorem lastWins_after {history : List Registration}
    (hsets : ∀ call ∈ history, call.aliases.ProperSets) : LastWins history (after history) := by
  -- an internal failure of a look-up would be a tag without a capability
  have hlookup : ∀ x tag, (after history).resolve? x = some tag →
      ∃ c, (after history).lookup? x = some c ∧
        Last (Registration.capability? tag) history c := by
    intro x tag hx
    obtain ⟨c, hc⟩ := mem_tags_iff.mp (mem_tags_of_resolve?_after hx)
    refine ⟨c, by rw [lookup?, hx]; exact hc, ?_⟩
    rw [Registration.last_iff, ← capability?_after]
    exact hc
  refine ⟨mem_tags_of_mem_aliases history, fun x => ?_, fun x => ?_, fun x s tag hs => ?_,
    fun x tag hs hx _ => ?_, fun x hx => ?_, hlookup, tags_after history, ?_⟩
  · refine ⟨fun hnone => ?_, fun hnone => by rw [lookup?, hnone]; rfl⟩
    cases hx : (after history).resolve? x with
    | none => rfl
    | some tag =>
        obtain ⟨c, hc, -⟩ := hlookup x tag hx
        simp [hc] at hnone
  · simp [contains]
  · rw [← mem_tags_after, resolve?, hs]
    dsimp only
    by_cases hmem : s ∈ (after history).tags
    · simp [hmem, eq_comm]
    · simp [hmem]
  · rw [Registration.last_iff, ← aliasTag?_after hx hsets, resolve?, hs]
    dsimp only
    rw [if_pos hx.hashable]
    rfl
  · unfold resolve?
    cases hs : x.text? with
    | none => simp [hx]
    | some s =>
        rcases Value.eq_of_text?_eq_some hs with rfl | rfl
        · simp [Value.isHashable, Value.unhashable?] at hx
        · simp [Value.isHashable, Value.unhashable?] at hx
  · rw [tags_after]
    exact nodup_eraseDups _

theorem properSets_seeds (seeded : Bool) : ∀ call ∈ seeds seeded, call.aliases.ProperSets := by
  intro call hcall
  cases seeded with
  | false => simp [seeds] at hcall
  | true =>
      have hpartless : ∀ c ∈ Capability.builtins, ∀ v ∈ c.aliases, v.isPartless = true := by
        decide
      obtain ⟨c, hc, rfl⟩ := List.mem_map.mp hcall
      exact .sequence fun v hv => .partless (hpartless c hc v hv)

/-- **The last registration wins.** After any calls on a registry, with the built-in
types or without them and successful or not, aliases lead to tags and tags to
capabilities; a text resolves to itself where it was registered, any other key to the
tag of the last call that recorded it. Every call ends in one of six ways: refused
without a trace, with everything recorded, or with the type and the aliases before the
one that failed. -/
theorem lastWins_of_calls (seeded : Bool) (calls : List Registration)
    (hsets : ∀ call ∈ calls, call.aliases.ProperSets) :
    LastWins (seeds seeded ++ calls)
      (calls.foldl Registration.perform (if seeded then Registry.builtin else {})) ∧
    ∀ (r : Registry) (call : Registration),
      Ending r call (r.register call.tag call.candidate call.aliases) := by
  refine ⟨?_, ending_register⟩
  have hstart : (if seeded then Registry.builtin else {}) = after (seeds seeded) := by
    cases seeded with
    | true => exact builtin_eq_after
    | false => rfl
  rw [hstart, after, ← List.foldl_append]
  exact lastWins_after (List.forall_mem_append.mpr ⟨properSets_seeds seeded, hsets⟩)

/-- Even numbers under the number one and a set, then a range under the fraction one
and a list, which fails. -/
def overridden : List Registration :=
  [⟨.text "even", .capability .even,
      .list [.int 1, .set true [.int 2, .float (.finite false 3 0)]]⟩,
    ⟨.text "range", .capability .range, .list [.float (.finite false 1 0), .list []]⟩]

theorem properSets_overridden : ∀ call ∈ overridden, call.aliases.ProperSets := by
  refine List.forall_mem_cons.mpr ⟨.sequence ?_, List.forall_mem_singleton.mpr (.sequence ?_)⟩
  · refine List.forall_mem_cons.mpr ⟨.partless rfl, List.forall_mem_singleton.mpr (.set ?_ ?_ ?_)⟩
    · exact List.forall_mem_cons.mpr ⟨.partless rfl, List.forall_mem_singleton.mpr (.partless rfl)⟩
    · decide
    · decide +kernel
  · exact List.forall_mem_cons.mpr ⟨.partless rfl,
      List.forall_mem_singleton.mpr (.sequence (by simp))⟩

/-- The truth value is the number one too, and leads to the later of the two. -/
theorem lastWins_overridden :
    (∀ call ∈ overridden, call.aliases.ProperSets) ∧
      (overridden.foldl Registration.perform Registry.builtin).resolve? (.bool true)
        = some "range" := by
  have hwins := (lastWins_of_calls true overridden properSets_overridden).1
  refine ⟨properSets_overridden, ?_⟩
  have hkey : (Value.bool true).IsKey := ⟨.partless rfl, rfl⟩
  refine (hwins.of_key _ "range" rfl hkey (by decide +kernel)).mpr ?_
  exact ⟨seeds true ++ overridden.take 1, overridden[1], [], by simp [overridden],
    by decide +kernel, by simp⟩

/-- One tenth in single precision, recorded as an alias of even numbers. -/
def singleTenth : Value := .scalar (.float .float32 (.finite false 13421773 (-27)))

/-- One tenth in double precision is equal to the one in single precision, which it meets
in that format, but not one key with it. -/
theorem not_resolved_of_equal :
    let tenth := Value.float (.finite false 3602879701896397 (-55))
    let call : Registration := ⟨.text "even", .capability .even, .list [singleTenth]⟩
    tenth.equal singleTenth = true ∧ singleTenth.equal tenth = true ∧
      tenth.text? = none ∧ tenth.isHashable = true ∧
      (Registry.builtin.register call.tag call.candidate call.aliases).2 = none ∧
      (call.perform Registry.builtin).resolve? singleTenth = some "even" ∧
      (call.perform Registry.builtin).resolve? tenth = none := by
  refine ⟨?_, ?_, rfl, rfl, rfl, ?_, ?_⟩
  · decide +kernel
  · decide +kernel
  · decide +kernel
  · decide +kernel

end Registry

end DataShape
