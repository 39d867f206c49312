/-
**Readers read back what is written for them.**

A value *denotes* a typed value if it is read back from its text and the reader makes the typed value of
it. Scalars and lists denote what they are written for; a member that is left out counts as one that
leaves the record as it is. So a record is read back member by member: `Fills` follows its fields in
order, from the blank record to the whole one.

* `Denotes` — what a value is read as, and how deep it is; `Denotes.readText` for its texts;
* `Fills` — the members written for the fields of a record, and what they make of the record before them;
  `Fills.must`, `Fills.optional`, `Fills.flag` for the three kinds of members;
* `Fills.read`, `Denotes.record` — a record is read back from its members;
* `Variant.readAny_constant`, `Denotes.variant` — variants without and with a value.
-/

import SqlCraft.Table.Document
import SqlCraft.Proofs.Json.Source

namespace SqlCraft.Json

/-- Steps that give back what a list is made of. -/
theorem mapM_map_eq_ok {α β : Type} {values : List α} {write : α → β} {step : β → Except Fault α}
    (each : ∀ value ∈ values, step (write value) = .ok value) :
    (values.map write).mapM step = .ok values := by
  induction values with
  | nil => rfl
  | cons value rest ih =>
    obtain ⟨first, later⟩ := List.forall_mem_cons.1 each
    rw [List.map_cons, List.mapM_cons, first, ih later]
    rfl

/-- Of elements with names of their own, each is found by its name. -/
theorem find?_of_distinct {β : Type} {name : β → String} {list : List β} (distinct : (list.map name).Nodup)
    {element : β} (inside : element ∈ list) :
    list.find? (fun other => name other == name element) = some element := by
  induction list with
  | nil => cases inside
  | cons first rest ih =>
    obtain ⟨fresh, later⟩ := List.nodup_cons.1 distinct
    rcases List.mem_cons.1 inside with rfl | behind
    · exact List.find?_cons_of_pos (beq_self_eq_true _)
    · have other : name first ≠ name element := by
        intro same
        exact fresh (same ▸ List.mem_map_of_mem behind)
      rw [List.find?_cons_of_neg (by simpa using other), ih later behind]

/-- The value is read back from its text, and the reader makes the result of it. -/
structure Denotes {α : Type} (read : Reader α) (room : Nat) (json : Json) (result : α) : Prop where
  readable : Readable room json
  made : read json.source = .ok result

namespace Denotes

variable {α : Type} {read : Reader α} {room : Nat} {json : Json} {result : α}

/-- **What a value denotes is read from its texts.** -/
theorem readText (denotes : Denotes read room json result) (fits : room ≤ 127) :
    ∀ text ∈ [json.compact, json.pretty], Json.readText read text = .ok result :=
  denotes.readable.readText fits denotes.made

/-- What is built from the reader's result. -/
theorem map {β : Type} {build : α → β} {built : β} (denotes : Denotes read room json result)
    (same : build result = built) : Denotes (fun source => (read source).map build) room json built := by
  refine ⟨denotes.readable, ?_⟩
  rw [denotes.made, ← same]
  rfl

/-! ### Scalars -/

theorem string (value : String) : Denotes Reader.string room (.string value) value :=
  ⟨.string value, rfl⟩

theorem bool (value : Bool) : Denotes Reader.bool room (.bool value) value :=
  ⟨.bool value, rfl⟩

theorem double {value : Float} (readsBack : ReadsBack value) :
    Denotes Reader.double room (.double value) value := by
  refine ⟨.double readsBack, ?_⟩
  rw [source, Reader.double, readsBack.2]

/-- An integer of the range that is wanted, no wider than 64 bits. -/
theorem integer {low high value : Int} (wanted : String) (inside : low ≤ value ∧ value ≤ high)
    (fits : -0x8000000000000000 ≤ low ∧ high < 0x10000000000000000) :
    Denotes (Reader.integer low high wanted) room (.integer value) value := by
  have wide : -0x8000000000000000 ≤ value ∧ value < 0x10000000000000000 := by omega
  refine ⟨.integer wide, ?_⟩
  rw [source, Reader.integer, Token.number?_ofInt wide]
  exact if_pos inside

theorem uint32 (value : UInt32) : Denotes Reader.uint32 room (.integer value.toNat) value := by
  have inside : (0 : Int) ≤ value.toNat ∧ (value.toNat : Int) ≤ (UInt32.size : Int) - 1 := by
    have below := value.toNat_lt
    unfold UInt32.size
    omega
  exact (integer "u32" inside (by decide)).map (by simp)

theorem int32 (value : Int32) : Denotes Reader.int32 room (.integer value.toInt) value := by
  have inside := And.intro value.minValue_le_toInt value.toInt_le
  exact (integer "i32" inside (by decide)).map value.ofInt_toInt

theorem int64 (value : Int64) : Denotes Reader.int64 room (.integer value.toInt) value := by
  have inside := And.intro value.minValue_le_toInt value.toInt_le
  exact (integer "i64" inside (by decide)).map value.ofInt_toInt

/-! ### What may be missing, lists, maps -/

/-- A value of a reader that takes no null. -/
theorem option (denotes : Denotes read room json result) (refuses : ∀ other, read .null ≠ .ok other) :
    Denotes read.option room json (some result) := by
  have present : json.source ≠ .null := by
    intro null
    exact refuses result (null ▸ denotes.made)
  refine ⟨denotes.readable, ?_⟩
  rw [Reader.option, denotes.made]
  · rfl
  · exact present

theorem list {values : List α} {write : α → Json}
    (each : ∀ value ∈ values, Denotes read room (write value) value) :
    Denotes (Reader.list read) (room + 1) (.array (values.map write)) values := by
  refine ⟨.array ?_, ?_⟩
  · intro item inside
    obtain ⟨value, held, rfl⟩ := List.mem_map.1 inside
    exact (each value held).readable
  · rw [source, Reader.list, itemSources_eq, List.map_map]
    exact mapM_map_eq_ok fun value inside => (each value inside).made

theorem entries {values : List (String × α)} {write : α → Json}
    (each : ∀ value ∈ values, Denotes read room (write value.2) value.2) :
    Denotes (Reader.map read) (room + 1) (.object (values.map fun value => (value.1, write value.2)))
      values := by
  refine ⟨.object ?_, ?_⟩
  · intro member inside
    obtain ⟨value, held, rfl⟩ := List.mem_map.1 inside
    exact (each value held).readable
  · rw [source, Reader.map, memberSources_eq, List.map_map]
    refine mapM_map_eq_ok fun value inside => ?_
    show (read (write value.2).source).map _ = _
    rw [(each value inside).made]
    rfl

end Denotes

/-! ### Records -/

section

variable {α Part : Type} {set : α → Part → α} {room : Nat}

/-- The members that are written for fields, in the order of the fields, and the record that they make of
the one before them. -/
inductive Fills (set : α → Part → α) (room : Nat) :
    List (Field Part) → α → List (String × Json) → α → Prop
  | done {record : α} : Fills set room [] record [] record
  | member (field : Field Part) {fields : List (Field Part)} {members : List (String × Json)} {json : Json}
    {part : Part} {record whole : α} (denotes : Denotes field.read room json part)
    (rest : Fills set room fields (set record part) members whole) :
    Fills set room (field :: fields) record ((field.name, json) :: members) whole
  | missing {field : Field Part} {fields : List (Field Part)} {members : List (String × Json)}
    {record whole : α} (optional : field.required = false)
    (rest : Fills set room fields record members whole) :
    Fills set room (field :: fields) record members whole

namespace Fills

variable {fields : List (Field Part)} {members : List (String × Json)} {record whole : α} {name : String}

theorem must {β : Type} {build : β → Part} {read : Reader β} {json : Json} {value : β}
    (denotes : Denotes read room json value)
    (rest : Fills set room fields (set record (build value)) members whole) :
    Fills set room (.must name build read :: fields) record ((name, json) :: members) whole :=
  .member (.must name build read) (denotes.map rfl) rest

/-- A member for a value that is there. -/
theorem optional {β : Type} {build : Option β → Part} {read : Reader β} {write : β → Json}
    {value : Option β} (each : ∀ held ∈ value, Denotes read room (write held) held)
    (refuses : ∀ other, read .null ≠ .ok other) (absent : set record (build none) = record)
    (rest : Fills set room fields (set record (build value)) members whole) :
    Fills set room (.may name build read.option :: fields) record (member? name write value ++ members)
      whole := by
  cases value with
  | none =>
    rw [absent] at rest
    exact .missing rfl rest
  | some held =>
    exact .member (.may name build read.option)
      (((each held rfl).option refuses).map rfl) rest

/-- A member for what is true. -/
theorem flag {build : Bool → Part} {value : Bool} (absent : set record (build false) = record)
    (rest : Fills set room fields (set record (build value)) members whole) :
    Fills set room (.may name build Reader.bool :: fields) record (Json.flag name value ++ members)
      whole := by
  cases value with
  | false =>
    rw [absent] at rest
    exact .missing rfl rest
  | true => exact .member (.may name build Reader.bool) ((Denotes.bool true).map rfl) rest

theorem readable (fills : Fills set room fields record members whole) :
    ∀ member ∈ members, Readable room member.2 := by
  induction fills with
  | done => exact nofun
  | member _ denotes _ ih => exact List.forall_mem_cons.2 ⟨denotes.readable, ih⟩
  | missing _ _ ih => exact ih

end Fills

/-- The keys that have been seen when fields are done: only theirs, and those of all that must be there. -/
structure Seen (fields : List (Field Part)) (keys : List String) : Prop where
  known : ∀ key ∈ keys, key ∈ fields.map Field.name
  complete : ∀ field ∈ fields, field.required → field.name ∈ keys

namespace Seen

variable {fields : List (Field Part)} {keys : List String} {field : Field Part}

theorem member (seen : Seen fields keys) : Seen (fields ++ [field]) (field.name :: keys) where
  known := by
    intro key inside
    rw [List.map_append, List.mem_append]
    rcases List.mem_cons.1 inside with rfl | earlier
    · exact .inr (List.mem_singleton_self _)
    · exact .inl (seen.known key earlier)
  complete := by
    intro other inside required
    rcases List.mem_append.1 inside with earlier | last
    · exact List.mem_cons_of_mem _ (seen.complete other earlier required)
    · rw [List.mem_singleton.1 last]
      exact List.mem_cons_self

theorem missing (seen : Seen fields keys) (optional : field.required = false) :
    Seen (fields ++ [field]) keys where
  known := by
    intro key inside
    rw [List.map_append]
    exact List.mem_append_left _ (seen.known key inside)
  complete := by
    intro other inside required
    rcases List.mem_append.1 inside with earlier | last
    · exact seen.complete other earlier required
    · rw [List.mem_singleton.1 last, optional] at required
      cases required

theorem find?_eq_none (seen : Seen fields keys) :
    fields.find? (fun field => field.required && !keys.contains field.name) = none := by
  rw [List.find?_eq_none]
  intro field inside missing
  simp only [Bool.and_eq_true, Bool.not_eq_true', List.contains_eq_mem, decide_eq_false_iff_not] at missing
  exact missing.2 (seen.complete field inside missing.1)

end Seen

namespace Fills

variable {fields : List (Field Part)} {members : List (String × Json)} {record whole : α}

/-- **A record is read back from its members**, behind fields that are done. -/
theorem readMembers {layout : Layout Part} (distinct : (layout.fields.map Field.name).Nodup)
    (fills : Fills set room fields record members whole) {before : List (Field Part)} {keys : List String}
    (order : before ++ fields = layout.fields) (seen : Seen before keys) :
    ∃ parts, layout.readMembers keys (memberSources members) = .ok parts ∧
      parts.foldl set record = whole := by
  induction fills generalizing before keys with
  | done =>
    rw [List.append_nil] at order
    have all := order ▸ seen.find?_eq_none
    exact ⟨[], by rw [memberSources, Layout.readMembers, all], rfl⟩
  | member field denotes _ ih =>
    have found : layout.fields.find? (fun other => other.name == field.name) = some field :=
      find?_of_distinct distinct (order ▸ List.mem_append_right _ List.mem_cons_self)
    have fresh : field.name ∉ before.map Field.name := by
      rw [← order, List.map_append, List.map_cons] at distinct
      intro inside
      exact (List.nodup_append.1 distinct).2.2 _ inside _ List.mem_cons_self rfl
    have unseen : keys.contains field.name = false := by
      simpa using fun inside => fresh (seen.known _ inside)
    obtain ⟨parts, read, made⟩ := ih (by rw [List.append_assoc]; exact order) seen.member
    refine ⟨_ :: parts, ?_, made⟩
    rw [memberSources, Layout.readMembers, found]
    show (if keys.contains field.name then _ else _) = _
    rw [unseen, if_neg Bool.false_ne_true, denotes.made, read]
    rfl
  | missing optional _ ih =>
    exact ih (by rw [List.append_assoc]; exact order) (seen.missing optional)

/-- All members of a record, from the blank one on. -/
theorem read {layout : Layout Part} (fills : Fills set room layout.fields record members whole)
    (distinct : (layout.fields.map Field.name).Nodup) :
    ∃ parts, layout.read (Json.object members).source = .ok parts ∧ parts.foldl set record = whole :=
  fills.readMembers distinct (List.nil_append _) ⟨nofun, nofun⟩

end Fills

/-- **A record is what its members make of a blank one.** -/
theorem Denotes.record {layout : Layout Part} {members : List (String × Json)} {blank whole : α}
    (distinct : (layout.fields.map Field.name).Nodup)
    (fills : Fills set room layout.fields blank members whole) :
    Denotes (fun source => (layout.read source).map (·.foldl set blank)) (room + 1) (.object members)
      whole := by
  obtain ⟨parts, read, made⟩ := fills.read distinct
  refine ⟨.object fills.readable, ?_⟩
  rw [read, ← made]
  rfl

end

/-! ### Variants -/

namespace Variant

/-- The name of a variant without a value. -/
theorem readAny_constant {α : Type} {all : List α} {name : α → String} {value : α}
    (distinct : (all.map name).Nodup) (known : value ∈ all) :
    readAny (all.map fun value => .constant (name value) value) (.string (some (name value))) =
      .ok value := by
  have found : all.find? ((fun variant => variant.name == name value) ∘ fun other =>
      constant (name other) other) = some value := find?_of_distinct distinct known
  have chosen : named (all.map fun value => .constant (name value) value) (name value) =
      .ok (.constant (name value) value) := by
    rw [named, List.find?_map, found]
    rfl
  show (named _ _ >>= _) = _
  rw [chosen]
  rfl

end Variant

/-- A variant with a value, by its name as the only key. -/
theorem Denotes.variant {α : Type} {room : Nat} {variants : List (Variant α)} {json : Json} {result : α}
    (variant : Variant α) (named : Variant.named variants variant.name = .ok variant)
    (denotes : Denotes variant.read room json result) :
    Denotes (Variant.readAny variants) (room + 1) (.object [(variant.name, json)]) result := by
  refine ⟨.object fun member inside => ?_, ?_⟩
  · rw [List.mem_singleton.1 inside]
    exact denotes.readable
  · show (Variant.named variants variant.name >>= fun chosen => chosen.read json.source >>= _) = _
    rw [named]
    show (variant.read json.source >>= _) = _
    rw [denotes.made]
    rfl

end SqlCraft.Json
