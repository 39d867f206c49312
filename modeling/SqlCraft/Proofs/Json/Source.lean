/-
**The tokens of a JSON value are read as the value.**

The reader has a stack of the arrays and objects that are still open. It reads the tokens of a value with
nothing but that value in hand, and goes on behind it with the same stack; so the items of an array and
the members of an object are read one after another. Nothing is too deep as long as there is room for it.

* `Json.source` — a value as it is read;
* `Source.readValue_items`, `Source.readKey_members` — the items of an array, the members of an object;
* `Readable.readValue` — a value, with any stack;
* `Readable.readText` — a whole text, compact or indented.
-/

import SqlCraft.Json.Document
import SqlCraft.Proofs.Json.Scan

namespace SqlCraft.Json

/-! ### A value as it is read -/

mutual

/-- A value as it is read from its text. -/
def source : Json → Source
  | .null => .null
  | .bool value => .bool value
  | .integer value => .number (Token.ofInt value)
  | .double value => .number (doubleNumeral value)
  | .string value => .string (some value)
  | .array items => .array (itemSources items)
  | .object members => .object (memberSources members)

/-- The items of an array as they are read. -/
def itemSources : List Json → List Source
  | [] => []
  | item :: rest => item.source :: itemSources rest

/-- The members of an object as they are read. -/
def memberSources : List (String × Json) → List (Option String × Source)
  | [] => []
  | (key, value) :: rest => (some key, value.source) :: memberSources rest

end

theorem itemSources_eq (items : List Json) : itemSources items = items.map source := by
  induction items with
  | nil => rfl
  | cons item rest ih => rw [itemSources, ih, List.map_cons]

theorem memberSources_eq (members : List (String × Json)) :
    memberSources members = members.map fun member => (some member.1, member.2.source) := by
  induction members with
  | nil => rfl
  | cons member rest ih => rw [memberSources, ih, List.map_cons]

/-- The tokens of items do not start with a closing bracket. -/
theorem commas_head (item : Json) (others : List Json) :
    ∃ token rest, commas (itemTokens (item :: others)) = token :: rest ∧ token ≠ .rightBracket := by
  obtain ⟨token, rest, same, other⟩ :
      ∃ token rest, item.tokens = token :: rest ∧ token ≠ .rightBracket := by
    cases item with
    | array | object =>
      rw [tokens]
      exact ⟨_, _, rfl, by simp⟩
    | null | bool | integer | double | string => exact ⟨_, _, rfl, by simp⟩
  cases others with
  | nil => exact ⟨token, rest, by simp [commas, itemTokens, same], other⟩
  | cons next others =>
    rw [commas, itemTokens, itemTokens, List.intercalate_cons_cons, same]
    exact ⟨token, _, rfl, other⟩

namespace Source

/-! ### Arrays and objects -/

section

variable {frames : List Frame}

/-- Nothing is too deep inside of few others. -/
theorem nested_of_shallow (shallow : frames.length ≤ 126) (value : Source) :
    nested frames value = value := by
  rw [nested, List.drop_eq_nil_of_le shallow]
  rfl

/-- The items of an array that is open. -/
theorem readValue_items (shallow : frames.length ≤ 126) {items : List Json} (some : items ≠ [])
    (each : ∀ item ∈ items, ∀ held rest, readValue (.array held :: frames) (item.tokens ++ rest) =
      readOn item.source (.array held :: frames) rest) (held : List Source) (rest : List Token) :
    readValue (.array held :: frames) (commas (itemTokens items) ++ .rightBracket :: rest) =
      readOn (.array (held.reverse ++ itemSources items)) frames rest := by
  induction items generalizing held with
  | nil => exact absurd rfl some
  | cons item others ih =>
    obtain ⟨first, later⟩ := List.forall_mem_cons.1 each
    cases others with
    | nil =>
      have single : commas (itemTokens [item]) = item.tokens := by simp [commas, itemTokens]
      rw [single, first, readOn, nested_of_shallow shallow, List.reverse_cons]
      rfl
    | cons next others =>
      have more : commas (itemTokens (item :: next :: others)) =
          item.tokens ++ .comma :: commas (itemTokens (next :: others)) := by
        simp [commas, itemTokens, List.intercalate_cons_cons]
      rw [more, List.append_assoc, first, List.cons_append, readOn,
        ih (List.cons_ne_nil _ _) later (item.source :: held), List.reverse_cons, List.append_assoc]
      rfl

/-- The members of an object that is open. -/
theorem readKey_members (shallow : frames.length ≤ 126) {members : List (String × Json)}
    (some : members ≠ [])
    (each : ∀ member ∈ members, ∀ held key rest,
      readValue (.object held key :: frames) (member.2.tokens ++ rest) =
        readOn member.2.source (.object held key :: frames) rest)
    (held : List (Option String × Source)) (rest : List Token) :
    readKey held frames (commas (memberTokens members) ++ .rightBrace :: rest) =
      readOn (.object (held.reverse ++ memberSources members)) frames rest := by
  induction members generalizing held with
  | nil => exact absurd rfl some
  | cons member others ih =>
    obtain ⟨key, value⟩ := member
    obtain ⟨first, later⟩ := List.forall_mem_cons.1 each
    cases others with
    | nil =>
      have single : commas (memberTokens [(key, value)]) =
          .string (.some key) :: .colon :: value.tokens := by simp [commas, memberTokens]
      rw [single, List.cons_append, List.cons_append, readKey, first, readOn,
        nested_of_shallow shallow, List.reverse_cons]
      rfl
    | cons next others =>
      have more : commas (memberTokens ((key, value) :: next :: others)) =
          .string (.some key) :: .colon ::
            (value.tokens ++ .comma :: commas (memberTokens (next :: others))) := by
        simp [commas, memberTokens, List.intercalate_cons_cons]
      rw [more, List.cons_append, List.cons_append, List.append_assoc, readKey, first, List.cons_append,
        readOn, ih (List.cons_ne_nil _ _) later ((.some key, value.source) :: held), List.reverse_cons,
        List.append_assoc]
      rfl

end

end Source

open Source (readValue readOn readKey)

/-! ### Values -/

/-- **The tokens of a value are read as the value**, inside of arrays and objects that leave room for it. -/
theorem Readable.readValue {room : Nat} {json : Json} (readable : Readable room json)
    {frames : List Source.Frame} (fits : frames.length + room ≤ 127) (rest : List Token) :
    readValue frames (json.tokens ++ rest) = readOn json.source frames rest := by
  induction readable generalizing frames rest with
  | null => rfl
  | bool value => rfl
  | integer => rfl
  | double => rfl
  | string value => rfl
  | @array room items _ ih =>
    have shallow : frames.length ≤ 126 := by omega
    have each : ∀ item ∈ items, ∀ held rest,
        Source.readValue (.array held :: frames) (item.tokens ++ rest) =
          Source.readOn item.source (.array held :: frames) rest := by
      intro item inside held rest
      exact ih item inside (by rw [List.length_cons]; omega) rest
    rw [tokens, source, List.cons_append, List.append_assoc, List.singleton_append]
    cases items with
    | nil =>
      show Source.readOn (Source.nested frames (.array [])) frames rest = _
      rw [Source.nested_of_shallow shallow, itemSources]
    | cons item others =>
      obtain ⟨token, tail, same, other⟩ := commas_head item others
      have opened := Source.readValue_items shallow (List.cons_ne_nil item others) each [] rest
      rw [List.reverse_nil, List.nil_append] at opened
      rw [← opened, same, List.cons_append, Source.readValue]
      intro _ clash
      exact other (List.cons.inj clash).1
  | @object room members _ ih =>
    have shallow : frames.length ≤ 126 := by omega
    have each : ∀ member ∈ members, ∀ held key rest,
        Source.readValue (.object held key :: frames) (member.2.tokens ++ rest) =
          Source.readOn member.2.source (.object held key :: frames) rest := by
      intro member inside held key rest
      exact ih member inside (by rw [List.length_cons]; omega) rest
    rw [tokens, source, List.cons_append, List.append_assoc, List.singleton_append]
    cases members with
    | nil =>
      show Source.readOn (Source.nested frames (.object [])) frames rest = _
      rw [Source.nested_of_shallow shallow, memberSources]
    | cons member others =>
      have opened := Source.readKey_members shallow (List.cons_ne_nil member others) each [] rest
      rw [List.reverse_nil, List.nil_append] at opened
      obtain ⟨tail, same⟩ : ∃ tail, commas (memberTokens (member :: others)) =
          .string (some member.1) :: tail := by
        cases others with
        | nil => exact ⟨_, by rw [memberTokens, memberTokens, commas, List.intercalate_singleton]⟩
        | cons next others =>
          exact ⟨_, by rw [memberTokens, memberTokens, commas, List.intercalate_cons_cons]; rfl⟩
      rw [← opened, same, List.cons_append, Source.readValue]
      intro _ clash
      cases clash

/-- The tokens of a value are read as the value, up to the last one. -/
theorem Readable.read {room : Nat} {json : Json} (readable : Readable room json) (fits : room ≤ 127) :
    Source.read json.tokens = (json.source, []) := by
  have outermost : ([] : List Source.Frame).length + room ≤ 127 := by simpa using fits
  have whole := readable.readValue outermost []
  rw [List.append_nil] at whole
  exact whole

/-! ### Whole texts -/

/-- A text of the tokens of a value holds what the reader makes of the value. -/
theorem Readable.readText_of_spells {α : Type} {read : Reader α} {result : α} {text : String} {json : Json}
    {room : Nat} (readable : Readable room json) (fits : room ≤ 127) (spells : Spells text json.tokens)
    (made : read json.source = .ok result) : readText read text = .ok result := by
  have empty : Token.scan [] = [] := by
    rw [Token.scan_eq]
    rfl
  have scanned : Token.scan text.toList = json.tokens := by
    have whole := spells [] nofun
    rw [List.append_nil] at whole
    rw [whole, empty, List.append_nil]
  rw [Json.readText, scanned, readable.read fits]
  show (do let value ← read json.source; _) = _
  rw [made]
  rfl

/-- **A document is read from the compact and from the indented text of its value.** -/
theorem Readable.readText {α : Type} {read : Reader α} {result : α} {json : Json} {room : Nat}
    (readable : Readable room json) (fits : room ≤ 127) (made : read json.source = .ok result) :
    ∀ text ∈ [json.compact, json.pretty], Json.readText read text = .ok result := by
  have compact := readable.readText_of_spells fits readable.spells_compact made
  have pretty := readable.readText_of_spells fits (readable.spells_prettyAt 0) made
  exact List.forall_mem_cons.2 ⟨compact, List.forall_mem_singleton.2 pretty⟩

end SqlCraft.Json
