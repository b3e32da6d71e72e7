import Mathlib.Tactic.Common

/-!
# JSON texts

Values that are `null`, texts, arrays or objects, an object being its members in the order of its keys.

* `Json.write` — the compact text of a value; what may not stand in a text as it is is written as `\u00xx`;
* `Json.parse` — the value of such a text, with the length of the text as fuel;
* `Json.parse_write` — the round trip.
-/

namespace DistributedNetwork.Library

inductive JsonValue where
  | null
  | string (text : List UInt8)
  | array (values : List JsonValue)
  | object (members : List (List UInt8 × JsonValue))

/-- The keys of every object in the value ascend. -/
inductive JsonValue.Ordered : JsonValue → Prop
  | null : Ordered .null
  | string (text : List UInt8) : Ordered (.string text)
  | array (values : List JsonValue) : (∀ value ∈ values, value.Ordered) → Ordered (.array values)
  | object (members : List (List UInt8 × JsonValue)) :
      (members.map Prod.fst).Pairwise (· < ·) → (∀ member ∈ members, member.2.Ordered) →
        Ordered (.object members)

namespace Json

/-! ### Texts -/

def hexDigit (n : ℕ) : UInt8 :=
  if n < 10 then UInt8.ofNat (48 + n) else UInt8.ofNat (87 + n)

def hexValue (digit : UInt8) : ℕ :=
  if digit < 58 then digit.toNat - 48 else digit.toNat - 87

theorem hexValue_hexDigit : ∀ n < 16, hexValue (hexDigit n) = n := by
  decide

/-- A byte as it stands in a text: quote, backslash and control characters are escaped. -/
def writeByte (byte : UInt8) : List UInt8 :=
  if byte < 32 ∨ byte = 34 ∨ byte = 92 then
    [92, 117, 48, 48, hexDigit (byte.toNat / 16), hexDigit (byte.toNat % 16)]
  else [byte]

def writeText (text : List UInt8) : List UInt8 :=
  34 :: text.flatMap writeByte ++ [34]

/-- The text up to the quote, and what is behind the quote. -/
def readText : List UInt8 → Option (List UInt8 × List UInt8)
  | [] => none
  | 34 :: rest => some ([], rest)
  | 92 :: 117 :: 48 :: 48 :: high :: low :: rest =>
    (readText rest).map fun read => (UInt8.ofNat (16 * hexValue high + hexValue low) :: read.1, read.2)
  | byte :: rest => (readText rest).map fun read => (byte :: read.1, read.2)

theorem readText_writeByte (byte : UInt8) (rest : List UInt8) :
    readText (writeByte byte ++ rest) = (readText rest).map fun read => (byte :: read.1, read.2) := by
  have hlt : byte.toNat < 256 := byte.toNat_lt
  unfold writeByte
  split
  · have hbyte : UInt8.ofNat (16 * hexValue (hexDigit (byte.toNat / 16)) +
        hexValue (hexDigit (byte.toNat % 16))) = byte := by
      rw [hexValue_hexDigit _ (by omega), hexValue_hexDigit _ (by omega), Nat.div_add_mod,
        UInt8.ofNat_toNat]
    simp only [List.cons_append, List.nil_append, readText, hbyte]
  · next hplain =>
    obtain ⟨-, hquote, hescape⟩ : ¬ byte < 32 ∧ byte ≠ 34 ∧ byte ≠ 92 := by
      simpa only [not_or] using hplain
    rw [List.cons_append, List.nil_append, readText]
    · exact hquote
    · exact fun _ _ _ h => absurd h hescape

/-- **Round trip of a text.** -/
theorem readText_writeText (text rest : List UInt8) :
    readText (text.flatMap writeByte ++ 34 :: rest) = some (text, rest) := by
  induction text with
  | nil => rfl
  | cons byte text ih => rw [List.flatMap_cons, List.append_assoc, readText_writeByte, ih, Option.map_some]

/-! ### Values -/

mutual

def writeValue : JsonValue → List UInt8
  | .null => [110, 117, 108, 108]
  | .string text => writeText text
  | .array [] => [91, 93]
  | .array (value :: values) => 91 :: writeValue value ++ writeValues values
  | .object [] => [123, 125]
  | .object ((key, value) :: members) =>
    123 :: writeText key ++ 58 :: writeValue value ++ writeMembers members

/-- The values behind the first one, and the bracket. -/
def writeValues : List JsonValue → List UInt8
  | [] => [93]
  | value :: values => 44 :: writeValue value ++ writeValues values

/-- The members behind the first one, and the brace. -/
def writeMembers : List (List UInt8 × JsonValue) → List UInt8
  | [] => [125]
  | (key, value) :: members => 44 :: writeText key ++ 58 :: writeValue value ++ writeMembers members

end

mutual

def readValue : ℕ → List UInt8 → Option (JsonValue × List UInt8)
  | 0, _ => none
  | _ + 1, 110 :: 117 :: 108 :: 108 :: rest => some (.null, rest)
  | _ + 1, 34 :: rest => (readText rest).map fun read => (.string read.1, read.2)
  | _ + 1, 91 :: 93 :: rest => some (.array [], rest)
  | fuel + 1, 91 :: rest =>
    (readValue fuel rest).bind fun first =>
      (readValues fuel first.2).map fun read => (.array (first.1 :: read.1), read.2)
  | _ + 1, 123 :: 125 :: rest => some (.object [], rest)
  | fuel + 1, 123 :: rest =>
    (readMember fuel rest).bind fun first =>
      (readMembers fuel first.2).map fun read => (.object (first.1 :: read.1), read.2)
  | _ + 1, _ => none

def readValues : ℕ → List UInt8 → Option (List JsonValue × List UInt8)
  | _ + 1, 93 :: rest => some ([], rest)
  | fuel + 1, 44 :: rest =>
    (readValue fuel rest).bind fun first =>
      (readValues fuel first.2).map fun read => (first.1 :: read.1, read.2)
  | _, _ => none

def readMember : ℕ → List UInt8 → Option ((List UInt8 × JsonValue) × List UInt8)
  | fuel + 1, 34 :: rest =>
    (readText rest).bind fun key =>
      match key.2 with
      | 58 :: rest => (readValue fuel rest).map fun value => ((key.1, value.1), value.2)
      | _ => none
  | _, _ => none

def readMembers : ℕ → List UInt8 → Option (List (List UInt8 × JsonValue) × List UInt8)
  | _ + 1, 125 :: rest => some ([], rest)
  | fuel + 1, 44 :: rest =>
    (readMember fuel rest).bind fun first =>
      (readMembers fuel first.2).map fun read => (first.1 :: read.1, read.2)
  | _, _ => none

end

def write (value : JsonValue) : List UInt8 :=
  writeValue value ++ [10]

/-- White space behind the value is skipped. -/
def parse (text : List UInt8) : Option JsonValue :=
  (readValue text.length text).bind fun read =>
    if read.2.all (fun byte => byte = 32 ∨ byte = 9 ∨ byte = 10 ∨ byte = 13) then some read.1 else none

/-! ### The round trip -/

/-- No value begins with a closing bracket. -/
theorem writeValue_head (value : JsonValue) :
    ∃ byte rest, writeValue value = byte :: rest ∧ byte ≠ 93 := by
  cases value with
  | null => exact ⟨110, _, rfl, by decide⟩
  | string text => exact ⟨34, _, rfl, by decide⟩
  | array values =>
    cases values with
    | nil => exact ⟨91, _, by rw [writeValue], by decide⟩
    | cons value values => exact ⟨91, _, by rw [writeValue, List.cons_append], by decide⟩
  | object members =>
    cases members with
    | nil => exact ⟨123, _, by rw [writeValue], by decide⟩
    | cons member members =>
      obtain ⟨key, value⟩ := member
      exact ⟨123, _, by rw [writeValue, List.cons_append, List.cons_append], by decide⟩

/-- An array whose first value is read. -/
theorem readValue_array {fuel : ℕ} {first : JsonValue} {values : List JsonValue}
    {text rest : List UInt8}
    (hfirst : readValue fuel (writeValue first ++ text) = some (first, text))
    (hvalues : readValues fuel text = some (values, rest)) :
    readValue (fuel + 1) (91 :: (writeValue first ++ text)) = some (.array (first :: values), rest) := by
  obtain ⟨byte, text', hhead, hbyte⟩ := writeValue_head first
  have hread : readValue (fuel + 1) (91 :: (writeValue first ++ text)) =
      (readValue fuel (writeValue first ++ text)).bind fun first =>
        (readValues fuel first.2).map fun read => (.array (first.1 :: read.1), read.2) := by
    rw [hhead, List.cons_append, readValue]
    intro _ h
    exact hbyte (List.cons.inj h).1
  rw [hread, hfirst, Option.bind_some, hvalues, Option.map_some]

/-- A member whose value is read. -/
theorem readMember_writeText {fuel : ℕ} (key : List UInt8) {value : JsonValue} {rest : List UInt8}
    (hvalue : readValue fuel (writeValue value ++ rest) = some (value, rest)) :
    readMember (fuel + 1) (writeText key ++ 58 :: (writeValue value ++ rest)) =
      some ((key, value), rest) := by
  show readMember (fuel + 1) (34 :: (key.flatMap writeByte ++ [34]) ++ 58 :: (writeValue value ++ rest)) = _
  rw [List.cons_append, List.append_assoc, List.singleton_append, readMember, readText_writeText,
    Option.bind_some]
  simp only [hvalue, Option.map_some]

/-- An object whose first member is read. -/
theorem readValue_object {fuel : ℕ} {first : List UInt8 × JsonValue}
    {members : List (List UInt8 × JsonValue)} {key text behind rest : List UInt8}
    (hfirst : readMember fuel (writeText key ++ text) = some (first, behind))
    (hmembers : readMembers fuel behind = some (members, rest)) :
    readValue (fuel + 1) (123 :: (writeText key ++ text)) = some (.object (first :: members), rest) := by
  have hread : readValue (fuel + 1) (123 :: (writeText key ++ text)) =
      (readMember fuel (writeText key ++ text)).bind fun first =>
        (readMembers fuel first.2).map fun read => (.object (first.1 :: read.1), read.2) := by
    unfold writeText
    rw [List.cons_append, List.cons_append, readValue]
    intro _ h
    exact absurd (List.cons.inj h).1 (by decide)
  rw [hread, hfirst, Option.bind_some, hmembers, Option.map_some]

mutual

/-- **Round trip of a value**, with as much fuel as it has bytes. -/
theorem readValue_writeValue : ∀ (value : JsonValue) (fuel : ℕ) (rest : List UInt8),
    (writeValue value).length ≤ fuel → readValue fuel (writeValue value ++ rest) = some (value, rest)
  | value, 0, rest, hfuel => by
    obtain ⟨byte, text, hhead, -⟩ := writeValue_head value
    rw [hhead] at hfuel
    exact absurd hfuel (Nat.not_succ_le_zero _)
  | .null, fuel + 1, rest, _ => rfl
  | .string text, fuel + 1, rest, _ => by
    rw [writeValue]
    show readValue (fuel + 1) (34 :: (text.flatMap writeByte ++ [34]) ++ rest) = _
    rw [List.cons_append, List.append_assoc, List.singleton_append, readValue, readText_writeText,
      Option.map_some]
  | .array [], fuel + 1, rest, _ => by
    rw [writeValue]
    rfl
  | .array (value :: values), fuel + 1, rest, hfuel => by
    rw [writeValue, List.length_append, List.length_cons] at hfuel
    have hfirst := readValue_writeValue value fuel (writeValues values ++ rest) (by omega)
    have hvalues := readValues_writeValues values fuel rest (by omega)
    rw [writeValue, List.cons_append, List.cons_append, List.append_assoc]
    exact readValue_array hfirst hvalues
  | .object [], fuel + 1, rest, _ => by
    rw [writeValue]
    rfl
  | .object ((key, value) :: members), fuel + 1, rest, hfuel => by
    simp only [writeValue, List.length_append, List.length_cons] at hfuel
    obtain ⟨fuel, rfl⟩ : ∃ g, fuel = g + 1 := ⟨fuel - 1, by omega⟩
    have hvalue := readValue_writeValue value fuel (writeMembers members ++ rest) (by omega)
    have hmembers := readMembers_writeMembers members (fuel + 1) rest (by omega)
    have hmember := readMember_writeText key hvalue
    have htext : writeValue (.object ((key, value) :: members)) ++ rest =
        123 :: (writeText key ++ 58 :: (writeValue value ++ (writeMembers members ++ rest))) := by
      simp only [writeValue, List.cons_append, List.append_assoc]
    rw [htext]
    exact readValue_object hmember hmembers

theorem readValues_writeValues : ∀ (values : List JsonValue) (fuel : ℕ) (rest : List UInt8),
    (writeValues values).length ≤ fuel →
      readValues fuel (writeValues values ++ rest) = some (values, rest)
  | [], 0, rest, hfuel => absurd hfuel (by decide)
  | value :: values, 0, rest, hfuel => by
    rw [writeValues] at hfuel
    exact absurd hfuel (Nat.not_succ_le_zero _)
  | [], fuel + 1, rest, _ => rfl
  | value :: values, fuel + 1, rest, hfuel => by
    rw [writeValues, List.length_append, List.length_cons] at hfuel
    have hfirst := readValue_writeValue value fuel (writeValues values ++ rest) (by omega)
    have hvalues := readValues_writeValues values fuel rest (by omega)
    rw [writeValues, List.cons_append, List.cons_append, List.append_assoc, readValues, hfirst,
      Option.bind_some, hvalues, Option.map_some]

theorem readMembers_writeMembers : ∀ (members : List (List UInt8 × JsonValue)) (fuel : ℕ)
    (rest : List UInt8), (writeMembers members).length ≤ fuel →
      readMembers fuel (writeMembers members ++ rest) = some (members, rest)
  | [], 0, rest, hfuel => absurd hfuel (by decide)
  | (key, value) :: members, 0, rest, hfuel => by
    rw [writeMembers] at hfuel
    exact absurd hfuel (Nat.not_succ_le_zero _)
  | [], fuel + 1, rest, _ => rfl
  | (key, value) :: members, fuel + 1, rest, hfuel => by
    simp only [writeMembers, List.length_append, List.length_cons] at hfuel
    obtain ⟨fuel, rfl⟩ : ∃ g, fuel = g + 1 := ⟨fuel - 1, by omega⟩
    have hvalue := readValue_writeValue value fuel (writeMembers members ++ rest) (by omega)
    have hmembers := readMembers_writeMembers members (fuel + 1) rest (by omega)
    have htext : writeMembers ((key, value) :: members) ++ rest =
        44 :: (writeText key ++ 58 :: (writeValue value ++ (writeMembers members ++ rest))) := by
      simp only [writeMembers, List.cons_append, List.append_assoc]
    rw [htext, readMembers, readMember_writeText key hvalue, Option.bind_some, hmembers, Option.map_some]

end

/-- **Round trip of a text with a value.** -/
theorem parse_write (value : JsonValue) : parse (write value) = some value := by
  have hread := readValue_writeValue value (writeValue value ++ [10]).length [10]
    (by rw [List.length_append]; exact Nat.le_add_right _ _)
  rw [parse, write, hread, Option.bind_some]
  exact if_pos rfl

end Json

end DistributedNetwork.Library
