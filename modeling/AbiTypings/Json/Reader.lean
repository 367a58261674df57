import AbiTypings.Json.Number

/-!
# Reading JSON

The reader takes one character at a time. Its state is what it is in the middle of (`Mode`) and the
containers around that which wait for a value (`Frame`), innermost first. A document is a value with
blanks around it; at most `depthLimit` containers may be open at a time.

A number ends at the first character that no number contains, so that the character is looked at
again in the mode after the value.
-/

namespace AbiTypings.Json

/-- The number of containers that may be nested in one another. -/
def depthLimit : Nat := 127

/-- A container that waits for the value of its next element. -/
inductive Frame where
  /-- A list, with its elements so far, last first. -/
  | list (items : List Json)
  /-- An object, with its members so far and the key of the next one. -/
  | object (members : List (String × Json)) (key : String)

/-- Where the reader is inside a string. -/
inductive Escape where
  | plain
  /-- After a backslash. -/
  | backslash
  /-- Inside a code unit: digits to come, value so far, and the high surrogate before it. -/
  | hex (left : Nat) (unit : Nat) (high : Option Nat)
  /-- After a high surrogate, before the backslash of the low one. -/
  | low (high : Nat)
  /-- After that backslash. -/
  | lowUnit (high : Nat)

/-- What the reader is in the middle of. -/
inductive Mode where
  /-- Before a value. -/
  | value
  /-- After the opening bracket of a list. -/
  | listStart
  /-- After an element of a list. -/
  | afterItem (items : List Json)
  /-- After the opening brace of an object. -/
  | objectStart
  /-- After a comma in an object. -/
  | key (members : List (String × Json))
  /-- After a key. -/
  | colon (members : List (String × Json)) (key : String)
  /-- After a member of an object. -/
  | afterMember (members : List (String × Json))
  /-- In a string, which is a key when the members before it are given. -/
  | text (keyOf : Option (List (String × Json))) (chars : List Char) (escape : Escape)
  /-- In a number. -/
  | number (chars : List Char)
  /-- In one of the three words, with the letters to come. -/
  | word (rest : List Char) (value : Json)
  /-- After the document's value. -/
  | done (value : Json)

/-- A state of the reader. -/
structure Reader where
  mode : Mode
  frames : List Frame

namespace Reader

/-! ## Values -/

/-- Hand a finished value to the container that waits for it. -/
def deliver (value : Json) : List Frame → Reader
  | [] => ⟨.done value, []⟩
  | .list items :: frames => ⟨.afterItem (value :: items), frames⟩
  | .object members key :: frames => ⟨.afterMember (insert key value members), frames⟩

/-- The four blanks of the format. -/
def isSpace (c : Char) : Bool :=
  c == ' ' || c == '\t' || c == '\n' || c == '\r'

/-- The characters that numbers are made of. -/
def isNumberChar (c : Char) : Bool :=
  c.isDigit || c == '-' || c == '+' || c == '.' || c == 'e' || c == 'E'

/-- Open a container unless too many are open. -/
def enter (mode : Mode) (frames : List Frame) : Option Reader :=
  if frames.length < depthLimit then some ⟨mode, frames⟩ else none

/-- The first character of a value. -/
def startValue (frames : List Frame) (c : Char) : Option Reader :=
  match c with
  | '"' => some ⟨.text none [] .plain, frames⟩
  | '[' => enter .listStart frames
  | '\x7b' => enter .objectStart frames
  | 't' => some ⟨.word ['r', 'u', 'e'] (.bool true), frames⟩
  | 'f' => some ⟨.word ['a', 'l', 's', 'e'] (.bool false), frames⟩
  | 'n' => some ⟨.word ['u', 'l', 'l'] .null, frames⟩
  | c => if c == '-' || c.isDigit then some ⟨.number [c], frames⟩ else none

/-! ## Strings -/

/-- The value of a hexadecimal digit. -/
def hexValue (c : Char) : Option Nat :=
  if c.isDigit then some (c.toNat - '0'.toNat)
  else if 'a' ≤ c ∧ c ≤ 'f' then some (c.toNat - 'a'.toNat + 10)
  else if 'A' ≤ c ∧ c ≤ 'F' then some (c.toNat - 'A'.toNat + 10)
  else none

/-- The character that a backslash and a letter stand for. -/
def shortEscape (c : Char) : Option Char :=
  match c with
  | '"' => some '"'
  | '\\' => some '\\'
  | '/' => some '/'
  | 'b' => some '\x08'
  | 'f' => some '\x0c'
  | 'n' => some '\n'
  | 'r' => some '\r'
  | 't' => some '\t'
  | _ => none

/-- Whether a code unit is the first of a pair. -/
def isHighSurrogate (unit : Nat) : Bool := 0xD800 ≤ unit && unit < 0xDC00

/-- Whether a code unit is the second of a pair. -/
def isLowSurrogate (unit : Nat) : Bool := 0xDC00 ≤ unit && unit < 0xE000

/-- Take a finished code unit into a string. Surrogates must come in pairs. -/
def takeUnit (chars : List Char) (unit : Nat) : Option Nat → Option (List Char × Escape)
  | none =>
    if isHighSurrogate unit then some (chars, .low unit)
    else if isLowSurrogate unit then none
    else some (Char.ofNat unit :: chars, .plain)
  | some high =>
    if isLowSurrogate unit then
      some (Char.ofNat (0x10000 + (high - 0xD800) * 0x400 + (unit - 0xDC00)) :: chars, .plain)
    else none

/-- The next character inside a string, other than the quote that ends it. -/
def stepText (chars : List Char) (escape : Escape) (c : Char) : Option (List Char × Escape) :=
  match escape with
  | .plain =>
    if c = '\\' then some (chars, .backslash)
    else if c.toNat < 0x20 then none
    else some (c :: chars, .plain)
  | .backslash =>
    if c = 'u' then some (chars, .hex 4 0 none)
    else (shortEscape c).map fun d => (d :: chars, .plain)
  | .hex left unit high =>
    (hexValue c).bind fun digit =>
      let unit := 16 * unit + digit
      if left = 1 then takeUnit chars unit high else some (chars, .hex (left - 1) unit high)
  | .low high => if c = '\\' then some (chars, .lowUnit high) else none
  | .lowUnit high => if c = 'u' then some (chars, .hex 4 0 (some high)) else none

/-- A finished string. -/
def endText (frames : List Frame) (keyOf : Option (List (String × Json))) (chars : List Char) :
    Reader :=
  let s := String.ofList chars.reverse
  match keyOf with
  | some members => ⟨.colon members s, frames⟩
  | none => deliver (.str s) frames

/-! ## One character -/

/-- One character in a mode other than a number. -/
def stepPlain (mode : Mode) (frames : List Frame) (c : Char) : Option Reader :=
  match mode with
  | .text keyOf chars .plain =>
    if c = '"' then some (endText frames keyOf chars)
    else (stepText chars .plain c).map fun (chars, escape) => ⟨.text keyOf chars escape, frames⟩
  | .text keyOf chars escape =>
    (stepText chars escape c).map fun (chars, escape) => ⟨.text keyOf chars escape, frames⟩
  | .word [] _ => none
  | .word [d] value => if c = d then some (deliver value frames) else none
  | .word (d :: rest) value => if c = d then some ⟨.word rest value, frames⟩ else none
  | .number _ => none
  | mode =>
    if isSpace c then some ⟨mode, frames⟩
    else
      match mode with
      | .value => startValue frames c
      | .listStart =>
        if c = ']' then some (deliver (.arr []) frames) else startValue (.list [] :: frames) c
      | .afterItem items =>
        if c = ',' then some ⟨.value, .list items :: frames⟩
        else if c = ']' then some (deliver (.arr items.reverse) frames)
        else none
      | .objectStart =>
        if c = '\x7d' then some (deliver (.obj []) frames)
        else if c = '"' then some ⟨.text (some []) [] .plain, frames⟩
        else none
      | .key members =>
        if c = '"' then some ⟨.text (some members) [] .plain, frames⟩ else none
      | .colon members key =>
        if c = ':' then some ⟨.value, .object members key :: frames⟩ else none
      | .afterMember members =>
        if c = ',' then some ⟨.key members, frames⟩
        else if c = '\x7d' then some (deliver (.obj members) frames)
        else none
      | _ => none

/-- End a number that is being read. -/
def endNumber (reader : Reader) : Option Reader :=
  match reader.mode with
  | .number chars => (readNumber chars.reverse).map (deliver · reader.frames)
  | _ => some reader

/-- One character. -/
def step (reader : Reader) (c : Char) : Option Reader :=
  match reader.mode with
  | .number chars =>
    if isNumberChar c then some ⟨.number (c :: chars), reader.frames⟩
    else (endNumber reader).bind fun after => stepPlain after.mode after.frames c
  | mode => stepPlain mode reader.frames c

/-- The value at the end of the text. -/
def finish (reader : Reader) : Option Json :=
  (endNumber reader).bind fun after =>
    match after.mode with
    | .done value => some value
    | _ => none

end Reader

/-- Read the characters of a JSON document. -/
def readChars (cs : List Char) : Option Json :=
  (cs.foldlM Reader.step ⟨.value, []⟩).bind Reader.finish

/-- Read a JSON document. -/
def read (s : String) : Option Json :=
  readChars s.toList

end AbiTypings.Json
