import RecordSql.Json.Number

/-!
# Reading JSON

A text is first cut into tokens, which are then put together by a machine with a stack of the
containers still open, at most `maxDepth` of them.

* `tokens?`: the tokens of a text.
* `Reader.step`: what one token does to the machine.
* `parse?`: the value of a text.
-/

namespace RecordSql.Json

inductive Token where
  | openArray
  | closeArray
  | openObject
  | closeObject
  | comma
  | colon
  | text (s : String)
  | scalar (j : Json)

/-- Four hexadecimal digits at the start of `s`. -/
def readHex4? : List Char → Option (Nat × List Char)
  | a :: b :: c :: d :: r =>
    let value (c : Char) : Option Nat :=
      if '0' ≤ c ∧ c ≤ '9' then some (c.toNat - 48)
      else if 'a' ≤ c ∧ c ≤ 'f' then some (c.toNat - 87)
      else if 'A' ≤ c ∧ c ≤ 'F' then some (c.toNat - 55)
      else none
    match value a, value b, value c, value d with
    | some a, some b, some c, some d => some (a * 4096 + b * 256 + c * 16 + d, r)
    | _, _, _, _ => none
  | _ => none

/-- The character of a `\u` escape whose digits start `s`. A surrogate needs its other half. -/
def readUnicode? (s : List Char) : Option (Char × List Char) :=
  match readHex4? s with
  | none => none
  | some (n, r) =>
    if 0xDC00 ≤ n ∧ n ≤ 0xDFFF then none
    else if 0xD800 ≤ n ∧ n ≤ 0xDBFF then
      match r with
      | '\\' :: 'u' :: r => match readHex4? r with
        | some (m, r) =>
          if 0xDC00 ≤ m ∧ m ≤ 0xDFFF then
            some (Char.ofNat (0x10000 + (n - 0xD800) * 1024 + (m - 0xDC00)), r)
          else none
        | none => none
      | _ => none
    else some (Char.ofNat n, r)

/-- The characters named by one letter after a backslash. -/
def simpleEscape? (c : Char) : Option Char :=
  [('"', '"'), ('\\', '\\'), ('/', '/'), ('b', '\x08'), ('f', '\x0c'), ('n', '\n'), ('r', '\r'),
    ('t', '\t')].lookup c

/-- The characters up to the closing quote, and what follows it, in a text of fewer than `fuel`
characters. -/
def readText? : Nat → List Char → Option (List Char × List Char)
  | 0, _ => none
  | fuel + 1, s => match s with
    | [] => none
    | '"' :: r => some ([], r)
    | '\\' :: 'u' :: r =>
      (readUnicode? r).bind fun (c, r) => (readText? fuel r).map fun (cs, r) => (c :: cs, r)
    | '\\' :: c :: r =>
      (simpleEscape? c).bind fun c => (readText? fuel r).map fun (cs, r) => (c :: cs, r)
    | c :: r =>
      if c < ' ' then none else (readText? fuel r).map fun (cs, r) => (c :: cs, r)

/-- A word that stands for a value, at the start of `s`. -/
def readWord? (s : List Char) : Option (Json × List Char) :=
  match s with
  | 'n' :: 'u' :: 'l' :: 'l' :: r => some (.null, r)
  | 't' :: 'r' :: 'u' :: 'e' :: r => some (.bool true, r)
  | 'f' :: 'a' :: 'l' :: 's' :: 'e' :: r => some (.bool false, r)
  | _ => none

/-- The token at the start of `s`, which starts with no blank and has fewer than `fuel`
characters. -/
def readToken? (fuel : Nat) (s : List Char) : Option (Token × List Char) :=
  match s with
  | '[' :: r => some (.openArray, r)
  | ']' :: r => some (.closeArray, r)
  | '\x7b' :: r => some (.openObject, r)
  | '\x7d' :: r => some (.closeObject, r)
  | ',' :: r => some (.comma, r)
  | ':' :: r => some (.colon, r)
  | '"' :: r => (readText? fuel r).map fun (cs, r) => (.text (String.ofList cs), r)
  | _ => ((readWord? s).or (readNumber? s)).map fun (j, r) => (.scalar j, r)

def isBlank (c : Char) : Bool := c == ' ' || c == '\n' || c == '\t' || c == '\r'

/-- The tokens of a text of fewer than `fuel` characters; each takes one or more. -/
def tokensWithin? : Nat → List Char → Option (List Token)
  | 0, _ => none
  | fuel + 1, s => match s.dropWhile isBlank with
    | [] => some []
    | s => (readToken? (fuel + 1) s).bind fun (t, r) => (tokensWithin? fuel r).map (t :: ·)

def tokens? (s : String) : Option (List Token) :=
  tokensWithin? (s.toList.length + 1) s.toList

/-- A container that is still open: the elements so far, last first, or the members so far and the
name of the one being read. -/
inductive Frame where
  | array (before : List Json)
  | object (before : List (String × Json)) (name : String)

/-- What the machine waits for. -/
inductive Awaiting where
  /-- A value. -/
  | value
  /-- The first element of an array, or its end. -/
  | firstElement
  /-- The name of a member. -/
  | name
  /-- The name of the first member of an object, or its end. -/
  | firstName
  /-- The colon after a name. -/
  | colon
  /-- What follows a whole value: a comma, the end of a container or the end of the text. -/
  | rest (j : Json)

structure Reader where
  stack : List Frame
  awaiting : Awaiting

/-- How many containers may be open at once. -/
def maxDepth : Nat := 127

namespace Reader

def opened (r : Reader) (f : Frame) (a : Awaiting) : Option Reader :=
  if r.stack.length < maxDepth then some ⟨f :: r.stack, a⟩ else none

/-- A token where a value may begin. -/
def begin? (r : Reader) : Token → Option Reader
  | .openArray => r.opened (.array []) .firstElement
  | .openObject => r.opened (.object [] "") .firstName
  | .text s => some ⟨r.stack, .rest (.text s)⟩
  | .scalar j => some ⟨r.stack, .rest j⟩
  | _ => none

/-- The name of a member of the innermost object. -/
def named? (r : Reader) : Token → Option Reader
  | .text s => match r.stack with
    | .object before _ :: up => some ⟨.object before s :: up, .colon⟩
    | _ => none
  | _ => none

/-- The machine after one more token. -/
def step (r : Reader) (t : Token) : Option Reader :=
  match r.awaiting, r.stack, t with
  | .value, _, t => r.begin? t
  | .firstElement, .array _ :: up, .closeArray => some ⟨up, .rest (.array [])⟩
  | .firstElement, _, t => r.begin? t
  | .firstName, .object _ _ :: up, .closeObject => some ⟨up, .rest (.object [])⟩
  | .firstName, _, t => r.named? t
  | .name, _, t => r.named? t
  | .colon, _, .colon => some ⟨r.stack, .value⟩
  | .rest j, .array before :: up, .comma => some ⟨.array (j :: before) :: up, .value⟩
  | .rest j, .array before :: up, .closeArray => some ⟨up, .rest (.array (j :: before).reverse)⟩
  | .rest j, .object before k :: up, .comma => some ⟨.object (insert k j before) k :: up, .name⟩
  | .rest j, .object before k :: up, .closeObject =>
    some ⟨up, .rest (.object (insert k j before))⟩
  | _, _, _ => none

end Reader

/-- The value that `s` writes. Of members with one name the last one counts. -/
def parse? (s : String) : Option Json :=
  match (tokens? s).bind (·.foldlM Reader.step ⟨[], .value⟩) with
  | some ⟨[], .rest j⟩ => some j
  | _ => none

end RecordSql.Json
