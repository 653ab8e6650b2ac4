import RecordSql.Number.Binary

/-!
# JSON values

* `Json`: a value; the members of an object are kept in the order of their names.
* `Json.insert`: a member put in its place, or in that of a member of the same name.
* `Json.equals`: comparison as numbers, under which the float zeros are equal and an integer is no
  float.
* `DecidableEq Json`: identity, which tells the zeros apart.
-/

namespace RecordSql

open Number

inductive Json where
  | null
  | bool (b : Bool)
  | int (i : Int)
  | float (x : Binary.Finite .double)
  | text (s : String)
  | array (js : List Json)
  | object (ms : List (String × Json))

namespace Json

/-- The members with `v` under the name `k`. -/
def insert (k : String) (v : Json) : List (String × Json) → List (String × Json)
  | [] => [(k, v)]
  | (l, w) :: ms =>
    if k < l then (k, v) :: (l, w) :: ms
    else if k = l then (k, v) :: ms
    else (l, w) :: insert k v ms

/-- The member of an object under the name `k`. -/
def member? (k : String) : Json → Option Json
  | .object ms => ms.lookup k
  | _ => none

mutual

/-- Comparison, given the one for floats. -/
def matchBy (eq : Binary.Finite .double → Binary.Finite .double → Bool) : Json → Json → Bool
  | .null, .null => true
  | .bool a, .bool b => a == b
  | .int a, .int b => a == b
  | .float a, .float b => eq a b
  | .text a, .text b => a == b
  | .array a, .array b => matchAll eq a b
  | .object a, .object b => matchMembers eq a b
  | _, _ => false

def matchAll (eq : Binary.Finite .double → Binary.Finite .double → Bool) :
    List Json → List Json → Bool
  | [], [] => true
  | a :: as, b :: bs => matchBy eq a b && matchAll eq as bs
  | _, _ => false

def matchMembers (eq : Binary.Finite .double → Binary.Finite .double → Bool) :
    List (String × Json) → List (String × Json) → Bool
  | [], [] => true
  | (k, a) :: as, (l, b) :: bs => k == l && matchBy eq a b && matchMembers eq as bs
  | _, _ => false

end

/-- Comparison of values, with floats compared as numbers. -/
def equals : Json → Json → Bool := matchBy Binary.Finite.equals

mutual

theorem matchBy_eq_iff : ∀ a b : Json, matchBy (· == ·) a b = true ↔ a = b
  | .null, b => by cases b <;> simp [matchBy]
  | .bool _, b => by cases b <;> simp [matchBy]
  | .int _, b => by cases b <;> simp [matchBy]
  | .float _, b => by cases b <;> simp [matchBy]
  | .text _, b => by cases b <;> simp [matchBy]
  | .array as, b => by
    cases b with
    | array bs => simpa [matchBy] using matchAll_eq_iff as bs
    | _ => simp [matchBy]
  | .object as, b => by
    cases b with
    | object bs => simpa [matchBy] using matchMembers_eq_iff as bs
    | _ => simp [matchBy]

theorem matchAll_eq_iff : ∀ as bs : List Json, matchAll (· == ·) as bs = true ↔ as = bs
  | [], bs => by cases bs <;> simp [matchAll]
  | a :: as, bs => by
    cases bs with
    | nil => simp [matchAll]
    | cons b bs => simp [matchAll, matchBy_eq_iff a b, matchAll_eq_iff as bs]

theorem matchMembers_eq_iff : ∀ as bs : List (String × Json),
    matchMembers (· == ·) as bs = true ↔ as = bs
  | [], bs => by cases bs <;> simp [matchMembers]
  | (k, a) :: as, bs => by
    cases bs with
    | nil => simp [matchMembers]
    | cons b bs =>
      obtain ⟨l, b⟩ := b
      simp [matchMembers, matchBy_eq_iff a b, matchMembers_eq_iff as bs, and_assoc]

end

instance : DecidableEq Json := fun a b => decidable_of_iff _ (matchBy_eq_iff a b)

end Json

end RecordSql
