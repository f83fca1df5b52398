import ChipEight.Number.Basic

/-!
# JSON values

Values of the JSON data format, with integers and doubles kept apart and the members of an object
in the order in which their names first appeared. `truthy` says which values count as switched on,
`same` which values are equal although they may be written differently.
-/

namespace ChipEight

/-- A JSON value. -/
inductive Json where
  | null
  | bool (b : Bool)
  | num (n : Number)
  | str (s : String)
  | arr (items : List Json)
  | obj (members : List (String × Json))
  deriving Repr, Inhabited

namespace Json

/-- An integer value. -/
def int (n : Int) : Json := .num (.int n)

/-- Zero, the empty text, empty containers, `null` and `false` count as off, all else as on. -/
def truthy : Json → Bool
  | null => false
  | bool b => b
  | num n => !n.isZero
  | str s => s != ""
  | arr items => !items.isEmpty
  | obj members => !members.isEmpty

/-- The number that a value stands for: `true` counts as 1 and `false` as 0. -/
def number? : Json → Option Number
  | num n => some n
  | bool b => some (.int b.toNat)
  | _ => none

/-- The value of a member. -/
def lookup? (members : List (String × Json)) (name : String) : Option Json :=
  (members.find? (·.1 == name)).map (·.2)

/-- Sets a member: a name that is there keeps its place and takes the new value. -/
def insert (members : List (String × Json)) (name : String) (value : Json) :
    List (String × Json) :=
  match members with
  | [] => [(name, value)]
  | (n, v) :: rest =>
    if n == name then (n, value) :: rest else (n, v) :: insert rest name value

mutual

/-- Equality by value: numbers by their value, `true` and `false` as 1 and 0, lists item by item,
objects member by member in any order. -/
def same : Json → Json → Bool
  | null, null => true
  | str s, str t => s == t
  | arr xs, arr ys => sameItems xs ys
  | obj ms, obj ns => ms.length == ns.length && sameMembers ms ns
  | num a, b => (b.number?.map a.same).getD false
  | bool a, b => (b.number?.map (Number.int a.toNat).same).getD false
  | _, _ => false

/-- Equality of lists, item by item. -/
def sameItems : List Json → List Json → Bool
  | [], [] => true
  | x :: xs, y :: ys => same x y && sameItems xs ys
  | _, _ => false

/-- Is every member in the second list, with the same value? -/
def sameMembers : List (String × Json) → List (String × Json) → Bool
  | [], _ => true
  | (name, x) :: ms, ns =>
    (match lookup? ns name with
      | some y => same x y
      | none => false) && sameMembers ms ns

end

end Json

end ChipEight
