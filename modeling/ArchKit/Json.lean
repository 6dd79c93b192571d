/-! JSON documents as `serde_json::Value` holds them: an object is a map ordered by
member name. -/

namespace ArchKit

/-- A number is an integer or a finite double, identified by its bits. -/
inductive Number where
  | int (value : Int)
  | float (bits : UInt64)
  deriving DecidableEq, Repr

inductive Json where
  | null
  | bool (value : Bool)
  | number (value : Number)
  | string (value : String)
  | array (items : List Json)
  | object (members : List (String × Json))

namespace Json

mutual
def decEq : (first second : Json) → Decidable (first = second)
  | .null, .null => isTrue rfl
  | .bool a, .bool b => if h : a = b then isTrue (h ▸ rfl) else isFalse (fun same => h (Json.bool.inj same))
  | .number a, .number b => if h : a = b then isTrue (h ▸ rfl) else isFalse (fun same => h (Json.number.inj same))
  | .string a, .string b => if h : a = b then isTrue (h ▸ rfl) else isFalse (fun same => h (Json.string.inj same))
  | .array a, .array b => match decEqItems a b with
    | isTrue h => isTrue (h ▸ rfl)
    | isFalse h => isFalse (fun same => h (Json.array.inj same))
  | .object a, .object b => match decEqMembers a b with
    | isTrue h => isTrue (h ▸ rfl)
    | isFalse h => isFalse (fun same => h (Json.object.inj same))
  | .null, .bool _ | .null, .number _ | .null, .string _ | .null, .array _ | .null, .object _
  | .bool _, .null | .bool _, .number _ | .bool _, .string _ | .bool _, .array _ | .bool _, .object _
  | .number _, .null | .number _, .bool _ | .number _, .string _ | .number _, .array _ | .number _, .object _
  | .string _, .null | .string _, .bool _ | .string _, .number _ | .string _, .array _ | .string _, .object _
  | .array _, .null | .array _, .bool _ | .array _, .number _ | .array _, .string _ | .array _, .object _
  | .object _, .null | .object _, .bool _ | .object _, .number _ | .object _, .string _ | .object _, .array _ =>
    isFalse (fun same => by cases same)
termination_by structural first => first

def decEqItems : (first second : List Json) → Decidable (first = second)
  | [], [] => isTrue rfl
  | [], _ :: _ | _ :: _, [] => isFalse (fun same => by cases same)
  | a :: as, b :: bs => match decEq a b, decEqItems as bs with
    | isTrue one, isTrue rest => isTrue (by rw [one, rest])
    | isFalse one, _ => isFalse (fun same => one (List.cons.inj same).1)
    | _, isFalse rest => isFalse (fun same => rest (List.cons.inj same).2)
termination_by structural first => first

def decEqMembers : (first second : List (String × Json)) → Decidable (first = second)
  | [], [] => isTrue rfl
  | [], _ :: _ | _ :: _, [] => isFalse (fun same => by cases same)
  | a :: as, b :: bs => match decEqMember a b, decEqMembers as bs with
    | isTrue one, isTrue rest => isTrue (by rw [one, rest])
    | isFalse one, _ => isFalse (fun same => one (List.cons.inj same).1)
    | _, isFalse rest => isFalse (fun same => rest (List.cons.inj same).2)
termination_by structural first => first

def decEqMember : (first second : String × Json) → Decidable (first = second)
  | (n, a), (m, b) => match decEq a b with
    | isTrue one => if h : n = m then isTrue (by rw [h, one]) else isFalse (fun same => h (Prod.mk.inj same).1)
    | isFalse one => isFalse (fun same => one (Prod.mk.inj same).2)
termination_by structural first => first
end

instance : DecidableEq Json := decEq

/-- `value["name"]`: absent members and non-objects read as `null`. -/
def get (value : Json) (name : String) : Json :=
  match value with
  | .object members => (members.lookup name).getD .null
  | _ => .null

def asStr : Json → Option String
  | .string value => some value
  | _ => none

def asObject : Json → Option (List (String × Json))
  | .object members => some members
  | _ => none

/-- `Map::insert`, keeping the members ordered by name. -/
def insert (name : String) (value : Json) : List (String × Json) → List (String × Json)
  | [] => [(name, value)]
  | (other, old) :: members =>
    if name = other then (name, value) :: members
    else if name < other then (name, value) :: (other, old) :: members
    else (other, old) :: insert name value members

end Json
end ArchKit
