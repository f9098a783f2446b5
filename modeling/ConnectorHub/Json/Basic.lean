import ConnectorHub.Number.Binary64

/-! JSON values. Whole numbers and numbers with a fraction or an exponent are kept apart, and an
object keeps its members in the order in which their names first appeared. -/
namespace ConnectorHub

inductive Json
  | null
  | bool (b : Bool)
  | integer (n : Int)
  | real (x : Number.Binary64)
  | text (s : String)
  | array (items : List Json)
  | object (members : List (String × Json))
  deriving Repr, Inhabited

namespace Json

/-- Gives the member `key` a value: in its old place, or at the end. -/
def putMember (key : String) (value : Json) : List (String × Json) → List (String × Json)
  | [] => [(key, value)]
  | (k, v) :: r => if k = key then (key, value) :: r else (k, v) :: putMember key value r

/-- The value of the member `key` of a list of members. -/
def member? (key : String) (members : List (String × Json)) : Option Json :=
  (members.find? (·.1 = key)).map (·.2)

/-- The value of the member `key` of an object. -/
def get? (key : String) : Json → Option Json
  | .object members => member? key members
  | _ => none

/-- A text, or `null` where there is none. -/
def ofText? : Option String → Json
  | some s => .text s
  | none => .null

mutual

/-- Every number in the value is finite, so that the standard grammar can write it. -/
def isFinite : Json → Bool
  | .real (.finite ..) => true
  | .real _ => false
  | .array items => areFinite items
  | .object members => membersAreFinite members
  | _ => true

def areFinite : List Json → Bool
  | [] => true
  | v :: r => isFinite v && areFinite r

def membersAreFinite : List (String × Json) → Bool
  | [] => true
  | (_, v) :: r => isFinite v && membersAreFinite r

end

mutual

/-- The values are the same, with their members in the same order. -/
def same : Json → Json → Bool
  | .null, .null => true
  | .bool a, .bool b => a == b
  | .integer a, .integer b => a == b
  | .real a, .real b => a == b
  | .text a, .text b => a == b
  | .array as, .array bs => sameItems as bs
  | .object as, .object bs => sameMembers as bs
  | _, _ => false

def sameItems : List Json → List Json → Bool
  | [], [] => true
  | a :: as, b :: bs => same a b && sameItems as bs
  | _, _ => false

def sameMembers : List (String × Json) → List (String × Json) → Bool
  | [], [] => true
  | (k, a) :: as, (l, b) :: bs => k == l && same a b && sameMembers as bs
  | _, _ => false

end

instance : BEq Json := ⟨same⟩

theorem member?_putMember_self (key : String) (value : Json) (ms : List (String × Json)) :
    member? key (putMember key value ms) = some value := by
  induction ms with
  | nil => simp [putMember, member?]
  | cons m r ih =>
    obtain ⟨k, v⟩ := m
    by_cases h : k = key
    · simp [putMember, member?, h]
    · simpa [putMember, member?, h, List.find?_cons] using ih

end Json

end ConnectorHub
