import RegistryProbe.Json.Number

/-! # JSON documents

  A document is a tree of values. An object is the list of its members, looked up by name:

  - `member?` finds a member of an object, `element?` an item of an array.
  - `ofMembers` builds an object whose members stand in the order of their names. Of two members
    of one name the later one stays.

  Names are ordered by code points, which is also the order of their UTF-8 forms.
-/

namespace RegistryProbe

/-- A JSON document. -/
inductive Json where
  /-- The value `null`. -/
  | null
  /-- The value `true` or `false`. -/
  | bool (b : Bool)
  /-- A number. -/
  | number (n : Json.Number)
  /-- A string. -/
  | text (s : String)
  /-- An array with its items. -/
  | array (items : List Json)
  /-- An object with its members. -/
  | object (members : List (String × Json))
deriving BEq, Repr, Inhabited

namespace Json

/-! ### Looking into a document -/

/-- The member of an object with a given name. Other values have no members. -/
def member? (d : Json) (name : String) : Option Json :=
  match d with
  | .object members => members.lookup name
  | _ => none

/-- The item of an array at a given index, counted from zero. Other values have no items. -/
def element? (d : Json) (i : Nat) : Option Json :=
  match d with
  | .array items => items[i]?
  | _ => none

/-- The items of an array. -/
def items? : Json → Option (List Json)
  | .array items => some items
  | _ => none

/-- The text of a string. -/
def text? : Json → Option String
  | .text s => some s
  | _ => none

/-- Every value but `null` and `false` counts as true. -/
def isTruthy : Json → Bool
  | .null => false
  | .bool b => b
  | _ => true

/-! ### Objects with ordered members -/

/-- Puts a member among ordered ones, in place of an earlier one of the same name. -/
def insertMember (name : String) (v : Json) : List (String × Json) → List (String × Json)
  | [] => [(name, v)]
  | (k, w) :: rest =>
    if name < k then (name, v) :: (k, w) :: rest
    else if name = k then (name, v) :: rest
    else (k, w) :: insertMember name v rest

/-- The object of the given members, ordered by name; a later member replaces an earlier one of
    the same name. -/
def ofMembers (members : List (String × Json)) : Json :=
  .object (members.foldl (fun ms m => insertMember m.1 m.2 ms) [])

@[simp] theorem lookup_insertMember_self (name : String) (v : Json)
    (ms : List (String × Json)) : (insertMember name v ms).lookup name = some v := by
  induction ms with
  | nil => simp [insertMember]
  | cons m ms ih =>
    obtain ⟨k, w⟩ := m
    unfold insertMember
    split
    · simp
    · split
      · simp
      · next hne => simp [List.lookup_cons, beq_eq_false_iff_ne.2 hne, ih]

@[simp] theorem lookup_insertMember_ne {name other : String} (h : other ≠ name) (v : Json)
    (ms : List (String × Json)) :
    (insertMember name v ms).lookup other = ms.lookup other := by
  induction ms with
  | nil => simp [insertMember, List.lookup_cons, beq_eq_false_iff_ne.2 h]
  | cons m ms ih =>
    obtain ⟨k, w⟩ := m
    unfold insertMember
    split
    · simp [List.lookup_cons, beq_eq_false_iff_ne.2 h]
    · split
      · next heq =>
        subst heq
        simp [List.lookup_cons, beq_eq_false_iff_ne.2 h]
      · simp [List.lookup_cons, ih]

/-- Two members that stand in order are kept as they stand. -/
theorem ofMembers_pair {name other : String} (hlt : ¬ other < name) (hne : other ≠ name)
    (v w : Json) : ofMembers [(name, v), (other, w)] = .object [(name, v), (other, w)] := by
  simp only [ofMembers, insertMember, List.foldl_cons, List.foldl_nil, if_neg hlt, if_neg hne]

/-- Two members that do not stand in order change places. -/
theorem ofMembers_pair_swap {name other : String} (h : other < name) (v w : Json) :
    ofMembers [(name, v), (other, w)] = .object [(other, w), (name, v)] := by
  simp only [ofMembers, insertMember, List.foldl_cons, List.foldl_nil, if_pos h]

end Json

end RegistryProbe
