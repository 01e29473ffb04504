import TableGateway.Value.Double

/-!
# Values

A value is a piece of JSON data: what a query binds, what a configuration is written in and what a
database row holds. The members of an object are kept in the order in which they were written.
-/

namespace TableGateway

/-- JSON data. Whole numbers are unbounded, and `1` differs from `1.0`. -/
inductive Value where
  | null
  | bool (b : Bool)
  | int (n : Int)
  | double (x : Double)
  | string (s : String)
  | array (items : List Value)
  | object (members : List (String × Value))
deriving Repr, Inhabited

namespace Value

mutual

/-- Equality of values by recursion on the first one. -/
def same : Value → Value → Bool
  | null, null => true
  | bool a, bool b => a == b
  | int m, int n => m == n
  | double x, double y => x == y
  | string s, string t => s == t
  | array xs, array ys => sameItems xs ys
  | object ms, object ns => sameMembers ms ns
  | _, _ => false

def sameItems : List Value → List Value → Bool
  | [], [] => true
  | x :: xs, y :: ys => same x y && sameItems xs ys
  | _, _ => false

def sameMembers : List (String × Value) → List (String × Value) → Bool
  | [], [] => true
  | (k, x) :: ms, (l, y) :: ns => k == l && same x y && sameMembers ms ns
  | _, _ => false

end

mutual

theorem same_self : ∀ v : Value, same v v = true
  | null => rfl
  | bool _ => by simp [same]
  | int _ => by simp [same]
  | double _ => by simp [same]
  | string _ => by simp [same]
  | array xs => by rw [same]; exact sameItems_self xs
  | object ms => by rw [same]; exact sameMembers_self ms

theorem sameItems_self : ∀ xs : List Value, sameItems xs xs = true
  | [] => rfl
  | x :: xs => by rw [sameItems, same_self x, sameItems_self xs]; rfl

theorem sameMembers_self : ∀ ms : List (String × Value), sameMembers ms ms = true
  | [] => rfl
  | (k, x) :: ms => by simp [sameMembers, same_self x, sameMembers_self ms]

end

mutual

theorem eq_of_same : ∀ {v w : Value}, same v w = true → v = w
  | null, w, h => by cases w <;> simp_all [same]
  | bool _, w, h => by cases w <;> simp_all [same]
  | int _, w, h => by cases w <;> simp_all [same]
  | double _, w, h => by cases w <;> simp_all [same]
  | string _, w, h => by cases w <;> simp_all [same]
  | array xs, w, h => by
    cases w with
    | array ys => rw [same] at h; rw [eq_of_sameItems h]
    | _ => simp [same] at h
  | object ms, w, h => by
    cases w with
    | object ns => rw [same] at h; rw [eq_of_sameMembers h]
    | _ => simp [same] at h

theorem eq_of_sameItems : ∀ {xs ys : List Value}, sameItems xs ys = true → xs = ys
  | [], [], _ => rfl
  | x :: xs, y :: ys, h => by
    rw [sameItems, Bool.and_eq_true] at h
    rw [eq_of_same h.1, eq_of_sameItems h.2]
  | [], _ :: _, h => by simp [sameItems] at h
  | _ :: _, [], h => by simp [sameItems] at h

theorem eq_of_sameMembers :
    ∀ {ms ns : List (String × Value)}, sameMembers ms ns = true → ms = ns
  | [], [], _ => rfl
  | (k, x) :: ms, (l, y) :: ns, h => by
    rw [sameMembers, Bool.and_eq_true, Bool.and_eq_true, beq_iff_eq] at h
    rw [h.1.1, eq_of_same h.1.2, eq_of_sameMembers h.2]
  | [], _ :: _, h => by simp [sameMembers] at h
  | _ :: _, [], h => by simp [sameMembers] at h

end

instance : DecidableEq Value := fun v w =>
  if h : same v w then .isTrue (eq_of_same h)
  else .isFalse fun e => h (e ▸ same_self v)

/-- Whether a value counts as given: null, `false`, zero and everything empty do not. -/
def isTruthy : Value → Bool
  | null => false
  | bool b => b
  | int n => n != 0
  | double x => !x.isZero
  | string s => s != ""
  | array items => !items.isEmpty
  | object members => !members.isEmpty

/-- The members of an object. -/
def members? : Value → Option (List (String × Value))
  | object members => some members
  | _ => none

/-- The member of an object under a key. -/
def get? (v : Value) (key : String) : Option Value :=
  v.members?.bind (List.lookup key ·)

/-- The values met on a walk through a value: the items of an array, the characters of a string and
the keys of an object. Other values cannot be walked through. -/
def elements? : Value → Option (List Value)
  | array items => some items
  | string s => some (s.toList.map fun c => string c.toString)
  | object members => some (members.map fun m => string m.1)
  | _ => none

def isText : Value → Bool
  | string _ => true
  | _ => false

/-- Whether a value can be a key: arrays and objects cannot. -/
def isKey : Value → Bool
  | array _ | object _ => false
  | _ => true

end Value

/-- Sets the member under a key, where it stands or, for a new key, at the end. -/
def setMember {α : Type} (key : String) (a : α) : List (String × α) → List (String × α)
  | [] => [(key, a)]
  | m :: rest => if m.1 = key then (key, a) :: rest else m :: setMember key a rest

/-- Changes the member under a key, if there is one. -/
def modifyMember {α : Type} (key : String) (f : α → α) : List (String × α) → List (String × α)
  | [] => []
  | m :: rest => if m.1 = key then (key, f m.2) :: rest else m :: modifyMember key f rest

theorem map_fst_modifyMember {α : Type} (key : String) (f : α → α)
    (members : List (String × α)) :
    (modifyMember key f members).map Prod.fst = members.map Prod.fst := by
  induction members with
  | nil => rfl
  | cons m rest ih =>
    rw [modifyMember]
    split
    · next h => simp [h]
    · rw [List.map_cons, ih, List.map_cons]

theorem lookup_modifyMember {α : Type} (key other : String) (f : α → α)
    (members : List (String × α)) :
    (modifyMember key f members).lookup other =
      if other = key then (members.lookup other).map f else members.lookup other := by
  induction members with
  | nil => simp [modifyMember]
  | cons m rest ih => grind [modifyMember]

end TableGateway
