import Lending.Number.Double
import Lending.Text.Basic

/-! # JSON values

Records as storage holds them. Members keep their order, and a number is an integer or a double as
it was written.
-/

namespace Lending

inductive Json where
  | null
  | bool (b : Bool)
  | int (n : Int)
  | real (x : Double)
  | str (s : Text)
  | arr (items : List Json)
  | obj (members : List (Text × Json))
deriving Repr, Inhabited

namespace Json

mutual

def same : Json → Json → Bool
  | null, null => true
  | bool b, bool b' => b == b'
  | int n, int n' => n == n'
  | real x, real x' => x == x'
  | str s, str s' => s == s'
  | arr items, arr items' => sameItems items items'
  | obj members, obj members' => sameMembers members members'
  | _, _ => false

def sameItems : List Json → List Json → Bool
  | [], [] => true
  | x :: xs, y :: ys => same x y && sameItems xs ys
  | _, _ => false

def sameMembers : List (Text × Json) → List (Text × Json) → Bool
  | [], [] => true
  | (k, x) :: xs, (l, y) :: ys => k == l && same x y && sameMembers xs ys
  | _, _ => false

end

mutual

theorem eq_of_same : ∀ x y : Json, same x y = true → x = y
  | null, y, h => by cases y <;> simp_all [same]
  | bool _, y, h => by cases y <;> simp_all [same]
  | int _, y, h => by cases y <;> simp_all [same]
  | real _, y, h => by cases y <;> simp_all [same]
  | str _, y, h => by cases y <;> simp_all [same]
  | arr items, y, h => by
    cases y <;> simp only [same, Bool.false_eq_true] at h
    rw [eq_of_sameItems _ _ h]
  | obj members, y, h => by
    cases y <;> simp only [same, Bool.false_eq_true] at h
    rw [eq_of_sameMembers _ _ h]

theorem eq_of_sameItems : ∀ xs ys : List Json, sameItems xs ys = true → xs = ys
  | [], ys, h => by cases ys <;> simp_all [sameItems]
  | x :: xs, ys, h => by
    cases ys with
    | nil => simp [sameItems] at h
    | cons y ys =>
      simp only [sameItems, Bool.and_eq_true] at h
      rw [eq_of_same _ _ h.1, eq_of_sameItems _ _ h.2]

theorem eq_of_sameMembers : ∀ xs ys : List (Text × Json), sameMembers xs ys = true → xs = ys
  | [], ys, h => by cases ys <;> simp_all [sameMembers]
  | (k, x) :: xs, ys, h => by
    cases ys with
    | nil => simp [sameMembers] at h
    | cons y ys =>
      obtain ⟨l, y⟩ := y
      simp only [sameMembers, Bool.and_eq_true, beq_iff_eq] at h
      rw [h.1.1, eq_of_same _ _ h.1.2, eq_of_sameMembers _ _ h.2]

end

mutual

theorem same_refl : ∀ x : Json, same x x = true
  | null => rfl
  | bool _ | int _ | real _ | str _ => by simp [same]
  | arr items => sameItems_refl items
  | obj members => sameMembers_refl members

theorem sameItems_refl : ∀ xs : List Json, sameItems xs xs = true
  | [] => rfl
  | x :: xs => by simp [sameItems, same_refl x, sameItems_refl xs]

theorem sameMembers_refl : ∀ xs : List (Text × Json), sameMembers xs xs = true
  | [] => rfl
  | (_, x) :: xs => by simp [sameMembers, same_refl x, sameMembers_refl xs]

end

theorem same_iff (x y : Json) : same x y = true ↔ x = y :=
  ⟨eq_of_same x y, fun h => h ▸ same_refl x⟩

instance : DecidableEq Json := fun x y => decidable_of_iff _ (same_iff x y)

/-- Absent, false, zero and empty values do not count; every other value does. -/
def counts : Json → Bool
  | null => false
  | bool b => b
  | int n => n != 0
  | real x => !x.isZero
  | str s => !s.toList.isEmpty
  | arr items => !items.isEmpty
  | obj members => !members.isEmpty

/-- Neither a list nor an object. -/
def isPlain : Json → Bool
  | arr _ | obj _ => false
  | _ => true

/-- Set a member, in its old place if the name is taken. -/
def setMember (name : Text) (value : Json) : List (Text × Json) → List (Text × Json)
  | [] => [(name, value)]
  | (n, v) :: rest => if n = name then (n, value) :: rest else (n, v) :: setMember name value rest

/-- An object of the given members, where the last value of a name wins. -/
def ofMembers (members : List (Text × Json)) : Json :=
  obj (members.foldl (fun acc (n, v) => setMember n v acc) [])

def ofOption (f : α → Json) : Option α → Json
  | none => null
  | some a => f a

end Json

end Lending
