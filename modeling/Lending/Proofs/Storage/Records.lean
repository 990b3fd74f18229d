import Lending.Proofs.Storage.Counting
import Lending.Storage.Calendar

/-! # Records of storage

What opening days and rules are like where storage gives them as it should. Then they can be read.
-/

namespace Lending

namespace Json

variable {v : Json}

def IsObject (v : Json) : Prop := ∃ members, v = .obj members

/-- The member of an object, or the given value where there is none. -/
def getD (v : Json) (name : Text) (absent : Json) : Json :=
  match v with
  | .obj members => (find name members).getD absent
  | _ => absent

theorem memberD_of_isObject (h : v.IsObject) (name : Text) (absent : Json) :
    v.memberD name absent = .ok (v.getD name absent) := by
  obtain ⟨members, rfl⟩ := h
  rfl

theorem member_of_isObject (h : v.IsObject) (name : Text) : v.member name = .ok (v.get name) := by
  obtain ⟨members, rfl⟩ := h
  rfl

/-- An object with a list of things of one form under a name, or with nothing under it. -/
structure Lists (v : Json) (name : Text) (form : Json → Prop) : Prop where
  isObject : v.IsObject
  items : ∃ items, v.getD name (.arr []) = .arr items ∧ ∀ item ∈ items, form item

structure IsHour (v : Json) : Prop where
  isObject : v.IsObject
  start : ∃ t, TimeOfDay.ofJson (v.get "startTime") = .ok t
  finish : ∃ t, TimeOfDay.ofJson (v.get "endTime") = .ok t

structure IsDay (v : Json) : Prop where
  date : ∃ d, Date.ofJson (v.get "date") = .ok d
  hours : v.Lists "openingHour" IsHour

structure IsPeriod (v : Json) : Prop where
  isObject : v.IsObject
  day : (v.getD "openingDay" (.obj [])).IsDay

structure IsRule (kind : PolicyKind) (v : Json) : Prop where
  policyId : ∃ id, v.required kind.idMember = .ok id
  conditions : v.Lists "conditions" fun _ => True

section Reading

theorem exists_mapM_eq_ok {α β : Type} {f : α → Result β} {xs : List α}
    (h : ∀ x ∈ xs, ∃ y, f x = .ok y) : ∃ ys, xs.mapM f = .ok ys := by
  simp only [mapM_eq_ok_iff, exists_forall₂_iff]
  exact h

theorem Lists.exists_mapM {α : Type} {name : Text} {form : Json → Prop} {f : Json → Result α}
    (h : v.Lists name form) (hf : ∀ item, form item → ∃ a, f item = .ok a) :
    ∃ list items as, v.memberD name (.arr []) = .ok list ∧ list.items = .ok items ∧
      items.mapM f = .ok as := by
  obtain ⟨items, hi, hitems⟩ := h.items
  obtain ⟨as, has⟩ := exists_mapM_eq_ok fun item hm => hf item (hitems item hm)
  exact ⟨.arr items, items, as, by rw [memberD_of_isObject h.isObject, hi], rfl, has⟩

theorem IsHour.exists_ofJson (h : v.IsHour) : ∃ hour, OpeningHour.ofJson v = .ok hour := by
  obtain ⟨ho, ⟨start, hs⟩, finish, hf⟩ := h
  rw [OpeningHour.ofJson, member_of_isObject ho, member_of_isObject ho, ok_bind, hs, ok_bind,
    ok_bind, hf]
  exact ⟨_, rfl⟩

theorem IsDay.exists_ofJson (h : v.IsDay) : ∃ day, OpeningDay.ofJson v = .ok day := by
  obtain ⟨⟨date, hd⟩, hh⟩ := h
  obtain ⟨list, items, hours, hl, hi, hs⟩ := hh.exists_mapM fun _ h => h.exists_ofJson
  have ho := hh.isObject
  rw [OpeningDay.ofJson, member_of_isObject ho, ok_bind, hd, ok_bind, hl, ok_bind, hi, ok_bind, hs,
    ok_bind, memberD_of_isObject ho, memberD_of_isObject ho]
  exact ⟨_, rfl⟩

theorem Lists.exists_openingDaysOf (h : v.Lists "openingPeriods" IsPeriod) :
    ∃ days, Client.openingDaysOf v = .ok days := by
  have hp : ∀ period : Json, period.IsPeriod → ∃ day, (do
      OpeningDay.ofJson (← period.memberD "openingDay" (.obj []))) = .ok day := by
    intro period hp
    rw [memberD_of_isObject hp.isObject, ok_bind]
    exact hp.day.exists_ofJson
  obtain ⟨list, items, days, hl, hi, hd⟩ := h.exists_mapM hp
  exact ⟨days, by rw [Client.openingDaysOf, hl, ok_bind, hi, ok_bind, hd]⟩

theorem IsRule.exists_ruleOf {kind : PolicyKind} (h : v.IsRule kind) :
    ∃ rule, RulesCall.ruleOf kind v = .ok rule := by
  obtain ⟨⟨id, hid⟩, ho, items, hi, -⟩ := h
  rw [RulesCall.ruleOf, hid, ok_bind, memberD_of_isObject ho, hi]
  exact ⟨_, rfl⟩

end Reading

end Json

end Lending
