import Lending.Rules.Table
import Mathlib.Data.Finset.Card
import Mathlib.Data.List.Lex
import Mathlib.Data.Prod.Lex

/-! # Specificity

Rules are compared by the letters that they restrict: a rule with more of them is more specific, and
between rules with as many letters the first letter by priority decides that only one of them
restricts. The comparison by which tables are sorted is this one, and it is a linear order of the
keys that it compares.
-/

namespace Lending

namespace Specificity

theorem presenceLess_iff {as bs : List Bool} : presenceLess as bs = true ↔ as < bs := by
  induction as generalizing bs with
  | nil => cases bs <;> simp [presenceLess]
  | cons a as ih =>
    cases bs with
    | nil => simp [presenceLess]
    | cons b bs => cases a <;> cases b <;> simp [presenceLess, List.cons_lt_cons_iff, ih]

/-- What two rules are compared by, in the order of the comparison. -/
def key (s : Specificity) : ℕ ×ₗ List Bool := toLex (s.count, s.presence)

theorem less_iff {a b : Specificity} : a.less b = true ↔ a.key < b.key := by
  simp [less, key, Prod.Lex.toLex_lt_toLex, presenceLess_iff]

end Specificity

namespace Rule

variable {priority : List Attribute} {r s : Rule} {a : Attribute}

/-- The letters that a rule restricts to listed values. -/
def letters (r : Rule) : Finset Attribute :=
  ((r.criteria.filter (!·.isWildcard)).map (·.subject)).toFinset

/-- By priority, the first letter that only one of two rules restricts is a letter of the first. -/
def Leads (priority : List Attribute) (r s : Rule) : Prop :=
  ∃ before a after, priority = before ++ a :: after ∧ a ∈ r.letters ∧ a ∉ s.letters ∧
    ∀ b ∈ before, b ∈ r.letters ↔ b ∈ s.letters

/-- A rule with more letters is more specific, and of two with as many the one that leads. -/
def MoreSpecific (priority : List Attribute) (r s : Rule) : Prop :=
  s.letters.card < r.letters.card ∨ (r.letters.card = s.letters.card ∧ Leads priority r s)

def EquallySpecific (priority : List Attribute) (r s : Rule) : Prop :=
  r.letters.card = s.letters.card ∧ ∀ a ∈ priority, a ∈ r.letters ↔ a ∈ s.letters

instance : Decidable (EquallySpecific priority r s) :=
  inferInstanceAs (Decidable (_ ∧ ∀ a ∈ priority, _ ↔ _))

theorem mem_letters_iff : a ∈ r.letters ↔ r.restricts a = true := by
  simp [letters, restricts, explicit, and_assoc]

theorem count_specificity (r : Rule) (priority : List Attribute) :
    (r.specificity priority).count = r.letters.card := by
  have h : r.letters = (Attribute.all.filter r.restricts).toFinset := by
    ext a
    have ha : a ∈ Attribute.all := by cases a <;> decide
    simp [mem_letters_iff, ha]
  have hn : Attribute.all.Nodup := by decide
  rw [h, List.toFinset_card_of_nodup (hn.filter _), ← List.countP_eq_length_filter, specificity]

theorem leads_cons_iff : Leads (a :: priority) r s ↔
    (a ∈ r.letters ∧ a ∉ s.letters) ∨ ((a ∈ r.letters ↔ a ∈ s.letters) ∧ Leads priority r s) := by
  constructor
  · rintro ⟨_ | ⟨b, before⟩, c, after, he, hr, hs, hb⟩
    · obtain ⟨rfl, -⟩ := List.cons.inj he
      exact .inl ⟨hr, hs⟩
    · obtain ⟨rfl, hp⟩ := List.cons.inj he
      obtain ⟨hb, hbs⟩ := List.forall_mem_cons.mp hb
      exact .inr ⟨hb, before, c, after, hp, hr, hs, hbs⟩
  · rintro (⟨hr, hs⟩ | ⟨h, before, c, after, rfl, hr, hs, hb⟩)
    · exact ⟨[], a, priority, rfl, hr, hs, by simp⟩
    · exact ⟨a :: before, c, after, rfl, hr, hs, List.forall_mem_cons.mpr ⟨h, hb⟩⟩

theorem presence_lt_iff :
    (s.specificity priority).presence < (r.specificity priority).presence ↔
      Leads priority r s := by
  induction priority with
  | nil => simp [specificity, Leads]
  | cons a priority ih =>
    rw [leads_cons_iff, ← ih, mem_letters_iff, mem_letters_iff]
    simp only [specificity, List.map_cons, List.cons_lt_cons_iff]
    cases r.restricts a <;> cases s.restricts a <;> simp

theorem less_specificity_iff :
    (s.specificity priority).less (r.specificity priority) = true ↔
      MoreSpecific priority r s := by
  rw [Specificity.less_iff, Specificity.key, Specificity.key, Prod.Lex.toLex_lt_toLex]
  simp only [count_specificity, presence_lt_iff, MoreSpecific, eq_comm]

theorem key_eq_iff :
    (r.specificity priority).key = (s.specificity priority).key ↔
      EquallySpecific priority r s := by
  have hp : (r.specificity priority).presence = (s.specificity priority).presence ↔
      ∀ a ∈ priority, a ∈ r.letters ↔ a ∈ s.letters := by
    simp only [specificity, List.map_inj_left, mem_letters_iff]
    exact forall₂_congr fun _ _ => Bool.eq_iff_iff
  rw [EquallySpecific, ← hp, ← count_specificity r priority, ← count_specificity s priority]
  simp [Specificity.key]

theorem moreSpecific_trichotomy (priority : List Attribute) (r s : Rule) :
    MoreSpecific priority r s ∨ EquallySpecific priority r s ∨ MoreSpecific priority s r := by
  simp only [← less_specificity_iff, Specificity.less_iff, ← key_eq_iff]
  exact (lt_trichotomy _ _).imp_right (Or.imp_left Eq.symm)

theorem MoreSpecific.asymm (h : MoreSpecific priority r s) : ¬ MoreSpecific priority s r := by
  rw [← less_specificity_iff, Specificity.less_iff] at h ⊢
  exact h.asymm

theorem EquallySpecific.symm (h : EquallySpecific priority r s) : EquallySpecific priority s r :=
  key_eq_iff.mp (key_eq_iff.mpr h).symm

theorem EquallySpecific.not_moreSpecific (h : EquallySpecific priority r s) :
    ¬ MoreSpecific priority r s := by
  rw [← less_specificity_iff, Specificity.less_iff, key_eq_iff.mpr h]
  exact lt_irrefl _

end Rule

end Lending
