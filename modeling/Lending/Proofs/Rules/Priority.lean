import Lending.Proofs.Rules.Grammar
import Lending.Proofs.Rules.Specificity

/-! # Priorities

A priority line may name a letter more than once, or not at all. Its letters come first, in the
order in which they first appear, and those it leaves out come after them in the usual order.
Repeats decide nothing: the order of rules is that of the letters without repeats, in which rules
tie exactly where they restrict the same letters.
-/

namespace Lending

section Distinct

variable {α : Type*} [BEq α]

/-- Induction along the first appearances in a list: after each of them, its repeats are dropped. -/
theorem induction_of_first {P : List α → Prop} (nil : P [])
    (cons : ∀ a as, P (as.filter fun b => !b == a) → P (a :: as)) : ∀ as, P as
  | [] => nil
  | a :: as => cons a as (induction_of_first nil cons _)
termination_by as => as.length
decreasing_by exact Nat.lt_succ_of_le (List.length_filter_le ..)

theorem nodup_eraseDups [LawfulBEq α] (as : List α) : as.eraseDups.Nodup := by
  induction as using induction_of_first with
  | nil => exact .nil
  | cons a as ih =>
    rw [List.eraseDups_cons, List.nodup_cons]
    exact ⟨by simp, ih⟩

theorem eraseDups_of_nodup [LawfulBEq α] {as : List α} (h : as.Nodup) : as.eraseDups = as := by
  induction as with
  | nil => rfl
  | cons a as ih =>
    obtain ⟨ha, h⟩ := List.nodup_cons.mp h
    have hf : as.filter (fun b => !b == a) = as := by
      refine List.filter_eq_self.mpr fun b hb => ?_
      simpa using ne_of_mem_of_not_mem hb ha
    rw [List.eraseDups_cons, hf, ih h]

end Distinct

namespace Rule

variable {priority : List Attribute} {q r s : Rule} {a : Attribute}

theorem leads_filter_iff (h : a ∈ r.letters ↔ a ∈ s.letters) :
    Leads (priority.filter fun b => !b == a) r s ↔ Leads priority r s := by
  induction priority with
  | nil => rfl
  | cons b priority ih =>
    by_cases hb : b = a
    · subst hb
      rw [List.filter_cons_of_neg (by simp), ih, leads_cons_iff, or_iff_right, and_iff_right h]
      exact fun hb => hb.2 (h.mp hb.1)
    · rw [List.filter_cons_of_pos (by simpa using hb), leads_cons_iff, leads_cons_iff, ih]

theorem leads_eraseDups_iff : Leads priority.eraseDups r s ↔ Leads priority r s := by
  induction priority using induction_of_first with
  | nil => rfl
  | cons a priority ih =>
    rw [List.eraseDups_cons, leads_cons_iff, leads_cons_iff, ih]
    exact or_congr_right (and_congr_right leads_filter_iff)

theorem less_specificity_eraseDups (priority : List Attribute) (r s : Rule) :
    (r.specificity priority.eraseDups).less (s.specificity priority.eraseDups) =
      (r.specificity priority).less (s.specificity priority) := by
  rw [Bool.eq_iff_iff, less_specificity_iff, less_specificity_iff, MoreSpecific, MoreSpecific,
    leads_eraseDups_iff]

/-- A rule does not come before another by its specificity. -/
def AtMost (priority : List Attribute) (r s : Rule) : Prop :=
  (s.specificity priority).less (r.specificity priority) = false

instance : Decidable (AtMost priority r s) := inferInstanceAs (Decidable (_ = _))

theorem atMost_iff : AtMost priority r s ↔
    (r.specificity priority).key ≤ (s.specificity priority).key := by
  rw [AtMost, ← Bool.not_eq_true, Specificity.less_iff, not_lt]

theorem atMost_trans (h : AtMost priority q r) (h' : AtMost priority r s) :
    AtMost priority q s :=
  atMost_iff.mpr ((atMost_iff.mp h).trans (atMost_iff.mp h'))

theorem atMost_total (priority : List Attribute) (r s : Rule) :
    AtMost priority r s ∨ AtMost priority s r := by
  rw [atMost_iff, atMost_iff]
  exact le_total _ _

theorem atMost_antisymm_iff :
    AtMost priority r s ∧ AtMost priority s r ↔ EquallySpecific priority r s := by
  rw [atMost_iff, atMost_iff, ← key_eq_iff]
  exact antisymm_iff

theorem equallySpecific_iff_letters_eq (h : ∀ a, a ∈ priority) :
    EquallySpecific priority r s ↔ r.letters = s.letters := by
  constructor
  · rintro ⟨-, hl⟩
    exact Finset.ext fun a => hl a (h a)
  · intro hl
    exact ⟨by rw [hl], fun a _ => by rw [hl]⟩

end Rule

namespace RulesText

variable {letters : List Attribute}

/-- The letters that a priority line leaves out, in their usual order. -/
def omitted (letters : List Attribute) : List Attribute :=
  Attribute.all.filter fun a => a ∉ letters

theorem completed_eq (letters : List Attribute) :
    completed letters = letters ++ omitted letters := by
  simp [completed, omitted]

theorem mem_completed (letters : List Attribute) (a : Attribute) : a ∈ completed letters := by
  by_cases ha : a ∈ letters <;> simp [completed_eq, omitted, Attribute.mem_all, ha]

theorem eraseDups_completed (letters : List Attribute) :
    (completed letters).eraseDups = letters.eraseDups ++ omitted letters := by
  have hn : (omitted letters).Nodup := (by decide : Attribute.all.Nodup).filter _
  have hr : (omitted letters).removeAll letters = omitted letters := by
    refine List.filter_eq_self.mpr fun a ha => ?_
    simpa using (List.mem_filter.mp ha).2
  rw [completed_eq, List.eraseDups_append, hr, eraseDups_of_nodup hn]

theorem eraseDups_completed_perm (letters : List Attribute) :
    (completed letters).eraseDups.Perm Attribute.all := by
  refine (List.perm_ext_iff_of_nodup (nodup_eraseDups _) (by decide)).mpr fun a => ?_
  simp [mem_completed, Attribute.mem_all]

/-- A priority line that can be read orders rules by all letters: first its own, as they first
appear, then those it leaves out, in their usual order. Rules compare as by these letters without
repeats. The comparison is transitive and total, and two rules tie exactly where they restrict the
same letters, whatever else they say. -/
theorem priority_orders_by_letters (body : List CodePoint) (p : Priority)
    (h : priority body = .ok p) :
    let named := lettersOf (tokens isSeparator body)
    let distinct := p.order.eraseDups
    (∀ a, a ∈ p.order) ∧
    p.order = named ++ omitted named ∧
    distinct = named.eraseDups ++ omitted named ∧
    distinct.Perm Attribute.all ∧
    (∀ r s : Rule, (r.specificity p.order).less (s.specificity p.order) =
      (r.specificity distinct).less (s.specificity distinct)) ∧
    (∀ q r s : Rule, q.AtMost p.order r → r.AtMost p.order s → q.AtMost p.order s) ∧
    (∀ r s : Rule, r.AtMost p.order s ∨ s.AtMost p.order r) ∧
    ∀ r s : Rule, r.AtMost p.order s ∧ s.AtMost p.order r ↔ r.letters = s.letters := by
  obtain ⟨-, rfl⟩ := priority_eq_ok_iff.mp h
  intro named distinct
  have hall := mem_completed named
  refine ⟨hall, completed_eq named, eraseDups_completed named, eraseDups_completed_perm named,
    fun r s => ?_, fun q r s => Rule.atMost_trans, Rule.atMost_total _, fun r s => ?_⟩
  · exact (Rule.less_specificity_eraseDups _ r s).symm
  · exact Rule.atMost_antisymm_iff.trans (Rule.equallySpecific_iff_letters_eq hall)

def scatteredPriority : List CodePoint := (" m, t (last-line) m, g" : Text).toList

def booksInLibraries : Rule where
  criteria := [⟨.materialType, [.str "book"]⟩, ⟨.library, [.str "main", .str "law"]⟩]
  policies := [(.loan, .str "week")]
  line := 3

def filmsInLibrary : Rule where
  criteria := [⟨.library, [.str "arts"]⟩, ⟨.patronGroup, [.str "all"]⟩,
    ⟨.materialType, [.str "film"]⟩, ⟨.library, [.str "main", .str "arts"]⟩]
  policies := [(.loan, .str "day"), (.request, .str "hold")]
  line := 4

theorem priority_orders_by_letters_of_scattered :
    ∃ p, priority scatteredPriority = .ok p ∧
      p.order.eraseDups = [.materialType, .loanType, .patronGroup, .location, .campus, .library,
        .institution] ∧
      booksInLibraries.AtMost p.order filmsInLibrary ∧
      filmsInLibrary.AtMost p.order booksInLibraries := by
  have hp : priority scatteredPriority = .ok {
      order := completed [.materialType, .loanType, .materialType, .patronGroup]
      lastLineWins := true } := by decide
  obtain ⟨-, -, -, -, -, -, -, htie⟩ := priority_orders_by_letters _ _ hp
  obtain ⟨hle, hge⟩ := (htie booksInLibraries filmsInLibrary).mpr (by decide)
  exact ⟨_, hp, by decide, hle, hge⟩

end RulesText

end Lending
