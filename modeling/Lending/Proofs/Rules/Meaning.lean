import Lending.Proofs.Rules.Criterion
import Lending.Proofs.Rules.Declaration
import Lending.Rules.Application

/-! # What a rule means

For a request only the explicit criteria of a rule and its policies matter. A change of rules that
leaves both as they are keeps the order of a table and all its answers.
-/

namespace Lending

section Rules

variable {g : Rule → Rule} {request : MatchCriteria}

/-- A change that leaves the explicit criteria and the policies of every rule. -/
structure Rule.KeepsMeaning (g : Rule → Rule) : Prop where
  explicit : ∀ r, (g r).explicit = r.explicit
  policies : ∀ r, (g r).policies = r.policies

theorem Rule.accepts_eq_all_explicit (r : Rule) (request : MatchCriteria) :
    r.accepts request = r.explicit.all (·.accepts request) := by
  rw [accepts, explicit, List.all_filter]
  congr 1
  funext c
  cases h : c.isWildcard <;> simp [Criterion.accepts, h]

theorem Rule.criteriaStop_eq_explicit (request : MatchCriteria) (cs : List Criterion) :
    criteriaStop request cs = criteriaStop request (cs.filter (!·.isWildcard)) := by
  induction cs with
  | nil => rfl
  | cons c cs ih =>
    cases h : c.isWildcard with
    | true => simp [criteriaStop, Criterion.stops, Criterion.accepts, h, ih]
    | false => simp [criteriaStop, h, ih]

namespace Rule.KeepsMeaning

theorem specificity_eq (hg : KeepsMeaning g) (r : Rule) (priority : List Attribute) :
    (g r).specificity priority = r.specificity priority := by
  have hr : (g r).restricts = r.restricts := by
    funext a
    rw [restricts, hg.explicit, restricts]
  rw [specificity, hr, specificity]

theorem conditions_eq (hg : KeepsMeaning g) (r : Rule) : (g r).conditions = r.conditions := by
  rw [conditions, hg.explicit, conditions]

theorem idFor_eq (hg : KeepsMeaning g) (r : Rule) (kind : PolicyKind) (request : MatchCriteria) :
    (g r).idFor kind request = r.idFor kind request := by
  rw [idFor, accepts_eq_all_explicit, hg.explicit, ← accepts_eq_all_explicit, hg.policies, idFor]

theorem stops_eq (hg : KeepsMeaning g) (r : Rule) (kind : PolicyKind) (request : MatchCriteria) :
    (g r).stops kind request = r.stops kind request := by
  have he : (g r).criteria.filter (!·.isWildcard) = r.criteria.filter (!·.isWildcard) :=
    hg.explicit r
  rw [stops, criteriaStop_eq_explicit, he, ← criteriaStop_eq_explicit, hg.policies, stops]

end Rule.KeepsMeaning

end Rules

namespace RuleTable

variable {g : Rule → Rule}

/-- A table with every rule changed, and its fallback too. -/
def mapRules (g : Rule → Rule) (t : RuleTable) : RuleTable :=
  { t with rules := t.rules.map g, fallback := g t.fallback }

theorem order_map (hg : Rule.KeepsMeaning g) (rules : List Rule) (priority : List Attribute)
    (last : Bool) :
    order (rules.map g) priority last = (order rules priority last).map g := by
  have ht : (if last then (rules.map g).reverse else rules.map g) =
      (if last then rules.reverse else rules).map g := by
    cases last
    · rfl
    · exact List.map_reverse.symm
  rw [order, ht, order]
  refine (List.map_mergeSort fun r _ s _ => ?_).symm
  rw [hg.specificity_eq, hg.specificity_eq]

theorem line_of_make_eq_error {rules : List Rule} {fallback : Rule} {priority : List Attribute}
    {last : Bool} {e : RulesError} (h : make rules fallback priority last = .error e) :
    e.line = some fallback.line := by
  unfold make at h
  split at h
  · obtain rfl := Except.error.inj h
    rfl
  · cases h

theorem make_map (hg : Rule.KeepsMeaning g) (rules : List Rule) (fallback : Rule)
    (priority : List Attribute) (last : Bool) :
    make (rules.map g) (g fallback) priority last =
      match make rules fallback priority last with
      | .ok t => .ok (t.mapRules g)
      | .error e => .error { e with line := (g fallback).line } := by
  rw [make, make, hg.policies]
  cases PolicyKind.all.find? fun k => (fallback.policies.countingIdFor k).isNone with
  | some kind => rfl
  | none => simp only [mapRules, order_map hg]

theorem apply_mapRules (hg : Rule.KeepsMeaning g) (t : RuleTable) (kind : PolicyKind)
    (request : MatchCriteria) : (t.mapRules g).apply kind request = t.apply kind request := by
  have hp : (fun r : Rule => (r.idFor kind request).isSome) ∘ g =
      fun r => (r.idFor kind request).isSome := by
    funext r
    rw [Function.comp, hg.idFor_eq]
  rw [apply, mapRules, List.find?_map, hp, apply]
  cases t.rules.find? fun r => (r.idFor kind request).isSome with
  | none => simp only [Option.map_none, hg.policies]
  | some r => simp only [Option.map_some, hg.idFor_eq, hg.conditions_eq]

theorem rulesStop_map (hg : Rule.KeepsMeaning g) (kind : PolicyKind) (request : MatchCriteria)
    (rules : List Rule) : rulesStop kind request (rules.map g) = rulesStop kind request rules := by
  induction rules with
  | nil => rfl
  | cons r rules ih => rw [List.map_cons, rulesStop, hg.stops_eq, hg.idFor_eq, ih, rulesStop]

theorem applyTo_mapRules (hg : Rule.KeepsMeaning g) (t : RuleTable) :
    (t.mapRules g).applyTo = t.applyTo := by
  funext kind request
  rw [applyTo, apply_mapRules hg, mapRules, rulesStop_map hg, applyTo]

theorem applyAllTo_mapRules (hg : Rule.KeepsMeaning g) (t : RuleTable) :
    (t.mapRules g).applyAllTo = t.applyAllTo := by
  funext request
  have hs : (fun kind => rulesStop kind request (t.mapRules g).rules) =
      fun kind => rulesStop kind request t.rules := by
    funext kind
    exact rulesStop_map hg kind request t.rules
  have ha : (t.mapRules g).applyAll request = t.applyAll request :=
    List.map_congr_left fun kind _ => apply_mapRules hg t kind request
  rw [applyAllTo, hs, ha, applyAllTo]

end RuleTable

end Lending
