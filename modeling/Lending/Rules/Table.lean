import Lending.Rules.Criterion
import Lending.Rules.Fault

/-! # Rule tables

Circulation rules in the order in which they are tried. The first rule that names a policy of the
wanted kind and whose criteria all hold gives the policy; the fallback gives what is left.
-/

namespace Lending

/-- The policies that a rule assigns, each kind at most once. -/
abbrev Assignments := List (PolicyKind × Json)

namespace Assignments

def idFor (a : Assignments) (kind : PolicyKind) : Option Json :=
  (a.find? fun p => p.1 = kind).map (·.2)

/-- The id of a kind, unless it is empty or does not count for another reason. -/
def countingIdFor (a : Assignments) (kind : PolicyKind) : Option Json :=
  (a.idFor kind).filter (·.counts)

/-- Assign an id, in the old place if the kind already has one. -/
def set (kind : PolicyKind) (id : Json) : Assignments → Assignments
  | [] => [(kind, id)]
  | (k, i) :: rest => if k = kind then (k, id) :: rest else (k, i) :: set kind id rest

/-- The last id of each kind, in the place of the first. -/
def ofList (pairs : List (PolicyKind × Json)) : Assignments :=
  pairs.foldl (fun a p => set p.1 p.2 a) []

end Assignments

structure Rule where
  criteria : List Criterion
  policies : Assignments
  line : Int
deriving DecidableEq, Repr, Inhabited

/-- How specific a rule is: the number of letters it restricts, then which of them by priority. -/
structure Specificity where
  count : Nat
  presence : List Bool
deriving DecidableEq, Repr, Inhabited

namespace Specificity

/-- Comparison at the first place that differs; true is above false. -/
def presenceLess : List Bool → List Bool → Bool
  | false :: _, true :: _ => true
  | true :: _, false :: _ => false
  | _ :: as, _ :: bs => presenceLess as bs
  | [], _ :: _ => true
  | _, [] => false

def less (a b : Specificity) : Bool :=
  a.count < b.count || (a.count == b.count && presenceLess a.presence b.presence)

end Specificity

structure AppliedRule where
  kind : PolicyKind
  policyId : Json
  conditions : List Json
deriving DecidableEq, Repr, Inhabited

namespace Rule

def accepts (r : Rule) (request : MatchCriteria) : Bool := r.criteria.all (·.accepts request)

def explicit (r : Rule) : List Criterion := r.criteria.filter (!·.isWildcard)

def restricts (r : Rule) (a : Attribute) : Bool := r.explicit.any (·.subject == a)

def specificity (r : Rule) (priority : List Attribute) : Specificity :=
  { count := Attribute.all.countP r.restricts, presence := priority.map r.restricts }

def conditions (r : Rule) : List String := r.explicit.map (·.subject.label)

def idFor (r : Rule) (kind : PolicyKind) (request : MatchCriteria) : Option Json :=
  if r.accepts request then r.policies.countingIdFor kind else none

end Rule

/-- A table ready for matching: the rules in the order they are tried, most specific first. -/
structure RuleTable where
  rules : List Rule
  fallback : Rule
  priority : List Attribute
deriving DecidableEq, Repr, Inhabited

namespace RuleTable

/-- Order declared rules by falling specificity. Rules that are equally specific stay as declared,
or the other way round where the last line wins. -/
def order (rules : List Rule) (priority : List Attribute) (lastLineWins : Bool) : List Rule :=
  (if lastLineWins then rules.reverse else rules).mergeSort fun a b =>
    !(a.specificity priority).less (b.specificity priority)

/-- A table of declared rules; the fallback has to name a policy of every kind. -/
def make (rules : List Rule) (fallback : Rule) (priority : List Attribute) (lastLineWins : Bool) :
    Except RulesError RuleTable :=
  match PolicyKind.all.find? fun k => (fallback.policies.countingIdFor k).isNone with
  | some kind => .error { fault := .fallbackWithout kind, line := fallback.line }
  | none => .ok { rules := order rules priority lastLineWins, fallback, priority }

/-- The policy for a request: by the first rule that gives one, else by the fallback. -/
def apply (t : RuleTable) (kind : PolicyKind) (request : MatchCriteria) : AppliedRule :=
  match t.rules.find? fun r => (r.idFor kind request).isSome with
  | some r =>
    { kind
      policyId := (r.idFor kind request).getD .null
      conditions := r.conditions.map fun label => .str (.ofString label) }
  | none => { kind, policyId := (t.fallback.policies.idFor kind).getD .null, conditions := [] }

def applyAll (t : RuleTable) (request : MatchCriteria) : List AppliedRule :=
  PolicyKind.all.map (t.apply · request)

structure Reference where
  kind : PolicyKind
  id : Json
  line : Int
deriving DecidableEq, Repr, Inhabited

def Rule.references (r : Rule) : List Reference :=
  r.policies.map fun p => { kind := p.1, id := p.2, line := r.line }

def references (t : RuleTable) : List Reference :=
  ((t.rules ++ [t.fallback]).mergeSort fun a b => a.line ≤ b.line).flatMap Rule.references

end RuleTable

end Lending
