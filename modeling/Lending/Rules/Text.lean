import Lending.Rules.Table
import Lending.Text.Blank

/-! # Rules texts

A rules text has one table entry a line:

    priority: t, s, c, b, a, m, g
    fallback-policy: l <id> r <id> n <id> o <id> i <id>
    m book, dvd + g staff: l <id> o <id>

A `#` starts a comment, and a tab is nowhere allowed. The first line that cannot be read is the
error.
-/

namespace Lending.RulesText

open Text

def isGap (c : CodePoint) : Bool := c.is isBlank

def isSeparator (c : CodePoint) : Bool := isGap c || c == ',' || c == '(' || c == ')'

inductive Content where
  | nothing
  | priority (body : List CodePoint)
  | fallback (body : List CodePoint)
  | rule (text : List CodePoint)
deriving DecidableEq, Repr

/-- The part of a line before its comment, without blanks around it. -/
def uncommented (line : List CodePoint) : List CodePoint :=
  stripBy isGap (cutAt (· == .char '#') line).1

def contentOf (line : List CodePoint) : Content :=
  let text := uncommented line
  if text.isEmpty then .nothing else
    match afterStart ("priority:" : Text).toList text with
    | some body => .priority body
    | none =>
      match afterStart ("fallback-policy:" : Text).toList text with
      | some body => .fallback body
      | none => .rule text

/-- A tab is reported by the column after it, counted from one. -/
def checkTabs (line : List CodePoint) : Except RulesFault Unit :=
  match line.idxOf? (.char '\t') with
  | some i => .error (.tab (i + 2))
  | none => .ok ()

def attributeOf (token : List CodePoint) : Except RulesFault Attribute :=
  match Attribute.ofLetter? (.ofList token) with
  | some a => .ok a
  | none => .error (.unknownCriterion (.ofList token))

/-- Words of a priority line that name no letter. -/
inductive Keyword where
  | numberOfCriteria
  | criterium
  | firstLine
  | lastLine
deriving DecidableEq, Repr

namespace Keyword

def all : List Keyword := [numberOfCriteria, criterium, firstLine, lastLine]

def text : Keyword → String
  | numberOfCriteria => "number-of-criteria"
  | criterium => "criterium"
  | firstLine => "first-line"
  | lastLine => "last-line"

def ofText? (token : Text) : Option Keyword := all.find? fun k => token = k.text

end Keyword

/-- The order of letters and which of two equal rules wins. -/
structure Priority where
  order : List Attribute
  lastLineWins : Bool
deriving DecidableEq, Repr

def Priority.default : Priority := { order := Attribute.all, lastLineWins := false }

def priorityTokens : List (List CodePoint) → Except RulesFault (List Attribute × Bool)
  | [] => .ok ([], false)
  | token :: rest =>
    match Keyword.ofText? (.ofList token) with
    | some k => do
      let (letters, last) ← priorityTokens rest
      return (letters, k == .lastLine || last)
    | none => do
      let a ← attributeOf token
      let (letters, last) ← priorityTokens rest
      return (a :: letters, last)

/-- Letters that a priority line leaves out follow in their usual order. -/
def completed (letters : List Attribute) : List Attribute :=
  letters ++ Attribute.all.filter (!letters.contains ·)

def priority (body : List CodePoint) : Except RulesFault Priority := do
  let (letters, lastLineWins) ← priorityTokens (words isSeparator body)
  return { order := completed letters, lastLineWins }

/-- The assignments in a list of tokens, given the kinds that were assigned before. -/
def assignmentTokens (seen : List PolicyKind) :
    List (List CodePoint) → Except RulesFault Assignments
  | [] => .ok []
  | token :: rest =>
    let letter := Text.ofList token
    match PolicyKind.ofLetter? letter with
    | none => .error (.unknownPolicyLetter letter)
    | some kind =>
      if seen.contains kind then .error (.repeatedPolicyLetter letter) else
        match rest with
        | [] => .error (.policyIdMissing letter)
        | id :: rest =>
          let id := Text.ofList id
          if (PolicyKind.ofLetter? id).isSome then .error (.policyIdMissing letter) else do
            return (kind, .str id) :: (← assignmentTokens (kind :: seen) rest)

def assignments (body : List CodePoint) : Except RulesFault Assignments :=
  assignmentTokens [] (words isGap body)

def criterion (group : List CodePoint) : Except RulesFault Criterion :=
  match words isSeparator group with
  | [] => .error .emptyCriterion
  | [letter] => .error (.criterionWithoutValues (Text.ofList letter))
  | letter :: values => do
    return { subject := ← attributeOf letter, values := values.map fun v => .str (.ofList v) }

def criteria (part : List CodePoint) : Except RulesFault (List Criterion) :=
  (pieces (· == .char '+') part).mapM criterion

def ruleParts (text : List CodePoint) : Except RulesFault (List Criterion × Assignments) :=
  match cutAt (· == .char ':') text with
  | (_, none) => .error .colonMissing
  | (before, some after) => do
    let criteria ← criteria before
    let policies ← assignments after
    if policies.isEmpty then .error .noPolicies else return (criteria, policies)

/-- What the lines so far have said. -/
structure Draft where
  priority : Priority := .default
  fallback : Option Rule := none
  rules : List Rule := []
deriving DecidableEq, Repr

def Draft.add (d : Draft) (number : Int) (line : List CodePoint) : Except RulesFault Draft := do
  checkTabs line
  match contentOf line with
  | .nothing => return d
  | .priority body => return { d with priority := ← RulesText.priority body }
  | .fallback body =>
    if d.fallback.isSome then .error .repeatedFallback else
      let policies ← assignments body
      return { d with fallback := some { criteria := [], policies, line := number } }
  | .rule text =>
    let (criteria, policies) ← ruleParts text
    return { d with rules := d.rules ++ [{ criteria, policies, line := number }] }

def Draft.addLines (d : Draft) (number : Int) : List (List CodePoint) → Except RulesError Draft
  | [] => .ok d
  | line :: rest =>
    match d.add number line with
    | .ok d => d.addLines (number + 1) rest
    | .error fault => .error { fault, line := number }

def Draft.table (d : Draft) : Except RulesError RuleTable :=
  match d.fallback with
  | none => .error { fault := .fallbackMissing, line := none }
  | some fallback => RuleTable.make d.rules fallback d.priority.order d.priority.lastLineWins

def ofLines (lines : List (List CodePoint)) : Except RulesError RuleTable := do
  (← Draft.addLines {} 1 lines).table

def read (text : Text) : Except RulesError RuleTable := ofLines (lines text.toList)

end Lending.RulesText
