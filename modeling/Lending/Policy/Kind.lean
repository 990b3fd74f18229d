import Lending.Text.Basic

/-! # Policy kinds

The five kinds of policy that a circulation rule can name, always in the order of the list here.
-/

namespace Lending

inductive PolicyKind where
  | loan
  | request
  | notice
  | overdueFine
  | lostItemFee
deriving DecidableEq, Repr, Inhabited

namespace PolicyKind

def all : List PolicyKind := [loan, request, notice, overdueFine, lostItemFee]

def letter : PolicyKind → Char
  | loan => 'l'
  | request => 'r'
  | notice => 'n'
  | overdueFine => 'o'
  | lostItemFee => 'i'

def name : PolicyKind → String
  | loan => "loan"
  | request => "request"
  | notice => "notice"
  | overdueFine => "overdue-fine"
  | lostItemFee => "lost-item-fee"

def label : PolicyKind → String
  | loan => "Loan"
  | request => "Request"
  | notice => "Notice"
  | overdueFine => "Overdue fine"
  | lostItemFee => "Lost item fee"

def lowerLabel : PolicyKind → String
  | loan => "loan"
  | request => "request"
  | notice => "notice"
  | overdueFine => "overdue fine"
  | lostItemFee => "lost item fee"

/-- The member that carries a policy's id in an answer about rules. -/
def idMember : PolicyKind → String
  | loan => "loanPolicyId"
  | request => "requestPolicyId"
  | notice => "noticePolicyId"
  | overdueFine => "overdueFinePolicyId"
  | lostItemFee => "lostItemPolicyId"

def ofLetter? (token : Text) : Option PolicyKind := all.find? fun k => token = .ofChars [k.letter]

def ofName? (name : Text) : Option PolicyKind := all.find? fun k => k.name = name

end PolicyKind

end Lending
