import Lending.Overdue
import Lending.Policy.LostItemFee
import Lending.Policy.Notice
import Lending.Policy.Request
import Lending.Policy.Store

/-! # Policy resolution

The policies of every kind for an item and a patron, and the policies of whole pages of loans.
-/

namespace Lending

/-- What policies are resolved from, and the zone that schedules are written in. -/
structure Sources where
  applyRules : PolicyKind → MatchCriteria → Reply AppliedRule
  fetchPolicy : PolicyKind → Json → Reply Json
  fetchSchedule : Json → Reply Json
  zone : Zone

structure Shelf where
  loan : Found LoanPolicy := []
  request : Found RequestPolicy := []
  notice : Found NoticePolicy := []
  overdueFine : Found OverdueFinePolicy := []
  lostItemFee : Found LostItemFeePolicy := []

inductive Policy where
  | loan (p : LoanPolicy)
  | request (p : RequestPolicy)
  | notice (p : NoticePolicy)
  | overdueFine (p : OverdueFinePolicy)
  | lostItemFee (p : LostItemFeePolicy)
deriving DecidableEq, Repr

namespace Policy

def id : Policy → Json
  | loan p => p.id
  | request p => p.id
  | notice p => p.id
  | overdueFine p => p.id
  | lostItemFee p => p.id

def name : Policy → Json
  | loan p => p.name
  | request p => p.name
  | notice p => p.name
  | overdueFine p => p.name
  | lostItemFee p => p.name

end Policy

namespace Sources

/-- A loan policy with the schedule it names; one that names a missing schedule has none. -/
def withSchedule (s : Sources) (p : LoanPolicy) : Reply LoanPolicy :=
  if !p.scheduleId.counts then return p else do
    return p.withSchedule (← Schedule.ofJson s.zone (← s.fetchSchedule p.scheduleId))

def source (s : Sources) (kind : PolicyKind) (read : Json → Result P) (complete : P → Reply P) :
    PolicySource P :=
  { kind, applyRules := s.applyRules, fetch := s.fetchPolicy, read, complete }

def loan (s : Sources) : PolicySource LoanPolicy := s.source .loan LoanPolicy.ofJson s.withSchedule

def request (s : Sources) : PolicySource RequestPolicy :=
  s.source .request RequestPolicy.ofJson pure

def notice (s : Sources) : PolicySource NoticePolicy := s.source .notice NoticePolicy.ofJson pure

def overdueFine (s : Sources) : PolicySource OverdueFinePolicy :=
  s.source .overdueFine OverdueFinePolicy.ofJson pure

def lostItemFee (s : Sources) : PolicySource LostItemFeePolicy :=
  s.source .lostItemFee LostItemFeePolicy.ofJson pure

end Sources

namespace Shelf

def onLoan : Session (Found LoanPolicy) α → Session Shelf α :=
  Session.onPart (·.loan) fun found shelf => { shelf with loan := found }

def onRequest : Session (Found RequestPolicy) α → Session Shelf α :=
  Session.onPart (·.request) fun found shelf => { shelf with request := found }

def onNotice : Session (Found NoticePolicy) α → Session Shelf α :=
  Session.onPart (·.notice) fun found shelf => { shelf with notice := found }

def onOverdueFine : Session (Found OverdueFinePolicy) α → Session Shelf α :=
  Session.onPart (·.overdueFine) fun found shelf => { shelf with overdueFine := found }

def onLostItemFee : Session (Found LostItemFeePolicy) α → Session Shelf α :=
  Session.onPart (·.lostItemFee) fun found shelf => { shelf with lostItemFee := found }

end Shelf

namespace Sources

def lookupById (s : Sources) (kind : PolicyKind) (id : Json) : Session Shelf Policy :=
  match kind with
  | .loan => Policy.loan <$> Shelf.onLoan (s.loan.lookupById id)
  | .request => Policy.request <$> Shelf.onRequest (s.request.lookupById id)
  | .notice => Policy.notice <$> Shelf.onNotice (s.notice.lookupById id)
  | .overdueFine => Policy.overdueFine <$> Shelf.onOverdueFine (s.overdueFine.lookupById id)
  | .lostItemFee => Policy.lostItemFee <$> Shelf.onLostItemFee (s.lostItemFee.lookupById id)

def appliedRule (s : Sources) (kind : PolicyKind) (item : Item) (patron : Patron) :
    Reply AppliedRule := do
  s.applyRules kind (← item.criteria patron)

def lookupLoan (s : Sources) (item : Item) (patron : Patron) : Session Shelf LoanPolicy :=
  Shelf.onLoan (s.loan.lookup item patron)

def lookupOverdueFine (s : Sources) (item : Item) (patron : Patron) :
    Session Shelf OverdueFinePolicy :=
  Shelf.onOverdueFine (s.overdueFine.lookup item patron)

def lookup (s : Sources) (kind : PolicyKind) (item : Item) (patron : Patron) :
    Session Shelf Policy :=
  match kind with
  | .loan => Policy.loan <$> s.lookupLoan item patron
  | .request => Policy.request <$> Shelf.onRequest (s.request.lookup item patron)
  | .notice => Policy.notice <$> Shelf.onNotice (s.notice.lookup item patron)
  | .overdueFine => Policy.overdueFine <$> s.lookupOverdueFine item patron
  | .lostItemFee => Policy.lostItemFee <$> Shelf.onLostItemFee (s.lostItemFee.lookup item patron)

def resolve (s : Sources) (item : Item) (patron : Patron) : Session Shelf (List Policy) :=
  Session.all (PolicyKind.all.map fun kind => s.lookup kind item patron)

def attach (s : Sources) (loan : Loan) (item : Item) (patron : Patron) : Session Shelf Loan := do
  let (loanPolicy, finePolicy) ←
    Session.both (s.lookupLoan item patron) (s.lookupOverdueFine item patron)
  return { loan with loanPolicy := some loanPolicy, finePolicy := some finePolicy }

def attachAll (s : Sources) (page : List (Loan × Item × Patron)) : Session Shelf (List Loan) :=
  Session.all (page.map fun (loan, item, patron) => s.attach loan item patron)

end Sources

end Lending
