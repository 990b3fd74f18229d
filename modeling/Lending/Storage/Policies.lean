import Lending.Storage.Client

/-! # Policies and schedules in storage -/

namespace Lending.Client

def policyPath : PolicyKind → String
  | .loan => "/loan-policy-storage/loan-policies"
  | .request => "/request-policy-storage/request-policies"
  | .notice => "/patron-notice-policy-storage/patron-notice-policies"
  | .overdueFine => "/overdue-fines-policies"
  | .lostItemFee => "/lost-item-fees-policies"

/-- The body of a policy, null where storage has none. Failures are counted. -/
def fetchPolicy (c : Client) (kind : PolicyKind) (id : Json) : Reply Json :=
  let path := policyPath kind ++ "/" ++ id.inline
  let record := c.fetchRecord path s!"{kind.name} policy" (.ok .null)
  record.onFailure (.counted (.policyFetchFailed kind) 1)

def schedulesPath : String := "/fixed-due-date-schedule-storage/fixed-due-date-schedules"

/-- The body of a fixed due date schedule, null where storage has none. -/
def fetchSchedule (c : Client) (id : Json) : Reply Json :=
  c.fetchRecord (schedulesPath ++ "/" ++ id.inline) "fixed due date schedule" (.ok .null)

end Lending.Client
