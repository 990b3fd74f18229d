import Lending.Opening
import Lending.Storage.Client

/-! # Opening days in storage -/

namespace Lending.Client

def openingDaysParameters (servicePoint : Json) (start finish : Instant) : List (Text × Text) :=
  let rest : List (Text × Text) :=
    [("startDate", start.wall.date.text), ("endDate", finish.wall.date.text),
     ("includeClosedDays", "false")]
  parameter "servicePointId" servicePoint ++ rest

def openingDaysOf (body : Json) : Result (List OpeningDay) := do
  (← (← body.memberD "openingPeriods" (.arr [])).items).mapM fun period => do
    OpeningDay.ofJson (← period.memberD "openingDay" (.obj []))

/-- The opening days from the date of one instant to that of another, each on its own wall clock. -/
def fetchOpeningDays (c : Client) (servicePoint : Json) (start finish : Instant) :
    Reply (List OpeningDay) := do
  let response ← c.get "/calendar/periods" (openingDaysParameters servicePoint start finish)
  if response.status = 404 then return []
  else if response.status ≠ 200 then
    Reply.fail (.broken (.fetchFailed "opening days" response.status response.text))
  else openingDaysOf (← bodyOf response)

end Lending.Client
