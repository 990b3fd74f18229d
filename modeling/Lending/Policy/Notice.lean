import Lending.Json.Access
import Lending.Json.Agreement

/-! # Notice policies

Which template is sent on which event.
-/

namespace Lending

structure Notice where
  template : Json
  sendWhen : Json
  realTime : Json
deriving DecidableEq, Repr, Inhabited

structure NoticePolicy where
  id : Json
  name : Json
  active : Json
  loanNotices : List Notice
  requestNotices : List Notice
deriving DecidableEq, Repr, Inhabited

def Notice.ofJson (v : Json) : Result Notice := do
  let template ← v.required "templateId"
  let options := (← v.member "sendOptions").orEmpty
  let sendWhen ← options.member "sendWhen"
  return { template, sendWhen, realTime := ← v.memberD "realTime" (.bool false) }

namespace NoticePolicy

def noticesOfJson (v : Json) (name : Text) : Result (List Notice) := do
  (← (← v.memberD name (.arr [])).items).mapM Notice.ofJson

def ofJson (v : Json) : Result NoticePolicy := do
  let id ← v.required "id"
  let name ← v.memberD "name" (.str "")
  let active ← v.memberD "active" (.bool true)
  let loanNotices ← noticesOfJson v "loanNotices"
  let requestNotices ← noticesOfJson v "requestNotices"
  return { id, name, active, loanNotices, requestNotices }

def templatesFor (p : NoticePolicy) (event : Json) : List Json :=
  ((p.loanNotices ++ p.requestNotices).filter fun n => n.sendWhen.agrees event).map (·.template)

end NoticePolicy

end Lending
