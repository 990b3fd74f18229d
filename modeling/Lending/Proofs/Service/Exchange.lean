import Lending.Proofs.Reply
import Lending.Service.Exchange

/-! # Values that the service gives

A request gives a value when the answer to it is that value and nothing went wrong. This is so when
the work on its route ends in the value, and the value can be sent.
-/

namespace Lending

variable {v : Json} {route : Route} {s : Service} {r : Request}

/-- A request that comes to a route with a method that the route answers to. -/
def Request.Asks (r : Request) (route : Route) : Prop :=
  Route.ofPath? (Text.percentDecode r.path.toList) = some route ∧ r.method ∈ route.methods

namespace Answer

def Gives (a : Answer) (v : Json) : Prop := a.status = 200 ∧ a.body = .json v

variable {a : Answer} {id : String}

theorem gives_orUnforeseen_iff :
    a.orUnforeseen.Gives v ↔ a.Gives v ∧ v.writingFault? = none := by
  unfold orUnforeseen
  cases hw : a.body.isWritable with
  | true =>
    rw [if_pos rfl]
    constructor
    · rintro ⟨hs, hv⟩
      rw [hv, Body.isWritable, Option.isNone_iff_eq_none] at hw
      exact ⟨⟨hs, hv⟩, hw⟩
    · rintro ⟨hv, -⟩
      exact hv
  | false =>
    rw [if_neg (by simp)]
    constructor
    · rintro ⟨⟨⟩, -⟩
    · rintro ⟨⟨-, hv⟩, hn⟩
      rw [hv, Body.isWritable, hn] at hw
      cases hw

theorem gives_ofOutcome_iff {outcome : Outcome} :
    (ofOutcome id outcome).Gives v ↔ outcome = .ok v := by
  unfold Gives
  cases outcome <;> simp [ofOutcome]

theorem not_gives_ofFailure {e : Failure} : ¬ (ofFailure id e).Gives v := by
  rintro ⟨hs, hv⟩
  cases e with
  | forwarded status body => cases hv
  | data fault => cases hv
  | refused reason => cases hs
  | unapplied reason => cases hs
  | outage cause => cases hs
  | broken cause => cases hs

end Answer

theorem Reply.gives_exchange_iff {id : String} {x : Reply Outcome} :
    (x.exchange id).answer.Gives v ↔ x.answer = .ok (.ok v) ∧ v.writingFault? = none := by
  unfold Reply.exchange
  cases x.answer with
  | ok outcome =>
    rw [Answer.gives_orUnforeseen_iff, Answer.gives_ofOutcome_iff, Except.ok.injEq]
  | error e =>
    rw [Answer.gives_orUnforeseen_iff]
    simp [Answer.not_gives_ofFailure]

namespace Service

variable [ZoneData]

theorem exchange_of_asks (h : r.Asks route) (hp : route ≠ .page) :
    s.exchange r = (s.work r route).exchange (s.requestId r) := by
  obtain ⟨hr, hm⟩ := h
  -- Only pages can be asked for their head alone.
  have hh : r.method ≠ "HEAD" := by
    intro hh
    rw [hh] at hm
    cases route <;> simp_all [Route.methods]
  have hc : route.methods.contains r.method = true := List.contains_iff_mem.mpr hm
  unfold exchange exchangeAt
  rw [if_neg hh, hr]
  dsimp only
  rw [if_pos hc]

theorem gives_iff (h : r.Asks route) (hp : route ≠ .page) : (s.exchange r).answer.Gives v ↔
    (s.work r route).answer = .ok (.ok v) ∧ v.writingFault? = none := by
  rw [exchange_of_asks h hp, Reply.gives_exchange_iff]

end Service

end Lending
