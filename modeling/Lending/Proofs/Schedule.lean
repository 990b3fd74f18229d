import Lending.Proofs.Policy.DueDate

/-! # Limits of schedules

A schedule limits a due date by the first band in table order that contains the loan date, and by
nothing else. Instants in several zones are in no common order, so that all of this is said of the
two instants that are compared.
-/

namespace Lending.Schedule

section Limits

variable [ZoneData] {s : Schedule} {b : Band} {x due : Instant} {ε : Type} {e e' : ε}

theorem limit_eq_error_iff (hs : s.bands ≠ []) :
    s.limit due x e = .error e' ↔ e' = e ∧ ∀ b ∈ s.bands, ¬ b.Contains x := by
  obtain ⟨b, hb⟩ | h := LoanPolicy.applies_or_outside s x
  · obtain ⟨c, hc, hx⟩ := exists_applies_iff.mp ⟨b, hb⟩
    rw [hb.limit_eq]
    constructor
    · rintro ⟨⟩
    · rintro ⟨-, h⟩
      exact absurd hx (h c hc)
  · rw [limit_of_outside h hs, Except.error.injEq]
    constructor
    · rintro rfl
      exact ⟨rfl, h⟩
    · rintro ⟨rfl, -⟩
      rfl

/-- A schedule with bands limits no due date of a loan that is made in none of them: its answer is
the given error, which is no answer otherwise. A loan that is made in some band has the first of
them, and its limit is the due date or that of the band, after neither of them. Limited again it
stays, and it is the same in every schedule that has this band and none before it for the loan. -/
theorem limit_by_first_band (s : Schedule) (due x : Instant) (e : ε) (hs : s.bands ≠ []) :
    (∀ e', s.limit due x e = .error e' ↔ e' = e ∧ ∀ b ∈ s.bands, ¬ b.Contains x) ∧
    ((∃ b ∈ s.bands, b.Contains x) → ∃ before b after, s.bands = before ++ b :: after ∧
      b.Contains x ∧ (∀ c ∈ before, ¬ c.Contains x) ∧
      ∃ r, s.limit due x e = .ok r ∧ (r = due ∨ r = b.due) ∧
        due.before r = false ∧ b.due.before r = false ∧ s.limit r x e = .ok r ∧
        ∀ before' after' id, (∀ c ∈ before', ¬ c.Contains x) →
          limit { bands := before' ++ b :: after', id } due x e = .ok r) := by
  refine ⟨fun e' => limit_eq_error_iff hs, fun h => ?_⟩
  obtain ⟨b, hb⟩ := exists_applies_iff.mpr h
  have ⟨before, after, hbands, hx, hbefore⟩ := hb
  refine ⟨before, b, after, hbands, hx, hbefore, due.earlier b.due, hb.limit_eq,
    due.earlier_eq_or b.due, due.not_before_earlier_left b.due, due.not_before_earlier b.due,
    ?_, ?_⟩
  · rw [hb.limit_eq, Instant.earlier_earlier]
  · intro before' after' id h'
    have hb' : Applies { bands := before' ++ b :: after', id } x b := ⟨before', after', rfl, hx, h'⟩
    exact hb'.limit_eq

end Limits

section Overlap

def winter : Band where
  first := LoanPolicy.newYorkMidnight 2026 1 1
  last := LoanPolicy.newYorkMidnight 2026 4 1
  due := LoanPolicy.newYorkMidnight 2026 3 20

def spring : Band where
  first := (LoanPolicy.newYorkMidnight 2026 3 1).inZone (.region "Europe/London")
  last := (LoanPolicy.newYorkMidnight 2026 7 1).inZone (.region "Europe/London")
  due := (LoanPolicy.newYorkMidnight 2026 6 30).inZone (.region "Europe/London")

attribute [local instance] ZoneData.of2026

theorem limit_by_first_band_of_overlapping :
    let s : Schedule := { bands := [winter, spring], id := .null }
    let due := LoanPolicy.newYorkMidnight 2026 5 1
    s.bands ≠ [] ∧ (∃ b ∈ s.bands, b.Contains LoanPolicy.marchNoon) ∧
    ∃ r, s.limit due LoanPolicy.marchNoon () = .ok r ∧
      s.limit r LoanPolicy.marchNoon () = .ok r ∧
      limit { bands := [winter], id := .null } due LoanPolicy.marchNoon () = .ok r := by
  intro s due
  have hs : s.bands ≠ [] := List.cons_ne_nil _ _
  have hw : winter.Contains LoanPolicy.marchNoon := ⟨by decide +kernel, by decide +kernel⟩
  have hex : ∃ b ∈ s.bands, b.Contains LoanPolicy.marchNoon := ⟨winter, by simp [s], hw⟩
  obtain ⟨before, b, after, hbands, hx, hbefore, r, hr, -, -, -, hagain, hother⟩ :=
    (limit_by_first_band s due LoanPolicy.marchNoon () hs).2 hex
  refine ⟨hs, hex, r, hr, hagain, ?_⟩
  cases before with
  | nil =>
    obtain ⟨rfl, -⟩ := List.cons.inj hbands
    exact hother [] [] .null (by simp)
  | cons c before =>
    obtain ⟨rfl, -⟩ := List.cons.inj hbands
    exact absurd hw (hbefore winter (by simp))

end Overlap

end Lending.Schedule
