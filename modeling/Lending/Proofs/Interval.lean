import Lending.Proofs.FineAmount
import Lending.Proofs.Text.Characters
import Lending.Proofs.Text.LowerCase
import Lending.Proofs.Text.Splitting

/-! # Names of intervals

A text names a unit if it is the unit's name, in letters of any case, with or without the `s` at its
end, and with any blanks around it. Every other text is tolerated: whatever its quantity, a period
with such an interval comes to nothing.
-/

namespace Lending

def Text.SameLetters (s t : Text) : Prop :=
  s.toList.map (·.mapChar Char.toLower) = t.toList.map (·.mapChar Char.toLower)

instance (s t : Text) : Decidable (s.SameLetters t) := inferInstanceAs (Decidable (_ = _))

namespace IntervalUnit

variable {s t : Text} {u v : IntervalUnit} {cs w : List Char}

/-- A text of characters that are the unit's name or lack only the `s` at its end, once the blanks
around them are gone and all letters are small. -/
def Names (t : Text) (u : IntervalUnit) : Prop :=
  ∃ cs, t = .ofChars cs ∧
    (Text.lowerCase (Text.strip cs) = Text.lowerCase u.name.toList ∨
      Text.lowerCase (Text.strip cs) ++ ['s'] = Text.lowerCase u.name.toList)

section Letters

theorem lowerChar_toLower (c : Char) : lowerChar c.toLower = lowerChar c :=
  Text.apply_toLower (by decide) c

theorem isBlank_toLower (c : Char) : Text.isBlank c.toLower = Text.isBlank c :=
  Text.apply_toLower (by decide) c

theorem strip_map_toLower (cs : List Char) :
    Text.strip (cs.map Char.toLower) = (Text.strip cs).map Char.toLower := by
  have hb : Text.isBlank ∘ Char.toLower = Text.isBlank := funext isBlank_toLower
  rw [Text.strip, Text.stripBy_map, hb, Text.strip]

theorem normalForm_map_toLower (cs : List Char) :
    normalForm (cs.map Char.toLower) = normalForm cs := by
  have hl : lowerChar ∘ Char.toLower = lowerChar := funext lowerChar_toLower
  simp only [normalForm, strip_map_toLower, List.map_map, hl]

theorem small_eq_iff {a c : Char} (ha : a.toNat < 128) : Text.small c = a ↔ lowerChar c = a := by
  by_cases hk : c = '\u212a'
  · subst hk
    rfl
  rw [lowerChar, if_neg hk]
  by_cases hc : c.toNat < 128
  · rw [Text.small_of_ascii hc]
  · have hs := Text.small_beyond (Nat.not_lt.mp hc) hk
    rw [Text.toLower_of_beyond (Nat.not_lt.mp hc)]
    refine iff_of_false ?_ ?_
    · rintro rfl
      omega
    · rintro rfl
      exact hc ha

theorem lowerCase_eq_iff (hw : ∀ a ∈ w, a.toNat < 128) :
    Text.lowerCase cs = w ↔ cs.map lowerChar = w := by
  rw [Text.lowerCase_eq_iff hw]
  induction cs generalizing w with
  | nil => rfl
  | cons c cs ih =>
    cases w with
    | nil => simp
    | cons a w =>
      obtain ⟨ha, hw⟩ := List.forall_mem_cons.mp hw
      rw [List.map_cons, List.map_cons, List.cons.injEq, List.cons.injEq, small_eq_iff ha, ih hw]

end Letters

section Recognition

theorem lowerName_ascii (u : IntervalUnit) : ∀ a ∈ u.lowerName.toList, a.toNat < 128 := by
  cases u <;> simp [lowerName]

theorem lowerCase_name (u : IntervalUnit) :
    Text.lowerCase u.name.toList = u.lowerName.toList := by
  rw [lowerCase_eq_iff u.lowerName_ascii]
  cases u <;> decide

theorem exists_stem (u : IntervalUnit) :
    ∃ stem, u.lowerName.toList = stem ++ ['s'] ∧ stem.getLast? ≠ some 's' := by
  refine ⟨u.lowerName.toList.dropLast, ?_⟩
  cases u <;> decide

theorem normalForm_eq_iff : normalForm cs = u.lowerName.toList ↔
    Text.lowerCase (Text.strip cs) = u.lowerName.toList ∨
      Text.lowerCase (Text.strip cs) ++ ['s'] = u.lowerName.toList := by
  obtain ⟨stem, hu, hs⟩ := exists_stem u
  have ha : ∀ a ∈ stem ++ ['s'], a.toNat < 128 := hu ▸ u.lowerName_ascii
  have hstem : ∀ a ∈ stem, a.toNat < 128 := fun a h => ha a (List.mem_append_left _ h)
  rw [hu, List.append_left_inj, lowerCase_eq_iff ha, lowerCase_eq_iff hstem, normalForm]
  generalize (Text.strip cs).map lowerChar = word
  -- The name ends with one `s` only, so a word with an `s` is not the stem, and one without it is
  -- not the name.
  split
  next hl =>
    have hn : word ≠ stem := fun h => hs (h ▸ hl)
    simp [hn]
  next hl =>
    have hn : word ≠ stem ++ ['s'] := fun h => hl (by simp [h])
    simp [hn]

theorem find?_all_eq_some_iff : (all.find? fun u => w = u.lowerName.toList) = some u ↔
    w = u.lowerName.toList := by
  constructor
  · intro h
    simpa using List.find?_some h
  · rintro rfl
    cases u <;> decide

theorem ofText?_eq (t : Text) : ofText? t =
    t.chars?.bind fun cs => all.find? fun u => normalForm cs = u.lowerName.toList := rfl

theorem ofText?_eq_some_iff : ofText? t = some u ↔ Names t u := by
  simp only [ofText?_eq, Option.bind_eq_some_iff, Text.chars?_eq_some_iff, find?_all_eq_some_iff]
  simp only [normalForm_eq_iff, Names, lowerCase_name]

theorem Names.unique (hu : Names t u) (hv : Names t v) : u = v :=
  Option.some.inj ((ofText?_eq_some_iff.mpr hu).symm.trans (ofText?_eq_some_iff.mpr hv))

theorem ofText?_eq_none_iff : ofText? t = none ↔ ∀ u, ¬ Names t u := by
  simp only [← ofText?_eq_some_iff, Option.eq_none_iff_forall_ne_some, ne_eq]

theorem ofText?_between_blanks {before after : List Char} (hb : ∀ c ∈ before, Text.isBlank c)
    (ha : ∀ c ∈ after, Text.isBlank c) :
    ofText? (.ofChars before ++ t ++ .ofChars after) = ofText? t := by
  have hn (cs : List Char) : normalForm (before ++ cs ++ after) = normalForm cs := by
    rw [normalForm, Text.strip, Text.stripBy_append_gaps ha, Text.stripBy_gaps_append hb]
    rfl
  rw [ofText?_eq, ofText?_eq, Text.chars?_between, Option.bind_map]
  simp only [Function.comp_def, hn]

theorem ofText?_of_sameLetters (h : Text.SameLetters s t) : ofText? s = ofText? t := by
  have hs (t : Text) : ofText? t = ofText? (.ofList (t.toList.map (·.mapChar Char.toLower))) := by
    rw [ofText?_eq, ofText?_eq, Text.chars?, Text.chars?, Text.charsOf?_map_mapChar,
      Option.bind_map]
    simp only [Function.comp_def, normalForm_map_toLower]
  rw [hs s, hs t, h]

theorem ofJson_str (t : Text) : ofJson (.str t) = .ok (ofText? t) := by
  by_cases h : (Json.str t).counts = true
  · rw [ofJson, Json.textIfAny, if_pos h]
    rfl
  · obtain ⟨xs⟩ := t
    obtain rfl : xs = [] := by simpa [Json.counts] using h
    decide

end Recognition

end IntervalUnit

namespace Period

variable {p : Period}

/-- A period that lasts no minutes, leaves every instant where it is, waives no minutes of a late
loan as the grace period of its policy, and charges nothing as the interval of its rate. -/
structure HasNoEffect (p : Period) : Prop where
  toMinutes_eq : p.toMinutes = 0
  addTo_eq : ∀ x, p.addTo x = .ok x
  afterGrace_eq : ∀ (l : Loan) policy, l.loanPolicy = some policy → policy.gracePeriod = some p →
    ∀ minutes, l.afterGrace minutes = minutes
  not_waives : ∀ (l : Loan) policy, l.loanPolicy = some policy → policy.gracePeriod = some p →
    ∀ minutes, l.waives minutes = false
  overdueMinutes_eq : ∀ [ZoneData] (l : Loan) policy, l.loanPolicy = some policy →
    policy.gracePeriod = some p → ∀ calendar due now, l.overdueSince? now = some due →
      l.overdueMinutes calendar now = some <$> l.lateMinutes calendar due now
  fine_eq : ∀ (l : Loan) policy rate, l.finePolicy = some policy →
    (policy.terms l.recalled).1 = some rate → rate.interval = p →
    ∀ minutes, l.fine minutes = .ok .zeroCents
  fineForParts_eq : ∀ (l : Loan) policy rate, l.finePolicy = some policy →
    (policy.terms l.recalled).1 = some rate → rate.interval = p →
    ∀ minutes, l.fineForParts minutes = .ok .zeroCents

theorem graceMinutes_of_toMinutes {l : Loan} {policy : LoanPolicy} (h : p.toMinutes = 0)
    (hl : l.loanPolicy = some policy) (hp : policy.gracePeriod = some p) : l.graceMinutes = 0 := by
  simp [Loan.graceMinutes, hl, LoanPolicy.graceMinutes, hp, h]

theorem hasNoEffect_of_unit (hu : p.unit = none) : p.HasNoEffect := by
  have h0 : p.toMinutes = 0 := by simp [toMinutes, hu]
  have hgrace (l : Loan) (policy : LoanPolicy) (hl : l.loanPolicy = some policy)
      (hp : policy.gracePeriod = some p) (minutes : Int) : l.afterGrace minutes = minutes := by
    simp [Loan.afterGrace, graceMinutes_of_toMinutes h0 hl hp]
  refine ⟨h0, fun x => by simp [addTo, hu], hgrace, ?_, ?_, ?_, ?_⟩
  · intro l policy hl hp minutes
    simp [Loan.waives, graceMinutes_of_toMinutes h0 hl hp]
  · intro _ l policy hl hp calendar due now hd
    unfold Loan.overdueMinutes
    simp only [hd, hgrace l policy hl hp]
    rfl
  · rintro l policy rate hl hr rfl minutes
    exact Loan.fine_of_interval_zero hl (by simpa [hr] using h0)
  · rintro l policy rate hl hr rfl minutes
    simp [Loan.fineForParts, hl, hr, h0]

theorem quantityOf_int (n : Int) : quantityOf (.int n) = .ok n := by
  by_cases h : n = 0
  · subst h
    rfl
  · simp [quantityOf, Json.counts, h]

theorem make_eq_ok_iff {n : Int} {unit : Option IntervalUnit} :
    make n unit = .ok p ↔ 0 ≤ n ∧ p = { quantity := n.toNat, unit } := by
  unfold make
  split
  next h => exact iff_of_false (fun h => nomatch h) fun h' => Int.not_lt.mpr h'.1 h
  next h => simp [Int.not_lt.mp h, eq_comm]

theorem ofValues_str_eq_ok_iff {t : Text} {quantity : Json} :
    ofValues quantity (.str t) = .ok p ↔ ∃ n : Nat, quantityOf quantity = .ok (n : Int) ∧
      p = { quantity := n, unit := IntervalUnit.ofText? t } := by
  simp only [ofValues, IntervalUnit.ofJson_str, bind_eq_ok_iff, ok_bind, make_eq_ok_iff]
  constructor
  · rintro ⟨n, hq, h0, rfl⟩
    exact ⟨n.toNat, by rwa [Int.toNat_of_nonneg h0], rfl⟩
  · rintro ⟨n, hq, rfl⟩
    exact ⟨n, hq, by simp, rfl⟩

theorem unit_of_ofJson {t : Text} {v : Json} (hv : v.member "intervalId" = .ok (.str t))
    (hp : ofJson v = .ok (some p)) : p.unit = IntervalUnit.ofText? t := by
  unfold ofJson at hp
  split at hp
  · cases hp
  · simp only [bind_eq_ok_iff, pure_eq_ok_iff, hv, ok_bind] at hp
    obtain ⟨duration, -, p', hp, h⟩ := hp
    obtain rfl := Option.some.inj h
    obtain ⟨n, -, rfl⟩ := ofValues_str_eq_ok_iff.mp hp
    rfl

theorem unit_of_rate {t : Text} {v : Json} {rate : FineRate}
    (hv : v.member "intervalId" = .ok (.str t)) (hr : FineRate.ofJson v = .ok (some rate)) :
    rate.interval.unit = IntervalUnit.ofText? t := by
  unfold FineRate.ofJson at hr
  split at hr
  · cases hr
  · simp only [bind_eq_ok_iff, pure_eq_ok_iff, hv, ok_bind] at hr
    obtain ⟨_, -, amount, -, p, hp, h⟩ := hr
    obtain rfl := Option.some.inj h
    obtain ⟨n, -, rfl⟩ := ofValues_str_eq_ok_iff.mp hp
    rfl

end Period

namespace IntervalUnit

/-- A text is read as the one unit that it names, however blanks stand around it and whatever the
case of its letters. Where it names none, a period with that interval has no effect: not one of any
quantity, nor the period or the rate of a record that has the text for its interval. -/
theorem named_or_no_effect (t : Text) :
    ofJson (.str t) = .ok (ofText? t) ∧
    (∀ u, ofText? t = some u ↔ Names t u) ∧
    (∀ u v, Names t u → Names t v → u = v) ∧
    (∀ before after : List Char, (∀ c ∈ before, Text.isBlank c) → (∀ c ∈ after, Text.isBlank c) →
      ofText? (.ofChars before ++ t ++ .ofChars after) = ofText? t) ∧
    (∀ s : Text, s.SameLetters t → ofText? s = ofText? t) ∧
    ((∀ u, ¬ Names t u) →
      (∀ (quantity : Json) (n : Nat), Period.quantityOf quantity = .ok (n : Int) →
        ∃ p, Period.ofValues quantity (.str t) = .ok p ∧ p.quantity = n ∧ p.HasNoEffect) ∧
      ∀ v : Json, v.member "intervalId" = .ok (.str t) →
        (∀ p, Period.ofJson v = .ok (some p) → p.HasNoEffect) ∧
        ∀ rate, FineRate.ofJson v = .ok (some rate) → rate.interval.HasNoEffect) := by
  refine ⟨ofJson_str t, fun u => ofText?_eq_some_iff, fun u v => Names.unique,
    fun before after => ofText?_between_blanks, fun s => ofText?_of_sameLetters, ?_⟩
  intro h
  rw [← ofText?_eq_none_iff] at h
  refine ⟨fun quantity n hq => ?_, fun v hv => ⟨fun p hp => ?_, fun rate hr => ?_⟩⟩
  · exact ⟨_, Period.ofValues_str_eq_ok_iff.mpr ⟨n, hq, rfl⟩, rfl, Period.hasNoEffect_of_unit h⟩
  · exact Period.hasNoEffect_of_unit ((Period.unit_of_ofJson hv hp).trans h)
  · exact Period.hasNoEffect_of_unit ((Period.unit_of_rate hv hr).trans h)

def fortnights : Json := .obj [("duration", .int 2), ("intervalId", .str "fortnight")]

def perFortnight : Json := .obj [("quantity", .str "0.10"), ("intervalId", .str "fortnight")]

theorem named_or_no_effect_of_fortnight :
    Names "wee\u212a" .weeks ∧ (∀ c ∈ [' '], Text.isBlank c) ∧
    (∀ c ∈ ['\u3000', '\n'], Text.isBlank c) ∧
    ofText? (.ofChars [' '] ++ "wee\u212a" ++ .ofChars ['\u3000', '\n']) = some .weeks ∧
    Text.SameLetters "WEe\u212a" "wee\u212a" ∧ ofText? "WEe\u212a" = some .weeks ∧
    (∀ u, ¬ Names "fortnight" u) ∧ Period.quantityOf (.int 2) = .ok 2 ∧
    (∃ p, Period.ofValues (.int 2) (.str "fortnight") = .ok p ∧ p.quantity = 2 ∧
      p.HasNoEffect) ∧
    (∃ p, Period.ofJson fortnights = .ok (some p) ∧ p.HasNoEffect) ∧
    ∃ rate, FineRate.ofJson perFortnight = .ok (some rate) ∧ rate.interval.HasNoEffect := by
  have hweek : ofText? "wee\u212a" = some .weeks := by decide +kernel
  have hnone : ofText? "fortnight" = none := by decide +kernel
  have hblank : ∀ c ∈ [' '], Text.isBlank c := by simp [Text.isBlank]
  have hblanks : ∀ c ∈ ['\u3000', '\n'], Text.isBlank c := by simp [Text.isBlank]
  have hsame : Text.SameLetters "WEe\u212a" "wee\u212a" := by decide +kernel
  obtain ⟨-, hnames, -, hbetween, hcase, -⟩ := named_or_no_effect "wee\u212a"
  obtain ⟨-, hnames', -, -, -, heffect⟩ := named_or_no_effect "fortnight"
  have hother (u : IntervalUnit) : ¬ Names "fortnight" u := by
    rw [← hnames', hnone]
    exact nofun
  have hq : Period.quantityOf (.int 2) = .ok 2 := Period.quantityOf_int 2
  obtain ⟨hvalues, hrecord⟩ := heffect hother
  refine ⟨(hnames .weeks).mp hweek, hblank, hblanks, (hbetween _ _ hblank hblanks).trans hweek,
    hsame, (hcase _ hsame).trans hweek, hother, hq, hvalues (.int 2) 2 hq, ?_, ?_⟩
  · exact ⟨{ quantity := 2, unit := none }, by decide,
      (hrecord fortnights (by decide)).1 _ (by decide)⟩
  · exact ⟨{ amount := .finite false 10 (-2), interval := { quantity := 1, unit := none } },
      by decide, (hrecord perFortnight (by decide)).2 _ (by decide)⟩

end IntervalUnit

end Lending
