import Lending.Calendar.Instant
import Lending.Calendar.InstantText
import Lending.Proofs.Result
import Mathlib.Algebra.Group.Nat.Defs
import Mathlib.Data.List.Induction

/-! # Written timestamps

A timestamp is a date, a character and a time of day, and it may end with an offset. Every form of
it is read as it was written: the clock shows the same with every offset and without one.
-/

namespace Lending

open Text (fixedDigits?)

theorem Text.ofDigits_lt {ds : List Nat} (h : ∀ d ∈ ds, d < 10) :
    ofDigits ds < 10 ^ ds.length := by
  induction ds using List.reverseRecOn with
  | nil => exact Nat.one_pos
  | append_singleton ds d ih =>
    have hd := h d (by simp)
    have hds := ih fun d hd => h d (List.mem_append_left _ hd)
    unfold ofDigits at *
    rw [List.foldl_append, List.length_append, List.length_singleton, Nat.pow_succ]
    dsimp only [List.foldl_cons, List.foldl_nil]
    omega

/-- A number that is written with exactly `k` digits. -/
structure Numeral (k : Nat) where
  digits : List (Fin 10)
  length_eq : digits.length = k

namespace Numeral

variable {k : Nat} {c : Char} {cs : List Char}

def digitChar (d : Fin 10) : Char := Char.ofNat (48 + d)

def text (n : Numeral k) : List Char := n.digits.map digitChar

def value (n : Numeral k) : Nat := Text.ofDigits (n.digits.map Fin.val)

@[simp] theorem asciiDigit?_digitChar (d : Fin 10) :
    Text.asciiDigit? (digitChar d) = some d.val := by
  revert d
  decide

@[simp] theorem isDigit_digitChar (d : Fin 10) : (digitChar d).isDigit = true := by
  revert d
  decide

theorem mapM_asciiDigit? (ds : List (Fin 10)) :
    (ds.map digitChar).mapM Text.asciiDigit? = some (ds.map Fin.val) := by
  induction ds with
  | nil => rfl
  | cons d ds ih => simp [ih]

@[simp] theorem length_text (n : Numeral k) : n.text.length = k := by
  rw [text, List.length_map, n.length_eq]

@[simp] theorem fixedDigits?_text (n : Numeral k) (cs : List Char) :
    fixedDigits? k (n.text ++ cs) = some (n.value, cs) := by
  have ht : (n.text ++ cs).take k = n.text := List.take_left' n.length_text
  have hd : (n.text ++ cs).drop k = cs := List.drop_left' n.length_text
  rw [fixedDigits?, ht, hd, text, mapM_asciiDigit?]
  simp [n.length_eq, value]

/-- A number begins with a digit, and so with nothing that a reader looks for in its place. -/
theorem text_append_ne_cons (n : Numeral (k + 1)) (hc : Text.asciiDigit? c = none)
    (cs cs' : List Char) : n.text ++ cs ≠ c :: cs' := by
  obtain ⟨_ | ⟨d, ds⟩, hl⟩ := n
  · cases hl
  · intro h
    obtain ⟨rfl, -⟩ := List.cons.inj h
    simp at hc

@[simp] theorem text_ne_nil (n : Numeral (k + 1)) : n.text ≠ [] :=
  List.ne_nil_of_length_pos (by simp)

@[simp] theorem text_append_ne_dash (n : Numeral (k + 1)) (cs cs' : List Char) :
    n.text ++ cs ≠ '-' :: cs' := n.text_append_ne_cons (by decide) cs cs'

@[simp] theorem text_append_ne_week (n : Numeral (k + 1)) (cs cs' : List Char) :
    n.text ++ cs ≠ 'W' :: cs' := n.text_append_ne_cons (by decide) cs cs'

@[simp] theorem text_append_ne_colon (n : Numeral (k + 1)) (cs cs' : List Char) :
    n.text ++ cs ≠ ':' :: cs' := n.text_append_ne_cons (by decide) cs cs'

theorem digitChar_ne_dash (d : Fin 10) : digitChar d ≠ '-' := by
  revert d
  decide

theorem exists_text_eq_append (n : Numeral (k + 1)) :
    ∃ (m : Numeral k) (d : Fin 10), n.text = m.text ++ [digitChar d] := by
  obtain ⟨ds, hl⟩ := n
  have hne : ds ≠ [] := by
    rintro rfl
    cases hl
  refine ⟨⟨ds.dropLast, by simp [hl]⟩, ds.getLast hne, ?_⟩
  calc ds.map digitChar
    _ = (ds.dropLast ++ [ds.getLast hne]).map digitChar := by rw [List.dropLast_concat_getLast]
    _ = ds.dropLast.map digitChar ++ [digitChar (ds.getLast hne)] := List.map_append

theorem fixedDigits?_of_other (hc : Text.asciiDigit? c = none) (k : Nat) (cs : List Char) :
    fixedDigits? (k + 1) (c :: cs) = none := by
  simp [fixedDigits?, hc]

end Numeral

/-- The ways to write a date that a time of day can follow, with dashes or without. -/
inductive DateForm where
  | calendar (dashed : Bool) (year : Numeral 4) (month day : Numeral 2)
  | week (dashed : Bool) (year : Numeral 4) (number : Numeral 2) (day : Numeral 1)
  | ordinal (dashed : Bool) (year : Numeral 4) (day : Numeral 3)

namespace DateForm

variable {c : Char}

def dash (dashed : Bool) : List Char := if dashed then ['-'] else []

def text : DateForm → List Char
  | calendar dashed year month day =>
    year.text ++ (dash dashed ++ (month.text ++ (dash dashed ++ day.text)))
  | week dashed year number day =>
    year.text ++ (dash dashed ++ 'W' :: (number.text ++ (dash dashed ++ day.text)))
  | ordinal dashed year day => year.text ++ (dash dashed ++ day.text)

def written : DateForm → Date.Written
  | calendar _ year month day => .calendar year.value month.value day.value
  | week _ year number day => .week year.value number.value day.value
  | ordinal _ year day => .ordinal year.value day.value

/-- An ASCII character that may follow the date. After the seven digits of a day of the year one
more digit would make a month and a day of them. -/
def Admits (d : DateForm) (c : Char) : Prop :=
  c.toNat < 128 ∧ match d with
    | ordinal false .. => Text.asciiDigit? c = none
    | _ => True

theorem calendarDate?_calendar (dashed : Bool) (year : Numeral 4) (month day : Numeral 2)
    (cs : List Char) : Date.calendarDate? ((calendar dashed year month day).text ++ cs) =
      some (.calendar year.value month.value day.value, cs) := by
  cases dashed <;> simp [text, dash, Date.calendarDate?]

theorem calendarDate?_week (dashed : Bool) (year : Numeral 4) (number : Numeral 2)
    (day : Numeral 1) (cs : List Char) :
    Date.calendarDate? ((week dashed year number day).text ++ cs) = none := by
  have hw := Numeral.fixedDigits?_of_other (c := 'W') (by decide) 1
  cases dashed <;> simp [text, dash, Date.calendarDate?, hw]

theorem calendarDate?_ordinal (dashed : Bool) (year : Numeral 4) (day : Numeral 3)
    (hc : (ordinal dashed year day).Admits c) (cs : List Char) :
    Date.calendarDate? ((ordinal dashed year day).text ++ c :: cs) = none := by
  obtain ⟨month, d, hd⟩ := day.exists_text_eq_append
  cases dashed with
  | true => simp [text, dash, Date.calendarDate?, hd, Numeral.digitChar_ne_dash]
  | false =>
    have ho : fixedDigits? 2 (Numeral.digitChar d :: c :: cs) = none := by
      simp [fixedDigits?, hc.2]
    simp [text, dash, Date.calendarDate?, hd, ho]

theorem otherDate?_week (dashed : Bool) (year : Numeral 4) (number : Numeral 2)
    (day : Numeral 1) (cs : List Char) :
    Date.otherDate? ((week dashed year number day).text ++ cs) =
      some (.week year.value number.value day.value, cs) := by
  cases dashed <;> simp [text, dash, Date.otherDate?, Date.weekDay?, Text.dropChar?]

theorem otherDate?_ordinal (dashed : Bool) (year : Numeral 4) (day : Numeral 3) (cs : List Char) :
    Date.otherDate? ((ordinal dashed year day).text ++ cs) =
      some (.ordinal year.value day.value, cs) := by
  cases dashed <;> simp [text, dash, Date.otherDate?]

theorem written?_text (d : DateForm) (hc : d.Admits c) (cs : List Char) :
    Date.written? (d.text ++ c :: cs) = some (d.written, c :: cs) := by
  unfold Date.written?
  cases d with
  | calendar => rw [calendarDate?_calendar]; rfl
  | week => rw [calendarDate?_week, otherDate?_week]; rfl
  | ordinal => rw [calendarDate?_ordinal _ _ _ hc, otherDate?_ordinal]; rfl

end DateForm

/-- The ways to end a timestamp with an offset, or without one. -/
inductive OffsetForm where
  | absent
  | universal (small : Bool)
  | hours (behind : Bool) (hour : Numeral 2) (hour_le : hour.value ≤ 23)
  | minutes (behind colon : Bool) (hour minute : Numeral 2) (hour_le : hour.value ≤ 23)
      (minute_le : minute.value ≤ 59)

namespace OffsetForm

def sign (behind : Bool) : Char := if behind then '-' else '+'

def text : OffsetForm → List Char
  | absent => []
  | universal small => [if small then 'z' else 'Z']
  | hours behind hour _ => sign behind :: hour.text
  | minutes behind colon hour minute .. =>
    sign behind :: (hour.text ++ ((if colon then [':'] else []) ++ minute.text))

def signed (behind : Bool) (minutes : Nat) : Int := if behind then -minutes else minutes

def value : OffsetForm → Option Int
  | absent => none
  | universal _ => some 0
  | hours behind hour _ => some (signed behind (hour.value * 60))
  | minutes behind _ hour minute .. => some (signed behind (hour.value * 60 + minute.value))

theorem offsetDigits?_hours (hour : Numeral 2) (h : hour.value ≤ 23) :
    Instant.offsetDigits? hour.text = some (hour.value * 60) := by
  have ht := hour.fixedDigits?_text []
  rw [List.append_nil] at ht
  simp [Instant.offsetDigits?, ht, h]

theorem offsetDigits?_minutes (colon : Bool) (hour minute : Numeral 2) (hh : hour.value ≤ 23)
    (hm : minute.value ≤ 59) :
    Instant.offsetDigits? (hour.text ++ ((if colon then [':'] else []) ++ minute.text)) =
      some (hour.value * 60 + minute.value) := by
  have ht := minute.fixedDigits?_text []
  rw [List.append_nil] at ht
  -- the side condition under which a match that has not found a colon goes on
  have hn (cs : List Char) : minute.text ≠ ':' :: cs := by
    simpa using minute.text_append_ne_colon [] cs
  cases colon <;> simp [Instant.offsetDigits?, ht, hh, hm]

theorem offset?_text (o : OffsetForm) : Instant.offset? o.text = some o.value := by
  cases o with
  | absent => rfl
  | universal small => cases small <;> rfl
  | hours behind hour h =>
    cases behind <;> simp [text, sign, Instant.offset?, offsetDigits?_hours hour h, value, signed]
  | minutes behind colon hour minute hh hm =>
    have hd := offsetDigits?_minutes colon hour minute hh hm
    cases behind <;> simp [text, sign, Instant.offset?, hd, value, signed]

end OffsetForm

/-- The ways to write a time of day, with colons or without. -/
inductive ClockForm where
  | hours (hour : Numeral 2)
  | minutes (colons : Bool) (hour minute : Numeral 2)
  | seconds (colons : Bool) (hour minute second : Numeral 2)
  | fraction (colons : Bool) (hour minute second : Numeral 2) (comma : Bool) (first : Fin 10)
      (rest : List (Fin 10))

namespace ClockForm

def colon (colons : Bool) : List Char := if colons then [':'] else []

def text : ClockForm → List Char
  | hours hour => hour.text
  | minutes colons hour minute => hour.text ++ (colon colons ++ minute.text)
  | seconds colons hour minute second =>
    hour.text ++ (colon colons ++ (minute.text ++ (colon colons ++ second.text)))
  | fraction colons hour minute second comma first rest =>
    hour.text ++ (colon colons ++ (minute.text ++ (colon colons ++ (second.text ++
      (if comma then ',' else '.') :: (first :: rest).map Numeral.digitChar))))

/-- What the clock shows. Digits after the sixth of a fraction do not count. -/
def time : ClockForm → Instant.WrittenTime
  | hours hour => { hour := hour.value }
  | minutes _ hour minute => { hour := hour.value, minute := minute.value }
  | seconds _ hour minute second =>
    { hour := hour.value, minute := minute.value, second := second.value }
  | fraction _ hour minute second _ first rest =>
    { hour := hour.value, minute := minute.value, second := second.value,
      micro := Text.millionths ((first :: rest).map Fin.val) }

variable {cs : List Char}

theorem startsOffset_digitChar (d : Fin 10) :
    Instant.startsOffset (Numeral.digitChar d) = false := by
  revert d
  decide

@[simp] theorem clockEnds_text_append {k : Nat} (n : Numeral (k + 1)) (cs : List Char) :
    Instant.clockEnds (n.text ++ cs) = false := by
  obtain ⟨_ | ⟨d, ds⟩, hl⟩ := n
  · cases hl
  · exact startsOffset_digitChar d

@[simp] theorem clockEnds_colon (cs : List Char) : Instant.clockEnds (':' :: cs) = false := rfl

theorem takeWhile_isDigit_and_fraction (hc : Instant.clockEnds cs = true) :
    cs.takeWhile Char.isDigit = [] ∧ Instant.fraction cs = (0, cs) := by
  cases cs with
  | nil => exact ⟨rfl, rfl⟩
  | cons c cs =>
    simp only [Instant.clockEnds, Instant.startsOffset, Bool.or_eq_true, beq_iff_eq] at hc
    obtain ((rfl | rfl) | rfl) | rfl := hc <;> exact ⟨rfl, rfl⟩

theorem takeWhile_isDigit (hc : Instant.clockEnds cs = true) : cs.takeWhile Char.isDigit = [] :=
  (takeWhile_isDigit_and_fraction hc).1

theorem dropWhile_isDigit (hc : Instant.clockEnds cs = true) : cs.dropWhile Char.isDigit = cs := by
  have h := List.takeWhile_append_dropWhile (p := Char.isDigit) (l := cs)
  rwa [takeWhile_isDigit hc] at h

theorem fraction_append (hc : Instant.clockEnds cs = true) (comma : Bool) (first : Fin 10)
    (rest : List (Fin 10)) :
    Instant.fraction ((if comma then ',' else '.') ::
        ((first :: rest).map Numeral.digitChar ++ cs)) =
      (Text.millionths ((first :: rest).map Fin.val), cs) := by
  have hd : ∀ c ∈ (first :: rest).map Numeral.digitChar, c.isDigit = true := by
    intro c hc
    obtain ⟨d, -, rfl⟩ := List.mem_map.mp hc
    exact Numeral.isDigit_digitChar d
  have hv : ((first :: rest).map Numeral.digitChar).filterMap Text.asciiDigit? =
      (first :: rest).map Fin.val := by
    have hs : Text.asciiDigit? ∘ Numeral.digitChar = some ∘ Fin.val :=
      funext Numeral.asciiDigit?_digitChar
    rw [List.filterMap_map, hs, List.filterMap_eq_map]
  unfold Instant.fraction
  dsimp only
  rw [List.takeWhile_append_of_pos hd, List.dropWhile_append_of_pos hd, takeWhile_isDigit hc,
    dropWhile_isDigit hc, List.append_nil, Instant.fractionMicros, hv]
  cases comma <;> rfl

theorem clock?_text (t : ClockForm) (hc : Instant.clockEnds cs = true) :
    Instant.clock? (t.text ++ cs) = some (t.time, cs) := by
  cases t with
  | hours hour => simp [text, time, Instant.clock?, hc]
  | minutes colons hour minute =>
    cases colons <;> simp [text, colon, time, Instant.clock?, Instant.afterHour?, hc]
  | seconds colons hour minute second =>
    cases colons <;>
      simp [text, colon, time, Instant.clock?, Instant.afterHour?, Text.dropChar?,
        (takeWhile_isDigit_and_fraction hc).2]
  | fraction colons hour minute second comma first rest =>
    have hf := fraction_append hc comma first rest
    cases colons <;>
      simp [text, colon, time, Instant.clock?, Instant.afterHour?, Text.dropChar?] at hf ⊢ <;>
      simp [hf]

theorem micro_time_lt (t : ClockForm) : t.time.micro < WallTime.microsPerSecond := by
  cases t with
  | hours | minutes | seconds => exact Nat.zero_lt_succ _
  | fraction _ _ _ _ _ first rest =>
    have hd : ∀ d ∈ (((first :: rest).map Fin.val ++ List.replicate 6 0).take 6), d < 10 := by
      intro d hd
      obtain hd | hd := List.mem_append.mp (List.mem_of_mem_take hd)
      · obtain ⟨d, -, rfl⟩ := List.mem_map.mp hd
        exact d.isLt
      · rw [List.eq_of_mem_replicate hd]
        decide
    have hl : (((first :: rest).map Fin.val ++ List.replicate 6 0).take 6).length = 6 := by simp
    calc Text.millionths ((first :: rest).map Fin.val)
      _ < 10 ^ (((first :: rest).map Fin.val ++ List.replicate 6 0).take 6).length :=
        Text.ofDigits_lt hd
      _ = WallTime.microsPerSecond := by rw [hl]; rfl

theorem two_le_length_text (t : ClockForm) : 2 ≤ t.text.length := by
  cases t <;> simp [text]

end ClockForm

theorem OffsetForm.clockEnds_text (o : OffsetForm) : Instant.clockEnds o.text = true := by
  cases o with
  | absent => rfl
  | universal small => cases small <;> rfl
  | hours behind => cases behind <;> rfl
  | minutes behind => cases behind <;> rfl

theorem ClockForm.time?_text (t : ClockForm) (o : OffsetForm) :
    Instant.time? (t.text ++ o.text) = some { t.time with offset := o.value } := by
  have hl : ¬ (t.text ++ o.text).length < 2 := by
    have ht := t.two_le_length_text
    rw [List.length_append]
    omega
  rw [Instant.time?, if_neg hl, clock?_text t o.clockEnds_text]
  simp [o.offset?_text]

section Ascii

def isAscii (c : Char) : Bool := c.toNat < 128

theorem Numeral.isAscii_digitChar (d : Fin 10) : isAscii (digitChar d) = true := by
  revert d
  decide

theorem Numeral.all_map_digitChar (ds : List (Fin 10)) :
    (ds.map digitChar).all isAscii = true := by
  rw [List.all_map, List.all_eq_true]
  exact fun d _ => isAscii_digitChar d

@[simp] theorem Numeral.all_text {k : Nat} (n : Numeral k) : n.text.all isAscii = true :=
  all_map_digitChar n.digits

theorem DateForm.all_text (d : DateForm) : d.text.all isAscii = true := by
  have hd : isAscii '-' = true := rfl
  have hw : isAscii 'W' = true := rfl
  cases d with
  | calendar dashed => cases dashed <;> simp [text, dash, hd]
  | week dashed => cases dashed <;> simp [text, dash, hd, hw]
  | ordinal dashed => cases dashed <;> simp [text, dash, hd]

theorem ClockForm.all_text (t : ClockForm) : t.text.all isAscii = true := by
  have hc (colons : Bool) : (colon colons).all isAscii = true := by cases colons <;> rfl
  cases t with
  | hours | minutes | seconds => simp [text, hc]
  | fraction colons hour minute second comma first rest =>
    have hp : isAscii (if comma then ',' else '.') = true := by cases comma <;> rfl
    have hd := Numeral.all_map_digitChar (first :: rest)
    simp only [text, List.all_append, List.all_cons, hc, hp, hd, Numeral.all_text, Bool.and_self]

theorem OffsetForm.all_text (o : OffsetForm) : o.text.all isAscii = true := by
  have hs (behind : Bool) : isAscii (sign behind) = true := by cases behind <;> rfl
  cases o with
  | absent => rfl
  | universal small => cases small <;> rfl
  | hours => simp [text, hs]
  | minutes behind colon =>
    have hc : isAscii ':' = true := rfl
    cases colon <;> simp [text, hs, hc]

end Ascii

namespace WallTime

theorem micros_eq_clock (w : WallTime) :
    w.micros = clock w.hour w.minute w.second w.micro := by
  unfold clock hour minute second micro
  unfold microsPerMinute microsPerSecond
  omega

theorem fields_clock (date : Date) (hour : Nat) {minute second micro : Nat} (hm : minute ≤ 59)
    (hs : second ≤ 59) (hu : micro < microsPerSecond) :
    let w : WallTime := { date, micros := clock hour minute second micro }
    w.hour = hour ∧ w.minute = minute ∧ w.second = second ∧ w.micro = micro := by
  unfold clock WallTime.hour WallTime.minute WallTime.second WallTime.micro
  unfold microsPerMinute microsPerSecond at *
  dsimp only
  omega

end WallTime

structure Timestamp where
  date : DateForm
  separator : Char
  clock : ClockForm
  admits : date.Admits separator

namespace Timestamp

def text (s : Timestamp) : List Char := s.date.text ++ s.separator :: s.clock.text

def withOffset (s : Timestamp) (o : OffsetForm) : List Char := s.text ++ o.text

/-- What the clock shows on a date: hour 24 is midnight at its end. -/
def clockOn (t : Instant.WrittenTime) (date : Date) : Except DateFault WallTime :=
  if t.hour = 24 ∧ t.minute = 0 ∧ t.second = 0 ∧ t.micro = 0 then
    (Date.ofNumber? (date.number + 1)).map fun next => { date := next, micros := 0 }
  else if t.hour ≤ 23 ∧ t.minute ≤ 59 ∧ t.second ≤ 59 then
    .ok { date, micros := WallTime.clock t.hour t.minute t.second t.micro }
  else .error .malformed

/-- A wall clock time has the fields that are written, or it is the midnight at the end of the date.
-/
inductive HasFields (t : Instant.WrittenTime) (date : Date) (w : WallTime) : Prop where
  | clock : w.date = date → w.hour = t.hour → w.minute = t.minute → w.second = t.second →
      w.micro = t.micro → t.hour ≤ 23 → HasFields t date w
  | midnight : t.hour = 24 → t.minute = 0 → t.second = 0 → t.micro = 0 →
      Date.ofNumber? (date.number + 1) = .ok w.date → w.micros = 0 → HasFields t date w

theorem clockOn_eq_ok_iff {t : Instant.WrittenTime} {date : Date} {w : WallTime}
    (ht : t.micro < WallTime.microsPerSecond) : clockOn t date = .ok w ↔ HasFields t date w := by
  unfold clockOn
  constructor
  · intro h
    split at h
    next h24 =>
      obtain ⟨hh, hm, hs, hu⟩ := h24
      cases hn : Date.ofNumber? (date.number + 1) with
      | error e =>
        rw [hn] at h
        cases h
      | ok next =>
        rw [hn] at h
        obtain rfl := Except.ok.inj h
        exact .midnight hh hm hs hu hn rfl
    next =>
      split at h
      next hin =>
        obtain rfl := Except.ok.inj h
        obtain ⟨hh, hm, hs, hu⟩ := WallTime.fields_clock date t.hour hin.2.1 hin.2.2 ht
        exact .clock rfl hh hm hs hu hin.1
      next => cases h
  · rintro (⟨rfl, hh, hm, hs, hu, hle⟩ | ⟨hh, hm, hs, hu, hn, hw⟩)
    · have hmin : t.minute ≤ 59 := by
        rw [← hm]
        exact Nat.le_of_lt_succ (Nat.mod_lt _ (by decide))
      have hsec : t.second ≤ 59 := by
        rw [← hs]
        exact Nat.le_of_lt_succ (Nat.mod_lt _ (by decide))
      rw [if_neg (by omega), if_pos ⟨hle, hmin, hsec⟩, ← hh, ← hm, ← hs, ← hu,
        ← WallTime.micros_eq_clock]
    · rw [if_pos ⟨hh, hm, hs, hu⟩, hn, Except.map, ← hw]

/-- What calendar and clock show at the time that is written, if there is one. -/
def wall (s : Timestamp) : Except DateFault WallTime := do
  clockOn s.clock.time (← s.date.written.date)

theorem wall_eq_ok_iff {s : Timestamp} {w : WallTime} : s.wall = .ok w ↔
    ∃ date, s.date.written.date = .ok date ∧ HasFields s.clock.time date w := by
  simp only [wall, bind_eq_ok_iff, clockOn_eq_ok_iff s.clock.micro_time_lt]

theorem ofWritten_eq (date : Date) (t : Instant.WrittenTime) :
    Instant.ofWritten date t = (clockOn t date).map fun wall => { wall, zone := t.zone } := by
  have hm : t.isMidnightAfter = true ↔
      t.hour = 24 ∧ t.minute = 0 ∧ t.second = 0 ∧ t.micro = 0 := by
    simp [Instant.WrittenTime.isMidnightAfter, and_assoc]
  unfold Instant.ofWritten clockOn
  by_cases h : t.hour = 24 ∧ t.minute = 0 ∧ t.second = 0 ∧ t.micro = 0
  · rw [if_pos (hm.mpr h), if_pos h]
    cases Date.ofNumber? (date.number + 1) <;> rfl
  · rw [if_neg (mt hm.mp h), if_neg h]
    split <;> rfl

theorem all_withOffset (s : Timestamp) (o : OffsetForm) : (s.withOffset o).all isAscii = true := by
  have hs : isAscii s.separator = true := decide_eq_true s.admits.1
  simp only [withOffset, text, List.all_append, List.all_cons, hs, DateForm.all_text,
    ClockForm.all_text, OffsetForm.all_text, Bool.and_self]

theorem ofChars_withOffset (s : Timestamp) (o : OffsetForm) :
    Instant.ofChars (s.withOffset o) = s.date.written.date >>= fun date =>
      Instant.ofWritten date { s.clock.time with offset := o.value } := by
  have hw := s.date.written?_text s.admits (s.clock.text ++ o.text)
  have ht := s.clock.time?_text o
  have hs : s.withOffset o = s.date.text ++ s.separator :: (s.clock.text ++ o.text) := by
    simp [withOffset, text]
  refine (if_pos (s.all_withOffset o)).trans ?_
  rw [hs, hw]
  dsimp only
  rw [ht]
  cases s.date.written <;> rfl

theorem ofChars_inZone (s : Timestamp) (o : OffsetForm) (zone : Zone) :
    (Instant.ofChars (s.withOffset o)).map (·.inZone zone) =
      s.wall.map fun wall => { wall, zone } := by
  rw [ofChars_withOffset, wall]
  cases s.date.written.date with
  | error e => rfl
  | ok date =>
    rw [ok_bind, ok_bind, ofWritten_eq]
    change Except.map _ (Except.map _ (clockOn s.clock.time date)) = _
    cases clockOn s.clock.time date <;> rfl

end Timestamp

end Lending
