import Lending.Proofs.Calendar.Span
import Lending.Proofs.Calendar.Timestamp
import Lending.Proofs.Text.Characters
import Lending.Schedule

/-! # Bands keep their written times

The ends and the due date of a band show in the zone of the schedule what their timestamps show,
whatever offsets these are written with. So the offsets change neither the schedule nor anything
that it limits.
-/

namespace Lending

section Texts

theorem Result.ofDate_bind {α β : Type} (x : Except DateFault α) (f : α → Except DateFault β) :
    ofDate (x >>= f) = ofDate x >>= fun a => ofDate (f a) := by
  cases x <;> rfl

theorem Instant.ofJson_str {cs : List Char} (h : cs ≠ []) :
    ofJson (.str (.ofChars cs)) = (Result.ofDate (ofChars cs)).map some := by
  have hc : (Json.str (.ofChars cs)).counts = true := by
    cases cs with
    | nil => exact absurd rfl h
    | cons => rfl
  simp only [ofJson, Json.size?, Json.textIfAny, hc, Option.any_none]
  rw [if_neg (by simp), if_pos trivial, ok_bind]
  dsimp only
  rw [Text.chars?_ofChars]
  change Result.ofDate (ofChars cs) >>= (fun x => pure (some x)) = _
  cases ofChars cs <;> rfl

end Texts

section Timestamps

variable {s : Timestamp} {zone : Zone} {x : Instant}

/-- The instant has in the zone the date and the clock that the timestamp is written with. -/
def Timestamp.Shows (s : Timestamp) (zone : Zone) (x : Instant) : Prop :=
  (∃ date, s.date.written.date = .ok date ∧ HasFields s.clock.time date x.wall) ∧ x.zone = zone

/-- A timestamp, with its offset left out, in a zone. -/
def Timestamp.inZone (s : Timestamp) (zone : Zone) : Except DateFault Instant :=
  s.wall.map fun wall => { wall, zone }

theorem Timestamp.inZone_eq_ok_iff : s.inZone zone = .ok x ↔ s.Shows zone x := by
  unfold inZone Shows
  rw [← wall_eq_ok_iff]
  cases s.wall with
  | error e => simp [Except.map]
  | ok wall =>
    simp only [Except.map, Except.ok.injEq]
    constructor
    · rintro rfl
      exact ⟨rfl, rfl⟩
    · rintro ⟨rfl, rfl⟩
      rfl

theorem Timestamp.withOffset_ne_nil (s : Timestamp) (o : OffsetForm) : s.withOffset o ≠ [] := by
  simp [withOffset, text]

theorem Schedule.endInZone_withOffset (s : Timestamp) (o : OffsetForm) (zone : Zone) :
    endInZone zone (.str (.ofChars (s.withOffset o))) = Result.ofDate (s.inZone zone) := by
  rw [endInZone, Instant.ofJson_str (s.withOffset_ne_nil o), Timestamp.inZone,
    ← s.ofChars_inZone o zone]
  cases Instant.ofChars (s.withOffset o) <;> rfl

end Timestamps

/-- A band as it is written, with its offsets left out. -/
structure WrittenBand where
  first : Timestamp
  last : Timestamp
  due : Timestamp

namespace WrittenBand

variable {w : WrittenBand} {zone : Zone} {v : Json} {b : Band}

/-- A member of a record is a timestamp, with some offset or with none. -/
def IsMember (s : Timestamp) (v : Json) (name : Text) : Prop :=
  ∃ o, v.required name = .ok (.str (.ofChars (s.withOffset o)))

/-- The record of a band has its timestamps, each with some offset or with none. -/
structure IsIn (w : WrittenBand) (v : Json) : Prop where
  first : IsMember w.first v "from"
  last : IsMember w.last v "to"
  due : IsMember w.due v "due"

structure Shows (w : WrittenBand) (zone : Zone) (b : Band) : Prop where
  first : w.first.Shows zone b.first
  last : w.last.Shows zone b.last
  due : w.due.Shows zone b.due

def inZone (w : WrittenBand) (zone : Zone) : Except DateFault Band := do
  let first ← w.first.inZone zone
  let last ← w.last.inZone zone
  let due ← w.due.inZone zone
  return { first, last, due }

theorem inZone_eq_ok_iff : w.inZone zone = .ok b ↔ w.Shows zone b := by
  simp only [inZone, bind_eq_ok_iff, pure_eq_ok_iff, Timestamp.inZone_eq_ok_iff]
  constructor
  · rintro ⟨_, hf, _, hl, _, hd, rfl⟩
    exact ⟨hf, hl, hd⟩
  · rintro ⟨hf, hl, hd⟩
    exact ⟨_, hf, _, hl, _, hd, rfl⟩

theorem IsIn.bandOfJson_eq (h : w.IsIn v) (zone : Zone) :
    Schedule.bandOfJson zone v = Result.ofDate (w.inZone zone) := by
  obtain ⟨⟨_, hf⟩, ⟨_, hl⟩, ⟨_, hd⟩⟩ := h
  simp only [Schedule.bandOfJson, hf, hl, hd, ok_bind, Schedule.endInZone_withOffset, inZone,
    Result.ofDate_bind]
  rfl

end WrittenBand

namespace Schedule

variable {v v' id : Json} {bands : List WrittenBand} {zone : Zone} {s : Schedule}

/-- The record of a schedule with an id has the written bands, with some offsets. -/
structure Writes (v id : Json) (bands : List WrittenBand) : Prop where
  id_eq : v.member "id" = .ok id
  bands : ∃ records, v.memberD "schedules" (.arr []) = .ok (.arr records) ∧
    List.Forall₂ WrittenBand.IsIn bands records

def ofWritten (zone : Zone) (id : Json) (bands : List WrittenBand) : Result Schedule := do
  return { bands := ← bands.mapM fun w => Result.ofDate (w.inZone zone), id }

theorem mapM_bandOfJson {records : List Json} (h : List.Forall₂ WrittenBand.IsIn bands records)
    (zone : Zone) : records.mapM (bandOfJson zone) =
      bands.mapM fun w => Result.ofDate (w.inZone zone) := by
  induction h with
  | nil => rfl
  | cons hw _ ih => rw [List.mapM_cons, List.mapM_cons, hw.bandOfJson_eq, ih]

/-- Nothing of a record matters but its id and what its bands show. -/
theorem Writes.ofJson_eq (h : Writes v id bands) (zone : Zone) :
    ofJson zone v = ofWritten zone id bands := by
  obtain ⟨hid, records, hr, hb⟩ := h
  have hv : v ≠ .null := by
    rintro rfl
    cases hr
  rw [ofJson]
  · rw [hr, ok_bind, Json.items, ok_bind, mapM_bandOfJson hb, hid]
    rfl
  · exact hv

theorem ofWritten_eq_ok_iff : ofWritten zone id bands = .ok s ↔
    s.id = id ∧ List.Forall₂ (fun w b => w.Shows zone b) bands s.bands := by
  simp only [ofWritten, bind_eq_ok_iff, pure_eq_ok_iff, mapM_eq_ok_iff, Result.ofDate,
    mapError_eq_ok_iff, WrittenBand.inZone_eq_ok_iff]
  constructor
  · rintro ⟨_, hb, rfl⟩
    exact ⟨rfl, hb⟩
  · rintro ⟨rfl, hb⟩
    exact ⟨_, hb, rfl⟩

section Spring

/-- A band of the spring of 2026. It begins at half past two on the night that New York skips that
hour, it ends with a Sunday, and its due date is the ninetieth day of the year. -/
def springBand : WrittenBand where
  first :=
    { date := .calendar true ⟨[2, 0, 2, 6], rfl⟩ ⟨[0, 3], rfl⟩ ⟨[0, 8], rfl⟩
      separator := 'T'
      clock := .minutes true ⟨[0, 2], rfl⟩ ⟨[3, 0], rfl⟩
      admits := ⟨by decide, trivial⟩ }
  last :=
    { date := .week true ⟨[2, 0, 2, 6], rfl⟩ ⟨[1, 2], rfl⟩ ⟨[7], rfl⟩
      separator := ' '
      clock := .hours ⟨[2, 4], rfl⟩
      admits := ⟨by decide, trivial⟩ }
  due :=
    { date := .ordinal false ⟨[2, 0, 2, 6], rfl⟩ ⟨[0, 9, 0], rfl⟩
      separator := 'T'
      clock := .fraction false ⟨[2, 3], rfl⟩ ⟨[5, 9], rfl⟩ ⟨[5, 9], rfl⟩ true 9 [9]
      admits := ⟨by decide, rfl⟩ }

def springRecord (first last due : Text) : Json :=
  .obj [("id", .str "spring"),
    ("schedules", .arr [.obj [("from", .str first), ("to", .str last), ("due", .str due)]])]

attribute [local instance] ZoneData.of2026

end Spring

end Schedule

end Lending
