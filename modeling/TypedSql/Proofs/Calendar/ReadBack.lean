import TypedSql.Calendar.Rfc3339
import TypedSql.Proofs.Text.Trim

namespace TypedSql

open Text

/-! Dates, times and timestamps are read back from the text they were written as. -/

variable {rest : List Char}

theorem Text.expect?_cons (c : Char) (cs : List Char) : expect? c (c :: cs) = some cs :=
  if_pos rfl

theorem Text.endsDigits_cons {c : Char} (hother : c.isDigit = false) (cs : List Char) :
    EndsDigits (c :: cs) := by
  intro d hd
  obtain rfl : c = d := by simpa using hd
  exact hother

theorem Text.endsDigits_nil : EndsDigits [] := by
  intro d hd
  cases hd

theorem bind_of_eq_some {α β : Type} {o : Option α} {f : α → Option β} {a : α} {b : Option β}
    (hfirst : o = some a) (hnext : f a = b) : o >>= f = b := by
  rw [hfirst]
  exact hnext

namespace Date

theorem day_lt (d : Date) : d.day < 10 ^ 2 := by
  have hbound := d.day_range.2
  unfold daysInMonth at hbound
  split at hbound
  · split at hbound <;> omega
  · split at hbound <;> omega

theorem month_lt (d : Date) : d.month < 10 ^ 2 := by
  have hbound := d.month_range.2
  omega

theorem year_lt (d : Date) : d.year.natAbs < 10 ^ 4 := by
  have hbound := d.year_range
  omega

theorem ofParts?_parts (d : Date) : ofParts? d.year d.month d.day = some d :=
  dif_pos ⟨d.year_range, d.month_range, d.day_range⟩

theorem take?_write (d : Date) (rest : List Char) : take? (d.write ++ rest) = some (d, rest) := by
  have hyear := takeExactly?_padded (by decide) d.year_lt
  have hmonth := takeExactly?_padded (by decide) d.month_lt
  have hday := takeExactly?_padded (by decide) d.day_lt
  have hvalue : (if decide (d.year < 0) then -(d.year.natAbs : Int) else d.year.natAbs) =
      d.year := by
    simp only [decide_eq_true_eq]
    split <;> omega
  have hdate := d.ofParts?_parts
  unfold take? write
  split
  next negative body hsigned =>
    obtain ⟨rfl, rfl⟩ : negative = decide (d.year < 0) ∧ body = padded 4 d.year.natAbs ++
        '-' :: (padded 2 d.month ++ '-' :: (padded 2 d.day ++ rest)) := by
      simp only [List.append_assoc, List.cons_append] at hsigned
      by_cases hbefore : d.year < 0
      · rw [if_pos hbefore] at hsigned
        cases hsigned
        exact ⟨(decide_eq_true hbefore).symm, rfl⟩
      · obtain ⟨c, cs, hfirst, hdigit⟩ := padded_eq_cons 4 d.year.natAbs
        rw [if_neg hbefore, List.nil_append, hfirst] at hsigned
        rw [hfirst]
        split at hsigned
        next hminus => exact absurd (List.cons.inj hminus).1 (ne_of_isDigit hdigit rfl)
        next hplus => exact absurd (List.cons.inj hplus).1 (ne_of_isDigit hdigit rfl)
        next =>
          cases hsigned
          exact ⟨(decide_eq_false hbefore).symm, rfl⟩
    refine bind_of_eq_some (hyear _) ?_
    refine bind_of_eq_some (expect?_cons _ _) ?_
    refine bind_of_eq_some (hmonth _) ?_
    refine bind_of_eq_some (expect?_cons _ _) ?_
    refine bind_of_eq_some (hday _) ?_
    exact bind_of_eq_some (hvalue.symm ▸ hdate) rfl

theorem read?_write (d : Date) : read? d.write = some d := by
  have htaken := d.take?_write []
  rw [List.append_nil] at htaken
  rw [read?, htaken]

theorem forall_mem_write {p : Char → Prop} (hdigit : ∀ c : Char, c.isDigit → p c) (hminus : p '-')
    (d : Date) : ∀ c ∈ d.write, p c := by
  intro c hc
  simp only [write, List.mem_append, List.mem_cons] at hc
  have hfield : ∀ {width n}, c ∈ padded width n → p c := fun h => hdigit c (isDigit_of_mem_padded h)
  rcases hc with (((hsign | hyear) | rfl | hmonth) | rfl | hday)
  · split at hsign
    · rw [List.mem_singleton.mp hsign]
      exact hminus
    · cases hsign
  · exact hfield hyear
  · exact hminus
  · exact hfield hmonth
  · exact hminus
  · exact hfield hday

theorem isVisible_write (d : Date) : IsVisible d.write where
  ne_nil := by simp [write]
  isBlank_of_mem := d.forall_mem_write (fun _ => isBlank_of_isDigit) (by decide)

/-- The sign takes one of the four places of the year in a literal. -/
def LosesPlace (d : Date) : Prop :=
  -999 ≤ d.year ∧ d.year < 0

instance (d : Date) : Decidable d.LosesPlace :=
  inferInstanceAs (Decidable (-999 ≤ d.year ∧ d.year < 0))

theorem writeLiteral_eq_write {d : Date} (hkeeps : ¬d.LosesPlace) : d.writeLiteral = d.write := by
  unfold LosesPlace at hkeeps
  unfold writeLiteral write paddedSigned
  by_cases hbefore : d.year < 0
  · have hlong : 4 ≤ (Nat.toDigits 10 d.year.natAbs).length := by
      have hbig : ¬d.year.natAbs < 10 ^ 3 := by omega
      rw [← Nat.length_toDigits_le_iff (by decide) (by decide)] at hbig
      omega
    have hthree : 4 - 1 - (Nat.toDigits 10 d.year.natAbs).length = 0 := by omega
    have hfour : 4 - (Nat.toDigits 10 d.year.natAbs).length = 0 := by omega
    simp only [if_pos hbefore, padded, hthree, hfour]
    rfl
  · simp only [if_neg hbefore, List.nil_append]

theorem forall_mem_writeLiteral {p : Char → Prop} (hdigit : ∀ c : Char, c.isDigit → p c)
    (hminus : p '-') (d : Date) : ∀ c ∈ d.writeLiteral, p c := by
  intro c hc
  have hfield : ∀ {width n}, c ∈ padded width n → p c := fun h => hdigit c (isDigit_of_mem_padded h)
  simp only [writeLiteral, paddedSigned, List.mem_append, List.mem_cons] at hc
  rcases hc with (hyear | rfl | hmonth) | rfl | hday
  · split at hyear
    · rcases List.mem_cons.mp hyear with rfl | hdigits
      · exact hminus
      · exact hfield hdigits
    · exact hfield hyear
  · exact hminus
  · exact hfield hmonth
  · exact hminus
  · exact hfield hday

theorem isVisible_writeLiteral (d : Date) : IsVisible d.writeLiteral where
  ne_nil := by simp [writeLiteral]
  isBlank_of_mem := d.forall_mem_writeLiteral (fun _ => isBlank_of_isDigit) (by decide)

theorem read?_writeLiteral {d : Date} (hkeeps : ¬d.LosesPlace) : read? d.writeLiteral = some d := by
  rw [writeLiteral_eq_write hkeeps, read?_write]

/-- Three places of the year are one too few for the reader. -/
theorem take?_writeLiteral_of_losesPlace {d : Date} (hloses : d.LosesPlace) (rest : List Char) :
    take? (d.writeLiteral ++ rest) = none := by
  have hbefore : d.year < 0 := hloses.2
  have hfits : d.year.natAbs < 10 ^ 3 := by
    have hbound := hloses.1
    omega
  have hdigits : ∀ c ∈ padded 3 d.year.natAbs, c.isDigit := fun _ => isDigit_of_mem_padded
  have hshort : (padded 3 d.year.natAbs).length < 4 := by
    rw [length_padded (by decide) hfits]
    decide
  have hyear (rest : List Char) :
      takeExactly? 4 0 (padded 3 d.year.natAbs ++ '-' :: rest) = none :=
    takeExactly?_of_short hdigits hshort (endsDigits_cons rfl rest) 0
  unfold take? writeLiteral paddedSigned
  rw [if_pos hbefore]
  simp only [List.append_assoc, List.cons_append, hyear]
  rfl

theorem read?_writeLiteral_of_losesPlace {d : Date} (hloses : d.LosesPlace) :
    read? d.writeLiteral = none := by
  have htaken := take?_writeLiteral_of_losesPlace hloses []
  rw [List.append_nil] at htaken
  rw [read?, htaken]

end Date

namespace TimeOfDay

theorem hour_lt_field (t : TimeOfDay) : t.hour < 10 ^ 2 := by
  have hbound := t.hour_lt
  omega

theorem minute_lt_field (t : TimeOfDay) : t.minute < 10 ^ 2 := by
  have hbound := t.minute_lt
  omega

theorem second_lt_field (t : TimeOfDay) : t.second < 10 ^ 2 := by
  have hbound := t.second_lt
  omega

theorem ofParts?_parts (t : TimeOfDay) :
    ofParts? t.hour t.minute t.second t.nanosecond = some t :=
  dif_pos ⟨t.hour_lt, t.minute_lt, t.second_lt, t.nanosecond_lt⟩

theorem take?_writeLiteral (t : TimeOfDay) (hends : EndsDigits rest) :
    take? (t.writeLiteral ++ rest) = some (t, rest) := by
  have hhour := takeExactly?_padded (by decide) t.hour_lt_field
  have hminute := takeExactly?_padded (by decide) t.minute_lt_field
  have hsecond := takeExactly?_padded (by decide) t.second_lt_field
  have hnanosecond := takeFraction?_shortened t.nanosecond_lt hends
  unfold writeLiteral
  simp only [List.append_assoc, List.cons_append]
  refine bind_of_eq_some (hhour _) ?_
  refine bind_of_eq_some (expect?_cons _ _) ?_
  refine bind_of_eq_some (hminute _) ?_
  refine bind_of_eq_some (expect?_cons _ _) ?_
  refine bind_of_eq_some (hsecond _) ?_
  simp only [hnanosecond, Option.getD_some]
  exact bind_of_eq_some t.ofParts?_parts rfl

theorem read?_writeLiteral (t : TimeOfDay) : read? t.writeLiteral = some t := by
  have htaken := t.take?_writeLiteral endsDigits_nil
  rw [List.append_nil] at htaken
  rw [read?, htaken]

theorem forall_mem_writeLiteral {p : Char → Prop} (hdigit : ∀ c : Char, c.isDigit → p c)
    (hcolon : p ':') (hpoint : p '.') (t : TimeOfDay) : ∀ c ∈ t.writeLiteral, p c := by
  intro c hc
  simp only [writeLiteral, List.mem_append, List.mem_cons] at hc
  have hfield : ∀ {width n}, c ∈ padded width n → p c := fun h => hdigit c (isDigit_of_mem_padded h)
  rcases hc with (((hhour | rfl | hminute) | rfl | hsecond) | rfl | hnanosecond)
  · exact hfield hhour
  · exact hcolon
  · exact hfield hminute
  · exact hcolon
  · exact hfield hsecond
  · exact hpoint
  · exact hdigit c (isDigit_of_mem_shortened hnanosecond)

theorem isVisible_writeLiteral (t : TimeOfDay) : IsVisible t.writeLiteral where
  ne_nil := by simp [writeLiteral]
  isBlank_of_mem :=
    t.forall_mem_writeLiteral (fun _ => isBlank_of_isDigit) (by decide) (by decide)

end TimeOfDay

namespace Timestamp

/-- The form in which a timestamp is stored. -/
def writeStored (t : Timestamp) : List Char :=
  t.date.write ++ ' ' :: t.time.writeLiteral

theorem read?_writeStored (t : Timestamp) : read? t.writeStored = some t := by
  simp [read?, writeStored, Date.take?_write, expect?_cons, TimeOfDay.read?_writeLiteral]

theorem spaceForMark_of_not_mem {cs : List Char} (hunmarked : 'T' ∉ cs) :
    spaceForMark cs = cs := by
  induction cs with
  | nil => rfl
  | cons c cs ih =>
      obtain ⟨hhead, htail⟩ := not_or.mp (List.mem_cons.not.mp hunmarked)
      rw [spaceForMark, if_neg (Ne.symm hhead), ih htail]

theorem spaceForMark_writeStored (t : Timestamp) : spaceForMark t.writeStored = t.writeStored := by
  have hdigit : ∀ c : Char, c.isDigit → c ≠ 'T' := fun _ hdigit => ne_of_isDigit hdigit rfl
  apply spaceForMark_of_not_mem
  apply List.forall_mem_ne'.mp
  intro c hc
  rcases List.mem_append.mp hc with hdate | hspaced
  · exact t.date.forall_mem_write hdigit (by decide) c hdate
  · rcases List.mem_cons.mp hspaced with rfl | htime
    · decide
    · exact t.time.forall_mem_writeLiteral hdigit (by decide) (by decide) c htime

theorem trim_writeStored (t : Timestamp) :
    trim (String.ofList t.writeStored) = String.ofList t.writeStored := by
  have htrimmed := t.date.isVisible_write.trim_between t.time.isVisible_writeLiteral [' ']
  simpa [writeStored] using htrimmed

theorem writeLiteral_eq_writeStored {t : Timestamp} (hkeeps : ¬t.date.LosesPlace) :
    t.writeLiteral = t.writeStored := by
  rw [writeLiteral, writeStored, Date.writeLiteral_eq_write hkeeps]

theorem forall_mem_writeLiteral {p : Char → Prop} (hdigit : ∀ c : Char, c.isDigit → p c)
    (hminus : p '-') (hspace : p ' ') (hcolon : p ':') (hpoint : p '.') (t : Timestamp) :
    ∀ c ∈ t.writeLiteral, p c := by
  intro c hc
  rcases List.mem_append.mp hc with hdate | hspaced
  · exact t.date.forall_mem_writeLiteral hdigit hminus c hdate
  · rcases List.mem_cons.mp hspaced with rfl | htime
    · exact hspace
    · exact t.time.forall_mem_writeLiteral hdigit hcolon hpoint c htime

/-- The mark between date and time is the one thing that tells the two forms of a timestamp
apart for certain. -/
theorem unmarked_writeLiteral (t : Timestamp) : 'T' ∉ t.writeLiteral :=
  List.forall_mem_ne'.mp (t.forall_mem_writeLiteral (fun _ hdigit => ne_of_isDigit hdigit rfl)
    (by decide) (by decide) (by decide) (by decide))

theorem trim_writeLiteral (t : Timestamp) :
    trim (String.ofList t.writeLiteral) = String.ofList t.writeLiteral := by
  have htrimmed := t.date.isVisible_writeLiteral.trim_between t.time.isVisible_writeLiteral [' ']
  simpa [writeLiteral] using htrimmed

theorem read?_writeLiteral {t : Timestamp} (hkeeps : ¬t.date.LosesPlace) :
    read? t.writeLiteral = some t := by
  rw [writeLiteral_eq_writeStored hkeeps, read?_writeStored]

theorem read?_writeLiteral_of_losesPlace {t : Timestamp} (hloses : t.date.LosesPlace) :
    read? t.writeLiteral = none := by
  rw [read?, writeLiteral, Date.take?_writeLiteral_of_losesPlace hloses]
  rfl

end Timestamp

namespace ZonedTimestamp

/-- The offset as the internet form ends with it. -/
def writeZone (offset : Int) : List Char :=
  if offset.natAbs = 0 then ['Z']
  else
    (if offset < 0 then '-' else '+') :: padded 2 (offset.natAbs / 3600) ++
      ':' :: padded 2 (offset.natAbs / 60 % 60)

def writeFraction (nanosecond : Nat) : List Char :=
  if nanosecond = 0 then [] else '.' :: fractionDigits nanosecond

/-- The timestamps that have an internet form. -/
structure HasRfc3339 (t : ZonedTimestamp) : Prop where
  year : 0 ≤ t.wall.date.year
  hours : t.offset.natAbs / 3600 ≤ 23
  minutes : t.offset.natAbs % 60 = 0

variable {t : ZonedTimestamp}

theorem writeRfc3339_of_hasRfc3339 (hhas : t.HasRfc3339) :
    t.writeRfc3339 = .ok (padded 4 t.wall.date.year.natAbs ++ '-' :: padded 2 t.wall.date.month ++
      '-' :: padded 2 t.wall.date.day ++ 'T' :: padded 2 t.wall.time.hour ++
      ':' :: padded 2 t.wall.time.minute ++ ':' :: padded 2 t.wall.time.second ++
      writeFraction t.wall.time.nanosecond ++ writeZone t.offset) := by
  have hyear : ¬t.wall.date.year < 0 := Int.not_lt.mpr hhas.year
  have hhours : ¬23 < t.offset.natAbs / 3600 := Nat.not_lt.mpr hhas.hours
  rw [writeRfc3339, if_neg hyear, if_neg hhours, if_neg (not_not_intro hhas.minutes)]
  rfl

theorem writeRfc3339_of_not_hasRfc3339 (hlacks : ¬t.HasRfc3339) :
    ∃ part, t.writeRfc3339 = .error part := by
  unfold writeRfc3339
  by_cases hyear : t.wall.date.year < 0
  · exact ⟨.year, if_pos hyear⟩
  · by_cases hhours : 23 < t.offset.natAbs / 3600
    · exact ⟨.offsetHour, by simp only [if_neg hyear, if_pos hhours]⟩
    · have hminutes : t.offset.natAbs % 60 ≠ 0 := by
        intro hwhole
        exact hlacks ⟨Int.not_lt.mp hyear, Nat.not_lt.mp hhours, hwhole⟩
      exact ⟨.offsetSecond, by simp only [if_neg hyear, if_neg hhours, if_pos hminutes]⟩

theorem readZone?_writeZone {offset : Int} (hhours : offset.natAbs / 3600 ≤ 23)
    (hminutes : offset.natAbs % 60 = 0) : readZone? (writeZone offset) = some offset := by
  unfold writeZone
  split
  next hnone =>
    have hzero : offset = 0 := Int.natAbs_eq_zero.mp hnone
    rw [hzero]
    rfl
  next =>
    have hhourFits : offset.natAbs / 3600 < 10 ^ 2 := by omega
    have hminuteFits : offset.natAbs / 60 % 60 < 10 ^ 2 := by omega
    have hhour := takeExactly?_padded (by decide) hhourFits
    have hminute := takeExactly?_padded (by decide) hminuteFits []
    rw [List.append_nil] at hminute
    have hsmall : offset.natAbs / 60 % 60 ≤ 59 := by omega
    by_cases hbefore : offset < 0
    · have hvalue : -((offset.natAbs / 3600 : Nat) * 3600 +
          (offset.natAbs / 60 % 60 : Nat) * 60 : Int) = offset := by omega
      simpa [readZone?, hbefore, hhour, hminute, expect?_cons, hhours, hsmall] using hvalue
    · have hvalue : ((offset.natAbs / 3600 : Nat) * 3600 +
          (offset.natAbs / 60 % 60 : Nat) * 60 : Int) = offset := by omega
      simpa [readZone?, hbefore, hhour, hminute, expect?_cons, hhours, hsmall] using hvalue

theorem writeZone_eq_cons (offset : Int) :
    ∃ c cs, writeZone offset = c :: cs ∧ c ≠ '.' ∧ c.isDigit = false := by
  unfold writeZone
  split
  · exact ⟨_, _, rfl, by decide, by decide⟩
  · refine ⟨_, _, rfl, ?_, ?_⟩ <;> split <;> decide

theorem hasRfc3339_of_writeRfc3339 {text : List Char} (hwritten : t.writeRfc3339 = .ok text) :
    t.HasRfc3339 := by
  by_contra hlacks
  obtain ⟨part, hfailed⟩ := writeRfc3339_of_not_hasRfc3339 hlacks
  rw [hfailed] at hwritten
  cases hwritten

theorem readRfc3339?_of_writeRfc3339 {text : List Char} (hwritten : t.writeRfc3339 = .ok text) :
    readRfc3339? text = some t := by
  have hhas := hasRfc3339_of_writeRfc3339 hwritten
  rw [writeRfc3339_of_hasRfc3339 hhas] at hwritten
  obtain rfl := Except.ok.inj hwritten
  have hyear := takeExactly?_padded (by decide) t.wall.date.year_lt
  have hmonth := takeExactly?_padded (by decide) t.wall.date.month_lt
  have hday := takeExactly?_padded (by decide) t.wall.date.day_lt
  have hhour := takeExactly?_padded (by decide) t.wall.time.hour_lt_field
  have hminute := takeExactly?_padded (by decide) t.wall.time.minute_lt_field
  have hsecond := takeExactly?_padded (by decide) t.wall.time.second_lt_field
  have hzone := readZone?_writeZone hhas.hours hhas.minutes
  have hvalue : (t.wall.date.year.natAbs : Int) = t.wall.date.year := by
    have := hhas.year
    omega
  have hdate := t.wall.date.ofParts?_parts
  have htime := t.wall.time.ofParts?_parts
  have hnoLeap : t.wall.time.second ≠ 60 := Nat.ne_of_lt t.wall.time.second_lt
  have hparts : ofParts? ⟨t.wall.date, t.wall.time⟩ t.offset = some t := dif_pos t.offset_range
  obtain ⟨c, cs, hfirst, hnoPoint, hother⟩ := writeZone_eq_cons t.offset
  simp only [List.append_assoc, List.cons_append]
  refine bind_of_eq_some (hyear _) ?_
  refine bind_of_eq_some (expect?_cons _ _) ?_
  refine bind_of_eq_some (hmonth _) ?_
  refine bind_of_eq_some (expect?_cons _ _) ?_
  refine bind_of_eq_some (hday _) ?_
  refine bind_of_eq_some rfl ?_
  refine bind_of_eq_some (hhour _) ?_
  refine bind_of_eq_some (expect?_cons _ _) ?_
  refine bind_of_eq_some (hminute _) ?_
  refine bind_of_eq_some (expect?_cons _ _) ?_
  refine bind_of_eq_some (hsecond _) ?_
  by_cases hwhole : t.wall.time.nanosecond = 0
  · rw [hwhole] at htime
    rw [hfirst] at hzone
    rw [writeFraction, if_pos hwhole, List.nil_append, hfirst]
    dsimp only
    split
    next hpointed => exact absurd (List.cons.inj hpointed).1 hnoPoint
    refine bind_of_eq_some rfl ?_
    refine bind_of_eq_some hzone ?_
    refine bind_of_eq_some (hvalue ▸ hdate) ?_
    refine (if_neg hnoLeap).trans ?_
    exact bind_of_eq_some htime hparts
  · have hends : EndsDigits (writeZone t.offset) := hfirst ▸ endsDigits_cons hother cs
    rw [writeFraction, if_neg hwhole, List.cons_append]
    refine bind_of_eq_some (takeFraction?_fractionDigits t.wall.time.nanosecond_lt hends) ?_
    refine bind_of_eq_some hzone ?_
    refine bind_of_eq_some (hvalue ▸ hdate) ?_
    refine (if_neg hnoLeap).trans ?_
    exact bind_of_eq_some htime hparts

/-- No character of the internet form is white space. -/
theorem isVisible_of_writeRfc3339 {text : List Char} (hwritten : t.writeRfc3339 = .ok text) :
    IsVisible text := by
  have hhas := hasRfc3339_of_writeRfc3339 hwritten
  rw [writeRfc3339_of_hasRfc3339 hhas] at hwritten
  obtain rfl := Except.ok.inj hwritten
  have hfield : ∀ {c : Char} {width n}, c ∈ padded width n → isBlank c = false :=
    fun h => isBlank_of_isDigit (isDigit_of_mem_padded h)
  have hfraction : ∀ c ∈ writeFraction t.wall.time.nanosecond, isBlank c = false := by
    intro c hc
    unfold writeFraction at hc
    split at hc
    · cases hc
    · rcases List.mem_cons.mp hc with rfl | hdigit
      · decide
      · exact isBlank_of_isDigit (isDigit_of_mem_fractionDigits hdigit)
  have hzone : ∀ c ∈ writeZone t.offset, isBlank c = false := by
    intro c hc
    unfold writeZone at hc
    split at hc
    · rw [List.mem_singleton.mp hc]
      decide
    · simp only [List.mem_append, List.mem_cons] at hc
      rcases hc with (hsign | hhours) | hcolon | hminutes
      · rw [hsign]
        split <;> decide
      · exact hfield hhours
      · rw [hcolon]
        decide
      · exact hfield hminutes
  refine ⟨by simp, fun c hc => ?_⟩
  simp only [List.mem_append, List.mem_cons] at hc
  rcases hc with (((((((hyear | rfl | hmonth) | rfl | hday) | rfl | hhour) | rfl | hminute) | rfl |
    hsecond) | hdigits) | hoffset)
  · exact hfield hyear
  · decide
  · exact hfield hmonth
  · decide
  · exact hfield hday
  · decide
  · exact hfield hhour
  · decide
  · exact hfield hminute
  · decide
  · exact hfield hsecond
  · exact hfraction c hdigits
  · exact hzone c hoffset

end ZonedTimestamp

end TypedSql
