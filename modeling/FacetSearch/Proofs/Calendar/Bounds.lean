import FacetSearch.Proofs.Term.Value
import FacetSearch.Proofs.Text.Digits
import FacetSearch.Query

/-!
# The days of a period

A period is written as the beginning of a day. Its days are those that are written with that
beginning, and they lie side by side: from the first to the last, both of which are found, and no
other day in between. A period without a day, such as a thirteenth month, has no bounds. The end of a
month is found as the day before the next one, so the days up to it are those before the next month.
-/

namespace FacetSearch

open Text

theorem daysInMonth_pos_iff {year month : Nat} :
    0 < daysInMonth year month ↔ 1 ≤ month ∧ month ≤ 12 := by
  constructor
  · intro some_day
    by_contra outside
    unfold daysInMonth at some_day
    split at some_day <;> omega
  · rintro ⟨first, last⟩
    exact daysInMonth_pos first last

theorem daysInMonth_le (year month : Nat) : daysInMonth year month ≤ 31 := by
  unfold daysInMonth
  split
  case h_12 => split <;> decide
  all_goals decide

namespace Day

theorem month_bounds (day : Day) : 1 ≤ day.month ∧ day.month ≤ 12 :=
  daysInMonth_pos_iff.mp (Nat.lt_of_lt_of_le day.day_pos day.day_le)

theorem day_le_31 (day : Day) : day.day ≤ 31 :=
  Nat.le_trans day.day_le (daysInMonth_le day.year day.month)

theorem le_def {a b : Day} :
    a ≤ b ↔ a.year < b.year ∨
      a.year = b.year ∧ (a.month < b.month ∨ a.month = b.month ∧ a.day ≤ b.day) :=
  Iff.rfl

theorem of?_eq_some {year month d : Nat} {day : Day} :
    of? year month d = some day ↔ day.year = year ∧ day.month = month ∧ day.day = d := by
  unfold of?
  constructor
  · intro found
    split at found
    · obtain rfl := Option.some.inj found
      exact ⟨rfl, rfl, rfl⟩
    · cases found
  · rintro ⟨rfl, rfl, rfl⟩
    exact dif_pos ⟨day.day_pos, day.day_le⟩

theorem isSome_of? {year month d : Nat} (pos : 0 < d) (le : d ≤ daysInMonth year month) :
    (of? year month d).isSome := by
  rw [of?, dif_pos ⟨pos, le⟩]
  rfl

/-- The days up to the day before are those before the day. -/
theorem le_pred_iff {day before : Day} (h : day.pred? = some before) (other : Day) :
    other ≤ before ↔ ¬ day ≤ other := by
  have months := other.month_bounds
  have some_day := other.day_pos
  rw [le_def, le_def]
  unfold pred? at h
  split at h
  case isTrue =>
    obtain ⟨year, month, eve⟩ := of?_eq_some.mp h
    omega
  case isFalse first =>
    split at h
    case isTrue =>
      obtain ⟨year, month, eve⟩ := of?_eq_some.mp h
      have days : other.year = day.year → other.month = day.month - 1 →
          other.day ≤ daysInMonth day.year (day.month - 1) := by
        intro year month
        rw [← year, ← month]
        exact other.day_le
      omega
    case isFalse january =>
      split at h
      case isTrue =>
        obtain ⟨year, december, eve⟩ := of?_eq_some.mp h
        have days := other.day_le_31
        have first_month := day.month_bounds
        omega
      case isFalse => cases h

/-- Only the first day of all has none before it. -/
theorem isSome_pred? {day : Day} (later : 1 < day.day ∨ 1 < day.month ∨ 0 < day.year) :
    day.pred?.isSome := by
  have months := day.month_bounds
  unfold pred?
  split
  case isTrue midst => exact isSome_of? (by omega) (Nat.le_trans (Nat.sub_le _ _) day.day_le)
  case isFalse first =>
    split
    case isTrue after_january =>
      exact isSome_of? (daysInMonth_pos (by omega) (by omega)) (Nat.le_refl _)
    case isFalse january =>
      rw [if_pos (by omega)]
      exact isSome_of? (by decide) (Nat.le_refl 31)

end Day

namespace Period

/-! ## Bounds -/

/-- The days of a period. -/
def Covers (day : Day) : Period → Prop
  | .year y => day.year = y
  | .month y m => day.year = y ∧ day.month = m
  | .day y m d => day.year = y ∧ day.month = m ∧ day.day = d

/-- The day that a period begins with. -/
def BeginsWith (day : Day) : Period → Prop
  | .year y => day.year = y ∧ day.month = 1 ∧ day.day = 1
  | .month y m => day.year = y ∧ day.month = m ∧ day.day = 1
  | .day y m d => day.year = y ∧ day.month = m ∧ day.day = d

/-- The day that a period ends with. -/
def EndsWith (day : Day) : Period → Prop
  | .year y => day.year = y ∧ day.month = 12 ∧ day.day = 31
  | .month y m => ∃ next, nextMonth? y m = some next ∧ next.pred? = some day
  | .day y m d => day.year = y ∧ day.month = m ∧ day.day = d

theorem nextMonth?_eq_some {y m : Nat} {next : Day} :
    nextMonth? y m = some next ↔
      (m = 12 ∧ next.year = y + 1 ∧ next.month = 1 ∨
        m ≠ 12 ∧ next.year = y ∧ next.month = m + 1) ∧ next.day = 1 := by
  unfold nextMonth?
  split
  · rw [Day.of?_eq_some]
    omega
  · rw [Day.of?_eq_some]
    omega

theorem exists_nextMonth {y m : Nat} (months : 1 ≤ m ∧ m ≤ 12) :
    ∃ next, nextMonth? y m = some next := by
  rw [← Option.isSome_iff_exists]
  unfold nextMonth?
  split
  · exact Day.isSome_of? Nat.one_pos (daysInMonth_pos (by decide) (by decide))
  · exact Day.isSome_of? Nat.one_pos (daysInMonth_pos (by omega) (by omega))

section Bounds

variable {period : Period} {first last : Day}

theorem bounds?_eq_some :
    period.bounds? = some (first, last) ↔ period.BeginsWith first ∧ period.EndsWith last := by
  cases period with
  | year y =>
      show _ ↔ (_ ∧ _ ∧ _) ∧ (_ ∧ _ ∧ _)
      rw [← Day.of?_eq_some, ← Day.of?_eq_some]
      simp [bounds?, Option.bind_eq_some_iff]
  | month y m =>
      show _ ↔ (_ ∧ _ ∧ _) ∧ _
      rw [← Day.of?_eq_some]
      simp [bounds?, EndsWith, Option.bind_eq_some_iff]
  | day y m d =>
      show _ ↔ (_ ∧ _ ∧ _) ∧ (_ ∧ _ ∧ _)
      rw [← Day.of?_eq_some, ← Day.of?_eq_some]
      cases found : Day.of? y m d with
      | none => simp [bounds?, found]
      | some day => simp [bounds?, found]

/-- **A period with a day has bounds.** -/
theorem isSome_bounds? {day : Day} (covers : period.Covers day) : period.bounds?.isSome := by
  have months := day.month_bounds
  suffices bounded : ∃ first last, period.BeginsWith first ∧ period.EndsWith last by
    obtain ⟨first, last, ends⟩ := bounded
    rw [bounds?_eq_some.mpr ends]
    rfl
  cases period with
  | year y =>
      exact ⟨⟨y, 1, 1, Nat.one_pos, by simp [daysInMonth]⟩, ⟨y, 12, 31, by decide, Nat.le_refl 31⟩,
        ⟨rfl, rfl, rfl⟩, rfl, rfl, rfl⟩
  | month y m =>
      obtain ⟨rfl, rfl⟩ := covers
      obtain ⟨next, follows⟩ := exists_nextMonth months
      have opens := nextMonth?_eq_some.mp follows
      have later : 1 < next.day ∨ 1 < next.month ∨ 0 < next.year := by omega
      obtain ⟨last, before⟩ := Option.isSome_iff_exists.mp (Day.isSome_pred? later)
      exact ⟨⟨day.year, day.month, 1, Nat.one_pos, daysInMonth_pos_iff.mpr months⟩, last,
        ⟨rfl, rfl, rfl⟩, next, follows, before⟩
  | day y m d => exact ⟨day, day, covers, covers⟩

theorem BeginsWith.covers (begins : period.BeginsWith first) : period.Covers first := by
  cases period with
  | year y => exact begins.1
  | month y m => exact ⟨begins.1, begins.2.1⟩
  | day y m d => exact begins

/-- **The days between the bounds of a period are the days of the period.** -/
theorem between_bounds_iff (bounded : period.bounds? = some (first, last)) (day : Day) :
    first ≤ day ∧ day ≤ last ↔ period.Covers day := by
  obtain ⟨begins, ends⟩ := bounds?_eq_some.mp bounded
  have months := day.month_bounds
  have some_day := day.day_pos
  cases period with
  | year y =>
      obtain ⟨rfl, january, new_year⟩ := begins
      obtain ⟨same, december, new_years_eve⟩ := ends
      rw [Day.le_def, Day.le_def]
      have days := day.day_le_31
      show _ ↔ day.year = first.year
      omega
  | month y m =>
      obtain ⟨rfl, rfl, opening⟩ := begins
      obtain ⟨next, follows, before⟩ := ends
      have later := nextMonth?_eq_some.mp follows
      have last_month := first.month_bounds
      -- Not after the last day means not yet in the next month, however long this one is.
      rw [Day.le_pred_iff before, Day.le_def, Day.le_def]
      show _ ↔ day.year = first.year ∧ day.month = first.month
      omega
  | day y m d =>
      obtain ⟨rfl, rfl, rfl⟩ := begins
      obtain ⟨same, alike, equal⟩ := ends
      rw [Day.le_def, Day.le_def]
      show _ ↔ day.year = first.year ∧ day.month = first.month ∧ day.day = first.day
      omega

/-- Both bounds of a period are days of it. So the day before the next month is one of this month. -/
theorem covers_bounds (bounded : period.bounds? = some (first, last)) :
    period.Covers first ∧ period.Covers last := by
  have opens := (bounds?_eq_some.mp bounded).1.covers
  have ordered : first ≤ last := ((between_bounds_iff bounded first).mpr opens).2
  have closes : last ≤ last := Day.le_def.mpr (Or.inr ⟨rfl, Or.inr ⟨rfl, Nat.le_refl _⟩⟩)
  exact ⟨opens, (between_bounds_iff bounded last).mp ⟨ordered, closes⟩⟩

end Bounds

/-! ## Text -/

/-- A day is written `YYYY-MM-DD`. -/
theorem toList_render (day : Day) :
    day.render.toList =
      padded 4 day.year ++ '-' :: (padded 2 day.month ++ '-' :: padded 2 day.day) := by
  simp [Day.render]

theorem digits_padded (count n : Nat) : Digits count (padded count n) :=
  ⟨length_padded count n, fun _ => isDigit_of_mem_padded⟩

theorem Digits.decimal_lt {count : Nat} {digits : List Char} (h : Digits count digits) :
    decimal digits < 10 ^ count := by
  rw [← padded_decimal h.2, decimal_padded, h.1]
  exact Nat.mod_lt _ (Nat.pow_pos (by decide))

/-- Digits begin a text that begins with those of a number if they are read as the number. -/
theorem Digits.append_prefix_iff {count n : Nat} {digits : List Char} (h : Digits count digits)
    (small : n < 10 ^ count) (rest behind : List Char) :
    digits ++ rest <+: padded count n ++ behind ↔ n = decimal digits ∧ rest <+: behind := by
  rw [List.prefix_append_inj_of_length_eq (h.1.trans (length_padded count n).symm)]
  refine and_congr_left fun _ => ?_
  constructor
  · rintro rfl
    rw [decimal_padded, Nat.mod_eq_of_lt small]
  · rintro rfl
    rw [← h.1, padded_decimal h.2]

/-- The days of a period that is written are in years of four digits. -/
theorem Written.year_le {text : List Char} {period : Period} (h : Written text period) {day : Day}
    (covers : period.Covers day) : day.year ≤ 9999 := by
  cases h with
  | year hy =>
      rw [show day.year = _ from covers]
      exact Nat.le_of_lt_succ hy.decimal_lt
  | month hy hm =>
      rw [covers.1]
      exact Nat.le_of_lt_succ hy.decimal_lt
  | day hy hm hd =>
      rw [covers.1]
      exact Nat.le_of_lt_succ hy.decimal_lt

/-- **A period is written as the beginning of its days**, and of no others that have years of four
digits. -/
theorem Written.prefix_render_iff {text : List Char} {period : Period} (h : Written text period)
    {day : Day} (short : day.year ≤ 9999) :
    text <+: day.render.toList ↔ period.Covers day := by
  have years : day.year < 10 ^ 4 := Nat.lt_succ_of_le short
  have months : day.month < 10 ^ 2 := Nat.lt_of_le_of_lt day.month_bounds.2 (by decide)
  have days : day.day < 10 ^ 2 := Nat.lt_of_le_of_lt day.day_le_31 (by decide)
  rw [toList_render]
  cases h with
  | year hy =>
      have years := hy.append_prefix_iff years []
        ('-' :: (padded 2 day.month ++ '-' :: padded 2 day.day))
      simpa [Covers] using years
  | month hy hm =>
      have months := hm.append_prefix_iff months [] ('-' :: padded 2 day.day)
      rw [List.append_nil] at months
      rw [hy.append_prefix_iff years, List.cons_prefix_cons, months]
      simp [Covers]
  | day hy hm hd =>
      have days := hd.append_prefix_iff days [] []
      rw [List.append_nil, List.append_nil] at days
      rw [List.append_assoc, List.cons_append, hy.append_prefix_iff years, List.cons_prefix_cons,
        hm.append_prefix_iff months, List.cons_prefix_cons, days]
      simp [Covers]

/-- The beginnings of days that have the length of a year, a month or a day have its shape. -/
theorem shaped_of_prefix_render {text : List Char} {day : Day} (begins : text <+: day.render.toList)
    (sizes : text.length = 4 ∨ text.length = 7 ∨ text.length = 10) : Shaped text := by
  have taken := List.prefix_iff_eq_take.mp begins
  rw [toList_render] at taken
  rcases sizes with four | seven | ten
  · have written : text = padded 4 day.year := by
      rw [taken, four, List.take_left' (length_padded 4 _)]
    rw [written]
    exact .year (digits_padded 4 _)
  · have written : text = padded 4 day.year ++ '-' :: padded 2 day.month := by
      rw [taken, seven, ← List.cons_append, ← List.append_assoc,
        List.take_left' (by simp [length_padded])]
    rw [written]
    exact .month (digits_padded 4 _) (digits_padded 2 _)
  · have written : text =
        padded 4 day.year ++ '-' :: padded 2 day.month ++ '-' :: padded 2 day.day := by
      rw [taken, ten, List.take_of_length_le (by simp [length_padded])]
      simp
    rw [written]
    exact .day (digits_padded 4 _) (digits_padded 2 _) (digits_padded 2 _)

/-- **A date means the days that begin with it.** A text has bounds exactly when it has the length
of a year, a month or a day and begins some day of the years from 0 to 9999. The days of these years
that lie between its bounds are then those that it begins. -/
theorem bounds_hold_what_begins (text : String) :
    (((parse? text).bind bounds?).isSome ↔
      (text.length = 4 ∨ text.length = 7 ∨ text.length = 10) ∧
        ∃ day : Day, day.year ≤ 9999 ∧ text.toList <+: day.render.toList) ∧
    (∀ first last, (parse? text).bind bounds? = some (first, last) →
      ∀ day : Day, day.year ≤ 9999 →
        (first ≤ day ∧ day ≤ last ↔ text.toList <+: day.render.toList)) ∧
    ∀ query : Query, query.date = some text →
      query.dateBounds? = (parse? text).bind bounds? := by
  refine ⟨?_, ?_, ?_⟩
  · rw [← String.length_toList]
    constructor
    · intro bounded
      obtain ⟨⟨first, last⟩, bounded⟩ := Option.isSome_iff_exists.mp bounded
      obtain ⟨period, read, ends⟩ := Option.bind_eq_some_iff.mp bounded
      have written : Written text.toList period := ofChars?_eq_some.mp read
      have shaped : Shaped text.toList := exists_written.mp ⟨period, written⟩
      have covers := (covers_bounds ends).1
      have short := written.year_le covers
      exact ⟨shaped.length_cases, first, short, (written.prefix_render_iff short).mpr covers⟩
    · rintro ⟨sizes, day, short, begins⟩
      obtain ⟨period, written⟩ := exists_written.mpr (shaped_of_prefix_render begins sizes)
      show ((ofChars? text.toList).bind bounds?).isSome
      rw [ofChars?_eq_some.mpr written]
      exact isSome_bounds? ((written.prefix_render_iff short).mp begins)
  · intro first last bounded day short
    obtain ⟨period, read, ends⟩ := Option.bind_eq_some_iff.mp bounded
    have written : Written text.toList period := ofChars?_eq_some.mp read
    rw [between_bounds_iff ends, written.prefix_render_iff short]
  · intro query dated
    unfold Query.dateBounds?
    rw [dated]
    rfl

/-- February has a 29th in the year 0 and none in 1900. The last month of all that can be written
ends on the day before a year that cannot. -/
theorem february_bounds_hold_what_begins :
    (∃ first last, (parse? "0000-02").bind bounds? = some (first, last) ∧ last.day = 29 ∧
      ∀ day : Day, day.year ≤ 9999 →
        (first ≤ day ∧ day ≤ last ↔ "0000-02".toList <+: day.render.toList)) ∧
    (¬ ∃ day : Day, day.year ≤ 9999 ∧ "1900-02-29".toList <+: day.render.toList) ∧
    ∃ first last, ({ Query.all 10 with date := some "9999-12" } : Query).dateBounds? =
        some (first, last) ∧
      last.render = "9999-12-31" ∧ ∀ day : Day, day.year ≤ 9999 →
        (first ≤ day ∧ day ≤ last ↔ "9999-12".toList <+: day.render.toList) := by
  obtain ⟨-, bounded, -⟩ := bounds_hold_what_begins "0000-02"
  obtain ⟨missing, -⟩ := bounds_hold_what_begins "1900-02-29"
  obtain ⟨-, december, query⟩ := bounds_hold_what_begins "9999-12"
  refine ⟨⟨⟨0, 2, 1, by decide, by decide⟩, ⟨0, 2, 29, by decide, by decide⟩, by decide +kernel, rfl,
    bounded _ _ (by decide +kernel)⟩, ?_, ?_⟩
  · intro begun
    have bounds := missing.mpr ⟨by decide +kernel, begun⟩
    revert bounds
    decide +kernel
  · refine ⟨⟨9999, 12, 1, by decide, by decide⟩, ⟨9999, 12, 31, by decide, by decide⟩, ?_,
      by decide +kernel, december _ _ (by decide +kernel)⟩
    rw [query _ rfl]
    decide +kernel

end Period

end FacetSearch
