import Mathlib.Data.List.Induction
import Mathlib.Data.List.TakeWhile
import LivePipeline.Calendar.Format
import LivePipeline.Proofs.CalendarDays

/-! Dates as text. A date of the years that are written with four digits is read back from its text, but for what lies
below a millisecond; one of any other year is not read back at all. -/

namespace LivePipeline.Moment

/-! ## Digits -/

theorem digitsValue_eq (digits : List Char) : Number.digitsValue digits = Nat.ofDigitChars 10 digits 0 := by
  rw [Number.digitsValue, Nat.ofDigitChars_eq_foldl]
  simp only [Nat.mul_comm]

theorem toList_padded (width value : Nat) : (padded width value).toList
    = List.replicate (width - (Nat.toDigits 10 value).length) '0' ++ Nat.toDigits 10 value := by
  have digits : (toString value).toList = Nat.toDigits 10 value := by
    rw [Nat.toString_eq_ofList_toDigits, String.toList_ofList]
  rw [padded, String.toList_append, String.toList_ofList, ← digits, String.length_toList]

theorem isDigit_padded {width value : Nat} {c : Char} (among : c ∈ (padded width value).toList) : c.isDigit = true := by
  rw [toList_padded, List.mem_append] at among
  rcases among with zero | digit
  · rw [(List.mem_replicate.mp zero).2]
    decide
  · exact Nat.isDigit_of_mem_toDigits (by decide) (by decide) digit

theorem digitsValue_padded (width value : Nat) : Number.digitsValue (padded width value).toList = value := by
  rw [digitsValue_eq, toList_padded, Nat.ofDigitChars_append, Nat.ofDigitChars_replicate_zero, Nat.mul_zero,
    Nat.ofDigitChars_ten_toDigits]

theorem length_padded {width value : Nat} (wide : 0 < width) (fits : value < 10 ^ width) : (padded width value).toList.length = width := by
  have short : (Nat.toDigits 10 value).length ≤ width := (Nat.length_toDigits_le_iff (by decide) wide).mpr fits
  rw [toList_padded, List.length_append, List.length_replicate]
  omega

/-- Behind digits, reading stops at its limit or in front of something else. -/
theorem digits?_append {least most : Nat} {digits rest : List Char} (all : ∀ c ∈ digits, c.isDigit = true) (enough : least ≤ digits.length)
    (within : digits.length ≤ most) (stop : digits.length = most ∨ ∀ c ∈ rest.head?, c.isDigit = false) :
    digits? least most (digits ++ rest) = some (Number.digitsValue digits, rest) := by
  have read : ((digits ++ rest).take most).takeWhile Char.isDigit = digits := by
    rw [List.take_append, List.take_of_length_le within, List.takeWhile_append_of_pos all]
    have behind : (rest.take (most - digits.length)).takeWhile Char.isDigit = [] := by
      rcases stop with full | other
      · rw [full, Nat.sub_self, List.take_zero, List.takeWhile_nil]
      · cases rest with
        | nil => rw [List.take_nil, List.takeWhile_nil]
        | cons c tail =>
          cases most - digits.length with
          | zero => rfl
          | succ more => rw [List.take_succ_cons, List.takeWhile_cons_of_neg (by simp [other c rfl])]
    rw [behind, List.append_nil]
  rw [digits?, read, if_neg (by omega), List.drop_left]

/-- Digits of a known number are read as the number. -/
theorem digits?_padded {width value : Nat} (rest : List Char) (wide : 0 < width) (fits : value < 10 ^ width) :
    digits? width width ((padded width value).toList ++ rest) = some (value, rest) := by
  have length := length_padded wide fits
  rw [digits?_append (fun c => isDigit_padded) length.ge length.le (.inl length), digitsValue_padded]

theorem isBlank_of_isDigit {c : Char} (digit : c.isDigit = true) : Text.isBlank c = false := by
  have bounds : 48 ≤ c.toNat ∧ c.toNat ≤ 57 := by simpa [Char.isDigit, UInt32.le_iff_toNat_le] using digit
  simp only [Text.isBlank]
  simp
  omega

theorem field?_padded {value : Nat} (rest : List Char) (fits : value < 10 ^ 2) :
    field? ((padded 2 value).toList ++ rest) = some (value, rest) := by
  have length : (padded 2 value).toList.length = 2 := length_padded (by decide) fits
  have visible : ((padded 2 value).toList ++ rest).dropWhile Text.isBlank = (padded 2 value).toList ++ rest := by
    cases digits : (padded 2 value).toList with
    | nil => simp [digits] at length
    | cons c tail =>
      have digit : c.isDigit = true := isDigit_padded (digits ▸ List.mem_cons_self)
      rw [List.cons_append, List.dropWhile_cons_of_neg (by simp [isBlank_of_isDigit digit])]
  rw [field?, visible, digits?_append (fun c => isDigit_padded) (by omega) length.le (.inl length), digitsValue_padded]

@[simp] theorem literal?_self (c : Char) (rest : List Char) : literal? c (c :: rest) = some rest := by simp [literal?]

/-! ## The text of a moment -/

/-- A moment as clocks show it. A leap second is a second more behind second 59. -/
structure Sound (moment : Moment) : Prop where
  second : moment.second < 86400
  nano : moment.nano < 2000000000
  leap : 1000000000 ≤ moment.nano → moment.second % 60 = 59

/-- The moment without what lies below a millisecond. -/
def toMillisecond (moment : Moment) : Moment := { moment with nano := moment.nano / 1000000 * 1000000 }

/-- What stands behind the year. -/
def behindYear (moment : Moment) : List Char :=
  '-' :: ((padded 2 moment.date.month).toList ++ '-' :: ((padded 2 moment.date.day).toList ++ 'T' :: ((padded 2 moment.hour).toList
    ++ ':' :: ((padded 2 moment.minute).toList ++ ':' :: ((padded 2 (moment.secondOfMinute + moment.nano / 1000000000)).toList
    ++ '.' :: ((padded 3 (moment.nano % 1000000000 / 1000000)).toList ++ ['Z']))))))

theorem toList_format (moment : Moment) : moment.format.toList = (yearText moment.date.year).toList ++ moment.behindYear := by
  simp [format, behindYear]

theorem exists_front (moment : Moment) : ∃ front, moment.format.toList = front ++ ['Z'] := by
  refine ⟨moment.format.toList.dropLast, ?_⟩
  rw [toList_format, behindYear]
  simp [List.dropLast_append_of_ne_nil, List.dropLast_cons_of_ne_nil]

theorem exists_first (moment : Moment) : ∃ c rest, moment.format.toList = c :: rest ∧ Text.isBlank c = false := by
  rw [toList_format, yearText]
  split
  · next near =>
    have length : (padded 4 moment.date.year.toNat).toList.length = 4 := length_padded (by decide) (by omega)
    cases digits : (padded 4 moment.date.year.toNat).toList with
    | nil => simp [digits] at length
    | cons c tail => exact ⟨c, _, rfl, isBlank_of_isDigit (isDigit_padded (digits ▸ List.mem_cons_self))⟩
  · rw [String.toList_append]
    split
    · exact ⟨'-', _, rfl, by decide⟩
    · exact ⟨'+', _, rfl, by decide⟩

/-- The text of a moment has no white space at its ends. -/
theorem trim_format (moment : Moment) : (Text.trim moment.format).toList = moment.format.toList := by
  obtain ⟨c, rest, first, visible⟩ := moment.exists_first
  obtain ⟨front, last⟩ := moment.exists_front
  have begun : moment.format.toList.dropWhile Text.isBlank = moment.format.toList := by
    rw [first, List.dropWhile_cons_of_neg (by simp [visible])]
  have ends : Text.isBlank 'Z' = false := by decide
  rw [Text.trim, String.toList_ofList, begun, last, Text.trimEnd, List.reverse_append, List.reverse_singleton, List.singleton_append,
    List.dropWhile_cons_of_neg (by simp [ends]), List.reverse_cons, List.reverse_reverse]

section

variable {moment : Moment}

theorem Sound.parts_lt (sound : moment.Sound) : moment.hour < 24 ∧ moment.minute < 60
    ∧ moment.secondOfMinute + moment.nano / 1000000000 ≤ 60 := by
  obtain ⟨second, nano, leap⟩ := sound
  refine ⟨?_, ?_, ?_⟩
  · simp only [hour]
    omega
  · simp only [minute]
    omega
  · simp only [secondOfMinute]
    omega

theorem month_le (moment : Moment) : moment.date.month ≤ 12 := (CivilDate.ofDays_inYear moment.day).2.1

theorem day_le (moment : Moment) : moment.date.day ≤ 31 := CivilDate.day_ofDays_le moment.day

theorem bind_of_read {read : Option α} {value : α} (came : read = some value) (next : α → Option β) : read.bind next = next value := by
  rw [came, Option.bind_some]

/-- A fraction of three digits and the end of the text. -/
theorem fraction?_padded {value : Nat} (fits : value < 10 ^ 3) :
    fraction? ('.' :: ((padded 3 value).toList ++ ['Z'])) = some (value * 1000000, ['Z']) := by
  have length : (padded 3 value).toList.length = 3 := length_padded (by decide) fits
  have read : digits? 1 9 ((padded 3 value).toList ++ ['Z']) = some (value, ['Z']) := by
    rw [digits?_append (fun c => isDigit_padded) (by omega) (by omega) (.inr (by simp)), digitsValue_padded]
  simp [fraction?, read, length]

theorem timestamp?_format (sound : moment.Sound) (near : 0 ≤ moment.date.year ∧ moment.date.year ≤ 9999) :
    timestamp? moment.format.toList = ofParts? moment.date moment.hour moment.minute
      (moment.secondOfMinute + moment.nano / 1000000000) (moment.nano % 1000000000 / 1000000 * 1000000) 0 := by
  obtain ⟨hour, minute, second⟩ := sound.parts_lt
  have month := moment.month_le
  have day := moment.day_le
  have milli : moment.nano % 1000000000 / 1000000 < 10 ^ 3 := by omega
  have year : Int.ofNat moment.date.year.toNat = moment.date.year := Int.toNat_of_nonneg near.1
  have readYear : moment.date.year.toNat < 10 ^ 4 := by omega
  have two {value : Nat} (rest : List Char) (fits : value ≤ 60) : digits? 2 2 ((padded 2 value).toList ++ rest) = some (value, rest) :=
    digits?_padded rest (by decide) (by omega)
  rw [toList_format, yearText, if_pos near]
  unfold timestamp? behindYear
  -- Part by part: one rewriting of all binds at once visits what is behind every one of them anew.
  refine (bind_of_read (digits?_padded _ (by decide) readYear) _).trans ?_
  refine (bind_of_read (literal?_self '-' _) _).trans ?_
  refine (bind_of_read (two _ (Nat.le_trans month (by decide))) _).trans ?_
  refine (bind_of_read (literal?_self '-' _) _).trans ?_
  refine (bind_of_read (two _ (Nat.le_trans day (by decide))) _).trans ?_
  refine (bind_of_read (by rw [literal?_self, Option.some_or]) _).trans ?_
  refine (bind_of_read (two _ (Nat.le_trans hour.le (by decide))) _).trans ?_
  refine (bind_of_read (literal?_self ':' _) _).trans ?_
  refine (bind_of_read (two _ minute.le) _).trans ?_
  refine (bind_of_read (literal?_self ':' _) _).trans ?_
  refine (bind_of_read (two _ second) _).trans ?_
  refine (bind_of_read (fraction?_padded milli) _).trans ?_
  change ofParts? ⟨Int.ofNat moment.date.year.toNat, moment.date.month, moment.date.day⟩ _ _ _ _ _ = _
  rw [year]

/-- Seconds within a day are counted from its midnight. -/
theorem normalize?_within {day seconds : Int} {nano : Nat} (least : 0 ≤ seconds) (most : seconds < secondsPerDay)
    (years : CivilDate.minYear ≤ (CivilDate.ofDays day).year ∧ (CivilDate.ofDays day).year ≤ CivilDate.maxYear) :
    normalize? day seconds nano = some ⟨day, seconds.toNat, nano⟩ := by
  have carried : Int.fdiv seconds secondsPerDay = 0 := by
    rw [Int.fdiv_eq_ediv_of_nonneg _ (by decide)]
    exact Int.ediv_eq_zero_of_lt least most
  simp only [normalize?, carried, Int.add_zero, Int.zero_mul, Int.sub_zero, date]
  rw [if_pos (by simp [years])]

theorem ofParts?_format (sound : moment.Sound) (near : 0 ≤ moment.date.year ∧ moment.date.year ≤ 9999) :
    ofParts? moment.date moment.hour moment.minute (moment.secondOfMinute + moment.nano / 1000000000)
      (moment.nano % 1000000000 / 1000000 * 1000000) 0 = some moment.toMillisecond := by
  obtain ⟨hour, minute, second⟩ := sound.parts_lt
  have years : CivilDate.minYear ≤ moment.date.year ∧ moment.date.year ≤ CivilDate.maxYear := by
    simp only [CivilDate.minYear, CivilDate.maxYear]
    omega
  have valid : moment.date.isValid = true := CivilDate.isValid_ofDays years.1 years.2
  have day : moment.date.toDays = moment.day := CivilDate.toDays_ofDays moment.day
  have accepted : (moment.date.isValid && decide (moment.hour < 24) && decide (moment.minute < 60)
      && decide (moment.secondOfMinute + moment.nano / 1000000000 ≤ 60)) = true := by simp [valid, hour, minute, second]
  obtain ⟨inDay, nano, leap⟩ := sound
  have clock : moment.hour * 3600 + moment.minute * 60 + moment.secondOfMinute = moment.second := by
    simp only [Moment.hour, Moment.minute, Moment.secondOfMinute]
    omega
  rw [ofParts?, if_pos accepted, day]
  by_cases leaps : 1000000000 ≤ moment.nano
  · have last : moment.secondOfMinute = 59 := leap leaps
    have one : moment.nano / 1000000000 = 1 := by omega
    rw [last] at clock
    simp only [last, one, Nat.reduceAdd, beq_self_eq_true, if_true, clock, Int.ofNat_eq_natCast]
    rw [normalize?_within (by omega) (by simp only [secondsPerDay]; omega) years]
    simp only [toMillisecond, Option.some.injEq, Moment.mk.injEq, true_and]
    omega
  · have none : moment.nano / 1000000000 = 0 := by omega
    have early : (moment.secondOfMinute == 60) = false := by
      simp only [Moment.secondOfMinute, beq_eq_false_iff_ne]
      omega
    simp only [none, Nat.add_zero, early, Bool.false_eq_true, if_false, clock, Int.ofNat_eq_natCast]
    rw [normalize?_within (by omega) (by simp only [secondsPerDay]; omega) years]
    simp only [toMillisecond, Option.some.injEq, Moment.mk.injEq, true_and]
    omega

/-- A date of the years with four digits is read back to the millisecond. -/
theorem parse?_format (sound : moment.Sound) (near : 0 ≤ moment.date.year ∧ moment.date.year ≤ 9999) :
    parse? moment.format = some moment.toMillisecond := by
  rw [parse?, trim_format]
  simp only [timestamp?_format sound near, ofParts?_format sound near, Option.some_or]

/-! ## Years of other lengths -/

/-- What stands behind the date. -/
def behindDate (moment : Moment) : List Char :=
  'T' :: ((padded 2 moment.hour).toList ++ ':' :: ((padded 2 moment.minute).toList
    ++ ':' :: ((padded 2 (moment.secondOfMinute + moment.nano / 1000000000)).toList
    ++ '.' :: ((padded 3 (moment.nano % 1000000000 / 1000000)).toList ++ ['Z']))))

theorem toList_yearText_far {year : Int} (far : ¬ (0 ≤ year ∧ year ≤ 9999)) : ∃ sign, (sign = '-' ∨ sign = '+')
    ∧ (yearText year).toList = sign :: (padded 4 year.natAbs).toList := by
  rw [yearText, if_neg far, String.toList_append]
  split
  · exact ⟨'-', .inl rfl, rfl⟩
  · exact ⟨'+', .inr rfl, rfl⟩

/-- The year is read with its sign, however many digits it has. -/
theorem year?_far (value : Nat) {sign : Char} (signed : sign = '-' ∨ sign = '+') {rest : List Char}
    (stop : ∀ c ∈ rest.head?, c.isDigit = false) :
    ∃ year, year? (sign :: ((padded 4 value).toList ++ rest)) = some (year, rest) := by
  have some : 1 ≤ (padded 4 value).toList.length := by
    have digits := Nat.length_toDigits_pos (b := 10) (n := value)
    rw [toList_padded, List.length_append]
    omega
  have read : digits? 1 ((padded 4 value).toList ++ rest).length ((padded 4 value).toList ++ rest) = .some (value, rest) := by
    rw [digits?_append (fun c => isDigit_padded) some (by simp) (.inr stop), digitsValue_padded]
  rcases signed with rfl | rfl
  · refine ⟨-Int.ofNat value, ?_⟩
    rw [year?, List.dropWhile_cons_of_neg (by decide)]
    simp only [read, Option.map_some]
  · refine ⟨Int.ofNat value, ?_⟩
    rw [year?, List.dropWhile_cons_of_neg (by decide)]
    simp only [read, Option.map_some]

theorem civil?_far (far : ¬ (0 ≤ moment.date.year ∧ moment.date.year ≤ 9999)) :
    ∃ date, civil? moment.format.toList = some (date, moment.behindDate) := by
  obtain ⟨sign, signed, year⟩ := toList_yearText_far far
  obtain ⟨read, readYear⟩ := year?_far moment.date.year.natAbs signed (show ∀ c ∈ moment.behindYear.head?, c.isDigit = false by simp [behindYear])
  have month : moment.date.month < 10 ^ 2 := Nat.lt_of_le_of_lt moment.month_le (by decide)
  have day : moment.date.day < 10 ^ 2 := Nat.lt_of_le_of_lt moment.day_le (by decide)
  refine ⟨⟨read, moment.date.month, moment.date.day⟩, ?_⟩
  rw [toList_format, year, List.cons_append, civil?, readYear]
  simp only [behindYear, behindDate, Option.bind_eq_bind, Option.bind_some, literal?_self, field?_padded _ month, field?_padded _ day]
  rfl

/-- None of the three forms has a year with a sign and milliseconds. -/
theorem parse?_format_far (sound : moment.Sound) (far : ¬ (0 ≤ moment.date.year ∧ moment.date.year ≤ 9999)) :
    parse? moment.format = none := by
  obtain ⟨sign, signed, year⟩ := toList_yearText_far far
  obtain ⟨date, read⟩ := civil?_far far
  obtain ⟨hour, minute, second⟩ := sound.parts_lt
  have full : timestamp? moment.format.toList = none := by
    have unread : digits? 4 4 moment.format.toList = none := by
      rw [toList_format, year]
      rcases signed with rfl | rfl
      · rfl
      · rfl
    rw [timestamp?, unread]
    rfl
  have clock : localTimestamp? moment.format.toList = none := by
    rw [localTimestamp?, read]
    simp only [behindDate, Option.bind_eq_bind, Option.bind_some, literal?_self,
      field?_padded _ (Nat.lt_trans hour (by decide) : moment.hour < 10 ^ 2), field?_padded _ (Nat.lt_trans minute (by decide) : moment.minute < 10 ^ 2),
      field?_padded _ (Nat.lt_of_le_of_lt second (by decide))]
    rfl
  have alone : midnight? moment.format.toList = none := by
    rw [midnight?, read]
    rfl
  rw [parse?, trim_format]
  simp only [full, clock, alone, Option.none_or]

end

/-! ## Moments that are read or shifted -/

theorem digitsValue_lt {digits : List Char} (all : ∀ c ∈ digits, c.isDigit = true) : Number.digitsValue digits < 10 ^ digits.length := by
  rw [digitsValue_eq]
  induction digits using List.reverseRecOn with
  | nil => decide
  | append_singleton digits c ih =>
    have digit : c.isDigit = true := all c (by simp)
    have bounds : 48 ≤ c.toNat ∧ c.toNat ≤ 57 := by simpa [Char.isDigit, UInt32.le_iff_toNat_le] using digit
    have before := ih fun c among => all c (List.mem_append_left _ among)
    rw [Nat.ofDigitChars_append, Nat.ofDigitChars_cons, Nat.ofDigitChars_nil, List.length_append, List.length_singleton, Nat.pow_succ]
    have zero : '0'.toNat = 48 := rfl
    omega

/-- A number that was read has as many digits as characters are gone, and no more than were allowed. -/
theorem digits?_eq_some {least most value : Nat} {text rest : List Char} (read : digits? least most text = some (value, rest)) :
    text.length - rest.length ≤ most ∧ value < 10 ^ (text.length - rest.length) := by
  rw [digits?] at read
  split at read
  · cases read
  · cases read
    have short : ((text.take most).takeWhile Char.isDigit).length ≤ (text.take most).length :=
      (List.takeWhile_prefix _).length_le
    rw [List.length_take] at short
    have gone : text.length - (text.drop ((text.take most).takeWhile Char.isDigit).length).length
        = ((text.take most).takeWhile Char.isDigit).length := by
      rw [List.length_drop]
      omega
    rw [gone]
    refine ⟨by omega, digitsValue_lt fun c among => ?_⟩
    exact List.mem_takeWhile_imp among

theorem fraction?_lt {text rest : List Char} {nano : Nat} (read : fraction? text = some (nano, rest)) : nano < 1000000000 := by
  unfold fraction? at read
  split at read
  · next behind =>
    obtain ⟨⟨value, after⟩, digits, same⟩ := Option.bind_eq_some_iff.mp read
    cases same
    obtain ⟨short, fits⟩ := digits?_eq_some digits
    have scaled := Nat.mul_lt_mul_of_pos_right fits (Nat.pow_pos (n := 9 - (behind.length - after.length)) (by decide : 0 < 10))
    rw [← Nat.pow_add, Nat.add_sub_cancel' short] at scaled
    exact scaled
  · cases read
    decide

/-- Offsets are whole minutes. -/
theorem dvd_of_offset? {text rest : List Char} {offset : Int} (read : offset? text = some (offset, rest)) : 60 ∣ offset := by
  unfold offset? at read
  split at read
  · cases read
    exact Int.dvd_zero 60
  · cases read
    exact Int.dvd_zero 60
  · simp only [Option.bind_eq_bind, Option.bind_eq_some_iff, Option.pure_def, Option.some.injEq, Prod.mk.injEq, Prod.exists] at read
    obtain ⟨_, -, hours, _, -, _, -, minutes, _, -, _, -, _, -, same, -⟩ := read
    rw [← same]
    split
    · simp only [Int.ofNat_eq_natCast]
      omega
    · simp only [Int.ofNat_eq_natCast]
      omega
  · cases read

theorem normalize?_sound {day seconds : Int} {nano : Nat} {moment : Moment} (found : normalize? day seconds nano = some moment)
    (short : nano < 2000000000) (leap : 1000000000 ≤ nano → seconds % 60 = 59) : moment.Sound := by
  have carried : Int.fdiv seconds 86400 = seconds / 86400 := Int.fdiv_eq_ediv_of_nonneg _ (by decide)
  simp only [normalize?, secondsPerDay, carried] at found
  split at found
  · cases found
    refine ⟨?_, short, fun leaps => ?_⟩
    · simp only
      omega
    · have last := leap leaps
      simp only
      omega
  · cases found

theorem ofParts?_sound {date : CivilDate} {hour minute second nano : Nat} {offset : Int} {moment : Moment}
    (found : ofParts? date hour minute second nano offset = some moment) (short : nano < 1000000000) (whole : 60 ∣ offset) :
    moment.Sound := by
  rw [ofParts?] at found
  split at found
  · by_cases leaps : second = 60
    · simp only [leaps, beq_self_eq_true, if_true] at found
      apply normalize?_sound found (by omega)
      intro _
      simp only [Int.ofNat_eq_natCast]
      omega
    · have plain : (second == 60) = false := by simpa using leaps
      simp only [plain, Bool.false_eq_true, if_false] at found
      apply normalize?_sound found (by omega)
      intro leap
      omega
  · cases found

theorem timestamp?_sound {text : List Char} {moment : Moment} (read : timestamp? text = some moment) : moment.Sound := by
  unfold timestamp? at read
  -- Date and time, in eleven parts, may be any that are accepted.
  iterate 11 obtain ⟨_, -, read⟩ := Option.bind_eq_some_iff.mp read
  obtain ⟨⟨nano, _⟩, fraction, read⟩ := Option.bind_eq_some_iff.mp read
  obtain ⟨⟨offset, _⟩, zone, read⟩ := Option.bind_eq_some_iff.mp read
  obtain ⟨_, -, found⟩ := Option.bind_eq_some_iff.mp read
  exact ofParts?_sound found (fraction?_lt fraction) (dvd_of_offset? zone)

/-- Every text that is accepted tells a moment as clocks show it. -/
theorem parse?_sound {text : String} {moment : Moment} (read : parse? text = some moment) : moment.Sound := by
  rw [parse?, Option.or_eq_some_iff, Option.or_eq_some_iff] at read
  rcases read with full | ⟨-, clock | ⟨-, alone⟩⟩
  · exact timestamp?_sound full
  · simp only [localTimestamp?, Option.bind_eq_bind, Option.bind_eq_some_iff, Prod.exists] at clock
    obtain ⟨_, _, -, _, -, _, _, -, _, -, _, _, -, _, -, _, _, -, _, -, found⟩ := clock
    exact ofParts?_sound found (by decide) (Int.dvd_zero 60)
  · simp only [midnight?, Option.bind_eq_bind, Option.bind_eq_some_iff, Prod.exists] at alone
    obtain ⟨_, _, -, _, -, found⟩ := alone
    exact ofParts?_sound found (by decide) (Int.dvd_zero 60)

/-- Shifting by milliseconds stays within what clocks show, also into and out of a leap second. -/
theorem Sound.addMilliseconds? {moment shifted : Moment} (sound : moment.Sound) {amount : Int}
    (found : moment.addMilliseconds? amount = some shifted) : shifted.Sound := by
  obtain ⟨second, nano, leap⟩ := sound
  simp only [Moment.addMilliseconds?] at found
  split at found
  · next stays =>
    obtain ⟨isLeap, notAhead, -⟩ := stays
    cases found
    simp only [nanosPerSecond, Int.ofNat_eq_natCast] at isLeap notAhead
    refine ⟨second, ?_, fun _ => leap (by omega)⟩
    simp only [Int.ofNat_eq_natCast]
    omega
  · -- What remains of the nanoseconds once the full seconds are carried is no leap second.
    have short (fraction : Int) : (fraction - Int.fdiv fraction nanosPerSecond * nanosPerSecond).toNat < 1000000000 := by
      rw [Int.fdiv_eq_ediv_of_nonneg _ (by decide), nanosPerSecond]
      omega
    refine normalize?_sound found (Nat.lt_trans (short _) (by decide)) fun leaps => ?_
    exact absurd (short _) (Nat.not_lt.mpr leaps)

end LivePipeline.Moment
