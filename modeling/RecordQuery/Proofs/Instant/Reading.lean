import RecordQuery.Instant.Parser
import RecordQuery.Proofs.Instant.Calendar
import RecordQuery.Proofs.Text.Digits

/-!
# Reading instants back

Each reader reads what the printer of its part wrote and leaves the rest, so a
moment is read back from its text.  What a text is read as is always a moment
that is read back so.
-/

namespace RecordQuery.Instant

open Text

/-- Whether the moment lies in a year that an instant may lie in, its
nanoseconds within the second; more only after a second that can be leap. -/
structure IsValid (moment : Instant) : Prop where
  year_ge : Date.minYear ≤ moment.date.year
  year_le : moment.date.year ≤ Date.maxYear
  nanos_lt : moment.nanos < 2 * nanosPerSecond
  leap : nanosPerSecond ≤ moment.nanos → moment.seconds % 60 = 59

namespace Reader

theorem bind_run {α β : Type} (reader : Reader α) (next : α → Reader β)
    (letters : List Char) :
    (reader >>= next) letters =
      (reader letters).bind fun read => next read.1 read.2 :=
  rfl

theorem bind_eq_some_iff {α β : Type} {reader : Reader α}
    {next : α → Reader β} {letters rest : List Char} {value : β} :
    (reader >>= next) letters = some (value, rest) ↔
      ∃ read left, reader letters = some (read, left) ∧
        next read left = some (value, rest) := by
  rw [bind_run, Option.bind_eq_some_iff]
  exact Prod.exists

theorem lift_run {α : Type} (outcome : Option α) (letters : List Char) :
    (liftM outcome : Reader α) letters = outcome.map (·, letters) := by
  cases outcome <;> rfl

theorem whole?_eq_some_iff {α : Type} {reader : Reader α}
    {letters : List Char} {value : α} :
    whole? reader letters = some value ↔
      reader letters = some (value, []) := by
  unfold whole?
  split
  · rename_i read shape
    rw [shape, Option.some.injEq, Option.some.injEq, Prod.mk.injEq]
    exact (and_iff_left rfl).symm
  · rename_i other
    constructor
    · exact nofun
    · intro read
      exact (other value read).elim

/-! ## Marks and white space -/

@[simp]
theorem letter_cons (expected : Char) (rest : List Char) :
    letter expected (expected :: rest) = some ((), rest) := by
  simp [letter]

theorem isBlank_eq_false_of_isDigit {digit : Char}
    (isDigit : digit.isDigit = true) : isBlank digit = false := by
  have bounds := toNat_of_isDigit isDigit
  simp only [isBlank, Bool.or_eq_false_iff, Bool.and_eq_false_iff,
    decide_eq_false_iff_not, beq_eq_false_iff_ne]
  omega

theorem blanks_cons_of_not_blank {first : Char} (rest : List Char)
    (visible : isBlank first = false) :
    blanks (first :: rest) = some ((), first :: rest) := by
  simp [blanks, trimStart, visible]

theorem blanks_space (rest : List Char) :
    blanks (' ' :: rest) = blanks rest := by
  rfl

/-! ## Numbers -/

theorem exactly_append {count : Nat} {digits : List Char} (rest : List Char)
    (width : digits.length = count)
    (all : ∀ digit ∈ digits, digit.isDigit = true) :
    exactly count (digits ++ rest) = some (digitsValue digits, rest) := by
  have taken : (digits ++ rest).take count = digits := by
    rw [← width, List.take_left]
  have left : (digits ++ rest).drop count = rest := by
    rw [← width, List.drop_left]
  simp only [exactly, taken, left]
  rw [if_pos ⟨width, List.all_eq_true.mpr all⟩]

theorem exactly_padded {width number : Nat} (rest : List Char)
    (positive : 0 < width) (below : number < 10 ^ width) :
    exactly width (padded width number ++ rest) = some (number, rest) := by
  rw [exactly_append rest (length_padded positive below)
    (padded_isDigit width number), digitsValue_padded]

theorem exactly_cons_of_not_isDigit {count : Nat} {first : Char}
    (rest : List Char) (positive : 0 < count)
    (other : first.isDigit = false) :
    exactly count (first :: rest) = none := by
  obtain ⟨less, rfl⟩ := Nat.exists_eq_succ_of_ne_zero (Nat.ne_of_gt positive)
  simp [exactly, other]

theorem upTo_append {count : Nat} {digits : List Char} (rest : List Char)
    (width : digits.length = count) (nonempty : digits ≠ [])
    (all : ∀ digit ∈ digits, digit.isDigit = true) :
    upTo count (digits ++ rest) = some (digitsValue digits, rest) := by
  have taken : (digits ++ rest).take count = digits := by
    rw [← width, List.take_left]
  have kept : digits.takeWhile Char.isDigit = digits := by
    have whole := takeWhile_isDigit_append all undigited_nil
    rwa [List.append_nil] at whole
  simp only [upTo, taken, kept, List.isEmpty_iff]
  rw [if_neg nonempty, List.drop_left]

theorem upTo_padded {width number : Nat} (rest : List Char)
    (positive : 0 < width) (below : number < 10 ^ width) :
    upTo width (padded width number ++ rest) = some (number, rest) := by
  rw [upTo_append rest (length_padded positive below)
    (padded_ne_nil width number) (padded_isDigit width number),
    digitsValue_padded]

theorem all_padded (width number : Nat) {rest : List Char}
    (ends : Undigited rest) :
    all (padded width number ++ rest) = some (number, rest) := by
  have taken :=
    takeWhile_isDigit_append (padded_isDigit width number) ends
  simp only [all, taken, List.isEmpty_iff]
  rw [if_neg (padded_ne_nil width number), List.drop_left,
    digitsValue_padded]

/-- Digits in front are not white space. -/
theorem blanks_padded (width number : Nat) (rest : List Char) :
    blanks (padded width number ++ rest) =
      some ((), padded width number ++ rest) := by
  obtain ⟨first, more, shape, isDigit⟩ := exists_padded_eq_cons width number
  rw [shape]
  exact blanks_cons_of_not_blank _ (isBlank_eq_false_of_isDigit isDigit)

theorem loose_padded {width number : Nat} (rest : List Char)
    (positive : 0 < width) (below : number < 10 ^ width) :
    loose width (padded width number ++ rest) = some (number, rest) := by
  rw [loose, bind_run, blanks_padded, Option.bind_some,
    upTo_padded rest positive below]

/-! ## Years and fractions -/

/-- Four digits at most, where no sign comes first. -/
theorem year_of_isDigit {first : Char} (more : List Char)
    (isDigit : first.isDigit = true) :
    year (first :: more) =
      (upTo 4 (first :: more)).map fun read => ((read.1 : Int), read.2) := by
  rw [year, bind_run,
    blanks_cons_of_not_blank _ (isBlank_eq_false_of_isDigit isDigit),
    Option.bind_some]
  split
  · rename_i shape
    cases shape
    cases isDigit
  · rename_i shape
    cases shape
    cases isDigit
  · rfl

theorem year_yearLetters (value : Int) {rest : List Char}
    (ends : Undigited rest) :
    year (yearLetters value ++ rest) = some (value, rest) := by
  rw [yearLetters]
  by_cases short : 0 ≤ value ∧ value ≤ 9999
  · have below : value.toNat < 10 ^ 4 := by omega
    have read := upTo_padded rest (by decide : 0 < 4) below
    obtain ⟨first, more, shape, isDigit⟩ :=
      exists_padded_eq_cons 4 value.toNat
    rw [shape] at read
    rw [if_pos short, shape, List.cons_append, year_of_isDigit _ isDigit]
    rw [List.cons_append] at read
    rw [read, Option.map_some, Int.toNat_of_nonneg short.1]
  · rw [if_neg short]
    have read := all_padded 4 value.natAbs ends
    by_cases negative : value < 0
    · have magnitude : -(value.natAbs : Int) = value := by omega
      rw [if_pos negative, List.cons_append, year, bind_run,
        blanks_cons_of_not_blank _ (by decide), Option.bind_some]
      show Option.map _ (all _) = _
      rw [read]
      exact congrArg (fun number => some (number, rest)) magnitude
    · have magnitude : (value.natAbs : Int) = value := by omega
      rw [if_neg negative, List.cons_append, year, bind_run,
        blanks_cons_of_not_blank _ (by decide), Option.bind_some]
      show Option.map _ (all _) = _
      rw [read]
      exact congrArg (fun number => some (number, rest)) magnitude

/-- The nanoseconds that a point and digits count. -/
theorem fraction_point_padded {width number : Nat} {rest : List Char}
    (positive : 0 < width) (most : width ≤ 9) (below : number < 10 ^ width)
    (ends : Undigited rest) :
    fraction ('.' :: (padded width number ++ rest)) =
      some (number * 10 ^ (9 - width), rest) := by
  have taken := takeWhile_isDigit_append (padded_isDigit width number) ends
  have length := length_padded positive below
  have kept : (padded width number).take 9 = padded width number :=
    List.take_of_length_le (by omega)
  simp only [fraction, taken, List.isEmpty_iff]
  rw [if_neg (padded_ne_nil width number), kept, digitsValue_padded,
    List.drop_left, length]
  rfl

theorem fraction_fractionLetters {nanos : Nat} (rest : List Char)
    (below : nanos < nanosPerSecond) (ends : Undigited rest)
    (pointless : rest.head? ≠ some '.') :
    fraction (fractionLetters nanos ++ rest) = some (nanos, rest) := by
  have limit : nanos < 1000000000 := below
  unfold fractionLetters
  split_ifs with none millis micros
  · rw [none, List.nil_append, fraction]
    intro _ shape
    exact pointless (by rw [shape, List.head?_cons])
  · rw [List.cons_append, fraction_point_padded (by decide) (by decide)
      (by omega) ends]
    have whole : nanos / 1000000 * 10 ^ 6 = nanos := by omega
    exact congrArg (fun value => some (value, rest)) whole
  · rw [List.cons_append, fraction_point_padded (by decide) (by decide)
      (by omega) ends]
    have whole : nanos / 1000 * 10 ^ 3 = nanos := by omega
    exact congrArg (fun value => some (value, rest)) whole
  · rw [List.cons_append, fraction_point_padded (by decide) (by decide)
      (by omega) ends]
    exact congrArg (fun value => some (value, rest)) (Nat.mul_one nanos)

/-! ## Dates and times of day -/

theorem timeMark_space (rest : List Char) :
    timeMark (' ' :: rest) = some ((), rest) :=
  rfl

theorem looseDate_letters (value : Int) {month day : Nat} (rest : List Char)
    (monthBelow : month < 100) (dayBelow : day < 100) :
    looseDate
        (yearLetters value ++ '-' :: (padded 2 month ++
          '-' :: (padded 2 day ++ rest))) =
      some ((value, month, day), rest) := by
  have mark : ('-' : Char).isDigit = false := rfl
  simp only [looseDate, bind_run, Option.bind_some, letter_cons,
    year_yearLetters value (undigited_cons _ mark),
    loose_padded _ (by decide : 0 < 2) monthBelow,
    loose_padded _ (by decide : 0 < 2) dayBelow]
  rfl

theorem looseTime_letters {hour minute second nanos : Nat}
    (rest : List Char) (hourBelow : hour < 100) (minuteBelow : minute < 100)
    (secondBelow : second < 100) (nanosBelow : nanos < nanosPerSecond)
    (ends : Undigited rest) (pointless : rest.head? ≠ some '.') :
    looseTime
        (padded 2 hour ++ ':' :: (padded 2 minute ++
          ':' :: (padded 2 second ++ (fractionLetters nanos ++ rest)))) =
      some ((hour, minute, second, nanos), rest) := by
  simp only [looseTime, bind_run, Option.bind_some, letter_cons,
    loose_padded _ (by decide : 0 < 2) hourBelow,
    loose_padded _ (by decide : 0 < 2) minuteBelow,
    loose_padded _ (by decide : 0 < 2) secondBelow,
    fraction_fractionLetters rest nanosBelow ends pointless]
  rfl

end Reader

/-! ## The moment of a text -/

theorem month_lt (moment : Instant) : moment.date.month < 100 := by
  have most := (Date.isValid_ofDays (moment.seconds / secondsPerDay)).month_le
  exact Nat.lt_of_le_of_lt most (by decide)

theorem day_lt (moment : Instant) : moment.date.day < 100 := by
  have most := (Date.isValid_ofDays (moment.seconds / secondsPerDay)).day_le
  exact Nat.lt_of_le_of_lt most
    (Nat.lt_of_le_of_lt (Date.daysInMonth_le _ _) (by decide))

theorem secondOfDay_lt (moment : Instant) : moment.secondOfDay < 86400 := by
  simp only [secondOfDay, secondsPerDay]
  omega

theorem ofCivil_sixty (date : Date) (hour minute nanos : Nat) :
    ofCivil date hour minute 60 nanos =
      ⟨date.toDays * secondsPerDay + hour * 3600 + minute * 60 + 59,
        nanos + nanosPerSecond⟩ :=
  rfl

theorem ofCivil_of_ne_sixty {date : Date} {hour minute second nanos : Nat}
    (other : second ≠ 60) :
    ofCivil date hour minute second nanos =
      ⟨date.toDays * secondsPerDay + hour * 3600 + minute * 60 + second,
        nanos⟩ := by
  simp [ofCivil, other]

namespace IsValid

variable {moment : Instant}

theorem second_le (valid : moment.IsValid) :
    moment.secondOfDay % 60 + moment.nanos / nanosPerSecond ≤ 60 := by
  have limit : moment.nanos < 2 * 1000000000 := valid.nanos_lt
  have leap : 1000000000 ≤ moment.nanos → moment.seconds % 60 = 59 :=
    valid.leap
  simp only [secondOfDay, secondsPerDay, nanosPerSecond]
  omega

theorem valid?_date (valid : moment.IsValid) :
    Date.valid? moment.date.year moment.date.month moment.date.day =
      some moment.date := by
  have calendar : moment.date.IsValid := Date.isValid_ofDays _
  rw [Date.valid?, if_pos ⟨valid.year_ge, valid.year_le, calendar.month_pos,
    calendar.month_le, calendar.day_pos, calendar.day_le⟩]

theorem ofCivil_parts (valid : moment.IsValid) :
    ofCivil moment.date (moment.secondOfDay / 3600)
        (moment.secondOfDay / 60 % 60)
        (moment.secondOfDay % 60 + moment.nanos / nanosPerSecond)
        (moment.nanos % nanosPerSecond) = moment := by
  have limit : moment.nanos < 2 * 1000000000 := valid.nanos_lt
  have days : moment.date.toDays = moment.seconds / 86400 :=
    Date.toDays_ofDays _
  have clock : (moment.secondOfDay : Int) = moment.seconds % 86400 := by
    simp only [secondOfDay, secondsPerDay]
    omega
  by_cases leaps : 1000000000 ≤ moment.nanos
  · have last : moment.seconds % 60 = 59 := valid.leap leaps
    have sixty :
        moment.secondOfDay % 60 + moment.nanos / nanosPerSecond = 60 := by
      simp only [nanosPerSecond]
      omega
    rw [sixty, ofCivil_sixty, Instant.mk.injEq, days]
    simp only [secondsPerDay, nanosPerSecond]
    omega
  · have fewer :
        moment.secondOfDay % 60 + moment.nanos / nanosPerSecond ≠ 60 := by
      simp only [nanosPerSecond]
      omega
    rw [ofCivil_of_ne_sixty fewer, Instant.mk.injEq, days]
    simp only [secondsPerDay, nanosPerSecond]
    omega

theorem ofParts?_parts (valid : moment.IsValid) :
    ofParts? moment.date.year moment.date.month moment.date.day
        (moment.secondOfDay / 3600) (moment.secondOfDay / 60 % 60)
        (moment.secondOfDay % 60 + moment.nanos / nanosPerSecond)
        (moment.nanos % nanosPerSecond) = some moment := by
  have hour : moment.secondOfDay / 3600 < 24 := by
    simp only [secondOfDay, secondsPerDay]
    omega
  have minute : moment.secondOfDay / 60 % 60 < 60 := Nat.mod_lt _ (by decide)
  rw [ofParts?, if_pos ⟨hour, minute, valid.second_le⟩, valid.valid?_date,
    Option.map_some, valid.ofCivil_parts]

end IsValid

/-- The internet format needs an offset behind the time of day. -/
theorem internet_letters {moment : Instant} (valid : moment.IsValid) :
    Reader.internet (moment.letters ' ') = none := by
  have clockBelow := moment.secondOfDay_lt
  have secondBelow := valid.second_le
  have fraction :=
    Reader.fraction_fractionLetters []
      (Nat.mod_lt moment.nanos (by decide : 0 < nanosPerSecond))
      undigited_nil nofun
  rw [List.append_nil] at fraction
  simp only [letters, List.append_assoc, List.cons_append]
  rw [Reader.internet, Reader.bind_run]
  unfold yearLetters
  split_ifs with short negative
  · rw [Reader.exactly_padded _ (by decide)
        (by omega : moment.date.year.toNat < 10 ^ 4), Option.bind_some,
      Reader.bind_run, Reader.letter_cons, Option.bind_some,
      Reader.bind_run, Reader.exactly_padded _ (by decide) moment.month_lt,
      Option.bind_some,
      Reader.bind_run, Reader.letter_cons, Option.bind_some,
      Reader.bind_run, Reader.exactly_padded _ (by decide) moment.day_lt,
      Option.bind_some,
      Reader.bind_run, Reader.timeMark_space, Option.bind_some,
      Reader.bind_run, Reader.exactly_padded _ (by decide)
        (by omega : moment.secondOfDay / 3600 < 10 ^ 2), Option.bind_some,
      Reader.bind_run, Reader.letter_cons, Option.bind_some,
      Reader.bind_run, Reader.exactly_padded _ (by decide)
        (by omega : moment.secondOfDay / 60 % 60 < 10 ^ 2), Option.bind_some,
      Reader.bind_run, Reader.letter_cons, Option.bind_some,
      Reader.bind_run, Reader.exactly_padded _ (by decide)
        (Nat.lt_of_le_of_lt secondBelow (by decide)), Option.bind_some,
      Reader.bind_run, fraction, Option.bind_some]
    rfl
  · rw [List.cons_append,
      Reader.exactly_cons_of_not_isDigit _ (by decide) (by decide),
      Option.bind_none]
  · rw [List.cons_append,
      Reader.exactly_cons_of_not_isDigit _ (by decide) (by decide),
      Option.bind_none]

theorem civil_letters {moment : Instant} (valid : moment.IsValid) :
    Reader.civil .blanks (moment.letters ' ') = some (moment, []) := by
  have clockBelow := moment.secondOfDay_lt
  have secondBelow := valid.second_le
  have time :=
    Reader.looseTime_letters []
      (by omega : moment.secondOfDay / 3600 < 100)
      (by omega : moment.secondOfDay / 60 % 60 < 100)
      (Nat.lt_of_le_of_lt secondBelow (by decide))
      (Nat.mod_lt moment.nanos (by decide : 0 < nanosPerSecond))
      undigited_nil nofun
  simp only [letters, List.append_assoc, List.cons_append, Reader.civil,
    Reader.bind_run, Option.bind_some,
    Reader.looseDate_letters _ _ moment.month_lt moment.day_lt,
    Reader.blanks_space, Reader.blanks_padded]
  rw [List.append_nil] at time
  rw [time, Option.bind_some, Reader.lift_run]
  exact congrArg (Option.map (·, [])) valid.ofParts?_parts

/-- A moment is read back from its text. -/
theorem ofText?_text {moment : Instant} (valid : moment.IsValid) :
    ofText? moment.text = some moment := by
  rw [text, ofText?, String.toList_ofList]
  simp only [Reader.whole?, internet_letters valid, civil_letters valid]
  rfl

theorem text_inj_of_isValid {left right : Instant}
    (leftValid : left.IsValid) (rightValid : right.IsValid)
    (same : left.text = right.text) : left = right := by
  have read := ofText?_text leftValid
  rw [same, ofText?_text rightValid, Option.some.injEq] at read
  exact read.symm

/-! ## Nanoseconds beyond a second -/

/-- Whether the moment lies in a year that an instant may lie in, its
nanoseconds within two seconds. -/
structure IsRepresentable (moment : Instant) : Prop where
  year_ge : Date.minYear ≤ moment.date.year
  year_le : moment.date.year ≤ Date.maxYear
  nanos_lt : moment.nanos < 2 * nanosPerSecond

/-- The moment with its nanoseconds within the second, unless a leap second may
follow. -/
def settled (moment : Instant) : Instant :=
  if nanosPerSecond ≤ moment.nanos ∧ moment.seconds % 60 ≠ 59 then
    ⟨moment.seconds + 1, moment.nanos - nanosPerSecond⟩
  else moment

/-- Whether the nanoseconds lie within the second or in a leap second that is
the last of its minute. -/
def IsOnClock (moment : Instant) : Prop :=
  nanosPerSecond ≤ moment.nanos → moment.seconds % 60 = 59

theorem settled_eq_self_iff {moment : Instant} :
    moment.settled = moment ↔ moment.IsOnClock := by
  by_cases beyond :
    nanosPerSecond ≤ moment.nanos ∧ moment.seconds % 60 ≠ 59
  · rw [settled, if_pos beyond]
    refine iff_of_false (fun same => ?_) fun onClock =>
      beyond.2 (onClock beyond.1)
    have later : moment.seconds + 1 = moment.seconds :=
      congrArg Instant.seconds same
    omega
  · rw [settled, if_neg beyond]
    refine iff_of_true rfl fun leaps => ?_
    by_contra other
    exact beyond ⟨leaps, other⟩

theorem date_settled (moment : Instant) :
    moment.settled.date = moment.date := by
  by_cases beyond :
    nanosPerSecond ≤ moment.nanos ∧ moment.seconds % 60 ≠ 59
  · have day :
        (moment.seconds + 1) / secondsPerDay =
          moment.seconds / secondsPerDay := by
      simp only [secondsPerDay]
      omega
    rw [settled, if_pos beyond, date, date, day]
  · rw [settled, if_neg beyond]

theorem isValid_settled {moment : Instant}
    (representable : moment.IsRepresentable) : moment.settled.IsValid := by
  have limit : moment.nanos < 2 * 1000000000 := representable.nanos_lt
  have sameDate := date_settled moment
  by_cases beyond :
    nanosPerSecond ≤ moment.nanos ∧ moment.seconds % 60 ≠ 59
  · have below : moment.nanos - nanosPerSecond < nanosPerSecond := by
      simp only [nanosPerSecond]
      omega
    rw [settled, if_pos beyond] at sameDate ⊢
    refine ⟨?_, ?_, ?_, fun leaps => ?_⟩
    · rw [sameDate]
      exact representable.year_ge
    · rw [sameDate]
      exact representable.year_le
    · exact Nat.lt_trans below (by decide)
    · exact (Nat.not_le.mpr below leaps).elim
  · rw [settled, if_neg beyond]
    refine ⟨representable.year_ge, representable.year_le,
      representable.nanos_lt, fun leaps => ?_⟩
    by_contra other
    exact beyond ⟨leaps, other⟩

theorem text_settled (moment : Instant) :
    moment.settled.text = moment.text := by
  by_cases beyond :
    nanosPerSecond ≤ moment.nanos ∧ moment.seconds % 60 ≠ 59
  · obtain ⟨more, inMinute⟩ := beyond
    have sameDate := date_settled moment
    have parts := settled.eq_1 moment
    rw [if_pos ⟨more, inMinute⟩] at parts
    have clock :
        moment.settled.secondOfDay = moment.secondOfDay + 1 ∧
          moment.secondOfDay % 60 ≠ 59 := by
      rw [parts]
      simp only [secondOfDay, secondsPerDay]
      omega
    have carried : moment.settled.nanos + nanosPerSecond = moment.nanos := by
      rw [parts]
      exact Nat.sub_add_cancel more
    have hour :
        (moment.secondOfDay + 1) / 3600 = moment.secondOfDay / 3600 := by
      omega
    have minute :
        (moment.secondOfDay + 1) / 60 = moment.secondOfDay / 60 := by
      omega
    have second :
        (moment.secondOfDay + 1) % 60 +
            moment.settled.nanos / nanosPerSecond =
          moment.secondOfDay % 60 + moment.nanos / nanosPerSecond := by
      simp only [nanosPerSecond] at *
      omega
    have fraction :
        moment.settled.nanos % nanosPerSecond =
          moment.nanos % nanosPerSecond := by
      rw [← carried, Nat.add_mod_right]
    simp only [text, letters, sameDate, clock.1, hour, minute, second,
      fraction]
  · rw [settled, if_neg beyond]

/-- Moments are shown alike exactly when they are the same, nanoseconds beyond a
second counted into the next. -/
theorem text_eq_iff {left right : Instant}
    (leftRepresentable : left.IsRepresentable)
    (rightRepresentable : right.IsRepresentable) :
    left.text = right.text ↔ left.settled = right.settled := by
  rw [← text_settled left, ← text_settled right]
  constructor
  · exact text_inj_of_isValid (isValid_settled leftRepresentable)
      (isValid_settled rightRepresentable)
  · intro same
    rw [same]

/-! ## The moments that texts name -/

theorem Reader.exactly_lt {count number : Nat} {letters rest : List Char}
    (read : exactly count letters = some (number, rest)) :
    number < 10 ^ count := by
  simp only [exactly] at read
  split at read
  · rename_i shape
    rw [Option.some.injEq, Prod.mk.injEq] at read
    have below := digitsValue_lt _ (List.all_eq_true.mp shape.2)
    rwa [shape.1, read.1] at below
  · cases read

theorem Reader.fraction_lt {nanos : Nat} {letters rest : List Char}
    (read : fraction letters = some (nanos, rest)) :
    nanos < nanosPerSecond := by
  unfold fraction at read
  split at read
  · rename_i digits
    simp only at read
    split at read
    · cases read
    · rw [Option.some.injEq, Prod.mk.injEq] at read
      obtain ⟨counted, -⟩ := read
      have few : ((digits.takeWhile Char.isDigit).take 9).length ≤ 9 :=
        List.length_take_le 9 _
      have value :
          digitsValue ((digits.takeWhile Char.isDigit).take 9) <
            10 ^ ((digits.takeWhile Char.isDigit).take 9).length :=
        digitsValue_lt _ fun letter member =>
          List.all_eq_true.mp List.all_takeWhile letter
            (List.mem_of_mem_take member)
      generalize (digits.takeWhile Char.isDigit).take 9 = kept at *
      have scaled :
          digitsValue kept * 10 ^ (9 - kept.length) <
            10 ^ kept.length * 10 ^ (9 - kept.length) :=
        Nat.mul_lt_mul_of_pos_right value (Nat.pow_pos (by decide))
      rw [← Nat.pow_add, Nat.add_sub_cancel' few] at scaled
      rw [← counted]
      exact scaled
  · rw [Option.some.injEq, Prod.mk.injEq] at read
    rw [← read.1]
    decide

theorem valid?_of_ofParts? {year : Int}
    {month day hour minute second nanos : Nat} {moment : Instant}
    (read : ofParts? year month day hour minute second nanos = some moment) :
    (hour < 24 ∧ minute < 60 ∧ second ≤ 60) ∧
      ∃ date, Date.valid? year month day = some date ∧
        ofCivil date hour minute second nanos = moment := by
  unfold ofParts? at read
  split at read
  · rename_i bounds
    exact ⟨bounds, Option.map_eq_some_iff.mp read⟩
  · cases read

/-- The whole minutes and the second of a moment read from its parts; a leap
second is the last of its minute. -/
theorem seconds_of_ofCivil (date : Date) {hour minute second nanos : Nat}
    (hourBelow : hour < 24) (minuteBelow : minute < 60) (most : second ≤ 60)
    (below : nanos < nanosPerSecond) :
    let moment := ofCivil date hour minute second nanos
    moment.seconds / secondsPerDay = date.toDays ∧
      moment.nanos < 2 * nanosPerSecond ∧
      (nanosPerSecond ≤ moment.nanos → moment.seconds % 60 = 59) := by
  have limit : nanos < 1000000000 := below
  by_cases leap : second = 60
  · subst leap
    simp only [ofCivil_sixty, secondsPerDay, nanosPerSecond]
    omega
  · simp only [ofCivil_of_ne_sixty leap, secondsPerDay, nanosPerSecond]
    omega

theorem isValid_ofCivil {date : Date} {hour minute second nanos : Nat}
    (hourBelow : hour < 24) (minuteBelow : minute < 60) (most : second ≤ 60)
    (below : nanos < nanosPerSecond) (valid : date.IsValid)
    (yearGe : Date.minYear ≤ date.year) (yearLe : date.year ≤ Date.maxYear) :
    (ofCivil date hour minute second nanos).IsValid := by
  obtain ⟨days, nanosLt, leap⟩ :=
    seconds_of_ofCivil date hourBelow minuteBelow most below
  have day : (ofCivil date hour minute second nanos).date = date := by
    rw [Instant.date, days, Date.ofDays_toDays valid]
  exact ⟨by rwa [day], by rwa [day], nanosLt, leap⟩

/-- An offset moves a moment of the years that the internet format writes by
whole minutes and at most into the next year. -/
theorem isValid_shift_ofCivil {date : Date}
    {hour minute second nanos : Nat} {offset : Int}
    (hourBelow : hour < 24) (minuteBelow : minute < 60) (most : second ≤ 60)
    (below : nanos < nanosPerSecond) (valid : date.IsValid)
    (yearNonneg : 0 ≤ date.year) (yearLe : date.year ≤ 9999)
    (minutes : offset % 60 = 0) (least : -secondsPerDay < offset)
    (within : offset < secondsPerDay) :
    IsValid
      ⟨(ofCivil date hour minute second nanos).seconds - offset,
        (ofCivil date hour minute second nanos).nanos⟩ := by
  obtain ⟨days, nanosLt, leap⟩ :=
    seconds_of_ofCivil date hourBelow minuteBelow most below
  generalize ofCivil date hour minute second nanos = moment at *
  rcases moment with ⟨seconds, nanos⟩
  have lower := Date.toDays_ge_of_year_nonneg valid yearNonneg
  have upper := Date.toDays_le_of_year_nonneg valid yearNonneg
  simp only [secondsPerDay] at days least within
  have calendar := Date.isValid_ofDays ((seconds - offset) / 86400)
  have counted := Date.toDays_ofDays ((seconds - offset) / 86400)
  refine ⟨?_, ?_, nanosLt, ?_⟩
  · by_contra early
    change ¬(-262143 : Int) ≤
      (Date.ofDays ((seconds - offset) / 86400)).year at early
    have few := Date.toDays_le_of_year_neg calendar (by omega)
    omega
  · by_contra late
    change ¬(Date.ofDays ((seconds - offset) / 86400)).year ≤
      (262142 : Int) at late
    have many := Date.toDays_ge_of_year_nonneg calendar (by omega)
    omega
  · intro leaps
    have last : seconds % 60 = 59 := leap leaps
    simp only
    omega

theorem isValid_ofParts? {year : Int}
    {month day hour minute second nanos : Nat} {moment : Instant}
    (below : nanos < nanosPerSecond)
    (read : ofParts? year month day hour minute second nanos = some moment) :
    moment.IsValid := by
  obtain ⟨⟨hourBelow, minuteBelow, most⟩, date, found, rfl⟩ :=
    valid?_of_ofParts? read
  obtain ⟨rfl, valid, yearGe, yearLe⟩ := Date.valid?_eq_some_iff.mp found
  exact isValid_ofCivil hourBelow minuteBelow most below valid yearGe yearLe

namespace Reader

theorem looseTime_nanos_lt {hour minute second nanos : Nat}
    {letters rest : List Char}
    (read : looseTime letters = some ((hour, minute, second, nanos), rest)) :
    nanos < nanosPerSecond := by
  simp only [looseTime, bind_eq_some_iff] at read
  obtain ⟨_, _, -, _, _, -, _, _, -, _, _, -, _, _, -, last, _, fractionRead,
    whole⟩ := read
  cases whole
  exact fraction_lt fractionRead

theorem isValid_civil {mark : Reader Unit} {letters rest : List Char}
    {moment : Instant}
    (read : civil mark letters = some (moment, rest)) : moment.IsValid := by
  simp only [civil, bind_eq_some_iff, lift_run, Option.map_eq_some_iff,
    Prod.mk.injEq] at read
  obtain ⟨_, _, -, _, _, -, ⟨_, _, _, nanos⟩, _, timeRead, _, parts, rfl, -⟩ :=
    read
  exact isValid_ofParts? (looseTime_nanos_lt timeRead) parts

theorem isValid_midnight {letters rest : List Char} {moment : Instant}
    (read : midnight letters = some (moment, rest)) : moment.IsValid := by
  simp only [midnight, bind_eq_some_iff, lift_run, Option.map_eq_some_iff,
    Prod.mk.injEq] at read
  obtain ⟨_, _, -, _, parts, rfl, -⟩ := read
  exact isValid_ofParts? (by decide) parts

theorem offsetSeconds?_within {negative : Bool} {hours minutes : Nat}
    {offset : Int}
    (read : offsetSeconds? negative hours minutes = some offset) :
    offset % 60 = 0 ∧ -secondsPerDay < offset ∧ offset < secondsPerDay := by
  simp only [offsetSeconds?] at read
  split at read
  · rename_i bounds
    rw [Option.some.injEq] at read
    simp only [secondsPerDay] at *
    split at read <;> omega
  · cases read

theorem offset_within {letters rest : List Char} {offset : Int}
    (read : Reader.offset letters = some (offset, rest)) :
    offset % 60 = 0 ∧ -secondsPerDay < offset ∧ offset < secondsPerDay := by
  unfold Reader.offset at read
  split at read
  · cases read
    decide
  · cases read
    decide
  · simp only [bind_eq_some_iff, lift_run, Option.map_eq_some_iff,
      Prod.mk.injEq] at read
    obtain ⟨_, _, -, _, _, -, _, _, -, _, _, -, _, found, rfl, -⟩ := read
    exact offsetSeconds?_within found

theorem isValid_internet {letters rest : List Char} {moment : Instant}
    (read : internet letters = some (moment, rest)) : moment.IsValid := by
  simp only [internet, bind_eq_some_iff, lift_run, Option.map_eq_some_iff,
    Prod.mk.injEq] at read
  obtain ⟨year, _, yearRead, _, _, -, _, _, -, _, _, -, _, _, -, _, _, -,
    _, _, -, _, _, -, _, _, -, _, _, -, _, _, -, nanos, _, fractionRead,
    offset, _, offsetRead, _, _, ⟨_, parts, rfl, -⟩, whole⟩ := read
  cases whole
  have yearBelow := exactly_lt yearRead
  obtain ⟨minutes, least, within⟩ := offset_within offsetRead
  obtain ⟨⟨hourBelow, minuteBelow, most⟩, date, found, rfl⟩ :=
    valid?_of_ofParts? parts
  obtain ⟨rfl, valid, -, -⟩ := Date.valid?_eq_some_iff.mp found
  exact isValid_shift_ofCivil hourBelow minuteBelow most
    (fraction_lt fractionRead) valid (by simp only; omega)
    (by simp only; omega) minutes least within

end Reader

/-- Whichever of the four formats the text is read by. -/
theorem ofText?_cases {text : String} {moment : Instant}
    (read : ofText? text = some moment) :
    Reader.internet text.toList = some (moment, []) ∨
      Reader.civil .blanks text.toList = some (moment, []) ∨
      Reader.civil (.letter 'T') text.toList = some (moment, []) ∨
      Reader.midnight text.toList = some (moment, []) := by
  simp only [ofText?, Option.orElse_eq_orElse, Option.orElse_eq_or,
    Option.or_eq_some_iff, Reader.whole?_eq_some_iff] at read
  exact read.imp_right fun later =>
    later.2.imp_right fun later => later.2.imp_right And.right

theorem isValid_ofText? {text : String} {moment : Instant}
    (read : ofText? text = some moment) : moment.IsValid := by
  rcases ofText?_cases read with
    asInternet | asCivil | asMarked | asMidnight
  · exact Reader.isValid_internet asInternet
  · exact Reader.isValid_civil asCivil
  · exact Reader.isValid_civil asMarked
  · exact Reader.isValid_midnight asMidnight

end RecordQuery.Instant
