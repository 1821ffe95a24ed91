import RealmAuth.Proofs.Clock.Gregorian

namespace RealmAuth

/-!
Instants and the calendar.  A stamp is a date with a time of day, and it tells an
instant by the days, hours, minutes, seconds and microseconds that went before it.
Every instant is told by exactly one stamp, and of two instants the later one has the
later stamp, field by field.
-/

namespace Stamp

/-- A stamp of a date, with a time that a clock of twenty-four hours shows. -/
structure Valid (stamp : Stamp) : Prop where
  date : stamp.date.Valid
  hour : stamp.hour < 24
  minute : stamp.minute < 60
  second : stamp.second < 60
  micros : stamp.micros < 1000000

/-- The whole seconds from the start of 1970 to a stamp. -/
def seconds (stamp : Stamp) : Int :=
  stamp.date.days * Calendar.secondsPerDay +
    (stamp.hour * 3600 + stamp.minute * 60 + stamp.second : Nat)

def toInstant (stamp : Stamp) : Instant :=
  .ofUnix stamp.seconds stamp.micros

/-- The times of day of two stamps come one before the other. -/
def Earlier (first second : Stamp) : Prop :=
  first.hour < second.hour ∨ first.hour = second.hour ∧
    (first.minute < second.minute ∨ first.minute = second.minute ∧
      (first.second < second.second ∨ first.second = second.second ∧
        first.micros < second.micros))

/-- A stamp comes before another in the first field in which they differ. -/
def Before (first second : Stamp) : Prop :=
  first.date.Before second.date ∨ first.date = second.date ∧ first.Earlier second

theorem before_or_eq_or_before (first second : Stamp) :
    first.Before second ∨ first = second ∨ second.Before first := by
  rcases Date.before_or_eq_or_before first.date second.date with before | same | after
  · exact Or.inl (Or.inl before)
  · have times : first.Earlier second ∨ first = second ∨ second.Earlier first := by
      rcases first with ⟨date, hour, minute, secs, micros⟩
      rcases second with ⟨date', hour', minute', secs', micros'⟩
      cases same
      simp only [Earlier, Stamp.mk.injEq, true_and]
      omega
    rcases times with earlier | equal | later
    · exact Or.inl (Or.inr ⟨same, earlier⟩)
    · exact Or.inr (Or.inl equal)
    · exact Or.inr (Or.inr (Or.inr ⟨same.symm, later⟩))
  · exact Or.inr (Or.inr (Or.inl after))

theorem Valid.toInstant_lt {first second : Stamp} (valid : first.Valid) (valid' : second.Valid)
    (before : first.Before second) : first.toInstant.micros < second.toInstant.micros := by
  have hour := valid.hour
  have minute := valid.minute
  have second' := valid.second
  have micros := valid.micros
  unfold toInstant Instant.ofUnix seconds Calendar.secondsPerDay Instant.perSecond
  dsimp only
  rcases before with earlier | ⟨sameDay, earlier⟩
  · have days := valid.date.days_lt valid'.date earlier
    omega
  · unfold Earlier at earlier
    rw [sameDay]
    omega

/-- Of two stamps the one of the earlier instant comes first. -/
theorem Valid.before_iff {first second : Stamp} (valid : first.Valid) (valid' : second.Valid) :
    first.Before second ↔ first.toInstant.micros < second.toInstant.micros :=
  before_iff_of_numbered (fun stamp => stamp.toInstant.micros)
    (before_or_eq_or_before first second) (valid.toInstant_lt valid') (valid'.toInstant_lt valid)

theorem Valid.eq_of_toInstant {first second : Stamp} (valid : first.Valid) (valid' : second.Valid)
    (same : first.toInstant = second.toInstant) : first = second :=
  eq_of_numbered (fun stamp => stamp.toInstant.micros) (before_or_eq_or_before first second)
    (valid.toInstant_lt valid') (valid'.toInstant_lt valid) (congrArg Instant.micros same)

end Stamp

namespace Calendar

theorem valid_stamp (instant : Instant) : (stamp instant).Valid where
  date := (date_counts _).1
  hour := by
    simp only [stamp, secondsPerDay]
    omega
  minute := Nat.mod_lt _ (by decide)
  second := Nat.mod_lt _ (by decide)
  micros := by
    simp only [stamp, Instant.microsOfSecond, Instant.perSecond]
    omega

theorem seconds_stamp (instant : Instant) : (stamp instant).seconds = instant.seconds := by
  simp only [Stamp.seconds, stamp, (date_counts _).2, secondsPerDay]
  omega

/-- The stamp of an instant tells that instant. -/
theorem toInstant_stamp (instant : Instant) : (stamp instant).toInstant = instant := by
  rcases instant with ⟨micros⟩
  rw [Stamp.toInstant, seconds_stamp]
  simp only [Instant.ofUnix, stamp, Instant.seconds, Instant.microsOfSecond, Instant.perSecond,
    Instant.mk.injEq]
  omega

/-- It is the only stamp that does. -/
theorem stamp_toInstant {found : Stamp} (valid : found.Valid) : stamp found.toInstant = found :=
  (valid_stamp _).eq_of_toInstant valid (toInstant_stamp _)

end Calendar
end RealmAuth
