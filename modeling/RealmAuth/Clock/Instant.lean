import RealmAuth.Number.Double

namespace RealmAuth

/-!
Points in time, counted in microseconds from the start of 1970 in UTC.
-/

/-- A point in time. -/
structure Instant where
  micros : Int
  deriving DecidableEq

namespace Instant

def perSecond : Int := 1000000

/-- The instant some microseconds after a whole second. -/
def ofUnix (seconds : Int) (micros : Nat) : Instant :=
  ⟨seconds * perSecond + micros⟩

def seconds (instant : Instant) : Int :=
  instant.micros / perSecond

def microsOfSecond (instant : Instant) : Nat :=
  (instant.micros % perSecond).toNat

/-- The seconds of an instant as the nearest number of double precision. -/
def toDouble (instant : Instant) : Double :=
  Double.ofRatio (instant.micros < 0) instant.micros.natAbs perSecond.toNat

/-- A whole second counts from the start of 1970 as it was given. -/
theorem seconds_ofUnix (seconds : Int) (micros : Nat) (small : micros < 1000000) :
    (ofUnix seconds micros).seconds = seconds := by
  simp only [ofUnix, Instant.seconds, perSecond]
  omega

theorem microsOfSecond_ofUnix (seconds : Int) (micros : Nat) (small : micros < 1000000) :
    (ofUnix seconds micros).microsOfSecond = micros := by
  simp only [ofUnix, microsOfSecond, perSecond]
  omega

end Instant
end RealmAuth
