namespace RealmAuth

/-!
Powers with natural exponents.  A number is raised by the instance that comes with the
numbers themselves, so a power is one and the same term whatever else is imported.
-/

attribute [instance (high)] instPowNat

attribute [default_instance 20000] instPowNat

end RealmAuth
