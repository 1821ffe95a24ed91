import RealmAuth.Platform

namespace RealmAuth

/-!
What can be wrong with key material.  A fault names its cause, and what a library
underneath has found is told in its words.
-/

/-- Why key material was refused. -/
inductive KeyFault where
  /-- A text is no key document of any form. -/
  | unreadable
  /-- A document is encrypted and there is no password. -/
  | locked (document : List Char)
  /-- A document holds a key, but not an RSA key. -/
  | wrongKind (found : String)
  /-- A text is one that no octets write. -/
  | broken (text : Text)
  /-- A key entry is neither an object nor a list of pairs with names. -/
  | notEntry (entry : Json)
  /-- A key entry is a list, but not all its items have two parts. -/
  | notPairs (entry : Json)
  /-- A key entry is of another type than RSA. -/
  | notRsa
  /-- A key entry has more than two primes. -/
  | manyPrimes
  /-- A key entry has some of the numbers that go with its primes, but not all. -/
  | partialNumbers
  /-- A key entry has not even the numbers of a public key. -/
  | noNumbers
  /-- A number of a key entry is not given as text. -/
  | numberNotText
  /-- A number of a key entry is not base 64. -/
  | numberNotBase64 (number : Text)
  /-- The numbers of a key entry make no key. -/
  | inconsistent (entry : Json)

/-- What is said of a key of another kind than a family of algorithms takes. -/
def Platform.wrongKey [Platform] (found family : String) : String :=
  "Expected one of " ++ kinds family ++ ", got: " ++ found ++ ". Invalid Key type for " ++ family

def KeyFault.message [Platform] : KeyFault → String
  | unreadable => "Could not parse the provided public key."
  | locked document => Platform.words (.document document)
  | wrongKind found => Platform.wrongKey found "RSAAlgorithm"
  | broken text => Platform.words (.text text)
  | notEntry entry => Platform.words (.entry entry)
  | notPairs entry => Platform.words (.entry entry)
  | notRsa => "Not an RSA key"
  | manyPrimes => "Unsupported RSA private key: > 2 primes not supported"
  | partialNumbers => "RSA key must include all parameters if any are present besides d"
  | noNumbers => "Not a public or private key"
  | numberNotText => "Expected a string or bytes value"
  | numberNotBase64 number => Platform.words (.entry (.string number))
  | inconsistent entry => Platform.words (.entry entry)

end RealmAuth
