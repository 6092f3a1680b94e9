import LinkShortener.Text.Utf8

/-!
# Password hashes

A password is stored as a text that names the algorithm, its version and its cost, and holds the
salt and the derived key. The key derivation itself is a parameter.
-/

namespace LinkShortener.Password

inductive HashFailure where
  /-- The hasher gave up. -/
  | refused
  /-- The task that hashes came to an end without an answer. -/
  | crashed
  deriving DecidableEq

/-- Turns a password into the text that is stored. -/
abbrev Hasher := String → Except HashFailure String

def digits : List Char :=
  "ABCDEFGHIJKLMNOPQRSTUVWXYZabcdefghijklmnopqrstuvwxyz0123456789+/".toList

def digit (value : Nat) : Char := digits.getD value 'A'

/-- Three bytes become four characters; at the end no character is added to fill up a group. -/
def encode64 : List UInt8 → List Char
  | [] => []
  | [a] => [digit (a.toNat / 4), digit (a.toNat % 4 * 16)]
  | [a, b] =>
    [digit (a.toNat / 4), digit (a.toNat % 4 * 16 + b.toNat / 16), digit (b.toNat % 16 * 4)]
  | a :: b :: c :: rest =>
    digit (a.toNat / 4) :: digit (a.toNat % 4 * 16 + b.toNat / 16) ::
      digit (b.toNat % 16 * 4 + c.toNat / 64) :: digit (c.toNat % 64) :: encode64 rest

/-- The parts of a stored hash. -/
structure Stored where
  algorithm : String
  version : String
  parameters : String
  salt : String
  key : String

/-- The stored text: the parts, each after a dollar sign. -/
def Stored.toText (stored : Stored) : String :=
  "$" ++ stored.algorithm ++ "$" ++ stored.version ++ "$" ++ stored.parameters ++ "$" ++
    stored.salt ++ "$" ++ stored.key

/-- A hash with Argon2id and its usual cost: 19 MiB of memory, two passes, one lane. -/
def argon2id (derive : List UInt8 → List UInt8 → List UInt8) (salt : List UInt8)
    (password : String) : Stored where
  algorithm := "argon2id"
  version := "v=19"
  parameters := "m=19456,t=2,p=1"
  salt := String.ofList (encode64 salt)
  key := String.ofList (encode64 (derive salt (Text.encodeUtf8 password)))

/-- Stores the password behind a mark; for trials, since it hides nothing. -/
def plain : Hasher := fun password => .ok ("plain:" ++ password)

end LinkShortener.Password
