import LinkShortener.Store.DatabaseError
import LinkShortener.Text.Quoted
import LinkShortener.Url.Form

/-!
# Connection options

What the URL of a database asks for. The parts of the URL are read in order, and the first that
cannot be used is reported.
-/

namespace LinkShortener

/-- How far a connection has to be encrypted. -/
inductive Encryption where
  | disabled
  | allowed
  | preferred
  | required
  | authorityVerified
  /-- With a certificate of a known authority for the host itself. -/
  | hostVerified
  deriving DecidableEq

namespace Encryption

/-- Reads a degree of encryption in any case. -/
def ofText? (text : String) : Option Encryption :=
  [("disable", disabled), ("allow", allowed), ("prefer", preferred), ("require", required),
    ("verify-ca", authorityVerified), ("verify-full", hostVerified)].lookup text.toLower

/-- Whether a server without encryption will not do. -/
def isMandatory : Encryption → Bool
  | .disabled => false
  | .allowed => false
  | .preferred => false
  | .required => true
  | .authorityVerified => true
  | .hostVerified => true

end Encryption

structure ConnectionOptions where
  encryption : Encryption

namespace ConnectionOptions

def demandText (part : List Char) : Except DatabaseError Unit :=
  match Text.utf8Error? (Text.percentDecoded part) with
  | some error => .error (.configuration error.message)
  | none => .ok ()

/-- A host that is the path of a socket has to stand for text. -/
def demandHost : Url.Host → Except DatabaseError Unit
  | .name text => if (Text.percentDecoded text).head? = some 0x2F then demandText text else .ok ()
  | .address _ => .ok ()

/-- A parameter has to be a number up to a bound. -/
def demandNumber (largest : Nat) (value : String) : Except DatabaseError Unit :=
  match Text.readNumeral largest value.toList with
  | .ok _ => .ok ()
  | .error error => .error (.configuration error.message)

/-- Takes in a parameter. One that is not known does nothing. -/
def addParameter (options : ConnectionOptions) : String × String →
    Except DatabaseError ConnectionOptions
  | (name, value) =>
    if name == "sslmode" || name == "ssl-mode" then
      match Encryption.ofText? value with
      | some encryption => .ok { options with encryption }
      | none =>
        .error (.connectionOption
          ("unknown value " ++ Text.Quoted.ofText value ++ " for \x60ssl_mode\x60"))
    else if name == "statement-cache-capacity" then do
      demandNumber Text.largestLong value
      return options
    else if name == "port" then do
      demandNumber Text.largestWord value
      return options
    else if name == "hostaddr" then
      if (IpAddress.ofText? value.toList).isSome then .ok options
      else .error (.configuration "invalid IP address syntax")
    else .ok options

def ofUrl (url : Url) : Except DatabaseError ConnectionOptions := do
  url.host.forM demandHost
  demandText url.username
  demandText (url.password.getD [])
  demandText (url.path.dropWhile (· == '/'))
  url.parameters.foldlM addParameter ⟨.preferred⟩

def ofText (text : String) : Except DatabaseError ConnectionOptions :=
  match Url.ofText text with
  | .ok url => ofUrl url
  | .error problem => .error (.configuration problem.message)

end ConnectionOptions

end LinkShortener
