import TableGateway.Value.Integer

/-!
# Connections

Where a database is and who connects to it, and the address made of that.
-/

namespace TableGateway.Config

/-- The parameters of a connection; null stands for those that are not given. -/
structure Connection where
  host : Value
  port : Value := .int 5432
  user : Value := .null
  password : Value := .null
  database : Value := .null
deriving Repr, DecidableEq

/-- Whether a byte stands for itself in the user part of an address. -/
def isPlain (b : UInt8) : Bool :=
  let c := Char.ofNat b.toNat
  b < 128 && (c.isAlphanum || c == '_' || c == '.' || c == '-' || c == '~' || c == ' ' || c == '+')

/-- A byte in the user part of an address. -/
def escapedByte (b : UInt8) : List Char :=
  if isPlain b then [Char.ofNat b.toNat]
  else '%' :: (Value.hexDigits 2 b.toNat).map Char.toUpper

/-- A text in the user part of an address: its bytes, escaped where they do not stand for
themselves. -/
def escaped (s : String) : String :=
  String.ofList (s.toUTF8.toList.flatMap escapedByte)

namespace Connection

/-- The user part of an address: the user, and the password as it is to be shown. -/
def userPart (c : Connection) (password : String → String) : String :=
  if c.user = .null then ""
  else
    let secret := if c.password = .null then "" else ":" ++ password c.password.shown
    escaped c.user.shown ++ secret ++ "@"

/-- The port in an address; null, and what is no integer, is left out. -/
def portPart (c : Connection) : String :=
  match c.port.toInteger with
  | .ok n => ":" ++ toString n
  | .error _ => ""

/-- The address with the password in a given form. -/
def addressWith (c : Connection) (password : String → String) : String :=
  let host := if c.host = .null then "" else c.host.shown
  let host := if host.toList.contains ':' then "[" ++ host ++ "]" else host
  let database := if c.database = .null then "" else "/" ++ c.database.shown
  "postgresql+psycopg2://" ++ c.userPart password ++ host ++ c.portPart ++ database

/-- Why there is no address. -/
inductive AddressError where
  /-- A part of the address is no text. -/
  | notAText (part : String)
  | port (cause : IntegerError)
deriving Repr, DecidableEq

/-- The fault of a part of an address. -/
def AddressError.fault : AddressError → Fault
  | notAText part => ⟨.wrongKind, part ++ " must be a string"⟩
  | port cause => cause.fault

/-- Succeeds for a text and for null. -/
def checkText (part : String) : Value → Except AddressError Unit
  | .null | .string _ => .ok ()
  | _ => .error (.notAText part)

/-- Succeeds for an integer and for null. -/
def checkPort : Value → Except AddressError Unit
  | .null => .ok ()
  | v => (v.toInteger.map fun _ => ()).mapError .port

/-- Succeeds if the parts of the address are texts and the port is an integer, as far as they are
given. -/
def check (c : Connection) : Except AddressError Unit := do
  checkText "username" c.user
  checkText "host" c.host
  checkPort c.port
  checkText "database" c.database

/-- The address that is connected to. -/
def address (c : Connection) : String :=
  c.addressWith escaped

/-- The address without the password. -/
def hiddenAddress (c : Connection) : String :=
  c.addressWith fun _ => "***"

end Connection

end TableGateway.Config
