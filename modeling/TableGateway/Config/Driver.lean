import TableGateway.Config.Basic

/-!
# Drivers

The driver of a provider names the kind of its database. There is one kind, under two names. A
provider can be opened if its driver is known and its address can be written.
-/

namespace TableGateway.Config

/-- The names of drivers. -/
def supportedDrivers : List String := ["postgresql", "postgres"]

/-- Why there is no driver for a provider. -/
inductive DriverError where
  | unknown (driver : String) (id : Value)
  /-- The name of the driver is no text. -/
  | notAName (driver : Value)
  | badAddress (e : Connection.AddressError)
deriving Repr, DecidableEq

/-- What is reported of a driver that cannot be had. -/
def DriverError.failure : DriverError → Failure
  | unknown driver id => .foreseen
      { area := .driver, message := "Driver '" ++ driver ++ "' not found for provider '" ++ id.shown
          ++ "', supported drivers are " ++ Value.quotedNames supportedDrivers }
  | notAName driver => .unexpected ⟨.noMembers, driver.quoted ++ " is not a name"⟩
  | badAddress e => .unexpected e.fault

/-- Succeeds for a provider whose driver is supported, in small or capital letters. -/
def Provider.checkDriver (p : Provider) : Except DriverError Unit :=
  match p.driver with
  | .string driver =>
    if supportedDrivers.contains (Text.lowercase driver) then .ok ()
    else .error (.unknown driver p.id)
  | driver => .error (.notAName driver)

/-- Succeeds for a provider that can be opened. -/
def Provider.check (p : Provider) : Except DriverError Unit := do
  p.checkDriver
  p.connection.check.mapError .badAddress

end TableGateway.Config
