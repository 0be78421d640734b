import Mathlib.Data.String.Defs

namespace RipV2.Results

def ripCmdRequest : UInt8 := 1

def ripCmdResponse : UInt8 := 2

def rip2Version : UInt8 := 2

/-- 224.0.0.9 -/
def ripMulticastAddr : UInt32 := 0xe0000009

def ripUdpPort : UInt16 := 520

/-- The errors of the daemon, with their parameters. -/
inductive RipError where
  | invalidArgument (message : String)
  | invalidConfiguration (message : String)
  | failedToConfigureInterface (msg ifName : String)
  | ioError (message : String)
  | malformedPacket
  | invalidSourceAddress
deriving DecidableEq, Repr

/-- The text that the log and HTTP clients get to see. -/
def RipError.toString : RipError → String
  | .invalidArgument e => "Invalid argument: " ++ e
  | .invalidConfiguration e => "Invalid configuration: " ++ e
  | .failedToConfigureInterface msg ifName =>
      "Failed to configure interface: " ++ msg ++ ", if_name: " ++ ifName
  | .ioError e => "IO error: " ++ e
  | .malformedPacket => "Malformed packet"
  | .invalidSourceAddress => "Invalid Source Address"

/-- What may fail with an error of the daemon. -/
abbrev RipResult (α : Type) := Except RipError α

end RipV2.Results
