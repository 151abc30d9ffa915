import Telematics.Net.Address
import Telematics.Store.Error
import Telematics.Text.Quoted
import Telematics.Wire.Error

/-!
# Failures of the receiver

Every part reports its own causes; this module joins them and gives each its
wording. A session is closed only by what means that the peer is gone, or
never was a terminal: `Error.closesConnection` says which causes those are.
-/

namespace Telematics

/-- Why an object number was not mapped to a vehicle. -/
inductive ResolveError where
  | unknownProvider (peer : Address)
  /-- Several vehicles could be meant. -/
  | ambiguous (oid : UInt32) (candidates : Nat)
  | store (e : StoreError)
  deriving DecidableEq, Repr

namespace ResolveError

/-- The failure in words. -/
def message : ResolveError → String
  | unknownProvider peer => "no provider matches source address " ++ peer.toText
  | ambiguous oid candidates =>
    "object id " ++ toString oid.toNat ++ " matches " ++ toString candidates
      ++ " vehicles"
  | store e => e.message

end ResolveError

/-- Why the queue of readings did not do its work. -/
inductive QueueError where
  | closed
  | workerFailed (reason : String)
  deriving DecidableEq, Repr

namespace QueueError

/-- The failure in words. -/
def message : QueueError → String
  | closed => "reading queue is closed"
  | workerFailed reason => "worker task failed: " ++ reason

end QueueError

/-- What is wrong with a setting. -/
inductive SettingFault where
  | noListenAddresses
  | noConnections
  | noWorkers
  | noQueue
  /-- A tolerance that is not a positive number, as it is shown. -/
  | tolerance (shown : String)
  | unknownTimezone (name : String)
  /-- The number of a provider that occurs twice, as it is shown. -/
  | duplicateProvider (label : String)
  | noPatterns (provider : String)
  | lookbackOutOfRange
  | unknownPacketKind (text : String)
  /-- Anything else, in words. -/
  | described (text : String)
  deriving DecidableEq, Repr

namespace SettingFault

/-- The fault in words. -/
def message : SettingFault → String
  | noListenAddresses => "No listen addresses"
  | noConnections => "max_connections must be positive"
  | noWorkers => "Pipeline needs at least one worker"
  | noQueue => "Queue capacity must be positive"
  | tolerance shown =>
    "Simplification tolerance must be positive, got " ++ shown
  | unknownTimezone name =>
    "Unknown timezone " ++ Text.quoted name ++ ": '" ++ name
      ++ "' is not a valid timezone"
  | duplicateProvider label => "Duplicate provider id " ++ label
  | noPatterns provider => "Provider " ++ provider ++ " has no IP patterns"
  | lookbackOutOfRange =>
    "lookback out of range: "
      ++ "Source duration value is out of range for the target type"
  | unknownPacketKind text =>
    "unknown packet kind " ++ Text.quoted text
      ++ ", expected auth, tele or mixed"
  | described text => text

end SettingFault

/-- What is wrong with a schedule expression. -/
inductive ScheduleFault where
  /-- Not five to seven fields. -/
  | fieldCount (count : Nat)
  /-- Some field cannot be read. -/
  | malformed
  /-- Anything else, in words. -/
  | described (text : String)
  deriving DecidableEq, Repr

namespace ScheduleFault

/-- The fault in words. -/
def message : ScheduleFault → String
  | fieldCount count => "expected 5 to 7 fields, got " ++ toString count
  | malformed => "invalid expression"
  | described text => text

end ScheduleFault

/-- Why a file of settings was not taken. -/
inductive ConfigFault where
  | unreadable
  | unparsable
  | unloadableSeed
  /-- Anything else, in words. -/
  | described (text : String)
  deriving DecidableEq, Repr

namespace ConfigFault

/-- The fault in words. -/
def message : ConfigFault → String
  | unreadable => "Failed to read config"
  | unparsable => "Failed to parse config"
  | unloadableSeed => "Failed to load seed file"
  | described text => text

end ConfigFault

/-- A failure of the receiver. -/
inductive Error where
  | protocol (e : WireError)
  | store (e : StoreError)
  | resolve (e : ResolveError)
  | pipeline (e : QueueError)
  | connectionClosed
  | connectionTimeout
  | bindFailed (address reason : String)
  | config (fault : ConfigFault)
  | invalidConfig (fault : SettingFault)
  | schedule (expression : String) (fault : ScheduleFault)
  /-- A time is needed that lies outside of the years of the calendar. -/
  | outOfCalendar
  | io (reason : String)
  | internal (reason : String)
  deriving DecidableEq, Repr

namespace Error

/-- The failure in words. -/
def message : Error → String
  | protocol e => "protocol error: " ++ e.message
  | store e => "store error: " ++ e.message
  | resolve e => "identity resolution failed: " ++ e.message
  | pipeline e => "pipeline error: " ++ e.message
  | connectionClosed => "connection closed"
  | connectionTimeout => "connection timeout"
  | bindFailed address reason => "bind failed on " ++ address ++ ": " ++ reason
  | config fault => "configuration error: " ++ fault.message
  | invalidConfig fault => "invalid configuration: " ++ fault.message
  | schedule expression fault =>
    "invalid schedule expression " ++ Text.quoted expression ++ ": "
      ++ fault.message
  | outOfCalendar => "time out of the calendar"
  | io reason => "IO error: " ++ reason
  | internal reason => "internal error: " ++ reason

/-- The peer is gone or is no terminal, so its connection is dropped. -/
def closesConnection : Error → Bool
  | connectionClosed | connectionTimeout | io _ | protocol (.notEgts _) => true
  | _ => false

end Error

end Telematics
