import TxInspect.Address
import TxInspect.Json.Reader

/-!
# Settings

What the decoders can be told: how addresses look and how many relayed envelopes they open. Settings
can be read from JSON, where each of them may be missing.
-/

namespace TxInspect

/-- The settings of the decoders. -/
structure Settings where
  /-- The human-readable part of addresses, in any case. -/
  addressPrefix : String := "erd"
  /-- The number of bytes of an address. -/
  addressSize : Nat := 32
  /-- How many relayed envelopes may lie around a transaction. -/
  maxRelayDepth : Nat := 8
deriving DecidableEq, Repr

namespace Settings

/-- How the addresses look. -/
def format (s : Settings) : Address.Format :=
  .ofPrefix s.addressPrefix s.addressSize

/-- The settings for those who set nothing. -/
def standard : Settings := {}

/-- Settings in JSON. -/
def record : Json.Record Settings :=
  Settings.mk
    <$> .field "addressPrefix" .text (some standard.addressPrefix)
    <*> .field "addressLen" (.unsigned (Word.limit 64)) (some standard.addressSize)
    <*> .field "maxRelayDepth" (.unsigned (Word.limit 64)) (some standard.maxRelayDepth)

end Settings

end TxInspect
