import ConfigDelivery.Record.Basic
/-!
# Gradual rollout

A device is assigned to one of a hundred buckets by a hash of its identifier and
the gray code's, without any seed, so it stays in its bucket. The gray code is
served to the buckets below the configured percentage, and a gray code that
cannot be used gives way to the stable release.
-/

namespace ConfigDelivery.Targeting

/-- Where the hash starts. -/
def hashOffset : UInt32 := 0x811c9dc5

/-- The factor of each step of the hash. -/
def hashPrime : UInt32 := 0x01000193

/-- One step of the hash: mix in a byte, then multiply. -/
def hashStep (hash : UInt32) (byte : UInt8) : UInt32 :=
  (hash ^^^ byte.toUInt32) * hashPrime

/-- The 32-bit hash of a string of bytes: exclusive or before multiplication, byte by byte. -/
def fnv1a32 (bytes : List UInt8) : UInt32 :=
  bytes.foldl hashStep hashOffset

/-- The bucket of a device under a gray code, below one hundred. -/
def bucket (deviceId grayCodeId : String) : Nat :=
  (fnv1a32 (deviceId ++ grayCodeId).toUTF8.toList).toNat % 100

/-- A device is to get the gray code of a configuration. -/
def isGrayHit (config : Config) (deviceId : String) : Bool :=
  0 < config.percentage.toNat
    && bucket deviceId config.grayReleaseCode < config.percentage.toNat

/-- The code version chosen for a device. -/
structure Selection where
  code : Code
  isGray : Bool
  deriving DecidableEq, Repr

/-- Choose the code version for a device. The gray code is asked for on a hit and taken when it
resolves and works; otherwise the stable release is asked for, and its failure is the answer. -/
def selectCode {Effect : Type → Type} [Monad Effect] {Failure : Type} (config : Config)
    (deviceId : String) (resolve : String → Effect (Except Failure Code)) :
    Effect (Except Failure Selection) := do
  let stable : Effect (Except Failure Selection) := do
    match ← resolve config.releasedCode with
    | .ok code => return .ok ⟨code, false⟩
    | .error failure => return .error failure
  if isGrayHit config deviceId then
    match ← resolve config.grayReleaseCode with
    | .ok code => if code.isBroken then stable else return .ok ⟨code, true⟩
    | .error _ => stable
  else stable

end ConfigDelivery.Targeting
