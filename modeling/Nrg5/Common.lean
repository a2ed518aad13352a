import Nrg5.Lib.Bytes

/-!
# Identifiers, addresses and hashes

The common header of both NSO libraries: 64-bit device identifiers, layer 2
addresses of any size, and the CRC-32C hash whose value selects a bucket of the
tables.  The host is little-endian, as the deployments of the repository are, so
a device identifier is the little-endian number of its eight bytes.

`crc32cTables` computes the eight lookup tables instead of listing their 2048
constants: row `n` maps a byte to the remainder of that byte followed by `n` zero
bytes under the reflected Castagnoli polynomial.
-/

namespace Nrg5

open ByteMemory

abbrev DeviceId := UInt64

/-- `DEV_ID_WIDTH`. -/
def devIdWidth : Nat := 8

/-- `alloc_bc_device_id`. -/
def bcDeviceId : DeviceId := 0xffffffffffffffff

@[irreducible]
def isBroadcastDevId (devId : DeviceId) : Bool := devId == bcDeviceId

theorem isBroadcastDevId_iff (devId : DeviceId) :
    isBroadcastDevId devId = true ↔ devId = bcDeviceId := by
  simp [isBroadcastDevId]

/-- The identifier stored in eight bytes. -/
def deviceIdOfBytes (bytes : List UInt8) : DeviceId := UInt64.ofNat (leNat bytes)

def deviceIdBytes (devId : DeviceId) : List UInt8 := leBytes devIdWidth devId.toNat

/-- `l2addr_t`: the size field is the length of the list. -/
abbrev L2addr := List UInt8

/-- `ETH_ALEN`. -/
def ethAlen : Nat := 6

def bcMac : L2addr := [0xff, 0xff, 0xff, 0xff, 0xff, 0xff]

@[simp]
theorem length_deviceIdBytes (devId : DeviceId) : (deviceIdBytes devId).length = 8 := by
  simp [deviceIdBytes, devIdWidth]

@[simp]
theorem deviceIdOfBytes_deviceIdBytes (devId : DeviceId) :
    deviceIdOfBytes (deviceIdBytes devId) = devId := by
  have inRange : devId.toNat < 256 ^ 8 := devId.toNat_lt
  simp only [deviceIdOfBytes, deviceIdBytes, devIdWidth, leNat_leBytes,
    Nat.mod_eq_of_lt inRange]
  exact UInt64.ofNat_toNat

theorem deviceIdBytes_deviceIdOfBytes {bytes : List UInt8} (eight : bytes.length = 8) :
    deviceIdBytes (deviceIdOfBytes bytes) = bytes := by
  have inRange : leNat bytes < 2 ^ 64 := by
    have bound := leNat_lt bytes
    rw [eight] at bound
    exact bound
  have back := leBytes_leNat bytes
  simp only [deviceIdBytes, deviceIdOfBytes, devIdWidth, UInt64.toNat_ofNat',
    Nat.mod_eq_of_lt inRange]
  rwa [eight] at back

/-! ## The hash -/

def crc32cShift (value : UInt32) : UInt32 :=
  if value &&& 1 = 1 then (value >>> 1) ^^^ 0x82F63B78 else value >>> 1

def crc32cTables (row : Nat) (byte : UInt32) : UInt32 :=
  crc32cShift^[8 * (row + 1)] byte

/-- `CRC32_UPD`. -/
def crc32Upd (crc : UInt32) (n : Nat) : UInt32 :=
  crc32cTables n (crc &&& 0xff) ^^^ crc32cTables (n - 1) ((crc >>> 8) &&& 0xff)

def crc32c1byte (data : UInt8) (initVal : UInt32) : UInt32 :=
  let crc := initVal ^^^ data.toUInt32
  crc32cTables 0 (crc &&& 0xff) ^^^ (crc >>> 8)

def crc32c2bytes (data : UInt16) (initVal : UInt32) : UInt32 :=
  let crc := initVal ^^^ data.toUInt32
  crc32Upd crc 1 ^^^ (crc >>> 16)

def crc32c1word (data initVal : UInt32) : UInt32 :=
  let crc := initVal ^^^ data
  crc32Upd crc 3 ^^^ crc32Upd (crc >>> 16) 1

def crc32c2words (data : UInt64) (initVal : UInt32) : UInt32 :=
  let low := data.toUInt32
  let high := (data >>> 32).toUInt32
  let crc := initVal ^^^ low
  (crc32Upd crc 7 ^^^ crc32Upd (crc >>> 16) 5) ^^^
    (crc32Upd high 3 ^^^ crc32Upd (high >>> 16) 1)

/-- The loop of `hash_crc` over the whole 8-byte words. -/
def hashCrcWords : Nat → List UInt8 → UInt32 → UInt32
  | 0, _, initVal => initVal
  | words + 1, data, initVal =>
      hashCrcWords words (data.drop 8)
        (crc32c2words (UInt64.ofNat (leNat (data.take 8))) initVal)

/-- `hash_crc`: whole words first, then the 4, 2 and 1 bytes that are left. -/
def hashCrc (data : List UInt8) (initVal : UInt32) : UInt32 :=
  let words := data.length / 8
  let crc := hashCrcWords words data initVal
  let rest := data.drop (8 * words)
  let crc4 :=
    if rest.length / 4 % 2 = 1 then crc32c1word (UInt32.ofNat (leNat (rest.take 4))) crc
    else crc
  let rest2 := if rest.length / 4 % 2 = 1 then rest.drop 4 else rest
  let crc2 :=
    if rest.length / 2 % 2 = 1 then crc32c2bytes (UInt16.ofNat (leNat (rest2.take 2))) crc4
    else crc4
  let rest1 := if rest.length / 2 % 2 = 1 then rest2.drop 2 else rest2
  match rest.length % 2, rest1 with
  | 1, byte :: _ => crc32c1byte byte crc2
  | _, _ => crc2

def hashDeviceId (devId : DeviceId) : UInt32 := hashCrc (deviceIdBytes devId) 0

def hashL2addr (addr : L2addr) : UInt32 := hashCrc addr 0

/-- `GOLDEN_RATIO_32`. -/
def goldenRatio32 : Nat := 0x61C88647

/-- `hash_min` on an unsigned 32-bit key: the product wraps, the shift is logical. -/
def hashMin (key : UInt32) (bits : Nat) : Nat :=
  ((UInt32.ofNat goldenRatio32 * key).toNat) >>> (32 - bits)

/-- `hash_min` on a 16-bit key: the key is promoted to `int`, so the product is a
signed 32-bit number and the shift keeps its sign. -/
def hashMinProto (key : UInt16) (bits : Nat) : Int :=
  (BitVec.ofNat 32 (goldenRatio32 * key.toNat)).toInt >>> (32 - bits)

example : hashCrc ("123456789".toUTF8.toList) 0xffffffff ^^^ 0xffffffff = 0xE3069283 := by
  decide +kernel

end Nrg5
