import Chip8.Decimal.ByteCount
import Chip8.Time
/-!
One second of a sine tone as sixteen-bit samples, and how many samples there can be.
-/

namespace Chip8.Tone

/-- The pitch of the tone in Hertz. -/
def pitch : Float := 440.0

/-- The loudness of the tone, 1 being the loudest. -/
def volume : Float := 0.25

/-- The circle constant. -/
def pi : Float := 3.141592653589793

/-- The low sixteen bits of a whole number, as a signed one; zero for one beyond 32 bits. -/
def wrap16 (n : Int) : Int := if -0x80000000 ≤ n ∧ n < 0x80000000 then Int.bmod n 65536 else 0

/-- A sample value rounded toward zero; an infinite or undefined one is silence. -/
def quantize (x : Float) : Int :=
  match truncateFloat x with
  | .ok n => wrap16 n
  | .error _ => 0

/-- Sample `i` of `rate` in a second. -/
def sample (rate i : Nat) (frequency loudness : Float) : Int :=
  let t := i.toFloat / rate.toFloat
  quantize (Float.sin (2.0 * pi * frequency * t) * loudness * 32767.0)

/-- One second of the tone at `rate` samples. -/
def second (rate : Int) (frequency loudness : Float) : List Int :=
  (List.range rate.toNat).map fun i => sample rate.toNat i frequency loudness

/-- Why there are no samples. -/
inductive SizeError where
  /-- No machine word can hold the number of samples. -/
  | rateTooLarge
  /-- No machine word can hold the number of channels. -/
  | tooManyChannels
  /-- No machine word can hold the number of bytes. -/
  | tooManyBytes
  /-- There is no memory for so many bytes of samples. -/
  | noRoom (bytes : Nat) (shape cell : String)
  deriving DecidableEq, Repr

/-- The sentence about it. -/
def SizeError.message : SizeError → String
  | rateTooLarge => "Maximum allowed size exceeded"
  | tooManyChannels => "int too large to convert to C long"
  | tooManyBytes => "array is too big; `arr.size * arr.dtype.itemsize` is larger than the " ++
    "maximum possible size."
  | noRoom bytes shape cell =>
    "Unable to allocate " ++ Decimal.byteCount bytes ++ s!" for an array with shape {shape} and " ++
      s!"data type {cell}"

/-- Is there room for so many bytes? The host has memory for `room` of them. -/
def checkBytes (room bytes : Nat) (shape cell : String) : Except SizeError Unit :=
  if 0x7FFFFFFFFFFFFFFF < bytes then .error .tooManyBytes
  else if room < bytes then .error (.noRoom bytes shape cell)
  else .ok ()

/-- Can there be so many samples in a second? They are counted by the nearest double, and computed in
    words of eight bytes. -/
def checkRate (room : Nat) (rate : Int) : Except SizeError Unit :=
  match floatOfInt rate >>= truncateFloat with
  | .error _ => .error .rateTooLarge
  | .ok count =>
    if 0x8000000000000000 < count.natAbs then .error .rateTooLarge
    else checkBytes room (8 * count.toNat) s!"({count},)" "int64"

/-- Can so many samples be given to so many channels? -/
def checkChannels (room : Nat) (rate channels : Int) : Except SizeError Unit :=
  if 0x8000000000000000 ≤ channels then .error .tooManyChannels
  else checkBytes room (2 * rate.toNat * channels.toNat) s!"({rate.toNat}, {channels})" "int16"

/-- Each sample once for every channel. -/
def spread (channels : Nat) (samples : List Int) : List (List Int) :=
  samples.map (List.replicate channels)

end Chip8.Tone
