/-!
Sets of sample rates as the host framework writes them: one bit for each standard rate, and one
bit for all other rates together.
-/

namespace DuplexAudio

structure RateMask where
  bits : UInt32
  deriving DecidableEq, Repr, Inhabited

namespace RateMask

def empty : RateMask := ⟨0⟩

/-- The bit set when some rate outside the standard table is supported. -/
def knot : RateMask := ⟨0x80000000⟩

/-- The standard rates, ascending; the position of a rate is the number of its bit. -/
def standard : List UInt32 :=
  [5512, 8000, 11025, 16000, 22050, 32000, 44100, 48000, 64000, 88200, 96000, 176400, 192000]

/-- Each standard rate with its bit. -/
def table : List (UInt32 × UInt32) :=
  standard.zipIdx.map fun (rate, position) => (rate, 1 <<< UInt32.ofNat position)

def ofRate (rate : UInt32) : RateMask :=
  match table.find? (·.1 == rate) with
  | some (_, bit) => ⟨bit⟩
  | none => knot

def union (left right : RateMask) : RateMask := ⟨left.bits ||| right.bits⟩

def isEmpty (mask : RateMask) : Bool := mask.bits == 0

/-- Every bit of `part` is set, and there is one; no mask contains the empty one. -/
def contains (mask part : RateMask) : Bool :=
  part.bits != 0 && mask.bits &&& part.bits == part.bits

def ofRates (rates : List UInt32) : RateMask :=
  rates.foldl (fun mask rate => mask.union (ofRate rate)) empty

/-- The standard rates whose bit is set, ascending. -/
def standardRates (mask : RateMask) : List UInt32 :=
  (table.filter fun (_, bit) => mask.bits &&& bit != 0).map (·.1)

end RateMask
end DuplexAudio
