import Transit.EntityError
import Transit.Json.Record
/-! Transit products, and sets of them as bit masks. -/
namespace Transit

inductive Product
  | rail
  | subway
  | tram
  | bus
  | ferry
  | cableCar
  | onDemand
deriving DecidableEq

namespace Product

/-- In the order of their bits. -/
def all : List Product := [.rail, .subway, .tram, .bus, .ferry, .cableCar, .onDemand]

def bit : Product → UInt8
  | .rail => 1
  | .subway => 2
  | .tram => 4
  | .bus => 8
  | .ferry => 16
  | .cableCar => 32
  | .onDemand => 64

def code : Product → Char
  | .rail => 'R'
  | .subway => 'U'
  | .tram => 'T'
  | .bus => 'B'
  | .ferry => 'F'
  | .cableCar => 'C'
  | .onDemand => 'P'

def label : Product → String
  | .rail => "Rail"
  | .subway => "Subway"
  | .tram => "Tram"
  | .bus => "Bus"
  | .ferry => "Ferry"
  | .cableCar => "Cable car"
  | .onDemand => "On demand"

def name : Product → String
  | .rail => "RAIL"
  | .subway => "SUBWAY"
  | .tram => "TRAM"
  | .bus => "BUS"
  | .ferry => "FERRY"
  | .cableCar => "CABLECAR"
  | .onDemand => "ON_DEMAND"

def ofCode (code : Char) : Except EntityError Product :=
  match all.find? (·.code == code) with
  | some p => .ok p
  | none => .error (.unknownCode (String.singleton code))

def toJson (p : Product) : Json := .str p.name

def ofJsonWith? (blank : Json.Blank) : Json → Option Product :=
  Json.choiceWith? blank (all.map fun p => (p.name, p))

def ofJson? : Json → Option Product := ofJsonWith? .null

end Product

structure ProductSet where
  bits : UInt8
deriving DecidableEq

namespace ProductSet

def empty : ProductSet := ⟨0⟩

def full : ProductSet := ⟨127⟩

/-- Without the bit that no product has. -/
def ofBits (bits : UInt8) : ProductSet := ⟨bits &&& full.bits⟩

def contains (s : ProductSet) (p : Product) : Bool := s.bits &&& p.bit != 0

def insert (s : ProductSet) (p : Product) : ProductSet := ⟨s.bits ||| p.bit⟩

def erase (s : ProductSet) (p : Product) : ProductSet := ⟨s.bits &&& ~~~p.bit⟩

def isEmpty (s : ProductSet) : Bool := s.bits == 0

/-- The number of bits, assigned to a product or not. -/
def size (s : ProductSet) : Nat := ((List.range 8).filter fun i => s.bits.toNat.testBit i).length

def toList (s : ProductSet) : List Product := Product.all.filter s.contains

def ofList (ps : List Product) : ProductSet := ps.foldl insert empty

/-- The codes of the products. -/
def text (s : ProductSet) : String := String.ofList (s.toList.map Product.code)

def ofCodes : List Char → Except EntityError (List Product)
  | [] => .ok []
  | c :: cs => do
    let p ← Product.ofCode c
    return p :: (← ofCodes cs)

def ofText (s : String) : Except EntityError ProductSet := (ofCodes s.toList).map ofList

def toJson (s : ProductSet) : Json := .nat s.bits.toNat

def ofJson? (j : Json) : Option ProductSet := j.uint8?.map (⟨·⟩)

end Transit.ProductSet
