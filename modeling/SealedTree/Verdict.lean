/-!
What a computed result says. A result is a vector of eight entries, and it names a personality when
exactly one entry is one; all other results are indeterminate.
-/

namespace SealedTree

structure OneHot where
  entries : Vector UInt8 8
  deriving DecidableEq

namespace OneHot

/-- Every entry other than zero becomes one. -/
def ofEntries (entries : Vector UInt8 8) : OneHot :=
  ⟨entries.map fun b => if b = 0 then 0 else 1⟩

def ofBools (bits : Vector Bool 8) : OneHot :=
  ⟨bits.map fun b => if b then 1 else 0⟩

def setCount (r : OneHot) : Nat := r.entries.toList.count 1

def isOneHot (r : OneHot) : Bool := r.setCount == 1

def index? (r : OneHot) : Option Nat :=
  if r.isOneHot then r.entries.toList.findIdx? (· == 1) else none

end OneHot

/-- The eight classes, in the order of the entries. -/
inductive Personality
  | degen
  | nftEnthusiast
  | influencer
  | defiExpert
  | privacyAdvocate
  | developer
  | trader
  | hodler
  deriving DecidableEq

namespace Personality

def all : List Personality :=
  [.degen, .nftEnthusiast, .influencer, .defiExpert, .privacyAdvocate, .developer, .trader, .hodler]

def ofIndex? (i : Nat) : Option Personality := all[i]?

def index : Personality → Nat
  | .degen => 0
  | .nftEnthusiast => 1
  | .influencer => 2
  | .defiExpert => 3
  | .privacyAdvocate => 4
  | .developer => 5
  | .trader => 6
  | .hodler => 7

def name : Personality → String
  | .degen => "Degen"
  | .nftEnthusiast => "NFT Enthusiast"
  | .influencer => "Influencer"
  | .defiExpert => "DeFi Expert"
  | .privacyAdvocate => "Privacy Advocate"
  | .developer => "Developer"
  | .trader => "Trader"
  | .hodler => "HODLer"

def ofName? (name : String) : Option Personality := all.find? (·.name == name)

theorem ofIndex?_index (p : Personality) : ofIndex? p.index = some p := by cases p <;> rfl

theorem ofName?_name (p : Personality) : ofName? p.name = some p := by cases p <;> decide

end Personality

inductive Classification
  | label (personality : Personality)
  | indeterminate
  deriving DecidableEq

namespace Classification

def personality? : Classification → Option Personality
  | .label p => some p
  | .indeterminate => none

def isIndeterminate (c : Classification) : Bool := c.personality?.isNone

def name : Classification → String
  | .label p => p.name
  | .indeterminate => "indeterminate"

end Classification

def OneHot.interpret (r : OneHot) : Classification :=
  match r.index?.bind Personality.ofIndex? with
  | some p => .label p
  | none => .indeterminate

end SealedTree
