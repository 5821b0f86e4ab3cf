import Clausal.Utility.Records.Value
import Std.Data.HashMap

/-!
# Tables

Values by keys.  The order in which keys are gone through is that of chains of keys whose
numbers agree in their lowest bits; a key that is looked up by its text comes to the front of
its chain.  Keys that are whole numbers have chains of their own until texts are asked for.
-/

namespace Clausal.Utility.Records

open Text (Octets)

structure Entry where
  value : Value
  whole : Option (Int × Nat)
  seen : Option Nat
  deriving Inhabited

structure Table where
  entries : Std.HashMap Octets Entry
  mask : Nat
  hasTexts : Bool
  isList : Bool
  clock : Nat

namespace Table

def startMask : Nat := 63

def empty : Table := ⟨∅, startMask, false, false, 0⟩

instance : Inhabited Table := ⟨empty⟩

def size (t : Table) : Nat := t.entries.size

/-- The number of a key, of which the lowest bits choose the chain. -/
def chainNumber (key : Octets) : Nat :=
  (key.foldl (fun (h : UInt32) c => (h ^^^ c.toNat.toUInt32) * 16777619) 2166136261).toNat

/-- How many keys a chain has on average before there are twice as many chains. -/
def chainLength : Nat := 12

def maskFor (size : Nat) : Nat → Nat → Nat
  | 0, mask => mask
  | rounds + 1, mask =>
      if (mask + 1) * chainLength < size then maskFor size rounds (2 * mask + 1) else mask

def grown (t : Table) : Table := { t with mask := maskFor t.size 40 t.mask }

/-- Gives all keys a place among the texts, number by number. -/
def withTexts (t : Table) : Table :=
  if t.hasTexts then t
  else
    let wholes := t.entries.toList.filterMap fun (key, e) =>
      e.whole.map fun (n, stamp) => (key, (n % (t.mask + 1)).toNat, stamp)
    let ordered := wholes.mergeSort fun a b =>
      decide (a.2.1 < b.2.1) || a.2.1 == b.2.1 && decide (b.2.2 ≤ a.2.2)
    let (entries, clock) := ordered.foldl (fun (entries, clock) (key, _, _) =>
      (entries.modify key fun e => { e with seen := some clock }, clock + 1)) (t.entries, t.clock)
    { t with entries, clock, hasTexts := true, isList := false }

def touch (t : Table) (key : Octets) : Table :=
  let t := t.withTexts
  match t with
  | ⟨entries, mask, hasTexts, isList, clock⟩ =>
      if entries.contains key then
        ⟨entries.modify key fun e => { e with seen := some clock }, mask, hasTexts, isList, clock + 1⟩
      else ⟨entries, mask, hasTexts, isList, clock⟩

def add (t : Table) (key : Octets) : Table :=
  let t := t.touch key
  if t.entries.contains key then t
  else
    match t with
    | ⟨entries, mask, hasTexts, isList, clock⟩ =>
        (⟨entries.insert key ⟨.unset, none, some clock⟩, mask, hasTexts, isList, clock + 1⟩ :
          Table).grown

def keyOf (n : Int) : Octets := (toString n).toList

/-- Notes that a key was looked up as a whole number. -/
def touchWhole (t : Table) (n : Int) : Table :=
  let key := keyOf n
  match t.entries[key]? with
  | none => t
  | some e =>
      if t.isList then t
      else
        let t := if e.whole.isNone then t.touch key else t
        match t with
        | ⟨entries, mask, hasTexts, isList, clock⟩ =>
            ⟨entries.modify key fun e => { e with whole := some (n, clock) }, mask, hasTexts, isList,
              clock + 1⟩

def addWhole (t : Table) (n : Int) : Table :=
  let key := keyOf n
  if t.entries.contains key then t.touchWhole n
  else
    let t := { t with isList := false }
    if t.hasTexts then (t.add key).touchWhole n
    else
      match t with
      | ⟨entries, mask, hasTexts, isList, clock⟩ =>
          (⟨entries.insert key ⟨.unset, some (n, clock), none⟩, mask, hasTexts, isList, clock + 1⟩ :
            Table).grown

/-- A key as it is looked up. -/
inductive Key where
  | whole (n : Int)
  | text (key : Octets)

def Key.octets : Key → Octets
  | .whole n => keyOf n
  | .text key => key

def note (t : Table) : Key → Table
  | .whole n => t.touchWhole n
  | .text key => t.touch key

def make (t : Table) : Key → Table
  | .whole n => t.addWhole n
  | .text key => t.add key

def get (t : Table) (key : Key) : Value := ((t.entries[key.octets]?).map Entry.value).getD .unset

def has (t : Table) (key : Key) : Bool := t.entries.contains key.octets

def set (t : Table) (key : Key) (value : Value) : Table :=
  match t with
  | ⟨entries, mask, hasTexts, isList, clock⟩ =>
      ⟨entries.modify key.octets fun e => { e with value }, mask, hasTexts, isList, clock⟩

def erase (t : Table) (key : Key) : Table :=
  if t.has key then
    let t := t.note key
    let entries := t.entries.erase key.octets
    if entries.isEmpty then empty else { t with entries, isList := false }
  else t

/-- The keys in the order in which they are gone through. -/
def keys (t : Table) : List Octets :=
  let t := t.withTexts
  let placed := t.entries.toList.map fun (key, e) =>
    (key, chainNumber key % (t.mask + 1), e.seen.getD 0)
  (placed.mergeSort fun a b =>
    decide (a.2.1 < b.2.1) || a.2.1 == b.2.1 && decide (b.2.2 ≤ a.2.2)).map Prod.fst

def ofList (values : List Value) : Table :=
  let (entries, count) := values.foldl (fun (entries, (i : Nat)) value =>
    (entries.insert (keyOf i) ⟨value, some (i, i), none⟩, i + 1))
    ((∅ : Std.HashMap Octets Entry), 1)
  if values.isEmpty then empty
  else ⟨entries, maskFor (count - 1) 40 startMask, false, true, count⟩

end Table

end Clausal.Utility.Records
