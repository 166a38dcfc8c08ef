import ConfigReplica.Hex
import ConfigReplica.Text.Blank
import ConfigReplica.Text.Lowercase
import ConfigReplica.Decimal.Digits
import Std.Data.ExtTreeSet

/-!
# Storage nodes

A node of the network has an address, a port and two public keys. Its text joins the four with
hyphens; it is taken apart from the right, since the address may hold hyphens itself. Keys are 64
hexadecimal digits of either case and are kept in lower case.
-/

namespace ConfigReplica.Routing

/-- A node of the network. -/
structure Node where
  address : String
  port : UInt16
  ed25519 : String
  x25519 : String
  deriving DecidableEq, Repr

/-- Why a text is no port. -/
inductive PortFault where
  | empty
  | badDigit
  | tooLarge
  deriving DecidableEq, Repr

/-- Why parts or a text make no node. -/
inductive NodeFault where
  /-- The text has fewer than four parts. -/
  | malformed (text : String)
  | port (fault : PortFault)
  | emptyAddress
  /-- A key is not hexadecimal. -/
  | keyHex (key : String) (fault : Hex.Fault)
  /-- A key stands for another number of bytes than 32. -/
  | keySize (key : String) (size : Nat)
  deriving DecidableEq, Repr

/-- The wording of a fault. -/
def PortFault.message : PortFault → String
  | .empty => "cannot parse integer from empty string"
  | .badDigit => "invalid digit found in string"
  | .tooLarge => "number too large to fit in target type"

/-- The wording of a fault. -/
def NodeFault.message : NodeFault → String
  | .malformed text => "malformed node: " ++ text
  | .port fault => "node port: " ++ fault.message
  | .emptyAddress => "empty node address"
  | .keyHex key fault => key ++ " key: " ++ fault.message
  | .keySize key size => key ++ " key must be 32 bytes, got " ++ Decimal.ofNat size

namespace Node

/-- Nodes are ordered by address, then port, then keys. -/
def order : Node → Node → Ordering :=
  compareLex (compareOn Node.address) (compareLex (compareOn Node.port)
    (compareLex (compareOn Node.ed25519) (compareOn Node.x25519)))

instance : Ord Node := ⟨order⟩

instance : Std.TransOrd Node :=
  inferInstanceAs (Std.TransCmp (compareLex (compareOn Node.address)
    (compareLex (compareOn Node.port) (compareLex (compareOn Node.ed25519) (compareOn Node.x25519)))))

instance : Std.LawfulEqOrd Node where
  eq_of_compare {a b} h := by
    obtain ⟨address, h⟩ := Ordering.then_eq_eq.mp h
    obtain ⟨port, h⟩ := Ordering.then_eq_eq.mp h
    obtain ⟨ed, x⟩ := Ordering.then_eq_eq.mp h
    cases a
    cases b
    simp only [compareOn, Std.compare_eq_iff_eq] at address port ed x
    simp [address, port, ed, x]

/-- The text of a node. -/
def text (node : Node) : String :=
  node.address ++ "-" ++ Decimal.ofNat node.port.toNat ++ "-" ++ node.ed25519 ++ "-" ++ node.x25519

/-- Checks a key and brings it to lower case. -/
def checkKey (name key : String) : Except NodeFault String :=
  match Hex.decode key with
  | .error fault => .error (.keyHex name fault)
  | .ok bytes =>
    if bytes.length = 32 then .ok (String.ofList (key.toList.map Text.lowerAscii))
    else .error (.keySize name bytes.length)

/-- The node with these parts. -/
def ofParts (address : String) (port : UInt16) (ed25519 x25519 : String) :
    Except NodeFault Node := do
  if address.isEmpty then .error .emptyAddress
  let ed25519 ← checkKey "ed25519" ed25519
  let x25519 ← checkKey "x25519" x25519
  pure { address, port, ed25519, x25519 }

/-- Reads the digits of a port after the number `n`; the first fault from the left counts. -/
def readPort (n : Nat) : List Char → Except PortFault Nat
  | [] => .ok n
  | c :: cs =>
    if !c.isDigit then .error .badDigit
    else
      let next := 10 * n + (c.toNat - '0'.toNat)
      if 65535 < next then .error .tooLarge else readPort next cs

/-- Reads a port: decimal digits, with or without a plus sign. -/
def parsePort (cs : List Char) : Except PortFault UInt16 :=
  let run := match cs with
    | '+' :: c :: rest => c :: rest
    | _ => cs
  if run.isEmpty then .error .empty else (readPort 0 run).map UInt16.ofNat

/-- Cuts a text at its last hyphen. -/
def cutLast? (cs : List Char) : Option (List Char × List Char) :=
  let back := cs.reverse
  match back.dropWhile (· ≠ '-') with
  | [] => none
  | _ :: front => some (front.reverse, (back.takeWhile (· ≠ '-')).reverse)

/-- Cuts a text at its last three hyphens. -/
def cut? (cs : List Char) : Option (List Char × List Char × List Char × List Char) := do
  let (rest, x25519) ← cutLast? cs
  let (rest, ed25519) ← cutLast? rest
  let (address, port) ← cutLast? rest
  some (address, port, ed25519, x25519)

/-- Reads a node; blanks around the text are trimmed. -/
def parse (text : String) : Except NodeFault Node :=
  match cut? (Text.trim text.toList) with
  | none => .error (.malformed text)
  | some (address, port, ed25519, x25519) =>
    match parsePort port with
    | .error fault => .error (.port fault)
    | .ok port =>
      ofParts (String.ofList address) port (String.ofList ed25519) (String.ofList x25519)

end Node

/-- A set of nodes, in order. -/
abbrev NodeSet := Std.ExtTreeSet Node

namespace NodeSet

/-- The texts of the nodes, in order. -/
def texts (nodes : NodeSet) : List String :=
  nodes.toList.map Node.text

/-- The nodes that these texts stand for; texts of no node are left out. -/
def ofTexts (texts : List String) : NodeSet :=
  Std.ExtTreeSet.ofList (texts.filterMap fun text => (Node.parse text).toOption)

end NodeSet

end ConfigReplica.Routing
