import ScanIndex.Internet.Address

/-!
# Endpoints for connections

An endpoint is an address of this machine and a port.  `Endpoint.ofText` reads the text of an
endpoint and finds its address without asking other machines, and `bindFailure?` says why no
connections can be accepted there.
-/

namespace ScanIndex.Internet

/-- Why connections cannot be accepted at an endpoint. -/
inductive BindFailure where
  | noEndpoint
  | noPort
  | nullCharacter
  /-- No machine can have the name. -/
  | unknownName
  /-- No answer tells which machine has the name. -/
  | noAnswer
  | denied
  | notLocal
  | inUse
  | unusable
deriving DecidableEq

/-- The message for a failure. -/
def BindFailure.message : BindFailure → String
  | noEndpoint => "invalid socket address"
  | noPort => "invalid port value"
  | nullCharacter => "file name contained an unexpected NUL byte"
  | unknownName => "failed to lookup address information: Name or service not known"
  | noAnswer => "failed to lookup address information: Temporary failure in name resolution"
  | denied => "Permission denied (os error 13)"
  | notLocal => "Cannot assign requested address (os error 99)"
  | inUse => "Address already in use (os error 98)"
  | unusable => "Invalid argument (os error 22)"

/-- An address of either kind. -/
inductive Address where
  | four (n : Nat)
  /-- The numbers, and whether a network is named with them. -/
  | eight (ns : List Nat) (isScoped : Bool)
deriving DecidableEq

/-- An address and a port. -/
structure Endpoint where
  address : Address
  port : Nat
deriving DecidableEq

/-- The number below 65536 that decimal digits write. -/
def port? (cs : List Char) : Option Nat :=
  let n := digitsValue 10 cs
  if !cs.isEmpty && cs.all Char.isDigit && n < 65536 then some n else none

/-- The text before the last `c` and the text behind it. -/
def splitLast (c : Char) (cs : List Char) : Option (List Char × List Char) :=
  let (back, front) := splitFirst c cs.reverse
  front.map fun front => (front.reverse, back.reverse)

/-- An address of four numbers in strict form. -/
def strict4? (cs : List Char) : Option Address :=
  match octets? cs with
  | some ns => (ofParts? ns).map Address.four
  | none => none

/-- An address of eight numbers, with the number of a network behind a percent sign or without. -/
def scoped6? (cs : List Char) : Option Address :=
  match splitFirst '%' cs with
  | (cs, none) => (address6? cs).map fun ns => .eight ns false
  | (cs, some scope) =>
    let n := digitsValue 10 scope
    if !scope.isEmpty && scope.all Char.isDigit && n < UInt32.size then
      (address6? cs).map fun ns => .eight ns (n ≠ 0)
    else none

/-- An endpoint in strict form: four numbers, or eight numbers in square brackets, and a port. -/
def strict? (cs : List Char) : Option Endpoint := do
  let (host, port) ← splitLast ':' cs
  let port ← port? port
  match host with
  | '[' :: host =>
    if host.getLast? = some ']' then (scoped6? host.dropLast).map fun a => ⟨a, port⟩ else none
  | host => (strict4? host).map fun a => ⟨a, port⟩

/-- An address of four numbers in loose form. -/
def loose4? (host : List Char) : Option Address := do
  let ns ← (pieces '.' host).mapM number?
  (ofParts? ns).map Address.four

/-- The character may stand in the name of a machine. -/
def isNameChar (c : Char) : Bool := c.isAlphanum || c = '-' || c = '_' || c = '.'

/-- A machine can have the name: labels between dots, with one dot more at the end or without. -/
def isName (host : List Char) : Bool :=
  !host.isEmpty && host.all isNameChar && host.head? ≠ some '-' && host.length < 255
    && (host = ['.'] || (labels host).all fun l => !l.isEmpty && l.length < 64)

/-- Find the address of a host. -/
def lookUp (host : List Char) : Except BindFailure Address :=
  if host.contains '\x00' then .error .nullCharacter
  else if host.map Char.toLower = "localhost".toList then .ok (.four 0x7f000001)
  else
    match loose4? host, address6? host with
    | some a, _ => .ok a
    | none, some ns => .ok (.eight ns false)
    | none, none => .error (if isName host then .noAnswer else .unknownName)

/-- Read the text of an endpoint, and find the address of its host. -/
def Endpoint.ofText (text : String) : Except BindFailure Endpoint :=
  match strict? text.toList, splitLast ':' text.toList with
  | some e, _ => .ok e
  | none, none => .error .noEndpoint
  | none, some (host, port) =>
    match port? (if port.head? = some '+' then port.drop 1 else port) with
    | none => .error .noPort
    | some port => (lookUp host).map fun a => ⟨a, port⟩

namespace Address

/-- An address of eight numbers that stands for one of four numbers is brought into that form. -/
def plain : Address → Address
  | eight [0, 0, 0, 0, 0, 0xffff, a, b] _ => four (a * 0x10000 + b)
  | a => a

/-- The address of this machine as it sees itself. -/
def loopback : Address := four 0x7f000001

/-- The address stands for every address of this machine. -/
def isEvery (a : Address) : Bool := a = four 0 || a = eight (List.replicate 8 0) false

/-- Connections can be accepted at the address: this machine has it, or a group of machines. -/
def isOwn : Address → Bool
  | four n => n / 0x1000000 = 127 || n = 0 || n / 0x10000000 = 14 || n = 0xffffffff
  | eight ns _ => ns.take 7 = List.replicate 7 0 && ns.getLastD 0 < 2

/-- The address has a meaning on one network only, and none is named with it. -/
def needsScope : Address → Bool
  | four _ => false
  | eight ns isScoped =>
    !isScoped && (ns.headD 0 / 64 = 0xfe80 / 64 || ns.headD 0 / 256 = 0xff)

end Address

/-- Why connections cannot be accepted at an endpoint, if they cannot; other programs accept them at
the listed ports of the loopback address, and ports below 1024 are reserved. -/
def Endpoint.bindFailure? (taken : List Nat) (e : Endpoint) : Option BindFailure :=
  let a := e.address.plain
  if 0 < e.port ∧ e.port < 1024 then some .denied
  else if a.needsScope then some .unusable
  else if !a.isOwn then some .notLocal
  else if e.port ∈ taken ∧ (a = .loopback ∨ a.isEvery) then some .inUse
  else none

end ScanIndex.Internet
