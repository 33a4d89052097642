import ClaimRelay.Bus.Error
import ClaimRelay.Json.Reader

/-! Addresses of NATS servers.  An address is a URL with the scheme `nats`, `tls`, `ws` or `wss`, and
one without a scheme is a `nats` address.  Only what can be wrong with an address is worked out. -/

namespace ClaimRelay.Nats.Address

open Bus (AddressFlaw)

/-- Whether `sub` occurs in a text. -/
def contains (sub : List Char) : List Char → Bool
  | [] => sub.isEmpty
  | c :: rest => sub.isPrefixOf (c :: rest) || contains sub rest

/-- The text without controls and spaces at its ends, and without tabs and line ends. -/
def clean (cs : List Char) : List Char :=
  let low (c : Char) : Bool := c.toNat ≤ 0x20
  ((cs.dropWhile low).reverse.dropWhile low).reverse.filter fun c =>
    c ≠ '\t' && c ≠ '\n' && c ≠ '\r'

/-- The scheme of an address, in lower case, and what follows its colon. -/
def scheme? (cs : List Char) : Option (List Char × List Char) :=
  let isPart (c : Char) : Bool := c.isAlphanum || c = '+' || c = '-' || c = '.'
  match cs with
  | [] => none
  | c :: _ =>
    if !c.isAlpha then none
    else match cs.dropWhile isPart with
      | ':' :: rest => some ((cs.takeWhile isPart).map Char.toLower, rest)
      | _ => none

/-- The schemes whose hosts are names of the Internet. -/
def specialSchemes : List (List Char) :=
  ["http".toList, "https".toList, "ftp".toList, "ws".toList, "wss".toList]

/-- The schemes of NATS servers. -/
def natsSchemes : List (List Char) := ["nats".toList, "tls".toList, "ws".toList, "wss".toList]

/-! ### Hosts -/

/-- Whether a part of an address in dotted form is a number up to 255. -/
def isOctet (cs : List Char) : Bool :=
  cs ≠ [] && cs.all Char.isDigit && cs.length ≤ 3 && (cs.length = 1 || cs.head? ≠ some '0') &&
  cs.foldl (fun n c => 10 * n + (c.toNat - 48)) 0 ≤ 255

/-- Whether the text is an address of four parts in dotted form. -/
def isDotted (cs : List Char) : Bool :=
  let parts := Text.split '.' cs
  parts.length = 4 && parts.all isOctet

/-- Whether a character is a hexadecimal digit. -/
def isHex (c : Char) : Bool :=
  c.isDigit || ('a' ≤ c && c ≤ 'f') || ('A' ≤ c && c ≤ 'F')

/-- Whether the rest of an address of eight parts is well formed, after `count` parts.  A run of
zeros may be left out once, and counts as one part. -/
def isIpv6Rest : Nat → Nat → Bool → List Char → Bool
  | 0, _, _, _ => false
  | _ + 1, count, shortened, [] => shortened || count = 8
  | fuel + 1, count, shortened, c :: rest =>
    if count = 8 then false
    else if c = ':' then !shortened && isIpv6Rest fuel (count + 1) true rest
    else
      let digits := ((c :: rest).take 4).takeWhile isHex
      match (c :: rest).drop digits.length with
      | [] => isIpv6Rest fuel (count + 1) shortened []
      | ':' :: after =>
        !after.isEmpty && digits ≠ [] && isIpv6Rest fuel (count + 1) shortened after
      | '.' :: _ =>
        digits ≠ [] && count ≤ 6 && isDotted (c :: rest) && (shortened || count = 6)
      | _ => false

/-- Whether the text is an address of eight parts. -/
def isIpv6 (cs : List Char) : Bool :=
  match cs with
  | ':' :: ':' :: rest => isIpv6Rest (cs.length + 1) 1 true rest
  | ':' :: _ => false
  | _ => isIpv6Rest (cs.length + 1) 0 false cs

/-- The characters that no host may hold. -/
def forbidden : List Char :=
  ['\x00', '\t', '\n', '\r', ' ', '#', '/', ':', '<', '>', '?', '@', '[', '\\', ']', '^', '|']

/-- The value of a number that may be octal or hexadecimal. -/
def partValue? (cs : List Char) : Option Nat :=
  let value (base : Nat) (digits : List Char) : Option Nat :=
    digits.foldlM (fun n c =>
      (Json.hexValue? (Json.byte c)).bind fun d => if d < base then some (n * base + d) else none) 0
  match cs with
  | [] => none
  | '0' :: 'x' :: rest => value 16 rest
  | '0' :: 'X' :: rest => value 16 rest
  | '0' :: d :: rest => value 8 (d :: rest)
  | cs => value 10 cs

/-- The parts of a name, without an empty last one. -/
def labels (cs : List Char) : List (List Char) :=
  let parts := Text.split '.' cs
  if 1 < parts.length ∧ parts.getLast? = some [] then parts.dropLast else parts

/-- Whether a name has to be read as an address in numbers. -/
def endsInNumber (cs : List Char) : Bool :=
  match (labels cs).getLast? with
  | none => false
  | some last => (last ≠ [] && last.all Char.isDigit) || (partValue? last).isSome

/-- Whether a name is an address in numbers. -/
def isIpv4 (cs : List Char) : Bool :=
  let parts := labels cs
  match parts.mapM partValue? with
  | none => false
  | some values =>
    values.length ≤ 4 && values.dropLast.all (· ≤ 255) &&
    (values.getLast?.getD 0) < Nat.pow 256 (5 - values.length)

/-- What is wrong with a host. -/
def hostFlaw? (special : Bool) (host : List Char) : Option AddressFlaw :=
  if host.head? = some '[' then
    if host.getLast? = some ']' ∧ isIpv6 (host.drop 1).dropLast then none else some .badIpv6
  else if special then
    if host.any fun c => forbidden.contains c || c = '%' || c.toNat = 0x7F || c.toNat < 0x20 then
      some .badDomain
    else if endsInNumber host then if isIpv4 host then none else some .badIpv4
    else none
  else if host.any forbidden.contains then some .badHost
  else none

/-! ### The authority -/

/-- What follows the last `@` of an authority, and whether there is a name or a password before
it. -/
def afterUser (authority : List Char) : Bool × List Char :=
  let host := (authority.reverse.takeWhile (· ≠ '@')).reverse
  let user := authority.take (authority.length - host.length - 1)
  (user ≠ [] && user ≠ [':'], host)

/-- The host of an authority: it ends at a colon that stands in no brackets. -/
def splitHost : Bool → List Char → List Char × List Char
  | _, [] => ([], [])
  | inside, c :: rest =>
    if c = ':' ∧ inside = false then ([], c :: rest)
    else
      let (host, after) := splitHost ((inside || c = '[') && c ≠ ']') rest
      (c :: host, after)

/-- The port beyond the greatest one. -/
def portLimit : Nat := 65536

/-- What is wrong with a port. -/
def portFlaw? (digits : List Char) : Option AddressFlaw :=
  if digits.all Char.isDigit ∧
      digits.foldl (fun n c => 10 * n + (c.toNat - 48)) 0 < portLimit then none
  else some .badPort

/-- What is wrong with an authority.  `after` is what follows it. -/
def authorityFlaw? (special : Bool) (authority after : List Char) : Option AddressFlaw :=
  let (hasUser, rest) := afterUser authority
  let (host, port) := splitHost false rest
  if authority = ['@'] ∧ after ≠ [] then some .emptyHost
  else if host = [] then
    if special ∨ port ≠ [] ∨ hasUser then some .emptyHost else none
  else match hostFlaw? special host with
    | some flaw => some flaw
    | none => if port = [] then none else portFlaw? (port.drop 1)

/-- What is wrong with an address. -/
def flaw? (text : String) : Option AddressFlaw :=
  let full := if contains "://".toList text.toList then text.toList else "nats://".toList ++ text.toList
  match scheme? (clean full) with
  | none => some .noScheme
  | some (scheme, rest) =>
    let special := specialSchemes.contains scheme
    let isSlash (c : Char) : Bool := c = '/' || (special && c = '\\')
    let isEnd (c : Char) : Bool := isSlash c || c = '?' || c = '#'
    let inner? : Option (List Char) :=
      if special then some (rest.dropWhile isSlash)
      else if scheme = "file".toList then none
      else match rest with
        | '/' :: '/' :: inner => some inner
        | _ => none
    let found := inner?.bind fun inner =>
      authorityFlaw? special (inner.takeWhile (!isEnd ·)) (inner.dropWhile (!isEnd ·))
    match found with
    | some flaw => some flaw
    | none =>
      if natsSchemes.contains scheme then none else some (.scheme (String.ofList scheme))

end ClaimRelay.Nats.Address
