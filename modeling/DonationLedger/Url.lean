import DonationLedger.Host.Address
import DonationLedger.Host.Label
import DonationLedger.Text.Lowercase
import DonationLedger.Text.Utf8

/-!
# Absolute URLs

Whether a text is an absolute URL, and if it is none, why. A URL has a scheme; after two slashes
stand an optional account, a host and an optional number of the service there. The schemes of the
web and of files need a host of their own form.

The web and files know domain names, which are read without regard to how they are encoded, and
numeric addresses. For any other scheme a host is a text that only has to be free of what divides a
URL, or an address in brackets.
-/

namespace DonationLedger

/-! ## Hosts -/

namespace Host

/-- Why a text is no host. -/
inductive Fault
  | empty
  | domainName
  | domainCharacter
  | address
  | bracketedAddress
  deriving DecidableEq, Repr

def Fault.text : Fault → String
  | empty => "empty host"
  | domainName => "invalid international domain name"
  | domainCharacter => "invalid domain character"
  | address => "invalid IPv4 address"
  | bracketedAddress => "invalid IPv6 address"

/-- What is wrong with a host that begins with a bracket, given what follows the bracket. -/
def bracketFault? (rest : List Char) : Option Fault :=
  if rest.getLast? = some ']' ∧ isBracketed rest.dropLast then none else some .bracketedAddress

/-- The characters of a label of ASCII. Any other label is no number, and stands as empty. -/
def Label.chars (l : Label) : List Char := if l.isAscii then l.map Char.ofNat else ['-']

/-- What is wrong with a domain name of these labels. -/
def labelsFault? (labels : List Label) : Option Fault :=
  let pieces := labels.map Label.chars
  if labels = [[]] then some .empty
  else if endsInNumber pieces then if isAddress pieces then none else some .address
  else none

/-- What is wrong with the host of a scheme of the web or of files. -/
def fault? (host : List Char) : Option Fault :=
  match host with
  | '[' :: rest => bracketFault? rest
  | _ =>
    let name := (Text.utf8Lossy (Text.percentBytes host)).toList
    match labels? (name.map Char.toNat) with
    | some labels => labelsFault? labels
    | none => some .domainName

/-- What is wrong with the host of any other scheme. -/
def opaqueFault? (host : List Char) : Option Fault :=
  match host with
  | '[' :: rest => bracketFault? rest
  | _ =>
    if host.any fun c => c.toNat = 0 || " #/:<>?@[\\]^|".toList.contains c then
      some .domainCharacter
    else none

end Host

/-! ## URLs -/

namespace Url

/-- Why a text is no absolute URL. -/
inductive Fault
  | noScheme
  | host (fault : Host.Fault)
  | serviceNumber
  deriving DecidableEq, Repr

def Fault.text : Fault → String
  | noScheme => "relative URL without a base"
  | host fault => fault.text
  | serviceNumber => "invalid port number"

/-- How much a scheme asks of what follows it. -/
inductive SchemeKind
  | web
  | file
  | other
  deriving DecidableEq, Repr

def schemeKind (scheme : List Char) : SchemeKind :=
  let name := String.ofList (scheme.map Text.lowerAscii)
  if name = "file" then .file
  else if name ∈ ["http", "https", "ws", "wss", "ftp"] then .web
  else .other

def isLetter (c : Char) : Bool := ('a' ≤ c && c ≤ 'z') || ('A' ≤ c && c ≤ 'Z')

/-- The characters without blanks and control characters at both ends, and without tabs and
line ends anywhere. -/
def cleaned (cs : List Char) : List Char :=
  let isEdge := fun c : Char => decide (c.toNat ≤ 0x20)
  let cut := ((cs.dropWhile isEdge).reverse.dropWhile isEdge).reverse
  cut.filter fun c => c ≠ '\t' && c ≠ '\n' && c ≠ '\r'

/-- The scheme before the first colon, and what follows the colon. -/
def scheme? (cs : List Char) : Option (List Char × List Char) :=
  match cs with
  | c :: _ =>
    if isLetter c then
      let isSchemeChar := fun c => isLetter c || Host.isDigit c || c = '+' || c = '-' || c = '.'
      match cs.dropWhile isSchemeChar with
      | ':' :: rest => some (cs.takeWhile isSchemeChar, rest)
      | _ => none
    else none
  | [] => none

/-- Whether the character ends the part of a URL that names account and host. -/
def endsAuthority (kind : SchemeKind) (c : Char) : Bool :=
  c = '/' || c = '?' || c = '#' || (c = '\\' && kind ≠ .other)

/-! ## Account, host and service -/

/-- The account before the last `@`, if there is one, and what follows. -/
def splitAccount (kind : SchemeKind) (cs : List Char) : Option (List Char) × List Char :=
  let authority := cs.takeWhile fun c => !endsAuthority kind c
  if authority.contains '@' then
    let host := (authority.reverse.takeWhile fun c => c ≠ '@').reverse
    let account := authority.take (authority.length - host.length - 1)
    (some account, cs.drop (account.length + 1))
  else (none, cs)

/-- The characters up to what ends a host, and the rest. A colon between brackets belongs to the
host. -/
def splitHost (kind : SchemeKind) : Bool → List Char → List Char × List Char
  | _, [] => ([], [])
  | bracket, c :: cs =>
    if endsAuthority kind c || (c = ':' && !bracket) then ([], c :: cs)
    else
      let r := splitHost kind (if c = '[' then true else if c = ']' then false else bracket) cs
      (c :: r.1, r.2)

/-- What is wrong with what follows a host. The number of the service may be empty. -/
def serviceFault? (rest : List Char) : Option Fault :=
  match rest with
  | ':' :: cs =>
    let number := cs.takeWhile fun c => !(c = '/' || c = '\\' || c = '?' || c = '#')
    match if number.all Host.isDigit then Host.digitsIn? 10 number else none with
    | some n => if n < 65536 then none else some .serviceNumber
    | none => some .serviceNumber
  | _ => none

/-- What is wrong with a host, which the web cannot do without. -/
def hostFault? (kind : SchemeKind) (host rest : List Char) : Option Fault :=
  if host.isEmpty then
    if kind = .web ∨ rest.head? = some ':' then some (.host .empty) else none
  else (if kind = .other then Host.opaqueFault? host else Host.fault? host).map Fault.host

/-- What is wrong behind the two slashes. An account that names neither user nor password counts
as none. -/
def authorityFault? (kind : SchemeKind) (cs : List Char) : Option Fault :=
  let (account, cs) := splitAccount kind cs
  if account = some [] ∧ cs.head?.any (endsAuthority kind) then some (.host .empty)
  else
    let (host, rest) := splitHost kind false cs
    match hostFault? kind host rest with
    | some f => some f
    | none => match serviceFault? rest with
      | some f => some f
      | none =>
        if host.isEmpty ∧ account.any fun a => a ≠ [] ∧ a ≠ [':'] then some (.host .empty)
        else none

/-- What is wrong with the host of a file, which may be empty or a drive. -/
def fileFault? (cs : List Char) : Option Fault :=
  let host := cs.takeWhile fun c => !endsAuthority .file c
  let isDrive := match host with
    | [d, m] => isLetter d && (m = ':' || m = '|')
    | _ => false
  if host.isEmpty || isDrive then none else (Host.fault? host).map Fault.host

/-- What is wrong with the text as an absolute URL, `none` where nothing is. -/
def fault? (s : String) : Option Fault :=
  match scheme? (cleaned s.toList) with
  | none => some .noScheme
  | some (scheme, rest) =>
    let isSlash := fun c => c = '/' || c = '\\'
    match schemeKind scheme with
    | .web => authorityFault? .web (rest.dropWhile isSlash)
    | .file => match rest with
      | a :: b :: cs => if isSlash a && isSlash b then fileFault? cs else none
      | _ => none
    | .other => match rest with
      | '/' :: '/' :: cs => authorityFault? .other cs
      | _ => none

end Url

end DonationLedger
