import ServiceOperator.Text.Percent
import ServiceOperator.Text.Punycode
import ServiceOperator.Text.Unprintable
import ServiceOperator.Text.WhiteSpace

/-!
# Hosts in URLs

The rules of the URL standard for what may stand as a host. A host in brackets is an IPv6 address.
Under the schemes that everyone knows any other host is a domain, which is decoded and mapped to
lower case first, or an IPv4 address if its last label is a number. Under other schemes a host is
taken as it is, apart from a few characters.
-/

namespace ServiceOperator

/-- Why a text is not a URL. -/
inductive UrlError where
  /-- There is no scheme, and nothing that the text could be relative to. -/
  | relative
  | emptyHost
  | invalidDomain
  | invalidIpv4
  | invalidIpv6
  | invalidPort
  | invalidHostCharacter
  deriving DecidableEq, Repr

/-- What is reported for a text that is not a URL. -/
def UrlError.message : UrlError → String
  | relative => "relative URL without a base"
  | emptyHost => "empty host"
  | invalidDomain => "invalid international domain name"
  | invalidIpv4 => "invalid IPv4 address"
  | invalidIpv6 => "invalid IPv6 address"
  | invalidPort => "invalid port number"
  | invalidHostCharacter => "invalid domain character"

namespace Host

open Text

/-- Splits a list at every occurrence of a separator. -/
def splitAt (sep : Char) : List Char → List (List Char)
  | [] => [[]]
  | c :: rest =>
    if c = sep then [] :: splitAt sep rest
    else match splitAt sep rest with
      | part :: parts => (c :: part) :: parts
      | [] => [[c]]

/-- The value of a number written in decimal, octal or hexadecimal digits as its start says. -/
def ipv4Number? (cs : List Char) : Option Nat :=
  let (base, digits) : Nat × List Char := match cs with
    | '0' :: 'x' :: rest => (16, rest)
    | '0' :: 'X' :: rest => (16, rest)
    | '0' :: d :: rest => (8, d :: rest)
    | cs => (10, cs)
  if cs.isEmpty then none
  else if digits.all fun c => (hexValue? c).any fun v => decide (v < base) then
    some (digits.foldl (fun n c => n * base + (hexValue? c).getD 0) 0)
  else none

/-- The labels of a domain, less an empty one at the end. -/
def labels (cs : List Char) : List (List Char) :=
  match (splitAt '.' cs).reverse with
  | [] :: front => front.reverse
  | parts => parts.reverse

/-- A domain whose last label is a number, so that it has to be an IPv4 address. -/
def endsInNumber (cs : List Char) : Bool :=
  match (labels cs).getLast? with
  | some last => (!last.isEmpty && last.all isDigit) || (ipv4Number? last).isSome
  | none => false

/-- An IPv4 address: up to four numbers, the last of which fills the bytes that are left. -/
def isIpv4 (cs : List Char) : Bool :=
  let parts := labels cs
  match parts.mapM ipv4Number? with
  | some numbers =>
    match numbers.reverse with
    | last :: front =>
      decide (numbers.length ≤ 4) && front.all (fun n => decide (n ≤ 255)) &&
        decide (last < Nat.pow 256 (4 - front.length))
    | [] => false
  | none => false

/-- A byte in decimal digits without leading zeros. -/
def isDecimalByte (cs : List Char) : Bool :=
  !cs.isEmpty && cs.all isDigit && decide (cs.length ≤ 3) && decide (digitsValue cs ≤ 255) &&
    (decide (cs.length = 1) || cs.head? ≠ some '0')

/-- Four bytes with points between them. -/
def isDottedQuad (cs : List Char) : Bool :=
  let parts := splitAt '.' cs
  decide (parts.length = 4) && parts.all isDecimalByte

/-- The rest of an IPv6 address after `pieces` of its eight pieces; `short` says that a double colon
has stood for some of them already. -/
def ipv6Rest (pieces : Nat) (short : Bool) (cs : List Char) : Bool :=
  match cs with
  | [] => short || pieces == 8
  | c :: rest =>
    if pieces = 8 then false
    else if c = ':' then !short && ipv6Rest (pieces + 1) true rest
    else
      let digits := ((c :: rest).takeWhile fun d => (hexValue? d).isSome).take 4
      match (c :: rest).drop digits.length with
      | [] => short || pieces + 1 == 8
      | '.' :: _ =>
        !digits.isEmpty && decide (pieces ≤ 6) && isDottedQuad (c :: rest) &&
          (short || pieces + 2 == 8)
      | ':' :: next =>
        if digits.isEmpty then false
        else if next.isEmpty then false
        else if _shorter : next.length < (c :: rest).length then ipv6Rest (pieces + 1) short next
        else false
      | _ => false
termination_by cs.length
decreasing_by
  · exact Nat.lt_succ_self _
  · assumption

/-- An IPv6 address. -/
def isIpv6 (cs : List Char) : Bool :=
  match cs with
  | ':' :: ':' :: rest => ipv6Rest 1 true rest
  | ':' :: _ => false
  | [] => false
  | [_] => false
  | cs => ipv6Rest 0 false cs

/-- A character that a domain may not contain once it is decoded. -/
def isForbidden (c : Char) : Bool :=
  decide (c.toNat ≤ 0x20) || c.toNat = 0x7F ||
    ['#', '%', '/', ':', '<', '>', '?', '@', '[', '\\', ']', '^', '\x60', '\x7b', '|',
      '\x7d'].contains c

/-- What a character of a domain is mapped to: nothing for characters that do not show, the plain
form for wide forms and for other full stops, the lower case for capitals. -/
def mapChar (c : Char) : List Char :=
  let n := c.toNat
  if [0xAD, 0x200B, 0x2060, 0xFEFF].contains n || (0xFE00 ≤ n && n ≤ 0xFE0F) then []
  else if n = 0x3002 || n = 0xFF61 then ['.']
  else if 0xFF01 ≤ n && n ≤ 0xFF5E then [(Char.ofNat (n - 0xFEE0)).toLower]
  else [c.toLower]

/-- A character outside ASCII. -/
def isForeign (c : Char) : Bool := decide (128 ≤ c.toNat)

/-- A label whose characters are all shown and that does not start with a mark. -/
def isShown (label : List Char) : Bool :=
  !(label.head?.any isMark) && !(label.any fun c => isForeign c && isHidden c)

/-- A label that a mapped domain may have. One that begins like an ASCII form has to be the form of
a label that is not ASCII. -/
def isLabel (label : List Char) : Bool :=
  match label with
  | 'x' :: 'n' :: '-' :: '-' :: form =>
    !form.any isForeign &&
      match Punycode.decode? form with
      | some text => text.any isForeign && isShown text && text.flatMap mapChar == text
      | none => false
  | _ => isShown label

/-- The domain that a host denotes, if it may stand. -/
def domain? (cs : List Char) : Option (List Char) :=
  match String.fromUTF8? ⟨(percentDecode cs).toArray⟩ with
  | none => none
  | some decoded =>
    let mapped := decoded.toList.flatMap mapChar
    if mapped.any isForbidden || !(splitAt '.' mapped).all isLabel then none else some mapped

/-- Checks a host in brackets, or any other one by `other`. -/
def checkBracketed (cs : List Char) (other : Except UrlError Unit) : Except UrlError Unit :=
  match cs with
  | '[' :: rest =>
    if rest.getLast? = some ']' ∧ isIpv6 rest.dropLast then .ok () else .error .invalidIpv6
  | _ => other

/-- Checks a host under a scheme that everyone knows. -/
def check (cs : List Char) : Except UrlError Unit :=
  checkBracketed cs <|
    match domain? cs with
    | none => .error .invalidDomain
    | some domain =>
      if domain.isEmpty then .error .emptyHost
      else if endsInNumber domain then
        if isIpv4 domain then .ok () else .error .invalidIpv4
      else .ok ()

/-- A character that no host may contain. -/
def isInvalid (c : Char) : Bool :=
  c.toNat = 0 || [' ', '#', '/', ':', '<', '>', '?', '@', '[', '\\', ']', '^', '|'].contains c

/-- Checks a host under any other scheme. -/
def checkPlain (cs : List Char) : Except UrlError Unit :=
  checkBracketed cs <| if cs.any isInvalid then .error .invalidHostCharacter else .ok ()

end Host

end ServiceOperator
