import CardService.Text.Blank
import CardService.Text.Utf8
import CardService.Url.Address
import CardService.Url.Domain

/-!
# CardService — URLs

Whether a text is an absolute URL, and of which scheme. A URL is read as browsers read it: blanks
around it and newlines within it are skipped, a special scheme may be followed by any number of
slashes of either kind, and the host of a special scheme is a domain or an address.
-/

namespace CardService.Url

/-! ## Faults -/

/-- Why a text is not an absolute URL. -/
inductive Fault where
  | noScheme
  | emptyHost
  | invalidDomain
  | invalidDomainCharacter
  | invalidPort
  | invalidIpv4
  | invalidIpv6
  deriving DecidableEq

def Fault.message : Fault → String
  | .noScheme => "relative URL without a base"
  | .emptyHost => "empty host"
  | .invalidDomain => "invalid international domain name"
  | .invalidDomainCharacter => "invalid domain character"
  | .invalidPort => "invalid port number"
  | .invalidIpv4 => "invalid IPv4 address"
  | .invalidIpv6 => "invalid IPv6 address"

/-! ## Schemes -/

/-- How the rest of a URL is read. -/
inductive SchemeKind where
  | special
  | file
  | other
  deriving DecidableEq

/-- The kind of a scheme. -/
def schemeKind (scheme : String) : SchemeKind :=
  if scheme = "file" then .file
  else if ["http", "https", "ws", "wss", "ftp"].contains scheme then .special
  else .other

/-- The characters of a scheme behind the first one. -/
def isSchemeChar (c : Char) : Bool := c.isAlphanum || c = '+' || c = '-' || c = '.'

/-- The scheme in front of the first colon, and what is behind that. -/
def splitScheme? (text : List Char) : Option (String × List Char) :=
  match text with
  | [] => none
  | first :: _ =>
    if !first.isAlpha then none
    else
      match text.span isSchemeChar with
      | (scheme, ':' :: rest) => some (String.ofList (scheme.map Char.toLower), rest)
      | _ => none

/-! ## Hosts -/

/-- Whether a character ends the authority of a URL. -/
def endsAuthority (kind : SchemeKind) (c : Char) : Bool :=
  c = '/' || c = '?' || c = '#' || (c = '\\' && kind ≠ .other)

/-- Replaces each percent sign that two hexadecimal digits follow. -/
def percentDecode : List UInt8 → List UInt8
  | [] => []
  | 0x25 :: high :: low :: rest =>
    match Text.hexDigit? (Char.ofNat high.toNat), Text.hexDigit? (Char.ofNat low.toNat) with
    | some h, some l => UInt8.ofNat (h * 16 + l) :: percentDecode rest
    | _, _ => 0x25 :: percentDecode (high :: low :: rest)
  | b :: rest => b :: percentDecode rest

/-- The text in brackets, if the brackets close. -/
def bracketed? (rest : List Char) : Option (List Char) :=
  if rest.getLast? = some ']' then some rest.dropLast else none

/-- Checks an address in brackets, behind the opening one. -/
def checkBracketed (rest : List Char) : Except Fault Unit :=
  match bracketed? rest with
  | some address => if Ipv6.isAddress address then .ok () else .error .invalidIpv6
  | none => .error .invalidIpv6

/-- Checks a host that is a domain or an address. -/
def checkHost (host : List Char) : Except Fault Unit :=
  match host with
  | '[' :: rest => checkBracketed rest
  | _ =>
    match Utf8.decode (percentDecode (Utf8.encode host)) with
    | .error _ => .error .invalidDomain
    | .ok text =>
      match domain? text with
      | none => .error .invalidDomain
      | some [[]] => .error .emptyHost
      | some labels =>
        if Ipv4.isMeant labels && !Ipv4.isAddress labels then .error .invalidIpv4 else .ok ()

/-- The ASCII characters that no host contains. -/
def isForbiddenInHost (c : Char) : Bool :=
  c = '\x00' || " #/:<>?@[\\]^|".toList.contains c

/-- Checks a host that nothing is known about. -/
def checkOpaqueHost (host : List Char) : Except Fault Unit :=
  match host with
  | '[' :: rest => checkBracketed rest
  | _ => if host.any isForbiddenInHost then .error .invalidDomainCharacter else .ok ()

/-- Splits the host off an authority. A colon in brackets belongs to the host. -/
def splitHost : Bool → List Char → List Char × List Char
  | _, [] => ([], [])
  | inside, c :: rest =>
    if c = ':' && !inside then ([], c :: rest)
    else
      let inside := if c = '[' then true else if c = ']' then false else inside
      let (host, behind) := splitHost inside rest
      (c :: host, behind)

/-! ## Authorities -/

/-- Splits at the last at sign. -/
def splitUser? : List Char → Option (List Char × List Char)
  | [] => none
  | c :: rest =>
    match splitUser? rest with
    | some (user, host) => some (c :: user, host)
    | none => if c = '@' then some ([], rest) else none

/-- Whether the text in front of an at sign names a user or a password. -/
def namesUser (user : List Char) : Bool := !user.isEmpty && user ≠ [':']

/-- Checks the port behind a colon. -/
def checkPort (digits : List Char) : Except Fault Unit :=
  if digits.all Char.isDigit && ((numberFrom 10 0 digits).all (· ≤ 65535)) then .ok ()
  else .error .invalidPort

/-- Checks a host with its port. A URL that names a user must have a host. -/
def checkHostAndPort (kind : SchemeKind) (user : Bool) (text : List Char) : Except Fault Unit := do
  let (host, port) := splitHost false text
  if kind = .other then checkOpaqueHost host
  else if host.isEmpty then throw .emptyHost
  else checkHost host
  if host.isEmpty && !port.isEmpty then throw .emptyHost
  match port with
  | _ :: digits => checkPort (digits.takeWhile fun c => c ≠ '\\')
  | [] => pure ()
  if host.isEmpty && user then throw .emptyHost

/-- Checks what is behind the slashes of a URL. -/
def checkAuthority (kind : SchemeKind) (rest : List Char) : Except Fault Unit :=
  let (authority, behind) := rest.span fun c => !endsAuthority kind c
  match splitUser? authority with
  | none => checkHostAndPort kind false authority
  | some (user, host) =>
    if user.isEmpty && host.isEmpty && !behind.isEmpty then .error .emptyHost
    else checkHostAndPort kind (namesUser user) host

/-! ## Files -/

def isSlash (c : Char) : Bool := c = '/' || c = '\\'

/-- Whether a text is the letter of a drive. -/
def isDriveLetter (text : List Char) : Bool :=
  match text with
  | [letter, mark] => letter.isAlpha && (mark = ':' || mark = '|')
  | _ => false

/-- Checks the host of a file, which may be left out. -/
def checkFile (rest : List Char) : Except Fault Unit :=
  match rest with
  | a :: b :: rest =>
    if isSlash a && isSlash b then
      let host := rest.takeWhile fun c => !endsAuthority .file c
      if host.isEmpty || isDriveLetter host then .ok () else checkHost host
    else .ok ()
  | _ => .ok ()

/-! ## URLs -/

/-- Skips blanks and control characters around a text, and tabs and newlines in it. -/
def clean (text : List Char) : List Char :=
  (Text.trimBy (·.toNat ≤ 0x20) text).filter fun c => c ≠ '\t' && c ≠ '\n' && c ≠ '\r'

/-- Checks what is behind the scheme of a URL. -/
def checkBehind (kind : SchemeKind) (rest : List Char) : Except Fault Unit :=
  match kind with
  | .special => checkAuthority .special (rest.dropWhile isSlash)
  | .file => checkFile rest
  | .other =>
    match rest with
    | '/' :: '/' :: rest => checkAuthority .other rest
    | _ => .ok ()

/-- The scheme of an absolute URL, in lower case. -/
def schemeOf (text : String) : Except Fault String :=
  match splitScheme? (clean text.toList) with
  | none => .error .noScheme
  | some (scheme, rest) => (checkBehind (schemeKind scheme) rest).map fun _ => scheme

end CardService.Url
