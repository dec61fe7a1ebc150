import QueryRegistry.Text.Numeral
import QueryRegistry.Text.Utf8
import QueryRegistry.Yaml.Scan
import QueryRegistry.Yaml.Token

/-! Reading what stands in front of the values of a YAML text: directives, anchors and tags. -/

namespace QueryRegistry

namespace Yaml

namespace Scan

def wordUpTo (activity : Activity) (began : Mark) : Scan String := do
  let word ← takeWhile isWordChar
  if word.isEmpty then
    failWhile activity began (.expectedChar "alphabetic or numeric character" (← peek))
  return String.ofList word

def endsAnchor (c : Option Char) : Bool :=
  isBlankOrEnd c || c.any fun c => "?:,]\x7d%@\x60".toList.contains c

def anchor : Scan TokenKind := do
  let began ← mark
  let isAlias := (← peek) = some '*'
  let activity := if isAlias then Activity.reference else .anchor
  skip 1
  let name ← wordUpTo activity began
  let c ← peek
  unless endsAnchor c do
    failWhile activity began (.expectedChar "alphabetic or numeric character" c)
  return if isAlias then .reference name else .anchor name

def isUriChar (c : Char) : Bool :=
  isWordChar c || ";/?:@&=+$,_.!~*'()[]".toList.contains c

def uriBytesUpTo (activity : Activity) (began : Mark) : Nat → Scan (List UInt8)
  | 0 => return []
  | bound + 1 => do
    if (← peek) = some '%' then
      skip 1
      for k in [0, 1] do
        let c ← peekAt k
        unless c.any isHexDigit do
          failWhile activity began
            (.expectedChar "URI escape sequence of 2 hexadecimal numbers" c)
      let digits ← take 2
      return ((hexNumber? digits).getD 0).toUInt8 :: (← uriBytesUpTo activity began bound)
    else return []

def uriUpTo (activity : Activity) (began : Mark) : Nat → Scan (List Char)
  | 0 => return []
  | bound + 1 => do
    let plain ← takeWhile isUriChar
    if (← peek) = some '%' then
      let escaped ← mark
      match Utf8.decode (← uriBytesUpTo activity began (bound + 1)) with
      | .ok chars => return plain ++ chars ++ (← uriUpTo activity began bound)
      | .error f => throw (.fault (.marked (some (activity, some began)) (.plain f.message) escaped))
    else return plain

def uri (what : String) (activity : Activity) (began : Mark) : Scan String := do
  let chars ← uriUpTo activity began (← bound)
  if chars.isEmpty then
    failWhile (.tagOf what) began (.expectedChar "URI" (← peek))
  return String.ofList chars

/-- An exclamation mark, or a word between two of them. -/
def handle (activity : Activity) (began : Mark) : Scan String := do
  let c ← peek
  unless c = some '!' do
    failWhile activity began (.expectedChar "'!'" c)
  skip 1
  if (← peek) = some ' ' then return "!"
  else
    let word ← takeWhile isWordChar
    let c ← peek
    unless c = some '!' do
      failWhile activity began (.expectedChar "'!'" c)
    skip 1
    return String.ofList ('!' :: word ++ ['!'])

def hasHandle : Scan Bool := do
  let word := ((← get).rest.drop 1).takeWhile fun c => !isSpaceOrEnd (some c) && c != '!'
  return (← peekAt (word.length + 1)) = some '!'

/-- The handle of a tag. It is a lone exclamation mark unless a second one comes. -/
def writtenHandle (began : Mark) : Scan String := do
  if ← hasHandle then handle .tag began
  else
    skip 1
    return "!"

def tag : Scan TokenKind := do
  let began ← mark
  let next ← peekAt 1
  let (handle, suffix) ←
    if next = some '<' then do
      skip 2
      let suffix ← uri "tag" .tag began
      let c ← peek
      unless c = some '>' do
        failWhile (.tagOf "tag") began (.expectedChar "'>'" c)
      skip 1
      pure (none, suffix)
    else if isBlankOrEnd next then do
      skip 1
      pure (none, "!")
    else do
      let handle ← writtenHandle began
      pure (some handle, ← uri "tag" .tag began)
  let c ← peek
  unless isSpaceOrEnd c do
    failWhile .tag began (.expectedChar "' '" c)
  return .tag handle suffix

def number (began : Mark) : Scan Nat := do
  let digits ← takeWhile fun c => '0' ≤ c && c ≤ '9'
  if digits.isEmpty then
    failWhile .directive began (.expectedChar "a digit" (← peek))
  if mostDigits < digits.length then
    breakDown (.longNumber digits.length)
  return digits.foldl (fun n c => 10 * n + (c.toNat - '0'.toNat)) 0

def version (began : Mark) : Scan TokenKind := do
  skipSpaces
  let major ← number began
  let c ← peek
  unless c = some '.' do
    failWhile .directive began (.expectedChar "a digit or '.'" c)
  skip 1
  let _ ← number began
  let c ← peek
  unless isSpaceOrEnd c do
    failWhile .directive began (.expectedChar "a digit or ' '" c)
  return .version major

def tagHandle (began : Mark) : Scan TokenKind := do
  skipSpaces
  let handle ← handle .directive began
  let c ← peek
  unless c = some ' ' do
    failWhile .directive began (.expectedChar "' '" c)
  skipSpaces
  let start ← uri "directive" .directive began
  let c ← peek
  unless isSpaceOrEnd c do
    failWhile .directive began (.expectedChar "' '" c)
  return .tagHandle handle start

def directive : Scan TokenKind := do
  let began ← mark
  skip 1
  let name ← wordUpTo .directive began
  let c ← peek
  unless isSpaceOrEnd c do
    failWhile .directive began (.expectedChar "alphabetic or numeric character" c)
  let kind ←
    if name = "YAML" then version began
    else if name = "TAG" then tagHandle began
    else do
      skipWhile fun c => !isBreak c
      pure .otherDirective
  restOfLine .directive began
  return kind

end Scan

end Yaml

end QueryRegistry
