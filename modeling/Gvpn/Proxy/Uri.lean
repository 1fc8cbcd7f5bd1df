import Gvpn.Data.Text

/-! Absolute addresses, as a client writes them into a request. -/

namespace Gvpn

inductive UriHost where
  -- Names and IPv4 have neither colon nor bracket.
  | name (letters : Text) (named : letters ≠ [])
      (plain : ∀ c ∈ letters, c ∉ ['/', '?', '#', '@', ':', '[', ']'])
  -- Brackets keep the colons of IPv6 apart from that of the port.
  | ipv6 (address : Text) (plain : ∀ c ∈ address, c ∉ ['/', '?', '#', '@', '[', ']'])

def UriHost.text : UriHost → Text
  | .name letters _ _ => letters
  | .ipv6 address _ => '[' :: (address ++ [']'])

structure AbsoluteUri where
  scheme : Text
  userinfo : Option Text
  host : UriHost
  -- The digits of the port.
  port : Option Text
  path : Text
  query : Option Text
  known : lower scheme = lit "http" ∨ lower scheme = lit "https"
  user : ∀ letters, userinfo = some letters → ∀ c ∈ letters, c ∉ ['/', '?', '#', '@']
  numbered : ∀ digits, port = some digits →
    digits ≠ [] ∧ digits.all Char.isDigit = true ∧ readDigits digits < 2 ^ 16
  rooted : path = [] ∨ path.head? = some '/'
  -- A question mark ends the path.
  unasked : '?' ∉ path

namespace AbsoluteUri

def authority (uri : AbsoluteUri) : Text :=
  uri.userinfo.elim [] (· ++ ['@']) ++ uri.host.text ++ uri.port.elim [] (':' :: ·)

def queryText (uri : AbsoluteUri) : Text := uri.query.elim [] ('?' :: ·)

def text (uri : AbsoluteUri) : Text :=
  uri.scheme ++ lit "://" ++ uri.authority ++ uri.path ++ uri.queryText

def portNumber (uri : AbsoluteUri) : Nat :=
  match uri.port with
  | some digits => readDigits digits
  | none => if lower uri.scheme = lit "https" then 443 else 80

def originForm (uri : AbsoluteUri) : Text :=
  (if uri.path = [] then ['/'] else uri.path) ++ uri.queryText

end AbsoluteUri

end Gvpn
