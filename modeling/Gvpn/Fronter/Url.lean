import Gvpn.Data.Search
import Gvpn.Data.Text

/-! The parts of an address that decide about a relay. -/

namespace Gvpn

def before (stop : Char) (text : Text) : Text := text.takeWhile (· ≠ stop)

def afterLast (mark : Char) (text : Text) : Text :=
  (text.reverse.takeWhile (· ≠ mark)).reverse

def extractHost (url : Text) : Option Text :=
  let afterScheme := match cut (lit "://") url with
    | some (_, rest) => rest
    | none => url
  let authority := afterLast '@' (before '/' afterScheme)
  let host := match authority with
    | '[' :: inner => before ']' inner
    | _ => before ':' authority
  if host = [] then none else some (lower host)

structure ExitNodeConfig where
  enabled : Bool
  full : Bool
  hosts : List Text

def exitNodeMatches (config : ExitNodeConfig) (url : Text) : Bool :=
  config.enabled &&
    (config.full ||
      match extractHost url with
      | none => false
      | some host =>
        config.hosts.any fun entry => host = entry || ('.' :: entry).isSuffixOf host)

/-- Drop all but the first parameter of a query to one site's graph interface. -/
def normalizeXGraphqlUrl (url : Text) : Text :=
  let scheme := if (stripStart (lit "https://") url).isSome then lit "https://" else lit "http://"
  match stripStart scheme url with
  | none => url
  | some rest =>
    let host := before '/' rest
    let pathAndQuery := rest.drop host.length
    match splitOnce '?' pathAndQuery with
    | none => url
    | some (path, query) =>
      if before ':' host = lit "x.com" ∧ lit "/i/api/graphql/" <+: path ∧
          lit "variables=" <+: query then
        scheme ++ host ++ path ++ ['?'] ++ before '&' query
      else url

end Gvpn
