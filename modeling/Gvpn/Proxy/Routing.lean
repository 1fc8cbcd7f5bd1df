import Gvpn.Data.Segments
import Gvpn.Data.Text
import Gvpn.Data.Utf8

/-! Where a tunnelled connection goes, by its target and first bytes. -/

namespace Gvpn

def sniRewriteSuffixes : List Text :=
  [lit "google.com", lit "gstatic.com", lit "googleusercontent.com", lit "googleapis.com",
    lit "ggpht.com", lit "youtube.com", lit "youtu.be", lit "youtube-nocookie.com",
    lit "ytimg.com", lit "gvt1.com", lit "gvt2.com", lit "doubleclick.net",
    lit "googlesyndication.com", lit "googleadservices.com", lit "google-analytics.com",
    lit "googletagmanager.com", lit "googletagservices.com", lit "fonts.googleapis.com",
    lit "blogspot.com", lit "blogger.com"]

def youtubeRelayHosts : List Text :=
  [lit "youtube.com", lit "youtu.be", lit "youtube-nocookie.com", lit "youtubei.googleapis.com"]

def defaultDohHosts : List Text :=
  [lit "cloudflare-dns.com", lit "chrome.cloudflare-dns.com", lit "mozilla.cloudflare-dns.com",
    lit "1dot1dot1dot1.cloudflare-dns.com", lit "dns.google", lit "dns.google.com",
    lit "dns.quad9.net", lit "dns11.quad9.net", lit "dns.adguard-dns.com",
    lit "unfiltered.adguard-dns.com", lit "family.adguard-dns.com", lit "dns.nextdns.io",
    lit "doh.opendns.com", lit "doh.cleanbrowsing.org", lit "doh.dns.sb", lit "dns0.eu",
    lit "dns.alidns.com", lit "doh.pub", lit "dns.mullvad.net"]

def plainHost (host : Text) : Text := trimEndMatches (· = '.') (lower host)

def plainEntry (entry : Text) : Text := lower (trimEndMatches (· = '.') (trim entry))

def isDotAnchoredMatch (host entry : Text) : Bool :=
  host = entry || ('.' :: entry).isSuffixOf host

def matchesSniRewrite (host : Text) (youtubeViaRelay : Bool) : Bool :=
  if youtubeViaRelay && youtubeRelayHosts.any (isDotAnchoredMatch (plainHost host)) then false
  else sniRewriteSuffixes.any (isDotAnchoredMatch (plainHost host))

def parentHosts : List Text → List Text
  | [] => []
  | [_] => []
  | _ :: rest => (['.'].intercalate rest) :: parentHosts rest

def hostsOverride (hosts : List (Text × Text)) (host : Text) : Option Text :=
  (plainHost host :: parentHosts ((plainHost host).splitOn '.')).findSome? fun name =>
    hosts.lookup name

def hostMatchesDohEntry (host entry : Text) : Bool :=
  let bare := match plainEntry entry with
    | '.' :: rest => rest
    | other => other
  bare ≠ [] && isDotAnchoredMatch host bare

def matchesDohHost (host : Text) (extra : List Text) : Bool :=
  plainHost host ≠ [] && (defaultDohHosts ++ extra).any (hostMatchesDohEntry (plainHost host))

structure FrontingGroup where
  name : Text
  ip : Text
  sni : Text
  domains : List Text
  deriving DecidableEq

def FrontingGroup.domainsNormalized (group : FrontingGroup) : List Text :=
  (group.domains.map plainEntry).filter (· ≠ [])

def matchFrontingGroup (host : Text) (groups : List FrontingGroup) : Option FrontingGroup :=
  if plainHost host = [] then none
  else groups.find? fun group => group.domainsNormalized.any (isDotAnchoredMatch (plainHost host))

def isDotAnchoredBytes (host entry : Text) : Bool :=
  host = entry ||
    ((toUtf8 entry).length < (toUtf8 host).length && (toUtf8 entry).isSuffixOf (toUtf8 host) &&
      (toUtf8 host)[(toUtf8 host).length - (toUtf8 entry).length - 1]? = some 46)

def matchFrontingGroupBytes (host : Text) (groups : List FrontingGroup) : Option FrontingGroup :=
  if groups = [] then none
  else if plainHost host = [] then none
  else groups.find? fun group => group.domainsNormalized.any (isDotAnchoredBytes (plainHost host))

def matchesPassthrough (host : Text) (list : List Text) : Bool :=
  list.any fun entry =>
    match plainEntry entry with
    | [] => false
    -- Only a leading dot takes in subdomains.
    | '.' :: suffix => isDotAnchoredMatch (plainHost host) suffix
    | exact_ => plainHost host = exact_

inductive Mode where
  | appsScript
  | direct
  | full
  deriving DecidableEq

structure RewriteCtx where
  hosts : List (Text × Text)
  upstreamSocks5 : Option Text
  mode : Mode
  youtubeViaRelay : Bool
  passthroughHosts : List Text
  bypassDoh : Bool
  blockDoh : Bool
  bypassDohHosts : List Text
  frontingGroups : List FrontingGroup
  -- The relay and the multiplexer exist.
  hasFronter : Bool
  hasMux : Bool

def shouldUseSniRewrite (ctx : RewriteCtx) (host : Text) (port : Nat) : Bool :=
  port = 443 &&
    (matchesSniRewrite host ctx.youtubeViaRelay || (hostsOverride ctx.hosts host).isSome)

inductive Route where
  | rawTcp (via : Option Text)
  | fullTunnel
  | sniRewrite (group : Option FrontingGroup)
  | mitmRelay
  | httpRelay (scheme : Text)
  -- No handler gets the connection.
  | dropped
  deriving DecidableEq

inductive Peek where
  | answered
  | silent
  | failed

def looksLikeHttp (bytes : Bytes) : Bool :=
  [lit "GET ", lit "POST ", lit "PUT ", lit "HEAD ", lit "DELETE ", lit "PATCH ", lit "OPTIONS ",
    lit "CONNECT ", lit "TRACE "].any fun method => (toUtf8 method).isPrefixOf bytes

def peekBytes (stream : Segments) : Bytes := (stream.chunks.headD []).take 8

def sniffRoute (ctx : RewriteCtx) (port : Nat) (peek : Peek) (stream : Segments) : Route :=
  match peek with
  | .failed => .dropped
  | .silent => .rawTcp ctx.upstreamSocks5
  | .answered =>
    if (peekBytes stream).head? = some 0x16 then .mitmRelay
    else if looksLikeHttp (peekBytes stream) then
      .httpRelay (if port = 443 then lit "https" else lit "http")
    else .rawTcp ctx.upstreamSocks5

def dispatchTunnel (ctx : RewriteCtx) (host : Text) (port : Nat) (peek : Peek)
    (stream : Segments) : Route :=
  if matchesPassthrough host ctx.passthroughHosts then .rawTcp ctx.upstreamSocks5
  else if ctx.blockDoh && port = 443 && matchesDohHost host ctx.bypassDohHosts then .dropped
  else if ctx.bypassDoh && port = 443 && matchesDohHost host ctx.bypassDohHosts then
    .rawTcp ctx.upstreamSocks5
  else if ctx.mode = .full then (if ctx.hasMux then .fullTunnel else .dropped)
  else
    match if port = 443 then matchFrontingGroup host ctx.frontingGroups else none with
    | some group => .sniRewrite (some group)
    | none =>
      if shouldUseSniRewrite ctx host port then .sniRewrite none
      else if ctx.mode = .direct then .rawTcp ctx.upstreamSocks5
      else if ctx.hasFronter then sniffRoute ctx port peek stream
      else .rawTcp ctx.upstreamSocks5

end Gvpn
