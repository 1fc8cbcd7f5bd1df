import Gvpn.Fronter.Http

/-! The cache of responses, and how long a response may stay in it. -/

namespace Gvpn

structure CachedResponse where
  bytes : Bytes
  expires : Nat

structure ResponseCache where
  maxBytes : Nat
  entries : List (Text × CachedResponse)
  order : List Text
  size : Nat

def defaultMaxBytes : Nat := 50 * 1024 * 1024

def maxEntryFraction : Nat := 4

namespace ResponseCache

def new (maxBytes : Nat) : ResponseCache := ⟨maxBytes, [], [], 0⟩

def without (key : Text) (entries : List (Text × CachedResponse)) : List (Text × CachedResponse) :=
  entries.filter fun entry => entry.1 ≠ key

def remove (cache : ResponseCache) (key : Text) (old : CachedResponse) : ResponseCache :=
  { cache with
    entries := without key cache.entries
    order := cache.order.filter (· ≠ key)
    size := cache.size - old.bytes.length }

def get (cache : ResponseCache) (key : Text) (now : Nat) : Option Bytes × ResponseCache :=
  match cache.entries.lookup key with
  | some entry =>
    if now < entry.expires then (some entry.bytes, cache) else (none, cache.remove key entry)
  | none => (none, cache)

def makeRoom (maxBytes incoming : Nat) (entries : List (Text × CachedResponse)) (size : Nat) :
    List Text → ResponseCache
  -- Without a key left, the loop ends.
  | [] => ⟨maxBytes, entries, [], size⟩
  | oldest :: rest =>
    if maxBytes < size + incoming then
      match entries.lookup oldest with
      | some removed =>
        makeRoom maxBytes incoming (without oldest entries) (size - removed.bytes.length) rest
      | none => makeRoom maxBytes incoming entries size rest
    else ⟨maxBytes, entries, oldest :: rest, size⟩

def put (cache : ResponseCache) (key : Text) (bytes : Bytes) (ttl now : Nat) : ResponseCache :=
  if bytes.length = 0 ∨ cache.maxBytes / maxEntryFraction < bytes.length then cache
  else
    let replaced := match cache.entries.lookup key with
      | some old => cache.remove key old
      | none => cache
    let roomy := makeRoom replaced.maxBytes bytes.length replaced.entries replaced.size
      replaced.order
    { roomy with
      entries := (key, ⟨bytes, now + ttl * second⟩) :: roomy.entries
      order := roomy.order ++ [key]
      size := roomy.size + bytes.length }

end ResponseCache

def contains (needle text : Text) : Bool := (cut needle text).isSome

def staticExts : List Text :=
  [lit ".css", lit ".js", lit ".mjs", lit ".woff", lit ".woff2", lit ".ttf", lit ".otf",
    lit ".eot", lit ".png", lit ".jpg", lit ".jpeg", lit ".gif", lit ".webp", lit ".svg",
    lit ".ico", lit ".avif", lit ".mp3", lit ".mp4", lit ".wasm", lit ".webm", lit ".ogg"]

def maxAge (head : Text) : Option Nat :=
  (cut (lit "max-age=") head).bind fun parts =>
    parseUnsigned (2 ^ 64) (parts.2.takeWhile Char.isDigit)

def contentTypeTtl (head : Text) : Option Nat :=
  (cut (lit "content-type:") head).bind fun parts =>
    let kind := parts.2.takeWhile (· ≠ '\r')
    if contains (lit "image/") kind ∨ contains (lit "font/") kind then some 3600
    else if contains (lit "text/css") kind ∨ contains (lit "javascript") kind ∨
        contains (lit "application/wasm") kind then some 1800
    else none

def defaultTtl (head url : Text) : Option Nat :=
  let path := lower (url.takeWhile (· ≠ '?'))
  if staticExts.any fun ext => ext.isSuffixOf path then some 3600 else contentTypeTtl head

def headTtl (head url : Text) : Option Nat :=
  -- The line end does not matter for how a line starts.
  let firstLine := head.takeWhile (· ≠ '\n')
  if ¬ (lit "http/1.1 200").isPrefixOf firstLine ∧ ¬ (lit "http/1.0 200").isPrefixOf firstLine then
    none
  else if contains (lit "no-store") head ∨ contains (lit "no-cache") head ∨
      contains (lit "private") head then none
  else if contains (lit "set-cookie:") head then none
  else
    match maxAge head with
    | some 0 => none
    | some secs => some (min secs 86400)
    | none => defaultTtl head url

def parseTtl (rawResponse : Bytes) (url : Text) : Option Nat :=
  (cut headEnd rawResponse).bind fun parts =>
    (fromUtf8 parts.1).bind fun head => headTtl (lower head) url

end Gvpn
